import Dish.Reducer.Reconcile
import Mathlib.Data.Finset.Card

/-!
This module contains what `appliedMatchesDesired` decides.
-/

namespace Reducer

def activeIndices (applied : List AppliedSlot) : List UInt8 :=
  (applied.filter (·.active)).map (·.ctrlIdx)

structure Agrees (a : AppliedSlot) (want : DesiredSlot) : Prop where
  type : a.appliedType = want.type
  touchpadMode : ∀ mode, a.touchpadMode = some mode → mode = want.touchpadMode

structure Matches (desired : List DesiredSlot) (applied : List AppliedSlot) : Prop where
  indices : (activeIndices applied).toFinset = (desired.map (·.ctrlIdx)).toFinset
  agree : ∀ a ∈ applied, a.active = true →
    ∀ want ∈ desired, want.ctrlIdx = a.ctrlIdx → Agrees a want

variable {desired : List DesiredSlot} {applied : List AppliedSlot}

theorem entryAt_eq_some (hdistinct : (desired.map (·.ctrlIdx)).Nodup) {ctrlIdx : UInt8}
    {want : DesiredSlot}
    : entryAt desired ctrlIdx = some want ↔ want ∈ desired ∧ want.ctrlIdx = ctrlIdx := by
  unfold entryAt
  constructor
  . intro h
    have hmem := List.mem_of_find?_eq_some h
    have hidx := List.find?_some h
    exact ⟨by simpa using hmem, by simpa using hidx⟩
  . rintro ⟨hmem, hidx⟩
    cases hfind : desired.reverse.find? fun s => s.ctrlIdx = ctrlIdx with
    | none =>
      have hnone := List.find?_eq_none.mp hfind want (by simpa using hmem)
      simp [hidx] at hnone
    | some found =>
      have hfound : found ∈ desired := by simpa using List.mem_of_find?_eq_some hfind
      have hsame : found.ctrlIdx = want.ctrlIdx := by
        rw [hidx]
        simpa using List.find?_some hfind
      rw [List.inj_on_of_nodup_map hdistinct hfound hmem hsame]

theorem entryAt_isSome (desired : List DesiredSlot) (ctrlIdx : UInt8)
    : (entryAt desired ctrlIdx).isSome ↔ ctrlIdx ∈ desired.map (·.ctrlIdx) := by
  unfold entryAt
  simp [List.find?_isSome]

theorem entryCount_of_distinct (hdistinct : (desired.map (·.ctrlIdx)).Nodup)
    : entryCount desired = (desired.map (·.ctrlIdx)).length := by
  unfold entryCount
  rw [hdistinct.dedup]

theorem agrees_iff (a : AppliedSlot) (want : DesiredSlot)
    : Agrees a want ↔ ¬want.type ≠ a.appliedType ∧
        ¬(a.touchpadMode.isSome ∧ a.touchpadMode ≠ some want.touchpadMode) := by
  constructor
  . intro h
    refine ⟨fun hne => hne h.type.symm, ?_⟩
    rintro ⟨hsome, hne⟩
    obtain ⟨mode, hmode⟩ := Option.isSome_iff_exists.mp hsome
    rw [hmode, h.touchpadMode mode hmode] at hne
    exact hne rfl
  . rintro ⟨htype, hmode⟩
    refine ⟨(not_not.mp htype).symm, ?_⟩
    intro mode hsome
    simpa [hsome] using hmode

theorem go_eq_true (applied : List AppliedSlot) (activeCount : Nat)
    : appliedMatchesDesired.go desired applied activeCount = true ↔
        (∀ a ∈ applied, a.active = true →
          ∃ want, entryAt desired a.ctrlIdx = some want ∧ Agrees a want) ∧
        activeCount + (activeIndices applied).length = entryCount desired := by
  induction applied generalizing activeCount with
  | nil => simp [appliedMatchesDesired.go, activeIndices]
  | cons a rest ih =>
    rw [appliedMatchesDesired.go]
    by_cases hactive : a.active = true
    . have hlength : (activeIndices (a :: rest)).length = (activeIndices rest).length + 1 := by
        simp [activeIndices, hactive]
      rw [if_pos hactive, hlength]
      cases hentry : entryAt desired a.ctrlIdx with
      | none => simp [hentry, hactive]
      | some want =>
        dsimp only
        by_cases hagrees : Agrees a want
        . obtain ⟨htype, hmode⟩ := (agrees_iff a want).mp hagrees
          rw [if_neg htype, if_neg hmode, ih]
          simp only [List.mem_cons, forall_eq_or_imp]
          have hcount : activeCount + 1 + (activeIndices rest).length = entryCount desired ↔
              activeCount + ((activeIndices rest).length + 1) = entryCount desired := by omega
          rw [hcount]
          simp [hentry, hagrees]
        . have hfalse : ¬(∃ w, some want = some w ∧ Agrees a w) := by
            rintro ⟨w, hw, hagrees'⟩
            cases hw
            exact hagrees hagrees'
          rw [agrees_iff, not_and_or, not_not, not_not] at hagrees
          simp only [List.mem_cons, forall_eq_or_imp, hentry, hactive, forall_const, hfalse,
            false_and, iff_false]
          rcases hagrees with htype | hmode
          . simp [htype]
          . split
            . simp
            . simp
    . have hsame : activeIndices (a :: rest) = activeIndices rest := by
        simp [activeIndices, hactive]
      rw [if_neg hactive, ih, hsame]
      simp [hactive]

def ActiveOnce (applied : List AppliedSlot) : Prop :=
  (activeIndices applied).Nodup

instance decidableActiveOnce (applied : List AppliedSlot) : Decidable (ActiveOnce applied) :=
  inferInstanceAs (Decidable (activeIndices applied).Nodup)

theorem mem_activeIndices {ctrlIdx : UInt8}
    : ctrlIdx ∈ activeIndices applied ↔ ∃ a ∈ applied, a.active = true ∧ a.ctrlIdx = ctrlIdx := by
  simp [activeIndices, and_assoc]

def twoPads : List DesiredSlot :=
  [{ ctrlIdx := 0, type := 0 }, { ctrlIdx := 1, type := 2, touchpadMode := 1 }]

def twoPadsApplied : List AppliedSlot :=
  [
    { ctrlIdx := 1, appliedType := 2, touchpadMode := some 1 },
    { ctrlIdx := 5, appliedType := 0, active := false, touchpadMode := none },
    { ctrlIdx := 0, appliedType := 0, touchpadMode := none }
  ]

end Reducer
