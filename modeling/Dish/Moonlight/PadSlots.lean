import Mathlib.Data.List.Nodup

/-!
This module contains the set of pads a Moonlight host carries.
-/

namespace Moonlight

variable {a : String × Nat} {as : List (String × Nat)}

def kMaxPads : Nat := 4

structure PadSlots where
  assigned : List (String × Nat)
  slotsNodup : (assigned.map Prod.fst).Nodup
  numbersNodup : (assigned.map Prod.snd).Nodup
  bounded : ∀ a ∈ assigned, a.2 < kMaxPads

namespace PadSlots

def empty : PadSlots where
  assigned := []
  slotsNodup := List.nodup_nil
  numbersNodup := List.nodup_nil
  bounded := fun _ h => absurd h List.not_mem_nil

def isEmpty (p : PadSlots) : Bool :=
  p.assigned.isEmpty

def numberFor (p : PadSlots) (slotId : String) : Option Nat :=
  (p.assigned.find? fun a => a.1 = slotId).map Prod.snd

def taken (p : PadSlots) (n : Nat) : Bool :=
  p.assigned.any fun a => a.2 = n

def lowestFree (p : PadSlots) : Option Nat :=
  (List.range kMaxPads).find? fun n => !p.taken n

theorem lowestFree_eq_some {p : PadSlots} {n : Nat}
    : p.lowestFree = some n ↔
      n < kMaxPads ∧ p.taken n = false ∧ ∀ k < n, p.taken k = true := by
  simp [lowestFree, List.find?_range_eq_some, and_left_comm]

theorem taken_eq_true {p : PadSlots} {n : Nat}
    : p.taken n = true ↔ ∃ slotId, (slotId, n) ∈ p.assigned := by
  simp [taken]

theorem eq_of_slot {p : PadSlots} {b : String × Nat} (ha : a ∈ p.assigned) (hb : b ∈ p.assigned)
    (h : a.1 = b.1)
    : a = b := by
  exact List.inj_on_of_nodup_map p.slotsNodup ha hb h

theorem numberFor_eq_some {p : PadSlots} {slotId : String} {n : Nat}
    : p.numberFor slotId = some n ↔ (slotId, n) ∈ p.assigned := by
  unfold numberFor
  rw [Option.map_eq_some_iff]
  constructor
  . rintro ⟨a, hfind, rfl⟩
    have hslot : a.1 = slotId := by simpa using List.find?_some hfind
    rw [← hslot]
    exact List.mem_of_find?_eq_some hfind
  . intro hmem
    cases hfind : p.assigned.find? fun a => a.1 = slotId with
    | none => simpa using List.find?_eq_none.mp hfind _ hmem
    | some a =>
      have hslot : a.1 = slotId := by simpa using List.find?_some hfind
      have ha := eq_of_slot (List.mem_of_find?_eq_some hfind) hmem hslot
      exact ⟨a, rfl, by rw [ha]⟩

theorem numberFor_eq_none {p : PadSlots} {slotId : String}
    : p.numberFor slotId = none ↔ slotId ∉ p.assigned.map Prod.fst := by
  simp [Option.eq_none_iff_forall_ne_some, numberFor_eq_some]

theorem numberFor_lt {p : PadSlots} {slotId : String} {n : Nat} (h : p.numberFor slotId = some n)
    : n < kMaxPads := by
  exact p.bounded _ (numberFor_eq_some.mp h)

theorem slot_of_number {p : PadSlots} {slotId slotId' : String} {n : Nat}
    (h : p.numberFor slotId = some n) (h' : p.numberFor slotId' = some n)
    : slotId = slotId' := by
  have heq := List.inj_on_of_nodup_map p.numbersNodup (numberFor_eq_some.mp h)
    (numberFor_eq_some.mp h') rfl
  exact congrArg Prod.fst heq

section

variable {p : PadSlots} {slotId : String} {n : Nat}

theorem nodup_map_append {α : Type} {f : String × Nat → α} (h : (as.map f).Nodup) (ha : f a ∉ as.map f)
    : ((as ++ [a]).map f).Nodup := by
  rw [List.map_append]
  exact List.Nodup.append h (List.nodup_singleton _) (by simpa using ha)

theorem slotsNodup_add (hslot : p.numberFor slotId = none)
    : ((p.assigned ++ [(slotId, n)]).map Prod.fst).Nodup := by
  exact nodup_map_append p.slotsNodup (numberFor_eq_none.mp hslot)

theorem numbersNodup_add (hfree : p.lowestFree = some n)
    : ((p.assigned ++ [(slotId, n)]).map Prod.snd).Nodup := by
  apply nodup_map_append p.numbersNodup
  have hn := (lowestFree_eq_some.mp hfree).2.1
  rw [← Bool.not_eq_true, taken_eq_true] at hn
  simpa using hn

theorem bounded_add (hfree : p.lowestFree = some n)
    : ∀ a ∈ p.assigned ++ [(slotId, n)], a.2 < kMaxPads := by
  intro a ha
  obtain ha | rfl := by simpa using ha
  . exact p.bounded a ha
  . exact (lowestFree_eq_some.mp hfree).1

end

def add (p : PadSlots) (slotId : String) (n : Nat) (hslot : p.numberFor slotId = none)
    (hfree : p.lowestFree = some n) : PadSlots where
  assigned := p.assigned ++ [(slotId, n)]
  slotsNodup := slotsNodup_add hslot
  numbersNodup := numbersNodup_add hfree
  bounded := bounded_add hfree

def assign (p : PadSlots) (slotId : String) : Option (Nat × PadSlots) :=
  if hslot : p.numberFor slotId = none then
    match hfree : p.lowestFree with
    | some n => some (n, p.add slotId n hslot hfree)
    | none => none
  else none

def release (p : PadSlots) (slotId : String) : PadSlots where
  assigned := p.assigned.eraseP fun a => a.1 = slotId
  slotsNodup := p.slotsNodup.sublist (List.eraseP_sublist.map _)
  numbersNodup := p.numbersNodup.sublist (List.eraseP_sublist.map _)
  bounded := fun a ha => p.bounded a (List.eraseP_subset ha)

def activeMask (p : PadSlots) : BitVec 16 :=
  p.assigned.foldl (fun mask a => mask ||| 1#16 <<< a.2) 0#16

theorem assign_eq_some {p p' : PadSlots} {slotId : String} {n : Nat}
    (h : p.assign slotId = some (n, p'))
    : p.numberFor slotId = none ∧ p.lowestFree = some n ∧
      p'.assigned = p.assigned ++ [(slotId, n)] := by
  unfold assign at h
  split at h
  next hslot =>
    split at h
    next n' hfree =>
      cases h
      exact ⟨hslot, hfree, rfl⟩
    next => contradiction
  next => contradiction

theorem numberFor_of_assign {p p' : PadSlots} {slotId : String} {n : Nat}
    (h : p.assign slotId = some (n, p')) (slotId' : String)
    : p'.numberFor slotId' = if slotId' = slotId then some n else p.numberFor slotId' := by
  obtain ⟨hslot, _, hassigned⟩ := assign_eq_some h
  apply Option.ext
  intro k
  rw [numberFor_eq_some, hassigned]
  split
  next heq =>
    subst heq
    have hnone : (slotId', k) ∉ p.assigned := by
      rw [← numberFor_eq_some, hslot]
      simp
    simp [hnone, eq_comm]
  next hne => simp [numberFor_eq_some, hne]

theorem mem_eraseP (h : (as.map Prod.fst).Nodup) {slotId : String}
    : a ∈ as.eraseP (fun a => a.1 = slotId) ↔ a ∈ as ∧ a.1 ≠ slotId := by
  induction as with
  | nil => simp
  | cons b bs ih =>
    rw [List.map_cons, List.nodup_cons] at h
    by_cases hb : b.1 = slotId
    . -- The slot was found: its number is the only one it had.
      rw [List.eraseP_cons_of_pos (by simpa using hb)]
      constructor
      . intro ha
        refine ⟨List.mem_cons_of_mem _ ha, ?_⟩
        intro hslot
        apply h.1
        rw [hb, ← hslot]
        exact List.mem_map_of_mem ha
      . rintro ⟨ha, hslot⟩
        refine (List.mem_cons.mp ha).resolve_left ?_
        rintro rfl
        exact hslot hb
    . rw [List.eraseP_cons_of_neg (by simpa using hb)]
      rw [List.mem_cons, List.mem_cons, ih h.2]
      constructor
      . rintro (rfl | ⟨ha, hslot⟩)
        . exact ⟨.inl rfl, hb⟩
        . exact ⟨.inr ha, hslot⟩
      . rintro ⟨rfl | ha, hslot⟩
        . exact .inl rfl
        . exact .inr ⟨ha, hslot⟩

theorem numberFor_release (p : PadSlots) (slotId slotId' : String)
    : (p.release slotId).numberFor slotId' =
      if slotId' = slotId then none else p.numberFor slotId' := by
  apply Option.ext
  intro k
  rw [numberFor_eq_some, release, mem_eraseP p.slotsNodup]
  split
  next heq => simp [heq]
  next hne => simp [numberFor_eq_some, hne]

theorem getLsbD_foldl (h : ∀ a ∈ as, a.2 < kMaxPads) (mask : BitVec 16) (k : Nat)
    : (as.foldl (fun mask a => mask ||| 1#16 <<< a.2) mask).getLsbD k =
      (mask.getLsbD k || as.any fun a => a.2 = k) := by
  induction as generalizing mask with
  | nil => simp
  | cons a as ih =>
    have ha : a.2 < kMaxPads := h a (by simp)
    rw [List.foldl_cons, ih (fun b hb => h b (List.mem_cons_of_mem _ hb))]
    have hbit : (1#16 <<< a.2).getLsbD k = decide (a.2 = k) := by
      rw [← BitVec.twoPow_eq, BitVec.getLsbD_twoPow]
      unfold kMaxPads at ha
      have hlt : a.2 < 16 := by omega
      simp [hlt]
    rw [BitVec.getLsbD_or, hbit, List.any_cons, Bool.or_assoc]

theorem getLsbD_activeMask (p : PadSlots) (k : Nat)
    : p.activeMask.getLsbD k = true ↔ ∃ slotId, p.numberFor slotId = some k := by
  rw [activeMask, getLsbD_foldl p.bounded]
  simp [numberFor_eq_some]

end PadSlots

end Moonlight
