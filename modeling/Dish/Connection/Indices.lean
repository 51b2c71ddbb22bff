import Dish.Connection.Basic
import Dish.Lib.Transition
import Mathlib.Data.List.Nodup
import Mathlib.Order.Bounds.Defs

/-!
This module contains the controller indices of a connection over its attaches and detaches.
-/

open Std Transition

namespace Connection

namespace WifiConnection

variable {b : SlotBinding}

variable {id : String} {c c' : WifiConnection id} {slotId : String}

def detachBoundSlot (c : WifiConnection id) : WifiConnection id :=
  match c.boundSlotId with
  | none => c
  | some slotId => (c.detachSlot slotId).1

inductive SlotCall where
  | attach (slotId : String) (features : SlotFeatures)
  | detach (slotId : String)
  | detachBound

def slotStep (c : WifiConnection id) : SlotCall → Option (WifiConnection id)
  | .attach slotId features => some (c.attachSlot slotId features).1
  | .detach slotId => some (c.detachSlot slotId).1
  | .detachBound => some c.detachBoundSlot

def freeIndexFrom (c : WifiConnection id) : (turns i : Nat) → Option Nat
  | 0, _ => none
  | turns + 1, i => if c.isTaken i then c.freeIndexFrom turns (i + 1) else some i

def freeIndices (c : WifiConnection id) : Set Nat :=
  { i | ∀ (slotId : String) (b : SlotBinding), c.slots[slotId]? = some b → b.controllerIndex ≠ i }

def IndicesDistinct (c : WifiConnection id) : Prop :=
  ∀ (slotId slotId' : String) (b b' : SlotBinding), c.slots[slotId]? = some b →
    c.slots[slotId']? = some b' → b.controllerIndex = b'.controllerIndex → slotId = slotId'

def Keeps (slotId : String) (c : WifiConnection id) : SlotCall → Prop
  | .attach _ _ => True
  | .detach other => other ≠ slotId
  | .detachBound => c.boundSlotId ≠ some slotId

theorem isTaken_iff (c : WifiConnection id) (i : Nat)
    : c.isTaken i = true ↔
        ∃ (slotId : String) (b : SlotBinding), c.slots[slotId]? = some b ∧ b.controllerIndex = i := by
  simp [isTaken, bindings, TreeMap.mem_toList_iff_getElem?_eq_some]

theorem mem_freeIndices (c : WifiConnection id) (i : Nat)
    : i ∈ c.freeIndices ↔ c.isTaken i = false := by
  rw [← Bool.not_eq_true, isTaken_iff]
  simp [freeIndices]

theorem length_bindings (c : WifiConnection id) : c.bindings.length = c.slots.size := by
  simp [bindings, TreeMap.length_toList]

theorem exists_free (c : WifiConnection id)
    : ∃ i, i ≤ c.slots.size ∧ c.isTaken i = false := by
  by_contra hnone
  push Not at hnone
  have hsub : List.range (c.slots.size + 1) ⊆ c.bindings.map (·.controllerIndex) := by
    intro i hi
    have htaken : c.isTaken i = true := by
      simpa using hnone i (by rw [List.mem_range] at hi; omega)
    simpa [isTaken] using htaken
  have hlength := (List.subperm_of_subset List.nodup_range hsub).length_le
  rw [List.length_range, List.length_map, length_bindings] at hlength
  omega

theorem lowestFreeIndex_eq_find (c : WifiConnection id)
    : (List.range (c.bindings.length + 1)).find? (fun i => !c.isTaken i) =
        some c.lowestFreeIndex := by
  unfold lowestFreeIndex
  cases hfind : (List.range (c.bindings.length + 1)).find? fun i => !c.isTaken i with
  | some i => rfl
  | none =>
    obtain ⟨i, hle, hfree⟩ := c.exists_free
    rw [← length_bindings] at hle
    have htaken := List.find?_eq_none.mp hfind i (by rw [List.mem_range]; omega)
    simp [hfree] at htaken

theorem isLeast_lowestFreeIndex (c : WifiConnection id)
    : IsLeast c.freeIndices c.lowestFreeIndex := by
  have hfind := c.lowestFreeIndex_eq_find
  rw [List.find?_range_eq_some] at hfind
  obtain ⟨hfree, _, hbelow⟩ := hfind
  constructor
  . rw [mem_freeIndices]
    simpa using hfree
  . intro i hi
    rw [mem_freeIndices] at hi
    by_contra hlt
    have htaken := hbelow i (by omega)
    simp [hi] at htaken

theorem lowestFreeIndex_le (c : WifiConnection id) : c.lowestFreeIndex ≤ c.slots.size := by
  obtain ⟨i, hle, hfree⟩ := c.exists_free
  have hleast := c.isLeast_lowestFreeIndex.2 ((c.mem_freeIndices i).mpr hfree)
  omega

theorem freeIndexFrom_eq (c : WifiConnection id) {turns i : Nat} (hi : i ≤ c.lowestFreeIndex)
    (hturns : c.lowestFreeIndex < i + turns)
    : c.freeIndexFrom turns i = some c.lowestFreeIndex := by
  induction turns generalizing i with
  | zero => omega
  | succ turns ih =>
    rw [freeIndexFrom]
    by_cases hfree : c.isTaken i = true
    . have hne : i ≠ c.lowestFreeIndex := by
        rintro rfl
        have hmem := c.isLeast_lowestFreeIndex.1
        rw [mem_freeIndices, hfree] at hmem
        cases hmem
      rw [if_pos hfree]
      exact ih (by omega) (by omega)
    . rw [Bool.not_eq_true] at hfree
      have hleast := c.isLeast_lowestFreeIndex.2 ((c.mem_freeIndices i).mpr hfree)
      have heq : i = c.lowestFreeIndex := by omega
      rw [if_neg (by simp [hfree]), heq]

theorem slots_attachSlot_self (c : WifiConnection id) (slotId : String) (features : SlotFeatures)
    : ∃ b, (c.attachSlot slotId features).1.slots[slotId]? = some b ∧
        b.controllerIndex = ((c.slots[slotId]?).map (·.controllerIndex)).getD c.lowestFreeIndex := by
  unfold attachSlot
  cases hslot : c.slots[slotId]? with
  | none | some b => exact ⟨_, TreeMap.getElem?_insert_self, rfl⟩

theorem slots_attachSlot_of_ne (c : WifiConnection id) (features : SlotFeatures) {other : String}
    (h : other ≠ slotId)
    : (c.attachSlot slotId features).1.slots[other]? = c.slots[other]? := by
  unfold attachSlot
  cases hslot : c.slots[slotId]? with
  | none => simp [TreeMap.getElem?_insert, Ne.symm h]
  | some b => simp [TreeMap.getElem?_insert, Ne.symm h]

theorem slots_detachSlot (c : WifiConnection id) (slotId other : String)
    : (c.detachSlot slotId).1.slots[other]? = if other = slotId then none else c.slots[other]? := by
  unfold detachSlot
  cases hslot : c.slots[slotId]? with
  | none =>
    by_cases hother : other = slotId
    . simp [hother, hslot]
    . simp [hother]
  | some b =>
    by_cases hother : other = slotId
    . simp [hother]
    . simp [TreeMap.getElem?_erase, hother, Ne.symm hother]

theorem index_slotStep {call : SlotCall} (hstep : c.slotStep call = some c')
    (hb : c'.slots[slotId]? = some b)
    : (∃ old, c.slots[slotId]? = some old ∧ b.controllerIndex = old.controllerIndex) ∨
        c.slots[slotId]? = none ∧ b.controllerIndex = c.lowestFreeIndex ∧
          ∀ other, other ≠ slotId → c'.slots[other]? = c.slots[other]? := by
  have hdetach {target : String} (h : (c.detachSlot target).1.slots[slotId]? = some b)
      : c.slots[slotId]? = some b := by
    rw [slots_detachSlot] at h
    split at h
    . cases h
    . exact h
  cases call with
  | attach target features =>
    cases hstep
    by_cases htarget : slotId = target
    . subst htarget
      obtain ⟨b', hb', hindex⟩ := c.slots_attachSlot_self slotId features
      rw [hb] at hb'
      cases hb'
      cases hslot : c.slots[slotId]? with
      | none =>
        rw [hslot] at hindex
        exact .inr ⟨rfl, hindex, fun other h => c.slots_attachSlot_of_ne features h⟩
      | some old =>
        rw [hslot] at hindex
        exact .inl ⟨old, rfl, hindex⟩
    . rw [c.slots_attachSlot_of_ne features htarget] at hb
      exact .inl ⟨b, hb, rfl⟩
  | detach target =>
    cases hstep
    exact .inl ⟨b, hdetach hb, rfl⟩
  | detachBound =>
    cases hstep
    unfold detachBoundSlot at hb
    split at hb
    . exact .inl ⟨b, hb, rfl⟩
    . exact .inl ⟨b, hdetach hb, rfl⟩

theorem IndicesDistinct.step {call : SlotCall} (h : c.IndicesDistinct)
    (hstep : c.slotStep call = some c')
    : c'.IndicesDistinct := by
  -- a new slot has an index that no slot of the old connection has
  have hnew {slotId slotId' : String} {b b' old : SlotBinding}
      (hold : c.slots[slotId']? = some old) (hold' : b'.controllerIndex = old.controllerIndex)
      (hfresh : b.controllerIndex = c.lowestFreeIndex)
      (hsame : b.controllerIndex = b'.controllerIndex) : slotId = slotId' := by
    have hfree := c.isLeast_lowestFreeIndex.1 slotId' old hold
    rw [← hold', ← hsame, hfresh] at hfree
    exact absurd rfl hfree
  intro slotId slotId' b b' hb hb' hsame
  rcases index_slotStep hstep hb with ⟨old, hold, hindex⟩ | ⟨hnone, hindex, hothers⟩
  . rcases index_slotStep hstep hb' with ⟨old', hold', hindex'⟩ | ⟨_, hindex', _⟩
    . apply h slotId slotId' old old' hold hold'
      rw [← hindex, ← hindex', hsame]
    . exact (hnew hold hindex hindex' hsame.symm).symm
  . by_contra hne
    have hold' : c.slots[slotId']? = some b' := by
      rw [← hothers slotId' (Ne.symm hne)]
      exact hb'
    exact hne (hnew hold' rfl hindex hsame)

theorem slots_of_keeps {call : SlotCall} (hkeeps : c.Keeps slotId call)
    (hstep : c.slotStep call = some c') (hb : c.slots[slotId]? = some b)
    : ∃ b', c'.slots[slotId]? = some b' ∧ b'.controllerIndex = b.controllerIndex := by
  cases call with
  | attach target features =>
    cases hstep
    by_cases htarget : slotId = target
    . subst htarget
      obtain ⟨b', hb', hindex⟩ := c.slots_attachSlot_self slotId features
      rw [hb] at hindex
      exact ⟨b', hb', hindex⟩
    . rw [c.slots_attachSlot_of_ne features htarget]
      exact ⟨b, hb, rfl⟩
  | detach target =>
    cases hstep
    rw [slots_detachSlot, if_neg (Ne.symm hkeeps)]
    exact ⟨b, hb, rfl⟩
  | detachBound =>
    cases hstep
    unfold detachBoundSlot
    split
    . exact ⟨b, hb, rfl⟩
    . next bound hbound =>
      have hne : slotId ≠ bound := by
        rintro rfl
        exact hkeeps hbound
      rw [slots_detachSlot, if_neg hne]
      exact ⟨b, hb, rfl⟩

theorem index_of_keeps {calls : List SlotCall}
    (hkeeps : Along slotStep (Keeps slotId) c calls)
    (hrun : Transition.run slotStep c calls = some c')
    (hb : c.slots[slotId]? = some b)
    : ∃ b', c'.slots[slotId]? = some b' ∧ b'.controllerIndex = b.controllerIndex := by
  apply invariant_of_along (I := fun c : WifiConnection id =>
    ∃ b', c.slots[slotId]? = some b' ∧ b'.controllerIndex = b.controllerIndex) _ _ hkeeps hrun
  . rintro s call s' ⟨b', hb', hindex⟩ hkeep hstep
    obtain ⟨b'', hb'', hindex'⟩ := slots_of_keeps hkeep hstep hb'
    exact ⟨b'', hb'', hindex'.trans hindex⟩
  . exact ⟨b, hb, rfl⟩

theorem indices_of_run (c c' : WifiConnection id) (calls : List SlotCall)
    (hstart : c.IndicesDistinct) (hrun : Transition.run slotStep c calls = some c')
    : c'.IndicesDistinct ∧
      (∀ slotId features, c'.slots[slotId]? = none →
        ∃ b, (c'.attachSlot slotId features).1.slots[slotId]? = some b ∧
          IsLeast c'.freeIndices b.controllerIndex) ∧
      (∀ (slotId : String) (b : SlotBinding) more c'', c'.slots[slotId]? = some b →
        Along slotStep (Keeps slotId) c' more →
        Transition.run slotStep c' more = some c'' →
        ∃ b', c''.slots[slotId]? = some b' ∧ b'.controllerIndex = b.controllerIndex) ∧
      c'.lowestFreeIndex ≤ c'.slots.size ∧
      ∀ turns, c'.slots.size < turns → c'.freeIndexFrom turns 0 = some c'.lowestFreeIndex := by
  refine ⟨?_, ?_, ?_, c'.lowestFreeIndex_le, ?_⟩
  . apply invariant_of_run (I := IndicesDistinct) _ hstart hrun
    intro s call s' hs hstep
    exact hs.step hstep
  . intro slotId features hnone
    obtain ⟨b, hb, hindex⟩ := c'.slots_attachSlot_self slotId features
    rw [hnone] at hindex
    refine ⟨b, hb, ?_⟩
    rw [hindex]
    exact c'.isLeast_lowestFreeIndex
  . intro slotId b more c'' hb hkeeps hmore
    exact index_of_keeps hkeeps hmore hb
  . intro turns hturns
    have hle := c'.lowestFreeIndex_le
    exact c'.freeIndexFrom_eq (Nat.zero_le _) (by omega)

def denServer : Models.DiscoveredServer := { name := "Den", ip := "10.0.0.7", machineId := "den" }

def freshConnection : WifiConnection denServer.id where
  obj := 0
  server := ServerOf.self denServer

def threePads : List SlotCall :=
  [.attach "pad0" {}, .attach "pad1" {}, .attach "pad2" {}, .detach "pad0", .detachBound]

theorem indices_of_run_threePads
    : ∃ c', Transition.run slotStep freshConnection threePads = some c' ∧ c'.IndicesDistinct ∧
        c'.lowestFreeIndex ≤ c'.slots.size := by
  have hstart : freshConnection.IndicesDistinct := by
    intro slotId slotId' b b' hb
    simp [freshConnection] at hb
  have hany : (Transition.run slotStep freshConnection threePads).any (fun _ => true) = true := by
    rfl
  obtain ⟨c', hrun, _⟩ := exists_run_of_any hany
  have hresult := indices_of_run freshConnection c' threePads hstart hrun
  exact ⟨c', hrun, hresult.1, hresult.2.2.2.1⟩

end WifiConnection

end Connection
