import Mathlib.Logic.Function.Basic
import Mathlib.Data.List.FinRange

/-!
This module contains the table of input devices.
-/

namespace Input

abbrev kMaxDevices : Nat := 64

def kMaxIdBytes : Nat := 63

structure DeviceState where
  wButtons : UInt16 := 0
  lt : UInt8 := 0
  rt : UInt8 := 0
  lx : Int16 := 0
  ly : Int16 := 0
  rx : Int16 := 0
  ry : Int16 := 0
  deriving DecidableEq

structure Deadzones where
  stickFlat : Int16 := 0
  triggerFlat : UInt8 := 0
  deriving DecidableEq

def applyStick (v flat : Int16) : Int16 :=
  if (v.toInt.natAbs : Int) ≤ flat.toInt then 0 else v

def applyTrigger (v flat : UInt8) : UInt8 :=
  if v ≤ flat then 0 else v

def applyDeadzones (state : DeviceState) (dz : Deadzones) : DeviceState where
  wButtons := state.wButtons
  lt := applyTrigger state.lt dz.triggerFlat
  rt := applyTrigger state.rt dz.triggerFlat
  lx := applyStick state.lx dz.stickFlat
  ly := applyStick state.ly dz.stickFlat
  rx := applyStick state.rx dz.stickFlat
  ry := applyStick state.ry dz.stickFlat

structure Record where
  id : Option String := none
  plugGen : UInt32 := 0
  deadzones : Deadzones := {}
  ownGen : UInt32 := 0
  forwarded : Bool := false
  lastForwarded : DeviceState := {}
  deriving DecidableEq

def Record.syncOwner (r : Record) : Record :=
  if r.plugGen ≠ r.ownGen then
    { r with ownGen := r.plugGen, forwarded := false, lastForwarded := {} }
  else r

@[simp, grind =]
theorem Record.id_syncOwner (r : Record) : r.syncOwner.id = r.id := by
  unfold syncOwner
  split <;> rfl

@[simp, grind =]
theorem Record.deadzones_syncOwner (r : Record) : r.syncOwner.deadzones = r.deadzones := by
  unfold syncOwner
  split <;> rfl

theorem Record.owned_syncOwner (r : Record) : r.syncOwner.plugGen = r.syncOwner.ownGen := by
  unfold syncOwner
  split
  . rfl
  next h => exact not_ne_iff.mp h

theorem Record.syncOwner_of_owned {r : Record} (h : r.plugGen = r.ownGen) : r.syncOwner = r := by
  simp [syncOwner, h]

structure GamepadInputProcessor where
  records : Fin kMaxDevices → Record := fun _ => {}

namespace GamepadInputProcessor

def find (p : GamepadInputProcessor) (id : String) : Option (Fin kMaxDevices) :=
  (List.finRange kMaxDevices).find? fun i => (p.records i).id = some id

def firstFree (p : GamepadInputProcessor) : Option (Fin kMaxDevices) :=
  (List.finRange kMaxDevices).find? fun i => (p.records i).id = none

def setRecord (p : GamepadInputProcessor) (i : Fin kMaxDevices) (r : Record)
    : GamepadInputProcessor where
  records := Function.update p.records i r

def add (p : GamepadInputProcessor) (id : String)
    : Option (Fin kMaxDevices) × GamepadInputProcessor :=
  if id.utf8ByteSize > kMaxIdBytes then (none, p)
  else
    match p.find id with
    | some known => (some known, p)
    | none =>
      match p.firstFree with
      | some i =>
        let r := p.records i
        (some i, p.setRecord i { r with id := some id, plugGen := r.plugGen + 1 })
      | none => (none, p)

def remove (p : GamepadInputProcessor) (id : String) : GamepadInputProcessor :=
  match p.find id with
  | some i =>
    let r := p.records i
    p.setRecord i { r with id := none, deadzones := {}, plugGen := r.plugGen + 1 }
  | none => p

def setDeadzones (p : GamepadInputProcessor) (id : String) (dz : Deadzones)
    : GamepadInputProcessor :=
  match p.add id with
  | (some i, p) => p.setRecord i { p.records i with deadzones := dz }
  | (none, p) => p

def publish (p : GamepadInputProcessor) (i : Fin kMaxDevices) (state : DeviceState)
    : GamepadInputProcessor × Option DeviceState :=
  let r := (p.records i).syncOwner
  let filtered := applyDeadzones state r.deadzones
  if r.forwarded ∧ r.lastForwarded = filtered then (p.setRecord i r, none)
  else (p.setRecord i { r with forwarded := true, lastForwarded := filtered }, some filtered)

section

variable {p : GamepadInputProcessor} {id : String} {i : Fin kMaxDevices}

theorem find_some (h : p.find id = some i) : (p.records i).id = some id := by
  simpa using List.find?_some h

theorem find_eq_none : p.find id = none ↔ ∀ i, (p.records i).id ≠ some id := by
  simp [find]

theorem firstFree_some (h : p.firstFree = some i) : (p.records i).id = none := by
  simpa using List.find?_some h

def Distinct (p : GamepadInputProcessor) : Prop :=
  ∀ i j id, (p.records i).id = some id → (p.records j).id = some id → i = j

theorem add_cases (p : GamepadInputProcessor) (id : String)
    : ((p.add id).2 = p ∧ ∀ i, (p.add id).1 = some i → (p.records i).id = some id) ∨
      ∃ i, (p.records i).id = none ∧ (∀ j, (p.records j).id ≠ some id) ∧
        p.add id = (some i,
          p.setRecord i { p.records i with id := some id, plugGen := (p.records i).plugGen + 1 }) := by
  unfold add
  split
  . exact .inl ⟨rfl, by simp⟩
  . split
    next hfind =>
      refine .inl ⟨rfl, ?_⟩
      rintro i ⟨⟩
      exact find_some hfind
    next hfind =>
      split
      next i hfree => exact .inr ⟨i, firstFree_some hfree, find_eq_none.mp hfind, rfl⟩
      . exact .inl ⟨rfl, by simp⟩

theorem ids_add (p : GamepadInputProcessor) (id : String)
    : (p.add id).2 = p ∨
      ∃ i, (p.records i).id = none ∧ (∀ j, (p.records j).id ≠ some id) ∧
        ∀ j, ((p.add id).2.records j).id = if j = i then some id else (p.records j).id := by
  rcases add_cases p id with ⟨heq, _⟩ | ⟨i, hfree, hnew, heq⟩
  . exact .inl heq
  . refine .inr ⟨i, hfree, hnew, ?_⟩
    intro j
    rw [heq]
    by_cases hj : j = i
    . simp [hj, setRecord]
    . simp [hj, setRecord]

theorem id_add (h : (p.add id).1 = some i) : ((p.add id).2.records i).id = some id := by
  rcases add_cases p id with ⟨heq, hindex⟩ | ⟨j, _, _, heq⟩
  . rw [heq]
    exact hindex i h
  . rw [heq] at h ⊢
    cases h
    simp [setRecord]

theorem records_add {id' : String} (h : (p.records i).id = some id')
    : (p.add id).2.records i = p.records i := by
  rcases add_cases p id with ⟨heq, _⟩ | ⟨j, hfree, _, heq⟩
  . rw [heq]
  . have hj : i ≠ j := by
      rintro rfl
      simp [h] at hfree
    simp [heq, setRecord, hj]

theorem records_add_free (h : ((p.add id).2.records i).id = none)
    : (p.add id).2.records i = p.records i := by
  rcases add_cases p id with ⟨heq, _⟩ | ⟨j, _, _, heq⟩
  . rw [heq]
  . rw [heq] at h ⊢
    have hj : i ≠ j := by
      rintro rfl
      simp [setRecord] at h
    simp [setRecord, hj]

theorem Distinct.add (h : p.Distinct) (id : String) : (p.add id).2.Distinct := by
  rcases ids_add p id with heq | ⟨i, _, hnew, hids⟩
  . rw [heq]
    exact h
  . intro j k id' hj hk
    rw [hids] at hj hk
    grind [h j k id']

theorem live_add {id' : String} (h : ((p.add id).2.records i).id = some id')
    : (∃ j, (p.records j).id = some id') ∨ id' = id := by
  rcases ids_add p id with heq | ⟨j, _, _, hids⟩
  . rw [heq] at h
    exact .inl ⟨i, h⟩
  . rw [hids] at h
    grind

theorem add_add : ((p.add id).2.add id).2 = (p.add id).2 := by
  rcases add_cases p id with ⟨heq, _⟩ | ⟨i, _, _, heq⟩
  . rw [heq, heq]
  . have hknown : ((p.add id).2.records i).id = some id := id_add (by rw [heq])
    rcases add_cases (p.add id).2 id with ⟨heq', _⟩ | ⟨_, _, hnew, _⟩
    . exact heq'
    . exact absurd hknown (hnew i)

theorem records_setDeadzones (dz : Deadzones) (j : Fin kMaxDevices)
    : (p.setDeadzones id dz).records j = (p.add id).2.records j ∨
      ((p.add id).2.records j).id = some id ∧
        (p.setDeadzones id dz).records j = { (p.add id).2.records j with deadzones := dz } := by
  unfold setDeadzones
  split
  next i p' heq =>
    have hi : ((p.add id).2.records i).id = some id := id_add (by rw [heq])
    rw [heq] at hi ⊢
    by_cases hj : j = i
    . subst hj
      exact .inr ⟨hi, by simp [setRecord]⟩
    . exact .inl (by simp [setRecord, hj])
  next heq => exact .inl (by rw [heq])

theorem ids_setDeadzones (dz : Deadzones) (j : Fin kMaxDevices)
    : ((p.setDeadzones id dz).records j).id = ((p.add id).2.records j).id := by
  rcases records_setDeadzones dz j with heq | ⟨_, heq⟩
  . rw [heq]
  . rw [heq]

theorem records_publish (state : DeviceState) (j : Fin kMaxDevices)
    : (p.publish i state).1.records j =
      if j = i then
        { (p.records i).syncOwner with
          forwarded := true
          lastForwarded := applyDeadzones state (p.records i).syncOwner.deadzones }
      else p.records j := by
  unfold publish
  by_cases hj : j = i
  . rw [hj, if_pos rfl]
    dsimp only
    split
    next h =>
      simp only [setRecord, Function.update_self]
      rw [← h.1, ← h.2]
    . simp [setRecord]
  . rw [if_neg hj]
    dsimp only
    split <;> simp [setRecord, hj]

theorem publish_snd (state : DeviceState)
    : (p.publish i state).2 =
      let r := (p.records i).syncOwner
      let filtered := applyDeadzones state r.deadzones
      if r.forwarded ∧ r.lastForwarded = filtered then none else some filtered := by
  unfold publish
  dsimp only
  split <;> rfl

theorem Distinct.of_ids {p' : GamepadInputProcessor} (h : p.Distinct)
    (hids : ∀ j, (p'.records j).id = (p.records j).id)
    : p'.Distinct := by
  intro i j id hi hj
  rw [hids] at hi hj
  exact h i j id hi hj

theorem Distinct.ids_remove (h : p.Distinct) (id : String) (j : Fin kMaxDevices)
    : ((p.remove id).records j).id =
      if (p.records j).id = some id then none else (p.records j).id := by
  unfold remove
  split
  next i hfind =>
    have hi := find_some hfind
    by_cases hj : j = i
    . simp [hj, setRecord, hi]
    . have hother : (p.records j).id ≠ some id := fun hid => hj (h j i id hid hi)
      simp [setRecord, hj, hother]
  next hfind => rw [if_neg (find_eq_none.mp hfind j)]

theorem Distinct.remove (h : p.Distinct) (id : String) : (p.remove id).Distinct := by
  intro i j id' hi hj
  rw [h.ids_remove] at hi hj
  grind [h i j id']

end

end GamepadInputProcessor

end Input
