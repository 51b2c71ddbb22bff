import Mathlib.Data.Fintype.Card
import Dish.Lib.Transition
import Dish.Input.Processor

/-!
This module contains the registry of input devices between the SDL thread and the GUI, whose list of
devices may be an old one.
-/

open Transition

namespace Input

def kMaxPads : Nat := 32

def sdlId (iid : Int) : String :=
  "sdl:" ++ toString iid

def isSdlId (id : String) : Bool :=
  "sdl:".toList.isPrefixOf id.toList

def kDefaultDeadzones : Deadzones where
  stickFlat := 3277
  triggerFlat := 13

/--
`lists` are the device lists the GUI has not seen, oldest first, `listed` the last one it saw.
-/
structure Devices where
  processor : GamepadInputProcessor := {}
  opened : List Int := []
  lists : List (List Int) := []
  listed : List Int := []
  adding : List String := []

namespace Devices

def publishDevices (d : Devices) : Devices :=
  { d with lists := d.lists ++ [d.opened] }

def registerPad (d : Devices) (iid : Int) : Devices :=
  { d with
    processor := ((d.processor.add (sdlId iid)).2).setDeadzones (sdlId iid) kDefaultDeadzones }

def attach (d : Devices) (iid : Int) : Devices :=
  if d.opened.length < kMaxPads then
    ({ d with opened := d.opened ++ [iid] }.registerPad iid).publishDevices
  else d

def detach (d : Devices) (iid : Int) : Devices :=
  { d with
    processor := d.processor.remove (sdlId iid)
    opened := d.opened.erase iid }.publishDevices

/-- `hidden` are the pads claimed on another path, `others` the slots that are not SDL's. -/
inductive Act where
  | attach (iid : Int)
  | detach (iid : Int)
  | deliver
  | rebuild (hidden : List Int) (others : List String)
  | addNext
  | sendBattery (id : String)
  deriving DecidableEq

def step (d : Devices) : Act → Option Devices
  | .attach iid => if iid ∈ d.opened then none else some (d.attach iid)
  | .detach iid => if iid ∈ d.opened then some (d.detach iid) else none
  | .deliver =>
    match d.lists with
    | listed :: lists => some { d with lists, listed }
    | [] => none
  | .rebuild hidden others =>
    if d.adding = [] then
      some { d with adding := (d.listed.filter (· ∉ hidden)).map sdlId ++ others }
    else none
  | .addNext =>
    match d.adding with
    | id :: adding => some { d with adding, processor := (d.processor.add id).2 }
    | [] => none
  | .sendBattery id => some { d with processor := (d.processor.add id).2 }

def run : Devices → List Act → Option Devices :=
  Transition.run step

def Current (d : Devices) (id : String) : Prop :=
  id ∈ d.opened.map sdlId ∨ isSdlId id = false

def AddsCurrent (d : Devices) : Act → Prop
  | .addNext => ∀ id ∈ d.adding.head?, d.Current id
  | .sendBattery id => d.Current id
  | .attach _ | .detach _ | .deliver | .rebuild _ _ => True

instance (d : Devices) (id : String) : Decidable (d.Current id) :=
  inferInstanceAs (Decidable (_ ∨ _))

instance (d : Devices) (a : Act) : Decidable (d.AddsCurrent a) := by
  cases a <;> unfold AddsCurrent <;> infer_instance

structure Registered (d : Devices) : Prop where
  distinct : d.processor.Distinct
  current : ∀ i id, (d.processor.records i).id = some id → d.Current id
  room : d.opened.length ≤ kMaxPads

section

variable {d d' : Devices} {a : Act}

theorem Current.mono {id : String} (h : d.Current id) (hopened : ∀ iid ∈ d.opened, iid ∈ d'.opened)
    : d'.Current id := by
  rcases h with hmem | hother
  . obtain ⟨iid, hiid, rfl⟩ := List.mem_map.mp hmem
    exact .inl (List.mem_map_of_mem (hopened iid hiid))
  . exact .inr hother

theorem Registered.add (h : d.Registered) {id : String} (hid : d.Current id) (adding : List String)
    : { d with adding, processor := (d.processor.add id).2 }.Registered where
  distinct := h.distinct.add id
  room := h.room
  current := by
    intro i id' hlive
    rcases GamepadInputProcessor.live_add hlive with ⟨j, hj⟩ | rfl
    . exact h.current j id' hj
    . exact hid

theorem Registered.attach (h : d.Registered) (iid : Int) : (d.attach iid).Registered := by
  unfold Devices.attach
  split
  next hroom =>
    have hids := @GamepadInputProcessor.ids_setDeadzones (d.processor.add (sdlId iid)).2 (sdlId iid)
      kDefaultDeadzones
    have hopened : ∀ iid' ∈ d.opened, iid' ∈ d.opened ++ [iid] := fun _ hmem => by simp [hmem]
    constructor
    . exact ((h.distinct.add _).add _).of_ids hids
    . intro i id hlive
      rw [publishDevices, registerPad, hids] at hlive
      have hnew : (∃ j, (d.processor.records j).id = some id) ∨ id = sdlId iid := by
        rcases GamepadInputProcessor.live_add hlive with ⟨j, hj⟩ | rfl
        . exact GamepadInputProcessor.live_add hj
        . exact .inr rfl
      rcases hnew with ⟨j, hj⟩ | rfl
      . exact (h.current j id hj).mono hopened
      . exact .inl (List.mem_map_of_mem (by simp [publishDevices, registerPad]))
    . simpa [publishDevices, registerPad, Nat.succ_le_iff] using hroom
  next => exact h

theorem Registered.detach (h : d.Registered) (iid : Int) : (d.detach iid).Registered where
  distinct := h.distinct.remove _
  room := by
    have := @List.length_erase_le Int _ iid d.opened
    have := h.room
    simp only [Devices.detach, publishDevices]
    omega
  current := by
    intro i id hlive
    rw [Devices.detach, publishDevices, h.distinct.ids_remove] at hlive
    split at hlive
    . contradiction
    next hother =>
      rcases h.current i id hlive with hmem | hsdl
      . obtain ⟨iid', hiid', rfl⟩ := List.mem_map.mp hmem
        -- The record of the pad that goes is freed, so this one is of another pad.
        have hne : iid' ≠ iid := by
          rintro rfl
          exact hother hlive
        exact .inl (List.mem_map_of_mem ((List.mem_erase_of_ne hne).mpr hiid'))
      . exact .inr hsdl

theorem Registered.step (h : d.Registered) (hP : d.AddsCurrent a) (hstep : d.step a = some d')
    : d'.Registered := by
  cases a with
  | attach iid =>
    obtain ⟨_, hstep⟩ := Option.ite_none_left_eq_some.mp hstep
    cases hstep
    exact h.attach iid
  | detach iid =>
    obtain ⟨_, hstep⟩ := Option.ite_none_right_eq_some.mp hstep
    cases hstep
    exact h.detach iid
  | deliver =>
    dsimp only [Devices.step] at hstep
    split at hstep
    . cases hstep
      exact ⟨h.distinct, h.current, h.room⟩
    . contradiction
  | rebuild hidden others =>
    obtain ⟨_, hstep⟩ := Option.ite_none_right_eq_some.mp hstep
    cases hstep
    exact ⟨h.distinct, h.current, h.room⟩
  | addNext =>
    dsimp only [Devices.step] at hstep
    split at hstep
    next id adding hadding =>
      cases hstep
      apply h.add
      apply hP
      rw [hadding]
      rfl
    . contradiction
  | sendBattery id =>
    cases hstep
    exact h.add hP d.adding

def sdlRecords (d : Devices) : Finset (Fin kMaxDevices) :=
  Finset.univ.filter fun i => (d.processor.records i).id.any isSdlId

theorem Registered.card_sdlRecords (h : d.Registered) : d.sdlRecords.card ≤ d.opened.length := by
  -- Each of these records is sent to its id, and no two have the same.
  have hmaps : ∀ i ∈ d.sdlRecords,
      (d.processor.records i).id ∈ (d.opened.map fun iid => some (sdlId iid)).toFinset := by
    intro i hi
    simp only [sdlRecords, Finset.mem_filter, Finset.mem_univ, true_and, Option.any_eq_true] at hi
    obtain ⟨id, hid, hsdl⟩ := hi
    rcases h.current i id hid with hopen | hother
    . simpa [hid] using hopen
    . simp [hother] at hsdl
  have hinj : ∀ i ∈ d.sdlRecords, ∀ j ∈ d.sdlRecords,
      (d.processor.records i).id = (d.processor.records j).id → i = j := by
    intro i hi j _ heq
    simp only [sdlRecords, Finset.mem_filter, Finset.mem_univ, true_and, Option.any_eq_true] at hi
    obtain ⟨id, hid, _⟩ := hi
    exact h.distinct i j id hid (heq ▸ hid)
  calc d.sdlRecords.card
      ≤ (d.opened.map fun iid => some (sdlId iid)).toFinset.card :=
        Finset.card_le_card_of_injOn _ hmaps hinj
    _ ≤ (d.opened.map fun iid => some (sdlId iid)).length := List.toFinset_card_le _
    _ = d.opened.length := List.length_map _

theorem registered_of_run {acts : List Act} (hP : Along step AddsCurrent {} acts)
    (hrun : run {} acts = some d)
    : d.Registered := by
  refine invariant_of_along (fun _ _ _ h hP hstep => h.step hP hstep) ?_ hP hrun
  exact ⟨by simp [GamepadInputProcessor.Distinct], by simp, by simp [kMaxPads]⟩

end

theorem records_of_open_pads (d : Devices) (acts : List Act)
    (hP : Along step AddsCurrent {} acts) (hrun : run {} acts = some d)
    : (∀ i id, (d.processor.records i).id = some id → d.Current id)
        ∧ d.sdlRecords.card ≤ d.opened.length ∧ d.opened.length ≤ kMaxPads := by
  have h := registered_of_run hP hrun
  exact ⟨h.current, h.card_sdlRecords, h.room⟩

def replug : List Act :=
  [.attach 1, .deliver, .rebuild [] ["touch"], .addNext, .addNext, .detach 1, .attach 2, .deliver,
    .deliver, .rebuild [] [], .addNext]

theorem records_of_replug
    : ∃ d, run {} replug = some d
        ∧ (∀ i id, (d.processor.records i).id = some id → d.Current id)
        ∧ d.sdlRecords.card ≤ d.opened.length ∧ d.opened.length ≤ kMaxPads := by
  obtain ⟨d, hrun, -⟩ := exists_run_of_any (p := fun _ => true)
    (show (run {} replug).any (fun _ => true) = true by decide +kernel)
  exact ⟨d, hrun, records_of_open_pads d replug (by decide +kernel) hrun⟩

theorem record_of_closed_pad
    : ∃ acts d, run {} acts = some d ∧ d.lists = [] ∧ d.adding = [] ∧ d.opened = []
        ∧ (d.processor.records 0).id = some (sdlId 1) := by
  have hany : (run {} [.attach 1, .deliver, .detach 1, .rebuild [] [], .addNext, .deliver,
      .rebuild [] []]).any (fun d => d.lists = [] ∧ d.adding = [] ∧ d.opened = []
        ∧ (d.processor.records 0).id = some (sdlId 1)) = true := by
    decide +kernel
  obtain ⟨d, hrun, hd⟩ := exists_run_of_any hany
  exact ⟨_, d, hrun, of_decide_eq_true hd⟩

end Devices

end Input
