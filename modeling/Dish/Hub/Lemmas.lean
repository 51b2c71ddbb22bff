import Dish.Hub.Basic
import Dish.Manager.Lemmas.Slots
import Dish.Manager.Lemmas.Undisturbed

/-!
This module contains the agreement of the two tables that say which slot a connection has.
-/

open Std Models Reducer Wire Connection Wifi Transition

namespace Hub

structure Agree (h : ConnectionHub) : Prop where
  attached : ∀ {id : String} {c : WifiConnection id}, h.wifi.conn id = some c → ∀ slotId,
    slotId ∈ c.slots ↔ h.bindings[slotId]? = some id
  alone : ∀ {slotId slotId' id : String}, h.bindings[slotId]? = some id →
    h.bindings[slotId']? = some id → slotId = slotId'
  streams : ∀ {id : String} {c : WifiConnection id}, h.wifi.conn id = some c → ∀ slotId,
    h.bindings[slotId]? = some id → c.boundSlotId = some slotId

def MovesNoSlot (h : ConnectionHub) : Event → Prop
  | .bind slotId connectionId _ =>
    (∀ id ∈ h.bindings[slotId]?, id ≠ connectionId → (h.wifi.conn id).isNone) ∧
      (h.bindings[""]? = some connectionId → slotId = "")
  | .unbind _ => True

instance (h : ConnectionHub) (e : Event) : Decidable (MovesNoSlot h e) := by
  unfold MovesNoSlot
  split <;> infer_instance

variable {sodium : Sodium} {h : ConnectionHub} {m : Manager} {id x slotId : String}

theorem conn_detachBoundSlot_of_ne (m : Manager) (hx : x ≠ id)
    : (m.detachBoundSlot sodium id).conn x = m.conn x := by
  unfold Manager.detachBoundSlot
  split
  . rfl
  . apply Manager.conn_detachSlot_of_ne _ _ hx

theorem conn_detachBoundSlot_self {c : WifiConnection id} (hc : m.conn id = some c)
    (hbound : c.boundSlotId = some slotId)
    : (m.detachBoundSlot sodium id).conn id = some (c.detachSlot slotId).1 := by
  unfold Manager.detachBoundSlot
  rw [hc, Option.bind_some, hbound]
  dsimp only
  rw [Manager.conn_detachSlot_self, hc]
  rfl

theorem conn_detachBoundSlot_none (hnone : m.conn id = none)
    : (m.detachBoundSlot sodium id).conn id = none := by
  unfold Manager.detachBoundSlot
  rw [hnone]
  exact hnone

theorem detachSlot_of_mem {c : WifiConnection id} (hmem : slotId ∈ c.slots)
    (hbound : c.boundSlotId = some slotId)
    : (c.detachSlot slotId).1.slots = c.slots.erase slotId ∧
        (c.detachSlot slotId).1.boundSlotId = none := by
  obtain ⟨b, hb⟩ := Option.isSome_iff_exists.mp (TreeMap.isSome_getElem?_iff_mem.mpr hmem)
  simp [WifiConnection.detachSlot, hb, hbound]

theorem mem_attachSlot (c : WifiConnection id) (slotId : String) (features : SlotFeatures)
    (slotId' : String)
    : slotId' ∈ (c.attachSlot slotId features).1.slots ↔ slotId' = slotId ∨ slotId' ∈ c.slots := by
  unfold WifiConnection.attachSlot
  split
  . simp [TreeMap.mem_insert, eq_comm (b := slotId')]
  . simp [TreeMap.mem_insert, eq_comm (b := slotId')]

theorem boundSlotId_attachSlot {c : WifiConnection id} {features : SlotFeatures}
    (hbound : slotId ∈ c.slots → c.boundSlotId = some slotId)
    : (c.attachSlot slotId features).1.boundSlotId = some slotId := by
  unfold WifiConnection.attachSlot
  split
  . rfl
  . next b hb =>
    apply hbound
    apply TreeMap.isSome_getElem?_iff_mem.mp
    simp [hb]

namespace Agree

theorem release (ha : Agree h) (hslot : h.bindings[slotId]? = some id)
    : Agree { wifi := h.wifi.detachBoundSlot sodium id, bindings := h.bindings.erase slotId } := by
  have hread (slotId' : String) : (h.bindings.erase slotId)[slotId']? =
      if slotId = slotId' then none else h.bindings[slotId']? := by
    simp [TreeMap.getElem?_erase]
  have hconn {x : String} {c' : WifiConnection x}
      (hc' : (h.wifi.detachBoundSlot sodium id).conn x = some c')
      : (x ≠ id ∧ h.wifi.conn x = some c') ∨
        (x = id ∧ ∃ c, h.wifi.conn x = some c ∧ c'.slots = c.slots.erase slotId) := by
    by_cases hx : x = id
    . subst hx
      cases hc : h.wifi.conn x with
      | none =>
        rw [conn_detachBoundSlot_none hc] at hc'
        contradiction
      | some c =>
        have hbound := ha.streams hc slotId hslot
        have hmem := (ha.attached hc slotId).mpr hslot
        rw [conn_detachBoundSlot_self hc hbound] at hc'
        cases hc'
        exact Or.inr ⟨rfl, c, rfl, (detachSlot_of_mem hmem hbound).1⟩
    . rw [conn_detachBoundSlot_of_ne _ hx] at hc'
      exact Or.inl ⟨hx, hc'⟩
  constructor
  case attached =>
    intro x c' hc' slotId'
    rw [hread]
    obtain ⟨hx, hc⟩ | ⟨rfl, c, hc, hslots⟩ := hconn hc'
    . rw [ha.attached hc]
      split
      . next heq =>
        subst heq
        simp [hslot, Ne.symm hx]
      . rfl
    . rw [hslots, TreeMap.mem_erase, ha.attached hc]
      split
      . next heq => simp [heq]
      . next heq => simp [heq]
  case alone =>
    intro slotId₁ slotId₂ id' h₁ h₂
    rw [hread] at h₁ h₂
    split at h₁
    . contradiction
    . split at h₂
      . contradiction
      . apply ha.alone h₁ h₂
  case streams =>
    intro x c' hc' slotId' hslot'
    rw [hread] at hslot'
    split at hslot'
    . contradiction
    . next hne =>
      obtain ⟨_, hc⟩ | ⟨rfl, _⟩ := hconn hc'
      . apply ha.streams hc slotId' hslot'
      -- the connection that was released has no slot left
      . exact absurd (ha.alone hslot hslot') hne

theorem attach (ha : Agree h) (features : SlotFeatures)
    (halone : ∀ slotId', h.bindings[slotId']? = some id → slotId' = slotId)
    (hmoves : ∀ id' ∈ h.bindings[slotId]?, id' ≠ id → (h.wifi.conn id').isNone)
    : Agree { wifi := h.wifi.attachSlot sodium id slotId features
              bindings := h.bindings.insert slotId id } := by
  have hread (slotId' : String) : (h.bindings.insert slotId id)[slotId']? =
      if slotId = slotId' then some id else h.bindings[slotId']? := by
    simp [TreeMap.getElem?_insert]
  have hconn {x : String} {c' : WifiConnection x}
      (hc' : (h.wifi.attachSlot sodium id slotId features).conn x = some c')
      : (x ≠ id ∧ h.wifi.conn x = some c') ∨
        (x = id ∧ ∃ c, h.wifi.conn x = some c ∧ c' = (c.attachSlot slotId features).1) := by
    by_cases hx : x = id
    . subst hx
      rw [Manager.conn_attachSlot_self] at hc'
      obtain ⟨c, hc, rfl⟩ := Option.map_eq_some_iff.mp hc'
      exact Or.inr ⟨rfl, c, hc, rfl⟩
    . rw [Manager.conn_attachSlot_of_ne _ _ _ hx] at hc'
      exact Or.inl ⟨hx, hc'⟩
  constructor
  case attached =>
    intro x c' hc' slotId'
    rw [hread]
    obtain ⟨hx, hc⟩ | ⟨rfl, c, hc, rfl⟩ := hconn hc'
    . rw [ha.attached hc]
      split
      . next heq =>
        subst heq
        constructor
        . intro hslot
          have := hmoves x hslot hx
          rw [hc] at this
          contradiction
        . intro heq
          exact absurd (Option.some.inj heq).symm hx
      . rfl
    . rw [mem_attachSlot, ha.attached hc]
      split
      . next heq => simp [heq]
      . next hne => simp [Ne.symm hne]
  case alone =>
    intro slotId₁ slotId₂ id' h₁ h₂
    rw [hread] at h₁ h₂
    split at h₁
    . next heq₁ =>
      cases h₁
      split at h₂
      . next heq₂ => rw [← heq₁, heq₂]
      . rw [← heq₁, halone slotId₂ h₂]
    . split at h₂
      . next heq₂ =>
        cases h₂
        rw [← heq₂, halone slotId₁ h₁]
      . apply ha.alone h₁ h₂
  case streams =>
    intro x c' hc' slotId' hslot'
    rw [hread] at hslot'
    obtain ⟨hx, hc⟩ | ⟨rfl, c, hc, rfl⟩ := hconn hc'
    . split at hslot'
      . exact absurd (Option.some.inj hslot').symm hx
      . apply ha.streams hc slotId' hslot'
    . have hsame : slotId' = slotId := by
        split at hslot'
        . next heq => exact heq.symm
        . apply halone slotId' hslot'
      rw [hsame]
      apply boundSlotId_attachSlot
      intro hmem
      apply ha.streams hc
      apply (ha.attached hc slotId).mp hmem

end Agree

theorem priorSlot_eq_some {prior : String} (hprior : h.priorSlot slotId id = some prior)
    : h.bindings[prior]? = some id ∧ prior ≠ slotId := by
  obtain ⟨⟨slot, id'⟩, hfound, rfl⟩ :=
    Option.map_eq_some_iff.mp (Option.filter_eq_some_iff.mp hprior).1
  have hmem := List.mem_of_find?_eq_some hfound
  have hholds := List.find?_some hfound
  simp only [ne_eq, decide_eq_true_eq] at hholds
  obtain ⟨rfl, hne⟩ := hholds
  exact ⟨TreeMap.mem_toList_iff_getElem?_eq_some.mp hmem, hne⟩

theorem eq_of_priorSlot_eq_none (hprior : h.priorSlot slotId id = none)
    (hnamed : h.bindings[""]? = some id → slotId = "") {slotId' : String}
    (hslot' : h.bindings[slotId']? = some id)
    : slotId' = slotId := by
  by_contra hne
  unfold ConnectionHub.priorSlot at hprior
  dsimp only at hprior
  generalize hfound : h.bindings.toList.find? _ = found at hprior
  cases found with
  | none =>
    have := List.find?_eq_none.mp hfound _ (TreeMap.mem_toList_iff_getElem?_eq_some.mpr hslot')
    simp [hne] at this
  | some found =>
    obtain ⟨slot, id'⟩ := found
    have hmem := TreeMap.mem_toList_iff_getElem?_eq_some.mp (List.mem_of_find?_eq_some hfound)
    have hholds := List.find?_some hfound
    simp only [ne_eq, decide_eq_true_eq] at hholds
    obtain ⟨rfl, hslot⟩ := hholds
    simp only [Option.map_some, Option.filter_eq_none_iff, ne_eq, decide_not] at hprior
    have hempty : slot = "" := by simpa using hprior
    subst hempty
    exact hslot (hnamed hmem).symm

theorem Agree.step {e : Event} {h' : ConnectionHub} (ha : Agree h) (hmoves : MovesNoSlot h e)
    (hstep : h.step sodium e = some h')
    : Agree h' := by
  cases e with
  | bind slotId id features =>
    obtain ⟨hmoves, hnamed⟩ := hmoves
    cases hstep
    unfold ConnectionHub.bind
    cases hprior : h.priorSlot slotId id with
    | none =>
      apply ha.attach features _ hmoves
      intro slotId'
      apply eq_of_priorSlot_eq_none hprior hnamed
    | some prior =>
      obtain ⟨hslot, hne⟩ := priorSlot_eq_some hprior
      apply (ha.release hslot).attach features
      . intro slotId' hslot'
        simp only [TreeMap.getElem?_erase] at hslot'
        split at hslot'
        . contradiction
        . next hother =>
          exact absurd (Std.compare_eq_iff_eq.mpr (ha.alone hslot hslot')) hother
      . intro id' hid' hother
        rw [conn_detachBoundSlot_of_ne _ hother]
        apply hmoves id' _ hother
        simpa [TreeMap.getElem?_erase, hne] using hid'
  | unbind slotId =>
    cases hstep
    unfold ConnectionHub.unbind
    split
    . apply ha
    . next id hslot => apply ha.release hslot

def Unattached (m : Manager) : Prop :=
  ∀ {id : String} {c : WifiConnection id}, m.conn id = some c →
    c.slots.isEmpty ∧ c.boundSlotId = none

theorem Unattached.ensureConnection (hm : Unattached m) (server : DiscoveredServer)
    : Unattached (m.ensureConnection server) := by
  unfold Manager.ensureConnection
  split
  . apply hm
  . intro id c hc
    by_cases hid : id = server.id
    . subst hid
      have hfresh := (Manager.conn_setConn_self m _).symm.trans hc
      cases hfresh
      exact ⟨rfl, rfl⟩
    . apply hm ((Manager.conn_setConn_of_ne m _ hid).symm.trans hc)

theorem Unattached.agree (hm : Unattached m) : Agree { wifi := m } where
  attached := by
    intro id c hc slotId
    have hnot : ¬slotId ∈ c.slots := TreeMap.not_mem_of_isEmpty (hm hc).1
    simp [hnot]
  alone := by simp
  streams := by simp

theorem bindings_agree (m : Manager) (hm : Unattached m) (es : List Event)
    (hmoves : Along (ConnectionHub.step sodium) MovesNoSlot { wifi := m } es)
    (hrun : Transition.run (ConnectionHub.step sodium) { wifi := m } es = some h)
    : Agree h := by
  apply invariant_of_along _ hm.agree hmoves hrun
  intro h e h' ha hmoves hstep
  apply ha.step hmoves hstep

open Wifi.Manager (officePc officeLaunch officeSodium)

def denPc : DiscoveredServer :=
  { officePc with name := "Den PC", ip := "192.168.1.30", machineId := "a1b2" }

def twoSatellites : Manager :=
  (officeLaunch.ensureConnection officePc).ensureConnection denPc

theorem unattached_twoSatellites : Unattached twoSatellites := by
  apply Unattached.ensureConnection
  apply Unattached.ensureConnection
  intro id c hc
  have hnone : officeLaunch.conn id = none := by
    simp [officeLaunch, Manager.launch, Manager.conn]
  rw [hnone] at hc
  contradiction

def tablesOf (h : ConnectionHub) (id : String)
    : List (String × String) × Option (List String × Option String) :=
  (h.bindings.toList, (h.wifi.conn id).map fun c => (c.slots.keys, c.boundSlotId))

def runFrom (m : Manager) (es : List Event) : Option ConnectionHub :=
  Transition.run (ConnectionHub.step officeSodium) { wifi := m } es

theorem bindings_agree_twoSatellites
    : ∃ h, runFrom twoSatellites [.bind "pad" officePc.id {}, .bind "stick" denPc.id {},
        .bind "wheel" officePc.id {}, .unbind "stick"] = some h ∧ Agree h ∧
      tablesOf h officePc.id = ([("wheel", officePc.id)], some (["wheel"], some "wheel")) := by
  obtain ⟨h, hrun, htables⟩ := Option.map_eq_some_iff.mp
    (show (runFrom twoSatellites [.bind "pad" officePc.id {}, .bind "stick" denPc.id {},
      .bind "wheel" officePc.id {}, .unbind "stick"]).map (tablesOf · officePc.id) =
        some ([("wheel", officePc.id)], some (["wheel"], some "wheel")) by decide)
  refine ⟨h, hrun, ?_, htables⟩
  exact bindings_agree twoSatellites unattached_twoSatellites _ (by decide) hrun

theorem rebind_leaves_slot_attached
    : Unattached twoSatellites ∧
      (runFrom twoSatellites [.bind "pad" officePc.id {}, .bind "pad" denPc.id {}]).map
          (tablesOf · officePc.id) =
        some ([("pad", denPc.id)], some (["pad"], some "pad")) ∧
      (runFrom twoSatellites [.bind "pad" officePc.id {}, .bind "pad" denPc.id {},
          .bind "wheel" officePc.id {}, .unbind "wheel", .bind "pad" officePc.id {}]).map
          (tablesOf · officePc.id) =
        some ([("pad", officePc.id)], some (["pad"], none)) ∧
      (runFrom twoSatellites [.bind "" officePc.id {}, .bind "pad" officePc.id {}]).map
          (tablesOf · officePc.id) =
        some ([("", officePc.id), ("pad", officePc.id)], some (["", "pad"], some "pad")) := by
  exact ⟨unattached_twoSatellites, by decide, by decide, by decide⟩

end Hub
