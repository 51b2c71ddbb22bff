import Dish.Slots.Step

/-!
This module contains what one pass over the slots does.
-/

open Std Reducer Audio Connection

namespace Slots

variable {slotId : String}

def Tracked.hardware (t : Tracked) : UsbController × Nat :=
  (t.controller, t.pad)

namespace AppModel

section Frame

variable (m : AppModel) (refused : List String)

@[simp]
theorem bindings_rebuildPass : (m.rebuildPass refused).bindings = m.bindings := by
  rfl

@[simp]
theorem slotList_rebuildPass
    : (m.rebuildPass refused).slotList = m.crossReferenceBindings m.shownSlots := by
  rfl

@[simp]
theorem presentPads_rebuildPass
    : (m.rebuildPass refused).presentPads = m.shownSlots.map (·.presentSlot) := by
  rfl

end Frame

section Hardware

variable {s t : TreeMap Int Tracked}

theorem toList_hardware
    (h : ∀ key : Int, s[key]?.map Tracked.hardware = t[key]?.map Tracked.hardware)
    : s.toList.map (fun e => (e.1, e.2.hardware)) = t.toList.map (fun e => (e.1, e.2.hardware)) := by
  rw [← TreeMap.toList_map (f := fun _ => Tracked.hardware)]
  rw [← TreeMap.toList_map (f := fun _ => Tracked.hardware)]
  apply TreeMap.Equiv.toList_eq
  apply TreeMap.Equiv.of_forall_constGet?_eq
  intro key
  rw [TreeMap.getElem?_map, TreeMap.getElem?_map]
  exact h key

theorem map_filter_hardware
    (h : ∀ key : Int, s[key]?.map Tracked.hardware = t[key]?.map Tracked.hardware)
    (p : UsbController × Nat → Bool) (f : Int → UsbController × Nat → β)
    : (s.toList.filter fun e => p e.2.hardware).map (fun e => f e.1 e.2.hardware)
      = (t.toList.filter fun e => p e.2.hardware).map fun e => f e.1 e.2.hardware := by
  have hlist := congrArg (fun l => (l.filter fun e => p e.2).map fun e => f e.1 e.2)
    (toList_hardware h)
  simpa [List.filter_map, Function.comp_def] using hlist

end Hardware

theorem shownSlots_congr {m m' : AppModel} (hpads : m'.pads = m.pads)
    (h : ∀ key : Int, m'.controllers[key]?.map Tracked.hardware
      = m.controllers[key]?.map Tracked.hardware)
    : m'.shownSlots = m.shownSlots := by
  let slotOf (key : Int) (hardware : UsbController × Nat) : ControllerSlot :=
    slotOfTracked key { controller := hardware.1, pad := hardware.2 }
  have hdevices : m'.devices = m.devices := by
    unfold devices
    rw [hpads]
  have htwins : m'.hideSdlTwinsOfClaimedPads = m.hideSdlTwinsOfClaimedPads := by
    unfold hideSdlTwinsOfClaimedPads
    rw [hdevices]
    have hlist := map_filter_hardware h (·.1.phase = .Direct) fun _ hardware =>
      { vendorId := hardware.1.vendorId, productId := hardware.1.productId : SyntheticTwin }
    exact congrArg (suppressedRoutedIds · _) hlist
  have hsdl : m'.appendSdlSlots = m.appendSdlSlots := by
    unfold appendSdlSlots
    rw [hdevices, htwins]
  have hdirect : m'.appendDirectSlots = m.appendDirectSlots :=
    map_filter_hardware h (·.1.phase = .Direct) slotOf
  have hawaiting : m'.appendAwaitingClaimSlots = m.appendAwaitingClaimSlots :=
    map_filter_hardware h
      (fun hardware => !hardware.1.frameworkExpected && !decide (hardware.1.phase = .Direct)) slotOf
  unfold shownSlots
  rw [hsdl, hdirect, hawaiting]

theorem mem_crossReferenceBindings {m : AppModel} {slots : List ControllerSlot}
    {slot : ControllerSlot}
    : slot ∈ m.crossReferenceBindings slots ↔
      ∃ s ∈ slots, { s with boundConnectionId := m.boundConnectionId s.id } = slot := by
  simp [crossReferenceBindings]

theorem map_id_crossReferenceBindings (m : AppModel) (slots : List ControllerSlot)
    : (m.crossReferenceBindings slots).map (·.id) = slots.map (·.id) := by
  simp [crossReferenceBindings]

theorem isMuted_rebuildPass {m : AppModel} {refused : List String}
    (h : slotId ∈ m.shownSlots.map (·.id))
    : (m.rebuildPass refused).micMuteStore.isMuted slotId = m.micMuteStore.isMuted slotId := by
  rw [← m.map_id_crossReferenceBindings] at h
  exact MicMuteStore.isMuted_retainOnly h

structure Armed (m : AppModel) (slotId : String) : Prop where
  bound : ∃ slot ∈ m.slotList, slot.id = slotId ∧ slot.boundConnectionId.isSome
  enabled : m.switches.mic.isEnabled kMicDefaultEnabled slotId = true
  unmuted : m.micMuteStore.isMuted slotId = false

theorem mem_micTargets_collectMicForSlot {m : AppModel} {s : ControllerSlot} {conn : Session}
    {route : PadAudioRoute} {out : AudioReconcile} {t : MicCaptureTarget}
    (h : t ∈ (m.collectMicForSlot s conn route out).micTargets)
    : t ∈ out.micTargets ∨ (t.slotId = s.id ∧
      m.switches.mic.isEnabled kMicDefaultEnabled s.id = true ∧
      m.micMuteStore.isMuted s.id = false) := by
  unfold collectMicForSlot at h
  dsimp only at h
  generalize hcapturing : micCaptureEligible _ = isCapturing at h
  split at h
  next =>
    left
    split at h <;> exact h
  next heligible =>
    have hfacts : isCapturing = true := by simpa using heligible
    rw [hfacts] at hcapturing
    simp only [micCaptureEligible, Bool.and_eq_true, Bool.not_eq_true'] at hcapturing
    obtain ⟨⟨⟨⟨_, henabled⟩, _⟩, _⟩, hunmuted⟩ := hcapturing
    have hlist : t ∈ out.micTargets ∨
        t = { slotId := s.id, captureDeviceName := route.captureDeviceName } := by
      split_ifs at h <;> grind
    obtain hbefore | hnew := hlist
    next => exact .inl hbefore
    next =>
      rw [hnew]
      exact .inr ⟨rfl, henabled, hunmuted⟩

theorem armed_of_mem_micTargets {m : AppModel} {slots : List ControllerSlot} {out : AudioReconcile}
    (hslots : ∀ s ∈ slots, s ∈ m.slotList) (hout : ∀ t ∈ out.micTargets, m.Armed t.slotId)
    : ∀ t ∈ (slots.foldl m.collectAudioForSlot out).micTargets, m.Armed t.slotId := by
  induction slots generalizing out with
  | nil => exact hout
  | cons s rest ih =>
    rw [List.foldl_cons]
    apply ih (fun s' hs' => hslots s' (List.mem_cons_of_mem _ hs'))
    intro t ht
    unfold collectAudioForSlot at ht
    split at ht
    next => exact hout t ht
    next conn hconn =>
      obtain hbefore | ⟨hid, henabled, hunmuted⟩ := mem_micTargets_collectMicForSlot ht
      next => exact hout t hbefore
      next =>
        rw [hid]
        refine ⟨⟨s, hslots s List.mem_cons_self, rfl, ?_⟩, henabled, hunmuted⟩
        unfold audioConnectionFor at hconn
        split at hconn
        next => cases hconn
        next =>
          obtain ⟨connectionId, hbound, _⟩ := Option.bind_eq_some_iff.mp hconn
          rw [hbound]
          rfl

theorem armed_of_reconcileAudioEngines {m : AppModel} {refused : List String}
    (h : (m.reconcileAudioEngines refused).micEngine.capturingFor slotId)
    : (m.reconcileAudioEngines refused).Armed slotId := by
  obtain ⟨t, ht, hid⟩ := MicCaptureEngine.mem_targets_of_reconcile h
  have harmed : m.Armed t.slotId :=
    armed_of_mem_micTargets (fun s hs => hs) (by simp) t ht
  rw [hid] at harmed
  exact ⟨harmed.bound, harmed.enabled, harmed.unmuted⟩

theorem armed_of_rebuildPass {m : AppModel} {refused : List String}
    (h : (m.rebuildPass refused).micEngine.capturingFor slotId)
    : (m.rebuildPass refused).Armed slotId := by
  exact armed_of_reconcileAudioEngines h

end AppModel

end Slots
