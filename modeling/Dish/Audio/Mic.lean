import Mathlib.Data.List.Basic

/-!
This module contains the microphone of a slot: its switch, its mute, and the engine that captures
it.
-/

open Std

namespace Audio

variable {slotId : String}

structure AudioSlotFacts where
  streaming : Bool
  toggleOn : Bool
  routeMatched : Bool
  hostCarries : Bool
  muted : Bool
  deriving DecidableEq

def micCaptureEligible (f : AudioSlotFacts) : Bool :=
  f.streaming && f.toggleOn && f.routeMatched && f.hostCarries && !f.muted

structure PadAudioRoute where
  microphone : Bool := false
  speaker : Bool := false
  haptics : Bool := false
  captureDeviceName : String := ""
  playbackDeviceName : String := ""
  playbackChannels : Int := 0
  deriving DecidableEq

abbrev EnabledStore : Type :=
  TreeMap String Bool

namespace EnabledStore

def isEnabled (store : EnabledStore) (defaultEnabled : Bool) (slotId : String) : Bool :=
  store[slotId]?.getD defaultEnabled

def setEnabled (store : EnabledStore) (slotId : String) (enabled : Bool) : EnabledStore :=
  store.insert slotId enabled

def forget (store : EnabledStore) (slotId : String) : EnabledStore :=
  store.erase slotId

def carrySwitch (store : EnabledStore) (fromSlotId toSlotId : String) : EnabledStore :=
  match store[fromSlotId]? with
  | none => store.forget toSlotId
  | some enabled => store.setEnabled toSlotId enabled

end EnabledStore

def kMicDefaultEnabled : Bool := false

structure SlotSwitchStores where
  motion : EnabledStore := ∅
  rumble : EnabledStore := ∅
  mic : EnabledStore := ∅
  speaker : EnabledStore := ∅

def carrySlotSwitches (stores : SlotSwitchStores) (fromSlotId toSlotId : String)
    : SlotSwitchStores where
  motion := stores.motion.carrySwitch fromSlotId toSlotId
  rumble := stores.rumble.carrySwitch fromSlotId toSlotId
  mic := stores.mic.carrySwitch fromSlotId toSlotId
  speaker := stores.speaker.carrySwitch fromSlotId toSlotId

abbrev MicMuteStore : Type :=
  TreeMap String Bool

namespace MicMuteStore

def kDefaultMuted : Bool := false

def isMuted (store : MicMuteStore) (slotId : String) : Bool :=
  store[slotId]?.getD kDefaultMuted

def setMuted (store : MicMuteStore) (slotId : String) (muted : Bool) : MicMuteStore :=
  store.insert slotId muted

def retainOnly (store : MicMuteStore) (present : List String) : MicMuteStore :=
  store.filter fun slotId _ => slotId ∈ present

end MicMuteStore

structure MicCaptureTarget where
  slotId : String
  captureDeviceName : String
  deriving DecidableEq

structure MicCaptureEngine where
  entries : TreeMap String String := ∅

namespace MicCaptureEngine

def capturingFor (engine : MicCaptureEngine) (slotId : String) : Bool :=
  engine.entries.contains slotId

def closeDeparted (engine : MicCaptureEngine) (targets : List MicCaptureTarget)
    : MicCaptureEngine where
  entries := engine.entries.filter fun slotId deviceName =>
    (targets.find? (·.slotId = slotId)).any (·.captureDeviceName = deviceName)

def openMissing (engine : MicCaptureEngine) (targets : List MicCaptureTarget)
    (refused : List String)
    : MicCaptureEngine :=
  targets.foldl (fun engine t =>
    if t.slotId = "" ∨ t.captureDeviceName = "" then
      engine
    else if engine.capturingFor t.slotId then
      engine
    else if t.captureDeviceName ∈ refused then
      engine
    else
      { entries := engine.entries.insert t.slotId t.captureDeviceName }) engine

def reconcile (engine : MicCaptureEngine) (targets : List MicCaptureTarget)
    (refused : List String)
    : MicCaptureEngine :=
  (engine.closeDeparted targets).openMissing targets refused

def closeOnDevicesAbsent (engine : MicCaptureEngine) (presentDevices : List String)
    : MicCaptureEngine where
  entries := engine.entries.filter fun _ deviceName => deviceName ∈ presentDevices

end MicCaptureEngine

structure MicMuteAllOrder where
  slotIds : List String
  muted : Bool
  deriving DecidableEq

def micToggleAllFor (armedSlotIds : List String) (capturingSlots : Nat) : Option MicMuteAllOrder :=
  if armedSlotIds.isEmpty then
    none
  else
    some { slotIds := armedSlotIds, muted := capturingSlots > 0 }

structure MicMuteLatch where
  held : Bool := false
  muted : Bool := false
  deriving DecidableEq

def MicMuteLatch.decode (latch : MicMuteLatch) (muteDown : Bool) : MicMuteLatch where
  held := muteDown
  muted := if muteDown && !latch.held then !latch.muted else latch.muted

@[simp]
theorem MicMuteStore.isMuted_setMuted (store : MicMuteStore) (slotId other : String) (muted : Bool)
    : (store.setMuted slotId muted).isMuted other
      = if slotId = other then muted else store.isMuted other := by
  unfold MicMuteStore.isMuted MicMuteStore.setMuted
  rw [TreeMap.getElem?_insert]
  grind

theorem MicMuteStore.isMuted_retainOnly {store : MicMuteStore} {present : List String} (h : slotId ∈ present)
    : (store.retainOnly present).isMuted slotId = store.isMuted slotId := by
  unfold MicMuteStore.isMuted MicMuteStore.retainOnly
  rw [TreeMap.getElem?_filter']
  cases store[slotId]? <;> simp [h, Option.filter]

theorem EnabledStore.isEnabled_setEnabled (store : EnabledStore) (default : Bool)
    (slotId other : String) (enabled : Bool)
    : (store.setEnabled slotId enabled).isEnabled default other
      = if slotId = other then enabled else store.isEnabled default other := by
  unfold EnabledStore.isEnabled EnabledStore.setEnabled
  rw [TreeMap.getElem?_insert]
  grind

theorem EnabledStore.isEnabled_carrySwitch (store : EnabledStore) (default : Bool)
    (fromSlotId toSlotId other : String)
    : (store.carrySwitch fromSlotId toSlotId).isEnabled default other
      = if toSlotId = other then store.isEnabled default fromSlotId
        else store.isEnabled default other := by
  unfold EnabledStore.carrySwitch
  split
  next h =>
    unfold EnabledStore.isEnabled EnabledStore.forget
    rw [TreeMap.getElem?_erase, h]
    grind
  next enabled h =>
    rw [EnabledStore.isEnabled_setEnabled]
    unfold EnabledStore.isEnabled
    rw [h]
    rfl

namespace MicCaptureEngine

variable {engine : MicCaptureEngine}

theorem capturingFor_of_openMissing {targets : List MicCaptureTarget} {refused : List String}
    (h : (engine.openMissing targets refused).capturingFor slotId)
    : engine.capturingFor slotId ∨ ∃ t ∈ targets, t.slotId = slotId := by
  induction targets generalizing engine with
  | nil => exact .inl h
  | cons t rest ih =>
    unfold openMissing at h
    rw [List.foldl_cons] at h
    obtain hengine | ⟨u, hu, hid⟩ := ih h
    next =>
      by_cases ht : t.slotId = slotId
      next => exact .inr ⟨t, List.mem_cons_self, ht⟩
      next =>
        -- An entry the target does not name was there before it.
        left
        unfold capturingFor at hengine ⊢
        split_ifs at hengine <;> simp_all
    next => exact .inr ⟨u, List.mem_cons_of_mem _ hu, hid⟩

theorem mem_targets_of_reconcile {targets : List MicCaptureTarget} {refused : List String}
    (h : (engine.reconcile targets refused).capturingFor slotId)
    : ∃ t ∈ targets, t.slotId = slotId := by
  obtain hkept | hopened := capturingFor_of_openMissing h
  next =>
    unfold capturingFor closeDeparted at hkept
    rw [← TreeMap.mem_iff_contains, TreeMap.mem_filter] at hkept
    obtain ⟨_, hwanted⟩ := hkept
    rw [TreeMap.getKey_eq, Option.any_eq_true] at hwanted
    obtain ⟨t, ht, _⟩ := hwanted
    exact ⟨t, List.mem_of_find?_eq_some ht, by simpa using List.find?_some ht⟩
  next => exact hopened

theorem capturingFor_of_closeOnDevicesAbsent {presentDevices : List String}
    (h : (engine.closeOnDevicesAbsent presentDevices).capturingFor slotId)
    : engine.capturingFor slotId := by
  exact TreeMap.contains_of_contains_filter h

end MicCaptureEngine

end Audio
