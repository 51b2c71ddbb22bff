import Dish.Slots.Basic

/-!
This module contains what can happen to the slots. The main thread starts a call only after it is
through with the one before.
-/

open Std Reducer Audio Connection

namespace Slots

structure Switches where
  motion : Bool
  rumble : Bool
  mic : Bool
  speaker : Bool
  deriving DecidableEq

inductive Event where
  | plug (vendorId productId : UInt16) (bluetooth : Bool) (pad : Nat)
  | unplug (iid : Nat)
  | report (key : Int) (muteDown : Bool)
  | run (refused : List String)
  | ensureTracked (vendorId productId : UInt16) (name : String) (choice : PathChoice) (pad : Nat)
  | usb (key : Int) (event : UsbEvent)
  | session (id : String) (session : Option Session)
  | resolveAudioRoutes (routes : TreeMap Int PadAudioRoute)
  | audioDevicesChanged (captureDeviceNames : List String) (routes : TreeMap Int PadAudioRoute)
  | rebuild
  | bindSlot (slotId connectionId : String) (refused : List String)
  | unbindSlot (slotId : String) (refused : List String)
  | beginApplyBind (slotId connectionId : String) (switches : Switches) (refused : List String)
  | toggleSlotMicMute (slotId : String)
  | toggleAllMics
  | padMicMuteChanged

namespace AppModel

def openPads (m : AppModel) : Nat :=
  m.pads.countP (·.opened)

def claimPad (m : AppModel) (vendorId productId : UInt16) (bluetooth : Bool) (pad : Nat)
    : AppModel :=
  let opened := m.openPads < kMaxPads
  { m with pads := m.pads ++ [{ vendorId, productId, bluetooth, pad, opened }] }

def releasePad (m : AppModel) (iid : Nat) : AppModel :=
  { m with pads := m.pads.modify iid fun p => { p with opened := false } }

/-- Only a DualSense has a mute button to decode. -/
def mirrorMicMute (t : Tracked) (c : Claim) (muteDown : Bool) : Claim × List Upcall :=
  let latch := if t.isDualSense then c.micMute.decode muteDown else c.micMute
  if latch.muted = c.lastMicMuted then
    ({ c with micMute := latch }, [])
  else
    ({ micMute := latch, lastMicMuted := latch.muted },
      [{ vendorId := t.controller.vendorId, productId := t.controller.productId
         muted := latch.muted, pad := t.pad }])

def onReport (m : AppModel) (key : Int) (t : Tracked) (c : Claim) (muteDown : Bool) : AppModel :=
  { m with
    controllers := m.controllers.insert key { t with claim := (mirrorMicMute t c muteDown).1 }
    upcalls := m.upcalls ++ (mirrorMicMute t c muteDown).2 }

def executeEffect (c : UsbController) (claim : Option Claim) (effect : UsbEffect) : Option Claim :=
  match effect with
  | .Release => if c.syntheticId.isSome then none else claim
  | .RemoveSynthetic _ => none
  | .Reclaim => none
  | _ => claim

def claimAfter (t : Tracked) (event : UsbEvent) : Option Claim :=
  let before :=
    match event with
    | .ClaimSucceeded _ => some {}
    | _ => t.claim
  let r := reduce t.controller event
  r.effects.foldl (executeEffect (r.next.getD t.controller)) before

def expects (t : Tracked) (event : UsbEvent) : Bool :=
  match event with
  | .ClaimSucceeded _ | .ClaimFailed .. =>
    t.controller.phase = .Claiming || t.controller.phase = .RestoreStuck
  | _ => true

def applyEvent (m : AppModel) (key : Int) (t : Tracked) (event : UsbEvent) : AppModel :=
  let controllers :=
    match (reduce t.controller event).next with
    | some c => m.controllers.insert key { t with controller := c, claim := claimAfter t event }
    | none => m.controllers.erase key
  { m with controllers, todo := m.todo ++ rebuild }

def modelExpectsFrameworkGamepad (vendorId productId : UInt16) : Bool :=
  !(vendorId = 0x28DE && (productId = 0x1102 || productId = 0x1142))

def ensureTracked (m : AppModel) (vendorId productId : UInt16) (name : String)
    (choice : PathChoice) (pad : Nat)
    : AppModel :=
  let key := slotPathVpKey vendorId productId
  match m.controllers[key]? with
  | some t =>
    if t.claim.isSome then m else { m with controllers := m.controllers.insert key { t with pad } }
  | none =>
    let controller : UsbController :=
      { vendorId, productId, name, hasPermission := true, desired := choice
        frameworkExpected := modelExpectsFrameworkGamepad vendorId productId }
    m.applyEvent key { controller, pad } (.Choose choice false)

def onHubChanged (m : AppModel) (id : String) (session : Option Session) : AppModel :=
  { m with
    sessions := m.sessions.alter id fun _ => session
    todo := m.todo ++ rebuild }

def onAudioDevicesChanged (m : AppModel) (captureDeviceNames : List String)
    (routes : TreeMap Int PadAudioRoute)
    : AppModel :=
  { m with
    micEngine := m.micEngine.closeOnDevicesAbsent captureDeviceNames
    todo := m.todo ++ [.setPadAudioRoutes routes, .reconcileAudioEngines] }

def bindSlot (m : AppModel) (slotId connectionId : String) (refused : List String) : AppModel :=
  let m := (m.bind slotId connectionId).rebuildPass refused
  { m with todo := m.todo ++ [.applyBindingPresence] }

def unbindSlot (m : AppModel) (slotId : String) (refused : List String) : AppModel :=
  let m := m.unbind slotId refused
  { m with todo := m.todo ++ [.applyBindingPresence] }

def setSwitches (stores : SlotSwitchStores) (slotId : String) (on : Switches)
    : SlotSwitchStores where
  motion := stores.motion.setEnabled slotId on.motion
  rumble := stores.rumble.setEnabled slotId on.rumble
  mic := stores.mic.setEnabled slotId on.mic
  speaker := stores.speaker.setEnabled slotId on.speaker

def beginApplyBind (m : AppModel) (slotId connectionId : String) (on : Switches)
    (refused : List String)
    : AppModel :=
  { m with switches := setSwitches m.switches slotId on }.bindSlot slotId connectionId refused

def setSlotMicMutedOps (slotId : String) (muted : Bool) (pressed : Option Nat) : List Op :=
  [.setSlotMicMuted slotId muted pressed, .applyBindingPresence]

def toggleSlotMicMute (m : AppModel) (slotId : String) : AppModel :=
  if slotId = "" then
    m
  else
    let muted := !m.micMuteStore.isMuted slotId
    { m with todo := m.todo ++ setSlotMicMutedOps slotId muted none }

def toggleAllMics (m : AppModel) : AppModel :=
  match micToggleAllFor m.armedMicSlotIds m.capturingMicSlots with
  | none => m
  | some order =>
    { m with
      todo := m.todo ++ order.slotIds.flatMap fun slotId =>
        setSlotMicMutedOps slotId order.muted none }

def onPadMicMuteChanged (m : AppModel) (u : Upcall) : AppModel :=
  { m with todo := m.todo ++ setSlotMicMutedOps u.slotId u.muted (some u.pad) }

def idle (m : AppModel) : Bool :=
  m.presence.isEmpty && m.todo.isEmpty

def call (m : AppModel) (f : AppModel → AppModel) : Option AppModel :=
  if m.idle then some (f m) else none

def step (m : AppModel) (e : Event) : Option AppModel :=
  match e with
  | .plug vendorId productId bluetooth pad => some (m.claimPad vendorId productId bluetooth pad)
  | .unplug iid => some (m.releasePad iid)
  | .report key muteDown =>
    m.controllers[key]?.bind fun t => t.claim.map fun c => m.onReport key t c muteDown
  | .run refused => m.runNext refused
  | .ensureTracked vendorId productId name choice pad =>
    m.call (·.ensureTracked vendorId productId name choice pad)
  | .usb key event =>
    (m.controllers[key]?.filter (expects · event)).bind fun t => m.call (·.applyEvent key t event)
  | .session id session => m.call (·.onHubChanged id session)
  | .resolveAudioRoutes routes =>
    m.call fun m => { m with todo := m.todo ++ [.setPadAudioRoutes routes] }
  | .audioDevicesChanged names routes => m.call (·.onAudioDevicesChanged names routes)
  | .rebuild => m.call fun m => { m with todo := m.todo ++ rebuild }
  | .bindSlot slotId connectionId refused => m.call (·.bindSlot slotId connectionId refused)
  | .unbindSlot slotId refused => m.call (·.unbindSlot slotId refused)
  | .beginApplyBind slotId connectionId on refused =>
    m.call (·.beginApplyBind slotId connectionId on refused)
  | .toggleSlotMicMute slotId => m.call (·.toggleSlotMicMute slotId)
  | .toggleAllMics => m.call (·.toggleAllMics)
  | .padMicMuteChanged =>
    match m.upcalls with
    | [] => none
    | u :: rest => m.call fun m => { m with upcalls := rest }.onPadMicMuteChanged u

def sendsMic (m : AppModel) (slotId : String) : Bool :=
  m.micEngine.capturingFor slotId && m.mics.any (·.slotId = slotId)

end AppModel

end Slots
