import Std.Data.TreeMap
import Dish.Reducer.Reconcile
import Dish.Reducer.Session

/-!
This module contains one WiFi session to a satellite, with its client and its slots.
-/

open Std Models Reducer

namespace Connection

inductive SessionState where
  | Idle
  | Linking
  | Live
  | Faltering
  | Stale
  deriving DecidableEq

abbrev ServerOf (id : String) : Type :=
  { server : DiscoveredServer // server.id = id }

abbrev ServerOf.self (server : DiscoveredServer) : ServerOf server.id :=
  ⟨server, rfl⟩

def kHeartbeatMissNotResponding : Nat := 2

/--
`serial` tells one link from another, `server` is what the callbacks captured, and `closeReason` is
`none` where the source has a negative one.
-/
structure Client (id : String) where
  serial : Nat
  server : ServerOf id
  token : List UInt8
  sessionKey : List UInt8
  settledVersion : Int
  alive : Bool := true
  missedAcks : Nat := 0
  closeReason : Option UInt8 := none
  serverEpoch : Int := -1
  serverBitmap : Int := -1
  sendCounter : UInt32 := 1

def Client.setConnectionParams {id : String} (c : Client id) (token sessionKey : List UInt8)
    (settledVersion : Int)
    : Client id where
  serial := c.serial
  server := c.server
  token
  sessionKey
  settledVersion := max kProtocolVersionMin (min settledVersion kProtocolVersion)

structure SlotFeatures where
  controllerType : Int := kControllerTypeXbox
  hasLightbar : Bool := false
  hasMotion : Bool := false
  hasRumble : Bool := false
  touchpadMode : UInt8 := kTouchpadModeOff
  hasTriggerEffects : Bool := false
  hasPlayerLeds : Bool := false
  hasMic : Bool := false
  hasSpeaker : Bool := false
  hasHapticAudio : Bool := false
  deriving DecidableEq

structure SlotBinding extends SlotFeatures where
  controllerIndex : Nat := 0
  registered : Bool := false
  deriving DecidableEq

def kCapAnalogTriggers : UInt16 := 0x0001
def kCapRumble : UInt16 := 0x0002
def kCapMotion : UInt16 := 0x0004
def kCapLightbar : UInt16 := 0x0008
def kCapTriggerEffects : UInt16 := 0x0010
def kCapPlayerLeds : UInt16 := 0x0020
def kCapMic : UInt16 := 0x0040
def kCapSpeaker : UInt16 := 0x0080
def kCapHapticAudio : UInt16 := 0x0100

def kBaseCaps : UInt16 := kCapAnalogTriggers

def withCapability (cap base : UInt16) (has : Bool) : UInt16 :=
  base ||| (if has then cap else 0)

def SlotBinding.caps (b : SlotBinding) : UInt16 :=
  let caps := kBaseCaps
  let caps := withCapability kCapRumble caps b.hasRumble
  let caps := withCapability kCapMotion caps b.hasMotion
  let caps := withCapability kCapLightbar caps b.hasLightbar
  let caps := withCapability kCapTriggerEffects caps b.hasTriggerEffects
  let caps := withCapability kCapPlayerLeds caps b.hasPlayerLeds
  let caps := withCapability kCapMic caps b.hasMic
  let caps := withCapability kCapSpeaker caps b.hasSpeaker
  withCapability kCapHapticAudio caps b.hasHapticAudio

def descriptorOf (b : SlotBinding) : ControllerDescriptor where
  ctrlIdx := b.controllerIndex
  type := UInt8.ofInt b.controllerType
  caps := b.caps
  touchpadMode := b.touchpadMode

structure Coherent {id : String} (state : SessionState) (client : Option (Client id))
    (connectionId : Option String) : Prop where
  up : state = .Live ∨ state = .Faltering → client.isSome
  down : state = .Idle ∨ state = .Stale → client = none
  linked : client.isSome = connectionId.isSome

structure WifiConnection (id : String) where
  obj : Nat
  server : ServerOf id
  state : SessionState := .Idle
  client : Option (Client id) := none
  connectionId : Option String := none
  boundSlotId : Option String := none
  lastAppliedEpoch : Int := -1
  mouseControlGranted : Bool := false
  slots : TreeMap String SlotBinding := ∅
  rekeyRequested : Bool := false
  offeredProtocolVersion : Int := kProtocolVersion
  settledProtocolVersion : Int := kProtocolVersionMin
  satelliteBehindProtocol : Bool := false
  protocolCompat : ProtocolCompat := .Unknown
  hostMic : Bool := false
  hostSpeaker : Bool := false
  hostHapticAudio : Bool := false
  coherent : Coherent state client connectionId := by constructor <;> simp

namespace WifiConnection

variable {id : String}

def updateServer (c : WifiConnection id) (server : ServerOf id) : WifiConnection id :=
  { c with server }

def markConnecting (c : WifiConnection id) : WifiConnection id :=
  if c.state = .Live then
    c
  else
    { c with
      state := .Linking
      coherent := { up := by simp, down := by simp, linked := c.coherent.linked } }

def teardown (c : WifiConnection id) (state : SessionState)
    (hstate : state = .Idle ∨ state = .Stale)
    : WifiConnection id :=
  { c with
    state
    client := none
    connectionId := none
    lastAppliedEpoch := -1
    mouseControlGranted := false
    rekeyRequested := false
    hostMic := false
    hostSpeaker := false
    hostHapticAudio := false
    slots := c.slots.map fun _ b => { b with registered := false }
    coherent := {
      up := by obtain rfl | rfl := hstate <;> simp
      down := by simp
      linked := by simp
    } }

def markDisconnected (c : WifiConnection id) : WifiConnection id :=
  if c.state = .Idle ∧ c.client.isNone then c else c.teardown .Idle (by simp)

def markStale (c : WifiConnection id) : WifiConnection id :=
  if c.state = .Stale ∧ c.client.isNone then c else c.teardown .Stale (by simp)

def markConnected (c : WifiConnection id) (client : Client id) (connectionId : String) (epoch : Int)
    (mouseControlGranted : Bool)
    : WifiConnection id :=
  if c.state ≠ .Linking then
    c
  else
    { c with
      client := some { client with alive := true, missedAcks := 0 }
      connectionId := some connectionId
      lastAppliedEpoch := epoch
      mouseControlGranted
      state := .Live
      rekeyRequested := false
      coherent := { up := by simp, down := by simp, linked := by simp } }

def mapClient (c : WifiConnection id) (f : Client id → Client id) : WifiConnection id :=
  { c with
    client := c.client.map f
    coherent := {
      up := by simpa using c.coherent.up
      down := by simpa using c.coherent.down
      linked := by simpa using c.coherent.linked
    } }

def adoptEpoch (c : WifiConnection id) (epoch : Int) : WifiConnection id :=
  { c with lastAppliedEpoch := epoch }

def settle (c : WifiConnection id) (negotiated : ProtocolOutcome) : WifiConnection id :=
  { c with
    settledProtocolVersion := negotiated.settledVersion
    satelliteBehindProtocol := negotiated.satelliteBehind
    protocolCompat := compatForOutcome negotiated }

def setHostControllerAudio (c : WifiConnection id) (v : HostAudioVerdict) : WifiConnection id :=
  { c with hostMic := v.mic, hostSpeaker := v.speaker, hostHapticAudio := v.hapticAudio }

def applySteadyState (c : WifiConnection id) (client : Client id) : WifiConnection id :=
  let steady :=
    if kHeartbeatMissNotResponding ≤ client.missedAcks then
      SessionState.Faltering
    else
      SessionState.Live
  if h : c.state = .Live ∨ c.state = .Faltering then
    { c with
      state := steady
      coherent := {
        up := fun _ => c.coherent.up h
        down := by intro hsteady; simp only [steady] at hsteady; split at hsteady <;> simp at hsteady
        linked := c.coherent.linked
      } }
  else
    c

def bindings (c : WifiConnection id) : List SlotBinding :=
  c.slots.toList.map (·.2)

def isTaken (c : WifiConnection id) (i : Nat) : Bool :=
  c.bindings.any fun b => b.controllerIndex == i

def lowestFreeIndex (c : WifiConnection id) : Nat :=
  ((List.range (c.bindings.length + 1)).find? fun i => !c.isTaken i).getD 0

def attachSlot (c : WifiConnection id) (slotId : String) (features : SlotFeatures)
    : WifiConnection id × Bool :=
  match c.slots[slotId]? with
  | none =>
    let b : SlotBinding := { features with controllerIndex := c.lowestFreeIndex, registered := false }
    ({ c with slots := c.slots.insert slotId b, boundSlotId := some slotId }, c.state = .Live)
  | some b =>
    let changed := b.toSlotFeatures ≠ features
    let b' : SlotBinding := { b with toSlotFeatures := features }
    ({ c with slots := c.slots.insert slotId b' }, changed ∧ c.state = .Live)

def detachSlot (c : WifiConnection id) (slotId : String) : WifiConnection id × Option Nat :=
  match c.slots[slotId]? with
  | none => (c, none)
  | some removed =>
    let c' : WifiConnection id :=
      { c with
        slots := c.slots.erase slotId
        boundSlotId := if c.boundSlotId = some slotId then none else c.boundSlotId }
    (c', if c.state = .Live ∧ removed.registered then some removed.controllerIndex else none)

def descriptorFor (c : WifiConnection id) (slotId : String) : Option ControllerDescriptor :=
  c.slots[slotId]?.map descriptorOf

def desiredDescriptors (c : WifiConnection id) : List ControllerDescriptor :=
  c.bindings.map descriptorOf

def slotIdForIndex (c : WifiConnection id) (ctrlIdx : Nat) : Option String :=
  (c.slots.toList.find? fun (_, b) => b.controllerIndex = ctrlIdx).map (·.1)

def wantsMouseControl (c : WifiConnection id) : Bool :=
  c.bindings.any fun b => b.touchpadMode == kTouchpadModeMouse

def resultFor (results : List ControllerApplyDto) (b : SlotBinding) : Option ControllerApplyDto :=
  results.reverse.find? fun r => r.ctrlIdx = b.controllerIndex

def applyResult (results : List ControllerApplyDto) (b : SlotBinding) : SlotBinding :=
  match resultFor results b with
  | none => b
  | some r => { b with registered := r.slotIsLive }

def applyResults (c : WifiConnection id) (results : List ControllerApplyDto) : WifiConnection id :=
  { c with slots := c.slots.map fun _ b => applyResult results b }

def applyFailures (c : WifiConnection id) (results : List ControllerApplyDto) : List String :=
  let failed := c.bindings.filterMap (resultFor results) |>.filter fun r => !r.ok
  failed.map fun r => "Controller #" ++ toString r.ctrlIdx ++ ": " ++ r.result

def sendTarget (c : WifiConnection id) : Option (Client id × Nat) := do
  let slotId ← c.boundSlotId
  let b ← c.slots[slotId]?
  if b.registered then
    let client ← c.client
    return (client, b.controllerIndex)
  else
    none

def registeredBitmap (c : WifiConnection id) : UInt16 :=
  expectedBitmap <| (c.bindings.filter (·.registered)).map fun b =>
    { ctrlIdx := b.controllerIndex.toUInt8, type := UInt8.ofInt b.controllerType }

def desiredSlots (c : WifiConnection id) : List DesiredSlot :=
  c.bindings.map fun b => {
    ctrlIdx := b.controllerIndex.toUInt8
    type := UInt8.ofInt b.controllerType
    touchpadMode := b.touchpadMode
  }

def appliedSlotOf (d : SessionViewControllerDto) : AppliedSlot where
  ctrlIdx := UInt8.ofInt d.ctrlIdx
  appliedType := UInt8.ofInt d.appliedType
  active := d.active
  touchpadMode := if d.touchpadMode = "" then none else some (touchpadModeFromName d.touchpadMode)

def matchesAppliedView (c : WifiConnection id) (view : SessionViewDto) : Bool :=
  let mouseMatch := view.mouseControlGranted == c.wantsMouseControl
  appliedMatchesDesired c.desiredSlots (view.controllers.map appliedSlotOf) mouseMatch

end WifiConnection

end Connection
