import Dish.Audio.Mic
import Dish.Connection.Basic
import Dish.Reducer.SlotPresence
import Dish.Reducer.UsbPathMachine

/-!
This module contains the slots of the app and the bindings that follow a pad from one to another.
-/

open Std Reducer Audio Connection

namespace Slots

structure SdlPad where
  vendorId : UInt16
  productId : UInt16
  bluetooth : Bool
  pad : Nat
  opened : Bool
  deriving DecidableEq

structure Device where
  id : String
  vendorId : UInt16
  productId : UInt16
  bluetooth : Bool
  pad : Nat
  deriving DecidableEq

def kMaxPads : Nat := 32

def sdlId (iid : Nat) : String :=
  "sdl:" ++ toString iid

structure Claim where
  micMute : MicMuteLatch := {}
  lastMicMuted : Bool := false
  deriving DecidableEq

structure Tracked where
  controller : UsbController
  pad : Nat
  claim : Option Claim := none
  deriving DecidableEq

def parserIsDualSense (vendorId productId : UInt16) : Bool :=
  vendorId = 0x054C && (productId = 0x0CE6 || productId = 0x0DF2)

namespace Tracked

def isDirect (t : Tracked) : Bool :=
  t.controller.phase = .Direct

def isDualSense (t : Tracked) : Bool :=
  parserIsDualSense t.controller.vendorId t.controller.productId

def setPadMicMuted (t : Tracked) (muted : Bool) : Tracked :=
  if t.controller.syntheticId.isSome ∧ t.isDualSense then
    { t with claim := t.claim.map fun c => { c with micMute := { c.micMute with muted } } }
  else
    t

end Tracked

structure Upcall where
  vendorId : UInt16
  productId : UInt16
  muted : Bool
  pad : Nat
  deriving DecidableEq

def Upcall.slotId (u : Upcall) : String :=
  toString (slotPathVpKey u.vendorId u.productId)

structure Session where
  state : SessionState
  hostMicAvailable : Bool
  sendTarget : Option Nat
  deriving DecidableEq

structure ControllerSlot where
  id : String
  vendorId : UInt16
  productId : UInt16
  bluetooth : Bool
  boundConnectionId : Option String := none
  pad : Nat
  deriving DecidableEq

def ControllerSlot.presentSlot (s : ControllerSlot) : PresentSlot :=
  { id := s.id, vendorId := s.vendorId, productId := s.productId }

structure MicRoute where
  slotId : String
  controllerIndex : Nat
  deriving DecidableEq

inductive Op where
  | rebuildPass
  | applyBindingPresence
  | setSlotMicMuted (slotId : String) (muted : Bool) (pressed : Option Nat)
  | setPadAudioRoutes (routes : TreeMap Int PadAudioRoute)
  | republishSlotCaps (slotId : String)
  | reconcileAudioEngines

inductive PresenceStep where
  | unbind (slotId : String)
  | migrate (slotId toSlotId connectionId : String)
  deriving DecidableEq

structure AppModel where
  pads : List SdlPad := []
  controllers : TreeMap Int Tracked := ∅
  upcalls : List Upcall := []
  sessions : TreeMap String Session := ∅
  padAudioRoutes : TreeMap Int PadAudioRoute := ∅
  bindings : TreeMap String String := ∅
  switches : SlotSwitchStores := {}
  micMuteStore : MicMuteStore := ∅
  presentPads : List PresentSlot := []
  slotList : List ControllerSlot := []
  mics : List MicRoute := []
  micEngine : MicCaptureEngine := {}
  armedMicSlotIds : List String := []
  capturingMicSlots : Nat := 0
  presence : List PresenceStep := []
  todo : List Op := []

namespace AppModel

def devices (m : AppModel) : List Device :=
  m.pads.zipIdx.filterMap fun (p, iid) =>
    if p.opened then
      some { id := sdlId iid, vendorId := p.vendorId, productId := p.productId
             bluetooth := p.bluetooth, pad := p.pad }
    else
      none

def hideSdlTwinsOfClaimedPads (m : AppModel) : List String :=
  let claimed := m.controllers.toList.filter fun (_, t) => t.isDirect
  let synthetics := claimed.map fun (_, t) =>
    { vendorId := t.controller.vendorId, productId := t.controller.productId : SyntheticTwin }
  let routed := m.devices.map fun d =>
    { id := d.id, vendorId := d.vendorId, productId := d.productId, disconnecting := false
      bluetooth := d.bluetooth : RoutedDevice }
  suppressedRoutedIds synthetics routed

def appendSdlSlots (m : AppModel) : List ControllerSlot :=
  let hidden := m.hideSdlTwinsOfClaimedPads
  (m.devices.filter fun d => d.id ∉ hidden).map fun d =>
    { id := d.id, vendorId := d.vendorId, productId := d.productId, bluetooth := d.bluetooth
      pad := d.pad }

def slotOfTracked (key : Int) (t : Tracked) : ControllerSlot where
  id := toString key
  vendorId := t.controller.vendorId
  productId := t.controller.productId
  bluetooth := false
  pad := t.pad

def appendDirectSlots (m : AppModel) : List ControllerSlot :=
  (m.controllers.toList.filter fun (_, t) => t.isDirect).map fun (key, t) => slotOfTracked key t

def appendAwaitingClaimSlots (m : AppModel) : List ControllerSlot :=
  (m.controllers.toList.filter fun (_, t) => !t.controller.frameworkExpected && !t.isDirect).map
    fun (key, t) => slotOfTracked key t

def shownSlots (m : AppModel) : List ControllerSlot :=
  m.appendSdlSlots ++ m.appendDirectSlots ++ m.appendAwaitingClaimSlots

def boundConnectionId (m : AppModel) (slotId : String) : Option String :=
  m.bindings[slotId]?.filter (· ≠ "")

def crossReferenceBindings (m : AppModel) (slots : List ControllerSlot) : List ControllerSlot :=
  slots.map fun s => { s with boundConnectionId := m.boundConnectionId s.id }

def republishRouting (m : AppModel) : AppModel :=
  { m with
    mics := m.slotList.filterMap fun s =>
      ((m.boundConnectionId s.id).bind (m.sessions[·]?)).bind fun conn =>
        conn.sendTarget.map fun controllerIndex => { slotId := s.id, controllerIndex } }

def audioIsStreaming (state : SessionState) : Bool :=
  state = .Live || state = .Faltering

/-- A Bluetooth pad has no audio of its own, and would be given the route of a USB twin. -/
def audioRouteForSlot (m : AppModel) (slotId : String) : PadAudioRoute :=
  let identity :=
    match parseSyntheticSlotId slotId with
    | some vp => some vp
    | none => ((m.devices.find? (·.id = slotId)).filter (!·.bluetooth)).map fun d =>
        (d.vendorId, d.productId)
  match padIdentityOf identity with
  | none => {}
  | some (vendorId, productId) => m.padAudioRoutes[slotPathVpKey vendorId productId]?.getD {}

def audioConnectionFor (m : AppModel) (s : ControllerSlot) : Option Session :=
  if s.bluetooth then none else s.boundConnectionId.bind (m.sessions[·]?)

structure AudioReconcile where
  armedMicSlotIds : List String := []
  capturingMicSlots : Nat := 0
  micTargets : List MicCaptureTarget := []

def kMicParticipants : Nat := 64

def collectMicForSlot (m : AppModel) (s : ControllerSlot) (conn : Session) (route : PadAudioRoute)
    (out : AudioReconcile)
    : AudioReconcile :=
  let mic : AudioSlotFacts :=
    { streaming := audioIsStreaming conn.state
      toggleOn := m.switches.mic.isEnabled kMicDefaultEnabled s.id
      routeMatched := route.microphone
      hostCarries := conn.hostMicAvailable
      muted := m.micMuteStore.isMuted s.id }
  let isCapturing := micCaptureEligible mic
  let out : AudioReconcile :=
    if micCaptureEligible { mic with muted := false } then
      { out with
        armedMicSlotIds := out.armedMicSlotIds ++ [s.id]
        capturingMicSlots := out.capturingMicSlots + if isCapturing then 1 else 0 }
    else
      out
  if !isCapturing then
    out
  else if m.micEngine.entries.size + out.micTargets.length ≥ kMicParticipants then
    out
  else
    { out with
      micTargets :=
        out.micTargets ++ [{ slotId := s.id, captureDeviceName := route.captureDeviceName }] }

def collectAudioForSlot (m : AppModel) (out : AudioReconcile) (s : ControllerSlot)
    : AudioReconcile :=
  match m.audioConnectionFor s with
  | none => out
  | some conn => m.collectMicForSlot s conn (m.audioRouteForSlot s.id) out

def reconcileAudioEngines (m : AppModel) (refused : List String) : AppModel :=
  let out := m.slotList.foldl m.collectAudioForSlot {}
  { m with
    micEngine := m.micEngine.reconcile out.micTargets refused
    armedMicSlotIds := out.armedMicSlotIds
    capturingMicSlots := out.capturingMicSlots }

def rebuildPass (m : AppModel) (refused : List String) : AppModel :=
  let m : AppModel := { m with
    presentPads := m.shownSlots.map (·.presentSlot)
    slotList := m.crossReferenceBindings m.shownSlots }
  let m := m.republishRouting
  let m : AppModel :=
    { m with micMuteStore := m.micMuteStore.retainOnly (m.slotList.map (·.id)) }
  m.reconcileAudioEngines refused

def boundPadIdentity (m : AppModel) (slotId : String) : Option (UInt16 × UInt16) :=
  match padIdentityFor slotId m.presentPads with
  | some identity => some identity
  | none =>
    match m.devices.find? (·.id = slotId) with
    | some d => padIdentityOf (some (d.vendorId, d.productId))
    | none => padIdentityOf (parseSyntheticSlotId slotId)

def presenceSteps (a : BindingPresenceAction) : List PresenceStep :=
  match a.kind with
  | .Unbind => [.unbind a.slotId]
  | .Migrate => [.unbind a.slotId, .migrate a.slotId a.toSlotId a.connId]

def applyBindingPresence (m : AppModel) : AppModel :=
  let rows := m.bindings.toList.map fun (slotId, connId) =>
    { slotId, connId, identity := m.boundPadIdentity slotId : BoundSlot }
  { m with presence := (resolveBindingPresence m.presentPads rows).flatMap presenceSteps }

def bind (m : AppModel) (slotId connectionId : String) : AppModel :=
  let prior := m.bindings.toList.find? fun (slot, id) => id = connectionId ∧ slot ≠ slotId
  let current :=
    match (prior.map (·.1)).filter (· ≠ "") with
    | some prior => m.bindings.erase prior
    | none => m.bindings
  { m with bindings := current.insert slotId connectionId }

def unbind (m : AppModel) (slotId : String) (refused : List String) : AppModel :=
  if m.bindings.contains slotId then
    { m with bindings := m.bindings.erase slotId }.rebuildPass refused
  else
    m

def executeStep (m : AppModel) (step : PresenceStep) (refused : List String) : AppModel :=
  match step with
  | .unbind slotId => m.unbind slotId refused
  | .migrate slotId toSlotId connectionId =>
    -- The carry comes first: the bind reads the switches into the descriptor.
    let m := { m with switches := carrySlotSwitches m.switches slotId toSlotId }
    (m.bind toSlotId connectionId).rebuildPass refused

def setPadMicMuted (m : AppModel) (vendorId productId : UInt16) (muted : Bool) : AppModel :=
  match m.controllers[slotPathVpKey vendorId productId]? with
  | none => m
  | some t =>
    { m with
      controllers := m.controllers.insert (slotPathVpKey vendorId productId)
        (t.setPadMicMuted muted) }

def setSlotMicMuted (m : AppModel) (slotId : String) (muted : Bool) (refused : List String)
    : AppModel :=
  if slotId = "" then
    m
  else
    let m := { m with micMuteStore := m.micMuteStore.setMuted slotId muted }
    let m :=
      match parseSyntheticSlotId slotId with
      | some (vendorId, productId) => m.setPadMicMuted vendorId productId muted
      | none => m
    m.rebuildPass refused

def rebuild : List Op :=
  [.rebuildPass, .applyBindingPresence]

def setPadAudioRoutes (m : AppModel) (routes : TreeMap Int PadAudioRoute) : AppModel :=
  if routes.toList = m.padAudioRoutes.toList then
    m
  else
    let republish := m.bindings.toList.flatMap fun (slotId, _) =>
      [.republishSlotCaps slotId, .applyBindingPresence]
    { m with padAudioRoutes := routes, todo := republish ++ rebuild ++ m.todo }

def republishSlotCaps (m : AppModel) (slotId : String) (refused : List String) : AppModel :=
  match m.boundConnectionId slotId with
  | none => m
  | some connectionId => (m.bind slotId connectionId).rebuildPass refused

def execute (m : AppModel) (op : Op) (refused : List String) : AppModel :=
  match op with
  | .rebuildPass => m.rebuildPass refused
  | .applyBindingPresence => m.applyBindingPresence
  | .setSlotMicMuted slotId muted _ => m.setSlotMicMuted slotId muted refused
  | .setPadAudioRoutes routes => m.setPadAudioRoutes routes
  | .republishSlotCaps slotId => m.republishSlotCaps slotId refused
  | .reconcileAudioEngines => m.reconcileAudioEngines refused

/-- The steps of the presence rule come before the rest of the call that ran into it. -/
def runNext (m : AppModel) (refused : List String) : Option AppModel :=
  match m.presence, m.todo with
  | step :: rest, _ => some ({ m with presence := rest }.executeStep step refused)
  | [], op :: rest => some ({ m with todo := rest }.execute op refused)
  | [], [] => none

end AppModel

end Slots
