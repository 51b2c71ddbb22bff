import Std.Data.TreeMap
import Dish.Moonlight.PadSlots

/-!
This module contains the routing of slots to Moonlight hosts.
-/

open Std

namespace Moonlight

structure AnnouncedPad where
  type : BitVec 8
  capabilities : BitVec 8
  deriving DecidableEq

def kCapsReadAtArrival : BitVec 8 := 0x30#8

def hostBuildsAnotherPad (held wanted : AnnouncedPad) : Bool :=
  held.type ≠ wanted.type ∨
    (held.capabilities ^^^ wanted.capabilities) &&& kCapsReadAtArrival ≠ 0#8

structure ControllerState where
  controllerNumber : Nat := 0
  activeGamepadMask : BitVec 16 := 0x0001#16
  buttonFlags : BitVec 16 := 0#16
  buttonFlags2 : BitVec 16 := 0#16
  leftTrigger : BitVec 8 := 0#8
  rightTrigger : BitVec 8 := 0#8
  leftStickX : BitVec 16 := 0#16
  leftStickY : BitVec 16 := 0#16
  rightStickX : BitVec 16 := 0#16
  rightStickY : BitVec 16 := 0#16
  deriving DecidableEq

def kSatelliteOnlyButtonBits : BitVec 16 := 0x0800#16

def sanitizeButtonFlags (xusbButtons : BitVec 16) : BitVec 16 :=
  xusbButtons &&& ~~~kSatelliteOnlyButtonBits

def touchpadClickFlags2 (clickHeld : Bool) : BitVec 16 :=
  if clickHeld then 0x0010#16 else 0#16

inductive SessionCall where
  | sendControllerState (state : ControllerState)
  | sendControllerArrival (number : Nat) (pad : AnnouncedPad)
  | sendControllerReplug (number : Nat) (pad : AnnouncedPad)
  | forgetControllerArrival (number : Nat)
  | launch
  | quit
  deriving DecidableEq

structure Route where
  session : Nat
  controllerNumber : Nat
  hostId : String
  userMotionOn : Bool := true
  touchReaches : Bool := true
  clickHeld : Bool := false
  lastFrame : ControllerState := {}
  deriving DecidableEq

inductive BindOutcome where
  | Bound
  | UnknownHost
  | NoIdentity
  | HostFull
  deriving DecidableEq

/-- `created` counts the session objects made, `arrivals` is what each holds to announce. -/
structure MoonlightManager where
  hasIdentity : Bool := false
  created : Nat := 0
  sessions : TreeMap String Nat := ∅
  routes : TreeMap String Route := ∅
  anyBound : Bool := false
  padSlots : TreeMap String PadSlots := ∅
  arrivals : TreeMap Nat (TreeMap Nat AnnouncedPad) := ∅
  calls : List (Nat × SessionCall) := []

/-- What a bind finds and is given. -/
structure BindRequest where
  known : Bool
  identity : Bool
  arrival : AnnouncedPad
  touchReaches : Bool
  userMotionOn : Bool
  pickRemoved : Bool
  deriving DecidableEq

structure PadReport where
  buttons : BitVec 16
  lt : BitVec 8
  rt : BitVec 8
  lx : BitVec 16
  ly : BitVec 16
  rx : BitVec 16
  ry : BitVec 16
  deriving DecidableEq

namespace MoonlightManager

def padSet (m : MoonlightManager) (hostId : String) : PadSlots :=
  m.padSlots[hostId]?.getD .empty

def announced (m : MoonlightManager) (session : Nat) : TreeMap Nat AnnouncedPad :=
  m.arrivals[session]?.getD ∅

def callSession (m : MoonlightManager) (session : Nat) (call : SessionCall) : MoonlightManager :=
  let arrivals :=
    match call with
    | .sendControllerArrival number pad | .sendControllerReplug number pad =>
      m.arrivals.insert session ((m.announced session).insert number pad)
    | .forgetControllerArrival number =>
      m.arrivals.insert session ((m.announced session).erase number)
    | .sendControllerState _ | .launch | .quit => m.arrivals
  { m with arrivals, calls := m.calls ++ [(session, call)] }

def ensureSession (m : MoonlightManager) (hostId : String) (identity : Bool)
    : Option Nat × MoonlightManager :=
  match m.sessions[hostId]? with
  | some existing => (some existing, m)
  | none =>
    if m.hasIdentity || identity then
      (some m.created,
        { m with
          hasIdentity := true
          created := m.created + 1
          sessions := m.sessions.insert hostId m.created })
    else (none, m)

def numberOnSession (m : MoonlightManager) (slotId : String) (session : Nat) : Option Nat :=
  m.routes[slotId]?.bind fun route =>
    if route.session = session then some route.controllerNumber else none

def launchPick (m : MoonlightManager) (session : Nat) (ask : BindRequest) : MoonlightManager :=
  if ask.pickRemoved then m else m.callSession session .launch

def reannounceInPlace (m : MoonlightManager) (session number : Nat) (wanted : AnnouncedPad)
    : MoonlightManager :=
  if ((m.announced session)[number]?).all fun held => hostBuildsAnotherPad held wanted then
    m.callSession session (.sendControllerReplug number wanted)
  else m

def keepPicks (m : MoonlightManager) (slotId : String) (ask : BindRequest) : MoonlightManager :=
  match m.routes[slotId]? with
  | some route =>
    { m with
      routes := m.routes.insert slotId
        { route with userMotionOn := ask.userMotionOn, touchReaches := ask.touchReaches } }
  | none => m

def farewell (m : MoonlightManager) (route : Route) (padSet : PadSlots) : MoonlightManager :=
  let m := m.callSession route.session (.sendControllerState
    { controllerNumber := route.controllerNumber, activeGamepadMask := padSet.activeMask })
  let m := m.callSession route.session (.forgetControllerArrival route.controllerNumber)
  if padSet.isEmpty then m.callSession route.session .quit else m

def unbindSlot (m : MoonlightManager) (slotId : String) : MoonlightManager :=
  match m.routes[slotId]? with
  | none => m
  | some route =>
    let routes := m.routes.erase slotId
    let padSet := (m.padSet route.hostId).release slotId
    { m with
      routes
      anyBound := !routes.isEmpty
      padSlots := m.padSlots.insert route.hostId padSet }.farewell route padSet

def bindFresh (m : MoonlightManager) (slotId hostId : String) (session : Nat) (ask : BindRequest)
    : BindOutcome × MoonlightManager :=
  let padSet := m.padSet hostId
  match padSet.assign slotId with
  | none => (.HostFull, { m with padSlots := m.padSlots.insert hostId padSet })
  | some (number, assigned) =>
    let route : Route :=
      { session, controllerNumber := number, hostId, userMotionOn := ask.userMotionOn,
        touchReaches := ask.touchReaches }
    let m :=
      { m with
        padSlots := m.padSlots.insert hostId assigned
        routes := m.routes.insert slotId route
        anyBound := true }
    let m := m.callSession session (.sendControllerArrival number ask.arrival)
    (.Bound, if padSet.isEmpty then m.launchPick session ask else m)

def bindSlot (m : MoonlightManager) (slotId hostId : String) (ask : BindRequest)
    : BindOutcome × MoonlightManager :=
  if !ask.known then (.UnknownHost, m)
  else
    match m.ensureSession hostId ask.identity with
    | (none, m) => (.NoIdentity, m)
    | (some session, m) =>
      match m.numberOnSession slotId session with
      | some held =>
        (.Bound,
          ((m.keepPicks slotId ask).reannounceInPlace session held ask.arrival).launchPick
            session ask)
      | none => (m.unbindSlot slotId).bindFresh slotId hostId session ask

def slotsRoutedTo (m : MoonlightManager) (hostId : String) : List String :=
  (m.routes.toList.filter fun entry => entry.2.hostId = hostId).map Prod.fst

def releaseRoutesAt (m : MoonlightManager) (hostId : String) : MoonlightManager :=
  let m := (m.slotsRoutedTo hostId).foldl unbindSlot m
  { m with padSlots := m.padSlots.erase hostId }

def forgetHost (m : MoonlightManager) (hostId : String) : MoonlightManager :=
  let session := m.sessions[hostId]?
  let m := { m with sessions := m.sessions.erase hostId }.releaseRoutesAt hostId
  match session with
  | some session => m.callSession session .quit
  | none => m

def activeMask (m : MoonlightManager) (route : Route) : BitVec 16 :=
  match m.padSlots[route.hostId]? with
  | some padSet => padSet.activeMask
  | none => 1#16 <<< route.controllerNumber

def sendFrame (m : MoonlightManager) (slotId : String) (route : Route) (frame : ControllerState)
    : MoonlightManager :=
  { m with
    routes := m.routes.insert slotId { route with lastFrame := frame } }.callSession route.session
      (.sendControllerState frame)

def forwardReport (m : MoonlightManager) (slotId : String) (report : PadReport) : MoonlightManager :=
  if !m.anyBound then m
  else
    match m.routes[slotId]? with
    | none => m
    | some route =>
      m.sendFrame slotId route
        { controllerNumber := route.controllerNumber
          activeGamepadMask := m.activeMask route
          buttonFlags := sanitizeButtonFlags report.buttons
          buttonFlags2 := touchpadClickFlags2 route.clickHeld
          leftTrigger := report.lt
          rightTrigger := report.rt
          leftStickX := report.lx
          leftStickY := report.ly
          rightStickX := report.rx
          rightStickY := report.ry }

def forwardClick (m : MoonlightManager) (slotId : String) (buttonPressed : Bool)
    : MoonlightManager :=
  if !m.anyBound then m
  else
    match m.routes[slotId]? with
    | none => m
    | some route =>
      let clickHeld := buttonPressed && route.touchReaches
      if clickHeld = route.clickHeld then m
      else
        m.sendFrame slotId { route with clickHeld }
          { route.lastFrame with
            controllerNumber := route.controllerNumber
            activeGamepadMask := m.activeMask route
            buttonFlags2 := touchpadClickFlags2 clickHeld }

inductive Act where
  | bindSlot (slotId hostId : String) (ask : BindRequest)
  | unbindSlot (slotId : String)
  | forgetHost (hostId : String)
  | ensureSession (hostId : String) (identity : Bool)
  | forwardReport (slotId : String) (report : PadReport)
  | forwardClick (slotId : String) (buttonPressed : Bool)
  deriving DecidableEq

def step (m : MoonlightManager) : Act → MoonlightManager
  | .bindSlot slotId hostId ask => (m.bindSlot slotId hostId ask).2
  | .unbindSlot slotId => m.unbindSlot slotId
  | .forgetHost hostId => m.forgetHost hostId
  | .ensureSession hostId identity => (m.ensureSession hostId identity).2
  | .forwardReport slotId report => m.forwardReport slotId report
  | .forwardClick slotId buttonPressed => m.forwardClick slotId buttonPressed

def run (m : MoonlightManager) (acts : List Act) : MoonlightManager :=
  acts.foldl step m

end MoonlightManager

end Moonlight
