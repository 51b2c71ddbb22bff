import Dish.Lib.Last
import Dish.Lib.Transition
import Dish.Moonlight.SessionMachine
import Dish.Moonlight.Routes

/-!
This module contains the two threads of forwarding: the main thread binds and unbinds step by step,
the input thread looks a route up and sends the frame later.
-/

namespace Moonlight

/--
`assigned` is no packet: the number is given to a slot there. A `state` is a CONTROLLER_MULTI.
-/
inductive WireEvent where
  | up
  | assigned (number : Nat)
  | arrival (number : Nat)
  | state (number : Nat) (mask : BitVec 16) (farewell : Bool)
  deriving DecidableEq

structure Bind where
  slotId : String
  hostId : String
  session : Nat
  ask : BindRequest
  deriving DecidableEq

inductive Place where
  | idle
  | erasing (slotId : String) (bind : Option Bind)
  | releasing (slotId : String) (route : Route) (bind : Option Bind)
  | parting (route : Route) (bind : Option Bind)
  | closing (route : Route) (bind : Option Bind)
  | assigning (b : Bind)
  | publishing (b : Bind) (number : Nat) (first : Bool)
  | arriving (b : Bind) (number : Nat) (first : Bool)
  | greeting (b : Bind) (number : Nat) (launches : Bool)
  | launching (b : Bind)
  | announcing (session : Nat) (numbers : List Nat)
  | introducing (session number : Nat) (numbers : List Nat)
  deriving DecidableEq

def Place.afterUnbind : Option Bind → Place
  | some b => .assigning b
  | none => .idle

structure InFlight where
  session : Nat
  frame : ControllerState
  deriving DecidableEq

structure Forwarding where
  manager : MoonlightManager := {}
  states : Nat → SessionState := fun _ => {}
  wires : Nat → List WireEvent := fun _ => []
  place : Place := .idle
  inFlight : List InFlight := []

namespace Forwarding

def streaming (f : Forwarding) (session : Nat) : Bool :=
  (f.states session).phase = .Streaming ∨ (f.states session).phase = .Faltering

def record (f : Forwarding) (session : Nat) (events : List WireEvent) : Forwarding :=
  { f with wires := Function.update f.wires session (f.wires session ++ events) }

def send (f : Forwarding) (session : Nat) (packets : List WireEvent) : Forwarding :=
  f.record session (if f.streaming session then packets else [])

def signal (f : Forwarding) (session : Nat) (event : SessionEvent) : Forwarding :=
  { f with states := Function.update f.states session (nextSession (f.states session) event) }

def call (f : Forwarding) (session : Nat) (call : SessionCall) : Forwarding :=
  { f with manager := f.manager.callSession session call }

def presentMask (f : Forwarding) (session : Nat) : BitVec 16 :=
  (f.manager.announced session).keys.foldl (fun mask number => mask ||| 1#16 <<< number) 0#16

def sendInitialState (f : Forwarding) (session number : Nat) : List WireEvent :=
  [.state number (f.presentMask session) false]

def launchPick (f : Forwarding) (b : Bind) : Forwarding :=
  if b.ask.pickRemoved then f else (f.call b.session .launch).signal b.session .StartLaunch

def quit (f : Forwarding) (session : Nat) : Forwarding :=
  let f := f.call session .quit
  if (f.states session).phase = .Idle ∨ (f.states session).phase = .Closed then f
  else f.signal session .UserQuit

def reannounceInPlace (f : Forwarding) (b : Bind) (number : Nat) : Forwarding :=
  if ((f.manager.announced b.session)[number]?).all fun held =>
      hostBuildsAnotherPad held b.ask.arrival then
    let f := f.call b.session (.sendControllerReplug number b.ask.arrival)
    { f.send b.session
        [.state number (f.presentMask b.session &&& ~~~(1#16 <<< number)) false, .arrival number] with
      place := .greeting b number true }
  else { f with place := .launching b }

def bindSlot (f : Forwarding) (slotId hostId : String) (ask : BindRequest) : Forwarding :=
  if !ask.known then f
  else
    match f.manager.ensureSession hostId ask.identity with
    | (none, manager) => { f with manager }
    | (some session, manager) =>
      let b : Bind := { slotId, hostId, session, ask }
      match manager.numberOnSession slotId session with
      | some held => { f with manager := manager.keepPicks slotId ask }.reannounceInPlace b held
      | none => { f with manager, place := .erasing slotId (some b) }

def dispatch (f : Forwarding) (session : Nat) (event : SessionEvent) : Forwarding :=
  if .SendArrival ∈ (reduceSession (f.states session) event).effects then
    { (f.signal session event).record session [.up] with
      place := .announcing session (f.manager.announced session).keys }
  else f.signal session event

/-- What only the main thread reads changes together with what it sends. -/
def main (f : Forwarding) : Option Forwarding :=
  let m := f.manager
  match f.place with
  | .idle => none
  | .erasing slotId bind =>
    match m.routes[slotId]? with
    | none => some { f with place := .afterUnbind bind }
    | some route =>
      let routes := m.routes.erase slotId
      some
        { f with
          manager := { m with routes, anyBound := !routes.isEmpty }
          place := .releasing slotId route bind }
  | .releasing slotId route bind =>
    some
      { f with
        manager :=
          { m with
            padSlots := m.padSlots.insert route.hostId ((m.padSet route.hostId).release slotId) }
        place := .parting route bind }
  | .parting route bind =>
    let mask := (m.padSet route.hostId).activeMask
    let f := f.call route.session (.sendControllerState
      { controllerNumber := route.controllerNumber, activeGamepadMask := mask })
    let f := f.send route.session [.state route.controllerNumber mask true]
    some
      { f.call route.session (.forgetControllerArrival route.controllerNumber) with
        place := .closing route bind }
  | .closing route bind =>
    let f := if (m.padSet route.hostId).isEmpty then f.quit route.session else f
    some { f with place := .afterUnbind bind }
  | .assigning b =>
    let padSet := m.padSet b.hostId
    match padSet.assign b.slotId with
    | none =>
      some
        { f with
          manager := { m with padSlots := m.padSlots.insert b.hostId padSet }
          place := .idle }
    | some (number, assigned) =>
      some
        { f.record b.session [.assigned number] with
          manager := { m with padSlots := m.padSlots.insert b.hostId assigned }
          place := .publishing b number padSet.isEmpty }
  | .publishing b number first =>
    let route : Route :=
      { session := b.session, controllerNumber := number, hostId := b.hostId,
        userMotionOn := b.ask.userMotionOn, touchReaches := b.ask.touchReaches }
    some
      { f with
        manager := { m with routes := m.routes.insert b.slotId route, anyBound := true }
        place := .arriving b number first }
  | .arriving b number first =>
    let f := f.call b.session (.sendControllerArrival number b.ask.arrival)
    some { f.send b.session [.arrival number] with place := .greeting b number first }
  | .greeting b number launches =>
    let f := f.send b.session (f.sendInitialState b.session number)
    some { f with place := if launches then .launching b else .idle }
  | .launching b => some { f.launchPick b with place := .idle }
  | .announcing _ [] => some { f with place := .idle }
  | .announcing session (number :: numbers) =>
    some { f.record session [.arrival number] with place := .introducing session number numbers }
  | .introducing session number numbers =>
    some
      { f.record session (f.sendInitialState session number) with
        place := .announcing session numbers }

def lookUp (f : Forwarding) (slotId : String) (report : PadReport) : Forwarding :=
  if !f.manager.anyBound then f
  else
    match f.manager.routes[slotId]? with
    | none => f
    | some route =>
      let frame : ControllerState :=
        { controllerNumber := route.controllerNumber
          activeGamepadMask := f.manager.activeMask route
          buttonFlags := sanitizeButtonFlags report.buttons
          buttonFlags2 := touchpadClickFlags2 route.clickHeld
          leftTrigger := report.lt
          rightTrigger := report.rt
          leftStickX := report.lx
          leftStickY := report.ly
          rightStickX := report.rx
          rightStickY := report.ry }
      { f with
        manager :=
          { f.manager with routes := f.manager.routes.insert slotId { route with lastFrame := frame } }
        inFlight := f.inFlight.concat { session := route.session, frame } }

def sendLookedUp (f : Forwarding) (i : Nat) : Option Forwarding := do
  let waiting ← f.inFlight[i]?
  let f := { f with inFlight := f.inFlight.eraseIdx i }
  let f := f.call waiting.session (.sendControllerState waiting.frame)
  some (f.send waiting.session
    [.state waiting.frame.controllerNumber waiting.frame.activeGamepadMask false])

inductive Act where
  | bindSlot (slotId hostId : String) (ask : BindRequest)
  | unbindSlot (slotId : String)
  | signal (session : Nat) (event : SessionEvent)
  | main
  | lookUp (slotId : String) (report : PadReport)
  | send (i : Nat)
  deriving DecidableEq

def step (f : Forwarding) : Act → Option Forwarding
  | .bindSlot slotId hostId ask => if f.place = .idle then some (f.bindSlot slotId hostId ask) else none
  | .unbindSlot slotId => if f.place = .idle then some { f with place := .erasing slotId none } else none
  | .signal session event =>
    if f.place = .idle ∧ session < f.manager.created then some (f.dispatch session event) else none
  | .main => f.main
  | .lookUp slotId report => some (f.lookUp slotId report)
  | .send i => f.sendLookedUp i

def run : Forwarding → List Act → Option Forwarding :=
  Transition.run step

def busy (f : Forwarding) : List Nat :=
  match f.place with
  | .idle => []
  | .erasing slotId bind =>
    (f.manager.routes[slotId]?.map Route.session).toList ++ (bind.map Bind.session).toList
  | .releasing _ route bind | .parting route bind | .closing route bind =>
    route.session :: (bind.map Bind.session).toList
  | .assigning b | .publishing b _ _ | .arriving b _ _ | .greeting b _ _ | .launching b => [b.session]
  | .announcing session _ | .introducing session _ _ => [session]

end Forwarding

section

variable (number : Nat)

def WireEvent.starts : WireEvent → Bool
  | .up => true
  | .assigned n => n = number
  | _ => false

def WireEvent.arrives : WireEvent → Option Unit
  | .arrival n => if n = number then some () else none
  | _ => none

def arrivedOn (wire : List WireEvent) : Bool :=
  (lastSince (WireEvent.starts number) (WireEvent.arrives number) wire).isSome

def WireEvent.returns : WireEvent → Bool
  | .up => true
  | .arrival n => n = number
  | _ => false

def WireEvent.leaves : WireEvent → Option Unit
  | .state n _ farewell => if n = number ∧ farewell = true then some () else none
  | _ => none

def goneFrom (wire : List WireEvent) : Bool :=
  (lastSince (WireEvent.returns number) (WireEvent.leaves number) wire).isSome

end

end Moonlight
