import Dish.Lib.Last
import Dish.Lib.Transition
import Dish.Moonlight.SessionMachine
import Dish.Moonlight.Routes

/-!
This module contains the sessions of a `MoonlightManager` with their control streams, motion and
rumble.
-/

namespace Moonlight

def kMotionAccel : Nat := 0x01
def kMotionGyro : Nat := 0x02

structure BodyRumble where
  strong : UInt16 := 0
  weak : UInt16 := 0
  deriving DecidableEq

structure RumbleMix where
  bodyStrong : UInt16 := 0
  bodyWeak : UInt16 := 0
  triggerLeft : UInt16 := 0
  triggerRight : UInt16 := 0
  deriving DecidableEq

def mixRumble (mix : RumbleMix) : BodyRumble where
  strong := if mix.bodyStrong > mix.triggerLeft then mix.bodyStrong else mix.triggerLeft
  weak := if mix.bodyWeak > mix.triggerRight then mix.bodyWeak else mix.triggerRight

def withBodyRumble (mix : RumbleMix) (strong weak : UInt16) : RumbleMix :=
  { mix with bodyStrong := strong, bodyWeak := weak }

def withTriggerRumble (mix : RumbleMix) (left right : UInt16) : RumbleMix :=
  { mix with triggerLeft := left, triggerRight := right }

structure MotionGate where
  rates : Nat → Nat → Option Nat := fun _ _ => none
  lastSentUs : Nat → Nat → Option Int := fun _ _ => none

namespace MotionGate

def onMotionRequest (g : MotionGate) (number type rateHz : Nat) : MotionGate :=
  if rateHz = 0 then
    { rates := Function.update g.rates number (Function.update (g.rates number) type none)
      lastSentUs :=
        Function.update g.lastSentUs number (Function.update (g.lastSentUs number) type none) }
  else
    { g with
      rates := Function.update g.rates number (Function.update (g.rates number) type (some rateHz)) }

def clear (g : MotionGate) (number : Nat) : MotionGate where
  rates := Function.update g.rates number fun _ => none
  lastSentUs := Function.update g.lastSentUs number fun _ => none

def due (g : MotionGate) (number type : Nat) (nowUs : Int) : Bool :=
  match g.rates number type with
  | none => false
  | some rate =>
    match g.lastSentUs number type with
    | none => true
    | some last => nowUs - last ≥ (1000000 / rate : Nat)

def marked (g : MotionGate) (number type : Nat) (nowUs : Int) : MotionGate :=
  { g with
    lastSentUs :=
      Function.update g.lastSentUs number (Function.update (g.lastSentUs number) type (some nowUs)) }

section

variable (g : MotionGate) (number type n t rateHz : Nat)

theorem update_update_apply (f : Nat → Nat → Option β) (value : Option β)
    : Function.update f n (Function.update (f n) t value) number type =
      if number = n ∧ type = t then value else f number type := by
  by_cases hnumber : number = n
  . subst hnumber
    simp [Function.update_apply]
  . simp [hnumber]

@[grind =]
theorem rates_clear
    : (g.clear n).rates number type = if number = n then none else g.rates number type := by
  simp only [clear, Function.update_apply]
  split <;> rfl

@[grind =]
theorem lastSentUs_clear
    : (g.clear n).lastSentUs number type = if number = n then none else g.lastSentUs number type := by
  simp only [clear, Function.update_apply]
  split <;> rfl

@[grind =]
theorem rates_onMotionRequest
    : (g.onMotionRequest n t rateHz).rates number type =
      if number = n ∧ type = t then (if rateHz = 0 then none else some rateHz)
      else g.rates number type := by
  unfold onMotionRequest
  split <;> exact update_update_apply _ _ _ _ _ _

@[grind =]
theorem lastSentUs_onMotionRequest
    : (g.onMotionRequest n t rateHz).lastSentUs number type =
      if (number = n ∧ type = t) ∧ rateHz = 0 then none else g.lastSentUs number type := by
  unfold onMotionRequest
  split
  next hzero => simp [update_update_apply, hzero]
  next hpos => simp [hpos]

@[grind =]
theorem lastSentUs_marked (nowUs : Int)
    : (g.marked n t nowUs).lastSentUs number type =
      if number = n ∧ type = t then some nowUs else g.lastSentUs number type := by
  exact update_update_apply number type n t g.lastSentUs (some nowUs)

@[grind =]
theorem rates_marked (nowUs : Int) : (g.marked n t nowUs).rates = g.rates := by
  rfl

end

end MotionGate

/--
`announced` is a CONTROLLER_ARRIVAL that goes out, `held` one that is kept until a stream is up.
`heard` is how long the log was when the rumble came.
-/
inductive StreamEvent where
  | up
  | announced (number : Nat)
  | held (number : Nat)
  | motionRequest (number type rateHz : Nat)
  | motion (number type : Nat) (nowUs : Int)
  | rumble (number : Nat) (lowFreq highFreq : UInt16)
  | triggerRumble (number : Nat) (left right : UInt16)
  | delivered (number : Nat) (level : BodyRumble) (heard : Nat)
  deriving DecidableEq

structure QueuedLevel where
  number : Nat
  level : BodyRumble
  heard : Nat
  deriving DecidableEq

structure Stream where
  state : SessionState := {}
  gate : MotionGate := {}
  rumbleMix : Nat → RumbleMix := fun _ => {}
  queued : List QueuedLevel := []
  log : List StreamEvent := []

namespace Stream

def streaming (s : Stream) : Bool :=
  s.state.phase = .Streaming ∨ s.state.phase = .Faltering

def record (s : Stream) (event : StreamEvent) : Stream :=
  { s with log := s.log ++ [event] }

def announce (s : Stream) (number : Nat) : Stream :=
  s.record (if s.streaming then .announced number else .held number)

def call (s : Stream) : SessionCall → Stream
  | .sendControllerState _ | .forgetControllerArrival _ => s
  | .sendControllerArrival number _ => s.announce number
  | .sendControllerReplug number _ => { s with gate := s.gate.clear number }.announce number
  | .launch => { s with state := nextSession s.state .StartLaunch }
  | .quit =>
    if s.state.phase = .Idle ∨ s.state.phase = .Closed then s
    else { s with state := nextSession s.state .UserQuit }

def sendPendingArrivals (s : Stream) (arrivals : List Nat) : Stream :=
  arrivals.foldl (fun s number => s.record (.announced number)) (s.record .up)

def dispatch (s : Stream) (arrivals : List Nat) (event : SessionEvent) : Stream :=
  let r := reduceSession s.state event
  let s := { s with state := nextSession s.state event }
  if .SendArrival ∈ r.effects then s.sendPendingArrivals arrivals else s

def onMotionRequest (s : Stream) (number type rateHz : Nat) : Stream :=
  { s with gate := s.gate.onMotionRequest number type rateHz }.record
    (.motionRequest number type rateHz)

def sendControllerMotion (s : Stream) (number type : Nat) (nowUs : Int) : Stream :=
  if !s.streaming || !s.gate.due number type nowUs then s
  else { s with gate := s.gate.marked number type nowUs }.record (.motion number type nowUs)

def publishRumbleMix (s : Stream) (number : Nat) (event : StreamEvent) (mix : RumbleMix) : Stream :=
  { s with
    rumbleMix := Function.update s.rumbleMix number mix
    queued := s.queued.concat ⟨number, mixRumble mix, s.log.length + 1⟩ }.record event

def onRumble (s : Stream) (number : Nat) (lowFreq highFreq : UInt16) : Stream :=
  s.publishRumbleMix number (.rumble number lowFreq highFreq)
    (withBodyRumble (s.rumbleMix number) lowFreq highFreq)

def onRumbleTrigger (s : Stream) (number : Nat) (left right : UInt16) : Stream :=
  s.publishRumbleMix number (.triggerRumble number left right)
    (withTriggerRumble (s.rumbleMix number) left right)

end Stream

structure Streams where
  manager : MoonlightManager := {}
  streams : Nat → Stream := fun _ => {}
  nowUs : Int := 0

namespace Streams

def update (σ : Streams) (session : Nat) (f : Stream → Stream) : Streams :=
  { σ with streams := Function.update σ.streams session (f (σ.streams session)) }

theorem forall_update {σ : Streams} {P : Stream → Prop} (h : ∀ session, P (σ.streams session))
    {session : Nat} {f : Stream → Stream} (hf : P (f (σ.streams session)))
    : ∀ session', P ((σ.update session f).streams session') := by
  intro session'
  by_cases heq : session' = session
  . subst heq
    simpa [update] using hf
  . simpa [update, heq] using h session'

def arrivals (σ : Streams) (session : Nat) : List Nat :=
  (σ.manager.announced session).keys

def newCalls (m : MoonlightManager) (a : MoonlightManager.Act) : List (Nat × SessionCall) :=
  (m.step a).calls.drop m.calls.length

def manage (σ : Streams) (a : MoonlightManager.Act) : Streams :=
  (newCalls σ.manager a).foldl (fun σ c => σ.update c.1 fun s => s.call c.2)
    { σ with manager := σ.manager.step a }

def forwardMotion (σ : Streams) (slotId : String) (gyroUs accelUs : Int) : Streams :=
  if !σ.manager.anyBound then σ
  else
    match σ.manager.routes[slotId]? with
    | none => σ
    | some route =>
      if !route.userMotionOn then σ
      else
        { σ with nowUs := accelUs }.update route.session fun s =>
          (s.sendControllerMotion route.controllerNumber kMotionGyro gyroUs).sendControllerMotion
            route.controllerNumber kMotionAccel accelUs

def slotForController (m : MoonlightManager) (hostId : String) (number : Nat) : Option String :=
  (m.routes.toList.find? fun entry =>
    entry.2.hostId = hostId ∧ entry.2.controllerNumber = number).map Prod.fst

def deliver (σ : Streams) (hostId : String) : Option Streams := do
  let session ← σ.manager.sessions[hostId]?
  match (σ.streams session).queued with
  | [] => none
  | level :: queued =>
    let σ := σ.update session fun s => { s with queued }
    match slotForController σ.manager hostId level.number with
    | some _ => some (σ.update session fun s =>
        s.record (.delivered level.number level.level level.heard))
    | none => some σ

inductive Act where
  | manage (a : MoonlightManager.Act)
  | signal (session : Nat) (event : SessionEvent)
  | motionRequest (session number type rateHz : Nat)
  | forwardMotion (slotId : String) (gyroUs accelUs : Int)
  | rumble (session number : Nat) (lowFreq highFreq : UInt16)
  | triggerRumble (session number : Nat) (left right : UInt16)
  | deliver (hostId : String)
  deriving DecidableEq

def step (σ : Streams) : Act → Option Streams
  | .manage a => some (σ.manage a)
  | .signal session event => some (σ.update session fun s => s.dispatch (σ.arrivals session) event)
  | .motionRequest session number type rateHz =>
    some (σ.update session fun s => s.onMotionRequest number type rateHz)
  | .forwardMotion slotId gyroUs accelUs =>
    if σ.nowUs ≤ gyroUs ∧ gyroUs ≤ accelUs then some (σ.forwardMotion slotId gyroUs accelUs) else none
  | .rumble session number lowFreq highFreq =>
    some (σ.update session fun s => s.onRumble number lowFreq highFreq)
  | .triggerRumble session number left right =>
    some (σ.update session fun s => s.onRumbleTrigger number left right)
  | .deliver hostId => σ.deliver hostId

def run : Streams → List Act → Option Streams :=
  Transition.run step

def bindPad (slotId : String) : Act :=
  .manage (.bindSlot slotId "den"
    { known := true, identity := true, arrival := ⟨1#8, 2#8⟩, touchReaches := true,
      userMotionOn := true, pickRemoved := false })

def denIsUp : List Act :=
  [bindPad "a", bindPad "b", .signal 0 .LaunchSucceeded, .signal 0 .RtspSucceeded,
    .signal 0 .ControlConnected]

end Streams

section

variable (number : Nat)

def StreamEvent.resets : StreamEvent → Bool
  | .up => true
  | .announced n | .held n => n = number
  | _ => false

def StreamEvent.unannounces : StreamEvent → Bool
  | .up => true
  | .held n => n = number
  | _ => false

def StreamEvent.announces : StreamEvent → Option Unit
  | .announced n => if n = number then some () else none
  | _ => none

def announcedOn (log : List StreamEvent) : Bool :=
  (lastSince (StreamEvent.unannounces number) (StreamEvent.announces number) log).isSome

end

section

variable {number : Nat} {log : List StreamEvent} {event : StreamEvent}

theorem announcedOn_of_concat (h : announcedOn number (log ++ [event]) = true)
    : event = .announced number ∨
      (announcedOn number log = true ∧ event.resets number = false) := by
  cases event
  all_goals grind [announcedOn, lastSince_concat, StreamEvent.unannounces, StreamEvent.announces,
    StreamEvent.resets]

theorem announcedOn_concat (h : announcedOn number log = true) (hevent : event.resets number = false)
    : announcedOn number (log ++ [event]) = true := by
  cases event
  all_goals grind [announcedOn, lastSince_concat, StreamEvent.unannounces, StreamEvent.announces,
    StreamEvent.resets]

theorem announcedOn_announced : announcedOn number (log ++ [.announced number]) = true := by
  simp [announcedOn, StreamEvent.unannounces, StreamEvent.announces]

end

end Moonlight
