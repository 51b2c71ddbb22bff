/-!
This module contains the lifecycle of a session with a Moonlight host.
-/

namespace Moonlight

inductive SessionPhase where
  | Idle
  | Pairing
  | Paired
  | Launching
  | RtspHandshake
  | ControlConnecting
  | Streaming
  | Faltering
  | Closed
  | Failed
  deriving DecidableEq

inductive SessionFailure where
  | None
  | PairRejected
  | Unreachable
  | LaunchRejected
  | AppAlreadyRunning
  | ResumeRejected
  | RtspFailed
  | ControlFailed
  | LinkDropped
  | ServerTerminated
  deriving DecidableEq

structure SessionState where
  phase : SessionPhase := .Idle
  failure : SessionFailure := .None
  deriving DecidableEq

inductive SessionEvent where
  | StartPairing
  | PairSucceeded
  | PairFailed
  | StartLaunch
  | LaunchSucceeded
  | LaunchFailed
  | LaunchRefusedBusy
  | ResumeRefused
  | RtspSucceeded
  | RtspFailed
  | ControlConnected
  | ControlConnectFailed
  | PingsMissed
  | PingsRecovered
  | ServerTerminated
  | ControlDropped
  | Unreachable
  | UserQuit
  deriving DecidableEq

inductive SessionEffect where
  | BeginPairing
  | BeginLaunch
  | BeginRtsp
  | ConnectControl
  | SendArrival
  | StartPinging
  | StopPinging
  | Teardown
  | CancelOnHost
  | NotifyFailure
  deriving DecidableEq

def hostHoldsOurApp : SessionPhase → Bool
  | .RtspHandshake | .ControlConnecting | .Streaming | .Faltering => true
  | .Idle | .Pairing | .Paired | .Launching | .Closed | .Failed => false

@[grind =]
theorem hostHoldsOurApp_eq_true {phase : SessionPhase}
    : hostHoldsOurApp phase = true ↔
      phase ∈ [.RtspHandshake, .ControlConnecting, .Streaming, .Faltering] := by
  cases phase <;> decide

structure SessionReduction where
  next : Option SessionState := none
  effects : List SessionEffect := []
  deriving DecidableEq

def SessionReduction.to (phase : SessionPhase) (effects : List SessionEffect)
    (failure : SessionFailure := .None) : SessionReduction where
  next := some { phase, failure }
  effects

def inPhases (s : SessionState) (phases : List SessionPhase) (r : SessionReduction)
    : SessionReduction :=
  if s.phase ∈ phases then r else {}

def reduceUserQuit (s : SessionState) : SessionReduction :=
  if s.phase ∈ [.Idle, .Closed, .Failed] then {}
  else if hostHoldsOurApp s.phase then .to .Closed [.Teardown, .CancelOnHost]
  else .to .Closed [.Teardown]

def reduceLaunchSucceeded (s : SessionState) : SessionReduction :=
  if s.phase = .Launching then .to .RtspHandshake [.BeginRtsp]
  else if s.phase = .Closed then { effects := [.CancelOnHost] }
  else {}

def reduceSession (s : SessionState) : SessionEvent → SessionReduction
  | .StartPairing => inPhases s [.Idle, .Failed, .Closed] (.to .Pairing [.BeginPairing])
  | .PairSucceeded => inPhases s [.Pairing] (.to .Paired [])
  | .PairFailed => inPhases s [.Pairing] (.to .Failed [.NotifyFailure] .PairRejected)
  | .StartLaunch => inPhases s [.Idle, .Paired, .Closed, .Failed] (.to .Launching [.BeginLaunch])
  | .LaunchSucceeded => reduceLaunchSucceeded s
  | .LaunchFailed => inPhases s [.Launching] (.to .Failed [.NotifyFailure] .LaunchRejected)
  | .LaunchRefusedBusy => inPhases s [.Launching] (.to .Failed [.NotifyFailure] .AppAlreadyRunning)
  | .ResumeRefused => inPhases s [.Launching] (.to .Failed [.NotifyFailure] .ResumeRejected)
  | .RtspSucceeded => inPhases s [.RtspHandshake] (.to .ControlConnecting [.ConnectControl])
  | .RtspFailed =>
    inPhases s [.RtspHandshake]
      (.to .Failed [.Teardown, .CancelOnHost, .NotifyFailure] .RtspFailed)
  | .ControlConnected =>
    inPhases s [.ControlConnecting] (.to .Streaming [.SendArrival, .StartPinging])
  | .ControlConnectFailed =>
    inPhases s [.ControlConnecting]
      (.to .Failed [.Teardown, .CancelOnHost, .NotifyFailure] .ControlFailed)
  | .PingsMissed => inPhases s [.Streaming] (.to .Faltering [])
  | .PingsRecovered => inPhases s [.Faltering] (.to .Streaming [])
  | .ServerTerminated =>
    inPhases s [.Streaming, .Faltering, .ControlConnecting]
      (.to .Failed [.Teardown, .NotifyFailure] .ServerTerminated)
  | .ControlDropped =>
    inPhases s [.Streaming, .Faltering] (.to .Failed [.Teardown, .NotifyFailure] .LinkDropped)
  | .Unreachable =>
    inPhases s [.Pairing, .Launching, .RtspHandshake] (.to .Failed [.NotifyFailure] .Unreachable)
  | .UserQuit => reduceUserQuit s

def nextSession (s : SessionState) (event : SessionEvent) : SessionState :=
  (reduceSession s event).next.getD s

theorem reduceSession_of_not_held {s : SessionState} {event : SessionEvent}
    (hphase : hostHoldsOurApp s.phase = false) (hevent : event ≠ .LaunchSucceeded)
    : hostHoldsOurApp (nextSession s event).phase = false ∧
      SessionEffect.BeginRtsp ∉ (reduceSession s event).effects := by
  cases event <;>
    grind [nextSession, reduceSession, inPhases, reduceUserQuit, SessionReduction.to]

theorem nextSession_of_waiting {s : SessionState} {event : SessionEvent}
    (hphase : s.phase = .Launching ∨ s.phase = .Closed)
    (hevent : event ∉ [.StartPairing, .StartLaunch, .LaunchSucceeded, .LaunchFailed,
      .LaunchRefusedBusy, .ResumeRefused, .Unreachable])
    : (nextSession s event).phase = .Launching ∨ (nextSession s event).phase = .Closed := by
  obtain ⟨phase, failure⟩ := s
  obtain rfl | rfl : phase = .Launching ∨ phase = .Closed := hphase
  all_goals
    cases event <;> simp at hevent <;>
      simp [nextSession, reduceSession, inPhases, reduceUserQuit, hostHoldsOurApp,
        SessionReduction.to]

structure MoonlightXmlResponse where
  reachable : Bool := false
  statusCode : Int := 200
  statusMessage : String := ""
  resumeAvailable : Bool := false
  value : String → String := fun _ => ""

namespace MoonlightXmlResponse

def ok (r : MoonlightXmlResponse) : Bool :=
  r.statusCode ≥ 200 ∧ r.statusCode ≤ 299

def paired (r : MoonlightXmlResponse) : Bool :=
  r.value "paired" = "1"

def contains (text : List Char) : List Char → Bool
  | [] => text.isEmpty
  | c :: cs => text.isPrefixOf (c :: cs) || contains text cs

def appAlreadyRunning (r : MoonlightXmlResponse) : Bool :=
  !r.ok ∧ contains "already running".toList r.statusMessage.toLower.toList

def launched : MoonlightXmlResponse where
  reachable := true
  value tag := if tag = "gamesession" then "1" else ""

end MoonlightXmlResponse

def replyEvent (r : MoonlightXmlResponse) (resuming : Bool) : Option SessionEvent :=
  if !r.reachable then some .Unreachable
  else if !r.ok then
    if resuming then some .ResumeRefused
    else if r.appAlreadyRunning ∧ r.resumeAvailable then none
    else some (if r.appAlreadyRunning then .LaunchRefusedBusy else .LaunchFailed)
  else if r.value "gamesession" = "1" ∨ r.value "resume" = "1" then some .LaunchSucceeded
  else some .LaunchFailed

theorem replyEvent_mem {r : MoonlightXmlResponse} {resuming : Bool} {event : SessionEvent}
    (h : replyEvent r resuming = some event)
    : event ∈ [.LaunchSucceeded, .LaunchFailed, .LaunchRefusedBusy, .ResumeRefused, .Unreachable] := by
  grind [replyEvent]

theorem replyEvent_of_succeeded {r : MoonlightXmlResponse} {resuming : Bool}
    (h : replyEvent r resuming = some .LaunchSucceeded)
    : replyEvent r false = some .LaunchSucceeded := by
  grind [replyEvent]

end Moonlight
