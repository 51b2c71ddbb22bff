import Dish.Lib.Transition
import Dish.Moonlight.SessionMachine

/-!
This module contains the threads of a Moonlight session: the main thread, the worker of the RTSP
handshake, and the receive thread.
-/

open Transition

namespace Moonlight

/--
In `named` the handshake is over and `connect` not entered yet, in `connecting` the cancel flag is
cleared.
-/
inductive Stage where
  | handshaking
  | named
  | connecting
  | finishing (ok : Bool)
  deriving DecidableEq

inductive Call where
  | rtspNamedPorts
  | rtspFinished (launch : Nat) (rtspOk controlOk : Bool)
  | controlDisconnect (terminated : Bool)
  deriving DecidableEq

def Call.isResult : Call → Bool
  | .rtspFinished _ _ _ => true
  | .rtspNamedPorts | .controlDisconnect _ => false

def Call.isDisconnect : Call → Bool
  | .controlDisconnect _ => true
  | .rtspNamedPorts | .rtspFinished _ _ _ => false

/--
The last of the `launches` is the current one. While `joining` names a launch the main thread waits
for the old worker to end.
-/
structure Threads where
  state : SessionState := {}
  launches : Nat := 0
  requests : List (Nat × Bool) := []
  joining : Option Nat := none
  worker : Option (Nat × Stage) := none
  cancelled : Bool := false
  connected : Bool := false
  queue : List Call := []
  deriving DecidableEq

namespace Threads

def streaming (t : Threads) : Bool :=
  t.state.phase = .Streaming ∨ t.state.phase = .Faltering

def disconnect (t : Threads) : Threads :=
  { t with cancelled := true, connected := false }

def requestSession (t : Threads) (launch : Nat) (resuming : Bool) : Threads :=
  { t with requests := t.requests ++ [(launch, resuming)] }

def beginLaunch (t : Threads) : Threads :=
  { t with launches := t.launches + 1 }.requestSession (t.launches + 1) false

def beginRtspAndControl (t : Threads) (launch : Nat) : Threads :=
  { t with joining := some launch }

def runEffect (launch : Nat) (t : Threads) : SessionEffect → Threads
  | .BeginLaunch => t.beginLaunch
  | .BeginRtsp => t.beginRtspAndControl launch
  | .Teardown => t.disconnect
  -- The connect itself is the worker's. The pings and the sockets they use are left out.
  | .ConnectControl | .SendArrival | .StartPinging | .StopPinging | .BeginPairing | .CancelOnHost
  | .NotifyFailure => t

def dispatch (t : Threads) (launch : Nat) (event : SessionEvent) : Threads :=
  (reduceSession t.state event).effects.foldl (runEffect launch)
    { t with state := nextSession t.state event }

def quit (t : Threads) : Threads :=
  if t.state.phase = .Idle ∨ t.state.phase = .Closed then t
  else t.dispatch t.launches .UserQuit

def onLaunchReply (t : Threads) (launch : Nat) (resuming : Bool) (r : MoonlightXmlResponse) : Threads :=
  match replyEvent r resuming with
  | some event => t.dispatch launch event
  | none => t.requestSession launch true

def onRtspFinished (t : Threads) (launch : Nat) (rtspOk controlOk : Bool) : Threads :=
  if !rtspOk then t.dispatch launch .RtspFailed
  else (t.dispatch launch .RtspSucceeded).dispatch launch
    (if controlOk then .ControlConnected else .ControlConnectFailed)

def onCall (t : Threads) : Call → Threads
  -- The ports are kept for the pings only.
  | .rtspNamedPorts => t
  | .rtspFinished launch rtspOk controlOk => t.onRtspFinished launch rtspOk controlOk
  | .controlDisconnect terminated =>
    t.dispatch t.launches (if terminated then .ServerTerminated else .ControlDropped)

inductive Act where
  | launch
  | quit
  | reply (i : Nat) (r : MoonlightXmlResponse)
  | pings (missed : Bool)
  | pop
  | joined
  | rtspEnds (ok : Bool)
  | connectBegins
  | connectEnds (up : Bool)
  | workerEnds
  | linkEnds (terminated : Bool)

def onMain (t : Threads) (next : Option Threads) : Option Threads :=
  if t.joining.isSome then none else next

def popCall (t : Threads) : Option Threads :=
  match t.queue with
  | [] => none
  | call :: queue => some ({ t with queue }.onCall call)

def join (t : Threads) : Option Threads :=
  match t.joining, t.worker with
  | some launch, none => some { t with joining := none, worker := some (launch, .handshaking) }
  | _, _ => none

def rtspEnds (t : Threads) (ok : Bool) : Option Threads :=
  match t.worker with
  | some (launch, .handshaking) =>
    if ok then
      some { t with worker := some (launch, .named), queue := t.queue ++ [.rtspNamedPorts] }
    else
      some { t with worker := none, queue := t.queue ++ [.rtspFinished launch false false] }
  | _ => none

def connectBegins (t : Threads) : Option Threads :=
  match t.worker with
  | some (launch, .named) =>
    some { t.disconnect with worker := some (launch, .connecting), cancelled := false }
  | _ => none

def connectEnds (t : Threads) (up : Bool) : Option Threads :=
  match t.worker with
  | some (launch, .connecting) =>
    some { t with
      worker := some (launch, .finishing (up && !t.cancelled))
      connected := up && !t.cancelled }
  | _ => none

def workerEnds (t : Threads) : Option Threads :=
  match t.worker with
  | some (launch, .finishing ok) =>
    some { t with worker := none, queue := t.queue ++ [.rtspFinished launch true ok] }
  | _ => none

def linkEnds (t : Threads) (terminated : Bool) : Option Threads :=
  if t.connected then
    some { t with connected := false, queue := t.queue ++ [.controlDisconnect terminated] }
  else none

def step (t : Threads) : Act → Option Threads
  | .launch => t.onMain (some (t.dispatch t.launches .StartLaunch))
  | .quit => t.onMain (some t.quit)
  | .reply i r =>
    t.onMain (t.requests[i]?.map fun request =>
      { t with requests := t.requests.eraseIdx i }.onLaunchReply request.1 request.2 r)
  | .pings missed =>
    t.onMain (some (t.dispatch t.launches (if missed then .PingsMissed else .PingsRecovered)))
  | .pop => t.onMain t.popCall
  | .joined => t.join
  | .rtspEnds ok => t.rtspEnds ok
  | .connectBegins => t.connectBegins
  | .connectEnds up => t.connectEnds up
  | .workerEnds => t.workerEnds
  | .linkEnds terminated => t.linkEnds terminated

def run : Threads → List Act → Option Threads :=
  Transition.run step

def resultQueued (t : Threads) : Bool :=
  t.queue.any Call.isResult

/--
Launches do not overlap, a quit does not come between the start of a worker and its connect, and the
link does not end before the result of its own connect is taken.
-/
def Orderly (t : Threads) : Act → Prop
  | .launch => t.state.phase ∈ [.Idle, .Paired, .Closed, .Failed] → t.requests = []
  | .quit =>
    t.state.phase = .RtspHandshake →
      t.worker.map Prod.snd ≠ some .handshaking ∧ t.worker.map Prod.snd ≠ some .named
  | .reply _ r =>
    replyEvent r false = some .LaunchSucceeded →
      t.state.phase = .Launching → t.worker = none ∧ t.resultQueued = false
  | .linkEnds _ => t.state.phase ≠ .RtspHandshake
  | .pings _ | .pop | .joined | .rtspEnds _ | .connectBegins | .connectEnds _ | .workerEnds => True

instance decidableOrderly (t : Threads) (a : Act) : Decidable (t.Orderly a) := by
  cases a <;> unfold Orderly <;> infer_instance

structure Down (t : Threads) : Prop where
  phase : hostHoldsOurApp t.state.phase = false
  joining : t.joining = none
  worker : ∀ launch stage, t.worker = some (launch, stage) →
    stage = .connecting ∧ t.cancelled = true ∨ ∃ ok, stage = .finishing ok
  connected : t.connected = false

inductive Situation (t : Threads) : Prop where
  | joins (phase : t.state.phase = .RtspHandshake) (joining : t.joining = some t.launches)
      (worker : t.worker = none) (connected : t.connected = false)
      (result : t.resultQueued = false)
  | works (stage : Stage) (phase : t.state.phase = .RtspHandshake) (joining : t.joining = none)
      (worker : t.worker = some (t.launches, stage))
      (connected : t.connected = true ↔ stage = .finishing true)
      (cancelled : stage = .connecting → t.cancelled = false) (result : t.resultQueued = false)
  | reports (before : List Call) (rtspOk : Bool) (phase : t.state.phase = .RtspHandshake)
      (joining : t.joining = none) (worker : t.worker = none)
      (queue : t.queue = before ++ [.rtspFinished t.launches rtspOk t.connected])
      (result : before.any Call.isResult = false) (ok : t.connected = true → rtspOk = true)
  | streams (phase : t.streaming = true) (joining : t.joining = none) (worker : t.worker = none)
      (connected : t.connected = !t.queue.any Call.isDisconnect) (result : t.resultQueued = false)
  | down (down : t.Down)

section

variable {t t' : Threads} (h : t.Situation)

include h

theorem Situation.joined (hstep : t.join = some t')
    : t'.Situation := by
  cases h with
  | joins phase joining worker connected result =>
    simp only [join, joining, worker, Option.some.injEq] at hstep
    subst hstep
    exact .works .handshaking phase rfl rfl (by simp [connected]) (by simp) result
  | works stage phase joining | reports before rtspOk phase joining | streams phase joining =>
    simp [join, joining] at hstep
  | down down => simp [join, down.joining] at hstep

theorem Situation.rtspEnds {ok : Bool} (hstep : t.rtspEnds ok = some t')
    : t'.Situation := by
  cases h with
  | works stage phase joining worker connected cancelled result =>
    cases stage <;> simp only [Threads.rtspEnds, worker, reduceCtorEq] at hstep
    split at hstep
    . cases hstep
      refine .works .named phase joining rfl (by simpa using connected) (by simp) ?_
      simpa [resultQueued, Call.isResult] using result
    . cases hstep
      have hdown : t.connected = false := by simpa using connected
      exact .reports t.queue false phase joining rfl (by simp [hdown]) result (by simp [hdown])
  | down down => grind [Threads.rtspEnds, Down]
  | joins | reports | streams => grind [Threads.rtspEnds]

theorem Situation.connectBegins (hstep : t.connectBegins = some t')
    : t'.Situation := by
  cases h with
  | works stage phase joining worker connected cancelled result =>
    cases stage <;> simp only [Threads.connectBegins, worker, reduceCtorEq] at hstep
    cases hstep
    exact .works .connecting phase joining rfl (by simp [disconnect]) (fun _ => rfl) result
  | down down => grind [Threads.connectBegins, Down]
  | joins | reports | streams => grind [Threads.connectBegins]

theorem Situation.connectEnds {up : Bool} (hstep : t.connectEnds up = some t')
    : t'.Situation := by
  cases h with
  | works stage phase joining worker connected cancelled result =>
    cases stage <;> simp only [Threads.connectEnds, worker, reduceCtorEq] at hstep
    cases hstep
    exact .works (.finishing (up && !t.cancelled)) phase joining rfl (by simp) (by simp) result
  | down down =>
    refine .down ?_
    constructor <;> grind [Threads.connectEnds, Down]
  | joins | reports | streams => grind [Threads.connectEnds]

theorem Situation.workerEnds (hstep : t.workerEnds = some t')
    : t'.Situation := by
  cases h with
  | works stage phase joining worker connected cancelled result =>
    cases stage <;> simp only [Threads.workerEnds, worker, reduceCtorEq] at hstep
    next ok =>
      cases hstep
      have hok : ok = t.connected := by
        rw [Bool.eq_iff_iff, connected]
        simp
      subst hok
      exact .reports t.queue true phase joining rfl rfl result (fun _ => rfl)
  | down down =>
    refine .down ?_
    constructor <;> grind [Threads.workerEnds, Down]
  | joins | reports | streams => grind [Threads.workerEnds]

theorem Situation.linkEnds {terminated : Bool} (hok : t.Orderly (.linkEnds terminated))
    (hstep : t.linkEnds terminated = some t')
    : t'.Situation := by
  cases h with
  | streams phase joining worker connected result =>
    simp only [Threads.linkEnds] at hstep
    split at hstep
    . cases hstep
      refine .streams phase joining worker (by simp [Call.isDisconnect]) ?_
      simpa [resultQueued, Call.isResult] using result
    . contradiction
  | down down => grind [Threads.linkEnds, Down]
  | joins | works | reports => grind [Threads.linkEnds, Orderly]

end

section

variable {t : Threads} {launch : Nat} {event : SessionEvent}

theorem dispatch_eq_self (h : reduceSession t.state event = {}) : t.dispatch launch event = t := by
  simp [dispatch, nextSession, h]

theorem Down.runEffect (h : t.Down) {effect : SessionEffect} (heffect : effect ≠ .BeginRtsp)
    : (t.runEffect launch effect).Down := by
  cases effect with
  | BeginRtsp => contradiction
  | BeginLaunch => exact ⟨h.phase, h.joining, h.worker, h.connected⟩
  | Teardown =>
    refine ⟨h.phase, h.joining, ?_, rfl⟩
    intro launch stage hworker
    exact (h.worker launch stage hworker).imp_left fun hstage => ⟨hstage.1, rfl⟩
  | ConnectControl | SendArrival | StartPinging | StopPinging | BeginPairing | CancelOnHost
  | NotifyFailure => exact h

theorem Down.dispatch (h : t.Down) (hevent : event ≠ .LaunchSucceeded)
    : (t.dispatch launch event).Down := by
  obtain ⟨hphase, heffects⟩ := reduceSession_of_not_held h.phase hevent
  have hmoved : { t with state := nextSession t.state event }.Down :=
    ⟨hphase, h.joining, h.worker, h.connected⟩
  apply List.foldlRecOn (motive := Down) _ _ hmoved
  intro t ht effect heffect
  apply ht.runEffect
  rintro rfl
  exact heffects ‹_›

theorem down_of_teardown {state : SessionState} (hstate : hostHoldsOurApp state.phase = false)
    (hjoining : t.joining = none)
    (hworker : ∀ launch stage, t.worker = some (launch, stage) →
      stage = .connecting ∨ ∃ ok, stage = .finishing ok)
    : { t with state }.disconnect.Down := by
  refine ⟨hstate, hjoining, ?_, rfl⟩
  intro launch stage h
  exact (hworker launch stage h).imp_left fun hstage => ⟨hstage, rfl⟩

theorem dispatch_userQuit_of_held (h : hostHoldsOurApp t.state.phase = true)
    : t.dispatch launch .UserQuit = { t with state := { phase := .Closed } }.disconnect := by
  have hphase : t.state.phase ∉ [.Idle, .Closed, .Failed] := by grind
  simp [Threads.dispatch, nextSession, reduceSession, reduceUserQuit, hphase, h,
    SessionReduction.to, Threads.runEffect]

theorem dispatch_of_link_gone (terminated : Bool) (h : t.streaming = true)
    : t.dispatch launch (if terminated then .ServerTerminated else .ControlDropped) =
      { t with
        state :=
          { phase := .Failed
            failure := if terminated then .ServerTerminated else .LinkDropped } }.disconnect := by
  have hphase : t.state.phase = .Streaming ∨ t.state.phase = .Faltering := by
    simpa [streaming] using h
  cases terminated <;>
    simp [Threads.dispatch, nextSession, reduceSession, inPhases, hphase, ← or_assoc,
      SessionReduction.to, Threads.runEffect]

theorem dispatch_pings_of_streaming (missed : Bool) (h : t.streaming = true)
    : ∃ state, t.dispatch launch (if missed then .PingsMissed else .PingsRecovered) =
      { t with state } ∧ { t with state }.streaming = true := by
  have heffects : (reduceSession t.state
      (if missed then .PingsMissed else .PingsRecovered)).effects = [] := by
    cases missed <;> grind [reduceSession, inPhases, SessionReduction.to]
  refine ⟨nextSession t.state (if missed then .PingsMissed else .PingsRecovered), ?_, ?_⟩
  . rw [Threads.dispatch, heffects]
    rfl
  . cases missed <;>
      grind [streaming, nextSession, reduceSession, inPhases, SessionReduction.to]

theorem dispatch_of_handshake (hphase : t.state.phase = .RtspHandshake)
    (hevent : event ∈ [.StartLaunch, .PingsMissed, .PingsRecovered, .ServerTerminated,
      .ControlDropped])
    : t.dispatch launch event = t := by
  apply dispatch_eq_self
  cases event <;> simp_all [reduceSession, inPhases]

end

section

variable {t t' : Threads} (h : t.Situation)

include h

theorem Situation.phase_cases
    : t.Down ∨ t.streaming = true ∨ t.state.phase = .RtspHandshake := by
  cases h with
  | down down => exact .inl down
  | streams phase => exact .inr (.inl phase)
  | joins phase | works stage phase | reports before rtspOk phase => exact .inr (.inr phase)

theorem Situation.of_launch
    : (t.dispatch t.launches .StartLaunch).Situation := by
  rcases h.phase_cases with down | phase | phase
  . exact .down (down.dispatch (by simp))
  . rw [dispatch_eq_self]
    . exact h
    . grind [streaming, reduceSession, inPhases]
  . rw [dispatch_of_handshake phase (by simp)]
    exact h

theorem Situation.of_pings (missed : Bool)
    : (t.dispatch t.launches (if missed then .PingsMissed else .PingsRecovered)).Situation := by
  rcases h.phase_cases with down | phase | phase
  . exact .down (down.dispatch (by split <;> simp))
  . obtain ⟨state, hdispatch, hstreaming⟩ := dispatch_pings_of_streaming missed phase
    rw [hdispatch]
    cases h with
    | streams _ joining worker connected result =>
      exact .streams hstreaming joining worker connected result
    | down down => grind [Down, streaming]
    | joins | works | reports => grind [streaming]
  . rw [dispatch_of_handshake phase (by split <;> simp)]
    exact h

theorem Situation.of_quit (hjoining : t.joining = none) (hok : t.Orderly .quit)
    : t.quit.Situation := by
  unfold quit
  split
  . exact h
  . cases h with
    | down down => exact .down (down.dispatch (by simp))
    | streams phase joining worker =>
      rw [dispatch_userQuit_of_held (by grind [streaming])]
      exact .down (down_of_teardown rfl joining (by simp [worker]))
    | reports before rtspOk phase joining worker =>
      rw [dispatch_userQuit_of_held (by simp [phase, hostHoldsOurApp])]
      exact .down (down_of_teardown rfl joining (by simp [worker]))
    | works stage phase joining worker =>
      rw [dispatch_userQuit_of_held (by simp [phase, hostHoldsOurApp])]
      refine .down (down_of_teardown rfl joining ?_)
      -- The worker has begun to connect, so it sees the flag.
      have hstage := hok phase
      rw [worker] at hstage
      cases stage <;> simp_all
    | joins _ joining => simp [hjoining] at joining

end

section

variable {t t' : Threads} {call : Call}

theorem onCall_of_handshake (hphase : t.state.phase = .RtspHandshake)
    (hcall : call.isResult = false)
    : t.onCall call = t := by
  cases call with
  | rtspNamedPorts => rfl
  | rtspFinished => contradiction
  | controlDisconnect terminated => exact dispatch_of_handshake hphase (by split <;> simp)

theorem Down.onCall (h : t.Down) : (t.onCall call).Down := by
  cases call with
  | rtspNamedPorts => exact h
  | rtspFinished launch rtspOk controlOk =>
    simp only [Threads.onCall, onRtspFinished]
    split
    . exact h.dispatch (by simp)
    . exact (h.dispatch (by simp)).dispatch (by split <;> simp)
  | controlDisconnect terminated => exact h.dispatch (by split <;> simp)

theorem situation_of_onRtspFinished {launch : Nat} {rtspOk : Bool}
    (phase : t.state.phase = .RtspHandshake) (joining : t.joining = none) (worker : t.worker = none)
    (queue : t.queue = []) (ok : t.connected = true → rtspOk = true)
    : (t.onRtspFinished launch rtspOk t.connected).Situation := by
  cases hconnected : t.connected with
  | true =>
    have hup : t.onRtspFinished launch true true = { t with state := { phase := .Streaming } } := by
      simp [onRtspFinished, dispatch, nextSession, reduceSession, inPhases, phase, runEffect,
        SessionReduction.to]
    rw [ok hconnected, hup]
    exact .streams rfl joining worker (by simp [queue, hconnected]) (by simp [resultQueued, queue])
  | false =>
    have hfail : ∃ failure, t.onRtspFinished launch rtspOk false =
        { t with state := { phase := .Failed, failure } }.disconnect := by
      cases rtspOk
      . refine ⟨.RtspFailed, ?_⟩
        simp [onRtspFinished, dispatch, nextSession, reduceSession, inPhases, phase, runEffect,
          SessionReduction.to]
      . refine ⟨.ControlFailed, ?_⟩
        simp [onRtspFinished, dispatch, nextSession, reduceSession, inPhases, phase, runEffect,
          SessionReduction.to]
    obtain ⟨failure, hfail⟩ := hfail
    rw [hfail]
    exact .down (down_of_teardown rfl joining (by simp [worker]))

theorem Situation.of_popCall (h : t.Situation) (hjoining : t.joining = none)
    (hstep : t.popCall = some t')
    : t'.Situation := by
  unfold popCall at hstep
  split at hstep
  next => contradiction
  next call queue hqueue =>
    cases hstep
    cases h with
    | joins _ joining => simp [hjoining] at joining
    | down down => exact .down (Down.onCall ⟨down.phase, down.joining, down.worker, down.connected⟩)
    | works stage phase joining worker connected cancelled result =>
      have hresult : call.isResult = false ∧ queue.any Call.isResult = false := by
        simpa [resultQueued, hqueue] using result
      rw [onCall_of_handshake (t := { t with queue }) phase hresult.1]
      exact .works stage phase joining worker connected cancelled hresult.2
    | reports before rtspOk phase joining worker hq result ok =>
      cases before with
      | nil =>
        obtain ⟨rfl, rfl⟩ : call = .rtspFinished t.launches rtspOk t.connected ∧ queue = [] := by
          simpa [hqueue] using hq
        exact situation_of_onRtspFinished phase joining worker rfl ok
      | cons first before =>
        obtain ⟨rfl, hrest⟩ : call = first ∧
            queue = before ++ [.rtspFinished t.launches rtspOk t.connected] := by
          simpa [hqueue] using hq
        simp only [List.any_cons, Bool.or_eq_false_iff] at result
        rw [onCall_of_handshake (t := { t with queue }) phase result.1]
        exact .reports before rtspOk phase joining worker hrest result.2 ok
    | streams phase joining worker connected result =>
      have hresult : call.isResult = false ∧ queue.any Call.isResult = false := by
        simpa [resultQueued, hqueue] using result
      cases call with
      | rtspNamedPorts =>
        have hconnected : t.connected = !queue.any Call.isDisconnect := by
          simpa [hqueue, Call.isDisconnect] using connected
        exact .streams (t := { t with queue }) phase joining worker hconnected hresult.2
      | rtspFinished => simp [Call.isResult] at hresult
      | controlDisconnect terminated =>
        rw [onCall, dispatch_of_link_gone (t := { t with queue }) terminated phase]
        exact .down (down_of_teardown rfl joining (by simp [worker]))

end

structure Asked (t : Threads) : Prop where
  alone : t.requests.length ≤ 1
  current : ∀ request ∈ t.requests, request.1 = t.launches
  phase : t.requests ≠ [] → t.state.phase = .Launching ∨ t.state.phase = .Closed

section

variable {t t' : Threads} {launch : Nat} {event : SessionEvent}

@[simp]
theorem state_dispatch : (t.dispatch launch event).state = nextSession t.state event := by
  apply List.foldlRecOn (motive := fun u : Threads => u.state = nextSession t.state event)
  . rfl
  . intro u hu effect _
    cases effect <;> exact hu

theorem requests_dispatch (hevent : event ≠ .StartLaunch)
    : (t.dispatch launch event).requests = t.requests ∧
      (t.dispatch launch event).launches = t.launches := by
  have hlaunch : SessionEffect.BeginLaunch ∉ (reduceSession t.state event).effects := by
    cases event <;>
      grind [reduceSession, inPhases, reduceLaunchSucceeded, reduceUserQuit, SessionReduction.to]
  apply List.foldlRecOn
    (motive := fun u : Threads => u.requests = t.requests ∧ u.launches = t.launches)
  . exact ⟨rfl, rfl⟩
  . intro u hu effect heffect
    cases effect with
    | BeginLaunch => contradiction
    | _ => exact hu

theorem Asked.of_launch (h : t.Asked) (hok : t.Orderly .launch)
    : (t.dispatch launch .StartLaunch).Asked := by
  by_cases hphase : t.state.phase ∈ [.Idle, .Paired, .Closed, .Failed]
  . have hrequests := hok hphase
    constructor <;>
      simp [dispatch, reduceSession, inPhases, hphase, SessionReduction.to, nextSession,
        runEffect, beginLaunch, requestSession, hrequests]
  . rw [dispatch_eq_self]
    . exact h
    . simp [reduceSession, inPhases, hphase]

theorem Asked.dispatch (h : t.Asked) (hevent : event ≠ .StartLaunch)
    (hphase : t.requests ≠ [] →
      event ∉ [.StartPairing, .StartLaunch, .LaunchSucceeded, .LaunchFailed, .LaunchRefusedBusy,
        .ResumeRefused, .Unreachable])
    : (t.dispatch launch event).Asked := by
  obtain ⟨hrequests, hlaunches⟩ := @requests_dispatch t launch event hevent
  constructor
  . rw [hrequests]
    exact h.alone
  . rw [hrequests, hlaunches]
    exact h.current
  . rw [hrequests, state_dispatch]
    intro hne
    exact nextSession_of_waiting (h.phase hne) (hphase hne)

theorem Asked.of_popCall (h : t.Asked) (hstep : t.popCall = some t')
    : t'.Asked := by
  unfold popCall at hstep
  split at hstep
  next => contradiction
  next call queue hqueue =>
    cases hstep
    have hrest : { t with queue }.Asked := ⟨h.alone, h.current, h.phase⟩
    cases call with
    | rtspNamedPorts => exact hrest
    | rtspFinished launch rtspOk controlOk =>
      simp only [onCall, onRtspFinished]
      split
      . exact hrest.dispatch (by simp) (by simp)
      . apply (hrest.dispatch (by simp) (by simp)).dispatch
        . split <;> simp
        . split <;> simp
    | controlDisconnect terminated =>
      apply hrest.dispatch
      . split <;> simp
      . split <;> simp

theorem Asked.of_eq (h : t.Asked) (hstate : t'.state = t.state) (hrequests : t'.requests = t.requests)
    (hlaunches : t'.launches = t.launches)
    : t'.Asked := by
  constructor
  . rw [hrequests]
    exact h.alone
  . rw [hrequests, hlaunches]
    exact h.current
  . rw [hrequests, hstate]
    exact h.phase

end

structure Sound (t : Threads) : Prop where
  situation : t.Situation
  asked : t.Asked

section

variable {t t' : Threads}

theorem situation_of_launchSucceeded (hdown : t.Down)
    (hphase : t.state.phase = .Launching ∨ t.state.phase = .Closed)
    (hworker : t.state.phase = .Launching → t.worker = none ∧ t.resultQueued = false)
    : (t.dispatch t.launches .LaunchSucceeded).Situation := by
  rcases hphase with hphase | hphase
  . obtain ⟨worker, result⟩ := hworker hphase
    have hdispatch : t.dispatch t.launches .LaunchSucceeded =
        { t with state := { phase := .RtspHandshake }, joining := some t.launches } := by
      simp [dispatch, reduceSession, reduceLaunchSucceeded, hphase, nextSession,
        SessionReduction.to, runEffect, beginRtspAndControl]
    rw [hdispatch]
    exact .joins rfl rfl worker hdown.connected result
  . have hdispatch : t.dispatch t.launches .LaunchSucceeded = t := by
      simp [dispatch, reduceSession, reduceLaunchSucceeded, hphase, nextSession, runEffect]
    rw [hdispatch]
    exact .down hdown

theorem Sound.of_reply (h : t.Sound) {i : Nat} {request : Nat × Bool}
    (hi : t.requests[i]? = some request) {r : MoonlightXmlResponse} (hok : t.Orderly (.reply i r))
    : ({ t with requests := t.requests.eraseIdx i }.onLaunchReply request.1 request.2 r).Sound := by
  have hcurrent : request.1 = t.launches := h.asked.current _ (List.mem_of_getElem? hi)
  have hsome : t.requests ≠ [] := by
    intro hnil
    simp [hnil] at hi
  have hphase := h.asked.phase hsome
  have hnone : t.requests.eraseIdx i = [] := by
    have hlt := (List.getElem?_eq_some_iff.mp hi).1
    apply List.eq_nil_of_length_eq_zero
    rw [List.length_eraseIdx_of_lt hlt]
    have := h.asked.alone
    omega
  have hdown : { t with requests := [] }.Down := by
    rcases h.situation.phase_cases with down | phase | phase
    . exact ⟨down.phase, down.joining, down.worker, down.connected⟩
    . grind [streaming]
    . grind
  have hasked : { t with requests := [] }.Asked := ⟨by simp, by simp, by simp⟩
  rw [hnone, hcurrent]
  unfold onLaunchReply
  split
  next event hevent =>
    constructor
    . by_cases hsucceeded : event = .LaunchSucceeded
      . subst hsucceeded
        exact situation_of_launchSucceeded hdown hphase (hok (replyEvent_of_succeeded hevent))
      . exact .down (hdown.dispatch hsucceeded)
    . apply hasked.dispatch
      . rintro rfl
        simpa using replyEvent_mem hevent
      . simp
  next =>
    refine ⟨.down ⟨hdown.phase, hdown.joining, hdown.worker, hdown.connected⟩, ?_⟩
    constructor <;> simp [requestSession, hphase]

theorem onMain_eq_some {next : Option Threads}
    : t.onMain next = some t' ↔ t.joining = none ∧ next = some t' := by
  cases h : t.joining <;> simp [onMain, h]

theorem Sound.step {a : Act} (h : t.Sound) (hok : t.Orderly a) (hstep : t.step a = some t')
    : t'.Sound := by
  cases a with
  | launch =>
    obtain ⟨_, hnext⟩ := onMain_eq_some.mp hstep
    cases hnext
    exact ⟨h.situation.of_launch, h.asked.of_launch hok⟩
  | quit =>
    obtain ⟨hjoining, hnext⟩ := onMain_eq_some.mp hstep
    cases hnext
    refine ⟨h.situation.of_quit hjoining hok, ?_⟩
    unfold quit
    split
    . exact h.asked
    . exact h.asked.dispatch (by simp) (by simp)
  | reply i r =>
    obtain ⟨_, hnext⟩ := onMain_eq_some.mp hstep
    obtain ⟨request, hi, rfl⟩ := Option.map_eq_some_iff.mp hnext
    exact h.of_reply hi hok
  | pings missed =>
    obtain ⟨_, hnext⟩ := onMain_eq_some.mp hstep
    cases hnext
    refine ⟨h.situation.of_pings missed, ?_⟩
    apply h.asked.dispatch
    . split <;> simp
    . split <;> simp
  | pop =>
    obtain ⟨hjoining, hnext⟩ := onMain_eq_some.mp hstep
    exact ⟨h.situation.of_popCall hjoining hnext, h.asked.of_popCall hnext⟩
  | joined =>
    refine ⟨h.situation.joined hstep, h.asked.of_eq ?_ ?_ ?_⟩ <;> grind [Threads.step, join]
  | rtspEnds ok =>
    refine ⟨h.situation.rtspEnds hstep, h.asked.of_eq ?_ ?_ ?_⟩ <;>
      grind [Threads.step, Threads.rtspEnds]
  | connectBegins =>
    refine ⟨h.situation.connectBegins hstep, h.asked.of_eq ?_ ?_ ?_⟩ <;>
      grind [Threads.step, Threads.connectBegins, disconnect]
  | connectEnds up =>
    refine ⟨h.situation.connectEnds hstep, h.asked.of_eq ?_ ?_ ?_⟩ <;>
      grind [Threads.step, Threads.connectEnds]
  | workerEnds =>
    refine ⟨h.situation.workerEnds hstep, h.asked.of_eq ?_ ?_ ?_⟩ <;>
      grind [Threads.step, Threads.workerEnds]
  | linkEnds terminated =>
    refine ⟨h.situation.linkEnds hok hstep, h.asked.of_eq ?_ ?_ ?_⟩ <;>
      grind [Threads.step, Threads.linkEnds]

end

def idle (state : SessionState) : Threads :=
  { state }

theorem sound_idle {state : SessionState} (h : hostHoldsOurApp state.phase = false)
    : (idle state).Sound := by
  refine ⟨.down ⟨h, rfl, ?_, rfl⟩, ?_⟩
  . simp [idle]
  . constructor <;> simp [idle]

theorem Situation.connected_iff {t : Threads} (h : t.Situation) (hworker : t.worker = none)
    (hqueue : t.queue = [])
    : t.connected = true ↔ t.streaming = true := by
  cases h with
  | joins phase _ _ connected => simp [connected, streaming, phase]
  | works _ _ _ worker => simp [hworker] at worker
  | reports _ _ _ _ _ queue => simp [hqueue] at queue
  | streams phase _ _ connected => simp [phase, connected, hqueue]
  | down down => grind [Down, streaming]

theorem Down.state_onRtspFinished {t : Threads} (h : t.Down) (launch : Nat) (rtspOk controlOk : Bool)
    : (t.onRtspFinished launch rtspOk controlOk).state = t.state := by
  have hphase : t.state.phase ≠ .RtspHandshake ∧ t.state.phase ≠ .ControlConnecting := by
    have := h.phase
    grind
  have hnone : ∀ event ∈ [SessionEvent.RtspFailed, .RtspSucceeded, .ControlConnected,
      .ControlConnectFailed], nextSession t.state event = t.state := by
    intro event hevent
    cases event <;> simp at hevent <;> simp [nextSession, reduceSession, inPhases, hphase]
  unfold onRtspFinished
  split
  . rw [state_dispatch, hnone _ (by simp)]
  . rw [state_dispatch, state_dispatch, hnone _ (by simp)]
    exact hnone _ (by split <;> simp)

theorem Situation.launch_of_result {t t' : Threads} (h : t.Situation) {launch : Nat}
    {rtspOk controlOk : Bool} {queue : List Call}
    (hqueue : t.queue = .rtspFinished launch rtspOk controlOk :: queue)
    (hstep : t.step .pop = some t') (hphase : t'.state.phase ≠ t.state.phase)
    : launch = t.launches := by
  cases h with
  | joins _ _ _ _ result | works _ _ _ _ _ _ result | streams _ _ _ _ result =>
    simp [resultQueued, hqueue, Call.isResult] at result
  | reports before _ _ _ _ hq result =>
    cases before with
    | nil => grind
    | cons first before => grind [Call.isResult]
  | down down =>
    obtain ⟨_, hnext⟩ := onMain_eq_some.mp hstep
    simp only [popCall, hqueue, Option.some.injEq] at hnext
    have hrest : { t with queue }.Down := ⟨down.phase, down.joining, down.worker, down.connected⟩
    rw [← hnext, onCall, hrest.state_onRtspFinished] at hphase
    contradiction

end Threads

end Moonlight
