import Dish.Lib.Transition
import Dish.Moonlight.SessionMachine

/-!
This module contains the launching half of a Moonlight session.
-/

open Transition

namespace Moonlight

structure MoonlightSession where
  state : SessionState := {}
  failureMessage : String := ""
  resumeAvailable : Bool := false
  requests : List Bool := []

/--
`running`: the host runs an app this client started. `dropped`: the last stream ended with its
control link. `strayCancel`: a `/cancel` was sent with no such app running.
-/
structure Hosted extends MoonlightSession where
  running : Bool := false
  dropped : Bool := false
  strayCancel : Bool := false

namespace Hosted

def requestSession (h : Hosted) (resuming : Bool) : Hosted :=
  { h with requests := h.requests ++ [resuming] }

def beginLaunch (h : Hosted) : Hosted :=
  { h with failureMessage := "", resumeAvailable := false }.requestSession false

def cancelHostApp (h : Hosted) : Hosted :=
  { h with running := false, strayCancel := h.strayCancel || !h.running }

def runEffect (h : Hosted) : SessionEffect → Hosted
  | .BeginLaunch => h.beginLaunch
  | .CancelOnHost => h.cancelHostApp
  -- The pings, the sockets and the RTSP worker neither ask for a session nor end one.
  | .BeginPairing | .BeginRtsp | .ConnectControl | .SendArrival | .StartPinging | .StopPinging
  | .Teardown | .NotifyFailure => h

def endedInDrop (dropped : Bool) (phase : SessionPhase) : SessionEvent → Bool
  | .ControlDropped => dropped || phase = .Streaming || phase = .Faltering
  | .ControlConnected => dropped && phase ≠ .ControlConnecting
  | _ => dropped

def dispatch (h : Hosted) (event : SessionEvent) : Hosted :=
  (reduceSession h.state event).effects.foldl runEffect
    { h with
      state := nextSession h.state event
      dropped := endedInDrop h.dropped h.state.phase event }

def launch (h : Hosted) : Hosted :=
  h.dispatch .StartLaunch

def quit (h : Hosted) : Hosted :=
  if h.state.phase = .Idle ∨ h.state.phase = .Closed then h
  else h.dispatch .UserQuit

def onSessionRefused (h : Hosted) (r : MoonlightXmlResponse) (resuming : Bool) : Hosted :=
  let h := { h with failureMessage := r.statusMessage, resumeAvailable := r.resumeAvailable }
  if resuming then h.dispatch .ResumeRefused
  else if r.appAlreadyRunning ∧ r.resumeAvailable then h.requestSession true
  else h.dispatch (if r.appAlreadyRunning then .LaunchRefusedBusy else .LaunchFailed)

def onSessionAccepted (h : Hosted) (r : MoonlightXmlResponse) : Hosted :=
  if r.value "gamesession" = "1" ∨ r.value "resume" = "1" then
    -- With this answer the host has started an app, or handed the running one back.
    { h with running := true }.dispatch .LaunchSucceeded
  else { h with failureMessage := r.statusMessage }.dispatch .LaunchFailed

def onLaunchReply (h : Hosted) (r : MoonlightXmlResponse) (resuming : Bool) : Hosted :=
  if !r.reachable then h.dispatch .Unreachable
  else if !r.ok then h.onSessionRefused r resuming
  else h.onSessionAccepted r

def signals : List SessionEvent :=
  [.RtspSucceeded, .ControlConnected, .ControlConnectFailed, .PingsMissed, .PingsRecovered,
    .ServerTerminated, .ControlDropped]

def onSignal (h : Hosted) (event : SessionEvent) : Hosted :=
  { h with running := h.running && event ≠ SessionEvent.ServerTerminated }.dispatch event

def onRtspFailed (h : Hosted) (stage : String) : Hosted :=
  { h with failureMessage := stage }.dispatch .RtspFailed

inductive Act where
  | launch
  | quit
  | reply (i : Nat) (r : MoonlightXmlResponse)
  | rtspFailed (stage : String)
  | signal (event : SessionEvent)

def step (h : Hosted) : Act → Option Hosted
  | .launch => some h.launch
  | .quit => some h.quit
  | .reply i r =>
    h.requests[i]?.map fun resuming =>
      { h with requests := h.requests.eraseIdx i }.onLaunchReply r resuming
  | .rtspFailed stage => some (h.onRtspFailed stage)
  | .signal event => if event ∈ signals then some (h.onSignal event) else none

def run : Hosted → List Act → Option Hosted :=
  Transition.run step

/--
A launch asks for no session while a request is out, and the host terminates none that is being set
up over RTSP.
-/
def Settled (h : Hosted) : Act → Prop
  | .launch => h.state.phase ∈ [.Idle, .Paired, .Closed, .Failed] → h.requests = []
  | .signal event => event = .ServerTerminated → h.state.phase ≠ .RtspHandshake
  | .quit | .reply _ _ | .rtspFailed _ => True

instance decidableSettled (h : Hosted) (a : Act) : Decidable (h.Settled a) := by
  cases a <;> unfold Settled <;> infer_instance

structure Accounted (h : Hosted) : Prop where
  noStray : h.strayCancel = false
  alone : h.requests.length ≤ 1
  asked : h.requests ≠ [] → h.state.phase = .Launching ∨ h.state.phase = .Closed
  held : hostHoldsOurApp h.state.phase = true → h.running = true
  kept : h.running = true → hostHoldsOurApp h.state.phase = true ∨ h.dropped = true

theorem Accounted.onSignal {h : Hosted} (hh : h.Accounted) {event : SessionEvent}
    (hevent : event ∈ signals) (hset : h.Settled (.signal event))
    : (h.onSignal event).Accounted := by
  obtain ⟨hstray, halone, hasked, hheld, hkept⟩ := hh
  cases event <;> simp [signals] at hevent
  all_goals
    constructor <;>
      grind [Hosted.onSignal, dispatch, reduceSession, inPhases, nextSession, SessionReduction.to,
        runEffect, cancelHostApp, endedInDrop, Settled]

theorem Accounted.onRtspFailed {h : Hosted} (hh : h.Accounted) (stage : String)
    : (h.onRtspFailed stage).Accounted := by
  obtain ⟨hstray, halone, hasked, hheld, hkept⟩ := hh
  constructor <;>
    grind [Hosted.onRtspFailed, dispatch, reduceSession, inPhases, nextSession, SessionReduction.to,
      runEffect, cancelHostApp, endedInDrop]

theorem Accounted.launch {h : Hosted} (hh : h.Accounted) (hset : h.Settled .launch)
    : h.launch.Accounted := by
  obtain ⟨hstray, halone, hasked, hheld, hkept⟩ := hh
  constructor <;>
    grind [Hosted.launch, dispatch, reduceSession, inPhases, nextSession, SessionReduction.to,
      runEffect, beginLaunch, requestSession, endedInDrop, Settled]

theorem Accounted.quit {h : Hosted} (hh : h.Accounted)
    : h.quit.Accounted := by
  obtain ⟨hstray, halone, hasked, hheld, hkept⟩ := hh
  constructor <;>
    grind [Hosted.quit, dispatch, reduceSession, reduceUserQuit, nextSession, SessionReduction.to,
      runEffect, cancelHostApp, endedInDrop]

section

variable {h : Hosted} (hh : h.Accounted) (hnone : h.requests = [])
  (hphase : h.state.phase = .Launching ∨ h.state.phase = .Closed)

include hh hnone hphase

theorem Accounted.fails {event : SessionEvent}
    (hevent : event ∈ [.Unreachable, .ResumeRefused, .LaunchRefusedBusy, .LaunchFailed])
    : (h.dispatch event).Accounted := by
  obtain ⟨hstray, halone, hasked, hheld, hkept⟩ := hh
  cases event <;> simp at hevent
  all_goals
    constructor <;>
      grind [dispatch, reduceSession, inPhases, nextSession, SessionReduction.to, runEffect,
        endedInDrop]

theorem Accounted.onSessionRefused (r : MoonlightXmlResponse) (resuming : Bool)
    : (h.onSessionRefused r resuming).Accounted := by
  have hh' : { h with
      failureMessage := r.statusMessage, resumeAvailable := r.resumeAvailable }.Accounted :=
    ⟨hh.noStray, hh.alone, hh.asked, hh.held, hh.kept⟩
  unfold Hosted.onSessionRefused
  dsimp only
  split
  . exact hh'.fails hnone hphase (by simp)
  . split
    . exact ⟨hh.noStray, by simp [requestSession, hnone], fun _ => hphase, hh.held, hh.kept⟩
    . exact hh'.fails hnone hphase (by split <;> simp)

theorem Accounted.succeeds
    : ({ h with running := true }.dispatch .LaunchSucceeded).Accounted := by
  obtain ⟨hstray, halone, hasked, hheld, hkept⟩ := hh
  constructor <;>
    grind [dispatch, reduceSession, reduceLaunchSucceeded, nextSession, SessionReduction.to,
      runEffect, cancelHostApp, endedInDrop]

theorem Accounted.onSessionAccepted (r : MoonlightXmlResponse)
    : (h.onSessionAccepted r).Accounted := by
  have hh' : { h with failureMessage := r.statusMessage }.Accounted :=
    ⟨hh.noStray, hh.alone, hh.asked, hh.held, hh.kept⟩
  unfold Hosted.onSessionAccepted
  split
  . exact hh.succeeds hnone hphase
  . exact hh'.fails hnone hphase (by simp)

theorem Accounted.onLaunchReply (r : MoonlightXmlResponse) (resuming : Bool)
    : (h.onLaunchReply r resuming).Accounted := by
  unfold Hosted.onLaunchReply
  split
  . exact hh.fails hnone hphase (by simp)
  . split
    . exact hh.onSessionRefused hnone hphase r resuming
    . exact hh.onSessionAccepted hnone hphase r

end

theorem Accounted.step {h h' : Hosted} {a : Act} (hh : h.Accounted) (hset : h.Settled a)
    (hstep : h.step a = some h')
    : h'.Accounted := by
  cases a with
  | launch =>
    cases hstep
    exact hh.launch hset
  | quit =>
    cases hstep
    exact hh.quit
  | reply i r =>
    obtain ⟨resuming, hi, rfl⟩ := Option.map_eq_some_iff.mp hstep
    -- There was one request, so none is left once it is answered.
    have hsome : h.requests ≠ [] := by
      intro hnil
      simp [hnil] at hi
    have hnone : h.requests.eraseIdx i = [] := by
      have hlt := (List.getElem?_eq_some_iff.mp hi).1
      apply List.eq_nil_of_length_eq_zero
      rw [List.length_eraseIdx_of_lt hlt]
      have := hh.alone
      omega
    have hanswered : { h with requests := h.requests.eraseIdx i }.Accounted :=
      ⟨hh.noStray, by simp [hnone], fun hne => absurd hnone hne, hh.held, hh.kept⟩
    exact hanswered.onLaunchReply hnone (hh.asked hsome) r resuming
  | rtspFailed stage =>
    cases hstep
    exact hh.onRtspFailed stage
  | signal event =>
    simp only [Hosted.step] at hstep
    split at hstep
    next hevent =>
      cases hstep
      exact hh.onSignal hevent hset
    next => contradiction

def idle (state : SessionState) : Hosted :=
  { state }

theorem accounted_idle {state : SessionState} (h : hostHoldsOurApp state.phase = false)
    : (idle state).Accounted := by
  constructor <;> simp [idle, h]

theorem app_held_or_dropped {state : SessionState} (hstate : hostHoldsOurApp state.phase = false)
    {acts : List Act} {h : Hosted} (hset : Along step Settled (idle state) acts)
    (hrun : (idle state).run acts = some h)
    : h.strayCancel = false ∧
      (h.running = true → hostHoldsOurApp h.state.phase = true ∨ h.dropped = true) := by
  have hh : h.Accounted :=
    invariant_of_along (fun _ _ _ => Accounted.step) (accounted_idle hstate) hset hrun
  exact ⟨hh.noStray, hh.kept⟩

def busy : MoonlightXmlResponse where
  reachable := true
  statusCode := 400
  statusMessage := "An app is already running on this host"

theorem app_taken_down_after_quit
    : ∃ h, (idle {}).run [.launch, .quit, .reply 0 .launched] = some h ∧
      h.strayCancel = false ∧
      (h.running = true → hostHoldsOurApp h.state.phase = true ∨ h.dropped = true) := by
  refine ⟨_, rfl, ?_⟩
  have hset : Along step Settled (idle {}) [.launch, .quit, .reply 0 .launched] := by
    decide
  exact app_held_or_dropped rfl hset rfl

theorem app_stranded_by_refused_relaunch
    : ∃ h, (idle {}).run [.launch, .quit, .launch, .reply 1 busy, .reply 0 .launched] = some h ∧
      h.requests = [] ∧ h.running = true ∧
      hostHoldsOurApp h.state.phase = false ∧ h.dropped = false := by
  have hany : ((idle {}).run
      [.launch, .quit, .launch, .reply 1 busy, .reply 0 .launched]).any (fun h =>
        h.requests = [] ∧ h.running = true ∧
        hostHoldsOurApp h.state.phase = false ∧ h.dropped = false) = true := by
    decide +kernel
  obtain ⟨h, hrun, hh⟩ := exists_run_of_any hany
  exact ⟨h, hrun, by simpa using hh⟩

end Hosted

end Moonlight
