import Dish.Lib.Transition
import Dish.Moonlight.SessionMachine

/-!
This module contains the pairing of a Moonlight session.
-/

open Transition

namespace Moonlight

variable {i : Nat}

structure PairingClient (κ : Type) where
  consumeServerCert : κ → String → Option κ
  consumeChallengeResponse : κ → String → Option κ
  consumePairingSecret : κ → String → Option κ
  serverCert : κ → String

structure PairingRun (κ : Type) where
  pc : κ
  generation : UInt32
  number : Nat
  deriving DecidableEq

inductive PairPhase where
  | phase1
  | phase2
  | phase3
  | phase4
  | phase5
  deriving DecidableEq

structure PairRequest (κ : Type) where
  run : PairingRun κ
  phase : PairPhase
  deriving DecidableEq

/--
`requests` are those whose answer is out, `reports` what `pairingFinished` was emitted with,
`cancelled` the number of runs begun when `cancelPairing` last returned.
-/
structure PairingSession (κ : Type) where
  state : SessionState := {}
  hasRepo : Bool := true
  failureMessage : String := ""
  pairGeneration : UInt32 := 0
  paired : Bool := false
  pinned : Option String := none
  serverCertMismatch : Bool := false
  requests : List (PairRequest κ) := []
  reports : List Bool := []
  started : Nat := 0
  cancelled : Nat := 0
  pairingActive : Bool := false
  pairingRefused : Bool := false
  deriving DecidableEq

namespace PairingSession

variable {κ : Type}

def dispatch (s : PairingSession κ) (event : SessionEvent) : PairingSession κ :=
  { s with state := nextSession s.state event }

def pairingFinished (s : PairingSession κ) (ok : Bool) : PairingSession κ :=
  { s with reports := s.reports ++ [ok], pairingActive := false, pairingRefused := !ok }

def pairAbandoned (s : PairingSession κ) (run : PairingRun κ) : Bool :=
  s.pairGeneration ≠ run.generation

def pairFailed (s : PairingSession κ) (r : MoonlightXmlResponse) : PairingSession κ :=
  ({ s with failureMessage := r.statusMessage }.dispatch .PairFailed).pairingFinished false

def request (s : PairingSession κ) (run : PairingRun κ) (phase : PairPhase) : PairingSession κ :=
  { s with requests := s.requests ++ [{ run, phase }] }

def onPairPhase (s : PairingSession κ) (run : PairingRun κ) (r : MoonlightXmlResponse)
    (next : Option (PairingSession κ)) : PairingSession κ :=
  if s.pairAbandoned run then s
  else if !r.reachable || !r.ok then s.pairFailed r
  else next.getD (s.pairFailed r)

def consumed (s : PairingSession κ) (run : PairingRun κ) (text : String)
    (consume : κ → String → Option κ) (phase : PairPhase) : Option (PairingSession κ) :=
  if text = "" then none else (consume run.pc text).map fun pc => s.request { run with pc } phase

def proven (client : PairingClient κ) (s : PairingSession κ) (run : PairingRun κ)
    : PairingSession κ :=
  let s := { s with paired := true }
  let s := if s.hasRepo then
    { s with pinned := some (client.serverCert run.pc), serverCertMismatch := false }
  else s
  (s.dispatch .PairSucceeded).pairingFinished true

def onPairPhase1 (client : PairingClient κ) (s : PairingSession κ) (run : PairingRun κ)
    (r : MoonlightXmlResponse) : PairingSession κ :=
  s.onPairPhase run r (s.consumed run (r.value "plaincert") client.consumeServerCert .phase2)

def onPairPhase2 (client : PairingClient κ) (s : PairingSession κ) (run : PairingRun κ)
    (r : MoonlightXmlResponse) : PairingSession κ :=
  s.onPairPhase run r
    (s.consumed run (r.value "challengeresponse") client.consumeChallengeResponse .phase3)

def onPairPhase3 (client : PairingClient κ) (s : PairingSession κ) (run : PairingRun κ)
    (r : MoonlightXmlResponse) : PairingSession κ :=
  s.onPairPhase run r
    (s.consumed run (r.value "pairingsecret") client.consumePairingSecret .phase4)

def onPairPhase4 (s : PairingSession κ) (run : PairingRun κ) (r : MoonlightXmlResponse)
    : PairingSession κ :=
  s.onPairPhase run r (if r.paired then some (s.request run .phase5) else none)

def onPairPhase5 (client : PairingClient κ) (s : PairingSession κ) (run : PairingRun κ)
    (r : MoonlightXmlResponse) : PairingSession κ :=
  s.onPairPhase run r (if r.paired then some (proven client s run) else none)

def onPairReply (client : PairingClient κ) (s : PairingSession κ) (q : PairRequest κ)
    (r : MoonlightXmlResponse) : PairingSession κ :=
  match q.phase with
  | .phase1 => onPairPhase1 client s q.run r
  | .phase2 => onPairPhase2 client s q.run r
  | .phase3 => onPairPhase3 client s q.run r
  | .phase4 => onPairPhase4 s q.run r
  | .phase5 => onPairPhase5 client s q.run r

/-- `pc` is the client made for the PIN, `none` if it is not valid. -/
def pair (s : PairingSession κ) (pc : Option κ) : PairingSession κ :=
  if !s.hasRepo then s.pairingFinished false
  else
    let s := s.dispatch .StartPairing
    match pc with
    | none => (s.dispatch .PairFailed).pairingFinished false
    | some pc =>
      { s with started := s.started + 1 }.request
        { pc, generation := s.pairGeneration, number := s.started } .phase1

def cancelPairing (s : PairingSession κ) : PairingSession κ :=
  let s := { s with cancelled := s.started }
  if s.state.phase ≠ .Pairing then s
  else { s with pairGeneration := s.pairGeneration + 1 }.dispatch .PairFailed

def quit (s : PairingSession κ) : PairingSession κ :=
  if s.state.phase = .Idle ∨ s.state.phase = .Closed then s else s.dispatch .UserQuit

def pinVerifier (s : PairingSession κ) (der : String) : PairingSession κ :=
  if der = "" ∨ !s.hasRepo then s
  else
    match s.pinned with
    | none => { s with pinned := some der, serverCertMismatch := false }
    | some stored => { s with serverCertMismatch := stored ≠ der }

def clearForNewPairing (s : PairingSession κ) (uniqueIdChanged : Bool) : PairingSession κ :=
  let identityMoved := uniqueIdChanged || s.serverCertMismatch
  let s := if s.pairingActive then s.cancelPairing else s
  if identityMoved then { s with pinned := none, serverCertMismatch := false } else s

def pairHost (s : PairingSession κ) (uniqueIdChanged : Bool) (pc : Option κ) : PairingSession κ :=
  { s.clearForNewPairing uniqueIdChanged with
    pairingActive := true, pairingRefused := false }.pair pc

def cancelHostPairing (s : PairingSession κ) : PairingSession κ :=
  { s.cancelPairing with pairingActive := false, pairingRefused := false }

def ofPairing : SessionEvent → Bool
  | .StartPairing | .PairSucceeded | .PairFailed => true
  | _ => false

inductive Act (κ : Type) where
  | pair (pc : Option κ)
  | cancelPairing
  | pairHost (uniqueIdChanged : Bool) (pc : Option κ)
  | cancelHostPairing
  | reply (i : Nat) (r : MoonlightXmlResponse)
  | quit
  | signal (event : SessionEvent)
  | presents (der : String)

def step (client : PairingClient κ) (s : PairingSession κ) : Act κ → Option (PairingSession κ)
  | .pair pc => some (s.pair pc)
  | .cancelPairing => some s.cancelPairing
  | .pairHost uniqueIdChanged pc => some (s.pairHost uniqueIdChanged pc)
  | .cancelHostPairing => some s.cancelHostPairing
  | .reply i r =>
    s.requests[i]?.map fun q => onPairReply client { s with requests := s.requests.eraseIdx i } q r
  | .quit => some s.quit
  | .signal event => if ofPairing event then none else some (s.dispatch event)
  | .presents der => some (s.pinVerifier der)

def run (client : PairingClient κ) : PairingSession κ → List (Act κ) → Option (PairingSession κ) :=
  Transition.run (step client)

/-- The session is pairing and has not come round to the generation of a run that waits. -/
def CancelsAll (s : PairingSession κ) : Prop :=
  ∀ q ∈ s.requests,
    if s.state.phase = .Pairing then q.run.generation ≠ s.pairGeneration + 1
    else s.pairAbandoned q.run = true

def Heeded (s : PairingSession κ) : Act κ → Prop
  | .cancelPairing | .cancelHostPairing => s.CancelsAll
  | .pairHost _ _ => s.pairingActive = true → s.CancelsAll
  | .pair _ | .reply _ _ | .quit | .signal _ | .presents _ => True

def AllCancelled (s : PairingSession κ) : Prop :=
  ∀ q ∈ s.requests, q.run.number < s.cancelled

def Preceded (s : PairingSession κ) : Act κ → Prop
  | .pair _ => s.AllCancelled
  | .pairHost _ _ => s.pairingActive = true ∨ s.AllCancelled
  | .cancelPairing | .cancelHostPairing | .reply _ _ | .quit | .signal _ | .presents _ => True

instance decidableCancelsAll (s : PairingSession κ) : Decidable s.CancelsAll := by
  unfold CancelsAll
  infer_instance

instance decidableHeeded (s : PairingSession κ) (a : Act κ) : Decidable (s.Heeded a) := by
  cases a <;> unfold Heeded <;> infer_instance

inductive Answered (s : PairingSession κ) (q : PairRequest κ) : PairingSession κ → Prop where
  | drops (abandoned : s.pairAbandoned q.run = true) : Answered s q s
  | asks (live : s.pairAbandoned q.run = false) (pc : κ) (phase : PairPhase)
      : Answered s q (s.request { q.run with pc } phase)
  | ends {s' : PairingSession κ} (live : s.pairAbandoned q.run = false)
      (requests : s'.requests = s.requests) (generation : s'.pairGeneration = s.pairGeneration)
      (started : s'.started = s.started) (cancelled : s'.cancelled = s.cancelled)
      : Answered s q s'

section

variable {client : PairingClient κ} {s : PairingSession κ} {q : PairRequest κ}
  {r : MoonlightXmlResponse}

theorem answered_onPairPhase {next : Option (PairingSession κ)}
    (hnext : ∀ s', next = some s' → s.pairAbandoned q.run = false → Answered s q s')
    : Answered s q (s.onPairPhase q.run r next) := by
  have hfailed (hlive : s.pairAbandoned q.run = false) : Answered s q (s.pairFailed r) :=
    .ends hlive rfl rfl rfl rfl
  unfold onPairPhase
  split
  next habandoned => exact .drops habandoned
  next hlive =>
    rw [Bool.not_eq_true] at hlive
    split
    . exact hfailed hlive
    . cases next with
      | none => exact hfailed hlive
      | some s' => exact hnext s' rfl hlive

theorem answered_of_consumed {text : String} {consume : κ → String → Option κ} {phase : PairPhase}
    (s' : PairingSession κ) (h : s.consumed q.run text consume phase = some s')
    (hlive : s.pairAbandoned q.run = false)
    : Answered s q s' := by
  unfold consumed at h
  split at h
  . contradiction
  . obtain ⟨pc, _, rfl⟩ := Option.map_eq_some_iff.mp h
    exact .asks hlive pc phase

theorem answered_onPairReply : Answered s q (onPairReply client s q r) := by
  unfold onPairReply
  split
  . exact answered_onPairPhase answered_of_consumed
  . exact answered_onPairPhase answered_of_consumed
  . exact answered_onPairPhase answered_of_consumed
  . apply answered_onPairPhase
    intro s' h hlive
    split at h
    . cases h
      exact .asks hlive q.run.pc .phase5
    . contradiction
  . apply answered_onPairPhase
    intro s' h hlive
    split at h
    . cases h
      unfold proven
      dsimp only
      split <;> exact .ends hlive rfl rfl rfl rfl
    . contradiction

theorem onPairReply_of_abandoned (h : s.pairAbandoned q.run = true)
    : onPairReply client s q r = s := by
  generalize hs' : onPairReply client s q r = s'
  have hanswered : Answered s q s' := by
    rw [← hs']
    exact answered_onPairReply
  cases hanswered with
  | drops => rfl
  | asks live | ends live => simp [h] at live

end

structure Quiet (s : PairingSession κ) : Prop where
  counted : s.cancelled ≤ s.started
  silent : ∀ q ∈ s.requests, q.run.number < s.cancelled → s.pairAbandoned q.run = true

section

variable {s s' : PairingSession κ}

theorem Quiet.of_eq (h : s.Quiet) (hrequests : s'.requests = s.requests)
    (hgeneration : s'.pairGeneration = s.pairGeneration) (hstarted : s'.started = s.started)
    (hcancelled : s'.cancelled = s.cancelled)
    : s'.Quiet := by
  constructor
  . rw [hcancelled, hstarted]
    exact h.counted
  . rw [hrequests, hcancelled]
    simpa [pairAbandoned, hgeneration] using h.silent

theorem cancelPairing_eqs
    : s.cancelPairing.requests = s.requests ∧ s.cancelPairing.started = s.started ∧
      s.cancelPairing.cancelled = s.started ∧
      s.cancelPairing.pairGeneration =
        if s.state.phase = .Pairing then s.pairGeneration + 1 else s.pairGeneration := by
  unfold cancelPairing
  by_cases hphase : s.state.phase = .Pairing <;> simp [hphase, dispatch]

theorem abandoned_cancelPairing (hall : s.CancelsAll)
    : ∀ q ∈ s.requests, s.cancelPairing.pairAbandoned q.run = true := by
  intro q hq
  have hnoticed := hall q hq
  rw [pairAbandoned, cancelPairing_eqs.2.2.2]
  split at hnoticed
  next hphase => simpa [hphase] using hnoticed.symm
  next hphase => simpa [hphase, pairAbandoned] using hnoticed

theorem Quiet.cancelPairing (hall : s.CancelsAll)
    : s.cancelPairing.Quiet := by
  obtain ⟨hrequests, hstarted, hcancelled, _⟩ := cancelPairing_eqs (s := s)
  constructor
  . exact Nat.le_of_eq (hcancelled.trans hstarted.symm)
  . rw [hrequests]
    intro q hq _
    exact abandoned_cancelPairing hall q hq

theorem Quiet.pair (h : s.Quiet) (pc : Option κ)
    : (s.pair pc).Quiet := by
  unfold PairingSession.pair
  split
  . exact h.of_eq rfl rfl rfl rfl
  . cases pc with
    | none => exact h.of_eq rfl rfl rfl rfl
    | some pc =>
      refine ⟨Nat.le_succ_of_le h.counted, ?_⟩
      intro q hq hlt
      obtain hq | rfl := by simpa [request] using hq
      . exact h.silent q hq hlt
      -- The new run comes after every cancel.
      . exact absurd h.counted (Nat.not_le_of_lt hlt)

theorem Quiet.clearForNewPairing (h : s.Quiet) {uniqueIdChanged : Bool}
    (hall : s.pairingActive = true → s.CancelsAll)
    : (s.clearForNewPairing uniqueIdChanged).Quiet := by
  have hcleared : (if s.pairingActive then s.cancelPairing else s).Quiet := by
    split
    next hactive => exact Quiet.cancelPairing (hall hactive)
    next => exact h
  unfold PairingSession.clearForNewPairing
  dsimp only
  split
  . exact hcleared.of_eq rfl rfl rfl rfl
  . exact hcleared

theorem Quiet.answered {q : PairRequest κ} (h : s.Quiet)
    (hq : q.run.number < s.cancelled → s.pairAbandoned q.run = true) (hanswered : Answered s q s')
    : s'.Quiet := by
  cases hanswered with
  | drops => exact h
  | ends _ requests generation started cancelled =>
    exact h.of_eq requests generation started cancelled
  | asks live pc phase =>
    refine ⟨h.counted, ?_⟩
    intro q' hq' hlt
    obtain hq' | rfl := by simpa [request] using hq'
    . exact h.silent q' hq' hlt
    . exact hq hlt

theorem pinVerifier_eqs {der : String}
    : (s.pinVerifier der).requests = s.requests ∧
      (s.pinVerifier der).pairGeneration = s.pairGeneration ∧
      (s.pinVerifier der).started = s.started ∧ (s.pinVerifier der).cancelled = s.cancelled ∧
      (s.pinVerifier der).pairingActive = s.pairingActive := by
  unfold pinVerifier
  split
  . exact ⟨rfl, rfl, rfl, rfl, rfl⟩
  . split <;> exact ⟨rfl, rfl, rfl, rfl, rfl⟩

theorem Quiet.step {client : PairingClient κ} {a : Act κ} (h : s.Quiet) (hok : s.Heeded a)
    (hstep : s.step client a = some s')
    : s'.Quiet := by
  cases a with
  | pair pc =>
    cases hstep
    exact h.pair pc
  | cancelPairing =>
    cases hstep
    exact Quiet.cancelPairing hok
  | pairHost uniqueIdChanged pc =>
    cases hstep
    apply Quiet.pair
    exact (h.clearForNewPairing hok).of_eq rfl rfl rfl rfl
  | cancelHostPairing =>
    cases hstep
    exact (Quiet.cancelPairing hok).of_eq rfl rfl rfl rfl
  | reply i r =>
    obtain ⟨q, hi, rfl⟩ := Option.map_eq_some_iff.mp hstep
    have hrest : { s with requests := s.requests.eraseIdx i }.Quiet :=
      ⟨h.counted, fun q' hq' => h.silent q' (List.mem_of_mem_eraseIdx hq')⟩
    exact hrest.answered (h.silent q (List.mem_of_getElem? hi)) answered_onPairReply
  | quit =>
    cases hstep
    unfold quit
    split
    . exact h
    . exact h.of_eq rfl rfl rfl rfl
  | signal event =>
    simp only [PairingSession.step] at hstep
    split at hstep
    . contradiction
    . cases hstep
      exact h.of_eq rfl rfl rfl rfl
  | presents der =>
    cases hstep
    obtain ⟨hrequests, hgeneration, hstarted, hcancelled, _⟩ := @pinVerifier_eqs κ s der
    exact h.of_eq hrequests hgeneration hstarted hcancelled

end

def live (s : PairingSession κ) : List (PairRequest κ) :=
  s.requests.filter fun q => !s.pairAbandoned q.run

def Alone (s : PairingSession κ) : Prop :=
  s.live.length ≤ 1

def Flagged (s : PairingSession κ) : Prop :=
  s.live ≠ [] → s.pairingActive = true

section

variable {client : PairingClient κ} {s s' : PairingSession κ}

theorem live_of_eq (hrequests : s'.requests = s.requests)
    (hgeneration : s'.pairGeneration = s.pairGeneration)
    : s'.live = s.live := by
  unfold live pairAbandoned
  rw [hrequests, hgeneration]

theorem live_cancelPairing (hall : s.CancelsAll) : s.cancelPairing.live = [] := by
  unfold live
  rw [cancelPairing_eqs.1, List.filter_eq_nil_iff]
  intro q hq
  simp [abandoned_cancelPairing hall q hq]

theorem Quiet.live_eq_nil (h : s.Quiet) (hall : s.AllCancelled) : s.live = [] := by
  unfold live
  rw [List.filter_eq_nil_iff]
  intro q hq
  simp [h.silent q hq (hall q hq)]

theorem live_clearForNewPairing {uniqueIdChanged : Bool}
    (hall : s.pairingActive = true → s.CancelsAll) (hlive : s.pairingActive = true ∨ s.live = [])
    : (s.clearForNewPairing uniqueIdChanged).live = [] := by
  have hcleared : (if s.pairingActive then s.cancelPairing else s).live = [] := by
    split
    next hactive => exact live_cancelPairing (hall hactive)
    next hactive => exact hlive.resolve_left hactive
  unfold clearForNewPairing
  dsimp only
  split
  . exact (live_of_eq rfl rfl).trans hcleared
  . exact hcleared

theorem pair_alone (hlive : s.live = []) (pc : Option κ)
    : (s.pair pc).Alone ∧ (s.pairingActive = true → (s.pair pc).Flagged) := by
  unfold pair
  split
  . have hnone : (s.pairingFinished false).live = [] := (live_of_eq rfl rfl).trans hlive
    simp [Alone, Flagged, hnone]
  . cases pc with
    | none =>
      have hnone : (((s.dispatch .StartPairing).dispatch .PairFailed).pairingFinished false).live = [] :=
        (live_of_eq rfl rfl).trans hlive
      simp [Alone, Flagged, hnone]
    | some pc =>
      constructor
      . simp_all [Alone, live, request, dispatch, pairAbandoned]
      . intro hactive _
        exact hactive

theorem live_eraseIdx (h : s.Alone) {q : PairRequest κ} (hi : s.requests[i]? = some q)
    (hlive : s.pairAbandoned q.run = false)
    : { s with requests := s.requests.eraseIdx i }.live = [] := by
  obtain ⟨hlt, rfl⟩ := List.getElem?_eq_some_iff.mp hi
  have hsplit : s.requests = s.requests.take i ++ s.requests[i] :: s.requests.drop (i + 1) := by
    simp
  have hlength : s.live.length =
      { s with requests := s.requests.eraseIdx i }.live.length + 1 := by
    have hfilter := congrArg
      (fun l => (l.filter fun q => !s.pairAbandoned q.run).length) hsplit
    simp only [List.filter_append, List.filter_cons, hlive, Bool.not_false, if_true,
      List.length_append, List.length_cons] at hfilter
    simp only [live, List.eraseIdx_eq_take_drop_succ, List.filter_append, List.length_append]
    exact hfilter
  apply List.eq_nil_of_length_eq_zero
  unfold Alone at h
  omega

theorem live_eraseIdx_sublist (i : Nat)
    : { s with requests := s.requests.eraseIdx i }.live.Sublist s.live := by
  exact (List.eraseIdx_sublist s.requests i).filter _

theorem Alone.onPairReply (h : s.Alone) {q : PairRequest κ}
    (hi : s.requests[i]? = some q) {r : MoonlightXmlResponse}
    : (onPairReply client { s with requests := s.requests.eraseIdx i } q r).Alone ∧
      (s.Flagged →
        (onPairReply client { s with requests := s.requests.eraseIdx i } q r).Flagged) := by
  have hanswered :=
    @answered_onPairReply κ client { s with requests := s.requests.eraseIdx i } q r
  generalize PairingSession.onPairReply client _ q r = s' at *
  cases hanswered with
  | drops =>
    constructor
    . exact Nat.le_trans (live_eraseIdx_sublist i).length_le h
    . intro hflag hlive
      apply hflag
      intro hnil
      exact hlive (List.sublist_nil.mp (hnil ▸ live_eraseIdx_sublist i))
  | asks live pc phase =>
    have hnone := live_eraseIdx h hi live
    constructor
    . simp_all [Alone, PairingSession.live, request, pairAbandoned]
    . intro hflag _
      apply hflag
      apply List.ne_nil_of_mem
      exact List.mem_filter.mpr ⟨List.mem_of_getElem? hi, by simpa [pairAbandoned] using live⟩
  | ends live requests generation =>
    have hnone := (live_of_eq requests generation).trans (live_eraseIdx h hi live)
    simp [Alone, Flagged, hnone]

theorem Alone.step {a : Act κ} (h : s.Alone) (hok : s.Heeded a)
    (hpair : ∀ pc, a = .pair pc → s.live = [])
    (hhost : ∀ uniqueIdChanged pc, a = .pairHost uniqueIdChanged pc →
      s.pairingActive = true ∨ s.live = [])
    (hstep : s.step client a = some s')
    : s'.Alone ∧ (s.Flagged → (∀ pc, a ≠ .pair pc) → s'.Flagged) := by
  cases a with
  | pair pc =>
    cases hstep
    exact ⟨(pair_alone (hpair pc rfl) pc).1, fun _ hraw => absurd rfl (hraw pc)⟩
  | cancelPairing =>
    cases hstep
    simp [Alone, Flagged, live_cancelPairing hok]
  | pairHost uniqueIdChanged pc =>
    cases hstep
    have hnone : (s.clearForNewPairing uniqueIdChanged).live = [] :=
      live_clearForNewPairing hok (hhost uniqueIdChanged pc rfl)
    have halone := pair_alone (s := { s.clearForNewPairing uniqueIdChanged with
      pairingActive := true, pairingRefused := false }) hnone pc
    exact ⟨halone.1, fun _ _ => halone.2 rfl⟩
  | cancelHostPairing =>
    cases hstep
    have hnone : s.cancelHostPairing.live = [] :=
      (live_of_eq rfl rfl).trans (live_cancelPairing hok)
    simp [Alone, Flagged, hnone]
  | reply i r =>
    obtain ⟨q, hi, rfl⟩ := Option.map_eq_some_iff.mp hstep
    exact ⟨(h.onPairReply hi).1, fun hflag _ => (h.onPairReply hi).2 hflag⟩
  | quit =>
    cases hstep
    unfold quit
    split <;> exact ⟨h, fun hflag _ => hflag⟩
  | signal event =>
    simp only [PairingSession.step] at hstep
    split at hstep
    . contradiction
    . cases hstep
      exact ⟨h, fun hflag _ => hflag⟩
  | presents der =>
    cases hstep
    obtain ⟨hrequests, hgeneration, _, _, hactive⟩ := @pinVerifier_eqs κ s der
    simp only [Alone, Flagged, live_of_eq hrequests hgeneration, hactive]
    exact ⟨h, fun hflag _ => hflag⟩

end

section

variable {client : PairingClient κ} {s s' : PairingSession κ} {acts : List (Act κ)}

theorem alone_of_preceded (hquiet : s.Quiet) (h : s.Alone)
    (hok : Along (step client) Heeded s acts)
    (hpre : Along (step client) Preceded s acts) (hrun : s.run client acts = some s')
    : s'.Alone := by
  have hinv : s'.Quiet ∧ s'.Alone := by
    refine invariant_of_along (I := fun s => s.Quiet ∧ s.Alone) ?_ ⟨hquiet, h⟩
      (along_and hok hpre) hrun
    rintro s a s' ⟨hquiet, h⟩ ⟨hok, hpre⟩ hstep
    refine ⟨hquiet.step hok hstep, (h.step hok ?_ ?_ hstep).1⟩
    . rintro pc rfl
      exact hquiet.live_eq_nil hpre
    . rintro uniqueIdChanged pc rfl
      exact hpre.imp_right hquiet.live_eq_nil
  exact hinv.2

theorem alone_of_managed (h : s.Alone) (hflag : s.Flagged)
    (hok : Along (step client) Heeded s acts)
    (hraw : ∀ a ∈ acts, ∀ pc, a ≠ .pair pc) (hrun : s.run client acts = some s')
    : s'.Alone := by
  have hmanaged : Along (step client) (fun _ a => ∀ pc, a ≠ .pair pc) s acts :=
    along_of_forall fun a ha _ => hraw a ha
  have hinv : s'.Alone ∧ s'.Flagged := by
    refine invariant_of_along (I := fun s => s.Alone ∧ s.Flagged) ?_ ⟨h, hflag⟩
      (along_and hok hmanaged) hrun
    rintro s a s' ⟨h, hflag⟩ ⟨hok, hraw⟩ hstep
    have hstep := h.step hok (fun pc ha => absurd ha (hraw pc)) ?_ hstep
    . exact ⟨hstep.1, hstep.2 hflag hraw⟩
    . rintro uniqueIdChanged pc rfl
      by_cases hlive : s.live = []
      . exact .inr hlive
      . exact .inl (hflag hlive)
  exact hinv.1

def TakesEffect (client : PairingClient κ) (s : PairingSession κ) (i : Nat) : Prop :=
  ∃ r s', s.step client (.reply i r) = some s' ∧
    s' ≠ { s with requests := s.requests.eraseIdx i }

theorem reply_of_abandoned {q : PairRequest κ} (hi : s.requests[i]? = some q)
    (h : s.pairAbandoned q.run = true) (r : MoonlightXmlResponse)
    : s.step client (.reply i r) = some { s with requests := s.requests.eraseIdx i } := by
  rw [step, hi, Option.map_some]
  rw [onPairReply_of_abandoned (s := { s with requests := s.requests.eraseIdx i }) h]

theorem TakesEffect.mem_live {q : PairRequest κ} (h : TakesEffect client s i)
    (hi : s.requests[i]? = some q)
    : q ∈ s.live := by
  obtain ⟨r, s', hstep, hne⟩ := h
  refine List.mem_filter.mpr ⟨List.mem_of_getElem? hi, ?_⟩
  cases habandoned : s.pairAbandoned q.run with
  | false => rfl
  | true =>
    rw [reply_of_abandoned hi habandoned] at hstep
    exact absurd (Option.some.inj hstep).symm hne

theorem Alone.eq_of_takesEffect (h : s.Alone) {j : Nat} {q q' : PairRequest κ}
    (hi : s.requests[i]? = some q) (hj : s.requests[j]? = some q')
    (heffect : TakesEffect client s i) (heffect' : TakesEffect client s j)
    : q = q' := by
  have hq := heffect.mem_live hi
  have hq' := heffect'.mem_live hj
  unfold Alone at h
  generalize s.live = live at *
  cases live with
  | nil => contradiction
  | cons first rest =>
    cases rest with
    | nil => simp_all
    | cons => simp at h

theorem cancelled_runs_silent (hrest : s.requests = []) (hcounted : s.cancelled ≤ s.started)
    (hok : Along (step client) Heeded s acts) (hrun : s.run client acts = some s')
    : (∀ i q r, s'.requests[i]? = some q → q.run.number < s'.cancelled →
        s'.step client (.reply i r) =
          some { s' with requests := s'.requests.eraseIdx i }) ∧
      (Along (step client) Preceded s acts ∨ (∀ a ∈ acts, ∀ pc, a ≠ .pair pc) →
        ∀ i j q q', s'.requests[i]? = some q → s'.requests[j]? = some q' →
          TakesEffect client s' i → TakesEffect client s' j → q.run.number = q'.run.number) := by
  have hquiet : s.Quiet := ⟨hcounted, by simp [hrest]⟩
  have hnone : s.live = [] := by simp [live, hrest]
  have halone : s.Alone := by simp [Alone, hnone]
  have hflag : s.Flagged := by simp [Flagged, hnone]
  constructor
  . intro i q r hi hlt
    have hquiet' : s'.Quiet :=
      invariant_of_along (fun _ _ _ => Quiet.step) hquiet hok hrun
    exact reply_of_abandoned hi (hquiet'.silent q (List.mem_of_getElem? hi) hlt) r
  . intro hpre i j q q' hi hj heffect heffect'
    have halone' : s'.Alone :=
      hpre.elim (fun hpre => alone_of_preceded hquiet halone hok hpre hrun)
        (fun hraw => alone_of_managed halone hflag hok hraw hrun)
    rw [halone'.eq_of_takesEffect hi hj heffect heffect']

end

def trusting : PairingClient String where
  consumeServerCert _ plaincert := some plaincert
  consumeChallengeResponse cert _ := some cert
  consumePairingSecret cert _ := some cert
  serverCert cert := cert

def agrees : MoonlightXmlResponse where
  reachable := true
  value _ := "1"

theorem cancelled_runs_silent_restarted
    : ∃ s, ({} : PairingSession String).run trusting
        [.pairHost false (some ""), .reply 0 agrees, .pairHost false (some "")] = some s ∧
      s.requests.map (·.run.number) = [0, 1] ∧
      (∀ i q r, s.requests[i]? = some q → q.run.number < s.cancelled →
        s.step trusting (.reply i r) = some { s with requests := s.requests.eraseIdx i }) ∧
      ∀ i j q q', s.requests[i]? = some q → s.requests[j]? = some q' →
        TakesEffect trusting s i → TakesEffect trusting s j → q.run.number = q'.run.number := by
  have hok : Along (step trusting) Heeded ({} : PairingSession String)
      [.pairHost false (some ""), .reply 0 agrees, .pairHost false (some "")] := by
    decide +kernel
  have hmanaged : ∀ a ∈ [Act.pairHost false (some ""), .reply 0 agrees, .pairHost false (some "")],
      ∀ pc, a ≠ .pair pc := by
    simp
  have hsilent := cancelled_runs_silent rfl (Nat.le_refl 0) hok rfl
  exact ⟨_, rfl, rfl, hsilent.1, hsilent.2 (.inr hmanaged)⟩

theorem cancelled_run_pairs
    : (∃ s s', ({} : PairingSession String).run trusting
          [.pair (some ""), .quit, .cancelPairing] = some s ∧
        s.requests.map (·.run.number) = [0] ∧ s.cancelled = 1 ∧
        s.paired = false ∧ s.pinned = none ∧ s.reports = [] ∧
        s.run trusting [.reply 0 agrees, .reply 0 agrees, .reply 0 agrees, .reply 0 agrees,
          .reply 0 agrees] = some s' ∧
        s'.paired = true ∧ s'.pinned = some "1" ∧ s'.reports = [true]) ∧
      ∃ s, ({} : PairingSession String).run trusting
          [.pair (some ""), .quit, .cancelPairing, .pair (some "")] = some s ∧
        s.requests.map (fun q => (q.run.number, s.pairAbandoned q.run)) =
          [(0, false), (1, false)] := by
  refine ⟨⟨_, _, rfl, rfl, rfl, rfl, rfl, rfl, rfl, rfl, rfl, rfl⟩, _, rfl, rfl⟩

end PairingSession

end Moonlight
