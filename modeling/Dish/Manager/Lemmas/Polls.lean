import Dish.Manager.Lemmas.Held
import Dish.Manager.Lemmas.Attempts

/-!
This module contains the polls of the approval request.
-/

open Std Models Reducer Wire Store Connection Transition

namespace Wifi

variable {attempt rid : Nat}

theorem Call.poll?_eq_some {call : Call}
    : call.poll? = some attempt ↔ ∃ server, call = .pairStatus server attempt := by
  cases call <;> simp [Call.poll?]

namespace Manager

variable {sodium : Sodium} {m m' m'' : Manager} {y : String} {powers : Set Power}

structure Aside (m m' : Manager) : Prop where
  attempt : m'.reverse.attempt = m.reverse.attempt
  polls : Adds (·.poll? = none) m m'
  waits : m'.reverse.phase = .AwaitingApproval →
    m.reverse.phase = .AwaitingApproval ∧ m'.reverse.pollInFlight = m.reverse.pollInFlight

namespace Aside

theorem refl (m : Manager) : Aside m m := ⟨rfl, .refl m, fun h => ⟨h, rfl⟩⟩

theorem trans (h : Aside m m') (h' : Aside m' m'') : Aside m m'' where
  attempt := h'.attempt.trans h.attempt
  polls := h.polls.trans h'.polls
  waits := by
    intro hphase
    obtain ⟨hphase', hflag'⟩ := h'.waits hphase
    obtain ⟨hphase, hflag⟩ := h.waits hphase'
    exact ⟨hphase, hflag'.trans hflag⟩

theorem keep (h : Aside m m') (hrequests : m''.requests = m'.requests)
    (hreverse : m''.reverse = m'.reverse)
    : Aside m m'' := by
  refine h.trans ⟨by rw [hreverse], ?_, by rw [hreverse]; exact fun h => ⟨h, rfl⟩⟩
  intro rid r hr
  rw [hrequests] at hr
  exact .inl ⟨r, hr, rfl⟩

theorem eraseRequest (m : Manager) (rid : Nat)
    : Aside m { m with requests := m.requests.erase rid } :=
  ⟨rfl, .erase m rid, fun h => ⟨h, rfl⟩⟩

theorem onEncrypted {request : Request} (certDer : List UInt8)
    (hrequest : m.requests[rid]? = some request)
    : Aside m (m.onEncrypted sodium rid request certDer) := by
  have hreverse := (sameBooks_onEncrypted sodium m rid request certDer).reverse
  refine ⟨by rw [hreverse], adds_onEncrypted certDer hrequest, ?_⟩
  rw [hreverse]
  exact fun hphase => ⟨hphase, rfl⟩

end Aside

theorem Touches.polls (h : Touches powers y m m') (hpoll : .poll ∉ powers)
    : Adds (·.poll? = none) m m' := by
  induction h with
  | refl => apply Adds.refl
  | send _ host port call _ hfits ih =>
    refine ih.send host port ?_
    cases call <;> first | rfl | contradiction
  | _ => assumption

theorem Touches.aside (h : Touches powers y m m') (hask : .ask ∉ powers) (hpoll : .poll ∉ powers)
    : Aside m m' := by
  refine ⟨?_, h.polls hpoll, ?_⟩
  . induction h with
    | refl => rfl
    | reverse _ r hattempt _ ih => exact (hattempt.resolve_right hask).trans ih
    | _ => assumption
  . induction h with
    | refl => exact fun hphase => ⟨hphase, rfl⟩
    | reverse _ r _ hr ih =>
      intro hphase
      obtain ⟨_, hasked, _⟩ | ⟨hbefore, _, hflag⟩ := hr hphase
      . contradiction
      . obtain ⟨hfirst, hsame⟩ := ih hbefore
        exact ⟨hfirst, (hflag.resolve_right hpoll).trans hsame⟩
    | _ => assumption

theorem respected_aside : Respected {.ask, .poll}ᶜ Aside where
  refl := Aside.refl
  trans := Aside.trans
  touches := fun h => h.aside (by simp) (by simp)
  eraseRequest := Aside.eraseRequest
  eraseRetry := fun m _ => (Aside.refl m).keep rfl rfl
  scanned := fun m _ => (Aside.refl m).keep rfl rfl
  advance := fun m _ => (Aside.refl m).keep rfl rfl
  encrypted := fun _ _ _ _ _ certDer hrequest => Aside.onEncrypted certDer hrequest

theorem aside_step {e : Event} (hstep : m.step sodium e = some m')
    (hbegins : e.beginsAttempt = false) (htick : ¬e.isPollTick) (hanswers : ¬m.Answers e .poll)
    : Aside m m' := by
  apply respected_aside.step hstep
  intro p hneeds hp
  simp only [Set.mem_insert_iff, Set.mem_singleton_iff] at hp
  obtain rfl | rfl := hp
  . exact Bool.false_ne_true (hbegins.symm.trans hneeds)
  . exact hneeds.elim htick hanswers

def Polls (m : Manager) (rid attempt : Nat) : Prop :=
  ∃ r, m.requests[rid]? = some r ∧ r.call.poll? = some attempt

theorem polls_of_adds (h : Adds (·.poll? = none) m m') (hpolls : m'.Polls rid attempt)
    : m.Polls rid attempt := by
  obtain ⟨r, hr, hpoll⟩ := hpolls
  rcases h rid r hr with ⟨r₀, hr₀, hcall⟩ | hnone
  . exact ⟨r₀, hr₀, hcall ▸ hpoll⟩
  . rw [hpoll] at hnone
    cases hnone

theorem polls_send {host : String} {port : Int} {call : Call}
    (hpolls : (m.send host port call).Polls rid attempt)
    : (rid = m.nextRequest ∧ call.poll? = some attempt) ∨ m.Polls rid attempt := by
  obtain ⟨r, hr, hpoll⟩ := hpolls
  simp only [send, TreeMap.getElem?_insert] at hr
  split at hr
  . next heq =>
    cases hr
    exact .inl ⟨(Std.compare_eq_iff_eq.mp heq).symm, hpoll⟩
  . exact .inr ⟨r, hr, hpoll⟩

structure OnePoll (m : Manager) : Prop where
  alone : ∀ rid rid' attempt attempt', m.Polls rid attempt → m.Polls rid' attempt' → rid = rid'
  current : ∀ rid attempt, m.Polls rid attempt → attempt = m.reverse.attempt
  flagged : ∀ rid attempt, m.Polls rid attempt → m.reverse.phase = .AwaitingApproval →
    m.reverse.pollInFlight = true

namespace OnePoll

theorem of_none (h : ∀ rid attempt, ¬ m.Polls rid attempt) : OnePoll m where
  alone := fun rid _ attempt _ hpolls _ => absurd hpolls (h rid attempt)
  current := fun rid attempt hpolls => absurd hpolls (h rid attempt)
  flagged := fun rid attempt hpolls _ => absurd hpolls (h rid attempt)

theorem aside (h : OnePoll m) (haside : Aside m m') : OnePoll m' where
  alone := fun rid rid' attempt attempt' hpolls hpolls' =>
    h.alone rid rid' attempt attempt' (polls_of_adds haside.polls hpolls)
      (polls_of_adds haside.polls hpolls')
  current := by
    intro rid attempt hpolls
    rw [haside.attempt]
    exact h.current rid attempt (polls_of_adds haside.polls hpolls)
  flagged := by
    intro rid attempt hpolls hphase
    obtain ⟨hphase, hflag⟩ := haside.waits hphase
    rw [hflag]
    exact h.flagged rid attempt (polls_of_adds haside.polls hpolls) hphase

theorem pollReverseStatus (h : OnePoll m) : OnePoll m.pollReverseStatus := by
  unfold Manager.pollReverseStatus
  split
  . exact h
  . next hready =>
    push Not at hready
    obtain ⟨hphase, hflag⟩ := hready
    have hnone (rid attempt : Nat) : ¬ m.Polls rid attempt :=
      fun hpolls => hflag (h.flagged rid attempt hpolls hphase)
    -- so the poll that goes out is the only one
    constructor
    . intro rid rid' attempt attempt' hpolls hpolls'
      rcases polls_send hpolls with ⟨hrid, _⟩ | hold
      . rcases polls_send hpolls' with ⟨hrid', _⟩ | hold'
        . exact hrid.trans hrid'.symm
        . exact absurd hold' (hnone rid' attempt')
      . exact absurd hold (hnone rid attempt)
    . intro rid attempt hpolls
      rcases polls_send hpolls with ⟨_, hpoll⟩ | hold
      . exact (Option.some.inj hpoll).symm
      . exact absurd hold (hnone rid attempt)
    . intro _ _ _ _
      rfl

end OnePoll

def Patient (m : Manager) (e : Event) : Prop :=
  e.beginsAttempt → ∀ entry ∈ m.requests.toList, entry.2.call.poll? = none

instance (m : Manager) (e : Event) : Decidable (m.Patient e) :=
  inferInstanceAs (Decidable (_ → _))

theorem polls_onReverseStatusReply (m : Manager) (status : PairResponse) (pinMismatch : Bool)
    (server : DiscoveredServer)
    : Adds (·.poll? = none) m (m.onReverseStatusReply sodium status pinMismatch server) := by
  unfold onReverseStatusReply
  dsimp only
  split
  . exact .of_requests rfl
  . split
    . exact .of_requests rfl
    . have haction (m : Manager) (action : ReversePairingAction)
          : Adds (·.poll? = none) m (m.applyReverseAction sodium action status server) :=
        ((Touches.start {.store, .dial, .open, .astray} server.id m).applyReverseAction action status
          ⟨server, rfl⟩ (by simp) fun _ => ⟨by simp, by simp, .inl (by simp)⟩).polls (by simp)
      refine Adds.trans ?_ (haction _ _)
      exact .of_requests rfl

theorem onePoll_step (h : OnePoll m) {e : Event} (hpatient : m.Patient e)
    (hstep : m.step sodium e = some m')
    : OnePoll m' := by
  cases e with
  | requestReversePairing server raw =>
    obtain rfl := Option.some.inj hstep
    have hasked := (Touches.start {.user, .ask} server.id m).requestReversePairing ⟨server, rfl⟩ raw
      (by simp) (by simp)
    refine .of_none ?_
    intro rid attempt hpolls
    obtain ⟨r, hr, hpoll⟩ := polls_of_adds (hasked.polls (by simp)) hpolls
    have hnone := hpatient rfl (rid, r) (TreeMap.mem_toList_iff_getElem?_eq_some.mpr hr)
    rw [hpoll] at hnone
    cases hnone
  | reversePollTick =>
    obtain ⟨_, rfl⟩ := step_reversePollTick.mp hstep
    exact h.pollReverseStatus
  | reply rid result linkOpens =>
    obtain ⟨request, hrequest, _, hm'⟩ := step_reply.mp hstep
    cases hpoll : request.call.poll? with
    | none =>
      refine h.aside (aside_step hstep rfl (fun htick => htick) ?_)
      rintro ⟨request', hrequest', hpower⟩
      cases hrequest.symm.trans hrequest'
      cases hcall : request.call <;> simp [hcall, replyPowers, Call.poll?] at hpower hpoll
    | some attempt =>
      -- that was the only one, and the reply sends no other
      refine .of_none ?_
      intro rid' attempt' hpolls'
      obtain ⟨server, hcall⟩ := Call.poll?_eq_some.mp hpoll
      simp only [hm', onReply, hcall] at hpolls'
      obtain ⟨r, hr, hpoll'⟩ := polls_of_adds (polls_onReverseStatusReply _ _ _ _) hpolls'
      rw [TreeMap.getElem?_erase] at hr
      split at hr
      . cases hr
      . next hne =>
        apply hne
        rw [Std.compare_eq_iff_eq]
        exact h.alone rid rid' attempt attempt' ⟨request, hrequest, hpoll⟩ ⟨r, hr, hpoll'⟩
  | _ => exact h.aside (aside_step hstep rfl (fun htick => htick) fun hanswers => hanswers)

structure Unmoved (m m' : Manager) : Prop where
  phase : m'.reverse.phase = m.reverse.phase
  sawPending : m'.reverse.sawPending = m.reverse.sawPending
  keys : ∀ id, m'.store.sharedKey id = m.store.sharedKey id

theorem unmoved_of_reply (hpolls : m.Polls rid attempt) {result : HttpResult}
    {linkOpens : Bool} (hstep : m.step sodium (.reply rid result linkOpens) = some m')
    (hphase : m.reverse.phase ≠ .AwaitingApproval)
    : Unmoved m m' := by
  obtain ⟨request, hrequest, hpoll⟩ := hpolls
  obtain ⟨server, hcall⟩ := Call.poll?_eq_some.mp hpoll
  obtain ⟨request', hrequest', _, rfl⟩ := step_reply.mp hstep
  cases hrequest.symm.trans hrequest'
  simp only [onReply, hcall]
  unfold onReverseStatusReply
  rw [if_pos (.inl hphase)]
  exact ⟨rfl, rfl, fun _ => rfl⟩

theorem one_poll_of_run (store : ConnectionStore) (deviceId deviceName : String)
    (events : List Event) (m : Manager)
    (hrun : Transition.run (step sodium) (launch store deviceId deviceName) events = some m)
    (hpatient : Along (step sodium) Patient (launch store deviceId deviceName) events)
    : (∀ rid rid' attempt attempt', m.Polls rid attempt → m.Polls rid' attempt' → rid = rid') ∧
        ∀ rid attempt result linkOpens m', m.Polls rid attempt →
          m.step sodium (.reply rid result linkOpens) = some m' →
          Unmoved m m' ∨ m.reverse.phase = .AwaitingApproval ∧ attempt = m.reverse.attempt := by
  have hlaunch : OnePoll (launch store deviceId deviceName) := by
    refine .of_none ?_
    rintro rid attempt ⟨r, hr, _⟩
    simp [launch] at hr
  have hinv : OnePoll m := by
    refine invariant_of_along ?_ hlaunch hpatient hrun
    intro m e m' h hpatient hstep
    exact onePoll_step h hpatient hstep
  refine ⟨hinv.alone, ?_⟩
  intro rid attempt result linkOpens m' hpolls hstep
  by_cases hphase : m.reverse.phase = .AwaitingApproval
  . exact .inr ⟨hphase, hinv.current rid attempt hpolls⟩
  . exact .inl (unmoved_of_reply hpolls hstep hphase)

def patientRun : List Event :=
  [.requestReversePairing officePc 1234, .encrypted 0 officeCert, .reply 0 officePending true,
    .requestReversePairing officePc 5678, .encrypted 1 officeCert, .reply 1 officePending true,
    .reversePollTick, .encrypted 2 officeCert]

def officeDenial : HttpResult where
  status := 200
  body := .pair { status := some "denied" }

def pollOut? (m : Manager) (rid : Nat) : Option Nat :=
  m.requests[rid]?.bind fun r => r.call.poll?

theorem pollOut?_eq_some
    : m.pollOut? rid = some attempt ↔ m.Polls rid attempt :=
  Option.bind_eq_some_iff

theorem one_poll_of_run_office
    : ∃ m m' : Manager, Transition.run (step officeSodium) officeLaunch patientRun = some m ∧
        m.Polls 2 2 ∧ m.step officeSodium (.reply 2 officeDenial true) = some m' ∧
        m'.reverse.phase = .Declined ∧
        (Unmoved m m' ∨ m.reverse.phase = .AwaitingApproval ∧ 2 = m.reverse.attempt) := by
  have hpatient : Along (step officeSodium) Patient officeLaunch patientRun := by
    decide +kernel
  have hany : (Transition.run (step officeSodium) officeLaunch patientRun).any (fun m =>
      decide (m.pollOut? 2 = some 2) &&
        (m.step officeSodium (.reply 2 officeDenial true)).any fun m' =>
          decide (m'.reverse.phase = .Declined)) = true := by
    decide +kernel
  obtain ⟨m, m', hrun, hpolls, hstep, hdeclined⟩ := exists_step_of_any hany
  have hpolls := pollOut?_eq_some.mp (of_decide_eq_true hpolls)
  refine ⟨m, m', hrun, hpolls, hstep, of_decide_eq_true hdeclined, ?_⟩
  exact (one_poll_of_run officeStore _ _ patientRun m hrun hpatient).2 2 2 officeDenial true m'
    hpolls hstep

def hastyRun : List Event :=
  [.requestReversePairing officePc 1234, .encrypted 0 officeCert, .reply 0 officePending true,
    .reversePollTick, .encrypted 1 officeCert,
    .requestReversePairing officePc 5678, .encrypted 2 officeCert, .reply 2 officePending true,
    .reversePollTick]

theorem late_poll_ends_next_attempt
    : ∃ m m' : Manager, Transition.run (step officeSodium) officeLaunch hastyRun = some m ∧
        m.Polls 1 1 ∧ m.Polls 3 2 ∧ m.reverse.attempt = 2 ∧
        m.reverse.phase = .AwaitingApproval ∧
        m.step officeSodium (.reply 1 officeDenial true) = some m' ∧
        m'.reverse.phase = .Declined := by
  have hany : (Transition.run (step officeSodium) officeLaunch hastyRun).any (fun m =>
      decide (m.pollOut? 1 = some 1 ∧ m.pollOut? 3 = some 2 ∧ m.reverse.attempt = 2 ∧
        m.reverse.phase = .AwaitingApproval) &&
        (m.step officeSodium (.reply 1 officeDenial true)).any fun m' =>
          decide (m'.reverse.phase = .Declined)) = true := by
    decide +kernel
  obtain ⟨m, m', hrun, hm, hstep, hdeclined⟩ := exists_step_of_any hany
  obtain ⟨hfirst, hsecond, hattempt, hphase⟩ := of_decide_eq_true hm
  exact ⟨m, m', hrun, pollOut?_eq_some.mp hfirst, pollOut?_eq_some.mp hsecond, hattempt, hphase,
    hstep, of_decide_eq_true hdeclined⟩

end Manager

end Wifi
