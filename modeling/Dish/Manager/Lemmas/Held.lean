import Dish.Manager.Lemmas.Down
import Dish.Manager.Lemmas.Undisturbed

/-!
This module contains the hold of a disconnect.
-/

open Std Models Reducer Wire Store Connection Transition

namespace Wifi

def Event.isUserCallFor (x : String) : Event → Prop
  | .connectTo server intent => server.id = x ∧ intent = .UserInitiated
  | .pairWithPin server _ | .requestReversePairing server _ => server.id = x
  | .forget id => id = x
  | _ => False

namespace Manager

variable {sodium : Sodium} {m m' m'' : Manager} {x y : String} {powers : Set Power}

def AwaitsApproval (m : Manager) (x : String) : Prop :=
  m.reverse.phase = .AwaitingApproval ∧ m.reverse.server.id = x

structure Unasked (x : String) (m m' : Manager) : Prop where
  held : x ∈ m.userDisconnected → x ∈ m'.userDisconnected
  awaits : m'.AwaitsApproval x → m.AwaitsApproval x

namespace Unasked

theorem refl (x : String) (m : Manager) : Unasked x m m where
  held := id
  awaits := id

theorem trans (h1 : Unasked x m m') (h2 : Unasked x m' m'') : Unasked x m m'' where
  held := fun hx => h2.held (h1.held hx)
  awaits := fun hx => h1.awaits (h2.awaits hx)

theorem of_frame (h : Frame x m m') : Unasked x m m' where
  held := h.held.mpr
  awaits := fun hx => h.reverse hx.1 hx.2

theorem of_touches (h : Touches powers y m m') (hpowers : .user ∉ powers) : Unasked x m m' where
  held := h.held hpowers
  awaits := by
    intro hx
    obtain ⟨hphase, hserver⟩ := h.awaiting hpowers hx.1
    exact ⟨hphase, hserver ▸ hx.2⟩

theorem respected (x : String) : Respected {.user}ᶜ (Unasked x) where
  refl := refl x
  trans := trans
  touches := fun h => of_touches h (by simp)
  eraseRequest := fun m rid => of_frame (frame_erase_request x m rid)
  eraseRetry := fun m timer => of_frame (frame_erase_retry x m timer)
  scanned := fun _ _ => { held := id, awaits := id }
  advance := fun _ _ => { held := id, awaits := id }
  encrypted := fun _ _ m _ _ certDer hrequest => of_frame (frame_onEncrypted x m certDer hrequest)

theorem of_step {e : Event} (hstep : m.step sodium e = some m') (huser : ¬ e.isUserCallFor x)
    : Unasked x m m' := by
  by_cases habout : About x m e
  case neg => apply of_frame (frame_step hstep habout)
  apply (respected x).step hstep
  intro p hp
  rintro rfl
  apply huser
  cases e with
  | connectTo server intent => exact ⟨habout, hp⟩
  | pairWithPin server pin | requestReversePairing server raw | forget id => apply habout
  | _ => contradiction

end Unasked

structure Held (x : String) (m : Manager) : Prop where
  held : x ∈ m.userDisconnected
  down : DownAt x m
  unawaited : ¬ m.AwaitsApproval x

theorem not_redials_of_held (hheld : x ∈ m.userDisconnected) (rows : List RememberedWifi)
    : ¬ Redials m rows x := by
  intro h
  exact h.1 hheld

theorem Held.not_dials (h : Held x m) {e : Event} (huser : ¬ e.isUserCallFor x)
    : ¬ Dials x m e := by
  intro hdials
  cases e with
  | connectTo server intent =>
    obtain ⟨hx, _, hfree⟩ := hdials
    have hintent : intent ≠ .UserInitiated := fun hintent => huser ⟨hx, hintent⟩
    simp [heldByUser, h.held, hintent] at hfree
  | pairWithPin server pin => exact huser hdials.1
  | autoReconnectAll | resumeFromSleep | scanFinished found =>
    exact not_redials_of_held h.held _ hdials
  | retryDue timer => exact hdials.1 h.held
  | reply rid result linkOpens =>
    obtain ⟨request, _, hsubject, hgrant⟩ := hdials
    apply h.unawaited
    unfold ApprovalGranted at hgrant
    generalize request.call = call at hsubject hgrant
    cases call with
    | reversePair id sentOn server clientPin attempt =>
      cases hsubject
      have hcurrent := hgrant.1
      simp only [reverseAttemptIsCurrent, decide_eq_true_eq] at hcurrent
      exact ⟨hcurrent.1, hcurrent.2.1.trans server.2⟩
    | pairStatus server attempt =>
      cases hsubject
      exact ⟨hgrant.1, hgrant.2.1⟩
    | _ => contradiction
  | _ => contradiction

theorem Held.step (h : Held x m) {e : Event} (huser : ¬ e.isUserCallFor x)
    (hstep : m.step sodium e = some m')
    : Held x m' := by
  have hunasked := Unasked.of_step hstep huser
  exact {
    held := hunasked.held h.held
    down := (rests_step h.down hstep (h.not_dials huser)).down
    unawaited := fun hawaits => h.unawaited (hunasked.awaits hawaits)
  }

theorem conn_closeSession (m : Manager) (x : String)
    : (m.closeSession sodium x).conn x = (m.conn x).map (·.markDisconnected) := by
  have hconn : (m.cancelPendingRetries x).conn x = m.conn x := rfl
  unfold closeSession
  dsimp only
  rw [hconn]
  cases hc : m.conn x with
  | none =>
    dsimp only
    rw [hconn]
    apply hc
  | some c =>
    dsimp only
    split
    . apply conn_setConn_self
    . apply conn_setConn_self

theorem down_closeSession (m : Manager) (x : String) : DownAt x (m.closeSession sodium x) := by
  intro c hc
  rw [conn_closeSession] at hc
  obtain ⟨c₀, _, rfl⟩ := Option.map_eq_some_iff.mp hc
  apply Or.inl
  apply state_markDisconnected

theorem held_disconnect (hawaits : ¬ m.AwaitsApproval x) : Held x (m.disconnect sodium x) := by
  have hunasked : Unasked x m (m.disconnect sodium x) :=
    .of_touches ((Touches.start {.close} x m).disconnect rfl) (by simp)
  refine { held := ?_, down := ?_, unawaited := fun h => hawaits (hunasked.awaits h) }
  . apply ((Touches.start {.close} x _).closeSession rfl).held (by simp)
    apply Finset.mem_insert_self
  . apply down_closeSession

theorem disconnected_stays_down {es : List Event} (hawaits : ¬ m.AwaitsApproval x)
    (huser : ∀ e ∈ es, ¬ e.isUserCallFor x)
    (hrun : Transition.run (step sodium) m (.disconnect x :: es) = some m')
    : ∀ c, m'.conn x = some c → c.state ≠ .Live := by
  obtain ⟨m₁, hdisconnect, hrun⟩ := run_cons_eq_some.mp hrun
  cases hdisconnect
  have hheld : Held x m' := by
    apply invariant_of_along (P := fun _ e => ¬ e.isUserCallFor x) _
      (held_disconnect hawaits) _ hrun
    . intro m e m' h huser hstep
      apply h.step huser hstep
    . apply along_of_forall
      exact fun e he _ => huser e he
  intro c hc hlive
  obtain hstate | hstate := hheld.down c hc
  . rw [hstate] at hlive
    contradiction
  . rw [hstate] at hlive
    contradiction

theorem disconnected_stays_down_office
    : ∃ m m' : Manager,
        Transition.run (step officeSodium) officeLaunch (falteringRun.take 3) = some m ∧
        m.stateOf officePc.id = some .Live ∧
        Transition.run (step officeSodium) m
          [.disconnect officePc.id, .resumeFromSleep, .scanFinished [officePc], .autoReconnectAll] =
            some m' ∧
        ∀ c, m'.conn officePc.id = some c → c.state ≠ .Live := by
  obtain ⟨m, hm, hlive⟩ : ∃ m,
      Transition.run (step officeSodium) officeLaunch (falteringRun.take 3) = some m ∧
      decide (m.stateOf officePc.id = some .Live ∧ m.reverse.phase = .Idle ∧
        (Transition.run (step officeSodium) m
          [.disconnect officePc.id, .resumeFromSleep, .scanFinished [officePc],
            .autoReconnectAll]).isSome) = true :=
    exists_run_of_any (by decide)
  simp only [decide_eq_true_eq] at hlive
  obtain ⟨hlive, hidle, hrest⟩ := hlive
  obtain ⟨m', hm'⟩ := Option.isSome_iff_exists.mp hrest
  refine ⟨m, m', hm, hlive, hm', ?_⟩
  apply disconnected_stays_down _ _ hm'
  . rintro ⟨hphase, _⟩
    rw [hidle] at hphase
    contradiction
  . simp [Event.isUserCallFor]

def officePending : HttpResult where
  status := 202
  body := .pair { pending := true, status := some "pending" }

def officeApproval : HttpResult where
  status := 200
  body := .pair { ok := true, status := some "approved", sharedKey := some officeNewKey }

def awaitingRun : List Event :=
  [.connectTo officePc .UserInitiated, .encrypted 0 officeCert,
    .requestReversePairing officePc 1234, .encrypted 1 officeCert, .reply 1 officePending true,
    .reversePollTick, .encrypted 2 officeCert]

theorem approval_undoes_disconnect
    : ∃ (m m' : Manager) (c : WifiConnection officePc.id),
        Transition.run (step officeSodium) officeLaunch awaitingRun = some m ∧
        Transition.run (step officeSodium) m
          [.disconnect officePc.id, .reply 2 officeApproval true, .reply 0 officeGrant true] =
            some m' ∧
        m'.conn officePc.id = some c ∧ c.state = .Live := by
  obtain ⟨m', c, hrun, hc, hstate⟩ : ∃ (m' : Manager) (c : WifiConnection officePc.id),
      Transition.run (step officeSodium) officeLaunch (awaitingRun ++
        [.disconnect officePc.id, .reply 2 officeApproval true, .reply 0 officeGrant true]) =
          some m' ∧
        m'.conn officePc.id = some c ∧ c.state = .Live :=
    exists_of_run_stateOf (by decide)
  rw [run_append] at hrun
  obtain ⟨m, hm, hrun⟩ := Option.bind_eq_some_iff.mp hrun
  exact ⟨m, m', c, hm, hrun, hc, hstate⟩

end Manager

end Wifi
