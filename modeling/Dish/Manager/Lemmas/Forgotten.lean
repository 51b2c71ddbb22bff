import Dish.Store.Lemmas
import Dish.Manager.Lemmas.Held

/-!
This module contains what a forget leaves behind.
-/

open Std Models Reducer Wire Store Connection Transition

namespace Wifi

def Event.asksFor (x : String) : Event → Prop
  | .connectTo server _ | .pairWithPin server _ | .requestReversePairing server _ => server.id = x
  | _ => False

namespace Manager

variable {sodium : Sodium} {m m' m'' : Manager} {x y : String} {powers : Set Power}

open ConnectionStore (Gone)

theorem StoreTouches.gone {s s' : ConnectionStore} (h : StoreTouches y s s') (hxy : x ≠ y)
    (hgone : Gone x s)
    : Gone x s' := by
  cases h with
  | setSharedKey keyHex => apply hgone.setSharedKey _ hxy
  | forgetSharedKey => apply hgone.forgetSharedKey
  | forgetPin host => apply hgone.forgetPin
  | forgetSatellite =>
    unfold ConnectionStore.forgetSatellite
    apply Gone.removeRow
    apply Gone.forgetSharedKey
    split
    . apply hgone.forgetPin
    . apply hgone

theorem Touches.gone (h : Touches powers y m m') (hxy : x ≠ y) (hgone : Gone x m.store)
    : Gone x m'.store := by
  induction h with
  | refl => apply hgone
  | setStore _ s hs hstore ih => apply hs.gone hxy ih
  | remember _ server hremember ih =>
    apply Gone.rememberSatellite ih
    rw [server.2]
    apply hxy
  | _ => assumption

structure Forgotten (x : String) (m : Manager) : Prop where
  conn : m.conn x = none
  gone : Gone x m.store
  unawaited : ¬ m.AwaitsApproval x

namespace Forgotten

theorem touches (h : Forgotten x m) (ht : Touches powers y m m') (hxy : x ≠ y) : Forgotten x m' where
  conn := (ht.frame hxy).conn.trans h.conn
  gone := ht.gone hxy h.gone
  unawaited := fun hawaits => h.unawaited ((ht.frame hxy).reverse hawaits.1 hawaits.2)

theorem congr (h : Forgotten x m) (hconn : m'.connections = m.connections)
    (hstore : m'.store = m.store) (hreverse : m'.AwaitsApproval x → m.AwaitsApproval x)
    : Forgotten x m' where
  conn := by
    unfold Manager.conn
    rw [hconn]
    apply h.conn
  gone := hstore ▸ h.gone
  unawaited := fun hawaits => h.unawaited (hreverse hawaits)

theorem foldl {α : Type} {f : Manager → α → Manager} {l : List α}
    (hf : ∀ m, ∀ a ∈ l, Forgotten x m → Forgotten x (f m a)) (h : Forgotten x m)
    : Forgotten x (l.foldl f m) := by
  induction l generalizing m with
  | nil => apply h
  | cons a l ih =>
    rw [List.foldl_cons]
    apply ih
    . exact fun m b hb => hf m b (List.mem_cons_of_mem a hb)
    . apply hf m a List.mem_cons_self h

theorem modifyConn (h : Forgotten x m) (f : WifiConnection x → WifiConnection x)
    : m.modifyConn x f = m := by
  simp [Manager.modifyConn, h.conn]

theorem replyTarget (h : Forgotten x m) (sentOn : Nat) : m.replyTarget x sentOn = none := by
  simp [Manager.replyTarget, h.conn]

theorem endPairingRequest (h : Forgotten x m) (sentOn : Nat)
    : Forgotten x (m.endPairingRequest x sentOn) := by
  unfold Manager.endPairingRequest
  rw [h.conn]
  exact h.congr rfl rfl id

theorem closeSession (h : Forgotten x m) : Forgotten x (m.closeSession sodium x) := by
  have hconn : (m.cancelPendingRetries x).conn x = none := h.conn
  unfold Manager.closeSession
  dsimp only
  rw [hconn]
  exact h.congr rfl rfl id

theorem onReply (h : Forgotten x m) {request : Request} (hsubject : request.call.subject = some x)
    (result : HttpResult) (linkOpens : Bool)
    : Forgotten x (m.onReply sodium request result linkOpens) := by
  unfold Manager.onReply
  dsimp only
  generalize request.call = call at hsubject
  cases call with
  | pinPair id sentOn server pin =>
    cases hsubject
    have hend := h.endPairingRequest sentOn
    simp only [onPinPairReply, hend.replyTarget]
    apply hend
  | reversePair id sentOn server clientPin attempt =>
    cases hsubject
    have hend := h.endPairingRequest sentOn
    unfold onReversePairReply
    dsimp only
    split
    . next hcurrent =>
      simp only [reverseAttemptIsCurrent, decide_eq_true_eq] at hcurrent
      exact absurd ⟨hcurrent.1, hcurrent.2.1.trans server.2⟩ hend.unawaited
    . apply hend
  | connectPair id sentOn server intent =>
    cases hsubject
    have hend := h.endPairingRequest sentOn
    simp only [onConnectPairReply, hend.replyTarget]
    apply hend
  | pairStatus server attempt =>
    cases hsubject
    unfold onReverseStatusReply
    dsimp only
    split
    . exact h.congr rfl rfl id
    . next hcurrent =>
      simp only [not_or, ne_eq, Decidable.not_not] at hcurrent
      exact absurd hcurrent h.unawaited
  | putSession =>
    cases hsubject
    simp only [onSessionReply, h.replyTarget]
    apply h
  | rekey =>
    cases hsubject
    simp only [onRekeyReply, h.conn]
    apply h
  | getSession =>
    cases hsubject
    have hflag : Forgotten x { m with reconcileInFlight := m.reconcileInFlight.erase x } :=
      h.congr rfl rfl id
    simp only [onSessionView, hflag.conn]
    apply hflag
  | putController =>
    cases hsubject
    simp only [onControllerPut, h.conn]
    apply h
  | deleteController =>
    cases hsubject
    simp only [onControllerDelete, h.modifyConn]
    apply h
  | getCapabilities =>
    cases hsubject
    simp only [onCapabilities, h.modifyConn]
    apply h
  | deleteSession => contradiction
  | unpair => contradiction

theorem reconnect (h : Forgotten x m) {r : RememberedWifi} (hid : r.toDiscovered.id = r.id)
    (hx : x ≠ r.id)
    : Forgotten x (m.reconnect sodium r) := by
  have hconnect : Forgotten x (m.connectTo sodium r.toDiscovered .AutoReconnect) :=
    h.touches ((Touches.start Set.univ r.id m).connectTo ⟨r.toDiscovered, hid⟩ .AutoReconnect
      (by simp) trivial trivial fun _ _ => .inr ⟨trivial, .inl trivial⟩) hx
  unfold Manager.reconnect
  split
  . apply hconnect
  . split
    . apply h
    . apply hconnect

theorem autoReconnectAll (h : Forgotten x m) : Forgotten x (m.autoReconnectAll sodium) := by
  apply foldl _ h
  intro m₁ r hr h₁
  apply h₁.reconnect (ConnectionStore.id_toDiscovered_of_mem hr)
  intro hx
  rw [ConnectionStore.mem_remembered, ← hx, h.gone.row] at hr
  contradiction

theorem learned (h : Forgotten x m) {found : List DiscoveredServer}
    (hupgrade : ∀ server ∈ found, server.id = x → ¬ m.store.Upgrades server)
    : Forgotten x (m.learned found) where
  conn := by
    obtain heq | ⟨c, _, hc, _⟩ := conn_learned m found x
    . exact heq.trans h.conn
    . rw [h.conn] at hc
      contradiction
  gone := by
    rw [store_learned]
    apply h.gone.refreshFromDiscovery hupgrade
  unawaited := by
    unfold AwaitsApproval
    rw [(learned_fields m found).2.2.2]
    apply h.unawaited

end Forgotten

def ScanUpgrades (x : String) (m : Manager) : Event → Prop
  | .scanFinished found => ∃ server ∈ found, server.id = x ∧ m.store.Upgrades server
  | _ => False

theorem not_awaitsApproval_cancelReversePairing (m : Manager) (x : String)
    : ¬ m.cancelReversePairing.AwaitsApproval x := by
  unfold cancelReversePairing AwaitsApproval
  dsimp only
  split
  . simp
  . next hidle =>
    rw [ne_eq, Decidable.not_not] at hidle
    simp [hidle]

theorem forget_fields (sodium : Sodium) (m : Manager) (x : String)
    : ∃ released : Manager,
        Touches {.store, .close} x (if m.reverse.server.id = x then m.cancelReversePairing else m)
          released ∧
        (m.forget sodium x).conn x = none ∧
        (m.forget sodium x).store = released.store.forgetSatellite x ∧
        (m.forget sodium x).reverse = released.reverse := by
  refine ⟨((if m.reverse.server.id = x then m.cancelReversePairing else m).unpairSelf sodium
    x).closeSession sodium x, ((Touches.start {.store, .close} x _).unpairSelf (by simp)).closeSession
    (by simp), ?_⟩
  unfold forget
  dsimp only
  generalize ((if m.reverse.server.id = x then m.cancelReversePairing else m).unpairSelf sodium
    x).closeSession sodium x = released
  refine ⟨conn_takeConnection_self _ x, ?_, ?_⟩
  . simp [takeConnection, releaseHold, resetRetryCurve, setStore]
  . simp [takeConnection, releaseHold, resetRetryCurve, setStore]

theorem forgotten_forget (m : Manager) (x : String) : Forgotten x (m.forget sodium x) := by
  obtain ⟨released, htouches, hconn, hstore, hreverse⟩ := forget_fields sodium m x
  refine { conn := hconn, gone := ?_, unawaited := ?_ }
  . rw [hstore]
    apply ConnectionStore.gone_forgetSatellite
  . unfold AwaitsApproval
    rw [hreverse]
    rintro ⟨hphase, hserver⟩
    obtain ⟨hbefore, hsame⟩ := htouches.awaiting (by simp) hphase
    rw [hsame] at hserver
    split at hbefore
    . next hcancel =>
      simp only [hcancel, if_true] at hserver
      exact not_awaitsApproval_cancelReversePairing m x ⟨hbefore, hserver⟩
    . next hother =>
      simp only [hother, if_false] at hserver

theorem Forgotten.onEncrypted (h : Forgotten x m) (rid : Nat) (request : Request)
    (certDer : List UInt8)
    : Forgotten x (m.onEncrypted sodium rid request certDer) := by
  have hrefused : ∀ pinMismatch, Forgotten x (m.refuseRequest rid request pinMismatch) :=
    fun _ => h.congr rfl rfl id
  have hwritten : ∀ presented, Forgotten x (m.writeRequest rid request presented) :=
    fun _ => h.congr rfl rfl id
  have hrepinned : ∀ presented, Forgotten x
      ((m.setStore (m.store.pin request.host presented)).writeRequest rid request presented) :=
    fun presented => { conn := h.conn, gone := h.gone.pin _ presented, unawaited := h.unawaited }
  unfold Manager.onEncrypted
  split
  . apply hrefused
  . dsimp only
    split
    . apply hrepinned
    . apply hwritten
    . split
      . apply hrefused
      . apply hrepinned

theorem Forgotten.cancelReversePairing (h : Forgotten x m) : Forgotten x m.cancelReversePairing where
  conn := (frame_cancelReversePairing x m).conn.trans h.conn
  gone := by
    unfold Manager.cancelReversePairing
    split
    . apply h.gone
    . apply h.gone
  unawaited := not_awaitsApproval_cancelReversePairing m x

theorem Forgotten.step {e : Event} (h : Forgotten x m) (hasks : ¬ e.asksFor x)
    (hupgrade : ¬ ScanUpgrades x m e) (hstep : m.step sodium e = some m')
    : Forgotten x m' := by
  have htaken : Forgotten x (m.taken e) := by
    cases e with
    | retryDue timer => exact h.congr rfl rfl id
    | reply rid => exact h.congr rfl rfl id
    | _ => exact h
  have hother {y : String} (hy : m.Targets y e) (hx : x ≠ y) : Forgotten x m' :=
    htaken.touches (touches_step_univ hstep hy) hx
  cases e with
  | connectTo server intent | pairWithPin server pin | requestReversePairing server raw =>
    exact hother rfl (Ne.symm hasks)
  | cancelReversePairing =>
    obtain rfl := Option.some.inj hstep
    apply h.cancelReversePairing
  | disconnect id =>
    by_cases hx : x = id
    . obtain rfl := Option.some.inj hstep
      subst hx
      apply Forgotten.closeSession
      exact h.congr rfl rfl id
    . exact hother rfl hx
  | forget id =>
    by_cases hx : x = id
    . obtain rfl := Option.some.inj hstep
      subst hx
      apply forgotten_forget
    . exact hother rfl hx
  | attachSlot id slotId features =>
    by_cases hx : x = id
    . obtain rfl := Option.some.inj hstep
      subst hx
      simp only [Manager.attachSlot, h.conn]
      apply h
    . exact hother rfl hx
  | detachSlot id slotId =>
    by_cases hx : x = id
    . obtain rfl := Option.some.inj hstep
      subst hx
      simp only [Manager.detachSlot, h.conn]
      apply h
    . exact hother rfl hx
  | aliveTick id =>
    by_cases hx : x = id
    . obtain rfl := Option.some.inj hstep
      subst hx
      simp only [onAliveTick, h.conn]
      apply h
    . exact hother rfl hx
  | observe id o =>
    by_cases hx : x = id
    . obtain rfl := Option.some.inj hstep
      subst hx
      simp only [Manager.observe, h.modifyConn]
      apply h
    . exact hother rfl hx
  | startDiscovery | advance ms =>
    obtain rfl := Option.some.inj hstep
    exact h.congr rfl rfl id
  | scanFinished found =>
    obtain ⟨_, rfl⟩ := step_scanFinished.mp hstep
    rw [onDiscoveryFinished_eq]
    apply Forgotten.autoReconnectAll
    apply h.learned
    exact fun server hserver hid hup => hupgrade ⟨server, hserver, hid, hup⟩
  | autoReconnectAll =>
    obtain rfl := Option.some.inj hstep
    apply h.autoReconnectAll
  | prepareForSleep =>
    obtain rfl := Option.some.inj hstep
    apply Forgotten.foldl _ h
    intro m₁ id _ h₁
    by_cases hx : x = id
    . subst hx
      apply h₁.closeSession
    . apply h₁.touches ((Touches.start Set.univ id m₁).closeSession trivial) hx
  | resumeFromSleep =>
    obtain rfl := Option.some.inj hstep
    apply Forgotten.autoReconnectAll
    exact h.congr rfl rfl id
  | retryDue timer =>
    obtain ⟨r, hr, _, hm'⟩ := step_retryDue.mp hstep
    by_cases hx : x = r.server.id
    . subst hx hm'
      have hconn : Manager.conn { m with retries := m.retries.erase timer } r.server.id = none := h.conn
      simp only [onRetryDue, hconn]
      apply htaken
    . exact hother ⟨r, hr, rfl⟩ hx
  | reversePollTick =>
    obtain ⟨_, rfl⟩ := step_reversePollTick.mp hstep
    unfold pollReverseStatus
    split
    . apply h
    . exact h.congr rfl rfl id
  | encrypted rid certDer =>
    obtain ⟨request, _, _, rfl⟩ := step_encrypted.mp hstep
    apply h.onEncrypted
  | reply rid result linkOpens =>
    obtain ⟨request, hrequest, _, hm'⟩ := step_reply.mp hstep
    cases hy : request.call.subject with
    | none =>
      rw [hm', onReply_of_subject_eq_none _ _ _ hy]
      apply htaken
    | some y =>
      by_cases hx : x = y
      . subst hx hm'
        apply htaken.onReply hy
      . exact hother ⟨request, hrequest, hy⟩ hx

theorem forgotten_stays_forgotten {es : List Event} (hasks : ∀ e ∈ es, ¬ e.asksFor x)
    (hscans : Along (step sodium) (fun m e => ¬ ScanUpgrades x m e)
      (m.forget sodium x) es)
    (hrun : Transition.run (step sodium) m (.forget x :: es) = some m')
    : m'.conn x = none ∧ m'.store.sharedKey x = none ∧ ∀ r ∈ m'.store.remembered, r.id ≠ x := by
  obtain ⟨m₁, hforget, hrun⟩ := run_cons_eq_some.mp hrun
  cases hforget
  have hforgotten : Forgotten x m' := by
    apply invariant_of_along (P := fun m e => ¬ e.asksFor x ∧ ¬ ScanUpgrades x m e) _
      (forgotten_forget m x) _ hrun
    . intro m e m' h hP hstep
      apply h.step hP.1 hP.2 hstep
    . apply along_and _ hscans
      apply along_of_forall
      exact fun e he _ => hasks e he
  refine ⟨hforgotten.conn, hforgotten.gone.key, ?_⟩
  intro r hr hid
  rw [ConnectionStore.mem_remembered, hid, hforgotten.gone.row] at hr
  contradiction

theorem forgotten_stays_forgotten_office
    : ∃ m m' : Manager,
        Transition.run (step officeSodium) officeLaunch
          (falteringRun.take 2 ++ [.startDiscovery]) = some m ∧
        Transition.run (step officeSodium) m
          [.forget officePc.id, .scanFinished [officePc], .reply 0 officeGrant true] = some m' ∧
        m'.conn officePc.id = none ∧ m'.store.sharedKey officePc.id = none ∧
        ∀ r ∈ m'.store.remembered, r.id ≠ officePc.id := by
  obtain ⟨m, hm, hafter⟩ : ∃ m, Transition.run (step officeSodium) officeLaunch
      (falteringRun.take 2 ++ [.startDiscovery]) = some m ∧
      decide ((m.forget officeSodium officePc.id).store.remembered = [] ∧
        (Transition.run (step officeSodium) m
          [.forget officePc.id, .scanFinished [officePc], .reply 0 officeGrant true]).isSome) = true :=
    exists_run_of_any (by decide)
  simp only [decide_eq_true_eq] at hafter
  obtain ⟨hrows, hrest⟩ := hafter
  obtain ⟨m', hm'⟩ := Option.isSome_iff_exists.mp hrest
  refine ⟨m, m', hm, hm', ?_⟩
  apply forgotten_stays_forgotten _ _ hm'
  . simp [Event.asksFor]
  . refine ⟨?_, fun _ _ => ⟨by simp [ScanUpgrades], fun _ _ => trivial⟩⟩
    simp [ScanUpgrades, ConnectionStore.Upgrades, hrows]

def movedPc : DiscoveredServer :=
  { officePc with ip := "192.168.1.21" }

def legacyPc : DiscoveredServer :=
  { movedPc with machineId := "" }

def legacyLaunch : Manager :=
  launch ((officeStore.rememberSatellite legacyPc).setSharedKey legacyPc.id officeNewKey)
    "0f1e2d3c4b5a69788796a5b4c3d2e1f0" "dish"

theorem forgotten_returns_as_upgrade
    : ∃ m' : Manager,
        Transition.run (step officeSodium) legacyLaunch
          [.startDiscovery, .forget officePc.id, .scanFinished [movedPc]] = some m' ∧
        (m'.conn officePc.id).isSome ∧ m'.store.sharedKey officePc.id = some officeNewKey ∧
        ∃ r ∈ m'.store.remembered, r.id = officePc.id := by
  obtain ⟨m', hrun, h⟩ : ∃ m', Transition.run (step officeSodium) legacyLaunch
      [.startDiscovery, .forget officePc.id, .scanFinished [movedPc]] = some m' ∧
      decide ((m'.conn officePc.id).isSome ∧ m'.store.sharedKey officePc.id = some officeNewKey ∧
        ∃ r ∈ m'.store.remembered, r.id = officePc.id) = true :=
    exists_run_of_any (by decide)
  exact ⟨m', hrun, of_decide_eq_true h⟩

end Manager

end Wifi
