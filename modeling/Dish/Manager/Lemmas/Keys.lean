import Dish.Store.Lemmas
import Dish.Manager.Lemmas.Down
import Dish.Manager.Lemmas.Undisturbed

/-!
This module contains what a key on file is dropped by.
-/

open Std Models Reducer Wire Store Connection Transition

namespace Wifi

variable {intent : ConnectIntent} {pinMismatch : Bool} {sent : Credentials} {sentOn : Nat}

def Call.sent? : Call → Option Credentials
  | .putSession _ _ _ _ sent _ _ | .rekey _ _ _ sent _ | .getSession _ _ _ _ sent
  | .putController _ _ _ _ sent _ | .deleteController _ _ sent _ => some sent
  | _ => none

def usableKey (keyHex : String) : Bool :=
  keyHex.length = 64 && (fromHex keyHex).any fun bytes => bytes.length = 32

def grantUsable : PairingOutcome → Bool
  | .Success sharedKeyHex => usableKey sharedKeyHex
  | _ => true

namespace Manager

variable {sodium : Sodium} {m m' m'' : Manager} {x y : String} {powers : Set Power}

def Proves (sodium : Sodium) (m : Manager) (id : String) (sent : Credentials) : Prop :=
  m.store.sharedKey id ≠ none → m.credentialsFor sodium id = some sent

instance decidableProves (sodium : Sodium) (m : Manager) (id : String) (sent : Credentials)
    : Decidable (m.Proves sodium id sent) :=
  inferInstanceAs (Decidable (_ → _))

def KeyUsable (sodium : Sodium) (m : Manager) (id : String) : Prop :=
  m.store.sharedKey id ≠ none → (m.credentialsFor sodium id).isSome

instance decidableKeyUsable (sodium : Sodium) (m : Manager) (id : String)
    : Decidable (m.KeyUsable sodium id) :=
  inferInstanceAs (Decidable (_ → _))

def drifts {id : String} (c : WifiConnection id) (view : SessionViewDto) : Bool :=
  !(view.reachable = false ∨ view.httpStatus < 200 ∨ 299 < view.httpStatus) &&
    !(view.connectionId = c.connectionId ∧ c.matchesAppliedView view)

/-- The reply acts, if at all, on the connection object, key or approval attempt that is current. -/
def inTime (sodium : Sodium) (m : Manager) (request : Request) (result : HttpResult) : Bool :=
  let verdict := classifyRest (restReplyOf result.session request.pinMismatch)
  let outcome := PairingOutcome.classify result.pair request.pinMismatch
  match request.call with
  | .pinPair id sentOn .. | .connectPair id sentOn .. =>
    (m.replyTarget id sentOn).isNone || grantUsable outcome
  | .reversePair _ _ server clientPin attempt =>
    !m.reverseAttemptIsCurrent server.1 clientPin ||
      (attempt = m.reverse.attempt && grantUsable outcome)
  | .pairStatus server attempt =>
    (m.reverse.phase ≠ .AwaitingApproval ∨ m.reverse.server.id ≠ server.id) ||
      (attempt = m.reverse.attempt &&
        (classifyApproval (approvalReplyOf result.pair) m.reverse.sawPending ≠ .Approved ||
          usableKey (result.pair.sharedKey.getD "")))
  | .putSession id sentOn server _ sent _ _ =>
    ∀ c ∈ m.replyTarget id sentOn, c.state = .Linking →
      (verdict = .Unauthorized → m.Proves sodium id sent) ∧
      (verdict = .VersionMismatch → m.KeyUsable sodium id) ∧
      (verdict = .Ok → m.store.FoldsNoKey server.1)
  | .rekey id sentOn _ sent _ =>
    ∀ c ∈ m.conn id, verdict = .Unauthorized → c.obj = sentOn ∧ m.Proves sodium id sent
  | .getSession id sentOn _ _ sent =>
    ∀ c ∈ m.conn id, c.state = .Live →
      (result.view.unauthorized = true →
        c.obj = sentOn ∧ result.status = 401 ∧ m.Proves sodium id sent) ∧
      (result.view.unauthorized = false → drifts c result.view = true →
        c.obj = sentOn ∧ m.KeyUsable sodium id)
  | .putController id sentOn _ _ sent _ =>
    ∀ c ∈ m.conn id,
      (result.controller.unauthorized = true →
        c.obj = sentOn ∧ result.status = 401 ∧ m.Proves sodium id sent) ∧
      (result.controller.controller.isSome → c.obj = sentOn)
  | .deleteController .. | .deleteSession .. | .unpair .. | .getCapabilities .. => true

def keysInTime (sodium : Sodium) (m : Manager) : Event → Bool
  | .reply rid result _ => ∀ request ∈ m.requests[rid]?, inTime sodium m request result = true
  | .scanFinished found => ∀ server ∈ found, m.store.FoldsNoKey server
  | _ => true

/-- A forget, a close that revokes the pairing, or a 401 to a proof of the key on file. -/
inductive DropsKey (sodium : Sodium) (x : String) (m : Manager) : Event → Prop where
  | forget : DropsKey sodium x m (.forget x)
  | close {c : WifiConnection x} {client : Client x} {reason : UInt8} (hc : m.conn x = some c)
    (hclient : c.client = some client) (hreason : client.closeReason = some reason)
    (haction : closeActionForReason reason = .DropKeyRePair)
    : DropsKey sodium x m (.aliveTick x)
  | refused {rid : Nat} {result : HttpResult} {linkOpens : Bool} {request : Request}
    {sent : Credentials} (hrequest : m.requests[rid]? = some request)
    (hsubject : request.call.subject = some x) (hsent : request.call.sent? = some sent)
    (hstatus : result.status = 401) (hkey : m.credentialsFor sodium x = some sent)
    : DropsKey sodium x m (.reply rid result linkOpens)

def Superseded (m : Manager) : Call → Prop
  | .pinPair id sentOn .. | .connectPair id sentOn .. | .putSession id sentOn ..
  | .rekey id sentOn .. | .getSession id sentOn .. | .putController id sentOn .. =>
    ∃ c, m.conn id = some c ∧ c.obj ≠ sentOn
  | .reversePair _ _ _ _ attempt | .pairStatus _ attempt => attempt ≠ m.reverse.attempt
  | .deleteController .. | .deleteSession .. | .unpair .. | .getCapabilities .. => True

def SlotsKept (x : String) (m m' : Manager) : Prop :=
  ∀ c, m.conn x = some c → ∃ c', m'.conn x = some c' ∧ c'.state = c.state ∧ c'.slots = c.slots

structure KeyLaw (sodium : Sodium) (m : Manager) (e : Event) (m' : Manager) : Prop where
  dropped : ∀ x, m.store.sharedKey x ≠ none → m'.store.sharedKey x = none → DropsKey sodium x m e
  superseded : ∀ rid result linkOpens request x, e = .reply rid result linkOpens →
    m.requests[rid]? = some request → request.call.subject = some x → m.Superseded request.call →
    m'.store.sharedKey x = m.store.sharedKey x ∧ SlotsKept x m m'

theorem isSome_credentialsFor {k : String} (hk : m.store.sharedKey x = some k)
    (husable : usableKey k = true)
    : (m.credentialsFor sodium x).isSome := by
  simp only [usableKey, Bool.and_eq_true, decide_eq_true_eq, Option.any_eq_true] at husable
  obtain ⟨hlength, bytes, hbytes, hsize⟩ := husable
  simp [credentialsFor, hk, hlength, hbytes, hsize]

theorem store_onTerminalAuthFailure (m : Manager) (x : String) (intent : ConnectIntent)
    : (m.onTerminalAuthFailure x intent).store = m.store.forgetSharedKey x := by
  unfold onTerminalAuthFailure emitErrorIfUserInitiated
  dsimp only
  rw [store_modifyConn]
  split
  . rfl
  . rfl

theorem store_openSession (sodium : Sodium) (m : Manager) (server : ServerOf x)
    (intent : ConnectIntent)
    : (m.openSession sodium server intent).store = m.store ∨
        (m.credentialsFor sodium x = none ∧
          (m.openSession sodium server intent).store = m.store.forgetSharedKey x) := by
  unfold openSession
  split
  . apply Or.inl rfl
  . split
    . next hnone => exact Or.inr ⟨hnone, store_onTerminalAuthFailure m x intent⟩
    . apply Or.inl rfl

theorem store_openSession_of_isSome {server : ServerOf x} (h : (m.credentialsFor sodium x).isSome)
    : (m.openSession sodium server intent).store = m.store := by
  obtain hkept | ⟨hnone, _⟩ := store_openSession sodium m server intent
  . apply hkept
  . rw [hnone] at h
    contradiction

theorem store_dial (m : Manager) (server : ServerOf x) (intent : ConnectIntent)
    : (m.dial sodium server intent).store = m.store := by
  unfold dial
  split
  . rfl
  . next c _ =>
    have hset : ((m.setConn (c.updateServer server)).modifyConn x (·.markConnecting)).store =
        m.store := by
      apply store_modifyConn
    dsimp only
    split
    . rfl
    . split
      . next hcreds => rw [store_openSession_of_isSome hcreds, hset]
      . rw [← hset]
        apply ((Touches.start {.open, .astray} x _).pairAndConnect server intent
          ⟨by simp, .inl (by simp)⟩).store (by simp) (by simp)

theorem store_connectTo (sodium : Sodium) (m : Manager) (server : DiscoveredServer)
    (intent : ConnectIntent)
    : (m.connectTo sodium server intent).store = m.store := by
  have hready := (((Touches.start {.user} server.id m).releaseHold intent fun _ => rfl).ensureConnection
    ⟨server, rfl⟩)
  unfold connectTo
  split
  . apply ((Touches.start ∅ server.id m).reportRefusedHost server intent).store (by simp) (by simp)
  . split
    . rfl
    . dsimp only
      rw [store_dial]
      split
      . apply (hready.resetRetryCurve _).store (by simp) (by simp)
      . apply hready.store (by simp) (by simp)

theorem store_foldl {α : Type} {f : Manager → α → Manager} (hf : ∀ m a, (f m a).store = m.store)
    (m : Manager) (l : List α)
    : (l.foldl f m).store = m.store := by
  induction l generalizing m with
  | nil => rfl
  | cons a l ih => rw [List.foldl_cons, ih, hf]

theorem store_autoReconnectAll (sodium : Sodium) (m : Manager)
    : (m.autoReconnectAll sodium).store = m.store := by
  apply store_foldl
  intro m r
  unfold reconnect
  split
  . apply store_connectTo
  . split
    . rfl
    . apply store_connectTo

theorem store_onRetryDue (m : Manager) (server : DiscoveredServer)
    : (m.onRetryDue sodium server).store = m.store := by
  unfold onRetryDue
  split
  . rfl
  . split
    . rfl
    . apply store_connectTo

inductive KeyEffect (sodium : Sodium) (m : Manager) (y : String) (call : Call) (result : HttpResult)
    : ConnectionStore → Prop where
  | kept : KeyEffect sodium m y call result m.store
  | granted {keyHex : String} (husable : usableKey keyHex = true)
    : KeyEffect sodium m y call result (m.store.setSharedKey y keyHex)
  | refused {sent : Credentials} (hsent : call.sent? = some sent) (hstatus : result.status = 401)
    (hproves : m.Proves sodium y sent)
    : KeyEffect sodium m y call result (m.store.forgetSharedKey y)
  | absent (hnone : m.store.sharedKey y = none)
    : KeyEffect sodium m y call result (m.store.forgetSharedKey y)
  | remembered (server : ServerOf y) (hfold : m.store.FoldsNoKey server.1)
    : KeyEffect sodium m y call result (m.store.rememberSatellite server.1)

namespace KeyEffect

variable {call : Call} {result : HttpResult}

theorem of_eq {s s' : ConnectionStore} (h : KeyEffect sodium m y call result s) (heq : s' = s)
    : KeyEffect sodium m y call result s' := by
  rw [heq]
  apply h

theorem of_touches (h : Touches {.store, .remember}ᶜ x m m')
    : KeyEffect sodium m y call result m'.store := by
  apply kept.of_eq
  apply h.store (by simp) (by simp)

theorem openSession {server : ServerOf y}
    (husable : m.KeyUsable sodium y) (hstore : m'.store = m.store)
    (hdevice : m'.deviceId = m.deviceId)
    : KeyEffect sodium m y call result (m'.openSession sodium server intent).store := by
  have hcreds : m'.credentialsFor sodium y = m.credentialsFor sodium y := by
    unfold credentialsFor
    rw [hstore, hdevice]
  obtain hkept | ⟨hnone, hforgot⟩ := store_openSession sodium m' server intent
  . apply kept.of_eq
    rw [hkept, hstore]
  . have habsent : m.store.sharedKey y = none := by
      by_contra hkey
      have := husable hkey
      rw [← hcreds, hnone] at this
      contradiction
    apply (absent habsent).of_eq
    rw [hforgot, hstore]

theorem grant {server : ServerOf y} {keyHex : String}
    (husable : usableKey keyHex = true) (hstore : m'.store = m.store.setSharedKey y keyHex)
    : KeyEffect sodium m y call result (m'.openSession sodium server intent).store := by
  have hne : keyHex ≠ "" := by
    rintro rfl
    contradiction
  have hkey : m'.store.sharedKey y = some keyHex := by
    rw [hstore, ConnectionStore.sharedKey_setSharedKey_self _ _ hne]
  apply (granted husable).of_eq
  rw [store_openSession_of_isSome (isSome_credentialsFor hkey husable), hstore]

end KeyEffect

theorem classifyRest_eq_unauthorized {r : RestReply} (h : classifyRest r = .Unauthorized)
    : r.status = 401 := by
  unfold classifyRest at h
  split at h
  . contradiction
  . split at h
    . contradiction
    . split at h
      . contradiction
      . split at h
        . assumption
        . split at h
          . contradiction
          . split at h <;> contradiction

theorem httpStatus_session (result : HttpResult) : result.session.httpStatus = result.status := by
  unfold HttpResult.session
  split
  . next h => simp [h]
  . rfl

theorem status_of_unauthorized {result : HttpResult}
    (h : classifyRest (restReplyOf result.session pinMismatch) = .Unauthorized)
    : result.status = 401 := by
  have hstatus : result.session.httpStatus = 401 := classifyRest_eq_unauthorized h
  rw [httpStatus_session] at hstatus
  omega

theorem store_startSession (m : Manager) (server : ServerOf x) (connectionId : String)
    (resp : SessionResponse) (material : SessionMaterial)
    : (m.startSession server connectionId resp material).store =
        m.store.rememberSatellite server.1 := by
  unfold startSession
  dsimp only
  rw [store_modifyConn]
  rw [((Touches.start ∅ x _).emitAll _ |>.probeHostAudio _).store (by simp) (by simp)]
  rw [store_modifyConn, store_modifyConn]
  rfl

theorem replyTarget_endPairingRequest (m : Manager) (id : String) (sentOn : Nat)
    : (m.endPairingRequest id sentOn).replyTarget id sentOn = m.replyTarget id sentOn := by
  unfold replyTarget endPairingRequest
  split
  . split
    . rfl
    . rfl
  . rfl

namespace KeyEffect

variable {call : Call} {result : HttpResult}

theorem onPinPairReply (sentOn : Nat) (server : ServerOf y) {outcome : PairingOutcome}
    (h : (m.replyTarget y sentOn).isNone ∨ grantUsable outcome = true)
    : KeyEffect sodium m y call result (m.onPinPairReply sodium sentOn server outcome).store := by
  have hend := (Touches.start {.store, .remember}ᶜ y m).endPairingRequest y sentOn
  have hstore : (m.endPairingRequest y sentOn).store = m.store := hend.store (by simp) (by simp)
  unfold Manager.onPinPairReply
  dsimp only
  rw [replyTarget_endPairingRequest]
  split
  . apply of_touches hend
  . next hc =>
    simp only [hc, Option.isNone_some, Bool.false_eq_true, false_or] at h
    cases outcome with
    | Success sharedKeyHex =>
      apply grant h
      rw [hstore]
      rfl
    | IdentityChanged => apply of_touches ((hend.modifyConn .markDisconnected).emit _)
    | _ => apply of_touches (hend.failPinPair ..)

theorem onConnectPairReply (sentOn : Nat) (server : ServerOf y) (intent : ConnectIntent)
    {outcome : PairingOutcome} (h : (m.replyTarget y sentOn).isNone ∨ grantUsable outcome = true)
    : KeyEffect sodium m y call result
        (m.onConnectPairReply sodium sentOn server intent outcome).store := by
  have hend := (Touches.start {.store, .remember}ᶜ y m).endPairingRequest y sentOn
  have hstore : (m.endPairingRequest y sentOn).store = m.store := hend.store (by simp) (by simp)
  unfold Manager.onConnectPairReply
  dsimp only
  rw [replyTarget_endPairingRequest]
  split
  . apply of_touches hend
  . next hc =>
    simp only [hc, Option.isNone_some, Bool.false_eq_true, false_or] at h
    cases outcome with
    | Success sharedKeyHex =>
      apply grant h
      rw [hstore]
      rfl
    | AuthRequired => apply of_touches (hend.parkUnpaired ..)
    | Pending => apply of_touches (hend.parkUnpaired ..)
    | VersionMismatch | IdentityChanged =>
      apply of_touches ((hend.modifyConn .markDisconnected).emitErrorIfUserInitiated ..)
    | Unreachable message => apply of_touches (hend.parkUnreachable ..)

theorem onVersionRejected (c : WifiConnection y) (server : ServerOf y) (intent : ConnectIntent)
    (resp : SessionResponse) (h : m.KeyUsable sodium y)
    : KeyEffect sodium m y call result
        (m.onVersionRejected sodium c server intent resp).store := by
  unfold Manager.onVersionRejected
  dsimp only
  split
  . exact openSession h rfl rfl
  . apply kept.of_eq
    apply ((Touches.start ∅ y (m.setConn _)).emitErrorIfUserInitiated ..).store (by simp) (by simp)

theorem onSessionReply (sentOn : Nat) (server : ServerOf y) (intent : ConnectIntent) (sentDescriptors : List DesiredSlot) (linkOpens : Bool)
    (hsent : call.sent? = some sent)
    (h : ∀ c ∈ m.replyTarget y sentOn, c.state = .Linking →
      (classifyRest (restReplyOf result.session pinMismatch) = .Unauthorized →
        m.Proves sodium y sent) ∧
      (classifyRest (restReplyOf result.session pinMismatch) = .VersionMismatch →
        m.KeyUsable sodium y) ∧
      (classifyRest (restReplyOf result.session pinMismatch) = .Ok → m.store.FoldsNoKey server.1))
    : KeyEffect sodium m y call result (m.onSessionReply sodium sentOn server intent sent
        sentDescriptors result.session pinMismatch linkOpens).store := by
  have hrefl := Touches.start {.store, .remember}ᶜ y m
  unfold Manager.onSessionReply
  split
  . apply kept
  . next c hc =>
    split
    . apply of_touches (hrefl.handBackLateGrant _ _ _ (by simp) (by simp))
    . next hlinking =>
      obtain ⟨hunauthorized, hversion, hok⟩ := h c hc (by simpa using hlinking)
      dsimp only
      split
      . next hverdict _ _ _ =>
        split
        . apply (remembered server (hok hverdict)).of_eq
          rw [← store_startSession]
          apply ((Touches.start ∅ y _).convergeLateSlots _).store (by simp) (by simp)
        . apply of_touches (((hrefl.modifyConn .markDisconnected).releaseSession _ _
            ⟨by simp, .inl (by simp)⟩).emitErrorIfUserInitiated ..)
      . generalize hverdict : classifyRest (restReplyOf result.session pinMismatch) = verdict at *
        have hpark := (hrefl.parkUnreachable intent).scheduleRetry server intent (by simp)
        cases verdict with
        | Unauthorized =>
          apply (refused hsent (status_of_unauthorized hverdict) (hunauthorized rfl)).of_eq
          apply store_onTerminalAuthFailure
        | VersionMismatch => apply onVersionRejected _ _ _ _ (hversion rfl)
        | IdentityChanged =>
          apply of_touches (((hrefl.modifyConn .markDisconnected).resetRetryCurve
            _).emitErrorIfUserInitiated ..)
        | _ => apply of_touches hpark

theorem onRekeyReply (serial : Nat) (hsent : call.sent? = some sent)
    (h : ∀ c ∈ m.conn y, classifyRest (restReplyOf result.session pinMismatch) = .Unauthorized →
      c.obj = sentOn ∧ m.Proves sodium y sent)
    : KeyEffect sodium m y call result (m.onRekeyReply sodium y serial sent.pairingKey result.session
        pinMismatch).store := by
  have hrefl := Touches.start {.store, .remember}ᶜ y m
  unfold Manager.onRekeyReply
  split
  . apply kept
  . next c hc =>
    dsimp only
    split
    . next hverdict =>
      apply (refused hsent (status_of_unauthorized hverdict) (h c hc hverdict).2).of_eq
      apply store_onTerminalAuthFailure
    . split
      . apply kept
      . split
        . apply kept
        . split
          . apply kept
          . apply of_touches (hrefl.adoptRekey hc _ _ (by simp))

theorem onSessionView (server : ServerOf y) (hsent : call.sent? = some sent)
    (h : ∀ c ∈ m.conn y, c.state = .Live →
      (result.view.unauthorized = true →
        c.obj = sentOn ∧ result.status = 401 ∧ m.Proves sodium y sent) ∧
      (result.view.unauthorized = false → drifts c result.view = true →
        c.obj = sentOn ∧ m.KeyUsable sodium y))
    : KeyEffect sodium m y call result (m.onSessionView sodium server result.view).store := by
  have hflag : Touches {.store, .remember}ᶜ y m { m with reconcileInFlight := m.reconcileInFlight.erase y } :=
    Touches.refl.flags m.pairingInFlight _
  unfold Manager.onSessionView
  dsimp only
  split
  . apply of_touches hflag
  . next c hc =>
    split
    . apply of_touches hflag
    . next hlive =>
      obtain ⟨hunauthorized, hdrifts⟩ := h c hc (by simpa using hlive)
      split
      . next hview =>
        obtain ⟨_, hstatus, hproves⟩ := hunauthorized hview
        apply (refused hsent hstatus hproves).of_eq
        apply store_onTerminalAuthFailure
      . next hview =>
        split
        . apply of_touches hflag
        . next hreached =>
          split
          . apply of_touches (hflag.setConn hc (.adoptEpoch c _))
          . next hsame =>
            have hdrift : drifts c result.view = true := by simp [drifts, hreached, hsame]
            exact openSession (hdrifts (by simpa using hview) hdrift).2 rfl rfl

theorem onControllerPut (server : ServerOf y) (hsent : call.sent? = some sent)
    (h : ∀ c ∈ m.conn y,
      (result.controller.unauthorized = true →
        c.obj = sentOn ∧ result.status = 401 ∧ m.Proves sodium y sent) ∧
      (result.controller.controller.isSome → c.obj = sentOn))
    : KeyEffect sodium m y call result (m.onControllerPut sodium server result.controller).store := by
  have hrefl := Touches.start {.store, .remember}ᶜ y m
  unfold Manager.onControllerPut
  split
  . apply kept
  . next c hc =>
    split
    . next hunauthorized =>
      obtain ⟨_, hstatus, hproves⟩ := (h c hc).1 hunauthorized
      apply (refused hsent hstatus hproves).of_eq
      apply store_onTerminalAuthFailure
    . split
      . apply kept
      . next controller _ =>
        have happlied := hrefl.setConn hc
          (.trans (.adoptEpoch c result.controller.epoch) (.applyResults _ [controller] (by simp)))
        dsimp only
        split
        . apply of_touches ((happlied.emitAll _).reconcile _)
        . apply of_touches (happlied.emitAll _)

theorem adoptReverseGrant (server : ServerOf y) {sharedKeyHex : String}
    (husable : usableKey sharedKeyHex = true) (hstore : m'.store = m.store)
    : KeyEffect sodium m y call result
        (m'.adoptReverseGrant sodium server.1 sharedKeyHex).store := by
  obtain ⟨server, rfl⟩ := server
  have hready : ((m'.ensureConnection server).modifyConn server.id (·.markConnecting)).store =
      m.store := by
    rw [← hstore]
    rw [store_modifyConn]
    apply ((Touches.start ∅ server.id m').ensureConnection ⟨server, rfl⟩).store (by simp) (by simp)
  apply grant husable
  rw [← hready]
  rfl

theorem onReversePairReply (sentOn : Nat) (server : ServerOf y) {clientPin : String}
    (h : m.reverseAttemptIsCurrent server.1 clientPin = true →
      grantUsable (PairingOutcome.classify result.pair pinMismatch) = true)
    : KeyEffect sodium m y call result (m.onReversePairReply sodium sentOn server clientPin
        result.pair pinMismatch).store := by
  have hend := (Touches.start {.store, .remember}ᶜ y m).endPairingRequest y sentOn
  have hcurrent : (m.endPairingRequest y sentOn).reverseAttemptIsCurrent server.1 clientPin =
      m.reverseAttemptIsCurrent server.1 clientPin := by
    unfold reverseAttemptIsCurrent
    rw [reverse_endPairingRequest]
  unfold Manager.onReversePairReply
  dsimp only
  rw [hcurrent]
  split
  . next hnow =>
    have husable := h hnow
    unfold applyReverseOutcome
    split
    . next hkey =>
      rw [hkey] at husable
      apply adoptReverseGrant server husable (hend.store (by simp) (by simp))
    . exact of_touches (hend.noteReverse rfl rfl rfl (.inl rfl))
    . apply of_touches ((hend.emit _).finishReverse (by simp))
    . apply of_touches ((hend.emit _).finishReverse (by simp))
    . apply of_touches ((hend.emit _).finishReverse (by simp))
    . apply of_touches ((hend.emit _).finishReverse (by simp))
  . apply of_touches hend

theorem onReverseStatusReply (server : ServerOf y)
    (h : m.reverse.phase = .AwaitingApproval → m.reverse.server.id = server.1.id →
      classifyApproval (approvalReplyOf result.pair) m.reverse.sawPending = .Approved →
      usableKey (result.pair.sharedKey.getD "") = true)
    : KeyEffect sodium m y call result
        (m.onReverseStatusReply sodium result.pair pinMismatch server.1).store := by
  have hpolled (b c : Bool) : Touches {.store, .remember}ᶜ y m
      { m with reverse := { m.reverse with pollInFlight := b, sawPending := c } } :=
    Touches.refl.noteReverse rfl rfl rfl (.inr (by simp))
  unfold Manager.onReverseStatusReply
  dsimp only
  split
  . apply of_touches (hpolled false m.reverse.sawPending)
  . next hcurrent =>
    simp only [not_or, ne_eq, Decidable.not_not] at hcurrent
    split
    . apply of_touches (((hpolled false m.reverse.sawPending).emit _).finishReverse (by simp))
    . unfold applyReverseAction
      split
      . next haction =>
        have happroved := nextReversePairingAction_eq_approve haction
        exact adoptReverseGrant server (h hcurrent.1 hcurrent.2 happroved) rfl
      . apply of_touches (((hpolled _ _).emit _).finishReverse (by simp))
      . apply of_touches (((hpolled _ _).emit _).finishReverse (by simp))
      . apply of_touches (hpolled _ _)

end KeyEffect

theorem keyEffect_onReply {request : Request} {result : HttpResult} (linkOpens : Bool)
    (hsubject : request.call.subject = some y) (h : inTime sodium m request result = true)
    : KeyEffect sodium m y request.call result
        (m.onReply sodium request result linkOpens).store := by
  unfold onReply
  unfold inTime at h
  dsimp only at h ⊢
  generalize request.call = call at hsubject h ⊢
  cases call with
  | pinPair id sentOn server pin =>
    cases hsubject
    apply KeyEffect.onPinPairReply
    simpa using h
  | reversePair id sentOn server clientPin attempt =>
    cases hsubject
    apply KeyEffect.onReversePairReply
    intro hcurrent
    simp only [hcurrent, Bool.not_true, Bool.false_or, Bool.and_eq_true] at h
    apply h.2
  | connectPair id sentOn server intent =>
    cases hsubject
    apply KeyEffect.onConnectPairReply
    simpa using h
  | pairStatus server attempt =>
    cases hsubject
    apply KeyEffect.onReverseStatusReply ⟨server, rfl⟩
    intro hphase hserver happroved
    simp [hphase, hserver, happroved] at h
    apply h.2
  | putSession id sentOn server intent sent sentDescriptors body =>
    cases hsubject
    exact KeyEffect.onSessionReply _ _ _ _ _ rfl (of_decide_eq_true h)
  | rekey id sentOn client sent body =>
    cases hsubject
    exact KeyEffect.onRekeyReply _ rfl (of_decide_eq_true h)
  | getSession id sentOn server connectionId sent =>
    cases hsubject
    exact KeyEffect.onSessionView _ rfl (of_decide_eq_true h)
  | putController id sentOn server connectionId sent descriptor =>
    cases hsubject
    exact KeyEffect.onControllerPut _ rfl (of_decide_eq_true h)
  | deleteController id connectionId sent ctrlIdx =>
    cases hsubject
    apply KeyEffect.of_touches ((Touches.start {.store, .remember}ᶜ y m).onControllerDelete _)
  | deleteSession => contradiction
  | unpair => contradiction
  | getCapabilities id =>
    cases hsubject
    apply KeyEffect.of_touches ((Touches.start {.store, .remember}ᶜ y m).onCapabilities _)

structure LeavesAlone (x : String) (m m' : Manager) : Prop where
  store : m'.store = m.store
  slots : SlotsKept x m m'

namespace LeavesAlone

theorem of_conn (hstore : m'.store = m.store) (hconn : m'.conn x = m.conn x)
    : LeavesAlone x m m' where
  store := hstore
  slots := fun c hc => ⟨c, hconn.trans hc, rfl, rfl⟩

theorem of_setConn {c c' : WifiConnection x} (hstore : m'.store = m.store) (hc : m.conn x = some c)
    (hconn : m'.conn x = some c') (hkept : c'.state = c.state ∧ c'.slots = c.slots)
    : LeavesAlone x m m' where
  store := hstore
  slots := by
    intro c₁ hc₁
    rw [hc] at hc₁
    cases hc₁
    exact ⟨c', hconn, hkept⟩

theorem modifyConn {f : WifiConnection x → WifiConnection x}
    (hf : ∀ c, (f c).state = c.state ∧ (f c).slots = c.slots)
    : LeavesAlone x m (m.modifyConn x f) where
  store := store_modifyConn m x f
  slots := by
    intro c hc
    refine ⟨f c, ?_, hf c⟩
    rw [conn_modifyConn, hc]
    rfl

theorem endPairingRequest (m : Manager) (x : String) (sentOn : Nat)
    : LeavesAlone x m (m.endPairingRequest x sentOn) := by
  unfold Manager.endPairingRequest
  split
  . split
    . exact of_conn rfl rfl
    . exact of_conn rfl rfl
  . exact of_conn rfl rfl

theorem onRekeyReply {c : WifiConnection x} (serial : Nat) (pairingKey : List UInt8)
    {resp : SessionResponse} (hc : m.conn x = some c)
    (hverdict : classifyRest (restReplyOf resp pinMismatch) ≠ .Unauthorized)
    : LeavesAlone x m (m.onRekeyReply sodium x serial pairingKey resp pinMismatch) := by
  simp only [Manager.onRekeyReply, hc, hverdict, if_false]
  split
  . exact of_conn rfl rfl
  . split
    . exact of_conn rfl rfl
    . split
      . exact of_conn rfl rfl
      . exact of_setConn rfl hc (conn_setConn_self _ _) ⟨rfl, rfl⟩

theorem onSessionView {c : WifiConnection x} (server : ServerOf x) {view : SessionViewDto}
    (hc : m.conn x = some c)
    (h : c.state = .Live → view.unauthorized = false ∧ drifts c view = false)
    : LeavesAlone x m (m.onSessionView sodium server view) := by
  have hconn : { m with reconcileInFlight := m.reconcileInFlight.erase x }.conn x = some c := hc
  simp only [Manager.onSessionView, hconn]
  split
  . exact of_conn rfl rfl
  . next hlive =>
    obtain ⟨hview, hdrifts⟩ := h (by simpa using hlive)
    simp only [hview, Bool.false_eq_true, if_false]
    split
    . exact of_conn rfl rfl
    . next hreached =>
      split
      . exact of_setConn rfl hc (conn_setConn_self _ _) ⟨rfl, rfl⟩
      . next hsame => simp [drifts, hreached, hsame] at hdrifts

theorem onReversePairReply (sentOn : Nat) {server : ServerOf x} {clientPin : String}
    (pair : PairResponse) (pinMismatch : Bool)
    (h : m.reverseAttemptIsCurrent server.1 clientPin = false)
    : LeavesAlone x m
        (m.onReversePairReply sodium sentOn server clientPin pair pinMismatch) := by
  have hcurrent : (m.endPairingRequest x sentOn).reverseAttemptIsCurrent server.1 clientPin =
      false := by
    unfold reverseAttemptIsCurrent
    rw [reverse_endPairingRequest]
    apply h
  simp only [Manager.onReversePairReply, hcurrent, Bool.false_eq_true, if_false]
  apply endPairingRequest

end LeavesAlone

theorem replyTarget_of_ne {c : WifiConnection x} (hc : m.conn x = some c) (hobj : c.obj ≠ sentOn)
    : m.replyTarget x sentOn = none := by
  simp [replyTarget, hc, hobj]

theorem leavesAlone_onReply {request : Request} {result : HttpResult} (linkOpens : Bool)
    (hsubject : request.call.subject = some y) (h : inTime sodium m request result = true)
    (hsuperseded : m.Superseded request.call)
    : LeavesAlone y m (m.onReply sodium request result linkOpens) := by
  unfold onReply
  unfold inTime at h
  dsimp only at h ⊢
  generalize request.call = call at hsubject h hsuperseded ⊢
  cases call with
  | pinPair id sentOn server pin =>
    cases hsubject
    obtain ⟨c, hc, hobj⟩ := hsuperseded
    simp only [onPinPairReply, replyTarget_endPairingRequest, replyTarget_of_ne hc hobj]
    apply LeavesAlone.endPairingRequest
  | connectPair id sentOn server intent =>
    cases hsubject
    obtain ⟨c, hc, hobj⟩ := hsuperseded
    simp only [onConnectPairReply, replyTarget_endPairingRequest, replyTarget_of_ne hc hobj]
    apply LeavesAlone.endPairingRequest
  | reversePair id sentOn server clientPin attempt =>
    cases hsubject
    apply LeavesAlone.onReversePairReply
    have hattempt : attempt ≠ m.reverse.attempt := hsuperseded
    simpa [hattempt] using h
  | pairStatus server attempt =>
    cases hsubject
    have hattempt : attempt ≠ m.reverse.attempt := hsuperseded
    simp only [hattempt, decide_false, Bool.false_and, Bool.or_false, decide_eq_true_eq] at h
    simp only [onReverseStatusReply, h, if_true]
    exact LeavesAlone.of_conn rfl rfl
  | putSession id sentOn server intent sent sentDescriptors body =>
    cases hsubject
    obtain ⟨c, hc, hobj⟩ := hsuperseded
    simp only [onSessionReply, replyTarget_of_ne hc hobj]
    exact LeavesAlone.of_conn rfl rfl
  | rekey id sentOn client sent body =>
    cases hsubject
    obtain ⟨c, hc, hobj⟩ := hsuperseded
    apply LeavesAlone.onRekeyReply _ _ hc
    intro hverdict
    exact hobj (of_decide_eq_true h c hc hverdict).1
  | getSession id sentOn server connectionId sent =>
    cases hsubject
    obtain ⟨c, hc, hobj⟩ := hsuperseded
    apply LeavesAlone.onSessionView server hc
    intro hlive
    obtain ⟨hunauthorized, hdrifts⟩ := of_decide_eq_true h c hc hlive
    have hview : result.view.unauthorized = false := by
      by_contra hview
      exact hobj (hunauthorized (by simpa using hview)).1
    refine ⟨hview, ?_⟩
    by_contra hdrift
    exact hobj (hdrifts hview (by simpa using hdrift)).1
  | putController id sentOn server connectionId sent descriptor =>
    cases hsubject
    obtain ⟨c, hc, hobj⟩ := hsuperseded
    obtain ⟨hunauthorized, hcontroller⟩ := of_decide_eq_true h c hc
    have hrefused : result.controller.unauthorized = false := by
      by_contra hrefused
      exact hobj (hunauthorized (by simpa using hrefused)).1
    have hnone : result.controller.controller = none := by
      by_contra hsome
      exact hobj (hcontroller (Option.isSome_iff_ne_none.mpr hsome))
    simp only [onControllerPut, hc, hrefused, hnone, Bool.false_eq_true, if_false]
    exact LeavesAlone.of_conn rfl rfl
  | deleteController id connectionId sent ctrlIdx | getCapabilities id =>
    cases hsubject
    apply LeavesAlone.modifyConn
    intro c
    split
    . exact ⟨rfl, rfl⟩
    . exact ⟨rfl, rfl⟩
  | deleteSession => contradiction
  | unpair => contradiction

theorem KeyEffect.refused_of_dropped {call : Call} {result : HttpResult} {store : ConnectionStore}
    (h : KeyEffect sodium m y call result store) (hkey : m.store.sharedKey x ≠ none)
    (hdropped : store.sharedKey x = none)
    : x = y ∧ ∃ sent, call.sent? = some sent ∧ result.status = 401 ∧
        m.credentialsFor sodium y = some sent := by
  cases h with
  | kept => contradiction
  | @granted keyHex husable =>
    by_cases hxy : x = y
    . subst hxy
      have hne : keyHex ≠ "" := by
        rintro rfl
        contradiction
      rw [ConnectionStore.sharedKey_setSharedKey_self _ _ hne] at hdropped
      contradiction
    . rw [ConnectionStore.sharedKey_setSharedKey_of_ne _ _ hxy] at hdropped
      contradiction
  | @refused sent hsent hstatus hproves =>
    by_cases hxy : x = y
    . subst hxy
      exact ⟨rfl, sent, hsent, hstatus, hproves hkey⟩
    . rw [ConnectionStore.sharedKey_forgetSharedKey_of_ne _ hxy] at hdropped
      contradiction
  | absent hnone =>
    by_cases hxy : x = y
    . subst hxy
      contradiction
    . rw [ConnectionStore.sharedKey_forgetSharedKey_of_ne _ hxy] at hdropped
      contradiction
  | remembered server hfold =>
    obtain ⟨k, hk⟩ := Option.ne_none_iff_exists'.mp hkey
    rw [ConnectionStore.sharedKey_rememberSatellite hk (hfold.stands hk)] at hdropped
    contradiction

theorem Touches.sharedKey (h : Touches powers y m m') (hremember : .remember ∉ powers) (hxy : x ≠ y)
    : m'.store.sharedKey x = m.store.sharedKey x := by
  induction h with
  | refl => rfl
  | setStore _ s hs hstore ih =>
    rw [← ih]
    cases hs with
    | setSharedKey keyHex => apply ConnectionStore.sharedKey_setSharedKey_of_ne _ _ hxy
    | forgetSharedKey => apply ConnectionStore.sharedKey_forgetSharedKey_of_ne _ hxy
    | forgetPin host => rfl
    | forgetSatellite => apply ConnectionStore.sharedKey_forgetSatellite_of_ne _ hxy
  | remember _ _ hpower => contradiction
  | _ => assumption

theorem dropsKey_onAliveTick (hkey : m.store.sharedKey x ≠ none)
    (hdropped : (m.onAliveTick sodium x).store.sharedKey x = none)
    : DropsKey sodium x m (.aliveTick x) := by
  have hrefl := Touches.start {.store, .remember}ᶜ x m
  have hkept {m' : Manager} (h : Touches {.store, .remember}ᶜ x m m') : m'.store.sharedKey x ≠ none := by
    rw [h.store (by simp) (by simp)]
    apply hkey
  unfold onAliveTick at hdropped
  split at hdropped
  . contradiction
  . next c hc =>
    split at hdropped
    . contradiction
    . next client hclient =>
      split at hdropped
      . next reason hreason =>
        unfold handleServerClose at hdropped
        split at hdropped
        . next haction => exact .close hc hclient hreason haction
        . exact absurd hdropped (hkept (hrefl.modifyConn .markDisconnected))
        . exact absurd hdropped
            (hkept ((hrefl.modifyConn .markDisconnected).scheduleRetry _ _ (by simp)))
      . split at hdropped
        . exact absurd hdropped (hkept ((hrefl.closeSession (by simp)).scheduleRetry _ _ (by simp)))
        . exact absurd hdropped
            (hkept (((hrefl.setConn hc (.applySteadyState c _)).reconcile _).maybeRequestRekey _
              (by simp)))

theorem dropsKey_of_step {e : Event} (hintime : keysInTime sodium m e = true)
    (hstep : m.step sodium e = some m') (hkey : m.store.sharedKey x ≠ none)
    (hdropped : m'.store.sharedKey x = none)
    : DropsKey sodium x m e := by
  have hkept (hstore : m'.store = m.store) : False := by
    rw [hstore] at hdropped
    contradiction
  have hquiet {y : String} (hy : m.Targets y e) (hstores : ¬e.stores)
      (hremember : ¬m.Answers e .remember) (htaken : m.taken e = m) : False := by
    have htouches : Touches {.store, .remember}ᶜ y (m.taken e) m' := by
      apply touches_step hstep hy
      intro p hneeds hp
      simp only [Set.mem_insert_iff, Set.mem_singleton_iff] at hp
      obtain rfl | rfl := hp
      . exact hstores hneeds
      . exact hremember hneeds
    rw [htaken] at htouches
    exact hkept (htouches.store (by simp) (by simp))
  have hother {id : String} (hy : m.Targets id e) (hx : x ≠ id)
      (hremember : ¬m.Answers e .remember) (htaken : m.taken e = m) : False := by
    have htouches : Touches {.remember}ᶜ id (m.taken e) m' := by
      apply touches_step hstep hy
      rintro p hneeds rfl
      exact hremember hneeds
    rw [htouches.sharedKey (by simp) hx, htaken] at hdropped
    contradiction
  cases e with
  | connectTo server intent =>
    obtain rfl := Option.some.inj hstep
    exact (hkept (store_connectTo sodium m server intent)).elim
  | forget id =>
    by_cases hx : x = id
    . subst hx
      apply DropsKey.forget
    . exact (hother rfl hx (fun h => h) rfl).elim
  | scanFinished found =>
    obtain ⟨_, rfl⟩ := step_scanFinished.mp hstep
    rw [onDiscoveryFinished_eq, store_autoReconnectAll, store_learned] at hdropped
    obtain ⟨k, hk⟩ := Option.ne_none_iff_exists'.mp hkey
    rw [ConnectionStore.sharedKey_refreshFromDiscovery hk (of_decide_eq_true hintime)] at hdropped
    contradiction
  | autoReconnectAll =>
    obtain rfl := Option.some.inj hstep
    exact (hkept (store_autoReconnectAll sodium m)).elim
  | prepareForSleep =>
    obtain rfl := Option.some.inj hstep
    apply (hkept _).elim
    apply store_foldl
    exact fun m id => ((Touches.start {.close} id m).closeSession rfl).store (by simp) (by simp)
  | resumeFromSleep =>
    obtain rfl := Option.some.inj hstep
    exact (hkept (store_autoReconnectAll sodium _)).elim
  | retryDue timer =>
    obtain ⟨r, _, _, rfl⟩ := step_retryDue.mp hstep
    exact (hkept (store_onRetryDue _ r.server)).elim
  | aliveTick id =>
    by_cases hx : x = id
    . subst hx
      obtain rfl := Option.some.inj hstep
      apply dropsKey_onAliveTick hkey hdropped
    . exact (hother rfl hx (fun h => h) rfl).elim
  | encrypted rid certDer =>
    obtain ⟨request, _, _, rfl⟩ := step_encrypted.mp hstep
    rw [(sameBooks_onEncrypted ..).sharedKey] at hdropped
    contradiction
  | reply rid result linkOpens =>
    obtain ⟨request, hrequest, _, rfl⟩ := step_reply.mp hstep
    cases hy : request.call.subject with
    | none =>
      rw [onReply_of_subject_eq_none _ _ _ hy] at hdropped
      contradiction
    | some y =>
      have hreply : inTime sodium { m with requests := m.requests.erase rid } request result =
          true := of_decide_eq_true hintime request hrequest
      obtain ⟨rfl, sent, hsent, hstatus, hcreds⟩ :=
        (keyEffect_onReply linkOpens hy hreply).refused_of_dropped hkey hdropped
      exact .refused hrequest hy hsent hstatus hcreds
  | advance ms =>
    obtain rfl := Option.some.inj hstep
    exact (hkept rfl).elim
  | cancelReversePairing | startDiscovery | reversePollTick =>
    exact (hquiet (y := x) trivial id id rfl).elim
  | _ => exact (hquiet rfl id id rfl).elim

theorem keyLaw_of_step {e : Event} (hintime : keysInTime sodium m e = true)
    (hstep : m.step sodium e = some m')
    : KeyLaw sodium m e m' where
  dropped := fun _ hkey hdropped => dropsKey_of_step hintime hstep hkey hdropped
  superseded := by
    rintro rid result linkOpens request x rfl hrequest hsubject hsuperseded
    obtain ⟨request', hrequest', _, rfl⟩ := step_reply.mp hstep
    rw [hrequest] at hrequest'
    cases hrequest'
    have hreply : inTime sodium { m with requests := m.requests.erase rid } request result =
        true := of_decide_eq_true hintime request hrequest
    have halone := leavesAlone_onReply linkOpens hsubject hreply hsuperseded
    refine ⟨?_, halone.slots⟩
    rw [halone.store]

theorem keys_obey_law {es : List Event}
    (hintime : Along (step sodium) (fun m e => keysInTime sodium m e = true) m es)
    : Along (step sodium)
        (fun m e => ∀ m', m.step sodium e = some m' → KeyLaw sodium m e m') m es := by
  apply along_mono _ hintime
  intro m e h m' hstep
  apply keyLaw_of_step h hstep

def officeRefusal : HttpResult where
  status := 401
  body := .session { code := some kAuthCodeNotPaired }

theorem keys_obey_law_refusal
    : ∃ m m' : Manager,
        Transition.run (step officeSodium) officeLaunch (falteringRun.take 2) = some m ∧
        m.step officeSodium (.reply 0 officeRefusal true) = some m' ∧
        m.store.sharedKey officePc.id = some officeKey ∧ m'.store.sharedKey officePc.id = none ∧
        KeyLaw officeSodium m (.reply 0 officeRefusal true) m' := by
  obtain ⟨m, hm, hafter⟩ : ∃ m,
      Transition.run (step officeSodium) officeLaunch (falteringRun.take 2) = some m ∧
      decide (keysInTime officeSodium m (.reply 0 officeRefusal true) = true ∧
        m.store.sharedKey officePc.id = some officeKey ∧
        (m.step officeSodium (.reply 0 officeRefusal true)).map (·.store.sharedKey officePc.id) =
          some none) = true :=
    exists_run_of_any (by decide)
  simp only [decide_eq_true_eq] at hafter
  obtain ⟨hintime, hkey, hstep⟩ := hafter
  obtain ⟨m', hm', hdropped⟩ := Option.map_eq_some_iff.mp hstep
  refine ⟨m, m', hm, hm', hkey, hdropped, ?_⟩
  have halong : Along (step officeSodium) (fun m e => keysInTime officeSodium m e = true) m
      [.reply 0 officeRefusal true] := ⟨hintime, fun _ _ => trivial⟩
  apply (keys_obey_law halong).1 m' hm'

def repairedRun : List Event :=
  falteringRun.take 3 ++ [.attachSlot officePc.id "pad" {}, .encrypted 2 officeCert,
    .forget officePc.id, .pairWithPin officePc "1234", .encrypted 5 officeCert,
    .reply 5 { status := 200, body := .pair { ok := true, sharedKey := some officeNewKey } } true]

def officeControllerRefusal : HttpResult where
  status := 401
  body := .controller { code := some kAuthCodeNotPaired }

theorem late_refusal_drops_new_key
    : ∃ m m' : Manager, ∃ request : Request,
        Transition.run (step officeSodium) officeLaunch repairedRun = some m ∧
        m.requests[2]? = some request ∧
        request.call.sent? ≠ m.credentialsFor officeSodium officePc.id ∧
        m.store.sharedKey officePc.id = some officeNewKey ∧
        m.stateOf officePc.id = some .Linking ∧
        m.step officeSodium (.reply 2 officeControllerRefusal true) = some m' ∧
        m'.store.sharedKey officePc.id = none ∧ m'.stateOf officePc.id = some .Stale := by
  obtain ⟨m, hm, hafter⟩ : ∃ m : Manager,
      Transition.run (step officeSodium) officeLaunch repairedRun = some m ∧
      decide (m.requests[2]?.any (fun request : Request =>
          request.call.sent? ≠ m.credentialsFor officeSodium officePc.id) = true ∧
        m.store.sharedKey officePc.id = some officeNewKey ∧
        m.stateOf officePc.id = some .Linking ∧
        (m.step officeSodium (.reply 2 officeControllerRefusal true)).map
          (fun m' => (m'.store.sharedKey officePc.id, m'.stateOf officePc.id)) =
            some (none, some .Stale)) = true :=
    exists_run_of_any (by decide)
  simp only [decide_eq_true_eq] at hafter
  obtain ⟨hsent, hkey, hstate, hstep⟩ := hafter
  rw [Option.any_eq_true] at hsent
  obtain ⟨request, hrequest, hsent⟩ := hsent
  rw [decide_eq_true_eq] at hsent
  obtain ⟨m', hm', hdropped⟩ := Option.map_eq_some_iff.mp hstep
  rw [Prod.mk.injEq] at hdropped
  exact ⟨m, m', request, hm, hrequest, hsent, hkey, hstate, hm', hdropped⟩

end Manager

end Wifi
