import Dish.Manager.Step

/-!
This module contains what a call of the manager can touch.
-/

open Std Models Reducer Wire Store Connection

namespace Wifi

variable {e : Event} {request : Request} {rid : Nat}

def Call.id? : Call → Option String
  | .pinPair id .. | .reversePair id .. | .connectPair id .. | .putSession id .. | .rekey id ..
  | .getSession id .. | .putController id .. | .deleteController id .. | .getCapabilities id => some id
  | .pairStatus .. | .deleteSession .. | .unpair .. => none

def Call.subject : Call → Option String
  | .pairStatus server _ => some server.id
  | call => call.id?

def Call.isSessionPut : Call → Bool
  | .putSession .. => true
  | _ => false

def Call.opens (x : String) : Call → Bool
  | .pinPair id .. | .connectPair id .. | .putSession id .. => id = x
  | _ => false

def Call.poll? : Call → Option Nat
  | .pairStatus _ attempt => some attempt
  | _ => none

def Event.isUserCall : Event → Prop
  | .connectTo _ intent => intent = .UserInitiated
  | .pairWithPin .. | .requestReversePairing .. | .forget _ => True
  | _ => False

def Event.isHandshake : Event → Prop
  | .encrypted .. => True
  | _ => False

def Event.isSlotCall : Event → Prop
  | .attachSlot .. | .detachSlot .. => True
  | _ => False

def Event.isForget : Event → Prop
  | .forget _ => True
  | _ => False

def Event.beginsAttempt : Event → Bool
  | .requestReversePairing .. => true
  | _ => false

def Event.isPollTick : Event → Prop
  | .reversePollTick => True
  | _ => False

def Event.stores : Event → Prop
  | .connectTo .. | .forget _ | .retryDue _ | .aliveTick _ | .reply .. | .scanFinished _
  | .autoReconnectAll | .resumeFromSleep => True
  | _ => False

def Event.dials : Event → Prop
  | .connectTo .. | .pairWithPin .. | .retryDue _ | .scanFinished _ | .autoReconnectAll
  | .resumeFromSleep => True
  | _ => False

def Event.closes : Event → Prop
  | .disconnect _ | .forget _ | .aliveTick _ | .prepareForSleep => True
  | _ => False

namespace Manager

variable {sodium : Sodium} {m m' m'' : Manager} {x y : String} {powers : Set Power}

@[simp]
theorem conn_setConn_self (m : Manager) (c : WifiConnection y) : (m.setConn c).conn y = some c := by
  simp [conn, setConn]

theorem conn_setConn_of_ne (m : Manager) (c : WifiConnection y) (h : x ≠ y)
    : (m.setConn c).conn x = m.conn x := by
  have : ¬ y = x := fun heq => h heq.symm
  simp [conn, setConn, DTreeMap.get?_insert, this]

@[simp]
theorem conn_takeConnection_self (m : Manager) (y : String) : (m.takeConnection y).conn y = none := by
  simp [conn, takeConnection]

theorem conn_takeConnection_of_ne (m : Manager) (h : x ≠ y)
    : (m.takeConnection y).conn x = m.conn x := by
  have : ¬ y = x := fun heq => h heq.symm
  simp [conn, takeConnection, DTreeMap.get?_erase, this]

@[simp]
theorem store_modifyConn (m : Manager) (y : String) (f : WifiConnection y → WifiConnection y)
    : (m.modifyConn y f).store = m.store := by
  unfold modifyConn
  split
  . rfl
  . rfl

@[simp]
theorem requests_modifyConn (m : Manager) (y : String) (f : WifiConnection y → WifiConnection y)
    : (m.modifyConn y f).requests = m.requests := by
  unfold modifyConn
  split
  . rfl
  . rfl

theorem conn_modifyConn (m : Manager) (f : WifiConnection x → WifiConnection x)
    : (m.modifyConn x f).conn x = (m.conn x).map f := by
  unfold modifyConn
  split
  . next h => simp [h]
  . next h => simp [h]

theorem conn_of_replyTarget {sentOn : Nat} {c : WifiConnection y} (h : m.replyTarget y sentOn = some c)
    : m.conn y = some c := by
  apply (Option.filter_eq_some_iff.mp h).1

inductive StoreTouches (y : String) (s : ConnectionStore) : ConnectionStore → Prop where
  | setSharedKey (keyHex : String) : StoreTouches y s (s.setSharedKey y keyHex)
  | forgetSharedKey : StoreTouches y s (s.forgetSharedKey y)
  | forgetPin (host : String) : StoreTouches y s (s.forgetPin host)
  | forgetSatellite : StoreTouches y s (s.forgetSatellite y)

/-- What not every event may do. `astray` is a request that is sent out of turn. -/
inductive Power where
  | user
  | arm
  | write
  | store
  | remember
  | link
  | confirm
  | rekey
  | slot
  | drop
  | ask
  | poll
  | dial
  | open
  | close
  | astray

def replyPowers : Call → Set Power
  | .putSession .. => {.store, .arm, .remember, .link, .confirm, .open, .close}
  | .putController .. => {.store, .confirm}
  | .rekey .. => {.store, .rekey}
  | .pinPair .. | .connectPair .. => {.store, .open}
  | .getSession .. => {.store, .dial, .open}
  | .pairStatus .. => {.store, .poll}
  | _ => {.store}

def Spoken (version : Int) : Prop :=
  kProtocolVersionMin ≤ version ∧ version ≤ kProtocolVersion

theorem spoken_of_retryLower {supported supportedMin : Int}
    (h : (settleRejected supported supportedMin).verdict = .RetryLower)
    : Spoken (settleRejected supported supportedMin).settledVersion := by
  unfold settleRejected at h ⊢
  split at h
  . cases h
  . next husable =>
    rw [if_neg husable]
    split at h
    . cases h
    . next hdish =>
      rw [if_neg hdish]
      split at h
      . cases h
      . next hsatellite =>
        rw [if_neg hsatellite]
        simp only [Spoken, kProtocolVersion, kProtocolVersionMin] at *
        omega

structure Noted (c c' : WifiConnection y) : Prop where
  obj : c'.obj = c.obj
  state : c'.state = c.state
  client : c'.client = c.client
  connectionId : c'.connectionId = c.connectionId
  boundSlotId : c'.boundSlotId = c.boundSlotId
  slots : c'.slots = c.slots
  offered : c'.offeredProtocolVersion = c.offeredProtocolVersion ∨ Spoken c'.offeredProtocolVersion

inductive Develops (powers : Set Power) : WifiConnection y → WifiConnection y → Prop where
  | note {c c' : WifiConnection y} (h : Noted c c') : Develops powers c c'
  | markConnecting (c : WifiConnection y) (hdial : .dial ∈ powers)
    : Develops powers c c.markConnecting
  | markDisconnected (c : WifiConnection y) : Develops powers c c.markDisconnected
  | markStale (c : WifiConnection y) : Develops powers c c.markStale
  | applySteadyState (c : WifiConnection y) (client : Client y)
    : Develops powers c (c.applySteadyState client)
  | observe (c : WifiConnection y) (o : Observation) : Develops powers c (c.mapClient o.write)
  | markConnected (c : WifiConnection y) (client : Client y) (connectionId : String) (epoch : Int)
    (granted : Bool) (hlink : .link ∈ powers)
    : Develops powers c (c.markConnected client connectionId epoch granted)
  | applyResults (c : WifiConnection y) (results : List ControllerApplyDto) (hconfirm : .confirm ∈ powers)
    : Develops powers c (c.applyResults results)
  | setConnectionParams (c : WifiConnection y) (token sessionKey : List UInt8) (version : Int)
    (hrekey : .rekey ∈ powers)
    : Develops powers c (c.mapClient (·.setConnectionParams token sessionKey version))
  | attachSlot (c : WifiConnection y) (slotId : String) (features : SlotFeatures)
    (hslot : .slot ∈ powers)
    : Develops powers c (c.attachSlot slotId features).1
  | detachSlot (c : WifiConnection y) (slotId : String) (hslot : .slot ∈ powers)
    : Develops powers c (c.detachSlot slotId).1
  | trans {c c' c'' : WifiConnection y} (h1 : Develops powers c c') (h2 : Develops powers c' c'')
    : Develops powers c c''

namespace Develops

theorem refl (c : WifiConnection y) : Develops powers c c := .note ⟨rfl, rfl, rfl, rfl, rfl, rfl, .inl rfl⟩

theorem updateServer (c : WifiConnection y) (server : ServerOf y)
    : Develops powers c (c.updateServer server) := .note ⟨rfl, rfl, rfl, rfl, rfl, rfl, .inl rfl⟩

theorem settle (c : WifiConnection y) (negotiated : ProtocolOutcome)
    : Develops powers c (c.settle negotiated) := .note ⟨rfl, rfl, rfl, rfl, rfl, rfl, .inl rfl⟩

theorem adoptEpoch (c : WifiConnection y) (epoch : Int) : Develops powers c (c.adoptEpoch epoch) :=
  .note ⟨rfl, rfl, rfl, rfl, rfl, rfl, .inl rfl⟩

theorem rekeyRequested (c : WifiConnection y) (requested : Bool)
    : Develops powers c { c with rekeyRequested := requested } :=
  .note ⟨rfl, rfl, rfl, rfl, rfl, rfl, .inl rfl⟩

end Develops

def IsUp (c : WifiConnection x) : Prop :=
  c.state = .Live ∨ c.state = .Faltering

def HasSession (m : Manager) (x : String) : Prop :=
  ∃ c, m.conn x = some c ∧ IsUp c

def Linking (m : Manager) (x : String) : Prop :=
  ∃ c, m.conn x = some c ∧ c.state = .Linking

def NoneOut (m : Manager) (x : String) : Prop :=
  ∀ (rid : Nat) (r : Request), m.requests[rid]? = some r → r.call.opens x = false

theorem state_markDisconnected (c : WifiConnection x) : c.markDisconnected.state = .Idle := by
  unfold WifiConnection.markDisconnected
  split
  . next h => apply h.1
  . rfl

theorem state_markStale (c : WifiConnection x) : c.markStale.state = .Stale := by
  unfold WifiConnection.markStale
  split
  . next h => apply h.1
  . rfl

theorem no_session_of_conn {c : WifiConnection x} (hc : m.conn x = some c) (h : ¬IsUp c)
    : ¬m.HasSession x := by
  rintro ⟨c', hc', hup⟩
  rw [hc] at hc'
  cases hc'
  exact h hup

theorem not_isUp_of_linking {c : WifiConnection x} (h : c.state = .Linking) : ¬IsUp c := by
  simp [IsUp, h]

theorem state_markConnecting {c : WifiConnection x} (h : c.state ≠ .Live)
    : c.markConnecting.state = .Linking := by
  simp [WifiConnection.markConnecting, h]

theorem not_isUp_markConnecting {c : WifiConnection x} (h : c.state ≠ .Live)
    : ¬IsUp c.markConnecting :=
  not_isUp_of_linking (state_markConnecting h)

def MayOpen (powers : Set Power) (y : String) (m : Manager) : Prop :=
  .open ∈ powers ∧ (.astray ∈ powers ∨ ¬m.HasSession y ∧ m.NoneOut y)

def MayDial (powers : Set Power) (y : String) (m : Manager) : Prop :=
  m.Linking y ∨ .open ∈ powers ∧ (.astray ∈ powers ∨ m.NoneOut y)

def MayRelease (powers : Set Power) (y : String) (m m' : Manager) (connectionId : String) : Prop :=
  .close ∈ powers ∧ (.astray ∈ powers ∨ .link ∈ powers ∨ .rekey ∈ powers ∨
    ¬m'.HasSession y ∧ ∃ c, m.conn y = some c ∧ c.connectionId = some connectionId)

def Fits (powers : Set Power) (y : String) (m m' : Manager) : Call → Prop
  | .pinPair .. | .connectPair .. | .putSession .. => MayOpen powers y m'
  | .deleteSession connectionId _ => MayRelease powers y m m' connectionId
  | .rekey .. => .astray ∈ powers
  | .pairStatus .. => .poll ∈ powers
  | _ => True

inductive Touches (powers : Set Power) (y : String) (m : Manager) : Manager → Prop where
  | refl : Touches powers y m m
  | setConn {m' : Manager} (h : Touches powers y m m') {c c' : WifiConnection y}
    (hc : m'.conn y = some c) (hd : Develops powers c c')
    : Touches powers y m (m'.setConn c')
  | create {m' : Manager} (h : Touches powers y m m') (server : ServerOf y) (hc : m'.conn y = none)
    : Touches powers y m
        { m'.setConn { obj := m'.nextObj, server : WifiConnection y } with nextObj := m'.nextObj + 1 }
  | takeConnection {m' : Manager} (h : Touches powers y m m') (hdrop : .drop ∈ powers)
    : Touches powers y m (m'.takeConnection y)
  | send {m' : Manager} (h : Touches powers y m m') (host : String) (port : Int) (call : Call)
    (hid : ∀ id, call.id? = some id → id = y) (hfits : Fits powers y m m' call)
    : Touches powers y m (m'.send host port call)
  | emit {m' : Manager} (h : Touches powers y m m') (signal : Signal) : Touches powers y m (m'.emit signal)
  | setStore {m' : Manager} (h : Touches powers y m m') (s : ConnectionStore)
    (hs : StoreTouches y m'.store s) (hstore : .store ∈ powers)
    : Touches powers y m (m'.setStore s)
  | remember {m' : Manager} (h : Touches powers y m m') (server : ServerOf y)
    (hremember : .remember ∈ powers)
    : Touches powers y m (m'.setStore (m'.store.rememberSatellite server.1))
  | retryCurve {m' : Manager} (h : Touches powers y m m') (attempts : TreeMap String Nat)
    : Touches powers y m { m' with retryAttempts := attempts }
  | arm {m' : Manager} (h : Touches powers y m m') (attempts : TreeMap String Nat) (timer next : Nat)
    (r : Retry) (hr : r.server.id = y) (hnow : r.armedAt = m'.now) (harm : .arm ∈ powers)
    : Touches powers y m { m' with
        retryAttempts := attempts
        retries := m'.retries.insert timer r
        nextRetry := next }
  | cancelPendingRetries {m' : Manager} (h : Touches powers y m m')
    : Touches powers y m (m'.cancelPendingRetries y)
  | hold {m' : Manager} (h : Touches powers y m m')
    : Touches powers y m { m' with userDisconnected := insert y m'.userDisconnected }
  | release {m' : Manager} (h : Touches powers y m m') (huser : .user ∈ powers)
    : Touches powers y m { m' with userDisconnected := m'.userDisconnected.erase y }
  | flags {m' : Manager} (h : Touches powers y m m') (pairing reconciling : Finset String)
    : Touches powers y m { m' with pairingInFlight := pairing, reconcileInFlight := reconciling }
  | scanning {m' : Manager} (h : Touches powers y m m') (scanning : Bool)
    : Touches powers y m { m' with scanning }
  | nextClient {m' : Manager} (h : Touches powers y m m') (hlink : .link ∈ powers)
    : Touches powers y m { m' with nextClient := m'.nextClient + 1 }
  | reverse {m' : Manager} (h : Touches powers y m m') (r : Reverse)
    (hattempt : r.attempt = m'.reverse.attempt ∨ .ask ∈ powers)
    (hr : r.phase = .AwaitingApproval → (.user ∈ powers ∧ .ask ∈ powers ∧ r.server.id = y) ∨
      (m'.reverse.phase = .AwaitingApproval ∧ r.server = m'.reverse.server ∧
        (r.pollInFlight = m'.reverse.pollInFlight ∨ .poll ∈ powers)))
    : Touches powers y m { m' with reverse := r }

structure Frame (x : String) (m m' : Manager) : Prop where
  conn : m'.conn x = m.conn x
  held : x ∈ m'.userDisconnected ↔ x ∈ m.userDisconnected
  retries : ∀ (timer : Nat) (r : Retry), m'.retries[timer]? = some r → r.server.id = x →
    m.retries[timer]? = some r
  requests : ∀ (rid : Nat) (r : Request), m'.requests[rid]? = some r → r.call.id? = some x →
    ∃ r₀, m.requests[rid]? = some r₀ ∧ r₀.call = r.call
  reverse : m'.reverse.phase = .AwaitingApproval → m'.reverse.server.id = x →
    m.reverse.phase = .AwaitingApproval ∧ m.reverse.server.id = x

namespace Frame

theorem refl (x : String) (m : Manager) : Frame x m m where
  conn := rfl
  held := Iff.rfl
  retries := fun _ _ h _ => h
  requests := fun _ r h _ => ⟨r, h, rfl⟩
  reverse := fun h1 h2 => ⟨h1, h2⟩

theorem trans (h1 : Frame x m m') (h2 : Frame x m' m'') : Frame x m m'' where
  conn := by rw [h2.conn, h1.conn]
  held := by rw [h2.held, h1.held]
  retries := fun timer r h hr => h1.retries timer r (h2.retries timer r h hr) hr
  requests := by
    intro rid r h hr
    obtain ⟨r₁, h₁, hcall₁⟩ := h2.requests rid r h hr
    obtain ⟨r₀, h₀, hcall₀⟩ := h1.requests rid r₁ h₁ (hcall₁ ▸ hr)
    exact ⟨r₀, h₀, hcall₀.trans hcall₁⟩
  reverse := by
    intro h hr
    have := h2.reverse h hr
    apply h1.reverse this.1 this.2

end Frame

namespace Touches

theorem start (powers : Set Power) (y : String) (m : Manager) : Touches powers y m m := .refl

theorem written (h : Touches powers y m m') : m'.written = m.written := by
  induction h with
  | refl => rfl
  | _ => assumption

theorem now (h : Touches powers y m m') : m'.now = m.now := by
  induction h with
  | refl => rfl
  | _ => assumption

theorem nextRetry (h : Touches powers y m m') (hpowers : .arm ∉ powers)
    : m'.nextRetry = m.nextRetry := by
  induction h with
  | refl => rfl
  | arm _ _ _ _ _ _ _ harm => contradiction
  | _ => assumption

theorem store (h : Touches powers y m m') (hstore : .store ∉ powers) (hremember : .remember ∉ powers)
    : m'.store = m.store := by
  induction h with
  | refl => rfl
  | setStore _ _ _ hpower => contradiction
  | remember _ _ hpower => contradiction
  | _ => assumption

theorem held (h : Touches powers y m m') (hpowers : .user ∉ powers) (hx : x ∈ m.userDisconnected)
    : x ∈ m'.userDisconnected := by
  induction h with
  | refl => apply hx
  | hold _ ih => apply Finset.mem_insert_of_mem ih
  | release _ huser => contradiction
  | _ => assumption

theorem awaiting (h : Touches powers y m m') (hpowers : .user ∉ powers)
    (hphase : m'.reverse.phase = .AwaitingApproval)
    : m.reverse.phase = .AwaitingApproval ∧ m'.reverse.server = m.reverse.server := by
  induction h with
  | refl => exact ⟨hphase, rfl⟩
  | reverse _ r _ hr ih =>
    obtain ⟨huser, _⟩ | ⟨hbefore, hserver, _⟩ := hr hphase
    . contradiction
    . obtain ⟨hfirst, hsame⟩ := ih hbefore
      exact ⟨hfirst, hserver.trans hsame⟩
  | _ => apply_assumption; assumption

theorem armedAt (h : Touches powers y m m') {timer : Nat} {r : Retry}
    (hr : m'.retries[timer]? = some r)
    : m.retries[timer]? = some r ∨ (.arm ∈ powers ∧ r.armedAt = m.now) := by
  induction h with
  | refl => apply Or.inl hr
  | arm h attempts timer' next r' hr' hnow harm ih =>
    simp only [TreeMap.getElem?_insert] at hr
    split at hr
    . cases hr
      exact Or.inr ⟨harm, hnow.trans h.now⟩
    . apply ih hr
  | cancelPendingRetries _ ih =>
    simp only [Manager.cancelPendingRetries, TreeMap.getElem?_filter, Option.pfilter_eq_some_iff] at hr
    apply ih hr.1
  | _ => apply_assumption; assumption

theorem frame (h : Touches powers y m m') (hxy : x ≠ y) : Frame x m m' := by
  induction h with
  | refl => apply Frame.refl
  | setConn _ hc hd ih => exact { ih with conn := by rw [conn_setConn_of_ne _ _ hxy, ih.conn] }
  | create _ server hc ih =>
    exact { ih with conn := (conn_setConn_of_ne _ _ hxy).trans ih.conn }
  | takeConnection _ hdrop ih =>
    exact { ih with conn := by rw [conn_takeConnection_of_ne _ hxy, ih.conn] }
  | send _ host port call hid _ ih =>
    refine { ih with requests := ?_ }
    intro rid r h hr
    simp only [Manager.send, TreeMap.getElem?_insert] at h
    split at h
    . cases h
      have := hid x hr
      contradiction
    . apply ih.requests rid r h hr
  | arm _ attempts timer next r hr hnow harm ih =>
    refine { ih with retries := ?_ }
    intro timer' r' h hr'
    simp only [TreeMap.getElem?_insert] at h
    split at h
    . cases h
      rw [hr] at hr'
      exact absurd hr'.symm hxy
    . apply ih.retries timer' r' h hr'
  | cancelPendingRetries _ ih =>
    refine { ih with retries := ?_ }
    intro timer r h hr
    simp only [Manager.cancelPendingRetries, TreeMap.getElem?_filter, Option.pfilter_eq_some_iff] at h
    apply ih.retries timer r h.1 hr
  | hold _ ih => exact { ih with held := by rw [Finset.mem_insert, ← ih.held]; simp [hxy] }
  | release _ huser ih => exact { ih with held := by rw [Finset.mem_erase, ← ih.held]; simp [hxy] }
  | reverse _ r _ hr ih =>
    refine { ih with reverse := ?_ }
    intro h hx
    obtain ⟨_, _, heq⟩ | ⟨hphase, hserver, _⟩ := hr h
    . rw [heq] at hx
      exact absurd hx.symm hxy
    . rw [hserver] at hx
      apply ih.reverse hphase hx
  | emit _ _ ih | setStore _ _ _ _ ih | remember _ _ _ ih | retryCurve _ _ ih | flags _ _ _ ih
  | scanning _ _ ih | nextClient _ _ ih => exact { ih with }

end Touches

def materialOf (c : WifiConnection x) : Option SessionMaterial :=
  c.client.map fun client => { token := client.token, sessionKey := client.sessionKey }

structure Kept (m m' : Manager) : Prop where
  named : ∀ x c' connectionId, m'.conn x = some c' → c'.connectionId = some connectionId →
    ∃ c, m.conn x = some c ∧ c.connectionId = some connectionId
  up : ∀ x c', m'.conn x = some c' → IsUp c' →
    ∃ c, m.conn x = some c ∧ IsUp c ∧ materialOf c' = materialOf c

namespace Kept

theorem refl (m : Manager) : Kept m m where
  named := fun _ c _ hc hid => ⟨c, hc, hid⟩
  up := fun _ c hc hup => ⟨c, hc, hup, rfl⟩

theorem trans (h : Kept m m') (h' : Kept m' m'') : Kept m m'' where
  named := by
    intro x c'' connectionId hc'' hid
    obtain ⟨c', hc', hid'⟩ := h'.named x c'' connectionId hc'' hid
    exact h.named x c' connectionId hc' hid'
  up := by
    intro x c'' hc'' hup
    obtain ⟨c', hc', hup', hmaterial'⟩ := h'.up x c'' hc'' hup
    obtain ⟨c, hc, hup, hmaterial⟩ := h.up x c' hc' hup'
    exact ⟨c, hc, hup, hmaterial'.trans hmaterial⟩

theorem of_conn (h : ∀ x, m'.conn x = m.conn x) : Kept m m' where
  named := by
    intro x c' connectionId hc' hid
    exact ⟨c', h x ▸ hc', hid⟩
  up := by
    intro x c' hc' hup
    exact ⟨c', h x ▸ hc', hup, rfl⟩

theorem no_session (h : Kept m m') (hdown : ¬m.HasSession x) : ¬m'.HasSession x := by
  rintro ⟨c', hc', hup⟩
  obtain ⟨c, hc, hup, _⟩ := h.up x c' hc' hup
  exact hdown ⟨c, hc, hup⟩

end Kept

structure KeptConn (c c' : WifiConnection y) : Prop where
  named : ∀ connectionId, c'.connectionId = some connectionId → c.connectionId = some connectionId
  up : IsUp c' → IsUp c ∧ materialOf c' = materialOf c

theorem keptConn_of_eq {c c' : WifiConnection y} (hstate : c'.state = c.state)
    (hid : c'.connectionId = c.connectionId) (hmaterial : materialOf c' = materialOf c)
    : KeptConn c c' where
  named := by
    rw [hid]
    exact fun _ h => h
  up := by
    unfold IsUp
    rw [hstate]
    exact fun h => ⟨h, hmaterial⟩

theorem keptConn_teardown (c : WifiConnection y) {state : SessionState}
    (hstate : state = .Idle ∨ state = .Stale)
    : KeptConn c (c.teardown state hstate) where
  named := by
    intro connectionId h
    cases h
  up := by
    rintro (hup | hup) <;> rcases hstate with rfl | rfl <;> cases hup

theorem Develops.keptConn {c c' : WifiConnection y} (h : Develops powers c c')
    (hlink : .link ∉ powers) (hrekey : .rekey ∉ powers)
    : KeptConn c c' := by
  induction h with
  | note h => exact keptConn_of_eq h.state h.connectionId (by rw [materialOf, h.client]; rfl)
  | markConnecting c =>
    unfold WifiConnection.markConnecting
    split
    . exact keptConn_of_eq rfl rfl rfl
    . exact ⟨fun _ h => h, by rintro (h | h) <;> cases h⟩
  | markDisconnected c =>
    unfold WifiConnection.markDisconnected
    split
    . exact keptConn_of_eq rfl rfl rfl
    . apply keptConn_teardown
  | markStale c =>
    unfold WifiConnection.markStale
    split
    . exact keptConn_of_eq rfl rfl rfl
    . apply keptConn_teardown
  | applySteadyState c client =>
    unfold WifiConnection.applySteadyState
    dsimp only
    split
    . next hup => exact ⟨fun _ h => h, fun _ => ⟨hup, rfl⟩⟩
    . exact keptConn_of_eq rfl rfl rfl
  | observe c o =>
    refine keptConn_of_eq rfl rfl ?_
    simp only [materialOf, WifiConnection.mapClient, Option.map_map]
    rfl
  | markConnected => contradiction
  | applyResults => exact keptConn_of_eq rfl rfl rfl
  | setConnectionParams => contradiction
  | attachSlot c slotId features =>
    unfold WifiConnection.attachSlot
    split
    . exact keptConn_of_eq rfl rfl rfl
    . exact keptConn_of_eq rfl rfl rfl
  | detachSlot c slotId =>
    unfold WifiConnection.detachSlot
    split
    . exact keptConn_of_eq rfl rfl rfl
    . exact keptConn_of_eq rfl rfl rfl
  | trans _ _ ih ih' =>
    constructor
    . intro connectionId h
      exact ih.named _ (ih'.named _ h)
    . intro hup
      obtain ⟨hup, hmaterial'⟩ := ih'.up hup
      obtain ⟨hup, hmaterial⟩ := ih.up hup
      exact ⟨hup, hmaterial'.trans hmaterial⟩

theorem kept_setConn {c c' : WifiConnection y} (hc : m.conn y = some c) (h : KeptConn c c')
    : Kept m (m.setConn c') := by
  have hcases : ∀ x (d : WifiConnection x), (m.setConn c').conn x = some d →
      m.conn x = some d ∨ ∃ heq : x = y, heq ▸ d = c' := by
    intro x d hd
    by_cases heq : x = y
    . subst heq
      rw [conn_setConn_self] at hd
      exact .inr ⟨rfl, (Option.some.inj hd).symm⟩
    . rw [conn_setConn_of_ne _ _ heq] at hd
      exact .inl hd
  constructor
  . intro x d connectionId hd hid
    rcases hcases x d hd with hd | ⟨rfl, rfl⟩
    . exact ⟨d, hd, hid⟩
    . exact ⟨c, hc, h.named connectionId hid⟩
  . intro x d hd hup
    rcases hcases x d hd with hd | ⟨rfl, rfl⟩
    . exact ⟨d, hd, hup, rfl⟩
    . exact ⟨c, hc, h.up hup⟩

theorem kept_create (m : Manager) (server : ServerOf y)
    : Kept m { m.setConn { obj := m.nextObj, server : WifiConnection y } with
        nextObj := m.nextObj + 1 } := by
  have hcases : ∀ x (c : WifiConnection x),
      (m.setConn { obj := m.nextObj, server : WifiConnection y }).conn x = some c →
      m.conn x = some c ∨ (c.state = .Idle ∧ c.connectionId = none) := by
    intro x c hc
    by_cases heq : x = y
    . subst heq
      rw [conn_setConn_self] at hc
      cases hc
      exact .inr ⟨rfl, rfl⟩
    . rw [conn_setConn_of_ne _ _ heq] at hc
      exact .inl hc
  constructor
  . intro x c' connectionId hc' hid
    rcases hcases x c' hc' with hc' | ⟨_, hnone⟩
    . exact ⟨c', hc', hid⟩
    . rw [hnone] at hid
      cases hid
  . intro x c' hc' hup
    rcases hcases x c' hc' with hc' | ⟨hidle, _⟩
    . exact ⟨c', hc', hup, rfl⟩
    . unfold IsUp at hup
      simp [hidle] at hup

theorem kept_takeConnection (m : Manager) (y : String) : Kept m (m.takeConnection y) := by
  have hsame : ∀ x c', (m.takeConnection y).conn x = some c' → m.conn x = some c' := by
    intro x c' hc'
    by_cases heq : x = y
    . subst heq
      rw [conn_takeConnection_self] at hc'
      cases hc'
    . rwa [conn_takeConnection_of_ne _ heq] at hc'
  constructor
  . intro x c' connectionId hc' hid
    exact ⟨c', hsame x c' hc', hid⟩
  . intro x c' hc' hup
    exact ⟨c', hsame x c' hc', hup, rfl⟩

theorem Touches.kept (h : Touches powers y m m') (hlink : .link ∉ powers) (hrekey : .rekey ∉ powers)
    : Kept m m' := by
  induction h with
  | refl => apply Kept.refl
  | setConn _ hc hd ih => exact ih.trans (kept_setConn hc (hd.keptConn hlink hrekey))
  | create _ server hc ih => exact ih.trans (kept_create _ server)
  | takeConnection _ hdrop ih => exact ih.trans (kept_takeConnection _ y)
  | nextClient => contradiction
  | _ =>
    rename_i ih
    exact ih.trans (Kept.of_conn fun _ => rfl)

theorem modifyConn_of_conn {f : WifiConnection y → WifiConnection y} {c : WifiConnection y}
    (hc : m.conn y = some c)
    : m.modifyConn y f = m.setConn (f c) := by
  simp [modifyConn, hc]

theorem MayOpen.setConn {c : WifiConnection y} (hopen : .open ∈ powers)
    (hturn : .astray ∈ powers ∨ m.NoneOut y) (hup : ¬IsUp c)
    : MayOpen powers y (m.setConn c) :=
  ⟨hopen, hturn.imp_right fun hnone => ⟨no_session_of_conn (conn_setConn_self m c) hup, hnone⟩⟩

theorem releaseHold_eq (m : Manager) (id : String) (intent : ConnectIntent)
    : m.releaseHold id intent =
      { m with userDisconnected := (m.releaseHold id intent).userDisconnected } := by
  unfold releaseHold
  split
  . rfl
  . rfl

theorem endPairingRequest_eq (m : Manager) (id : String) (sentOn : Nat)
    : m.endPairingRequest id sentOn =
      { m with pairingInFlight := (m.endPairingRequest id sentOn).pairingInFlight } := by
  unfold endPairingRequest
  split
  . split
    . rfl
    . rfl
  . rfl

theorem nextReversePairingAction_eq_approve {approval : ApprovalVerdict} {elapsedMs deadlineMs : Int}
    (h : nextReversePairingAction approval elapsedMs deadlineMs = .Approve)
    : approval = .Approved := by
  cases approval with
  | Approved => rfl
  | Declined => contradiction
  | Pending | Unreachable => unfold nextReversePairingAction at h; grind

theorem reverse_endPairingRequest (m : Manager) (id : String) (sentOn : Nat)
    : (m.endPairingRequest id sentOn).reverse = m.reverse := by
  unfold endPairingRequest
  split
  . split
    . rfl
    . rfl
  . rfl

theorem requests_ensureConnection (m : Manager) (server : DiscoveredServer)
    : (m.ensureConnection server).requests = m.requests := by
  unfold ensureConnection
  split
  . rfl
  . rfl

def MayAdopt (powers : Set Power) (y : String) (m : Manager) : Prop :=
  .dial ∈ powers ∧ .open ∈ powers ∧
    (.astray ∈ powers ∨ m.NoneOut y ∧ ∀ c, m.conn y = some c → c.state ≠ .Live)

theorem MayAdopt.ensureConnection {server : DiscoveredServer} (h : MayAdopt powers server.id m)
    : .dial ∈ powers ∧ MayOpen powers server.id
        ((m.ensureConnection server).modifyConn server.id (·.markConnecting)) := by
  obtain ⟨hdial, hopen, hturn⟩ := h
  refine ⟨hdial, hopen, hturn.imp_right fun ⟨hnone, hlive⟩ => ⟨?_, ?_⟩⟩
  . rintro ⟨c', hc', hup⟩
    rw [conn_modifyConn, Option.map_eq_some_iff] at hc'
    obtain ⟨c, hc, rfl⟩ := hc'
    refine not_isUp_markConnecting ?_ hup
    unfold Manager.ensureConnection at hc
    split at hc
    . exact hlive c hc
    . cases (conn_setConn_self m _).symm.trans hc
      simp
  . unfold NoneOut
    rw [requests_modifyConn, requests_ensureConnection]
    exact hnone

theorem MayDial.ensureConnection {server : DiscoveredServer} (h : MayDial powers server.id m)
    : MayDial powers server.id (m.ensureConnection server) := by
  unfold Manager.ensureConnection
  split
  . exact h
  . next hnone =>
    obtain ⟨c, hc, _⟩ | hopen := h
    . rw [hnone] at hc
      cases hc
    . exact .inr hopen

namespace Touches

theorem modifyConn (h : Touches powers y m m') {f : WifiConnection y → WifiConnection y}
    (hf : ∀ c, Develops powers c (f c))
    : Touches powers y m (m'.modifyConn y f) := by
  unfold Manager.modifyConn
  split
  . apply h
  . next c hc => apply h.setConn hc (hf c)

theorem emitErrorIfUserInitiated (h : Touches powers y m m') (intent : ConnectIntent) (message : String)
    : Touches powers y m (m'.emitErrorIfUserInitiated intent message) := by
  unfold Manager.emitErrorIfUserInitiated
  split
  . apply h.emit
  . apply h

theorem emitAll (h : Touches powers y m m') (texts : List String)
    : Touches powers y m (texts.foldl (fun m text => m.emit (.error text)) m') := by
  induction texts generalizing m' with
  | nil => apply h
  | cons text texts ih => apply ih (h.emit _)

theorem ensureConnection (h : Touches powers y m m') (server : ServerOf y)
    : Touches powers y m (m'.ensureConnection server.1) := by
  obtain ⟨server, rfl⟩ := server
  unfold Manager.ensureConnection
  split
  . apply h
  . next hc => apply h.create ⟨server, rfl⟩ hc

theorem resetRetryCurve (h : Touches powers y m m') (id : String) : Touches powers y m (m'.resetRetryCurve id) := by
  apply h.retryCurve

theorem beginPairingRequest (h : Touches powers y m m') (id : String)
    : Touches powers y m (m'.beginPairingRequest id) := by
  apply h.flags

theorem endPairingRequest (h : Touches powers y m m') (id : String) (sentOn : Nat)
    : Touches powers y m (m'.endPairingRequest id sentOn) := by
  unfold Manager.endPairingRequest
  split
  . split
    . apply h
    . apply h.flags
  . apply h.flags

theorem reportRefusedHost (h : Touches powers y m m') (server : DiscoveredServer) (intent : ConnectIntent)
    : Touches powers y m (m'.reportRefusedHost server intent) := by
  unfold Manager.reportRefusedHost
  split
  . apply h
  . apply h.emit
  . apply h.emitErrorIfUserInitiated

theorem releaseHold (h : Touches powers y m m') (intent : ConnectIntent)
    (huser : intent = .UserInitiated → .user ∈ powers)
    : Touches powers y m (m'.releaseHold y intent) := by
  unfold Manager.releaseHold
  split
  . next hintent => apply h.release (huser hintent)
  . apply h

theorem scheduleRetry (h : Touches powers y m m') (server : ServerOf y) (intent : ConnectIntent)
    (harm : .arm ∈ powers)
    : Touches powers y m (m'.scheduleRetry server.1 intent) := by
  unfold Manager.scheduleRetry
  split
  . apply h
  . apply h.arm _ _ _ _ server.2 rfl harm

theorem onTerminalAuthFailure (h : Touches powers y m m') (intent : ConnectIntent)
    (hstore : .store ∈ powers)
    : Touches powers y m (m'.onTerminalAuthFailure y intent) := by
  apply emitErrorIfUserInitiated
  apply resetRetryCurve
  apply (h.modifyConn .markStale).setStore _ .forgetSharedKey hstore

theorem openSession (h : Touches powers y m m') (server : ServerOf y) (intent : ConnectIntent)
    (hstore : .store ∈ powers) (hopen : MayOpen powers y m')
    : Touches powers y m (m'.openSession sodium server intent) := by
  unfold Manager.openSession
  split
  . apply h
  . split
    . apply h.onTerminalAuthFailure _ hstore
    . exact h.send _ _ _ (by simp [Call.id?]) hopen

theorem pairAndConnect (h : Touches powers y m m') (server : ServerOf y) (intent : ConnectIntent)
    (hopen : MayOpen powers y m')
    : Touches powers y m (m'.pairAndConnect server intent) := by
  unfold Manager.pairAndConnect
  split
  . apply h
  . exact (h.beginPairingRequest y).send _ _ _ (by simp [Call.id?]) hopen

theorem dial (h : Touches powers y m m') (server : ServerOf y) (intent : ConnectIntent)
    (hstore : .store ∈ powers) (hdial : .dial ∈ powers) (hopen : MayDial powers y m')
    : Touches powers y m (m'.dial sodium server intent) := by
  unfold Manager.dial
  split
  . apply h
  . next c hc =>
    have hset := h.setConn hc (.updateServer c server)
    dsimp only
    split
    . apply hset
    . next hstate =>
      have hmay : MayOpen powers y
          ((m'.setConn (c.updateServer server)).modifyConn y (·.markConnecting)) := by
        rw [modifyConn_of_conn (conn_setConn_self _ _)]
        obtain ⟨c', hc', hlinking⟩ | ⟨hopen, hturn⟩ := hopen
        . cases hc.symm.trans hc'
          exact absurd (.inr hlinking) hstate
        . exact .setConn hopen hturn (not_isUp_markConnecting fun hlive => hstate (.inl hlive))
      split
      . apply (hset.modifyConn (.markConnecting · hdial)).openSession _ _ hstore hmay
      . apply (hset.modifyConn (.markConnecting · hdial)).pairAndConnect _ _ hmay

theorem connectTo (h : Touches powers y m m') (server : ServerOf y) (intent : ConnectIntent)
    (huser : intent = .UserInitiated → .user ∈ powers) (hstore : .store ∈ powers)
    (hdial : .dial ∈ powers)
    (hopen : refusesHost server.1 = false → m'.heldByUser y intent = false → MayDial powers y m')
    : Touches powers y m (m'.connectTo sodium server.1 intent) := by
  obtain ⟨server, rfl⟩ := server
  have hready := (h.releaseHold intent huser).ensureConnection ⟨server, rfl⟩
  unfold Manager.connectTo
  split
  . apply h.reportRefusedHost
  . next hhost =>
    split
    . apply h
    . next hheld =>
      have hmay : MayDial powers server.id ((m'.releaseHold server.id intent).ensureConnection
          server) := by
        apply MayDial.ensureConnection
        rw [releaseHold_eq]
        exact hopen (by simpa using hhost) (by simpa using hheld)
      dsimp only
      split
      . apply (hready.resetRetryCurve _).dial _ _ hstore hdial hmay
      . apply hready.dial _ _ hstore hdial hmay

theorem releaseSession (h : Touches powers y m m') (server : DiscoveredServer)
    {connectionId : String} (proof : String) (hrelease : MayRelease powers y m m' connectionId)
    : Touches powers y m (m'.releaseSession server connectionId proof) := by
  exact h.send _ _ _ (by simp [Call.id?]) hrelease

theorem closeSession (h : Touches powers y m m') (hclose : .close ∈ powers)
    : Touches powers y m (m'.closeSession sodium y) := by
  have hcancel := h.cancelPendingRetries
  unfold Manager.closeSession
  dsimp only
  split
  . apply hcancel
  . next c hc =>
    have hdown := hcancel.setConn hc (.markDisconnected c)
    split
    . next connectionId creds hid _ =>
      apply hdown.releaseSession
      refine ⟨hclose, .inr ?_⟩
      by_cases hlink : .link ∈ powers
      . exact .inl hlink
      . by_cases hrekey : .rekey ∈ powers
        . exact .inr (.inl hrekey)
        . refine .inr (.inr ⟨?_, (h.kept hlink hrekey).named y c connectionId hc hid⟩)
          apply no_session_of_conn (conn_setConn_self _ _)
          simp [IsUp, state_markDisconnected]
    . apply hdown

theorem startDiscovery (h : Touches powers y m m') : Touches powers y m m'.startDiscovery := by
  apply h.scanning

theorem onRetryDue (h : Touches powers y m m') (server : ServerOf y) (hstore : .store ∈ powers)
    (hdial : .dial ∈ powers) (hopen : y ∉ m'.userDisconnected → MayDial powers y m')
    : Touches powers y m (m'.onRetryDue sodium server.1) := by
  obtain ⟨server, rfl⟩ := server
  have hmay (hheld : m'.startDiscovery.heldByUser server.id .RetryAfterDeath = false) :
      MayDial powers server.id m'.startDiscovery := by
    apply hopen
    simpa [heldByUser, Manager.startDiscovery] using hheld
  unfold Manager.onRetryDue
  split
  . apply h
  . split
    . apply h
    . dsimp only
      split
      . next r hr =>
        have hid : r.toDiscovered.id = server.id := by
          rw [ConnectionStore.id_toDiscovered_of_mem (List.mem_of_find?_eq_some hr)]
          simpa using List.find?_some hr
        apply h.startDiscovery.connectTo ⟨r.toDiscovered, hid⟩ _ (by simp) hstore hdial fun _ => hmay
      . apply h.startDiscovery.connectTo ⟨server, rfl⟩ _ (by simp) hstore hdial fun _ => hmay

theorem probeHostAudio (h : Touches powers y m m') (server : DiscoveredServer)
    : Touches powers y m (m'.probeHostAudio y server) := by
  exact h.send _ _ _ (by simp [Call.id?]) trivial

theorem syncSlot (h : Touches powers y m m') (slotId : String)
    : Touches powers y m (m'.syncSlot sodium y slotId) := by
  unfold Manager.syncSlot
  split
  . apply h
  . split
    . apply h
    . split
      . exact h.send _ _ _ (by simp [Call.id?]) trivial
      . apply h

theorem deleteSlot (h : Touches powers y m m') (ctrlIdx : Nat)
    : Touches powers y m (m'.deleteSlot sodium y ctrlIdx) := by
  unfold Manager.deleteSlot
  split
  . apply h
  . split
    . exact h.send _ _ _ (by simp [Call.id?]) trivial
    . apply h

theorem startSession (h : Touches powers y m m') (server : ServerOf y) (connectionId : String)
    (resp : SessionResponse) (material : SessionMaterial) (hremember : .remember ∈ powers)
    (hlink : .link ∈ powers) (hconfirm : .confirm ∈ powers)
    : Touches powers y m (m'.startSession server connectionId resp material) := by
  apply probeHostAudio
  apply emitAll
  apply modifyConn _ (.applyResults · _ hconfirm)
  apply modifyConn _ (.markConnected · _ _ _ _ hlink)
  apply resetRetryCurve
  apply remember _ _ hremember
  apply modifyConn _ (.settle · _)
  apply h.nextClient hlink

theorem deleteSlots (h : Touches powers y m m') (removes : List UInt8)
    : Touches powers y m (removes.foldl (fun m ctrlIdx => m.deleteSlot sodium y ctrlIdx.toNat) m') := by
  induction removes generalizing m' with
  | nil => apply h
  | cons ctrlIdx removes ih => apply ih (h.deleteSlot _)

theorem syncSlots (h : Touches powers y m m') (c : WifiConnection y) (resyncs : List UInt8)
    : Touches powers y m (resyncs.foldl (fun m ctrlIdx =>
        match (c.slotIdForIndex ctrlIdx.toNat).filter (· ≠ "") with
        | some slotId => m.syncSlot sodium y slotId
        | none => m) m') := by
  induction resyncs generalizing m' with
  | nil => apply h
  | cons ctrlIdx resyncs ih =>
    rw [List.foldl_cons]
    apply ih
    split
    . apply h.syncSlot
    . apply h

theorem convergeLateSlots (h : Touches powers y m m') (sent : List DesiredSlot)
    : Touches powers y m (m'.convergeLateSlots sodium y sent) := by
  unfold Manager.convergeLateSlots
  split
  . apply h
  . apply (h.deleteSlots _).syncSlots

theorem onVersionRejected (h : Touches powers y m m') {c : WifiConnection y} (hc : m'.conn y = some c)
    (server : ServerOf y) (intent : ConnectIntent) (resp : SessionResponse) (hstore : .store ∈ powers)
    (hopen : .open ∈ powers) (hturn : .astray ∈ powers ∨ c.state = .Linking ∧ m'.NoneOut y)
    : Touches powers y m (m'.onVersionRejected sodium c server intent resp) := by
  unfold Manager.onVersionRejected
  dsimp only
  split
  . next hretry =>
    apply (h.setConn hc (.note _)).openSession _ _ hstore
    . refine ⟨hopen, hturn.imp_right fun ⟨hlinking, hnone⟩ => ⟨?_, hnone⟩⟩
      exact no_session_of_conn (conn_setConn_self _ _) (not_isUp_of_linking hlinking)
    . exact ⟨rfl, rfl, rfl, rfl, rfl, rfl, .inr (spoken_of_retryLower hretry.1)⟩
  . apply (h.setConn hc (.trans (.note _) (.markDisconnected _))).emitErrorIfUserInitiated
    exact ⟨rfl, rfl, rfl, rfl, rfl, rfl, .inl rfl⟩

theorem parkUnreachable (h : Touches powers y m m') (intent : ConnectIntent)
    : Touches powers y m (m'.parkUnreachable y intent) := by
  unfold Manager.parkUnreachable
  split
  . apply (h.modifyConn .markDisconnected).emit
  . apply h.modifyConn .markStale

theorem onSessionRefused (h : Touches powers y m m') {c : WifiConnection y} (hc : m'.conn y = some c)
    (server : ServerOf y) (intent : ConnectIntent) (verdict : RestVerdict) (resp : SessionResponse)
    (harm : .arm ∈ powers) (hstore : .store ∈ powers) (hopen : .open ∈ powers)
    (hturn : .astray ∈ powers ∨ c.state = .Linking ∧ m'.NoneOut y)
    : Touches powers y m (m'.onSessionRefused sodium c server intent verdict resp) := by
  have hpark := (h.parkUnreachable intent).scheduleRetry server intent harm
  cases verdict with
  | Unauthorized => apply h.onTerminalAuthFailure _ hstore
  | VersionMismatch => apply h.onVersionRejected hc _ _ _ hstore hopen hturn
  | IdentityChanged =>
    apply ((h.modifyConn .markDisconnected).resetRetryCurve _).emitErrorIfUserInitiated
  | _ => apply hpark

theorem handBackLateGrant (h : Touches powers y m m') (server : DiscoveredServer) (resp : SessionResponse)
    (proof : String) (hclose : .close ∈ powers) (hastray : .astray ∈ powers)
    : Touches powers y m (m'.handBackLateGrant server resp proof) := by
  unfold Manager.handBackLateGrant
  split
  . exact h.releaseSession _ _ ⟨hclose, .inl hastray⟩
  . apply h

theorem onSessionReply (h : Touches powers y m m') (sentOn : Nat) (server : ServerOf y)
    (intent : ConnectIntent) (sent : Credentials) (sentDescriptors : List DesiredSlot)
    (resp : SessionResponse) (pinMismatch linkOpens : Bool) (harm : .arm ∈ powers)
    (hstore : .store ∈ powers) (hremember : .remember ∈ powers) (hlink : .link ∈ powers)
    (hconfirm : .confirm ∈ powers) (hopen : .open ∈ powers) (hclose : .close ∈ powers)
    (hastray : .astray ∈ powers)
    : Touches powers y m (m'.onSessionReply sodium sentOn server intent sent sentDescriptors resp pinMismatch
        linkOpens) := by
  unfold Manager.onSessionReply
  split
  . apply h
  . next c hc =>
    split
    . apply h.handBackLateGrant _ _ _ hclose hastray
    . dsimp only
      split
      . split
        . apply (h.startSession _ _ _ _ hremember hlink hconfirm).convergeLateSlots
        . apply ((h.modifyConn .markDisconnected).releaseSession _ _
            ⟨hclose, .inl hastray⟩).emitErrorIfUserInitiated
      . apply h.onSessionRefused (conn_of_replyTarget hc) _ _ _ _ harm hstore hopen (.inl hastray)

theorem reconcile (h : Touches powers y m m') (server : ServerOf y)
    : Touches powers y m (m'.reconcile sodium server) := by
  unfold Manager.reconcile
  split
  . apply h
  . split
    . dsimp only
      split
      . apply h
      . split
        . apply h
        . exact (h.flags m'.pairingInFlight _).send _ _ _ (by simp [Call.id?]) trivial
    . apply h

theorem onSessionView (h : Touches powers y m m') (server : ServerOf y) (view : SessionViewDto)
    (hstore : .store ∈ powers) (hdial : .dial ∈ powers) (hopen : .open ∈ powers)
    (hturn : .astray ∈ powers ∨ (m'.HasSession y → m'.NoneOut y))
    : Touches powers y m (m'.onSessionView sodium server view) := by
  have hflag := h.flags m'.pairingInFlight (m'.reconcileInFlight.erase y)
  unfold Manager.onSessionView
  dsimp only
  split
  . apply hflag
  . next c hc =>
    split
    . apply hflag
    . next hlive =>
      split
      . apply hflag.onTerminalAuthFailure _ hstore
      . split
        . apply hflag
        . split
          . apply hflag.setConn hc (.adoptEpoch c _)
          . apply (hflag.setConn hc _).openSession _ _ hstore
            . apply MayOpen.setConn hopen
              . exact hturn.imp_right fun hnone => hnone ⟨c, hc, .inl (not_not.mp hlive)⟩
              . exact not_isUp_markConnecting (by simp [state_markDisconnected])
            . apply Develops.trans (.markDisconnected c) (.markConnecting _ hdial)

theorem rekey (h : Touches powers y m m') (server : ServerOf y) (hastray : .astray ∈ powers)
    : Touches powers y m (m'.rekey sodium server) := by
  unfold Manager.rekey
  split
  . apply h
  . split
    . exact h.send _ _ _ (by simp [Call.id?]) hastray
    . apply h

theorem adoptRekey (h : Touches powers y m m') {c : WifiConnection y} (hc : m'.conn y = some c)
    (resp : SessionResponse) (material : SessionMaterial) (hrekey : .rekey ∈ powers)
    : Touches powers y m (m'.adoptRekey c resp material) := by
  apply (h.setConn hc _).probeHostAudio
  apply Develops.trans _ (.adoptEpoch _ _)
  apply Develops.trans (.settle c _) (.setConnectionParams _ _ _ _ hrekey)

theorem onRekeyReply (h : Touches powers y m m') (serial : Nat) (pairingKey : List UInt8)
    (resp : SessionResponse) (pinMismatch : Bool) (hstore : .store ∈ powers) (hrekey : .rekey ∈ powers)
    : Touches powers y m (m'.onRekeyReply sodium y serial pairingKey resp pinMismatch) := by
  unfold Manager.onRekeyReply
  split
  . apply h
  . next c hc =>
    dsimp only
    split
    . apply h.onTerminalAuthFailure _ hstore
    . split
      . apply h
      . split
        . apply h
        . split
          . apply h
          . apply h.adoptRekey hc _ _ hrekey

theorem onControllerPut (h : Touches powers y m m') (server : ServerOf y)
    (resp : ControllerPutResponse) (hstore : .store ∈ powers) (hconfirm : .confirm ∈ powers)
    : Touches powers y m (m'.onControllerPut sodium server resp) := by
  unfold Manager.onControllerPut
  split
  . apply h
  . next c hc =>
    split
    . apply h.onTerminalAuthFailure _ hstore
    . split
      . apply h
      . next controller _ =>
        have happlied := h.setConn hc
          (.trans (.adoptEpoch c resp.epoch) (.applyResults _ [controller] hconfirm))
        dsimp only
        split
        . apply (happlied.emitAll _).reconcile
        . apply happlied.emitAll

theorem handleServerClose (h : Touches powers y m m') (server : ServerOf y) (reason : UInt8)
    (harm : .arm ∈ powers) (hstore : .store ∈ powers)
    : Touches powers y m (m'.handleServerClose server reason) := by
  unfold Manager.handleServerClose
  split
  . apply (h.modifyConn .markStale).setStore _ .forgetSharedKey hstore
  . apply h.modifyConn .markDisconnected
  . apply (h.modifyConn .markDisconnected).scheduleRetry _ _ harm

theorem maybeRequestRekey (h : Touches powers y m m') (client : Client y)
    (hrenew : counterNeedsRepush client.sendCounter = true → .astray ∈ powers)
    : Touches powers y m (m'.maybeRequestRekey sodium client) := by
  unfold Manager.maybeRequestRekey
  split
  . apply h
  . next c hc =>
    have hset (b : Bool) := h.setConn hc (.rekeyRequested c b)
    split
    . apply hset
    . next hcounter =>
      split
      . apply h
      . apply (hset _).rekey _ (hrenew (by simpa using hcounter))

theorem onAliveTick (h : Touches powers y m m') (harm : .arm ∈ powers) (hstore : .store ∈ powers)
    (hclose : .close ∈ powers)
    (hrenew : ∀ c client, m'.conn y = some c → c.client = some client →
      counterNeedsRepush client.sendCounter = true → .astray ∈ powers)
    : Touches powers y m (m'.onAliveTick sodium y) := by
  unfold Manager.onAliveTick
  split
  . apply h
  . next c hc =>
    split
    . apply h
    . next client hclient =>
      split
      . apply h.handleServerClose _ _ harm hstore
      . split
        . apply (h.closeSession hclose).scheduleRetry _ _ harm
        . apply ((h.setConn hc (.applySteadyState c _)).reconcile _).maybeRequestRekey
          exact hrenew c client hc hclient

theorem disconnect (h : Touches powers y m m') (hclose : .close ∈ powers)
    : Touches powers y m (m'.disconnect sodium y) := by
  apply h.hold.closeSession hclose

theorem attachSlot (h : Touches powers y m m') (slotId : String) (features : SlotFeatures)
    (hslot : .slot ∈ powers)
    : Touches powers y m (m'.attachSlot sodium y slotId features) := by
  unfold Manager.attachSlot
  split
  . apply h
  . next c hc =>
    have hset := h.setConn hc (.attachSlot c slotId features hslot)
    dsimp only
    split
    . apply hset.syncSlot
    . apply hset

theorem detachSlot (h : Touches powers y m m') (slotId : String) (hslot : .slot ∈ powers)
    : Touches powers y m (m'.detachSlot sodium y slotId) := by
  unfold Manager.detachSlot
  split
  . apply h
  . next c hc =>
    have hset := h.setConn hc (.detachSlot c slotId hslot)
    dsimp only
    split
    . apply hset.deleteSlot
    . apply hset

theorem pairWithPin (h : Touches powers y m m') (server : ServerOf y) (pin : String)
    (huser : .user ∈ powers) (hdial : .dial ∈ powers) (hopen : .open ∈ powers)
    (hturn : .astray ∈ powers ∨ (refusesHost server.1 = false → m'.NoneOut y))
    : Touches powers y m (m'.pairWithPin server.1 pin) := by
  obtain ⟨server, rfl⟩ := server
  have hready := ((h.releaseHold .UserInitiated fun _ => huser).ensureConnection ⟨server, rfl⟩).resetRetryCurve
    server.id
  unfold Manager.pairWithPin
  split
  . apply (h.reportRefusedHost _ _).emit
  . next hhost =>
    dsimp only
    split
    . apply hready
    . next c hc =>
      split
      . apply hready
      . next hlive =>
        have hset := hready.setConn hc
          (.trans (.updateServer c ⟨server, rfl⟩) (.markConnecting _ hdial))
        apply (hset.beginPairingRequest _).send
        . simp [Call.id?]
        . refine MayOpen.setConn hopen (hturn.imp_right fun hnone => ?_)
            (not_isUp_markConnecting (c := c.updateServer ⟨server, rfl⟩) hlive)
          unfold NoneOut
          change ∀ rid r, ((m'.releaseHold server.id _).ensureConnection server).requests[rid]? =
            some r → _
          rw [requests_ensureConnection, releaseHold_eq]
          exact hnone (by simpa using hhost)

theorem failPinPair (h : Touches powers y m m') (message reasonToken : String)
    : Touches powers y m (m'.failPinPair y message reasonToken) := by
  apply ((h.modifyConn .markDisconnected).emit _).emit

theorem adoptGrant (h : Touches powers y m m') (server : ServerOf y) (sharedKeyHex : String)
    (intent : ConnectIntent) (hstore : .store ∈ powers) (hopen : MayOpen powers y m')
    : Touches powers y m ((m'.setStore (m'.store.setSharedKey y sharedKeyHex)).openSession sodium server
        intent) := by
  exact (h.setStore _ (.setSharedKey _) hstore).openSession _ _ hstore hopen

theorem onPinPairReply (h : Touches powers y m m') (sentOn : Nat) (server : ServerOf y)
    (outcome : PairingOutcome) (hstore : .store ∈ powers)
    (hopen : MayOpen powers y m')
    : Touches powers y m (m'.onPinPairReply sodium sentOn server outcome) := by
  have hend := h.endPairingRequest y sentOn
  have hmay : MayOpen powers y (m'.endPairingRequest y sentOn) := by
    rw [endPairingRequest_eq]
    exact hopen
  unfold Manager.onPinPairReply
  dsimp only
  split
  . apply hend
  . cases outcome with
    | Success sharedKeyHex => apply hend.adoptGrant _ _ _ hstore hmay
    | IdentityChanged => apply (hend.modifyConn .markDisconnected).emit
    | _ => apply hend.failPinPair

theorem parkUnpaired (h : Touches powers y m m') (server : ServerOf y) (intent : ConnectIntent)
    : Touches powers y m (m'.parkUnpaired server intent) := by
  unfold Manager.parkUnpaired
  split
  . apply (h.modifyConn .markDisconnected).emit
  . apply h.modifyConn .markStale

theorem onConnectPairReply (h : Touches powers y m m') (sentOn : Nat) (server : ServerOf y)
    (intent : ConnectIntent) (outcome : PairingOutcome) (hstore : .store ∈ powers)
    (hopen : MayOpen powers y m')
    : Touches powers y m (m'.onConnectPairReply sodium sentOn server intent outcome) := by
  have hend := h.endPairingRequest y sentOn
  have hmay : MayOpen powers y (m'.endPairingRequest y sentOn) := by
    rw [endPairingRequest_eq]
    exact hopen
  unfold Manager.onConnectPairReply
  dsimp only
  split
  . apply hend
  . cases outcome with
    | Success sharedKeyHex => apply hend.adoptGrant _ _ _ hstore hmay
    | AuthRequired => apply hend.parkUnpaired
    | Pending => apply hend.parkUnpaired
    | VersionMismatch | IdentityChanged =>
      apply (hend.modifyConn .markDisconnected).emitErrorIfUserInitiated
    | Unreachable message => apply hend.parkUnreachable

theorem endReverse (h : Touches powers y m m') {r : Reverse}
    (hattempt : r.attempt = m'.reverse.attempt) (hphase : r.phase ≠ .AwaitingApproval)
    : Touches powers y m { m' with reverse := r } := by
  apply h.reverse r (.inl hattempt)
  exact fun hawaiting => absurd hawaiting hphase

theorem noteReverse (h : Touches powers y m m') {r : Reverse}
    (hattempt : r.attempt = m'.reverse.attempt) (hphase : r.phase = m'.reverse.phase)
    (hserver : r.server = m'.reverse.server)
    (hpoll : r.pollInFlight = m'.reverse.pollInFlight ∨ .poll ∈ powers)
    : Touches powers y m { m' with reverse := r } := by
  apply h.reverse r (.inl hattempt)
  exact fun hawaiting => Or.inr ⟨hphase.symm.trans hawaiting, hserver, hpoll⟩

theorem cancelReversePairing (h : Touches powers y m m') : Touches powers y m m'.cancelReversePairing := by
  unfold Manager.cancelReversePairing
  dsimp only
  split
  . exact h.endReverse rfl (by simp)
  . next hidle =>
    push Not at hidle
    exact h.endReverse rfl (by simp [hidle])

theorem finishReverse (h : Touches powers y m m') {terminal : ReversePairingPhase}
    (hterminal : terminal ≠ .AwaitingApproval)
    : Touches powers y m (m'.finishReverse terminal) := by
  exact h.endReverse rfl hterminal

theorem armReverseAttempt (h : Touches powers y m m') (server : ServerOf y) (raw : UInt32)
    (huser : .user ∈ powers) (hask : .ask ∈ powers)
    : Touches powers y m (m'.armReverseAttempt server.1 raw) := by
  apply h.reverse
  . exact .inr hask
  . exact fun _ => .inl ⟨huser, hask, server.2⟩

theorem requestReversePairing (h : Touches powers y m m') (server : ServerOf y) (raw : UInt32)
    (huser : .user ∈ powers) (hask : .ask ∈ powers)
    : Touches powers y m (m'.requestReversePairing server.1 raw) := by
  obtain ⟨server, rfl⟩ := server
  have hcancel := h.cancelReversePairing
  have hready := ((hcancel.releaseHold .UserInitiated fun _ => huser).ensureConnection
    ⟨server, rfl⟩).resetRetryCurve server.id
  unfold Manager.requestReversePairing
  dsimp only
  split
  . apply hcancel.reportRefusedHost
  . split
    . apply hready
    . next c hc =>
      apply send
      . apply beginPairingRequest
        have hset := hready.setConn hc (.updateServer c ⟨server, rfl⟩)
        apply hset.armReverseAttempt ⟨server, rfl⟩ _ huser hask
      . simp [Call.id?]
      . trivial

theorem adoptReverseGrant (h : Touches powers y m m') (server : ServerOf y) (sharedKeyHex : String)
    (hstore : .store ∈ powers) (hmay : MayAdopt powers y m')
    : Touches powers y m (m'.adoptReverseGrant sodium server.1 sharedKeyHex) := by
  obtain ⟨server, rfl⟩ := server
  obtain ⟨hdial, hopen⟩ := hmay.ensureConnection
  apply openSession _ _ _ hstore
  . exact hopen
  . refine endReverse ?_ rfl (by simp)
    apply setStore _ _ (.setSharedKey _) hstore
    apply modifyConn _ (.markConnecting · hdial)
    apply h.ensureConnection ⟨server, rfl⟩

theorem applyReverseOutcome (h : Touches powers y m m') (server : ServerOf y) (pair : PairResponse)
    (pinMismatch : Bool) (hstore : .store ∈ powers)
    (hmay : (∃ key, PairingOutcome.classify pair pinMismatch = .Success key) → MayAdopt powers y m')
    : Touches powers y m (m'.applyReverseOutcome sodium server.1 pair pinMismatch) := by
  unfold Manager.applyReverseOutcome
  split
  . next key hkey => apply h.adoptReverseGrant _ _ hstore (hmay ⟨key, hkey⟩)
  . exact h.noteReverse rfl rfl rfl (.inl rfl)
  all_goals
    apply (h.emit _).finishReverse
    simp

theorem onReversePairReply (h : Touches powers y m m') (sentOn : Nat) (server : ServerOf y) (pin : String)
    (pair : PairResponse) (pinMismatch : Bool) (hstore : .store ∈ powers)
    (hmay : m'.reverseAttemptIsCurrent server.1 pin = true →
      (∃ key, PairingOutcome.classify pair pinMismatch = .Success key) → MayAdopt powers y m')
    : Touches powers y m (m'.onReversePairReply sodium sentOn server pin pair pinMismatch) := by
  unfold Manager.onReversePairReply
  dsimp only
  split
  . next hcurrent =>
    apply (h.endPairingRequest y sentOn).applyReverseOutcome _ _ _ hstore
    rw [endPairingRequest_eq] at hcurrent ⊢
    exact hmay hcurrent
  . apply h.endPairingRequest

theorem pollReverseStatus (h : Touches powers y m m') (hpoll : .poll ∈ powers)
    : Touches powers y m m'.pollReverseStatus := by
  unfold Manager.pollReverseStatus
  split
  . apply h
  . apply send
    . exact h.noteReverse rfl rfl rfl (.inr hpoll)
    . simp [Call.id?]
    . exact hpoll

theorem applyReverseAction (h : Touches powers y m m') (action : ReversePairingAction)
    (status : PairResponse) (server : ServerOf y) (hstore : .store ∈ powers)
    (hmay : action = .Approve → MayAdopt powers y m')
    : Touches powers y m (m'.applyReverseAction sodium action status server.1) := by
  cases action with
  | Approve => apply h.adoptReverseGrant _ _ hstore (hmay rfl)
  | Decline => apply (h.emit _).finishReverse (by simp)
  | TimeOut => apply (h.emit _).finishReverse (by simp)
  | KeepPolling => apply h

theorem onReverseStatusReply (h : Touches powers y m m') (status : PairResponse) (pinMismatch : Bool)
    (server : ServerOf y) (hstore : .store ∈ powers) (hpoll : .poll ∈ powers)
    (hmay : m'.reverse.phase = .AwaitingApproval ∧ m'.reverse.server.id = server.1.id ∧
      pinMismatch = false ∧
      classifyApproval (approvalReplyOf status) m'.reverse.sawPending = .Approved →
      MayAdopt powers y m')
    : Touches powers y m (m'.onReverseStatusReply sodium status pinMismatch server.1) := by
  have hpolled : Touches powers y m { m' with
      reverse := { m'.reverse with pollInFlight := false } } :=
    h.noteReverse rfl rfl rfl (.inr hpoll)
  unfold Manager.onReverseStatusReply
  dsimp only
  split
  . apply hpolled
  . next hcurrent =>
    split
    . apply (hpolled.emit _).finishReverse (by simp)
    . next hpin =>
      apply applyReverseAction _ _ _ _ hstore
      . intro haction
        simp only [not_or, ne_eq, not_not] at hcurrent
        exact hmay ⟨hcurrent.1, hcurrent.2, by simpa using hpin,
          nextReversePairingAction_eq_approve haction⟩
      . exact hpolled.noteReverse rfl rfl rfl (.inl rfl)

theorem unpairSelf (h : Touches powers y m m') (hstore : .store ∈ powers)
    : Touches powers y m (m'.unpairSelf sodium y) := by
  unfold Manager.unpairSelf
  split
  . apply h
  . apply setStore _ _ (.forgetPin _) hstore
    split
    . exact h.send _ _ _ (by simp [Call.id?]) trivial
    . apply h

theorem forget (h : Touches powers y m m') (huser : .user ∈ powers) (hstore : .store ∈ powers)
    (hdrop : .drop ∈ powers) (hclose : .close ∈ powers)
    : Touches powers y m (m'.forget sodium y) := by
  apply takeConnection _ hdrop
  apply flags _ _ _
  apply releaseHold _ _ fun _ => huser
  apply resetRetryCurve
  apply setStore _ _ .forgetSatellite hstore
  apply closeSession _ hclose
  apply unpairSelf _ hstore
  split
  . apply h.cancelReversePairing
  . apply h

theorem onCapabilities (h : Touches powers y m m') (caps : CapabilitiesDto)
    : Touches powers y m (m'.onCapabilities y caps) := by
  apply h.modifyConn
  intro c
  split
  . apply Develops.refl
  . apply Develops.note
    exact ⟨rfl, rfl, rfl, rfl, rfl, rfl, .inl rfl⟩

theorem onControllerDelete (h : Touches powers y m m') (resp : ControllerPutResponse)
    : Touches powers y m (m'.onControllerDelete y resp) := by
  apply h.modifyConn
  intro c
  split
  . apply Develops.adoptEpoch
  . apply Develops.refl

theorem observe (h : Touches powers y m m') (o : Observation) : Touches powers y m (m'.observe y o) := by
  apply h.modifyConn (.observe · o)

theorem relearn (h : Touches powers y m m') (server : ServerOf y) : Touches powers y m (m'.relearn server.1) := by
  obtain ⟨server, rfl⟩ := server
  apply h.modifyConn
  intro c
  split
  . apply Develops.updateServer
  . apply Develops.refl

end Touches

def About (x : String) (m : Manager) : Event → Prop
  | .connectTo server _ | .pairWithPin server _ | .requestReversePairing server _ => server.id = x
  | .disconnect id | .forget id | .attachSlot id .. | .detachSlot id _ | .aliveTick id
  | .observe id _ => id = x
  | .scanFinished _ | .autoReconnectAll | .prepareForSleep | .resumeFromSleep => True
  | .retryDue timer => ∃ r, m.retries[timer]? = some r ∧ r.server.id = x
  | .reply rid .. => ∃ r, m.requests[rid]? = some r ∧ r.call.subject = some x
  | .startDiscovery | .cancelReversePairing | .reversePollTick | .encrypted .. | .advance _ => False

def ApprovalGranted (m : Manager) (request : Request) (result : HttpResult) : Prop :=
  match request.call with
  | .reversePair _ _ server clientPin _ =>
    m.reverseAttemptIsCurrent server.1 clientPin = true ∧
      ∃ key, PairingOutcome.classify result.pair request.pinMismatch = .Success key
  | .pairStatus server _ =>
    m.reverse.phase = .AwaitingApproval ∧ m.reverse.server.id = server.id ∧
      request.pinMismatch = false ∧
      classifyApproval (approvalReplyOf result.pair) m.reverse.sawPending = .Approved
  | _ => False

def StrayReply (m : Manager) (request : Request) (result : HttpResult) : Prop :=
  match request.call with
  | .pinPair id .. | .connectPair id .. => ¬(¬m.HasSession id ∧ m.NoneOut id)
  | .reversePair id .. => ¬(m.NoneOut id ∧ ∀ c, m.conn id = some c → c.state ≠ .Live) ∧
      ApprovalGranted m request result
  | .pairStatus server _ => ¬(m.NoneOut server.id ∧ ∀ c, m.conn server.id = some c → c.state ≠ .Live) ∧
      ApprovalGranted m request result
  | .getSession id .. => ¬(m.HasSession id → m.NoneOut id)
  | .putSession .. => True
  | _ => False

theorem onReply_touches (m : Manager) (result : HttpResult) (linkOpens : Bool)
    (hy : request.call.subject = some y) (hpowers : replyPowers request.call ⊆ powers)
    (hgrant : ApprovalGranted m request result → .dial ∈ powers ∧ .open ∈ powers)
    (hstray : m.StrayReply request result → .astray ∈ powers)
    : Touches powers y m (m.onReply sodium request result linkOpens) := by
  have h : Touches powers y m m := .refl
  have hturn {p : Prop} (hp : ¬p → .astray ∈ powers) : .astray ∈ powers ∨ p :=
    (Classical.em p).symm.imp_left hp
  unfold ApprovalGranted at hgrant
  unfold StrayReply ApprovalGranted at hstray
  unfold onReply
  dsimp only
  generalize request.call = call at *
  have hstore : .store ∈ powers := by
    apply hpowers
    cases call <;> simp [replyPowers]
  cases call with
  | pinPair =>
    cases hy
    exact h.onPinPairReply _ _ _ hstore ⟨hpowers (by simp [replyPowers]), hturn hstray⟩
  | reversePair =>
    cases hy
    refine h.onReversePairReply _ _ _ _ _ hstore fun hcurrent hkey => ?_
    obtain ⟨hdial, hopen⟩ := hgrant ⟨hcurrent, hkey⟩
    exact ⟨hdial, hopen, hturn fun hclear => hstray ⟨hclear, hcurrent, hkey⟩⟩
  | connectPair =>
    cases hy
    exact h.onConnectPairReply _ _ _ _ hstore ⟨hpowers (by simp [replyPowers]), hturn hstray⟩
  | pairStatus server =>
    cases hy
    refine h.onReverseStatusReply _ _ ⟨server, rfl⟩ hstore (hpowers (by simp [replyPowers]))
      fun hgranted => ?_
    obtain ⟨hdial, hopen⟩ := hgrant hgranted
    exact ⟨hdial, hopen, hturn fun hclear => hstray ⟨hclear, hgranted⟩⟩
  | putSession =>
    cases hy
    have hput {p : Power}
        (hp : p ∈ ({.store, .arm, .remember, .link, .confirm, .open, .close} : Set Power)) :=
      hpowers hp
    apply h.onSessionReply _ _ _ _ _ _ _ _ (hput (by simp)) hstore (hput (by simp)) (hput (by simp))
      (hput (by simp)) (hput (by simp)) (hput (by simp)) (hstray trivial)
  | rekey => cases hy; apply h.onRekeyReply _ _ _ _ hstore (hpowers (by simp [replyPowers]))
  | getSession =>
    cases hy
    exact h.onSessionView _ _ hstore (hpowers (by simp [replyPowers]))
      (hpowers (by simp [replyPowers])) (hturn hstray)
  | putController =>
    cases hy
    apply h.onControllerPut _ _ hstore (hpowers (by simp [replyPowers]))
  | deleteController => cases hy; apply h.onControllerDelete
  | deleteSession => contradiction
  | unpair => contradiction
  | getCapabilities => cases hy; apply h.onCapabilities

def MayArm (m : Manager) : Event → Prop
  | .aliveTick _ => True
  | .reply rid .. => ∃ request, m.requests[rid]? = some request ∧ request.call.isSessionPut
  | _ => False

def Answers (m : Manager) (e : Event) (p : Power) : Prop :=
  match e with
  | .reply rid .. => ∃ request, m.requests[rid]? = some request ∧ p ∈ replyPowers request.call
  | _ => False

def Approves (m : Manager) : Event → Prop
  | .reply rid result _ => ∃ request, m.requests[rid]? = some request ∧ ApprovalGranted m request result
  | _ => False

def Strays (m : Manager) : Event → Prop
  | .connectTo server intent =>
    refusesHost server = false ∧ m.heldByUser server.id intent = false ∧
      ¬(m.NoneOut server.id ∨ m.Linking server.id)
  | .pairWithPin server _ => ¬(refusesHost server = false → m.NoneOut server.id)
  | .retryDue timer =>
    ∃ r, m.retries[timer]? = some r ∧ r.server.id ∉ m.userDisconnected ∧
      ¬(m.NoneOut r.server.id ∨ m.Linking r.server.id)
  | .aliveTick id =>
    ∃ c client, m.conn id = some c ∧ c.client = some client ∧
      counterNeedsRepush client.sendCounter = true
  | .reply rid result _ =>
    ∃ request, m.requests[rid]? = some request ∧
      StrayReply { m with requests := m.requests.erase rid } request result
  | .scanFinished _ | .autoReconnectAll | .resumeFromSleep => True
  | _ => False

def Needs (m : Manager) (e : Event) : Power → Prop
  | .user => e.isUserCall
  | .arm => m.MayArm e
  | .write => e.isHandshake
  | .store => e.stores
  | .slot => e.isSlotCall
  | .drop => e.isForget
  | .ask => e.beginsAttempt
  | .poll => e.isPollTick ∨ m.Answers e .poll
  | .dial => e.dials ∨ m.Answers e .dial ∨ m.Approves e
  | .open => e.dials ∨ m.Answers e .open ∨ m.Approves e
  | .close => e.closes ∨ m.Answers e .close
  | .astray => m.Strays e
  | p => m.Answers e p

theorem needs_of_mem_replyPowers {result : HttpResult}
    {linkOpens : Bool} {p : Power} (hrequest : m.requests[rid]? = some request)
    (hp : p ∈ replyPowers request.call)
    : m.Needs (.reply rid result linkOpens) p := by
  have hanswers : m.Answers (.reply rid result linkOpens) p := ⟨request, hrequest, hp⟩
  cases p with
  | user | write | slot | drop | ask | astray =>
    cases hcall : request.call <;> simp [hcall, replyPowers] at hp
  | poll => exact .inr hanswers
  | store => exact trivial
  | dial => exact .inr (.inl hanswers)
  | «open» => exact .inr (.inl hanswers)
  | close => exact .inr hanswers
  | arm =>
    refine ⟨request, hrequest, ?_⟩
    cases hcall : request.call <;> simp_all [replyPowers, Call.isSessionPut]
  | _ => exact hanswers

def Targets (m : Manager) (y : String) : Event → Prop
  | .connectTo server _ | .pairWithPin server _ | .requestReversePairing server _ => server.id = y
  | .disconnect id | .forget id | .attachSlot id .. | .detachSlot id _ | .aliveTick id
  | .observe id _ => id = y
  | .retryDue timer => ∃ r, m.retries[timer]? = some r ∧ r.server.id = y
  | .reply rid .. => ∃ r, m.requests[rid]? = some r ∧ r.call.subject = some y
  | .startDiscovery | .cancelReversePairing | .reversePollTick => True
  | .scanFinished _ | .autoReconnectAll | .prepareForSleep | .resumeFromSleep | .encrypted ..
  | .advance _ => False

def taken (m : Manager) : Event → Manager
  | .retryDue timer => { m with retries := m.retries.erase timer }
  | .reply rid .. => { m with requests := m.requests.erase rid }
  | _ => m

theorem onReply_of_subject_eq_none (m : Manager) (result : HttpResult)
    (linkOpens : Bool) (hnone : request.call.subject = none)
    : m.onReply sodium request result linkOpens = m := by
  unfold onReply
  dsimp only
  generalize request.call = call at hnone
  cases call with
  | deleteSession => rfl
  | unpair => rfl
  | _ => contradiction

theorem Frame.of_requests {requests : TreeMap Nat Request}
    (h : ∀ (rid : Nat) (r : Request), requests[rid]? = some r →
      ∃ r₀, m.requests[rid]? = some r₀ ∧ r₀.call = r.call)
    : Frame x m { m with requests := requests } := by
  exact { Frame.refl x m with requests := fun rid r hr _ => h rid r hr }

theorem frame_erase_request (x : String) (m : Manager) (rid : Nat)
    : Frame x m { m with requests := m.requests.erase rid } := by
  apply Frame.of_requests
  intro rid' r h
  rw [TreeMap.getElem?_erase] at h
  split at h
  . contradiction
  . exact ⟨r, h, rfl⟩

theorem frame_erase_retry (x : String) (m : Manager) (timer : Nat)
    : Frame x m { m with retries := m.retries.erase timer } := by
  refine { Frame.refl x m with retries := ?_ }
  intro timer' r h _
  rw [TreeMap.getElem?_erase] at h
  split at h
  . contradiction
  . apply h

theorem frame_update_request (x : String) (m : Manager) {r : Request}
    (hrequest : m.requests[rid]? = some request) (hcall : request.call = r.call)
    : Frame x m { m with requests := m.requests.insert rid r } := by
  apply Frame.of_requests
  intro rid' r' h
  rw [TreeMap.getElem?_insert] at h
  split at h
  . next heq =>
    cases h
    rw [Std.compare_eq_iff_eq] at heq
    rw [← heq]
    exact ⟨request, hrequest, hcall⟩
  . exact ⟨r', h, rfl⟩

structure SameBooks (m m' : Manager) : Prop where
  retries : m'.retries = m.retries
  now : m'.now = m.now
  nextRequest : m'.nextRequest = m.nextRequest
  reverse : m'.reverse = m.reverse
  sharedKey : ∀ x, m'.store.sharedKey x = m.store.sharedKey x

theorem sameBooks_onEncrypted (sodium : Sodium) (m : Manager) (rid : Nat) (request : Request)
    (certDer : List UInt8)
    : SameBooks m (m.onEncrypted sodium rid request certDer) := by
  unfold onEncrypted
  split
  . exact ⟨rfl, rfl, rfl, rfl, fun _ => rfl⟩
  . dsimp only
    split
    . exact ⟨rfl, rfl, rfl, rfl, fun _ => rfl⟩
    . exact ⟨rfl, rfl, rfl, rfl, fun _ => rfl⟩
    . split
      . exact ⟨rfl, rfl, rfl, rfl, fun _ => rfl⟩
      . exact ⟨rfl, rfl, rfl, rfl, fun _ => rfl⟩

theorem frame_onEncrypted (x : String) (m : Manager)
    (certDer : List UInt8) (hrequest : m.requests[rid]? = some request)
    : Frame x m (m.onEncrypted sodium rid request certDer) := by
  have hupdate := fun (r : Request) (hr : request.call = r.call) =>
    frame_update_request x m hrequest hr
  unfold onEncrypted
  split
  . apply hupdate
    rfl
  . dsimp only
    split
    . exact { hupdate { request with phase := .sent } rfl with }
    . exact { hupdate { request with phase := .sent } rfl with }
    . split
      . apply hupdate
        rfl
      . exact { hupdate { request with phase := .sent } rfl with }

theorem frame_cancelReversePairing (x : String) (m : Manager) : Frame x m m.cancelReversePairing := by
  unfold cancelReversePairing
  dsimp only
  split
  . exact { Frame.refl x m with reverse := by simp }
  . exact { Frame.refl x m with }

theorem frame_pollReverseStatus (x : String) (m : Manager) : Frame x m m.pollReverseStatus := by
  unfold pollReverseStatus
  split
  . apply Frame.refl
  . refine { Frame.refl x m with requests := ?_ }
    intro rid r h hr
    simp only [send, TreeMap.getElem?_insert] at h
    split at h
    . cases h
      contradiction
    . exact ⟨r, h, rfl⟩

theorem step_retryDue {timer : Nat}
    : m.step sodium (.retryDue timer) = some m' ↔ ∃ r, m.retries[timer]? = some r ∧ r.dueAt ≤ m.now ∧
        m' = { m with retries := m.retries.erase timer }.onRetryDue sodium r.server := by
  unfold step
  cases hr : m.retries[timer]? with
  | none => simp [hr]
  | some r => simp [hr, eq_comm (b := m')]

theorem step_reply {result : HttpResult} {linkOpens : Bool}
    : m.step sodium (.reply rid result linkOpens) = some m' ↔
        ∃ request, m.requests[rid]? = some request ∧ (result.status ≠ 0 → request.phase = .sent) ∧
          m' = { m with requests := m.requests.erase rid }.onReply sodium request result
            linkOpens := by
  unfold step
  cases hrequest : m.requests[rid]? with
  | none => simp [hrequest]
  | some request => simp [hrequest, eq_comm (b := m')]

theorem step_encrypted {certDer : List UInt8}
    : m.step sodium (.encrypted rid certDer) = some m' ↔
        ∃ request, m.requests[rid]? = some request ∧ request.phase = .dialing ∧
          m' = m.onEncrypted sodium rid request certDer := by
  unfold step
  cases hrequest : m.requests[rid]? with
  | none => simp [hrequest]
  | some request => simp [hrequest, eq_comm (b := m')]

theorem step_scanFinished {found : List DiscoveredServer}
    : m.step sodium (.scanFinished found) = some m' ↔
        m.scanning = true ∧ m' = m.onDiscoveryFinished sodium found := by
  simp [step, eq_comm (b := m')]

theorem step_reversePollTick
    : m.step sodium .reversePollTick = some m' ↔
        m.reverse.polling = true ∧ m' = m.pollReverseStatus := by
  simp [step, eq_comm (b := m')]

theorem mayDial (hopen : .open ∈ powers)
    (hturn : ¬(m.NoneOut y ∨ m.Linking y) → .astray ∈ powers)
    : MayDial powers y m := by
  by_cases hfree : m.NoneOut y ∨ m.Linking y
  . obtain hnone | hlinking := hfree
    . exact .inr ⟨hopen, .inr hnone⟩
    . exact .inl hlinking
  . exact .inr ⟨hopen, .inl (hturn hfree)⟩

theorem touches_step (hstep : m.step sodium e = some m') (hy : m.Targets y e)
    (hneeds : ∀ p, m.Needs e p → p ∈ powers)
    : Touches powers y (m.taken e) m' := by
  have h : Touches powers y (m.taken e) (m.taken e) := .refl
  cases e with
  | connectTo server intent =>
    obtain rfl := Option.some.inj hstep
    cases hy
    apply h.connectTo ⟨server, rfl⟩ intent (hneeds .user) (hneeds .store trivial)
      (hneeds .dial (.inl trivial))
    intro hhost hheld
    exact mayDial (hneeds .open (.inl trivial)) fun hturn => hneeds .astray ⟨hhost, hheld, hturn⟩
  | pairWithPin server pin =>
    obtain rfl := Option.some.inj hstep
    cases hy
    apply h.pairWithPin ⟨server, rfl⟩ pin (hneeds .user trivial) (hneeds .dial (.inl trivial))
      (hneeds .open (.inl trivial))
    exact (Classical.em _).symm.imp_left (hneeds .astray)
  | requestReversePairing server raw =>
    obtain rfl := Option.some.inj hstep
    apply h.requestReversePairing ⟨server, hy⟩ raw (hneeds .user trivial) (hneeds .ask rfl)
  | forget id =>
    obtain rfl := Option.some.inj hstep
    cases hy
    apply h.forget (hneeds .user trivial) (hneeds .store trivial) (hneeds .drop trivial)
      (hneeds .close (.inl trivial))
  | cancelReversePairing => obtain rfl := Option.some.inj hstep; apply h.cancelReversePairing
  | disconnect id =>
    obtain rfl := Option.some.inj hstep
    cases hy
    apply h.disconnect (hneeds .close (.inl trivial))
  | attachSlot id slotId features =>
    obtain rfl := Option.some.inj hstep
    cases hy
    apply h.attachSlot slotId features (hneeds .slot trivial)
  | detachSlot id slotId =>
    obtain rfl := Option.some.inj hstep
    cases hy
    apply h.detachSlot slotId (hneeds .slot trivial)
  | startDiscovery => obtain rfl := Option.some.inj hstep; apply h.startDiscovery
  | retryDue timer =>
    obtain ⟨r, hr, _, rfl⟩ := step_retryDue.mp hstep
    obtain ⟨r', hr', hid⟩ := hy
    cases hr.symm.trans hr'
    cases hid
    apply h.onRetryDue ⟨r.server, rfl⟩ (hneeds .store trivial) (hneeds .dial (.inl trivial))
    intro hheld
    exact mayDial (m := m) (hneeds .open (.inl trivial)) fun hturn =>
      hneeds .astray ⟨r, hr, hheld, hturn⟩
  | reversePollTick =>
    obtain ⟨_, rfl⟩ := step_reversePollTick.mp hstep
    apply h.pollReverseStatus (hneeds .poll (.inl trivial))
  | aliveTick id =>
    obtain rfl := Option.some.inj hstep
    cases hy
    apply h.onAliveTick (hneeds .arm trivial) (hneeds .store trivial) (hneeds .close (.inl trivial))
    intro c client hc hclient hcounter
    exact hneeds .astray ⟨c, client, hc, hclient, hcounter⟩
  | observe id o => obtain rfl := Option.some.inj hstep; cases hy; apply h.observe
  | reply rid result linkOpens =>
    obtain ⟨request, hrequest, _, rfl⟩ := step_reply.mp hstep
    obtain ⟨request', hrequest', hsubject⟩ := hy
    cases hrequest.symm.trans hrequest'
    apply onReply_touches _ result linkOpens hsubject
    . exact fun p hp => hneeds p (needs_of_mem_replyPowers hrequest hp)
    . intro hgranted
      have happroves : m.Approves (.reply rid result linkOpens) := ⟨request, hrequest, hgranted⟩
      exact ⟨hneeds .dial (.inr (.inr happroves)), hneeds .open (.inr (.inr happroves))⟩
    . exact fun hstray => hneeds .astray ⟨request, hrequest, hstray⟩
  | _ => exact hy.elim

theorem touches_step_univ (hstep : m.step sodium e = some m') (hy : m.Targets y e)
    : Touches Set.univ y (m.taken e) m' :=
  touches_step hstep hy fun _ _ => trivial

theorem frame_step (h : m.step sodium e = some m') (habout : ¬ About x m e)
    : Frame x m m' := by
  cases e with
  | cancelReversePairing =>
    obtain rfl := Option.some.inj h
    apply frame_cancelReversePairing
  | startDiscovery | advance ms =>
    obtain rfl := Option.some.inj h
    exact { Frame.refl x m with }
  | reversePollTick =>
    obtain ⟨_, rfl⟩ := step_reversePollTick.mp h
    apply frame_pollReverseStatus
  | scanFinished | autoReconnectAll | prepareForSleep | resumeFromSleep =>
    exact absurd trivial habout
  | retryDue timer =>
    obtain ⟨r, hr, _⟩ := step_retryDue.mp h
    apply (frame_erase_retry x m timer).trans
    apply (touches_step_univ h ⟨r, hr, rfl⟩).frame
    exact fun heq => habout ⟨r, hr, heq.symm⟩
  | encrypted rid certDer =>
    obtain ⟨request, hrequest, _, rfl⟩ := step_encrypted.mp h
    apply frame_onEncrypted x m certDer hrequest
  | reply rid result linkOpens =>
    obtain ⟨request, hrequest, _, hm'⟩ := step_reply.mp h
    apply (frame_erase_request x m rid).trans
    cases hy : request.call.subject with
    | none =>
      rw [hm', onReply_of_subject_eq_none _ _ _ hy]
      apply Frame.refl
    | some y =>
      apply (touches_step_univ h ⟨request, hrequest, hy⟩).frame
      intro heq
      apply habout
      exact ⟨request, hrequest, by rw [hy, heq]⟩
  | _ => exact (touches_step_univ h rfl).frame (Ne.symm habout)

end Manager

end Wifi
