import Dish.Manager.Lemmas.Background

/-!
This module contains the effect of the background triggers on a session that is up.
-/

open Std Models Reducer Wire Store Connection Transition

namespace Wifi

def Event.isBackground : Event → Bool
  | .autoReconnectAll | .scanFinished _ | .retryDue _ | .resumeFromSleep => true
  | _ => false

def Call.isSessionPutFor (x : String) : Call → Bool
  | .putSession id .. | .rekey id .. => id = x
  | _ => false

namespace Manager

variable {sodium : Sodium} {m m' : Manager} {x : String}

structure Undisturbed (c : WifiConnection x) (m m' : Manager) : Prop where
  session : ∃ c', m'.conn x = some c' ∧ c'.state = c.state ∧ c'.client = c.client ∧
    c'.connectionId = c.connectionId
  noPut : ∀ (rid : Nat) (r : Request), m'.requests[rid]? = some r → r.call.isSessionPutFor x →
    ∃ r₀, m.requests[rid]? = some r₀ ∧ r₀.call = r.call

theorem id?_of_isSessionPutFor {call : Call} (h : call.isSessionPutFor x) : call.id? = some x := by
  cases call <;> simp_all [Call.isSessionPutFor, Call.id?]

theorem Undisturbed.of_frame {c : WifiConnection x} (hc : m.conn x = some c) (h : Frame x m m')
    : Undisturbed c m m' where
  session := ⟨c, by rw [h.conn, hc], rfl, rfl, rfl⟩
  noPut := fun rid r hr hput => h.requests rid r hr (id?_of_isSessionPutFor hput)

theorem reconnect_undisturbed (sodium : Sodium) {c : WifiConnection x} {r : RememberedWifi} (hr : r.id = x)
    (hid : r.toDiscovered.id = x) (hc : m.conn x = some c)
    (hup : c.state = .Live ∨ c.state = .Faltering)
    : (c.state = .Faltering ∧ x ∉ m.userDisconnected ∧ refusesHost r.toDiscovered = false ∧
          ∃ c', (m.reconnect sodium r).conn x = some c' ∧ c'.state = .Linking) ∨
        (¬ (c.state = .Faltering ∧ x ∉ m.userDisconnected ∧ refusesHost r.toDiscovered = false) ∧
          Frame x m (m.reconnect sodium r)) := by
  rw [reconnect_of_conn hr hc]
  obtain hlive | hfaltering := hup
  . right
    simp [hlive, Frame.refl]
  . simp only [hfaltering, reduceCtorEq, if_false, true_and]
    by_cases hguard : refusesHost r.toDiscovered = true ∨ r.toDiscovered.id ∈ m.userDisconnected
    . right
      refine ⟨?_, frame_connectTo_guarded x m (by simp) hguard⟩
      rw [hid] at hguard
      rintro ⟨hheld, hhost⟩
      simp [hheld, hhost] at hguard
    . left
      rw [hid] at hguard
      simp only [not_or, Bool.not_eq_true] at hguard
      refine ⟨hguard.2, hguard.1, ?_⟩
      have hdial : m.connectTo sodium r.toDiscovered .AutoReconnect =
          m.dial sodium (⟨r.toDiscovered, hid⟩ : ServerOf x) .AutoReconnect :=
        connectTo_background ⟨r.toDiscovered, hid⟩ hc (by simp) hguard.1 hguard.2
      rw [hdial, conn_dial hc (by simp [hfaltering])]
      refine ⟨_, rfl, state_markConnecting ?_⟩
      simp [WifiConnection.updateServer, hfaltering]

theorem autoReconnectAll_undisturbed {c : WifiConnection x} (hc : m.conn x = some c)
    (hup : c.state = .Live ∨ c.state = .Faltering)
    : Undisturbed c m (m.autoReconnectAll sodium) ↔
        ¬ (c.state = .Faltering ∧ Redials m m.store.remembered x) := by
  obtain ⟨hrows, hframe⟩ | ⟨r, hr, hx, m₁, h₁, h₂⟩ := autoReconnectAll_cases sodium m x
  . have hnot : ¬ Redials m m.store.remembered x := fun ⟨_, r, hr, hx, _⟩ => hrows r hr hx
    simp [hnot, Undisturbed.of_frame hc hframe]
  . have hid : r.toDiscovered.id = x := (ConnectionStore.id_toDiscovered_of_mem hr).trans hx
    have hredials : Redials m m.store.remembered x ↔
        x ∉ m.userDisconnected ∧ refusesHost r.toDiscovered = false := by
      constructor
      . rintro ⟨hheld, r', hr', hx', hhost⟩
        rw [eq_of_mem_remembered hr' hr (hx'.trans hx.symm)] at hhost
        exact ⟨hheld, hhost⟩
      . rintro ⟨hheld, hhost⟩
        exact ⟨hheld, r, hr, hx, hhost⟩
    have hc₁ : m₁.conn x = some c := h₁.conn.trans hc
    rw [hredials, ← h₁.held]
    obtain ⟨hfaltering, hheld, hhost, c', hconn, hlinking⟩ | ⟨hnot, hframe⟩ :=
      reconnect_undisturbed sodium hx hid hc₁ hup
    . simp only [hfaltering, hheld, hhost, not_false_eq_true, and_self, not_true_eq_false, iff_false]
      rintro ⟨⟨c'', hc'', hstate, _⟩, _⟩
      rw [h₂.conn, hconn] at hc''
      cases hc''
      rw [hfaltering, hlinking] at hstate
      contradiction
    . simp only [hnot, not_false_eq_true, iff_true]
      exact Undisturbed.of_frame hc (h₁.trans (hframe.trans h₂))

theorem Undisturbed.of_frame_left {m₁ : Manager} {c : WifiConnection x} (h₁ : Frame x m m₁)
    (h : Undisturbed c m₁ m')
    : Undisturbed c m m' where
  session := h.session
  noPut := by
    intro rid r hr hput
    obtain ⟨r₁, hr₁, hcall₁⟩ := h.noPut rid r hr hput
    obtain ⟨r₀, hr₀, hcall₀⟩ := h₁.requests rid r₁ hr₁ (hcall₁ ▸ id?_of_isSessionPutFor hput)
    exact ⟨r₀, hr₀, hcall₀.trans hcall₁⟩

theorem undisturbed_after {m₁ : Manager} {c : WifiConnection x} (h₁ : Frame x m m₁)
    (hrequests : m₁.requests = m.requests) (hc : m.conn x = some c)
    (hup : c.state = .Live ∨ c.state = .Faltering)
    : Undisturbed c m (m₁.autoReconnectAll sodium) ↔
        ¬ (c.state = .Faltering ∧ Redials m m₁.store.remembered x) := by
  have hc₁ : m₁.conn x = some c := h₁.conn.trans hc
  have hredials : Redials m m₁.store.remembered x ↔ Redials m₁ m₁.store.remembered x := by
    simp only [Redials, h₁.held]
  rw [hredials, ← autoReconnectAll_undisturbed hc₁ hup]
  constructor
  . intro h
    exact { session := h.session, noPut := by rw [hrequests]; apply h.noPut }
  . apply Undisturbed.of_frame_left h₁

theorem background_undisturbed {e : Event} {c : WifiConnection x} (he : e.isBackground)
    (hstep : m.step sodium e = some m') (hc : m.conn x = some c)
    (hup : c.state = .Live ∨ c.state = .Faltering)
    : Undisturbed c m m' ↔ ¬ (c.state = .Faltering ∧ Redials m (m.reconnectRows e) x) := by
  have hnotdown : c.state ≠ .Idle ∧ c.state ≠ .Stale := by
    obtain h | h := hup <;> simp [h]
  cases e with
  | autoReconnectAll =>
    cases hstep
    apply autoReconnectAll_undisturbed hc hup
  | resumeFromSleep =>
    cases hstep
    apply undisturbed_after (frame_resumed x m) rfl hc hup
  | scanFinished found =>
    obtain ⟨_, rfl⟩ := step_scanFinished.mp hstep
    have hlearned : Frame x m (m.learned found) := by
      apply frame_learned
      intro c' hc'
      rw [hc] at hc'
      cases hc'
      apply hnotdown
    rw [onDiscoveryFinished_eq, reconnectRows, ← store_learned]
    apply undisturbed_after hlearned (learned_fields m found).2.2.1 hc hup
  | retryDue timer =>
    have hframe : Frame x m m' := by
      by_cases habout : About x m (.retryDue timer)
      . obtain ⟨r, hr, _, rfl⟩ := step_retryDue.mp hstep
        obtain ⟨r', hr', hx⟩ := habout
        rw [hr] at hr'
        cases hr'
        subst hx
        have hconn : { m with retries := m.retries.erase timer }.conn r.server.id = some c := hc
        simp only [onRetryDue, hconn, hnotdown, ne_eq, not_false_eq_true, and_self, if_true]
        apply frame_erase_retry
      . apply frame_step hstep habout
    simp [Undisturbed.of_frame hc hframe, reconnectRows, Redials]
  | _ => contradiction

def officePc : DiscoveredServer where
  name := "Office PC"
  ip := "192.168.1.20"
  machineId := "5f0c"

def officeKey : String := "00112233445566778899aabbccddeeff00112233445566778899aabbccddeeff"

def officeNewKey : String := "ffeeddccbbaa99887766554433221100ffeeddccbbaa99887766554433221100"

def officeStore : ConnectionStore :=
  (ConnectionStore.empty.rememberSatellite officePc).setSharedKey officePc.id officeKey

def officeLaunch : Manager :=
  launch officeStore "0f1e2d3c4b5a69788796a5b4c3d2e1f0" "dish"

def officeCert : List UInt8 := [0x30, 0x03, 0x02, 0x01, 0x05]
def otherCert : List UInt8 := [0x30, 0x03, 0x02, 0x01, 0x06]

def officeSodium : Sodium where
  hmacSha256 key _ :=
    let table := [
      -- the proofs of the pairing keys
      (officeKey, "a03f4c43320ee375b45947842ede01496731e3cc9f28439b8d7f3bef5829ebc3"),
      (officeNewKey, "dede1cfdcbf664ed9d0530f801d8acf1b38b2cf9a0296b45efc629ed540e2bbf"),
      -- the two stages of a session key
      ("0001020304050607", "bb6bf6673c4428c50684a2556b1a72126c1c2e8d6780b257f4cf30bcd77f3178"),
      ("bb6bf6673c4428c50684a2556b1a72126c1c2e8d6780b257f4cf30bcd77f3178",
        "89976b407c360202b60877981ea466d461fc1ab86b323d2b5db84795cfd2c6a5"),
      ("08090a0b0c0d0e0f", "5765f4bd3a9fbc942b3916f8377568edd8a2dcbf8a986100caf7f616547de4e5"),
      ("5765f4bd3a9fbc942b3916f8377568edd8a2dcbf8a986100caf7f616547de4e5",
        "e8a71be84f97dba49293acb8b3b092ae5177774442b5bbe3393fd6620d302d0e")]
    ((table.lookup (toHex key)).bind fromHex).getD []
  sha256 bytes :=
    let digest :=
      if bytes = officeCert then
        "417c7763c4e320a6b747b3cb0c6d22f93741b29a32b48594b8eb4c144fe6d729"
      else if bytes = otherCert then
        "40327049240ad845d67940fef455fe54304b8dea2e22fe9749c5a8c999af29d5"
      else
        ""
    (fromHex digest).getD []
  aeadDecrypt _ _ _ _ := none

def grantOf (token sessionSalt : String) : HttpResult where
  status := 200
  body := .session {
    connectionId := some "c1"
    token := some token
    sessionSalt := some sessionSalt
    epoch := 1
    protocolVersion := 3
  }

def officeGrant : HttpResult :=
  grantOf "01020304" "0001020304050607"

def falteringRun : List Event :=
  [.connectTo officePc .UserInitiated, .encrypted 0 officeCert, .reply 0 officeGrant true,
    .observe officePc.id { missedAcks := 2 }, .aliveTick officePc.id]

def stateOf (m : Manager) (id : String) : Option SessionState :=
  (m.conn id).map (·.state)

theorem exists_of_stateOf {state : SessionState} (h : m.stateOf x = some state)
    : ∃ c, m.conn x = some c ∧ c.state = state := by
  simpa [stateOf] using h

theorem exists_of_run_stateOf {m₀ : Manager} {es : List Event} {state : SessionState}
    (h : (Transition.run (step sodium) m₀ es).map (·.stateOf x) = some (some state))
    : ∃ m c, Transition.run (step sodium) m₀ es = some m ∧ m.conn x = some c ∧ c.state = state := by
  obtain ⟨m, hm, hstate⟩ := Option.map_eq_some_iff.mp h
  obtain ⟨c, hc, hstate⟩ := exists_of_stateOf hstate
  exact ⟨m, c, hm, hc, hstate⟩

theorem faltering_session_redialled
    : ∃ (m m' : Manager) (c : WifiConnection officePc.id),
        Transition.run (step officeSodium) officeLaunch falteringRun = some m ∧
        m.step officeSodium .autoReconnectAll = some m' ∧
        m.conn officePc.id = some c ∧ c.state = .Faltering ∧ ¬ Undisturbed c m m' := by
  obtain ⟨m, c, hrun, hc, hstate⟩ : ∃ (m : Manager) (c : WifiConnection officePc.id),
      Transition.run (step officeSodium) officeLaunch falteringRun = some m ∧
        m.conn officePc.id = some c ∧ c.state = .Faltering :=
    exists_of_run_stateOf (by decide)
  obtain ⟨m', c', hrun', hc', hstate'⟩ : ∃ (m' : Manager) (c' : WifiConnection officePc.id),
      Transition.run (step officeSodium) officeLaunch (falteringRun ++ [.autoReconnectAll]) = some m' ∧
        m'.conn officePc.id = some c' ∧ c'.state = .Linking :=
    exists_of_run_stateOf (by decide)
  rw [run_append_of_run hrun, run_cons_eq_some] at hrun'
  obtain ⟨m'', hstep, hnil⟩ := hrun'
  cases hnil
  refine ⟨m, m', c, hrun, hstep, hc, hstate, ?_⟩
  rintro ⟨⟨c'', hc'', hsame, _⟩, _⟩
  rw [hc'] at hc''
  cases hc''
  rw [hstate', hstate] at hsame
  contradiction

theorem background_undisturbed_live
    : ∃ (m m' : Manager) (c : WifiConnection officePc.id),
        Transition.run (step officeSodium) officeLaunch (falteringRun.take 3) = some m ∧
        m.step officeSodium .autoReconnectAll = some m' ∧
        m.conn officePc.id = some c ∧ c.state = .Live ∧ Undisturbed c m m' := by
  obtain ⟨m, c, hrun, hc, hstate⟩ : ∃ (m : Manager) (c : WifiConnection officePc.id),
      Transition.run (step officeSodium) officeLaunch (falteringRun.take 3) = some m ∧
        m.conn officePc.id = some c ∧ c.state = .Live :=
    exists_of_run_stateOf (by decide)
  have hstep : m.step officeSodium .autoReconnectAll = some (m.autoReconnectAll officeSodium) := rfl
  refine ⟨m, _, c, hrun, hstep, hc, hstate, ?_⟩
  apply (background_undisturbed (e := .autoReconnectAll) rfl hstep hc (Or.inl hstate)).mpr
  simp [hstate]

end Manager

end Wifi
