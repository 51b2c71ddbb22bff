import Dish.Manager.Lemmas.Confirmed
import Dish.Manager.Negotiation

/-!
This module contains the negotiation of the protocol version.
-/

open Std Models Reducer Net Wire Store Connection Transition

namespace Wifi

namespace Manager

variable {result : HttpResult}

variable {sodium : Sodium} {m m' : Manager} {id x y : String} {powers : Set Power}

section Offer

def OffersSpoken (m : Manager) : Prop :=
  ∀ (id : String) (c : WifiConnection id), m.conn id = some c → Spoken c.offeredProtocolVersion

theorem Develops.spoken {c c' : WifiConnection y} (h : Develops powers c c')
    (hc : Spoken c.offeredProtocolVersion)
    : Spoken c'.offeredProtocolVersion := by
  induction h with
  | note h =>
    rcases h.offered with heq | hspoken
    . rw [heq]
      exact hc
    . exact hspoken
  | markConnecting c =>
    unfold WifiConnection.markConnecting
    split
    . exact hc
    . exact hc
  | markDisconnected c =>
    unfold WifiConnection.markDisconnected
    split
    . exact hc
    . exact hc
  | markStale c =>
    unfold WifiConnection.markStale
    split
    . exact hc
    . exact hc
  | applySteadyState c client =>
    unfold WifiConnection.applySteadyState
    dsimp only
    split
    . exact hc
    . exact hc
  | observe c o => exact hc
  | markConnected c client connectionId epoch granted =>
    unfold WifiConnection.markConnected
    split
    . exact hc
    . exact hc
  | applyResults c results => exact hc
  | setConnectionParams c token sessionKey version => exact hc
  | attachSlot c slotId features =>
    unfold WifiConnection.attachSlot
    split
    . exact hc
    . exact hc
  | detachSlot c slotId =>
    unfold WifiConnection.detachSlot
    split
    . exact hc
    . exact hc
  | trans _ _ ih1 ih2 => exact ih2 (ih1 hc)

theorem OffersSpoken.setConn (h : OffersSpoken m) {c : WifiConnection y}
    (hc : Spoken c.offeredProtocolVersion)
    : OffersSpoken (m.setConn c) := by
  intro id c' hc'
  by_cases hid : id = y
  . subst hid
    rw [conn_setConn_self] at hc'
    cases hc'
    exact hc
  . rw [conn_setConn_of_ne _ _ hid] at hc'
    exact h id c' hc'

theorem OffersSpoken.of_touches (h : Touches powers y m m') (hm : OffersSpoken m)
    : OffersSpoken m' := by
  induction h with
  | refl => exact hm
  | setConn _ hc hd ih => exact ih.setConn (hd.spoken (ih _ _ hc))
  | create _ server hc ih => exact ih.setConn (by simp [Spoken, kProtocolVersion, kProtocolVersionMin])
  | @takeConnection m' _ _ ih =>
    intro id c hc
    by_cases hid : id = y
    . subst hid
      rw [conn_takeConnection_self] at hc
      cases hc
    . rw [conn_takeConnection_of_ne _ hid] at hc
      exact ih id c hc
  | _ => assumption

theorem respected_offersSpoken : Respected Set.univ fun m m' => OffersSpoken m → OffersSpoken m' where
  refl := fun _ h => h
  trans := fun h1 h2 h => h2 (h1 h)
  touches := fun h hm => .of_touches h hm
  eraseRequest := fun _ _ h => h
  eraseRetry := fun _ _ h => h
  scanned := fun _ _ h => h
  advance := fun _ _ h => h
  encrypted := by
    intro _ sodium m rid request certDer hrequest h id c hc
    rw [(frame_onEncrypted id m certDer hrequest).conn] at hc
    exact h id c hc

theorem offersSpoken_of_run {store : ConnectionStore} {deviceId deviceName : String} {es : List Event}
    (hrun : Transition.run (step sodium) (launch store deviceId deviceName) es = some m)
    : OffersSpoken m := by
  refine invariant_of_run (I := OffersSpoken) ?_ ?_ hrun
  . intro m e m' hm hstep
    exact respected_offersSpoken.step hstep (fun _ _ => trivial) hm
  . intro id c hc
    simp [launch, conn] at hc

end Offer

section Requests

theorem outstandingPut_eq_none
    : m.outstandingPut id = none ↔ ∀ (rid : Nat) (r : Request), m.requests[rid]? = some r →
        r.call.sessionPut? id = none := by
  unfold outstandingPut
  rw [List.findSome?_eq_none_iff]
  constructor
  . intro h rid r hr
    have hmem := TreeMap.mem_toList_iff_getElem?_eq_some.mpr hr
    simpa using h _ hmem
  . rintro h ⟨rid, r⟩ hmem
    have hr := TreeMap.mem_toList_iff_getElem?_eq_some.mp hmem
    simp [h rid r hr]

theorem outstandingPut_eq_some {rid : Nat} {request : Request} (body : SessionPut)
    (hrequest : m.requests[rid]? = some request) (hbody : request.call.sessionPut? id = some body)
    (honly : ∀ (rid' : Nat) (r : Request), m.requests[rid']? = some r →
      (r.call.sessionPut? id).isSome → rid' = rid)
    : m.outstandingPut id = some (rid, body) := by
  cases hput : m.outstandingPut id with
  | none =>
    rw [outstandingPut_eq_none.mp hput rid request hrequest] at hbody
    cases hbody
  | some found =>
    obtain ⟨⟨rid', r⟩, hmem, hfound⟩ := List.exists_of_findSome?_eq_some hput
    obtain ⟨body', hbody', rfl⟩ := Option.map_eq_some_iff.mp hfound
    have hr := TreeMap.mem_toList_iff_getElem?_eq_some.mp hmem
    have hrid : rid' = rid := honly rid' r hr (by simp [hbody'])
    subst hrid
    rw [hrequest] at hr
    cases hr
    rw [hbody] at hbody'
    cases hbody'
    rfl

def Quiet (id : String) (m : Manager) : Prop :=
  ∀ (rid : Nat) (r : Request), m.requests[rid]? = some r → r.call.sessionPut? id = none

theorem Quiet.send (h : Quiet id m) (host : String) (port : Int) {call : Call}
    (hcall : call.sessionPut? id = none)
    : Quiet id (m.send host port call) := by
  intro rid r hr
  simp only [Manager.send, TreeMap.getElem?_insert] at hr
  split at hr
  . cases hr
    exact hcall
  . exact h rid r hr

theorem Quiet.modifyConn (h : Quiet id m) (f : WifiConnection y → WifiConnection y)
    : Quiet id (m.modifyConn y f) := by
  unfold Manager.modifyConn
  split
  . exact h
  . exact h

theorem Quiet.foldl {α : Type} {f : Manager → α → Manager} (h : Quiet id m)
    (hf : ∀ m a, Quiet id m → Quiet id (f m a)) (l : List α)
    : Quiet id (l.foldl f m) := by
  induction l generalizing m with
  | nil => exact h
  | cons a l ih => exact ih (hf m a h)

theorem Quiet.startSession (h : Quiet id m) (server : ServerOf id) (connectionId : String)
    (resp : SessionResponse) (material : SessionMaterial)
    : Quiet id (m.startSession server connectionId resp material) := by
  unfold Manager.startSession probeHostAudio
  apply Quiet.send _ _ _ rfl
  apply Quiet.foldl
  . apply Quiet.modifyConn
    apply Quiet.modifyConn
    apply Quiet.modifyConn (m := { m with nextClient := m.nextClient + 1 })
    exact h
  . intro m text h
    exact h

theorem Quiet.convergeLateSlots (h : Quiet id m) (sent : List DesiredSlot)
    : Quiet id (m.convergeLateSlots sodium id sent) := by
  unfold Manager.convergeLateSlots
  split
  . exact h
  . dsimp only
    apply Quiet.foldl
    . apply h.foldl
      intro m ctrlIdx h
      unfold Manager.deleteSlot
      split
      . exact h
      . split
        . exact h.send _ _ rfl
        . exact h
    . intro m ctrlIdx h
      split
      . unfold Manager.syncSlot
        split
        . exact h
        . split
          . exact h
          . split
            . exact h.send _ _ rfl
            . exact h
      . exact h

end Requests

section Attempt

variable {sat : RangedSatellite sodium} {c : WifiConnection id} {server : ServerOf id}

structure Admits (sat : RangedSatellite sodium) (m : Manager) (server : ServerOf id) : Prop where
  paired : (m.credentialsFor sodium id).isSome
  known : tofuVerdict (m.store.pinnedFingerprint server.1.ip) (sha256FingerprintHex sodium sat.certDer)
    ≠ .Mismatch

structure Attempting (sat : RangedSatellite sodium) (m : Manager) (c : WifiConnection id)
    (server : ServerOf id) : Prop where
  admits : Admits sat m server
  conn : m.conn id = some c
  linking : c.state = .Linking
  out : ∃ (rid : Nat) (intent : ConnectIntent) (creds : Credentials) (sent : List DesiredSlot)
    (pin : Option String),
    m.requests[rid]? = some {
      host := server.1.ip
      port := server.1.httpPort
      call := .putSession id c.obj server intent creds sent (sessionPutOf c)
      pinAtCreation := pin } ∧
    ∀ (rid' : Nat) (r : Request), m.requests[rid']? = some r → (r.call.sessionPut? id).isSome →
      rid' = rid

theorem attempting_openSession (hadmits : Admits sat m server) (hquiet : Quiet id m)
    (hconn : m.conn id = some c) (hlinking : c.state = .Linking) (intent : ConnectIntent)
    : Attempting sat (m.openSession sodium server intent) c server := by
  obtain ⟨creds, hcreds⟩ := Option.isSome_iff_exists.mp hadmits.paired
  have hopen : m.openSession sodium server intent = m.send server.1.ip server.1.httpPort
      (.putSession id c.obj server intent creds (descriptorsToDesired c.desiredDescriptors)
        (sessionPutOf c)) := by
    simp only [openSession, hconn, hcreds]
  rw [hopen]
  refine ⟨⟨hadmits.paired, hadmits.known⟩, hconn, hlinking, m.nextRequest, intent, creds,
    descriptorsToDesired c.desiredDescriptors, m.store.pinnedFingerprint server.1.ip, ?_, ?_⟩
  . simp only [send, TreeMap.getElem?_insert_self]
  . intro rid r hr hput
    simp only [send, TreeMap.getElem?_insert] at hr
    split at hr
    . next heq => exact (Std.compare_eq_iff_eq.mp heq).symm
    . rw [hquiet rid r hr] at hput
      cases hput

theorem tofuVerdict_pin (store : ConnectionStore) (host fingerprint : String)
    : tofuVerdict ((store.pin host fingerprint).pinnedFingerprint host) fingerprint ≠ .Mismatch := by
  unfold ConnectionStore.pin ConnectionStore.pinnedFingerprint
  rw [TreeMap.getElem?_insert_self]
  by_cases hblank : fingerprint = ""
  . subst hblank
    decide
  . simp [Option.filter, hblank, tofuVerdict, equalsIgnoreCaseAscii]

theorem onEncrypted_of_known (rid : Nat) (request : Request)
    (hknown : tofuVerdict (m.store.pinnedFingerprint request.host)
      (sha256FingerprintHex sodium sat.certDer) ≠ .Mismatch)
    : ∃ store written, m.onEncrypted sodium rid request sat.certDer
        = { m with
            store, written
            requests := m.requests.insert rid { request with phase := .sent } } ∧
      store.keys = m.store.keys ∧
      tofuVerdict (store.pinnedFingerprint request.host) (sha256FingerprintHex sodium sat.certDer)
        ≠ .Mismatch := by
  unfold onEncrypted
  rw [if_neg sat.certDer_ne_nil]
  dsimp only
  split
  . exact ⟨_, _, rfl, rfl, tofuVerdict_pin _ _ _⟩
  . exact ⟨_, _, rfl, rfl, hknown⟩
  . contradiction

theorem exchange_of_attempting (h : Attempting sat m c server)
    : ∃ m₀ intent creds sent, Admits sat m₀ server ∧ Quiet id m₀ ∧ m₀.conn id = some c ∧
        m.exchange sat id = some (m₀.onSessionReply sodium c.obj server intent creds sent
          (sat.answer (sessionPutOf c)).session false true) := by
  obtain ⟨rid, intent, creds, sent, pin, hrequest, honly⟩ := h.out
  have hput := outstandingPut_eq_some (sessionPutOf c) hrequest (by simp [Call.sessionPut?]) honly
  obtain ⟨store, written, hencrypted, hkeys, hknown⟩ :=
    onEncrypted_of_known rid {
      host := server.1.ip
      port := server.1.httpPort
      call := .putSession id c.obj server intent creds sent (sessionPutOf c)
      pinAtCreation := pin } h.admits.known
  refine ⟨{ m with
    store, written, requests := (m.requests.insert rid {
      host := server.1.ip
      port := server.1.httpPort
      call := .putSession id c.obj server intent creds sent (sessionPutOf c)
      pinAtCreation := pin
      phase := .sent }).erase rid }, intent, creds, sent, ⟨?_, hknown⟩, ?_, h.conn, ?_⟩
  . have hpaired := h.admits.paired
    unfold credentialsFor ConnectionStore.sharedKey at hpaired ⊢
    rw [hkeys]
    exact hpaired
  . intro rid' r hr
    rw [TreeMap.getElem?_erase] at hr
    split at hr
    . cases hr
    . next hne =>
      rw [TreeMap.getElem?_insert, if_neg hne] at hr
      cases hcall : r.call.sessionPut? id with
      | none => rfl
      | some body =>
        exact absurd (Std.compare_eq_iff_eq.mpr (honly rid' r hr (by simp [hcall])).symm) hne
  . unfold exchange
    rw [hput]
    dsimp only
    rw [run_cons_eq_some]
    refine ⟨_, step_encrypted.mpr ⟨_, hrequest, rfl, hencrypted.symm⟩, ?_⟩
    rw [run_cons_eq_some]
    refine ⟨_, step_reply.mpr ⟨_, TreeMap.getElem?_insert_self, fun _ => rfl, rfl⟩, ?_⟩
    rfl

theorem settledVersion_of_spoken {version : Int} (h : Spoken version)
    : (settleAccepted version).settledVersion = version := by
  unfold settleAccepted
  split
  . next hcurrent => exact Int.le_antisymm hcurrent h.2
  . exact if_neg (Int.not_lt.mpr h.1)

theorem classifyRest_session (h : result.status ≠ 0)
    : classifyRest (restReplyOf result.session false)
      = classifyRest { status := result.status, bodyParsed := true } := by
  simp [HttpResult.session, h, restReplyOf, classifyRest]

theorem settledWith_onSessionReply {sentOn : Nat} (server : ServerOf id)
    (intent : ConnectIntent) (creds : Credentials) (sent : List DesiredSlot) (hquiet : Quiet id m) (hconn : m.conn id = some c)
    (hobj : c.obj = sentOn) (hlinking : c.state = .Linking)
    (hgrants : result.Grants sodium c.offeredProtocolVersion)
    (hsupports : sat.Supports c.offeredProtocolVersion) (hspoken : Spoken c.offeredProtocolVersion)
    : let m' := m.onSessionReply sodium sentOn server intent creds sent result.session false true
      Quiet id m' ∧ m'.SettledWith sat id := by
  have hok : classifyRest (restReplyOf result.session false) = .Ok := by
    have hstatus := hgrants.ok
    rw [classifyRest_session (by omega), classifyRest, if_neg (by simp), if_neg (by simp; omega)]
    rw [if_pos (by dsimp only; omega)]
  obtain ⟨connectionId, hconnectionId⟩ := Option.isSome_iff_exists.mp hgrants.connectionId
  obtain ⟨material, hmaterial⟩ := Option.isSome_iff_exists.mp (hgrants.material creds.pairingKey)
  obtain ⟨token, sessionSalt, htoken, hsalt⟩ : ∃ token sessionSalt,
      result.session.token = some token ∧ result.session.sessionSalt = some sessionSalt := by
    unfold sessionMaterialFrom at hmaterial
    split at hmaterial
    . next token sessionSalt htoken hsalt => exact ⟨token, sessionSalt, htoken, hsalt⟩
    . cases hmaterial
  have hreply : m.onSessionReply sodium sentOn server intent creds sent result.session false true
      = (m.startSession server connectionId result.session material).convergeLateSlots sodium id sent := by
    have htarget : m.replyTarget id sentOn = some c := by
      simp [replyTarget, hconn, Option.filter, hobj]
    unfold onSessionReply
    simp only [htarget, hlinking, hok, hconnectionId, htoken, hsalt, hmaterial]
    rfl
  rw [hreply]
  refine ⟨(hquiet.startSession _ _ _ _).convergeLateSlots sent, ?_⟩
  refine ⟨_, by rw [conn_convergeLateSlots, conn_startSession, hconn]; rfl, ?_⟩
  have hsettled := settledVersion_of_spoken hspoken
  rw [hgrants.version]
  simp only [WifiConnection.applyResults, WifiConnection.markConnected, WifiConnection.settle, hlinking]
  simp only [ne_eq, not_true_eq_false, if_false, hsettled]
  exact ⟨trivial, hsupports, hspoken⟩

theorem onSessionReply_of_rejected {sentOn : Nat} (intent : ConnectIntent)
    (creds : Credentials) (sent : List DesiredSlot) (hadmits : Admits sat m server)
    (hquiet : Quiet id m) (hconn : m.conn id = some c) (hobj : c.obj = sentOn)
    (hlinking : c.state = .Linking) (hstatus : result.status = 409)
    : let negotiated := settleRejected result.session.supportedProtocol result.session.supportedProtocolMin
      let m' := m.onSessionReply sodium sentOn server intent creds sent result.session false true
      if negotiated.verdict = .RetryLower ∧ negotiated.settledVersion < c.offeredProtocolVersion then
        Attempting sat m' { c with offeredProtocolVersion := negotiated.settledVersion } server
      else
        Quiet id m' := by
  have hmismatch : classifyRest (restReplyOf result.session false) = .VersionMismatch := by
    rw [classifyRest_session (by omega), hstatus]
    rfl
  have hreply : m.onSessionReply sodium sentOn server intent creds sent result.session false true
      = m.onVersionRejected sodium c server intent result.session := by
    have htarget : m.replyTarget id sentOn = some c := by
      simp [replyTarget, hconn, Option.filter, hobj]
    unfold onSessionReply
    simp only [htarget, hlinking, hmismatch]
    rfl
  rw [hreply]
  unfold onVersionRejected
  dsimp only
  split
  . apply attempting_openSession
    . exact ⟨hadmits.paired, hadmits.known⟩
    . exact hquiet
    . exact conn_setConn_self _ _
    . exact hlinking
  . unfold emitErrorIfUserInitiated
    split
    . exact hquiet
    . exact hquiet

section Range

theorem settleRejected_of_overlaps (h : sat.Overlaps)
    : settleRejected sat.supported sat.supportedMin
      = { verdict := .RetryLower, settledVersion := min sat.supported kProtocolVersion } := by
  obtain ⟨version, ⟨hmin, hmax⟩, hlow, hhigh⟩ := h
  have hpos := sat.supportedMin_pos
  have hle := sat.supported_le
  unfold settleRejected
  rw [if_neg (by omega), if_neg (by omega), if_neg (by omega)]

theorem overlaps_of_retryLower
    (h : (settleRejected sat.supported sat.supportedMin).verdict = .RetryLower)
    : sat.Overlaps := by
  have hmin : sat.supportedMin ≤ kProtocolVersion := by
    unfold settleRejected at h
    split at h
    . cases h
    . split at h
      . cases h
      . next hdish => exact Int.not_lt.mp hdish
  have hmax : kProtocolVersionMin ≤ sat.supported := Int.le_trans sat.supportedMin_pos sat.supported_le
  exact ⟨min sat.supported kProtocolVersion, ⟨le_min sat.supported_le hmin, min_le_left _ _⟩,
    le_min hmax (by decide), min_le_right _ _⟩

theorem supports_min_of_overlaps (h : sat.Overlaps)
    : sat.Supports (min sat.supported kProtocolVersion) := by
  obtain ⟨version, ⟨hmin, _⟩, _, hhigh⟩ := h
  exact ⟨le_min sat.supported_le (Int.le_trans hmin hhigh), min_le_left _ _⟩

end Range

theorem served_of_attempting (h : Attempting sat m c server) (hspoken : Spoken c.offeredProtocolVersion)
    : ∃ n m', Served sat id n m m' ∧ n ≤ 2 ∧
        (sat.Overlaps → sat.supportedMin ≤ c.offeredProtocolVersion → m'.SettledWith sat id) := by
  have haccepts : ∀ {m : Manager} {c : WifiConnection id}, Attempting sat m c server →
      Spoken c.offeredProtocolVersion → sat.Supports c.offeredProtocolVersion →
      ∃ m', Served sat id 1 m m' ∧ m'.SettledWith sat id := by
    intro m c h hspoken hsupports
    obtain ⟨m₀, intent, creds, sent, hadmits, hquiet, hconn, hexchange⟩ := exchange_of_attempting h
    obtain ⟨hquiet', hsettled⟩ := settledWith_onSessionReply server intent creds sent
      hquiet hconn rfl h.linking
      (sat.accepts (sessionPutOf c) hsupports.1 hsupports.2) hsupports hspoken
    exact ⟨_, .exchange hexchange (.done (outstandingPut_eq_none.mpr hquiet')), hsettled⟩
  by_cases hsupports : sat.Supports c.offeredProtocolVersion
  . obtain ⟨m', hserved, hsettled⟩ := haccepts h hspoken hsupports
    exact ⟨1, m', hserved, by omega, fun _ _ => hsettled⟩
  obtain ⟨m₀, intent, creds, sent, hadmits, hquiet, hconn, hexchange⟩ := exchange_of_attempting h
  obtain ⟨hstatus, hmax, hmin⟩ := sat.rejects (sessionPutOf c) hsupports
  have hrejected :=
    onSessionReply_of_rejected intent creds sent hadmits hquiet hconn rfl h.linking hstatus
  rw [hmax, hmin] at hrejected
  dsimp only at hrejected
  split at hrejected
  . next hretry =>
    have hoverlaps := overlaps_of_retryLower hretry.1
    have hspoken' := spoken_of_retryLower hretry.1
    have hsupports' : sat.Supports (settleRejected sat.supported sat.supportedMin).settledVersion := by
      rw [settleRejected_of_overlaps hoverlaps]
      exact supports_min_of_overlaps hoverlaps
    obtain ⟨m', hserved, hsettled⟩ := haccepts hrejected hspoken' hsupports'
    exact ⟨2, m', .exchange hexchange hserved, by omega, fun _ _ => hsettled⟩
  . next hretry =>
    refine ⟨1, _, .exchange hexchange (.done (outstandingPut_eq_none.mpr hrejected)), by omega, ?_⟩
    intro hoverlaps hle
    rw [settleRejected_of_overlaps hoverlaps] at hretry
    refine absurd ⟨rfl, ?_⟩ hretry
    -- an offer that is refused and not too low is too high
    have hhigh : sat.supported < c.offeredProtocolVersion :=
      Int.not_le.mp fun hmax => hsupports ⟨hle, hmax⟩
    exact Int.lt_of_le_of_lt (min_le_left _ _) hhigh

theorem exists_of_ensureConnection (m : Manager) (server : DiscoveredServer)
    : ∃ c, (m.ensureConnection server).conn server.id = some c ∧
        c.offeredProtocolVersion = m.offer server.id ∧
        (m.conn server.id = some c ∨ c.state = .Idle) := by
  unfold ensureConnection offer
  cases hconn : m.conn server.id with
  | some c => exact ⟨c, hconn, rfl, .inl rfl⟩
  | none => exact ⟨_, conn_setConn_self _ _, rfl, .inr rfl⟩

theorem attempting_dial {intent : ConnectIntent} (hadmits : Admits sat m server) (hquiet : Quiet id m)
    (hconn : m.conn id = some c) (hstate : ¬ (c.state = .Live ∨ c.state = .Linking))
    : Attempting sat (m.dial sodium server intent) (c.updateServer server).markConnecting server := by
  have hmark : (m.setConn (c.updateServer server)).modifyConn id (·.markConnecting)
      = (m.setConn (c.updateServer server)).setConn (c.updateServer server).markConnecting := by
    unfold modifyConn
    rw [conn_setConn_self]
  have hpaired : (((m.setConn (c.updateServer server)).setConn
      (c.updateServer server).markConnecting).credentialsFor sodium id).isSome := hadmits.paired
  have hlinking := state_markConnecting (c := c.updateServer server) fun h => hstate (.inl h)
  unfold dial
  simp only [hconn, hstate, if_false, hmark, hpaired, if_true]
  apply attempting_openSession
  . exact ⟨hpaired, hadmits.known⟩
  . exact hquiet
  . exact conn_setConn_self _ _
  . exact hlinking

structure SameRecords (m m' : Manager) : Prop where
  store : m'.store = m.store
  deviceId : m'.deviceId = m.deviceId
  requests : m'.requests = m.requests

theorem sameRecords_releaseHold (m : Manager) (id : String) (intent : ConnectIntent)
    : SameRecords m (m.releaseHold id intent) ∧ (m.releaseHold id intent).conn = m.conn := by
  unfold releaseHold
  split
  . exact ⟨⟨rfl, rfl, rfl⟩, rfl⟩
  . exact ⟨⟨rfl, rfl, rfl⟩, rfl⟩

theorem sameRecords_ensureConnection (m : Manager) (server : DiscoveredServer)
    : SameRecords m (m.ensureConnection server) := by
  unfold ensureConnection
  split
  . exact ⟨rfl, rfl, rfl⟩
  . exact ⟨rfl, rfl, rfl⟩

theorem Admits.of_sameRecords (h : Admits sat m server) (hsame : SameRecords m m')
    : Admits sat m' server where
  paired := by
    have hpaired := h.paired
    unfold credentialsFor at hpaired ⊢
    rw [hsame.store, hsame.deviceId]
    exact hpaired
  known := by
    rw [hsame.store]
    exact h.known

theorem Quiet.of_sameRecords (h : Quiet id m) (hsame : SameRecords m m') : Quiet id m' := by
  unfold Quiet
  rw [hsame.requests]
  exact h

theorem attempting_connectTo {server : DiscoveredServer} {intent : ConnectIntent}
    (h : m.MayAttempt sat server intent)
    : ∃ c, Attempting sat (m.connectTo sodium server intent) c (ServerOf.self server) ∧
        c.offeredProtocolVersion = m.offer server.id := by
  obtain ⟨hreleased, hsame⟩ := sameRecords_releaseHold m server.id intent
  have hensured := sameRecords_ensureConnection (m.releaseHold server.id intent) server
  obtain ⟨c, hconn, hoffer, hold⟩ := exists_of_ensureConnection (m.releaseHold server.id intent) server
  rw [hsame] at hold
  have hstate : ¬ (c.state = .Live ∨ c.state = .Linking) := by
    rcases hold with hold | hidle
    . have hdown := h.down c hold
      simp [hdown]
    . simp [hidle]
  have hadmits : Admits sat m (ServerOf.self server) := ⟨h.paired, h.known⟩
  have hadmits' := (hadmits.of_sameRecords hreleased).of_sameRecords hensured
  have hquiet : Quiet server.id m := outstandingPut_eq_none.mp h.quiet
  have hquiet' := (hquiet.of_sameRecords hreleased).of_sameRecords hensured
  refine ⟨(c.updateServer (ServerOf.self server)).markConnecting, ?_, ?_⟩
  . unfold connectTo
    rw [if_neg (by simp [h.reachable]), if_neg (by simp [h.free])]
    dsimp only
    split
    . exact attempting_dial (m := resetRetryCurve _ _) ⟨hadmits'.paired, hadmits'.known⟩ hquiet' hconn hstate
    . exact attempting_dial hadmits' hquiet' hconn hstate
  . have hmarked : (c.updateServer (ServerOf.self server)).markConnecting.offeredProtocolVersion
        = c.offeredProtocolVersion := by
      unfold WifiConnection.markConnecting
      split
      . rfl
      . rfl
    rw [hmarked, hoffer]
    unfold offer
    rw [hsame]

end Attempt

theorem attempt_settles (store : ConnectionStore) (deviceId deviceName : String) (es : List Event)
    (hrun : Transition.run (step sodium) (launch store deviceId deviceName) es = some m)
    (sat : RangedSatellite sodium) (server : DiscoveredServer) (intent : ConnectIntent)
    (hmay : m.MayAttempt sat server intent)
    : ∃ n m', Served sat server.id n (m.connectTo sodium server intent) m' ∧ n ≤ 2 ∧
        (sat.Overlaps → sat.supportedMin ≤ m.offer server.id → m'.SettledWith sat server.id) := by
  obtain ⟨c, hattempting, hoffer⟩ := attempting_connectTo hmay
  have hspoken : Spoken c.offeredProtocolVersion := by
    rw [hoffer, offer]
    cases hconn : m.conn server.id with
    | none => simp [Spoken, kProtocolVersion, kProtocolVersionMin]
    | some c => exact offersSpoken_of_run hrun server.id c hconn
  rw [← hoffer]
  exact served_of_attempting hattempting hspoken

section Upgrade

def rangeAnswer (supportedMin supported : Int) (body : SessionPut) : HttpResult :=
  if supportedMin ≤ body.protocolVersion ∧ body.protocolVersion ≤ supported then
    { status := 200
      body := .session {
        connectionId := some "c1"
        token := some "01020304"
        sessionSalt := some "0001020304050607"
        epoch := 1
        protocolVersion := body.protocolVersion } }
  else
    { status := 409
      body := .session { supportedProtocol := supported, supportedProtocolMin := supportedMin } }

def rangedOffice (supportedMin supported : Int) (hpos : 1 ≤ supportedMin) (hle : supportedMin ≤ supported)
    : RangedSatellite officeSodium where
  supportedMin := supportedMin
  supported := supported
  certDer := officeCert
  answer := rangeAnswer supportedMin supported
  supportedMin_pos := hpos
  supported_le := hle
  certDer_ne_nil := List.cons_ne_nil _ _
  accepts := by
    intro body hmin hmax
    rw [rangeAnswer, if_pos ⟨hmin, hmax⟩]
    exact ⟨by simp, rfl, fun _ => rfl, rfl⟩
  rejects := by
    intro body hout
    rw [rangeAnswer, if_neg hout]
    exact ⟨rfl, rfl, rfl⟩

def oldOffice : RangedSatellite officeSodium :=
  rangedOffice 1 1 (by decide) (by decide)

def oldOfficeRun : List Event :=
  [.connectTo officePc .UserInitiated, .encrypted 0 officeCert,
    .reply 0 (oldOffice.answer { controllers := [], mouseControl := false, protocolVersion := 3 }) true,
    .encrypted 1 officeCert,
    .reply 1 (oldOffice.answer { controllers := [], mouseControl := false, protocolVersion := 1 }) true,
    .disconnect officePc.id]

theorem attempt_settles_office
    : ∃ m n m', Transition.run (step officeSodium) officeLaunch oldOfficeRun = some m ∧
        let sat := rangedOffice 1 2 (by decide) (by decide)
        m.MayAttempt sat officePc .UserInitiated ∧ sat.supportedMin ≤ m.offer officePc.id ∧
        Served sat officePc.id n (m.connectTo officeSodium officePc .UserInitiated) m' ∧
        m'.SettledWith sat officePc.id := by
  have hany : (Transition.run (step officeSodium) officeLaunch oldOfficeRun).any (fun m =>
      m.MayAttempt (rangedOffice 1 2 (by decide) (by decide)) officePc .UserInitiated ∧
        1 ≤ m.offer officePc.id) = true := by decide +kernel
  obtain ⟨m, hrun, hm⟩ := exists_run_of_any hany
  obtain ⟨hmay, hoffer⟩ := of_decide_eq_true hm
  obtain ⟨n, m', hserved, _, hsettled⟩ := attempt_settles _ _ _ oldOfficeRun hrun _ officePc _ hmay
  have hoverlaps : (rangedOffice 1 2 (by decide) (by decide)).Overlaps :=
    ⟨1, ⟨by decide, by decide⟩, by decide, by decide⟩
  exact ⟨m, n, m', hrun, hmay, hoffer, hserved, hsettled hoverlaps hoffer⟩

theorem lowered_offer_refused
    : ∃ m m', Transition.run (step officeSodium) officeLaunch oldOfficeRun = some m ∧
        let sat := rangedOffice 2 3 (by decide) (by decide)
        m.MayAttempt sat officePc .UserInitiated ∧ sat.Overlaps ∧
        Served sat officePc.id 1 (m.connectTo officeSodium officePc .UserInitiated) m' ∧
        ¬ m'.SettledWith sat officePc.id := by
  have hany : (Transition.run (step officeSodium) officeLaunch oldOfficeRun).any (fun m =>
      m.MayAttempt (rangedOffice 2 3 (by decide) (by decide)) officePc .UserInitiated ∧
        ((m.connectTo officeSodium officePc .UserInitiated).exchange
          (rangedOffice 2 3 (by decide) (by decide)) officePc.id).any (fun m' =>
            m'.outstandingPut officePc.id = none ∧ m'.stateOf officePc.id = some .Idle) = true) = true := by
    decide +kernel
  obtain ⟨m, hrun, hm⟩ := exists_run_of_any hany
  obtain ⟨hmay, hexchanged⟩ := of_decide_eq_true hm
  obtain ⟨m', hexchange, hm'⟩ := (Option.any_eq_true _ _).mp hexchanged
  obtain ⟨hover, hidle⟩ := of_decide_eq_true hm'
  refine ⟨m, m', hrun, hmay, ⟨2, ⟨by decide, by decide⟩, by decide, by decide⟩,
    .exchange hexchange (.done hover), ?_⟩
  rintro ⟨c, hconn, hlive, _⟩
  obtain ⟨c', hconn', hidle'⟩ := exists_of_stateOf hidle
  rw [hconn] at hconn'
  cases hconn'
  rw [hlive] at hidle'
  cases hidle'

end Upgrade

end Manager

end Wifi
