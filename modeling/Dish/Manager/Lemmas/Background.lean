import Dish.Manager.Lemmas.Touches

/-!
This module contains what the background triggers do to one satellite.
-/

open Std Models Reducer Wire Store Connection

namespace Wifi

namespace Manager

variable {intent : ConnectIntent} {r : RememberedWifi}

variable {sodium : Sodium} {m m' : Manager} {x : String}

theorem Frame.foldl {f : Manager → α → Manager} {l : List α} (h : ∀ m, ∀ a ∈ l, Frame x m (f m a))
    (m : Manager)
    : Frame x m (l.foldl f m) := by
  induction l generalizing m with
  | nil => apply Frame.refl
  | cons a l ih =>
    rw [List.foldl_cons]
    apply (h m a (by simp)).trans
    apply ih
    intro m a ha
    apply h m a (by simp [ha])

theorem Frame.foldl_cases {f : Manager → α → Manager} {key : α → String} {l : List α}
    (hf : ∀ m, ∀ a ∈ l, key a ≠ x → Frame x m (f m a)) (hl : (l.map key).Nodup) (m : Manager)
    : ((∀ a ∈ l, key a ≠ x) ∧ Frame x m (l.foldl f m)) ∨
        ∃ a ∈ l, key a = x ∧ ∃ before after, l = before ++ a :: after ∧
          Frame x m (before.foldl f m) ∧
          Frame x (f (before.foldl f m) a) (l.foldl f m) := by
  by_cases hx : ∃ a ∈ l, key a = x
  . obtain ⟨a, ha, hkey⟩ := hx
    obtain ⟨before, after, rfl⟩ := List.append_of_mem ha
    rw [List.map_append, List.map_cons, List.nodup_append, List.nodup_cons] at hl
    refine Or.inr ⟨a, ha, hkey, before, after, rfl, ?_, ?_⟩
    . apply Frame.foldl
      intro m b hb
      apply hf m b (by simp [hb])
      rw [← hkey]
      exact hl.2.2 (key b) (List.mem_map_of_mem hb) (key a) (by simp)
    . rw [List.foldl_append, List.foldl_cons]
      apply Frame.foldl
      intro m b hb
      apply hf m b (by simp [hb])
      rw [← hkey]
      intro heq
      apply hl.2.1.1
      rw [← heq]
      exact List.mem_map_of_mem hb
  . refine Or.inl ⟨fun a ha hkey => hx ⟨a, ha, hkey⟩, ?_⟩
    apply Frame.foldl
    intro m a ha
    apply hf m a ha
    exact fun hkey => hx ⟨a, ha, hkey⟩

theorem nodup_remembered (store : ConnectionStore) : (store.remembered.map (·.id)).Nodup := by
  have hids : store.remembered.map (·.id) = store.satellites.toList.map (·.1) := by
    unfold ConnectionStore.remembered
    rw [List.map_map]
    apply List.map_congr_left
    intro entry hentry
    rw [TreeMap.mem_toList_iff_getElem?_eq_some] at hentry
    apply (store.filed _ _ hentry).1
  rw [hids, List.Nodup, List.pairwise_map]
  apply store.satellites.distinct_keys_toList.imp
  intro a b h
  simpa using h

theorem frame_reconnect (hr : r.toDiscovered.id = r.id) (hx : r.id ≠ x)
    : Frame x m (m.reconnect sodium r) := by
  have hconnect : Frame x m (m.connectTo sodium r.toDiscovered .AutoReconnect) := by
    apply ((Touches.start Set.univ r.id m).connectTo ⟨r.toDiscovered, hr⟩ .AutoReconnect (by simp)
      trivial trivial fun _ _ => .inr ⟨trivial, .inl trivial⟩).frame
    exact fun heq => hx heq.symm
  unfold reconnect
  split
  . apply hconnect
  . split
    . apply Frame.refl
    . apply hconnect

theorem autoReconnectAll_cases (sodium : Sodium) (m : Manager) (x : String)
    : ((∀ r ∈ m.store.remembered, r.id ≠ x) ∧ Frame x m (m.autoReconnectAll sodium)) ∨
        ∃ r ∈ m.store.remembered, r.id = x ∧ ∃ m₁, Frame x m m₁ ∧
          Frame x (m₁.reconnect sodium r) (m.autoReconnectAll sodium) := by
  have hframe : ∀ (m' : Manager), ∀ r ∈ m.store.remembered, r.id ≠ x →
      Frame x m' (m'.reconnect sodium r) := by
    intro m' r hr hx
    apply frame_reconnect (ConnectionStore.id_toDiscovered_of_mem hr) hx
  obtain h | ⟨r, hr, hx, before, after, _, h1, h2⟩ :=
    Frame.foldl_cases hframe (nodup_remembered m.store) m
  . apply Or.inl h
  . apply Or.inr ⟨r, hr, hx, _, h1, h2⟩

theorem reconnect_of_conn (hr : r.id = x) {c : WifiConnection x} (hc : m.conn x = some c)
    : m.reconnect sodium r =
        if c.state = .Live then m else m.connectTo sodium r.toDiscovered .AutoReconnect := by
  subst hr
  simp [reconnect, hc]

theorem ensureConnection_of_conn {server : ServerOf x} {c : WifiConnection x}
    (hc : m.conn x = some c)
    : m.ensureConnection server.1 = m := by
  obtain ⟨server, rfl⟩ := server
  simp [ensureConnection, hc]

theorem connectTo_background (server : ServerOf x) {c : WifiConnection x}
    (hc : m.conn x = some c) (hintent : intent ≠ .UserInitiated)
    (hhost : refusesHost server.1 = false) (hheld : x ∉ m.userDisconnected)
    : m.connectTo sodium server.1 intent = m.dial sodium server intent := by
  have hensure : m.ensureConnection server.1 = m := ensureConnection_of_conn hc
  obtain ⟨server, rfl⟩ := server
  dsimp only at hhost hensure ⊢
  simp [connectTo, hhost, heldByUser, hheld, releaseHold, hintent, hensure]

theorem connectTo_held {server : DiscoveredServer}
    (hintent : intent ≠ .UserInitiated) (hhost : refusesHost server = false)
    (hheld : server.id ∈ m.userDisconnected)
    : m.connectTo sodium server intent = m := by
  simp [connectTo, hhost, heldByUser, hheld, hintent]

theorem frame_emitErrorIfUserInitiated (x : String) (m : Manager) (intent : ConnectIntent)
    (message : String)
    : Frame x m (m.emitErrorIfUserInitiated intent message) := by
  unfold emitErrorIfUserInitiated
  split
  . exact { Frame.refl x m with }
  . apply Frame.refl

theorem frame_reportRefusedHost (x : String) (m : Manager) (server : DiscoveredServer)
    (intent : ConnectIntent)
    : Frame x m (m.reportRefusedHost server intent) := by
  unfold reportRefusedHost
  split
  . apply Frame.refl
  . exact { Frame.refl x m with }
  . apply frame_emitErrorIfUserInitiated

theorem frame_connectTo_guarded (x : String) (m : Manager) {server : DiscoveredServer} (hintent : intent ≠ .UserInitiated)
    (hguard : refusesHost server = true ∨ server.id ∈ m.userDisconnected)
    : Frame x m (m.connectTo sodium server intent) := by
  cases hhost : refusesHost server with
  | true =>
    simp only [connectTo, hhost, if_true]
    apply frame_reportRefusedHost
  | false =>
    rw [connectTo_held hintent hhost (hguard.resolve_left (by simp [hhost]))]
    apply Frame.refl

@[simp]
theorem conn_send (m : Manager) (host : String) (port : Int) (call : Call) (x : String)
    : (m.send host port call).conn x = m.conn x := by
  rfl

theorem conn_openSession {server : ServerOf x} (hcreds : (m.credentialsFor sodium x).isSome)
    : (m.openSession sodium server intent).conn x = m.conn x := by
  obtain ⟨creds, hcreds⟩ := Option.isSome_iff_exists.mp hcreds
  unfold openSession
  split
  . rfl
  . simp [hcreds]

theorem conn_pairAndConnect (m : Manager) (server : ServerOf x) (intent : ConnectIntent)
    : (m.pairAndConnect server intent).conn x = m.conn x := by
  unfold pairAndConnect
  split
  . rfl
  . rfl

theorem conn_dial {server : ServerOf x} {c : WifiConnection x}
    (hc : m.conn x = some c) (hstate : ¬ (c.state = .Live ∨ c.state = .Linking))
    : (m.dial sodium server intent).conn x = some (c.updateServer server).markConnecting := by
  have hset : ((m.setConn (c.updateServer server)).modifyConn x (·.markConnecting)).conn x =
      some (c.updateServer server).markConnecting := by
    rw [conn_modifyConn]
    simp
  unfold dial
  simp only [hc, hstate, if_false]
  split
  . next hcreds => rw [conn_openSession hcreds, hset]
  . rw [conn_pairAndConnect, hset]

theorem relearn_eq (m : Manager) (server : DiscoveredServer)
    : m.relearn server = { m with connections := (m.relearn server).connections } := by
  unfold relearn modifyConn
  split
  . rfl
  . rfl

theorem conn_relearn (m : Manager) (server : DiscoveredServer) (x : String)
    : (m.relearn server).conn x = m.conn x ∨
        ∃ (c : WifiConnection x) (s : ServerOf x), m.conn x = some c ∧
          (c.state = .Idle ∨ c.state = .Stale) ∧
          (m.relearn server).conn x = some (c.updateServer s) := by
  by_cases hx : x = server.id
  . subst hx
    unfold relearn
    rw [conn_modifyConn]
    cases hc : m.conn server.id with
    | none => simp
    | some c =>
      by_cases hstate : c.state = .Idle ∨ c.state = .Stale
      . refine Or.inr ⟨c, ⟨server, rfl⟩, rfl, hstate, ?_⟩
        simp [hstate]
      . simp [hstate]
  . apply Or.inl
    apply (((Touches.start ∅ server.id m).relearn ⟨server, rfl⟩).frame hx).conn

theorem relearns_eq (m : Manager) (found : List DiscoveredServer)
    : found.foldl relearn m = { m with connections := (found.foldl relearn m).connections } := by
  induction found generalizing m with
  | nil => rfl
  | cons server found ih =>
    rw [List.foldl_cons]
    rw [ih]
    rw [relearn_eq]

theorem conn_relearns (m : Manager) (found : List DiscoveredServer) (x : String)
    : (found.foldl relearn m).conn x = m.conn x ∨
        ∃ (c : WifiConnection x) (s : ServerOf x), m.conn x = some c ∧
          (c.state = .Idle ∨ c.state = .Stale) ∧
          (found.foldl relearn m).conn x = some (c.updateServer s) := by
  induction found generalizing m with
  | nil => apply Or.inl rfl
  | cons server found ih =>
    rw [List.foldl_cons]
    obtain h1 | ⟨c1, s1, hc1, hstate1, h1⟩ := conn_relearn m server x
    . rw [← h1]
      apply ih
    . obtain h2 | ⟨c2, s2, hc2, hstate2, h2⟩ := ih (m.relearn server)
      . exact Or.inr ⟨c1, s1, hc1, hstate1, h2.trans h1⟩
      . rw [h1] at hc2
        cases hc2
        exact Or.inr ⟨c1, s2, hc1, hstate1, h2⟩

def learned (m : Manager) (found : List DiscoveredServer) : Manager :=
  found.foldl relearn
    { m with
      discovered := found, scanning := false, store := m.store.refreshFromDiscovery found }

theorem onDiscoveryFinished_eq (m : Manager) (found : List DiscoveredServer)
    : m.onDiscoveryFinished sodium found = (m.learned found).autoReconnectAll sodium := by
  rfl

theorem store_learned (m : Manager) (found : List DiscoveredServer)
    : (m.learned found).store = m.store.refreshFromDiscovery found := by
  unfold learned
  rw [relearns_eq]

theorem learned_fields (m : Manager) (found : List DiscoveredServer)
    : (m.learned found).userDisconnected = m.userDisconnected ∧
        (m.learned found).retries = m.retries ∧ (m.learned found).requests = m.requests ∧
        (m.learned found).reverse = m.reverse := by
  unfold learned
  rw [relearns_eq]
  simp

theorem conn_learned (m : Manager) (found : List DiscoveredServer) (x : String)
    : (m.learned found).conn x = m.conn x ∨
        ∃ (c : WifiConnection x) (s : ServerOf x), m.conn x = some c ∧
          (c.state = .Idle ∨ c.state = .Stale) ∧
          (m.learned found).conn x = some (c.updateServer s) := by
  apply conn_relearns

theorem frame_learned {found : List DiscoveredServer}
    (h : ∀ c, m.conn x = some c → c.state ≠ .Idle ∧ c.state ≠ .Stale)
    : Frame x m (m.learned found) := by
  obtain ⟨hheld, hretries, hrequests, hreverse⟩ := learned_fields m found
  have hconn : (m.learned found).conn x = m.conn x := by
    obtain heq | ⟨c, _, hc, hstate, _⟩ := conn_learned m found x
    . apply heq
    . have := h c hc
      simp [this] at hstate
  exact {
    conn := hconn
    held := by rw [hheld]
    retries := by rw [hretries]; exact fun _ _ h _ => h
    requests := by rw [hrequests]; exact fun _ r h _ => ⟨r, h, rfl⟩
    reverse := by rw [hreverse]; exact fun h1 h2 => ⟨h1, h2⟩
  }

theorem frame_resumed (x : String) (m : Manager)
    : Frame x m { m with retryAttempts := ∅, scanning := true } := by
  exact { Frame.refl x m with }

def reconnectRows (m : Manager) : Event → List RememberedWifi
  | .scanFinished found => (m.store.refreshFromDiscovery found).remembered
  | .autoReconnectAll | .resumeFromSleep => m.store.remembered
  | _ => []

def Redials (m : Manager) (rows : List RememberedWifi) (x : String) : Prop :=
  x ∉ m.userDisconnected ∧ ∃ r ∈ rows, r.id = x ∧ refusesHost r.toDiscovered = false

theorem eq_of_mem_remembered {store : ConnectionStore} {r' : RememberedWifi}
    (h : r ∈ store.remembered) (h' : r' ∈ store.remembered) (hid : r.id = r'.id)
    : r = r' := by
  rw [ConnectionStore.mem_remembered] at h h'
  rw [hid, h'] at h
  apply (Option.some.inj h).symm

structure Respected (powers : Set Power) (R : Manager → Manager → Prop) : Prop where
  refl : ∀ m, R m m
  trans : ∀ {m m' m''}, R m m' → R m' m'' → R m m''
  touches : ∀ {y m m'}, Touches powers y m m' → R m m'
  eraseRequest : ∀ m rid, R m { m with requests := m.requests.erase rid }
  eraseRetry : ∀ m timer, R m { m with retries := m.retries.erase timer }
  scanned : ∀ m found, R m { m with
    discovered := found, scanning := false, store := m.store.refreshFromDiscovery found }
  advance : ∀ m ms, R m { m with now := m.now + ms }
  encrypted : .write ∈ powers → ∀ sodium m rid request certDer, m.requests[rid]? = some request →
    R m (m.onEncrypted sodium rid request certDer)

namespace Respected

variable {powers : Set Power} {R : Manager → Manager → Prop}

theorem foldl {α : Type} (h : Respected powers R) {f : Manager → α → Manager}
    (hf : ∀ m a, R m (f m a)) (m : Manager) (l : List α)
    : R m (l.foldl f m) := by
  induction l generalizing m with
  | nil => apply h.refl
  | cons a l ih => apply h.trans (hf m a) (ih _)

theorem autoReconnectAll (h : Respected powers R) (m : Manager) (hstore : .store ∈ powers)
    (hdial : .dial ∈ powers) (hopen : .open ∈ powers) (hastray : .astray ∈ powers)
    : R m (m.autoReconnectAll sodium) := by
  apply h.foldl
  intro m r
  have hconnect : R m (m.connectTo sodium r.toDiscovered .AutoReconnect) :=
    h.touches (Touches.refl.connectTo ⟨r.toDiscovered, rfl⟩ .AutoReconnect (by simp) hstore hdial
      fun _ _ => .inr ⟨hopen, .inl hastray⟩)
  unfold reconnect
  split
  . apply hconnect
  . split
    . apply h.refl
    . apply hconnect

theorem learned (h : Respected powers R) (m : Manager) (found : List DiscoveredServer)
    : R m (m.learned found) := by
  apply h.trans (h.scanned m found)
  apply h.foldl
  intro m server
  apply h.touches (Touches.refl.relearn ⟨server, rfl⟩)

theorem taken (h : Respected powers R) (m : Manager) (e : Event) : R m (m.taken e) := by
  cases e with
  | retryDue timer => apply h.eraseRetry
  | reply rid => apply h.eraseRequest
  | _ => apply h.refl

theorem step (h : Respected powers R) {e : Event} (hstep : m.step sodium e = some m')
    (hneeds : ∀ p, m.Needs e p → p ∈ powers)
    : R m m' := by
  have hone {y : String} (hy : m.Targets y e) : R m m' :=
    h.trans (h.taken m e) (h.touches (touches_step hstep hy hneeds))
  cases e with
  | scanFinished found =>
    obtain ⟨_, rfl⟩ := step_scanFinished.mp hstep
    rw [onDiscoveryFinished_eq]
    apply h.trans (h.learned m found)
    apply h.autoReconnectAll _ (hneeds .store trivial) (hneeds .dial (.inl trivial))
      (hneeds .open (.inl trivial)) (hneeds .astray trivial)
  | autoReconnectAll =>
    obtain rfl := Option.some.inj hstep
    apply h.autoReconnectAll _ (hneeds .store trivial) (hneeds .dial (.inl trivial))
      (hneeds .open (.inl trivial)) (hneeds .astray trivial)
  | prepareForSleep =>
    obtain rfl := Option.some.inj hstep
    apply h.foldl
    intro m id
    apply h.touches ((Touches.start powers id m).closeSession (hneeds .close (.inl trivial)))
  | resumeFromSleep =>
    obtain rfl := Option.some.inj hstep
    apply h.trans (h.touches ((Touches.start powers "" m).retryCurve ∅).startDiscovery)
    apply h.autoReconnectAll _ (hneeds .store trivial) (hneeds .dial (.inl trivial))
      (hneeds .open (.inl trivial)) (hneeds .astray trivial)
  | encrypted rid certDer =>
    obtain ⟨request, hrequest, _, rfl⟩ := step_encrypted.mp hstep
    apply h.encrypted (hneeds .write trivial) sodium m rid request certDer hrequest
  | reply rid result linkOpens =>
    obtain ⟨request, hrequest, _, hm'⟩ := step_reply.mp hstep
    cases hy : request.call.subject with
    | none =>
      rw [hm', onReply_of_subject_eq_none _ _ _ hy]
      apply h.eraseRequest
    | some y => exact hone ⟨request, hrequest, hy⟩
  | retryDue timer =>
    obtain ⟨r, hr, _⟩ := step_retryDue.mp hstep
    exact hone ⟨r, hr, rfl⟩
  | advance ms =>
    obtain rfl := Option.some.inj hstep
    apply h.advance
  | cancelReversePairing | startDiscovery | reversePollTick => exact hone (y := "") trivial
  | _ => exact hone rfl

end Respected

end Manager

end Wifi
