import Dish.Manager.Lemmas.Background

/-!
This module contains what can happen to a satellite whose session is down.
-/

open Std Models Reducer Wire Store Connection

namespace Wifi

namespace Manager

variable {sodium : Sodium} {m m' m'' : Manager} {x y : String} {powers : Set Power}

def DownAt (x : String) (m : Manager) : Prop :=
  ∀ c, m.conn x = some c → c.state = .Idle ∨ c.state = .Stale

structure Rests (x : String) (m m' : Manager) : Prop where
  down : DownAt x m'
  retries : ∀ (timer : Nat) (r : Retry), m'.retries[timer]? = some r → r.server.id = x →
    m.retries[timer]? = some r

theorem DownAt.rests (h : DownAt x m) : Rests x m m where
  down := h
  retries := fun _ _ h _ => h

theorem Develops.down {c c' : WifiConnection y} (h : Develops powers c c') (hdial : .dial ∉ powers)
    (hlink : .link ∉ powers) (hc : c.state = .Idle ∨ c.state = .Stale)
    : c'.state = .Idle ∨ c'.state = .Stale := by
  induction h with
  | note h => rwa [h.state]
  | markConnecting => contradiction
  | markConnected => contradiction
  | markDisconnected c => exact .inl (state_markDisconnected c)
  | markStale c => exact .inr (state_markStale c)
  | applySteadyState c client =>
    unfold WifiConnection.applySteadyState
    dsimp only
    split
    . next hup =>
      obtain heq | heq := hc <;> simp [heq] at hup
    . exact hc
  | attachSlot c slotId features =>
    unfold WifiConnection.attachSlot
    split
    . exact hc
    . exact hc
  | detachSlot c slotId =>
    unfold WifiConnection.detachSlot
    split
    . exact hc
    . exact hc
  | trans _ _ ih ih' => exact ih' (ih hc)
  | _ => exact hc

namespace Rests

theorem congr (h : Rests x m m') (hconn : m''.connections = m'.connections)
    (hretries : m''.retries = m'.retries)
    : Rests x m m'' where
  down := by
    unfold DownAt conn
    rw [hconn]
    apply h.down
  retries := by
    rw [hretries]
    apply h.retries

theorem frame (h : Rests x m m') (hf : Frame x m' m'') : Rests x m m'' where
  down := by
    unfold DownAt
    rw [hf.conn]
    apply h.down
  retries := fun timer r hr hx => h.retries timer r (hf.retries timer r hr hx) hx

theorem setConn (h : Rests x m m') {c : WifiConnection x} (hc : c.state = .Idle ∨ c.state = .Stale)
    : Rests x m (m'.setConn c) where
  down := by
    intro c' hc'
    rw [conn_setConn_self] at hc'
    cases hc'
    apply hc
  retries := h.retries

theorem of_touches (h : Rests x m m') (ht : Touches powers x m' m'') (hdial : .dial ∉ powers)
    (hlink : .link ∉ powers) (harm : .arm ∉ powers)
    : Rests x m m'' := by
  induction ht with
  | refl => exact h
  | setConn _ hc hd ih => exact ih.setConn (hd.down hdial hlink (ih.down _ hc))
  | create _ server hc ih => exact (ih.setConn (.inl rfl)).congr rfl rfl
  | takeConnection _ _ ih =>
    refine { down := ?_, retries := ih.retries }
    intro c hc
    rw [conn_takeConnection_self] at hc
    contradiction
  | arm => contradiction
  | cancelPendingRetries _ ih =>
    refine { down := ih.down, retries := ?_ }
    intro timer r hr hx
    simp only [Manager.cancelPendingRetries, TreeMap.getElem?_filter,
      Option.pfilter_eq_some_iff] at hr
    exact ih.retries timer r hr.1 hx
  | _ =>
    rename_i ih
    exact ih.congr rfl rfl

theorem onSessionReply (h : Rests x m m') (sentOn : Nat) (server : ServerOf x)
    (intent : ConnectIntent) (sent : Credentials) (sentDescriptors : List DesiredSlot)
    (resp : SessionResponse) (pinMismatch linkOpens : Bool)
    : Rests x m (m'.onSessionReply sodium sentOn server intent sent sentDescriptors resp pinMismatch
        linkOpens) := by
  unfold Manager.onSessionReply
  split
  . apply h
  . next c hc =>
    have hdown := h.down c (Option.filter_eq_some_iff.mp hc).1
    have hlinking : c.state ≠ .Linking := by
      obtain heq | heq := hdown <;> simp [heq]
    simp only [hlinking, ne_eq, not_false_eq_true, if_true]
    apply h.of_touches ((Touches.start {.close, .astray} x m').handBackLateGrant _ _ _
      (by simp) (by simp)) <;> simp

theorem onSessionView (h : Rests x m m') (server : ServerOf x) (view : SessionViewDto)
    : Rests x m (m'.onSessionView sodium server view) := by
  have hflag : Rests x m { m' with reconcileInFlight := m'.reconcileInFlight.erase x } :=
    h.congr rfl rfl
  unfold Manager.onSessionView
  dsimp only
  split
  . apply hflag
  . next c hc =>
    have hlive : c.state ≠ .Live := by
      obtain heq | heq := hflag.down c hc <;> simp [heq]
    simp only [hlive, ne_eq, not_false_eq_true, if_true]
    apply hflag

theorem onAliveTick (h : Rests x m m') : Rests x m (m'.onAliveTick sodium x) := by
  unfold Manager.onAliveTick
  split
  . apply h
  . next c hc =>
    have hclient := c.coherent.down (h.down c hc)
    simp only [hclient]
    apply h

end Rests

def Dials (x : String) (m : Manager) : Event → Prop
  | .connectTo server intent =>
    server.id = x ∧ refusesHost server = false ∧ m.heldByUser x intent = false
  | .pairWithPin server _ => server.id = x ∧ refusesHost server = false
  | .autoReconnectAll | .resumeFromSleep => Redials m m.store.remembered x
  | .scanFinished found => Redials m (m.store.refreshFromDiscovery found).remembered x
  | .retryDue timer =>
    x ∉ m.userDisconnected ∧ ∃ r, m.retries[timer]? = some r ∧ r.server.id = x
  | .reply rid result _ =>
    ∃ request, m.requests[rid]? = some request ∧ request.call.subject = some x ∧
      ApprovalGranted m request result
  | _ => False

theorem Rests.onReply (h : Rests x m m') {request : Request} {result : HttpResult}
    (linkOpens : Bool) (hsubject : request.call.subject = some x)
    (hgrant : ¬ ApprovalGranted m' request result)
    : Rests x m (m'.onReply sodium request result linkOpens) := by
  -- the other replies neither dial, link nor arm a retry
  have hquiet (hpowers : replyPowers request.call ⊆ {.dial, .link, .arm}ᶜ)
      : Rests x m (m'.onReply sodium request result linkOpens) := by
    apply h.of_touches (onReply_touches m' result linkOpens hsubject hpowers
      (fun hgranted => absurd hgranted hgrant) (by simp)) <;> simp
  cases hcall : request.call with
  | putSession =>
    rw [hcall] at hsubject
    cases hsubject
    simp only [Manager.onReply, hcall]
    apply h.onSessionReply
  | getSession =>
    rw [hcall] at hsubject
    cases hsubject
    simp only [Manager.onReply, hcall]
    apply h.onSessionView
  | _ =>
    apply hquiet
    rw [hcall]
    intro p hp
    simp only [replyPowers, Set.mem_insert_iff, Set.mem_singleton_iff] at hp
    rcases hp with rfl | rfl <;> simp

theorem Rests.reconnect (h : Rests x m m') {r : RememberedWifi} (hid : r.toDiscovered.id = r.id)
    (hguard : r.id = x → refusesHost r.toDiscovered = true ∨ x ∈ m'.userDisconnected)
    : Rests x m (m'.reconnect sodium r) := by
  apply h.frame
  by_cases hx : r.id = x
  . have hconnect : Frame x m' (m'.connectTo sodium r.toDiscovered .AutoReconnect) := by
      apply frame_connectTo_guarded x m' (by simp)
      rw [hid, hx]
      apply hguard hx
    unfold Manager.reconnect
    split
    . apply hconnect
    . split
      . apply Frame.refl
      . apply hconnect
  . apply frame_reconnect hid hx

theorem Rests.autoReconnectAll (h : Rests x m m') (hnot : ¬ Redials m' m'.store.remembered x)
    : Rests x m (m'.autoReconnectAll sodium) := by
  obtain ⟨_, hframe⟩ | ⟨r, hr, hx, m₁, h₁, h₂⟩ := autoReconnectAll_cases sodium m' x
  . apply h.frame hframe
  . apply frame _ h₂
    apply (h.frame h₁).reconnect (ConnectionStore.id_toDiscovered_of_mem hr)
    intro _
    rw [h₁.held]
    by_contra hguard
    simp only [not_or, Bool.not_eq_true] at hguard
    exact hnot ⟨hguard.2, r, hr, hx, hguard.1⟩

theorem Rests.learned (h : Rests x m m') (found : List DiscoveredServer)
    : Rests x m (m'.learned found) := by
  obtain ⟨_, hretries, _, _⟩ := learned_fields m' found
  refine { down := ?_, retries := by rw [hretries]; apply h.retries }
  intro c hc
  obtain heq | ⟨c₀, s, _, hstate, heq⟩ := conn_learned m' found x
  . rw [heq] at hc
    apply h.down c hc
  . rw [heq] at hc
    cases hc
    apply hstate

theorem Rests.prepareForSleep (h : Rests x m m') : Rests x m (m'.prepareForSleep sodium) := by
  unfold Manager.prepareForSleep
  generalize m'.connections.keys = ids
  induction ids generalizing m' with
  | nil => apply h
  | cons id ids ih =>
    rw [List.foldl_cons]
    apply ih
    by_cases hx : x = id
    . subst hx
      apply h.of_touches ((Touches.start {.close} x m').closeSession (by simp)) <;> simp
    . apply h.frame
      apply ((Touches.start {.close} id m').closeSession (by simp)).frame hx

theorem Rests.onRetryDue (h : Rests x m m') (server : ServerOf x)
    (hheld : x ∈ m'.userDisconnected)
    : Rests x m (m'.onRetryDue sodium server.1) := by
  apply h.frame
  obtain ⟨server, rfl⟩ := server
  unfold Manager.onRetryDue
  split
  . apply Frame.refl
  . split
    . apply Frame.refl
    . have hstart : Frame server.id m' m'.startDiscovery := { Frame.refl server.id m' with }
      apply hstart.trans
      apply frame_connectTo_guarded _ _ (by simp)
      apply Or.inr
      split
      . next r hr =>
        rw [ConnectionStore.id_toDiscovered_of_mem (List.mem_of_find?_eq_some hr)]
        have hid : r.id = server.id := by simpa using List.find?_some hr
        rw [hid]
        apply hheld
      . apply hheld

theorem rests_step {e : Event} (h : DownAt x m) (hstep : m.step sodium e = some m')
    (hdials : ¬ Dials x m e)
    : Rests x m m' := by
  by_cases habout : About x m e
  case neg => apply h.rests.frame (frame_step hstep habout)
  have hquiet (hy : m.Targets x e) (htaken : m.taken e = m)
      (hneeds : ¬m.Needs e .dial ∧ ¬m.Needs e .link ∧ ¬m.Needs e .arm) : Rests x m m' := by
    have htouches : Touches {.dial, .link, .arm}ᶜ x (m.taken e) m' := by
      apply touches_step hstep hy
      rintro p hp (rfl | rfl | rfl)
      . exact hneeds.1 hp
      . exact hneeds.2.1 hp
      . exact hneeds.2.2 hp
    rw [htaken] at htouches
    apply h.rests.of_touches htouches <;> simp
  cases e with
  | connectTo server intent =>
    obtain rfl := Option.some.inj hstep
    cases habout
    unfold Manager.connectTo
    split
    . apply h.rests.frame (frame_reportRefusedHost ..)
    . next hhost =>
      split
      . apply h.rests
      . next hheld => exact absurd ⟨rfl, by simpa using hhost, by simpa using hheld⟩ hdials
  | pairWithPin server pin =>
    obtain rfl := Option.some.inj hstep
    cases habout
    unfold Manager.pairWithPin
    split
    . exact (h.rests.frame (frame_reportRefusedHost ..)).congr rfl rfl
    . next hhost => exact absurd ⟨rfl, by simpa using hhost⟩ hdials
  | aliveTick id =>
    obtain rfl := Option.some.inj hstep
    cases habout
    apply h.rests.onAliveTick
  | scanFinished found =>
    obtain ⟨_, rfl⟩ := step_scanFinished.mp hstep
    rw [onDiscoveryFinished_eq]
    apply (h.rests.learned found).autoReconnectAll
    unfold Redials
    rw [store_learned, (learned_fields m found).1]
    apply hdials
  | autoReconnectAll =>
    obtain rfl := Option.some.inj hstep
    apply h.rests.autoReconnectAll hdials
  | prepareForSleep =>
    obtain rfl := Option.some.inj hstep
    apply h.rests.prepareForSleep
  | resumeFromSleep =>
    obtain rfl := Option.some.inj hstep
    apply (h.rests.frame (frame_resumed x m)).autoReconnectAll hdials
  | retryDue timer =>
    obtain ⟨r, hr, _, rfl⟩ := step_retryDue.mp hstep
    obtain ⟨r', hr', hx⟩ := habout
    rw [hr] at hr'
    cases hr'
    apply (h.rests.frame (frame_erase_retry x m timer)).onRetryDue ⟨r.server, hx⟩
    by_contra hheld
    exact hdials ⟨hheld, r, hr, hx⟩
  | reply rid result linkOpens =>
    obtain ⟨request, hrequest, _, rfl⟩ := step_reply.mp hstep
    obtain ⟨request', hrequest', hsubject⟩ := habout
    rw [hrequest] at hrequest'
    cases hrequest'
    apply (h.rests.frame (frame_erase_request x m rid)).onReply _ hsubject
    intro hgrant
    exact hdials ⟨request, hrequest, hsubject, hgrant⟩
  | startDiscovery | cancelReversePairing | reversePollTick | encrypted | advance => contradiction
  | _ => exact hquiet habout rfl ⟨fun hp => hp.elim id (·.elim id id), id, id⟩

end Manager

end Wifi
