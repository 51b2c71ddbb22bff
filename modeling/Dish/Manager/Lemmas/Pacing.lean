import Dish.Manager.Lemmas.Held

/-!
This module contains the silent retries of a satellite.
-/

open Std Models Reducer Wire Store Connection Transition

namespace Wifi

namespace Manager

variable {e : Event} {r : Retry} {timer : Nat}

variable {sodium : Sodium} {m m' m'' : Manager} {x y : String} {powers : Set Power}

def RetryPending (m : Manager) (x : String) (timer : Nat) (r : Retry) : Prop :=
  m.retries[timer]? = some r ∧ r.server.id = x

structure Paced (x : String) (m : Manager) : Prop where
  unique : ∀ {timer timer' r r'}, m.RetryPending x timer r → m.RetryPending x timer' r' →
    timer = timer'
  down : ∀ {timer r}, m.RetryPending x timer r → DownAt x m

def ArmsOnce (x : String) (m m' : Manager) : Prop :=
  ∀ timer r, m'.RetryPending x timer r →
    m.RetryPending x timer r ∨ (timer = m.nextRetry ∧ DownAt x m')

theorem Paced.of_armsOnce (hnone : ∀ timer r, ¬ m.RetryPending x timer r) (h : ArmsOnce x m m')
    : Paced x m' where
  unique := by
    intro timer timer' r r' hr hr'
    have h1 := (h timer r hr).resolve_left (hnone timer r)
    have h2 := (h timer' r' hr').resolve_left (hnone timer' r')
    rw [h1.1, h2.1]
  down := by
    intro timer r hr
    exact ((h timer r hr).resolve_left (hnone timer r)).2

theorem Paced.of_rests (h : Paced x m) (hrests : Rests x m m') : Paced x m' where
  unique := by
    intro timer timer' r r' hr hr'
    have hbefore : m.RetryPending x timer r := ⟨hrests.retries timer r hr.1 hr.2, hr.2⟩
    apply h.unique hbefore
    exact ⟨hrests.retries timer' r' hr'.1 hr'.2, hr'.2⟩
  down := fun _ => hrests.down

namespace ArmsOnce

theorem of_frame (h : Frame x m m') : ArmsOnce x m m' := by
  intro timer r hr
  exact Or.inl ⟨h.retries timer r hr.1 hr.2, hr.2⟩

theorem of_touches (h : Touches powers y m m') (hpowers : .arm ∉ powers) : ArmsOnce x m m' := by
  intro timer r hr
  have hbefore := (h.armedAt hr.1).resolve_right (fun harm => hpowers harm.1)
  exact Or.inl ⟨hbefore, hr.2⟩

theorem scheduleRetry (h : Touches {.arm}ᶜ y m m') (hdown : DownAt x m') (server : DiscoveredServer)
    (intent : ConnectIntent)
    : ArmsOnce x m (m'.scheduleRetry server intent) := by
  have hkept : ArmsOnce x m m' := of_touches h (by simp)
  unfold Manager.scheduleRetry
  split
  . apply hkept
  . intro timer r hr
    rw [← h.nextRetry (by simp)]
    obtain ⟨hr, hx⟩ := hr
    simp only [TreeMap.getElem?_insert] at hr
    split at hr
    . next heq =>
      rw [Std.compare_eq_iff_eq] at heq
      exact Or.inr ⟨heq.symm, hdown⟩
    . obtain hbefore | ⟨htimer, _⟩ := hkept timer r ⟨hr, hx⟩
      . apply Or.inl hbefore
      . rw [← h.nextRetry (by simp)] at htimer
        exact Or.inr ⟨htimer, hdown⟩

end ArmsOnce

theorem down_modifyConn {f : WifiConnection x → WifiConnection x} (m : Manager)
    (hf : ∀ c, (f c).state = .Idle ∨ (f c).state = .Stale)
    : DownAt x (m.modifyConn x f) := by
  intro c hc
  rw [conn_modifyConn] at hc
  obtain ⟨c₀, _, rfl⟩ := Option.map_eq_some_iff.mp hc
  apply hf

theorem down_parkUnreachable (m : Manager) (x : String) (intent : ConnectIntent)
    : DownAt x (m.parkUnreachable x intent) := by
  unfold parkUnreachable
  split
  . apply down_modifyConn m
    simp [state_markDisconnected]
  . apply down_modifyConn m
    simp [state_markStale]

theorem ArmsOnce.onSessionRefused {c : WifiConnection x} (hc : m.conn x = some c) (server : ServerOf x)
    (intent : ConnectIntent) (verdict : RestVerdict) (resp : SessionResponse)
    : ArmsOnce x m (m.onSessionRefused sodium c server intent verdict resp) := by
  have hrefl := Touches.start {.arm}ᶜ x m
  have hpowers : Power.arm ∉ ({.arm}ᶜ : Set Power) := by simp
  have hstore : Power.store ∈ ({.arm}ᶜ : Set Power) := by simp
  have hpark := ArmsOnce.scheduleRetry (hrefl.parkUnreachable intent)
    (down_parkUnreachable m x intent) server.1 intent
  cases verdict with
  | Unauthorized => apply of_touches (hrefl.onTerminalAuthFailure intent hstore) hpowers
  | VersionMismatch =>
    apply of_touches (hrefl.onVersionRejected hc server intent resp hstore (by simp)
      (.inl (by simp))) hpowers
  | IdentityChanged =>
    apply of_touches (((hrefl.modifyConn .markDisconnected).resetRetryCurve
      _).emitErrorIfUserInitiated ..) hpowers
  | _ => apply hpark

theorem ArmsOnce.onSessionReply (m : Manager) (sentOn : Nat) (server : ServerOf x)
    (intent : ConnectIntent) (sent : Credentials) (sentDescriptors : List DesiredSlot)
    (resp : SessionResponse) (pinMismatch linkOpens : Bool)
    : ArmsOnce x m (m.onSessionReply sodium sentOn server intent sent sentDescriptors resp
        pinMismatch linkOpens) := by
  have hrefl := Touches.start {.arm}ᶜ x m
  have hpowers : Power.arm ∉ ({.arm}ᶜ : Set Power) := by simp
  have hstore : Power.store ∈ ({.arm}ᶜ : Set Power) := by simp
  unfold Manager.onSessionReply
  split
  . apply of_touches hrefl hpowers
  . next c hc =>
    split
    . apply of_touches (hrefl.handBackLateGrant _ _ _ (by simp) (by simp)) hpowers
    . dsimp only
      split
      . split
        . apply of_touches ((hrefl.startSession _ _ _ _ (by simp) (by simp)
            (by simp)).convergeLateSlots _) hpowers
        . apply of_touches (((hrefl.modifyConn .markDisconnected).releaseSession _ _
            ⟨by simp, .inl (by simp)⟩).emitErrorIfUserInitiated ..) hpowers
      . apply onSessionRefused (conn_of_replyTarget hc)

theorem ArmsOnce.onAliveTick (m : Manager) (x : String)
    : ArmsOnce x m (m.onAliveTick sodium x) := by
  have hrefl := Touches.start {.arm}ᶜ x m
  have hpowers : Power.arm ∉ ({.arm}ᶜ : Set Power) := by simp
  have hstore : Power.store ∈ ({.arm}ᶜ : Set Power) := by simp
  unfold Manager.onAliveTick
  split
  . apply of_touches hrefl hpowers
  . next c hc =>
    split
    . apply of_touches hrefl hpowers
    . split
      . unfold handleServerClose
        split
        . apply of_touches ((hrefl.modifyConn .markStale).setStore _ .forgetSharedKey hstore) hpowers
        . apply of_touches (hrefl.modifyConn .markDisconnected) hpowers
        . apply scheduleRetry (hrefl.modifyConn .markDisconnected)
          apply down_modifyConn
          simp [state_markDisconnected]
      . split
        . apply scheduleRetry (hrefl.closeSession (by simp))
          apply down_closeSession
        . apply of_touches (((hrefl.setConn hc (.applySteadyState c _)).reconcile
            _).maybeRequestRekey _ (by simp)) hpowers

theorem respected_retries
    : Respected {.arm}ᶜ fun m m' => ∀ (timer : Nat) (r : Retry), m'.retries[timer]? = some r →
        m.retries[timer]? = some r where
  refl := fun _ _ _ h => h
  trans := fun h1 h2 timer r hr => h1 timer r (h2 timer r hr)
  touches := by
    intro y m m' h timer r hr
    apply (h.armedAt hr).resolve_right
    simp
  eraseRequest := fun _ _ _ _ h => h
  eraseRetry := by
    intro m timer timer' r hr
    simp only [TreeMap.getElem?_erase] at hr
    split at hr
    . contradiction
    . apply hr
  scanned := fun _ _ _ _ h => h
  advance := fun _ _ _ _ h => h
  encrypted := by
    intro _ sodium m rid request certDer _ timer r hr
    rw [(sameBooks_onEncrypted ..).retries] at hr
    apply hr

theorem retries_of_step (hstep : m.step sodium e = some m') (harm : ¬ m.MayArm e) (hr : m'.retries[timer]? = some r)
    : m.retries[timer]? = some r := by
  apply respected_retries.step hstep _ timer r hr
  rintro p hp rfl
  contradiction

theorem ArmsOnce.of_step (hstep : m.step sodium e = some m') : ArmsOnce x m m' := by
  by_cases habout : About x m e
  case neg => apply of_frame (frame_step hstep habout)
  by_cases harm : m.MayArm e
  case neg =>
    intro timer r hr
    exact Or.inl ⟨retries_of_step hstep harm hr.1, hr.2⟩
  cases e with
  | aliveTick id =>
    cases hstep
    cases habout
    apply onAliveTick
  | reply rid result linkOpens =>
    obtain ⟨request, hrequest, _, rfl⟩ := step_reply.mp hstep
    obtain ⟨request', hrequest', hsubject⟩ := habout
    rw [hrequest] at hrequest'
    cases hrequest'
    obtain ⟨request', hrequest', hput⟩ := harm
    rw [hrequest] at hrequest'
    cases hrequest'
    unfold onReply
    dsimp only
    generalize request.call = call at hsubject hput
    cases call with
    | putSession => cases hsubject; apply onSessionReply
    | _ => contradiction
  | _ => contradiction

def DialsInTurn (m : Manager) (e : Event) : Prop :=
  ∀ x timer r, m.RetryPending x timer r → Dials x m e → e = .retryDue timer

theorem Paced.step (h : Paced x m) (hturn : m.DialsInTurn e) (hstep : m.step sodium e = some m')
    : Paced x m' := by
  by_cases hpending : ∃ timer r, m.RetryPending x timer r
  case neg =>
    apply Paced.of_armsOnce _ (ArmsOnce.of_step hstep)
    exact fun timer r hr => hpending ⟨timer, r, hr⟩
  obtain ⟨timer, r, hr⟩ := hpending
  by_cases hdials : Dials x m e
  case neg => apply h.of_rests (rests_step (h.down hr) hstep hdials)
  -- the retry's own dial: it is off the list by then
  cases hturn x timer r hr hdials
  obtain ⟨r', hr', _, rfl⟩ := step_retryDue.mp hstep
  apply Paced.of_armsOnce _ (ArmsOnce.of_touches
    ((Touches.start {.arm}ᶜ r'.server.id _).onRetryDue ⟨r'.server, rfl⟩ (by simp) (by simp)
      fun _ => .inr ⟨by simp, .inl (by simp)⟩) (by simp))
  rintro timer₁ r₁ ⟨hr₁, hx₁⟩
  simp only [TreeMap.getElem?_erase] at hr₁
  split at hr₁
  . contradiction
  . next hne =>
    apply hne
    rw [Std.compare_eq_iff_eq]
    apply h.unique hr ⟨hr₁, hx₁⟩

def Later (m m' : Manager) : Prop :=
  m.now ≤ m'.now ∧ ∀ (timer : Nat) (r : Retry), m'.retries[timer]? = some r →
    m.retries[timer]? = some r ∨ (m.now ≤ r.armedAt ∧ r.armedAt ≤ m'.now)

theorem Later.of_retries (hnow : m.now ≤ m'.now)
    (h : ∀ (timer : Nat) (r : Retry), m'.retries[timer]? = some r → m.retries[timer]? = some r)
    : Later m m' := by
  exact ⟨hnow, fun timer r hr => Or.inl (h timer r hr)⟩

theorem Later.trans (h1 : Later m m') (h2 : Later m' m'') : Later m m'' := by
  refine ⟨Nat.le_trans h1.1 h2.1, ?_⟩
  intro timer r hr
  obtain hbefore | hafter := h2.2 timer r hr
  . obtain hbefore | hafter := h1.2 timer r hbefore
    . apply Or.inl hbefore
    . exact Or.inr ⟨hafter.1, Nat.le_trans hafter.2 h2.1⟩
  . exact Or.inr ⟨Nat.le_trans h1.1 hafter.1, hafter.2⟩

theorem Later.of_touches (h : Touches powers y m m') : Later m m' := by
  refine ⟨Nat.le_of_eq h.now.symm, ?_⟩
  intro timer r hr
  obtain hbefore | ⟨_, hnow⟩ := h.armedAt hr
  . apply Or.inl hbefore
  . rw [h.now, hnow]
    exact Or.inr ⟨Nat.le_refl _, Nat.le_refl _⟩

theorem respected_later : Respected Set.univ Later where
  refl := fun m => Later.of_retries (Nat.le_refl _) fun _ _ h => h
  trans := Later.trans
  touches := Later.of_touches
  eraseRequest := fun m _ => Later.of_retries (Nat.le_refl _) fun _ _ h => h
  eraseRetry := fun m timer =>
    Later.of_retries (Nat.le_refl _) (respected_retries.eraseRetry m timer)
  scanned := fun m _ => Later.of_retries (Nat.le_refl _) fun _ _ h => h
  advance := fun m ms => Later.of_retries (Nat.le_add_right _ _) fun _ _ h => h
  encrypted := by
    intro _ sodium m rid request certDer _
    have hbooks := sameBooks_onEncrypted sodium m rid request certDer
    apply Later.of_retries
    . rw [hbooks.now]
    . rw [hbooks.retries]
      exact fun _ _ h => h

theorem later_of_run {es : List Event} (hrun : Transition.run (step sodium) m es = some m')
    : Later m m' := by
  apply invariant_of_run _ (respected_later.refl m) hrun
  intro m₁ e m₂ h hstep
  apply h.trans
  apply respected_later.step hstep
  exact fun _ _ => Set.mem_univ _

theorem paced_of_run {es : List Event} (hturn : Along (step sodium) DialsInTurn m es)
    (hnone : ∀ timer r, ¬ m.RetryPending x timer r)
    (hrun : Transition.run (step sodium) m es = some m')
    : Paced x m' := by
  apply invariant_of_along _ _ hturn hrun
  . intro m e m' h hturn hstep
    apply h.step hturn hstep
  . exact {
      unique := fun {timer _ r _} hr _ => absurd hr (hnone timer r)
      down := fun {timer r} hr => absurd hr (hnone timer r)
    }

theorem not_retryPending_launch (store : ConnectionStore) (deviceId deviceName : String)
    (timer : Nat) (r : Retry)
    : ¬ (launch store deviceId deviceName).RetryPending x timer r := by
  rintro ⟨hr, _⟩
  simp [launch] at hr

theorem Paced.eq_of_pending {timer' : Nat} {r' : Retry} (h : Paced x m)
    (hr : m.RetryPending x timer r) (hr' : m.RetryPending x timer' r')
    : r' = r := by
  have hwaiting := hr'.1
  rw [← h.unique hr hr', hr.1] at hwaiting
  apply (Option.some.inj hwaiting).symm

theorem dueAt_le_dueAt {timer' : Nat} {r' : Retry} (hpaced : Paced x m)
    (hlater : Later m m') (hr : m.RetryPending x timer r) (harmed : r.armedAt ≤ m.now)
    (hr' : m'.RetryPending x timer' r')
    (hcurve : m.RetryPending x timer' r' ∨ r.attempt ≤ r'.attempt)
    : r.dueAt ≤ r'.dueAt := by
  obtain hwaiting | hattempt := hcurve
  . rw [hpaced.eq_of_pending hr hwaiting]
  . obtain hwaiting | ⟨harmed', _⟩ := hlater.2 timer' r' hr'.1
    . rw [hpaced.eq_of_pending hr ⟨hwaiting, hr'.2⟩]
    . have hdelay := backoffDelayMs_le hattempt
      unfold Retry.dueAt
      omega

theorem retries_paced {store : ConnectionStore} {deviceId deviceName : String}
    {es : List Event} {timer : Nat} {r : Retry}
    (hturn : Along (step sodium) DialsInTurn (launch store deviceId deviceName) es)
    (hrun : Transition.run (step sodium) (launch store deviceId deviceName) es = some m)
    (hr : m.RetryPending x timer r)
    : (∀ timer' r', m.RetryPending x timer' r' → timer' = timer) ∧
        ∀ es' m' m'' timer' r', Transition.run (step sodium) m es' = some m' →
          m'.RetryPending x timer' r' →
          (m.RetryPending x timer' r' ∨ r.attempt ≤ r'.attempt) →
          m'.step sodium (.retryDue timer') = some m'' →
          r.armedAt + backoffDelayMs r.attempt ≤ m'.now := by
  have hnone := not_retryPending_launch (x := x) store deviceId deviceName
  have hpaced := paced_of_run hturn hnone hrun
  have harmed : r.armedAt ≤ m.now := by
    obtain hlaunch | hafter := (later_of_run hrun).2 timer r hr.1
    . exact absurd ⟨hlaunch, hr.2⟩ (hnone timer r)
    . apply hafter.2
  refine ⟨fun timer' r' hr' => hpaced.unique hr' hr, ?_⟩
  intro es' m' m'' timer' r' hrun' hr' hcurve hfires
  obtain ⟨r₁, hr₁, hdue, _⟩ := step_retryDue.mp hfires
  rw [hr'.1] at hr₁
  cases hr₁
  apply Nat.le_trans _ hdue
  apply dueAt_le_dueAt hpaced (later_of_run hrun') hr harmed hr' hcurve

def unreachableRun : List Event :=
  [.autoReconnectAll, .reply 0 {} true, .advance 1000, .retryDue 0, .reply 1 {} true,
    .scanFinished [], .reply 2 {} true]

theorem retries_paced_unreachable
    : ∃ m m' m'' : Manager,
        Transition.run (step officeSodium) officeLaunch (unreachableRun.take 2) = some m ∧
        (∀ timer' r', m.RetryPending officePc.id timer' r' → timer' = 0) ∧
        Transition.run (step officeSodium) m [.advance 1000] = some m' ∧
        m'.step officeSodium (.retryDue 0) = some m'' ∧
        0 + backoffDelayMs 1 ≤ m'.now := by
  obtain ⟨m, hrun, hm⟩ : ∃ m,
      Transition.run (step officeSodium) officeLaunch (unreachableRun.take 2) = some m ∧
      decide (m.now = 0 ∧ m.retries[0]? = some (Retry.mk officePc 1 0)) = true :=
    exists_run_of_any (by decide)
  simp only [decide_eq_true_eq] at hm
  obtain ⟨hnow, hr⟩ := hm
  have hturn : Along (step officeSodium) DialsInTurn officeLaunch
      (unreachableRun.take 2) := by
    have hnone : ∀ x timer r, ¬ officeLaunch.RetryPending x timer r :=
      fun _ => not_retryPending_launch _ _ _
    refine ⟨fun x timer r hr => absurd hr (hnone x timer r), ?_⟩
    intro m₁ h₁
    refine ⟨fun x timer r hr => absurd ⟨?_, hr.2⟩ (hnone x timer r), fun _ _ => trivial⟩
    apply retries_of_step h₁ (by simp [MayArm]) hr.1
  have hpending : m.RetryPending officePc.id 0 (Retry.mk officePc 1 0) := ⟨hr, rfl⟩
  obtain ⟨hunique, hpaced⟩ := retries_paced hturn hrun hpending
  have hfires : { m with now := m.now + 1000 }.step officeSodium (.retryDue 0) = some _ :=
    step_retryDue.mpr ⟨_, hr, by simp [hnow]; decide, rfl⟩
  refine ⟨m, _, _, hrun, hunique, rfl, hfires, ?_⟩
  apply hpaced [.advance 1000] _ _ 0 _ rfl hpending (Or.inr (Nat.le_refl _)) hfires

theorem retries_overlap
    : ∃ (m m' m'' : Manager) (r r' : Retry),
        Transition.run (step officeSodium) officeLaunch unreachableRun = some m ∧
        m.RetryPending officePc.id 1 r ∧ m.RetryPending officePc.id 2 r' ∧
        r.attempt = 2 ∧ r'.attempt = 3 ∧
        m.step officeSodium (.advance 2000) = some m' ∧
        m'.step officeSodium (.retryDue 1) = some m'' ∧
        m'.now < r'.armedAt + backoffDelayMs r'.attempt := by
  obtain ⟨m, hrun, hm⟩ : ∃ m,
      Transition.run (step officeSodium) officeLaunch unreachableRun = some m ∧
      decide (m.now = 1000 ∧
        m.retries[1]? = some (Retry.mk officePc 2 1000) ∧
        m.retries[2]? = some (Retry.mk officePc 3 1000)) = true :=
    exists_run_of_any (by decide)
  simp only [decide_eq_true_eq] at hm
  obtain ⟨hnow, hr, hr'⟩ := hm
  have hfires : { m with now := m.now + 2000 }.step officeSodium (.retryDue 1) = some _ :=
    step_retryDue.mpr ⟨_, hr, by simp [hnow]; decide, rfl⟩
  refine ⟨m, _, _, _, _, hrun, ⟨hr, rfl⟩, ⟨hr', rfl⟩, rfl, rfl, rfl, hfires, ?_⟩
  simp only [hnow]
  decide

end Manager

end Wifi
