import Dish.Moonlight.Lemmas.Routed

/-!
This module contains what the manager tells its sessions of the pads that are routed to them.
-/

open Std

namespace Moonlight

namespace MoonlightManager

variable {route route' : Route} {session : Nat} {slotId : String}

variable {m m' m'' : MoonlightManager}

structure Tells (m m' : MoonlightManager) (calls : List (Nat × SessionCall)) : Prop where
  made : m'.calls = m.calls ++ calls
  origin : ∀ (slotId : String) (route : Route), m'.routes[slotId]? = some route →
    (∃ route', m.routes[slotId]? = some route' ∧ route'.session = route.session ∧
        route'.controllerNumber = route.controllerNumber) ∨
      ∃ pad, (route.session, .sendControllerArrival route.controllerNumber pad) ∈ calls

theorem Tells.of_routes (hcalls : m'.calls = m.calls)
    (hroutes : ∀ (slotId : String) (route : Route), m'.routes[slotId]? = some route →
      ∃ route', m.routes[slotId]? = some route' ∧ route'.session = route.session ∧
        route'.controllerNumber = route.controllerNumber)
    : Tells m m' [] := by
  constructor
  . rw [hcalls, List.append_nil]
  . intro slotId route hroute
    exact .inl (hroutes slotId route hroute)

theorem Tells.of_eq (hcalls : m'.calls = m.calls) (hroutes : m'.routes = m.routes)
    : Tells m m' [] := by
  apply Tells.of_routes hcalls
  intro slotId route hroute
  exact ⟨route, hroutes ▸ hroute, rfl, rfl⟩

theorem Tells.refl (m : MoonlightManager) : Tells m m [] := by
  exact Tells.of_eq rfl rfl

theorem Tells.trans {calls calls' : List (Nat × SessionCall)} (h : Tells m m' calls)
    (h' : Tells m' m'' calls')
    : Tells m m'' (calls ++ calls') := by
  constructor
  . rw [h'.made, h.made, List.append_assoc]
  . intro slotId route hroute
    rcases h'.origin slotId route hroute with ⟨route', hroute', hsession, hnumber⟩ | ⟨pad, hpad⟩
    . rw [← hsession, ← hnumber]
      rcases h.origin slotId route' hroute' with hold | ⟨pad, hpad⟩
      . exact .inl hold
      . exact .inr ⟨pad, List.mem_append_left _ hpad⟩
    . exact .inr ⟨pad, List.mem_append_right _ hpad⟩

theorem tells_callSession (m : MoonlightManager) (session : Nat) (call : SessionCall)
    : Tells m (m.callSession session call) [(session, call)] := by
  constructor
  . rfl
  . intro slotId route hroute
    exact .inl ⟨route, hroute, rfl, rfl⟩

theorem tells_setRoute
    (hroute : m.routes[slotId]? = some route) (hsession : route'.session = route.session)
    (hnumber : route'.controllerNumber = route.controllerNumber)
    : Tells m { m with routes := m.routes.insert slotId route' } [] := by
  apply Tells.of_routes
  . rfl
  . intro slotId' found hfound
    simp only [TreeMap.getElem?_insert, Std.compare_eq_iff_eq] at hfound
    split at hfound
    next heq =>
      cases hfound
      exact ⟨route, heq ▸ hroute, hsession.symm, hnumber.symm⟩
    next => exact ⟨found, hfound, rfl, rfl⟩

theorem tells_launchPick (m : MoonlightManager) (session : Nat) (ask : BindRequest)
    : ∃ calls, Tells m (m.launchPick session ask) calls := by
  unfold launchPick
  split
  . exact ⟨_, .refl m⟩
  . exact ⟨_, tells_callSession m session .launch⟩

theorem tells_farewell (m : MoonlightManager) (route : Route) (p : PadSlots)
    : ∃ calls, Tells m (m.farewell route p) calls := by
  unfold farewell
  dsimp only
  split
  . exact ⟨_, ((tells_callSession m _ _).trans (tells_callSession _ _ _)).trans
      (tells_callSession _ _ _)⟩
  . exact ⟨_, (tells_callSession m _ _).trans (tells_callSession _ _ _)⟩

theorem tells_unbindSlot (m : MoonlightManager) (slotId : String)
    : ∃ calls, Tells m (m.unbindSlot slotId) calls := by
  cases hroute : m.routes[slotId]? with
  | none =>
    rw [unbindSlot_of_none hroute]
    exact ⟨_, .refl m⟩
  | some route =>
    rw [unbindSlot_of_some hroute]
    have hwithout : Tells m (m.withoutSlot slotId route) [] := by
      apply Tells.of_routes
      . rfl
      . intro slotId' found hfound
        simp only [withoutSlot, TreeMap.getElem?_erase] at hfound
        split at hfound
        . contradiction
        . exact ⟨found, hfound, rfl, rfl⟩
    obtain ⟨calls, htells⟩ := tells_farewell (m.withoutSlot slotId route) route
      ((m.padSet route.hostId).release slotId)
    exact ⟨_, hwithout.trans htells⟩

theorem tells_bindFresh (m : MoonlightManager) (slotId hostId : String) (session : Nat)
    (ask : BindRequest)
    : ∃ calls, Tells m (m.bindFresh slotId hostId session ask).2 calls := by
  unfold bindFresh
  dsimp only
  split
  . exact ⟨_, .of_eq rfl rfl⟩
  next number assigned _ =>
    have hannounced (route : Route) (hsession : route.session = session)
        (hnumber : route.controllerNumber = number) :
        Tells m ({ m with
          padSlots := m.padSlots.insert hostId assigned
          routes := m.routes.insert slotId route
          anyBound := true }.callSession session (.sendControllerArrival number ask.arrival))
          [(session, .sendControllerArrival number ask.arrival)] := by
      constructor
      . rfl
      . intro slotId' found hfound
        simp only [callSession, TreeMap.getElem?_insert] at hfound
        split at hfound
        . cases hfound
          exact .inr ⟨ask.arrival, by simp [hsession, hnumber]⟩
        . exact .inl ⟨found, hfound, rfl, rfl⟩
    have hnew := hannounced
      { session, controllerNumber := number, hostId, userMotionOn := ask.userMotionOn,
        touchReaches := ask.touchReaches } rfl rfl
    split
    . obtain ⟨calls, hlaunch⟩ := tells_launchPick _ session ask
      exact ⟨_, hnew.trans hlaunch⟩
    . exact ⟨_, hnew⟩

theorem tells_ensureSession (m : MoonlightManager) (hostId : String) (identity : Bool)
    : Tells m (m.ensureSession hostId identity).2 [] := by
  unfold ensureSession
  split
  . exact .refl m
  . split
    . exact .of_eq rfl rfl
    . exact .refl m

theorem tells_bindSlot (m : MoonlightManager) (slotId hostId : String) (ask : BindRequest)
    : ∃ calls, Tells m (m.bindSlot slotId hostId ask).2 calls := by
  have hensure := tells_ensureSession m hostId ask.identity
  unfold bindSlot
  split
  . exact ⟨_, .refl m⟩
  . split
    next m₁ heq => exact ⟨_, by simpa [heq] using hensure⟩
    next session m₁ heq =>
      rw [heq] at hensure
      split
      next held _ =>
        have hpicks : Tells m₁ (m₁.keepPicks slotId ask) [] := by
          unfold keepPicks
          split
          next route hroute => exact tells_setRoute hroute rfl rfl
          next => exact .refl m₁
        have hreannounce : ∃ calls, Tells (m₁.keepPicks slotId ask)
            ((m₁.keepPicks slotId ask).reannounceInPlace session held ask.arrival) calls := by
          unfold reannounceInPlace
          split
          . exact ⟨_, tells_callSession _ _ _⟩
          . exact ⟨_, .refl _⟩
        obtain ⟨calls, hreannounce⟩ := hreannounce
        obtain ⟨calls', hlaunch⟩ := tells_launchPick
          ((m₁.keepPicks slotId ask).reannounceInPlace session held ask.arrival) session ask
        exact ⟨_, ((hensure.trans hpicks).trans hreannounce).trans hlaunch⟩
      next =>
        obtain ⟨calls, hunbind⟩ := tells_unbindSlot m₁ slotId
        obtain ⟨calls', hfresh⟩ := tells_bindFresh (m₁.unbindSlot slotId) slotId hostId session ask
        exact ⟨_, (hensure.trans hunbind).trans hfresh⟩

theorem tells_foldl (m : MoonlightManager) (slotIds : List String)
    : ∃ calls, Tells m (slotIds.foldl unbindSlot m) calls := by
  induction slotIds generalizing m with
  | nil => exact ⟨_, .refl m⟩
  | cons slotId slotIds ih =>
    obtain ⟨calls, hfirst⟩ := tells_unbindSlot m slotId
    obtain ⟨calls', hrest⟩ := ih (m.unbindSlot slotId)
    exact ⟨_, hfirst.trans hrest⟩

theorem tells_forgetHost (m : MoonlightManager) (hostId : String)
    : ∃ calls, Tells m (m.forgetHost hostId) calls := by
  have herased : Tells m { m with sessions := m.sessions.erase hostId } [] := .of_eq rfl rfl
  obtain ⟨calls, hfold⟩ := tells_foldl { m with sessions := m.sessions.erase hostId }
    ({ m with sessions := m.sessions.erase hostId }.slotsRoutedTo hostId)
  have hreleased : Tells m ({ m with sessions := m.sessions.erase hostId }.releaseRoutesAt hostId)
      ([] ++ calls ++ []) := (herased.trans hfold).trans (.of_eq rfl rfl)
  unfold forgetHost
  dsimp only
  split
  . exact ⟨_, hreleased.trans (tells_callSession _ _ _)⟩
  . exact ⟨_, hreleased⟩

theorem tells_sendFrame
    (hroute : m.routes[slotId]? = some route) (hsession : route'.session = route.session)
    (hnumber : route'.controllerNumber = route.controllerNumber) (frame : ControllerState)
    : ∃ calls, Tells m (m.sendFrame slotId route' frame) calls := by
  have hset : Tells m { m with routes := m.routes.insert slotId { route' with lastFrame := frame } } [] :=
    tells_setRoute hroute hsession hnumber
  exact ⟨_, hset.trans (tells_callSession _ _ _)⟩

def Forwards (m m' : MoonlightManager) (slotId : String) : Prop :=
  ∃ route route' frame, m.routes[slotId]? = some route ∧ route'.session = route.session ∧
    route'.controllerNumber = route.controllerNumber ∧ m' = m.sendFrame slotId route' frame

theorem forwardReport_cases (m : MoonlightManager) (slotId : String) (report : PadReport)
    : m.forwardReport slotId report = m ∨ m.Forwards (m.forwardReport slotId report) slotId := by
  unfold forwardReport
  split
  . exact .inl rfl
  . split
    . exact .inl rfl
    next route hroute => exact .inr ⟨route, route, _, hroute, rfl, rfl, rfl⟩

theorem forwardClick_cases (m : MoonlightManager) (slotId : String) (buttonPressed : Bool)
    : m.forwardClick slotId buttonPressed = m ∨
      m.Forwards (m.forwardClick slotId buttonPressed) slotId := by
  unfold forwardClick
  split
  . exact .inl rfl
  . split
    . exact .inl rfl
    next route hroute =>
      dsimp only
      split
      . exact .inl rfl
      . refine .inr ⟨route, _, _, hroute, ?_, ?_, rfl⟩
        . rfl
        . rfl

theorem tells_step (m : MoonlightManager) (a : Act) : ∃ calls, Tells m (m.step a) calls := by
  cases a with
  | bindSlot slotId hostId ask => exact tells_bindSlot m slotId hostId ask
  | unbindSlot slotId => exact tells_unbindSlot m slotId
  | forgetHost hostId => exact tells_forgetHost m hostId
  | ensureSession hostId identity => exact ⟨_, tells_ensureSession m hostId identity⟩
  | forwardReport slotId report =>
    rw [step]
    rcases forwardReport_cases m slotId report with hsame | ⟨route, route', frame, hroute, hs, hn, hsend⟩
    . rw [hsame]
      exact ⟨_, .refl m⟩
    . rw [hsend]
      exact tells_sendFrame hroute hs hn frame
  | forwardClick slotId buttonPressed =>
    rw [step]
    rcases forwardClick_cases m slotId buttonPressed with
      hsame | ⟨route, route', frame, hroute, hs, hn, hsend⟩
    . rw [hsame]
      exact ⟨_, .refl m⟩
    . rw [hsend]
      exact tells_sendFrame hroute hs hn frame

def Announces (m : MoonlightManager) : Prop :=
  ∀ (slotId : String) (route : Route), m.routes[slotId]? = some route →
    route.controllerNumber ∈ m.announced route.session

def Apart (m : MoonlightManager) : Prop :=
  ∀ (slotId slotId' : String) (route route' : Route), m.routes[slotId]? = some route →
    m.routes[slotId']? = some route' → route.session = route'.session →
    route.controllerNumber = route'.controllerNumber → slotId = slotId'

theorem Sound.apart (h : m.Sound) : m.Apart := by
  intro slotId slotId' route route' hroute hroute' hsession hnumber
  have howned := h.owned slotId route hroute
  have howned' := h.owned slotId' route' hroute'
  have hhost : route.hostId = route'.hostId := by
    rw [hsession] at howned
    exact h.distinct _ _ _ howned howned'
  have hassigned : m.assignment slotId = some (route'.hostId, route'.controllerNumber) := by
    rw [assignment_eq_some]
    exact ⟨route, hroute, hhost, hnumber⟩
  have hassigned' : m.assignment slotId' = some (route'.hostId, route'.controllerNumber) := by
    rw [assignment_eq_some]
    exact ⟨route', hroute', rfl, rfl⟩
  exact PadSlots.slot_of_number ((h.tables _ _ _).mp hassigned) ((h.tables _ _ _).mp hassigned')

theorem mem_announced_callSession {session' number : Nat} {call : SessionCall}
    : number ∈ (m.callSession session call).announced session' ↔
      (session' = session ∧ ∃ pad, call = .sendControllerArrival number pad ∨
        call = .sendControllerReplug number pad) ∨
      (number ∈ m.announced session' ∧
        ¬(session' = session ∧ call = .forgetControllerArrival number)) := by
  by_cases heq : session' = session
  . subst heq
    cases call
    all_goals simp [callSession, announced]
    all_goals grind
  . have hne : session ≠ session' := Ne.symm heq
    cases call
    all_goals simp [callSession, announced, TreeMap.getElem?_insert, heq, hne]

theorem Announces.call (h : m.Announces) {call : SessionCall}
    (hcall : ∀ number, call ≠ .forgetControllerArrival number)
    : (m.callSession session call).Announces := by
  intro slotId route hroute
  rw [mem_announced_callSession]
  exact .inr ⟨h slotId route hroute, fun hforget => hcall _ hforget.2⟩

theorem Apart.unbindSlot (h : m.Apart) (slotId : String) : (m.unbindSlot slotId).Apart := by
  intro slotId₁ slotId₂ route₁ route₂ h₁ h₂
  rw [getElem?_routes_unbindSlot] at h₁ h₂
  split at h₁
  . contradiction
  . split at h₂
    . contradiction
    . exact h slotId₁ slotId₂ route₁ route₂ h₁ h₂

theorem mem_announced_farewell {p : PadSlots} {number : Nat}
    : number ∈ (m.farewell route p).announced session ↔
      number ∈ m.announced session ∧
        ¬(session = route.session ∧ number = route.controllerNumber) := by
  unfold farewell
  dsimp only
  split
  all_goals
    simp only [mem_announced_callSession, reduceCtorEq, or_self, exists_false, and_false, false_or,
      not_false_eq_true, and_true, SessionCall.forgetControllerArrival.injEq]
    rw [eq_comm (a := number)]

theorem Announces.unbindSlot (h : m.Announces) (hapart : m.Apart) (slotId : String)
    : (m.unbindSlot slotId).Announces := by
  cases hroute : m.routes[slotId]? with
  | none =>
    rw [unbindSlot_of_none hroute]
    exact h
  | some route =>
    intro slotId' route' hroute'
    rw [getElem?_routes_unbindSlot] at hroute'
    split at hroute'
    . contradiction
    next hne =>
      rw [unbindSlot_of_some hroute, mem_announced_farewell]
      refine ⟨h slotId' route' hroute', ?_⟩
      rintro ⟨hsession, hnumber⟩
      exact hne (hapart slotId' slotId route' route hroute' hroute hsession hnumber)

theorem Announces.foldl_unbindSlot (h : m.Announces) (hapart : m.Apart) (slotIds : List String)
    : (slotIds.foldl MoonlightManager.unbindSlot m).Announces := by
  have hboth : (slotIds.foldl MoonlightManager.unbindSlot m).Announces ∧
      (slotIds.foldl MoonlightManager.unbindSlot m).Apart := by
    apply List.foldlRecOn (motive := fun m : MoonlightManager => m.Announces ∧ m.Apart) _ _ ⟨h, hapart⟩
    intro m hm slotId _
    exact ⟨hm.1.unbindSlot hm.2 slotId, hm.2.unbindSlot slotId⟩
  exact hboth.1

theorem Announces.launchPick (h : m.Announces) (session : Nat) (ask : BindRequest)
    : (m.launchPick session ask).Announces := by
  unfold MoonlightManager.launchPick
  split
  . exact h
  . exact h.call (by simp)

theorem Announces.setRoute (h : m.Announces)
    (hroute : m.routes[slotId]? = some route) (hsession : route'.session = route.session)
    (hnumber : route'.controllerNumber = route.controllerNumber)
    : { m with routes := m.routes.insert slotId route' }.Announces := by
  intro slotId' found hfound
  simp only [TreeMap.getElem?_insert] at hfound
  split at hfound
  . cases hfound
    rw [hsession, hnumber]
    exact h slotId route hroute
  . exact h slotId' found hfound

theorem Announces.bindFresh (h : m.Announces) (slotId hostId : String) (session : Nat)
    (ask : BindRequest)
    : (m.bindFresh slotId hostId session ask).2.Announces := by
  unfold MoonlightManager.bindFresh
  dsimp only
  split
  . exact h
  next number assigned _ =>
    have hannounced (route : Route) (hsession : route.session = session)
        (hnumber : route.controllerNumber = number) :
        ({ m with
          padSlots := m.padSlots.insert hostId assigned
          routes := m.routes.insert slotId route
          anyBound := true }.callSession session
            (.sendControllerArrival number ask.arrival)).Announces := by
      intro slotId' found hfound
      rw [mem_announced_callSession]
      simp only [callSession, TreeMap.getElem?_insert] at hfound
      split at hfound
      . cases hfound
        exact .inl ⟨hsession, ask.arrival, .inl (by rw [hnumber])⟩
      . exact .inr ⟨h slotId' found hfound, by simp⟩
    have hnew := hannounced
      { session, controllerNumber := number, hostId, userMotionOn := ask.userMotionOn,
        touchReaches := ask.touchReaches } rfl rfl
    split
    . exact hnew.launchPick session ask
    . exact hnew

theorem Announces.bindInPlace (h : m.Announces) (slotId : String) (session held : Nat)
    (ask : BindRequest)
    : (m.bindInPlace slotId session held ask).Announces := by
  have hpicks : (m.keepPicks slotId ask).Announces := by
    unfold keepPicks
    split
    next route hroute =>
      apply h.setRoute hroute
      . rfl
      . rfl
    next => exact h
  apply Announces.launchPick
  unfold reannounceInPlace
  split
  . exact hpicks.call (by simp)
  . exact hpicks

theorem announces_ensureSession (h : m.Announces) (hostId : String) (identity : Bool)
    : (m.ensureSession hostId identity).2.Announces := by
  unfold ensureSession
  split
  . exact h
  . split
    . exact h
    . exact h

theorem Announces.bindSlot (h : m.Announces) (hsound : m.Sound) (slotId hostId : String)
    (ask : BindRequest)
    : (m.bindSlot slotId hostId ask).2.Announces := by
  have hensure := announces_ensureSession h hostId ask.identity
  have hsound := (hsound.ensureSession hostId ask.identity).1
  unfold MoonlightManager.bindSlot
  split
  . exact h
  . split
    next m₁ heq => simpa [heq] using hensure
    next session m₁ heq =>
      rw [heq] at hensure hsound
      split
      next held _ => exact hensure.bindInPlace slotId session held ask
      next => exact (hensure.unbindSlot hsound.apart slotId).bindFresh slotId hostId session ask

theorem Announces.forgetHost (h : m.Announces) (hsound : m.Sound) (hostId : String)
    : (m.forgetHost hostId).Announces := by
  have herased : { m with sessions := m.sessions.erase hostId }.Announces := h
  have hreleased : ({ m with sessions := m.sessions.erase hostId }.releaseRoutesAt hostId).Announces :=
    herased.foldl_unbindSlot hsound.apart _
  unfold MoonlightManager.forgetHost
  dsimp only
  split
  . exact hreleased.call (by simp)
  . exact hreleased

theorem Announces.sendFrame (h : m.Announces)
    (hroute : m.routes[slotId]? = some route) (hsession : route'.session = route.session)
    (hnumber : route'.controllerNumber = route.controllerNumber) (frame : ControllerState)
    : (m.sendFrame slotId route' frame).Announces := by
  apply Announces.call
  . exact h.setRoute hroute hsession hnumber
  . simp

theorem Announces.step (h : m.Announces) (hsound : m.Sound) (a : Act) : (m.step a).Announces := by
  cases a with
  | bindSlot slotId hostId ask => exact h.bindSlot hsound slotId hostId ask
  | unbindSlot slotId => exact h.unbindSlot hsound.apart slotId
  | forgetHost hostId => exact h.forgetHost hsound hostId
  | ensureSession hostId identity => exact announces_ensureSession h hostId identity
  | forwardReport slotId report =>
    rw [MoonlightManager.step]
    rcases forwardReport_cases m slotId report with hsame | ⟨route, route', frame, hroute, hs, hn, hsend⟩
    . rw [hsame]
      exact h
    . rw [hsend]
      exact h.sendFrame hroute hs hn frame
  | forwardClick slotId buttonPressed =>
    rw [MoonlightManager.step]
    rcases forwardClick_cases m slotId buttonPressed with
      hsame | ⟨route, route', frame, hroute, hs, hn, hsend⟩
    . rw [hsame]
      exact h
    . rw [hsend]
      exact h.sendFrame hroute hs hn frame

end MoonlightManager

end Moonlight
