import Dish.Moonlight.Routes

/-!
This module contains the agreement of the two tables a Moonlight manager keeps.
-/

open Std

namespace Moonlight

namespace MoonlightManager

variable {hostId slotId : String} {n : Nat} {route : Route}

def assignment (m : MoonlightManager) (slotId : String) : Option (String × Nat) :=
  m.routes[slotId]?.map fun route => (route.hostId, route.controllerNumber)

structure Agrees (m : MoonlightManager) : Prop where
  tables : ∀ slotId hostId n,
    m.assignment slotId = some (hostId, n) ↔ (m.padSet hostId).numberFor slotId = some n
  bound : m.anyBound = true ↔ ∃ slotId, (m.assignment slotId).isSome

section

variable {m m' : MoonlightManager}

theorem Agrees.of_eq (h : m.Agrees) (hassignment : ∀ slotId, m'.assignment slotId = m.assignment slotId)
    (hpadSet : ∀ hostId, m'.padSet hostId = m.padSet hostId) (hbound : m'.anyBound = m.anyBound)
    : m'.Agrees := by
  constructor
  . intro slotId hostId n
    rw [hassignment, hpadSet]
    exact h.tables slotId hostId n
  . simp only [hbound, hassignment]
    exact h.bound

structure Keeps (m m' : MoonlightManager) : Prop where
  routes : m'.routes = m.routes
  padSlots : m'.padSlots = m.padSlots
  anyBound : m'.anyBound = m.anyBound
  sessions : m'.sessions = m.sessions
  created : m'.created = m.created

theorem Keeps.refl : Keeps m m := by
  exact ⟨rfl, rfl, rfl, rfl, rfl⟩

theorem Keeps.call (h : Keeps m m') (session : Nat) (call : SessionCall)
    : Keeps m (m'.callSession session call) := by
  exact ⟨h.routes, h.padSlots, h.anyBound, h.sessions, h.created⟩

theorem Keeps.farewell (h : Keeps m m') (route : Route) (p : PadSlots)
    : Keeps m (m'.farewell route p) := by
  unfold MoonlightManager.farewell
  dsimp only
  split
  . exact ((h.call _ _).call _ _).call _ _
  . exact (h.call _ _).call _ _

theorem Keeps.launchPick (h : Keeps m m') (session : Nat) (ask : BindRequest)
    : Keeps m (m'.launchPick session ask) := by
  unfold MoonlightManager.launchPick
  split
  . exact h
  . exact h.call _ _

theorem Keeps.reannounceInPlace (h : Keeps m m') (session number : Nat) (wanted : AnnouncedPad)
    : Keeps m (m'.reannounceInPlace session number wanted) := by
  unfold MoonlightManager.reannounceInPlace
  split
  . exact h.call _ _
  . exact h

theorem Keeps.assignment (h : Keeps m m') (slotId : String)
    : m'.assignment slotId = m.assignment slotId := by
  rw [MoonlightManager.assignment, h.routes]
  rfl

theorem Keeps.padSet (h : Keeps m m') (hostId : String) : m'.padSet hostId = m.padSet hostId := by
  rw [MoonlightManager.padSet, h.padSlots]
  rfl

theorem Agrees.keeps (h : m.Agrees) (hkeeps : Keeps m m') : m'.Agrees := by
  exact h.of_eq hkeeps.assignment hkeeps.padSet hkeeps.anyBound

theorem padSet_of_insert {p : PadSlots}
    (h : m'.padSlots = m.padSlots.insert hostId p) (hostId' : String)
    : m'.padSet hostId' = if hostId' = hostId then p else m.padSet hostId' := by
  simp only [padSet, h, TreeMap.getElem?_insert, Std.compare_eq_iff_eq, eq_comm (a := hostId)]
  split <;> rfl

theorem assignment_eq_some
    : m.assignment slotId = some (hostId, n) ↔
      ∃ route, m.routes[slotId]? = some route ∧ route.hostId = hostId ∧
        route.controllerNumber = n := by
  simp [assignment]

theorem isEmpty_routes
    : (!m.routes.isEmpty) = true ↔ ∃ slotId, (m.assignment slotId).isSome := by
  rw [Bool.not_eq_true', TreeMap.isEmpty_eq_false_iff_exists_mem]
  simp [assignment]

theorem unbindSlot_of_none (h : m.routes[slotId]? = none)
    : m.unbindSlot slotId = m := by
  simp [unbindSlot, h]

def withoutSlot (m : MoonlightManager) (slotId : String) (route : Route) : MoonlightManager :=
  { m with
    routes := m.routes.erase slotId
    anyBound := !(m.routes.erase slotId).isEmpty
    padSlots := m.padSlots.insert route.hostId ((m.padSet route.hostId).release slotId) }

theorem unbindSlot_of_some (h : m.routes[slotId]? = some route)
    : m.unbindSlot slotId =
      (m.withoutSlot slotId route).farewell route ((m.padSet route.hostId).release slotId) := by
  simp [unbindSlot, h, withoutSlot]

theorem keeps_unbindSlot (h : m.routes[slotId]? = some route)
    : Keeps (m.withoutSlot slotId route) (m.unbindSlot slotId) := by
  rw [unbindSlot_of_some h]
  exact Keeps.refl.farewell _ _

theorem getElem?_routes_unbindSlot (slotId slotId' : String)
    : (m.unbindSlot slotId).routes[slotId']? =
      if slotId' = slotId then none else m.routes[slotId']? := by
  cases h : m.routes[slotId]? with
  | none =>
    rw [unbindSlot_of_none h]
    split
    next heq => rw [heq, h]
    next => rfl
  | some route =>
    rw [(keeps_unbindSlot h).routes]
    simp only [withoutSlot, TreeMap.getElem?_erase, Std.compare_eq_iff_eq, eq_comm (a := slotId)]

theorem assignment_unbindSlot (slotId slotId' : String)
    : (m.unbindSlot slotId).assignment slotId' =
      if slotId' = slotId then none else m.assignment slotId' := by
  rw [assignment, getElem?_routes_unbindSlot]
  split <;> rfl

theorem sessions_unbindSlot (slotId : String)
    : (m.unbindSlot slotId).sessions = m.sessions ∧
      (m.unbindSlot slotId).created = m.created := by
  cases h : m.routes[slotId]? with
  | none =>
    rw [unbindSlot_of_none h]
    exact ⟨rfl, rfl⟩
  | some route => exact ⟨(keeps_unbindSlot h).sessions, (keeps_unbindSlot h).created⟩

theorem Agrees.numberFor_unbindSlot (h : m.Agrees) (slotId slotId' hostId : String)
    : ((m.unbindSlot slotId).padSet hostId).numberFor slotId' =
      if slotId' = slotId then none else (m.padSet hostId).numberFor slotId' := by
  have hnone (hne : ∀ n, m.assignment slotId ≠ some (hostId, n))
      : (m.padSet hostId).numberFor slotId = none := by
    rw [Option.eq_none_iff_forall_ne_some]
    intro n hn
    exact hne n ((h.tables slotId hostId n).mpr hn)
  cases hroute : m.routes[slotId]? with
  | none =>
    rw [unbindSlot_of_none hroute]
    split
    next heq =>
      rw [heq]
      apply hnone
      simp [assignment, hroute]
    next => rfl
  | some route =>
    rw [padSet_of_insert (keeps_unbindSlot hroute).padSlots]
    by_cases hhost : hostId = route.hostId
    . rw [if_pos hhost, PadSlots.numberFor_release, hhost]
    . -- At every other host the slot had no number.
      rw [if_neg hhost]
      split
      next heq =>
        rw [heq]
        apply hnone
        simp [assignment, hroute, Ne.symm hhost]
      next => rfl

theorem Agrees.unbindSlot (h : m.Agrees) (slotId : String) : (m.unbindSlot slotId).Agrees := by
  constructor
  . intro slotId' hostId n
    rw [assignment_unbindSlot, h.numberFor_unbindSlot]
    split
    . simp
    . exact h.tables slotId' hostId n
  . cases hroute : m.routes[slotId]? with
    | none =>
      rw [unbindSlot_of_none hroute]
      exact h.bound
    | some route =>
      rw [← isEmpty_routes, (keeps_unbindSlot hroute).anyBound, (keeps_unbindSlot hroute).routes]
      rfl

def withSlot (m : MoonlightManager) (slotId : String) (route : Route) (p : PadSlots)
    : MoonlightManager :=
  { m with
    padSlots := m.padSlots.insert route.hostId p
    routes := m.routes.insert slotId route
    anyBound := true }

theorem assignment_withSlot (slotId slotId' : String) (route : Route) (p : PadSlots)
    : (m.withSlot slotId route p).assignment slotId' =
      if slotId' = slotId then some (route.hostId, route.controllerNumber)
      else m.assignment slotId' := by
  simp only [assignment, withSlot, TreeMap.getElem?_insert, Std.compare_eq_iff_eq,
    eq_comm (a := slotId)]
  split <;> rfl

theorem Agrees.withSlot (h : m.Agrees) (hnone : m.assignment slotId = none) {p : PadSlots}
    (hassign : (m.padSet route.hostId).assign slotId = some (route.controllerNumber, p))
    : (m.withSlot slotId route p).Agrees := by
  constructor
  . intro slotId' hostId n
    rw [assignment_withSlot, padSet_of_insert rfl]
    by_cases hhost : hostId = route.hostId
    . subst hhost
      rw [if_pos rfl, PadSlots.numberFor_of_assign hassign]
      split
      . simp
      . exact h.tables slotId' route.hostId n
    . rw [if_neg hhost]
      split
      next heq =>
        -- The slot has no number at the other hosts.
        subst heq
        have hno : (m.padSet hostId).numberFor slotId' ≠ some n := by
          rw [ne_eq, ← h.tables, hnone]
          simp
        simpa [Ne.symm hhost] using hno
      next => exact h.tables slotId' hostId n
  . constructor
    . intro _
      exact ⟨slotId, by simp [assignment_withSlot]⟩
    . intro _
      rfl

theorem bindFresh_cases (slotId hostId : String) (session : Nat) (ask : BindRequest)
    : ((m.padSet hostId).assign slotId = none ∧
        m.bindFresh slotId hostId session ask =
          (.HostFull, { m with padSlots := m.padSlots.insert hostId (m.padSet hostId) })) ∨
      ∃ n p m', (m.padSet hostId).assign slotId = some (n, p) ∧
        m.bindFresh slotId hostId session ask = (.Bound, m') ∧
        Keeps (m.withSlot slotId
          { session, controllerNumber := n, hostId, userMotionOn := ask.userMotionOn,
            touchReaches := ask.touchReaches } p) m' := by
  unfold bindFresh
  dsimp only
  cases hassign : (m.padSet hostId).assign slotId with
  | none => exact .inl ⟨rfl, rfl⟩
  | some assigned =>
    obtain ⟨n, p⟩ := assigned
    refine .inr ⟨n, p, _, rfl, rfl, ?_⟩
    split
    . exact (Keeps.refl.call _ _).launchPick _ _
    . exact Keeps.refl.call _ _

theorem Agrees.bindFresh (h : m.Agrees) (hnone : m.assignment slotId = none)
    (hostId : String) (session : Nat) (ask : BindRequest)
    : (m.bindFresh slotId hostId session ask).2.Agrees := by
  rcases bindFresh_cases (m := m) slotId hostId session ask with
    ⟨_, hfull⟩ | ⟨n, p, m', hassign, hbound, hkeeps⟩
  . rw [hfull]
    apply h.of_eq
    . intro slotId'
      rfl
    . intro hostId'
      rw [padSet_of_insert rfl]
      split
      next heq => rw [heq]
      next => rfl
    . rfl
  . rw [hbound]
    exact (h.withSlot hnone hassign).keeps hkeeps

structure Owned (m : MoonlightManager) : Prop where
  owned : ∀ (slotId : String) (route : Route), m.routes[slotId]? = some route →
    m.sessions[route.hostId]? = some route.session
  made : ∀ (hostId : String) (session : Nat), m.sessions[hostId]? = some session → session < m.created
  distinct : ∀ (hostId hostId' : String) (session : Nat), m.sessions[hostId]? = some session →
    m.sessions[hostId']? = some session → hostId = hostId'

structure Sound (m : MoonlightManager) : Prop extends m.Agrees, m.Owned

theorem Owned.of_eq (h : m.Owned)
    (hroutes : ∀ (slotId : String) (route : Route), m'.routes[slotId]? = some route →
      ∃ route', m.routes[slotId]? = some route' ∧ route'.hostId = route.hostId ∧
        route'.session = route.session)
    (hsessions : m'.sessions = m.sessions) (hcreated : m'.created = m.created)
    : m'.Owned := by
  constructor
  . intro slotId route hroute
    obtain ⟨route', hroute', hhost, hsession⟩ := hroutes slotId route hroute
    rw [hsessions, ← hhost, ← hsession]
    exact h.owned slotId route' hroute'
  . rw [hsessions, hcreated]
    exact h.made
  . rw [hsessions]
    exact h.distinct

theorem Sound.keeps (h : m.Sound) (hkeeps : Keeps m m') : m'.Sound := by
  refine ⟨h.toAgrees.keeps hkeeps, h.toOwned.of_eq ?_ hkeeps.sessions hkeeps.created⟩
  intro slotId route hroute
  rw [hkeeps.routes] at hroute
  exact ⟨route, hroute, rfl, rfl⟩

theorem Sound.unbindSlot (h : m.Sound) (slotId : String) : (m.unbindSlot slotId).Sound := by
  refine ⟨h.toAgrees.unbindSlot slotId, ?_⟩
  apply h.toOwned.of_eq _ (sessions_unbindSlot slotId).1 (sessions_unbindSlot slotId).2
  intro slotId' route hroute
  rw [getElem?_routes_unbindSlot] at hroute
  split at hroute
  . contradiction
  . exact ⟨route, hroute, rfl, rfl⟩

theorem Sound.setRoute (h : m.Sound) {route' : Route}
    (hroute : m.routes[slotId]? = some route) (hhost : route'.hostId = route.hostId)
    (hnumber : route'.controllerNumber = route.controllerNumber)
    (hsession : route'.session = route.session)
    : { m with routes := m.routes.insert slotId route' }.Sound := by
  have hget (slotId' : String) : (m.routes.insert slotId route')[slotId']? =
      if slotId' = slotId then some route' else m.routes[slotId']? := by
    simp only [TreeMap.getElem?_insert, Std.compare_eq_iff_eq, eq_comm (a := slotId)]
  constructor
  . apply h.toAgrees.of_eq
    . intro slotId'
      rw [assignment, hget]
      split
      next heq => simp [assignment, heq, hroute, hhost, hnumber]
      next => rfl
    . intro hostId
      rfl
    . rfl
  . apply h.toOwned.of_eq
    . intro slotId' route'' hroute''
      rw [hget] at hroute''
      split at hroute''
      next heq =>
        cases hroute''
        rw [heq]
        exact ⟨route, hroute, hhost.symm, hsession.symm⟩
      next => exact ⟨route'', hroute'', rfl, rfl⟩
    . rfl
    . rfl

theorem Sound.keepPicks (h : m.Sound) (slotId : String) (ask : BindRequest)
    : (m.keepPicks slotId ask).Sound := by
  unfold MoonlightManager.keepPicks
  split
  next route hroute => exact h.setRoute hroute rfl rfl rfl
  next => exact h

theorem Sound.sendFrame (h : m.Sound) {route' : Route}
    (hroute : m.routes[slotId]? = some route) (hhost : route'.hostId = route.hostId)
    (hnumber : route'.controllerNumber = route.controllerNumber)
    (hsession : route'.session = route.session) (frame : ControllerState)
    : (m.sendFrame slotId route' frame).Sound := by
  have hset : { m with
      routes := m.routes.insert slotId { route' with lastFrame := frame } }.Sound :=
    h.setRoute hroute hhost hnumber hsession
  exact hset.keeps (Keeps.refl.call _ _)

theorem Sound.forwardReport (h : m.Sound) (slotId : String) (report : PadReport)
    : (m.forwardReport slotId report).Sound := by
  unfold MoonlightManager.forwardReport
  split
  . exact h
  . split
    next => exact h
    next route hroute => exact h.sendFrame hroute rfl rfl rfl _

theorem Sound.forwardClick (h : m.Sound) (slotId : String) (buttonPressed : Bool)
    : (m.forwardClick slotId buttonPressed).Sound := by
  unfold MoonlightManager.forwardClick
  split
  . exact h
  . split
    next => exact h
    next route hroute =>
      dsimp only
      split
      . exact h
      . apply h.sendFrame hroute <;> rfl

theorem Sound.ensureSession (h : m.Sound) (hostId : String) (identity : Bool)
    : (m.ensureSession hostId identity).2.Sound ∧
      (m.ensureSession hostId identity).2.routes = m.routes ∧
      (m.ensureSession hostId identity).2.padSlots = m.padSlots ∧
      ∀ session, (m.ensureSession hostId identity).1 = some session →
        (m.ensureSession hostId identity).2.sessions[hostId]? = some session := by
  unfold MoonlightManager.ensureSession
  split
  next existing hexisting =>
    refine ⟨h, rfl, rfl, ?_⟩
    rintro session ⟨⟩
    exact hexisting
  next hnone =>
    split
    . have hget (hostId' : String) : (m.sessions.insert hostId m.created)[hostId']? =
          if hostId' = hostId then some m.created else m.sessions[hostId']? := by
        simp only [TreeMap.getElem?_insert, Std.compare_eq_iff_eq, eq_comm (a := hostId)]
      refine ⟨⟨⟨h.tables, h.bound⟩, ?_, ?_, ?_⟩, rfl, rfl, ?_⟩
      . intro slotId route hroute
        have howned := h.owned slotId route hroute
        rw [hget]
        split
        next heq =>
          rw [heq, hnone] at howned
          contradiction
        next => exact howned
      . intro hostId' session hsession
        rw [hget] at hsession
        split at hsession
        . cases hsession
          exact Nat.lt_succ_self _
        . exact Nat.lt_succ_of_lt (h.made hostId' session hsession)
      . intro hostId₁ hostId₂ session h₁ h₂
        rw [hget] at h₁ h₂
        have hnew := h.made hostId₁ session
        have hnew' := h.made hostId₂ session
        have hdistinct := h.distinct hostId₁ hostId₂ session
        grind
      . rintro session ⟨⟩
        rw [hget, if_pos rfl]
    . exact ⟨h, rfl, rfl, by simp⟩

theorem numberOnSession_eq_some {session : Nat}
    : m.numberOnSession slotId session = some n ↔
      ∃ route, m.routes[slotId]? = some route ∧ route.session = session ∧
        route.controllerNumber = n := by
  simp [numberOnSession, Option.bind_eq_some_iff]

theorem Sound.bindFresh (h : m.Sound) (hnone : m.routes[slotId]? = none) {session : Nat} (hsession : m.sessions[hostId]? = some session)
    (ask : BindRequest)
    : (m.bindFresh slotId hostId session ask).2.Sound := by
  refine ⟨h.toAgrees.bindFresh (by simp [assignment, hnone]) hostId session ask, ?_⟩
  rcases bindFresh_cases (m := m) slotId hostId session ask with
    ⟨_, hfull⟩ | ⟨n, p, m', _, hbound, hkeeps⟩
  . rw [hfull]
    exact ⟨h.owned, h.made, h.distinct⟩
  . rw [hbound]
    constructor
    . intro slotId' route hroute
      rw [hkeeps.routes] at hroute
      rw [hkeeps.sessions]
      simp only [withSlot, TreeMap.getElem?_insert, Std.compare_eq_iff_eq] at hroute
      split at hroute
      . cases hroute
        exact hsession
      . exact h.owned slotId' route hroute
    . rw [hkeeps.sessions, hkeeps.created]
      exact h.made
    . rw [hkeeps.sessions]
      exact h.distinct

def bindInPlace (m : MoonlightManager) (slotId : String) (session held : Nat) (ask : BindRequest)
    : MoonlightManager :=
  ((m.keepPicks slotId ask).reannounceInPlace session held ask.arrival).launchPick session ask

theorem Sound.bindSlot_cases (h : m.Sound) (slotId hostId : String) (ask : BindRequest)
    : ((m.bindSlot slotId hostId ask).1 ≠ .Bound ∧ (m.bindSlot slotId hostId ask).2 = m) ∨
      ∃ (m₁ : MoonlightManager) (session : Nat), m₁.Sound ∧ m₁.routes = m.routes ∧ m₁.padSlots = m.padSlots ∧
        m₁.sessions[hostId]? = some session ∧
        ((∃ held, m.assignment slotId = some (hostId, held) ∧
            m.bindSlot slotId hostId ask = (.Bound, m₁.bindInPlace slotId session held ask)) ∨
          m.bindSlot slotId hostId ask =
            (m₁.unbindSlot slotId).bindFresh slotId hostId session ask) := by
  obtain ⟨hsound, hroutes, hpadSlots, hsession⟩ := h.ensureSession hostId ask.identity
  unfold bindSlot
  split
  . exact .inl ⟨by simp, rfl⟩
  . split
    next m₁ heq =>
      left
      refine ⟨by simp, ?_⟩
      unfold MoonlightManager.ensureSession at heq
      grind
    next session m₁ heq =>
      rw [heq] at hsound hroutes hpadSlots hsession
      have hsession := hsession session rfl
      refine .inr ⟨m₁, session, hsound, hroutes, hpadSlots, hsession, ?_⟩
      split
      next held hheld =>
        left
        obtain ⟨route, hroute, hown, hnumber⟩ := numberOnSession_eq_some.mp hheld
        -- No other host has this session.
        have hhost : route.hostId = hostId := by
          apply hsound.distinct route.hostId hostId session _ hsession
          rw [hsound.owned slotId route hroute, hown]
        refine ⟨held, ?_, rfl⟩
        rw [assignment_eq_some]
        exact ⟨route, hroutes ▸ hroute, hhost, hnumber⟩
      next => exact .inr rfl

theorem Sound.bindInPlace (h : m.Sound) (slotId : String) (session held : Nat) (ask : BindRequest)
    : (m.bindInPlace slotId session held ask).Sound := by
  apply (h.keepPicks slotId ask).keeps
  exact (Keeps.refl.reannounceInPlace _ _ _).launchPick _ _

theorem Sound.bindSlot (h : m.Sound) (slotId hostId : String) (ask : BindRequest)
    : (m.bindSlot slotId hostId ask).2.Sound := by
  rcases h.bindSlot_cases slotId hostId ask with
    ⟨_, hsame⟩ | ⟨m₁, session, h₁, _, _, hsession, ⟨held, _, heq⟩ | heq⟩
  . rw [hsame]
    exact h
  . rw [heq]
    exact h₁.bindInPlace slotId session held ask
  . rw [heq]
    apply (h₁.unbindSlot slotId).bindFresh
    . rw [getElem?_routes_unbindSlot, if_pos rfl]
    . rw [(sessions_unbindSlot slotId).1]
      exact hsession

theorem assignment_keepPicks (slotId slotId' : String) (ask : BindRequest)
    : (m.keepPicks slotId ask).assignment slotId' = m.assignment slotId' := by
  unfold keepPicks
  split
  next route hroute =>
    simp only [assignment, TreeMap.getElem?_insert, Std.compare_eq_iff_eq]
    split
    next heq => simp [← heq, hroute]
    next => rfl
  next => rfl

theorem assignment_bindInPlace (slotId slotId' : String) (session held : Nat) (ask : BindRequest)
    : (m.bindInPlace slotId session held ask).assignment slotId' = m.assignment slotId' := by
  have hkeeps : Keeps (m.keepPicks slotId ask) (m.bindInPlace slotId session held ask) :=
    (Keeps.refl.reannounceInPlace _ _ _).launchPick _ _
  rw [hkeeps.assignment, assignment_keepPicks]

theorem Sound.least_free (h : m.Sound) {hostId' : String} {ask : BindRequest}
    (hafter : (m.bindSlot slotId hostId ask).2.assignment slotId = some (hostId', n))
    (hbefore : m.assignment slotId ≠ some (hostId', n))
    : hostId' = hostId ∧
      (∀ k < n, ∃ slotId', slotId' ≠ slotId ∧ m.assignment slotId' = some (hostId, k)) ∧
      ∀ slotId', slotId' ≠ slotId → m.assignment slotId' ≠ some (hostId, n) := by
  rcases h.bindSlot_cases slotId hostId ask with
    ⟨_, hsame⟩ | ⟨m₁, session, h₁, hroutes, hpadSlots, _, ⟨held, _, heq⟩ | heq⟩
  . rw [hsame] at hafter
    exact absurd hafter hbefore
  . rw [heq, assignment_bindInPlace, assignment, hroutes] at hafter
    exact absurd hafter hbefore
  . have hassignment (slotId' : String) : m₁.assignment slotId' = m.assignment slotId' := by
      rw [assignment, hroutes]
      rfl
    rw [heq] at hafter
    rcases bindFresh_cases (m := m₁.unbindSlot slotId) slotId hostId session ask with
      ⟨_, hfull⟩ | ⟨number, p, m', hassign, hbound, hkeeps⟩
    . rw [hfull] at hafter
      have hnone : (m₁.unbindSlot slotId).assignment slotId = none := by
        simp [assignment_unbindSlot]
      rw [assignment] at hafter hnone
      rw [hnone] at hafter
      contradiction
    . rw [hbound, hkeeps.assignment, assignment_withSlot, if_pos rfl] at hafter
      cases hafter
      obtain ⟨_, hfree, _⟩ := PadSlots.assign_eq_some hassign
      obtain ⟨_, hnot, hbelow⟩ := PadSlots.lowestFree_eq_some.mp hfree
      -- Without the slot itself, the numbers taken at the host are those of the other slots.
      have htaken (k : Nat) : ((m₁.unbindSlot slotId).padSet hostId).taken k = true ↔
          ∃ slotId', slotId' ≠ slotId ∧ m.assignment slotId' = some (hostId, k) := by
        rw [PadSlots.taken_eq_true]
        simp only [← PadSlots.numberFor_eq_some, ← (h₁.unbindSlot slotId).tables,
          assignment_unbindSlot, hassignment]
        grind
      refine ⟨rfl, fun k hk => (htaken k).mp (hbelow k hk), ?_⟩
      intro slotId' hne hsame
      rw [(htaken _).mpr ⟨slotId', hne, hsame⟩] at hnot
      contradiction

theorem getElem?_routes_foldl (slotIds : List String) (slotId : String)
    : (slotIds.foldl MoonlightManager.unbindSlot m).routes[slotId]? =
      if slotId ∈ slotIds then none else m.routes[slotId]? := by
  induction slotIds generalizing m with
  | nil => simp
  | cons first slotIds ih =>
    rw [List.foldl_cons, ih, getElem?_routes_unbindSlot]
    grind

theorem sessions_foldl (slotIds : List String)
    : (slotIds.foldl MoonlightManager.unbindSlot m).sessions = m.sessions ∧
      (slotIds.foldl MoonlightManager.unbindSlot m).created = m.created := by
  induction slotIds generalizing m with
  | nil => exact ⟨rfl, rfl⟩
  | cons first slotIds ih =>
    rw [List.foldl_cons, ih.1, ih.2]
    exact sessions_unbindSlot first

theorem Agrees.foldl_unbindSlot (h : m.Agrees) (slotIds : List String)
    : (slotIds.foldl MoonlightManager.unbindSlot m).Agrees := by
  apply List.foldlRecOn (motive := Agrees) _ _ h
  intro m hm slotId _
  exact hm.unbindSlot slotId

theorem mem_slotsRoutedTo
    : slotId ∈ m.slotsRoutedTo hostId ↔
      ∃ route, m.routes[slotId]? = some route ∧ route.hostId = hostId := by
  simp [slotsRoutedTo, TreeMap.mem_toList_iff_getElem?_eq_some]

theorem getElem?_routes_releaseRoutesAt
    : (m.releaseRoutesAt hostId).routes[slotId]? = some route ↔
      m.routes[slotId]? = some route ∧ route.hostId ≠ hostId := by
  have hroutes : (m.releaseRoutesAt hostId).routes[slotId]? =
      if slotId ∈ m.slotsRoutedTo hostId then none else m.routes[slotId]? :=
    getElem?_routes_foldl _ _
  rw [hroutes]
  have hmem : slotId ∈ m.slotsRoutedTo hostId ↔ _ := mem_slotsRoutedTo
  split
  next hrouted =>
    obtain ⟨route', hroute', hhost⟩ := hmem.mp hrouted
    simp only [reduceCtorEq, false_iff]
    rintro ⟨hroute, hne⟩
    rw [hroute] at hroute'
    cases hroute'
    exact hne hhost
  next hnot =>
    constructor
    . intro hroute
      exact ⟨hroute, fun hhost => hnot (hmem.mpr ⟨route, hroute, hhost⟩)⟩
    . rintro ⟨hroute, _⟩
      exact hroute

theorem Agrees.releaseRoutesAt (h : m.Agrees) (hostId : String)
    : (m.releaseRoutesAt hostId).Agrees := by
  have hfold := h.foldl_unbindSlot (m.slotsRoutedTo hostId)
  constructor
  . intro slotId hostId' n
    by_cases hhost : hostId' = hostId
    . subst hhost
      have hempty : (m.releaseRoutesAt hostId').padSet hostId' = .empty := by
        simp [MoonlightManager.releaseRoutesAt, padSet]
      rw [hempty, assignment_eq_some]
      simp only [getElem?_routes_releaseRoutesAt]
      grind [PadSlots.numberFor, PadSlots.empty]
    . have hsame : (m.releaseRoutesAt hostId).padSet hostId' =
          ((m.slotsRoutedTo hostId).foldl MoonlightManager.unbindSlot m).padSet hostId' := by
        simp [MoonlightManager.releaseRoutesAt, padSet, TreeMap.getElem?_erase, Ne.symm hhost]
      rw [hsame]
      exact hfold.tables slotId hostId' n
  . exact hfold.bound

theorem Sound.forgetHost (h : m.Sound) (hostId : String) : (m.forgetHost hostId).Sound := by
  have hdetached : { m with sessions := m.sessions.erase hostId }.Agrees := ⟨h.tables, h.bound⟩
  have hreleased :
      ({ m with sessions := m.sessions.erase hostId }.releaseRoutesAt hostId).Sound := by
    refine ⟨hdetached.releaseRoutesAt hostId, ?_⟩
    have hsessions (hostId' : String) :
        ({ m with sessions := m.sessions.erase hostId }.releaseRoutesAt
          hostId).sessions[hostId']? =
        if hostId' = hostId then none else m.sessions[hostId']? := by
      rw [releaseRoutesAt]
      dsimp only
      rw [(sessions_foldl _).1]
      simp only [TreeMap.getElem?_erase, Std.compare_eq_iff_eq, eq_comm (a := hostId)]
    constructor
    . intro slotId route hroute
      obtain ⟨hroute, hhost⟩ := getElem?_routes_releaseRoutesAt.mp hroute
      rw [hsessions, if_neg hhost]
      exact h.owned slotId route hroute
    . intro hostId' session hsession
      rw [hsessions] at hsession
      split at hsession
      . contradiction
      . rw [releaseRoutesAt]
        dsimp only
        rw [(sessions_foldl _).2]
        exact h.made hostId' session hsession
    . intro hostId₁ hostId₂ session h₁ h₂
      rw [hsessions] at h₁ h₂
      have hdistinct := h.distinct hostId₁ hostId₂ session
      grind
  unfold MoonlightManager.forgetHost
  dsimp only
  split
  . exact hreleased.keeps (Keeps.refl.call _ _)
  . exact hreleased

theorem Sound.step (h : m.Sound) (a : Act) : (m.step a).Sound := by
  cases a with
  | bindSlot slotId hostId ask => exact h.bindSlot slotId hostId ask
  | unbindSlot slotId => exact h.unbindSlot slotId
  | forgetHost hostId => exact h.forgetHost hostId
  | ensureSession hostId identity => exact (h.ensureSession hostId identity).1
  | forwardReport slotId report => exact h.forwardReport slotId report
  | forwardClick slotId buttonPressed => exact h.forwardClick slotId buttonPressed

theorem sound_initial : ({} : MoonlightManager).Sound := by
  refine ⟨⟨?_, ?_⟩, ?_, ?_, ?_⟩
  . intro slotId hostId n
    simp [assignment, padSet, PadSlots.empty, PadSlots.numberFor]
  . simp [assignment]
  . simp
  . simp
  . simp

theorem sound_run (acts : List Act) : (({} : MoonlightManager).run acts).Sound := by
  apply List.foldlRecOn (motive := Sound) _ _ sound_initial
  intro m hm a _
  exact hm.step a

end

def MaskOf (m : MoonlightManager) (hostId : String) (mask : BitVec 16) : Prop :=
  ∀ k, mask.getLsbD k = true ↔ ∃ slotId, m.assignment slotId = some (hostId, k)

def SendsFrame (m m' : MoonlightManager) (slotId : String) : Prop :=
  ∃ (route : Route) (frame : ControllerState), m.routes[slotId]? = some route ∧
    m'.calls = m.calls ++ [(route.session, .sendControllerState frame)] ∧
    frame.controllerNumber = route.controllerNumber ∧
    m.MaskOf route.hostId frame.activeGamepadMask

section

variable {m : MoonlightManager}

theorem Agrees.maskOf_padSet (h : m.Agrees) (hostId : String)
    : m.MaskOf hostId (m.padSet hostId).activeMask := by
  intro k
  simp only [PadSlots.getLsbD_activeMask, h.tables]

theorem Agrees.maskOf_activeMask (h : m.Agrees) (hroute : m.routes[slotId]? = some route)
    : m.MaskOf route.hostId (m.activeMask route) := by
  -- The host has a pad set, since it gives the slot a number.
  have hnumber : (m.padSet route.hostId).numberFor slotId = some route.controllerNumber := by
    rw [← h.tables, assignment_eq_some]
    exact ⟨route, hroute, rfl, rfl⟩
  have hmask : m.activeMask route = (m.padSet route.hostId).activeMask := by
    unfold activeMask
    split
    next padSet hpadSet => simp [MoonlightManager.padSet, hpadSet]
    next hnone => simp [padSet, hnone, PadSlots.empty, PadSlots.numberFor] at hnumber
  rw [hmask]
  exact h.maskOf_padSet route.hostId

theorem forwardReport_of_none (h : m.assignment slotId = none) (report : PadReport)
    : m.forwardReport slotId report = m := by
  have hroute : m.routes[slotId]? = none := by simpa [assignment] using h
  simp [forwardReport, hroute]

theorem Agrees.sendsFrame_forwardReport (h : m.Agrees)
    (hsome : m.assignment slotId ≠ none) (report : PadReport)
    : m.SendsFrame (m.forwardReport slotId report) slotId := by
  obtain ⟨assigned, hassigned⟩ := Option.ne_none_iff_exists'.mp hsome
  obtain ⟨route, hroute, _⟩ := assignment_eq_some.mp hassigned
  have hbound : m.anyBound = true := h.bound.mpr ⟨slotId, Option.isSome_iff_ne_none.mpr hsome⟩
  simp only [forwardReport, hbound, hroute, Bool.not_true, Bool.false_eq_true, if_false]
  exact ⟨route, _, hroute, rfl, rfl, h.maskOf_activeMask hroute⟩

theorem Agrees.sendsFrame_forwardClick (h : m.Agrees) (slotId : String) (buttonPressed : Bool)
    : m.forwardClick slotId buttonPressed = m ∨
      m.SendsFrame (m.forwardClick slotId buttonPressed) slotId := by
  unfold forwardClick
  split
  . exact .inl rfl
  . split
    next => exact .inl rfl
    next route hroute =>
      dsimp only
      split
      . exact .inl rfl
      . exact .inr ⟨route, _, hroute, rfl, rfl, h.maskOf_activeMask hroute⟩

theorem calls_unbindSlot (hroute : m.routes[slotId]? = some route)
    : ∃ rest : List (Nat × SessionCall), (m.unbindSlot slotId).calls = m.calls ++
        (route.session, .sendControllerState
          { controllerNumber := route.controllerNumber
            activeGamepadMask := ((m.padSet route.hostId).release slotId).activeMask }) :: rest ∧
      ∀ call ∈ rest, call.2 ∈ [.forgetControllerArrival route.controllerNumber, .quit] := by
  rw [unbindSlot_of_some hroute]
  unfold farewell
  split
  . refine ⟨[(route.session, .forgetControllerArrival route.controllerNumber),
      (route.session, .quit)], ?_, by simp⟩
    simp [callSession, withoutSlot]
  . refine ⟨[(route.session, .forgetControllerArrival route.controllerNumber)], ?_, by simp⟩
    simp [callSession, withoutSlot]

theorem Agrees.getLsbD_farewell (h : m.Agrees)
    (hassigned : m.assignment slotId = some (hostId, n)) (k : Nat)
    : ((m.padSet hostId).release slotId).activeMask.getLsbD k = true ↔
      k ≠ n ∧ ∃ slotId', m.assignment slotId' = some (hostId, k) := by
  have hn : (m.padSet hostId).numberFor slotId = some n := (h.tables slotId hostId n).mp hassigned
  simp only [PadSlots.getLsbD_activeMask, PadSlots.numberFor_release, h.tables]
  constructor
  . rintro ⟨slotId', hk⟩
    split at hk
    . contradiction
    next hne =>
      refine ⟨?_, slotId', hk⟩
      rintro rfl
      exact hne (PadSlots.slot_of_number hk hn)
  . rintro ⟨hne, slotId', hk⟩
    refine ⟨slotId', ?_⟩
    rw [if_neg]
    . exact hk
    . rintro rfl
      rw [hn] at hk
      exact hne (Option.some.inj hk).symm

end

structure OneAssignment (m : MoonlightManager) : Prop where
  tables : ∀ slotId hostId n,
    m.assignment slotId = some (hostId, n) ↔ (m.padSet hostId).numberFor slotId = some n
  below : ∀ slotId hostId n, m.assignment slotId = some (hostId, n) → n < kMaxPads
  numbers : ∀ slotId slotId' hostId n, m.assignment slotId = some (hostId, n) →
    m.assignment slotId' = some (hostId, n) → slotId = slotId'
  hosts : ∀ slotId hostId hostId' n n', (m.padSet hostId).numberFor slotId = some n →
    (m.padSet hostId').numberFor slotId = some n' → hostId = hostId' ∧ n = n'
  least : ∀ slotId hostId ask hostId' n,
    (m.bindSlot slotId hostId ask).2.assignment slotId = some (hostId', n) →
    m.assignment slotId ≠ some (hostId', n) →
    hostId' = hostId ∧
      (∀ k < n, ∃ slotId', slotId' ≠ slotId ∧ m.assignment slotId' = some (hostId, k)) ∧
      ∀ slotId', slotId' ≠ slotId → m.assignment slotId' ≠ some (hostId, n)
  reports : ∀ slotId report,
    if m.assignment slotId = none then m.forwardReport slotId report = m
    else m.SendsFrame (m.forwardReport slotId report) slotId
  clicks : ∀ slotId buttonPressed,
    m.forwardClick slotId buttonPressed = m ∨
      m.SendsFrame (m.forwardClick slotId buttonPressed) slotId
  farewell : ∀ slotId hostId n, m.assignment slotId = some (hostId, n) →
    ∃ (session : Nat) (frame : ControllerState) (rest : List (Nat × SessionCall)),
      (m.unbindSlot slotId).calls =
        m.calls ++ (session, .sendControllerState frame) :: rest ∧
      (∀ call ∈ rest, call.2 ∈ [.forgetControllerArrival n, .quit]) ∧
      frame.controllerNumber = n ∧
      ∀ k, frame.activeGamepadMask.getLsbD k = true ↔
        k ≠ n ∧ ∃ slotId', m.assignment slotId' = some (hostId, k)

theorem one_assignment_of_run (acts : List Act)
    : (({} : MoonlightManager).run acts).OneAssignment := by
  have h := sound_run acts
  generalize ({} : MoonlightManager).run acts = m at h
  constructor
  case tables => exact h.tables
  case below =>
    intro slotId hostId n hassigned
    exact PadSlots.numberFor_lt ((h.tables slotId hostId n).mp hassigned)
  case numbers =>
    intro slotId slotId' hostId n hassigned hassigned'
    exact PadSlots.slot_of_number ((h.tables slotId hostId n).mp hassigned)
      ((h.tables slotId' hostId n).mp hassigned')
  case hosts =>
    intro slotId hostId hostId' n n' hn hn'
    rw [← h.tables] at hn hn'
    rw [hn] at hn'
    cases hn'
    exact ⟨rfl, rfl⟩
  case least =>
    intro slotId hostId ask hostId' n hafter hbefore
    exact h.least_free hafter hbefore
  case reports =>
    intro slotId report
    split
    next hnone => exact forwardReport_of_none hnone report
    next hsome => exact h.sendsFrame_forwardReport hsome report
  case clicks => exact h.sendsFrame_forwardClick
  case farewell =>
    intro slotId hostId n hassigned
    obtain ⟨route, hroute, rfl, rfl⟩ := assignment_eq_some.mp hassigned
    obtain ⟨rest, hcalls, hrest⟩ := calls_unbindSlot hroute
    exact ⟨_, _, rest, hcalls, hrest, rfl, h.getLsbD_farewell hassigned⟩

-- A number that comes free is given to the next slot.
example :
    let ask : BindRequest :=
      { known := true, identity := true, arrival := ⟨1#8, 0#8⟩, touchReaches := false,
        userMotionOn := true, pickRemoved := false }
    (({} : MoonlightManager).run [.bindSlot "a" "host" ask, .bindSlot "b" "host" ask,
      .unbindSlot "a", .bindSlot "c" "host" ask]).assignment "c" = some ("host", 0) := by
  decide +kernel

end MoonlightManager

end Moonlight
