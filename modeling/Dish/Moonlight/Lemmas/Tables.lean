import Dish.Moonlight.Forwarding
import Dish.Moonlight.Lemmas.Announced

/-!
This module contains the tables of a `MoonlightManager` between two steps of the main thread.
-/

open Std

namespace Moonlight

namespace MoonlightManager

def Numbered (m : MoonlightManager) (session number : Nat) : Prop :=
  ∃ hostId slotId, m.sessions[hostId]? = some session ∧
    (m.padSet hostId).numberFor slotId = some number

def AtPlace (m : MoonlightManager) : Place → Prop
  | .idle | .launching _ => True
  | .erasing _ bind | .closing _ bind => ∀ b ∈ bind, m.sessions[b.hostId]? = some b.session
  | .releasing slotId route bind =>
    m.sessions[route.hostId]? = some route.session ∧ m.routes[slotId]? = none ∧
      (m.padSet route.hostId).numberFor slotId = some route.controllerNumber ∧
      ∀ b ∈ bind, m.sessions[b.hostId]? = some b.session
  | .parting route bind =>
    m.sessions[route.hostId]? = some route.session ∧
      route.controllerNumber ∈ m.announced route.session ∧
      ¬m.Numbered route.session route.controllerNumber ∧
      ∀ b ∈ bind, m.sessions[b.hostId]? = some b.session
  | .assigning b => m.sessions[b.hostId]? = some b.session
  | .publishing b number _ =>
    m.sessions[b.hostId]? = some b.session ∧ (m.padSet b.hostId).numberFor b.slotId = some number
  | .arriving b number _ => m.Numbered b.session number
  | .greeting b number _ => number ∈ m.announced b.session
  | .announcing session numbers => ∀ number ∈ numbers, number ∈ m.announced session
  | .introducing session number numbers =>
    number ∈ m.announced session ∧ ∀ number ∈ numbers, number ∈ m.announced session

end MoonlightManager

section

variable (session number : Nat)

def Place.Owes : Place → Prop
  | .publishing b n _ | .arriving b n _ => b.session = session ∧ n = number
  | _ => False

def Place.Parts : Place → Prop
  | .parting route _ => route.session = session ∧ route.controllerNumber = number
  | _ => False

def Place.Pending : Place → Prop
  | .announcing k numbers | .introducing k _ numbers => k = session ∧ number ∈ numbers
  | _ => False

end

namespace MoonlightManager

variable {b : Bind} {bind : Option Bind} {p : PadSlots} {route : Route} {slotId : String}

variable {m m' : MoonlightManager} {place place' : Place}

structure Tables (m : MoonlightManager) (place : Place) : Prop where
  made : ∀ (hostId : String) (session : Nat), m.sessions[hostId]? = some session → session < m.created
  distinct : ∀ (hostId hostId' : String) (session : Nat), m.sessions[hostId]? = some session →
    m.sessions[hostId']? = some session → hostId = hostId'
  housed : ∀ (hostId slotId : String) (number : Nat), (m.padSet hostId).numberFor slotId = some number →
    m.sessions[hostId]?.isSome = true
  routed : ∀ (slotId : String) (route : Route), m.routes[slotId]? = some route →
    m.sessions[route.hostId]? = some route.session ∧
      (m.padSet route.hostId).numberFor slotId = some route.controllerNumber
  present : ∀ session number, m.Numbered session number →
    number ∈ m.announced session ∨ place.Owes session number
  known : ∀ session number, number ∈ m.announced session →
    m.Numbered session number ∨ place.Parts session number
  here : m.AtPlace place

structure Alike (m m' : MoonlightManager) : Prop where
  sessions : m'.sessions = m.sessions
  created : m'.created = m.created
  padSet : ∀ hostId, m'.padSet hostId = m.padSet hostId
  announced : ∀ session number, number ∈ m'.announced session ↔ number ∈ m.announced session
  routes : ∀ (slotId : String) (route : Route), m'.routes[slotId]? = some route →
    ∃ route', m.routes[slotId]? = some route' ∧ route'.hostId = route.hostId ∧
      route'.session = route.session ∧ route'.controllerNumber = route.controllerNumber

theorem Alike.refl (m : MoonlightManager) : Alike m m := by
  refine ⟨rfl, rfl, fun _ => rfl, fun _ _ => Iff.rfl, ?_⟩
  intro slotId route hroute
  exact ⟨route, hroute, rfl, rfl, rfl⟩

theorem Alike.numbered (h : Alike m m') (session number : Nat)
    : m'.Numbered session number ↔ m.Numbered session number := by
  simp only [Numbered, h.sessions, h.padSet]

theorem Alike.atPlace (h : Alike m m') (hplace : m.AtPlace place) : m'.AtPlace place := by
  cases place with
  | releasing slotId route bind =>
    obtain ⟨hsession, hnone, hnumber, hbind⟩ := hplace
    refine ⟨by rwa [h.sessions], ?_, by rwa [h.padSet], by rwa [h.sessions]⟩
    rw [Option.eq_none_iff_forall_ne_some]
    intro route' hroute'
    obtain ⟨found, hfound, _⟩ := h.routes slotId route' hroute'
    rw [hnone] at hfound
    contradiction
  | idle | launching b => trivial
  | _ => simpa only [AtPlace, h.sessions, h.padSet, h.announced, h.numbered] using hplace

theorem Tables.alike (h : m.Tables place) (halike : Alike m m')
    (howes : ∀ session number, place.Owes session number → place'.Owes session number)
    (hparts : ∀ session number, place.Parts session number → place'.Parts session number)
    (hplace : m'.AtPlace place')
    : m'.Tables place' := by
  constructor
  . rw [halike.sessions, halike.created]
    exact h.made
  . rw [halike.sessions]
    exact h.distinct
  . intro hostId slotId number
    rw [halike.sessions, halike.padSet]
    exact h.housed hostId slotId number
  . intro slotId route hroute
    obtain ⟨route', hroute', hhost, hsession, hnumber⟩ := halike.routes slotId route hroute
    rw [halike.sessions, halike.padSet, ← hhost, ← hsession, ← hnumber]
    exact h.routed slotId route' hroute'
  . intro session number hnumbered
    rw [halike.announced]
    exact (h.present session number ((halike.numbered session number).mp hnumbered)).imp_right
      (howes session number)
  . intro session number hmem
    rw [halike.numbered]
    exact (h.known session number ((halike.announced session number).mp hmem)).imp_right
      (hparts session number)
  . exact hplace

theorem alike_call (m : MoonlightManager) (session : Nat) {call : SessionCall}
    (hcall : call ∈ [.launch, .quit] ∨ ∃ frame, call = .sendControllerState frame)
    : Alike m (m.callSession session call) := by
  refine ⟨rfl, rfl, fun _ => rfl, ?_, ?_⟩
  . intro session' number
    rw [mem_announced_callSession]
    rcases hcall with hcall | ⟨frame, rfl⟩
    . simp only [List.mem_cons, List.not_mem_nil, or_false] at hcall
      rcases hcall with rfl | rfl
      . simp
      . simp
    . simp
  . intro slotId route hroute
    exact ⟨route, hroute, rfl, rfl, rfl⟩

theorem mem_announced_announce {session number k n : Nat} {call : SessionCall} {pad : AnnouncedPad}
    (hcall : call = .sendControllerArrival number pad ∨ call = .sendControllerReplug number pad)
    : n ∈ (m.callSession session call).announced k ↔
      n ∈ m.announced k ∨ (k = session ∧ n = number) := by
  rcases hcall with rfl | rfl
  all_goals
    simp only [mem_announced_callSession, SessionCall.sendControllerArrival.injEq,
      SessionCall.sendControllerReplug.injEq, reduceCtorEq, or_false, false_or, and_false,
      not_false_eq_true, and_true]
    grind

theorem alike_setRoute {route' : Route}
    (hroute : m.routes[slotId]? = some route) (hhost : route'.hostId = route.hostId)
    (hsession : route'.session = route.session)
    (hnumber : route'.controllerNumber = route.controllerNumber)
    : Alike m { m with routes := m.routes.insert slotId route' } := by
  refine ⟨rfl, rfl, fun _ => rfl, fun _ _ => Iff.rfl, ?_⟩
  intro slotId' found hfound
  simp only [TreeMap.getElem?_insert, Std.compare_eq_iff_eq] at hfound
  split at hfound
  next heq =>
    cases hfound
    exact ⟨route, heq ▸ hroute, hhost.symm, hsession.symm, hnumber.symm⟩
  next => exact ⟨found, hfound, rfl, rfl, rfl⟩

theorem Tables.numbered_of_route (h : m.Tables place) (hroute : m.routes[slotId]? = some route)
    : m.Numbered route.session route.controllerNumber := by
  obtain ⟨hsession, hnumber⟩ := h.routed slotId route hroute
  exact ⟨route.hostId, slotId, hsession, hnumber⟩

theorem Tables.erase (h : m.Tables place) (howes : ∀ session number, ¬place.Owes session number)
    (hparts : ∀ session number, ¬place.Parts session number)
    (hroute : m.routes[slotId]? = some route)
    (hbind : ∀ b ∈ bind, m.sessions[b.hostId]? = some b.session)
    : { m with routes := m.routes.erase slotId, anyBound := !(m.routes.erase slotId).isEmpty }.Tables
        (.releasing slotId route bind) := by
  obtain ⟨hsession, hnumber⟩ := h.routed slotId route hroute
  have halike : Alike m
      { m with routes := m.routes.erase slotId, anyBound := !(m.routes.erase slotId).isEmpty } := by
    refine ⟨rfl, rfl, fun _ => rfl, fun _ _ => Iff.rfl, ?_⟩
    intro slotId' found hfound
    simp only [TreeMap.getElem?_erase] at hfound
    split at hfound
    . contradiction
    . exact ⟨found, hfound, rfl, rfl, rfl⟩
  apply h.alike halike
  . intro session number hold
    exact absurd hold (howes session number)
  . intro session number hold
    exact absurd hold (hparts session number)
  . exact ⟨hsession, by simp, hnumber, hbind⟩

def withPads (m : MoonlightManager) (hostId : String) (p : PadSlots) : MoonlightManager :=
  { m with padSlots := m.padSlots.insert hostId p }

theorem padSet_withPads (hostId hostId' : String) (p : PadSlots)
    : (m.withPads hostId p).padSet hostId' = if hostId' = hostId then p else m.padSet hostId' := by
  exact padSet_of_insert rfl hostId'

theorem numberFor_release (hostId hostId' slotId slotId' : String)
    : ((m.withPads hostId ((m.padSet hostId).release slotId)).padSet hostId').numberFor slotId' =
      if hostId' = hostId ∧ slotId' = slotId then none else (m.padSet hostId').numberFor slotId' := by
  rw [padSet_withPads]
  by_cases hhost : hostId' = hostId
  . rw [if_pos hhost, PadSlots.numberFor_release, hhost]
    simp
  . simp [hhost]

theorem numberFor_assign {hostId : String} {number : Nat}
    (hassign : (m.padSet hostId).assign slotId = some (number, p)) (hostId' slotId' : String)
    : ((m.withPads hostId p).padSet hostId').numberFor slotId' =
      if hostId' = hostId ∧ slotId' = slotId then some number
      else (m.padSet hostId').numberFor slotId' := by
  rw [padSet_withPads]
  by_cases hhost : hostId' = hostId
  . rw [if_pos hhost, PadSlots.numberFor_of_assign hassign, hhost]
    simp
  . simp [hhost]

theorem Tables.release (h : m.Tables (.releasing slotId route bind))
    : (m.withPads route.hostId ((m.padSet route.hostId).release slotId)).Tables
        (.parting route bind) := by
  obtain ⟨hsession, hnone, hnumber, hbind⟩ := h.here
  have hsub (hostId slotId' : String) (n : Nat)
      (hn : ((m.withPads route.hostId ((m.padSet route.hostId).release slotId)).padSet
        hostId).numberFor slotId' = some n) :
      (m.padSet hostId).numberFor slotId' = some n ∧ ¬(hostId = route.hostId ∧ slotId' = slotId) := by
    rw [numberFor_release] at hn
    split at hn
    . contradiction
    next hne => exact ⟨hn, hne⟩
  have hwas : m.Numbered route.session route.controllerNumber :=
    ⟨route.hostId, slotId, hsession, hnumber⟩
  constructor
  . exact h.made
  . exact h.distinct
  . intro hostId slotId' n hn
    exact h.housed hostId slotId' n (hsub hostId slotId' n hn).1
  . intro slotId' route' hroute'
    obtain ⟨hsession', hnumber'⟩ := h.routed slotId' route' hroute'
    refine ⟨hsession', ?_⟩
    rw [numberFor_release, if_neg, hnumber']
    rintro ⟨_, rfl⟩
    exact absurd (hnone.symm.trans hroute') (by simp)
  . rintro session n ⟨hostId, slotId', hs, hn⟩
    have hold : m.Numbered session n := ⟨hostId, slotId', hs, (hsub hostId slotId' n hn).1⟩
    exact .inl ((h.present session n hold).resolve_right id)
  . intro session n hmem
    obtain ⟨hostId, slotId', hs, hn⟩ := (h.known session n hmem).resolve_right id
    by_cases heq : hostId = route.hostId ∧ slotId' = slotId
    . obtain ⟨rfl, rfl⟩ := heq
      rw [hsession] at hs
      rw [hnumber] at hn
      exact .inr ⟨Option.some.inj hs, Option.some.inj hn⟩
    . left
      refine ⟨hostId, slotId', hs, ?_⟩
      rw [numberFor_release, if_neg heq, hn]
  . refine ⟨hsession, (h.present _ _ hwas).resolve_right id, ?_, hbind⟩
    -- The number had no other slot.
    rintro ⟨hostId, slotId', hs, hn⟩
    obtain ⟨hold, hne⟩ := hsub hostId slotId' _ hn
    obtain rfl := h.distinct _ _ _ hs hsession
    exact hne ⟨rfl, PadSlots.slot_of_number hold hnumber⟩

theorem Tables.part (h : m.Tables (.parting route bind))
    (hannounced : ∀ session number, number ∈ m'.announced session ↔
      number ∈ m.announced session ∧ ¬(session = route.session ∧ number = route.controllerNumber))
    (hkeeps : Keeps m m')
    : m'.Tables (.closing route bind) := by
  obtain ⟨_, _, hnot, hbind⟩ := h.here
  have hnumbered (session number : Nat) : m'.Numbered session number ↔ m.Numbered session number := by
    simp only [Numbered, hkeeps.sessions, hkeeps.padSet]
  constructor
  . rw [hkeeps.sessions, hkeeps.created]
    exact h.made
  . rw [hkeeps.sessions]
    exact h.distinct
  . intro hostId slotId n
    rw [hkeeps.sessions, hkeeps.padSet]
    exact h.housed hostId slotId n
  . intro slotId route'
    rw [hkeeps.sessions, hkeeps.padSet, hkeeps.routes]
    exact h.routed slotId route'
  . intro session n hn
    rw [hnumbered] at hn
    left
    rw [hannounced]
    refine ⟨(h.present session n hn).resolve_right id, ?_⟩
    rintro ⟨rfl, rfl⟩
    exact hnot hn
  . intro session n hn
    rw [hannounced] at hn
    left
    rw [hnumbered]
    refine (h.known session n hn.1).resolve_right ?_
    rintro ⟨rfl, rfl⟩
    exact hn.2 ⟨rfl, rfl⟩
  . change ∀ b ∈ bind, _
    rw [hkeeps.sessions]
    exact hbind

theorem Tables.not_announced (h : m.Tables (.assigning b)) {number : Nat}
    (hassign : (m.padSet b.hostId).assign b.slotId = some (number, p))
    : number ∉ m.announced b.session := by
  intro hmem
  obtain ⟨hostId, slotId, hsession, hnumber⟩ := (h.known _ _ hmem).resolve_right id
  obtain rfl := h.distinct _ _ _ hsession h.here
  have hfree := (PadSlots.lowestFree_eq_some.mp (PadSlots.assign_eq_some hassign).2.1).2.1
  have htaken : (m.padSet b.hostId).taken number = true :=
    PadSlots.taken_eq_true.mpr ⟨slotId, PadSlots.numberFor_eq_some.mp hnumber⟩
  rw [htaken] at hfree
  contradiction

theorem Tables.assign (h : m.Tables (.assigning b)) {number : Nat}
    (hassign : (m.padSet b.hostId).assign b.slotId = some (number, p)) (first : Bool)
    : (m.withPads b.hostId p).Tables (.publishing b number first) := by
  have hsession : m.sessions[b.hostId]? = some b.session := h.here
  have hnone := (PadSlots.assign_eq_some hassign).1
  have hother {hostId slotId : String} {n : Nat} (hn : (m.padSet hostId).numberFor slotId = some n) :
      ¬(hostId = b.hostId ∧ slotId = b.slotId) := by
    rintro ⟨rfl, rfl⟩
    rw [hnone] at hn
    contradiction
  constructor
  . exact h.made
  . exact h.distinct
  . intro hostId slotId n hn
    rw [numberFor_assign hassign] at hn
    split at hn
    next heq =>
      rw [heq.1]
      exact (congrArg Option.isSome hsession).trans rfl
    next => exact h.housed hostId slotId n hn
  . intro slotId route hroute
    obtain ⟨hs, hn⟩ := h.routed slotId route hroute
    refine ⟨hs, ?_⟩
    rw [numberFor_assign hassign, if_neg (hother hn), hn]
  . rintro session n ⟨hostId, slotId, hs, hn⟩
    rw [numberFor_assign hassign] at hn
    split at hn
    next heq =>
      obtain ⟨rfl, rfl⟩ := heq
      exact .inr ⟨Option.some.inj (hsession.symm.trans hs), Option.some.inj hn⟩
    next => exact .inl ((h.present session n ⟨hostId, slotId, hs, hn⟩).resolve_right id)
  . intro session n hmem
    obtain ⟨hostId, slotId, hs, hn⟩ := (h.known session n hmem).resolve_right id
    left
    refine ⟨hostId, slotId, hs, ?_⟩
    rw [numberFor_assign hassign, if_neg (hother hn), hn]
  . refine ⟨hsession, ?_⟩
    rw [numberFor_assign hassign, if_pos ⟨rfl, rfl⟩]

theorem Tables.publish {number : Nat} {first : Bool}
    (h : m.Tables (.publishing b number first)) (hhost : route.hostId = b.hostId)
    (hsession : route.session = b.session) (hnumber : route.controllerNumber = number)
    : { m with routes := m.routes.insert b.slotId route, anyBound := true }.Tables
        (.arriving b number first) := by
  obtain ⟨hhere, hslot⟩ := h.here
  refine ⟨h.made, h.distinct, h.housed, ?_, h.present, h.known, ⟨b.hostId, b.slotId, hhere, hslot⟩⟩
  intro slotId found hfound
  simp only [TreeMap.getElem?_insert, Std.compare_eq_iff_eq] at hfound
  split at hfound
  next heq =>
    cases hfound
    subst heq
    rw [hhost, hsession, hnumber]
    exact ⟨hhere, hslot⟩
  next => exact h.routed slotId found hfound

theorem Tables.announce (h : m.Tables place) {session number : Nat}
    (hannounced : ∀ session' n, n ∈ m'.announced session' ↔
      n ∈ m.announced session' ∨ (session' = session ∧ n = number))
    (hkeeps : Keeps m m') (hnumbered : m.Numbered session number)
    (howes : ∀ session' n, place.Owes session' n → session' = session ∧ n = number)
    (hparts : ∀ session' n, ¬place.Parts session' n) (hplace : m'.AtPlace place')
    : m'.Tables place' := by
  have hsame (session' n : Nat) : m'.Numbered session' n ↔ m.Numbered session' n := by
    simp only [Numbered, hkeeps.sessions, hkeeps.padSet]
  constructor
  . rw [hkeeps.sessions, hkeeps.created]
    exact h.made
  . rw [hkeeps.sessions]
    exact h.distinct
  . intro hostId slotId n
    rw [hkeeps.sessions, hkeeps.padSet]
    exact h.housed hostId slotId n
  . intro slotId route
    rw [hkeeps.sessions, hkeeps.padSet, hkeeps.routes]
    exact h.routed slotId route
  . intro session' n hn
    left
    rw [hannounced]
    exact (h.present session' n ((hsame session' n).mp hn)).imp_right (howes session' n)
  . intro session' n hn
    left
    rw [hsame]
    rcases (hannounced session' n).mp hn with hold | ⟨rfl, rfl⟩
    . exact (h.known session' n hold).resolve_right (hparts session' n)
    . exact hnumbered
  . exact hplace

theorem Tables.ensureSession (h : m.Tables .idle) (hostId : String) (identity : Bool)
    : (m.ensureSession hostId identity).2.Tables .idle ∧
      ∀ session, (m.ensureSession hostId identity).1 = some session →
        (m.ensureSession hostId identity).2.sessions[hostId]? = some session := by
  unfold MoonlightManager.ensureSession
  split
  next session hsession =>
    refine ⟨h, ?_⟩
    rintro session' ⟨⟩
    exact hsession
  next hnone =>
    split
    . have hget (hostId' : String) : (m.sessions.insert hostId m.created)[hostId']? =
          if hostId' = hostId then some m.created else m.sessions[hostId']? := by
        simp only [TreeMap.getElem?_insert, Std.compare_eq_iff_eq, eq_comm (a := hostId)]
      have hkept {hostId' : String} {session : Nat} (hs : m.sessions[hostId']? = some session) :
          (m.sessions.insert hostId m.created)[hostId']? = some session := by
        rw [hget, if_neg, hs]
        rintro rfl
        rw [hnone] at hs
        contradiction
      refine ⟨⟨?_, ?_, ?_, ?_, ?_, ?_, trivial⟩, ?_⟩
      . intro hostId' session hs
        rw [hget] at hs
        split at hs
        . cases hs
          exact Nat.lt_succ_self _
        . exact Nat.lt_succ_of_lt (h.made hostId' session hs)
      . intro hostId₁ hostId₂ session h₁ h₂
        rw [hget] at h₁ h₂
        have hnew := h.made hostId₁ session
        have hnew' := h.made hostId₂ session
        have hdistinct := h.distinct hostId₁ hostId₂ session
        grind
      . intro hostId' slotId n hn
        obtain ⟨session, hs⟩ := Option.isSome_iff_exists.mp (h.housed hostId' slotId n hn)
        exact Option.isSome_of_eq_some (hkept hs)
      . intro slotId route hroute
        obtain ⟨hs, hn⟩ := h.routed slotId route hroute
        exact ⟨hkept hs, hn⟩
      . rintro session n ⟨hostId', slotId, hs, hn⟩
        obtain ⟨session', hs'⟩ := Option.isSome_iff_exists.mp (h.housed hostId' slotId n hn)
        have heq : session' = session := Option.some.inj ((hkept hs').symm.trans hs)
        exact h.present session n ⟨hostId', slotId, heq ▸ hs', hn⟩
      . intro session n hn
        obtain ⟨hostId', slotId, hs, hn⟩ := (h.known session n hn).resolve_right id
        exact .inl ⟨hostId', slotId, hkept hs, hn⟩
      . rintro session ⟨⟩
        rw [hget, if_pos rfl]
    . exact ⟨h, by simp⟩

end MoonlightManager

end Moonlight
