import Dish.Moonlight.Lemmas.Arrived

/-!
This module contains the proof that the two threads leave the tables of calls made at once.
-/

open Std Transition

namespace Moonlight

def Route.core (route : Route) : Route :=
  { route with lastFrame := {} }

def SameRoutes (a b : TreeMap String Route) : Prop :=
  ∀ slotId : String, b[slotId]?.map Route.core = a[slotId]?.map Route.core

def SessionCall.isState : SessionCall → Bool
  | .sendControllerState _ => true
  | _ => false

namespace SameRoutes

variable {a b : TreeMap String Route} {route route' : Route}

theorem refl (a : TreeMap String Route) : SameRoutes a a := by
  intro slotId
  rfl

theorem trans {c : TreeMap String Route} (h : SameRoutes a b) (h' : SameRoutes b c)
    : SameRoutes a c := by
  intro slotId
  exact (h' slotId).trans (h slotId)

theorem insert (h : SameRoutes a b) (hcore : route'.core = route.core) (slotId : String)
    : SameRoutes (a.insert slotId route) (b.insert slotId route') := by
  intro slotId'
  simp only [TreeMap.getElem?_insert]
  split
  . exact congrArg some hcore
  . exact h slotId'

theorem insert_right {slotId : String} (hroute : a[slotId]? = some route)
    (hcore : route'.core = route.core)
    : SameRoutes a (a.insert slotId route') := by
  intro slotId'
  rw [TreeMap.getElem?_insert]
  split
  . next heq =>
    cases Std.compare_eq_iff_eq.mp heq
    rw [hroute]
    exact congrArg some hcore
  . rfl

theorem erase (h : SameRoutes a b) (slotId : String)
    : SameRoutes (a.erase slotId) (b.erase slotId) := by
  intro slotId'
  simp only [TreeMap.getElem?_erase]
  split
  . rfl
  . exact h slotId'

theorem isEmpty (h : SameRoutes a b) : b.isEmpty = a.isEmpty := by
  rw [Bool.eq_iff_iff, TreeMap.isEmpty_iff_forall_not_mem, TreeMap.isEmpty_iff_forall_not_mem]
  apply forall_congr'
  intro slotId
  have hroute := congrArg Option.isSome (h slotId)
  simp only [Option.isSome_map] at hroute
  rw [TreeMap.mem_iff_isSome_getElem?, TreeMap.mem_iff_isSome_getElem?, hroute]

theorem cases (h : SameRoutes a b) (slotId : String)
    : (a[slotId]? = none ∧ b[slotId]? = none) ∨
      ∃ route route', a[slotId]? = some route ∧ b[slotId]? = some route' ∧
        route'.core = route.core := by
  have hroute := h slotId
  cases hold : a[slotId]? with
  | none => simpa [hold] using hroute
  | some route => simpa [hold] using hroute

end SameRoutes

namespace MoonlightManager

variable {m n : MoonlightManager}

def greeted (m : MoonlightManager) (b : Bind) (number : Nat) (first : Bool) : MoonlightManager :=
  let m := m.callSession b.session (.sendControllerArrival number b.ask.arrival)
  if first then m.launchPick b.session b.ask else m

def rebound (m : MoonlightManager) : Option Bind → MoonlightManager
  | none => m
  | some b => (m.bindFresh b.slotId b.hostId b.session b.ask).2

/-- The tables the main thread still has to come to from a place. -/
def owed (m : MoonlightManager) : Place → MoonlightManager
  | .idle | .announcing _ _ | .introducing _ _ _ => m
  | .erasing slotId bind => (m.unbindSlot slotId).rebound bind
  | .releasing slotId route bind =>
    let padSet := (m.padSet route.hostId).release slotId
    ((m.withPads route.hostId padSet).farewell route padSet).rebound bind
  | .parting route bind => (m.farewell route (m.padSet route.hostId)).rebound bind
  | .closing route bind =>
    (if (m.padSet route.hostId).isEmpty then m.callSession route.session .quit else m).rebound bind
  | .assigning b => m.rebound (some b)
  | .publishing b number first =>
    { m with
      routes := m.routes.insert b.slotId
        { session := b.session, controllerNumber := number, hostId := b.hostId,
          userMotionOn := b.ask.userMotionOn, touchReaches := b.ask.touchReaches }
      anyBound := true }.greeted b number first
  | .arriving b number first => m.greeted b number first
  | .greeting b _ launches => if launches then m.launchPick b.session b.ask else m
  | .launching b => m.launchPick b.session b.ask

def commands (calls : List (Nat × SessionCall)) : List (Nat × SessionCall) :=
  calls.filter fun call => !call.2.isState

/-- One manager is the other but for the last frames of its routes and the states it has sent. -/
def Same (m n : MoonlightManager) : Prop :=
  ∃ routes calls, n = { m with routes, calls } ∧ SameRoutes m.routes routes ∧
    commands calls = commands m.calls

namespace Same

theorem refl (m : MoonlightManager) : Same m m := by
  exact ⟨_, _, rfl, .refl _, rfl⟩

theorem trans {l : MoonlightManager} (h : Same l m) (h' : Same m n) : Same l n := by
  obtain ⟨routes, calls, rfl, hroutes, hcalls⟩ := h
  obtain ⟨routes', calls', rfl, hroutes', hcalls'⟩ := h'
  exact ⟨routes', calls', rfl, hroutes.trans hroutes', hcalls'.trans hcalls⟩

theorem callSession (h : Same m n) (session : Nat) (call : SessionCall)
    : Same (m.callSession session call) (n.callSession session call) := by
  obtain ⟨routes, calls, rfl, hroutes, hcalls⟩ := h
  refine ⟨routes, calls ++ [(session, call)], rfl, hroutes, ?_⟩
  simp only [commands, MoonlightManager.callSession, List.filter_append] at hcalls ⊢
  rw [hcalls]

theorem ite (h : Same m n) {c : Bool} {m' n' : MoonlightManager} (h' : Same m' n')
    : Same (if c then m' else m) (if c then n' else n) := by
  cases c with
  | true => exact h'
  | false => exact h

theorem launchPick (h : Same m n) (session : Nat) (ask : BindRequest)
    : Same (m.launchPick session ask) (n.launchPick session ask) := by
  apply ite _ h
  exact h.callSession session .launch

theorem greeted (b : Bind) (h : Same m n) (number : Nat) (first : Bool)
    : Same (m.greeted b number first) (n.greeted b number first) := by
  have harrived := h.callSession b.session (.sendControllerArrival number b.ask.arrival)
  exact harrived.ite (harrived.launchPick b.session b.ask)

theorem farewell (h : Same m n) {route route' : Route} (hcore : route'.core = route.core)
    (p : PadSlots)
    : Same (m.farewell route p) (n.farewell route' p) := by
  rw [show n.farewell route' p = n.farewell route'.core p from rfl, hcore]
  have hgone := (h.callSession route.session (.sendControllerState
    { controllerNumber := route.controllerNumber, activeGamepadMask := p.activeMask })).callSession
      route.session (.forgetControllerArrival route.controllerNumber)
  exact hgone.ite (hgone.callSession route.session .quit)

theorem unbindSlot (h : Same m n) (slotId : String)
    : Same (m.unbindSlot slotId) (n.unbindSlot slotId) := by
  obtain ⟨routes, calls, rfl, hroutes, hcalls⟩ := h
  unfold MoonlightManager.unbindSlot
  obtain ⟨hold, hnew⟩ | ⟨route, route', hold, hnew, hcore⟩ := hroutes.cases slotId
  . simp only [hold, hnew]
    exact ⟨routes, calls, rfl, hroutes, hcalls⟩
  . have hhost : route'.core.hostId = route.core.hostId := by rw [hcore]
    simp only [hold, hnew, show route'.hostId = route.hostId from hhost]
    rw [(hroutes.erase slotId).isEmpty]
    apply farewell _ hcore
    exact ⟨routes.erase slotId, calls, rfl, hroutes.erase slotId, hcalls⟩

theorem bindFresh (h : Same m n) (slotId hostId : String) (session : Nat) (ask : BindRequest)
    : Same (m.bindFresh slotId hostId session ask).2 (n.bindFresh slotId hostId session ask).2 := by
  obtain ⟨routes, calls, rfl, hroutes, hcalls⟩ := h
  unfold MoonlightManager.bindFresh padSet
  dsimp only
  split
  . exact ⟨routes, calls, rfl, hroutes, hcalls⟩
  . apply greeted { slotId, hostId, session, ask }
    exact ⟨_, calls, rfl, hroutes.insert rfl slotId, hcalls⟩

theorem keepPicks (h : Same m n) (slotId : String) (ask : BindRequest)
    : Same (m.keepPicks slotId ask) (n.keepPicks slotId ask) := by
  obtain ⟨routes, calls, rfl, hroutes, hcalls⟩ := h
  unfold MoonlightManager.keepPicks
  obtain ⟨hold, hnew⟩ | ⟨route, route', hold, hnew, hcore⟩ := hroutes.cases slotId
  . simp only [hold, hnew]
    exact ⟨routes, calls, rfl, hroutes, hcalls⟩
  . simp only [hold, hnew]
    refine ⟨_, calls, rfl, hroutes.insert ?_ slotId, hcalls⟩
    simp_all [Route.core]

theorem ensureSession (h : Same m n) (hostId : String) (identity : Bool)
    : (n.ensureSession hostId identity).1 = (m.ensureSession hostId identity).1 ∧
      Same (m.ensureSession hostId identity).2 (n.ensureSession hostId identity).2 := by
  obtain ⟨routes, calls, rfl, hroutes, hcalls⟩ := h
  unfold MoonlightManager.ensureSession
  dsimp only
  split
  . exact ⟨rfl, routes, calls, rfl, hroutes, hcalls⟩
  . split
    . exact ⟨rfl, routes, calls, rfl, hroutes, hcalls⟩
    . exact ⟨rfl, routes, calls, rfl, hroutes, hcalls⟩

theorem numberOnSession (h : Same m n) (slotId : String) (session : Nat)
    : n.numberOnSession slotId session = m.numberOnSession slotId session := by
  obtain ⟨routes, calls, rfl, hroutes, _⟩ := h
  unfold MoonlightManager.numberOnSession
  obtain ⟨hold, hnew⟩ | ⟨route, route', hold, hnew, hcore⟩ := hroutes.cases slotId
  . simp [hold, hnew]
  . simp_all [Route.core]

theorem reannounceInPlace (h : Same m n) (session number : Nat) (wanted : AnnouncedPad)
    : Same (m.reannounceInPlace session number wanted)
        (n.reannounceInPlace session number wanted) := by
  have hcalled := h.callSession session (.sendControllerReplug number wanted)
  obtain ⟨routes, calls, rfl, hroutes, hcalls⟩ := h
  exact ite ⟨routes, calls, rfl, hroutes, hcalls⟩ hcalled

theorem bindSlot (h : Same m n) (slotId hostId : String) (ask : BindRequest)
    : Same (m.bindSlot slotId hostId ask).2 (n.bindSlot slotId hostId ask).2 := by
  have hensured := h.ensureSession hostId ask.identity
  unfold MoonlightManager.bindSlot
  generalize m.ensureSession hostId ask.identity = a at hensured
  generalize n.ensureSession hostId ask.identity = b at hensured
  obtain ⟨found, m'⟩ := a
  obtain ⟨found', n'⟩ := b
  obtain ⟨rfl, hsame⟩ := hensured
  split
  . exact h
  . cases found' with
    | none => exact hsame
    | some session =>
      dsimp only at hsame ⊢
      rw [hsame.numberOnSession slotId session]
      cases m'.numberOnSession slotId session with
      | none => exact (hsame.unbindSlot slotId).bindFresh slotId hostId session ask
      | some held =>
        have hkept := hsame.keepPicks slotId ask
        exact (hkept.reannounceInPlace session held ask.arrival).launchPick session ask

theorem rebound (h : Same m n) (bind : Option Bind) : Same (m.rebound bind) (n.rebound bind) := by
  cases bind with
  | none => exact h
  | some b => exact h.bindFresh b.slotId b.hostId b.session b.ask

theorem owed (h : Same m n) (place : Place) : Same (m.owed place) (n.owed place) := by
  have hpads : n.padSet = m.padSet := by
    obtain ⟨routes, calls, rfl, _⟩ := h
    rfl
  cases place with
  | idle | announcing | introducing => exact h
  | erasing slotId bind => exact (h.unbindSlot slotId).rebound bind
  | releasing slotId route bind =>
    simp only [MoonlightManager.owed, hpads]
    apply rebound
    apply farewell _ rfl
    obtain ⟨routes, calls, rfl, hroutes, hcalls⟩ := h
    exact ⟨routes, calls, rfl, hroutes, hcalls⟩
  | parting route bind =>
    simp only [MoonlightManager.owed, hpads]
    exact (h.farewell rfl _).rebound bind
  | closing route bind =>
    simp only [MoonlightManager.owed, hpads]
    exact (h.ite (h.callSession route.session .quit)).rebound bind
  | assigning b => exact h.rebound (some b)
  | publishing b number first =>
    obtain ⟨routes, calls, rfl, hroutes, hcalls⟩ := h
    apply greeted
    exact ⟨_, calls, rfl, hroutes.insert rfl b.slotId, hcalls⟩
  | arriving b number first => exact h.greeted b number first
  | greeting b number launches => exact h.ite (h.launchPick b.session b.ask)
  | launching b => exact h.launchPick b.session b.ask

theorem agrees (h : Same m n) (hm : m.Agrees) : n.Agrees := by
  obtain ⟨routes, calls, rfl, hroutes, _⟩ := h
  refine hm.of_eq ?_ (fun _ => rfl) rfl
  intro slotId
  unfold assignment
  obtain ⟨hold, hnew⟩ | ⟨route, route', hold, hnew, hcore⟩ := hroutes.cases slotId
  . simp [hold, hnew]
  . simp_all [Route.core]

end Same

end MoonlightManager

namespace Forwarding

open MoonlightManager (Same owed rebound bindFresh unbindSlot commands)

variable {f f' : Forwarding}

theorem owed_afterUnbind (m : MoonlightManager) (bind : Option Bind)
    : m.owed (.afterUnbind bind) = m.rebound bind := by
  cases bind with
  | none => rfl
  | some b => rfl

theorem owed_main (h : f.main = some f') : f'.manager.owed f'.place = f.manager.owed f.place := by
  cases hplace : f.place <;> simp only [main, hplace] at h
  case erasing slotId bind =>
    split at h
    . next hroute =>
      cases h
      rw [owed_afterUnbind]
      simp only [owed, unbindSlot, hroute]
    . next route hroute =>
      cases h
      simp only [owed, unbindSlot, hroute]
      rfl
  case releasing slotId route bind =>
    cases h
    -- the farewell reads the pads that were just put back
    simp only [owed]
    congr 2
    exact (MoonlightManager.padSet_withPads ..).trans (if_pos rfl)
  case closing route bind =>
    cases h
    rw [owed_afterUnbind]
    simp only [owed, quit]
    split
    . split <;> rfl
    . rfl
  case assigning b =>
    split at h
    . next hfull =>
      cases h
      simp only [owed, rebound, bindFresh, hfull]
    . next number assigned hassign =>
      cases h
      simp only [owed, rebound, bindFresh, hassign]
      rfl
  case greeting b number launches =>
    cases h
    cases launches <;> rfl
  case launching b =>
    cases h
    simp only [owed, launchPick, MoonlightManager.launchPick]
    split <;> rfl
  case announcing session numbers =>
    cases numbers <;> cases h <;> rfl
  case idle => cases h
  case parting | publishing | arriving | introducing =>
    cases h
    rfl

theorem owed_bindSlot (hidle : f.place = .idle) (slotId hostId : String) (ask : BindRequest)
    : (f.bindSlot slotId hostId ask).manager.owed (f.bindSlot slotId hostId ask).place =
      (f.manager.bindSlot slotId hostId ask).2 := by
  unfold bindSlot MoonlightManager.bindSlot
  split
  . rw [hidle]
    rfl
  . generalize f.manager.ensureSession hostId ask.identity = ensured
    obtain ⟨found, m⟩ := ensured
    cases found with
    | none =>
      simp only [hidle]
      rfl
    | some session =>
      cases hnumber : m.numberOnSession slotId session with
      | none =>
        simp only [hnumber]
        rfl
      | some held =>
        simp only [hnumber, reannounceInPlace, MoonlightManager.reannounceInPlace]
        split
        . rfl
        . rfl

theorem same_lookUp (f : Forwarding) (slotId : String) (report : PadReport)
    : Same f.manager (f.lookUp slotId report).manager ∧
      (f.lookUp slotId report).place = f.place := by
  unfold lookUp
  split
  . exact ⟨.refl f.manager, rfl⟩
  . split
    . exact ⟨.refl f.manager, rfl⟩
    . next route hroute => exact ⟨⟨_, _, rfl, .insert_right hroute rfl, rfl⟩, rfl⟩

theorem same_sendLookedUp {i : Nat} (h : f.sendLookedUp i = some f')
    : Same f.manager f'.manager ∧ f'.place = f.place := by
  simp only [sendLookedUp, Option.bind_eq_bind, Option.bind_eq_some_iff, Option.some.injEq] at h
  obtain ⟨waiting, _, rfl⟩ := h
  refine ⟨⟨_, _, rfl, .refl _, ?_⟩, rfl⟩
  simp [commands, SessionCall.isState]

/-- The call a step starts, taken as one. The input thread starts none that reaches the tables. -/
def Act.atOnce : Act → Option MoonlightManager.Act
  | .bindSlot slotId hostId ask => some (.bindSlot slotId hostId ask)
  | .unbindSlot slotId => some (.unbindSlot slotId)
  | _ => none

theorem same_step {a : Act} {m : MoonlightManager}
    (h : Same m (f.manager.owed f.place)) (hstep : f.step a = some f')
    : Same (m.run a.atOnce.toList) (f'.manager.owed f'.place) := by
  cases a with
  | bindSlot slotId hostId ask =>
    simp only [step, Option.ite_none_right_eq_some, Option.some.injEq] at hstep
    obtain ⟨hidle, rfl⟩ := hstep
    rw [owed_bindSlot hidle]
    rw [hidle] at h
    exact h.bindSlot slotId hostId ask
  | unbindSlot slotId =>
    simp only [step, Option.ite_none_right_eq_some, Option.some.injEq] at hstep
    obtain ⟨hidle, rfl⟩ := hstep
    rw [hidle] at h
    exact h.unbindSlot slotId
  | signal session event =>
    simp only [step, Option.ite_none_right_eq_some, Option.some.injEq] at hstep
    obtain ⟨⟨hidle, _⟩, rfl⟩ := hstep
    rw [hidle] at h
    unfold dispatch
    split
    . exact h
    . simp only [signal, hidle]
      exact h
  | main =>
    rw [owed_main hstep]
    exact h
  | lookUp slotId report =>
    cases hstep
    obtain ⟨hsame, hplace⟩ := f.same_lookUp slotId report
    rw [hplace]
    exact h.trans (hsame.owed f.place)
  | send i =>
    obtain ⟨hsame, hplace⟩ := same_sendLookedUp hstep
    rw [hplace]
    exact h.trans (hsame.owed f.place)

theorem owed_of_run {acts : List Act} (hrun : run {} acts = some f)
    : Same (MoonlightManager.run {} (acts.filterMap Act.atOnce)) (f.manager.owed f.place) := by
  exact simulates_of_run (R := fun f m => Same m (f.manager.owed f.place))
    (fun _ _ _ _ => same_step) (.refl {}) hrun

theorem tables_of_run {acts : List Act} (hrun : run {} acts = some f) (hidle : f.place = .idle)
    : Same (MoonlightManager.run {} (acts.filterMap Act.atOnce)) f.manager := by
  have hsame := owed_of_run hrun
  rw [hidle] at hsame
  exact hsame

theorem agrees_of_run {acts : List Act} (hrun : run {} acts = some f) (hidle : f.place = .idle)
    : f.manager.Agrees := by
  have hsame := owed_of_run hrun
  rw [hidle] at hsame
  exact hsame.agrees (MoonlightManager.sound_run _).toAgrees

def padMoves : List Act :=
  .bindSlot "a" "den" padAsk :: List.replicate 6 .main ++
    [.bindSlot "a" "attic" padAsk, .lookUp "a" restReport, .main, .main, .send 0] ++
      List.replicate 7 .main

theorem padMoves_ends : ∃ f, run {} padMoves = some f ∧ f.place = .idle := by
  have hany : (run {} padMoves).any (fun f => f.place = .idle) = true := by
    decide +kernel
  obtain ⟨f, hrun, hf⟩ := exists_run_of_any hany
  exact ⟨f, hrun, of_decide_eq_true hf⟩

theorem tables_in_den
    : ∃ f, run {} padMoves = some f ∧ f.place = .idle ∧
        Same (MoonlightManager.run {}
          [.bindSlot "a" "den" padAsk, .bindSlot "a" "attic" padAsk]) f.manager := by
  obtain ⟨f, hrun, hidle⟩ := padMoves_ends
  exact ⟨f, hrun, hidle, tables_of_run hrun hidle⟩

theorem agrees_in_den
    : ∃ f, run {} padMoves = some f ∧ f.place = .idle ∧ f.manager.Agrees := by
  obtain ⟨f, hrun, hidle⟩ := padMoves_ends
  exact ⟨f, hrun, hidle, agrees_of_run hrun hidle⟩

end Forwarding

end Moonlight
