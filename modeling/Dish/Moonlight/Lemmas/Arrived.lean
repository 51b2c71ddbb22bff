import Dish.Moonlight.Lemmas.Wire
import Dish.Moonlight.Lemmas.Tables

/-!
This module contains what the host sees of its pads.
-/

open Std Transition

namespace Moonlight

namespace Forwarding

variable {b : Bind} {bind : Option Bind} {k n number session : Nat} {manager : MoonlightManager}
  {place : Place} {route : Route} {slotId : String}

variable {f f' : Forwarding}

def ComingUp (f : Forwarding) : Place → Prop
  | .announcing session _ => f.streaming session = true
  | .introducing session number _ =>
    f.streaming session = true ∧ arrivedOn number (f.wires session) = true
  | _ => True

structure Waits (f : Forwarding) (waiting : InFlight) : Prop where
  apart : waiting.session ∉ f.busy
  number : waiting.frame.controllerNumber ∈ f.manager.announced waiting.session
  mask : ∀ n, waiting.frame.activeGamepadMask.getLsbD n = true →
    n ∈ f.manager.announced waiting.session

structure Arrived (f : Forwarding) : Prop where
  tables : f.manager.Tables f.place
  wires : ∀ session, WireOk (f.streaming session) (· ∈ f.manager.announced session)
    (f.place.Pending session) (f.wires session)
  comingUp : f.ComingUp f.place
  waits : ∀ waiting ∈ f.inFlight, f.Waits waiting

theorem Arrived.records (h : f.Arrived) (session : Nat)
    {events : List WireEvent} (htables : manager.Tables place)
    (hwire : WireOk (f.streaming session) (· ∈ manager.announced session) (place.Pending session)
      (f.wires session ++ events))
    (hcomingUp : { f.record session events with manager, place }.ComingUp place)
    (hbusy : ∀ k ∈ { f.record session events with manager, place }.busy, k ∈ f.busy)
    (hsession : session ∈ f.busy)
    (hannounced : ∀ k n, k ≠ session →
      (n ∈ manager.announced k ↔ n ∈ f.manager.announced k))
    (hpending : ∀ k n, k ≠ session → ¬f.place.Pending k n)
    : { f.record session events with manager, place }.Arrived := by
  refine ⟨htables, ?_, hcomingUp, ?_⟩
  . intro k
    change WireOk (f.streaming k) (· ∈ manager.announced k) (place.Pending k)
      (Function.update f.wires session _ k)
    by_cases heq : k = session
    . subst heq
      rw [Function.update_self]
      exact hwire
    . rw [Function.update_of_ne heq]
      apply (h.wires k).mono id
      . intro n
        exact (hannounced k n heq).mp
      . intro n _ hpend
        exact absurd hpend (hpending k n heq)
  . intro waiting hwaiting
    have hold := h.waits waiting hwaiting
    have hne : waiting.session ≠ session := by
      intro heq
      exact hold.apart (heq ▸ hsession)
    refine ⟨fun hmem => hold.apart (hbusy _ hmem), ?_, ?_⟩
    . exact (hannounced _ _ hne).mpr hold.number
    . intro n hbit
      exact (hannounced _ _ hne).mpr (hold.mask n hbit)

theorem wireOk_send {held held' pending pending' : Nat → Prop}
    {packets : List WireEvent} (h : WireOk (f.streaming session) held pending (f.wires session))
    (hup : f.streaming session = true → WireOk true held' pending' (f.wires session ++ packets))
    : WireOk (f.streaming session) held' pending'
        (f.wires session ++ if f.streaming session then packets else []) := by
  cases hstreaming : f.streaming session with
  | true => exact hup hstreaming
  | false =>
    rw [if_neg Bool.false_ne_true, List.append_nil]
    exact h.down

theorem Arrived.quiet (h : f.Arrived) {states : Nat → SessionState} (htables : manager.Tables place)
    (hcomingUp : { f with manager, states, place }.ComingUp place)
    (hbusy : ∀ k ∈ { f with manager, states, place }.busy, k ∈ f.busy)
    (hstreaming : ∀ k, { f with manager, states, place }.streaming k = true → f.streaming k = true)
    (hannounced : ∀ k n, n ∈ manager.announced k ↔ n ∈ f.manager.announced k)
    (hpending : ∀ k n, ¬f.place.Pending k n)
    : { f with manager, states, place }.Arrived := by
  refine ⟨htables, ?_, hcomingUp, ?_⟩
  . intro k
    apply (h.wires k).mono (hstreaming k)
    . intro n
      exact (hannounced k n).mp
    . intro n _ hpend
      exact absurd hpend (hpending k n)
  . intro waiting hwaiting
    have hold := h.waits waiting hwaiting
    refine ⟨fun hmem => hold.apart (hbusy _ hmem), ?_, ?_⟩
    . exact (hannounced _ _).mpr hold.number
    . intro n hbit
      exact (hannounced _ _).mpr (hold.mask n hbit)

theorem mem_busy_afterUnbind (f : Forwarding) (bind : Option Bind)
    (h : k ∈ { f with place := .afterUnbind bind }.busy)
    : k ∈ (bind.map Bind.session).toList := by
  cases bind with
  | none => exact h
  | some b => exact h

theorem atPlace_afterUnbind {m : MoonlightManager}
    (h : ∀ b ∈ bind, m.sessions[b.hostId]? = some b.session)
    : m.AtPlace (.afterUnbind bind) := by
  cases bind with
  | none => trivial
  | some b => exact h b rfl

theorem comingUp_afterUnbind (f : Forwarding) (bind : Option Bind)
    : f.ComingUp (.afterUnbind bind) := by
  cases bind with
  | none => trivial
  | some b => trivial

theorem Arrived.erasing (h : f.Arrived)
    (hplace : f.place = .erasing slotId bind) (hmain : f.main = some f')
    : f'.Arrived := by
  have htables := h.tables
  rw [hplace] at htables
  simp only [main, hplace] at hmain
  split at hmain
  next hnone =>
    cases hmain
    apply h.quiet
    . apply htables.alike (.refl _) (by simp [Place.Owes]) (by simp [Place.Parts])
      exact atPlace_afterUnbind htables.here
    . exact comingUp_afterUnbind _ _
    . intro k hk
      simp only [busy, hplace]
      exact List.mem_append_right _ (mem_busy_afterUnbind _ bind hk)
    . intro k hk
      exact hk
    . intro k n
      rfl
    . simp [hplace, Place.Pending]
  next route hroute =>
    cases hmain
    apply h.quiet
    . exact htables.erase (by simp [Place.Owes]) (by simp [Place.Parts]) hroute htables.here
    . trivial
    . intro k hk
      simp only [busy, hplace, hroute]
      exact hk
    . intro k hk
      exact hk
    . intro k n
      rfl
    . simp [hplace, Place.Pending]

theorem Arrived.releasing (h : f.Arrived)
    (hplace : f.place = .releasing slotId route bind) (hmain : f.main = some f')
    : f'.Arrived := by
  have htables := h.tables
  rw [hplace] at htables
  simp only [main, hplace] at hmain
  cases hmain
  apply h.quiet
  . exact htables.release
  . trivial
  . intro k hk
    simp only [busy, hplace]
    exact hk
  . intro k hk
    exact hk
  . intro k n
    rfl
  . simp [hplace, Place.Pending]

theorem Arrived.parting (h : f.Arrived)
    (hplace : f.place = .parting route bind) (hmain : f.main = some f')
    : f'.Arrived := by
  have htables := h.tables
  rw [hplace] at htables
  obtain ⟨hsession, hnumber, _, _⟩ := htables.here
  have hmask (n : Nat) (hbit : (f.manager.padSet route.hostId).activeMask.getLsbD n = true) :
      n ∈ f.manager.announced route.session := by
    obtain ⟨slotId, hslot⟩ := (PadSlots.getLsbD_activeMask _ n).mp hbit
    exact (htables.present _ _ ⟨route.hostId, slotId, hsession, hslot⟩).resolve_right id
  have hannounced (frame : ControllerState) (k n : Nat) :
      n ∈ ((f.manager.callSession route.session (.sendControllerState frame)).callSession route.session
        (.forgetControllerArrival route.controllerNumber)).announced k ↔
      n ∈ f.manager.announced k ∧ ¬(k = route.session ∧ n = route.controllerNumber) := by
    simp only [MoonlightManager.mem_announced_callSession, reduceCtorEq, or_self, exists_false,
      and_false, false_or, not_false_eq_true, and_true, SessionCall.forgetControllerArrival.injEq]
    rw [eq_comm (a := n)]
  have hwire := h.wires route.session
  rw [hplace] at hwire
  simp only [main, hplace] at hmain
  cases hmain
  apply h.records route.session
  . exact htables.part (hannounced _) ⟨rfl, rfl, rfl, rfl, rfl⟩
  . apply wireOk_send hwire
    intro hstreaming
    rw [hstreaming] at hwire
    have harrived := (hwire.arrived rfl _ hnumber).resolve_right id
    apply hwire.farewell (hwire.named_state rfl harrived hnumber hmask true)
    intro n hn
    obtain ⟨hold, hne⟩ := (hannounced _ _ _).mp hn
    exact ⟨hold, fun heq => hne ⟨rfl, heq⟩⟩
  . trivial
  . intro k hk
    simp only [busy, hplace]
    exact hk
  . simp [busy, hplace]
  . intro k n hne
    refine (hannounced _ k n).trans ?_
    simp [hne]
  . simp [hplace, Place.Pending]

theorem streaming_signal {event : SessionEvent}
    (hevent : .SendArrival ∉ (reduceSession (f.states session) event).effects)
    (h : (f.signal session event).streaming k = true)
    : f.streaming k = true := by
  by_cases heq : k = session
  . subst heq
    simp only [streaming, signal, Function.update_self, decide_eq_true_eq] at h ⊢
    cases event <;>
      grind [nextSession, reduceSession, inPhases, reduceUserQuit, reduceLaunchSucceeded,
        SessionReduction.to]
  . simpa [streaming, signal, heq] using h

theorem Arrived.closing (h : f.Arrived)
    (hplace : f.place = .closing route bind) (hmain : f.main = some f')
    : f'.Arrived := by
  have htables := h.tables
  rw [hplace] at htables
  have hbusy (k : Nat) (hk : k ∈ (bind.map Bind.session).toList) : k ∈ f.busy := by
    simp only [busy, hplace]
    exact List.mem_cons_of_mem _ hk
  have hpending : ∀ k n, ¬f.place.Pending k n := by simp [hplace, Place.Pending]
  -- The place after the step, whatever becomes of the session.
  have hafter {manager : MoonlightManager} (halike : f.manager.Alike manager) :
      manager.Tables (.afterUnbind bind) := by
    apply htables.alike halike (by simp [Place.Owes]) (by simp [Place.Parts])
    exact atPlace_afterUnbind (halike.atPlace htables.here)
  have hquit : f.manager.Alike (f.manager.callSession route.session .quit) :=
    MoonlightManager.alike_call _ _ (.inl (by simp))
  simp only [main, hplace] at hmain
  cases hmain
  split
  . unfold quit
    dsimp only
    split
    . apply h.quiet (hafter hquit)
      . exact comingUp_afterUnbind _ _
      . intro k hk
        exact hbusy k (mem_busy_afterUnbind _ bind hk)
      . intro k hk
        exact hk
      . exact hquit.announced
      . exact hpending
    . apply h.quiet (hafter hquit)
      . exact comingUp_afterUnbind _ _
      . intro k hk
        exact hbusy k (mem_busy_afterUnbind _ bind hk)
      . intro k hk
        apply streaming_signal _ hk
        grind [reduceSession, reduceUserQuit, SessionReduction.to]
      . exact hquit.announced
      . exact hpending
  . apply h.quiet (hafter (.refl _))
    . exact comingUp_afterUnbind _ _
    . intro k hk
      exact hbusy k (mem_busy_afterUnbind _ bind hk)
    . intro k hk
      exact hk
    . intro k n
      rfl
    . exact hpending

theorem Arrived.assigning (h : f.Arrived) (hplace : f.place = .assigning b)
    (hmain : f.main = some f')
    : f'.Arrived := by
  have htables := h.tables
  rw [hplace] at htables
  have hwire := h.wires b.session
  rw [hplace] at hwire
  simp only [main, hplace] at hmain
  split at hmain
  next hfull =>
    cases hmain
    have hsame : f.manager.Alike (f.manager.withPads b.hostId (f.manager.padSet b.hostId)) := by
      refine ⟨rfl, rfl, ?_, fun _ _ => Iff.rfl, fun _ route hroute => ⟨route, hroute, rfl, rfl, rfl⟩⟩
      intro hostId
      rw [MoonlightManager.padSet_withPads]
      split
      next heq => rw [heq]
      next => rfl
    apply h.quiet
    . exact htables.alike hsame (by simp [Place.Owes]) (by simp [Place.Parts]) trivial
    . trivial
    . simp [busy]
    . intro k hk
      exact hk
    . intro k n
      rfl
    . simp [hplace, Place.Pending]
  next number assigned hassign =>
    cases hmain
    apply h.records b.session
    . exact htables.assign hassign _
    . exact hwire.assigned (htables.not_announced hassign)
    . trivial
    . intro k hk
      simp only [busy, hplace]
      exact hk
    . simp [busy, hplace]
    . intro k n _
      rfl
    . simp [hplace, Place.Pending]

theorem Arrived.publishing (h : f.Arrived) {first : Bool}
    (hplace : f.place = .publishing b number first) (hmain : f.main = some f')
    : f'.Arrived := by
  have htables := h.tables
  rw [hplace] at htables
  simp only [main, hplace] at hmain
  cases hmain
  apply h.quiet
  . apply htables.publish
    . rfl
    . rfl
    . rfl
  . trivial
  . intro k hk
    simp only [busy, hplace]
    exact hk
  . intro k hk
    exact hk
  . intro k n
    rfl
  . simp [hplace, Place.Pending]

theorem Arrived.arriving (h : f.Arrived) {first : Bool}
    (hplace : f.place = .arriving b number first) (hmain : f.main = some f')
    : f'.Arrived := by
  have htables := h.tables
  rw [hplace] at htables
  have hwire := h.wires b.session
  rw [hplace] at hwire
  have hannounced (k n : Nat) :
      n ∈ (f.manager.callSession b.session (.sendControllerArrival number b.ask.arrival)).announced
          k ↔
        n ∈ f.manager.announced k ∨ (k = b.session ∧ n = number) :=
    MoonlightManager.mem_announced_announce (.inl rfl)
  simp only [main, hplace] at hmain
  cases hmain
  apply h.records b.session
  . apply htables.announce hannounced ⟨rfl, rfl, rfl, rfl, rfl⟩ htables.here
    . rintro session' n ⟨rfl, rfl⟩
      exact ⟨rfl, rfl⟩
    . simp [Place.Parts]
    . exact (hannounced _ _).mpr (.inr ⟨rfl, rfl⟩)
  . apply wireOk_send hwire
    intro hstreaming
    rw [hstreaming] at hwire
    apply hwire.arrival
    . intro n hn
      exact ((hannounced _ n).mp hn).imp_right And.right
    . rintro n ⟨⟩
  . trivial
  . intro k hk
    simp only [busy, hplace]
    exact hk
  . simp [busy, hplace]
  . intro k n hne
    refine (hannounced k n).trans ?_
    simp [hne]
  . simp [hplace, Place.Pending]

theorem getLsbD_presentMask (h : (f.presentMask session).getLsbD n = true)
    : n ∈ f.manager.announced session := by
  have hfold (numbers : List Nat) (mask : BitVec 16)
      (hbit : (numbers.foldl (fun mask number => mask ||| 1#16 <<< number) mask).getLsbD n = true) :
      n ∈ numbers ∨ mask.getLsbD n = true := by
    induction numbers generalizing mask with
    | nil => exact .inr hbit
    | cons number numbers ih =>
      rw [List.foldl_cons] at hbit
      cases ih _ hbit with
      | inl hmem => exact .inl (List.mem_cons_of_mem _ hmem)
      | inr hor =>
        rw [BitVec.getLsbD_or, Bool.or_eq_true] at hor
        cases hor with
        | inl hold => exact .inr hold
        | inr hone =>
          left
          rw [← BitVec.twoPow_eq, BitVec.getLsbD_twoPow] at hone
          simp only [Bool.and_eq_true, decide_eq_true_eq] at hone
          rw [hone.2]
          exact List.mem_cons_self
  cases hfold _ _ h with
  | inl hmem => exact TreeMap.mem_keys.mp hmem
  | inr hzero => simp at hzero

theorem Arrived.greeting (h : f.Arrived) {launches : Bool}
    (hplace : f.place = .greeting b number launches) (hmain : f.main = some f')
    : f'.Arrived := by
  have htables := h.tables
  rw [hplace] at htables
  have hnumber : number ∈ f.manager.announced b.session := htables.here
  have hwire := h.wires b.session
  rw [hplace] at hwire
  simp only [main, hplace] at hmain
  cases hmain
  apply h.records b.session
  . apply htables.alike (.refl _) (by simp [Place.Owes]) (by simp [Place.Parts])
    split <;> trivial
  . apply wireOk_send hwire
    intro hstreaming
    rw [hstreaming] at hwire
    have harrived := (hwire.arrived rfl _ hnumber).resolve_right id
    have hnamed := hwire.named_state rfl harrived hnumber (fun n => getLsbD_presentMask) false
    apply (hwire.state hnamed).mono id
    . intro n hn
      exact hn
    . rintro n _ ⟨⟩
  . cases launches <;> trivial
  . intro k hk
    simp only [busy, hplace]
    cases launches with
    | true => exact hk
    | false => exact absurd hk List.not_mem_nil
  . simp [busy, hplace]
  . intro k n _
    rfl
  . simp [hplace, Place.Pending]

theorem Arrived.launching (h : f.Arrived) (hplace : f.place = .launching b)
    (hmain : f.main = some f')
    : f'.Arrived := by
  have htables := h.tables
  rw [hplace] at htables
  have hcall : f.manager.Alike (f.manager.callSession b.session .launch) :=
    MoonlightManager.alike_call _ _ (.inl (by simp))
  have hpending : ∀ k n, ¬f.place.Pending k n := by simp [hplace, Place.Pending]
  simp only [main, hplace] at hmain
  cases hmain
  unfold launchPick
  split
  . apply h.quiet
    . exact htables.alike (.refl _) (by simp [Place.Owes]) (by simp [Place.Parts]) trivial
    . trivial
    . simp [busy]
    . intro k hk
      exact hk
    . intro k n
      rfl
    . exact hpending
  . apply h.quiet
    . exact htables.alike hcall (by simp [Place.Owes]) (by simp [Place.Parts]) trivial
    . trivial
    . simp [busy]
    . intro k hk
      apply streaming_signal _ hk
      grind [reduceSession, inPhases, SessionReduction.to]
    . exact hcall.announced
    . exact hpending

theorem Arrived.announcing (h : f.Arrived) {numbers : List Nat}
    (hplace : f.place = .announcing session numbers) (hmain : f.main = some f')
    : f'.Arrived := by
  have htables := h.tables
  rw [hplace] at htables
  have hwire := h.wires session
  rw [hplace] at hwire
  have hcomingUp := h.comingUp
  rw [hplace] at hcomingUp
  cases numbers with
  | nil =>
    simp only [main, hplace] at hmain
    cases hmain
    apply h.quiet
    . exact htables.alike (.refl _) (by simp [Place.Owes]) (by simp [Place.Parts]) trivial
    . trivial
    . simp [busy]
    . intro k hk
      exact hk
    . intro k n
      rfl
    . simp [hplace, Place.Pending]
  | cons number numbers =>
    simp only [main, hplace] at hmain
    cases hmain
    apply h.records session
    . apply htables.alike (.refl _) (by simp [Place.Owes]) (by simp [Place.Parts])
      exact ⟨htables.here number List.mem_cons_self,
        fun n hn => htables.here n (List.mem_cons_of_mem _ hn)⟩
    . apply hwire.arrival
      . intro n hn
        exact .inl hn
      . rintro n ⟨_, hn⟩
        exact (List.mem_cons.mp hn).symm.imp_left fun hrest => ⟨rfl, hrest⟩
    . refine ⟨hcomingUp, ?_⟩
      simp [record]
    . intro k hk
      simp only [busy, hplace]
      exact hk
    . simp [busy, hplace]
    . intro k n _
      rfl
    . intro k n hne
      simp [hplace, Place.Pending, Ne.symm hne]

theorem Arrived.introducing (h : f.Arrived) {numbers : List Nat}
    (hplace : f.place = .introducing session number numbers) (hmain : f.main = some f')
    : f'.Arrived := by
  have htables := h.tables
  rw [hplace] at htables
  have hwire := h.wires session
  rw [hplace] at hwire
  have hcomingUp := h.comingUp
  rw [hplace] at hcomingUp
  obtain ⟨hstreaming, harrived⟩ := hcomingUp
  simp only [main, hplace] at hmain
  cases hmain
  apply h.records session
  . apply htables.alike (.refl _) (by simp [Place.Owes]) (by simp [Place.Parts])
    exact htables.here.2
  . exact hwire.state (hwire.named_state hstreaming harrived htables.here.1
      (fun n => getLsbD_presentMask) false)
  . exact hstreaming
  . intro k hk
    simp only [busy, hplace]
    exact hk
  . simp [busy, hplace]
  . intro k n _
    rfl
  . intro k n hne
    simp [hplace, Place.Pending, Ne.symm hne]

theorem Arrived.main (h : f.Arrived) (hmain : f.main = some f') : f'.Arrived := by
  cases hplace : f.place with
  | idle => simp [Forwarding.main, hplace] at hmain
  | erasing slotId bind => exact h.erasing hplace hmain
  | releasing slotId route bind => exact h.releasing hplace hmain
  | parting route bind => exact h.parting hplace hmain
  | closing route bind => exact h.closing hplace hmain
  | assigning b => exact h.assigning hplace hmain
  | publishing b number first => exact h.publishing hplace hmain
  | arriving b number first => exact h.arriving hplace hmain
  | greeting b number launches => exact h.greeting hplace hmain
  | launching b => exact h.launching hplace hmain
  | announcing session numbers => exact h.announcing hplace hmain
  | introducing session number numbers => exact h.introducing hplace hmain

theorem busy_of_owes (h : f.place.Owes k n) : k ∈ f.busy := by
  unfold busy
  cases hplace : f.place with
  | publishing b number first | arriving b number first =>
    rw [hplace] at h
    simp [h.1]
  | _ =>
    rw [hplace] at h
    exact h.elim

theorem busy_of_pending (h : f.place.Pending k n) : k ∈ f.busy := by
  unfold busy
  cases hplace : f.place with
  | announcing session numbers | introducing session number numbers =>
    rw [hplace] at h
    simp [h.1]
  | _ =>
    rw [hplace] at h
    exact h.elim

theorem busy_setRoute {route' : Route}
    (hroute : f.manager.routes[slotId]? = some route) (hsession : route'.session = route.session)
    (inFlight : List InFlight)
    : { f with
        manager := { f.manager with routes := f.manager.routes.insert slotId route' }
        inFlight }.busy = f.busy := by
  cases hplace : f.place with
  | erasing slotId' bind =>
    simp only [busy, hplace, TreeMap.getElem?_insert, Std.compare_eq_iff_eq]
    split
    next heq => simp [← heq, hroute, hsession]
    next => rfl
  | _ => simp only [busy, hplace]

theorem Arrived.held_of_numbered (h : f.Arrived) (hfree : session ∉ f.busy)
    (hn : f.manager.Numbered session n)
    : n ∈ f.manager.announced session := by
  exact (h.tables.present session n hn).resolve_right fun howes => hfree (busy_of_owes howes)

theorem Arrived.held_of_activeMask (h : f.Arrived)
    (hroute : f.manager.routes[slotId]? = some route) (hfree : route.session ∉ f.busy)
    (hbit : (f.manager.activeMask route).getLsbD n = true)
    : n ∈ f.manager.announced route.session := by
  obtain ⟨hsession, hnumber⟩ := h.tables.routed slotId route hroute
  have hmask : f.manager.activeMask route = (f.manager.padSet route.hostId).activeMask := by
    unfold MoonlightManager.activeMask
    cases hpads : f.manager.padSlots[route.hostId]? with
    | some p => simp [MoonlightManager.padSet, hpads]
    | none =>
      simp [MoonlightManager.padSet, hpads, PadSlots.empty, PadSlots.numberFor] at hnumber
  rw [hmask] at hbit
  obtain ⟨slotId', hslot⟩ := (PadSlots.getLsbD_activeMask _ n).mp hbit
  exact h.held_of_numbered hfree ⟨route.hostId, slotId', hsession, hslot⟩

theorem Arrived.wait (h : f.Arrived)
    (hroute : f.manager.routes[slotId]? = some route) (hfree : route.session ∉ f.busy)
    {frame : ControllerState} (hnumber : frame.controllerNumber = route.controllerNumber)
    (hmask : frame.activeGamepadMask = f.manager.activeMask route)
    : { f with
        manager :=
          { f.manager with routes := f.manager.routes.insert slotId { route with lastFrame := frame } }
        inFlight := f.inFlight.concat { session := route.session, frame } }.Arrived := by
  have halike : f.manager.Alike
      { f.manager with
        routes := f.manager.routes.insert slotId { route with lastFrame := frame } } := by
    apply MoonlightManager.alike_setRoute hroute
    . rfl
    . rfl
    . rfl
  refine ⟨?_, h.wires, h.comingUp, ?_⟩
  . exact h.tables.alike halike (fun _ _ => id) (fun _ _ => id) (halike.atPlace h.tables.here)
  . intro waiting hwaiting
    rw [List.concat_eq_append] at hwaiting
    have hbusy : waiting.session ∉ f.busy → waiting.session ∉
        { f with
          manager :=
            { f.manager with
              routes := f.manager.routes.insert slotId { route with lastFrame := frame } }
          inFlight := f.inFlight.concat { session := route.session, frame } }.busy := by
      rw [busy_setRoute hroute]
      . exact id
      . rfl
    rcases List.mem_append.mp hwaiting with hold | hnew
    . have hold := h.waits waiting hold
      exact ⟨hbusy hold.apart, hold.number, hold.mask⟩
    . obtain rfl := List.mem_singleton.mp hnew
      refine ⟨hbusy hfree, ?_, ?_⟩
      . rw [hnumber]
        exact h.held_of_numbered hfree (h.tables.numbered_of_route hroute)
      . intro n hbit
        rw [hmask] at hbit
        exact h.held_of_activeMask hroute hfree hbit

theorem Arrived.lookUp (h : f.Arrived) (slotId : String) (report : PadReport)
    (hfree : ∀ route ∈ f.manager.routes[slotId]?, route.session ∉ f.busy)
    : (f.lookUp slotId report).Arrived := by
  unfold Forwarding.lookUp
  split
  . exact h
  . split
    . exact h
    next route hroute =>
      apply h.wait hroute (hfree route hroute)
      . rfl
      . rfl

theorem Arrived.sendLookedUp (h : f.Arrived) {i : Nat} (hsend : f.sendLookedUp i = some f')
    : f'.Arrived := by
  obtain ⟨waiting, hwaiting, hsend⟩ := Option.bind_eq_some_iff.mp hsend
  cases hsend
  have hwaits := h.waits waiting (List.mem_of_getElem? hwaiting)
  have halike : f.manager.Alike
      (f.manager.callSession waiting.session (.sendControllerState waiting.frame)) :=
    MoonlightManager.alike_call _ _ (.inr ⟨_, rfl⟩)
  have hwire (k : Nat) : WireOk (f.streaming k) (· ∈ f.manager.announced k) (f.place.Pending k)
      (Function.update f.wires waiting.session (f.wires waiting.session ++
        if f.streaming waiting.session then
          [.state waiting.frame.controllerNumber waiting.frame.activeGamepadMask false]
        else []) k) := by
    by_cases heq : k = waiting.session
    . subst heq
      rw [Function.update_self]
      apply wireOk_send (h.wires _)
      intro hstreaming
      have hwire := h.wires waiting.session
      rw [hstreaming] at hwire
      have harrived := (hwire.arrived rfl _ hwaits.number).resolve_right
        fun hpend => hwaits.apart (busy_of_pending hpend)
      exact hwire.state (hwire.named_state rfl harrived hwaits.number hwaits.mask false)
    . rw [Function.update_of_ne heq]
      exact h.wires k
  refine ⟨?_, ?_, ?_, ?_⟩
  . exact h.tables.alike halike (fun _ _ => id) (fun _ _ => id) (halike.atPlace h.tables.here)
  . intro k
    apply (hwire k).mono id
    . intro n
      exact (halike.announced k n).mp
    . intro n _
      exact id
  . have hcomingUp := h.comingUp
    change ComingUp _ f.place
    cases hplace : f.place with
    | announcing session numbers =>
      rw [hplace] at hcomingUp
      exact hcomingUp
    | introducing session number numbers =>
      rw [hplace] at hcomingUp
      refine ⟨hcomingUp.1, ?_⟩
      have hne : session ≠ waiting.session := by
        rintro rfl
        exact hwaits.apart (by simp [busy, hplace])
      change arrivedOn number (Function.update f.wires waiting.session _ session) = true
      rw [Function.update_of_ne hne]
      exact hcomingUp.2
    | _ => trivial
  . intro waiting' hwaiting'
    have hold := h.waits waiting' (List.mem_of_mem_eraseIdx hwaiting')
    refine ⟨hold.apart, ?_, ?_⟩
    . exact (halike.announced _ _).mpr hold.number
    . intro n hbit
      exact (halike.announced _ _).mpr (hold.mask n hbit)

theorem Arrived.starts (h : f.Arrived) (hidle : f.place = .idle) (htables : manager.Tables place)
    (hannounced : ∀ k n, n ∈ manager.announced k ↔ n ∈ f.manager.announced k)
    (hcomingUp : { f with manager, place }.ComingUp place)
    (hapart : ∀ waiting ∈ f.inFlight, waiting.session ∉ { f with manager, place }.busy)
    : { f with manager, place }.Arrived := by
  refine ⟨htables, ?_, hcomingUp, ?_⟩
  . intro k
    apply (h.wires k).mono id
    . intro n
      exact (hannounced k n).mp
    . intro n _ hpend
      rw [hidle] at hpend
      exact hpend.elim
  . intro waiting hwaiting
    have hold := h.waits waiting hwaiting
    refine ⟨hapart waiting hwaiting, ?_, ?_⟩
    . exact (hannounced _ _).mpr hold.number
    . intro n hbit
      exact (hannounced _ _).mpr (hold.mask n hbit)

theorem Arrived.unbindSlot (h : f.Arrived) (hidle : f.place = .idle) (slotId : String)
    (hapart : ∀ waiting ∈ f.inFlight, ∀ route ∈ f.manager.routes[slotId]?,
      waiting.session ≠ route.session)
    : { f with place := .erasing slotId none }.Arrived := by
  have htables := h.tables
  rw [hidle] at htables
  apply h.starts hidle
  . apply htables.alike (.refl _) (by simp [Place.Owes]) (by simp [Place.Parts])
    rintro b ⟨⟩
  . intro k n
    rfl
  . trivial
  . intro waiting hwaiting hbusy
    simp only [busy, Option.map_none, Option.toList_none, List.append_nil, Option.mem_toList,
      Option.map_eq_some_iff] at hbusy
    obtain ⟨route, hroute, heq⟩ := hbusy
    exact hapart waiting hwaiting route hroute heq.symm

theorem Arrived.lt_created (h : f.Arrived) (hidle : f.place = .idle) {waiting : InFlight}
    (hwaiting : waiting ∈ f.inFlight)
    : waiting.session < f.manager.created := by
  have htables := h.tables
  rw [hidle] at htables
  obtain ⟨hostId, slotId, hsession, _⟩ :=
    (htables.known _ _ (h.waits waiting hwaiting).number).resolve_right id
  exact htables.made hostId _ hsession

theorem Arrived.ensureSession_apart (h : f.Arrived) (hidle : f.place = .idle) {hostId : String}
    {identity : Bool} {waiting : InFlight} (hwaiting : waiting ∈ f.inFlight)
    (hensure : (f.manager.ensureSession hostId identity).1 = some session)
    (hapart : ∀ session ∈ f.manager.sessions[hostId]?, waiting.session ≠ session)
    : waiting.session ≠ session := by
  unfold MoonlightManager.ensureSession at hensure
  split at hensure
  next existing hexisting =>
    cases hensure
    exact hapart session hexisting
  next =>
    split at hensure
    . cases hensure
      exact Nat.ne_of_lt (h.lt_created hidle hwaiting)
    . contradiction

theorem announced_ensureSession (m : MoonlightManager) (hostId : String) (identity : Bool)
    : (m.ensureSession hostId identity).2.announced = m.announced ∧
      (m.ensureSession hostId identity).2.routes = m.routes := by
  unfold MoonlightManager.ensureSession
  split
  . exact ⟨rfl, rfl⟩
  . split
    . exact ⟨rfl, rfl⟩
    . exact ⟨rfl, rfl⟩

theorem alike_keepPicks (m : MoonlightManager) (slotId : String) (ask : BindRequest)
    : m.Alike (m.keepPicks slotId ask) := by
  unfold MoonlightManager.keepPicks
  split
  next route hroute =>
    apply MoonlightManager.alike_setRoute hroute
    . rfl
    . rfl
    . rfl
  next => exact .refl m

theorem Arrived.reannounceInPlace (h : f.Arrived) (hidle : f.place = .idle)
    (hnumbered : f.manager.Numbered b.session number)
    (hapart : ∀ waiting ∈ f.inFlight, waiting.session ≠ b.session)
    : (f.reannounceInPlace b number).Arrived := by
  have htables := h.tables
  rw [hidle] at htables
  have hheld : number ∈ f.manager.announced b.session :=
    (htables.present _ _ hnumbered).resolve_right id
  unfold Forwarding.reannounceInPlace
  split
  . -- The replug is a step on the session that is begun.
    have hgreeting : { f with place := .greeting b number true }.Arrived := by
      apply h.starts hidle
      . exact htables.alike (.refl _) (by simp [Place.Owes]) (by simp [Place.Parts]) hheld
      . intro k n
        rfl
      . trivial
      . intro waiting hwaiting
        simpa [busy] using hapart waiting hwaiting
    have hannounced (k n : Nat) : n ∈ (f.manager.callSession b.session
          (.sendControllerReplug number b.ask.arrival)).announced k ↔
        n ∈ f.manager.announced k ∨ (k = b.session ∧ n = number) :=
      MoonlightManager.mem_announced_announce (.inr rfl)
    have hsame (k n : Nat) : n ∈ (f.manager.callSession b.session
          (.sendControllerReplug number b.ask.arrival)).announced k ↔
        n ∈ f.manager.announced k := by
      rw [hannounced]
      constructor
      . rintro (hold | ⟨rfl, rfl⟩)
        . exact hold
        . exact hheld
      . exact .inl
    dsimp only
    apply hgreeting.records b.session
    . apply hgreeting.tables.announce hannounced ⟨rfl, rfl, rfl, rfl, rfl⟩ hnumbered
      . rintro _ _ ⟨⟩
      . rintro _ _ ⟨⟩
      . exact (hsame _ _).mpr hheld
    . apply wireOk_send (hgreeting.wires b.session)
      intro hstreaming
      have hwire := hgreeting.wires b.session
      rw [hstreaming] at hwire
      have harrived := (hwire.arrived rfl _ hheld).resolve_right id
      have hmask (n : Nat) (hbit : ((f.call b.session (.sendControllerReplug number
          b.ask.arrival)).presentMask b.session &&& ~~~(1#16 <<< number)).getLsbD n = true) :
          n ∈ f.manager.announced b.session := by
        rw [BitVec.getLsbD_and, Bool.and_eq_true] at hbit
        exact (hsame _ _).mp (getLsbD_presentMask hbit.1)
      have hunplugged := hwire.state (hwire.named_state rfl harrived hheld hmask false)
      rw [← List.singleton_append, ← List.append_assoc]
      apply hunplugged.arrival
      . intro n hn
        exact .inl ((hsame _ n).mp hn)
      . intro n hn
        exact .inl hn
    . trivial
    . intro k hk
      exact hk
    . simp [busy]
    . intro k n _
      exact hsame k n
    . rintro k n _ ⟨⟩
  . apply h.starts hidle
    . exact htables.alike (.refl _) (by simp [Place.Owes]) (by simp [Place.Parts]) trivial
    . intro k n
      rfl
    . trivial
    . intro waiting hwaiting
      simpa [busy] using hapart waiting hwaiting

theorem Arrived.bindSlot (h : f.Arrived) (hidle : f.place = .idle) (slotId hostId : String)
    (ask : BindRequest)
    (hapart : ∀ waiting ∈ f.inFlight,
      (∀ route ∈ f.manager.routes[slotId]?, waiting.session ≠ route.session) ∧
        ∀ session ∈ f.manager.sessions[hostId]?, waiting.session ≠ session)
    : (f.bindSlot slotId hostId ask).Arrived := by
  have htables := h.tables
  rw [hidle] at htables
  obtain ⟨hensured, hsession⟩ := htables.ensureSession hostId ask.identity
  obtain ⟨hannounced, hroutes⟩ := announced_ensureSession f.manager hostId ask.identity
  have hnew (session : Nat) (heq : (f.manager.ensureSession hostId ask.identity).1 = some session)
      (waiting : InFlight) (hwaiting : waiting ∈ f.inFlight) : waiting.session ≠ session :=
    h.ensureSession_apart hidle hwaiting heq (hapart waiting hwaiting).2
  unfold Forwarding.bindSlot
  split
  . exact h
  . cases hensure : f.manager.ensureSession hostId ask.identity with
    | mk found manager =>
      rw [hensure] at hensured hsession hannounced hroutes hnew
      cases found with
      | none =>
        apply h.starts hidle
        . rwa [hidle]
        . intro k n
          rw [hannounced]
        . rw [hidle]
          trivial
        . simp [busy, hidle]
      | some session =>
        have hsession := hsession session rfl
        have hnew := hnew session rfl
        dsimp only
        split
        next held hheld =>
          obtain ⟨route, hroute, hown, hnumber⟩ := MoonlightManager.numberOnSession_eq_some.mp hheld
          have halike := alike_keepPicks manager slotId ask
          have hpicked : { f with manager := manager.keepPicks slotId ask }.Arrived := by
            apply h.starts hidle
            . rw [hidle]
              exact hensured.alike halike (fun _ _ => id) (fun _ _ => id) trivial
            . intro k n
              rw [halike.announced, hannounced]
            . rw [hidle]
              trivial
            . simp [busy, hidle]
          apply hpicked.reannounceInPlace hidle
          . rw [halike.numbered, ← hown, ← hnumber]
            exact hensured.numbered_of_route hroute
          . exact hnew
        next =>
          apply h.starts hidle
          . apply hensured.alike (.refl _) (by simp [Place.Owes]) (by simp [Place.Parts])
            rintro b ⟨⟩
            exact hsession
          . intro k n
            rw [hannounced]
          . trivial
          . intro waiting hwaiting hbusy
            simp only [busy, Option.map_some, Option.toList_some, List.mem_append, Option.mem_toList,
              Option.map_eq_some_iff, List.mem_singleton] at hbusy
            rcases hbusy with ⟨route, hroute, heq⟩ | heq
            . rw [hroutes] at hroute
              exact (hapart waiting hwaiting).1 route hroute heq.symm
            . exact hnew waiting hwaiting heq

theorem streaming_of_sendArrival {event : SessionEvent}
    (h : .SendArrival ∈ (reduceSession (f.states session) event).effects)
    : (f.signal session event).streaming session = true := by
  simp only [streaming, signal, Function.update_self, decide_eq_true_eq]
  cases event <;>
    grind [nextSession, reduceSession, inPhases, reduceUserQuit, reduceLaunchSucceeded,
      SessionReduction.to]

theorem Arrived.dispatch (h : f.Arrived) (hidle : f.place = .idle) (session : Nat)
    (event : SessionEvent)
    (hapart : .SendArrival ∈ (reduceSession (f.states session) event).effects →
      ∀ waiting ∈ f.inFlight, waiting.session ≠ session)
    : (f.dispatch session event).Arrived := by
  have htables := h.tables
  rw [hidle] at htables
  unfold Forwarding.dispatch
  split
  next hsend =>
    refine ⟨?_, ?_, ?_, ?_⟩
    . apply htables.alike (.refl _) (by simp [Place.Owes]) (by simp [Place.Parts])
      intro number hnumber
      exact TreeMap.mem_keys.mp hnumber
    . intro k
      by_cases heq : k = session
      . subst heq
        change WireOk _ _ _ (Function.update f.wires k (f.wires k ++ [.up]) k)
        rw [Function.update_self]
        apply (h.wires k).up
        intro n hn
        exact ⟨rfl, TreeMap.mem_keys.mpr hn⟩
      . change WireOk _ _ _ (Function.update f.wires session (f.wires session ++ [.up]) k)
        rw [Function.update_of_ne heq]
        apply (h.wires k).mono
        . simp [streaming, signal, record, heq]
        . intro n hn
          exact hn
        . intro n _ hpend
          rw [hidle] at hpend
          exact hpend.elim
    . exact streaming_of_sendArrival hsend
    . intro waiting hwaiting
      have hold := h.waits waiting hwaiting
      refine ⟨?_, hold.number, hold.mask⟩
      simpa [busy] using hapart hsend waiting hwaiting
  next hquiet =>
    apply h.quiet h.tables
    . rw [hidle]
      trivial
    . intro k hk
      simp [busy, hidle] at hk
    . intro k hk
      exact streaming_signal hquiet hk
    . intro k n
      rfl
    . simp [hidle, Place.Pending]

/--
Nothing is begun on a session while a frame of it waits, and no route is looked up whose session is
being changed.
-/
def Separate (f : Forwarding) : Act → Prop
  | .bindSlot slotId hostId _ =>
    ∀ waiting ∈ f.inFlight,
      (∀ route ∈ f.manager.routes[slotId]?, waiting.session ≠ route.session) ∧
        ∀ session ∈ f.manager.sessions[hostId]?, waiting.session ≠ session
  | .unbindSlot slotId =>
    ∀ waiting ∈ f.inFlight, ∀ route ∈ f.manager.routes[slotId]?, waiting.session ≠ route.session
  | .signal session event =>
    .SendArrival ∈ (reduceSession (f.states session) event).effects →
      ∀ waiting ∈ f.inFlight, waiting.session ≠ session
  | .lookUp slotId _ => ∀ route ∈ f.manager.routes[slotId]?, route.session ∉ f.busy
  | .main | .send _ => True

instance (f : Forwarding) (a : Act) : Decidable (f.Separate a) := by
  cases a <;> unfold Separate <;> infer_instance

theorem Arrived.step (h : f.Arrived) {a : Act} (ha : f.Separate a) (hstep : f.step a = some f')
    : f'.Arrived := by
  cases a with
  | bindSlot slotId hostId ask =>
    obtain ⟨hidle, hstep⟩ := Option.ite_none_right_eq_some.mp hstep
    cases hstep
    exact h.bindSlot hidle slotId hostId ask ha
  | unbindSlot slotId =>
    obtain ⟨hidle, hstep⟩ := Option.ite_none_right_eq_some.mp hstep
    cases hstep
    exact h.unbindSlot hidle slotId ha
  | signal session event =>
    obtain ⟨hidle, hstep⟩ := Option.ite_none_right_eq_some.mp hstep
    cases hstep
    exact h.dispatch hidle.1 session event ha
  | main => exact h.main hstep
  | lookUp slotId report =>
    cases hstep
    exact h.lookUp slotId report ha
  | send i => exact h.sendLookedUp hstep

theorem arrived_initial : ({} : Forwarding).Arrived := by
  refine ⟨⟨?_, ?_, ?_, ?_, ?_, ?_, trivial⟩, ?_, trivial, ?_⟩
  . simp
  . simp
  . intro hostId slotId number hnumber
    simp [MoonlightManager.padSet, PadSlots.empty, PadSlots.numberFor] at hnumber
  . simp
  . rintro session number ⟨hostId, slotId, hsession, _⟩
    simp at hsession
  . intro session number hnumber
    simp [MoonlightManager.announced] at hnumber
  . intro session
    refine ⟨?_, ?_, eachAfter_nil _⟩
    . simp [streaming]
    . simp [streaming]
  . simp

theorem named_of_separate (acts : List Act) (hacts : Along step Separate {} acts)
    (hrun : run {} acts = some f) (session : Nat) {before after : List WireEvent} {number : Nat}
    {mask : BitVec 16} {farewell : Bool}
    (hwire : f.wires session = before ++ .state number mask farewell :: after)
    : arrivedOn number before = true ∧
      ∀ n, n = number ∨ mask.getLsbD n = true → goneFrom n before = false := by
  have harrived : f.Arrived := by
    apply invariant_of_along (I := Arrived) _ arrived_initial hacts hrun
    intro f a f' h ha hstep
    exact h.step ha hstep
  exact (harrived.wires session).named before _ after hwire number mask farewell rfl

def padAsk : BindRequest where
  known := true
  identity := true
  arrival := ⟨1#8, 2#8⟩
  touchReaches := true
  userMotionOn := true
  pickRemoved := false

def restReport : PadReport :=
  ⟨0#16, 0#8, 0#8, 0#16, 0#16, 0#16, 0#16⟩

def denComesUp : List Act :=
  .bindSlot "a" "den" padAsk :: List.replicate 6 .main ++
    [.signal 0 .LaunchSucceeded, .signal 0 .RtspSucceeded, .signal 0 .ControlConnected, .main, .main,
      .main]

theorem named_in_den
    : ∃ f before, run {} (denComesUp ++ [.lookUp "a" restReport, .send 0]) = some f ∧
        f.wires 0 = before ++ [.state 0 1#16 false] ∧ arrivedOn 0 before = true ∧
        ∀ n, n = 0 ∨ (1#16).getLsbD n = true → goneFrom n before = false := by
  have hany : (run {} (denComesUp ++ [.lookUp "a" restReport, .send 0])).any (fun f =>
      f.wires 0 = (f.wires 0).take 4 ++ [.state 0 1#16 false]) = true := by
    decide +kernel
  obtain ⟨f, hrun, hwire⟩ := exists_run_of_any hany
  have hwire := of_decide_eq_true hwire
  exact ⟨f, _, hrun, hwire, named_of_separate _ (by decide +kernel) hrun 0 hwire⟩

theorem named_too_early_and_too_late
    : (∃ acts f before mask, run {} acts = some f ∧
        f.wires 0 = before ++ [.state 1 mask false] ∧ .assigned 1 ∈ before ∧
        arrivedOn 1 before = false) ∧
      ∃ acts f before mask, run {} acts = some f ∧
        f.wires 0 = before ++ [.state 1 mask false] ∧ goneFrom 1 before = true := by
  have hearly : (run {} (denComesUp ++ [.bindSlot "b" "den" padAsk, .main, .main, .main,
      .lookUp "b" restReport, .send 0])).any (fun f =>
        f.wires 0 = (f.wires 0).take 5 ++ [.state 1 3#16 false] ∧
          .assigned 1 ∈ (f.wires 0).take 5 ∧ arrivedOn 1 ((f.wires 0).take 5) = false) = true := by
    decide +kernel
  have hlate : (run {} (denComesUp ++ .bindSlot "b" "den" padAsk :: List.replicate 5 .main ++
      [.lookUp "b" restReport, .unbindSlot "b", .main, .main, .main, .send 0])).any (fun f =>
        f.wires 0 = (f.wires 0).take 8 ++ [.state 1 3#16 false] ∧
          goneFrom 1 ((f.wires 0).take 8) = true) = true := by
    decide +kernel
  constructor
  . obtain ⟨f, hrun, hf⟩ := exists_run_of_any hearly
    exact ⟨_, f, _, _, hrun, of_decide_eq_true hf⟩
  . obtain ⟨f, hrun, hf⟩ := exists_run_of_any hlate
    exact ⟨_, f, _, _, hrun, of_decide_eq_true hf⟩

end Forwarding

end Moonlight
