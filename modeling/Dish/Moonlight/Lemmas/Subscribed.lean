import Mathlib.Data.List.Induction
import Dish.Moonlight.Streams
import Dish.Moonlight.Lemmas.Announced

/-!
This module contains the law of the motion packets.
-/

open Transition

namespace Moonlight

section

variable (number type : Nat)

def StreamEvent.rate : StreamEvent → Option Nat
  | .motionRequest n t rateHz => if n = number ∧ t = type then some rateHz else none
  | _ => none

def StreamEvent.packet : StreamEvent → Option Int
  | .motion n t nowUs => if n = number ∧ t = type then some nowUs else none
  | _ => none

def requestedRate (log : List StreamEvent) : Option Nat :=
  lastSince (StreamEvent.resets number) (StreamEvent.rate number type) log

def lastPacket (log : List StreamEvent) : Option Int :=
  lastSince (fun event => event.resets number || event.rate number type = some 0)
    (StreamEvent.packet number type) log

end

def Judged (log : List StreamEvent) (event : StreamEvent) : Prop :=
  ∀ number type nowUs, event = .motion number type nowUs →
    announcedOn number log = true ∧
      ∃ rateHz, 0 < rateHz ∧ requestedRate number type log = some rateHz ∧
        ∀ last, lastPacket number type log = some last → (1000000 / rateHz : Nat) ≤ nowUs - last

def StreamEvent.isRumble : StreamEvent → Bool
  | .rumble _ _ _ | .triggerRumble _ _ _ | .delivered _ _ _ => true
  | _ => false

def motionTypes : List Nat :=
  [kMotionGyro, kMotionAccel]

section

variable {log : List StreamEvent} {event : StreamEvent} {number type : Nat}

theorem requestedRate_of_resets (hresets : event.resets number = true)
    : requestedRate number type (log ++ [event]) = none := by
  simp [requestedRate, hresets]

theorem requestedRate_concat (hresets : event.resets number = false)
    : requestedRate number type (log ++ [event]) =
      (event.rate number type).or (requestedRate number type log) := by
  simp [requestedRate, hresets]

theorem lastPacket_of_resets (hresets : event.resets number = true)
    : lastPacket number type (log ++ [event]) = none := by
  simp [lastPacket, hresets]

theorem lastPacket_of_zero (hzero : event.rate number type = some 0)
    : lastPacket number type (log ++ [event]) = none := by
  simp [lastPacket, hzero]

theorem lastPacket_concat (hresets : event.resets number = false)
    (hrate : event.rate number type ≠ some 0)
    : lastPacket number type (log ++ [event]) =
      (event.packet number type).or (lastPacket number type log) := by
  simp [lastPacket, hresets, hrate]

theorem le_lastPacket {before between : List StreamEvent} {firstUs : Int} {rateHz : Nat}
    (hjudged : EachAfter Judged (before ++ .motion number type firstUs :: between)) (hpos : 0 < rateHz)
    (hstays : ∀ k ≤ between.length,
      requestedRate number type (before ++ .motion number type firstUs :: between.take k) = some rateHz)
    : ∃ lastUs, lastPacket number type (before ++ .motion number type firstUs :: between) = some lastUs ∧
        firstUs ≤ lastUs := by
  induction between using List.reverseRecOn with
  | nil =>
    refine ⟨firstUs, ?_, Int.le_refl _⟩
    rw [lastPacket_concat rfl (by simp [StreamEvent.rate])]
    simp [StreamEvent.packet]
  | append_singleton between event ih =>
    rw [← List.cons_append, ← List.append_assoc] at hjudged ⊢
    have hbefore : EachAfter Judged (before ++ .motion number type firstUs :: between) :=
      hjudged.of_append
    obtain ⟨lastUs, hlast, hle⟩ := ih hbefore (by
      intro k hk
      have := hstays k (by simp; omega)
      rwa [List.take_append_of_le_length hk] at this)
    -- The rate after the event is not zero, so the event forgets no packet.
    have hafter := hstays (between.length + 1) (by simp)
    rw [List.take_of_length_le (by simp), ← List.cons_append, ← List.append_assoc] at hafter
    have hresets : event.resets number = false := by
      apply Bool.eq_false_iff.mpr
      intro hresets
      rw [requestedRate_of_resets hresets] at hafter
      contradiction
    have hzero : event.rate number type ≠ some 0 := by
      intro hzero
      rw [requestedRate_concat hresets, hzero] at hafter
      cases hafter
      contradiction
    rw [lastPacket_concat hresets hzero, hlast]
    cases hpacket : event.packet number type with
    | none => exact ⟨lastUs, rfl, hle⟩
    | some nowUs =>
      have hmotion : event = .motion number type nowUs := by
        cases event
        all_goals grind [StreamEvent.packet]
      obtain ⟨_, rateHz', _, _, hdue⟩ := hjudged.last number type nowUs hmotion
      have hnow := hdue lastUs hlast
      have hgap : (0 : Int) ≤ (1000000 / rateHz' : Nat) := Int.natCast_nonneg _
      exact ⟨nowUs, rfl, by omega⟩

structure MotionGate.Follows (gate : MotionGate) (log : List StreamEvent) (number type : Nat)
    : Prop where
  rates : gate.rates number type = (requestedRate number type log).filter (0 < ·)
  sent : gate.lastSentUs number type = lastPacket number type log

def MotionGate.Tidy (gate : MotionGate) : Prop :=
  ∀ number type, gate.rates number type = none → gate.lastSentUs number type = none

section

variable {gate : MotionGate} {n t rateHz : Nat} {nowUs : Int}

theorem MotionGate.Tidy.clear (h : gate.Tidy) (n : Nat) : (gate.clear n).Tidy := by
  intro number type
  have := h number type
  grind

theorem MotionGate.Tidy.onMotionRequest (h : gate.Tidy) (n t rateHz : Nat)
    : (gate.onMotionRequest n t rateHz).Tidy := by
  intro number type
  have := h number type
  grind

theorem MotionGate.Tidy.marked (h : gate.Tidy) (hdue : gate.due n t nowUs = true)
    : (gate.marked n t nowUs).Tidy := by
  intro number type
  have := h number type
  grind [MotionGate.due]

theorem MotionGate.Follows.of_silent (h : gate.Follows log number type)
    (hresets : event.resets number = false) (hrate : event.rate number type = none)
    (hpacket : event.packet number type = none)
    : gate.Follows (log ++ [event]) number type := by
  constructor
  . rw [requestedRate_concat hresets, hrate]
    exact h.rates
  . rw [lastPacket_concat hresets (by simp [hrate]), hpacket]
    exact h.sent

theorem MotionGate.Tidy.follows_announced (h : gate.Tidy) (hrates : gate.rates number type = none)
    : gate.Follows (log ++ [.announced number]) number type := by
  have hresets : (StreamEvent.announced number).resets number = true := by
    simp [StreamEvent.resets]
  constructor
  . rw [requestedRate_of_resets hresets, hrates]
    rfl
  . rw [lastPacket_of_resets hresets, h number type hrates]

theorem MotionGate.Follows.onMotionRequest (h : gate.Follows log number type) (n t rateHz : Nat)
    : (gate.onMotionRequest n t rateHz).Follows (log ++ [.motionRequest n t rateHz]) number type := by
  constructor
  . rw [requestedRate_concat rfl, MotionGate.rates_onMotionRequest, h.rates, StreamEvent.rate]
    grind
  . rw [MotionGate.lastSentUs_onMotionRequest, h.sent]
    by_cases hzero : (StreamEvent.motionRequest n t rateHz).rate number type = some 0
    . rw [lastPacket_of_zero hzero]
      grind [StreamEvent.rate]
    . rw [lastPacket_concat rfl hzero]
      grind [StreamEvent.rate, StreamEvent.packet]

theorem MotionGate.Follows.marked (h : gate.Follows log number type) (n t : Nat) (nowUs : Int)
    : (gate.marked n t nowUs).Follows (log ++ [.motion n t nowUs]) number type := by
  constructor
  . rw [requestedRate_concat rfl]
    exact h.rates
  . rw [lastPacket_concat rfl (by simp [StreamEvent.rate]), MotionGate.lastSentUs_marked, h.sent,
      StreamEvent.packet]
    grind

theorem MotionGate.Follows.judged (h : gate.Follows log number type)
    (hannounced : announcedOn number log = true) (hdue : gate.due number type nowUs = true)
    : Judged log (.motion number type nowUs) := by
  rintro number type nowUs ⟨⟩
  refine ⟨hannounced, ?_⟩
  unfold MotionGate.due at hdue
  split at hdue
  . contradiction
  next rateHz hrate =>
    rw [h.rates, Option.filter_eq_some_iff] at hrate
    refine ⟨rateHz, of_decide_eq_true hrate.2, hrate.1, ?_⟩
    intro last hlast
    rw [h.sent, hlast] at hdue
    exact of_decide_eq_true hdue

end

end

namespace Stream

variable {s : Stream} {number : Nat}

structure Gated (s : Stream) : Prop where
  tidy : s.gate.Tidy
  follows : ∀ number, announcedOn number s.log = true → ∀ type ∈ motionTypes,
    s.gate.Follows s.log number type
  judged : EachAfter Judged s.log

def Hears (s : Stream) (number : Nat) : Prop :=
  s.streaming = true → announcedOn number s.log = true

def Unsubscribed (s : Stream) : SessionCall → Prop
  | .sendControllerArrival number _ =>
    s.streaming = true → ∀ type ∈ motionTypes, s.gate.rates number type = none
  | _ => True

instance decidableUnsubscribed (s : Stream) : (call : SessionCall) → Decidable (s.Unsubscribed call)
  | .sendControllerArrival number _ =>
    inferInstanceAs
      (Decidable (s.streaming = true → ∀ type ∈ motionTypes, s.gate.rates number type = none))
  | .sendControllerState _ | .sendControllerReplug _ _ | .forgetControllerArrival _ | .launch | .quit =>
    instDecidableTrue

theorem Gated.record (h : s.Gated) {gate : MotionGate} {event : StreamEvent} (htidy : gate.Tidy)
    (hsilent : ∀ number type, event.rate number type = none ∧ event.packet number type = none)
    (hnew : ∀ number, event = .announced number → ∀ type ∈ motionTypes, gate.rates number type = none)
    (hkept : ∀ number type, event.resets number = false →
      gate.rates number type = s.gate.rates number type ∧
        gate.lastSentUs number type = s.gate.lastSentUs number type)
    : ({ s with gate }.record event).Gated := by
  refine ⟨htidy, ?_, ?_⟩
  . intro number hannounced type htype
    rcases announcedOn_of_concat hannounced with heq | ⟨hold, hresets⟩
    . subst heq
      exact htidy.follows_announced (hnew number rfl type htype)
    . have hsame := (h.follows number hold type htype).of_silent hresets (hsilent number type).1
        (hsilent number type).2
      obtain ⟨hrates, hsent⟩ := hkept number type hresets
      exact ⟨hrates.trans hsame.rates, hsent.trans hsame.sent⟩
  . apply h.judged.concat
    rintro number type nowUs rfl
    have hpacket := (hsilent number type).2
    simp [StreamEvent.packet] at hpacket

theorem Gated.record_same (h : s.Gated) {event : StreamEvent}
    (hsilent : ∀ number type, event.rate number type = none ∧ event.packet number type = none)
    (hnew : ∀ number, event = .announced number → ∀ type ∈ motionTypes,
      s.gate.rates number type = none)
    : (s.record event).Gated := by
  exact h.record h.tidy hsilent hnew fun _ _ _ => ⟨rfl, rfl⟩

theorem streaming_nextSession {s s' : Stream} {event : SessionEvent}
    (hstate : s'.state = nextSession s.state event) (h : s'.streaming = true)
    : .SendArrival ∈ (reduceSession s.state event).effects ∨ s.streaming = true := by
  simp only [streaming, hstate, decide_eq_true_eq] at h ⊢
  cases event <;>
    grind [nextSession, reduceSession, inPhases, reduceUserQuit, reduceLaunchSucceeded,
      SessionReduction.to]

theorem streaming_call (call : SessionCall) (h : (s.call call).streaming = true)
    : s.streaming = true := by
  cases call with
  | launch =>
    cases streaming_nextSession rfl h with
    | inl hsend =>
      have hnone : .SendArrival ∉ (reduceSession s.state .StartLaunch).effects := by
        grind [reduceSession, inPhases, SessionReduction.to]
      exact absurd hsend hnone
    | inr hold => exact hold
  | quit =>
    unfold Stream.call at h
    dsimp only at h
    split at h
    . exact h
    . cases streaming_nextSession rfl h with
      | inl hsend =>
        have hnone : .SendArrival ∉ (reduceSession s.state .UserQuit).effects := by
          grind [reduceSession, reduceUserQuit, SessionReduction.to]
        exact absurd hsend hnone
      | inr hold => exact hold
  | _ => exact h

theorem Hears.announce {n : Nat} (h : s.Hears n ∨ n = number) : (s.announce number).Hears n := by
  intro hstreaming
  have hstreaming : s.streaming = true := hstreaming
  change announcedOn n (s.log ++ [if s.streaming then .announced number else .held number]) = true
  rw [if_pos hstreaming]
  by_cases heq : n = number
  . rw [heq]
    exact announcedOn_announced
  . have hold := h.resolve_right heq hstreaming
    apply announcedOn_concat hold
    simp [StreamEvent.resets, Ne.symm heq]

theorem Hears.call (h : s.Hears number) (call : SessionCall) : (s.call call).Hears number := by
  cases call with
  | sendControllerState state => exact h
  | forgetControllerArrival n => exact h
  | sendControllerArrival n pad => exact Hears.announce (.inl h)
  | sendControllerReplug n pad =>
    exact Hears.announce (s := { s with gate := s.gate.clear n }) (.inl h)
  | launch =>
    intro hstreaming
    exact h (streaming_call .launch hstreaming)
  | quit =>
    intro hstreaming
    have hold := h (streaming_call .quit hstreaming)
    unfold Stream.call
    dsimp only
    split
    . exact hold
    . exact hold

theorem rates_call {n type : Nat} (call : SessionCall) (h : s.gate.rates n type = none)
    : (s.call call).gate.rates n type = none := by
  cases call with
  | sendControllerReplug number pad =>
    change (s.gate.clear number).rates n type = none
    grind
  | quit =>
    unfold Stream.call
    dsimp only
    split
    . exact h
    . exact h
  | _ => exact h

theorem Unsubscribed.after_call {call call' : SessionCall} (h : s.Unsubscribed call)
    : (s.call call').Unsubscribed call := by
  cases call with
  | sendControllerArrival n pad =>
    intro hstreaming type htype
    exact rates_call call' (h (streaming_call call' hstreaming) type htype)
  | _ => trivial

theorem Gated.call (h : s.Gated) (call : SessionCall) (hcall : s.Unsubscribed call)
    : (s.call call).Gated := by
  cases call with
  | sendControllerState state => exact h
  | forgetControllerArrival n => exact h
  | sendControllerArrival n pad =>
    rw [Stream.call, announce]
    split
    next hstreaming =>
      apply h.record_same
      . intro number type
        exact ⟨rfl, rfl⟩
      . rintro number ⟨⟩
        exact hcall hstreaming
    next =>
      apply h.record_same
      . intro number type
        exact ⟨rfl, rfl⟩
      . intro number heq
        cases heq
  | sendControllerReplug n pad =>
    rw [Stream.call, announce]
    apply h.record (h.tidy.clear n)
    . intro number type
      split
      . exact ⟨rfl, rfl⟩
      . exact ⟨rfl, rfl⟩
    . intro number heq type _
      grind
    . intro number type hresets
      grind [StreamEvent.resets]
  | launch => exact ⟨h.tidy, h.follows, h.judged⟩
  | quit =>
    unfold Stream.call
    dsimp only
    split
    . exact h
    . exact ⟨h.tidy, h.follows, h.judged⟩

theorem Gated.announced_all (h : s.Gated) (arrivals : List Nat)
    (hrates : ∀ number ∈ arrivals, ∀ type ∈ motionTypes, s.gate.rates number type = none)
    : (arrivals.foldl (fun s number => s.record (.announced number)) s).Gated := by
  induction arrivals generalizing s with
  | nil => exact h
  | cons number arrivals ih =>
    rw [List.foldl_cons]
    apply ih
    . apply h.record_same
      . intro n type
        exact ⟨rfl, rfl⟩
      . rintro n ⟨⟩
        exact hrates number List.mem_cons_self
    . intro n hn
      exact hrates n (List.mem_cons_of_mem _ hn)

theorem announcedOn_all (arrivals : List Nat) (h : number ∈ arrivals ∨ announcedOn number s.log = true)
    : announcedOn number
        (arrivals.foldl (fun s number => s.record (.announced number)) s).log = true := by
  induction arrivals generalizing s with
  | nil => simpa using h
  | cons first arrivals ih =>
    rw [List.foldl_cons]
    apply ih
    by_cases heq : number = first
    . right
      rw [heq]
      exact announcedOn_announced
    . cases h with
      | inl hmem => exact .inl ((List.mem_cons.mp hmem).resolve_left heq)
      | inr hold =>
        right
        apply announcedOn_concat hold
        simp [StreamEvent.resets, Ne.symm heq]

theorem Gated.dispatch (h : s.Gated) (arrivals : List Nat) (event : SessionEvent)
    (hrates : .SendArrival ∈ (reduceSession s.state event).effects →
      ∀ number ∈ arrivals, ∀ type ∈ motionTypes, s.gate.rates number type = none)
    : (s.dispatch arrivals event).Gated := by
  have hmoved : { s with state := nextSession s.state event }.Gated := ⟨h.tidy, h.follows, h.judged⟩
  unfold Stream.dispatch
  dsimp only
  split
  next hsend =>
    apply Gated.announced_all
    . apply hmoved.record_same
      . intro n type
        exact ⟨rfl, rfl⟩
      . intro n heq
        cases heq
    . exact hrates hsend
  next => exact hmoved

theorem Hears.dispatch (h : s.Hears number) {arrivals : List Nat} (hmem : number ∈ arrivals)
    (event : SessionEvent)
    : (s.dispatch arrivals event).Hears number := by
  unfold Stream.dispatch
  dsimp only
  split
  next hsend =>
    intro _
    exact announcedOn_all arrivals (.inl hmem)
  next hsend =>
    intro hstreaming
    exact h ((streaming_nextSession rfl hstreaming).resolve_left hsend)

theorem Gated.onMotionRequest (h : s.Gated) (n type rateHz : Nat)
    : (s.onMotionRequest n type rateHz).Gated := by
  refine ⟨h.tidy.onMotionRequest n type rateHz, ?_, ?_⟩
  . intro number hannounced t ht
    rcases announcedOn_of_concat hannounced with heq | ⟨hold, _⟩
    . cases heq
    . exact (h.follows number hold t ht).onMotionRequest n type rateHz
  . apply h.judged.concat
    intro number t nowUs heq
    cases heq

theorem Gated.sendControllerMotion (h : s.Gated) (hears : s.Hears number) {type : Nat}
    (htype : type ∈ motionTypes) (nowUs : Int)
    : (s.sendControllerMotion number type nowUs).Gated := by
  unfold Stream.sendControllerMotion
  split
  . exact h
  next hsend =>
    simp only [Bool.or_eq_true, Bool.not_eq_true', not_or, Bool.not_eq_false] at hsend
    obtain ⟨hstreaming, hdue⟩ := hsend
    have hannounced := hears hstreaming
    refine ⟨h.tidy.marked hdue, ?_, ?_⟩
    . intro n hn t ht
      rcases announcedOn_of_concat hn with heq | ⟨hold, _⟩
      . cases heq
      . exact (h.follows n hold t ht).marked number type nowUs
    . exact h.judged.concat ((h.follows number hannounced type htype).judged hannounced hdue)

theorem Hears.sendControllerMotion (h : s.Hears number) (n type : Nat) (nowUs : Int)
    : (s.sendControllerMotion n type nowUs).Hears number := by
  unfold Stream.sendControllerMotion
  split
  . exact h
  . intro hstreaming
    exact announcedOn_concat (h hstreaming) rfl

end Stream

namespace Streams

variable {σ σ' : Streams}

def AnnouncedUnsubscribed (σ : Streams) : Act → Prop
  | .manage a => ∀ c ∈ newCalls σ.manager a, (σ.streams c.1).Unsubscribed c.2
  | .signal session event =>
    .SendArrival ∈ (reduceSession (σ.streams session).state event).effects →
      ∀ number ∈ σ.arrivals session, ∀ type ∈ motionTypes,
        (σ.streams session).gate.rates number type = none
  | _ => True

instance decidableAnnouncedUnsubscribed (σ : Streams)
    : (a : Act) → Decidable (σ.AnnouncedUnsubscribed a)
  | .manage a => inferInstanceAs (Decidable (∀ c ∈ newCalls σ.manager a, (σ.streams c.1).Unsubscribed c.2))
  | .signal session event =>
    inferInstanceAs (Decidable (.SendArrival ∈ (reduceSession (σ.streams session).state event).effects →
      ∀ number ∈ σ.arrivals session, ∀ type ∈ motionTypes,
        (σ.streams session).gate.rates number type = none))
  | .motionRequest _ _ _ _ | .forwardMotion _ _ _ | .rumble _ _ _ _ | .triggerRumble _ _ _ _
  | .deliver _ => instDecidableTrue

structure Subscribed (σ : Streams) : Prop where
  sound : σ.manager.Sound
  announces : σ.manager.Announces
  gated : ∀ session, (σ.streams session).Gated
  hears : ∀ (slotId : String) (route : Route), σ.manager.routes[slotId]? = some route →
    (σ.streams route.session).Hears route.controllerNumber

theorem Subscribed.update (h : σ.Subscribed) {session : Nat} {f : Stream → Stream}
    (hgated : (f (σ.streams session)).Gated)
    (hhears : ∀ (slotId : String) (route : Route), σ.manager.routes[slotId]? = some route →
      route.session = session → (f (σ.streams session)).Hears route.controllerNumber)
    : (σ.update session f).Subscribed := by
  refine ⟨h.sound, h.announces, forall_update h.gated hgated, ?_⟩
  intro slotId route hroute
  by_cases heq : route.session = session
  . have hnew := hhears slotId route hroute heq
    simpa [Streams.update, heq] using hnew
  . simpa [Streams.update, heq] using h.hears slotId route hroute

theorem Subscribed.record_rumble (h : σ.Subscribed) (session : Nat) {event : StreamEvent}
    (hevent : event.isRumble = true) {f : Stream → Stream}
    (hlog : (f (σ.streams session)).log = (σ.streams session).log ++ [event])
    (hgate : (f (σ.streams session)).gate = (σ.streams session).gate)
    (hstate : (f (σ.streams session)).state = (σ.streams session).state)
    : (σ.update session f).Subscribed := by
  have hresets (number : Nat) : event.resets number = false := by
    cases event <;> first | rfl | contradiction
  have hrecorded : ((σ.streams session).record event).Gated := by
    apply (h.gated session).record_same
    . intro number type
      cases event <;> first | exact ⟨rfl, rfl⟩ | contradiction
    . rintro number rfl
      contradiction
  apply h.update
  . refine ⟨hgate ▸ hrecorded.tidy, ?_, hlog ▸ hrecorded.judged⟩
    rw [hgate, hlog]
    exact hrecorded.follows
  . rintro slotId route hroute rfl hstreaming
    have hold : (σ.streams route.session).streaming = true := by
      simpa [Stream.streaming, hstate] using hstreaming
    rw [hlog]
    exact announcedOn_concat (h.hears slotId route hroute hold) (hresets _)

theorem newCalls_of_tells {m : MoonlightManager} {a : MoonlightManager.Act}
    {calls : List (Nat × SessionCall)} (h : m.Tells (m.step a) calls)
    : newCalls m a = calls := by
  rw [newCalls, h.made, List.drop_left]

theorem hears_calls (calls : List (Nat × SessionCall)) {session number : Nat}
    (h : (σ.streams session).Hears number ∨
      ∃ pad, (session, .sendControllerArrival number pad) ∈ calls)
    : ((calls.foldl (fun σ c => σ.update c.1 fun s => s.call c.2) σ).streams session).Hears
        number := by
  induction calls generalizing σ with
  | nil => simpa using h
  | cons c calls ih =>
    rw [List.foldl_cons]
    apply ih
    by_cases heq : session = c.1
    . subst heq
      simp only [Streams.update, Function.update_self]
      rcases h with hold | ⟨pad, hpad⟩
      . exact .inl (hold.call c.2)
      . cases List.mem_cons.mp hpad with
        | inl hfirst =>
          left
          rw [← hfirst]
          exact Stream.Hears.announce (.inr rfl)
        | inr hrest => exact .inr ⟨pad, hrest⟩
    . simp only [Streams.update, Function.update_of_ne heq]
      rcases h with hold | ⟨pad, hpad⟩
      . exact .inl hold
      . cases List.mem_cons.mp hpad with
        | inl hfirst => exact absurd (congrArg Prod.fst hfirst) heq
        | inr hrest => exact .inr ⟨pad, hrest⟩

theorem gated_calls (h : ∀ session, (σ.streams session).Gated) (calls : List (Nat × SessionCall))
    (hcalls : ∀ c ∈ calls, (σ.streams c.1).Unsubscribed c.2)
    : ∀ session, ((calls.foldl (fun σ c => σ.update c.1 fun s => s.call c.2) σ).streams
        session).Gated := by
  induction calls generalizing σ with
  | nil => exact h
  | cons c calls ih =>
    rw [List.foldl_cons]
    apply ih
    . exact forall_update h ((h c.1).call c.2 (hcalls c List.mem_cons_self))
    . intro c' hc'
      have hold := hcalls c' (List.mem_cons_of_mem _ hc')
      by_cases heq : c'.1 = c.1
      . rw [heq] at hold ⊢
        simpa [Streams.update] using hold.after_call
      . simpa [Streams.update, heq] using hold

theorem manager_calls (calls : List (Nat × SessionCall))
    : (calls.foldl (fun σ c => σ.update c.1 fun s => s.call c.2) σ).manager = σ.manager := by
  apply List.foldlRecOn (motive := fun σ' : Streams => σ'.manager = σ.manager) _ _ rfl
  intro σ' h c _
  exact h

theorem Subscribed.manage (h : σ.Subscribed) (a : MoonlightManager.Act)
    (ha : σ.AnnouncedUnsubscribed (.manage a))
    : (σ.manage a).Subscribed := by
  obtain ⟨calls, htells⟩ := MoonlightManager.tells_step σ.manager a
  have hcalls := newCalls_of_tells htells
  have hmanager : (σ.manage a).manager = σ.manager.step a := manager_calls _
  constructor
  . rw [hmanager]
    exact h.sound.step a
  . rw [hmanager]
    exact h.announces.step h.sound a
  . exact gated_calls (σ := { σ with manager := σ.manager.step a }) h.gated _ ha
  . intro slotId route hroute
    rw [hmanager] at hroute
    apply hears_calls
    rw [hcalls]
    rcases htells.origin slotId route hroute with ⟨route', hroute', hsession, hnumber⟩ | hnew
    . left
      rw [← hsession, ← hnumber]
      exact h.hears slotId route' hroute'
    . exact .inr hnew

theorem Subscribed.forwardMotion (h : σ.Subscribed) (slotId : String) (gyroUs accelUs : Int)
    : (σ.forwardMotion slotId gyroUs accelUs).Subscribed := by
  have hclock : { σ with nowUs := accelUs }.Subscribed := ⟨h.sound, h.announces, h.gated, h.hears⟩
  unfold Streams.forwardMotion
  split
  . exact h
  . split
    . exact h
    next route hroute =>
      split
      . exact h
      . have hhears := h.hears slotId route hroute
        apply hclock.update
        . have htype : kMotionGyro ∈ motionTypes := by decide
          have hgyro := (h.gated route.session).sendControllerMotion hhears htype gyroUs
          exact hgyro.sendControllerMotion (hhears.sendControllerMotion _ _ _) (by decide) accelUs
        . intro slotId' route' hroute' hsession
          apply Stream.Hears.sendControllerMotion
          apply Stream.Hears.sendControllerMotion
          rw [← hsession]
          exact h.hears slotId' route' hroute'

theorem Subscribed.deliver (h : σ.Subscribed) {hostId : String} (hstep : σ.deliver hostId = some σ')
    : σ'.Subscribed := by
  obtain ⟨session, _, hstep⟩ := Option.bind_eq_some_iff.mp hstep
  split at hstep
  . contradiction
  next entry queued _ =>
    have hdequeued : (σ.update session fun s => { s with queued }).Subscribed := by
      apply h.update
      . have hold := h.gated session
        exact ⟨hold.tidy, hold.follows, hold.judged⟩
      . rintro slotId route hroute rfl
        exact h.hears slotId route hroute
    dsimp only at hstep
    split at hstep
    . cases hstep
      exact hdequeued.record_rumble session rfl rfl rfl rfl
    . cases hstep
      exact hdequeued

theorem Subscribed.step (h : σ.Subscribed) {a : Act} (ha : σ.AnnouncedUnsubscribed a)
    (hstep : σ.step a = some σ')
    : σ'.Subscribed := by
  cases a with
  | manage a =>
    cases hstep
    exact h.manage a ha
  | signal session event =>
    cases hstep
    apply h.update
    . exact (h.gated session).dispatch _ event ha
    . rintro slotId route hroute rfl
      apply (h.hears slotId route hroute).dispatch
      rw [arrivals, Std.TreeMap.mem_keys]
      exact h.announces slotId route hroute
  | motionRequest session number type rateHz =>
    cases hstep
    apply h.update
    . exact (h.gated session).onMotionRequest number type rateHz
    . rintro slotId route hroute rfl hstreaming
      exact announcedOn_concat (h.hears slotId route hroute hstreaming) rfl
  | forwardMotion slotId gyroUs accelUs =>
    obtain ⟨_, hstep⟩ := Option.ite_none_right_eq_some.mp hstep
    cases hstep
    exact h.forwardMotion slotId gyroUs accelUs
  | rumble session number lowFreq highFreq =>
    cases hstep
    have hevent : (StreamEvent.rumble number lowFreq highFreq).isRumble = true := rfl
    exact h.record_rumble session hevent rfl rfl rfl
  | triggerRumble session number left right =>
    cases hstep
    have hevent : (StreamEvent.triggerRumble number left right).isRumble = true := rfl
    exact h.record_rumble session hevent rfl rfl rfl
  | deliver hostId => exact h.deliver hstep

theorem subscribed_initial : ({} : Streams).Subscribed := by
  refine ⟨MoonlightManager.sound_initial, ?_, ?_, ?_⟩
  . intro slotId route hroute
    simp at hroute
  . intro session
    refine ⟨fun _ _ _ => rfl, ?_, eachAfter_nil _⟩
    intro number hannounced
    simp [announcedOn] at hannounced
  . intro slotId route hroute
    simp at hroute

theorem motion_of_subscription (acts : List Act)
    (hacts : Along step AnnouncedUnsubscribed {} acts) (hrun : run {} acts = some σ)
    (session : Nat)
    : (∀ (before : List StreamEvent) (number type : Nat) (nowUs : Int) (after : List StreamEvent),
        (σ.streams session).log = before ++ .motion number type nowUs :: after →
        announcedOn number before = true ∧
          ∃ rateHz, 0 < rateHz ∧ requestedRate number type before = some rateHz) ∧
      ∀ (before between after : List StreamEvent) (number type rateHz : Nat) (firstUs secondUs : Int),
        (σ.streams session).log = before ++ .motion number type firstUs ::
          (between ++ .motion number type secondUs :: after) →
        (∀ k ≤ between.length, requestedRate number type
          (before ++ .motion number type firstUs :: between.take k) = some rateHz) →
        (1000000 / rateHz : Nat) ≤ secondUs - firstUs := by
  have hsubscribed : σ.Subscribed := by
    apply invariant_of_along (I := Subscribed) _ subscribed_initial hacts hrun
    intro σ a σ' h ha hstep
    exact h.step ha hstep
  have hjudged := (hsubscribed.gated session).judged
  constructor
  . intro before number type nowUs after hlog
    obtain ⟨hannounced, rateHz, hpos, hrate, _⟩ :=
      hjudged before _ after hlog number type nowUs rfl
    exact ⟨hannounced, rateHz, hpos, hrate⟩
  . intro before between after number type rateHz firstUs secondUs hlog hstays
    have hsplit : (σ.streams session).log = (before ++ .motion number type firstUs :: between) ++
        .motion number type secondUs :: after := by
      rw [hlog, List.append_assoc, List.cons_append]
    obtain ⟨_, rateHz', hpos, hrate, hdue⟩ := hjudged _ _ after hsplit number type secondUs rfl
    have hsame : rateHz' = rateHz := by
      have hend := hstays between.length (Nat.le_refl _)
      rw [List.take_length, hrate] at hend
      exact Option.some.inj hend
    subst hsame
    have hbefore : EachAfter Judged (before ++ .motion number type firstUs :: between) := by
      rw [hsplit] at hjudged
      exact hjudged.of_append
    obtain ⟨lastUs, hlast, hle⟩ := le_lastPacket hbefore hpos hstays
    have hgap := hdue lastUs hlast
    omega

def sampledTwice : List Act :=
  denIsUp ++ [.motionRequest 0 0 kMotionGyro 100, .forwardMotion "a" 0 0, .forwardMotion "a" 5000 5000,
    .forwardMotion "a" 10000 10000]

theorem motion_in_den
    : ∃ σ before, run {} sampledTwice = some σ ∧
        (σ.streams 0).log = before ++ .motion 0 kMotionGyro 0 ::
          ([] ++ [.motion 0 kMotionGyro 10000]) ∧
        (announcedOn 0 before = true ∧
          ∃ rateHz, 0 < rateHz ∧ requestedRate 0 kMotionGyro before = some rateHz) ∧
        (1000000 / 100 : Nat) ≤ (10000 : Int) - 0 := by
  have hany : (run {} sampledTwice).any (fun σ =>
      (σ.streams 0).log = (σ.streams 0).log.take 6 ++ .motion 0 kMotionGyro 0 ::
        ([] ++ [.motion 0 kMotionGyro 10000]) ∧
      ∀ k ≤ 0, requestedRate 0 kMotionGyro ((σ.streams 0).log.take 6 ++ .motion 0 kMotionGyro 0 ::
        ([] : List StreamEvent).take k) = some 100) = true := by
    decide +kernel
  obtain ⟨σ, hrun, hσ⟩ := exists_run_of_any hany
  obtain ⟨hlog, hstays⟩ := of_decide_eq_true hσ
  have hlaw := motion_of_subscription sampledTwice (by decide +kernel) hrun 0
  exact ⟨σ, _, hrun, hlog, hlaw.1 _ _ _ _ _ hlog,
    hlaw.2 _ [] _ _ _ _ _ _ hlog hstays⟩

theorem motion_of_former_subscription
    : ∃ acts σ before, run {} acts = some σ ∧
        (σ.streams 0).log = before ++ [.motion 0 kMotionGyro 0] ∧
        announcedOn 0 before = true ∧ requestedRate 0 kMotionGyro before = none := by
  have hany : (run {} (denIsUp ++ [.motionRequest 0 0 kMotionGyro 100, .manage (.unbindSlot "a"),
      bindPad "c", .forwardMotion "c" 0 0])).any (fun σ =>
        (σ.streams 0).log = (σ.streams 0).log.take 7 ++ [.motion 0 kMotionGyro 0] ∧
        announcedOn 0 ((σ.streams 0).log.take 7) = true ∧
        requestedRate 0 kMotionGyro ((σ.streams 0).log.take 7) = none) = true := by
    decide +kernel
  obtain ⟨σ, hrun, hσ⟩ := exists_run_of_any hany
  exact ⟨_, σ, _, hrun, of_decide_eq_true hσ⟩

end Streams

end Moonlight
