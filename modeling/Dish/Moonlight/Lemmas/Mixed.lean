import Dish.Moonlight.Streams

/-!
This module contains what a pad feels of the rumble the host sends.
-/

open Transition

namespace Moonlight

section

variable (number : Nat)

def StreamEvent.bodyRumble : StreamEvent → Option (UInt16 × UInt16)
  | .rumble n lowFreq highFreq => if n = number then some (lowFreq, highFreq) else none
  | _ => none

def StreamEvent.triggerRumbles : StreamEvent → Option (UInt16 × UInt16)
  | .triggerRumble n left right => if n = number then some (left, right) else none
  | _ => none

def rumbleSince (kind : StreamEvent → Option (UInt16 × UInt16)) (log : List StreamEvent)
    : UInt16 × UInt16 :=
  (lastSince (StreamEvent.resets number) kind log).getD (0, 0)

def bodySince (log : List StreamEvent) : UInt16 × UInt16 :=
  rumbleSince number (StreamEvent.bodyRumble number) log

def triggersSince (log : List StreamEvent) : UInt16 × UInt16 :=
  rumbleSince number (StreamEvent.triggerRumbles number) log

def mixSince (log : List StreamEvent) : RumbleMix where
  bodyStrong := (bodySince number log).1
  bodyWeak := (bodySince number log).2
  triggerLeft := (triggersSince number log).1
  triggerRight := (triggersSince number log).2

end

/--
The pad was announced when the rumble came and is still the same, and the level is the maximum of
what the host had sent.
-/
structure Felt (log : List StreamEvent) (number : Nat) (level : BodyRumble) (heard : Nat) : Prop where
  past : heard ≤ log.length
  announced : announcedOn number (log.take heard) = true
  same : ∀ event ∈ log.drop heard, event.resets number = false
  strong : level.strong =
    max (bodySince number (log.take heard)).1 (triggersSince number (log.take heard)).1
  weak : level.weak =
    max (bodySince number (log.take heard)).2 (triggersSince number (log.take heard)).2

theorem mixRumble_eq (mix : RumbleMix)
    : mixRumble mix =
      { strong := max mix.bodyStrong mix.triggerLeft, weak := max mix.bodyWeak mix.triggerRight } := by
  have hmax (a b : UInt16) : (if a > b then a else b) = max a b := by
    change _ = if a ≤ b then b else a
    grind
  rw [mixRumble, hmax, hmax]

section

variable {log : List StreamEvent} {number n : Nat} {event : StreamEvent}

theorem Felt.record {level : BodyRumble} {heard : Nat} (h : Felt log number level heard)
    (hevent : event.resets number = false)
    : Felt (log ++ [event]) number level heard := by
  have htake : (log ++ [event]).take heard = log.take heard := List.take_append_of_le_length h.past
  have hdrop : (log ++ [event]).drop heard = log.drop heard ++ [event] :=
    List.drop_append_of_le_length h.past
  constructor
  . simp only [List.length_append]
    have := h.past
    omega
  . rw [htake]
    exact h.announced
  . rw [hdrop]
    intro event' hmem
    cases List.mem_append.mp hmem with
    | inl hold => exact h.same event' hold
    | inr hnew => rw [List.mem_singleton.mp hnew, hevent]
  . rw [htake]
    exact h.strong
  . rw [htake]
    exact h.weak

theorem felt_mixRumble (hannounced : announcedOn number log = true)
    : Felt log number (mixRumble (mixSince number log)) log.length := by
  rw [mixRumble_eq]
  constructor
  all_goals simp [mixSince, hannounced]

theorem mixSince_of_resets (hevent : event.resets number = true)
    : mixSince number (log ++ [event]) = {} := by
  simp [mixSince, bodySince, triggersSince, rumbleSince, hevent]

theorem mixSince_of_silent (hevent : event.resets number = false)
    (hbody : event.bodyRumble number = none) (htriggers : event.triggerRumbles number = none)
    : mixSince number (log ++ [event]) = mixSince number log := by
  simp [mixSince, bodySince, triggersSince, rumbleSince, hevent, hbody, htriggers]

theorem mixSince_rumble (lowFreq highFreq : UInt16)
    : mixSince number (log ++ [.rumble n lowFreq highFreq]) =
      if n = number then withBodyRumble (mixSince number log) lowFreq highFreq
      else mixSince number log := by
  split <;>
  simp_all [mixSince, bodySince, triggersSince, rumbleSince, withBodyRumble, StreamEvent.resets,
    StreamEvent.bodyRumble, StreamEvent.triggerRumbles]

theorem mixSince_triggerRumble (left right : UInt16)
    : mixSince number (log ++ [.triggerRumble n left right]) =
      if n = number then withTriggerRumble (mixSince number log) left right
      else mixSince number log := by
  split <;>
  simp_all [mixSince, bodySince, triggersSince, rumbleSince, withTriggerRumble, StreamEvent.resets,
    StreamEvent.bodyRumble, StreamEvent.triggerRumbles]

end

namespace Stream

variable {s : Stream} {number : Nat}

structure Mixed (s : Stream) : Prop where
  mixes : ∀ number, announcedOn number s.log = true → s.rumbleMix number = mixSince number s.log
  queued : ∀ entry ∈ s.queued, Felt s.log entry.number entry.level entry.heard
  delivered : EachAfter (fun log event => ∀ number level heard,
    event = .delivered number level heard → Felt log number level heard) s.log

def Unused (s : Stream) : SessionCall → Prop
  | .sendControllerArrival number _ | .sendControllerReplug number _ =>
    s.rumbleMix number = {} ∧ ∀ entry ∈ s.queued, entry.number ≠ number
  | _ => True

instance (s : Stream) (call : SessionCall) : Decidable (s.Unused call) := by
  cases call <;> unfold Unused <;> infer_instance

theorem Mixed.record (h : s.Mixed) {event : StreamEvent}
    (hsilent : ∀ number, event.bodyRumble number = none ∧ event.triggerRumbles number = none)
    (hlevel : ∀ number level heard, event ≠ .delivered number level heard)
    (hunused : ∀ number, event = .announced number → s.rumbleMix number = {})
    (hqueued : ∀ entry ∈ s.queued, event.resets entry.number = false)
    : (s.record event).Mixed := by
  constructor
  . intro number hannounced
    cases announcedOn_of_concat hannounced with
    | inl hnew =>
      have hresets : event.resets number = true := by
        rw [hnew]
        simp [StreamEvent.resets]
      exact (hunused number hnew).trans (mixSince_of_resets hresets).symm
    | inr hold =>
      have hsame : mixSince number (s.log ++ [event]) = mixSince number s.log :=
        mixSince_of_silent hold.2 (hsilent number).1 (hsilent number).2
      exact (h.mixes number hold.1).trans hsame.symm
  . intro entry hentry
    exact (h.queued entry hentry).record (hqueued entry hentry)
  . apply h.delivered.concat
    intro number level heard heq
    exact absurd heq (hlevel number level heard)

theorem Mixed.announce (h : s.Mixed) (hmix : s.rumbleMix number = {})
    (hqueued : ∀ entry ∈ s.queued, entry.number ≠ number)
    : (s.announce number).Mixed := by
  unfold Stream.announce
  split
  all_goals
    apply h.record
    . intro n
      exact ⟨rfl, rfl⟩
    . intro n level heard
      simp
    . intro n heq
      cases heq
      try exact hmix
    . intro entry hentry
      have := hqueued entry hentry
      simp [StreamEvent.resets, Ne.symm this]

theorem Mixed.call (h : s.Mixed) (call : SessionCall) (hunused : s.Unused call)
    : (s.call call).Mixed := by
  cases call with
  | sendControllerState state => exact h
  | forgetControllerArrival n => exact h
  | sendControllerArrival n pad => exact h.announce hunused.1 hunused.2
  | sendControllerReplug n pad =>
    have hcleared : { s with gate := s.gate.clear n }.Mixed := ⟨h.mixes, h.queued, h.delivered⟩
    exact hcleared.announce hunused.1 hunused.2
  | launch => exact ⟨h.mixes, h.queued, h.delivered⟩
  | quit =>
    unfold Stream.call
    dsimp only
    split
    . exact h
    . exact ⟨h.mixes, h.queued, h.delivered⟩

theorem rumble_call (s : Stream) (call : SessionCall)
    : (s.call call).rumbleMix = s.rumbleMix ∧ (s.call call).queued = s.queued := by
  cases call with
  | quit =>
    unfold Stream.call
    dsimp only
    split <;> exact ⟨rfl, rfl⟩
  | _ => exact ⟨rfl, rfl⟩

theorem Unused.after_call {call call' : SessionCall} (h : s.Unused call)
    : (s.call call').Unused call := by
  cases call with
  | sendControllerArrival n pad | sendControllerReplug n pad =>
    unfold Unused at h ⊢
    rw [(s.rumble_call call').1, (s.rumble_call call').2]
    exact h
  | _ => trivial

theorem Mixed.announced_all (h : s.Mixed) (hqueued : s.queued = []) (arrivals : List Nat)
    (hmixes : ∀ number ∈ arrivals, s.rumbleMix number = {})
    : (arrivals.foldl (fun s number => s.record (.announced number)) s).Mixed := by
  induction arrivals generalizing s with
  | nil => exact h
  | cons number arrivals ih =>
    rw [List.foldl_cons]
    apply ih
    . apply h.record
      . intro n
        exact ⟨rfl, rfl⟩
      . intro n level heard
        simp
      . intro n heq
        cases heq
        exact hmixes number (by simp)
      . simp [hqueued]
    . exact hqueued
    . intro n hn
      exact hmixes n (List.mem_cons_of_mem _ hn)

theorem Mixed.sendPendingArrivals (h : s.Mixed) (hqueued : s.queued = []) (arrivals : List Nat)
    (hmixes : ∀ number ∈ arrivals, s.rumbleMix number = {})
    : (s.sendPendingArrivals arrivals).Mixed := by
  have hup : (s.record .up).Mixed := by
    apply h.record
    . intro n
      exact ⟨rfl, rfl⟩
    . intro n level heard
      simp
    . intro n heq
      cases heq
    . simp [hqueued]
  exact hup.announced_all hqueued arrivals hmixes

theorem Mixed.dispatch (h : s.Mixed) (arrivals : List Nat) (event : SessionEvent)
    (hunused : .SendArrival ∈ (reduceSession s.state event).effects →
      s.queued = [] ∧ ∀ number ∈ arrivals, s.rumbleMix number = {})
    : (s.dispatch arrivals event).Mixed := by
  have hmoved : { s with state := nextSession s.state event }.Mixed :=
    ⟨h.mixes, h.queued, h.delivered⟩
  unfold Stream.dispatch
  dsimp only
  split
  next hsend => exact hmoved.sendPendingArrivals (hunused hsend).1 arrivals (hunused hsend).2
  next => exact hmoved

theorem Mixed.onMotionRequest (h : s.Mixed) (type rateHz : Nat)
    : (s.onMotionRequest number type rateHz).Mixed := by
  have hgate : { s with gate := s.gate.onMotionRequest number type rateHz }.Mixed :=
    ⟨h.mixes, h.queued, h.delivered⟩
  apply hgate.record
  all_goals simp [StreamEvent.bodyRumble, StreamEvent.triggerRumbles, StreamEvent.resets]

theorem Mixed.sendControllerMotion (h : s.Mixed) (type : Nat) (nowUs : Int)
    : (s.sendControllerMotion number type nowUs).Mixed := by
  unfold Stream.sendControllerMotion
  split
  . exact h
  . have hgate : { s with gate := s.gate.marked number type nowUs }.Mixed :=
      ⟨h.mixes, h.queued, h.delivered⟩
    apply hgate.record
    all_goals simp [StreamEvent.bodyRumble, StreamEvent.triggerRumbles, StreamEvent.resets]

theorem Mixed.publishRumbleMix (h : s.Mixed) {event : StreamEvent} {mix : RumbleMix}
    (hannounced : announcedOn number (s.log ++ [event]) = true)
    (hlevel : ∀ number level heard, event ≠ .delivered number level heard)
    (hresets : ∀ n, event.resets n = false) (hnew : ∀ n, event ≠ .announced n)
    (hmix : ∀ n, mixSince n (s.log ++ [event]) = if number = n then mix else mixSince n s.log)
    : (s.publishRumbleMix number event mix).Mixed := by
  have hmine : mix = mixSince number (s.log ++ [event]) := by
    rw [hmix, if_pos rfl]
  constructor
  . intro n hn
    have hold : announcedOn n s.log = true := by
      cases announcedOn_of_concat hn with
      | inl heq => exact absurd heq (hnew n)
      | inr hold => exact hold.1
    change Function.update s.rumbleMix number mix n = mixSince n (s.log ++ [event])
    rw [hmix, Function.update_apply, h.mixes n hold]
    simp only [eq_comm]
  . intro entry hentry
    rw [Stream.publishRumbleMix, Stream.record, List.concat_eq_append] at hentry
    rcases List.mem_append.mp hentry with hold | hlast
    . exact (h.queued entry hold).record (hresets entry.number)
    . rw [List.mem_singleton.mp hlast]
      change Felt (s.log ++ [event]) number (mixRumble mix) (s.log.length + 1)
      have hlength : s.log.length + 1 = (s.log ++ [event]).length := by simp
      rw [hlength, hmine]
      exact felt_mixRumble hannounced
  . apply h.delivered.concat
    intro n level heard heq
    exact absurd heq (hlevel n level heard)

theorem Mixed.onRumble (h : s.Mixed) (hannounced : announcedOn number s.log = true)
    (lowFreq highFreq : UInt16)
    : (s.onRumble number lowFreq highFreq).Mixed := by
  apply h.publishRumbleMix
  . exact announcedOn_concat hannounced rfl
  . simp
  . intro n
    rfl
  . simp
  . intro n
    rw [mixSince_rumble, h.mixes number hannounced]
    split
    next heq => rw [heq]
    next => rfl

theorem Mixed.onRumbleTrigger (h : s.Mixed) (hannounced : announcedOn number s.log = true)
    (left right : UInt16)
    : (s.onRumbleTrigger number left right).Mixed := by
  apply h.publishRumbleMix
  . exact announcedOn_concat hannounced rfl
  . simp
  . intro n
    rfl
  . simp
  . intro n
    rw [mixSince_triggerRumble, h.mixes number hannounced]
    split
    next heq => rw [heq]
    next => rfl

theorem Mixed.dequeue (h : s.Mixed) {entry : QueuedLevel} {queued : List QueuedLevel}
    (hqueued : s.queued = entry :: queued)
    : { s with queued }.Mixed := by
  refine ⟨h.mixes, ?_, h.delivered⟩
  intro entry' hentry'
  apply h.queued
  rw [hqueued]
  exact List.mem_cons_of_mem _ hentry'

theorem Mixed.deliver (h : s.Mixed) {entry : QueuedLevel}
    (hfelt : Felt s.log entry.number entry.level entry.heard)
    : (s.record (.delivered entry.number entry.level entry.heard)).Mixed := by
  constructor
  . intro n hannounced
    cases announcedOn_of_concat hannounced with
    | inl heq => cases heq
    | inr hold => exact (h.mixes n hold.1).trans (mixSince_of_silent hold.2 rfl rfl).symm
  . intro entry' hentry'
    exact (h.queued entry' hentry').record rfl
  . apply h.delivered.concat
    intro n level heard heq
    cases heq
    exact hfelt

end Stream

namespace Streams

variable {σ σ' : Streams}

/-- A number is handed on, and a stream comes up, with nothing left of the pads before. -/
def HandedOnClean (σ : Streams) : Act → Prop
  | .manage a => ∀ c ∈ newCalls σ.manager a, (σ.streams c.1).Unused c.2
  | .signal session event =>
    .SendArrival ∈ (reduceSession (σ.streams session).state event).effects →
      (σ.streams session).queued = [] ∧
        ∀ number ∈ σ.arrivals session, (σ.streams session).rumbleMix number = {}
  | .rumble session number _ _ | .triggerRumble session number _ _ =>
    announcedOn number (σ.streams session).log = true
  | .motionRequest _ _ _ _ | .forwardMotion _ _ _ | .deliver _ => True

instance (σ : Streams) (a : Act) : Decidable (σ.HandedOnClean a) := by
  cases a <;> unfold HandedOnClean <;> infer_instance

theorem mixed_calls (h : ∀ session, (σ.streams session).Mixed) (calls : List (Nat × SessionCall))
    (hunused : ∀ c ∈ calls, (σ.streams c.1).Unused c.2)
    : ∀ session, ((calls.foldl (fun σ c => σ.update c.1 fun s => s.call c.2) σ).streams
        session).Mixed := by
  induction calls generalizing σ with
  | nil => exact h
  | cons c calls ih =>
    rw [List.foldl_cons]
    apply ih
    . exact forall_update h ((h c.1).call c.2 (hunused c (by simp)))
    . intro c' hc'
      have hold := hunused c' (List.mem_cons_of_mem _ hc')
      by_cases heq : c'.1 = c.1
      . rw [heq] at hold ⊢
        simpa [update] using hold.after_call
      . simpa [update, heq] using hold

theorem mixed_step {a : Act} (h : ∀ session, (σ.streams session).Mixed) (ha : σ.HandedOnClean a)
    (hstep : σ.step a = some σ')
    : ∀ session, (σ'.streams session).Mixed := by
  cases a with
  | manage a =>
    cases hstep
    exact mixed_calls (σ := { σ with manager := σ.manager.step a }) h _ ha
  | signal session event =>
    cases hstep
    exact forall_update h ((h session).dispatch _ event ha)
  | motionRequest session number type rateHz =>
    cases hstep
    exact forall_update h ((h session).onMotionRequest type rateHz)
  | forwardMotion slotId gyroUs accelUs =>
    obtain ⟨_, hstep⟩ := Option.ite_none_right_eq_some.mp hstep
    cases hstep
    unfold forwardMotion
    split
    . exact h
    . split
      . exact h
      . split
        . exact h
        . apply forall_update (σ := { σ with nowUs := accelUs }) h
          exact ((h _).sendControllerMotion _ _).sendControllerMotion _ _
  | rumble session number lowFreq highFreq =>
    cases hstep
    exact forall_update h ((h session).onRumble ha lowFreq highFreq)
  | triggerRumble session number left right =>
    cases hstep
    exact forall_update h ((h session).onRumbleTrigger ha left right)
  | deliver hostId =>
    obtain ⟨session, _, hstep⟩ := Option.bind_eq_some_iff.mp hstep
    split at hstep
    . contradiction
    next entry queued hqueued =>
      have hfelt : Felt (σ.streams session).log entry.number entry.level entry.heard := by
        apply (h session).queued
        rw [hqueued]
        exact List.mem_cons_self
      have hdequeued (session' : Nat) :
          ((σ.update session fun s => { s with queued }).streams session').Mixed := by
        apply forall_update h
        exact (h session).dequeue hqueued
      dsimp only at hstep
      split at hstep
      . cases hstep
        apply forall_update hdequeued
        apply (hdequeued session).deliver
        simpa [update] using hfelt
      . cases hstep
        exact hdequeued

theorem mixed_initial (session : Nat) : (({} : Streams).streams session).Mixed := by
  refine ⟨?_, ?_, eachAfter_nil _⟩
  . intro number hannounced
    simp [announcedOn] at hannounced
  . simp

theorem felt_of_handed_on_clean (acts : List Act) (hclean : Along step HandedOnClean {} acts)
    (hrun : run {} acts = some σ) (session : Nat) {before after : List StreamEvent} {number heard : Nat}
    {level : BodyRumble}
    (hlog : (σ.streams session).log = before ++ .delivered number level heard :: after)
    : Felt before number level heard := by
  have hmixed : ∀ session, (σ.streams session).Mixed := by
    apply invariant_of_along (I := fun σ => ∀ session, (σ.streams session).Mixed)
      _ mixed_initial hclean hrun
    intro σ a σ' h ha hstep
    exact mixed_step h ha hstep
  exact (hmixed session).delivered before _ after hlog number level heard rfl

theorem felt_in_den
    : ∃ σ before, run {} (denIsUp ++ [.rumble 0 0 100 50, .triggerRumble 0 0 200 0, .deliver "den",
          .deliver "den"]) = some σ ∧
        (σ.streams 0).log = before ++ [.delivered 0 { strong := 200, weak := 50 } 7] ∧
        Felt before 0 { strong := 200, weak := 50 } 7 := by
  have hany : (run {} (denIsUp ++ [.rumble 0 0 100 50, .triggerRumble 0 0 200 0, .deliver "den",
      .deliver "den"])).any (fun σ => (σ.streams 0).log = (σ.streams 0).log.take 8 ++
        [.delivered 0 { strong := 200, weak := 50 } 7]) = true := by
    decide +kernel
  obtain ⟨σ, hrun, hlog⟩ := exists_run_of_any hany
  have hlog := of_decide_eq_true hlog
  exact ⟨σ, _, hrun, hlog, felt_of_handed_on_clean _ (by decide +kernel) hrun 0 hlog⟩

theorem felt_of_former_pad
    : ∃ acts σ before level, run {} acts = some σ ∧
        (σ.streams 0).log = before ++ [.delivered 0 level before.length] ∧
        announcedOn 0 before = true ∧
        level.strong ≠ max (bodySince 0 before).1 (triggersSince 0 before).1 := by
  have hany : (run {} (denIsUp ++ [.rumble 0 0 100 50, .deliver "den", .manage (.unbindSlot "a"),
      bindPad "c", .triggerRumble 0 0 0 0, .deliver "den"])).any (fun σ =>
        (σ.streams 0).log = (σ.streams 0).log.take 9 ++
          [.delivered 0 { strong := 100, weak := 50 } ((σ.streams 0).log.take 9).length] ∧
        announcedOn 0 ((σ.streams 0).log.take 9) = true ∧
        (100 : UInt16) ≠ max (bodySince 0 ((σ.streams 0).log.take 9)).1
          (triggersSince 0 ((σ.streams 0).log.take 9)).1) = true := by
    decide +kernel
  obtain ⟨σ, hrun, hσ⟩ := exists_run_of_any hany
  exact ⟨_, σ, _, _, hrun, of_decide_eq_true hσ⟩

end Streams

end Moonlight
