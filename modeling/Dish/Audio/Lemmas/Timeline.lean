import Mathlib.Data.List.Induction
import Dish.Audio.Lemmas.Settled
import Dish.Lib.Transition

/-!
This module contains what the decoder sees of the reorder window over a whole stream.
-/

open Transition

namespace Audio

variable {after before events : List Event} {delta : Nat} {e : Event} {offer : Slot} {start :
  UInt16}

open AudioJitterWindow Wrapping

namespace AudioJitterWindow

def Event.seq : Event → UInt16
  | .packet seq _ => seq
  | .gap seq _ => seq

def Event.isGap : Event → Bool
  | .packet _ _ => false
  | .gap _ _ => true

def Event.packet? : Event → Option Slot
  | .packet seq data => some ⟨seq, data⟩
  | .gap _ _ => none

def packets (events : List Event) : List Slot :=
  events.filterMap Event.packet?

theorem packets_append (events more : List Event)
    : packets (events ++ more) = packets events ++ packets more := by
  unfold packets
  rw [List.filterMap_append]

def gapsAtEnd (events : List Event) : Nat :=
  (events.reverse.takeWhile Event.isGap).length

def pushAll (w : AudioJitterWindow) : List Slot → List Result × AudioJitterWindow
  | [] => ([], w)
  | offer :: offers =>
    let (result, w) := w.push offer.seq offer.bytes
    let (results, w) := w.pushAll offers
    (result :: results, w)

def taken : List Slot → List Result → List Slot
  | offer :: offers, result :: results =>
    if result.accept = .ok then offer :: taken offers results else taken offers results
  | _, _ => []

end AudioJitterWindow

structure Clock where
  next : UInt16
  gaps : Nat := 0
  owed : Option (List UInt8) := none

namespace Clock

variable {c c' : Clock}

def tick (c : Clock) : Event → Option Clock
  | .packet seq data =>
    if (c.owed = none ∨ c.owed = some data ∧ seq = c.next) ∧
        (seq = c.next ∨ c.gaps = 2 ∧ 0 < ahead seq c.next ∧ ahead seq c.next < 32767) then
      some { next := seq + 1 }
    else
      none
  | .gap seq carrier =>
    if c.owed = none ∧ seq = c.next ∧ c.gaps < 2 then
      some { next := seq + 1, gaps := c.gaps + 1, owed := carrier }
    else
      none

theorem tick_next (h : c.tick e = some c') : c'.next = e.seq + 1 := by
  cases e <;> grind [tick, Event.seq]

theorem tick_seq (h : c.tick e = some c')
    : e.seq = c.next ∨ c.gaps = 2 ∧ 0 < ahead e.seq c.next ∧ ahead e.seq c.next < 32767 := by
  cases e <;> grind [tick, Event.seq]

theorem tick_owed {data : List UInt8} (h : c.tick e = some c') (howed : c.owed = some data)
    : e = .packet c.next data := by
  cases e <;> grind [tick]

theorem tick_gaps (h : c.tick e = some c')
    : c'.gaps = if e.isGap then c.gaps + 1 else 0 := by
  cases e <;> grind [tick, Event.isGap]

theorem tick_gaps_le (h : c.tick e = some c') : c'.gaps ≤ 2 := by
  cases e <;> grind [tick]

theorem gaps_eq_of_run (h : Transition.run tick { next := start } events = some c)
    : c.gaps = gapsAtEnd events ∧ c.gaps ≤ 2 := by
  induction events using List.reverseRecOn generalizing c with
  | nil =>
    cases h
    exact ⟨rfl, by simp⟩
  | append_singleton events e ih =>
    rw [run_append] at h
    obtain ⟨c₁, hrun, htick⟩ := Option.bind_eq_some_iff.mp h
    obtain ⟨c₂, htick, hdone⟩ := run_cons_eq_some.mp htick
    cases hdone
    refine ⟨?_, tick_gaps_le htick⟩
    rw [tick_gaps htick, (ih hrun).1]
    cases e <;> simp [gapsAtEnd, Event.isGap, List.takeWhile_cons]

theorem gapsAtEnd_le_of_run
    (h : Transition.run tick { next := start } events = some c) (hevents : events = before ++ after)
    : gapsAtEnd before ≤ 2 := by
  rw [hevents, run_append] at h
  obtain ⟨c₁, hrun, -⟩ := Option.bind_eq_some_iff.mp h
  obtain ⟨hended, hle⟩ := gaps_eq_of_run hrun
  rwa [hended] at hle

theorem adjacent_of_run {e' : Event} (h : Transition.run tick { next := start } events = some c)
    (hevents : events = before ++ e :: e' :: after)
    : 0 < ahead e'.seq e.seq ∧ (e'.seq = e.seq + 1 ∨ gapsAtEnd (before ++ [e]) = 2) := by
  have hsplit : events = (before ++ [e]) ++ e' :: after := by simp [hevents]
  rw [hsplit, run_append] at h
  obtain ⟨c₁, hrun, h⟩ := Option.bind_eq_some_iff.mp h
  obtain ⟨c₂, htick', -⟩ := run_cons_eq_some.mp h
  have hended := (gaps_eq_of_run hrun).1
  rw [run_append] at hrun
  obtain ⟨c₀, -, htick⟩ := Option.bind_eq_some_iff.mp hrun
  obtain ⟨c₁', htick, hdone⟩ := run_cons_eq_some.mp htick
  cases hdone
  have hnext := Clock.tick_next htick
  rcases tick_seq htick' with hseq | ⟨hgaps, hpos, hfar⟩
  . rw [hseq, hnext, ahead_succ_self]
    exact ⟨by decide, Or.inl rfl⟩
  . rw [hnext] at hpos hfar
    refine ⟨pos_of_ahead_succ hpos hfar, Or.inr ?_⟩
    rw [← hended, hgaps]

theorem carrier_of_run {seq : UInt16} {carrier : List UInt8} (howed : c.owed = none)
    (h : Transition.run tick { next := start } events = some c)
    (hevents : events = before ++ .gap seq (some carrier) :: after)
    : ∃ after', after = .packet (seq + 1) carrier :: after' := by
  rw [hevents, run_append] at h
  obtain ⟨c₁, -, h⟩ := Option.bind_eq_some_iff.mp h
  obtain ⟨c₂, htick, h⟩ := run_cons_eq_some.mp h
  have hc₂ : c₂.next = seq + 1 ∧ c₂.owed = some carrier := by
    grind [tick]
  cases after with
  | nil =>
    cases h
    rw [howed] at hc₂
    cases hc₂.2
  | cons e after =>
    obtain ⟨c₃, htick', -⟩ := run_cons_eq_some.mp h
    rw [tick_owed htick' hc₂.2, hc₂.1]
    exact ⟨after, rfl⟩

end Clock

namespace Settled

variable {seq n : UInt16} {data bytes : List UInt8}

def held : Settled → List Slot
  | clear _ => []
  | holding next bytes _ => [⟨next + 1, bytes⟩]

def clock : Settled → Clock
  | clear next => { next }
  | holding next _ gaps => { next, gaps }

theorem run_catchUp (hdelta : ahead seq n = delta)
    : Transition.run Clock.tick { next := n } (catchUp n seq data delta).1 =
        some (catchUp n seq data delta).2.clock := by
  match delta with
  | 0 =>
    obtain rfl := ahead_eq_zero.mp hdelta
    simp [catchUp, run_cons, Clock.tick, clock]
  | 1 => rfl
  | 2 => simp [catchUp, run_cons, Clock.tick, clock]
  | 3 => simp [catchUp, run_cons, Clock.tick, clock]
  | delta + 4 =>
    have hrange := ahead_range seq n
    have htwo := ahead_pred (ahead_pred hdelta)
    have hjump : 0 < ahead seq (n + 1 + 1) ∧ ahead seq (n + 1 + 1) < 32767 := by omega
    simp [catchUp, run_cons, Clock.tick, clock, hjump]

theorem run_lead (gaps : Fin 3)
    : Transition.run Clock.tick (holding n bytes gaps).clock (lead n bytes gaps) =
        some { next := n + 1 + 1 } := by
  unfold lead
  split
  . next hgaps =>
    have hopen : gaps.val < 2 := hgaps
    simp [run_cons, Clock.tick, clock, hopen]
  . next hgaps =>
    have hspent : gaps.val = 2 := by omega
    simp [run_cons, Clock.tick, clock, hspent, ahead_succ_self]

theorem packets_catchUp (hdelta : ahead seq n = delta)
    : packets (catchUp n seq data delta).1 ++ (catchUp n seq data delta).2.held =
        [⟨seq, data⟩] := by
  match delta with
  | 0 => rfl
  | 1 =>
    rw [eq_succ_of_ahead hdelta]
    rfl
  | 2 =>
    rw [eq_succ_of_ahead (ahead_pred hdelta)]
    rfl
  | 3 =>
    rw [eq_succ_of_ahead (ahead_pred (ahead_pred hdelta))]
    rfl
  | delta + 4 => rfl

theorem packets_lead (gaps : Fin 3) : packets (lead n bytes gaps) = [⟨n + 1, bytes⟩] := by
  unfold lead
  split <;> rfl

theorem packets_far {gaps : Fin 3} (hdelta : ahead seq n = (delta + 2 : Nat))
    : packets (lead n bytes gaps ++ (catchUp (n + 1 + 1) seq data delta).1) ++
        (catchUp (n + 1 + 1) seq data delta).2.held = [⟨n + 1, bytes⟩, ⟨seq, data⟩] := by
  rw [packets_append, packets_lead, List.append_assoc,
    packets_catchUp (ahead_pred (ahead_pred hdelta))]
  rfl

structure Plays (s : Settled) (offer : Slot) (result : Result) (s' : Settled) : Prop where
  timed : Transition.run Clock.tick s.clock result.events = some s'.clock
  kept : (packets result.events ++ s'.held).Perm
    (s.held ++ if result.accept = .ok then [offer] else [])

theorem Row.plays {s s' : Settled} {result : Result} (h : s.Row offer result s')
    : Plays s offer result s' := by
  cases h with
  | late hlate => exact ⟨rfl, by simp [packets]⟩
  | clear hdelta =>
    refine ⟨run_catchUp hdelta, ?_⟩
    rw [packets_catchUp hdelta]
    exact .refl _
  | @due n bytes data gaps =>
    refine ⟨by simp [run_cons, Clock.tick, clock], ?_⟩
    exact List.Perm.swap _ _ []
  | held => exact ⟨rfl, by simp [packets]⟩
  | @far n seq bytes data gaps delta hdelta =>
    have hnext := ahead_pred (ahead_pred hdelta)
    refine ⟨?_, ?_⟩
    . rw [run_append_of_run (run_lead gaps), run_catchUp hnext]
    . rw [packets_far hdelta]
      exact .refl _

end Settled

namespace AudioJitterWindow

theorem push_unfit (w : AudioJitterWindow) (hdata : ¬ Fits offer.bytes)
    : w.push offer.seq offer.bytes = ({ accept := .rejected }, w) := by
  have hrefused : offer.bytes.length = 0 ∨ audioJitterMaxPacketBytes < offer.bytes.length := by
    unfold Fits at hdata
    omega
  unfold push
  rw [if_pos hrefused]

theorem push_plays (s : Settled) (offer : Slot)
    : ∃ result s', s.window.push offer.seq offer.bytes = (result, s'.window) ∧
        s.Plays offer result s' := by
  by_cases hdata : Fits offer.bytes
  . obtain ⟨result, s', hrow⟩ := s.exists_row offer
    exact ⟨result, s', push_of_row hdata hrow, hrow.plays⟩
  . exact ⟨_, s, push_unfit s.window hdata, rfl, by simp [packets]⟩

theorem pushAll_cons {w w' : AudioJitterWindow} {result : Result}
    (hpush : w.push offer.seq offer.bytes = (result, w')) (offers : List Slot)
    : w.pushAll (offer :: offers) = (result :: (w'.pushAll offers).1, (w'.pushAll offers).2) := by
  simp [pushAll, hpush]

theorem pushAll_settled (s : Settled) (offers : List Slot)
    : ∃ s' : Settled, (s.window.pushAll offers).2 = s'.window ∧
        Transition.run Clock.tick s.clock ((s.window.pushAll offers).1.flatMap (·.events)) =
          some s'.clock ∧
        (packets ((s.window.pushAll offers).1.flatMap (·.events)) ++ s'.held).Perm
          (s.held ++ taken offers (s.window.pushAll offers).1) := by
  induction offers generalizing s with
  | nil => exact ⟨s, rfl, rfl, by simp [packets, pushAll, taken]⟩
  | cons offer offers ih =>
    obtain ⟨result, s₁, hpush, hplays⟩ := push_plays s offer
    obtain ⟨s', hwindow, htimed, hkept⟩ := ih s₁
    rw [pushAll_cons hpush]
    refine ⟨s', hwindow, ?_, ?_⟩
    . rw [List.flatMap_cons, run_append_of_run hplays.timed, htimed]
    . have htaken : taken (offer :: offers) (result :: (s₁.window.pushAll offers).1) =
          (if result.accept = .ok then [offer] else []) ++
            taken offers (s₁.window.pushAll offers).1 := by
        simp only [taken]
        split <;> rfl
      rw [htaken, List.flatMap_cons, packets_append, List.append_assoc, ← List.append_assoc s.held]
      refine (hkept.append_left _).trans ?_
      rw [← List.append_assoc]
      exact hplays.kept.append_right _

theorem push_fresh (hdata : Fits offer.bytes)
    : push {} offer.seq offer.bytes =
        (Settled.clear offer.seq).window.push offer.seq offer.bytes := by
  have hprime : prime {} offer.seq = (Settled.clear offer.seq).window := rfl
  have hprimed (n : UInt16) : (Settled.clear n).window.prime n = (Settled.clear n).window := rfl
  unfold push
  rw [if_neg hdata.accepted, if_neg hdata.accepted, hprime, hprimed]

theorem pushAll_fresh (offers : List Slot)
    : (∃ results, pushAll {} offers = (results, {}) ∧ results.flatMap (·.events) = [] ∧
        taken offers results = []) ∨
        ∃ start, pushAll {} offers = (Settled.clear start).window.pushAll offers := by
  induction offers with
  | nil => exact Or.inl ⟨[], rfl, rfl, rfl⟩
  | cons offer offers ih =>
    by_cases hdata : Fits offer.bytes
    . refine Or.inr ⟨offer.seq, ?_⟩
      rw [pushAll_cons (push_fresh hdata), pushAll_cons rfl]
    . rw [pushAll_cons (push_unfit {} hdata)]
      rcases ih with ⟨results, hpushes, hevents, htaken⟩ | ⟨start, hpushes⟩
      . rw [hpushes]
        exact Or.inl ⟨_, rfl, hevents, htaken⟩
      . refine Or.inr ⟨start, ?_⟩
        rw [pushAll_cons (push_unfit _ hdata), hpushes]

theorem held_eq_slots (s : Settled) : s.window.slots = s.held := by
  cases s <;> rfl

theorem pushAll_played (offers : List Slot)
    : ∃ start c, Transition.run Clock.tick { next := start }
          ((pushAll {} offers).1.flatMap (·.events)) = some c ∧ c.owed = none ∧
        (packets ((pushAll {} offers).1.flatMap (·.events)) ++ (pushAll {} offers).2.slots).Perm
          (taken offers (pushAll {} offers).1) := by
  rcases pushAll_fresh offers with ⟨results, hpushes, hevents, htaken⟩ | ⟨start, hpushes⟩
  . rw [hpushes]
    dsimp only
    rw [hevents, htaken]
    exact ⟨0, _, rfl, rfl, .refl _⟩
  . obtain ⟨s', hwindow, htimed, hkept⟩ := pushAll_settled (.clear start) offers
    rw [hpushes, hwindow, held_eq_slots]
    refine ⟨start, s'.clock, htimed, ?_, hkept⟩
    cases s' <;> rfl

theorem pushAll_reset (w : AudioJitterWindow) (offers : List Slot)
    : let (results, w') := w.reset.pushAll offers
      let events := results.flatMap (·.events)
      (∀ before e e' after, events = before ++ e :: e' :: after →
        0 < ahead e'.seq e.seq ∧ (e'.seq = e.seq + 1 ∨ gapsAtEnd (before ++ [e]) = 2)) ∧
      (∀ before after, events = before ++ after → gapsAtEnd before ≤ 2) ∧
      (packets events ++ w'.slots).Perm (taken offers results) ∧
      (∀ before seq carrier after, events = before ++ .gap seq (some carrier) :: after →
        ∃ after', after = .packet (seq + 1) carrier :: after') := by
  obtain ⟨start, c, hrun, howed, hkept⟩ := pushAll_played offers
  refine ⟨?_, ?_, hkept, ?_⟩
  . intro before e e' after hevents
    exact Clock.adjacent_of_run hrun hevents
  . intro before after hevents
    exact Clock.gapsAtEnd_le_of_run hrun hevents
  . intro before seq carrier after hevents
    exact Clock.carrier_of_run howed hrun hevents

end AudioJitterWindow

end Audio
