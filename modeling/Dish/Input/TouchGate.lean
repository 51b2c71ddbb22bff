import Mathlib.Algebra.Group.Nat.Defs
import Dish.Lib.Transition
import Dish.Input.Pad

/-!
This module contains the gate in front of a touchpad that rides every report.
-/

open Transition

namespace Input

inductive TouchpadSend where
  | Skip
  | Fresh
  | Heal
  deriving DecidableEq

structure TouchpadVerdict where
  send : TouchpadSend := .Skip
  eventTimeMs : Nat := 0

def kTouchpadMoveIntervalNs : Nat := 8000000

def kTouchpadHealResends : Nat := 2

def isTouchpadEdge (last next : TouchpadSample) : Bool :=
  next.finger0.active ≠ last.finger0.active || next.finger1.active ≠ last.finger1.active ||
    next.buttonPressed ≠ last.buttonPressed || next.finger0.id ≠ last.finger0.id ||
    next.finger1.id ≠ last.finger1.id

structure TouchGate where
  last : TouchpadSample := {}
  lastSentNs : Nat := 0
  eventTimeMs : Nat := 0
  healsLeft : Nat := 0

namespace TouchGate

def change (g : TouchGate) (sample : TouchpadSample) (nowNs : Nat) : TouchpadVerdict × TouchGate :=
  if !isTouchpadEdge g.last sample ∧ nowNs < g.lastSentNs + kTouchpadMoveIntervalNs then
    ({}, g)
  else
    let eventTimeMs := nowNs / 1000000 % 2 ^ 32
    (⟨.Fresh, eventTimeMs⟩, ⟨sample, nowNs, eventTimeMs, kTouchpadHealResends⟩)

def heal (g : TouchGate) (nowNs : Nat) : TouchpadVerdict × TouchGate :=
  if g.healsLeft = 0 ∨ nowNs < g.lastSentNs + kTouchpadMoveIntervalNs then
    ({}, g)
  else
    (⟨.Heal, g.eventTimeMs⟩, { g with lastSentNs := nowNs, healsLeft := g.healsLeft - 1 })

def decide (g : TouchGate) (sample : TouchpadSample) (nowNs : Nat) : TouchpadVerdict × TouchGate :=
  if sample = g.last then g.heal nowNs else g.change sample nowNs

end TouchGate

structure SentTouch where
  fresh : Bool
  sample : TouchpadSample
  eventTimeMs : Nat
  nowNs : Nat

/-- The frames that were sent, the last one first. -/
structure GatedTouch where
  gate : TouchGate := {}
  clock : Nat := 0
  sent : List SentTouch := []

namespace GatedTouch

def publishTouchpad (p : GatedTouch) (sample : TouchpadSample) (nowNs : Nat) : GatedTouch :=
  let out := p.gate.decide sample nowNs
  { gate := out.2
    clock := nowNs
    sent :=
      if out.1.send = .Skip then p.sent
      else ⟨out.1.send = .Fresh, sample, out.1.eventTimeMs, nowNs⟩ :: p.sent }

def step (p : GatedTouch) (s : TouchpadSample × Nat) : Option GatedTouch :=
  if s.2 < p.clock then none else some (p.publishTouchpad s.1 s.2)

def run : GatedTouch → List (TouchpadSample × Nat) → Option GatedTouch :=
  Transition.run step

def lastFrame (sent : List SentTouch) : TouchpadSample :=
  (sent.head?.map (·.sample)).getD {}

def lastTime (sent : List SentTouch) : Nat :=
  (sent.head?.map (·.nowNs)).getD 0

def lastFresh (sent : List SentTouch) : Option SentTouch :=
  sent.find? (·.fresh)

def heals (sent : List SentTouch) : Nat :=
  (sent.takeWhile (!·.fresh)).length

structure Repeats (s : SentTouch) (before : List SentTouch) : Prop where
  frame : ∃ f, lastFresh before = some f ∧ s.sample = f.sample ∧ s.eventTimeMs = f.eventTimeMs
  later : lastTime before + kTouchpadMoveIntervalNs ≤ s.nowNs
  twice : heals before < kTouchpadHealResends

def Lawful : List SentTouch → Prop
  | [] => True
  | s :: before =>
    (s.fresh = true → ∀ f ∈ lastFresh before, f.eventTimeMs ≠ s.eventTimeMs) ∧
      (s.fresh = false → Repeats s before) ∧ Lawful before

/--
An edge is not in the millisecond of the last fresh frame, which is less than 2 ^ 32 of them ago.
-/
def Spaced (p : GatedTouch) (s : TouchpadSample × Nat) : Prop :=
  ∀ f ∈ lastFresh p.sent, s.2 / 1000000 < f.nowNs / 1000000 + 2 ^ 32 ∧
    (isTouchpadEdge (lastFrame p.sent) s.1 = true → s.2 / 1000000 ≠ f.nowNs / 1000000)

instance (p : GatedTouch) (s : TouchpadSample × Nat) : Decidable (p.Spaced s) :=
  inferInstanceAs (Decidable (∀ f ∈ lastFresh p.sent, _))

structure Follows (p : GatedTouch) : Prop where
  last : p.gate.last = lastFrame p.sent
  time : p.gate.lastSentNs = lastTime p.sent
  clock : p.gate.lastSentNs ≤ p.clock
  none : lastFresh p.sent = none → p.gate.healsLeft = 0
  fresh : ∀ f ∈ lastFresh p.sent, p.gate.healsLeft + heals p.sent = kTouchpadHealResends ∧
    p.gate.last = f.sample ∧ p.gate.eventTimeMs = f.eventTimeMs ∧
    f.eventTimeMs = f.nowNs / 1000000 % 2 ^ 32 ∧ f.nowNs ≤ p.gate.lastSentNs
  lawful : Lawful p.sent

variable {p p' : GatedTouch} {s : TouchpadSample × Nat}

theorem Follows.skip (h : p.Follows) {nowNs : Nat} (hclock : p.clock ≤ nowNs)
    : Follows { p with clock := nowNs } :=
  ⟨h.last, h.time, h.clock.trans hclock, h.none, h.fresh, h.lawful⟩

theorem Follows.change (h : p.Follows) {sample : TouchpadSample} {nowNs : Nat}
    (hclock : p.clock ≤ nowNs) (hP : p.Spaced (sample, nowNs))
    (hsend : isTouchpadEdge p.gate.last sample = true ∨
      p.gate.lastSentNs + kTouchpadMoveIntervalNs ≤ nowNs)
    : Follows
        { gate := ⟨sample, nowNs, nowNs / 1000000 % 2 ^ 32, kTouchpadHealResends⟩
          clock := nowNs
          sent := ⟨true, sample, nowNs / 1000000 % 2 ^ 32, nowNs⟩ :: p.sent } := by
  refine ⟨rfl, rfl, le_rfl, by simp [lastFresh], ?_, ⟨?_, by simp, h.lawful⟩⟩
  . rintro f ⟨⟩
    exact ⟨rfl, rfl, rfl, rfl, le_rfl⟩
  . intro _ f hf
    obtain ⟨_, _, _, htime, hsent⟩ := h.fresh f hf
    obtain ⟨hnear, hedge⟩ := hP f hf
    have hclock := h.clock
    rw [htime]
    dsimp only at hnear hedge ⊢
    rw [← h.last] at hedge
    -- the millisecond is another one, and they are too close for the counter to wrap
    have hne : nowNs / 1000000 ≠ f.nowNs / 1000000 := by
      unfold kTouchpadMoveIntervalNs at hsend
      rcases hsend with hsend | hsend
      . exact hedge hsend
      . omega
    omega

theorem Follows.heal (h : p.Follows) {nowNs : Nat} (hleft : p.gate.healsLeft ≠ 0)
    (hlater : p.gate.lastSentNs + kTouchpadMoveIntervalNs ≤ nowNs)
    : Follows
        { gate := { p.gate with lastSentNs := nowNs, healsLeft := p.gate.healsLeft - 1 }
          clock := nowNs
          sent := ⟨false, p.gate.last, p.gate.eventTimeMs, nowNs⟩ :: p.sent } := by
  cases hfresh : lastFresh p.sent with
  | none => exact absurd (h.none hfresh) hleft
  | some f =>
    obtain ⟨hheals, hsample, hevent, htime, hsent⟩ := h.fresh f hfresh
    have hnext : lastFresh (⟨false, p.gate.last, p.gate.eventTimeMs, nowNs⟩ :: p.sent) = some f :=
      hfresh
    refine ⟨rfl, rfl, le_rfl, by simp [hnext], ?_, ⟨by simp, fun _ => ?_, h.lawful⟩⟩
    . intro f' hf'
      obtain rfl : f = f' := Option.some.inj (hnext.symm.trans hf')
      refine ⟨?_, hsample, hevent, htime, by dsimp only; omega⟩
      simp only [heals, List.takeWhile_cons, Bool.not_false, if_true, List.length_cons] at hheals ⊢
      omega
    . refine ⟨⟨f, hfresh, hsample, hevent⟩, h.time ▸ hlater, ?_⟩
      omega

theorem Follows.step (h : p.Follows) (hP : p.Spaced s) (hstep : p.step s = some p') : p'.Follows := by
  unfold GatedTouch.step at hstep
  split at hstep
  next => contradiction
  next hclock =>
    obtain rfl := Option.some.inj hstep
    have hclock := Nat.le_of_not_lt hclock
    unfold publishTouchpad TouchGate.decide
    by_cases heq : s.1 = p.gate.last
    . rw [if_pos heq, TouchGate.heal]
      split
      next => exact h.skip hclock
      next hheal =>
        rw [heq]
        exact h.heal (by omega) (by omega)
    . rw [if_neg heq, TouchGate.change]
      split
      next => exact h.skip hclock
      next hsend =>
        apply h.change hclock hP
        rw [Bool.not_eq_true', not_and_or, Bool.not_eq_false] at hsend
        exact hsend.imp_right Nat.le_of_not_lt

theorem touchpad_law {samples : List (TouchpadSample × Nat)}
    (hP : Along GatedTouch.step Spaced {} samples) (hrun : run {} samples = some p)
    (sample : TouchpadSample) (nowNs : Nat)
    : Lawful p.sent ∧
        (isTouchpadEdge (lastFrame p.sent) sample = true →
          (p.gate.decide sample nowNs).1.send = .Fresh) ∧
        (isTouchpadEdge (lastFrame p.sent) sample = false → sample ≠ lastFrame p.sent →
          ((p.gate.decide sample nowNs).1.send = .Fresh ↔
            lastTime p.sent + kTouchpadMoveIntervalNs ≤ nowNs)) := by
  have h : p.Follows := by
    apply invariant_of_along (I := Follows) _ _ hP hrun
    . intro p s p' h hP hstep
      exact h.step hP hstep
    . exact ⟨rfl, rfl, le_rfl, fun _ => rfl, by simp [lastFresh], trivial⟩
  rw [← h.last, ← h.time]
  refine ⟨h.lawful, ?_, ?_⟩
  . intro hedge
    have hne : sample ≠ p.gate.last := by
      rintro rfl
      simp [isTouchpadEdge] at hedge
    simp [TouchGate.decide, TouchGate.change, hne, hedge]
  . intro hedge hne
    unfold TouchGate.decide TouchGate.change
    rw [if_neg hne]
    split
    . simp_all
    . simp_all

def touched (x : Int16) : TouchpadSample :=
  { finger0 := { active := true, x } }

theorem touchpad_law_slide
    : ∃ p, run {} [(touched 0, 1000000), (touched 5, 10000000), (touched 5, 20000000)] = some p ∧
        Lawful p.sent := by
  have hP : Along GatedTouch.step Spaced {}
      [(touched 0, 1000000), (touched 5, 10000000), (touched 5, 20000000)] := by decide
  exact ⟨_, rfl, (touchpad_law hP rfl {} 0).1⟩

theorem touchpad_tap_repeated
    : ∃ p, run {} [(touched 0, 1000000), ({}, 1500000)] = some p ∧ ¬Lawful p.sent := by
  exact ⟨_, rfl, fun h => h.1 rfl _ rfl rfl⟩

end GatedTouch

end Input
