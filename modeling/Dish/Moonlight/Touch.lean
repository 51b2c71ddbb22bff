import Mathlib.Data.Finset.Card
import Dish.Lib.Transition
import Dish.Input.Pad

/-!
This module contains the touches of a pad on their way to a Moonlight host. `norm` takes the pad's
coordinates to those of the wire, which are of an arbitrary type.
-/

open Transition

namespace Moonlight

inductive TouchEventType where
  | Down
  | Up
  | Move
  deriving DecidableEq

structure TouchEvent (κ : Type) where
  eventType : TouchEventType
  pointerId : Nat
  x : κ
  y : κ
  pressure : Nat
  deriving DecidableEq

structure TouchFinger (κ : Type) where
  active : Bool
  id : UInt8
  x : κ
  y : κ
  deriving DecidableEq

def kTouchPressureDown : Nat := 1

def kTouchPressureUp : Nat := 0

variable {κ : Type}

def diffFinger [DecidableEq κ] (prev cur : TouchFinger κ) : List (TouchEvent κ) :=
  let down : TouchEvent κ := ⟨.Down, cur.id.toNat, cur.x, cur.y, kTouchPressureDown⟩
  let up : TouchEvent κ := ⟨.Up, prev.id.toNat, prev.x, prev.y, kTouchPressureUp⟩
  if !prev.active ∧ cur.active then [down]
  else if prev.active ∧ !cur.active then [up]
  else if !prev.active ∧ !cur.active then []
  else if prev.id ≠ cur.id then [up, down]
  else if prev.x ≠ cur.x ∨ prev.y ≠ cur.y then
    [⟨.Move, cur.id.toNat, cur.x, cur.y, kTouchPressureDown⟩]
  else []

structure TouchDiffer (κ : Type) where
  last0 : TouchFinger κ
  last1 : TouchFinger κ
  deriving DecidableEq

def TouchDiffer.diff [DecidableEq κ] (d : TouchDiffer κ) (finger0 finger1 : TouchFinger κ)
    : List (TouchEvent κ) × TouchDiffer κ :=
  (diffFinger d.last0 finger0 ++ diffFinger d.last1 finger1, ⟨finger0, finger1⟩)

structure TouchPath (κ : Type) where
  pad : Input.Pad
  differ : TouchDiffer κ
  sent : List (TouchEvent κ) := []

structure FingerEvent where
  type : Input.TouchpadEventType
  finger : Int
  x : Int16
  y : Int16
  deriving DecidableEq

def contact (norm : Int16 → κ) (f : Input.TouchFinger) : TouchFinger κ where
  active := f.active
  id := f.id
  x := norm f.x
  y := norm f.y

namespace TouchPath

variable [DecidableEq κ]

def forwardTouch (norm : Int16 → κ) (p : TouchPath κ) (sample : Input.TouchpadSample)
    : TouchPath κ :=
  let (events, differ) := p.differ.diff (contact norm sample.finger0) (contact norm sample.finger1)
  { p with differ, sent := p.sent ++ events }

def publish (norm : Int16 → κ) (p : TouchPath κ) : Input.Published → TouchPath κ
  | .touchpad sample => p.forwardTouch norm sample
  | .report _ => p

def step (norm : Int16 → κ) (p : TouchPath κ) (ev : FingerEvent) : Option (TouchPath κ) :=
  let (pad, out) := p.pad.dispatchSdlEvent (.touchpad ev.type ev.finger ev.x ev.y)
  some (out.foldl (publish norm) { p with pad })

def run (norm : Int16 → κ) : TouchPath κ → List FingerEvent → Option (TouchPath κ) :=
  Transition.run (step norm)

def contacts (p : TouchPath κ) : Nat :=
  p.pad.touch.finger0.active.toNat + p.pad.touch.finger1.active.toNat

end TouchPath

/-- A pointer goes down, moves, goes up, and so on; `none` is anything else. -/
def follow (down : Bool) : TouchEventType → Option Bool
  | .Down => if down then none else some true
  | .Move => if down then some true else none
  | .Up => if down then some false else none

def stroke (types : List TouchEventType) : Option Bool :=
  types.foldlM follow false

def typesOf (id : Nat) (events : List (TouchEvent κ)) : List TouchEventType :=
  (events.filter fun e => e.pointerId = id).map (·.eventType)

def pointersDown (events : List (TouchEvent κ)) : Finset Nat :=
  (events.map (·.pointerId)).toFinset.filter fun id => stroke (typesOf id events) = some true

def TouchFinger.holds (f : TouchFinger κ) (id : Nat) : Bool :=
  f.active && f.id.toNat = id

namespace TouchDiffer

def holds (d : TouchDiffer κ) (id : Nat) : Bool :=
  d.last0.holds id || d.last1.holds id

def apart (d : TouchDiffer κ) : Bool :=
  !(d.last0.active && d.last1.active) || d.last0.id ≠ d.last1.id

/--
Slot 0 shows no finger that slot 1 had in the frame before.
-/
def Keeps (d d' : TouchDiffer κ) : Prop :=
  d.last1.active = true → d'.last0.active = true → d'.last0.id ≠ d.last1.id

instance (d d' : TouchDiffer κ) : Decidable (d.Keeps d') :=
  inferInstanceAs (Decidable (_ → _ → _))

end TouchDiffer

section

variable {d d' : TouchDiffer κ} {prev cur : TouchFinger κ} {events : List (TouchEvent κ)} {id : Nat}

theorem typesOf_append (id : Nat) (events events' : List (TouchEvent κ))
    : typesOf id (events ++ events') = typesOf id events ++ typesOf id events' := by
  simp [typesOf]

theorem mem_pointersDown
    : id ∈ pointersDown events ↔ stroke (typesOf id events) = some true := by
  simp only [pointersDown, Finset.mem_filter, List.mem_toFinset, List.mem_map, and_iff_right_iff_imp]
  intro hdown
  by_contra hnone
  have hempty : typesOf id events = [] := by
    simpa [typesOf] using hnone
  rw [hempty] at hdown
  contradiction

theorem ne_of_apart (h : d.apart = true) (h0 : d.last0.holds id = true)
    : d.last1.holds id = false := by
  grind [TouchDiffer.apart, TouchFinger.holds, UInt8.toNat_inj]

variable [DecidableEq κ]

theorem follow_diffFinger (prev cur : TouchFinger κ) (id : Nat)
    : (typesOf id (diffFinger prev cur)).foldlM follow (prev.holds id) = some (cur.holds id) := by
  unfold diffFinger TouchFinger.holds
  cases prev.active <;> cases cur.active
  . rfl
  . by_cases hcur : cur.id.toNat = id <;> simp [typesOf, hcur, follow]
  . by_cases hprev : prev.id.toNat = id <;> simp [typesOf, hprev, follow]
  . by_cases heq : prev.id = cur.id
    . by_cases hmoved : prev.x ≠ cur.x ∨ prev.y ≠ cur.y <;> by_cases hcur : cur.id.toNat = id <;>
        simp [typesOf, heq, hmoved, hcur, follow]
    . have hne : prev.id.toNat ≠ cur.id.toNat := fun h => heq (UInt8.toNat_inj.mp h)
      by_cases hprev : prev.id.toNat = id <;> by_cases hcur : cur.id.toNat = id <;>
        simp_all [typesOf, follow]

theorem typesOf_diffFinger (hwas : prev.holds id = false) (hnow : cur.holds id = false)
    : typesOf id (diffFinger prev cur) = [] := by
  unfold TouchFinger.holds at hwas hnow
  unfold diffFinger
  cases hprev : prev.active <;> cases hcur : cur.active <;> simp_all [typesOf]
  grind

theorem follow_diff (hwas : d.apart = true) (hnow : d'.apart = true) (hkeeps : d.Keeps d') (id : Nat)
    : (typesOf id (d.diff d'.last0 d'.last1).1).foldlM follow (d.holds id) = some (d'.holds id) := by
  have hfollow₀ := follow_diffFinger d.last0 d'.last0 id
  have hfollow₁ := follow_diffFinger d.last1 d'.last1 id
  unfold TouchDiffer.diff TouchDiffer.holds
  dsimp only
  rw [typesOf_append]
  cases h0 : d'.last0.holds id with
  | true =>
    -- slot 0 has the pointer, so slot 1 has it neither before nor now
    have hbefore : d.last1.holds id = false := by
      grind [TouchDiffer.Keeps, TouchFinger.holds, UInt8.toNat_inj]
    rw [typesOf_diffFinger hbefore (ne_of_apart hnow h0), hbefore, List.append_nil, Bool.or_false,
      hfollow₀, h0, Bool.true_or]
  | false =>
    rw [List.foldlM_append]
    cases hprev : d.last0.holds id with
    | true =>
      rw [hprev, h0] at hfollow₀
      rw [ne_of_apart hwas hprev] at hfollow₁
      rw [Bool.true_or, hfollow₀, Bool.false_or]
      exact hfollow₁
    | false =>
      rw [typesOf_diffFinger hprev h0, Bool.false_or, Bool.false_or]
      exact hfollow₁

end

structure TouchStream (κ : Type) where
  differ : TouchDiffer κ
  sent : List (TouchEvent κ) := []

namespace TouchStream

variable [DecidableEq κ] {s s' : TouchStream κ} {frame : TouchFinger κ × TouchFinger κ}

def step (s : TouchStream κ) (frame : TouchFinger κ × TouchFinger κ) : Option (TouchStream κ) :=
  let (events, differ) := s.differ.diff frame.1 frame.2
  some { differ, sent := s.sent ++ events }

def run : TouchStream κ → List (TouchFinger κ × TouchFinger κ) → Option (TouchStream κ) :=
  Transition.run step

def Keeps (s : TouchStream κ) (frame : TouchFinger κ × TouchFinger κ) : Prop :=
  TouchDiffer.apart ⟨frame.1, frame.2⟩ = true ∧ s.differ.Keeps ⟨frame.1, frame.2⟩

instance (s : TouchStream κ) (frame : TouchFinger κ × TouchFinger κ) : Decidable (s.Keeps frame) :=
  inferInstanceAs (Decidable (_ ∧ _))

structure Follows (s : TouchStream κ) : Prop where
  apart : s.differ.apart = true
  stroke : ∀ id, stroke (typesOf id s.sent) = some (s.differ.holds id)

theorem Follows.step (h : s.Follows) (hP : s.Keeps frame) (hstep : s.step frame = some s')
    : s'.Follows := by
  obtain rfl := Option.some.inj hstep
  refine ⟨hP.1, ?_⟩
  intro id
  rw [typesOf_append, Moonlight.stroke, List.foldlM_append, ← Moonlight.stroke, h.stroke id]
  exact follow_diff h.apart hP.1 hP.2 id

def reset (rest : κ) : TouchStream κ where
  differ := ⟨⟨false, 0, rest, rest⟩, ⟨false, 0, rest, rest⟩⟩

theorem strokes_of_frames {rest : κ} {frames : List (TouchFinger κ × TouchFinger κ)}
    (hP : Along step Keeps (reset rest) frames) (hrun : run (reset rest) frames = some s)
    (id : Nat)
    : (stroke (typesOf id s.sent)).isSome ∧ (id ∈ pointersDown s.sent ↔ s.differ.holds id = true) := by
  have h : s.Follows := by
    apply invariant_of_along (I := Follows) _ _ hP hrun
    . intro s frame s' h hP hstep
      exact h.step hP hstep
    . exact ⟨rfl, fun id => rfl⟩
  rw [mem_pointersDown, h.stroke id]
  simp

def finger (id : UInt8) : TouchFinger Int16 where
  active := true
  id := id
  x := 0
  y := 0

def noFinger : TouchFinger Int16 := ⟨false, 0, 0, 0⟩

theorem strokes_of_move_up
    : ∃ s, run (reset 0) [(finger 1, finger 2), (noFinger, finger 1)] = some s ∧
        1 ∈ pointersDown s.sent := by
  have hP : Along step Keeps (reset 0) [(finger 1, finger 2), (noFinger, finger 1)] := by decide
  exact ⟨_, rfl, (strokes_of_frames hP rfl 1).2.mpr rfl⟩

theorem strokes_of_move_down
    : ∃ frames s, (∀ frame ∈ frames, TouchDiffer.apart ⟨frame.1, frame.2⟩ = true) ∧
        run (reset (0 : Int16)) frames = some s ∧ stroke (typesOf 1 s.sent) = none := by
  exact ⟨[(noFinger, finger 1), (finger 1, noFinger)], _, by decide, rfl, by decide⟩

end TouchStream

namespace TouchPath

def touchAfter (p : TouchPath κ) (ev : FingerEvent) : Input.TouchState :=
  Input.applyTouchFinger p.pad.touch ev.type ev.finger ev.x ev.y

def apart (ts : Input.TouchState) : Bool :=
  !(ts.finger0.active && ts.finger1.active) || ts.finger0.id ≠ ts.finger1.id

def LandsApart (p : TouchPath κ) (ev : FingerEvent) : Prop :=
  apart (p.touchAfter ev) = true

instance (p : TouchPath κ) (ev : FingerEvent) : Decidable (p.LandsApart ev) :=
  inferInstanceAs (Decidable (_ = true))

theorem touchAfter_cases (p : TouchPath κ) (ev : FingerEvent)
    : (p.touchAfter ev).finger1 = p.pad.touch.finger1 ∨
        (p.touchAfter ev).finger0 = p.pad.touch.finger0 := by
  unfold touchAfter Input.applyTouchFinger
  split
  . exact .inl rfl
  . split
    . exact .inr rfl
    . exact .inl rfl

section

variable {p : TouchPath κ}

structure Sees (last : TouchFinger κ) (f : Input.TouchFinger) : Prop where
  active : last.active = f.active
  id : f.active = true → last.id = f.id

structure Tracks (p : TouchPath κ) : Prop where
  publishes : p.pad.publishes = true
  sees0 : Sees p.differ.last0 p.pad.touch.finger0
  sees1 : Sees p.differ.last1 p.pad.touch.finger1
  apart : p.differ.apart = true
  stroke : ∀ id, stroke (typesOf id p.sent) = some (p.differ.holds id)

theorem Tracks.card_pointersDown (h : p.Tracks)
    : (pointersDown p.sent).card = p.contacts := by
  have hmem (id : Nat) : id ∈ pointersDown p.sent ↔ p.differ.holds id = true := by
    rw [mem_pointersDown, h.stroke id, Option.some.injEq]
  have hids := h.apart
  unfold TouchDiffer.holds TouchFinger.holds at hmem
  unfold contacts
  rw [← h.sees0.active, ← h.sees1.active]
  cases h0 : p.differ.last0.active with
  | false =>
    cases h1 : p.differ.last1.active with
    | false =>
      have hempty : pointersDown p.sent = ∅ := by
        ext id
        simp [hmem, h0, h1]
      rw [hempty]
      rfl
    | true =>
      have hone : pointersDown p.sent = {p.differ.last1.id.toNat} := by
        ext id
        simp [hmem, h0, h1, eq_comm]
      rw [hone]
      rfl
  | true =>
    cases h1 : p.differ.last1.active with
    | false =>
      have hone : pointersDown p.sent = {p.differ.last0.id.toNat} := by
        ext id
        simp [hmem, h0, h1, eq_comm]
      rw [hone]
      rfl
    | true =>
      have htwo : pointersDown p.sent =
          {p.differ.last0.id.toNat, p.differ.last1.id.toNat} := by
        ext id
        rw [hmem, Finset.mem_insert, Finset.mem_singleton, h0, h1]
        simp [@eq_comm _ id]
      rw [htwo, Finset.card_pair]
      . rfl
      . simpa [TouchDiffer.apart, h0, h1, UInt8.toNat_inj] using hids

theorem Tracks.keeps (h : p.Tracks) {ev : FingerEvent} (hP : p.LandsApart ev) (norm : Int16 → κ)
    : p.differ.Keeps
        ⟨contact norm (p.touchAfter ev).finger0, contact norm (p.touchAfter ev).finger1⟩ := by
  intro h1 h0
  have hsees0 := h.sees0
  have hsees1 := h.sees1
  have hapart := h.apart
  unfold LandsApart TouchPath.apart at hP
  unfold TouchDiffer.apart at hapart
  unfold contact at h0 ⊢
  -- an event moves one finger, and the other is where the differ saw it
  rcases p.touchAfter_cases ev with hsame | hsame
  . rw [hsame] at hP
    grind [Sees]
  . rw [hsame] at h0 ⊢
    grind [Sees]

/-- The ids the fingers had last are arbitrary. -/
structure Fresh (p : TouchPath κ) : Prop where
  publishes : p.pad.publishes = true
  finger0 : p.pad.touch.finger0.active = false
  finger1 : p.pad.touch.finger1.active = false
  last0 : p.differ.last0.active = false
  last1 : p.differ.last1.active = false
  sent : p.sent = []

theorem Fresh.tracks (h : p.Fresh) : p.Tracks where
  publishes := h.publishes
  sees0 := ⟨h.last0.trans h.finger0.symm, fun hactive => by simp [h.finger0] at hactive⟩
  sees1 := ⟨h.last1.trans h.finger1.symm, fun hactive => by simp [h.finger1] at hactive⟩
  apart := by simp [TouchDiffer.apart, h.last0]
  stroke := by
    intro id
    simp [h.sent, typesOf, Moonlight.stroke, TouchDiffer.holds, TouchFinger.holds, h.last0, h.last1]

end

section

variable [DecidableEq κ] {norm : Int16 → κ} {p p' : TouchPath κ} {ev : FingerEvent}

theorem step_eq_some (hpad : p.pad.publishes = true)
    : p.step norm ev = some p' ↔
      p' = { pad := { p.pad with touch := p.touchAfter ev }
             differ := ⟨contact norm (p.touchAfter ev).finger0, contact norm (p.touchAfter ev).finger1⟩
             sent := p.sent ++ (diffFinger p.differ.last0 (contact norm (p.touchAfter ev).finger0) ++
               diffFinger p.differ.last1 (contact norm (p.touchAfter ev).finger1)) } := by
  have htouch : (Input.SdlEvent.touchpad ev.type ev.finger ev.x ev.y).isTouch = true := rfl
  have hout := Input.Pad.dispatchSdlEvent_of_touch htouch hpad
  dsimp only [step]
  rw [hout, Option.some.injEq, eq_comm]
  rfl

theorem Tracks.step (h : p.Tracks) (hP : p.LandsApart ev) (hstep : p.step norm ev = some p')
    : p'.Tracks := by
  rw [step_eq_some h.publishes] at hstep
  subst hstep
  refine ⟨h.publishes, ⟨rfl, fun _ => rfl⟩, ⟨rfl, fun _ => rfl⟩, hP, ?_⟩
  intro id
  dsimp only
  rw [typesOf_append, Moonlight.stroke, List.foldlM_append]
  rw [← Moonlight.stroke, h.stroke id]
  have hnow : TouchDiffer.apart
      ⟨contact norm (p.touchAfter ev).finger0, contact norm (p.touchAfter ev).finger1⟩ = true := hP
  exact follow_diff h.apart hnow (h.keeps hP norm) id

theorem strokes_of_run {evs : List FingerEvent} (hstart : p.Fresh)
    (hP : Along (step norm) LandsApart p evs) (hrun : run norm p evs = some p')
    : (∀ id, (stroke (typesOf id p'.sent)).isSome) ∧ (pointersDown p'.sent).card = p'.contacts := by
  have h := invariant_of_along (I := Tracks)
    (fun p ev p' h hP hstep => h.step hP hstep) hstart.tracks hP hrun
  refine ⟨?_, h.card_pointersDown⟩
  intro id
  rw [h.stroke id]
  rfl

end

def opened : TouchPath Int16 where
  pad := { index := some 0 }
  differ := ⟨⟨false, 0, 0, 0⟩, ⟨false, 0, 0, 0⟩⟩

theorem fresh_opened : opened.Fresh := by
  exact ⟨rfl, rfl, rfl, rfl, rfl, rfl⟩

theorem strokes_of_tap_and_pair
    : ∃ p, run id opened
          [⟨.Down, 0, 5, 5⟩, ⟨.Up, 0, 5, 5⟩, ⟨.Down, 0, 7, 7⟩, ⟨.Down, 1, 9, 9⟩, ⟨.Motion, 1, 8, 9⟩] =
        some p ∧
      (pointersDown p.sent).card = p.contacts ∧ p.contacts = 2 := by
  refine ⟨_, rfl, ?_, by decide⟩
  exact (@strokes_of_run Int16 _ id opened _
    [⟨.Down, 0, 5, 5⟩, ⟨.Up, 0, 5, 5⟩, ⟨.Down, 0, 7, 7⟩, ⟨.Down, 1, 9, 9⟩, ⟨.Motion, 1, 8, 9⟩]
    fresh_opened (by decide) rfl).2

theorem two_fingers_one_pointer
    : ∃ p, run id opened [⟨.Down, 0, 5, 5⟩, ⟨.Down, 1, 9, 9⟩] = some p ∧
      stroke (typesOf 1 p.sent) = none ∧ (pointersDown p.sent).card ≠ p.contacts := by
  exact ⟨_, rfl, by decide, by decide⟩

end TouchPath

end Moonlight
