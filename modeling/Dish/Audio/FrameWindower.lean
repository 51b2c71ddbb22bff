import Mathlib.Data.List.Basic

/-!
This module contains the windower of a capture stream.
-/

namespace Audio

structure FrameWindower (α : Type) where
  frame : Nat
  buffer : List α := []
  short : buffer.length < frame

namespace FrameWindower

variable {α : Type}

def whole (frame : Nat) (hframe : 0 < frame) (samples : List α) : List (List α) × List α :=
  if frame ≤ samples.length then
    let (windows, rest) := whole frame hframe (samples.drop frame)
    (samples.take frame :: windows, rest)
  else
    ([], samples)
termination_by samples.length
decreasing_by simp; omega

def carry (frame : Nat) (buffer : List α) (short : buffer.length < frame) (samples : List α)
    : List (List α) × { pending : List α // pending.length < frame } :=
  if hempty : samples.length = 0 then
    ([], ⟨buffer, short⟩)
  else
    let take := min (frame - buffer.length) samples.length
    let filled := buffer ++ samples.take take
    if hfull : filled.length = frame then
      let (windows, pending) := carry frame [] (Nat.zero_lt_of_lt short) (samples.drop take)
      (filled :: windows, pending)
    else
      carry frame filled (by grind) (samples.drop take)
termination_by samples.length
decreasing_by all_goals grind

def feed (w : FrameWindower α) (samples : List α) : List (List α) × FrameWindower α :=
  let (windows, rest) :=
    if w.buffer = [] then whole w.frame (Nat.zero_lt_of_lt w.short) samples else ([], samples)
  let (carried, pending) := carry w.frame w.buffer w.short rest
  (windows ++ carried, { frame := w.frame, buffer := pending.1, short := pending.2 })

def reset (w : FrameWindower α) : FrameWindower α :=
  { w with buffer := [], short := Nat.zero_lt_of_lt w.short }

def feedAll (w : FrameWindower α) : List (List α) → List (List α) × FrameWindower α
  | [] => ([], w)
  | chunk :: chunks =>
    let (windows, w) := w.feed chunk
    let (more, w) := w.feedAll chunks
    (windows ++ more, w)

structure Cuts (frame : Nat) (samples : List α) (windows : List (List α)) (rest : List α)
    : Prop where
  samples : windows.flatten ++ rest = samples
  full : ∀ window ∈ windows, window.length = frame

theorem Cuts.nil (frame : Nat) (samples : List α) : Cuts frame samples [] samples where
  samples := rfl
  full := by simp

theorem Cuts.cons {frame : Nat} {window samples rest : List α} {windows : List (List α)}
    (hwindow : window.length = frame) (h : Cuts frame samples windows rest)
    : Cuts frame (window ++ samples) (window :: windows) rest where
  samples := by rw [List.flatten_cons, List.append_assoc, h.samples]
  full := by
    intro window' hmem
    rcases List.mem_cons.mp hmem with rfl | hmem
    . exact hwindow
    . exact h.full window' hmem

theorem Cuts.append {frame : Nat} {samples middle rest more : List α}
    {windows carried : List (List α)}
    (h : Cuts frame samples windows middle) (h' : Cuts frame (middle ++ more) carried rest)
    : Cuts frame (samples ++ more) (windows ++ carried) rest where
  samples := by
    rw [List.flatten_append, List.append_assoc, h'.samples, ← List.append_assoc, h.samples]
  full := by
    intro window hmem
    rcases List.mem_append.mp hmem with hmem | hmem
    . exact h.full window hmem
    . exact h'.full window hmem

theorem whole_cuts (frame : Nat) (hframe : 0 < frame) (samples : List α)
    : Cuts frame samples (whole frame hframe samples).1 (whole frame hframe samples).2 := by
  fun_induction whole frame hframe samples with
  | case1 samples hlong windows rest hrest ih =>
    rw [hrest] at ih
    have hwindow : (samples.take frame).length = frame := by simp [hlong]
    have hcons := ih.cons hwindow
    rwa [List.take_append_drop] at hcons
  | case2 samples hshort => exact .nil frame samples

theorem carry_cuts (frame : Nat) (buffer : List α) (short : buffer.length < frame)
    (samples : List α)
    : Cuts frame (buffer ++ samples) (carry frame buffer short samples).1
        (carry frame buffer short samples).2.1 := by
  fun_induction carry frame buffer short samples with
  | case1 buffer short samples hempty =>
    rw [List.eq_nil_of_length_eq_zero hempty, List.append_nil]
    exact .nil frame buffer
  | case2 buffer short samples hempty take filled hfull windows pending hrest ih =>
    rw [hrest, List.nil_append] at ih
    have hcons := ih.cons hfull
    rwa [List.append_assoc, List.take_append_drop] at hcons
  | case3 buffer short samples hempty take filled hfull ih =>
    rwa [List.append_assoc, List.take_append_drop] at ih

theorem feed_cuts (w : FrameWindower α) (samples : List α)
    : Cuts w.frame (w.buffer ++ samples) (w.feed samples).1 (w.feed samples).2.buffer := by
  unfold feed
  dsimp only
  split
  . next hbuffer =>
    have hwhole := whole_cuts w.frame (Nat.zero_lt_of_lt w.short) samples
    have hcarry := carry_cuts w.frame w.buffer w.short
      (whole w.frame (Nat.zero_lt_of_lt w.short) samples).2
    -- Nothing was pending, so what the whole windows leave over is all the slow path sees.
    have hnone : ∀ more : List α, w.buffer ++ more = more := by
      simp [hbuffer]
    rw [hnone] at hcarry ⊢
    rw [← List.append_nil (whole _ _ _).2] at hcarry
    have happend := hwhole.append hcarry
    simp only [List.append_nil] at happend
    exact happend
  . exact carry_cuts w.frame w.buffer w.short samples

theorem frame_feedAll (w : FrameWindower α) (chunks : List (List α))
    : (w.feedAll chunks).2.frame = w.frame := by
  induction chunks generalizing w with
  | nil => rfl
  | cons chunk chunks ih => exact ih (w.feed chunk).2

theorem feedAll_cuts (w : FrameWindower α) (chunks : List (List α))
    : Cuts w.frame (w.buffer ++ chunks.flatten) (w.feedAll chunks).1
        (w.feedAll chunks).2.buffer := by
  induction chunks generalizing w with
  | nil =>
    rw [List.flatten_nil, List.append_nil]
    exact .nil w.frame w.buffer
  | cons chunk chunks ih =>
    rw [List.flatten_cons, ← List.append_assoc]
    exact (w.feed_cuts chunk).append (ih (w.feed chunk).2)

theorem feedAll_reset (w : FrameWindower α) (chunks : List (List α))
    : let (windows, w') := w.reset.feedAll chunks
      windows.flatten ++ w'.buffer = chunks.flatten ∧
        (∀ window ∈ windows, window.length = w.frame) ∧ w'.buffer.length < w.frame := by
  have hcuts := w.reset.feedAll_cuts chunks
  have hshort := (w.reset.feedAll chunks).2.short
  rw [frame_feedAll] at hshort
  exact ⟨hcuts.samples, hcuts.full, hshort⟩

end FrameWindower

end Audio
