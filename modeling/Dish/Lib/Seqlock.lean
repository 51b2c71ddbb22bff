import Mathlib.Algebra.Group.Nat.Defs

/-!
This module contains a sequence lock over `n` words, with one writer at a time and any number of
readers.
-/

namespace Seqlock

structure Cell (n : Nat) (W : Type) where
  gen : UInt32
  words : Fin n → W
  ticks : Nat

namespace Cell

variable {n : Nat} {W : Type}

def beginWrite (c : Cell n W) : Cell n W :=
  { c with gen := c.gen + 1, ticks := c.ticks + 1 }

def storeWord (c : Cell n W) (i : Fin n) (w : W) : Cell n W :=
  { c with words := fun j => if j = i then w else c.words j }

def endWrite (c : Cell n W) : Cell n W :=
  { c with gen := c.gen + 1, ticks := c.ticks + 1 }

def Counted (c : Cell n W) : Prop :=
  c.gen = UInt32.ofNat c.ticks

@[simp]
theorem beginWrite_ticks (c : Cell n W) : c.beginWrite.ticks = c.ticks + 1 := by
  rfl

@[simp]
theorem endWrite_ticks (c : Cell n W) : c.endWrite.ticks = c.ticks + 1 := by
  rfl

@[simp]
theorem storeWord_ticks (c : Cell n W) (i : Fin n) (w : W)
    : (c.storeWord i w).ticks = c.ticks := by
  rfl

@[simp]
theorem storeWord_words_self (c : Cell n W) (i : Fin n) (w : W)
    : (c.storeWord i w).words i = w := by
  simp [storeWord]

theorem storeWord_words_ne (c : Cell n W) {i j : Fin n} (w : W) (h : j ≠ i)
    : (c.storeWord i w).words j = c.words j := by
  simp [storeWord, h]

theorem Counted.beginWrite {c : Cell n W} (h : c.Counted) : c.beginWrite.Counted := by
  unfold Counted at *
  simp [Cell.beginWrite, h, UInt32.ofNat_add]

theorem Counted.endWrite {c : Cell n W} (h : c.Counted) : c.endWrite.Counted := by
  unfold Counted at *
  simp [Cell.endWrite, h, UInt32.ofNat_add]

theorem Counted.storeWord {c : Cell n W} (h : c.Counted) (i : Fin n) (w : W)
    : (c.storeWord i w).Counted := by
  exact h

end Cell

theorem ofNat_eq_ofNat {a b : Nat}
    : UInt32.ofNat a = UInt32.ofNat b ↔ a % 2 ^ 32 = b % 2 ^ 32 := by
  rw [← UInt32.toNat_inj]
  simp

def Turned (a b : Nat) : Prop :=
  a < b ∧ (b - a) % 2 ^ 32 = 0

instance (a b : Nat) : Decidable (Turned a b) :=
  inferInstanceAs (Decidable (_ ∧ _))

theorem eq_of_ofNat_eq {a b : Nat} (hle : a ≤ b) (hturn : ¬ Turned a b)
    (h : UInt32.ofNat a = UInt32.ofNat b)
    : a = b := by
  rw [ofNat_eq_ofNat] at h
  unfold Turned at hturn
  omega

theorem even_of_land_one_eq_zero {a : Nat} (h : UInt32.ofNat a &&& 1 = 0) : a % 2 = 0 := by
  rw [← UInt32.toNat_inj] at h
  simp only [UInt32.toNat_and, UInt32.toNat_ofNat', UInt32.reduceToNat] at h
  rw [Nat.and_one_is_mod] at h
  omega

/--
`seen` and `opened` are the bumps of the generation asked for first and of the one `read` opened
with.
-/
structure Reader (W : Type) where
  generation : UInt32
  seen : Nat
  before : UInt32
  opened : Nat
  taken : List W

namespace Reader

variable {n : Nat} {W : Type}

structure Tracks (r : Reader W) (c : Cell n W) : Prop where
  generation_eq : r.generation = UInt32.ofNat r.seen
  before_eq : r.before = UInt32.ofNat r.opened
  seen_le : r.seen ≤ r.opened
  opened_le : r.opened ≤ c.ticks
  opened_even : r.opened % 2 = 0
  taken_eq : c.ticks = r.opened →
    ∀ (i : Nat) (hi : i < n) (ht : i < r.taken.length), r.taken[i] = c.words ⟨i, hi⟩

theorem Tracks.beginWrite {r : Reader W} {c : Cell n W} (h : r.Tracks c)
    : r.Tracks c.beginWrite where
  generation_eq := h.generation_eq
  before_eq := h.before_eq
  seen_le := h.seen_le
  opened_le := by
    have := h.opened_le
    simp only [Cell.beginWrite_ticks]
    omega
  opened_even := h.opened_even
  taken_eq := by
    have := h.opened_le
    intro heq
    simp only [Cell.beginWrite_ticks] at heq
    omega

theorem Tracks.endWrite {r : Reader W} {c : Cell n W} (h : r.Tracks c)
    : r.Tracks c.endWrite where
  generation_eq := h.generation_eq
  before_eq := h.before_eq
  seen_le := h.seen_le
  opened_le := by
    have := h.opened_le
    simp only [Cell.endWrite_ticks]
    omega
  opened_even := h.opened_even
  taken_eq := by
    have := h.opened_le
    intro heq
    simp only [Cell.endWrite_ticks] at heq
    omega

theorem Tracks.storeWord {r : Reader W} {c : Cell n W} (h : r.Tracks c) (hodd : c.ticks % 2 = 1)
    (i : Fin n) (w : W)
    : r.Tracks (c.storeWord i w) where
  generation_eq := h.generation_eq
  before_eq := h.before_eq
  seen_le := h.seen_le
  opened_le := h.opened_le
  opened_even := h.opened_even
  taken_eq := by
    intro heq
    have := h.opened_even
    simp only [Cell.storeWord_ticks] at heq
    omega

theorem Tracks.take {r : Reader W} {c : Cell n W} (h : r.Tracks c) (hi : r.taken.length < n)
    : Tracks { r with taken := r.taken ++ [c.words ⟨r.taken.length, hi⟩] } c where
  generation_eq := h.generation_eq
  before_eq := h.before_eq
  seen_le := h.seen_le
  opened_le := h.opened_le
  opened_even := h.opened_even
  taken_eq := by
    intro heq i hin ht
    simp only [List.length_append, List.length_cons, List.length_nil, Nat.zero_add] at ht
    by_cases hlt : i < r.taken.length
    . rw [List.getElem_append_left hlt]
      exact h.taken_eq heq i hin hlt
    . have : i = r.taken.length := by omega
      subst this
      simp

theorem Tracks.words_of_recheck {r : Reader W} {c : Cell n W} (h : r.Tracks c) (hc : c.Counted)
    (hturn : ¬ Turned r.seen c.ticks) (hgen : c.gen = r.generation)
    : r.opened = c.ticks ∧ r.seen = c.ticks ∧
        ∀ (i : Nat) (hi : i < n) (ht : i < r.taken.length), r.taken[i] = c.words ⟨i, hi⟩ := by
  have hle := h.seen_le
  have hopen := h.opened_le
  have heq : r.seen = c.ticks := by
    apply eq_of_ofNat_eq (by omega) hturn
    rw [← h.generation_eq]
    rw [← hgen]
    exact hc
  have hopened : r.opened = c.ticks := by omega
  exact ⟨hopened, heq, h.taken_eq hopened.symm⟩

end Reader
end Seqlock
