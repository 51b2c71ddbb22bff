import Mathlib.Data.List.Basic

/-!
This module contains sequence numbers of 16 bits that wrap around.
-/

namespace Wrapping

variable {x y : UInt16}

def ahead (x y : UInt16) : Int :=
  (x - y).toInt16.toInt

theorem ahead_eq_bmod (x y : UInt16) : ahead x y = ((x.toNat : Int) - y.toNat).bmod 65536 := by
  have hbits : ahead x y = (x - y).toBitVec.toInt := rfl
  rw [hbits, UInt16.toBitVec_sub, BitVec.toInt_sub]
  simp only [BitVec.toInt_eq_toNat_bmod, UInt16.toNat_toBitVec]
  simp

theorem ahead_range (x y : UInt16) : -32768 ≤ ahead x y ∧ ahead x y ≤ 32767 := by
  rw [ahead_eq_bmod, Int.bmod_def]
  omega

@[simp]
theorem ahead_self (x : UInt16) : ahead x x = 0 := by
  rw [ahead_eq_bmod]
  simp

theorem ahead_eq_zero : ahead x y = 0 ↔ x = y := by
  constructor
  . intro h
    rw [ahead_eq_bmod, Int.bmod_def] at h
    have := x.toNat_lt
    have := y.toNat_lt
    apply UInt16.toNat_inj.mp
    omega
  . rintro rfl
    exact ahead_self x

theorem ahead_add_ofNat (s : UInt16) {i j : Nat} (hle : i ≤ j + 32767) (hge : j ≤ i + 32768)
    : ahead (s + UInt16.ofNat i) (s + UInt16.ofNat j) = (i : Int) - j := by
  rw [ahead_eq_bmod]
  simp only [UInt16.toNat_add, UInt16.toNat_ofNat', Int.bmod_def]
  omega

theorem ahead_succ (h : -32768 < ahead x y) : ahead x (y + 1) = ahead x y - 1 := by
  rw [ahead_eq_bmod, Int.bmod_def] at h ⊢
  rw [ahead_eq_bmod, Int.bmod_def, UInt16.toNat_add, UInt16.toNat_one]
  omega

theorem ahead_pred {d : Nat} (h : ahead x y = (d + 1 : Nat))
    : ahead x (y + 1) = d := by
  rw [ahead_succ (by omega)]
  omega

theorem ahead_succ_left (h : ahead x y < 32767)
    : ahead (x + 1) y = ahead x y + 1 := by
  rw [ahead_eq_bmod, Int.bmod_def] at h ⊢
  rw [ahead_eq_bmod, Int.bmod_def, UInt16.toNat_add, UInt16.toNat_one]
  omega

theorem pos_of_ahead_succ (hpos : 0 < ahead x (y + 1)) (hfar : ahead x (y + 1) < 32767)
    : 0 < ahead x y := by
  rw [ahead_eq_bmod, Int.bmod_def, UInt16.toNat_add, UInt16.toNat_one] at hpos hfar
  rw [ahead_eq_bmod, Int.bmod_def]
  omega

theorem ahead_succ_self (x : UInt16) : ahead (x + 1) x = 1 := by
  rw [ahead_succ_left (by simp), ahead_self]
  rfl

theorem ahead_succ_succ_self (x : UInt16) : ahead (x + 1 + 1) x = 2 := by
  rw [ahead_succ_left (by rw [ahead_succ_self]; decide), ahead_succ_self]
  rfl

theorem ahead_self_succ (x : UInt16) : ahead x (x + 1) = -1 := by
  rw [ahead_succ (by rw [ahead_self]; decide), ahead_self]
  rfl

theorem eq_succ_of_ahead (h : ahead x y = 1) : x = y + 1 := by
  rw [← ahead_eq_zero, ahead_succ (by omega), h]
  rfl

theorem ne_of_ahead (h : ahead x y ≠ 0) : x ≠ y := by
  intro heq
  exact h (ahead_eq_zero.mpr heq)

end Wrapping
