import Mathlib.Data.Int.Order.Basic
import Mathlib.Tactic.Linarith

/-!
This module contains the scaling of a field of a HID report to the range of a stick or a trigger.
-/

namespace UsbHid

structure HidAxis where
  bitSize : Nat := 0
  logicalMin : Int := 0
  logicalMax : Int := 0

def int32 (raw : Nat) : Int :=
  (raw : Int).bmod (2 ^ 32)

def toSigned (raw bits : Nat) (logicalMin : Int) : Int :=
  if logicalMin < 0 ∧ 0 < bits ∧ bits < 32 ∧ raw.testBit (bits - 1) then
    int32 (raw ||| (2 ^ 32 - 2 ^ bits))
  else
    int32 raw

def scaleAxis16 (raw : Nat) (a : HidAxis) (invert : Bool) : Int :=
  let v := toSigned raw a.bitSize a.logicalMin
  let center := (a.logicalMin + a.logicalMax).tdiv 2
  let half := (a.logicalMax - a.logicalMin).tdiv 2
  if half ≤ 0 then
    0
  else
    let scaled := ((v - center) * 32767).tdiv half
    let scaled := if invert then -scaled else scaled
    max (-32768) (min 32767 scaled)

def scaleTrig8 (raw : Nat) (a : HidAxis) : Int :=
  let v := toSigned raw a.bitSize a.logicalMin
  let span := a.logicalMax - a.logicalMin
  if span ≤ 0 then 0 else min 255 (max 0 (((v - a.logicalMin) * 255).tdiv span))

namespace HidAxis

def value (a : HidAxis) (raw : Nat) : Int :=
  if a.logicalMin < 0 then (raw : Int).bmod (2 ^ a.bitSize) else raw

structure Declares (a : HidAxis) (raw : Nat) : Prop where
  bits : 1 ≤ a.bitSize ∧ a.bitSize ≤ 32
  range : a.logicalMin + 2 ≤ a.logicalMax
  raw : raw < 2 ^ a.bitSize

def FitsSigned (a : HidAxis) (raw : Nat) : Prop :=
  a.bitSize = 32 → 0 ≤ a.logicalMin → raw < 2 ^ 31

end HidAxis

variable {a : HidAxis} {raw raw' : Nat}

theorem int32_eq (h : raw < 4294967296)
    : int32 raw = if raw < 2147483648 then (raw : Int) else raw - 4294967296 := by
  unfold int32
  rw [Int.bmod_def]
  split <;> omega

theorem testBit_top {n : Nat} (hraw : raw < 2 ^ (n + 1)) : raw.testBit n = decide (2 ^ n ≤ raw) := by
  rw [Nat.pow_succ] at hraw
  rw [Nat.testBit_eq_decide_div_mod_eq]
  have hpos : 0 < 2 ^ n := Nat.two_pow_pos n
  have hdiv : raw / 2 ^ n < 2 := Nat.div_lt_of_lt_mul hraw
  rw [Nat.mod_eq_of_lt hdiv]
  have hle : 1 ≤ raw / 2 ^ n ↔ 2 ^ n ≤ raw := by
    rw [Nat.le_div_iff_mul_le hpos, Nat.one_mul]
  simp only [← hle]
  congr 1
  simp only [eq_iff_iff]
  omega

theorem bmod_pow {n : Nat} (hraw : raw < 2 ^ (n + 1))
    : (raw : Int).bmod (2 ^ (n + 1)) = if 2 ^ n ≤ raw then (raw : Int) - 2 ^ (n + 1) else raw := by
  have hmod : (raw : Int) % ((2 ^ (n + 1) : Nat) : Int) = raw :=
    Int.emod_eq_of_lt (by omega) (by exact_mod_cast hraw)
  have hpow : ((2 ^ (n + 1) : Nat) : Int) = 2 * ((2 ^ n : Nat) : Int) := by
    rw [Nat.pow_succ]
    omega
  rw [Int.bmod_def, hmod, hpow]
  have hpow' : (2 : Int) ^ (n + 1) = 2 * ((2 ^ n : Nat) : Int) := by
    rw [← hpow]
    rfl
  rw [hpow']
  split <;> split <;> omega

theorem or_high {bits : Nat} (hbits : bits ≤ 32) (hraw : raw < 2 ^ bits)
    : raw ||| (2 ^ 32 - 2 ^ bits) = raw + (2 ^ 32 - 2 ^ bits) := by
  have hhigh : 2 ^ 32 - 2 ^ bits = 2 ^ bits * (2 ^ (32 - bits) - 1) := by
    rw [Nat.mul_sub, ← Nat.pow_add, Nat.mul_one, Nat.add_sub_cancel' hbits]
  rw [hhigh, Nat.or_comm, ← Nat.two_pow_add_eq_or_of_lt hraw, Nat.add_comm]

theorem toSigned_eq_value (h : a.Declares raw) (hfits : a.FitsSigned raw)
    : toSigned raw a.bitSize a.logicalMin = a.value raw := by
  obtain ⟨⟨hone, hbits⟩, _, hraw⟩ := h
  unfold HidAxis.FitsSigned at hfits
  unfold toSigned HidAxis.value
  obtain ⟨n, hn⟩ : ∃ n, a.bitSize = n + 1 := ⟨a.bitSize - 1, by omega⟩
  rw [hn] at hraw hfits hbits ⊢
  rw [Nat.add_sub_cancel, testBit_top hraw, bmod_pow hraw]
  have hsucc : 2 ^ (n + 1) = 2 * 2 ^ n := Nat.pow_succ'
  have hpow : (2 : Int) ^ (n + 1) = ((2 * 2 ^ n : Nat) : Int) := by
    rw [← hsucc]
    rfl
  have hle : n < 31 → 2 ^ n ≤ 1073741824 := fun hlt =>
    Nat.pow_le_pow_right (n := 2) (by omega) (show n ≤ 30 by omega)
  have hfull : n = 31 → 2 ^ n = 2147483648 := by
    rintro rfl
    norm_num
  by_cases hneg : a.logicalMin < 0
  . rw [if_pos hneg, hpow]
    split
    . next htop =>
      have := htop.2.2.1
      have htop : 2 ^ n ≤ raw := by simpa using htop.2.2.2
      rw [if_pos htop, or_high hbits hraw, hsucc, int32_eq (by omega), if_neg (by omega)]
      omega
    . next htop =>
      rw [int32_eq (by omega)]
      simp only [hneg, decide_eq_true_eq, not_and, true_and] at htop
      split <;> split <;> omega
  . rw [if_neg (by omega), if_neg hneg, int32_eq (by omega)]
    by_cases hlt : n < 31
    . rw [if_pos (by omega)]
    . exact if_pos (hfits (by omega) (by omega))

section Scaled

variable {lo hi : Int}

theorem tdiv_two (x : Int) : x.tdiv 2 = if 0 ≤ x then x / 2 else -(-x / 2) := by
  split
  . next h => exact Int.tdiv_eq_ediv_of_nonneg h
  . next h => rw [← Int.tdiv_eq_ediv_of_nonneg (by omega), Int.neg_tdiv, Int.neg_neg]

theorem half_bounds (h : lo + 2 ≤ hi)
    : 0 < (hi - lo).tdiv 2 ∧ lo - (lo + hi).tdiv 2 ≤ -(hi - lo).tdiv 2 ∧
        (hi - lo).tdiv 2 ≤ hi - (lo + hi).tdiv 2 := by
  rw [tdiv_two, tdiv_two]
  split <;> split <;> omega

theorem tdiv_le_of_le {x c k : Int} (hc : 0 < c) (h : x ≤ k * c) : x.tdiv c ≤ k := by
  have := Int.tdiv_le_tdiv hc h
  rwa [Int.mul_tdiv_cancel k hc.ne'] at this

theorem le_tdiv_of_le {x c k : Int} (hc : 0 < c) (h : k * c ≤ x) : k ≤ x.tdiv c := by
  have := Int.tdiv_le_tdiv hc h
  rwa [Int.mul_tdiv_cancel k hc.ne'] at this

end Scaled

def byteAxis : HidAxis :=
  { bitSize := 8, logicalMax := 255 }

end UsbHid
