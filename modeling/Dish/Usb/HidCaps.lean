import Mathlib.Logic.Function.Basic

/-!
This module contains how the fields of a pad are taken from the capabilities its driver reports.
-/

namespace UsbHid

structure ValueCaps where
  usagePage : UInt16
  isRange : Bool
  usageMin : UInt16
  usageMax : UInt16
  usage : UInt16
  bitSize : UInt16
  logicalMin : Int
  logicalMax : Int

structure ButtonCaps where
  usagePage : UInt16
  isRange : Bool
  usageMin : UInt16
  usage : UInt16

inductive Field where
  | lx
  | ly
  | rx
  | ry
  | lt
  | rt
  | hat
  deriving DecidableEq

structure Axis where
  page : UInt16
  usage : UInt16
  bitSize : UInt8
  logicalMin : Int
  logicalMax : Int
  deriving DecidableEq

structure HidPDecode where
  fields : Field → Option Axis := fun _ => none
  buttons : Option (UInt16 × UInt16) := none

namespace HidPDecode

def fieldOf (page usage : UInt16) : Option Field :=
  if page = 0x01 then
    if usage = 0x30 then some .lx
    else if usage = 0x31 then some .ly
    else if usage = 0x32 then some .rx
    else if usage = 0x35 then some .ry
    else if usage = 0x33 then some .lt
    else if usage = 0x34 then some .rt
    else if usage = 0x39 then some .hat
    else none
  else if page = 0x02 then
    if usage = 0xC5 then some .lt
    else if usage = 0xC4 then some .rt
    else none
  else
    none

-- the size of a hat's field is not kept
def axisOf (field : Field) (usage : UInt16) (vc : ValueCaps) : Axis where
  page := vc.usagePage
  usage := usage
  bitSize := if field = .hat then 0 else vc.bitSize.toUInt8
  logicalMin := vc.logicalMin
  logicalMax := vc.logicalMax

def assign (d : HidPDecode) (usage : UInt16) (vc : ValueCaps) : HidPDecode :=
  match fieldOf vc.usagePage usage with
  | none => d
  | some field =>
    if (d.fields field).isSome then d
    else { d with fields := Function.update d.fields field (some (axisOf field usage vc)) }

/-- The loop counts in 16 bits; `none` is a loop that is still running when the fuel is spent. -/
def assignRange (vc : ValueCaps) : Nat → UInt16 → HidPDecode → Option HidPDecode
  | 0, _, _ => none
  | fuel + 1, u, d =>
    if u ≤ vc.usageMax then assignRange vc fuel (u + 1) (d.assign u vc) else some d

def assignCaps (fuel : Nat) (d : HidPDecode) (vc : ValueCaps) : Option HidPDecode :=
  if vc.isRange then assignRange vc fuel vc.usageMin d else some (d.assign vc.usage vc)

def takeButtons (d : HidPDecode) (bc : ButtonCaps) : HidPDecode :=
  if bc.usagePage ≠ 0x09 ∨ d.buttons.isSome then d
  else { d with buttons := some (bc.usagePage, if bc.isRange then bc.usageMin else bc.usage) }

def build (fuel : Nat) (vcaps : List ValueCaps) (bcaps : List ButtonCaps) : Option HidPDecode :=
  (vcaps.foldlM (assignCaps fuel) {}).map fun d => bcaps.foldl takeButtons d

def valid (d : HidPDecode) : Bool :=
  (d.fields .lx).isSome || (d.fields .ly).isSome || d.buttons.isSome || (d.fields .hat).isSome

end HidPDecode

def ValueCaps.usages (vc : ValueCaps) : List UInt16 :=
  if vc.isRange then
    (List.range' vc.usageMin.toNat (vc.usageMax.toNat + 1 - vc.usageMin.toNat)).map UInt16.ofNat
  else
    [vc.usage]

def ValueCaps.covering (vc : ValueCaps) (field : Field) : Option Axis :=
  (vc.usages.find? (HidPDecode.fieldOf vc.usagePage · = some field)).map
    (HidPDecode.axisOf field · vc)

def ValueCaps.Ends (vc : ValueCaps) : Prop :=
  vc.isRange → vc.usageMax ≠ 0xFFFF

namespace HidPDecode

variable {vc : ValueCaps} {fuel : Nat}

theorem fields_assign (d : HidPDecode) (usage : UInt16) (vc : ValueCaps) (field : Field)
    : (d.assign usage vc).fields field =
        (d.fields field).or (if fieldOf vc.usagePage usage = some field then
          some (axisOf field usage vc) else none) := by
  unfold assign
  split
  next hnone => simp [hnone]
  next field' hfield =>
    rw [hfield]
    by_cases heq : field = field'
    . subst heq
      split
      next hsome => rw [Option.or_of_isSome hsome]
      next hnone => simp_all
    . have hne : some field' ≠ some field := by simpa using Ne.symm heq
      rw [if_neg hne, Option.or_none]
      split
      . rfl
      . simp [heq]

theorem fields_foldl_assign (d : HidPDecode) (usages : List UInt16) (field : Field)
    : (usages.foldl (fun d u => d.assign u vc) d).fields field =
        (d.fields field).or ((usages.find? (fieldOf vc.usagePage · = some field)).map
          (axisOf field · vc)) := by
  induction usages generalizing d with
  | nil => simp
  | cons u usages ih =>
    rw [List.foldl_cons, ih, fields_assign, Option.or_assoc, List.find?_cons]
    by_cases hu : fieldOf vc.usagePage u = some field
    . simp [hu]
    . simp [hu]

theorem assignRange_eq (hend : vc.usageMax ≠ 0xFFFF) (u : UInt16) (d : HidPDecode) (hpos : 0 < fuel)
    (hfuel : vc.usageMax.toNat + 2 ≤ fuel + u.toNat)
    : assignRange vc fuel u d =
        some (((List.range' u.toNat (vc.usageMax.toNat + 1 - u.toNat)).map UInt16.ofNat).foldl
          (fun d u => d.assign u vc) d) := by
  have hmax : vc.usageMax.toNat ≠ 65535 := fun h => hend (UInt16.toNat_inj.mp h)
  have hlt := vc.usageMax.toNat_lt
  -- the counter is below the bound while the loop runs, so it does not wrap
  induction fuel generalizing u d with
  | zero => omega
  | succ fuel ih =>
    unfold assignRange
    split
    next hle =>
      rw [UInt16.le_iff_toNat_le] at hle
      have hnext : (u + 1).toNat = u.toNat + 1 := by
        rw [UInt16.toNat_add, UInt16.toNat_one]
        omega
      rw [ih (u + 1) _ (by omega) (by omega), hnext]
      rw [show vc.usageMax.toNat + 1 - u.toNat = vc.usageMax.toNat + 1 - (u.toNat + 1) + 1 by omega]
      rw [List.range'_succ, List.map_cons, UInt16.ofNat_toNat, List.foldl_cons]
    next hgt =>
      rw [UInt16.le_iff_toNat_le] at hgt
      rw [show vc.usageMax.toNat + 1 - u.toNat = 0 by omega]
      rfl

theorem assignCaps_eq (hend : vc.Ends) (hfuel : 65536 < fuel) (d : HidPDecode)
    : assignCaps fuel d vc = some (vc.usages.foldl (fun d u => d.assign u vc) d) := by
  unfold assignCaps ValueCaps.usages
  split
  next hrange =>
    have := vc.usageMax.toNat_lt
    exact assignRange_eq (hend hrange) _ d (by omega) (by omega)
  next => rfl

theorem foldlM_assignCaps {vcaps : List ValueCaps} (hends : ∀ vc ∈ vcaps, vc.Ends)
    (hfuel : 65536 < fuel) (d : HidPDecode)
    : ∃ d', vcaps.foldlM (assignCaps fuel) d = some d' ∧
        ∀ field, d'.fields field = (d.fields field).or (vcaps.findSome? (·.covering field)) := by
  induction vcaps generalizing d with
  | nil => exact ⟨d, rfl, by simp⟩
  | cons vc vcaps ih =>
    have hd := assignCaps_eq (hends vc (by simp)) hfuel d
    obtain ⟨d', hd', hfields⟩ := ih (fun vc hvc => hends vc (by simp [hvc])) _
    refine ⟨d', by rw [List.foldlM_cons, hd]; exact hd', ?_⟩
    intro field
    rw [hfields, fields_foldl_assign, Option.or_assoc, List.findSome?_cons, ValueCaps.covering]
    congr 1
    cases (vc.usages.find? _).map _ <;> rfl

theorem fields_takeButtons (d : HidPDecode) (bcaps : List ButtonCaps)
    : (bcaps.foldl takeButtons d).fields = d.fields := by
  induction bcaps generalizing d with
  | nil => rfl
  | cons bc bcaps ih =>
    rw [List.foldl_cons, ih]
    unfold takeButtons
    split <;> rfl

def sticks : ValueCaps :=
  { usagePage := 0x01, isRange := true, usageMin := 0x30, usageMax := 0x31, usage := 0,
    bitSize := 8, logicalMin := 0, logicalMax := 255 }

theorem assignRange_full (hmax : vc.usageMax = 0xFFFF) (fuel : Nat) (u : UInt16) (d : HidPDecode)
    : assignRange vc fuel u d = none := by
  induction fuel generalizing u d with
  | zero => rfl
  | succ fuel ih =>
    unfold assignRange
    rw [if_pos, ih]
    rw [hmax, UInt16.le_iff_toNat_le]
    have := u.toNat_lt
    exact Nat.le_of_lt_succ this

end HidPDecode

end UsbHid
