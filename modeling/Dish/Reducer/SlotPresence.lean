import Mathlib.Data.List.Sort

/-!
This module contains the rules over slot ids and over the bindings that still have a pad.
-/

open Std

namespace Reducer

variable {n : Nat} {p v : UInt16}

def slotPathVpKey (vendorId productId : UInt16) : Int :=
  ((vendorId.toBitVec.setWidth 32 <<< 16) ||| productId.toBitVec.setWidth 32).toInt

def parseSyntheticSlotId (id : String) : Option (UInt16 × UInt16) :=
  let chars := id.toList
  if chars.isEmpty then
    none
  else if chars.any (fun ch => !ch.isDigit) then
    none
  else if chars.length > 10 then
    none
  else
    let key := Nat.ofDigitChars 10 chars 0
    if key > 0xFFFFFFFF then
      none
    else
      some (UInt16.ofNat (key >>> 16 &&& 0xFFFF), UInt16.ofNat (key &&& 0xFFFF))

def padIdentityOf (identity : Option (UInt16 × UInt16)) : Option (UInt16 × UInt16) :=
  identity.filter (· ≠ (0, 0))

structure PresentSlot where
  id : String
  vendorId : UInt16
  productId : UInt16
  deriving DecidableEq

structure BoundSlot where
  slotId : String
  connId : String
  identity : Option (UInt16 × UInt16)
  deriving DecidableEq

inductive BindingPresenceKind where
  | Unbind
  | Migrate
  deriving DecidableEq

structure BindingPresenceAction where
  kind : BindingPresenceKind
  slotId : String
  toSlotId : String
  connId : String
  deriving DecidableEq

def padIdentityFor (slotId : String) (present : List PresentSlot) : Option (UInt16 × UInt16) :=
  padIdentityOf ((present.find? (·.id = slotId)).map fun s => (s.vendorId, s.productId))

def twinOf (present : List PresentSlot) (bindings : List BoundSlot)
    (identity : Option (UInt16 × UInt16))
    : Option PresentSlot :=
  (padIdentityOf identity).bind fun pad => present.find? fun candidate =>
    (candidate.vendorId, candidate.productId) = pad ∧ ∀ b ∈ bindings, b.slotId ≠ candidate.id

def resolveBindingPresence (present : List PresentSlot) (bindings : List BoundSlot)
    : List BindingPresenceAction :=
  let bySlotId : TreeMap String BoundSlot :=
    bindings.foldl (fun table b => table.insertIfNew b.slotId b) ∅
  bySlotId.toList.filterMap fun (slotId, binding) =>
    if ∃ s ∈ present, s.id = slotId then
      none
    else
      match twinOf present bindings binding.identity with
      | some twin =>
        some { kind := .Migrate, slotId, toSlotId := twin.id, connId := binding.connId }
      | none => some { kind := .Unbind, slotId, toSlotId := "", connId := binding.connId }

structure SyntheticTwin where
  vendorId : UInt16
  productId : UInt16
  deriving DecidableEq

structure RoutedDevice where
  id : String
  vendorId : UInt16
  productId : UInt16
  disconnecting : Bool
  bluetooth : Bool
  deriving DecidableEq

def twinModelKey (vendorId productId : UInt16) : Nat :=
  vendorId.toNat <<< 32 ||| productId.toNat

def RoutedDevice.rank (d : RoutedDevice) : Nat :=
  (if d.bluetooth then 2 else 0) + (if d.disconnecting then 0 else 1)

def suppressedRoutedIds (synthetics : List SyntheticTwin) (routed : List RoutedDevice)
    : List String :=
  let models := (synthetics.filter fun s => s.vendorId ≠ 0 ∧ s.productId ≠ 0).map fun s =>
    twinModelKey s.vendorId s.productId
  models.dedup.flatMap fun key =>
    let group := routed.filter fun r => twinModelKey r.vendorId r.productId = key
    ((group.mergeSort fun a b => a.rank ≤ b.rank).take (models.count key)).map (·.id)

theorem toNat_packed (v p : UInt16)
    : ((v.toBitVec.setWidth 32 <<< 16) ||| p.toBitVec.setWidth 32).toNat
      = v.toNat * 65536 + p.toNat := by
  have hv := v.toNat_lt
  have hp := p.toNat_lt
  rw [BitVec.toNat_or, BitVec.toNat_shiftLeft, BitVec.toNat_setWidth, BitVec.toNat_setWidth]
  simp only [UInt16.toNat_toBitVec]
  rw [Nat.mod_eq_of_lt (by omega : v.toNat < 2 ^ 32)]
  rw [Nat.mod_eq_of_lt (by omega : p.toNat < 2 ^ 32)]
  rw [Nat.mod_eq_of_lt (by rw [Nat.shiftLeft_eq]; omega)]
  rw [← Nat.shiftLeft_add_eq_or_of_lt hp]
  rw [Nat.shiftLeft_eq]

theorem slotPathVpKey_inj {v' p' : UInt16} (h : slotPathVpKey v p = slotPathVpKey v' p')
    : (v, p) = (v', p') := by
  have hbits := congrArg BitVec.toNat (BitVec.toInt_inj.mp h)
  rw [toNat_packed, toNat_packed] at hbits
  have hp := p.toNat_lt
  have hp' := p'.toNat_lt
  have hvv : v.toNat = v'.toNat := by omega
  have hpp : p.toNat = p'.toNat := by omega
  rw [UInt16.toNat_inj.mp hvv]
  rw [UInt16.toNat_inj.mp hpp]

theorem eq_packed_of_slotPathVpKey (h : slotPathVpKey v p = n)
    : n = v.toNat * 65536 + p.toNat := by
  unfold slotPathVpKey at h
  rw [BitVec.toInt_eq_toNat_cond, toNat_packed] at h
  have hv := v.toNat_lt
  have hp := p.toNat_lt
  split at h <;> omega

theorem of_parseSyntheticSlotId_repr {pad : UInt16 × UInt16}
    (h : parseSyntheticSlotId n.repr = some pad)
    : pad = (UInt16.ofNat (n >>> 16 &&& 0xFFFF), UInt16.ofNat (n &&& 0xFFFF)) := by
  unfold parseSyntheticSlotId at h
  rw [Nat.repr_eq_ofList_toDigits, String.toList_ofList] at h
  dsimp only at h
  rw [Nat.ofDigitChars_ten_toDigits] at h
  grind

theorem parseSyntheticSlotId_repr (h : n ≤ 0xFFFFFFFF)
    : parseSyntheticSlotId n.repr =
        some (UInt16.ofNat (n >>> 16 &&& 0xFFFF), UInt16.ofNat (n &&& 0xFFFF)) := by
  have hdigits : ¬ (Nat.toDigits 10 n).any (fun ch => !ch.isDigit) = true := by
    rw [List.any_eq_true]
    rintro ⟨ch, hch, hother⟩
    simp [Nat.isDigit_of_mem_toDigits (by decide) (by decide) hch] at hother
  have hlength : ¬ (Nat.toDigits 10 n).length > 10 := by
    rw [Nat.not_lt, Nat.length_toDigits_le_iff (by decide) (by decide)]
    omega
  have hkey : ¬ n > 0xFFFFFFFF := Nat.not_lt.mpr h
  unfold parseSyntheticSlotId
  rw [Nat.repr_eq_ofList_toDigits, String.toList_ofList]
  dsimp only
  rw [Nat.ofDigitChars_ten_toDigits, if_neg hdigits, if_neg hlength, if_neg hkey]
  simp [Nat.toDigits_ne_nil]

theorem unpack (v p : UInt16)
    : UInt16.ofNat ((v.toNat * 65536 + p.toNat) >>> 16 &&& 0xFFFF) = v ∧
        UInt16.ofNat ((v.toNat * 65536 + p.toNat) &&& 0xFFFF) = p := by
  have hp := p.toNat_lt
  have hv := v.toNat_lt
  have hlow : (v.toNat * 65536 + p.toNat) &&& 0xFFFF = p.toNat := by
    rw [Nat.and_two_pow_sub_one_eq_mod _ 16]
    omega
  have hhigh : (v.toNat * 65536 + p.toNat) >>> 16 &&& 0xFFFF = v.toNat := by
    rw [Nat.and_two_pow_sub_one_eq_mod _ 16, Nat.shiftRight_eq_div_pow]
    omega
  rw [hlow, hhigh]
  simp

theorem of_parseSyntheticSlotId {pad : UInt16 × UInt16}
    (h : parseSyntheticSlotId (toString (slotPathVpKey v p)) = some pad)
    : pad = (v, p) := by
  cases hkey : slotPathVpKey v p with
  | ofNat n =>
    have hn : n = v.toNat * 65536 + p.toNat := eq_packed_of_slotPathVpKey hkey
    rw [hkey] at h
    rw [of_parseSyntheticSlotId_repr (n := n) h, hn, (unpack v p).1, (unpack v p).2]
  | negSucc n =>
    rw [hkey] at h
    have hneg : toString (Int.negSucc n) = "-" ++ Nat.repr (n + 1) := rfl
    rw [hneg] at h
    simp [parseSyntheticSlotId] at h

theorem parseSyntheticSlotId_slotPathVpKey (hv : v < 0x8000)
    : parseSyntheticSlotId (toString (slotPathVpKey v p)) = some (v, p) := by
  have hlow : v.toNat < 0x8000 := hv
  have hp := p.toNat_lt
  have hkey : slotPathVpKey v p = Int.ofNat (v.toNat * 65536 + p.toNat) := by
    unfold slotPathVpKey
    rw [BitVec.toInt_eq_toNat_cond, toNat_packed, if_pos (by omega)]
    rfl
  have htext : toString (slotPathVpKey v p) = (v.toNat * 65536 + p.toNat).repr := by
    rw [hkey]
    rfl
  rw [htext, parseSyntheticSlotId_repr (by omega), (unpack v p).1, (unpack v p).2]

theorem mem_of_bySlotId {bindings : List BoundSlot} {table : TreeMap String BoundSlot}
    {slotId : String} {b : BoundSlot}
    (h : (bindings.foldl (fun table b => table.insertIfNew b.slotId b) table)[slotId]? = some b)
    : table[slotId]? = some b ∨ (b ∈ bindings ∧ b.slotId = slotId) := by
  induction bindings generalizing table with
  | nil => exact .inl h
  | cons c rest ih =>
    rw [List.foldl_cons] at h
    obtain htable | ⟨hmem, hid⟩ := ih h
    next =>
      rw [TreeMap.getElem?_insertIfNew] at htable
      grind
    next => exact .inr ⟨List.mem_cons_of_mem _ hmem, hid⟩

theorem of_mem_resolveBindingPresence {present : List PresentSlot} {bindings : List BoundSlot}
    {a : BindingPresenceAction} (h : a ∈ resolveBindingPresence present bindings)
    : ∃ b ∈ bindings, b.slotId = a.slotId ∧ (∀ s ∈ present, s.id ≠ a.slotId) ∧
      (a.kind = .Migrate → ∃ twin ∈ present, twin.id = a.toSlotId ∧
        b.identity = some (twin.vendorId, twin.productId)) := by
  unfold resolveBindingPresence at h
  obtain ⟨⟨slotId, b⟩, hmem, ha⟩ := List.mem_filterMap.mp h
  rw [TreeMap.mem_toList_iff_getElem?_eq_some] at hmem
  obtain htable | ⟨hb, hid⟩ := mem_of_bySlotId hmem
  next => simp at htable
  next =>
    dsimp only at ha
    split at ha
    next => cases ha
    next habsent =>
      push Not at habsent
      refine ⟨b, hb, ?_⟩
      split at ha
      next twin htwin =>
        cases ha
        refine ⟨hid, habsent, ?_⟩
        intro _
        simp only [twinOf, Option.bind_eq_some_iff, padIdentityOf, Option.filter_eq_some_iff]
          at htwin
        obtain ⟨pad, ⟨hpad, _⟩, hfind⟩ := htwin
        have hsame := List.find?_some hfind
        simp only [decide_eq_true_eq] at hsame
        refine ⟨twin, List.mem_of_find?_eq_some hfind, rfl, ?_⟩
        rw [hpad]
        rw [hsame.1]
      next =>
        cases ha
        exact ⟨hid, habsent, fun hkind => nomatch hkind⟩

end Reducer
