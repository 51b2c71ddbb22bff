import Mathlib
import Dish.Slots.Lemmas.Claims
import Dish.Usb.GamepadManager

/-!
This module contains who goes by a slot id.
-/

open Std Reducer Audio Connection

namespace Slots

variable {m : AppModel} {model : UInt16 × UInt16} {pads : List SdlPad} {slotId : String}

theorem isDigit_or_of_mem_toString {key : Int} {ch : Char} (h : ch ∈ (toString key).toList)
    : ch.isDigit ∨ ch = '-' := by
  cases key with
  | ofNat n =>
    have htext : toString (Int.ofNat n) = n.repr := rfl
    rw [htext, Nat.repr_eq_ofList_toDigits, String.toList_ofList] at h
    exact .inl (Nat.isDigit_of_mem_toDigits (by decide) (by decide) h)
  | negSucc n =>
    have htext : toString (Int.negSucc n) = "-" ++ (n + 1).repr := rfl
    rw [htext, String.toList_append] at h
    obtain hsign | hdigit := List.mem_append.mp h
    next => exact .inr (by simpa using hsign)
    next =>
      rw [Nat.repr_eq_ofList_toDigits, String.toList_ofList] at hdigit
      exact .inl (Nat.isDigit_of_mem_toDigits (by decide) (by decide) hdigit)

theorem s_mem_sdlId (iid : Nat) : 's' ∈ (sdlId iid).toList := by
  unfold sdlId
  rw [String.toList_append]
  exact List.mem_append_left _ (by decide)

theorem sdlId_ne_toString (iid : Nat) (key : Int) : sdlId iid ≠ toString key := by
  intro h
  have hletter := s_mem_sdlId iid
  rw [h] at hletter
  obtain hdigit | hsign := isDigit_or_of_mem_toString hletter
  next => exact absurd hdigit (by decide)
  next => exact absurd hsign (by decide)

theorem sdlId_inj {iid iid' : Nat} (h : sdlId iid = sdlId iid') : iid = iid' := by
  unfold sdlId at h
  exact Nat.repr_inj.mp ((String.append_right_inj _).mp h)

theorem parseSyntheticSlotId_of_mem {id : String} {ch : Char} (hmem : ch ∈ id.toList)
    (hch : ch.isDigit = false)
    : parseSyntheticSlotId id = none := by
  have hletter : id.toList.any (fun ch => !ch.isDigit) = true :=
    List.any_eq_true.mpr ⟨ch, hmem, by simp [hch]⟩
  unfold parseSyntheticSlotId
  dsimp only
  rw [if_pos hletter, ite_self]

theorem parseSyntheticSlotId_sdlId (iid : Nat) : parseSyntheticSlotId (sdlId iid) = none :=
  parseSyntheticSlotId_of_mem (s_mem_sdlId iid) (by decide)

theorem vpKey_eq_slotPathVpKey (v p : UInt16) : Usb.vpKey v p = slotPathVpKey v p := by
  have hbits : (v.toUInt32 <<< 16 ||| p.toUInt32).toBitVec =
      (v.toBitVec.setWidth 32 <<< 16) ||| p.toBitVec.setWidth 32 := by
    simp [UInt32.toBitVec_or, UInt32.toBitVec_shiftLeft]
  have hint : Usb.vpKey v p = (v.toUInt32 <<< 16 ||| p.toUInt32).toBitVec.toInt := rfl
  rw [hint, hbits]
  rfl

def names (pads : List SdlPad) (slotId : String) (model : UInt16 × UInt16) : Bool :=
  (pads.zipIdx.any fun (p, iid) => slotId = sdlId iid ∧ (p.vendorId, p.productId) = model) ||
    slotId = toString (slotPathVpKey model.1 model.2)

theorem names_iff
    : names pads slotId model ↔
      (∃ (iid : Nat) (p : SdlPad), pads[iid]? = some p ∧ slotId = sdlId iid ∧
        (p.vendorId, p.productId) = model) ∨
      slotId = toString (slotPathVpKey model.1 model.2) := by
  simp only [names, Bool.or_eq_true, List.any_eq_true, decide_eq_true_eq, Prod.exists,
    List.mem_zipIdx_iff_getElem?]
  constructor
  next =>
    rintro (⟨p, iid, hp, hid⟩ | hkey)
    next => exact .inl ⟨iid, p, hp, hid⟩
    next => exact .inr hkey
  next =>
    rintro (⟨iid, p, hp, hid⟩ | hkey)
    next => exact .inl ⟨p, iid, hp, hid⟩
    next => exact .inr hkey

theorem names_unique {model' : UInt16 × UInt16}
    (h : names pads slotId model) (h' : names pads slotId model')
    : model = model' := by
  obtain ⟨iid, p, hp, hid, hmodel⟩ | hkey := names_iff.mp h
  next =>
    obtain ⟨iid', p', hp', hid', hmodel'⟩ | hkey' := names_iff.mp h'
    next =>
      have hiid : iid = iid' := sdlId_inj (hid.symm.trans hid')
      rw [hiid] at hp
      rw [← hmodel, ← hmodel', Option.some.inj (hp.symm.trans hp')]
    next => exact absurd (hid.symm.trans hkey') (sdlId_ne_toString iid _)
  next =>
    obtain ⟨iid', p', hp', hid', hmodel'⟩ | hkey' := names_iff.mp h'
    next => exact absurd (hid'.symm.trans hkey) (sdlId_ne_toString iid' _)
    next => exact slotPathVpKey_inj (Int.repr_inj.mp (hkey.symm.trans hkey'))

theorem names_append (h : names pads slotId model) (p : SdlPad)
    : names (pads ++ [p]) slotId model := by
  obtain ⟨iid, q, hq, hid⟩ | hkey := names_iff.mp h
  next =>
    apply names_iff.mpr
    left
    refine ⟨iid, q, ?_, hid⟩
    rw [List.getElem?_append_left (List.getElem?_eq_some_iff.mp hq).1]
    exact hq
  next => exact names_iff.mpr (.inr hkey)

theorem names_modify {iid : Nat}
    : names (pads.modify iid fun p => { p with opened := false }) slotId model
      = names pads slotId model := by
  rw [Bool.eq_iff_iff, names_iff, names_iff]
  refine or_congr_left ?_
  simp only [List.getElem?_modify]
  constructor
  next =>
    rintro ⟨other, p', hp', hid, hmodel⟩
    obtain ⟨p, hp, rfl⟩ := Option.map_eq_some_iff.mp hp'
    refine ⟨other, p, hp, hid, ?_⟩
    split at hmodel <;> exact hmodel
  next =>
    rintro ⟨other, p, hp, hid, hmodel⟩
    refine ⟨other, _, Option.map_eq_some_iff.mpr ⟨p, hp, rfl⟩, hid, ?_⟩
    split <;> exact hmodel

namespace AppModel

theorem names_of_mem_devices {d : Device} (h : d ∈ m.devices)
    : names m.pads d.id (d.vendorId, d.productId) := by
  unfold devices at h
  obtain ⟨⟨p, iid⟩, hp, hd⟩ := List.mem_filterMap.mp h
  rw [List.mem_zipIdx_iff_getElem?] at hp
  dsimp only at hd
  split at hd
  next =>
    cases hd
    exact names_iff.mpr (.inl ⟨iid, p, hp, rfl, rfl⟩)
  next => cases hd

theorem names_slotOfTracked (hclaims : m.ClaimsSound) {key : Int} {t : Tracked}
    (h : (key, t) ∈ m.controllers.toList)
    : names m.pads (toString key) (t.controller.vendorId, t.controller.productId) := by
  rw [TreeMap.mem_toList_iff_getElem?_eq_some] at h
  apply names_iff.mpr
  right
  rw [(hclaims key t h).key_eq]

theorem names_of_mem_shownSlots (hclaims : m.ClaimsSound) {slot : ControllerSlot}
    (h : slot ∈ m.shownSlots)
    : names m.pads slot.id (slot.vendorId, slot.productId) := by
  unfold shownSlots at h
  obtain hmem | hmem := List.mem_append.mp h
  next =>
    obtain hsdl | hdirect := List.mem_append.mp hmem
    next =>
      unfold appendSdlSlots at hsdl
      obtain ⟨d, hd, rfl⟩ := List.mem_map.mp hsdl
      exact names_of_mem_devices (List.mem_of_mem_filter hd)
    next =>
      unfold appendDirectSlots at hdirect
      obtain ⟨⟨key, t⟩, ht, rfl⟩ := List.mem_map.mp hdirect
      exact names_slotOfTracked hclaims (List.mem_of_mem_filter ht)
  next =>
    unfold appendAwaitingClaimSlots at hmem
    obtain ⟨⟨key, t⟩, ht, rfl⟩ := List.mem_map.mp hmem
    exact names_slotOfTracked hclaims (List.mem_of_mem_filter ht)

theorem names_of_boundPadIdentity
    (hpresent : ∀ s ∈ m.presentPads, names m.pads s.id (s.vendorId, s.productId))
    {before : UInt16 × UInt16} (hbefore : names m.pads slotId before)
    (h : m.boundPadIdentity slotId = some model)
    : names m.pads slotId model := by
  unfold boundPadIdentity padIdentityFor padIdentityOf at h
  split at h
  next identity hidentity =>
    cases h
    obtain ⟨hfound, _⟩ := Option.filter_eq_some_iff.mp hidentity
    obtain ⟨s, hs, hmodel⟩ := Option.map_eq_some_iff.mp hfound
    have hid : s.id = slotId := by simpa using List.find?_some hs
    rw [← hid, ← hmodel]
    exact hpresent s (List.mem_of_find?_eq_some hs)
  next =>
    split at h
    next d hd =>
      obtain ⟨hmodel, _⟩ := Option.filter_eq_some_iff.mp h
      have hid : d.id = slotId := by simpa using List.find?_some hd
      rw [← hid, ← Option.some.inj hmodel]
      exact names_of_mem_devices (List.mem_of_find?_eq_some hd)
    next =>
      obtain ⟨hparsed, _⟩ := Option.filter_eq_some_iff.mp h
      obtain ⟨iid, p, _, hid, _⟩ | hkey := names_iff.mp hbefore
      next =>
        rw [hid, parseSyntheticSlotId_sdlId] at hparsed
        cases hparsed
      next =>
        have hmodel : model = before := by
          rw [hkey] at hparsed
          exact of_parseSyntheticSlotId hparsed
        rw [hmodel]
        exact hbefore

end AppModel

end Slots
