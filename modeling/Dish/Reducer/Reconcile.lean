import Mathlib.Algebra.Group.Nat.Defs
import Mathlib.Data.List.Sort

/-!
This module contains the self-heal loop of a declarative session.
-/

namespace Reducer

structure DesiredSlot where
  ctrlIdx : UInt8
  type : UInt8
  touchpadMode : UInt8 := 2
  deriving DecidableEq

structure AppliedSlot where
  ctrlIdx : UInt8
  appliedType : UInt8
  active : Bool := true
  touchpadMode : Option UInt8
  deriving DecidableEq

def expectedBitmap (registered : List DesiredSlot) : UInt16 :=
  registered.foldl (fun (bitmap : UInt16) (s : DesiredSlot) =>
    if s.ctrlIdx ≤ (15 : UInt8) then bitmap ||| ((1 : UInt16) <<< s.ctrlIdx.toUInt16) else bitmap) 0

def reconcileNeeded (serverEpoch serverBitmap lastAppliedEpoch : Int) (expected : UInt16) : Bool :=
  if serverEpoch < 0 then
    false
  else if serverEpoch ≠ lastAppliedEpoch then
    true
  else
    decide (0 ≤ serverBitmap) && UInt16.ofNat serverBitmap.toNat != expected

def entryAt (slots : List DesiredSlot) (ctrlIdx : UInt8) : Option DesiredSlot :=
  slots.reverse.find? fun s => s.ctrlIdx = ctrlIdx

def entryCount (slots : List DesiredSlot) : Nat :=
  (slots.map (·.ctrlIdx)).dedup.length

def appliedMatchesDesired (desired : List DesiredSlot) (applied : List AppliedSlot)
    (mouseWantsVsGrantedMatch : Bool)
    : Bool :=
  if mouseWantsVsGrantedMatch then go applied 0 else false
where
  go : List AppliedSlot → Nat → Bool
    | [], activeCount => activeCount == entryCount desired
    | a :: rest, activeCount =>
      if a.active then
        match entryAt desired a.ctrlIdx with
        | none => false
        | some want =>
          if want.type ≠ a.appliedType then
            false
          else if a.touchpadMode.isSome ∧ a.touchpadMode ≠ some want.touchpadMode then
            false
          else
            go rest (activeCount + 1)
      else
        go rest activeCount

structure LateConverge where
  resyncs : List UInt8
  removes : List UInt8
  deriving DecidableEq

def lateSlotConverge (sent desired : List DesiredSlot) : LateConverge where
  resyncs :=
    (desired.filter fun d => (entryAt sent d.ctrlIdx).map (·.type) ≠ some d.type).map (·.ctrlIdx)
      |>.insertionSort (· ≤ ·)
  removes :=
    (sent.filter fun s => (entryAt desired s.ctrlIdx).isNone).map (·.ctrlIdx)
      |>.insertionSort (· ≤ ·)

def kCounterRepushThreshold : UInt32 := 0xF0000000

def counterNeedsRepush (sendCounter : UInt32) : Bool :=
  sendCounter ≥ kCounterRepushThreshold

def kCounterWireMax : UInt64 := 0xFFFFFFFF

def wireSendCounter (sequence : UInt64) : Option UInt32 :=
  if sequence > kCounterWireMax then none else some sequence.toUInt32

def clampedSendCounter (sequence : UInt64) : UInt32 :=
  (min sequence kCounterWireMax).toUInt32

theorem wireSendCounter_eq_some {sequence : UInt64} {counter : UInt32}
    (h : wireSendCounter sequence = some counter)
    : counter.toNat = sequence.toNat := by
  unfold wireSendCounter at h
  split at h
  . contradiction
  . next hle =>
    simp only [kCounterWireMax, gt_iff_lt, UInt64.not_lt, UInt64.le_iff_toNat_le,
      UInt64.reduceToNat] at hle
    cases h
    rw [UInt64.toNat_toUInt32]
    omega

theorem wireSendCounter_eq_none {sequence : UInt64} (h : 2 ^ 32 ≤ sequence.toNat)
    : wireSendCounter sequence = none := by
  unfold wireSendCounter
  rw [if_pos]
  simp only [kCounterWireMax, gt_iff_lt, UInt64.lt_iff_toNat_lt, UInt64.reduceToNat]
  omega

end Reducer
