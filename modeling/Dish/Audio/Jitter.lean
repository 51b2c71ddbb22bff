import Dish.Lib.Wrapping

/-!
This module contains the reorder window of one audio stream and the speaker voice that feeds it.
-/

namespace Audio

def audioJitterWindowFrames : Nat := 2

def audioJitterMaxConcealFrames : Nat := 2

def audioJitterMaxPacketBytes : Nat := 1500

def audioJitterMaxEventsPerPush : Nat :=
  audioJitterWindowFrames * (audioJitterMaxConcealFrames + 1)

namespace AudioJitterWindow

inductive Event where
  | packet (seq : UInt16) (data : List UInt8)
  | gap (seq : UInt16) (fecCarrier : Option (List UInt8))
deriving DecidableEq

inductive Accept where
  | ok
  | late
  | duplicate
  | rejected
deriving DecidableEq

structure Result where
  accept : Accept := .ok
  events : List Event := []
deriving DecidableEq

structure Slot where
  seq : UInt16
  bytes : List UInt8
deriving DecidableEq

end AudioJitterWindow

open AudioJitterWindow

structure AudioJitterWindow where
  slots : List Slot := []
  primed : Bool := false
  next : UInt16 := 0
  consecutiveGaps : Nat := 0
deriving DecidableEq

namespace AudioJitterWindow

def deltaFromNext (w : AudioJitterWindow) (seq : UInt16) : Int :=
  Wrapping.ahead seq w.next

def usedSlots (w : AudioJitterWindow) : Nat :=
  w.slots.length

def find (w : AudioJitterWindow) (seq : UInt16) : Option Slot :=
  w.slots.find? (·.seq == seq)

def maxAhead (w : AudioJitterWindow) : Int :=
  w.slots.foldl (fun best s => if w.deltaFromNext s.seq > best then w.deltaFromNext s.seq else best)
    (-1)

def oldestHeld (w : AudioJitterWindow) : Option Slot :=
  w.slots.foldl (fun best s =>
    match best with
    | none => some s
    | some b => if w.deltaFromNext s.seq < w.deltaFromNext b.seq then some s else some b) none

def release (w : AudioJitterWindow) (due : Slot) : AudioJitterWindow :=
  { w with slots := w.slots.erase due, next := w.next + 1, consecutiveGaps := 0 }

def drain : Nat → AudioJitterWindow → List Event × AudioJitterWindow
  | 0, w => ([], w)
  | room + 1, w =>
    match w.find w.next with
    | some due =>
      let (events, w) := drain room (w.release due)
      (.packet due.seq due.bytes :: events, w)
    | none =>
      -- Nothing is far enough ahead to prove a loss: the frame may still be one hop behind.
      if w.maxAhead < audioJitterWindowFrames then
        ([], w)
      else if audioJitterMaxConcealFrames ≤ w.consecutiveGaps then
        match w.oldestHeld with
        | none => ([], w)
        | some resume =>
          -- The loop goes round without an event, and `resume` is due in its next pass.
          let (events, w) := drain room ({ w with next := resume.seq }.release resume)
          (.packet resume.seq resume.bytes :: events, w)
      else
        let carrier := w.find (w.next + 1)
        let (events, w') := drain room
          { w with next := w.next + 1, consecutiveGaps := w.consecutiveGaps + 1 }
        (.gap w.next (carrier.map (·.bytes)) :: events, w')

def prime (w : AudioJitterWindow) (seq : UInt16) : AudioJitterWindow :=
  if w.primed then w else { w with primed := true, next := seq, consecutiveGaps := 0 }

def push (w : AudioJitterWindow) (seq : UInt16) (data : List UInt8) : Result × AudioJitterWindow :=
  if data.length = 0 ∨ audioJitterMaxPacketBytes < data.length then
    ({ accept := .rejected }, w)
  else
    let w := w.prime seq
    let delta := w.deltaFromNext seq
    if delta < 0 then
      ({ accept := .late }, w)
    else if delta = 0 ∧ w.usedSlots = 0 then
      ({ events := [.packet seq data] }, { w with next := w.next + 1, consecutiveGaps := 0 })
    else if (w.find seq).isSome then
      ({ accept := .duplicate }, w)
    else if audioJitterWindowFrames ≤ w.usedSlots then
      ({ accept := .rejected }, w)
    else
      let (events, w) :=
        drain audioJitterMaxEventsPerPush { w with slots := w.slots ++ [⟨seq, data⟩] }
      ({ events }, w)

def reset (w : AudioJitterWindow) : AudioJitterWindow :=
  { w with primed := false, next := 0, consecutiveGaps := 0, slots := [] }

end AudioJitterWindow

def kPlayoutLateRunRestart : Nat := 10

def playoutRestartNeeded (lateRun : Nat) : Bool :=
  decide (kPlayoutLateRunRestart ≤ lateRun)

structure Voice where
  window : AudioJitterWindow := {}
  lateRun : Nat := 0
deriving DecidableEq

def Voice.decodeAndQueue (voice : Voice) (seq : UInt16) (opus : List UInt8) : List Event × Voice :=
  let (result, window) := voice.window.push seq opus
  match result.accept with
  | .ok => (result.events, { window, lateRun := 0 })
  | .late =>
    let lateRun := voice.lateRun + 1
    if ¬ playoutRestartNeeded lateRun then
      ([], { window, lateRun })
    else
      let (result, window) := window.reset.push seq opus
      (result.events, { window, lateRun := 0 })
  | .duplicate => (result.events, { voice with window })
  | .rejected => (result.events, { voice with window })

end Audio
