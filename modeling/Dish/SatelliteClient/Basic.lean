import Dish.Lib.Seqlock
import Dish.Wire.SessionCrypto
import Dish.Reducer.Reconcile

/-!
This module contains the state of the encrypted UDP session to one satellite, as its senders, the
receive thread and a re-key share it.
-/

open Seqlock

namespace SatelliteClient

def kAuthTag : Nat := 16
def kInnerHeaderSize : Nat := 4
def kUdpMaxInnerPayloadBytes : Nat := 1472

abbrev Word := Vector UInt8 8

abbrev Key := Vector UInt8 32

structure Material where
  token : Vector UInt8 4
  key : Key
  deriving DecidableEq

namespace Material

abbrev kWords : Nat := 5

def byteAt (m : Material) (i : Nat) : UInt8 :=
  if h : i < 4 then
    m.token[i]
  else if h : i - 4 < 32 then
    m.key[i - 4]
  else
    0

def toWords (m : Material) : Fin kWords → Word :=
  fun i => Vector.ofFn fun (j : Fin 8) => m.byteAt (8 * i + j)

def ofWords (words : Nat → Word) : Material where
  token := Vector.ofFn fun (i : Fin 4) => (words (i / 8))[i.val % 8]
  key := Vector.ofFn fun (i : Fin 32) => (words ((i + 4) / 8))[(i.val + 4) % 8]

theorem ofWords_toWords (m : Material) {words : Nat → Word}
    (h : ∀ (i : Nat) (hi : i < kWords), words i = m.toWords ⟨i, hi⟩)
    : ofWords words = m := by
  have hword : ∀ i (hi : i < 40), (words (i / 8))[i % 8] = m.byteAt i := by
    intro i hi
    rw [h (i / 8) (by unfold kWords; omega)]
    unfold toWords
    rw [Vector.getElem_ofFn]
    simp only [Nat.div_add_mod]
  cases m with
  | mk token key =>
    simp only [ofWords, mk.injEq]
    constructor
    . ext i hi
      simp only [Vector.getElem_ofFn]
      rw [hword i (by omega)]
      simp [byteAt, hi]
    . ext i hi
      simp only [Vector.getElem_ofFn]
      rw [hword (i + 4) (by omega)]
      have : ¬ i + 4 < 4 := by omega
      simp [byteAt, this, hi]

def zero : Material where
  token := Vector.replicate 4 0
  key := Vector.replicate 32 0

end Material

structure Message where
  msgType : UInt16
  payload : List UInt8

inductive Sender where
  | idle
  | called (msg : Message)
  | seen (msg : Message) (generation : UInt32) (at_ : Nat)
  | reading (msg : Message) (r : Reader Word)
  | copied (msg : Message) (r : Reader Word)
  | gated (msg : Message) (r : Reader Word)
  | drew (msg : Message) (r : Reader Word) (sequence : UInt64)
  | checked (msg : Message) (r : Reader Word) (sequence : UInt64) (ctr : UInt32)
  | leaving

structure Datagram where
  token : Vector UInt8 4
  counter : UInt32
  body : List UInt8
  deriving DecidableEq

inductive Receiver where
  | idle
  | received (d : Datagram)
  | seen (d : Datagram) (generation : UInt32) (at_ : Nat)
  | reading (d : Datagram) (r : Reader Word)
  | copied (d : Datagram) (r : Reader Word)
  | opened (d : Datagram) (r : Reader Word) (mark : UInt64) (plain : List UInt8)
  | accepted (d : Datagram) (r : Reader Word) (plain : List UInt8)

inductive Stage where
  | locked
  | writing (stored : Nat)
  | counterReset
  | marked
  deriving DecidableEq

structure Rekey where
  material : Material
  written : UInt32
  stage : Stage

/-- `install` is the number of re-keys before the one that installed the key. -/
structure Sealed where
  install : Nat
  key : Key
  counter : UInt32
  token : Vector UInt8 4
  inner : List UInt8
  sent : Bool

structure Dispatched where
  install : Nat
  rekeys : Nat
  key : Key
  datagram : Datagram
  msgType : UInt16
  body : List UInt8
  deriving DecidableEq

structure State where
  cell : Cell Material.kWords Word
  sendCounter : UInt64
  sendGate : Bool
  recvMark : UInt64
  sock : Bool
  senders : Nat → Sender
  receiver : Receiver
  rekey : Option Rekey
  installed : List Material
  sealed : List Sealed
  dispatched : List Dispatched

def State.init : State where
  cell := { gen := 0, words := Material.zero.toWords, ticks := 0 }
  sendCounter := 1
  sendGate := false
  recvMark := 0
  sock := false
  senders := fun _ => .idle
  receiver := .idle
  rekey := none
  installed := [Material.zero]
  sealed := []
  dispatched := []

end SatelliteClient
