import Mathlib.Data.Fintype.Basic
import Mathlib.Tactic.FinCases
import Dish.SatelliteClient.Lemmas.Send

/-!
This module contains what a thread of the session does when nothing comes between its steps.
-/

open Seqlock Wire Reducer Transition

namespace SatelliteClient

variable {i : Nat} {msg : Message} {r : Reader Word}

def setConnectionParams (m : Material) : List Action :=
  [.lock m, .beginWrite, .storeWord, .storeWord, .storeWord, .storeWord, .storeWord, .resetCounter,
    .storeMark, .endWrite].map .rekey

def readMaterial (i : Nat) (msg : Message) : List Action :=
  [.call msg, .loadGeneration, .openRead, .loadWord, .loadWord, .loadWord, .loadWord, .loadWord,
    .closeRead].map (.sender i)

def sealAndSend (i : Nat) : List Action :=
  [.holdSendGate, .draw, .check, .seal true true, .releaseSendGate].map (.sender i)

def openPacket (d : Datagram) : List Action :=
  [.receive d, .loadGeneration, .openRead, .loadWord, .loadWord, .loadWord, .loadWord, .loadWord,
    .closeRead, .loadMark].map .receiver

def takePacket : List Action :=
  [.swapMark, .dispatch].map .receiver

def numbered (k : Nat) : Material where
  token := Vector.replicate 4 0
  key := ⟨(putU32Be (UInt32.ofNat k) ++ List.replicate 28 0).toArray, by simp⟩

namespace State

variable {s s' : State} {sodium : Sodium}

@[simp]
theorem setSender_setSender (s : State) (i : Nat) (t t' : Sender)
    : (s.setSender i t).setSender i t' = s.setSender i t' := by
  simp only [setSender, State.mk.injEq, true_and, and_true]
  funext j
  split <;> rfl

@[simp]
theorem setSender_cell (s : State) (i : Nat) (t : Sender) : (s.setSender i t).cell = s.cell := by
  rfl

@[simp]
theorem setSender_sock (s : State) (i : Nat) (t : Sender) : (s.setSender i t).sock = s.sock := by
  rfl

def install (s : State) (m : Material) : State :=
  { s with
    cell := { gen := s.cell.gen + 1 + 1, words := m.toWords, ticks := s.cell.ticks + 1 + 1 }
    sendCounter := 1
    recvMark := (s.cell.gen + 2).toUInt64 <<< 32
    rekey := none
    installed := s.installed ++ [m]
  }

theorem run_setConnectionParams (hrekey : s.rekey = none) (m : Material)
    : run (step sodium) s (setConnectionParams m) = some (s.install m) := by
  simp only [setConnectionParams, List.map_cons, List.map_nil, run_cons, run_nil, step, rekeyStep,
    hrekey, Option.bind_some, Material.kWords, Nat.reduceLT, Nat.reduceAdd, Nat.zero_add,
    Nat.lt_irrefl, reduceIte, reduceDIte]
  simp only [Cell.beginWrite, Cell.storeWord, Cell.endWrite, install, Option.some.injEq,
    State.mk.injEq, Seqlock.Cell.mk.injEq, true_and, and_true]
  funext j
  fin_cases j <;> rfl

def copyOf (s : State) : Reader Word where
  generation := s.cell.gen
  seen := s.cell.ticks
  before := s.cell.gen
  opened := s.cell.ticks
  taken := List.ofFn s.cell.words

theorem run_readMaterial (hi : s.senders i = .idle) (hsock : s.sock = true)
    (hlen : msg.payload.length ≤ kUdpMaxInnerPayloadBytes) (hclosed : s.cell.gen &&& 1 = 0)
    : run (step sodium) s (readMaterial i msg) = some (s.setSender i (.copied msg s.copyOf)) := by
  have hlen : ¬ msg.payload.length > kUdpMaxInnerPayloadBytes := by omega
  simp [readMaterial, run_cons, step, senderStep, hi, hsock, hlen, openRead, hclosed, loadWord,
    Material.kWords, copyOf, List.ofFn_succ]

def sealedBy (s : State) (i : Nat) (msg : Message) (r : Reader Word) (ctr : UInt32) : State :=
  let sealed : Sealed := {
    install := r.opened / 2
    key := (material r).key
    counter := ctr
    token := (material r).token
    inner := innerMessage msg
    sent := true
  }
  { s.setSender i .idle with
    sendGate := false
    sendCounter := s.sendCounter + 1
    sealed := s.sealed ++ [sealed]
  }

theorem run_sealAndSend {ctr : UInt32}
    (hi : s.senders i = .copied msg r) (hgate : s.sendGate = false) (hsock : s.sock = true)
    (hgen : s.cell.gen = r.generation) (hctr : wireSendCounter s.sendCounter = some ctr)
    : run (step sodium) s (sealAndSend i) = some (s.sealedBy i msg r ctr) := by
  simp [sealAndSend, run_cons, step, senderStep, hi, hgate, hsock, hgen, hctr, setSender, sealedBy]
  funext j
  by_cases hj : j = i <;> simp [hj]

theorem along_setConnectionParams {m : Material} (hfresh : m.key ∉ s.installed.map (·.key))
    : Along (step sodium) (fun s a => s.InWidth a ∧ s.Fresh a) s (setConnectionParams m) := by
  refine ⟨⟨trivial, hfresh⟩, ?_⟩
  intro s' _
  apply along_of_forall
  intro a ha t
  simp only [List.map_cons, List.map_nil, List.mem_cons, List.not_mem_nil, or_false] at ha
  rcases ha with rfl | rfl | rfl | rfl | rfl | rfl | rfl | rfl | rfl <;> exact ⟨trivial, trivial⟩

theorem along_readMaterial
    : Along (step sodium) (fun s a => s.InWidth a ∧ s.Fresh a) s (readMaterial i msg) := by
  apply along_of_forall
  intro a ha t
  simp only [readMaterial, List.map_cons, List.map_nil, List.mem_cons, List.not_mem_nil,
    or_false] at ha
  rcases ha with rfl | rfl | rfl | rfl | rfl | rfl | rfl | rfl | rfl <;> exact ⟨trivial, trivial⟩

theorem along_sealAndSend (hi : s.senders i = .copied msg r) (hgate : s.sendGate = false)
    (hcounter : s.sendCounter.toNat + 1 < 2 ^ 64) (hturn : ¬ Turned r.seen s.cell.ticks)
    : Along (step sodium) (fun s a => s.InWidth a ∧ s.Fresh a) s (sealAndSend i) := by
  have hhold : s.step sodium (.sender i .holdSendGate) =
      some { s.setSender i (.gated msg r) with sendGate := true } := by
    simp [step, senderStep, hi, hgate]
  refine along_cons_of_step hhold ⟨trivial, trivial⟩ ⟨⟨hcounter, trivial⟩, ?_⟩
  intro t ht
  simp only [step, senderStep, setSender_senders_self] at ht
  cases ht
  refine ⟨⟨?_, trivial⟩, ?_⟩
  . intro msg' r' sequence' h
    rw [setSender_senders_self] at h
    cases h
    exact hturn
  . intro u _
    apply along_of_forall
    intro a ha t
    simp only [List.map_cons, List.map_nil, List.mem_cons, List.not_mem_nil, or_false] at ha
    rcases ha with rfl | rfl <;> exact ⟨trivial, trivial⟩

theorem run_openPacket {d : Datagram} {plain : List UInt8} (hidle : s.receiver = .idle)
    (hlen : kAuthTag ≤ d.body.length) (hclosed : s.cell.gen &&& 1 = 0)
    (hopen : openIncoming sodium d s.copyOf s.recvMark = some plain)
    : run (step sodium) s (openPacket d) =
        some { s with receiver := .opened d s.copyOf s.recvMark plain } := by
  have hlen : ¬ d.body.length < kAuthTag := by omega
  have hcopy : (⟨s.cell.gen, s.cell.ticks, s.cell.gen, s.cell.ticks, [s.cell.words 0,
      s.cell.words 1, s.cell.words 2, s.cell.words 3, s.cell.words 4]⟩ : Reader Word) =
      s.copyOf := by
    simp [copyOf, List.ofFn_succ]
  have hbefore : s.copyOf.before = s.cell.gen := rfl
  have htaken : s.copyOf.taken.length = Material.kWords := by simp [copyOf]
  simp [openPacket, run_cons, step, receiverStep, hidle, hlen, openRead, hclosed, loadWord,
    Material.kWords, hcopy, hbefore, htaken, hopen]

def takenBy (s : State) (d : Datagram) (r : Reader Word) (plain : List UInt8) : State :=
  { s with
    recvMark := (r.generation.toUInt64 <<< 32) ||| d.counter.toUInt64
    receiver := .idle
    dispatched := s.dispatched ++ (dispatchIncoming (s.cell.ticks / 2) d r plain).toList
  }

theorem run_takePacket {d : Datagram} {plain : List UInt8}
    : run (step sodium) { s with receiver := .opened d r s.recvMark plain } takePacket =
        some (s.takenBy d r plain) := by
  simp [takePacket, run_cons, step, receiverStep, takenBy]

end State
end SatelliteClient
