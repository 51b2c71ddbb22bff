import Dish.SatelliteClient.Basic

/-!
This module contains the atomic steps of the threads of a session.
-/

open Seqlock Wire Reducer

namespace SatelliteClient

inductive SenderAction where
  | call (msg : Message)
  | loadGeneration
  | openRead
  | loadWord
  | closeRead
  | holdSendGate
  | draw
  | check
  | seal (ok sent : Bool)
  | releaseSendGate

inductive ReceiverAction where
  | receive (d : Datagram)
  | loadGeneration
  | openRead
  | loadWord
  | closeRead
  | loadMark
  | swapMark
  | dispatch

inductive RekeyAction where
  | lock (m : Material)
  | beginWrite
  | storeWord
  | resetCounter
  | storeMark
  | endWrite

inductive Action where
  | sender (i : Nat) (a : SenderAction)
  | receiver (a : ReceiverAction)
  | rekey (a : RekeyAction)
  | openSocket
  | closeSocket

def openRead (c : Cell Material.kWords Word) (generation : UInt32) (seen : Nat)
    : Option (Reader Word) :=
  if c.gen &&& 1 = 0 then
    some { generation, seen, before := c.gen, opened := c.ticks, taken := [] }
  else
    none

def loadWord (c : Cell Material.kWords Word) (r : Reader Word) : Option (Reader Word) :=
  if h : r.taken.length < Material.kWords then
    some { r with taken := r.taken ++ [c.words ⟨r.taken.length, h⟩] }
  else
    none

def material (r : Reader Word) : Material :=
  .ofWords fun i => r.taken.getD i (Vector.replicate 8 0)

def innerMessage (msg : Message) : List UInt8 :=
  putU16Be msg.msgType ++ putU16Be (UInt16.ofNat msg.payload.length) ++ msg.payload

namespace State

def setSender (s : State) (i : Nat) (t : Sender) : State :=
  { s with senders := fun j => if j = i then t else s.senders j }

def senderStep (s : State) (i : Nat) (a : SenderAction) : Option State :=
  match s.senders i, a with
  | .idle, .call msg =>
    if s.sock = false ∨ msg.payload.length > kUdpMaxInnerPayloadBytes then
      some s
    else
      some (s.setSender i (.called msg))
  | .called msg, .loadGeneration =>
    some (s.setSender i (.seen msg s.cell.gen s.cell.ticks))
  | .seen msg generation seen, .openRead =>
    match SatelliteClient.openRead s.cell generation seen with
    | some r => some (s.setSender i (.reading msg r))
    | none => some (s.setSender i .idle)
  | .reading msg r, .loadWord =>
    match SatelliteClient.loadWord s.cell r with
    | some r => some (s.setSender i (.reading msg r))
    | none => none
  | .reading msg r, .closeRead =>
    if r.taken.length < Material.kWords then
      none
    else if s.cell.gen = r.before then
      some (s.setSender i (.copied msg r))
    else
      some (s.setSender i .idle)
  | .copied msg r, .holdSendGate =>
    -- A failed exchange spins.
    if s.sendGate then
      none
    else
      some { s.setSender i (.gated msg r) with sendGate := true }
  | .gated msg r, .draw =>
    some { s.setSender i (.drew msg r s.sendCounter) with sendCounter := s.sendCounter + 1 }
  | .drew msg r sequence, .check =>
    match wireSendCounter sequence with
    | some ctr =>
      if s.sock ∧ s.cell.gen = r.generation then
        some (s.setSender i (.checked msg r sequence ctr))
      else
        some (s.setSender i .leaving)
    | none => some (s.setSender i .leaving)
  | .checked msg r _ ctr, .seal ok sent =>
    if ok then
      let sealed : Sealed := {
        install := r.opened / 2
        key := (material r).key
        counter := ctr
        token := (material r).token
        inner := innerMessage msg
        sent
      }
      some { s.setSender i .leaving with sealed := s.sealed ++ [sealed] }
    else
      some (s.setSender i .leaving)
  | .leaving, .releaseSendGate =>
    some { s.setSender i .idle with sendGate := false }
  | _, _ => none

variable (sodium : Sodium)

/-- What `decryptIncoming` makes of a datagram once it has read the mark. -/
def openIncoming (d : Datagram) (r : Reader Word) (mark : UInt64) : Option (List UInt8) :=
  let m := material r
  let last := mark.toUInt32
  if d.token ≠ m.token then
    none
  else if mark >>> 32 ≠ r.generation.toUInt64 then
    none
  else if last ≠ 0 ∧ d.counter ≤ last then
    none
  else
    let token := readU32Be m.token[0] m.token[1] m.token[2] m.token[3]
    decryptPacket sodium m.key.toList kDirServerToClient d.counter token d.body

def dispatchIncoming (rekeys : Nat) (d : Datagram) (r : Reader Word)
    : List UInt8 → Option Dispatched
  | t0 :: t1 :: _ :: _ :: body =>
    some {
      install := r.opened / 2
      rekeys
      key := (material r).key
      datagram := d
      msgType := readU16Be t0 t1
      body
    }
  | _ => none

def receiverStep (s : State) (a : ReceiverAction) : Option State :=
  match s.receiver, a with
  | .idle, .receive d =>
    if d.body.length < kAuthTag then
      some s
    else
      some { s with receiver := .received d }
  | .received d, .loadGeneration =>
    some { s with receiver := .seen d s.cell.gen s.cell.ticks }
  | .seen d generation seen, .openRead =>
    match SatelliteClient.openRead s.cell generation seen with
    | some r => some { s with receiver := .reading d r }
    | none => some { s with receiver := .idle }
  | .reading d r, .loadWord =>
    match SatelliteClient.loadWord s.cell r with
    | some r => some { s with receiver := .reading d r }
    | none => none
  | .reading d r, .closeRead =>
    if r.taken.length < Material.kWords then
      none
    else if s.cell.gen = r.before then
      some { s with receiver := .copied d r }
    else
      some { s with receiver := .idle }
  | .copied d r, .loadMark =>
    match openIncoming sodium d r s.recvMark with
    | some plain => some { s with receiver := .opened d r s.recvMark plain }
    | none => some { s with receiver := .idle }
  | .opened d r mark plain, .swapMark =>
    if s.recvMark = mark then
      let mark := (r.generation.toUInt64 <<< 32) ||| d.counter.toUInt64
      some { s with recvMark := mark, receiver := .accepted d r plain }
    else
      some { s with receiver := .idle }
  | .accepted d r plain, .dispatch =>
    some { s with
      receiver := .idle
      dispatched := s.dispatched ++ (dispatchIncoming (s.cell.ticks / 2) d r plain).toList
    }
  | _, _ => none

def rekeyStep (s : State) (a : RekeyAction) : Option State :=
  match s.rekey, a with
  | none, .lock m =>
    some { s with rekey := some ⟨m, s.cell.gen + 2, .locked⟩ }
  | some ⟨m, written, .locked⟩, .beginWrite =>
    some { s with
      cell := s.cell.beginWrite
      rekey := some ⟨m, written, .writing 0⟩
      installed := s.installed ++ [m]
    }
  | some ⟨m, written, .writing stored⟩, .storeWord =>
    if h : stored < Material.kWords then
      some { s with
        cell := s.cell.storeWord ⟨stored, h⟩ (m.toWords ⟨stored, h⟩)
        rekey := some ⟨m, written, .writing (stored + 1)⟩
      }
    else
      none
  | some ⟨m, written, .writing stored⟩, .resetCounter =>
    if stored < Material.kWords then
      none
    else
      some { s with sendCounter := 1, rekey := some ⟨m, written, .counterReset⟩ }
  | some ⟨m, written, .counterReset⟩, .storeMark =>
    some { s with recvMark := written.toUInt64 <<< 32, rekey := some ⟨m, written, .marked⟩ }
  | some ⟨_, _, .marked⟩, .endWrite =>
    some { s with cell := s.cell.endWrite, rekey := none }
  | _, _ => none

def step (s : State) (a : Action) : Option State :=
  match a with
  | .sender i a => s.senderStep i a
  | .receiver a => s.receiverStep sodium a
  | .rekey a => s.rekeyStep a
  | .openSocket => some { s with sock := true }
  | .closeSocket =>
    -- The handle is swapped out inside the send gate.
    if s.sendGate then none else some { s with sock := false }

end State
end SatelliteClient
