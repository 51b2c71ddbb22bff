import Mathlib.Algebra.Group.Nat.Defs
import Dish.Lib.Reader

/-!
This module contains the framing of HTTP/1.1 responses.
-/

namespace Wire

abbrev Bytes : Type := List UInt8

def ascii (text : String) : Bytes :=
  text.toList.map fun ch => .ofNat ch.toNat

def kLf : UInt8 := 0x0A
def kCr : UInt8 := 0x0D
def kSpace : UInt8 := 0x20
def kTab : UInt8 := 0x09

abbrev HttpHeader : Type := Bytes × Bytes

structure HttpResponse where
  status : Nat := 0
  headers : List HttpHeader := []
  body : Bytes := []
  deriving DecidableEq

inductive HttpParse.State where
  | Incomplete
  | Complete
  | Malformed
  deriving DecidableEq

structure HttpParse where
  state : HttpParse.State := .Incomplete
  response : HttpResponse := {}
  deriving DecidableEq

def HttpResponse.header (response : HttpResponse) (lowerName : Bytes) : Bytes :=
  ((response.headers.find? (·.1 = lowerName)).map (·.2)).getD []

def line (bytes : Bytes) : Option (Bytes × Bytes) :=
  (Reader.upTo kLf bytes).map fun (text, rest) =>
    (if text.getLast? = some kCr then text.dropLast else text, rest)

def toLower (b : UInt8) : UInt8 :=
  if 0x41 ≤ b ∧ b ≤ 0x5A then b + 0x20 else b

def lowered (text : Bytes) : Bytes :=
  text.map toLower

def isBlank (b : UInt8) : Bool :=
  b = kSpace ∨ b = kTab

def trimmed (text : Bytes) : Bytes :=
  ((text.dropWhile isBlank).reverse.dropWhile isBlank).reverse

def digitOf (base : Nat) (b : UInt8) : Option Nat :=
  let digit :=
    if 0x30 ≤ b ∧ b ≤ 0x39 then some (b.toNat - 0x30)
    else if 0x61 ≤ b ∧ b ≤ 0x7A then some (b.toNat - 0x61 + 10)
    else if 0x41 ≤ b ∧ b ≤ 0x5A then some (b.toNat - 0x41 + 10)
    else none
  digit.filter (· < base)

def countOf (digits : Bytes) (base : Nat) : Option Nat :=
  let consumed := digits.takeWhile fun b => (digitOf base b).isSome
  let count := consumed.foldl (fun count b => count * base + (digitOf base b).getD 0) 0
  if consumed.isEmpty ∨ count ≥ 2 ^ 64 then
    none
  else if consumed.length = digits.length then
    some count
  else
    none

def kCodeAt : Nat := 9
def kCodeEnd : Nat := kCodeAt + 3

def statusOf (text : Bytes) : Option Nat :=
  let isHttp1 := (ascii "HTTP/1.").isPrefixOf text ∧ kCodeEnd ≤ text.length ∧
    text[8]? = some kSpace
  if ¬isHttp1 then
    none
  else
    let code := countOf ((text.drop kCodeAt).take 3) 10
    let codeEnds := text.length = kCodeEnd ∨ text[kCodeEnd]? = some kSpace
    code.filter fun code => 100 ≤ code ∧ codeEnds

def kColon : UInt8 := 0x3A
def kSemicolon : UInt8 := 0x3B

def fieldOf (text : Bytes) : Option HttpHeader :=
  (Reader.upTo kColon text).map fun (name, value) => (lowered name, trimmed value)

def chunkSizeOf (text : Bytes) : Option Nat :=
  countOf (trimmed (text.takeWhile (· ≠ kSemicolon))) 16

namespace HttpParse

def complete (response : HttpResponse) : HttpParse where
  state := .Complete
  response

def malformed : HttpParse where
  state := .Malformed

def stillShort (peerClosed : Bool) : HttpParse where
  state := if peerClosed then .Malformed else .Incomplete

end HttpParse

open HttpParse

theorem stable_line : Reader.Stable line := by
  exact (Reader.stable_upTo kLf).map fun text =>
    if text.getLast? = some kCr then text.dropLast else text

theorem length_lt_of_line {bytes text rest : Bytes} (h : line bytes = some (text, rest))
    : rest.length < bytes.length := by
  obtain ⟨⟨run, rest'⟩, hrun, hpair⟩ := Option.map_eq_some_iff.mp h
  cases hpair
  exact Reader.length_lt_of_upTo hrun

def readFields (head : HttpResponse) (bytes : Bytes) (peerClosed : Bool) : HttpParse × Bytes :=
  match hline : line bytes with
  | none => (stillShort peerClosed, bytes)
  | some (text, rest) =>
    if text.isEmpty then
      (complete head, rest)
    else
      match fieldOf text with
      | none => (malformed, rest)
      | some field =>
        readFields { head with headers := head.headers ++ [field] } rest peerClosed
  termination_by bytes.length
  decreasing_by exact length_lt_of_line hline

def readHead (bytes : Bytes) (peerClosed : Bool) : HttpParse × Bytes :=
  match line bytes with
  | none => (stillShort peerClosed, bytes)
  | some (text, rest) =>
    match statusOf text with
    | none => (malformed, rest)
    | some status => readFields { status } rest peerClosed

inductive Framing where
  | None
  | Chunked
  | Length
  | UntilClose
  deriving DecidableEq

def framingOf (head : HttpResponse) : Framing :=
  if head.status = 204 ∨ head.status = 304 then
    .None
  else if (ascii "chunked").isSuffixOf (lowered (head.header (ascii "transfer-encoding"))) then
    .Chunked
  else if head.header (ascii "content-length") ≠ [] then
    .Length
  else
    .UntilClose

def readTrailers (response : HttpResponse) (bytes : Bytes) (peerClosed : Bool) : HttpParse :=
  match hline : line bytes with
  | none => stillShort peerClosed
  | some (text, rest) =>
    if text.isEmpty then complete response else readTrailers response rest peerClosed
  termination_by bytes.length
  decreasing_by exact length_lt_of_line hline

def readChunks (response : HttpResponse) (bytes : Bytes) (peerClosed : Bool) : HttpParse :=
  match hline : line bytes with
  | none => stillShort peerClosed
  | some (sizeLine, rest) =>
    match chunkSizeOf sizeLine with
    | none => malformed
    | some size =>
      if size = 0 then
        readTrailers response rest peerClosed
      else
        match hdata : Reader.take size rest with
        | none => stillShort peerClosed
        | some (data, rest) =>
          match hend : line rest with
          | none => stillShort peerClosed
          | some (dataEnd, rest) =>
            if dataEnd.isEmpty then
              readChunks { response with body := response.body ++ data } rest peerClosed
            else
              malformed
  termination_by bytes.length
  decreasing_by
    have hfirst := length_lt_of_line hline
    have hsecond := Reader.length_le_of_take hdata
    have hthird := length_lt_of_line hend
    omega

def readLength (response : HttpResponse) (bytes : Bytes) (peerClosed : Bool) : HttpParse :=
  match countOf (response.header (ascii "content-length")) 10 with
  | none => malformed
  | some length =>
    match Reader.take length bytes with
    | none => stillShort peerClosed
    | some (body, _) => complete { response with body }

def readUntilClose (response : HttpResponse) (bytes : Bytes) (peerClosed : Bool) : HttpParse :=
  if !peerClosed then {} else complete { response with body := bytes }

def readBody (response : HttpResponse) (bytes : Bytes) (peerClosed : Bool) : HttpParse :=
  match framingOf response with
  | .None => complete response
  | .Chunked => readChunks response bytes peerClosed
  | .Length => readLength response bytes peerClosed
  | .UntilClose => readUntilClose response bytes peerClosed

theorem length_le_of_readFields (head : HttpResponse) (bytes : Bytes) (peerClosed : Bool)
    : (readFields head bytes peerClosed).2.length ≤ bytes.length := by
  fun_induction readFields head bytes peerClosed with
  | case1 => exact Nat.le_refl _
  | case2 head bytes text rest hline | case3 head bytes text rest hline =>
    exact Nat.le_of_lt (length_lt_of_line hline)
  | case4 head bytes text rest hline _ field _ ih =>
    exact Nat.le_trans ih (Nat.le_of_lt (length_lt_of_line hline))

theorem length_lt_of_readHead {bytes : Bytes} {peerClosed : Bool}
    (h : (readHead bytes peerClosed).1.state = .Complete)
    : (readHead bytes peerClosed).2.length < bytes.length := by
  unfold readHead at h ⊢
  split at h
  next => cases peerClosed <;> simp [stillShort] at h
  next text rest hline =>
    have hlt := length_lt_of_line hline
    split at h
    next => cases h
    next status _ => exact Nat.lt_of_le_of_lt (length_le_of_readFields _ _ _) hlt

def parseHttpResponse (received : Bytes) (peerClosed : Bool) : HttpParse :=
  if hhead : (readHead received peerClosed).1.state = .Complete then
    let head := (readHead received peerClosed).1
    let isInterim := head.response.status < 200
    if isInterim then
      parseHttpResponse (readHead received peerClosed).2 peerClosed
    else
      readBody head.response (readHead received peerClosed).2 peerClosed
  else
    (readHead received peerClosed).1
  termination_by received.length
  decreasing_by exact length_lt_of_readHead hhead

end Wire
