import Dish.Wire.HttpFraming

/-!
This module contains the writing of HTTP/1.1 responses.
-/

namespace Wire

inductive LineEnd where
  | crlf
  | lf
  deriving DecidableEq

def LineEnd.bytes : LineEnd → Bytes
  | .crlf => [kCr, kLf]
  | .lf => [kLf]

structure Numeral (base : Nat) where
  digits : List (Fin base × Bool)
  nonempty : digits ≠ []

def digitByte (digit : Nat) (upper : Bool) : UInt8 :=
  if digit < 10 then
    .ofNat (0x30 + digit)
  else if upper then
    .ofNat (0x41 + (digit - 10))
  else
    .ofNat (0x61 + (digit - 10))

namespace Numeral

def value (n : Numeral base) : Nat :=
  n.digits.foldl (fun value digit => value * base + digit.1) 0

def bytes (n : Numeral base) : Bytes :=
  n.digits.map fun digit => digitByte digit.1 digit.2

end Numeral

structure Field where
  name : Bytes
  value : Bytes
  name_plain : kColon ∉ name ∧ kLf ∉ name
  value_plain : kLf ∉ value ∧ value.getLast? ≠ some kCr

namespace Field

def text (field : Field) : Bytes :=
  field.name ++ kColon :: field.value

def header (field : Field) : HttpHeader :=
  (lowered field.name, trimmed field.value)

def isFraming (field : Field) : Bool :=
  lowered field.name = ascii "transfer-encoding" ∨ lowered field.name = ascii "content-length"

def SaysChunked (field : Field) : Prop :=
  lowered field.name = ascii "transfer-encoding" ∧
  ascii "chunked" <:+ lowered (trimmed field.value)

def SaysLength (field : Field) (length : Nat) : Prop :=
  lowered field.name = ascii "content-length" ∧
  ∃ n : Numeral 10, n.value = length ∧ trimmed field.value = n.bytes

end Field

def behind (sep : UInt8) : Option Bytes → Bytes
  | none => []
  | some text => sep :: text

structure Head where
  minor : UInt8
  status : Nat
  reason : Option Bytes
  fields : List Field
  minor_plain : minor ≠ kLf
  threeDigits : 100 ≤ status ∧ status ≤ 999
  reason_plain : ∀ text ∈ reason, kLf ∉ text

namespace Head

def code (head : Head) : Numeral 10 where
  digits := [(.ofNat 10 (head.status / 100), false), (.ofNat 10 (head.status / 10), false),
    (.ofNat 10 head.status, false)]
  nonempty := List.cons_ne_nil _ _

def statusLine (head : Head) : Bytes :=
  ascii "HTTP/1." ++ [head.minor, kSpace] ++ head.code.bytes ++ behind kSpace head.reason

def bytes (head : Head) (eol : LineEnd) : Bytes :=
  head.statusLine ++ eol.bytes ++ head.fields.flatMap (·.text ++ eol.bytes) ++ eol.bytes

end Head

structure SizeLine (count : Nat) where
  size : Numeral 16
  blanks : Bytes
  extension : Option Bytes
  value_size : size.value = count
  blank : ∀ b ∈ blanks, isBlank b
  extension_plain : ∀ text ∈ extension, kLf ∉ text

def SizeLine.text (line : SizeLine count) : Bytes :=
  line.size.bytes ++ line.blanks ++ behind kSemicolon line.extension

structure Chunk where
  data : Bytes
  nonempty : data ≠ []
  sizeLine : SizeLine data.length

def Chunk.bytes (chunk : Chunk) (eol : LineEnd) : Bytes :=
  chunk.sizeLine.text ++ eol.bytes ++ chunk.data ++ eol.bytes

structure Message where
  interim : List Head
  head : Head
  chunks : List Chunk
  isInterim : ∀ head ∈ interim, head.status < 200
  isFinal : 200 ≤ head.status
  hasBody : head.status ≠ 204 ∧ head.status ≠ 304
  unframed : ∀ field ∈ head.fields, field.isFraming = false
  fits : (chunks.flatMap (·.data)).length < 2 ^ 64

namespace Message

def body (m : Message) : Bytes :=
  m.chunks.flatMap (·.data)

def framedBy (m : Message) (field : Field) (place : Nat) : Head :=
  { m.head with fields := m.head.fields.take place ++ field :: m.head.fields.drop place }

def heads (m : Message) (eol : LineEnd) (field : Field) (place : Nat) : Bytes :=
  m.interim.flatMap (·.bytes eol) ++ (m.framedBy field place).bytes eol

def renderChunked (m : Message) (eol : LineEnd) (coding : Field) (place : Nat) (last : SizeLine 0)
    (trailers : List Bytes) : Bytes :=
  m.heads eol coding place ++ m.chunks.flatMap (·.bytes eol) ++
    (last.text ++ eol.bytes ++ trailers.flatMap (· ++ eol.bytes) ++ eol.bytes)

def renderLength (m : Message) (eol : LineEnd) (length : Field) (place : Nat) : Bytes :=
  m.heads eol length place ++ m.body

def response (m : Message) (field : Field) (place : Nat) : HttpResponse where
  status := m.head.status
  headers := (m.framedBy field place).fields.map Field.header
  body := m.body

end Message

end Wire
