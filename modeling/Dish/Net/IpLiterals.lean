import Mathlib.Data.String.Basic

/-!
This module contains the classification of an address from its text.
-/

namespace Net

def isDigit (c : Char) : Bool :=
  '0' ≤ c ∧ c ≤ '9'

def isHexDigit (c : Char) : Bool :=
  isDigit c ∨ ('a' ≤ c ∧ c ≤ 'f') ∨ ('A' ≤ c ∧ c ≤ 'F')

def parseIpv4.octet (p : List Char) : Option Nat :=
  if p = [] ∨ p.length > 3 ∨ ¬ p.all isDigit then
    none
  else
    let value := p.foldl (fun (value : Nat) (c : Char) => value * 10 + (c.toNat - '0'.toNat)) 0
    if value > 255 then none else some value

def parseIpv4 (host : List Char) : Option (List Nat) :=
  let parts := host.splitOn '.'
  if parts.length ≠ 4 then none else parts.mapM parseIpv4.octet

def isPrivateIpv4 (o : List Nat) : Bool :=
  match o with
  | [a, b, _, _] =>
    a = 10 ∨ (a = 172 ∧ 16 ≤ b ∧ b ≤ 31) ∨ (a = 192 ∧ b = 168) ∨ (a = 169 ∧ b = 254) ∨ a = 127
  | _ => false

structure Ipv6Halves where
  head : List Char
  tail : List Char := []
  hasCompression : Bool := false

def splitAroundCompression.find : List Char → Option (List Char × List Char)
  | ':' :: ':' :: tail => some ([], tail)
  | c :: rest => (find rest).map fun (head, tail) => (c :: head, tail)
  | [] => none

def splitAroundCompression (host : List Char) : Option Ipv6Halves :=
  match splitAroundCompression.find host with
  | none => some { head := host }
  | some (head, tail) =>
    if (splitAroundCompression.find tail).isSome then
      none
    else
      some { head, tail, hasCompression := true }

def hextetOf.digit (c : Char) : Nat :=
  if isDigit c then
    c.toNat - '0'.toNat
  else if 'a' ≤ c then
    c.toNat - 'a'.toNat + 10
  else
    c.toNat - 'A'.toNat + 10

def hextetOf (piece : List Char) : Option UInt16 :=
  if piece = [] ∨ piece.length > 4 ∨ ¬ piece.all isHexDigit then
    none
  else
    some (piece.foldl (fun value c => value * 16 + hextetOf.digit c) 0).toUInt16

def hextetsOf.go (allowEmbeddedV4 : Bool) : List (List Char) → Option (List UInt16)
  | [] => some []
  | piece :: rest =>
    if rest = [] ∧ allowEmbeddedV4 ∧ '.' ∈ piece then
      match parseIpv4 piece with
      | some [a, b, c, d] => some [(a * 256 + b).toUInt16, (c * 256 + d).toUInt16]
      | _ => none
    else do
      let hextet ← hextetOf piece
      let groups ← go allowEmbeddedV4 rest
      return hextet :: groups

def hextetsOf (part : List Char) (allowEmbeddedV4 : Bool) : Option (List UInt16) :=
  if part = [] then some [] else hextetsOf.go allowEmbeddedV4 (part.splitOn ':')

def expandToEight (head tail : List UInt16) (hasCompression : Bool) : Option (List UInt16) :=
  if hasCompression = false then
    if head.length ≠ 8 then none else some head
  else
    let present := head.length + tail.length
    if present ≥ 8 then none else some (head ++ List.replicate (8 - present) 0 ++ tail)

def parseIpv6 (host : List Char) : Option (List UInt8) :=
  if '%' ∈ host then
    none
  else do
    let halves ← splitAroundCompression host
    let head ← hextetsOf halves.head (!halves.hasCompression)
    let tail ← hextetsOf halves.tail true
    let full ← expandToEight head tail halves.hasCompression
    if full.length ≠ 8 then
      none
    else
      return full.flatMap fun (g : UInt16) => [(g >>> 8).toUInt8, g.toUInt8]

def isPrivateIpv6 (b : List UInt8) : Bool :=
  if b = List.replicate 15 0 ++ [1] then
    true
  else
    match b with
    | b0 :: b1 :: _ => b0 = 0xfc ∨ b0 = 0xfd ∨ (b0 = 0xfe ∧ b1 &&& 0xc0 = 0x80)
    | _ => false

def stripBrackets (h : List Char) : List Char :=
  if h.length ≥ 2 ∧ h.head? = some '[' ∧ h.getLast? = some ']' then
    h.tail.dropLast
  else
    h

def isPrivateHostLiteral (host : List Char) : Bool :=
  let h := stripBrackets host
  match parseIpv4 h with
  | some v4 => isPrivateIpv4 v4
  | none =>
    match parseIpv6 h with
    | some v6 => isPrivateIpv6 v6
    | none => false

inductive SatelliteHostVerdict where
  | Reachable
  | NotLocal
  | NotIpv4
  deriving DecidableEq

def classifySatelliteHost (host : String) : SatelliteHostVerdict :=
  if isPrivateHostLiteral host.toList = false then
    .NotLocal
  else if (parseIpv4 host.toList).isSome then
    .Reachable
  else
    .NotIpv4

example : classifySatelliteHost "192.168.1.20" = .Reachable := by decide

example : classifySatelliteHost "[fe80::1]" = .NotIpv4 := by decide

example : classifySatelliteHost "8.8.8.8" = .NotLocal := by decide

end Net
