import Mathlib.Data.String.Basic

/-!
This module contains trust on first use of a certificate.
-/

namespace Net

inductive TofuVerdict where
  | TrustFirstUse
  | Match
  | Mismatch
  deriving DecidableEq

def lowerAscii (c : Char) : Char :=
  if 'A' ≤ c ∧ c ≤ 'Z' then Char.ofNat (c.toNat - 'A'.toNat + 'a'.toNat) else c

def equalsIgnoreCaseAscii (a b : String) : Bool :=
  a.toList.map lowerAscii = b.toList.map lowerAscii

def tofuVerdict (stored : Option String) (presented : String) : TofuVerdict :=
  match stored with
  | none => .TrustFirstUse
  | some stored => if equalsIgnoreCaseAscii stored presented then .Match else .Mismatch

end Net
