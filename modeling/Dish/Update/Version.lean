import Mathlib.Data.Nat.Notation

/-!
This module contains the version grammar of the updater, strict `MAJOR.MINOR.PATCH`, and its
ordering.
-/

namespace Update

structure UpdateVersion where
  major : Nat := 0
  minor : Nat := 0
  patch : Nat := 0
  deriving DecidableEq

def isDigit (ch : Char) : Bool :=
  '0' ≤ ch ∧ ch ≤ '9'

def kIntMax : Nat := 2147483647

def decimalValue (part : List Char) : Nat :=
  part.foldl (fun value ch => 10 * value + (ch.toNat - '0'.toNat)) 0

def parseComponent (part : List Char) : Option Nat :=
  if part.isEmpty then
    none
  else if part.all isDigit then
    let value := decimalValue part
    if value ≤ kIntMax then some value else none
  else
    none

def cutAtDot : List Char → Option (List Char × List Char)
  | [] => none
  | ch :: rest =>
    if ch = '.' then
      some ([], rest)
    else
      (cutAtDot rest).map fun (left, right) => (ch :: left, right)

def UpdateVersion.parse (text : String) : Option UpdateVersion := do
  let (major, rest) ← cutAtDot text.toList
  let (minor, patch) ← cutAtDot rest
  if (cutAtDot patch).isSome then
    none
  else
    return {
      major := ← parseComponent major
      minor := ← parseComponent minor
      patch := ← parseComponent patch
    }

def UpdateVersion.lt (v o : UpdateVersion) : Bool :=
  v.major < o.major ∨
  v.major = o.major ∧ (v.minor < o.minor ∨ v.minor = o.minor ∧ v.patch < o.patch)

def isValidVersion (text : String) : Bool :=
  (UpdateVersion.parse text).isSome

def compareVersions (a b : String) : Option Int := do
  let va ← UpdateVersion.parse a
  let vb ← UpdateVersion.parse b
  if va.lt vb then
    return -1
  else if vb.lt va then
    return 1
  else
    return 0

def isStrictlyNewer (candidate baseline : String) : Bool :=
  match compareVersions candidate baseline with
  | some cmp => 0 < cmp
  | none => false

theorem not_isStrictlyNewer_empty (baseline : String) : isStrictlyNewer "" baseline = false := by
  rfl

end Update
