import Dish.Lib.Reader
import Dish.Lib.Trim
import Dish.Update.Staging

/-!
This module contains the text of a `ready.marker`, as a promote writes it and as the next start
reads it.
-/

namespace Update

def isSpace (ch : Char) : Bool :=
  ch = ' ' ∨ '\t' ≤ ch ∧ ch ≤ '\r'

def trimmed (text : List Char) : List Char :=
  Trim.both isSpace text

def toInteger (limit : Int) (text : List Char) : Option Int :=
  let negative := text.head? = some '-'
  let digits := if negative ∨ text.head? = some '+' then text.tail else text
  if digits.isEmpty ∨ ¬ digits.all isDigit then
    none
  else
    let value : Int := if negative then - decimalValue digits else decimalValue digits
    if -limit ≤ value ∧ value < limit then some value else none

def toInt : List Char → Option Int :=
  toInteger 2147483648

def toLongLong : List Char → Option Int :=
  toInteger 9223372036854775808

structure MarkerScan where
  schema : Int := 0
  marker : ReadyMarker := {}
  sawSchema : Bool := false
  sawVersion : Bool := false
  sawSha : Bool := false
  sawSize : Bool := false

namespace MarkerScan

def set (scan : MarkerScan) (key value : List Char) : MarkerScan :=
  if key = "schema".toList then
    let number := toInt value
    { scan with schema := number.getD 0, sawSchema := number.isSome }
  else if key = "version".toList then
    { scan with
      marker := { scan.marker with version := String.ofList value }
      sawVersion := isValidVersion (String.ofList value) }
  else if key = "sha256".toList then
    { scan with
      marker := { scan.marker with sha256 := String.ofList value }
      sawSha := value.length = 64 }
  else if key = "size".toList then
    let number := toLongLong value
    { scan with
      marker := { scan.marker with size := number.getD 0 }
      sawSize := number.isSome ∧ number.getD 0 > 0 }
  else
    -- a newer client may have written keys that this one does not know
    scan

def readLine (scan : MarkerScan) (raw : List Char) : Option MarkerScan :=
  let line := trimmed raw
  if line.isEmpty then
    some scan
  else
    match Reader.upTo '=' line with
    | none => none
    | some (key, value) =>
      if key.isEmpty then none else some (scan.set (trimmed key) (trimmed value))

end MarkerScan

def parseReadyMarker (text : List Char) : ReadyMarker :=
  match (text.splitOn '\n').foldlM MarkerScan.readLine {} with
  | none => {}
  | some scan =>
    { scan.marker with
      valid := scan.sawSchema ∧ scan.schema = 1 ∧ scan.sawVersion ∧ scan.sawSha ∧ scan.sawSize }

def markerLine (key : String) (value : List Char) : List Char :=
  key.toList ++ '=' :: value

def serializeReadyMarker (version sha256 : String) (size : Int) (stagedUtc : List Char) : List Char :=
  markerLine "schema" "1".toList ++ ['\n'] ++
  markerLine "version" version.toList ++ ['\n'] ++
  markerLine "sha256" sha256.toList ++ ['\n'] ++
  markerLine "size" (toString size).toList ++ ['\n'] ++
  markerLine "stagedUtc" stagedUtc ++ ['\n']

end Update
