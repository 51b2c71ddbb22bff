import Dish.Update.Marker
import Dish.Wire.SessionCrypto

/-!
This module contains the promote of one version at the level of its files: any step may fail where
the source allows for it, and the process may end between any two.
-/

namespace Update

inductive StagedFile where
  | setupExe
  | manifestSnapshot
  | readyMarker
  | readyMarkerTmp
  deriving DecidableEq

structure StagedFiles where
  setupExe : Option (List UInt8) := none
  manifestSnapshot : Option (List UInt8) := none
  readyMarker : Option (List Char) := none
  readyMarkerTmp : Option (List Char) := none
  deriving DecidableEq

namespace StagedFiles

def remove (files : StagedFiles) : StagedFile → StagedFiles
  | .setupExe => { files with setupExe := none }
  | .manifestSnapshot => { files with manifestSnapshot := none }
  | .readyMarker => { files with readyMarker := none }
  | .readyMarkerTmp => { files with readyMarkerTmp := none }

def toReadyDir (files : StagedFiles) (version : String) : ReadyDir where
  name := version
  marker := (files.readyMarker.map parseReadyMarker).getD {}
  exe := files.setupExe

end StagedFiles

/-- A size is a `qint64`, and a time in ISO format has no white space. -/
structure PromoteCall where
  sha256 : String
  size : Int
  manifestBytes : List UInt8
  stagedUtc : List Char
  size_lt : size < 9223372036854775808
  stagedUtc_plain : ∀ ch ∈ stagedUtc, isSpace ch = false

inductive PromotePhase where
  | verify
  | clear
  | mkpath
  | rename
  | snapshot
  | writeTmp
  | commit
  | undo
  deriving DecidableEq

structure Staging where
  part : Option (List UInt8) := none
  dir : Option StagedFiles := none
  promote : Option (PromoteCall × PromotePhase) := none

inductive StagingEvent where
  | download (bytes : List UInt8)
  | promote (call : PromoteCall)
  | verify (partRemoved : Bool)
  | removeFile (file : StagedFile)
  | removeDir
  | absent
  | giveUp
  | mkpath (ok : Bool)
  | rename (ok : Bool)
  | snapshot (left : Option (List UInt8))
  | writeTmp (ok : Bool) (left : Option (List Char))
  | commit (ok : Bool)
  | crash

namespace Staging

def sha256OfFile (digest : List UInt8 → List UInt8) (bytes : List UInt8) : String :=
  Wire.toHex (digest bytes)

def advance (s : Staging) (call : PromoteCall) (phase : PromotePhase) : Staging :=
  { s with promote := some (call, phase) }

def finish (s : Staging) : Staging :=
  { s with promote := none }

def verify (digest : List UInt8 → List UInt8) (version : String) (s : Staging) (call : PromoteCall)
    (partRemoved : Bool) : Staging :=
  if !isValidVersion version then
    s.finish
  else
    match s.part with
    | none => s.finish
    | some bytes =>
      if (bytes.length : Int) ≠ call.size then
        s.finish
      else if !sameDigest (sha256OfFile digest bytes) call.sha256 then
        { s.finish with part := if partRemoved then none else s.part }
      else
        s.advance call .clear

def writtenText (version : String) (call : PromoteCall) : List Char :=
  serializeReadyMarker version (String.ofList (call.sha256.toList.map Char.toLower)) call.size
    call.stagedUtc

def cleared (s : Staging) (call : PromoteCall) : PromotePhase → Option Staging
  | .clear => some (s.advance call .mkpath)
  | .undo => some s.finish
  | _ => none

def step (digest : List UInt8 → List UInt8) (version : String) (s : Staging)
    : StagingEvent → Option Staging
  | .crash => some s.finish
  | .download bytes => if s.promote.isNone then some { s with part := some bytes } else none
  | .promote call => if s.promote.isNone then some (s.advance call .verify) else none
  | .verify partRemoved =>
    match s.promote with
    | some (call, .verify) => some (verify digest version s call partRemoved)
    | _ => none
  | .removeFile file =>
    match s.promote, s.dir with
    | some (_, .clear), some files => some { s with dir := some (files.remove file) }
    | some (_, .undo), some files => some { s with dir := some (files.remove file) }
    | _, _ => none
  | .removeDir =>
    match s.promote, s.dir with
    | some (call, phase), some files =>
      if files = {} then cleared { s with dir := none } call phase else none
    | _, _ => none
  | .absent =>
    match s.promote, s.dir with
    | some (call, phase), none => cleared s call phase
    | _, _ => none
  | .giveUp =>
    match s.promote with
    | some (_, .clear) => some s.finish
    | some (_, .undo) => some s.finish
    | _ => none
  | .mkpath ok =>
    match s.promote with
    | some (call, .mkpath) =>
      some (if ok then { s.advance call .rename with dir := some (s.dir.getD {}) } else s.finish)
    | _ => none
  | .rename ok =>
    match s.promote, s.dir with
    | some (call, .rename), some files =>
      if ok then
        some { s.advance call .snapshot with
          part := none
          dir := some { files with setupExe := s.part } }
      else
        some (s.advance call .undo)
    | _, _ => none
  | .snapshot left =>
    match s.promote, s.dir with
    | some (call, .snapshot), some files =>
      if call.manifestBytes.isEmpty then
        some (s.advance call .writeTmp)
      else
        some { s.advance call .writeTmp with dir := some { files with manifestSnapshot := left } }
    | _, _ => none
  | .writeTmp ok left =>
    match s.promote, s.dir with
    | some (call, .writeTmp), some files =>
      if ok then
        some { s.advance call .commit with
          dir := some { files with readyMarkerTmp := some (writtenText version call) } }
      else
        some { s.advance call .undo with dir := some { files with readyMarkerTmp := left } }
    | _, _ => none
  | .commit ok =>
    match s.promote, s.dir with
    | some (call, .commit), some files =>
      if ok then
        some { s.finish with
          dir := some { files with readyMarker := files.readyMarkerTmp, readyMarkerTmp := none } }
      else
        some (s.advance call .undo)
    | _, _ => none

end Staging

end Update
