import Dish.Update.Machine

/-!
This module contains the staging directory.
-/

namespace Update

structure ReadyMarker where
  version : String := ""
  sha256 : String := ""
  size : Int := 0
  valid : Bool := false
  deriving DecidableEq

structure ReadyDir where
  name : String
  marker : ReadyMarker := {}
  exe : Option (List UInt8) := none
  deriving DecidableEq

structure StagedUpdate where
  version : String
  exe : List UInt8
  sha256 : String
  size : Int
  deriving DecidableEq

structure StagingStore where
  root : String := "Dish/updates"
  ready : List ReadyDir := []
  parts : List (String × List UInt8) := []
  deriving DecidableEq

def readStagedDir (dir : ReadyDir) : Option StagedUpdate :=
  if !isValidVersion dir.name then
    none
  else if !dir.marker.valid ∨ dir.marker.version ≠ dir.name then
    none
  else
    match dir.exe with
    | none => none
    | some exe =>
      if (exe.length : Int) ≠ dir.marker.size then
        none
      else
        some { version := dir.marker.version, exe, sha256 := dir.marker.sha256, size := dir.marker.size }

structure ReadyDir.Reads (dir : ReadyDir) (staged : StagedUpdate) : Prop where
  name : isValidVersion dir.name = true
  valid : dir.marker.valid = true
  version : staged.version = dir.name
  exe : dir.exe = some staged.exe
  sha256 : staged.sha256 = dir.marker.sha256
  size : staged.size = dir.marker.size
  complete : (staged.exe.length : Int) = dir.marker.size

theorem readStagedDir_eq_some {dir : ReadyDir} {staged : StagedUpdate}
    (h : readStagedDir dir = some staged)
    : dir.Reads staged := by
  unfold readStagedDir at h
  split at h
  next => cases h
  next hname =>
    split at h
    next => cases h
    next hmarker =>
      rw [not_or] at hmarker
      split at h
      next => cases h
      next exe hexe =>
        split at h
        next => cases h
        next hsize =>
          cases h
          exact ⟨by simpa using hname, by simpa using hmarker.1, by simpa using hmarker.2, hexe, rfl, rfl,
            by simpa using hsize⟩

def sameDigest (digest expected : String) : Bool :=
  digest.toList.map Char.toLower = expected.toList.map Char.toLower

namespace StagingStore

def removeTree (name : String) (ready : List ReadyDir) : List ReadyDir :=
  ready.filter fun dir => dir.name ≠ name

def removePart (version : String) (parts : List (String × List UInt8)) : List (String × List UInt8) :=
  parts.filter fun part => part.1 ≠ version

def part (store : StagingStore) (version : String) : Option (List UInt8) :=
  (store.parts.find? fun part => part.1 = version).map Prod.snd

def newerOf (best : Option StagedUpdate) (dir : ReadyDir) : Option StagedUpdate :=
  match readStagedDir dir, best with
  | none, best => best
  | some staged, none => some staged
  | some staged, some best =>
    if isStrictlyNewer staged.version best.version then some staged else some best

def findStaged (store : StagingStore) : Option StagedUpdate :=
  if store.root = "" then none else store.ready.foldl newerOf none

structure Writes where
  moves : Bool := true
  marks : Bool := true
  deriving DecidableEq

def writtenMarker (version sha256 : String) (size : Int) : ReadyMarker where
  version := version
  sha256 := String.ofList (sha256.toList.map Char.toLower)
  size := size
  valid := sha256.length = 64 ∧ 0 < size

def promote (hash : List UInt8 → String) (store : StagingStore) (version sha256 : String) (size : Int)
    (writes : Writes) : StagingStore × Bool :=
  if store.root = "" ∨ !isValidVersion version then
    (store, false)
  else
    match store.part version with
    | none => (store, false)
    | some bytes =>
      if (bytes.length : Int) ≠ size then
        (store, false)
      else if !sameDigest (hash bytes) sha256 then
        ({ store with parts := removePart version store.parts }, false)
      else
        let ready := removeTree version store.ready
        if !writes.moves then
          ({ store with ready }, false)
        else
          let parts := removePart version store.parts
          if !writes.marks then
            ({ store with ready, parts }, false)
          else
            let dir : ReadyDir :=
              { name := version, marker := writtenMarker version sha256 size, exe := some bytes }
            ({ store with ready := ready ++ [dir], parts }, true)

def discard (store : StagingStore) (version : String) : StagingStore :=
  if store.root = "" ∨ version = "" then
    store
  else
    { store with
      ready := removeTree version store.ready
      parts := removePart version store.parts }

def sweepEntry (currentVersion : String) (kept : List ReadyDir × String) (dir : ReadyDir)
    : List ReadyDir × String :=
  let (ready, survivor) := kept
  let obsolete := !isValidVersion currentVersion ∨ !isStrictlyNewer dir.name currentVersion
  match readStagedDir dir with
  | none => (removeTree dir.name ready, survivor)
  | some staged =>
    if obsolete then
      (removeTree dir.name ready, survivor)
    else if survivor = "" ∨ isStrictlyNewer staged.version survivor then
      (if survivor ≠ "" then removeTree survivor ready else ready, staged.version)
    else
      (removeTree dir.name ready, survivor)

def sweep (store : StagingStore) (currentVersion : String) (stale : List String) : StagingStore :=
  if store.root = "" then
    store
  else
    { store with
      ready := (store.ready.foldl (sweepEntry currentVersion) (store.ready, "")).1
      parts := store.parts.filter fun part => part.1 ∉ stale }

end StagingStore

end Update
