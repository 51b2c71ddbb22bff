import Dish.Update.Staging

/-!
This module contains what outlives a process of the app, and the one path on which an installer is
spawned.
-/

namespace Update

structure UpdateSettings where
  checksEnabled : Bool := true
  autoDownload : Bool := true
  skippedVersion : String := ""
  handoffVersion : String := ""
  handoffAttempts : Nat := 0
  lastCheckUtcMs : Int := 0
  deriving DecidableEq

structure Persisted where
  settings : UpdateSettings := {}
  store : StagingStore := {}
  deriving DecidableEq

namespace Persisted

def attempts (p : Persisted) (version : String) : Nat :=
  if p.settings.handoffVersion = version then p.settings.handoffAttempts else 0

def quarantine (p : Persisted) (staged : StagedUpdate) : Persisted where
  settings := { p.settings with skippedVersion := staged.version }
  store := p.store.discard staged.version

def verifiedStageForApply (hash : List UInt8 → String) (p : Persisted) (currentVersion : String)
    : Option StagedUpdate × Persisted :=
  if p.store.root = "" then
    (none, p)
  else
    match p.store.findStaged with
    | none => (none, p)
    | some staged =>
      if !isStrictlyNewer staged.version currentVersion then
        (none, { p with store := p.store.discard staged.version })
      else if kMaxApplyAttemptsPerVersion ≤ p.attempts staged.version then
        (none, p.quarantine staged)
      else if hash staged.exe = "" ∨ !sameDigest (hash staged.exe) staged.sha256 then
        (none, { p with store := p.store.discard staged.version })
      else
        (some staged, p)

def recordAttempt (p : Persisted) (staged : StagedUpdate) : Option Persisted :=
  if kMaxApplyAttemptsPerVersion ≤ p.attempts staged.version then
    none
  else
    some { p with settings := { p.settings with
      handoffVersion := staged.version
      handoffAttempts := p.attempts staged.version + 1 } }

/--
The tail of `runStartupHandoff` and of `onAboutToQuit`. `spawns` says whether the process can be
created.
-/
def handOff (hash : List UInt8 → String) (p : Persisted) (currentVersion : String) (spawns : Bool)
    : Option StagedUpdate × Persisted :=
  match p.verifiedStageForApply hash currentVersion with
  | (none, p) => (none, p)
  | (some staged, p) =>
    match p.recordAttempt staged with
    | none => (none, p.quarantine staged)
    | some p => (if spawns ∧ p.store.root ≠ "" then some staged else none, p)

def runStartupHandoff (hash : List UInt8 → String) (p : Persisted) (currentVersion : String)
    (noHandoffFlag anotherInstance spawns : Bool) : Option StagedUpdate × Persisted :=
  if noHandoffFlag then
    (none, p)
  else if anotherInstance then
    (none, p)
  else
    p.handOff hash currentVersion spawns

def reconcileAfterApply (p : Persisted) (currentVersion : String) : Persisted :=
  if p.settings.handoffVersion ≠ "" ∧ !isStrictlyNewer p.settings.handoffVersion currentVersion then
    { p with settings := { p.settings with handoffVersion := "", handoffAttempts := 0 } }
  else
    p

end Persisted

end Update
