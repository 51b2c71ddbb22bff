import Dish.Update.Handoff

/-!
This module contains what the handoff can do with what is persisted.
-/

namespace Update

namespace StagingStore

theorem newerOf_mem {best : Option StagedUpdate} {dir : ReadyDir} {staged : StagedUpdate}
    (h : newerOf best dir = some staged)
    : best = some staged ∨ readStagedDir dir = some staged := by
  unfold newerOf at h
  split at h
  next => exact .inl h
  next _ heq => exact .inr (heq.trans h)
  next _ _ heq =>
    split at h
    . exact .inr (heq.trans h)
    . exact .inl h

theorem findStaged_mem {store : StagingStore} {staged : StagedUpdate}
    (h : store.findStaged = some staged)
    : ∃ dir ∈ store.ready, readStagedDir dir = some staged := by
  have hfold (dirs : List ReadyDir) (best : Option StagedUpdate)
      (h : dirs.foldl newerOf best = some staged)
      : best = some staged ∨ ∃ dir ∈ dirs, readStagedDir dir = some staged := by
    induction dirs generalizing best with
    | nil => exact .inl h
    | cons dir dirs ih =>
      rcases ih (newerOf best dir) h with hbest | ⟨found, hmem, hread⟩
      . rcases newerOf_mem hbest with hbest | hread
        . exact .inl hbest
        . exact .inr ⟨dir, by simp, hread⟩
      . exact .inr ⟨found, by simp [hmem], hread⟩
  unfold findStaged at h
  split at h
  next => cases h
  next =>
    rcases hfold store.ready none h with hnone | hmem
    . cases hnone
    . exact hmem

end StagingStore

structure Applicable (hash : List UInt8 → String) (p : Persisted) (currentVersion : String)
    (staged : StagedUpdate) : Prop where
  rooted : p.store.root ≠ ""
  stands : ∃ dir ∈ p.store.ready, readStagedDir dir = some staged
  newer : isStrictlyNewer staged.version currentVersion = true
  digest : sameDigest (hash staged.exe) staged.sha256 = true

namespace Persisted

variable {hash : List UInt8 → String} {p p' : Persisted} {currentVersion : String}
  {staged : StagedUpdate}

structure SameRecord (p p' : Persisted) : Prop where
  version : p'.settings.handoffVersion = p.settings.handoffVersion
  attempts : p'.settings.handoffAttempts = p.settings.handoffAttempts

theorem verifiedStageForApply_none (h : p.verifiedStageForApply hash currentVersion = (none, p'))
    : SameRecord p p' := by
  unfold verifiedStageForApply at h
  split at h
  next =>
    cases h
    exact ⟨rfl, rfl⟩
  next =>
    split at h
    next =>
      cases h
      exact ⟨rfl, rfl⟩
    next =>
      split at h
      next =>
        cases h
        exact ⟨rfl, rfl⟩
      next =>
        split at h
        next =>
          cases h
          exact ⟨rfl, rfl⟩
        next =>
          split at h
          next =>
            cases h
            exact ⟨rfl, rfl⟩
          next => cases h

theorem verifiedStageForApply_some
    (h : p.verifiedStageForApply hash currentVersion = (some staged, p'))
    : p' = p ∧ Applicable hash p currentVersion staged := by
  unfold verifiedStageForApply at h
  split at h
  next => cases h
  next hroot =>
    split at h
    next => cases h
    next hfound =>
      split at h
      next => cases h
      next hnewer =>
        split at h
        next => cases h
        next =>
          split at h
          next => cases h
          next hdigest =>
            cases h
            refine ⟨rfl, hroot, StagingStore.findStaged_mem hfound, ?_, ?_⟩
            . simpa using hnewer
            . simp at hdigest
              exact hdigest.2

theorem recordAttempt_eq_some (h : p.recordAttempt staged = some p')
    : p.attempts staged.version < kMaxApplyAttemptsPerVersion ∧
      p'.settings.handoffVersion = staged.version ∧
      p'.settings.handoffAttempts = p.attempts staged.version + 1 := by
  unfold recordAttempt at h
  split at h
  next => cases h
  next hlt =>
    cases h
    exact ⟨Nat.lt_of_not_le hlt, rfl, rfl⟩

structure Attempts (hash : List UInt8 → String) (p p' : Persisted) (currentVersion : String)
    (spawned : Option StagedUpdate) (staged : StagedUpdate) : Prop where
  applicable : Applicable hash p currentVersion staged
  below : p.attempts staged.version < kMaxApplyAttemptsPerVersion
  version : p'.settings.handoffVersion = staged.version
  attempts : p'.settings.handoffAttempts = p.attempts staged.version + 1
  spawned : spawned = none ∨ spawned = some staged

theorem handOff_spec (hash : List UInt8 → String) (p : Persisted) (currentVersion : String)
    (spawns : Bool)
    : ((p.handOff hash currentVersion spawns).1 = none ∧
        SameRecord p (p.handOff hash currentVersion spawns).2) ∨
      ∃ staged, Attempts hash p (p.handOff hash currentVersion spawns).2 currentVersion
        (p.handOff hash currentVersion spawns).1 staged := by
  unfold handOff
  split
  next p' heq => exact .inl ⟨rfl, verifiedStageForApply_none heq⟩
  next staged p' heq =>
    obtain ⟨rfl, happlicable⟩ := verifiedStageForApply_some heq
    split
    next => exact .inl ⟨rfl, rfl, rfl⟩
    next p'' hrecord =>
      obtain ⟨hbelow, hversion, hattempts⟩ := recordAttempt_eq_some hrecord
      refine .inr ⟨staged, happlicable, hbelow, hversion, hattempts, ?_⟩
      dsimp only
      split
      . exact .inr rfl
      . exact .inl rfl

theorem runStartupHandoff_spec (hash : List UInt8 → String) (p : Persisted) (currentVersion : String)
    (noHandoffFlag anotherInstance spawns : Bool)
    : let r := p.runStartupHandoff hash currentVersion noHandoffFlag anotherInstance spawns
      (r.1 = none ∧ SameRecord p r.2) ∨
      ∃ staged, Attempts hash p r.2 currentVersion r.1 staged := by
  unfold runStartupHandoff
  split
  . exact .inl ⟨rfl, rfl, rfl⟩
  . split
    . exact .inl ⟨rfl, rfl, rfl⟩
    . apply handOff_spec

theorem reconcileAfterApply_spec (p : Persisted) (currentVersion : String)
    : SameRecord p (p.reconcileAfterApply currentVersion) ∨
      (p.settings.handoffVersion ≠ "" ∧
        isStrictlyNewer p.settings.handoffVersion currentVersion = false ∧
        (p.reconcileAfterApply currentVersion).settings.handoffVersion = "") := by
  unfold reconcileAfterApply
  split
  next h => exact .inr ⟨h.1, by simpa using h.2, rfl⟩
  next => exact .inl ⟨rfl, rfl⟩

theorem store_reconcileAfterApply (p : Persisted) (currentVersion : String)
    : (p.reconcileAfterApply currentVersion).store = p.store := by
  unfold reconcileAfterApply
  split
  . rfl
  . rfl

def withAttempt (p : Persisted) (staged : StagedUpdate) : Persisted :=
  { p with settings := { p.settings with
    handoffVersion := staged.version
    handoffAttempts := p.attempts staged.version + 1 } }

theorem attempts_withAttempt (p : Persisted) (staged : StagedUpdate)
    : (p.withAttempt staged).attempts staged.version = p.attempts staged.version + 1 := by
  simp [attempts, withAttempt]

theorem handOff_of_applicable (hfound : p.store.findStaged = some staged)
    (hnewer : isStrictlyNewer staged.version currentVersion = true)
    (hread : hash staged.exe ≠ "") (hdigest : sameDigest (hash staged.exe) staged.sha256 = true)
    (hbelow : p.attempts staged.version < kMaxApplyAttemptsPerVersion) (spawns : Bool)
    : p.handOff hash currentVersion spawns =
      (if spawns then some staged else none, p.withAttempt staged) := by
  have hroot : p.store.root ≠ "" := by
    intro hroot
    simp [StagingStore.findStaged, hroot] at hfound
  have hverified : p.verifiedStageForApply hash currentVersion = (some staged, p) := by
    simp [verifiedStageForApply, hroot, hfound, hnewer, Nat.not_le_of_lt hbelow, hread, hdigest]
  have hrecord : p.recordAttempt staged = some (p.withAttempt staged) := by
    unfold recordAttempt
    rw [if_neg (Nat.not_le_of_lt hbelow)]
    rfl
  have hroot' : (p.withAttempt staged).store.root ≠ "" := hroot
  simp [handOff, hverified, hrecord, hroot']

end Persisted

end Update
