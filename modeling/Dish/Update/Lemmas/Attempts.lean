import Dish.Update.Lemmas.Steps
import Dish.Update.Lemmas.Launch

/-!
This module contains the bound on the installers that are spawned for one version.
-/

open Transition

namespace Update

structure Installation where
  persisted : Persisted := {}
  spawned : List StagedUpdate := []
  deriving DecidableEq

/-- What the processes of the app and others do to what is persisted. -/
inductive Shared where
  | handoff (noHandoffFlag anotherInstance spawns : Bool)
  | reconcile
  | quit (spawns : Bool)
  | restage (store : StagingStore)
  | prefer (settings : UpdateSettings)
  deriving DecidableEq

namespace Installation

def step (hash : List UInt8 → String) (build : Build) (i : Installation)
    (event : Shared) : Option Installation :=
  match event with
  | .handoff noHandoffFlag anotherInstance spawns =>
    let (spawned, persisted) :=
      i.persisted.runStartupHandoff hash build.version noHandoffFlag anotherInstance spawns
    some { persisted, spawned := i.spawned ++ spawned.toList }
  | .reconcile => some { i with persisted := i.persisted.reconcileAfterApply build.version }
  | .quit spawns =>
    let (spawned, persisted) := i.persisted.handOff hash build.version spawns
    some { persisted, spawned := i.spawned ++ spawned.toList }
  | .restage store => some { i with persisted := { i.persisted with store } }
  | .prefer settings =>
    some { i with persisted := { i.persisted with settings := { settings with
      handoffVersion := i.persisted.settings.handoffVersion
      handoffAttempts := i.persisted.settings.handoffAttempts } } }

variable {hash : List UInt8 → String} {build : Build} {i i' : Installation} {event : Shared}

inductive Effect (hash : List UInt8 → String) (build : Build) (i i' : Installation) : Prop
  | idle (hrecord : Persisted.SameRecord i.persisted i'.persisted) (hspawned : i'.spawned = i.spawned)
  | spent
      (hspent : isStrictlyNewer i.persisted.settings.handoffVersion build.version = false)
      (hversion : i'.persisted.settings.handoffVersion = "") (hspawned : i'.spawned = i.spawned)
  | attempt (staged : StagedUpdate) (spawned : Option StagedUpdate)
      (hattempt : Persisted.Attempts hash i.persisted i'.persisted build.version spawned staged)
      (hspawned : i'.spawned = i.spawned ++ spawned.toList)

theorem effect_of_handoff {r : Option StagedUpdate × Persisted}
    (hspec : (r.1 = none ∧ Persisted.SameRecord i.persisted r.2) ∨
      ∃ staged, Persisted.Attempts hash i.persisted r.2 build.version r.1 staged)
    : Effect hash build i { persisted := r.2, spawned := i.spawned ++ r.1.toList } := by
  rcases hspec with ⟨hnone, hsame⟩ | ⟨staged, hattempt⟩
  . refine .idle hsame ?_
    rw [hnone]
    apply List.append_nil
  . exact .attempt staged r.1 hattempt rfl

theorem effect_step (hstep : i.step hash build event = some i') : Effect hash build i i' := by
  cases event with
  | handoff noHandoffFlag anotherInstance spawns =>
    rw [← Option.some.inj hstep]
    apply effect_of_handoff
    apply Persisted.runStartupHandoff_spec
  | quit spawns =>
    rw [← Option.some.inj hstep]
    apply effect_of_handoff
    apply Persisted.handOff_spec
  | reconcile =>
    have hspec := i.persisted.reconcileAfterApply_spec build.version
    cases hstep
    rcases hspec with hsame | ⟨_, hspent, hversion⟩
    . exact .idle hsame rfl
    . exact .spent hspent hversion rfl
  | restage store | prefer settings =>
    cases hstep
    exact .idle ⟨rfl, rfl⟩ rfl

def count (i : Installation) (version : String) : Nat :=
  i.spawned.countP fun staged => staged.version = version

structure Paid (build : Build) (version : String) (before i : Installation) : Prop where
  paid : i.count version ≤ before.count version + i.persisted.attempts version
  bounded : i.count version ≤ before.count version + kMaxApplyAttemptsPerVersion
  newer : before.count version < i.count version → isStrictlyNewer version build.version = true

theorem count_of_spawned {i i' : Installation} (h : i'.spawned = i.spawned) (version : String)
    : i'.count version = i.count version := by
  unfold count
  rw [h]

theorem attempts_of_sameRecord {p p' : Persisted} (h : Persisted.SameRecord p p') (version : String)
    : p'.attempts version = p.attempts version := by
  unfold Persisted.attempts
  rw [h.version, h.attempts]

theorem attempts_of_attempts {p p' : Persisted} {staged : StagedUpdate}
    {spawned : Option StagedUpdate}
    (h : Persisted.Attempts hash p p' build.version spawned staged)
    : p'.attempts staged.version = p.attempts staged.version + 1 := by
  rw [← h.attempts]
  unfold Persisted.attempts
  rw [h.version]
  simp

theorem count_attempt {staged : StagedUpdate} {spawned : Option StagedUpdate}
    (hspawned : i'.spawned = i.spawned ++ spawned.toList)
    (h : spawned = none ∨ spawned = some staged) (version : String)
    : i'.count version ≤ i.count version + (if staged.version = version then 1 else 0) := by
  unfold count
  rw [hspawned, List.countP_append]
  rcases h with rfl | rfl
  . simp
  . simp [List.countP_cons]

theorem Paid.step {version : String} {before : Installation} (h : Paid build version before i)
    (hstep : i.step hash build event = some i')
    (hnames : i'.persisted.settings.handoffVersion = version ∨
      i'.persisted.settings.handoffVersion = "")
    : Paid build version before i' := by
  cases effect_step hstep with
  | idle hrecord hspawned =>
    have hcount := count_of_spawned hspawned version
    have hattempts := attempts_of_sameRecord hrecord version
    constructor
    . rw [hcount, hattempts]
      exact h.paid
    . rw [hcount]
      exact h.bounded
    . rw [hcount]
      exact h.newer
  | spent hspent hversion hspawned =>
    have hcount := count_of_spawned hspawned version
    -- a version this build has caught up with was never spawned by it
    have hle : i.count version ≤ before.count version := by
      apply Nat.le_of_not_lt
      intro hlt
      have hnewer := h.newer hlt
      have hpaid := h.paid
      unfold Persisted.attempts at hpaid
      split at hpaid
      next hrecorded =>
        rw [hrecorded, hnewer] at hspent
        cases hspent
      next => omega
    constructor
    . omega
    . omega
    . omega
  | attempt staged spawned hattempt hspawned =>
    have hcount := count_attempt hspawned hattempt.spawned version
    have hnewer := hattempt.applicable.newer
    have hsame : staged.version = version := by
      rw [hattempt.version] at hnames
      rcases hnames with hnames | hnames
      . exact hnames
      . rw [hnames, not_isStrictlyNewer_empty] at hnewer
        cases hnewer
    rw [hsame] at hnewer
    have hattempts := attempts_of_attempts hattempt
    have hbelow := hattempt.below
    have hpaid := h.paid
    rw [hsame] at hattempts hbelow
    rw [if_pos hsame] at hcount
    constructor
    . omega
    . omega
    . intro _
      exact hnewer

theorem paid_refl (build : Build) (version : String) (i : Installation) : Paid build version i i := by
  constructor
  . omega
  . omega
  . omega

def Guarded (hash : List UInt8 → String) (build : Build) (before i : Installation) : Prop :=
  ∃ since, i.spawned = before.spawned ++ since ∧ ∀ staged ∈ since,
    isStrictlyNewer staged.version build.version = true ∧
    sameDigest (hash staged.exe) staged.sha256 = true

theorem Guarded.step {before : Installation} (h : Guarded hash build before i)
    (hstep : i.step hash build event = some i')
    : Guarded hash build before i' := by
  obtain ⟨since, hsince, hguarded⟩ := h
  cases effect_step hstep with
  | idle _ hspawned | spent _ _ hspawned => exact ⟨since, hspawned.trans hsince, hguarded⟩
  | attempt staged spawned hattempt hspawned =>
    refine ⟨since ++ spawned.toList, ?_, ?_⟩
    . rw [hspawned, hsince, List.append_assoc]
    . intro found hmem
      rcases List.mem_append.mp hmem with hmem | hmem
      . exact hguarded found hmem
      . rcases hattempt.spawned with hnone | hsome
        . rw [hnone] at hmem
          cases hmem
        . rw [hsome] at hmem
          rw [List.mem_singleton.mp hmem]
          exact ⟨hattempt.applicable.newer, hattempt.applicable.digest⟩

def NamesNoOther (hash : List UInt8 → String) (build : Build) (version : String) (i : Installation)
    (event : Shared) : Prop :=
  ∀ i', i.step hash build event = some i' →
    i'.persisted.settings.handoffVersion = version ∨ i'.persisted.settings.handoffVersion = ""

instance (hash : List UInt8 → String) (build : Build) (version : String) (i : Installation)
    (event : Shared) : Decidable (NamesNoOther hash build version i event) :=
  match h : i.step hash build event with
  | none => .isTrue (by simp [NamesNoOther, h])
  | some i' =>
    decidable_of_iff (i'.persisted.settings.handoffVersion = version ∨
      i'.persisted.settings.handoffVersion = "") (by simp [NamesNoOther, h])

theorem installers_bounded (hash : List UInt8 → String) (build : Build) (before i : Installation)
    (events : List Shared) (hrun : Transition.run (step hash build) before events = some i)
    : (∀ version,
        Along (step hash build) (NamesNoOther hash build version) before events →
        i.count version ≤ before.count version + kMaxApplyAttemptsPerVersion) ∧
      ∃ since, i.spawned = before.spawned ++ since ∧ ∀ staged ∈ since,
        isStrictlyNewer staged.version build.version = true ∧
        sameDigest (hash staged.exe) staged.sha256 = true := by
  constructor
  . intro version hnames
    have hpaid : Paid build version before i := by
      apply invariant_of_along _ (paid_refl build version before) hnames hrun
      intro i event i' h hnames hstep
      exact h.step hstep (hnames i' hstep)
    exact hpaid.bounded
  . have hguarded : Guarded hash build before i := by
      apply invariant_of_run _ _ hrun
      . intro i event i' h hstep
        exact h.step hstep
      . exact ⟨[], (List.append_nil _).symm, by simp⟩
    exact hguarded

def staged20 : Installation where
  persisted := { store := { ready := [ready20] } }

theorem installers_bounded_staged20
    : ∃ i, Transition.run (step setupHash build01) staged20
        [.handoff false false true, .reconcile, .handoff false false true, .reconcile,
          .handoff false false true] = some i ∧
      i.count "0.2.0" = 2 ∧ i.count "0.2.0" ≤ staged20.count "0.2.0" + kMaxApplyAttemptsPerVersion ∧
      ∃ since, i.spawned = staged20.spawned ++ since ∧ ∀ staged ∈ since,
        isStrictlyNewer staged.version build01.version = true ∧
        sameDigest (setupHash staged.exe) staged.sha256 = true := by
  refine ⟨_, rfl, by decide, ?_⟩
  have h := installers_bounded setupHash build01 staged20 _ [.handoff false false true, .reconcile,
    .handoff false false true, .reconcile, .handoff false false true] rfl
  refine ⟨h.1 "0.2.0" ?_, h.2⟩
  decide

end Installation

namespace Updater

def installation (u : Updater) : Installation where
  persisted := u.persisted
  spawned := u.spawned

variable {hash : List UInt8 → String} {build : Build} {u v u' : Updater} {event : Event}

structure Refines (hash : List UInt8 → String) (build : Build) (u v : Updater) : Prop where
  current : v.life = .Running → v.status.currentVersion = build.version
  run : ∃ events, Transition.run (Installation.step hash build) u.installation events =
    some v.installation

theorem Refines.extend (h : Refines hash build u v) (events : List Shared)
    (hcurrent : u'.life = .Running → u'.status.currentVersion = build.version)
    (hrun : Transition.run (Installation.step hash build) v.installation events =
      some u'.installation)
    : Refines hash build u u' := by
  obtain ⟨before, hbefore⟩ := h.run
  exact ⟨hcurrent, before ++ events, (run_append_of_run hbefore).trans hrun⟩

theorem installation_of_sameRecord
    (hversion : u'.persisted.settings.handoffVersion = v.persisted.settings.handoffVersion)
    (hattempts : u'.persisted.settings.handoffAttempts = v.persisted.settings.handoffAttempts)
    (hspawned : u'.spawned = v.spawned)
    : Transition.run (Installation.step hash build) v.installation
        [.prefer u'.persisted.settings, .restage u'.persisted.store] = some u'.installation := by
  simp only [Transition.run, Installation.step, Option.bind_some, installation]
  rw [← hversion, ← hattempts, ← hspawned]

theorem Refines.worked (h : Refines hash build u v) (hworked : Worked v u')
    : Refines hash build u u' := by
  apply h.extend _ _
    (installation_of_sameRecord hworked.handoffVersion hworked.handoffAttempts hworked.spawned)
  rw [hworked.life, hworked.status]
  exact h.current

theorem Refines.dispatch (h : Refines hash build u v) (e : UpdateEvent)
    : Refines hash build u (v.dispatch e) := by
  have hkept := undispatched_dispatch v e
  apply h.extend _ _
    (installation_of_sameRecord hkept.handoffVersion hkept.handoffAttempts hkept.spawned)
  rw [hkept.life, currentVersion_dispatch]
  exact h.current

theorem Refines.launch (h : Refines hash build u v) (connectivity : Option Connectivity)
    : Refines hash build u (launch build v connectivity) := by
  have hkept := undispatched_launch build v connectivity
  have hconstruct : Refines hash build u (construct build v) := by
    apply h.extend [.reconcile]
    . intro _
      apply currentVersion_initialStatus
    . rfl
  apply hconstruct.extend _ _
    (installation_of_sameRecord hkept.handoffVersion hkept.handoffAttempts hkept.spawned)
  intro _
  apply currentVersion_launch

theorem Refines.start (h : Refines hash build u v) (hoff : v.life = .Off)
    (noHandoffFlag anotherInstance spawns : Bool) (connectivity : Option Connectivity)
    : Refines hash build u (v.start hash build noHandoffFlag anotherInstance spawns connectivity) := by
  have hstep : v.installation.step hash build (.handoff noHandoffFlag anotherInstance spawns) =
      some { persisted := (v.persisted.runStartupHandoff hash build.version noHandoffFlag
               anotherInstance spawns).2
             spawned := v.spawned ++ (v.persisted.runStartupHandoff hash build.version noHandoffFlag
               anotherInstance spawns).1.toList } := by
    rfl
  unfold Updater.start
  split
  next staged persisted heq =>
    rw [heq] at hstep
    apply h.extend [.handoff noHandoffFlag anotherInstance spawns]
    . intro hlife
      rw [hoff] at hlife
      cases hlife
    . rw [run_cons, hstep]
      rfl
  next persisted heq =>
    rw [heq] at hstep
    apply Refines.launch
    apply h.extend [.handoff noHandoffFlag anotherInstance spawns]
    . intro hlife
      rw [hoff] at hlife
      cases hlife
    . rw [run_cons, hstep]
      simp [installation]

theorem Refines.quit (h : Refines hash build u v) (hup : v.life = .Running) (spawns : Bool)
    : Refines hash build u { v.onAboutToQuit hash spawns with life := .Quitting } := by
  unfold onAboutToQuit
  split
  . exact ⟨by simp, h.run⟩
  . apply h.extend [.quit spawns]
    . simp
    . rw [h.current hup]
      rfl

theorem refines_installation (hash : List UInt8 → String) (build : Build) (u u' : Updater)
    (es : List Event) (hoff : u.life = .Off)
    (hrun : Transition.run (step hash build) u es = some u')
    : ∃ events, Transition.run (Installation.step hash build) u.installation events =
        some u'.installation := by
  have hrefines : Refines hash build u u' := by
    apply invariant_of_run _ _ hrun
    . intro v e v' h hstep
      apply step_rule hstep h
      . intro w w' haside hw
        exact hw.worked haside.toWorked
      . intro w e _ hw
        exact hw.dispatch e
      . intro job worker disk _ _
        apply Refines.worked _ (worked_runJob _ job disk)
        exact ⟨h.current, h.run⟩
      . intro noHandoffFlag anotherInstance spawns connectivity hoff
        exact h.start hoff noHandoffFlag anotherInstance spawns connectivity
      . intro spawns hup
        exact h.quit hup spawns
      . intro _ _
        have haborted := h.worked (aside_abortDownload v).toWorked
        exact ⟨by simp, haborted.run⟩
      . intro store _
        exact h.worked (worked_withStore v store)
    . exact ⟨by simp [hoff], [], rfl⟩
  exact hrefines.run

theorem refines_installation_staged20
    : ∃ u' events, Transition.run (step setupHash build01)
        { persisted := Installation.staged20.persisted } [.start false false true none] = some u' ∧
      Transition.run (Installation.step setupHash build01) Installation.staged20 events =
        some u'.installation := by
  obtain ⟨events, hevents⟩ := refines_installation setupHash build01
    { persisted := Installation.staged20.persisted } _ [.start false false true none] rfl rfl
  exact ⟨_, events, rfl, hevents⟩

end Updater

end Update
