import Dish.Update.Lemmas.Capped

/-!
This module contains the proof that a version the user skipped is not left in the staging directory.
-/

open Transition

namespace Update

variable {count : Nat} {e : UpdateEvent} {job : Job} {s : UpdateStatus} {sha256 : String} {size :
  Int} {spawns : Bool}

open UpdateStatus

namespace StagingStore

def holds (store : StagingStore) (version : String) : Prop :=
  store.root ≠ "" ∧ ∃ dir ∈ store.ready, dir.name = version

instance (store : StagingStore) (version : String) : Decidable (store.holds version) :=
  inferInstanceAs (Decidable (_ ∧ _))

variable {store store' : StagingStore} {version : String}

theorem holds_of_subset (h : store'.holds version) (hroot : store'.root = store.root)
    (hready : ∀ dir ∈ store'.ready, dir ∈ store.ready)
    : store.holds version := by
  obtain ⟨hroot', dir, hmem, hname⟩ := h
  exact ⟨hroot ▸ hroot', dir, hready dir hmem, hname⟩

theorem mem_of_mem_removeTree {name : String} {ready : List ReadyDir} {dir : ReadyDir}
    (h : dir ∈ removeTree name ready)
    : dir ∈ ready := by
  exact (List.mem_filter.mp h).1

theorem holds_of_discard {other : String} (h : (store.discard other).holds version)
    : store.holds version := by
  unfold discard at h
  split at h
  . exact h
  . exact holds_of_subset h rfl (fun _ => mem_of_mem_removeTree)

theorem not_holds_discard (hversion : version ≠ "") : ¬(store.discard version).holds version := by
  unfold discard
  rintro ⟨hroot, dir, hmem, hname⟩
  split at hroot
  next h =>
    rcases h with h | h
    . exact hroot h
    . exact hversion h
  next h =>
    rw [if_neg h] at hmem
    have hne := (List.mem_filter.mp hmem).2
    simp [hname] at hne

theorem mem_of_mem_sweepEntry {currentVersion : String} {kept : List ReadyDir × String}
    {entry dir : ReadyDir} (h : dir ∈ (sweepEntry currentVersion kept entry).1)
    : dir ∈ kept.1 := by
  obtain ⟨ready, survivor⟩ := kept
  unfold sweepEntry at h
  dsimp only at h
  split at h
  next => exact mem_of_mem_removeTree h
  next =>
    split at h
    next => exact mem_of_mem_removeTree h
    next =>
      split at h
      next =>
        dsimp only at h
        split at h
        . exact mem_of_mem_removeTree h
        . exact h
      next => exact mem_of_mem_removeTree h

theorem holds_of_sweep {currentVersion : String} {stale : List String}
    (h : (store.sweep currentVersion stale).holds version)
    : store.holds version := by
  have hfold (entries : List ReadyDir) (kept : List ReadyDir × String) {dir : ReadyDir}
      (h : dir ∈ (entries.foldl (sweepEntry currentVersion) kept).1) : dir ∈ kept.1 := by
    induction entries generalizing kept with
    | nil => exact h
    | cons entry entries ih => exact mem_of_mem_sweepEntry (ih _ h)
  unfold sweep at h
  split at h
  . exact h
  . exact holds_of_subset h rfl (fun _ => hfold store.ready (store.ready, ""))

theorem holds_of_promote {hash : List UInt8 → String} {other : String}
    {writes : Writes} (h : (store.promote hash other sha256 size writes).1.holds version)
    : store.holds version ∨ other = version := by
  unfold promote at h
  split at h
  . exact .inl h
  . split at h
    . exact .inl h
    . split at h
      . exact .inl h
      . split at h
        . exact .inl h
        . dsimp only at h
          split at h
          . exact .inl (holds_of_subset h rfl (fun _ => mem_of_mem_removeTree))
          . split at h
            . exact .inl (holds_of_subset h rfl (fun _ => mem_of_mem_removeTree))
            . obtain ⟨hroot, dir, hmem, hname⟩ := h
              rcases List.mem_append.mp hmem with hmem | hmem
              . exact .inl ⟨hroot, dir, mem_of_mem_removeTree hmem, hname⟩
              . right
                rw [← hname, List.mem_singleton.mp hmem]

end StagingStore

namespace Persisted

variable {hash : List UInt8 → String} {p : Persisted} {currentVersion version : String}

theorem holds_of_handOff (h : (p.handOff hash currentVersion spawns).2.store.holds version)
    : p.store.holds version := by
  have hverified : (p.verifiedStageForApply hash currentVersion).2.store.holds version →
      p.store.holds version := by
    unfold verifiedStageForApply
    intro h
    split at h
    . exact h
    . split at h
      . exact h
      . split at h
        . exact StagingStore.holds_of_discard h
        . split at h
          . exact StagingStore.holds_of_discard h
          . split at h
            . exact StagingStore.holds_of_discard h
            . exact h
  apply hverified
  unfold handOff at h
  split at h
  next heq =>
    rw [heq]
    exact h
  next heq =>
    rw [heq]
    split at h
    next => exact StagingStore.holds_of_discard h
    next hrecord =>
      unfold recordAttempt at hrecord
      split at hrecord
      next => cases hrecord
      next =>
        cases hrecord
        exact h

theorem holds_of_runStartupHandoff {noHandoffFlag anotherInstance : Bool}
    (h : (p.runStartupHandoff hash currentVersion noHandoffFlag anotherInstance spawns).2.store.holds
      version)
    : p.store.holds version := by
  unfold runStartupHandoff at h
  split at h
  . exact h
  . split at h
    . exact h
    . exact holds_of_handOff h

theorem holds_of_spawned {staged : StagedUpdate}
    (h : (p.handOff hash currentVersion spawns).1 = some staged)
    : p.store.holds staged.version := by
  rcases p.handOff_spec hash currentVersion spawns with ⟨hnone, _⟩ | ⟨found, hattempt⟩
  . rw [hnone] at h
    cases h
  . rcases hattempt.spawned with hnone | hsome
    . rw [hnone] at h
      cases h
    . rw [hsome] at h
      cases h
      obtain ⟨dir, hmem, hread⟩ := hattempt.applicable.stands
      exact ⟨hattempt.applicable.rooted, dir, hmem, (readStagedDir_eq_some hread).version.symm⟩

end Persisted

theorem Moves.promotes {r : UpdateReduction} {version : String} (h : Moves s e r)
    (hmem : Job.Promote version sha256 size ∈ r.effects.filterMap (UpdateEffect.job r.next))
    : s.phase = .Downloading ∧ s.availableVersion = version ∧
      ∃ partPath, e = .DownloadFinished partPath := by
  obtain ⟨effect, hmem, hjob⟩ := List.mem_filterMap.mp hmem
  cases h.issues hmem with
  | verify hevent hloading =>
    cases hjob
    exact ⟨hloading, rfl, _, hevent⟩
  | tidy htidy => cases effect <;> simp [UpdateEffect.tidies, UpdateEffect.job] at htidy hjob
  | schedule | fetch => contradiction
  | start | download => simp [UpdateEffect.job, startAvailable] at hjob

theorem Moves.downloading {r : UpdateReduction}
    (h : Moves s e r) (hphase : r.next.phase = .Downloading)
    : (s.phase = .Downloading ∧ s.availableVersion = r.next.availableVersion) ∨
      r.next.availableVersion ∈ r.effects.filterMap UpdateEffect.starts := by
  cases h with
  | keep hsame hoffer | rearm hsame hoffer =>
    exact .inl ⟨hsame.symm.trans hphase, hoffer.version.symm⟩
  | start _ _ hoffer => simp [UpdateEffect.starts, startAvailable, hoffer.version]
  | download => simp [UpdateEffect.starts, startAvailable]
  -- the others lead to another phase
  | _ => simp_all

def Job.promotes (version : String) : Job → Bool
  | .Promote other _ _ => other = version
  | _ => false

namespace Updater

variable {hash : List UInt8 → String} {build : Build} {u v w : Updater} {event : Event}
  {version : String} {due : Nat}

structure Cleared (version : String) (due : Nat) (u : Updater) : Prop where
  idle : u.life = .Off → u.worker = []
  unstarted : u.life = .Running → u.status.phase = .Downloading → u.status.availableVersion ≠ version
  unpromoted : ∀ sha256 size, Job.Promote version sha256 size ∉ u.worker
  gone : ¬u.persisted.store.holds version ∨
    ∃ i, u.worker[i]? = some (.Discard version) ∧ u.ran + i < due

theorem holds_of_aside (haside : Aside u v) (h : v.persisted.store.holds version)
    : u.persisted.store.holds version := by
  apply StagingStore.holds_of_subset h haside.root
  rw [haside.ready]
  exact fun _ h => h

theorem Cleared.aside (h : Cleared version due u) (haside : Aside u v) : Cleared version due v := by
  constructor
  . rw [haside.life, haside.worker]
    exact h.idle
  . rw [haside.life, haside.status]
    exact h.unstarted
  . rw [haside.worker]
    exact h.unpromoted
  . rw [haside.worker, haside.ran]
    rcases h.gone with hgone | hdue
    . exact .inl (fun hholds => hgone (holds_of_aside haside hholds))
    . exact .inr hdue

theorem Cleared.dispatch (h : Cleared version due v) (hlife : v.life = .Running)
    (hcount : (v.dispatch e).downloads.count version = v.downloads.count version)
    : Cleared version due (v.dispatch e) := by
  have hkept := undispatched_dispatch v e
  have hmoves := moves_reduceUpdate v.status e
  constructor
  . intro hoff
    rw [hkept.life, hlife] at hoff
    cases hoff
  . intro _ hphase hversion
    rw [status_dispatch] at hphase hversion
    rcases hmoves.downloading hphase with ⟨hphase, hsame⟩ | hstarts
    . exact h.unstarted hlife hphase (hsame.trans hversion)
    . rw [downloads_dispatch, List.count_append] at hcount
      have hpos := List.count_pos_iff.mpr hstarts
      rw [hversion] at hpos
      omega
  . intro sha256 size hmem
    rw [worker_dispatch] at hmem
    rcases List.mem_append.mp hmem with hmem | hmem
    . exact h.unpromoted sha256 size hmem
    . obtain ⟨hphase, hversion, _⟩ := hmoves.promotes hmem
      exact h.unstarted hlife hphase hversion
  . rw [hkept.store, hkept.ran, worker_dispatch]
    rcases h.gone with hgone | ⟨i, hjob, hdue⟩
    . exact .inl hgone
    . right
      refine ⟨i, ?_, hdue⟩
      have hlt := (List.getElem?_eq_some_iff.mp hjob).1
      rw [List.getElem?_append_left hlt]
      exact hjob

structure Watched (version : String) (due count : Nat) (u : Updater) : Prop where
  counted : count ≤ u.downloads.count version
  cleared : u.downloads.count version = count → Cleared version due u

theorem Watched.dispatch (h : Watched version due count v) (hlife : v.life = .Running)
    (e : UpdateEvent)
    : Watched version due count (v.dispatch e) := by
  have hle : v.downloads.count version ≤ (v.dispatch e).downloads.count version := by
    rw [downloads_dispatch, List.count_append]
    exact Nat.le_add_right _ _
  have hcounted := h.counted
  constructor
  . exact Nat.le_trans hcounted hle
  . intro hcount
    have hsame : v.downloads.count version = count := by omega
    apply (h.cleared hsame).dispatch hlife
    rw [hcount, hsame]

theorem Watched.hookConnectivity (h : Watched version due count v)
    (hlife : v.life = .Running) (connectivity : Option Connectivity)
    : Watched version due count (v.hookConnectivity connectivity) := by
  unfold Updater.hookConnectivity
  split
  next => exact h
  next info =>
    have hreach := h.dispatch hlife (.ReachabilityChanged info.online)
    dsimp only
    cases info.metered with
    | none => exact hreach
    | some metered =>
      apply hreach.dispatch
      rw [(undispatched_dispatch v _).life]
      exact hlife

theorem Cleared.runOnWorker (h : Cleared version due v) (hlife : v.life = .Running)
    (hjob : ∀ sha256 size, job ≠ .Promote version sha256 size)
    : Cleared version due (v.runOnWorker job) := by
  constructor
  . intro hoff
    change v.life = .Off at hoff
    rw [hlife] at hoff
    cases hoff
  . exact h.unstarted
  . intro sha256 size hmem
    rcases List.mem_append.mp hmem with hmem | hmem
    . exact h.unpromoted sha256 size hmem
    . exact hjob sha256 size (List.mem_singleton.mp hmem).symm
  . rcases h.gone with hgone | ⟨i, hpending, hdue⟩
    . exact .inl hgone
    . right
      refine ⟨i, ?_, hdue⟩
      have hlt := (List.getElem?_eq_some_iff.mp hpending).1
      exact (List.getElem?_append_left hlt).trans hpending

theorem Watched.launch (hcount : count ≤ u.downloads.count version)
    (hgone : u.downloads.count version = count → ¬u.persisted.store.holds version) (build : Build)
    (connectivity : Option Connectivity)
    : Watched version due count (launch build u connectivity) := by
  have hconstruct : Watched version due count (construct build u) := by
    refine ⟨hcount, fun h => ⟨?_, ?_, ?_, .inl ?_⟩⟩
    . intro hoff
      cases hoff
    . intro _ hphase
      change (initialStatus build u.persisted.settings).phase = .Downloading at hphase
      rcases phase_initialStatus build u.persisted.settings with hinitial | ⟨_, hinitial⟩
      . rw [hinitial] at hphase
        split at hphase
        . cases hphase
        . cases hphase
      . rw [hinitial] at hphase
        cases hphase
    . intro sha256 size hmem
      cases hmem
    . have hstore : (construct build u).persisted.store = u.persisted.store :=
        Persisted.store_reconcileAfterApply _ _
      rw [hstore]
      exact hgone h
  have hhook := hconstruct.hookConnectivity rfl connectivity
  have hlife := (undispatched_hookConnectivity (construct build u) connectivity).life
  unfold Updater.launch scheduleStartupCheck
  dsimp only
  generalize (construct build u).hookConnectivity connectivity = v at hhook hlife
  have hqueued (h : v.downloads.count version = count)
      : Cleared version due ((v.runOnWorker (.Sweep v.status.currentVersion)).runOnWorker
        .ScanStaging) := by
    apply ((hhook.cleared h).runOnWorker hlife (by simp)).runOnWorker
    . exact hlife
    . simp
  split
  . exact ⟨hhook.counted, hqueued⟩
  . refine ⟨hhook.counted, fun h => ?_⟩
    have hcleared := hqueued h
    exact ⟨hcleared.idle, hcleared.unstarted, hcleared.unpromoted, hcleared.gone⟩

theorem holds_of_runJob {disk : DiskAnswers}
    (h : (u.runJob hash job disk).persisted.store.holds version)
    : u.persisted.store.holds version ∨ ∃ sha256 size, job = .Promote version sha256 size := by
  cases job with
  | Promote other sha256 size =>
    rcases StagingStore.holds_of_promote h with h | rfl
    . exact .inl h
    . exact .inr ⟨_, _, rfl⟩
  | Discard other => exact .inl (StagingStore.holds_of_discard h)
  | Sweep currentVersion => exact .inl (StagingStore.holds_of_sweep h)
  | StartDownload request => exact .inl (holds_of_aside (aside_startDownload u request disk) h)
  | AbortDownload => exact .inl (holds_of_aside (aside_abortDownload u) h)
  | ScanStaging => exact .inl (holds_of_aside (aside_scanStaging u) h)

theorem Cleared.work (h : Cleared version due u) (hversion : version ≠ "")
    {worker : List Job} (hworker : u.worker = job :: worker) (hup : u.life ≠ .Off)
    (disk : DiskAnswers)
    : Cleared version due (runJob hash { u with worker, ran := u.ran + 1 } job disk) := by
  have hworked : Worked { u with worker, ran := u.ran + 1 }
      (runJob hash { u with worker, ran := u.ran + 1 } job disk) := worked_runJob _ job disk
  have hunpromoted := h.unpromoted
  have hgone := h.gone
  rw [hworker] at hunpromoted hgone
  constructor
  . rw [hworked.life]
    exact fun hoff => absurd hoff hup
  . rw [hworked.life, hworked.status]
    exact h.unstarted
  . rw [hworked.worker]
    exact fun sha256 size hmem => hunpromoted sha256 size (.tail _ hmem)
  . rw [hworked.worker, hworked.ran]
    have hstays (hgone : ¬u.persisted.store.holds version)
        : ¬(runJob hash { u with worker, ran := u.ran + 1 } job disk).persisted.store.holds
          version := by
      intro hholds
      rcases holds_of_runJob hholds with hholds | ⟨sha256, size, rfl⟩
      . exact hgone hholds
      . exact hunpromoted sha256 size (.head _)
    rcases hgone with hgone | ⟨i, hjob, hdue⟩
    . exact .inl (hstays hgone)
    . cases i with
      | zero =>
        left
        cases hjob
        exact StagingStore.not_holds_discard hversion
      | succ i =>
        right
        refine ⟨i, hjob, ?_⟩
        dsimp only
        omega

theorem Cleared.not_holds (h : Cleared version due u) (hworker : u.worker = [])
    : ¬u.persisted.store.holds version := by
  rcases h.gone with hgone | ⟨i, hjob, _⟩
  . exact hgone
  . rw [hworker] at hjob
    cases hjob

theorem Watched.start (h : Watched version due count u) (hoff : u.life = .Off)
    (noHandoffFlag anotherInstance spawns : Bool) (connectivity : Option Connectivity)
    : Watched version due count
        (u.start hash build noHandoffFlag anotherInstance spawns connectivity) := by
  have hgone (hcount : u.downloads.count version = count)
      : ¬(u.persisted.runStartupHandoff hash build.version noHandoffFlag anotherInstance
          spawns).2.store.holds version := by
    have hcleared := h.cleared hcount
    exact fun hholds => hcleared.not_holds (hcleared.idle hoff)
      (Persisted.holds_of_runStartupHandoff hholds)
  unfold Updater.start
  split
  next heq =>
    rw [heq] at hgone
    refine ⟨h.counted, fun hcount => ?_⟩
    have hcleared := h.cleared hcount
    exact ⟨hcleared.idle, hcleared.unstarted, hcleared.unpromoted, .inl (hgone hcount)⟩
  next persisted heq =>
    rw [heq] at hgone
    exact Watched.launch (u := { u with persisted }) h.counted hgone build connectivity

theorem Watched.quit (h : Watched version due count u) (spawns : Bool)
    : Watched version due count { u.onAboutToQuit hash spawns with life := .Quitting } := by
  unfold onAboutToQuit
  split
  . refine ⟨h.counted, fun hcount => ?_⟩
    have hcleared := h.cleared hcount
    exact ⟨by simp, by simp, hcleared.unpromoted, hcleared.gone⟩
  . refine ⟨h.counted, fun hcount => ?_⟩
    have hcleared := h.cleared hcount
    refine ⟨by simp, by simp, hcleared.unpromoted, ?_⟩
    rcases hcleared.gone with hgone | hdue
    . exact .inl (fun hholds => hgone (Persisted.holds_of_handOff hholds))
    . exact .inr hdue

theorem Watched.step (h : Watched version due count u) (hversion : version ≠ "")
    (hfiles : ∀ store, event ≠ .tamper store) (hstep : u.step hash build event = some v)
    : Watched version due count v := by
  apply step_rule hstep h
  . intro w w' haside hw
    refine ⟨?_, ?_⟩
    . rw [haside.downloads]
      exact hw.counted
    . rw [haside.downloads]
      exact fun hcount => (hw.cleared hcount).aside haside
  . intro w e hhanding hw
    exact hw.dispatch (hhanding.life.trans hhanding.up) e
  . intro job worker disk _ hworker
    have hworked : Worked { u with worker, ran := u.ran + 1 }
        (runJob hash { u with worker, ran := u.ran + 1 } job disk) := worked_runJob _ job disk
    have hdownloads := hworked.downloads
    refine ⟨?_, ?_⟩
    . rw [hdownloads]
      exact h.counted
    . rw [hdownloads]
      intro hcount
      have hcleared := h.cleared hcount
      apply hcleared.work hversion hworker
      intro hoff
      rw [hcleared.idle hoff] at hworker
      cases hworker
  . intro noHandoffFlag anotherInstance spawns connectivity hoff
    exact h.start hoff noHandoffFlag anotherInstance spawns connectivity
  . intro spawns _
    exact h.quit spawns
  . intro _ hworker
    have haside := aside_abortDownload u
    refine ⟨?_, ?_⟩
    . exact haside.downloads ▸ h.counted
    . intro hcount
      have hcleared := (h.cleared (haside.downloads ▸ hcount)).aside haside
      refine ⟨?_, by simp, hcleared.unpromoted, hcleared.gone⟩
      intro _
      exact haside.worker.trans hworker
  . intro store htamper
    exact absurd htamper (hfiles store)

structure Knows (u : Updater) (version : String) : Prop where
  unpromoted : ∀ job ∈ u.worker, job.promotes version = false
  staged : u.persisted.store.holds version → u.status.stagedVersion = version

theorem stagedVersion_prefsChanged (s : UpdateStatus) (checks download : Bool) (skipped : String)
    : let n := (reduceUpdate s (.PrefsChanged checks download skipped)).next
      n.stagedVersion = s.stagedVersion ∧ n.availableVersion = s.availableVersion ∧
      n.required = s.required := by
  simp only [reduceUpdate, onPrefsChanged]
  split
  . exact ⟨rfl, rfl, rfl⟩
  . split
    . exact ⟨rfl, rfl, rfl⟩
    . split
      . exact ⟨rfl, rfl, rfl⟩
      . exact ⟨rfl, rfl, rfl⟩

theorem promote_mem_dispatch (he : ∀ partPath, e ≠ .DownloadFinished partPath)
    (hmem : Job.Promote version sha256 size ∈ (v.dispatch e).worker)
    : Job.Promote version sha256 size ∈ v.worker := by
  rw [worker_dispatch] at hmem
  rcases List.mem_append.mp hmem with hmem | hmem
  . exact hmem
  . obtain ⟨_, _, partPath, hfinished⟩ := (moves_reduceUpdate v.status e).promotes hmem
    exact absurd hfinished (he partPath)

theorem Knows.prefsChanged (h : v.Knows version) (checks download : Bool) (skipped : String)
    : (v.dispatch (.PrefsChanged checks download skipped)).Knows version := by
  have hkept := undispatched_dispatch v (.PrefsChanged checks download skipped)
  constructor
  . intro job hmem
    cases job with
    | Promote other sha256 size =>
      have hmem := promote_mem_dispatch (by simp) hmem
      exact h.unpromoted _ hmem
    | _ => rfl
  . rw [hkept.store, status_dispatch, (stagedVersion_prefsChanged v.status checks download skipped).1]
    exact h.staged

theorem skipsOffered_prefsChanged (h : v.status.SkipsOffered version) (checks download : Bool)
    (skipped : String)
    : (v.dispatch (.PrefsChanged checks download skipped)).status.SkipsOffered version := by
  obtain ⟨_, havailable, hrequired⟩ := stagedVersion_prefsChanged v.status checks download skipped
  rw [status_dispatch]
  exact ⟨hrequired.trans h.1, h.2.1, havailable.trans h.2.2⟩

theorem Knows.setSkippedVersion (h : u.Knows version) (hskips : u.status.SkipsOffered version)
    : (u.setSkippedVersion version).Knows version ∧
      (u.setSkippedVersion version).status.SkipsOffered version := by
  unfold Updater.setSkippedVersion
  split
  . exact ⟨h, hskips⟩
  . unfold dispatchPrefs
    refine ⟨Knows.prefsChanged ?_ _ _ _, skipsOffered_prefsChanged ?_ _ _ _⟩
    . exact ⟨h.unpromoted, h.staged⟩
    . exact hskips

theorem onSkipRequested_offered (h : s.SkipsOffered version)
    : (s.onSkipRequested version).next.phase = .UpToDate ∧
      (s.stagedVersion = version →
        .DiscardStaged version ∈ (s.onSkipRequested version).effects) := by
  obtain ⟨hrequired, hversion, havailable⟩ := h
  unfold onSkipRequested
  rw [if_neg (by simp [hrequired, hversion])]
  refine ⟨?_, ?_⟩
  . dsimp only
    rw [if_pos havailable]
    rfl
  . intro hstaged
    simp [hstaged, hversion]

theorem cleared_skip (h : v.Knows version) (hskips : v.status.SkipsOffered version)
    (hlife : v.life = .Running)
    : Cleared version ((v.dispatch (.SkipRequested version)).ran +
        (v.dispatch (.SkipRequested version)).worker.length)
        (v.dispatch (.SkipRequested version)) := by
  have hkept := undispatched_dispatch v (.SkipRequested version)
  obtain ⟨hphase, hdiscards⟩ := onSkipRequested_offered hskips
  constructor
  . intro hoff
    rw [hkept.life, hlife] at hoff
    cases hoff
  . intro _ hdownloading
    rw [status_dispatch] at hdownloading
    change (v.status.onSkipRequested version).next.phase = .Downloading at hdownloading
    rw [hphase] at hdownloading
    cases hdownloading
  . intro sha256 size hmem
    have hmem := h.unpromoted _ (promote_mem_dispatch (by simp) hmem)
    simp [Job.promotes] at hmem
  . by_cases hholds : v.persisted.store.holds version
    . right
      have hmem : Job.Discard version ∈ (v.dispatch (.SkipRequested version)).worker := by
        rw [worker_dispatch]
        apply List.mem_append_right
        apply List.mem_filterMap.mpr
        exact ⟨_, hdiscards (h.staged hholds), rfl⟩
      obtain ⟨i, hi⟩ := List.mem_iff_getElem?.mp hmem
      have hlt := (List.getElem?_eq_some_iff.mp hi).1
      exact ⟨i, hi, by omega⟩
    . left
      rw [hkept.store]
      exact hholds

theorem skipped_not_staged (hash : List UInt8 → String) (build : Build) (version : String)
    (u skipped u' : Updater) (es : List Event)
    (hskips : u.status.SkipsOffered version) (hknows : u.Knows version)
    (hskip : u.step hash build .skipAvailableVersion = some skipped)
    (hfiles : ∀ e ∈ es, ∀ store, e ≠ .tamper store)
    (hrun : Transition.run (step hash build) skipped es = some u')
    (hdownloads : u'.downloads.count version = skipped.downloads.count version)
    (hran : skipped.ran + skipped.worker.length ≤ u'.ran)
    : ¬u'.persisted.store.holds version ∧
      ∀ spawns staged, (u'.persisted.handOff hash build.version spawns).1 = some staged →
        staged.version ≠ version := by
  obtain ⟨hlife, rfl⟩ := onMain_eq_some hskip
  have hskipped : u.skipAvailableVersion =
      (u.setSkippedVersion version).dispatch (.SkipRequested version) := by
    obtain ⟨hrequired, hversion, havailable⟩ := hskips
    unfold skipAvailableVersion
    dsimp only
    rw [havailable, if_neg (by simp [hrequired, hversion])]
  obtain ⟨hknows, hskips'⟩ := hknows.setSkippedVersion hskips
  have hlife := (undispatched_setSkippedVersion u version).1.trans hlife
  have hcleared := cleared_skip hknows hskips' hlife
  rw [← hskipped] at hcleared
  have hwatched : Watched version (u.skipAvailableVersion.ran + u.skipAvailableVersion.worker.length)
      (u.skipAvailableVersion.downloads.count version) u' := by
    apply invariant_of_along (P := fun _ e => ∀ store, e ≠ Event.tamper store) _ _ _ hrun
    . intro u e u' h hfiles hstep
      exact h.step hskips.2.1 hfiles hstep
    . exact ⟨Nat.le_refl _, fun _ => hcleared⟩
    . apply along_of_forall
      intro e he _
      exact hfiles e he
  have hgone : ¬u'.persisted.store.holds version := by
    rcases (hwatched.cleared hdownloads).gone with hgone | ⟨i, _, hdue⟩
    . exact hgone
    . omega
  refine ⟨hgone, ?_⟩
  rintro spawns staged hspawned rfl
  exact hgone (Persisted.holds_of_spawned hspawned)

def after (u : Updater) (es : List Event) : Updater :=
  (Transition.run (step setupHash build01) u es).getD u

theorem skipped_not_staged_downloading
    : let u := after {} ((updateCycle release20).take 7)
      let skipped := after u [.skipAvailableVersion]
      let u' := after skipped [.work {}]
      u.status.phase = .Downloading ∧ u.step setupHash build01 .skipAvailableVersion = some skipped ∧
      ¬u'.persisted.store.holds "0.2.0" ∧
      ∀ spawns staged, (u'.persisted.handOff setupHash build01.version spawns).1 = some staged →
        staged.version ≠ "0.2.0" := by
  refine ⟨by decide, by decide, ?_⟩
  exact skipped_not_staged setupHash build01 "0.2.0" (after {} ((updateCycle release20).take 7)) _ _
    [.work {}] (by decide) ⟨by decide, by decide⟩ rfl (by simp) rfl (by decide) (by decide)

theorem skip_while_verifying_installs
    : let u := after {} ((updateCycle release20).take 9)
      let skipped := after u [.skipAvailableVersion]
      let u' := after skipped [.work {}]
      let started := after u' [.deliver, .aboutToQuit true, .exit, .start false false true none]
      u.status.SkipsOffered "0.2.0" ∧
      u.step setupHash build01 .skipAvailableVersion = some skipped ∧
      skipped.step setupHash build01 (.work {}) = some u' ∧
      u'.downloads.count "0.2.0" = skipped.downloads.count "0.2.0" ∧
      skipped.ran + skipped.worker.length ≤ u'.ran ∧ u'.persisted.store.holds "0.2.0" ∧
      started.spawned.map StagedUpdate.version = ["0.2.0"] := by
  decide

end Updater

end Update
