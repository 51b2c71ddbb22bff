import Dish.Lib.Transition
import Dish.Update.Lemmas.Moves
import Dish.Update.Lemmas.Dispatch

/-!
This module contains the rule by which a property of the updater is carried over a step.
-/

namespace Update

def UpdateEvent.fromWorker : UpdateEvent → Bool
  | .DownloadStarted _ => true
  | .DownloadProgress _ => true
  | .DownloadFinished _ => true
  | .DownloadFailed _ => true
  | .VerifyOk _ => true
  | .VerifyFailed => true
  | .StagedFound _ _ => true
  | _ => false

namespace Updater

variable {hash : List UInt8 → String} {build : Build}

structure Worked (u u' : Updater) : Prop where
  life : u'.life = u.life
  status : u'.status = u.status
  worker : u'.worker = u.worker
  ran : u'.ran = u.ran
  handoffVersion : u'.persisted.settings.handoffVersion = u.persisted.settings.handoffVersion
  handoffAttempts : u'.persisted.settings.handoffAttempts = u.persisted.settings.handoffAttempts
  downloads : u'.downloads = u.downloads
  spawned : u'.spawned = u.spawned
  main : ∀ e ∈ u'.main, e ∈ u.main ∨ e.fromWorker = true

structure Aside (u u' : Updater) : Prop extends Worked u u' where
  root : u'.persisted.store.root = u.persisted.store.root
  ready : u'.persisted.store.ready = u.persisted.store.ready

def Dispatches (u : Updater) : Event → UpdateEvent → Prop
  | .timeout, e => e = .CheckRequested .Periodic
  | .checkNow, e => e = .CheckRequested .Manual
  | .downloadNow, e => e = .DownloadRequested
  | .skipAvailableVersion, e =>
    e = .SkipRequested u.status.availableVersion ∨
    ∃ checks download skipped, e = .PrefsChanged checks download skipped
  | .setChecksEnabled _, e => ∃ checks download skipped, e = .PrefsChanged checks download skipped
  | .setAutoDownload _, e => ∃ checks download skipped, e = .PrefsChanged checks download skipped
  | .reachabilityChanged online, e => e = .ReachabilityChanged online
  | .meteredChanged metered, e => e = .MeteredChanged metered
  | .manifest manifest, e => e = .ManifestArrived manifest
  | .checkFailed error, e => e = .CheckFailed error
  | .deliver, e => e ∈ u.main
  | _, _ => False

structure Handing (u : Updater) (event : Event) (v : Updater) (e : UpdateEvent) : Prop where
  dispatches : u.Dispatches event e
  up : u.life = .Running
  life : v.life = u.life
  handoffVersion : v.persisted.settings.handoffVersion = u.persisted.settings.handoffVersion
  handoffAttempts : v.persisted.settings.handoffAttempts = u.persisted.settings.handoffAttempts
  status : e.answers = true → v.status = u.status

theorem Worked.runOnMain {u v : Updater} {e : UpdateEvent} (h : Worked u v)
    (he : e.fromWorker = true)
    : Worked u (v.runOnMain e) := by
  refine ⟨h.life, h.status, h.worker, h.ran, h.handoffVersion, h.handoffAttempts, h.downloads,
    h.spawned, ?_⟩
  intro e' hmem
  rcases List.mem_append.mp hmem with hmem | hmem
  . exact h.main e' hmem
  . right
    rw [List.mem_singleton.mp hmem]
    exact he

theorem Aside.runOnMain {u v : Updater} {e : UpdateEvent} (h : Aside u v) (he : e.fromWorker = true)
    : Aside u (v.runOnMain e) := by
  exact ⟨h.toWorked.runOnMain he, h.root, h.ready⟩

theorem aside_refl (u : Updater) : Aside u u := by
  exact ⟨⟨rfl, rfl, rfl, rfl, rfl, rfl, rfl, rfl, fun _ h => .inl h⟩, rfl, rfl⟩

theorem aside_discardPart (u : Updater) (version : String) : Aside u (u.discardPart version) := by
  exact ⟨⟨rfl, rfl, rfl, rfl, rfl, rfl, rfl, rfl, fun _ h => .inl h⟩, rfl, rfl⟩

theorem aside_endTransfer {u v : Updater} (h : Aside u v)
    : Aside u { v with transfer := none } := by
  exact ⟨⟨h.life, h.status, h.worker, h.ran, h.handoffVersion, h.handoffAttempts, h.downloads,
    h.spawned, h.main⟩, h.root, h.ready⟩

theorem aside_failTransfer (u : Updater) (request : DownloadRequest) (error : UpdateError)
    : Aside u (u.failTransfer request error) := by
  unfold failTransfer
  exact (aside_endTransfer (aside_discardPart u request.version)).runOnMain rfl

theorem aside_finishTransfer (u : Updater) (request : DownloadRequest) (bytes : List UInt8)
    : Aside u (u.finishTransfer hash request bytes) := by
  unfold finishTransfer
  split
  . apply aside_failTransfer
  . split
    . apply aside_failTransfer
    . refine (aside_endTransfer ?_).runOnMain rfl
      exact ⟨⟨rfl, rfl, rfl, rfl, rfl, rfl, rfl, rfl, fun _ h => .inl h⟩, rfl, rfl⟩

theorem aside_startDownload (u : Updater) (request : DownloadRequest) (disk : DiskAnswers)
    : Aside u (u.startDownload request disk) := by
  unfold startDownload
  split
  . exact (aside_refl u).runOnMain rfl
  . split
    . exact (aside_refl u).runOnMain rfl
    . split
      . apply aside_refl
      . split
        . exact (aside_discardPart u request.version).runOnMain rfl
        . exact ⟨⟨rfl, rfl, rfl, rfl, rfl, rfl, rfl, rfl, fun _ h => .inl h⟩, rfl, rfl⟩

theorem aside_abortDownload (u : Updater) : Aside u u.abortDownload := by
  unfold abortDownload
  split
  . apply aside_refl
  . exact aside_endTransfer (aside_discardPart u _)

theorem aside_scanStaging (u : Updater) : Aside u u.scanStaging := by
  unfold scanStaging
  split
  . apply aside_refl
  . exact (aside_refl u).runOnMain rfl

theorem worked_withStore (u : Updater) (store : StagingStore) : Worked u (u.withStore store) := by
  exact ⟨rfl, rfl, rfl, rfl, rfl, rfl, rfl, rfl, fun _ h => .inl h⟩

theorem worked_runJob (u : Updater) (job : Job) (disk : DiskAnswers)
    : Worked u (u.runJob hash job disk) := by
  cases job with
  | StartDownload request => exact (aside_startDownload u request disk).toWorked
  | AbortDownload => exact (aside_abortDownload u).toWorked
  | ScanStaging => exact (aside_scanStaging u).toWorked
  | Discard version => apply worked_withStore
  | Sweep currentVersion => apply worked_withStore
  | Promote version sha256 size =>
    unfold runJob promote
    dsimp only
    apply (worked_withStore u _).runOnMain
    split
    . rfl
    . rfl

theorem undispatched_setSkippedVersion (u : Updater) (version : String)
    : (u.setSkippedVersion version).life = u.life ∧
      (u.setSkippedVersion version).persisted.settings.handoffVersion =
        u.persisted.settings.handoffVersion ∧
      (u.setSkippedVersion version).persisted.settings.handoffAttempts =
        u.persisted.settings.handoffAttempts := by
  unfold setSkippedVersion
  split
  . exact ⟨rfl, rfl, rfl⟩
  . unfold dispatchPrefs
    dsimp only
    have hkept := undispatched_dispatch { u with persisted.settings.skippedVersion := version }
      (.PrefsChanged u.persisted.settings.checksEnabled u.persisted.settings.autoDownload version)
    exact ⟨hkept.life, hkept.handoffVersion, hkept.handoffAttempts⟩

section Rule

variable {I : Updater → Prop} {u u' : Updater} {event : Event}

theorem onMain_eq_some {next : Updater} (h : u.onMain next = some u')
    : u.life = .Running ∧ next = u' := by
  unfold onMain at h
  split at h
  next hlife => exact ⟨hlife, Option.some.inj h⟩
  next => cases h

theorem setPref_rule {settings : UpdateSettings} {same : Prop} [Decidable same]
    (hI : I u) (haside : ∀ v w, Aside v w → I v → I w)
    (hdispatch : ∀ v e, Handing u event v e → I v → I (v.dispatch e)) (hup : u.life = .Running)
    (hprefs : ∀ checks download skipped, u.Dispatches event (.PrefsChanged checks download skipped))
    (hhandoff : settings.handoffVersion = u.persisted.settings.handoffVersion ∧
      settings.handoffAttempts = u.persisted.settings.handoffAttempts)
    : I (if same then u else dispatchPrefs { u with persisted := { u.persisted with settings } }) := by
  split
  . exact hI
  . apply hdispatch _ _
    . exact ⟨hprefs _ _ _, hup, rfl, hhandoff.1, hhandoff.2, by simp [UpdateEvent.answers]⟩
    . apply haside u _ _ hI
      exact ⟨⟨rfl, rfl, rfl, rfl, hhandoff.1, hhandoff.2, rfl, rfl, fun _ h => .inl h⟩, rfl, rfl⟩

theorem step_rule (hstep : u.step hash build event = some u') (hI : I u)
    (haside : ∀ v w, Aside v w → I v → I w)
    (hdispatch : ∀ v e, Handing u event v e → I v → I (v.dispatch e))
    (hwork : ∀ job worker disk, event = .work disk → u.worker = job :: worker →
      I (runJob hash { u with worker, ran := u.ran + 1 } job disk))
    (hstart : ∀ noHandoffFlag anotherInstance spawns connectivity, u.life = .Off →
      I (u.start hash build noHandoffFlag anotherInstance spawns connectivity))
    (hquit : ∀ spawns, u.life = .Running → I { u.onAboutToQuit hash spawns with life := .Quitting })
    (hexit : u.life = .Quitting → u.worker = [] → I { u.abortDownload with life := .Off, main := [] })
    (htamper : ∀ store, event = .tamper store → I (u.withStore store))
    : I u' := by
  have hhand {v : Updater} {e : UpdateEvent} (hd : u.Dispatches event e) (hlife : u.life = .Running)
      (ha : Aside u v) : I (v.dispatch e) :=
    hdispatch v e ⟨hd, hlife, ha.life, ha.handoffVersion, ha.handoffAttempts, fun _ => ha.status⟩
      (haside u v ha hI)
  cases event with
  | start noHandoffFlag anotherInstance spawns connectivity =>
    simp only [step] at hstep
    split at hstep
    next hoff =>
      cases hstep
      exact hstart _ _ _ _ hoff
    next => cases hstep
  | timeout =>
    simp only [step] at hstep
    split at hstep
    next => cases hstep
    next =>
      obtain ⟨hlife, rfl⟩ := onMain_eq_some hstep
      exact hhand rfl hlife ⟨⟨rfl, rfl, rfl, rfl, rfl, rfl, rfl, rfl, fun _ h => .inl h⟩, rfl, rfl⟩
  | checkNow =>
    obtain ⟨hlife, rfl⟩ := onMain_eq_some hstep
    unfold checkNow
    split
    . exact hI
    . exact hhand rfl hlife ⟨⟨rfl, rfl, rfl, rfl, rfl, rfl, rfl, rfl, fun _ h => .inl h⟩, rfl, rfl⟩
  | downloadNow | reachabilityChanged online | meteredChanged metered =>
    obtain ⟨hlife, rfl⟩ := onMain_eq_some hstep
    exact hdispatch _ _ ⟨rfl, hlife, rfl, rfl, rfl, fun _ => rfl⟩ hI
  | skipAvailableVersion =>
    obtain ⟨hlife, rfl⟩ := onMain_eq_some hstep
    unfold skipAvailableVersion
    dsimp only
    split
    . exact hI
    . have hkept := undispatched_setSkippedVersion u u.status.availableVersion
      apply hdispatch _ _
      . exact ⟨.inl rfl, hlife, hkept.1, hkept.2.1, hkept.2.2, by simp [UpdateEvent.answers]⟩
      . unfold setSkippedVersion
        apply setPref_rule hI haside hdispatch hlife
        . intro checks download skipped
          exact .inr ⟨_, _, _, rfl⟩
        . exact ⟨rfl, rfl⟩
  | setChecksEnabled enabled =>
    obtain ⟨hlife, rfl⟩ := onMain_eq_some hstep
    unfold setChecksEnabled
    apply setPref_rule hI haside hdispatch hlife
    . intro checks download skipped
      exact ⟨_, _, _, rfl⟩
    . exact ⟨rfl, rfl⟩
  | setAutoDownload enabled =>
    obtain ⟨hlife, rfl⟩ := onMain_eq_some hstep
    unfold setAutoDownload
    apply setPref_rule hI haside hdispatch hlife
    . intro checks download skipped
      exact ⟨_, _, _, rfl⟩
    . exact ⟨rfl, rfl⟩
  | armPendingRestart =>
    obtain ⟨_, rfl⟩ := onMain_eq_some hstep
    exact haside u _ ⟨⟨rfl, rfl, rfl, rfl, rfl, rfl, rfl, rfl, fun _ h => .inl h⟩, rfl, rfl⟩ hI
  | manifest manifest | checkFailed error =>
    simp only [step] at hstep
    split at hstep
    next hlife =>
      simp only [receive] at hstep
      split at hstep
      . cases hstep
      . cases hstep
        exact hhand rfl hlife ⟨⟨rfl, rfl, rfl, rfl, rfl, rfl, rfl, rfl, fun _ h => .inl h⟩, rfl, rfl⟩
    next => cases hstep
  | work disk =>
    simp only [step] at hstep
    split at hstep
    next => cases hstep
    next job worker hworker =>
      split at hstep
      next => cases hstep
      next =>
        cases hstep
        exact hwork job worker disk rfl hworker
  | transferStarted total | transferProgress received =>
    simp only [step] at hstep
    split at hstep
    next => cases hstep
    next =>
      cases hstep
      exact haside u _ ((aside_refl u).runOnMain rfl) hI
  | transferFinished bytes =>
    simp only [step] at hstep
    split at hstep
    next => cases hstep
    next =>
      cases hstep
      exact haside u _ (aside_finishTransfer u _ bytes) hI
  | transferFailed error =>
    simp only [step] at hstep
    split at hstep
    next => cases hstep
    next =>
      cases hstep
      exact haside u _ (aside_failTransfer u _ error) hI
  | deliver =>
    simp only [step] at hstep
    split at hstep
    next => cases hstep
    next event main hmain =>
      obtain ⟨hlife, rfl⟩ := onMain_eq_some hstep
      apply hhand (show event ∈ u.main by simp [hmain]) hlife
      refine ⟨⟨rfl, rfl, rfl, rfl, rfl, rfl, rfl, rfl, ?_⟩, rfl, rfl⟩
      intro e he
      left
      rw [hmain]
      exact .tail _ he
  | aboutToQuit spawns =>
    obtain ⟨hlife, rfl⟩ := onMain_eq_some hstep
    exact hquit spawns hlife
  | exit =>
    simp only [step] at hstep
    split at hstep
    next h =>
      cases hstep
      exact hexit h.1 h.2
    next => cases hstep
  | clock now =>
    cases hstep
    exact haside u _ ⟨⟨rfl, rfl, rfl, rfl, rfl, rfl, rfl, rfl, fun _ h => .inl h⟩, rfl, rfl⟩ hI
  | tamper store =>
    cases hstep
    exact htamper store rfl

end Rule

end Updater

end Update
