import Dish.Update.Lemmas.Offer

/-!
This module contains the stage of a status that is `Ready`.
-/

open Transition

namespace Update

variable {e : UpdateEvent} {s : UpdateStatus}

open UpdateStatus

/--
A scan finds a build that is newer and not muted, and the staged version is skipped only where it is
on offer too.
-/
def KeepsStage (s : UpdateStatus) : UpdateEvent → Prop
  | .StagedFound version _ => s.phase = .Ready →
    isStrictlyNewer version s.currentVersion = true ∧ version ≠ s.skippedVersion
  | .SkipRequested version => s.phase = .Ready → s.required = false → version = s.stagedVersion →
    s.availableVersion = version
  | _ => True

instance (s : UpdateStatus) : (e : UpdateEvent) → Decidable (KeepsStage s e)
  | .StagedFound .. => inferInstanceAs (Decidable (_ → _ ∧ _))
  | .SkipRequested _ => inferInstanceAs (Decidable (_ → _ → _ → _))
  | .PrefsChanged .. | .CheckRequested _ | .ManifestArrived _ | .CheckFailed _
  | .DownloadRequested | .DownloadStarted _ | .DownloadProgress _ | .DownloadFinished _
  | .DownloadFailed _ | .VerifyOk _ | .VerifyFailed | .StagedInvalidated
  | .MeteredChanged _ | .ReachabilityChanged _ => inferInstanceAs (Decidable True)

structure Staged (s : UpdateStatus) : Prop where
  ready : s.phase = .Ready → s.hasApplicableStage = true
  newer : s.phase.offering → isStrictlyNewer s.availableVersion s.currentVersion = true

theorem ready_onManifestArrived {m : UpdateManifest}
    (hchecking : s.phase = .Checking) (hready : (s.onManifestArrived m).next.phase = .Ready)
    : (s.onManifestArrived m).next.hasApplicableStage = true ∧
      .DiscardStaged (s.onManifestArrived m).next.stagedVersion ∉ (s.onManifestArrived m).effects := by
  unfold onManifestArrived at hready ⊢
  rw [if_neg (by simp [hchecking])] at hready ⊢
  dsimp only at hready ⊢
  split at hready
  next => simp [upToDate] at hready
  next hoffers =>
    rw [if_neg hoffers]
    simp only [offers, Bool.not_eq_true', decide_eq_false_iff_not, Decidable.not_not] at hoffers
    have hnewer : isStrictlyNewer m.version s.currentVersion = true := hoffers.1
    have hversion : m.version ≠ "" := by
      intro hversion
      rw [hversion, not_isStrictlyNewer_empty] at hnewer
      cases hnewer
    split at hready
    next hsame =>
      rw [if_pos hsame]
      have hkept : s.dropsStage m = false := by
        by_contra hdrops
        rw [Bool.not_eq_false] at hdrops
        simp [withOffer, withManifest, hdrops, hversion.symm] at hsame
      have hstaged : s.stagedVersion = m.version := by
        simpa [withOffer, withManifest, hkept] using hsame
      simp [hasApplicableStage, withOffer, withManifest, applyManifestFacts, manifestEffects, hkept,
        hstaged, hversion, hnewer]
    next =>
      split at hready
      next => cases hready
      next => cases hready

theorem Staged.ready_reduceUpdate (h : Staged s)
    (hkeeps : KeepsStage s e) (hready : (reduceUpdate s e).next.phase = .Ready)
    : (reduceUpdate s e).next.hasApplicableStage = true ∧
      .DiscardStaged (reduceUpdate s e).next.stagedVersion ∉ (reduceUpdate s e).effects := by
  have hempty := not_isStrictlyNewer_empty s.currentVersion
  have hstaged := h.ready
  cases e with
  | ManifestArrived m =>
    by_cases hchecking : s.phase = .Checking
    . exact ready_onManifestArrived hchecking hready
    . simp only [reduceUpdate, onManifestArrived, if_pos hchecking, stay] at hready ⊢
      exact ⟨hstaged hready, by simp⟩
  | VerifyOk readyDir =>
    have hnewer := h.newer
    grind [reduceUpdate, onVerifyOk, stay, hasApplicableStage, UpdatePhase.offering]
  | StagedFound version dir =>
    grind [reduceUpdate, onStagedFound, stay, hasApplicableStage, KeepsStage]
  | SkipRequested version =>
    grind [reduceUpdate, onSkipRequested, stay, upToDate, hasApplicableStage, KeepsStage]
  | _ =>
    grind [reduceUpdate, onPrefsChanged, onCheckRequested, onCheckFailed, onDownloadRequested,
      onDownloadStarted, onDownloadProgress, onDownloadFinished, onDownloadFailed, onVerifyFailed,
      onStagedInvalidated, onMeteredChanged, onReachabilityChanged, settleFailure, stay,
      startAvailable, hasApplicableStage]

theorem Staged.newer_reduceUpdate (h : Staged s)
    (hoffering : (reduceUpdate s e).next.phase.offering)
    : isStrictlyNewer (reduceUpdate s e).next.availableVersion
        (reduceUpdate s e).next.currentVersion = true := by
  rw [currentVersion_reduceUpdate]
  obtain ⟨hbefore, hsame⟩ | ⟨m, rfl, _, hoffers, hversion, _⟩ :=
    (moves_reduceUpdate s e).offering hoffering
  . rw [hsame.version]
    exact h.newer hbefore
  . rw [hversion]
    simp only [offers, decide_eq_true_eq] at hoffers
    exact hoffers.1

theorem Staged.reduce (h : Staged s) (hkeeps : KeepsStage s e)
    : Staged (reduceUpdate s e).next := by
  exact ⟨fun hready => (h.ready_reduceUpdate hkeeps hready).1, h.newer_reduceUpdate⟩

theorem staged_initialStatus (build : Build) (settings : UpdateSettings)
    : Staged (initialStatus build settings) := by
  have hphase := phase_initialStatus build settings
  constructor
  . grind
  . grind [UpdatePhase.offering]

theorem ready_keeps_stage (build : Build) (settings : UpdateSettings) (es : List UpdateEvent)
    (hkeeps : Along UpdateStatus.step KeepsStage (initialStatus build settings) es)
    : let n := (reduceAll (initialStatus build settings) es).next
      (n.phase = .Ready →
        n.stagedVersion ≠ "" ∧ isStrictlyNewer n.stagedVersion n.currentVersion = true) ∧
      ∀ e, KeepsStage n e → (reduceUpdate n e).next.phase = .Ready →
        (reduceUpdate n e).next.stagedVersion ≠ "" ∧
        .DiscardStaged (reduceUpdate n e).next.stagedVersion ∉ (reduceUpdate n e).effects := by
  intro n
  have hstaged : Staged n := by
    apply invariant_of_along _ (staged_initialStatus build settings) hkeeps
      (run_step (initialStatus build settings) es)
    intro s e s' hs hkeeps hstep
    cases hstep
    exact hs.reduce hkeeps
  constructor
  . intro hready
    simpa [hasApplicableStage] using hstaged.ready hready
  . intro e hkeeps hready
    obtain ⟨happlicable, hkept⟩ := hstaged.ready_reduceUpdate hkeeps hready
    simp only [hasApplicableStage, decide_eq_true_eq] at happlicable
    exact ⟨happlicable.1, hkept⟩

theorem ready_keeps_stage_release20
    : let n := (reduceAll (initialStatus { version := "0.1.0" } {}) [.CheckRequested .Periodic,
        .ManifestArrived release20, .DownloadFinished "dish.part", .VerifyOk "ready"]).next
      n.phase = .Ready ∧ n.stagedVersion ≠ "" := by
  have h := ready_keeps_stage { version := "0.1.0" } {} [.CheckRequested .Periodic,
    .ManifestArrived release20, .DownloadFinished "dish.part", .VerifyOk "ready"] (by decide)
  exact ⟨by decide, (h.1 (by decide)).1⟩

theorem ready_without_stage
    : let s := initialStatus { version := "0.1.0" } {}
      let n := (reduceAll s [.StagedFound "0.2.0" "ready", .PrefsChanged true true "0.2.0"]).next
      n.phase = .Ready ∧ n.stagedVersion = "0.2.0" ∧
      (reduceUpdate n (.StagedFound "0.2.0" "ready")).next.phase = .Ready ∧
      (reduceUpdate n (.StagedFound "0.2.0" "ready")).next.stagedVersion = "" ∧
      .DiscardStaged "0.2.0" ∈ (reduceUpdate n (.StagedFound "0.2.0" "ready")).effects := by
  decide

end Update
