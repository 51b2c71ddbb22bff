import Dish.Update.Machine

/-!
This module contains the one case analysis of the reducer that all results about its runs use.
-/

namespace Update

variable {e : UpdateEvent} {s : UpdateStatus}

open UpdateStatus

def UpdateEffect.tidies : UpdateEffect → Bool
  | .AbortDownload => true
  | .DiscardStaged _ => true
  | .SweepStaging => true
  | .PersistLastCheck => true
  | .Notify _ _ => true
  | _ => false

def UpdateEvent.answers : UpdateEvent → Bool
  | .ManifestArrived _ => true
  | .CheckFailed _ => true
  | _ => false

structure SameOffer (s n : UpdateStatus) : Prop where
  version : n.availableVersion = s.availableVersion
  asset : n.availableAsset = s.availableAsset

def UpdateStatus.SkipsOffered (s : UpdateStatus) (version : String) : Prop :=
  s.required = false ∧ version ≠ "" ∧ s.availableVersion = version

instance (s : UpdateStatus) (version : String) : Decidable (s.SkipsOffered version) :=
  inferInstanceAs (Decidable (_ ∧ _ ∧ _))

inductive Moves (s : UpdateStatus) : UpdateEvent → UpdateReduction → Prop
  | keep {e : UpdateEvent} {n : UpdateStatus} {fx : List UpdateEffect}
      (hphase : n.phase = s.phase) (hsame : SameOffer s n) (htidy : fx.all UpdateEffect.tidies)
      (hcheck : ∀ trigger, e = .CheckRequested trigger → s.phase = .Disabled ∨ s.phase = .Checking)
      (hanswer : e.answers → s.phase ≠ .Checking)
      (hprefs : ∀ checks download skipped, e = .PrefsChanged checks download skipped →
        checks = true ∧ s.phase ≠ .Disabled)
      : Moves s e ⟨n, fx⟩
  | rearm {e : UpdateEvent} {n : UpdateStatus} {delay : Nat}
      (hphase : n.phase = s.phase) (hsame : SameOffer s n) (hup : s.phase ≠ .Disabled)
      (hidle : s.phase ≠ .Checking)
      (hprefs : ∀ checks download skipped, e ≠ .PrefsChanged checks download skipped)
      : Moves s e ⟨n, [.ScheduleNextCheck delay]⟩
  | off {download : Bool} {skipped : String} {n : UpdateStatus} {fx : List UpdateEffect}
      (hphase : n.phase = .Disabled) (hsame : SameOffer s n) (htidy : fx.all UpdateEffect.tidies)
      : Moves s (.PrefsChanged false download skipped) ⟨n, fx⟩
  | on {download : Bool} {skipped : String} {n : UpdateStatus}
      (hoff : s.phase = .Disabled) (hphase : n.phase = .Idle) (hsame : SameOffer s n)
      : Moves s (.PrefsChanged true download skipped)
          ⟨n, [.SweepStaging, .ScheduleNextCheck kStartupDelayMs]⟩
  | start {e : UpdateEvent} {n : UpdateStatus}
      (havailable : s.phase = .Available) (hphase : n.phase = .Downloading) (hsame : SameOffer s n)
      (hcheck : ∀ trigger, e ≠ .CheckRequested trigger) (hanswer : e.answers = false)
      (hprefs : ∀ checks download skipped, e = .PrefsChanged checks download skipped →
        checks = true)
      : Moves s e ⟨n, [s.startAvailable]⟩
  | check {trigger : UpdateTrigger} {n : UpdateStatus} {manual : Bool}
      (hup : s.phase ≠ .Disabled) (hphase : n.phase = .Checking) (hsame : SameOffer s n)
      : Moves s (.CheckRequested trigger) ⟨n, [.SweepStaging, .FetchManifest manual]⟩
  | fail {e : UpdateEvent} {n : UpdateStatus} {fx : List UpdateEffect} {delay : Nat}
      (hup : s.phase ≠ .Disabled) (hphase : n.phase = .Ready ∨ n.phase = .Failed)
      (hsame : SameOffer s n) (htidy : fx.all UpdateEffect.tidies)
      (hprefs : ∀ checks download skipped, e ≠ .PrefsChanged checks download skipped)
      : Moves s e ⟨n, fx ++ [.ScheduleNextCheck delay]⟩
  | decline {m : UpdateManifest} {n : UpdateStatus} {fx : List UpdateEffect} {delay : Nat}
      (hchecking : s.phase = .Checking) (hdeclines : s.offers m = false)
      (hphase : n.phase = .UpToDate) (htidy : fx.all UpdateEffect.tidies)
      : Moves s (.ManifestArrived m) ⟨n, fx ++ [.ScheduleNextCheck delay]⟩
  | offer {m : UpdateManifest} {n : UpdateStatus} {fx : List UpdateEffect} {delay : Nat}
      (hchecking : s.phase = .Checking) (hoffers : s.offers m = true)
      (hphase : n.phase = .Ready ∨ n.phase = .Available) (hversion : n.availableVersion = m.version)
      (hasset : n.availableAsset = m.setupAsset) (htidy : fx.all UpdateEffect.tidies)
      : Moves s (.ManifestArrived m) ⟨n, fx ++ [.ScheduleNextCheck delay]⟩
  | download {m : UpdateManifest} {n : UpdateStatus} {fx : List UpdateEffect} {delay : Nat}
      (hchecking : s.phase = .Checking) (hoffers : s.offers m = true)
      (hphase : n.phase = .Downloading) (hversion : n.availableVersion = m.version)
      (hasset : n.availableAsset = m.setupAsset) (htidy : fx.all UpdateEffect.tidies)
      : Moves s (.ManifestArrived m) ⟨n, fx ++ [n.startAvailable, .ScheduleNextCheck delay]⟩
  | verify {partPath : String} {n : UpdateStatus}
      (hloading : s.phase = .Downloading) (hphase : n.phase = .Verifying) (hsame : SameOffer s n)
      : Moves s (.DownloadFinished partPath)
          ⟨n, [.VerifyAndPromote s.availableVersion s.availableAsset.sha256]⟩
  | stage {readyDir : String} {n : UpdateStatus} {fx : List UpdateEffect}
      (hverifying : s.phase = .Verifying) (hphase : n.phase = .Ready) (hsame : SameOffer s n)
      (htidy : fx.all UpdateEffect.tidies)
      : Moves s (.VerifyOk readyDir) ⟨n, fx⟩
  | find {version dir : String} {n : UpdateStatus} {fx : List UpdateEffect}
      (hresting : s.phase = .Idle ∨ s.phase = .UpToDate ∨ s.phase = .Failed)
      (hphase : n.phase = .Ready) (hversion : n.availableVersion = version)
      (htidy : fx.all UpdateEffect.tidies)
      : Moves s (.StagedFound version dir) ⟨n, fx⟩
  | lose {n : UpdateStatus}
      (hready : s.phase = .Ready) (hphase : n.phase = .Idle) (hsame : SameOffer s n)
      : Moves s .StagedInvalidated ⟨n, []⟩
  | skip {version : String} {n : UpdateStatus} {fx : List UpdateEffect}
      (hskips : s.SkipsOffered version) (hphase : n.phase = .UpToDate)
      (htidy : fx.all UpdateEffect.tidies)
      : Moves s (.SkipRequested version) ⟨n, fx⟩

inductive Issues (s : UpdateStatus) (e : UpdateEvent) (r : UpdateReduction) : UpdateEffect → Prop
  | tidy {effect : UpdateEffect} (htidy : effect.tidies = true) : Issues s e r effect
  | schedule (delay : Nat) : Issues s e r (.ScheduleNextCheck delay)
  | fetch (manual : Bool) : Issues s e r (.FetchManifest manual)
  | start (havailable : s.phase = .Available) (hphase : r.next.phase = .Downloading)
      : Issues s e r s.startAvailable
  | download {m : UpdateManifest} (hevent : e = .ManifestArrived m) (hchecking : s.phase = .Checking)
      (hoffers : s.offers m = true) (hphase : r.next.phase = .Downloading)
      (hversion : r.next.availableVersion = m.version)
      : Issues s e r r.next.startAvailable
  | verify {partPath : String} (hevent : e = .DownloadFinished partPath)
      (hloading : s.phase = .Downloading)
      (honly : r.effects = [.VerifyAndPromote s.availableVersion s.availableAsset.sha256])
      : Issues s e r (.VerifyAndPromote s.availableVersion s.availableAsset.sha256)

theorem Moves.issues {r : UpdateReduction} {effect : UpdateEffect} (h : Moves s e r)
    (hmem : effect ∈ r.effects)
    : Issues s e r effect := by
  have htidies {fx : List UpdateEffect} (htidy : fx.all UpdateEffect.tidies) (hmem : effect ∈ fx) :
      Issues s e r effect :=
    .tidy (List.all_eq_true.mp htidy effect hmem)
  have hlast {fx : List UpdateEffect} {delay : Nat} (htidy : fx.all UpdateEffect.tidies)
      (hmem : effect ∈ fx ++ [.ScheduleNextCheck delay]) : Issues s e r effect := by
    rcases List.mem_append.mp hmem with hmem | hmem
    . exact htidies htidy hmem
    . exact List.mem_singleton.mp hmem ▸ .schedule delay
  have hpair {one other : UpdateEffect} (hmem : effect ∈ [one, other]) :
      effect = one ∨ effect = other := by
    simpa using hmem
  cases h with
  | keep _ _ htidy | off _ _ htidy | stage _ _ _ htidy | find _ _ _ htidy | skip _ _ htidy =>
    exact htidies htidy hmem
  | fail _ _ _ htidy | decline _ _ _ htidy | offer _ _ _ _ _ htidy => exact hlast htidy hmem
  | rearm =>
    obtain rfl := List.mem_singleton.mp hmem
    exact .schedule _
  | on =>
    rcases hpair hmem with rfl | rfl
    . exact .tidy rfl
    . exact .schedule _
  | check =>
    rcases hpair hmem with rfl | rfl
    . exact .tidy rfl
    . exact .fetch _
  | start havailable hphase =>
    obtain rfl := List.mem_singleton.mp hmem
    exact .start havailable hphase
  | download hchecking hoffers hphase hversion _ htidy =>
    rcases List.mem_append.mp hmem with hmem | hmem
    . exact htidies htidy hmem
    . rcases hpair hmem with rfl | rfl
      . exact .download rfl hchecking hoffers hphase hversion
      . exact .schedule _
  | verify hloading =>
    obtain rfl := List.mem_singleton.mp hmem
    exact .verify rfl hloading rfl
  | lose => cases hmem

theorem settleFailure_eq (s : UpdateStatus) (error : UpdateError) (before : List UpdateEffect)
    : ∃ n delay, s.settleFailure error before = ⟨n, before ++ [.ScheduleNextCheck delay]⟩ ∧
      (n.phase = .Ready ∨ n.phase = .Failed) ∧ SameOffer s n := by
  refine ⟨(s.settleFailure error before).next, backoffDelayMs (s.consecutiveFailures + 1), rfl, ?_⟩
  unfold settleFailure
  dsimp only
  split
  . exact ⟨.inl rfl, rfl, rfl⟩
  . exact ⟨.inr rfl, rfl, rfl⟩

theorem moves_settleFailure (error : UpdateError)
    {before : List UpdateEffect} (stagedVersion : String) (hup : s.phase ≠ .Disabled)
    (htidy : before.all UpdateEffect.tidies)
    (hprefs : ∀ checks download skipped, e ≠ .PrefsChanged checks download skipped)
    : Moves s e (settleFailure { s with stagedVersion } error before) := by
  obtain ⟨n, delay, heq, hphase, hversion, hasset⟩ :=
    settleFailure_eq { s with stagedVersion } error before
  rw [heq]
  exact .fail hup hphase ⟨hversion, hasset⟩ htidy hprefs

theorem Moves.stay {n : UpdateStatus} {fx : List UpdateEffect}
    (hphase : n.phase = s.phase) (hsame : SameOffer s n) (htidy : fx.all UpdateEffect.tidies)
    (hcheck : ∀ trigger, e ≠ .CheckRequested trigger) (hanswer : e.answers = false)
    (hprefs : ∀ checks download skipped, e ≠ .PrefsChanged checks download skipped)
    : Moves s e ⟨n, fx⟩ := by
  refine .keep hphase hsame htidy ?_ ?_ ?_
  . intro trigger h
    exact absurd h (hcheck trigger)
  . simp [hanswer]
  . intro checks download skipped h
    exact absurd h (hprefs checks download skipped)

theorem moves_onPrefsChanged (s : UpdateStatus) (checks download : Bool) (skipped : String)
    : Moves s (.PrefsChanged checks download skipped) (s.onPrefsChanged checks download skipped) := by
  unfold onPrefsChanged
  cases checks with
  | false =>
    refine .off rfl ⟨rfl, rfl⟩ ?_
    split
    . rfl
    . rfl
  | true =>
    dsimp only
    rw [if_neg (by simp)]
    split
    next hoff => exact .on hoff rfl ⟨rfl, rfl⟩
    next hup =>
      split
      next hstart =>
        refine .start hstart.2.2.2.1 rfl ⟨rfl, rfl⟩ ?_ rfl ?_
        . simp
        . simp_all
      next =>
        refine .keep rfl ⟨rfl, rfl⟩ rfl ?_ ?_ ?_
        . simp
        . simp [UpdateEvent.answers]
        . simp_all

theorem moves_onCheckRequested (s : UpdateStatus) (trigger : UpdateTrigger)
    : Moves s (.CheckRequested trigger) (s.onCheckRequested trigger) := by
  unfold onCheckRequested
  split
  next hrests =>
    refine .keep rfl ⟨rfl, rfl⟩ rfl ?_ ?_ ?_
    . intro _ _
      exact hrests
    . simp [UpdateEvent.answers]
    . simp
  next hrests =>
    have hup : s.phase ≠ .Disabled := fun h => hrests (.inl h)
    have hidle : s.phase ≠ .Checking := fun h => hrests (.inr h)
    split
    next => exact .rearm rfl ⟨rfl, rfl⟩ hup hidle (by simp)
    next =>
      split
      next => exact moves_settleFailure .Offline s.stagedVersion hup rfl (by simp)
      next => exact .check hup rfl ⟨rfl, rfl⟩

theorem tidies_manifestEffects (s : UpdateStatus) (m : UpdateManifest)
    : (s.manifestEffects m).all UpdateEffect.tidies := by
  unfold manifestEffects
  split
  . rfl
  . rfl

theorem tidies_offerEffects (s : UpdateStatus) (m : UpdateManifest) (required : Bool)
    : (s.manifestEffects m ++ if required then [UpdateEffect.Notify .Unsupported m.version] else []).all
        UpdateEffect.tidies := by
  rw [List.all_append]
  rw [tidies_manifestEffects]
  cases required
  . rfl
  . rfl

theorem moves_onManifestArrived (s : UpdateStatus) (m : UpdateManifest)
    : Moves s (.ManifestArrived m) (s.onManifestArrived m) := by
  unfold onManifestArrived
  split
  next hphase =>
    refine .keep rfl ⟨rfl, rfl⟩ rfl ?_ ?_ ?_
    . simp
    . intro _
      exact hphase
    . simp
  next hphase =>
    have hchecking : s.phase = .Checking := Decidable.not_not.mp hphase
    dsimp only
    split
    next hdeclines =>
      exact .decline hchecking (by simpa using hdeclines) rfl (tidies_manifestEffects s m)
    next hoffers =>
      have hoffers : s.offers m = true := by simpa using hoffers
      have htidy := tidies_offerEffects s m ((s.withManifest m).withOffer m).required
      split
      next =>
        rw [List.append_cons]
        refine .offer hchecking hoffers (.inl rfl) rfl rfl ?_
        rw [List.all_append, htidy]
        rfl
      next =>
        split
        next => exact .download hchecking hoffers rfl rfl rfl htidy
        next =>
          rw [List.append_cons]
          refine .offer hchecking hoffers (.inr rfl) rfl rfl ?_
          rw [List.all_append, htidy]
          rfl

theorem moves_onSkipRequested (s : UpdateStatus) (version : String)
    : Moves s (.SkipRequested version) (s.onSkipRequested version) := by
  unfold onSkipRequested
  split
  next => exact .stay rfl ⟨rfl, rfl⟩ rfl (by simp) rfl (by simp)
  next haccepts =>
    dsimp only
    have htidy : ((if s.phase = .Downloading then [UpdateEffect.AbortDownload] else []) ++
        if s.stagedVersion = version ∧ s.stagedVersion ≠ "" then
          [UpdateEffect.DiscardStaged s.stagedVersion]
        else
          []).all UpdateEffect.tidies := by
      rw [List.all_append]
      split
      . split
        . rfl
        . rfl
      . split
        . rfl
        . rfl
    split
    next hoffered =>
      refine .skip ⟨?_, ?_, hoffered⟩ rfl htidy
      . simp_all
      . simp_all
    next => exact .stay rfl ⟨rfl, rfl⟩ htidy (by simp) rfl (by simp)

theorem moves_onStagedFound (s : UpdateStatus) (version dir : String)
    : Moves s (.StagedFound version dir) (s.onStagedFound version) := by
  unfold onStagedFound
  split
  next => exact .stay rfl ⟨rfl, rfl⟩ rfl (by simp) rfl (by simp)
  next =>
    split
    next hresting => exact .find hresting rfl rfl rfl
    next => exact .stay rfl ⟨rfl, rfl⟩ rfl (by simp) rfl (by simp)

theorem moves_reduceUpdate (s : UpdateStatus) (e : UpdateEvent) : Moves s e (reduceUpdate s e) := by
  cases e with
  | PrefsChanged checks download skipped => apply moves_onPrefsChanged
  | CheckRequested trigger => apply moves_onCheckRequested
  | ManifestArrived m => apply moves_onManifestArrived
  | SkipRequested version => apply moves_onSkipRequested
  | StagedFound version dir => apply moves_onStagedFound
  | CheckFailed error =>
    simp only [reduceUpdate, onCheckFailed]
    split
    next hphase => exact .keep rfl ⟨rfl, rfl⟩ rfl (by simp) (fun _ => hphase) (by simp)
    next hphase =>
      exact moves_settleFailure error s.stagedVersion (by simp_all) rfl (by simp)
  | DownloadFailed error =>
    simp only [reduceUpdate, onDownloadFailed]
    split
    next => exact .stay rfl ⟨rfl, rfl⟩ rfl (by simp) rfl (by simp)
    next hphase =>
      exact moves_settleFailure error s.stagedVersion (by simp_all) rfl (by simp)
  | VerifyFailed =>
    simp only [reduceUpdate, onVerifyFailed]
    split
    next => exact .stay rfl ⟨rfl, rfl⟩ rfl (by simp) rfl (by simp)
    next hphase => exact moves_settleFailure .Corrupt "" (by simp_all) rfl (by simp)
  | DownloadRequested =>
    simp only [reduceUpdate, onDownloadRequested]
    split
    next => exact .stay rfl ⟨rfl, rfl⟩ rfl (by simp) rfl (by simp)
    next hready => exact .start (by simp_all) rfl ⟨rfl, rfl⟩ (by simp) rfl (by simp)
  | DownloadFinished partPath =>
    simp only [reduceUpdate, onDownloadFinished]
    split
    next => exact .stay rfl ⟨rfl, rfl⟩ rfl (by simp) rfl (by simp)
    next hphase => exact .verify (by simp_all) rfl ⟨rfl, rfl⟩
  | VerifyOk readyDir =>
    simp only [reduceUpdate, onVerifyOk]
    split
    next => exact .stay rfl ⟨rfl, rfl⟩ rfl (by simp) rfl (by simp)
    next hphase => exact .stage (by simp_all) rfl ⟨rfl, rfl⟩ rfl
  | StagedInvalidated =>
    simp only [reduceUpdate, onStagedInvalidated]
    split
    next => exact .stay rfl ⟨rfl, rfl⟩ rfl (by simp) rfl (by simp)
    next =>
      split
      next hready => exact .lose hready rfl ⟨rfl, rfl⟩
      next => exact .stay rfl ⟨rfl, rfl⟩ rfl (by simp) rfl (by simp)
  | DownloadStarted total =>
    simp only [reduceUpdate, onDownloadStarted]
    split
    . exact .stay rfl ⟨rfl, rfl⟩ rfl (by simp) rfl (by simp)
    . exact .stay rfl ⟨rfl, rfl⟩ rfl (by simp) rfl (by simp)
  | DownloadProgress received =>
    simp only [reduceUpdate, onDownloadProgress]
    split
    . exact .stay rfl ⟨rfl, rfl⟩ rfl (by simp) rfl (by simp)
    . exact .stay rfl ⟨rfl, rfl⟩ rfl (by simp) rfl (by simp)
  | MeteredChanged metered =>
    simp only [reduceUpdate, onMeteredChanged]
    split
    next hresumes => exact .start hresumes.2.2.1 rfl ⟨rfl, rfl⟩ (by simp) rfl (by simp)
    next => exact .stay rfl ⟨rfl, rfl⟩ rfl (by simp) rfl (by simp)
  | ReachabilityChanged online =>
    simp only [reduceUpdate, onReachabilityChanged]
    split
    next hgated => exact .rearm rfl ⟨rfl, rfl⟩ (by simp [hgated.2.1]) (by simp [hgated.2.1]) (by simp)
    next => exact .stay rfl ⟨rfl, rfl⟩ rfl (by simp) rfl (by simp)

structure Kept (s n : UpdateStatus) : Prop where
  currentVersion : n.currentVersion = s.currentVersion
  checksEnabled : n.checksEnabled = s.checksEnabled

structure SameTerms (s n : UpdateStatus) : Prop where
  minimum : n.minimumSupportedVersion = s.minimumSupportedVersion
  required : n.required = s.required
  currentVersion : n.currentVersion = s.currentVersion
  skippedVersion : n.skippedVersion = s.skippedVersion
  waits : n.meteredDeferred = true → s.meteredDeferred = true

def UpdateEvent.setsTerms : UpdateEvent → Bool
  | .ManifestArrived _ => true
  | .PrefsChanged _ _ _ => true
  | .SkipRequested _ => true
  | _ => false

theorem carried_settleFailure (s : UpdateStatus) (error : UpdateError) (before : List UpdateEffect)
    : Kept s (s.settleFailure error before).next ∧
        SameTerms s (s.settleFailure error before).next := by
  unfold settleFailure
  dsimp only
  split
  . exact ⟨⟨rfl, rfl⟩, rfl, rfl, rfl, rfl, by simp⟩
  . exact ⟨⟨rfl, rfl⟩, rfl, rfl, rfl, rfl, by simp⟩

theorem carried_reduceUpdate (h : e.setsTerms = false)
    : Kept s (reduceUpdate s e).next ∧ SameTerms s (reduceUpdate s e).next := by
  cases e with
  | PrefsChanged => cases h
  | ManifestArrived => cases h
  | SkipRequested => cases h
  | CheckRequested trigger =>
    simp only [reduceUpdate, onCheckRequested]
    split
    . exact ⟨⟨rfl, rfl⟩, rfl, rfl, rfl, rfl, id⟩
    . split
      . exact ⟨⟨rfl, rfl⟩, rfl, rfl, rfl, rfl, id⟩
      . split
        . apply carried_settleFailure
        . exact ⟨⟨rfl, rfl⟩, rfl, rfl, rfl, rfl, id⟩
  | CheckFailed error =>
    simp only [reduceUpdate, onCheckFailed]
    split
    . exact ⟨⟨rfl, rfl⟩, rfl, rfl, rfl, rfl, id⟩
    . apply carried_settleFailure
  | DownloadRequested =>
    simp only [reduceUpdate, onDownloadRequested]
    split
    . exact ⟨⟨rfl, rfl⟩, rfl, rfl, rfl, rfl, id⟩
    . exact ⟨⟨rfl, rfl⟩, rfl, rfl, rfl, rfl, by simp⟩
  | DownloadStarted total =>
    simp only [reduceUpdate, onDownloadStarted]
    split <;> exact ⟨⟨rfl, rfl⟩, rfl, rfl, rfl, rfl, id⟩
  | DownloadProgress received =>
    simp only [reduceUpdate, onDownloadProgress]
    split <;> exact ⟨⟨rfl, rfl⟩, rfl, rfl, rfl, rfl, id⟩
  | DownloadFinished partPath =>
    simp only [reduceUpdate, onDownloadFinished]
    split <;> exact ⟨⟨rfl, rfl⟩, rfl, rfl, rfl, rfl, id⟩
  | DownloadFailed error =>
    simp only [reduceUpdate, onDownloadFailed]
    split
    . exact ⟨⟨rfl, rfl⟩, rfl, rfl, rfl, rfl, id⟩
    . apply carried_settleFailure
  | VerifyOk readyDir =>
    simp only [reduceUpdate, onVerifyOk]
    split <;> exact ⟨⟨rfl, rfl⟩, rfl, rfl, rfl, rfl, id⟩
  | VerifyFailed =>
    simp only [reduceUpdate, onVerifyFailed]
    split
    . exact ⟨⟨rfl, rfl⟩, rfl, rfl, rfl, rfl, id⟩
    . obtain ⟨⟨hversion, hchecks⟩, hminimum, hrequired, hcurrent, hskipped, hwaits⟩ :=
        carried_settleFailure { s with stagedVersion := "" } .Corrupt
          [.DiscardStaged s.availableVersion]
      exact ⟨⟨hversion, hchecks⟩, hminimum, hrequired, hcurrent, hskipped, hwaits⟩
  | StagedFound version dir =>
    simp only [reduceUpdate, onStagedFound]
    split
    . exact ⟨⟨rfl, rfl⟩, rfl, rfl, rfl, rfl, id⟩
    . split
      . exact ⟨⟨rfl, rfl⟩, rfl, rfl, rfl, rfl, id⟩
      . exact ⟨⟨rfl, rfl⟩, rfl, rfl, rfl, rfl, id⟩
  | StagedInvalidated =>
    simp only [reduceUpdate, onStagedInvalidated]
    split
    . exact ⟨⟨rfl, rfl⟩, rfl, rfl, rfl, rfl, id⟩
    . split
      . exact ⟨⟨rfl, rfl⟩, rfl, rfl, rfl, rfl, id⟩
      . exact ⟨⟨rfl, rfl⟩, rfl, rfl, rfl, rfl, id⟩
  | MeteredChanged metered =>
    simp only [reduceUpdate, onMeteredChanged]
    split
    . exact ⟨⟨rfl, rfl⟩, rfl, rfl, rfl, rfl, by simp⟩
    . exact ⟨⟨rfl, rfl⟩, rfl, rfl, rfl, rfl, by simpa [stay] using fun h _ => h⟩
  | ReachabilityChanged online =>
    simp only [reduceUpdate, onReachabilityChanged]
    split <;> exact ⟨⟨rfl, rfl⟩, rfl, rfl, rfl, rfl, id⟩

theorem kept_onManifestArrived (s : UpdateStatus) (m : UpdateManifest)
    : Kept s (s.onManifestArrived m).next := by
  unfold onManifestArrived
  split
  . exact ⟨rfl, rfl⟩
  . dsimp only
    split
    . exact ⟨rfl, rfl⟩
    . split
      . exact ⟨rfl, rfl⟩
      . split
        . exact ⟨rfl, rfl⟩
        . exact ⟨rfl, rfl⟩

theorem kept_reduceUpdate (h : ∀ checks download skipped, e ≠ .PrefsChanged checks download skipped)
    : Kept s (reduceUpdate s e).next := by
  cases hsets : e.setsTerms with
  | false => exact (carried_reduceUpdate hsets).1
  | true =>
    cases e with
    | PrefsChanged checks download skipped => exact absurd rfl (h checks download skipped)
    | ManifestArrived m => apply kept_onManifestArrived
    | SkipRequested version =>
      simp only [reduceUpdate, onSkipRequested]
      split
      . exact ⟨rfl, rfl⟩
      . dsimp only
        split
        . exact ⟨rfl, rfl⟩
        . exact ⟨rfl, rfl⟩
    | _ => cases hsets

theorem kept_prefsChanged (s : UpdateStatus) (checks download : Bool) (skipped : String)
    : let n := (reduceUpdate s (.PrefsChanged checks download skipped)).next
      n.currentVersion = s.currentVersion ∧ n.checksEnabled = checks := by
  simp only [reduceUpdate, onPrefsChanged]
  split
  . exact ⟨rfl, rfl⟩
  . split
    . exact ⟨rfl, rfl⟩
    . split
      . exact ⟨rfl, rfl⟩
      . exact ⟨rfl, rfl⟩

theorem currentVersion_reduceUpdate (s : UpdateStatus) (e : UpdateEvent)
    : (reduceUpdate s e).next.currentVersion = s.currentVersion := by
  by_cases hprefs : ∃ checks download skipped, e = .PrefsChanged checks download skipped
  . obtain ⟨checks, download, skipped, rfl⟩ := hprefs
    exact (kept_prefsChanged s checks download skipped).1
  . refine (kept_reduceUpdate ?_).currentVersion
    intro checks download skipped h
    exact hprefs ⟨checks, download, skipped, h⟩

end Update
