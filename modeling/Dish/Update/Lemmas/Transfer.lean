import Dish.Update.Lemmas.Offer

/-!
This module contains the download the gateway has under way.
-/

open Transition

namespace Update

variable {e : UpdateEvent} {s : UpdateStatus}

open UpdateStatus

structure Transfer where
  status : UpdateStatus
  outstanding : Bool := false
  deriving DecidableEq

def UpdateEvent.reports : UpdateEvent → Bool
  | .DownloadFinished _ => true
  | .DownloadFailed _ => true
  | _ => false

namespace Transfer

def execute (outstanding : Bool) : UpdateEffect → Bool
  | .StartDownload .. => true
  | .AbortDownload => false
  | _ => outstanding

def step (t : Transfer) (e : UpdateEvent) : Option Transfer :=
  if e.reports ∧ !t.outstanding then
    none
  else
    let r := reduceUpdate t.status e
    some { status := r.next, outstanding := r.effects.foldl execute (t.outstanding && !e.reports) }

def SkipsOwn (t : Transfer) : UpdateEvent → Prop
  | .SkipRequested version => t.status.phase = .Downloading → t.status.required = false →
    version = "" ∨ t.status.availableVersion = version
  | _ => True

instance (t : Transfer) : (e : UpdateEvent) → Decidable (t.SkipsOwn e)
  | .SkipRequested _ => inferInstanceAs (Decidable (_ → _ → _ ∨ _))
  | .PrefsChanged .. | .CheckRequested _ | .ManifestArrived _ | .CheckFailed _
  | .DownloadRequested | .DownloadStarted _ | .DownloadProgress _ | .DownloadFinished _
  | .DownloadFailed _ | .VerifyOk _ | .VerifyFailed | .StagedFound .. | .StagedInvalidated
  | .MeteredChanged _ | .ReachabilityChanged _ => inferInstanceAs (Decidable True)

def Agrees (t : Transfer) : Prop :=
  t.status.phase = .Downloading ↔ t.outstanding = true

theorem foldl_execute_of_quiet {fx : List UpdateEffect} {outstanding : Bool}
    (hstart : ∀ effect ∈ fx, effect.isDownload = false) (habort : .AbortDownload ∉ fx)
    : fx.foldl execute outstanding = outstanding := by
  induction fx with
  | nil => rfl
  | cons effect fx ih =>
    rw [List.foldl_cons]
    have hhead : execute outstanding effect = outstanding := by
      have hnot := hstart effect List.mem_cons_self
      cases effect with
      | StartDownload => cases hnot
      | AbortDownload => exact absurd List.mem_cons_self habort
      | _ => rfl
    rw [hhead]
    apply ih
    . exact fun effect hmem => hstart effect (List.mem_cons_of_mem _ hmem)
    . exact fun hmem => habort (List.mem_cons_of_mem _ hmem)

theorem not_aborts_onManifestArrived (s : UpdateStatus) (m : UpdateManifest)
    : .AbortDownload ∉ (s.onManifestArrived m).effects := by
  have hfacts : .AbortDownload ∉ s.manifestEffects m := by
    unfold manifestEffects
    split <;> simp
  have hnotice : .AbortDownload ∉ (if ((s.withManifest m).withOffer m).required = true then
      [UpdateEffect.Notify .Unsupported m.version] else []) := by
    split <;> simp
  unfold onManifestArrived
  dsimp only
  split
  . simp [stay]
  . split
    . simp [hfacts]
    . split
      . simp [hfacts, hnotice]
      . split
        . simp [hfacts, hnotice, startAvailable]
        . simp [hfacts, hnotice]

theorem of_aborts {t : Transfer} (hskips : t.SkipsOwn e)
    (hmem : .AbortDownload ∈ (reduceUpdate t.status e).effects)
    : t.status.phase = .Downloading ∧ (reduceUpdate t.status e).next.phase ≠ .Downloading ∧
      ∀ outstanding, (reduceUpdate t.status e).effects.foldl execute outstanding = false := by
  cases e with
  | PrefsChanged checks download skipped =>
    simp only [reduceUpdate, onPrefsChanged] at hmem ⊢
    split at hmem
    next hoff =>
      rw [if_pos hoff]
      split at hmem
      next hloading =>
        rw [if_pos hloading]
        exact ⟨hloading, by simp, fun _ => rfl⟩
      next => cases hmem
    next =>
      split at hmem
      . simp at hmem
      . split at hmem
        . simp [startAvailable] at hmem
        . cases hmem
  | SkipRequested version =>
    simp only [reduceUpdate, onSkipRequested] at hmem ⊢
    split at hmem
    next => cases hmem
    next haccepts =>
      rw [if_neg haccepts]
      push Not at haccepts
      have hloading : t.status.phase = .Downloading := by
        by_contra hother
        simp only [hother, if_false, List.nil_append] at hmem
        split at hmem <;> simp at hmem
      have hown := (hskips hloading (by simpa using haccepts.1)).resolve_left haccepts.2
      rw [if_pos hown, if_pos hloading]
      refine ⟨hloading, by simp [upToDate], ?_⟩
      intro outstanding
      split <;> rfl
  | ManifestArrived m => exact absurd hmem (not_aborts_onManifestArrived t.status m)
  | _ =>
    exfalso
    grind [reduceUpdate, onCheckRequested, onCheckFailed, onDownloadRequested, onDownloadStarted,
      onDownloadProgress, onDownloadFinished, onDownloadFailed, onVerifyOk, onVerifyFailed,
      onStagedFound, onStagedInvalidated, onMeteredChanged, onReachabilityChanged, settleFailure,
      stay, startAvailable]

theorem leaves_downloading (hloading : s.phase = .Downloading)
    : (reduceUpdate s e).next.phase = .Downloading ∧ e.reports = false ∨
      (reduceUpdate s e).next.phase ≠ .Downloading ∧
        (e.reports = true ∨ .AbortDownload ∈ (reduceUpdate s e).effects) := by
  cases e with
  | PrefsChanged checks download skipped =>
    cases checks <;> simp [reduceUpdate, onPrefsChanged, hloading, stay, UpdateEvent.reports]
  | SkipRequested version =>
    simp only [reduceUpdate, onSkipRequested]
    split
    . exact .inl ⟨hloading, rfl⟩
    . split
      . simp [upToDate]
      . exact .inl ⟨hloading, rfl⟩
  | DownloadFailed error =>
    have hphase : (s.settleFailure error []).next.phase ≠ .Downloading := by
      unfold settleFailure
      grind
    simp [reduceUpdate, onDownloadFailed, hloading, UpdateEvent.reports, hphase]
  | StagedFound version dir =>
    simp only [reduceUpdate, onStagedFound, hloading, UpdateEvent.reports]
    split <;> simp [stay]
  | StagedInvalidated =>
    simp only [reduceUpdate, onStagedInvalidated, hloading, UpdateEvent.reports]
    split <;> simp [stay, hloading]
  | _ =>
    simp [reduceUpdate, onCheckRequested, onManifestArrived, onCheckFailed, onDownloadRequested,
      onDownloadStarted, onDownloadProgress, onDownloadFinished, onVerifyOk, onVerifyFailed,
      onMeteredChanged, onReachabilityChanged, hloading, stay, UpdateEvent.reports]

theorem downloading_of_isDownload {effect : UpdateEffect}
    (hmem : effect ∈ (reduceUpdate s e).effects) (hdownload : effect.isDownload)
    : (reduceUpdate s e).next.phase = .Downloading ∧ s.phase ≠ .Downloading := by
  cases (moves_reduceUpdate s e).issues hmem with
  | start havailable hphase => exact ⟨hphase, by simp [havailable]⟩
  | download _ hchecking _ hphase => exact ⟨hphase, by simp [hchecking]⟩
  | tidy htidy => cases effect <;> contradiction
  | schedule | fetch | verify => contradiction

theorem outstanding_of_isDownload {effect : UpdateEffect}
    (hmem : effect ∈ (reduceUpdate s e).effects) (hdownload : effect.isDownload)
    (outstanding : Bool)
    : (reduceUpdate s e).effects.foldl execute outstanding = true := by
  obtain ⟨hphase, hbefore⟩ := downloading_of_isDownload hmem hdownload
  obtain ⟨hloading, _⟩ | ⟨_, heffects⟩ | ⟨_, fx, delay, _, heffects⟩ :=
    (moves_reduceUpdate s e).loads hphase
  . exact absurd hloading hbefore
  . rw [heffects]
    rfl
  . rw [heffects, List.foldl_append]
    rfl

theorem Agrees.step {t t' : Transfer} (h : t.Agrees) (hskips : t.SkipsOwn e)
    (hstep : t.step e = some t')
    : t'.Agrees := by
  unfold Transfer.step at hstep
  split at hstep
  next => cases hstep
  next hdelivered =>
    cases hstep
    unfold Agrees
    dsimp only
    by_cases hdownload : ∃ effect ∈ (reduceUpdate t.status e).effects, effect.isDownload = true
    . obtain ⟨effect, hmem, hdownload⟩ := hdownload
      rw [outstanding_of_isDownload hmem hdownload]
      simp [(downloading_of_isDownload hmem hdownload).1]
    . have hquiet : ∀ effect ∈ (reduceUpdate t.status e).effects, effect.isDownload = false := by
        simpa using hdownload
      by_cases habort : .AbortDownload ∈ (reduceUpdate t.status e).effects
      . obtain ⟨_, hleft, hfold⟩ := of_aborts hskips habort
        simp [hleft, hfold]
      . rw [foldl_execute_of_quiet hquiet habort]
        by_cases hloading : t.status.phase = .Downloading
        . obtain ⟨hstays, hreports⟩ | ⟨hleft, hreports⟩ := leaves_downloading (e := e) hloading
          . simp [hstays, hreports, h.mp hloading]
          . simp [hleft, hreports.resolve_right habort]
        . have hidle : t.outstanding = false := by
            rw [Bool.eq_false_iff]
            exact fun houtstanding => hloading (h.mpr houtstanding)
          have hstill : (reduceUpdate t.status e).next.phase ≠ .Downloading := by
            intro hphase
            obtain ⟨hbefore, _⟩ | ⟨_, heffects⟩ | ⟨_, fx, delay, _, heffects⟩ :=
              (moves_reduceUpdate t.status e).loads hphase
            . exact hloading hbefore
            . have hnot := hquiet t.status.startAvailable (by simp [heffects])
              cases hnot
            . have hnot := hquiet (reduceUpdate t.status e).next.startAvailable (by simp [heffects])
              cases hnot
          simp [hidle, hstill]

theorem downloading_iff_outstanding (build : Build) (settings : UpdateSettings)
    {es : List UpdateEvent} {t : Transfer}
    (hrun : Transition.run step { status := initialStatus build settings } es = some t)
    (hskips : Along step SkipsOwn { status := initialStatus build settings } es)
    : (t.status.phase = .Downloading ↔ t.outstanding = true) ∧
      ∀ e, ∀ effect ∈ (reduceUpdate t.status e).effects, effect.isDownload = true →
        t.outstanding = false := by
  have hinit : Agrees { status := initialStatus build settings } := by
    have hphase := phase_initialStatus build settings
    unfold Agrees
    grind
  have hagrees : t.Agrees :=
    invariant_of_along (fun _ _ _ h hP hs => h.step hP hs) hinit hskips hrun
  refine ⟨hagrees, ?_⟩
  intro e effect hmem hdownload
  rw [Bool.eq_false_iff]
  intro houtstanding
  exact (downloading_of_isDownload hmem hdownload).2 (hagrees.mpr houtstanding)

theorem downloading_iff_outstanding_release20
    : ∃ t, Transition.run step { status := initialStatus { version := "0.1.0" } {} }
        [.CheckRequested .Periodic, .ManifestArrived release20] = some t ∧
      t.outstanding = true ∧ t.status.phase = .Downloading := by
  have houtstanding : (Transition.run step { status := initialStatus { version := "0.1.0" } {} }
      [.CheckRequested .Periodic, .ManifestArrived release20]).any (·.outstanding) = true := by
    decide
  obtain ⟨t, hrun, houtstanding⟩ := exists_run_of_any houtstanding
  have hagrees := downloading_iff_outstanding { version := "0.1.0" } {} hrun (by decide)
  exact ⟨t, hrun, houtstanding, hagrees.1.mpr houtstanding⟩

theorem skip_of_another_strands
    : ∃ t, Transition.run step { status := initialStatus { version := "0.1.0" } {} }
        [.CheckRequested .Periodic, .ManifestArrived release20, .SkipRequested "0.1.9"] = some t ∧
      t.status.phase = .Downloading ∧ t.outstanding = false := by
  exact ⟨_, rfl, by decide, by decide⟩

end Transfer

end Update
