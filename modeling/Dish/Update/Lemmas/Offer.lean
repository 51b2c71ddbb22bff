import Mathlib.Data.List.Induction
import Dish.Update.Coordinator
import Dish.Update.Lemmas.Off

/-!
This module contains where a promoted build comes from.
-/

namespace Update

variable {e : UpdateEvent} {es first : List UpdateEvent} {r : UpdateReduction}

open UpdateStatus

def UpdateEffect.isDownload : UpdateEffect → Bool
  | .StartDownload .. => true
  | _ => false

def UpdateEffect.isPromotion : UpdateEffect → Bool
  | .VerifyAndPromote .. => true
  | _ => false

section Append

variable {s : UpdateStatus}

theorem reduceAll_append (es es' : List UpdateEvent)
    : reduceAll s (es ++ es') =
      { next := (reduceAll (reduceAll s es).next es').next
        effects := (reduceAll s es).effects ++ (reduceAll (reduceAll s es).next es').effects } := by
  induction es generalizing s with
  | nil => rfl
  | cons e es ih =>
    simp only [List.cons_append, reduceAll, ih]
    rw [List.append_assoc]

theorem reduceAll_concat (es : List UpdateEvent) (e : UpdateEvent)
    : reduceAll s (es ++ [e]) =
      { next := (reduceUpdate (reduceAll s es).next e).next
        effects := (reduceAll s es).effects ++ (reduceUpdate (reduceAll s es).next e).effects } := by
  rw [reduceAll_append]
  simp [reduceAll, stay]

theorem effects_prefix (first rest : List UpdateEvent)
    : (reduceAll s first).effects <+: (reduceAll s (first ++ rest)).effects := by
  rw [reduceAll_append]
  exact List.prefix_append _ _

end Append

theorem portable_reduceUpdate (s : UpdateStatus) (e : UpdateEvent)
    : (reduceUpdate s e).next.portable = s.portable := by
  cases e <;> grind [reduceUpdate, onPrefsChanged, onCheckRequested, onManifestArrived,
    onCheckFailed, onDownloadRequested, onDownloadStarted, onDownloadProgress, onDownloadFinished,
    onDownloadFailed, onVerifyOk, onVerifyFailed, onStagedFound, onStagedInvalidated,
    onSkipRequested, onMeteredChanged, onReachabilityChanged, settleFailure, stay, upToDate,
    withOffer, withManifest, applyManifestFacts]

theorem not_portable_of_isDownload {s : UpdateStatus} {effect : UpdateEffect}
    (hmem : effect ∈ (reduceUpdate s e).effects) (hdownload : effect.isDownload)
    : s.portable = false := by
  cases e <;> grind [reduceUpdate, onPrefsChanged, onCheckRequested, onManifestArrived,
    onCheckFailed, onDownloadRequested, onDownloadStarted, onDownloadProgress, onDownloadFinished,
    onDownloadFailed, onVerifyOk, onVerifyFailed, onStagedFound, onStagedInvalidated,
    onSkipRequested, onMeteredChanged, onReachabilityChanged, settleFailure, stay,
    manifestEffects, UpdateEffect.isDownload, withOffer, withManifest, applyManifestFacts]

theorem not_isDownload_of_tidies {fx : List UpdateEffect} (h : fx.all UpdateEffect.tidies)
    : ∀ effect ∈ fx, effect.isDownload = false ∧ effect.isPromotion = false := by
  intro effect hmem
  have htidy := List.all_eq_true.mp h effect hmem
  cases effect with
  | StartDownload => cases htidy
  | VerifyAndPromote => cases htidy
  | _ => exact ⟨rfl, rfl⟩

def Accepted (s : UpdateStatus) (es first : List UpdateEvent) (m : UpdateManifest) : Prop :=
  (∃ rest, es = first ++ .ManifestArrived m :: rest) ∧
    (reduceAll s first).next.phase = .Checking ∧ (reduceAll s first).next.offers m = true

structure Offered (s : UpdateStatus) (es first : List UpdateEvent) (m : UpdateManifest)
    : Prop where
  accepted : Accepted s es first m
  version : (reduceAll s es).next.availableVersion = m.version
  asset : (reduceAll s es).next.availableAsset = m.setupAsset

def Started (s : UpdateStatus) (es first : List UpdateEvent) : Prop :=
  ∃ earlier later, (reduceAll s es).effects
      = earlier ++ (reduceAll s es).next.startAvailable :: later ∧
    (∀ effect ∈ later, effect.isDownload = false) ∧ (reduceAll s first).effects <+: earlier

def UpdatePhase.offering (phase : UpdatePhase) : Prop :=
  phase = .Available ∨ phase = .Downloading ∨ phase = .Verifying

structure Sourced (s : UpdateStatus) (es : List UpdateEvent) : Prop where
  offered : (reduceAll s es).next.phase.offering → ∃ first m, Offered s es first m ∧
    ((reduceAll s es).next.phase = .Downloading → Started s es first)
  unpacked : (reduceAll s es).next.portable = true → (reduceAll s es).next.phase ≠ .Downloading

theorem Accepted.concat {s : UpdateStatus} {m : UpdateManifest}
    (h : Accepted s es first m) (e : UpdateEvent)
    : Accepted s (es ++ [e]) first m := by
  obtain ⟨⟨rest, hes⟩, haccepts⟩ := h
  refine ⟨⟨rest ++ [e], ?_⟩, haccepts⟩
  rw [hes]
  simp

theorem Offered.concat {s : UpdateStatus} {m : UpdateManifest} (h : Offered s es first m)
    (hsame : SameOffer (reduceAll s es).next (reduceUpdate (reduceAll s es).next e).next)
    : Offered s (es ++ [e]) first m := by
  constructor
  case accepted => exact h.accepted.concat e
  case version =>
    rw [reduceAll_concat, ← h.version]
    exact hsame.version
  case asset =>
    rw [reduceAll_concat, ← h.asset]
    exact hsame.asset

theorem Started.concat {s : UpdateStatus} (h : Started s es first)
    (hsame : SameOffer (reduceAll s es).next (reduceUpdate (reduceAll s es).next e).next)
    (hquiet : ∀ effect ∈ (reduceUpdate (reduceAll s es).next e).effects, effect.isDownload = false)
    : Started s (es ++ [e]) first := by
  obtain ⟨earlier, later, heffects, hlater, hfirst⟩ := h
  refine ⟨earlier, later ++ (reduceUpdate (reduceAll s es).next e).effects, ?_, ?_, hfirst⟩
  . rw [reduceAll_concat]
    dsimp only
    rw [heffects]
    simp [startAvailable, hsame.version, hsame.asset]
  . intro effect hmem
    obtain hbefore | hnow := List.mem_append.mp hmem
    . exact hlater effect hbefore
    . exact hquiet effect hnow

theorem Moves.offering {s : UpdateStatus} (h : Moves s e r) (hphase : r.next.phase.offering)
    : (s.phase.offering ∧ SameOffer s r.next) ∨
      ∃ m, e = .ManifestArrived m ∧ s.phase = .Checking ∧ s.offers m = true ∧
        r.next.availableVersion = m.version ∧ r.next.availableAsset = m.setupAsset := by
  unfold UpdatePhase.offering at hphase ⊢
  cases h with
  | keep hsame hoffer | rearm hsame hoffer => exact .inl ⟨hsame ▸ hphase, hoffer⟩
  | start havailable _ hoffer => exact .inl ⟨.inl havailable, hoffer⟩
  | verify hloading _ hoffer => exact .inl ⟨.inr (.inl hloading), hoffer⟩
  | offer hchecking hoffers _ hversion hasset | download hchecking hoffers _ hversion hasset =>
    exact .inr ⟨_, rfl, hchecking, hoffers, hversion, hasset⟩
  | fail _ hother => rcases hother with hother | hother <;> simp [hother] at hphase
  | _ => simp_all

theorem Moves.loads {s : UpdateStatus} (h : Moves s e r) (hphase : r.next.phase = .Downloading)
    : (s.phase = .Downloading ∧ ∀ effect ∈ r.effects, effect.isDownload = false) ∨
      (s.phase = .Available ∧ r.effects = [s.startAvailable]) ∨
      (s.phase = .Checking ∧ ∃ fx delay, fx.all UpdateEffect.tidies ∧
        r.effects = fx ++ [r.next.startAvailable, .ScheduleNextCheck delay]) := by
  cases h with
  | keep hsame _ htidy =>
    left
    refine ⟨hsame ▸ hphase, ?_⟩
    exact fun effect hmem => (not_isDownload_of_tidies htidy effect hmem).1
  | rearm hsame => exact .inl ⟨hsame ▸ hphase, by simp [UpdateEffect.isDownload]⟩
  | start havailable => exact .inr (.inl ⟨havailable, rfl⟩)
  | download hchecking _ _ _ _ htidy => exact .inr (.inr ⟨hchecking, _, _, htidy, rfl⟩)
  | offer _ _ hother | fail _ hother =>
    rcases hother with hother | hother <;> simp [hother] at hphase
  | _ => simp_all

theorem Sourced.offered_concat {s : UpdateStatus} (h : Sourced s es) (hphase : (reduceUpdate (reduceAll s es).next e).next.phase.offering)
    : ∃ first m, Offered s (es ++ [e]) first m ∧
      ((reduceUpdate (reduceAll s es).next e).next.phase = .Downloading →
        Started s (es ++ [e]) first) := by
  have hmoves := moves_reduceUpdate (reduceAll s es).next e
  obtain ⟨hbefore, hsame⟩ | ⟨m, rfl, hchecking, hoffers, hversion, hasset⟩ := hmoves.offering hphase
  . obtain ⟨first, m, hoffered, hstarted⟩ := h.offered hbefore
    refine ⟨first, m, hoffered.concat hsame, ?_⟩
    intro hloading
    obtain ⟨hloading, hquiet⟩ | ⟨_, heffects⟩ | ⟨hchecking, _⟩ := hmoves.loads hloading
    . exact (hstarted hloading).concat hsame hquiet
    . refine ⟨(reduceAll s es).effects, [], ?_, by simp, ?_⟩
      . rw [reduceAll_concat]
        dsimp only
        rw [heffects]
        simp [startAvailable, hsame.version, hsame.asset]
      . obtain ⟨⟨rest, hes⟩, _⟩ := hoffered.accepted
        rw [hes]
        apply effects_prefix
    . simp [UpdatePhase.offering, hchecking] at hbefore
  . refine ⟨es, m, ⟨⟨⟨[], rfl⟩, hchecking, hoffers⟩, ?_, ?_⟩, ?_⟩
    . rw [reduceAll_concat]
      exact hversion
    . rw [reduceAll_concat]
      exact hasset
    intro hloading
    obtain ⟨hloading, _⟩ | ⟨havailable, _⟩ | ⟨_, fx, delay, htidy, heffects⟩ := hmoves.loads hloading
    . simp [hchecking] at hloading
    . simp [hchecking] at havailable
    . refine ⟨(reduceAll s es).effects ++ fx, [.ScheduleNextCheck delay], ?_, ?_, ?_⟩
      . rw [reduceAll_concat]
        dsimp only
        rw [heffects]
        simp
      . simp [UpdateEffect.isDownload]
      . exact List.prefix_append _ _

theorem Sourced.concat {s : UpdateStatus} (h : Sourced s es) (e : UpdateEvent)
    : Sourced s (es ++ [e]) := by
  constructor
  case offered =>
    simp only [reduceAll_concat]
    exact h.offered_concat
  case unpacked =>
    simp only [reduceAll_concat, portable_reduceUpdate]
    intro hportable hphase
    have hmoves := moves_reduceUpdate (reduceAll s es).next e
    obtain ⟨hloading, _⟩ | ⟨_, heffects⟩ | ⟨_, fx, delay, _, heffects⟩ := hmoves.loads hphase
    . exact h.unpacked hportable hloading
    . have hunpacked := not_portable_of_isDownload (by rw [heffects]; exact List.mem_cons_self) rfl
      simp [hportable] at hunpacked
    . have hunpacked := not_portable_of_isDownload
        (by rw [heffects]; exact List.mem_append_right fx List.mem_cons_self) rfl
      simp [hportable] at hunpacked

theorem phase_initialStatus (build : Build) (settings : UpdateSettings)
    : let phase := (initialStatus build settings).phase
      phase = .Idle ∨ phase = .Disabled ∨ phase = .Failed := by
  unfold initialStatus withQuarantinedHandoff
  grind

theorem sourced_initialStatus (build : Build) (settings : UpdateSettings) (es : List UpdateEvent)
    : Sourced (initialStatus build settings) es := by
  induction es using List.reverseRecOn with
  | nil =>
    have hphase := phase_initialStatus build settings
    constructor
    . intro hoffering
      simp only [reduceAll, stay, UpdatePhase.offering] at hoffering
      grind
    . intro _ hloading
      simp only [reduceAll, stay] at hloading
      grind
  | append_singleton es e ih => exact ih.concat e

theorem Moves.promotion {s : UpdateStatus}
    {effect : UpdateEffect} (h : Moves s e r) (hmem : effect ∈ r.effects)
    (hpromotion : effect.isPromotion = true)
    : s.phase = .Downloading ∧ r.effects = [effect] ∧
      effect = .VerifyAndPromote s.availableVersion s.availableAsset.sha256 := by
  cases h.issues hmem with
  | verify _ hloading honly => exact ⟨hloading, honly, rfl⟩
  | tidy htidy => cases effect <;> contradiction
  | schedule | fetch | start | download => contradiction

theorem currentVersion_reduceAll (s : UpdateStatus) (es : List UpdateEvent)
    : (reduceAll s es).next.currentVersion = s.currentVersion := by
  induction es generalizing s with
  | nil => rfl
  | cons e es ih =>
    simp only [reduceAll]
    rw [ih, currentVersion_reduceUpdate]

theorem currentVersion_initialStatus (build : Build) (settings : UpdateSettings)
    : (initialStatus build settings).currentVersion = build.version := by
  unfold initialStatus withQuarantinedHandoff
  grind

theorem promoted_from_one_manifest (build : Build) (settings : UpdateSettings)
    (es : List UpdateEvent) (e : UpdateEvent)
    : let s := initialStatus build settings
      let fx := (reduceUpdate (reduceAll s es).next e).effects
      (∀ version sha256, .VerifyAndPromote version sha256 ∈ fx →
        fx = [.VerifyAndPromote version sha256] ∧ isStrictlyNewer version build.version = true ∧
        ∃ first m earlier later, Accepted s es first m ∧
          m.version = version ∧ m.setupAsset.sha256 = sha256 ∧
          (reduceAll s es).effects = earlier ++ .StartDownload m.setupAsset.url sha256
            (.ofInt m.setupAsset.size) version :: later ∧
          (∀ effect ∈ later, effect.isDownload = false) ∧
          (reduceAll s first).effects <+: earlier) ∧
      ((reduceAll s es).next.portable = true →
        ∀ effect ∈ fx, effect.isDownload = false ∧ effect.isPromotion = false) := by
  intro s fx
  have hsourced : Sourced s es := sourced_initialStatus build settings es
  have hmoves := moves_reduceUpdate (reduceAll s es).next e
  constructor
  . intro version sha256 hmem
    obtain ⟨hloading, honly, heffect⟩ := hmoves.promotion hmem rfl
    obtain ⟨hversion, hsha⟩ := UpdateEffect.VerifyAndPromote.inj heffect
    obtain ⟨first, m, hoffered, hstarted⟩ := hsourced.offered (.inr (.inl hloading))
    obtain ⟨earlier, later, heffects, hlater, hfirst⟩ := hstarted hloading
    have hnewer := hoffered.accepted.2.2
    simp only [offers, decide_eq_true_eq] at hnewer
    refine ⟨honly, ?_, first, m, earlier, later, hoffered.accepted, ?_, ?_, ?_, hlater, hfirst⟩
    . rw [hversion, hoffered.version, ← currentVersion_initialStatus build settings,
        ← currentVersion_reduceAll _ first]
      exact hnewer.1
    . rw [hversion, hoffered.version]
    . rw [hsha, hoffered.asset]
    . rw [heffects, hversion, hsha]
      simp only [startAvailable, hoffered.asset]
  . intro hportable effect hmem
    constructor
    . by_contra hdownload
      have hunpacked := not_portable_of_isDownload hmem (by simpa using hdownload)
      simp [hportable] at hunpacked
    . by_contra hpromotion
      obtain ⟨hloading, _⟩ := hmoves.promotion hmem (by simpa using hpromotion)
      exact hsourced.unpacked hportable hloading

theorem promoted_from_one_manifest_release20
    : let s := initialStatus { version := "0.1.0" } {}
      let es : List UpdateEvent := [.CheckRequested .Periodic, .ManifestArrived release20]
      let fx := (reduceUpdate (reduceAll s es).next (.DownloadFinished "dish.part")).effects
      .VerifyAndPromote "0.2.0" release20.setupAsset.sha256 ∈ fx ∧
      isStrictlyNewer "0.2.0" "0.1.0" = true := by
  have hmem : .VerifyAndPromote "0.2.0" release20.setupAsset.sha256 ∈
      (reduceUpdate (reduceAll (initialStatus { version := "0.1.0" } {})
        [.CheckRequested .Periodic, .ManifestArrived release20]).next
        (.DownloadFinished "dish.part")).effects := by
    decide
  exact ⟨hmem, ((promoted_from_one_manifest { version := "0.1.0" } {}
    [.CheckRequested .Periodic, .ManifestArrived release20] (.DownloadFinished "dish.part")).1
    "0.2.0" release20.setupAsset.sha256 hmem).2.1⟩

end Update
