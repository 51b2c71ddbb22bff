import Dish.Update.Lemmas.Dispatch
import Dish.Update.Lemmas.Off

/-!
This module contains which downloads the reducer starts.
-/

open Transition

namespace Update

variable {e : UpdateEvent} {s : UpdateStatus} {version : String}

open UpdateStatus

def OffersVersion (s : UpdateStatus) (version : String) (e : UpdateEvent) : Prop :=
  ∃ m, e = .ManifestArrived m ∧ m.version = version ∧ s.phase = .Checking ∧ s.offers m = true

theorem Moves.available {r : UpdateReduction} (h : Moves s e r) (hphase : r.next.phase = .Available)
    : (s.phase = .Available ∧ s.availableVersion = r.next.availableVersion) ∨
      OffersVersion s r.next.availableVersion e := by
  cases h with
  | keep hsame hoffer | rearm hsame hoffer =>
    exact .inl ⟨hsame.symm.trans hphase, hoffer.version.symm⟩
  | offer hchecking hoffers _ hversion => exact .inr ⟨_, rfl, hversion.symm, hchecking, hoffers⟩
  -- the others lead to another phase
  | _ => simp_all

theorem Moves.starts {r : UpdateReduction}
    (h : Moves s e r) (hmem : version ∈ r.effects.filterMap UpdateEffect.starts)
    : (s.phase = .Available ∧ s.availableVersion = version) ∨ OffersVersion s version e := by
  obtain ⟨effect, hmem, hstarts⟩ := List.mem_filterMap.mp hmem
  cases h.issues hmem with
  | start havailable => exact .inl ⟨havailable, Option.some.inj hstarts⟩
  | download hevent hchecking hoffers _ hversion =>
    exact .inr ⟨_, hevent, hversion.symm.trans (Option.some.inj hstarts), hchecking, hoffers⟩
  | tidy htidy => cases effect <;> contradiction
  | schedule | fetch | verify => contradiction

theorem not_offers_of_muted {m : UpdateManifest} (hmuted : s.skippedVersion = m.version)
    (hrequired : isStrictlyNewer m.minimumSupportedVersion s.currentVersion = false)
    : s.offers m = false := by
  unfold offers applyManifestFacts
  by_cases hempty : m.version = ""
  . rw [hempty]
    rfl
  . simp [hmuted, hempty, hrequired]

def UpdateEvent.unasked : UpdateEvent → Bool
  | .ManifestArrived _ => true
  | .PrefsChanged _ _ _ => true
  | .MeteredChanged _ => true
  | _ => false

structure Waiting (s : UpdateStatus) : Prop where
  required : s.required = isStrictlyNewer s.minimumSupportedVersion s.currentVersion
  waits : s.phase = .Available → s.meteredDeferred = true →
    s.availableVersion ≠ s.skippedVersion ∨ s.required = true

def MutesNoneWaiting (s : UpdateStatus) : UpdateEvent → Prop
  | .PrefsChanged _ _ skippedVersion =>
    s.phase = .Available → s.meteredDeferred = true →
      s.availableVersion ≠ skippedVersion ∨ s.required = true
  | _ => True

instance decidableMutesNoneWaiting (s : UpdateStatus)
    : (e : UpdateEvent) → Decidable (MutesNoneWaiting s e)
  | .PrefsChanged _ _ skippedVersion =>
    inferInstanceAs (Decidable (s.phase = .Available → s.meteredDeferred = true →
      s.availableVersion ≠ skippedVersion ∨ s.required = true))
  | .ManifestArrived _ | .CheckRequested _ | .CheckFailed _ | .DownloadRequested
  | .DownloadStarted _ | .DownloadProgress _ | .DownloadFinished _ | .DownloadFailed _
  | .VerifyOk _ | .VerifyFailed | .StagedFound _ _ | .StagedInvalidated | .SkipRequested _
  | .MeteredChanged _ | .ReachabilityChanged _ => instDecidableTrue

theorem required_onManifestArrived (s : UpdateStatus) (m : UpdateManifest) (h : s.phase = .Checking)
    : (s.onManifestArrived m).next.required =
        isStrictlyNewer m.minimumSupportedVersion s.currentVersion ∧
      (s.onManifestArrived m).next.minimumSupportedVersion = m.minimumSupportedVersion ∧
      (s.onManifestArrived m).next.currentVersion = s.currentVersion ∧
      (s.onManifestArrived m).next.skippedVersion = s.skippedVersion := by
  unfold onManifestArrived
  rw [if_neg (by simp [h])]
  dsimp only
  split
  . exact ⟨rfl, rfl, rfl, rfl⟩
  . split
    . exact ⟨rfl, rfl, rfl, rfl⟩
    . split
      . exact ⟨rfl, rfl, rfl, rfl⟩
      . exact ⟨rfl, rfl, rfl, rfl⟩

theorem not_muted_of_offers {m : UpdateManifest} (h : s.offers m = true)
    : m.version ≠ s.skippedVersion ∨
        isStrictlyNewer m.minimumSupportedVersion s.currentVersion = true := by
  by_cases hmuted : m.version = s.skippedVersion
  . right
    cases hrequired : isStrictlyNewer m.minimumSupportedVersion s.currentVersion with
    | true => rfl
    | false =>
      rw [not_offers_of_muted hmuted.symm hrequired] at h
      cases h
  . exact .inl hmuted

theorem Waiting.of_sameTerms {n : UpdateStatus} (h : Waiting s) (hterms : SameTerms s n)
    (havailable : n.phase = .Available →
      s.phase = .Available ∧ s.availableVersion = n.availableVersion)
    : Waiting n := by
  constructor
  . rw [hterms.required, hterms.minimum, hterms.currentVersion]
    exact h.required
  . intro hphase hwaits
    obtain ⟨hphase', hversion⟩ := havailable hphase
    rw [← hversion, hterms.skippedVersion, hterms.required]
    exact h.waits hphase' (hterms.waits hwaits)

theorem Waiting.manifest (h : Waiting s) (m : UpdateManifest)
    : Waiting (s.onManifestArrived m).next := by
  by_cases hchecking : s.phase = .Checking
  . obtain ⟨hrequired, hminimum, hcurrent, hskipped⟩ := required_onManifestArrived s m hchecking
    constructor
    . rw [hrequired, hminimum, hcurrent]
    . intro hphase _
      rcases (moves_reduceUpdate s (.ManifestArrived m)).available hphase with
        ⟨hother, _⟩ | ⟨m', heq, hversion, _, hoffers⟩
      . rw [hchecking] at hother
        cases hother
      . cases heq
        have hmuted := not_muted_of_offers hoffers
        rw [hversion] at hmuted
        rw [hskipped, hrequired]
        exact hmuted
  . unfold onManifestArrived
    rw [if_pos hchecking]
    exact h

theorem Waiting.prefs (h : Waiting s) {checks download : Bool} {skipped : String}
    (hmutes : MutesNoneWaiting s (.PrefsChanged checks download skipped))
    : Waiting (s.onPrefsChanged checks download skipped).next := by
  unfold onPrefsChanged
  dsimp only
  split
  . exact ⟨h.required, by simp⟩
  . split
    . exact ⟨h.required, by simp⟩
    . split
      . exact ⟨h.required, by simp⟩
      . exact ⟨h.required, hmutes⟩

theorem Waiting.skip (h : Waiting s) (version : String)
    : Waiting (s.onSkipRequested version).next := by
  unfold onSkipRequested
  split
  . exact h
  . dsimp only
    split
    . exact ⟨h.required, by simp [upToDate]⟩
    . next hother => exact ⟨h.required, fun _ _ => .inl hother⟩

theorem Waiting.reduce (h : Waiting s) (hmutes : MutesNoneWaiting s e)
    : Waiting (reduceUpdate s e).next := by
  by_cases hsets : e.setsTerms = true
  . cases e with
    | ManifestArrived m => exact h.manifest m
    | PrefsChanged checks download skipped => exact h.prefs hmutes
    | SkipRequested version => exact h.skip version
    | _ => cases hsets
  . rw [Bool.not_eq_true] at hsets
    apply h.of_sameTerms (carried_reduceUpdate hsets).2
    intro hphase
    rcases (moves_reduceUpdate s e).available hphase with hsame | ⟨m, rfl, _⟩
    . exact hsame
    . cases hsets

theorem sameTerms_withQuarantinedHandoff (s : UpdateStatus) (version : String) (attempts : Nat)
    : SameTerms s (withQuarantinedHandoff s version attempts) := by
  unfold withQuarantinedHandoff
  split
  . exact ⟨rfl, rfl, rfl, rfl, id⟩
  . split
    . exact ⟨rfl, rfl, rfl, rfl, id⟩
    . exact ⟨rfl, rfl, rfl, rfl, id⟩

theorem waiting_withQuarantinedHandoff (version : String) (attempts : Nat)
    (hrequired : s.required = isStrictlyNewer s.minimumSupportedVersion s.currentVersion)
    (hwaits : s.meteredDeferred = false)
    : Waiting (withQuarantinedHandoff s version attempts) := by
  have hterms := sameTerms_withQuarantinedHandoff s version attempts
  constructor
  . rw [hterms.required, hterms.minimum, hterms.currentVersion]
    exact hrequired
  . intro _ hwaits'
    rw [hterms.waits hwaits'] at hwaits
    cases hwaits

theorem waiting_initialStatus (build : Build) (settings : UpdateSettings)
    : Waiting (initialStatus build settings) := by
  apply waiting_withQuarantinedHandoff
  . exact (not_isStrictlyNewer_empty build.version).symm
  . rfl

theorem starts_prefsChanged {checks download : Bool} {skipped : String}
    (hmem : version ∈ (s.onPrefsChanged checks download skipped).effects.filterMap
      UpdateEffect.starts)
    : version ≠ (s.onPrefsChanged checks download skipped).next.skippedVersion := by
  unfold onPrefsChanged at hmem ⊢
  dsimp only at hmem ⊢
  split at hmem
  . split at hmem <;> simp [UpdateEffect.starts] at hmem
  . split at hmem
    . simp [UpdateEffect.starts] at hmem
    . split at hmem
      . next hchecks hphase hstarts =>
        rw [if_neg hchecks, if_neg hphase, if_pos hstarts]
        have hversion : version = s.availableVersion := by
          simpa [UpdateEffect.starts, startAvailable] using hmem
        rw [hversion]
        exact hstarts.2.2.2.2.2
      . simp [stay] at hmem

theorem starts_meteredChanged {metered : Bool}
    (hmem : version ∈ (s.onMeteredChanged metered).effects.filterMap UpdateEffect.starts)
    : s.phase = .Available ∧ s.meteredDeferred = true ∧ s.availableVersion = version := by
  unfold onMeteredChanged at hmem
  dsimp only at hmem
  split at hmem
  . next hresumes =>
    refine ⟨hresumes.2.2.1, hresumes.2.1, ?_⟩
    simpa [UpdateEffect.starts, startAvailable, eq_comm] using hmem
  . simp [stay] at hmem

theorem unasked_not_muted (build : Build) (settings : UpdateSettings) (es : List UpdateEvent)
    (hmutes : Along UpdateStatus.step MutesNoneWaiting (initialStatus build settings) es)
    : let s := (reduceAll (initialStatus build settings) es).next
      ∀ e, e.unasked = true → ∀ url sha256 size version,
        .StartDownload url sha256 size version ∈ (reduceUpdate s e).effects →
        version ≠ (reduceUpdate s e).next.skippedVersion ∨
          isStrictlyNewer (reduceUpdate s e).next.minimumSupportedVersion
            (reduceUpdate s e).next.currentVersion = true := by
  intro s e hunasked url sha256 size version hmem
  have hwaiting : Waiting s := by
    apply invariant_of_along _ (waiting_initialStatus build settings) hmutes
      (run_step _ es)
    intro s e s' hs hmutes hstep
    cases hstep
    exact hs.reduce hmutes
  have hstarts : version ∈ (reduceUpdate s e).effects.filterMap UpdateEffect.starts :=
    List.mem_filterMap.mpr ⟨_, hmem, rfl⟩
  cases e with
  | PrefsChanged checks download skipped => exact .inl (starts_prefsChanged hstarts)
  | ManifestArrived m =>
    rcases (moves_reduceUpdate s (.ManifestArrived m)).starts hstarts with hother | hoffers
    . have hstay : reduceUpdate s (.ManifestArrived m) = stay s := by
        simp [reduceUpdate, onManifestArrived, hother.1]
      rw [hstay] at hmem
      cases hmem
    . obtain ⟨m', heq, rfl, hchecking, hoffers⟩ := hoffers
      cases heq
      obtain ⟨_, hminimum, hcurrent, hskipped⟩ := required_onManifestArrived s m hchecking
      have hmuted := not_muted_of_offers hoffers
      simp only [reduceUpdate]
      rw [hskipped, hminimum, hcurrent]
      exact hmuted
  | MeteredChanged metered =>
    obtain ⟨hphase, hwaits, rfl⟩ := starts_meteredChanged hstarts
    have hterms : SameTerms s (reduceUpdate s (.MeteredChanged metered)).next :=
      (carried_reduceUpdate rfl).2
    rw [hterms.skippedVersion, hterms.minimum, hterms.currentVersion, ← hwaiting.required]
    exact hwaiting.waits hphase hwaits
  | _ => cases hunasked

theorem unasked_not_muted_release20
    : let es : List UpdateEvent :=
        [.MeteredChanged true, .CheckRequested .Periodic, .ManifestArrived release20,
          .PrefsChanged true true "0.3.0"]
      let s := (reduceAll (initialStatus { version := "0.1.0" } {}) es).next
      Along UpdateStatus.step MutesNoneWaiting (initialStatus { version := "0.1.0" } {}) es ∧
      (reduceUpdate s (.MeteredChanged false)).effects = [s.startAvailable] ∧
      s.availableVersion ≠ (reduceUpdate s (.MeteredChanged false)).next.skippedVersion := by
  intro es s
  have hmutes : Along UpdateStatus.step MutesNoneWaiting
      (initialStatus { version := "0.1.0" } {}) es := by decide
  have heffects : (reduceUpdate s (.MeteredChanged false)).effects = [s.startAvailable] := by decide
  refine ⟨hmutes, heffects, ?_⟩
  have h := unasked_not_muted { version := "0.1.0" } {} es hmutes (.MeteredChanged false) rfl
    s.availableAsset.url s.availableAsset.sha256 (.ofInt s.availableAsset.size) s.availableVersion
  rcases h (by rw [heffects]; exact List.mem_singleton.mpr rfl) with hother | hrequired
  . exact hother
  . exact absurd hrequired (by decide)

theorem muted_release_downloaded
    : let s := (reduceAll (initialStatus { version := "0.1.0" } {})
        [.MeteredChanged true, .CheckRequested .Periodic, .ManifestArrived release20,
          .PrefsChanged true true "0.2.0"]).next
      s.skippedVersion = "0.2.0" ∧
      .StartDownload release20.setupAsset.url release20.setupAsset.sha256
        (.ofInt release20.setupAsset.size) "0.2.0" ∈
          (reduceUpdate s (.MeteredChanged false)).effects ∧
      (reduceUpdate s (.MeteredChanged false)).next.skippedVersion = "0.2.0" ∧
      isStrictlyNewer (reduceUpdate s (.MeteredChanged false)).next.minimumSupportedVersion
        (reduceUpdate s (.MeteredChanged false)).next.currentVersion = false := by
  decide

end Update
