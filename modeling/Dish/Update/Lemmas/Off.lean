import Dish.Lib.Transition
import Dish.Update.Lemmas.Moves

/-!
This module contains the proof that turning the checks off is final until they are turned on again.
-/

open Transition

namespace Update

variable {e : UpdateEvent} {s : UpdateStatus}

open UpdateStatus

def UpdateStatus.step (s : UpdateStatus) (e : UpdateEvent) : Option UpdateStatus :=
  some (reduceUpdate s e).next

def reduceAll (s : UpdateStatus) : List UpdateEvent → UpdateReduction
  | [] => stay s
  | e :: es =>
    let head := reduceUpdate s e
    let rest := reduceAll head.next es
    { next := rest.next, effects := head.effects ++ rest.effects }

def UpdateStatus.DisabledExactly (s : UpdateStatus) : Prop :=
  s.phase = .Disabled ↔ s.checksEnabled = false

instance (s : UpdateStatus) : Decidable s.DisabledExactly :=
  inferInstanceAs (Decidable (_ ↔ _))

def UpdateEvent.turnsOn : UpdateEvent → Bool
  | .PrefsChanged checksEnabled _ _ => checksEnabled
  | _ => false

def UpdateEffect.reachesOut : UpdateEffect → Bool
  | .FetchManifest _ => true
  | .StartDownload _ _ _ _ => true
  | .ScheduleNextCheck _ => true
  | _ => false

def SkipsWhileOn (s : UpdateStatus) : UpdateEvent → Prop
  | .SkipRequested version => s.phase = .Disabled → ¬s.SkipsOffered version
  | _ => True

instance (s : UpdateStatus) : (e : UpdateEvent) → Decidable (SkipsWhileOn s e)
  | .SkipRequested version =>
    inferInstanceAs (Decidable (s.phase = .Disabled → ¬s.SkipsOffered version))
  | .PrefsChanged .. | .CheckRequested _ | .ManifestArrived _ | .CheckFailed _
  | .DownloadRequested | .DownloadStarted _ | .DownloadProgress _ | .DownloadFinished _
  | .DownloadFailed _ | .VerifyOk _ | .VerifyFailed | .StagedFound .. | .StagedInvalidated
  | .MeteredChanged _ | .ReachabilityChanged _ => inferInstanceAs (Decidable True)

theorem not_reachesOut_of_tidies {fx : List UpdateEffect} (h : fx.all UpdateEffect.tidies)
    : ∀ effect ∈ fx, effect.reachesOut = false := by
  intro effect hmem
  have htidy := List.all_eq_true.mp h effect hmem
  cases effect <;> first | rfl | cases htidy

theorem moves_of_disabled (hoff : s.phase = .Disabled)
    (hskip : SkipsWhileOn s e) (hon : e.turnsOn = false)
    : (reduceUpdate s e).next.phase = .Disabled ∧
      ∀ effect ∈ (reduceUpdate s e).effects, effect.reachesOut = false := by
  have hmoves := moves_reduceUpdate s e
  generalize reduceUpdate s e = r at hmoves
  cases hmoves with
  | keep hphase _ htidy => exact ⟨hphase.trans hoff, not_reachesOut_of_tidies htidy⟩
  | off hphase _ htidy => exact ⟨hphase, not_reachesOut_of_tidies htidy⟩
  | on => cases hon
  | skip hskips => exact absurd hskips (hskip hoff)
  | rearm _ _ hup | check hup | fail hup => exact absurd hoff hup
  | _ => simp_all

theorem phase_ne_disabled_of_moves (hup : s.phase ≠ .Disabled)
    (hon : ∀ download skipped, e ≠ .PrefsChanged false download skipped)
    : (reduceUpdate s e).next.phase ≠ .Disabled := by
  have hmoves := moves_reduceUpdate s e
  generalize reduceUpdate s e = r at hmoves
  cases hmoves with
  | keep hphase => simpa [hphase] using hup
  | rearm hphase => simpa [hphase] using hup
  | off => exact absurd rfl (hon _ _)
  | on hoff => exact absurd hoff hup
  | fail _ hphase | offer _ _ hphase => rcases hphase with hphase | hphase <;> simp [hphase]
  | _ => simp_all

theorem phase_prefsChanged {checks download : Bool} {skipped : String}
    : (reduceUpdate s (.PrefsChanged checks download skipped)).next.phase = .Disabled ↔
      checks = false := by
  have hmoves := moves_reduceUpdate s (.PrefsChanged checks download skipped)
  generalize reduceUpdate s (.PrefsChanged checks download skipped) = r at hmoves
  cases hmoves with
  | keep hphase _ _ _ _ hprefs | start _ hphase _ _ _ hprefs =>
    simp [hphase, hprefs checks download skipped rfl]
  | off hphase => simp [hphase]
  | on _ hphase => simp [hphase]
  | rearm _ _ _ _ hprefs | fail _ _ _ _ hprefs => exact absurd rfl (hprefs checks download skipped)

theorem effects_prefsOff (s : UpdateStatus) (download : Bool) (skipped : String)
    : ∀ effect ∈ (reduceUpdate s (.PrefsChanged false download skipped)).effects,
      effect.reachesOut = false := by
  have hmoves := moves_reduceUpdate s (.PrefsChanged false download skipped)
  generalize reduceUpdate s (.PrefsChanged false download skipped) = r at hmoves
  cases hmoves with
  | keep _ _ htidy => exact not_reachesOut_of_tidies htidy
  | off _ _ htidy => exact not_reachesOut_of_tidies htidy
  | start _ _ _ _ _ hprefs => cases hprefs false download skipped rfl
  | rearm _ _ _ _ hprefs | fail _ _ _ _ hprefs => exact absurd rfl (hprefs false download skipped)

theorem UpdateStatus.DisabledExactly.reduce (hs : s.DisabledExactly) (hskip : SkipsWhileOn s e)
    : (reduceUpdate s e).next.DisabledExactly := by
  unfold DisabledExactly
  by_cases hprefs : ∃ checks download skipped, e = .PrefsChanged checks download skipped
  . obtain ⟨checks, download, skipped, rfl⟩ := hprefs
    rw [phase_prefsChanged, (kept_prefsChanged s checks download skipped).2]
  . have hother : ∀ checks download skipped, e ≠ .PrefsChanged checks download skipped := by
      intro checks download skipped h
      exact hprefs ⟨checks, download, skipped, h⟩
    have hon : e.turnsOn = false := by
      cases e <;> first | rfl | exact absurd rfl (hother _ _ _)
    rw [(kept_reduceUpdate hother).checksEnabled]
    rw [← (show _ ↔ _ from hs)]
    by_cases hoff : s.phase = .Disabled
    . simp [hoff, (moves_of_disabled hoff hskip hon).1]
    . simp [hoff, phase_ne_disabled_of_moves hoff (hother false)]

theorem run_step (s : UpdateStatus) (es : List UpdateEvent)
    : Transition.run UpdateStatus.step s es = some (reduceAll s es).next := by
  induction es generalizing s with
  | nil => rfl
  | cons e es ih => exact ih _

theorem DisabledExactly.reduceAll {es : List UpdateEvent}
    (hs : s.DisabledExactly) (hskip : Along UpdateStatus.step SkipsWhileOn s es)
    : (reduceAll s es).next.DisabledExactly := by
  apply invariant_of_along _ hs hskip (run_step s es)
  intro s e s' hs hskip hstep
  cases hstep
  exact hs.reduce hskip

theorem effects_of_disabled {es : List UpdateEvent} (hoff : s.phase = .Disabled)
    (hskip : Along UpdateStatus.step SkipsWhileOn s es)
    (hon : ∀ e ∈ es, e.turnsOn = false)
    : ∀ effect ∈ (reduceAll s es).effects, effect.reachesOut = false := by
  induction es generalizing s with
  | nil => simp [Update.reduceAll, stay]
  | cons e es ih =>
    have hhead := moves_of_disabled hoff hskip.1 (hon e (by simp))
    intro effect hmem
    rcases List.mem_append.mp hmem with hmem | hmem
    . exact hhead.2 effect hmem
    . exact ih hhead.1 (hskip.2 _ rfl) (fun e he => hon e (by simp [he])) effect hmem

theorem off_means_off (s : UpdateStatus) (es : List UpdateEvent) (hs : s.DisabledExactly)
    (hskip : Along UpdateStatus.step SkipsWhileOn s es)
    : (reduceAll s es).next.DisabledExactly ∧
      ∀ before download skipped during after,
        es = before ++ .PrefsChanged false download skipped :: during ++ after →
        (∀ e ∈ during, e.turnsOn = false) →
        ∀ effect ∈ (reduceAll (reduceAll s before).next
          (.PrefsChanged false download skipped :: during)).effects, effect.reachesOut = false := by
  refine ⟨DisabledExactly.reduceAll hs hskip, ?_⟩
  intro before download skipped during after hes hon effect hmem
  rw [hes] at hskip
  have hskip := along_of_append_left hskip
  have htail := along_of_append_right (run_step s before) hskip
  rcases List.mem_append.mp hmem with hmem | hmem
  . exact effects_prefsOff _ _ _ effect hmem
  . exact effects_of_disabled (phase_prefsChanged.mpr rfl) (htail.2 _ rfl) hon effect hmem

def release20 : UpdateManifest where
  version := "0.2.0"
  minimumSupportedVersion := "0.1.0"
  setupAsset := {
    url := "https://github.com/TinkerNorth/dish-windows/releases/download/v0.2.0/dish-setup.exe"
    sha256 := "ba7816bf8f01cfea414140de5dae2223b00361a396177a9cb410ff61f20015ad"
    size := 3
  }

def notified : UpdateStatus where
  currentVersion := "0.1.0"
  autoDownload := false

theorem off_means_off_notified
    : (reduceAll notified [.CheckRequested .Periodic, .ManifestArrived release20,
        .PrefsChanged false false "", .CheckRequested .Manual]).next.DisabledExactly ∧
      ∀ effect ∈ (reduceAll (reduceAll notified [.CheckRequested .Periodic,
        .ManifestArrived release20]).next
        [.PrefsChanged false false "", .CheckRequested .Manual]).effects,
        effect.reachesOut = false := by
  have h := off_means_off notified [.CheckRequested .Periodic, .ManifestArrived release20,
    .PrefsChanged false false "", .CheckRequested .Manual] (by decide) (by decide)
  refine ⟨h.1, ?_⟩
  exact h.2 [.CheckRequested .Periodic, .ManifestArrived release20] false ""
    [.CheckRequested .Manual] [] rfl (by decide)

theorem skip_leaves_disabled
    : let offered := (reduceAll notified
        [.CheckRequested .Periodic, .ManifestArrived release20]).next
      let during : List UpdateEvent :=
        [.PrefsChanged false false "0.2.0", .SkipRequested "0.2.0", .CheckRequested .Manual]
      offered.DisabledExactly ∧ (∀ e ∈ during, e.turnsOn = false) ∧
      ¬(reduceAll offered (.PrefsChanged false false "" :: during)).next.DisabledExactly ∧
      .FetchManifest true ∈ (reduceAll offered (.PrefsChanged false false "" :: during)).effects := by
  decide

end Update
