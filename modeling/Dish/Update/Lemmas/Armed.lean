import Dish.Update.Lemmas.Off
import Dish.Update.Lemmas.Launch

/-!
This module contains the proof that the updater does not go silent.
-/

open Transition

namespace Update

variable {e : UpdateEvent} {fx : List UpdateEffect} {s : UpdateStatus} {u : Updater}

def SkipsAtRest (s : UpdateStatus) : UpdateEvent → Prop
  | .SkipRequested version =>
    s.phase = .Disabled ∨ s.phase = .Checking → ¬s.SkipsOffered version
  | _ => True

instance (s : UpdateStatus) : (e : UpdateEvent) → Decidable (SkipsAtRest s e)
  | .SkipRequested version =>
    inferInstanceAs (Decidable (s.phase = .Disabled ∨ s.phase = .Checking → ¬s.SkipsOffered version))
  | .PrefsChanged .. | .CheckRequested _ | .ManifestArrived _ | .CheckFailed _
  | .DownloadRequested | .DownloadStarted _ | .DownloadProgress _ | .DownloadFinished _
  | .DownloadFailed _ | .VerifyOk _ | .VerifyFailed | .StagedFound .. | .StagedInvalidated
  | .MeteredChanged _ | .ReachabilityChanged _ => inferInstanceAs (Decidable True)

theorem skipsWhileOn_of_skipsAtRest (h : SkipsAtRest s e)
    : SkipsWhileOn s e := by
  cases e with
  | SkipRequested version => exact fun hoff => h (.inl hoff)
  | _ => trivial

theorem Moves.schedule {r : UpdateReduction} (h : Moves s e r)
    : (r.next.phase = .Checking ∧
        (s.phase = .Checking ∧ e.answers = false ∨ ∃ manual, .FetchManifest manual ∈ r.effects)) ∨
      r.next.phase = .Disabled ∨
      (r.next.phase ≠ .Checking ∧ ∃ delayMs, .ScheduleNextCheck delayMs ∈ r.effects) ∨
      (r.next.phase ≠ .Checking ∧ s.phase ≠ .Disabled ∧ s.phase ≠ .Checking ∧
        ∀ trigger, e ≠ .CheckRequested trigger) ∨
      ∃ version, e = .SkipRequested version ∧ s.SkipsOffered version ∧
        (s.phase = .Disabled ∨ s.phase = .Checking) := by
  cases h with
  | keep hphase _ _ hcheck hanswer =>
    by_cases hoff : s.phase = .Disabled
    . exact .inr (.inl (hphase.trans hoff))
    . by_cases hchecking : s.phase = .Checking
      . have hanswer : e.answers = false := by simpa [hchecking] using hanswer
        exact .inl ⟨hphase.trans hchecking, .inl ⟨hchecking, hanswer⟩⟩
      . refine .inr (.inr (.inr (.inl ⟨by simpa [hphase] using hchecking, hoff, hchecking, ?_⟩)))
        intro trigger he
        rcases hcheck trigger he with h | h
        . exact hoff h
        . exact hchecking h
  | rearm hphase _ _ hidle =>
    exact .inr (.inr (.inl ⟨by simpa [hphase] using hidle, _, List.mem_singleton_self _⟩))
  | off hphase => exact .inr (.inl hphase)
  | on _ hphase =>
    exact .inr (.inr (.inl ⟨by simp [hphase], _, .tail _ (List.mem_singleton_self _)⟩))
  | start havailable hphase _ hcheck =>
    exact .inr (.inr (.inr (.inl ⟨by simp [hphase], by simp [havailable], by simp [havailable],
      hcheck⟩)))
  | check _ hphase => exact .inl ⟨hphase, .inr ⟨_, .tail _ (List.mem_singleton_self _)⟩⟩
  | fail _ hphase | offer _ _ hphase =>
    refine .inr (.inr (.inl ⟨?_, _, List.mem_append_right _ (List.mem_singleton_self _)⟩))
    rcases hphase with hphase | hphase <;> simp [hphase]
  | decline _ _ hphase =>
    refine .inr (.inr (.inl ⟨?_, _, List.mem_append_right _ (List.mem_singleton_self _)⟩))
    simp [hphase]
  | download _ _ hphase =>
    refine .inr (.inr (.inl ⟨?_, _, List.mem_append_right _ (.tail _ (List.mem_singleton_self _))⟩))
    simp [hphase]
  | verify hloading hphase =>
    exact .inr (.inr (.inr (.inl ⟨by simp [hphase], by simp [hloading], by simp [hloading],
      by simp⟩)))
  | stage hverifying hphase =>
    exact .inr (.inr (.inr (.inl ⟨by simp [hphase], by simp [hverifying], by simp [hverifying],
      by simp⟩)))
  | find hresting hphase =>
    refine .inr (.inr (.inr (.inl ⟨by simp [hphase], ?_, ?_, by simp⟩)))
    . rcases hresting with h | h | h <;> simp [h]
    . rcases hresting with h | h | h <;> simp [h]
  | lose hready hphase =>
    exact .inr (.inr (.inr (.inl ⟨by simp [hphase], by simp [hready], by simp [hready], by simp⟩)))
  | skip hskips hphase =>
    by_cases hphases : s.phase = .Disabled ∨ s.phase = .Checking
    . exact .inr (.inr (.inr (.inr ⟨_, rfl, hskips, hphases⟩)))
    . have hup : s.phase ≠ .Disabled := fun h => hphases (.inl h)
      have hidle : s.phase ≠ .Checking := fun h => hphases (.inr h)
      exact .inr (.inr (.inr (.inl ⟨by simp [hphase], hup, hidle, by simp⟩)))

namespace Updater

structure Armed (u : Updater) : Prop where
  disabled : u.status.DisabledExactly
  checking : u.status.phase = .Checking → 0 < u.fetches
  armed : u.status.checksEnabled = true → u.status.phase ≠ .Checking → u.checkTimer.isSome = true

theorem fetches_le_executeAll (fx : List UpdateEffect) (u : Updater)
    : u.fetches ≤ (fx.foldl execute u).fetches := by
  induction fx generalizing u with
  | nil => exact Nat.le_refl _
  | cons effect fx ih =>
    refine Nat.le_trans ?_ (ih _)
    cases effect with
    | FetchManifest manual => exact Nat.le_succ _
    | ScheduleNextCheck delayMs =>
      unfold execute
      dsimp only
      split
      . exact Nat.le_refl _
      . exact Nat.le_refl _
    | _ => exact Nat.le_refl _

theorem checkTimer_executeAll (fx : List UpdateEffect) (h : u.checkTimer.isSome = true)
    : (fx.foldl execute u).checkTimer.isSome = true := by
  induction fx generalizing u with
  | nil => exact h
  | cons effect fx ih =>
    apply ih
    cases effect with
    | ScheduleNextCheck delayMs =>
      unfold execute
      dsimp only
      split
      . exact h
      . rfl
    | _ => exact h

theorem checkTimer_schedule {delayMs : Nat}
    (hon : u.status.checksEnabled = true) (h : .ScheduleNextCheck delayMs ∈ fx)
    : (fx.foldl execute u).checkTimer.isSome = true := by
  obtain ⟨before, after, rfl⟩ := List.append_of_mem h
  rw [List.foldl_append, List.foldl_cons]
  apply checkTimer_executeAll
  have hon' := hon
  rw [← status_executeAll before u] at hon'
  generalize before.foldl execute u = v at hon'
  simp [execute, hon']

theorem fetches_fetch {manual : Bool} (h : .FetchManifest manual ∈ fx)
    : 0 < (fx.foldl execute u).fetches := by
  obtain ⟨before, after, rfl⟩ := List.append_of_mem h
  rw [List.foldl_append, List.foldl_cons]
  generalize before.foldl execute u = v
  have hle := fetches_le_executeAll after (v.execute (.FetchManifest manual))
  exact Nat.lt_of_lt_of_le (Nat.succ_pos v.fetches) hle

theorem armed_executeAll (hdisabled : u.status.DisabledExactly)
    (hchecking : u.status.phase = .Checking →
      0 < u.fetches ∨ ∃ manual, .FetchManifest manual ∈ fx)
    (harmed : u.status.checksEnabled = true → u.status.phase ≠ .Checking →
      u.checkTimer.isSome = true ∨ ∃ delayMs, .ScheduleNextCheck delayMs ∈ fx)
    : (fx.foldl execute u).Armed := by
  constructor
  . rw [status_executeAll]
    exact hdisabled
  . rw [status_executeAll]
    intro hphase
    rcases hchecking hphase with h | ⟨manual, h⟩
    . exact Nat.lt_of_lt_of_le h (fetches_le_executeAll fx u)
    . exact fetches_fetch h
  . rw [status_executeAll]
    intro hon hphase
    rcases harmed hon hphase with h | ⟨delayMs, h⟩
    . exact checkTimer_executeAll fx h
    . exact checkTimer_schedule hon h

theorem Armed.dispatch {v : Updater} (h : u.Armed)
    (hskip : SkipsAtRest u.status e) (hstatus : v.status = u.status)
    (htimer : (∀ trigger, e ≠ .CheckRequested trigger) → v.checkTimer = u.checkTimer)
    (hfetches : e.answers = false → v.fetches = u.fetches)
    : (v.dispatch e).Armed := by
  have hdisabled := h.disabled.reduce (skipsWhileOn_of_skipsAtRest hskip)
  have hschedule := (moves_reduceUpdate u.status e).schedule
  unfold Updater.dispatch
  rw [hstatus]
  generalize reduceUpdate u.status e = r at hschedule hdisabled
  apply armed_executeAll hdisabled
  . intro hphase
    rcases hschedule with h₁ | h₁ | h₁ | h₁ | h₁
    . rcases h₁.2 with ⟨hchecking, hanswer⟩ | hfetch
      . left
        rw [hfetches hanswer]
        exact h.checking hchecking
      . exact .inr hfetch
    . rw [h₁] at hphase
      cases hphase
    . exact absurd hphase h₁.1
    . exact absurd hphase h₁.1
    . obtain ⟨version, rfl, hskips, hphases⟩ := h₁
      exact absurd hskips (hskip hphases)
  . intro hon hphase
    rcases hschedule with h₁ | h₁ | h₁ | h₁ | h₁
    . exact absurd h₁.1 hphase
    . have hoff := hdisabled.mp h₁
      simp [hoff] at hon
    . exact .inr h₁.2
    . left
      rw [htimer h₁.2.2.2]
      apply h.armed _ h₁.2.2.1
      rw [← Bool.not_eq_false]
      exact fun hoff => h₁.2.1 (h.disabled.mpr hoff)
    . obtain ⟨version, rfl, hskips, hphases⟩ := h₁
      exact absurd hskips (hskip hphases)

theorem Armed.receive {u' : Updater} (h : u.Armed)
    (hskip : SkipsAtRest u.status e) (hreceive : u.receive e = some u')
    : u'.Armed := by
  unfold Updater.receive at hreceive
  split at hreceive
  next trigger =>
    cases hreceive
    exact h.dispatch hskip rfl (fun he => absurd rfl (he trigger)) (fun _ => rfl)
  next manifest =>
    split at hreceive
    next => cases hreceive
    next =>
      cases hreceive
      exact h.dispatch hskip rfl (fun _ => rfl) (by simp [UpdateEvent.answers])
  next error =>
    split at hreceive
    next => cases hreceive
    next =>
      cases hreceive
      exact h.dispatch hskip rfl (fun _ => rfl) (by simp [UpdateEvent.answers])
  next =>
    cases hreceive
    exact h.dispatch hskip rfl (fun _ => rfl) (fun _ => rfl)

end Updater

theorem Moves.phase_ne_checking {r : UpdateReduction}
    (h : Moves s e r) (hidle : s.phase ≠ .Checking) (he : ∀ trigger, e ≠ .CheckRequested trigger)
    : r.next.phase ≠ .Checking := by
  cases h with
  | keep hphase | rearm hphase => exact fun h => hidle (hphase.symm.trans h)
  | check => exact absurd rfl (he _)
  | fail _ hphase => rcases hphase with hphase | hphase <;> simp [hphase]
  | offer hchecking => exact absurd hchecking hidle
  | _ => simp_all

theorem initialStatus_phase (build : Build) (settings : UpdateSettings)
    : (initialStatus build settings).DisabledExactly ∧
      (initialStatus build settings).phase ≠ .Checking := by
  unfold UpdateStatus.DisabledExactly
  rw [Updater.checksEnabled_initialStatus]
  rcases Updater.phase_initialStatus build settings with hphase | ⟨hon, hphase⟩
  . rw [hphase]
    cases settings.checksEnabled
    . simp
    . simp
  . simp [hphase, hon]

namespace Updater

theorem hookConnectivity_phase (connectivity : Option Connectivity)
    (hdisabled : u.status.DisabledExactly) (hidle : u.status.phase ≠ .Checking)
    : (u.hookConnectivity connectivity).status.DisabledExactly ∧
      (u.hookConnectivity connectivity).status.phase ≠ .Checking := by
  cases connectivity with
  | none => exact ⟨hdisabled, hidle⟩
  | some info =>
    unfold hookConnectivity
    dsimp only
    have hdisabled' := hdisabled.reduce (e := .ReachabilityChanged info.online) trivial
    have hidle' := (moves_reduceUpdate u.status (.ReachabilityChanged info.online)).phase_ne_checking
      hidle (by simp)
    rw [← status_dispatch] at hdisabled' hidle'
    cases info.metered with
    | none => exact ⟨hdisabled', hidle'⟩
    | some metered =>
      dsimp only
      rw [status_dispatch]
      refine ⟨hdisabled'.reduce trivial, ?_⟩
      exact (moves_reduceUpdate _ _).phase_ne_checking hidle' (by simp)

theorem armed_launch (build : Build) (u : Updater) (connectivity : Option Connectivity)
    : (launch build u connectivity).Armed := by
  obtain ⟨hdisabled, hidle⟩ := initialStatus_phase build u.persisted.settings
  unfold launch
  dsimp only
  generalize hu : Updater.hookConnectivity _ connectivity = v
  have hphase : v.status.DisabledExactly ∧ v.status.phase ≠ .Checking := by
    rw [← hu]
    exact hookConnectivity_phase connectivity hdisabled hidle
  unfold scheduleStartupCheck
  split
  next hoff =>
    refine ⟨hphase.1, fun h => absurd h hphase.2, ?_⟩
    intro hon
    simp [hon] at hoff
  next => exact ⟨hphase.1, fun h => absurd h hphase.2, fun _ _ => rfl⟩

theorem updater_never_silent (hash : List UInt8 → String) (build : Build) (off started u : Updater)
    (noHandoffFlag anotherInstance spawns : Bool) (connectivity : Option Connectivity)
    (es : List UpdateEvent)
    (hstart : off.step hash build (.start noHandoffFlag anotherInstance spawns connectivity) =
      some started)
    (hup : started.life = .Running)
    (hskip : Along receive (fun u e => SkipsAtRest u.status e) started es)
    (hrun : Transition.run receive started es = some u) (hon : u.status.checksEnabled = true)
    : u.checkTimer.isSome = true ∨ (u.status.phase = .Checking ∧ 0 < u.fetches) := by
  have harmed : started.Armed := by
    unfold step at hstart
    dsimp only at hstart
    split at hstart
    next hoff =>
      cases hstart
      unfold start at hup ⊢
      split
      next heq =>
        rw [heq] at hup
        simp [hoff] at hup
      next => apply armed_launch
    next => cases hstart
  have harmed : u.Armed := by
    apply invariant_of_along _ harmed hskip hrun
    intro u e u' h hskip hreceive
    exact h.receive hskip hreceive
  by_cases hphase : u.status.phase = .Checking
  . exact .inr ⟨hphase, harmed.checking hphase⟩
  . exact .inl (harmed.armed hon hphase)

def byHand : Updater where
  persisted := { settings := { autoDownload := false } }

theorem updater_never_silent_byHand
    : ∃ started u, byHand.step setupHash build01 (.start false false true none) = some started ∧
      Transition.run receive started [.CheckRequested .Periodic] = some u ∧
      (u.checkTimer.isSome = true ∨ (u.status.phase = .Checking ∧ 0 < u.fetches)) := by
  refine ⟨_, _, rfl, rfl, ?_⟩
  exact updater_never_silent setupHash build01 byHand _ _ false false true none
    [.CheckRequested .Periodic] rfl (by decide) (by decide) rfl (by decide)

theorem skip_during_check_silences
    : ∃ started u, byHand.step setupHash build01 (.start false false true none) = some started ∧
      started.life = .Running ∧
      Transition.run receive started [.CheckRequested .Periodic, .ManifestArrived release20,
        .CheckRequested .Periodic, .SkipRequested "0.2.0", .ManifestArrived release20] = some u ∧
      u.status.checksEnabled = true ∧ u.checkTimer = none ∧ u.status.phase = .UpToDate ∧
      u.fetches = 0 := by
  refine ⟨_, _, rfl, by decide, rfl, ?_⟩
  decide

end Updater

end Update
