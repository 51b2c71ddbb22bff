import Dish.Update.Lemmas.Steps
import Dish.Update.Lemmas.Launch
import Dish.Update.Lemmas.Starts

/-!
This module contains what becomes of a version whose apply attempts are used up.
-/

open Transition

namespace Update

variable {e : UpdateEvent}

open UpdateStatus

namespace Updater

variable {hash : List UInt8 → String} {build : Build} {u v w : Updater} {event : Event}
  {version : String}

def MutedAtCap (version : String) (u : Updater) : Event → Prop
  | .manifest m =>
    m.version = version → kMaxApplyAttemptsPerVersion ≤ u.persisted.attempts version →
    u.status.phase = .Checking → u.status.skippedVersion = version ∧
      isStrictlyNewer m.minimumSupportedVersion u.status.currentVersion = false
  | _ => True

instance (version : String) (u : Updater) : (event : Event) → Decidable (MutedAtCap version u event)
  | .manifest m =>
    inferInstanceAs (Decidable (m.version = version →
      kMaxApplyAttemptsPerVersion ≤ u.persisted.attempts version → u.status.phase = .Checking →
      u.status.skippedVersion = version ∧
        isStrictlyNewer m.minimumSupportedVersion u.status.currentVersion = false))
  | .start .. | .timeout | .checkNow | .downloadNow | .skipAvailableVersion | .setChecksEnabled _
  | .setAutoDownload _ | .armPendingRestart | .reachabilityChanged _ | .meteredChanged _
  | .checkFailed _ | .work _ | .transferStarted _ | .transferProgress _ | .transferFinished _
  | .transferFailed _ | .deliver | .aboutToQuit _ | .exit | .clock _ | .tamper _ =>
    inferInstanceAs (Decidable True)

structure Quiet (version : String) (u : Updater) : Prop where
  main : u.life = .Running → ∀ e ∈ u.main, e.fromWorker = true
  unoffered : u.life = .Running → kMaxApplyAttemptsPerVersion ≤ u.persisted.attempts version →
    u.status.phase = .Available → u.status.availableVersion ≠ version

theorem attempts_of_record
    (hversion : v.persisted.settings.handoffVersion = u.persisted.settings.handoffVersion)
    (hattempts : v.persisted.settings.handoffAttempts = u.persisted.settings.handoffAttempts)
    (version : String)
    : v.persisted.attempts version = u.persisted.attempts version := by
  unfold Persisted.attempts
  rw [hversion, hattempts]

theorem Quiet.worked (h : Quiet version u) (hworked : Worked u v) : Quiet version v := by
  constructor
  . intro hup e he
    rw [hworked.life] at hup
    rcases hworked.main e he with he | he
    . exact h.main hup e he
    . exact he
  . rw [hworked.life, hworked.status,
      attempts_of_record hworked.handoffVersion hworked.handoffAttempts version]
    exact h.unoffered

theorem Handing.not_offersVersion (hhanding : Handing u event v e)
    (hmain : ∀ e ∈ u.main, e.fromWorker = true) (hmuted : MutedAtCap version u event)
    (hcap : kMaxApplyAttemptsPerVersion ≤ u.persisted.attempts version)
    : ¬OffersVersion v.status version e := by
  rintro ⟨m, rfl, hversion, hchecking, hoffers⟩
  rw [hhanding.status rfl] at hchecking hoffers
  have hdispatches := hhanding.dispatches
  cases event with
  | manifest m' =>
    cases hdispatches
    obtain ⟨hskipped, hrequired⟩ := hmuted hversion hcap hchecking
    rw [not_offers_of_muted (hskipped.trans hversion.symm) hrequired] at hoffers
    cases hoffers
  | deliver => cases hmain _ hdispatches
  | skipAvailableVersion => rcases hdispatches with h | ⟨_, _, _, h⟩ <;> cases h
  | setChecksEnabled enabled | setAutoDownload enabled =>
    obtain ⟨_, _, _, h⟩ := hdispatches
    cases h
  | _ => cases hdispatches

theorem downloads_dispatch_count
    (havailable : v.status.phase = .Available → v.status.availableVersion ≠ version)
    (hoffers : ¬OffersVersion v.status version e)
    : (v.dispatch e).downloads.count version = v.downloads.count version := by
  rw [downloads_dispatch, List.count_append]
  suffices h : version ∉ (reduceUpdate v.status e).effects.filterMap UpdateEffect.starts by
    rw [List.count_eq_zero.mpr h]
    rfl
  intro hmem
  rcases (moves_reduceUpdate v.status e).starts hmem with ⟨hphase, hversion⟩ | h
  . exact havailable hphase hversion
  . exact hoffers h

theorem available_dispatch
    (havailable : v.status.phase = .Available → v.status.availableVersion ≠ version)
    (hoffers : ¬OffersVersion v.status version e)
    : (v.dispatch e).status.phase = .Available →
      (v.dispatch e).status.availableVersion ≠ version := by
  rw [status_dispatch]
  rintro hphase rfl
  rcases (moves_reduceUpdate v.status e).available hphase with ⟨hphase, hversion⟩ | h
  . exact havailable hphase hversion
  . exact hoffers h

theorem quiet_launch (build : Build) (u : Updater) (connectivity : Option Connectivity)
    (version : String)
    : Quiet version (launch build u connectivity) ∧
      (launch build u connectivity).downloads.count version = u.downloads.count version := by
  have hidle : (construct build u).status.phase = .Available →
      (construct build u).status.availableVersion ≠ version := by
    intro hphase
    change (initialStatus build u.persisted.settings).phase = .Available at hphase
    rcases phase_initialStatus build u.persisted.settings with h | ⟨_, h⟩
    . rw [h] at hphase
      split at hphase
      . cases hphase
      . cases hphase
    . rw [h] at hphase
      cases hphase
  have hhook : (((construct build u).hookConnectivity connectivity).status.phase = .Available →
      ((construct build u).hookConnectivity connectivity).status.availableVersion ≠ version) ∧
      ((construct build u).hookConnectivity connectivity).downloads.count version =
        u.downloads.count version := by
    unfold hookConnectivity
    split
    next => exact ⟨hidle, rfl⟩
    next info =>
      have hreach : ∀ s, ¬OffersVersion s version (.ReachabilityChanged info.online) := by
        rintro s ⟨m, h, _⟩
        cases h
      have havailable := available_dispatch hidle (hreach _)
      have hcount := downloads_dispatch_count hidle (hreach _)
      dsimp only
      cases info.metered with
      | none => exact ⟨havailable, hcount⟩
      | some metered =>
        have hmetered : ∀ s, ¬OffersVersion s version (.MeteredChanged metered) := by
          rintro s ⟨m, h, _⟩
          cases h
        exact ⟨available_dispatch havailable (hmetered _),
          (downloads_dispatch_count havailable (hmetered _)).trans hcount⟩
  have hkept := undispatched_launch build u connectivity
  refine ⟨⟨?_, ?_⟩, ?_⟩
  . intro _ e he
    rw [hkept.main] at he
    cases he
  . intro _ _
    rw [status_launch]
    exact hhook.1
  . rw [← hhook.2]
    unfold launch scheduleStartupCheck
    dsimp only
    split
    . rfl
    . rfl

theorem Quiet.step (h : Quiet version u) (hmuted : MutedAtCap version u event)
    (hstep : u.step hash build event = some v)
    : Quiet version v ∧
      (kMaxApplyAttemptsPerVersion ≤ u.persisted.attempts version →
        v.downloads.count version = u.downloads.count version) := by
  apply step_rule (I := fun w => Quiet version w ∧
    (kMaxApplyAttemptsPerVersion ≤ u.persisted.attempts version →
      w.downloads.count version = u.downloads.count version)) hstep ⟨h, fun _ => rfl⟩
  . intro w w' haside hw
    refine ⟨hw.1.worked haside.toWorked, ?_⟩
    rw [haside.downloads]
    exact hw.2
  . intro w e hhanding hw
    have hkept := undispatched_dispatch w e
    have hcap := attempts_of_record hhanding.handoffVersion hhanding.handoffAttempts version
    have hlife := hhanding.life.trans hhanding.up
    have hoffers := hhanding.not_offersVersion (h.main hhanding.up) hmuted
    refine ⟨⟨?_, ?_⟩, ?_⟩
    . rw [hkept.life, hkept.main]
      exact hw.1.main
    . rw [attempts_of_record hkept.handoffVersion hkept.handoffAttempts version]
      intro _ hmax
      exact available_dispatch (hw.1.unoffered hlife hmax) (hoffers (hcap ▸ hmax))
    . intro hmax
      rw [← hw.2 hmax]
      exact downloads_dispatch_count (hw.1.unoffered hlife (hcap ▸ hmax)) (hoffers hmax)
  . intro job worker disk _ _
    have hworked : Worked { u with worker, ran := u.ran + 1 }
        (runJob hash { u with worker, ran := u.ran + 1 } job disk) := worked_runJob _ job disk
    have hquiet : Quiet version { u with worker, ran := u.ran + 1 } := ⟨h.main, h.unoffered⟩
    refine ⟨hquiet.worked hworked, ?_⟩
    rw [hworked.downloads]
    exact fun _ => rfl
  . intro noHandoffFlag anotherInstance spawns connectivity hoff
    unfold start
    split
    . exact ⟨⟨by simp [hoff], by simp [hoff]⟩, fun _ => rfl⟩
    . obtain ⟨hquiet, hcount⟩ := quiet_launch build { u with persisted := _ } connectivity version
      exact ⟨hquiet, fun _ => hcount⟩
  . intro spawns _
    refine ⟨⟨by simp, by simp⟩, ?_⟩
    intro _
    unfold onAboutToQuit
    split
    . rfl
    . rfl
  . intro _ _
    refine ⟨⟨by simp, by simp⟩, ?_⟩
    intro _
    rw [(aside_abortDownload u).downloads]
  . intro store _
    exact ⟨h.worked (worked_withStore u store), fun _ => rfl⟩

theorem start_hands_over {staged : StagedUpdate} (hfound : u.persisted.store.findStaged = some staged)
    (hnewer : isStrictlyNewer staged.version build.version = true)
    (hread : hash staged.exe ≠ "") (hdigest : sameDigest (hash staged.exe) staged.sha256 = true)
    (hbelow : u.persisted.attempts staged.version < kMaxApplyAttemptsPerVersion)
    (spawns : Bool) (connectivity : Option Connectivity)
    : let started := u.start hash build false false spawns connectivity
      started.persisted.attempts staged.version = u.persisted.attempts staged.version + 1 ∧
      started.spawned = u.spawned ++ if spawns then [staged] else [] := by
  have hhandoff : u.persisted.runStartupHandoff hash build.version false false spawns =
      (if spawns then some staged else none, u.persisted.withAttempt staged) :=
    Persisted.handOff_of_applicable hfound hnewer hread hdigest hbelow spawns
  have hattempts := u.persisted.attempts_withAttempt staged
  unfold start
  rw [hhandoff]
  cases spawns with
  | true => exact ⟨hattempts, rfl⟩
  | false =>
    have hkept := undispatched_launch build { u with persisted := u.persisted.withAttempt staged }
      connectivity
    rcases (u.persisted.withAttempt staged).reconcileAfterApply_spec build.version with h | h
    . refine ⟨?_, ?_⟩
      . rw [← hattempts]
        apply attempts_of_record (u := { u with persisted := u.persisted.withAttempt staged })
        . exact hkept.handoffVersion.trans h.version
        . exact hkept.handoffAttempts.trans h.attempts
      . exact hkept.spawned.trans (List.append_nil _).symm
    . have hspent : isStrictlyNewer staged.version build.version = false := h.2.1
      rw [hnewer] at hspent
      cases hspent

theorem capped_not_downloaded (hash : List UInt8 → String) (build : Build) (version : String)
    (first u u' : Updater) (es : List Event) (event : Event) (hoff : first.life = .Off)
    (hmuted : Along (step hash build) (MutedAtCap version) first (es ++ [event]))
    (hrun : Transition.run (step hash build) first es = some u)
    (hstep : u.step hash build event = some u')
    : (kMaxApplyAttemptsPerVersion ≤ u.persisted.attempts version →
        u'.downloads.count version = u.downloads.count version) ∧
      ∀ staged spawns connectivity, event = .start false false spawns connectivity →
        u.persisted.store.findStaged = some staged → staged.version = version →
        isStrictlyNewer version build.version = true → hash staged.exe ≠ "" →
        sameDigest (hash staged.exe) staged.sha256 = true →
        u.persisted.attempts version < kMaxApplyAttemptsPerVersion →
        u'.persisted.attempts version = u.persisted.attempts version + 1 ∧
        u'.spawned = u.spawned ++ if spawns then [staged] else [] := by
  constructor
  . have hquiet : Quiet version u := by
      apply invariant_of_along _ _ (along_of_append_left hmuted) hrun
      . intro u event u' h hmuted hstep
        exact (h.step hmuted hstep).1
      . exact ⟨by simp [hoff], by simp [hoff]⟩
    have hlast := along_of_append_right hrun hmuted
    exact (hquiet.step hlast.1 hstep).2
  . rintro staged spawns connectivity rfl hfound rfl hnewer hread hdigest hbelow
    have hstart : u.start hash build false false spawns connectivity = u' := by
      simp only [step] at hstep
      split at hstep
      next => exact Option.some.inj hstep
      next => cases hstep
    rw [← hstart]
    exact start_hands_over hfound hnewer hread hdigest hbelow spawns connectivity

def quarantined20 : Updater where
  persisted := { settings := {
    skippedVersion := "0.2.0", handoffVersion := "0.2.0", handoffAttempts := 2 } }

def updateCycle (m : UpdateManifest) : List Event :=
  [.start false false true none, .work {}, .work {}, .timeout, .work {}, .manifest m, .work {},
    .transferFinished [97, 98, 99], .deliver, .work {}, .deliver, .work {}, .aboutToQuit true, .exit]

def required20 : UpdateManifest :=
  { release20 with minimumSupportedVersion := "0.2.0" }

theorem capped_not_downloaded_muted
    : ∃ u u', Transition.run (step setupHash build01) quarantined20
        ((updateCycle release20).take 5) = some u ∧
      u.step setupHash build01 (.manifest release20) = some u' ∧
      kMaxApplyAttemptsPerVersion ≤ u.persisted.attempts "0.2.0" ∧
      u'.downloads.count "0.2.0" = u.downloads.count "0.2.0" := by
  refine ⟨_, _, rfl, rfl, by decide, ?_⟩
  have h := capped_not_downloaded setupHash build01 "0.2.0" quarantined20 _ _
    ((updateCycle release20).take 5) (.manifest release20) rfl (by decide) rfl rfl
  exact h.1 (by decide)

theorem required_downloaded_to_quarantine
    : ∃ u started u', kMaxApplyAttemptsPerVersion ≤ quarantined20.persisted.attempts "0.2.0" ∧
      Transition.run (step setupHash build01) quarantined20 (updateCycle required20) = some u ∧
      u.downloads = ["0.2.0"] ∧ u.persisted.store.ready = [ready20] ∧
      u.step setupHash build01 (.start false false true none) = some started ∧
      started.spawned = [] ∧ started.persisted.store.ready = [] ∧
      Transition.run (step setupHash build01) u (updateCycle required20) = some u' ∧
      u'.downloads = ["0.2.0", "0.2.0"] ∧ u'.spawned = [] := by
  refine ⟨_, _, _, by decide, rfl, by decide, by decide, rfl, by decide, by decide, rfl, ?_⟩
  decide

end Updater

end Update
