import Dish.Update.Lemmas.Moves
import Dish.Update.Lemmas.Dispatch
import Dish.Update.Lemmas.Handoff

/-!
This module contains what a process of the app comes up with.
-/

namespace Update

namespace Updater

theorem undispatched_hookConnectivity (u : Updater) (connectivity : Option Connectivity)
    : Undispatched u (u.hookConnectivity connectivity) := by
  unfold hookConnectivity
  split
  next => apply Undispatched.refl
  next info =>
    have hreach := undispatched_dispatch u (.ReachabilityChanged info.online)
    dsimp only
    split
    next => exact hreach
    next metered => exact hreach.trans (undispatched_dispatch _ _)

theorem currentVersion_dispatch (u : Updater) (e : UpdateEvent)
    : (u.dispatch e).status.currentVersion = u.status.currentVersion := by
  rw [status_dispatch]
  apply currentVersion_reduceUpdate

theorem currentVersion_hookConnectivity (u : Updater) (connectivity : Option Connectivity)
    : (u.hookConnectivity connectivity).status.currentVersion = u.status.currentVersion := by
  unfold hookConnectivity
  split
  next => rfl
  next info =>
    have hreach := currentVersion_dispatch u (.ReachabilityChanged info.online)
    dsimp only
    split
    next => exact hreach
    next metered => exact (currentVersion_dispatch _ _).trans hreach

theorem kept_withQuarantinedHandoff (s : UpdateStatus) (handoffVersion : String) (attempts : Nat)
    : Kept s (withQuarantinedHandoff s handoffVersion attempts) := by
  unfold withQuarantinedHandoff
  split
  . exact ⟨rfl, rfl⟩
  . split
    . exact ⟨rfl, rfl⟩
    . exact ⟨rfl, rfl⟩

theorem currentVersion_initialStatus (build : Build) (settings : UpdateSettings)
    : (initialStatus build settings).currentVersion = build.version := by
  unfold initialStatus
  apply (kept_withQuarantinedHandoff ..).currentVersion

theorem phase_initialStatus (build : Build) (settings : UpdateSettings)
    : (initialStatus build settings).phase =
        (if settings.checksEnabled then .Idle else .Disabled) ∨
      (settings.checksEnabled = true ∧ (initialStatus build settings).phase = .Failed) := by
  unfold initialStatus
  generalize hs : UpdateStatus.mk _ _ _ _ _ _ _ _ _ _ _ _ _ _ _ _ _ _ _ = s
  have hphase : s.phase = if settings.checksEnabled then .Idle else .Disabled := by
    rw [← hs]
  have hchecks : s.checksEnabled = settings.checksEnabled := by
    rw [← hs]
  unfold withQuarantinedHandoff
  split
  . exact .inl hphase
  . split
    . exact .inl hphase
    . dsimp only
      split
      next hon => exact .inr ⟨hchecks.symm.trans hon, rfl⟩
      next => exact .inl hphase

theorem checksEnabled_initialStatus (build : Build) (settings : UpdateSettings)
    : (initialStatus build settings).checksEnabled = settings.checksEnabled := by
  unfold initialStatus
  apply (kept_withQuarantinedHandoff ..).checksEnabled

theorem undispatched_launch (build : Build) (u : Updater) (connectivity : Option Connectivity)
    : Undispatched (construct build u) (launch build u connectivity) := by
  have h := undispatched_hookConnectivity (construct build u) connectivity
  unfold launch scheduleStartupCheck
  dsimp only
  split
  . exact ⟨h.1, h.2, h.3, h.4, h.5, h.6, h.7, h.8, h.9, h.10⟩
  . exact ⟨h.1, h.2, h.3, h.4, h.5, h.6, h.7, h.8, h.9, h.10⟩

theorem status_launch (build : Build) (u : Updater) (connectivity : Option Connectivity)
    : (launch build u connectivity).status =
      ((construct build u).hookConnectivity connectivity).status := by
  unfold launch scheduleStartupCheck
  dsimp only
  split
  . rfl
  . rfl

theorem currentVersion_launch (build : Build) (u : Updater) (connectivity : Option Connectivity)
    : (launch build u connectivity).status.currentVersion = build.version := by
  rw [status_launch, currentVersion_hookConnectivity]
  apply currentVersion_initialStatus

end Updater

def setupHash (bytes : List UInt8) : String :=
  if bytes = [97, 98, 99] then
    "ba7816bf8f01cfea414140de5dae2223b00361a396177a9cb410ff61f20015ad"
  else
    ""

def build01 : Build where
  version := "0.1.0"

def ready20 : ReadyDir where
  name := "0.2.0"
  marker := StagingStore.writtenMarker "0.2.0"
    "ba7816bf8f01cfea414140de5dae2223b00361a396177a9cb410ff61f20015ad" 3
  exe := some [97, 98, 99]

end Update
