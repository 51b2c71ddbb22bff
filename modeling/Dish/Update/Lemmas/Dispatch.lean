import Dish.Update.Coordinator

/-!
This module contains what dispatching an event does to each part of the coordinator.
-/

namespace Update

def UpdateEffect.job (s : UpdateStatus) : UpdateEffect → Option Job
  | .StartDownload url sha256 size version =>
    some (.StartDownload { url, sha256, size := size.toInt64.toInt, version })
  | .AbortDownload => some .AbortDownload
  | .VerifyAndPromote version sha256 => some (.Promote version sha256 s.availableAsset.size)
  | .DiscardStaged version => some (.Discard version)
  | .SweepStaging => some (.Sweep s.currentVersion)
  | _ => none

def UpdateEffect.starts : UpdateEffect → Option String
  | .StartDownload _ _ _ version => some version
  | _ => none

namespace Updater

structure Undispatched (u u' : Updater) : Prop where
  life : u'.life = u.life
  store : u'.persisted.store = u.persisted.store
  handoffVersion : u'.persisted.settings.handoffVersion = u.persisted.settings.handoffVersion
  handoffAttempts : u'.persisted.settings.handoffAttempts = u.persisted.settings.handoffAttempts
  skippedVersion : u'.persisted.settings.skippedVersion = u.persisted.settings.skippedVersion
  transfer : u'.transfer = u.transfer
  main : u'.main = u.main
  pendingRestart : u'.pendingRestart = u.pendingRestart
  ran : u'.ran = u.ran
  spawned : u'.spawned = u.spawned

theorem Undispatched.refl (u : Updater) : Undispatched u u := by
  constructor <;> rfl

theorem Undispatched.trans {u u' u'' : Updater} (h : Undispatched u u') (h' : Undispatched u' u'')
    : Undispatched u u'' where
  life := h'.life.trans h.life
  store := h'.store.trans h.store
  handoffVersion := h'.handoffVersion.trans h.handoffVersion
  handoffAttempts := h'.handoffAttempts.trans h.handoffAttempts
  skippedVersion := h'.skippedVersion.trans h.skippedVersion
  transfer := h'.transfer.trans h.transfer
  main := h'.main.trans h.main
  pendingRestart := h'.pendingRestart.trans h.pendingRestart
  ran := h'.ran.trans h.ran
  spawned := h'.spawned.trans h.spawned

theorem undispatched_execute (u : Updater) (effect : UpdateEffect)
    : Undispatched u (u.execute effect) := by
  cases effect with
  | ScheduleNextCheck delayMs =>
    unfold execute
    dsimp only
    split
    . apply Undispatched.refl
    . constructor <;> rfl
  | _ => constructor <;> rfl

theorem status_execute (u : Updater) (effect : UpdateEffect)
    : (u.execute effect).status = u.status := by
  cases effect with
  | ScheduleNextCheck delayMs =>
    unfold execute
    dsimp only
    split
    . rfl
    . rfl
  | _ => rfl

theorem worker_execute (u : Updater) (effect : UpdateEffect)
    : (u.execute effect).worker = u.worker ++ (effect.job u.status).toList := by
  cases effect with
  | ScheduleNextCheck delayMs =>
    unfold execute
    dsimp only
    split
    . exact (List.append_nil _).symm
    . exact (List.append_nil _).symm
  | FetchManifest manual | PersistLastCheck | Notify notice version =>
    exact (List.append_nil _).symm
  | _ => rfl

theorem downloads_execute (u : Updater) (effect : UpdateEffect)
    : (u.execute effect).downloads = u.downloads ++ effect.starts.toList := by
  cases effect with
  | ScheduleNextCheck delayMs =>
    unfold execute
    dsimp only
    split
    . exact (List.append_nil _).symm
    . exact (List.append_nil _).symm
  | StartDownload url sha256 size version => rfl
  | _ => exact (List.append_nil _).symm

variable (fx : List UpdateEffect)

theorem undispatched_executeAll (u : Updater) : Undispatched u (fx.foldl execute u) := by
  induction fx generalizing u with
  | nil => apply Undispatched.refl
  | cons effect fx ih => exact (undispatched_execute u effect).trans (ih _)

theorem status_executeAll (u : Updater) : (fx.foldl execute u).status = u.status := by
  induction fx generalizing u with
  | nil => rfl
  | cons effect fx ih => exact (ih _).trans (status_execute u effect)

theorem worker_executeAll (u : Updater)
    : (fx.foldl execute u).worker = u.worker ++ fx.filterMap (UpdateEffect.job u.status) := by
  induction fx generalizing u with
  | nil => exact (List.append_nil _).symm
  | cons effect fx ih =>
    rw [List.foldl_cons, ih, worker_execute, status_execute, List.append_assoc]
    cases h : effect.job u.status with
    | none => rw [List.filterMap_cons_none h, Option.toList_none, List.nil_append]
    | some job => rw [List.filterMap_cons_some h, Option.toList_some, List.singleton_append]

theorem downloads_executeAll (u : Updater)
    : (fx.foldl execute u).downloads = u.downloads ++ fx.filterMap UpdateEffect.starts := by
  induction fx generalizing u with
  | nil => exact (List.append_nil _).symm
  | cons effect fx ih =>
    rw [List.foldl_cons, ih, downloads_execute, List.append_assoc]
    cases h : effect.starts with
    | none => rw [List.filterMap_cons_none h, Option.toList_none, List.nil_append]
    | some job => rw [List.filterMap_cons_some h, Option.toList_some, List.singleton_append]

theorem undispatched_dispatch (u : Updater) (event : UpdateEvent)
    : Undispatched u (u.dispatch event) := by
  have h := undispatched_executeAll (reduceUpdate u.status event).effects
    { u with status := (reduceUpdate u.status event).next }
  exact ⟨h.1, h.2, h.3, h.4, h.5, h.6, h.7, h.8, h.9, h.10⟩

theorem status_dispatch (u : Updater) (event : UpdateEvent)
    : (u.dispatch event).status = (reduceUpdate u.status event).next := by
  apply status_executeAll

theorem worker_dispatch (u : Updater) (event : UpdateEvent)
    : (u.dispatch event).worker = u.worker ++
      (reduceUpdate u.status event).effects.filterMap
        (UpdateEffect.job (reduceUpdate u.status event).next) := by
  apply worker_executeAll

theorem downloads_dispatch (u : Updater) (event : UpdateEvent)
    : (u.dispatch event).downloads =
      u.downloads ++ (reduceUpdate u.status event).effects.filterMap UpdateEffect.starts := by
  apply downloads_executeAll

end Updater

end Update
