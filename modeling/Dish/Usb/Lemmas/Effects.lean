import Dish.Usb.Path

/-!
This module contains what the effects of one reduction come to for the driver.
-/

open Std Reducer

namespace Usb

variable {c : UsbController}

def freed (c : UsbController) : List UsbEffect → List Int
  | [] => []
  | .Release :: fx => c.syntheticId.toList ++ freed c fx
  | .RemoveSynthetic id :: fx => id :: freed c fx
  | _ :: fx => freed c fx

@[grind =]
theorem freed_append (c : UsbController) (fx fx' : List UsbEffect)
    : freed c (fx ++ fx') = freed c fx ++ freed c fx' := by
  fun_induction freed c fx <;> simp_all [freed]

@[grind =]
theorem freed_notifyUser (c d : UsbController) (notice : UsbNotice)
    : freed c (notifyUser d notice) = [] := by
  unfold notifyUser
  split <;> rfl

@[grind =]
theorem freed_removeSynthetic (c d : UsbController)
    : freed c (removeSynthetic d) = d.syntheticId.toList := by
  unfold removeSynthetic
  cases d.syntheticId <;> rfl

theorem freed_bindReturnedFramework (c d : UsbController) (id : Int) (extra : List UsbEffect)
    : freed c (bindReturnedFramework d id extra).effects =
      d.syntheticId.toList ++ freed c extra := by
  unfold bindReturnedFramework
  cases d.syntheticId <;> simp [freed]

@[grind =]
theorem freed_awaitingFrameworkUp (c d : UsbController) (id : Int)
    : freed c (awaitingFrameworkUp d id).effects = d.syntheticId.toList := by
  unfold awaitingFrameworkUp
  split <;> simp [freed_bindReturnedFramework, freed_notifyUser, freed]

@[grind =]
theorem freed_restoreStuckFrameworkUp (c d : UsbController) (id : Int)
    : freed c (restoreStuckFrameworkUp d id).effects = d.syntheticId.toList := by
  simp [restoreStuckFrameworkUp, freed_bindReturnedFramework, freed]

@[grind =]
theorem freed_startClaim (c d : UsbController) : freed c (startClaim d).effects = [] := by
  rfl

@[grind =]
theorem freed_claimingSucceeded (c d : UsbController) (id : Int)
    : freed c (claimingSucceeded d id).effects = [] := by
  rfl

@[grind =]
theorem freed_claimingSettledOnStandard (c d : UsbController) (reason : DirectClaimFailure)
    : freed c (claimingSettledOnStandard d reason).effects = [] := by
  simp [claimingSettledOnStandard, freed, freed_notifyUser]

@[grind =]
theorem freed_awaitingTimedOutWithSynthetic (c d : UsbController)
    : freed c (awaitingTimedOutWithSynthetic d).effects = [] := by
  rfl

@[grind =]
theorem freed_restoreStuckClaimFailed (c d : UsbController)
    : freed c (restoreStuckClaimFailed d).effects = [] := by
  rfl

@[grind =]
theorem freed_awaitingTimedOutWithNothing (c d : UsbController)
    : freed c (awaitingTimedOutWithNothing d).effects = [] := by
  rfl

@[grind =]
theorem freed_restoreStuckClaimSucceeded (c d : UsbController) (id : Int)
    : freed c (restoreStuckClaimSucceeded d id).effects = [] := by
  rfl

-- The controller that is left has no id any more, so the Release does nothing and the id goes with
-- the placeholder.
@[grind =]
theorem freed_releaseWithNoFrameworkToWaitFor (c : UsbController) (userInitiated : Bool)
    : freed ((releaseWithNoFrameworkToWaitFor c userInitiated).next.getD c)
        (releaseWithNoFrameworkToWaitFor c userInitiated).effects =
      c.syntheticId.toList := by
  simp [releaseWithNoFrameworkToWaitFor, freed, freed_append, freed_removeSynthetic]

@[grind =]
theorem freed_directUnreadableSettledOnStandard (c : UsbController)
    : freed ((directUnreadableSettledOnStandard c).next.getD c)
        (directUnreadableSettledOnStandard c).effects =
      c.syntheticId.toList := by
  simp [directUnreadableSettledOnStandard, freed, freed_append, freed_removeSynthetic]

@[grind =]
theorem freed_reduceUnplugged (c d : UsbController)
    : freed c (reduceUnplugged d).effects = d.syntheticId.toList := by
  unfold reduceUnplugged
  split <;> simp [freed_append, freed_removeSynthetic, freed]

structure Accounts (c : UsbController) (event : UsbEvent) (r : Reduction) : Prop where
  own : freed (r.next.getD c) r.effects = [] ∨
    freed (r.next.getD c) r.effects = c.syntheticId.toList
  kept : ∀ c', r.next = some c' → c'.phase = .Direct → freed (r.next.getD c) r.effects = []
  left : c.phase = .Direct → (∀ c', r.next = some c' → c'.phase ≠ .Direct) →
    freed (r.next.getD c) r.effects = c.syntheticId.toList
  named : ∀ c' id, r.next = some c' → c'.syntheticId = some id →
    c.syntheticId = some id ∨ event = .ClaimSucceeded id
  expected : ∀ c', r.next = some c' → c'.frameworkExpected = c.frameworkExpected

theorem reduce_accounts (c : UsbController) (event : UsbEvent)
    : Accounts c event (reduce c event) := by
  constructor <;> cases event <;>
    grind [freed, reduce, reduceRouted, reduceClaiming, reduceDirect, reduceAwaiting,
      reduceRestoreStuck, reduceNeedsReplug, adoptFrameworkId, routedFrameworkDown,
      routedPermissionGranted, routedChoose, startClaim, stay, claimingSucceeded,
      claimingLostTheFramework, claimingSettledOnStandard, routedPermissionDenied, directChoose,
      releaseWithNoFrameworkToWaitFor, releaseAndAwaitFramework, directUnreadable,
      directUnreadableAwaitingFramework, directUnreadableSettledOnStandard,
      awaitingTimedOutWithSynthetic, awaitingTimedOutWithNothing, markPermissionGranted,
      restoreStuckChoose, restoreStuckClaimSucceeded, restoreStuckClaimFailed, awaitingFrameworkUp,
      restoreStuckFrameworkUp, bindReturnedFramework, reduceUnplugged]

structure Passes (c : UsbController) (next : Option UsbController) (ids : List Int) : Prop where
  own : ∀ id ∈ ids, c.syntheticId = some id
  named : ∀ c' id, next = some c' → c'.syntheticId = some id → c.syntheticId = some id
  direct : ∀ c', next = some c' → c'.phase = .Direct →
    c.phase = .Direct ∧ c'.syntheticId = c.syntheticId ∧ ids = []
  left : c.phase = .Direct → (∀ c', next = some c' → c'.phase ≠ .Direct) →
    ∀ id, c.syntheticId = some id → id ∈ ids

theorem passes_reduce (c : UsbController) {event : UsbEvent}
    (hevent : ∀ id, event ≠ .ClaimSucceeded id)
    : Passes c (reduce c event).next
        (freed ((reduce c event).next.getD c) (reduce c event).effects) := by
  have haccounts := reduce_accounts c event
  constructor
  . intro id hid
    rcases haccounts.own with hnil | hown
    . simp [hnil] at hid
    . simpa [hown] using hid
  . intro c' id hc' hid
    rcases haccounts.named c' id hc' hid with hold | hnew
    . exact hold
    . exact absurd hnew (hevent id)
  . intro c' hc' hphase
    rcases (reduce_keeps c event).direct c' hc' hphase with ⟨hwas, hsame⟩ | ⟨id, hnew, _⟩
    . exact ⟨hwas, hsame, haccounts.kept c' hc' hphase⟩
    . exact absurd hnew (hevent id)
  . intro hphase hleft id hid
    simp [haccounts.left hphase hleft, hid]

def quiet (fx : List UsbEffect) : Bool :=
  .Claim ∉ fx ∧ .Reclaim ∉ fx ∧ .RequestPermission ∉ fx

@[grind =]
theorem quiet_append (fx fx' : List UsbEffect) : quiet (fx ++ fx') = (quiet fx && quiet fx') := by
  grind [quiet]

@[grind =]
theorem quiet_notifyUser (c : UsbController) (notice : UsbNotice)
    : quiet (notifyUser c notice) = true := by
  unfold notifyUser
  split <;> rfl

@[grind =]
theorem quiet_removeSynthetic (c : UsbController) : quiet (removeSynthetic c) = true := by
  unfold removeSynthetic
  split <;> rfl

theorem quiet_bindReturnedFramework (c : UsbController) (id : Int) (extra : List UsbEffect)
    : quiet (bindReturnedFramework c id extra).effects = quiet extra := by
  unfold bindReturnedFramework
  split <;> simp [quiet]

@[grind =]
theorem quiet_awaitingFrameworkUp (c : UsbController) (id : Int)
    : quiet (awaitingFrameworkUp c id).effects = true := by
  unfold awaitingFrameworkUp
  split
  next =>
    rw [quiet_bindReturnedFramework, quiet_append, quiet_notifyUser]
    rfl
  next =>
    rw [quiet_bindReturnedFramework]
    rfl

@[grind =]
theorem quiet_restoreStuckFrameworkUp (c : UsbController) (id : Int)
    : quiet (restoreStuckFrameworkUp c id).effects = true := by
  apply quiet_bindReturnedFramework

@[grind =]
theorem quiet_reduceUnplugged (c : UsbController) : quiet (reduceUnplugged c).effects = true := by
  unfold reduceUnplugged
  rw [quiet_append, quiet_removeSynthetic]
  split <;> rfl

@[grind =]
theorem quiet_awaitingTimedOutWithNothing (c : UsbController)
    : quiet (awaitingTimedOutWithNothing c).effects = true := by
  rfl

inductive Feeds (c : UsbController) : Reduction → Prop where
  | quiet {r : Reduction} (hquiet : quiet r.effects) : Feeds c r
  | claim {c' : UsbController} (hphase : c.phase = .Routed) (hphase' : c'.phase = .Claiming)
      (hid : c'.syntheticId = c.syntheticId)
    : Feeds c ⟨some c', [.ClearFailure, .BeginHold, .Claim]⟩
  | permission {c' : UsbController} (hphase : c.phase = .Routed) (hphase' : c'.phase = .Routed)
      (hid : c'.syntheticId = c.syntheticId)
    : Feeds c ⟨some c', [.RequestPermission]⟩
  | reclaim {c' : UsbController} (hphase : c.phase = .RestoreStuck)
      (hphase' : c'.phase = .RestoreStuck) (hid : c'.syntheticId = c.syntheticId)
    : Feeds c ⟨some c', [.Reclaim]⟩

theorem routedChoose_feeds (choice : PathChoice) (userInitiated : Bool) (hphase : c.phase = .Routed)
    : Feeds c (routedChoose c choice userInitiated) := by
  unfold routedChoose
  split
  next => exact .quiet rfl
  next =>
    dsimp only
    split
    next => exact .claim hphase rfl rfl
    next =>
      split
      next => exact .permission hphase hphase rfl
      next => exact .quiet rfl

theorem routedPermissionGranted_feeds (hphase : c.phase = .Routed)
    : Feeds c (routedPermissionGranted c) := by
  unfold routedPermissionGranted
  dsimp only
  split
  next => exact .claim hphase rfl rfl
  next => exact .quiet rfl

theorem restoreStuckChoose_feeds (choice : PathChoice) (userInitiated : Bool)
    (hphase : c.phase = .RestoreStuck)
    : Feeds c (restoreStuckChoose c choice userInitiated) := by
  unfold restoreStuckChoose
  split
  next => exact .reclaim hphase hphase rfl
  next => exact .quiet rfl

theorem reduce_feeds (c : UsbController) (event : UsbEvent) : Feeds c (reduce c event) := by
  cases event <;>
    grind [Feeds.quiet, routedChoose_feeds, routedPermissionGranted_feeds, restoreStuckChoose_feeds,
      quiet, reduce, reduceRouted, reduceClaiming, reduceDirect, reduceAwaiting, reduceRestoreStuck,
      reduceNeedsReplug, adoptFrameworkId, routedFrameworkDown, markPermissionGranted, stay,
      claimingSucceeded, claimingLostTheFramework, claimingSettledOnStandard,
      routedPermissionDenied, directChoose, releaseWithNoFrameworkToWaitFor,
      releaseAndAwaitFramework, directUnreadable, directUnreadableAwaitingFramework,
      directUnreadableSettledOnStandard, awaitingTimedOutWithSynthetic, restoreStuckClaimSucceeded,
      restoreStuckClaimFailed]

theorem quiet_reduce_claimFailed (c : UsbController) (reason : DirectClaimFailure) (stolen : Bool)
    : quiet (reduce c (.ClaimFailed reason stolen)).effects := by
  grind [quiet, reduce, reduceRouted, reduceClaiming, reduceDirect, reduceAwaiting,
    reduceRestoreStuck, reduceNeedsReplug, stay, claimingLostTheFramework,
    claimingSettledOnStandard, restoreStuckClaimFailed]

theorem quiet_reduce_claimSucceeded (c : UsbController) (id : Int)
    : quiet (reduce c (.ClaimSucceeded id)).effects := by
  grind [quiet, reduce, reduceRouted, reduceClaiming, reduceDirect, reduceAwaiting,
    reduceRestoreStuck, reduceNeedsReplug, stay, claimingSucceeded, restoreStuckClaimSucceeded]

theorem reduce_claimSucceeded (hphase : c.phase = .Claiming ∨ c.phase = .RestoreStuck) (id : Int)
    : ∃ c', (reduce c (.ClaimSucceeded id)).next = some c' ∧ c'.phase = .Direct ∧
        c'.syntheticId = some id ∧
        freed c' (reduce c (.ClaimSucceeded id)).effects = [] := by
  rcases hphase with hphase | hphase
  . have hreduce : reduce c (.ClaimSucceeded id) = claimingSucceeded c id := by
      simp [reduce, hphase, reduceClaiming]
    rw [hreduce]
    exact ⟨_, rfl, rfl, rfl, rfl⟩
  . have hreduce : reduce c (.ClaimSucceeded id) = restoreStuckClaimSucceeded c id := by
      simp [reduce, hphase, reduceRestoreStuck]
    rw [hreduce]
    exact ⟨_, rfl, rfl, rfl, rfl⟩

theorem not_requests_of_granted (c : UsbController)
    : .RequestPermission ∉ (reduce c .PermissionGranted).effects := by
  cases hphase : c.phase with
  | Routed =>
    simp only [reduce, hphase, reduceRouted, routedPermissionGranted]
    by_cases hdesired : c.desired = .Direct <;> simp [hdesired, startClaim, stay]
  | _ =>
    simp [reduce, hphase, reduceClaiming, reduceDirect, reduceAwaiting, reduceRestoreStuck,
      reduceNeedsReplug, markPermissionGranted, stay]

end Usb
