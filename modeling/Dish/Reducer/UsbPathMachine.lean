/-!
This module contains the USB path of one pad. "Framework" is SDL, "Direct" the raw HID claim.
-/

namespace Reducer

inductive PathChoice where
  | Direct
  | Standard
  deriving DecidableEq

inductive DirectClaimFailure where
  | PermissionDenied
  | Busy
  | InitFailed
  | Dropped
  deriving DecidableEq

inductive UsbPhase where
  | Routed
  | Claiming
  | Direct
  | AwaitingFramework
  | RestoreStuck
  | NeedsReplug
  deriving DecidableEq

structure UsbController where
  vendorId : UInt16
  productId : UInt16
  name : String := ""
  phase : UsbPhase := .Routed
  usbPresent : Bool := true
  frameworkId : Option Int := none
  syntheticId : Option Int := none
  hasPermission : Bool := false
  desired : PathChoice := .Standard
  userInitiated : Bool := false
  connId : Option String := none
  type : Option Int := none
  failure : Option DirectClaimFailure := none
  frameworkExpected : Bool := true
  deriving DecidableEq

inductive UsbEvent where
  | FrameworkUp (id : Int)
  | FrameworkDown
  | UsbUnplugged
  | PermissionGranted
  | PermissionDenied
  | Choose (choice : PathChoice) (userInitiated : Bool)
  | ClaimSucceeded (syntheticId : Int)
  | ClaimFailed (reason : DirectClaimFailure) (frameworkStolen : Bool)
  | ClaimUnreadable
  | Timeout
  deriving DecidableEq

inductive UsbNotice where
  | SwitchToDirectFailed
  | NeedsReplug
  | RolledBackToDirect
  | RestoreFailed
  deriving DecidableEq

inductive UsbEffect where
  | Claim
  | Reclaim
  | Release
  | RequestPermission
  | BindFramework (frameworkId : Int)
  | RemoveSynthetic (syntheticId : Int)
  | BeginHold
  | EndHold
  | MarkNeedsReplug
  | MarkRestoreStuck
  | ClearRestoreStuck
  | StartTimeout
  | Notify (notice : UsbNotice)
  | SetPref (choice : PathChoice)
  | MarkFailure (reason : DirectClaimFailure)
  | ClearFailure
  deriving DecidableEq

structure Reduction where
  next : Option UsbController
  effects : List UsbEffect
  deriving DecidableEq

def stay (c : UsbController) : Reduction :=
  { next := some c, effects := [] }

def startClaim (c : UsbController) : Reduction where
  next := some { c with phase := .Claiming, failure := none }
  effects := [.ClearFailure, .BeginHold, .Claim]

def removeSynthetic (c : UsbController) : List UsbEffect :=
  match c.syntheticId with
  | some id => [.RemoveSynthetic id]
  | none => []

def notifyUser (c : UsbController) (notice : UsbNotice) : List UsbEffect :=
  if c.userInitiated then [.Notify notice] else []

def bindReturnedFramework (c : UsbController) (frameworkId : Int) (extra : List UsbEffect)
    : Reduction where
  next := some { c with
    phase := .Routed, frameworkId := some frameworkId, syntheticId := none, desired := .Standard,
    failure := none }
  effects :=
    (match c.syntheticId with
      | some id => [.RemoveSynthetic id]
      | none => [.EndHold]) ++
      [.BindFramework frameworkId, .SetPref .Standard] ++ extra

def markPermissionGranted (c : UsbController) : Reduction :=
  stay { c with hasPermission := true }

def adoptFrameworkId (c : UsbController) (frameworkId : Int) : Reduction :=
  stay { c with frameworkId := some frameworkId }

def routedFrameworkDown (c : UsbController) : Reduction where
  next := some { c with phase := .AwaitingFramework, frameworkId := none, userInitiated := false }
  effects := [.StartTimeout]

def routedPermissionDenied (c : UsbController) : Reduction :=
  if c.desired ≠ .Direct then
    stay c
  else
    { next := some { c with desired := .Standard, failure := some .PermissionDenied }
      effects :=
        [.SetPref .Standard, .MarkFailure .PermissionDenied] ++ notifyUser c .SwitchToDirectFailed }

def routedChoose (c : UsbController) (choice : PathChoice) (userInitiated : Bool) : Reduction :=
  if choice = .Standard then
    stay { c with desired := .Standard }
  else
    let wanting : UsbController := { c with desired := .Direct, userInitiated }
    if wanting.hasPermission then
      startClaim wanting
    else if userInitiated then
      { next := some wanting, effects := [.RequestPermission] }
    else
      stay wanting

def routedPermissionGranted (c : UsbController) : Reduction :=
  let granted : UsbController := { c with hasPermission := true }
  if granted.desired = .Direct then startClaim granted else stay granted

def reduceRouted (c : UsbController) (event : UsbEvent) : Reduction :=
  match event with
  | .FrameworkUp id => adoptFrameworkId c id
  | .FrameworkDown => routedFrameworkDown c
  | .PermissionGranted => routedPermissionGranted c
  | .PermissionDenied => routedPermissionDenied c
  | .Choose choice userInitiated => routedChoose c choice userInitiated
  | _ => stay c

def claimingSucceeded (c : UsbController) (syntheticId : Int) : Reduction where
  next := some { c with
    phase := .Direct, syntheticId := some syntheticId, frameworkId := none, failure := none }
  effects := [.EndHold, .ClearFailure]

def claimingLostTheFramework (c : UsbController) (reason : DirectClaimFailure) : Reduction where
  next := some { c with phase := .AwaitingFramework, syntheticId := none, failure := some reason }
  effects := [.StartTimeout]

def claimingSettledOnStandard (c : UsbController) (reason : DirectClaimFailure) : Reduction where
  next := some { c with
    phase := .Routed, desired := .Standard, syntheticId := none, failure := some reason }
  effects :=
    [.EndHold, .SetPref .Standard, .MarkFailure reason] ++ notifyUser c .SwitchToDirectFailed

def reduceClaiming (c : UsbController) (event : UsbEvent) : Reduction :=
  match event with
  | .ClaimSucceeded syntheticId => claimingSucceeded c syntheticId
  | .ClaimFailed reason frameworkStolen =>
    if frameworkStolen ∧ c.frameworkExpected then
      claimingLostTheFramework c reason
    else
      claimingSettledOnStandard c reason
  | .FrameworkUp id => adoptFrameworkId c id
  | .PermissionGranted => markPermissionGranted c
  | _ => stay c

def releaseWithNoFrameworkToWaitFor (c : UsbController) (userInitiated : Bool) : Reduction where
  next := some { c with
    phase := .Routed, desired := .Standard, frameworkId := none, syntheticId := none, userInitiated,
    failure := none }
  effects := [.Release] ++ removeSynthetic c ++ [.SetPref .Standard, .ClearFailure]

def releaseAndAwaitFramework (c : UsbController) (userInitiated : Bool) : Reduction where
  next := some { c with phase := .AwaitingFramework, userInitiated, failure := none }
  effects := [.Release, .StartTimeout]

def directChoose (c : UsbController) (choice : PathChoice) (userInitiated : Bool) : Reduction :=
  if choice ≠ .Standard then
    stay { c with desired := .Direct }
  else if !c.frameworkExpected then
    releaseWithNoFrameworkToWaitFor c userInitiated
  else
    releaseAndAwaitFramework c userInitiated

def directUnreadableAwaitingFramework (c : UsbController) : Reduction where
  next := some { c with phase := .AwaitingFramework, failure := some .InitFailed }
  effects := [.Release, .StartTimeout]

def directUnreadableSettledOnStandard (c : UsbController) : Reduction where
  next := some { c with
    phase := .Routed, desired := .Standard, frameworkId := none, syntheticId := none,
    failure := some .InitFailed }
  effects := [.Release] ++ removeSynthetic c ++ [.SetPref .Standard, .MarkFailure .InitFailed]

def directUnreadable (c : UsbController) : Reduction :=
  if !c.frameworkExpected then
    directUnreadableSettledOnStandard c
  else
    directUnreadableAwaitingFramework c

def reduceDirect (c : UsbController) (event : UsbEvent) : Reduction :=
  match event with
  | .Choose choice userInitiated => directChoose c choice userInitiated
  | .ClaimUnreadable => directUnreadable c
  | .FrameworkUp id => adoptFrameworkId c id
  | _ => stay c

def awaitingFrameworkUp (c : UsbController) (id : Int) : Reduction :=
  match c.failure with
  | some reason =>
    bindReturnedFramework c id ([.MarkFailure reason] ++ notifyUser c .SwitchToDirectFailed)
  | none => bindReturnedFramework c id [.ClearFailure]

def awaitingTimedOutWithSynthetic (c : UsbController) : Reduction where
  next := some { c with phase := .RestoreStuck }
  effects := [.MarkRestoreStuck, .Notify .RestoreFailed]

def awaitingTimedOutWithNothing (c : UsbController) : Reduction where
  next := some { c with phase := .NeedsReplug, desired := .Standard, failure := some .Dropped }
  effects := [.MarkNeedsReplug, .MarkFailure .Dropped, .SetPref .Standard, .Notify .NeedsReplug]

def reduceAwaiting (c : UsbController) (event : UsbEvent) : Reduction :=
  match event with
  | .FrameworkUp id => awaitingFrameworkUp c id
  | .Timeout =>
    if c.syntheticId.isSome then
      awaitingTimedOutWithSynthetic c
    else
      awaitingTimedOutWithNothing c
  | .PermissionGranted => markPermissionGranted c
  | _ => stay c

def restoreStuckChoose (c : UsbController) (choice : PathChoice) (userInitiated : Bool)
    : Reduction :=
  if choice = .Direct then
    { next := some { c with userInitiated, desired := .Direct }, effects := [.Reclaim] }
  else
    { next := some { c with userInitiated, phase := .AwaitingFramework }
      effects := [.ClearRestoreStuck, .StartTimeout] }

def restoreStuckClaimSucceeded (c : UsbController) (syntheticId : Int) : Reduction where
  next := some { c with
    phase := .Direct, syntheticId := some syntheticId, desired := .Direct, failure := none }
  effects := [.SetPref .Direct, .ClearFailure, .Notify .RolledBackToDirect]

def restoreStuckClaimFailed (c : UsbController) : Reduction where
  next := some { c with phase := .NeedsReplug, syntheticId := none, failure := some .Dropped }
  effects := [.MarkFailure .Dropped, .Notify .RestoreFailed]

def restoreStuckFrameworkUp (c : UsbController) (id : Int) : Reduction :=
  bindReturnedFramework c id [.ClearRestoreStuck, .ClearFailure]

def reduceRestoreStuck (c : UsbController) (event : UsbEvent) : Reduction :=
  match event with
  | .Choose choice userInitiated => restoreStuckChoose c choice userInitiated
  | .ClaimSucceeded syntheticId => restoreStuckClaimSucceeded c syntheticId
  | .ClaimFailed .. => restoreStuckClaimFailed c
  | .FrameworkUp id => restoreStuckFrameworkUp c id
  | .PermissionGranted => markPermissionGranted c
  | _ => stay c

def reduceNeedsReplug (c : UsbController) (event : UsbEvent) : Reduction :=
  match event with
  | .FrameworkUp id =>
    { next := some { c with phase := .Routed, frameworkId := some id, failure := none }
      effects := [.BindFramework id, .ClearFailure] }
  | .Choose choice userInitiated => stay { c with desired := choice, userInitiated }
  | .PermissionGranted => markPermissionGranted c
  | _ => stay c

def reduceUnplugged (c : UsbController) : Reduction where
  next := none
  effects :=
    removeSynthetic c ++
      match c.phase with
      | .Claiming | .AwaitingFramework | .RestoreStuck | .NeedsReplug => [.EndHold]
      | .Routed | .Direct => []

def reduce (c : UsbController) (event : UsbEvent) : Reduction :=
  if event = .UsbUnplugged then
    reduceUnplugged c
  else
    match c.phase with
    | .Routed => reduceRouted c event
    | .Claiming => reduceClaiming c event
    | .Direct => reduceDirect c event
    | .AwaitingFramework => reduceAwaiting c event
    | .RestoreStuck => reduceRestoreStuck c event
    | .NeedsReplug => reduceNeedsReplug c event

structure Reduction.Keeps (c : UsbController) (event : UsbEvent) (r : Reduction) : Prop where
  vendorId : ∀ c', r.next = some c' → c'.vendorId = c.vendorId
  productId : ∀ c', r.next = some c' → c'.productId = c.productId
  direct : ∀ c', r.next = some c' → c'.phase = .Direct →
    (c.phase = .Direct ∧ c'.syntheticId = c.syntheticId) ∨
      ∃ id, event = .ClaimSucceeded id ∧ c'.syntheticId = some id

theorem reduceRouted_keeps {c : UsbController} (event : UsbEvent) (hphase : c.phase = .Routed)
    : (reduceRouted c event).Keeps c event := by
  constructor <;> cases event <;>
    grind [reduceRouted, adoptFrameworkId, routedFrameworkDown, routedPermissionGranted,
      routedPermissionDenied, routedChoose, startClaim, stay]

theorem reduceClaiming_keeps {c : UsbController} (event : UsbEvent) (hphase : c.phase = .Claiming)
    : (reduceClaiming c event).Keeps c event := by
  constructor <;> cases event <;>
    grind [reduceClaiming, adoptFrameworkId, claimingSucceeded, claimingLostTheFramework,
      claimingSettledOnStandard, markPermissionGranted, stay]

theorem reduceDirect_keeps {c : UsbController} (event : UsbEvent) (hphase : c.phase = .Direct)
    : (reduceDirect c event).Keeps c event := by
  constructor <;> cases event <;>
    grind [reduceDirect, adoptFrameworkId, directChoose, directUnreadable,
      releaseWithNoFrameworkToWaitFor, releaseAndAwaitFramework, directUnreadableAwaitingFramework,
      directUnreadableSettledOnStandard, stay]

theorem reduceAwaiting_keeps {c : UsbController} (event : UsbEvent)
    (hphase : c.phase = .AwaitingFramework)
    : (reduceAwaiting c event).Keeps c event := by
  constructor <;> cases event <;>
    grind [reduceAwaiting, awaitingFrameworkUp, bindReturnedFramework, awaitingTimedOutWithSynthetic,
      awaitingTimedOutWithNothing, markPermissionGranted, stay]

theorem reduceRestoreStuck_keeps {c : UsbController} (event : UsbEvent)
    (hphase : c.phase = .RestoreStuck)
    : (reduceRestoreStuck c event).Keeps c event := by
  constructor <;> cases event <;>
    grind [reduceRestoreStuck, restoreStuckChoose, restoreStuckClaimSucceeded,
      restoreStuckClaimFailed, restoreStuckFrameworkUp, bindReturnedFramework,
      markPermissionGranted, stay]

theorem reduceNeedsReplug_keeps {c : UsbController} (event : UsbEvent)
    (hphase : c.phase = .NeedsReplug)
    : (reduceNeedsReplug c event).Keeps c event := by
  constructor <;> cases event <;> grind [reduceNeedsReplug, markPermissionGranted, stay]

theorem reduce_keeps (c : UsbController) (event : UsbEvent) : (reduce c event).Keeps c event := by
  unfold reduce
  split
  next => constructor <;> simp [reduceUnplugged]
  next =>
    split
    next h => exact reduceRouted_keeps event h
    next h => exact reduceClaiming_keeps event h
    next h => exact reduceDirect_keeps event h
    next h => exact reduceAwaiting_keeps event h
    next h => exact reduceRestoreStuck_keeps event h
    next h => exact reduceNeedsReplug_keeps event h

theorem release_of_leaves_direct {c c' : UsbController} {event : UsbEvent}
    (hphase : c.phase = .Direct) (h : (reduce c event).next = some c') (hleft : c'.phase ≠ .Direct)
    : (.Release ∈ (reduce c event).effects ∧ c'.syntheticId = c.syntheticId) ∨
      ∀ id, c.syntheticId = some id → .RemoveSynthetic id ∈ (reduce c event).effects := by
  cases event <;>
    grind [reduce, reduceUnplugged, reduceDirect, adoptFrameworkId, directChoose, directUnreadable,
      releaseWithNoFrameworkToWaitFor, releaseAndAwaitFramework, directUnreadableAwaitingFramework,
      directUnreadableSettledOnStandard, removeSynthetic, stay]

end Reducer
