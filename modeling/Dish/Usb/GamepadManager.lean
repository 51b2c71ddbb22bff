import Std.Data.TreeMap
import Dish.Usb.Path

/-!
This module contains the driver of the USB path machine.
-/

open Std Reducer

namespace Usb

def vpKey (vendorId productId : UInt16) : Int :=
  (vendorId.toUInt32 <<< 16 ||| productId.toUInt32).toInt32.toInt

structure UsbDeviceInfo where
  vendorId : UInt16
  productId : UInt16
  name : String := ""
  deriving DecidableEq

def UsbDeviceInfo.vpKey (device : UsbDeviceInfo) : Int :=
  Usb.vpKey device.vendorId device.productId

inductive ClaimResult where
  | success (syntheticId : Int)
  | fail (reason : DirectClaimFailure) (frameworkStolen : Bool)
  deriving DecidableEq

structure Gateway where
  claim : Nat → ClaimResult
  isKnownFastLaneModel : UInt16 → UInt16 → Bool := fun _ _ => false
  modelExpectsFrameworkGamepad : UInt16 → UInt16 → Bool := fun _ _ => true
  streamsUnprompted : UInt16 → UInt16 → Bool := fun _ _ => false

def Gateway.Fresh (gateway : Gateway) : Prop :=
  ∀ m n id, gateway.claim m = .success id → gateway.claim n = .success id → m = n

structure Scan where
  devices : List UsbDeviceInfo
  isClaimAlive : Int → Bool := fun _ => true
  completionCount : Int → Int := fun _ => 0
  decodedCount : Int → Int := fun _ => 0

inductive ClaimHealth where
  | Undecided
  | Decoding
  | Unreadable
  deriving DecidableEq

def kUndecodedReadsBeforeUnreadable : Int := 8
def kSilentScansBeforeUnreadable : Nat := 3

structure ClaimActivity where
  reads : Int := 0
  decoded : Int := 0
  scans : Nat := 0
  streamsUnprompted : Bool := false
  deriving DecidableEq

def judgeClaimHealth (a : ClaimActivity) : ClaimHealth :=
  if a.decoded > 0 then .Decoding
  else if a.reads ≥ kUndecodedReadsBeforeUnreadable then .Unreadable
  else if a.streamsUnprompted ∧ a.scans ≥ kSilentScansBeforeUnreadable then .Unreadable
  else .Undecided

def resolvePathChoice (stored : Option PathChoice) (isFastLaneModel : Bool)
    (priorFailure : Option DirectClaimFailure) : PathChoice :=
  match stored with
  | some choice => choice
  | none => if isFastLaneModel ∧ priorFailure = none then .Direct else .Standard

def kDepartedScanThreshold : Nat := 2

/--
`claims` are those the gateway holds, each with the model it was taken on, `attempts` counts those
it was asked for.
-/
structure UsbGamepadManager where
  controllers : TreeMap Int UsbController := {}
  devices : TreeMap Int UsbDeviceInfo := {}
  priorFailures : TreeMap Int DirectClaimFailure := {}
  missedScans : TreeMap Int Nat := {}
  directScans : TreeMap Int Nat := {}
  workers : TreeMap Int Int := {}
  prefs : TreeMap Int PathChoice := {}
  claims : TreeMap Int Int := {}
  attempts : Nat := 0

namespace UsbGamepadManager

def startWorker (m : UsbGamepadManager) (syntheticId key : Int) : UsbGamepadManager :=
  { m with workers := m.workers.insert syntheticId key }

def releaseClaimAndWorker (m : UsbGamepadManager) (syntheticId : Int) : UsbGamepadManager :=
  { m with
    workers := m.workers.erase syntheticId
    claims := m.claims.erase syntheticId }

def setController (m : UsbGamepadManager) (key : Int) (next : Option UsbController)
    : UsbGamepadManager :=
  match next with
  | some c => { m with controllers := m.controllers.insert key c }
  | none => { m with controllers := m.controllers.erase key }

def resolvePath (gateway : Gateway) (m : UsbGamepadManager) (vendorId productId : UInt16)
    : PathChoice :=
  resolvePathChoice m.prefs[vpKey vendorId productId]?
    (gateway.isKnownFastLaneModel vendorId productId) m.priorFailures[vpKey vendorId productId]?

def claimTracked (gateway : Gateway) (m : UsbGamepadManager) (key : Int)
    : ClaimResult × UsbGamepadManager :=
  match m.devices[key]? with
  | none => (.fail .Busy false, m)
  | some device =>
    let asked := { m with attempts := m.attempts + 1 }
    match gateway.claim m.attempts with
    | .success id => (.success id, { asked with claims := asked.claims.insert id device.vpKey })
    | .fail reason frameworkStolen => (.fail reason frameworkStolen, asked)

section Effects

-- How the driver takes the event an effect feeds back to it.
variable (feed : UsbGamepadManager → Int → UsbEvent → UsbGamepadManager)

def runClaim (gateway : Gateway) (m : UsbGamepadManager) (key : Int) : UsbGamepadManager :=
  match claimTracked gateway m key with
  | (.success id, m) => feed (m.startWorker id key) key (.ClaimSucceeded id)
  | (.fail reason frameworkStolen, m) => feed m key (.ClaimFailed reason frameworkStolen)

def runReclaim (gateway : Gateway) (m : UsbGamepadManager) (key : Int) (c : UsbController)
    : UsbGamepadManager :=
  let (outcome, m) := claimTracked gateway m key
  let m :=
    match c.syntheticId with
    | some old => m.releaseClaimAndWorker old
    | none => m
  match outcome with
  | .success id => feed (m.startWorker id key) key (.ClaimSucceeded id)
  | .fail reason frameworkStolen => feed m key (.ClaimFailed reason frameworkStolen)

/-- `c` is the controller the reduction left, or the one it took off the table. -/
def execute (gateway : Gateway) (m : UsbGamepadManager) (key : Int) (c : UsbController)
    (effect : UsbEffect) : UsbGamepadManager :=
  match effect with
  | .Claim => runClaim feed gateway m key
  | .Reclaim => runReclaim feed gateway m key c
  | .Release =>
    match c.syntheticId with
    | some id => m.releaseClaimAndWorker id
    | none => m
  | .RequestPermission => feed m key .PermissionGranted
  | .RemoveSynthetic id => m.releaseClaimAndWorker id
  | .SetPref choice => { m with prefs := m.prefs.insert (vpKey c.vendorId c.productId) choice }
  | .MarkFailure reason => { m with priorFailures := m.priorFailures.insert key reason }
  | .ClearFailure => { m with priorFailures := m.priorFailures.erase key }
  | _ => m

end Effects

def applyEventWithin (gateway : Gateway)
    : Nat → UsbGamepadManager → Int → UsbEvent → UsbGamepadManager
  | 0, m, _, _ => m
  | depth + 1, m, key, event =>
    match m.controllers[key]? with
    | none => m
    | some cur =>
      let r := reduce cur event
      r.effects.foldl
        (fun m effect =>
          m.execute (applyEventWithin gateway depth) gateway key (r.next.getD cur) effect)
        (m.setController key r.next)

/--
No event is fed back deeper than a permission, the claim it starts and the outcome of the claim.
-/
def applyEvent (gateway : Gateway) (m : UsbGamepadManager) (key : Int) (event : UsbEvent)
    : UsbGamepadManager :=
  applyEventWithin gateway 3 m key event

def ensureTracked (gateway : Gateway) (m : UsbGamepadManager) (device : UsbDeviceInfo)
    : UsbGamepadManager :=
  let key := device.vpKey
  let path := m.resolvePath gateway device.vendorId device.productId
  let m := { m with devices := m.devices.insert key device }
  if m.controllers.contains key then
    m
  else
    let c := UsbController.tracked device.vendorId device.productId device.name path
      (gateway.modelExpectsFrameworkGamepad device.vendorId device.productId)
    let m := { m with controllers := m.controllers.insert key c }
    m.applyEvent gateway key (.Choose path false)

def claimEnded (m : UsbGamepadManager) (scan : Scan) (key : Int) : Bool :=
  match m.controllers[key]? with
  | none => false
  | some c =>
    match c.syntheticId with
    | some id => c.phase = .Direct ∧ !scan.isClaimAlive id
    | none => false

def judgeClaim (gateway : Gateway) (m : UsbGamepadManager) (scan : Scan) (key : Int)
    : UsbGamepadManager :=
  let unjudged := { m with directScans := m.directScans.erase key }
  match m.controllers[key]? with
  | none => unjudged
  | some c =>
    match c.phase, c.syntheticId with
    | .Direct, some id =>
      let scans := m.directScans.getD key 0 + 1
      let activity : ClaimActivity :=
        {
          reads := scan.completionCount id
          decoded := scan.decodedCount id
          scans
          streamsUnprompted := gateway.streamsUnprompted c.vendorId c.productId
        }
      let m := { m with directScans := m.directScans.insert key scans }
      if judgeClaimHealth activity = .Unreadable then m.applyEvent gateway key .ClaimUnreadable
      else m
    | _, _ => unjudged

def onUsbGone (gateway : Gateway) (m : UsbGamepadManager) (vendorId productId : UInt16)
    : UsbGamepadManager :=
  let key := vpKey vendorId productId
  let m := m.applyEvent gateway key .UsbUnplugged
  { m with
    devices := m.devices.erase key
    missedScans := m.missedScans.erase key
    directScans := m.directScans.erase key
    priorFailures := m.priorFailures.erase key }

def scanDevice (gateway : Gateway) (scan : Scan) (m : UsbGamepadManager) (device : UsbDeviceInfo)
    : UsbGamepadManager :=
  let m :=
    if m.claimEnded scan device.vpKey then m.onUsbGone gateway device.vendorId device.productId
    else m
  let m := m.ensureTracked gateway device
  m.judgeClaim gateway scan device.vpKey

def sweepModel (present : List Int) (acc : TreeMap Int Nat × List (UInt16 × UInt16))
    (entry : Int × UsbController) : TreeMap Int Nat × List (UInt16 × UInt16) :=
  let (missedScans, departed) := acc
  let (key, c) := entry
  if key ∈ present then
    (missedScans.erase key, departed)
  else
    let missed := missedScans.getD key 0 + 1
    (missedScans.insert key missed,
      if missed ≥ kDepartedScanThreshold then departed ++ [(c.vendorId, c.productId)] else departed)

def reconcile (gateway : Gateway) (m : UsbGamepadManager) (scan : Scan) : UsbGamepadManager :=
  let m := scan.devices.foldl (scanDevice gateway scan) m
  let (missedScans, departed) :=
    m.controllers.toList.foldl (sweepModel (scan.devices.map (·.vpKey))) (m.missedScans, [])
  departed.foldl (fun m model => m.onUsbGone gateway model.1 model.2) { m with missedScans }

def trackPresent (gateway : Gateway) (m : UsbGamepadManager) (devices : List UsbDeviceInfo)
    (vendorId productId : UInt16) : UsbGamepadManager :=
  match devices.find? fun d => d.vendorId = vendorId ∧ d.productId = productId with
  | some device => m.ensureTracked gateway device
  | none => m

def setPathChoice (gateway : Gateway) (m : UsbGamepadManager) (devices : List UsbDeviceInfo)
    (vendorId productId : UInt16) (choice : PathChoice) : UsbGamepadManager :=
  let m := { m with prefs := m.prefs.insert (vpKey vendorId productId) choice }
  let m := m.trackPresent gateway devices vendorId productId
  m.applyEvent gateway (vpKey vendorId productId) (.Choose choice true)

def clearChoice (gateway : Gateway) (m : UsbGamepadManager) (devices : List UsbDeviceInfo)
    (vendorId productId : UInt16) : UsbGamepadManager :=
  let m := { m with prefs := m.prefs.erase (vpKey vendorId productId) }
  let m := m.trackPresent gateway devices vendorId productId
  m.applyEvent gateway (vpKey vendorId productId)
    (.Choose (m.resolvePath gateway vendorId productId) true)

inductive Call where
  | reconcile (scan : Scan)
  | setPathChoice (devices : List UsbDeviceInfo) (vendorId productId : UInt16) (choice : PathChoice)
  | clearChoice (devices : List UsbDeviceInfo) (vendorId productId : UInt16)
  | onFrameworkUp (vendorId productId : UInt16) (frameworkId : Int)
  | onFrameworkDown (vendorId productId : UInt16)
  | onUsbGone (vendorId productId : UInt16)
  | fireTimeout (vendorId productId : UInt16)

def call (gateway : Gateway) (m : UsbGamepadManager) : Call → UsbGamepadManager
  | .reconcile scan => m.reconcile gateway scan
  | .setPathChoice devices vendorId productId choice =>
    m.setPathChoice gateway devices vendorId productId choice
  | .clearChoice devices vendorId productId => m.clearChoice gateway devices vendorId productId
  | .onFrameworkUp vendorId productId frameworkId =>
    m.applyEvent gateway (vpKey vendorId productId) (.FrameworkUp frameworkId)
  | .onFrameworkDown vendorId productId =>
    m.applyEvent gateway (vpKey vendorId productId) .FrameworkDown
  | .onUsbGone vendorId productId => m.onUsbGone gateway vendorId productId
  | .fireTimeout vendorId productId => m.applyEvent gateway (vpKey vendorId productId) .Timeout

def runCalls (gateway : Gateway) (m : UsbGamepadManager) (calls : List Call) : UsbGamepadManager :=
  calls.foldl (call gateway) m

end UsbGamepadManager

end Usb
