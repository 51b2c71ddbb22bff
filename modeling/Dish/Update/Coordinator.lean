import Dish.Update.Handoff

/-!
This module contains the coordinator of the updater, its worker and what it persists, over several
processes.
-/

namespace Update

structure Build where
  version : String
  managed : Bool := true
  deriving DecidableEq

structure DownloadRequest where
  url : String
  sha256 : String
  size : Int
  version : String
  deriving DecidableEq

inductive Job where
  | StartDownload (request : DownloadRequest)
  | AbortDownload
  | Promote (version sha256 : String) (size : Int)
  | Discard (version : String)
  | Sweep (currentVersion : String)
  | ScanStaging
  deriving DecidableEq

structure DiskAnswers where
  hasRoom : Bool := true
  opens : Bool := true
  writes : StagingStore.Writes := {}
  stale : List String := []
  deriving DecidableEq

inductive Life where
  | Off
  | Running
  | Quitting
  deriving DecidableEq

/-- The last three fields are not the source's. -/
structure Updater where
  persisted : Persisted := {}
  life : Life := .Off
  status : UpdateStatus := {}
  checkTimer : Option Nat := none
  fetches : Nat := 0
  worker : List Job := []
  transfer : Option DownloadRequest := none
  main : List UpdateEvent := []
  pendingRestart : Bool := false
  lastManualCheckMs : Int := 0
  now : Int := 0
  downloads : List String := []
  ran : Nat := 0
  spawned : List StagedUpdate := []
  deriving DecidableEq

def kMinCheckGapMs : Int := 60 * 60 * 1000
def kFutureSkewEscapeMs : Int := 24 * 60 * 60 * 1000
def kManualMinGapMs : Int := 10000

def initialStatus (build : Build) (settings : UpdateSettings) : UpdateStatus :=
  withQuarantinedHandoff
    {
      currentVersion := build.version
      portable := !build.managed
      checksEnabled := settings.checksEnabled
      autoDownload := settings.autoDownload
      skippedVersion := settings.skippedVersion
      phase := if settings.checksEnabled then .Idle else .Disabled
    }
    settings.handoffVersion settings.handoffAttempts

namespace Updater

def runOnWorker (u : Updater) (job : Job) : Updater :=
  { u with worker := u.worker ++ [job] }

def runOnMain (u : Updater) (event : UpdateEvent) : Updater :=
  { u with main := u.main ++ [event] }

def execute (u : Updater) (effect : UpdateEffect) : Updater :=
  match effect with
  | .FetchManifest _ => { u with fetches := u.fetches + 1 }
  | .ScheduleNextCheck delayMs =>
    if !u.status.checksEnabled then u else { u with checkTimer := some delayMs }
  | .StartDownload url sha256 size version =>
    { u.runOnWorker (.StartDownload { url, sha256, size := size.toInt64.toInt, version }) with
      downloads := u.downloads ++ [version] }
  | .AbortDownload => u.runOnWorker .AbortDownload
  | .VerifyAndPromote version sha256 =>
    u.runOnWorker (.Promote version sha256 u.status.availableAsset.size)
  | .DiscardStaged version => u.runOnWorker (.Discard version)
  | .SweepStaging => u.runOnWorker (.Sweep u.status.currentVersion)
  | .PersistLastCheck =>
    { u with persisted.settings.lastCheckUtcMs := u.now }
  | .Notify _ _ => u

def dispatch (u : Updater) (event : UpdateEvent) : Updater :=
  let reduction := reduceUpdate u.status event
  reduction.effects.foldl execute { u with status := reduction.next }

/--
A check is requested when the timer fires or a manual check has stopped it, and a fetch is answered
once.
-/
def receive (u : Updater) (event : UpdateEvent) : Option Updater :=
  match event with
  | .CheckRequested _ => some (dispatch { u with checkTimer := none } event)
  | .ManifestArrived _ | .CheckFailed _ =>
    if u.fetches = 0 then none else some (dispatch { u with fetches := u.fetches - 1 } event)
  | _ => some (u.dispatch event)

def dispatchPrefs (u : Updater) : Updater :=
  let settings := u.persisted.settings
  u.dispatch (.PrefsChanged settings.checksEnabled settings.autoDownload settings.skippedVersion)

def setChecksEnabled (u : Updater) (enabled : Bool) : Updater :=
  if u.persisted.settings.checksEnabled = enabled then
    u
  else
    dispatchPrefs { u with persisted.settings.checksEnabled := enabled }

def setAutoDownload (u : Updater) (enabled : Bool) : Updater :=
  if u.persisted.settings.autoDownload = enabled then
    u
  else
    dispatchPrefs { u with persisted.settings.autoDownload := enabled }

def setSkippedVersion (u : Updater) (version : String) : Updater :=
  if u.persisted.settings.skippedVersion = version then
    u
  else
    dispatchPrefs { u with persisted.settings.skippedVersion := version }

def skipAvailableVersion (u : Updater) : Updater :=
  let version := u.status.availableVersion
  if version = "" ∨ u.status.required then
    u
  else
    (u.setSkippedVersion version).dispatch (.SkipRequested version)

def checkNow (u : Updater) : Updater :=
  if u.lastManualCheckMs ≠ 0 ∧ u.now - u.lastManualCheckMs < kManualMinGapMs then
    u
  else
    dispatch { u with lastManualCheckMs := u.now, checkTimer := none } (.CheckRequested .Manual)

def scheduleStartupCheck (u : Updater) : Updater :=
  if !u.status.checksEnabled then
    u
  else
    let last := u.persisted.settings.lastCheckUtcMs
    let clockJumped := u.now + kFutureSkewEscapeMs < last
    let withinGap := 0 < last ∧ ¬clockJumped ∧ u.now - last < kMinCheckGapMs
    { u with checkTimer := some (if withinGap then kPeriodicIntervalMs else kStartupDelayMs) }

structure Connectivity where
  online : Bool := true
  metered : Option Bool := none
  deriving DecidableEq

def hookConnectivity (u : Updater) : Option Connectivity → Updater
  | none => u
  | some info =>
    let u := u.dispatch (.ReachabilityChanged info.online)
    match info.metered with
    | none => u
    | some metered => u.dispatch (.MeteredChanged metered)

def construct (build : Build) (u : Updater) : Updater where
  persisted := u.persisted.reconcileAfterApply build.version
  life := .Running
  status := initialStatus build u.persisted.settings
  now := u.now
  downloads := u.downloads
  ran := u.ran
  spawned := u.spawned

def launch (build : Build) (u : Updater) (connectivity : Option Connectivity) : Updater :=
  let u := (construct build u).hookConnectivity connectivity
  let u := u.runOnWorker (.Sweep u.status.currentVersion)
  let u := u.runOnWorker .ScanStaging
  u.scheduleStartupCheck

def start (hash : List UInt8 → String) (build : Build) (u : Updater)
    (noHandoffFlag anotherInstance spawns : Bool) (connectivity : Option Connectivity) : Updater :=
  match u.persisted.runStartupHandoff hash build.version noHandoffFlag anotherInstance spawns with
  | (some staged, persisted) => { u with persisted, spawned := u.spawned ++ [staged] }
  | (none, persisted) => launch build { u with persisted } connectivity

def onAboutToQuit (hash : List UInt8 → String) (u : Updater) (spawns : Bool) : Updater :=
  if !u.pendingRestart then
    u
  else
    let (spawned, persisted) := u.persisted.handOff hash u.status.currentVersion spawns
    { u with pendingRestart := false, persisted, spawned := u.spawned ++ spawned.toList }

def withStore (u : Updater) (store : StagingStore) : Updater :=
  { u with persisted := { u.persisted with store } }

def discardPart (u : Updater) (version : String) : Updater :=
  let store := u.persisted.store
  u.withStore { store with parts := StagingStore.removePart version store.parts }

def writePart (u : Updater) (version : String) (bytes : List UInt8) : Updater :=
  let store := u.persisted.store
  u.withStore
    { store with parts := StagingStore.removePart version store.parts ++ [(version, bytes)] }

def startDownload (u : Updater) (request : DownloadRequest) (disk : DiskAnswers) : Updater :=
  if u.persisted.store.root = "" then
    u.runOnMain (.DownloadFailed .Io)
  else if !disk.hasRoom then
    u.runOnMain (.DownloadFailed .DiskFull)
  else if u.transfer.isSome then
    u
  else if !disk.opens then
    (u.discardPart request.version).runOnMain (.DownloadFailed .Io)
  else
    { u.writePart request.version [] with transfer := some request }

def abortDownload (u : Updater) : Updater :=
  match u.transfer with
  | none => u
  | some request => { u.discardPart request.version with transfer := none }

def promote (hash : List UInt8 → String) (u : Updater) (version sha256 : String) (size : Int)
    (disk : DiskAnswers) : Updater :=
  let (store, published) := u.persisted.store.promote hash version sha256 size disk.writes
  (u.withStore store).runOnMain (if published then .VerifyOk version else .VerifyFailed)

def scanStaging (u : Updater) : Updater :=
  match u.persisted.store.findStaged with
  | none => u
  | some staged => u.runOnMain (.StagedFound staged.version staged.version)

def runJob (hash : List UInt8 → String) (u : Updater) (job : Job) (disk : DiskAnswers) : Updater :=
  match job with
  | .StartDownload request => u.startDownload request disk
  | .AbortDownload => u.abortDownload
  | .Promote version sha256 size => u.promote hash version sha256 size disk
  | .Discard version => u.withStore (u.persisted.store.discard version)
  | .Sweep currentVersion => u.withStore (u.persisted.store.sweep currentVersion disk.stale)
  | .ScanStaging => u.scanStaging

def failTransfer (u : Updater) (request : DownloadRequest) (error : UpdateError) : Updater :=
  { u.discardPart request.version with transfer := none }.runOnMain (.DownloadFailed error)

def finishTransfer (hash : List UInt8 → String) (u : Updater) (request : DownloadRequest)
    (bytes : List UInt8) : Updater :=
  if 0 < request.size ∧ (bytes.length : Int) ≠ request.size then
    u.failTransfer request .Corrupt
  else if request.sha256 ≠ "" ∧ !sameDigest (hash bytes) request.sha256 then
    u.failTransfer request .Corrupt
  else
    { u.writePart request.version bytes with transfer := none }.runOnMain
      (.DownloadFinished request.version)

end Updater

inductive Event where
  | start (noHandoffFlag anotherInstance spawns : Bool)
      (connectivity : Option Updater.Connectivity)
  | timeout
  | checkNow
  | downloadNow
  | skipAvailableVersion
  | setChecksEnabled (enabled : Bool)
  | setAutoDownload (enabled : Bool)
  | armPendingRestart
  | reachabilityChanged (online : Bool)
  | meteredChanged (metered : Bool)
  | manifest (manifest : UpdateManifest)
  | checkFailed (error : UpdateError)
  | work (disk : DiskAnswers)
  | transferStarted (total : UInt64)
  | transferProgress (received : UInt64)
  | transferFinished (bytes : List UInt8)
  | transferFailed (error : UpdateError)
  | deliver
  | aboutToQuit (spawns : Bool)
  | exit
  | clock (now : Int)
  | tamper (store : StagingStore)
  deriving DecidableEq

namespace Updater

def onMain (u : Updater) (next : Updater) : Option Updater :=
  if u.life = .Running then some next else none

/--
A quitting app waits for its worker, so its jobs still run but nothing they post is delivered.
-/
def step (hash : List UInt8 → String) (build : Build) (u : Updater) (event : Event)
    : Option Updater :=
  match event with
  | .start noHandoffFlag anotherInstance spawns connectivity =>
    if u.life = .Off then
      some (u.start hash build noHandoffFlag anotherInstance spawns connectivity)
    else
      none
  | .timeout =>
    match u.checkTimer with
    | none => none
    | some _ => u.onMain (dispatch { u with checkTimer := none } (.CheckRequested .Periodic))
  | .checkNow => u.onMain u.checkNow
  | .downloadNow => u.onMain (u.dispatch .DownloadRequested)
  | .skipAvailableVersion => u.onMain u.skipAvailableVersion
  | .setChecksEnabled enabled => u.onMain (u.setChecksEnabled enabled)
  | .setAutoDownload enabled => u.onMain (u.setAutoDownload enabled)
  | .armPendingRestart => u.onMain { u with pendingRestart := true }
  | .reachabilityChanged online => u.onMain (u.dispatch (.ReachabilityChanged online))
  | .meteredChanged metered => u.onMain (u.dispatch (.MeteredChanged metered))
  | .manifest manifest => if u.life = .Running then u.receive (.ManifestArrived manifest) else none
  | .checkFailed error => if u.life = .Running then u.receive (.CheckFailed error) else none
  | .work disk =>
    match u.worker with
    | [] => none
    | job :: worker =>
      if u.life = .Off then
        none
      else
        some (runJob hash { u with worker, ran := u.ran + 1 } job disk)
  | .transferStarted total =>
    match u.transfer with
    | none => none
    | some _ => some (u.runOnMain (.DownloadStarted total))
  | .transferProgress received =>
    match u.transfer with
    | none => none
    | some _ => some (u.runOnMain (.DownloadProgress received))
  | .transferFinished bytes =>
    match u.transfer with
    | none => none
    | some request => some (u.finishTransfer hash request bytes)
  | .transferFailed error =>
    match u.transfer with
    | none => none
    | some request => some (u.failTransfer request error)
  | .deliver =>
    match u.main with
    | [] => none
    | event :: main => u.onMain (dispatch { u with main } event)
  | .aboutToQuit spawns => u.onMain { u.onAboutToQuit hash spawns with life := .Quitting }
  | .exit =>
    if u.life = .Quitting ∧ u.worker = [] then
      some { u.abortDownload with life := .Off, main := [] }
    else
      none
  | .clock now => some { u with now }
  | .tamper store => some (u.withStore store)

end Updater

end Update
