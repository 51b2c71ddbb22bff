import Dish.Update.Version

/-!
This module contains the life cycle of the updater as a reducer.
-/

namespace Update

inductive UpdatePhase where
  | Disabled
  | Idle
  | Checking
  | UpToDate
  | Available
  | Downloading
  | Verifying
  | Ready
  | Failed
  deriving DecidableEq

inductive UpdateError where
  | None
  | Offline
  | Http
  | ManifestInvalid
  | Corrupt
  | DiskFull
  | Io
  | Stalled
  | ApplyFailed
  deriving DecidableEq

inductive UpdateNotice where
  | Ready
  | Available
  | Unsupported
  | Updated
  deriving DecidableEq

inductive UpdateTrigger where
  | Startup
  | Periodic
  | Manual
  | Retry
  deriving DecidableEq

structure UpdateAsset where
  url : String := ""
  sha256 : String := ""
  size : Int := 0
  deriving DecidableEq

structure UpdateManifest where
  version : String
  minimumSupportedVersion : String
  releaseNotesUrl : String := ""
  setupAsset : UpdateAsset
  deriving DecidableEq

structure UpdateStatus where
  phase : UpdatePhase := .Idle
  currentVersion : String := ""
  availableVersion : String := ""
  notesUrl : String := ""
  minimumSupportedVersion : String := ""
  stagedVersion : String := ""
  receivedBytes : UInt64 := 0
  totalBytes : UInt64 := 0
  consecutiveFailures : Nat := 0
  error : UpdateError := .None
  checksEnabled : Bool := true
  autoDownload : Bool := true
  required : Bool := false
  meteredDeferred : Bool := false
  portable : Bool := false
  availableAsset : UpdateAsset := {}
  skippedVersion : String := ""
  metered : Bool := false
  online : Bool := true
  deriving DecidableEq

def kStartupDelayMs : Nat := 15000
def kPeriodicIntervalMs : Nat := 4 * 60 * 60 * 1000
def kBackoffBaseMs : Nat := 10 * 60 * 1000
def kBackoffCapMs : Nat := 6 * 60 * 60 * 1000
def kReconnectCheckDelayMs : Nat := 30000
def kMaxApplyAttemptsPerVersion : Nat := 2

def backoffDelayMs (failures : Nat) : Nat :=
  if failures ≤ 1 then kBackoffBaseMs else go (failures - 1) kBackoffBaseMs
where
  go : Nat → Nat → Nat
    | 0, delay => delay
    | turns + 1, delay => if kBackoffCapMs ≤ delay * 2 then kBackoffCapMs else go turns (delay * 2)

inductive UpdateEvent where
  | PrefsChanged (checksEnabled autoDownload : Bool) (skippedVersion : String)
  | CheckRequested (trigger : UpdateTrigger)
  | ManifestArrived (manifest : UpdateManifest)
  | CheckFailed (error : UpdateError)
  | DownloadRequested
  | DownloadStarted (total : UInt64)
  | DownloadProgress (received : UInt64)
  | DownloadFinished (partPath : String)
  | DownloadFailed (error : UpdateError)
  | VerifyOk (readyDir : String)
  | VerifyFailed
  | StagedFound (version dir : String)
  | StagedInvalidated
  | SkipRequested (version : String)
  | MeteredChanged (metered : Bool)
  | ReachabilityChanged (online : Bool)
  deriving DecidableEq

inductive UpdateEffect where
  | FetchManifest (manual : Bool)
  | ScheduleNextCheck (delayMs : Nat)
  | StartDownload (url sha256 : String) (size : UInt64) (version : String)
  | AbortDownload
  | VerifyAndPromote (version sha256 : String)
  | DiscardStaged (version : String)
  | SweepStaging
  | PersistLastCheck
  | Notify (notice : UpdateNotice) (version : String)
  deriving DecidableEq

structure UpdateReduction where
  next : UpdateStatus
  effects : List UpdateEffect
  deriving DecidableEq

def stay (s : UpdateStatus) : UpdateReduction where
  next := s
  effects := []

namespace UpdateStatus

def hasApplicableStage (s : UpdateStatus) : Bool :=
  s.stagedVersion ≠ "" ∧ isStrictlyNewer s.stagedVersion s.currentVersion

def stageSurvivesManifest (s : UpdateStatus) (manifestVersion : String) : Bool :=
  if s.stagedVersion = "" then
    false
  else
    s.stagedVersion = manifestVersion ∧ isStrictlyNewer manifestVersion s.currentVersion

def settleFailure (s : UpdateStatus) (error : UpdateError) (before : List UpdateEffect)
    : UpdateReduction :=
  let failures := s.consecutiveFailures + 1
  let n : UpdateStatus :=
    if s.hasApplicableStage then
      { s with phase := .Ready, error := .None, receivedBytes := s.totalBytes }
    else
      { s with phase := .Failed, error := error, receivedBytes := 0 }
  {
    next := { n with consecutiveFailures := failures, meteredDeferred := false }
    effects := before ++ [.ScheduleNextCheck (backoffDelayMs failures)]
  }

def applyManifestFacts (s : UpdateStatus) (m : UpdateManifest) : UpdateStatus :=
  { s with
    minimumSupportedVersion := m.minimumSupportedVersion
    required := isStrictlyNewer m.minimumSupportedVersion s.currentVersion
    consecutiveFailures := 0
    error := .None }

def startAvailable (s : UpdateStatus) : UpdateEffect :=
  .StartDownload s.availableAsset.url s.availableAsset.sha256 (.ofInt s.availableAsset.size)
    s.availableVersion

def onPrefsChanged (s : UpdateStatus) (checksEnabled autoDownload : Bool) (skippedVersion : String)
    : UpdateReduction :=
  let n := { s with checksEnabled, autoDownload, skippedVersion }
  if !checksEnabled then
    {
      next := { n with
        phase := .Disabled
        error := .None
        receivedBytes := 0
        meteredDeferred := false }
      effects := if s.phase = .Downloading then [.AbortDownload] else []
    }
  else if s.phase = .Disabled then
    {
      next := { n with phase := .Idle }
      effects := [.SweepStaging, .ScheduleNextCheck kStartupDelayMs]
    }
  else if autoDownload ∧ !s.metered ∧ !s.portable ∧ s.phase = .Available ∧
      s.availableAsset.url ≠ "" ∧ s.availableVersion ≠ skippedVersion then
    {
      next := { n with phase := .Downloading, meteredDeferred := false, receivedBytes := 0 }
      effects := [s.startAvailable]
    }
  else
    stay n

def onCheckRequested (s : UpdateStatus) (trigger : UpdateTrigger) : UpdateReduction :=
  if s.phase = .Disabled ∨ s.phase = .Checking then
    stay s
  else if s.phase = .Downloading ∨ s.phase = .Verifying then
    { next := s, effects := [.ScheduleNextCheck kPeriodicIntervalMs] }
  else if !s.online then
    s.settleFailure .Offline []
  else
    {
      next := { s with phase := .Checking }
      effects := [.SweepStaging, .FetchManifest (trigger = .Manual)]
    }

def dropsStage (s : UpdateStatus) (m : UpdateManifest) : Bool :=
  s.stagedVersion ≠ "" ∧ !s.stageSurvivesManifest m.version

def offers (s : UpdateStatus) (m : UpdateManifest) : Bool :=
  let skipped := s.skippedVersion ≠ "" ∧ s.skippedVersion = m.version
  isStrictlyNewer m.version s.currentVersion ∧ !(skipped ∧ !(s.applyManifestFacts m).required)

def upToDate (s : UpdateStatus) : UpdateStatus :=
  { s with
    phase := .UpToDate
    availableVersion := ""
    notesUrl := ""
    availableAsset := {}
    totalBytes := 0
    receivedBytes := 0
    meteredDeferred := false }

def withOffer (s : UpdateStatus) (m : UpdateManifest) : UpdateStatus :=
  { s with
    availableVersion := m.version
    notesUrl := m.releaseNotesUrl
    availableAsset := m.setupAsset
    totalBytes := .ofInt m.setupAsset.size
    meteredDeferred := false }

def withManifest (s : UpdateStatus) (m : UpdateManifest) : UpdateStatus :=
  { s.applyManifestFacts m with
    stagedVersion := if s.dropsStage m then "" else s.stagedVersion }

def manifestEffects (s : UpdateStatus) (m : UpdateManifest) : List UpdateEffect :=
  .PersistLastCheck :: if s.dropsStage m then [.DiscardStaged s.stagedVersion] else []

def onManifestArrived (s : UpdateStatus) (m : UpdateManifest) : UpdateReduction :=
  if s.phase ≠ .Checking then
    stay s
  else
    let n := s.withManifest m
    let fx := s.manifestEffects m
    if !s.offers m then
      { next := n.upToDate, effects := fx ++ [.ScheduleNextCheck kPeriodicIntervalMs] }
    else
      let n := n.withOffer m
      let fx := fx ++ if n.required then [.Notify .Unsupported m.version] else []
      if n.stagedVersion = m.version then
        {
          next := { n with phase := .Ready, receivedBytes := n.totalBytes }
          effects := fx ++ [.Notify .Ready m.version, .ScheduleNextCheck kPeriodicIntervalMs]
        }
      else if s.autoDownload ∧ !s.metered ∧ !s.portable then
        {
          next := { n with phase := .Downloading, receivedBytes := 0 }
          effects := fx ++ [n.startAvailable, .ScheduleNextCheck kPeriodicIntervalMs]
        }
      else
        {
          next := { n with
            phase := .Available
            receivedBytes := 0
            meteredDeferred := s.metered && s.autoDownload && !s.portable }
          effects := fx ++ [.Notify .Available m.version, .ScheduleNextCheck kPeriodicIntervalMs]
        }

def onCheckFailed (s : UpdateStatus) (error : UpdateError) : UpdateReduction :=
  if s.phase ≠ .Checking then stay s else s.settleFailure error []

def onDownloadRequested (s : UpdateStatus) : UpdateReduction :=
  if s.phase ≠ .Available ∨ s.portable ∨ s.availableAsset.url = "" then
    stay s
  else
    {
      next := { s with
        phase := .Downloading
        receivedBytes := 0
        meteredDeferred := false
        error := .None }
      effects := [s.startAvailable]
    }

def onDownloadStarted (s : UpdateStatus) (total : UInt64) : UpdateReduction :=
  if s.phase ≠ .Downloading then stay s else stay { s with totalBytes := total }

def onDownloadProgress (s : UpdateStatus) (received : UInt64) : UpdateReduction :=
  if s.phase ≠ .Downloading then stay s else stay { s with receivedBytes := received }

def onDownloadFinished (s : UpdateStatus) : UpdateReduction :=
  if s.phase ≠ .Downloading then
    stay s
  else
    {
      next := { s with phase := .Verifying }
      effects := [.VerifyAndPromote s.availableVersion s.availableAsset.sha256]
    }

def onDownloadFailed (s : UpdateStatus) (error : UpdateError) : UpdateReduction :=
  if s.phase ≠ .Downloading then stay s else s.settleFailure error []

def onVerifyOk (s : UpdateStatus) : UpdateReduction :=
  if s.phase ≠ .Verifying then
    stay s
  else
    {
      next := { s with
        phase := .Ready
        stagedVersion := s.availableVersion
        receivedBytes := s.totalBytes
        error := .None
        consecutiveFailures := 0 }
      effects := [.Notify .Ready s.availableVersion, .SweepStaging]
    }

def onVerifyFailed (s : UpdateStatus) : UpdateReduction :=
  if s.phase ≠ .Verifying then
    stay s
  else
    settleFailure { s with stagedVersion := "" } .Corrupt [.DiscardStaged s.availableVersion]

def onStagedFound (s : UpdateStatus) (version : String) : UpdateReduction :=
  if !(isStrictlyNewer version s.currentVersion ∧ version ≠ s.skippedVersion) then
    { next := { s with stagedVersion := "" }, effects := [.DiscardStaged version] }
  else if s.phase = .Idle ∨ s.phase = .UpToDate ∨ s.phase = .Failed then
    {
      next := { s with
        stagedVersion := version
        phase := .Ready
        availableVersion := version
        error := .None }
      effects := [.Notify .Ready version]
    }
  else
    stay { s with stagedVersion := version }

def onStagedInvalidated (s : UpdateStatus) : UpdateReduction :=
  if s.stagedVersion = "" then
    stay s
  else if s.phase = .Ready then
    stay { s with stagedVersion := "", phase := .Idle, receivedBytes := 0 }
  else
    stay { s with stagedVersion := "" }

def onSkipRequested (s : UpdateStatus) (version : String) : UpdateReduction :=
  if s.required ∨ version = "" then
    stay s
  else
    let aborts := s.phase = .Downloading
    let discards := s.stagedVersion = version ∧ s.stagedVersion ≠ ""
    let n := { s with
      skippedVersion := version
      stagedVersion := if discards then "" else s.stagedVersion }
    {
      next := if s.availableVersion = version then n.upToDate else n
      effects :=
        (if aborts then [.AbortDownload] else []) ++
        (if discards then [.DiscardStaged s.stagedVersion] else [])
    }

def onMeteredChanged (s : UpdateStatus) (metered : Bool) : UpdateReduction :=
  let n := { s with metered }
  if !metered ∧ s.meteredDeferred ∧ s.phase = .Available ∧ s.autoDownload ∧ !s.portable ∧
      s.availableAsset.url ≠ "" then
    {
      next := { n with phase := .Downloading, meteredDeferred := false, receivedBytes := 0 }
      effects := [s.startAvailable]
    }
  else
    stay { n with meteredDeferred := s.meteredDeferred && metered }

def onReachabilityChanged (s : UpdateStatus) (online : Bool) : UpdateReduction :=
  let n := { s with online }
  if online ∧ s.phase = .Failed ∧ s.error = .Offline ∧ s.checksEnabled then
    { next := n, effects := [.ScheduleNextCheck kReconnectCheckDelayMs] }
  else
    stay n

end UpdateStatus

def reduceUpdate (s : UpdateStatus) (event : UpdateEvent) : UpdateReduction :=
  match event with
  | .PrefsChanged checksEnabled autoDownload skippedVersion =>
    s.onPrefsChanged checksEnabled autoDownload skippedVersion
  | .CheckRequested trigger => s.onCheckRequested trigger
  | .ManifestArrived manifest => s.onManifestArrived manifest
  | .CheckFailed error => s.onCheckFailed error
  | .DownloadRequested => s.onDownloadRequested
  | .DownloadStarted total => s.onDownloadStarted total
  | .DownloadProgress received => s.onDownloadProgress received
  | .DownloadFinished _ => s.onDownloadFinished
  | .DownloadFailed error => s.onDownloadFailed error
  | .VerifyOk _ => s.onVerifyOk
  | .VerifyFailed => s.onVerifyFailed
  | .StagedFound version _ => s.onStagedFound version
  | .StagedInvalidated => s.onStagedInvalidated
  | .SkipRequested version => s.onSkipRequested version
  | .MeteredChanged metered => s.onMeteredChanged metered
  | .ReachabilityChanged online => s.onReachabilityChanged online

def withQuarantinedHandoff (s : UpdateStatus) (handoffVersion : String) (handoffAttempts : Nat)
    : UpdateStatus :=
  if handoffVersion = "" ∨ !isStrictlyNewer handoffVersion s.currentVersion then
    s
  else if handoffAttempts < kMaxApplyAttemptsPerVersion then
    s
  else
    { s with
      phase := if s.checksEnabled then .Failed else s.phase
      error := .ApplyFailed
      availableVersion := handoffVersion }

end Update
