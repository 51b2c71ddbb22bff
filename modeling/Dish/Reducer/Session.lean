import Dish.Models.Basic

/-!
This module contains the decisions over a session that do not look at a REST status.
-/

open Models

namespace Reducer

def kBackoffBaseMs : Nat := 1000
def kBackoffMaxMs : Nat := 60000
def kBackoffMaxShift : Nat := 6

def backoffDelayMs (attempt : Nat) : Nat :=
  let shift := if attempt ≤ 1 then 0 else min (attempt - 1) kBackoffMaxShift
  min (kBackoffBaseMs <<< shift) kBackoffMaxMs

inductive CloseAction where
  | DropKeyRePair
  | StayDown
  | RetryBackoff
  deriving DecidableEq

def kCloseReasonShutdown : UInt8 := 0
def kCloseReasonKicked : UInt8 := 1
def kCloseReasonReplaced : UInt8 := 2
def kCloseReasonUnpaired : UInt8 := 3

def closeActionForReason (reason : UInt8) : CloseAction :=
  if reason = kCloseReasonUnpaired then
    .DropKeyRePair
  else if reason = kCloseReasonReplaced then
    .StayDown
  else
    .RetryBackoff

inductive ProtocolVerdict where
  | Settled
  | RetryLower
  | UpdateDish
  | UpdateSatellite
  | Unusable
  deriving DecidableEq

structure ProtocolOutcome where
  verdict : ProtocolVerdict := .Settled
  settledVersion : Int := kProtocolVersion
  satelliteBehind : Bool := false
  deriving DecidableEq

def settleAccepted (echoedVersion : Int) : ProtocolOutcome :=
  if kProtocolVersion ≤ echoedVersion then
    { settledVersion := kProtocolVersion, satelliteBehind := false }
  else
    {
      settledVersion := if echoedVersion < kProtocolVersionMin then kProtocolVersionMin else echoedVersion
      satelliteBehind := true
    }

def settleRejected (supported supportedMin : Int) : ProtocolOutcome :=
  if supported ≤ 0 ∨ supportedMin ≤ 0 ∨ supported < supportedMin then
    { verdict := .Unusable }
  else if kProtocolVersion < supportedMin then
    { verdict := .UpdateDish }
  else if supported < kProtocolVersionMin then
    { verdict := .UpdateSatellite }
  else
    { verdict := .RetryLower, settledVersion := min supported kProtocolVersion }

inductive ProtocolCompat where
  | Unknown
  | Current
  | SatelliteUpdateAvailable
  | SatelliteUpdateRequired
  | DishUpdateRequired
  deriving DecidableEq

def compatForOutcome (out : ProtocolOutcome) : ProtocolCompat :=
  match out.verdict with
  | .Settled => if out.satelliteBehind then .SatelliteUpdateAvailable else .Current
  | .UpdateDish => .DishUpdateRequired
  | .UpdateSatellite => .SatelliteUpdateRequired
  | .RetryLower => .Unknown
  | .Unusable => .Unknown

structure HostAudioFacts where
  blockPresent : Bool := false
  enabled : Bool := false
  mic : Bool := false
  speaker : Bool := false
  hapticAudio : Bool := false
  anyBackendAudio : Bool := false

structure HostAudioVerdict where
  mic : Bool := false
  speaker : Bool := false
  hapticAudio : Bool := false
  deriving DecidableEq

def HostAudioFacts.resolve (f : HostAudioFacts) : HostAudioVerdict :=
  if f.blockPresent then
    {
      mic := f.enabled && f.mic
      speaker := f.enabled && f.speaker
      hapticAudio := f.enabled && f.hapticAudio
    }
  else
    { mic := f.anyBackendAudio, speaker := f.anyBackendAudio, hapticAudio := false }

def hostAudioFactsFrom (caps : CapabilitiesDto) : HostAudioFacts where
  blockPresent := caps.hasControllerAudioBlock
  enabled := caps.controllerAudioEnabled
  mic := caps.controllerAudioMic
  speaker := caps.controllerAudioSpeaker
  hapticAudio := caps.controllerAudioHapticAudio
  anyBackendAudio := caps.backends.any fun b => b.available && b.audio

def resolveHostControllerAudio (caps : CapabilitiesDto) : HostAudioVerdict :=
  (hostAudioFactsFrom caps).resolve

theorem backoffDelayMs_le {a b : Nat} (h : a ≤ b) : backoffDelayMs a ≤ backoffDelayMs b := by
  have hshift : (if a ≤ 1 then 0 else min (a - 1) kBackoffMaxShift) ≤
      (if b ≤ 1 then 0 else min (b - 1) kBackoffMaxShift) := by
    split
    . omega
    . split
      . omega
      . omega
  unfold backoffDelayMs
  simp only [Nat.shiftLeft_eq]
  have hpow := Nat.pow_le_pow_right (n := 2) (by omega) hshift
  have hbase := Nat.mul_le_mul_left kBackoffBaseMs hpow
  omega

end Reducer
