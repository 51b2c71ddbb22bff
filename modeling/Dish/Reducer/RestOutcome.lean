import Dish.Models.Basic

/-!
This module contains the decisions over a REST reply.
-/

open Models

namespace Reducer

inductive RestVerdict where
  | Ok
  | Unauthorized
  | VersionMismatch
  | ShuttingDown
  | Unreachable
  | ServerError
  | IdentityChanged
  deriving DecidableEq

structure RestReply where
  status : Int := 0
  bodyParsed : Bool := false
  code : String := ""
  pinMismatch : Bool := false

def classifyRest (r : RestReply) : RestVerdict :=
  if r.pinMismatch then
    .IdentityChanged
  else if r.status = 0 ∨ r.bodyParsed = false then
    .Unreachable
  else if 200 ≤ r.status ∧ r.status ≤ 299 then
    .Ok
  else if r.status = 401 then
    .Unauthorized
  else if r.status = 409 then
    .VersionMismatch
  else if r.status = 503 then
    .ShuttingDown
  else
    .ServerError

inductive PairVerdict where
  | Success
  | Pending
  | AuthRequired
  | VersionMismatch
  | Unreachable
  | IdentityChanged
  deriving DecidableEq

structure PairReply where
  status : Int := 0
  bodyParsed : Bool := false
  ok : Bool := false
  pending : Bool := false
  hasSharedKey : Bool := false
  pinMismatch : Bool := false

def classifyPair (r : PairReply) : PairVerdict :=
  if r.pinMismatch then
    .IdentityChanged
  else if r.status = 409 then
    .VersionMismatch
  else if r.status = 0 ∨ r.bodyParsed = false then
    .Unreachable
  else if r.ok ∧ r.hasSharedKey then
    .Success
  else if r.pending then
    .Pending
  else
    .AuthRequired

inductive ApprovalVerdict where
  | Approved
  | Pending
  | Declined
  | Unreachable
  deriving DecidableEq

structure ApprovalReply where
  status : Int := 0
  bodyParsed : Bool := false
  statusStr : String := ""
  hasSharedKey : Bool := false

def classifyApproval (r : ApprovalReply) (sawPending : Bool) : ApprovalVerdict :=
  if r.status = 0 ∨ r.bodyParsed = false then
    .Unreachable
  else if r.statusStr = "approved" ∧ r.hasSharedKey then
    .Approved
  else if r.statusStr = "denied" then
    .Declined
  else if r.statusStr = "none" ∧ sawPending then
    .Declined
  else
    .Pending

inductive ReversePairingAction where
  | Approve
  | Decline
  | KeepPolling
  | TimeOut
  deriving DecidableEq

def nextReversePairingAction (approval : ApprovalVerdict) (elapsedMs deadlineMs : Int)
    : ReversePairingAction :=
  match approval with
  | .Approved => .Approve
  | .Declined => .Decline
  | .Pending => if deadlineMs ≤ elapsedMs then .TimeOut else .KeepPolling
  | .Unreachable => if deadlineMs ≤ elapsedMs then .TimeOut else .KeepPolling

def kReversePinDigits : Nat := 4
def kReversePinModulus : UInt32 := 10000

def formatReversePin (raw : UInt32) : String :=
  String.ofList (go kReversePinDigits (raw % kReversePinModulus) [])
where
  go : Nat → UInt32 → List Char → List Char
    | 0, _, out => out
    | i + 1, v, out => go i (v / 10) (Char.ofNat ('0'.toNat + (v % 10).toNat) :: out)

inductive PairingOutcome where
  | Success (sharedKeyHex : String)
  | Pending
  | AuthRequired
  | VersionMismatch
  | Unreachable (message : String)
  | IdentityChanged
  deriving DecidableEq

namespace PairingOutcome

def hasSharedKey (response : PairResponse) : Bool :=
  response.sharedKey.isSome && response.sharedKey != some ""

def classify (response : PairResponse) (pinMismatch : Bool) : PairingOutcome :=
  let r : PairReply := {
    status := response.httpStatus
    bodyParsed := response.reachable
    ok := response.ok
    pending := response.pending
    hasSharedKey := hasSharedKey response
    pinMismatch
  }
  match classifyPair r with
  | .Success => .Success (response.sharedKey.getD "")
  | .Pending => .Pending
  | .AuthRequired => .AuthRequired
  | .VersionMismatch => .VersionMismatch
  | .IdentityChanged => .IdentityChanged
  | .Unreachable => .Unreachable (response.error.getD "Server unreachable")

end PairingOutcome

def restReplyOf (resp : SessionResponse) (pinMismatch : Bool) : RestReply where
  status := resp.httpStatus
  bodyParsed := resp.reachable
  code := resp.code.getD ""
  pinMismatch

def approvalReplyOf (status : PairResponse) : ApprovalReply where
  status := status.httpStatus
  bodyParsed := status.reachable
  statusStr := status.status.getD ""
  hasSharedKey := PairingOutcome.hasSharedKey status

end Reducer
