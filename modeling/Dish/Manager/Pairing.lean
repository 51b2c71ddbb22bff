import Dish.Manager.Session

/-!
This module contains the pairing side of the connection manager.
-/

open Std Models Reducer Wire Store Connection

namespace Wifi

def wrongPinMsg : String :=
  "That PIN wasn't accepted. Check the code on the satellite and try again."

def pairPendingMsg : String :=
  "The satellite hasn't confirmed pairing yet. Try again in a moment."

def reverseDeclinedMsg : String :=
  "The satellite declined this device. Pairing was not approved."

def reverseTimedOutMsg : String :=
  "Timed out waiting for approval on the satellite. Try again."

namespace Manager

def pairWithPin (m : Manager) (server : DiscoveredServer) (pin : String) : Manager :=
  if refusesHost server then
    (m.reportRefusedHost server .UserInitiated).emit (.pairingFailed server.id "unreachable")
  else
    let m := m.releaseHold server.id .UserInitiated
    let m := m.ensureConnection server
    let m := m.resetRetryCurve server.id
    match m.conn server.id with
    | none => m
    | some c =>
      if c.state = .Live then
        m
      else
        let m := m.setConn (c.updateServer (ServerOf.self server)).markConnecting
        (m.beginPairingRequest server.id).send server.ip server.pairPort
          (.pinPair server.id c.obj (ServerOf.self server) pin)

def failPinPair (m : Manager) (id message reasonToken : String) : Manager :=
  let m := m.modifyConn id (·.markDisconnected)
  (m.emit (.error message)).emit (.pairingFailed id reasonToken)

def onPinPairReply (sodium : Sodium) (m : Manager) {id : String} (sentOn : Nat)
    (server : ServerOf id) (outcome : PairingOutcome)
    : Manager :=
  let m := m.endPairingRequest id sentOn
  match m.replyTarget id sentOn with
  | none => m
  | some _ =>
    match outcome with
    | .Success sharedKeyHex =>
      (m.setStore (m.store.setSharedKey id sharedKeyHex)).openSession sodium server .UserInitiated
    | .IdentityChanged =>
      (m.modifyConn id (·.markDisconnected)).emit (.error identityChangedMsg)
    | .VersionMismatch => m.failPinPair id versionMsg "versionMismatch"
    | .AuthRequired => m.failPinPair id wrongPinMsg "wrongPin"
    | .Unreachable _ => m.failPinPair id unreachableMsg "unreachable"
    | .Pending => m.failPinPair id pairPendingMsg "pending"

def parkUnpaired (m : Manager) {id : String} (server : ServerOf id) (intent : ConnectIntent)
    : Manager :=
  if intent = .UserInitiated then
    (m.modifyConn id (·.markDisconnected)).emit (.pairingRequired server.1)
  else
    m.modifyConn id (·.markStale)

def onConnectPairReply (sodium : Sodium) (m : Manager) {id : String} (sentOn : Nat)
    (server : ServerOf id) (intent : ConnectIntent) (outcome : PairingOutcome)
    : Manager :=
  let m := m.endPairingRequest id sentOn
  match m.replyTarget id sentOn with
  | none => m
  | some _ =>
    match outcome with
    | .Success sharedKeyHex =>
      (m.setStore (m.store.setSharedKey id sharedKeyHex)).openSession sodium server intent
    | .AuthRequired | .Pending => m.parkUnpaired server intent
    | .VersionMismatch =>
      (m.modifyConn id (·.markDisconnected)).emitErrorIfUserInitiated intent versionMsg
    | .IdentityChanged =>
      (m.modifyConn id (·.markDisconnected)).emitErrorIfUserInitiated intent identityChangedMsg
    | .Unreachable _ => m.parkUnreachable id intent

def cancelReversePairing (m : Manager) : Manager :=
  let stopped := { m.reverse with polling := false, pollInFlight := false }
  if m.reverse.phase ≠ .Idle then
    { m with reverse :=
        { stopped with pin := "", serverName := "", server := {}, elapsedMs := 0, phase := .Idle } }
  else
    { m with reverse := stopped }

def finishReverse (m : Manager) (terminal : ReversePairingPhase) : Manager :=
  { m with reverse := { m.reverse with polling := false, pollInFlight := false, phase := terminal } }

def armReverseAttempt (m : Manager) (server : DiscoveredServer) (raw : UInt32) : Manager :=
  { m with reverse :=
      { m.reverse with
        pin := formatReversePin raw
        server
        serverName := if server.name = "" then server.ip else server.name
        elapsedMs := 0
        deadlineMs := kReverseDeadlineMs
        sawPending := false
        phase := .AwaitingApproval
        attempt := m.reverse.attempt + 1 } }

def requestReversePairing (m : Manager) (server : DiscoveredServer) (raw : UInt32) : Manager :=
  let m := m.cancelReversePairing
  if refusesHost server then
    m.reportRefusedHost server .UserInitiated
  else
    let m := m.releaseHold server.id .UserInitiated
    let m := m.ensureConnection server
    let m := m.resetRetryCurve server.id
    match m.conn server.id with
    | none => m
    | some c =>
      let m := m.setConn (c.updateServer (ServerOf.self server))
      let m := m.armReverseAttempt server raw
      (m.beginPairingRequest server.id).send server.ip server.pairPort
        (.reversePair server.id c.obj (ServerOf.self server) m.reverse.pin m.reverse.attempt)

def adoptReverseGrant (sodium : Sodium) (m : Manager) (server : DiscoveredServer)
    (sharedKeyHex : String)
    : Manager :=
  let m := m.ensureConnection server
  let m := m.modifyConn server.id (·.markConnecting)
  let m := m.setStore (m.store.setSharedKey server.id sharedKeyHex)
  let m := { m with reverse := { m.reverse with polling := false, phase := .Approved } }
  m.openSession sodium (ServerOf.self server) .UserInitiated

def reverseAttemptIsCurrent (m : Manager) (server : DiscoveredServer) (pin : String) : Bool :=
  m.reverse.phase = .AwaitingApproval ∧ m.reverse.server.id = server.id ∧ m.reverse.pin = pin

def applyReverseOutcome (sodium : Sodium) (m : Manager) (server : DiscoveredServer)
    (pair : PairResponse) (pinMismatch : Bool)
    : Manager :=
  match PairingOutcome.classify pair pinMismatch with
  | .Success sharedKeyHex => m.adoptReverseGrant sodium server sharedKeyHex
  | .Pending => { m with reverse := { m.reverse with polling := true } }
  | .VersionMismatch => (m.emit (.error versionMsg)).finishReverse .VersionMismatch
  | .IdentityChanged => (m.emit (.error identityChangedMsg)).finishReverse .IdentityChanged
  | .Unreachable _ => (m.emit (.error unreachableMsg)).finishReverse .TimedOut
  | .AuthRequired => (m.emit (.error (pair.error.getD unreachableMsg))).finishReverse .TimedOut

def onReversePairReply (sodium : Sodium) (m : Manager) {id : String} (sentOn : Nat)
    (server : ServerOf id) (pin : String) (pair : PairResponse) (pinMismatch : Bool)
    : Manager :=
  let m := m.endPairingRequest id sentOn
  if m.reverseAttemptIsCurrent server.1 pin then
    m.applyReverseOutcome sodium server.1 pair pinMismatch
  else
    m

def pollReverseStatus (m : Manager) : Manager :=
  if m.reverse.phase ≠ .AwaitingApproval ∨ m.reverse.pollInFlight then
    m
  else
    let polled := { m.reverse with
      pollInFlight := true
      elapsedMs := m.reverse.elapsedMs + kReversePollIntervalMs }
    { m with reverse := polled }.send polled.server.ip polled.server.pairPort
      (.pairStatus polled.server polled.attempt)

def applyReverseAction (sodium : Sodium) (m : Manager) (action : ReversePairingAction)
    (status : PairResponse) (server : DiscoveredServer)
    : Manager :=
  match action with
  | .Approve => m.adoptReverseGrant sodium server (status.sharedKey.getD "")
  | .Decline => (m.emit (.error reverseDeclinedMsg)).finishReverse .Declined
  | .TimeOut => (m.emit (.error reverseTimedOutMsg)).finishReverse .TimedOut
  | .KeepPolling => m

def onReverseStatusReply (sodium : Sodium) (m : Manager) (status : PairResponse)
    (pinMismatch : Bool) (server : DiscoveredServer)
    : Manager :=
  let m := { m with reverse := { m.reverse with pollInFlight := false } }
  if m.reverse.phase ≠ .AwaitingApproval ∨ m.reverse.server.id ≠ server.id then
    m
  else if pinMismatch then
    (m.emit (.error identityChangedMsg)).finishReverse .IdentityChanged
  else
    let reply := approvalReplyOf status
    let approval := classifyApproval reply m.reverse.sawPending
    let sawPending := m.reverse.sawPending || reply.statusStr == "pending"
    let m := { m with reverse := { m.reverse with sawPending } }
    let action := nextReversePairingAction approval m.reverse.elapsedMs m.reverse.deadlineMs
    m.applyReverseAction sodium action status server

def unpairSelf (sodium : Sodium) (m : Manager) (id : String) : Manager :=
  match m.conn id with
  | none => m
  | some c =>
    let m :=
      match m.credentialsFor sodium id with
      | some creds => m.send c.server.1.ip c.server.1.httpPort (.unpair creds.proof)
      | none => m
    m.setStore (m.store.forgetPin c.server.1.ip)

def takeConnection (m : Manager) (id : String) : Manager :=
  { m with connections := m.connections.erase id }

def forget (sodium : Sodium) (m : Manager) (id : String) : Manager :=
  let m := if m.reverse.server.id = id then m.cancelReversePairing else m
  let m := m.unpairSelf sodium id
  let m := m.closeSession sodium id
  let m := m.setStore (m.store.forgetSatellite id)
  let m := m.resetRetryCurve id
  let m := m.releaseHold id .UserInitiated
  let m := { m with reconcileInFlight := m.reconcileInFlight.erase id }
  m.takeConnection id

end Manager

end Wifi
