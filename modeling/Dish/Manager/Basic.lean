import Mathlib.Data.Finset.Basic
import Std.Data.DTreeMap
import Dish.Connection.Basic
import Dish.Net.IpLiterals
import Dish.Reducer.RestOutcome
import Dish.Store.Basic
import Dish.Wire.SessionCrypto

/-!
This module contains the state of the connection manager.
-/

open Std Models Reducer Net Wire Store Connection

namespace Wifi

inductive ConnectIntent where
  | UserInitiated
  | AutoReconnect
  | RetryAfterDeath
  deriving DecidableEq

inductive ReversePairingPhase where
  | Idle
  | AwaitingApproval
  | Approved
  | Declined
  | TimedOut
  | IdentityChanged
  | VersionMismatch
  deriving DecidableEq

inductive Signal where
  | pairingRequired (server : DiscoveredServer)
  | error (message : String)
  | pairingFailed (connectionId reasonToken : String)
  deriving DecidableEq

structure Credentials where
  pairingKey : List UInt8
  proof : String
  deriving DecidableEq

structure SessionPut where
  controllers : List ControllerDescriptor
  mouseControl : Bool
  protocolVersion : Int
  deriving DecidableEq

/--
A request with what its callback captured. `sentOn` is the connection object it went out on,
recorded also where the source does not capture it.
-/
inductive Call where
  | pinPair (id : String) (sentOn : Nat) (server : ServerOf id) (pin : String)
  | reversePair (id : String) (sentOn : Nat) (server : ServerOf id) (clientPin : String)
      (attempt : Nat)
  | connectPair (id : String) (sentOn : Nat) (server : ServerOf id) (intent : ConnectIntent)
  | pairStatus (server : DiscoveredServer) (attempt : Nat)
  | putSession (id : String) (sentOn : Nat) (server : ServerOf id) (intent : ConnectIntent)
      (sent : Credentials) (sentDescriptors : List DesiredSlot) (body : SessionPut)
  | rekey (id : String) (sentOn : Nat) (client : Nat) (sent : Credentials) (body : SessionPut)
  | getSession (id : String) (sentOn : Nat) (server : ServerOf id) (connectionId : String)
      (sent : Credentials)
  | putController (id : String) (sentOn : Nat) (server : ServerOf id) (connectionId : String)
      (sent : Credentials) (descriptor : ControllerDescriptor)
  | deleteController (id : String) (connectionId : String) (sent : Credentials) (ctrlIdx : Nat)
  | deleteSession (connectionId proof : String)
  | unpair (proof : String)
  | getCapabilities (id : String)

def Call.carriesProof : Call → Bool
  | .putSession .. | .rekey .. | .getSession .. | .putController .. | .deleteController ..
  | .deleteSession .. | .unpair .. => true
  | .pinPair .. | .reversePair .. | .connectPair .. | .pairStatus .. | .getCapabilities .. => false

inductive ExchangePhase where
  | dialing
  | sent
  | refused
  deriving DecidableEq

structure Request where
  host : String
  port : Int
  call : Call
  phase : ExchangePhase := .dialing
  pinMismatch : Bool := false
  pinAtCreation : Option String

structure Retry where
  server : DiscoveredServer
  attempt : Nat
  armedAt : Nat
  deriving DecidableEq

def Retry.dueAt (r : Retry) : Nat :=
  r.armedAt + backoffDelayMs r.attempt

def kReversePollIntervalMs : Int := 1000
def kReverseDeadlineMs : Int := 120000

structure Reverse where
  phase : ReversePairingPhase := .Idle
  pin : String := ""
  serverName : String := ""
  server : DiscoveredServer := {}
  polling : Bool := false
  elapsedMs : Int := 0
  deadlineMs : Int := 0
  sawPending : Bool := false
  pollInFlight : Bool := false
  attempt : Nat := 0

structure Written where
  request : Request
  presented : String

structure Manager where
  store : ConnectionStore
  deviceId : String := ""
  deviceName : String := ""
  connections : DTreeMap String WifiConnection := ∅
  discovered : List DiscoveredServer := []
  scanning : Bool := false
  pairingInFlight : Finset String := ∅
  retryAttempts : TreeMap String Nat := ∅
  retries : TreeMap Nat Retry := ∅
  userDisconnected : Finset String := ∅
  reconcileInFlight : Finset String := ∅
  reverse : Reverse := {}
  requests : TreeMap Nat Request := ∅
  written : List Written := []
  signals : List Signal := []
  now : Nat := 0
  nextObj : Nat := 0
  nextClient : Nat := 0
  nextRequest : Nat := 0
  nextRetry : Nat := 0

namespace Manager

def conn (m : Manager) (id : String) : Option (WifiConnection id) :=
  m.connections.get? id

def setConn (m : Manager) {id : String} (c : WifiConnection id) : Manager :=
  { m with connections := m.connections.insert id c }

def modifyConn (m : Manager) (id : String) (f : WifiConnection id → WifiConnection id) : Manager :=
  match m.conn id with
  | none => m
  | some c => m.setConn (f c)

def emit (m : Manager) (signal : Signal) : Manager :=
  { m with signals := m.signals ++ [signal] }

def emitErrorIfUserInitiated (m : Manager) (intent : ConnectIntent) (message : String) : Manager :=
  if intent = .UserInitiated then m.emit (.error message) else m

def send (m : Manager) (host : String) (port : Int) (call : Call) : Manager :=
  let request : Request := { host, port, call, pinAtCreation := m.store.pinnedFingerprint host }
  { m with requests := m.requests.insert m.nextRequest request, nextRequest := m.nextRequest + 1 }

def ensureConnection (m : Manager) (server : DiscoveredServer) : Manager :=
  match m.conn server.id with
  | some _ => m
  | none =>
    let fresh : WifiConnection server.id := { obj := m.nextObj, server := ServerOf.self server }
    { m.setConn fresh with nextObj := m.nextObj + 1 }

def setStore (m : Manager) (store : ConnectionStore) : Manager :=
  { m with store }

def resetRetryCurve (m : Manager) (id : String) : Manager :=
  { m with retryAttempts := m.retryAttempts.erase id }

def cancelPendingRetries (m : Manager) (id : String) : Manager :=
  { m with retries := m.retries.filter fun _ r => r.server.id ≠ id }

def replyTarget (m : Manager) (id : String) (sentOn : Nat) : Option (WifiConnection id) :=
  (m.conn id).filter fun c => c.obj = sentOn

def beginPairingRequest (m : Manager) (id : String) : Manager :=
  { m with pairingInFlight := insert id m.pairingInFlight }

def endPairingRequest (m : Manager) (id : String) (sentOn : Nat) : Manager :=
  match m.conn id with
  | some c =>
    if c.obj ≠ sentOn then m else { m with pairingInFlight := m.pairingInFlight.erase id }
  | none => { m with pairingInFlight := m.pairingInFlight.erase id }

def refusesHost (server : DiscoveredServer) : Bool :=
  classifySatelliteHost server.ip ≠ .Reachable

def ipv6Msg (ip : String) : String :=
  "Satellite can only be reached over IPv4, and this address (" ++ ip ++
    ") is IPv6. Scan again to find its IPv4 address."

def reportRefusedHost (m : Manager) (server : DiscoveredServer) (intent : ConnectIntent) : Manager :=
  match classifySatelliteHost server.ip with
  | .Reachable => m
  | .NotLocal =>
    m.emit (.error ("Refusing to connect to a non-local address (" ++ server.ip ++ ")."))
  | .NotIpv4 => m.emitErrorIfUserInitiated intent (ipv6Msg server.ip)

def heldByUser (m : Manager) (id : String) (intent : ConnectIntent) : Bool :=
  intent ≠ .UserInitiated ∧ id ∈ m.userDisconnected

def releaseHold (m : Manager) (id : String) (intent : ConnectIntent) : Manager :=
  if intent = .UserInitiated then
    { m with userDisconnected := m.userDisconnected.erase id }
  else
    m

def pinGuardsAPairingAt (m : Manager) (host : String) : Bool :=
  m.connections.toList.any fun ⟨id, c⟩ => c.server.1.ip == host && (m.store.sharedKey id).isSome

def credentialsFor (sodium : Sodium) (m : Manager) (id : String) : Option Credentials :=
  match m.store.sharedKey id with
  | none => none
  | some keyHex =>
    if keyHex.length ≠ 64 then
      none
    else
      match fromHex keyHex with
      | none => none
      | some keyBytes =>
        if keyBytes.length ≠ 32 then
          none
        else
          some { pairingKey := keyBytes, proof := computeHmacProof sodium keyBytes m.deviceId }

end Manager

end Wifi
