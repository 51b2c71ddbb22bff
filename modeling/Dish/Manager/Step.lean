import Dish.Lib.Transition
import Dish.Manager.Pairing
import Dish.Net.Tofu

/-!
This module contains the connection manager as a transition system.
-/

open Std Models Reducer Net Wire Store Connection

namespace Wifi

inductive Body where
  | none
  | pair (r : PairResponse)
  | session (r : SessionResponse)
  | controller (r : ControllerPutResponse)
  | view (r : SessionViewDto)
  | capabilities (r : CapabilitiesDto)

structure HttpResult where
  status : Nat := 0
  body : Body := .none

namespace HttpResult

def pair (r : HttpResult) : PairResponse :=
  if r.status = 0 then
    { error := some "connect failed" }
  else
    let parsed := match r.body with | .pair p => p | _ => {}
    { parsed with httpStatus := r.status, reachable := true }

def session (r : HttpResult) : SessionResponse :=
  if r.status = 0 then
    {}
  else
    let parsed := match r.body with | .session p => p | _ => {}
    { parsed with httpStatus := r.status, reachable := true }

def controller (r : HttpResult) : ControllerPutResponse :=
  if r.status = 0 then
    {}
  else
    let parsed := match r.body with | .controller p => p | _ => {}
    { parsed with httpStatus := r.status, reachable := true }

def view (r : HttpResult) : SessionViewDto :=
  if r.status = 0 then
    {}
  else
    let parsed := match r.body with | .view p => p | _ => {}
    { parsed with httpStatus := r.status, reachable := true }

def capabilities (r : HttpResult) : CapabilitiesDto :=
  if r.status = 0 then
    {}
  else
    let parsed := match r.body with | .capabilities p => p | _ => {}
    { parsed with httpStatus := r.status, reachable := true }

end HttpResult

structure Observation where
  alive : Bool := true
  missedAcks : Nat := 0
  closeReason : Option UInt8 := none
  serverEpoch : Int := -1
  serverBitmap : Int := -1
  sendCounter : UInt32 := 1

def Observation.write {id : String} (o : Observation) (c : Client id) : Client id :=
  { c with
    alive := o.alive
    missedAcks := o.missedAcks
    closeReason := o.closeReason
    serverEpoch := o.serverEpoch
    serverBitmap := o.serverBitmap
    sendCounter := o.sendCounter }

inductive Event where
  | connectTo (server : DiscoveredServer) (intent : ConnectIntent)
  | pairWithPin (server : DiscoveredServer) (pin : String)
  | requestReversePairing (server : DiscoveredServer) (raw : UInt32)
  | cancelReversePairing
  | disconnect (id : String)
  | forget (id : String)
  | attachSlot (id slotId : String) (features : SlotFeatures)
  | detachSlot (id slotId : String)
  | startDiscovery
  | scanFinished (found : List DiscoveredServer)
  | autoReconnectAll
  | prepareForSleep
  | resumeFromSleep
  | retryDue (timer : Nat)
  | reversePollTick
  | aliveTick (id : String)
  | observe (id : String) (o : Observation)
  | encrypted (rid : Nat) (certDer : List UInt8)
  | reply (rid : Nat) (result : HttpResult) (linkOpens : Bool)
  | advance (ms : Nat)

namespace Manager

def sha256FingerprintHex (sodium : Sodium) (bytes : List UInt8) : String :=
  toHex (sodium.sha256 bytes)

def writeRequest (m : Manager) (rid : Nat) (request : Request) (presented : String) : Manager :=
  { m with
    requests := m.requests.insert rid { request with phase := .sent }
    written := m.written ++ [{ request, presented }] }

def refuseRequest (m : Manager) (rid : Nat) (request : Request) (pinMismatch : Bool) : Manager :=
  { m with requests := m.requests.insert rid { request with phase := .refused, pinMismatch } }

def onEncrypted (sodium : Sodium) (m : Manager) (rid : Nat) (request : Request)
    (certDer : List UInt8)
    : Manager :=
  if certDer = [] then
    m.refuseRequest rid request false
  else
    let presented := sha256FingerprintHex sodium certDer
    let repinned := m.setStore (m.store.pin request.host presented)
    match tofuVerdict (m.store.pinnedFingerprint request.host) presented with
    | .TrustFirstUse => repinned.writeRequest rid request presented
    | .Match => m.writeRequest rid request presented
    | .Mismatch =>
      if m.pinGuardsAPairingAt request.host then
        m.refuseRequest rid request true
      else
        repinned.writeRequest rid request presented

def onReply (sodium : Sodium) (m : Manager) (request : Request) (result : HttpResult)
    (linkOpens : Bool)
    : Manager :=
  let pinMismatch := request.pinMismatch
  match request.call with
  | .pinPair _ sentOn server _ =>
    m.onPinPairReply sodium sentOn server (PairingOutcome.classify result.pair pinMismatch)
  | .reversePair _ sentOn server clientPin _ =>
    m.onReversePairReply sodium sentOn server clientPin result.pair pinMismatch
  | .connectPair _ sentOn server intent =>
    m.onConnectPairReply sodium sentOn server intent
      (PairingOutcome.classify result.pair pinMismatch)
  | .pairStatus server _ => m.onReverseStatusReply sodium result.pair pinMismatch server
  | .putSession _ sentOn server intent sent sentDescriptors _ =>
    m.onSessionReply sodium sentOn server intent sent sentDescriptors result.session pinMismatch
      linkOpens
  | .rekey id _ client sent _ =>
    m.onRekeyReply sodium id client sent.pairingKey result.session pinMismatch
  | .getSession _ _ server _ _ => m.onSessionView sodium server result.view
  | .putController _ _ server _ _ _ => m.onControllerPut sodium server result.controller
  | .deleteController id _ _ _ => m.onControllerDelete id result.controller
  | .deleteSession .. => m
  | .unpair .. => m
  | .getCapabilities id => m.onCapabilities id result.capabilities

def observe (m : Manager) (id : String) (o : Observation) : Manager :=
  m.modifyConn id (·.mapClient o.write)

def step (sodium : Sodium) (m : Manager) (e : Event) : Option Manager :=
  match e with
  | .connectTo server intent => some (m.connectTo sodium server intent)
  | .pairWithPin server pin => some (m.pairWithPin server pin)
  | .requestReversePairing server raw => some (m.requestReversePairing server raw)
  | .cancelReversePairing => some m.cancelReversePairing
  | .disconnect id => some (m.disconnect sodium id)
  | .forget id => some (m.forget sodium id)
  | .attachSlot id slotId features => some (m.attachSlot sodium id slotId features)
  | .detachSlot id slotId => some (m.detachSlot sodium id slotId)
  | .startDiscovery => some m.startDiscovery
  | .scanFinished found =>
    if m.scanning then some (m.onDiscoveryFinished sodium found) else none
  | .autoReconnectAll => some (m.autoReconnectAll sodium)
  | .prepareForSleep => some (m.prepareForSleep sodium)
  | .resumeFromSleep => some (m.resumeFromSleep sodium)
  | .retryDue timer =>
    match m.retries[timer]? with
    | none => none
    | some r =>
      if m.now < r.dueAt then
        none
      else
        some ({ m with retries := m.retries.erase timer }.onRetryDue sodium r.server)
  | .reversePollTick => if m.reverse.polling then some m.pollReverseStatus else none
  | .aliveTick id => some (m.onAliveTick sodium id)
  | .observe id o => some (m.observe id o)
  | .encrypted rid certDer =>
    match m.requests[rid]? with
    | none => none
    | some request =>
      if request.phase = .dialing then some (m.onEncrypted sodium rid request certDer) else none
  | .reply rid result linkOpens =>
    match m.requests[rid]? with
    | none => none
    | some request =>
      -- an answer needs a request that was written; a dead transport needs nothing
      if result.status ≠ 0 ∧ request.phase ≠ .sent then
        none
      else
        some ({ m with requests := m.requests.erase rid }.onReply sodium request result linkOpens)
  | .advance ms => some { m with now := m.now + ms }

def launch (store : ConnectionStore) (deviceId deviceName : String) : Manager where
  store
  deviceId
  deviceName := if deviceName = "" then "Windows" else deviceName

end Manager

end Wifi
