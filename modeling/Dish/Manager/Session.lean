import Dish.Manager.Basic

/-!
This module contains the session side of the connection manager.
-/

open Std Models Reducer Wire Store Connection

namespace Wifi

def unreachableMsg : String :=
  "Server unreachable — check it's powered on and on the same Wi-Fi."

def rePairMsg : String :=
  "This satellite no longer recognizes this device. Re-pair needed."

def versionMsg : String :=
  "This app and the satellite speak different protocol versions."

def versionMsgFor (verdict : ProtocolVerdict) : String :=
  match verdict with
  | .UpdateDish => "This satellite needs a newer version of Dish. Update the app and retry."
  | .UpdateSatellite => "This satellite is too old for this version of Dish. Update the satellite."
  | .Settled | .RetryLower | .Unusable => versionMsg

def identityChangedMsg : String :=
  "This satellite's security identity changed. If it was reinstalled, forget it here and pair again."

def wireFailedMsg : String :=
  "The satellite accepted, but the controller link would not open. Try again."

def descriptorsToDesired (descriptors : List ControllerDescriptor) : List DesiredSlot :=
  descriptors.map fun d => { ctrlIdx := UInt8.ofInt d.ctrlIdx, type := d.type }

structure SessionMaterial where
  token : List UInt8
  sessionKey : List UInt8
  deriving DecidableEq

def sessionMaterialFrom (sodium : Sodium) (resp : SessionResponse) (pairingKey : List UInt8)
    : Option SessionMaterial :=
  match resp.token, resp.sessionSalt with
  | some token, some sessionSalt =>
    match fromHex token, fromHex sessionSalt with
    | some [t0, t1, t2, t3], some salt =>
      if salt.length ≠ kSessionSaltSize then
        none
      else
        let sessionKey := deriveSessionKey sodium pairingKey salt (readU32Be t0 t1 t2 t3)
        some { token := [t0, t1, t2, t3], sessionKey }
    | _, _ => none
  | _, _ => none

namespace Manager

def scheduleRetry (m : Manager) (server : DiscoveredServer) (intent : ConnectIntent) : Manager :=
  if intent = .UserInitiated then
    m
  else
    let attempt := m.retryAttempts.getD server.id 0 + 1
    { m with
      retryAttempts := m.retryAttempts.insert server.id attempt
      retries := m.retries.insert m.nextRetry { server, attempt, armedAt := m.now }
      nextRetry := m.nextRetry + 1 }

def onTerminalAuthFailure (m : Manager) (id : String) (intent : ConnectIntent) : Manager :=
  let m := m.modifyConn id (·.markStale)
  let m := m.setStore (m.store.forgetSharedKey id)
  let m := m.resetRetryCurve id
  m.emitErrorIfUserInitiated intent rePairMsg

def sessionPutOf {id : String} (c : WifiConnection id) : SessionPut where
  controllers := c.desiredDescriptors
  mouseControl := c.wantsMouseControl
  protocolVersion := c.offeredProtocolVersion

def openSession (sodium : Sodium) (m : Manager) {id : String} (server : ServerOf id)
    (intent : ConnectIntent)
    : Manager :=
  match m.conn id with
  | none => m
  | some c =>
    match m.credentialsFor sodium id with
    | none => m.onTerminalAuthFailure id intent
    | some creds =>
      let sentDescriptors := descriptorsToDesired c.desiredDescriptors
      m.send server.1.ip server.1.httpPort
        (.putSession id c.obj server intent creds sentDescriptors (sessionPutOf c))

def pairAndConnect (m : Manager) {id : String} (server : ServerOf id) (intent : ConnectIntent)
    : Manager :=
  match m.conn id with
  | none => m
  | some c =>
    (m.beginPairingRequest id).send server.1.ip server.1.pairPort (.connectPair id c.obj server intent)

def dial (sodium : Sodium) (m : Manager) {id : String} (server : ServerOf id)
    (intent : ConnectIntent)
    : Manager :=
  match m.conn id with
  | none => m
  | some c =>
    let m := m.setConn (c.updateServer server)
    if c.state = .Live ∨ c.state = .Linking then
      m
    else
      let m := m.modifyConn id (·.markConnecting)
      if (m.credentialsFor sodium id).isSome then
        m.openSession sodium server intent
      else
        m.pairAndConnect server intent

def connectTo (sodium : Sodium) (m : Manager) (server : DiscoveredServer) (intent : ConnectIntent)
    : Manager :=
  if refusesHost server then
    m.reportRefusedHost server intent
  else if m.heldByUser server.id intent then
    m
  else
    let m := m.releaseHold server.id intent
    let m := m.ensureConnection server
    let m := if intent = .UserInitiated then m.resetRetryCurve server.id else m
    m.dial sodium (ServerOf.self server) intent

def releaseSession (m : Manager) (server : DiscoveredServer) (connectionId proof : String)
    : Manager :=
  m.send server.ip server.httpPort (.deleteSession connectionId proof)

def closeSession (sodium : Sodium) (m : Manager) (id : String) : Manager :=
  let m := m.cancelPendingRetries id
  match m.conn id with
  | none => m
  | some c =>
    let creds := m.credentialsFor sodium id
    let m := m.setConn c.markDisconnected
    match c.connectionId, creds with
    | some cid, some creds => m.releaseSession c.server.1 cid creds.proof
    | _, _ => m

def startDiscovery (m : Manager) : Manager :=
  { m with scanning := true }

def reconnect (sodium : Sodium) (m : Manager) (r : RememberedWifi) : Manager :=
  match m.conn r.id with
  | none => m.connectTo sodium r.toDiscovered .AutoReconnect
  | some c => if c.state = .Live then m else m.connectTo sodium r.toDiscovered .AutoReconnect

def autoReconnectAll (sodium : Sodium) (m : Manager) : Manager :=
  m.store.remembered.foldl (reconnect sodium) m

def relearn (m : Manager) (server : DiscoveredServer) : Manager :=
  m.modifyConn server.id fun c =>
    if c.state = .Idle ∨ c.state = .Stale then c.updateServer (ServerOf.self server) else c

def onDiscoveryFinished (sodium : Sodium) (m : Manager) (found : List DiscoveredServer) : Manager :=
  let m := { m with discovered := found, scanning := false }
  let m := m.setStore (m.store.refreshFromDiscovery found)
  let m := found.foldl relearn m
  m.autoReconnectAll sodium

def onRetryDue (sodium : Sodium) (m : Manager) (server : DiscoveredServer) : Manager :=
  match m.conn server.id with
  | none => m
  | some c =>
    if c.state ≠ .Idle ∧ c.state ≠ .Stale then
      m
    else
      let m := m.startDiscovery
      let target :=
        match m.store.remembered.find? fun r => r.id = server.id with
        | some r => r.toDiscovered
        | none => server
      m.connectTo sodium target .RetryAfterDeath

def probeHostAudio (m : Manager) (id : String) (server : DiscoveredServer) : Manager :=
  m.send server.ip server.httpPort (.getCapabilities id)

def onCapabilities (m : Manager) (id : String) (caps : CapabilitiesDto) : Manager :=
  m.modifyConn id fun c =>
    if c.state ≠ .Live ∨ caps.reachable = false ∨ caps.httpStatus < 200 ∨ 299 < caps.httpStatus then
      c
    else
      c.setHostControllerAudio (resolveHostControllerAudio caps)

def syncSlot (sodium : Sodium) (m : Manager) (id slotId : String) : Manager :=
  match m.conn id with
  | none => m
  | some c =>
    if c.state ≠ .Live then
      m
    else
      match c.connectionId, c.descriptorFor slotId, m.credentialsFor sodium id with
      | some connectionId, some descriptor, some creds =>
        m.send c.server.1.ip c.server.1.httpPort
          (.putController id c.obj c.server connectionId creds descriptor)
      | _, _, _ => m

def deleteSlot (sodium : Sodium) (m : Manager) (id : String) (ctrlIdx : Nat) : Manager :=
  match m.conn id with
  | none => m
  | some c =>
    match c.connectionId, m.credentialsFor sodium id with
    | some connectionId, some creds =>
      m.send c.server.1.ip c.server.1.httpPort (.deleteController id connectionId creds ctrlIdx)
    | _, _ => m

def startSession (m : Manager) {id : String} (server : ServerOf id) (connectionId : String)
    (resp : SessionResponse) (material : SessionMaterial)
    : Manager :=
  let negotiated := settleAccepted resp.protocolVersion
  let opened : Client id :=
    { serial := m.nextClient, server, token := [], sessionKey := [], settledVersion := 0 }
  let client :=
    opened.setConnectionParams material.token material.sessionKey negotiated.settledVersion
  let m := { m with nextClient := m.nextClient + 1 }
  let m := m.modifyConn id (·.settle negotiated)
  let m := m.setStore (m.store.rememberSatellite server.1)
  let m := m.resetRetryCurve id
  let m := m.modifyConn id (·.markConnected client connectionId resp.epoch resp.mouseControlGranted)
  let failures := ((m.conn id).map (·.applyFailures resp.controllers)).getD []
  let m := m.modifyConn id (·.applyResults resp.controllers)
  let m := failures.foldl (fun m text => m.emit (.error text)) m
  m.probeHostAudio id server.1

def convergeLateSlots (sodium : Sodium) (m : Manager) (id : String) (sent : List DesiredSlot)
    : Manager :=
  match m.conn id with
  | none => m
  | some c =>
    let converge := lateSlotConverge sent (descriptorsToDesired c.desiredDescriptors)
    let m := converge.removes.foldl (fun m ctrlIdx => m.deleteSlot sodium id ctrlIdx.toNat) m
    converge.resyncs.foldl (fun m ctrlIdx =>
      match (c.slotIdForIndex ctrlIdx.toNat).filter (· ≠ "") with
      | some slotId => m.syncSlot sodium id slotId
      | none => m) m

def onVersionRejected (sodium : Sodium) (m : Manager) {id : String} (c : WifiConnection id)
    (server : ServerOf id) (intent : ConnectIntent) (resp : SessionResponse)
    : Manager :=
  let negotiated := settleRejected resp.supportedProtocol resp.supportedProtocolMin
  if negotiated.verdict = .RetryLower ∧ negotiated.settledVersion < c.offeredProtocolVersion then
    let m := m.setConn { c with offeredProtocolVersion := negotiated.settledVersion }
    m.openSession sodium server intent
  else
    let told := { c with protocolCompat := compatForOutcome negotiated }
    let m := m.setConn told.markDisconnected
    m.emitErrorIfUserInitiated intent (versionMsgFor negotiated.verdict)

def parkUnreachable (m : Manager) (id : String) (intent : ConnectIntent) : Manager :=
  if intent = .UserInitiated then
    (m.modifyConn id (·.markDisconnected)).emit (.error unreachableMsg)
  else
    m.modifyConn id (·.markStale)

def onSessionRefused (sodium : Sodium) (m : Manager) {id : String} (c : WifiConnection id)
    (server : ServerOf id) (intent : ConnectIntent) (verdict : RestVerdict) (resp : SessionResponse)
    : Manager :=
  match verdict with
  | .Unauthorized => m.onTerminalAuthFailure id intent
  | .VersionMismatch => m.onVersionRejected sodium c server intent resp
  | .IdentityChanged =>
    let m := m.modifyConn id (·.markDisconnected)
    (m.resetRetryCurve id).emitErrorIfUserInitiated intent identityChangedMsg
  | .Ok | .ShuttingDown | .Unreachable | .ServerError =>
    (m.parkUnreachable id intent).scheduleRetry server.1 intent

def handBackLateGrant (m : Manager) (server : DiscoveredServer) (resp : SessionResponse)
    (proof : String)
    : Manager :=
  match resp.connectionId with
  | some connectionId => m.releaseSession server connectionId proof
  | none => m

def releaseUnusableGrant (m : Manager) {id : String} (server : ServerOf id)
    (connectionId proof : String) (intent : ConnectIntent)
    : Manager :=
  let m := m.modifyConn id (·.markDisconnected)
  let m := m.releaseSession server.1 connectionId proof
  m.emitErrorIfUserInitiated intent wireFailedMsg

def onSessionReply (sodium : Sodium) (m : Manager) {id : String} (sentOn : Nat)
    (server : ServerOf id) (intent : ConnectIntent) (sent : Credentials)
    (sentDescriptors : List DesiredSlot) (resp : SessionResponse) (pinMismatch linkOpens : Bool)
    : Manager :=
  match m.replyTarget id sentOn with
  | none => m
  | some c =>
    if c.state ≠ .Linking then
      m.handBackLateGrant server.1 resp sent.proof
    else
      let verdict := classifyRest (restReplyOf resp pinMismatch)
      match verdict, resp.connectionId, resp.token, resp.sessionSalt with
      | .Ok, some connectionId, some _, some _ =>
        match sessionMaterialFrom sodium resp sent.pairingKey, linkOpens with
        | some material, true =>
          let m := m.startSession server connectionId resp material
          m.convergeLateSlots sodium id sentDescriptors
        | _, _ => m.releaseUnusableGrant server connectionId sent.proof intent
      | _, _, _, _ => m.onSessionRefused sodium c server intent verdict resp

def reconcile (sodium : Sodium) (m : Manager) {id : String} (server : ServerOf id) : Manager :=
  match m.conn id with
  | none => m
  | some c =>
    match c.state, c.connectionId, c.client with
    | .Live, some connectionId, some client =>
      let drifted :=
        reconcileNeeded client.serverEpoch client.serverBitmap c.lastAppliedEpoch c.registeredBitmap
      if drifted = false ∨ id ∈ m.reconcileInFlight then
        m
      else
        match m.credentialsFor sodium id with
        | none => m
        | some creds =>
          let m := { m with reconcileInFlight := insert id m.reconcileInFlight }
          m.send server.1.ip server.1.httpPort (.getSession id c.obj server connectionId creds)
    | _, _, _ => m

def onSessionView (sodium : Sodium) (m : Manager) {id : String} (server : ServerOf id)
    (view : SessionViewDto)
    : Manager :=
  let m := { m with reconcileInFlight := m.reconcileInFlight.erase id }
  match m.conn id with
  | none => m
  | some c =>
    if c.state ≠ .Live then
      m
    else if view.unauthorized then
      m.onTerminalAuthFailure id .RetryAfterDeath
    else if view.reachable = false ∨ view.httpStatus < 200 ∨ 299 < view.httpStatus then
      m
    else if view.connectionId = c.connectionId ∧ c.matchesAppliedView view then
      m.setConn (c.adoptEpoch view.epoch)
    else
      let m := m.setConn c.markDisconnected.markConnecting
      m.openSession sodium server .RetryAfterDeath

def rekey (sodium : Sodium) (m : Manager) {id : String} (server : ServerOf id) : Manager :=
  match m.conn id with
  | none => m
  | some c =>
    match c.state, c.client, m.credentialsFor sodium id with
    | .Live, some client, some creds =>
      m.send server.1.ip server.1.httpPort (.rekey id c.obj client.serial creds (sessionPutOf c))
    | _, _, _ => m

def adoptRekey (m : Manager) {id : String} (c : WifiConnection id) (resp : SessionResponse)
    (material : SessionMaterial)
    : Manager :=
  let negotiated := settleAccepted resp.protocolVersion
  let keyed := (c.settle negotiated).mapClient fun client =>
    client.setConnectionParams material.token material.sessionKey negotiated.settledVersion
  let m := m.setConn (keyed.adoptEpoch resp.epoch)
  m.probeHostAudio id c.server.1

def onRekeyReply (sodium : Sodium) (m : Manager) (id : String) (serial : Nat)
    (pairingKey : List UInt8) (resp : SessionResponse) (pinMismatch : Bool)
    : Manager :=
  match m.conn id with
  | none => m
  | some c =>
    let verdict := classifyRest (restReplyOf resp pinMismatch)
    if verdict = .Unauthorized then
      m.onTerminalAuthFailure id .RetryAfterDeath
    else
      match c.client with
      | none => m
      | some client =>
        if c.state ≠ .Live ∨ client.serial ≠ serial ∨ verdict ≠ .Ok then
          m
        else
          match sessionMaterialFrom sodium resp pairingKey with
          | none => m
          | some material => m.adoptRekey c resp material

def onControllerPut (sodium : Sodium) (m : Manager) {id : String} (server : ServerOf id)
    (resp : ControllerPutResponse)
    : Manager :=
  match m.conn id with
  | none => m
  | some c =>
    if resp.unauthorized then
      m.onTerminalAuthFailure id .RetryAfterDeath
    else
      match resp.controller with
      | none => m
      | some controller =>
        let applied := (c.adoptEpoch resp.epoch).applyResults [controller]
        let m := m.setConn applied
        let m := (c.applyFailures [controller]).foldl (fun m text => m.emit (.error text)) m
        if applied.wantsMouseControl ≠ applied.mouseControlGranted then
          m.reconcile sodium server
        else
          m

def onControllerDelete (m : Manager) (id : String) (resp : ControllerPutResponse) : Manager :=
  m.modifyConn id fun c => if resp.error.isNone then c.adoptEpoch resp.epoch else c

def handleServerClose (m : Manager) {id : String} (server : ServerOf id) (reason : UInt8)
    : Manager :=
  match closeActionForReason reason with
  | .DropKeyRePair =>
    let m := m.modifyConn id (·.markStale)
    m.setStore (m.store.forgetSharedKey id)
  | .StayDown => m.modifyConn id (·.markDisconnected)
  | .RetryBackoff =>
    let m := m.modifyConn id (·.markDisconnected)
    m.scheduleRetry server.1 .RetryAfterDeath

def maybeRequestRekey (sodium : Sodium) (m : Manager) {id : String} (client : Client id) : Manager :=
  match m.conn id with
  | none => m
  | some c =>
    if counterNeedsRepush client.sendCounter = false then
      m.setConn { c with rekeyRequested := false }
    else if c.rekeyRequested then
      m
    else
      let m := m.setConn { c with rekeyRequested := true }
      m.rekey sodium client.server

def onAliveTick (sodium : Sodium) (m : Manager) (id : String) : Manager :=
  match m.conn id with
  | none => m
  | some c =>
    match c.client with
    | none => m
    | some client =>
      match client.closeReason with
      | some reason => m.handleServerClose client.server reason
      | none =>
        if client.alive = false then
          (m.closeSession sodium id).scheduleRetry client.server.1 .RetryAfterDeath
        else
          let m := m.setConn (c.applySteadyState client)
          let m := m.reconcile sodium client.server
          m.maybeRequestRekey sodium client

def disconnect (sodium : Sodium) (m : Manager) (id : String) : Manager :=
  let m := { m with userDisconnected := insert id m.userDisconnected }
  m.closeSession sodium id

def prepareForSleep (sodium : Sodium) (m : Manager) : Manager :=
  m.connections.keys.foldl (closeSession sodium) m

def resumeFromSleep (sodium : Sodium) (m : Manager) : Manager :=
  let m := { m with retryAttempts := ∅ }
  m.startDiscovery.autoReconnectAll sodium

def attachSlot (sodium : Sodium) (m : Manager) (id slotId : String) (features : SlotFeatures)
    : Manager :=
  match m.conn id with
  | none => m
  | some c =>
    let (c', slotChanged) := c.attachSlot slotId features
    let m := m.setConn c'
    if slotChanged then m.syncSlot sodium id slotId else m

def detachSlot (sodium : Sodium) (m : Manager) (id slotId : String) : Manager :=
  match m.conn id with
  | none => m
  | some c =>
    let (c', slotRemoved) := c.detachSlot slotId
    let m := m.setConn c'
    match slotRemoved with
    | some ctrlIdx => m.deleteSlot sodium id ctrlIdx
    | none => m

end Manager

end Wifi
