import Mathlib.Data.String.Basic

/-!
This module contains the data the client exchanges with a satellite.
-/

namespace Models

def kProtocolVersion : Int := 3
def kProtocolVersionMin : Int := 1

def kControllerTypeXbox : Int := 0

def kTouchpadModeDs4 : UInt8 := 0
def kTouchpadModeMouse : UInt8 := 1
def kTouchpadModeOff : UInt8 := 2

def kApplyOk : UInt8 := 0
def kApplyNoSlots : UInt8 := 1
def kApplyReplugFailed : UInt8 := 3
def kApplyUnknown : UInt8 := 0xFF

def kAuthCodeNotPaired : String := "NOT_PAIRED"
def kAuthCodeBadProof : String := "BAD_PROOF"

def touchpadModeFromName (name : String) : UInt8 :=
  if name = "ds4" then
    kTouchpadModeDs4
  else if name = "mouse" then
    kTouchpadModeMouse
  else
    kTouchpadModeOff

def applyResultSlotIsLive (code : UInt8) : Bool :=
  code = kApplyOk ∨ code = kApplyReplugFailed

def kDefaultUdpPort : Int := 9876
def kDefaultHttpPort : Int := 9443
def kDefaultPairPort : Int := 9443

structure DiscoveredServer where
  name : String := ""
  ip : String := ""
  udpPort : Int := kDefaultUdpPort
  pairPort : Int := kDefaultPairPort
  httpPort : Int := kDefaultHttpPort
  machineId : String := ""
  deriving DecidableEq, Inhabited

def DiscoveredServer.id (s : DiscoveredServer) : String :=
  if s.machineId ≠ "" then
    "mid:" ++ s.machineId
  else
    "wifi:" ++ s.ip ++ ":" ++ toString s.udpPort

structure RememberedWifi where
  id : String := ""
  name : String := ""
  ip : String := ""
  udpPort : Int := kDefaultUdpPort
  pairPort : Int := kDefaultPairPort
  httpPort : Int := kDefaultHttpPort
  machineId : String := ""
  deriving DecidableEq

def RememberedWifi.toDiscovered (r : RememberedWifi) : DiscoveredServer where
  name := r.name
  ip := r.ip
  udpPort := r.udpPort
  pairPort := r.pairPort
  httpPort := r.httpPort
  machineId := r.machineId

structure PairResponse where
  ok : Bool := false
  pending : Bool := false
  status : Option String := none
  error : Option String := none
  sharedKey : Option String := none
  httpStatus : Int := 0
  reachable : Bool := false
  deriving DecidableEq

structure ControllerApplyDto where
  ctrlIdx : Int := 0
  result : String := ""
  resultCode : UInt8 := kApplyUnknown
  deriving DecidableEq

namespace ControllerApplyDto

def ok (d : ControllerApplyDto) : Bool :=
  d.resultCode = kApplyOk

def slotIsLive (d : ControllerApplyDto) : Bool :=
  applyResultSlotIsLive d.resultCode

end ControllerApplyDto

def unauthorizedCode (code : Option String) : Bool :=
  code = some kAuthCodeNotPaired ∨ code = some kAuthCodeBadProof

structure SessionResponse where
  connectionId : Option String := none
  token : Option String := none
  sessionSalt : Option String := none
  epoch : Int := 0
  protocolVersion : Int := kProtocolVersionMin
  supportedProtocol : Int := 0
  supportedProtocolMin : Int := 0
  controllers : List ControllerApplyDto := []
  mouseControlGranted : Bool := false
  code : Option String := none
  httpStatus : Int := 0
  reachable : Bool := false
  deriving DecidableEq

structure ControllerPutResponse where
  epoch : Int := 0
  controller : Option ControllerApplyDto := none
  error : Option String := none
  code : Option String := none
  httpStatus : Int := 0
  reachable : Bool := false
  deriving DecidableEq

def ControllerPutResponse.unauthorized (r : ControllerPutResponse) : Bool :=
  unauthorizedCode r.code

structure SessionViewControllerDto where
  ctrlIdx : Int := 0
  active : Bool := false
  appliedType : Int := kControllerTypeXbox
  touchpadMode : String := ""
  deriving DecidableEq

structure SessionViewDto where
  connectionId : Option String := none
  epoch : Int := 0
  controllers : List SessionViewControllerDto := []
  mouseControlGranted : Bool := false
  code : Option String := none
  httpStatus : Int := 0
  reachable : Bool := false
  deriving DecidableEq

def SessionViewDto.unauthorized (v : SessionViewDto) : Bool :=
  unauthorizedCode v.code

structure CapabilitiesBackendDto where
  available : Bool := false
  audio : Bool := false
  deriving DecidableEq

structure CapabilitiesDto where
  backends : List CapabilitiesBackendDto := []
  hasControllerAudioBlock : Bool := false
  controllerAudioEnabled : Bool := false
  controllerAudioMic : Bool := false
  controllerAudioSpeaker : Bool := false
  controllerAudioHapticAudio : Bool := false
  httpStatus : Int := 0
  reachable : Bool := false
  deriving DecidableEq

structure ControllerDescriptor where
  ctrlIdx : Int := 0
  type : UInt8 := 0
  caps : UInt16 := 0
  touchpadMode : UInt8 := kTouchpadModeOff
  deriving DecidableEq

end Models
