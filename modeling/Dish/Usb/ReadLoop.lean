import Dish.Input.Processor
import Dish.Usb.GamepadManager

/-!
This module contains the read loops of the claims beside the manager.
-/

open Std Reducer Input

namespace Usb

inductive HidParser where
  | None
  | DualShock4
  | DualSense
  | SwitchProUsb
  | GenericHid
  | SteamController
  deriving DecidableEq

inductive WirelessEvent where
  | None
  | Connect
  | Disconnect
  deriving DecidableEq

def kSteamWirelessType : UInt8 := 0x03
def kSteamWirelessDisconnect : UInt8 := 0x01
def kSteamWirelessConnect : UInt8 := 0x02

def checkWirelessEvent (p : HidParser) (buf : List UInt8) : WirelessEvent :=
  if p ≠ .SteamController then .None
  else
    match buf with
    | b₀ :: b₁ :: b₂ :: b₃ :: b₄ :: _ =>
      if b₀ ≠ 0x01 ∨ b₁ ≠ 0x00 then .None
      else if b₂ ≠ kSteamWirelessType ∨ b₃ ≠ 0x01 then .None
      else if b₄ = kSteamWirelessDisconnect then .Disconnect
      else if b₄ = kSteamWirelessConnect then .Connect
      else .None
    | _ => .None

def stripPrependedReportId (data : List UInt8) : List UInt8 :=
  if data.length > 1 ∧ data.head? = some 0x00 then data.tail else data

/-- `parsed` is what the decoder of the claim makes of the packet. -/
inductive ReadOutcome where
  | Report (data : List UInt8) (parsed : Option DeviceState)
  | Idle
  | Stop
  deriving DecidableEq

def handleReport (parser : HidParser) (data : List UInt8) (parsed : Option DeviceState)
    : Option DeviceState :=
  if parser = .SteamController then
    match checkWirelessEvent parser (stripPrependedReportId data) with
    | .Connect => none
    | .Disconnect => some {}
    | .None => parsed
  else parsed

def UsbGamepadManager.Call.seeing (ended : List Int)
    : UsbGamepadManager.Call → UsbGamepadManager.Call
  | .reconcile scan => .reconcile { scan with isClaimAlive := fun id => id ∉ ended }
  | call => call

/-- `ended` are the claims whose read loop ended by itself. -/
structure ClaimedPads where
  manager : UsbGamepadManager := {}
  ended : List Int := []
  last : TreeMap Int DeviceState := {}

namespace ClaimedPads

inductive Event where
  | call (call : UsbGamepadManager.Call)
  | read (syntheticId : Int) (outcome : ReadOutcome)

def readLoop (s : ClaimedPads) (parser : HidParser) (syntheticId key : Int)
    : ReadOutcome → ClaimedPads
  | .Stop => { s with ended := syntheticId :: s.ended }
  | .Idle => s
  | .Report data parsed =>
    match handleReport parser data parsed with
    | some report => { s with last := s.last.insert key report }
    | none => s

def step (gateway : Gateway) (parserForDevice : Int → HidParser) (s : ClaimedPads)
    : Event → Option ClaimedPads
  | .call call => some { s with manager := s.manager.call gateway (call.seeing s.ended) }
  | .read syntheticId outcome =>
    match s.manager.claims[syntheticId]? with
    | none => none
    | some key =>
      if syntheticId ∈ s.ended then none
      else some (s.readLoop (parserForDevice key) syntheticId key outcome)

def run (gateway : Gateway) (parserForDevice : Int → HidParser)
    : ClaimedPads → List Event → Option ClaimedPads :=
  Transition.run (step gateway parserForDevice)

def Reading (s : ClaimedPads) (key : Int) : Prop :=
  ∃ entry ∈ s.manager.claims.toList, entry.2 = key ∧ entry.1 ∉ s.ended

instance (s : ClaimedPads) (key : Int) : Decidable (s.Reading key) :=
  inferInstanceAs (Decidable (∃ entry ∈ s.manager.claims.toList, _))

def directSlot (c : UsbController) : Bool :=
  c.phase = .Direct

def awaitingClaimSlot (c : UsbController) : Bool :=
  ¬(c.frameworkExpected ∨ c.phase = .Direct)

def Listed (s : ClaimedPads) (key : Int) : Prop :=
  ∃ c ∈ s.manager.controllers[key]?, directSlot c ∨ awaitingClaimSlot c

instance (s : ClaimedPads) (key : Int) : Decidable (s.Listed key) :=
  inferInstanceAs (Decidable (∃ c ∈ s.manager.controllers[key]?, _))

/-- A slot nothing was published for is as untouched. -/
def Neutral (s : ClaimedPads) (key : Int) : Prop :=
  s.last.getD key {} = {}

instance (s : ClaimedPads) (key : Int) : Decidable (s.Neutral key) :=
  inferInstanceAs (Decidable (s.last.getD key {} = {}))

/--
A read loop ends by itself, and a claim without a framework device is released, only while the slot
is neutral.
-/
def EndsNeutral (gateway : Gateway) (s : ClaimedPads) : Event → Prop
  | .call call =>
    let m := s.manager.call gateway (call.seeing s.ended)
    ∀ entry ∈ s.manager.claims.toList, m.claims[entry.1]? = none → entry.2 ∈ m.controllers →
      (∃ c ∈ s.manager.controllers[entry.2]?, c.frameworkExpected = false) → s.Neutral entry.2
  | .read syntheticId .Stop => ∀ key ∈ s.manager.claims[syntheticId]?, s.Neutral key
  | .read _ _ => True

instance (gateway : Gateway) (s : ClaimedPads) (event : Event)
    : Decidable (s.EndsNeutral gateway event) :=
  match event with
  | .call _ => inferInstanceAs (Decidable (∀ entry ∈ s.manager.claims.toList, _))
  | .read _ .Stop => inferInstanceAs (Decidable (∀ key ∈ s.manager.claims[_]?, _))
  | .read _ .Idle => inferInstanceAs (Decidable True)
  | .read _ (.Report _ _) => inferInstanceAs (Decidable True)

end ClaimedPads

end Usb
