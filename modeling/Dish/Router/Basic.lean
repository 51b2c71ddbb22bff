import Dish.Manager.Step

/-!
This module contains how a connection gets its feedback handlers.
-/

open Std Wire Wifi

namespace Router

def kDeviceParticipants : Nat := 64
def kSessionParticipants : Nat := 64

structure FeedbackHandler where
  participant : Nat
  connectionId : String
  deriving DecidableEq

structure Handlers where
  rumble : Option FeedbackHandler := none
  lightbar : Option FeedbackHandler := none
  triggerEffects : Option FeedbackHandler := none
  playerLeds : Option FeedbackHandler := none
  micLed : Option FeedbackHandler := none
  speakerAudio : Option String := none
  hapticAudio : Option String := none
  deriving DecidableEq

def Handlers.installed (participant : Nat) (connectionId : String) : Handlers where
  rumble := some { participant, connectionId }
  lightbar := some { participant, connectionId }
  triggerEffects := some { participant, connectionId }
  playerLeds := some { participant, connectionId }
  micLed := some { participant, connectionId }
  speakerAudio := some connectionId
  hapticAudio := some connectionId

structure AppModel where
  wifi : Manager
  rumbleWiredConnections : Finset String := ∅
  sessionParticipants : TreeMap String Nat := ∅
  handlers : String → Nat → Handlers := fun _ _ => {}

structure Event where
  happened : Wifi.Event
  order : List String

namespace AppModel

def setHandlers (a : AppModel) (id : String) (obj participant : Nat) : AppModel :=
  { a with handlers := fun id' obj' =>
      if id' = id ∧ obj' = obj then .installed participant id else a.handlers id' obj' }

def installFeedbackHandlers (a : AppModel) (id : String) (obj : Nat) : AppModel :=
  match a.sessionParticipants[id]? with
  | some participant => a.setHandlers id obj participant
  | none =>
    if kSessionParticipants ≤ a.sessionParticipants.size then
      a
    else
      let participant := kDeviceParticipants + a.sessionParticipants.size
      let a := { a with sessionParticipants := a.sessionParticipants.insert id participant }
      a.setHandlers id obj participant

def markWired (a : AppModel) (id : String) : AppModel :=
  { a with rumbleWiredConnections := insert id a.rumbleWiredConnections }

def wire (a : AppModel) (id : String) : AppModel :=
  match a.wifi.conn id with
  | none => a
  | some c =>
    if id ∈ a.rumbleWiredConnections then
      a
    else
      (a.markWired id).installFeedbackHandlers id c.obj

def installRumbleHandlers (a : AppModel) (order : List String) : AppModel :=
  order.foldl wire a

def step (sodium : Sodium) (a : AppModel) (e : Event) : Option AppModel := do
  let wifi ← a.wifi.step sodium e.happened
  if e.order.isPerm wifi.connections.keys then
    return { a with wifi }.installRumbleHandlers e.order
  else
    none

end AppModel

end Router
