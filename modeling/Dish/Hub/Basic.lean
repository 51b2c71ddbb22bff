import Dish.Manager.Step

/-!
This module contains the hub, the table that binds each slot to one connection.
-/

open Std Models Reducer Wire Connection Wifi

namespace Wifi.Manager

def detachBoundSlot (sodium : Sodium) (m : Manager) (id : String) : Manager :=
  match (m.conn id).bind (·.boundSlotId) with
  | none => m
  | some slotId => m.detachSlot sodium id slotId

end Wifi.Manager

namespace Hub

structure ConnectionHub where
  wifi : Manager
  bindings : TreeMap String String := ∅

inductive Event where
  | bind (slotId connectionId : String) (features : SlotFeatures)
  | unbind (slotId : String)

namespace ConnectionHub

def priorSlot (h : ConnectionHub) (slotId connectionId : String) : Option String :=
  let found := h.bindings.toList.find? fun (slot, id) => id = connectionId ∧ slot ≠ slotId
  (found.map (·.1)).filter (· ≠ "")

def bind (sodium : Sodium) (h : ConnectionHub) (slotId connectionId : String)
    (features : SlotFeatures)
    : ConnectionHub :=
  let h : ConnectionHub :=
    match h.priorSlot slotId connectionId with
    | some prior =>
      { wifi := h.wifi.detachBoundSlot sodium connectionId, bindings := h.bindings.erase prior }
    | none => h
  { wifi := h.wifi.attachSlot sodium connectionId slotId features
    bindings := h.bindings.insert slotId connectionId }

def unbind (sodium : Sodium) (h : ConnectionHub) (slotId : String) : ConnectionHub :=
  match h.bindings[slotId]? with
  | none => h
  | some id => { wifi := h.wifi.detachBoundSlot sodium id, bindings := h.bindings.erase slotId }

def step (sodium : Sodium) (h : ConnectionHub) (e : Event) : Option ConnectionHub :=
  match e with
  | .bind slotId connectionId features => some (h.bind sodium slotId connectionId features)
  | .unbind slotId => some (h.unbind sodium slotId)

end ConnectionHub

end Hub
