import Dish.Moonlight.Routes

/-!
This module contains the standing Moonlight bindings when pads appear.
-/

open Std

namespace Moonlight

structure MoonlightBinding where
  slotId : String
  hostId : String
  controllerType : Int
  padIdentity : String := ""
  named : slotId ≠ ""
  hosted : hostId ≠ ""
  deriving DecidableEq

structure PresentPad where
  slotId : String
  identity : String
  named : slotId ≠ ""
  deriving DecidableEq

structure Reattach where
  binding : MoonlightBinding
  slotId : String
  identity : String
  named : slotId ≠ ""
  deriving DecidableEq

def padFor (claimed : List String) (present : List PresentPad) (binding : MoonlightBinding)
    : Option PresentPad :=
  present.find? fun candidate =>
    candidate.slotId ∉ claimed ∧
      (binding.padIdentity ≠ "" ∧ candidate.identity = binding.padIdentity ∨
        binding.padIdentity = "" ∧ candidate.slotId = binding.slotId)

def bindingsToReattach.go (present : List PresentPad) (moonlightBoundSlotIds : List String)
    : List String → List MoonlightBinding → List Reattach
  | _, [] => []
  | claimed, binding :: standing =>
    match padFor claimed present binding with
    | none => go present moonlightBoundSlotIds claimed standing
    | some pad =>
      let rest := go present moonlightBoundSlotIds (pad.slotId :: claimed) standing
      if pad.slotId ∈ moonlightBoundSlotIds then
        rest
      else
        { binding, slotId := pad.slotId, identity := pad.identity, named := pad.named } :: rest

def bindingsToReattach (standing : List MoonlightBinding) (present : List PresentPad)
    (moonlightBoundSlotIds : List String)
    : List Reattach :=
  bindingsToReattach.go present moonlightBoundSlotIds [] standing

def rememberBinding (binding : MoonlightBinding) : List MoonlightBinding → List MoonlightBinding
  | [] => [binding]
  | b :: records =>
    if b.slotId = binding.slotId then binding :: records else b :: rememberBinding binding records

def forgetBinding (slotId : String) (records : List MoonlightBinding) : List MoonlightBinding :=
  records.filter (·.slotId ≠ slotId)

namespace Reattach

def record (item : Reattach) : MoonlightBinding :=
  { item.binding with slotId := item.slotId, padIdentity := item.identity, named := item.named }

def rewrite (item : Reattach) (records : List MoonlightBinding) : List MoonlightBinding :=
  if item.binding.slotId ≠ item.slotId ∨ item.binding.padIdentity ≠ item.identity then
    rememberBinding item.record (forgetBinding item.binding.slotId records)
  else
    records

end Reattach

structure Reattaching where
  records : List MoonlightBinding
  manager : MoonlightManager
  outcomes : List (Reattach × BindOutcome) := []

def Reattaching.reattach (ask : Reattach → BindRequest) (r : Reattaching) (item : Reattach)
    : Reattaching :=
  let (outcome, manager) := r.manager.bindSlot item.slotId item.binding.hostId (ask item)
  { records := item.rewrite r.records, manager, outcomes := r.outcomes ++ [(item, outcome)] }

def Reattaching.reattachMoonlightBindings (ask : Reattach → BindRequest) (r : Reattaching)
    (present : List PresentPad) (moonlightBoundSlotIds : List String)
    : Reattaching :=
  (bindingsToReattach r.records present moonlightBoundSlotIds).foldl (reattach ask) r

end Moonlight
