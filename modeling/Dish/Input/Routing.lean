import Dish.Connection.Basic
import Dish.Input.Devices
import Dish.Input.Pad

/-!
This module contains the way of a report from a pad to a satellite, over the processor and the table
of targets.
-/

open Connection Transition

namespace Input

variable {pad : Pad}

structure Target where
  connectionId : String
  client : Nat
  controllerIndex : Nat
  deriving DecidableEq

inductive Sent where
  | opened (target : Target)
  | report (target : Target) (id : String) (state : DeviceState)
  deriving DecidableEq

def Sent.apply (target : Target) (id : String) (state : DeviceState) : Sent → DeviceState
  | .opened target' => if target' = target then {} else state
  | .report target' id' state' => if target' = target ∧ id' = id then state' else state

def held (target : Target) (id : String) (sent : List Sent) : DeviceState :=
  sent.foldl (Sent.apply target id) {}

inductive Device where
  | controller (pad : Pad)
  | direct (index : Option (Fin kMaxDevices)) (state : DeviceState)

namespace Device

def index : Device → Option (Fin kMaxDevices)
  | .controller pad => pad.index
  | .direct index _ => index

def state : Device → DeviceState
  | .controller pad => mapGamepad pad.shadow
  | .direct _ state => state

def Clean : Device → Prop
  | .controller pad => pad.dirty = false
  | .direct .. => True

end Device

/--
`inputs` are the claimed pads the SDL thread has adopted, `inputsBox` those it has still to adopt.
-/
structure Routing where
  processor : GamepadInputProcessor := {}
  devices : String → Option Device := fun _ => none
  inputs : List String := []
  inputsBox : Option (List String) := none
  bindings : String → Option String := fun _ => none
  wifi : (id : String) → Option (WifiConnection id) := fun _ => none
  table : Fin kMaxDevices → Option Target := fun _ => none
  sent : List Sent := []

def reportOf : Published → Option DeviceState
  | .report state => some state
  | .touchpad _ => none

namespace Routing

def filtered (r : Routing) (i : Fin kMaxDevices) (state : DeviceState) : DeviceState :=
  applyDeadzones state (r.processor.records i).deadzones

def sendTarget (r : Routing) (connectionId : String) : Option Target := do
  let conn ← r.wifi connectionId
  let (client, controllerIndex) ← conn.sendTarget
  return { connectionId, client := client.serial, controllerIndex }

def targetOf (r : Routing) (slotId : String) : Option Target :=
  (r.bindings slotId).bind r.sendTarget

def report (r : Routing) (i : Fin kMaxDevices) (state : DeviceState) : Routing :=
  match r.table i, (r.processor.records i).id with
  | some target, some id => { r with sent := r.sent ++ [.report target id state] }
  | _, _ => r

def publish (r : Routing) (i : Fin kMaxDevices) (state : DeviceState) : Routing :=
  match r.processor.publish i state with
  | (processor, none) => { r with processor }
  | (processor, some state) => { r with processor }.report i state

def publishAll (r : Routing) (index : Option (Fin kMaxDevices)) (out : List Published) : Routing :=
  match index with
  | some i => (out.filterMap reportOf).foldl (fun r state => r.publish i state) r
  | none => r

def setDevice (r : Routing) (id : String) (device : Device) : Routing :=
  { r with devices := Function.update r.devices id (some device) }

def applyInputs (inputs : List String) (id : String) : Device → Device
  | .controller pad => .controller { pad with suppressed := inputs.contains id }
  | .direct index state => .direct index state

def adoptInputs (r : Routing) : Routing :=
  match r.inputsBox with
  | none => r
  | some inputs =>
    { r with
      inputs
      inputsBox := none
      devices := fun id => (r.devices id).map (applyInputs inputs id) }

def onControllerAdded (r : Routing) (iid : Int) (shadow : ControllerShadow) : Routing :=
  let id := sdlId iid
  let (index, processor) := r.processor.add id
  let pad : Pad := { index, suppressed := r.inputs.contains id, shadow }
  let processor := processor.setDeadzones id kDefaultDeadzones
  ({ r with processor }.setDevice id (.controller pad)).publishAll index pad.rebuildState

def claim (r : Routing) (id : String) (state : DeviceState) : Routing :=
  let (index, processor) := r.processor.add id
  { r with processor }.setDevice id (.direct index state)

def buildStep (r : Routing) (built : GamepadInputProcessor × (Fin kMaxDevices → Option Target))
    (slotId : String)
    : GamepadInputProcessor × (Fin kMaxDevices → Option Target) :=
  let (index, processor) := built.1.add slotId
  match r.targetOf slotId, index with
  | some target, some i => (processor, Function.update built.2 i (some target))
  | _, _ => (processor, built.2)

def build (r : Routing) (slotIds : List String)
    : GamepadInputProcessor × (Fin kMaxDevices → Option Target) :=
  slotIds.foldl r.buildStep (r.processor, fun _ => none)

def republish (r : Routing) (slotIds : List String) : Routing :=
  let (processor, table) := r.build slotIds
  { r with processor, table }

def setConnection (r : Routing) (id : String) (conn : Option (WifiConnection id)) : Routing :=
  { r with wifi := Function.update r.wifi id conn }

def opens (r : Routing) (id : String) (conn : Option (WifiConnection id)) : Option Target :=
  ((r.setConnection id conn).sendTarget id).filter fun target => r.sendTarget id ≠ some target

/-- `attach` and `claim` are of a new pad, `pump` is the part of a pump that is about one pad. -/
inductive Act where
  | attach (iid : Int) (shadow : ControllerShadow)
  | claim (id : String) (state : DeviceState)
  | pump (id : String) (evs : List SdlEvent)
  | usbReport (id : String) (state : DeviceState)
  | setSuppressedDeviceIds (ids : List String)
  | bind (slotId connectionId : String)
  | unbind (slotId : String)
  | session (id : String) (conn : Option (WifiConnection id))
  | republish (slotIds : List String)

def Unknown (r : Routing) (id : String) : Prop :=
  (r.devices id).isNone ∧ r.processor.find id = none

instance (r : Routing) (id : String) : Decidable (r.Unknown id) :=
  inferInstanceAs (Decidable (_ ∧ _))

def pump (r : Routing) (id : String) (evs : List SdlEvent) : Option Routing :=
  match r.devices id with
  | some (.controller pad) =>
    let (pad', out) := pad.pumpOnce evs
    some ((r.setDevice id (.controller pad')).publishAll pad.index out)
  | _ => none

def usbReport (r : Routing) (id : String) (state : DeviceState) : Option Routing :=
  match r.devices id with
  | some (.direct index _) =>
    some ((r.setDevice id (.direct index state)).publishAll index [.report state])
  | _ => none

def step (r : Routing) : Act → Option Routing
  | .attach iid shadow =>
    if r.Unknown (sdlId iid) then some (r.onControllerAdded iid shadow) else none
  | .claim id state => if r.Unknown id then some (r.claim id state) else none
  | .pump id evs => r.adoptInputs.pump id evs
  | .usbReport id state => r.usbReport id state
  | .setSuppressedDeviceIds ids => some { r with inputsBox := some ids }
  | .bind slotId connectionId =>
    some { r with bindings := Function.update r.bindings slotId (some connectionId) }
  | .unbind slotId => some { r with bindings := Function.update r.bindings slotId none }
  | .session id conn =>
    some { r.setConnection id conn with sent := r.sent ++ ((r.opens id conn).map .opened).toList }
  | .republish slotIds => some (r.republish slotIds)

def run : Routing → List Act → Option Routing :=
  Transition.run step

/--
A pad is not moved while it is suppressed, and a slot that gets a new target is at what that
controller is at.
-/
def Steady (r : Routing) : Act → Prop
  | .pump id evs =>
    match r.adoptInputs.devices id with
    | some (.controller pad) =>
      pad.suppressed = true → ∀ i ∈ pad.index,
        r.filtered i (mapGamepad (pad.pumpOnce evs).1.shadow) = r.filtered i (mapGamepad pad.shadow)
    | _ => True
  | .republish slotIds =>
    ∀ slotId ∈ slotIds, ∀ device ∈ r.devices slotId, ∀ i ∈ device.index, ∀ target ∈ r.targetOf slotId,
      r.table i = some target ∨ held target slotId r.sent = r.filtered i device.state
  | .session id conn =>
    ∀ target ∈ r.opens id conn, ∀ i, r.table i = some target →
      ∀ slotId ∈ (r.processor.records i).id, ∀ device ∈ r.devices slotId,
        r.filtered i device.state = {}
  | .attach _ _ | .claim _ _ | .usbReport _ _ | .setSuppressedDeviceIds _ | .bind _ _ | .unbind _ =>
    True

end Routing

def Record.Latched (r : Record) (state : DeviceState) : Prop :=
  r.syncOwner.forwarded = true → r.syncOwner.lastForwarded = applyDeadzones state r.deadzones

namespace Routing

structure Mirrors (r : Routing) : Prop where
  known : ∀ id device i, r.devices id = some device → device.index = some i →
    (r.processor.records i).id = some id
  latched : ∀ id device i, r.devices id = some device → device.index = some i →
    (r.processor.records i).Latched device.state
  clean : ∀ id device, r.devices id = some device → device.Clean
  pristine : ∀ i, (r.processor.records i).id = none → r.processor.records i = {}
  routed : ∀ i target, r.table i = some target → (r.processor.records i).id ≠ none
  mirrored : ∀ id device i target, r.devices id = some device → device.index = some i →
    r.table i = some target → held target id r.sent = r.filtered i device.state

section

variable {r r' : Routing} {a : Act} {id : String} {device device' : Device} {i : Fin kMaxDevices}

theorem held_append (target : Target) (id : String) (sent : List Sent) (message : Sent)
    : held target id (sent ++ [message]) = message.apply target id (held target id sent) := by
  simp [held]

theorem Mirrors.of_devices (h : r.Mirrors) (inputs : List String) (inputsBox : Option (List String))
    {devices : String → Option Device}
    (hsame : ∀ id device', devices id = some device' →
      ∃ device, r.devices id = some device ∧ device'.index = device.index ∧ device'.Clean ∧
        ∀ i, device.index = some i → r.filtered i device'.state = r.filtered i device.state)
    : { r with devices, inputs, inputsBox }.Mirrors where
  pristine := h.pristine
  routed := h.routed
  known := by
    intro id device' i hdevice' hi
    obtain ⟨device, hdevice, hindex, _⟩ := hsame id device' hdevice'
    exact h.known id device i hdevice (hindex ▸ hi)
  latched := by
    intro id device' i hdevice' hi hforwarded
    obtain ⟨device, hdevice, hindex, _, hstate⟩ := hsame id device' hdevice'
    rw [hindex] at hi
    rw [h.latched id device i hdevice hi hforwarded]
    exact (hstate i hi).symm
  clean := by
    intro id device' hdevice'
    obtain ⟨_, _, _, hclean, _⟩ := hsame id device' hdevice'
    exact hclean
  mirrored := by
    intro id device' i target hdevice' hi htarget
    obtain ⟨device, hdevice, hindex, _, hstate⟩ := hsame id device' hdevice'
    rw [hindex] at hi
    exact (h.mirrored id device i target hdevice hi htarget).trans (hstate i hi).symm

theorem Mirrors.setDevice (h : r.Mirrors) (hdevice : r.devices id = some device)
    (hindex : device'.index = device.index) (hclean : device'.Clean)
    (hstate : ∀ i, device.index = some i → r.filtered i device'.state = r.filtered i device.state)
    : (r.setDevice id device').Mirrors := by
  apply h.of_devices r.inputs r.inputsBox
  intro id' device'' hdevice''
  by_cases hid : id' = id
  . subst hid
    simp only [Function.update_self, Option.some.injEq] at hdevice''
    subst hdevice''
    exact ⟨device, hdevice, hindex, hclean, hstate⟩
  . rw [Function.update_of_ne hid] at hdevice''
    exact ⟨device'', hdevice'', rfl, h.clean id' device'' hdevice'', fun _ _ => rfl⟩

theorem filtered_adoptInputs (i : Fin kMaxDevices) (state : DeviceState)
    : r.adoptInputs.filtered i state = r.filtered i state := by
  unfold Routing.adoptInputs
  split <;> rfl

theorem Mirrors.adoptInputs (h : r.Mirrors) : r.adoptInputs.Mirrors := by
  unfold Routing.adoptInputs
  split
  . exact h
  next inputs _ =>
    apply h.of_devices
    intro id device' hdevice'
    obtain ⟨device, hdevice, rfl⟩ := Option.map_eq_some_iff.mp hdevice'
    refine ⟨device, hdevice, ?_⟩
    have hclean := h.clean id device hdevice
    cases device with
    | controller pad | direct index state => exact ⟨rfl, hclean, fun _ _ => rfl⟩

theorem publish_eq (hid : (r.processor.records i).id = some id) (state : DeviceState)
    : r.publish i state =
      { r with
        processor := (r.processor.publish i state).1
        sent := r.sent ++ ((r.table i).bind fun target =>
          (r.processor.publish i state).2.map fun state => Sent.report target id state).toList } := by
  have hid' : ((r.processor.publish i state).1.records i).id = some id := by
    simp [GamepadInputProcessor.records_publish, hid]
  unfold Routing.publish Routing.report
  split
  next processor hpublish => simp [hpublish]
  next processor state' hpublish =>
    rw [hpublish] at hid'
    dsimp only at hid' ⊢
    rw [hid', hpublish]
    cases r.table i <;> simp

theorem held_of_other {id' : String} (hid : id' ≠ id) (target : Target) (sent : List Sent)
    (message : Option Target) (state : Option DeviceState)
    : held target id' (sent ++ (message.bind fun target =>
        state.map fun state => Sent.report target id state).toList) = held target id' sent := by
  cases message <;> cases state <;> simp [held_append, Sent.apply, hid.symm]

theorem records_publish_latched (p : GamepadInputProcessor) (i : Fin kMaxDevices) (state : DeviceState)
    : ((p.publish i state).1.records i).Latched state := by
  rw [p.records_publish, if_pos rfl]
  intro _
  rw [Record.syncOwner_of_owned]
  exact (p.records i).owned_syncOwner

theorem Mirrors.held_publish (h : r.Mirrors) (hdevice : r.devices id = some device)
    (hi : device.index = some i) {target : Target} (htarget : r.table i = some target)
    (state : DeviceState)
    : held target id (r.sent ++ ((r.table i).bind fun target =>
        (r.processor.publish i state).2.map fun state => Sent.report target id state).toList) =
      r.filtered i state := by
  rw [htarget, GamepadInputProcessor.publish_snd]
  dsimp only
  split
  next hlatched =>
    have hforwarded := h.latched id device i hdevice hi hlatched.1
    have hmirrored := h.mirrored id device i target hdevice hi htarget
    rw [hlatched.2, Record.deadzones_syncOwner] at hforwarded
    simpa [filtered, hforwarded] using hmirrored
  . simp [held_append, Sent.apply, filtered]

theorem Mirrors.publish (h : r.Mirrors) (hdevice : r.devices id = some device)
    (hi : device.index = some i) (hindex : device'.index = some i) (hclean : device'.Clean)
    : ((r.setDevice id device').publish i device'.state).Mirrors := by
  have hid := h.known id device i hdevice hi
  rw [publish_eq (by exact hid)]
  have hother : ∀ id' device' i', id' ≠ id → r.devices id' = some device' →
      device'.index = some i' → i' ≠ i := by
    intro id' device' i' hne hdevice' hi' heq
    have := h.known id' device' i' hdevice' hi'
    rw [heq, hid] at this
    exact hne (Option.some.inj this).symm
  have hrecord : ∀ i', i' ≠ i →
      (r.processor.publish i device'.state).1.records i' = r.processor.records i' := by
    intro i' hne
    rw [r.processor.records_publish, if_neg hne]
  -- A device of the new state is the one that published, or another one with another record.
  have hcases : ∀ id' device'' i', (r.setDevice id device').devices id' = some device'' →
      device''.index = some i' →
      (id' = id ∧ device'' = device' ∧ i' = i) ∨
        (id' ≠ id ∧ i' ≠ i ∧ r.devices id' = some device'') := by
    intro id' device'' i' hdevice'' hi'
    by_cases hne : id' = id
    . subst hne
      simp only [Routing.setDevice, Function.update_self, Option.some.injEq] at hdevice''
      subst hdevice''
      exact .inl ⟨rfl, rfl, Option.some.inj (hi'.symm.trans hindex)⟩
    . simp only [Routing.setDevice, Function.update_of_ne hne] at hdevice''
      exact .inr ⟨hne, hother id' device'' i' hne hdevice'' hi', hdevice''⟩
  constructor
  . intro id' device'' i' hdevice'' hi'
    rcases hcases id' device'' i' hdevice'' hi' with ⟨rfl, rfl, rfl⟩ | ⟨hne, hi, hold⟩
    . simpa [Routing.setDevice, GamepadInputProcessor.records_publish] using hid
    . simpa [Routing.setDevice, hrecord i' hi] using h.known id' device'' i' hold hi'
  . intro id' device'' i' hdevice'' hi'
    rcases hcases id' device'' i' hdevice'' hi' with ⟨rfl, rfl, rfl⟩ | ⟨hne, hi, hold⟩
    . apply records_publish_latched
    . simpa [Routing.setDevice, hrecord i' hi] using h.latched id' device'' i' hold hi'
  . intro id' device'' hdevice''
    by_cases hne : id' = id
    . subst hne
      simp only [Routing.setDevice, Function.update_self, Option.some.injEq] at hdevice''
      exact hdevice'' ▸ hclean
    . simp only [Routing.setDevice, Function.update_of_ne hne] at hdevice''
      exact h.clean id' device'' hdevice''
  . intro i' hfree
    by_cases hi : i' = i
    . subst hi
      simp [Routing.setDevice, GamepadInputProcessor.records_publish, hid] at hfree
    . simp only [Routing.setDevice, hrecord i' hi] at hfree ⊢
      exact h.pristine i' hfree
  . intro i' target htarget
    by_cases hi : i' = i
    . subst hi
      simp [Routing.setDevice, GamepadInputProcessor.records_publish, hid]
    . simpa [Routing.setDevice, hrecord i' hi] using h.routed i' target htarget
  . intro id' device'' i' target hdevice'' hi' htarget
    rcases hcases id' device'' i' hdevice'' hi' with ⟨rfl, rfl, rfl⟩ | ⟨hne, hi, hold⟩
    . simpa [Routing.setDevice, filtered, GamepadInputProcessor.records_publish]
        using h.held_publish hdevice hi htarget device''.state
    . have hold := h.mirrored id' device'' i' target hold hi' htarget
      simpa [Routing.setDevice, held_of_other hne, filtered, hrecord i' hi] using hold

theorem dispatchSdlEvent_shadow {ev : SdlEvent} (h : (pad.dispatchSdlEvent ev).1.dirty = false)
    : pad.dirty = false ∧ (pad.dispatchSdlEvent ev).1.shadow = pad.shadow := by
  cases ev with
  | axisMotion axis value => cases axis <;> simp_all [Pad.dispatchSdlEvent, ControllerShadow.apply]
  | button button pressed => cases button <;> simp_all [Pad.dispatchSdlEvent, ControllerShadow.apply]
  | touchpad type finger x y => exact ⟨h, rfl⟩

theorem dispatchAll_shadow {evs : List SdlEvent} (h : (pad.dispatchAll evs).1.dirty = false)
    : pad.dirty = false ∧ (pad.dispatchAll evs).1.shadow = pad.shadow := by
  induction evs generalizing pad with
  | nil => exact ⟨h, rfl⟩
  | cons ev evs ih =>
    rw [Pad.dispatchAll_cons] at h ⊢
    have hevs := ih h
    have hev := dispatchSdlEvent_shadow hevs.1
    exact ⟨hev.1, hevs.2.trans hev.2⟩

theorem dispatchAll_reports (pad : Pad) (evs : List SdlEvent)
    : (pad.dispatchAll evs).2.filterMap reportOf = [] := by
  induction evs generalizing pad with
  | nil => rfl
  | cons ev evs ih =>
    rw [Pad.dispatchAll_cons, List.filterMap_append, ih]
    cases ev with
    | axisMotion axis value => rfl
    | button button pressed => rfl
    | touchpad type finger x y =>
      dsimp only [Pad.dispatchSdlEvent, Pad.handleTouchpadEvent]
      split <;> rfl

theorem index_dispatchAll (pad : Pad) (evs : List SdlEvent)
    : (pad.dispatchAll evs).1.index = pad.index := by
  induction evs generalizing pad with
  | nil => rfl
  | cons ev evs ih =>
    rw [Pad.dispatchAll_cons, ih]
    cases ev <;> rfl

theorem pumpOnce_cases (pad : Pad) (evs : List SdlEvent)
    : (pad.pumpOnce evs).1.dirty = false ∧ (pad.pumpOnce evs).1.index = pad.index ∧
      ((pad.pumpOnce evs).2.filterMap reportOf = [mapGamepad (pad.pumpOnce evs).1.shadow] ∨
        (pad.pumpOnce evs).2.filterMap reportOf = [] ∧
          (pad.publishes = false ∨ (pad.pumpOnce evs).1.shadow = pad.shadow)) := by
  have hreports := dispatchAll_reports pad evs
  have hpublishes := @Pad.publishes_dispatchAll pad evs
  dsimp only [Pad.pumpOnce]
  rw [List.filterMap_append, hreports, List.nil_append, Pad.rebuildDirty, Pad.rebuildState, hpublishes]
  split
  next hdirty =>
    refine ⟨rfl, index_dispatchAll pad evs, ?_⟩
    cases pad.publishes with
    | true => exact .inl rfl
    | false => exact .inr ⟨rfl, .inl rfl⟩
  next hdirty =>
    rw [Bool.not_eq_true] at hdirty
    exact ⟨hdirty, index_dispatchAll pad evs, .inr ⟨rfl, .inr (dispatchAll_shadow hdirty).2⟩⟩

theorem Mirrors.pump (h : r.Mirrors) {evs : List SdlEvent} (hstep : r.pump id evs = some r')
    (hsteady : ∀ pad, r.devices id = some (.controller pad) → pad.suppressed = true →
      ∀ i ∈ pad.index,
        r.filtered i (mapGamepad (pad.pumpOnce evs).1.shadow) = r.filtered i (mapGamepad pad.shadow))
    : r'.Mirrors := by
  unfold Routing.pump at hstep
  split at hstep
  next pad hpad =>
    obtain ⟨hclean, hindex, hcases⟩ := pumpOnce_cases pad evs
    have hsteady := hsteady pad hpad
    generalize pad.pumpOnce evs = pumped at *
    cases hstep
    cases hi : pad.index with
    | none =>
      refine h.setDevice hpad hindex hclean ?_
      intro i hi'
      simp [Device.index, hi] at hi'
    | some i =>
      simp only [publishAll]
      rcases hcases with hreport | ⟨hnone, hstill⟩
      . rw [hreport]
        exact @Mirrors.publish r id _ (.controller pumped.1) i h hpad hi (hindex.trans hi) hclean
      . rw [hnone]
        refine h.setDevice hpad hindex hclean ?_
        intro i' hi'
        rcases hstill with hsuppressed | hshadow
        . apply hsteady _ i' hi'
          simpa [Pad.publishes, hi] using hsuppressed
        . simp [Device.state, hshadow]
  . contradiction

theorem Mirrors.usbReport (h : r.Mirrors) {state : DeviceState}
    (hstep : r.usbReport id state = some r')
    : r'.Mirrors := by
  unfold Routing.usbReport at hstep
  split at hstep
  next index old hdevice =>
    cases hstep
    cases hi : index with
    | none =>
      refine h.setDevice hdevice (by rw [hi]; rfl) trivial ?_
      intro i hi'
      simp [Device.index, hi] at hi'
    | some i => exact @Mirrors.publish r id _ (.direct (some i) state) i h hdevice hi rfl trivial
  . contradiction

structure Enters (p p' : GamepadInputProcessor) (id : String) (index : Option (Fin kMaxDevices))
    : Prop where
  kept : ∀ i id', (p.records i).id = some id' → p'.records i = p.records i
  free : ∀ i, (p'.records i).id = none → p'.records i = p.records i
  entered : ∀ i, index = some i → (p.records i).id = none ∧ (p'.records i).id = some id ∧
    (p'.records i).syncOwner.forwarded = false

theorem Mirrors.enters_add (h : r.Mirrors) (hunknown : r.Unknown id)
    : Enters r.processor (r.processor.add id).2 id (r.processor.add id).1 where
  kept i id' hid' := GamepadInputProcessor.records_add hid'
  free i hfree := GamepadInputProcessor.records_add_free hfree
  entered := by
    intro i hi
    rcases r.processor.add_cases id with ⟨_, hindex⟩ | ⟨j, hfree, _, heq⟩
    . exact absurd (hindex i hi) (GamepadInputProcessor.find_eq_none.mp hunknown.2 i)
    . rw [heq] at hi ⊢
      cases hi
      refine ⟨hfree, ?_⟩
      simp [GamepadInputProcessor.setRecord, h.pristine i hfree, Record.syncOwner]

theorem Mirrors.enters_setDeadzones (h : r.Mirrors) (hunknown : r.Unknown id) (dz : Deadzones)
    : Enters r.processor ((r.processor.add id).2.setDeadzones id dz) id (r.processor.add id).1 := by
  have hadd := h.enters_add hunknown
  have hother := GamepadInputProcessor.find_eq_none.mp hunknown.2
  have hrecord := @GamepadInputProcessor.records_setDeadzones (r.processor.add id).2 id dz
  rw [GamepadInputProcessor.add_add] at hrecord
  constructor
  . intro i id' hid'
    have hkept := hadd.kept i id' hid'
    rcases hrecord i with heq | ⟨hid, _⟩
    . exact heq.trans hkept
    . rw [hkept] at hid
      exact absurd hid (hother i)
  . intro i hfree
    rcases hrecord i with heq | ⟨hid, heq⟩
    . rw [heq] at hfree ⊢
      exact hadd.free i hfree
    . rw [heq] at hfree
      simp [hid] at hfree
  . intro i hi
    obtain ⟨hfree, hid, hforwarded⟩ := hadd.entered i hi
    rcases hrecord i with heq | ⟨_, heq⟩
    . rw [heq]
      exact ⟨hfree, hid, hforwarded⟩
    . rw [heq]
      refine ⟨hfree, hid, ?_⟩
      unfold Record.syncOwner at hforwarded ⊢
      split <;> simp_all

theorem Mirrors.enter (h : r.Mirrors) (hunknown : r.Unknown id) {p : GamepadInputProcessor}
    {index : Option (Fin kMaxDevices)} (henters : Enters r.processor p id index)
    (hindex : device.index = index) (hclean : device.Clean)
    : ({ r with processor := p }.setDevice id device).Mirrors := by
  have hcases : ∀ id' device', ({ r with processor := p }.setDevice id device).devices id' =
      some device' → (id' = id ∧ device' = device) ∨ r.devices id' = some device' := by
    intro id' device' hdevice'
    by_cases hne : id' = id
    . subst hne
      simp only [Routing.setDevice, Function.update_self, Option.some.injEq] at hdevice'
      exact .inl ⟨rfl, hdevice'.symm⟩
    . simp only [Routing.setDevice, Function.update_of_ne hne] at hdevice'
      exact .inr hdevice'
  constructor
  . intro id' device' i hdevice' hi
    rcases hcases id' device' hdevice' with ⟨rfl, rfl⟩ | hold
    . exact (henters.entered i (hindex ▸ hi)).2.1
    . have hid := h.known id' device' i hold hi
      exact (congrArg Record.id (henters.kept i id' hid)).trans hid
  . intro id' device' i hdevice' hi
    rcases hcases id' device' hdevice' with ⟨rfl, rfl⟩ | hold
    . intro hforwarded
      have hfresh := (henters.entered i (hindex ▸ hi)).2.2
      exact absurd hforwarded (by simp [Routing.setDevice, hfresh])
    . have hid := h.known id' device' i hold hi
      have hlatched := h.latched id' device' i hold hi
      rwa [← henters.kept i id' hid] at hlatched
  . intro id' device' hdevice'
    rcases hcases id' device' hdevice' with ⟨rfl, rfl⟩ | hold
    . exact hclean
    . exact h.clean id' device' hold
  . intro i hfree
    have heq := henters.free i hfree
    exact heq.trans (h.pristine i (heq ▸ hfree))
  . intro i target htarget hfree
    apply h.routed i target htarget
    rw [← henters.free i hfree]
    exact hfree
  . intro id' device' i target hdevice' hi htarget
    rcases hcases id' device' hdevice' with ⟨rfl, rfl⟩ | hold
    . -- The record was free, so that no slot was routed over it.
      exact absurd (henters.entered i (hindex ▸ hi)).1 (h.routed i target htarget)
    . have hid := h.known id' device' i hold hi
      have hmirrored := h.mirrored id' device' i target hold hi htarget
      rwa [filtered, ← henters.kept i id' hid] at hmirrored

theorem setDevice_self (hdevice : r.devices id = some device) : r.setDevice id device = r := by
  rw [Routing.setDevice, ← hdevice, Function.update_eq_self]

theorem Mirrors.rebuildState (h : r.Mirrors) (hpad : r.devices id = some (.controller pad))
    : (r.publishAll pad.index pad.rebuildState).Mirrors := by
  unfold publishAll Pad.rebuildState
  split
  next i hi =>
    split
    . have hpublish := @Mirrors.publish r id _ (.controller pad) i h hpad hi hi (h.clean id _ hpad)
      rw [setDevice_self hpad] at hpublish
      exact hpublish
    . exact h
  . exact h

theorem Mirrors.onControllerAdded (h : r.Mirrors) {iid : Int} (hunknown : r.Unknown (sdlId iid))
    (shadow : ControllerShadow)
    : (r.onControllerAdded iid shadow).Mirrors := by
  have henters := h.enters_setDeadzones hunknown kDefaultDeadzones
  have hentered := @Mirrors.enter r (sdlId iid) (.controller
    { index := (r.processor.add (sdlId iid)).1, suppressed := r.inputs.contains (sdlId iid), shadow })
    h hunknown _ _ henters rfl rfl
  exact hentered.rebuildState (Function.update_self ..)

theorem Mirrors.claim (h : r.Mirrors) (hunknown : r.Unknown id) (state : DeviceState)
    : (r.claim id state).Mirrors := by
  exact h.enter hunknown (h.enters_add hunknown) rfl trivial

structure Built (r : Routing) (slotIds : List String)
    (built : GamepadInputProcessor × (Fin kMaxDevices → Option Target)) : Prop where
  kept : ∀ i id, (r.processor.records i).id = some id → built.1.records i = r.processor.records i
  free : ∀ i, (built.1.records i).id = none → built.1.records i = r.processor.records i
  routed : ∀ i target, built.2 i = some target →
    ∃ slotId ∈ slotIds, (built.1.records i).id = some slotId ∧ r.targetOf slotId = some target

theorem Built.buildStep {slotIds : List String} {slotId : String}
    {built : GamepadInputProcessor × (Fin kMaxDevices → Option Target)}
    (h : Built r slotIds built) (hmem : slotId ∈ slotIds)
    : Built r slotIds (r.buildStep built slotId) := by
  have hrecords : (r.buildStep built slotId).1 = (built.1.add slotId).2 := by
    unfold Routing.buildStep
    dsimp only
    split <;> rfl
  constructor
  . intro i id hid
    have hkept := h.kept i id hid
    rw [hrecords, GamepadInputProcessor.records_add (hkept ▸ hid), hkept]
  . intro i hfree
    rw [hrecords] at hfree ⊢
    have heq := GamepadInputProcessor.records_add_free hfree
    rw [heq] at hfree ⊢
    exact h.free i hfree
  . intro i target htarget
    rw [hrecords]
    have hold : built.2 i = some target → ∃ slotId' ∈ slotIds,
        ((built.1.add slotId).2.records i).id = some slotId' ∧ r.targetOf slotId' = some target := by
      intro hbuilt
      obtain ⟨slotId', hmem', hid', htarget'⟩ := h.routed i target hbuilt
      exact ⟨slotId', hmem', by rw [GamepadInputProcessor.records_add hid', hid'], htarget'⟩
    unfold Routing.buildStep at htarget
    dsimp only at htarget
    split at htarget
    next target' j hslot hindex =>
      by_cases hj : i = j
      . subst hj
        simp only [Function.update_self, Option.some.injEq] at htarget
        subst htarget
        exact ⟨slotId, hmem, GamepadInputProcessor.id_add hindex, hslot⟩
      . dsimp only at htarget
        rw [Function.update_of_ne hj] at htarget
        exact hold htarget
    . exact hold htarget

theorem built_build (r : Routing) (slotIds : List String) : Built r slotIds (r.build slotIds) := by
  unfold Routing.build
  apply List.foldlRecOn
  . exact ⟨fun _ _ _ => rfl, fun _ _ => rfl, by simp⟩
  . intro built h slotId hmem
    exact h.buildStep hmem

theorem Mirrors.republish (h : r.Mirrors) {slotIds : List String}
    (hsteady : r.Steady (.republish slotIds))
    : (r.republish slotIds).Mirrors := by
  have hbuilt := built_build r slotIds
  constructor
  . intro id device i hdevice hi
    have hid := h.known id device i hdevice hi
    exact (congrArg Record.id (hbuilt.kept i id hid)).trans hid
  . intro id device i hdevice hi
    have hlatched := h.latched id device i hdevice hi
    rwa [← hbuilt.kept i id (h.known id device i hdevice hi)] at hlatched
  . exact h.clean
  . intro i hfree
    have heq := hbuilt.free i hfree
    exact heq.trans (h.pristine i (heq ▸ hfree))
  . intro i target htarget hfree
    obtain ⟨slotId, _, hid, _⟩ := hbuilt.routed i target htarget
    exact absurd (hid.symm.trans hfree) (by simp)
  . intro id device i target hdevice hi htarget
    have hid := h.known id device i hdevice hi
    have hkept := hbuilt.kept i id hid
    obtain ⟨slotId, hmem, hslot, htargetOf⟩ := hbuilt.routed i target htarget
    have heq : slotId = id := by
      rw [hkept, hid] at hslot
      exact (Option.some.inj hslot).symm
    subst heq
    have hfiltered : (r.republish slotIds).filtered i device.state = r.filtered i device.state :=
      congrArg (fun record => applyDeadzones device.state (Record.deadzones record)) hkept
    rw [hfiltered]
    rcases hsteady slotId hmem device hdevice i hi target htargetOf with hsame | hheld
    . exact h.mirrored slotId device i target hdevice hi hsame
    . exact hheld

theorem Mirrors.session (h : r.Mirrors) {conn : Option (WifiConnection id)}
    (hsteady : r.Steady (.session id conn))
    : { r.setConnection id conn with
        sent := r.sent ++ ((r.opens id conn).map Sent.opened).toList }.Mirrors where
  known := h.known
  latched := h.latched
  clean := h.clean
  pristine := h.pristine
  routed := h.routed
  mirrored := by
    intro slotId device i target hdevice hi htarget
    have hmirrored := h.mirrored slotId device i target hdevice hi htarget
    cases hopens : r.opens id conn with
    | none =>
      rw [Option.map_none, Option.toList_none, List.append_nil]
      exact hmirrored
    | some opened =>
      simp only [Option.map_some, Option.toList_some, held_append, Sent.apply]
      split
      next heq =>
        subst heq
        have hid := h.known slotId device i hdevice hi
        exact (hsteady opened hopens i htarget slotId hid device hdevice).symm
      . exact hmirrored

theorem Mirrors.step (h : r.Mirrors) (hsteady : r.Steady a) (hstep : r.step a = some r')
    : r'.Mirrors := by
  cases a with
  | attach iid shadow =>
    obtain ⟨hunknown, hstep⟩ := Option.ite_none_right_eq_some.mp hstep
    cases hstep
    exact h.onControllerAdded hunknown shadow
  | claim id state =>
    obtain ⟨hunknown, hstep⟩ := Option.ite_none_right_eq_some.mp hstep
    cases hstep
    exact h.claim hunknown state
  | pump id evs =>
    refine h.adoptInputs.pump hstep ?_
    intro pad hpad hsuppressed i hi
    simp only [Steady, hpad] at hsteady
    simpa [filtered_adoptInputs] using hsteady hsuppressed i hi
  | usbReport id state => exact h.usbReport hstep
  | setSuppressedDeviceIds ids | bind slotId connectionId | unbind slotId =>
    cases hstep
    exact ⟨h.known, h.latched, h.clean, h.pristine, h.routed, h.mirrored⟩
  | session id conn =>
    cases hstep
    exact h.session hsteady
  | republish slotIds =>
    cases hstep
    exact h.republish hsteady

theorem mirrors_of_run {acts : List Act} (hsteady : Along step Steady {} acts)
    (hrun : run {} acts = some r)
    : r.Mirrors := by
  refine invariant_of_along (fun _ _ _ h hsteady hstep => h.step hsteady hstep) ?_ hsteady
    hrun
  constructor <;> simp

end

theorem held_current (r : Routing) (acts : List Act) (hsteady : Along step Steady {} acts)
    (hrun : run {} acts = some r)
    : ∀ slotId device i target, r.devices slotId = some device → device.index = some i →
        r.table i = some target →
        held target slotId r.sent = r.filtered i device.state := by
  exact (mirrors_of_run hsteady hrun).mirrored

instance (r : Routing) (a : Act) : Decidable (r.Steady a) := by
  cases a with
  | pump id evs =>
    unfold Steady
    dsimp only
    split <;> infer_instance
  | _ => unfold Steady; infer_instance

def deskPc : Models.DiscoveredServer where
  name := "Desk"
  machineId := "d35c"

def deskSession : WifiConnection deskPc.id where
  obj := 0
  server := .self deskPc
  state := .Live
  client := some
    { serial := 1, server := .self deskPc, token := [], sessionKey := [], settledVersion := 3 }
  connectionId := some "c1"
  boundSlotId := some (sdlId 1)
  slots := (∅ : Std.TreeMap String SlotBinding).insert (sdlId 1) { registered := true }

def deskTarget : Target where
  connectionId := deskPc.id
  client := 1
  controllerIndex := 0

def pressA : Act :=
  .pump (sdlId 1) [.button (some .A) true]

def pressedAfter : List Act :=
  [.attach 1 {}, .session deskPc.id (some deskSession), .bind (sdlId 1) deskPc.id,
    .republish [sdlId 1], pressA]

theorem held_current_pressed
    : ∃ r, run {} pressedAfter = some r ∧ r.table 0 = some deskTarget ∧
        held deskTarget (sdlId 1) r.sent = { wButtons := 0x1000 } ∧
        ∀ slotId device i target, r.devices slotId = some device → device.index = some i →
          r.table i = some target → held target slotId r.sent = r.filtered i device.state := by
  have hany : (run {} pressedAfter).any (fun r => r.table 0 = some deskTarget ∧
      held deskTarget (sdlId 1) r.sent = { wButtons := 0x1000 }) = true := by
    decide +kernel
  obtain ⟨r, hrun, hr⟩ := exists_run_of_any hany
  have hr := of_decide_eq_true hr
  exact ⟨r, hrun, hr.1, hr.2, held_current r pressedAfter (by decide +kernel) hrun⟩

theorem held_before_bind
    : ∃ acts r device, run {} acts = some r ∧ r.devices (sdlId 1) = some device ∧
        device.index = some 0 ∧ r.table 0 = some deskTarget ∧
        r.sendTarget deskPc.id = some deskTarget ∧
        held deskTarget (sdlId 1) r.sent ≠ r.filtered 0 device.state := by
  have hany : (run {} [.attach 1 {}, pressA, .session deskPc.id (some deskSession),
      .bind (sdlId 1) deskPc.id, .republish [sdlId 1]]).any (fun r =>
        (r.devices (sdlId 1)).any fun device => device.index = some 0 ∧ r.table 0 = some deskTarget ∧
          r.sendTarget deskPc.id = some deskTarget ∧
          held deskTarget (sdlId 1) r.sent ≠ r.filtered 0 device.state) = true := by
    decide +kernel
  obtain ⟨r, hrun, hr⟩ := exists_run_of_any hany
  obtain ⟨device, hdevice, hr⟩ := (Option.any_eq_true _ _).mp hr
  exact ⟨_, r, device, hrun, hdevice, of_decide_eq_true hr⟩

end Routing

end Input
