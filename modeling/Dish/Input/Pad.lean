import Dish.Lib.Last
import Dish.Input.Processor

/-!
This module contains a game controller as the SDL thread keeps it.
-/

namespace Input

inductive SdlAxis where
  | LeftX
  | LeftY
  | RightX
  | RightY
  | TriggerLeft
  | TriggerRight
  deriving DecidableEq

inductive SdlButton where
  | A
  | B
  | X
  | Y
  | Back
  | Guide
  | Start
  | LeftStick
  | RightStick
  | LeftShoulder
  | RightShoulder
  | DpadUp
  | DpadDown
  | DpadLeft
  | DpadRight
  | Misc1
  | Paddle1
  | Paddle2
  | Paddle3
  | Paddle4
  | Touchpad
  deriving DecidableEq

inductive TouchpadEventType where
  | Down
  | Motion
  | Up
  deriving DecidableEq

inductive SdlEvent where
  | axisMotion (axis : Option SdlAxis) (value : Int16)
  | button (button : Option SdlButton) (pressed : Bool)
  | touchpad (type : TouchpadEventType) (finger : Int) (x y : Int16)
  deriving DecidableEq

structure ControllerShadow where
  axes : SdlAxis → Int16 := fun _ => 0
  buttons : SdlButton → Bool := fun _ => false

namespace ControllerShadow

def apply (shadow : ControllerShadow) : SdlEvent → ControllerShadow × Bool
  | .axisMotion (some axis) value =>
    ({ shadow with axes := Function.update shadow.axes axis value }, true)
  | .button (some button) pressed =>
    ({ shadow with buttons := Function.update shadow.buttons button pressed }, true)
  | .axisMotion none _ | .button none _ | .touchpad .. => (shadow, false)

def pressed (shadow : ControllerShadow) (button : SdlButton) : Bool :=
  shadow.buttons button

def kButtonBits : List (SdlButton × UInt16) :=
  [(.DpadUp, 0x0001), (.DpadDown, 0x0002), (.DpadLeft, 0x0004), (.DpadRight, 0x0008),
    (.Start, 0x0010), (.Back, 0x0020), (.LeftStick, 0x0040), (.RightStick, 0x0080),
    (.LeftShoulder, 0x0100), (.RightShoulder, 0x0200), (.Guide, 0x0400), (.A, 0x1000),
    (.B, 0x2000), (.X, 0x4000), (.Y, 0x8000)]

def wButtons (shadow : ControllerShadow) : UInt16 :=
  kButtonBits.foldl (fun bits entry => if shadow.pressed entry.1 then bits ||| entry.2 else bits) 0

end ControllerShadow

def triggerFromAxis (v : Int16) : UInt8 :=
  if v ≤ 0 then 0 else .ofNat (v.toInt.toNat * 255 / 32767)

def invertStickAxis (v : Int16) : Int16 :=
  .ofInt (min (-v.toInt) 32767)

def mapGamepad (shadow : ControllerShadow) : DeviceState where
  wButtons := shadow.wButtons
  lt := triggerFromAxis (shadow.axes .TriggerLeft)
  rt := triggerFromAxis (shadow.axes .TriggerRight)
  lx := shadow.axes .LeftX
  ly := invertStickAxis (shadow.axes .LeftY)
  rx := shadow.axes .RightX
  ry := invertStickAxis (shadow.axes .RightY)

structure TouchFinger where
  active : Bool := false
  id : UInt8 := 0
  x : Int16 := 0
  y : Int16 := 0
  deriving DecidableEq

structure TouchState where
  finger0 : TouchFinger := {}
  finger1 : TouchFinger := {}
  deriving DecidableEq

def TouchFinger.apply (f : TouchFinger) (type : TouchpadEventType) (x y : Int16) : TouchFinger :=
  match type with
  | .Up => { f with active := false }
  | .Down => { active := true, id := if f.active then f.id else f.id + 1, x, y }
  | .Motion => { f with active := true, x, y }

def applyTouchFinger (ts : TouchState) (type : TouchpadEventType) (finger : Int) (x y : Int16)
    : TouchState :=
  if finger = 0 then { ts with finger0 := ts.finger0.apply type x y }
  else if finger = 1 then { ts with finger1 := ts.finger1.apply type x y }
  else ts

structure TouchpadSample where
  finger0 : TouchFinger := {}
  finger1 : TouchFinger := {}
  buttonPressed : Bool := false
  deriving DecidableEq

structure Pad where
  index : Option (Fin kMaxDevices) := none
  suppressed : Bool := false
  shadow : ControllerShadow := {}
  touch : TouchState := {}
  dirty : Bool := false

inductive Published where
  | report (state : DeviceState)
  | touchpad (sample : TouchpadSample)
  deriving DecidableEq

namespace Pad

def sample (pad : Pad) : TouchpadSample where
  finger0 := pad.touch.finger0
  finger1 := pad.touch.finger1
  buttonPressed := pad.shadow.pressed .Touchpad

def publishes (pad : Pad) : Bool :=
  !pad.suppressed && pad.index.isSome

def handleTouchpadEvent (pad : Pad) (type : TouchpadEventType) (finger : Int) (x y : Int16)
    : Pad × List Published :=
  let pad := { pad with touch := applyTouchFinger pad.touch type finger x y }
  (pad, if pad.publishes then [.touchpad pad.sample] else [])

def dispatchSdlEvent (pad : Pad) (ev : SdlEvent) : Pad × List Published :=
  match ev with
  | .axisMotion .. | .button .. =>
    let (shadow, changed) := pad.shadow.apply ev
    ({ pad with shadow, dirty := pad.dirty || changed }, [])
  | .touchpad type finger x y => pad.handleTouchpadEvent type finger x y

def rebuildState (pad : Pad) : List Published :=
  if pad.publishes then [.report (mapGamepad pad.shadow)] else []

def rebuildDirty (pad : Pad) : Pad × List Published :=
  if pad.dirty then ({ pad with dirty := false }, pad.rebuildState) else (pad, [])

def dispatchAll (pad : Pad) : List SdlEvent → Pad × List Published
  | [] => (pad, [])
  | ev :: evs =>
    let (pad, out) := pad.dispatchSdlEvent ev
    let (pad, out') := pad.dispatchAll evs
    (pad, out ++ out')

def pumpOnce (pad : Pad) (evs : List SdlEvent) : Pad × List Published :=
  let (pad, out) := pad.dispatchAll evs
  let (pad, out') := pad.rebuildDirty
  (pad, out ++ out')

def run (pad : Pad) : List (List SdlEvent) → Pad × List Published
  | [] => (pad, [])
  | evs :: pumps =>
    let (pad, out) := pad.pumpOnce evs
    let (pad, out') := pad.run pumps
    (pad, out ++ out')

end Pad

def SdlEvent.isTouch : SdlEvent → Bool
  | .touchpad .. => true
  | .axisMotion .. | .button .. => false

def SdlEvent.isClick : SdlEvent → Bool
  | .button (some .Touchpad) _ => true
  | _ => false

def touchpadOf : Published → Option TouchpadSample
  | .touchpad sample => some sample
  | .report _ => none

def clicksFollowed : List SdlEvent → Bool
  | [] => true
  | ev :: evs => (!ev.isClick || evs.any SdlEvent.isTouch) && clicksFollowed evs

namespace Pad

section

variable {pad : Pad} {ev : SdlEvent} {evs : List SdlEvent}

theorem publishes_dispatchSdlEvent : (pad.dispatchSdlEvent ev).1.publishes = pad.publishes := by
  cases ev <;> rfl

theorem dispatchSdlEvent_of_touch (h : ev.isTouch = true) (hpad : pad.publishes = true)
    : (pad.dispatchSdlEvent ev).2 = [.touchpad (pad.dispatchSdlEvent ev).1.sample] := by
  cases ev with
  | axisMotion axis value => contradiction
  | button button pressed => contradiction
  | touchpad type finger x y =>
    dsimp only [dispatchSdlEvent, handleTouchpadEvent]
    rw [if_pos]
    exact hpad

theorem dispatchSdlEvent_of_other (htouch : ev.isTouch = false) (hclick : ev.isClick = false)
    : (pad.dispatchSdlEvent ev).1.sample = pad.sample ∧ (pad.dispatchSdlEvent ev).2 = [] := by
  cases ev with
  | axisMotion axis value => cases axis <;> exact ⟨rfl, rfl⟩
  | button button pressed =>
    cases button with
    | none => exact ⟨rfl, rfl⟩
    | some button =>
      refine ⟨?_, rfl⟩
      have hbutton : SdlButton.Touchpad ≠ button := by
        rintro rfl
        contradiction
      simp [sample, dispatchSdlEvent, ControllerShadow.apply, ControllerShadow.pressed,
        Function.update_of_ne hbutton]
  | touchpad type finger x y => contradiction

theorem dispatchAll_cons
    : pad.dispatchAll (ev :: evs) =
      (((pad.dispatchSdlEvent ev).1.dispatchAll evs).1,
        (pad.dispatchSdlEvent ev).2 ++ ((pad.dispatchSdlEvent ev).1.dispatchAll evs).2) := by
  rfl

theorem publishes_dispatchAll : (pad.dispatchAll evs).1.publishes = pad.publishes := by
  induction evs generalizing pad with
  | nil => rfl
  | cons ev evs ih =>
    rw [dispatchAll_cons, ih]
    exact publishes_dispatchSdlEvent

theorem dispatchAll_of_other (htouch : evs.any SdlEvent.isTouch = false)
    (hclick : evs.any SdlEvent.isClick = false)
    : (pad.dispatchAll evs).1.sample = pad.sample ∧ (pad.dispatchAll evs).2 = [] := by
  induction evs generalizing pad with
  | nil => exact ⟨rfl, rfl⟩
  | cons ev evs ih =>
    simp only [List.any_cons, Bool.or_eq_false_iff] at htouch hclick
    have hev := @dispatchSdlEvent_of_other pad ev htouch.1 hclick.1
    have hevs := @ih (pad.dispatchSdlEvent ev).1 htouch.2 hclick.2
    rw [dispatchAll_cons]
    simp [hevs.1, hev.1, hevs.2, hev.2]

theorem any_isClick_of_followed (h : clicksFollowed evs = true)
    (htouch : evs.any SdlEvent.isTouch = false)
    : evs.any SdlEvent.isClick = false := by
  induction evs with
  | nil => rfl
  | cons ev evs ih =>
    simp only [clicksFollowed, Bool.and_eq_true, Bool.or_eq_true, Bool.not_eq_true'] at h
    simp only [List.any_cons, Bool.or_eq_false_iff] at htouch ⊢
    refine ⟨?_, ih h.2 htouch.2⟩
    simpa [htouch.2] using h.1

theorem dispatchAll_current (hpad : pad.publishes = true) (h : clicksFollowed evs = true)
    (htouch : evs.any SdlEvent.isTouch = true)
    : lastSome touchpadOf (pad.dispatchAll evs).2 = some (pad.dispatchAll evs).1.sample := by
  induction evs generalizing pad with
  | nil => contradiction
  | cons ev evs ih =>
    have hfollowed : clicksFollowed evs = true := (Bool.and_eq_true_iff.mp h).2
    have hpad' : (pad.dispatchSdlEvent ev).1.publishes = true :=
      publishes_dispatchSdlEvent.trans hpad
    rw [dispatchAll_cons, lastSome_append]
    cases hlater : evs.any SdlEvent.isTouch with
    | true =>
      rw [ih hpad' hfollowed hlater]
      rfl
    | false =>
      -- The touch is the first event, and nothing that follows it is about the touchpad.
      rw [List.any_cons, hlater, Bool.or_false] at htouch
      have hrest := @dispatchAll_of_other (pad.dispatchSdlEvent ev).1 evs hlater
        (any_isClick_of_followed hfollowed hlater)
      rw [hrest.1, hrest.2, dispatchSdlEvent_of_touch htouch hpad]
      rfl

theorem rebuildDirty_untouched
    : pad.rebuildDirty.1.sample = pad.sample ∧
      pad.rebuildDirty.1.publishes = pad.publishes ∧
      lastSome touchpadOf pad.rebuildDirty.2 = none := by
  unfold rebuildDirty rebuildState
  split
  . refine ⟨rfl, rfl, ?_⟩
    split <;> rfl
  . exact ⟨rfl, rfl, rfl⟩

theorem lastSome_pumpOnce
    : (pad.pumpOnce evs).1.sample = (pad.dispatchAll evs).1.sample ∧
      (pad.pumpOnce evs).1.publishes = pad.publishes ∧
      lastSome touchpadOf (pad.pumpOnce evs).2 =
        lastSome touchpadOf (pad.dispatchAll evs).2 := by
  have h := @rebuildDirty_untouched (pad.dispatchAll evs).1
  dsimp only [pumpOnce]
  rw [lastSome_append, h.2.2]
  exact ⟨h.1, h.2.1.trans publishes_dispatchAll, rfl⟩

theorem run_of_other {pumps : List (List SdlEvent)}
    (h : ∀ evs ∈ pumps, ∀ ev ∈ evs, ev.isTouch = false ∧ ev.isClick = false)
    : (pad.run pumps).1.sample = pad.sample ∧
      lastSome touchpadOf (pad.run pumps).2 = none := by
  induction pumps generalizing pad with
  | nil => exact ⟨rfl, rfl⟩
  | cons evs pumps ih =>
    have hevs := h evs List.mem_cons_self
    have hpump := @lastSome_pumpOnce pad evs
    have hother := @dispatchAll_of_other pad evs (by simp_all) (by simp_all)
    have hrest := @ih (pad.pumpOnce evs).1 fun evs' hmem => h evs' (List.mem_cons_of_mem _ hmem)
    dsimp only [run]
    rw [lastSome_append, hrest.1, hrest.2, hpump.1, hpump.2.2, hother.1, hother.2]
    exact ⟨rfl, rfl⟩

end

theorem sample_current_after_pumps {pad : Pad} {pumps : List (List SdlEvent)}
    (hpad : pad.publishes = true) (hpumps : ∀ evs ∈ pumps, clicksFollowed evs = true)
    (hseen : ∃ evs ∈ pumps, ∃ ev ∈ evs, ev.isTouch = true ∨ ev.isClick = true)
    : lastSome touchpadOf (pad.run pumps).2 = some (pad.run pumps).1.sample := by
  induction pumps generalizing pad with
  | nil => simp at hseen
  | cons evs pumps ih =>
    have hfollowed := hpumps evs List.mem_cons_self
    have hpump := @lastSome_pumpOnce pad evs
    dsimp only [run]
    rw [lastSome_append]
    by_cases hlater : ∃ evs ∈ pumps, ∃ ev ∈ evs, ev.isTouch = true ∨ ev.isClick = true
    . rw [ih (hpump.2.1.trans hpad) (fun evs' hmem => hpumps evs' (List.mem_cons_of_mem _ hmem))
        hlater]
      rfl
    . have hrest := @run_of_other (pad.pumpOnce evs).1 pumps (by simpa using hlater)
      have htouch : evs.any SdlEvent.isTouch = true := by
        by_contra hnone
        rw [Bool.not_eq_true] at hnone
        have hclick := any_isClick_of_followed hfollowed hnone
        obtain ⟨evs', hmem, ev, hev, hconcerns⟩ := hseen
        cases hmem with
        | head => grind
        | tail _ hmem => exact hlater ⟨evs', hmem, ev, hev, hconcerns⟩
      rw [hrest.1, hrest.2, hpump.1, hpump.2.2]
      rw [dispatchAll_current hpad hfollowed htouch]
      rfl

theorem sample_current_clicked
    : let pad : Pad := { index := some 0 }
      let pumps : List (List SdlEvent) :=
        [[.touchpad .Down 0 100 200], [.button (some .Touchpad) true, .touchpad .Motion 0 110 200]]
      lastSome touchpadOf (pad.run pumps).2 = some (pad.run pumps).1.sample ∧
        (pad.run pumps).1.sample.buttonPressed = true := by
  refine ⟨?_, by decide⟩
  apply sample_current_after_pumps
  . decide
  . decide
  . exact ⟨[.touchpad .Down 0 100 200], by decide, .touchpad .Down 0 100 200, by decide, by decide⟩

theorem click_not_published
    : let pad : Pad := { index := some 0 }
      let pumps : List (List SdlEvent) :=
        [[.touchpad .Down 0 100 200], [.button (some .Touchpad) true]]
      pad.publishes = true ∧
        lastSome touchpadOf (pad.run pumps).2 ≠ some (pad.run pumps).1.sample := by
  decide

end Pad

end Input
