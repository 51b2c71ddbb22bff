import Mathlib.Data.List.Basic
import Dish.Usb.GamepadManager

/-!
This module contains the rules that carry a property of the manager over a call.
-/

open Std Reducer

namespace Usb

namespace UsbGamepadManager

variable {gateway : Gateway} {I : UsbGamepadManager → Prop} {m m' : UsbGamepadManager}

structure Alike (m m' : UsbGamepadManager) : Prop where
  controllers : m'.controllers = m.controllers
  devices : m'.devices = m.devices
  attempts : m'.attempts = m.attempts
  claims : m'.claims = m.claims
  workers : m'.workers = m.workers

structure KeptByEffects (gateway : Gateway) (I : UsbGamepadManager → Prop) : Prop where
  alike : ∀ m m', I m → Alike m m' → I m'
  reduced : ∀ m (key : Int) c event, m.controllers[key]? = some c → I m →
    I (m.setController key (reduce c event).next)
  claimed : ∀ m key, I m → I (claimTracked gateway m key).2
  started : ∀ m id key, I m → I (m.startWorker id key)
  released : ∀ m id, I m → I (m.releaseClaimAndWorker id)

section Effects

variable {feed : UsbGamepadManager → Int → UsbEvent → UsbGamepadManager}

theorem KeptByEffects.runClaim (h : KeptByEffects gateway I)
    (hfeed : ∀ m key event, I m → I (feed m key event)) (key : Int) (hm : I m)
    : I (runClaim feed gateway m key) := by
  have hclaimed := h.claimed m key hm
  unfold UsbGamepadManager.runClaim
  split
  next heq =>
    rw [heq] at hclaimed
    apply hfeed
    exact h.started _ _ _ hclaimed
  next heq =>
    rw [heq] at hclaimed
    exact hfeed _ _ _ hclaimed

theorem KeptByEffects.runReclaim (h : KeptByEffects gateway I)
    (hfeed : ∀ m key event, I m → I (feed m key event)) (key : Int) (c : UsbController) (hm : I m)
    : I (runReclaim feed gateway m key c) := by
  have hclaimed := h.claimed m key hm
  unfold UsbGamepadManager.runReclaim
  dsimp only
  generalize claimTracked gateway m key = answer at hclaimed ⊢
  have hreleased : ∀ old, I (answer.2.releaseClaimAndWorker old) :=
    fun old => h.released _ old hclaimed
  cases c.syntheticId with
  | none =>
    cases answer.1 with
    | success id => exact hfeed _ _ _ (h.started _ _ _ hclaimed)
    | fail reason frameworkStolen => exact hfeed _ _ _ hclaimed
  | some old =>
    cases answer.1 with
    | success id => exact hfeed _ _ _ (h.started _ _ _ (hreleased old))
    | fail reason frameworkStolen => exact hfeed _ _ _ (hreleased old)

theorem KeptByEffects.execute (h : KeptByEffects gateway I)
    (hfeed : ∀ m key event, I m → I (feed m key event)) (key : Int) (c : UsbController)
    (effect : UsbEffect) (hm : I m)
    : I (execute feed gateway m key c effect) := by
  cases effect with
  | Claim => exact h.runClaim hfeed key hm
  | Reclaim => exact h.runReclaim hfeed key c hm
  | Release =>
    unfold UsbGamepadManager.execute
    dsimp only
    split
    . exact h.released _ _ hm
    . exact hm
  | RequestPermission => exact hfeed _ _ _ hm
  | RemoveSynthetic id => exact h.released _ _ hm
  | SetPref choice | MarkFailure reason | ClearFailure =>
    exact h.alike m _ hm ⟨rfl, rfl, rfl, rfl, rfl⟩
  | _ => exact hm

end Effects

theorem KeptByEffects.applyEventWithin (h : KeptByEffects gateway I) (depth : Nat) (m key event)
    (hm : I m)
    : I (applyEventWithin gateway depth m key event) := by
  induction depth generalizing m key event with
  | zero => exact hm
  | succ depth ih =>
    unfold UsbGamepadManager.applyEventWithin
    split
    next => exact hm
    next c hc =>
      dsimp only
      apply List.foldlRecOn
      . exact h.reduced m key c event hc hm
      . intro m hm effect _
        exact h.execute ih key _ effect hm

structure KeptByCalls (gateway : Gateway) (I : UsbGamepadManager → Prop) : Prop where
  alike : ∀ m m', I m → Alike m m' → I m'
  seen : ∀ m (device : UsbDeviceInfo), I m → I { m with devices := m.devices.insert device.vpKey device }
  unseen : ∀ m key, I m → I { m with devices := m.devices.erase key }
  tracked : ∀ m (device : UsbDeviceInfo) desired, m.controllers[device.vpKey]? = none → I m →
    I { m with
      controllers := m.controllers.insert device.vpKey
        (.tracked device.vendorId device.productId device.name desired
          (gateway.modelExpectsFrameworkGamepad device.vendorId device.productId)) }
  applied : ∀ m key event, (∀ id, event ≠ .ClaimSucceeded id) → I m →
    I (m.applyEvent gateway key event)

section Calls

theorem KeptByCalls.ensureTracked (h : KeptByCalls gateway I) (device : UsbDeviceInfo) (hm : I m)
    : I (m.ensureTracked gateway device) := by
  have hseen := h.seen m device hm
  unfold UsbGamepadManager.ensureTracked
  dsimp only
  split
  next => exact hseen
  next hnew =>
    apply h.applied _ _ _ (by simp)
    apply h.tracked _ device _ _ hseen
    simpa using hnew

theorem KeptByCalls.onUsbGone (h : KeptByCalls gateway I) (vendorId productId : UInt16) (hm : I m)
    : I (m.onUsbGone gateway vendorId productId) := by
  have hunseen := h.unseen _ (vpKey vendorId productId)
    (h.applied m (vpKey vendorId productId) .UsbUnplugged (by simp) hm)
  exact h.alike _ _ hunseen ⟨rfl, rfl, rfl, rfl, rfl⟩

theorem KeptByCalls.judgeClaim (h : KeptByCalls gateway I) (scan : Scan) (key : Int) (hm : I m)
    : I (m.judgeClaim gateway scan key) := by
  have halike : ∀ directScans, I { m with directScans } :=
    fun directScans => h.alike m _ hm ⟨rfl, rfl, rfl, rfl, rfl⟩
  unfold UsbGamepadManager.judgeClaim
  dsimp only
  split
  next => exact halike _
  next =>
    split
    next =>
      split
      next => exact h.applied _ _ _ (by simp) (halike _)
      next => exact halike _
    next => exact halike _

theorem KeptByCalls.scanDevice (h : KeptByCalls gateway I) (scan : Scan) (device : UsbDeviceInfo)
    (hm : I m)
    : I (m.scanDevice gateway scan device) := by
  unfold UsbGamepadManager.scanDevice
  dsimp only
  apply h.judgeClaim
  apply h.ensureTracked
  split
  next => exact h.onUsbGone _ _ hm
  next => exact hm

theorem KeptByCalls.reconcile (h : KeptByCalls gateway I) (scan : Scan) (hm : I m)
    : I (m.reconcile gateway scan) := by
  have hscanned : I (scan.devices.foldl (UsbGamepadManager.scanDevice gateway scan) m) := by
    apply List.foldlRecOn
    . exact hm
    . intro m hm device _
      exact h.scanDevice scan device hm
  unfold UsbGamepadManager.reconcile
  dsimp only
  apply List.foldlRecOn
  . exact h.alike _ _ hscanned ⟨rfl, rfl, rfl, rfl, rfl⟩
  . intro m hm model _
    exact h.onUsbGone _ _ hm

theorem KeptByCalls.trackPresent (h : KeptByCalls gateway I) (devices : List UsbDeviceInfo)
    (vendorId productId : UInt16) (hm : I m)
    : I (m.trackPresent gateway devices vendorId productId) := by
  unfold UsbGamepadManager.trackPresent
  split
  next => exact h.ensureTracked _ hm
  next => exact hm

theorem KeptByCalls.call (h : KeptByCalls gateway I) (call : Call) (hm : I m)
    : I (m.call gateway call) := by
  cases call with
  | reconcile scan => exact h.reconcile scan hm
  | setPathChoice devices vendorId productId choice | clearChoice devices vendorId productId =>
    apply h.applied _ _ _ (by simp)
    apply h.trackPresent
    exact h.alike m _ hm ⟨rfl, rfl, rfl, rfl, rfl⟩
  | onFrameworkUp vendorId productId frameworkId | onFrameworkDown vendorId productId
  | fireTimeout vendorId productId => exact h.applied _ _ _ (by simp) hm
  | onUsbGone vendorId productId => exact h.onUsbGone _ _ hm

end Calls

end UsbGamepadManager

end Usb
