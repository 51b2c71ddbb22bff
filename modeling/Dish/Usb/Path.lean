import Dish.Lib.Transition
import Dish.Reducer.UsbPathMachine

/-!
This module contains the runs of the USB path machine.
-/

open Transition

namespace Reducer

variable {c : UsbController} {event : UsbEvent}

def UsbController.tracked (vendorId productId : UInt16) (name : String) (desired : PathChoice)
    (frameworkExpected : Bool) : UsbController where
  vendorId
  productId
  name
  phase := .Routed
  usbPresent := true
  hasPermission := true
  desired
  frameworkExpected

structure UsbPath where
  controller : Option UsbController
  effects : List UsbEffect := []
  deriving DecidableEq

namespace UsbPath

def track (c : UsbController) : UsbPath where
  controller := some c

def step (p : UsbPath) (event : UsbEvent) : Option UsbPath :=
  p.controller.map fun c =>
    let r := reduce c event
    { controller := r.next, effects := p.effects ++ r.effects }

def run : UsbPath → List UsbEvent → Option UsbPath :=
  Transition.run step

theorem step_eq_some {p p' : UsbPath}
    : p.step event = some p' ↔
      ∃ c, p.controller = some c ∧
        p' = ⟨(reduce c event).next, p.effects ++ (reduce c event).effects⟩ := by
  cases p with
  | mk controller effects => cases controller <;> simp [step, eq_comm]

def lastPref : List UsbEffect → Option PathChoice
  | [] => none
  | .SetPref choice :: fx => (lastPref fx).or (some choice)
  | _ :: fx => lastPref fx

@[grind =]
theorem lastPref_append (fx fx' : List UsbEffect)
    : lastPref (fx ++ fx') = (lastPref fx').or (lastPref fx) := by
  fun_induction lastPref fx with
  | case1 => simp
  | case2 choice fx ih => simp [lastPref, ih]
  | case3 effect fx hpref ih => simp [lastPref, ih]

@[grind =]
theorem lastPref_removeSynthetic (c : UsbController) : lastPref (removeSynthetic c) = none := by
  unfold removeSynthetic
  split <;> rfl

@[grind =]
theorem lastPref_notifyUser (c : UsbController) (notice : UsbNotice)
    : lastPref (notifyUser c notice) = none := by
  unfold notifyUser
  split <;> rfl

theorem lastPref_bindReturnedFramework (c : UsbController) (id : Int) (extra : List UsbEffect)
    : lastPref (bindReturnedFramework c id extra).effects =
      (lastPref extra).or (some .Standard) := by
  unfold bindReturnedFramework
  split <;> simp [lastPref]

@[grind =]
theorem lastPref_awaitingFrameworkUp (c : UsbController) (id : Int)
    : lastPref (awaitingFrameworkUp c id).effects = some .Standard := by
  unfold awaitingFrameworkUp
  split <;>
    simp [lastPref_bindReturnedFramework, lastPref_notifyUser, lastPref]

@[grind =]
theorem lastPref_restoreStuckFrameworkUp (c : UsbController) (id : Int)
    : lastPref (restoreStuckFrameworkUp c id).effects = some .Standard := by
  simp [restoreStuckFrameworkUp, lastPref_bindReturnedFramework, lastPref]

def InPhase (p : UsbPath) (phase : UsbPhase) : Prop :=
  ∃ c, p.controller = some c ∧ c.phase = phase

instance (p : UsbPath) (phase : UsbPhase) : Decidable (p.InPhase phase) :=
  match h : p.controller with
  | none => isFalse (by simp [InPhase, h])
  | some c => decidable_of_iff (c.phase = phase) (by simp [InPhase, h])

end UsbPath

def UsbController.endsAttempt (c : UsbController) : UsbEvent → Bool
  | .ClaimFailed .. => c.phase = .Claiming ∨ c.phase = .RestoreStuck
  | .PermissionDenied => c.phase = .Routed ∧ c.desired = .Direct
  | .ClaimUnreadable => c.phase = .Direct
  | _ => false

def UsbEvent.choosesDirect : UsbEvent → Bool
  | .Choose choice _ => choice = .Direct
  | _ => false

/-- The events after which a pad that needs a replug goes on wishing for Direct. -/
def UsbController.wishesUnplugged (c : UsbController) : UsbEvent → Bool
  | .ClaimFailed .. => c.phase = .RestoreStuck
  | .Choose choice _ => choice = .Direct ∧ c.phase = .NeedsReplug
  | _ => false

def UsbPhase.unclaimed : UsbPhase → Bool
  | .Routed | .NeedsReplug => true
  | _ => false

/--
A pad that is routed, or will be as soon as it is plugged, is on Standard and has it persisted.
-/
structure UsbPath.Settles (p : UsbPath) : Prop where
  notClaiming : ∀ c, p.controller = some c → c.phase ≠ .Claiming
  desired : ∀ c, p.controller = some c → c.phase.unclaimed → c.desired = .Standard
  lastPref : ∀ c, p.controller = some c → c.phase.unclaimed →
    UsbPath.lastPref p.effects = some .Standard

structure Reduction.Settles (settled : Prop) (r : Reduction) : Prop where
  notClaiming : ∀ c', r.next = some c' → c'.phase ≠ .Claiming
  desired : ∀ c', r.next = some c' → c'.phase.unclaimed → c'.desired = .Standard
  lastPref : ∀ c', r.next = some c' → c'.phase.unclaimed →
    UsbPath.lastPref r.effects = some .Standard ∨
      UsbPath.lastPref r.effects = none ∧ settled

theorem settles_of_endsAttempt
    (hends : c.endsAttempt event) (hwish : c.wishesUnplugged event = false)
    : (reduce c event).Settles False := by
  constructor <;> cases event <;>
    grind [UsbController.endsAttempt, UsbController.wishesUnplugged, UsbPath.lastPref,
      UsbPhase.unclaimed, reduce, reduceRouted, reduceClaiming, reduceDirect,
      routedPermissionDenied, claimingLostTheFramework, claimingSettledOnStandard, directUnreadable,
      directUnreadableAwaitingFramework, directUnreadableSettledOnStandard]

theorem reduce_settles (hphase : c.phase ≠ .Claiming)
    (hdesired : c.phase.unclaimed → c.desired = .Standard)
    (hwish : c.wishesUnplugged event = false)
    (hchoose : c.phase = .Routed → event.choosesDirect = false)
    : (reduce c event).Settles c.phase.unclaimed := by
  constructor <;> cases event <;>
    grind [cases PathChoice, UsbController.wishesUnplugged, UsbEvent.choosesDirect,
      UsbPath.lastPref, UsbPhase.unclaimed, reduce, reduceUnplugged, reduceRouted, reduceDirect,
      reduceAwaiting, reduceRestoreStuck, reduceNeedsReplug, adoptFrameworkId, routedFrameworkDown,
      routedPermissionGranted, routedChoose, startClaim, stay, routedPermissionDenied, directChoose,
      releaseWithNoFrameworkToWaitFor, releaseAndAwaitFramework, directUnreadable,
      directUnreadableAwaitingFramework, directUnreadableSettledOnStandard, awaitingFrameworkUp,
      bindReturnedFramework, awaitingTimedOutWithSynthetic, awaitingTimedOutWithNothing,
      markPermissionGranted, restoreStuckChoose, restoreStuckClaimSucceeded,
      restoreStuckClaimFailed, restoreStuckFrameworkUp]

def claims (fx : List UsbEffect) : Bool :=
  .Claim ∈ fx ∨ .Reclaim ∈ fx

@[grind =]
theorem claims_append (fx fx' : List UsbEffect)
    : claims (fx ++ fx') = (claims fx || claims fx') := by
  grind [claims]

@[grind =]
theorem claims_removeSynthetic (c : UsbController) : claims (removeSynthetic c) = false := by
  unfold removeSynthetic
  split <;> rfl

@[grind =]
theorem claims_notifyUser (c : UsbController) (notice : UsbNotice)
    : claims (notifyUser c notice) = false := by
  unfold notifyUser
  split <;> rfl

theorem claims_bindReturnedFramework (c : UsbController) (id : Int) (extra : List UsbEffect)
    : claims (bindReturnedFramework c id extra).effects = claims extra := by
  unfold bindReturnedFramework
  split <;> simp [claims]

@[grind =]
theorem claims_awaitingFrameworkUp (c : UsbController) (id : Int)
    : claims (awaitingFrameworkUp c id).effects = false := by
  unfold awaitingFrameworkUp
  split
  next =>
    rw [claims_bindReturnedFramework, claims_append, claims_notifyUser]
    rfl
  next =>
    rw [claims_bindReturnedFramework]
    rfl

@[grind =]
theorem claims_awaitingTimedOutWithNothing (c : UsbController)
    : claims (awaitingTimedOutWithNothing c).effects = false := by
  rfl

@[grind =]
theorem claims_restoreStuckFrameworkUp (c : UsbController) (id : Int)
    : claims (restoreStuckFrameworkUp c id).effects = false := by
  apply claims_bindReturnedFramework

theorem claims_reduce (h : claims (reduce c event).effects)
    : (∃ c', (reduce c event).next = some c' ∧ c'.phase = .Claiming) ∨ event.choosesDirect := by
  cases event <;>
    grind [cases PathChoice, UsbEvent.choosesDirect, claims, reduce, reduceUnplugged, reduceRouted,
      reduceClaiming, reduceDirect, reduceAwaiting, reduceRestoreStuck, reduceNeedsReplug,
      adoptFrameworkId, routedFrameworkDown, routedPermissionGranted, routedChoose, startClaim,
      stay, claimingSucceeded, claimingLostTheFramework, claimingSettledOnStandard,
      routedPermissionDenied, directChoose, releaseWithNoFrameworkToWaitFor,
      releaseAndAwaitFramework, directUnreadable, directUnreadableAwaitingFramework,
      directUnreadableSettledOnStandard, awaitingTimedOutWithSynthetic, awaitingTimedOutWithNothing,
      markPermissionGranted, restoreStuckChoose, restoreStuckClaimSucceeded,
      restoreStuckClaimFailed]

namespace UsbPath

variable {p p' : UsbPath}

def NotWished (p : UsbPath) (event : UsbEvent) : Prop :=
  ∀ c ∈ p.controller, c.wishesUnplugged event = false

instance (p : UsbPath) (event : UsbEvent) : Decidable (p.NotWished event) :=
  inferInstanceAs (Decidable (∀ c ∈ p.controller, c.wishesUnplugged event = false))

theorem settles_of_reduction {fx : List UsbEffect} {settled : Prop} {r : Reduction}
    (hr : r.Settles settled) (hfx : settled → lastPref fx = some .Standard)
    : Settles ⟨r.next, fx ++ r.effects⟩ := by
  constructor
  . exact hr.notClaiming
  . exact hr.desired
  . intro c' hc' hphase
    rw [lastPref_append]
    rcases hr.lastPref c' hc' hphase with hpref | ⟨hpref, hwas⟩
    . simp [hpref]
    . simp [hpref, hfx hwas]

theorem Settles.of_endsAttempt
    (hc : p.controller = some c) (hends : c.endsAttempt event) (hP : p.NotWished event)
    (hstep : p.step event = some p')
    : p'.Settles := by
  obtain ⟨d, hd, rfl⟩ := step_eq_some.mp hstep
  cases Option.some.inj (hc.symm.trans hd)
  exact settles_of_reduction (settles_of_endsAttempt hends (hP c hc)) False.elim

theorem Settles.step (h : p.Settles) (hP : p.NotWished event)
    (hchoose : p.InPhase .Routed → event.choosesDirect = false) (hstep : p.step event = some p')
    : p'.Settles := by
  obtain ⟨c, hc, rfl⟩ := step_eq_some.mp hstep
  apply settles_of_reduction
  . apply reduce_settles (h.notClaiming c hc) (h.desired c hc) (hP c hc)
    intro hphase
    exact hchoose ⟨c, hc, hphase⟩
  . exact h.lastPref c hc

theorem quiet_of_step (hstep : p.step event = some p')
    (h : p'.Settles) (hchoose : event.choosesDirect = false)
    : ∃ fx, p'.effects = p.effects ++ fx ∧ claims fx = false := by
  obtain ⟨c, hc, rfl⟩ := step_eq_some.mp hstep
  refine ⟨(reduce c event).effects, rfl, ?_⟩
  rw [← Bool.not_eq_true]
  intro hclaims
  rcases claims_reduce hclaims with ⟨c', hc', hphase⟩ | hdirect
  . exact h.notClaiming c' hc' hphase
  . simp [hchoose] at hdirect

def QuietSince (fx₀ : List UsbEffect) (p : UsbPath) : Prop :=
  ∃ fx, p.effects = fx₀ ++ fx ∧ claims fx = false

theorem QuietSince.step {fx₀ : List UsbEffect}
    (hquiet : p.QuietSince fx₀) (hstep : p.step event = some p') (h : p'.Settles)
    (hchoose : event.choosesDirect = false)
    : p'.QuietSince fx₀ := by
  obtain ⟨fx, hfx, hno⟩ := hquiet
  obtain ⟨fx', hfx', hno'⟩ := quiet_of_step hstep h hchoose
  refine ⟨fx ++ fx', ?_, ?_⟩
  . rw [hfx', hfx, List.append_assoc]
  . rw [claims_append, hno, hno']
    rfl

theorem standard_after_failed_attempt {vendorId productId : UInt16} {name : String}
    {desired : PathChoice} {frameworkExpected : Bool} {es₁ es₂ : List UsbEvent} {event : UsbEvent}
    {c : UsbController} {p₁ p p₂ : UsbPath}
    (h₁ : run (track (.tracked vendorId productId name desired frameworkExpected)) es₁ = some p₁)
    (hc : p₁.controller = some c) (hends : c.endsAttempt event) (hfail : p₁.step event = some p)
    (h₂ : run p es₂ = some p₂)
    (hP : Along step NotWished
      (track (.tracked vendorId productId name desired frameworkExpected)) (es₁ ++ event :: es₂))
    : (Along step (fun p _ => ¬p.InPhase .Routed) p es₂ →
        ∀ c₂, p₂.controller = some c₂ → c₂.phase = .Routed →
          c₂.desired = .Standard ∧ lastPref p₂.effects = some .Standard) ∧
      ((∀ e ∈ es₂, e.choosesDirect = false) →
        ∃ fx, p₂.effects = p₁.effects ++ fx ∧ .Claim ∉ fx ∧ .Reclaim ∉ fx) := by
  have hP := along_of_append_right h₁ hP
  have hsettles := Settles.of_endsAttempt hc hends hP.1 hfail
  have hafter := hP.2 p hfail
  constructor
  . intro hnext c₂ hc₂ hphase
    have hlast := invariant_of_along (I := Settles)
      (fun q e q' hq hQ hstep => hq.step hQ.1 (fun hin => absurd hin hQ.2) hstep)
      hsettles (along_and hafter hnext) h₂
    exact ⟨hlast.desired c₂ hc₂ (by simp [hphase, UsbPhase.unclaimed]),
      hlast.lastPref c₂ hc₂ (by simp [hphase, UsbPhase.unclaimed])⟩
  . intro hchoose
    have hquiet : p.QuietSince p₁.effects := by
      apply quiet_of_step hfail hsettles
      cases event <;> simp_all [UsbController.endsAttempt, UsbEvent.choosesDirect]
    have hnone : Along step (fun _ e => e.choosesDirect = false) p es₂ :=
      along_of_forall fun e he _ => hchoose e he
    have hlast := invariant_of_along
      (I := fun q => q.Settles ∧ q.QuietSince p₁.effects)
      (fun q e q' hq hQ hstep =>
        have hq' := hq.1.step hQ.1 (fun _ => hQ.2) hstep
        ⟨hq', hq.2.step hstep hq' hQ.2⟩)
      ⟨hsettles, hquiet⟩ (along_and hafter hnone) h₂
    obtain ⟨fx, hfx, hno⟩ := hlast.2
    refine ⟨fx, hfx, ?_⟩
    simpa [claims] using hno

theorem standard_after_stolen_claim
    : ∃ p₁ p p₂,
      run (track (.tracked 0x54C 0xCE6 "DualSense" .Direct true)) [.Choose .Direct false] =
          some p₁ ∧
        p₁.step (.ClaimFailed .Busy true) = some p ∧ run p [.FrameworkUp 3] = some p₂ ∧
        lastPref p₂.effects = some .Standard ∧
        ∃ fx, p₂.effects = p₁.effects ++ fx ∧ .Claim ∉ fx := by
  refine ⟨_, _, _, rfl, rfl, rfl, ?_⟩
  have h := @standard_after_failed_attempt 0x54C 0xCE6 "DualSense" .Direct true
    [.Choose .Direct false] [.FrameworkUp 3] (.ClaimFailed .Busy true) _ _ _ _ rfl rfl (by decide)
    rfl rfl (by decide)
  obtain ⟨fx, hfx, hno, _⟩ := h.2 (by decide)
  exact ⟨(h.1 (by decide) _ rfl rfl).2, fx, hfx, hno⟩

theorem direct_after_failed_reclaim
    : ∃ p₁ c p p₂ c₂ p₃,
      run (track (.tracked 0x54C 0xCE6 "DualSense" .Direct true))
          [.Choose .Direct false, .ClaimSucceeded (-1), .Choose .Standard true, .Timeout,
            .Choose .Direct true] = some p₁ ∧
        p₁.controller = some c ∧ c.endsAttempt (.ClaimFailed .Dropped false) ∧
        p₁.step (.ClaimFailed .Dropped false) = some p ∧ run p [.FrameworkUp 3] = some p₂ ∧
        Along step (fun p _ => ¬p.InPhase .Routed) p [.FrameworkUp 3] ∧
        p₂.controller = some c₂ ∧ c₂.phase = .Routed ∧ c₂.desired = .Direct ∧
        lastPref p₂.effects = none ∧ p₂.step .PermissionGranted = some p₃ ∧
        p₃.effects = p₂.effects ++ [.ClearFailure, .BeginHold, .Claim] := by
  refine ⟨_, _, _, _, _, _, rfl, rfl, by decide, rfl, rfl, by decide, rfl, rfl, rfl, rfl, rfl, rfl⟩

end UsbPath

end Reducer
