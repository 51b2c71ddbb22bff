import Dish.Lib.Last
import Dish.Usb.Path

/-!
This module contains what a run of the USB path machine owes.
-/

open Transition

namespace Reducer

def holdOf : UsbEffect → Option Bool
  | .BeginHold => some true
  | .EndHold => some false
  | _ => none

def stuckOf : UsbEffect → Option Bool
  | .MarkRestoreStuck => some true
  | .ClearRestoreStuck => some false
  | _ => none

section

variable (c : UsbController) (id : Int)

@[grind =]
theorem holdOf_notifyUser (notice : UsbNotice) : lastSome holdOf (notifyUser c notice) = none := by
  unfold notifyUser
  split <;> rfl

@[grind =]
theorem stuckOf_notifyUser (notice : UsbNotice) : lastSome stuckOf (notifyUser c notice) = none := by
  unfold notifyUser
  split <;> rfl

@[grind =]
theorem holdOf_removeSynthetic : lastSome holdOf (removeSynthetic c) = none := by
  unfold removeSynthetic
  split <;> rfl

@[grind =]
theorem stuckOf_removeSynthetic : lastSome stuckOf (removeSynthetic c) = none := by
  unfold removeSynthetic
  split <;> rfl

theorem holdOf_bindReturnedFramework (extra : List UsbEffect)
    : lastSome holdOf (bindReturnedFramework c id extra).effects =
      (lastSome holdOf extra).or (if c.syntheticId = none then some false else none) := by
  unfold bindReturnedFramework
  cases c.syntheticId <;> simp [holdOf]

theorem stuckOf_bindReturnedFramework (extra : List UsbEffect)
    : lastSome stuckOf (bindReturnedFramework c id extra).effects = lastSome stuckOf extra := by
  unfold bindReturnedFramework
  cases c.syntheticId <;> simp [stuckOf]

@[grind =]
theorem holdOf_awaitingFrameworkUp
    : lastSome holdOf (awaitingFrameworkUp c id).effects =
      if c.syntheticId = none then some false else none := by
  unfold awaitingFrameworkUp
  split <;>
    simp [holdOf_bindReturnedFramework, holdOf_notifyUser, holdOf]

@[grind =]
theorem stuckOf_awaitingFrameworkUp : lastSome stuckOf (awaitingFrameworkUp c id).effects = none := by
  unfold awaitingFrameworkUp
  split <;>
    simp [stuckOf_bindReturnedFramework, stuckOf_notifyUser, stuckOf]

@[grind =]
theorem holdOf_restoreStuckFrameworkUp
    : lastSome holdOf (restoreStuckFrameworkUp c id).effects =
      if c.syntheticId = none then some false else none := by
  simp [restoreStuckFrameworkUp, holdOf_bindReturnedFramework, holdOf]

@[grind =]
theorem stuckOf_restoreStuckFrameworkUp
    : lastSome stuckOf (restoreStuckFrameworkUp c id).effects = some false := by
  simp [restoreStuckFrameworkUp, stuckOf_bindReturnedFramework, stuckOf]

@[grind =]
theorem stuckOf_awaitingTimedOutWithNothing
    : lastSome stuckOf (awaitingTimedOutWithNothing c).effects = none := by
  rfl

end

def UsbEvent.answersClaim : UsbEvent → Bool
  | .ClaimSucceeded _ | .ClaimFailed .. => true
  | _ => false

def UsbEvent.framework : UsbEvent → Bool
  | .FrameworkUp _ => true
  | _ => false

namespace UsbController

structure Placed (c : UsbController) : Prop where
  present : c.phase = .Direct ∨ c.phase = .RestoreStuck → c.syntheticId ≠ none
  absent : c.phase = .Routed ∨ c.phase = .Claiming ∨ c.phase = .NeedsReplug → c.syntheticId = none

structure Holds (c : UsbController) : Prop where
  phase : c.phase = .Claiming ∨ c.phase = .AwaitingFramework ∨ c.phase = .NeedsReplug
  unplaced : c.syntheticId = none

end UsbController

structure Reduction.Accounts (c : UsbController) (event : UsbEvent) (r : Reduction) : Prop where
  placed : ∀ c', r.next = some c' → c'.Placed
  begun : ∀ c', r.next = some c' → lastSome holdOf r.effects = some true → c'.Holds
  held : ∀ c', r.next = some c' → lastSome holdOf r.effects = none → c.Holds →
    ¬(c.phase = .NeedsReplug ∧ event.framework) → c'.Holds
  marked : ∀ c', r.next = some c' → ¬(c.phase = .RestoreStuck ∧ event.answersClaim) →
    ((lastSome stuckOf r.effects).getD (c.phase = .RestoreStuck) = true ↔ c'.phase = .RestoreStuck)
  removed : ∀ id, c.syntheticId = some id → r.next.bind (·.syntheticId) ≠ some id →
    ¬(c.phase = .RestoreStuck ∧ event.answersClaim) → .RemoveSynthetic id ∈ r.effects

theorem reduceRouted_accounts {c : UsbController} (event : UsbEvent) (hphase : c.phase = .Routed)
    (h : c.Placed)
    : (reduceRouted c event).Accounts c event := by
  have := h.present
  have := h.absent
  constructor <;> cases event <;>
    grind [UsbController.Placed, UsbController.Holds, UsbEvent.answersClaim,
      UsbEvent.framework, holdOf, stuckOf, reduceRouted, adoptFrameworkId,
      routedFrameworkDown, routedPermissionGranted, routedChoose, startClaim, stay,
      routedPermissionDenied]

theorem reduceClaiming_accounts {c : UsbController} (event : UsbEvent) (hphase : c.phase = .Claiming)
    (h : c.Placed)
    : (reduceClaiming c event).Accounts c event := by
  have := h.present
  have := h.absent
  constructor <;> cases event <;>
    grind [UsbController.Placed, UsbController.Holds, UsbEvent.answersClaim,
      UsbEvent.framework, holdOf, stuckOf, reduceClaiming, adoptFrameworkId,
      claimingSucceeded, claimingLostTheFramework, claimingSettledOnStandard,
      markPermissionGranted, stay]

theorem reduceDirect_accounts {c : UsbController} (event : UsbEvent) (hphase : c.phase = .Direct)
    (h : c.Placed)
    : (reduceDirect c event).Accounts c event := by
  have := h.present
  have := h.absent
  constructor <;> cases event <;>
    grind [UsbController.Placed, UsbController.Holds, UsbEvent.answersClaim,
      UsbEvent.framework, holdOf, stuckOf, reduceDirect, adoptFrameworkId,
      directChoose, releaseWithNoFrameworkToWaitFor, releaseAndAwaitFramework, directUnreadable,
      directUnreadableAwaitingFramework, directUnreadableSettledOnStandard, removeSynthetic, stay]

theorem reduceAwaiting_accounts {c : UsbController} (event : UsbEvent) (hphase : c.phase = .AwaitingFramework)
    (h : c.Placed)
    : (reduceAwaiting c event).Accounts c event := by
  have := h.present
  have := h.absent
  constructor <;> cases event <;>
    grind [UsbController.Placed, UsbController.Holds, UsbEvent.answersClaim,
      UsbEvent.framework, holdOf, stuckOf, reduceAwaiting, awaitingFrameworkUp,
      bindReturnedFramework, awaitingTimedOutWithSynthetic, awaitingTimedOutWithNothing,
      markPermissionGranted, stay, Option.isSome_iff_ne_none]

theorem reduceRestoreStuck_accounts {c : UsbController} (event : UsbEvent) (hphase : c.phase = .RestoreStuck)
    (h : c.Placed)
    : (reduceRestoreStuck c event).Accounts c event := by
  have := h.present
  have := h.absent
  constructor <;> cases event <;>
    grind [UsbController.Placed, UsbController.Holds, UsbEvent.answersClaim,
      UsbEvent.framework, holdOf, stuckOf, reduceRestoreStuck, restoreStuckChoose,
      restoreStuckClaimSucceeded, restoreStuckClaimFailed, restoreStuckFrameworkUp,
      bindReturnedFramework, markPermissionGranted, stay]

theorem reduceNeedsReplug_accounts {c : UsbController} (event : UsbEvent) (hphase : c.phase = .NeedsReplug)
    (h : c.Placed)
    : (reduceNeedsReplug c event).Accounts c event := by
  have := h.present
  have := h.absent
  constructor <;> cases event <;>
    grind [UsbController.Placed, UsbController.Holds, UsbEvent.answersClaim,
      UsbEvent.framework, holdOf, stuckOf, reduceNeedsReplug, markPermissionGranted, stay]

theorem reduce_accounts {c : UsbController} (event : UsbEvent) (h : c.Placed)
    : (reduce c event).Accounts c event := by
  unfold reduce
  split
  next hunplugged =>
    subst hunplugged
    constructor <;> simp [reduceUnplugged]
    intro id hid _
    simp [removeSynthetic, hid]
  next =>
    split
    next hphase => exact reduceRouted_accounts event hphase h
    next hphase => exact reduceClaiming_accounts event hphase h
    next hphase => exact reduceDirect_accounts event hphase h
    next hphase => exact reduceAwaiting_accounts event hphase h
    next hphase => exact reduceRestoreStuck_accounts event hphase h
    next hphase => exact reduceNeedsReplug_accounts event hphase h

/--
`reclaimed`: a `Reclaim` took the placeholder of the state away. `lost` left the state and were not
taken away.
-/
structure Ledger where
  path : UsbPath
  reclaimed : Bool := false
  lost : List Int := []
  deriving DecidableEq

namespace Ledger

def track (c : UsbController) : Ledger where
  path := .track c

def dropped (c : UsbController) (r : Reduction) : Option Int :=
  c.syntheticId.filter fun id =>
    r.next.bind (·.syntheticId) ≠ some id ∧ .RemoveSynthetic id ∉ r.effects

def step (l : Ledger) (event : UsbEvent) : Option Ledger :=
  l.path.controller.bind fun c =>
    let r := reduce c event
    (l.path.step event).map fun path =>
      { path
        reclaimed :=
          if r.next.bind (·.syntheticId) = c.syntheticId then
            l.reclaimed || .Reclaim ∈ r.effects
          else false
        lost := if l.reclaimed then l.lost else l.lost ++ (dropped c r).toList }

def run : Ledger → List UsbEvent → Option Ledger :=
  Transition.run step

def held (l : Ledger) : Bool :=
  (lastSome holdOf l.path.effects).getD false

def stuck (l : Ledger) : Bool :=
  (lastSome stuckOf l.path.effects).getD false

def ReplugUnheld (l : Ledger) (event : UsbEvent) : Prop :=
  l.path.InPhase .NeedsReplug → event.framework = true → l.held = false

def StuckUnanswered (l : Ledger) (event : UsbEvent) : Prop :=
  l.path.InPhase .RestoreStuck → event.answersClaim = false

def StuckReclaimed (l : Ledger) (event : UsbEvent) : Prop :=
  l.path.InPhase .RestoreStuck → event.answersClaim = true → l.reclaimed = true

instance (l : Ledger) (event : UsbEvent) : Decidable (l.ReplugUnheld event) :=
  inferInstanceAs (Decidable (_ → _ → _))

instance (l : Ledger) (event : UsbEvent) : Decidable (l.StuckReclaimed event) :=
  inferInstanceAs (Decidable (_ → _ → _))

section

variable {l l' : Ledger} {event : UsbEvent}

theorem step_eq_some
    : l.step event = some l' ↔
      ∃ c, l.path.controller = some c ∧
        l'.path = ⟨(reduce c event).next, l.path.effects ++ (reduce c event).effects⟩ ∧
        l'.reclaimed =
          (if (reduce c event).next.bind (·.syntheticId) = c.syntheticId then
            l.reclaimed || .Reclaim ∈ (reduce c event).effects
          else false) ∧
        l'.lost = if l.reclaimed then l.lost else l.lost ++ (dropped c (reduce c event)).toList := by
  obtain ⟨path, reclaimed, lost⟩ := l
  obtain ⟨path', reclaimed', lost'⟩ := l'
  simp only [step, Option.bind_eq_some_iff, Option.map_eq_some_iff, UsbPath.step_eq_some]
  constructor
  . rintro ⟨c, hc, p, ⟨d, hd, rfl⟩, h⟩
    cases Option.some.inj (hc.symm.trans hd)
    simp only [Ledger.mk.injEq] at h
    exact ⟨c, hc, h.1.symm, h.2.1.symm, h.2.2.symm⟩
  . rintro ⟨c, hc, rfl, rfl, rfl⟩
    exact ⟨c, hc, _, ⟨c, hc, rfl⟩, rfl⟩

def Placed (l : Ledger) : Prop :=
  ∀ c, l.path.controller = some c → c.Placed

theorem Placed.step (h : l.Placed) (hstep : l.step event = some l') : l'.Placed := by
  obtain ⟨c, hc, hpath, _⟩ := step_eq_some.mp hstep
  intro c' hc'
  rw [hpath] at hc'
  exact (reduce_accounts event (h c hc)).placed c' hc'

def Held (l : Ledger) : Prop :=
  ∀ c, l.path.controller = some c → l.held = true → c.Holds

theorem Held.step (h : l.Held) (hplaced : l.Placed) (hP : l.ReplugUnheld event)
    (hstep : l.step event = some l')
    : l'.Held := by
  obtain ⟨c, hc, hpath, _⟩ := step_eq_some.mp hstep
  have haccounts := reduce_accounts event (hplaced c hc)
  intro c' hc' hheld
  rw [hpath] at hc'
  rw [held, hpath, lastSome_append] at hheld
  cases hlast : lastSome holdOf (reduce c event).effects with
  | none =>
    have hwas : l.held = true := by simpa [held, hlast] using hheld
    apply haccounts.held c' hc' hlast (h c hc hwas)
    rintro ⟨hphase, hframework⟩
    rw [hP ⟨c, hc, hphase⟩ hframework] at hwas
    contradiction
  | some begun =>
    rw [hlast] at hheld
    cases hheld
    exact haccounts.begun c' hc' hlast

def Marked (l : Ledger) : Prop :=
  ∀ c, l.path.controller = some c → (l.stuck = true ↔ c.phase = .RestoreStuck)

theorem Marked.step (h : l.Marked) (hplaced : l.Placed) (hP : l.StuckUnanswered event)
    (hstep : l.step event = some l')
    : l'.Marked := by
  obtain ⟨c, hc, hpath, _⟩ := step_eq_some.mp hstep
  intro c' hc'
  rw [hpath] at hc'
  have hmarked := (reduce_accounts event (hplaced c hc)).marked c' hc' (by
    rintro ⟨hphase, hanswers⟩
    rw [hP ⟨c, hc, hphase⟩] at hanswers
    contradiction)
  rw [← hmarked, stuck, hpath, lastSome_append]
  cases lastSome stuckOf (reduce c event).effects with
  | none => simpa [stuck] using h c hc
  | some mark => rfl

theorem dropped_eq_none {c : UsbController} (h : c.Placed)
    (hphase : ¬(c.phase = .RestoreStuck ∧ event.answersClaim))
    : dropped c (reduce c event) = none := by
  rw [dropped, Option.filter_eq_none_iff]
  intro id hid
  have hremoved := (reduce_accounts event h).removed id hid
  simp only [decide_eq_true_eq, not_and, Decidable.not_not]
  intro hleft
  exact hremoved hleft hphase

theorem lost_step (hplaced : l.Placed) (hP : l.StuckReclaimed event)
    (hstep : l.step event = some l')
    : l'.lost = l.lost := by
  obtain ⟨c, hc, _, _, hlost⟩ := step_eq_some.mp hstep
  rw [hlost]
  split
  next => rfl
  next hreclaimed =>
    rw [dropped_eq_none (hplaced c hc)]
    . simp
    . rintro ⟨hphase, hanswers⟩
      exact hreclaimed (hP ⟨c, hc, hphase⟩ hanswers)

end

section

variable {vendorId productId : UInt16} {name : String} {desired : PathChoice}
  {frameworkExpected : Bool} {es : List UsbEvent} {l : Ledger}

theorem holds_marks_and_placeholders
    (hrun : run (track (.tracked vendorId productId name desired frameworkExpected)) es = some l)
    : (Along step ReplugUnheld
          (track (.tracked vendorId productId name desired frameworkExpected)) es →
        ∀ c, l.path.controller = some c → l.held = true →
          c.phase = .Claiming ∨ c.phase = .AwaitingFramework ∨ c.phase = .NeedsReplug) ∧
      (Along step StuckUnanswered
          (track (.tracked vendorId productId name desired frameworkExpected)) es →
        ∀ c, l.path.controller = some c → (l.stuck = true ↔ c.phase = .RestoreStuck)) ∧
      (∀ c, l.path.controller = some c →
        (c.phase = .Direct ∨ c.phase = .RestoreStuck → c.syntheticId ≠ none) ∧
        (c.phase = .Routed ∨ c.phase = .Claiming ∨ c.phase = .NeedsReplug →
          c.syntheticId = none)) ∧
      (Along step StuckReclaimed
          (track (.tracked vendorId productId name desired frameworkExpected)) es →
        l.lost = []) := by
  have hplaced : (track (.tracked vendorId productId name desired frameworkExpected)).Placed := by
    rintro c ⟨⟩
    constructor <;> simp [UsbController.tracked]
  refine ⟨?_, ?_, ?_, ?_⟩
  . intro hP c hc hheld
    have h := invariant_of_along (I := fun l => l.Placed ∧ l.Held)
      (fun l e l' h hP hstep => ⟨h.1.step hstep, h.2.step h.1 hP hstep⟩)
      ⟨hplaced, by rintro c ⟨⟩ hheld; contradiction⟩ hP hrun
    exact (h.2 c hc hheld).phase
  . intro hP c hc
    have h := invariant_of_along (I := fun l => l.Placed ∧ l.Marked)
      (fun l e l' h hP hstep => ⟨h.1.step hstep, h.2.step h.1 hP hstep⟩)
      ⟨hplaced, by rintro c ⟨⟩; exact ⟨nofun, nofun⟩⟩ hP hrun
    exact h.2 c hc
  . intro c hc
    have h := invariant_of_run (fun l e l' h hstep => Placed.step h hstep) hplaced hrun
    exact ⟨(h c hc).present, (h c hc).absent⟩
  . intro hP
    have h := invariant_of_along (I := fun l => l.Placed ∧ l.lost = [])
      (fun l e l' h hP hstep => ⟨h.1.step hstep, (lost_step h.1 hP hstep).trans h.2⟩)
      ⟨hplaced, rfl⟩ hP hrun
    exact h.2

end

theorem hold_while_awaiting
    : ∃ l c, run (track (.tracked 0x54C 0xCE6 "DualSense" .Direct true))
          [.Choose .Direct false, .ClaimFailed .Busy true] = some l ∧
        l.path.controller = some c ∧ l.held = true ∧ l.stuck = false ∧ l.lost = [] ∧
        (c.phase = .Claiming ∨ c.phase = .AwaitingFramework ∨ c.phase = .NeedsReplug) := by
  refine ⟨_, _, rfl, rfl, by decide, ?_⟩
  have h := @holds_marks_and_placeholders 0x54C 0xCE6 "DualSense" .Direct true
    [.Choose .Direct false, .ClaimFailed .Busy true] _ rfl
  exact ⟨by decide, h.2.2.2 (by decide), h.1 (by decide) _ rfl (by decide)⟩

theorem hold_and_mark_left_behind
    : (∃ l c, run (track (.tracked 0x54C 0xCE6 "DualSense" .Direct true))
          [.Choose .Direct false, .ClaimFailed .Busy true, .Timeout, .FrameworkUp 3] = some l ∧
        l.path.controller = some c ∧ l.held = true ∧ c.phase = .Routed) ∧
      ∃ l c, run (track (.tracked 0x54C 0xCE6 "DualSense" .Direct true))
          [.Choose .Direct false, .ClaimSucceeded (-1), .Choose .Standard true, .Timeout,
            .Choose .Direct true, .ClaimSucceeded (-2)] = some l ∧
        l.path.controller = some c ∧ l.stuck = true ∧ c.phase = .Direct := by
  refine ⟨⟨_, _, rfl, rfl, ?_, rfl⟩, ⟨_, _, rfl, rfl, ?_, rfl⟩⟩
  . decide
  . decide

end Ledger

end Reducer
