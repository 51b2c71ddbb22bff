import Dish.Moonlight.Forwarding

/-!
This module contains the law of one control stream.
-/

namespace Moonlight

def Named (wire : List WireEvent) (event : WireEvent) : Prop :=
  ∀ number mask farewell, event = .state number mask farewell →
    arrivedOn number wire = true ∧
      ∀ n, n = number ∨ mask.getLsbD n = true → goneFrom n wire = false

section

variable {wire : List WireEvent} {number n : Nat} {mask : BitVec 16} {farewell : Bool}

@[simp]
theorem arrivedOn_state : arrivedOn n (wire ++ [.state number mask farewell]) = arrivedOn n wire := by
  simp [arrivedOn, WireEvent.starts, WireEvent.arrives]

@[simp]
theorem arrivedOn_assigned
    : arrivedOn n (wire ++ [.assigned number]) = (decide (number ≠ n) && arrivedOn n wire) := by
  by_cases heq : number = n
  all_goals simp [arrivedOn, WireEvent.starts, WireEvent.arrives, heq]

@[simp]
theorem arrivedOn_arrival
    : arrivedOn n (wire ++ [.arrival number]) = (decide (number = n) || arrivedOn n wire) := by
  by_cases heq : number = n
  all_goals simp [arrivedOn, WireEvent.starts, WireEvent.arrives, heq]

@[simp]
theorem goneFrom_state
    : goneFrom n (wire ++ [.state number mask farewell]) =
      (decide (number = n ∧ farewell = true) || goneFrom n wire) := by
  by_cases heq : number = n ∧ farewell = true
  all_goals simp [goneFrom, WireEvent.returns, WireEvent.leaves, heq]

@[simp]
theorem goneFrom_up : goneFrom n (wire ++ [.up]) = false := by
  simp [goneFrom, WireEvent.returns]

@[simp]
theorem goneFrom_assigned : goneFrom n (wire ++ [.assigned number]) = goneFrom n wire := by
  simp [goneFrom, WireEvent.returns, WireEvent.leaves]

@[simp]
theorem goneFrom_arrival
    : goneFrom n (wire ++ [.arrival number]) = (decide (number ≠ n) && goneFrom n wire) := by
  by_cases heq : number = n
  all_goals simp [goneFrom, WireEvent.returns, WireEvent.leaves, heq]

end

structure WireOk (streaming : Bool) (held pending : Nat → Prop) (wire : List WireEvent) : Prop where
  arrived : streaming = true → ∀ n, held n → arrivedOn n wire = true ∨ pending n
  left : streaming = true → ∀ n, goneFrom n wire = true → ¬held n
  named : EachAfter Named wire

namespace WireOk

variable {streaming streaming' : Bool} {held held' pending pending' : Nat → Prop}
  {wire : List WireEvent} {number : Nat} {mask : BitVec 16}

theorem mono (h : WireOk streaming held pending wire)
    (hstreaming : streaming' = true → streaming = true) (hheld : ∀ n, held' n → held n)
    (hpending : ∀ n, held' n → pending n → pending' n)
    : WireOk streaming' held' pending' wire := by
  refine ⟨?_, ?_, h.named⟩
  . intro hs n hn
    cases h.arrived (hstreaming hs) n (hheld n hn) with
    | inl harrived => exact .inl harrived
    | inr hpend => exact .inr (hpending n hn hpend)
  . intro hs n hgone hn
    exact h.left (hstreaming hs) n hgone (hheld n hn)

theorem down (h : WireOk streaming held pending wire) : WireOk false held' pending' wire := by
  exact ⟨by simp, by simp, h.named⟩

theorem named_state (h : WireOk streaming held pending wire) (hstreaming : streaming = true)
    (harrived : arrivedOn number wire = true) (hnumber : held number)
    (hmask : ∀ n, mask.getLsbD n = true → held n) (farewell : Bool)
    : Named wire (.state number mask farewell) := by
  rintro number mask farewell ⟨⟩
  refine ⟨harrived, ?_⟩
  intro n hn
  have hheld : held n := by
    rcases hn with rfl | hbit
    . exact hnumber
    . exact hmask n hbit
  apply Bool.eq_false_iff.mpr
  intro hgone
  exact h.left hstreaming n hgone hheld

theorem state (h : WireOk streaming held pending wire) (hnamed : Named wire (.state number mask false))
    : WireOk streaming held pending (wire ++ [.state number mask false]) := by
  refine ⟨?_, ?_, h.named.concat hnamed⟩
  . simpa using h.arrived
  . simpa using h.left

theorem farewell (h : WireOk streaming held pending wire)
    (hnamed : Named wire (.state number mask true)) (hheld : ∀ n, held' n → held n ∧ n ≠ number)
    : WireOk streaming held' pending (wire ++ [.state number mask true]) := by
  refine ⟨?_, ?_, h.named.concat hnamed⟩
  . intro hstreaming n hn
    rw [arrivedOn_state]
    exact h.arrived hstreaming n (hheld n hn).1
  . intro hstreaming n hgone hn
    obtain ⟨hold, hne⟩ := hheld n hn
    rw [goneFrom_state] at hgone
    have hgone : goneFrom n wire = true := by simpa [Ne.symm hne] using hgone
    exact h.left hstreaming n hgone hold

theorem assigned (h : WireOk streaming held pending wire) (hfree : ¬held number)
    : WireOk streaming held pending (wire ++ [.assigned number]) := by
  refine ⟨?_, ?_, h.named.concat (by rintro _ _ _ ⟨⟩)⟩
  . intro hstreaming n hn
    have hne : number ≠ n := by
      rintro rfl
      exact hfree hn
    simpa [hne] using h.arrived hstreaming n hn
  . simpa using h.left

theorem arrival (h : WireOk streaming held pending wire) (hheld : ∀ n, held' n → held n ∨ n = number)
    (hpending : ∀ n, pending n → pending' n ∨ n = number)
    : WireOk streaming held' pending' (wire ++ [.arrival number]) := by
  refine ⟨?_, ?_, h.named.concat (by rintro _ _ _ ⟨⟩)⟩
  . intro hstreaming n hn
    by_cases heq : n = number
    . left
      simp [heq]
    . have hold := (hheld n hn).resolve_right heq
      cases h.arrived hstreaming n hold with
      | inl harrived =>
        left
        simp [harrived]
      | inr hpend => exact .inr ((hpending n hpend).resolve_right heq)
  . intro hstreaming n hgone hn
    simp only [goneFrom_arrival, ne_eq, Bool.and_eq_true, decide_eq_true_eq] at hgone
    have hold := (hheld n hn).resolve_right (Ne.symm hgone.1)
    exact h.left hstreaming n hgone.2 hold

theorem up (h : WireOk streaming held pending wire) (hpending : ∀ n, held n → pending' n)
    : WireOk streaming' held pending' (wire ++ [.up]) := by
  refine ⟨?_, ?_, h.named.concat (by rintro _ _ _ ⟨⟩)⟩
  . intro _ n hn
    exact .inr (hpending n hn)
  . simp

end WireOk

end Moonlight
