/-!
This module contains the theory of finite runs of a partial step function.
-/

namespace Transition

variable {σ : Type u} {α : Type v}

def run (step : σ → α → Option σ) (s : σ) : List α → Option σ
  | [] => some s
  | a :: as => (step s a).bind fun s' => run step s' as

def Along (step : σ → α → Option σ) (P : σ → α → Prop) (s : σ) : List α → Prop
  | [] => True
  | a :: as => P s a ∧ ∀ s', step s a = some s' → Along step P s' as

variable {step : σ → α → Option σ} {P Q : σ → α → Prop}

@[simp]
theorem run_nil (s : σ) : run step s [] = some s := by
  rfl

theorem run_cons (s : σ) (a : α) (as : List α)
    : run step s (a :: as) = (step s a).bind fun s' => run step s' as := by
  rfl

theorem run_cons_eq_some {s s'' : σ} {a : α} {as : List α}
    : run step s (a :: as) = some s'' ↔ ∃ s', step s a = some s' ∧ run step s' as = some s'' := by
  rw [run_cons]
  rw [Option.bind_eq_some_iff]

theorem run_append (s : σ) (as bs : List α)
    : run step s (as ++ bs) = (run step s as).bind fun s' => run step s' bs := by
  induction as generalizing s with
  | nil => rfl
  | cons a as ih =>
    rw [List.cons_append, run_cons, run_cons]
    rw [Option.bind_assoc]
    congr
    funext s'
    apply ih

theorem run_append_of_run {s s' : σ} {as bs : List α} (h : run step s as = some s')
    : run step s (as ++ bs) = run step s' bs := by
  rw [run_append]
  rw [h]
  rfl

theorem exists_run_of_any {p : σ → Bool} {s : σ} {as : List α} (h : (run step s as).any p = true)
    : ∃ s', run step s as = some s' ∧ p s' = true := by
  simpa [Option.any_eq_true] using h

theorem exists_step_of_any {p q : σ → Bool} {s : σ} {as : List α} {a : α}
    (h : (run step s as).any (fun s' => p s' && (step s' a).any q) = true)
    : ∃ s' s'', run step s as = some s' ∧ p s' = true ∧ step s' a = some s'' ∧ q s'' = true := by
  obtain ⟨s', hrun, hs'⟩ := exists_run_of_any h
  rw [Bool.and_eq_true] at hs'
  obtain ⟨s'', hstep, hs''⟩ := (Option.any_eq_true _ _).mp hs'.2
  exact ⟨s', s'', hrun, hs'.1, hstep, hs''⟩

theorem along_cons {s : σ} {a : α} {as : List α}
    : Along step P s (a :: as) ↔ P s a ∧ ∀ s', step s a = some s' → Along step P s' as := by
  rfl

instance decidableAlong [∀ s a, Decidable (P s a)] (s : σ) : (as : List α) → Decidable (Along step P s as)
  | [] => .isTrue trivial
  | a :: as =>
    match hs : step s a with
    | none => decidable_of_iff (P s a) (by simp [Along, hs])
    | some s' =>
      have := decidableAlong s' as
      decidable_of_iff (P s a ∧ Along step P s' as) (by simp [Along, hs])

theorem along_of_forall {s : σ} {as : List α} (h : ∀ a ∈ as, ∀ s, P s a) : Along step P s as := by
  induction as generalizing s with
  | nil => trivial
  | cons a as ih =>
    refine ⟨h a (by simp) s, ?_⟩
    intro s' _
    apply ih
    intro b hb
    exact h b (by simp [hb])

theorem along_cons_of_step {s s' : σ} {a : α} {as : List α} (h : step s a = some s') (ha : P s a)
    (has : Along step P s' as)
    : Along step P s (a :: as) := by
  refine ⟨ha, ?_⟩
  intro t ht
  rw [h] at ht
  cases ht
  exact has

theorem along_append {s s' : σ} {as bs : List α} (hrun : run step s as = some s')
    (has : Along step P s as) (hbs : Along step P s' bs)
    : Along step P s (as ++ bs) := by
  induction as generalizing s with
  | nil =>
    cases hrun
    exact hbs
  | cons a as ih =>
    obtain ⟨t, ht, hrun⟩ := run_cons_eq_some.mp hrun
    refine ⟨has.1, ?_⟩
    intro t' ht'
    rw [ht] at ht'
    cases ht'
    exact ih hrun (has.2 t ht)

theorem along_of_append_left {s : σ} {as bs : List α} (h : Along step P s (as ++ bs))
    : Along step P s as := by
  induction as generalizing s with
  | nil => trivial
  | cons a as ih => exact ⟨h.1, fun s' hs' => ih (h.2 s' hs')⟩

theorem along_of_append_right {s s' : σ} {as bs : List α} (hrun : run step s as = some s')
    (h : Along step P s (as ++ bs))
    : Along step P s' bs := by
  induction as generalizing s with
  | nil =>
    cases hrun
    exact h
  | cons a as ih =>
    obtain ⟨t, ht, hrun⟩ := run_cons_eq_some.mp hrun
    exact ih hrun (h.2 t ht)

theorem along_and {s : σ} {as : List α} (hP : Along step P s as) (hQ : Along step Q s as)
    : Along step (fun s a => P s a ∧ Q s a) s as := by
  induction as generalizing s with
  | nil => trivial
  | cons a as ih =>
    refine ⟨⟨hP.1, hQ.1⟩, ?_⟩
    intro s' hs'
    exact ih (hP.2 s' hs') (hQ.2 s' hs')

theorem along_mono (hPQ : ∀ s a, P s a → Q s a) {s : σ} {as : List α} (h : Along step P s as)
    : Along step Q s as := by
  induction as generalizing s with
  | nil => trivial
  | cons a as ih => exact ⟨hPQ _ _ h.1, fun s' hs' => ih (h.2 s' hs')⟩

theorem invariant_of_along {I : σ → Prop}
    (hstep : ∀ s a s', I s → P s a → step s a = some s' → I s')
    {s s' : σ} {as : List α} (hs : I s) (hP : Along step P s as) (hrun : run step s as = some s')
    : I s' := by
  induction as generalizing s with
  | nil =>
    cases hrun
    exact hs
  | cons a as ih =>
    obtain ⟨t, ht, hrun⟩ := run_cons_eq_some.mp hrun
    exact ih (hstep s a t hs hP.1 ht) (hP.2 t ht) hrun

theorem invariant_of_run {I : σ → Prop} (hstep : ∀ s a s', I s → step s a = some s' → I s')
    {s s' : σ} {as : List α} (hs : I s) (hrun : run step s as = some s')
    : I s' := by
  apply invariant_of_along (P := fun _ _ => True) _ hs _ hrun
  . intro s a s' hs _ h
    exact hstep s a s' hs h
  . apply along_of_forall
    intro _ _ _
    trivial

theorem simulates_of_run {τ : Type w} {β : Type x} {R : σ → τ → Prop} {next : τ → β → τ}
    {label : α → Option β}
    (hstep : ∀ s t a s', R s t → step s a = some s' → R s' ((label a).toList.foldl next t))
    {s s' : σ} {t : τ} {as : List α} (hs : R s t) (hrun : run step s as = some s')
    : R s' ((as.filterMap label).foldl next t) := by
  induction as generalizing s t with
  | nil =>
    cases hrun
    exact hs
  | cons a as ih =>
    obtain ⟨u, hu, hrun⟩ := run_cons_eq_some.mp hrun
    have hnext := ih (hstep s t a u hs hu) hrun
    rw [List.filterMap_cons]
    cases hlabel : label a with
    | none => simpa [hlabel] using hnext
    | some b => simpa [hlabel] using hnext

end Transition
