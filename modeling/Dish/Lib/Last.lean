import Mathlib.Data.List.Basic

/-!
This module contains the last element of a list that says something.
-/

variable {α : Type u} {β : Type v}

def lastSome (f : α → Option β) (l : List α) : Option β :=
  l.reverse.findSome? f

@[simp, grind =]
theorem lastSome_nil (f : α → Option β) : lastSome f [] = none := by
  rfl

@[simp, grind =]
theorem lastSome_append (f : α → Option β) (l l' : List α)
    : lastSome f (l ++ l') = (lastSome f l').or (lastSome f l) := by
  simp [lastSome, List.findSome?_append]

@[simp, grind =]
theorem lastSome_cons (f : α → Option β) (a : α) (l : List α)
    : lastSome f (a :: l) = (lastSome f l).or (f a) := by
  rw [← List.singleton_append, lastSome_append]
  simp [lastSome]

def lastSince (reset : α → Bool) (f : α → Option β) (l : List α) : Option β :=
  l.foldl (fun last a => if reset a then none else (f a).or last) none

section

variable {reset : α → Bool} {f : α → Option β} {l : List α} {a : α}

@[simp]
theorem lastSince_nil : lastSince reset f [] = none := by
  rfl

@[simp]
theorem lastSince_concat
    : lastSince reset f (l ++ [a]) = if reset a then none else (f a).or (lastSince reset f l) := by
  simp [lastSince]

end

def EachAfter (P : List α → α → Prop) (l : List α) : Prop :=
  ∀ before a after, l = before ++ a :: after → P before a

theorem eachAfter_nil (P : List α → α → Prop) : EachAfter P [] := by
  intro before a after heq
  simp at heq

theorem EachAfter.concat {P : List α → α → Prop} {l : List α} (h : EachAfter P l) {a : α} (ha : P l a)
    : EachAfter P (l ++ [a]) := by
  intro before b after heq
  rcases List.eq_nil_or_concat after with hafter | ⟨after', last, hafter⟩
  . subst hafter
    obtain ⟨hbefore, hlast⟩ := List.append_inj' heq rfl
    cases hlast
    rwa [← hbefore]
  . subst hafter
    rw [List.concat_eq_append, ← List.cons_append, ← List.append_assoc] at heq
    exact h before b after' (List.append_inj' heq rfl).1

theorem EachAfter.of_append {P : List α → α → Prop} {l l' : List α} (h : EachAfter P (l ++ l'))
    : EachAfter P l := by
  intro before a after heq
  apply h before a (after ++ l')
  rw [heq, List.append_assoc, List.cons_append]

theorem EachAfter.last {P : List α → α → Prop} {l : List α} {a : α} (h : EachAfter P (l ++ [a]))
    : P l a := by
  exact h l a [] rfl
