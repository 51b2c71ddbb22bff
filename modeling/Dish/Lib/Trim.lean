import Mathlib.Data.List.Infix

/-!
This module contains the removal of a kind of element from both ends of a list.
-/

namespace Trim

variable {α : Type u}

def both (p : α → Bool) (xs : List α) : List α :=
  ((xs.dropWhile p).reverse.dropWhile p).reverse

theorem dropWhile_append {p : α → Bool} {xs : List α} (ys : List α) (hne : xs ≠ [])
    (h : ∀ x ∈ xs, p x = false)
    : (xs ++ ys).dropWhile p = xs ++ ys := by
  cases xs with
  | nil => contradiction
  | cons x xs => simp [h x List.mem_cons_self]

theorem both_append {p : α → Bool} {xs ys : List α} (hxs : ∀ x ∈ xs, p x = false)
    (hys : ∀ y ∈ ys, p y = true)
    : both p (xs ++ ys) = xs := by
  unfold both
  by_cases hne : xs = []
  . subst hne
    have hdrop : (ys ++ []).dropWhile p = [].dropWhile p := List.dropWhile_append_of_pos hys
    rw [List.append_nil] at hdrop
    simp [hdrop]
  . have hback : xs.reverse.dropWhile p = xs.reverse := by
      have h := dropWhile_append [] (by simpa using hne) (fun x hx => hxs x (List.mem_reverse.mp hx))
      simpa using h
    rw [dropWhile_append ys hne hxs, List.reverse_append, List.dropWhile_append_of_pos]
    . rw [hback, List.reverse_reverse]
    . intro y hy
      exact hys y (List.mem_reverse.mp hy)

theorem both_eq_self {p : α → Bool} {xs : List α} (h : ∀ x ∈ xs, p x = false) : both p xs = xs := by
  have hboth : both p (xs ++ []) = xs := both_append h (by simp)
  rwa [List.append_nil] at hboth

theorem both_map {β : Type v} {p : α → Bool} {q : β → Bool} {f : α → β} (h : ∀ x, q (f x) = p x)
    (xs : List α)
    : both q (xs.map f) = (both p xs).map f := by
  have hcomp : q ∘ f = p := funext h
  unfold both
  rw [List.dropWhile_map, hcomp, ← List.map_reverse, List.dropWhile_map, hcomp, List.map_reverse]

structure Trimmed (p : α → Bool) (xs : List α) : Prop where
  first : ∀ x ∈ xs.head?, p x = false
  last : ∀ x ∈ xs.getLast?, p x = false

theorem head?_dropWhile {p : α → Bool} {xs : List α} {x : α} (hx : (xs.dropWhile p).head? = some x)
    : p x = false := by
  have h := List.head?_dropWhile_not p xs
  rwa [hx] at h

theorem trimmed_both {p : α → Bool} {xs : List α} : Trimmed p (both p xs) := by
  constructor
  . intro x hx
    have hfront : both p xs <+: xs.dropWhile p := by
      unfold both
      rw [← List.reverse_suffix, List.reverse_reverse]
      exact List.dropWhile_suffix p
    obtain ⟨rest, hrest⟩ := hfront
    have hhead : (xs.dropWhile p).head? = some x := by
      rw [← hrest, List.head?_append, Option.mem_def.mp hx]
      rfl
    exact head?_dropWhile hhead
  . intro x hx
    rw [both, List.getLast?_reverse] at hx
    exact head?_dropWhile hx

theorem infix_dropWhile {p : α → Bool} {xs ys : List α} (hne : ys ≠ [])
    (hfirst : ∀ y ∈ ys.head?, p y = false)
    : ys <:+: xs.dropWhile p ↔ ys <:+: xs := by
  induction xs with
  | nil => rfl
  | cons x xs ih =>
    by_cases hx : p x
    . rw [List.dropWhile_cons_of_pos hx, ih, List.infix_cons_iff]
      refine ⟨.inr, ?_⟩
      rintro (hstart | hlater)
      . cases ys with
        | nil => contradiction
        | cons y ys =>
          have hy := hfirst y rfl
          rw [List.cons_prefix_cons] at hstart
          rw [hstart.1, hx] at hy
          contradiction
      . exact hlater
    . rw [List.dropWhile_cons_of_neg hx]

theorem Trimmed.infix_both {p : α → Bool} {xs ys : List α} (h : Trimmed p ys) (hne : ys ≠ [])
    : ys <:+: both p xs ↔ ys <:+: xs := by
  unfold both
  rw [← List.reverse_infix, List.reverse_reverse, infix_dropWhile, List.reverse_infix,
    infix_dropWhile]
  . exact hne
  . exact h.first
  . simpa using hne
  . rw [List.head?_reverse]
    exact h.last

end Trim
