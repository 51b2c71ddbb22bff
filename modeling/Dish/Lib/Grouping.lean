import Mathlib.Data.List.Infix
import Std.Data.TreeMap

/-!
This module contains maps that are filled from a list.
-/

open Std

namespace Grouping

variable {α : Type u} {β : Type v} {κ : Type w} [Ord κ]

def file (groups : TreeMap κ (List α)) (k : κ) (x : α) : TreeMap κ (List α) :=
  groups.insert k (groups[k]?.getD [] ++ [x])

def add (key : α → Option κ) (groups : TreeMap κ (List α)) (x : α) : TreeMap κ (List α) :=
  match key x with
  | none => groups
  | some k => file groups k x

def group (key : α → Option κ) (xs : List α) : TreeMap κ (List α) :=
  xs.foldl (add key) ∅

def alone (groups : TreeMap κ (List α)) : TreeMap κ α :=
  groups.filterMap fun _ xs =>
    match xs with
    | [x] => some x
    | _ => none

def put (key : α → κ) (f : α → Option β) (out : TreeMap κ β) (x : α) : TreeMap κ β :=
  match f x with
  | none => out
  | some v => out.insert (key x) v

def collect (key : α → κ) (f : α → Option β) (xs : List α) : TreeMap κ β :=
  xs.foldl (put key f) ∅

section Group

variable [TransOrd κ] {key : α → Option κ} {xs : List α} {groups : TreeMap κ (List α)} {k : κ}

theorem ne_nil_foldl (h : groups[k]? ≠ some []) : (xs.foldl (add key) groups)[k]? ≠ some [] := by
  induction xs generalizing groups with
  | nil => exact h
  | cons x xs ih =>
    refine ih ?_
    unfold add
    cases key x with
    | none => exact h
    | some k' =>
      simp only [file, TreeMap.getElem?_insert]
      split
      . simp
      . exact h

variable [LawfulEqOrd κ] [DecidableEq κ]

theorem getD_add (x : α)
    : (add key groups x)[k]?.getD [] =
        groups[k]?.getD [] ++ [x].filter fun x => key x = some k := by
  unfold add
  cases hkey : key x with
  | none => simp [hkey]
  | some k' =>
    simp only [file, TreeMap.getElem?_insert, Std.compare_eq_iff_eq]
    by_cases hsame : k' = k <;> simp [hkey, hsame]

theorem getD_foldl
    : (xs.foldl (add key) groups)[k]?.getD [] =
        groups[k]?.getD [] ++ xs.filter fun x => key x = some k := by
  induction xs generalizing groups with
  | nil => simp
  | cons x xs ih =>
    rw [List.foldl_cons, ih, getD_add, List.append_assoc, ← List.filter_append]
    rfl

theorem getElem?_alone_group {x : α}
    : (alone (group key xs))[k]? = some x ↔ (xs.filter fun x => key x = some k) = [x] := by
  have hgroup : (group key xs)[k]?.getD [] = xs.filter fun x => key x = some k := by
    rw [group, getD_foldl]
    simp
  have hne : (group key xs)[k]? ≠ some [] := ne_nil_foldl (by simp)
  rw [alone, TreeMap.getElem?_filterMap', ← hgroup]
  generalize (group key xs)[k]? = found at hne
  cases found with
  | none => simp
  | some ys =>
    dsimp only [Option.bind_some, Option.getD_some]
    split
    . simp
    . next hnot => simpa using hnot x

theorem filter_eq_singleton (hnodup : xs.Nodup) {p : α → Bool} {x : α}
    : xs.filter p = [x] ↔ x ∈ xs ∧ p x ∧ ∀ y ∈ xs, p y → y = x := by
  rw [← List.perm_singleton, List.perm_ext_iff_of_nodup (hnodup.filter p) (by simp)]
  simp only [List.mem_filter, List.mem_singleton]
  constructor
  . intro h
    obtain ⟨hmem, hx⟩ := (h x).mpr rfl
    exact ⟨hmem, hx, fun y hy hp => (h y).mp ⟨hy, hp⟩⟩
  . rintro ⟨hmem, hx, hall⟩ y
    refine ⟨fun ⟨hy, hp⟩ => hall y hy hp, ?_⟩
    rintro rfl
    exact ⟨hmem, hx⟩

end Group

section Collect

variable [TransOrd κ] [LawfulEqOrd κ] [DecidableEq κ] {key : α → κ} {f : α → Option β}
  {xs : List α} {out : TreeMap κ β} {k : κ} {v : β}

theorem getElem?_put (x : α)
    : (put key f out x)[k]? = if key x = k then (f x).or out[k]? else out[k]? := by
  unfold put
  cases f x with
  | none => simp
  | some v => simp [TreeMap.getElem?_insert]

theorem getElem?_foldl_put (hkeys : (xs.map key).Nodup) (hfresh : ∀ x ∈ xs, out[key x]? = none)
    : (xs.foldl (put key f) out)[k]? = some v ↔
        out[k]? = some v ∨ ∃ x ∈ xs, key x = k ∧ f x = some v := by
  induction xs generalizing out with
  | nil => simp
  | cons x xs ih =>
    obtain ⟨hfirst, hkeys⟩ := List.nodup_cons.mp hkeys
    have hnone := hfresh x List.mem_cons_self
    rw [List.foldl_cons, ih hkeys, getElem?_put]
    . by_cases hsame : key x = k
      . subst hsame
        simp [hnone]
      . simp [hsame]
    . intro x' hx'
      have hne : key x ≠ key x' := fun hsame => hfirst (hsame ▸ List.mem_map_of_mem hx')
      rw [getElem?_put, if_neg hne]
      exact hfresh x' (List.mem_cons_of_mem _ hx')

theorem getElem?_collect (hkeys : (xs.map key).Nodup)
    : (collect key f xs)[k]? = some v ↔ ∃ x ∈ xs, key x = k ∧ f x = some v := by
  rw [collect, getElem?_foldl_put hkeys (by simp)]
  simp

end Collect

end Grouping
