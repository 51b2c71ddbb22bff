/-!
This module contains readers that take a value off the front of a list or wait for more of it.
-/

namespace Reader

variable {α : Type u} {β : Type v}

def Stable (read : List α → Option (β × List α)) : Prop :=
  ∀ xs ys value rest, read xs = some (value, rest) → read (xs ++ ys) = some (value, rest ++ ys)

def upTo [DecidableEq α] (sep : α) : List α → Option (List α × List α)
  | [] => none
  | x :: xs => if x = sep then some ([], xs) else (upTo sep xs).map fun (run, rest) => (x :: run, rest)

def take (count : Nat) (xs : List α) : Option (List α × List α) :=
  if xs.length < count then none else some (xs.take count, xs.drop count)

theorem stable_upTo [DecidableEq α] (sep : α) : Stable (upTo sep) := by
  intro xs ys run rest h
  induction xs generalizing run with
  | nil => cases h
  | cons x xs ih =>
    simp only [List.cons_append, upTo] at h ⊢
    split at h
    next hsep =>
      cases h
      rw [if_pos hsep]
    next hsep =>
      obtain ⟨⟨tail, rest⟩, htail, hcons⟩ := Option.map_eq_some_iff.mp h
      cases hcons
      rw [if_neg hsep, ih tail htail]
      rfl

theorem stable_take (count : Nat) : Stable (take (α := α) count) := by
  intro xs ys run rest h
  unfold take at h ⊢
  split at h
  next => cases h
  next hlength =>
    cases h
    rw [if_neg (by rw [List.length_append]; omega)]
    rw [List.take_append_of_le_length (by omega), List.drop_append_of_le_length (by omega)]

theorem Stable.map {γ : Type w} {read : List α → Option (β × List α)} (h : Stable read) (f : β → γ)
    : Stable fun xs => (read xs).map fun (value, rest) => (f value, rest) := by
  intro xs ys value rest hread
  obtain ⟨⟨before, rest'⟩, hbefore, hpair⟩ := Option.map_eq_some_iff.mp hread
  cases hpair
  dsimp only
  rw [h xs ys before _ hbefore]
  rfl

theorem length_lt_of_upTo [DecidableEq α] {sep : α} {xs run rest : List α}
    (h : upTo sep xs = some (run, rest))
    : rest.length < xs.length := by
  induction xs generalizing run with
  | nil => cases h
  | cons x xs ih =>
    simp only [upTo] at h
    split at h
    next =>
      cases h
      simp
    next =>
      obtain ⟨⟨tail, rest⟩, htail, hcons⟩ := Option.map_eq_some_iff.mp h
      cases hcons
      have hlt := ih htail
      simp only [List.length_cons]
      dsimp only at hlt
      omega

theorem length_le_of_take {count : Nat} {xs run rest : List α} (h : take count xs = some (run, rest))
    : rest.length ≤ xs.length := by
  unfold take at h
  split at h
  next => cases h
  next =>
    cases h
    simp

theorem upTo_append_cons [DecidableEq α] {sep : α} {run : List α} (rest : List α) (h : sep ∉ run)
    : upTo sep (run ++ sep :: rest) = some (run, rest) := by
  induction run with
  | nil => simp [upTo]
  | cons x xs ih =>
    rw [List.mem_cons, not_or] at h
    rw [List.cons_append, upTo, if_neg (Ne.symm h.1), ih h.2]
    rfl

theorem take_length_append (run rest : List α) : take run.length (run ++ rest) = some (run, rest) := by
  simp [take]

end Reader
