import Mathlib.Logic.Function.Basic

/-!
This module contains lists of writes to a function that turn it into another.
-/

namespace Patch

variable {ι : Type u} {β : Type v} [DecidableEq ι]

def apply (f : ι → β) (writes : List (ι × β)) : ι → β :=
  writes.foldl (fun f w => Function.update f w.1 w.2) f

@[simp]
theorem apply_cons (f : ι → β) (w : ι × β) (writes : List (ι × β))
    : apply f (w :: writes) = apply (Function.update f w.1 w.2) writes := by
  rfl

theorem apply_eq_of_covers {f g : ι → β} {writes : List (ι × β)}
    (hvalues : ∀ w ∈ writes, w.2 = g w.1)
    (hcovers : ∀ i, f i ≠ g i → i ∈ writes.map Prod.fst)
    : apply f writes = g := by
  induction writes generalizing f with
  | nil =>
    funext i
    by_contra hne
    simpa using hcovers i hne
  | cons w writes ih =>
    rw [apply_cons]
    apply ih
    . intro w' hw'
      exact hvalues w' (List.mem_cons_of_mem _ hw')
    . intro i hne
      by_cases hi : i = w.1
      . -- the write at the head has settled this place
        rw [hi, Function.update_self] at hne
        exact absurd (hvalues w List.mem_cons_self) hne
      . rw [Function.update_of_ne hi] at hne
        rcases List.mem_cons.mp (hcovers i hne) with hhead | htail
        . exact absurd hhead hi
        . exact htail

end Patch
