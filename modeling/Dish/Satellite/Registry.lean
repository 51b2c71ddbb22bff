import Dish.Lib.Patch
import Dish.Manager.Basic

/-!
This module contains the controllers a satellite holds for a session.
-/

open Models

namespace Satellite

abbrev Registry : Type :=
  Int → Option ControllerDescriptor

def Registry.ofDescriptors (descriptors : List ControllerDescriptor) : Registry :=
  fun ctrlIdx => descriptors.find? fun d => d.ctrlIdx = ctrlIdx

def writeOf : Wifi.Call → Option (Int × Option ControllerDescriptor)
  | .putController _ _ _ _ _ descriptor => some (descriptor.ctrlIdx, some descriptor)
  | .deleteController _ _ _ ctrlIdx => some (ctrlIdx, none)
  | _ => none

def Registry.serve (r : Registry) (calls : List Wifi.Call) : Registry :=
  Patch.apply r (calls.filterMap writeOf)

theorem ofDescriptors_eq_some {descriptors : List ControllerDescriptor}
    (hdistinct : (descriptors.map (·.ctrlIdx)).Nodup) {ctrlIdx : Int} {d : ControllerDescriptor}
    : Registry.ofDescriptors descriptors ctrlIdx = some d ↔ d ∈ descriptors ∧ d.ctrlIdx = ctrlIdx := by
  unfold Registry.ofDescriptors
  constructor
  . intro h
    exact ⟨List.mem_of_find?_eq_some h, by simpa using List.find?_some h⟩
  . rintro ⟨hmem, rfl⟩
    induction descriptors with
    | nil => cases hmem
    | cons first rest ih =>
      rw [List.map_cons, List.nodup_cons] at hdistinct
      rcases List.mem_cons.mp hmem with rfl | hmem
      . simp
      . have hne : first.ctrlIdx ≠ d.ctrlIdx := by
          intro heq
          exact hdistinct.1 (List.mem_map.mpr ⟨d, hmem, heq.symm⟩)
        rw [List.find?_cons_of_neg (by simpa using hne)]
        exact ih hdistinct.2 hmem

theorem ofDescriptors_eq_none {descriptors : List ControllerDescriptor} {ctrlIdx : Int}
    : Registry.ofDescriptors descriptors ctrlIdx = none ↔ ∀ d ∈ descriptors, d.ctrlIdx ≠ ctrlIdx := by
  simp [Registry.ofDescriptors]

end Satellite
