import Dish.Moonlight.Lemmas.Refused
import Dish.Moonlight.Reattach

/-!
This module contains what putting bindings back does to the file and to the routes.
-/

open Std

namespace Moonlight

section Records

variable {records : List MoonlightBinding} {items : List Reattach} {item : Reattach}
  {driving : List String}

def Clear (driving : List String) (records : List MoonlightBinding) (item : Reattach) : Prop :=
  item.binding.slotId ∉ driving ∧
    (item.slotId = item.binding.slotId ∨ ∀ b ∈ records, b.slotId ≠ item.slotId)

def Orderly (driving : List String) : List MoonlightBinding → List Reattach → Prop
  | _, [] => True
  | records, item :: items =>
    Clear driving records item ∧ Orderly driving (item.rewrite records) items

theorem rememberBinding_of_free {binding : MoonlightBinding}
    (h : ∀ b ∈ records, b.slotId ≠ binding.slotId)
    : rememberBinding binding records = records ++ [binding] := by
  induction records with
  | nil => rfl
  | cons b records ih =>
    have hb := h b List.mem_cons_self
    rw [rememberBinding, if_neg hb, ih (fun b' hb' => h b' (List.mem_cons_of_mem _ hb'))]
    rfl

theorem forgetBinding_eq_erase (hslots : (records.map (·.slotId)).Nodup) {b : MoonlightBinding}
    (hb : b ∈ records)
    : forgetBinding b.slotId records = records.erase b := by
  rw [forgetBinding, hslots.of_map.erase_eq_filter]
  refine List.filter_congr ?_
  intro b' hb'
  have hinj : b'.slotId = b.slotId ↔ b' = b :=
    ⟨List.inj_on_of_nodup_map hslots hb' hb, congrArg _⟩
  by_cases hsame : b' = b <;> simp [hinj, hsame]

theorem Clear.ne (hclear : Clear driving records item) (hslots : (records.map (·.slotId)).Nodup)
    (hitem : item.binding ∈ records) {b : MoonlightBinding} (hb : b ∈ records.erase item.binding)
    : b.slotId ≠ item.slotId := by
  obtain ⟨hne, hmem⟩ := hslots.of_map.mem_erase_iff.mp hb
  rcases hclear.2 with hown | hfree
  . rw [hown]
    intro hslot
    exact hne (List.inj_on_of_nodup_map hslots hmem hitem hslot)
  . exact hfree b hmem

theorem rewrite_perm (hslots : (records.map (·.slotId)).Nodup) (hitem : item.binding ∈ records)
    (hclear : Clear driving records item)
    : (item.rewrite records).Perm (item.record :: records.erase item.binding) := by
  unfold Reattach.rewrite
  split
  . rw [forgetBinding_eq_erase hslots hitem, rememberBinding_of_free]
    . exact List.perm_append_singleton _ _
    . intro b hb
      exact hclear.ne hslots hitem hb
  . next hsame =>
    push Not at hsame
    have hrecord : item.record = item.binding := by
      cases item with
      | mk binding slotId identity named =>
        dsimp only at hsame
        obtain ⟨rfl, rfl⟩ := hsame
        rfl
    rw [hrecord]
    exact List.perm_cons_erase hitem

structure Carried (records : List MoonlightBinding) (items : List Reattach)
    (final : List MoonlightBinding) : Prop where
  slots : (final.map (·.slotId)).Nodup
  picks : (final.map fun b => (b.hostId, b.controllerType)).Perm
    (records.map fun b => (b.hostId, b.controllerType))
  others : ∀ b ∈ records, (∀ item ∈ items, item.binding ≠ b) → b ∈ final
  moved : ∀ item ∈ items, item.record ∈ final

theorem nodup_rewrite (hslots : (records.map (·.slotId)).Nodup) (hitem : item.binding ∈ records)
    (hclear : Clear driving records item)
    : ((item.record :: records.erase item.binding).map (·.slotId)).Nodup := by
  rw [List.map_cons, List.nodup_cons, List.mem_map]
  constructor
  . rintro ⟨b, hb, hslot⟩
    exact hclear.ne hslots hitem hb hslot
  . exact hslots.sublist (List.erase_sublist.map _)

theorem carried (hslots : (records.map (·.slotId)).Nodup)
    (hdistinct : (items.map (·.binding)).Nodup) (hitems : ∀ item ∈ items, item.binding ∈ records)
    (horderly : Orderly driving records items)
    : Carried records items (items.foldl (fun records item => item.rewrite records) records) := by
  induction items generalizing records with
  | nil => exact ⟨hslots, .refl _, fun b hb _ => hb, by simp⟩
  | cons item items ih =>
    obtain ⟨hclear, horderly⟩ := horderly
    obtain ⟨hnot, hdistinct⟩ := List.nodup_cons.mp hdistinct
    have hitem := hitems item List.mem_cons_self
    have hperm := rewrite_perm hslots hitem hclear
    have hnodup := nodup_rewrite hslots hitem hclear
    -- The later items' bindings are still on file: their records are not the one that was moved.
    have hkept {b : MoonlightBinding} (hb : b ∈ records) (hne : b ≠ item.binding)
        : b ∈ records.erase item.binding := hslots.of_map.mem_erase_iff.mpr ⟨hne, hb⟩
    have hlater (item' : Reattach) (hitem' : item' ∈ items)
        : item'.binding ∈ records.erase item.binding := by
      refine hkept (hitems item' (List.mem_cons_of_mem _ hitem')) ?_
      intro hsame
      exact hnot (List.mem_map.mpr ⟨item', hitem', hsame⟩)
    have hcarried := ih ((hperm.map _).nodup_iff.mpr hnodup) hdistinct
      (fun item' hitem' => hperm.mem_iff.mpr (List.mem_cons_of_mem _ (hlater item' hitem')))
      horderly
    constructor
    . exact hcarried.slots
    . refine hcarried.picks.trans ((hperm.map _).trans ?_)
      have hsame : (item.record.hostId, item.record.controllerType) =
          (item.binding.hostId, item.binding.controllerType) := rfl
      rw [List.map_cons, hsame]
      exact ((List.perm_cons_erase hitem).map fun b => (b.hostId, b.controllerType)).symm
    . intro b hb hothers
      refine hcarried.others b ?_ fun item' hitem' => hothers item' (List.mem_cons_of_mem _ hitem')
      exact hperm.mem_iff.mpr
        (List.mem_cons_of_mem _ (hkept hb (hothers item List.mem_cons_self).symm))
    . intro item' hitem'
      rcases List.mem_cons.mp hitem' with rfl | hitem'
      . refine hcarried.others _ (hperm.mem_iff.mpr List.mem_cons_self) ?_
        intro later hlater' hsame
        refine (List.nodup_cons.mp hnodup).1 ?_
        rw [← hsame]
        exact List.mem_map_of_mem (hlater later hlater')
      . exact hcarried.moved item' hitem'

theorem Orderly.not_driving (h : Orderly driving records items)
    : ∀ item ∈ items, item.binding.slotId ∉ driving := by
  induction items generalizing records with
  | nil => simp
  | cons item items ih =>
    intro item' hitem'
    rcases List.mem_cons.mp hitem' with rfl | hlater
    . exact h.1.1
    . exact ih h.2 item' hlater

end Records

section Items

variable {present : List PresentPad} {driving claimed : List String}
  {standing : List MoonlightBinding}

theorem sublist_go
    : ((bindingsToReattach.go present driving claimed standing).map (·.binding)).Sublist
        standing := by
  fun_induction bindingsToReattach.go present driving claimed standing with
  | case1 claimed => exact .refl _
  | case2 claimed binding standing hpad ih => exact ih.cons _
  | case3 claimed binding standing pad hpad rest hdriving ih => exact ih.cons _
  | case4 claimed binding standing pad hpad rest hdriving ih => exact ih.cons_cons _

theorem slotId_go
    : ∀ item ∈ bindingsToReattach.go present driving claimed standing,
        item.slotId ∉ claimed ∧ item.slotId ∉ driving := by
  fun_induction bindingsToReattach.go present driving claimed standing with
  | case1 claimed => simp
  | case2 claimed binding standing hpad ih => exact ih
  | case3 claimed binding standing pad hpad rest hdriving ih =>
    intro item hitem
    obtain ⟨hclaimed, hdriven⟩ := ih item hitem
    exact ⟨fun hmem => hclaimed (List.mem_cons_of_mem _ hmem), hdriven⟩
  | case4 claimed binding standing pad hpad rest hdriving ih =>
    intro item hitem
    rcases List.mem_cons.mp hitem with rfl | hitem
    . have hfree := List.find?_some hpad
      simp only [decide_eq_true_eq] at hfree
      exact ⟨hfree.1, hdriving⟩
    . obtain ⟨hclaimed, hdriven⟩ := ih item hitem
      exact ⟨fun hmem => hclaimed (List.mem_cons_of_mem _ hmem), hdriven⟩

theorem nodup_slotId_go
    : ((bindingsToReattach.go present driving claimed standing).map (·.slotId)).Nodup := by
  fun_induction bindingsToReattach.go present driving claimed standing with
  | case1 claimed => simp
  | case2 claimed binding standing hpad ih => exact ih
  | case3 claimed binding standing pad hpad rest hdriving ih => exact ih
  | case4 claimed binding standing pad hpad rest hdriving ih =>
    rw [List.map_cons, List.nodup_cons]
    refine ⟨?_, ih⟩
    rw [List.mem_map]
    rintro ⟨item, hitem, hslot⟩
    exact (slotId_go item hitem).1 (hslot ▸ List.mem_cons_self)

end Items

namespace MoonlightManager

variable {m : MoonlightManager} {slotId slotId' hostId : String} {ask : BindRequest}

theorem Sound.assignment_bindSlot_ne (h : m.Sound) (hne : slotId' ≠ slotId)
    : (m.bindSlot slotId hostId ask).2.assignment slotId' = m.assignment slotId' := by
  rcases h.bindSlot_cases slotId hostId ask with
    ⟨_, hsame⟩ | ⟨m₁, session, h₁, hroutes, _, _, ⟨held, _, heq⟩ | heq⟩
  . rw [hsame]
  . rw [heq, assignment_bindInPlace, assignment, hroutes]
    rfl
  . have hunbound : (m₁.unbindSlot slotId).assignment slotId' = m.assignment slotId' := by
      rw [assignment_unbindSlot, if_neg hne, assignment, hroutes]
      rfl
    rcases bindFresh_cases (m := m₁.unbindSlot slotId) slotId hostId session ask with
      ⟨_, hfull⟩ | ⟨n, p, m', _, hbound, hkeeps⟩
    . rw [heq, hfull]
      exact hunbound
    . rw [heq, hbound, hkeeps.assignment, assignment_withSlot, if_neg hne, hunbound]

theorem Sound.assignment_bindSlot_bound (h : m.Sound)
    (hbound : (m.bindSlot slotId hostId ask).1 = .Bound)
    : ∃ n, (m.bindSlot slotId hostId ask).2.assignment slotId = some (hostId, n) := by
  rcases h.bindSlot_cases slotId hostId ask with
    ⟨hrefused, _⟩ | ⟨m₁, session, h₁, hroutes, _, _, ⟨held, hheld, heq⟩ | heq⟩
  . exact absurd hbound hrefused
  . refine ⟨held, ?_⟩
    rw [heq, assignment_bindInPlace, assignment, hroutes]
    exact hheld
  . rw [heq] at hbound
    rcases bindFresh_cases (m := m₁.unbindSlot slotId) slotId hostId session ask with
      ⟨_, hfull⟩ | ⟨n, p, m', _, hbound', hkeeps⟩
    . rw [hfull] at hbound
      cases hbound
    . refine ⟨n, ?_⟩
      rw [heq, hbound', hkeeps.assignment, assignment_withSlot, if_pos rfl]

end MoonlightManager

namespace Reattaching

open MoonlightManager

variable {r : Reattaching} {ask : Reattach → BindRequest} {items : List Reattach}

theorem records_foldl
    : (items.foldl (reattach ask) r).records =
        items.foldl (fun records item => item.rewrite records) r.records := by
  induction items generalizing r with
  | nil => rfl
  | cons item items ih => exact ih

theorem routed_foldl (ask : Reattach → BindRequest) (hsound : r.manager.Sound)
    (hslots : (items.map (·.slotId)).Nodup)
    : (∀ slotId ∉ items.map (·.slotId),
        (items.foldl (reattach ask) r).manager.assignment slotId = r.manager.assignment slotId) ∧
      ∃ outcomes, (items.foldl (reattach ask) r).outcomes = r.outcomes ++ outcomes ∧
        outcomes.map Prod.fst = items ∧
        ∀ item, (item, .Bound) ∈ outcomes →
          ∃ n, (items.foldl (reattach ask) r).manager.assignment item.slotId =
            some (item.binding.hostId, n) := by
  induction items generalizing r with
  | nil => exact ⟨fun _ _ => rfl, [], by simp⟩
  | cons item items ih =>
    obtain ⟨hfirst, hslots⟩ := List.nodup_cons.mp hslots
    have hsound' : (r.reattach ask item).manager.Sound :=
      hsound.bindSlot item.slotId item.binding.hostId (ask item)
    obtain ⟨hothers, outcomes, houtcomes, htried, hbound⟩ := ih hsound' hslots
    constructor
    . intro slotId hslot
      rw [List.map_cons, List.mem_cons, not_or] at hslot
      exact (hothers slotId hslot.2).trans (hsound.assignment_bindSlot_ne hslot.1)
    . refine ⟨_ :: outcomes, houtcomes.trans (List.append_assoc _ _ _), ?_, ?_⟩
      . exact congrArg (item :: ·) htried
      . intro item' hitem'
        rcases List.mem_cons.mp hitem' with hsame | hlater
        . obtain ⟨rfl, houtcome⟩ := Prod.mk.inj hsame
          obtain ⟨n, hn⟩ := hsound.assignment_bindSlot_bound houtcome.symm
          exact ⟨n, (hothers item'.slotId hfirst).trans hn⟩
        . exact hbound item' hlater

structure PutBack (r : Reattaching) (driving : List String) (items : List Reattach)
    (final : Reattaching) : Prop extends Carried r.records items final.records where
  driven : ∀ b ∈ r.records, b.slotId ∈ driving →
    b ∈ final.records ∧ final.manager.assignment b.slotId = r.manager.assignment b.slotId
  tried : final.outcomes.map Prod.fst = items
  routed : ∀ item, (item, .Bound) ∈ final.outcomes →
    ∃ n, final.manager.assignment item.slotId = some (item.record.hostId, n)

def denTwin : MoonlightBinding where
  slotId := "sdl:1"
  hostId := "den"
  controllerType := 0
  padIdentity := "dualsense"
  named := by decide
  hosted := by decide

def atticTwin : MoonlightBinding where
  slotId := "sdl:2"
  hostId := "attic"
  controllerType := 0
  padIdentity := "dualsense"
  named := by decide
  hosted := by decide

def twinAt (slotId : String) (named : slotId ≠ "") : PresentPad :=
  { slotId, identity := "dualsense", named }

end Reattaching

end Moonlight
