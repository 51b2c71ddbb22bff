import Dish.Reducer.SlotPresence

/-!
This module contains what the actions of `resolveBindingPresence` come to as a whole.
-/

open Std

namespace Reducer

variable {b : BoundSlot}

def rebind (bindings : TreeMap String String) (slotId connectionId : String)
    : TreeMap String String :=
  let prior := bindings.toList.find? fun (slot, id) => id = connectionId ∧ slot ≠ slotId
  let current :=
    match (prior.map (·.1)).filter (· ≠ "") with
    | some prior => bindings.erase prior
    | none => bindings
  current.insert slotId connectionId

def BindingPresenceAction.apply (bindings : TreeMap String String) (a : BindingPresenceAction)
    : TreeMap String String :=
  match a.kind with
  | .Unbind => bindings.erase a.slotId
  | .Migrate => rebind (bindings.erase a.slotId) a.toSlotId a.connId

def tableOf (bindings : List BoundSlot) : TreeMap String String :=
  bindings.foldl (fun table b => table.insert b.slotId b.connId) ∅

def rowsOf (identify : String → Option (UInt16 × UInt16)) (table : TreeMap String String)
    : List BoundSlot :=
  table.toList.map fun (slotId, connId) => { slotId, connId, identity := identify slotId }

def Absent (present : List PresentSlot) (slotId : String) : Prop :=
  ∀ s ∈ present, s.id ≠ slotId

def actionFor (present : List PresentSlot) (bindings : List BoundSlot) (b : BoundSlot)
    : BindingPresenceAction :=
  match twinOf present bindings b.identity with
  | some twin => { kind := .Migrate, slotId := b.slotId, toSlotId := twin.id, connId := b.connId }
  | none => { kind := .Unbind, slotId := b.slotId, toSlotId := "", connId := b.connId }

section Actions

variable {present : List PresentSlot} {bindings : List BoundSlot} {a : BindingPresenceAction}

theorem getElem?_bySlotId (bindings : List BoundSlot) (table : TreeMap String BoundSlot)
    (slotId : String)
    : (bindings.foldl (fun table b => table.insertIfNew b.slotId b) table)[slotId]? =
        table[slotId]?.or (bindings.find? (·.slotId = slotId)) := by
  induction bindings generalizing table with
  | nil => simp
  | cons c rest ih =>
    rw [List.foldl_cons, ih, TreeMap.getElem?_insertIfNew, List.find?_cons]
    by_cases hid : c.slotId = slotId
    . obtain rfl := hid
      by_cases hmem : c.slotId ∈ table
      . simp [hmem]
      . simp [hmem]
    . simp [hid]

theorem find?_slotId (hbound : (bindings.map (·.slotId)).Nodup) {slotId : String}
    : bindings.find? (·.slotId = slotId) = some b ↔ b ∈ bindings ∧ b.slotId = slotId := by
  constructor
  . intro hfind
    exact ⟨List.mem_of_find?_eq_some hfind, by simpa using List.find?_some hfind⟩
  . rintro ⟨hb, rfl⟩
    cases hfind : bindings.find? (·.slotId = b.slotId) with
    | none => simpa using List.find?_eq_none.mp hfind b hb
    | some b' =>
      have hid : b'.slotId = b.slotId := by simpa using List.find?_some hfind
      rw [List.inj_on_of_nodup_map hbound (List.mem_of_find?_eq_some hfind) hb hid]

theorem mem_resolveBindingPresence (hbound : (bindings.map (·.slotId)).Nodup)
    : a ∈ resolveBindingPresence present bindings ↔
        ∃ b ∈ bindings, Absent present b.slotId ∧ a = actionFor present bindings b := by
  have hrow {slotId : String} {b : BoundSlot}
      : (bindings.foldl (fun table b => table.insertIfNew b.slotId b) ∅ : TreeMap String BoundSlot)[
          slotId]? = some b ↔ b ∈ bindings ∧ b.slotId = slotId := by
    rw [getElem?_bySlotId, ← find?_slotId hbound]
    simp
  unfold resolveBindingPresence
  rw [List.mem_filterMap]
  simp only [Prod.exists, TreeMap.mem_toList_iff_getElem?_eq_some, hrow]
  constructor
  . rintro ⟨slotId, b, ⟨hb, rfl⟩, ha⟩
    split at ha
    . cases ha
    . next habsent =>
      push Not at habsent
      refine ⟨b, hb, habsent, ?_⟩
      unfold actionFor
      split at ha <;> simp_all
  . rintro ⟨b, hb, habsent, rfl⟩
    refine ⟨b.slotId, b, ⟨hb, rfl⟩, ?_⟩
    have hshown : ¬ ∃ s ∈ present, s.id = b.slotId := by
      rintro ⟨s, hs, hid⟩
      exact habsent s hs hid
    rw [if_neg hshown]
    unfold actionFor
    split <;> simp_all

theorem nodup_slotId_resolveBindingPresence
    : ((resolveBindingPresence present bindings).map (·.slotId)).Nodup := by
  unfold resolveBindingPresence
  rw [List.Nodup, List.pairwise_map]
  refine List.Pairwise.filterMap _ ?_ TreeMap.distinct_keys_toList
  rintro ⟨slotId, b⟩ ⟨slotId', b'⟩ hne a ha a' ha'
  dsimp only at ha ha'
  have hid : a.slotId = slotId := by
    split at ha
    . cases ha
    . split at ha <;> cases ha <;> rfl
  have hid' : a'.slotId = slotId' := by
    split at ha'
    . cases ha'
    . split at ha' <;> cases ha' <;> rfl
  rw [hid, hid']
  simpa using hne

theorem twinOf_eq_some {identity : Option (UInt16 × UInt16)} {twin : PresentSlot}
    (h : twinOf present bindings identity = some twin)
    : twin ∈ present ∧ padIdentityOf identity = some (twin.vendorId, twin.productId) ∧
        identity = some (twin.vendorId, twin.productId) ∧ ∀ b ∈ bindings, b.slotId ≠ twin.id := by
  simp only [twinOf, Option.bind_eq_some_iff] at h
  obtain ⟨pad, hpad, hfind⟩ := h
  have hsame := List.find?_some hfind
  simp only [decide_eq_true_eq] at hsame
  rw [← hsame.1] at hpad
  exact ⟨List.mem_of_find?_eq_some hfind, hpad, (Option.filter_eq_some_iff.mp hpad).1, hsame.2⟩

theorem twinOf_eq_none {identity : Option (UInt16 × UInt16)} {pad : UInt16 × UInt16}
    (h : twinOf present bindings identity = none) (hpad : padIdentityOf identity = some pad)
    {s : PresentSlot} (hs : s ∈ present) (hpads : (s.vendorId, s.productId) = pad)
    : ∃ b ∈ bindings, b.slotId = s.id := by
  by_contra hfree
  push Not at hfree
  rw [twinOf, hpad, Option.bind_some, List.find?_eq_none] at h
  exact h s hs (by simpa using ⟨hpads, hfree⟩)

theorem actionFor_of_twin {twin : PresentSlot} (h : twinOf present bindings b.identity = some twin)
    : actionFor present bindings b =
        { kind := .Migrate, slotId := b.slotId, toSlotId := twin.id, connId := b.connId } := by
  simp [actionFor, h]

theorem actionFor_of_none (h : twinOf present bindings b.identity = none)
    : actionFor present bindings b =
        { kind := .Unbind, slotId := b.slotId, toSlotId := "", connId := b.connId } := by
  simp [actionFor, h]

theorem slotId_actionFor (b : BoundSlot) : (actionFor present bindings b).slotId = b.slotId := by
  unfold actionFor
  split <;> rfl

theorem connId_actionFor (b : BoundSlot) : (actionFor present bindings b).connId = b.connId := by
  unfold actionFor
  split <;> rfl

theorem twin_of_migrate (h : (actionFor present bindings b).kind = .Migrate)
    : ∃ twin, twinOf present bindings b.identity = some twin := by
  cases htwin : twinOf present bindings b.identity with
  | none =>
    rw [actionFor_of_none htwin] at h
    cases h
  | some twin => exact ⟨twin, rfl⟩

def Uncontested (present : List PresentSlot) (bindings : List BoundSlot) : Prop :=
  ∀ b ∈ bindings, ∀ b' ∈ bindings, Absent present b.slotId → Absent present b'.slotId →
    b.identity = b'.identity → twinOf present bindings b.identity ≠ none → b.slotId = b'.slotId

theorem nodup_toSlotId (hpresent : (present.map (·.id)).Nodup)
    (hbound : (bindings.map (·.slotId)).Nodup) (hfree : Uncontested present bindings)
    : (((resolveBindingPresence present bindings).filter (·.kind = .Migrate)).map
        (·.toSlotId)).Nodup := by
  refine List.Nodup.map_on ?_ (nodup_slotId_resolveBindingPresence.of_map.filter _)
  intro a ha a' ha' hto
  simp only [List.mem_filter, mem_resolveBindingPresence hbound, decide_eq_true_eq] at ha ha'
  obtain ⟨⟨b, hb, habsent, rfl⟩, hkind⟩ := ha
  obtain ⟨⟨b', hb', habsent', rfl⟩, hkind'⟩ := ha'
  obtain ⟨twin, htwin⟩ := twin_of_migrate hkind
  obtain ⟨twin', htwin'⟩ := twin_of_migrate hkind'
  rw [actionFor_of_twin htwin, actionFor_of_twin htwin'] at hto
  obtain ⟨hshown, -, hidentity, -⟩ := twinOf_eq_some htwin
  obtain ⟨hshown', -, hidentity', -⟩ := twinOf_eq_some htwin'
  obtain rfl := List.inj_on_of_nodup_map hpresent hshown hshown' hto
  have hid := hfree b hb b' hb' habsent habsent' (hidentity.trans hidentity'.symm) (by simp [htwin])
  rw [List.inj_on_of_nodup_map hbound hb hb' hid]

theorem resolveBindingPresence_eq_nil (h : ∀ b ∈ bindings, ¬ Absent present b.slotId)
    : resolveBindingPresence present bindings = [] := by
  rw [List.eq_nil_iff_forall_not_mem]
  intro a ha
  obtain ⟨b, hb, hid, habsent, -⟩ := of_mem_resolveBindingPresence ha
  rw [← hid] at habsent
  exact h b hb habsent

end Actions

section Applied

variable {table : TreeMap String String} {slotId : String}

theorem mem_rebind {toSlotId connId : String} (h : slotId ∈ rebind table toSlotId connId)
    : slotId = toSlotId ∨ slotId ∈ table := by
  unfold rebind at h
  dsimp only at h
  rw [TreeMap.mem_insert] at h
  rcases h with hto | hmem
  . exact .inl (Std.compare_eq_iff_eq.mp hto).symm
  . right
    split at hmem
    . exact (TreeMap.mem_erase.mp hmem).2
    . exact hmem

theorem mem_apply {a : BindingPresenceAction} (h : slotId ∈ a.apply table)
    : a.kind = .Migrate ∧ slotId = a.toSlotId ∨ slotId ∈ table ∧ slotId ≠ a.slotId := by
  have hkept (hmem : slotId ∈ table.erase a.slotId) : slotId ∈ table ∧ slotId ≠ a.slotId := by
    obtain ⟨hne, hmem⟩ := TreeMap.mem_erase.mp hmem
    refine ⟨hmem, ?_⟩
    rintro rfl
    exact hne compare_self
  unfold BindingPresenceAction.apply at h
  split at h
  . exact .inr (hkept h)
  . next hkind =>
    rcases mem_rebind h with hto | hmem
    . exact .inl ⟨hkind, hto⟩
    . exact .inr (hkept hmem)

theorem mem_foldl_apply {actions : List BindingPresenceAction}
    (h : slotId ∈ actions.foldl BindingPresenceAction.apply table)
    : (∃ a ∈ actions, a.kind = .Migrate ∧ slotId = a.toSlotId) ∨
        slotId ∈ table ∧ ∀ a ∈ actions, slotId ≠ a.slotId := by
  induction actions generalizing table with
  | nil => exact .inr ⟨h, by simp⟩
  | cons a actions ih =>
    rcases ih h with ⟨a', ha', hmigrate⟩ | ⟨hmem, hothers⟩
    . exact .inl ⟨a', List.mem_cons_of_mem _ ha', hmigrate⟩
    . rcases mem_apply hmem with hmigrate | ⟨hmem, hne⟩
      . exact .inl ⟨a, List.mem_cons_self, hmigrate⟩
      . exact .inr ⟨hmem, by simpa using ⟨hne, hothers⟩⟩

theorem mem_foldl_insert {bindings : List BoundSlot}
    (h : slotId ∈ bindings.foldl (fun table b => table.insert b.slotId b.connId) table)
    : slotId ∈ table ∨ ∃ b ∈ bindings, b.slotId = slotId := by
  induction bindings generalizing table with
  | nil => exact .inl h
  | cons b bindings ih =>
    rcases ih h with hmem | ⟨b', hb', hid⟩
    . rcases TreeMap.mem_insert.mp hmem with hid | hmem
      . exact .inr ⟨b, List.mem_cons_self, Std.compare_eq_iff_eq.mp hid⟩
      . exact .inl hmem
    . exact .inr ⟨b', List.mem_cons_of_mem _ hb', hid⟩

theorem mem_tableOf {bindings : List BoundSlot} (h : slotId ∈ tableOf bindings)
    : ∃ b ∈ bindings, b.slotId = slotId := by
  rcases mem_foldl_insert h with hmem | hb
  . simp at hmem
  . exact hb

theorem mem_rowsOf {identify : String → Option (UInt16 × UInt16)} (h : b ∈ rowsOf identify table)
    : b.slotId ∈ table := by
  unfold rowsOf at h
  obtain ⟨⟨slotId, connId⟩, hrow, rfl⟩ := List.mem_map.mp h
  rw [TreeMap.mem_toList_iff_getElem?_eq_some] at hrow
  rw [TreeMap.mem_iff_isSome_getElem?, hrow]
  rfl

end Applied

section Settled

variable {present : List PresentSlot} {bindings : List BoundSlot}

theorem resolveBindingPresence_applied (hbound : (bindings.map (·.slotId)).Nodup)
    (identify : String → Option (UInt16 × UInt16))
    : resolveBindingPresence present (rowsOf identify
        ((resolveBindingPresence present bindings).foldl BindingPresenceAction.apply
          (tableOf bindings))) = [] := by
  refine resolveBindingPresence_eq_nil ?_
  intro row hrow habsent
  rcases mem_foldl_apply (mem_rowsOf hrow) with ⟨a, ha, hkind, hto⟩ | ⟨hmem, hothers⟩
  . obtain ⟨b, -, -, -, hmigrate⟩ := of_mem_resolveBindingPresence ha
    obtain ⟨twin, htwin, hid, -⟩ := hmigrate hkind
    rw [hto] at habsent
    exact habsent twin htwin hid
  . obtain ⟨b, hb, hid⟩ := mem_tableOf hmem
    have ha := (mem_resolveBindingPresence hbound).mpr ⟨b, hb, hid ▸ habsent, rfl⟩
    exact hothers _ ha (by rw [slotId_actionFor, hid])

def deskSlots : List PresentSlot :=
  [⟨"sdl:3", 0x054C, 0x0CE6⟩, ⟨"sdl:4", 0x045E, 0x02EA⟩]

def deskBindings : List BoundSlot :=
  [⟨"sdl:1", "c1", some (0x054C, 0x0CE6)⟩, ⟨"sdl:4", "c2", some (0x045E, 0x02EA)⟩,
    ⟨"sdl:2", "c3", some (0x057E, 0x2009)⟩]

theorem uncontested_desk : Uncontested deskSlots deskBindings := by
  unfold Uncontested Absent
  decide +kernel

end Settled

end Reducer
