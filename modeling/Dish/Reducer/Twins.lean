import Mathlib.Data.List.Dedup
import Dish.Reducer.SlotPresence

/-!
This module contains which routed devices are hidden while pads of their model are claimed.
-/

namespace Reducer

variable {synthetics : List SyntheticTwin} {routed : List RoutedDevice} {d e : RoutedDevice}

def RoutedDevice.model (d : RoutedDevice) : Nat :=
  twinModelKey d.vendorId d.productId

def claimsOf (synthetics : List SyntheticTwin) (model : Nat) : Nat :=
  ((synthetics.filter fun s => s.vendorId ≠ 0 ∧ s.productId ≠ 0).map fun s =>
    twinModelKey s.vendorId s.productId).count model

def ranked (routed : List RoutedDevice) (model : Nat) : List RoutedDevice :=
  (routed.filter (·.model = model)).mergeSort fun a b => a.rank ≤ b.rank

def Hides (synthetics : List SyntheticTwin) (routed : List RoutedDevice) (d : RoutedDevice) : Prop :=
  d.id ∈ suppressedRoutedIds synthetics routed

instance : Decidable (Hides synthetics routed d) :=
  inferInstanceAs (Decidable (_ ∈ _))

def hiddenOf (synthetics : List SyntheticTwin) (routed : List RoutedDevice) (model : Nat)
    : List RoutedDevice :=
  routed.filter fun d => d.model = model ∧ Hides synthetics routed d

/-- A model with two wireless pads has no more claims than wired ones. -/
def Spares (synthetics : List SyntheticTwin) (routed : List RoutedDevice) : Prop :=
  ∀ d ∈ routed, ∀ e ∈ routed, d.model = e.model → d.bluetooth = true → e.bluetooth = true →
    d ≠ e → claimsOf synthetics d.model ≤
      (routed.filter fun r => r.model = d.model ∧ r.bluetooth = false).length

instance : Decidable (Spares synthetics routed) :=
  inferInstanceAs (Decidable (∀ d ∈ routed, ∀ e ∈ routed, _))

theorem twinModelKey_inj {v p v' p' : UInt16} (h : twinModelKey v p = twinModelKey v' p')
    : v = v' ∧ p = p' := by
  have hp := p.toNat_lt
  have hp' := p'.toNat_lt
  unfold twinModelKey at h
  rw [← Nat.shiftLeft_add_eq_or_of_lt (by omega), ← Nat.shiftLeft_add_eq_or_of_lt (by omega),
    Nat.shiftLeft_eq, Nat.shiftLeft_eq] at h
  exact ⟨UInt16.toNat_inj.mp (by omega), UInt16.toNat_inj.mp (by omega)⟩

theorem mem_ranked {model : Nat} : d ∈ ranked routed model ↔ d ∈ routed ∧ d.model = model := by
  simp [ranked]

theorem mem_suppressedRoutedIds {id : String}
    : id ∈ suppressedRoutedIds synthetics routed ↔
        ∃ d, d ∈ (ranked routed d.model).take (claimsOf synthetics d.model) ∧ d.id = id := by
  unfold suppressedRoutedIds
  simp only [List.mem_flatMap, List.mem_dedup, List.mem_map]
  constructor
  . rintro ⟨model, _, d, hd, rfl⟩
    obtain rfl : d.model = model := (mem_ranked.mp (List.mem_of_mem_take hd)).2
    exact ⟨d, hd, rfl⟩
  . rintro ⟨d, hd, rfl⟩
    refine ⟨d.model, ?_, d, hd, rfl⟩
    by_contra hnone
    have hzero : claimsOf synthetics d.model = 0 := List.count_eq_zero.mpr (by simpa using hnone)
    simp [hzero] at hd

theorem hides_iff (hids : (routed.map (·.id)).Nodup) (hd : d ∈ routed)
    : Hides synthetics routed d ↔
        d ∈ (ranked routed d.model).take (claimsOf synthetics d.model) := by
  rw [Hides, mem_suppressedRoutedIds]
  constructor
  . rintro ⟨e, he, hid⟩
    have hmem := (mem_ranked.mp (List.mem_of_mem_take he)).1
    rwa [List.inj_on_of_nodup_map hids hmem hd hid] at he
  . exact fun h => ⟨d, h, rfl⟩

theorem rank_le (hids : (routed.map (·.id)).Nodup) (hd : d ∈ routed) (he : e ∈ routed)
    (hmodel : e.model = d.model) (hhidden : Hides synthetics routed e)
    (hleft : ¬Hides synthetics routed d)
    : e.rank ≤ d.rank := by
  rw [hides_iff hids hd] at hleft
  rw [hides_iff hids he, hmodel] at hhidden
  have hsorted : (ranked routed d.model).Pairwise fun a b => decide (a.rank ≤ b.rank) = true := by
    apply List.pairwise_mergeSort
    . intro a b c
      simp only [decide_eq_true_eq]
      omega
    . intro a b
      simp only [Bool.or_eq_true, decide_eq_true_eq]
      omega
  have hall : d ∈ ranked routed d.model := mem_ranked.mpr ⟨hd, rfl⟩
  rw [← List.take_append_drop (claimsOf synthetics d.model) (ranked routed d.model)] at hsorted hall
  exact of_decide_eq_true ((List.pairwise_append.mp hsorted).2.2 e hhidden d
    ((List.mem_append.mp hall).resolve_left hleft))

theorem length_hiddenOf (synthetics : List SyntheticTwin) (hids : (routed.map (·.id)).Nodup)
    (model : Nat)
    : (hiddenOf synthetics routed model).length =
        min (claimsOf synthetics model) (routed.filter (·.model = model)).length := by
  have hnodup : routed.Nodup := hids.of_map
  have hperm : (hiddenOf synthetics routed model).Perm
      ((ranked routed model).take (claimsOf synthetics model)) := by
    rw [List.perm_ext_iff_of_nodup]
    . intro d
      simp only [hiddenOf, List.mem_filter, decide_eq_true_eq]
      constructor
      . rintro ⟨hd, rfl, hhidden⟩
        exact (hides_iff hids hd).mp hhidden
      . intro hd
        obtain ⟨hmem, rfl⟩ := mem_ranked.mp (List.mem_of_mem_take hd)
        exact ⟨hmem, rfl, (hides_iff hids hmem).mpr hd⟩
    . exact hnodup.filter _
    . apply List.Nodup.sublist (List.take_sublist ..)
      exact (List.mergeSort_perm _ _).nodup_iff.mpr (hnodup.filter _)
  rw [hperm.length_eq, List.length_take, ranked, List.length_mergeSort]

theorem alone_of_bluetooth (hids : (routed.map (·.id)).Nodup) (hspares : Spares synthetics routed)
    (hd : d ∈ routed) (hhidden : Hides synthetics routed d)
    (hblue : d.bluetooth = true) (he : e ∈ routed) (hmodel : e.model = d.model) (hne : e ≠ d)
    : e.bluetooth = false ∧ Hides synthetics routed e := by
  have hwired (e : RoutedDevice) (he : e ∈ routed) (hmodel : e.model = d.model)
      (husb : e.bluetooth = false) : Hides synthetics routed e := by
    by_contra hleft
    have := rank_le hids he hd hmodel.symm hhidden hleft
    simp only [RoutedDevice.rank, hblue, husb, if_true, Bool.false_eq_true, if_false] at this
    split at this <;> split at this <;> omega
  cases hother : e.bluetooth with
  | false => exact ⟨rfl, hwired e he hmodel hother⟩
  | true =>
    -- the wired ones and the pad itself are more than the claims there are
    have hclaims := hspares d hd e he hmodel.symm hblue hother hne.symm
    have hcount := length_hiddenOf synthetics hids d.model
    have hmore : (d :: routed.filter fun r => r.model = d.model ∧ r.bluetooth = false).length ≤
        (hiddenOf synthetics routed d.model).length := by
      apply List.Subperm.length_le
      apply List.subperm_of_subset
      . exact List.nodup_cons.mpr ⟨by simp [hblue], hids.of_map.filter _⟩
      . intro r hr
        simp only [List.mem_cons, List.mem_filter, decide_eq_true_eq, hiddenOf] at hr ⊢
        rcases hr with rfl | ⟨hmem, hmodel, husb⟩
        . exact ⟨hd, rfl, hhidden⟩
        . exact ⟨hmem, hmodel, hwired r hmem hmodel husb⟩
    rw [List.length_cons] at hmore
    omega

def twin (id : String) (bluetooth : Bool) : RoutedDevice :=
  ⟨id, 1, 2, false, bluetooth⟩

end Reducer
