import Dish.Update.Version
import Mathlib.Data.Nat.Digits.Defs
import Mathlib.Data.Prod.Lex

/-!
This module contains the grammar of a version text and the laws of its ordering.
-/

namespace Update

variable {a b : String}

structure IsComponent (part : List Char) : Prop where
  nonempty : part ≠ []
  digits : ∀ ch ∈ part, '0' ≤ ch ∧ ch ≤ '9'
  fits : Nat.ofDigits 10 (part.map fun ch => ch.toNat - '0'.toNat).reverse < 2 ^ 31

def IsTriple (text : String) : Prop :=
  ∃ major minor patch, text.toList = major ++ '.' :: (minor ++ '.' :: patch) ∧
    IsComponent major ∧ IsComponent minor ∧ IsComponent patch

theorem decimalValue_eq_ofDigits (part : List Char)
    : decimalValue part = Nat.ofDigits 10 (part.map fun ch => ch.toNat - '0'.toNat).reverse := by
  rw [Nat.ofDigits_eq_foldr]
  rw [List.foldr_reverse]
  rw [List.foldl_map]
  unfold decimalValue
  congr 1
  funext value ch
  simp [Nat.add_comm]

theorem parseComponent_isSome (part : List Char)
    : (parseComponent part).isSome ↔ IsComponent part := by
  have hdigits : part.all isDigit = true ↔ ∀ ch ∈ part, '0' ≤ ch ∧ ch ≤ '9' := by
    simp [isDigit]
  have hfits : decimalValue part ≤ kIntMax ↔
      Nat.ofDigits 10 (part.map fun ch => ch.toNat - '0'.toNat).reverse < 2 ^ 31 := by
    rw [← decimalValue_eq_ofDigits]
    unfold kIntMax
    omega
  unfold parseComponent
  constructor
  . intro h
    split at h
    . cases h
    . next hempty =>
      split at h
      . next hall =>
        dsimp only at h
        split at h
        . next hle =>
          exact ⟨by simpa using hempty, hdigits.mp hall, hfits.mp hle⟩
        . cases h
      . cases h
  . intro h
    rw [if_neg (by simpa using h.nonempty)]
    rw [if_pos (hdigits.mpr h.digits)]
    dsimp only
    rw [if_pos (hfits.mpr h.fits)]
    rfl

theorem dot_not_mem_of_isComponent {part : List Char} (h : IsComponent part) : '.' ∉ part := by
  intro hdot
  exact absurd (h.digits '.' hdot) (by decide)

theorem cutAtDot_eq_some {text left right : List Char}
    : cutAtDot text = some (left, right) ↔ text = left ++ '.' :: right ∧ '.' ∉ left := by
  induction text generalizing left with
  | nil => simp [cutAtDot]
  | cons ch rest ih =>
    simp only [cutAtDot]
    split
    . next hdot =>
      subst hdot
      cases left with
      | nil => simp [eq_comm]
      | cons first left =>
        simp only [Option.some.injEq, Prod.mk.injEq, List.cons_append, List.cons.injEq,
          List.mem_cons, not_or]
        constructor
        . rintro ⟨⟨⟩, _⟩
        . rintro ⟨⟨rfl, _⟩, hne, _⟩
          exact absurd rfl hne
    . next hdot =>
      rw [Option.map_eq_some_iff]
      constructor
      . rintro ⟨⟨tail, right'⟩, htail, hpair⟩
        cases hpair
        obtain ⟨rfl, hmem⟩ := ih.mp htail
        exact ⟨rfl, by simp [hmem, Ne.symm hdot]⟩
      . rintro ⟨htext, hmem⟩
        cases left with
        | nil =>
          cases htext
          exact absurd rfl hdot
        | cons first left =>
          simp only [List.cons_append, List.cons.injEq] at htext
          obtain ⟨rfl, hrest⟩ := htext
          refine ⟨(left, right), ih.mpr ⟨hrest, ?_⟩, rfl⟩
          exact fun h => hmem (List.mem_cons_of_mem _ h)

theorem cutAtDot_isSome (text : List Char) : (cutAtDot text).isSome ↔ '.' ∈ text := by
  induction text with
  | nil => simp [cutAtDot]
  | cons ch rest ih =>
    simp only [cutAtDot]
    split
    . next hdot => simp [hdot]
    . next hdot => simp [ih, Ne.symm hdot]

theorem parse_eq_some {text : String} {v : UpdateVersion}
    : UpdateVersion.parse text = some v ↔
        ∃ major minor patch, text.toList = major ++ '.' :: (minor ++ '.' :: patch) ∧
          parseComponent major = some v.major ∧ parseComponent minor = some v.minor ∧
          parseComponent patch = some v.patch := by
  have hcomponent : ∀ {part : List Char} {n : Nat}, parseComponent part = some n → '.' ∉ part := by
    intro part n h
    exact dot_not_mem_of_isComponent ((parseComponent_isSome part).mp (by rw [h]; rfl))
  unfold UpdateVersion.parse
  constructor
  . intro h
    obtain ⟨⟨major, rest⟩, hfirst, h⟩ := Option.bind_eq_some_iff.mp h
    obtain ⟨⟨minor, patch⟩, hsecond, h⟩ := Option.bind_eq_some_iff.mp h
    dsimp only at h
    split at h
    . cases h
    . obtain ⟨a, hmajor, h⟩ := Option.bind_eq_some_iff.mp h
      obtain ⟨b, hminor, h⟩ := Option.bind_eq_some_iff.mp h
      obtain ⟨c, hpatch, h⟩ := Option.bind_eq_some_iff.mp h
      cases h
      obtain ⟨htext, _⟩ := cutAtDot_eq_some.mp hfirst
      obtain ⟨hrest, _⟩ := cutAtDot_eq_some.mp hsecond
      exact ⟨major, minor, patch, by rw [htext, hrest], hmajor, hminor, hpatch⟩
  . rintro ⟨major, minor, patch, htext, hmajor, hminor, hpatch⟩
    rw [cutAtDot_eq_some.mpr ⟨htext, hcomponent hmajor⟩]
    rw [Option.bind_eq_bind, Option.bind_some]
    dsimp only
    rw [cutAtDot_eq_some.mpr ⟨rfl, hcomponent hminor⟩]
    rw [Option.bind_some]
    dsimp only
    rw [if_neg (by rw [cutAtDot_isSome]; exact hcomponent hpatch)]
    rw [hmajor, hminor, hpatch]
    rfl

theorem parse_isSome (text : String) : (UpdateVersion.parse text).isSome ↔ IsTriple text := by
  constructor
  . intro h
    obtain ⟨v, hv⟩ := Option.isSome_iff_exists.mp h
    obtain ⟨major, minor, patch, htext, hmajor, hminor, hpatch⟩ := parse_eq_some.mp hv
    refine ⟨major, minor, patch, htext, ?_, ?_, ?_⟩
    . exact (parseComponent_isSome major).mp (by rw [hmajor]; rfl)
    . exact (parseComponent_isSome minor).mp (by rw [hminor]; rfl)
    . exact (parseComponent_isSome patch).mp (by rw [hpatch]; rfl)
  . rintro ⟨major, minor, patch, htext, hmajor, hminor, hpatch⟩
    obtain ⟨a, ha⟩ := Option.isSome_iff_exists.mp ((parseComponent_isSome major).mpr hmajor)
    obtain ⟨b, hb⟩ := Option.isSome_iff_exists.mp ((parseComponent_isSome minor).mpr hminor)
    obtain ⟨c, hc⟩ := Option.isSome_iff_exists.mp ((parseComponent_isSome patch).mpr hpatch)
    have hv : UpdateVersion.parse text = some { major := a, minor := b, patch := c } :=
      parse_eq_some.mpr ⟨major, minor, patch, htext, ha, hb, hc⟩
    rw [hv]
    rfl

def UpdateVersion.key (v : UpdateVersion) : ℕ ×ₗ ℕ ×ₗ ℕ :=
  toLex (v.major, toLex (v.minor, v.patch))

theorem UpdateVersion.key_injective : Function.Injective UpdateVersion.key := by
  intro v o h
  obtain ⟨a, b, c⟩ := v
  obtain ⟨d, e, f⟩ := o
  simpa [UpdateVersion.key] using h

theorem UpdateVersion.lt_iff_key (v o : UpdateVersion) : v.lt o = true ↔ v.key < o.key := by
  unfold UpdateVersion.lt UpdateVersion.key
  rw [Prod.Lex.toLex_lt_toLex, Prod.Lex.toLex_lt_toLex]
  simp

theorem isStrictlyNewer_of_parse {va vb : UpdateVersion}
    (ha : UpdateVersion.parse a = some va) (hb : UpdateVersion.parse b = some vb)
    : isStrictlyNewer a b = true ↔ vb.key < va.key := by
  unfold isStrictlyNewer compareVersions
  rw [ha, hb]
  simp only [Option.bind_eq_bind, Option.bind_some]
  rw [← UpdateVersion.lt_iff_key]
  by_cases hlt : va.lt vb = true
  . have hnot : ¬vb.lt va = true := by
      rw [UpdateVersion.lt_iff_key] at hlt ⊢
      exact lt_asymm hlt
    simp [hlt, hnot]
  . by_cases hgt : vb.lt va = true
    . simp [hlt, hgt]
    . simp [hlt, hgt]

theorem isStrictlyNewer_iff
    : isStrictlyNewer a b = true ↔
        ∃ va vb, UpdateVersion.parse a = some va ∧ UpdateVersion.parse b = some vb ∧
          vb.key < va.key := by
  constructor
  . intro h
    cases ha : UpdateVersion.parse a with
    | none => simp [isStrictlyNewer, compareVersions, ha] at h
    | some va =>
      cases hb : UpdateVersion.parse b with
      | none => simp [isStrictlyNewer, compareVersions, ha, hb] at h
      | some vb => exact ⟨va, vb, rfl, rfl, (isStrictlyNewer_of_parse ha hb).mp h⟩
  . rintro ⟨va, vb, ha, hb, hlt⟩
    exact (isStrictlyNewer_of_parse ha hb).mpr hlt

theorem isStrictlyNewer_irrefl (a : String) : isStrictlyNewer a a = false := by
  rw [Bool.eq_false_iff]
  intro h
  obtain ⟨va, vb, ha, hb, hlt⟩ := isStrictlyNewer_iff.mp h
  cases ha.symm.trans hb
  exact lt_irrefl _ hlt

theorem isStrictlyNewer_trans {c : String} (hab : isStrictlyNewer a b = true)
    (hbc : isStrictlyNewer b c = true)
    : isStrictlyNewer a c = true := by
  obtain ⟨va, vb, ha, hb, hlt⟩ := isStrictlyNewer_iff.mp hab
  obtain ⟨vb', vc, hb', hc, hlt'⟩ := isStrictlyNewer_iff.mp hbc
  cases hb.symm.trans hb'
  exact (isStrictlyNewer_of_parse ha hc).mpr (lt_trans hlt' hlt)

theorem isStrictlyNewer_asymm (h : isStrictlyNewer a b = true)
    : isStrictlyNewer b a = false := by
  rw [Bool.eq_false_iff]
  intro hba
  have haa := isStrictlyNewer_trans h hba
  rw [isStrictlyNewer_irrefl] at haa
  cases haa

theorem isStrictlyNewer_trichotomy {va vb : UpdateVersion}
    (ha : UpdateVersion.parse a = some va) (hb : UpdateVersion.parse b = some vb)
    : isStrictlyNewer a b = true ∧ isStrictlyNewer b a = false ∧ va ≠ vb ∨
        isStrictlyNewer a b = false ∧ isStrictlyNewer b a = true ∧ va ≠ vb ∨
          isStrictlyNewer a b = false ∧ isStrictlyNewer b a = false ∧ va = vb := by
  rcases lt_trichotomy va.key vb.key with hlt | heq | hgt
  . have hba := (isStrictlyNewer_of_parse hb ha).mpr hlt
    refine .inr (.inl ⟨isStrictlyNewer_asymm hba, hba, ?_⟩)
    rintro rfl
    exact lt_irrefl _ hlt
  . cases UpdateVersion.key_injective heq
    have hab : isStrictlyNewer a b = false := by
      rw [Bool.eq_false_iff, Ne, isStrictlyNewer_of_parse ha hb]
      exact lt_irrefl _
    have hba : isStrictlyNewer b a = false := by
      rw [Bool.eq_false_iff, Ne, isStrictlyNewer_of_parse hb ha]
      exact lt_irrefl _
    exact .inr (.inr ⟨hab, hba, rfl⟩)
  . have hab := (isStrictlyNewer_of_parse ha hb).mpr hgt
    refine .inl ⟨hab, isStrictlyNewer_asymm hab, ?_⟩
    rintro rfl
    exact lt_irrefl _ hgt

theorem version_grammar_and_order
    : (∀ text, (UpdateVersion.parse text).isSome ↔ IsTriple text) ∧
      (∀ a, isStrictlyNewer a a = false) ∧
      (∀ a b, isStrictlyNewer a b = true → isStrictlyNewer b a = false) ∧
      (∀ a b c, isStrictlyNewer a b = true → isStrictlyNewer b c = true →
        isStrictlyNewer a c = true) ∧
      (∀ a b, isStrictlyNewer a b = true →
        (UpdateVersion.parse a).isSome ∧ (UpdateVersion.parse b).isSome) ∧
      (∀ a b va vb, UpdateVersion.parse a = some va → UpdateVersion.parse b = some vb →
        isStrictlyNewer a b = true ∧ isStrictlyNewer b a = false ∧ va ≠ vb ∨
          isStrictlyNewer a b = false ∧ isStrictlyNewer b a = true ∧ va ≠ vb ∨
            isStrictlyNewer a b = false ∧ isStrictlyNewer b a = false ∧ va = vb) := by
  refine ⟨parse_isSome, isStrictlyNewer_irrefl, ?_, ?_, ?_, ?_⟩
  . intro a b hab
    exact isStrictlyNewer_asymm hab
  . intro a b c hab hbc
    exact isStrictlyNewer_trans hab hbc
  . intro a b hab
    obtain ⟨va, vb, ha, hb, _⟩ := isStrictlyNewer_iff.mp hab
    simp [ha, hb]
  . intro a b va vb ha hb
    exact isStrictlyNewer_trichotomy ha hb

-- Leading zeros do not count, an overlong run is refused, and so is a fourth component.
example : isStrictlyNewer "0.10.0" "0.9.9" = true := by decide
example : isStrictlyNewer "01.2.3" "1.2.3" = false := by decide
example : UpdateVersion.parse "1.2.2147483648" = none := by decide
example : UpdateVersion.parse "1.2.3.4" = none := by decide

end Update
