import Dish.Update.Lemmas.Version
import Dish.Update.Marker

/-!
This module contains the round trip of the marker.
-/

namespace Update

def Plain (text : List Char) : Prop :=
  ∀ ch ∈ text, isSpace ch = false

instance : DecidablePred Plain := fun text =>
  decidable_of_iff (text.all fun ch => isSpace ch = false) (by simp [Plain])

theorem isSpace_of_isDigit {ch : Char} (h : '0' ≤ ch ∧ ch ≤ '9') : isSpace ch = false := by
  have hlow : ¬ ch ≤ '\r' := by
    intro hle
    exact absurd (Char.le_trans h.1 hle) (by decide)
  have hblank : ch ≠ ' ' := by
    rintro rfl
    exact absurd h.1 (by decide)
  simp [isSpace, hlow, hblank]

theorem IsComponent.plain {part : List Char} (h : IsComponent part) : Plain part :=
  fun ch hch => isSpace_of_isDigit (h.digits ch hch)

theorem plain_of_isValidVersion {version : String} (h : isValidVersion version = true)
    : Plain version.toList := by
  obtain ⟨major, minor, patch, htext, hmajor, hminor, hpatch⟩ := (parse_isSome version).mp h
  intro ch hch
  rw [htext] at hch
  simp only [List.mem_append, List.mem_cons] at hch
  rcases hch with hch | rfl | hch | rfl | hch
  . exact hmajor.plain ch hch
  . rfl
  . exact hminor.plain ch hch
  . rfl
  . exact hpatch.plain ch hch

theorem plain_toDigits (n : Nat) : Plain (Nat.toDigits 10 n) := by
  intro ch hch
  have hdigit := Nat.isDigit_of_mem_toDigits (by decide) (by decide) hch
  apply isSpace_of_isDigit
  simpa [Char.isDigit, Char.le_def] using hdigit

theorem toLongLong_toDigits {n : Nat} (h : n < 9223372036854775808)
    : toLongLong (Nat.toDigits 10 n) = some (n : Int) := by
  have hall : (Nat.toDigits 10 n).all isDigit = true := by
    rw [List.all_eq_true]
    intro ch hch
    have hdigit := Nat.isDigit_of_mem_toDigits (by decide) (by decide) hch
    simpa [isDigit, Char.isDigit, Char.le_def] using hdigit
  have hvalue : decimalValue (Nat.toDigits 10 n) = n := Nat.ofDigitChars_toDigits (by decide) (by decide)
  have hsign : ∀ ch, ¬ isDigit ch → (Nat.toDigits 10 n).head? ≠ some ch := by
    intro ch hch hhead
    exact hch (List.all_eq_true.mp hall ch (List.mem_of_head? hhead))
  unfold toLongLong toInteger
  simp only [hsign '-' (by decide), hsign '+' (by decide), or_self, if_false, hall, hvalue]
  rw [if_neg (by simp), if_pos (by omega)]

section Line

variable {scan : MarkerScan} {key : String} {value : List Char}

theorem plain_markerLine (hkey : Plain key.toList) (hvalue : Plain value)
    : Plain (markerLine key value) := by
  intro ch hch
  simp only [markerLine, List.mem_append, List.mem_cons] at hch
  rcases hch with hch | rfl | hch
  . exact hkey ch hch
  . rfl
  . exact hvalue ch hch

theorem foldlM_markerLine (rest : List (List Char)) (hkey : Plain key.toList) (hne : key.toList ≠ [])
    (hequals : '=' ∉ key.toList) (hvalue : Plain value)
    : (markerLine key value :: rest).foldlM MarkerScan.readLine scan
      = rest.foldlM MarkerScan.readLine (scan.set key.toList value) := by
  have hline : trimmed (markerLine key value) = markerLine key value :=
    Trim.both_eq_self (plain_markerLine hkey hvalue)
  have hcut : Reader.upTo '=' (markerLine key value) = some (key.toList, value) :=
    Reader.upTo_append_cons value hequals
  have hread : scan.readLine (markerLine key value) = some (scan.set key.toList value) := by
    unfold MarkerScan.readLine
    simp only [hline, hcut]
    simp [markerLine, hne, trimmed, Trim.both_eq_self hkey, Trim.both_eq_self hvalue]
  rw [List.foldlM_cons, hread]
  rfl

theorem splitOn_markerLine (rest : List Char) (hkey : Plain key.toList) (hvalue : Plain value)
    : (markerLine key value ++ '\n' :: rest).splitOn '\n'
      = markerLine key value :: rest.splitOn '\n' := by
  rw [List.splitOn_eq_splitOnP, List.splitOn_eq_splitOnP]
  apply List.splitOnP_append_cons_of_forall_mem _ _ (by decide)
  intro ch hch
  have hspace := plain_markerLine hkey hvalue ch hch
  rw [beq_eq_false_iff_ne]
  rintro rfl
  cases hspace

end Line

theorem parse_serialize {version sha256 : String} {stagedUtc : List Char} (size : Nat)
    (hversion : isValidVersion version = true) (hsha256 : Plain sha256.toList)
    (hsize : size < 9223372036854775808) (hutc : Plain stagedUtc)
    : parseReadyMarker (serializeReadyMarker version sha256 size stagedUtc)
      = { version, sha256, size, valid := sha256.length = 64 ∧ 0 < size } := by
  have hdigits : (toString (size : Int)).toList = Nat.toDigits 10 size := by
    have hrepr : toString (size : Int) = size.repr := rfl
    rw [hrepr, Nat.repr_eq_ofList_toDigits, String.toList_ofList]
  have hplain := plain_of_isValidVersion hversion
  unfold parseReadyMarker serializeReadyMarker
  rw [hdigits]
  simp only [List.append_assoc, List.cons_append, List.nil_append]
  rw [splitOn_markerLine _ (by decide) (by decide), splitOn_markerLine _ (by decide) hplain]
  rw [splitOn_markerLine _ (by decide) hsha256, splitOn_markerLine _ (by decide) (plain_toDigits size)]
  rw [splitOn_markerLine _ (by decide) hutc]
  rw [foldlM_markerLine _ (by decide) (by decide) (by decide) (by decide)]
  rw [foldlM_markerLine _ (by decide) (by decide) (by decide) hplain]
  rw [foldlM_markerLine _ (by decide) (by decide) (by decide) hsha256]
  rw [foldlM_markerLine _ (by decide) (by decide) (by decide) (plain_toDigits size)]
  rw [foldlM_markerLine _ (by decide) (by decide) (by decide) hutc]
  have hlast : ∀ scan, ([].splitOn '\n').foldlM MarkerScan.readLine scan = some scan := fun _ => rfl
  have hschema : toInt ['1'] = some 1 := by decide
  rw [hlast]
  simp [MarkerScan.set, hschema, toLongLong_toDigits hsize, hversion, String.length_toList]

end Update
