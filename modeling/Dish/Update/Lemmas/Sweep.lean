import Dish.Update.Lemmas.Handoff
import Dish.Update.Lemmas.Version
import Mathlib.Data.List.Nodup

/-!
This module contains what a sweep leaves of the ready directory.
-/

namespace Update

structure Eligible (currentVersion : String) (dir : ReadyDir) : Prop where
  complete : (readStagedDir dir).isSome
  newer : isStrictlyNewer dir.name currentVersion = true

theorem isValidVersion_of_isStrictlyNewer {a b : String} (h : isStrictlyNewer a b = true)
    : isValidVersion a = true ∧ isValidVersion b = true := by
  obtain ⟨va, vb, ha, hb, _⟩ := isStrictlyNewer_iff.mp h
  simp [isValidVersion, ha, hb]

theorem name_ne_empty_of_readStagedDir {dir : ReadyDir} {staged : StagedUpdate}
    (h : readStagedDir dir = some staged)
    : dir.name ≠ "" := by
  intro hempty
  have hname := (readStagedDir_eq_some h).name
  rw [hempty] at hname
  cases hname

theorem not_newer_trans {a b c : String} (hb : isValidVersion b = true)
    (hab : isStrictlyNewer a b = false) (hbc : isStrictlyNewer b c = false)
    : isStrictlyNewer a c = false := by
  rw [Bool.eq_false_iff] at hab hbc ⊢
  intro hac
  obtain ⟨va, vc, ha, hc, hlt⟩ := isStrictlyNewer_iff.mp hac
  obtain ⟨vb, hvb⟩ := Option.isSome_iff_exists.mp hb
  rw [ne_eq, isStrictlyNewer_of_parse ha hvb, not_lt] at hab
  rw [ne_eq, isStrictlyNewer_of_parse hvb hc, not_lt] at hbc
  exact absurd hlt (not_lt.mpr (le_trans hab hbc))

namespace StagingStore

variable {currentVersion survivor : String} {all seen rest ready : List ReadyDir} {dir : ReadyDir}

def leftover (all rest : List ReadyDir) (survivor : String) : List ReadyDir :=
  all.filter fun d => d.name ∈ rest.map (·.name) ∨ survivor ≠ "" ∧ d.name = survivor

structure Survives (currentVersion : String) (seen : List ReadyDir) (survivor : String) : Prop where
  none : survivor = "" → ∀ d ∈ seen, ¬Eligible currentVersion d
  some : survivor ≠ "" → ∃ d ∈ seen, d.name = survivor ∧ Eligible currentVersion d
  newest : ∀ d ∈ seen, Eligible currentVersion d → isStrictlyNewer d.name survivor = false

theorem Survives.keep (h : Survives currentVersion seen survivor)
    (hdir : Eligible currentVersion dir →
      survivor ≠ "" ∧ isStrictlyNewer dir.name survivor = false)
    : Survives currentVersion (seen ++ [dir]) survivor := by
  constructor
  . intro hempty d hd
    rcases List.mem_append.mp hd with hd | hd
    . exact h.none hempty d hd
    . cases List.mem_singleton.mp hd
      exact fun happ => (hdir happ).1 hempty
  . intro hkept
    obtain ⟨d, hd, hname, happ⟩ := h.some hkept
    exact ⟨d, List.mem_append_left _ hd, hname, happ⟩
  . intro d hd happ
    rcases List.mem_append.mp hd with hd | hd
    . exact h.newest d hd happ
    . cases List.mem_singleton.mp hd
      exact (hdir happ).2

theorem Survives.overtake (h : Survives currentVersion seen survivor)
    (hdir : Eligible currentVersion dir)
    (hwins : survivor = "" ∨ isStrictlyNewer dir.name survivor = true)
    : Survives currentVersion (seen ++ [dir]) dir.name := by
  obtain ⟨staged, hstaged⟩ := Option.isSome_iff_exists.mp hdir.complete
  have hname := name_ne_empty_of_readStagedDir hstaged
  constructor
  . intro hempty
    exact absurd hempty hname
  . intro _
    exact ⟨dir, by simp, rfl, hdir⟩
  . intro d hd happ
    rcases List.mem_append.mp hd with hd | hd
    . rcases hwins with hempty | hnewer
      . exact absurd happ (h.none hempty d hd)
      . exact not_newer_trans (isValidVersion_of_isStrictlyNewer hnewer).2 (h.newest d hd happ)
          (isStrictlyNewer_asymm hnewer)
    . cases List.mem_singleton.mp hd
      exact isStrictlyNewer_irrefl dir.name

theorem removeTree_head (hhead : dir.name ∉ rest.map (·.name))
    (hname : survivor ≠ "" → survivor ≠ dir.name)
    : removeTree dir.name (leftover all (dir :: rest) survivor) = leftover all rest survivor := by
  unfold removeTree leftover
  rw [List.filter_filter]
  apply List.filter_congr
  intro d _
  by_cases hd : d.name = dir.name
  . by_cases hkept : survivor = ""
    . simp [hd, hkept, hhead]
    . simp [hd, Ne.symm (hname hkept), hhead]
  . simp [hd]

theorem removeTree_survivor (hseen : survivor ∉ (dir :: rest).map (·.name)) (hdir : dir.name ≠ "")
    : removeTree survivor (leftover all (dir :: rest) survivor) = leftover all rest dir.name := by
  unfold removeTree leftover
  rw [List.filter_filter]
  apply List.filter_congr
  intro d _
  simp only [List.map_cons, List.mem_cons, not_or] at hseen
  by_cases hd : d.name = survivor
  . simp [hd, hseen.1, hseen.2]
  . simp [hd, hdir, or_comm]

theorem leftover_head (hdir : dir.name ≠ "")
    : leftover all (dir :: rest) "" = leftover all rest dir.name := by
  unfold leftover
  apply List.filter_congr
  intro d _
  simp [hdir, or_comm]

theorem sweepEntry_spec (all : List ReadyDir)
    (hnames : ((seen ++ dir :: rest).map (·.name)).Nodup)
    (hsurvives : Survives currentVersion seen survivor)
    : ∃ survivor',
        sweepEntry currentVersion (leftover all (dir :: rest) survivor, survivor) dir =
          (leftover all rest survivor', survivor') ∧
        Survives currentVersion (seen ++ [dir]) survivor' := by
  rw [List.map_append, List.nodup_append, List.map_cons, List.nodup_cons] at hnames
  obtain ⟨_, ⟨hhead, _⟩, hapart⟩ := hnames
  -- the survivor is the name of an entry seen before, so that it is none of those to come
  have hseen (hkept : survivor ≠ "") : survivor ∉ (dir :: rest).map (·.name) := by
    obtain ⟨d, hd, hname, _⟩ := hsurvives.some hkept
    intro hmem
    exact hapart survivor (List.mem_map.mpr ⟨d, hd, hname⟩) survivor hmem rfl
  have hother (hkept : survivor ≠ "") : survivor ≠ dir.name := by
    intro hname
    exact hseen hkept (by simp [hname])
  unfold sweepEntry
  dsimp only
  cases hread : readStagedDir dir with
  | none =>
    have hnot : ¬Eligible currentVersion dir := by
      intro happ
      simpa [hread] using happ.complete
    refine ⟨survivor, ?_, hsurvives.keep (absurd · hnot)⟩
    dsimp only
    rw [removeTree_head hhead hother]
  | some staged =>
    have hversion := (readStagedDir_eq_some hread).version
    have hname := name_ne_empty_of_readStagedDir hread
    dsimp only
    rw [hversion]
    split
    . next hobsolete =>
      have hnot : ¬Eligible currentVersion dir := by
        intro happ
        have hvalid := (isValidVersion_of_isStrictlyNewer happ.newer).2
        simp [hvalid, happ.newer] at hobsolete
      exact ⟨survivor, by rw [removeTree_head hhead hother], hsurvives.keep (absurd · hnot)⟩
    . next hobsolete =>
      have happ : Eligible currentVersion dir := by
        refine ⟨by rw [hread]; rfl, ?_⟩
        simp only [Bool.not_eq_true', not_or, Bool.not_eq_false] at hobsolete
        exact hobsolete.2
      split
      . next hwins =>
        refine ⟨dir.name, ?_, hsurvives.overtake happ hwins⟩
        split
        . next hkept => rw [removeTree_survivor (hseen hkept) hname]
        . next hkept =>
          rw [not_not] at hkept
          rw [hkept, leftover_head hname]
      . next hloses =>
        simp only [not_or, Bool.not_eq_true] at hloses
        exact ⟨survivor, by rw [removeTree_head hhead hother], hsurvives.keep fun _ => hloses⟩

theorem sweepEntries_spec (all rest : List ReadyDir) {seen : List ReadyDir} {survivor : String}
    (hnames : ((seen ++ rest).map (·.name)).Nodup)
    (hsurvives : Survives currentVersion seen survivor)
    : ∃ survivor',
        rest.foldl (sweepEntry currentVersion) (leftover all rest survivor, survivor) =
          (leftover all [] survivor', survivor') ∧
        Survives currentVersion (seen ++ rest) survivor' := by
  induction rest generalizing seen survivor with
  | nil => exact ⟨survivor, rfl, by simpa using hsurvives⟩
  | cons dir rest ih =>
    obtain ⟨survivor', hentry, hsurvives'⟩ := sweepEntry_spec all hnames hsurvives
    rw [List.foldl_cons, hentry]
    have hrest : ((seen ++ [dir]) ++ rest) = seen ++ dir :: rest := by simp
    rw [← hrest] at hnames ⊢
    exact ih hnames hsurvives'

theorem leftover_all (all : List ReadyDir) : leftover all all "" = all := by
  unfold leftover
  rw [List.filter_eq_self]
  intro d hd
  simpa using ⟨d, hd, rfl⟩

theorem filter_name_eq (hnames : (all.map (·.name)).Nodup) (hdir : dir ∈ all)
    : (all.filter fun d => d.name = dir.name) = [dir] := by
  have hsame : (all.filter fun d => d.name = dir.name) = all.filter fun d => d = dir := by
    apply List.filter_congr
    intro d hd
    rw [decide_eq_decide]
    exact ⟨fun hname => List.inj_on_of_nodup_map hnames hd hdir hname, fun h => by rw [h]⟩
  rw [hsame, List.filter_eq, List.count_eq_one_of_mem (List.Nodup.of_map _ hnames) hdir]
  rfl

theorem leftover_nil (hnames : (all.map (·.name)).Nodup) (hdir : dir ∈ all) (hname : dir.name ≠ "")
    : leftover all [] dir.name = [dir] := by
  rw [← filter_name_eq hnames hdir]
  unfold leftover
  apply List.filter_congr
  intro d _
  simp [hname]

theorem sweep_keeps_newest (store : StagingStore) (currentVersion : String) (stale : List String)
    (hroot : store.root = "" → store.ready = [])
    (hnames : (store.ready.map (·.name)).Nodup)
    : ((store.sweep currentVersion stale).ready = [] ∧
        (store.sweep currentVersion stale).findStaged = none ∧
        ∀ dir ∈ store.ready, ∀ staged, readStagedDir dir = some staged →
          isStrictlyNewer staged.version currentVersion = false) ∨
      ∃ dir ∈ store.ready, ∃ staged,
        (store.sweep currentVersion stale).ready = [dir] ∧
        (store.sweep currentVersion stale).findStaged = some staged ∧
        readStagedDir dir = some staged ∧
        isStrictlyNewer staged.version currentVersion = true ∧
        ∀ other ∈ store.ready, ∀ rival, readStagedDir other = some rival →
          isStrictlyNewer rival.version currentVersion = true →
          isStrictlyNewer rival.version staged.version = false := by
  by_cases hempty : store.root = ""
  . have hready := hroot hempty
    refine .inl ⟨?_, ?_, ?_⟩
    . simp [sweep, hempty, hready]
    . simp [sweep, findStaged, hempty]
    . simp [hready]
  . have hstart : Survives currentVersion [] "" := by
      constructor <;> simp
    obtain ⟨survivor, hfold, hsurvives⟩ := sweepEntries_spec store.ready store.ready
      (by simpa using hnames) hstart
    rw [leftover_all] at hfold
    rw [List.nil_append] at hsurvives
    have hready : (store.sweep currentVersion stale).ready = leftover store.ready [] survivor := by
      unfold sweep
      rw [if_neg hempty, hfold]
    have hfound : (store.sweep currentVersion stale).findStaged =
        (leftover store.ready [] survivor).foldl newerOf none := by
      rw [← hready]
      unfold findStaged
      rw [if_neg]
      simp [sweep, hempty]
    have heligible {d : ReadyDir} {s : StagedUpdate} (hread : readStagedDir d = some s)
        (hnewer : isStrictlyNewer s.version currentVersion = true) : Eligible currentVersion d := by
      refine ⟨by rw [hread]; rfl, ?_⟩
      rw [← (readStagedDir_eq_some hread).version]
      exact hnewer
    rw [hready, hfound]
    by_cases hkept : survivor = ""
    . refine .inl ?_
      have hnothing : leftover store.ready [] survivor = [] := by
        simp [leftover, hkept]
      rw [hnothing]
      refine ⟨rfl, rfl, ?_⟩
      intro dir hdir staged hread
      rw [Bool.eq_false_iff]
      intro hnewer
      exact hsurvives.none hkept dir hdir (heligible hread hnewer)
    . obtain ⟨dir, hdir, hname, happ⟩ := hsurvives.some hkept
      obtain ⟨staged, hread⟩ := Option.isSome_iff_exists.mp happ.complete
      have hversion := (readStagedDir_eq_some hread).version
      refine .inr ⟨dir, hdir, staged, ?_⟩
      rw [← hname] at hsurvives ⊢
      rw [leftover_nil hnames hdir (name_ne_empty_of_readStagedDir hread)]
      refine ⟨rfl, ?_, hread, by rw [hversion]; exact happ.newer, ?_⟩
      . simp [newerOf, hread]
      . intro other hother rival hrival hnewer
        rw [hversion, (readStagedDir_eq_some hrival).version]
        exact hsurvives.newest other hother (heligible hrival hnewer)

def wholeMarker (version : String) : ReadyMarker where
  version
  size := 1
  valid := true

def crowded : StagingStore where
  ready := [
    { name := "1.2.0", marker := wholeMarker "1.2.0", exe := some [7] },
    { name := "1.10.0", marker := wholeMarker "1.10.0", exe := some [8] },
    { name := "01.10.0", marker := wholeMarker "01.10.0", exe := some [9] },
    { name := "1.11.0", exe := some [10] }
  ]

theorem sweep_keeps_newest_crowded
    : (crowded.ready.map (·.name)).Nodup ∧ (crowded.sweep "1.1.0" []).ready.length = 1 := by
  have hnames : (crowded.ready.map (·.name)).Nodup := by decide
  refine ⟨hnames, ?_⟩
  rcases sweep_keeps_newest crowded "1.1.0" [] (by decide) hnames with ⟨_, hnone, _⟩ | hone
  . exact absurd hnone (by decide)
  . obtain ⟨dir, _, staged, hready, _⟩ := hone
    rw [hready]
    rfl

end StagingStore

end Update
