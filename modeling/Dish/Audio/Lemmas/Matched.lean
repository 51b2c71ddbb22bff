import Dish.Audio.PadAudioMatcher
import Dish.Reducer.SlotPresence

/-!
This module contains what a route stands for.
-/

open Std

namespace Audio

def Contains (haystack needle : String) : Prop :=
  needle.toList.map lowerAscii <:+: haystack.toList.map lowerAscii

instance (haystack needle : String) : Decidable (Contains haystack needle) :=
  inferInstanceAs (Decidable (_ <:+: _))

section Contains

variable {haystack needle : String}

theorem startsWith_iff {haystack needle : List Char}
    : containsInsensitive.startsWith haystack needle ↔
        needle.map lowerAscii <+: haystack.map lowerAscii := by
  fun_induction containsInsensitive.startsWith haystack needle with
  | case1 haystack => simp
  | case2 d needle => simp
  | case3 c haystack d needle ih =>
    simp only [Bool.and_eq_true, decide_eq_true_eq, ih, List.map_cons, List.cons_prefix_cons]
    rw [eq_comm]

theorem containsInsensitive_iff
    : containsInsensitive haystack needle ↔ needle ≠ "" ∧ Contains haystack needle := by
  unfold containsInsensitive Contains
  split
  . next h =>
    simp only [Bool.false_eq_true, false_iff, not_and]
    intro hne hinfix
    have hlen := hinfix.length_le
    simp only [List.length_map, String.length_toList] at hlen
    rcases h with h | h
    . exact hne h
    . omega
  . next h =>
    push Not at h
    simp only [List.any_eq_true, List.mem_range, startsWith_iff, List.map_drop]
    constructor
    . rintro ⟨i, hi, hstart⟩
      exact ⟨h.1, hstart.isInfix.trans (List.drop_suffix _ _).isInfix⟩
    . rintro ⟨hne, before, after, hsplit⟩
      have hlen := congrArg List.length hsplit
      simp only [List.length_append, List.length_map, String.length_toList] at hlen
      refine ⟨before.length, by omega, ?_⟩
      rw [← hsplit, List.append_assoc, List.drop_left]
      exact List.prefix_append _ _

theorem isspace_lowerAscii (c : Char) : isspace (lowerAscii c) = isspace c := by
  unfold lowerAscii
  split
  . next h =>
    have hlow : 65 ≤ c.toNat := h.1
    have hhigh : c.toNat ≤ 90 := h.2
    have hlower : (Char.ofNat (c.toNat - 'A'.toNat + 'a'.toNat)).toNat = c.toNat + 32 := by
      have hvalid : (c.toNat - 65 + 97).isValidChar := .inl (by omega)
      change (Char.ofNat (c.toNat - 65 + 97)).toNat = c.toNat + 32
      rw [Char.ofNat, dif_pos hvalid]
      change c.toNat - 65 + 97 = c.toNat + 32
      omega
    rw [isspace, isspace, hlower, Bool.eq_iff_iff]
    simp only [Bool.or_eq_true, Bool.and_eq_true, decide_eq_true_eq]
    omega
  . rfl

theorem contains_trimmed (haystack name : String) (hne : trimmed name ≠ "")
    : Contains (trimmed haystack) (trimmed name) ↔ Contains haystack (trimmed name) := by
  have hmap (s : String)
      : (trimmed s).toList.map lowerAscii = Trim.both isspace (s.toList.map lowerAscii) := by
    rw [Trim.both_map isspace_lowerAscii, trimmed, String.toList_ofList]
  have htrimmed : Trim.Trimmed isspace ((trimmed name).toList.map lowerAscii) := by
    rw [hmap]
    exact Trim.trimmed_both
  unfold Contains
  rw [hmap haystack, htrimmed.infix_both]
  simpa using hne

end Contains

theorem owner_iff {name p : String} {found : Option String} {padNames : List String}
    : matchDirection.owner name found padNames = some p ↔
        found.toList ++ padNames.filter (containsInsensitive name) = [p] := by
  fun_induction matchDirection.owner name found padNames with
  | case1 found => cases found <;> simp
  | case2 found pad padNames hnot ih | case3 pad padNames hcontains q
  | case4 pad padNames hcontains ih => simp_all

theorem owner_blank (padNames : List String) : matchDirection.owner "" none padNames = none := by
  induction padNames with
  | nil => rfl
  | cons pad padNames ih =>
    have hnot : containsInsensitive "" pad = false := by
      rw [containsInsensitive, if_pos]
      by_cases hempty : pad = ""
      . exact .inl hempty
      . exact .inr (Nat.pos_of_ne_zero fun hlen => hempty (String.length_eq_zero_iff.mp hlen))
    rw [matchDirection.owner, hnot]
    exact ih

namespace AudioPadCandidate

def product (pad : AudioPadCandidate) : String :=
  trimmed pad.productName

def Names (endpoint : String) (pad : AudioPadCandidate) : Prop :=
  pad.hasAudioFunction ∧ pad.product ≠ "" ∧ Contains endpoint pad.product

def Own (pads : List AudioPadCandidate) (pad : AudioPadCandidate) (endpoint : String) : Prop :=
  pad.Names endpoint ∧ ∀ other ∈ pads, other ≠ pad → ¬ other.Names endpoint

def Shares (pads : List AudioPadCandidate) (pad : AudioPadCandidate) : Prop :=
  ∃ other ∈ pads, other ≠ pad ∧ other.hasAudioFunction ∧ other.product = pad.product

instance (endpoint : String) (pad : AudioPadCandidate) : Decidable (pad.Names endpoint) :=
  inferInstanceAs (Decidable (_ ∧ _ ∧ _))

instance (pads : List AudioPadCandidate) (pad : AudioPadCandidate)
    : DecidablePred (Own pads pad) :=
  fun _ => inferInstanceAs (Decidable (_ ∧ _))

variable {pads : List AudioPadCandidate} {pad other : AudioPadCandidate} {name endpoint : String}

theorem listed_eq_some
    : pad.listed = some name ↔ pad.hasAudioFunction ∧ name ≠ "" ∧ pad.product = name := by
  unfold listed product
  cases pad.hasAudioFunction with
  | false => simp
  | true =>
    dsimp only
    split <;> simp_all

theorem names_iff
    : pad.Names endpoint ↔
        ∃ name, pad.listed = some name ∧ containsInsensitive (trimmed endpoint) name := by
  simp only [listed_eq_some, containsInsensitive_iff]
  constructor
  . rintro ⟨haudio, hne, hcontains⟩
    exact ⟨pad.product, ⟨haudio, hne, rfl⟩, hne, (contains_trimmed _ _ hne).mpr hcontains⟩
  . rintro ⟨_, ⟨haudio, hne, rfl⟩, _, hcontains⟩
    exact ⟨haudio, hne, (contains_trimmed _ _ hne).mp hcontains⟩

def sole (pads : List AudioPadCandidate) : TreeMap String AudioPadCandidate :=
  Grouping.alone (Grouping.group listed pads)

theorem getElem?_sole (hnodup : pads.Nodup)
    : (sole pads)[name]? = some pad ↔
        pad ∈ pads ∧ pad.listed = some name ∧ ¬ Shares pads pad := by
  rw [sole, Grouping.getElem?_alone_group, Grouping.filter_eq_singleton hnodup]
  simp only [decide_eq_true_eq, Shares]
  refine and_congr_right fun hpad => and_congr_right fun hlisted => ?_
  obtain ⟨_, hne, hname⟩ := listed_eq_some.mp hlisted
  simp only [listed_eq_some]
  grind

theorem mem_keys_sole (hnodup : pads.Nodup)
    : name ∈ (sole pads).keys ↔ ∃ pad ∈ pads, pad.listed = some name ∧ ¬ Shares pads pad := by
  rw [TreeMap.mem_keys, TreeMap.mem_iff_isSome_getElem?, Option.isSome_iff_exists]
  simp only [getElem?_sole hnodup]

theorem shares_of_ne (hother : other ∈ pads) (hne : other ≠ pad) (hlisted : pad.listed = some name)
    (hname : other.listed = some name)
    : Shares pads pad := by
  obtain ⟨haudio, _, hproduct⟩ := listed_eq_some.mp hname
  obtain ⟨_, _, hproduct'⟩ := listed_eq_some.mp hlisted
  exact ⟨other, hother, hne, haudio, hproduct.trans hproduct'.symm⟩

def Unmixed (pads : List AudioPadCandidate) (endpoints : List String) : Prop :=
  ∀ endpoint ∈ endpoints, ∀ pad ∈ pads, ∀ other ∈ pads,
    pad.Names endpoint → other.Names endpoint → Shares pads other → Shares pads pad

theorem owner_sole (hnodup : pads.Nodup) {endpoints : List String}
    (hunmixed : Unmixed pads endpoints) (hendpoint : endpoint ∈ endpoints) (hpad : pad ∈ pads)
    (hlisted : pad.listed = some name) (halone : ¬ Shares pads pad)
    : matchDirection.owner (trimmed endpoint) none (sole pads).keys = some name ↔
        Own pads pad endpoint := by
  rw [owner_iff]
  change (sole pads).keys.filter _ = [name] ↔ _
  rw [Grouping.filter_eq_singleton TreeMap.nodup_keys]
  have hkey : name ∈ (sole pads).keys := (mem_keys_sole hnodup).mpr ⟨pad, hpad, hlisted, halone⟩
  constructor
  . rintro ⟨_, hcontains, honly⟩
    have hnames : pad.Names endpoint := names_iff.mpr ⟨name, hlisted, hcontains⟩
    refine ⟨hnames, ?_⟩
    intro other hother hne hnames'
    obtain ⟨name', hlisted', hcontains'⟩ := names_iff.mp hnames'
    by_cases hshares : Shares pads other
    . exact halone (hunmixed endpoint hendpoint pad hpad other hother hnames hnames' hshares)
    . have hkey' := (mem_keys_sole hnodup).mpr ⟨other, hother, hlisted', hshares⟩
      rw [honly name' hkey' hcontains'] at hlisted'
      exact halone (shares_of_ne hother hne hlisted hlisted')
  . rintro ⟨hnames, hothers⟩
    refine ⟨hkey, ?_, ?_⟩
    . obtain ⟨name', hlisted', hcontains⟩ := names_iff.mp hnames
      rw [hlisted] at hlisted'
      cases hlisted'
      exact hcontains
    . intro name' hkey' hcontains'
      obtain ⟨other, hother, hlisted', _⟩ := (mem_keys_sole hnodup).mp hkey'
      have hsame : other = pad := by
        by_contra hne
        exact hothers other hother hne (names_iff.mpr ⟨name', hlisted', hcontains'⟩)
      rw [hsame, hlisted] at hlisted'
      exact (Option.some.inj hlisted').symm

theorem getElem?_matchDirection (hnodup : pads.Nodup) {endpoints : List String}
    (hunmixed : Unmixed pads endpoints) (hpad : pad ∈ pads) (hlisted : pad.listed = some name)
    (halone : ¬ Shares pads pad)
    : (matchDirection (sole pads).keys endpoints)[name]? = some endpoint ↔
        endpoints.filter (Own pads pad) = [endpoint] := by
  rw [matchDirection, Grouping.getElem?_alone_group]
  suffices hfilter : endpoints.filter _ = endpoints.filter (Own pads pad) by
    rw [hfilter]
  refine List.filter_congr ?_
  intro endpoint' hendpoint'
  have howner := owner_sole hnodup hunmixed hendpoint' hpad hlisted halone
  dsimp only
  rw [decide_eq_decide, ← howner]
  split
  . next hblank => rw [hblank, owner_blank]
  . rfl

theorem not_own_of_shares (hshares : Shares pads pad) : ¬ Own pads pad endpoint := by
  rintro ⟨⟨_, hne, hcontains⟩, hothers⟩
  obtain ⟨other, hother, hother', haudio, hproduct⟩ := hshares
  refine hothers other hother hother' ?_
  rw [Names, hproduct]
  exact ⟨haudio, hne, hcontains⟩

end AudioPadCandidate

inductive Direction where
  | capture
  | playback
  deriving DecidableEq

namespace Direction

def of (d : Direction) (captures playbacks : α) : α :=
  match d with
  | capture => captures
  | playback => playbacks

def endpoint (d : Direction) (route : PadAudioRoute) : Option String :=
  match d with
  | capture => if route.microphone then some route.captureDeviceName else none
  | playback => if route.speaker then some route.playbackDeviceName else none

theorem endpoint_routeFor (d : Direction) (sources sinks : TreeMap String String)
    (playbackChannelsFor : Option (String → Int)) (name : String) (pad : AudioPadCandidate)
    : (pad.routeFor sources sinks playbackChannelsFor name).bind d.endpoint =
        (d.of sources sinks)[name]? := by
  unfold AudioPadCandidate.routeFor
  cases d with
  | capture =>
    cases hsource : sources[name]? <;> cases sinks[name]? <;> simp [endpoint, of, hsource]
  | playback =>
    cases sources[name]? <;> cases hsink : sinks[name]? <;> simp [endpoint, of, hsink]

end Direction

theorem padAudioKey_eq (vendorId productId : UInt16)
    : padAudioKey vendorId productId = Reducer.slotPathVpKey vendorId productId := by
  unfold padAudioKey Reducer.slotPathVpKey
  have hmask : productId.toBitVec.setWidth 32 &&& 0xFFFF#32 = productId.toBitVec.setWidth 32 := by
    have hlt := productId.toNat_lt
    refine BitVec.eq_of_toNat_eq ?_
    rw [BitVec.toNat_and, BitVec.toNat_setWidth, UInt16.toNat_toBitVec]
    change productId.toNat % 2 ^ 32 &&& 2 ^ 16 - 1 = productId.toNat % 2 ^ 32
    rw [Nat.and_two_pow_sub_one_eq_mod]
    omega
  rw [hmask]

open AudioPadCandidate

theorem eq_of_padAudioKey {pads : List AudioPadCandidate}
    (hids : (pads.map fun pad => (pad.vendorId, pad.productId)).Nodup)
    {pad pad' : AudioPadCandidate} (hpad : pad ∈ pads) (hpad' : pad' ∈ pads)
    (hkey : padAudioKey pad.vendorId pad.productId = padAudioKey pad'.vendorId pad'.productId)
    : pad = pad' := by
  rw [padAudioKey_eq, padAudioKey_eq] at hkey
  exact List.inj_on_of_nodup_map hids hpad hpad' (Reducer.slotPathVpKey_inj hkey)

def given (routes : TreeMap Int PadAudioRoute) (pad : AudioPadCandidate) (d : Direction)
    : Option String :=
  routes[padAudioKey pad.vendorId pad.productId]?.bind d.endpoint

theorem given_resolvePadAudioRoutes {pads : List AudioPadCandidate}
    {captureNames playbackNames : List String} {playbackChannelsFor : Option (String → Int)}
    (hids : (pads.map fun pad => (pad.vendorId, pad.productId)).Nodup) {pad : AudioPadCandidate}
    (hpad : pad ∈ pads) (d : Direction) {endpoint : String}
    : given (resolvePadAudioRoutes pads captureNames playbackNames playbackChannelsFor) pad d =
        some endpoint ↔
      ∃ name, pad.listed = some name ∧ ¬ Shares pads pad ∧
        (matchDirection (sole pads).keys (d.of captureNames playbackNames))[name]? =
          some endpoint := by
  have hentry (entry : String × AudioPadCandidate)
      : entry ∈ (sole pads).toList ↔
          entry.2 ∈ pads ∧ entry.2.listed = some entry.1 ∧ ¬ Shares pads entry.2 := by
    rw [← getElem?_sole hids.of_map, ← TreeMap.mem_toList_iff_getElem?_eq_some]
  have hkeys : ((sole pads).toList.map fun entry =>
      padAudioKey entry.2.vendorId entry.2.productId).Nodup := by
    refine List.Nodup.map_on ?_ ?_
    . intro entry hmem entry' hmem' hkey
      obtain ⟨hin, hlisted, -⟩ := (hentry entry).mp hmem
      obtain ⟨hin', hlisted', -⟩ := (hentry entry').mp hmem'
      have hsame := eq_of_padAudioKey hids hin hin' hkey
      rw [hsame, hlisted'] at hlisted
      exact Prod.ext (Option.some.inj hlisted).symm hsame
    . have hnames : ((sole pads).toList.map Prod.fst).Nodup := by
        rw [TreeMap.map_fst_toList_eq_keys]
        exact TreeMap.nodup_keys
      exact hnames.of_map
  have hdirection (name : String) (route : Option PadAudioRoute)
      (hroute : pad.routeFor (matchDirection (sole pads).keys captureNames)
        (matchDirection (sole pads).keys playbackNames) playbackChannelsFor name = route)
      : route.bind d.endpoint =
          (matchDirection (sole pads).keys (d.of captureNames playbackNames))[name]? := by
    rw [← hroute, Direction.endpoint_routeFor]
    cases d <;> rfl
  rw [given, Option.bind_eq_some_iff]
  change (∃ route, (Grouping.collect _ _ (sole pads).toList)[_]? = some route ∧ _) ↔ _
  simp only [Grouping.getElem?_collect hkeys]
  constructor
  . rintro ⟨route, ⟨entry, hmem, hkey, hroute⟩, hendpoint⟩
    obtain ⟨hin, hlisted, halone⟩ := (hentry entry).mp hmem
    obtain rfl := eq_of_padAudioKey hids hin hpad hkey
    refine ⟨entry.1, hlisted, halone, ?_⟩
    rw [← hdirection entry.1 _ hroute]
    exact hendpoint
  . rintro ⟨name, hlisted, halone, hmatched⟩
    rw [← hdirection name _ rfl, Option.bind_eq_some_iff] at hmatched
    obtain ⟨route, hroute, hendpoint⟩ := hmatched
    exact ⟨route, ⟨(name, pad), (hentry _).mpr ⟨hpad, hlisted, halone⟩, rfl, hroute⟩, hendpoint⟩

def dualSense : AudioPadCandidate where
  vendorId := 0x054C
  productId := 0x0CE6
  productName := "Wireless Controller"
  hasAudioFunction := true
  hasHapticLanes := true

def dualShock4 : AudioPadCandidate where
  vendorId := 0x054C
  productId := 0x09CC
  productName := "Wireless Controller"
  hasAudioFunction := true

def dualSenseEdge : AudioPadCandidate where
  vendorId := 0x054C
  productId := 0x0DF2
  productName := "DualSense Edge Wireless Controller"
  hasAudioFunction := true
  hasHapticLanes := true

end Audio
