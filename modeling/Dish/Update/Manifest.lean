import Dish.Update.Machine

/-!
This module contains the reader of update manifests, and where the address of an asset it accepts
leads once the dot segments of its path are removed.
-/

namespace Update

inductive Json where
  | object (fields : List (String × Json))
  | string (text : String)
  | number (value : Rat)
  | other

namespace Json

def value : Json → String → Json
  | object fields, key => ((fields.find? (·.1 = key)).map (·.2)).getD other
  | _, _ => other

def toText : Json → String
  | string text => text
  | _ => ""

end Json

inductive ManifestError where
  | Oversize
  | BadJson
  | UnsupportedSchema
  | WrongProduct
  | WrongChannel
  | BadVersion
  | BadMinimum
  | MissingSetupAsset
  | BadAssetUrl
  | BadSha
  | BadSize

/-- What the reader takes from Qt: `strictUrl` is the scheme and the host of a valid URL. -/
structure Qt where
  fromJson : List UInt8 → Option Json
  strictUrl : String → Option (String × String)

def kAssetUrlPrefix : String :=
  "https://github.com/TinkerNorth/dish-windows/releases/download/"

def kSetupAssetName : String := "dish-setup.exe"

def kManifestMaxBytes : Nat := 64 * 1024

def kAssetMaxBytes : Int := 500 * 1024 * 1024

def isLowercaseHex64 (s : String) : Bool :=
  s.length = 64 && s.toList.all fun c => '0' ≤ c ∧ c ≤ '9' ∨ 'a' ≤ c ∧ c ≤ 'f'

def sanitizedNotesUrl (qt : Qt) (root : Json) : String :=
  let text := (root.value "releaseNotesUrl").toText
  if qt.strictUrl text = some ("https", "github.com") then text else ""

def parseRelease (qt : Qt) (root : Json) : Except ManifestError UpdateManifest :=
  let version := (root.value "version").toText
  let minimum := (root.value "minimumSupportedVersion").toText
  match root.value "schema" with
  | .number schema =>
    if schema ≠ 1 then .error .UnsupportedSchema
    else if (root.value "product").toText ≠ "dish-windows" then .error .WrongProduct
    else if (root.value "channel").toText ≠ "stable" then .error .WrongChannel
    else if !isValidVersion version then .error .BadVersion
    else if !isValidVersion minimum ∨ isStrictlyNewer minimum version then .error .BadMinimum
    else .ok ⟨version, minimum, sanitizedNotesUrl qt root, {}⟩
  | _ => .error .UnsupportedSchema

def parseSetupAsset (root : Json) : Except ManifestError UpdateAsset :=
  match (root.value "assets").value kSetupAssetName with
  | .object fields =>
    let url := ((Json.object fields).value "url").toText
    let sha256 := ((Json.object fields).value "sha256").toText
    if !kAssetUrlPrefix.toList.isPrefixOf url.toList then .error .BadAssetUrl
    else if !isLowercaseHex64 sha256 then .error .BadSha
    else
      match (Json.object fields).value "size" with
      | .number value =>
        let size := value.num.tdiv value.den
        if size ≤ 0 ∨ kAssetMaxBytes ≤ size then .error .BadSize else .ok ⟨url, sha256, size⟩
      | _ => .error .BadSize
  | _ => .error .MissingSetupAsset

def parse (qt : Qt) (body : List UInt8) : Except ManifestError UpdateManifest :=
  if kManifestMaxBytes < body.length then .error .Oversize
  else
    match qt.fromJson body with
    | some (.object fields) => do
      let manifest ← parseRelease qt (.object fields)
      let setupAsset ← parseSetupAsset (.object fields)
      return { manifest with setupAsset }
    | _ => .error .BadJson

def undot : List Char → List Char
  | '%' :: '2' :: 'e' :: rest => '.' :: undot rest
  | '%' :: '2' :: 'E' :: rest => '.' :: undot rest
  | c :: rest => c :: undot rest
  | [] => []

def climbs (segment : List Char) : Bool :=
  undot segment = ['.', '.']

/-- `out` is what stands before, its last segment first. -/
def removeDots (out : List (List Char)) : List (List Char) → List (List Char)
  | [] => out.reverse
  | segment :: rest =>
    let kept :=
      if undot segment = ['.'] then out
      else if climbs segment then (if out.length ≤ 1 then out else out.tail)
      else segment :: out
    if (undot segment = ['.'] ∨ climbs segment) ∧ rest = [] then ([] :: kept).reverse
    else removeDots kept rest

def kAssetOrigin : String := "https://github.com"

def pathOf (url : List Char) : List Char :=
  (url.drop kAssetOrigin.toList.length).takeWhile fun c => c ≠ '?' ∧ c ≠ '#'

def resolve (url : List Char) : List Char :=
  url.take kAssetOrigin.toList.length ++ ['/'].intercalate (removeDots [] ((pathOf url).splitOn '/'))

def Climbless (url : List Char) : Prop :=
  ∀ segment ∈ (pathOf url).splitOn '/', climbs segment = false

instance (url : List Char) : Decidable (Climbless url) :=
  inferInstanceAs (Decidable (∀ segment ∈ (pathOf url).splitOn '/', _))

theorem removeDots_of_climbless {path : List (List Char)} (out : List (List Char))
    (hpath : path ≠ []) (hclimb : ∀ segment ∈ path, climbs segment = false)
    : ∃ rest, rest ≠ [] ∧ removeDots out path = out.reverse ++ rest := by
  induction path generalizing out with
  | nil => contradiction
  | cons segment path ih =>
    have hsegment : climbs segment = false := hclimb segment (by simp)
    have htail : ∀ segment ∈ path, climbs segment = false := by
      intro other hmem
      exact hclimb other (by simp [hmem])
    by_cases hlast : path = []
    . by_cases hdot : undot segment = ['.']
      . exact ⟨[[]], by simp [removeDots, hlast, hdot]⟩
      . exact ⟨[segment], by simp [removeDots, hlast, hdot, hsegment]⟩
    . by_cases hdot : undot segment = ['.']
      . obtain ⟨rest, hrest, heq⟩ := ih out hlast htail
        exact ⟨rest, hrest, by simp [removeDots, hlast, hdot, heq]⟩
      . obtain ⟨rest, -, heq⟩ := ih (segment :: out) hlast htail
        exact ⟨segment :: rest, by simp, by simp [removeDots, hlast, hdot, hsegment, heq]⟩

theorem url_of_parseSetupAsset {root : Json} {asset : UpdateAsset}
    (hparse : parseSetupAsset root = .ok asset)
    : kAssetUrlPrefix.toList <+: asset.url.toList := by
  unfold parseSetupAsset at hparse
  split at hparse
  next =>
    dsimp only at hparse
    split at hparse
    . contradiction
    next hprefix =>
      split at hparse
      . contradiction
      . split at hparse
        . split at hparse
          . contradiction
          . cases hparse
            simpa using hprefix
        . contradiction
  next => contradiction

theorem setupAsset_of_parse {qt : Qt} {body : List UInt8} {m : UpdateManifest}
    (hparse : parse qt body = .ok m)
    : ∃ root, parseSetupAsset root = .ok m.setupAsset := by
  unfold parse at hparse
  split at hparse
  . contradiction
  . split at hparse
    next fields _ =>
      cases hrelease : parseRelease qt (.object fields) with
      | error => simp [hrelease, bind, Except.bind] at hparse
      | ok release =>
        cases hasset : parseSetupAsset (.object fields) with
        | error => simp [hrelease, hasset, bind, Except.bind] at hparse
        | ok asset =>
          simp only [hrelease, hasset, bind, Except.bind, pure, Except.pure] at hparse
          cases hparse
          exact ⟨_, hasset⟩
    . contradiction

def kAssetDirectory : List (List Char) :=
  ["", "TinkerNorth", "dish-windows", "releases", "download"].map String.toList

theorem splitOn_pathOf (suffix : List Char)
    : ∃ rest, rest ≠ [] ∧
        (pathOf (kAssetUrlPrefix.toList ++ suffix)).splitOn '/' = kAssetDirectory ++ rest := by
  have hpath : pathOf (kAssetUrlPrefix.toList ++ suffix)
      = "/TinkerNorth/dish-windows/releases/download".toList
        ++ '/' :: suffix.takeWhile fun c => c ≠ '?' ∧ c ≠ '#' := by
    simp [pathOf, kAssetUrlPrefix, kAssetOrigin]
  refine ⟨_, List.splitOn_ne_nil '/' (suffix.takeWhile fun c => c ≠ '?' ∧ c ≠ '#'), ?_⟩
  rw [hpath, List.splitOn_eq_splitOnP, List.splitOnP_append_cons _ _ (by decide)]
  rfl

theorem resolve_of_climbless (suffix : List Char)
    (hclimb : Climbless (kAssetUrlPrefix.toList ++ suffix))
    : kAssetUrlPrefix.toList <+: resolve (kAssetUrlPrefix.toList ++ suffix) := by
  obtain ⟨rest, hne, hsplit⟩ := splitOn_pathOf suffix
  have hrest : ∀ segment ∈ rest, climbs segment = false := by
    intro segment hmem
    exact hclimb segment (by simp [hsplit, hmem])
  -- the directory's own segments are plain, so they are on the stack when `rest` is reached
  have hdirectory : removeDots [] (kAssetDirectory ++ rest)
      = removeDots kAssetDirectory.reverse rest := by
    simp [kAssetDirectory, removeDots, undot, climbs]
  obtain ⟨kept, hkept, heq⟩ := removeDots_of_climbless kAssetDirectory.reverse hne hrest
  refine ⟨['/'].intercalate kept, ?_⟩
  rw [resolve, hsplit, hdirectory, heq, List.reverse_reverse]
  simp [kAssetDirectory, kAssetUrlPrefix, kAssetOrigin, List.intercalate_cons_of_ne_nil, hkept]

def zeros64 : String := String.ofList (List.replicate 64 '0')

def Qt.ofUrl (url : String) : Qt where
  fromJson _ := some (.object [
    ("schema", .number 1), ("product", .string "dish-windows"), ("channel", .string "stable"),
    ("version", .string "1.0.0"), ("minimumSupportedVersion", .string "1.0.0"),
    ("assets", .object [(kSetupAssetName,
      .object [("url", .string url), ("sha256", .string zeros64), ("size", .number 1)])])])
  strictUrl _ := none

def manifestOf (url : String) : UpdateManifest :=
  ⟨"1.0.0", "1.0.0", "", ⟨url, zeros64, 1⟩⟩

end Update
