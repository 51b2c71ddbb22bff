import Dish.Audio.Mic
import Dish.Lib.Grouping
import Dish.Lib.Trim

/-!
This module contains the rule that gives a claimed pad its own audio endpoints.
-/

open Std

namespace Audio

def kDualSenseEndpointChannels : Int := 4

structure AudioPadCandidate where
  vendorId : UInt16
  productId : UInt16
  productName : String := ""
  hasAudioFunction : Bool := false
  hasHapticLanes : Bool := false
  deriving DecidableEq

def padAudioKey (vendorId productId : UInt16) : Int :=
  ((vendorId.toBitVec.setWidth 32 <<< 16) ||| (productId.toBitVec.setWidth 32 &&& 0xFFFF#32)).toInt

def isspace (c : Char) : Bool :=
  c.toNat = 0x20 || 0x09 ≤ c.toNat && c.toNat ≤ 0x0d

def trimmed (s : String) : String :=
  String.ofList (Trim.both isspace s.toList)

def lowerAscii (c : Char) : Char :=
  if 'A' ≤ c ∧ c ≤ 'Z' then Char.ofNat (c.toNat - 'A'.toNat + 'a'.toNat) else c

def containsInsensitive.startsWith : List Char → List Char → Bool
  | _, [] => true
  | [], _ :: _ => false
  | c :: haystack, d :: needle => lowerAscii c = lowerAscii d && startsWith haystack needle

def containsInsensitive (haystack needle : String) : Bool :=
  if needle = "" ∨ needle.length > haystack.length then
    false
  else
    (List.range (haystack.length + 1 - needle.length)).any fun i =>
      containsInsensitive.startsWith (haystack.toList.drop i) needle.toList

def matchDirection.owner (name : String) : Option String → List String → Option String
  | owner, [] => owner
  | found, pad :: padNames =>
    if !containsInsensitive name pad then
      owner name found padNames
    else
      match found with
      | some _ => none
      | none => owner name (some pad) padNames

def matchDirection (padNames endpointNames : List String) : TreeMap String String :=
  let byPad := Grouping.group (fun endpoint =>
    let name := trimmed endpoint
    if name = "" then none else matchDirection.owner name none padNames) endpointNames
  Grouping.alone byPad

namespace AudioPadCandidate

def listed (pad : AudioPadCandidate) : Option String :=
  if !pad.hasAudioFunction then
    none
  else
    let name := trimmed pad.productName
    if name = "" then none else some name

def routeFor (sources sinks : TreeMap String String) (playbackChannelsFor : Option (String → Int))
    (name : String) (pad : AudioPadCandidate)
    : Option PadAudioRoute :=
  let route : PadAudioRoute :=
    match sources[name]? with
    | none => {}
    | some device => { microphone := true, captureDeviceName := device }
  let route :=
    match sinks[name]? with
    | none => route
    | some device =>
      let playbackChannels := playbackChannelsFor.elim 0 (· device)
      { route with
        speaker := true
        playbackDeviceName := device
        playbackChannels
        haptics := pad.hasHapticLanes && kDualSenseEndpointChannels ≤ playbackChannels }
  if !route.microphone && !route.speaker then none else some route

end AudioPadCandidate

def resolvePadAudioRoutes (pads : List AudioPadCandidate) (captureNames playbackNames : List String)
    (playbackChannelsFor : Option (String → Int))
    : TreeMap Int PadAudioRoute :=
  let byName := Grouping.alone (Grouping.group AudioPadCandidate.listed pads)
  let padNames := byName.keys
  let sources := matchDirection padNames captureNames
  let sinks := matchDirection padNames playbackNames
  Grouping.collect (fun entry => padAudioKey entry.2.vendorId entry.2.productId)
    (fun entry => entry.2.routeFor sources sinks playbackChannelsFor entry.1) byName.toList

end Audio
