import Dish.Manager.Lemmas.Undisturbed
import Dish.Reducer.Applied
import Dish.Satellite.Registry
import Mathlib.Data.List.Induction

/-!
This module contains the slots that changed while a session PUT was out.
-/

open Std Models Reducer Wire Store Connection Satellite

namespace Wifi

namespace Manager

variable {sodium : Sodium} {m : Manager} {id connectionId : String} {creds : Credentials}

def sentBetween (m m' : Manager) : List Call :=
  (List.range' m.nextRequest (m'.nextRequest - m.nextRequest)).filterMap fun rid =>
    m'.requests[rid]?.map (·.call)

def sendAll (m : Manager) (server : DiscoveredServer) (calls : List Call) : Manager :=
  calls.foldl (fun m call => m.send server.ip server.httpPort call) m

theorem sendAll_append (m : Manager) (server : DiscoveredServer) (calls calls' : List Call)
    : m.sendAll server (calls ++ calls') = (m.sendAll server calls).sendAll server calls' := by
  exact List.foldl_append

theorem nextRequest_sendAll (m : Manager) (server : DiscoveredServer) (calls : List Call)
    : (m.sendAll server calls).nextRequest = m.nextRequest + calls.length := by
  induction calls generalizing m with
  | nil => rfl
  | cons call calls ih =>
    have hstep : m.sendAll server (call :: calls) =
        (m.send server.ip server.httpPort call).sendAll server calls := rfl
    have hnext : (m.send server.ip server.httpPort call).nextRequest = m.nextRequest + 1 := rfl
    rw [hstep, ih, hnext, List.length_cons]
    omega

theorem call_send (m : Manager) (host : String) (port : Int) (call : Call) (rid : Nat)
    : (m.send host port call).requests[rid]?.map (·.call) =
        if rid = m.nextRequest then some call else m.requests[rid]?.map (·.call) := by
  unfold send
  dsimp only
  rw [TreeMap.getElem?_insert]
  by_cases hrid : rid = m.nextRequest
  . simp [hrid]
  . simp [hrid, Ne.symm hrid]

theorem sentBetween_sendAll (m : Manager) (server : DiscoveredServer) (calls : List Call)
    : m.sentBetween (m.sendAll server calls) = calls := by
  induction calls using List.reverseRecOn with
  | nil => simp [sentBetween, sendAll]
  | append_singleton calls call ih =>
    have hnext := m.nextRequest_sendAll server calls
    have hlast : m.sendAll server (calls ++ [call]) =
        (m.sendAll server calls).send server.ip server.httpPort call := sendAll_append ..
    have hcount : (m.sendAll server (calls ++ [call])).nextRequest - m.nextRequest =
        calls.length + 1 := by
      rw [nextRequest_sendAll, List.length_append, List.length_singleton]
      omega
    unfold sentBetween at ih ⊢
    rw [hnext, Nat.add_sub_cancel_left] at ih
    rw [hcount, List.range'_1_concat, List.filterMap_append]
    congr 1
    . -- the requests made before keep their ids
      conv_rhs => rw [← ih]
      apply List.filterMap_congr
      intro rid hrid
      rw [List.mem_range'_1] at hrid
      rw [hlast, call_send, if_neg (by omega)]
    . rw [List.filterMap_cons, hlast, call_send, if_pos hnext.symm]
      rfl

structure Up (sodium : Sodium) (m : Manager) (c : WifiConnection id) (connectionId : String)
    (creds : Credentials) : Prop where
  conn : m.conn id = some c
  live : c.state = .Live
  connectionId : c.connectionId = some connectionId
  creds : m.credentialsFor sodium id = some creds

variable {c : WifiConnection id}

theorem Up.sendAll (h : Up sodium m c connectionId creds) (server : DiscoveredServer)
    (calls : List Call)
    : Up sodium (m.sendAll server calls) c connectionId creds := by
  induction calls generalizing m with
  | nil => exact h
  | cons call calls ih => exact ih ⟨h.conn, h.live, h.connectionId, h.creds⟩

theorem Up.foldl_eq {α : Type} (h : Up sodium m c connectionId creds) {step : Manager → α → Manager}
    {callsOf : α → List Call}
    (hstep : ∀ m a, Up sodium m c connectionId creds → step m a = m.sendAll c.server.1 (callsOf a))
    (as : List α)
    : as.foldl step m = m.sendAll c.server.1 (as.flatMap callsOf) := by
  induction as generalizing m with
  | nil => rfl
  | cons a as ih =>
    rw [List.foldl_cons, hstep m a h, ih (h.sendAll ..), List.flatMap_cons, sendAll_append]

def removeCalls (id connectionId : String) (creds : Credentials) (ctrlIdx : UInt8) : List Call :=
  [.deleteController id connectionId creds ctrlIdx.toNat]

def resyncCalls (c : WifiConnection id) (connectionId : String) (creds : Credentials)
    (ctrlIdx : UInt8)
    : List Call :=
  (((c.slotIdForIndex ctrlIdx.toNat).filter (· ≠ "")).bind c.descriptorFor).toList.map
    (.putController id c.obj c.server connectionId creds)

theorem Up.deleteSlot_eq (h : Up sodium m c connectionId creds) (ctrlIdx : UInt8)
    : m.deleteSlot sodium id ctrlIdx.toNat =
        m.sendAll c.server.1 (removeCalls id connectionId creds ctrlIdx) := by
  unfold deleteSlot
  rw [h.conn]
  dsimp only
  rw [h.connectionId, h.creds]
  rfl

theorem Up.syncSlot_eq (h : Up sodium m c connectionId creds) (slotId : String)
    : m.syncSlot sodium id slotId =
        m.sendAll c.server.1 ((c.descriptorFor slotId).toList.map
          (.putController id c.obj c.server connectionId creds)) := by
  unfold syncSlot
  rw [h.conn]
  dsimp only
  rw [if_neg (by simp [h.live]), h.connectionId, h.creds]
  cases c.descriptorFor slotId with
  | none => rfl
  | some descriptor => rfl

def lateCalls (sent : List ControllerDescriptor) (c : WifiConnection id) (connectionId : String)
    (creds : Credentials)
    : List Call :=
  let converge :=
    lateSlotConverge (descriptorsToDesired sent) (descriptorsToDesired c.desiredDescriptors)
  converge.removes.flatMap (removeCalls id connectionId creds) ++
    converge.resyncs.flatMap (resyncCalls c connectionId creds)

theorem Up.convergeLateSlots_eq (h : Up sodium m c connectionId creds)
    (sent : List ControllerDescriptor)
    : m.convergeLateSlots sodium id (descriptorsToDesired sent) =
        m.sendAll c.server.1 (lateCalls sent c connectionId creds) := by
  unfold convergeLateSlots lateCalls
  rw [h.conn]
  dsimp only
  rw [sendAll_append]
  rw [h.foldl_eq (fun m ctrlIdx h => h.deleteSlot_eq ctrlIdx)]
  apply (h.sendAll ..).foldl_eq
  intro m ctrlIdx h
  unfold resyncCalls
  split
  . next slotId hslot => rw [hslot, h.syncSlot_eq, Option.bind_some]
  . next hslot =>
    rw [hslot]
    rfl

end Manager

def Small (d : ControllerDescriptor) : Prop :=
  0 ≤ d.ctrlIdx ∧ d.ctrlIdx < 256

theorem toNat_ofInt {d : ControllerDescriptor} (h : Small d)
    : ((UInt8.ofInt d.ctrlIdx).toNat : Int) = d.ctrlIdx := by
  obtain ⟨hle, hlt⟩ := h
  unfold UInt8.ofInt
  rw [UInt8.toNat_ofNat']
  omega

theorem ofInt_inj {d d' : ControllerDescriptor} (h : Small d) (h' : Small d')
    : UInt8.ofInt d.ctrlIdx = UInt8.ofInt d'.ctrlIdx ↔ d.ctrlIdx = d'.ctrlIdx := by
  constructor
  . intro heq
    rw [← toNat_ofInt h, ← toNat_ofInt h', heq]
  . intro heq
    rw [heq]

section

variable {sent desired : List ControllerDescriptor}

theorem mem_descriptorsToDesired {s : DesiredSlot}
    : s ∈ descriptorsToDesired desired ↔
        ∃ d ∈ desired, s = { ctrlIdx := UInt8.ofInt d.ctrlIdx, type := d.type } := by
  simp [descriptorsToDesired, eq_comm]

theorem nodup_descriptorsToDesired (hsmall : ∀ d ∈ desired, Small d)
    (hdistinct : (desired.map (·.ctrlIdx)).Nodup)
    : ((descriptorsToDesired desired).map (·.ctrlIdx)).Nodup := by
  have hmap : (descriptorsToDesired desired).map (·.ctrlIdx) =
      desired.map fun d => UInt8.ofInt d.ctrlIdx := by
    simp [descriptorsToDesired]
  rw [hmap]
  apply List.Nodup.map_on _ (List.Nodup.of_map _ hdistinct)
  intro d hd d' hd' heq
  exact List.inj_on_of_nodup_map hdistinct hd hd' ((ofInt_inj (hsmall d hd) (hsmall d' hd')).mp heq)

theorem mem_removes (hsent : ∀ d ∈ sent, Small d) (hdesired : ∀ d ∈ desired, Small d)
    {ctrlIdx : UInt8}
    : ctrlIdx ∈ (lateSlotConverge (descriptorsToDesired sent) (descriptorsToDesired desired)).removes ↔
        ∃ d ∈ sent, UInt8.ofInt d.ctrlIdx = ctrlIdx ∧ ∀ d' ∈ desired, d'.ctrlIdx ≠ d.ctrlIdx := by
  have hnone {d : ControllerDescriptor} (hd : d ∈ sent)
      : (entryAt (descriptorsToDesired desired) (UInt8.ofInt d.ctrlIdx)).isNone ↔
          ∀ d' ∈ desired, d'.ctrlIdx ≠ d.ctrlIdx := by
    rw [← Option.not_isSome, Bool.not_eq_true', ← Bool.not_eq_true, entryAt_isSome]
    simp only [List.mem_map, mem_descriptorsToDesired, not_exists, not_and]
    constructor
    . intro h d' hd' heq
      exact h _ ⟨d', hd', rfl⟩ ((ofInt_inj (hdesired d' hd') (hsent d hd)).mpr heq)
    . rintro h _ ⟨d', hd', rfl⟩ heq
      exact h d' hd' ((ofInt_inj (hdesired d' hd') (hsent d hd)).mp heq)
  simp only [lateSlotConverge, List.mem_insertionSort, List.mem_map, List.mem_filter,
    mem_descriptorsToDesired]
  constructor
  . rintro ⟨_, ⟨⟨d, hd, rfl⟩, hgone⟩, rfl⟩
    exact ⟨d, hd, rfl, (hnone hd).mp hgone⟩
  . rintro ⟨d, hd, rfl, hgone⟩
    exact ⟨_, ⟨⟨d, hd, rfl⟩, (hnone hd).mpr hgone⟩, rfl⟩

theorem mem_resyncs (hsent : ∀ d ∈ sent, Small d) (hdesired : ∀ d ∈ desired, Small d)
    (hdistinct : (sent.map (·.ctrlIdx)).Nodup) {ctrlIdx : UInt8}
    : ctrlIdx ∈ (lateSlotConverge (descriptorsToDesired sent) (descriptorsToDesired desired)).resyncs ↔
        ∃ d ∈ desired, UInt8.ofInt d.ctrlIdx = ctrlIdx ∧
          ∀ s ∈ sent, s.ctrlIdx = d.ctrlIdx → s.type ≠ d.type := by
  have hdistinct' := nodup_descriptorsToDesired hsent hdistinct
  have hchanged {d : ControllerDescriptor} (hd : d ∈ desired)
      : (entryAt (descriptorsToDesired sent) (UInt8.ofInt d.ctrlIdx)).map (·.type) ≠ some d.type ↔
          ∀ s ∈ sent, s.ctrlIdx = d.ctrlIdx → s.type ≠ d.type := by
    simp only [ne_eq, Option.map_eq_some_iff, entryAt_eq_some hdistinct', mem_descriptorsToDesired,
      not_exists, not_and]
    constructor
    . intro h s hs heq htype
      exact h _ ⟨⟨s, hs, rfl⟩, (ofInt_inj (hsent s hs) (hdesired d hd)).mpr heq⟩ htype
    . rintro h _ ⟨⟨s, hs, rfl⟩, heq⟩ htype
      exact h s hs ((ofInt_inj (hsent s hs) (hdesired d hd)).mp heq) htype
  simp only [lateSlotConverge, List.mem_insertionSort, List.mem_map, List.mem_filter,
    mem_descriptorsToDesired, decide_eq_true_eq]
  constructor
  . rintro ⟨_, ⟨⟨d, hd, rfl⟩, hnew⟩, rfl⟩
    exact ⟨d, hd, rfl, (hchanged hd).mp hnew⟩
  . rintro ⟨d, hd, rfl, hnew⟩
    exact ⟨_, ⟨⟨d, hd, rfl⟩, (hchanged hd).mpr hnew⟩, rfl⟩

end

namespace Manager

variable {d : ControllerDescriptor}

variable {sodium : Sodium} {m : Manager} {id connectionId : String} {creds : Credentials}
variable {c : WifiConnection id} {sent : List ControllerDescriptor}

/-- No change keeps the index and the type of a slot, and no index is beyond a byte. -/
structure ChangeSeen (sent : List ControllerDescriptor) (c : WifiConnection id) : Prop where
  sentSmall : ∀ d ∈ sent, Small d
  small : ∀ d ∈ c.desiredDescriptors, Small d
  named : c.slots[""]? = none
  seen : ∀ d ∈ sent, ∀ d' ∈ c.desiredDescriptors, d.ctrlIdx = d'.ctrlIdx → d.type = d'.type → d = d'

theorem mem_desiredDescriptors
    : d ∈ c.desiredDescriptors ↔
        ∃ (slotId : String) (b : SlotBinding), c.slots[slotId]? = some b ∧ descriptorOf b = d := by
  simp [WifiConnection.desiredDescriptors, WifiConnection.bindings,
    TreeMap.mem_toList_iff_getElem?_eq_some]

theorem exists_slotIdForIndex {slotId : String} {b : SlotBinding} (hb : c.slots[slotId]? = some b)
    : ∃ (slotId' : String) (b' : SlotBinding), c.slotIdForIndex b.controllerIndex = some slotId' ∧
        c.slots[slotId']? = some b' ∧ b'.controllerIndex = b.controllerIndex := by
  have hmem : (slotId, b) ∈ c.slots.toList := TreeMap.mem_toList_iff_getElem?_eq_some.mpr hb
  have hsome : (c.slotIdForIndex b.controllerIndex).isSome := by
    unfold WifiConnection.slotIdForIndex
    rw [Option.isSome_map, List.find?_isSome]
    exact ⟨(slotId, b), hmem, by simp⟩
  obtain ⟨slotId', hslot⟩ := Option.isSome_iff_exists.mp hsome
  refine ⟨slotId', ?_⟩
  obtain ⟨⟨_, b'⟩, hfind, rfl⟩ := Option.map_eq_some_iff.mp hslot
  exact ⟨b', hslot, TreeMap.mem_toList_iff_getElem?_eq_some.mp (List.mem_of_find?_eq_some hfind),
    by simpa using List.find?_some hfind⟩

theorem descriptorFor_slotIdForIndex (hnamed : c.slots[""]? = none)
    (hdistinct : (c.desiredDescriptors.map (·.ctrlIdx)).Nodup)
    (hd : d ∈ c.desiredDescriptors)
    : ((c.slotIdForIndex d.ctrlIdx.toNat).filter (· ≠ "")).bind c.descriptorFor = some d := by
  obtain ⟨slotId, b, hb, rfl⟩ := mem_desiredDescriptors.mp hd
  obtain ⟨slotId', b', hslot, hb', hsame⟩ := exists_slotIdForIndex hb
  have hindex : (descriptorOf b).ctrlIdx.toNat = b.controllerIndex := by simp [descriptorOf]
  have hne : slotId' ≠ "" := by
    rintro rfl
    rw [hnamed] at hb'
    cases hb'
  have hdescriptor : descriptorOf b' = descriptorOf b := by
    apply List.inj_on_of_nodup_map hdistinct (mem_desiredDescriptors.mpr ⟨slotId', b', hb', rfl⟩) hd
    simp [descriptorOf, hsame]
  rw [hindex, hslot]
  simp [Option.filter, hne, WifiConnection.descriptorFor, hb', hdescriptor]

theorem resyncCalls_of_mem (hseen : ChangeSeen sent c)
    (hdistinct : (c.desiredDescriptors.map (·.ctrlIdx)).Nodup)
    (hd : d ∈ c.desiredDescriptors)
    : resyncCalls c connectionId creds (UInt8.ofInt d.ctrlIdx) =
        [.putController id c.obj c.server connectionId creds d] := by
  have hidx : (UInt8.ofInt d.ctrlIdx).toNat = d.ctrlIdx.toNat := by
    have hcast := toNat_ofInt (hseen.small d hd)
    omega
  unfold resyncCalls
  rw [hidx, descriptorFor_slotIdForIndex hseen.named hdistinct hd]
  rfl

theorem writeOf_lateCalls (hseen : ChangeSeen sent c) (hsent : (sent.map (·.ctrlIdx)).Nodup)
    (hdesired : (c.desiredDescriptors.map (·.ctrlIdx)).Nodup) (connectionId : String)
    (creds : Credentials) (w : Option (Int × Option ControllerDescriptor))
    : (∃ call ∈ lateCalls sent c connectionId creds, writeOf call = w) ↔
        (∃ d ∈ sent, (∀ d' ∈ c.desiredDescriptors, d'.ctrlIdx ≠ d.ctrlIdx) ∧
          w = some (d.ctrlIdx, none)) ∨
        (∃ d ∈ c.desiredDescriptors, (∀ s ∈ sent, s.ctrlIdx = d.ctrlIdx → s.type ≠ d.type) ∧
          w = some (d.ctrlIdx, some d)) := by
  unfold lateCalls
  simp only [List.mem_append, List.mem_flatMap, or_and_right, exists_or,
    mem_removes hseen.sentSmall hseen.small, mem_resyncs hseen.sentSmall hseen.small hsent]
  apply or_congr
  . constructor
    . rintro ⟨call, ⟨_, ⟨d, hd, rfl, hgone⟩, hcall⟩, rfl⟩
      rw [removeCalls, List.mem_singleton] at hcall
      subst hcall
      refine ⟨d, hd, hgone, ?_⟩
      rw [writeOf, toNat_ofInt (hseen.sentSmall d hd)]
    . rintro ⟨d, hd, hgone, rfl⟩
      refine ⟨_, ⟨_, ⟨d, hd, rfl, hgone⟩, List.mem_singleton.mpr rfl⟩, ?_⟩
      rw [writeOf, toNat_ofInt (hseen.sentSmall d hd)]
  . constructor
    . rintro ⟨call, ⟨_, ⟨d, hd, rfl, hnew⟩, hcall⟩, rfl⟩
      rw [resyncCalls_of_mem hseen hdesired hd, List.mem_singleton] at hcall
      subst hcall
      exact ⟨d, hd, hnew, rfl⟩
    . rintro ⟨d, hd, hnew, rfl⟩
      refine ⟨.putController id c.obj c.server connectionId creds d, ⟨_, ⟨d, hd, rfl, hnew⟩, ?_⟩, rfl⟩
      rw [resyncCalls_of_mem hseen hdesired hd]
      exact List.mem_singleton.mpr rfl

def lateRun : List Event :=
  [.connectTo officePc .UserInitiated, .encrypted 0 officeCert,
    .attachSlot officePc.id "pad0" { hasRumble := true }, .reply 0 officeGrant true]

def latePad : ControllerDescriptor where
  caps := kBaseCaps ||| kCapRumble

theorem exists_up_lateRun
    : ∃ (m : Manager) (c : WifiConnection officePc.id) (creds : Credentials),
        Transition.run (step officeSodium) officeLaunch lateRun = some m ∧
        Up officeSodium m c "c1" creds ∧ c.desiredDescriptors = [latePad] ∧
        c.slots[""]? = none := by
  have hany : (Transition.run (step officeSodium) officeLaunch lateRun).any (fun m =>
      (m.conn officePc.id).any fun c => c.state = .Live ∧ c.connectionId = some "c1" ∧
        (m.credentialsFor officeSodium officePc.id).isSome ∧ c.desiredDescriptors = [latePad] ∧
        c.slots[""]? = none) = true := by decide +kernel
  obtain ⟨m, hrun, hm⟩ := Transition.exists_run_of_any hany
  obtain ⟨c, hc, htest⟩ := (Option.any_eq_true _ _).mp hm
  obtain ⟨hlive, hconnection, hcreds, hdesired, hnamed⟩ := of_decide_eq_true htest
  obtain ⟨creds, hcreds⟩ := Option.isSome_iff_exists.mp hcreds
  exact ⟨m, c, creds, hrun, ⟨hc, hlive, hconnection, hcreds⟩, hdesired, hnamed⟩

def formerPads : List ControllerDescriptor :=
  [{ ctrlIdx := 0, type := 2, caps := kBaseCaps }, { ctrlIdx := 1, caps := kBaseCaps }]

end Manager

end Wifi
