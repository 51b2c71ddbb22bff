import Dish.Slots.Lemmas.Passes

/-!
This module contains what holds of the claims in every run.
-/

open Std Reducer Audio Connection

namespace Slots

variable {event : UsbEvent} {key : Int} {m' : AppModel} {t : Tracked}

structure Tracked.Sound (key : Int) (t : Tracked) : Prop where
  key_eq : key = slotPathVpKey t.controller.vendorId t.controller.productId
  claimed : t.claim.isSome → t.controller.phase = .Direct ∧ t.controller.syntheticId.isSome
  latchless : t.isDualSense = false → ∀ c, t.claim = some c →
    c.micMute.muted = false ∧ c.lastMicMuted = false

namespace AppModel

def ClaimsSound (m : AppModel) : Prop :=
  ∀ (key : Int) (t : Tracked), m.controllers[key]? = some t → t.Sound key

theorem of_foldl_executeEffect {c : UsbController} {effects : List UsbEffect}
    {before : Option Claim} {claim : Claim}
    (h : effects.foldl (executeEffect c) before = some claim)
    : before = some claim ∧ ∀ effect ∈ effects, executeEffect c before effect = before := by
  induction effects generalizing before with
  | nil => exact ⟨h, fun _ hmem => nomatch hmem⟩
  | cons effect rest ih =>
    rw [List.foldl_cons] at h
    obtain ⟨hafter, hrest⟩ := ih h
    have hkept : executeEffect c before effect = before := by
      unfold executeEffect at hafter ⊢
      grind
    rw [hkept] at hafter hrest
    refine ⟨hafter, ?_⟩
    intro other hother
    obtain rfl | hother := List.mem_cons.mp hother
    next => exact hkept
    next => exact hrest other hother

theorem of_claimAfter {c : UsbController} {claim : Claim}
    (hsound : t.claim.isSome → t.controller.phase = .Direct ∧ t.controller.syntheticId.isSome)
    (hexpects : expects t event) (hnext : (reduce t.controller event).next = some c)
    (h : claimAfter t event = some claim)
    : (claim = {} ∨ t.claim = some claim) ∧ c.phase = .Direct ∧ c.syntheticId.isSome := by
  unfold claimAfter at h
  dsimp only at h
  rw [hnext, Option.getD_some] at h
  obtain ⟨hbefore, hkept⟩ := of_foldl_executeEffect h
  split at hbefore
  next id =>
    -- Only a claim under way is told that it succeeded.
    cases hbefore
    refine ⟨.inl rfl, ?_⟩
    unfold expects at hexpects
    simp only [Bool.or_eq_true, decide_eq_true_eq] at hexpects
    obtain hphase | hphase := hexpects <;>
      grind [reduce, reduceClaiming, claimingSucceeded, reduceRestoreStuck,
        restoreStuckClaimSucceeded]
  next hother =>
    obtain ⟨hphase, hsynthetic⟩ := hsound (by rw [hbefore]; rfl)
    refine ⟨.inr hbefore, ?_⟩
    by_cases hdirect : c.phase = .Direct
    next =>
      obtain ⟨_, hsame⟩ | ⟨id, hid, _⟩ := (reduce_keeps t.controller event).direct c hnext hdirect
      next => exact ⟨hdirect, hsame ▸ hsynthetic⟩
      next => exact absurd hid (hother id)
    next =>
      -- A pad that leaves Direct would have lost its claim.
      exfalso
      obtain ⟨id, hid⟩ := Option.isSome_iff_exists.mp hsynthetic
      obtain ⟨hrelease, hsame⟩ | hremove := release_of_leaves_direct hphase hnext hdirect
      next =>
        have := hkept _ hrelease
        grind [executeEffect]
      next =>
        have := hkept _ (hremove id hid)
        grind [executeEffect]

theorem ClaimsSound.insert {m : AppModel} (h : m.ClaimsSound)
    (hcontrollers : m'.controllers = m.controllers.insert key t) (ht : t.Sound key)
    : m'.ClaimsSound := by
  intro key' t' hkey
  rw [hcontrollers, TreeMap.getElem?_insert] at hkey
  split at hkey
  next heq =>
    cases hkey
    rw [Std.compare_eq_iff_eq] at heq
    exact heq ▸ ht
  next => exact h key' t' hkey

theorem ClaimsSound.applyEvent {m : AppModel} (h : m.ClaimsSound)
    (ht : t.Sound key) (hexpects : expects t event)
    : (m.applyEvent key t event).ClaimsSound := by
  cases hnext : (reduce t.controller event).next with
  | none =>
    intro key' t' hkey
    unfold AppModel.applyEvent at hkey
    simp only [hnext, TreeMap.getElem?_erase] at hkey
    split at hkey
    next => cases hkey
    next => exact h key' t' hkey
  | some c =>
    have hinsert : (m.applyEvent key t event).controllers
        = m.controllers.insert key { t with controller := c, claim := claimAfter t event } := by
      unfold AppModel.applyEvent
      rw [hnext]
    apply h.insert hinsert
    have hkeeps := reduce_keeps t.controller event
    have hvendor := hkeeps.vendorId c hnext
    have hproduct := hkeeps.productId c hnext
    constructor
    case key_eq =>
      rw [ht.key_eq, hvendor, hproduct]
    case claimed =>
      intro hsome
      obtain ⟨claim, hclaim⟩ := Option.isSome_iff_exists.mp hsome
      exact (of_claimAfter ht.claimed hexpects hnext hclaim).2
    case latchless =>
      intro hparser claim hclaim
      obtain ⟨hfresh | hsame, _⟩ := of_claimAfter ht.claimed hexpects hnext hclaim
      next =>
        rw [hfresh]
        exact ⟨rfl, rfl⟩
      next =>
        apply ht.latchless _ claim hsame
        rw [← hparser]
        unfold Tracked.isDualSense
        rw [hvendor, hproduct]

theorem claim_of_applyEvent {m : AppModel} (ht : t.Sound key) (hexpects : expects t event) {key' : Int} {t' : Tracked} {c : Claim}
    (hkey : (m.applyEvent key t event).controllers[key']? = some t') (hclaim : t'.claim = some c)
    : c = {} ∨ (key' = key ∧ t.claim = some c) ∨ m.controllers[key']? = some t' := by
  unfold AppModel.applyEvent at hkey
  cases hnext : (reduce t.controller event).next with
  | none =>
    simp only [hnext, TreeMap.getElem?_erase] at hkey
    split at hkey
    next => cases hkey
    next => exact .inr (.inr hkey)
  | some after =>
    simp only [hnext, TreeMap.getElem?_insert, Std.compare_eq_iff_eq] at hkey
    split at hkey
    next heq =>
      cases hkey
      obtain ⟨hfresh | hsame, _⟩ := of_claimAfter ht.claimed hexpects hnext hclaim
      next => exact .inl hfresh
      next => exact .inr (.inl ⟨heq.symm, hsame⟩)
    next => exact .inr (.inr hkey)

end AppModel

theorem Tracked.Sound.setPadMicMuted (ht : t.Sound key) (muted : Bool)
    : (t.setPadMicMuted muted).Sound key := by
  unfold Tracked.setPadMicMuted
  split
  next hwritten =>
    refine ⟨ht.key_eq, ?_, ?_⟩
    next =>
      intro hsome
      exact ht.claimed (by simpa using hsome)
    next =>
      intro hparser
      exact absurd (hwritten.2.symm.trans hparser) (by decide)
  next => exact ht

theorem Tracked.Sound.report {c : Claim} (ht : t.Sound key)
    (hclaim : t.claim = some c) (muteDown : Bool)
    : ({ t with claim := (AppModel.mirrorMicMute t c muteDown).1 } : Tracked).Sound key := by
  refine ⟨ht.key_eq, ?_, ?_⟩
  next =>
    intro _
    exact ht.claimed (by rw [hclaim]; rfl)
  next =>
    intro hparser claim hafter
    have hparser : t.isDualSense = false := hparser
    obtain ⟨hmuted, hlast⟩ := ht.latchless hparser c hclaim
    cases hafter
    unfold AppModel.mirrorMicMute
    simp [hparser, hmuted, hlast]

namespace AppModel

def writeMute (m : AppModel) (slotId : String) (muted : Bool) : AppModel :=
  let m : AppModel := { m with micMuteStore := m.micMuteStore.setMuted slotId muted }
  match parseSyntheticSlotId slotId with
  | some (vendorId, productId) => m.setPadMicMuted vendorId productId muted
  | none => m

theorem setSlotMicMuted_eq (m : AppModel) {slotId : String} (h : slotId ≠ "") (muted : Bool)
    (refused : List String)
    : m.setSlotMicMuted slotId muted refused = (m.writeMute slotId muted).rebuildPass refused := by
  unfold setSlotMicMuted
  rw [if_neg h]
  rfl

def writes (slotId : String) (key : Int) : Bool :=
  (parseSyntheticSlotId slotId).any fun vp => slotPathVpKey vp.1 vp.2 = key

section Write

variable (m : AppModel) (slotId : String) (muted : Bool)

theorem writeMute_eq
    : m.writeMute slotId muted = { m with
        controllers := (m.writeMute slotId muted).controllers
        micMuteStore := m.micMuteStore.setMuted slotId muted } := by
  unfold writeMute setPadMicMuted
  dsimp only
  split
  next => split <;> rfl
  next => rfl

theorem pads_writeMute : (m.writeMute slotId muted).pads = m.pads := by
  rw [writeMute_eq]

theorem upcalls_writeMute : (m.writeMute slotId muted).upcalls = m.upcalls := by
  rw [writeMute_eq]

theorem micMuteStore_writeMute
    : (m.writeMute slotId muted).micMuteStore = m.micMuteStore.setMuted slotId muted := by
  rw [writeMute_eq]

theorem controllers_setPadMicMuted (vendorId productId : UInt16) (key : Int)
    : (m.setPadMicMuted vendorId productId muted).controllers[key]?
      = m.controllers[key]?.map fun t =>
        if slotPathVpKey vendorId productId = key then t.setPadMicMuted muted else t := by
  unfold setPadMicMuted
  generalize slotPathVpKey vendorId productId = written
  split
  next hnone =>
    by_cases hkey : written = key
    next =>
      rw [← hkey, hnone]
      rfl
    next => simp [hkey]
  next t ht =>
    simp only [TreeMap.getElem?_insert, Std.compare_eq_iff_eq]
    by_cases hkey : written = key
    next =>
      rw [← hkey, ht]
      simp
    next => simp [hkey]

theorem controllers_writeMute (key : Int)
    : (m.writeMute slotId muted).controllers[key]? = m.controllers[key]?.map fun t =>
      if writes slotId key then t.setPadMicMuted muted else t := by
  unfold writeMute writes
  cases parseSyntheticSlotId slotId with
  | none => simp
  | some vp =>
    dsimp only
    rw [controllers_setPadMicMuted]
    simp

theorem shownSlots_writeMute : (m.writeMute slotId muted).shownSlots = m.shownSlots := by
  apply shownSlots_congr (m.pads_writeMute slotId muted)
  intro key
  rw [controllers_writeMute, Option.map_map]
  congr 1
  funext t
  simp only [Function.comp_apply, Tracked.setPadMicMuted, Tracked.hardware]
  split_ifs <;> rfl

end Write

theorem ClaimsSound.writeMute {m : AppModel} (h : m.ClaimsSound) (slotId : String) (muted : Bool)
    : (m.writeMute slotId muted).ClaimsSound := by
  intro key t' hkey
  rw [controllers_writeMute, Option.map_eq_some_iff] at hkey
  obtain ⟨t, ht, rfl⟩ := hkey
  split
  next => exact (h key t ht).setPadMicMuted muted
  next => exact h key t ht

theorem of_call {m : AppModel} {f : AppModel → AppModel} (h : m.call f = some m') : m' = f m := by
  unfold call at h
  split at h
  next =>
    cases h
    rfl
  next => cases h

theorem ClaimsSound.ensureTracked {m : AppModel} (h : m.ClaimsSound) (vendorId productId : UInt16)
    (name : String) (choice : PathChoice) (pad : Nat)
    : (m.ensureTracked vendorId productId name choice pad).ClaimsSound := by
  unfold AppModel.ensureTracked
  dsimp only
  split
  next t ht =>
    have hsound := h _ t ht
    split
    next => exact h
    next => exact h.insert rfl ⟨hsound.key_eq, hsound.claimed, hsound.latchless⟩
  next =>
    apply h.applyEvent _ rfl
    exact ⟨rfl, (fun hsome => nomatch hsome), (fun _ c hc => nomatch hc)⟩

theorem ClaimsSound.runNext {m : AppModel} (h : m.ClaimsSound) {refused : List String}
    (hrun : m.runNext refused = some m')
    : m'.ClaimsSound := by
  unfold AppModel.runNext at hrun
  split at hrun
  next step rest _ =>
    cases hrun
    cases step with
    | unbind slotId =>
      unfold AppModel.executeStep unbind
      dsimp only
      split <;> exact h
    | migrate slotId toSlotId connectionId => exact h
  next op rest _ _ =>
    cases hrun
    cases op with
    | rebuildPass | applyBindingPresence | reconcileAudioEngines => exact h
    | setSlotMicMuted slotId muted pressed =>
      by_cases hslot : slotId = ""
      next =>
        rw [hslot]
        exact h
      next =>
        have hrest : ({ m with todo := rest } : AppModel).ClaimsSound := h
        unfold AppModel.execute
        dsimp only
        rw [setSlotMicMuted_eq _ hslot]
        exact hrest.writeMute slotId muted
    | setPadAudioRoutes routes =>
      unfold AppModel.execute setPadAudioRoutes
      dsimp only
      split <;> exact h
    | republishSlotCaps slotId =>
      unfold AppModel.execute republishSlotCaps
      dsimp only
      split <;> exact h
  next => cases hrun

theorem ClaimsSound.step {m : AppModel} (h : m.ClaimsSound) {e : Event} (hstep : m.step e = some m')
    : m'.ClaimsSound := by
  unfold AppModel.step at hstep
  cases e with
  | plug vendorId productId bluetooth pad =>
    cases hstep
    exact h
  | unplug iid =>
    cases hstep
    exact h
  | report key muteDown =>
    obtain ⟨t, ht, hclaimed⟩ := Option.bind_eq_some_iff.mp hstep
    obtain ⟨c, hclaim, rfl⟩ := Option.map_eq_some_iff.mp hclaimed
    exact h.insert rfl ((h key t ht).report hclaim muteDown)
  | run refused => exact h.runNext hstep
  | ensureTracked vendorId productId name choice pad =>
    rw [of_call hstep]
    exact h.ensureTracked vendorId productId name choice pad
  | usb key event =>
    obtain ⟨t, htracked, hcalled⟩ := Option.bind_eq_some_iff.mp hstep
    obtain ⟨ht, hexpects⟩ := Option.filter_eq_some_iff.mp htracked
    rw [of_call hcalled]
    exact h.applyEvent (h key t ht) hexpects
  | session id session | resolveAudioRoutes routes | audioDevicesChanged names routes | rebuild
  | bindSlot slotId connectionId refused | beginApplyBind slotId connectionId on refused =>
    rw [of_call hstep]
    exact h
  | unbindSlot slotId refused =>
    rw [of_call hstep]
    unfold unbindSlot unbind
    dsimp only
    split <;> exact h
  | toggleSlotMicMute slotId =>
    rw [of_call hstep]
    unfold toggleSlotMicMute
    split <;> exact h
  | toggleAllMics =>
    rw [of_call hstep]
    unfold toggleAllMics
    split <;> exact h
  | padMicMuteChanged =>
    dsimp only at hstep
    split at hstep
    next => cases hstep
    next u rest hupcalls =>
      rw [of_call hstep]
      exact h

end AppModel

end Slots
