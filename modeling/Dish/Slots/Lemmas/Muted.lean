import Dish.Lib.Transition
import Dish.Slots.Lemmas.Claims

/-!
This module contains the mute.
-/

open Std Reducer Audio Connection Transition

namespace Slots

namespace AppModel

variable {key : Int} {m m' : AppModel} {muted muted' pads : List Nat} {slotId : String} {t :
  Tracked}

def Held (m : AppModel) (muted : List Nat) (slotId : String) : Prop :=
  ∃ slot ∈ m.shownSlots, slot.pad ∈ muted ∧ slot.id = slotId

structure Hushed (m : AppModel) (muted : List Nat) : Prop where
  store : ∀ slotId, m.Held muted slotId → m.micMuteStore.isMuted slotId = true
  latch : ∀ (key : Int) (t : Tracked) (c : Claim), m.controllers[key]? = some t →
    t.claim = some c → m.Held muted (toString key) →
    c.micMute.muted = true ∨ c.lastMicMuted = false
  queue : ∀ u ∈ m.upcalls, u.muted = false → ¬ m.Held muted u.slotId

def Quiet (m : AppModel) (muted : List Nat) : Prop :=
  ∀ slot ∈ m.slotList, slot.pad ∈ muted →
    m.micMuteStore.isMuted slot.id = true ∧ m.micEngine.capturingFor slot.id = false

theorem Hushed.congr (h : m.Hushed muted)
    (hpads : m'.pads = m.pads) (hcontrollers : m'.controllers = m.controllers)
    (hupcalls : m'.upcalls = m.upcalls) (hstore : m'.micMuteStore = m.micMuteStore)
    : m'.Hushed muted := by
  have hshown : m'.shownSlots = m.shownSlots := by
    apply shownSlots_congr hpads
    rw [hcontrollers]
    exact fun key => rfl
  have hheld : ∀ slotId, m'.Held muted slotId → m.Held muted slotId := by
    intro slotId
    unfold Held
    rw [hshown]
    exact id
  constructor
  case store =>
    rw [hstore]
    exact fun slotId hs => h.store slotId (hheld slotId hs)
  case latch =>
    rw [hcontrollers]
    exact fun key t c ht hc hs => h.latch key t c ht hc (hheld _ hs)
  case queue =>
    rw [hupcalls]
    exact fun u hu hmuted hs => h.queue u hu hmuted (hheld _ hs)

theorem Quiet.mono (h : m.Quiet muted)
    (hslots : m'.slotList = m.slotList) (hstore : m'.micMuteStore = m.micMuteStore)
    (hengine : ∀ slotId, m'.micEngine.capturingFor slotId → m.micEngine.capturingFor slotId)
    : m'.Quiet muted := by
  intro slot hslot hpad
  rw [hslots] at hslot
  obtain ⟨hmuted, hsilent⟩ := h slot hslot hpad
  refine ⟨hstore ▸ hmuted, ?_⟩
  rw [Bool.eq_false_iff]
  exact fun hcapturing => absurd (hengine slot.id hcapturing) (by simp [hsilent])

theorem Hushed.rebuildPass (h : m.Hushed muted) (refused : List String)
    : (m.rebuildPass refused).Hushed muted ∧ (m.rebuildPass refused).Quiet muted := by
  have hstore : ∀ slotId, m.Held muted slotId →
      (m.rebuildPass refused).micMuteStore.isMuted slotId = true := by
    intro slotId hheld
    have hshown : slotId ∈ m.shownSlots.map (·.id) := by
      obtain ⟨slot, hslot, _, hid⟩ := hheld
      exact List.mem_map.mpr ⟨slot, hslot, hid⟩
    rw [isMuted_rebuildPass hshown]
    exact h.store slotId hheld
  constructor
  next => exact ⟨hstore, h.latch, h.queue⟩
  next =>
    intro slot hslot hpad
    rw [slotList_rebuildPass, mem_crossReferenceBindings] at hslot
    obtain ⟨shown, hshown, rfl⟩ := hslot
    have hmuted := hstore shown.id ⟨shown, hshown, hpad, rfl⟩
    refine ⟨hmuted, ?_⟩
    rw [Bool.eq_false_iff]
    intro hcapturing
    exact absurd (hmuted.symm.trans (armed_of_rebuildPass hcapturing).unmuted) (by decide)

theorem Hushed.pass (h : m.Hushed muted) (refused : List String)
    (hpads : m'.pads = m.pads) (hcontrollers : m'.controllers = m.controllers)
    (hupcalls : m'.upcalls = m.upcalls) (hstore : m'.micMuteStore = m.micMuteStore)
    : (m'.rebuildPass refused).Hushed muted ∧ (m'.rebuildPass refused).Quiet muted := by
  exact (h.congr hpads hcontrollers hupcalls hstore).rebuildPass refused

theorem Quiet.reconcileAudioEngines (h : m.Quiet muted) (refused : List String)
    : (m.reconcileAudioEngines refused).Quiet muted := by
  intro slot hslot hpad
  obtain ⟨hmuted, _⟩ := h slot hslot hpad
  refine ⟨hmuted, ?_⟩
  rw [Bool.eq_false_iff]
  intro hcapturing
  have hunmuted : m.micMuteStore.isMuted slot.id = false :=
    (armed_of_reconcileAudioEngines hcapturing).unmuted
  exact absurd (hmuted.symm.trans hunmuted) (by decide)

def addressed (m : AppModel) (slotId : String) : List ControllerSlot :=
  m.shownSlots.filter fun slot => slot.id = slotId ∨
    (parseSyntheticSlotId slotId).any fun vp => slot.id = toString (slotPathVpKey vp.1 vp.2)

theorem writes_of_isDualSense (ht : t.Sound key) (hparser : t.isDualSense = true)
    : writes (toString key) key = true := by
  unfold Tracked.isDualSense parserIsDualSense at hparser
  simp only [Bool.and_eq_true, Bool.or_eq_true, decide_eq_true_eq] at hparser
  rw [ht.key_eq, hparser.1]
  obtain hproduct | hproduct := hparser.2 <;> rw [hproduct] <;> decide

theorem latch_setPadMicMuted (ht : t.Sound key) {muted : Bool} {c : Claim}
    (h : (t.setPadMicMuted muted).claim = some c)
    : c.micMute.muted = muted ∨ c.lastMicMuted = false := by
  unfold Tracked.setPadMicMuted at h
  split at h
  next =>
    obtain ⟨before, _, rfl⟩ := Option.map_eq_some_iff.mp h
    exact .inl rfl
  next hunwritten =>
    have hsynthetic := (ht.claimed (by rw [h]; rfl)).2
    have hparser : t.isDualSense = false := by simpa [hsynthetic] using hunwritten
    exact .inr (ht.latchless hparser c h).2

theorem held_writeMute {id : String} {muted : Bool}
    : (m.writeMute slotId muted).Held pads id ↔ m.Held pads id := by
  unfold Held
  rw [shownSlots_writeMute]

theorem Hushed.mute (h : m.Hushed muted) (hclaims : m.ClaimsSound)
    (hpads : ∀ slot ∈ m.shownSlots, slot.pad ∈ pads → slot.id = slotId)
    (hqueue : ∀ u ∈ m.upcalls, u.slotId = slotId → u.muted = true)
    : (m.writeMute slotId true).Hushed (muted ++ pads) := by
  have hheld : ∀ id, (m.writeMute slotId true).Held (muted ++ pads) id →
      m.Held muted id ∨ id = slotId := by
    intro id hid
    obtain ⟨slot, hslot, hpad, hid⟩ := held_writeMute.mp hid
    obtain hbefore | hnew := List.mem_append.mp hpad
    next => exact .inl ⟨slot, hslot, hbefore, hid⟩
    next => exact .inr (hid.symm.trans (hpads slot hslot hnew))
  constructor
  case store =>
    intro id hid
    rw [micMuteStore_writeMute, MicMuteStore.isMuted_setMuted]
    split
    next => rfl
    next hne =>
      obtain hbefore | heq := hheld id hid
      next => exact h.store id hbefore
      next => exact absurd heq.symm hne
  case latch =>
    intro key t' c' ht' hclaim hid
    rw [controllers_writeMute, Option.map_eq_some_iff] at ht'
    obtain ⟨t, ht, rfl⟩ := ht'
    have hsound := hclaims key t ht
    split at hclaim
    next => exact latch_setPadMicMuted hsound hclaim
    next hunwritten =>
      obtain hbefore | heq := hheld (toString key) hid
      next => exact h.latch key t c' ht hclaim hbefore
      next =>
        rw [← heq] at hunwritten
        have hparser : t.isDualSense = false := by
          rw [Bool.eq_false_iff]
          exact fun hparser => hunwritten (writes_of_isDualSense hsound hparser)
        exact .inr (hsound.latchless hparser c' hclaim).2
  case queue =>
    intro u hu hmuted hid
    rw [upcalls_writeMute] at hu
    obtain hbefore | heq := hheld u.slotId hid
    next => exact h.queue u hu hmuted hbefore
    next => exact absurd (hmuted.symm.trans (hqueue u hu heq)) (by decide)

theorem Hushed.unmute (h : m.Hushed muted) (hpads : ∀ slot ∈ m.addressed slotId, slot.pad ∈ pads)
    : (m.writeMute slotId false).Hushed (muted.filter (· ∉ pads)) := by
  have hheld : ∀ id, (m.writeMute slotId false).Held (muted.filter (· ∉ pads)) id →
      m.Held muted id ∧ id ≠ slotId ∧
        ∀ vp, parseSyntheticSlotId slotId = some vp → id ≠ toString (slotPathVpKey vp.1 vp.2) := by
    intro id hid
    obtain ⟨slot, hslot, hpad, hid⟩ := held_writeMute.mp hid
    simp only [List.mem_filter, decide_eq_true_eq] at hpad
    have hother : slot ∉ m.addressed slotId := fun hslot => hpad.2 (hpads slot hslot)
    simp only [addressed, List.mem_filter, hslot, true_and, decide_eq_true_eq, not_or] at hother
    refine ⟨⟨slot, hslot, hpad.1, hid⟩, hid ▸ hother.1, ?_⟩
    intro vp hvp heq
    apply hother.2
    rw [hvp, hid, heq]
    simp
  constructor
  case store =>
    intro id hid
    obtain ⟨hbefore, hne, _⟩ := hheld id hid
    rw [micMuteStore_writeMute, MicMuteStore.isMuted_setMuted, if_neg hne.symm]
    exact h.store id hbefore
  case latch =>
    intro key t' c' ht' hclaim hid
    rw [controllers_writeMute, Option.map_eq_some_iff] at ht'
    obtain ⟨t, ht, rfl⟩ := ht'
    obtain ⟨hbefore, _, hne⟩ := hheld (toString key) hid
    have hunwritten : writes slotId key = false := by
      unfold writes
      rw [Bool.eq_false_iff]
      intro hany
      obtain ⟨vp, hvp, hkey⟩ := (Option.any_eq_true _ _).mp hany
      rw [decide_eq_true_eq] at hkey
      exact hne vp hvp (hkey ▸ rfl)
    rw [hunwritten] at hclaim
    exact h.latch key t c' ht hclaim hbefore
  case queue =>
    intro u hu hmuted hid
    rw [upcalls_writeMute] at hu
    exact h.queue u hu hmuted (hheld u.slotId hid).1

theorem controllers_onReport (m : AppModel) (key : Int) (t : Tracked) (c : Claim) (muteDown : Bool)
    (other : Int)
    : (m.onReport key t c muteDown).controllers[other]?
      = if key = other then some { t with claim := (mirrorMicMute t c muteDown).1 }
        else m.controllers[other]? := by
  simp only [onReport, TreeMap.getElem?_insert, Std.compare_eq_iff_eq]

theorem shownSlots_onReport (ht : m.controllers[key]? = some t) (c : Claim) (muteDown : Bool)
    : (m.onReport key t c muteDown).shownSlots = m.shownSlots := by
  apply shownSlots_congr
  next => rfl
  next =>
    intro other
    rw [controllers_onReport]
    split
    next heq =>
      rw [← heq, ht]
      rfl
    next => rfl

theorem Hushed.report (h : m.Hushed muted)
    (hclaims : m.ClaimsSound) {c : Claim} (ht : m.controllers[key]? = some t) (hclaim : t.claim = some c)
    (muteDown : Bool) (hsub : ∀ pad ∈ muted', pad ∈ muted)
    (hpressed : c.micMute.muted = true → (mirrorMicMute t c muteDown).1.micMute.muted = false →
      ∀ slot ∈ m.shownSlots, slot.id = toString key → slot.pad ∉ muted')
    : (m.onReport key t c muteDown).Hushed muted' := by
  have hsound := hclaims key t ht
  have hheld : ∀ id, (m.onReport key t c muteDown).Held muted' id →
      m.Held muted id ∧ m.Held muted' id := by
    intro id hid
    unfold Held at hid
    rw [shownSlots_onReport ht] at hid
    obtain ⟨slot, hslot, hpad, hid⟩ := hid
    exact ⟨⟨slot, hslot, hsub _ hpad, hid⟩, ⟨slot, hslot, hpad, hid⟩⟩
  -- With the latch open, a pad that is still muted was never told to be.
  have hopen : (mirrorMicMute t c muteDown).1.micMute.muted = false →
      m.Held muted (toString key) → m.Held muted' (toString key) → c.lastMicMuted = false := by
    intro hafter hbefore hstill
    by_cases hlatched : c.micMute.muted = true
    next =>
      obtain ⟨slot, hslot, hpad, hid⟩ := hstill
      exact absurd hpad (hpressed hlatched hafter slot hslot hid)
    next => exact (h.latch key t c ht hclaim hbefore).resolve_left hlatched
  constructor
  case store => exact fun id hid => h.store id (hheld id hid).1
  case latch =>
    intro other t' c' ht' hclaim' hid
    rw [controllers_onReport] at ht'
    split at ht'
    next heq =>
      subst heq
      cases ht'
      cases hclaim'
      obtain ⟨hbefore, hstill⟩ := hheld (toString key) hid
      cases hafter : (mirrorMicMute t c muteDown).1.micMute.muted with
      | true => exact .inl rfl
      | false =>
        right
        have hlast := hopen hafter hbefore hstill
        unfold mirrorMicMute at hafter ⊢
        grind
    next => exact h.latch other t' c' ht' hclaim' (hheld (toString other) hid).1
  case queue =>
    intro u hu hmuted hid
    obtain ⟨hbefore, hstill⟩ := hheld u.slotId hid
    obtain hold | hnew := List.mem_append.mp hu
    next => exact h.queue u hold hmuted hbefore
    next =>
      have hslotId : u.slotId = toString key := by
        rw [hsound.key_eq]
        unfold mirrorMicMute at hnew
        grind [Upcall.slotId]
      rw [hslotId] at hbefore hstill
      unfold mirrorMicMute at hnew hopen
      grind

theorem Hushed.rearrange (h : m.Hushed muted) (hshown : ∀ id, m'.Held muted id → m.Held muted id)
    (hupcalls : ∀ u ∈ m'.upcalls, u ∈ m.upcalls) (hstore : m'.micMuteStore = m.micMuteStore)
    (hfresh : ∀ (key : Int) (t' : Tracked) (c : Claim), m'.controllers[key]? = some t' →
      t'.claim = some c → c = {} ∨ ∃ t, m.controllers[key]? = some t ∧ t.claim = some c)
    : m'.Hushed muted := by
  constructor
  case store => exact fun id hid => hstore ▸ h.store id (hshown id hid)
  case latch =>
    intro key t' c ht' hclaim hid
    obtain hnew | ⟨t, ht, hsame⟩ := hfresh key t' c ht' hclaim
    next =>
      rw [hnew]
      exact .inr rfl
    next => exact h.latch key t c ht hsame (hshown _ hid)
  case queue => exact fun u hu hmuted hid => h.queue u (hupcalls u hu) hmuted (hshown _ hid)

theorem Hushed.anti (h : m.Hushed muted) (hsub : ∀ pad ∈ muted', pad ∈ muted)
    : m.Hushed muted' := by
  have hheld : ∀ id, m.Held muted' id → m.Held muted id := by
    intro id hid
    obtain ⟨slot, hslot, hpad, hid⟩ := hid
    exact ⟨slot, hslot, hsub _ hpad, hid⟩
  exact ⟨fun id hid => h.store id (hheld id hid),
    fun key t c ht hclaim hid => h.latch key t c ht hclaim (hheld _ hid),
    fun u hu hmuted hid => h.queue u hu hmuted (hheld _ hid)⟩

theorem Quiet.anti (h : m.Quiet muted) (hsub : ∀ pad ∈ muted', pad ∈ muted)
    : m.Quiet muted' := by
  exact fun slot hslot hpad => h slot hslot (hsub _ hpad)

theorem Hushed.applyEvent (h : m.Hushed muted) (ht : t.Sound key) (hclaim : t.claim.isSome → m.controllers[key]? = some t)
    {event : UsbEvent} (hexpects : expects t event)
    (hshown : ∀ id, (m.applyEvent key t event).Held muted id → m.Held muted id)
    : (m.applyEvent key t event).Hushed muted := by
  apply h.rearrange hshown (fun u hu => hu) rfl
  intro key' t' c hkey hc
  obtain hfresh | ⟨rfl, hsame⟩ | hsame := claim_of_applyEvent ht hexpects hkey hc
  next => exact .inl hfresh
  next => exact .inr ⟨t, hclaim (by rw [hsame]; rfl), hsame⟩
  next => exact .inr ⟨t', hsame, hc⟩

theorem Hushed.ensureTracked (h : m.Hushed muted)
    {vendorId productId : UInt16} {name : String} {choice : PathChoice} {pad : Nat}
    (hshown : ∀ id, (m.ensureTracked vendorId productId name choice pad).Held muted id →
      m.Held muted id)
    : (m.ensureTracked vendorId productId name choice pad).Hushed muted := by
  unfold AppModel.ensureTracked at hshown ⊢
  dsimp only at hshown ⊢
  split
  next t ht =>
    simp only [ht] at hshown
    split
    next => exact h
    next hfree =>
      have hnone : t.claim = none := by simpa using hfree
      rw [if_neg hfree] at hshown
      apply h.rearrange hshown (fun u hu => hu) rfl
      intro key t' c hkey hc
      simp only [TreeMap.getElem?_insert, Std.compare_eq_iff_eq] at hkey
      split at hkey
      next =>
        cases hkey
        exact absurd (hnone.symm.trans hc) (by simp)
      next => exact .inr ⟨t', hkey, hc⟩
  next hnew =>
    simp only [hnew] at hshown
    apply h.applyEvent _ _ rfl hshown
    next => exact ⟨rfl, (fun hsome => nomatch hsome), (fun _ c hc => nomatch hc)⟩
    next => exact fun hsome => nomatch hsome

theorem quiet_ensureTracked (h : m.Quiet muted)
    (vendorId productId : UInt16) (name : String) (choice : PathChoice) (pad : Nat)
    : (m.ensureTracked vendorId productId name choice pad).Quiet muted := by
  unfold AppModel.ensureTracked
  dsimp only
  split
  next => split <;> exact h
  next => exact h

theorem Hushed.executeStep (h : m.Hushed muted)
    (hquiet : m.Quiet muted) (step : PresenceStep) (refused : List String)
    : (m.executeStep step refused).Hushed muted ∧ (m.executeStep step refused).Quiet muted := by
  cases step with
  | unbind slotId =>
    unfold AppModel.executeStep unbind
    dsimp only
    split
    next => apply h.pass refused <;> rfl
    next => exact ⟨h, hquiet⟩
  | migrate slotId toSlotId connectionId =>
    unfold AppModel.executeStep
    dsimp only
    apply h.pass refused <;> rfl

theorem Hushed.execute (h : m.Hushed muted) (hquiet : m.Quiet muted) {op : Op}
    (hop : ∀ slotId on pressed, op ≠ .setSlotMicMuted slotId on pressed) (refused : List String)
    : (m.execute op refused).Hushed muted ∧ (m.execute op refused).Quiet muted := by
  cases op with
  | rebuildPass => exact h.rebuildPass refused
  | applyBindingPresence =>
    exact ⟨h.congr rfl rfl rfl rfl, hquiet.mono rfl rfl (fun _ => id)⟩
  | setSlotMicMuted slotId on pressed => exact absurd rfl (hop slotId on pressed)
  | setPadAudioRoutes routes =>
    unfold AppModel.execute setPadAudioRoutes
    dsimp only
    split
    next => exact ⟨h, hquiet⟩
    next => exact ⟨h.congr rfl rfl rfl rfl, hquiet.mono rfl rfl (fun _ => id)⟩
  | republishSlotCaps slotId =>
    unfold AppModel.execute republishSlotCaps
    dsimp only
    split
    next => exact ⟨h, hquiet⟩
    next => apply h.pass refused <;> rfl
  | reconcileAudioEngines =>
    exact ⟨h.congr rfl rfl rfl rfl, hquiet.reconcileAudioEngines refused⟩

def sendsMicFor (m : AppModel) (pad : Nat) : Bool :=
  m.slotList.any fun slot => slot.pad = pad && m.sendsMic slot.id

theorem Quiet.sendsMicFor (h : m.Quiet muted) {pad : Nat} (hpad : pad ∈ muted)
    : m.sendsMicFor pad = false := by
  unfold AppModel.sendsMicFor sendsMic
  rw [List.any_eq_false]
  intro slot hslot
  by_cases heq : slot.pad = pad
  next =>
    obtain ⟨_, hsilent⟩ := h slot hslot (heq ▸ hpad)
    simp [hsilent]
  next => simp [heq]

end AppModel

structure MuteCall where
  slotId : String
  muted : Bool
  pads : List Nat
  deriving DecidableEq

structure Watched where
  model : AppModel := {}
  muted : List Nat := []

inductive Watched.Event where
  | app (e : Slots.Event)
  /-- The pad is pulled out, whenever the app comes to notice. -/
  | unplugged (pad : Nat)

namespace AppModel

def muteCall (m : AppModel) (e : Event) : Option MuteCall :=
  match e, m.presence, m.todo with
  | .run _, [], .setSlotMicMuted slotId muted pressed :: _ =>
    if slotId = "" then
      none
    else
      some { slotId, muted, pads := (m.addressed slotId).map (·.pad) ++ pressed.toList }
  | _, _, _ => none

def letGo (m : AppModel) (e : Event) : List Nat :=
  match e with
  | .report key muteDown =>
    let pressed := m.controllers[key]?.bind fun t => t.claim.map fun c =>
      if c.micMute.muted && !(mirrorMicMute t c muteDown).1.micMute.muted then
        t.pad :: (m.addressed (toString key)).map (·.pad)
      else
        []
    pressed.getD []
  | _ => []

end AppModel

namespace Watched

def mutedAfter (w : Watched) (e : Slots.Event) : List Nat :=
  match w.model.muteCall e with
  | some call =>
    if call.muted then w.muted ++ call.pads else w.muted.filter (· ∉ call.pads)
  | none => w.muted.filter (· ∉ w.model.letGo e)

def step (w : Watched) : Watched.Event → Option Watched
  | .app e => (w.model.step e).map fun m => { model := m, muted := w.mutedAfter e }
  | .unplugged pad => some { w with muted := w.muted.filter (· ≠ pad) }

/--
A step that leaves every muted pad under the slot ids it has.
-/
def StaysPut (w : Watched) : Watched.Event → Prop
  | .app e =>
    (∀ m' ∈ w.model.step e, ∀ slot ∈ m'.shownSlots, slot.pad ∈ w.muted →
      ∃ s ∈ w.model.shownSlots, s.pad = slot.pad ∧ s.id = slot.id) ∧
    (∀ call ∈ w.model.muteCall e, call.muted = true →
      (∀ slot ∈ w.model.shownSlots, slot.pad ∈ call.pads → slot.id = call.slotId) ∧
      ∀ u ∈ w.model.upcalls, u.slotId = call.slotId → u.muted = true)
  | .unplugged _ => True

end Watched

namespace AppModel

theorem Hushed.runNext {m m' : AppModel} {muted : List Nat} (h : m.Hushed muted)
    (hquiet : m.Quiet muted) {refused : List String} (hrun : m.runNext refused = some m')
    (hcall : m.muteCall (.run refused) = none)
    : m'.Hushed muted ∧ m'.Quiet muted := by
  unfold AppModel.runNext at hrun
  split at hrun
  next step rest hpresence =>
    cases hrun
    have hrest : ({ m with presence := rest } : AppModel).Hushed muted := h.congr rfl rfl rfl rfl
    exact hrest.executeStep hquiet step refused
  next op rest hpresence htodo =>
    cases hrun
    have hrest : ({ m with todo := rest } : AppModel).Hushed muted := h.congr rfl rfl rfl rfl
    by_cases hop : ∃ slotId on pressed, op = .setSlotMicMuted slotId on pressed
    next =>
      -- Without a slot the call does nothing.
      obtain ⟨slotId, on, pressed, rfl⟩ := hop
      have hempty : slotId = "" := by simpa [muteCall, hpresence, htodo] using hcall
      rw [hempty]
      exact ⟨hrest, hquiet⟩
    next =>
      push Not at hop
      exact hrest.execute hquiet hop refused
  next => cases hrun

theorem Hushed.step {m m' : AppModel} {muted : List Nat} (h : m.Hushed muted)
    (hclaims : m.ClaimsSound) (hquiet : m.Quiet muted) {e : Event} (hstep : m.step e = some m')
    (hcall : m.muteCall e = none) (hreport : ∀ key muteDown, e ≠ .report key muteDown)
    (hshown : ∀ id, m'.Held muted id → m.Held muted id)
    : m'.Hushed muted ∧ m'.Quiet muted := by
  unfold AppModel.step at hstep
  cases e with
  | plug vendorId productId bluetooth pad | unplug iid =>
    cases hstep
    refine ⟨?_, hquiet⟩
    apply h.rearrange hshown (fun u hu => hu) rfl
    exact fun key t c ht hc => .inr ⟨t, ht, hc⟩
  | report key muteDown => exact absurd rfl (hreport key muteDown)
  | run refused => exact h.runNext hquiet hstep hcall
  | ensureTracked vendorId productId name choice pad =>
    rw [of_call hstep] at hshown ⊢
    exact ⟨h.ensureTracked hshown, quiet_ensureTracked hquiet vendorId productId name choice pad⟩
  | usb key event =>
    obtain ⟨t, htracked, hcalled⟩ := Option.bind_eq_some_iff.mp hstep
    obtain ⟨ht, hexpects⟩ := Option.filter_eq_some_iff.mp htracked
    rw [of_call hcalled] at hshown ⊢
    exact ⟨h.applyEvent (hclaims key t ht) (fun _ => ht) hexpects hshown, hquiet⟩
  | session id session | resolveAudioRoutes routes | rebuild =>
    rw [of_call hstep]
    exact ⟨h.congr rfl rfl rfl rfl, hquiet⟩
  | audioDevicesChanged names routes =>
    rw [of_call hstep]
    refine ⟨h.congr rfl rfl rfl rfl, hquiet.mono rfl rfl ?_⟩
    exact fun _ => MicCaptureEngine.capturingFor_of_closeOnDevicesAbsent
  | bindSlot slotId connectionId refused =>
    rw [of_call hstep]
    have hpass : ((m.bind slotId connectionId).rebuildPass refused).Hushed muted ∧
        ((m.bind slotId connectionId).rebuildPass refused).Quiet muted := by
      apply h.pass refused <;> rfl
    exact ⟨hpass.1.congr rfl rfl rfl rfl, hpass.2⟩
  | unbindSlot slotId refused =>
    rw [of_call hstep]
    have hpass := h.executeStep hquiet (.unbind slotId) refused
    exact ⟨hpass.1.congr rfl rfl rfl rfl, hpass.2⟩
  | beginApplyBind slotId connectionId on refused =>
    rw [of_call hstep]
    unfold beginApplyBind bindSlot
    generalize hwritten : AppModel.bind _ slotId connectionId = written
    have hpass : (written.rebuildPass refused).Hushed muted ∧
        (written.rebuildPass refused).Quiet muted := by
      rw [← hwritten]
      apply h.pass refused <;> rfl
    exact ⟨hpass.1.congr rfl rfl rfl rfl, hpass.2⟩
  | toggleSlotMicMute slotId =>
    rw [of_call hstep]
    unfold toggleSlotMicMute
    split
    next => exact ⟨h, hquiet⟩
    next => exact ⟨h.congr rfl rfl rfl rfl, hquiet⟩
  | toggleAllMics =>
    rw [of_call hstep]
    unfold toggleAllMics
    split
    next => exact ⟨h, hquiet⟩
    next => exact ⟨h.congr rfl rfl rfl rfl, hquiet⟩
  | padMicMuteChanged =>
    dsimp only at hstep
    split at hstep
    next => cases hstep
    next u rest hupcalls =>
      rw [of_call hstep] at hshown ⊢
      refine ⟨?_, hquiet⟩
      apply h.rearrange hshown _ rfl
      next => exact fun key t c ht hc => .inr ⟨t, ht, hc⟩
      next =>
        intro v hv
        rw [hupcalls]
        exact List.mem_cons_of_mem u hv

theorem Hushed.muteCall {m m' : AppModel} {muted : List Nat} (h : m.Hushed muted)
    (hclaims : m.ClaimsSound) {e : Event}
    (hstep : m.step e = some m') {call : MuteCall} (hcall : m.muteCall e = some call)
    (hmute : call.muted = true →
      (∀ slot ∈ m.shownSlots, slot.pad ∈ call.pads → slot.id = call.slotId) ∧
      ∀ u ∈ m.upcalls, u.slotId = call.slotId → u.muted = true)
    {muted' : List Nat}
    (hafter : muted' = if call.muted then muted ++ call.pads else muted.filter (· ∉ call.pads))
    : m'.Hushed muted' ∧ m'.Quiet muted' := by
  unfold AppModel.muteCall at hcall
  split at hcall
  next refused slotId on pressed rest hpresence htodo =>
    split at hcall
    next => cases hcall
    next hslot =>
      cases hcall
      have hm' : m' = (({ m with todo := rest } : AppModel).writeMute slotId on).rebuildPass
          refused := by
        rw [← setSlotMicMuted_eq _ hslot]
        simpa [AppModel.step, AppModel.runNext, AppModel.execute, hpresence, htodo]
          using hstep.symm
      have hrest : ({ m with todo := rest } : AppModel).Hushed muted := h.congr rfl rfl rfl rfl
      rw [hm', hafter]
      cases on with
      | true =>
        obtain ⟨hpads, hqueue⟩ := hmute rfl
        exact (hrest.mute hclaims hpads hqueue).rebuildPass refused
      | false =>
        apply (hrest.unmute _).rebuildPass refused
        intro slot hslot
        exact List.mem_append_left _ (List.mem_map_of_mem hslot)
  next => cases hcall

end AppModel

namespace Watched

def Silent (w : Watched) : Prop :=
  w.model.ClaimsSound ∧ w.model.Hushed w.muted ∧ w.model.Quiet w.muted

theorem silent_of_step {w w' : Watched} {e : Watched.Event} (h : w.Silent) (hput : w.StaysPut e)
    (hstep : w.step e = some w')
    : w'.Silent := by
  obtain ⟨hclaims, hhushed, hquiet⟩ := h
  cases e with
  | unplugged pad =>
    cases hstep
    have hsub : ∀ p ∈ w.muted.filter (· ≠ pad), p ∈ w.muted := fun p hp => List.mem_of_mem_filter hp
    exact ⟨hclaims, hhushed.anti hsub, hquiet.anti hsub⟩
  | app e =>
    obtain ⟨m', hm', rfl⟩ := Option.map_eq_some_iff.mp hstep
    obtain ⟨hshown, hmute⟩ := hput
    refine ⟨hclaims.step hm', ?_⟩
    have hheld : ∀ id, m'.Held w.muted id → w.model.Held w.muted id := by
      intro id hid
      obtain ⟨slot, hslot, hpad, hid⟩ := hid
      obtain ⟨s, hs, hsame, hsid⟩ := hshown m' hm' slot hslot hpad
      exact ⟨s, hs, hsame ▸ hpad, hsid.trans hid⟩
    cases hcall : w.model.muteCall e with
    | some call =>
      apply hhushed.muteCall hclaims hm' hcall (hmute call hcall)
      unfold mutedAfter
      rw [hcall]
    | none =>
      have hafter : w.mutedAfter e = w.muted.filter (· ∉ w.model.letGo e) := by
        unfold mutedAfter
        rw [hcall]
      have hsub : ∀ pad ∈ w.mutedAfter e, pad ∈ w.muted := by
        rw [hafter]
        exact fun pad hpad => List.mem_of_mem_filter hpad
      by_cases hreport : ∃ key muteDown, e = .report key muteDown
      next =>
        obtain ⟨key, muteDown, rfl⟩ := hreport
        obtain ⟨t, ht, hclaimed⟩ := Option.bind_eq_some_iff.mp hm'
        obtain ⟨c, hclaim, rfl⟩ := Option.map_eq_some_iff.mp hclaimed
        refine ⟨hhushed.report hclaims ht hclaim muteDown hsub ?_, hquiet.anti hsub⟩
        intro hlatched hopened slot hslot hid hpad
        rw [hafter] at hpad
        simp only [List.mem_filter, decide_eq_true_eq] at hpad
        apply hpad.2
        have hslot : slot ∈ w.model.addressed (toString key) := by
          simp [AppModel.addressed, hslot, hid]
        simp only [AppModel.letGo, ht, hclaim, hlatched, hopened, Option.bind_some, Option.map_some]
        exact List.mem_cons_of_mem _ (List.mem_map_of_mem hslot)
      next =>
        push Not at hreport
        obtain ⟨hhushed', hquiet'⟩ := hhushed.step hclaims hquiet hm' hcall hreport hheld
        exact ⟨hhushed'.anti hsub, hquiet'.anti hsub⟩

theorem silent_init : Silent {} := by
  refine ⟨?_, ⟨?_, ?_, ?_⟩, ?_⟩
  next => exact fun key t ht => by simp at ht
  next =>
    intro id hid
    obtain ⟨slot, _, hpad, _⟩ := hid
    exact nomatch hpad
  next => exact fun key t c ht => by simp at ht
  next => exact fun u hu => nomatch hu
  next => exact fun slot hslot => nomatch hslot

theorem muted_pad_silent {events : List Watched.Event} {w : Watched}
    (hrun : run step {} events = some w)
    (hput : Along step StaysPut {} events)
    : ∀ pad ∈ w.muted, w.model.sendsMicFor pad = false := by
  have hsilent : w.Silent :=
    invariant_of_along (fun _ _ _ h hP hs => silent_of_step h hP hs) silent_init hput
      hrun
  exact fun pad hpad => hsilent.2.2.sendsMicFor hpad

def talkOnStandard : List Watched.Event :=
  let endpoint : PadAudioRoute :=
    { microphone := true, captureDeviceName := "Headset Microphone (Wireless Controller)" }
  let routes : TreeMap Int PadAudioRoute := TreeMap.empty.insert (slotPathVpKey 0x054C 0x0CE6) endpoint
  let live : Session := { state := .Live, hostMicAvailable := true, sendTarget := some 0 }
  let on : Switches := { motion := true, rumble := true, mic := true, speaker := true }
  [.app (.plug 0x054C 0x0CE6 false 7),
    .app (.ensureTracked 0x054C 0x0CE6 "Wireless Controller" .Standard 7), .app (.run []),
    .app (.run []), .app (.session "pc" (some live)), .app (.run []), .app (.run []),
    .app (.resolveAudioRoutes routes), .app (.run []), .app (.run []), .app (.run []),
    .app (.beginApplyBind "sdl:0" "pc" on []), .app (.run [])]

def muteOnStandard : List Watched.Event :=
  [.app (.toggleSlotMicMute "sdl:0"), .app (.run []), .app (.run [])]

def muteThroughFaltering : List Watched.Event :=
  let faltering : Session := { state := .Faltering, hostMicAvailable := true, sendTarget := some 0 }
  let live : Session := { state := .Live, hostMicAvailable := true, sendTarget := some 0 }
  talkOnStandard ++ muteOnStandard ++
    [.app (.session "pc" (some faltering)), .app (.run []), .app (.run []),
      .app (.session "pc" (some live)), .app (.run []), .app (.run [])]

def muteThenClaim : List Watched.Event :=
  let key := slotPathVpKey 0x054C 0x0CE6
  talkOnStandard ++ muteOnStandard ++
    [.app (.usb key (.Choose .Direct true)), .app (.run []), .app (.run []),
      .app (.usb key (.ClaimSucceeded 1)), .app (.run []), .app (.run []), .app (.run []),
      .app (.run [])]

instance (w : Watched) : (e : Watched.Event) → Decidable (w.StaysPut e)
  | .app _ => inferInstanceAs (Decidable (_ ∧ _))
  | .unplugged _ => inferInstanceAs (Decidable True)

theorem muted_pad_silent_faltering
    : ∃ w, run step {} muteThroughFaltering = some w ∧ 7 ∈ w.muted ∧
      w.model.sendsMicFor 7 = false := by
  have hmuted : (run step {} muteThroughFaltering).any (fun w => 7 ∈ w.muted) = true := by
    decide +kernel
  obtain ⟨w, hrun, hpad⟩ := exists_run_of_any hmuted
  have hput : Along step StaysPut {} muteThroughFaltering := by decide +kernel
  exact ⟨w, hrun, by simpa using hpad, muted_pad_silent hrun hput 7 (by simpa using hpad)⟩

theorem claimed_pad_talks_muted
    : ∃ w, run step {} muteThenClaim = some w ∧ 7 ∈ w.muted ∧ w.model.sendsMicFor 7 = true := by
  have htalks : (run step {} muteThenClaim).any
      (fun w => 7 ∈ w.muted && w.model.sendsMicFor 7) = true := by
    decide +kernel
  obtain ⟨w, hrun, hpad⟩ := exists_run_of_any htalks
  rw [Bool.and_eq_true, decide_eq_true_eq] at hpad
  exact ⟨w, hrun, hpad.1, hpad.2⟩

end Watched

end Slots
