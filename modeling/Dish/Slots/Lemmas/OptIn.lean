import Dish.Slots.Lemmas.Names

/-!
This module contains the opt-in of the microphone.
-/

open Std Reducer Audio Connection Transition

namespace Slots

namespace AppModel

variable {connectionId slotId toSlotId : String}

def micEnabled (m : AppModel) (slotId : String) : Bool :=
  m.switches.mic.isEnabled kMicDefaultEnabled slotId

def Chosen (m : AppModel) (on : List (UInt16 × UInt16)) (slotId : String) : Prop :=
  ∀ model, names m.pads slotId model → model ∈ on

structure OptedIn (m : AppModel) (on : List (UInt16 × UInt16)) : Prop where
  named : ∀ slotId ∈ m.bindings, ∃ model, names m.pads slotId model
  choice : ∀ slotId ∈ m.bindings, m.micEnabled slotId → m.Chosen on slotId
  target : ∀ slotId toSlotId connectionId, .migrate slotId toSlotId connectionId ∈ m.presence →
    (∃ model, names m.pads toSlotId model) ∧ (m.micEnabled slotId → m.Chosen on toSlotId)
  apart : ∀ slotId toSlotId connectionId other toOther connectionId',
    .migrate slotId toSlotId connectionId ∈ m.presence →
    .migrate other toOther connectionId' ∈ m.presence → slotId ≠ toOther

structure OnScreen (m : AppModel) : Prop where
  slots : ∀ slot ∈ m.slotList, names m.pads slot.id (slot.vendorId, slot.productId)
  present : ∀ s ∈ m.presentPads, names m.pads s.id (s.vendorId, s.productId)
  bound : ∀ slot ∈ m.slotList, slot.boundConnectionId.isSome → slot.id ∈ m.bindings
  captured : ∀ slotId, m.micEngine.capturingFor slotId → m.Armed slotId

section Frame

variable {m m' : AppModel} {on : List (UInt16 × UInt16)}

theorem OptedIn.congr (h : m.OptedIn on) (hpads : m'.pads = m.pads)
    (hbindings : m'.bindings = m.bindings) (hswitches : m'.switches = m.switches)
    (hpresence : ∀ step ∈ m'.presence, step ∈ m.presence)
    : m'.OptedIn on := by
  have hchosen : ∀ slotId, m.Chosen on slotId → m'.Chosen on slotId := by
    intro slotId
    unfold Chosen
    rw [hpads]
    exact id
  have henabled : ∀ slotId, m'.micEnabled slotId = m.micEnabled slotId := by
    intro slotId
    unfold micEnabled
    rw [hswitches]
  constructor
  case named =>
    rw [hbindings, hpads]
    exact h.named
  case choice =>
    intro slotId hbound hon
    rw [hbindings] at hbound
    rw [henabled] at hon
    exact hchosen slotId (h.choice slotId hbound hon)
  case target =>
    intro slotId toSlotId connectionId hmem
    obtain ⟨hnamed, hcarried⟩ := h.target _ _ _ (hpresence _ hmem)
    rw [hpads, henabled]
    exact ⟨hnamed, fun hon => hchosen toSlotId (hcarried hon)⟩
  case apart =>
    exact fun _ _ _ _ _ _ hmem hmem' => h.apart _ _ _ _ _ _ (hpresence _ hmem) (hpresence _ hmem')

theorem OnScreen.congr (h : m.OnScreen) (hpads : m'.pads = m.pads)
    (hbindings : m'.bindings = m.bindings) (hswitches : m'.switches = m.switches)
    (hslots : m'.slotList = m.slotList) (hpresent : m'.presentPads = m.presentPads)
    (hstore : m'.micMuteStore = m.micMuteStore)
    (hengine : ∀ slotId, m'.micEngine.capturingFor slotId → m.micEngine.capturingFor slotId)
    : m'.OnScreen := by
  constructor
  case slots =>
    rw [hslots, hpads]
    exact h.slots
  case present =>
    rw [hpresent, hpads]
    exact h.present
  case bound =>
    rw [hslots, hbindings]
    exact h.bound
  case captured =>
    intro slotId hcapturing
    have harmed := h.captured slotId (hengine slotId hcapturing)
    exact ⟨hslots ▸ harmed.bound, hswitches ▸ harmed.enabled, hstore ▸ harmed.unmuted⟩

theorem OptedIn.still (h : m.OptedIn on) (hscreen : m.OnScreen) (hpads : m'.pads = m.pads)
    (hbindings : m'.bindings = m.bindings) (hswitches : m'.switches = m.switches)
    (hpresence : m'.presence = m.presence) (hslots : m'.slotList = m.slotList)
    (hpresent : m'.presentPads = m.presentPads) (hstore : m'.micMuteStore = m.micMuteStore)
    (hengine : m'.micEngine = m.micEngine)
    : m'.OptedIn on ∧ m'.OnScreen := by
  constructor
  next =>
    apply h.congr hpads hbindings hswitches
    rw [hpresence]
    exact fun _ => id
  next =>
    apply hscreen.congr hpads hbindings hswitches hslots hpresent hstore
    rw [hengine]
    exact fun _ => id

end Frame

variable {m : AppModel} {on : List (UInt16 × UInt16)}

theorem onScreen_rebuildPass (hclaims : m.ClaimsSound) (refused : List String)
    : (m.rebuildPass refused).OnScreen := by
  constructor
  case slots =>
    intro slot hslot
    rw [slotList_rebuildPass, mem_crossReferenceBindings] at hslot
    obtain ⟨shown, hshown, rfl⟩ := hslot
    have hnames := names_of_mem_shownSlots hclaims hshown
    exact hnames
  case present =>
    intro s hs
    rw [presentPads_rebuildPass] at hs
    obtain ⟨shown, hshown, rfl⟩ := List.mem_map.mp hs
    exact names_of_mem_shownSlots hclaims hshown
  case bound =>
    intro slot hslot hbound
    rw [slotList_rebuildPass, mem_crossReferenceBindings] at hslot
    obtain ⟨shown, hshown, rfl⟩ := hslot
    obtain ⟨connectionId, hconnection⟩ := Option.isSome_iff_exists.mp hbound
    obtain ⟨hmem, _⟩ := Option.filter_eq_some_iff.mp hconnection
    rw [bindings_rebuildPass, TreeMap.mem_iff_isSome_getElem?]
    exact Option.isSome_of_eq_some hmem
  case captured => exact fun slotId => armed_of_rebuildPass

theorem OptedIn.pass (h : m.OptedIn on) (hclaims : m.ClaimsSound) (refused : List String)
    : (m.rebuildPass refused).OptedIn on ∧ (m.rebuildPass refused).OnScreen := by
  exact ⟨h.congr rfl rfl rfl (fun _ => id), onScreen_rebuildPass hclaims refused⟩

theorem OnScreen.reconcileAudioEngines (h : m.OnScreen) (refused : List String)
    : (m.reconcileAudioEngines refused).OnScreen := by
  exact ⟨h.slots, h.present, h.bound, fun slotId => armed_of_reconcileAudioEngines⟩

theorem mem_bindings_bind (h : slotId ∈ (m.bind toSlotId connectionId).bindings)
    : slotId = toSlotId ∨ slotId ∈ m.bindings := by
  unfold bind at h
  dsimp only at h
  rw [TreeMap.mem_insert, Std.compare_eq_iff_eq] at h
  obtain heq | hmem := h
  next => exact .inl heq.symm
  next =>
    right
    split at hmem
    next => exact TreeMap.mem_of_mem_erase hmem
    next => exact hmem

theorem OptedIn.bind (h : m.OptedIn on) (hnamed : ∃ model, names m.pads slotId model)
    (hchosen : m.micEnabled slotId → m.Chosen on slotId) (connectionId : String)
    : (m.bind slotId connectionId).OptedIn on := by
  constructor
  case named =>
    intro other hbound
    obtain rfl | hbefore := mem_bindings_bind hbound
    next => exact hnamed
    next => exact h.named other hbefore
  case choice =>
    intro other hbound
    obtain rfl | hbefore := mem_bindings_bind hbound
    next => exact hchosen
    next => exact h.choice other hbefore
  case target => exact h.target
  case apart => exact h.apart

theorem OptedIn.erase (h : m.OptedIn on) (slotId : String)
    : ({ m with bindings := m.bindings.erase slotId } : AppModel).OptedIn on := by
  constructor
  case named => exact fun other hbound => h.named other (TreeMap.mem_of_mem_erase hbound)
  case choice => exact fun other hbound => h.choice other (TreeMap.mem_of_mem_erase hbound)
  case target => exact h.target
  case apart => exact h.apart

theorem OptedIn.migrate (h : m.OptedIn on) {m' : AppModel} {rest : List PresenceStep}
    (hpresence : m.presence = .migrate slotId toSlotId connectionId :: rest)
    (hpads : m'.pads = m.pads) (hbindings : m'.bindings = m.bindings)
    (hswitches : m'.switches = carrySlotSwitches m.switches slotId toSlotId)
    (hpresence' : m'.presence = rest)
    : (m'.bind toSlotId connectionId).OptedIn on := by
  have hhead : .migrate slotId toSlotId connectionId ∈ m.presence := by
    rw [hpresence]
    exact List.mem_cons_self
  have hrest : ∀ step ∈ m'.presence, step ∈ m.presence := by
    rw [hpresence, hpresence']
    exact fun step hstep => List.mem_cons_of_mem _ hstep
  have henabled : ∀ other, m'.micEnabled other
      = if toSlotId = other then m.micEnabled slotId else m.micEnabled other := by
    intro other
    unfold micEnabled
    rw [hswitches]
    exact EnabledStore.isEnabled_carrySwitch _ _ _ _ _
  have hchosen : ∀ other, m.Chosen on other → m'.Chosen on other := by
    intro other
    unfold Chosen
    rw [hpads]
    exact id
  obtain ⟨hnamed, hcarried⟩ := h.target _ _ _ hhead
  have hcarry : m'.OptedIn on := by
    constructor
    case named =>
      rw [hbindings, hpads]
      exact h.named
    case choice =>
      intro other hbound hon
      rw [hbindings] at hbound
      rw [henabled] at hon
      split at hon
      next heq => exact heq ▸ hchosen toSlotId (hcarried hon)
      next => exact hchosen other (h.choice other hbound hon)
    case target =>
      intro other toOther connectionId' hmem
      obtain ⟨hnamed', hcarried'⟩ := h.target _ _ _ (hrest _ hmem)
      have hne : toSlotId ≠ other := (h.apart _ _ _ _ _ _ (hrest _ hmem) hhead).symm
      rw [henabled, if_neg hne, hpads]
      exact ⟨hnamed', fun hon => hchosen toOther (hcarried' hon)⟩
    case apart =>
      exact fun _ _ _ _ _ _ hmem hmem' => h.apart _ _ _ _ _ _ (hrest _ hmem) (hrest _ hmem')
  apply hcarry.bind
  next =>
    rw [hpads]
    exact hnamed
  next =>
    rw [henabled, if_pos rfl]
    exact fun hon => hchosen toSlotId (hcarried hon)

theorem of_mem_presenceSteps {a : BindingPresenceAction}
    (h : .migrate slotId toSlotId connectionId ∈ presenceSteps a)
    : a.kind = .Migrate ∧ a.slotId = slotId ∧ a.toSlotId = toSlotId := by
  unfold presenceSteps at h
  grind

theorem of_mem_applyBindingPresence
    (h : .migrate slotId toSlotId connectionId ∈ m.applyBindingPresence.presence)
    : slotId ∈ m.bindings ∧ (∀ s ∈ m.presentPads, s.id ≠ slotId) ∧
      ∃ twin ∈ m.presentPads, twin.id = toSlotId ∧
        m.boundPadIdentity slotId = some (twin.vendorId, twin.productId) := by
  unfold applyBindingPresence at h
  obtain ⟨a, ha, hmem⟩ := List.mem_flatMap.mp h
  obtain ⟨hkind, rfl, rfl⟩ := of_mem_presenceSteps hmem
  obtain ⟨b, hb, hid, habsent, hmigrate⟩ := of_mem_resolveBindingPresence ha
  obtain ⟨⟨bound, connId⟩, hbound, rfl⟩ := List.mem_map.mp hb
  rw [TreeMap.mem_toList_iff_getElem?_eq_some] at hbound
  obtain ⟨twin, htwin, htid, hidentity⟩ := hmigrate hkind
  dsimp only at hid hidentity
  rw [hid] at hidentity hbound
  refine ⟨?_, habsent, twin, htwin, htid, hidentity⟩
  rw [TreeMap.mem_iff_isSome_getElem?]
  exact Option.isSome_of_eq_some hbound

theorem OptedIn.applyBindingPresence (h : m.OptedIn on) (hscreen : m.OnScreen)
    : m.applyBindingPresence.OptedIn on := by
  constructor
  case named => exact h.named
  case choice => exact h.choice
  case target =>
    intro slotId toSlotId connectionId hmem
    obtain ⟨hbound, _, twin, htwin, rfl, hidentity⟩ := of_mem_applyBindingPresence hmem
    have hnamed := hscreen.present twin htwin
    refine ⟨⟨_, hnamed⟩, ?_⟩
    intro hon model hmodel
    obtain ⟨before, hbefore⟩ := h.named slotId hbound
    rw [names_unique hmodel hnamed]
    apply h.choice slotId hbound hon
    exact names_of_boundPadIdentity hscreen.present hbefore hidentity
  case apart =>
    intro _ _ _ _ _ _ hmem hmem' heq
    obtain ⟨_, habsent, _⟩ := of_mem_applyBindingPresence hmem
    obtain ⟨_, _, twin, htwin, hid, _⟩ := of_mem_applyBindingPresence hmem'
    exact habsent twin htwin (hid.trans heq.symm)

theorem names_of_claimPad {pads : List SdlPad} {before model : UInt16 × UInt16}
    {p : SdlPad} (hbefore : names pads slotId before) (h : names (pads ++ [p]) slotId model)
    : names pads slotId model := by
  rw [names_unique h (names_append hbefore p)]
  exact hbefore

theorem OptedIn.claimPad (h : m.OptedIn on) (vendorId productId : UInt16) (bluetooth : Bool)
    (pad : Nat)
    : (m.claimPad vendorId productId bluetooth pad).OptedIn on := by
  have hchosen : ∀ slotId, (∃ model, names m.pads slotId model) → m.Chosen on slotId →
      (m.claimPad vendorId productId bluetooth pad).Chosen on slotId := by
    intro slotId hnamed hchosen model hmodel
    obtain ⟨before, hbefore⟩ := hnamed
    exact hchosen model (names_of_claimPad hbefore hmodel)
  have hnames : ∀ slotId, (∃ model, names m.pads slotId model) →
      ∃ model, names (m.claimPad vendorId productId bluetooth pad).pads slotId model := by
    rintro slotId ⟨model, hmodel⟩
    exact ⟨model, names_append hmodel _⟩
  constructor
  case named => exact fun slotId hbound => hnames slotId (h.named slotId hbound)
  case choice =>
    exact fun slotId hbound hon => hchosen slotId (h.named slotId hbound) (h.choice slotId hbound hon)
  case target =>
    intro slotId toSlotId connectionId hmem
    obtain ⟨hnamed, hcarried⟩ := h.target _ _ _ hmem
    exact ⟨hnames toSlotId hnamed, fun hon => hchosen toSlotId hnamed (hcarried hon)⟩
  case apart => exact h.apart

theorem OnScreen.claimPad (h : m.OnScreen) (vendorId productId : UInt16) (bluetooth : Bool)
    (pad : Nat)
    : (m.claimPad vendorId productId bluetooth pad).OnScreen := by
  constructor
  case slots => exact fun slot hslot => names_append (h.slots slot hslot) _
  case present => exact fun s hs => names_append (h.present s hs) _
  case bound => exact h.bound
  case captured =>
    intro slotId hcapturing
    have harmed := h.captured slotId hcapturing
    exact ⟨harmed.bound, harmed.enabled, harmed.unmuted⟩

theorem names_releasePad (m : AppModel) (iid : Nat) (slotId : String) (model : UInt16 × UInt16)
    : names (m.releasePad iid).pads slotId model = names m.pads slotId model := by
  exact names_modify

theorem OptedIn.releasePad (h : m.OptedIn on) (iid : Nat) : (m.releasePad iid).OptedIn on := by
  have hchosen : ∀ slotId, m.Chosen on slotId → (m.releasePad iid).Chosen on slotId := by
    intro slotId hchosen model hmodel
    rw [names_releasePad] at hmodel
    exact hchosen model hmodel
  constructor
  case named =>
    simp only [names_releasePad]
    exact h.named
  case choice => exact fun slotId hbound hon => hchosen slotId (h.choice slotId hbound hon)
  case target =>
    intro slotId toSlotId connectionId hmem
    obtain ⟨hnamed, hcarried⟩ := h.target _ _ _ hmem
    simp only [names_releasePad]
    exact ⟨hnamed, fun hon => hchosen toSlotId (hcarried hon)⟩
  case apart => exact h.apart

theorem OnScreen.releasePad (h : m.OnScreen) (iid : Nat) : (m.releasePad iid).OnScreen := by
  constructor
  case slots =>
    simp only [names_releasePad]
    exact h.slots
  case present =>
    simp only [names_releasePad]
    exact h.present
  case bound => exact h.bound
  case captured =>
    intro slotId hcapturing
    have harmed := h.captured slotId hcapturing
    exact ⟨harmed.bound, harmed.enabled, harmed.unmuted⟩

theorem OptedIn.writeMute (h : m.OptedIn on) (slotId : String) (muted : Bool)
    : (m.writeMute slotId muted).OptedIn on := by
  rw [writeMute_eq]
  exact h.congr rfl rfl rfl (fun _ => id)

theorem OptedIn.executeStep (h : m.OptedIn on) (hscreen : m.OnScreen) (hclaims : m.ClaimsSound)
    {step : PresenceStep} {rest : List PresenceStep} (hpresence : m.presence = step :: rest)
    (refused : List String)
    : (({ m with presence := rest } : AppModel).executeStep step refused).OptedIn on ∧
      (({ m with presence := rest } : AppModel).executeStep step refused).OnScreen := by
  cases step with
  | unbind slotId =>
    have hrest : ({ m with presence := rest } : AppModel).OptedIn on := by
      refine h.congr rfl rfl rfl ?_
      rw [hpresence]
      exact fun step hstep => List.mem_cons_of_mem _ hstep
    unfold AppModel.executeStep unbind
    dsimp only
    split
    next => exact (hrest.erase slotId).pass hclaims refused
    next => exact ⟨hrest, hscreen.congr rfl rfl rfl rfl rfl rfl (fun _ => id)⟩
  | migrate slotId toSlotId connectionId =>
    unfold AppModel.executeStep
    dsimp only
    apply OptedIn.pass
    next => apply h.migrate hpresence <;> rfl
    next => exact hclaims

theorem OptedIn.execute (h : m.OptedIn on) (hscreen : m.OnScreen) (hclaims : m.ClaimsSound)
    (op : Op) (refused : List String)
    : (m.execute op refused).OptedIn on ∧ (m.execute op refused).OnScreen := by
  cases op with
  | rebuildPass => exact h.pass hclaims refused
  | applyBindingPresence =>
    exact ⟨h.applyBindingPresence hscreen,
      hscreen.congr rfl rfl rfl rfl rfl rfl (fun _ => id)⟩
  | setSlotMicMuted slotId muted pressed =>
    by_cases hslot : slotId = ""
    next =>
      rw [hslot]
      exact ⟨h, hscreen⟩
    next =>
      unfold AppModel.execute
      dsimp only
      rw [setSlotMicMuted_eq m hslot]
      exact (h.writeMute slotId muted).pass (hclaims.writeMute slotId muted) refused
  | setPadAudioRoutes routes =>
    unfold AppModel.execute setPadAudioRoutes
    dsimp only
    split
    next => exact ⟨h, hscreen⟩
    next => apply h.still hscreen <;> rfl
  | republishSlotCaps slotId =>
    unfold AppModel.execute republishSlotCaps
    dsimp only
    split
    next => exact ⟨h, hscreen⟩
    next connectionId hconnection =>
      obtain ⟨hfound, _⟩ := Option.filter_eq_some_iff.mp hconnection
      have hbound : slotId ∈ m.bindings := by
        rw [TreeMap.mem_iff_isSome_getElem?]
        exact Option.isSome_of_eq_some hfound
      have hagain := h.bind (h.named slotId hbound) (h.choice slotId hbound) connectionId
      exact hagain.pass hclaims refused
  | reconcileAudioEngines =>
    exact ⟨h.congr rfl rfl rfl (fun _ => id), hscreen.reconcileAudioEngines refused⟩

theorem OptedIn.runNext {m' : AppModel} (h : m.OptedIn on) (hscreen : m.OnScreen)
    (hclaims : m.ClaimsSound) {refused : List String} (hrun : m.runNext refused = some m')
    : m'.OptedIn on ∧ m'.OnScreen := by
  unfold AppModel.runNext at hrun
  split at hrun
  next step rest hpresence =>
    cases hrun
    exact h.executeStep hscreen hclaims hpresence refused
  next op rest _ _ =>
    cases hrun
    have hrest : ({ m with todo := rest } : AppModel).OptedIn on :=
      h.congr rfl rfl rfl (fun _ => id)
    have hscreen' : ({ m with todo := rest } : AppModel).OnScreen :=
      hscreen.congr rfl rfl rfl rfl rfl rfl (fun _ => id)
    exact hrest.execute hscreen' hclaims op refused
  next => cases hrun

end AppModel

structure Installed where
  model : AppModel := {}
  on : List (UInt16 × UInt16) := []

inductive Installed.Event where
  | app (e : Slots.Event)
  /-- The app is started anew. Of what it knew only the switches are stored. -/
  | restart

namespace AppModel

def restart (m : AppModel) : AppModel :=
  { switches := m.switches }

def modelOf (m : AppModel) (slotId : String) : Option (UInt16 × UInt16) :=
  (m.slotList.find? (·.id = slotId)).map fun slot => (slot.vendorId, slot.productId)

def micChoice (m : AppModel) (e : Event) : Option ((UInt16 × UInt16) × Bool) :=
  match e with
  | .beginApplyBind slotId _ on _ => (m.modelOf slotId).map fun model => (model, on.mic)
  | _ => none

end AppModel

namespace Installed

def onAfter (i : Installed) (e : Slots.Event) : List (UInt16 × UInt16) :=
  match i.model.micChoice e with
  | some (model, true) => model :: i.on
  | some (model, false) => i.on.filter (· ≠ model)
  | none => i.on

def step (i : Installed) : Installed.Event → Option Installed
  | .app e => (i.model.step e).map fun m => { model := m, on := i.onAfter e }
  | .restart => some { i with model := i.model.restart }

/--
A binding is made for a slot on screen.
-/
def OwnChoice (i : Installed) : Installed.Event → Prop
  | .app (.bindSlot slotId _ _) =>
    ∃ model ∈ i.model.modelOf slotId, i.model.micEnabled slotId → model ∈ i.on
  | .app (.beginApplyBind slotId _ on _) =>
    ∃ model ∈ i.model.modelOf slotId, on.mic = false →
      ∀ other ∈ i.model.bindings.keys, other ≠ slotId → i.model.micEnabled other →
        names i.model.pads other model = false
  | _ => True

end Installed

namespace AppModel

variable {model : UInt16 × UInt16}

variable {m : AppModel} {on : List (UInt16 × UInt16)}

theorem names_of_modelOf (hscreen : m.OnScreen) {slotId : String}
    (h : m.modelOf slotId = some model)
    : names m.pads slotId model := by
  obtain ⟨slot, hslot, hmodel⟩ := Option.map_eq_some_iff.mp h
  have hid : slot.id = slotId := by simpa using List.find?_some hslot
  rw [← hid, ← hmodel]
  exact hscreen.slots slot (List.mem_of_find?_eq_some hslot)

theorem micEnabled_setSwitches (m : AppModel) (slotId other : String) (on : Switches)
    : ({ m with switches := setSwitches m.switches slotId on } : AppModel).micEnabled other
      = if slotId = other then on.mic else m.micEnabled other := by
  exact EnabledStore.isEnabled_setEnabled _ _ _ _ _

theorem OptedIn.bindSlot (h : m.OptedIn on) (hclaims : m.ClaimsSound) {slotId : String} (hmodel : names m.pads slotId model)
    (hchosen : m.micEnabled slotId → model ∈ on) (connectionId : String) (refused : List String)
    : (m.bindSlot slotId connectionId refused).OptedIn on ∧
      (m.bindSlot slotId connectionId refused).OnScreen := by
  have hbound : (m.bind slotId connectionId).OptedIn on := by
    apply h.bind ⟨model, hmodel⟩
    intro hon model' hmodel'
    rw [names_unique hmodel' hmodel]
    exact hchosen hon
  obtain ⟨hopted, hscreen⟩ := hbound.pass hclaims refused
  apply hopted.still hscreen <;> rfl

theorem OptedIn.setSwitches (h : m.OptedIn on) (hidle : m.presence = []) {slotId : String}
    {switches : Switches} (hmodel : names m.pads slotId model)
    {on' : List (UInt16 × UInt16)} (hself : switches.mic = true → model ∈ on')
    (hothers : ∀ other ∈ on, other ∈ on' ∨ (other = model ∧ switches.mic = false))
    (halone : switches.mic = false → ∀ other ∈ m.bindings, other ≠ slotId → m.micEnabled other →
      names m.pads other model = false)
    : ({ m with switches := AppModel.setSwitches m.switches slotId switches } : AppModel).OptedIn
        on' := by
  constructor
  case named => exact h.named
  case choice =>
    intro other hbound hon model' hmodel'
    rw [micEnabled_setSwitches] at hon
    split at hon
    next heq =>
      rw [← heq] at hmodel'
      rw [names_unique hmodel' hmodel]
      exact hself hon
    next hne =>
      obtain hkept | ⟨rfl, hoff⟩ := hothers model' (h.choice other hbound hon model' hmodel')
      next => exact hkept
      next =>
        have hnot := halone hoff other hbound (fun heq => hne heq.symm) hon
        exact absurd (hmodel'.symm.trans hnot) (by decide)
  case target =>
    intro _ _ _ hmem
    exact absurd hmem (by simp [hidle])
  case apart =>
    intro _ _ _ _ _ _ hmem
    exact absurd hmem (by simp [hidle])

theorem presence_of_call {m' : AppModel} {f : AppModel → AppModel} (h : m.call f = some m')
    : m.presence = [] := by
  unfold call at h
  split at h
  next hidle =>
    unfold idle at hidle
    simp only [Bool.and_eq_true, List.isEmpty_iff] at hidle
    exact hidle.1
  next => cases h

end AppModel

namespace Installed

variable {i : Installed}

theorem onAfter_of_micChoice {e : Slots.Event} {model : UInt16 × UInt16}
    {mic : Bool} (h : i.model.micChoice e = some (model, mic))
    : (mic = true → model ∈ i.onAfter e) ∧
      ∀ other ∈ i.on, other ∈ i.onAfter e ∨ (other = model ∧ mic = false) := by
  unfold onAfter
  rw [h]
  cases mic with
  | true => exact ⟨fun _ => List.mem_cons_self, fun other hother => .inl (List.mem_cons_of_mem _ hother)⟩
  | false =>
    refine ⟨(fun h => nomatch h), ?_⟩
    intro other hother
    by_cases heq : other = model
    next => exact .inr ⟨heq, rfl⟩
    next => exact .inl (List.mem_filter.mpr ⟨hother, by simpa using heq⟩)

structure Consented (i : Installed) : Prop where
  claims : i.model.ClaimsSound
  opted : i.model.OptedIn i.on
  screen : i.model.OnScreen

theorem Consented.beginApplyBind (h : i.Consented) {m' : AppModel}
    {slotId connectionId : String} {switches : Switches} {refused : List String}
    (hstep : i.model.call (·.beginApplyBind slotId connectionId switches refused) = some m')
    (hown : i.OwnChoice (.app (.beginApplyBind slotId connectionId switches refused)))
    : m'.OptedIn (i.onAfter (.beginApplyBind slotId connectionId switches refused)) ∧
      m'.OnScreen := by
  obtain ⟨model, hmodel, halone⟩ := hown
  have hnames := AppModel.names_of_modelOf h.screen hmodel
  have hchoice : i.model.micChoice (.beginApplyBind slotId connectionId switches refused)
      = some (model, switches.mic) := by
    simp [AppModel.micChoice, Option.mem_def.mp hmodel]
  obtain ⟨hself, hothers⟩ := onAfter_of_micChoice hchoice
  have hset := h.opted.setSwitches (AppModel.presence_of_call hstep) hnames hself hothers
    (fun hoff other hbound => halone hoff other (TreeMap.mem_keys.mpr hbound))
  rw [AppModel.of_call hstep]
  apply hset.bindSlot h.claims hnames
  rw [AppModel.micEnabled_setSwitches, if_pos rfl]
  exact hself

theorem Consented.app (h : i.Consented) {e : Slots.Event} {m' : AppModel}
    (hstep : i.model.step e = some m') (hown : i.OwnChoice (.app e))
    : m'.OptedIn (i.onAfter e) ∧ m'.OnScreen := by
  have hopted := h.opted
  have hscreen := h.screen
  unfold AppModel.step at hstep
  cases e with
  | plug vendorId productId bluetooth pad =>
    cases hstep
    exact ⟨hopted.claimPad vendorId productId bluetooth pad,
      hscreen.claimPad vendorId productId bluetooth pad⟩
  | unplug iid =>
    cases hstep
    exact ⟨hopted.releasePad iid, hscreen.releasePad iid⟩
  | report key muteDown =>
    obtain ⟨t, ht, hclaimed⟩ := Option.bind_eq_some_iff.mp hstep
    obtain ⟨c, hclaim, rfl⟩ := Option.map_eq_some_iff.mp hclaimed
    apply hopted.still hscreen <;> rfl
  | run refused => exact hopted.runNext hscreen h.claims hstep
  | ensureTracked vendorId productId name choice pad =>
    rw [AppModel.of_call hstep]
    unfold AppModel.ensureTracked
    dsimp only
    split
    next =>
      split
      next => exact ⟨hopted, hscreen⟩
      next => apply hopted.still hscreen <;> rfl
    next => apply hopted.still hscreen <;> rfl
  | usb key event =>
    obtain ⟨t, _, hcalled⟩ := Option.bind_eq_some_iff.mp hstep
    rw [AppModel.of_call hcalled]
    apply hopted.still hscreen <;> rfl
  | session id session | resolveAudioRoutes routes | rebuild =>
    rw [AppModel.of_call hstep]
    apply hopted.still hscreen <;> rfl
  | audioDevicesChanged names routes =>
    rw [AppModel.of_call hstep]
    refine ⟨hopted.congr rfl rfl rfl (fun _ => id), hscreen.congr rfl rfl rfl rfl rfl rfl ?_⟩
    exact fun _ => MicCaptureEngine.capturingFor_of_closeOnDevicesAbsent
  | bindSlot slotId connectionId refused =>
    obtain ⟨model, hmodel, hchosen⟩ := hown
    rw [AppModel.of_call hstep]
    exact hopted.bindSlot h.claims (AppModel.names_of_modelOf hscreen hmodel) hchosen connectionId
      refused
  | unbindSlot slotId refused =>
    rw [AppModel.of_call hstep]
    unfold AppModel.unbindSlot AppModel.unbind
    dsimp only
    split
    next =>
      obtain ⟨hopted', hscreen'⟩ := (hopted.erase slotId).pass h.claims refused
      apply hopted'.still hscreen' <;> rfl
    next => apply hopted.still hscreen <;> rfl
  | beginApplyBind slotId connectionId switches refused => exact h.beginApplyBind hstep hown
  | toggleSlotMicMute slotId =>
    rw [AppModel.of_call hstep]
    unfold AppModel.toggleSlotMicMute
    split
    next => exact ⟨hopted, hscreen⟩
    next => apply hopted.still hscreen <;> rfl
  | toggleAllMics =>
    rw [AppModel.of_call hstep]
    unfold AppModel.toggleAllMics
    split
    next => exact ⟨hopted, hscreen⟩
    next => apply hopted.still hscreen <;> rfl
  | padMicMuteChanged =>
    dsimp only at hstep
    split at hstep
    next => cases hstep
    next u rest _ =>
      rw [AppModel.of_call hstep]
      apply hopted.still hscreen <;> rfl

theorem Consented.restart : Consented { i with model := i.model.restart } := by
  refine ⟨?_, ⟨?_, ?_, ?_, ?_⟩, ⟨?_, ?_, ?_, ?_⟩⟩
  next => exact fun key t ht => by simp [AppModel.restart] at ht
  next => exact fun slotId hbound => by simp [AppModel.restart] at hbound
  next => exact fun slotId hbound => by simp [AppModel.restart] at hbound
  next => exact fun _ _ _ hmem => nomatch hmem
  next => exact fun _ _ _ _ _ _ hmem => nomatch hmem
  next => exact fun slot hslot => nomatch hslot
  next => exact fun s hs => nomatch hs
  next => exact fun slot hslot => nomatch hslot
  next =>
    intro slotId hcapturing
    simp [AppModel.restart, MicCaptureEngine.capturingFor] at hcapturing

theorem consented_of_step {i' : Installed} {e : Installed.Event} (h : i.Consented)
    (hown : i.OwnChoice e) (hstep : i.step e = some i')
    : i'.Consented := by
  cases e with
  | app e =>
    obtain ⟨m', hm', rfl⟩ := Option.map_eq_some_iff.mp hstep
    obtain ⟨hopted, hscreen⟩ := h.app hm' hown
    exact ⟨h.claims.step hm', hopted, hscreen⟩
  | restart =>
    cases hstep
    exact Consented.restart

theorem Consented.captured (h : i.Consented) {slotId : String}
    (hcapturing : i.model.micEngine.capturingFor slotId)
    : (∃ slot ∈ i.model.slotList, slot.id = slotId) ∧
      ∀ slot ∈ i.model.slotList, slot.id = slotId → (slot.vendorId, slot.productId) ∈ i.on := by
  have harmed := h.screen.captured slotId hcapturing
  obtain ⟨bound, hslot, hid, hconnection⟩ := harmed.bound
  refine ⟨⟨bound, hslot, hid⟩, ?_⟩
  intro slot hmem hsame
  have hbound := h.screen.bound bound hslot hconnection
  rw [hid, ← hsame] at hbound
  apply h.opted.choice slot.id hbound
  next =>
    rw [hsame]
    exact harmed.enabled
  next => exact h.screen.slots slot hmem

theorem captured_by_choice {events : List Installed.Event} {i : Installed}
    (hrun : run step {} events = some i)
    (hown : Along step OwnChoice {} events)
    : ∀ slotId, i.model.micEngine.capturingFor slotId →
      (∃ slot ∈ i.model.slotList, slot.id = slotId) ∧
      ∀ slot ∈ i.model.slotList, slot.id = slotId → (slot.vendorId, slot.productId) ∈ i.on := by
  have hconsented : i.Consented :=
    invariant_of_along (fun _ _ _ h hP hs => consented_of_step h hP hs)
      (Consented.restart (i := {})) hown hrun
  exact fun slotId => hconsented.captured

def plugged (vendorId productId : UInt16) : List Installed.Event :=
  let endpoint : PadAudioRoute :=
    { microphone := true, captureDeviceName := "Headset Microphone (Wireless Controller)" }
  let routes : TreeMap Int PadAudioRoute :=
    TreeMap.empty.insert (slotPathVpKey vendorId productId) endpoint
  let live : Session := { state := .Live, hostMicAvailable := true, sendTarget := some 0 }
  [.app (.plug vendorId productId false 7), .app .rebuild, .app (.run []), .app (.run []),
    .app (.session "pc" (some live)), .app (.run []), .app (.run []),
    .app (.resolveAudioRoutes routes), .app (.run []), .app (.run []), .app (.run [])]

def optIn : List Installed.Event :=
  let on : Switches := { motion := true, rumble := true, mic := true, speaker := true }
  plugged 0x054C 0x0CE6 ++ [.app (.beginApplyBind "sdl:0" "pc" on []), .app (.run [])]

def sameAgain : List Installed.Event :=
  optIn ++ [.restart] ++ plugged 0x054C 0x0CE6 ++ [.app (.bindSlot "sdl:0" "pc" [])]

def anotherFirst : List Installed.Event :=
  optIn ++ [.restart] ++ plugged 0x054C 0x0DF2 ++ [.app (.bindSlot "sdl:0" "pc" [])]

instance (i : Installed) : (e : Installed.Event) → Decidable (i.OwnChoice e)
  | .app (.bindSlot ..) | .app (.beginApplyBind ..) =>
    inferInstanceAs (Decidable (∃ model, model ∈ AppModel.modelOf _ _ ∧ _))
  | .app (.plug ..) | .app (.unplug ..) | .app (.report ..) | .app (.run ..)
  | .app (.ensureTracked ..) | .app (.usb ..) | .app (.session ..) | .app (.resolveAudioRoutes ..)
  | .app (.audioDevicesChanged ..) | .app .rebuild | .app (.unbindSlot ..)
  | .app (.toggleSlotMicMute ..) | .app .toggleAllMics | .app .padMicMuteChanged | .restart =>
    inferInstanceAs (Decidable True)

theorem captured_by_choice_same_again
    : ∃ i, run step {} sameAgain = some i ∧ i.model.micEngine.capturingFor "sdl:0" = true ∧
      ∀ slot ∈ i.model.slotList, slot.id = "sdl:0" → (slot.vendorId, slot.productId) ∈ i.on := by
  have hcaptured : (run step {} sameAgain).any
      (fun i => i.model.micEngine.capturingFor "sdl:0") = true := by
    decide +kernel
  obtain ⟨i, hrun, hcapturing⟩ := exists_run_of_any hcaptured
  have hown : Along step OwnChoice {} sameAgain := by decide +kernel
  exact ⟨i, hrun, hcapturing, (captured_by_choice hrun hown "sdl:0" hcapturing).2⟩

theorem another_model_captured
    : ∃ i, run step {} anotherFirst = some i ∧ ∃ slot ∈ i.model.slotList,
      i.model.micEngine.capturingFor slot.id = true ∧
      (slot.vendorId, slot.productId) = (0x054C, 0x0DF2) ∧ (0x054C, 0x0DF2) ∉ i.on := by
  have hcaptured : (run step {} anotherFirst).any (fun i => i.model.slotList.any fun slot =>
      i.model.micEngine.capturingFor slot.id &&
        decide ((slot.vendorId, slot.productId) = (0x054C, 0x0DF2) ∧ (0x054C, 0x0DF2) ∉ i.on))
      = true := by
    decide +kernel
  obtain ⟨i, hrun, hany⟩ := exists_run_of_any hcaptured
  obtain ⟨slot, hslot, htest⟩ := List.any_eq_true.mp hany
  rw [Bool.and_eq_true, decide_eq_true_eq] at htest
  exact ⟨i, hrun, slot, hslot, htest⟩

end Installed

end Slots
