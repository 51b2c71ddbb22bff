import Dish.Manager.Lemmas.Slots
import Dish.Manager.Lemmas.Undisturbed

/-!
This module contains who confirmed a slot.
-/

open Std Models Reducer Wire Store Connection Transition

namespace Wifi

variable {e : Event} {id : String} {results : List ControllerApplyDto} {serial : Nat}

structure Audited where
  manager : Manager
  sentOn : Nat → Option Nat := fun _ => none
  said : String → Nat → Int → Option Bool := fun _ _ _ => none

def record (said : String → Nat → Int → Option Bool) (id : String) (serial : Nat)
    (results : List ControllerApplyDto)
    : String → Nat → Int → Option Bool := fun id' serial' ctrlIdx =>
  let latest := results.reverse.find? fun r => r.ctrlIdx = ctrlIdx
  if id' = id ∧ serial' = serial then
    (latest.map (·.slotIsLive)) <|> said id' serial' ctrlIdx
  else
    said id' serial' ctrlIdx

namespace Manager

def linkOf (m : Manager) (id : String) : Option Nat :=
  (m.conn id).bind fun c => c.client.map (·.serial)

def linkOfRequest (m : Manager) (rid : Nat) : Option Nat := do
  let request ← m.requests[rid]?
  match request.call with
  | .putController id .. => m.linkOf id
  | _ => none

end Manager

namespace Audited

def received (a : Audited) (m' : Manager) : Event → Option (String × Nat × List ControllerApplyDto)
  | .reply rid result _ => do
    let request ← a.manager.requests[rid]?
    match request.call with
    | .putSession id .. =>
      if m'.nextClient = a.manager.nextClient then
        none
      else
        some (id, a.manager.nextClient, result.session.controllers)
    | .rekey id _ serial .. => some (id, serial, result.session.controllers)
    | .putController id .. =>
      -- a refusal applied nothing
      if result.controller.unauthorized then
        none
      else
        let serial ← a.sentOn rid
        some (id, serial, result.controller.controller.toList)
    | _ => none
  | _ => none

def saidAfter (a : Audited) (m' : Manager) (e : Event) : String → Nat → Int → Option Bool :=
  match a.received m' e with
  | some (id, serial, results) => record a.said id serial results
  | none => a.said

def step (sodium : Sodium) (a : Audited) (e : Event) : Option Audited :=
  (a.manager.step sodium e).map fun m' => {
    manager := m'
    sentOn := fun rid =>
      if rid < a.manager.nextRequest then a.sentOn rid else m'.linkOfRequest rid
    said := a.saidAfter m' e
  }

/-- A reply that says something of slots comes in the session it is of. -/
def AnswersInSession (a : Audited) (rid : Nat) (result : HttpResult) : Call → Prop
  | .putSession id .. =>
    ∀ c ∈ a.manager.conn id, ∀ b ∈ c.bindings, b.registered →
      (WifiConnection.resultFor result.session.controllers b).isSome
  | .rekey id _ serial .. =>
    a.manager.linkOf id = some serial → ∀ c ∈ a.manager.conn id, ∀ b ∈ c.bindings,
      b.registered → ∀ r ∈ WifiConnection.resultFor result.session.controllers b, r.slotIsLive
  | .putController id .. =>
    result.controller.unauthorized = false → result.controller.controller.isSome →
      ∀ c ∈ a.manager.conn id, (a.sentOn rid).isSome ∧ a.manager.linkOf id = a.sentOn rid
  | _ => True

def InSession (a : Audited) : Event → Prop
  | .reply rid result _ =>
    ∀ request ∈ a.manager.requests[rid]?, a.AnswersInSession rid result request.call
  | _ => True

instance (a : Audited) (rid : Nat) (result : HttpResult) (call : Call)
    : Decidable (a.AnswersInSession rid result call) := by
  unfold AnswersInSession
  split <;> infer_instance

instance (a : Audited) (e : Event) : Decidable (a.InSession e) := by
  unfold InSession
  split <;> infer_instance

end Audited

namespace Manager

variable {sodium : Sodium} {m m' : Manager} {x y : String} {powers : Set Power}

def MarksNoMore (c c' : WifiConnection x) : Prop :=
  ∀ (slotId : String) (b' : SlotBinding), c'.slots[slotId]? = some b' → b'.registered = true →
    (∃ b, c.slots[slotId]? = some b ∧ b.registered = true ∧ b.controllerIndex = b'.controllerIndex) ∧
      c'.client.map (·.serial) = c.client.map (·.serial)

namespace MarksNoMore

variable {c c' c'' : WifiConnection x}

theorem of_slots (hslots : c'.slots = c.slots)
    (hclient : c'.client.map (·.serial) = c.client.map (·.serial))
    : MarksNoMore c c' := by
  intro slotId b' hb' hregistered
  rw [hslots] at hb'
  exact ⟨⟨b', hb', hregistered, rfl⟩, hclient⟩

theorem trans (h1 : MarksNoMore c c') (h2 : MarksNoMore c' c'') : MarksNoMore c c'' := by
  intro slotId b'' hb'' hregistered
  obtain ⟨⟨b', hb', hregistered', hindex'⟩, hclient'⟩ := h2 slotId b'' hb'' hregistered
  obtain ⟨⟨b, hb, hregistered, hindex⟩, hclient⟩ := h1 slotId b' hb' hregistered'
  exact ⟨⟨b, hb, hregistered, hindex.trans hindex'⟩, hclient'.trans hclient⟩

theorem teardown (c : WifiConnection x) (state : SessionState)
    (hstate : state = .Idle ∨ state = .Stale)
    : MarksNoMore c (c.teardown state hstate) := by
  intro slotId b' hb' hregistered
  simp only [WifiConnection.teardown, TreeMap.getElem?_map, Option.map_eq_some_iff] at hb'
  obtain ⟨b, _, rfl⟩ := hb'
  contradiction

theorem attachSlot (c : WifiConnection x) (slotId : String) (features : SlotFeatures)
    : MarksNoMore c (c.attachSlot slotId features).1 := by
  intro slotId' b' hb' hregistered
  unfold WifiConnection.attachSlot at hb' ⊢
  split at hb'
  . simp only [TreeMap.getElem?_insert] at hb'
    split at hb'
    . cases hb'
      contradiction
    . exact ⟨⟨b', hb', hregistered, rfl⟩, rfl⟩
  . next b hb =>
    simp only [TreeMap.getElem?_insert] at hb'
    split at hb'
    . next heq =>
      cases hb'
      rw [← Std.compare_eq_iff_eq.mp heq]
      exact ⟨⟨b, hb, hregistered, rfl⟩, rfl⟩
    . exact ⟨⟨b', hb', hregistered, rfl⟩, rfl⟩

theorem detachSlot (c : WifiConnection x) (slotId : String)
    : MarksNoMore c (c.detachSlot slotId).1 := by
  unfold WifiConnection.detachSlot
  split
  . apply of_slots rfl rfl
  . intro slotId' b' hb' hregistered
    simp only [TreeMap.getElem?_erase] at hb'
    split at hb'
    . contradiction
    . exact ⟨⟨b', hb', hregistered, rfl⟩, rfl⟩

end MarksNoMore

theorem Develops.marksNoMore {c c' : WifiConnection x} (h : Develops powers c c')
    (hlink : .link ∉ powers) (hconfirm : .confirm ∉ powers)
    : MarksNoMore c c' := by
  induction h with
  | note h => apply MarksNoMore.of_slots h.slots (congrArg _ h.client)
  | markConnecting c =>
    unfold WifiConnection.markConnecting
    split
    . exact .of_slots rfl rfl
    . exact .of_slots rfl rfl
  | markDisconnected c =>
    unfold WifiConnection.markDisconnected
    split
    . exact .of_slots rfl rfl
    . apply MarksNoMore.teardown
  | markStale c =>
    unfold WifiConnection.markStale
    split
    . exact .of_slots rfl rfl
    . apply MarksNoMore.teardown
  | applySteadyState c client =>
    unfold WifiConnection.applySteadyState
    dsimp only
    split
    . exact .of_slots rfl rfl
    . exact .of_slots rfl rfl
  | observe c o =>
    refine .of_slots rfl ?_
    simp [WifiConnection.mapClient, Observation.write, Function.comp_def]
  | markConnected c client connectionId epoch granted hpower => contradiction
  | applyResults c results hpower => contradiction
  | setConnectionParams c token sessionKey version hpower =>
    refine .of_slots rfl ?_
    simp [WifiConnection.mapClient, Client.setConnectionParams, Function.comp_def]
  | attachSlot c slotId features hslot => apply MarksNoMore.attachSlot
  | detachSlot c slotId hslot => apply MarksNoMore.detachSlot
  | trans _ _ ih1 ih2 => apply ih1.trans ih2

def Unmarked (x : String) (m m' : Manager) : Prop :=
  ∀ (c' : WifiConnection x) (slotId : String) (b' : SlotBinding), m'.conn x = some c' →
    c'.slots[slotId]? = some b' → b'.registered = true →
    ∃ c b, m.conn x = some c ∧ c.slots[slotId]? = some b ∧ b.registered = true ∧
      b.controllerIndex = b'.controllerIndex ∧
      c'.client.map (·.serial) = c.client.map (·.serial)

namespace Unmarked

theorem of_conn (h : m'.conn x = m.conn x) : Unmarked x m m' := by
  intro c' slotId b' hc' hb' hregistered
  rw [h] at hc'
  exact ⟨c', b', hc', hb', hregistered, rfl, rfl⟩

theorem trans {m'' : Manager} (h1 : Unmarked x m m') (h2 : Unmarked x m' m'') : Unmarked x m m'' := by
  intro c'' slotId b'' hc'' hb'' hregistered
  obtain ⟨c', b', hc', hb', hregistered', hindex', hclient'⟩ := h2 c'' slotId b'' hc'' hb'' hregistered
  obtain ⟨c, b, hc, hb, hregistered, hindex, hclient⟩ := h1 c' slotId b' hc' hb' hregistered'
  exact ⟨c, b, hc, hb, hregistered, hindex.trans hindex', hclient'.trans hclient⟩

theorem setConn {c c' : WifiConnection y} (hc : m.conn y = some c) (h : MarksNoMore c c')
    : Unmarked x m (m.setConn c') := by
  by_cases hx : x = y
  . subst hx
    intro c₁ slotId b' hc₁ hb' hregistered
    rw [conn_setConn_self] at hc₁
    cases hc₁
    obtain ⟨⟨b, hb, hmarked, hindex⟩, hclient⟩ := h slotId b' hb' hregistered
    exact ⟨c, b, hc, hb, hmarked, hindex, hclient⟩
  . apply of_conn
    apply conn_setConn_of_ne _ _ hx

theorem create (m : Manager) (server : ServerOf y)
    : Unmarked x m
        { m.setConn { obj := m.nextObj, server : WifiConnection y } with nextObj := m.nextObj + 1 } := by
  by_cases hx : x = y
  . subst hx
    intro c' slotId b' hc' hb' hregistered
    cases (conn_setConn_self m _).symm.trans hc'
    simp at hb'
  . apply of_conn
    apply conn_setConn_of_ne _ _ hx

theorem takeConnection (m : Manager) (y : String) : Unmarked x m (m.takeConnection y) := by
  by_cases hx : x = y
  . subst hx
    intro c' slotId b' hc'
    rw [conn_takeConnection_self] at hc'
    contradiction
  . apply of_conn
    apply conn_takeConnection_of_ne _ hx

theorem of_touches (h : Touches powers y m m') (hlink : .link ∉ powers) (hconfirm : .confirm ∉ powers)
    : Unmarked x m m' := by
  induction h with
  | refl => apply of_conn rfl
  | setConn _ hc hd ih => apply ih.trans (setConn hc (hd.marksNoMore hlink hconfirm))
  | create _ server _ ih => apply ih.trans (create _ server)
  | takeConnection _ _ ih => apply ih.trans (takeConnection _ y)
  | _ => assumption

theorem respected (x : String) : Respected {.link, .confirm}ᶜ (Unmarked x) where
  refl := fun _ => of_conn rfl
  trans := trans
  touches := fun h => of_touches h (by simp) (by simp)
  eraseRequest := fun _ _ => of_conn rfl
  eraseRetry := fun _ _ => of_conn rfl
  scanned := fun _ _ => of_conn rfl
  advance := fun _ _ => of_conn rfl
  encrypted := by
    intro _ sodium m rid request certDer hrequest
    apply of_conn
    apply (frame_onEncrypted x m certDer hrequest).conn

theorem of_step (hstep : m.step sodium e = some m') (hlink : ¬ m.Answers e .link)
    (hconfirm : ¬ m.Answers e .confirm)
    : Unmarked x m m' := by
  apply (respected x).step hstep
  intro p hneeds hp
  simp only [Set.mem_insert_iff, Set.mem_singleton_iff] at hp
  obtain rfl | rfl := hp
  . exact hlink hneeds
  . exact hconfirm hneeds

end Unmarked

theorem Touches.nextClient_eq (h : Touches powers y m m') (hlink : .link ∉ powers)
    : m'.nextClient = m.nextClient := by
  induction h with
  | refl => rfl
  | nextClient _ hpower => contradiction
  | _ => assumption

theorem nextClient_modifyConn (m : Manager) (y : String) (f : WifiConnection y → WifiConnection y)
    : (m.modifyConn y f).nextClient = m.nextClient := by
  unfold modifyConn
  split
  . rfl
  . rfl

@[simp]
theorem conn_emitAll (m : Manager) (texts : List String) (x : String)
    : (texts.foldl (fun m text => m.emit (.error text)) m).conn x = m.conn x := by
  induction texts generalizing m with
  | nil => rfl
  | cons text texts ih => apply ih

@[simp]
theorem conn_convergeLateSlots (m : Manager) (y : String) (sent : List DesiredSlot) (x : String)
    : (m.convergeLateSlots sodium y sent).conn x = m.conn x := by
  have hfold (f : Manager → UInt8 → Manager) (hf : ∀ m ctrlIdx, (f m ctrlIdx).conn x = m.conn x)
      (indices : List UInt8) (m : Manager)
      : (indices.foldl f m).conn x = m.conn x := by
    induction indices generalizing m with
    | nil => rfl
    | cons ctrlIdx indices ih => rw [List.foldl_cons, ih, hf]
  unfold convergeLateSlots
  split
  . rfl
  . dsimp only
    rw [hfold, hfold]
    . exact fun m ctrlIdx => conn_deleteSlot ..
    . intro m ctrlIdx
      split
      . apply conn_syncSlot
      . rfl

@[simp]
theorem conn_reconcile (m : Manager) (server : ServerOf y) (x : String)
    : (m.reconcile sodium server).conn x = m.conn x := by
  unfold reconcile
  split
  . rfl
  . split
    . dsimp only
      split
      . rfl
      . split
        . rfl
        . rfl
    . rfl

theorem conn_startSession (m : Manager) (server : ServerOf x) (connectionId : String)
    (resp : SessionResponse) (material : SessionMaterial)
    : let negotiated := settleAccepted resp.protocolVersion
      let opened : Client x :=
        { serial := m.nextClient, server, token := [], sessionKey := [], settledVersion := 0 }
      let client :=
        opened.setConnectionParams material.token material.sessionKey negotiated.settledVersion
      (m.startSession server connectionId resp material).conn x = (m.conn x).map fun c =>
        ((c.settle negotiated).markConnected client connectionId resp.epoch
          resp.mouseControlGranted).applyResults resp.controllers := by
  unfold startSession probeHostAudio
  dsimp only
  rw [conn_send, conn_emitAll, conn_modifyConn, conn_modifyConn]
  change Option.map _ (Option.map _ ((modifyConn _ x _).conn x)) = _
  rw [conn_modifyConn, Option.map_map, Option.map_map]
  rfl

theorem markConnected_of_linking {c : WifiConnection x} (hlinking : c.state = .Linking)
    (client : Client x) (connectionId : String) (epoch : Int) (granted : Bool)
    : ∃ linked, (c.markConnected client connectionId epoch granted).client = some linked ∧
        linked.serial = client.serial ∧
        (c.markConnected client connectionId epoch granted).slots = c.slots := by
  unfold WifiConnection.markConnected
  rw [if_neg (by simp [hlinking])]
  exact ⟨_, rfl, rfl, rfl⟩

theorem nextClient_startSession (m : Manager) (server : ServerOf x) (connectionId : String)
    (resp : SessionResponse) (material : SessionMaterial)
    : (m.startSession server connectionId resp material).nextClient = m.nextClient + 1 := by
  unfold startSession
  dsimp only
  rw [((Touches.start ∅ x _).emitAll _ |>.probeHostAudio _).nextClient_eq (by simp)]
  rw [nextClient_modifyConn, nextClient_modifyConn]
  change (modifyConn _ x _).nextClient = _
  rw [nextClient_modifyConn]

theorem onSessionReply_inv (m : Manager) (sentOn : Nat) (server : ServerOf y)
    (intent : ConnectIntent) (sent : Credentials) (sentDescriptors : List DesiredSlot)
    (resp : SessionResponse) (pinMismatch linkOpens : Bool)
    {m' : Manager} (hm' : m' = m.onSessionReply sodium sentOn server intent sent sentDescriptors resp
      pinMismatch linkOpens)
    : m' = m ∨ m' = m.handBackLateGrant server.1 resp sent.proof ∨
      ∃ c, m.conn y = some c ∧ c.state = .Linking ∧
        ((∃ connectionId material, resp.connectionId = some connectionId ∧
            sessionMaterialFrom sodium resp sent.pairingKey = some material ∧
            m' = (m.startSession server connectionId resp material).convergeLateSlots sodium y
              sentDescriptors) ∨
          (∃ connectionId, resp.connectionId = some connectionId ∧
            m' = m.releaseUnusableGrant server connectionId sent.proof intent) ∨
          ∃ verdict, m' = m.onSessionRefused sodium c server intent verdict resp) := by
  subst hm'
  unfold Manager.onSessionReply
  split
  . exact .inl rfl
  . next c hc =>
    split
    . exact .inr (.inl rfl)
    . next hlinking =>
      refine .inr (.inr ⟨c, conn_of_replyTarget hc, by simpa using hlinking, ?_⟩)
      dsimp only
      split
      . next connectionId _ _ _ hid _ _ =>
        split
        . next _ _ material hmaterial => exact .inl ⟨connectionId, material, hid, hmaterial, rfl⟩
        . exact .inr (.inl ⟨connectionId, hid, rfl⟩)
      . exact .inr (.inr ⟨_, rfl⟩)

theorem onSessionReply_cases (m : Manager) (sentOn : Nat) (server : ServerOf y)
    (intent : ConnectIntent) (sent : Credentials) (sentDescriptors : List DesiredSlot)
    (resp : SessionResponse) (pinMismatch linkOpens : Bool)
    : (∃ c connectionId material, m.conn y = some c ∧ c.state = .Linking ∧
        m.onSessionReply sodium sentOn server intent sent sentDescriptors resp pinMismatch linkOpens =
          (m.startSession server connectionId resp material).convergeLateSlots sodium y
            sentDescriptors) ∨
      Touches {.link, .confirm}ᶜ y m (m.onSessionReply sodium sentOn server intent sent sentDescriptors
        resp pinMismatch linkOpens) := by
  have hrefl := Touches.start {.link, .confirm}ᶜ y m
  obtain heq | heq | ⟨c, hc, hlinking, ⟨connectionId, material, _, _, heq⟩ | ⟨_, _, heq⟩ | ⟨_, heq⟩⟩ :=
    onSessionReply_inv m sentOn server intent sent sentDescriptors resp pinMismatch linkOpens rfl
  . rw [heq]
    exact .inr hrefl
  . rw [heq]
    exact .inr (hrefl.handBackLateGrant _ _ _ (by simp) (by simp))
  . exact .inl ⟨c, connectionId, material, hc, hlinking, heq⟩
  . rw [heq]
    apply Or.inr
    apply ((hrefl.modifyConn .markDisconnected).releaseSession _ _
      ⟨by simp, .inl (by simp)⟩).emitErrorIfUserInitiated
  . rw [heq]
    exact .inr (hrefl.onSessionRefused hc _ _ _ _ (by simp) (by simp) (by simp) (.inl (by simp)))

theorem touches_onControllerPut_of_unauthorized (sodium : Sodium) (m : Manager) (server : ServerOf y)
    {resp : ControllerPutResponse} (h : resp.unauthorized = true)
    : Touches {.link, .confirm}ᶜ y m (m.onControllerPut sodium server resp) := by
  unfold Manager.onControllerPut
  split
  . apply Touches.refl
  . rw [if_pos h]
    apply Touches.refl.onTerminalAuthFailure _ (by simp)

theorem getElem?_applyResults {c : WifiConnection x}
    {slotId : String} {b' : SlotBinding} (hb' : (c.applyResults results).slots[slotId]? = some b')
    : ∃ b, c.slots[slotId]? = some b ∧ b' = WifiConnection.applyResult results b := by
  simp only [WifiConnection.applyResults, TreeMap.getElem?_map, Option.map_eq_some_iff] at hb'
  obtain ⟨b, hb, rfl⟩ := hb'
  exact ⟨b, hb, rfl⟩

end Manager

namespace Audited

open Manager

variable {sodium : Sodium} {a a' : Audited} {m' : Manager}

theorem record_of_ne {said : String → Nat → Int → Option Bool} {id' : String} {serial' : Nat} (h : ¬(id' = id ∧ serial' = serial)) (ctrlIdx : Int)
    : record said id serial results id' serial' ctrlIdx = said id' serial' ctrlIdx := by
  simp [record, h]

theorem record_nil (said : String → Nat → Int → Option Bool) (id : String) (serial : Nat)
    : record said id serial [] = said := by
  funext id' serial' ctrlIdx
  simp [record]

theorem record_self (said : String → Nat → Int → Option Bool) (id : String) (serial : Nat)
    (results : List ControllerApplyDto) (b : SlotBinding)
    : record said id serial results id serial b.controllerIndex =
        ((WifiConnection.resultFor results b).map (·.slotIsLive) <|>
          said id serial b.controllerIndex) := by
  simp [record, WifiConnection.resultFor]

def Confirmed (a : Audited) : Prop :=
  ∀ (id : String) (c : WifiConnection id) (slotId : String) (b : SlotBinding),
    a.manager.conn id = some c → c.slots[slotId]? = some b → b.registered = true →
    ∃ client, c.client = some client ∧ a.said id client.serial b.controllerIndex = some true

theorem Confirmed.of_unmarked (h : Confirmed a) (hmarks : ∀ x, Unmarked x a.manager a'.manager)
    (hsaid : ∀ {id : String} {c : WifiConnection id} {slotId : String} {b : SlotBinding}
      {client : Client id}, a.manager.conn id = some c → c.slots[slotId]? = some b →
      b.registered = true → c.client = some client →
      a.said id client.serial b.controllerIndex = some true →
      a'.said id client.serial b.controllerIndex = some true)
    : Confirmed a' := by
  intro id c' slotId b' hc' hb' hregistered'
  obtain ⟨c, b, hc, hb, hregistered, hindex, hserial⟩ := hmarks id c' slotId b' hc' hb' hregistered'
  obtain ⟨client, hclient, hlive⟩ := h _ _ _ _ hc hb hregistered
  rw [hclient, Option.map_some, Option.map_eq_some_iff] at hserial
  obtain ⟨client', hclient', hserial⟩ := hserial
  refine ⟨client', hclient', ?_⟩
  rw [hserial, ← hindex]
  apply hsaid hc hb hregistered hclient hlive

theorem Confirmed.applyResults {c c' : WifiConnection id} {client : Client id} {slotId : String} {b' : SlotBinding}
    {said : String → Nat → Int → Option Bool}
    (hclient : c'.client = some client) (hserial : client.serial = serial)
    (hb' : (c.applyResults results).slots[slotId]? = some b') (hregistered : b'.registered = true)
    (hbefore : ∀ b, c.slots[slotId]? = some b → b.registered = true →
      WifiConnection.resultFor results b = none → said id serial b.controllerIndex = some true)
    : ∃ client, c'.client = some client ∧
        record said id serial results id client.serial b'.controllerIndex = some true := by
  refine ⟨client, hclient, ?_⟩
  obtain ⟨b, hb, rfl⟩ := getElem?_applyResults hb'
  have hindex : (WifiConnection.applyResult results b).controllerIndex = b.controllerIndex := by
    unfold WifiConnection.applyResult
    split
    . rfl
    . rfl
  rw [hserial, hindex, record_self]
  unfold WifiConnection.applyResult at hregistered
  split at hregistered
  . next hnone =>
    rw [hnone]
    apply hbefore b hb hregistered hnone
  . next r hr =>
    rw [hr]
    simpa using hregistered

theorem Confirmed.startSession {c : WifiConnection id} {server : ServerOf id}
    {connectionId : String} {resp : SessionResponse} {material : SessionMaterial} {m : Manager}
    (h : Confirmed a) (hm : ∀ x, m.conn x = a.manager.conn x)
    (hc : m.conn id = some c) (hlinking : c.state = .Linking)
    (hresults : ∀ b ∈ c.bindings, b.registered →
      (WifiConnection.resultFor resp.controllers b).isSome)
    (hconn : ∀ x, a'.manager.conn x = (m.startSession server connectionId resp material).conn x)
    (hsaid : a'.said = record a.said id m.nextClient resp.controllers)
    : Confirmed a' := by
  intro x c' slotId b' hc' hb' hregistered
  rw [hconn] at hc'
  rw [hsaid]
  by_cases hx : x = id
  . subst hx
    rw [conn_startSession, hc] at hc'
    cases hc'
    obtain ⟨linked, hlinked, hserial, hslots⟩ := markConnected_of_linking
      (c := c.settle (settleAccepted resp.protocolVersion)) hlinking _ connectionId resp.epoch
      resp.mouseControlGranted
    refine Confirmed.applyResults hlinked hserial hb' hregistered ?_
    intro b hb hmarked hnone
    rw [hslots] at hb
    have hmem : b ∈ c.bindings :=
      List.mem_map.mpr ⟨(slotId, b), TreeMap.mem_toList_iff_getElem?_eq_some.mpr hb, rfl⟩
    have := hresults b hmem hmarked
    rw [hnone] at this
    contradiction
  . have htouches := (Touches.start Set.univ id m).startSession server connectionId resp material
      trivial trivial trivial
    rw [(htouches.frame hx).conn, hm] at hc'
    obtain ⟨client, hclient, hlive⟩ := h _ _ _ _ hc' hb' hregistered
    refine ⟨client, hclient, ?_⟩
    rw [record_of_ne (by simp [hx])]
    exact hlive

theorem Confirmed.of_touches {m : Manager} (h : Confirmed a)
    (hm : ∀ x, m.conn x = a.manager.conn x) (htouches : Touches {.link, .confirm}ᶜ id m a'.manager)
    (hsaid : a'.said = a.said)
    : Confirmed a' := by
  apply h.of_unmarked
  . intro x
    apply (Unmarked.of_conn (hm x)).trans
    apply Unmarked.of_touches htouches (by simp) (by simp)
  . intro id c slotId b client _ _ _ _ hlive
    rw [hsaid]
    exact hlive

theorem Confirmed.onSessionReply {sentOn : Nat} {server : ServerOf id}
    {intent : ConnectIntent} {sent : Credentials} {sentDescriptors : List DesiredSlot}
    {resp : SessionResponse} {pinMismatch linkOpens : Bool} {m : Manager} (h : Confirmed a)
    (hm : ∀ x, m.conn x = a.manager.conn x) (hnext : m.nextClient = a.manager.nextClient)
    (hin : ∀ c ∈ a.manager.conn id, ∀ b ∈ c.bindings, b.registered →
      (WifiConnection.resultFor resp.controllers b).isSome)
    (hmanager : a'.manager = m.onSessionReply sodium sentOn server intent sent sentDescriptors resp
      pinMismatch linkOpens)
    (hsaid : a'.said =
      if a'.manager.nextClient = a.manager.nextClient then
        a.said
      else
        record a.said id a.manager.nextClient resp.controllers)
    : Confirmed a' := by
  obtain ⟨c, connectionId, material, hc, hlinking, hstarted⟩ | htouches :=
    onSessionReply_cases m sentOn server intent sent sentDescriptors resp pinMismatch linkOpens
  . have hbumped : a'.manager.nextClient ≠ a.manager.nextClient := by
      rw [hmanager, hstarted, ((Touches.start ∅ id _).convergeLateSlots _).nextClient_eq (by simp),
        nextClient_startSession, hnext]
      omega
    rw [if_neg hbumped, ← hnext] at hsaid
    have hresults := hin c ((hm id).symm.trans hc)
    have hconn (x : String) : a'.manager.conn x =
        (m.startSession server connectionId resp material).conn x := by
      rw [hmanager, hstarted, conn_convergeLateSlots]
    apply h.startSession hm hc hlinking hresults hconn hsaid
  . rw [← hmanager] at htouches
    apply h.of_touches hm htouches
    rw [hsaid, if_pos]
    rw [htouches.nextClient_eq (by simp), hnext]

theorem Confirmed.onControllerPut {server : ServerOf id} {rid : Nat}
    {resp : ControllerPutResponse} {m : Manager} (h : Confirmed a)
    (hm : ∀ x, m.conn x = a.manager.conn x) (hauthorized : resp.unauthorized = false)
    (hin : resp.controller.isSome →
      ∀ c ∈ a.manager.conn id, (a.sentOn rid).isSome ∧ a.manager.linkOf id = a.sentOn rid)
    (hmanager : a'.manager = m.onControllerPut sodium server resp)
    (hsaid : a'.said = ((a.sentOn rid).map fun serial =>
      record a.said id serial resp.controller.toList).getD a.said)
    : Confirmed a' := by
  have hkept (hconn : ∀ x, a'.manager.conn x = a.manager.conn x)
      (hsame : a.manager.conn id = none ∨ resp.controller = none) : Confirmed a' := by
    intro x c slotId b hc hb hregistered
    rw [hconn] at hc
    obtain ⟨client, hclient, hlive⟩ := h _ _ _ _ hc hb hregistered
    refine ⟨client, hclient, ?_⟩
    rw [hsaid]
    cases a.sentOn rid with
    | none => exact hlive
    | some serial =>
      obtain hnone | hnone := hsame
      . have hx : x ≠ id := by
          rintro rfl
          rw [hc] at hnone
          contradiction
        rw [Option.map_some, Option.getD_some, record_of_ne (by simp [hx])]
        exact hlive
      . rw [Option.map_some, Option.getD_some, hnone, Option.toList_none, record_nil]
        exact hlive
  cases hc : a.manager.conn id with
  | none =>
    apply hkept _ (Or.inl hc)
    intro x
    rw [hmanager, Manager.onControllerPut, hm, hc]
    exact hm x
  | some c =>
    cases hcontroller : resp.controller with
    | none =>
      apply hkept _ (Or.inr hcontroller)
      intro x
      simp only [hmanager, Manager.onControllerPut, hm, hc, hauthorized, hcontroller]
      exact hm x
    | some controller =>
      obtain ⟨client, hclient, hsent⟩ : ∃ client, c.client = some client ∧
          a.sentOn rid = some client.serial := by
        obtain ⟨hsome, hlink⟩ := hin (by simp [hcontroller]) c hc
        rw [← hlink, linkOf, hc, Option.bind_some] at hsome ⊢
        obtain ⟨serial, hserial⟩ := Option.isSome_iff_exists.mp hsome
        obtain ⟨client, hclient, rfl⟩ := Option.map_eq_some_iff.mp hserial
        exact ⟨client, hclient, hserial⟩
      have hconn (x : String) : a'.manager.conn x =
          (m.setConn ((c.adoptEpoch resp.epoch).applyResults [controller])).conn x := by
        simp only [hmanager, Manager.onControllerPut, hm, hc, hauthorized, hcontroller]
        simp only [Bool.false_eq_true, if_false]
        split
        . rw [conn_reconcile, conn_emitAll]
        . rw [conn_emitAll]
      intro x c' slotId b' hc' hb' hregistered
      rw [hconn] at hc'
      rw [hsaid, hsent, Option.map_some, Option.getD_some, hcontroller, Option.toList_some]
      by_cases hx : x = id
      . subst hx
        rw [conn_setConn_self] at hc'
        cases hc'
        apply Confirmed.applyResults hclient rfl hb' hregistered
        intro b hb hmarked _
        obtain ⟨client', hclient', hlive⟩ := h _ _ _ _ hc hb hmarked
        cases hclient.symm.trans hclient'
        exact hlive
      . rw [conn_setConn_of_ne _ _ hx, hm] at hc'
        obtain ⟨client', hclient', hlive⟩ := h _ _ _ _ hc' hb' hregistered
        refine ⟨client', hclient', ?_⟩
        rw [record_of_ne (by simp [hx])]
        exact hlive

theorem step_eq_some (hstep : a.step sodium e = some a')
    : a.manager.step sodium e = some a'.manager ∧ a'.said = a.saidAfter a'.manager e := by
  obtain ⟨m', hm', rfl⟩ := Option.map_eq_some_iff.mp hstep
  exact ⟨hm', rfl⟩

theorem Confirmed.onRekeyReply (h : Confirmed a) (hmarks : ∀ x, Unmarked x a.manager a'.manager)
    (hin : a.manager.linkOf id = some serial → ∀ c ∈ a.manager.conn id, ∀ b ∈ c.bindings,
      b.registered → ∀ r ∈ WifiConnection.resultFor results b, r.slotIsLive)
    (hsaid : a'.said = record a.said id serial results)
    : Confirmed a' := by
  apply h.of_unmarked hmarks
  intro x c slotId b client hc hb hregistered hclient hlive
  rw [hsaid]
  by_cases hsession : x = id ∧ client.serial = serial
  . obtain ⟨rfl, rfl⟩ := hsession
    have hmem : b ∈ c.bindings :=
      List.mem_map.mpr ⟨(slotId, b), TreeMap.mem_toList_iff_getElem?_eq_some.mpr hb, rfl⟩
    have hresult := hin (by simp [linkOf, hc, hclient]) c hc b hmem hregistered
    rw [record_self]
    cases hr : WifiConnection.resultFor results b with
    | none => simpa using hlive
    | some r => simpa using hresult r hr
  . rw [record_of_ne hsession]
    exact hlive

theorem Confirmed.reply {rid : Nat} {result : HttpResult} {linkOpens : Bool} (h : Confirmed a)
    (hin : a.InSession (.reply rid result linkOpens))
    (hstep : a.manager.step sodium (.reply rid result linkOpens) = some a'.manager)
    (hsaid : a'.said = a.saidAfter a'.manager (.reply rid result linkOpens))
    : Confirmed a' := by
  obtain ⟨request, hrequest, _, hmanager⟩ := step_reply.mp hstep
  have hmarks (hlink : .link ∉ replyPowers request.call)
      (hconfirm : .confirm ∉ replyPowers request.call) (x : String) :
      Unmarked x a.manager a'.manager := by
    have hanswers {p : Power} (hp : p ∉ replyPowers request.call)
        : ¬ a.manager.Answers (.reply rid result linkOpens) p := by
      rintro ⟨request', hrequest', hpower⟩
      rw [hrequest] at hrequest'
      cases hrequest'
      exact hp hpower
    apply Unmarked.of_step hstep (hanswers hlink) (hanswers hconfirm)
  have hin := hin request hrequest
  simp only [saidAfter, received, hrequest, Option.bind_eq_bind, Option.bind_some] at hsaid
  cases hcall : request.call with
  | putSession id sentOn server intent sent sentDescriptors body =>
    rw [hcall] at hin hsaid
    simp only [onReply, hcall] at hmanager
    refine h.onSessionReply ?hm ?hnext hin hmanager ?hsaid
    case hm => exact fun _ => rfl
    case hnext => rfl
    case hsaid =>
      rw [hsaid]
      by_cases hnext : a'.manager.nextClient = a.manager.nextClient
      . simp [hnext]
      . simp [hnext]
  | rekey id sentOn serial sent body =>
    rw [hcall] at hin hsaid hmarks
    exact h.onRekeyReply (hmarks (by simp [replyPowers]) (by simp [replyPowers])) hin hsaid
  | putController id sentOn server connectionId sent descriptor =>
    rw [hcall] at hin hsaid
    simp only [onReply, hcall] at hmanager
    cases hauthorized : result.controller.unauthorized with
    | true =>
      rw [hauthorized] at hsaid
      have htouches := touches_onControllerPut_of_unauthorized sodium
        { a.manager with requests := a.manager.requests.erase rid } server hauthorized
      rw [← hmanager] at htouches
      refine h.of_touches ?_ htouches hsaid
      exact fun _ => rfl
    | false =>
      refine h.onControllerPut ?hm hauthorized (hin hauthorized) hmanager ?hsaid
      case hm => exact fun _ => rfl
      case hsaid =>
        simp only [hauthorized, Bool.false_eq_true, if_false] at hsaid
        rw [hsaid]
        cases a.sentOn rid with
        | none => rfl
        | some serial => rfl
  | _ =>
    rw [hcall] at hmarks hsaid
    apply h.of_unmarked (hmarks (by simp [replyPowers]) (by simp [replyPowers]))
    intro id c slotId b client _ _ _ _ hlive
    rw [hsaid]
    exact hlive

theorem Confirmed.step (h : Confirmed a) (hin : a.InSession e) (hstep : a.step sodium e = some a')
    : Confirmed a' := by
  obtain ⟨hmanager, hsaid⟩ := step_eq_some hstep
  cases e with
  | reply rid result linkOpens => apply h.reply hin hmanager hsaid
  | _ =>
    apply h.of_unmarked
    . intro x
      apply Unmarked.of_step hmanager id id
    . intro id c slotId b client _ _ _ _ hlive
      rw [hsaid]
      exact hlive

theorem mem_slots_of_sendTarget {c : WifiConnection id} {client : Client id}
    {ctrlIdx : Nat} (h : c.sendTarget = some (client, ctrlIdx))
    : ∃ (slotId : String) (b : SlotBinding), c.slots[slotId]? = some b ∧ b.registered = true ∧ c.client = some client ∧
        b.controllerIndex = ctrlIdx := by
  simp only [WifiConnection.sendTarget, Option.bind_eq_bind, Option.bind_eq_some_iff] at h
  obtain ⟨slotId, _, b, hb, hsends⟩ := h
  split at hsends
  . next hregistered =>
    obtain ⟨client', hclient, heq⟩ := Option.bind_eq_some_iff.mp hsends
    cases heq
    exact ⟨slotId, b, hb, hregistered, hclient, rfl⟩
  . contradiction

theorem registered_confirmed (sodium : Sodium) (store : ConnectionStore) (deviceId deviceName : String)
    (es : List Event) (a : Audited)
    (hin : Along (step sodium) InSession
      { manager := launch store deviceId deviceName } es)
    (hrun : Transition.run (step sodium) { manager := launch store deviceId deviceName } es = some a)
    (id : String) (c : WifiConnection id) (hc : a.manager.conn id = some c)
    : (∀ (slotId : String) (b : SlotBinding), c.slots[slotId]? = some b → b.registered = true →
        ∃ client, c.client = some client ∧
          a.said id client.serial b.controllerIndex = some true) ∧
      ∀ (client : Client id) (ctrlIdx : Nat), c.sendTarget = some (client, ctrlIdx) →
        a.said id client.serial ctrlIdx = some true := by
  have hconfirmed : Confirmed a := by
    apply invariant_of_along _ _ hin hrun
    . intro a e a' h hin hstep
      apply h.step hin hstep
    . intro id c slotId b hc
      simp [launch, conn] at hc
  refine ⟨fun slotId b => hconfirmed id c slotId b hc, ?_⟩
  intro client ctrlIdx htarget
  obtain ⟨slotId, b, hb, hregistered, hclient, rfl⟩ := mem_slots_of_sendTarget htarget
  obtain ⟨client', hclient', hlive⟩ := hconfirmed id c slotId b hc hb hregistered
  cases hclient.symm.trans hclient'
  exact hlive

def padRun : List Event :=
  falteringRun.take 3 ++ [.attachSlot officePc.id "pad" {}, .encrypted 2 officeCert]

def padResult (resultCode : UInt8) : ControllerApplyDto where
  resultCode

def padApplied : Event :=
  .reply 2 { status := 200, body := .controller { controller := some (padResult kApplyOk) } } true

def officeAudited : Audited where
  manager := officeLaunch

structure Report where
  marked : List Nat
  link : Option Nat
  target : Option (Nat × Option Bool)
  deriving DecidableEq

def reportOf (a : Audited) (id : String) : Option Report :=
  (a.manager.conn id).map fun c => {
    marked := (c.bindings.filter (·.registered)).map (·.controllerIndex)
    link := c.client.map (·.serial)
    target := c.sendTarget.map fun (client, i) => (i, a.said id client.serial i)
  }

theorem registered_confirmed_pad
    : ∃ a c, Transition.run (step officeSodium) officeAudited (padRun ++ [padApplied]) = some a ∧
        a.manager.conn officePc.id = some c ∧
        reportOf a officePc.id = some ⟨[0], some 0, some (0, some true)⟩ ∧
        (∀ (slotId : String) (b : SlotBinding), c.slots[slotId]? = some b → b.registered = true →
          ∃ client, c.client = some client ∧
            a.said officePc.id client.serial b.controllerIndex = some true) := by
  obtain ⟨a, hrun, hreport⟩ := Option.map_eq_some_iff.mp
    (show (Transition.run (step officeSodium) officeAudited (padRun ++ [padApplied])).map
      (reportOf · officePc.id) = some (some ⟨[0], some 0, some (0, some true)⟩) by decide)
  obtain ⟨c, hc, _⟩ := Option.map_eq_some_iff.mp hreport
  refine ⟨a, c, hrun, hc, hreport, ?_⟩
  exact (registered_confirmed officeSodium officeStore "0f1e2d3c4b5a69788796a5b4c3d2e1f0" "dish"
    (padRun ++ [padApplied]) a (by decide) hrun officePc.id c hc).1

def padAgainRun : List Event :=
  padRun ++ [.disconnect officePc.id, .connectTo officePc .UserInitiated, .encrypted 4 officeCert,
    .reply 4 { status := 200, body := .session {
      connectionId := some "c1"
      token := some "05060708"
      sessionSalt := some "08090a0b0c0d0e0f"
      controllers := [padResult kApplyNoSlots]
      epoch := 2
      protocolVersion := 3 } } true]

theorem late_result_marks_slot
    : (Transition.run (step officeSodium) officeAudited
          (padRun ++ [.disconnect officePc.id, padApplied])).map (reportOf · officePc.id) =
        some (some ⟨[0], none, none⟩) ∧
      (Transition.run (step officeSodium) officeAudited padAgainRun).map (reportOf · officePc.id) =
        some (some ⟨[], some 1, none⟩) ∧
      (Transition.run (step officeSodium) officeAudited (padAgainRun ++ [padApplied])).map
          (reportOf · officePc.id) =
        some (some ⟨[0], some 1, some (0, some false)⟩) := by
  decide

end Audited

end Wifi
