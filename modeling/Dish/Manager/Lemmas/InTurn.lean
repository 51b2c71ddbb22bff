import Dish.Manager.Lemmas.Turns

/-!
This module contains the events that start an attempt in its turn.
-/

open Std Models Reducer Wire Store Connection

namespace Wifi

namespace Manager

variable {request : Request}

variable {sodium : Sodium} {m m' : Manager} {y : String} {names : String → String → Prop}

/--
No attempt starts for a satellite that has a request of an earlier one out, unless that one is still
linking.
-/
def InTurn (m : Manager) : Event → Prop
  | .pairWithPin server _ => refusesHost server = false → m.NoneOut server.id
  | .reply rid result _ => ∀ request x, m.requests[rid]? = some request →
      request.call.subject = some x → ApprovalGranted m request result →
      m.NoneOut x ∧ ∀ c, m.conn x = some c → c.state ≠ .Live
  | .aliveTick id => ∀ c client, m.conn id = some c → c.client = some client →
      counterNeedsRepush client.sendCounter = false
  | e => ∀ x, Dials x m e → m.NoneOut x ∨ m.Linking x

theorem orderly_step (h : OneAtATime m) {e : Event} (hstep : m.step sodium e = some m')
    (hin : InTurn m e)
    (hput : ∀ rid result linkOpens request, e = .reply rid result linkOpens →
      m.requests[rid]? = some request → request.call.isSessionPut = false)
    : Orderly names m m' := by
  have hrespected (hstrays : ¬m.Strays e) : Orderly names m m' := by
    apply respected_orderly.step hstep
    rintro p hneeds (rfl | rfl | rfl)
    . exact hstrays hneeds
    . cases e with
      | reply rid result linkOpens =>
        obtain ⟨request, hrequest, hlink⟩ := hneeds
        have hnot := hput rid result linkOpens request rfl hrequest
        cases hcall : request.call <;> simp [hcall, replyPowers, Call.isSessionPut] at hlink hnot
      | _ => exact hneeds
    . cases e with
      | reply rid result linkOpens =>
        obtain ⟨request, hrequest, hrekey⟩ := hneeds
        have hnot := h.keyed rid request hrequest
        cases hcall : request.call <;> simp [hcall, replyPowers, Call.isRekey] at hrekey hnot
      | _ => exact hneeds
  cases e with
  | connectTo server intent =>
    apply hrespected
    rintro ⟨hhost, hheld, hturn⟩
    exact hturn (hin server.id ⟨rfl, hhost, hheld⟩)
  | pairWithPin server pin => exact hrespected fun hstray => hstray hin
  | scanFinished found =>
    obtain ⟨_, rfl⟩ := step_scanFinished.mp hstep
    rw [onDiscoveryFinished_eq]
    have hlearned : (m.learned found).requests = m.requests := by
      unfold learned
      rw [relearns_eq]
    apply (respected_orderly.learned m found).trans
    apply orderly_autoReconnectAll
    rintro x ⟨hheld, hrow⟩
    rw [(learned_fields m found).1] at hheld
    rw [store_learned] at hrow
    rcases hin x ⟨hheld, hrow⟩ with hnone | ⟨c, hc, hstate⟩
    . apply Or.inl
      unfold NoneOut
      rw [hlearned]
      exact hnone
    . obtain heq | ⟨c', _, hc', hdown, _⟩ := conn_learned m found x
      . exact .inr ⟨c, heq.trans hc, hstate⟩
      . rw [hc] at hc'
        cases hc'
        simp [hstate] at hdown
  | autoReconnectAll =>
    obtain rfl := Option.some.inj hstep
    exact orderly_autoReconnectAll hin
  | resumeFromSleep =>
    obtain rfl := Option.some.inj hstep
    have hcleared : Orderly names m { m with retryAttempts := ∅, scanning := true } :=
      .of_plain (.of_conn fun _ => rfl) (.of_requests rfl)
    exact hcleared.trans (orderly_autoReconnectAll hin)
  | retryDue timer =>
    apply hrespected
    rintro ⟨r, hr, hheld, hturn⟩
    exact hturn (hin r.server.id ⟨hheld, r, hr, rfl⟩)
  | aliveTick id =>
    apply hrespected
    rintro ⟨c, client, hc, hclient, hcounter⟩
    rw [hin c client hc hclient] at hcounter
    cases hcounter
  | reply rid result linkOpens =>
    apply hrespected
    rintro ⟨request, hrequest, hstray⟩
    have hanswered (x : String) := h.answered (x := x) hrequest
    have hgrant := hin request
    have hnot := hput rid result linkOpens request rfl hrequest
    unfold StrayReply at hstray
    unfold ApprovalGranted at hstray hgrant
    cases hcall : request.call with
    | pinPair id =>
      rw [hcall] at hstray hanswered
      exact hstray (hanswered id (by simp [Call.opens]))
    | connectPair id =>
      rw [hcall] at hstray hanswered
      exact hstray (hanswered id (by simp [Call.opens]))
    | reversePair id =>
      rw [hcall] at hstray hgrant
      obtain ⟨hnone, hlive⟩ := hgrant id hrequest rfl hstray.2
      exact hstray.1 ⟨noneOut_erase hnone rid, hlive⟩
    | pairStatus server =>
      rw [hcall] at hstray hgrant
      obtain ⟨hnone, hlive⟩ := hgrant server.id hrequest rfl hstray.2
      exact hstray.1 ⟨noneOut_erase hnone rid, hlive⟩
    | getSession id =>
      rw [hcall] at hstray
      exact hstray fun hup => noneOut_erase (h.idle id hup) rid
    | putSession =>
      rw [hcall] at hnot
      cases hnot
    | _ =>
      rw [hcall] at hstray
      exact hstray
  | _ => exact hrespected id

structure Starts (y connectionId : String) (material : SessionMaterial) (m m' : Manager) : Prop where
  conn : ∃ c, m'.conn y = some c ∧ c.connectionId = some connectionId ∧ materialOf c = some material
  others : ∀ x, x ≠ y → m'.conn x = m.conn x
  adds : Adds (·.isPlain) m m'

theorem starts_startSession {c : WifiConnection y} (hc : m.conn y = some c)
    (hlinking : c.state = .Linking) (server : ServerOf y) (connectionId : String)
    (resp : SessionResponse) (material : SessionMaterial) (sent : List DesiredSlot)
    : Starts y connectionId material m
        ((m.startSession server connectionId resp material).convergeLateSlots sodium y sent) := by
  have hpowers : Touches {.remember, .link, .confirm} y m
      ((m.startSession server connectionId resp material).convergeLateSlots sodium y sent) :=
    ((Touches.start _ y m).startSession server connectionId resp material (by simp) (by simp)
      (by simp)).convergeLateSlots sent
  refine ⟨?_, fun x hx => (hpowers.frame hx).conn, hpowers.plain (by simp) (by simp) (by simp)⟩
  . have hconn := conn_startSession m server connectionId resp material
    dsimp only at hconn
    rw [hc, Option.map_some] at hconn
    refine ⟨_, by rw [conn_convergeLateSlots, hconn], ?_, ?_⟩
    . simp [WifiConnection.applyResults, WifiConnection.markConnected, WifiConnection.settle, hlinking]
    . simp [materialOf, WifiConnection.applyResults, WifiConnection.markConnected,
        WifiConnection.settle, hlinking, Client.setConnectionParams]

theorem orderly_onSessionReply (sentOn : Nat) (server : ServerOf y) (intent : ConnectIntent)
    (sent : Credentials) (sentDescriptors : List DesiredSlot) (resp : SessionResponse)
    (pinMismatch linkOpens : Bool) (hdown : ¬m.HasSession y) (hnone : m.NoneOut y)
    (hnames : ∀ connectionId, resp.connectionId = some connectionId → names y connectionId)
    (hm' : m' = m.onSessionReply sodium sentOn server intent sent sentDescriptors resp pinMismatch
      linkOpens)
    : (∃ connectionId material, resp.connectionId = some connectionId ∧
        sessionMaterialFrom sodium resp sent.pairingKey = some material ∧
        Starts y connectionId material m m') ∨
      Orderly names m m' := by
  obtain rfl | rfl | ⟨c, hc, hlinking, ⟨connectionId, material, hid, hmaterial, rfl⟩ |
      ⟨connectionId, hid, rfl⟩ | ⟨verdict, rfl⟩⟩ :=
    onSessionReply_inv m sentOn server intent sent sentDescriptors resp pinMismatch linkOpens hm'
  . exact .inr (respected_orderly.refl _)
  . apply Or.inr
    unfold handBackLateGrant
    split
    . next connectionId hid => exact .release _ _ _ (hnames connectionId hid) hdown
    . exact respected_orderly.refl m
  . exact .inl ⟨connectionId, material, hid, hmaterial,
      starts_startSession hc hlinking server connectionId resp material sentDescriptors⟩
  . apply Or.inr
    have hclosed : Orderly names m (m.modifyConn y (·.markDisconnected)) :=
      respected_orderly.touches ((Touches.start _ y m).modifyConn .markDisconnected)
    apply hclosed.trans
    apply Orderly.trans (.release _ _ _ (hnames connectionId hid) (hclosed.kept.no_session hdown))
    exact respected_orderly.touches ((Touches.start _ y _).emitErrorIfUserInitiated _ _)
  . apply Or.inr
    have hrefused : Touches {.arm, .store, .open} y m
        (m.onSessionRefused sodium c server intent verdict resp) :=
      (Touches.start _ y m).onSessionRefused hc server intent verdict resp (by simp) (by simp)
        (by simp) (.inr ⟨hlinking, hnone⟩)
    exact hrefused.orderly (by simp) (by simp) (by simp)

theorem OneAtATime.starts {rid : Nat} {connectionId : String}
    {material : SessionMaterial} (h : OneAtATime m) (hrequest : m.requests[rid]? = some request)
    (hopens : request.call.opens y)
    (hstep : Starts y connectionId material { m with requests := m.requests.erase rid } m')
    : OneAtATime m' := by
  have herased : Orderly (fun _ _ => True) m { m with requests := m.requests.erase rid } :=
    respected_orderly.eraseRequest m rid
  refine (herased.one h).plain hstep.adds ?_
  rintro x ⟨c, hc, hup⟩
  by_cases hx : x = y
  . rw [hx]
    exact (h.answered hrequest hopens).2
  . rw [hstep.others x hx] at hc
    exact (herased.one h).idle x ⟨c, hc, hup⟩

end Manager

end Wifi
