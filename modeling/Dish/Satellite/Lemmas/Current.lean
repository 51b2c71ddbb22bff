import Dish.Satellite.InOrder

/-!
This module contains what a manager that starts its attempts in turn has of its satellites.
-/

open Std Models Wire Wifi Wifi.Manager Connection Transition

namespace Wifi

theorem Call.opens_of_sessionFor? {call : Call} {x : String} {sent : Credentials}
    (h : call.sessionFor? = some (x, sent)) (hkeyed : call.isRekey = false)
    : call.opens x := by
  cases call <;> simp_all [Call.sessionFor?, Call.opens, Call.isRekey]

end Wifi

namespace Satellite

namespace Served

variable {e : Event} {linkOpens : Bool} {result : HttpResult} {rid : Nat}

variable {sodium : Sodium} {ids : Ids} {w w' : Served}

theorem getElem?_insert_of_ne {β : Type} {map : TreeMap String β} {x id : String} {v : β}
    (h : x ≠ id)
    : (map.insert id v)[x]? = map[x]? := by
  rw [TreeMap.getElem?_insert, if_neg]
  intro heq
  exact h (Std.compare_eq_iff_eq.mp heq).symm

theorem step_client
    : w.step sodium ids (.client e) = some w' ↔ isClients w.manager e = true ∧
        ∃ m', w.manager.step sodium e = some m' ∧ w' = w.client m' e := by
  simp [step, eq_comm (b := w')]

theorem step_deliver
    : w.step sodium ids (.deliver rid linkOpens) = some w' ↔ ∃ result m',
        w.answers[rid]? = some result ∧
        w.manager.step sodium (.reply rid result linkOpens) = some m' ∧
        w' = { w with manager := m' } := by
  simp [step, Option.bind_eq_some_iff, eq_comm (b := w')]

theorem step_answer (h : w.step sodium ids (.answer rid result) = some w')
    : ∃ id sent, w.puts[rid]? = some (id, sent) ∧
        (∀ last, w.answered[id]? = some last → last < rid) ∧
        w'.manager = w.manager ∧ w'.puts = w.puts ∧ w'.answers = w.answers.insert rid result ∧
        w'.answered = w.answered.insert id rid ∧
        (∀ x, x ≠ id → w'.session[x]? = w.session[x]?) ∧
        (result.session.connectionId = some (ids.connectionIdOf id) ∧
            sessionMaterialFrom sodium result.session sent.pairingKey = w'.session[id]? ∨
          result.session.connectionId = none) := by
  simp only [step, Option.bind_eq_some_iff] at h
  obtain ⟨⟨id, sent⟩, hput, h⟩ := h
  refine ⟨id, sent, hput, ?_⟩
  split at h
  . cases h
  . next hlast =>
    have horder : ∀ last, w.answered[id]? = some last → last < rid := by
      intro last hlast'
      simpa [hlast'] using hlast
    refine ⟨horder, ?_⟩
    unfold answer at h
    dsimp only at h
    split at h
    . split at h
      . next hid =>
        obtain ⟨material, hmaterial, rfl⟩ := Option.map_eq_some_iff.mp h
        refine ⟨rfl, rfl, rfl, rfl, fun x hx => getElem?_insert_of_ne hx, .inl ⟨hid, ?_⟩⟩
        rw [hmaterial, TreeMap.getElem?_insert_self]
      . cases h
    . split at h
      . next hnone =>
        cases h
        exact ⟨rfl, rfl, rfl, rfl, fun _ _ => rfl, .inr hnone.2⟩
      . cases h

def IdOf (ids : Ids) (x connectionId : String) : Prop :=
  connectionId = ids.connectionIdOf x

structure Honest (sodium : Sodium) (ids : Ids) (w : Served) : Prop where
  sent : ∀ (rid : Nat) (result : HttpResult), w.answers[rid]? = some result →
    (w.puts[rid]?).isSome
  last : ∀ (x : String) (rid : Nat), w.answered[x]? = some rid → ∃ sent, w.puts[rid]? = some (x, sent)
  granted : ∀ (rid : Nat) x sent (result : HttpResult), w.puts[rid]? = some (x, sent) →
    w.answers[rid]? = some result → ∃ last, w.answered[x]? = some last ∧ rid ≤ last ∧
      ∀ connectionId, result.session.connectionId = some connectionId →
        connectionId = ids.connectionIdOf x ∧
        (last = rid →
          sessionMaterialFrom sodium result.session sent.pairingKey = w.session[x]?)

structure Current (sodium : Sodium) (ids : Ids) (w : Served) : Prop where
  honest : Honest sodium ids w
  below : ∀ (rid : Nat) (r : Request), w.manager.requests[rid]? = some r → rid < w.manager.nextRequest
  putsBelow : ∀ (rid : Nat) put, w.puts[rid]? = some put → rid < w.manager.nextRequest
  recorded : ∀ (rid : Nat) put (r : Request), w.puts[rid]? = some put →
    w.manager.requests[rid]? = some r → r.call.sessionFor? = some put
  one : OneAtATime w.manager
  named : Named (IdOf ids) w.manager
  up : ∀ x c, w.manager.conn x = some c → IsUp c → materialOf c = w.session[x]? ∧
    ∀ (rid : Nat) sent, w.puts[rid]? = some (x, sent) →
      ∃ last, w.answered[x]? = some last ∧ rid ≤ last
  latest : ∀ x (rid : Nat) (r : Request), w.manager.requests[rid]? = some r → r.call.opens x →
    ∀ (rid' : Nat) sent, w.puts[rid']? = some (x, sent) → rid' ≤ rid

theorem Honest.answer (h : Honest sodium ids w)
    (hstep : w.step sodium ids (.answer rid result) = some w')
    : Honest sodium ids w' := by
  obtain ⟨id, sent, hput, horder, _, hputs, hanswers, hanswered, hothers, hsession⟩ :=
    step_answer hstep
  constructor
  . intro rid' result' hresult'
    rw [hputs]
    rw [hanswers, TreeMap.getElem?_insert] at hresult'
    split at hresult'
    next heq =>
      cases Std.compare_eq_iff_eq.mp heq
      simp [hput]
    next => exact h.sent rid' result' hresult'
  . intro x rid' hrid'
    rw [hputs]
    rw [hanswered, TreeMap.getElem?_insert] at hrid'
    split at hrid'
    next heq =>
      cases Std.compare_eq_iff_eq.mp heq
      cases hrid'
      exact ⟨sent, hput⟩
    next => exact h.last x rid' hrid'
  . intro rid' x sent' result' hput' hresult'
    rw [hputs] at hput'
    rw [hanswers, TreeMap.getElem?_insert] at hresult'
    split at hresult'
    next heq =>
      cases Std.compare_eq_iff_eq.mp heq
      cases hresult'
      cases hput.symm.trans hput'
      refine ⟨rid, by simp [hanswered], Nat.le_refl _, ?_⟩
      intro connectionId hid
      rcases hsession with ⟨hid', hmaterial⟩ | hnone
      . cases hid'.symm.trans hid
        exact ⟨rfl, fun _ => hmaterial⟩
      . cases hnone.symm.trans hid
    next hne =>
      have hne : rid' ≠ rid := fun heq => hne (Std.compare_eq_iff_eq.mpr heq.symm)
      obtain ⟨last, hlast, hle, hgrant⟩ := h.granted rid' x sent' result' hput' hresult'
      by_cases hx : x = id
      . subst hx
        have := horder last hlast
        refine ⟨rid, by simp [hanswered], by omega, ?_⟩
        intro connectionId hid
        exact ⟨(hgrant connectionId hid).1, fun heq => absurd heq.symm hne⟩
      . refine ⟨last, by rw [hanswered, getElem?_insert_of_ne hx, hlast], hle, ?_⟩
        rw [hothers x hx]
        exact hgrant

theorem Current.answer (h : Current sodium ids w)
    (hstep : w.step sodium ids (.answer rid result) = some w')
    : Current sodium ids w' := by
  have hhonest := h.honest.answer hstep
  obtain ⟨id, sent, hput, horder, hmanager, hputs, _, hanswered, hothers, _⟩ := step_answer hstep
  constructor
  . exact hhonest
  . rw [hmanager]
    exact h.below
  . rw [hmanager, hputs]
    exact h.putsBelow
  . rw [hmanager, hputs]
    exact h.recorded
  . rw [hmanager]
    exact h.one
  . rw [hmanager]
    exact h.named
  . intro x c hc hup
    rw [hmanager] at hc
    obtain ⟨hmaterial, hbehind⟩ := h.up x c hc hup
    -- a session that is up has no PUT left to answer
    have hx : x ≠ id := by
      rintro rfl
      obtain ⟨last, hlast, hle⟩ := hbehind rid sent hput
      have := horder last hlast
      omega
    rw [hputs, hanswered, getElem?_insert_of_ne hx, hothers x hx]
    exact ⟨hmaterial, hbehind⟩
  . rw [hmanager, hputs]
    exact h.latest

section Client

variable {m' : Manager}

theorem Current.follow (h : Current sodium ids w) (hnumbered : Numbered w.manager m')
    (hone : OneAtATime m') (hnamed : Named (IdOf ids) m')
    (hup : ∀ x c, m'.conn x = some c → IsUp c → materialOf c = w.session[x]? ∧
      ∀ (rid : Nat) sent, w.puts[rid]? = some (x, sent) →
        ∃ last, w.answered[x]? = some last ∧ rid ≤ last)
    : Current sodium ids { w with manager := m' } where
  honest := ⟨h.honest.sent, h.honest.last, h.honest.granted⟩
  below := hnumbered.below h.below
  putsBelow := fun rid put hput => (h.putsBelow rid put hput).trans_le hnumbered.next
  recorded := by
    intro rid put r hput hr
    obtain ⟨r₀, hr₀, hcall⟩ := hnumbered.old rid r hr (h.putsBelow rid put hput)
    rw [← hcall]
    exact h.recorded rid put r₀ hput hr₀
  one := hone
  named := hnamed
  up := hup
  latest := by
    intro x rid r hr hopens rid' sent hput
    have hbelow := h.putsBelow rid' _ hput
    by_cases hlt : rid < w.manager.nextRequest
    . obtain ⟨r₀, hr₀, hcall⟩ := hnumbered.old rid r hr hlt
      rw [← hcall] at hopens
      exact h.latest x rid r₀ hr₀ hopens rid' sent hput
    . omega

theorem Current.orderly (h : Current sodium ids w) (hnumbered : Numbered w.manager m')
    (hstep : Orderly (IdOf ids) w.manager m')
    : Current sodium ids { w with manager := m' } := by
  refine h.follow hnumbered (hstep.one h.one) (hstep.kept.named_of h.named) ?_
  intro x c' hc' hup
  obtain ⟨c, hc, hup, hmaterial⟩ := hstep.kept.up x c' hc' hup
  rw [hmaterial]
  exact h.up x c hc hup

theorem Current.starts {r : Request} {y connectionId : String} {sent : Credentials}
    {material : SessionMaterial} (h : Current sodium ids w)
    (hr : w.manager.requests[rid]? = some r) (hput : w.puts[rid]? = some (y, sent))
    (hresult : w.answers[rid]? = some result)
    (hid : result.session.connectionId = some connectionId)
    (hmaterial : sessionMaterialFrom sodium result.session sent.pairingKey = some material)
    (hnumbered : Numbered w.manager m')
    (hstep : Starts y connectionId material
      { w.manager with requests := w.manager.requests.erase rid } m')
    : Current sodium ids { w with manager := m' } := by
  have hopens : r.call.opens y :=
    Call.opens_of_sessionFor? (h.recorded rid _ r hput hr) (h.one.keyed rid r hr)
  obtain ⟨last, hlast, hle, hgrant⟩ := h.honest.granted rid y sent result hput hresult
  -- the PUT that is out is the last one that was sent, so it is the last one answered
  have hrid : last = rid := by
    obtain ⟨sent', hput'⟩ := h.honest.last y last hlast
    have := h.latest y rid r hr hopens last sent' hput'
    omega
  obtain ⟨hid', hsession⟩ := hgrant connectionId hid
  refine h.follow hnumbered (h.one.starts hr hopens hstep) ?_ ?_
  . intro x c filed hc hfiled
    by_cases hx : x = y
    . subst hx
      obtain ⟨c', hc', hstarted, _⟩ := hstep.conn
      cases hc.symm.trans hc'
      cases hfiled.symm.trans hstarted
      exact hid'
    . rw [hstep.others x hx] at hc
      exact h.named x c filed hc hfiled
  . intro x c hc hup
    by_cases hx : x = y
    . subst hx
      obtain ⟨c', hc', _, hmaterial'⟩ := hstep.conn
      cases hc.symm.trans hc'
      rw [hmaterial', ← hmaterial, hsession hrid]
      refine ⟨rfl, ?_⟩
      intro rid' sent' hput'
      have := h.latest x rid r hr hopens rid' sent' hput'
      exact ⟨last, hlast, by omega⟩
    . rw [hstep.others x hx] at hc
      exact h.up x c hc hup

theorem Current.write {put : String × Credentials} {r : Request}
    (h : Current sodium ids w) (hr : w.manager.requests[rid]? = some r)
    (hput : r.call.sessionFor? = some put)
    : Current sodium ids { w with puts := w.puts.insert rid put } := by
  have hold : ∀ (rid' : Nat) put', w.puts[rid']? = some put' →
      (w.puts.insert rid put)[rid']? = some put' := by
    intro rid' put' hput'
    rw [TreeMap.getElem?_insert]
    split
    next heq =>
      cases Std.compare_eq_iff_eq.mp heq
      exact hput.symm.trans (h.recorded rid put' r hput' hr)
    next => exact hput'
  have hnew : ∀ (rid' : Nat) put', (w.puts.insert rid put)[rid']? = some put' →
      w.puts[rid']? = some put' ∨ rid' = rid ∧ put' = put := by
    intro rid' put' hput'
    rw [TreeMap.getElem?_insert] at hput'
    split at hput'
    next heq =>
      cases hput'
      exact .inr ⟨(Std.compare_eq_iff_eq.mp heq).symm, rfl⟩
    next => exact .inl hput'
  have hopens : ∀ x sent, put = (x, sent) → r.call.opens x := by
    rintro x sent rfl
    exact Call.opens_of_sessionFor? hput (h.one.keyed rid r hr)
  constructor
  . constructor
    . intro rid' result hresult
      obtain ⟨put', hput'⟩ := Option.isSome_iff_exists.mp (h.honest.sent rid' result hresult)
      exact Option.isSome_iff_exists.mpr ⟨put', hold rid' put' hput'⟩
    . intro x rid' hlast
      obtain ⟨sent, hput'⟩ := h.honest.last x rid' hlast
      exact ⟨sent, hold rid' _ hput'⟩
    . intro rid' x sent result hput' hresult
      obtain ⟨put', hput''⟩ := Option.isSome_iff_exists.mp (h.honest.sent rid' result hresult)
      cases (hold rid' put' hput'').symm.trans hput'
      exact h.honest.granted rid' x sent result hput'' hresult
  . exact h.below
  . intro rid' put' hput'
    rcases hnew rid' put' hput' with hput' | ⟨rfl, rfl⟩
    . exact h.putsBelow rid' put' hput'
    . exact h.below rid' r hr
  . intro rid' put' r' hput' hr'
    rcases hnew rid' put' hput' with hput' | ⟨rfl, rfl⟩
    . exact h.recorded rid' put' r' hput' hr'
    . cases hr.symm.trans hr'
      exact hput
  . exact h.one
  . exact h.named
  . intro x c hc hup
    refine ⟨(h.up x c hc hup).1, ?_⟩
    intro rid' sent hput'
    rcases hnew rid' _ hput' with hput' | ⟨rfl, heq⟩
    . exact (h.up x c hc hup).2 rid' sent hput'
    . have hout := h.one.idle x ⟨c, hc, hup⟩ rid' r hr
      rw [hopens x sent heq.symm] at hout
      cases hout
  . intro x rid₁ r₁ hr₁ hopens₁ rid' sent hput'
    rcases hnew rid' _ hput' with hput' | ⟨rfl, heq⟩
    . exact h.latest x rid₁ r₁ hr₁ hopens₁ rid' sent hput'
    . exact (h.one.alone x rid₁ rid' r₁ r hr₁ hopens₁ hr (hopens x sent heq.symm)).ge

theorem putOut_eq_some {put : String × Credentials} (h : putOut m' e = some (rid, put))
    : ∃ r, m'.requests[rid]? = some r ∧ r.call.sessionFor? = some put := by
  unfold putOut at h
  split at h
  . obtain ⟨put', hput', heq⟩ := Option.map_eq_some_iff.mp h
    cases heq
    obtain ⟨r, hr, hput'⟩ := Option.bind_eq_some_iff.mp hput'
    split at hput'
    . exact ⟨r, hr, hput'⟩
    . cases hput'
  . cases h

theorem orderly_reply {m : Manager} {names : String → String → Prop} {request : Request} {y : String} {sent : Credentials} (h : OneAtATime m)
    (hrequest : m.requests[rid]? = some request) (hput : request.call.sessionFor? = some (y, sent))
    (hnames : ∀ connectionId, result.session.connectionId = some connectionId → names y connectionId)
    (hstep : m.step sodium (.reply rid result linkOpens) = some m')
    : (∃ connectionId material, result.session.connectionId = some connectionId ∧
        sessionMaterialFrom sodium result.session sent.pairingKey = some material ∧
        Starts y connectionId material { m with requests := m.requests.erase rid } m') ∨
      Orderly names m m' := by
  have hopens := Call.opens_of_sessionFor? hput (h.keyed rid request hrequest)
  have hkeyed := h.keyed rid request hrequest
  obtain ⟨hdown, hnone⟩ := h.answered hrequest hopens
  have hdown : ¬HasSession { m with requests := m.requests.erase rid } y := hdown
  obtain ⟨request', hrequest', _, rfl⟩ := step_reply.mp hstep
  cases hrequest.symm.trans hrequest'
  have herased : Orderly names m { m with requests := m.requests.erase rid } :=
    respected_orderly.eraseRequest m rid
  unfold onReply
  dsimp only
  generalize request.call = call at *
  cases call with
  | putSession id sentOn server intent sent sentDescriptors body =>
    cases hput
    rcases orderly_onSessionReply sentOn server intent sent sentDescriptors result.session _ linkOpens
      hdown hnone hnames rfl with hstarts | horderly
    . exact .inl hstarts
    . exact .inr (herased.trans horderly)
  | rekey => cases hkeyed
  | _ => cases hput

theorem orderly_client {m : Manager} {names : String → String → Prop} (h : OneAtATime m)
    (hin : m.InTurn e) (hclient : isClients m e = true) (hstep : m.step sodium e = some m')
    : Orderly names m m' := by
  cases e with
  | reply rid result linkOpens =>
    obtain ⟨request, hrequest, _, _⟩ := step_reply.mp hstep
    cases hput : request.call.sessionFor? with
    | some put =>
      obtain ⟨y, sent⟩ := put
      have hdead : result.status = 0 := by simpa [isClients, hrequest, hput] using hclient
      have hnone : result.session.connectionId = none := by simp [HttpResult.session, hdead]
      rcases orderly_reply h hrequest hput (by simp [hnone]) hstep with ⟨_, _, hid, _⟩ | horderly
      . cases hnone.symm.trans hid
      . exact horderly
    | none =>
      apply orderly_step h hstep hin
      intro rid' result' linkOpens' request' heq hrequest'
      cases heq
      cases hrequest.symm.trans hrequest'
      cases hcall : request.call <;> simp [hcall, Call.sessionFor?, Call.isSessionPut] at hput ⊢
  | _ =>
    apply orderly_step h hstep hin
    intro _ _ _ _ heq
    cases heq

def Spares (m m' : Manager) : Prop :=
  ∀ (rid : Nat) (r : Request) connectionId, m'.requests[rid]? = some r → m.nextRequest ≤ rid →
    r.call.released? = some connectionId →
    ∀ x c, m'.conn x = some c → c.state = .Live → c.connectionId ≠ some connectionId

theorem Current.spares (h : Current sodium ids w) (hstep : Orderly (IdOf ids) w.manager m')
    : Spares w.manager m' := by
  intro rid r connectionId hr hle hreleased x c hc hlive hid
  have hname := hstep.kept.named_of h.named x c connectionId hc hid
  rcases hstep.releases h.named rid r hr with ⟨r₀, hr₀, _⟩ | hreleases
  . have := h.below rid r₀ hr₀
    omega
  . obtain ⟨y, hname', hdown⟩ := hreleases connectionId hreleased
    cases ids.injective (hname.symm.trans hname')
    exact hdown ⟨c, hc, .inl hlive⟩

theorem Current.client (h : Current sodium ids w) (hin : w.manager.InTurn e)
    (hclient : isClients w.manager e = true) (hstep : w.manager.step sodium e = some m')
    : Current sodium ids (w.client m' e) ∧ Spares w.manager m' := by
  have horderly : Orderly (IdOf ids) w.manager m' := orderly_client h.one hin hclient hstep
  have hfollowed := h.orderly (numbered_step hstep) horderly
  refine ⟨?_, h.spares horderly⟩
  unfold Served.client
  split
  . next rid put hput =>
    obtain ⟨r, hr, hput⟩ := putOut_eq_some hput
    exact hfollowed.write hr hput
  . exact hfollowed

theorem Current.deliver (h : Current sodium ids w) (hresult : w.answers[rid]? = some result)
    (hstep : w.manager.step sodium (.reply rid result linkOpens) = some m')
    : Current sodium ids { w with manager := m' } ∧ Spares w.manager m' := by
  have hnumbered := numbered_step hstep
  obtain ⟨request, hrequest, _, _⟩ := step_reply.mp hstep
  obtain ⟨⟨y, sent⟩, hput⟩ := Option.isSome_iff_exists.mp (h.honest.sent rid result hresult)
  obtain ⟨last, _, _, hgrant⟩ := h.honest.granted rid y sent result hput hresult
  have hnames : ∀ connectionId, result.session.connectionId = some connectionId →
      IdOf ids y connectionId := fun connectionId hid => (hgrant connectionId hid).1
  rcases orderly_reply h.one hrequest (h.recorded rid _ request hput hrequest) hnames hstep with
    ⟨connectionId, material, hid, hmaterial, hstarts⟩ | horderly
  . refine ⟨h.starts hrequest hput hresult hid hmaterial hnumbered hstarts, ?_⟩
    intro rid' r connectionId' hr hle hreleased
    have hadds : Adds (·.isPlain) w.manager m' := (Adds.erase w.manager rid).trans hstarts.adds
    rcases hadds rid' r hr with ⟨r₀, hr₀, _⟩ | hplain
    . have := h.below rid' r₀ hr₀
      omega
    . rw [Call.released?_of_isPlain hplain] at hreleased
      cases hreleased
  . exact ⟨h.orderly hnumbered horderly, h.spares horderly⟩

end Client

theorem Current.step {move : Move} (h : Current sodium ids w)
    (hstep : w.step sodium ids move = some w') (hin : w.InTurn move)
    : Current sodium ids w' ∧ Spares w.manager w'.manager := by
  cases move with
  | client e =>
    obtain ⟨hclient, m', hm', rfl⟩ := step_client.mp hstep
    obtain ⟨hcurrent, hspares⟩ := h.client hin hclient hm'
    refine ⟨hcurrent, ?_⟩
    unfold Served.client
    split
    . exact hspares
    . exact hspares
  | answer rid result =>
    refine ⟨h.answer hstep, ?_⟩
    obtain ⟨_, _, _, _, hmanager, _⟩ := step_answer hstep
    rw [hmanager]
    intro rid' r _ hr hle
    have := h.below rid' r hr
    omega
  | deliver rid linkOpens =>
    obtain ⟨result, m', hresult, hm', rfl⟩ := step_deliver.mp hstep
    exact h.deliver hresult hm'

theorem current_launch (sodium : Sodium) (ids : Ids) (store : Store.ConnectionStore)
    (deviceId deviceName : String)
    : Current sodium ids { manager := launch store deviceId deviceName } := by
  have hconn : ∀ x, (launch store deviceId deviceName).conn x = none := fun _ => by
    simp [launch, conn]
  have hrequests : ∀ rid : Nat, (launch store deviceId deviceName).requests[rid]? = none := fun _ => by
    simp [launch]
  refine ⟨⟨?_, ?_, ?_⟩, ?_, ?_, ?_, ⟨?_, ?_, ?_⟩, ?_, ?_, ?_⟩
  . simp
  . simp
  . simp
  . simp [hrequests]
  . simp
  . simp
  . simp [hrequests]
  . simp [hrequests]
  . rintro x ⟨c, hc, _⟩
    simp [hconn] at hc
  . intro x c _ hc
    simp [hconn] at hc
  . intro x c hc
    simp [hconn] at hc
  . simp [hrequests]

theorem live_is_current (sodium : Sodium) (ids : Ids) (store : Store.ConnectionStore)
    (deviceId deviceName : String) {moves : List Move} {move : Move} {w w' : Served}
    (hrun : Transition.run (Served.step sodium ids) { manager := launch store deviceId deviceName }
      moves = some w)
    (hstep : w.step sodium ids move = some w')
    (hin : Along (Served.step sodium ids) InTurn
      { manager := launch store deviceId deviceName } (moves ++ [move]))
    : (∀ x c, w'.manager.conn x = some c → c.state = .Live → ∃ client, c.client = some client ∧
        w'.session[x]? = some { token := client.token, sessionKey := client.sessionKey }) ∧
      Spares w.manager w'.manager := by
  have hcurrent : Current sodium ids w := by
    refine invariant_of_along ?_ (current_launch sodium ids store deviceId deviceName)
      (along_of_append_left hin) hrun
    intro w move w' h hin hstep
    exact (h.step hstep hin).1
  obtain ⟨hcurrent', hspares⟩ :=
    hcurrent.step hstep (along_of_append_right hrun hin).1
  refine ⟨?_, hspares⟩
  intro x c hc hlive
  obtain ⟨client, hclient⟩ := Option.isSome_iff_exists.mp (c.coherent.up (.inl hlive))
  have hmaterial := (hcurrent'.up x c hc (.inl hlive)).1
  rw [materialOf, hclient] at hmaterial
  exact ⟨client, hclient, hmaterial.symm⟩

section Office

def officeIds : Ids where
  connectionIdOf x := if x = officePc.id then "c1" else "d" ++ x
  injective := by
    intro x y hxy
    dsimp only at hxy
    split at hxy
    . split at hxy
      . simp_all
      . simp [String.ext_iff] at hxy
    . split at hxy
      . simp [String.ext_iff] at hxy
      . simpa [String.ext_iff] using hxy

def grantedRun : List Move :=
  [.client (.connectTo officePc .UserInitiated), .client (.encrypted 0 officeCert),
    .answer 0 officeGrant]

theorem live_is_current_granted
    : ∃ w w' : Served, Transition.run (Served.step officeSodium officeIds)
          { manager := officeLaunch } grantedRun = some w ∧
        w.step officeSodium officeIds (.deliver 0 true) = some w' ∧
        (w'.manager.conn officePc.id).map (·.state) = some .Live ∧
        (∀ x c, w'.manager.conn x = some c → c.state = .Live → ∃ client, c.client = some client ∧
          w'.session[x]? = some { token := client.token, sessionKey := client.sessionKey }) ∧
        Spares w.manager w'.manager := by
  have hany : (Transition.run (Served.step officeSodium officeIds) { manager := officeLaunch }
      grantedRun).any (fun w => true && (w.step officeSodium officeIds (.deliver 0 true)).any
        fun w' => (w'.manager.conn officePc.id).map (·.state) = some .Live) = true := by
    decide +kernel
  obtain ⟨w, w', hrun, _, hstep, hlive⟩ := exists_step_of_any hany
  refine ⟨w, w', hrun, hstep, of_decide_eq_true hlive, ?_⟩
  refine live_is_current officeSodium officeIds officeStore _ _ hrun hstep ?_
  have hfirst : InTurn { manager := officeLaunch } (.client (.connectTo officePc .UserInitiated)) := by
    intro x _
    apply Or.inl
    intro rid r hr
    simp [officeLaunch, launch] at hr
  exact ⟨hfirst, fun _ _ => ⟨fun x h => h.elim, fun _ _ => ⟨trivial, fun _ _ => ⟨trivial, fun _ _ =>
    trivial⟩⟩⟩⟩

def twiceDialledRun : List Move :=
  [.client (.connectTo officePc .UserInitiated), .client (.disconnect officePc.id),
    .client (.connectTo officePc .UserInitiated), .client (.encrypted 0 officeCert),
    .client (.encrypted 1 officeCert), .answer 0 officeGrant,
    .answer 1 (grantOf "05060708" "0001020304050607"), .deliver 0 true]

theorem twice_dialled_released
    : ∃ (w w' : Served) (c : WifiConnection officePc.id),
        Transition.run (Served.step officeSodium officeIds) { manager := officeLaunch }
          twiceDialledRun = some w ∧
        w.manager.conn officePc.id = some c ∧ c.state = .Live ∧
        materialOf c ≠ w.session[officePc.id]? ∧
        w.step officeSodium officeIds (.deliver 1 true) = some w' ∧
        ¬Spares w.manager w'.manager := by
  have hany : (Transition.run (Served.step officeSodium officeIds) { manager := officeLaunch }
      twiceDialledRun).any (fun w =>
        (w.manager.conn officePc.id).any (fun c => decide (c.state = .Live) &&
          decide (materialOf c ≠ w.session[officePc.id]?)) && decide (w.manager.nextRequest = 3) &&
        (w.step officeSodium officeIds (.deliver 1 true)).any fun w' =>
          (w'.manager.conn officePc.id).any (fun c => decide (c.state = .Live) &&
            decide (c.connectionId = some "c1")) &&
          (w'.manager.requests[3]?).any fun r => decide (r.call.released? = some "c1")) = true := by
    decide +kernel
  obtain ⟨w, w', hrun, hw, hstep, hw'⟩ := exists_step_of_any hany
  simp only [Bool.and_eq_true, Option.any_eq_true, decide_eq_true_eq] at hw hw'
  obtain ⟨⟨c, hc, hlive, hstale⟩, hnext⟩ := hw
  obtain ⟨⟨c', hc', hlive', hid⟩, r, hr, hreleased⟩ := hw'
  refine ⟨w, w', c, hrun, hc, hlive, hstale, hstep, ?_⟩
  intro hspares
  exact hspares 3 r "c1" hr hnext.le hreleased officePc.id c' hc' hlive' hid

end Office

end Served

end Satellite
