import Dish.Manager.Lemmas.Attempts

/-!
This module contains the steps of the manager that send no request out of turn.
-/

open Std Models Reducer Wire Store Connection

namespace Wifi

variable {call : Call}

def Call.isRekey : Call → Bool
  | .rekey .. => true
  | _ => false

def Call.released? : Call → Option String
  | .deleteSession connectionId _ => some connectionId
  | _ => none

def Call.isPlain : Call → Bool
  | .pinPair .. | .connectPair .. | .putSession .. | .deleteSession .. | .rekey .. => false
  | _ => true

theorem Call.isRekey_of_isPlain (h : call.isPlain) : call.isRekey = false := by
  cases call <;> first | rfl | cases h

theorem Call.opens_of_isPlain (h : call.isPlain) (x : String) : call.opens x = false := by
  cases call <;> first | rfl | cases h

theorem Call.released?_of_isPlain (h : call.isPlain) : call.released? = none := by
  cases call <;> first | rfl | cases h

theorem Call.id?_of_opens {x : String} (h : call.opens x) : call.id? = some x := by
  cases call <;> simp_all [Call.opens, Call.id?]

namespace Manager

variable {sodium : Sodium} {m m' m'' : Manager} {x y : String} {powers : Set Power}

section Fits

variable (h : Fits powers y m m' call) (hastray : .astray ∉ powers)
include h hastray

theorem Fits.opens (hid : ∀ id, call.id? = some id → id = y) (hx : call.opens x)
    : ¬m'.HasSession x ∧ m'.NoneOut x := by
  obtain rfl := hid x (Call.id?_of_opens hx)
  cases call <;> first | exact h.2.resolve_left hastray | cases hx

theorem Fits.isRekey : call.isRekey = false := by
  cases call <;> first | rfl | contradiction

theorem Fits.released (hlink : .link ∉ powers) (hrekey : .rekey ∉ powers) {connectionId : String}
    (hreleased : call.released? = some connectionId)
    : ¬m'.HasSession y ∧ ∃ c, m.conn y = some c ∧ c.connectionId = some connectionId := by
  cases call with
  | deleteSession =>
    cases hreleased
    exact ((h.2.resolve_left hastray).resolve_left hlink).resolve_left hrekey
  | _ => cases hreleased

theorem Fits.isPlain (hopen : .open ∉ powers) (hclose : .close ∉ powers) : call.isPlain := by
  cases call <;> first | rfl | exact absurd h hastray | exact absurd h.1 hopen | exact absurd h.1 hclose

end Fits

theorem Touches.plain (h : Touches powers y m m') (hopen : .open ∉ powers) (hclose : .close ∉ powers)
    (hastray : .astray ∉ powers)
    : Adds (·.isPlain) m m' := by
  induction h with
  | refl => apply Adds.refl
  | send _ host port call _ hfits ih =>
    exact ih.send host port (hfits.isPlain hastray hopen hclose)
  | _ => assumption

structure OneAtATime (m : Manager) : Prop where
  keyed : ∀ (rid : Nat) (r : Request), m.requests[rid]? = some r → r.call.isRekey = false
  alone : ∀ x (rid rid' : Nat) (r r' : Request), m.requests[rid]? = some r → r.call.opens x →
    m.requests[rid']? = some r' → r'.call.opens x → rid = rid'
  idle : ∀ x, m.HasSession x → m.NoneOut x

theorem noneOut_erase (hnone : m.NoneOut x) (rid : Nat)
    : NoneOut { m with requests := m.requests.erase rid } x := by
  intro rid' r hr
  rw [TreeMap.getElem?_erase] at hr
  split at hr
  . cases hr
  . exact hnone rid' r hr

namespace OneAtATime

theorem answered (h : OneAtATime m) {rid : Nat}
    (hrequest : m.requests[rid]? = some request) (hopens : request.call.opens x)
    : ¬m.HasSession x ∧ NoneOut { m with requests := m.requests.erase rid } x := by
  constructor
  . intro hup
    rw [h.idle x hup rid request hrequest] at hopens
    cases hopens
  . intro rid' r hr
    rw [TreeMap.getElem?_erase] at hr
    split at hr
    next => cases hr
    next hne =>
      by_contra hopens'
      rw [Bool.not_eq_false] at hopens'
      apply hne
      exact Std.compare_eq_iff_eq.mpr (h.alone x rid rid' request r hrequest hopens hr hopens')

theorem plain (h : OneAtATime m) (hadds : Adds (·.isPlain) m m')
    (hidle : ∀ x, m'.HasSession x → m.NoneOut x)
    : OneAtATime m' := by
  have hold : ∀ (rid : Nat) (r : Request) x, m'.requests[rid]? = some r → r.call.opens x →
      ∃ r₀, m.requests[rid]? = some r₀ ∧ r₀.call = r.call := by
    intro rid r x hr hopens
    rcases hadds rid r hr with hold | hplain
    . exact hold
    . rw [Call.opens_of_isPlain hplain] at hopens
      cases hopens
  constructor
  . intro rid r hr
    rcases hadds rid r hr with ⟨r₀, hr₀, hcall⟩ | hplain
    . rw [← hcall]
      exact h.keyed rid r₀ hr₀
    . exact Call.isRekey_of_isPlain hplain
  . intro x rid rid' r r' hr hopens hr' hopens'
    obtain ⟨r₀, hr₀, hcall⟩ := hold rid r x hr hopens
    obtain ⟨r₀', hr₀', hcall'⟩ := hold rid' r' x hr' hopens'
    rw [← hcall] at hopens
    rw [← hcall'] at hopens'
    exact h.alone x rid rid' r₀ r₀' hr₀ hopens hr₀' hopens'
  . intro x hup rid r hr
    by_contra hopens
    rw [Bool.not_eq_false] at hopens
    obtain ⟨r₀, hr₀, hcall⟩ := hold rid r x hr hopens
    rw [← hcall, hidle x hup rid r₀ hr₀] at hopens
    cases hopens

theorem send (h : OneAtATime m) (host : String) (port : Int) (hkeyed : call.isRekey = false)
    (hopens : ∀ x, call.opens x → ¬m.HasSession x ∧ m.NoneOut x)
    : OneAtATime (m.send host port call) := by
  have hcases : ∀ (rid : Nat) (r : Request), (m.send host port call).requests[rid]? = some r →
      rid = m.nextRequest ∧ r.call = call ∨ m.requests[rid]? = some r := by
    intro rid r hr
    simp only [Manager.send, TreeMap.getElem?_insert] at hr
    split at hr
    next heq =>
      cases hr
      exact .inl ⟨(Std.compare_eq_iff_eq.mp heq).symm, rfl⟩
    next => exact .inr hr
  constructor
  . intro rid r hr
    rcases hcases rid r hr with ⟨_, hcall⟩ | hr
    . rw [hcall]
      exact hkeyed
    . exact h.keyed rid r hr
  . intro x rid rid' r r' hr hx hr' hx'
    have hnot : call.opens x → ∀ (rid : Nat) (r : Request), m.requests[rid]? = some r →
        ¬r.call.opens x := by
      intro hcall rid r hr
      simp [(hopens x hcall).2 rid r hr]
    rcases hcases rid r hr with ⟨hrid, hcall⟩ | hr
    . rcases hcases rid' r' hr' with ⟨hrid', _⟩ | hr'
      . rw [hrid, hrid']
      . exact absurd hx' (hnot (hcall ▸ hx) rid' r' hr')
    . rcases hcases rid' r' hr' with ⟨_, hcall'⟩ | hr'
      . exact absurd hx (hnot (hcall' ▸ hx') rid r hr)
      . exact h.alone x rid rid' r r' hr hx hr' hx'
  . intro x hup rid r hr
    rcases hcases rid r hr with ⟨_, hcall⟩ | hr
    . rw [hcall]
      by_contra hx
      exact (hopens x (by simpa using hx)).1 hup
    . exact h.idle x hup rid r hr

end OneAtATime

def Named (names : String → String → Prop) (m : Manager) : Prop :=
  ∀ x c connectionId, m.conn x = some c → c.connectionId = some connectionId → names x connectionId

def Releases (names : String → String → Prop) (m : Manager) (call : Call) : Prop :=
  ∀ connectionId, call.released? = some connectionId → ∃ x, names x connectionId ∧ ¬m.HasSession x

structure Orderly (names : String → String → Prop) (m m' : Manager) : Prop where
  kept : Kept m m'
  one : OneAtATime m → OneAtATime m'
  releases : Named names m → Adds (Releases names m') m m'

variable {names : String → String → Prop}

theorem Kept.named_of (h : Kept m m') (hnamed : Named names m) : Named names m' := by
  intro x c' connectionId hc' hid
  obtain ⟨c, hc, hid⟩ := h.named x c' connectionId hc' hid
  exact hnamed x c connectionId hc hid

namespace Orderly

theorem of_plain (hkept : Kept m m') (hadds : Adds (·.isPlain) m m') : Orderly names m m' where
  kept := hkept
  one := fun h => h.plain hadds fun x hup =>
    h.idle x (not_not.mp fun hdown => hkept.no_session hdown hup)
  releases := by
    intro _
    apply hadds.mono
    intro call hplain connectionId hreleased
    rw [Call.released?_of_isPlain hplain] at hreleased
    cases hreleased

theorem trans (h : Orderly names m m') (h' : Orderly names m' m'') : Orderly names m m'' where
  kept := h.kept.trans h'.kept
  one := fun hone => h'.one (h.one hone)
  releases := by
    intro hnamed
    apply Adds.trans _ (h'.releases (h.kept.named_of hnamed))
    apply (h.releases hnamed).mono
    intro call hcall connectionId hreleased
    obtain ⟨x, hname, hdown⟩ := hcall connectionId hreleased
    exact ⟨x, hname, h'.kept.no_session hdown⟩

theorem release (host : String) (port : Int) {connectionId : String} (proof : String)
    (hname : names x connectionId) (hdown : ¬m.HasSession x)
    : Orderly names m (m.send host port (.deleteSession connectionId proof)) where
  kept := .of_conn fun _ => rfl
  one := fun h => h.send host port rfl fun _ hopens => by cases hopens
  releases := by
    intro _
    apply (Adds.refl m).send
    intro _ hreleased
    cases hreleased
    exact ⟨x, hname, hdown⟩

end Orderly

theorem Touches.orderly (h : Touches powers y m m') (hastray : .astray ∉ powers)
    (hlink : .link ∉ powers) (hrekey : .rekey ∉ powers)
    : Orderly names m m' := by
  induction h with
  | refl => exact .of_plain (.refl m) (.refl m)
  | send _ host port call hid hfits ih =>
    refine ⟨ih.kept.trans (.of_conn fun _ => rfl), ?_, ?_⟩
    . intro hone
      exact (ih.one hone).send host port (hfits.isRekey hastray) fun _ => hfits.opens hastray hid
    . intro hnamed
      apply Adds.send (ih.releases hnamed)
      intro connectionId hreleased
      obtain ⟨hdown, c, hc, hfiled⟩ := hfits.released hastray hlink hrekey hreleased
      exact ⟨y, hnamed y c connectionId hc hfiled, hdown⟩
  | setConn _ hc hd ih =>
    exact ih.trans (.of_plain (kept_setConn hc (hd.keptConn hlink hrekey)) (.of_requests rfl))
  | create _ server hc ih => exact ih.trans (.of_plain (kept_create _ server) (.of_requests rfl))
  | takeConnection _ _ ih => exact ih.trans (.of_plain (kept_takeConnection _ y) (.of_requests rfl))
  | nextClient => contradiction
  | _ =>
    rename_i ih
    exact ih.trans (.of_plain (.of_conn fun _ => rfl) (.of_requests rfl))

theorem respected_orderly : Respected {.astray, .link, .rekey}ᶜ (Orderly names) where
  refl := fun m => .of_plain (.refl m) (.refl m)
  trans := Orderly.trans
  touches := fun h => h.orderly (by simp) (by simp) (by simp)
  eraseRequest := fun m rid => .of_plain (.of_conn fun _ => rfl) (.erase m rid)
  eraseRetry := fun _ _ => .of_plain (.of_conn fun _ => rfl) (.of_requests rfl)
  scanned := fun _ _ => .of_plain (.of_conn fun _ => rfl) (.of_requests rfl)
  advance := fun _ _ => .of_plain (.of_conn fun _ => rfl) (.of_requests rfl)
  encrypted := fun _ _ m rid request certDer hrequest =>
    .of_plain (.of_conn fun x => (frame_onEncrypted x m certDer hrequest).conn)
      (adds_onEncrypted certDer hrequest)

theorem Frame.noneOut (h : Frame x m m') (hnone : m.NoneOut x) : m'.NoneOut x := by
  intro rid r hr
  by_contra hopens
  rw [Bool.not_eq_false] at hopens
  obtain ⟨r₀, hr₀, hcall⟩ := h.requests rid r hr (Call.id?_of_opens hopens)
  rw [← hcall, hnone rid r₀ hr₀] at hopens
  cases hopens

theorem orderly_reconnect {r : RememberedWifi} (hid : r.toDiscovered.id = r.id)
    (h : refusesHost r.toDiscovered = false → r.id ∉ m.userDisconnected →
      m.NoneOut r.id ∨ m.Linking r.id)
    : Orderly names m (m.reconnect sodium r) := by
  have hconnect : Orderly names m (m.connectTo sodium r.toDiscovered .AutoReconnect) := by
    apply respected_orderly.touches (y := r.id)
    apply Touches.refl.connectTo ⟨r.toDiscovered, hid⟩ .AutoReconnect (by simp) (by simp) (by simp)
    intro hhost hheld
    apply mayDial (by simp)
    intro hturn
    refine absurd (h hhost ?_) hturn
    simpa [heldByUser] using hheld
  unfold reconnect
  split
  . exact hconnect
  . split
    . exact respected_orderly.refl m
    . exact hconnect

theorem orderly_reconnects {rows : List RememberedWifi}
    (hids : ∀ r ∈ rows, r.toDiscovered.id = r.id) (hnodup : (rows.map (·.id)).Nodup)
    (h : ∀ r ∈ rows, refusesHost r.toDiscovered = false → r.id ∉ m.userDisconnected →
      m.NoneOut r.id ∨ m.Linking r.id)
    : Orderly names m (rows.foldl (reconnect sodium) m) := by
  induction rows generalizing m with
  | nil => exact respected_orderly.refl m
  | cons r rows ih =>
    rw [List.map_cons, List.nodup_cons] at hnodup
    rw [List.foldl_cons]
    apply (orderly_reconnect (hids r (by simp)) (h r (by simp))).trans
    refine ih (fun r' hr' => hids r' (by simp [hr'])) hnodup.2 ?_
    -- the row that was dialled before is another satellite's
    intro r' hr' hhost hheld
    have hne : r.id ≠ r'.id := fun heq => hnodup.1 (heq ▸ List.mem_map_of_mem hr')
    have hframe : Frame r'.id m (m.reconnect sodium r) := frame_reconnect (hids r (by simp)) hne
    rw [hframe.held] at hheld
    rcases h r' (by simp [hr']) hhost hheld with hnone | ⟨c, hc, hstate⟩
    . exact .inl (hframe.noneOut hnone)
    . exact .inr ⟨c, hframe.conn.trans hc, hstate⟩

theorem orderly_autoReconnectAll
    (h : ∀ x, Redials m m.store.remembered x → m.NoneOut x ∨ m.Linking x)
    : Orderly names m (m.autoReconnectAll sodium) := by
  apply orderly_reconnects (fun r => ConnectionStore.id_toDiscovered_of_mem)
    (nodup_remembered m.store)
  exact fun r hr hhost hheld => h r.id ⟨hheld, r, hr, rfl, hhost⟩

end Manager

end Wifi
