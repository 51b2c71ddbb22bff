import Mathlib.Data.Finset.Card
import Dish.Manager.Lemmas.Undisturbed
import Dish.Router.Basic

/-!
This module contains which connections have their feedback handlers.
-/

open Std Wire Connection Wifi Transition

namespace Wifi.Manager

variable {sodium : Sodium} {m m' m'' : Manager} {x y : String} {powers : Set Power}

def KeepsObject (x : String) (m m' : Manager) : Prop :=
  ∀ c, m.conn x = some c → ∃ c', m'.conn x = some c' ∧ c'.obj = c.obj

namespace KeepsObject

theorem of_conn (h : m'.conn x = m.conn x) : KeepsObject x m m' := by
  intro c hc
  exact ⟨c, h.trans hc, rfl⟩

theorem trans (h1 : KeepsObject x m m') (h2 : KeepsObject x m' m'') : KeepsObject x m m'' := by
  intro c hc
  obtain ⟨c', hc', hobj'⟩ := h1 c hc
  obtain ⟨c'', hc'', hobj''⟩ := h2 c' hc'
  exact ⟨c'', hc'', hobj''.trans hobj'⟩

end KeepsObject

theorem Develops.obj {c c' : WifiConnection x} (h : Develops powers c c') : c'.obj = c.obj := by
  induction h with
  | note h => apply h.obj
  | markConnecting c => unfold WifiConnection.markConnecting; split <;> rfl
  | markDisconnected c => unfold WifiConnection.markDisconnected; split <;> rfl
  | markStale c => unfold WifiConnection.markStale; split <;> rfl
  | applySteadyState c client =>
    unfold WifiConnection.applySteadyState
    dsimp only
    split <;> rfl
  | observe c o => rfl
  | markConnected c client connectionId epoch granted hlink =>
    unfold WifiConnection.markConnected
    split <;> rfl
  | applyResults c results hconfirm => rfl
  | setConnectionParams c token sessionKey version hrekey => rfl
  | attachSlot c slotId features hslot => unfold WifiConnection.attachSlot; split <;> rfl
  | detachSlot c slotId hslot => unfold WifiConnection.detachSlot; split <;> rfl
  | trans _ _ ih1 ih2 => rw [ih2, ih1]

theorem KeepsObject.of_touches (h : Touches powers y m m') (hdrop : .drop ∉ powers)
    : KeepsObject x m m' := by
  induction h with
  | refl => apply of_conn rfl
  | setConn _ hc hd ih =>
    apply ih.trans
    intro c₀ hc₀
    by_cases hx : x = y
    . subst hx
      rw [hc] at hc₀
      cases hc₀
      exact ⟨_, conn_setConn_self _ _, hd.obj⟩
    . exact ⟨c₀, (conn_setConn_of_ne _ _ hx).trans hc₀, rfl⟩
  | create _ server hnone ih =>
    apply ih.trans
    intro c₀ hc₀
    by_cases hx : x = y
    . subst hx
      rw [hnone] at hc₀
      contradiction
    . exact ⟨c₀, (conn_setConn_of_ne _ _ hx).trans hc₀, rfl⟩
  | takeConnection _ hpower => contradiction
  | _ => assumption

theorem respected_keepsObject (x : String) : Respected {.drop}ᶜ (KeepsObject x) where
  refl := fun _ => .of_conn rfl
  trans := .trans
  touches := fun h => .of_touches h (by simp)
  eraseRequest := fun _ _ => .of_conn rfl
  eraseRetry := fun _ _ => .of_conn rfl
  scanned := fun _ _ => .of_conn rfl
  advance := fun _ _ => .of_conn rfl
  encrypted := by
    intro _ sodium m rid request certDer hrequest
    apply KeepsObject.of_conn
    apply (frame_onEncrypted x m certDer hrequest).conn

theorem obj_of_step {e : Wifi.Event} (hstep : m.step sodium e = some m') {c c' : WifiConnection x}
    (hc : m.conn x = some c) (hc' : m'.conn x = some c')
    : c'.obj = c.obj := by
  have hkeeps : KeepsObject x m m' := by
    by_cases hforget : e = .forget x
    . subst hforget
      cases hstep
      have hgone : (m.forget sodium x).conn x = none := conn_takeConnection_self _ x
      rw [hgone] at hc'
      contradiction
    . cases e with
      | forget id =>
        have hx : x ≠ id := by
          rintro rfl
          exact hforget rfl
        cases hstep
        apply KeepsObject.of_conn
        apply (((Touches.start Set.univ id m).forget trivial trivial trivial trivial).frame hx).conn
      | _ =>
        apply (respected_keepsObject x).step hstep
        rintro p hneeds rfl
        exact hneeds
  obtain ⟨c'', hc'', hobj⟩ := hkeeps c hc
  cases hc'.symm.trans hc''
  exact hobj

end Wifi.Manager

namespace Router

open Wifi.Manager (officePc officeLaunch officeSodium obj_of_step)

variable {sodium : Sodium} {a a' : AppModel} {id : String}

structure Tabled (a : AppModel) : Prop where
  wired : ∀ id, id ∈ a.rumbleWiredConnections ↔ id ∈ a.sessionParticipants
  size : a.sessionParticipants.size = a.rumbleWiredConnections.card
  bounded : ∀ {id : String} {p : Nat}, a.sessionParticipants[id]? = some p →
    p < kDeviceParticipants + a.sessionParticipants.size
  distinct : ∀ {id id' : String} {p : Nat}, a.sessionParticipants[id]? = some p →
    a.sessionParticipants[id']? = some p → id = id'

def Served (a : AppModel) (id : String) (obj : Nat) : Prop :=
  ∃ p, a.sessionParticipants[id]? = some p ∧ a.handlers id obj = .installed p id

theorem tabled_installFeedbackHandlers (h : Tabled a) (hid : id ∉ a.rumbleWiredConnections) (obj : Nat)
    (hroom : a.rumbleWiredConnections.card < kSessionParticipants)
    : let wired := (a.markWired id).installFeedbackHandlers id obj
      Tabled wired ∧ wired.rumbleWiredConnections = insert id a.rumbleWiredConnections ∧
        Served wired id obj ∧ ∀ id' obj', id' ≠ id → Served a id' obj' → Served wired id' obj' := by
  have hnew : ¬id ∈ a.sessionParticipants := by
    rw [← h.wired]
    exact hid
  have hnone : a.sessionParticipants[id]? = none := TreeMap.getElem?_eq_none hnew
  have hsize : (a.sessionParticipants.insert id
      (kDeviceParticipants + a.sessionParticipants.size)).size = a.sessionParticipants.size + 1 := by
    simp [TreeMap.size_insert, hnew]
  have hread (id' : String) : (a.sessionParticipants.insert id
      (kDeviceParticipants + a.sessionParticipants.size))[id']? =
        if id = id' then some (kDeviceParticipants + a.sessionParticipants.size)
        else a.sessionParticipants[id']? := by
    simp [TreeMap.getElem?_insert]
  unfold AppModel.installFeedbackHandlers AppModel.setHandlers AppModel.markWired
  simp only [hnone]
  rw [if_neg (by rw [h.size]; omega)]
  refine ⟨?_, rfl, ?_, ?_⟩
  . constructor
    case wired =>
      intro id'
      simp [TreeMap.mem_insert, h.wired, eq_comm (b := id')]
    case size => exact hsize.trans (by rw [Finset.card_insert_of_notMem hid, h.size])
    case bounded =>
      intro id' p hp
      simp only [hread] at hp
      simp only [hsize]
      split at hp
      . cases hp
        omega
      . have := h.bounded hp
        omega
    case distinct =>
      intro id₁ id₂ p h₁ h₂
      simp only [hread] at h₁ h₂
      split at h₁
      . next heq₁ =>
        split at h₂
        . next heq₂ => rw [← heq₁, heq₂]
        . have := h.bounded h₂
          cases h₁
          omega
      . split at h₂
        . have := h.bounded h₁
          cases h₂
          omega
        . apply h.distinct h₁ h₂
  . refine ⟨kDeviceParticipants + a.sessionParticipants.size, ?_, ?_⟩
    . simp
    . simp
  . rintro id' obj' hne ⟨p, hp, hinstalled⟩
    refine ⟨p, ?_, ?_⟩
    . simp [hread, Ne.symm hne, hp]
    . simp [hne, hinstalled]

structure Wired (a : AppModel) : Prop where
  tabled : Tabled a
  served : ∀ {id : String} {c : WifiConnection id}, a.wifi.conn id = some c →
    id ∈ a.rumbleWiredConnections → Served a id c.obj

theorem wifi_installFeedbackHandlers (a : AppModel) (id : String) (obj : Nat)
    : (a.installFeedbackHandlers id obj).wifi = a.wifi := by
  unfold AppModel.installFeedbackHandlers
  split
  . rfl
  . split
    . rfl
    . rfl

theorem wifi_wire (a : AppModel) (id : String) : (a.wire id).wifi = a.wifi := by
  unfold AppModel.wire
  split
  . rfl
  . split
    . rfl
    . rw [wifi_installFeedbackHandlers]
      rfl

theorem Wired.wire (h : Wired a) {ids : Finset String} (hwired : a.rumbleWiredConnections ⊆ ids)
    (hid : id ∈ ids) (hroom : ids.card ≤ kSessionParticipants)
    : Wired (a.wire id) ∧ (a.wire id).rumbleWiredConnections ⊆ ids ∧
        a.rumbleWiredConnections ⊆ (a.wire id).rumbleWiredConnections ∧
        ((a.wifi.conn id).isSome → id ∈ (a.wire id).rumbleWiredConnections) := by
  have hwifi := wifi_wire a id
  unfold AppModel.wire at hwifi ⊢
  cases hc : a.wifi.conn id with
  | none => exact ⟨h, hwired, subset_rfl, by simp⟩
  | some c =>
    simp only [hc] at hwifi ⊢
    split
    . next hmem => exact ⟨h, hwired, subset_rfl, fun _ => hmem⟩
    . next hnew =>
      rw [if_neg hnew] at hwifi
      have hcard : a.rumbleWiredConnections.card < kSessionParticipants := by
        have hlt : a.rumbleWiredConnections ⊂ ids :=
          Finset.ssubset_iff_subset_ne.mpr ⟨hwired, fun heq => hnew (heq ▸ hid)⟩
        have := Finset.card_lt_card hlt
        omega
      obtain ⟨htabled, hset, hserved, hothers⟩ :=
        tabled_installFeedbackHandlers h.tabled hnew c.obj hcard
      rw [hset]
      refine ⟨⟨htabled, ?_⟩, ?_, ?_, ?_⟩
      . intro x c' hc' hx
        rw [hwifi] at hc'
        by_cases heq : x = id
        . subst heq
          rw [hc] at hc'
          cases hc'
          exact hserved
        . rw [hset, Finset.mem_insert] at hx
          apply hothers x c'.obj heq
          apply h.served hc' (hx.resolve_left heq)
      . exact Finset.insert_subset hid hwired
      . apply Finset.subset_insert
      . intro _
        apply Finset.mem_insert_self

theorem Wired.installRumbleHandlers (h : Wired a) {ids : Finset String}
    (hwired : a.rumbleWiredConnections ⊆ ids) {order : List String} (horder : ∀ id ∈ order, id ∈ ids)
    (hroom : ids.card ≤ kSessionParticipants)
    : Wired (a.installRumbleHandlers order) ∧ (a.installRumbleHandlers order).wifi = a.wifi ∧
        a.rumbleWiredConnections ⊆ (a.installRumbleHandlers order).rumbleWiredConnections ∧
        ∀ id ∈ order, (a.wifi.conn id).isSome →
          id ∈ (a.installRumbleHandlers order).rumbleWiredConnections := by
  induction order generalizing a with
  | nil => exact ⟨h, rfl, subset_rfl, by simp⟩
  | cons id order ih =>
    obtain ⟨hone, hsub, hkept, hmem⟩ := h.wire hwired (horder id (by simp)) hroom
    obtain ⟨hall, hwifi, hkept', hmem'⟩ := ih hone hsub (fun id hid => horder id (by simp [hid]))
    rw [wifi_wire] at hwifi hmem'
    refine ⟨hall, hwifi, hkept.trans hkept', ?_⟩
    intro id' hid' hsome
    obtain rfl | hid' := List.mem_cons.mp hid'
    . apply hkept' (hmem hsome)
    . apply hmem' id' hid' hsome

def idsSeen (a : AppModel) (m : Manager) : Finset String :=
  a.rumbleWiredConnections ∪ m.connections.keys.toFinset

/-- No connection goes to an id that was wired before and has none. -/
def WiresOnce (sodium : Sodium) (a : AppModel) (e : Event) : Prop :=
  ∀ m' ∈ a.wifi.step sodium e.happened,
    (∀ id ∈ a.rumbleWiredConnections, (a.wifi.conn id).isNone → (m'.conn id).isNone) ∧
      (idsSeen a m').card ≤ kSessionParticipants

theorem mem_keys_iff {m : Manager} : id ∈ m.connections.keys ↔ (m.conn id).isSome := by
  rw [DTreeMap.mem_keys, Manager.conn, ← DTreeMap.mem_iff_isSome_get?]

structure AllWired (a : AppModel) : Prop extends Wired a where
  all : ∀ {id : String} {c : WifiConnection id}, a.wifi.conn id = some c →
    id ∈ a.rumbleWiredConnections

theorem AllWired.step {e : Event} (h : AllWired a) (honce : WiresOnce sodium a e)
    (hstep : a.step sodium e = some a')
    : AllWired a' := by
  simp only [AppModel.step, Option.bind_eq_bind, Option.bind_eq_some_iff] at hstep
  obtain ⟨m', hm', hstep⟩ := hstep
  split at hstep
  case isFalse => contradiction
  case isTrue hperm =>
    cases hstep
    obtain ⟨hnew, hroom⟩ := honce m' hm'
    have hmem (id : String) : id ∈ e.order ↔ (m'.conn id).isSome := by
      rw [(List.isPerm_iff.mp hperm).mem_iff]
      apply mem_keys_iff
    have hbefore : Wired { a with wifi := m' } := by
      refine ⟨⟨h.tabled.wired, h.tabled.size, h.tabled.bounded, h.tabled.distinct⟩, ?_⟩
      intro id c' hc' hid
      cases hc : a.wifi.conn id with
      | none =>
        have := hnew id hid (by simp [hc])
        rw [hc'] at this
        contradiction
      | some c =>
        rw [obj_of_step hm' hc hc']
        apply h.served hc hid
    have hseen : ∀ id ∈ e.order, id ∈ idsSeen a m' := by
      intro id hid
      apply Finset.mem_union_right
      rw [List.mem_toFinset, mem_keys_iff]
      apply (hmem id).mp hid
    obtain ⟨hwired, hwifi, _, hcovers⟩ :=
      hbefore.installRumbleHandlers Finset.subset_union_left hseen hroom
    refine ⟨hwired, ?_⟩
    intro id c hc
    rw [hwifi] at hc
    apply hcovers id ((hmem id).mpr _)
    . simp [hc]
    . simp [hc]

instance (sodium : Sodium) (a : AppModel) (e : Event) : Decidable (WiresOnce sodium a e) := by
  unfold WiresOnce
  infer_instance

theorem handlers_installed (sodium : Sodium) (store : Store.ConnectionStore)
    (deviceId deviceName : String) (es : List Event) (a : AppModel)
    (honce : Along (AppModel.step sodium) (WiresOnce sodium)
      { wifi := Manager.launch store deviceId deviceName } es)
    (hrun : Transition.run (AppModel.step sodium)
      { wifi := Manager.launch store deviceId deviceName } es = some a)
    (id : String) (c : WifiConnection id) (hc : a.wifi.conn id = some c)
    : ∃ p, a.handlers id c.obj = .installed p id ∧
        ∀ (id' : String) (c' : WifiConnection id') (p' : Nat), a.wifi.conn id' = some c' →
          a.handlers id' c'.obj = .installed p' id' → id' ≠ id → p' ≠ p := by
  have hall : AllWired a := by
    apply invariant_of_along _ _ honce hrun
    . intro a e a' h honce hstep
      apply h.step honce hstep
    . refine ⟨⟨⟨?_, rfl, ?_, ?_⟩, ?_⟩, ?_⟩
      . simp
      . simp
      . simp
      . simp
      . intro id c hc
        simp [Manager.launch, Manager.conn] at hc
  obtain ⟨p, hp, hinstalled⟩ := hall.served hc (hall.all hc)
  refine ⟨p, hinstalled, ?_⟩
  rintro id' c' p' hc' hinstalled' hne rfl
  obtain ⟨p'', hp'', hinstalled''⟩ := hall.served hc' (hall.all hc')
  have hsame : p'' = p' := by
    rw [hinstalled'] at hinstalled''
    simpa [Handlers.installed] using hinstalled''.symm
  rw [hsame] at hp''
  exact hne (hall.tabled.distinct hp'' hp)

def officeApp : AppModel where
  wifi := officeLaunch

def handlersOf (a : AppModel) (id : String) : Option Handlers :=
  (a.wifi.conn id).map fun c => a.handlers id c.obj

def dialOffice : Event where
  happened := .connectTo officePc .UserInitiated
  order := [officePc.id]

theorem handlers_installed_office
    : ∃ a c, Transition.run (AppModel.step officeSodium) officeApp [dialOffice] = some a ∧
        a.wifi.conn officePc.id = some c ∧ handlersOf a officePc.id = some (.installed 64 officePc.id) ∧
        ∃ p, a.handlers officePc.id c.obj = .installed p officePc.id ∧
          ∀ (id' : String) (c' : WifiConnection id') (p' : Nat), a.wifi.conn id' = some c' →
            a.handlers id' c'.obj = .installed p' id' → id' ≠ officePc.id → p' ≠ p := by
  obtain ⟨a, hrun, hhandlers⟩ := Option.map_eq_some_iff.mp
    (show (Transition.run (AppModel.step officeSodium) officeApp [dialOffice]).map
      (handlersOf · officePc.id) = some (some (.installed 64 officePc.id)) by decide)
  obtain ⟨c, hc, _⟩ := Option.map_eq_some_iff.mp hhandlers
  refine ⟨a, c, hrun, hc, hhandlers, ?_⟩
  exact handlers_installed officeSodium Manager.officeStore "0f1e2d3c4b5a69788796a5b4c3d2e1f0" "dish"
    [dialOffice] a (by decide) hrun officePc.id c hc

theorem forgotten_satellite_unwired
    : (Transition.run (AppModel.step officeSodium) officeApp
          [dialOffice, { happened := .forget officePc.id, order := [] }, dialOffice]).map
        (handlersOf · officePc.id) = some (some {}) := by
  decide

end Router
