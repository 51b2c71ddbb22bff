import Dish.Lib.Transition
import Dish.Store.Lemmas

/-!
This module contains what happens to the trust in a satellite when rows are re-pointed.
-/

open Std Models Transition

namespace Store

namespace ConnectionStore

inductive Call where
  | rememberSatellite (server : DiscoveredServer)
  | refreshFromDiscovery (discovered : List DiscoveredServer)
  deriving DecidableEq

def Call.servers : Call → List DiscoveredServer
  | .rememberSatellite server => [server]
  | .refreshFromDiscovery discovered => discovered

def call (store : ConnectionStore) : Call → ConnectionStore
  | .rememberSatellite server => store.rememberSatellite server
  | .refreshFromDiscovery discovered => store.refreshFromDiscovery discovered

def eligible (store : ConnectionStore) (discovered : List DiscoveredServer) : List DiscoveredServer :=
  discovered.filter fun s => !isBlank s.machineId && isEligible store.remembered s

def movesFrom (store : ConnectionStore) (server : DiscoveredServer) : Option String :=
  if isBlank server.machineId && store.remembered.any (isStableAt server) then none
  else (store.satellites[server.id]?).bind fun row => if row.ip = server.ip then none else some row.ip

def LeavesAlone (store : ConnectionStore) (server : DiscoveredServer) : Prop :=
  ∀ old ∈ store.movesFrom server, (store.pinnedFingerprint old).isSome →
    ∀ row ∈ store.remembered, row.ip = old → row.id = server.id

def JoinsNobody (store : ConnectionStore) (server : DiscoveredServer) : Prop :=
  (store.movesFrom server).isSome →
    ∀ row ∈ store.remembered, row.ip = server.ip → isBlank row.machineId = true

def Undisplaced (store : ConnectionStore) : Call → Prop
  | .rememberSatellite server => store.LeavesAlone server
  | .refreshFromDiscovery discovered =>
    ((store.eligible discovered).map (·.id)).Nodup ∧
      Along (fun store server => some (store.rememberSatellite server))
        (fun store server => store.LeavesAlone server ∧ store.JoinsNobody server) store
        (store.eligible discovered)

def FoldedInto (before after : ConnectionStore) (servers : List DiscoveredServer) (x : String)
    (server : DiscoveredServer) : Prop :=
  isBlank server.machineId = false ∧
    (∃ row ∈ before.remembered, row.id = x ∧ isLegacyAt server row = true) ∧
    ∃ key, after.sharedKey server.id = some key ∧
      (before.sharedKey server.id = some key ∨
        before.sharedKey server.id = none ∧ ∃ server' ∈ servers, server'.id = server.id ∧
          ∃ ghost ∈ before.remembered, isLegacyAt server' ghost = true ∧
            before.sharedKey ghost.id = some key)

structure TrustKept (before after : ConnectionStore) (servers : List DiscoveredServer) : Prop where
  pins : ∀ (x : String) (row row' : RememberedWifi) (fingerprint : String),
    before.satellites[x]? = some row → after.satellites[x]? = some row' →
    before.pinnedFingerprint row.ip = some fingerprint →
    ∃ fingerprint', after.pinnedFingerprint row'.ip = some fingerprint' ∧
      (fingerprint' = fingerprint ∨ before.pinnedFingerprint row'.ip = some fingerprint')
  keys : ∀ x key, before.sharedKey x = some key →
    after.sharedKey x = some key ∨ ∃ server ∈ servers, FoldedInto before after servers x server

section

variable {store before now : ConnectionStore} {server : DiscoveredServer} {x host : String}
  {row row' : RememberedWifi}

theorem pinnedFingerprint_ne {fingerprint : String} (h : store.pinnedFingerprint host = some fingerprint)
    : fingerprint ≠ "" := by
  simp only [pinnedFingerprint, Option.filter_eq_some_iff, decide_eq_true_eq] at h
  exact h.2

theorem pinnedFingerprint_pin (store : ConnectionStore) (host' : String) {fingerprint : String}
    (h : fingerprint ≠ "")
    : (store.pin host' fingerprint).pinnedFingerprint host =
      if host = host' then some fingerprint else store.pinnedFingerprint host := by
  unfold pinnedFingerprint pin
  rw [TreeMap.getElem?_insert]
  by_cases hhost : host = host'
  . simp [hhost, h]
  . simp [hhost, Ne.symm hhost]

theorem pinnedFingerprint_forgetPin (store : ConnectionStore) (host' : String)
    : (store.forgetPin host').pinnedFingerprint host =
      if host = host' then none else store.pinnedFingerprint host := by
  unfold pinnedFingerprint forgetPin
  rw [TreeMap.getElem?_erase]
  by_cases hhost : host = host'
  . simp [hhost]
  . simp [hhost, Ne.symm hhost]

theorem pinnedFingerprint_migrate (store : ConnectionStore) {old new : String} (h : old ≠ new)
    : (store.migratePinOnAddressChange (some old) new).pinnedFingerprint host =
      if host = old then none
      else if host = new then (store.pinnedFingerprint new).or (store.pinnedFingerprint old)
      else store.pinnedFingerprint host := by
  dsimp only [migratePinOnAddressChange]
  rw [if_neg h, pinnedFingerprint_forgetPin]
  split
  . rfl
  . cases hnew : store.pinnedFingerprint new with
    | some fingerprint =>
      simp only [Option.isNone_some, Bool.false_eq_true, if_false, Option.some_or]
      split
      next hhost => rw [hhost, hnew]
      . rfl
    | none =>
      simp only [Option.isNone_none, if_true, Option.none_or]
      split
      next fingerprint hold => rw [pinnedFingerprint_pin _ _ (pinnedFingerprint_ne hold), hold]
      next hold =>
        rw [hold]
        split
        next hhost => rw [hhost, hnew]
        . rfl

def folded (store : ConnectionStore) (server : DiscoveredServer) : ConnectionStore :=
  if isBlank server.machineId then store else store.collapseLegacyGhosts server server.id

theorem ne_of_legacy (hrow : row ∈ store.remembered) (hblank : isBlank row.machineId = true)
    (hstable : isBlank server.machineId = false)
    : server.id ≠ row.id := by
  have hne : server.machineId ≠ "" := by
    intro hempty
    simp [hempty, isBlank] at hstable
  rw [← id_toDiscovered_of_mem hrow]
  unfold DiscoveredServer.id RememberedWifi.toDiscovered
  rw [if_pos hne]
  split
  . intro heq
    have hchars := congrArg String.toList heq
    simp only [String.toList_append, List.append_cancel_left_eq] at hchars
    unfold isBlank at hblank hstable
    rw [hchars, hblank] at hstable
    contradiction
  . intro heq
    have hchars := congrArg String.toList heq
    simp at hchars

theorem collapseLegacyGhost_rows (id : String)
    : (collapseLegacyGhost id store row).pins = store.pins ∧
      ∀ x, x ≠ row.id → (collapseLegacyGhost id store row).satellites[x]? = store.satellites[x]? := by
  unfold collapseLegacyGhost
  dsimp only
  refine ⟨?_, ?_⟩
  . split
    . split <;> rfl
    . rfl
  . intro x hx
    rw [row_removeRow_of_ne _ hx]
    split
    . split <;> rfl
    . rfl

theorem pins_collapseLegacyGhosts (store : ConnectionStore) (server : DiscoveredServer) (id : String)
    : (store.collapseLegacyGhosts server id).pins = store.pins := by
  unfold collapseLegacyGhosts
  generalize store.remembered.filter (isLegacyAt server) = rows
  induction rows generalizing store with
  | nil => rfl
  | cons row rows ih => exact (ih _).trans (collapseLegacyGhost_rows id).1

theorem row_collapseLegacyGhosts (id : String)
    (h : ∀ row ∈ store.remembered, isLegacyAt server row = true → x ≠ row.id)
    : (store.collapseLegacyGhosts server id).satellites[x]? = store.satellites[x]? := by
  have hrows : ∀ row ∈ store.remembered.filter (isLegacyAt server), x ≠ row.id := by
    intro row hrow
    rw [List.mem_filter] at hrow
    exact h row hrow.1 hrow.2
  unfold collapseLegacyGhosts
  clear h
  generalize store.remembered.filter (isLegacyAt server) = rows at hrows
  induction rows generalizing store with
  | nil => rfl
  | cons row rows ih =>
    rw [List.forall_mem_cons] at hrows
    exact (ih hrows.2).trans ((collapseLegacyGhost_rows id).2 x hrows.1)

theorem pinnedFingerprint_folded (store : ConnectionStore) (server : DiscoveredServer) (host : String)
    : (store.folded server).pinnedFingerprint host = store.pinnedFingerprint host := by
  unfold folded pinnedFingerprint
  split
  . rfl
  . rw [pins_collapseLegacyGhosts]

theorem blank_of_legacyAt (h : isLegacyAt server row = true) : isBlank row.machineId = true := by
  simp only [isLegacyAt, Bool.and_eq_true] at h
  exact h.1.1

theorem row_folded_self (store : ConnectionStore) (server : DiscoveredServer)
    : (store.folded server).satellites[server.id]? = store.satellites[server.id]? := by
  unfold folded
  split
  . rfl
  next hstable =>
    apply row_collapseLegacyGhosts
    intro row hrow hlegacy
    exact ne_of_legacy hrow (blank_of_legacyAt hlegacy) (by simpa using hstable)

theorem row_of_folded (h : (store.folded server).satellites[x]? = some row)
    : store.satellites[x]? = some row := by
  unfold folded at h
  split at h
  . exact h
  . exact row_of_collapseLegacyGhosts h

theorem row_folded_of_stable (hrow : store.satellites[x]? = some row)
    (hstable : isBlank row.machineId = false)
    : (store.folded server).satellites[x]? = some row := by
  unfold folded
  split
  . exact hrow
  . rw [row_collapseLegacyGhosts, hrow]
    rintro ghost hghost hlegacy rfl
    rw [mem_remembered, hrow] at hghost
    cases hghost
    rw [blank_of_legacyAt hlegacy] at hstable
    contradiction

theorem upsert_eq (store : ConnectionStore) (server : DiscoveredServer)
    : store.upsert server =
      let existing := (store.folded server).satellites[server.id]?
      let moved := (store.folded server).migratePinOnAddressChange (existing.map (·.ip)) server.ip
      if existing = some (rowOf server) then moved else moved.putRow (rowOf server) rfl := by
  rfl

theorem row_upsert (store : ConnectionStore) (server : DiscoveredServer) (x : String)
    : (store.upsert server).satellites[x]? =
      if x = server.id then some (rowOf server) else (store.folded server).satellites[x]? := by
  have hrows := (migratePinOnAddressChange_eq (store.folded server)
    (((store.folded server).satellites[server.id]?).map (·.ip)) server.ip).2
  rw [upsert_eq]
  dsimp only
  split
  next hexisting =>
    rw [hrows]
    split
    next hx => rw [hx, hexisting]
    . rfl
  . by_cases hx : x = server.id
    . simp [hx, putRow]
    . refine (row_putRow_of_ne _ _ _ ?_).trans ?_
      . exact hx
      . rw [hrows, if_neg hx]

theorem pinnedFingerprint_upsert (store : ConnectionStore) (server : DiscoveredServer) (host : String)
    : (store.upsert server).pinnedFingerprint host =
      ((store.folded server).migratePinOnAddressChange
        ((store.satellites[server.id]?).map (·.ip)) server.ip).pinnedFingerprint host := by
  rw [upsert_eq, row_folded_self]
  dsimp only
  split <;> rfl

theorem pinnedFingerprint_upsert_cases (store : ConnectionStore) (server : DiscoveredServer)
    : ((∀ row, store.satellites[server.id]? = some row → row.ip = server.ip) ∧
        ∀ host, (store.upsert server).pinnedFingerprint host = store.pinnedFingerprint host) ∨
      ∃ row, store.satellites[server.id]? = some row ∧ row.ip ≠ server.ip ∧
        ∀ host, (store.upsert server).pinnedFingerprint host =
          if host = row.ip then none
          else if host = server.ip then
            (store.pinnedFingerprint server.ip).or (store.pinnedFingerprint row.ip)
          else store.pinnedFingerprint host := by
  cases hrow : store.satellites[server.id]? with
  | none =>
    refine .inl ⟨by simp, ?_⟩
    intro host
    rw [pinnedFingerprint_upsert, hrow]
    apply pinnedFingerprint_folded
  | some row =>
    by_cases hip : row.ip = server.ip
    . refine .inl ⟨by simpa using hip, ?_⟩
      intro host
      rw [pinnedFingerprint_upsert, hrow]
      simp only [Option.map_some, migratePinOnAddressChange, hip, if_true]
      apply pinnedFingerprint_folded
    . refine .inr ⟨row, rfl, hip, ?_⟩
      intro host
      rw [pinnedFingerprint_upsert, hrow, Option.map_some, pinnedFingerprint_migrate _ hip]
      simp only [pinnedFingerprint_folded]

theorem rememberSatellite_cases (store : ConnectionStore) (server : DiscoveredServer)
    : store.refreshKnownBox server = some (store.rememberSatellite server) ∨
      (store.rememberSatellite server = store.upsert server ∧
        ∀ row, store.satellites[server.id]? = some row → row.ip ≠ server.ip →
          store.movesFrom server = some row.ip) := by
  unfold rememberSatellite
  split
  next hblank =>
    split
    next refreshed hrefreshed => exact .inl hrefreshed
    next hnone =>
      refine .inr ⟨rfl, ?_⟩
      intro row hrow hip
      have hfind : store.remembered.any (isStableAt server) = false := by
        unfold refreshKnownBox at hnone
        split at hnone
        next hfind => simpa [List.find?_eq_none] using hfind
        . split at hnone <;> contradiction
      simp [movesFrom, hfind, hrow, hip]
  next hstable =>
    refine .inr ⟨rfl, ?_⟩
    intro row hrow hip
    simp [movesFrom, hstable, hrow, hip]

theorem refreshKnownBox_rows {refreshed : ConnectionStore}
    (h : store.refreshKnownBox server = some refreshed)
    : refreshed.pins = store.pins ∧ ∀ (x : String) (row' : RememberedWifi),
        refreshed.satellites[x]? = some row' →
        ∃ row, store.satellites[x]? = some row ∧ row'.ip = row.ip := by
  unfold refreshKnownBox at h
  split at h
  . contradiction
  next known hknown =>
    have hmem := mem_remembered.mp (List.mem_of_find?_eq_some hknown)
    split at h
    . cases h
      refine ⟨rfl, ?_⟩
      intro x row' hrow'
      by_cases hx : x = known.id
      . subst hx
        simp only [putRow, refreshedFrom, TreeMap.getElem?_insert_self, Option.some.injEq] at hrow'
        exact ⟨known, hmem, by rw [← hrow']⟩
      . rw [row_putRow_of_ne _ _ _ (by exact hx)] at hrow'
        exact ⟨row', hrow', rfl⟩
    . cases h
      exact ⟨rfl, fun x row' hrow' => ⟨row', hrow', rfl⟩⟩

theorem pinnedFingerprint_upsert_self (hrow : store.satellites[server.id]? = some row)
    {fingerprint : String} (hpin : store.pinnedFingerprint row.ip = some fingerprint)
    : (store.upsert server).pinnedFingerprint server.ip =
      some ((store.pinnedFingerprint server.ip).getD fingerprint) := by
  rcases pinnedFingerprint_upsert_cases store server with ⟨hstays, hsame⟩ | ⟨old, hold, hne, hpins⟩
  . rw [hsame, ← hstays row hrow, hpin]
    rfl
  . rw [hrow] at hold
    cases hold
    rw [hpins, if_neg hne.symm, if_pos rfl, hpin]
    cases store.pinnedFingerprint server.ip <;> rfl

theorem pinnedFingerprint_upsert_other (hleaves : store.LeavesAlone server)
    (hmoves : ∀ row, store.satellites[server.id]? = some row → row.ip ≠ server.ip →
      store.movesFrom server = some row.ip)
    (hrow : store.satellites[x]? = some row) (hx : x ≠ server.id) {fingerprint : String}
    (hpin : store.pinnedFingerprint row.ip = some fingerprint)
    : (store.upsert server).pinnedFingerprint row.ip = some fingerprint := by
  rcases pinnedFingerprint_upsert_cases store server with ⟨_, hsame⟩ | ⟨old, hold, hne, hpins⟩
  . rw [hsame, hpin]
  . have hid := (store.filed x row hrow).1
    have hapart : row.ip ≠ old.ip := by
      intro hip
      have halone := hleaves old.ip (hmoves old hold hne) (by rw [← hip, hpin]; rfl) row
        (mem_remembered.mpr (by rw [hid, hrow])) hip
      exact hx (hid.symm.trans halone)
    rw [hpins, if_neg hapart]
    split
    next hserver => rw [← hserver, hpin, Option.some_or]
    . exact hpin

theorem pins_rememberSatellite (hleaves : store.LeavesAlone server)
    (hrow : store.satellites[x]? = some row)
    (hrow' : (store.rememberSatellite server).satellites[x]? = some row') {fingerprint : String}
    (hpin : store.pinnedFingerprint row.ip = some fingerprint)
    : ∃ fingerprint', (store.rememberSatellite server).pinnedFingerprint row'.ip = some fingerprint' ∧
        (fingerprint' = fingerprint ∨ store.pinnedFingerprint row'.ip = some fingerprint') := by
  rcases rememberSatellite_cases store server with hrefreshed | ⟨heq, hmoves⟩
  . obtain ⟨hpins, hrows⟩ := refreshKnownBox_rows hrefreshed
    obtain ⟨old, hold, hip⟩ := hrows x row' hrow'
    rw [hrow] at hold
    cases hold
    refine ⟨fingerprint, ?_, .inl rfl⟩
    unfold pinnedFingerprint at hpin ⊢
    rw [hpins, hip, hpin]
  . rw [heq] at hrow' ⊢
    rw [row_upsert] at hrow'
    split at hrow'
    next hx =>
      cases hrow'
      subst hx
      refine ⟨_, pinnedFingerprint_upsert_self hrow hpin, ?_⟩
      cases hserver : store.pinnedFingerprint server.ip with
      | none => exact .inl rfl
      | some fingerprint' => exact .inr hserver
    next hx =>
      rw [row_of_folded hrow'] at hrow
      cases hrow
      have hrow := row_of_folded hrow'
      exact ⟨fingerprint, pinnedFingerprint_upsert_other hleaves hmoves hrow hx hpin, .inl rfl⟩

structure Scanning (before : ConnectionStore) (x ip fingerprint : String) (now : ConnectionStore)
    (rest : List DiscoveredServer) : Prop where
  present : (∃ row, now.satellites[x]? = some row) ∨ ∀ server ∈ rest, server.id ≠ x
  pinned : ∀ row : RememberedWifi, now.satellites[x]? = some row →
    (row.ip = ip ∧ now.pinnedFingerprint ip = some fingerprint) ∨
      ((∀ server ∈ rest, server.id ≠ x) ∧
        ∃ fingerprint', now.pinnedFingerprint row.ip = some fingerprint' ∧
          (fingerprint' = fingerprint ∨ before.pinnedFingerprint row.ip = some fingerprint'))
  origin : ∀ host fingerprint', now.pinnedFingerprint host = some fingerprint' →
    before.pinnedFingerprint host = some fingerprint' ∨
      ∃ (y : String) (row : RememberedWifi), now.satellites[y]? = some row ∧ row.ip = host ∧
        isBlank row.machineId = false

section Step

variable {ip fingerprint : String} {rest : List DiscoveredServer}

theorem Scanning.present_upsert (h : Scanning before x ip fingerprint now (server :: rest))
    (hstable : ∀ server' ∈ rest, isBlank server'.machineId = false)
    : (∃ row, (now.upsert server).satellites[x]? = some row) ∨ ∀ server' ∈ rest, server'.id ≠ x := by
  rw [row_upsert]
  split
  . exact .inl ⟨rowOf server, rfl⟩
  . rcases h.present with ⟨row, hrow⟩ | habsent
    . cases hblank : isBlank row.machineId with
      | false => exact .inl ⟨row, row_folded_of_stable hrow hblank⟩
      | true =>
        -- The scan has no server of this identity.
        have hid := (now.filed x row hrow).1
        have hmem : row ∈ now.remembered := mem_remembered.mpr (by rw [hid, hrow])
        refine .inr ?_
        intro server' hserver'
        rw [← hid]
        exact ne_of_legacy hmem hblank (hstable server' hserver')
    . exact .inr fun server' hserver' => habsent server' (List.mem_cons_of_mem _ hserver')

theorem Scanning.pinned_upsert (h : Scanning before x ip fingerprint now (server :: rest))
    (honce : ∀ server' ∈ rest, server'.id ≠ server.id) (hleaves : now.LeavesAlone server)
    (hmoves : ∀ row, now.satellites[server.id]? = some row → row.ip ≠ server.ip →
      now.movesFrom server = some row.ip)
    (hjoins : now.JoinsNobody server)
    (hrow' : (now.upsert server).satellites[x]? = some row')
    : (row'.ip = ip ∧ (now.upsert server).pinnedFingerprint ip = some fingerprint) ∨
      ((∀ server' ∈ rest, server'.id ≠ x) ∧
        ∃ fingerprint', (now.upsert server).pinnedFingerprint row'.ip = some fingerprint' ∧
          (fingerprint' = fingerprint ∨ before.pinnedFingerprint row'.ip = some fingerprint')) := by
  rw [row_upsert] at hrow'
  split at hrow'
  next hx =>
    cases hrow'
    subst hx
    -- The beacon is the first one for this row, so the row is where it was.
    obtain ⟨row, hrow⟩ : ∃ row, now.satellites[server.id]? = some row := by
      rcases h.present with hpresent | habsent
      . exact hpresent
      . exact absurd rfl (habsent server List.mem_cons_self)
    have hpin : row.ip = ip ∧ now.pinnedFingerprint ip = some fingerprint := by
      rcases h.pinned row hrow with hstill | ⟨hdone, _⟩
      . exact hstill
      . exact absurd rfl (hdone server List.mem_cons_self)
    obtain ⟨rfl, hpin⟩ := hpin
    refine .inr ⟨honce, _, pinnedFingerprint_upsert_self hrow hpin, ?_⟩
    cases hserver : now.pinnedFingerprint server.ip with
    | none => exact .inl rfl
    | some fingerprint' =>
      by_cases hip : row.ip = server.ip
      . rw [hip, hserver] at hpin
        exact .inl (Option.some.inj hpin)
      . rcases h.origin server.ip fingerprint' hserver with hbefore | ⟨y, other, hother, hat, hblank⟩
        . exact .inr hbefore
        . have hmem : other ∈ now.remembered :=
            mem_remembered.mpr (by rw [(now.filed y other hother).1, hother])
          have := hjoins (by rw [hmoves row hrow hip]; rfl) other hmem hat
          rw [hblank] at this
          contradiction
  next hx =>
    have hrow := row_of_folded hrow'
    rcases h.pinned row' hrow with ⟨rfl, hpin⟩ | ⟨hdone, fingerprint', hpin, horigin⟩
    . exact .inl ⟨rfl, pinnedFingerprint_upsert_other hleaves hmoves hrow hx hpin⟩
    . refine .inr ⟨?_, fingerprint', ?_, horigin⟩
      . intro server' hserver'
        exact hdone server' (List.mem_cons_of_mem _ hserver')
      . exact pinnedFingerprint_upsert_other hleaves hmoves hrow hx hpin

theorem Scanning.origin_upsert (h : Scanning before x ip fingerprint now (server :: rest))
    (hstable : isBlank server.machineId = false) {fingerprint' : String}
    (hpin : (now.upsert server).pinnedFingerprint host = some fingerprint')
    : before.pinnedFingerprint host = some fingerprint' ∨
      ∃ (y : String) (row : RememberedWifi), (now.upsert server).satellites[y]? = some row ∧
        row.ip = host ∧ isBlank row.machineId = false := by
  have hself : (now.upsert server).satellites[server.id]? = some (rowOf server) := by
    rw [row_upsert, if_pos rfl]
  by_cases hhost : host = server.ip
  . exact .inr ⟨server.id, rowOf server, hself, hhost.symm, hstable⟩
  . -- The pin was there before, and so was the row that it came with.
    have hnow : now.pinnedFingerprint host = some fingerprint' ∧
        ∀ row, now.satellites[server.id]? = some row → row.ip ≠ host := by
      rcases pinnedFingerprint_upsert_cases now server with ⟨hstays, hsame⟩ | ⟨old, hold, hne, hpins⟩
      . rw [hsame] at hpin
        refine ⟨hpin, ?_⟩
        intro row hrow hip
        exact hhost (hip.symm.trans (hstays row hrow))
      . rw [hpins, if_neg hhost] at hpin
        split at hpin
        . contradiction
        next hleft =>
          refine ⟨hpin, ?_⟩
          intro row hrow hip
          rw [hold] at hrow
          cases hrow
          exact hleft hip.symm
    rcases h.origin host fingerprint' hnow.1 with hbefore | ⟨y, row, hrow, hat, hblank⟩
    . exact .inl hbefore
    . have hy : y ≠ server.id := by
        rintro rfl
        exact hnow.2 row hrow hat
      refine .inr ⟨y, row, ?_, hat, hblank⟩
      rw [row_upsert, if_neg hy]
      exact row_folded_of_stable hrow hblank

theorem Scanning.step (h : Scanning before x ip fingerprint now (server :: rest))
    (hstable : ∀ server' ∈ server :: rest, isBlank server'.machineId = false)
    (honce : ∀ server' ∈ rest, server'.id ≠ server.id)
    (hleaves : now.LeavesAlone server) (hjoins : now.JoinsNobody server)
    : Scanning before x ip fingerprint (now.rememberSatellite server) rest := by
  have hserver := hstable server List.mem_cons_self
  have heq : now.rememberSatellite server = now.upsert server := by
    simp [rememberSatellite, hserver]
  have hmoves : ∀ row, now.satellites[server.id]? = some row → row.ip ≠ server.ip →
      now.movesFrom server = some row.ip := by
    intro row hrow hip
    simp [movesFrom, hserver, hrow, hip]
  rw [heq]
  constructor
  . exact h.present_upsert fun server' hserver' => hstable server' (List.mem_cons_of_mem _ hserver')
  . intro row' hrow'
    exact h.pinned_upsert honce hleaves hmoves hjoins hrow'
  . intro host fingerprint' hpin
    exact h.origin_upsert hserver hpin

theorem Scanning.scan {servers : List DiscoveredServer}
    (h : Scanning before x ip fingerprint now servers)
    (hstable : ∀ server ∈ servers, isBlank server.machineId = false)
    (honce : (servers.map (·.id)).Nodup)
    (halong : Along (fun store server => some (store.rememberSatellite server))
      (fun store server => store.LeavesAlone server ∧ store.JoinsNobody server) now servers)
    : Scanning before x ip fingerprint (servers.foldl rememberSatellite now) [] := by
  induction servers generalizing now with
  | nil => exact h
  | cons server servers ih =>
    rw [List.map_cons, List.nodup_cons] at honce
    have hrest : ∀ server' ∈ servers, server'.id ≠ server.id := by
      intro server' hserver' hid
      exact honce.1 (List.mem_map.mpr ⟨server', hserver', hid⟩)
    apply ih (h.step hstable hrest halong.1.1 halong.1.2)
    . intro server' hserver'
      exact hstable server' (List.mem_cons_of_mem _ hserver')
    . exact honce.2
    . exact halong.2 _ rfl

end Step

section Keys

variable {key id y : String} {rows : List RememberedWifi} {servers : List DiscoveredServer}

theorem sharedKey_ne (h : store.sharedKey x = some key) : key ≠ "" := by
  simp only [sharedKey, Option.filter_eq_some_iff, decide_eq_true_eq] at h
  exact h.2

theorem sharedKey_collapseLegacyGhost_self (hnone : store.sharedKey id = none)
    (hkey : store.sharedKey row.id = some key) (hid : id ≠ row.id)
    : (collapseLegacyGhost id store row).sharedKey id = some key := by
  unfold collapseLegacyGhost
  dsimp only
  rw [sharedKey_removeRow, sharedKey_forgetSharedKey_of_ne _ hid, hnone, hkey]
  exact sharedKey_setSharedKey_self _ _ (sharedKey_ne hkey)

theorem sharedKey_of_collapseLegacyGhost
    (h : (collapseLegacyGhost id store row).sharedKey y = some key)
    : store.sharedKey y = some key ∨
      (y = id ∧ store.sharedKey id = none ∧ store.sharedKey row.id = some key) := by
  unfold collapseLegacyGhost at h
  dsimp only at h
  rw [sharedKey_removeRow] at h
  have hy : y ≠ row.id := by
    rintro rfl
    rw [sharedKey_forgetSharedKey_self] at h
    contradiction
  rw [sharedKey_forgetSharedKey_of_ne _ hy] at h
  split at h
  next hnone =>
    split at h
    next ghostKey hghost =>
      by_cases hid : y = id
      . subst hid
        rw [sharedKey_setSharedKey_self _ _ (sharedKey_ne hghost)] at h
        cases h
        exact .inr ⟨rfl, Option.isNone_iff_eq_none.mp hnone, hghost⟩
      . rw [sharedKey_setSharedKey_of_ne _ _ hid] at h
        exact .inl h
    . exact .inl h
  . exact .inl h

theorem sharedKey_of_foldl (hid : ∀ row ∈ rows, id ≠ row.id)
    (h : (rows.foldl (collapseLegacyGhost id) store).sharedKey y = some key)
    : store.sharedKey y = some key ∨
      (y = id ∧ store.sharedKey id = none ∧ ∃ ghost ∈ rows, store.sharedKey ghost.id = some key) := by
  induction rows generalizing store with
  | nil => exact .inl h
  | cons row rows ih =>
    rw [List.forall_mem_cons] at hid
    rcases ih hid.2 h with hstep | ⟨hy, hnone, ghost, hghost, hkey⟩
    . rcases sharedKey_of_collapseLegacyGhost hstep with hold | ⟨hy, hnone, hkey⟩
      . exact .inl hold
      . exact .inr ⟨hy, hnone, row, List.mem_cons_self, hkey⟩
    . refine .inr ⟨hy, ?_, ghost, List.mem_cons_of_mem _ hghost, ?_⟩
      . cases hsome : store.sharedKey id with
        | none => rfl
        | some key' =>
          rw [sharedKey_collapseLegacyGhost hsome hid.1] at hnone
          contradiction
      . rcases sharedKey_of_collapseLegacyGhost hkey with hold | ⟨hghostId, _⟩
        . exact hold
        . exact absurd hghostId.symm (hid.2 ghost hghost)

theorem isSome_sharedKey_foldl (hid : ∀ row ∈ rows, id ≠ row.id)
    (h : (store.sharedKey id).isSome ∨ ∃ row ∈ rows, (store.sharedKey row.id).isSome)
    : ((rows.foldl (collapseLegacyGhost id) store).sharedKey id).isSome := by
  induction rows generalizing store with
  | nil => simpa using h
  | cons ghost rows ih =>
    rw [List.forall_mem_cons] at hid
    apply ih hid.2
    cases hsome : store.sharedKey id with
    | some key => exact .inl (by rw [sharedKey_collapseLegacyGhost hsome hid.1]; rfl)
    | none =>
      rw [hsome] at h
      obtain ⟨row, hrow, hkey⟩ : ∃ row ∈ ghost :: rows, (store.sharedKey row.id).isSome := by
        simpa using h
      obtain ⟨key, hkey⟩ := Option.isSome_iff_exists.mp hkey
      by_cases heq : row.id = ghost.id
      . rw [heq] at hkey
        exact .inl (by rw [sharedKey_collapseLegacyGhost_self hsome hkey hid.1]; rfl)
      . refine .inr ⟨row, ?_, by rw [sharedKey_collapseLegacyGhost hkey heq]; rfl⟩
        rcases List.mem_cons.mp hrow with rfl | hmem
        . exact absurd rfl heq
        . exact hmem

theorem sharedKey_upsert_eq (store : ConnectionStore) (server : DiscoveredServer) (x : String)
    : (store.upsert server).sharedKey x = (store.folded server).sharedKey x := by
  rw [upsert_eq]
  dsimp only
  split
  . apply sharedKey_migratePinOnAddressChange
  . exact sharedKey_migratePinOnAddressChange ..

theorem stands_of_stable (store : ConnectionStore) {server server' : DiscoveredServer}
    (h : isBlank server'.machineId = false)
    : store.Stands server'.id server := by
  intro _ row hrow hlegacy
  exact ne_of_legacy hrow (blank_of_legacyAt hlegacy) h

structure Folding (before : ConnectionStore) (servers : List DiscoveredServer) (now : ConnectionStore)
    : Prop where
  legacy : ∀ row ∈ now.remembered, isBlank row.machineId = true → row ∈ before.remembered
  kept : ∀ x key, before.sharedKey x = some key → now.sharedKey x = some key ∨
    ∃ server ∈ servers, (∃ row ∈ before.remembered, row.id = x ∧ isLegacyAt server row = true) ∧
      (now.sharedKey server.id).isSome
  origin : ∀ y key, now.sharedKey y = some key → before.sharedKey y = some key ∨
    before.sharedKey y = none ∧ ∃ server ∈ servers, server.id = y ∧
      ∃ ghost ∈ before.remembered, isLegacyAt server ghost = true ∧
        before.sharedKey ghost.id = some key

theorem Folding.step (h : Folding before servers now)
    (hstable : ∀ server ∈ servers, isBlank server.machineId = false) (hmem : server ∈ servers)
    : Folding before servers (now.rememberSatellite server) := by
  have hserver := hstable server hmem
  have hfolded : ∀ x, (now.rememberSatellite server).sharedKey x =
      ((now.remembered.filter (isLegacyAt server)).foldl (collapseLegacyGhost server.id)
        now).sharedKey x := by
    intro x
    simp only [rememberSatellite, hserver, Bool.false_eq_true, if_false]
    rw [sharedKey_upsert_eq, folded, hserver]
    rfl
  have hghosts : ∀ row ∈ now.remembered.filter (isLegacyAt server), server.id ≠ row.id := by
    intro row hrow
    rw [List.mem_filter] at hrow
    exact ne_of_legacy hrow.1 (blank_of_legacyAt hrow.2) hserver
  constructor
  . intro row hrow hblank
    exact h.legacy row (mem_remembered_of_legacy hserver hrow hblank) hblank
  . intro x key hkey
    rcases h.kept x key hkey with hnow | ⟨server', hserver', hrow, hsome⟩
    . by_cases hstands : now.Stands x server
      . exact .inl (sharedKey_rememberSatellite hnow hstands)
      . -- The row of `x` is folded now.
        simp only [Stands, hserver, forall_const, not_forall, not_not] at hstands
        obtain ⟨row, hrow, hlegacy, hx⟩ := hstands
        refine .inr ⟨server, hmem, ⟨row, ?_, hx.symm, hlegacy⟩, ?_⟩
        . exact h.legacy row hrow (blank_of_legacyAt hlegacy)
        . rw [hfolded]
          apply isSome_sharedKey_foldl hghosts
          refine .inr ⟨row, List.mem_filter.mpr ⟨hrow, hlegacy⟩, ?_⟩
          rw [← hx, hnow]
          rfl
    . refine .inr ⟨server', hserver', hrow, ?_⟩
      obtain ⟨key', hkey'⟩ := Option.isSome_iff_exists.mp hsome
      rw [sharedKey_rememberSatellite hkey' (stands_of_stable now (hstable server' hserver'))]
      rfl
  . intro y key hkey
    rw [hfolded] at hkey
    rcases sharedKey_of_foldl hghosts hkey with hnow | ⟨rfl, hnone, ghost, hghost, hghostKey⟩
    . exact h.origin y key hnow
    . rw [List.mem_filter] at hghost
      have hblank := blank_of_legacyAt hghost.2
      have hbefore := h.legacy ghost hghost.1 hblank
      refine .inr ⟨?_, server, hmem, rfl, ghost, hbefore, hghost.2, ?_⟩
      . cases hsome : before.sharedKey server.id with
        | none => rfl
        | some key' =>
          rcases h.kept server.id key' hsome with hkept | ⟨server', _, ⟨row, hrow, hid, hlegacy⟩, _⟩
          . rw [hnone] at hkept
            contradiction
          . exact absurd hid.symm (ne_of_legacy hrow (blank_of_legacyAt hlegacy) hserver)
      . rcases h.origin ghost.id key hghostKey with hold | ⟨_, server', hserver', hid, _⟩
        . exact hold
        . exact absurd hid (ne_of_legacy hbefore hblank (hstable server' hserver'))

theorem Folding.scan (h : Folding before servers now)
    (hstable : ∀ server ∈ servers, isBlank server.machineId = false) {done : List DiscoveredServer}
    (hdone : ∀ server ∈ done, server ∈ servers)
    : Folding before servers (done.foldl rememberSatellite now) := by
  induction done generalizing now with
  | nil => exact h
  | cons server done ih =>
    rw [List.forall_mem_cons] at hdone
    exact ih (h.step hstable hdone.1) hdone.2

theorem folding_refl (store : ConnectionStore) (servers : List DiscoveredServer)
    : Folding store servers store where
  legacy _ hrow _ := hrow
  kept _ _ hkey := .inl hkey
  origin _ _ hkey := .inl hkey

theorem Folding.keys (h : Folding before servers now)
    (hstable : ∀ server ∈ servers, isBlank server.machineId = false) {servers' : List DiscoveredServer}
    (hmem : ∀ server ∈ servers, server ∈ servers') (hkey : before.sharedKey x = some key)
    : now.sharedKey x = some key ∨ ∃ server ∈ servers', FoldedInto before now servers' x server := by
  rcases h.kept x key hkey with hkept | ⟨server, hserver, hrow, hsome⟩
  . exact .inl hkept
  . obtain ⟨key', hkey'⟩ := Option.isSome_iff_exists.mp hsome
    refine .inr ⟨server, hmem server hserver, hstable server hserver, hrow, key', hkey', ?_⟩
    rcases h.origin server.id key' hkey' with hold | ⟨hnone, server', hserver', hid, hghost⟩
    . exact .inl hold
    . exact .inr ⟨hnone, server', hmem server' hserver', hid, hghost⟩

end Keys

theorem trustKept_rememberSatellite (h : store.LeavesAlone server)
    : TrustKept store (store.rememberSatellite server) [server] where
  pins _ _ _ _ hrow hrow' hpin := pins_rememberSatellite h hrow hrow' hpin
  keys := by
    intro x key hkey
    cases hblank : isBlank server.machineId with
    | true =>
      have hstands : store.Stands x server := by simp [Stands, hblank]
      exact .inl (sharedKey_rememberSatellite hkey hstands)
    | false =>
      have hstable : ∀ server' ∈ [server], isBlank server'.machineId = false := by simpa using hblank
      have hfolding := (folding_refl store [server]).step hstable List.mem_cons_self
      exact hfolding.keys hstable (fun _ hmem => hmem) hkey

theorem trustKept_refreshFromDiscovery {discovered : List DiscoveredServer}
    (h : store.Undisplaced (.refreshFromDiscovery discovered))
    : TrustKept store (store.refreshFromDiscovery discovered) discovered := by
  have hstable : ∀ server ∈ store.eligible discovered, isBlank server.machineId = false := by
    intro server hserver
    simp only [eligible, List.mem_filter, Bool.and_eq_true, Bool.not_eq_true'] at hserver
    exact hserver.2.1
  constructor
  . intro x row row' fingerprint hrow hrow' hpin
    have hbegin : Scanning store x row.ip fingerprint store (store.eligible discovered) := by
      constructor
      . exact .inl ⟨row, hrow⟩
      . intro row₁ hrow₁
        rw [hrow] at hrow₁
        cases hrow₁
        exact .inl ⟨rfl, hpin⟩
      . exact fun _ _ hpin' => .inl hpin'
    have hend := hbegin.scan hstable h.1 h.2
    rcases hend.pinned row' hrow' with ⟨hip, hpin'⟩ | ⟨_, hpin'⟩
    . exact ⟨fingerprint, hip ▸ hpin', .inl rfl⟩
    . exact hpin'
  . intro x key hkey
    have hfolding := (folding_refl store (store.eligible discovered)).scan hstable fun _ h => h
    exact hfolding.keys hstable (fun _ hmem => List.mem_of_mem_filter hmem) hkey

end

theorem trustKept_along (store : ConnectionStore) (calls : List Call)
    (h : Along (fun store c => some (store.call c)) Undisplaced store calls)
    : Along (fun store c => some (store.call c))
        (fun store c => TrustKept store (store.call c) c.servers) store calls := by
  refine along_mono ?_ h
  intro store c hc
  cases c with
  | rememberSatellite server => exact trustKept_rememberSatellite hc
  | refreshFromDiscovery discovered => exact trustKept_refreshFromDiscovery hc

instance (store : ConnectionStore) (server : DiscoveredServer) : Decidable (store.LeavesAlone server) := by
  unfold LeavesAlone
  infer_instance

instance (store : ConnectionStore) (server : DiscoveredServer) : Decidable (store.JoinsNobody server) := by
  unfold JoinsNobody
  infer_instance

instance (store : ConnectionStore) (c : Call) : Decidable (store.Undisplaced c) := by
  cases c <;> unfold Undisplaced <;> infer_instance

def denPc (ip : String) : DiscoveredServer where
  name := "Den"
  ip := ip
  machineId := "aa01"

def loftPc (ip : String) : DiscoveredServer where
  name := "Loft"
  ip := ip
  machineId := "bb02"

def oldPc : DiscoveredServer where
  name := "Old"
  ip := "10.0.0.9"

def paired : ConnectionStore :=
  let store := (empty.rememberSatellite (denPc "10.0.0.1")).rememberSatellite (loftPc "10.0.0.2")
  let store := (store.rememberSatellite oldPc).setSharedKey oldPc.id "0f"
  ((store.pin "10.0.0.1" "d1").pin "10.0.0.2" "10").pin "10.0.0.9" "01"

def moves : List Call :=
  [.refreshFromDiscovery [loftPc "10.0.0.3", denPc "10.0.0.2"],
    .rememberSatellite { oldPc with machineId := "cc03" }]

theorem trustKept_moves
    : Along (fun store c => some (store.call c))
        (fun store c => TrustKept store (store.call c) c.servers) paired moves := by
  exact trustKept_along paired moves (by decide +kernel)

theorem pin_lost_in_swap
    : ∃ (store : ConnectionStore) (discovered : List DiscoveredServer) (x : String)
        (row row' : RememberedWifi),
        store.satellites[x]? = some row ∧
        (store.refreshFromDiscovery discovered).satellites[x]? = some row' ∧
        (store.pinnedFingerprint row.ip).isSome ∧
        (store.refreshFromDiscovery discovered).pinnedFingerprint row'.ip = none := by
  refine ⟨paired, [denPc "10.0.0.2", loftPc "10.0.0.1"], (denPc "").id, rowOf (denPc "10.0.0.1"),
    rowOf (denPc "10.0.0.2"), ?_, ?_, ?_, ?_⟩ <;> decide +kernel

end ConnectionStore

end Store
