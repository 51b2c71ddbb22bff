import Dish.Store.Basic

/-!
This module contains what the operations of the store do to the key and to the row of one identity.
-/

open Std Models

namespace Store

namespace ConnectionStore

variable {row : RememberedWifi}

variable {store : ConnectionStore} {x id : String}

theorem sharedKey_setSharedKey_self (store : ConnectionStore) (id : String) {keyHex : String}
    (h : keyHex ≠ "")
    : (store.setSharedKey id keyHex).sharedKey id = some keyHex := by
  simp [sharedKey, setSharedKey, h]

@[simp]
theorem sharedKey_setSharedKey_of_ne (store : ConnectionStore) (keyHex : String) (h : x ≠ id)
    : (store.setSharedKey id keyHex).sharedKey x = store.sharedKey x := by
  have : ¬ id = x := fun heq => h heq.symm
  simp [sharedKey, setSharedKey, TreeMap.getElem?_insert, this]

@[simp]
theorem sharedKey_forgetSharedKey_self (store : ConnectionStore) (id : String)
    : (store.forgetSharedKey id).sharedKey id = none := by
  simp [sharedKey, forgetSharedKey]

@[simp]
theorem sharedKey_forgetSharedKey_of_ne (store : ConnectionStore) (h : x ≠ id)
    : (store.forgetSharedKey id).sharedKey x = store.sharedKey x := by
  have : ¬ id = x := fun heq => h heq.symm
  simp [sharedKey, forgetSharedKey, TreeMap.getElem?_erase, this]

@[simp]
theorem sharedKey_removeRow (store : ConnectionStore) (id x : String)
    : (store.removeRow id).sharedKey x = store.sharedKey x := by
  rfl

@[simp]
theorem row_removeRow_self (store : ConnectionStore) (id : String)
    : (store.removeRow id).satellites[id]? = none := by
  simp [removeRow]

@[simp]
theorem row_removeRow_of_ne (store : ConnectionStore) (h : x ≠ id)
    : (store.removeRow id).satellites[x]? = store.satellites[x]? := by
  have : ¬ id = x := fun heq => h heq.symm
  simp [removeRow, TreeMap.getElem?_erase, this]

@[simp]
theorem row_putRow_of_ne (store : ConnectionStore) (row : RememberedWifi)
    (hrow : row.toDiscovered.id = row.id) (h : x ≠ row.id)
    : (store.putRow row hrow).satellites[x]? = store.satellites[x]? := by
  have : ¬ row.id = x := fun heq => h heq.symm
  simp [putRow, TreeMap.getElem?_insert, this]

theorem migratePinOnAddressChange_eq (store : ConnectionStore) (oldIp : Option String)
    (newIp : String)
    : (store.migratePinOnAddressChange oldIp newIp).keys = store.keys ∧
        (store.migratePinOnAddressChange oldIp newIp).satellites = store.satellites := by
  unfold migratePinOnAddressChange
  split
  . exact ⟨rfl, rfl⟩
  . dsimp only
    split
    . exact ⟨rfl, rfl⟩
    . split
      . split
        . exact ⟨rfl, rfl⟩
        . exact ⟨rfl, rfl⟩
      . exact ⟨rfl, rfl⟩

structure Gone (x : String) (store : ConnectionStore) : Prop where
  key : store.sharedKey x = none
  row : store.satellites[x]? = none

namespace Gone

theorem setSharedKey (h : Gone x store) (keyHex : String) (hx : x ≠ id)
    : Gone x (store.setSharedKey id keyHex) where
  key := by
    rw [sharedKey_setSharedKey_of_ne _ _ hx]
    apply h.key
  row := h.row

theorem forgetSharedKey (h : Gone x store) (id : String) : Gone x (store.forgetSharedKey id) where
  key := by
    by_cases hx : x = id
    . subst hx
      simp
    . rw [sharedKey_forgetSharedKey_of_ne _ hx]
      apply h.key
  row := h.row

theorem removeRow (h : Gone x store) (id : String) : Gone x (store.removeRow id) where
  key := h.key
  row := by
    by_cases hx : x = id
    . subst hx
      simp
    . rw [row_removeRow_of_ne _ hx]
      apply h.row

theorem putRow (h : Gone x store) (hrow : row.toDiscovered.id = row.id) (hx : x ≠ row.id)
    : Gone x (store.putRow row hrow) where
  key := h.key
  row := by
    rw [row_putRow_of_ne _ _ _ hx]
    apply h.row

theorem forgetPin (h : Gone x store) (host : String) : Gone x (store.forgetPin host) where
  key := h.key
  row := h.row

theorem pin (h : Gone x store) (host fingerprintHex : String)
    : Gone x (store.pin host fingerprintHex) where
  key := h.key
  row := h.row

theorem collapseLegacyGhost (h : Gone x store) (row : RememberedWifi) (hx : x ≠ id)
    : Gone x (collapseLegacyGhost id store row) := by
  unfold ConnectionStore.collapseLegacyGhost
  apply removeRow
  apply forgetSharedKey
  split
  . split
    . apply h.setSharedKey _ hx
    . apply h
  . apply h

theorem collapseLegacyGhosts (h : Gone x store) (server : DiscoveredServer) (hx : x ≠ id)
    : Gone x (store.collapseLegacyGhosts server id) := by
  unfold ConnectionStore.collapseLegacyGhosts
  generalize store.remembered.filter (isLegacyAt server) = rows
  induction rows generalizing store with
  | nil => apply h
  | cons row rows ih => apply ih (h.collapseLegacyGhost row hx)

theorem migratePinOnAddressChange (h : Gone x store) (oldIp : Option String) (newIp : String)
    : Gone x (store.migratePinOnAddressChange oldIp newIp) := by
  obtain ⟨hkeys, hrows⟩ := migratePinOnAddressChange_eq store oldIp newIp
  refine { key := ?_, row := ?_ }
  . unfold sharedKey
    rw [hkeys]
    apply h.key
  . rw [hrows]
    apply h.row

theorem refreshKnownBox (h : Gone x store) {server : DiscoveredServer} {refreshed : ConnectionStore}
    (hrefreshed : store.refreshKnownBox server = some refreshed)
    : Gone x refreshed := by
  unfold ConnectionStore.refreshKnownBox at hrefreshed
  split at hrefreshed
  . contradiction
  . next row hrow =>
    split at hrefreshed
    . cases hrefreshed
      apply h.putRow
      intro hx
      have hmem := mem_remembered.mp (List.mem_of_find?_eq_some hrow)
      have hid : row.id = x := hx.symm
      rw [hid, h.row] at hmem
      contradiction
    . cases hrefreshed
      apply h

theorem upsert (h : Gone x store) {server : DiscoveredServer} (hx : x ≠ server.id)
    : Gone x (store.upsert server) := by
  have hfolded : Gone x
      (if isBlank server.machineId then store else store.collapseLegacyGhosts server server.id) := by
    split
    . apply h
    . apply h.collapseLegacyGhosts server hx
  unfold ConnectionStore.upsert
  dsimp only
  generalize (if isBlank server.machineId then store
    else store.collapseLegacyGhosts server server.id) = folded at hfolded
  split
  . apply hfolded.migratePinOnAddressChange
  . apply (hfolded.migratePinOnAddressChange _ _).putRow
    apply hx

theorem rememberSatellite (h : Gone x store) {server : DiscoveredServer} (hx : x ≠ server.id)
    : Gone x (store.rememberSatellite server) := by
  unfold ConnectionStore.rememberSatellite
  split
  . split
    . next refreshed hrefreshed => apply h.refreshKnownBox hrefreshed
    . apply h.upsert hx
  . apply h.upsert hx

end Gone

def Upgrades (store : ConnectionStore) (server : DiscoveredServer) : Prop :=
  isBlank server.machineId = false ∧ ∃ row ∈ store.remembered, isLegacyAt server row = true

theorem Gone.refreshFromDiscovery (h : Gone x store) {discovered : List DiscoveredServer}
    (hupgrade : ∀ server ∈ discovered, server.id = x → ¬ store.Upgrades server)
    : Gone x (store.refreshFromDiscovery discovered) := by
  have hother : ∀ server ∈ discovered.filter fun s =>
      !isBlank s.machineId && isEligible store.remembered s, x ≠ server.id := by
    intro server hserver hx
    simp only [List.mem_filter, Bool.and_eq_true, Bool.not_eq_true', isEligible, Bool.or_eq_true,
      List.any_eq_true, beq_iff_eq] at hserver
    obtain ⟨hmem, hstable, ⟨row, hrow, hid⟩ | hlegacy⟩ := hserver
    . rw [mem_remembered, hid, ← hx, h.row] at hrow
      contradiction
    . exact hupgrade server hmem hx.symm ⟨hstable, hlegacy⟩
  unfold ConnectionStore.refreshFromDiscovery
  dsimp only
  generalize discovered.filter (fun s => !isBlank s.machineId && isEligible store.remembered s) =
    servers at hother ⊢
  clear hupgrade
  induction servers generalizing store with
  | nil => apply h
  | cons server servers ih =>
    rw [List.forall_mem_cons] at hother
    apply ih (h.rememberSatellite hother.1) hother.2

theorem gone_forgetSatellite (store : ConnectionStore) (x : String)
    : Gone x (store.forgetSatellite x) := by
  unfold forgetSatellite
  refine { key := ?_, row := row_removeRow_self _ x }
  apply sharedKey_forgetSharedKey_self

theorem sharedKey_forgetSatellite_of_ne (store : ConnectionStore) (h : x ≠ id)
    : (store.forgetSatellite id).sharedKey x = store.sharedKey x := by
  unfold forgetSatellite
  dsimp only
  rw [sharedKey_removeRow, sharedKey_forgetSharedKey_of_ne _ h]
  split
  . rfl
  . rfl

def FoldsNoKey (store : ConnectionStore) (server : DiscoveredServer) : Prop :=
  isBlank server.machineId = false → ∀ row ∈ store.remembered, isLegacyAt server row = true →
    store.sharedKey row.id = none

instance decidableFoldsNoKey (store : ConnectionStore) (server : DiscoveredServer)
    : Decidable (store.FoldsNoKey server) :=
  inferInstanceAs (Decidable (isBlank server.machineId = false →
    ∀ row ∈ store.remembered, isLegacyAt server row = true → store.sharedKey row.id = none))

section Keys

variable {keyHex : String} {server : DiscoveredServer}

theorem sharedKey_collapseLegacyGhost (h : store.sharedKey x = some keyHex) (hrow : x ≠ row.id)
    : (collapseLegacyGhost id store row).sharedKey x = some keyHex := by
  unfold collapseLegacyGhost
  dsimp only
  rw [sharedKey_removeRow, sharedKey_forgetSharedKey_of_ne _ hrow]
  split
  . next hnone =>
    have hx : x ≠ id := by
      rintro rfl
      rw [h] at hnone
      contradiction
    split
    . rw [sharedKey_setSharedKey_of_ne _ _ hx]
      apply h
    . apply h
  . apply h

theorem sharedKey_collapseLegacyGhosts (h : store.sharedKey x = some keyHex)
    (hghosts : ∀ row ∈ store.remembered, isLegacyAt server row = true → x ≠ row.id)
    : (store.collapseLegacyGhosts server id).sharedKey x = some keyHex := by
  have hrows : ∀ row ∈ store.remembered.filter (isLegacyAt server), x ≠ row.id := by
    intro row hrow
    rw [List.mem_filter] at hrow
    apply hghosts row hrow.1 hrow.2
  unfold collapseLegacyGhosts
  clear hghosts
  generalize store.remembered.filter (isLegacyAt server) = rows at hrows
  induction rows generalizing store with
  | nil => apply h
  | cons row rows ih =>
    rw [List.forall_mem_cons] at hrows
    apply ih (sharedKey_collapseLegacyGhost h hrows.1) hrows.2

theorem sharedKey_migratePinOnAddressChange (store : ConnectionStore) (oldIp : Option String)
    (newIp x : String)
    : (store.migratePinOnAddressChange oldIp newIp).sharedKey x = store.sharedKey x := by
  unfold sharedKey
  rw [(migratePinOnAddressChange_eq store oldIp newIp).1]

def Stands (store : ConnectionStore) (x : String) (server : DiscoveredServer) : Prop :=
  isBlank server.machineId = false → ∀ row ∈ store.remembered, isLegacyAt server row = true →
    x ≠ row.id

theorem FoldsNoKey.stands (hfold : store.FoldsNoKey server) (h : store.sharedKey x = some keyHex)
    : store.Stands x server := by
  rintro hstable row hrow hlegacy rfl
  rw [hfold hstable row hrow hlegacy] at h
  contradiction

theorem sharedKey_upsert (h : store.sharedKey x = some keyHex) (hghosts : store.Stands x server)
    : (store.upsert server).sharedKey x = some keyHex := by
  have hfolded : (if isBlank server.machineId then store
      else store.collapseLegacyGhosts server server.id).sharedKey x = some keyHex := by
    split
    . apply h
    . next hstable => apply sharedKey_collapseLegacyGhosts h (hghosts (by simpa using hstable))
  unfold upsert
  dsimp only
  generalize (if isBlank server.machineId then store
    else store.collapseLegacyGhosts server server.id) = folded at hfolded
  split
  . rw [sharedKey_migratePinOnAddressChange, hfolded]
  . exact (sharedKey_migratePinOnAddressChange ..).trans hfolded

theorem sharedKey_refreshKnownBox {refreshed : ConnectionStore}
    (hrefreshed : store.refreshKnownBox server = some refreshed)
    : refreshed.sharedKey x = store.sharedKey x := by
  unfold refreshKnownBox at hrefreshed
  split at hrefreshed
  . contradiction
  . split at hrefreshed
    . cases hrefreshed
      rfl
    . cases hrefreshed
      rfl

theorem sharedKey_rememberSatellite (h : store.sharedKey x = some keyHex)
    (hghosts : store.Stands x server)
    : (store.rememberSatellite server).sharedKey x = some keyHex := by
  unfold rememberSatellite
  split
  . split
    . next hrefreshed =>
      rw [sharedKey_refreshKnownBox hrefreshed]
      apply h
    . apply sharedKey_upsert h hghosts
  . apply sharedKey_upsert h hghosts

theorem row_of_collapseLegacyGhosts
    (h : (store.collapseLegacyGhosts server id).satellites[x]? = some row)
    : store.satellites[x]? = some row := by
  unfold collapseLegacyGhosts at h
  generalize store.remembered.filter (isLegacyAt server) = rows at h
  induction rows generalizing store with
  | nil => apply h
  | cons ghost rows ih =>
    have hghost := ih h
    unfold collapseLegacyGhost at hghost
    dsimp only at hghost
    by_cases hx : x = ghost.id
    . subst hx
      simp at hghost
    . rw [row_removeRow_of_ne _ hx] at hghost
      unfold forgetSharedKey at hghost
      dsimp only at hghost
      split at hghost
      . split at hghost
        . apply hghost
        . apply hghost
      . apply hghost

theorem mem_remembered_of_legacy (hstable : isBlank server.machineId = false)
    (hrow : row ∈ (store.rememberSatellite server).remembered) (hlegacy : isBlank row.machineId = true)
    : row ∈ store.remembered := by
  rw [mem_remembered] at hrow ⊢
  unfold rememberSatellite upsert at hrow
  simp only [hstable, Bool.false_eq_true, if_false] at hrow
  have hmoved {oldIp : Option String}
      (h : ((store.collapseLegacyGhosts server server.id).migratePinOnAddressChange oldIp
        server.ip).satellites[row.id]? = some row)
      : store.satellites[row.id]? = some row := by
    rw [(migratePinOnAddressChange_eq _ _ _).2] at h
    apply row_of_collapseLegacyGhosts h
  split at hrow
  . apply hmoved hrow
  . simp only [putRow, TreeMap.getElem?_insert] at hrow
    split at hrow
    . cases hrow
      have : isBlank server.machineId = true := hlegacy
      rw [hstable] at this
      contradiction
    . apply hmoved hrow

theorem sharedKey_refreshFromDiscovery {discovered : List DiscoveredServer}
    (h : store.sharedKey x = some keyHex) (hfold : ∀ server ∈ discovered, store.FoldsNoKey server)
    : (store.refreshFromDiscovery discovered).sharedKey x = some keyHex := by
  have hservers : ∀ server ∈ discovered.filter fun s =>
      !isBlank s.machineId && isEligible store.remembered s,
      isBlank server.machineId = false ∧ store.Stands x server := by
    intro server hserver
    simp only [List.mem_filter, Bool.and_eq_true, Bool.not_eq_true'] at hserver
    exact ⟨hserver.2.1, (hfold server hserver.1).stands h⟩
  unfold refreshFromDiscovery
  dsimp only
  clear hfold
  generalize discovered.filter (fun s => !isBlank s.machineId && isEligible store.remembered s) =
    servers at hservers ⊢
  induction servers generalizing store with
  | nil => apply h
  | cons server servers ih =>
    rw [List.forall_mem_cons] at hservers
    obtain ⟨⟨hstable, hghosts⟩, hrest⟩ := hservers
    apply ih (sharedKey_rememberSatellite h hghosts)
    intro server' hserver'
    obtain ⟨hstable', hghosts'⟩ := hrest server' hserver'
    refine ⟨hstable', ?_⟩
    intro _ row hrow hlegacy
    have hblank : isBlank row.machineId = true := by
      simp only [isLegacyAt, Bool.and_eq_true] at hlegacy
      apply hlegacy.1.1
    apply hghosts' hstable' row (mem_remembered_of_legacy hstable hrow hblank) hlegacy

end Keys

end ConnectionStore

end Store
