import Std.Data.TreeMap
import Dish.Models.Basic

/-!
This module contains the persistent store: the satellites, their keys and their certificates.
-/

open Std Models

namespace Store

variable {row : RememberedWifi}

def isSpace (c : Char) : Bool :=
  let n := c.toNat
  n = 0x20 ∨ (0x09 ≤ n ∧ n ≤ 0x0D) ∨ n = 0x85 ∨ n = 0xA0 ∨ n = 0x1680 ∨
    (0x2000 ≤ n ∧ n ≤ 0x200A) ∨ n = 0x2028 ∨ n = 0x2029 ∨ n = 0x202F ∨ n = 0x205F ∨ n = 0x3000

def isBlank (s : String) : Bool :=
  s.toList.all isSpace

structure ConnectionStore where
  satellites : TreeMap String RememberedWifi
  keys : TreeMap String String
  pins : TreeMap String String
  filed : ∀ (id : String) (row : RememberedWifi), satellites[id]? = some row →
    row.id = id ∧ row.toDiscovered.id = id

namespace ConnectionStore

def empty : ConnectionStore where
  satellites := ∅
  keys := ∅
  pins := ∅
  filed := by simp

def remembered (store : ConnectionStore) : List RememberedWifi :=
  store.satellites.toList.map (·.2)

def sharedKey (store : ConnectionStore) (id : String) : Option String :=
  store.keys[id]?.filter (· ≠ "")

def setSharedKey (store : ConnectionStore) (id keyHex : String) : ConnectionStore :=
  { store with keys := store.keys.insert id keyHex }

def forgetSharedKey (store : ConnectionStore) (id : String) : ConnectionStore :=
  { store with keys := store.keys.erase id }

def pinnedFingerprint (store : ConnectionStore) (host : String) : Option String :=
  store.pins[host]?.filter (· ≠ "")

def pin (store : ConnectionStore) (host fingerprintHex : String) : ConnectionStore :=
  { store with pins := store.pins.insert host fingerprintHex }

def forgetPin (store : ConnectionStore) (host : String) : ConnectionStore :=
  { store with pins := store.pins.erase host }

def removeRow (store : ConnectionStore) (id : String) : ConnectionStore where
  satellites := store.satellites.erase id
  keys := store.keys
  pins := store.pins
  filed := by
    intro id' row h
    rw [TreeMap.getElem?_erase] at h
    split at h
    . contradiction
    . apply store.filed id' row h

def putRow (store : ConnectionStore) (row : RememberedWifi) (hrow : row.toDiscovered.id = row.id)
    : ConnectionStore where
  satellites := store.satellites.insert row.id row
  keys := store.keys
  pins := store.pins
  filed := by
    intro id row' h
    rw [TreeMap.getElem?_insert] at h
    split at h
    . next heq =>
      cases h
      rw [Std.compare_eq_iff_eq] at heq
      rw [hrow]
      simp [heq]
    . apply store.filed id row' h

theorem mem_remembered {store : ConnectionStore}
    : row ∈ store.remembered ↔ store.satellites[row.id]? = some row := by
  unfold remembered
  simp only [List.mem_map, Prod.exists, exists_eq_right]
  constructor
  . rintro ⟨id, h⟩
    rw [TreeMap.mem_toList_iff_getElem?_eq_some] at h
    rw [(store.filed id row h).1]
    apply h
  . intro h
    refine ⟨row.id, ?_⟩
    rw [TreeMap.mem_toList_iff_getElem?_eq_some]
    apply h

theorem id_toDiscovered_of_mem {store : ConnectionStore} (h : row ∈ store.remembered)
    : row.toDiscovered.id = row.id := by
  rw [mem_remembered] at h
  apply (store.filed row.id row h).2

def isStableAt (server : DiscoveredServer) (row : RememberedWifi) : Bool :=
  !isBlank row.machineId && row.ip == server.ip && row.udpPort == server.udpPort

def isLegacyAt (server : DiscoveredServer) (row : RememberedWifi) : Bool :=
  isBlank row.machineId && row.ip == server.ip && row.udpPort == server.udpPort

def refreshedFrom (server : DiscoveredServer) (row : RememberedWifi) : RememberedWifi :=
  { row with name := server.name, pairPort := server.pairPort, httpPort := server.httpPort }

theorem id_refreshedFrom {server : DiscoveredServer} (h : row.toDiscovered.id = row.id)
    : (refreshedFrom server row).toDiscovered.id = (refreshedFrom server row).id := by
  apply h

def refreshKnownBox (store : ConnectionStore) (server : DiscoveredServer) : Option ConnectionStore :=
  match hrow : store.remembered.find? (isStableAt server) with
  | none => none
  | some row =>
    if refreshedFrom server row ≠ row then
      have hmem := List.mem_of_find?_eq_some hrow
      some <| store.putRow (refreshedFrom server row) (id_refreshedFrom (id_toDiscovered_of_mem hmem))
    else
      some store

def collapseLegacyGhost (id : String) (store : ConnectionStore) (row : RememberedWifi)
    : ConnectionStore :=
  let carried :=
    if (store.sharedKey id).isNone then
      match store.sharedKey row.id with
      | some ghostKey => store.setSharedKey id ghostKey
      | none => store
    else
      store
  (carried.forgetSharedKey row.id).removeRow row.id

def collapseLegacyGhosts (store : ConnectionStore) (server : DiscoveredServer) (id : String)
    : ConnectionStore :=
  (store.remembered.filter (isLegacyAt server)).foldl (collapseLegacyGhost id) store

def migratePinOnAddressChange (store : ConnectionStore) (oldIp : Option String) (newIp : String)
    : ConnectionStore :=
  match oldIp with
  | none => store
  | some oldIp =>
    if oldIp = newIp then
      store
    else
      let migrated :=
        if (store.pinnedFingerprint newIp).isNone then
          match store.pinnedFingerprint oldIp with
          | some oldPin => store.pin newIp oldPin
          | none => store
        else
          store
      migrated.forgetPin oldIp

def rowOf (server : DiscoveredServer) : RememberedWifi where
  id := server.id
  name := server.name
  ip := server.ip
  udpPort := server.udpPort
  pairPort := server.pairPort
  httpPort := server.httpPort
  machineId := server.machineId

@[simp]
theorem id_rowOf (server : DiscoveredServer) : (rowOf server).id = server.id := by
  rfl

def upsert (store : ConnectionStore) (server : DiscoveredServer) : ConnectionStore :=
  let id := server.id
  let folded :=
    if isBlank server.machineId then store else store.collapseLegacyGhosts server id
  let existing := folded.satellites[id]?
  let moved := folded.migratePinOnAddressChange (existing.map (·.ip)) server.ip
  if existing = some (rowOf server) then moved else moved.putRow (rowOf server) rfl

def rememberSatellite (store : ConnectionStore) (server : DiscoveredServer) : ConnectionStore :=
  if isBlank server.machineId then
    match store.refreshKnownBox server with
    | some refreshed => refreshed
    | none => store.upsert server
  else
    store.upsert server

def isEligible (rows : List RememberedWifi) (server : DiscoveredServer) : Bool :=
  rows.any (fun r => r.id == server.id) || rows.any (isLegacyAt server)

def refreshFromDiscovery (store : ConnectionStore) (discovered : List DiscoveredServer)
    : ConnectionStore :=
  let rows := store.remembered
  (discovered.filter fun s => !isBlank s.machineId && isEligible rows s).foldl rememberSatellite store

def forgetSatellite (store : ConnectionStore) (id : String) : ConnectionStore :=
  let unpinned :=
    match store.satellites[id]? with
    | some row => store.forgetPin row.ip
    | none => store
  (unpinned.forgetSharedKey id).removeRow id

end ConnectionStore

end Store
