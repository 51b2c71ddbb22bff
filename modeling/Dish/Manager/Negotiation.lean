import Dish.Manager.Step

/-!
This module contains satellites that speak a range of protocol versions, and a connect attempt
against one of them.
-/

open Std Models Reducer Net Wire Store Connection

namespace Wifi

def Call.sessionPut? (id : String) : Call → Option SessionPut
  | .putSession id' _ _ _ _ _ body => if id' = id then some body else none
  | _ => none

structure HttpResult.Grants (sodium : Sodium) (version : Int) (result : HttpResult) : Prop where
  ok : 200 ≤ result.status ∧ result.status ≤ 299
  connectionId : result.session.connectionId.isSome
  material : ∀ pairingKey, (sessionMaterialFrom sodium result.session pairingKey).isSome
  version : result.session.protocolVersion = version

/-- An offer outside the range is answered with a 409 that names the range. -/
structure RangedSatellite (sodium : Sodium) where
  supportedMin : Int
  supported : Int
  certDer : List UInt8
  answer : SessionPut → HttpResult
  supportedMin_pos : 1 ≤ supportedMin
  supported_le : supportedMin ≤ supported
  certDer_ne_nil : certDer ≠ []
  accepts : ∀ body, supportedMin ≤ body.protocolVersion → body.protocolVersion ≤ supported →
    (answer body).Grants sodium body.protocolVersion
  rejects : ∀ body, ¬ (supportedMin ≤ body.protocolVersion ∧ body.protocolVersion ≤ supported) →
    (answer body).status = 409 ∧ (answer body).session.supportedProtocol = supported ∧
    (answer body).session.supportedProtocolMin = supportedMin

namespace RangedSatellite

variable {sodium : Sodium}

def Supports (sat : RangedSatellite sodium) (version : Int) : Prop :=
  sat.supportedMin ≤ version ∧ version ≤ sat.supported

def Overlaps (sat : RangedSatellite sodium) : Prop :=
  ∃ version, sat.Supports version ∧ kProtocolVersionMin ≤ version ∧ version ≤ kProtocolVersion

end RangedSatellite

namespace Manager

variable {sodium : Sodium}

def outstandingPut (m : Manager) (id : String) : Option (Nat × SessionPut) :=
  m.requests.toList.findSome? fun entry => (entry.2.call.sessionPut? id).map fun body => (entry.1, body)

def exchange (m : Manager) (sat : RangedSatellite sodium) (id : String) : Option Manager :=
  match m.outstandingPut id with
  | none => none
  | some (rid, body) =>
    Transition.run (step sodium) m [.encrypted rid sat.certDer, .reply rid (sat.answer body) true]

inductive Served (sat : RangedSatellite sodium) (id : String) : Nat → Manager → Manager → Prop where
  | done {m : Manager} (h : m.outstandingPut id = none) : Served sat id 0 m m
  | exchange {n : Nat} {m m' m'' : Manager} (h : m.exchange sat id = some m')
    (hrest : Served sat id n m' m'')
    : Served sat id (n + 1) m m''

def offer (m : Manager) (id : String) : Int :=
  ((m.conn id).map (·.offeredProtocolVersion)).getD kProtocolVersion

/--
The satellite is paired, may be dialled and shows its certificate, and no attempt is under way.
-/
structure MayAttempt (m : Manager) (sat : RangedSatellite sodium) (server : DiscoveredServer)
    (intent : ConnectIntent) : Prop where
  reachable : refusesHost server = false
  free : m.heldByUser server.id intent = false
  paired : (m.credentialsFor sodium server.id).isSome
  known : tofuVerdict (m.store.pinnedFingerprint server.ip) (sha256FingerprintHex sodium sat.certDer)
    ≠ .Mismatch
  down : ∀ c, m.conn server.id = some c → c.state ≠ .Live ∧ c.state ≠ .Linking
  quiet : m.outstandingPut server.id = none

instance (m : Manager) (sat : RangedSatellite sodium) (server : DiscoveredServer)
    (intent : ConnectIntent) : Decidable (m.MayAttempt sat server intent) :=
  decidable_of_iff (refusesHost server = false ∧ m.heldByUser server.id intent = false ∧
    (m.credentialsFor sodium server.id).isSome ∧
    tofuVerdict (m.store.pinnedFingerprint server.ip) (sha256FingerprintHex sodium sat.certDer)
      ≠ .Mismatch ∧
    (m.conn server.id).all (fun c => c.state ≠ .Live ∧ c.state ≠ .Linking) ∧
    m.outstandingPut server.id = none)
    ⟨fun ⟨reachable, free, paired, known, down, quiet⟩ =>
      { reachable, free, paired, known, quiet,
        down := fun c hc => of_decide_eq_true ((Option.all_eq_true _ _).mp down c hc) },
    fun h => ⟨h.reachable, h.free, h.paired, h.known,
      (Option.all_eq_true _ _).mpr fun c hc => decide_eq_true (h.down c hc), h.quiet⟩⟩

def SettledWith (m : Manager) (sat : RangedSatellite sodium) (id : String) : Prop :=
  ∃ c, m.conn id = some c ∧ c.state = .Live ∧ sat.Supports c.settledProtocolVersion ∧
    kProtocolVersionMin ≤ c.settledProtocolVersion ∧ c.settledProtocolVersion ≤ kProtocolVersion

end Manager

end Wifi
