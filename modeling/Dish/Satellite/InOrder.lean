import Dish.Manager.Lemmas.InTurn

/-!
This module contains the manager together with its satellites, as far as the sessions go.
-/

open Std Models Wire Wifi

namespace Wifi

def Call.sessionFor? : Call → Option (String × Credentials)
  | .putSession id _ _ _ sent _ _ | .rekey id _ _ sent _ => some (id, sent)
  | _ => none

end Wifi

namespace Satellite

structure Ids where
  connectionIdOf : String → String
  injective : Function.Injective connectionIdOf

structure Served where
  manager : Manager
  puts : TreeMap Nat (String × Credentials) := ∅
  answers : TreeMap Nat HttpResult := ∅
  answered : TreeMap String Nat := ∅
  session : TreeMap String SessionMaterial := ∅

inductive Move where
  | client (e : Event)
  | answer (rid : Nat) (result : HttpResult)
  | deliver (rid : Nat) (linkOpens : Bool)

namespace Served

def isClients (m : Manager) : Event → Bool
  | .reply rid result _ =>
    result.status = 0 ∨ (m.requests[rid]?.bind fun r => r.call.sessionFor?) = none
  | _ => true

def putOut (m' : Manager) : Event → Option (Nat × String × Credentials)
  | .encrypted rid _ =>
    (m'.requests[rid]?.bind fun r => if r.phase = .sent then r.call.sessionFor? else none).map (rid, ·)
  | _ => none

def client (w : Served) (m' : Manager) (e : Event) : Served :=
  match putOut m' e with
  | some (rid, put) => { w with manager := m', puts := w.puts.insert rid put }
  | none => { w with manager := m' }

def answer (sodium : Sodium) (ids : Ids) (w : Served) (rid : Nat) (id : String) (sent : Credentials)
    (result : HttpResult)
    : Option Served :=
  let w :=
    { w with answers := w.answers.insert rid result, answered := w.answered.insert id rid }
  if 200 ≤ result.status ∧ result.status ≤ 299 then
    if result.session.connectionId = some (ids.connectionIdOf id) then
      (sessionMaterialFrom sodium result.session sent.pairingKey).map fun material =>
        { w with session := w.session.insert id material }
    else
      none
  else if result.status ≠ 0 ∧ result.session.connectionId = none then
    some w
  else
    none

def step (sodium : Sodium) (ids : Ids) (w : Served) : Move → Option Served
  | .client e =>
    if isClients w.manager e then (w.manager.step sodium e).map fun m' => w.client m' e else none
  | .answer rid result =>
    w.puts[rid]?.bind fun (id, sent) =>
      if (w.answered[id]?).any (rid ≤ ·) then none else w.answer sodium ids rid id sent result
  | .deliver rid linkOpens =>
    w.answers[rid]?.bind fun result =>
      (w.manager.step sodium (.reply rid result linkOpens)).map fun m' => { w with manager := m' }

def InTurn (w : Served) : Move → Prop
  | .client e => w.manager.InTurn e
  | _ => True

end Served

end Satellite
