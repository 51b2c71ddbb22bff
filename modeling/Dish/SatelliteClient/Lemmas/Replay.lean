import Dish.SatelliteClient.Lemmas.Receive

/-!
This module contains what the handlers see of the receive thread.
-/

open Seqlock Wire Reducer Transition

namespace SatelliteClient
namespace State

variable {s s' : State} {sodium : Sodium}

theorem Guarding.counters_increase (hs : s.Guarding)
    : s.dispatched.Pairwise fun e f =>
        e.install = f.install → e.datagram.counter < f.datagram.counter := by
  apply hs.dispatched_sorted.imp
  intro e f hlt hinstall
  unfold Dispatched.stamp at hlt
  rw [Prod.Lex.toLex_lt_toLex] at hlt
  rw [UInt32.lt_iff_toNat_lt]
  simp only at hlt
  omega

theorem Guarding.install_eq_of_key_eq (hs : s.Guarding)
    (hnodup : (s.installed.map (·.key)).Nodup) {e f : Dispatched} (he : e ∈ s.dispatched)
    (hf : f ∈ s.dispatched) (hkey : e.key = f.key)
    : e.install = f.install := by
  have hekey := hs.dispatched_key e he
  have hfkey := hs.dispatched_key f hf
  rw [← List.getElem?_map] at hekey hfkey
  rw [← hkey] at hfkey
  have hlt := (List.getElem?_eq_some_iff.mp hekey).1
  exact (List.getElem?_inj hlt hnodup).mp (hekey.trans hfkey.symm)

theorem dispatched_once (sodium : Sodium) (as : List Action) (s : State)
    (hrun : run (step sodium) init as = some s) (hok : Along (step sodium) Guarded init as)
    : (s.dispatched.Pairwise fun e f =>
        e.install = f.install → e.datagram.counter < f.datagram.counter) ∧
      (s.dispatched.Pairwise fun e f => (e.install, e.datagram) ≠ (f.install, f.datagram)) ∧
      ((s.installed.map (·.key)).Nodup →
        s.dispatched.Pairwise fun e f => (e.key, e.datagram) ≠ (f.key, f.datagram)) ∧
      ∀ e ∈ s.dispatched, e.install = e.rekeys := by
  have hs := guarding_of_run .init hok hrun
  have hincrease := hs.counters_increase
  refine ⟨hincrease, ?_, ?_, hs.dispatched_current⟩
  . apply hincrease.imp
    intro e f hlt heq
    rw [Prod.mk.injEq] at heq
    have := hlt heq.1
    rw [heq.2] at this
    exact UInt32.lt_irrefl _ this
  . intro hnodup
    apply hincrease.imp_of_mem
    intro e f he hf hlt heq
    rw [Prod.mk.injEq] at heq
    have := hlt (hs.install_eq_of_key_eq hnodup he hf heq.1)
    rw [heq.2] at this
    exact UInt32.lt_irrefl _ this

def ackZero : Datagram where
  token := Vector.replicate 4 0
  counter := 0
  body := [74, 49, 44, 99, 31, 72, 214, 235, 130, 225, 104, 4, 105, 73, 36, 174, 84, 84, 204, 97]

def sodiumAckZero : Sodium where
  hmacSha256 := fun _ _ => []
  sha256 := fun _ => []
  aeadDecrypt := fun ciphertext aad nonce key =>
    if ciphertext = ackZero.body ∧ aad = buildAad 0 ∧ nonce = buildNonce kDirServerToClient 0 ∧
        key = (numbered 1).key.toList then
      some [0, 3, 0, 0]
    else
      none

def keyed : State :=
  init.install (numbered 1)

theorem run_keyed : run (step sodium) init (setConnectionParams (numbered 1)) = some keyed :=
  run_setConnectionParams rfl _

theorem guarded_along_rekey (hs : s.Rekeyed) (hidle : s.receiver = .idle) (as : List RekeyAction)
    : Along (step sodium) Guarded s (as.map .rekey) := by
  induction as generalizing s with
  | nil => trivial
  | cons a as ih =>
    refine ⟨?_, ?_⟩
    . cases a with
      | endWrite =>
        intro d r plain h
        rw [hidle] at h
        contradiction
      | _ => trivial
    . intro s' h
      apply ih (hs.rekeyStep h)
      rw [(hs.advances h).receiver_eq]
      exact hidle

theorem openIncoming_ackZero
    : openIncoming sodiumAckZero ackZero keyed.copyOf keyed.recvMark = some [0, 3, 0, 0] := by
  decide

theorem dispatched_once_ackZero
    : ∃ s, run (step sodiumAckZero) init
          (setConnectionParams (numbered 1) ++ (openPacket ackZero ++ takePacket)) = some s ∧
        Along (step sodiumAckZero) Guarded init
          (setConnectionParams (numbered 1) ++ (openPacket ackZero ++ takePacket)) ∧
        s.dispatched.length = 1 ∧ ∀ e ∈ s.dispatched, e.install = e.rekeys := by
  have hopen := run_openPacket rfl (by decide) (by decide) openIncoming_ackZero
  have hrun : run (step sodiumAckZero) init
      (setConnectionParams (numbered 1) ++ (openPacket ackZero ++ takePacket)) =
        some (keyed.takenBy ackZero keyed.copyOf [0, 3, 0, 0]) := by
    rw [run_append_of_run run_keyed, run_append_of_run hopen]
    exact run_takePacket
  have hok : Along (step sodiumAckZero) Guarded init
      (setConnectionParams (numbered 1) ++ (openPacket ackZero ++ takePacket)) := by
    refine along_append run_keyed (guarded_along_rekey .init rfl _) ?_
    refine along_append hopen ?_ ⟨?_, ?_⟩
    . apply along_of_forall
      intro a ha t
      simp only [openPacket, List.map_cons, List.map_nil, List.mem_cons, List.not_mem_nil,
        or_false] at ha
      rcases ha with rfl | rfl | rfl | rfl | rfl | rfl | rfl | rfl | rfl | rfl <;> trivial
    . intro d r mark plain h
      cases h
      exact ⟨by decide, fun _ _ e he => by cases he⟩
    . intro s' _
      apply along_of_forall
      intro a ha t
      simp only [List.map_cons, List.map_nil, List.mem_singleton] at ha
      subst ha
      trivial
  exact ⟨_, hrun, hok, rfl, (dispatched_once _ _ _ hrun hok).2.2.2⟩

theorem counter_zero_dispatched_twice
    : ¬ ∀ (as : List Action) (s : State), run (step sodiumAckZero) init as = some s →
        s.dispatched.Pairwise fun e f =>
          e.install = f.install → e.datagram.counter < f.datagram.counter := by
  intro hclaim
  let s₁ : State := keyed.takenBy ackZero keyed.copyOf [0, 3, 0, 0]
  have hopen := run_openPacket rfl (by decide) (by decide) openIncoming_ackZero
  have htake : run (step sodiumAckZero) _ takePacket = some s₁ := run_takePacket
  have hopen' : run (step sodiumAckZero) s₁ (openPacket ackZero) = _ :=
    run_openPacket rfl (by decide) (by decide) openIncoming_ackZero
  have hrun : run (step sodiumAckZero) init (setConnectionParams (numbered 1) ++
      (openPacket ackZero ++ (takePacket ++ (openPacket ackZero ++ takePacket)))) =
        some (s₁.takenBy ackZero keyed.copyOf [0, 3, 0, 0]) := by
    rw [run_append_of_run run_keyed, run_append_of_run hopen, run_append_of_run htake]
    rw [run_append_of_run hopen']
    exact run_takePacket
  have htwice := hclaim _ _ hrun
  simp [s₁, takenBy, keyed, install, init, dispatchIncoming] at htwice

end State
end SatelliteClient
