import Dish.SatelliteClient.Lemmas.Alone

/-!
This module contains what the wire sees of a sender.
-/

open Seqlock Wire Reducer Transition

namespace SatelliteClient
namespace State

variable {as : List Action}

variable {s s' : State} {sodium : Sodium}

def Spent (s : State) : Prop :=
  2 ^ 32 ≤ s.sendCounter.toNat ∧ ∀ i sequence, (s.senders i).sequence? = some sequence →
    2 ^ 32 ≤ sequence.toNat

theorem Spent.setSender (hs : s.Spent) {i : Nat} {t : Sender}
    (ht : ∀ sequence, t.sequence? = some sequence → 2 ^ 32 ≤ sequence.toNat)
    : (s.setSender i t).Spent := by
  refine ⟨hs.1, ?_⟩
  intro j sequence hj
  by_cases hji : j = i
  . subst hji
    rw [setSender_senders_self] at hj
    exact ht sequence hj
  . rw [setSender_senders_ne _ _ hji] at hj
    exact hs.2 j sequence hj

theorem Nonces.spent (hs : s.Nonces) (h : 2 ^ 32 < s.sendCounter.toNat ∨
      s.sendCounter.toNat = 2 ^ 32 ∧ ∀ i, (s.senders i).sequence? = none)
    : s.Spent := by
  rcases h with h | ⟨h, hnone⟩
  . refine ⟨by omega, ?_⟩
    intro i sequence hi
    have hdrawn : s.sendCounter.toNat = sequence.toNat + 1 ∨ s.sendCounter = 1 := by
      have hok := hs.ok i
      cases heq : s.senders i with
      | drew msg r q =>
        rw [heq] at hok hi
        cases hi
        exact hok.2.2.1
      | checked msg r q ctr =>
        rw [heq] at hok hi
        cases hi
        exact hok.2.2.2.1
      | _ =>
        rw [heq] at hi
        cases hi
    rcases hdrawn with hdrawn | hone
    . omega
    . rw [hone] at h
      simp at h
  . refine ⟨by omega, ?_⟩
    intro i sequence hi
    rw [hnone i] at hi
    contradiction

theorem Spent.senderStep (hs : s.Spent) (hn : s.Nonces) {i : Nat} {a : SenderAction}
    (hwidth : s.InWidth (.sender i a)) (h : s.senderStep i a = some s')
    : s'.Spent ∧ s'.sealed = s.sealed := by
  unfold State.senderStep at h
  split at h
  . split at h
    . cases h
      exact ⟨hs, rfl⟩
    . cases h
      exact ⟨hs.setSender (by simp [Sender.sequence?]), rfl⟩
  . cases h
    exact ⟨hs.setSender (by simp [Sender.sequence?]), rfl⟩
  . split at h
    . cases h
      exact ⟨hs.setSender (by simp [Sender.sequence?]), rfl⟩
    . cases h
      exact ⟨hs.setSender (by simp [Sender.sequence?]), rfl⟩
  . split at h
    . cases h
      exact ⟨hs.setSender (by simp [Sender.sequence?]), rfl⟩
    . contradiction
  . split at h
    . contradiction
    . split at h
      . cases h
        exact ⟨hs.setSender (by simp [Sender.sequence?]), rfl⟩
      . cases h
        exact ⟨hs.setSender (by simp [Sender.sequence?]), rfl⟩
  . next msg r _ =>
    split at h
    . contradiction
    . cases h
      have := hs.setSender (i := i) (t := .gated msg r) (by simp [Sender.sequence?])
      exact ⟨this, rfl⟩
  -- draw: the number drawn is past the wire already.
  . next msg r _ =>
    cases h
    have hlt : s.sendCounter.toNat + 1 < 2 ^ 64 := hwidth
    have := hs.setSender (i := i) (t := .drew msg r s.sendCounter) (by
      intro sequence heq
      cases heq
      exact hs.1)
    refine ⟨⟨?_, this.2⟩, rfl⟩
    simp only [UInt64.toNat_add, UInt64.reduceToNat]
    have := hs.1
    omega
  . next hi =>
    have hspent := hs.2 i _ (by rw [hi]; rfl)
    rw [wireSendCounter_eq_none hspent] at h
    cases h
    exact ⟨hs.setSender (by simp [Sender.sequence?]), rfl⟩
  -- seal: nobody got here with a number of the wire.
  . next msg r sequence ctr ok sent hi =>
    have hspent := hs.2 i _ (by rw [hi]; rfl)
    have hok := hn.ok i
    rw [hi] at hok
    have hctr := hok.2.1
    have := ctr.toNat_lt
    omega
  . cases h
    have := hs.setSender (i := i) (t := .idle) (by simp [Sender.sequence?])
    exact ⟨this, rfl⟩
  . contradiction

theorem Spent.step (hs : s.Spent) (hseal : s.Sealing) {a : Action} (hwidth : s.InWidth a)
    (hreset : a ≠ .rekey .resetCounter) (h : s.step sodium a = some s')
    : s'.Spent ∧ s'.sealed = s.sealed := by
  cases a with
  | sender i a => exact hs.senderStep hseal.nonces hwidth h
  | receiver a =>
    obtain ⟨_, _, _, hcounter, _, hsenders, hsealed⟩ := receiverStep_frame h
    refine ⟨?_, hsealed⟩
    unfold Spent
    rw [hcounter, hsenders]
    exact hs
  | rekey a =>
    have ha := hseal.rekeyed.advances h
    have hcounter : s'.sendCounter = s.sendCounter := by
      apply rekeyStep_sendCounter _ h
      intro heq
      exact hreset (by rw [heq])
    refine ⟨?_, ha.sealed_eq⟩
    unfold Spent
    rw [hcounter, ha.senders_eq]
    exact hs
  | openSocket =>
    cases h
    exact ⟨hs, rfl⟩
  | closeSocket =>
    unfold State.step at h
    simp only at h
    split at h
    . contradiction
    . cases h
      exact ⟨hs, rfl⟩

theorem sealed_eq_of_spent (hs : s.Spent) (hseal : s.Sealing)
    (hok : Along (step sodium) (fun s a => s.InWidth a ∧ s.Fresh a) s as)
    (hreset : .rekey .resetCounter ∉ as) (h : run (step sodium) s as = some s')
    : s'.sealed = s.sealed := by
  induction as generalizing s with
  | nil =>
    cases h
    rfl
  | cons a as ih =>
    obtain ⟨t, ht, h⟩ := run_cons_eq_some.mp h
    obtain ⟨⟨hwidth, hfresh⟩, hok⟩ := along_cons.mp hok
    rw [List.mem_cons, not_or] at hreset
    obtain ⟨hspent, hsealed⟩ := hs.step hseal hwidth (Ne.symm hreset.1) ht
    rw [← hsealed]
    exact ih hspent (hseal.step hwidth hfresh ht) (hok t ht) hreset.2 h

theorem sealing_of_run (hs : s.Sealing)
    (hok : Along (step sodium) (fun s a => s.InWidth a ∧ s.Fresh a) s as)
    (h : run (step sodium) s as = some s')
    : s'.Sealing := by
  refine invariant_of_along ?_ hs hok h
  intro s a s' hs hP h
  exact hs.step hP.1 hP.2 h

theorem Sealing.install_eq_of_key_eq (hs : s.Sealing) {e f : Sealed} (he : e ∈ s.sealed)
    (hf : f ∈ s.sealed) (hkey : e.key = f.key)
    : e.install = f.install := by
  have hnodup := hs.freshKeys.installed
  have hekey := hs.nonces.sealed_key e he
  have hfkey := hs.nonces.sealed_key f hf
  rw [← List.getElem?_map] at hekey hfkey
  rw [← hkey] at hfkey
  have hlt := (List.getElem?_eq_some_iff.mp hekey).1
  exact (List.getElem?_inj hlt hnodup).mp (hekey.trans hfkey.symm)

theorem Sealing.counters_increase (hs : s.Sealing)
    : s.sealed.Pairwise fun e f => e.key = f.key → e.counter < f.counter := by
  apply hs.nonces.sealed_sorted.imp_of_mem
  intro e f he hf hlt hkey
  unfold Sealed.stamp at hlt
  rw [Prod.Lex.toLex_lt_toLex] at hlt
  have hinstall := hs.install_eq_of_key_eq he hf hkey
  rw [UInt32.lt_iff_toNat_lt]
  simp only at hlt
  omega

theorem sealed_nonces_unique (sodium : Sodium) (as : List Action) (s : State)
    (hrun : run (step sodium) init as = some s)
    (hok : Along (step sodium) (fun s a => s.InWidth a ∧ s.Fresh a) init as)
    : (s.sealed.Pairwise fun e f => (e.key, e.counter) ≠ (f.key, f.counter)) ∧
      (s.sealed.Pairwise fun e f => e.key = f.key → e.counter < f.counter) ∧
      (∀ e ∈ s.sealed, 1 ≤ e.counter.toNat ∧ e.counter.toNat ≤ 2 ^ 32 - 1) ∧
      ∀ bs s',
        (2 ^ 32 < s.sendCounter.toNat ∨
          s.sendCounter.toNat = 2 ^ 32 ∧ ∀ i, (s.senders i).sequence? = none) →
        run (step sodium) s bs = some s' →
        Along (step sodium) (fun s a => s.InWidth a ∧ s.Fresh a) s bs →
        .rekey .resetCounter ∉ bs →
        s'.sealed = s.sealed := by
  have hs := sealing_of_run .init hok hrun
  have hincrease := hs.counters_increase
  refine ⟨?_, hincrease, ?_, ?_⟩
  . apply hincrease.imp
    intro e f hlt heq
    rw [Prod.mk.injEq] at heq
    have := hlt heq.1
    rw [heq.2] at this
    exact UInt32.lt_irrefl _ this
  . intro e he
    have := e.counter.toNat_lt
    exact ⟨hs.nonces.sealed_pos e he, by omega⟩
  . intro bs s' hpassed hbs hokbs hreset
    exact sealed_eq_of_spent (hs.nonces.spent hpassed) hs hokbs hreset hbs

theorem numbered_key_injective {k l : Nat} (hk : k < 2 ^ 32) (hl : l < 2 ^ 32)
    (h : (numbered k).key = (numbered l).key)
    : k = l := by
  have h := congrArg Vector.toList h
  have := putU32Be_injective (List.append_cancel_right h)
  rw [ofNat_eq_ofNat] at this
  omega

theorem numbered_fresh {first : Nat} (hfirst : first < 2 ^ 32)
    : (numbered first).key ∉ ((List.range first).map numbered).map (·.key) := by
  rw [List.map_map, List.mem_map]
  rintro ⟨k, hk, heq⟩
  rw [List.mem_range] at hk
  have := numbered_key_injective (by omega) hfirst heq
  omega

def sendOnce : List Action :=
  .openSocket :: setConnectionParams (numbered 1) ++ (readMaterial 0 ⟨0, []⟩ ++ sealAndSend 0)

theorem sealed_nonces_unique_sendOnce
    : ∃ sodium s, run (step sodium) init sendOnce = some s ∧
        Along (step sodium) (fun s a => s.InWidth a ∧ s.Fresh a) init sendOnce ∧
        s.sealed.length = 1 ∧ ∀ e ∈ s.sealed, 1 ≤ e.counter.toNat ∧ e.counter.toNat ≤ 2 ^ 32 - 1 := by
  let sodium : Sodium := ⟨fun _ _ => [], fun _ => [], fun _ _ _ _ => none⟩
  let s₀ : State := { init with sock := true }
  let s₁ : State := s₀.install (numbered 1)
  let s₂ : State := s₁.setSender 0 (.copied ⟨0, []⟩ s₁.copyOf)
  let s₃ : State := s₂.sealedBy 0 ⟨0, []⟩ s₁.copyOf 1
  have hopen : init.step sodium .openSocket = some s₀ := rfl
  have hkey : run (step sodium) s₀ (setConnectionParams (numbered 1)) = some s₁ :=
    run_setConnectionParams rfl _
  have hread : run (step sodium) s₁ (readMaterial 0 ⟨0, []⟩) = some s₂ :=
    run_readMaterial rfl rfl (by decide) (by decide)
  have hseal : run (step sodium) s₂ (sealAndSend 0) = some s₃ :=
    run_sealAndSend (setSender_senders_self _ _ _) rfl rfl rfl rfl
  have hrun : run (step sodium) init sendOnce = some s₃ := by
    rw [sendOnce, List.cons_append, run_cons, hopen, Option.bind_some]
    rw [run_append_of_run hkey, run_append_of_run hread]
    exact hseal
  have hok : Along (step sodium) (fun s a => s.InWidth a ∧ s.Fresh a) init sendOnce := by
    refine along_cons_of_step hopen ⟨trivial, trivial⟩ ?_
    refine along_append hkey (along_setConnectionParams (by decide)) ?_
    refine along_append hread along_readMaterial ?_
    exact along_sealAndSend (setSender_senders_self _ _ _) rfl (by decide) (by decide)
  exact ⟨sodium, s₃, hrun, hok, rfl, (sealed_nonces_unique sodium _ _ hrun hok).2.2.1⟩

theorem fresh_along_of_along (h : Along (step sodium) (fun s a => s.InWidth a ∧ s.Fresh a) s as)
    : Along (step sodium) (fun s a => s.Fresh a) s as := by
  refine along_mono ?_ h
  intro s a h
  exact h.2

theorem fresh_along_sealAndSend (i : Nat)
    : Along (step sodium) (fun s a => s.Fresh a) s (sealAndSend i) := by
  apply along_of_forall
  intro a ha t
  simp only [sealAndSend, List.map_cons, List.map_nil, List.mem_cons, List.not_mem_nil,
    or_false] at ha
  rcases ha with rfl | rfl | rfl | rfl | rfl <;> trivial

def rekeys (first : Nat) : Nat → List Action
  | 0 => []
  | n + 1 => setConnectionParams (numbered first) ++ rekeys (first + 1) n

theorem run_rekeys (sodium : Sodium) (first n : Nat) (hrekey : s.rekey = none)
    (hinstalled : s.installed = (List.range first).map numbered) (hroom : first + n ≤ 2 ^ 32)
    : ∃ s', run (step sodium) s (rekeys first n) = some s' ∧
        Along (step sodium) (fun s a => s.Fresh a) s (rekeys first n) ∧
        s'.cell.gen = s.cell.gen + UInt32.ofNat (2 * n) ∧ s'.senders = s.senders ∧
        s'.sealed = s.sealed ∧ s'.sendGate = s.sendGate ∧ s'.sock = s.sock ∧
        (s.sendCounter = 1 ∨ 0 < n → s'.sendCounter = 1) := by
  induction n generalizing s first with
  | zero => exact ⟨s, rfl, trivial, by simp, rfl, rfl, rfl, rfl, by simp⟩
  | succ n ih =>
    have hinstall : run (step sodium) s (setConnectionParams (numbered first)) =
        some (s.install (numbered first)) := run_setConnectionParams hrekey _
    have hnext : (s.install (numbered first)).installed = (List.range (first + 1)).map numbered := by
      rw [List.range_succ, List.map_append, ← hinstalled]
      rfl
    obtain ⟨s', hrun, hok, hgen, hrest⟩ := ih (first + 1) rfl hnext (by omega)
    refine ⟨s', ?_, ?_, ?_, hrest.1, hrest.2.1, hrest.2.2.1, hrest.2.2.2.1, ?_⟩
    . rw [rekeys, run_append_of_run hinstall]
      exact hrun
    . refine along_append hinstall ?_ hok
      apply fresh_along_of_along
      apply along_setConnectionParams
      rw [hinstalled]
      exact numbered_fresh (by omega)
    . rw [hgen]
      rw [Nat.mul_add, UInt32.ofNat_add]
      simp only [install, UInt32.add_assoc]
      congr 1
      rw [UInt32.add_comm (UInt32.ofNat (2 * n)), ← UInt32.add_assoc]
      rfl
    . intro _
      exact hrest.2.2.2.2 (Or.inl rfl)

theorem alone_in_gate (as : List Action) (hrun : run (step sodium) init as = some s) {i j : Nat}
    (hi : (s.senders i).holds) (hj : (s.senders j).holds)
    : i = j ∧ s.step sodium .closeSocket = none := by
  have hgated : s.Gated := by
    apply invariant_of_run _ Sealing.init.gated hrun
    intro s a s' hs h
    exact hs.step h
  exact ⟨hgated.unique i j hi hj, if_pos (hgated.gate i hi)⟩

theorem alone_in_gate_first
    : ∃ sodium s, run (step sodium) init
        (.openSocket :: readMaterial 0 ⟨0, []⟩ ++ [.sender 0 .holdSendGate]) = some s ∧
      (s.senders 0).holds ∧ s.step sodium .closeSocket = none := by
  let sodium : Sodium := ⟨fun _ _ => [], fun _ => [], fun _ _ _ _ => none⟩
  have hany : (run (step sodium) init
      (.openSocket :: readMaterial 0 ⟨0, []⟩ ++ [.sender 0 .holdSendGate])).any
        (fun s => (s.senders 0).holds) = true := by
    decide +kernel
  obtain ⟨s, hrun, hs⟩ := exists_run_of_any hany
  exact ⟨sodium, s, hrun, hs, (alone_in_gate _ hrun hs hs).2⟩

theorem sealed_nonces_repeat
    : ¬ ∀ (sodium : Sodium) (as : List Action) (s : State),
        run (step sodium) init as = some s →
        Along (step sodium) (fun s a => s.Fresh a) init as →
        s.sealed.Pairwise fun e f => (e.key, e.counter) ≠ (f.key, f.counter) := by
  intro hclaim
  let sodium : Sodium := ⟨fun _ _ => [], fun _ => [], fun _ _ _ _ => none⟩
  let msg : Message := ⟨0, []⟩
  let s₀ : State := { init with sock := true }
  let s₁ : State := s₀.install (numbered 1)
  -- Sender 0 copies the key, and sender 1 sends a whole packet under it.
  let s₂ : State := s₁.setSender 0 (.copied msg s₁.copyOf)
  let s₃ : State := s₂.setSender 1 (.copied msg s₁.copyOf)
  let s₄ : State := s₃.sealedBy 1 msg s₁.copyOf 1
  have hopen : init.step sodium .openSocket = some s₀ := rfl
  have hkey : run (step sodium) s₀ (setConnectionParams (numbered 1)) = some s₁ :=
    run_setConnectionParams rfl _
  have hread : run (step sodium) s₁ (readMaterial 0 msg) = some s₂ :=
    run_readMaterial rfl rfl (by decide) (by decide)
  have hread' : run (step sodium) s₂ (readMaterial 1 msg) = some s₃ :=
    run_readMaterial rfl rfl (by decide) (by decide)
  have hseal : run (step sodium) s₃ (sealAndSend 1) = some s₄ :=
    run_sealAndSend (setSender_senders_self _ _ _) rfl rfl rfl rfl
  -- The generation goes round, and sender 0 finds the one it knows.
  obtain ⟨s₅, hrekeys, hfresh, hgen, hsenders, hsealed, hgate, hsock, hcounter⟩ :=
    run_rekeys sodium 2 (2 ^ 31) (s := s₄) rfl rfl (by decide)
  have hgen : s₅.cell.gen = s₁.copyOf.generation := by
    rw [hgen]
    rfl
  have hidle : s₅.senders 0 = .copied msg s₁.copyOf := by
    rw [hsenders]
    rfl
  have hseal' : run (step sodium) s₅ (sealAndSend 0) = some (s₅.sealedBy 0 msg s₁.copyOf 1) := by
    apply run_sealAndSend hidle hgate hsock hgen
    rw [hcounter (Or.inr (by decide))]
    rfl
  have hrun : run (step sodium) init (.openSocket :: setConnectionParams (numbered 1) ++
      (readMaterial 0 msg ++ (readMaterial 1 msg ++ (sealAndSend 1 ++ (rekeys 2 (2 ^ 31) ++
        sealAndSend 0))))) = some (s₅.sealedBy 0 msg s₁.copyOf 1) := by
    rw [List.cons_append, run_cons, hopen, Option.bind_some]
    rw [run_append_of_run hkey, run_append_of_run hread, run_append_of_run hread']
    rw [run_append_of_run hseal, run_append_of_run hrekeys]
    exact hseal'
  have hrepeat := hclaim sodium _ _ hrun (by
    refine along_cons_of_step hopen trivial ?_
    refine along_append hkey (fresh_along_of_along (along_setConnectionParams (by decide))) ?_
    refine along_append hread (fresh_along_of_along along_readMaterial) ?_
    refine along_append hread' (fresh_along_of_along along_readMaterial) ?_
    refine along_append hseal (fresh_along_sealAndSend _) ?_
    exact along_append hrekeys hfresh (fresh_along_sealAndSend _))
  simp only [sealedBy, hsealed] at hrepeat
  simp [s₄, sealedBy, s₃, s₂, s₁, s₀, setSender, install, init] at hrepeat

end State
end SatelliteClient
