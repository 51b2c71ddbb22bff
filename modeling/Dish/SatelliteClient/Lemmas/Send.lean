import Dish.SatelliteClient.Lemmas.Rekey

/-!
This module contains the verification of `sendEncrypted`.
-/

open Seqlock Wire Reducer Transition

namespace SatelliteClient

variable {i : Nat} {msg : Message} {r : Reader Word} {sequence : UInt64} {t : Sender}

def Sender.holds : Sender → Bool
  | .gated .. => true
  | .drew .. => true
  | .checked .. => true
  | .leaving => true
  | _ => false

def Sender.sequence? : Sender → Option UInt64
  | .drew _ _ sequence => some sequence
  | .checked _ _ sequence _ => some sequence
  | _ => none

def Sealed.stamp (e : Sealed) : ℕ ×ₗ ℕ :=
  toLex (e.install, e.counter.toNat)

def Sender.Ok (s : State) : Sender → Prop
  | .idle => True
  | .called _ => True
  | .seen _ generation ticks => generation = UInt32.ofNat ticks ∧ ticks ≤ s.cell.ticks
  | .reading _ r => r.Tracks s.cell ∧ r.taken.length ≤ Material.kWords
  | .copied _ r => r.Tracks s.cell ∧ r.taken.length = Material.kWords
  | .gated _ r => r.Tracks s.cell ∧ r.taken.length = Material.kWords
  | .drew _ r sequence =>
    (r.Tracks s.cell ∧ r.taken.length = Material.kWords) ∧ 1 ≤ sequence.toNat ∧
      (s.sendCounter.toNat = sequence.toNat + 1 ∨ s.sendCounter = 1) ∧
      (s.cell.ticks = r.opened →
        s.sendCounter.toNat = sequence.toNat + 1 ∧
          ∀ e ∈ s.sealed, e.stamp < toLex (r.opened / 2, sequence.toNat))
  | .checked _ r sequence ctr =>
    s.installed[r.opened / 2]? = some (material r) ∧ ctr.toNat = sequence.toNat ∧ 1 ≤ ctr.toNat ∧
      (s.sendCounter.toNat = sequence.toNat + 1 ∨ s.sendCounter = 1) ∧
      toLex (r.opened / 2, ctr.toNat) < s.next ∧
      ∀ e ∈ s.sealed, e.stamp < toLex (r.opened / 2, ctr.toNat)
  | .leaving => True

namespace State

variable {s s' : State} {sodium : Sodium}

structure Gated (s : State) : Prop where
  gate : ∀ i, (s.senders i).holds → s.sendGate = true
  unique : ∀ i j, (s.senders i).holds → (s.senders j).holds → i = j

structure Nonces (s : State) : Prop where
  counter_pos : 1 ≤ s.sendCounter.toNat
  ok : ∀ i, (s.senders i).Ok s
  sealed_lt : ∀ e ∈ s.sealed, e.stamp < s.next
  sealed_sorted : s.sealed.Pairwise fun e f => e.stamp < f.stamp
  sealed_pos : ∀ e ∈ s.sealed, 1 ≤ e.counter.toNat
  sealed_key : ∀ e ∈ s.sealed, s.installed[e.install]?.map (·.key) = some e.key

structure FreshKeys (s : State) : Prop where
  installed : (s.installed.map (·.key)).Nodup
  locked : ∀ m written, s.rekey = some ⟨m, written, .locked⟩ → m.key ∉ s.installed.map (·.key)

/--
The counter is not at its last value when it is drawn from, and the generation has not come round
since it was read.
-/
def InWidth (s : State) : Action → Prop
  | .sender _ .draw => s.sendCounter.toNat + 1 < 2 ^ 64
  | .sender i .check => ∀ msg r sequence, s.senders i = .drew msg r sequence →
    ¬ Turned r.seen s.cell.ticks
  | _ => True

def Fresh (s : State) : Action → Prop
  | .rekey (.lock m) => m.key ∉ s.installed.map (·.key)
  | _ => True

@[simp]
theorem setSender_senders_self (s : State) (i : Nat) (t : Sender)
    : (s.setSender i t).senders i = t := by
  simp [setSender]

theorem setSender_senders_ne (s : State) {j : Nat} (t : Sender) (h : j ≠ i)
    : (s.setSender i t).senders j = s.senders j := by
  simp [setSender, h]

@[simp]
theorem setSender_installed (s : State) (i : Nat) (t : Sender)
    : (s.setSender i t).installed = s.installed := by
  rfl

theorem Rekeyed.epoch_eq_of_even (h : s.Rekeyed) (heven : s.cell.ticks % 2 = 0)
    : s.epoch = s.cell.ticks / 2 := by
  have hparity := h.parity
  rw [heven] at hparity
  unfold epoch
  split
  . next heq => simp [heq, writeOpen] at hparity
  . next heq => simp [heq, writeOpen] at hparity
  . rfl

end State

theorem Sender.Ok.congr {s s' : State} (h : t.Ok s) (hcell : s'.cell = s.cell)
    (hinstalled : s'.installed = s.installed) (hcounter : s'.sendCounter = s.sendCounter)
    (hsealed : s'.sealed = s.sealed) (hnext : s'.next = s.next)
    : t.Ok s' := by
  unfold Sender.Ok at *
  rw [hcell, hinstalled, hcounter, hsealed, hnext]
  exact h

theorem Sender.Ok.of_not_holds {s s' : State} (h : t.Ok s) (hout : t.holds = false)
    (hcell : s'.cell = s.cell)
    : t.Ok s' := by
  cases t with
  | gated | drew | checked => simp [Sender.holds] at hout
  | _ =>
    unfold Sender.Ok at *
    first
      | trivial
      | rw [hcell]
        exact h

theorem State.Advances.next_le {s s' : State} (h : s.Advances s') : s.next ≤ s'.next := by
  unfold State.next
  rw [Prod.Lex.toLex_le_toLex]
  rcases h.counter with ⟨hcounter, hepoch⟩ | ⟨_, hepoch, _⟩
  . right
    rw [hcounter, hepoch]
    exact ⟨rfl, Nat.le_refl _⟩
  . left
    simp only [hepoch]
    omega

theorem State.Advances.drawn {s s' : State} (h : s.Advances s')
    (hdrawn : s.sendCounter.toNat = sequence.toNat + 1 ∨ s.sendCounter = 1)
    : s'.sendCounter.toNat = sequence.toNat + 1 ∨ s'.sendCounter = 1 := by
  rcases h.counter with ⟨hsame, _⟩ | ⟨hone, _⟩
  . rw [hsame]
    exact hdrawn
  . exact Or.inr hone

theorem Sender.Ok.advances {s s' : State} (h : t.Ok s) (ha : s.Advances s')
    : t.Ok s' := by
  cases t with
  | idle => trivial
  | called => trivial
  | leaving => trivial
  | seen msg generation ticks =>
    have := ha.ticks_le
    exact ⟨h.1, by have := h.2; omega⟩
  | reading msg r | copied msg r | gated msg r => exact ⟨ha.tracks r h.1, h.2⟩
  | drew msg r sequence =>
    obtain ⟨⟨hr, hlen⟩, hpos, hdrawn, hseq⟩ := h
    refine ⟨⟨ha.tracks r hr, hlen⟩, hpos, ha.drawn hdrawn, ?_⟩
    intro hticks
    have hle := ha.ticks_le
    have hopened := hr.opened_le
    have heven := hr.opened_even
    obtain ⟨hcounter, hsealed⟩ := hseq (by omega)
    rw [ha.sealed_eq]
    rcases ha.counter with ⟨hsame, _⟩ | ⟨_, _, hodd⟩
    . rw [hsame]
      exact ⟨hcounter, hsealed⟩
    . omega
  | checked msg r sequence ctr =>
    obtain ⟨hinstalled, hctr, hpos, hdrawn, hnext, hsealed⟩ := h
    refine ⟨?_, hctr, hpos, ha.drawn hdrawn, lt_of_lt_of_le hnext ha.next_le, ?_⟩
    . obtain ⟨rest, hrest⟩ := ha.installed_prefix
      rw [← hrest]
      rw [List.getElem?_append_left]
      . exact hinstalled
      . exact (List.getElem?_eq_some_iff.mp hinstalled).1
    . rw [ha.sealed_eq]
      exact hsealed

namespace State

variable {s s' : State} {sodium : Sodium}

theorem Gated.setSender (hs : s.Gated) (ht : t.holds → (s.senders i).holds)
    : (s.setSender i t).Gated := by
  have hlocal : ∀ j, ((s.setSender i t).senders j).holds → (s.senders j).holds := by
    intro j hj
    by_cases hji : j = i
    . subst hji
      rw [setSender_senders_self] at hj
      exact ht hj
    . rw [setSender_senders_ne _ _ hji] at hj
      exact hj
  constructor
  . intro j hj
    exact hs.gate j (hlocal j hj)
  . intro j k hj hk
    exact hs.unique j k (hlocal j hj) (hlocal k hk)

theorem Gated.senderStep (hs : s.Gated) {a : SenderAction} (h : s.senderStep i a = some s')
    : s'.Gated := by
  unfold State.senderStep at h
  split at h
  . split at h
    . cases h
      exact hs
    . cases h
      exact hs.setSender (by simp [Sender.holds])
  . cases h
    exact hs.setSender (by simp [Sender.holds])
  . split at h
    . cases h
      exact hs.setSender (by simp [Sender.holds])
    . cases h
      exact hs.setSender (by simp [Sender.holds])
  . split at h
    . cases h
      exact hs.setSender (by simp [Sender.holds])
    . contradiction
  . split at h
    . contradiction
    . split at h
      . cases h
        exact hs.setSender (by simp [Sender.holds])
      . cases h
        exact hs.setSender (by simp [Sender.holds])
  -- holdSendGate: nobody is inside a free gate.
  . next msg r hi =>
    split at h
    . contradiction
    . next hfree =>
      cases h
      have hout : ∀ j, j ≠ i →
          ((s.setSender i (.gated msg r)).senders j).holds = true → False := by
        intro j hji hj
        rw [setSender_senders_ne _ _ hji] at hj
        exact hfree (hs.gate j hj)
      constructor
      . intro j _
        rfl
      . intro j k hj hk
        by_cases hji : j = i
        . by_cases hki : k = i
          . rw [hji, hki]
          . exact absurd hk (hout k hki)
        . exact absurd hj (hout j hji)
  . next msg r hi =>
    cases h
    have := hs.setSender (i := i) (t := .drew msg r s.sendCounter) (by simp [hi, Sender.holds])
    exact ⟨this.gate, this.unique⟩
  . next hi =>
    split at h
    . split at h
      . cases h
        exact hs.setSender (by simp [hi, Sender.holds])
      . cases h
        exact hs.setSender (by simp [hi, Sender.holds])
    . cases h
      exact hs.setSender (by simp [hi, Sender.holds])
  . next hi =>
    split at h
    . cases h
      have := hs.setSender (i := i) (t := .leaving) (by simp [hi, Sender.holds])
      exact ⟨this.gate, this.unique⟩
    . cases h
      exact hs.setSender (by simp [hi, Sender.holds])
  -- releaseSendGate: the one inside leaves.
  . next hi =>
    cases h
    have hout : ∀ j, ((s.setSender i .idle).senders j).holds = true → False := by
      intro j hj
      by_cases hji : j = i
      . subst hji
        simp [Sender.holds] at hj
      . rw [setSender_senders_ne _ _ hji] at hj
        exact hji (hs.unique j i hj (by simp [hi, Sender.holds]))
    constructor
    . intro j hj
      exact absurd hj (hout j)
    . intro j k hj _
      exact absurd hj (hout j)
  . contradiction

theorem Gated.step {a : Action} (hs : s.Gated) (h : s.step sodium a = some s') : s'.Gated := by
  cases a with
  | sender i a => exact hs.senderStep h
  | receiver a =>
    obtain ⟨_, _, _, _, hgate, hsenders, _⟩ := receiverStep_frame h
    constructor
    . rw [hsenders, hgate]
      exact hs.gate
    . rw [hsenders]
      exact hs.unique
  | rekey a =>
    have h : s.rekeyStep a = some s' := h
    unfold rekeyStep at h
    split at h
    all_goals try split at h
    all_goals cases h
    all_goals exact ⟨hs.gate, hs.unique⟩
  | openSocket =>
    cases h
    exact ⟨hs.gate, hs.unique⟩
  | closeSocket =>
    simp only [State.step, Option.ite_none_left_eq_some, Option.some.injEq] at h
    rw [← h.2]
    exact ⟨hs.gate, hs.unique⟩

theorem Nonces.congr (hs : s.Nonces) (hcell : s'.cell = s.cell) (hrekey : s'.rekey = s.rekey)
    (hinstalled : s'.installed = s.installed) (hcounter : s'.sendCounter = s.sendCounter)
    (hsealed : s'.sealed = s.sealed) (hok : ∀ j, (s'.senders j).Ok s)
    : s'.Nonces := by
  have hnext : s'.next = s.next := by
    unfold next epoch
    rw [hcell, hrekey, hcounter]
  refine ⟨?_, ?_, ?_, ?_, ?_, ?_⟩
  . rw [hcounter]
    exact hs.counter_pos
  . intro j
    exact (hok j).congr hcell hinstalled hcounter hsealed hnext
  . rw [hsealed, hnext]
    exact hs.sealed_lt
  . rw [hsealed]
    exact hs.sealed_sorted
  . rw [hsealed]
    exact hs.sealed_pos
  . rw [hsealed, hinstalled]
    exact hs.sealed_key

theorem Nonces.ok_setSender (hs : s.Nonces) (hg : s.Gated)
    (hi : (s.senders i).holds) (hcell : s'.cell = s.cell)
    (hsenders : s'.senders = (s.setSender i t).senders) (ht : t.Ok s')
    : ∀ j, (s'.senders j).Ok s' := by
  intro j
  rw [hsenders]
  by_cases hji : j = i
  . subst hji
    rw [setSender_senders_self]
    exact ht
  . rw [setSender_senders_ne _ _ hji]
    apply (hs.ok j).of_not_holds _ hcell
    rw [Bool.eq_false_iff]
    intro hj
    exact hji (hg.unique j i hj hi)

theorem Nonces.setSender (hs : s.Nonces) (ht : t.Ok s)
    : (s.setSender i t).Nonces := by
  refine hs.congr rfl rfl rfl rfl rfl ?_
  intro j
  by_cases hji : j = i
  . subst hji
    rw [setSender_senders_self]
    exact ht
  . rw [setSender_senders_ne _ _ hji]
    exact hs.ok j

theorem Nonces.draw (hs : s.Nonces) (hr : s.Rekeyed) (hg : s.Gated) (hi : s.senders i = .gated msg r) (hwidth : s.sendCounter.toNat + 1 < 2 ^ 64)
    : Nonces { s.setSender i (.drew msg r s.sendCounter) with sendCounter := s.sendCounter + 1 } := by
  have hadd : (s.sendCounter + 1).toNat = s.sendCounter.toNat + 1 := by
    rw [UInt64.toNat_add]
    simp only [UInt64.reduceToNat]
    omega
  have hok := hs.ok i
  rw [hi] at hok
  refine ⟨?_, ?_, ?_, hs.sealed_sorted, hs.sealed_pos, hs.sealed_key⟩
  . simp only [hadd]
    omega
  . refine hs.ok_setSender hg (i := i) (t := .drew msg r s.sendCounter) ?_ rfl rfl ?_
    . simp [hi, Sender.holds]
    refine ⟨hok, hs.counter_pos, Or.inl hadd, ?_⟩
    intro hticks
    have hticks : s.cell.ticks = r.opened := hticks
    have heven := hok.1.opened_even
    refine ⟨hadd, ?_⟩
    intro e he
    have := hs.sealed_lt e he
    unfold next at this
    rw [hr.epoch_eq_of_even (by omega)] at this
    rw [← hticks]
    exact this
  . intro e he
    apply lt_trans (hs.sealed_lt e he)
    unfold next
    rw [Prod.Lex.toLex_lt_toLex]
    right
    simp only [hadd]
    exact ⟨rfl, Nat.lt_succ_self _⟩

theorem Nonces.check (hs : s.Nonces) (hr : s.Rekeyed) {ctr : UInt32} (hi : s.senders i = .drew msg r sequence)
    (hctr : wireSendCounter sequence = some ctr) (hgen : s.cell.gen = r.generation)
    (hwidth : ¬ Turned r.seen s.cell.ticks)
    : (s.setSender i (.checked msg r sequence ctr)).Nonces := by
  have hok := hs.ok i
  rw [hi] at hok
  obtain ⟨⟨htracks, hlen⟩, hpos, hdrawn, hseq⟩ := hok
  obtain ⟨hopened, _, _⟩ := htracks.words_of_recheck hr.counted hwidth hgen
  obtain ⟨hcounter, hsealed⟩ := hseq hopened.symm
  have heven := htracks.opened_even
  have hctr := wireSendCounter_eq_some hctr
  apply hs.setSender
  refine ⟨hr.installed_eq_material htracks hlen hopened, hctr, by omega, hdrawn, ?_, ?_⟩
  . unfold next
    rw [hr.epoch_eq_of_even (by omega)]
    rw [Prod.Lex.toLex_lt_toLex]
    right
    rw [hopened]
    exact ⟨rfl, by simp only; omega⟩
  . rw [hctr]
    exact hsealed

theorem Nonces.seal (hs : s.Nonces) (hg : s.Gated) {ctr : UInt32} (hi : s.senders i = .checked msg r sequence ctr)
    {e : Sealed} (hinstall : e.install = r.opened / 2) (hkey : e.key = (material r).key)
    (hcounter : e.counter = ctr)
    : Nonces { s.setSender i .leaving with sealed := s.sealed ++ [e] } := by
  have hok := hs.ok i
  rw [hi] at hok
  obtain ⟨hinstalled, _, hpos, _, hnext, hsealed⟩ := hok
  have hstamp : e.stamp = toLex (r.opened / 2, ctr.toNat) := by
    unfold Sealed.stamp
    rw [hinstall, hcounter]
  refine ⟨hs.counter_pos, ?_, ?_, ?_, ?_, ?_⟩
  . exact hs.ok_setSender hg (t := .leaving) (by simp [hi, Sender.holds]) rfl rfl trivial
  . intro f hf
    rcases List.mem_append.mp hf with hf | hf
    . exact hs.sealed_lt f hf
    . rw [List.mem_singleton.mp hf, hstamp]
      exact hnext
  . rw [List.pairwise_append]
    refine ⟨hs.sealed_sorted, List.pairwise_singleton _ _, ?_⟩
    intro f hf g hg
    rw [List.mem_singleton.mp hg, hstamp]
    exact hsealed f hf
  . intro f hf
    rcases List.mem_append.mp hf with hf | hf
    . exact hs.sealed_pos f hf
    . rw [List.mem_singleton.mp hf, hcounter]
      exact hpos
  . intro f hf
    rcases List.mem_append.mp hf with hf | hf
    . exact hs.sealed_key f hf
    . rw [List.mem_singleton.mp hf, hinstall, hkey]
      rw [setSender_installed, hinstalled]
      rfl

theorem Nonces.senderStep (hs : s.Nonces) (hr : s.Rekeyed) (hg : s.Gated)
    {a : SenderAction} (hwidth : s.InWidth (.sender i a)) (h : s.senderStep i a = some s')
    : s'.Nonces := by
  have hok := hs.ok i
  unfold State.senderStep at h
  split at h
  -- call
  . split at h
    . cases h
      exact hs
    . cases h
      exact hs.setSender trivial
  -- loadGeneration
  . cases h
    exact hs.setSender ⟨hr.counted, Nat.le_refl _⟩
  -- openRead
  . next hi =>
    rw [hi] at hok
    split at h
    . next hopen =>
      cases h
      exact hs.setSender (hr.openRead hok.1 hok.2 hopen)
    . cases h
      exact hs.setSender trivial
  -- loadWord
  . next hi =>
    rw [hi] at hok
    split at h
    . next hload =>
      cases h
      exact hs.setSender (tracks_of_loadWord hok.1 hload)
    . contradiction
  -- closeRead
  . next hi =>
    rw [hi] at hok
    split at h
    . contradiction
    . next hfull =>
      split at h
      . cases h
        have hle := hok.2
        exact hs.setSender ⟨hok.1, by omega⟩
      . cases h
        exact hs.setSender trivial
  -- holdSendGate
  . next msg r hi =>
    rw [hi] at hok
    split at h
    . contradiction
    . cases h
      have := hs.setSender (i := i) (t := .gated msg r) hok
      exact this.congr rfl rfl rfl rfl rfl this.ok
  -- draw
  . next hi =>
    cases h
    exact hs.draw hr hg hi hwidth
  -- check
  . next hi =>
    split at h
    . next hctr =>
      split at h
      . next hcheck =>
        cases h
        exact hs.check hr hi hctr hcheck.2 (hwidth _ _ _ hi)
      . cases h
        exact hs.setSender trivial
    . cases h
      exact hs.setSender trivial
  -- seal
  . next hi =>
    split at h
    . cases h
      exact hs.seal hg hi rfl rfl rfl
    . cases h
      exact hs.setSender trivial
  -- releaseSendGate
  . cases h
    have := hs.setSender (i := i) (t := .idle) trivial
    exact this.congr rfl rfl rfl rfl rfl this.ok
  . contradiction

theorem FreshKeys.rekeyStep {a : RekeyAction} (hs : s.FreshKeys) (hfresh : s.Fresh (.rekey a))
    (h : s.rekeyStep a = some s')
    : s'.FreshKeys := by
  unfold State.rekeyStep at h
  split at h
  -- lock
  . cases h
    refine ⟨hs.installed, ?_⟩
    intro m' written heq
    cases heq
    exact hfresh
  -- beginWrite
  . next m written hrekey =>
    cases h
    constructor
    . rw [List.map_append]
      rw [List.nodup_append]
      refine ⟨hs.installed, List.nodup_singleton _, ?_⟩
      intro k hk k' hk' heq
      rw [heq, List.mem_singleton.mp hk'] at hk
      exact hs.locked m written hrekey hk
    . intro m' written' heq
      cases heq
  all_goals try split at h
  all_goals cases h
  all_goals exact ⟨hs.installed, by intro m' written' heq; cases heq⟩

structure Sealing (s : State) : Prop where
  rekeyed : s.Rekeyed
  gated : s.Gated
  nonces : s.Nonces
  freshKeys : s.FreshKeys

theorem Sealing.init : State.init.Sealing where
  rekeyed := .init
  gated := by
    constructor
    . intro i hi
      cases hi
    . intro i j hi
      cases hi
  nonces := by
    refine ⟨Nat.le_refl _, ?_, ?_, List.Pairwise.nil, ?_, ?_⟩
    . intro i
      trivial
    all_goals
      intro e he
      cases he
  freshKeys := by
    constructor
    . exact List.nodup_singleton _
    . intro m written heq
      cases heq

theorem Sealing.rekeyStep {a : RekeyAction} (hs : s.Sealing) (hfresh : s.Fresh (.rekey a))
    (h : s.rekeyStep a = some s')
    : s'.Sealing := by
  have ha := hs.rekeyed.advances h
  refine ⟨hs.rekeyed.rekeyStep h, ?_, ?_, hs.freshKeys.rekeyStep hfresh h⟩
  . constructor
    . rw [ha.senders_eq, ha.sendGate_eq]
      exact hs.gated.gate
    . rw [ha.senders_eq]
      exact hs.gated.unique
  . refine ⟨?_, ?_, ?_, ?_, ?_, ?_⟩
    . rcases ha.counter with ⟨hsame, _⟩ | ⟨hone, _⟩
      . rw [hsame]
        exact hs.nonces.counter_pos
      . rw [hone]
        exact Nat.le_refl _
    . intro i
      rw [ha.senders_eq]
      exact (hs.nonces.ok i).advances ha
    . rw [ha.sealed_eq]
      intro e he
      exact lt_of_lt_of_le (hs.nonces.sealed_lt e he) ha.next_le
    . rw [ha.sealed_eq]
      exact hs.nonces.sealed_sorted
    . rw [ha.sealed_eq]
      exact hs.nonces.sealed_pos
    . rw [ha.sealed_eq]
      intro e he
      obtain ⟨rest, hrest⟩ := ha.installed_prefix
      have hkey := hs.nonces.sealed_key e he
      rw [Option.map_eq_some_iff] at hkey
      obtain ⟨m, hm, hkey⟩ := hkey
      rw [← hrest]
      rw [List.getElem?_append_left (List.getElem?_eq_some_iff.mp hm).1]
      rw [hm]
      rw [Option.map_some, hkey]

theorem Sealing.step {a : Action} (hs : s.Sealing) (hwidth : s.InWidth a) (hfresh : s.Fresh a)
    (h : s.step sodium a = some s')
    : s'.Sealing := by
  cases a with
  | sender i a =>
    have h : s.senderStep i a = some s' := h
    obtain ⟨hcell, hrekey, hinstalled, _⟩ := senderStep_frame h
    refine ⟨hs.rekeyed.congr hcell hrekey hinstalled, hs.gated.senderStep h,
      hs.nonces.senderStep hs.rekeyed hs.gated hwidth h, ?_⟩
    constructor
    . rw [hinstalled]
      exact hs.freshKeys.installed
    . rw [hrekey, hinstalled]
      exact hs.freshKeys.locked
  | receiver a =>
    obtain ⟨hcell, hrekey, hinstalled, hcounter, hgate, hsenders, hsealed⟩ := receiverStep_frame h
    refine ⟨hs.rekeyed.congr hcell hrekey hinstalled, ?_, ?_, ?_⟩
    . constructor
      . rw [hsenders, hgate]
        exact hs.gated.gate
      . rw [hsenders]
        exact hs.gated.unique
    . apply hs.nonces.congr hcell hrekey hinstalled hcounter hsealed
      rw [hsenders]
      exact hs.nonces.ok
    . constructor
      . rw [hinstalled]
        exact hs.freshKeys.installed
      . rw [hrekey, hinstalled]
        exact hs.freshKeys.locked
  | rekey a => exact hs.rekeyStep hfresh h
  | openSocket =>
    cases h
    exact ⟨hs.rekeyed.congr rfl rfl rfl, ⟨hs.gated.gate, hs.gated.unique⟩,
      hs.nonces.congr rfl rfl rfl rfl rfl hs.nonces.ok, ⟨hs.freshKeys.1, hs.freshKeys.2⟩⟩
  | closeSocket =>
    unfold State.step at h
    simp only at h
    split at h
    . contradiction
    . cases h
      exact ⟨hs.rekeyed.congr rfl rfl rfl, ⟨hs.gated.gate, hs.gated.unique⟩,
        hs.nonces.congr rfl rfl rfl rfl rfl hs.nonces.ok, ⟨hs.freshKeys.1, hs.freshKeys.2⟩⟩

end State
end SatelliteClient
