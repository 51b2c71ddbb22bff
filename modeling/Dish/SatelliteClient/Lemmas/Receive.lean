import Dish.SatelliteClient.Lemmas.Alone

/-!
This module contains the verification of `decryptIncoming` and of the replay guard.
-/

open Seqlock Wire Reducer Transition

namespace SatelliteClient

variable {d : Datagram} {plain : List UInt8} {r : Reader Word}

theorem packed_toNat (generation counter : UInt32)
    : ((generation.toUInt64 <<< 32) ||| counter.toUInt64).toNat =
        generation.toNat * 2 ^ 32 + counter.toNat := by
  have hgeneration := generation.toNat_lt
  have hcounter := counter.toNat_lt
  rw [UInt64.toNat_or, UInt64.toNat_shiftLeft]
  simp only [UInt32.toNat_toUInt64, UInt64.reduceToNat, Nat.reduceMod]
  rw [Nat.mod_eq_of_lt (by rw [Nat.shiftLeft_eq]; omega)]
  rw [← Nat.shiftLeft_add_eq_or_of_lt hcounter]
  rw [Nat.shiftLeft_eq]

theorem packed_high (generation counter : UInt32)
    : ((generation.toUInt64 <<< 32) ||| counter.toUInt64) >>> 32 = generation.toUInt64 := by
  have hcounter := counter.toNat_lt
  rw [← UInt64.toNat_inj, UInt64.toNat_shiftRight, packed_toNat]
  simp only [UInt32.toNat_toUInt64, UInt64.reduceToNat, Nat.reduceMod, Nat.shiftRight_eq_div_pow]
  omega

theorem packed_low (generation counter : UInt32)
    : ((generation.toUInt64 <<< 32) ||| counter.toUInt64).toUInt32 = counter := by
  have hcounter := counter.toNat_lt
  rw [← UInt32.toNat_inj, UInt64.toNat_toUInt32, packed_toNat]
  omega

theorem packed_zero (generation : UInt32)
    : generation.toUInt64 <<< 32 = (generation.toUInt64 <<< 32) ||| (0 : UInt32).toUInt64 := by
  rw [← UInt64.toNat_inj, packed_toNat]
  have hgeneration := generation.toNat_lt
  rw [UInt64.toNat_shiftLeft]
  simp only [UInt32.toNat_toUInt64, UInt64.reduceToNat, Nat.reduceMod]
  rw [Nat.mod_eq_of_lt (by rw [Nat.shiftLeft_eq]; omega)]
  rw [Nat.shiftLeft_eq]
  simp

def Dispatched.stamp (e : Dispatched) : ℕ ×ₗ ℕ :=
  toLex (e.install, e.datagram.counter.toNat)

namespace State

variable {s s' : State} {sodium : Sodium}

def highWater (s : State) : ℕ ×ₗ ℕ :=
  toLex (s.markEpoch, s.recvMark.toUInt32.toNat)

end State

def Copied (s : State) (r : Reader Word) : Prop :=
  r.Tracks s.cell ∧
    (s.installed[r.opened / 2]? = some (material r) ∨ r.opened + 2 ^ 32 ≤ s.cell.ticks)

def Receiver.Ok (s : State) : Receiver → Prop
  | .idle => True
  | .received _ => True
  | .seen _ generation ticks => generation = UInt32.ofNat ticks ∧ ticks ≤ s.cell.ticks
  | .reading _ r => r.Tracks s.cell ∧ r.taken.length ≤ Material.kWords
  | .copied _ r => Copied s r
  | .opened d r mark _ =>
    Copied s r ∧ mark >>> 32 = r.generation.toUInt64 ∧
      (mark.toUInt32 ≠ 0 → mark.toUInt32 < d.counter)
  | .accepted d r plain =>
    toLex (r.opened / 2, d.counter.toNat) ≤ s.highWater ∧
      s.installed[r.opened / 2]? = some (material r) ∧
      (kInnerHeaderSize ≤ plain.length →
        r.opened / 2 = s.cell.ticks / 2 ∧
          ∀ e ∈ s.dispatched, e.stamp < toLex (r.opened / 2, d.counter.toNat))

namespace State

structure Guarding (s : State) : Prop where
  rekeyed : s.Rekeyed
  mark_high : s.recvMark >>> 32 = (UInt32.ofNat (2 * s.markEpoch)).toUInt64
  ok : s.receiver.Ok s
  dispatched_le : ∀ e ∈ s.dispatched, e.stamp ≤ s.highWater
  dispatched_sorted : s.dispatched.Pairwise fun e f => e.stamp < f.stamp
  dispatched_current : ∀ e ∈ s.dispatched, e.install = e.rekeys
  dispatched_key : ∀ e ∈ s.dispatched, s.installed[e.install]?.map (·.key) = some e.key

/--
The counter 0 does not come again under a key, no re-key ends between the guard's word for a packet
and its dispatch, and the generation has not come round.
-/
def Guarded (s : State) : Action → Prop
  | .receiver .swapMark => ∀ d r mark plain, s.receiver = .opened d r mark plain →
    ¬ Turned r.seen (2 * s.markEpoch) ∧
      (d.counter = 0 → kInnerHeaderSize ≤ plain.length →
        ∀ e ∈ s.dispatched, e.install = r.opened / 2 → e.datagram.counter ≠ 0)
  | .rekey .endWrite => ∀ d r plain, s.receiver = .accepted d r plain →
    plain.length < kInnerHeaderSize
  | _ => True

variable {s s' : State} {sodium : Sodium}

theorem Guarding.init : State.init.Guarding where
  rekeyed := .init
  mark_high := rfl
  ok := trivial
  dispatched_le := by
    intro e he
    cases he
  dispatched_sorted := .nil
  dispatched_current := by
    intro e he
    cases he
  dispatched_key := by
    intro e he
    cases he

theorem Rekeyed.markEpoch_bounds (h : s.Rekeyed)
    : s.cell.ticks / 2 ≤ s.markEpoch ∧ s.cell.ticks ≤ 2 * s.markEpoch + 1 ∧
        2 * s.markEpoch ≤ s.cell.ticks + 1 := by
  have hparity := h.parity
  unfold markEpoch
  split
  . next heq =>
    rw [heq] at hparity
    simp only [writeOpen, Bool.toNat_true] at hparity
    omega
  . omega

theorem Advances.highWater_le (h : s.Advances s') : s.highWater ≤ s'.highWater := by
  unfold highWater
  rw [Prod.Lex.toLex_le_toLex]
  rcases h.mark with ⟨hmark, hepoch⟩ | ⟨_, hepoch⟩
  . right
    rw [hmark, hepoch]
    exact ⟨rfl, Nat.le_refl _⟩
  . left
    simp only [hepoch]
    omega

theorem Advances.getElem?_installed (h : s.Advances s') {i : Nat} {m : Material}
    (hi : s.installed[i]? = some m)
    : s'.installed[i]? = some m := by
  obtain ⟨rest, hrest⟩ := h.installed_prefix
  rw [← hrest]
  rw [List.getElem?_append_left (List.getElem?_eq_some_iff.mp hi).1]
  exact hi

end State

theorem Copied.advances {s s' : State} (h : Copied s r) (ha : s.Advances s')
    : Copied s' r := by
  refine ⟨ha.tracks r h.1, ?_⟩
  rcases h.2 with hm | hold
  . exact Or.inl (ha.getElem?_installed hm)
  . have := ha.ticks_le
    right
    omega

theorem Receiver.Ok.advances {s s' : State} {t : Receiver} (h : t.Ok s) (ha : s.Advances s')
    (hend : ∀ d r plain, t = .accepted d r plain → kInnerHeaderSize ≤ plain.length →
      s'.cell.ticks / 2 = s.cell.ticks / 2)
    : t.Ok s' := by
  cases t with
  | idle => trivial
  | received d => trivial
  | seen d generation ticks =>
    have := ha.ticks_le
    exact ⟨h.1, by have := h.2; omega⟩
  | reading d r => exact ⟨ha.tracks r h.1, h.2⟩
  | copied d r => exact Copied.advances h ha
  | opened d r mark plain => exact ⟨h.1.advances ha, h.2⟩
  | accepted d r plain =>
    refine ⟨le_trans h.1 ha.highWater_le, ha.getElem?_installed h.2.1, ?_⟩
    intro hlen
    rw [hend d r plain rfl hlen, ha.dispatched_eq]
    exact h.2.2 hlen

namespace State

variable {s s' : State} {sodium : Sodium}

theorem Guarding.rekeyStep {a : RekeyAction} (hs : s.Guarding) (hguard : s.Guarded (.rekey a))
    (h : s.rekeyStep a = some s')
    : s'.Guarding := by
  have ha := hs.rekeyed.advances h
  refine ⟨hs.rekeyed.rekeyStep h, ?_, ?_, ?_, ?_, ?_, ?_⟩
  . rcases ha.mark with ⟨hmark, hepoch⟩ | ⟨hmark, _⟩
    . rw [hmark, hepoch]
      exact hs.mark_high
    . rw [hmark, packed_zero]
      exact packed_high _ _
  . rw [ha.receiver_eq]
    apply hs.ok.advances ha
    intro d r plain haccepted hlen
    apply hs.rekeyed.ticks_div_two _ h
    intro hend
    subst hend
    have := hguard d r plain haccepted
    omega
  . rw [ha.dispatched_eq]
    intro e he
    exact le_trans (hs.dispatched_le e he) ha.highWater_le
  . rw [ha.dispatched_eq]
    exact hs.dispatched_sorted
  . rw [ha.dispatched_eq]
    exact hs.dispatched_current
  . rw [ha.dispatched_eq]
    intro e he
    have hkey := hs.dispatched_key e he
    rw [Option.map_eq_some_iff] at hkey
    obtain ⟨m, hm, hkey⟩ := hkey
    rw [ha.getElem?_installed hm, Option.map_some, hkey]

theorem Guarding.setReceiver (hs : s.Guarding) {t : Receiver} (ht : t.Ok s)
    : Guarding { s with receiver := t } := by
  refine ⟨hs.rekeyed.congr rfl rfl rfl, hs.mark_high, ?_, hs.dispatched_le, hs.dispatched_sorted,
    hs.dispatched_current, hs.dispatched_key⟩
  cases t <;> exact ht

theorem Guarding.copied (hs : s.Guarding) (hr : r.Tracks s.cell)
    (hlen : r.taken.length = Material.kWords) (hgen : s.cell.gen = r.before)
    : Copied s r := by
  refine ⟨hr, ?_⟩
  by_cases hturn : Turned r.opened s.cell.ticks
  . unfold Turned at hturn
    right
    omega
  . left
    apply hs.rekeyed.installed_eq_material hr hlen
    apply eq_of_ofNat_eq hr.opened_le hturn
    rw [← hr.before_eq, ← hgen]
    exact hs.rekeyed.counted

theorem ok_of_openIncoming (hr : Copied s r) (h : openIncoming sodium d r s.recvMark = some plain)
    : (Receiver.opened d r s.recvMark plain).Ok s := by
  unfold openIncoming at h
  simp only at h
  split at h
  . contradiction
  . split at h
    . contradiction
    . next hgeneration =>
      split at h
      . contradiction
      . next hreplay =>
        refine ⟨hr, Decidable.not_not.mp hgeneration, ?_⟩
        intro hlast
        rw [not_and, UInt32.not_le] at hreplay
        exact hreplay hlast

theorem Guarding.opened_eq (hs : s.Guarding) (hok : (Receiver.opened d r s.recvMark plain).Ok s)
    (hturn : ¬ Turned r.seen (2 * s.markEpoch))
    : r.opened = 2 * s.markEpoch := by
  obtain ⟨⟨hr, _⟩, hmark, _⟩ := hok
  have hbounds := hs.rekeyed.markEpoch_bounds
  have hseen := hr.seen_le
  have hopened := hr.opened_le
  have heven := hr.opened_even
  have heq : r.seen = 2 * s.markEpoch := by
    apply eq_of_ofNat_eq (by omega) hturn
    rw [← hr.generation_eq]
    rw [hs.mark_high] at hmark
    exact (UInt32.toUInt64_inj.mp hmark).symm
  omega

theorem Guarding.swapMark (hs : s.Guarding) (hreceiver : s.receiver = .opened d r s.recvMark plain)
    (hturn : ¬ Turned r.seen (2 * s.markEpoch))
    (hzero : d.counter = 0 → kInnerHeaderSize ≤ plain.length →
      ∀ e ∈ s.dispatched, e.install = r.opened / 2 → e.datagram.counter ≠ 0)
    : Guarding { s with
        recvMark := (r.generation.toUInt64 <<< 32) ||| d.counter.toUInt64
        receiver := .accepted d r plain } := by
  have hok := hs.ok
  rw [hreceiver] at hok
  have hopened := hs.opened_eq hok hturn
  obtain ⟨⟨hr, hm⟩, hmark, hlast⟩ := hok
  have hbounds := hs.rekeyed.markEpoch_bounds
  have hle := hr.opened_le
  have hepoch : r.opened / 2 = s.markEpoch := by omega
  have hlow : s.recvMark.toUInt32.toNat ≤ d.counter.toNat := by
    by_cases h0 : s.recvMark.toUInt32 = 0
    . rw [h0]
      exact Nat.zero_le _
    . have := hlast h0
      rw [UInt32.lt_iff_toNat_lt] at this
      omega
  have hwater : highWater { s with
      recvMark := (r.generation.toUInt64 <<< 32) ||| d.counter.toUInt64
      receiver := .accepted d r plain } = toLex (s.markEpoch, d.counter.toNat) := by
    unfold highWater
    simp only [packed_low]
    rfl
  refine ⟨hs.rekeyed.congr rfl rfl rfl, ?_, ⟨?_, ?_, ?_⟩, ?_, hs.dispatched_sorted,
    hs.dispatched_current, hs.dispatched_key⟩
  . simp only [packed_high]
    rw [← hmark]
    exact hs.mark_high
  . rw [hwater, hepoch]
  . rcases hm with hm | hold
    . exact hm
    . omega
  . intro hlen
    refine ⟨by simp only; omega, ?_⟩
    intro e he
    have hbelow := hs.dispatched_le e he
    unfold Dispatched.stamp highWater at hbelow
    rw [Prod.Lex.toLex_le_toLex] at hbelow
    unfold Dispatched.stamp
    rw [Prod.Lex.toLex_lt_toLex]
    simp only at hbelow ⊢
    rcases hbelow with hbelow | ⟨hinstall, hcounter⟩
    . left
      omega
    . right
      refine ⟨by omega, ?_⟩
      by_cases h0 : s.recvMark.toUInt32 = 0
      . rw [h0] at hcounter
        have hcounter : e.datagram.counter.toNat = 0 := Nat.le_zero.mp hcounter
        by_cases hd : d.counter = 0
        . have := hzero hd hlen e he (by omega)
          exact absurd (UInt32.toNat_inj.mp hcounter) this
        . have : d.counter.toNat ≠ 0 := fun h => hd (UInt32.toNat_inj.mp h)
          omega
      . have := hlast h0
        rw [UInt32.lt_iff_toNat_lt] at this
        omega
  . intro e he
    rw [hwater]
    apply le_trans (hs.dispatched_le e he)
    unfold highWater
    rw [Prod.Lex.toLex_le_toLex]
    right
    exact ⟨rfl, hlow⟩

theorem dispatchIncoming_eq_some {rekeys : Nat} {e : Dispatched} (h : dispatchIncoming rekeys d r plain = some e)
    : kInnerHeaderSize ≤ plain.length ∧ e.install = r.opened / 2 ∧ e.rekeys = rekeys ∧
        e.key = (material r).key ∧ e.datagram = d := by
  unfold dispatchIncoming at h
  split at h
  . cases h
    simp [kInnerHeaderSize]
  . contradiction

theorem Guarding.dispatch (hs : s.Guarding) (hreceiver : s.receiver = .accepted d r plain)
    : Guarding { s with
        receiver := .idle
        dispatched := s.dispatched ++ (dispatchIncoming (s.cell.ticks / 2) d r plain).toList } := by
  have hok := hs.ok
  rw [hreceiver] at hok
  obtain ⟨hle, hm, hlen⟩ := hok
  cases hdispatch : dispatchIncoming (s.cell.ticks / 2) d r plain with
  | none =>
    simp only [Option.toList_none, List.append_nil]
    exact hs.setReceiver trivial
  | some e =>
    obtain ⟨hlong, hinstall, hrekeys, hkey, hdatagram⟩ := dispatchIncoming_eq_some hdispatch
    obtain ⟨hcurrent, hbelow⟩ := hlen hlong
    have hstamp : e.stamp = toLex (r.opened / 2, d.counter.toNat) := by
      unfold Dispatched.stamp
      rw [hinstall, hdatagram]
    simp only [Option.toList_some]
    refine ⟨hs.rekeyed.congr rfl rfl rfl, hs.mark_high, trivial, ?_, ?_, ?_, ?_⟩
    . intro f hf
      rcases List.mem_append.mp hf with hf | hf
      . exact hs.dispatched_le f hf
      . rw [List.mem_singleton.mp hf, hstamp]
        exact hle
    . rw [List.pairwise_append]
      refine ⟨hs.dispatched_sorted, List.pairwise_singleton _ _, ?_⟩
      intro f hf g hg
      rw [List.mem_singleton.mp hg, hstamp]
      exact hbelow f hf
    . intro f hf
      rcases List.mem_append.mp hf with hf | hf
      . exact hs.dispatched_current f hf
      . rw [List.mem_singleton.mp hf, hinstall, hrekeys]
        exact hcurrent
    . intro f hf
      rcases List.mem_append.mp hf with hf | hf
      . exact hs.dispatched_key f hf
      . rw [List.mem_singleton.mp hf, hinstall, hkey]
        simp only [hm, Option.map_some]

theorem Guarding.receiverStep {a : ReceiverAction} (hs : s.Guarding)
    (hguard : s.Guarded (.receiver a)) (h : s.receiverStep sodium a = some s')
    : s'.Guarding := by
  have hok := hs.ok
  unfold State.receiverStep at h
  split at h
  -- receive
  . split at h
    . cases h
      exact hs
    . cases h
      exact hs.setReceiver trivial
  -- loadGeneration
  . cases h
    exact hs.setReceiver ⟨hs.rekeyed.counted, Nat.le_refl _⟩
  -- openRead
  . next hreceiver =>
    rw [hreceiver] at hok
    split at h
    . next hopen =>
      cases h
      exact hs.setReceiver (hs.rekeyed.openRead hok.1 hok.2 hopen)
    . cases h
      exact hs.setReceiver trivial
  -- loadWord
  . next hreceiver =>
    rw [hreceiver] at hok
    split at h
    . next hload =>
      cases h
      exact hs.setReceiver (tracks_of_loadWord hok.1 hload)
    . contradiction
  -- closeRead
  . next hreceiver =>
    rw [hreceiver] at hok
    split at h
    . contradiction
    . next hfull =>
      split at h
      . next hgen =>
        cases h
        have hle := hok.2
        exact hs.setReceiver (hs.copied hok.1 (by omega) hgen)
      . cases h
        exact hs.setReceiver trivial
  -- loadMark
  . next hreceiver =>
    rw [hreceiver] at hok
    split at h
    . next hopen =>
      cases h
      exact hs.setReceiver (ok_of_openIncoming hok hopen)
    . cases h
      exact hs.setReceiver trivial
  -- swapMark
  . next d r mark plain hreceiver =>
    obtain ⟨hturn, hzero⟩ := hguard d r mark plain hreceiver
    split at h
    . next hmark =>
      subst hmark
      cases h
      exact hs.swapMark hreceiver hturn hzero
    . cases h
      exact hs.setReceiver trivial
  -- dispatch
  . next hreceiver =>
    cases h
    exact hs.dispatch hreceiver
  . contradiction

theorem Guarding.congr (hs : s.Guarding) (hcell : s'.cell = s.cell) (hrekey : s'.rekey = s.rekey)
    (hinstalled : s'.installed = s.installed) (hmark : s'.recvMark = s.recvMark)
    (hreceiver : s'.receiver = s.receiver) (hdispatched : s'.dispatched = s.dispatched)
    : s'.Guarding := by
  have hepoch : s'.markEpoch = s.markEpoch := by
    unfold markEpoch
    rw [hcell, hrekey]
  have hwater : s'.highWater = s.highWater := by
    unfold highWater
    rw [hepoch, hmark]
  refine ⟨hs.rekeyed.congr hcell hrekey hinstalled, ?_, ?_, ?_, ?_, ?_, ?_⟩
  . rw [hmark, hepoch]
    exact hs.mark_high
  . have hok := hs.ok
    rw [hreceiver]
    unfold Receiver.Ok Copied at *
    rw [hcell, hinstalled, hwater, hdispatched]
    exact hok
  . rw [hdispatched, hwater]
    exact hs.dispatched_le
  . rw [hdispatched]
    exact hs.dispatched_sorted
  . rw [hdispatched]
    exact hs.dispatched_current
  . rw [hdispatched, hinstalled]
    exact hs.dispatched_key

theorem Guarding.step {a : Action} (hs : s.Guarding) (hguard : s.Guarded a)
    (h : s.step sodium a = some s')
    : s'.Guarding := by
  cases a with
  | sender i a =>
    obtain ⟨hcell, hrekey, hinstalled, hmark, hreceiver, hdispatched⟩ := senderStep_frame h
    exact hs.congr hcell hrekey hinstalled hmark hreceiver hdispatched
  | receiver a => exact hs.receiverStep hguard h
  | rekey a => exact hs.rekeyStep hguard h
  | openSocket =>
    cases h
    exact hs.congr rfl rfl rfl rfl rfl rfl
  | closeSocket =>
    unfold State.step at h
    simp only at h
    split at h
    . contradiction
    . cases h
      exact hs.congr rfl rfl rfl rfl rfl rfl

theorem guarding_of_run {as : List Action} (hs : s.Guarding)
    (hok : Along (step sodium) Guarded s as) (h : run (step sodium) s as = some s')
    : s'.Guarding := by
  refine invariant_of_along ?_ hs hok h
  intro s a s' hs hguard h
  exact hs.step hguard h

end State
end SatelliteClient
