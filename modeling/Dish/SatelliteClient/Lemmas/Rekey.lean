import Dish.Lib.Transition
import Dish.SatelliteClient.Step
import Mathlib.Data.Prod.Lex

/-!
This module contains the verification of `setConnectionParams`.
-/

open Seqlock Wire Reducer

namespace SatelliteClient

variable {a : RekeyAction} {r : Reader Word}

def writeOpen : Option Rekey → Bool
  | none => false
  | some ⟨_, _, .locked⟩ => false
  | some _ => true

def storedWords : Option Rekey → Nat
  | some ⟨_, _, .writing stored⟩ => stored
  | _ => Material.kWords

namespace State

variable {s s' : State} {sodium : Sodium}

structure Rekeyed (s : State) : Prop where
  counted : s.cell.Counted
  parity : s.cell.ticks % 2 = (writeOpen s.rekey).toNat
  length : s.installed.length = (s.cell.ticks + 1) / 2 + 1
  newest : ∀ m written stage, s.rekey = some ⟨m, written, stage⟩ → stage ≠ .locked →
    s.installed.getLast? = some m
  stored : ∀ m, s.installed.getLast? = some m → ∀ (i : Nat) (hi : i < Material.kWords),
    i < storedWords s.rekey → s.cell.words ⟨i, hi⟩ = m.toWords ⟨i, hi⟩
  written_eq : ∀ m written stage, s.rekey = some ⟨m, written, stage⟩ →
    written = UInt32.ofNat (2 * (s.cell.ticks / 2) + 2)

theorem Rekeyed.init : State.init.Rekeyed where
  counted := rfl
  parity := rfl
  length := rfl
  newest := by
    intro m written stage h
    cases h
  stored := by
    intro m h i hi _
    cases h
    rfl
  written_eq := by
    intro m written stage h
    cases h

theorem Rekeyed.congr (h : s.Rekeyed) (hcell : s'.cell = s.cell) (hrekey : s'.rekey = s.rekey)
    (hinstalled : s'.installed = s.installed)
    : s'.Rekeyed := by
  constructor
  . rw [hcell]
    exact h.counted
  . rw [hcell, hrekey]
    exact h.parity
  . rw [hcell, hinstalled]
    exact h.length
  . rw [hrekey, hinstalled]
    exact h.newest
  . rw [hcell, hrekey, hinstalled]
    exact h.stored
  . rw [hcell, hrekey]
    exact h.written_eq

theorem Rekeyed.openRead (h : s.Rekeyed) {generation : UInt32} {seen : Nat}
    (hgeneration : generation = UInt32.ofNat seen) (hseen : seen ≤ s.cell.ticks)
    (hopen : openRead s.cell generation seen = some r)
    : r.Tracks s.cell ∧ r.taken.length ≤ Material.kWords := by
  unfold SatelliteClient.openRead at hopen
  split at hopen
  . next heven =>
    cases hopen
    have hcounted := h.counted
    unfold Cell.Counted at hcounted
    refine ⟨⟨hgeneration, hcounted, hseen, Nat.le_refl _, ?_, ?_⟩, Nat.zero_le _⟩
    . rw [hcounted] at heven
      exact even_of_land_one_eq_zero heven
    . intro _ i hi ht
      simp at ht
  . contradiction

theorem tracks_of_loadWord {r' : Reader Word} (hr : r.Tracks s.cell)
    (hload : loadWord s.cell r = some r')
    : r'.Tracks s.cell ∧ r'.taken.length ≤ Material.kWords := by
  unfold loadWord at hload
  split at hload
  . next hlt =>
    cases hload
    refine ⟨hr.take _, ?_⟩
    simp only [List.length_append, List.length_cons, List.length_nil]
    omega
  . contradiction

theorem Rekeyed.installed_eq_material (h : s.Rekeyed) (hr : r.Tracks s.cell)
    (hlen : r.taken.length = Material.kWords) (hopened : r.opened = s.cell.ticks)
    : s.installed[r.opened / 2]? = some (material r) := by
  have heven := hr.opened_even
  have hparity := h.parity
  have hlength := h.length
  have hstored : storedWords s.rekey = Material.kWords := by
    unfold writeOpen at hparity
    unfold storedWords
    split at hparity
    . next heq => rw [heq]
    . next heq => rw [heq]
    . simp at hparity
      omega
  have hlast : s.installed.getLast? = s.installed[r.opened / 2]? := by
    rw [List.getLast?_eq_getElem?]
    rw [hlength]
    congr 1
    omega
  have hsome : r.opened / 2 < s.installed.length := by omega
  rw [List.getElem?_eq_getElem hsome] at hlast ⊢
  congr 1
  symm
  apply Material.ofWords_toWords
  intro i hi
  have hi' : i < r.taken.length := by omega
  rw [List.getD_eq_getElem?_getD, List.getElem?_eq_getElem hi', Option.getD_some]
  rw [hr.taken_eq hopened.symm i hi hi']
  apply h.stored _ hlast
  omega

def epoch (s : State) : Nat :=
  match s.rekey with
  | some ⟨_, _, .counterReset⟩ => s.cell.ticks / 2 + 1
  | some ⟨_, _, .marked⟩ => s.cell.ticks / 2 + 1
  | _ => s.cell.ticks / 2

def markEpoch (s : State) : Nat :=
  match s.rekey with
  | some ⟨_, _, .marked⟩ => s.cell.ticks / 2 + 1
  | _ => s.cell.ticks / 2

def next (s : State) : ℕ ×ₗ ℕ :=
  toLex (s.epoch, s.sendCounter.toNat)

structure Advances (s s' : State) : Prop where
  senders_eq : s'.senders = s.senders
  sendGate_eq : s'.sendGate = s.sendGate
  sealed_eq : s'.sealed = s.sealed
  receiver_eq : s'.receiver = s.receiver
  dispatched_eq : s'.dispatched = s.dispatched
  tracks : ∀ r : Reader Word, r.Tracks s.cell → r.Tracks s'.cell
  ticks_le : s.cell.ticks ≤ s'.cell.ticks
  installed_prefix : s.installed <+: s'.installed
  counter : s'.sendCounter = s.sendCounter ∧ s'.epoch = s.epoch ∨
    s'.sendCounter = 1 ∧ s'.epoch = s.epoch + 1 ∧ s'.cell.ticks % 2 = 1
  mark : s'.recvMark = s.recvMark ∧ s'.markEpoch = s.markEpoch ∨
    s'.recvMark = (UInt32.ofNat (2 * s'.markEpoch)).toUInt64 <<< 32 ∧
      s'.markEpoch = s.markEpoch + 1

theorem Rekeyed.rekeyStep (hs : s.Rekeyed) (h : s.rekeyStep a = some s')
    : s'.Rekeyed := by
  have hcounted := hs.counted
  have hparity := hs.parity
  have hlength := hs.length
  have hnewest := hs.newest
  have hstored := hs.stored
  have hwritten := hs.written_eq
  unfold State.rekeyStep at h
  split at h
  -- lock
  . next m hrekey =>
    cases h
    rw [hrekey] at hparity hstored
    refine ⟨hcounted, hparity, hlength, ?_, hstored, ?_⟩
    . intro m' written stage heq hstage
      cases heq
      contradiction
    . intro m' written stage heq
      cases heq
      unfold Cell.Counted at hcounted
      simp only [writeOpen, Bool.toNat_false] at hparity
      rw [hcounted]
      rw [show 2 * (s.cell.ticks / 2) + 2 = s.cell.ticks + 2 by omega]
      rw [UInt32.ofNat_add]
      rfl
  -- beginWrite
  . next m written hrekey =>
    cases h
    rw [hrekey] at hparity
    simp only [writeOpen, Bool.toNat_false] at hparity
    refine ⟨hcounted.beginWrite, ?_, ?_, ?_, ?_, ?_⟩
    . simp only [Cell.beginWrite_ticks, writeOpen, Bool.toNat_true]
      omega
    . simp only [Cell.beginWrite_ticks, List.length_append, List.length_cons, List.length_nil]
      omega
    . intro m' written' stage heq _
      cases heq
      simp
    . intro m' _ i hi hlt
      simp [storedWords] at hlt
    . intro m' written' stage heq
      cases heq
      rw [hwritten m written .locked hrekey]
      simp only [Cell.beginWrite_ticks]
      congr 3
      omega
  -- storeWord
  . next m written stored hrekey =>
    split at h
    . next hlt =>
      cases h
      rw [hrekey] at hparity
      have hlast := hnewest m written _ hrekey (by simp)
      refine ⟨hcounted.storeWord _ _, hparity, hlength, ?_, ?_, ?_⟩
      . intro m' written' stage heq _
        cases heq
        exact hlast
      . intro m' hm' i hi hi'
        rw [hlast] at hm'
        cases hm'
        simp only [storedWords] at hi'
        by_cases heq : i = stored
        . subst heq
          simp
        . rw [Cell.storeWord_words_ne]
          . apply hstored _ hlast
            rw [hrekey]
            simp only [storedWords]
            omega
          . simp only [ne_eq, Fin.mk.injEq]
            exact heq
      . intro m' written' stage heq
        cases heq
        exact hwritten m written _ hrekey
    . contradiction
  -- resetCounter
  . next m written stored hrekey =>
    split at h
    . contradiction
    . next hfull =>
      cases h
      rw [hrekey] at hparity
      refine ⟨hcounted, hparity, hlength, ?_, ?_, ?_⟩
      . intro m' written' stage heq _
        cases heq
        exact hnewest m written _ hrekey (by simp)
      . intro m' hm' i hi _
        apply hstored m' hm'
        rw [hrekey]
        simp only [storedWords]
        omega
      . intro m' written' stage heq
        cases heq
        exact hwritten m written _ hrekey
  -- storeMark
  . next m written hrekey =>
    cases h
    rw [hrekey] at hparity hstored
    refine ⟨hcounted, hparity, hlength, ?_, hstored, ?_⟩
    . intro m' written' stage heq _
      cases heq
      exact hnewest m written _ hrekey (by simp)
    . intro m' written' stage heq
      cases heq
      exact hwritten m written _ hrekey
  -- endWrite
  . next m written hrekey =>
    cases h
    rw [hrekey] at hparity hstored
    simp only [writeOpen, Bool.toNat_true] at hparity
    refine ⟨hcounted.endWrite, ?_, ?_, ?_, hstored, ?_⟩
    . simp only [Cell.endWrite_ticks, writeOpen, Bool.toNat_false]
      omega
    . simp only [Cell.endWrite_ticks]
      omega
    . intro m' written' stage heq
      cases heq
    . intro m' written' stage heq
      cases heq
  . contradiction

theorem Rekeyed.advances (hs : s.Rekeyed) (h : s.rekeyStep a = some s')
    : s.Advances s' := by
  have hparity := hs.parity
  unfold State.rekeyStep at h
  split at h
  -- lock
  . next m hrekey =>
    cases h
    constructor <;> simp [epoch, markEpoch, hrekey]
  -- beginWrite
  . next m written hrekey =>
    cases h
    rw [hrekey] at hparity
    simp only [writeOpen, Bool.toNat_false] at hparity
    have hticks : (s.cell.ticks + 1) / 2 = s.cell.ticks / 2 := by omega
    constructor <;> simp [epoch, markEpoch, hrekey, hticks]
    intro r hr
    exact hr.beginWrite
  -- storeWord
  . next m written stored hrekey =>
    split at h
    . next hlt =>
      cases h
      rw [hrekey] at hparity
      simp only [writeOpen, Bool.toNat_true] at hparity
      constructor <;> simp [epoch, markEpoch, hrekey]
      intro r hr
      exact hr.storeWord hparity _ _
    . contradiction
  -- resetCounter
  . next m written stored hrekey =>
    split at h
    . contradiction
    . cases h
      rw [hrekey] at hparity
      simp only [writeOpen, Bool.toNat_true] at hparity
      constructor <;> simp [epoch, markEpoch, hrekey, hparity]
  -- storeMark
  . next m written hrekey =>
    cases h
    have hwritten := hs.written_eq m written _ hrekey
    constructor
    case mark =>
      right
      simp only [markEpoch, hrekey, hwritten, and_true]
      rw [Nat.mul_add]
    all_goals simp [epoch, hrekey]
  -- endWrite
  . next m written hrekey =>
    cases h
    rw [hrekey] at hparity
    simp only [writeOpen, Bool.toNat_true] at hparity
    have hticks : (s.cell.ticks + 1) / 2 = s.cell.ticks / 2 + 1 := by omega
    constructor <;> simp [epoch, markEpoch, hrekey, hticks]
    intro r hr
    exact hr.endWrite
  . contradiction

theorem receiverStep_frame {a : ReceiverAction} (h : s.receiverStep sodium a = some s')
    : s'.cell = s.cell ∧ s'.rekey = s.rekey ∧ s'.installed = s.installed ∧
        s'.sendCounter = s.sendCounter ∧ s'.sendGate = s.sendGate ∧ s'.senders = s.senders ∧
        s'.sealed = s.sealed := by
  unfold receiverStep at h
  split at h
  all_goals try split at h
  all_goals try split at h
  all_goals cases h
  all_goals simp

theorem senderStep_frame {i : Nat} {a : SenderAction} (h : s.senderStep i a = some s')
    : s'.cell = s.cell ∧ s'.rekey = s.rekey ∧ s'.installed = s.installed ∧
        s'.recvMark = s.recvMark ∧ s'.receiver = s.receiver ∧ s'.dispatched = s.dispatched := by
  unfold senderStep at h
  split at h
  all_goals try split at h
  all_goals try split at h
  all_goals cases h
  all_goals simp [setSender]

theorem rekeyStep_sendCounter (hreset : a ≠ .resetCounter) (h : s.rekeyStep a = some s')
    : s'.sendCounter = s.sendCounter := by
  unfold rekeyStep at h
  split at h
  all_goals try split at h
  all_goals cases h
  all_goals simp at *

theorem Rekeyed.ticks_div_two (hs : s.Rekeyed) (hend : a ≠ .endWrite) (h : s.rekeyStep a = some s')
    : s'.cell.ticks / 2 = s.cell.ticks / 2 := by
  have hparity := hs.parity
  unfold State.rekeyStep at h
  split at h
  . cases h
    rfl
  . next hrekey =>
    cases h
    rw [hrekey] at hparity
    simp only [writeOpen, Bool.toNat_false] at hparity
    simp only [Cell.beginWrite_ticks]
    omega
  . split at h
    . cases h
      rfl
    . contradiction
  . split at h
    . contradiction
    . cases h
      rfl
  . cases h
    rfl
  . contradiction
  . contradiction

end State
end SatelliteClient
