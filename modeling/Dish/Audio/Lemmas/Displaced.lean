import Dish.Audio.Lemmas.Timeline

/-!
This module contains the streams the reorder window heals completely.
-/

namespace Audio

variable {arrivals : List Nat}

open AudioJitterWindow Wrapping

structure Stream where
  start : UInt16
  payload : Nat → List UInt8
  fits : ∀ i, Fits (payload i)

namespace Stream

def seq (st : Stream) (i : Nat) : UInt16 :=
  st.start + UInt16.ofNat i

def packet (st : Stream) (i : Nat) : Slot :=
  ⟨st.seq i, st.payload i⟩

def played (st : Stream) (n : Nat) : List Event :=
  (List.range n).map fun i => .packet (st.seq i) (st.payload i)

theorem seq_zero (st : Stream) : st.seq 0 = st.start := by
  simp [seq]

theorem seq_succ (st : Stream) (i : Nat) : st.seq (i + 1) = st.seq i + 1 := by
  simp [seq, UInt16.ofNat_add, UInt16.add_assoc]

theorem played_succ (st : Stream) (n : Nat)
    : st.played (n + 1) = st.played n ++ [.packet (st.seq n) (st.payload n)] := by
  simp [played, List.range_succ]

end Stream

def Awaited (arrived : List Nat) (n : Nat) : Prop :=
  n ∉ arrived ∧ ∀ j < n, j ∈ arrived

/-- What may arrive next: nothing overtakes two others or comes again after 32768 positions. -/
structure Arrives (arrived : List Nat) (i : Nat) : Prop where
  first : arrived = [] → i = 0
  near : ∀ j, j + 2 ≤ i → j ∈ arrived
  recent : i ∈ arrived → ∀ n, Awaited arrived n → n ≤ i + 32768

inductive Displaced : List Nat → Prop where
  | nil : Displaced []
  | snoc {arrived : List Nat} {i : Nat} (h : Displaced arrived) (hi : Arrives arrived i)
      : Displaced (arrived ++ [i])

theorem Displaced.head_eq (h : Displaced arrivals)
    : ∀ i, arrivals.head? = some i → i = 0 := by
  induction h with
  | nil => simp
  | @snoc arrived j h hj ih =>
    intro i hhead
    by_cases hnil : arrived = []
    . rw [hnil] at hhead
      cases hhead
      exact hj.first hnil
    . rw [List.head?_append_of_ne_nil _ hnil] at hhead
      exact ih i hhead

inductive Standing (st : Stream) (arrived : List Nat) : Nat → Settled → Prop where
  | clear {n : Nat} (h : ∀ i, i ∈ arrived ↔ i < n) : Standing st arrived n (.clear (st.seq n))
  | holding {n : Nat} (h : ∀ i, i ∈ arrived ↔ i < n ∨ i = n + 1)
      : Standing st arrived n (.holding (st.seq n) (st.payload (n + 1)) 0)

namespace Standing

variable {st : Stream} {arrived : List Nat} {n i : Nat} {s : Settled}

theorem awaited (h : Standing st arrived n s) : Awaited arrived n := by
  cases h with
  | clear h => exact ⟨by simp [h], by simp [h]⟩
  | holding h => exact ⟨by simp [h], fun j hj => by simp [h, hj]⟩

theorem next (h : Standing st arrived n s) : s.next = st.seq n := by
  cases h <;> rfl

theorem again (h : Standing st arrived n s) (hi : i ∈ arrived)
    : Standing st (arrived ++ [i]) n s := by
  have hmem (j : Nat) : j ∈ arrived ++ [i] ↔ j ∈ arrived := by
    grind
  cases h with
  | clear h => exact .clear fun j => by rw [hmem, h]
  | holding h => exact .holding fun j => by rw [hmem, h]

theorem arrive (h : Standing st arrived n s) (hi : Arrives arrived i)
    : ∃ result n' s', s.Row (st.packet i) result s' ∧ Standing st (arrived ++ [i]) n' s' ∧
        st.played n' = st.played n ++ result.events := by
  have hahead : i < n + 2 := by
    by_contra hfar
    exact h.awaited.1 (hi.near n (by omega))
  obtain hlate | rfl | rfl : i < n ∨ i = n ∨ i = n + 1 := by omega
  . have hthere := h.awaited.2 i hlate
    have hrecent := hi.recent hthere n h.awaited
    have hdelta : ahead (st.packet i).seq s.next < 0 := by
      rw [h.next]
      unfold Stream.packet Stream.seq
      rw [ahead_add_ofNat st.start (by omega) (by omega)]
      omega
    exact ⟨_, n, s, .late hdelta, h.again hthere, by simp⟩
  . cases h with
    | clear h =>
      refine ⟨_, i + 1, _, .clear (ahead_self _), ?_, st.played_succ i⟩
      have hstanding : Standing st (arrived ++ [i]) (i + 1) (.clear (st.seq (i + 1))) :=
        .clear fun j => by grind
      rwa [st.seq_succ] at hstanding
    | holding h =>
      refine ⟨_, i + 2, _, .due, ?_, ?_⟩
      . have hstanding : Standing st (arrived ++ [i]) (i + 2) (.clear (st.seq (i + 2))) :=
          .clear fun j => by grind
        rwa [st.seq_succ, st.seq_succ] at hstanding
      . rw [st.played_succ, st.played_succ, st.seq_succ]
        simp
  . cases h with
    | clear h =>
      have hdelta : ahead (st.seq (n + 1)) (st.seq n) = (1 : Nat) := by
        rw [st.seq_succ, ahead_succ_self]
        rfl
      refine ⟨_, n, _, .clear hdelta, ?_, by simp [Settled.catchUp]⟩
      refine .holding fun j => ?_
      simp [h]
    | holding h =>
      have hpacket : st.packet (n + 1) = ⟨st.seq n + 1, st.payload (n + 1)⟩ := by
        rw [Stream.packet, st.seq_succ]
      rw [hpacket]
      exact ⟨_, n, _, .held, (Standing.holding h).again (by simp [h]), by simp⟩

end Standing

namespace AudioJitterWindow

theorem pushAll_snoc (w : AudioJitterWindow) (offers : List Slot) (offer : Slot)
    : w.pushAll (offers ++ [offer]) =
        let (results, w') := w.pushAll offers
        let (result, w') := w'.push offer.seq offer.bytes
        (results ++ [result], w') := by
  induction offers generalizing w with
  | nil => rfl
  | cons first offers ih =>
    rw [List.cons_append, pushAll_cons rfl, ih, pushAll_cons rfl]
    rfl

theorem pushAll_standing (st : Stream) (h : Displaced arrivals)
    : ∃ n s, Standing st arrivals n s ∧
        ((Settled.clear st.start).window.pushAll (arrivals.map st.packet)).2 = s.window ∧
        ((Settled.clear st.start).window.pushAll (arrivals.map st.packet)).1.flatMap (·.events) =
          st.played n := by
  induction h with
  | nil =>
    have hstanding : Standing st [] 0 (.clear (st.seq 0)) := .clear (by simp)
    rw [st.seq_zero] at hstanding
    exact ⟨0, _, hstanding, rfl, rfl⟩
  | @snoc arrived i h hi ih =>
    obtain ⟨n, s, hstanding, hwindow, hevents⟩ := ih
    obtain ⟨result, n', s', hrow, hstanding', hplayed⟩ := hstanding.arrive hi
    have hpush := push_of_row (st.fits i) hrow
    refine ⟨n', s', hstanding', ?_⟩
    rw [List.map_append, List.map_singleton, pushAll_snoc]
    dsimp only
    rw [hwindow, hpush, List.flatMap_append, hevents, hplayed]
    simp

theorem pushAll_first (st : Stream) (h : Displaced arrivals) (hsome : arrivals ≠ [])
    : pushAll {} (arrivals.map st.packet) =
        (Settled.clear st.start).window.pushAll (arrivals.map st.packet) := by
  cases arrivals with
  | nil => exact absurd rfl hsome
  | cons i arrivals =>
    obtain rfl := h.head_eq i rfl
    rw [List.map_cons, pushAll_cons (push_fresh (st.fits 0)), pushAll_cons rfl]
    unfold Stream.packet
    rw [st.seq_zero]

theorem pushAll_displaced (w : AudioJitterWindow) (st : Stream) (arrivals : List Nat)
    (h : Displaced arrivals)
    : let (results, w') := w.reset.pushAll (arrivals.map st.packet)
      ∃ n, results.flatMap (·.events) = st.played n ∧
        ((w'.slots = [] ∧ ∀ i, i ∈ arrivals ↔ i < n) ∨
          (w'.slots = [st.packet (n + 1)] ∧ ∀ i, i ∈ arrivals ↔ i < n ∨ i = n + 1)) := by
  have hreset : w.reset = {} := rfl
  rw [hreset]
  by_cases hsome : arrivals = []
  . rw [hsome]
    exact ⟨0, rfl, Or.inl ⟨rfl, by simp⟩⟩
  . rw [pushAll_first st h hsome]
    obtain ⟨n, s, hstanding, hwindow, hevents⟩ := pushAll_standing st h
    refine ⟨n, hevents, ?_⟩
    rw [hwindow]
    cases hstanding with
    | clear hthere => exact Or.inl ⟨rfl, hthere⟩
    | holding hthere =>
      refine Or.inr ⟨?_, hthere⟩
      rw [Stream.packet, st.seq_succ]
      rfl

theorem fits_singleton (byte : UInt8) : Fits [byte] := by
  simp [Fits, audioJitterMaxPacketBytes]

def wrapping : Stream :=
  { start := 65535, payload := fun i => [UInt8.ofNat i], fits := fun _ => fits_singleton _ }

theorem displaced_swapped : Displaced [0, 2, 1, 1, 3] := by
  have h₀ : Displaced [0] := .snoc .nil ⟨by simp, by omega, by simp⟩
  have h₁ : Displaced [0, 2] := .snoc h₀ ⟨by simp, by grind, by simp⟩
  have h₂ : Displaced [0, 2, 1] := .snoc h₁ ⟨by simp, by grind, by simp⟩
  have h₃ : Displaced [0, 2, 1, 1] := by
    refine .snoc h₂ ⟨by simp, by grind, ?_⟩
    intro _ n hn
    by_contra hfar
    have hmem := hn.2 3 (by omega)
    simp at hmem
  exact .snoc h₃ ⟨by simp, by grind, by simp⟩

theorem pushAll_displaced_swapped
    : Displaced [0, 2, 1, 1, 3] ∧
        ∃ n, ((reset {}).pushAll ([0, 2, 1, 1, 3].map wrapping.packet)).1.flatMap (·.events) =
            wrapping.played n ∧
          ((((reset {}).pushAll ([0, 2, 1, 1, 3].map wrapping.packet)).2.slots = [] ∧
              ∀ i, i ∈ [0, 2, 1, 1, 3] ↔ i < n) ∨
            (((reset {}).pushAll ([0, 2, 1, 1, 3].map wrapping.packet)).2.slots =
                [wrapping.packet (n + 1)] ∧
              ∀ i, i ∈ [0, 2, 1, 1, 3] ↔ i < n ∨ i = n + 1)) :=
  ⟨displaced_swapped, pushAll_displaced {} wrapping [0, 2, 1, 1, 3] displaced_swapped⟩

end AudioJitterWindow

end Audio
