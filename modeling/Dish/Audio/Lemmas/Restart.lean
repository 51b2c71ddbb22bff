import Dish.Audio.Lemmas.Displaced

/-!
This module contains the recovery of a speaker voice from a stream that starts over.
-/

namespace Audio

variable {events : List Event} {voice voice' : Voice}

open AudioJitterWindow Wrapping

def Voice.decodeAll (voice : Voice) : List Slot → List Event × Voice
  | [] => ([], voice)
  | frame :: frames =>
    let (events, voice) := voice.decodeAndQueue frame.seq frame.bytes
    let (more, voice) := voice.decodeAll frames
    (events ++ more, voice)

def Stream.frames (st : Stream) (k n : Nat) : List Slot :=
  (List.range' k n).map st.packet

theorem Stream.frames_succ (st : Stream) (k n : Nat)
    : st.frames k (n + 1) = st.packet k :: st.frames (k + 1) n := by
  rfl

namespace Voice

variable {s s' : Settled} {frame : Slot} {result : Result}

theorem decodeAndQueue_ok (late : Nat) (hdata : Fits frame.bytes) (hrow : s.Row frame result s')
    (hok : result.accept = .ok)
    : decodeAndQueue ⟨s.window, late⟩ frame.seq frame.bytes =
        (result.events, ⟨s'.window, 0⟩) := by
  unfold decodeAndQueue
  rw [push_of_row hdata hrow]
  simp [hok]

theorem decodeAndQueue_duplicate (late : Nat) (hdata : Fits frame.bytes)
    (hrow : s.Row frame result s') (hduplicate : result.accept = .duplicate)
    : decodeAndQueue ⟨s.window, late⟩ frame.seq frame.bytes =
        (result.events, ⟨s'.window, late⟩) := by
  unfold decodeAndQueue
  rw [push_of_row hdata hrow]
  simp [hduplicate]

theorem push_first (hdata : Fits frame.bytes)
    : push {} frame.seq frame.bytes =
        ({ events := [.packet frame.seq frame.bytes] },
          (Settled.clear (frame.seq + 1)).window) := by
  have hrow : (Settled.clear frame.seq).Row frame _ _ := .clear (ahead_self frame.seq)
  rw [push_fresh hdata]
  exact push_of_row hdata hrow

theorem decodeAndQueue_first (late : Nat) (hdata : Fits frame.bytes)
    : decodeAndQueue ⟨{}, late⟩ frame.seq frame.bytes =
        ([.packet frame.seq frame.bytes], ⟨(Settled.clear (frame.seq + 1)).window, 0⟩) := by
  unfold decodeAndQueue
  rw [push_first hdata]

theorem decodeAndQueue_late (late : Nat) (hdata : Fits frame.bytes)
    (hlate : ahead frame.seq s.next < 0)
    : decodeAndQueue ⟨s.window, late⟩ frame.seq frame.bytes =
        if late + 1 < 10 then
          ([], ⟨s.window, late + 1⟩)
        else
          ([.packet frame.seq frame.bytes], ⟨(Settled.clear (frame.seq + 1)).window, 0⟩) := by
  have hrow : s.Row frame { accept := .late } s := .late hlate
  have hfresh : s.window.reset.push frame.seq frame.bytes = _ := push_first hdata
  unfold decodeAndQueue
  rw [push_of_row hdata hrow]
  dsimp only
  rw [hfresh]
  by_cases hrun : late + 1 < 10
  . have hneeded : ¬ playoutRestartNeeded (late + 1) := by
      simp [playoutRestartNeeded, kPlayoutLateRunRestart]
      omega
    rw [if_pos hneeded, if_pos hrun]
  . have hneeded : ¬ ¬ playoutRestartNeeded (late + 1) := by
      simpa [playoutRestartNeeded, kPlayoutLateRunRestart] using hrun
    rw [if_neg hneeded, if_neg hrun]

theorem decodeAll_cons
    (h : voice.decodeAndQueue frame.seq frame.bytes = (events, voice')) (frames : List Slot)
    : voice.decodeAll (frame :: frames) =
        (events ++ (voice'.decodeAll frames).1, (voice'.decodeAll frames).2) := by
  simp [decodeAll, h]

end Voice

inductive Tracks (st : Stream) (k : Nat) : Settled → Prop where
  | clear : Tracks st k (.clear (st.seq k + 1))
  | holding {n : UInt16} {gaps : Fin 3} (hn : st.seq k = n + 1)
      : Tracks st k (.holding n (st.payload k) gaps)

namespace Tracks

variable {st : Stream} {k : Nat} {s : Settled}

theorem of_catchUp {n : UInt16} {delta : Nat} (hdelta : ahead (st.seq k) n = delta)
    : Tracks st k (Settled.catchUp n (st.seq k) (st.payload k) delta).2 := by
  match delta with
  | 0 => exact .clear
  | 1 => exact .holding (eq_succ_of_ahead hdelta)
  | 2 => exact .holding (eq_succ_of_ahead (ahead_pred hdelta))
  | 3 => exact .holding (eq_succ_of_ahead (ahead_pred (ahead_pred hdelta)))
  | delta + 4 => exact .clear

theorem row (h : Tracks st k s)
    : ∃ events s', s.Row (st.packet (k + 1)) { events } s' ∧ Tracks st (k + 1) s' ∧
        packets events ++ s'.held = s.held ++ [st.packet (k + 1)] := by
  cases h with
  | clear =>
    have hdelta : ahead (st.seq (k + 1)) (st.seq k + 1) = (0 : Nat) := by
      rw [st.seq_succ, ahead_self]
      rfl
    exact ⟨_, _, .clear hdelta, .of_catchUp hdelta, Settled.packets_catchUp hdelta⟩
  | @holding n gaps hn =>
    have hdelta : ahead (st.seq (k + 1)) n = (0 + 2 : Nat) := by
      rw [st.seq_succ, hn, ahead_succ_succ_self]
      rfl
    refine ⟨_, _, .far hdelta, .of_catchUp (ahead_pred (ahead_pred hdelta)), ?_⟩
    rw [Settled.packets_far hdelta]
    rfl

theorem decodeAll (h : Tracks st k s) (late n : Nat)
    : packets (Voice.decodeAll ⟨s.window, late⟩ (st.frames (k + 1) n)).1 ++
          (Voice.decodeAll ⟨s.window, late⟩ (st.frames (k + 1) n)).2.window.slots =
        s.held ++ st.frames (k + 1) n ∧
      ∀ p ∈ (Voice.decodeAll ⟨s.window, late⟩ (st.frames (k + 1) n)).2.window.slots,
        p = st.packet (k + n) := by
  induction n generalizing k s late with
  | zero =>
    have hslots : (Voice.decodeAll ⟨s.window, late⟩ (st.frames (k + 1) 0)).2.window.slots =
        s.held := held_eq_slots s
    rw [hslots]
    refine ⟨by simp [Stream.frames, Voice.decodeAll, packets], ?_⟩
    intro p hp
    cases h with
    | clear => cases hp
    | holding hn =>
      rw [List.mem_singleton.mp hp, Stream.packet, Nat.add_zero, hn]
  | succ n ih =>
    obtain ⟨events, s', hrow, h', hpackets⟩ := h.row
    have hdecode := Voice.decodeAndQueue_ok late (st.fits (k + 1)) hrow rfl
    obtain ⟨hkept, hnewest⟩ := ih h' 0
    rw [st.frames_succ, Voice.decodeAll_cons hdecode]
    refine ⟨?_, ?_⟩
    . dsimp only
      rw [packets_append, List.append_assoc, hkept, ← List.append_assoc, hpackets]
      simp
    . intro p hp
      rw [hnewest p hp]
      congr 1
      omega

end Tracks

/--
The `n` frames from `k` on: those not dropped are handed over in order, and only the newest may
still be held.
-/
def Recovers (st : Stream) (voice : Voice) (k n dropped : Nat) : Prop :=
  ∃ kept₁ old kept₂,
    packets (voice.decodeAll (st.frames k n)).1 ++
        (voice.decodeAll (st.frames k n)).2.window.slots = kept₁ ++ old ++ kept₂ ∧
    old.Sublist voice.window.slots ∧ (kept₁ ++ kept₂).Sublist (st.frames k n) ∧
    n ≤ (kept₁ ++ kept₂).length + dropped ∧
    ∀ p ∈ (voice.decodeAll (st.frames k n)).2.window.slots,
      p ∈ voice.window.slots ∨ ∃ last, n = last + 1 ∧ p = st.packet (k + last)

namespace Recovers

variable {st : Stream} {k n dropped late late' : Nat} {s s' : Settled}

theorem zero (voice : Voice) : Recovers st voice k 0 dropped :=
  ⟨[], voice.window.slots, [], by simp [Stream.frames, Voice.decodeAll, packets], .refl _, by simp,
    by simp, fun _ hp => Or.inl hp⟩

theorem drop (hdecode : voice.decodeAndQueue (st.packet k).seq (st.packet k).bytes = ([], voice'))
    (hslots : voice'.window.slots = voice.window.slots) (h : Recovers st voice' (k + 1) n dropped)
    : Recovers st voice k (n + 1) (dropped + 1) := by
  obtain ⟨kept₁, old, kept₂, hpackets, hold, hkept, hdropped, hnewest⟩ := h
  unfold Recovers
  rw [st.frames_succ, Voice.decodeAll_cons hdecode, ← hslots]
  refine ⟨kept₁, old, kept₂, hpackets, hold, hkept.cons _, by omega, ?_⟩
  intro p hp
  rcases hnewest p hp with hold | ⟨last, hn, hp⟩
  . exact Or.inl hold
  . exact Or.inr ⟨last + 1, by omega, by rw [hp]; congr 1; omega⟩

theorem mono {more : Nat} (h : Recovers st voice k n dropped) (hmore : dropped ≤ more)
    : Recovers st voice k n more := by
  obtain ⟨kept₁, old, kept₂, hpackets, hold, hkept, hdropped, hnewest⟩ := h
  exact ⟨kept₁, old, kept₂, hpackets, hold, hkept, by omega, hnewest⟩

theorem emit {old : List Slot}
    (hdecode : voice.decodeAndQueue (st.packet k).seq (st.packet k).bytes = (events, voice'))
    (hpackets : packets events = st.packet k :: old) (hold : old.Sublist voice.window.slots)
    (hslots : voice'.window.slots = []) (h : Recovers st voice' (k + 1) n dropped)
    : Recovers st voice k (n + 1) dropped := by
  obtain ⟨kept₁, old', kept₂, hrest, hold', hkept, hdropped, hnewest⟩ := h
  rw [hslots, List.sublist_nil] at hold'
  rw [hold', List.append_nil] at hrest
  unfold Recovers
  rw [st.frames_succ, Voice.decodeAll_cons hdecode]
  refine ⟨[st.packet k], old, kept₁ ++ kept₂, ?_, hold, hkept.cons_cons _, ?_, ?_⟩
  . dsimp only
    rw [packets_append, List.append_assoc, hrest, hpackets]
    simp
  . simp only [List.singleton_append, List.length_cons]
    omega
  . intro p hp
    rcases hnewest p hp with hmem | ⟨last, hn, hp⟩
    . rw [hslots] at hmem
      cases hmem
    . exact Or.inr ⟨last + 1, by omega, by rw [hp]; congr 1; omega⟩

theorem of_tracks (kept₁ old kept₂ : List Slot)
    (hdecode : voice.decodeAndQueue (st.packet k).seq (st.packet k).bytes =
      (events, ⟨s'.window, late'⟩)) (h : Tracks st k s')
    (hpackets : packets events ++ s'.held = kept₁ ++ old ++ kept₂)
    (hold : old.Sublist voice.window.slots) (hkept : kept₁ ++ kept₂ = [st.packet k])
    : Recovers st voice k (n + 1) dropped := by
  obtain ⟨hrest, hnewest⟩ := h.decodeAll late' n
  unfold Recovers
  rw [st.frames_succ, Voice.decodeAll_cons hdecode]
  refine ⟨kept₁, old, kept₂ ++ st.frames (k + 1) n, ?_, hold, ?_, ?_, ?_⟩
  . dsimp only
    rw [packets_append, List.append_assoc, hrest, ← List.append_assoc, hpackets]
    simp
  . rw [← List.append_assoc, hkept]
    exact .refl _
  . rw [← List.append_assoc, hkept]
    simp [Stream.frames]
  . intro p hp
    exact Or.inr ⟨n, rfl, hnewest p hp⟩

theorem in_step : Recovers st ⟨(Settled.clear (st.seq k + 1)).window, late⟩ (k + 1) n dropped := by
  cases n with
  | zero => exact .zero _
  | succ n =>
    have hclear : Tracks st k (.clear (st.seq k + 1)) := .clear
    obtain ⟨events, s', hrow, h, hpackets⟩ := hclear.row
    have hdecode := Voice.decodeAndQueue_ok late (st.fits (k + 1)) hrow rfl
    exact of_tracks [st.packet (k + 1)] [] [] hdecode h hpackets (by simp) rfl

theorem far {x : UInt16} {bytes : List UInt8} {gaps : Fin 3} {delta : Nat}
    (hdelta : ahead (st.seq k) x = (delta + 2 : Nat))
    : Recovers st ⟨(Settled.holding x bytes gaps).window, late⟩ k (n + 1) dropped := by
  have hrow : (Settled.holding x bytes gaps).Row (st.packet k) _ _ := .far hdelta
  have hdecode := Voice.decodeAndQueue_ok late (st.fits k) hrow rfl
  exact of_tracks [] [⟨x + 1, bytes⟩] [st.packet k] hdecode
    (.of_catchUp (ahead_pred (ahead_pred hdelta))) (Settled.packets_far hdelta) (.refl _) rfl

theorem overtaken (hdropped : 0 < dropped)
    : Recovers st ⟨(Settled.clear (st.seq k + 1 + 1)).window, 0⟩ (k + 1) n dropped := by
  cases n with
  | zero => exact .zero _
  | succ n =>
    have hbehind : ahead (st.packet (k + 1)).seq (Settled.clear (st.seq k + 1 + 1)).next < 0 := by
      have hseq : (st.packet (k + 1)).seq = st.seq k + 1 := st.seq_succ k
      rw [hseq, Settled.next, ahead_self_succ]
      decide
    have hdecode := Voice.decodeAndQueue_late 0 (st.fits (k + 1)) hbehind
    rw [if_pos (by decide)] at hdecode
    obtain ⟨rest, rfl⟩ := Nat.exists_eq_add_of_lt hdropped
    rw [Nat.zero_add]
    refine .drop hdecode rfl ?_
    rw [← st.seq_succ]
    exact .in_step

theorem overlapped {x : UInt16} {bytes : List UInt8} {gaps : Fin 3} (hseq : st.seq k = x + 1)
    : Recovers st ⟨(Settled.holding x bytes gaps).window, late⟩ (k + 1) n dropped := by
  cases n with
  | zero => exact .zero _
  | succ n =>
    have hdelta : ahead (st.seq (k + 1)) x = (0 + 2 : Nat) := by
      rw [st.seq_succ, hseq, ahead_succ_succ_self]
      rfl
    exact .far hdelta

end Recovers

theorem recovers (st : Stream) (s : Settled) (late k n : Nat) (hlate : late < 10)
    : Recovers st ⟨s.window, late⟩ k n (10 - late) := by
  induction n generalizing late k with
  | zero => exact .zero _
  | succ n ih =>
    obtain ⟨result, s', hrow⟩ := s.exists_row (st.packet k)
    have hdecode (hok : result.accept = .ok) :=
      Voice.decodeAndQueue_ok late (st.fits k) hrow hok
    have hdrop (hduplicate : result.accept = .duplicate) :=
      Voice.decodeAndQueue_duplicate late (st.fits k) hrow hduplicate
    generalize hframe : st.packet k = frame at hrow
    cases hrow with
    | late hbehind =>
      rw [← hframe] at hbehind
      have hdecode := Voice.decodeAndQueue_late late (st.fits k) hbehind
      by_cases hrun : late + 1 < 10
      . rw [if_pos hrun] at hdecode
        have hdropped : 10 - late = 10 - (late + 1) + 1 := by omega
        rw [hdropped]
        exact .drop hdecode rfl (ih (late + 1) (k + 1) hrun)
      . rw [if_neg hrun] at hdecode
        exact .of_tracks [st.packet k] [] [] hdecode .clear rfl (by simp) rfl
    | clear hdelta =>
      cases hframe
      exact .of_tracks [st.packet k] [] [] (hdecode rfl) (.of_catchUp hdelta)
        (Settled.packets_catchUp hdelta) (by simp) rfl
    | due =>
      cases hframe
      exact .emit (hdecode rfl) rfl (.refl _) rfl (.overtaken (by omega))
    | held =>
      have hseq := congrArg Slot.seq hframe
      have hdropped : 10 - late = 9 - late + 1 := by omega
      rw [hdropped]
      exact .drop (hdrop rfl) rfl (.overlapped hseq)
    | far hdelta =>
      cases hframe
      exact .far hdelta

namespace AudioJitterWindow

def Rests (w : AudioJitterWindow) : Prop :=
  w = {} ∨ ∃ s : Settled, w = s.window

theorem Rests.length_le {w : AudioJitterWindow} (h : w.Rests) : w.slots.length ≤ 1 := by
  rcases h with rfl | ⟨s, rfl⟩
  . simp
  . cases s <;> simp [Settled.window]

theorem Rests.push {w : AudioJitterWindow} (h : w.Rests) (frame : Slot)
    : (w.push frame.seq frame.bytes).2.Rests := by
  by_cases hdata : Fits frame.bytes
  . have hsettled (s : Settled) : (s.window.push frame.seq frame.bytes).2.Rests := by
      obtain ⟨result, s', hrow⟩ := s.exists_row frame
      rw [push_of_row hdata hrow]
      exact Or.inr ⟨s', rfl⟩
    rcases h with rfl | ⟨s, rfl⟩
    . rw [push_fresh hdata]
      exact hsettled _
    . exact hsettled s
  . rw [push_unfit w hdata]
    exact h

end AudioJitterWindow

namespace Voice

structure Rests (voice : Voice) : Prop where
  window : voice.window.Rests
  lateRun : voice.lateRun < 10

theorem Rests.decodeAndQueue (h : voice.Rests) (frame : Slot)
    : (voice.decodeAndQueue frame.seq frame.bytes).2.Rests := by
  have hpush := h.window.push frame
  have hlate := h.lateRun
  unfold Voice.decodeAndQueue
  generalize voice.window.push frame.seq frame.bytes = pushed at hpush
  obtain ⟨⟨accept, events⟩, window⟩ := pushed
  cases accept with
  | ok => exact ⟨hpush, by simp⟩
  | late =>
    dsimp only
    split
    . next hneeded =>
      have hrun : voice.lateRun < 9 := by
        simpa [playoutRestartNeeded, kPlayoutLateRunRestart] using hneeded
      exact ⟨hpush, Nat.succ_lt_succ hrun⟩
    . have hreset : window.reset.Rests := Or.inl rfl
      exact ⟨hreset.push frame, by simp⟩
  | duplicate => exact ⟨hpush, hlate⟩
  | rejected => exact ⟨hpush, hlate⟩

theorem Rests.decodeAll (h : voice.Rests) (frames : List Slot)
    : (voice.decodeAll frames).2.Rests := by
  induction frames generalizing voice with
  | nil => exact h
  | cons frame frames ih => exact ih (h.decodeAndQueue frame)

theorem Rests.recovers (h : voice.Rests) (st : Stream) (n : Nat)
    : Recovers st voice 0 n 10 := by
  obtain ⟨window, late⟩ := voice
  rcases h.window with hfresh | ⟨s, hsettled⟩
  . cases n with
    | zero => exact .zero _
    | succ n =>
      dsimp only at hfresh
      rw [hfresh]
      exact .of_tracks [st.packet 0] [] [] (decodeAndQueue_first late (st.fits 0)) .clear rfl
        (by simp) rfl
  . dsimp only at hsettled
    rw [hsettled]
    exact (Audio.recovers st s late 0 n h.lateRun).mono (by omega)

theorem decodeAll_restart (earlier : List Slot) (st : Stream) (n : Nat)
    : let voice := (decodeAll {} earlier).2
      let (events, voice') := voice.decodeAll (st.frames 0 n)
      ∃ kept₁ old kept₂, packets events ++ voice'.window.slots = kept₁ ++ old ++ kept₂ ∧
        old.Sublist voice.window.slots ∧ old.length ≤ 1 ∧
        (kept₁ ++ kept₂).Sublist (st.frames 0 n) ∧ n ≤ (kept₁ ++ kept₂).length + 10 ∧
        ∀ p ∈ voice'.window.slots,
          p ∈ voice.window.slots ∨ ∃ last, n = last + 1 ∧ p = st.packet last := by
  have hfresh : Rests {} := ⟨Or.inl rfl, by decide⟩
  have hrests := hfresh.decodeAll earlier
  obtain ⟨kept₁, old, kept₂, hpackets, hold, hkept, hdropped, hnewest⟩ := hrests.recovers st n
  refine ⟨kept₁, old, kept₂, hpackets, hold, ?_, hkept, hdropped, ?_⟩
  . exact Nat.le_trans hold.length_le hrests.window.length_le
  . intro p hp
    simpa using hnewest p hp

end Voice

end Audio
