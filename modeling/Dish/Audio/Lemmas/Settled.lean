import Dish.Audio.Jitter

/-!
This module contains the states a push leaves the reorder window in.
-/

namespace Audio

variable {delta : Nat}

open AudioJitterWindow Wrapping

inductive Settled where
  | clear (next : UInt16)
  | holding (next : UInt16) (bytes : List UInt8) (gaps : Fin 3)

namespace Settled

def next : Settled → UInt16
  | clear next => next
  | holding next _ _ => next

def window : Settled → AudioJitterWindow
  | clear next => { primed := true, next }
  | holding next bytes gaps =>
    { slots := [⟨next + 1, bytes⟩], primed := true, next, consecutiveGaps := gaps }

def catchUp (next seq : UInt16) (data : List UInt8) : Nat → List Event × Settled
  | 0 => ([.packet seq data], clear (seq + 1))
  | 1 => ([], holding next data 0)
  | 2 => ([.gap next none], holding (next + 1) data 1)
  | 3 => ([.gap next none, .gap (next + 1) none], holding (next + 1 + 1) data 2)
  | _ + 4 => ([.gap next none, .gap (next + 1) none, .packet seq data], clear (seq + 1))

def lead (next : UInt16) (bytes : List UInt8) (gaps : Fin 3) : List Event :=
  if gaps < 2 then
    [.gap next (some bytes), .packet (next + 1) bytes]
  else
    [.packet (next + 1) bytes]

inductive Row : Settled → Slot → Result → Settled → Prop where
  | late {s : Settled} {offer : Slot} (hlate : ahead offer.seq s.next < 0)
      : Row s offer { accept := .late } s
  | clear {n seq : UInt16} {data : List UInt8} {delta : Nat} (hdelta : ahead seq n = delta)
      : Row (clear n) ⟨seq, data⟩ { events := (catchUp n seq data delta).1 }
          (catchUp n seq data delta).2
  | due {n : UInt16} {bytes data : List UInt8} {gaps : Fin 3}
      : Row (holding n bytes gaps) ⟨n, data⟩
          { events := [.packet n data, .packet (n + 1) bytes] } (clear (n + 1 + 1))
  | held {n : UInt16} {bytes data : List UInt8} {gaps : Fin 3}
      : Row (holding n bytes gaps) ⟨n + 1, data⟩ { accept := .duplicate } (holding n bytes gaps)
  | far {n seq : UInt16} {bytes data : List UInt8} {gaps : Fin 3} {delta : Nat}
      (hdelta : ahead seq n = (delta + 2 : Nat))
      : Row (holding n bytes gaps) ⟨seq, data⟩
          { events := lead n bytes gaps ++ (catchUp (n + 1 + 1) seq data delta).1 }
          (catchUp (n + 1 + 1) seq data delta).2

theorem exists_row (s : Settled) (offer : Slot) : ∃ result s', Row s offer result s' := by
  obtain ⟨seq, data⟩ := offer
  by_cases hlate : ahead seq s.next < 0
  . exact ⟨_, _, .late hlate⟩
  . obtain ⟨delta, hdelta⟩ := Int.eq_ofNat_of_zero_le (Int.not_lt.mp hlate)
    match s, delta with
    | .clear n, delta => exact ⟨_, _, .clear hdelta⟩
    | .holding n bytes gaps, 0 =>
      obtain rfl := ahead_eq_zero.mp hdelta
      exact ⟨_, _, .due⟩
    | .holding n bytes gaps, 1 =>
      obtain rfl := eq_succ_of_ahead hdelta
      exact ⟨_, _, .held⟩
    | .holding n bytes gaps, delta + 2 => exact ⟨_, _, .far hdelta⟩

end Settled

namespace AudioJitterWindow

def Fits (data : List UInt8) : Prop :=
  data.length ≠ 0 ∧ data.length ≤ audioJitterMaxPacketBytes

theorem Fits.accepted {data : List UInt8} (h : Fits data)
    : ¬ (data.length = 0 ∨ audioJitterMaxPacketBytes < data.length) := by
  rintro (hempty | hlong)
  . exact h.1 hempty
  . exact Nat.not_lt.mpr h.2 hlong

variable {seq n : UInt16} {data bytes : List UInt8} {g : Nat} {p : Bool}

theorem drain_nil (room : Nat) (w : AudioJitterWindow) (h : w.slots = [])
    : drain room w = ([], w) := by
  cases room with
  | zero => rfl
  | succ room => simp [drain, find, maxAhead, h, audioJitterWindowFrames]

theorem drain_due (room : Nat)
    : drain (room + 1) { slots := [⟨n, data⟩], primed := p, next := n, consecutiveGaps := g } =
        ([.packet n data], { primed := p, next := n + 1 }) := by
  simp [drain, find, release, drain_nil]

theorem drain_wait (room : Nat) (hone : ahead seq n = 1)
    : drain (room + 1) { slots := [⟨seq, data⟩], primed := p, next := n, consecutiveGaps := g } =
        ([], { slots := [⟨seq, data⟩], primed := p, next := n, consecutiveGaps := g }) := by
  have hne : seq ≠ n := ne_of_ahead (by omega)
  simp [drain, find, maxAhead, deltaFromNext, hne, hone, audioJitterWindowFrames]

theorem drain_gap (room : Nat) (hfar : 2 ≤ ahead seq n) (hg : g < 2)
    : drain (room + 1) { slots := [⟨seq, data⟩], primed := p, next := n, consecutiveGaps := g } =
        let rest := drain room
          { slots := [⟨seq, data⟩], primed := p, next := n + 1, consecutiveGaps := g + 1 }
        (.gap n none :: rest.1, rest.2) := by
  have hsucc : ahead seq (n + 1) = ahead seq n - 1 := ahead_succ (by omega)
  have hne : seq ≠ n := ne_of_ahead (by omega)
  have hne' : seq ≠ n + 1 := ne_of_ahead (by omega)
  have hmax : ¬ (if -1 < ahead seq n then ahead seq n else -1) < 2 := by omega
  have hg' : ¬ 2 ≤ g := by omega
  simp [drain, find, maxAhead, deltaFromNext, hne, hne', hmax, hg', audioJitterWindowFrames,
    audioJitterMaxConcealFrames]

theorem drain_resync (room : Nat) (hfar : 2 ≤ ahead seq n) (hg : 2 ≤ g)
    : drain (room + 1) { slots := [⟨seq, data⟩], primed := p, next := n, consecutiveGaps := g } =
        ([.packet seq data], { primed := p, next := seq + 1 }) := by
  have hne : seq ≠ n := ne_of_ahead (by omega)
  have hmax : ¬ (if -1 < ahead seq n then ahead seq n else -1) < 2 := by omega
  simp [drain, find, maxAhead, oldestHeld, deltaFromNext, hne, hmax, hg, release, drain_nil,
    audioJitterWindowFrames, audioJitterMaxConcealFrames]

theorem drain_catchUp (room delta : Nat) (hdelta : ahead seq n = delta)
    : drain (room + 3) { slots := [⟨seq, data⟩], primed := true, next := n } =
        ((Settled.catchUp n seq data delta).1, (Settled.catchUp n seq data delta).2.window) := by
  match delta with
  | 0 =>
    obtain rfl := ahead_eq_zero.mp hdelta
    exact drain_due (room + 2)
  | 1 =>
    obtain rfl := eq_succ_of_ahead hdelta
    exact drain_wait (room + 2) hdelta
  | 2 =>
    have hone : ahead seq (n + 1) = 1 := ahead_pred hdelta
    obtain rfl := eq_succ_of_ahead hone
    rw [drain_gap _ (by omega) (by omega), drain_wait _ hone]
    rfl
  | 3 =>
    have htwo : ahead seq (n + 1) = 2 := ahead_pred hdelta
    have hone : ahead seq (n + 1 + 1) = 1 := ahead_pred htwo
    obtain rfl := eq_succ_of_ahead hone
    rw [drain_gap _ (by omega) (by omega), drain_gap _ (by omega) (by omega), drain_wait _ hone]
    rfl
  | delta + 4 =>
    have hthree := ahead_pred hdelta
    have htwo := ahead_pred hthree
    rw [drain_gap _ (by omega) (by omega), drain_gap _ (by omega) (by omega),
      drain_resync _ (by omega) (by omega)]
    rfl

theorem drain_pair (room : Nat)
    : drain (room + 2)
        { slots := [⟨n + 1, bytes⟩, ⟨n, data⟩], primed := p, next := n, consecutiveGaps := g } =
        ([.packet n data, .packet (n + 1) bytes], { primed := p, next := n + 1 + 1 }) := by
  have hne : n + 1 ≠ n := by simp
  simp [drain, find, release, hne, drain_nil]

theorem drain_lead (room : Nat) (gaps : Fin 3) (hfar : 2 ≤ ahead seq n)
    : drain (room + 2) { slots := [⟨n + 1, bytes⟩, ⟨seq, data⟩], primed := p, next := n,
                         consecutiveGaps := gaps } =
        let rest := drain (if gaps < 2 then room else room + 1)
          { slots := [⟨seq, data⟩], primed := p, next := n + 1 + 1 }
        (Settled.lead n bytes gaps ++ rest.1, rest.2) := by
  have hsucc : ahead seq (n + 1) = ahead seq n - 1 := ahead_succ (by omega)
  have hne : seq ≠ n := ne_of_ahead (by omega)
  have hne' : n + 1 ≠ n := by simp
  have hone : ahead (n + 1) n = 1 := ahead_succ_self n
  have hmax : ¬ ahead seq n < 2 := by omega
  have hfar' : 1 < ahead seq n := by omega
  by_cases hgaps : gaps < 2
  . have hopen : ¬ 2 ≤ gaps.val := by omega
    simp [drain, find, maxAhead, deltaFromNext, release, Settled.lead, hne, hne', hone, hmax,
      hfar', hopen, hgaps, audioJitterWindowFrames, audioJitterMaxConcealFrames]
  . have hspent : 2 ≤ gaps.val := by omega
    have holdest : ¬ ahead seq n < 1 := by omega
    simp [drain, find, maxAhead, oldestHeld, deltaFromNext, release, Settled.lead, hne, hne', hone,
      hmax, hfar', holdest, hspent, hgaps, audioJitterWindowFrames, audioJitterMaxConcealFrames]

theorem push_of_delta (w : AudioJitterWindow) (hprimed : w.primed = true)
    (hdata : Fits data) (hdelta : ahead seq w.next = delta)
    : w.push seq data =
        if delta = 0 ∧ w.slots = [] then
          ({ events := [.packet seq data] }, { w with next := w.next + 1, consecutiveGaps := 0 })
        else if (w.find seq).isSome then
          ({ accept := .duplicate }, w)
        else if 2 ≤ w.slots.length then
          ({ accept := .rejected }, w)
        else
          let rest := drain 6 { w with slots := w.slots ++ [⟨seq, data⟩] }
          ({ events := rest.1 }, rest.2) := by
  have hlate : ¬ (delta : Int) < 0 := by omega
  unfold push
  rw [if_neg hdata.accepted]
  simp [prime, hprimed, deltaFromNext, hlate, hdelta, usedSlots, audioJitterWindowFrames,
    audioJitterMaxEventsPerPush, audioJitterMaxConcealFrames]

theorem push_clear (hdata : Fits data) (hdelta : ahead seq n = delta)
    : (Settled.clear n).window.push seq data =
        ({ events := (Settled.catchUp n seq data delta).1 },
          (Settled.catchUp n seq data delta).2.window) := by
  rw [push_of_delta (Settled.clear n).window rfl hdata hdelta]
  by_cases hzero : delta = 0
  . -- The fast path emits what the loop would.
    obtain rfl := hzero
    obtain rfl := ahead_eq_zero.mp hdelta
    simp [Settled.catchUp, Settled.window]
  . have hdrain : drain 6 { slots := [⟨seq, data⟩], primed := true, next := n } = _ :=
      drain_catchUp 3 delta hdelta
    simp [hzero, find, Settled.window, hdrain]

theorem push_far {gaps : Fin 3} (hdata : Fits data) (hdelta : ahead seq n = (delta + 2 : Nat))
    : (Settled.holding n bytes gaps).window.push seq data =
        ({ events := Settled.lead n bytes gaps ++ (Settled.catchUp (n + 1 + 1) seq data delta).1 },
          (Settled.catchUp (n + 1 + 1) seq data delta).2.window) := by
  have hne : n + 1 ≠ seq := by
    rintro rfl
    rw [ahead_succ_self] at hdelta
    omega
  have hnext : ahead seq (n + 1 + 1) = delta := ahead_pred (ahead_pred hdelta)
  have hlead : drain 6 { slots := [⟨n + 1, bytes⟩, ⟨seq, data⟩], primed := true, next := n,
                         consecutiveGaps := gaps } = _ := drain_lead 4 gaps (by omega)
  -- Whether the frame was concealed or left out, there is room for what the new packet sets free.
  have hdrain : drain (if gaps < 2 then 4 else 5)
      { slots := [⟨seq, data⟩], primed := true, next := n + 1 + 1 } =
      ((Settled.catchUp (n + 1 + 1) seq data delta).1,
        (Settled.catchUp (n + 1 + 1) seq data delta).2.window) := by
    split
    . exact drain_catchUp 1 delta hnext
    . exact drain_catchUp 2 delta hnext
  rw [push_of_delta (Settled.holding n bytes gaps).window rfl hdata hdelta]
  simp [find, Settled.window, hne, hlead, hdrain]

theorem push_of_row {s s' : Settled} {offer : Slot} {result : Result} (hdata : Fits offer.bytes)
    (h : s.Row offer result s')
    : s.window.push offer.seq offer.bytes = (result, s'.window) := by
  cases h with
  | late hlate =>
    have hprime : s.window.prime offer.seq = s.window := by
      cases s <;> rfl
    have hdelta : s.window.deltaFromNext offer.seq = ahead offer.seq s.next := by
      cases s <;> rfl
    unfold push
    rw [if_neg hdata.accepted]
    simp [hprime, hdelta, hlate]
  | clear hdelta => exact push_clear hdata hdelta
  | @due n bytes data gaps =>
    have hdrain : drain 6 { slots := [⟨n + 1, bytes⟩, ⟨n, data⟩], primed := true, next := n,
                            consecutiveGaps := gaps } = _ := drain_pair 4
    rw [push_of_delta (Settled.holding n bytes gaps).window rfl hdata (ahead_self n)]
    simp [find, Settled.window, hdrain]
  | @held n bytes data gaps =>
    rw [push_of_delta (Settled.holding n bytes gaps).window rfl hdata (ahead_succ_self n)]
    simp [find, Settled.window]
  | far hdelta => exact push_far hdata hdelta

end AudioJitterWindow

end Audio
