import Dish.Wire.HttpFraming

/-!
This module contains the proof that a response once read stays as it was read.
-/

namespace Wire

variable {bytes : Bytes} {response : HttpResponse}

open HttpParse

@[simp]
theorem state_stillShort (peerClosed : Bool)
    : (stillShort peerClosed).state = .Incomplete ↔ peerClosed = false := by
  cases peerClosed <;> simp [stillShort]

theorem readFields_append {head : HttpResponse} (more : Bytes) (peerClosed : Bool)
    (h : (readFields head bytes false).1.state ≠ .Incomplete)
    : readFields head (bytes ++ more) peerClosed
      = ((readFields head bytes false).1, (readFields head bytes false).2 ++ more) := by
  fun_induction readFields head bytes false with
  | case1 => exact absurd rfl h
  | case2 head bytes text rest hline hempty =>
    rw [readFields, stable_line bytes more text rest hline]
    simp [hempty]
  | case3 head bytes text rest hline hfield hnone =>
    rw [readFields, stable_line bytes more text rest hline]
    simp [hfield, hnone]
  | case4 head bytes text rest hline hfield field hsome ih =>
    rw [readFields, stable_line bytes more text rest hline]
    simp [hfield, hsome, ih h]

theorem readHead_append (more : Bytes) (peerClosed : Bool)
    (h : (readHead bytes false).1.state ≠ .Incomplete)
    : readHead (bytes ++ more) peerClosed
      = ((readHead bytes false).1, (readHead bytes false).2 ++ more) := by
  unfold readHead at h ⊢
  cases hline : line bytes with
  | none => simp [hline] at h
  | some read =>
    obtain ⟨text, rest⟩ := read
    rw [stable_line bytes more text rest hline]
    simp only [hline] at h ⊢
    cases hstatus : statusOf text with
    | none => simp
    | some status =>
      simp only [hstatus] at h ⊢
      exact readFields_append more peerClosed h

theorem readTrailers_append (more : Bytes)
    (peerClosed : Bool) (h : (readTrailers response bytes false).state ≠ .Incomplete)
    : readTrailers response (bytes ++ more) peerClosed = readTrailers response bytes false := by
  fun_induction readTrailers response bytes false with
  | case1 => exact absurd rfl h
  | case2 bytes text rest hline hempty =>
    rw [readTrailers, stable_line bytes more text rest hline]
    simp [hempty]
  | case3 bytes text rest hline hfield ih =>
    rw [readTrailers, stable_line bytes more text rest hline]
    simp [hfield, ih h]

theorem readChunks_append (more : Bytes)
    (peerClosed : Bool) (h : (readChunks response bytes false).state ≠ .Incomplete)
    : readChunks response (bytes ++ more) peerClosed = readChunks response bytes false := by
  fun_induction readChunks response bytes false with
  | case1 | case4 | case5 => exact absurd rfl h
  | case2 response bytes sizeLine rest hline hsize =>
    rw [readChunks, stable_line bytes more sizeLine rest hline]
    simp [hsize]
  | case3 response bytes sizeLine rest hline hsize =>
    rw [readChunks, stable_line bytes more sizeLine rest hline]
    simp [hsize, readTrailers_append more peerClosed h]
  | case6 response bytes sizeLine rest hline size hsize hlast data rest' hdata dataEnd rest'' hend
      hempty ih =>
    rw [readChunks, stable_line bytes more sizeLine rest hline]
    simp only [hsize, hlast, if_false]
    rw [Reader.stable_take size rest more data rest' hdata]
    dsimp only
    rw [stable_line rest' more dataEnd rest'' hend]
    simp [hempty, ih h]
  | case7 response bytes sizeLine rest hline size hsize hlast data rest' hdata dataEnd rest'' hend
      hfull =>
    rw [readChunks, stable_line bytes more sizeLine rest hline]
    simp only [hsize, hlast, if_false]
    rw [Reader.stable_take size rest more data rest' hdata]
    dsimp only
    rw [stable_line rest' more dataEnd rest'' hend]
    simp [hfull]

theorem readLength_append (more : Bytes)
    (peerClosed : Bool) (h : (readLength response bytes false).state ≠ .Incomplete)
    : readLength response (bytes ++ more) peerClosed = readLength response bytes false := by
  unfold readLength at h ⊢
  cases hlength : countOf (response.header (ascii "content-length")) 10 with
  | none => rfl
  | some length =>
    simp only [hlength] at h ⊢
    cases hbody : Reader.take length bytes with
    | none => simp [hbody] at h
    | some read =>
      obtain ⟨body, rest⟩ := read
      rw [Reader.stable_take length bytes more body rest hbody]

theorem readBody_append (more : Bytes)
    (peerClosed : Bool) (h : (readBody response bytes false).state ≠ .Incomplete)
    : readBody response (bytes ++ more) peerClosed = readBody response bytes false := by
  unfold readBody at h ⊢
  cases hframing : framingOf response with
  | None => rfl
  | Chunked =>
    simp only [hframing] at h ⊢
    exact readChunks_append more peerClosed h
  | Length =>
    simp only [hframing] at h ⊢
    exact readLength_append more peerClosed h
  | UntilClose =>
    simp only [hframing] at h
    exact absurd rfl h

theorem parseHttpResponse_append {received : Bytes} (more : Bytes) (peerClosed : Bool)
    (h : (parseHttpResponse received false).state ≠ .Incomplete)
    : parseHttpResponse (received ++ more) peerClosed = parseHttpResponse received false := by
  fun_induction parseHttpResponse received false with
  | case1 received hhead head isInterim hinterim ih =>
    rw [parseHttpResponse, readHead_append more peerClosed (by simp [hhead])]
    simp only [hhead, dif_pos]
    rw [if_pos hinterim]
    exact ih h
  | case2 received hhead head isInterim hfinal =>
    rw [parseHttpResponse, readHead_append more peerClosed (by simp [hhead])]
    simp only [hhead, dif_pos]
    rw [if_neg hfinal]
    exact readBody_append more peerClosed h
  | case3 received hhead =>
    rw [parseHttpResponse, readHead_append more peerClosed h]
    simp only [hhead, dif_neg, not_false_eq_true]

theorem state_readFields_closed (head : HttpResponse) (bytes : Bytes)
    : (readFields head bytes true).1.state ≠ .Incomplete := by
  fun_induction readFields head bytes true with
  | case1 => simp
  | case2 => simp [complete]
  | case3 => simp [malformed]
  | case4 _ _ _ _ _ _ _ _ ih => exact ih

theorem state_readHead_closed (bytes : Bytes) : (readHead bytes true).1.state ≠ .Incomplete := by
  unfold readHead
  split
  . simp
  . split
    . simp [malformed]
    . apply state_readFields_closed

theorem state_readTrailers_closed (response : HttpResponse) (bytes : Bytes)
    : (readTrailers response bytes true).state ≠ .Incomplete := by
  fun_induction readTrailers response bytes true with
  | case1 => simp
  | case2 => simp [complete]
  | case3 _ _ _ _ _ ih => exact ih

theorem state_readChunks_closed (response : HttpResponse) (bytes : Bytes)
    : (readChunks response bytes true).state ≠ .Incomplete := by
  fun_induction readChunks response bytes true with
  | case1 => simp
  | case2 => simp [malformed]
  | case3 => apply state_readTrailers_closed
  | case4 => simp
  | case5 => simp
  | case6 _ _ _ _ _ _ _ _ _ _ _ _ _ _ _ ih => exact ih
  | case7 => simp [malformed]

theorem state_readBody_closed (response : HttpResponse) (bytes : Bytes)
    : (readBody response bytes true).state ≠ .Incomplete := by
  unfold readBody
  split
  . simp [complete]
  . apply state_readChunks_closed
  . unfold readLength
    split
    . simp [malformed]
    . split
      . simp
      . simp [complete]
  . simp [readUntilClose, complete]

theorem state_parseHttpResponse_closed (received : Bytes)
    : (parseHttpResponse received true).state ≠ .Incomplete := by
  fun_induction parseHttpResponse received true with
  | case1 _ _ _ _ _ ih => exact ih
  | case2 => apply state_readBody_closed
  | case3 => apply state_readHead_closed

end Wire
