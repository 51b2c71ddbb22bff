import Mathlib.Data.List.TakeWhile
import Dish.Lib.Trim
import Dish.Wire.HttpRender

/-!
This module contains the proof that a response is read back as it was written.
-/

namespace Wire

open HttpParse

variable {base : Nat} {eol : LineEnd} {text : Bytes} {field : Field} {m : Message}

namespace LineEnd

def kept : LineEnd → Bytes → Bytes
  | .crlf, text => text
  | .lf, text => if text.getLast? = some kCr then text.dropLast else text

theorem kept_of_getLast? (h : text.getLast? ≠ some kCr) : eol.kept text = text := by
  cases eol with
  | crlf => rfl
  | lf => simp [kept, h]

variable (eol) in
theorem kept_append_behind {sep : UInt8} (hsep : sep ≠ kCr) (htext : text.getLast? ≠ some kCr)
    (tail : Option Bytes)
    : ∃ tail', eol.kept (text ++ behind sep tail) = text ++ behind sep tail' := by
  cases tail with
  | none => exact ⟨none, kept_of_getLast? (by simpa [behind] using htext)⟩
  | some tail =>
    by_cases hlast : (text ++ sep :: tail).getLast? = some kCr
    . cases eol with
      | crlf => exact ⟨some tail, rfl⟩
      | lf =>
        -- the CR is not the separator, so there is text behind it to lose
        cases tail with
        | nil => simp [hsep] at hlast
        | cons b tail =>
          refine ⟨some (b :: tail).dropLast, ?_⟩
          rw [behind, kept, if_pos hlast]
          simp [behind]
    . exact ⟨some tail, kept_of_getLast? hlast⟩

end LineEnd

theorem not_mem_behind {b sep : UInt8} {tail : Option Bytes} (hsep : b ≠ sep)
    (h : ∀ text ∈ tail, b ∉ text)
    : b ∉ behind sep tail := by
  cases tail with
  | none => exact List.not_mem_nil
  | some text => simp [behind, hsep, h text rfl]

variable (eol) in
theorem line_append (rest : Bytes) (h : kLf ∉ text)
    : line (text ++ (eol.bytes ++ rest)) = some (eol.kept text, rest) := by
  unfold line
  cases eol with
  | crlf =>
    have hcr : kLf ∉ text ++ [kCr] := by simpa [kLf, kCr] using h
    have hupTo := Reader.upTo_append_cons rest hcr
    rw [List.append_assoc] at hupTo
    rw [LineEnd.bytes, List.cons_append, List.cons_append, List.nil_append]
    rw [List.cons_append, List.nil_append] at hupTo
    rw [hupTo]
    simp [LineEnd.kept]
  | lf =>
    rw [LineEnd.bytes, List.cons_append, List.nil_append, Reader.upTo_append_cons rest h]
    rfl

theorem line_eol (rest : Bytes) : line (eol.bytes ++ rest) = some ([], rest) := by
  have h := line_append eol rest List.not_mem_nil
  rw [LineEnd.kept_of_getLast? (by simp)] at h
  exact h

section Numeral

theorem digitOf_digitByte {digit : Nat} (upper : Bool) (hdigit : digit < base) (hbase : base ≤ 16)
    : digitOf base (digitByte digit upper) = some digit := by
  have hsixteen : ∀ digit < 16, ∀ upper, digitOf 16 (digitByte digit upper) = some digit := by decide
  have h := hsixteen digit (by omega) upper
  unfold digitOf at h ⊢
  obtain ⟨hdigit', _⟩ := Option.filter_eq_some_iff.mp h
  exact Option.filter_eq_some_iff.mpr ⟨hdigit', by simpa using hdigit⟩

theorem digitByte_of_lt {digit : Nat} (upper : Bool) (h : digit < 16)
    : digitByte digit upper ≠ kCr ∧ digitByte digit upper ≠ kLf ∧
      digitByte digit upper ≠ kSemicolon ∧ isBlank (digitByte digit upper) = false := by
  have hsixteen : ∀ digit < 16, ∀ upper, digitByte digit upper ≠ kCr ∧
      digitByte digit upper ≠ kLf ∧ digitByte digit upper ≠ kSemicolon ∧
      isBlank (digitByte digit upper) = false := by decide
  exact hsixteen digit h upper

namespace Numeral

theorem mem_bytes {n : Numeral base} {b : UInt8} (hbase : base ≤ 16) (h : b ∈ n.bytes)
    : (digitOf base b).isSome ∧ b ≠ kCr ∧ b ≠ kLf ∧ b ≠ kSemicolon ∧ isBlank b = false := by
  obtain ⟨⟨digit, upper⟩, _, rfl⟩ := List.mem_map.mp h
  refine ⟨?_, digitByte_of_lt upper (Nat.lt_of_lt_of_le digit.2 hbase)⟩
  simp [digitOf_digitByte upper digit.2 hbase]

theorem bytes_ne_nil (n : Numeral base) : n.bytes ≠ [] := by
  simpa [bytes] using n.nonempty

theorem foldl_bytes (digits : List (Fin base × Bool)) (hbase : base ≤ 16) (start : Nat)
    : (digits.map fun digit => digitByte digit.1 digit.2).foldl
        (fun count b => count * base + (digitOf base b).getD 0) start
      = digits.foldl (fun value digit => value * base + digit.1) start := by
  induction digits generalizing start with
  | nil => rfl
  | cons digit digits ih =>
    rw [List.map_cons, List.foldl_cons, List.foldl_cons]
    rw [digitOf_digitByte digit.2 digit.1.2 hbase]
    apply ih

theorem countOf_bytes (n : Numeral base) (hbase : base ≤ 16) (hfits : n.value < 2 ^ 64)
    : countOf n.bytes base = some n.value := by
  have hall : n.bytes.takeWhile (fun b => (digitOf base b).isSome) = n.bytes := by
    apply List.takeWhile_eq_self_iff.mpr
    intro b hb
    exact (mem_bytes hbase hb).1
  have hvalue := foldl_bytes n.digits hbase 0
  unfold countOf
  simp only [hall]
  unfold value at hfits ⊢
  unfold bytes at hvalue ⊢
  rw [hvalue, if_neg (by simpa [n.nonempty] using hfits)]
  simp

end Numeral

end Numeral

section Head

theorem fieldOf_text (field : Field) : fieldOf field.text = some field.header := by
  unfold fieldOf Field.text
  rw [Reader.upTo_append_cons _ field.name_plain.1]
  rfl

theorem line_text (field : Field) (rest : Bytes)
    : line (field.text ++ (eol.bytes ++ rest)) = some (field.text, rest) := by
  have hlf : kLf ∉ field.text := by
    have hcolon : kLf ≠ kColon := by decide
    simp [Field.text, field.name_plain.2, field.value_plain.1, hcolon]
  have hlast : field.text.getLast? ≠ some kCr := by
    have hvalue := field.value_plain.2
    unfold Field.text
    cases hv : field.value with
    | nil => simp [kColon, kCr]
    | cons b value =>
      rw [hv] at hvalue
      simpa using hvalue
  rw [line_append eol rest hlf, LineEnd.kept_of_getLast? hlast]

theorem readFields_write (head : HttpResponse) (fields : List Field) (rest : Bytes) (peerClosed : Bool)
    : readFields head (fields.flatMap (·.text ++ eol.bytes) ++ (eol.bytes ++ rest)) peerClosed
      = (complete { head with headers := head.headers ++ fields.map Field.header }, rest) := by
  induction fields generalizing head with
  | nil =>
    rw [readFields, List.flatMap_nil, List.nil_append, line_eol]
    simp
  | cons field fields ih =>
    have hne : field.text.isEmpty = false := by simp [Field.text]
    rw [readFields, List.flatMap_cons, List.append_assoc, List.append_assoc, line_text]
    simp only [hne, fieldOf_text]
    simp [ih]

theorem value_code (head : Head) : head.code.value = head.status := by
  have h := head.threeDigits
  simp [Head.code, Numeral.value, Fin.ofNat]
  omega

theorem statusOf_statusLine (head : Head) (reason : Option Bytes)
    : statusOf (ascii "HTTP/1." ++ [head.minor, kSpace] ++ head.code.bytes ++ behind kSpace reason)
      = some head.status := by
  have hstatus := head.threeDigits
  have hcode := head.code.countOf_bytes (by decide) (by rw [value_code]; omega)
  rw [value_code] at hcode
  have hlength : head.code.bytes.length = 3 := rfl
  generalize head.code.bytes = code at hcode hlength
  match code, hlength with
  | [a, b, c], _ =>
    cases reason with
    | none => simp [statusOf, behind, ascii, kCodeEnd, kCodeAt, hcode, hstatus]
    | some reason => simp [statusOf, behind, ascii, kCodeEnd, kCodeAt, hcode, hstatus]

theorem readHead_write (head : Head) (rest : Bytes) (peerClosed : Bool)
    : readHead (head.bytes eol ++ rest) peerClosed
      = (complete { status := head.status, headers := head.fields.map Field.header }, rest) := by
  have hcode : ∀ b ∈ head.code.bytes, b ≠ kCr ∧ b ≠ kLf := by
    intro b hb
    have h := Numeral.mem_bytes (by decide) hb
    exact ⟨h.2.1, h.2.2.1⟩
  have hlf : kLf ∉ head.statusLine := by
    have hversion : kLf ∉ ascii "HTTP/1." := by decide
    have hspace : kLf ≠ kSpace := by decide
    have hreason := not_mem_behind hspace head.reason_plain
    simp only [Head.statusLine, List.mem_append, List.mem_cons, List.not_mem_nil, not_or]
    exact ⟨⟨⟨hversion, Ne.symm head.minor_plain, hspace, not_false⟩, fun h => (hcode _ h).2 rfl⟩,
      hreason⟩
  have hlast : (ascii "HTTP/1." ++ [head.minor, kSpace] ++ head.code.bytes).getLast? ≠ some kCr := by
    rw [List.getLast?_append, List.getLast?_eq_some_getLast head.code.bytes_ne_nil, Option.some_or]
    intro h
    exact (hcode _ (List.getLast_mem head.code.bytes_ne_nil)).1 (Option.some.inj h)
  obtain ⟨reason, hkept⟩ := LineEnd.kept_append_behind eol (show kSpace ≠ kCr by decide) hlast
    head.reason
  have hline := line_append eol
    (head.fields.flatMap (·.text ++ eol.bytes) ++ (eol.bytes ++ rest)) hlf
  rw [Head.statusLine, hkept, ← Head.statusLine] at hline
  unfold readHead Head.bytes
  rw [List.append_assoc, List.append_assoc, List.append_assoc, hline]
  simp only [statusOf_statusLine]
  rw [readFields_write]
  rfl

end Head

section Body

variable {count : Nat}

theorem SizeLine.mem_size {sizeLine : SizeLine count} {b : UInt8}
    (h : b ∈ sizeLine.size.bytes ++ sizeLine.blanks)
    : b ≠ kCr ∧ b ≠ kLf ∧ b ≠ kSemicolon := by
  rcases List.mem_append.mp h with hsize | hblank
  . have hdigit := Numeral.mem_bytes (by decide) hsize
    exact ⟨hdigit.2.1, hdigit.2.2.1, hdigit.2.2.2.1⟩
  . have hblank := of_decide_eq_true (sizeLine.blank b hblank)
    rcases hblank with rfl | rfl
    . decide
    . decide

theorem chunkSizeOf_behind (sizeLine : SizeLine count) (extension : Option Bytes)
    (hfits : count < 2 ^ 64)
    : chunkSizeOf (sizeLine.size.bytes ++ sizeLine.blanks ++ behind kSemicolon extension)
      = some count := by
  have hcut : (sizeLine.size.bytes ++ sizeLine.blanks ++ behind kSemicolon extension).takeWhile
      (· ≠ kSemicolon) = sizeLine.size.bytes ++ sizeLine.blanks := by
    rw [List.takeWhile_append_of_pos]
    . cases extension with
      | none => simp [behind]
      | some extension => simp [behind]
    . intro b hb
      exact decide_eq_true (SizeLine.mem_size hb).2.2
  have htrim : trimmed (sizeLine.size.bytes ++ sizeLine.blanks) = sizeLine.size.bytes := by
    apply Trim.both_append _ sizeLine.blank
    intro b hb
    exact (Numeral.mem_bytes (by decide) hb).2.2.2.2
  unfold chunkSizeOf
  rw [hcut, htrim, sizeLine.size.countOf_bytes (by decide) (by rw [sizeLine.value_size]; exact hfits)]
  rw [sizeLine.value_size]

variable (eol) in
theorem line_sizeLine (sizeLine : SizeLine count) (rest : Bytes) (hfits : count < 2 ^ 64)
    : ∃ text, line (sizeLine.text ++ (eol.bytes ++ rest)) = some (text, rest) ∧
        chunkSizeOf text = some count := by
  have hlf : kLf ∉ sizeLine.text := by
    unfold SizeLine.text
    rw [List.mem_append, not_or]
    exact ⟨fun h => (SizeLine.mem_size h).2.1 rfl,
      not_mem_behind (by decide) sizeLine.extension_plain⟩
  have hlast : (sizeLine.size.bytes ++ sizeLine.blanks).getLast? ≠ some kCr := by
    intro h
    exact (SizeLine.mem_size (List.mem_of_getLast? h)).1 rfl
  obtain ⟨extension, hkept⟩ := LineEnd.kept_append_behind eol
    (show kSemicolon ≠ kCr by decide) hlast sizeLine.extension
  refine ⟨_, line_append eol rest hlf, ?_⟩
  rw [SizeLine.text, hkept]
  exact chunkSizeOf_behind sizeLine extension hfits

variable (eol) in
theorem readTrailers_write (response : HttpResponse) (trailers : List Bytes) (rest : Bytes)
    (peerClosed : Bool) (h : ∀ text ∈ trailers, kLf ∉ text)
    : readTrailers response (trailers.flatMap (· ++ eol.bytes) ++ (eol.bytes ++ rest)) peerClosed
      = complete response := by
  induction trailers with
  | nil =>
    rw [readTrailers, List.flatMap_nil, List.nil_append, line_eol]
    simp
  | cons text trailers ih =>
    rw [List.forall_mem_cons] at h
    rw [readTrailers, List.flatMap_cons, List.append_assoc, List.append_assoc, line_append eol _ h.1]
    -- a trailer of no text, or of a lone CR in front of a bare LF, ends the message early
    dsimp only
    split
    next => rfl
    next => exact ih h.2

theorem readChunks_write (response : HttpResponse) (chunks : List Chunk) (last : SizeLine 0)
    (rest : Bytes) (peerClosed : Bool) (hfits : ∀ chunk ∈ chunks, chunk.data.length < 2 ^ 64)
    : readChunks response (chunks.flatMap (·.bytes eol) ++ (last.text ++ (eol.bytes ++ rest))) peerClosed
      = readTrailers { response with body := response.body ++ chunks.flatMap (·.data) } rest
          peerClosed := by
  induction chunks generalizing response with
  | nil =>
    obtain ⟨text, hline, hsize⟩ := line_sizeLine eol last rest (by decide)
    rw [readChunks, List.flatMap_nil, List.nil_append, hline]
    simp [hsize]
  | cons chunk chunks ih =>
    rw [List.forall_mem_cons] at hfits
    have hpos : chunk.data.length ≠ 0 := by simpa using chunk.nonempty
    obtain ⟨text, hline, hsize⟩ := line_sizeLine eol chunk.sizeLine
      (chunk.data ++ (eol.bytes ++ (chunks.flatMap (·.bytes eol) ++ (last.text ++ (eol.bytes ++ rest)))))
      hfits.1
    rw [readChunks, List.flatMap_cons, Chunk.bytes]
    rw [List.append_assoc, List.append_assoc, List.append_assoc, List.append_assoc, hline]
    dsimp only
    rw [hsize]
    dsimp only
    rw [if_neg hpos]
    rw [Reader.take_length_append]
    dsimp only
    rw [line_eol]
    simp [ih _ hfits.2]

end Body

theorem parse_interim (heads : List Head) (rest : Bytes) (peerClosed : Bool)
    (h : ∀ head ∈ heads, head.status < 200)
    : parseHttpResponse (heads.flatMap (·.bytes eol) ++ rest) peerClosed
      = parseHttpResponse rest peerClosed := by
  induction heads with
  | nil => rfl
  | cons head heads ih =>
    rw [List.forall_mem_cons] at h
    rw [List.flatMap_cons, List.append_assoc, parseHttpResponse, readHead_write]
    simp [complete, h.1, ih h.2]

theorem parse_heads (place : Nat) (rest : Bytes) (peerClosed : Bool)
    : parseHttpResponse (m.heads eol field place ++ rest) peerClosed
      = readBody { m.response field place with body := [] } rest peerClosed := by
  have hfinal : ¬ (m.framedBy field place).status < 200 := Nat.not_lt.mpr m.isFinal
  rw [Message.heads, List.append_assoc, parse_interim _ _ _ m.isInterim, parseHttpResponse,
    readHead_write]
  simp [complete, hfinal]
  rfl

section Framing

variable (m field) in
theorem header_response {name : Bytes} (place : Nat) (body : Bytes)
    (hname : name = ascii "transfer-encoding" ∨ name = ascii "content-length")
    : HttpResponse.header { m.response field place with body } name
      = if lowered field.name = name then trimmed field.value else [] := by
  have hothers : ∀ fields ⊆ m.head.fields,
      (fields.map Field.header).find? (·.1 = name) = none := by
    intro fields hsub
    rw [List.find?_eq_none]
    intro header hmem
    obtain ⟨other, hother, rfl⟩ := List.mem_map.mp hmem
    have hunframed := m.unframed other (hsub hother)
    intro heq
    have heq : lowered other.name = name := of_decide_eq_true heq
    simp [Field.isFraming, heq, hname] at hunframed
  unfold HttpResponse.header
  dsimp only [Message.response, Message.framedBy]
  rw [List.map_append, List.find?_append, hothers _ (List.take_subset _ _), Option.none_or,
    List.map_cons, List.find?_cons, hothers _ (List.drop_subset _ _)]
  by_cases hfield : lowered field.name = name
  . simp [Field.header, hfield]
  . simp [Field.header, hfield]

theorem framingOf_coding (place : Nat) (body : Bytes) (h : field.SaysChunked)
    : framingOf { m.response field place with body } = .Chunked := by
  have hheader := header_response field m place body (.inl rfl)
  rw [if_pos h.1] at hheader
  unfold framingOf
  rw [hheader, if_neg (by simpa [Message.response] using m.hasBody),
    if_pos (List.isSuffixOf_iff_suffix.mpr h.2)]

theorem framingOf_length {length : Nat} (place : Nat) (body : Bytes) (h : field.SaysLength length)
    : framingOf { m.response field place with body } = .Length := by
  obtain ⟨hname, n, _, hvalue⟩ := h
  have hcoding := header_response field m place body (.inl rfl)
  have hlength := header_response field m place body (.inr rfl)
  rw [hname, if_neg (by decide)] at hcoding
  rw [if_pos hname, hvalue] at hlength
  unfold framingOf
  rw [hcoding, hlength, if_neg (by simpa [Message.response] using m.hasBody), if_neg (by decide),
    if_pos n.bytes_ne_nil]

end Framing

theorem parse_rendered (m : Message) (eol : LineEnd) (place : Nat) (peerClosed : Bool)
    (coding : Field) (hcoding : coding.SaysChunked) (last : SizeLine 0)
    (trailers : List Bytes) (htrailers : ∀ text ∈ trailers, kLf ∉ text)
    (length : Field) (hlength : length.SaysLength m.body.length)
    : parseHttpResponse (m.renderChunked eol coding place last trailers) peerClosed
        = complete (m.response coding place) ∧
      parseHttpResponse (m.renderLength eol length place) peerClosed
        = complete (m.response length place) := by
  constructor
  . have hfits : ∀ chunk ∈ m.chunks, chunk.data.length < 2 ^ 64 := by
      intro chunk hchunk
      have hsub : chunk.data.Sublist (m.chunks.flatMap (·.data)) := by
        rw [List.flatMap_def]
        exact List.sublist_flatten_of_mem (List.mem_map_of_mem hchunk)
      exact Nat.lt_of_le_of_lt hsub.length_le m.fits
    rw [Message.renderChunked, List.append_assoc, parse_heads, readBody,
      framingOf_coding place [] hcoding]
    dsimp only
    rw [List.append_assoc, List.append_assoc, readChunks_write _ _ _ _ _ hfits]
    have hread := readTrailers_write eol (m.response coding place) trailers [] peerClosed
      htrailers
    rw [List.append_nil] at hread
    exact hread
  . obtain ⟨hname, n, hvalue, hbytes⟩ := id hlength
    have hcount := n.countOf_bytes (by decide) (by rw [hvalue]; exact m.fits)
    have hheader := header_response length m place [] (.inr rfl)
    have htake := Reader.take_length_append m.body []
    rw [if_pos hname, hbytes] at hheader
    rw [List.append_nil] at htake
    rw [Message.renderLength, parse_heads, readBody, framingOf_length place [] hlength]
    dsimp only
    rw [readLength, hheader, hcount, hvalue]
    dsimp only
    rw [htake]
    rfl

section Hello

def helloField : Field where
  name := ascii "Server"
  value := ascii " dish\t"
  name_plain := by decide
  value_plain := by decide

def hello : Message where
  interim := [{
    minor := 0x31
    status := 100
    reason := none
    fields := []
    minor_plain := by decide
    threeDigits := by decide
    reason_plain := by decide }]
  head := {
    minor := 0x31
    status := 200
    reason := some (ascii "OK")
    fields := [helloField]
    minor_plain := by decide
    threeDigits := by decide
    reason_plain := by decide }
  chunks := [{
    data := ascii "hello, dish"
    nonempty := by decide
    sizeLine := {
      size := { digits := [(0, false), (11, true)], nonempty := by decide }
      blanks := [kSpace]
      extension := some (ascii "lang=en")
      value_size := by decide
      blank := List.forall_mem_singleton.mpr rfl
      extension_plain := by decide } }]
  isInterim := by decide
  isFinal := by decide
  hasBody := by decide
  unframed := by decide
  fits := by decide

def helloCoding : Field where
  name := ascii "Transfer-Encoding"
  value := ascii " gzip, Chunked"
  name_plain := by decide
  value_plain := by decide

def helloLength : Field where
  name := ascii "Content-length"
  value := ascii " 11 "
  name_plain := by decide
  value_plain := by decide

def helloLast : SizeLine 0 where
  size := { digits := [(0, false)], nonempty := by decide }
  blanks := []
  extension := none
  value_size := by decide
  blank := List.forall_mem_nil _
  extension_plain := by decide

theorem parse_rendered_hello
    : parseHttpResponse (hello.renderChunked .lf helloCoding 1 helloLast [ascii "Sum: 7"]) false
        = complete (hello.response helloCoding 1) ∧
      parseHttpResponse (hello.renderLength .lf helloLength 1) false
        = complete (hello.response helloLength 1) := by
  have hcoding : helloCoding.SaysChunked := by
    refine ⟨by decide, ?_⟩
    exact List.isSuffixOf_iff_suffix.mp (by decide)
  have hlength : helloLength.SaysLength hello.body.length := by
    refine ⟨by decide, { digits := [(1, false), (1, false)], nonempty := by decide }, by decide, ?_⟩
    decide
  exact parse_rendered hello .lf 1 false helloCoding hcoding helloLast [ascii "Sum: 7"] (by decide)
    helloLength hlength

end Hello

end Wire
