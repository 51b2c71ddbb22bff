import Dish.Wire.Lemmas.Stable

/-!
This module contains one exchange over a socket, however the socket splits the bytes.
-/

open Wire

namespace Http

structure HttpResult where
  response : HttpResponse := {}
  error : String := ""
  deriving DecidableEq

structure Exchange where
  timeoutMs : Nat
  received : Bytes := []
  result : Option HttpResult := none
  deriving DecidableEq

inductive Event where
  | encrypted (trusted : Bool)
  | readyRead (bytes : Bytes)
  | disconnected (bytes : Bytes)
  | error (remoteHostClosed : Bool) (errorString : String)
  | deadline
  deriving DecidableEq

namespace Exchange

variable {ex ex' : Exchange}

def finish (ex : Exchange) (result : HttpResult) : Exchange :=
  { ex with result := some result }

def fail (ex : Exchange) (error : String) : Exchange :=
  ex.finish { error }

def readResponse (ex : Exchange) (peerClosed : Bool) : Exchange :=
  let parse := parseHttpResponse ex.received peerClosed
  match parse.state with
  | .Incomplete => ex
  | .Malformed => ex.fail "the answer was not a whole HTTP response"
  | .Complete => ex.finish { response := parse.response }

def onEncrypted (ex : Exchange) (trusted : Bool) : Exchange :=
  if trusted then ex else ex.fail "the peer certificate was refused"

def onReadyRead (ex : Exchange) (bytes : Bytes) : Exchange :=
  readResponse { ex with received := ex.received ++ bytes } false

def onDisconnected (ex : Exchange) (bytes : Bytes) : Exchange :=
  readResponse { ex with received := ex.received ++ bytes } true

def onError (ex : Exchange) (remoteHostClosed : Bool) (errorString : String) : Exchange :=
  if remoteHostClosed then ex else ex.fail errorString

def onDeadline (ex : Exchange) : Exchange :=
  if ex.timeoutMs = 0 then ex else ex.fail ("no answer within " ++ toString ex.timeoutMs ++ " ms")

def step (ex : Exchange) (event : Event) : Exchange :=
  if ex.result.isSome then
    ex
  else
    match event with
    | .encrypted trusted => ex.onEncrypted trusted
    | .readyRead bytes => ex.onReadyRead bytes
    | .disconnected bytes => ex.onDisconnected bytes
    | .error remoteHostClosed errorString => ex.onError remoteHostClosed errorString
    | .deadline => ex.onDeadline

def run (ex : Exchange) (events : List Event) : Exchange :=
  events.foldl step ex

structure Same (ex ex' : Exchange) : Prop where
  timeoutMs : ex.timeoutMs = ex'.timeoutMs
  result : ex.result = ex'.result
  received : ex.result = none → ex.received = ex'.received

theorem Same.eq (h : Same ex ex') (hopen : ex.result = none) : ex = ex' := by
  cases ex
  cases ex'
  simp only [mk.injEq]
  exact ⟨h.timeoutMs, h.received hopen, h.result⟩

theorem run_of_settled (h : ex.result.isSome) (events : List Event)
    : ex.run events = ex := by
  have hstep (event : Event) : ex.step event = ex := by
    unfold step
    rw [if_pos h]
  unfold run
  induction events with
  | nil => rfl
  | cons event events ih => rw [List.foldl_cons, hstep, ih]

theorem Same.run (h : Same ex ex') (events : List Event)
    : Same (ex.run events) (ex'.run events) := by
  cases hresult : ex.result with
  | none =>
    rw [h.eq hresult]
    exact ⟨rfl, rfl, fun _ => rfl⟩
  | some result =>
    rw [run_of_settled (by simp [hresult]), run_of_settled (by simp [← h.result, hresult])]
    exact h

theorem run_append (ex : Exchange) (events events' : List Event)
    : ex.run (events ++ events') = (ex.run events).run events' := by
  exact List.foldl_append

theorem received_readResponse (ex : Exchange) (peerClosed : Bool)
    : (ex.readResponse peerClosed).received = ex.received ∧
      (ex.readResponse peerClosed).timeoutMs = ex.timeoutMs := by
  unfold readResponse
  dsimp only
  split <;> exact ⟨rfl, rfl⟩

def Waiting (ex : Exchange) : Prop :=
  ex.result = none ∧ (parseHttpResponse ex.received false).state = .Incomplete

theorem readResponse_of_incomplete {peerClosed : Bool}
    (h : (parseHttpResponse ex.received peerClosed).state = .Incomplete)
    : ex.readResponse peerClosed = ex := by
  unfold readResponse
  simp [h]

theorem result_readResponse_of_ne {peerClosed : Bool}
    (h : (parseHttpResponse ex.received peerClosed).state ≠ .Incomplete)
    : (ex.readResponse peerClosed).result.isSome := by
  unfold readResponse
  dsimp only
  split
  . contradiction
  . rfl
  . rfl

theorem result_readResponse_congr
    (hparse : parseHttpResponse ex.received false = parseHttpResponse ex'.received false)
    (hresult : ex.result = ex'.result)
    : (ex.readResponse false).result = (ex'.readResponse false).result := by
  unfold readResponse
  rw [hparse]
  dsimp only
  split
  . exact hresult
  . rfl
  . rfl

theorem same_reads (h : ex.Waiting) (chunks : List Bytes)
    : Same (ex.run (chunks.map .readyRead)) (ex.onReadyRead chunks.flatten) := by
  induction chunks generalizing ex with
  | nil =>
    have hnothing : ex.onReadyRead ([] : List Bytes).flatten = ex := by
      unfold onReadyRead
      simp only [List.flatten_nil, List.append_nil]
      exact readResponse_of_incomplete h.2
    rw [hnothing]
    exact ⟨rfl, rfl, fun _ => rfl⟩
  | cons bytes chunks ih =>
    have hstep : ex.run ((bytes :: chunks).map .readyRead)
        = (ex.onReadyRead bytes).run (chunks.map .readyRead) := by
      simp only [List.map_cons, run, List.foldl_cons, step, h.1, Option.isSome_none,
        Bool.false_eq_true, if_false]
    rw [hstep, List.flatten_cons]
    by_cases hstate : (parseHttpResponse (ex.received ++ bytes) false).state = .Incomplete
    . -- The exchange goes on, as if it had started with these bytes.
      have hread : ex.onReadyRead bytes = { ex with received := ex.received ++ bytes } :=
        readResponse_of_incomplete hstate
      have hrest : ({ ex with received := ex.received ++ bytes } : Exchange).onReadyRead
          chunks.flatten = ex.onReadyRead (bytes ++ chunks.flatten) := by
        unfold onReadyRead
        simp only [List.append_assoc]
      rw [hread, ← hrest]
      exact ih ⟨h.1, hstate⟩
    . -- The outcome is settled, and the rest of the bytes would not have changed it.
      have hsettled : (ex.onReadyRead bytes).result.isSome := result_readResponse_of_ne hstate
      have hparse := parseHttpResponse_append chunks.flatten false hstate
      have hsame : (ex.onReadyRead bytes).result
          = (ex.onReadyRead (bytes ++ chunks.flatten)).result := by
        apply result_readResponse_congr
        . simpa using hparse.symm
        . rfl
      rw [run_of_settled hsettled]
      refine ⟨?_, hsame, ?_⟩
      . unfold onReadyRead
        rw [(received_readResponse _ _).2, (received_readResponse _ _).2]
      . intro hopen
        simp [hopen] at hsettled

theorem outcome_of_bytes
    : (∀ received more peerClosed, (parseHttpResponse received false).state ≠ .Incomplete →
        parseHttpResponse (received ++ more) peerClosed = parseHttpResponse received false) ∧
      (∀ received, (parseHttpResponse received true).state ≠ .Incomplete) ∧
      ∀ (timeoutMs : Nat) (chunks chunks' : List Bytes) (events : List Event),
        chunks.flatten = chunks'.flatten →
        (run { timeoutMs } (chunks.map .readyRead ++ events)).result
          = (run { timeoutMs } (chunks'.map .readyRead ++ events)).result := by
  refine ⟨fun _ => parseHttpResponse_append, state_parseHttpResponse_closed, ?_⟩
  intro timeoutMs chunks chunks' events hbytes
  have hnothing : (parseHttpResponse [] false).state = .Incomplete := by decide +kernel
  have hwaiting : Waiting { timeoutMs } := ⟨rfl, hnothing⟩
  have hsame := (same_reads hwaiting chunks).run events
  have hsame' := (same_reads hwaiting chunks').run events
  rw [run_append, run_append, hsame.result, hsame'.result, hbytes]

theorem outcome_of_bytes_two_pieces
    : parseHttpResponse (ascii "HTTP/1.1 200 OK\r\nContent-Length: 2\r\n\r\nok" ++ ascii "late") true
        = parseHttpResponse (ascii "HTTP/1.1 200 OK\r\nContent-Length: 2\r\n\r\nok") false ∧
      (run { timeoutMs := 0 } ([ascii "HTTP/1.1 204 No Content\r\n", ascii "\r\n"].map .readyRead)).result
        = (run { timeoutMs := 0 } ([ascii "HTTP/1.1 204 No Content\r\n\r\n"].map .readyRead)).result ∧
      (parseHttpResponse (ascii "HTTP/1.1 200 OK\r\n") true).state ≠ .Incomplete := by
  refine ⟨?_, ?_, outcome_of_bytes.2.1 _⟩
  . exact outcome_of_bytes.1 _ (ascii "late") true (by decide +kernel)
  . have hsplit := outcome_of_bytes.2.2 0 [ascii "HTTP/1.1 204 No Content\r\n", ascii "\r\n"]
      [ascii "HTTP/1.1 204 No Content\r\n\r\n"] [] (by decide)
    rwa [List.append_nil, List.append_nil] at hsplit

end Exchange

end Http
