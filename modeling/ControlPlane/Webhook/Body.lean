/-
ControlPlane/Webhook/Body.lean

Reading the raw request body (`readRawBody`).  The request stream is the
sequence of events it emits: data chunks, its end, an error, and the expiry of
the read timer.  The reader folds over them and settles at most once; after that
its listeners are gone and no event changes it.

`readRawBody_resolves_iff` is the specification: the read resolves exactly when
the stream emits data chunks and then its end, the chunks together stay within
the cap, and then it resolves with their concatenation.
-/
import ControlPlane.Webhook.Config

namespace Webhook

/-- What the request stream, or the timer beside it, can do. -/
inductive StreamEvent where
  | data (chunk : List UInt8)
  | finish
  | error (message : String)
  | timerExpiry

/-- Why a read rejects. -/
inductive BodyError where
  | alreadyEnded
  | tooLarge (maxBytes : ℕ)
  | timedOut (timeoutMs : ℕ)
  | stream (message : String)

/-- How long a body may take to arrive. -/
def DEFAULT_TIMEOUT_MS : ℕ := 10000

/-- The text of each error. -/
def BodyError.message : BodyError → String
  | .alreadyEnded => "readRawBody called on an already-ended request stream"
  | .tooLarge maxBytes => "request body exceeds " ++ toString maxBytes ++ "-byte limit"
  | .timedOut timeoutMs => "readRawBody timed out after " ++ toString timeoutMs ++ "ms"
  | .stream message => message

/-- The state of a read in progress: the chunks so far, in order, their total
size, and the outcome once there is one. -/
structure Reader where
  chunks : List (List UInt8)
  total : ℕ
  settled : Option (Except BodyError (List UInt8))

/-- A reader that has seen nothing. -/
def Reader.start : Reader := { chunks := [], total := 0, settled := none }

/-- Settle a reader; the first outcome stays. -/
def Reader.settle (r : Reader) (outcome : Except BodyError (List UInt8)) : Reader :=
  { r with settled := some outcome }

/-- The `data` listener. -/
def Reader.onData (maxBytes : ℕ) (r : Reader) (chunk : List UInt8) : Reader :=
  let total := r.total + chunk.length
  if maxBytes < total then { r with total := total }.settle (.error (.tooLarge maxBytes))
  else { r with chunks := r.chunks ++ [chunk], total := total }

/-- One event, dispatched to its listener; a settled read has none left. -/
def Reader.onEvent (maxBytes : ℕ) (r : Reader) (event : StreamEvent) : Reader :=
  if r.settled.isSome then r
  else match event with
    | .data chunk => r.onData maxBytes chunk
    | .finish => r.settle (.ok r.chunks.flatten)
    | .error message => r.settle (.error (.stream message))
    | .timerExpiry => r.settle (.error (.timedOut DEFAULT_TIMEOUT_MS))

/-- The outcome of a read, `none` while it is still waiting. -/
def readRawBody (maxBytes : ℕ) (readableEnded : Bool) (events : List StreamEvent) :
    Option (Except BodyError (List UInt8)) :=
  if readableEnded then some (.error .alreadyEnded)
  else (events.foldl (Reader.onEvent maxBytes) Reader.start).settled

/-! ### Settling once -/

/-- No event after settlement changes the outcome. -/
theorem foldl_settled {maxBytes : ℕ} {r : Reader} (h : r.settled.isSome)
    (events : List StreamEvent) :
    events.foldl (Reader.onEvent maxBytes) r = r := by
  induction events with
  | nil => rfl
  | cons event rest ih =>
      have hr : r.onEvent maxBytes event = r := by simp [Reader.onEvent, h]
      rw [List.foldl_cons, hr, ih]

/-- An event that settles the read decides its outcome. -/
theorem foldl_cons_settled {maxBytes : ℕ} {r : Reader} {event : StreamEvent}
    {outcome : Except BodyError (List UInt8)}
    (h : (r.onEvent maxBytes event).settled = some outcome) (events : List StreamEvent) :
    ((event :: events).foldl (Reader.onEvent maxBytes) r).settled = some outcome := by
  rw [List.foldl_cons, foldl_settled (by simp [h]), h]

/-! ### The specification of a read -/

/-- A read that an event rejects gives no body, and no chunks and end begin with that event. -/
theorem foldl_rejects_iff {maxBytes : ℕ} {event : StreamEvent} {tail : List StreamEvent}
    {r : Reader} {e : BodyError} (hstep : (r.onEvent maxBytes event).settled = some (.error e))
    (hdata : ∀ chunk, event ≠ .data chunk) (hfinish : event ≠ .finish) (body : List UInt8) :
    ((event :: tail).foldl (Reader.onEvent maxBytes) r).settled = some (.ok body) ↔
      ∃ chunks rest, event :: tail = chunks.map .data ++ .finish :: rest ∧
        r.total + (chunks.map List.length).sum ≤ maxBytes ∧
        body = (r.chunks ++ chunks).flatten := by
  rw [foldl_cons_settled hstep]
  constructor
  · intro h
    cases h
  · rintro ⟨chunks, rest, he, -, -⟩
    cases chunks with
    | nil => exact absurd (List.cons.inj he).1 hfinish
    | cons chunk chunks => exact absurd (List.cons.inj he).1 (hdata chunk)

/-- From `r` on, the stream emits data chunks and then its end, everything
within the cap. -/
theorem foldl_resolves_iff {maxBytes : ℕ} {events : List StreamEvent} {r : Reader}
    (hr : r.settled = none) (hcap : r.total ≤ maxBytes) (body : List UInt8) :
    (events.foldl (Reader.onEvent maxBytes) r).settled = some (.ok body) ↔
      ∃ chunks rest, events = chunks.map .data ++ .finish :: rest ∧
        r.total + (chunks.map List.length).sum ≤ maxBytes ∧
        body = (r.chunks ++ chunks).flatten := by
  -- induction on the events; any event but a chunk settles the read at once
  induction events generalizing r with
  | nil => simp [hr]
  | cons event tail ih =>
      cases event with
      | data chunk =>
          by_cases hover : maxBytes < r.total + chunk.length
          · -- the chunk that crosses the cap settles the read as too large
            have hstep : (r.onEvent maxBytes (.data chunk)).settled =
                some (.error (.tooLarge maxBytes)) := by
              simp [Reader.onEvent, hr, Reader.onData, hover, Reader.settle]
            rw [foldl_cons_settled hstep]
            constructor
            · intro h
              cases h
            · rintro ⟨chunks, rest, he, hsum, -⟩
              cases chunks with
              | nil => simp at he
              | cons c cs =>
                  simp only [List.map_cons, List.cons_append, List.cons.injEq,
                    StreamEvent.data.injEq] at he
                  simp only [← he.1, List.map_cons, List.sum_cons] at hsum
                  omega
          -- a chunk within the cap is kept, and the rest of the events is read from there
          · have hstep : r.onEvent maxBytes (.data chunk) =
                { r with chunks := r.chunks ++ [chunk], total := r.total + chunk.length } := by
              simp [Reader.onEvent, hr, Reader.onData, hover]
            rw [List.foldl_cons, hstep, ih (by exact hr) (by simp only; omega)]
            constructor
            · rintro ⟨chunks, rest, rfl, hsum, rfl⟩
              refine ⟨chunk :: chunks, rest, rfl, ?_, ?_⟩
              · simp only [List.map_cons, List.sum_cons] at hsum ⊢
                omega
              · simp
            · rintro ⟨chunks, rest, he, hsum, rfl⟩
              cases chunks with
              | nil => simp at he
              | cons c cs =>
                  simp only [List.map_cons, List.cons_append, List.cons.injEq,
                    StreamEvent.data.injEq] at he
                  obtain ⟨rfl, rfl⟩ := he
                  refine ⟨cs, rest, rfl, ?_, ?_⟩
                  · simp only [List.map_cons, List.sum_cons] at hsum ⊢
                    omega
                  · simp
      | finish =>
          have hstep : (r.onEvent maxBytes .finish).settled = some (.ok r.chunks.flatten) := by
            simp [Reader.onEvent, hr, Reader.settle]
          rw [foldl_cons_settled hstep]
          constructor
          · intro h
            obtain rfl := Except.ok.inj (Option.some.inj h)
            exact ⟨[], tail, rfl, by simpa using hcap, by simp⟩
          · rintro ⟨chunks, rest, he, -, rfl⟩
            cases chunks with
            | nil => simp
            | cons c cs => simp at he
      | error message =>
          have hstep : (r.onEvent maxBytes (.error message)).settled =
              some (.error (.stream message)) := by
            simp [Reader.onEvent, hr, Reader.settle]
          exact foldl_rejects_iff hstep (by simp) (by simp) body
      | timerExpiry =>
          have hstep : (r.onEvent maxBytes .timerExpiry).settled =
              some (.error (.timedOut DEFAULT_TIMEOUT_MS)) := by
            simp [Reader.onEvent, hr, Reader.settle]
          exact foldl_rejects_iff hstep (by simp) (by simp) body

/-- The body was read completely within the cap: the stream had not ended
before, it emits the chunks of the body and then its end, and the chunks stay
within the cap. -/
def CompleteBody (maxBytes : ℕ) (readableEnded : Bool) (events : List StreamEvent)
    (body : List UInt8) : Prop :=
  readableEnded = false ∧
    ∃ (chunks : List (List UInt8)) (rest : List StreamEvent),
      events = chunks.map .data ++ .finish :: rest ∧
      (chunks.map List.length).sum ≤ maxBytes ∧ body = chunks.flatten

/-- **A read resolves exactly with a complete body within the cap.** -/
theorem readRawBody_resolves_iff {maxBytes : ℕ} {readableEnded : Bool}
    {events : List StreamEvent} {body : List UInt8} :
    readRawBody maxBytes readableEnded events = some (.ok body) ↔
      CompleteBody maxBytes readableEnded events body := by
  unfold readRawBody CompleteBody
  cases readableEnded with
  | true => simp
  | false =>
      simpa [Reader.start] using
        foldl_resolves_iff (r := Reader.start) rfl (Nat.zero_le maxBytes) body

end Webhook
