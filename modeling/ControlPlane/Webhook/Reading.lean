/-
ControlPlane/Webhook/Reading.lean

How a read of the request body settles, event by event.

The events come as a list or without end (`EventSequence`), in any order and also after
the read has settled.  `outcomeAfter n` is the outcome after the first `n` of them, and
the read settles at event `n` when it is the first with an outcome (`SettlesAt`).

`readRawBody_settles` says at which event that is and with what: every event before it
is a chunk, the chunks stay within the cap, and the event decides the outcome
(`verdict`).  An outcome never changes afterwards (`outcomeAfter_mono`).
-/
import ControlPlane.Webhook.Body

namespace Webhook

/-! ### Sequences of events -/

/-- Finitely many events, or infinitely many. -/
inductive EventSequence where
  | finite (events : List StreamEvent)
  | infinite (events : ℕ → StreamEvent)

namespace EventSequence

/-- The event at a position, if there is one. -/
def get : EventSequence → ℕ → Option StreamEvent
  | finite events, n => events[n]?
  | infinite events, n => some (events n)

/-- The first `n` events, or all when there are fewer. -/
def take : EventSequence → ℕ → List StreamEvent
  | finite events, n => events.take n
  | infinite events, n => (List.range n).map events

@[simp] theorem take_zero (s : EventSequence) : s.take 0 = [] := by
  cases s <;> rfl

theorem take_succ (s : EventSequence) (n : ℕ) :
    s.take (n + 1) = s.take n ++ (s.get n).toList := by
  cases s with
  | finite events => exact List.take_add_one
  | infinite events =>
      show (List.range (n + 1)).map events = (List.range n).map events ++ [events n]
      rw [List.range_succ, List.map_append]
      rfl

/-- The first events are among the first of any more. -/
theorem take_prefix (s : EventSequence) {m n : ℕ} (h : m ≤ n) :
    ∃ rest, s.take n = s.take m ++ rest := by
  induction h with
  | refl => exact ⟨[], (List.append_nil _).symm⟩
  | step _ ih =>
      obtain ⟨rest, hrest⟩ := ih
      exact ⟨rest ++ _, by rw [take_succ, hrest, List.append_assoc]⟩

end EventSequence

/-! ### Waiting -/

section Waiting

variable {maxBytes : ℕ} {r : Reader} {chunks : List (List UInt8)} {events : List StreamEvent}

/-- Chunks within the cap are kept, in order. -/
theorem foldl_chunks (hr : r.settled = none)
    (hcap : r.total + (chunks.map List.length).sum ≤ maxBytes) :
    (chunks.map StreamEvent.data).foldl (Reader.onEvent maxBytes) r =
      { r with
        chunks := r.chunks ++ chunks
        total := r.total + (chunks.map List.length).sum } := by
  induction chunks generalizing r with
  | nil => simp
  | cons chunk rest ih =>
      simp only [List.map_cons, List.sum_cons] at hcap
      have hwithin : ¬maxBytes < r.total + chunk.length := by omega
      have hstep : r.onEvent maxBytes (.data chunk) =
          { r with chunks := r.chunks ++ [chunk], total := r.total + chunk.length } := by
        simp [Reader.onEvent, hr, Reader.onData, hwithin]
      rw [List.map_cons, List.foldl_cons, hstep, ih (by exact hr) (by simp only; omega)]
      simp [List.append_assoc, Nat.add_assoc]

/-- A read that waits has got chunks only, within the cap. -/
theorem chunks_of_waiting (hcap : r.total ≤ maxBytes)
    (h : (events.foldl (Reader.onEvent maxBytes) r).settled = none) :
    ∃ chunks : List (List UInt8), events = chunks.map .data ∧
      r.total + (chunks.map List.length).sum ≤ maxBytes := by
  -- a read that has settled, or settles at the first event, does not wait afterwards
  have hwaits : ∀ r : Reader, ∀ events : List StreamEvent,
      (events.foldl (Reader.onEvent maxBytes) r).settled = none → r.settled = none := by
    intro r events hend
    by_contra hne
    have hsome : r.settled.isSome := Option.ne_none_iff_isSome.mp hne
    rw [foldl_settled hsome] at hend
    exact hne hend
  induction events generalizing r with
  | nil => exact ⟨[], rfl, hcap⟩
  | cons event rest ih =>
      rw [List.foldl_cons] at h
      have hr : r.settled = none := hwaits r (event :: rest) h
      have hnext : (r.onEvent maxBytes event).settled = none := hwaits _ rest h
      cases event with
      | data chunk =>
          by_cases hover : maxBytes < r.total + chunk.length
          · simp [Reader.onEvent, hr, Reader.onData, hover, Reader.settle] at hnext
          · have hstep : r.onEvent maxBytes (.data chunk) =
                { r with chunks := r.chunks ++ [chunk], total := r.total + chunk.length } := by
              simp [Reader.onEvent, hr, Reader.onData, hover]
            rw [hstep] at h
            obtain ⟨chunks, rfl, hsum⟩ := ih (by simp only; omega) h
            refine ⟨chunk :: chunks, rfl, ?_⟩
            simp only [List.map_cons, List.sum_cons] at hsum ⊢
            omega
      | finish => simp [Reader.onEvent, hr, Reader.settle] at hnext
      | error message => simp [Reader.onEvent, hr, Reader.settle] at hnext
      | timerExpiry => simp [Reader.onEvent, hr, Reader.settle] at hnext

end Waiting

/-! ### Settling -/

/-- The outcome after the first `n` events. -/
def outcomeAfter (maxBytes : ℕ) (readableEnded : Bool) (s : EventSequence) (n : ℕ) :
    Option (Except BodyError (List UInt8)) :=
  readRawBody maxBytes readableEnded (s.take n)

/-- The read waits for event `n`, and has an outcome after it. -/
def SettlesAt (maxBytes : ℕ) (readableEnded : Bool) (s : EventSequence) (n : ℕ)
    (outcome : Except BodyError (List UInt8)) : Prop :=
  outcomeAfter maxBytes readableEnded s n = none ∧
    outcomeAfter maxBytes readableEnded s (n + 1) = some outcome

/-- What an event decides after `chunks`; a chunk within the cap decides nothing. -/
def verdict (maxBytes : ℕ) (chunks : List (List UInt8)) :
    StreamEvent → Option (Except BodyError (List UInt8))
  | .data chunk =>
    if maxBytes < (chunks.map List.length).sum + chunk.length then
      some (.error (.tooLarge maxBytes))
    else none
  | .finish => some (.ok chunks.flatten)
  | .error message => some (.error (.stream message))
  | .timerExpiry => some (.error (.timedOut DEFAULT_TIMEOUT_MS))

/-- The first `n` events are these chunks, and they stay within the cap. -/
def Received (maxBytes : ℕ) (s : EventSequence) (n : ℕ) (chunks : List (List UInt8)) : Prop :=
  s.take n = chunks.map .data ∧ (chunks.map List.length).sum ≤ maxBytes

section Settling

variable {maxBytes m n : ℕ} {readableEnded : Bool} {s : EventSequence}
  {outcome : Except BodyError (List UInt8)}

/-- An outcome does not change. -/
theorem outcomeAfter_mono (h : outcomeAfter maxBytes readableEnded s m = some outcome)
    (hmn : m ≤ n) : outcomeAfter maxBytes readableEnded s n = some outcome := by
  obtain ⟨rest, hrest⟩ := s.take_prefix hmn
  unfold outcomeAfter readRawBody at h ⊢
  cases readableEnded with
  | true => exact h
  | false =>
      have hsome : ((s.take m).foldl (Reader.onEvent maxBytes) Reader.start).settled.isSome := by
        simp only [Bool.false_eq_true, if_false] at h
        rw [h]
        rfl
      simp only [Bool.false_eq_true, if_false] at h ⊢
      rw [hrest, List.foldl_append, foldl_settled hsome]
      exact h

/-- The read waits exactly when it has received chunks within the cap. -/
theorem outcomeAfter_eq_none_iff :
    outcomeAfter maxBytes readableEnded s n = none ↔
      readableEnded = false ∧ ∃ chunks, Received maxBytes s n chunks := by
  unfold outcomeAfter readRawBody
  cases readableEnded with
  | true => simp
  | false =>
      simp only [Bool.false_eq_true, if_false, true_and]
      constructor
      · intro h
        obtain ⟨chunks, htake, hsum⟩ := chunks_of_waiting (Nat.zero_le maxBytes) h
        exact ⟨chunks, htake, by simpa [Reader.start] using hsum⟩
      · rintro ⟨chunks, htake, hsum⟩
        rw [htake, foldl_chunks rfl (by simpa [Reader.start] using hsum)]
        rfl

/-- From chunks within the cap, the next event decides. -/
theorem outcomeAfter_succ {chunks : List (List UInt8)} (h : Received maxBytes s n chunks)
    {event : StreamEvent} (hget : s.get n = some event) :
    outcomeAfter maxBytes false s (n + 1) = verdict maxBytes chunks event := by
  unfold outcomeAfter readRawBody
  have hstart : (chunks.map StreamEvent.data).foldl (Reader.onEvent maxBytes) Reader.start =
      { chunks := chunks, total := (chunks.map List.length).sum, settled := none } := by
    rw [foldl_chunks rfl (by simpa [Reader.start] using h.2)]
    simp [Reader.start]
  simp only [Bool.false_eq_true, if_false]
  rw [s.take_succ, h.1, hget, List.foldl_append, hstart]
  cases event with
  | data chunk =>
      by_cases hover : maxBytes < (chunks.map List.length).sum + chunk.length <;>
        simp [Reader.onEvent, Reader.onData, Reader.settle, verdict, hover]
  | finish => rfl
  | error message => rfl
  | timerExpiry => rfl

/-- **The event a read settles at** is the first that is not a chunk within the cap. -/
theorem settlesAt_iff :
    SettlesAt maxBytes readableEnded s n outcome ↔ readableEnded = false ∧
      ∃ chunks event, Received maxBytes s n chunks ∧ s.get n = some event ∧
        verdict maxBytes chunks event = some outcome := by
  unfold SettlesAt
  rw [outcomeAfter_eq_none_iff]
  constructor
  · rintro ⟨⟨rfl, chunks, hreceived⟩, hnext⟩
    refine ⟨rfl, chunks, ?_⟩
    cases hget : s.get n with
    | none =>
        -- without another event there is no other outcome
        have hsame : outcomeAfter maxBytes false s (n + 1) = none := by
          have hwaits : outcomeAfter maxBytes false s n = none :=
            outcomeAfter_eq_none_iff.mpr ⟨rfl, chunks, hreceived⟩
          unfold outcomeAfter at hwaits ⊢
          rw [s.take_succ, hget]
          simpa using hwaits
        rw [hsame] at hnext
        cases hnext
    | some event =>
        rw [outcomeAfter_succ hreceived hget] at hnext
        exact ⟨event, hreceived, rfl, hnext⟩
  · rintro ⟨rfl, chunks, event, hreceived, hget, hverdict⟩
    exact ⟨⟨rfl, chunks, hreceived⟩, (outcomeAfter_succ hreceived hget).trans hverdict⟩

/-- An outcome is that of the event the read settled at, or of a stream that had ended
before. -/
theorem outcomeAfter_eq_some_iff :
    outcomeAfter maxBytes readableEnded s n = some outcome ↔
      (readableEnded = true ∧ outcome = .error .alreadyEnded) ∨
        ∃ m < n, SettlesAt maxBytes readableEnded s m outcome := by
  cases readableEnded with
  | true =>
      have hnever : ∀ m, ¬SettlesAt maxBytes true s m outcome := by
        intro m hsettles
        cases (settlesAt_iff.mp hsettles).1
      have hfirst : outcomeAfter maxBytes true s n = some (.error .alreadyEnded) := rfl
      rw [hfirst]
      constructor
      · intro h
        cases h
        exact .inl ⟨rfl, rfl⟩
      · rintro (⟨-, rfl⟩ | ⟨m, -, hsettles⟩)
        · rfl
        · exact absurd hsettles (hnever m)
  | false =>
      constructor
      · intro h
        right
        -- the first number of events with an outcome
        induction n with
        | zero =>
            have hstart : outcomeAfter maxBytes false s 0 = none :=
              outcomeAfter_eq_none_iff.mpr ⟨rfl, [], by simp, Nat.zero_le _⟩
            rw [hstart] at h
            cases h
        | succ n ih =>
            cases hn : outcomeAfter maxBytes false s n with
            | none => exact ⟨n, Nat.lt_succ_self n, hn, h⟩
            | some outcome' =>
                have hsame := outcomeAfter_mono hn (Nat.le_succ n)
                rw [h] at hsame
                cases hsame
                obtain ⟨m, hm, hsettles⟩ := ih hn
                exact ⟨m, Nat.lt_succ_of_lt hm, hsettles⟩
      · rintro (⟨hfalse, -⟩ | ⟨m, hm, -, hsettles⟩)
        · cases hfalse
        · exact outcomeAfter_mono hsettles hm

theorem verdict_eq_ok_iff {chunks : List (List UInt8)} {event : StreamEvent} {body : List UInt8} :
    verdict maxBytes chunks event = some (.ok body) ↔
      event = .finish ∧ body = chunks.flatten := by
  cases event with
  | data chunk =>
      show (if _ then _ else _) = _ ↔ _
      split_ifs <;> simp
  | finish => simp [verdict, eq_comm]
  | error message => simp [verdict]
  | timerExpiry => simp [verdict]

theorem verdict_eq_tooLarge_iff {chunks : List (List UInt8)} {event : StreamEvent} :
    verdict maxBytes chunks event = some (.error (.tooLarge maxBytes)) ↔
      ∃ chunk, event = .data chunk ∧ maxBytes < (chunks.map List.length).sum + chunk.length := by
  cases event with
  | data chunk =>
      show (if _ then _ else _) = _ ↔ _
      split_ifs with hover <;> simp [hover]
  | finish => simp [verdict]
  | error message => simp [verdict]
  | timerExpiry => simp [verdict]

theorem verdict_eq_stream_iff {chunks : List (List UInt8)} {event : StreamEvent}
    {message : String} :
    verdict maxBytes chunks event = some (.error (.stream message)) ↔ event = .error message := by
  cases event with
  | data chunk =>
      show (if _ then _ else _) = _ ↔ _
      split_ifs <;> simp
  | finish => simp [verdict]
  | error text => simp [verdict]
  | timerExpiry => simp [verdict]

theorem verdict_eq_timedOut_iff {chunks : List (List UInt8)} {event : StreamEvent} :
    verdict maxBytes chunks event = some (.error (.timedOut DEFAULT_TIMEOUT_MS)) ↔
      event = .timerExpiry := by
  cases event with
  | data chunk =>
      show (if _ then _ else _) = _ ↔ _
      split_ifs <;> simp
  | finish => simp [verdict]
  | error message => simp [verdict]
  | timerExpiry => simp [verdict]

end Settling

/-- **A read never yields a partial or oversize body.**  Once there is an outcome no
event changes it.  The read resolves exactly when the stream ends after chunks within
the cap, with these chunks in order; it rejects at the first chunk that exceeds the cap,
or else at the first error or expiry of the timer.  A stream that had ended before
rejects at once. -/
theorem readRawBody_settles (maxBytes : ℕ) (readableEnded : Bool) (s : EventSequence) :
    (∀ m n outcome, m ≤ n → outcomeAfter maxBytes readableEnded s m = some outcome →
      outcomeAfter maxBytes readableEnded s n = some outcome) ∧
    (∀ n outcome, outcomeAfter maxBytes readableEnded s n = some outcome ↔
      (readableEnded = true ∧ outcome = .error .alreadyEnded) ∨
        ∃ m < n, SettlesAt maxBytes readableEnded s m outcome) ∧
    (∀ n body, SettlesAt maxBytes readableEnded s n (.ok body) ↔ readableEnded = false ∧
      ∃ chunks, Received maxBytes s n chunks ∧ s.get n = some .finish ∧
        body = chunks.flatten) ∧
    (∀ n, SettlesAt maxBytes readableEnded s n (.error (.tooLarge maxBytes)) ↔
      readableEnded = false ∧ ∃ chunks chunk, Received maxBytes s n chunks ∧
        s.get n = some (.data chunk) ∧
        maxBytes < (chunks.map List.length).sum + chunk.length) ∧
    (∀ n message, SettlesAt maxBytes readableEnded s n (.error (.stream message)) ↔
      readableEnded = false ∧ ∃ chunks, Received maxBytes s n chunks ∧
        s.get n = some (.error message)) ∧
    (∀ n, SettlesAt maxBytes readableEnded s n (.error (.timedOut DEFAULT_TIMEOUT_MS)) ↔
      readableEnded = false ∧ ∃ chunks, Received maxBytes s n chunks ∧
        s.get n = some .timerExpiry) ∧
    (readableEnded = true →
      outcomeAfter maxBytes readableEnded s 0 = some (.error .alreadyEnded)) := by
  refine ⟨fun m n outcome hmn h => outcomeAfter_mono h hmn,
    fun n outcome => outcomeAfter_eq_some_iff, ?_, ?_, ?_, ?_, ?_⟩
  · intro n body
    simp only [settlesAt_iff, verdict_eq_ok_iff]
    grind
  · intro n
    simp only [settlesAt_iff, verdict_eq_tooLarge_iff]
    grind
  · intro n message
    simp only [settlesAt_iff, verdict_eq_stream_iff]
    grind
  · intro n
    simp only [settlesAt_iff, verdict_eq_timedOut_iff]
    grind
  · rintro rfl
    rfl

end Webhook
