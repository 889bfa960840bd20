/-
ControlPlane/Interaction/EventLoop.lean

Asynchronous functions on an event loop.

An `Async` function works on a state it shares with every other one and is cut
where it gives up control: at `await`, until an event answers, and at `later`,
until the jobs queued before it are done.  Between two cuts it runs without
interruption, so a *turn* is a function of the shared state.

The loop is a transition system.  Jobs run in the order they were queued.  A new
function may be called at any time, by a job of its own; but events wait for the
queue to be empty: then one may be signalled to everything that awaits it, or a
single wait may be answered.

What a function does can be written down from outside it (`Async.called`): the
records are a part of the state that the function itself does not work on.

`Outline` is the proof rule.  It asks for an assertion about the shared state
and one about each kind of suspended function, and for what a turn of each kind
keeps.  The point of it is the order of the queue: what one signal wakes runs
before anything that is queued by what it woke, so a woken function only has to
tolerate the turns of other woken ones.
-/
import ControlPlane.Interaction.Lts

namespace Interaction

/-! ### Asynchronous functions -/

/-- An asynchronous function over the shared state `σ`, with waits `W` and errors
`E`.  `access f k` replaces the state by `f` of it and goes on with the state as
it was. -/
inductive Async (σ W E A : Type) where
  | ret (a : A)
  | fail (e : E)
  | access (f : σ → σ) (k : σ → Async σ W E A)
  | await (w : W) (k : Bool → Async σ W E A)
  | later (t : Async σ W E A)

namespace Async

variable {σ W E A B : Type}

/-- One piece of code after another. -/
def bind : Async σ W E A → (A → Async σ W E B) → Async σ W E B
  | ret a, k => k a
  | fail e, _ => fail e
  | access f c, k => access f fun s => (c s).bind k
  | await w c, k => await w fun b => (c b).bind k
  | later t, k => later (t.bind k)

/-- Code with a handler for what it throws. -/
def tryCatch : Async σ W E A → (E → Async σ W E A) → Async σ W E A
  | ret a, _ => ret a
  | fail e, h => h e
  | access f c, h => access f fun s => (c s).tryCatch h
  | await w c, h => await w fun b => (c b).tryCatch h
  | later t, h => later (t.tryCatch h)

instance : Monad (Async σ W E) where
  pure := ret
  bind := bind

instance : MonadExceptOf E (Async σ W E) where
  throw := fail
  tryCatch := tryCatch

/-- Something the shared state determines. -/
def get (g : σ → A) : Async σ W E A := access id fun s => ret (g s)

/-- Change the shared state. -/
def modify (f : σ → σ) : Async σ W E Unit := access f fun _ => ret ()

/-- A result, or an exception, at once. -/
def ofExcept : Except E A → Async σ W E A
  | .ok a => ret a
  | .error e => fail e

/-- Awaiting an asynchronous callee: its first turn runs at once, and the caller
goes on in a later job than the one that ends it. -/
def awaited : Async σ W E A → Async σ W E A
  | ret a => later (ret a)
  | fail e => later (fail e)
  | access f c => access f fun s => (c s).awaited
  | await w c => await w fun b => (c b).awaited
  | later t => later t.awaited

@[simp] theorem bind_ret (t : Async σ W E A) : t.bind ret = t := by
  induction t with
  | ret a => rfl
  | fail e => rfl
  | access f c ih =>
      show access f (fun s => (c s).bind ret) = access f c
      exact congrArg (access f) (funext ih)
  | await w c ih =>
      show await w (fun b => (c b).bind ret) = await w c
      exact congrArg (await w) (funext ih)
  | later t ih =>
      show later (t.bind ret) = later t
      rw [ih]

/-! ### Recorded calls -/

/-- What a function that is watched has done: an access, with the state before and
after it, or how it ended, with the state when it was called and at its end. -/
inductive Record (τ : Type) where
  | accessed (before after : τ)
  | returned (called now : τ)
  | threw (called now : τ)

/-- Where a watched function is written down: it works on one part of the state,
and another part holds the records. -/
structure Watch (σ τ : Type) where
  part : σ → τ
  put : σ → τ → σ
  note : σ → Record τ → σ

/-- The function `t`, called when its part of the state was `called`, with all it
does written down.  `t` itself works on its part only and sees no record. -/
def watched {τ : Type} (w : Watch σ τ) (called : τ) : Async τ W E A → Async σ W E A
  | ret a => access (fun s => w.note s (.returned called (w.part s))) fun _ => ret a
  | fail e => access (fun s => w.note s (.threw called (w.part s))) fun _ => fail e
  | access f k =>
      access (fun s => w.put (w.note s (.accessed (w.part s) (f (w.part s)))) (f (w.part s)))
        fun s => (k (w.part s)).watched w called
  | await wait k => await wait fun b => (k b).watched w called
  | later t => later (t.watched w called)

/-- A watched call of `t`. -/
def called {τ : Type} (w : Watch σ τ) (t : Async τ W E A) : Async σ W E A :=
  access id fun s => t.watched w (w.part s)

/-! ### Turns -/

/-- What is left of a function after a turn of it. -/
inductive Rest (σ W E : Type) where
  | ended
  | parked (w : W) (k : Bool → Async σ W E Unit)
  | deferred (t : Async σ W E Unit)

/-- Running a function until it ends or gives up control. -/
def turn : Async σ W E Unit → σ → σ × Rest σ W E
  | ret _, s => (s, .ended)
  | fail _, s => (s, .ended)
  | access f k, s => (k s).turn (f s)
  | await w k, s => (s, .parked w k)
  | later t, s => (s, .deferred t)

end Async

/-! ### The loop -/

/-- The shared state, the functions that wait for an event and the queued jobs. -/
structure Loop (σ W E : Type) where
  shared : σ
  parked : List (W × (Bool → Async σ W E Unit))
  jobs : List (Async σ W E Unit)

/-- An event: what it does to the shared state, and its answer to the waits it
ends. -/
structure Signal (σ W : Type) where
  effect : σ → σ
  answer : W → Option Bool

/-- What the loop does next. -/
inductive Tick (σ W E : Type) where
  | job
  | call (t : Async σ W E Unit)
  | signal (e : Signal σ W)
  | answer (i : ℕ) (b : Bool)

namespace Loop

variable {σ W E : Type}

/-- A loop without any job. -/
def idle (s : σ) : Loop σ W E := { shared := s, parked := [], jobs := [] }

/-- The loop after a turn that leaves `s` and `rest`. -/
def settle (l : Loop σ W E) (s : σ) : Async.Rest σ W E → Loop σ W E
  | .ended => { l with shared := s }
  | .parked w k => { l with shared := s, parked := l.parked ++ [(w, k)] }
  | .deferred t => { l with shared := s, jobs := l.jobs ++ [t] }

/-- Run a job until it waits or ends. -/
def run (l : Loop σ W E) (t : Async σ W E Unit) : Loop σ W E :=
  l.settle (t.turn l.shared).1 (t.turn l.shared).2

/-- Every function the event is about is queued, in the order they came to wait. -/
def broadcast (l : Loop σ W E) (e : Signal σ W) : Loop σ W E where
  shared := e.effect l.shared
  parked := l.parked.filter fun p => (e.answer p.1).isNone
  jobs := l.parked.filterMap fun p => (e.answer p.1).map p.2

end Loop

/-- What may happen to the functions of a system from outside: which of them are
called, which events occur, and which answers a single wait may get. -/
structure Outside (σ W E : Type) where
  calls : Async σ W E Unit → Prop
  signals : σ → Signal σ W → Prop
  answers : W → Bool → Prop

/-- The event loop as a transition system. -/
def eventLoop {σ W E : Type} (o : Outside σ W E) : Lts (Loop σ W E) (Tick σ W E) where
  step l label l' :=
    match label with
    | .job => ∃ t ts, l.jobs = t :: ts ∧ l' = { l with jobs := ts }.run t
    | .call t => o.calls t ∧ l' = { l with jobs := l.jobs ++ [t] }
    | .signal e => l.jobs = [] ∧ o.signals l.shared e ∧ l' = l.broadcast e
    | .answer i b => l.jobs = [] ∧ ∃ w k, l.parked[i]? = some (w, k) ∧ o.answers w b ∧
        l' = { l with parked := l.parked.eraseIdx i, jobs := [k b] }

/-! ### Proof outlines -/

section Outline

variable {σ W E : Type}

/-- Assertions about the shared state and about the functions of a loop: those
that wait, those that an event has woken, and the other jobs. -/
structure Assertions (σ W E : Type) where
  shared : σ → Prop
  parked : σ → W → (Bool → Async σ W E Unit) → Prop
  woken : σ → Async σ W E Unit → Prop
  queued : σ → Async σ W E Unit → Prop

namespace Assertions

variable (P : Assertions σ W E)

/-- What is left after a turn satisfies the assertion of its kind. -/
def Rest (s : σ) : Async.Rest σ W E → Prop
  | .ended => True
  | .parked w k => P.parked s w k
  | .deferred t => P.queued s t

/-- Going from `s` to `s'` leaves the assertions of waiting and of queued
functions true. -/
structure Stable (s s' : σ) : Prop where
  parked : ∀ {w k}, P.parked s w k → P.parked s' w k
  queued : ∀ {t}, P.queued s t → P.queued s' t

/-- A turn of `t` from `s` keeps the assertions. -/
structure Turn (s : σ) (t : Async σ W E Unit) : Prop where
  shared : P.shared (t.turn s).1
  rest : P.Rest (t.turn s).1 (t.turn s).2
  stable : P.Stable s (t.turn s).1

/-- The assertions hold of a loop: the jobs are the woken functions, and behind
them the others. -/
structure Holds (l : Loop σ W E) : Prop where
  shared : P.shared l.shared
  parked : ∀ p ∈ l.parked, P.parked l.shared p.1 p.2
  jobs : ∃ ws qs, l.jobs = ws ++ qs ∧ (∀ t ∈ ws, P.woken l.shared t) ∧
    ∀ t ∈ qs, P.queued l.shared t

end Assertions

/-- **A proof outline** for the functions of a system. -/
structure Outline (o : Outside σ W E) (P : Assertions σ W E) : Prop where
  woken : ∀ {s t}, P.shared s → P.woken s t → P.Turn s t
  woken_woken : ∀ {s t t'}, P.shared s → P.woken s t → P.woken s t' → P.woken (t.turn s).1 t'
  queued : ∀ {s t}, P.shared s → P.queued s t → P.Turn s t
  call : ∀ {s t}, P.shared s → o.calls t → P.queued s t
  signal : ∀ {s e}, P.shared s → o.signals s e → P.shared (e.effect s)
  signal_parked : ∀ {s e w k}, P.shared s → o.signals s e → P.parked s w k → e.answer w = none →
    P.parked (e.effect s) w k
  signal_woken : ∀ {s e w k b}, P.shared s → o.signals s e → P.parked s w k →
    e.answer w = some b → P.woken (e.effect s) (k b)
  answer : ∀ {s w k b}, P.shared s → P.parked s w k → o.answers w b →
    P.woken s (k b) ∨ P.queued s (k b)

variable {P : Assertions σ W E}

/-- A turn whose end is known keeps the assertions when they hold there. -/
theorem Assertions.Turn.of_eq {s s' : σ} {t : Async σ W E Unit} {r}
    (h : t.turn s = (s', r)) (shared : P.shared s') (rest : P.Rest s' r)
    (stable : P.Stable s s') : P.Turn s t := by
  refine ⟨?_, ?_, ?_⟩
  · rw [h]
    exact shared
  · rw [h]
    exact rest
  · rw [h]
    exact stable

theorem Assertions.Turn.congr {s : σ} {t t' : Async σ W E Unit} (h : t.turn s = t'.turn s)
    (turn : P.Turn s t') : P.Turn s t :=
  .of_eq h turn.shared turn.rest turn.stable

/-- The loop settles in a state that satisfies the assertions. -/
theorem Assertions.Turn.settle {l : Loop σ W E} {t : Async σ W E Unit}
    (turn : P.Turn l.shared t) (parked : ∀ p ∈ l.parked, P.parked l.shared p.1 p.2)
    {ws qs : List (Async σ W E Unit)} (jobs : l.jobs = ws ++ qs)
    (hws : ∀ t' ∈ ws, P.woken (t.turn l.shared).1 t') (hqs : ∀ t' ∈ qs, P.queued l.shared t') :
    P.Holds (l.run t) := by
  have hparked : ∀ p ∈ l.parked, P.parked (t.turn l.shared).1 p.1 p.2 :=
    fun p hp => turn.stable.parked (parked p hp)
  have hqueued : ∀ t' ∈ qs, P.queued (t.turn l.shared).1 t' :=
    fun t' ht' => turn.stable.queued (hqs t' ht')
  have hrest := turn.rest
  unfold Loop.run
  cases hr : (t.turn l.shared).2 with
  | ended =>
      exact ⟨turn.shared, hparked, ws, qs, jobs, hws, hqueued⟩
  | parked w k =>
      rw [hr] at hrest
      refine ⟨turn.shared, ?_, ws, qs, jobs, hws, hqueued⟩
      intro p hp
      rcases List.mem_append.mp hp with hp | hp
      · exact hparked p hp
      · rw [List.mem_singleton.mp hp]
        exact hrest
  | deferred t₁ =>
      rw [hr] at hrest
      refine ⟨turn.shared, hparked, ws, qs ++ [t₁], ?_, hws, ?_⟩
      · show l.jobs ++ [t₁] = ws ++ (qs ++ [t₁])
        rw [jobs, List.append_assoc]
      · intro t' ht'
        rcases List.mem_append.mp ht' with ht' | ht'
        · exact hqueued t' ht'
        · rw [List.mem_singleton.mp ht']
          exact hrest

/-- **Each step of the loop keeps an outline's assertions.** -/
theorem Outline.step {o : Outside σ W E} (h : Outline o P) {l l' : Loop σ W E}
    {label : Tick σ W E} (hl : P.Holds l) (hstep : (eventLoop o).step l label l') :
    P.Holds l' := by
  obtain ⟨hs, hparked, ws, qs, hjobs, hws, hqs⟩ := hl
  cases label with
  | job =>
      obtain ⟨t, ts, ht, rfl⟩ := hstep
      rw [hjobs] at ht
      cases ws with
      | nil =>
          -- the last signal has been dealt with: a queued job
          have hqt : t ∈ qs := by
            rw [List.nil_append] at ht
            rw [ht]
            exact List.mem_cons_self
          have hts : ∀ t' ∈ ts, P.queued l.shared t' := by
            intro t' ht'
            rw [List.nil_append] at ht
            exact hqs t' (by rw [ht]; exact List.mem_cons_of_mem t ht')
          exact (h.queued hs (hqs t hqt)).settle (l := { l with jobs := ts }) hparked
            (List.nil_append ts).symm (by intro t' ht'; cases ht') hts
      | cons w ws =>
          obtain ⟨rfl, rfl⟩ := List.cons.inj ht
          have hw : P.woken l.shared w := hws w List.mem_cons_self
          refine (h.woken hs hw).settle (l := { l with jobs := ws ++ qs }) hparked rfl ?_ hqs
          exact fun t' ht' => h.woken_woken hs hw (hws t' (List.mem_cons_of_mem w ht'))
  | call t =>
      obtain ⟨ht, rfl⟩ := hstep
      refine ⟨hs, hparked, ws, qs ++ [t], ?_, hws, ?_⟩
      · show l.jobs ++ [t] = ws ++ (qs ++ [t])
        rw [hjobs, List.append_assoc]
      · intro t' ht'
        rcases List.mem_append.mp ht' with ht' | ht'
        · exact hqs t' ht'
        · rw [List.mem_singleton.mp ht']
          exact h.call hs ht
  | signal e =>
      obtain ⟨-, he, rfl⟩ := hstep
      refine ⟨h.signal hs he, ?_, _, [], (List.append_nil _).symm, ?_, by intro t ht; cases ht⟩
      · intro p hp
        obtain ⟨hp, hnone⟩ := List.mem_filter.mp hp
        exact h.signal_parked hs he (hparked p hp) (Option.isNone_iff_eq_none.mp hnone)
      · intro t ht
        obtain ⟨p, hp, hpt⟩ := List.mem_filterMap.mp ht
        obtain ⟨b, hb, rfl⟩ := Option.map_eq_some_iff.mp hpt
        exact h.signal_woken hs he (hparked p hp) hb
  | answer i b =>
      obtain ⟨-, w, k, hi, hb, rfl⟩ := hstep
      have hk := hparked (w, k) (List.mem_of_getElem? hi)
      have hothers : ∀ p ∈ l.parked.eraseIdx i, P.parked l.shared p.1 p.2 :=
        fun p hp => hparked p (List.mem_of_mem_eraseIdx hp)
      rcases h.answer hs hk hb with hwoken | hqueued
      · exact ⟨hs, hothers, [k b], [], rfl, by simpa using hwoken, by simp⟩
      · exact ⟨hs, hothers, [], [k b], rfl, by simp, by simpa using hqueued⟩

/-- A loop that has not started anything satisfies an outline whose assertion
holds of its state. -/
theorem Assertions.holds_idle {s : σ} (hs : P.shared s) : P.Holds (Loop.idle s) := by
  refine ⟨hs, ?_, [], [], rfl, ?_, ?_⟩
  all_goals
    intro _ h
    cases h

/-- **An outline's assertions hold after every run of the loop.** -/
theorem Outline.run {o : Outside σ W E} (h : Outline o P) {s : σ} {labels : List (Tick σ W E)}
    {l : Loop σ W E} (hs : P.shared s) (hrun : (eventLoop o).Run (Loop.idle s) labels l) :
    P.Holds l :=
  hrun.invariant (Assertions.holds_idle hs) fun _ _ _ hl hstep => h.step hl hstep

end Outline

end Interaction
