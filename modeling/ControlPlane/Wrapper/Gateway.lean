/-
ControlPlane/Wrapper/Gateway.lean

The gateway process of the wrapper, and the helper that stops it.

`stopGatewayAndWait` and its two call sites are what the restart patch injects;
they run as asynchronous functions on the wrapper's event loop.  The rest of the
wrapper is outside the repository.  `ensureGatewayRunning` is a parameter: all
that is assumed of it is that it spawns a process only when `gatewayProc` is
null and no start is in progress (`SpawnsOnlyWhenFree`).  The exit of a process
is an event: the wrapper's own handler nulls `gatewayProc`, and every helper that
waits for this process is woken.

The helper works on the processes alone.  Its two call sites watch it: every
access of a call to the processes and the way the call ends are recorded in
`history`, with the processes at that moment and when it was called, so that what
a call may do is a statement about the records of a reachable state.

The invariant is `Procs.Owned`: a process that is alive is the one `gatewayProc`
refers to.  It survives the unconditional `gatewayProc = null` at the end of the
helper for two reasons.  A helper that was woken by an exit runs before anything
that could spawn, so `gatewayProc` is null already; and one that finds its
process exited has `gatewayProc` referring to that process.
-/
import ControlPlane.Interaction.EventLoop

namespace Wrapper

open Interaction

/-! ### The wrapper's state -/

/-- The shared variable `gatewayProc`, and for each process spawned so far, in
order, whether its exit is known. -/
structure Procs where
  gatewayProc : Option ℕ
  exited : List Bool

/-- The process was started and has exited. -/
def Procs.Exited (ps : Procs) (p : ℕ) : Prop := ps.exited[p]? = some true

/-- The process was started and has not exited. -/
def Procs.Alive (ps : Procs) (p : ℕ) : Prop := ps.exited[p]? = some false

instance (ps : Procs) (p : ℕ) : Decidable (ps.Exited p) :=
  inferInstanceAs (Decidable (_ = _))

/-- The wrapper's state: the processes and whether a start is in progress; and
what the calls of the helper have done so far. -/
structure State extends Procs where
  gatewayStarting : Bool
  history : List (Async.Record Procs)

/-- Start a process and keep it as the gateway. -/
def State.spawn (s : State) : State :=
  { s with gatewayProc := some s.exited.length, exited := s.exited ++ [false] }

/-- Say whether a start is under way. -/
def State.setStarting (s : State) (b : Bool) : State := { s with gatewayStarting := b }

/-- A process exits: the wrapper's own handler nulls `gatewayProc`. -/
def State.exit (s : State) (p : ℕ) : State :=
  { s with gatewayProc := none, exited := s.exited.set p true }

/-! ### The injected code -/

/-- What a function waits for: the exit of a process or five seconds, whichever
is first, or anything else. -/
inductive Wait where
  | exitOrTimeout (proc : ℕ)
  | io

/-- The code of the wrapper. -/
abbrev Code (A : Type) := Async State Wait String A

/-- The signals that are sent. -/
inductive Signal where
  | SIGTERM
  | SIGKILL

/-- Whether `proc.kill` throws, for each signal. -/
abbrev Kill := Signal → Except String Unit

/-- Code that works on the processes alone. -/
abbrev ProcCode (A : Type) := Async Procs Wait String A

/-- `Promise.race([exited.then(() => false), sleep(5000).then(() => true)])`. -/
def race (proc : ℕ) : ProcCode Bool := do
  if ← Async.get fun s => decide (s.Exited proc) then
    Async.later (pure false)
  else
    Async.await (.exitOrTimeout proc) pure

/-- Stop the gateway and wait until it has exited. -/
def stopGatewayAndWait (kill : Kill) : ProcCode Unit := do
  match ← Async.get fun s => s.gatewayProc with
  | none => pure ()
  | some proc =>
      try Async.ofExcept (kill .SIGTERM) catch _ => pure ()
      let alreadyExited ← Async.get fun s => decide (s.Exited proc)
      let timedOut ← if alreadyExited then pure false else race proc
      if timedOut then
        try Async.ofExcept (kill .SIGKILL) catch _ => pure ()
        let stillRunning ← race proc
        if stillRunning then
          throw "gateway process did not exit within 5s of SIGKILL; refusing to start a second gateway"
      Async.modify fun s => { s with gatewayProc := none }

/-- The calls of the helper are recorded in `history`. -/
def watch : Async.Watch State Procs where
  part s := s.toProcs
  put s ps := { s with toProcs := ps }
  note s record := { s with history := s.history ++ [record] }

/-- Stop the gateway and start it again. -/
def restartGateway (ensureGatewayRunning : Code Unit) (kill : Kill) : Code Unit := do
  if (← Async.get fun s => s.gatewayProc).isSome then
    Async.awaited ((stopGatewayAndWait kill).called watch)
  ensureGatewayRunning

/-- The part of the `/setup/import` handler before the restore. -/
def setupImport (kill : Kill) : Code Unit := do
  -- Stop gateway before restore so we don't overwrite live files.
  if (← Async.get fun s => s.gatewayProc).isSome then
    Async.awaited ((stopGatewayAndWait kill).called watch)

/-! ### The wrapper around it -/

/-- The function spawns a process only when `gatewayProc` is null and no start is
in progress, and does nothing else to the processes; it never waits for the exit
of one. -/
def SpawnsOnlyWhenFree : Code Unit → Prop
  | .ret _ => True
  | .fail _ => True
  | .access f k => ∀ s, (∃ b, f s = s.setStarting b ∨
      (s.gatewayProc = none ∧ s.gatewayStarting = false ∧ f s = s.spawn.setStarting b)) ∧
      SpawnsOnlyWhenFree (k s)
  | .await w k => w = .io ∧ ∀ b, SpawnsOnlyWhenFree (k b)
  | .later t => SpawnsOnlyWhenFree t

/-- The exit event of a process. -/
def exitOf (p : ℕ) : Interaction.Signal State Wait where
  effect s := s.exit p
  answer
    | .exitOrTimeout q => if q = p then some false else none
    | .io => none

/-- Restarts, imports and other requests that need the gateway may come at any
time, a process that is alive may exit at any time, and five seconds may pass. -/
def outside (ensureGatewayRunning : Code Unit) : Outside State Wait String where
  calls t := t = ensureGatewayRunning ∨
    ∃ kill, t = restartGateway ensureGatewayRunning kill ∨ t = setupImport kill
  signals s e := ∃ p, s.Alive p ∧ e = exitOf p
  answers
    | .exitOrTimeout _, b => b = true
    | .io, _ => True

/-! ### What is to be shown of it -/

/-- A process that is alive is the one `gatewayProc` refers to, and what that
refers to is a process. -/
structure Procs.Owned (ps : Procs) : Prop where
  alive : ∀ {p}, ps.Alive p → ps.gatewayProc = some p
  known : ∀ {p}, ps.gatewayProc = some p → ps.Alive p ∨ ps.Exited p

/-- What a call of the helper may do.  No access leaves `gatewayProc` null that
referred to a process that is alive.  The call returns if there was no gateway, or
if the one there was, which it captured, has exited; and it throws if `gatewayProc`
still refers to the process it captured, which is alive. -/
def Sound : Async.Record Procs → Prop
  | .accessed before after =>
      ∀ p, before.gatewayProc = some p → before.Alive p → after.gatewayProc ≠ none
  | .returned called now => ∀ p, called.gatewayProc = some p → now.Exited p
  | .threw called now => ∃ p, called.gatewayProc = some p ∧ now.gatewayProc = some p ∧ now.Alive p

/-- Everything the calls of the helper have done was sound at the time, and no two
gateway processes are alive. -/
def State.SingleGateway (s : State) : Prop :=
  (∀ record ∈ s.history, Sound record) ∧ ∀ p q, s.Alive p → s.Alive q → p = q

/-- The invariant. -/
structure State.Sound (s : State) : Prop extends s.toProcs.Owned where
  history : ∀ record ∈ s.history, Wrapper.Sound record

/-! ### The helper, cut at its awaits -/

/-- What the helper does with a process that is gone. -/
def finish : ProcCode Unit :=
  Async.modify fun s => { s with gatewayProc := none }

/-- The helper after the second race. -/
def afterSecond (stillRunning : Bool) : ProcCode Unit :=
  if stillRunning then
    throw "gateway process did not exit within 5s of SIGKILL; refusing to start a second gateway"
  else finish

/-- The helper after the first race. -/
def afterFirst (p : ℕ) (timedOut : Bool) : ProcCode Unit :=
  if timedOut then race p >>= afterSecond else finish

/-- The helper once it has read `gatewayProc`. -/
def stopFound : Option ℕ → ProcCode Unit
  | none => pure ()
  | some p => do
      let alreadyExited ← Async.get fun s => decide (s.Exited p)
      if alreadyExited then finish else race p >>= afterFirst p

/-- An error of `proc.kill` is ignored. -/
theorem try_kill (e : Except String Unit) :
    (MonadExcept.tryCatch (Async.ofExcept e) (fun _ => pure ()) : ProcCode Unit) = pure () := by
  cases e <;> rfl

theorem stopGatewayAndWait_eq (kill : Kill) :
    stopGatewayAndWait kill = Async.bind (Async.get fun s => s.gatewayProc) stopFound := by
  refine congrArg (Async.bind _) ?_
  funext gatewayProc
  cases gatewayProc with
  | none => rfl
  | some p =>
      simp only [try_kill]
      show Async.bind (Async.get fun s : Procs => decide (s.Exited p)) _ =
        Async.bind (Async.get fun s : Procs => decide (s.Exited p)) _
      refine congrArg (Async.bind _) ?_
      funext alreadyExited
      cases alreadyExited with
      | true => rfl
      | false =>
          show Async.bind (race p) _ = Async.bind (race p) (afterFirst p)
          refine congrArg (Async.bind _) ?_
          funext timedOut
          cases timedOut with
          | false => rfl
          | true =>
              show Async.bind (race p) _ = Async.bind (race p) afterSecond
              refine congrArg (Async.bind _) ?_
              funext stillRunning
              cases stillRunning <;> rfl

/-! ### Its turns -/

section Turns

variable {s : State} {p : ℕ}

/-- The state with one more record. -/
def State.noted (s : State) (record : Async.Record Procs) : State := watch.note s record

/-- The state after a read of a call of the helper. -/
def State.read (s : State) : State := s.noted (.accessed s.toProcs s.toProcs)

/-- The processes once `gatewayProc` is null. -/
def Procs.cleared (ps : Procs) : Procs := { ps with gatewayProc := none }

/-- The state a call of the helper leaves that nulls `gatewayProc` and returns. -/
def State.finished (s : State) (called : Procs) : State :=
  (watch.put (s.noted (.accessed s.toProcs s.toProcs.cleared)) s.toProcs.cleared).noted
    (.returned called s.toProcs.cleared)

/-- A call of the helper, with what it still has to do, at a call site that goes on
with `k`. -/
def site (called : Procs) (t : ProcCode Unit) (k : Unit → Code Unit) : Code Unit :=
  (t.watched watch called).awaited.bind k

variable (called : Procs) (k : Unit → Code Unit)

theorem turn_finish : (site called finish k).turn s = (s.finished called, .deferred (k ())) := rfl

theorem turn_afterSecond_true : ∃ e, (site called (afterSecond true) k).turn s =
    (s.noted (.threw called s.toProcs), .deferred (.fail e)) := ⟨_, rfl⟩

/-- A race for a process that has not exited. -/
theorem turn_race (hp : ¬ s.Exited p) (after : Bool → ProcCode Unit) :
    (site called (race p >>= after) k).turn s =
      (s.read, .parked (.exitOrTimeout p) fun b => site called (after b) k) := by
  have hd : decide (s.toProcs.Exited p) = false := decide_eq_false hp
  show ((((Async.bind (if decide (s.toProcs.Exited p) then Async.later (Async.ret false)
    else Async.await (.exitOrTimeout p) Async.ret : ProcCode Bool) after).watched watch
      called).awaited).bind k).turn s.read = _
  rw [hd]
  rfl

/-- The first turn of a call reads `gatewayProc`. -/
theorem turn_stop (kill : Kill) :
    (((stopGatewayAndWait kill).called watch).awaited.bind k).turn s =
      (site s.toProcs (stopFound s.gatewayProc) k).turn s.read := by
  rw [stopGatewayAndWait_eq]
  rfl

theorem turn_stop_none (kill : Kill) (h : s.gatewayProc = none) :
    (((stopGatewayAndWait kill).called watch).awaited.bind k).turn s =
      (s.read.noted (.returned s.toProcs s.toProcs), .deferred (k ())) := by
  rw [turn_stop, h]
  rfl

/-- A helper that finds a process looks whether it has exited. -/
theorem turn_stop_some (kill : Kill) (h : s.gatewayProc = some p) :
    (((stopGatewayAndWait kill).called watch).awaited.bind k).turn s =
      (site s.toProcs (if decide (s.Exited p) then finish else race p >>= afterFirst p) k).turn
        s.read.read := by
  rw [turn_stop, h]
  rfl

theorem turn_stop_exited (kill : Kill) (h : s.gatewayProc = some p) (hp : s.Exited p) :
    (((stopGatewayAndWait kill).called watch).awaited.bind k).turn s =
      (s.read.read.finished s.toProcs, .deferred (k ())) := by
  rw [turn_stop_some k kill h, if_pos (decide_eq_true hp)]
  rfl

theorem turn_stop_running (kill : Kill) (h : s.gatewayProc = some p) (hp : ¬ s.Exited p) :
    (((stopGatewayAndWait kill).called watch).awaited.bind k).turn s =
      (s.read.read.read,
        .parked (.exitOrTimeout p) fun b => site s.toProcs (afterFirst p b) k) := by
  have hd : ¬ decide (s.Exited p) = true := by
    rw [decide_eq_true_eq]
    exact hp
  rw [turn_stop_some k kill h, if_neg hd]
  have hp : ¬ s.read.read.Exited p := hp
  exact turn_race s.toProcs k hp (afterFirst p)

end Turns

/-! ### What keeps the invariant -/

section Sound

variable {s : State} {p : ℕ}

theorem State.Sound.noted (hs : s.Sound) {record : Async.Record Procs}
    (hrecord : Wrapper.Sound record) : (s.noted record).Sound := by
  refine ⟨hs.toOwned, ?_⟩
  intro r hr
  rcases List.mem_append.mp hr with hr | hr
  · exact hs.history r hr
  · rw [List.mem_singleton.mp hr]
    exact hrecord

/-- A read changes nothing. -/
theorem State.Sound.read (hs : s.Sound) : s.read.Sound := by
  apply hs.noted
  intro p hp _ hnone
  rw [hp] at hnone
  cases hnone

/-- `gatewayProc = null` keeps the invariant where nothing it refers to is alive. -/
theorem State.Sound.finished (hs : s.Sound) {called : Procs}
    (hcalled : ∀ q, called.gatewayProc = some q → s.Exited q)
    (hdead : ∀ q, s.gatewayProc = some q → ¬ s.Alive q) : (s.finished called).Sound := by
  have hnulls : (s.noted (.accessed s.toProcs s.toProcs.cleared)).Sound :=
    hs.noted fun q hq halive => absurd halive (hdead q hq)
  have hnone : ∀ q, ¬ s.Alive q := fun q hq => hdead q (hs.alive hq) hq
  have hcleared :
      (watch.put (s.noted (.accessed s.toProcs s.toProcs.cleared)) s.toProcs.cleared).Sound := by
    refine ⟨⟨?_, ?_⟩, hnulls.history⟩
    · intro q hq
      exact absurd hq (hnone q)
    · intro q hq
      cases hq
  exact hcleared.noted hcalled

theorem State.Sound.spawn (hs : s.Sound) (hfree : s.gatewayProc = none) (starting : Bool) :
    (s.spawn.setStarting starting).Sound := by
  have hnone : ∀ q, ¬ s.Alive q := by
    intro q hq
    have howned := hs.alive hq
    rw [hfree] at howned
    cases howned
  refine ⟨⟨?_, ?_⟩, hs.history⟩
  · intro q hq
    have hq : (s.exited ++ [false])[q]? = some false := hq
    show some s.exited.length = some q
    rcases Nat.lt_or_ge q s.exited.length with hlt | hge
    · rw [List.getElem?_append_left hlt] at hq
      exact absurd hq (hnone q)
    · have hlt := (List.getElem?_eq_some_iff.mp hq).1
      simp only [List.length_append, List.length_singleton] at hlt
      have heq : q = s.exited.length := by omega
      rw [heq]
  · intro q hq
    obtain rfl : s.exited.length = q := Option.some.inj hq
    left
    show (s.exited ++ [false])[s.exited.length]? = some false
    simp

theorem State.alive_spawn {q : ℕ} (hq : s.Alive q) : s.spawn.Alive q := by
  have hlt : q < s.exited.length := (List.getElem?_eq_some_iff.mp hq).1
  show (s.exited ++ [false])[q]? = some false
  rw [List.getElem?_append_left hlt]
  exact hq

theorem State.exited_exit (hp : s.Alive p) : (s.exit p).Exited p := by
  have hlt : p < s.exited.length := (List.getElem?_eq_some_iff.mp hp).1
  show (s.exited.set p true)[p]? = some true
  exact List.getElem?_set_self hlt

theorem State.alive_exit {q : ℕ} (hqp : q ≠ p) (hq : s.Alive q) : (s.exit p).Alive q := by
  show (s.exited.set p true)[q]? = some false
  rw [List.getElem?_set_ne hqp.symm]
  exact hq

theorem State.Sound.exit (hs : s.Sound) (hp : s.Alive p) : (s.exit p).Sound := by
  refine ⟨⟨?_, ?_⟩, hs.history⟩
  · intro q hq
    exfalso
    rcases eq_or_ne q p with rfl | hqp
    · have hexited := State.exited_exit hp
      rw [Procs.Alive, hexited] at hq
      cases hq
    · have hq : (s.exited.set p true)[q]? = some false := hq
      rw [List.getElem?_set_ne hqp.symm] at hq
      have hqp' : some p = some q := (hs.alive hp).symm.trans (hs.alive hq)
      exact hqp (Option.some.inj hqp').symm
  · intro q hq
    cases hq

theorem Procs.Alive.not_exited {ps : Procs} (hp : ps.Alive p) : ¬ ps.Exited p := by
  intro h
  rw [Procs.Exited, hp] at h
  cases h

end Sound

/-! ### The proof outline -/

/-- A call of the helper that has captured the process and waits for it, in a call
site that goes on to something that spawns only when the gateway slot is free. -/
inductive AtRace (p : ℕ) : (Bool → Code Unit) → Prop
  | first (called : Procs) (hcalled : called.gatewayProc = some p) (k : Unit → Code Unit)
      (hk : SpawnsOnlyWhenFree (k ())) : AtRace p fun b => site called (afterFirst p b) k
  | second (called : Procs) (hcalled : called.gatewayProc = some p) (k : Unit → Code Unit)
      (hk : SpawnsOnlyWhenFree (k ())) : AtRace p fun b => site called (afterSecond b) k

/-- The proof outline of the wrapper: a process some helper waits for is alive; a
helper woken by an exit finds `gatewayProc` null, one woken by a timeout its
process alive; every other job is a call, or spawns only when the slot is free. -/
def outline (ensureGatewayRunning : Code Unit) : Assertions State Wait String where
  shared := State.Sound
  parked s w k :=
    match w with
    | .exitOrTimeout p => AtRace p k ∧ s.Alive p
    | .io => ∀ b, SpawnsOnlyWhenFree (k b)
  woken s t := ∃ p k, AtRace p k ∧
    (t = k false ∧ s.Exited p ∧ s.gatewayProc = none ∨ t = k true ∧ s.Alive p)
  queued _ t := SpawnsOnlyWhenFree t ∨ (outside ensureGatewayRunning).calls t

variable {ensureGatewayRunning : Code Unit}

/-- Assertions of suspended functions speak of what is alive only. -/
theorem outline_stable {s s' : State} (h : ∀ p, s.Alive p → s'.Alive p) :
    (outline ensureGatewayRunning).Stable s s' where
  parked {w k} hk := by
    cases w with
    | exitOrTimeout p => exact ⟨hk.1, h p hk.2⟩
    | io => exact hk
  queued ht := ht

section Outline

variable {s : State} {p : ℕ} {t : Code Unit} {k : Bool → Code Unit}

/-- A turn of something that spawns only when the slot is free. -/
theorem SpawnsOnlyWhenFree.turn (ht : SpawnsOnlyWhenFree t) (hs : s.Sound) :
    (outline ensureGatewayRunning).Turn s t ∧ ∀ p, s.Alive p → (t.turn s).1.Alive p := by
  induction t generalizing s with
  | ret a => exact ⟨⟨hs, trivial, outline_stable fun _ hp => hp⟩, fun _ hp => hp⟩
  | fail e => exact ⟨⟨hs, trivial, outline_stable fun _ hp => hp⟩, fun _ hp => hp⟩
  | await w k => 
      obtain ⟨rfl, hk⟩ := ht
      exact ⟨⟨hs, hk, outline_stable fun _ hp => hp⟩, fun _ hp => hp⟩
  | later t => exact ⟨⟨hs, .inl ht, outline_stable fun _ hp => hp⟩, fun _ hp => hp⟩
  | access f k ih =>
      obtain ⟨⟨starting, hf⟩, hk⟩ := ht s
      have hf' : (f s).Sound ∧ ∀ p, s.Alive p → (f s).Alive p := by
        rcases hf with hf | ⟨hfree, -, hf⟩
        · rw [hf]
          exact ⟨⟨hs.toOwned, hs.history⟩, fun _ hp => hp⟩
        · rw [hf]
          exact ⟨hs.spawn hfree starting, fun _ hp => State.alive_spawn hp⟩
      obtain ⟨hturn, halive⟩ := ih s hk hf'.1
      have hkeep : ∀ p, s.Alive p → (((Async.access f k).turn s).1).Alive p :=
        fun p hp => halive p (hf'.2 p hp)
      exact ⟨⟨hturn.shared, hturn.rest, outline_stable hkeep⟩, hkeep⟩

/-- Where the helper's process is gone and the slot refers to nothing alive, the
helper ends and its call site goes on. -/
theorem outline_finished {t : Code Unit} {k : Unit → Code Unit} {s' : State} {called : Procs}
    (hs' : s'.Sound) (hsame : ∀ q, s.Alive q → s'.Alive q)
    (hp : s'.Exited p) (hcalled : called.gatewayProc = some p)
    (hdead : ∀ q, s'.gatewayProc = some q → ¬ s'.Alive q)
    (hk : SpawnsOnlyWhenFree (k ()))
    (ht : t.turn s = (s'.finished called, .deferred (k ()))) :
    (outline ensureGatewayRunning).Turn s t := by
  have hexited : ∀ q, called.gatewayProc = some q → s'.Exited q := by
    intro q hq
    obtain rfl : p = q := Option.some.inj (hcalled.symm.trans hq)
    exact hp
  exact .of_eq ht (hs'.finished hexited hdead) (.inl hk) (outline_stable hsame)

/-- A turn of a helper that has been woken. -/
theorem outline_woken (hs : s.Sound) (ht : (outline ensureGatewayRunning).woken s t) :
    (outline ensureGatewayRunning).Turn s t := by
  obtain ⟨p, k, hk, ⟨rfl, hp, hfree⟩ | ⟨rfl, hp⟩⟩ := ht
  · -- woken by the exit: `gatewayProc` is null already
    have hdead : ∀ q, s.gatewayProc = some q → ¬ s.Alive q := by
      intro q hq
      rw [hfree] at hq
      cases hq
    cases hk with
    | first called hcalled k hk =>
        exact outline_finished hs (fun _ hq => hq) hp hcalled hdead hk (turn_finish called k)
    | second called hcalled k hk =>
        exact outline_finished hs (fun _ hq => hq) hp hcalled hdead hk (turn_finish called k)
  · -- woken by the timeout: the process is alive, hence `gatewayProc` refers to it
    cases hk with
    | first called hcalled k hk =>
        have hturn := turn_race called k hp.not_exited afterSecond
        exact .of_eq hturn hs.read ⟨.second called hcalled k hk, hp⟩ (outline_stable fun _ hq => hq)
    | second called hcalled k hk =>
        obtain ⟨e, hturn⟩ := turn_afterSecond_true called k
        have hthrew : (s.noted (.threw called s.toProcs)).Sound :=
          hs.noted ⟨p, hcalled, hs.alive hp, hp⟩
        exact .of_eq hturn hthrew (.inl trivial) (outline_stable fun _ hq => hq)

/-- Other helpers that have been woken are not affected by it. -/
theorem outline_woken_woken {t' : Code Unit} (ht : (outline ensureGatewayRunning).woken s t)
    (ht' : (outline ensureGatewayRunning).woken s t') :
    (outline ensureGatewayRunning).woken (t.turn s).1 t' := by
  -- a turn of a woken helper at most nulls `gatewayProc`
  have hkeep : ((t.turn s).1.exited = s.exited) ∧
      (s.gatewayProc = none → (t.turn s).1.gatewayProc = none) := by
    obtain ⟨p, k, hk, ⟨rfl, -, -⟩ | ⟨rfl, hp⟩⟩ := ht
    · cases hk with
      | first called hcalled k hk => exact ⟨rfl, fun _ => rfl⟩
      | second called hcalled k hk => exact ⟨rfl, fun _ => rfl⟩
    · cases hk with
      | first called hcalled k hk =>
          have hturn := turn_race called k hp.not_exited afterSecond
          exact hturn ▸ ⟨rfl, fun h => h⟩
      | second called hcalled k hk =>
          obtain ⟨e, hturn⟩ := turn_afterSecond_true called k
          exact hturn ▸ ⟨rfl, fun h => h⟩
  obtain ⟨p', k', hk', ⟨ht', hp', hfree⟩ | ⟨ht', hp'⟩⟩ := ht'
  · refine ⟨p', k', hk', .inl ⟨ht', ?_, hkeep.2 hfree⟩⟩
    rw [Procs.Exited, hkeep.1]
    exact hp'
  · refine ⟨p', k', hk', .inr ⟨ht', ?_⟩⟩
    rw [Procs.Alive, hkeep.1]
    exact hp'

/-- The first turn of the helper at a call site. -/
theorem outline_stop (hs : s.Sound) (kill : Kill) {k : Unit → Code Unit}
    (hk : SpawnsOnlyWhenFree (k ())) :
    (outline ensureGatewayRunning).Turn s
      (((stopGatewayAndWait kill).called watch).awaited.bind k) := by
  cases hproc : s.gatewayProc with
  | none =>
      have hreturned : (s.read.noted (.returned s.toProcs s.toProcs)).Sound := by
        apply hs.read.noted
        intro p hp
        rw [hproc] at hp
        cases hp
      exact .of_eq (turn_stop_none k kill hproc) hreturned (.inl hk)
        (outline_stable fun _ hq => hq)
  | some p =>
      rcases hs.known hproc with hp | hp
      · have hturn := turn_stop_running k kill hproc hp.not_exited
        exact .of_eq hturn hs.read.read.read ⟨.first s.toProcs hproc k hk, hp⟩
          (outline_stable fun _ hq => hq)
      · have hdead : ∀ q, s.gatewayProc = some q → ¬ s.Alive q := by
          intro q hq halive
          obtain rfl : p = q := Option.some.inj (hproc.symm.trans hq)
          exact halive.not_exited hp
        exact outline_finished hs.read.read (fun _ hq => hq) hp hproc hdead hk
          (turn_stop_exited k kill hproc hp)

theorem turn_restartGateway (kill : Kill) :
    (restartGateway ensureGatewayRunning kill).turn s =
      (if s.gatewayProc.isSome then
        ((stopGatewayAndWait kill).called watch).awaited.bind fun _ => ensureGatewayRunning
      else ensureGatewayRunning).turn s := by
  show Async.turn (if s.gatewayProc.isSome then _ else _) s = _
  split <;> rfl

theorem turn_setupImport (kill : Kill) :
    (setupImport kill).turn s =
      (if s.gatewayProc.isSome then
        ((stopGatewayAndWait kill).called watch).awaited.bind fun _ => Async.ret ()
      else Async.ret ()).turn s := by
  show Async.turn (if s.gatewayProc.isSome then
    ((stopGatewayAndWait kill).called watch).awaited else _) s = _
  rw [show (fun _ : Unit => (Async.ret () : Code Unit)) = Async.ret from rfl, Async.bind_ret]
  rfl

/-- The first turn of a call. -/
theorem outline_calls (hensure : SpawnsOnlyWhenFree ensureGatewayRunning) (hs : s.Sound)
    (ht : (outside ensureGatewayRunning).calls t) : (outline ensureGatewayRunning).Turn s t := by
  -- a call site stops the gateway if it finds one, and goes on to `u`
  have hsite : ∀ {u : Code Unit} (kill : Kill), SpawnsOnlyWhenFree u →
      t.turn s = (if s.gatewayProc.isSome then
        ((stopGatewayAndWait kill).called watch).awaited.bind fun _ => u else u).turn s →
      (outline ensureGatewayRunning).Turn s t := by
    intro u kill hu hturn
    apply Assertions.Turn.congr hturn
    split
    · exact outline_stop hs kill hu
    · exact (hu.turn hs).1
  obtain rfl | ⟨kill, rfl | rfl⟩ := ht
  · exact (hensure.turn hs).1
  · exact hsite kill hensure (turn_restartGateway kill)
  · have hret : SpawnsOnlyWhenFree (Async.ret ()) := trivial
    exact hsite kill hret (turn_setupImport kill)

/-- **The outline of the wrapper is one.** -/
theorem outline_isOutline (hensure : SpawnsOnlyWhenFree ensureGatewayRunning) :
    Outline (outside ensureGatewayRunning) (outline ensureGatewayRunning) where
  woken := outline_woken
  woken_woken _ := outline_woken_woken
  queued {s t} hs ht := by
    rcases ht with ht | ht
    · exact (ht.turn hs).1
    · exact outline_calls hensure hs ht
  call hs ht := .inr ht
  signal hs he := by
    obtain ⟨p, hp, rfl⟩ := he
    exact hs.exit hp
  signal_parked {s e w k} hs he hk hnone := by
    obtain ⟨p, hp, rfl⟩ := he
    cases w with
    | io => exact hk
    | exitOrTimeout q =>
        have hqp : q ≠ p := by
          rintro rfl
          simp [exitOf] at hnone
        exact ⟨hk.1, State.alive_exit hqp hk.2⟩
  signal_woken {s e w k b} hs he hk hb := by
    obtain ⟨p, hp, rfl⟩ := he
    cases w with
    | io => cases hb
    | exitOrTimeout q =>
        have hqp : q = p ∧ b = false := by simpa [exitOf] using hb
        obtain ⟨rfl, rfl⟩ := hqp
        exact ⟨q, k, hk.1, .inl ⟨rfl, State.exited_exit hp, rfl⟩⟩
  answer {s w k b} hs hk hb := by
    cases w with
    | io => exact .inr (.inl (hk b))
    | exitOrTimeout p =>
        obtain rfl : b = true := hb
        exact .inl ⟨p, k, hk.1, .inr ⟨rfl, hk.2⟩⟩

end Outline

/-! ### A single gateway -/

/-- **The helper keeps a single gateway**, after any sequence of overlapping
calls, exits and timeouts. -/
theorem stopGatewayAndWait_keeps_single_gateway {ensureGatewayRunning : Code Unit}
    (hensure : SpawnsOnlyWhenFree ensureGatewayRunning) {s : State} (howned : s.Owned)
    (hfresh : s.history = []) {labels : List (Tick State Wait String)}
    {l : Loop State Wait String}
    (hrun : (eventLoop (outside ensureGatewayRunning)).Run (Loop.idle s) labels l) :
    l.shared.SingleGateway := by
  have hs : s.Sound := ⟨howned, by rw [hfresh]; intro record hrecord; cases hrecord⟩
  have hl : l.shared.Sound := ((outline_isOutline hensure).run hs hrun).shared
  refine ⟨hl.history, ?_⟩
  intro p q hp hq
  exact Option.some.inj ((hl.alive hp).symm.trans (hl.alive hq))

/-! A run: a restart whose helper has sent SIGKILL and an import are woken by one
exit. -/

/-- No gateway is there and none is being started. -/
def State.Free (s : State) : Prop := s.gatewayProc = none ∧ s.gatewayStarting = false

instance (s : State) : Decidable s.Free := inferInstanceAs (Decidable (_ ∧ _))

/-- An `ensureGatewayRunning` that spawns and waits until the gateway is ready. -/
def startIfFree : Code Unit :=
  .access (fun s => if s.Free then s.spawn.setStarting true else s) fun s =>
    if s.Free then
      .await .io fun _ => Async.modify fun s => s.setStarting false
    else .ret ()

theorem startIfFree_spawnsOnlyWhenFree : SpawnsOnlyWhenFree startIfFree := by
  intro s
  by_cases hs : s.Free
  · beta_reduce
    rw [if_pos hs, if_pos hs]
    refine ⟨⟨true, .inr ⟨hs.1, hs.2, rfl⟩⟩, rfl, ?_⟩
    intro b s'
    exact ⟨⟨false, .inl rfl⟩, trivial⟩
  · beta_reduce
    rw [if_neg hs, if_neg hs]
    exact ⟨⟨s.gatewayStarting, .inl rfl⟩, trivial⟩

/-- A wrapper that has started nothing. -/
def booted : State := { gatewayProc := none, exited := [], gatewayStarting := false, history := [] }

theorem booted_owned : booted.Owned where
  alive h := by cases h
  known h := by cases h

/-- A kill that throws. -/
def killThrows : Kill := fun _ => .error "kill ESRCH"

/-- The processes before and after the exit. -/
def serving : Procs := ⟨some 0, [false]⟩

/-- One process, which has exited. -/
def stopped : Procs := ⟨none, [true]⟩

/-- The wrapper after the run: the calls have captured the process in `serving`, and
both found `gatewayProc` null when they were woken. -/
def restarted : State where
  gatewayProc := some 1
  exited := [true, false]
  gatewayStarting := false
  history := List.replicate 7 (.accessed serving serving) ++
    [.accessed stopped stopped, .returned serving stopped,
      .accessed stopped stopped, .returned serving stopped]

/-- Two restarts at once. -/
def overlapping : List (Tick State Wait String) :=
  [.call startIfFree, .job, .answer 0 true, .job, .call (restartGateway startIfFree killThrows),
    .call (setupImport killThrows), .job, .job, .answer 0 true, .job, .signal (exitOf 0), .job,
    .job, .job, .job, .answer 0 true, .job]

theorem overlapping_run :
    (eventLoop (outside startIfFree)).Run (Loop.idle booted) overlapping (Loop.idle restarted) := by
  refine ⟨_, ⟨.inl rfl, rfl⟩, _, ⟨_, _, rfl, rfl⟩, _, ⟨rfl, _, _, rfl, trivial, rfl⟩, _,
    ⟨_, _, rfl, rfl⟩, ?_⟩
  refine ⟨_, ⟨.inr ⟨_, .inl rfl⟩, rfl⟩, _, ⟨.inr ⟨_, .inr rfl⟩, rfl⟩, _, ⟨_, _, rfl, rfl⟩, _,
    ⟨_, _, rfl, rfl⟩, ?_⟩
  refine ⟨_, ⟨rfl, _, _, rfl, rfl, rfl⟩, _, ⟨_, _, rfl, rfl⟩, _, ⟨rfl, ⟨0, rfl, rfl⟩, rfl⟩, ?_⟩
  refine ⟨_, ⟨_, _, rfl, rfl⟩, _, ⟨_, _, rfl, rfl⟩, _, ⟨_, _, rfl, rfl⟩, _, ⟨_, _, rfl, rfl⟩, ?_⟩
  exact ⟨_, ⟨rfl, _, _, rfl, trivial, rfl⟩, _, ⟨_, _, rfl, rfl⟩, rfl⟩

theorem overlapping_keeps_single_gateway : restarted.SingleGateway :=
  stopGatewayAndWait_keeps_single_gateway startIfFree_spawnsOnlyWhenFree booted_owned rfl
    overlapping_run

end Wrapper
