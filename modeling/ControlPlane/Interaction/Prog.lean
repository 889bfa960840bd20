/-
ControlPlane/Interaction/Prog.lean

Programs that act on the world by calls.  A `Prog` returns, throws, or makes a
call and goes on with the reply; nothing is said about what a call does.  A
loop that the world keeps going is written with a fuel argument and ends in
`diverge` when the fuel is used up.

`Exec p t o` says that `p` can make exactly the calls of the trace `t`, with the
replies recorded there, and end in the outcome `o`.  Replies are arbitrary, so
a statement about every `t` and `o` with `Exec p t o` is a statement about every
environment.  An environment that is not arbitrary is a labelled transition
system over events: its runs are the traces it allows.

The lemmas come in one shape, an inversion per combinator: what a trace of
`p >>= f`, of a `try`/`catch` or of a single call can look like.

Four more notions are about whole programs.  `Only P p` bounds the calls `p` can
make, whatever the replies; in an environment whose steps on such calls keep an
invariant, every run of `p` keeps it (`Only.invariant`).  `Throws Q p` bounds the
errors it can throw, and `Ends A Q p` says besides that it is never cut off.
`play` runs a program against a given environment and returns the trace, for runs
on given replies (`play_exec`, `play_run`).
-/
import ControlPlane.Interaction.Lts

namespace Interaction

/-- The calls a program can make, and the replies each can get. -/
structure Interface where
  Call : Type
  Reply : Call → Type

/-- A call together with the reply it got. -/
structure Event (I : Interface) where
  call : I.Call
  reply : I.Reply call

/-- A program that makes calls of `I`, throws `ε` and returns `α`. -/
inductive Prog (I : Interface) (ε α : Type) : Type where
  | ret (a : α)
  | throw (e : ε)
  | diverge
  | call (c : I.Call) (k : I.Reply c → Prog I ε α)

/-- How a run of a program ends. -/
inductive Outcome (ε α : Type) : Type where
  | returned (a : α)
  | threw (e : ε)
  | diverged

/-- The outcome of going on with `f` when a value is returned. -/
def Outcome.map {ε α β : Type} (f : α → β) : Outcome ε α → Outcome ε β
  | .returned a => .returned (f a)
  | .threw e => .threw e
  | .diverged => .diverged

namespace Prog

variable {I : Interface} {ε ε' α β : Type}

/-! ### Combinators -/

/-- Go on with the returned value. -/
def bind : Prog I ε α → (α → Prog I ε β) → Prog I ε β
  | ret a, f => f a
  | throw e, _ => throw e
  | diverge, _ => diverge
  | call c k, f => call c fun r => (k r).bind f

instance : Monad (Prog I ε) where
  pure := ret
  bind := bind

theorem bind_ret (p : Prog I ε α) : p.bind ret = p := by
  induction p with
  | ret a => rfl
  | throw e => rfl
  | diverge => rfl
  | call c k ih => exact congrArg (call c) (funext ih)

/-- Composition is associative. -/
theorem bind_bind {γ : Type} (p : Prog I ε α) (f : α → Prog I ε β) (g : β → Prog I ε γ) :
    (p.bind f).bind g = p.bind fun a => (f a).bind g := by
  induction p with
  | ret a => rfl
  | throw e => rfl
  | diverge => rfl
  | call c k ih => exact congrArg (call c) (funext ih)

instance : LawfulMonad (Prog I ε) :=
  LawfulMonad.mk' (Prog I ε) bind_ret (fun _ _ => rfl) bind_bind

/-- `try p catch e => h e`. -/
def tryCatch : Prog I ε α → (ε → Prog I ε' α) → Prog I ε' α
  | ret a, _ => ret a
  | throw e, h => h e
  | diverge, _ => diverge
  | call c k, h => call c fun r => (k r).tryCatch h

/-- A single call. -/
def perform (c : I.Call) : Prog I ε (I.Reply c) := call c ret

/-- Return or throw what a pure computation gave. -/
def ofExcept : Except ε α → Prog I ε α
  | .ok a => ret a
  | .error e => throw e

/-- A single call whose reply is read by a pure computation. -/
def ask (c : I.Call) (f : I.Reply c → Except ε α) : Prog I ε α :=
  call c fun r => ofExcept (f r)

/-- A pure computation on what a call was read as is part of the reading. -/
theorem ask_bind_ofExcept {c : I.Call} (f : I.Reply c → Except ε α) (g : α → Except ε β) :
    (ask c f >>= fun a => ofExcept (g a)) = ask c fun r => f r >>= g := by
  show call c (fun r => ofExcept (f r) >>= fun a => ofExcept (g a)) = _
  unfold ask
  congr 1
  funext r
  show (ofExcept (f r) >>= fun a => ofExcept (g a)) = ofExcept (f r >>= g)
  cases f r <;> rfl

/-- Rethrowing what a call was read as is part of the reading. -/
theorem tryCatch_ask {c : I.Call} (f : I.Reply c → Except ε α) (h : ε → ε') :
    (ask c f).tryCatch (fun e => throw (h e)) = ask c fun r => (f r).mapError h := by
  show call c (fun r => (ofExcept (f r)).tryCatch fun e => throw (h e)) = _
  unfold ask
  congr 1
  funext r
  show (ofExcept (f r)).tryCatch (fun e => throw (h e)) = ofExcept ((f r).mapError h)
  cases f r <;> rfl

/-! ### Runs -/

/-- `p.Exec t o`: a run of `p` can make the calls of `t`, get the replies
recorded there, and end in `o`. -/
def Exec : Prog I ε α → List (Event I) → Outcome ε α → Prop
  | ret a, t, o => t = [] ∧ o = .returned a
  | throw e, t, o => t = [] ∧ o = .threw e
  | diverge, t, o => t = [] ∧ o = .diverged
  | call c k, t, o => ∃ r t', t = ⟨c, r⟩ :: t' ∧ (k r).Exec t' o

section Rules

variable {p : Prog I ε α} {f : α → Prog I ε β} {t : List (Event I)}

@[simp] theorem exec_ret {a : α} {o : Outcome ε α} :
    (ret a : Prog I ε α).Exec t o ↔ t = [] ∧ o = .returned a := Iff.rfl

@[simp] theorem exec_throw {e : ε} {o : Outcome ε α} :
    (throw e : Prog I ε α).Exec t o ↔ t = [] ∧ o = .threw e := Iff.rfl

@[simp] theorem exec_diverge {o : Outcome ε α} :
    (diverge : Prog I ε α).Exec t o ↔ t = [] ∧ o = .diverged := Iff.rfl

/-- A run begins with the call and its reply. -/
theorem exec_call {c : I.Call} {k : I.Reply c → Prog I ε α} {o : Outcome ε α} :
    (call c k).Exec t o ↔ ∃ r t', t = ⟨c, r⟩ :: t' ∧ (k r).Exec t' o := Iff.rfl

@[simp] theorem exec_ofExcept_ok {a : α} {o : Outcome ε α} :
    (ofExcept (.ok a) : Prog I ε α).Exec t o ↔ t = [] ∧ o = .returned a := Iff.rfl

@[simp] theorem exec_ofExcept_error {e : ε} {o : Outcome ε α} :
    (ofExcept (.error e) : Prog I ε α).Exec t o ↔ t = [] ∧ o = .threw e := Iff.rfl

/-- **Sequencing.**  A run of `p >>= f` is a returning run of `p` followed by a
run of `f`, or a run of `p` that does not return. -/
theorem exec_bind {o : Outcome ε β} :
    (p >>= f).Exec t o ↔
      (∃ a t₁ t₂, t = t₁ ++ t₂ ∧ p.Exec t₁ (.returned a) ∧ (f a).Exec t₂ o) ∨
      (∃ e, p.Exec t (.threw e) ∧ o = .threw e) ∨
      (p.Exec t .diverged ∧ o = .diverged) := by
  -- the first call of `p` is the first of the whole run; the induction splits what follows it
  change (p.bind f).Exec t o ↔ _
  induction p generalizing t with
  | ret a => simp [bind]
  | throw e => simp [bind]
  | diverge => simp [bind]
  | call c k ih =>
      simp only [bind, exec_call, ih]
      constructor
      · rintro ⟨r, t', rfl, ⟨a, t₁, t₂, rfl, h₁, h₂⟩ | ⟨e, h, ho⟩ | ⟨h, ho⟩⟩
        · exact .inl ⟨a, ⟨c, r⟩ :: t₁, t₂, rfl, ⟨r, t₁, rfl, h₁⟩, h₂⟩
        · exact .inr (.inl ⟨e, ⟨r, t', rfl, h⟩, ho⟩)
        · exact .inr (.inr ⟨⟨r, t', rfl, h⟩, ho⟩)
      · rintro (⟨a, t₁, t₂, rfl, ⟨r, t', rfl, h₁⟩, h₂⟩ |
          ⟨e, ⟨r, t', rfl, h⟩, ho⟩ | ⟨⟨r, t', rfl, h⟩, ho⟩)
        · exact ⟨r, t' ++ t₂, rfl, .inl ⟨a, t', t₂, rfl, h₁, h₂⟩⟩
        · exact ⟨r, t', rfl, .inr (.inl ⟨e, h, ho⟩)⟩
        · exact ⟨r, t', rfl, .inr (.inr ⟨h, ho⟩)⟩

/-- **Catching.**  A run of `try p catch h` is a run of `p` that does not throw,
or a throwing run of `p` followed by a run of the handler. -/
theorem exec_tryCatch {h : ε → Prog I ε' α} {o : Outcome ε' α} :
    (p.tryCatch h).Exec t o ↔
      (∃ a, p.Exec t (.returned a) ∧ o = .returned a) ∨
      (∃ e t₁ t₂, t = t₁ ++ t₂ ∧ p.Exec t₁ (.threw e) ∧ (h e).Exec t₂ o) ∨
      (p.Exec t .diverged ∧ o = .diverged) := by
  induction p generalizing t with
  | ret a => simp [tryCatch]
  | throw e => simp [tryCatch]
  | diverge => simp [tryCatch]
  | call c k ih =>
      simp only [tryCatch, exec_call, ih]
      constructor
      · rintro ⟨r, t', rfl, ⟨a, h₁, ho⟩ | ⟨e, t₁, t₂, rfl, h₁, h₂⟩ | ⟨h₁, ho⟩⟩
        · exact .inl ⟨a, ⟨r, t', rfl, h₁⟩, ho⟩
        · exact .inr (.inl ⟨e, ⟨c, r⟩ :: t₁, t₂, rfl, ⟨r, t₁, rfl, h₁⟩, h₂⟩)
        · exact .inr (.inr ⟨⟨r, t', rfl, h₁⟩, ho⟩)
      · rintro (⟨a, ⟨r, t', rfl, h₁⟩, ho⟩ |
          ⟨e, t₁, t₂, rfl, ⟨r, t', rfl, h₁⟩, h₂⟩ | ⟨⟨r, t', rfl, h₁⟩, ho⟩)
        · exact ⟨r, t', rfl, .inl ⟨a, h₁, ho⟩⟩
        · exact ⟨r, t' ++ t₂, rfl, .inr (.inl ⟨e, t', t₂, rfl, h₁, h₂⟩)⟩
        · exact ⟨r, t', rfl, .inr (.inr ⟨h₁, ho⟩)⟩

/-- A run of `p >>= f` that returns goes through a returning run of `p`. -/
theorem exec_bind_returned {b : β} :
    (p >>= f).Exec t (.returned b) ↔
      ∃ a t₁ t₂, t = t₁ ++ t₂ ∧ p.Exec t₁ (.returned a) ∧
        (f a).Exec t₂ (.returned b) := by
  simp [exec_bind]

/-- Computing on the returned value changes no call. -/
theorem exec_map {g : α → β} {o : Outcome ε β} :
    (p >>= fun a => pure (g a)).Exec t o ↔ ∃ o', p.Exec t o' ∧ o = o'.map g := by
  rw [exec_bind]
  constructor
  · rintro (⟨a, t₁, t₂, rfl, h, rfl, rfl⟩ | ⟨e, h, rfl⟩ | ⟨h, rfl⟩)
    · exact ⟨.returned a, by rwa [List.append_nil], rfl⟩
    · exact ⟨.threw e, h, rfl⟩
    · exact ⟨.diverged, h, rfl⟩
  · rintro ⟨a | e | _, h, rfl⟩
    · exact .inl ⟨a, t, [], (List.append_nil t).symm, h, rfl, rfl⟩
    · exact .inr (.inl ⟨e, h, rfl⟩)
    · exact .inr (.inr ⟨h, rfl⟩)

/-- A call, then the rest. -/
theorem exec_perform_bind {c : I.Call} {g : I.Reply c → Prog I ε β} {o : Outcome ε β} :
    (perform c >>= g).Exec t o ↔ ∃ r t', t = ⟨c, r⟩ :: t' ∧ (g r).Exec t' o := by
  rfl

/-- A call read by a pure computation, then the rest. -/
theorem exec_ask_bind {c : I.Call} {g : I.Reply c → Except ε α} {o : Outcome ε β} :
    (ask c g >>= f).Exec t o ↔
      (∃ r t' a, t = ⟨c, r⟩ :: t' ∧ g r = .ok a ∧ (f a).Exec t' o) ∨
      (∃ r e, t = [⟨c, r⟩] ∧ g r = .error e ∧ o = .threw e) := by
  show (∃ r t', t = ⟨c, r⟩ :: t' ∧ (ofExcept (g r) >>= f).Exec t' o) ↔ _
  constructor
  · rintro ⟨r, t', rfl, h⟩
    cases hr : g r with
    | ok a =>
        rw [hr] at h
        exact .inl ⟨r, t', a, rfl, hr, h⟩
    | error e =>
        rw [hr] at h
        obtain ⟨rfl, rfl⟩ := h
        exact .inr ⟨r, e, rfl, hr, rfl⟩
  · rintro (⟨r, t', a, rfl, hr, h⟩ | ⟨r, e, rfl, hr, rfl⟩)
    · refine ⟨r, t', rfl, ?_⟩
      rw [hr]
      exact h
    · refine ⟨r, [], rfl, ?_⟩
      rw [hr]
      exact ⟨rfl, rfl⟩

/-- A run of a call whose reply is read. -/
theorem exec_ask {c : I.Call} {g : I.Reply c → Except ε α} {o : Outcome ε α} :
    (ask c g).Exec t o ↔
      ∃ r, t = [⟨c, r⟩] ∧
        ((∃ a, g r = .ok a ∧ o = .returned a) ∨ (∃ e, g r = .error e ∧ o = .threw e)) := by
  show (∃ r t', t = ⟨c, r⟩ :: t' ∧ (ofExcept (g r)).Exec t' o) ↔ _
  constructor
  · rintro ⟨r, t', rfl, h⟩
    cases hr : g r with
    | ok a =>
        rw [hr] at h
        obtain ⟨rfl, rfl⟩ := h
        exact ⟨r, rfl, .inl ⟨a, hr, rfl⟩⟩
    | error e =>
        rw [hr] at h
        obtain ⟨rfl, rfl⟩ := h
        exact ⟨r, rfl, .inr ⟨e, hr, rfl⟩⟩
  · rintro ⟨r, rfl, ⟨a, hr, rfl⟩ | ⟨e, hr, rfl⟩⟩
    · exact ⟨r, [], rfl, by rw [hr]; exact ⟨rfl, rfl⟩⟩
    · exact ⟨r, [], rfl, by rw [hr]; exact ⟨rfl, rfl⟩⟩

/-- A pure computation, then the rest. -/
theorem exec_ofExcept_bind {x : Except ε α} {o : Outcome ε β} :
    (ofExcept x >>= f).Exec t o ↔
      (∃ a, x = .ok a ∧ (f a).Exec t o) ∨
      (∃ e, x = .error e ∧ t = [] ∧ o = .threw e) := by
  cases x <;> simp [exec_bind]

end Rules

/-! ### Bounding the calls -/

/-- Every call `p` can make satisfies `P`. -/
def Only (P : I.Call → Prop) : Prog I ε α → Prop
  | ret _ => True
  | throw _ => True
  | diverge => True
  | call c k => P c ∧ ∀ r, (k r).Only P

section Only

variable {P Q : I.Call → Prop} {p : Prog I ε α} {f : α → Prog I ε β}

@[simp] theorem only_pure {a : α} : (pure a : Prog I ε α).Only P := trivial

@[simp] theorem only_throw {e : ε} : (throw e : Prog I ε α).Only P := trivial

@[simp] theorem only_diverge : (diverge : Prog I ε α).Only P := trivial

@[simp] theorem only_perform {c : I.Call} : (perform c : Prog I ε (I.Reply c)).Only P ↔ P c := by
  simp [perform, Only]

@[simp] theorem only_ofExcept {x : Except ε α} : (ofExcept x : Prog I ε α).Only P := by
  cases x <;> trivial

theorem only_ask {c : I.Call} {g : I.Reply c → Except ε α} (h : P c) :
    (ask c g : Prog I ε α).Only P :=
  ⟨h, fun _ => only_ofExcept⟩

/-- A composition makes the calls of its parts. -/
theorem Only.bind (hp : p.Only P) (hf : ∀ a, (f a).Only P) : (p >>= f).Only P := by
  show (p.bind f).Only P
  induction p with
  | ret a => exact hf a
  | throw e => trivial
  | diverge => trivial
  | call c k ih => exact ⟨hp.1, fun r => ih r (hp.2 r)⟩

/-- A handler makes its own calls. -/
theorem Only.tryCatch {h : ε → Prog I ε' α} (hp : p.Only P) (hh : ∀ e, (h e).Only P) :
    (p.tryCatch h).Only P := by
  induction p with
  | ret a => trivial
  | throw e => exact hh e
  | diverge => trivial
  | call c k ih => exact ⟨hp.1, fun r => ih r (hp.2 r)⟩

/-- More calls may be allowed. -/
theorem Only.mono (hp : p.Only P) (h : ∀ c, P c → Q c) : p.Only Q := by
  induction p with
  | ret a => trivial
  | throw e => trivial
  | diverge => trivial
  | call c k ih => exact ⟨h c hp.1, fun r => ih r (hp.2 r)⟩

/-- All calls of a run are allowed ones. -/
theorem Only.exec {t : List (Event I)} {o : Outcome ε α} (hp : p.Only P) (h : p.Exec t o) :
    ∀ e ∈ t, P e.call := by
  induction p generalizing t with
  | ret a => rw [h.1]; simp
  | throw e => rw [h.1]; simp
  | diverge => rw [h.1]; simp
  | call c k ih =>
      obtain ⟨r, t', rfl, h'⟩ := h
      intro e he
      rcases List.mem_cons.mp he with rfl | he
      · exact hp.1
      · exact ih r (hp.2 r) h' e he

/-- An invariant the environment keeps on such calls is kept by every run. -/
theorem Only.invariant {S : Type*} {E : Lts S (Event I)} {J : S → Prop} {s s' : S}
    {t : List (Event I)} {o : Outcome ε α} (hp : p.Only P) (h : p.Exec t o) (hr : E.Run s t s')
    (hs : J s) (hstep : ∀ s e s', P e.call → J s → E.step s e s' → J s') : J s' :=
  hr.invariant_of (G := fun e => P e.call) hs (hp.exec h) hstep

/-- A call `p` does not make comes from what follows `p`. -/
theorem Only.skip {t₁ t₂ : List (Event I)} {e : Event I} {o : Outcome ε β} (hp : p.Only P)
    (he : ¬ P e.call) (h : (p >>= f).Exec (t₁ ++ e :: t₂) o) :
    ∃ a ta tb, t₁ = ta ++ tb ∧ p.Exec ta (.returned a) ∧ (f a).Exec (tb ++ e :: t₂) o := by
  rcases exec_bind.mp h with ⟨a, ta, t', heq, ha, hf⟩ | ⟨e', ht, -⟩ | ⟨ht, -⟩
  · rcases List.append_eq_append_iff.mp heq with ⟨tb, rfl, htail⟩ | ⟨tb, rfl, htail⟩
    · -- the call would be one of `p`'s, unless `p` has made its last one before it
      cases tb with
      | nil =>
          rw [List.nil_append] at htail
          refine ⟨a, t₁, [], (List.append_nil t₁).symm, by rwa [List.append_nil] at ha, ?_⟩
          rw [List.nil_append, htail]
          exact hf
      | cons e' tb =>
          obtain ⟨rfl, -⟩ := List.cons.inj htail
          exact absurd (hp.exec ha e (by simp)) he
    · rw [htail] at hf
      exact ⟨a, ta, tb, rfl, ha, hf⟩
  · exact absurd (hp.exec ht e (by simp)) he
  · exact absurd (hp.exec ht e (by simp)) he

end Only

/-! ### Bounding the errors -/

/-- Every error `p` can throw satisfies `Q`. -/
def Throws (Q : ε → Prop) : Prog I ε α → Prop
  | ret _ => True
  | throw e => Q e
  | diverge => True
  | call _ k => ∀ r, (k r).Throws Q

section Throws

variable {Q : ε → Prop} {p : Prog I ε α} {f : α → Prog I ε β}

theorem throws_ofExcept {x : Except ε α} (h : ∀ e, x = .error e → Q e) :
    (ofExcept x : Prog I ε α).Throws Q := by
  cases x with
  | ok a => trivial
  | error e => exact h e rfl

theorem throws_ask {c : I.Call} {g : I.Reply c → Except ε α} (h : ∀ r e, g r = .error e → Q e) :
    (ask c g : Prog I ε α).Throws Q :=
  fun r => throws_ofExcept (h r)

/-- A composition fails as its parts do. -/
theorem Throws.bind (hp : p.Throws Q) (hf : ∀ a, (f a).Throws Q) : (p >>= f).Throws Q := by
  show (p.bind f).Throws Q
  induction p with
  | ret a => exact hf a
  | throw e => exact hp
  | diverge => trivial
  | call c k ih => exact fun r => ih r (hp r)

/-- What a handler throws replaces what it catches. -/
theorem throws_tryCatch {Q' : ε' → Prop} {h : ε → Prog I ε' α} (hh : ∀ e, (h e).Throws Q') :
    (p.tryCatch h).Throws Q' := by
  induction p with
  | ret a => trivial
  | throw e => exact hh e
  | diverge => trivial
  | call c k ih => exact fun r => ih r

/-- A failing run fails in one of these ways. -/
theorem Throws.exec {t : List (Event I)} {e : ε} (hp : p.Throws Q) (h : p.Exec t (.threw e)) :
    Q e := by
  induction p generalizing t with
  | ret a => cases h.2
  | throw e' =>
      cases h.2
      exact hp
  | diverge => cases h.2
  | call c k ih =>
      obtain ⟨r, t', -, h'⟩ := h
      exact ih r (hp r) h'

end Throws

/-! ### Ending -/

/-- `p` ends whatever it is answered: it returns something in `A` or throws
something in `Q`, and is not cut off. -/
def Ends (A : α → Prop) (Q : ε → Prop) : Prog I ε α → Prop
  | ret a => A a
  | throw e => Q e
  | diverge => False
  | call _ k => ∀ r, (k r).Ends A Q

section Ends

variable {A : α → Prop} {Q : ε → Prop} {p : Prog I ε α}

theorem ends_ofExcept {x : Except ε α} (hA : ∀ a, x = .ok a → A a) (hQ : ∀ e, x = .error e → Q e) :
    (ofExcept x : Prog I ε α).Ends A Q := by
  cases x with
  | ok a => exact hA a rfl
  | error e => exact hQ e rfl

theorem ends_ask {c : I.Call} {g : I.Reply c → Except ε α} (hA : ∀ r a, g r = .ok a → A a)
    (hQ : ∀ r e, g r = .error e → Q e) : (ask c g : Prog I ε α).Ends A Q :=
  fun r => ends_ofExcept (hA r) (hQ r)

/-- A composition ends as its parts do. -/
theorem Ends.bind {f : α → Prog I ε β} {B : β → Prop} (hp : p.Ends A Q)
    (hf : ∀ a, A a → (f a).Ends B Q) : (p >>= f).Ends B Q := by
  show (p.bind f).Ends B Q
  induction p with
  | ret a => exact hf a hp
  | throw e => exact hp
  | diverge => exact hp.elim
  | call c k ih => exact fun r => ih r (hp r)

/-- A handler ends what has failed. -/
theorem Ends.tryCatch {Q' : ε' → Prop} {h : ε → Prog I ε' α} (hp : p.Ends A Q)
    (hh : ∀ e, Q e → (h e).Ends A Q') : (p.tryCatch h).Ends A Q' := by
  induction p with
  | ret a => exact hp
  | throw e => exact hh e hp
  | diverge => exact hp.elim
  | call c k ih => exact fun r => ih r (hp r)

/-- A run returns or fails in one of these ways. -/
theorem Ends.exec {t : List (Event I)} {o : Outcome ε α} (hp : p.Ends A Q) (h : p.Exec t o) :
    (∃ a, o = .returned a ∧ A a) ∨ ∃ e, o = .threw e ∧ Q e := by
  induction p generalizing t with
  | ret a => exact .inl ⟨a, h.2, hp⟩
  | throw e => exact .inr ⟨e, h.2, hp⟩
  | diverge => exact hp.elim
  | call c k ih =>
      obtain ⟨r, t', -, h'⟩ := h
      exact ih r (hp r) h'

end Ends

/-! ### Running against an environment -/

/-- The trace and the outcome of `p` when `env` answers its calls. -/
def play {S : Type*} (env : S → (c : I.Call) → I.Reply c × S) :
    Prog I ε α → S → List (Event I) × Outcome ε α
  | ret a, _ => ([], .returned a)
  | throw e, _ => ([], .threw e)
  | diverge, _ => ([], .diverged)
  | call c k, s =>
    let rest := (k (env s c).1).play env (env s c).2
    (⟨c, (env s c).1⟩ :: rest.1, rest.2)

/-- What is played is a run. -/
theorem play_exec {S : Type*} (env : S → (c : I.Call) → I.Reply c × S) (p : Prog I ε α)
    (s : S) : p.Exec (p.play env s).1 (p.play env s).2 := by
  induction p generalizing s with
  | ret a => exact ⟨rfl, rfl⟩
  | throw e => exact ⟨rfl, rfl⟩
  | diverge => exact ⟨rfl, rfl⟩
  | call c k ih => exact ⟨(env s c).1, _, rfl, ih _ _⟩

/-- Every reply of the trace is one of the environment's. -/
theorem play_replies {S : Type*} (env : S → (c : I.Call) → I.Reply c × S) (p : Prog I ε α) (s : S) :
    ∀ e ∈ (p.play env s).1, ∃ s', e.reply = (env s' e.call).1 := by
  induction p generalizing s with
  | ret a =>
      intro e he
      cases he
  | throw e =>
      intro e he
      cases he
  | diverge =>
      intro e he
      cases he
  | call c k ih =>
      intro e he
      rcases List.mem_cons.mp he with rfl | he
      · exact ⟨s, rfl⟩
      · exact ih _ _ e he

/-- The environment that answers by `env`, as a transition system. -/
def answering {S : Type*} (env : S → (c : I.Call) → I.Reply c × S) : Lts S (Event I) where
  step s e s' := e.reply = (env s e.call).1 ∧ s' = (env s e.call).2

/-- It is a run of the environment as well. -/
theorem play_run {S : Type*} (env : S → (c : I.Call) → I.Reply c × S) (p : Prog I ε α) (s : S) :
    ∃ s', (answering env).Run s (p.play env s).1 s' := by
  induction p generalizing s with
  | ret a => exact ⟨s, rfl⟩
  | throw e => exact ⟨s, rfl⟩
  | diverge => exact ⟨s, rfl⟩
  | call c k ih =>
      obtain ⟨s', hrest⟩ := ih (env s c).1 (env s c).2
      exact ⟨s', (env s c).2, ⟨rfl, rfl⟩, hrest⟩

end Prog

end Interaction
