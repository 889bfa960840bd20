/-
ControlPlane/Interaction/Lockstep.lean

Two runs side by side.  A `Pairing` says which calls show the same to an observer,
and how two such calls are answered: its transition system goes over pairs of
events, so what is common to the two environments is its state.

`Agree E s t t'` is the assumption on two traces: as long as the calls show the
same, the answers are those of the pairing.  Of calls that differ nothing is
assumed.  `Lockstep E Q p p' s` is the conclusion to reach about two programs: from
`s` on they make calls that show the same, however these are answered, and end alike.
`Lockstep.exec` connects the two.

There is one rule for each way to build a program, and `Only.lockstep` for a program
whose calls are answered the same in both runs.
-/
import ControlPlane.Interaction.Prog
import Mathlib.Data.List.Forall2

namespace Interaction

/-- How two runs are compared. -/
structure Pairing (I : Interface) (S : Type) where
  /-- the two calls show the same -/
  same : I.Call → I.Call → Prop
  /-- how they are answered -/
  answers : Lts S (Event I × Event I)

section Agree

variable {I : Interface} {S : Type}

/-- As long as the calls show the same, they are answered as the pairing says. -/
def Agree (E : Pairing I S) : S → List (Event I) → List (Event I) → Prop
  | s, e :: t, e' :: t' =>
    E.same e.call e'.call → ∃ s', E.answers.step s (e, e') s' ∧ Agree E s' t t'
  | _, _, _ => True

end Agree

namespace Prog

variable {I : Interface} {ε ε' α α' β β' : Type} {S : Type} {E : Pairing I S}

/-- The two programs make calls that show the same, and end alike: both return, with
`Q`, or both throw, or both are cut off. -/
def Lockstep (E : Pairing I S) (Q : S → α → α' → Prop) : Prog I ε α → Prog I ε' α' → S → Prop
  | ret a, ret a', s => Q s a a'
  | throw _, throw _, _ => True
  | diverge, diverge, _ => True
  | call c k, call c' k', s => E.same c c' ∧
    ∀ r r' s', E.answers.step s (⟨c, r⟩, ⟨c', r'⟩) s' → Lockstep E Q (k r) (k' r') s'
  | _, _, _ => False

section Rules

variable {Q Q' : S → α → α' → Prop} {p : Prog I ε α} {p' : Prog I ε' α'} {s : S}

/-- Two results that are related. -/
theorem lockstep_pure {a : α} {a' : α'} (h : Q s a a') :
    Lockstep E Q (pure a : Prog I ε α) (pure a' : Prog I ε' α') s := h

/-- Both fail. -/
theorem lockstep_throw {e : ε} {e' : ε'} :
    Lockstep E Q (throw e : Prog I ε α) (throw e' : Prog I ε' α') s := trivial

theorem lockstep_diverge :
    Lockstep E Q (diverge : Prog I ε α) (diverge : Prog I ε' α') s := trivial

/-- The results may be related by less. -/
theorem Lockstep.mono (h : Lockstep E Q p p' s) (hQ : ∀ s a a', Q s a a' → Q' s a a') :
    Lockstep E Q' p p' s := by
  induction p generalizing p' s with
  | ret a =>
      cases p' with
      | ret a' => exact hQ s a a' h
      | throw | diverge | call => cases h
  | throw e =>
      cases p' with
      | throw e' => trivial
      | ret | diverge | call => cases h
  | diverge =>
      cases p' with
      | diverge => trivial
      | ret | throw | call => cases h
  | call c k ih =>
      cases p' with
      | call c' k' => exact ⟨h.1, fun r r' s' hstep => ih r (h.2 r r' s' hstep)⟩
      | ret | throw | diverge => cases h

/-- **Sequencing**: what follows may use what the first parts returned with. -/
theorem Lockstep.bind {R : S → β → β' → Prop} {f : α → Prog I ε β} {f' : α' → Prog I ε' β'}
    (h : Lockstep E Q p p' s) (hf : ∀ s a a', Q s a a' → Lockstep E R (f a) (f' a') s) :
    Lockstep E R (p >>= f) (p' >>= f') s := by
  show Lockstep E R (p.bind f) (p'.bind f') s
  induction p generalizing p' s with
  | ret a =>
      cases p' with
      | ret a' => exact hf s a a' h
      | throw | diverge | call => cases h
  | throw e =>
      cases p' with
      | throw e' => trivial
      | ret | diverge | call => cases h
  | diverge =>
      cases p' with
      | diverge => trivial
      | ret | throw | call => cases h
  | call c k ih =>
      cases p' with
      | call c' k' => exact ⟨h.1, fun r r' s' hstep => ih r (h.2 r r' s' hstep)⟩
      | ret | throw | diverge => cases h

/-- **Catching**: of the two errors nothing is known. -/
theorem Lockstep.tryCatch {ε₁ ε₁' : Type} {f : ε → Prog I ε₁ α} {f' : ε' → Prog I ε₁' α'}
    (h : Lockstep E Q p p' s) (hf : ∀ s e e', Lockstep E Q (f e) (f' e') s) :
    Lockstep E Q (p.tryCatch f) (p'.tryCatch f') s := by
  induction p generalizing p' s with
  | ret a =>
      cases p' with
      | ret a' => exact h
      | throw | diverge | call => cases h
  | throw e =>
      cases p' with
      | throw e' => exact hf s e e'
      | ret | diverge | call => cases h
  | diverge =>
      cases p' with
      | diverge => trivial
      | ret | throw | call => cases h
  | call c k ih =>
      cases p' with
      | call c' k' => exact ⟨h.1, fun r r' s' hstep => ih r (h.2 r r' s' hstep)⟩
      | ret | throw | diverge => cases h

/-- Two pure computations that both return, with `Q`, or both throw. -/
def BothOr (Q : α → α' → Prop) (x : Except ε α) (x' : Except ε' α') : Prop :=
  (∃ a a', x = .ok a ∧ x' = .ok a' ∧ Q a a') ∨ ∃ e e', x = .error e ∧ x' = .error e'

theorem bothOr_refl {Q : α → α → Prop} (hQ : ∀ a, Q a a) (x : Except ε α) : BothOr Q x x := by
  cases x with
  | ok a => exact .inl ⟨a, a, rfl, rfl, hQ a⟩
  | error e => exact .inr ⟨e, e, rfl, rfl⟩

/-- Two computations one after the other. -/
theorem BothOr.bind {R : β → β' → Prop} {Q : α → α' → Prop} {x : Except ε α} {x' : Except ε' α'}
    {f : α → Except ε β} {f' : α' → Except ε' β'} (h : BothOr Q x x')
    (hf : ∀ a a', Q a a' → BothOr R (f a) (f' a')) : BothOr R (x >>= f) (x' >>= f') := by
  obtain ⟨a, a', rfl, rfl, ha⟩ | ⟨e, e', rfl, rfl⟩ := h
  · exact hf a a' ha
  · exact .inr ⟨e, e', rfl, rfl⟩

/-- Two computations without a call. -/
theorem lockstep_ofExcept {x : Except ε α} {x' : Except ε' α'} (h : BothOr (Q s) x x') :
    Lockstep E Q (ofExcept x : Prog I ε α) (ofExcept x' : Prog I ε' α') s := by
  obtain ⟨a, a', rfl, rfl, ha⟩ | ⟨e, e', rfl, rfl⟩ := h
  · exact ha
  · trivial

/-- A call on each side, by what they are answered with and read as. -/
theorem lockstep_ask {c c' : I.Call} {g : I.Reply c → Except ε α} {g' : I.Reply c' → Except ε' α'}
    (hsame : E.same c c') (hread : ∀ r r' s', E.answers.step s (⟨c, r⟩, ⟨c', r'⟩) s' →
      BothOr (Q s') (g r) (g' r')) :
    Lockstep E Q (ask c g) (ask c' g') s :=
  ⟨hsame, fun r r' s' hstep => lockstep_ofExcept (hread r r' s' hstep)⟩

/-- Two calls that look the same. -/
theorem lockstep_perform {c c' : I.Call} {Q : S → I.Reply c → I.Reply c' → Prop}
    (hsame : E.same c c') (hread : ∀ r r' s', E.answers.step s (⟨c, r⟩, ⟨c', r'⟩) s' → Q s' r r') :
    Lockstep E Q (perform c : Prog I ε _) (perform c' : Prog I ε' _) s :=
  ⟨hsame, hread⟩

/-- **One program on both sides**, when its calls are answered the same and change nothing. -/
theorem Only.lockstep {G : I.Call → Prop} (hp : p.Only G) (hsame : ∀ c, G c → E.same c c)
    (hreply : ∀ s c r r' s', G c → E.answers.step s (⟨c, r⟩, ⟨c, r'⟩) s' → s' = s ∧ r = r') :
    Lockstep E (fun s' a a' => s' = s ∧ a = a') p p s := by
  induction p with
  | ret a => exact ⟨rfl, rfl⟩
  | throw e => trivial
  | diverge => trivial
  | call c k ih =>
      refine ⟨hsame c hp.1, ?_⟩
      intro r r' s' hstep
      obtain ⟨rfl, rfl⟩ := hreply s c r r' s' hp.1 hstep
      exact ih r (hp.2 r)

/-- **Two runs of programs in lockstep**: their calls show the same, one after another. -/
theorem Lockstep.exec {t t' : List (Event I)} {o : Outcome ε α} {o' : Outcome ε' α'}
    (h : Lockstep E Q p p' s) (hp : p.Exec t o) (hp' : p'.Exec t' o') (ha : Agree E s t t') :
    List.Forall₂ (fun e e' => E.same e.call e'.call) t t' := by
  induction p generalizing p' s t t' with
  | ret a =>
      cases p' with
      | ret a' =>
          rw [hp.1, hp'.1]
          exact .nil
      | throw | diverge | call => cases h
  | throw e =>
      cases p' with
      | throw e' =>
          rw [hp.1, hp'.1]
          exact .nil
      | ret | diverge | call => cases h
  | diverge =>
      cases p' with
      | diverge =>
          rw [hp.1, hp'.1]
          exact .nil
      | ret | throw | call => cases h
  | call c k ih =>
      cases p' with
      | call c' k' =>
          obtain ⟨r, t, rfl, hp⟩ := hp
          obtain ⟨r', t', rfl, hp'⟩ := hp'
          -- the calls show the same, so the traces agree on the answers as well
          obtain ⟨s', hstep, ha⟩ := ha h.1
          exact .cons h.1 (ih r (h.2 r r' s' hstep) hp hp' ha)
      | ret | throw | diverge => cases h

end Rules

end Prog

end Interaction
