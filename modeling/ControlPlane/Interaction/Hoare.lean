/-
ControlPlane/Interaction/Hoare.lean

Preconditions and postconditions of programs whose calls act on a state.  The
environment is a transition system over the calls with their replies, so it may
answer a call in many ways; a triple speaks of all of them.

A program ends by returning or otherwise (by throwing, or cut off), and a triple
has a postcondition for each: `Triple E P p Q R` says that from a state satisfying
`P` a returning run ends in `Q` of what it returned, and any other in `R`.
There is one rule for each way to build a program, and `Only.triple` for a part
whose every call keeps an invariant.
-/
import ControlPlane.Interaction.Prog

namespace Interaction

namespace Prog

variable {I : Interface} {ε α β : Type} {S : Type*} {E : Lts S (Event I)}

/-- Every run of `p` in `E` from a state in `P` ends in `Q a` if it returns `a`, and
in `R` if it does not return. -/
def Triple (E : Lts S (Event I)) (P : S → Prop) (p : Prog I ε α) (Q : α → S → Prop)
    (R : S → Prop) : Prop :=
  ∀ s t o s', P s → p.Exec t o → E.Run s t s' →
    (∀ a, o = .returned a → Q a s') ∧ ((∀ a, o ≠ .returned a) → R s')

section Rules

variable {P P' : S → Prop} {Q Q' : α → S → Prop} {R R' : S → Prop} {p : Prog I ε α}

theorem Triple.mono (h : Triple E P p Q R) (hP : ∀ s, P' s → P s) (hQ : ∀ a s, Q a s → Q' a s)
    (hR : ∀ s, R s → R' s) : Triple E P' p Q' R' := by
  intro s t o s' hs hx hr
  obtain ⟨hreturned, hother⟩ := h s t o s' (hP s hs) hx hr
  exact ⟨fun a ho => hQ a s' (hreturned a ho), fun ho => hR s' (hother ho)⟩

theorem triple_pure {a : α} (h : ∀ s, P s → Q a s) : Triple E P (pure a : Prog I ε α) Q R := by
  rintro s t o s' hs ⟨rfl, rfl⟩ hr
  rw [Lts.run_nil.mp hr]
  refine ⟨?_, fun hne => absurd rfl (hne a)⟩
  rintro a' ⟨⟩
  exact h s hs

theorem triple_throw {e : ε} (h : ∀ s, P s → R s) : Triple E P (throw e : Prog I ε α) Q R := by
  rintro s t o s' hs ⟨rfl, rfl⟩ hr
  rw [Lts.run_nil.mp hr]
  exact ⟨fun a ho => (nomatch ho), fun _ => h s hs⟩

/-- A call, by what it is answered with and read as. -/
theorem triple_ask {c : I.Call} {g : I.Reply c → Except ε α}
    (hok : ∀ s r s' a, P s → E.step s ⟨c, r⟩ s' → g r = .ok a → Q a s')
    (herror : ∀ s r s' e, P s → E.step s ⟨c, r⟩ s' → g r = .error e → R s') :
    Triple E P (ask c g) Q R := by
  intro s t o s' hs hx hr
  obtain ⟨r, rfl, ⟨a, hg, rfl⟩ | ⟨e, hg, rfl⟩⟩ := exec_ask.mp hx
  · rw [Lts.run_singleton] at hr
    refine ⟨?_, fun hne => absurd rfl (hne a)⟩
    rintro a' ⟨⟩
    exact hok s r s' a hs hr hg
  · rw [Lts.run_singleton] at hr
    exact ⟨fun a ho => (nomatch ho), fun _ => herror s r s' e hs hr hg⟩

/-- **Sequencing**: what the first part returns with is what the second starts
from. -/
theorem Triple.bind {f : α → Prog I ε β} {Q' : β → S → Prop} (hp : Triple E P p Q R)
    (hf : ∀ a, Triple E (Q a) (f a) Q' R) : Triple E P (p >>= f) Q' R := by
  intro s t o s' hs hx hr
  rcases exec_bind.mp hx with ⟨a, t₁, t₂, rfl, h₁, h₂⟩ | ⟨e, h, rfl⟩ | ⟨h, rfl⟩
  · obtain ⟨m, hr₁, hr₂⟩ := Lts.run_append.mp hr
    exact hf a m t₂ o s' ((hp s t₁ _ m hs h₁ hr₁).1 a rfl) h₂ hr₂
  · exact ⟨fun b ho => (nomatch ho), fun _ => (hp s t _ s' hs h hr).2 fun a ho => (nomatch ho)⟩
  · exact ⟨fun b ho => (nomatch ho), fun _ => (hp s t _ s' hs h hr).2 fun a ho => (nomatch ho)⟩

/-- A pure computation, then the rest. -/
theorem triple_ofExcept_bind {x : Except ε α} {f : α → Prog I ε β} {Q' : β → S → Prop}
    (hok : ∀ a, x = .ok a → Triple E P (f a) Q' R)
    (herror : ∀ e, x = .error e → ∀ s, P s → R s) : Triple E P (ofExcept x >>= f) Q' R := by
  cases x with
  | ok a => exact hok a rfl
  | error e => exact triple_throw (herror e rfl)

/-- A fact about no state can be used as a hypothesis. -/
theorem triple_of_fact {A : Prop} (h : A → Triple E P p Q R) :
    Triple E (fun s => A ∧ P s) p Q R := by
  rintro s t o s' ⟨ha, hs⟩ hx hr
  exact h ha s t o s' hs hx hr

/-- A part whose calls all keep `J`, and of whose result `A` is known. -/
theorem Only.triple {C : I.Call → Prop} {J : S → Prop} {A : α → Prop} (hp : p.Only C)
    (hJ : ∀ s e s', C e.call → J s → E.step s e s' → J s')
    (hA : ∀ t a, p.Exec t (.returned a) → A a) : Triple E J p (fun a s => A a ∧ J s) J := by
  intro s t o s' hs hx hr
  have hend : J s' := hp.invariant hx hr hs hJ
  refine ⟨?_, fun _ => hend⟩
  rintro a rfl
  exact ⟨hA t a hx, hend⟩

end Rules

end Prog

end Interaction
