/-
ControlPlane/Interaction/Finally.lean

`try { p } finally { cleanup }`: whether `p` returns or throws, the cleanup is run, and what
it throws replaces what `p` has come to.  A program that is cut off is not cleaned up after.

`Yields R p` says that `R` lists the runs of `p`, each with what it comes to, and that none is
cut off; there is a rule for a call, for sequencing and for cleaning up.
-/
import ControlPlane.Interaction.Prog

namespace Interaction

/-- How a program ends that is not cut off. -/
def Outcome.ended {ε α : Type} : Except ε α → Outcome ε α
  | .ok a => .returned a
  | .error e => .threw e

namespace Prog

variable {I : Interface} {ε α : Type}

/-- `try { p } finally { cleanup }` -/
def finallyDo : Prog I ε α → Prog I ε Unit → Prog I ε α
  | ret a, cleanup => cleanup >>= fun _ => ret a
  | throw e, cleanup => cleanup >>= fun _ => throw e
  | diverge, _ => diverge
  | call c k, cleanup => call c fun r => (k r).finallyDo cleanup

variable {p : Prog I ε α} {cleanup : Prog I ε Unit} {t : List (Event I)} {o : Outcome ε α}

/-- **Cleaning up.**  A run is one of `p` that comes to its end, followed by one of the
cleanup that ends as `p` has unless it throws; or it is cut off in `p`. -/
theorem exec_finallyDo : (p.finallyDo cleanup).Exec t o ↔
    (∃ x t₁ t₂, t = t₁ ++ t₂ ∧ p.Exec t₁ (.ended x) ∧
      (cleanup >>= fun _ => ofExcept x).Exec t₂ o) ∨ p.Exec t .diverged ∧ o = .diverged := by
  induction p generalizing t with
  | ret a =>
      constructor
      · intro h
        exact .inl ⟨.ok a, [], t, rfl, ⟨rfl, rfl⟩, h⟩
      · rintro (⟨x, t₁, t₂, rfl, ⟨rfl, hx⟩, h⟩ | ⟨⟨-, ho⟩, -⟩)
        · cases x with
          | ok b =>
              cases hx
              exact h
          | error e => cases hx
        · cases ho
  | throw e =>
      constructor
      · intro h
        exact .inl ⟨.error e, [], t, rfl, ⟨rfl, rfl⟩, h⟩
      · rintro (⟨x, t₁, t₂, rfl, ⟨rfl, hx⟩, h⟩ | ⟨⟨-, ho⟩, -⟩)
        · cases x with
          | ok b => cases hx
          | error e' =>
              cases hx
              exact h
        · cases ho
  | diverge =>
      constructor
      · rintro ⟨rfl, rfl⟩
        exact .inr ⟨⟨rfl, rfl⟩, rfl⟩
      · rintro (⟨x, t₁, t₂, rfl, ⟨rfl, hx⟩, h⟩ | ⟨⟨rfl, -⟩, rfl⟩)
        · cases x <;> cases hx
        · exact ⟨rfl, rfl⟩
  | call c k ih =>
      simp only [finallyDo, exec_call, ih]
      constructor
      · rintro ⟨r, t', rfl, ⟨x, t₁, t₂, rfl, h₁, h₂⟩ | ⟨h, ho⟩⟩
        · exact .inl ⟨x, ⟨c, r⟩ :: t₁, t₂, rfl, ⟨r, t₁, rfl, h₁⟩, h₂⟩
        · exact .inr ⟨⟨r, t', rfl, h⟩, ho⟩
      · rintro (⟨x, t₁, t₂, rfl, ⟨r, t', rfl, h₁⟩, h₂⟩ | ⟨⟨r, t', rfl, h⟩, ho⟩)
        · exact ⟨r, t' ++ t₂, rfl, .inl ⟨x, t', t₂, rfl, h₁, h₂⟩⟩
        · exact ⟨r, t', rfl, .inr ⟨h, ho⟩⟩

/-! ### The runs of a program -/

/-- The runs of `p` are those of `R`, and `p` comes to its end in each. -/
def Yields (R : List (Event I) → Except ε α → Prop) (p : Prog I ε α) : Prop :=
  ∀ t o, p.Exec t o ↔ ∃ x, o = .ended x ∧ R t x

section Yields

variable {β : Type} {R R' : List (Event I) → Except ε α → Prop}

theorem Yields.congr (h : p.Yields R) (hR : ∀ t x, R t x ↔ R' t x) : p.Yields R' := by
  intro t o
  rw [h t o]
  simp only [hR]

theorem yields_ofExcept {x : Except ε α} :
    (ofExcept x : Prog I ε α).Yields fun t y => t = [] ∧ y = x := by
  intro t o
  cases x with
  | ok a =>
      constructor
      · rintro ⟨rfl, rfl⟩
        exact ⟨.ok a, rfl, rfl, rfl⟩
      · rintro ⟨y, rfl, rfl, rfl⟩
        exact ⟨rfl, rfl⟩
  | error e =>
      constructor
      · rintro ⟨rfl, rfl⟩
        exact ⟨.error e, rfl, rfl, rfl⟩
      · rintro ⟨y, rfl, rfl, rfl⟩
        exact ⟨rfl, rfl⟩

theorem yields_ask {c : I.Call} {g : I.Reply c → Except ε α} :
    (ask c g).Yields fun t x => ∃ r, t = [⟨c, r⟩] ∧ x = g r := by
  intro t o
  show (∃ r t', t = ⟨c, r⟩ :: t' ∧ (ofExcept (g r)).Exec t' o) ↔ _
  constructor
  · rintro ⟨r, t', rfl, h⟩
    obtain ⟨x, ho, rfl, hx⟩ := (yields_ofExcept t' o).mp h
    exact ⟨x, ho, r, rfl, hx⟩
  · rintro ⟨x, ho, r, rfl, hx⟩
    exact ⟨r, [], rfl, (yields_ofExcept [] o).mpr ⟨x, ho, rfl, hx⟩⟩

theorem Yields.bind {f : α → Prog I ε β} {Q : α → List (Event I) → Except ε β → Prop}
    (hp : p.Yields R) (hf : ∀ a, (f a).Yields (Q a)) :
    (p >>= f).Yields fun t y => (∃ a t₁ t₂, t = t₁ ++ t₂ ∧ R t₁ (.ok a) ∧ Q a t₂ y) ∨
      ∃ e, R t (.error e) ∧ y = .error e := by
  intro t o
  rw [exec_bind]
  constructor
  · rintro (⟨a, t₁, t₂, rfl, h₁, h₂⟩ | ⟨e, h, rfl⟩ | ⟨h, -⟩)
    · obtain ⟨x, hx, hR⟩ := (hp t₁ _).mp h₁
      obtain ⟨y, rfl, hQ⟩ := (hf a t₂ o).mp h₂
      cases x with
      | ok b =>
          cases hx
          exact ⟨y, rfl, .inl ⟨a, t₁, t₂, rfl, hR, hQ⟩⟩
      | error e => cases hx
    · obtain ⟨x, hx, hR⟩ := (hp t _).mp h
      cases x with
      | ok b => cases hx
      | error e' =>
          cases hx
          exact ⟨.error e, rfl, .inr ⟨e, hR, rfl⟩⟩
    · obtain ⟨x, hx, -⟩ := (hp t _).mp h
      cases x <;> cases hx
  · rintro ⟨y, rfl, ⟨a, t₁, t₂, rfl, h₁, h₂⟩ | ⟨e, h, rfl⟩⟩
    · exact .inl ⟨a, t₁, t₂, rfl, (hp t₁ _).mpr ⟨.ok a, rfl, h₁⟩, (hf a t₂ _).mpr ⟨y, rfl, h₂⟩⟩
    · exact .inr (.inl ⟨e, (hp t _).mpr ⟨.error e, rfl, h⟩, rfl⟩)

/-- What an error is turned into is what a run comes to that throws it. -/
def recovered (f : ε → α) : Except ε α → α
  | .ok a => a
  | .error e => f e

theorem Yields.recover {ε' : Type} {f : ε → α} (hp : p.Yields R) :
    (p.tryCatch fun e => (pure (f e) : Prog I ε' α)).Yields fun t x =>
      ∃ y, R t y ∧ x = .ok (recovered f y) := by
  intro t o
  rw [exec_tryCatch]
  constructor
  · rintro (⟨a, h, rfl⟩ | ⟨e, t₁, t₂, rfl, h, rfl, rfl⟩ | ⟨h, -⟩)
    · obtain ⟨y, hy, hR⟩ := (hp t _).mp h
      cases y with
      | ok b =>
          cases hy
          exact ⟨.ok a, rfl, .ok a, hR, rfl⟩
      | error e => cases hy
    · obtain ⟨y, hy, hR⟩ := (hp t₁ _).mp h
      cases y with
      | ok b => cases hy
      | error e' =>
          cases hy
          refine ⟨.ok (f e), rfl, .error e, ?_, rfl⟩
          rwa [List.append_nil]
    · obtain ⟨y, hy, -⟩ := (hp t _).mp h
      cases y <;> cases hy
  · rintro ⟨x, rfl, y, hR, rfl⟩
    cases y with
    | ok a => exact .inl ⟨a, (hp t _).mpr ⟨.ok a, rfl, hR⟩, rfl⟩
    | error e =>
        exact .inr (.inl ⟨e, t, [], (List.append_nil t).symm,
          (hp t _).mpr ⟨.error e, rfl, hR⟩, rfl, rfl⟩)

/-- The cleanup comes after every run, and only its own error hides what that came to. -/
theorem Yields.finallyDo {C : List (Event I) → Except ε Unit → Prop} (hp : p.Yields R)
    (hc : cleanup.Yields C) :
    (p.finallyDo cleanup).Yields fun t y => ∃ x t₁ t₂, t = t₁ ++ t₂ ∧ R t₁ x ∧
      (C t₂ (.ok ()) ∧ y = x ∨ ∃ e, C t₂ (.error e) ∧ y = .error e) := by
  have hafter : ∀ x : Except ε α, (cleanup >>= fun _ => ofExcept x).Yields _ :=
    fun x => hc.bind fun _ => yields_ofExcept
  intro t o
  rw [exec_finallyDo]
  constructor
  · rintro (⟨x, t₁, t₂, rfl, h₁, h₂⟩ | ⟨h, -⟩)
    · obtain ⟨x', hx', hR⟩ := (hp t₁ _).mp h₁
      have hx : x = x' := by cases x <;> cases x' <;> cases hx' <;> rfl
      obtain ⟨y, rfl, ⟨_, t₃, t₄, rfl, h₃, rfl, hy⟩ | ⟨e, h₂, hy⟩⟩ := (hafter x t₂ o).mp h₂
      · exact ⟨y, rfl, x, t₁, t₃, by rw [List.append_nil], hx ▸ hR, .inl ⟨h₃, hy⟩⟩
      · exact ⟨y, rfl, x, t₁, t₂, rfl, hx ▸ hR, .inr ⟨e, h₂, hy⟩⟩
    · obtain ⟨x, hx, -⟩ := (hp t _).mp h
      cases x <;> cases hx
  · rintro ⟨y, rfl, x, t₁, t₂, rfl, h₁, ⟨h₂, hy⟩ | ⟨e, h₂, hy⟩⟩
    · have hR := (hp t₁ _).mpr ⟨x, rfl, h₁⟩
      refine .inl ⟨x, t₁, t₂, rfl, hR, (hafter x t₂ _).mpr ⟨y, rfl, .inl ?_⟩⟩
      exact ⟨(), t₂, [], (List.append_nil t₂).symm, h₂, rfl, hy⟩
    · have hR := (hp t₁ _).mpr ⟨x, rfl, h₁⟩
      refine .inl ⟨x, t₁, t₂, rfl, hR, (hafter x t₂ _).mpr ⟨y, rfl, .inr ?_⟩⟩
      exact ⟨e, h₂, hy⟩

end Yields

end Prog

end Interaction
