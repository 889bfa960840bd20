/-
ControlPlane/Interaction/Once.lean

Runs that are still going, and programs that make one call exactly once.

`After p t q` says that `p` has made the calls of `t`, got the replies recorded
there, and has `q` left to do.  A run that is waiting for a reply that may never
come is one of these, so a statement about every `t` and `q` is also about the
replies the environment withholds.

`Once c B A p` says that `p`, whatever it is answered, makes the call `c` once,
only calls in `B` before it and only calls in `A` after it, and then returns.
`Once.after` is what this means for a run at any moment.

`Always P past p` bounds each call of `p` by the calls and replies before it, of
which `past` were made before `p` started.
-/
import ControlPlane.Interaction.Prog

namespace Interaction

namespace Prog

variable {I : Interface} {ε ε' α β : Type}

/-! ### Runs that are still going -/

/-- `p.After t q`: having made the calls of `t`, with the replies recorded there, `p`
has `q` left to do. -/
def After : Prog I ε α → List (Event I) → Prog I ε α → Prop
  | ret a, t, q => t = [] ∧ q = ret a
  | throw e, t, q => t = [] ∧ q = throw e
  | diverge, t, q => t = [] ∧ q = diverge
  | call c k, t, q => (t = [] ∧ q = call c k) ∨ ∃ r t', t = ⟨c, r⟩ :: t' ∧ (k r).After t' q

section After

variable {p q : Prog I ε α} {t : List (Event I)}

theorem after_call {c : I.Call} {k : I.Reply c → Prog I ε α} :
    (call c k).After t q ↔
      (t = [] ∧ q = call c k) ∨ ∃ r t', t = ⟨c, r⟩ :: t' ∧ (k r).After t' q := Iff.rfl

/-- A run that has ended has nothing left to do. -/
theorem Exec.after {o : Outcome ε α} (h : p.Exec t o) : ∃ q, p.After t q := by
  induction p generalizing t with
  | ret a => exact ⟨_, h.1, rfl⟩
  | throw e => exact ⟨_, h.1, rfl⟩
  | diverge => exact ⟨_, h.1, rfl⟩
  | call c k ih =>
      obtain ⟨r, t', rfl, h'⟩ := h
      obtain ⟨q, hq⟩ := ih r h'
      exact ⟨q, .inr ⟨r, t', rfl, hq⟩⟩

/-- A run goes through each of its calls. -/
theorem After.split {t₁ t₂ : List (Event I)} {e : Event I} (h : p.After (t₁ ++ e :: t₂) q) :
    ∃ k, p.After t₁ (call e.call k) ∧ (k e.reply).After t₂ q := by
  induction p generalizing t₁ with
  | ret a => simp [After] at h
  | throw e => simp [After] at h
  | diverge => simp [After] at h
  | call c k ih =>
      rcases h with ⟨heq, -⟩ | ⟨r, t', heq, h⟩
      · simp at heq
      · cases t₁ with
        | nil =>
            obtain ⟨rfl, rfl⟩ := List.cons.inj heq
            exact ⟨k, .inl ⟨rfl, rfl⟩, h⟩
        | cons e' t₁ =>
            obtain ⟨rfl, rfl⟩ := List.cons.inj heq
            obtain ⟨k', hbefore, hafter⟩ := ih r h
            exact ⟨k', .inr ⟨r, t₁, rfl, hbefore⟩, hafter⟩

/-- The calls made so far, and those still to come, are calls of the program. -/
theorem Only.after {P : I.Call → Prop} (hp : p.Only P) (h : p.After t q) :
    (∀ e ∈ t, P e.call) ∧ q.Only P := by
  induction p generalizing t with
  | ret a =>
      obtain ⟨rfl, rfl⟩ := h
      exact ⟨by simp, hp⟩
  | throw e =>
      obtain ⟨rfl, rfl⟩ := h
      exact ⟨by simp, hp⟩
  | diverge =>
      obtain ⟨rfl, rfl⟩ := h
      exact ⟨by simp, hp⟩
  | call c k ih =>
      rcases h with ⟨rfl, rfl⟩ | ⟨r, t', rfl, h⟩
      · exact ⟨by simp, hp⟩
      · obtain ⟨ht, hq⟩ := ih r (hp.2 r) h
        refine ⟨?_, hq⟩
        intro e he
        rcases List.mem_cons.mp he with rfl | he
        · exact hp.1
        · exact ht e he

/-- A run of `p >>= f` is still in `p`, or `p` has returned and it is in `f`. -/
theorem after_bind {f : α → Prog I ε β} {q : Prog I ε β} (h : (p >>= f).After t q) :
    (∃ q', p.After t q') ∨
      ∃ a t₁ t₂, t = t₁ ++ t₂ ∧ p.Exec t₁ (.returned a) ∧ (f a).After t₂ q := by
  change (p.bind f).After t q at h
  induction p generalizing t with
  | ret a => exact .inr ⟨a, [], t, rfl, ⟨rfl, rfl⟩, h⟩
  | throw e => exact .inl ⟨_, h.1, rfl⟩
  | diverge => exact .inl ⟨_, h.1, rfl⟩
  | call c k ih =>
      rcases h with ⟨rfl, -⟩ | ⟨r, t', rfl, h⟩
      · exact .inl ⟨_, .inl ⟨rfl, rfl⟩⟩
      · rcases ih r h with ⟨q', hq'⟩ | ⟨a, t₁, t₂, rfl, hp, hf⟩
        · exact .inl ⟨q', .inr ⟨r, t', rfl, hq'⟩⟩
        · exact .inr ⟨a, ⟨c, r⟩ :: t₁, t₂, rfl, ⟨r, t₁, rfl, hp⟩, hf⟩

/-- A run of a call that is read and gone on with: it waits for the reply, has failed on
it, or has gone on. -/
theorem after_ask_bind {c : I.Call} {g : I.Reply c → Except ε α} {f : α → Prog I ε β}
    {q : Prog I ε β} (h : (ask c g >>= f).After t q) :
    t = [] ∨ (∃ r e, t = [⟨c, r⟩] ∧ g r = .error e) ∨
      ∃ r a t', t = ⟨c, r⟩ :: t' ∧ g r = .ok a ∧ (f a).After t' q := by
  rcases h with ⟨ht, -⟩ | ⟨r, t', rfl, h⟩
  · exact .inl ht
  · change ((ofExcept (g r)).bind f).After t' q at h
    cases hread : g r with
    | error e =>
        rw [hread] at h
        obtain ⟨rfl, -⟩ := h
        exact .inr (.inl ⟨r, e, rfl, hread⟩)
    | ok a =>
        rw [hread] at h
        exact .inr (.inr ⟨r, a, t', rfl, hread, h⟩)

theorem Ends.after {A : α → Prop} {Q : ε → Prop} (hp : p.Ends A Q) (h : p.After t q) :
    q.Ends A Q := by
  induction p generalizing t with
  | ret a =>
      obtain ⟨-, rfl⟩ := h
      exact hp
  | throw e =>
      obtain ⟨-, rfl⟩ := h
      exact hp
  | diverge => exact hp.elim
  | call c k ih =>
      rcases h with ⟨-, rfl⟩ | ⟨r, t', -, h⟩
      · exact hp
      · exact ih r (hp r) h

end After

/-! ### Programs that return -/

/-- `p` returns, whatever it is answered. -/
def Returns (p : Prog I ε α) : Prop := p.Ends (fun _ => True) (fun _ => False)

section Returns

variable {p : Prog I ε α} {f : α → Prog I ε β}

theorem returns_pure {a : α} : (pure a : Prog I ε α).Returns := trivial

theorem returns_call {c : I.Call} {k : I.Reply c → Prog I ε α} (h : ∀ r, (k r).Returns) :
    (call c k).Returns := h

theorem Returns.bind (hp : p.Returns) (hf : ∀ a, (f a).Returns) : (p >>= f).Returns :=
  Ends.bind hp fun a _ => hf a

theorem Returns.ends {Q : ε → Prop} (hp : p.Returns) : p.Ends (fun _ => True) Q := by
  induction p with
  | ret a => trivial
  | throw e => exact hp.elim
  | diverge => exact hp.elim
  | call c k ih => exact fun r => ih r (hp r)

/-- A handler that returns makes a program of one that ends. -/
theorem Ends.returns {A : α → Prop} {Q : ε → Prop} {h : ε → Prog I ε' α} (hp : p.Ends A Q)
    (hh : ∀ e, Q e → (h e).Returns) : (p.tryCatch h).Returns := by
  induction p with
  | ret a => trivial
  | throw e => exact hh e hp
  | diverge => exact hp.elim
  | call c k ih => exact fun r => ih r (hp r)

end Returns

/-! ### One call, once -/

/-- Whatever it is answered, `p` makes the call `c` once, with calls in `B` before it
and calls in `A` after it, and returns. -/
def Once (c : I.Call) (B A : I.Call → Prop) : Prog I ε α → Prop
  | ret _ => False
  | throw _ => False
  | diverge => False
  | call c' k =>
    (c' = c ∧ ∀ r, (k r).Only A ∧ (k r).Returns) ∨ (B c' ∧ ∀ r, (k r).Once c B A)

section Once

variable {c : I.Call} {B A : I.Call → Prop} {p q : Prog I ε α} {t : List (Event I)}

theorem once_call {k : I.Reply c → Prog I ε α} (h : ∀ r, (k r).Only A) (h' : ∀ r, (k r).Returns) :
    (call c k).Once c B A :=
  .inl ⟨rfl, fun r => ⟨h r, h' r⟩⟩

theorem once_call_of_before {c' : I.Call} {k : I.Reply c' → Prog I ε α} (hc : B c')
    (h : ∀ r, (k r).Once c B A) : (call c' k).Once c B A :=
  .inr ⟨hc, h⟩

/-- A part that only makes calls of the kind before. -/
theorem Only.once {f : α → Prog I ε β} (hp : p.Only B) (hreturns : p.Returns)
    (hf : ∀ a, (f a).Once c B A) : (p >>= f).Once c B A := by
  show (p.bind f).Once c B A
  induction p with
  | ret a => exact hf a
  | throw e => exact hreturns.elim
  | diverge => exact hreturns.elim
  | call c' k ih => exact .inr ⟨hp.1, fun r => ih r (hp.2 r) (hreturns r)⟩

/-- **A run of such a program at any moment**: either the call is still to come, or
it has been made, once, and what is left returns without it. -/
theorem Once.after (hp : p.Once c B A) (h : p.After t q) :
    ((∀ e ∈ t, B e.call) ∧ q.Once c B A) ∨
      ∃ t₁ r t₂, t = t₁ ++ ⟨c, r⟩ :: t₂ ∧ (∀ e ∈ t₁, B e.call) ∧ (∀ e ∈ t₂, A e.call) ∧
        q.Only A ∧ q.Returns := by
  induction p generalizing t with
  | ret a => exact hp.elim
  | throw e => exact hp.elim
  | diverge => exact hp.elim
  | call c' k ih =>
      rcases h with ⟨rfl, rfl⟩ | ⟨r, t', rfl, h⟩
      · exact .inl ⟨by simp, hp⟩
      · rcases hp with ⟨rfl, hk⟩ | ⟨hbefore, hk⟩
        · -- the call is the first one, and the rest is the part after it
          obtain ⟨honly, hreturns⟩ := hk r
          obtain ⟨ht, hq⟩ := honly.after h
          exact .inr ⟨[], r, t', rfl, by simp, ht, hq, Ends.after hreturns h⟩
        · have hcons : ∀ {t₁ : List (Event I)}, (∀ e ∈ t₁, B e.call) →
              ∀ e ∈ (⟨c', r⟩ : Event I) :: t₁, B e.call := by
            intro t₁ ht₁ e he
            rcases List.mem_cons.mp he with rfl | he
            · exact hbefore
            · exact ht₁ e he
          rcases ih r (hk r) h with ⟨ht, hq⟩ | ⟨t₁, r', t₂, rfl, ht₁, ht₂, hq⟩
          · exact .inl ⟨hcons ht, hq⟩
          · exact .inr ⟨⟨c', r⟩ :: t₁, r', t₂, rfl, hcons ht₁, ht₂, hq⟩

end Once

/-! ### Calls by what came before -/

/-- Every call `p` can make satisfies `P` together with what was called, and answered,
before it: `past`, and the calls of `p` itself. -/
def Always (P : List (Event I) → I.Call → Prop) : List (Event I) → Prog I ε α → Prop
  | _, ret _ => True
  | _, throw _ => True
  | _, diverge => True
  | past, call c k => P past c ∧ ∀ r, (k r).Always P (past ++ [⟨c, r⟩])

section Always

variable {P : List (Event I) → I.Call → Prop} {p q : Prog I ε α} {past t : List (Event I)}

/-- Calls that may be made at any time. -/
theorem Only.always {Q : I.Call → Prop} (hp : p.Only Q) (h : ∀ past c, Q c → P past c) :
    p.Always P past := by
  induction p generalizing past with
  | ret a => trivial
  | throw e => trivial
  | diverge => trivial
  | call c k ih => exact ⟨h past c hp.1, fun r => ih r (hp.2 r)⟩

theorem Always.bind {f : α → Prog I ε β} (hp : p.Always P past)
    (hf : ∀ a t, p.Exec t (.returned a) → (f a).Always P (past ++ t)) :
    (p >>= f).Always P past := by
  show (p.bind f).Always P past
  induction p generalizing past with
  | ret a =>
      have h := hf a [] ⟨rfl, rfl⟩
      rw [List.append_nil] at h
      exact h
  | throw e => trivial
  | diverge => trivial
  | call c k ih =>
      refine ⟨hp.1, fun r => ih r (hp.2 r) fun a t h => ?_⟩
      have hrest := hf a (⟨c, r⟩ :: t) ⟨r, t, rfl, h⟩
      rw [← List.singleton_append, ← List.append_assoc] at hrest
      exact hrest

theorem always_ofExcept {x : Except ε α} : (ofExcept x : Prog I ε α).Always P past := by
  cases x <;> trivial

/-- A pure computation, then the rest. -/
theorem always_ofExcept_bind {x : Except ε α} {f : α → Prog I ε β}
    (hf : ∀ a, x = .ok a → (f a).Always P past) : (ofExcept x >>= f).Always P past := by
  cases x with
  | ok a => exact hf a rfl
  | error e => trivial

theorem always_ask {c : I.Call} {g : I.Reply c → Except ε α} (hc : P past c) :
    (ask c g).Always P past :=
  ⟨hc, fun _ => always_ofExcept⟩

/-- A call, then the rest, of which the call and its reply are the past. -/
theorem always_ask_bind {c : I.Call} {g : I.Reply c → Except ε α} {f : α → Prog I ε β}
    (hc : P past c) (hf : ∀ r a, g r = .ok a → (f a).Always P (past ++ [⟨c, r⟩])) :
    (ask c g >>= f).Always P past := by
  refine ⟨hc, fun r => ?_⟩
  show (ofExcept (g r) >>= f).Always P (past ++ [⟨c, r⟩])
  exact always_ofExcept_bind fun a ha => hf r a ha

/-- Every call a run has made satisfies `P` with what was before it. -/
theorem Always.after (hp : p.Always P past) (h : p.After t q) :
    ∀ t₁ e t₂, t = t₁ ++ e :: t₂ → P (past ++ t₁) e.call := by
  rintro t₁ e t₂ rfl
  obtain ⟨k, hbefore, -⟩ := h.split
  clear h
  induction p generalizing past t₁ with
  | ret a => exact absurd hbefore.2 (by simp)
  | throw e => exact absurd hbefore.2 (by simp)
  | diverge => exact absurd hbefore.2 (by simp)
  | call c k' ih =>
      rcases hbefore with ⟨rfl, heq⟩ | ⟨r, t', rfl, hrest⟩
      · cases heq
        rw [List.append_nil]
        exact hp.1
      · have hcall := ih r (hp.2 r) t' hrest
        rw [List.append_assoc, List.singleton_append] at hcall
        exact hcall

end Always

end Prog

end Interaction
