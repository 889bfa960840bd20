/-
ControlPlane/Interaction/Interleave.lean

Programs run side by side against one environment.

A trace of several programs has each call with the program that made it.  What a program has
done of it is the beginning of one of its own runs, and nothing is said about the order in
which the programs get to make their calls.  `Interleaving.exec_of_call` says of a call in
the trace where it stands in the run of the program that made it.
-/
import ControlPlane.Interaction.Prog

namespace Interaction

variable {I : Interface} {ε α Op : Type} [DecidableEq Op]

/-! ### The calls of one program -/

/-- The calls of `op`, in order. -/
def own (op : Op) (t : List (Op × Event I)) : List (Event I) :=
  (t.filter fun step => step.1 = op).map Prod.snd

section Own

variable {op : Op} {e : Event I} {t t' : List (Op × Event I)} {ta tb : List (Event I)}

@[simp] theorem own_nil : own op ([] : List (Op × Event I)) = [] := rfl

@[simp] theorem own_append : own op (t ++ t') = own op t ++ own op t' := by
  simp [own]

theorem own_cons_self : own op ((op, e) :: t) = e :: own op t := by
  simp [own]

theorem own_cons_of_ne {other : Op} (h : other ≠ op) : own op ((other, e) :: t) = own op t := by
  simp [own, h]

theorem mem_own : e ∈ own op t ↔ (op, e) ∈ t := by
  simp [own]

/-- A call of one program stands in the whole where the program has made it. -/
theorem own_eq_append_cons (h : own op t = ta ++ e :: tb) :
    ∃ before after, t = before ++ (op, e) :: after ∧ own op before = ta ∧ own op after = tb := by
  induction t generalizing ta with
  | nil => simp at h
  | cons step t ih =>
      obtain ⟨other, e'⟩ := step
      by_cases hop : other = op
      · subst hop
        rw [own_cons_self] at h
        cases ta with
        | nil =>
            obtain ⟨rfl, rfl⟩ := List.cons.inj h
            exact ⟨[], t, rfl, rfl, rfl⟩
        | cons first ta =>
            obtain ⟨rfl, hrest⟩ := List.cons.inj h
            obtain ⟨before, after, rfl, rfl, rfl⟩ := ih hrest
            exact ⟨(other, e') :: before, after, rfl, own_cons_self, rfl⟩
      · rw [own_cons_of_ne hop] at h
        obtain ⟨before, after, rfl, rfl, rfl⟩ := ih h
        exact ⟨(other, e') :: before, after, rfl, own_cons_of_ne hop, rfl⟩

end Own

/-! ### Interleavings -/

/-- A run of the programs side by side, at any moment of it. -/
def Interleaving (progs : Op → Prog I ε α) (t : List (Op × Event I)) : Prop :=
  ∀ op, ∃ rest o, (progs op).Exec (own op t ++ rest) o

section Interleaving

variable {progs : Op → Prog I ε α} {op : Op} {e : Event I} {before after : List (Op × Event I)}

/-- A call is made by its program after what that has done before. -/
theorem Interleaving.exec_of_call (h : Interleaving progs (before ++ (op, e) :: after)) :
    ∃ rest o, (progs op).Exec (own op before ++ e :: rest) o := by
  obtain ⟨rest, o, hexec⟩ := h op
  rw [own_append, own_cons_self, List.append_assoc, List.cons_append] at hexec
  exact ⟨_, o, hexec⟩

end Interleaving

/-! ### The environment -/

namespace Lts

variable {S Label A : Type*}

/-- The environment of several programs does not ask which of them calls. -/
def shared (Op : Type*) (E : Lts S Label) : Lts S (Op × Label) where
  step s l s' := E.step s l.2 s'

/-- What is observed changes only where a step changes it. -/
theorem Run.changed {E : Lts S Label} {s s' : S} {ls : List Label} (f : S → A)
    (h : E.Run s ls s') (hne : f s' ≠ f s) :
    ∃ before l after m m', ls = before ++ l :: after ∧ E.Run s before m ∧ E.step m l m' ∧
      f m' ≠ f m := by
  induction ls generalizing s with
  | nil =>
      rw [run_nil.mp h] at hne
      exact absurd rfl hne
  | cons l ls ih =>
      obtain ⟨m, hstep, hrun⟩ := run_cons.mp h
      by_cases hm : f m = f s
      · obtain ⟨before, l', after, n, n', rfl, hbefore, hl', hn⟩ := ih hrun (hm ▸ hne)
        exact ⟨l :: before, l', after, n, n', rfl, ⟨m, hstep, hbefore⟩, hl', hn⟩
      · exact ⟨[], l, ls, s, m, rfl, rfl, hstep, hm⟩

end Lts

/-! ### One step of a kind -/

/-- An element of a kind of which there is one in a list is found in one place only. -/
theorem append_cons_unique {A : Type*} {P : A → Prop} {a b c d : List A} {x y : A}
    (h : a ++ x :: b = c ++ y :: d) (hx : P x) (hc : ∀ z ∈ c, ¬ P z) (hd : ∀ z ∈ d, ¬ P z) :
    a = c ∧ x = y ∧ b = d := by
  rcases List.append_eq_append_iff.mp h with ⟨m, rfl, hm⟩ | ⟨m, rfl, hm⟩
  · cases m with
    | nil =>
        obtain ⟨hxy, hbd⟩ := List.cons.inj hm
        exact ⟨(List.append_nil a).symm, hxy, hbd⟩
    | cons z m =>
        obtain ⟨rfl, -⟩ := List.cons.inj hm
        exact absurd hx (hc x (by simp))
  · cases m with
    | nil =>
        obtain ⟨hxy, hbd⟩ := List.cons.inj hm
        exact ⟨List.append_nil c, hxy.symm, hbd.symm⟩
    | cons z m =>
        obtain ⟨-, hd'⟩ := List.cons.inj hm
        exact absurd hx (hd x (by rw [hd']; simp))

end Interaction
