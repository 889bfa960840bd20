/-
ControlPlane/Interaction/Lts.lean

Labelled transition systems and their runs.  A run is indexed by the list of
labels it performs, so that a statement about a run can speak of the labels as
well as of the two ends.  The rules here are the ones every safety argument
over runs needs: runs compose and split (`run_append`), and a predicate kept by
each step is kept by each run (`Run.invariant`), also when only the steps whose
labels satisfy a side condition keep it (`Run.invariant_of`).  `Along` says that every
step of a run satisfies something in the state it starts from, and `guarded` is
the system that makes only such steps.

What some steps set and other steps clear holds after a run when it was set and
not cleared since (`Run.holds_iff_since`): the state is a record of the labels.
-/
import Mathlib.Data.List.Induction

namespace Interaction

/-- A labelled transition system. -/
structure Lts (State Label : Type*) where
  step : State → Label → State → Prop

namespace Lts

variable {State Label : Type*} {A : Lts State Label}

/-- `A.Run s ls s'`: performing the labels `ls` in order leads from `s` to
`s'`. -/
def Run (A : Lts State Label) : State → List Label → State → Prop
  | s, [], s' => s' = s
  | s, l :: ls, s' => ∃ m, A.step s l m ∧ A.Run m ls s'

@[simp] theorem run_nil {s s' : State} : A.Run s [] s' ↔ s' = s := Iff.rfl

@[simp] theorem run_cons {s s' : State} {l : Label} {ls : List Label} :
    A.Run s (l :: ls) s' ↔ ∃ m, A.step s l m ∧ A.Run m ls s' := Iff.rfl

theorem run_singleton {s s' : State} {l : Label} :
    A.Run s [l] s' ↔ A.step s l s' := by
  simp

/-- A run over a concatenation is a run over each part. -/
theorem run_append {s s' : State} {ls ls' : List Label} :
    A.Run s (ls ++ ls') s' ↔ ∃ m, A.Run s ls m ∧ A.Run m ls' s' := by
  induction ls generalizing s with
  | nil => simp
  | cons l ls ih =>
      simp only [List.cons_append, run_cons, ih]
      constructor
      · rintro ⟨a, ha, m, hm, hr⟩
        exact ⟨m, ⟨a, ha, hm⟩, hr⟩
      · rintro ⟨m, ⟨a, ha, hm⟩, hr⟩
        exact ⟨a, ha, m, hm, hr⟩

/-- **Invariants over runs**, with a side condition on labels: a predicate kept
by every step whose label satisfies `G` is kept by every run all of whose
labels satisfy it. -/
theorem Run.invariant_of {I : State → Prop} {G : Label → Prop} {s s' : State}
    {ls : List Label} (h : A.Run s ls s') (hs : I s) (hok : ∀ l ∈ ls, G l)
    (hstep : ∀ s l s', G l → I s → A.step s l s' → I s') : I s' := by
  induction ls generalizing s with
  | nil => rw [run_nil.mp h]; exact hs
  | cons l ls ih =>
      obtain ⟨m, hm, hr⟩ := run_cons.mp h
      have hl : G l := hok l (by simp)
      exact ih hr (hstep s l m hl hs hm) fun k hk => hok k (by simp [hk])

/-- **Invariants over runs**: a predicate kept by every step is kept by every
run. -/
theorem Run.invariant {I : State → Prop} {s s' : State} {ls : List Label}
    (h : A.Run s ls s') (hs : I s)
    (hstep : ∀ s l s', I s → A.step s l s' → I s') : I s' := by
  have hok : ∀ l ∈ ls, (fun _ : Label => True) l := fun _ _ => trivial
  exact h.invariant_of hs hok fun s l s' _ => hstep s l s'

/-- Every step of the run from `s` to `s'` satisfies `P` in the state it is made in. -/
def Along (A : Lts State Label) (P : State → Label → Prop) (s : State) (ls : List Label)
    (s' : State) : Prop :=
  ∀ before l after m, ls = before ++ l :: after → A.Run s before m → A.Run m (l :: after) s' → P m l

/-- Under an invariant it is enough to compare two conditions at each step. -/
theorem along_congr {I : State → Prop} {P Q : State → Label → Prop} {s s' : State}
    {ls : List Label} (hs : I s) (hkeep : ∀ s l s', I s → A.step s l s' → I s')
    (hstep : ∀ s l s', I s → A.step s l s' → (P s l ↔ Q s l)) :
    A.Along P s ls s' ↔ A.Along Q s ls s' := by
  have hiff : ∀ before l after m, A.Run s before m → A.Run m (l :: after) s' → (P m l ↔ Q m l) := by
    intro before l after m hbefore hafter
    obtain ⟨m', hl, -⟩ := run_cons.mp hafter
    exact hstep m l m' (hbefore.invariant hs hkeep) hl
  constructor
  · intro h before l after m hls hbefore hafter
    exact (hiff before l after m hbefore hafter).mp (h before l after m hls hbefore hafter)
  · intro h before l after m hls hbefore hafter
    exact (hiff before l after m hbefore hafter).mpr (h before l after m hls hbefore hafter)

/-! ### What has happened since -/

/-- The steps of `A` that satisfy `P` in the state they are made in. -/
def guarded (A : Lts State Label) (P : State → Label → Prop) : Lts State Label where
  step s l s' := A.step s l s' ∧ P s l

/-- When every step with these labels satisfies `P`, nothing is guarded against. -/
theorem Run.guarded {P : State → Label → Prop} {s s' : State} {ls : List Label}
    (h : A.Run s ls s') (hP : ∀ l ∈ ls, ∀ m, P m l) : (A.guarded P).Run s ls s' := by
  induction ls generalizing s with
  | nil => exact h
  | cons l ls ih =>
      obtain ⟨m, hm, hr⟩ := h
      have hl : P s l := hP l (by simp) s
      exact ⟨m, ⟨hm, hl⟩, ih hr fun k hk => hP k (by simp [hk])⟩

/-- Some step of the run satisfies `opens`, and none after it satisfies `closes`. -/
def Since (A : Lts State Label) (opens closes : State → Label → Prop) (s : State)
    (ls : List Label) (s' : State) : Prop :=
  ∃ before l after m m', ls = before ++ l :: after ∧ A.Run s before m ∧ A.step m l m' ∧
    opens m l ∧ (A.guarded fun m l => ¬ closes m l).Run m' after s'

section Since

variable {opens closes : State → Label → Prop} {I : State → Prop}

/-- What is set and not cleared stays. -/
theorem Run.holds_of_guarded {s s' : State} {ls : List Label}
    (h : (A.guarded fun m l => ¬ closes m l).Run s ls s') (hs : I s)
    (hkeep : ∀ m l m', A.step m l m' → ¬ closes m l → I m → I m') : I s' :=
  h.invariant hs fun m l m' hm hstep => hkeep m l m' hstep.1 hstep.2 hm

/-- **The state as a record.**  When `opens` sets `I`, `closes` clears it and no
other step touches it, `I` holds after a run exactly when it has been set and not
cleared since. -/
theorem Run.holds_iff_since {s s' : State} {ls : List Label} (h : A.Run s ls s') (hs : ¬ I s)
    (hopen : ∀ m l m', A.step m l m' → opens m l → I m')
    (hclose : ∀ m l m', A.step m l m' → closes m l → ¬ I m')
    (hother : ∀ m l m', A.step m l m' → ¬ opens m l → ¬ closes m l → (I m' ↔ I m)) :
    I s' ↔ A.Since opens closes s ls s' := by
  have hkeep : ∀ m l m', A.step m l m' → ¬ closes m l → I m → I m' := by
    intro m l m' hstep hl hm
    by_cases ho : opens m l
    · exact hopen m l m' hstep ho
    · exact (hother m l m' hstep ho hl).mpr hm
  constructor
  · -- by induction from the end of the run: the last step has set it, or it held before
    induction ls using List.reverseRecOn generalizing s' with
    | nil =>
        intro hI
        rw [run_nil.mp h] at hI
        exact absurd hI hs
    | append_singleton ls l ih =>
        intro hI
        obtain ⟨m, hbefore, hlast⟩ := run_append.mp h
        have hstep : A.step m l s' := run_singleton.mp hlast
        by_cases ho : opens m l
        · exact ⟨ls, l, [], m, s', rfl, hbefore, hstep, ho, rfl⟩
        · have hc : ¬ closes m l := fun hc => hclose m l s' hstep hc hI
          have hm : I m := (hother m l s' hstep ho hc).mp hI
          obtain ⟨before, l', after, n, n', rfl, hn, hl', ho', hafter⟩ := ih hbefore hm
          refine ⟨before, l', after ++ [l], n, n', by simp, hn, hl', ho', ?_⟩
          exact run_append.mpr ⟨m, hafter, run_singleton.mpr ⟨hstep, hc⟩⟩
  · rintro ⟨before, l, after, m, m', -, -, hstep, ho, hafter⟩
    exact hafter.holds_of_guarded (hopen m l m' hstep ho) hkeep

end Since

end Lts

end Interaction
