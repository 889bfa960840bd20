/-
ControlPlane/Interaction/Polling.lean

Loops that look at something again and again until a look decides or a deadline has
passed.

The looks are a sequence: the `i`-th look ends the loop, or it waits and says what
the loop comes to should it be too late by then.  `poll` is the loop, cut off by a
fuel argument, and `looks` counts the looks it takes.

The `n`-th look from `i` on is taken when none before it ends the loop and it is not
too late after any of them (`Taken`).  `poll_eq_some_iff` says that the loop comes to
what the first look that ends it says, or the first after which it is too late.
-/
import Mathlib.Data.Nat.Basic
import Mathlib.Tactic.Common

namespace Interaction

/-- What a look says. -/
inductive Look (Ω : Type) where
  /-- the loop ends with this -/
  | ends (o : Ω)
  /-- the loop goes on, or ends with this when it is too late -/
  | waits (o : Ω)

namespace Polling

variable {Ω : Type} (look : ℕ → Look Ω) (late : ℕ → Prop) [DecidablePred late]

/-! ### The loop -/

/-- What the loop comes to that starts with the `i`-th look. -/
def poll : ℕ → ℕ → Option Ω
  | 0, _ => none
  | fuel + 1, i =>
    match look i with
    | .ends o => some o
    | .waits o => if late i then some o else poll fuel (i + 1)

/-- How many looks the loop takes. -/
def looks : ℕ → ℕ → ℕ
  | 0, _ => 0
  | fuel + 1, i =>
    match look i with
    | .ends _ => 1
    | .waits _ => if late i then 1 else looks fuel (i + 1) + 1

/-- The `i`-th look is not the last one. -/
def GoesOn (i : ℕ) : Prop := (∃ o, look i = .waits o) ∧ ¬late i

/-- The `i`-th look is the last one, and the loop comes to `o`. -/
def Last (i : ℕ) (o : Ω) : Prop := look i = .ends o ∨ look i = .waits o ∧ late i

/-- The `n`-th look of a loop that starts with the `i`-th is taken. -/
def Taken (i n : ℕ) : Prop := ∀ k < n, GoesOn look late (i + k)

variable {look late} {fuel i n : ℕ} {o : Ω}

/-! ### Looks -/

omit [DecidablePred late] in
theorem Last.not_goesOn (h : Last look late i o) : ¬GoesOn look late i := by
  rintro ⟨⟨o', hwaits⟩, hearly⟩
  rcases h with hends | ⟨-, hlate⟩
  · rw [hends] at hwaits
    cases hwaits
  · exact hearly hlate

variable (look late) in
/-- Every look is the last one or not. -/
theorem goesOn_or_last (i : ℕ) : GoesOn look late i ∨ ∃ o, Last look late i o := by
  cases hi : look i with
  | ends o => exact .inr ⟨o, .inl hi⟩
  | waits o =>
      by_cases hlate : late i
      · exact .inr ⟨o, .inr ⟨hi, hlate⟩⟩
      · exact .inl ⟨⟨o, hi⟩, hlate⟩

omit [DecidablePred late] in
theorem taken_zero : Taken look late i 0 := fun _ hk => absurd hk (Nat.not_lt_zero _)

omit [DecidablePred late] in
/-- A later look is taken when the first one is not the last. -/
theorem taken_succ : Taken look late i (n + 1) ↔ GoesOn look late i ∧ Taken look late (i + 1) n := by
  constructor
  · intro h
    refine ⟨h 0 (Nat.succ_pos n), fun k hk => ?_⟩
    have hnext := h (k + 1) (Nat.succ_lt_succ hk)
    rwa [Nat.add_right_comm i 1 k]
  · rintro ⟨hfirst, hrest⟩ k hk
    cases k with
    | zero => exact hfirst
    | succ k =>
        have hnext := hrest k (Nat.lt_of_succ_lt_succ hk)
        rwa [Nat.add_right_comm i 1 k] at hnext

/-! ### Steps -/

theorem poll_of_goesOn (h : GoesOn look late i) :
    poll look late (fuel + 1) i = poll look late fuel (i + 1) := by
  obtain ⟨⟨o, hwaits⟩, hearly⟩ := h
  simp only [poll, hwaits, hearly, if_false]

theorem poll_of_last (h : Last look late i o) : poll look late (fuel + 1) i = some o := by
  rcases h with hends | ⟨hwaits, hlate⟩
  · simp only [poll, hends]
  · simp only [poll, hwaits, hlate, if_true]

theorem looks_of_goesOn (h : GoesOn look late i) :
    looks look late (fuel + 1) i = looks look late fuel (i + 1) + 1 := by
  obtain ⟨⟨o, hwaits⟩, hearly⟩ := h
  simp only [looks, hwaits, hearly, if_false]

theorem looks_of_last (h : Last look late i o) : looks look late (fuel + 1) i = 1 := by
  rcases h with hends | ⟨hwaits, hlate⟩
  · simp only [looks, hends]
  · simp only [looks, hwaits, hlate, if_true]

/-! ### Runs -/

/-- **The first look that ends the loop says what it comes to**, whether by deciding
or by being too late. -/
theorem poll_eq_some_iff :
    poll look late fuel i = some o ↔
      ∃ n < fuel, Taken look late i n ∧ Last look late (i + n) o := by
  induction fuel generalizing i with
  | zero =>
      constructor
      · intro h
        cases h
      · rintro ⟨n, hn, -⟩
        exact absurd hn (Nat.not_lt_zero n)
  | succ fuel ih =>
      rcases goesOn_or_last look late i with hgoes | ⟨o', hlast⟩
      · -- the first look is not the last: shift by one
        rw [poll_of_goesOn hgoes, ih]
        constructor
        · rintro ⟨n, hn, htaken, hlast⟩
          refine ⟨n + 1, Nat.succ_lt_succ hn, taken_succ.mpr ⟨hgoes, htaken⟩, ?_⟩
          rwa [Nat.add_right_comm i 1 n] at hlast
        · rintro ⟨n, hn, htaken, hlast⟩
          cases n with
          | zero => exact absurd hgoes hlast.not_goesOn
          | succ n =>
              refine ⟨n, Nat.lt_of_succ_lt_succ hn, (taken_succ.mp htaken).2, ?_⟩
              rwa [Nat.add_right_comm i 1 n]
      · rw [poll_of_last hlast]
        constructor
        · intro ho
          cases ho
          exact ⟨0, Nat.succ_pos fuel, taken_zero, hlast⟩
        · rintro ⟨n, hn, htaken, hlast'⟩
          cases n with
          | zero =>
              have hfirst : poll look late 1 i = some o' := poll_of_last hlast
              rw [← hfirst]
              exact poll_of_last hlast'
          | succ n => exact absurd (taken_succ.mp htaken).1 hlast.not_goesOn

/-- The same for a loop from the first look on, where a loop that is cut off comes to
`d`. -/
theorem getD_poll_eq_iff {d : Ω} (ho : o ≠ d) :
    (poll look late fuel 0).getD d = o ↔ ∃ n < fuel, Taken look late 0 n ∧ Last look late n o := by
  have hsome : (poll look late fuel 0).getD d = o ↔ poll look late fuel 0 = some o := by
    cases poll look late fuel 0 with
    | none => simp [ho.symm]
    | some o' => simp
  rw [hsome, poll_eq_some_iff]
  simp only [Nat.zero_add]

/-- The loop is cut off exactly when every look it takes waits. -/
theorem poll_eq_none_iff : poll look late fuel i = none ↔ Taken look late i fuel := by
  induction fuel generalizing i with
  | zero => exact ⟨fun _ => taken_zero, fun _ => rfl⟩
  | succ fuel ih =>
      rcases goesOn_or_last look late i with hgoes | ⟨o', hlast⟩
      · rw [poll_of_goesOn hgoes, ih, taken_succ]
        exact ⟨fun h => ⟨hgoes, h⟩, fun h => h.2⟩
      · rw [poll_of_last hlast]
        constructor
        · intro h
          cases h
        · intro h
          exact absurd (taken_succ.mp h).1 hlast.not_goesOn

/-- The looks the loop takes are the ones that are taken. -/
theorem lt_looks_iff : n < looks look late fuel i ↔ n < fuel ∧ Taken look late i n := by
  induction fuel generalizing i n with
  | zero =>
      constructor
      · intro h
        exact absurd h (Nat.not_lt_zero n)
      · rintro ⟨h, -⟩
        exact absurd h (Nat.not_lt_zero n)
  | succ fuel ih =>
      rcases goesOn_or_last look late i with hgoes | ⟨o', hlast⟩
      · rw [looks_of_goesOn hgoes]
        cases n with
        | zero => exact ⟨fun _ => ⟨Nat.succ_pos fuel, taken_zero⟩, fun _ => Nat.succ_pos _⟩
        | succ n => rw [Nat.succ_lt_succ_iff, Nat.succ_lt_succ_iff, ih, taken_succ, and_iff_right hgoes]
      · rw [looks_of_last hlast]
        cases n with
        | zero => exact ⟨fun _ => ⟨Nat.succ_pos fuel, taken_zero⟩, fun _ => Nat.one_pos⟩
        | succ n =>
            constructor
            · intro h
              exact absurd h (by omega)
            · rintro ⟨-, htaken⟩
              exact absurd (taken_succ.mp htaken).1 hlast.not_goesOn

/-- **A loop whose deadline passes ends.** -/
theorem poll_ne_none (hlate : late (i + n)) (hn : n < fuel) : poll look late fuel i ≠ none := by
  intro h
  exact (poll_eq_none_iff.mp h n hn).2 hlate

end Polling

end Interaction
