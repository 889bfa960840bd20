/-
ControlPlane/Js/Trim.lean

What `trim` takes off a text, and what it leaves.

A text is its trimmed form between blanks (`trimChars_decomp`), and the trimmed form is what
has no blank at its ends (`trimChars_eq_self`).
-/
import ControlPlane.Js.Text
import Mathlib.Data.List.DropRight

namespace Js

variable {b b' u : List Char} {c : Char}

/-- There is no blank at either end. -/
def Trimmed (u : List Char) : Prop :=
  (∀ c ∈ u.head?, isWhiteSpace c = false) ∧ ∀ c ∈ u.getLast?, isWhiteSpace c = false

/-- A text is trimmed when it neither begins nor ends with white space. -/
theorem trimmed_iff :
    Trimmed u ↔ ∀ c, isWhiteSpace c = true → u.head? ≠ some c ∧ u.getLast? ≠ some c := by
  constructor
  · rintro ⟨hfirst, hlast⟩ c hc
    refine ⟨fun h => ?_, fun h => ?_⟩
    · rw [hfirst c h] at hc
      cases hc
    · rw [hlast c h] at hc
      cases hc
  · intro h
    refine ⟨fun c hfirst => ?_, fun c hlast => ?_⟩
    · exact Bool.eq_false_iff.mpr fun hc => (h c hc).1 hfirst
    · exact Bool.eq_false_iff.mpr fun hc => (h c hc).2 hlast

theorem head?_dropWhile {p : Char → Bool} {u : List Char} :
    ∀ c ∈ (u.dropWhile p).head?, p c = false := by
  induction u with
  | nil => simp
  | cons d u ih =>
      cases hd : p d with
      | true => rwa [List.dropWhile_cons_of_pos hd]
      | false =>
          rw [List.dropWhile_cons_of_neg (by rw [hd]; exact Bool.false_ne_true)]
          intro c hc
          exact Option.some.inj hc ▸ hd

theorem getLast?_rdropWhile {p : Char → Bool} {u : List Char} :
    ∀ c ∈ (u.rdropWhile p).getLast?, p c = false := by
  rw [List.rdropWhile, List.getLast?_reverse]
  exact head?_dropWhile

theorem dropWhile_of_head? {p : Char → Bool} (h : ∀ c ∈ u.head?, p c = false) :
    u.dropWhile p = u := by
  cases u with
  | nil => rfl
  | cons c u => exact List.dropWhile_cons_of_neg (by rw [h c rfl]; exact Bool.false_ne_true)

theorem rdropWhile_of_getLast? {p : Char → Bool} (h : ∀ c ∈ u.getLast?, p c = false) :
    u.rdropWhile p = u := by
  rw [List.rdropWhile, dropWhile_of_head?, List.reverse_reverse]
  rwa [List.head?_reverse]

theorem rdropWhile_append_of_pos {p : Char → Bool} (h : ∀ c ∈ b, p c = true) :
    (u ++ b).rdropWhile p = u.rdropWhile p := by
  rw [List.rdropWhile, List.reverse_append, List.dropWhile_append_of_pos]
  · rfl
  · exact fun c hc => h c (List.mem_reverse.mp hc)

theorem trimChars_eq (u : List Char) :
    trimChars u = (u.dropWhile isWhiteSpace).rdropWhile isWhiteSpace := rfl

/-- A text is white space, what trimming leaves, and white space. -/
theorem trimChars_decomp (u : List Char) : ∃ b b', u = b ++ (trimChars u ++ b') ∧
    (∀ a ∈ b, isWhiteSpace a = true) ∧ ∀ a ∈ b', isWhiteSpace a = true := by
  refine ⟨u.takeWhile isWhiteSpace,
    ((u.dropWhile isWhiteSpace).reverse.takeWhile isWhiteSpace).reverse, ?_,
    fun a ha => List.mem_takeWhile_imp ha,
    fun a ha => List.mem_takeWhile_imp (List.mem_reverse.mp ha)⟩
  rw [trimChars, ← List.reverse_append, List.takeWhile_append_dropWhile, List.reverse_reverse,
    List.takeWhile_append_dropWhile]

/-- What trimming leaves is trimmed. -/
theorem trimmed_trimChars (u : List Char) : Trimmed (trimChars u) := by
  refine ⟨?_, getLast?_rdropWhile⟩
  intro c hc
  -- what is first there is first without the blanks before it
  obtain ⟨v, hv⟩ : trimChars u <+: u.dropWhile isWhiteSpace :=
    List.rdropWhile_prefix isWhiteSpace (u.dropWhile isWhiteSpace)
  apply head?_dropWhile (u := u)
  rw [← hv, List.head?_append, hc]
  rfl

/-- What is trimmed is between its blanks. -/
theorem trimChars_blanks (hu : Trimmed u) (hb : ∀ a ∈ b, isWhiteSpace a = true)
    (hb' : ∀ a ∈ b', isWhiteSpace a = true) : trimChars (b ++ (u ++ b')) = u := by
  rw [trimChars_eq, List.dropWhile_append_of_pos hb]
  cases u with
  | nil =>
      rw [List.nil_append, List.dropWhile_eq_nil_iff.mpr hb']
      rfl
  | cons c u =>
      rw [dropWhile_of_head?, rdropWhile_append_of_pos hb', rdropWhile_of_getLast? hu.2]
      exact hu.1

/-- A trimmed text stays as it is. -/
theorem trimChars_eq_self : trimChars u = u ↔ Trimmed u := by
  constructor
  · intro h
    rw [← h]
    exact trimmed_trimChars u
  · intro h
    have hself : trimChars ([] ++ (u ++ [])) = u := trimChars_blanks h (by simp) (by simp)
    rwa [List.nil_append, List.append_nil] at hself

/-- Nothing is left of white space only. -/
theorem trimChars_eq_nil : trimChars u = [] ↔ ∀ a ∈ u, isWhiteSpace a = true := by
  constructor
  · intro h
    obtain ⟨b, b', hu, hb, hb'⟩ := trimChars_decomp u
    rw [h, List.nil_append] at hu
    intro a ha
    rw [hu] at ha
    rcases List.mem_append.mp ha with ha | ha
    · exact hb a ha
    · exact hb' a ha
  · intro h
    rw [trimChars, List.dropWhile_eq_nil_iff.mpr h]
    rfl

end Js
