/-
ControlPlane/Substitution/Occurrence.lean

Occurrences of one text in another, over any alphabet.

`Clear x u` says that an occurrence of `x` and one of `u` in the same text never
overlap, and `OnlyHead x u` that they overlap only where they start together.
Both are about every text, and both are decided on `x` and `u` alone: two
occurrences overlap with one of them starting inside the other, so a tail of one
and a beginning of the other agree (`meets`).

`split` and `replaceFirst` are `split` and `replace` with a string pattern.  A
pattern that does not overlap itself and is counted once by `split` occurs at
exactly one place (`UniqueIn`), and that is the place `replaceFirst` replaces.
-/
import Mathlib.Data.List.Basic
import Mathlib.Data.Nat.Find
import Mathlib.Util.CompileInductive

namespace Substitution

variable {α : Type*}

/-! ### Overlaps -/

/-- Occurrences of `x` and `u` do not overlap. -/
def Clear (x u : List α) : Prop :=
  ∀ ⦃p q p' q' : List α⦄, p ++ x ++ q = p' ++ u ++ q' →
    p.length + x.length ≤ p'.length ∨ p'.length + u.length ≤ p.length

/-- Occurrences of `x` and `u` overlap only where they start together. -/
def OnlyHead (x u : List α) : Prop :=
  ∀ ⦃p q p' q' : List α⦄, p ++ x ++ q = p' ++ u ++ q' →
    p.length + x.length ≤ p'.length ∨ p'.length + u.length ≤ p.length ∨ p = p'

theorem Clear.symm {x u : List α} (h : Clear x u) : Clear u x := by
  intro p q p' q' heq
  exact (h heq.symm).symm

/-- Of two beginnings of the same text, the shorter is a beginning of the longer. -/
theorem append_eq_append_of_le {p r p' r' : List α} (h : p ++ r = p' ++ r')
    (hle : p.length ≤ p'.length) : ∃ d, p' = p ++ d ∧ r = d ++ r' := by
  rcases List.append_eq_append_iff.mp h with ⟨d, hp', hr⟩ | ⟨d, hp, hr'⟩
  · exact ⟨d, hp', hr⟩
  · have hd : d = [] := by
      rw [hp, List.length_append] at hle
      exact List.length_eq_zero_iff.mp (by omega)
    subst hd
    exact ⟨[], by simpa using hp.symm, by simpa using hr'.symm⟩

section Meets

variable [DecidableEq α]

/-- The two texts agree as far as both go. -/
def meets : List α → List α → Bool
  | [], _ => true
  | _, [] => true
  | a :: x, b :: y => a == b && meets x y

/-- Some nonempty tail of the second text agrees with the first. -/
def tailMeets : List α → List α → Bool
  | [], x => !x.isEmpty
  -- by the recursor, which evaluates fast on a long text
  | b :: u, x =>
      List.rec (motive := fun _ => Bool) false (fun a t met => (a == b && meets t u) || met) x

/-- An occurrence of one text can start inside one of the other. -/
def overlaps (x u : List α) : Bool := tailMeets u x || tailMeets x u

/-- The same, not counting a common start. -/
def strays (x u : List α) : Bool := tailMeets u x.tail || tailMeets x u.tail

@[simp] theorem tailMeets_cons (u : List α) (a : α) (x : List α) :
    tailMeets u (a :: x) = (meets (a :: x) u || tailMeets u x) := by
  cases u <;> rfl

theorem meets_of_append {x u q q' : List α} (h : x ++ q = u ++ q') : meets x u = true := by
  induction x generalizing u with
  | nil => rfl
  | cons a x ih =>
      cases u with
      | nil => rfl
      | cons b u =>
          obtain ⟨rfl, htail⟩ := List.cons.inj h
          show (a == a && meets x u) = true
          rw [ih htail, beq_self_eq_true]
          rfl

theorem tailMeets_of_append {x d t u : List α} (hx : x = d ++ t) (ht : t ≠ [])
    (hmeets : meets t u = true) : tailMeets u x = true := by
  induction d generalizing x with
  | nil =>
      cases t with
      | nil => exact absurd rfl ht
      | cons a t =>
          rw [hx, List.nil_append, tailMeets_cons, hmeets, Bool.true_or]
  | cons c d ih =>
      rw [hx, List.cons_append, tailMeets_cons, ih rfl, Bool.or_true]

/-- A text no tail of which agrees with `x` does not contain it. -/
theorem absent_of_tailMeets {x s : List α} (hx : x ≠ []) (h : tailMeets x s = false) :
    ¬ x <:+: s := by
  rintro ⟨p, q, hs⟩
  have happend : x ++ q ++ [] = x ++ q := List.append_nil _
  have hmeets : meets (x ++ q) x = true := meets_of_append happend
  have hne : x ++ q ≠ [] := fun hnil => hx (List.append_eq_nil_iff.mp hnil).1
  rw [tailMeets_of_append (by rw [← hs, List.append_assoc]) hne hmeets] at h
  cases h

/-- Where `u` starts inside `x`, a tail of `x` agrees with `u`. -/
theorem meets_of_overlap {x u p q p' q' : List α} (h : p ++ x ++ q = p' ++ u ++ q')
    (hle : p.length ≤ p'.length) (hlt : p'.length < p.length + x.length) :
    ∃ d t, p' = p ++ d ∧ x = d ++ t ∧ t ≠ [] ∧ meets t u = true := by
  rw [List.append_assoc, List.append_assoc] at h
  obtain ⟨d, hp', hr⟩ := append_eq_append_of_le h hle
  have hd : d.length ≤ x.length := by
    rw [hp', List.length_append] at hlt
    omega
  obtain ⟨t, hx, hu⟩ := append_eq_append_of_le hr.symm hd
  refine ⟨d, t, hp', hx, ?_, meets_of_append hu.symm⟩
  rintro rfl
  rw [hp', hx, List.append_nil, List.length_append] at hlt
  omega

/-- **Texts that do not overlap.** -/
theorem clear_of_overlaps {x u : List α} (h : overlaps x u = false) : Clear x u := by
  obtain ⟨hxu, hux⟩ := Bool.or_eq_false_iff.mp h
  intro p q p' q' heq
  by_contra hover
  rw [not_or, Nat.not_le, Nat.not_le] at hover
  rcases Nat.le_total p.length p'.length with hle | hle
  · obtain ⟨d, t, -, hx, ht, hmeets⟩ := meets_of_overlap heq hle hover.1
    rw [tailMeets_of_append hx ht hmeets] at hxu
    cases hxu
  · obtain ⟨d, t, -, hu, ht, hmeets⟩ := meets_of_overlap heq.symm hle hover.2
    rw [tailMeets_of_append hu ht hmeets] at hux
    cases hux

/-- **Texts that overlap only where they start together.** -/
theorem onlyHead_of_strays {x u : List α} (h : strays x u = false) : OnlyHead x u := by
  obtain ⟨hxu, hux⟩ := Bool.or_eq_false_iff.mp h
  intro p q p' q' heq
  by_contra hover
  rw [not_or, not_or, Nat.not_le, Nat.not_le] at hover
  obtain ⟨hx', hu', hne⟩ := hover
  rcases Nat.le_total p.length p'.length with hle | hle
  · obtain ⟨d, t, hp', hx, ht, hmeets⟩ := meets_of_overlap heq hle hx'
    cases d with
    | nil => exact hne (by rw [hp', List.append_nil])
    | cons c d =>
        have hstray : tailMeets u x.tail = true := tailMeets_of_append (by rw [hx]; rfl) ht hmeets
        rw [hstray] at hxu
        cases hxu
  · obtain ⟨d, t, hp, hu, ht, hmeets⟩ := meets_of_overlap heq.symm hle hu'
    cases d with
    | nil => exact hne (by rw [hp, List.append_nil])
    | cons c d =>
        have hstray : tailMeets x u.tail = true := tailMeets_of_append (by rw [hu]; rfl) ht hmeets
        rw [hstray] at hux
        cases hux

end Meets

/-! ### Unique occurrences -/

/-- The text occurs at exactly one place. -/
def UniqueIn (x s : List α) : Prop :=
  ∃ p q, s = p ++ x ++ q ∧ ∀ {p' q'}, s = p' ++ x ++ q' → p' = p

/-! ### Splitting and replacing -/

section Split

variable [DecidableEq α]

/-- The first occurrence. -/
theorem dropInfix?_eq_some {s b p q : List α} :
    s.dropInfix? b = some (p, q) ↔
      s = p ++ b ++ q ∧ ∀ {p' q'}, s = p' ++ b ++ q' → p.length ≤ p'.length := by
  rw [List.dropInfix?_eq_some_iff]
  constructor
  · rintro ⟨⟨i, hs, hi⟩, hmin⟩
    obtain rfl : i = b := eq_of_beq hi
    exact ⟨hs, fun h => hmin _ _ _ h (beq_self_eq_true _)⟩
  · rintro ⟨hs, hmin⟩
    refine ⟨⟨b, hs, beq_self_eq_true b⟩, ?_⟩
    intro p' i q' h hi
    obtain rfl : i = b := eq_of_beq hi
    exact hmin h

theorem dropInfix?_eq_none {s b : List α} : s.dropInfix? b = none ↔ ¬ b <:+: s := by
  constructor
  · rintro hnone ⟨p, q, h⟩
    -- an occurrence gives a first one
    have hex : ∃ n p q, List.length p = n ∧ s = p ++ b ++ q := ⟨_, p, q, rfl, h.symm⟩
    classical
    obtain ⟨p₀, q₀, hlen, hs⟩ := Nat.find_spec hex
    have hsome : s.dropInfix? b = some (p₀, q₀) := by
      refine dropInfix?_eq_some.mpr ⟨hs, ?_⟩
      intro p' q' h'
      rw [hlen]
      exact Nat.find_min' hex ⟨p', q', rfl, h'⟩
    rw [hsome] at hnone
    cases hnone
  · intro habsent
    cases h : s.dropInfix? b with
    | none => rfl
    | some pq =>
        obtain ⟨p, q⟩ := pq
        obtain ⟨hs, -⟩ := dropInfix?_eq_some.mp h
        exact absurd ⟨p, q, hs.symm⟩ habsent

/-- `s.split(b)`. -/
def split (s b : List α) : List (List α) :=
  if b = [] then s.map fun c => [c]
  else match _hfirst : s.dropInfix? b with
    | none => [s]
    | some (p, q) => p :: split q b
termination_by s.length
decreasing_by
  obtain ⟨hs, -⟩ := dropInfix?_eq_some.mp _hfirst
  have hb : 0 < b.length := List.length_pos_iff.mpr ‹_›
  rw [hs, List.length_append, List.length_append]
  omega

/-- `s.replace(b, () => n)`. -/
def replaceFirst (s b n : List α) : List α :=
  match s.dropInfix? b with
  | none => s
  | some (p, q) => p ++ n ++ q

theorem split_of_absent {s b : List α} (hb : b ≠ []) (h : ¬ b <:+: s) : split s b = [s] := by
  rw [split, if_neg hb]
  split
  · rfl
  · next p q hsome =>
      rw [dropInfix?_eq_none.mpr h] at hsome
      cases hsome

theorem split_of_first {s b p q : List α} (hb : b ≠ []) (h : s.dropInfix? b = some (p, q)) :
    split s b = p :: split q b := by
  rw [split, if_neg hb]
  split
  · next hnone =>
      rw [h] at hnone
      cases hnone
  · next p' q' hsome =>
      rw [h] at hsome
      cases hsome
      rfl

theorem split_ne_nil {s b : List α} (hb : b ≠ []) : split s b ≠ [] := by
  cases h : s.dropInfix? b with
  | none =>
      rw [split_of_absent hb (dropInfix?_eq_none.mp h)]
      exact List.cons_ne_nil _ _
  | some pq =>
      rw [split_of_first (p := pq.1) (q := pq.2) hb h]
      exact List.cons_ne_nil _ _

/-- The number of occurrences `split` finds is zero when there is none. -/
theorem length_split_eq_zero_iff {s b : List α} (hb : b ≠ []) :
    (split s b).length - 1 = 0 ↔ ¬ b <:+: s := by
  constructor
  · intro hlen
    refine dropInfix?_eq_none.mp ?_
    cases h : s.dropInfix? b with
    | none => rfl
    | some pq =>
        exfalso
        have hne := List.length_pos_iff.mpr (split_ne_nil (s := pq.2) hb)
        rw [split_of_first (p := pq.1) (q := pq.2) hb h, List.length_cons] at hlen
        omega
  · intro habsent
    rw [split_of_absent hb habsent]
    rfl

/-- It is one exactly when the text, which does not overlap itself, occurs at one
place. -/
theorem length_split_eq_one_iff {s b : List α} (hb : b ≠ []) (hself : OnlyHead b b) :
    (split s b).length - 1 = 1 ↔ UniqueIn b s := by
  have hpos : 0 < b.length := List.length_pos_iff.mpr hb
  constructor
  · intro hlen
    cases h : s.dropInfix? b with
    | none =>
        rw [split_of_absent hb (dropInfix?_eq_none.mp h)] at hlen
        cases hlen
    | some pq =>
        obtain ⟨p, q⟩ := pq
        obtain ⟨hs, hmin⟩ := dropInfix?_eq_some.mp h
        rw [split_of_first hb h, List.length_cons] at hlen
        have hrest : ¬ b <:+: q := (length_split_eq_zero_iff hb).mp (by omega)
        refine ⟨p, q, hs, ?_⟩
        intro p' q' h'
        rcases hself (hs.symm.trans h') with hle | hle | heq
        · -- the second occurrence is in the rest
          exfalso
          rw [hs, List.append_assoc p' b q'] at h'
          have hle' : (p ++ b).length ≤ p'.length := by rwa [List.length_append]
          obtain ⟨d, -, hq⟩ := append_eq_append_of_le h' hle'
          exact hrest ⟨d, q', by rw [hq, List.append_assoc]⟩
        · have hfirst := hmin h'
          omega
        · exact heq.symm
  · rintro ⟨p, q, hs, honly⟩
    have hfirst : s.dropInfix? b = some (p, q) := by
      refine dropInfix?_eq_some.mpr ⟨hs, ?_⟩
      intro p' q' h'
      exact Nat.le_of_eq (congrArg List.length (honly h').symm)
    have hrest : ¬ b <:+: q := by
      rintro ⟨d, q', hq⟩
      have hp : p ++ b ++ d = p := by
        have hsecond : s = p ++ b ++ d ++ b ++ q' := by
          rw [hs, ← hq]
          simp only [List.append_assoc]
        exact honly hsecond
      have hlen := congrArg List.length hp
      simp only [List.length_append] at hlen
      omega
    rw [split_of_first hb hfirst, split_of_absent hb hrest]
    rfl

/-- The place a unique text is replaced at. -/
theorem replaceFirst_of_unique {s b p q : List α} (h : s = p ++ b ++ q)
    (honly : ∀ {p' q'}, s = p' ++ b ++ q' → p' = p) (n : List α) :
    replaceFirst s b n = p ++ n ++ q := by
  have hfirst : s.dropInfix? b = some (p, q) := by
    refine dropInfix?_eq_some.mpr ⟨h, ?_⟩
    intro p' q' h'
    exact Nat.le_of_eq (congrArg List.length (honly h').symm)
  rw [replaceFirst, hfirst]

/-- What does not overlap the pattern is still there after a replacement. -/
theorem infix_replaceFirst {s b n x : List α} (hclear : Clear x b) (hx : x <:+: s) :
    x <:+: replaceFirst s b n := by
  unfold replaceFirst
  cases h : s.dropInfix? b with
  | none => exact hx
  | some pq =>
      obtain ⟨p, q⟩ := pq
      obtain ⟨hs, -⟩ := dropInfix?_eq_some.mp h
      obtain ⟨p', q', hx⟩ := hx
      rcases hclear (hx.trans hs) with hle | hle
      · -- in front of it
        rw [hs, List.append_assoc p b q] at hx
        have hle' : (p' ++ x).length ≤ p.length := by rwa [List.length_append]
        obtain ⟨d, hp, -⟩ := append_eq_append_of_le hx hle'
        refine ⟨p', d ++ n ++ q, ?_⟩
        show p' ++ x ++ (d ++ n ++ q) = p ++ n ++ q
        rw [hp]
        simp only [List.append_assoc]
      · -- behind it
        rw [hs, List.append_assoc p' x q'] at hx
        have hle' : (p ++ b).length ≤ p'.length := by rwa [List.length_append]
        obtain ⟨d, -, hq⟩ := append_eq_append_of_le hx.symm hle'
        refine ⟨p ++ n ++ d, q', ?_⟩
        show p ++ n ++ d ++ x ++ q' = p ++ n ++ q
        rw [hq]
        simp only [List.append_assoc]

end Split

end Substitution
