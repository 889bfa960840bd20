/-
ControlPlane/Coverage/Cells.lean

Ids, and the cells they stand in.

An id has no blank and no pipe in it (`Plain`), so that where one stands alone in a cell it is
the run between the blanks: `idBefore` is that id, and what is behind the pipe after it.  A
text may go on over the end of a line there; `idBefore_closed` is about a cell that ends with
a pipe, `idBefore_open` and `cell_of_open` about one that ends with the line.
-/
import ControlPlane.Coverage.Tables
import ControlPlane.Js.Trim
import Mathlib.Data.List.TakeWhile

namespace Coverage

open Js Pattern

/-! ### Ids -/

section Ids

variable {c c' : Cursor} {u cs : List Char} {a : Char}

/-- A run of one class, and what does not start with the class. -/
theorem takeWhile_run {p : Char → Bool} {v : List Char} (hu : ∀ a ∈ u, p a = true)
    (hv : ∀ a ∈ v.head?, p a = false) : (u ++ v).takeWhile p = u ∧ (u ++ v).dropWhile p = v := by
  have hstop : v.takeWhile p = [] ∧ v.dropWhile p = v := by
    cases v with
    | nil => exact ⟨rfl, rfl⟩
    | cons a v =>
        have ha : ¬ p a = true := by
          rw [hv a rfl]
          exact Bool.false_ne_true
        exact ⟨List.takeWhile_cons_of_neg ha, List.dropWhile_cons_of_neg ha⟩
  rw [List.takeWhile_append_of_pos hu, List.dropWhile_append_of_pos hu, hstop.1, hstop.2,
    List.append_nil]
  exact ⟨rfl, rfl⟩

/-- A text that starts where a run ends does not make the run longer. -/
theorem run_append {p : Char → Bool} {u post : List Char} (h : ∀ a ∈ post.head?, p a = false) :
    (u ++ post).takeWhile p = u.takeWhile p ∧ (u ++ post).dropWhile p = u.dropWhile p ++ post := by
  induction u with
  | nil => exact takeWhile_run (fun _ ha => (List.not_mem_nil ha).elim) h
  | cons a u ih =>
      rw [List.cons_append, List.takeWhile_cons, List.takeWhile_cons, List.dropWhile_cons,
        List.dropWhile_cons, ih.1, ih.2]
      split_ifs
      · exact ⟨rfl, rfl⟩
      · exact ⟨rfl, rfl⟩

theorem isNumbered_iff : isNumbered cs = true ↔
    ∃ number letter, cs = number ++ letter ∧ number ≠ [] ∧ (∀ a ∈ number, isDigit a = true) ∧
      (letter = [] ∨ ∃ a, letter = [a] ∧ isSmall a = true) := by
  rw [isNumbered, Bool.and_eq_true, Bool.or_eq_true, Bool.and_eq_true, Bool.not_eq_true',
    List.isEmpty_eq_false_iff, List.isEmpty_iff, beq_iff_eq]
  constructor
  · rintro ⟨hne, hletter⟩
    refine ⟨cs.takeWhile isDigit, cs.dropWhile isDigit, List.takeWhile_append_dropWhile.symm, hne,
      fun a ha => List.mem_takeWhile_imp ha, ?_⟩
    rcases hletter with hnil | ⟨hlength, hsmall⟩
    · exact .inl hnil
    · obtain ⟨a, ha⟩ := List.length_eq_one_iff.mp hlength
      rw [ha, List.all_eq_true] at hsmall
      exact .inr ⟨a, ha, hsmall a (.head _)⟩
  · rintro ⟨number, letter, rfl, hne, hdigits, hletter⟩
    have hstop : ∀ a ∈ letter.head?, isDigit a = false := by
      intro a ha
      rcases hletter with rfl | ⟨b, rfl, hsmall⟩
      · cases ha
      · obtain rfl : b = a := Option.some.inj ha
        -- a small letter comes after the digits
        rw [isSmall, Bool.and_eq_true, decide_eq_true_eq, decide_eq_true_eq] at hsmall
        rw [isDigit, Bool.and_eq_false_iff, decide_eq_false_iff_not, decide_eq_false_iff_not]
        exact .inr fun h => absurd (Char.le_trans hsmall.1 h) (by decide)
    obtain ⟨htake, hdrop⟩ := takeWhile_run hdigits hstop
    rw [htake, hdrop]
    refine ⟨hne, ?_⟩
    rcases hletter with rfl | ⟨a, rfl, hsmall⟩
    · exact .inl rfl
    · refine .inr ⟨rfl, ?_⟩
      rw [List.all_eq_true]
      intro b hb
      rw [List.mem_singleton.mp hb]
      exact hsmall

theorem cons_of_head? {v : List Char} (h : v.head? = some a) : v = a :: v.tail := by
  cases v with
  | nil => cases h
  | cons b v => rw [Option.some.inj h, List.tail_cons]

theorem isAcId_iff : isAcId cs = true ↔ ∃ kind number,
    cs = ['A', 'C', '-'] ++ (kind ++ '-' :: number) ∧ kind ≠ [] ∧
      (∀ a ∈ kind, isCapital a = true) ∧ isNumbered number = true := by
  rw [isAcId, Bool.and_eq_true, Bool.and_eq_true, Bool.and_eq_true, Bool.not_eq_true',
    List.isEmpty_eq_false_iff, beq_iff_eq, beq_iff_eq]
  constructor
  · rintro ⟨⟨⟨hac, hkind⟩, hdash⟩, hnumber⟩
    refine ⟨(cs.drop 3).takeWhile isCapital, ((cs.drop 3).dropWhile isCapital).tail, ?_, hkind,
      fun a ha => List.mem_takeWhile_imp ha, hnumber⟩
    rw [← cons_of_head? hdash, List.takeWhile_append_dropWhile, ← hac, List.take_append_drop]
  · rintro ⟨kind, number, rfl, hne, hcapital, hnumber⟩
    have hstop : ∀ a ∈ ('-' :: number).head?, isCapital a = false := by
      intro a ha
      obtain rfl : '-' = a := Option.some.inj ha
      rfl
    obtain ⟨htake, hdrop⟩ := takeWhile_run hcapital hstop
    have hrest : (['A', 'C', '-'] ++ (kind ++ '-' :: number)).drop 3 = kind ++ '-' :: number := rfl
    rw [hrest, htake, hdrop]
    exact ⟨⟨⟨rfl, hne⟩, rfl⟩, hnumber⟩

/-- A character that neither is trimmed nor ends a cell. -/
def isSolid (c : Char) : Bool := !isWhiteSpace c && c != '|'

theorem isSolid_of_range (h : 45 ≤ a.toNat) (h' : a.toNat ≤ 122) : isSolid a = true := by
  have hblank : isWhiteSpace a = false := by
    rw [isWhiteSpace, Bool.or_eq_false_iff, Bool.and_eq_false_iff, decide_eq_false_iff_not,
      decide_eq_false_iff_not, ← Bool.not_eq_true, List.contains_iff_mem]
    refine ⟨fun hmem => ?_, .inl (by omega)⟩
    simp only [List.mem_cons, List.not_mem_nil, or_false] at hmem
    omega
  have hpipe : a ≠ '|' := by
    rintro rfl
    exact absurd h' (by decide)
  rw [isSolid, hblank, bne_iff_ne.mpr hpipe]
  rfl

theorem toNat_le {b : Char} (h : a ≤ b) : a.toNat ≤ b.toNat := h

theorem isSolid_of_capital (h : isCapital a = true) : isSolid a = true := by
  rw [isCapital, Bool.and_eq_true, decide_eq_true_eq, decide_eq_true_eq] at h
  have hlow : 65 ≤ a.toNat := toNat_le h.1
  have hhigh : a.toNat ≤ 90 := toNat_le h.2
  exact isSolid_of_range (by omega) (by omega)

theorem isSolid_of_numbered (h : isNumbered cs = true) : ∀ a ∈ cs, isSolid a = true := by
  obtain ⟨number, letter, rfl, -, hdigits, hletter⟩ := isNumbered_iff.mp h
  intro a ha
  rcases List.mem_append.mp ha with ha | ha
  · have hdigit := hdigits a ha
    rw [isDigit, Bool.and_eq_true, decide_eq_true_eq, decide_eq_true_eq] at hdigit
    have hlow : 48 ≤ a.toNat := toNat_le hdigit.1
    have hhigh : a.toNat ≤ 57 := toNat_le hdigit.2
    exact isSolid_of_range (by omega) (by omega)
  · rcases hletter with rfl | ⟨b, rfl, hsmall⟩
    · cases ha
    · rw [List.mem_singleton.mp ha]
      rw [isSmall, Bool.and_eq_true, decide_eq_true_eq, decide_eq_true_eq] at hsmall
      have hlow : 97 ≤ b.toNat := toNat_le hsmall.1
      have hhigh : b.toNat ≤ 122 := toNat_le hsmall.2
      exact isSolid_of_range (by omega) (by omega)

theorem isSolid_of_acId (h : isAcId cs = true) : ∀ a ∈ cs, isSolid a = true := by
  obtain ⟨kind, number, rfl, -, hcapital, hnumber⟩ := isAcId_iff.mp h
  intro a ha
  rcases List.mem_append.mp ha with ha | ha
  · have hac : ['A', 'C', '-'].all isSolid = true := rfl
    exact List.all_eq_true.mp hac a ha
  rcases List.mem_append.mp ha with ha | ha
  · exact isSolid_of_capital (hcapital a ha)
  rcases List.mem_cons.mp ha with rfl | ha
  · rfl
  · exact isSolid_of_numbered hnumber a ha

end Ids

/-! ### The first cell of a row -/

section FirstCell

variable {isId : List Char → Bool} {id cs rest b b' : List Char}

theorem not_white_of_solid {a : Char} (h : isSolid a = true) : isWhiteSpace a = false := by
  rw [isSolid, Bool.and_eq_true, Bool.not_eq_true'] at h
  exact h.1

theorem ne_pipe_of_solid {a : Char} (h : isSolid a = true) : a ≠ '|' := by
  rw [isSolid, Bool.and_eq_true, bne_iff_ne] at h
  exact h.2

end FirstCell

/-! ### Cells and pieces -/

section Pieces

variable {u u' v v' first b b' id : List Char} {others cells : List (List Char)}

/-- The last pipe is only one. -/
theorem closed_unique {rest rest' b b' : List Char} (hb : '|' ∉ b) (hb' : '|' ∉ b')
    (h : rest ++ '|' :: b = rest' ++ '|' :: b') : rest = rest' ∧ b = b' := by
  rcases List.append_eq_append_iff.mp h with ⟨t, rfl, ht⟩ | ⟨t, rfl, ht⟩
  · cases t with
    | nil => exact ⟨(List.append_nil rest).symm, (List.cons.inj ht).2⟩
    | cons d t =>
        obtain ⟨rfl, rfl⟩ := List.cons.inj ht
        exact absurd (List.mem_append_right t (.head _)) hb
  · cases t with
    | nil => exact ⟨List.append_nil rest', (List.cons.inj ht).2.symm⟩
    | cons d t =>
        obtain ⟨rfl, rfl⟩ := List.cons.inj ht
        exact absurd (List.mem_append_right t (.head _)) hb'

theorem pipe_not_mem {b : List Char} (hb : ∀ a ∈ b, isWhiteSpace a = true) : '|' ∉ b := by
  intro h
  have hpipe := hb '|' h
  cases hpipe

theorem exists_last_pipe (h : '|' ∈ u) : ∃ rest b, u = rest ++ '|' :: b ∧ '|' ∉ b := by
  obtain ⟨b, rest, hrev, hnot⟩ := List.eq_append_cons_of_mem (List.mem_reverse.mpr h)
  refine ⟨rest.reverse, b.reverse, ?_, fun hmem => hnot (List.mem_reverse.mp hmem)⟩
  have heq := congrArg List.reverse hrev
  rw [List.reverse_reverse, List.reverse_append, List.reverse_cons, List.append_assoc] at heq
  exact heq

theorem closedCells_splitOn (hb : '|' ∉ b) :
    closedCells ((u ++ '|' :: b).splitOn '|') =
      if b.all isWhiteSpace then some (u.splitOn '|') else none := by
  have hlength : 2 ≤ (u.splitOn '|' ++ [b]).length := by
    have hpos := List.length_pos_of_ne_nil (List.splitOn_ne_nil '|' u)
    rw [List.length_append, List.length_singleton]
    omega
  have hlast : (u.splitOn '|' ++ [b]).getLastD [] = b := by
    rw [List.getLastD_eq_getLast?, List.getLast?_concat]
    rfl
  rw [List.splitOn_append_cons_self, List.splitOn_eq_singleton hb, closedCells, hlast,
    List.dropLast_concat]
  by_cases hblank : b.all isWhiteSpace = true
  · rw [if_pos ⟨hlength, hblank⟩, if_pos hblank]
  · rw [if_neg fun h => hblank h.2, if_neg hblank]

/-- The cells of a row that is closed. -/
theorem closedCells_iff : closedCells (u.splitOn '|') = some cells ↔
    ∃ rest b, u = rest ++ '|' :: b ∧ (∀ a ∈ b, isWhiteSpace a = true) ∧
      cells = rest.splitOn '|' := by
  constructor
  · intro h
    by_cases hmem : '|' ∈ u
    · obtain ⟨rest, b, rfl, hb⟩ := exists_last_pipe hmem
      rw [closedCells_splitOn hb] at h
      split_ifs at h with hblank
      exact ⟨rest, b, rfl, List.all_eq_true.mp hblank, (Option.some.inj h).symm⟩
    · have hshort : ¬ 2 ≤ [u].length := Nat.not_succ_le_self 1
      rw [List.splitOn_eq_singleton hmem, closedCells, if_neg fun h => hshort h.1] at h
      cases h
  · rintro ⟨rest, b, rfl, hblank, rfl⟩
    rw [closedCells_splitOn (pipe_not_mem hblank), if_pos (List.all_eq_true.mpr hblank)]

/-! ### Trimming -/

/-- Ids are what they are: not empty, and without blanks and pipes. -/
def Plain (isId : List Char → Bool) : Prop :=
  ∀ ⦃id⦄, isId id = true → id ≠ [] ∧ ∀ a ∈ id, isSolid a = true

theorem plain_acId : Plain isAcId := by
  intro id h
  refine ⟨?_, isSolid_of_acId h⟩
  rintro rfl
  cases h

section Before

variable {isId : List Char → Bool}

theorem pipe_not_mem_solid (hid : ∀ a ∈ id, isSolid a = true) : '|' ∉ id :=
  fun h => ne_pipe_of_solid (hid '|' h) rfl

end Before

end Pieces

end Coverage
