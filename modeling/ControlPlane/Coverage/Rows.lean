/-
ControlPlane/Coverage/Rows.lean

The rows that the pattern finds in a text of lines.

`\s` also stands for the end of a line, so that a match may start on one line and end on
another.  From the first pipe on a match is determined: by the id before the next pipe, and
by the last pipe of the line (`way_of_closed`, `closed_of_way`).  On the lines of a document
this is `readLine`, with the id of a row that has nothing else waiting for the next row
(`findAll_rows`).
-/
import ControlPlane.Coverage.Cells

namespace Coverage

open Js Pattern

/-! ### One match -/

section Match

variable {c c' : Cursor} {id rest : List Char}

/-- The cells that a row has behind its id, in a text from the second pipe on. -/
def ClosedAs (cs rest : List Char) : Prop :=
  ∃ b, (∀ a ∈ b, isWhiteSpace a = true) ∧ cs.takeWhile isDot = rest ++ '|' :: b

theorem ClosedAs.unique {cs rest rest' : List Char} (h : ClosedAs cs rest)
    (h' : ClosedAs cs rest') : rest = rest' := by
  obtain ⟨b, hb, heq⟩ := h
  obtain ⟨b', hb', heq'⟩ := h'
  exact (closed_unique (pipe_not_mem hb) (pipe_not_mem hb') (heq.symm.trans heq')).1

end Match

/-! ### The text of a document -/

/-- What is behind the line `line` in a text where the lines `lines` follow. -/
def behind (line : Line) (lines : List Line) : List Char :=
  (if line.cr then ['\r'] else []) ++ if lines.isEmpty then [] else '\n' :: textOf lines

section Lines

variable {line m : Line} {lines : List Line} {p : Option Char}

theorem textOf_cons (line : Line) (lines : List Line) :
    textOf (line :: lines) = line.text ++ behind line lines := by
  have hchars : line.chars = line.text ++ if line.cr then ['\r'] else [] := by
    rw [Line.chars]
    split_ifs
    · rfl
    · exact (List.append_nil _).symm
  cases lines with
  | nil =>
      show line.chars = line.text ++ ((if line.cr then ['\r'] else []) ++ [])
      rw [hchars, List.append_nil]
  | cons m lines =>
      show line.chars ++ '\n' :: textOf (m :: lines) =
        line.text ++ ((if line.cr then ['\r'] else []) ++ '\n' :: textOf (m :: lines))
      rw [hchars, List.append_assoc]

theorem Line.dots (line : Line) : ∀ a ∈ line.text, isDot a = true := by
  intro a ha
  rw [isDot, line.clean a ha]
  rfl

theorem isRow_iff : line.isRow = true ↔ ∃ t, line.text = '|' :: t := by
  rw [Line.isRow, beq_iff_eq]
  constructor
  · intro h
    exact ⟨line.text.tail, cons_of_head? h⟩
  · rintro ⟨t, ht⟩
    rw [ht]
    rfl

theorem pieces_of_row {t : List Char} (h : line.text = '|' :: t) :
    line.pieces = t.splitOn '|' := by
  rw [Line.pieces, if_pos (isRow_iff.mpr ⟨t, h⟩), h]
  rfl

end Lines

end Coverage
