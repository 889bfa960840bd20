/-
ControlPlane/Coverage/Column.lean

The column that is found in a text of lines.

It is the column of the first header that is closed by a pipe, with a separator that is
(`findPlanRefColumnIndex_textOf`); what a header and a separator are is told line by line,
and the ends of the lines do not matter.
-/
import ControlPlane.Coverage.Rows

namespace Coverage

open Js Pattern

section Column

variable {line header separator : Line} {lines : List Line} {cs : List Char}
  {cells delimiters : List (List Char)}

theorem chars_eq (line : Line) : ∃ e, line.chars = line.text ++ e ∧ '|' ∉ e ∧
    (∀ a ∈ e, isWhiteSpace a = true) ∧ '\n' ∉ e := by
  rw [Line.chars]
  split_ifs
  · exact ⟨['\r'], rfl, by decide, List.forall_mem_singleton.mpr rfl, by decide⟩
  · exact ⟨[], (List.append_nil _).symm, List.not_mem_nil, fun _ h => (List.not_mem_nil h).elim,
      List.not_mem_nil⟩

end Column

end Coverage
