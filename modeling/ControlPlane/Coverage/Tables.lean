/-
ControlPlane/Coverage/Tables.lean

The plan and the criteria as the documents they are.

The criteria are tables between other lines.  A row starts with a pipe; the pipe after its
last cell may be left out, and one that is escaped does not end a cell.  Each table has its
own `Plan ref` column, or none.  `Covered` is what the gate is for, in these terms.

`asMeant` is the deliverables and the criteria that stand in the documents, `asRead` those
that are seen when rows are taken line by line and all at one column: a row counts when a
pipe ends it, and a row that has only its id takes the cells of the next one.
-/
import ControlPlane.Coverage.Script

namespace Coverage

open Js

/-! ### Ids -/

/-- Digits, and a small letter or nothing. -/
def isNumbered (cs : List Char) : Bool :=
  !(cs.takeWhile isDigit).isEmpty &&
    ((cs.dropWhile isDigit).isEmpty ||
      ((cs.dropWhile isDigit).length == 1 && (cs.dropWhile isDigit).all isSmall))

/-- `D1`, `D8b` -/
def isDeliverableId (cs : List Char) : Bool := cs.head? == some 'D' && isNumbered cs.tail

/-- `AC-FN-1`, `AC-REG-008a` -/
def isAcId (cs : List Char) : Bool :=
  let kind := (cs.drop 3).takeWhile isCapital
  let number := (cs.drop 3).dropWhile isCapital
  cs.take 3 == ['A', 'C', '-'] && !kind.isEmpty && number.head? == some '-' && isNumbered number.tail

/-- `AC-REG-` or `AC-REGRESSION-`; the letters before the number are capitals. -/
def IsRegression (acId : List Char) : Prop :=
  ∃ start rest, acId = start ++ rest ∧
    (SameNoCase "AC-REG-".toList start ∨ SameNoCase "AC-REGRESSION-".toList start)

/-- The ref says that there is none. -/
def IsBlank (planRef : List Char) : Prop := planRef = [] ∨ planRef = ['—'] ∨ planRef = ['-']

/-! ### Lines and cells -/

/-- A line without its end, which is `\r\n` or `\n`. -/
structure Line where
  text : List Char
  cr : Bool
  clean : ∀ c ∈ text, isLineTerminator c = false

/-- The characters of a line, up to its line feed. -/
def Line.chars (line : Line) : List Char := if line.cr then line.text ++ ['\r'] else line.text

/-- The text of the lines. -/
def textOf : List Line → List Char
  | [] => []
  | [line] => line.chars
  | line :: lines => line.chars ++ '\n' :: textOf lines

/-- A text at the pipes that are not escaped. -/
def splitCells : List Char → List (List Char)
  | [] => [[]]
  | '\\' :: '|' :: cs => (splitCells cs).modifyHead (['\\', '|'] ++ ·)
  | '|' :: cs => [] :: splitCells cs
  | c :: cs => (splitCells cs).modifyHead (c :: ·)

/-- The cells after the first pipe; nothing but blanks after the last pipe is no cell. -/
def cellsOf (cs : List Char) : List (List Char) :=
  let pieces := (splitCells cs).map trimChars
  if pieces.getLast? = some [] then pieces.dropLast else pieces

/-- A row begins with a pipe. -/
def Line.isRow (line : Line) : Bool := line.text.head? == some '|'

/-- The cells of a row, trimmed. -/
def Line.cells (line : Line) : List (List Char) :=
  if line.isRow then cellsOf line.text.tail else []

/-! ### Tables -/

/-- `---`, `:--`, `--:` or `:-:` -/
def IsDelimiter (cell : List Char) : Prop :=
  ∃ n, cell ∈ [List.replicate (n + 1) '-', ':' :: List.replicate (n + 1) '-',
    List.replicate (n + 1) '-' ++ [':'], ':' :: (List.replicate (n + 1) '-' ++ [':'])]

/-- A header, a separator and rows. -/
structure Table where
  header : Line
  separator : Line
  rows : List Line
  header_row : header.isRow = true
  separator_row : separator.isRow = true
  rows_row : ∀ line ∈ rows, line.isRow = true
  delimited : ∀ cell ∈ separator.cells, IsDelimiter cell
  width : separator.cells.length = header.cells.length

/-- A line between the tables: blank, or a text that starts neither a row nor with an id. -/
def Line.isOutside (line : Line) : Bool :=
  match line.text.dropWhile isWhiteSpace with
  | [] => true
  | c :: cs => c != '|' && !"AC-".toList.isPrefixOf (c :: cs)

/-- A line without anything to see. -/
def Line.isBlank (line : Line) : Bool := line.text.all isWhiteSpace

/-- A table, or a line outside of any. -/
inductive Block where
  | outside (line : Line) (h : line.isOutside = true)
  | table (t : Table)

/-- The lines of a block. -/
def Block.lines : Block → List Line
  | .outside line _ => [line]
  | .table t => t.header :: t.separator :: t.rows

/-- After a table there is a blank line, or nothing. -/
def Block.Follows : Block → Block → Prop
  | .table _, .outside line _ => line.isBlank = true
  | .table _, .table _ => False
  | .outside _ _, _ => True

/-- The criteria: tables between other lines. -/
structure AcsDocument where
  blocks : List Block
  separated : blocks.IsChain Block.Follows

/-- The lines of a document. -/
def AcsDocument.lines (acs : AcsDocument) : List Line := acs.blocks.flatMap Block.lines

/-- The text of a document. -/
def AcsDocument.text (acs : AcsDocument) : List Char := textOf acs.lines

/-! ### What the documents say -/

/-- A criterion and the cell for what it is for; there is none in a table without the column. -/
structure Criterion where
  acId : List Char
  planRef : Option (List Char)
deriving DecidableEq

/-- Where the column stands. -/
def planRefColumn (cells : List (List Char)) : Option ℕ :=
  cells.findIdx? fun cell => cell.map foldCase == "plan ref".toList.map foldCase

/-- The column with the refs, by the header of the table itself. -/
def Table.column (t : Table) : Option ℕ := planRefColumn t.header.cells

/-- The criterion of a row, with the cell at the column; a cell that is left out is blank. -/
def Table.criterion (t : Table) (line : Line) : Option Criterion :=
  match line.cells with
  | acId :: _ =>
    if isAcId acId then some ⟨acId, t.column.map fun k => line.cells[k]?.getD []⟩ else none
  | [] => none

/-- The criteria of a table. -/
def Table.criteria (t : Table) : List Criterion := t.rows.filterMap t.criterion

/-- The criteria of a block. -/
def Block.criteria : Block → List Criterion
  | .outside _ _ => []
  | .table t => t.criteria

/-- The criteria of a document. -/
def AcsDocument.criteria (acs : AcsDocument) : List Criterion := acs.blocks.flatMap Block.criteria

/-- A heading stands here. -/
def HeadingAt (cs : List Char) : Prop :=
  ∃ space name rest, cs = "##".toList ++ space ++ name ++ rest ∧
    (∀ c ∈ space, isWhiteSpace c = true) ∧ SameNoCase "Deliverables".toList name

/-- The text ends here, or the line and the next one is a heading. -/
def EndsAt (cs : List Char) : Prop :=
  cs = [] ∨ ∃ blank rest, isWhiteSpace blank = true ∧ cs = "\n##".toList ++ blank :: rest

/-- The section `body` of a text: from the heading to the next one, or to the end. -/
structure SectionAt (body rest : List Char) : Prop where
  heading : ∃ space name more, body = "##".toList ++ space ++ name ++ more ∧
    (∀ c ∈ space, isWhiteSpace c = true) ∧ SameNoCase "Deliverables".toList name ∧
    ∀ a b, more = a ++ b → b ≠ [] → ¬ EndsAt (b ++ rest)
  ends : EndsAt rest

/-- The section is in the text, and the text has no other heading of one. -/
def SingleSection (planText body : List Char) : Prop :=
  ∃ before after, planText = before ++ body ++ after ∧ SectionAt body after ∧
    (∀ a b, before = a ++ b → b ≠ [] → ¬ HeadingAt (b ++ body ++ after)) ∧
    ∀ a b, after = a ++ b → ¬ HeadingAt b

/-- What a pair of documents says: the deliverables, and the criteria. -/
structure Reading where
  deliverable : List Char → Prop
  criteria : List Criterion

/-- The cells before the last pipe, where only blanks follow it and another pipe is before it. -/
def closedCells (pieces : List (List Char)) : Option (List (List Char)) :=
  if 2 ≤ pieces.length ∧ (pieces.getLastD []).all isWhiteSpace then some pieces.dropLast else none

/-- The pieces of a row at all pipes, escaped or not. -/
def Line.pieces (line : Line) : List (List Char) :=
  if line.isRow then line.text.tail.splitOn '|' else []

/-- What a line adds to the rows: a row, or an id that waits for the cells of the next row. -/
def readLine (waiting : Option (List Char)) (line : Line) :
    Option (List Char × List (List Char)) × Option (List Char) :=
  match line.pieces with
  | [] => (none, if line.isBlank then waiting else none)
  | first :: others =>
    match waiting, closedCells (first :: others) with
    | some acId, some cells => (some (acId, cells), none)
    | _, _ =>
      if isAcId (trimChars first) then
        if others = [] then (none, some (trimChars first))
        else ((closedCells others).map fun cells => (trimChars first, cells), none)
      else (none, none)

/-- The criteria's ids and cells, read line by line. -/
def readLines : Option (List Char) → List Line → List (List Char × List (List Char))
  | _, [] => []
  | waiting, line :: lines =>
    (readLine waiting line).1.toList ++ readLines (readLine waiting line).2 lines

/-- The column of the first header with one that is closed, as is its separator. -/
def readColumn : List Line → Option ℕ
  | header :: separator :: lines =>
    match closedCells header.pieces, closedCells separator.pieces with
    | some cells, some delimiters =>
      if delimiters.all separatorCell.test then
        match planRefColumn (cells.map trimChars) with
        | some k => some k
        | none => readColumn (separator :: lines)
      else readColumn (separator :: lines)
    | _, _ => readColumn (separator :: lines)
  | _ => none

/-- The criteria as the script reads them. -/
def readCriteria (lines : List Line) : List Criterion :=
  match readColumn lines with
  | some (k + 1) => (readLines none lines).map fun row =>
      ⟨row.1, some (trimChars (row.2[k]?.getD []))⟩
  -- without a column, or with one where the ids stand, nothing is read
  | _ => []

/-- The first cell of a line, when there is a pipe after it. -/
def closedFirstCell : List Char → Option (List Char)
  | '|' :: cs =>
    match cs.splitOn '|' with
    | first :: _ :: _ => some (trimChars first)
    | _ => none
  | _ => none

/-- The id is a deliverable as the script reads the plan. -/
def ReadDeliverable (planText id : List Char) : Prop :=
  isDeliverableId id = true ∧ ∃ body, SingleSection planText body ∧
    ∃ line ∈ body.splitOn '\n', closedFirstCell line = some id

/-- What the script takes the documents to say. -/
def asRead (planText : List Char) (acs : AcsDocument) : Reading :=
  ⟨ReadDeliverable planText, readCriteria acs.lines⟩

end Coverage
