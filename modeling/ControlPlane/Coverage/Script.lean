/-
ControlPlane/Coverage/Script.lean

The gate that a plan passes before it is implemented (`check-acs-coverage`).

It reads two Markdown files: the plan, with the ids of its deliverables in one section,
and the acceptance criteria (ACs), with a table row each and a cell in it that names the
deliverables the criterion is for.  The patterns are the regular expressions of the script,
piece by piece; `Except` is the exit, with the text that is written to the standard error,
or to the standard output when it is zero.
-/
import ControlPlane.Js.Pattern

namespace Coverage

open Js

/-! ### The patterns -/

/-- `[0-9]`. -/
def isDigit (c : Char) : Bool := '0' ≤ c && c ≤ '9'

/-- `[A-Z]`. -/
def isCapital (c : Char) : Bool := 'A' ≤ c && c ≤ 'Z'

/-- `[a-z]`. -/
def isSmall (c : Char) : Bool := 'a' ≤ c && c ≤ 'z'

/-- `.` -/
def isDot (c : Char) : Bool := !isLineTerminator c

/-- A pipe. -/
def pipe : Pattern Char := .one (· == '|')

/-- `\s*` -/
def blanks : Pattern (List Char) := .many isWhiteSpace

/-- `[a-z]?` -/
def suffix : Pattern (List Char) := .optional (do let letter ← .one isSmall; pure [letter])

/-- `\d+[a-z]?` -/
def numbered : Pattern (List Char) := do
  let number ← .several isDigit
  let letter ← suffix
  pure (number ++ letter)

/-- `\n##\s` -/
def nextHeading : Pattern Unit := do
  let _ ← .word "\n##"
  let _ ← .one isWhiteSpace
  pure ()

/-- `##\s*Deliverables` under the flag `i` -/
def sectionHeading : Pattern (List Char) := do
  let marks ← .word "##"
  let space ← blanks
  let name ← .wordNoCase "Deliverables"
  pure (marks ++ space ++ name)

/-- `/##\s*Deliverables[\s\S]*?(?=\n##\s|$)/gi` -/
def sectionPattern : Pattern (List Char) := do
  let heading ← sectionHeading
  let body ← .lazily fun _ => true
  .ahead (.either nextHeading .textEnd)
  pure (heading ++ body)

/-- `D\d+[a-z]?` -/
def deliverableId : Pattern (List Char) := do
  let d ← .word "D"
  let number ← numbered
  pure (d ++ number)

/-- `/^\|\s*(D\d+[a-z]?)\s*\|/` -/
def deliverablePattern : Pattern (List Char) := do
  .textStart
  let _ ← pipe
  let _ ← blanks
  let id ← deliverableId
  let _ ← blanks
  let _ ← pipe
  pure id

/-- `/^\|.*\|\s*$/` -/
def tableLine : Pattern Unit := do
  .textStart
  let _ ← pipe
  let _ ← .many isDot
  let _ ← pipe
  let _ ← blanks
  .textEnd

/-- A colon or nothing. -/
def colon : Pattern (List Char) := .optional (.word ":")

/-- `/^\s*:?-+:?\s*$/` -/
def separatorCell : Pattern Unit := do
  .textStart
  let _ ← blanks
  let _ ← colon
  let _ ← .several (· == '-')
  let _ ← colon
  let _ ← blanks
  .textEnd

/-- `/^plan ref$/i` -/
def planRefHeader : Pattern Unit := do
  .textStart
  let _ ← .wordNoCase "plan ref"
  .textEnd

/-- `AC-[A-Z]+-\d+[a-z]?` -/
def acIdPattern : Pattern (List Char) := do
  let ac ← .word "AC-"
  let kind ← .several isCapital
  let dash ← .word "-"
  let number ← numbered
  pure (ac ++ kind ++ dash ++ number)

/-- `/^\|\s*(AC-[A-Z]+-\d+[a-z]?)\s*\|(.*)\|\s*$/gm` -/
def rowPattern : Pattern (List Char × List Char) := do
  .lineStart
  let _ ← pipe
  let _ ← blanks
  let acId ← acIdPattern
  let _ ← blanks
  let _ ← pipe
  let rest ← .many isDot
  let _ ← pipe
  let _ ← blanks
  .lineEnd
  pure (acId, rest)

/-- `^AC-REG(?:RESSION)?-` under the flag `i` -/
def regressionPattern : Pattern Unit := do
  .textStart
  let _ ← .wordNoCase "AC-REG"
  let _ ← .optional (.wordNoCase "RESSION")
  let _ ← .wordNoCase "-"
  pure ()

/-! ### The deliverables -/

/-- `ids.add(id)` -/
def addId (ids : List (List Char)) (id : List Char) : List (List Char) :=
  if id ∈ ids then ids else ids ++ [id]

/-- The bodies of the sections on deliverables. -/
def deliverableSections (planText : List Char) : List (List Char) := sectionPattern.findAll planText

/-- The ids in the rows of such a body. -/
def sectionIds (body : List Char) : List (List Char) :=
  (body.splitOn '\n').foldl (fun ids line =>
    match deliverablePattern.exec line with
    | some id => addId ids id
    | none => ids) []

/-- The deliverables of a plan, which has one section on them. -/
def parseDeliverableIds (planText : List Char) : Except String (List (List Char)) :=
  match deliverableSections planText with
  | [] => .error "Gate 1: plan.md has no '## Deliverables' section."
  | [body] =>
    if (sectionIds body).length = 0 then
      .error "Gate 1: no deliverable IDs (D1, D2, ...) found in plan.md's Deliverables table."
    else .ok (sectionIds body)
  | sections => .error ("Gate 1: plan.md has " ++ toString sections.length ++
      " '## Deliverables' sections — expected exactly one. " ++
      "Merge them into a single section so deliverable coverage can be checked unambiguously.")

/-! ### The criteria -/

/-- `line.split("|").slice(1, -1)` -/
def lineCells (line : List Char) : List (List Char) := (line.splitOn '|').tail.dropLast

/-- The column of the header, when the two lines are a header with one and its separator. -/
def headerColumn (header separator : List Char) : Option ℕ :=
  if !tableLine.test header then none
  else if !tableLine.test separator then none
  else if (lineCells separator).length = 0 || !(lineCells separator).all separatorCell.test then none
  else ((lineCells header).map trimChars).findIdx? planRefHeader.test

/-- The first header with the column; the loop over the lines. -/
def firstColumn : List (List Char) → Option ℕ
  | header :: separator :: lines =>
    match headerColumn header separator with
    | some idx => some idx
    | none => firstColumn (separator :: lines)
  | _ => none

/-- The column of the first header with a cell for the plan's refs. -/
def findPlanRefColumnIndex (acsText : List Char) : Option ℕ := firstColumn (acsText.splitOn '\n')

/-- A criterion with its ref. -/
structure AcRow where
  acId : List Char
  planRef : List Char
deriving DecidableEq

/-- A row, read at the column found for the whole text; the cell of the id is not counted. -/
def readRow (column : ℕ) (row : List Char × List Char) : AcRow :=
  let restCells := (row.2.splitOn '|').map trimChars
  ⟨row.1, trimChars (restCells[column]?.getD [])⟩

/-- The criteria of a document with their refs. -/
def parseAcPlanRefs (acsText : List Char) : Except String (List AcRow) :=
  match findPlanRefColumnIndex acsText with
  | none => .error ("Gate 1: ACs.md has no 'Plan ref' table column header (a real markdown " ++
      "table header row immediately followed by a '| --- |' separator row). " ++
      "This looks like a pre-adoption ACs table (see docs/plans/runtime-registry-" ++
      "version-compatibility/ACs.md for the older AC/Deliverable/What/Test/" ++
      "Pass-condition shape) — Gate 1 only applies to tables using the current " ++
      "convention (Plan ref + Role columns; see docs/AGENTIC-WORKFLOW.md).")
  | some 0 => .error ("Gate 1: 'Plan ref' is the table's first column, but Gate 1 assumes the " ++
      "AC id (AC-XXX-N) is always column 1. Reorder the table so the AC id " ++
      "comes first.")
  | some (column + 1) =>
    -- one column for the rows of all tables
    let rows := (rowPattern.findAll acsText).map (readRow column)
    if rows.length = 0 then .error "Gate 1: no AC rows (AC-XXX-N) found in ACs.md."
    else .ok rows

/-! ### The comparison -/

/-- Whether a ref says that there is none. -/
def isBlankRef (planRef : List Char) : Bool :=
  planRef == [] || planRef == ['—'] || planRef == ['-']

/-- `planRef.split(",").map((s) => s.trim())` -/
def refIds (planRef : List Char) : List (List Char) := (planRef.splitOn ',').map trimChars

/-- A criterion whose ref is no deliverable. -/
structure OrphanAc where
  acId : List Char
  planRef : List Char
  invalidIds : List (List Char)

/-- What the check has found. -/
structure Findings where
  referenced : List (List Char)
  orphanAcs : List OrphanAc

/-- What one row adds. -/
def checkRow (deliverableIds : List (List Char)) (found : Findings) (row : AcRow) : Findings :=
  if isBlankRef row.planRef then
    -- only a regression row may do without
    if regressionPattern.test row.acId then found
    else { found with
      orphanAcs := found.orphanAcs ++
        [⟨row.acId, "(blank)".toList, ["(missing Plan ref)".toList]⟩] }
  else
    let ids := refIds row.planRef
    let invalidIds := ids.filter fun id => id ∉ deliverableIds
    let referenced := (ids.filter fun id => id ∈ deliverableIds).foldl addId found.referenced
    -- one id that does not exist is enough
    if 0 < invalidIds.length then
      ⟨referenced, found.orphanAcs ++ [⟨row.acId, row.planRef, invalidIds⟩]⟩
    else ⟨referenced, found.orphanAcs⟩

/-- The criteria against the deliverables. -/
def checkRows (deliverableIds : List (List Char)) (acRows : List AcRow) : Findings :=
  acRows.foldl (checkRow deliverableIds) ⟨[], []⟩

/-- `basename(path)` -/
def basename (path : String) : String :=
  String.ofList ((path.toList.reverse.dropWhile (· == '/')).takeWhile (· != '/')).reverse

/-- The characters as a text. -/
def text (cs : List Char) : String := String.ofList cs

/-- The line about a criterion without its deliverable. -/
def orphanAcLine (orphan : OrphanAc) : String :=
  "  - " ++ text orphan.acId ++ " (Plan ref: \"" ++ text orphan.planRef ++ "\", invalid: " ++
    ", ".intercalate (orphan.invalidIds.map text) ++ ")"

/-- The two lists of what does not fit. -/
def mismatch (planPath acsPath : String) (orphanDeliverables : List (List Char))
    (orphanAcs : List OrphanAc) : String :=
  "\n".intercalate (
    ["Gate 1 FAILED: " ++ basename planPath ++ " <-> " ++ basename acsPath ++
      " coverage mismatch."] ++
    (if 0 < orphanDeliverables.length then
      "\nDeliverables with no AC row referencing them:" ::
        orphanDeliverables.map fun id => "  - " ++ text id
    else []) ++
    if 0 < orphanAcs.length then
      "\nAC rows with an invalid Plan ref (matches no deliverable):" :: orphanAcs.map orphanAcLine
    else [])

/-- The script on the texts of the two files. -/
def checkCoverage (planPath acsPath : String) (planText acsText : List Char) :
    Except String String := do
  let deliverableIds ← parseDeliverableIds planText
  let acRows ← parseAcPlanRefs acsText
  let found := checkRows deliverableIds acRows
  let orphanDeliverables := deliverableIds.filter fun id => id ∉ found.referenced
  if 0 < found.orphanAcs.length || 0 < orphanDeliverables.length then
    .error (mismatch planPath acsPath orphanDeliverables found.orphanAcs)
  else
    .ok ("Gate 1 passed: " ++ toString deliverableIds.length ++ " deliverable(s), " ++
      toString acRows.length ++ " AC row(s), 0 orphans.\n")

/-- `main()`; `readFile` gives the text of a file, or the code of the error. -/
def main (argv : List String) (readFile : String → Except String (List Char)) :
    Except String String :=
  let planPath := argv[2]?.getD ""
  let acsPath := argv[3]?.getD ""
  if planPath = "" || acsPath = "" then
    .error "Usage: node scripts/check-acs-coverage.mjs <plan.md> <ACs.md>"
  else match readFile planPath with
    | .error code => .error ("Gate 1: could not read plan file \"" ++ planPath ++ "\" (" ++ code ++ ").")
    | .ok planText =>
      match readFile acsPath with
      | .error code =>
        .error ("Gate 1: could not read ACs file \"" ++ acsPath ++ "\" (" ++ code ++ ").")
      | .ok acsText => checkCoverage planPath acsPath planText acsText

end Coverage
