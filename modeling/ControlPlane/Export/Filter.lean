/-
ControlPlane/Export/Filter.lean

Which entries of the state directory belong in the export (`filterStateEntry`,
scripts/wrapper-state-export.mjs): closed include roots, excluded segments,
excluded basenames given by globs, and the narrow shape allowed below
`agents/<id>/agent`.

The filter reads a relative path as text and takes it apart again; on valid
names that recovers the segments (`toPosixSegments_joinPath`).  Two facts about
the filter carry the walk:

* `filterSegments_ancestor`: whatever is accepted has accepted ancestors, so a
  walk that prunes rejected directories loses nothing;
* `Clean.ne_sidecar`: a name ending in `-wal` or `-shm` is never accepted, so
  the placeholders written beside a snapshot never meet a copied file.
-/
import ControlPlane.Js.Text
import Mathlib.Data.List.Infix

namespace Export

open Js

/-! ### The lists -/

/-- What of the state is exported. -/
def STATE_EXPORT_INCLUDE : List String :=
  ["openclaw.json", "exec-approvals.json", "credentials", "devices", "cron", "identity",
   "memory", "state", "agents"]

/-- The direct children of `agents/<id>/agent` that are included. -/
def STATE_EXPORT_AGENT_ALLOWED : List String :=
  ["*.sqlite", "models.json", "auth-profiles*"]

/-- The directories that are left out wherever they are. -/
def STATE_EXPORT_EXCLUDE_SEGMENTS : List String :=
  ["bin", "lib", "media", "completions", "logs", "backups", "sessions", "plugins",
   "codex-home", "workspace", "nodes", "canvas", "skill-workshop", "plugin-skills",
   "workspace-attestations"]

/-- The names that are left out wherever they are. -/
def STATE_EXPORT_EXCLUDE_BASENAME_PATTERNS : List String :=
  ["*.bak*", "*-wal", "*-shm", "*.migrated"]

/-- The directory with the agents. -/
def AGENTS_ROOT : String := "agents"

/-- What of an agent is exported. -/
def AGENT_SUBDIR : String := "agent"

/-- What a database's name ends in. -/
def SQLITE_SUFFIX : String := ".sqlite"

/-- What the names of its companions end in besides. -/
def SQLITE_SIDECAR_SUFFIXES : List String := ["-wal", "-shm"]

/-! ### Globs -/

/-- A pattern after escaping: a literal character, or the `.*` a star becomes. -/
inductive Atom where
  | char (c : Char)
  | star
deriving DecidableEq

/-- The anchored expression of a glob; everything but the star is literal. -/
def globToRegExp (pattern : String) : List Atom :=
  pattern.toList.map fun c => if c = '*' then .star else .char c

/-- What can be left of a text after `.*`: the `.` stops at a line terminator. -/
def afterStar : List Char → List (List Char)
  | [] => [[]]
  | c :: cs => (c :: cs) :: if isLineTerminator c then [] else afterStar cs

/-- `re.test(text)` for an anchored expression. -/
def testAtoms : List Atom → List Char → Bool
  | [], cs => cs.isEmpty
  | .char c :: atoms, cs =>
    match cs with
    | [] => false
    | d :: ds => decide (c = d) && testAtoms atoms ds
  | .star :: atoms, cs => (afterStar cs).any (testAtoms atoms)

/-- Whether some pattern matches. -/
def matchesAny (patterns : List String) (value : String) : Bool :=
  patterns.any fun pattern => testAtoms (globToRegExp pattern) value.toList

/-! ### Paths -/

/-- Either separator of a path. -/
def isSeparator (c : Char) : Bool := c = '/' || c = '\\'

/-- The segments of a relative path in either notation. -/
def toPosixSegments (relativePath : String) : List String :=
  ((relativePath.toList.splitOnP isSeparator).map String.ofList).filter fun segment =>
    segment ≠ "" && segment ≠ "."

/-- `segments.join("/")`. -/
def joinPath (segments : List String) : String := "/".intercalate segments

/-! ### The filter -/

/-- What a directory entry is, without following links. -/
inductive EntryKind where
  | file
  | directory
  | symbolicLink
  | other
deriving DecidableEq

/-- `agents/<id>/agent/<allowed basename>`; directories only down to
`agents/<id>/agent`. -/
def agentShape (segments : List String) (isDirectory : Bool) : Bool :=
  if isDirectory then
    -- shorter paths are let through: they lead to the allowed files
    segments.length ≤ 3 && (segments.length < 3 || segments[2]? = some AGENT_SUBDIR)
  else
    segments.length = 4 && segments[2]? = some AGENT_SUBDIR &&
      segments.getLast?.any (matchesAny STATE_EXPORT_AGENT_ALLOWED)

/-- The part of the filter that looks at the segments. -/
def filterSegments (segments : List String) (isDirectory : Bool) : Bool :=
  match segments with
  -- the state directory itself
  | [] => isDirectory
  | root :: rest =>
    -- these two are looked for at every depth, the roots only at the first
    if (root :: rest).any fun s => s = ".." || STATE_EXPORT_EXCLUDE_SEGMENTS.contains s then false
    else if (root :: rest).any (matchesAny STATE_EXPORT_EXCLUDE_BASENAME_PATTERNS) then false
    else if root ∉ STATE_EXPORT_INCLUDE then false
    else if root = AGENTS_ROOT then agentShape (root :: rest) isDirectory
    else true

/-- Whether an entry is exported, by its path and kind. -/
def filterStateEntry (relativePath : String) : EntryKind → Bool
  | .symbolicLink => false
  | .other => false
  | .directory => filterSegments (toPosixSegments relativePath) true
  | .file => filterSegments (toPosixSegments relativePath) false

/-! ### Valid names -/

/-- A name a directory can hold, free of both separators and of line
terminators. -/
structure ValidName (name : String) : Prop where
  ne_empty : name ≠ ""
  ne_dot : name ≠ "."
  ne_dotdot : name ≠ ".."
  chars : ∀ c ∈ name.toList, isSeparator c = false ∧ isLineTerminator c = false

/-- The characters of a name, checked one after another. -/
theorem chars_of_all {l : List Char}
    (h : (l.all fun c => !isSeparator c && !isLineTerminator c) = true) :
    ∀ c ∈ l, isSeparator c = false ∧ isLineTerminator c = false := by
  intro c hc
  have hboth := List.all_eq_true.mp h c hc
  simpa using hboth

/-- Taking a joined path of valid names apart gives the names back. -/
theorem toPosixSegments_joinPath {segments : List String} (h : ∀ s ∈ segments, ValidName s) :
    toPosixSegments (joinPath segments) = segments := by
  have hkeep : ∀ l : List String, (∀ s ∈ l, ValidName s) →
      l.filter (fun s => s ≠ "" && s ≠ ".") = l := by
    intro l hl
    rw [List.filter_eq_self]
    intro s hs
    simp [(hl s hs).ne_empty, (hl s hs).ne_dot]
  -- the separators of the join are the only ones: induction on the names after the first
  have hsplit : ∀ s rest, (∀ t ∈ s :: rest, ValidName t) →
      (joinPath (s :: rest)).toList.splitOnP isSeparator = (s :: rest).map String.toList := by
    intro s rest
    induction rest generalizing s with
    | nil =>
        intro hv
        have hs := (hv s (by simp)).chars
        rw [joinPath, String.intercalate_singleton]
        exact List.splitOnP_eq_singleton fun c hc => (hs c hc).1
    | cons t rest ih =>
        intro hv
        have hs := (hv s (by simp)).chars
        have ht := ih t fun u hu => hv u (List.mem_cons_of_mem _ hu)
        have hslash : ("/" : String).toList = ['/'] := rfl
        rw [joinPath, String.intercalate_cons_cons, String.toList_append, String.toList_append,
          hslash, List.append_assoc, List.singleton_append,
          List.splitOnP_append_cons_of_forall_mem (fun c hc => (hs c hc).1) '/' rfl]
        rw [joinPath] at ht
        rw [ht]
        rfl
  cases segments with
  | nil => rfl
  | cons s rest =>
      rw [toPosixSegments, hsplit s rest h, List.map_map]
      have hid : (String.ofList ∘ String.toList) = id := by
        funext s
        exact String.ofList_toList
      rw [hid, List.map_id, hkeep _ h]

theorem joinPath_injective {p q : List String} (hp : ∀ s ∈ p, ValidName s)
    (hq : ∀ s ∈ q, ValidName s) (h : joinPath p = joinPath q) : p = q := by
  rw [← toPosixSegments_joinPath hp, h, toPosixSegments_joinPath hq]

/-! ### Pruning loses nothing -/

/-- No segment is excluded, by name or by pattern. -/
def Clean (segments : List String) : Prop :=
  ∀ s ∈ segments, s ≠ ".." ∧ s ∉ STATE_EXPORT_EXCLUDE_SEGMENTS ∧
    matchesAny STATE_EXPORT_EXCLUDE_BASENAME_PATTERNS s = false

/-- The filter, condition by condition. -/
theorem filterSegments_cons {root : String} {rest : List String} {isDirectory : Bool} :
    filterSegments (root :: rest) isDirectory = true ↔
      Clean (root :: rest) ∧ root ∈ STATE_EXPORT_INCLUDE ∧
        (root = AGENTS_ROOT → agentShape (root :: rest) isDirectory = true) := by
  have hclean : Clean (root :: rest) ↔
      ¬ (root :: rest).any (fun s => s = ".." || STATE_EXPORT_EXCLUDE_SEGMENTS.contains s) = true ∧
      ¬ (root :: rest).any (matchesAny STATE_EXPORT_EXCLUDE_BASENAME_PATTERNS) = true := by
    simp only [Clean, List.any_eq_true, not_exists, not_and, Bool.or_eq_true, decide_eq_true_eq,
      List.contains_iff_mem, not_or, Bool.not_eq_true]
    constructor
    · intro h
      exact ⟨fun s hs => ⟨(h s hs).1, (h s hs).2.1⟩, fun s hs => (h s hs).2.2⟩
    · rintro ⟨h₁, h₂⟩ s hs
      exact ⟨(h₁ s hs).1, (h₁ s hs).2, h₂ s hs⟩
  -- each test of the filter is one condition: reject where it fails, go on where it holds
  rw [hclean]
  show (if _ then false else if _ then false else if _ then false else if _ then _ else true)
    = true ↔ _
  split
  · next h => exact iff_of_false Bool.false_ne_true fun hr => hr.1.1 h
  · next h₁ =>
    split
    · next h => exact iff_of_false Bool.false_ne_true fun hr => hr.1.2 h
    · next h₂ =>
      split
      · next h => exact iff_of_false Bool.false_ne_true fun hr => h hr.2.1
      · next h₃ =>
        split
        · next hagents =>
          exact ⟨fun h => ⟨⟨h₁, h₂⟩, not_not.mp h₃, fun _ => h⟩, fun h => h.2.2 hagents⟩
        · next hagents =>
          exact ⟨fun _ => ⟨⟨h₁, h₂⟩, not_not.mp h₃, fun h => absurd h hagents⟩, fun _ => rfl⟩

/-- **Ancestors of what is accepted are accepted**, as directories. -/
theorem filterSegments_ancestor {dir below : List String} (hbelow : below ≠ [])
    (h : filterSegments (dir ++ below) false = true) : filterSegments dir true = true := by
  cases dir with
  | nil => rfl
  | cons root rest =>
      rw [List.cons_append, filterSegments_cons] at h
      obtain ⟨hclean, hroot, hshape⟩ := h
      rw [filterSegments_cons]
      refine ⟨fun s hs => hclean s ?_, hroot, fun hagents => ?_⟩
      · rw [← List.cons_append]
        exact List.mem_append_left below hs
      · have hfile := hshape hagents
        simp only [agentShape, Bool.false_eq_true, if_false, Bool.and_eq_true,
          decide_eq_true_eq] at hfile
        obtain ⟨⟨hlen, hagent⟩, -⟩ := hfile
        have hpos : 0 < below.length := List.length_pos_of_ne_nil hbelow
        rw [List.length_cons, List.length_append] at hlen
        simp only [agentShape, if_true, Bool.and_eq_true, Bool.or_eq_true, decide_eq_true_eq,
          List.length_cons]
        refine ⟨by omega, ?_⟩
        by_cases h3 : rest.length + 1 < 3
        · exact .inl h3
        · -- the third segment of the longer path is already the third one here
          have hlt : 2 < (root :: rest).length := by
            rw [List.length_cons]
            omega
          rw [← List.cons_append, List.getElem?_append_left hlt] at hagent
          exact .inr hagent

/-! ### Placeholders are never accepted -/

theorem suffix_mem_afterStar {before after : List Char}
    (h : ∀ c ∈ before, isLineTerminator c = false) :
    after ∈ afterStar (before ++ after) := by
  induction before with
  | nil => cases after <;> simp [afterStar]
  | cons c cs ih =>
      have hc := h c (by simp)
      have hcs := ih fun d hd => h d (List.mem_cons_of_mem _ hd)
      simp [afterStar, hc, hcs]

theorem testAtoms_literal (cs : List Char) : testAtoms (cs.map .char) cs = true := by
  induction cs with
  | nil => rfl
  | cons c cs ih => simp [testAtoms, ih]

/-- `*suffix` matches every name with that suffix. -/
theorem testAtoms_star_suffix {before after : List Char}
    (h : ∀ c ∈ before, isLineTerminator c = false) :
    testAtoms (.star :: after.map .char) (before ++ after) = true := by
  rw [testAtoms, List.any_eq_true]
  exact ⟨after, suffix_mem_afterStar h, testAtoms_literal after⟩

/-- The name of a placeholder is excluded. -/
theorem matchesAny_sidecar {name suffix : String} (h : ValidName name)
    (hs : suffix ∈ SQLITE_SIDECAR_SUFFIXES) :
    matchesAny STATE_EXPORT_EXCLUDE_BASENAME_PATTERNS (name ++ suffix) = true := by
  have hline : ∀ c ∈ name.toList, isLineTerminator c = false := fun c hc => (h.chars c hc).2
  rw [matchesAny, List.any_eq_true]
  simp only [SQLITE_SIDECAR_SUFFIXES, List.mem_cons, List.not_mem_nil, or_false] at hs
  rcases hs with rfl | rfl
  · refine ⟨"*-wal", by decide, ?_⟩
    rw [String.toList_append]
    exact testAtoms_star_suffix hline
  · refine ⟨"*-shm", by decide, ?_⟩
    rw [String.toList_append]
    exact testAtoms_star_suffix hline

/-- No accepted path has a placeholder's name in it. -/
theorem Clean.ne_sidecar {segments : List String} (h : Clean segments) {name suffix : String}
    (hn : ValidName name) (hs : suffix ∈ SQLITE_SIDECAR_SUFFIXES) : name ++ suffix ∉ segments := by
  intro hmem
  have := (h _ hmem).2.2
  rw [matchesAny_sidecar hn hs] at this
  cases this

end Export
