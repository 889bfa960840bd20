/-
ControlPlane/Export/Walk.lean

The export walk (`buildStateExportTree`): sorted, depth first, pruning every
rejected directory, accounting bytes against the cap before each file is
written.

A directory's entries are visited in the order of their names, so its visit is
built as one action for each entry and the actions are sorted; the recursion
stays structural.  `Node.visit_eq` flattens the walk: visiting a node is
exporting, one after another, the files of `Node.exported`, and
`Entries.mem_exported_iff` says what these are: the regular files the filter
accepts by their own path, although the walk asks about directories as well.
-/
import ControlPlane.Export.Tree
import Mathlib.Data.List.Sort

namespace Export

open Js

/-! ### The byte cap -/

/-- How large an export may be by default. -/
def STATE_EXPORT_DEFAULT_MAX_BYTES : ℕ := 200 * 1024 * 1024

/-- The directory everything is in inside the archive. -/
def STATE_EXPORT_ARCHIVE_ROOT : String := ".openclaw"

/-- The cap from the value of the environment variable. -/
def resolveStateExportMaxBytes (raw : Option String) : Except ExportError ℕ :=
  match raw with
  | none => .ok STATE_EXPORT_DEFAULT_MAX_BYTES
  | some raw =>
    if trim raw = "" then .ok STATE_EXPORT_DEFAULT_MAX_BYTES
    else match (numberOf raw).positiveInteger with
      | some parsed => .ok parsed
      | none => .error (.invalidMaxBytes raw)

/-! ### Exporting one file -/

/-- What a snapshot of the database at a path gives. -/
abbrev Snapshot := Path → Except String Content

/-- An export in progress: the archive paths so far, the bytes accounted, and
the target. -/
structure Progress where
  files : List String
  bytes : ℕ
  target : Target
deriving DecidableEq

/-- Nothing exported yet. -/
def Progress.start : Progress := { files := [], bytes := 0, target := .fresh }

/-- `account(size, archivePath)`. -/
def Progress.account (w : Progress) (cap size : ℕ) (archivePath : String) :
    Except ExportError Progress :=
  let bytes := w.bytes + size
  if cap < bytes then .error (.capExceeded cap archivePath w.files.length bytes)
  else .ok { w with bytes := bytes }

/-- Whether a file is a database by its name. -/
def isSqlite (name : String) : Bool := decide (SQLITE_SUFFIX.toList <:+ name.toList)

/-- The path of a file inside the archive. -/
def archivePathOf (path : Path) : String := STATE_EXPORT_ARCHIVE_ROOT ++ "/" ++ joinPath path

/-- A fresh copy of the database, written at the same path of the target. -/
def snapshotSqlite (snapshot : Snapshot) (target : Target) (dir : Path) (name : String) :
    Except ExportError Target := do
  let target ← target.mkdirp dir
  -- the copy is written where nothing is left of an earlier one
  let target ← target.rmForce (dir ++ [name])
  match snapshot (dir ++ [name]) with
  | .error message => .error (.snapshotFailed message)
  | .ok content => target.write (dir ++ [name]) content

/-- One empty placeholder beside a snapshot. -/
def writeSidecar (cap : ℕ) (dir : Path) (name archivePath : String) (w : Progress)
    (suffix : String) : Except ExportError Progress := do
  let sidecarArchivePath := archivePath ++ suffix
  let w ← w.account cap 0 sidecarArchivePath
  let target ← w.target.write (dir ++ [name ++ suffix]) []
  .ok { w with target := target, files := w.files ++ [sidecarArchivePath] }

/-- `lstatSync(targetPath).size`. -/
def Target.sizeOf (t : Target) (path : Path) : ℕ :=
  match t.files.find? fun file => file.1 = path with
  | some file => file.2.length
  | none => 0

/-- Export a database by a snapshot. -/
def exportSqlite (cap : ℕ) (snapshot : Snapshot) (w : Progress) (dir : Path) (name : String)
    (sourceSize : ℕ) : Except ExportError Progress := do
  let archivePath := archivePathOf (dir ++ [name])
  -- the source size is accounted first, to fail before the work is done
  let w ← w.account cap sourceSize archivePath
  let target ← snapshotSqlite snapshot w.target dir name
  let snapshotSize := target.sizeOf (dir ++ [name])
  -- the size of the snapshot takes the place of the size of the source
  let w : Progress := { w with bytes := w.bytes - sourceSize, target := target }
  let w ← w.account cap snapshotSize archivePath
  let w : Progress := { w with files := w.files ++ [archivePath] }
  SQLITE_SIDECAR_SUFFIXES.foldlM (writeSidecar cap dir name archivePath) w

/-- Export a file by a copy. -/
def exportCopy (cap : ℕ) (w : Progress) (dir : Path) (name : String) (content : Content) :
    Except ExportError Progress := do
  let archivePath := archivePathOf (dir ++ [name])
  let w ← w.account cap content.length archivePath
  let target ← w.target.mkdirp dir
  let target ← target.copyExcl (dir ++ [name]) content
  .ok { w with target := target, files := w.files ++ [archivePath] }

/-- One accepted file. -/
def exportFile (cap : ℕ) (snapshot : Snapshot) (w : Progress) (f : SourceFile) :
    Except ExportError Progress :=
  if isSqlite f.name then exportSqlite cap snapshot w f.dir f.name f.content.length
  else exportCopy cap w f.dir f.name f.content

/-! ### The walk -/

/-- Entries in the order of their names. -/
def sortByName {α : Type} (l : List (String × α)) : List (String × α) :=
  l.insertionSort fun a b => textLe a.1 b.1 = true

/-- What visiting an entry does to an export in progress. -/
abbrev Visit := Progress → Except ExportError Progress

/-- The entries one after another. -/
def runVisits (visits : List (String × Visit)) : Visit := fun w =>
  visits.foldlM (fun w visit => visit.2 w) w

mutual

/-- The visit of one entry of the directory `dir`. -/
def Node.visit (cap : ℕ) (snapshot : Snapshot) (dir : Path) (name : String) : Node → Visit
  | .file content => fun w =>
    if filterStateEntry (joinPath (dir ++ [name])) .file then
      exportFile cap snapshot w ⟨dir, name, content⟩
    else .ok w
  | .directory entries => fun w =>
    if filterStateEntry (joinPath (dir ++ [name])) .directory then
      runVisits (sortByName (entries.visits cap snapshot (dir ++ [name]))) w
    else .ok w
  -- the filter rejects these two kinds whatever their path
  | .symbolicLink => fun w => .ok w
  | .other => fun w => .ok w

/-- The walk through the entries of a directory. -/
def Entries.visits (cap : ℕ) (snapshot : Snapshot) (dir : Path) :
    Entries → List (String × Visit)
  | .nil => []
  | .cons name node rest =>
    (name, node.visit cap snapshot dir name) :: rest.visits cap snapshot dir

end

/-- `walk(relativeSegments)` on the entries of that directory. -/
def walk (cap : ℕ) (snapshot : Snapshot) (dir : Path) (entries : Entries) : Visit :=
  runVisits (sortByName (entries.visits cap snapshot dir))

/-- `maxBytes ?? resolveStateExportMaxBytes()`. -/
def effectiveCap (rawMaxBytes : Option String) (maxBytes : Option ℕ) : Except ExportError ℕ :=
  match maxBytes with
  | some maxBytes => .ok maxBytes
  | none => resolveStateExportMaxBytes rawMaxBytes

/-- `buildStateExportTree({ stateDir, targetRoot, maxBytes })` into a fresh
target; `rawMaxBytes` is the value of the environment variable. -/
def buildStateExportTree (rawMaxBytes : Option String) (maxBytes : Option ℕ)
    (snapshot : Snapshot) (stateDir : Option Node) : Except ExportError Progress := do
  let cap ← effectiveCap rawMaxBytes maxBytes
  match stateDir with
  | some (.directory entries) => walk cap snapshot [] entries .start
  | _ => .error .missingStateDir

/-! ### The walk, flattened -/

mutual

/-- The files a visit exports, in order. -/
def Node.exported (dir : Path) (name : String) : Node → List SourceFile
  | .file content =>
    if filterStateEntry (joinPath (dir ++ [name])) .file then [⟨dir, name, content⟩] else []
  | .directory entries =>
    if filterStateEntry (joinPath (dir ++ [name])) .directory then
      (sortByName (entries.exportedEach (dir ++ [name]))).flatMap Prod.snd
    else []
  | .symbolicLink => []
  | .other => []

/-- What is exported of each entry. -/
def Entries.exportedEach (dir : Path) : Entries → List (String × List SourceFile)
  | .nil => []
  | .cons name node rest => (name, node.exported dir name) :: rest.exportedEach dir

end

/-- What is exported of a directory. -/
def Entries.exported (dir : Path) (entries : Entries) : List SourceFile :=
  (sortByName (entries.exportedEach dir)).flatMap Prod.snd

theorem Entries.visits_eq (cap : ℕ) (snapshot : Snapshot) (dir : Path) (e : Entries) :
    e.visits cap snapshot dir = e.toList.map fun p => (p.1, p.2.visit cap snapshot dir p.1) := by
  match e with
  | .nil => rfl
  | .cons name node rest => exact congrArg _ (rest.visits_eq cap snapshot dir)

theorem Entries.exportedEach_eq (dir : Path) (e : Entries) :
    e.exportedEach dir = e.toList.map fun p => (p.1, p.2.exported dir p.1) := by
  match e with
  | .nil => rfl
  | .cons name node rest => exact congrArg _ (rest.exportedEach_eq dir)

theorem sortByName_map {α β : Type} (g : String × α → β) (l : List (String × α)) :
    sortByName (l.map fun p => (p.1, g p)) = (sortByName l).map fun p => (p.1, g p) := by
  symm
  apply List.map_insertionSort
  intro a _ b _
  rfl

theorem sortByName_perm {α : Type} (l : List (String × α)) : (sortByName l).Perm l :=
  List.perm_insertionSort _ _

/-- Running the visits of a list of entries is exporting their files in order. -/
theorem runVisits_flatten {cap : ℕ} {snapshot : Snapshot} {dir : Path}
    {l : List (String × Node)}
    (h : ∀ p ∈ l, p.2.visit cap snapshot dir p.1 =
      fun w => (p.2.exported dir p.1).foldlM (exportFile cap snapshot) w) (w : Progress) :
    runVisits (l.map fun p => (p.1, p.2.visit cap snapshot dir p.1)) w =
      (l.flatMap fun p => p.2.exported dir p.1).foldlM (exportFile cap snapshot) w := by
  induction l generalizing w with
  | nil => rfl
  | cons p rest ih =>
      have hp := h p (by simp)
      have hrest := ih fun q hq => h q (List.mem_cons_of_mem _ hq)
      rw [List.flatMap_cons, List.foldlM_append, List.map_cons]
      show (p.2.visit cap snapshot dir p.1 w >>= fun w => runVisits _ w) = _
      rw [hp]
      exact congrArg _ (funext hrest)

/-- The files of a directory, from its entries in sorted order. -/
theorem Entries.exported_eq (dir : Path) (e : Entries) :
    e.exported dir = (sortByName e.toList).flatMap fun p => p.2.exported dir p.1 := by
  rw [Entries.exported, e.exportedEach_eq, sortByName_map, List.flatMap_map]

/-- **The walk is the export of its files, one after another.** -/
theorem Node.visit_eq (cap : ℕ) (snapshot : Snapshot) (node : Node) :
    ∀ dir name, node.visit cap snapshot dir name =
      fun w => (node.exported dir name).foldlM (exportFile cap snapshot) w := by
  induction node using Node.induction with
  | file content =>
      intro dir name
      funext w
      simp only [Node.visit, Node.exported]
      split
      · show _ = exportFile cap snapshot w ⟨dir, name, content⟩ >>= pure
        rw [bind_pure]
      · rfl
  | directory entries ih =>
      intro dir name
      funext w
      simp only [Node.visit, Node.exported]
      split
      · show _ = (entries.exported (dir ++ [name])).foldlM _ w
        -- sorting the visits and sorting the files of the entries is the same thing
        rw [entries.exported_eq, entries.visits_eq, sortByName_map]
        refine runVisits_flatten (fun p hp => ?_) w
        exact ih p ((sortByName_perm _).mem_iff.mp hp) (dir ++ [name]) p.1
      · rfl
  | symbolicLink => intro dir name; rfl
  | other => intro dir name; rfl

theorem walk_eq (cap : ℕ) (snapshot : Snapshot) (dir : Path) (e : Entries) (w : Progress) :
    walk cap snapshot dir e w = (e.exported dir).foldlM (exportFile cap snapshot) w := by
  rw [walk, e.exported_eq, e.visits_eq, sortByName_map]
  exact runVisits_flatten (fun p _ => p.2.visit_eq cap snapshot dir p.1) w

/-! ### What is exported -/

/-- The filter accepts the file by its own path. -/
def SourceFile.Accepted (f : SourceFile) : Prop :=
  filterStateEntry (joinPath f.path) .file = true

theorem Entries.mem_exported {dir : Path} {e : Entries} {f : SourceFile} :
    f ∈ e.exported dir ↔ ∃ p ∈ e.toList, f ∈ p.2.exported dir p.1 := by
  rw [e.exported_eq, List.mem_flatMap]
  exact exists_congr fun p => and_congr_left fun _ => (sortByName_perm _).mem_iff

/-- A file that is accepted has only accepted directories above it. -/
theorem SourceFile.Accepted.ancestor {f : SourceFile} (h : f.Accepted)
    (hv : ∀ s ∈ f.path, ValidName s) {dir below : Path} (hf : f.path = dir ++ below)
    (hbelow : below ≠ []) : filterStateEntry (joinPath dir) .directory = true := by
  have hdir : ∀ s ∈ dir, ValidName s := fun s hs => hv s (hf ▸ List.mem_append_left below hs)
  have h' : filterSegments (toPosixSegments (joinPath f.path)) false = true := h
  rw [toPosixSegments_joinPath hv, hf] at h'
  show filterSegments (toPosixSegments (joinPath dir)) true = true
  rw [toPosixSegments_joinPath hdir]
  exact filterSegments_ancestor hbelow h'

/-- **Pruning loses nothing**: the walk exports exactly the regular files whose
own path the filter accepts. -/
theorem Node.mem_exported_iff (node : Node) :
    ∀ (dir : Path) (name : String), node.Valid → (∀ s ∈ dir ++ [name], ValidName s) → ∀ f,
      f ∈ node.exported dir name ↔ f.Accepted ∧
        ((∃ content, node = .file content ∧ f = ⟨dir, name, content⟩) ∨
          ∃ entries g, node = .directory entries ∧ RegularFile entries g ∧
            f = g.under (dir ++ [name])) := by
  induction node using Node.induction with
  | file content =>
      intro dir name _ _ f
      simp only [Node.exported, Node.file.injEq, reduceCtorEq, false_and, exists_false, or_false]
      split
      · next haccept =>
        rw [List.mem_singleton]
        constructor
        · rintro rfl
          exact ⟨haccept, content, rfl, rfl⟩
        · rintro ⟨-, content', rfl, rfl⟩
          rfl
      · next hreject =>
        constructor
        · intro h
          cases h
        · rintro ⟨h, content', rfl, rfl⟩
          exact absurd h hreject
  | directory entries ih =>
      intro dir name hv hnames f
      have hbelow : ∀ p ∈ entries.toList, p.2.Valid ∧
          ∀ s ∈ dir ++ [name] ++ [p.1], ValidName s := by
        intro p hp
        obtain ⟨hp₁, hp₂⟩ := Entries.Valid.mem hv hp
        refine ⟨hp₂, fun s hs => ?_⟩
        rcases List.mem_append.mp hs with hs | hs
        · exact hnames s hs
        · rw [List.mem_singleton.mp hs]
          exact hp₁
      have hentry : ∀ p ∈ entries.toList, f ∈ p.2.exported (dir ++ [name]) p.1 ↔ _ := fun p hp =>
        ih p hp (dir ++ [name]) p.1 (hbelow p hp).1 (hbelow p hp).2 f
      simp only [Node.exported, Node.directory.injEq, reduceCtorEq, false_and, exists_false,
        false_or]
      constructor
      · intro h
        split at h
        · obtain ⟨⟨n, node⟩, hp, hf⟩ := Entries.mem_exported.mp h
          -- the entry is the file itself, or the directory it is inside of
          obtain ⟨haccept, ⟨content, rfl, rfl⟩ | ⟨sub, g, rfl, hg, rfl⟩⟩ := (hentry _ hp).mp hf
          · exact ⟨haccept, entries, ⟨[], n, content⟩, rfl, .here hp, by
              simp [SourceFile.under]⟩
          · exact ⟨haccept, entries, g.under [n], rfl, .inside hp hg, by
              simp [SourceFile.under]⟩
        · cases h
      · rintro ⟨haccept, entries', g, rfl, hg, rfl⟩
        have hpath : (g.under (dir ++ [name])).path = dir ++ [name] ++ g.path := by
          simp [SourceFile.under, SourceFile.path]
        have hvalid : ∀ s ∈ (g.under (dir ++ [name])).path, ValidName s := by
          intro s hs
          rw [hpath] at hs
          rcases List.mem_append.mp hs with hs | hs
          · exact hnames s hs
          · exact hg.valid hv s hs
        -- the directory is asked about too, and it is accepted
        have hdir := haccept.ancestor hvalid hpath (by simp [SourceFile.path])
        rw [if_pos hdir]
        refine Entries.mem_exported.mpr ?_
        cases hg with
        | here hmem =>
            exact ⟨_, hmem, (hentry _ hmem).mpr ⟨haccept, .inl ⟨_, rfl, by
              simp [SourceFile.under]⟩⟩⟩
        | inside hmem hsub =>
            exact ⟨_, hmem, (hentry _ hmem).mpr ⟨haccept, .inr ⟨_, _, rfl, hsub, by
              simp [SourceFile.under]⟩⟩⟩
  | symbolicLink =>
      intro dir name _ _ f
      simp [Node.exported]
  | other =>
      intro dir name _ _ f
      simp [Node.exported]

theorem Entries.mem_exported_iff {e : Entries} (he : e.Valid) {f : SourceFile} :
    f ∈ e.exported [] ↔ RegularFile e f ∧ f.Accepted := by
  have hentry : ∀ p ∈ e.toList, f ∈ p.2.exported [] p.1 ↔ _ := fun p hp =>
    p.2.mem_exported_iff [] p.1 (he.mem hp).2 (fun s hs => by
      rw [List.mem_singleton.mp hs]
      exact (he.mem hp).1) f
  rw [Entries.mem_exported]
  constructor
  · rintro ⟨⟨n, node⟩, hp, hf⟩
    obtain ⟨haccept, ⟨content, rfl, rfl⟩ | ⟨sub, g, rfl, hg, rfl⟩⟩ := (hentry _ hp).mp hf
    · exact ⟨.here hp, haccept⟩
    · exact ⟨.inside hp hg, haccept⟩
  · rintro ⟨hf, haccept⟩
    cases hf with
    | here hmem => exact ⟨_, hmem, (hentry _ hmem).mpr ⟨haccept, .inl ⟨_, rfl, rfl⟩⟩⟩
    | inside hmem hsub =>
        exact ⟨_, hmem, (hentry _ hmem).mpr ⟨haccept, .inr ⟨_, _, rfl, hsub, rfl⟩⟩⟩

end Export
