/-
ControlPlane/Export/Restore.lean

What a restore leaves beside a database.

An import extracts the archive over a tree that may hold anything: it writes the
files of the archive and removes none (`overlay`).  SQLite looks at three files
beside a database, `-wal`, `-shm` and `-journal`.  The export snapshots the
database, never copies the first two and writes them as empty files, so after a
restore they are empty whatever the tree held before.

The third one is missed: it is in no list of the filter.  `sidecar_accepted_iff`
says where a journal passes the filter, and `restore_clean_iff` what follows:
a restore is clean exactly when no such journal has content.
-/
import ControlPlane.Export.Names
import ControlPlane.Export.Refinement

namespace Export

open Js

/-! ### Extraction -/

/-- Extraction over a tree: every file is written, none is removed. -/
def overlay (archive : List (Path × Content)) (tree : Path → Option Content) :
    Path → Option Content :=
  archive.foldl (fun tree file => Function.update tree file.1 (some file.2)) tree

section Overlay

variable {archive : List (Path × Content)} {tree : Path → Option Content} {path : Path}

theorem overlay_of_notMem (h : path ∉ archive.map Prod.fst) :
    overlay archive tree path = tree path := by
  induction archive generalizing tree with
  | nil => rfl
  | cons file archive ih =>
      rw [List.map_cons, List.mem_cons, not_or] at h
      have hrest : overlay archive (Function.update tree file.1 (some file.2)) path =
          Function.update tree file.1 (some file.2) path := ih h.2
      show overlay archive (Function.update tree file.1 (some file.2)) path = _
      rw [hrest, Function.update_of_ne h.1]

/-- What the archive holds is what the tree holds afterwards. -/
theorem overlay_of_mem {content : Content} (hnodup : (archive.map Prod.fst).Nodup)
    (h : (path, content) ∈ archive) : overlay archive tree path = some content := by
  induction archive generalizing tree with
  | nil => cases h
  | cons file archive ih =>
      rw [List.map_cons, List.nodup_cons] at hnodup
      show overlay archive (Function.update tree file.1 (some file.2)) path = _
      rcases List.mem_cons.mp h with rfl | h
      · rw [overlay_of_notMem hnodup.1, Function.update_self]
      · exact ih hnodup.2 h

end Overlay

/-! ### A clean restore -/

/-- What the name of a rollback journal ends in besides. -/
def JOURNAL_SUFFIX : String := "-journal"

/-- The files beside a database that SQLite may replay. -/
def REPLAYED_SUFFIXES : List String := SQLITE_SIDECAR_SUFFIXES ++ [JOURNAL_SUFFIX]

/-- A database of the state directory that is exported. -/
structure IsDatabase (e : Entries) (f : SourceFile) : Prop where
  regular : RegularFile e f
  accepted : f.Accepted
  sqlite : isSqlite f.name = true

/-- After the restore every exported database is its snapshot, nothing the archive
puts beside it has anything to replay, and the files the placeholders stand for
are empty. -/
structure CleanRestore (snapshot : Snapshot) (e : Entries) (archive : List (Path × Content))
    (tree : Path → Option Content) : Prop where
  database : ∀ f, IsDatabase e f →
    ∃ content, snapshot f.path = .ok content ∧ overlay archive tree f.path = some content
  replayed : ∀ f, IsDatabase e f → ∀ suffix ∈ REPLAYED_SUFFIXES, ∀ content,
    (f.sidecar suffix, content) ∈ archive → content = []
  truncated : ∀ f, IsDatabase e f → ∀ suffix ∈ SQLITE_SIDECAR_SUFFIXES,
    overlay archive tree (f.sidecar suffix) = some []

/-- The filter lets the journal of this database through: below `agents` only the
names of authentication profiles are free in their ending. -/
def SourceFile.JournalPasses (f : SourceFile) : Prop :=
  f.path.head? = some AGENTS_ROOT → "auth-profiles".toList <+: f.name.toList

/-- No journal that passes the filter has content. -/
def NoHotJournal (e : Entries) : Prop :=
  ∀ f g, IsDatabase e f → f.JournalPasses → RegularFile e g →
    g.path = f.sidecar JOURNAL_SUFFIX → g.content = []

/-! ### Which journals are accepted -/

/-- An infix that ends in a character the second part does not have lies in the
first part. -/
theorem infix_of_infix_append {α : Type} {l a b : List α} {x : α} (hx : x ∉ b)
    (h : l ++ [x] <:+: a ++ b) : l ++ [x] <:+: a := by
  induction b using List.reverseRecOn with
  | nil => rwa [List.append_nil] at h
  | append_singleton b c ih =>
      have hxb : x ∉ b := fun hb => hx (List.mem_append_left _ hb)
      have hxc : x ≠ c := fun hc => hx (by simp [hc])
      rw [← List.append_assoc, List.infix_concat_iff] at h
      rcases h with hsuffix | hinfix
      · obtain ⟨before, hbefore⟩ := hsuffix
        rw [← List.append_assoc] at hbefore
        have hlast := (List.append_inj' hbefore rfl).2
        exact absurd (List.singleton_inj.mp hlast) hxc
      · exact ih hxb hinfix

theorem isSqlite_iff {name : String} :
    isSqlite name = true ↔ ∃ before, before ++ SQLITE_SUFFIX.toList = name.toList := by
  rw [isSqlite, decide_eq_true_eq]
  rfl

/-- The ending of a journal of a database. -/
theorem journal_ending {name : String} (h : isSqlite name = true) :
    (SQLITE_SUFFIX ++ JOURNAL_SUFFIX).toList <:+ (name ++ JOURNAL_SUFFIX).toList := by
  obtain ⟨before, hbefore⟩ := isSqlite_iff.mp h
  refine ⟨before, ?_⟩
  rw [String.toList_append, String.toList_append, ← hbefore, List.append_assoc]

theorem journal_leftover {name : String} (hsql : isSqlite name = true)
    (h : Leftover (name ++ JOURNAL_SUFFIX)) : Leftover name := by
  rcases h with hbak | ⟨ending, hmem, hsuffix⟩
  · left
    rw [String.toList_append] at hbak
    exact infix_of_infix_append (l := ".ba".toList) (x := 'k') (by decide) hbak
  · -- both endings end the same text, and the journal's is the longer one
    have hlen : ∀ ending ∈ LEFTOVER_ENDINGS,
        ending.toList.length ≤ (SQLITE_SUFFIX ++ JOURNAL_SUFFIX).toList.length := by decide
    have hother : ∀ ending ∈ LEFTOVER_ENDINGS,
        ¬ ending.toList <:+ (SQLITE_SUFFIX ++ JOURNAL_SUFFIX).toList := by decide
    have hwithin := List.suffix_of_suffix_length_le hsuffix (journal_ending hsql) (hlen _ hmem)
    exact absurd hwithin (hother _ hmem)

/-- A segment that is no leftover passes the globs. -/
theorem not_excluded_of_not_leftover {name : String} (h : ¬ Leftover name) :
    matchesAny STATE_EXPORT_EXCLUDE_BASENAME_PATTERNS name = false := by
  rw [Bool.eq_false_iff]
  exact fun hmatch => h (leftover_of_matchesAny hmatch)

/-- Among an agent's files the journals of authentication profiles are allowed, and
no others. -/
theorem agentFile_journal_iff {name : String} (hsql : isSqlite name = true) :
    AgentFile (name ++ JOURNAL_SUFFIX) ↔ "auth-profiles".toList <+: name.toList := by
  constructor
  · rintro (hsqlite | hmodels | hprofiles)
    · have hwithin : ".sqlite".toList <:+ (SQLITE_SUFFIX ++ JOURNAL_SUFFIX).toList :=
        List.suffix_of_suffix_length_le hsqlite (journal_ending hsql) (by decide)
      exact absurd hwithin (by decide)
    · have hending := journal_ending hsql
      rw [hmodels] at hending
      exact absurd hending (by decide)
    · -- the dot of the ending is not in the prefix, so the prefix ends before it
      rw [String.toList_append] at hprofiles
      rcases List.prefix_or_prefix_of_prefix hprofiles (List.prefix_append _ _) with h | h
      · exact h
      · obtain ⟨before, hbefore⟩ := isSqlite_iff.mp hsql
        have hdot : '.' ∈ name.toList := by
          rw [← hbefore]
          exact List.mem_append_right _ (by decide)
        exact absurd (h.subset hdot) (by decide)
  · intro h
    right
    right
    rw [String.toList_append]
    exact h.trans (List.prefix_append _ _)

theorem accepted_iff {f : SourceFile} (hv : ∀ s ∈ f.path, ValidName s) :
    f.Accepted ↔ filterSegments f.path false = true := by
  show filterSegments (toPosixSegments (joinPath f.path)) false = true ↔ _
  rw [toPosixSegments_joinPath hv]

theorem LineFree.of_valid {name : String} (h : ValidName name) : LineFree name.toList :=
  fun c hc => (h.chars c hc).2

/-- A database lies inside a directory of the state. -/
theorem IsDatabase.dir_eq_cons {e : Entries} (he : e.Valid) {f : SourceFile}
    (hf : IsDatabase e f) : ∃ root rest, f.dir = root :: rest := by
  obtain ⟨dir, name, content⟩ := f
  cases dir with
  | cons root rest => exact ⟨root, rest, rfl⟩
  | nil =>
      -- a root of the include list is no database
      have haccepted := (accepted_iff (hf.regular.valid he)).mp hf.accepted
      obtain ⟨-, hroot, -⟩ := filterSegments_cons.mp haccepted
      have hnone : ∀ root ∈ STATE_EXPORT_INCLUDE, isSqlite root = false := by decide
      have hsql := hf.sqlite
      rw [hnone _ hroot] at hsql
      cases hsql

/-- The journal beside an exported database is accepted, below `agents` only that of
an authentication profile. -/
theorem journal_accepted_iff {e : Entries} (he : e.Valid) {f g : SourceFile}
    (hf : IsDatabase e f) (hg : RegularFile e g) (hpath : g.path = f.sidecar JOURNAL_SUFFIX) :
    g.Accepted ↔ f.JournalPasses := by
  have hfv := hf.regular.valid he
  have hgv := hg.valid he
  have hjournal : ValidName (f.name ++ JOURNAL_SUFFIX) := by
    apply hgv
    rw [hpath]
    exact List.mem_append_right _ (by simp)
  obtain ⟨root, rest, hdir⟩ := hf.dir_eq_cons he
  have hfpath : f.path = root :: (rest ++ [f.name]) := by
    rw [SourceFile.path, hdir, List.cons_append]
  have hgpath : g.path = root :: (rest ++ [f.name ++ JOURNAL_SUFFIX]) := by
    rw [hpath, SourceFile.sidecar, hdir, List.cons_append]
  have haccepted := (accepted_iff hfv).mp hf.accepted
  rw [hfpath, filterSegments_cons] at haccepted
  obtain ⟨hclean, hroot, hshape⟩ := haccepted
  rw [accepted_iff hgv, hgpath, filterSegments_cons]
  have hname := hclean f.name (by simp)
  have hcleang : Clean (root :: (rest ++ [f.name ++ JOURNAL_SUFFIX])) := by
    intro s hs
    rw [← List.cons_append] at hs
    rcases List.mem_append.mp hs with hs | hs
    · apply hclean
      rw [← List.cons_append]
      exact List.mem_append_left _ hs
    · obtain rfl := List.mem_singleton.mp hs
      have hending := journal_ending hf.sqlite
      have hexcluded : ∀ s ∈ STATE_EXPORT_EXCLUDE_SEGMENTS,
          ¬ (SQLITE_SUFFIX ++ JOURNAL_SUFFIX).toList <:+ s.toList := by decide
      refine ⟨hjournal.ne_dotdot, fun hmem => hexcluded _ hmem hending, ?_⟩
      apply not_excluded_of_not_leftover
      intro hleftover
      have hmatch := matchesAny_of_leftover (.of_valid (hfv f.name f.name_mem))
        (journal_leftover hf.sqlite hleftover)
      rw [hname.2.2] at hmatch
      cases hmatch
  have hshapeg : root = AGENTS_ROOT →
      (agentShape (root :: (rest ++ [f.name ++ JOURNAL_SUFFIX])) false = true ↔
        "auth-profiles".toList <+: f.name.toList) := by
    intro hagents
    obtain ⟨a, id, name, hsegments, -⟩ := agentShape_file_iff.mp (hshape hagents)
    obtain ⟨hrest, -⟩ : rest = [id, AGENT_SUBDIR] ∧ [f.name] = [name] :=
      List.append_inj' (List.cons.inj hsegments).2 rfl
    rw [hrest, ← agentFile_journal_iff hf.sqlite, agentShape_file_iff]
    constructor
    · rintro ⟨a, id', name', heq, hallowed⟩
      simp only [List.cons_append, List.nil_append, List.cons.injEq] at heq
      rw [heq.2.2.2.1]
      exact agentFile_of_matchesAny hallowed
    · intro hfile
      exact ⟨root, id, _, rfl, matchesAny_of_agentFile (.of_valid hjournal) hfile⟩
  unfold SourceFile.JournalPasses
  rw [hfpath]
  constructor
  · rintro ⟨-, -, hagents⟩ hhead
    obtain rfl : root = AGENTS_ROOT := Option.some.inj hhead
    exact (hshapeg rfl).mp (hagents rfl)
  · intro h
    refine ⟨hcleang, hroot, ?_⟩
    rintro rfl
    exact (hshapeg rfl).mpr (h rfl)

/-! ### When a restore is clean -/

theorem eq_sidecar {f g : SourceFile} {suffix : String} (h : g.path = f.sidecar suffix) :
    g.name = f.name ++ suffix :=
  List.singleton_inj.mp (List.append_inj' h rfl).2

/-- What is replayed beside a database is no database itself. -/
theorem isSqlite_replayed (name : String) {suffix : String} (h : suffix ∈ REPLAYED_SUFFIXES) :
    isSqlite (name ++ suffix) = false := by
  have hone : ∀ suffix ∈ REPLAYED_SUFFIXES, ¬ SQLITE_SUFFIX.toList <:+ suffix.toList := by decide
  have htwo : ∀ suffix ∈ REPLAYED_SUFFIXES, ¬ suffix.toList <:+ SQLITE_SUFFIX.toList := by decide
  rw [isSqlite, decide_eq_false_iff_not, String.toList_append]
  intro hsuffix
  rcases List.suffix_or_suffix_of_suffix hsuffix (List.suffix_append _ _) with hs | hs
  · exact hone _ h hs
  · exact htwo _ h hs

/-- A file that is replayed beside a database and copied is its journal. -/
theorem replayed_accepted {e : Entries} (he : e.Valid) {f g : SourceFile} (hf : IsDatabase e f)
    (hg : RegularFile e g) (haccepted : g.Accepted) {suffix : String}
    (hs : suffix ∈ REPLAYED_SUFFIXES) (hpath : g.path = f.sidecar suffix) :
    suffix = JOURNAL_SUFFIX := by
  rcases List.mem_append.mp hs with hplaceholder | hjournal
  · have hgv := hg.valid he
    obtain ⟨root, rest, hsegments⟩ := List.exists_cons_of_ne_nil
      (List.ne_nil_of_mem g.name_mem)
    have hfilter := (accepted_iff hgv).mp haccepted
    rw [hsegments, filterSegments_cons, ← hsegments] at hfilter
    have hname : ValidName f.name := hf.regular.valid he f.name f.name_mem
    have hmem := g.name_mem
    rw [eq_sidecar hpath] at hmem
    exact absurd hmem (hfilter.1.ne_sidecar hname hplaceholder)
  · exact List.mem_singleton.mp hjournal

/-- **A restore is clean exactly when no journal with content passes the filter.**
Whatever the tree held before, every exported database comes out as its snapshot
with empty `-wal` and `-shm` files; what can still meet it is a `-journal`. -/
theorem restore_clean_iff {rawMaxBytes : Option String} {maxBytes : Option ℕ}
    {snapshot : Snapshot} {e : Entries} (he : e.Valid) {w : Progress}
    (hbuild : buildStateExportTree rawMaxBytes maxBytes snapshot (some (.directory e)) = .ok w)
    (tree : Path → Option Content) :
    CleanRestore snapshot e w.target.files tree ↔ NoHotJournal e := by
  obtain ⟨cap, hexported⟩ : ∃ cap, Exported cap snapshot (e.exported []) w := by
    rcases hcap : effectiveCap rawMaxBytes maxBytes with err | cap
    · rw [buildStateExportTree, hcap, error_bind] at hbuild
      cases hbuild
    · rcases buildStateExportTree_run rawMaxBytes maxBytes snapshot he hcap with
        ⟨err, herr, -⟩ | ⟨w', hok, hexported⟩
      · rw [hbuild] at herr
        cases herr
      · obtain rfl := Except.ok.inj (hbuild.symm.trans hok)
        exact ⟨cap, hexported⟩
  have hplaceholder : ∀ f, IsDatabase e f → ∀ suffix ∈ SQLITE_SIDECAR_SUFFIXES,
      (f.sidecar suffix, []) ∈ w.target.files := by
    intro f hf suffix hs
    rw [hexported.inTarget_iff he]
    exact ⟨f, hf.regular, hf.accepted, .inr ⟨hf.sqlite, .inr ⟨suffix, hs, rfl, rfl⟩⟩⟩
  constructor
  · intro hclean f g hf hpasses hg hpath
    have hmem : (f.sidecar JOURNAL_SUFFIX, g.content) ∈ w.target.files := by
      rw [hexported.inTarget_iff he]
      have haccepted := (journal_accepted_iff he hf hg hpath).mpr hpasses
      have hsql : isSqlite g.name = false := by
        rw [eq_sidecar hpath]
        exact isSqlite_replayed f.name (by decide)
      exact ⟨g, hg, haccepted, .inl ⟨hsql, hpath.symm, rfl⟩⟩
    exact hclean.replayed f hf JOURNAL_SUFFIX (by decide) g.content hmem
  · intro hno
    refine ⟨fun f hf => ?_, fun f hf suffix hs content hmem => ?_, fun f hf suffix hs => ?_⟩
    · have hf' := (Entries.mem_exported_iff he).mpr ⟨hf.regular, hf.accepted⟩
      obtain ⟨content, hsnapshot⟩ := hexported.snapshots f hf' hf.sqlite
      refine ⟨content, hsnapshot, overlay_of_mem hexported.nodup ?_⟩
      rw [hexported.inTarget_iff he]
      exact ⟨f, hf.regular, hf.accepted, .inr ⟨hf.sqlite, .inl ⟨rfl, hsnapshot⟩⟩⟩
    · -- the entry is a copy, a snapshot or a placeholder
      rw [hexported.inTarget_iff he] at hmem
      obtain ⟨g, hg, haccepted, hcopy | ⟨hsql, hsnapshot | hempty⟩⟩ := hmem
      · obtain ⟨-, hpath, rfl⟩ := hcopy
        obtain rfl := replayed_accepted he hf hg haccepted hs hpath.symm
        have hpasses := (journal_accepted_iff he hf hg hpath.symm).mp haccepted
        exact hno f g hf hpasses hg hpath.symm
      · rw [eq_sidecar hsnapshot.1.symm, isSqlite_replayed f.name hs] at hsql
        cases hsql
      · obtain ⟨-, -, -, rfl⟩ := hempty
        rfl
    · exact overlay_of_mem hexported.nodup (hplaceholder f hf suffix hs)

/-- What is left of a journal whose transaction is over and that was not deleted:
the zeroed header. -/
def zeroedHeader : Content := List.replicate 28 0

/-- An empty database beside such a journal. -/
def journalEntries : Entries :=
  .cons "state" (.directory (.cons "s.sqlite" (.file [])
    (.cons "s.sqlite-journal" (.file zeroedHeader) .nil))) .nil

theorem journalEntries_valid : journalEntries.Valid := by
  have valid : ∀ name : String, name ≠ "" → name ≠ "." → name ≠ ".." →
      (name.toList.all fun c => !isSeparator c && !isLineTerminator c) = true → ValidName name :=
    fun _ h₁ h₂ h₃ h₄ => ⟨h₁, h₂, h₃, chars_of_all h₄⟩
  exact ⟨valid _ (by decide) (by decide) (by decide) (by decide), by decide,
    ⟨valid _ (by decide) (by decide) (by decide) (by decide), by decide, trivial,
      valid _ (by decide) (by decide) (by decide) (by decide), by decide, trivial, trivial⟩,
    trivial⟩

/-- The export of a database with a journal. -/
def journalExport : Progress where
  files := [".openclaw/state/s.sqlite", ".openclaw/state/s.sqlite-wal",
    ".openclaw/state/s.sqlite-shm", ".openclaw/state/s.sqlite-journal"]
  bytes := emptyDatabase.length + 28
  target :=
    { dirs := [[], ["state"], [], ["state"], []]
      files := [(["state", "s.sqlite"], emptyDatabase), (["state", "s.sqlite-wal"], []),
        (["state", "s.sqlite-shm"], []), (["state", "s.sqlite-journal"], zeroedHeader)] }

theorem journalEntries_built {cap : ℕ} (h : emptyDatabase.length + 28 ≤ cap) :
    buildStateExportTree none (some cap) (fun _ => .ok emptyDatabase)
      (some (.directory journalEntries)) = .ok journalExport := by
  have hfiles : journalEntries.exported [] =
      [⟨["state"], "s.sqlite", []⟩, ⟨["state"], "s.sqlite-journal", zeroedHeader⟩] := by
    decide +kernel
  have hsql : isSqlite "s.sqlite" = true ∧ isSqlite "s.sqlite-journal" = false := by decide
  have hcap : ¬ cap < emptyDatabase.length ∧ ¬ cap < emptyDatabase.length + 28 := by omega
  have hheader : zeroedHeader.length = 28 := rfl
  show walk cap _ [] journalEntries .start = _
  rw [walk_eq, hfiles]
  simp [exportFile, exportSqlite, exportCopy, snapshotSqlite, writeSidecar, hsql, hcap, hheader,
    SQLITE_SIDECAR_SUFFIXES, Progress.start, Progress.account, Target.fresh, Target.mkdirp,
    Target.rmForce, Target.write, Target.copyExcl, Target.sizeOf, ok_bind, journalExport]
  decide

/-- The journal of the database is copied and lies beside its snapshot. -/
theorem journalEntries_replayed :
    journalEntries.Valid ∧
      buildStateExportTree none (some 10000) (fun _ => .ok emptyDatabase)
        (some (.directory journalEntries)) = .ok journalExport ∧
      ¬ CleanRestore (fun _ => .ok emptyDatabase) journalEntries journalExport.target.files
        fun _ => none := by
  refine ⟨journalEntries_valid,
    journalEntries_built (by rw [emptyDatabase_length]; decide), fun hclean => ?_⟩
  have hdatabase : IsDatabase journalEntries ⟨["state"], "s.sqlite", []⟩ :=
    { regular := .inside (f := ⟨[], "s.sqlite", []⟩) (.head _) (.here (.head _))
      accepted := by
        show filterStateEntry (joinPath ["state", "s.sqlite"]) .file = true
        decide +kernel
      sqlite := by decide }
  have hempty := hclean.replayed _ hdatabase JOURNAL_SUFFIX (by decide) zeroedHeader (by
    simp [journalExport, SourceFile.sidecar, JOURNAL_SUFFIX])
  cases hempty

/-- A stale log in the target is truncated by the placeholder of the sample. -/
theorem sampleEntries_restored :
    CleanRestore (fun _ => .ok emptyDatabase) sampleEntries sampleExport.target.files
      fun path => if path = ["state", "s.sqlite-wal"] then some [5] else none := by
  have hbuild := @sampleEntries_built 10000 (by rw [emptyDatabase_length]; decide)
  refine (restore_clean_iff sampleEntries_valid hbuild _).mpr ?_
  intro f g hf hpasses hg hpath
  have haccepted := (journal_accepted_iff sampleEntries_valid hf hg hpath).mpr hpasses
  have hexported := (Entries.mem_exported_iff sampleEntries_valid).mpr ⟨hg, haccepted⟩
  have hnone : ∀ g ∈ sampleEntries.exported [],
      ¬ JOURNAL_SUFFIX.toList <:+ g.name.toList := by decide +kernel
  have hsuffix : JOURNAL_SUFFIX.toList <:+ g.name.toList := by
    rw [eq_sidecar hpath, String.toList_append]
    exact List.suffix_append _ _
  exact absurd hsuffix (hnone g hexported)

end Export
