/-
ControlPlane/Export/Refinement.lean

The export against its specification: which files it produces, with which
contents, and how many bytes.

The walk is already known to export its files one after another (Walk.lean).
`Exported` is the invariant of that sequence: what has been done so far is
exactly what the files done so far produce.  A new file fits beside them
(`Fits`), because no regular file lies at or below another one and no accepted
path has the name of a placeholder; so no operation on the target is ever
refused, and an export ends early only at the cap or in the snapshot.
-/
import ControlPlane.Export.Walk

namespace Export

open Js

/-! ### What one file produces -/

/-- The companion of a database with this suffix. -/
def SourceFile.sidecar (f : SourceFile) (suffix : String) : Path := f.dir ++ [f.name ++ suffix]

/-- The entries of the archive for one file. -/
def SourceFile.archivePaths (f : SourceFile) : List String :=
  archivePathOf f.path ::
    if isSqlite f.name then SQLITE_SIDECAR_SUFFIXES.map (archivePathOf f.path ++ ·) else []

/-- The files of the target for one file: a copy, or a snapshot with its empty
placeholders. -/
def SourceFile.produced (snapshot : Snapshot) (f : SourceFile) : List (Path × Content) :=
  if isSqlite f.name then
    match snapshot f.path with
    | .ok content =>
      (f.path, content) :: SQLITE_SIDECAR_SUFFIXES.map fun suffix => (f.sidecar suffix, [])
    | .error _ => []
  else [(f.path, f.content)]

/-- An end that is the export's own: the cap, or the snapshot. -/
inductive Expected : ExportError → Prop
  | capExceeded {cap archivePath files bytes} :
      Expected (.capExceeded cap archivePath files bytes)
  | snapshotFailed {message} : Expected (.snapshotFailed message)

/-! ### One file -/

/-- The file fits into the target: its directory can be made, and its path and
the paths of its placeholders are free. -/
structure Fits (t : Target) (f : SourceFile) : Prop where
  mkdir : ∀ file ∈ t.files, ¬ file.1 <+: f.dir
  dirs : f.path ∉ f.dir.inits ++ t.dirs
  files : f.path ∉ t.files.map Prod.fst
  sidecarDirs : ∀ suffix ∈ SQLITE_SIDECAR_SUFFIXES, f.sidecar suffix ∉ f.dir.inits ++ t.dirs
  sidecarFiles : ∀ suffix ∈ SQLITE_SIDECAR_SUFFIXES, f.sidecar suffix ∉ t.files.map Prod.fst

/-- Names of placeholders determine the file and the suffix. -/
theorem sidecar_name_inj {name name' suffix suffix' : String}
    (hs : suffix ∈ SQLITE_SIDECAR_SUFFIXES) (hs' : suffix' ∈ SQLITE_SIDECAR_SUFFIXES)
    (h : name ++ suffix = name' ++ suffix') : name = name' ∧ suffix = suffix' := by
  have hlen : ∀ s ∈ SQLITE_SIDECAR_SUFFIXES, s.toList.length = 4 := by decide
  have hl : name.toList ++ suffix.toList = name'.toList ++ suffix'.toList := by
    rw [← String.toList_append, ← String.toList_append, h]
  obtain ⟨h₁, h₂⟩ := List.append_inj' hl ((hlen _ hs).trans (hlen _ hs').symm)
  exact ⟨String.toList_inj.mp h₁, String.toList_inj.mp h₂⟩

theorem SourceFile.sidecar_ne_path (f : SourceFile) {suffix : String}
    (hs : suffix ∈ SQLITE_SIDECAR_SUFFIXES) : f.sidecar suffix ≠ f.path := by
  have hlen : ∀ s ∈ SQLITE_SIDECAR_SUFFIXES, s.toList.length = 4 := by decide
  intro h
  have hn : f.name ++ suffix = f.name := by simpa [SourceFile.sidecar, SourceFile.path] using h
  have hc := congrArg (fun s => s.toList.length) hn
  simp only [String.toList_append, List.length_append, hlen _ hs] at hc
  omega

theorem ok_bind {ε α β : Type} (a : α) (k : α → Except ε β) : (Except.ok a >>= k) = k a := rfl

theorem error_bind {ε α β : Type} (e : ε) (k : α → Except ε β) :
    ((Except.error e : Except ε α) >>= k) = .error e := rfl

theorem account_cases (w : Progress) (cap size : ℕ) (archivePath : String) :
    (∃ e, w.account cap size archivePath = .error e ∧ Expected e) ∨
      (w.bytes + size ≤ cap ∧
        w.account cap size archivePath = .ok { w with bytes := w.bytes + size }) := by
  unfold Progress.account
  by_cases h : cap < w.bytes + size
  · exact .inl ⟨_, if_pos h, .capExceeded⟩
  · exact .inr ⟨not_lt.mp h, if_neg h⟩

/-- Writing the two placeholders of a file that fits. -/
theorem sidecars_ok {cap : ℕ} {f : SourceFile} {archivePath : String} {w : Progress}
    (hcap : w.bytes ≤ cap) (hdir : f.dir ∈ w.target.dirs)
    (hdirs : ∀ suffix ∈ SQLITE_SIDECAR_SUFFIXES, f.sidecar suffix ∉ w.target.dirs)
    (hfiles : ∀ suffix ∈ SQLITE_SIDECAR_SUFFIXES,
      f.sidecar suffix ∉ w.target.files.map Prod.fst) :
    SQLITE_SIDECAR_SUFFIXES.foldlM (writeSidecar cap f.dir f.name archivePath) w =
      .ok
        { files := w.files ++ SQLITE_SIDECAR_SUFFIXES.map (archivePath ++ ·)
          bytes := w.bytes
          target :=
            { dirs := w.target.dirs
              files := w.target.files ++
                SQLITE_SIDECAR_SUFFIXES.map fun suffix => (f.sidecar suffix, []) } } := by
  have one : ∀ (w : Progress) suffix, w.bytes ≤ cap → f.dir ∈ w.target.dirs →
      f.sidecar suffix ∉ w.target.dirs → f.sidecar suffix ∉ w.target.files.map Prod.fst →
      writeSidecar cap f.dir f.name archivePath w suffix =
        .ok
          { files := w.files ++ [archivePath ++ suffix]
            bytes := w.bytes
            target :=
              { dirs := w.target.dirs, files := w.target.files ++ [(f.sidecar suffix, [])] } } := by
    intro w suffix hcap hdir hd hf
    have hparent : (f.dir ++ [f.name ++ suffix]).dropLast ∈ w.target.dirs := by
      rw [List.dropLast_concat]
      exact hdir
    have hacc : w.account cap 0 (archivePath ++ suffix) = .ok w := by
      unfold Progress.account
      exact if_neg (not_lt.mpr hcap)
    have hwrite : w.target.write (f.dir ++ [f.name ++ suffix]) [] =
        .ok { dirs := w.target.dirs, files := w.target.files ++ [(f.sidecar suffix, [])] } :=
      Target.write_ok hd hf hparent
    simp only [writeSidecar, hacc, ok_bind, hwrite]
  have hwal : "-wal" ∈ SQLITE_SIDECAR_SUFFIXES := by decide
  have hshm : "-shm" ∈ SQLITE_SIDECAR_SUFFIXES := by decide
  have hne : f.sidecar "-shm" ≠ f.sidecar "-wal" := by
    intro h
    have hn : f.name ++ "-shm" = f.name ++ "-wal" :=
      (List.singleton_inj.mp (List.append_cancel_left h))
    exact absurd (sidecar_name_inj hshm hwal hn).2 (by decide)
  have hfresh : f.sidecar "-shm" ∉
      (w.target.files ++ [(f.sidecar "-wal", ([] : Content))]).map Prod.fst := by
    rw [List.map_append, List.mem_append, List.map_singleton, List.mem_singleton]
    exact not_or.mpr ⟨hfiles _ hshm, hne⟩
  simp only [SQLITE_SIDECAR_SUFFIXES, List.foldlM_cons, List.foldlM_nil]
  rw [one w "-wal" hcap hdir (hdirs _ hwal) (hfiles _ hwal), ok_bind, bind_pure]
  let first : Progress :=
    { files := w.files ++ [archivePath ++ "-wal"]
      bytes := w.bytes
      target := { dirs := w.target.dirs, files := w.target.files ++ [(f.sidecar "-wal", [])] } }
  refine (one first "-shm" hcap hdir (hdirs _ hshm) hfresh).trans ?_
  simp [first]

/-- What exporting a file that fits leaves behind. -/
def Progress.afterFile (snapshot : Snapshot) (w : Progress) (f : SourceFile) : Progress where
  files := w.files ++ f.archivePaths
  bytes := w.bytes + ((f.produced snapshot).map fun file => file.2.length).sum
  target :=
    { dirs := f.dir.inits ++ w.target.dirs
      files := w.target.files ++ f.produced snapshot }

section Step

variable {cap : ℕ} {snapshot : Snapshot} {w : Progress} {f : SourceFile}

theorem Fits.parent (t : Target) (f : SourceFile) :
    f.path.dropLast ∈ f.dir.inits ++ t.dirs := by
  rw [SourceFile.path, List.dropLast_concat]
  exact List.mem_append_left _ ((List.mem_inits _ _).mpr List.prefix_rfl)

/-- Snapshotting a file that fits writes what the snapshot gives. -/
theorem snapshotSqlite_eq {t : Target} (h : Fits t f) :
    snapshotSqlite snapshot t f.dir f.name =
      match snapshot f.path with
      | .error message => .error (.snapshotFailed message)
      | .ok content => .ok
          { dirs := f.dir.inits ++ t.dirs, files := t.files ++ [(f.path, content)] } := by
  have hrm : Target.rmForce { dirs := f.dir.inits ++ t.dirs, files := t.files }
      (f.dir ++ [f.name]) = .ok { dirs := f.dir.inits ++ t.dirs, files := t.files } :=
    Target.rmForce_ok h.dirs h.files
  simp only [snapshotSqlite, Target.mkdirp_ok h.mkdir, ok_bind, hrm]
  show (match snapshot f.path with
    | .error message => _
    | .ok content => _) = _
  rcases snapshot f.path with message | content
  · rfl
  · exact Target.write_ok h.dirs h.files (Fits.parent t f)

theorem sizeOf_written {dirs : List Path} {files : List (Path × Content)} {path : Path}
    {content : Content} (h : path ∉ files.map Prod.fst) :
    Target.sizeOf { dirs := dirs, files := files ++ [(path, content)] } path =
      content.length := by
  have hnone : files.find? (fun file => file.1 = path) = none := by
    rw [List.find?_eq_none]
    intro file hfile he
    exact h (List.mem_map.mpr ⟨file, hfile, of_decide_eq_true he⟩)
  simp [Target.sizeOf, List.find?_append, hnone]

theorem exportSqlite_cases (h : Fits w.target f) (hsql : isSqlite f.name = true) :
    (∃ e, exportSqlite cap snapshot w f.dir f.name f.content.length = .error e ∧ Expected e) ∨
      (exportSqlite cap snapshot w f.dir f.name f.content.length =
          .ok (w.afterFile snapshot f) ∧
        (w.afterFile snapshot f).bytes ≤ cap ∧ ∃ content, snapshot f.path = .ok content) := by
  rcases account_cases w cap f.content.length (archivePathOf (f.dir ++ [f.name])) with
    ⟨e, he, hexp⟩ | ⟨-, hacc⟩
  -- the source alone is over the cap
  · refine .inl ⟨e, ?_, hexp⟩
    simp only [exportSqlite, he, error_bind]
  · rcases hsnap : snapshot f.path with message | content
    -- the database cannot be copied
    · refine .inl ⟨.snapshotFailed message, ?_, .snapshotFailed⟩
      simp only [exportSqlite, hacc, ok_bind, snapshotSqlite_eq h, hsnap, error_bind]
    · -- the source size is taken back before the size of the snapshot counts
      have hback : w.bytes + f.content.length - f.content.length = w.bytes := by omega
      have hsize : Target.sizeOf
          { dirs := f.dir.inits ++ w.target.dirs
            files := w.target.files ++ [(f.path, content)] } (f.dir ++ [f.name]) =
          content.length := sizeOf_written h.files
      have hproduced : f.produced snapshot = (f.path, content) ::
          SQLITE_SIDECAR_SUFFIXES.map fun suffix => (f.sidecar suffix, []) := by
        simp only [SourceFile.produced, hsql, if_true, hsnap]
      have hbytes : ((f.produced snapshot).map fun file => file.2.length).sum =
          content.length := by
        rw [hproduced]
        simp [SQLITE_SIDECAR_SUFFIXES]
      simp only [exportSqlite, hacc, ok_bind, snapshotSqlite_eq h, hsnap, hsize, hback]
      rcases account_cases
          { files := w.files
            bytes := w.bytes
            target :=
              { dirs := f.dir.inits ++ w.target.dirs
                files := w.target.files ++ [(f.path, content)] } }
          cap content.length (archivePathOf (f.dir ++ [f.name])) with
        ⟨e, he, hexp⟩ | ⟨hcap, hacc'⟩
      -- the copy is over the cap
      · refine .inl ⟨e, ?_, hexp⟩
        simp only [he, error_bind]
      · refine .inr ⟨?_, ?_, content, rfl⟩
        · have hdir : f.dir ∈ f.dir.inits ++ w.target.dirs :=
            List.mem_append_left _ ((List.mem_inits _ _).mpr List.prefix_rfl)
          have hfresh : ∀ suffix ∈ SQLITE_SIDECAR_SUFFIXES, f.sidecar suffix ∉
              (w.target.files ++ [(f.path, content)]).map Prod.fst := by
            intro suffix hs
            rw [List.map_append, List.mem_append, List.map_singleton, List.mem_singleton]
            exact not_or.mpr ⟨h.sidecarFiles suffix hs, f.sidecar_ne_path hs⟩
          simp only [hacc', ok_bind]
          rw [sidecars_ok hcap hdir h.sidecarDirs hfresh]
          rw [Progress.afterFile, hbytes, hproduced]
          simp only [SourceFile.archivePaths, hsql, if_true, SourceFile.path, List.append_assoc,
            List.singleton_append]
        · rw [Progress.afterFile, hbytes]
          exact hcap

theorem exportCopy_cases (h : Fits w.target f) (hsql : isSqlite f.name = false) :
    (∃ e, exportCopy cap w f.dir f.name f.content = .error e ∧ Expected e) ∨
      (exportCopy cap w f.dir f.name f.content = .ok (w.afterFile snapshot f) ∧
        (w.afterFile snapshot f).bytes ≤ cap) := by
  have hproduced : f.produced snapshot = [(f.path, f.content)] := by
    simp only [SourceFile.produced, hsql, Bool.false_eq_true, if_false]
  rcases account_cases w cap f.content.length (archivePathOf (f.dir ++ [f.name])) with
    ⟨e, he, hexp⟩ | ⟨hcap, hacc⟩
  · refine .inl ⟨e, ?_, hexp⟩
    simp only [exportCopy, he, error_bind]
  · refine .inr ⟨?_, ?_⟩
    · have hcopy : Target.copyExcl
          { dirs := f.dir.inits ++ w.target.dirs, files := w.target.files }
          (f.dir ++ [f.name]) f.content =
          .ok
            { dirs := f.dir.inits ++ w.target.dirs
              files := w.target.files ++ [(f.path, f.content)] } :=
        Target.copyExcl_ok h.dirs h.files (Fits.parent w.target f)
      simp only [exportCopy, hacc, ok_bind, Target.mkdirp_ok h.mkdir, hcopy]
      simp [Progress.afterFile, hproduced, SourceFile.archivePaths, hsql, SourceFile.path]
    · simpa [Progress.afterFile, hproduced] using hcap

/-- **Step lemma.**  Exporting a file that fits produces exactly its files, or
ends at the cap or in the snapshot. -/
theorem exportFile_cases (h : Fits w.target f) :
    (∃ e, exportFile cap snapshot w f = .error e ∧ Expected e) ∨
      (exportFile cap snapshot w f = .ok (w.afterFile snapshot f) ∧
        (w.afterFile snapshot f).bytes ≤ cap ∧
        (isSqlite f.name = true → ∃ content, snapshot f.path = .ok content)) := by
  unfold exportFile
  rcases hsql : isSqlite f.name with - | -
  · rw [if_neg Bool.false_ne_true]
    refine (exportCopy_cases h hsql).imp_right fun ⟨hok, hcap⟩ => ⟨hok, hcap, ?_⟩
    intro hc
    cases hc
  · rw [if_pos rfl]
    exact (exportSqlite_cases h hsql).imp_right fun ⟨hok, hcap, hs⟩ => ⟨hok, hcap, fun _ => hs⟩

end Step

/-! ### All files -/

/-- The file may be exported: its names are valid and none is excluded. -/
structure Exportable (f : SourceFile) : Prop where
  valid : ∀ s ∈ f.path, ValidName s
  clean : Clean f.path

/-- Neither file lies at or below the other. -/
def Apart (f g : SourceFile) : Prop := ¬ f.path <+: g.path ∧ ¬ g.path <+: f.path

theorem SourceFile.name_mem (f : SourceFile) : f.name ∈ f.path := by
  simp [SourceFile.path]

theorem SourceFile.dir_above_path (f : SourceFile) : f.dir <+: f.path := List.prefix_append _ _

theorem Exportable.name (h : Exportable f) : ValidName f.name := h.valid _ f.name_mem

/-- **The invariant of an export**: the files of `done` have been exported, and
nothing else. -/
structure Exported (cap : ℕ) (snapshot : Snapshot) (done : List SourceFile) (w : Progress) :
    Prop where
  files : w.files = done.flatMap SourceFile.archivePaths
  target : w.target.files = done.flatMap (SourceFile.produced snapshot)
  nodup : (w.target.files.map Prod.fst).Nodup
  bytes : w.bytes = (w.target.files.map fun file => file.2.length).sum
  cap : w.bytes ≤ cap
  snapshots : ∀ f ∈ done, isSqlite f.name = true → ∃ content, snapshot f.path = .ok content
  dirs : ∀ d ∈ w.target.dirs, d = [] ∨ ∃ f ∈ done, d <+: f.dir

theorem exported_start (cap : ℕ) (snapshot : Snapshot) : Exported cap snapshot [] .start where
  files := rfl
  target := rfl
  nodup := List.nodup_nil
  bytes := rfl
  cap := Nat.zero_le cap
  snapshots f hf := by cases hf
  dirs _ hd := .inl (List.mem_singleton.mp hd)

/-- The paths a file produces are its own and those of its placeholders. -/
theorem SourceFile.mem_produced {snapshot : Snapshot} {f : SourceFile} {path : Path}
    {content : Content} :
    (path, content) ∈ f.produced snapshot ↔
      (isSqlite f.name = false ∧ path = f.path ∧ content = f.content) ∨
      (isSqlite f.name = true ∧ ∃ snapped, snapshot f.path = .ok snapped ∧
        ((path = f.path ∧ content = snapped) ∨
          ∃ suffix ∈ SQLITE_SIDECAR_SUFFIXES, path = f.sidecar suffix ∧ content = [])) := by
  unfold SourceFile.produced
  rcases isSqlite f.name with - | -
  · simp
  · rcases snapshot f.path with message | snapped
    · simp
    · simp only [if_true, List.mem_cons, List.mem_map, Prod.mk.injEq, Bool.true_eq_false,
        false_and, true_and, Except.ok.injEq, exists_eq_left', false_or]
      refine or_congr_right (exists_congr fun suffix => and_congr_right fun _ => ?_)
      rw [eq_comm (a := path), eq_comm (a := content)]

theorem Exported.path_cases {cap : ℕ} {snapshot : Snapshot} {done : List SourceFile}
    {w : Progress} (h : Exported cap snapshot done w) {path : Path}
    (hp : path ∈ w.target.files.map Prod.fst) :
    ∃ g ∈ done, path = g.path ∨ ∃ suffix ∈ SQLITE_SIDECAR_SUFFIXES, path = g.sidecar suffix := by
  rw [h.target] at hp
  obtain ⟨⟨path', content⟩, hmem, rfl⟩ := List.mem_map.mp hp
  obtain ⟨g, hg, hmem⟩ := List.mem_flatMap.mp hmem
  rcases SourceFile.mem_produced.mp hmem with ⟨-, rfl, -⟩ | ⟨-, _, -, ⟨rfl, -⟩ | ⟨suffix, hs, rfl, -⟩⟩
  · exact ⟨g, hg, .inl rfl⟩
  · exact ⟨g, hg, .inl rfl⟩
  · exact ⟨g, hg, .inr ⟨suffix, hs, rfl⟩⟩

section Fit

variable {cap : ℕ} {snapshot : Snapshot} {done : List SourceFile} {w : Progress}
variable {f : SourceFile}

/-- A path that ends in a placeholder's name is no accepted path and no
beginning of one. -/
theorem Exportable.sidecar_not_above {g f : SourceFile} (hf : Exportable f)
    (hg : ValidName g.name) {suffix : String} (hs : suffix ∈ SQLITE_SIDECAR_SUFFIXES) :
    ¬ g.sidecar suffix <+: f.path := by
  intro h
  have hmem : g.name ++ suffix ∈ f.path := h.subset (by simp [SourceFile.sidecar])
  exact hf.clean.ne_sidecar hg hs hmem

/-- A new file that is apart from the files done so far fits beside them. -/
theorem Exported.fits (h : Exported cap snapshot done w) (hf : Exportable f)
    (hdone : ∀ g ∈ done, Exportable g ∧ Apart g f) : Fits w.target f := by
  have hne : ∀ name, f.dir ++ [name] ≠ [] := by simp
  -- a directory of the target lies above a file done so far
  have hdir : ∀ name, f.dir ++ [name] ∈ f.dir.inits ++ w.target.dirs →
      ∃ g ∈ done, f.dir ++ [name] <+: g.path := by
    intro name hmem
    rcases List.mem_append.mp hmem with hmem | hmem
    · have hlen := ((List.mem_inits _ _).mp hmem).length_le
      simp at hlen
    · rcases h.dirs _ hmem with hnil | ⟨g, hg, hpre⟩
      · exact absurd hnil (hne name)
      · exact ⟨g, hg, hpre.trans g.dir_above_path⟩
  refine ⟨?_, ?_, ?_, ?_, ?_⟩
  -- no file of the target lies above the directory of `f`
  · intro file hfile hpre
    obtain ⟨g, hg, hpath⟩ := h.path_cases (List.mem_map_of_mem hfile)
    have hpre' : file.1 <+: f.path := hpre.trans f.dir_above_path
    rcases hpath with hpath | ⟨suffix, hs, hpath⟩
    · exact (hdone g hg).2.1 (hpath ▸ hpre')
    · exact hf.sidecar_not_above (hdone g hg).1.name hs (hpath ▸ hpre')
  -- the path of `f` is not a directory of the target, nor a file of it
  · intro hmem
    obtain ⟨g, hg, hpre⟩ := hdir f.name hmem
    exact (hdone g hg).2.2 hpre
  · intro hmem
    obtain ⟨g, hg, hpath⟩ := h.path_cases hmem
    rcases hpath with hpath | ⟨suffix, hs, hpath⟩
    · exact (hdone g hg).2.1 (hpath ▸ List.prefix_rfl)
    · exact hf.sidecar_not_above (hdone g hg).1.name hs (hpath ▸ List.prefix_rfl)
  -- the same for its placeholders
  · intro suffix hs hmem
    obtain ⟨g, hg, hpre⟩ := hdir _ hmem
    exact (hdone g hg).1.sidecar_not_above hf.name hs hpre
  · intro suffix hs hmem
    obtain ⟨g, hg, hpath⟩ := h.path_cases hmem
    rcases hpath with hpath | ⟨suffix', hs', hpath⟩
    · exact (hdone g hg).1.sidecar_not_above hf.name hs (hpath ▸ List.prefix_rfl)
    · -- two placeholders of one path belong to one file
      obtain ⟨hdirs, hname⟩ := List.append_inj' hpath rfl
      obtain ⟨hname, -⟩ := sidecar_name_inj hs hs' (List.singleton_inj.mp hname)
      have hsame : g.path = f.path := by
        rw [SourceFile.path, SourceFile.path, hdirs, hname]
      exact (hdone g hg).2.1 (hsame ▸ List.prefix_rfl)

/-- The paths one file produces are distinct. -/
theorem SourceFile.produced_nodup (snapshot : Snapshot) (f : SourceFile) :
    ((f.produced snapshot).map Prod.fst).Nodup := by
  have hwal : "-wal" ∈ SQLITE_SIDECAR_SUFFIXES := by decide
  have hshm : "-shm" ∈ SQLITE_SIDECAR_SUFFIXES := by decide
  have hne : f.sidecar "-wal" ≠ f.sidecar "-shm" := by
    intro h
    have hn := List.singleton_inj.mp (List.append_cancel_left h)
    exact absurd (sidecar_name_inj hwal hshm hn).2 (by decide)
  unfold SourceFile.produced
  split
  · split
    · have h₁ := (f.sidecar_ne_path hwal).symm
      have h₂ := (f.sidecar_ne_path hshm).symm
      simp [SQLITE_SIDECAR_SUFFIXES, h₁, h₂, hne]
    · exact List.nodup_nil
  · exact List.nodup_singleton _

/-- **Step lemma.**  One more file keeps the invariant. -/
theorem Exported.step (h : Exported cap snapshot done w) (hf : Exportable f)
    (hdone : ∀ g ∈ done, Exportable g ∧ Apart g f) :
    (∃ e, exportFile cap snapshot w f = .error e ∧ Expected e) ∨
      ∃ w', exportFile cap snapshot w f = .ok w' ∧ Exported cap snapshot (done ++ [f]) w' := by
  have hfits := h.fits hf hdone
  refine (exportFile_cases hfits).imp_right fun ⟨hok, hcap, hs⟩ => ⟨_, hok, ?_⟩
  refine ⟨?_, ?_, ?_, ?_, hcap, ?_, ?_⟩
  · simp [Progress.afterFile, h.files]
  · simp [Progress.afterFile, h.target]
  -- what `f` produces is new, because `f` fits
  · show ((w.target.files ++ f.produced snapshot).map Prod.fst).Nodup
    rw [List.map_append, List.nodup_append']
    refine ⟨h.nodup, f.produced_nodup snapshot, fun path hold hnew => ?_⟩
    obtain ⟨⟨path', content⟩, hmem, rfl⟩ := List.mem_map.mp hnew
    rcases SourceFile.mem_produced.mp hmem with
      ⟨-, rfl, -⟩ | ⟨-, _, -, ⟨rfl, -⟩ | ⟨suffix, hsuffix, rfl, -⟩⟩
    · exact hfits.files hold
    · exact hfits.files hold
    · exact hfits.sidecarFiles suffix hsuffix hold
  · simp [Progress.afterFile, h.bytes]
  · intro g hg
    rcases List.mem_append.mp hg with hg | hg
    · exact h.snapshots g hg
    · rw [List.mem_singleton.mp hg]
      exact hs
  -- a directory of the target lies above `f`, or above a file done before
  · intro d hd
    rcases List.mem_append.mp hd with hd | hd
    · exact .inr ⟨f, by simp, (List.mem_inits _ _).mp hd⟩
    · refine (h.dirs d hd).imp_right fun ⟨g, hg, hpre⟩ => ⟨g, ?_, hpre⟩
      exact List.mem_append_left _ hg

/-- **Run lemma.**  Exporting files that are pairwise apart ends with all of them
exported, or at the cap or in a snapshot. -/
theorem Exported.run {files : List SourceFile} (h : Exported cap snapshot done w)
    (hfiles : ∀ f ∈ done ++ files, Exportable f) (happart : (done ++ files).Pairwise Apart) :
    (∃ e, files.foldlM (exportFile cap snapshot) w = .error e ∧ Expected e) ∨
      ∃ w', files.foldlM (exportFile cap snapshot) w = .ok w' ∧
        Exported cap snapshot (done ++ files) w' := by
  induction files generalizing done w with
  | nil =>
      rw [List.append_nil]
      exact .inr ⟨w, rfl, h⟩
  | cons f rest ih =>
      have hf : Exportable f := hfiles f (by simp)
      have hdone : ∀ g ∈ done, Exportable g ∧ Apart g f := fun g hg =>
        ⟨hfiles g (by simp [hg]), (List.pairwise_append.mp happart).2.2 g hg f (by simp)⟩
      rw [List.foldlM_cons]
      rcases h.step hf hdone with ⟨e, he, hexp⟩ | ⟨w', hok, h'⟩
      · exact .inl ⟨e, by rw [he, error_bind], hexp⟩
      · have hassoc : done ++ f :: rest = done ++ [f] ++ rest := by simp
        rw [hok, ok_bind, hassoc]
        rw [hassoc] at hfiles happart
        exact ih h' hfiles happart

end Fit

/-! ### The files of a tree -/

theorem SourceFile.Accepted.clean {f : SourceFile} (h : f.Accepted)
    (hv : ∀ s ∈ f.path, ValidName s) : Clean f.path := by
  have h' : filterSegments (toPosixSegments (joinPath f.path)) false = true := h
  rw [toPosixSegments_joinPath hv] at h'
  rcases hp : f.path with - | ⟨root, rest⟩
  · simp [SourceFile.path] at hp
  · rw [hp] at h'
    exact (filterSegments_cons.mp h').1

/-- What a visit exports lies at or below the entry visited. -/
theorem Node.above_of_mem_exported (node : Node) :
    ∀ (dir : Path) (name : String), ∀ f ∈ node.exported dir name, dir ++ [name] <+: f.path := by
  induction node using Node.induction with
  | file content =>
      intro dir name f hf
      simp only [Node.exported] at hf
      split at hf
      · rw [List.mem_singleton.mp hf]
        exact List.prefix_rfl
      · cases hf
  | directory entries ih =>
      intro dir name f hf
      simp only [Node.exported] at hf
      split at hf
      · obtain ⟨p, hp, hf⟩ := Entries.mem_exported.mp hf
        exact (List.prefix_append _ _).trans (ih p hp _ _ f hf)
      · cases hf
  | symbolicLink => intro dir name f hf; cases hf
  | other => intro dir name f hf; cases hf

/-- The entries of a valid directory export no file twice. -/
theorem nodup_flatMap_entries {e : Entries} (he : e.Valid) (dir : Path)
    (h : ∀ p ∈ e.toList, (p.2.exported dir p.1).Nodup) : (e.exported dir).Nodup := by
  rw [e.exported_eq, List.nodup_flatMap]
  refine ⟨fun p hp => h p ((sortByName_perm _).mem_iff.mp hp), ?_⟩
  have hnames : (sortByName e.toList).Pairwise fun a b => a.1 ≠ b.1 := by
    have hperm := (sortByName_perm e.toList).map Prod.fst
    exact List.pairwise_map.mp (hperm.nodup_iff.mpr he.nodup)
  refine hnames.imp fun {a b} hne f ha hb => ?_
  have ha' := a.2.above_of_mem_exported dir a.1 f ha
  have hb' := b.2.above_of_mem_exported dir b.1 f hb
  have hsame := (List.prefix_of_prefix_length_le ha' hb' (by simp)).eq_of_length (by simp)
  exact hne (List.singleton_inj.mp (List.append_cancel_left hsame))

theorem Node.exported_nodup (node : Node) :
    ∀ (dir : Path) (name : String), node.Valid → (node.exported dir name).Nodup := by
  induction node using Node.induction with
  | file content =>
      intro dir name _
      simp only [Node.exported]
      split
      · exact List.nodup_singleton _
      · exact List.nodup_nil
  | directory entries ih =>
      intro dir name hv
      simp only [Node.exported]
      split
      · exact nodup_flatMap_entries hv _ fun p hp => ih p hp _ _ (Entries.Valid.mem hv hp).2
      · exact List.nodup_nil
  | symbolicLink => intro dir name _; exact List.nodup_nil
  | other => intro dir name _; exact List.nodup_nil

theorem Entries.exported_nodup {e : Entries} (he : e.Valid) : (e.exported []).Nodup :=
  nodup_flatMap_entries he [] fun p hp => p.2.exported_nodup [] p.1 (he.mem hp).2

theorem Entries.exported_exportable {e : Entries} (he : e.Valid) :
    ∀ f ∈ e.exported [], Exportable f := by
  intro f hf
  obtain ⟨hr, ha⟩ := (Entries.mem_exported_iff he).mp hf
  exact ⟨hr.valid he, ha.clean (hr.valid he)⟩

theorem Entries.exported_apart {e : Entries} (he : e.Valid) :
    (e.exported []).Pairwise Apart := by
  refine (Entries.exported_nodup he).imp_of_mem fun {f g} hf hg hne => ?_
  have hf' := ((Entries.mem_exported_iff he).mp hf).1
  have hg' := ((Entries.mem_exported_iff he).mp hg).1
  exact ⟨fun h => hne (hf'.prefix_eq he hg' h), fun h => hne (hg'.prefix_eq he hf' h).symm⟩

/-! ### Archive paths -/

theorem archivePathOf_sidecar (f : SourceFile) (suffix : String) :
    archivePathOf f.path ++ suffix = archivePathOf (f.sidecar suffix) := by
  have hjoin : joinPath (f.dir ++ [f.name ++ suffix]) = joinPath (f.dir ++ [f.name]) ++ suffix := by
    rcases hd : f.dir with - | ⟨d, ds⟩
    · simp only [List.nil_append, joinPath, String.intercalate_singleton]
    · have hne : d :: ds ≠ [] := List.cons_ne_nil _ _
      rw [joinPath, joinPath, String.intercalate_append_of_ne_nil hne (by simp),
        String.intercalate_append_of_ne_nil hne (by simp), String.intercalate_singleton,
        String.intercalate_singleton]
      simp only [String.append_assoc]
  rw [SourceFile.sidecar, SourceFile.path, archivePathOf, archivePathOf, hjoin]
  simp only [String.append_assoc]

theorem archivePathOf_injective {p q : Path} (hp : ∀ s ∈ p, ValidName s)
    (hq : ∀ s ∈ q, ValidName s) (h : archivePathOf p = archivePathOf q) : p = q := by
  have hl := congrArg String.toList h
  simp only [archivePathOf, String.toList_append] at hl
  exact joinPath_injective hp hq (String.toList_inj.mp (List.append_cancel_left hl))

theorem ValidName.sidecar {name suffix : String} (h : ValidName name)
    (hs : suffix ∈ SQLITE_SIDECAR_SUFFIXES) : ValidName (name ++ suffix) := by
  have hlen : ∀ s ∈ SQLITE_SIDECAR_SUFFIXES, s.toList.length = 4 := by decide
  have hchars : ∀ s ∈ SQLITE_SIDECAR_SUFFIXES,
      (s.toList.all fun c => !isSeparator c && !isLineTerminator c) = true := by decide
  have hshort : ∀ t : String, t.toList.length ≤ 2 → name ++ suffix ≠ t := by
    rintro t ht rfl
    rw [String.toList_append, List.length_append, hlen _ hs] at ht
    omega
  refine ⟨hshort _ (by decide), hshort _ (by decide), hshort _ (by decide), fun c hc => ?_⟩
  rw [String.toList_append] at hc
  rcases List.mem_append.mp hc with hc | hc
  · exact h.chars c hc
  · exact chars_of_all (hchars _ hs) c hc

theorem SourceFile.sidecar_valid {f : SourceFile} (h : ∀ s ∈ f.path, ValidName s)
    {suffix : String} (hs : suffix ∈ SQLITE_SIDECAR_SUFFIXES) :
    ∀ s ∈ f.sidecar suffix, ValidName s := by
  intro s hmem
  rcases List.mem_append.mp hmem with hmem | hmem
  · exact h s (List.mem_append_left _ hmem)
  · rw [List.mem_singleton.mp hmem]
    exact (h f.name f.name_mem).sidecar hs

theorem SourceFile.mem_archivePaths {f : SourceFile} {a : String} :
    a ∈ f.archivePaths ↔ a = archivePathOf f.path ∨
      (isSqlite f.name = true ∧ ∃ suffix ∈ SQLITE_SIDECAR_SUFFIXES,
        a = archivePathOf f.path ++ suffix) := by
  unfold SourceFile.archivePaths
  rcases isSqlite f.name with - | -
  · simp
  · simp [eq_comm]

/-- The archive paths of an export are those of the files of its target. -/
theorem Exported.files_eq {cap : ℕ} {snapshot : Snapshot} {done : List SourceFile}
    {w : Progress} (h : Exported cap snapshot done w) :
    w.files = w.target.files.map fun file => archivePathOf file.1 := by
  rw [h.files, h.target, List.map_flatMap]
  refine List.flatMap_congr fun f hf => ?_
  unfold SourceFile.archivePaths SourceFile.produced
  rcases hsql : isSqlite f.name with - | -
  · rfl
  · obtain ⟨content, hs⟩ := h.snapshots f hf hsql
    simp only [hs, if_true, List.map_cons, List.map_map]
    refine congrArg _ (List.map_congr_left fun suffix _ => ?_)
    exact archivePathOf_sidecar f suffix

theorem Exported.files_nodup {cap : ℕ} {snapshot : Snapshot} {done : List SourceFile}
    {w : Progress} (h : Exported cap snapshot done w) (hdone : ∀ f ∈ done, Exportable f) :
    w.files.Nodup := by
  have hvalid : ∀ path ∈ w.target.files.map Prod.fst, ∀ s ∈ path, ValidName s := by
    intro path hp
    obtain ⟨g, hg, rfl | ⟨suffix, hs, rfl⟩⟩ := h.path_cases hp
    · exact (hdone g hg).valid
    · exact SourceFile.sidecar_valid (hdone g hg).valid hs
  have hmap : w.files = (w.target.files.map Prod.fst).map archivePathOf := by
    rw [h.files_eq, List.map_map]
    rfl
  rw [hmap]
  refine h.nodup.map_on fun p hp q hq he => ?_
  exact archivePathOf_injective (hvalid p hp) (hvalid q hq) he

/-! ### The specification -/

/-- The archive has this entry: a regular file the filter accepts by its own
path, or a placeholder of an accepted database. -/
def InArchive (e : Entries) (a : String) : Prop :=
  ∃ f, RegularFile e f ∧ f.Accepted ∧
    (a = archivePathOf f.path ∨
      (isSqlite f.name = true ∧ ∃ suffix ∈ SQLITE_SIDECAR_SUFFIXES,
        a = archivePathOf f.path ++ suffix))

/-- The target has this file with this content: a copy, a snapshot, or an empty
placeholder. -/
def InTarget (snapshot : Snapshot) (e : Entries) (path : Path) (content : Content) : Prop :=
  ∃ f, RegularFile e f ∧ f.Accepted ∧
    ((isSqlite f.name = false ∧ path = f.path ∧ content = f.content) ∨
      (isSqlite f.name = true ∧
        ((path = f.path ∧ snapshot f.path = .ok content) ∨
          ∃ suffix ∈ SQLITE_SIDECAR_SUFFIXES, path = f.sidecar suffix ∧ content = [])))

theorem Exported.inTarget_iff {cap : ℕ} {snapshot : Snapshot} {e : Entries} {w : Progress}
    (he : e.Valid) (h : Exported cap snapshot (e.exported []) w) {path : Path}
    {content : Content} :
    (path, content) ∈ w.target.files ↔ InTarget snapshot e path content := by
  rw [h.target, List.mem_flatMap]
  constructor
  · rintro ⟨f, hf, hmem⟩
    obtain ⟨hr, ha⟩ := (Entries.mem_exported_iff he).mp hf
    refine ⟨f, hr, ha, (SourceFile.mem_produced.mp hmem).imp_right fun ⟨hsql, c, hs, hc⟩ => ?_⟩
    refine ⟨hsql, hc.imp_left fun ⟨hp, hcontent⟩ => ⟨hp, ?_⟩⟩
    rw [hs, hcontent]
  · rintro ⟨f, hr, ha, hc⟩
    have hf := (Entries.mem_exported_iff he).mpr ⟨hr, ha⟩
    refine ⟨f, hf, SourceFile.mem_produced.mpr (hc.imp_right fun ⟨hsql, hc⟩ => ?_)⟩
    obtain ⟨snapped, hs⟩ := h.snapshots f hf hsql
    refine ⟨hsql, snapped, hs, hc.imp_left fun ⟨hp, hcontent⟩ => ⟨hp, ?_⟩⟩
    rw [hs] at hcontent
    exact (Except.ok.inj hcontent).symm

/-- An export either fails in one of its own ways or has exported the files of the
flattened walk, one after another. -/
theorem buildStateExportTree_run (rawMaxBytes : Option String) (maxBytes : Option ℕ)
    (snapshot : Snapshot) {e : Entries} (he : e.Valid) {cap : ℕ}
    (hcap : effectiveCap rawMaxBytes maxBytes = .ok cap) :
    (∃ err, buildStateExportTree rawMaxBytes maxBytes snapshot (some (.directory e)) = .error err ∧
        Expected err) ∨
      ∃ w, buildStateExportTree rawMaxBytes maxBytes snapshot (some (.directory e)) = .ok w ∧
        Exported cap snapshot (e.exported []) w := by
  have hbuild : buildStateExportTree rawMaxBytes maxBytes snapshot (some (.directory e)) =
      (e.exported []).foldlM (exportFile cap snapshot) .start := by
    rw [← walk_eq]
    simp only [buildStateExportTree, hcap, ok_bind]
  rw [hbuild]
  exact (exported_start cap snapshot).run (Entries.exported_exportable he)
    (Entries.exported_apart he)

/-- **The pruned walk is the unpruned specification.**  An export that returns
has produced exactly the accepted regular files and the placeholders of the
accepted databases, each once; its target holds exactly these, as copies,
snapshots and empty files; the bytes it reports are their total size, within the
cap.  An export that fails has failed at the cap or in a snapshot: no operation
on the target is ever refused, in particular no copy meets an existing file. -/
theorem buildStateExportTree_spec (rawMaxBytes : Option String) (maxBytes : Option ℕ)
    (snapshot : Snapshot) {e : Entries} (he : e.Valid) {cap : ℕ}
    (hcap : effectiveCap rawMaxBytes maxBytes = .ok cap) :
    (∀ w, buildStateExportTree rawMaxBytes maxBytes snapshot (some (.directory e)) = .ok w →
      w.files.Nodup ∧ (∀ a, a ∈ w.files ↔ InArchive e a) ∧
      (w.target.files.map Prod.fst).Nodup ∧
      (∀ path content, (path, content) ∈ w.target.files ↔ InTarget snapshot e path content) ∧
      w.bytes = (w.target.files.map fun file => file.2.length).sum ∧ w.bytes ≤ cap) ∧
    (∀ err, buildStateExportTree rawMaxBytes maxBytes snapshot (some (.directory e)) =
      .error err → Expected err) := by
  have hexportable := Entries.exported_exportable he
  rcases buildStateExportTree_run rawMaxBytes maxBytes snapshot he hcap with
    ⟨err, herr, hexp⟩ | ⟨w, hok, h⟩
  · rw [herr]
    refine ⟨fun w hw => (by cases hw), fun err' he' => ?_⟩
    cases he'
    exact hexp
  · rw [hok]
    refine ⟨fun w' hw => ?_, fun err herr => (by cases herr)⟩
    obtain rfl := Except.ok.inj hw
    refine ⟨h.files_nodup hexportable, fun a => ?_, h.nodup, fun path content => ?_, h.bytes,
      h.cap⟩
    -- the walk has exported what the filter accepts, and `InArchive` asks for just that
    · rw [h.files, List.mem_flatMap]
      constructor
      · rintro ⟨f, hf, ha⟩
        obtain ⟨hr, haccept⟩ := (Entries.mem_exported_iff he).mp hf
        exact ⟨f, hr, haccept, SourceFile.mem_archivePaths.mp ha⟩
      · rintro ⟨f, hr, haccept, ha⟩
        exact ⟨f, (Entries.mem_exported_iff he).mpr ⟨hr, haccept⟩,
          SourceFile.mem_archivePaths.mpr ha⟩
    · exact Exported.inTarget_iff he h

/-- What `VACUUM INTO` writes for a database without tables, an empty file among
them: one page, which is the header and a leaf without cells. -/
def emptyDatabase : Content :=
  [83, 81, 76, 105, 116, 101, 32, 102, 111, 114, 109, 97, 116, 32, 51, 0,
    16, 0, 1, 1, 0, 64, 32, 32, 0, 0, 0, 1, 0, 0, 0, 1] ++
  List.replicate 11 0 ++ [1] ++ List.replicate 51 0 ++
  [1, 0, 46, 122, 112, 13, 0, 0, 0, 0, 16] ++ List.replicate 3990 0

theorem emptyDatabase_length : emptyDatabase.length = 4096 := by
  decide +kernel

/-- A configuration file, a database that is still empty, its live log, and a link. -/
def sampleEntries : Entries :=
  .cons "state" (.directory (.cons "s.sqlite" (.file [])
    (.cons "s.sqlite-wal" (.file [4]) .nil)))
  (.cons "openclaw.json" (.file [123, 125]) (.cons "memory" .symbolicLink .nil))

theorem sampleEntries_valid : sampleEntries.Valid := by
  have valid : ∀ name : String, name ≠ "" → name ≠ "." → name ≠ ".." →
      (name.toList.all fun c => !isSeparator c && !isLineTerminator c) = true → ValidName name :=
    fun _ h₁ h₂ h₃ h₄ => ⟨h₁, h₂, h₃, chars_of_all h₄⟩
  refine ⟨valid _ (by decide) (by decide) (by decide) (by decide), by decide,
    ⟨valid _ (by decide) (by decide) (by decide) (by decide), by decide, trivial,
      valid _ (by decide) (by decide) (by decide) (by decide), by decide, trivial, trivial⟩,
    valid _ (by decide) (by decide) (by decide) (by decide), by decide, trivial,
    valid _ (by decide) (by decide) (by decide) (by decide), by decide, trivial, trivial⟩

/-- The export of the sample tree. -/
def sampleExport : Progress where
  files := [".openclaw/openclaw.json", ".openclaw/state/s.sqlite",
    ".openclaw/state/s.sqlite-wal", ".openclaw/state/s.sqlite-shm"]
  bytes := 2 + emptyDatabase.length
  target :=
    { dirs := [[], ["state"], [], []]
      files := [(["openclaw.json"], [123, 125]), (["state", "s.sqlite"], emptyDatabase),
        (["state", "s.sqlite-wal"], []), (["state", "s.sqlite-shm"], [])] }

theorem sampleEntries_built {cap : ℕ} (h : 2 + emptyDatabase.length ≤ cap) :
    buildStateExportTree none (some cap) (fun _ => .ok emptyDatabase)
      (some (.directory sampleEntries)) = .ok sampleExport := by
  have hfiles : sampleEntries.exported [] =
      [⟨[], "openclaw.json", [123, 125]⟩, ⟨["state"], "s.sqlite", []⟩] := by decide +kernel
  have hsql : isSqlite "s.sqlite" = true ∧ isSqlite "openclaw.json" = false := by decide
  have hcap : ¬ cap < 2 ∧ ¬ cap < 2 + emptyDatabase.length := by omega
  show walk cap _ [] sampleEntries .start = _
  rw [walk_eq, hfiles]
  simp [exportFile, exportSqlite, exportCopy, snapshotSqlite, writeSidecar, hsql, hcap,
    SQLITE_SIDECAR_SUFFIXES, Progress.start, Progress.account, Target.fresh, Target.mkdirp,
    Target.rmForce, Target.write, Target.copyExcl, Target.sizeOf, ok_bind, sampleExport]
  decide

/-- The database comes out as its snapshot with two placeholders, and its own log
is not copied. -/
theorem sampleEntries_exported :
    buildStateExportTree none (some 10000) (fun _ => .ok emptyDatabase)
        (some (.directory sampleEntries)) = .ok sampleExport ∧
      sampleExport.files.Nodup ∧ ∀ a, a ∈ sampleExport.files ↔ InArchive sampleEntries a := by
  have hbuild := @sampleEntries_built 10000 (by rw [emptyDatabase_length]; decide)
  have h := (buildStateExportTree_spec none (some 10000) (fun _ => .ok emptyDatabase)
    sampleEntries_valid rfl).1 sampleExport hbuild
  exact ⟨hbuild, h.1, h.2.1⟩

end Export
