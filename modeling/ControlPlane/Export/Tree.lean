/-
ControlPlane/Export/Tree.lean

The two file trees of an export: the state directory it reads and the target it
writes.

The state directory is an inductive tree, entries in the order the directory
gives them.  `RegularFile` says which regular files it has, reached through real
directories only; on a valid tree no regular file is an ancestor of another
(`RegularFile.prefix_eq`).

The target is a set of directories and a map of files with the operations the
export uses, each with the condition under which the file system refuses it.
-/
import ControlPlane.Export.Filter
import Mathlib.Data.List.Nodup

namespace Export

open Js

/-- The bytes of a file. -/
abbrev Content := List UInt8

/-- A path below the state directory, or below the archive root. -/
abbrev Path := List String

/-! ### The state directory -/

mutual

/-- What a directory entry is, without following links. -/
inductive Node where
  | file (content : Content)
  | directory (entries : Entries)
  | symbolicLink
  | other

/-- The entries of a directory. -/
inductive Entries where
  | nil
  | cons (name : String) (node : Node) (rest : Entries)

end

/-- The entries with their names. -/
def Entries.toList : Entries → List (String × Node)
  | .nil => []
  | .cons name node rest => (name, node) :: rest.toList

/-- The names in a directory. -/
def Entries.names (e : Entries) : List String := e.toList.map Prod.fst

mutual

/-- Every name is valid and no directory holds a name twice. -/
def Node.Valid : Node → Prop
  | .directory entries => entries.Valid
  | _ => True

/-- No two entries have one name, here or below. -/
def Entries.Valid : Entries → Prop
  | .nil => True
  | .cons name node rest => ValidName name ∧ name ∉ rest.names ∧ node.Valid ∧ rest.Valid

end

mutual

/-- Induction over a tree, with the hypothesis for each entry of a directory. -/
theorem Node.induction {P : Node → Prop} (file : ∀ content, P (.file content))
    (directory : ∀ entries : Entries, (∀ p ∈ entries.toList, P p.2) → P (.directory entries))
    (symbolicLink : P .symbolicLink) (other : P .other) : ∀ node, P node
  | .file content => file content
  | .directory entries =>
      directory entries (Entries.induction file directory symbolicLink other entries)
  | .symbolicLink => symbolicLink
  | .other => other

theorem Entries.induction {P : Node → Prop} (file : ∀ content, P (.file content))
    (directory : ∀ entries : Entries, (∀ p ∈ entries.toList, P p.2) → P (.directory entries))
    (symbolicLink : P .symbolicLink) (other : P .other) :
    ∀ entries : Entries, ∀ p ∈ entries.toList, P p.2
  | .nil, p, hp => by cases hp
  | .cons name node rest, p, hp => by
      rcases List.mem_cons.mp hp with rfl | hp
      · exact Node.induction file directory symbolicLink other node
      · exact Entries.induction file directory symbolicLink other rest p hp

end

theorem Entries.Valid.mem {e : Entries} (h : e.Valid) {p : String × Node} (hp : p ∈ e.toList) :
    ValidName p.1 ∧ p.2.Valid := by
  match e, h with
  | .nil, _ => cases hp
  | .cons name node rest, ⟨hname, _, hnode, hrest⟩ =>
      rcases List.mem_cons.mp hp with rfl | hp
      · exact ⟨hname, hnode⟩
      · exact hrest.mem hp

theorem Entries.Valid.nodup {e : Entries} (h : e.Valid) : e.names.Nodup := by
  match e, h with
  | .nil, _ => exact List.nodup_nil
  | .cons name node rest, ⟨_, hfresh, _, hrest⟩ =>
      exact List.nodup_cons.mpr ⟨hfresh, hrest.nodup⟩

/-- A name stands for one entry. -/
theorem Entries.Valid.unique {e : Entries} (h : e.Valid) {name : String} {a b : Node}
    (ha : (name, a) ∈ e.toList) (hb : (name, b) ∈ e.toList) : a = b := by
  have hinj := List.inj_on_of_nodup_map h.nodup ha hb rfl
  exact (Prod.mk.injEq _ _ _ _ ▸ hinj).2

/-- A file of the source: its directory, its name and its content. -/
structure SourceFile where
  dir : Path
  name : String
  content : Content
deriving DecidableEq

/-- The path of a file. -/
def SourceFile.path (f : SourceFile) : Path := f.dir ++ [f.name]

/-- The same file seen from the directory above. -/
def SourceFile.under (f : SourceFile) (parent : Path) : SourceFile :=
  { f with dir := parent ++ f.dir }

/-- The regular files of a directory, reached through real directories only. -/
inductive RegularFile : Entries → SourceFile → Prop
  | here {entries name content} :
      (name, .file content) ∈ entries.toList → RegularFile entries ⟨[], name, content⟩
  | inside {entries d sub f} :
      (d, .directory sub) ∈ entries.toList → RegularFile sub f →
      RegularFile entries (f.under [d])

theorem RegularFile.valid {e : Entries} {f : SourceFile} (he : e.Valid) (h : RegularFile e f) :
    ∀ s ∈ f.path, ValidName s := by
  induction h with
  | here hmem =>
      intro s hs
      obtain rfl := List.mem_singleton.mp hs
      exact (he.mem hmem).1
  | @inside _ d _ f hmem _ ih =>
      intro s hs
      obtain ⟨hd, hsub⟩ := he.mem hmem
      rcases List.mem_cons.mp hs with rfl | hs
      · exact hd
      · exact ih hsub s hs

/-- No regular file lies at or below another one. -/
theorem RegularFile.prefix_eq {e : Entries} {f g : SourceFile} (he : e.Valid)
    (hf : RegularFile e f) (hg : RegularFile e g) (h : f.path <+: g.path) : f = g := by
  induction hf generalizing g with
  | @here e name content hmem =>
      cases hg with
      | @here _ name' content' hmem' =>
          obtain ⟨rfl, -⟩ := List.cons_prefix_cons.mp h
          have hnode := he.unique hmem hmem'
          cases hnode
          rfl
      | inside hmem' hsub =>
          obtain ⟨rfl, -⟩ := List.cons_prefix_cons.mp h
          cases he.unique hmem hmem'
  | @inside e d sub f hmem hsub ih =>
      cases hg with
      | here hmem' =>
          obtain ⟨rfl, -⟩ := List.cons_prefix_cons.mp h
          cases he.unique hmem hmem'
      | inside hmem' hsub' =>
          obtain ⟨rfl, h⟩ := List.cons_prefix_cons.mp h
          cases he.unique hmem hmem'
          rw [ih (he.mem hmem).2 hsub' h]

/-! ### The target -/

/-- Why an export fails. -/
inductive ExportError where
  | missingStateDir
  | invalidMaxBytes (raw : String)
  | capExceeded (cap : ℕ) (archivePath : String) (files bytes : ℕ)
  | snapshotFailed (message : String)
  | alreadyExists (path : Path)
  | notADirectory (path : Path)
  | isADirectory (path : Path)
  | noSuchDirectory (path : Path)
deriving DecidableEq

/-- The tree below the archive root: its directories, and its files with their
contents. -/
structure Target where
  dirs : List Path
  files : List (Path × Content)
deriving DecidableEq

/-- A fresh archive root. -/
def Target.fresh : Target := { dirs := [[]], files := [] }

/-- `mkdirSync(dir, { recursive: true })`. -/
def Target.mkdirp (t : Target) (dir : Path) : Except ExportError Target :=
  if t.files.any fun file => file.1.isPrefixOf dir then .error (.notADirectory dir)
  else .ok { t with dirs := dir.inits ++ t.dirs }

/-- `rmSync(path, { force: true })`. -/
def Target.rmForce (t : Target) (path : Path) : Except ExportError Target :=
  if path ∈ t.dirs then .error (.isADirectory path)
  else .ok { t with files := t.files.filter fun file => file.1 ≠ path }

/-- Writing a file, over an older one if there is one. -/
def Target.write (t : Target) (path : Path) (content : Content) : Except ExportError Target :=
  if path ∈ t.dirs then .error (.isADirectory path)
  else if path.dropLast ∉ t.dirs then .error (.noSuchDirectory path)
  else .ok { t with files := t.files.filter (fun file => file.1 ≠ path) ++ [(path, content)] }

/-- `copyFileSync` with `COPYFILE_EXCL`: an existing target is an error. -/
def Target.copyExcl (t : Target) (path : Path) (content : Content) :
    Except ExportError Target :=
  if path ∈ t.dirs ∨ path ∈ t.files.map Prod.fst then .error (.alreadyExists path)
  else if path.dropLast ∉ t.dirs then .error (.noSuchDirectory path)
  else .ok { t with files := t.files ++ [(path, content)] }

section Target

variable {t : Target} {path dir : Path} {content : Content}

theorem Target.mkdirp_ok (h : ∀ file ∈ t.files, ¬ file.1 <+: dir) :
    t.mkdirp dir = .ok { t with dirs := dir.inits ++ t.dirs } := by
  have hnone : ¬ (t.files.any fun file => file.1.isPrefixOf dir) = true := by
    rw [List.any_eq_true]
    rintro ⟨file, hmem, hp⟩
    exact h file hmem (List.isPrefixOf_iff_prefix.mp hp)
  rw [Target.mkdirp, if_neg hnone]

theorem filter_fresh {files : List (Path × Content)} (h : path ∉ files.map Prod.fst) :
    files.filter (fun file => file.1 ≠ path) = files := by
  rw [List.filter_eq_self]
  intro file hfile
  have hne : file.1 ≠ path := fun he => h (he ▸ List.mem_map_of_mem hfile)
  simpa using hne

theorem Target.rmForce_ok (hd : path ∉ t.dirs) (hf : path ∉ t.files.map Prod.fst) :
    t.rmForce path = .ok t := by
  rw [Target.rmForce, if_neg hd, filter_fresh hf]

theorem Target.write_ok (hd : path ∉ t.dirs) (hf : path ∉ t.files.map Prod.fst)
    (hp : path.dropLast ∈ t.dirs) :
    t.write path content = .ok { t with files := t.files ++ [(path, content)] } := by
  rw [Target.write, if_neg hd, if_neg (not_not.mpr hp), filter_fresh hf]

theorem Target.copyExcl_ok (hd : path ∉ t.dirs) (hf : path ∉ t.files.map Prod.fst)
    (hp : path.dropLast ∈ t.dirs) :
    t.copyExcl path content = .ok { t with files := t.files ++ [(path, content)] } := by
  rw [Target.copyExcl, if_neg (not_or.mpr ⟨hd, hf⟩), if_neg (not_not.mpr hp)]

end Target

end Export
