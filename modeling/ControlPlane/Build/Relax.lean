/-
ControlPlane/Build/Relax.lean

`relax-openclaw-extension-versions.mjs` on a checkout: it lists the `package.json` files below
`extensions`, then reads, relaxes and writes them one after the other, each by its path, and
fails if none of them changed.

The files are a tree, whose texts are found and set by path, and any listing, read or write
may fail (`Replies`).  With nothing failing the loop over the paths does what one pass over
the tree would do (`relaxFiles_find`), so a run relaxes every `package.json` and touches
nothing else; one that throws has done so for the files before the one it stopped at.
-/
import ControlPlane.Build.Constraint

namespace Build

/-! ### The files below `extensions` -/

mutual

/-- What a directory entry is, without following links. -/
inductive Node where
  | file (text : List Char)
  | directory (entries : Entries)
  | other

/-- The entries of a directory, as `readdirSync` lists them. -/
inductive Entries where
  | nil
  | cons (name : String) (node : Node) (rest : Entries)

end

/-- A path below a directory. -/
abbrev Path := List String

/-- The names in a directory. -/
def Entries.names : Entries → List String
  | .nil => []
  | .cons name _ rest => name :: rest.names

mutual

/-- No directory has two entries of one name. -/
def Node.Valid : Node → Prop
  | .directory entries => entries.Valid
  | _ => True

/-- No two entries have one name, here or below. -/
def Entries.Valid : Entries → Prop
  | .nil => True
  | .cons name node rest => name ∉ rest.names ∧ node.Valid ∧ rest.Valid

end

mutual

/-- The text of the file at a path. -/
def Node.textAt : Node → Path → Option (List Char)
  | .file text, [] => some text
  | .directory entries, path => entries.textAt path
  | _, _ => none

def Entries.textAt : Entries → Path → Option (List Char)
  | .cons name node rest, key :: path =>
    if key = name then node.textAt path else rest.textAt (key :: path)
  | _, _ => none

end

mutual

/-- Another text for the file at a path. -/
def Node.setText (text : List Char) : Node → Path → Option Node
  | .file _, [] => some (.file text)
  | .directory entries, path => (entries.setText text path).map .directory
  | _, _ => none

def Entries.setText (text : List Char) : Entries → Path → Option Entries
  | .cons name node rest, key :: path =>
    if key = name then (node.setText text path).map (.cons name · rest)
    else (rest.setText text (key :: path)).map (.cons name node ·)
  | _, _ => none

end

mutual

/-- The tree without the texts. -/
def Node.shape : Node → Node
  | .file _ => .file []
  | .directory entries => .directory entries.shape
  | .other => .other

def Entries.shape : Entries → Entries
  | .nil => .nil
  | .cons name node rest => .cons name node.shape rest.shape

end

/-- How the file system answers: whether the directories can be listed, which files can be
read, and of a file whose write fails what this leaves in it. -/
structure Replies where
  lists : Bool
  reads : Path → Bool
  torn : Path → Option (List Char)

/-- Nothing fails. -/
def undisturbed : Replies where
  lists := true
  reads _ := true
  torn _ := none

/-- `readFileSync(path, "utf8")`, or `none` when it throws. -/
def readFileSync (replies : Replies) (tree : Entries) (file : Path) : Option (List Char) :=
  if replies.reads file then tree.textAt file else none

/-- `writeFileSync(path, text)`: what it leaves, and whether it goes through. -/
def writeFileSync (replies : Replies) (tree : Entries) (file : Path) (text : List Char) :
    Entries × Bool :=
  match tree.setText ((replies.torn file).getD text) file with
  | some written => (written, (replies.torn file).isNone)
  | none => (tree, false)

/-! ### The script -/

/-- The name of the files that are relaxed. -/
def packageJson : String := "package.json"

mutual

/-- What `findPackageJsonFiles` finds at an entry of the name, at `full`. -/
def Node.findPackageJsonFiles (full : Path) (name : String) : Node → List Path
  | .directory entries => entries.findPackageJsonFiles full
  | .file _ => if name = packageJson then [full] else []
  | .other => []

/-- `findPackageJsonFiles(dir)`. -/
def Entries.findPackageJsonFiles (dir : Path) : Entries → List Path
  | .nil => []
  | .cons name node rest =>
    node.findPackageJsonFiles (dir ++ [name]) name ++ rest.findPackageJsonFiles dir

end

/-- The loop over the files, with `changedFileCount`: what it leaves, and the count unless it
throws. -/
def relaxFiles (replies : Replies) : List Path → Entries → ℕ → Entries × Option ℕ
  | [], tree, changedFileCount => (tree, some changedFileCount)
  | file :: files, tree, changedFileCount =>
    match readFileSync replies tree file with
    | none => (tree, none)
    | some original =>
      let rewritten := relaxConstraints original
      if rewritten ≠ original then
        match writeFileSync replies tree file rewritten with
        | (tree, true) => relaxFiles replies files tree (changedFileCount + 1)
        | (tree, false) => (tree, none)
      else relaxFiles replies files tree changedFileCount

/-- What is at `<root>/extensions`, behind links. -/
inductive Extensions where
  | absent
  | directory (entries : Entries)
  | notADirectory

/-- How a run ends.  A throw is a trace and exit code 1 as well. -/
inductive Outcome where
  | exit (code : ℕ) (stdout stderr : List String)
  | threw

/-- The line printed without an argument. -/
def usage : String :=
  "usage: node relax-openclaw-extension-versions.mjs <path-to-openclaw-checkout>"

/-- The line printed when there is no such directory. -/
def noExtensions (extensionsDir : String) : String :=
  "expected an \"extensions\" directory at " ++ extensionsDir ++
    " -- the pinned OpenClaw source may have changed shape; " ++
    "re-verify this script's assumptions before proceeding."

/-- The line printed when no file is found. -/
def noFiles (extensionsDir : String) : String :=
  "no package.json files found under " ++ extensionsDir ++
    " -- the pinned OpenClaw source may have changed shape."

/-- The line printed when no file was changed. -/
def noneRelaxed (files : ℕ) (extensionsDir : String) : String :=
  "relaxed 0 of " ++ toString files ++ " extension package.json file(s) under " ++
    extensionsDir ++ " -- expected at least one \"openclaw\": \">=X\" or \"workspace:X\" " ++
    "constraint. The pinned OpenClaw source's own versioning convention may have changed; " ++
    "re-verify this script's regexes before proceeding."

/-- The line printed in the end. -/
def someRelaxed (changedFileCount files : ℕ) (extensionsDir : String) : String :=
  "relaxed \"openclaw\" version constraint to \"*\" in " ++ toString changedFileCount ++ "/" ++
    toString files ++ " extension package.json file(s) under " ++ extensionsDir

/-- The script on the checkout `root`, with what it leaves there.  `extensionsDir` is the path
it joins from `root`. -/
def relaxScript (replies : Replies) (root : Option String) (extensionsDir : String)
    (extensions : Extensions) : Outcome × Extensions :=
  if root.getD "" = "" then (.exit 1 [] [usage], extensions)
  else match extensions with
    | .absent => (.exit 1 [] [noExtensions extensionsDir], .absent)
    | .notADirectory => (.threw, .notADirectory)
    | .directory entries =>
      let files := entries.findPackageJsonFiles []
      if !replies.lists then (.threw, .directory entries)
      else if files.length = 0 then (.exit 1 [] [noFiles extensionsDir], .directory entries)
      else match relaxFiles replies files entries 0 with
        | (entries, none) => (.threw, .directory entries)
        | (entries, some changedFileCount) =>
          if changedFileCount = 0 then
            (.exit 1 [] [noneRelaxed files.length extensionsDir], .directory entries)
          else (.exit 0 [someRelaxed changedFileCount files.length extensionsDir] [],
            .directory entries)

/-! ### One pass over the tree -/

mutual

/-- The text of every `package.json` relaxed, and nothing else changed. -/
def Node.relaxed (name : String) : Node → Node
  | .file text => .file (if name = packageJson then relaxConstraints text else text)
  | .directory entries => .directory entries.relaxed
  | .other => .other

/-- A directory with every `package.json` relaxed. -/
def Entries.relaxed : Entries → Entries
  | .nil => .nil
  | .cons name node rest => .cons name (node.relaxed name) rest.relaxed

end

mutual

/-- The texts of the `package.json` files. -/
def Node.packageJsonTexts (name : String) : Node → List (List Char)
  | .file text => if name = packageJson then [text] else []
  | .directory entries => entries.packageJsonTexts
  | .other => []

/-- The texts of the `package.json` files in a directory. -/
def Entries.packageJsonTexts : Entries → List (List Char)
  | .nil => []
  | .cons name node rest => node.packageJsonTexts name ++ rest.packageJsonTexts

end

/-- How many of the texts the patterns change. -/
def changes (texts : List (List Char)) : ℕ :=
  texts.countP fun text => decide (relaxConstraints text ≠ text)

/-! ### The loop is the pass -/

section Loop

variable {name : String} {node : Node} {rest sub tree : Entries} {files files' : List Path}
  {k : ℕ}

mutual

theorem Node.find_eq_map (full : Path) (name : String) : ∀ node : Node,
    node.findPackageJsonFiles full name = (node.findPackageJsonFiles [] name).map (full ++ ·)
  | .file text => by
      by_cases h : name = packageJson
      · simp [Node.findPackageJsonFiles, h]
      · simp [Node.findPackageJsonFiles, h]
  | .directory entries => Entries.find_eq_map full entries
  | .other => rfl

theorem Entries.find_eq_map (dir : Path) : ∀ entries : Entries,
    entries.findPackageJsonFiles dir = (entries.findPackageJsonFiles []).map (dir ++ ·)
  | .nil => rfl
  | .cons name node rest => by
      rw [Entries.findPackageJsonFiles, Entries.findPackageJsonFiles,
        Node.find_eq_map (dir ++ [name]), Node.find_eq_map ([] ++ [name]),
        Entries.find_eq_map dir rest]
      simp

end

/-- What is found in a directory begins with a name of it. -/
theorem Entries.exists_name_of_mem_find {entries : Entries} {file : Path}
    (h : file ∈ entries.findPackageJsonFiles []) : ∃ key path, file = key :: path ∧
      key ∈ entries.names := by
  cases entries with
  | nil => cases h
  | cons name node rest =>
      rcases List.mem_append.mp h with h | h
      · rw [Node.find_eq_map] at h
        obtain ⟨path, -, rfl⟩ := List.mem_map.mp h
        exact ⟨name, path, rfl, .head _⟩
      · obtain ⟨key, path, rfl, hkey⟩ := rest.exists_name_of_mem_find h
        exact ⟨key, path, rfl, .tail _ hkey⟩

theorem readFileSync_undisturbed {file : Path} :
    readFileSync undisturbed tree file = tree.textAt file := rfl

theorem relaxFiles_append {replies : Replies} {n : ℕ} {tree' : Entries}
    (h : relaxFiles replies files tree k = (tree', some n)) :
    relaxFiles replies (files ++ files') tree k = relaxFiles replies files' tree' n := by
  induction files generalizing tree k with
  | nil =>
      obtain ⟨rfl, hk⟩ := Prod.mk.inj h
      obtain rfl := Option.some.inj hk
      rfl
  | cons file files ih =>
      simp only [relaxFiles, List.cons_append] at h ⊢
      cases hread : readFileSync replies tree file with
      | none =>
          rw [hread] at h
          cases h
      | some original =>
          rw [hread] at h
          dsimp only at h ⊢
          split_ifs at h ⊢ with hne
          · cases hwrite : writeFileSync replies tree file (relaxConstraints original) with
            | mk written done =>
                rw [hwrite] at h
                cases done with
                | false => cases h
                | true => exact ih h
          · exact ih h

/-- A write of a file that is somewhere in a larger tree. -/
theorem writeFileSync_map {wrap : Entries → Entries} {path : Path → Path} {file : Path}
    {text : List Char}
    (hwrite : (wrap tree).setText text (path file) = (tree.setText text file).map wrap) :
    writeFileSync undisturbed (wrap tree) (path file) text =
      (writeFileSync undisturbed tree file text).map wrap id := by
  show (match (wrap tree).setText text (path file) with | some _ => _ | none => _) =
    Prod.map wrap id (match tree.setText text file with | some _ => _ | none => _)
  rw [hwrite]
  cases tree.setText text file with
  | none => rfl
  | some written => rfl

/-- The loop on files that are somewhere in a larger tree. -/
theorem relaxFiles_map (wrap : Entries → Entries) (path : Path → Path)
    (hread : ∀ tree, ∀ file ∈ files, (wrap tree).textAt (path file) = tree.textAt file)
    (hwrite : ∀ text tree, ∀ file ∈ files,
      (wrap tree).setText text (path file) = (tree.setText text file).map wrap) :
    relaxFiles undisturbed (files.map path) (wrap tree) k =
      (relaxFiles undisturbed files tree k).map wrap id := by
  induction files generalizing tree k with
  | nil => rfl
  | cons file files ih =>
      have ih : ∀ tree k, relaxFiles undisturbed (files.map path) (wrap tree) k =
          (relaxFiles undisturbed files tree k).map wrap id := fun _ _ =>
        ih (fun tree file hfile => hread tree file (.tail _ hfile))
          (fun text tree file hfile => hwrite text tree file (.tail _ hfile))
      simp only [List.map_cons, relaxFiles, readFileSync_undisturbed, hread _ _ (.head _),
        writeFileSync_map (hwrite _ _ _ (.head _))]
      cases tree.textAt file with
      | none => rfl
      | some original =>
          dsimp only
          split_ifs
          · obtain ⟨written, done⟩ :=
              writeFileSync undisturbed tree file (relaxConstraints original)
            cases done with
            | false => rfl
            | true => exact ih written _
          · exact ih tree _

/-- Files of a directory in it. -/
theorem relaxFiles_inside :
    relaxFiles undisturbed (files.map (name :: ·)) (.cons name (.directory sub) rest) k =
      (relaxFiles undisturbed files sub k).map (fun sub => .cons name (.directory sub) rest)
        id := by
  refine relaxFiles_map (fun sub => .cons name (.directory sub) rest) (name :: ·) ?_ ?_
  · intro tree file _
    show (if name = name then (Node.directory tree).textAt file else _) = _
    rw [if_pos rfl]
    rfl
  · intro text tree file _
    show (if name = name then ((Node.directory tree).setText text file).map _ else _) = _
    rw [if_pos rfl, Node.setText, Option.map_map]
    rfl

/-- Files of the other entries. -/
theorem relaxFiles_behind (h : name ∉ rest.names)
    (hfiles : ∀ file ∈ files, ∃ key path, file = key :: path ∧ key ∈ rest.names) :
    relaxFiles undisturbed files (.cons name node rest) k =
      (relaxFiles undisturbed files rest k).map (fun rest => .cons name node rest) id := by
  have hother : ∀ file ∈ files, ∃ key path, file = key :: path ∧ key ≠ name := by
    intro file hfile
    obtain ⟨key, path, rfl, hkey⟩ := hfiles file hfile
    exact ⟨key, path, rfl, fun heq => h (heq ▸ hkey)⟩
  have hmap : relaxFiles undisturbed (files.map id) (.cons name node rest) k =
      (relaxFiles undisturbed files rest k).map (fun rest => .cons name node rest) id := by
    refine relaxFiles_map (fun rest => .cons name node rest) id ?_ ?_
    · intro tree file hfile
      obtain ⟨key, path, rfl, hne⟩ := hother file hfile
      exact if_neg hne
    · intro text tree file hfile
      obtain ⟨key, path, rfl, hne⟩ := hother file hfile
      exact if_neg hne
  rwa [List.map_id] at hmap

theorem changes_append (texts texts' : List (List Char)) :
    changes (texts ++ texts') = changes texts + changes texts' := List.countP_append

mutual

theorem Node.relaxFiles_find (k : ℕ) (rest : Entries) (name : String) : ∀ node : Node, node.Valid →
    relaxFiles undisturbed (node.findPackageJsonFiles [name] name) (.cons name node rest) k =
      (.cons name (node.relaxed name) rest, some (k + changes (node.packageJsonTexts name)))
  | .file text, _ => by
      by_cases hname : name = packageJson
      · have hread : (Entries.cons name (.file text) rest).textAt [name] = some text := if_pos rfl
        have hset : ∀ text', (Entries.cons name (.file text) rest).setText text' [name] =
            some (.cons name (.file text') rest) := fun text' => if_pos rfl
        have hwrite : ∀ text', writeFileSync undisturbed (.cons name (.file text) rest) [name]
            text' = (.cons name (.file text') rest, true) := fun text' => by
          show (match Entries.setText text' _ _ with | some _ => _ | none => _) = _
          rw [hset]
          rfl
        simp only [Node.findPackageJsonFiles, Node.relaxed, Node.packageJsonTexts, if_pos hname,
          relaxFiles, readFileSync_undisturbed, hread, hwrite]
        by_cases hne : relaxConstraints text ≠ text
        · simp [hne, changes]
        · simp [not_not.mp hne, changes]
      · simp only [Node.findPackageJsonFiles, Node.relaxed, Node.packageJsonTexts, if_neg hname,
          relaxFiles]
        rfl
  | .directory entries, h => by
      have hfind : (Node.directory entries).findPackageJsonFiles [name] name =
          (entries.findPackageJsonFiles []).map (name :: ·) := Entries.find_eq_map [name] entries
      rw [hfind, relaxFiles_inside, Entries.relaxFiles_find k entries h]
      rfl
  | .other, _ => rfl

/-- **The loop over the paths is one pass over the tree.** -/
theorem Entries.relaxFiles_find (k : ℕ) : ∀ entries : Entries, entries.Valid →
    relaxFiles undisturbed (entries.findPackageJsonFiles []) entries k =
      (entries.relaxed, some (k + changes entries.packageJsonTexts))
  | .nil, _ => rfl
  | .cons name node rest, ⟨hfresh, hnode, hrest⟩ => by
      have hhead := Node.relaxFiles_find k rest name node hnode
      rw [Entries.findPackageJsonFiles, List.nil_append, relaxFiles_append hhead,
        relaxFiles_behind hfresh fun file hfile => rest.exists_name_of_mem_find hfile,
        Entries.relaxFiles_find _ rest hrest]
      simp only [Prod.map_apply, id_eq, Entries.relaxed, Entries.packageJsonTexts, changes_append,
        Nat.add_assoc]

end

mutual

theorem Node.length_find (full : Path) (name : String) : ∀ node : Node,
    (node.findPackageJsonFiles full name).length = (node.packageJsonTexts name).length
  | .file text => by
      by_cases h : name = packageJson
      · simp [Node.findPackageJsonFiles, Node.packageJsonTexts, h]
      · simp [Node.findPackageJsonFiles, Node.packageJsonTexts, h]
  | .directory entries => Entries.length_find full entries
  | .other => rfl

theorem Entries.length_find (dir : Path) : ∀ entries : Entries,
    (entries.findPackageJsonFiles dir).length = entries.packageJsonTexts.length
  | .nil => rfl
  | .cons name node rest => by
      rw [Entries.findPackageJsonFiles, Entries.packageJsonTexts, List.length_append,
        List.length_append, Node.length_find, Entries.length_find dir rest]

end

end Loop

/-! ### Loops that fail -/

section Failing

variable {replies : Replies} {files : List Path} {file : Path} {tree tree' : Entries}
  {text : List Char} {k n : ℕ}

mutual

theorem Node.textAt_setText (text : List Char) : ∀ (node node' : Node) (file p : Path),
    node.setText text file = some node' →
      node'.textAt p = if p = file then some text else node.textAt p
  | .file _, node', [], p, h => by
      cases h
      cases p with
      | nil => simp [Node.textAt]
      | cons key path => simp [Node.textAt]
  | .file _, node', key :: path, p, h => by cases h
  | .directory entries, node', file, p, h => by
      obtain ⟨entries', hentries, rfl⟩ := Option.map_eq_some_iff.mp h
      exact Entries.textAt_setText text entries entries' file p hentries
  | .other, node', file, p, h => by cases h

/-- Only the text at the path is another. -/
theorem Entries.textAt_setText (text : List Char) : ∀ (entries entries' : Entries) (file p : Path),
    entries.setText text file = some entries' →
      entries'.textAt p = if p = file then some text else entries.textAt p
  | .nil, entries', file, p, h => by cases h
  | .cons name node rest, entries', [], p, h => by cases h
  | .cons name node rest, entries', key :: path, p, h => by
      rw [Entries.setText] at h
      split_ifs at h with hkey
      · obtain ⟨node', hnode, rfl⟩ := Option.map_eq_some_iff.mp h
        cases p with
        | nil => simp [Entries.textAt]
        | cons key' path' =>
            rw [Entries.textAt, Entries.textAt]
            by_cases hname : key' = name
            · rw [if_pos hname, if_pos hname, Node.textAt_setText text node node' path path' hnode]
              simp [hname, hkey]
            · rw [if_neg hname, if_neg hname, if_neg]
              intro heq
              exact hname ((List.cons.inj heq).1.trans hkey)
      · obtain ⟨rest', hrest, rfl⟩ := Option.map_eq_some_iff.mp h
        cases p with
        | nil => simp [Entries.textAt]
        | cons key' path' =>
            rw [Entries.textAt, Entries.textAt]
            by_cases hname : key' = name
            · rw [if_pos hname, if_pos hname, if_neg]
              intro heq
              exact hkey ((List.cons.inj heq).1.symm.trans hname)
            · rw [if_neg hname, if_neg hname]
              exact Entries.textAt_setText text rest rest' (key :: path) (key' :: path') hrest

end

mutual

theorem Node.shape_setText (text : List Char) : ∀ (node node' : Node) (file : Path),
    node.setText text file = some node' → node'.shape = node.shape
  | .file _, node', [], h => by
      cases h
      rfl
  | .file _, node', key :: path, h => by cases h
  | .directory entries, node', file, h => by
      obtain ⟨entries', hentries, rfl⟩ := Option.map_eq_some_iff.mp h
      exact congrArg Node.directory (Entries.shape_setText text entries entries' file hentries)
  | .other, node', file, h => by cases h

theorem Entries.shape_setText (text : List Char) : ∀ (entries entries' : Entries) (file : Path),
    entries.setText text file = some entries' → entries'.shape = entries.shape
  | .nil, entries', file, h => by cases h
  | .cons name node rest, entries', [], h => by cases h
  | .cons name node rest, entries', key :: path, h => by
      rw [Entries.setText] at h
      split_ifs at h with hkey
      · obtain ⟨node', hnode, rfl⟩ := Option.map_eq_some_iff.mp h
        rw [Entries.shape, Entries.shape, Node.shape_setText text node node' path hnode]
      · obtain ⟨rest', hrest, rfl⟩ := Option.map_eq_some_iff.mp h
        rw [Entries.shape, Entries.shape, Entries.shape_setText text rest rest' (key :: path) hrest]

end

theorem readFileSync_some (h : readFileSync replies tree file = some text) :
    tree.textAt file = some text := by
  unfold readFileSync at h
  split at h
  · exact h
  · cases h

/-- A write that goes through has set the text. -/
theorem writeFileSync_true (h : writeFileSync replies tree file text = (tree', true)) :
    tree.setText text file = some tree' := by
  unfold writeFileSync at h
  split at h
  · next written hset =>
      obtain ⟨rfl, hdone⟩ := Prod.mk.inj h
      rw [Option.isNone_iff_eq_none.mp hdone] at hset
      exact hset
  · cases h

theorem writeFileSync_of_setText (h : tree.setText text file = some tree') :
    writeFileSync undisturbed tree file text = (tree', true) := by
  show (match tree.setText text file with | some _ => _ | none => _) = _
  rw [h]
  rfl

/-- A write that fails has left some text there, or nothing. -/
theorem writeFileSync_false (h : writeFileSync replies tree file text = (tree', false)) :
    tree' = tree ∨ ∃ torn, tree.setText torn file = some tree' := by
  unfold writeFileSync at h
  split at h
  · next written hset =>
      obtain ⟨rfl, -⟩ := Prod.mk.inj h
      exact .inr ⟨_, hset⟩
  · exact .inl (Prod.mk.inj h).1.symm

/-- A loop that does not throw is one in which nothing fails. -/
theorem relaxFiles_returned (h : relaxFiles replies files tree k = (tree', some n)) :
    relaxFiles undisturbed files tree k = (tree', some n) := by
  induction files generalizing tree k with
  | nil => exact h
  | cons file files ih =>
      simp only [relaxFiles] at h ⊢
      cases hread : readFileSync replies tree file with
      | none =>
          rw [hread] at h
          cases h
      | some original =>
          rw [hread] at h
          rw [readFileSync_undisturbed, readFileSync_some hread]
          dsimp only at h ⊢
          split_ifs at h ⊢ with hne
          · cases hwrite : writeFileSync replies tree file (relaxConstraints original) with
            | mk written done =>
                rw [hwrite] at h
                cases done with
                | false => cases h
                | true =>
                    rw [writeFileSync_of_setText (writeFileSync_true hwrite)]
                    exact ih h
          · exact ih h

/-- A loop that throws has gone through some files, and stopped at the next. -/
theorem relaxFiles_threw (h : relaxFiles replies files tree k = (tree', none)) :
    ∃ before file after through n, files = before ++ file :: after ∧
      relaxFiles undisturbed before tree k = (through, some n) ∧
      (tree' = through ∨ ∃ torn, through.setText torn file = some tree') := by
  induction files generalizing tree k with
  | nil => cases h
  | cons file files ih =>
      simp only [relaxFiles] at h
      cases hread : readFileSync replies tree file with
      | none =>
          rw [hread] at h
          exact ⟨[], file, files, tree, k, rfl, rfl, .inl (Prod.mk.inj h).1.symm⟩
      | some original =>
          rw [hread] at h
          dsimp only at h
          split_ifs at h with hne
          · cases hwrite : writeFileSync replies tree file (relaxConstraints original) with
            | mk written done =>
                rw [hwrite] at h
                cases done with
                | false =>
                    obtain rfl := (Prod.mk.inj h).1
                    exact ⟨[], file, files, tree, k, rfl, rfl, writeFileSync_false hwrite⟩
                | true =>
                    obtain ⟨before, stop, after, through, n, rfl, hthrough, hleft⟩ := ih h
                    refine ⟨file :: before, stop, after, through, n, rfl, ?_, hleft⟩
                    simp only [relaxFiles, readFileSync_undisturbed, readFileSync_some hread,
                      if_pos hne, writeFileSync_of_setText (writeFileSync_true hwrite)]
                    exact hthrough
          · obtain ⟨before, stop, after, through, n, rfl, hthrough, hleft⟩ := ih h
            refine ⟨file :: before, stop, after, through, n, rfl, ?_, hleft⟩
            simp only [relaxFiles, readFileSync_undisturbed, readFileSync_some hread, if_neg hne]
            exact hthrough

/-- What a loop in which nothing fails leaves: the texts of its files relaxed. -/
theorem relaxFiles_texts (hnodup : files.Nodup)
    (h : relaxFiles undisturbed files tree k = (tree', some n)) :
    tree'.shape = tree.shape ∧ ∀ p, tree'.textAt p =
      if p ∈ files then (tree.textAt p).map relaxConstraints else tree.textAt p := by
  induction files generalizing tree k with
  | nil =>
      obtain ⟨rfl, -⟩ := Prod.mk.inj h
      exact ⟨rfl, fun p => rfl⟩
  | cons file files ih =>
      obtain ⟨hfresh, hnodup⟩ := List.nodup_cons.mp hnodup
      simp only [relaxFiles, readFileSync_undisturbed] at h
      cases hread : tree.textAt file with
      | none =>
          rw [hread] at h
          cases h
      | some original =>
          rw [hread] at h
          dsimp only at h
          split_ifs at h with hne
          · cases hwrite : writeFileSync undisturbed tree file (relaxConstraints original) with
            | mk written done =>
                rw [hwrite] at h
                cases done with
                | false => cases h
                | true =>
                    have hset := writeFileSync_true hwrite
                    obtain ⟨hshape, htexts⟩ := ih hnodup h
                    refine ⟨hshape.trans (Entries.shape_setText _ _ _ _ hset), fun p => ?_⟩
                    rw [htexts, Entries.textAt_setText _ _ _ _ p hset]
                    by_cases hp : p = file
                    · rw [hp, if_neg hfresh, if_pos rfl, if_pos (List.mem_cons_self ..), hread]
                      rfl
                    · simp [hp]
          · obtain ⟨hshape, htexts⟩ := ih hnodup h
            refine ⟨hshape, fun p => ?_⟩
            rw [htexts]
            by_cases hp : p = file
            · rw [hp, if_neg hfresh, if_pos (List.mem_cons_self ..), hread]
              exact congrArg some (not_not.mp hne).symm
            · simp [hp]

mutual

theorem Node.nodup_find (full : Path) (name : String) : ∀ node : Node, node.Valid →
    (node.findPackageJsonFiles full name).Nodup
  | .file text, _ => by
      rw [Node.findPackageJsonFiles]
      split_ifs
      · exact List.nodup_cons.mpr ⟨List.not_mem_nil, List.nodup_nil⟩
      · exact List.nodup_nil
  | .directory entries, h => Entries.nodup_find full entries h
  | .other, _ => List.nodup_nil

/-- No file is found twice. -/
theorem Entries.nodup_find (dir : Path) : ∀ entries : Entries, entries.Valid →
    (entries.findPackageJsonFiles dir).Nodup
  | .nil, _ => List.nodup_nil
  | .cons name node rest, ⟨hfresh, hnode, hrest⟩ => by
      rw [Entries.findPackageJsonFiles]
      refine List.nodup_append.mpr ⟨Node.nodup_find (dir ++ [name]) name node hnode,
        Entries.nodup_find dir rest hrest, ?_⟩
      rintro p hp q hq rfl
      rw [Node.find_eq_map] at hp
      rw [Entries.find_eq_map] at hq
      obtain ⟨path, -, rfl⟩ := List.mem_map.mp hp
      obtain ⟨path', hmem, heq⟩ := List.mem_map.mp hq
      obtain ⟨key, path', rfl, hkey⟩ := rest.exists_name_of_mem_find hmem
      have hname : key = name := by
        rw [List.append_assoc] at heq
        exact (List.cons.inj (List.append_cancel_left heq)).1
      exact hfresh (hname ▸ hkey)

end

end Failing

/-! ### Runs of the script -/

mutual

theorem Node.relaxed_eq_self (name : String) : ∀ node : Node,
    (∀ text ∈ node.packageJsonTexts name, relaxConstraints text = text) → node.relaxed name = node
  | .file text, h => by
      by_cases hname : name = packageJson
      · have htext : relaxConstraints text = text := by
          refine h text ?_
          simp [Node.packageJsonTexts, hname]
        simp [Node.relaxed, htext]
      · simp [Node.relaxed, hname]
  | .directory entries, h => congrArg Node.directory (Entries.relaxed_eq_self entries h)
  | .other, _ => rfl

theorem Entries.relaxed_eq_self : ∀ entries : Entries,
    (∀ text ∈ entries.packageJsonTexts, relaxConstraints text = text) → entries.relaxed = entries
  | .nil, _ => rfl
  | .cons name node rest, h => by
      rw [Entries.relaxed,
        Node.relaxed_eq_self name node fun text htext => h text (List.mem_append_left _ htext),
        Entries.relaxed_eq_self rest fun text htext => h text (List.mem_append_right _ htext)]

end

mutual

theorem Node.packageJsonTexts_relaxed (name : String) : ∀ node : Node,
    (node.relaxed name).packageJsonTexts name = (node.packageJsonTexts name).map relaxConstraints
  | .file text => by
      by_cases hname : name = packageJson
      · simp [Node.relaxed, Node.packageJsonTexts, hname]
      · simp [Node.relaxed, Node.packageJsonTexts, hname]
  | .directory entries => Entries.packageJsonTexts_relaxed entries
  | .other => rfl

theorem Entries.packageJsonTexts_relaxed : ∀ entries : Entries,
    entries.relaxed.packageJsonTexts = entries.packageJsonTexts.map relaxConstraints
  | .nil => rfl
  | .cons name node rest => by
      rw [Entries.relaxed, Entries.packageJsonTexts, Entries.packageJsonTexts, List.map_append,
        Node.packageJsonTexts_relaxed name node, Entries.packageJsonTexts_relaxed rest]

end

theorem Entries.names_relaxed : ∀ entries : Entries, entries.relaxed.names = entries.names
  | .nil => rfl
  | .cons name _ rest => congrArg (name :: ·) rest.names_relaxed

mutual

theorem Node.valid_relaxed (name : String) : ∀ node : Node, node.Valid → (node.relaxed name).Valid
  | .file _, _ => trivial
  | .directory entries, h => Entries.valid_relaxed entries h
  | .other, _ => trivial

theorem Entries.valid_relaxed : ∀ entries : Entries, entries.Valid → entries.relaxed.Valid
  | .nil, _ => trivial
  | .cons name node rest, ⟨hfresh, hnode, hrest⟩ =>
      ⟨rest.names_relaxed ▸ hfresh, Node.valid_relaxed name node hnode, rest.valid_relaxed hrest⟩

end

section Script

variable {root extensionsDir : String} {entries : Entries}

theorem changes_eq_zero {texts : List (List Char)} :
    changes texts = 0 ↔ ∀ text ∈ texts, relaxConstraints text = text := by
  simp [changes]

/-- What a run over `entries` has come to, and what it has left. -/
inductive Relaxation (entries : Entries) : Outcome → Entries → Prop
  /-- every `package.json` is relaxed, and some text was another before -/
  | relaxed (stdout : List String)
      (hchanged : ∃ text ∈ entries.packageJsonTexts, relaxConstraints text ≠ text) :
      Relaxation entries (.exit 0 stdout []) entries.relaxed
  /-- there is nothing to relax -/
  | refused (stderr : List String)
      (hsame : ∀ text ∈ entries.packageJsonTexts, relaxConstraints text = text) :
      Relaxation entries (.exit 1 [] stderr) entries
  | notListed : Relaxation entries .threw entries
  /-- the files before the one the run stopped at are relaxed, and that one alone may hold
  anything -/
  | interrupted (tree : Entries) (before after : List Path) (file : Path)
      (hfiles : entries.findPackageJsonFiles [] = before ++ file :: after)
      (hshape : tree.shape = entries.shape)
      (htexts : ∀ p, p ≠ file → tree.textAt p =
        if p ∈ before then (entries.textAt p).map relaxConstraints else entries.textAt p) :
      Relaxation entries .threw tree

/-- A loop that throws leaves what an interrupted run does. -/
theorem relaxation_of_threw {replies : Replies} {tree : Entries} {k : ℕ} (h : entries.Valid)
    (hloop : relaxFiles replies (entries.findPackageJsonFiles []) entries k = (tree, none)) :
    Relaxation entries .threw tree := by
  obtain ⟨before, file, after, through, n, hfiles, hthrough, hleft⟩ := relaxFiles_threw hloop
  have hnodup : before.Nodup := by
    have hfound := entries.nodup_find [] h
    rw [hfiles] at hfound
    exact (List.nodup_append.mp hfound).1
  obtain ⟨hshape, htexts⟩ := relaxFiles_texts hnodup hthrough
  rcases hleft with rfl | ⟨torn, hset⟩
  · exact .interrupted _ before after file hfiles hshape fun p _ => htexts p
  · refine .interrupted _ before after file hfiles
      ((Entries.shape_setText _ _ _ _ hset).trans hshape) fun p hp => ?_
    rw [Entries.textAt_setText _ _ _ _ p hset, if_neg hp, htexts]

/-- A loop that does not throw leaves what a pass does, and the count tells whether there was
anything to relax. -/
theorem relaxFiles_counts {replies : Replies} {tree : Entries} {n : ℕ} (h : entries.Valid)
    (hloop : relaxFiles replies (entries.findPackageJsonFiles []) entries 0 = (tree, some n)) :
    tree = entries.relaxed ∧ n = changes entries.packageJsonTexts := by
  have hpass := Entries.relaxFiles_find 0 entries h
  rw [relaxFiles_returned hloop, Nat.zero_add] at hpass
  obtain ⟨htree, hcount⟩ := Prod.mk.inj hpass
  exact ⟨htree, Option.some.inj hcount⟩

variable (extensionsDir) in
/-- Every run comes to one of the four. -/
theorem relaxScript_relaxation (replies : Replies) (hroot : root ≠ "") (h : entries.Valid) :
    ∃ o tree, relaxScript replies (some root) extensionsDir (.directory entries) =
      (o, .directory tree) ∧ Relaxation entries o tree := by
  simp only [relaxScript, Option.getD_some, if_neg hroot]
  split_ifs with hlists hfiles
  · exact ⟨_, entries, rfl, .notListed⟩
  · refine ⟨_, entries, rfl, .refused _ fun text htext => ?_⟩
    rw [Entries.length_find] at hfiles
    rw [List.length_eq_zero_iff.mp hfiles] at htext
    cases htext
  · cases hloop : relaxFiles replies (entries.findPackageJsonFiles []) entries 0 with
    | mk tree count =>
        cases count with
        | none => exact ⟨_, tree, rfl, relaxation_of_threw h hloop⟩
        | some n =>
            obtain ⟨rfl, rfl⟩ := relaxFiles_counts h hloop
            dsimp only
            split_ifs with hzero
            · have hsame := changes_eq_zero.mp hzero
              rw [entries.relaxed_eq_self hsame]
              exact ⟨_, entries, rfl, .refused _ hsame⟩
            · refine ⟨_, _, rfl, .relaxed _ ?_⟩
              by_contra hnone
              refine hzero (changes_eq_zero.mpr fun text hmem => ?_)
              by_contra hne
              exact hnone ⟨text, hmem, hne⟩

variable (extensionsDir) in
/-- A run in which nothing fails does not throw. -/
theorem relaxScript_undisturbed (hroot : root ≠ "") (h : entries.Valid) :
    ∃ code stdout stderr tree, relaxScript undisturbed (some root) extensionsDir
      (.directory entries) = (.exit code stdout stderr, tree) := by
  have hloop := Entries.relaxFiles_find 0 entries h
  simp only [relaxScript, Option.getD_some, if_neg hroot, hloop]
  split_ifs with hlists
  · cases hlists
  · exact ⟨_, _, _, _, rfl⟩
  · exact ⟨_, _, _, _, rfl⟩
  · exact ⟨_, _, _, _, rfl⟩

variable (extensionsDir) in
/-- **What runs of the script leave.**  Whatever fails, a run comes to one of the four of
`Relaxation`, and it throws only if something does fail.  Where the patterns find only what
they are meant for, a second run over what a successful one has left, with nothing failing,
exits 1 and leaves everything as it is. -/
theorem relaxScript_run (replies : Replies) (hroot : root ≠ "") (h : entries.Valid) :
    ∃ o tree, relaxScript replies (some root) extensionsDir (.directory entries) =
        (o, .directory tree) ∧
      Relaxation entries o tree ∧
      (replies = undisturbed → o ≠ .threw) ∧
      ((∀ text ∈ entries.packageJsonTexts, ∃ ts, Faithful ts ∧ text = textOf ts) →
        ∃ stderr, relaxScript undisturbed (some root) extensionsDir (.directory entries.relaxed) =
          (.exit 1 [] stderr, .directory entries.relaxed)) := by
  obtain ⟨o, tree, hrun, hrelaxation⟩ := relaxScript_relaxation extensionsDir replies hroot h
  refine ⟨o, tree, hrun, hrelaxation, ?_, ?_⟩
  · rintro rfl rfl
    obtain ⟨code, stdout, stderr, left, hexits⟩ :=
      relaxScript_undisturbed extensionsDir hroot h
    rw [hrun] at hexits
    cases hexits
  · intro hfaithful
    have hfixed : ∀ text ∈ entries.relaxed.packageJsonTexts, relaxConstraints text = text := by
      intro text htext
      rw [Entries.packageJsonTexts_relaxed] at htext
      obtain ⟨text, hmem, rfl⟩ := List.mem_map.mp htext
      obtain ⟨ts, hts, rfl⟩ := hfaithful text hmem
      rw [relaxConstraints_eq hts, relaxConstraints_eq (faithful_relaxMembers hts),
        relaxMembers_relaxMembers]
    have hvalid := entries.valid_relaxed h
    obtain ⟨code, stdout, stderr, left, hexits⟩ :=
      relaxScript_undisturbed extensionsDir hroot hvalid
    obtain ⟨o', tree', hagain, hsecond⟩ :=
      relaxScript_relaxation extensionsDir undisturbed hroot hvalid
    cases hsecond with
    | relaxed stdout hchanged =>
        obtain ⟨text, hmem, hne⟩ := hchanged
        exact absurd (hfixed text hmem) hne
    | refused stderr hsame => exact ⟨stderr, hagain⟩
    | notListed =>
        rw [hagain] at hexits
        cases hexits
    | interrupted =>
        rw [hagain] at hexits
        cases hexits

/-- A checkout with one extension that asks for a version. -/
def oneExtension : Entries :=
  .cons "matrix" (.directory (.cons "package.json" (.file (textOf (versionMember ">=2".toList)))
    (.cons "README.md" (.file "\"openclaw\": \">=2\"".toList) .nil))) .nil

/-- An undisturbed run over it, and a second one. -/
theorem oneExtension_relaxed : ∃ o tree,
    relaxScript undisturbed (some "checkout") "checkout/extensions" (.directory oneExtension) =
      (o, .directory tree) ∧ Relaxation oneExtension o tree ∧ o ≠ .threw ∧
    ∃ stderr, relaxScript undisturbed (some "checkout") "checkout/extensions"
        (.directory oneExtension.relaxed) =
      (.exit 1 [] stderr, .directory oneExtension.relaxed) := by
  have hvalid : oneExtension.Valid := by
    simp [oneExtension, Entries.Valid, Node.Valid, Entries.names]
  have hroot : "checkout" ≠ "" := by decide
  obtain ⟨o, tree, hrun, hrelaxation, hexits, hagain⟩ :=
    relaxScript_run "checkout/extensions" undisturbed hroot hvalid
  refine ⟨o, tree, hrun, hrelaxation, hexits rfl, hagain ?_⟩
  intro text htext
  obtain rfl := List.mem_singleton.mp htext
  exact ⟨_, versionMember_faithful, rfl⟩

end Script

end Build
