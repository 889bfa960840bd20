/-
ControlPlane/Workspace/Import.lean

Sending workspace files to an instance (`import-workspace-files.ts`): the names are checked,
the files staged in a fresh directory of this machine and packed there, the directory is
removed, and only then is the archive posted, once.

`ArchiveRun` lists the runs of building the archive (`buildWorkspaceArchive_yields`); what a
caller of the import relies on is read off it (`importWorkspaceFiles_contained`).
-/
import ControlPlane.Interaction.Finally
import ControlPlane.Workspace.Names

namespace Workspace

open Js Interaction

/-- The bytes of an archive. -/
abbrev Bytes := List UInt8

/-! ### The calls -/

/-- What an import asks of the machine and the instance. -/
inductive Call where
  | mkdtemp (pathPrefix : Path)
  | mkdir (path : Path)
  | writeFile (path : Path) (content : String)
  | pack (cwd : Path) (entries : List String)
  | rm (path : Path)
  | postImport (archive : Bytes)

/-- What `/setup/import` has answered. -/
structure ImportResponse where
  ok : Bool
  status : ℕ
  body : String

/-- A call is answered, or rejected with a message.  A packing gives its chunks. -/
@[reducible] def Call.Reply : Call → Type
  | .mkdtemp _ => Except String Path
  | .mkdir _ => Except String Unit
  | .writeFile _ _ => Except String Unit
  | .pack _ _ => Except String (List Bytes)
  | .rm _ => Except String Unit
  | .postImport _ => Except String ImportResponse

/-- The calls and what they are answered with. -/
abbrev Machine : Interface where
  Call := Call
  Reply := Call.Reply

/-- The calls of a run in order, with their replies. -/
abbrev Trace : Type := List (Event Machine)

/-! ### The import -/

/-- The error for a name that is not safe. -/
def unsafeWorkspaceFilename (name : String) : String := "Unsafe workspace filename: " ++ quote name

/-- Throw for a name that is not safe. -/
def assertSafeWorkspaceFilename (name : String) : Except String Unit :=
  if unsafeFilename name.toList then .error (unsafeWorkspaceFilename name) else .ok ()

/-- The check of all names, before anything is done. -/
def assertSafeNames : List String → Except String Unit
  | [] => .ok ()
  | name :: names => do
    assertSafeWorkspaceFilename name
    assertSafeNames names

section Import

variable (platform : Platform)

/-- Write the files into the directory. -/
def writeFiles (workspaceDir : Path) : List (String × String) → Prog Machine String Unit
  | [] => pure ()
  | (name, content) :: files => do
    Prog.ask (I := Machine) (.writeFile (workspaceDir.join platform name.toList) content) id
    writeFiles workspaceDir files

/-- The part of `buildWorkspaceArchive` that the staging directory is removed after. -/
def stageAndPack (stagingDir : Path) (files : List (String × String)) :
    Prog Machine String Bytes := do
  let workspaceDir := stagingDir.join platform "workspace".toList
  Prog.ask (I := Machine) (.mkdir workspaceDir) id
  writeFiles platform workspaceDir files
  let chunks ← Prog.ask (I := Machine) (.pack stagingDir ["workspace"]) id
  pure chunks.flatten

/-- Check the names, stage and pack the files, and remove the staging directory. -/
def buildWorkspaceArchive (tmpdir : Path) (files : List (String × String)) :
    Prog Machine String Bytes := do
  Prog.ofExcept (assertSafeNames (files.map Prod.fst))
  let stagingDir ← Prog.ask (I := Machine)
    (.mkdtemp (tmpdir.join platform "openclaw-workspace-import-".toList)) id
  (stageAndPack platform stagingDir files).finallyDo
    (Prog.ask (I := Machine) (.rm stagingDir) id)

/-- What an import returns. -/
structure ImportWorkspaceFilesResult where
  status : ℕ
  body : String

/-- What becomes of the response. -/
def importResult (reply : Except String ImportResponse) :
    Except String ImportWorkspaceFilesResult := do
  let result ← reply
  if result.ok then .ok ⟨result.status, result.body⟩
  else .error ("POST /setup/import returned " ++ toString result.status ++ ": " ++ result.body)

/-- Pack the files and post the archive to the instance. -/
def importWorkspaceFiles (tmpdir : Path) (files : List (String × String)) :
    Prog Machine String ImportWorkspaceFilesResult := do
  let archive ← buildWorkspaceArchive platform tmpdir files
  Prog.ask (I := Machine) (.postImport archive) importResult

end Import

/-! ### The runs -/

/-- Writing files into a directory, up to the first that fails. -/
inductive Writes (dir : Path) : List (String × String) → Trace → Except String Unit → Prop
  | done : Writes dir [] [] (.ok ())
  | written {name content : String} {files : List (String × String)} {t : Trace}
      {x : Except String Unit} (h : Writes dir files t x) :
      Writes dir ((name, content) :: files)
        (⟨.writeFile (dir ++ [name.toList]) content, .ok ()⟩ :: t) x
  | failed {name content message : String} {files : List (String × String)} :
      Writes dir ((name, content) :: files)
        [⟨.writeFile (dir ++ [name.toList]) content, .error message⟩] (.error message)

/-- The directory the files are written into. -/
def workspaceIn (stagingDir : Path) : Path := stagingDir ++ ["workspace".toList]

/-- Staging the files and packing them, and the archive this gives. -/
inductive Staging (dir : Path) (files : List (String × String)) : Trace → Except String Bytes → Prop
  | noDirectory (message : String) :
      Staging dir files [⟨.mkdir (workspaceIn dir), .error message⟩] (.error message)
  | notWritten {t : Trace} {message : String}
      (h : Writes (workspaceIn dir) files t (.error message)) :
      Staging dir files (⟨.mkdir (workspaceIn dir), .ok ()⟩ :: t) (.error message)
  | packed {t : Trace} (h : Writes (workspaceIn dir) files t (.ok ()))
      (reply : Except String (List Bytes)) :
      Staging dir files (⟨.mkdir (workspaceIn dir), .ok ()⟩ :: t ++
        [⟨.pack dir ["workspace"], reply⟩]) (reply.map List.flatten)

/-- The prefix of the fresh directory. -/
def stagingPrefix (tmpdir : Path) : Path := tmpdir ++ ["openclaw-workspace-import-".toList]

/-- Every file has a safe name. -/
def SafeNames (files : List (String × String)) : Prop :=
  ∀ name ∈ files.map Prod.fst, unsafeFilename name.toList = false

/-- The runs of building the archive, and what it comes to. -/
inductive ArchiveRun (tmpdir : Path) (files : List (String × String)) :
    Trace → Except String Bytes → Prop
  | unsafeName {before : List String} {name : String} {after : List String}
      (hnames : files.map Prod.fst = before ++ name :: after)
      (hbefore : ∀ name ∈ before, unsafeFilename name.toList = false)
      (hname : unsafeFilename name.toList = true) :
      ArchiveRun tmpdir files [] (.error (unsafeWorkspaceFilename name))
  | noStaging (hnames : SafeNames files) (message : String) :
      ArchiveRun tmpdir files [⟨.mkdtemp (stagingPrefix tmpdir), .error message⟩] (.error message)
  | notRemoved {dir : Path} {t : Trace} {x : Except String Bytes} (hnames : SafeNames files)
      (hstaging : Staging dir files t x) (message : String) :
      ArchiveRun tmpdir files (⟨.mkdtemp (stagingPrefix tmpdir), .ok dir⟩ :: t ++
        [⟨.rm dir, .error message⟩]) (.error message)
  | removed {dir : Path} {t : Trace} {x : Except String Bytes} (hnames : SafeNames files)
      (hstaging : Staging dir files t x) :
      ArchiveRun tmpdir files (⟨.mkdtemp (stagingPrefix tmpdir), .ok dir⟩ :: t ++
        [⟨.rm dir, .ok ()⟩]) x

section Runs

variable {platform : Platform} {tmpdir dir : Path} {files : List (String × String)} {t : Trace}

theorem stays_of_safe {name : List Char} (h : unsafeFilename name = false) :
    Stays platform name := by
  obtain ⟨hposix, hwin32, -⟩ := unsafeFilename_eq_false_iff.mp h
  cases platform with
  | posix => exact hposix
  | win32 => exact hwin32

theorem join_workspace : dir.join platform "workspace".toList = workspaceIn dir := by
  have hsafe : unsafeFilename "workspace".toList = false := by decide
  exact stays_of_safe hsafe dir

theorem assertSafeNames_cons (name : String) (names : List String) :
    assertSafeNames (name :: names) = if unsafeFilename name.toList then
      .error (unsafeWorkspaceFilename name) else assertSafeNames names := by
  rw [assertSafeNames, assertSafeWorkspaceFilename]
  cases unsafeFilename name.toList <;> rfl

theorem assertSafeNames_eq_ok_iff {names : List String} {u : Unit} :
    assertSafeNames names = .ok u ↔ ∀ name ∈ names, unsafeFilename name.toList = false := by
  induction names with
  | nil => simp [assertSafeNames]
  | cons name names ih =>
      rw [assertSafeNames_cons, List.forall_mem_cons, ← ih]
      cases unsafeFilename name.toList <;> simp

/-- The error names the first unsafe name. -/
theorem assertSafeNames_eq_error_iff {names : List String} {message : String} :
    assertSafeNames names = .error message ↔ ∃ before name after,
      names = before ++ name :: after ∧ (∀ name ∈ before, unsafeFilename name.toList = false) ∧
      unsafeFilename name.toList = true ∧ message = unsafeWorkspaceFilename name := by
  induction names with
  | nil => simp [assertSafeNames]
  | cons name names ih =>
      rw [assertSafeNames_cons]
      cases hname : unsafeFilename name.toList with
      | true =>
          rw [if_pos rfl]
          constructor
          · intro h
            cases h
            exact ⟨[], name, names, rfl, fun _ h => (nomatch h), hname, rfl⟩
          · rintro ⟨before, other, after, hparts, hbefore, hother, rfl⟩
            cases before with
            | nil =>
                cases hparts
                rfl
            | cons first before =>
                cases hparts
                rw [hbefore name (.head _)] at hname
                cases hname
      | false =>
          rw [if_neg Bool.false_ne_true, ih]
          constructor
          · rintro ⟨before, other, after, rfl, hbefore, hother, he⟩
            exact ⟨name :: before, other, after, rfl, List.forall_mem_cons.mpr ⟨hname, hbefore⟩,
              hother, he⟩
          · rintro ⟨before, other, after, hparts, hbefore, hother, he⟩
            cases before with
            | nil =>
                cases hparts
                rw [hname] at hother
                cases hother
            | cons first before =>
                cases hparts
                exact ⟨before, other, after, rfl, (List.forall_mem_cons.mp hbefore).2, hother, he⟩

theorem join_stagingPrefix : tmpdir.join platform "openclaw-workspace-import-".toList =
    stagingPrefix tmpdir := by
  have hsafe : unsafeFilename "openclaw-workspace-import-".toList = false := by decide
  exact stays_of_safe hsafe tmpdir

theorem safeNames_iff {u : Unit} : assertSafeNames (files.map Prod.fst) = .ok u ↔ SafeNames files :=
  assertSafeNames_eq_ok_iff

theorem writeFiles_yields (hnames : SafeNames files) :
    (writeFiles platform dir files).Yields (Writes dir files) := by
  induction files with
  | nil =>
      refine (Prog.yields_ofExcept (x := .ok ())).congr fun t x => ?_
      constructor
      · rintro ⟨rfl, rfl⟩
        exact .done
      · intro h
        cases h
        exact ⟨rfl, rfl⟩
  | cons file files ih =>
      obtain ⟨name, content⟩ := file
      obtain ⟨hname, hrest⟩ := List.forall_mem_cons.mp hnames
      have hjoin : dir.join platform name.toList = dir ++ [name.toList] := stays_of_safe hname dir
      rw [writeFiles, hjoin]
      refine (Prog.yields_ask.bind fun _ => ih hrest).congr fun t x => ?_
      constructor
      · rintro (⟨u, t₁, t₂, rfl, ⟨reply, rfl, hreply⟩, h⟩ | ⟨message, ⟨reply, rfl, hreply⟩, rfl⟩)
        · cases hreply
          exact .written h
        · cases hreply
          exact .failed
      · intro h
        cases h with
        | written h => exact .inl ⟨(), [_], _, rfl, ⟨.ok (), rfl, rfl⟩, h⟩
        | failed => exact .inr ⟨_, ⟨.error _, rfl, rfl⟩, rfl⟩

theorem stageAndPack_yields (hnames : SafeNames files) :
    (stageAndPack platform dir files).Yields (Staging dir files) := by
  have hpack : (Prog.ask (I := Machine) (.pack dir ["workspace"]) id >>= fun chunks =>
      Prog.ofExcept (.ok chunks.flatten)).Yields fun (t : Trace) (x : Except String Bytes) =>
      ∃ reply : Except String (List Bytes),
        t = [⟨.pack dir ["workspace"], reply⟩] ∧ x = reply.map List.flatten := by
    rw [Prog.ask_bind_ofExcept]
    refine Prog.yields_ask.congr fun t x => exists_congr fun reply => ?_
    cases reply <;> rfl
  have hwrites : (writeFiles platform (workspaceIn dir) files).Yields _ := writeFiles_yields hnames
  have hfiles := hwrites.bind fun _ => hpack
  unfold stageAndPack
  rw [join_workspace]
  refine (Prog.yields_ask.bind fun _ => hfiles).congr fun t x => ?_
  constructor
  · rintro (⟨u, t₁, t₂, rfl, ⟨reply, rfl, hreply⟩, h⟩ | ⟨message, ⟨reply, rfl, hreply⟩, rfl⟩)
    · cases hreply
      rcases h with ⟨u, t₁, t₂, rfl, hwrites, reply, rfl, rfl⟩ | ⟨message, hwrites, rfl⟩
      · exact .packed hwrites reply
      · exact .notWritten hwrites
    · cases hreply
      exact .noDirectory message
  · intro h
    cases h with
    | noDirectory message => exact .inr ⟨message, ⟨.error message, rfl, rfl⟩, rfl⟩
    | notWritten h =>
        exact .inl ⟨(), [_], _, rfl, ⟨.ok (), rfl, rfl⟩, .inr ⟨_, h, rfl⟩⟩
    | packed h reply =>
        exact .inl ⟨(), [_], _, rfl, ⟨.ok (), rfl, rfl⟩, .inl ⟨(), _, _, rfl, h, reply, rfl, rfl⟩⟩

/-- **The runs of building the archive.** -/
theorem buildWorkspaceArchive_yields :
    (buildWorkspaceArchive platform tmpdir files).Yields (ArchiveRun tmpdir files) := by
  unfold buildWorkspaceArchive
  rw [join_stagingPrefix]
  cases hchecked : assertSafeNames (files.map Prod.fst) with
  | error message =>
      refine (Prog.yields_ofExcept (x := .error message)).congr fun t x => ?_
      have hfirst := assertSafeNames_eq_error_iff.mp hchecked
      have hunsafe : ¬ SafeNames files := by
        intro h
        rw [safeNames_iff (u := ()).mpr h] at hchecked
        cases hchecked
      constructor
      · rintro ⟨rfl, rfl⟩
        obtain ⟨before, name, after, hparts, hbefore, hname, rfl⟩ := hfirst
        exact .unsafeName hparts hbefore hname
      · intro h
        cases h with
        | unsafeName hparts hbefore hname =>
            have hsame := assertSafeNames_eq_error_iff.mpr ⟨_, _, _, hparts, hbefore, hname, rfl⟩
            rw [hchecked] at hsame
            cases hsame
            exact ⟨rfl, rfl⟩
        | noStaging h message => exact absurd h hunsafe
        | notRemoved h hstaging message => exact absurd h hunsafe
        | removed h hstaging => exact absurd h hunsafe
  | ok u =>
      have hnames : SafeNames files := safeNames_iff.mp hchecked
      show (Prog.ask (I := Machine) (.mkdtemp (stagingPrefix tmpdir)) id >>= fun dir =>
        (stageAndPack platform dir files).finallyDo (Prog.ask (I := Machine) (.rm dir) id)).Yields _
      refine (Prog.yields_ask.bind fun dir =>
        (stageAndPack_yields hnames).finallyDo Prog.yields_ask).congr fun t x => ?_
      constructor
      · rintro (⟨dir, t₁, t₂, rfl, ⟨reply, rfl, hreply⟩, y, t₃, t₄, rfl, hstaging, h⟩ |
          ⟨message, ⟨reply, rfl, hreply⟩, rfl⟩)
        · cases hreply
          rcases h with ⟨⟨reply, rfl, hreply⟩, rfl⟩ | ⟨message, ⟨reply, rfl, hreply⟩, rfl⟩
          · cases hreply
            exact .removed hnames hstaging
          · cases hreply
            exact .notRemoved hnames hstaging message
        · cases hreply
          exact .noStaging hnames message
      · intro h
        cases h with
        | unsafeName hparts hbefore hname =>
            have hsafe := hnames _ (hparts ▸ List.mem_append_right _ (.head _))
            rw [hname] at hsafe
            cases hsafe
        | noStaging h message => exact .inr ⟨message, ⟨.error message, rfl, rfl⟩, rfl⟩
        | notRemoved h hstaging message =>
            exact .inl ⟨_, [_], _, rfl, ⟨.ok _, rfl, rfl⟩, _, _, _, rfl, hstaging,
              .inr ⟨message, ⟨.error message, rfl, rfl⟩, rfl⟩⟩
        | removed h hstaging =>
            exact .inl ⟨_, [_], _, rfl, ⟨.ok _, rfl, rfl⟩, _, _, _, rfl, hstaging,
              .inl ⟨⟨.ok (), rfl, rfl⟩, rfl⟩⟩

theorem importWorkspaceFiles_yields : (importWorkspaceFiles platform tmpdir files).Yields
    fun t x => (∃ archive t' reply, ArchiveRun tmpdir files t' (.ok archive) ∧
      t = t' ++ [⟨.postImport archive, reply⟩] ∧ x = importResult reply) ∨
    ∃ message, ArchiveRun tmpdir files t (.error message) ∧ x = .error message := by
  refine (buildWorkspaceArchive_yields.bind fun archive => Prog.yields_ask).congr fun t x => ?_
  refine or_congr_left ?_
  constructor
  · rintro ⟨archive, t₁, t₂, rfl, h, reply, rfl, rfl⟩
    exact ⟨archive, t₁, reply, h, rfl, rfl⟩
  · rintro ⟨archive, t', reply, h, rfl, rfl⟩
    exact ⟨archive, t', _, rfl, h, reply, rfl, rfl⟩

end Runs

/-! ### What a caller relies on -/

/-- The calls of staging and packing under `dir`. -/
def StagingCall (dir : Path) (files : List (String × String)) : Call → Prop
  | .mkdir path => path = workspaceIn dir
  | .writeFile path content => ∃ name, (name, content) ∈ files ∧
      path = workspaceIn dir ++ [name.toList]
  | .pack cwd entries => cwd = dir ∧ entries = ["workspace"]
  | _ => False

/-- `dir` was made, in `t`, to stage in. -/
def Made (tmpdir dir : Path) (t : Trace) : Prop :=
  (⟨.mkdtemp (stagingPrefix tmpdir), .ok dir⟩ : Event Machine) ∈ t

/-- `t` ends with the packing of `dir`, which gave `archive`, and every file had been written
there before. -/
def Packs (dir : Path) (files : List (String × String)) (archive : Bytes) (t : Trace) : Prop :=
  ∃ staged chunks, t = staged ++ [(⟨.pack dir ["workspace"], .ok chunks⟩ : Event Machine)] ∧
    archive = chunks.flatten ∧ ∀ name content, (name, content) ∈ files →
      (⟨.writeFile (workspaceIn dir ++ [name.toList]) content, .ok ()⟩ : Event Machine) ∈ staged

/-- What a run of an import has done when it has come to `o`. -/
structure ImportAccount (tmpdir : Path) (files : List (String × String)) (t : Trace)
    (o : Outcome String ImportWorkspaceFilesResult) : Prop where
  /-- Nothing at all is done when a name is not safe. -/
  checked : ¬ SafeNames files → t = []
  /-- Every other call is about the one directory that was made. -/
  contained : ∀ e ∈ t, e.call = .mkdtemp (stagingPrefix tmpdir) ∨
    (∃ dir, Made tmpdir dir t ∧ (StagingCall dir files e.call ∨ e.call = .rm dir)) ∨
    ∃ archive, e.call = .postImport archive
  /-- The directory is removed, and all that comes after is the posting. -/
  removed : ∀ dir, Made tmpdir dir t → ∃ before reply after,
    t = before ++ (⟨.rm dir, reply⟩ : Event Machine) :: after ∧
    (∀ e ∈ before, ∀ archive, e.call ≠ .postImport archive) ∧
    (after = [] ∨ ∃ archive reply, after = [⟨.postImport archive, reply⟩])
  /-- What is posted is the whole workspace, after the directory is gone. -/
  posted : ∀ archive reply, (⟨.postImport archive, reply⟩ : Event Machine) ∈ t →
    o = .ended (importResult reply) ∧ ∃ dir before,
      t = before ++ [(⟨.rm dir, .ok ()⟩ : Event Machine), ⟨.postImport archive, reply⟩] ∧
      Made tmpdir dir before ∧ Packs dir files archive before
  /-- It returns after a post, and throws otherwise. -/
  ended : (∃ archive reply, (⟨.postImport archive, reply⟩ : Event Machine) ∈ t) ∨
    ∃ message, o = .threw message

section Account

variable {platform : Platform} {tmpdir dir : Path} {files : List (String × String)} {t : Trace}

theorem Writes.contained {x : Except String Unit} (h : Writes dir files t x) :
    ∀ e ∈ t, ∃ name content, (name, content) ∈ files ∧
      e.call = .writeFile (dir ++ [name.toList]) content := by
  induction h with
  | done =>
      intro e he
      cases he
  | written h ih =>
      intro e he
      rcases List.mem_cons.mp he with rfl | he
      · exact ⟨_, _, .head _, rfl⟩
      · obtain ⟨name, content, hfile, hcall⟩ := ih e he
        exact ⟨name, content, .tail _ hfile, hcall⟩
  | failed =>
      intro e he
      rw [List.mem_singleton.mp he]
      exact ⟨_, _, .head _, rfl⟩

theorem Writes.all {x : Except String Unit} (h : Writes dir files t x) (hx : x = .ok ()) :
    ∀ name content, (name, content) ∈ files →
      (⟨.writeFile (dir ++ [name.toList]) content, .ok ()⟩ : Event Machine) ∈ t := by
  induction h with
  | done =>
      intro name content hfile
      cases hfile
  | written h ih =>
      intro name content hfile
      rcases List.mem_cons.mp hfile with heq | hfile
      · cases heq
        exact .head _
      · exact .tail _ (ih hx name content hfile)
  | failed => cases hx

theorem Staging.contained {x : Except String Bytes} (h : Staging dir files t x) :
    ∀ e ∈ t, StagingCall dir files e.call := by
  have hwrites : ∀ {t : Trace} {y : Except String Unit}, Writes (workspaceIn dir) files t y →
      ∀ e ∈ t, StagingCall dir files e.call := by
    intro t y hw e he
    obtain ⟨name, content, hfile, hcall⟩ := hw.contained e he
    rw [hcall]
    exact ⟨name, hfile, rfl⟩
  cases h with
  | noDirectory message =>
      intro e he
      rw [List.mem_singleton.mp he]
      rfl
  | notWritten hw =>
      intro e he
      rcases List.mem_cons.mp he with rfl | he
      · rfl
      · exact hwrites hw e he
  | packed hw reply =>
      intro e he
      rcases List.mem_append.mp he with he | he
      · rcases List.mem_cons.mp he with rfl | he
        · rfl
        · exact hwrites hw e he
      · rw [List.mem_singleton.mp he]
        exact ⟨rfl, rfl⟩

theorem Staging.packs {archive : Bytes} (h : Staging dir files t (.ok archive)) :
    Packs dir files archive t := by
  generalize hx : Except.ok archive = x at h
  cases h with
  | noDirectory message => cases hx
  | notWritten hw => cases hx
  | packed hw reply =>
      cases reply with
      | error message => cases hx
      | ok chunks =>
          cases hx
          exact ⟨_, chunks, rfl, rfl, fun name content hfile =>
            .tail _ (hw.all rfl name content hfile)⟩

/-- Calls in front of a packing. -/
theorem Packs.cons {archive : Bytes} (e : Event Machine) (h : Packs dir files archive t) :
    Packs dir files archive (e :: t) := by
  obtain ⟨staged, chunks, rfl, harchive, hwritten⟩ := h
  exact ⟨e :: staged, chunks, rfl, harchive, fun name content hfile =>
    .tail _ (hwritten name content hfile)⟩

/-- The run with a directory: made, staged in, removed, and what comes after. -/
def around (tmpdir dir : Path) (t : Trace) (reply : Except String Unit) (after : Trace) : Trace :=
  ⟨.mkdtemp (stagingPrefix tmpdir), .ok dir⟩ :: t ++ ⟨.rm dir, reply⟩ :: after

section Around

variable {x : Except String Bytes} {reply : Except String Unit} {after : Trace}

theorem mem_around {e : Event Machine} : e ∈ around tmpdir dir t reply after ↔
    e = ⟨.mkdtemp (stagingPrefix tmpdir), .ok dir⟩ ∨ e ∈ t ∨ e = ⟨.rm dir, reply⟩ ∨ e ∈ after := by
  simp [around]

/-- Only the one directory is made. -/
theorem Staging.made_around {other : Path} (h : Staging dir files t x)
    (hafter : ∀ e ∈ after, ∃ archive, e.call = .postImport archive)
    (hmade : Made tmpdir other (around tmpdir dir t reply after)) : other = dir := by
  rcases mem_around.mp hmade with heq | hmem | heq | hmem
  · cases heq
    rfl
  · exact (h.contained _ hmem).elim
  · cases heq
  · obtain ⟨archive, hcall⟩ := hafter _ hmem
    cases hcall

theorem Staging.contained_around (h : Staging dir files t x)
    (hafter : ∀ e ∈ after, ∃ archive, e.call = .postImport archive) :
    ∀ e ∈ around tmpdir dir t reply after, e.call = .mkdtemp (stagingPrefix tmpdir) ∨
      (∃ dir', Made tmpdir dir' (around tmpdir dir t reply after) ∧
        (StagingCall dir' files e.call ∨ e.call = .rm dir')) ∨
      ∃ archive, e.call = .postImport archive := by
  have hmade : Made tmpdir dir (around tmpdir dir t reply after) := .head _
  intro e he
  rcases mem_around.mp he with rfl | he | rfl | he
  · exact .inl rfl
  · exact .inr (.inl ⟨dir, hmade, .inl (h.contained e he)⟩)
  · exact .inr (.inl ⟨dir, hmade, .inr rfl⟩)
  · exact .inr (.inr (hafter e he))

theorem Staging.no_post (h : Staging dir files t x) :
    ∀ e ∈ (⟨.mkdtemp (stagingPrefix tmpdir), .ok dir⟩ : Event Machine) :: t,
      ∀ archive, e.call ≠ .postImport archive := by
  intro e he archive hcall
  rcases List.mem_cons.mp he with rfl | he
  · cases hcall
  · have hstaging := h.contained e he
    rw [hcall] at hstaging
    exact hstaging

/-- A run that has a directory and no post throws. -/
theorem Staging.account_threw (h : Staging dir files t x) (hnames : SafeNames files)
    (message : String) :
    ImportAccount tmpdir files (around tmpdir dir t reply []) (.threw message) where
  checked hunsafe := absurd hnames hunsafe
  contained := h.contained_around fun e he => by cases he
  removed other hmade := by
    rw [h.made_around (fun e he => by cases he) hmade]
    exact ⟨_, reply, [], rfl, h.no_post, .inl rfl⟩
  posted archive reply' hmem := by
    rcases mem_around.mp hmem with heq | hmem | heq | hmem
    · cases heq
    · exact (h.contained _ hmem).elim
    · cases heq
    · cases hmem
  ended := .inr ⟨message, rfl⟩

theorem Staging.account_posted {archive : Bytes} (h : Staging dir files t (.ok archive))
    (hnames : SafeNames files) (answer : Except String ImportResponse) :
    ImportAccount tmpdir files (around tmpdir dir t (.ok ()) [⟨.postImport archive, answer⟩])
      (.ended (importResult answer)) := by
  have hafter : ∀ e ∈ [(⟨.postImport archive, answer⟩ : Event Machine)],
      ∃ archive, e.call = .postImport archive := by
    intro e he
    rw [List.mem_singleton.mp he]
    exact ⟨archive, rfl⟩
  exact {
    checked := fun hunsafe => absurd hnames hunsafe
    contained := h.contained_around hafter
    removed := by
      intro other hmade
      rw [h.made_around hafter hmade]
      exact ⟨_, .ok (), _, rfl, h.no_post, .inr ⟨archive, answer, rfl⟩⟩
    posted := by
      intro archive' answer' hmem
      rcases mem_around.mp hmem with heq | hmem | heq | hmem
      · cases heq
      · exact (h.contained _ hmem).elim
      · cases heq
      · cases List.mem_singleton.mp hmem
        exact ⟨rfl, dir, _, rfl, .head _, h.packs.cons _⟩
    ended := .inl ⟨archive, answer, mem_around.mpr (.inr (.inr (.inr (.head _))))⟩ }

end Around

theorem ArchiveRun.account_threw {message : String}
    (h : ArchiveRun tmpdir files t (.error message)) :
    ImportAccount tmpdir files t (.threw message) := by
  generalize hx : Except.error message = x at h
  cases h with
  | unsafeName hparts hbefore hname =>
      exact {
        checked := fun _ => rfl
        contained := fun e he => by cases he
        removed := fun other hmade => by cases hmade
        posted := fun archive reply hmem => by cases hmem
        ended := .inr ⟨message, rfl⟩ }
  | noStaging hnames other =>
      exact {
        checked := fun hunsafe => absurd hnames hunsafe
        contained := fun e he => .inl (by rw [List.mem_singleton.mp he])
        removed := fun other hmade => by cases List.mem_singleton.mp hmade
        posted := fun archive reply hmem => by cases List.mem_singleton.mp hmem
        ended := .inr ⟨message, rfl⟩ }
  | notRemoved hnames hstaging other => exact hstaging.account_threw hnames message
  | removed hnames hstaging => exact hstaging.account_threw hnames message

/-- **An import accounts for itself**, in every run: an unsafe name stops it before any call;
what it writes, packs and removes is in the one directory it has made; the directory is
removed whatever happened in it, before anything is sent; and one post is made at most, at the
end, of the whole workspace. -/
theorem importWorkspaceFiles_contained {o : Outcome String ImportWorkspaceFilesResult}
    (h : (importWorkspaceFiles platform tmpdir files).Exec t o) :
    ImportAccount tmpdir files t o := by
  obtain ⟨x, rfl, ⟨archive, t', reply, harchive, rfl, rfl⟩ | ⟨message, harchive, rfl⟩⟩ :=
    (importWorkspaceFiles_yields t o).mp h
  · generalize hx : Except.ok archive = x at harchive
    cases harchive with
    | unsafeName hparts hbefore hname => cases hx
    | noStaging hnames message => cases hx
    | notRemoved hnames hstaging message => cases hx
    | removed hnames hstaging =>
        cases hx
        rw [List.append_assoc]
        exact hstaging.account_posted hnames reply
  · exact harchive.account_threw

/-- A machine with room, and an instance that takes the archive. -/
def accepting : Unit → (c : Call) → Call.Reply c × Unit
  | u, .mkdtemp pathPrefix => (.ok (pathPrefix ++ [['1']]), u)
  | u, .mkdir _ => (.ok (), u)
  | u, .writeFile _ _ => (.ok (), u)
  | u, .pack _ _ => (.ok [[31], [139]], u)
  | u, .rm _ => (.ok (), u)
  | u, .postImport _ => (.ok ⟨true, 200, "ok"⟩, u)

/-- An import of two files. -/
def identityImport : Prog Machine String ImportWorkspaceFilesResult :=
  importWorkspaceFiles .posix [] [("IDENTITY.md", "I am"), ("USER.md", "You are")]

theorem identityImport_contained :
    ImportAccount [] [("IDENTITY.md", "I am"), ("USER.md", "You are")]
      (identityImport.play accepting ()).1 (identityImport.play accepting ()).2 :=
  importWorkspaceFiles_contained (Prog.play_exec (I := Machine) accepting identityImport ())

end Account

end Workspace
