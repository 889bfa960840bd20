/-
ControlPlane/Export/Names.lean

What `filterStateEntry` accepts among the names a file system can really hold.

A POSIX name may contain a backslash and a line terminator, and the filter treats
both in its own way.  A backslash is a separator to it, as its documentation says
("either separator"): the filter sees the pieces of each name
(`toPosixSegments_names`).  The star of a glob stops at a line terminator, as the
`.` of a regular expression does (`testAtoms_star_iff`).

`Included` is the meaning of the lists in plain words: roots, excluded segments,
endings, and the shape below `agents`.  Whatever the filter accepts is included,
apart from the leftovers with a line terminator in them, and what is included it
accepts, when the last segment has none (`filterStateEntry_file`).
-/
import ControlPlane.Export.Filter

namespace Export

open Js

/-! ### Globs -/

/-- No character a star would stop at. -/
def LineFree (cs : List Char) : Prop := ∀ c ∈ cs, isLineTerminator c = false

theorem mem_afterStar {cs after : List Char} :
    after ∈ afterStar cs ↔ ∃ before, cs = before ++ after ∧ LineFree before := by
  constructor
  · intro h
    induction cs with
    | nil =>
        obtain rfl := List.mem_singleton.mp h
        exact ⟨[], rfl, fun c hc => (nomatch hc)⟩
    | cons c cs ih =>
        rcases List.mem_cons.mp h with rfl | h
        · exact ⟨[], rfl, fun c hc => (nomatch hc)⟩
        · -- the star goes past `c`, which it can
          split at h
          · cases h
          · next hc =>
            obtain ⟨before, rfl, hfree⟩ := ih h
            refine ⟨c :: before, rfl, ?_⟩
            intro d hd
            rcases List.mem_cons.mp hd with rfl | hd
            · simpa using hc
            · exact hfree d hd
  · rintro ⟨before, rfl, hfree⟩
    exact suffix_mem_afterStar hfree

theorem testAtoms_star_iff {atoms : List Atom} {cs : List Char} :
    testAtoms (.star :: atoms) cs = true ↔
      ∃ before after, cs = before ++ after ∧ LineFree before ∧ testAtoms atoms after = true := by
  rw [testAtoms, List.any_eq_true]
  constructor
  · rintro ⟨after, hmem, htest⟩
    obtain ⟨before, hcs, hfree⟩ := mem_afterStar.mp hmem
    exact ⟨before, after, hcs, hfree, htest⟩
  · rintro ⟨before, after, hcs, hfree, htest⟩
    exact ⟨after, mem_afterStar.mpr ⟨before, hcs, hfree⟩, htest⟩

theorem testAtoms_literal_iff {literal cs : List Char} {atoms : List Atom} :
    testAtoms (literal.map .char ++ atoms) cs = true ↔
      ∃ rest, cs = literal ++ rest ∧ testAtoms atoms rest = true := by
  induction literal generalizing cs with
  | nil => simp
  | cons c literal ih =>
      rw [List.map_cons, List.cons_append]
      cases cs with
      | nil => simp [testAtoms]
      | cons d ds =>
          rw [testAtoms, Bool.and_eq_true, decide_eq_true_eq, ih]
          constructor
          · rintro ⟨rfl, rest, rfl, htest⟩
            exact ⟨rest, rfl, htest⟩
          · rintro ⟨rest, hcs, htest⟩
            obtain ⟨rfl, rfl⟩ := List.cons.inj hcs
            exact ⟨rfl, rest, rfl, htest⟩

theorem testAtoms_nil_iff {cs : List Char} : testAtoms [] cs = true ↔ cs = [] :=
  List.isEmpty_iff

/-- The glob `*ending`. -/
theorem testAtoms_ending {ending cs : List Char} :
    testAtoms (.star :: ending.map .char) cs = true ↔
      ∃ before, cs = before ++ ending ∧ LineFree before := by
  rw [testAtoms_star_iff]
  constructor
  · rintro ⟨before, after, rfl, hfree, htest⟩
    rw [← List.append_nil (ending.map Atom.char), testAtoms_literal_iff] at htest
    obtain ⟨rest, rfl, hrest⟩ := htest
    rw [testAtoms_nil_iff.mp hrest, List.append_nil]
    exact ⟨before, rfl, hfree⟩
  · rintro ⟨before, rfl, hfree⟩
    exact ⟨before, ending, rfl, hfree, testAtoms_literal ending⟩

/-- The glob `beginning*`. -/
theorem testAtoms_beginning {beginning cs : List Char} :
    testAtoms (beginning.map .char ++ [.star]) cs = true ↔
      ∃ after, cs = beginning ++ after ∧ LineFree after := by
  rw [testAtoms_literal_iff]
  refine exists_congr fun after => and_congr_right fun _ => ?_
  rw [testAtoms_star_iff]
  constructor
  · rintro ⟨before, rest, rfl, hfree, htest⟩
    rw [testAtoms_nil_iff.mp htest, List.append_nil]
    exact hfree
  · intro hfree
    exact ⟨after, [], (List.append_nil after).symm, hfree, rfl⟩

/-- The glob `*middle*`. -/
theorem testAtoms_middle {middle cs : List Char} :
    testAtoms (.star :: (middle.map .char ++ [.star])) cs = true ↔
      ∃ before after, cs = before ++ (middle ++ after) ∧ LineFree before ∧ LineFree after := by
  rw [testAtoms_star_iff]
  constructor
  · rintro ⟨before, rest, rfl, hbefore, htest⟩
    obtain ⟨after, rfl, hafter⟩ := testAtoms_beginning.mp htest
    exact ⟨before, after, rfl, hbefore, hafter⟩
  · rintro ⟨before, after, rfl, hbefore, hafter⟩
    exact ⟨before, middle ++ after, rfl, hbefore, testAtoms_beginning.mpr ⟨after, rfl, hafter⟩⟩

/-! ### What the globs mean -/

/-- The endings of names that are left over. -/
def LEFTOVER_ENDINGS : List String := ["-wal", "-shm", ".migrated"]

/-- A name that is never exported, wherever it stands in a path. -/
def Leftover (name : String) : Prop :=
  ".bak".toList <:+: name.toList ∨ ∃ ending ∈ LEFTOVER_ENDINGS, ending.toList <:+ name.toList

/-- A name of an agent's own file. -/
def AgentFile (name : String) : Prop :=
  ".sqlite".toList <:+ name.toList ∨ name = "models.json" ∨
    "auth-profiles".toList <+: name.toList

theorem matchesAny_exclude_iff {name : String} :
    matchesAny STATE_EXPORT_EXCLUDE_BASENAME_PATTERNS name = true ↔
      (∃ before after, name.toList = before ++ (".bak".toList ++ after) ∧
        LineFree before ∧ LineFree after) ∨
      ∃ ending ∈ LEFTOVER_ENDINGS, ∃ before, name.toList = before ++ ending.toList ∧
        LineFree before := by
  have hbak : globToRegExp "*.bak*" = .star :: (".bak".toList.map .char ++ [.star]) := by decide
  have hending : ∀ ending ∈ LEFTOVER_ENDINGS,
      globToRegExp ("*" ++ ending) = .star :: ending.toList.map .char := by decide
  have hpatterns : STATE_EXPORT_EXCLUDE_BASENAME_PATTERNS =
      "*.bak*" :: LEFTOVER_ENDINGS.map ("*" ++ ·) := by decide
  rw [matchesAny, hpatterns, List.any_cons, List.any_map, Bool.or_eq_true, List.any_eq_true, hbak,
    testAtoms_middle]
  refine or_congr_right (exists_congr fun ending => and_congr_right fun hmem => ?_)
  show testAtoms (globToRegExp ("*" ++ ending)) name.toList = true ↔ _
  rw [hending ending hmem, testAtoms_ending]

theorem matchesAny_agent_iff {name : String} :
    matchesAny STATE_EXPORT_AGENT_ALLOWED name = true ↔
      (∃ before, name.toList = before ++ ".sqlite".toList ∧ LineFree before) ∨
      name = "models.json" ∨
      ∃ after, name.toList = "auth-profiles".toList ++ after ∧ LineFree after := by
  have hsqlite : globToRegExp "*.sqlite" = .star :: ".sqlite".toList.map .char := by decide
  have hmodels : globToRegExp "models.json" = "models.json".toList.map .char ++ [] := by decide
  have hprofiles : globToRegExp "auth-profiles*" =
      "auth-profiles".toList.map .char ++ [.star] := by decide
  have hexact : testAtoms ("models.json".toList.map .char ++ []) name.toList = true ↔
      name = "models.json" := by
    rw [testAtoms_literal_iff, ← String.toList_inj]
    constructor
    · rintro ⟨rest, hname, htest⟩
      rwa [testAtoms_nil_iff.mp htest, List.append_nil] at hname
    · intro hname
      exact ⟨[], by rw [hname, List.append_nil], rfl⟩
  simp only [matchesAny, STATE_EXPORT_AGENT_ALLOWED, List.any_cons, List.any_nil, Bool.or_false,
    Bool.or_eq_true, hsqlite, hmodels, hprofiles, testAtoms_ending, testAtoms_beginning, hexact]

theorem LineFree.left {a b : List Char} (h : LineFree (a ++ b)) : LineFree a :=
  fun c hc => h c (List.mem_append_left b hc)

theorem LineFree.right {a b : List Char} (h : LineFree (a ++ b)) : LineFree b :=
  fun c hc => h c (List.mem_append_right a hc)

/-- Only a leftover is excluded by the globs. -/
theorem leftover_of_matchesAny {name : String}
    (h : matchesAny STATE_EXPORT_EXCLUDE_BASENAME_PATTERNS name = true) : Leftover name := by
  rcases matchesAny_exclude_iff.mp h with ⟨before, after, hname, -, -⟩ | ⟨ending, hmem, before, hname, -⟩
  · exact .inl ⟨before, after, by rw [hname, List.append_assoc]⟩
  · exact .inr ⟨ending, hmem, before, hname.symm⟩

/-- A leftover is excluded, unless a line terminator stops the star. -/
theorem matchesAny_of_leftover {name : String} (hfree : LineFree name.toList)
    (h : Leftover name) : matchesAny STATE_EXPORT_EXCLUDE_BASENAME_PATTERNS name = true := by
  rw [matchesAny_exclude_iff]
  rcases h with ⟨before, after, hname⟩ | ⟨ending, hmem, before, hname⟩
  · rw [← hname] at hfree ⊢
    exact .inl ⟨before, after, List.append_assoc .., hfree.left.left, hfree.right⟩
  · rw [← hname] at hfree ⊢
    exact .inr ⟨ending, hmem, before, rfl, hfree.left⟩

theorem agentFile_of_matchesAny {name : String}
    (h : matchesAny STATE_EXPORT_AGENT_ALLOWED name = true) : AgentFile name := by
  rcases matchesAny_agent_iff.mp h with ⟨before, hname, -⟩ | hname | ⟨after, hname, -⟩
  · exact .inl ⟨before, hname.symm⟩
  · exact .inr (.inl hname)
  · exact .inr (.inr ⟨after, hname.symm⟩)

theorem matchesAny_of_agentFile {name : String} (hfree : LineFree name.toList)
    (h : AgentFile name) : matchesAny STATE_EXPORT_AGENT_ALLOWED name = true := by
  rw [matchesAny_agent_iff]
  rcases h with ⟨before, hname⟩ | hname | ⟨after, hname⟩
  · rw [← hname] at hfree ⊢
    exact .inl ⟨before, rfl, hfree.left⟩
  · exact .inr (.inl hname)
  · rw [← hname] at hfree ⊢
    exact .inr (.inr ⟨after, rfl, hfree.right⟩)

/-! ### What the filter sees of a path -/

/-- A name an entry of a directory can have. -/
structure PosixName (name : String) : Prop where
  ne_empty : name ≠ ""
  ne_dot : name ≠ "."
  ne_dotdot : name ≠ ".."
  chars : ∀ c ∈ name.toList, c ≠ '/' ∧ c.toNat ≠ 0

/-- The characters of a name, checked one after another. -/
theorem posixName_of_all {name : String}
    (h : (name ≠ "" ∧ name ≠ "." ∧ name ≠ "..") ∧
      (name.toList.all fun c => c ≠ '/' && c.toNat ≠ 0) = true) : PosixName name := by
  obtain ⟨⟨hempty, hdot, hdotdot⟩, hchars⟩ := h
  refine ⟨hempty, hdot, hdotdot, fun c hc => ?_⟩
  have hboth := List.all_eq_true.mp hchars c hc
  simpa using hboth

/-- The pieces of a name between backslashes. -/
def pieces (name : String) : List String :=
  ((name.toList.splitOn '\\').map String.ofList).filter fun piece => piece ≠ "" && piece ≠ "."

theorem splitOnP_congr {p q : Char → Bool} {cs : List Char} (h : ∀ c ∈ cs, p c = q c) :
    cs.splitOnP p = cs.splitOnP q := by
  induction cs with
  | nil => rfl
  | cons c cs ih =>
      have hrest := ih fun d hd => h d (List.mem_cons_of_mem _ hd)
      rw [List.splitOnP_cons_eq_if_modifyHead, List.splitOnP_cons_eq_if_modifyHead, hrest,
        h c (by simp)]

theorem toPosixSegments_name {name : String} (h : PosixName name) :
    toPosixSegments name = pieces name := by
  have hsplit : name.toList.splitOnP isSeparator = name.toList.splitOn '\\' := by
    rw [List.splitOn_eq_splitOnP]
    apply splitOnP_congr
    intro c hc
    rw [isSeparator, decide_eq_false (h.chars c hc).1, Bool.false_or]
    rfl
  rw [toPosixSegments, pieces, hsplit]

theorem toPosixSegments_append (a b : String) :
    toPosixSegments (a ++ "/" ++ b) = toPosixSegments a ++ toPosixSegments b := by
  have hsplit : (a ++ "/" ++ b).toList.splitOnP isSeparator =
      a.toList.splitOnP isSeparator ++ b.toList.splitOnP isSeparator := by
    rw [String.toList_append, String.toList_append, List.append_assoc]
    have hsep : isSeparator '/' = true := by decide
    exact List.splitOnP_append_cons a.toList b.toList hsep
  rw [toPosixSegments, hsplit, List.map_append, List.filter_append]
  rfl

/-- The filter sees the pieces of each name of a path. -/
theorem toPosixSegments_names {path : List String} (h : ∀ name ∈ path, PosixName name) :
    toPosixSegments (joinPath path) = path.flatMap pieces := by
  induction path with
  | nil => rfl
  | cons name rest ih =>
      have hrest := ih fun n hn => h n (List.mem_cons_of_mem _ hn)
      have hname := toPosixSegments_name (h name (by simp))
      rw [List.flatMap_cons, ← hrest, ← hname]
      cases rest with
      | nil =>
          rw [joinPath, String.intercalate_singleton]
          exact (List.append_nil _).symm
      | cons next rest =>
          rw [joinPath, String.intercalate_cons_cons, toPosixSegments_append]
          rfl

/-! ### The meaning of the lists -/

/-- The segments lead to `agents/<id>/agent/<file>`, with a file of the agent's. -/
def AgentShape (segments : List String) : Prop :=
  ∃ id name, segments = [AGENTS_ROOT, id, AGENT_SUBDIR, name] ∧ AgentFile name

/-- A path that belongs in the export: it starts at a root of the include list, no
segment is excluded or leads upwards, none of the `judged` segments is a leftover,
and below `agents` it has the one shape that is allowed. -/
structure Included (judged : String → Prop) (path : List String) : Prop where
  root : ∃ root ∈ STATE_EXPORT_INCLUDE, path.head? = some root
  segments : ∀ s ∈ path, s ≠ ".." ∧ s ∉ STATE_EXPORT_EXCLUDE_SEGMENTS ∧ (judged s → ¬ Leftover s)
  agents : path.head? = some AGENTS_ROOT → AgentShape path

/-- A segment without a line terminator. -/
def OneLine (s : String) : Prop := LineFree s.toList

theorem agentShape_file_iff {segments : List String} :
    agentShape segments false = true ↔ ∃ a id name, segments = [a, id, AGENT_SUBDIR, name] ∧
      matchesAny STATE_EXPORT_AGENT_ALLOWED name = true := by
  simp only [agentShape, Bool.false_eq_true, if_false, Bool.and_eq_true, decide_eq_true_eq]
  constructor
  · rintro ⟨⟨hlen, hagent⟩, hname⟩
    obtain ⟨a, id, agent, name, rfl⟩ := List.length_eq_four.mp hlen
    obtain rfl : agent = AGENT_SUBDIR := Option.some.inj hagent
    exact ⟨a, id, name, rfl, hname⟩
  · rintro ⟨a, id, name, rfl, hname⟩
    exact ⟨⟨rfl, rfl⟩, hname⟩

/-- What the filter accepts is included, leftovers with a line terminator apart. -/
theorem included_of_filterSegments {segments : List String}
    (h : filterSegments segments false = true) : Included OneLine segments := by
  cases segments with
  | nil => cases h
  | cons root rest =>
      obtain ⟨hclean, hroot, hagents⟩ := filterSegments_cons.mp h
      refine ⟨⟨root, hroot, rfl⟩, ?_, ?_⟩
      · intro s hs
        obtain ⟨hup, hexcluded, hpattern⟩ := hclean s hs
        refine ⟨hup, hexcluded, fun hline hleftover => ?_⟩
        rw [matchesAny_of_leftover hline hleftover] at hpattern
        cases hpattern
      · intro hhead
        obtain rfl : root = AGENTS_ROOT := Option.some.inj hhead
        obtain ⟨a, id, name, hsegments, hname⟩ := agentShape_file_iff.mp (hagents rfl)
        obtain ⟨rfl, hrest⟩ := List.cons.inj hsegments
        exact ⟨id, name, by rw [hrest], agentFile_of_matchesAny hname⟩

/-- What is included is accepted, when its own name has no line terminator. -/
theorem filterSegments_of_included {segments : List String}
    (hlast : ∀ s ∈ segments.getLast?, OneLine s) (h : Included (fun _ => True) segments) :
    filterSegments segments false = true := by
  obtain ⟨⟨root, hroot, hhead⟩, hsegments, hagents⟩ := h
  obtain ⟨rest, rfl⟩ := List.head?_eq_some_iff.mp hhead
  rw [filterSegments_cons]
  refine ⟨?_, hroot, ?_⟩
  · intro s hs
    obtain ⟨hup, hexcluded, hleftover⟩ := hsegments s hs
    refine ⟨hup, hexcluded, ?_⟩
    rw [Bool.eq_false_iff]
    exact fun hmatch => hleftover trivial (leftover_of_matchesAny hmatch)
  · rintro rfl
    obtain ⟨id, name, hpath, hfile⟩ := hagents rfl
    rw [hpath] at hlast ⊢
    exact agentShape_file_iff.mpr ⟨AGENTS_ROOT, id, name, rfl,
      matchesAny_of_agentFile (hlast name rfl) hfile⟩

/-- **What the filter accepts.**  For a file with any names POSIX allows, the filter
judges the pieces of the names: it accepts only paths that are included, and every
included path whose last piece has no line terminator; it never accepts a link or a
special file. -/
theorem filterStateEntry_names {path : List String} (h : ∀ name ∈ path, PosixName name) :
    (filterStateEntry (joinPath path) .file = true → Included OneLine (path.flatMap pieces)) ∧
    ((∀ s ∈ (path.flatMap pieces).getLast?, OneLine s) →
      Included (fun _ => True) (path.flatMap pieces) →
      filterStateEntry (joinPath path) .file = true) ∧
    filterStateEntry (joinPath path) .symbolicLink = false ∧
    filterStateEntry (joinPath path) .other = false := by
  have hfilter : filterStateEntry (joinPath path) .file =
      filterSegments (path.flatMap pieces) false := by
    show filterSegments (toPosixSegments (joinPath path)) false = _
    rw [toPosixSegments_names h]
  rw [hfilter]
  exact ⟨included_of_filterSegments, filterSegments_of_included, rfl, rfl⟩

/-- A name with a backslash is read as two segments: this file of the state directory
itself is taken for one below `credentials`. -/
theorem backslash_accepted :
    (∀ name ∈ ["credentials\\token"], PosixName name) ∧
      filterStateEntry (joinPath ["credentials\\token"]) .file = true ∧
      ¬ Included (fun _ => True) ["credentials\\token"] := by
  refine ⟨?_, by decide +kernel, ?_⟩
  · intro name hname
    obtain rfl := List.mem_singleton.mp hname
    exact posixName_of_all (by decide)
  · rintro ⟨⟨root, hroot, hhead⟩, -, -⟩
    obtain rfl := Option.some.inj hhead
    exact absurd hroot (by decide)

/-- The database of an agent is accepted, and so it is included. -/
theorem agentDatabase_included :
    Included OneLine (["agents", "main", "agent", "openclaw-agent.sqlite"].flatMap pieces) := by
  have hnames : ∀ name ∈ ["agents", "main", "agent", "openclaw-agent.sqlite"], PosixName name := by
    have hall : (["agents", "main", "agent", "openclaw-agent.sqlite"].all fun name =>
        (name != "" && name != "." && name != "..") &&
          name.toList.all fun c => c ≠ '/' && c.toNat ≠ 0) = true := by decide
    intro name hname
    have hboth := List.all_eq_true.mp hall name hname
    exact posixName_of_all (by simpa [and_assoc] using hboth)
  exact (filterStateEntry_names hnames).1 (by decide +kernel)

end Export
