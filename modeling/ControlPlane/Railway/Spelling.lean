/-
ControlPlane/Railway/Spelling.lean

The spellings of a path that `normalizePath` brings together, and those it does not.

A path is slashes, `./`s, what `stripPath` leaves, and slashes (`stripPath_decomp`).  What is left
is canonical unless a slash or a blank has come to its front, or a blank to its end
(`canonical_iff`), which is told from the path as it is written (`misread_iff`).  The spellings of
one path have one reading when all of these are taken away wherever they stand (`readPath`), and
`normalizePath` gives that reading of every path it does not misread.
-/
import ControlPlane.Railway.Proof
import Mathlib.Logic.Relation

namespace Railway

open Js

/-! ### Parts of a path -/

section Parts

variable {path rest r : List Char} {c : Char} {n k m : ℕ}

/-- `./`, some times -/
def dots : ℕ → List Char
  | 0 => []
  | k + 1 => '.' :: '/' :: dots k

/-- The path begins with `./`. -/
def DotsFirst (path : List Char) : Prop := ∃ rest, path = '.' :: '/' :: rest

/-- What is left of a path, between `./`s and slashes. -/
structure Core (k m : ℕ) (r : List Char) : Prop where
  start : k = 0 → (r ++ List.replicate m '/').head? ≠ some '/'
  dots : ¬ DotsFirst (r ++ List.replicate m '/')
  last : r.getLast? ≠ some '/'

theorem isMark_slash : isMark '/' = true := by decide

theorem isMark_dots : ∀ c ∈ dots k, isMark c = true := by
  induction k with
  | zero => simp [dots]
  | succ k ih =>
      exact List.forall_mem_cons.mpr ⟨by decide, List.forall_mem_cons.mpr ⟨by decide, ih⟩⟩

theorem isMark_replicate : ∀ c ∈ List.replicate n '/', isMark c = true := by
  intro c hc
  rw [List.eq_of_mem_replicate hc]
  exact isMark_slash

theorem stripSlashes_self (h : path.head? ≠ some '/') : stripSlashes path = path := by
  apply dropWhile_of_head?
  intro c hc
  rw [beq_eq_false_iff_ne]
  rintro rfl
  exact h hc

theorem stripSlashes_replicate (n : ℕ) (path : List Char) :
    stripSlashes (List.replicate n '/' ++ path) = stripSlashes path := by
  apply List.dropWhile_append_of_pos
  intro c hc
  rw [List.eq_of_mem_replicate hc]
  rfl

theorem stripDots_dots (k : ℕ) (path : List Char) :
    stripDots (dots k ++ path) = stripDots path := by
  induction k with
  | zero => rfl
  | succ k ih => exact ih

theorem stripDots_self (h : ¬ DotsFirst path) : stripDots path = path := by
  rw [stripDots.eq_def]
  split
  · rename_i rest
    exact absurd ⟨rest, rfl⟩ h
  · rfl

theorem stripTrailing_self (h : path.getLast? ≠ some '/') : stripTrailing path = path := by
  apply rdropWhile_of_getLast?
  intro c hc
  rw [beq_eq_false_iff_ne]
  rintro rfl
  exact h hc

theorem stripTrailing_replicate (m : ℕ) (path : List Char) :
    stripTrailing (path ++ List.replicate m '/') = stripTrailing path := by
  apply rdropWhile_append_of_pos
  intro c hc
  rw [List.eq_of_mem_replicate hc]
  rfl

theorem head?_dots (k : ℕ) (h : k = 0 → path.head? ≠ some '/') :
    (dots k ++ path).head? ≠ some '/' := by
  cases k with
  | zero => exact h rfl
  | succ k => simp [dots]

/-- A core is what is left of a path around it. -/
theorem stripPath_of_core (h : Core k m r) :
    stripPath (List.replicate n '/' ++ (dots k ++ (r ++ List.replicate m '/'))) = r := by
  rw [stripPath, stripSlashes_replicate, stripSlashes_self (head?_dots k h.start), stripDots_dots,
    stripDots_self h.dots, stripTrailing_replicate, stripTrailing_self h.last]

theorem exists_replicate (h : ∀ c ∈ path, c = '/') : ∃ n, path = List.replicate n '/' :=
  ⟨path.length, List.eq_replicate_of_mem h⟩

/-- A path is its leading slashes and the rest. -/
theorem stripSlashes_decomp (path : List Char) :
    ∃ n, path = List.replicate n '/' ++ stripSlashes path ∧
      (stripSlashes path).head? ≠ some '/' := by
  obtain ⟨n, hn⟩ : ∃ n, path.takeWhile (· == '/') = List.replicate n '/' :=
    exists_replicate fun c hc => by simpa using List.mem_takeWhile_imp hc
  refine ⟨n, ?_, ?_⟩
  · rw [← hn]
    exact (List.takeWhile_append_dropWhile).symm
  · intro h
    have hnot := head?_dropWhile (p := (· == '/')) '/' h
    cases hnot

/-- A path is its leading dots and the rest. -/
theorem stripDots_decomp (path : List Char) :
    ∃ k, path = dots k ++ stripDots path ∧ ¬ DotsFirst (stripDots path) := by
  fun_induction stripDots path with
  | case1 rest ih =>
      obtain ⟨k, hpath, hnot⟩ := ih
      exact ⟨k + 1, by rw [dots, List.cons_append, List.cons_append, ← hpath], hnot⟩
  | case2 path hpath => exact ⟨0, rfl, fun ⟨rest, h⟩ => hpath rest h⟩

/-- A path is the rest and its trailing slashes. -/
theorem stripTrailing_decomp (path : List Char) :
    ∃ m, path = stripTrailing path ++ List.replicate m '/' ∧
      (stripTrailing path).getLast? ≠ some '/' := by
  obtain ⟨m, hm⟩ : ∃ m, path.rtakeWhile (· == '/') = List.replicate m '/' :=
    exists_replicate fun c hc => by simpa using List.mem_rtakeWhile_imp hc
  refine ⟨m, ?_, ?_⟩
  · rw [← hm]
    exact (List.rdropWhile_append_rtakeWhile).symm
  · intro h
    have hnot := getLast?_rdropWhile (p := (· == '/')) '/' h
    cases hnot

/-- **A path is what is left of it**, between slashes and `./`s. -/
theorem stripPath_decomp (path : List Char) : ∃ n k m,
    path = List.replicate n '/' ++ (dots k ++ (stripPath path ++ List.replicate m '/')) ∧
      Core k m (stripPath path) := by
  obtain ⟨n, hn, hstart⟩ := stripSlashes_decomp path
  obtain ⟨k, hk, hdots⟩ := stripDots_decomp (stripSlashes path)
  obtain ⟨m, hm, hlast⟩ := stripTrailing_decomp (stripDots (stripSlashes path))
  have hrest : stripPath path ++ List.replicate m '/' = stripDots (stripSlashes path) := hm.symm
  refine ⟨n, k, m, ?_, ?_, ?_, hlast⟩
  · rw [hrest, ← hk, ← hn]
  · intro hzero
    rw [hrest]
    subst hzero
    rwa [← show stripSlashes path = stripDots (stripSlashes path) from hk]
  · rwa [hrest]

end Parts

/-! ### Lower case -/

section Lower

variable {table : CaseTable} {path r : List Char} {c d : Char} {k m : ℕ}

theorem lowerChars_head? (hd : isMark d = true) :
    (lowerChars table path).head? = some d ↔ path.head? = some d :=
  lowerFrom_head? hd

theorem lowerChars_getLast? (hd : isMark d = true) :
    (lowerChars table path).getLast? = some d ↔ path.getLast? = some d :=
  lowerFrom_getLast? hd

theorem lowerChars_eq_nil : lowerChars table path = [] ↔ path = [] := by
  constructor
  · intro h
    by_contra hne
    exact lowerFrom_ne hne h
  · rintro rfl
    rfl

theorem lowerChars_cons (hd : isMark d = true) (path : List Char) :
    lowerChars table (d :: path) = d :: lowerChars table path :=
  lowerChars_marks_append (List.forall_mem_singleton.mpr hd) path

/-- A path in lower case starts with a mark when the path does. -/
theorem lowerChars_eq_cons {v : List Char} (hd : isMark d = true) :
    lowerChars table path = d :: v ↔ ∃ rest, path = d :: rest ∧ lowerChars table rest = v := by
  constructor
  · intro h
    have hhead : (lowerChars table path).head? = some d := by rw [h]; rfl
    obtain ⟨rest, rfl⟩ := List.head?_eq_some_iff.mp ((lowerChars_head? hd).mp hhead)
    rw [lowerChars_cons hd] at h
    exact ⟨rest, rfl, (List.cons.inj h).2⟩
  · rintro ⟨rest, rfl, rfl⟩
    exact lowerChars_cons hd rest

/-- Lower case begins with dots as the path does. -/
theorem dotsFirst_lowerChars : DotsFirst (lowerChars table path) ↔ DotsFirst path := by
  constructor
  · rintro ⟨v, h⟩
    obtain ⟨rest, rfl, hrest⟩ := (lowerChars_eq_cons (by decide)).mp h
    obtain ⟨rest, rfl, -⟩ := (lowerChars_eq_cons (by decide)).mp hrest
    exact ⟨rest, rfl⟩
  · rintro ⟨rest, rfl⟩
    exact ⟨_, by rw [lowerChars_cons (by decide), lowerChars_cons (by decide)]⟩

theorem lowerChars_eq_dot : lowerChars table path = ['.'] ↔ path = ['.'] := by
  rw [lowerChars_eq_cons (by decide)]
  simp [lowerChars_eq_nil]

/-- Lower case leaves the marks where they are. -/
theorem Core.lower (h : Core k m r) : Core k m (lowerChars table r) := by
  have hrest : lowerChars table r ++ List.replicate m '/' =
      lowerChars table (r ++ List.replicate m '/') :=
    (lowerChars_append_marks isMark_replicate r).symm
  refine ⟨?_, ?_, ?_⟩
  · intro hk
    rw [hrest, Ne, lowerChars_head? isMark_slash]
    exact h.start hk
  · rw [hrest, dotsFirst_lowerChars]
    exact h.dots
  · rw [Ne, lowerChars_getLast? isMark_slash]
    exact h.last

/-- **A path can be stripped before it is put in lower case.** -/
theorem stripPath_lowerChars (path : List Char) :
    stripPath (lowerChars table path) = lowerChars table (stripPath path) := by
  obtain ⟨n, k, m, hpath, hcore⟩ := stripPath_decomp path
  have hlower : lowerChars table path = List.replicate n '/' ++
      (dots k ++ (lowerChars table (stripPath path) ++ List.replicate m '/')) := by
    rw [← lowerChars_append_marks isMark_replicate, ← lowerChars_marks_append isMark_dots,
      ← lowerChars_marks_append isMark_replicate, ← hpath]
  rw [hlower, stripPath_of_core hcore.lower]

/-- The root is found in lower case as well. -/
theorem finishPath_lowerChars (path : List Char) :
    finishPath (lowerChars table path) = lowerChars table (finishPath path) := by
  rw [finishPath, finishPath, apply_ite (lowerChars table)]
  exact if_congr lowerChars_eq_dot rfl rfl

/-- A path as it is written, without the blanks around it and with its slashes turned. -/
def written (s : String) : List Char := (trimChars s.toList).map slash

/-- A path is normalised from what is written, in lower case. -/
theorem normalizePath_toList (s : String) : (normalizePath table (some s)).toList =
    lowerChars table (finishPath (stripPath (written s))) := by
  rw [normalizePath, normalize, String.toList_ofList, String.toList_ofList, lowerChars_slash]
  show finishPath (stripPath (lowerChars table (written s))) = _
  rw [stripPath_lowerChars, finishPath_lowerChars]

end Lower

/-! ### Canonical paths -/

section Canonical

variable {table : CaseTable} {path r : List Char} {c : Char} {k m : ℕ} {s : String}

/-- Nothing is left at the ends that is taken away there. -/
structure Clean (r : List Char) : Prop where
  trimmed : Trimmed r
  start : r.head? ≠ some '/'

/-- What a canonical path is, and that the path of it is itself. -/
structure Canonical (table : CaseTable) (s : String) : Prop where
  slash : (normalizePath table (some s)).toList.head? ≠ some '/'
  dots : ¬ DotsFirst (normalizePath table (some s)).toList
  last : (normalizePath table (some s)).toList.getLast? ≠ some '/'
  dot : normalizePath table (some s) ≠ "."
  again : normalizePath table (some (normalizePath table (some s))) = normalizePath table (some s)

theorem trimmed_lowerChars : Trimmed (lowerChars table r) ↔ Trimmed r := by
  rw [trimmed_iff, trimmed_iff]
  refine forall_congr' fun c => forall_congr' fun hc => ?_
  rw [Ne, Ne, lowerChars_head? (isMark_white hc), lowerChars_getLast? (isMark_white hc)]

/-- Lower case is clean as the path is. -/
theorem clean_lowerChars : Clean (lowerChars table r) ↔ Clean r := by
  constructor
  · rintro ⟨htrimmed, hstart⟩
    rw [Ne, lowerChars_head? isMark_slash] at hstart
    exact ⟨trimmed_lowerChars.mp htrimmed, hstart⟩
  · rintro ⟨htrimmed, hstart⟩
    refine ⟨trimmed_lowerChars.mpr htrimmed, ?_⟩
    rwa [Ne, lowerChars_head? isMark_slash]

/-- So is the finished path. -/
theorem clean_finishPath : Clean (finishPath r) ↔ Clean r := by
  rw [finishPath]
  split_ifs with hdot
  · subst hdot
    exact iff_of_true ⟨by simp [Trimmed], by simp⟩ ⟨by simp [Trimmed]; decide, by simp⟩
  · rfl

theorem mem_lowerFrom_mark {before : List Char} (hc : isMark c = true) :
    c ∈ table.lowerFrom before path ↔ c ∈ path := by
  induction path generalizing before with
  | nil => simp [CaseTable.lowerFrom]
  | cons d path ih =>
      rw [CaseTable.lowerFrom, List.mem_append, mem_lowerAt_mark hc, ih, List.mem_cons, eq_comm]

theorem mem_of_mem_stripPath (h : c ∈ stripPath path) : c ∈ path := by
  obtain ⟨n, k, m, hpath, -⟩ := stripPath_decomp path
  rw [hpath]
  simp [h]

theorem mem_of_mem_finishPath (h : c ∈ finishPath path) : c ∈ path := by
  rw [finishPath] at h
  split at h
  · cases h
  · exact h

theorem mem_of_mem_trimChars (h : c ∈ trimChars path) : c ∈ path := by
  obtain ⟨b, b', hpath, -, -⟩ := trimChars_decomp path
  rw [hpath]
  simp [h]

/-- There is no backslash in a path that was normalised. -/
theorem not_mem_normalizePath : '\\' ∉ (normalizePath table (some s)).toList := by
  intro h
  rw [normalizePath_toList] at h
  have hmem := mem_of_mem_stripPath (mem_of_mem_finishPath ((mem_lowerFrom_mark (by decide)).mp h))
  obtain ⟨c, -, hc⟩ := List.mem_map.mp hmem
  rw [slash] at hc
  split at hc
  · exact absurd hc (by decide)
  · rename_i hne
    exact hne hc

/-- Nothing of it is left to turn or to put in lower case. -/
theorem normalizePath_again (s : String) :
    (normalizePath table (some (normalizePath table (some s)))).toList =
      finishPath (stripPath (trimChars (normalizePath table (some s)).toList)) := by
  have hturned : written (normalizePath table (some s)) =
      trimChars (normalizePath table (some s)).toList := by
    refine (List.map_congr_left fun c hc => slash_of_ne ?_).trans (List.map_id _)
    rintro rfl
    exact not_mem_normalizePath (mem_of_mem_trimChars hc)
  rw [normalizePath_toList (normalizePath table (some s)), hturned]
  apply lowerFrom_of_lowered
  intro d hd
  have hmem := mem_of_mem_trimChars (mem_of_mem_stripPath (mem_of_mem_finishPath hd))
  rw [normalizePath_toList] at hmem
  exact lowered_lowerFrom d hmem

/-- Stripping makes no path longer. -/
theorem length_stripPath_le (path : List Char) : (stripPath path).length ≤ path.length := by
  obtain ⟨n, k, m, hpath, -⟩ := stripPath_decomp path
  have hlength := congrArg List.length hpath
  simp only [List.length_append, List.length_replicate] at hlength
  omega

/-- Nor does finishing it. -/
theorem length_finishPath_le (path : List Char) : (finishPath path).length ≤ path.length := by
  rw [finishPath]
  split_ifs
  · exact Nat.zero_le _
  · exact Nat.le_refl _

/-- What does not change any more has no blank at its ends. -/
theorem trimmed_of_again (h : finishPath (stripPath (trimChars path)) = path) : Trimmed path := by
  obtain ⟨b, b', hpath, -, -⟩ := trimChars_decomp path
  have hle : path.length ≤ (trimChars path).length := calc
    path.length = (finishPath (stripPath (trimChars path))).length := by rw [h]
    _ ≤ (stripPath (trimChars path)).length := length_finishPath_le _
    _ ≤ (trimChars path).length := length_stripPath_le _
  have hlength := congrArg List.length hpath
  simp only [List.length_append] at hlength
  obtain rfl : b = [] := List.length_eq_zero_iff.mp (by omega)
  obtain rfl : b' = [] := List.length_eq_zero_iff.mp (by omega)
  rw [List.nil_append, List.append_nil] at hpath
  exact trimChars_eq_self.mp hpath.symm

/-- A core does not begin with dots. -/
theorem Core.not_dotsFirst (h : Core k m r) : ¬ DotsFirst r := by
  rintro ⟨rest, rfl⟩
  exact h.dots ⟨_, rfl⟩

/-- A clean core is left as it is. -/
theorem stripPath_self (hstart : r.head? ≠ some '/') (hdots : ¬ DotsFirst r)
    (hlast : r.getLast? ≠ some '/') : stripPath r = r := by
  rw [stripPath, stripSlashes_self hstart, stripDots_self hdots, stripTrailing_self hlast]

/-- A finished path is no dot. -/
theorem finishPath_ne_dot (path : List Char) : finishPath path ≠ ['.'] := by
  rw [finishPath]
  split_ifs with h
  · exact (List.cons_ne_nil _ _).symm
  · exact h

/-- The finished core has no slash at its end, and no `./` at its start. -/
theorem finishPath_core (h : Core k m r) :
    ¬ DotsFirst (finishPath r) ∧ (finishPath r).getLast? ≠ some '/' := by
  rw [finishPath]
  split_ifs
  · exact ⟨fun ⟨rest, hnil⟩ => List.cons_ne_nil _ _ hnil.symm, by simp⟩
  · exact ⟨h.not_dotsFirst, h.last⟩

/-- **A path is canonical** when what is left of it is clean. -/
theorem canonical_iff (s : String) : Canonical table s ↔ Clean (stripPath (written s)) := by
  obtain ⟨n, k, m, -, hcore⟩ := stripPath_decomp (written s)
  have hpath : (normalizePath table (some s)).toList =
      lowerChars table (finishPath (stripPath (written s))) := normalizePath_toList s
  have hclean : Clean (normalizePath table (some s)).toList ↔ Clean (stripPath (written s)) := by
    rw [hpath, clean_lowerChars, clean_finishPath]
  constructor
  · rintro ⟨hslash, -, -, -, hself⟩
    have hagain : (normalizePath table (some (normalizePath table (some s)))).toList = _ :=
      normalizePath_again s
    rw [hself] at hagain
    exact hclean.mp ⟨trimmed_of_again hagain.symm, hslash⟩
  · intro h
    obtain ⟨htrimmed, hstart⟩ := hclean.mpr h
    have hdots : ¬ DotsFirst (normalizePath table (some s)).toList := by
      rw [hpath, dotsFirst_lowerChars]
      exact (finishPath_core hcore).1
    have hlast : (normalizePath table (some s)).toList.getLast? ≠ some '/' := by
      rw [hpath, Ne, lowerChars_getLast? isMark_slash]
      exact (finishPath_core hcore).2
    have hdot : (normalizePath table (some s)).toList ≠ ['.'] := by
      rw [hpath, Ne, lowerChars_eq_dot]
      exact finishPath_ne_dot _
    refine ⟨hstart, hdots, hlast, fun h => hdot (by rw [h]; rfl), ?_⟩
    apply String.toList_inj.mp
    rw [normalizePath_again, trimChars_eq_self.mpr htrimmed,
      stripPath_self hstart hdots hlast, finishPath, if_neg hdot]

end Canonical

/-! ### Paths that are misread -/

section Misread

variable {path rest r : List Char} {c : Char}

/-- The paths whose parts come to the front or to the end when others are taken away: a slash
behind a `./`, with more behind it, and a blank next to what is taken away. -/
inductive Misread : List Char → Prop
  | slash (n k : ℕ) {rest : List Char} (h : ∃ c ∈ rest, c ≠ '/') :
      Misread (List.replicate n '/' ++ (dots (k + 1) ++ '/' :: rest))
  | blank (n k : ℕ) (rest : List Char) {c : Char} (h : isWhiteSpace c = true) :
      Misread (List.replicate n '/' ++ (dots k ++ c :: rest))
  | blankBehind (rest : List Char) (m : ℕ) {c : Char} (h : isWhiteSpace c = true) :
      Misread (rest ++ c :: List.replicate m '/')

theorem slash_ne_of_blank (h : isWhiteSpace c = true) : c ≠ '/' ∧ c ≠ '.' := by
  constructor
  · rintro rfl
    exact absurd h (by decide)
  · rintro rfl
    exact absurd h (by decide)

theorem slash_of_blank (h : isWhiteSpace c = true) : slash c = c := by
  apply slash_of_ne
  rintro rfl
  exact absurd h (by decide)

/-- A path that starts with something that is not stripped. -/
theorem stripPath_front (n k : ℕ) (hstart : k = 0 → path.head? ≠ some '/')
    (hdots : ¬ DotsFirst path) :
    stripPath (List.replicate n '/' ++ (dots k ++ path)) = stripTrailing path := by
  rw [stripPath, stripSlashes_replicate, stripSlashes_self (head?_dots k hstart), stripDots_dots,
    stripDots_self hdots]

theorem stripTrailing_head? (h : ∃ c ∈ path, c ≠ '/') :
    (stripTrailing path).head? = path.head? := by
  obtain ⟨m, hpath, -⟩ := stripTrailing_decomp path
  have hne : stripTrailing path ≠ [] := by
    intro hnil
    obtain ⟨c, hc, hslash⟩ := h
    rw [hnil, List.nil_append] at hpath
    rw [hpath] at hc
    exact hslash (List.eq_of_mem_replicate hc)
  conv_rhs => rw [hpath]
  exact (List.head?_append_of_ne_nil _ hne).symm

theorem not_blank_dots (n k : ℕ) (hc : isWhiteSpace c = true) :
    c ∉ List.replicate n '/' ++ dots k := by
  obtain ⟨hslash, hdot⟩ := slash_ne_of_blank hc
  rw [List.mem_append, not_or]
  refine ⟨fun h => hslash (List.eq_of_mem_replicate h), ?_⟩
  induction k with
  | zero => simp [dots]
  | succ k ih => simp [dots, hslash, hdot, ih]

/-- A path that is misread is not clean. -/
theorem not_clean_of_misread (h : Misread path) : ¬ Clean (stripPath path) := by
  intro hclean
  cases h with
  | @slash n k rest h =>
      have hdots : ¬ DotsFirst ('/' :: rest) := fun ⟨_, h⟩ => by simp at h
      rw [stripPath_front n (k + 1) (fun h => by cases h) hdots] at hclean
      obtain ⟨c, hmem, hc⟩ := h
      refine hclean.start ?_
      rw [stripTrailing_head? ⟨c, List.mem_cons_of_mem _ hmem, hc⟩]
      rfl
  | @blank n k rest c hc =>
      obtain ⟨hslash, hdot⟩ := slash_ne_of_blank hc
      have hdots : ¬ DotsFirst (c :: rest) := fun ⟨_, h⟩ => hdot (List.cons.inj h).1
      rw [stripPath_front n k (fun _ => by simpa using hslash) hdots] at hclean
      refine (trimmed_iff.mp hclean.trimmed c hc).1 ?_
      rw [stripTrailing_head? ⟨c, List.mem_cons_self, hslash⟩]
      rfl
  | @blankBehind rest m c hc =>
      obtain ⟨hslash, -⟩ := slash_ne_of_blank hc
      -- the blank is in the core, and the slashes behind it are those behind the core
      obtain ⟨n, k, m', hpath, hcore⟩ := stripPath_decomp (rest ++ c :: List.replicate m '/')
      generalize stripPath (rest ++ c :: List.replicate m '/') = r at hpath hcore hclean
      have hends := congrArg stripTrailing hpath
      have hlast : (rest ++ [c]).getLast? ≠ some '/' := by simpa using hslash
      rw [List.append_cons, ← List.append_assoc, ← List.append_assoc, stripTrailing_replicate,
        stripTrailing_replicate, stripTrailing_self hlast] at hends
      rcases List.eq_nil_or_concat r with rfl | ⟨r, d, rfl⟩
      · have hmem : c ∈ stripTrailing (List.replicate n '/' ++ dots k ++ []) := by
          rw [← hends]
          simp
        rw [List.append_nil] at hmem
        exact not_blank_dots n k hc ((List.rdropWhile_prefix _ _).subset hmem)
      · have hd : d ≠ '/' := by simpa using hcore.last
        have hself : (List.replicate n '/' ++ dots k ++ (r ++ [d])).getLast? ≠ some '/' := by
          simpa using hd
        rw [List.concat_eq_append, stripTrailing_self hself, ← List.append_assoc] at hends
        obtain rfl : c = d := by simpa using (List.append_inj' hends rfl).2
        exact (trimmed_iff.mp hclean.trimmed c hc).2 (by simp)

/-- **What is misread** is told from the path as it is written. -/
theorem misread_iff : Misread path ↔ ¬ Clean (stripPath path) := by
  constructor
  · exact not_clean_of_misread
  · intro hclean
    obtain ⟨n, k, m, hpath, hcore⟩ := stripPath_decomp path
    generalize stripPath path = r at hpath hcore hclean
    subst hpath
    by_cases hslash : r.head? = some '/'
    · obtain ⟨rest, rfl⟩ := List.head?_eq_some_iff.mp hslash
      cases k with
      | zero => exact absurd (by simp) (hcore.start rfl)
      | succ k =>
          rw [List.cons_append]
          refine .slash n k ?_
          by_contra hall
          simp only [not_exists, not_and, not_not] at hall
          have hrest : ∀ c ∈ '/' :: rest, c = '/' := by
            intro c hc
            rcases List.mem_cons.mp hc with rfl | hc
            · rfl
            · exact hall c (List.mem_append_left _ hc)
          have hlast := hrest _ (List.getLast_mem (List.cons_ne_nil '/' rest))
          refine hcore.last ?_
          rw [List.getLast?_eq_getLast_of_ne_nil (List.cons_ne_nil '/' rest), hlast]
    · have htrimmed : ¬ Trimmed r := fun h => hclean ⟨h, hslash⟩
      rw [trimmed_iff] at htrimmed
      simp only [not_forall] at htrimmed
      obtain ⟨c, hc, hends⟩ := htrimmed
      by_cases hfirst : r.head? = some c
      · obtain ⟨rest, rfl⟩ := List.head?_eq_some_iff.mp hfirst
        exact .blank n k _ hc
      · have hlast : r.getLast? = some c := by
          by_contra hlast
          exact hends ⟨hfirst, hlast⟩
        obtain ⟨rest, rfl⟩ := List.getLast?_eq_some_iff.mp hlast
        have hbehind := Misread.blankBehind (List.replicate n '/' ++ (dots k ++ rest)) m hc
        simpa using hbehind

end Misread

/-! ### Spellings -/

/-- One spelling more of a path. -/
inductive Respelt (table : CaseTable) : List Char → List Char → Prop
  | slash (path : List Char) : Respelt table ('/' :: path) path
  | dotSlash (path : List Char) : Respelt table ('.' :: '/' :: path) path
  | slashBehind (path : List Char) : Respelt table (path ++ ['/']) path
  | blank (path : List Char) {c : Char} (h : isWhiteSpace c = true) : Respelt table (c :: path) path
  | blankBehind (path : List Char) {c : Char} (h : isWhiteSpace c = true) :
      Respelt table (path ++ [c]) path
  | backslash {path path' : List Char} (h : path.map slash = path'.map slash) :
      Respelt table path path'
  | case {path path' : List Char} (h : lowerChars table path = lowerChars table path') :
      Respelt table path path'

/-- Two spellings of one path: they differ by slashes and `./`s in front, slashes behind, blanks
around, backslashes and case. -/
def SamePath (table : CaseTable) (s s' : String) : Prop :=
  Relation.EqvGen (Respelt table) s.toList s'.toList

section Spellings

variable {table : CaseTable} {path path' rest r : List Char} {c : Char} {n k m : ℕ} {s s' : String}

/-- A character that is trimmed at an end. -/
def isEdge (c : Char) : Bool := isWhiteSpace c || c == '/'

/-- A path without all that may stand in front of it. -/
def dropFront : List Char → List Char
  | '.' :: '/' :: rest => dropFront rest
  | c :: rest => if isEdge c then dropFront rest else c :: rest
  | [] => []

/-- A path without all that may stand around it. -/
def readPath (path : List Char) : List Char := finishPath (dropFront (path.rdropWhile isEdge))

theorem isEdge_white (h : isWhiteSpace c = true) : isEdge c = true := by
  rw [isEdge, h]
  rfl

theorem rdropWhile_cons {p : Char → Bool} (c : Char) (path : List Char) :
    (c :: path).rdropWhile p =
      if path.rdropWhile p = [] then [c].rdropWhile p else c :: path.rdropWhile p := by
  rw [List.rdropWhile, List.reverse_cons, List.dropWhile_append]
  by_cases h : path.rdropWhile p = []
  · have hempty : path.reverse.dropWhile p = [] := List.reverse_eq_nil_iff.mp h
    rw [if_pos h, hempty]
    rfl
  · have hempty : path.reverse.dropWhile p ≠ [] := fun hnil => h (List.reverse_eq_nil_iff.mpr hnil)
    rw [if_neg h, if_neg (by simpa using hempty), List.reverse_append]
    rfl

theorem dropFront_edge (hc : isEdge c = true) (path : List Char) :
    dropFront (c :: path) = dropFront path := by
  rw [dropFront.eq_def]
  split
  · rename_i heq
    obtain ⟨rfl, -⟩ := List.cons.inj heq
    exact absurd hc (by decide)
  · rename_i heq
    obtain ⟨rfl, rfl⟩ := List.cons.inj heq
    rw [if_pos hc]
  · rename_i heq
    cases heq

theorem readPath_edge (hc : isEdge c = true) (path : List Char) :
    readPath (c :: path) = readPath path := by
  rw [readPath, readPath, rdropWhile_cons]
  split_ifs with h
  · rw [h, List.rdropWhile_singleton, if_pos hc]
  · rw [dropFront_edge hc]

theorem readPath_dotSlash (path : List Char) : readPath ('.' :: '/' :: path) = readPath path := by
  rw [readPath, readPath, rdropWhile_cons, rdropWhile_cons]
  by_cases h : path.rdropWhile isEdge = []
  · rw [if_pos h, h]
    rfl
  · rw [if_neg h, if_neg (List.cons_ne_nil _ _)]
    rfl

theorem readPath_concat (hc : isEdge c = true) (path : List Char) :
    readPath (path ++ [c]) = readPath path := by
  rw [readPath, List.rdropWhile_concat_pos _ _ _ hc]
  rfl

/-- What is trimmed at the end does not matter. -/
theorem readPath_append (h : ∀ c ∈ rest, isEdge c = true) (path : List Char) :
    readPath (path ++ rest) = readPath path := by
  rw [readPath, rdropWhile_append_of_pos h]
  rfl

/-- What is trimmed at the front does not matter. -/
theorem readPath_edges (h : ∀ c ∈ rest, isEdge c = true) (path : List Char) :
    readPath (rest ++ path) = readPath path := by
  induction rest with
  | nil => rfl
  | cons c rest ih =>
      obtain ⟨hc, hrest⟩ := List.forall_mem_cons.mp h
      rw [List.cons_append, readPath_edge hc, ih hrest]

/-- Nor do leading dots. -/
theorem readPath_dots (k : ℕ) (path : List Char) : readPath (dots k ++ path) = readPath path := by
  induction k with
  | zero => rfl
  | succ k ih => exact (readPath_dotSlash _).trans ih

theorem isEdge_replicate : ∀ c ∈ List.replicate n '/', isEdge c = true := by
  intro c hc
  rw [List.eq_of_mem_replicate hc]
  decide

/-- **A spelling more does not change the reading.** -/
theorem readPath_respelt (h : Respelt table path path') :
    readPath ((lowerChars table path).map slash) =
      readPath ((lowerChars table path').map slash) := by
  cases h with
  | slash =>
      rw [lowerChars_cons (by decide)]
      exact readPath_edge (by decide) _
  | dotSlash =>
      rw [lowerChars_cons (by decide), lowerChars_cons (by decide)]
      exact readPath_dotSlash _
  | slashBehind =>
      rw [lowerChars_append_marks (by simp; decide), List.map_append]
      exact readPath_concat (by decide) _
  | @blank _ c hc =>
      rw [lowerChars_cons (isMark_white hc), List.map_cons, slash_of_blank hc]
      exact readPath_edge (isEdge_white hc) _
  | @blankBehind _ c hc =>
      rw [lowerChars_append_marks (List.forall_mem_singleton.mpr (isMark_white hc)),
        List.map_append, List.map_singleton, slash_of_blank hc]
      exact readPath_concat (isEdge_white hc) _
  | backslash h => rw [lowerChars_slash, lowerChars_slash, h]
  | case h => rw [h]

/-- Spellings of one path have one reading. -/
theorem readPath_samePath (h : SamePath table s s') :
    readPath ((lowerChars table s.toList).map slash) =
      readPath ((lowerChars table s'.toList).map slash) := by
  rw [SamePath] at h
  generalize s.toList = path at h
  generalize s'.toList = path' at h
  induction h with
  | rel _ _ h => exact readPath_respelt h
  | refl => rfl
  | symm _ _ _ ih => exact ih.symm
  | trans _ _ _ _ _ ih ih' => exact ih.trans ih'

/-- A clean path is read as it is stripped. -/
theorem readPath_of_clean (h : Clean (stripPath path)) :
    readPath path = finishPath (stripPath path) := by
  obtain ⟨n, k, m, hpath, hcore⟩ := stripPath_decomp path
  generalize stripPath path = r at hpath hcore h
  subst hpath
  rw [readPath_edges isEdge_replicate, readPath_dots, readPath_append isEdge_replicate, readPath]
  have hend : ∀ c, c ≠ '/' → isEdge c = isWhiteSpace c := by
    intro c hc
    simp [isEdge, hc]
  have hlast : r.rdropWhile isEdge = r := by
    apply rdropWhile_of_getLast?
    intro c hc
    rw [hend c fun hslash => hcore.last (hslash ▸ hc)]
    exact h.trimmed.2 c hc
  have hfront : dropFront r = r := by
    rw [dropFront.eq_def]
    split
    · exact absurd ⟨_, rfl⟩ hcore.not_dotsFirst
    · rename_i c rest _
      have hc : isEdge c = false := by
        rw [hend c fun hslash => h.start (by rw [hslash]; rfl)]
        exact h.trimmed.1 c rfl
      rw [hc]
      rfl
    · rfl
  rw [hlast, hfront]

/-- **What is not misread has the reading of its spellings.** -/
theorem normalizePath_reading (h : Clean (stripPath (written s))) :
    (normalizePath table (some s)).toList = readPath ((lowerChars table s.toList).map slash) := by
  obtain ⟨b, b', hs, hb, hb'⟩ := trimChars_decomp s.toList
  have hslash : ∀ {u : List Char}, (∀ c ∈ u, isWhiteSpace c = true) → u.map slash = u := fun hu =>
    (List.map_congr_left fun c hc => slash_of_blank (hu c hc)).trans (List.map_id _)
  rw [hs, lowerChars_marks_append fun c hc => isMark_white (hb c hc),
    lowerChars_append_marks fun c hc => isMark_white (hb' c hc), List.map_append, List.map_append,
    hslash hb, hslash hb', readPath_edges fun c hc => isEdge_white (hb c hc),
    readPath_append fun c hc => isEdge_white (hb' c hc), lowerChars_slash, normalizePath_toList]
  show _ = readPath (lowerChars table (written s))
  rw [readPath_of_clean, stripPath_lowerChars, finishPath_lowerChars]
  rw [stripPath_lowerChars, clean_lowerChars]
  exact h

/-- Two spellings of one path are normalised alike. -/
theorem normalizePath_samePath (h : SamePath table s s') (hs : Clean (stripPath (written s)))
    (hs' : Clean (stripPath (written s'))) :
    normalizePath table (some s) = normalizePath table (some s') := by
  apply String.toList_inj.mp
  rw [normalizePath_reading hs, normalizePath_reading hs', readPath_samePath h]

end Spellings

/-! ### Verdicts -/

section Verdicts

variable {table : CaseTable} {s s' : String}

/-- What came of a check. -/
def verdict (check : ProofCheck) : String × Bool := (check.name, check.ok)

theorem verdicts_runtime {runtime runtime' : ProofServiceRuntimeSettings}
    (h : (serviceRuntimeChecks table runtime).map verdict =
      (serviceRuntimeChecks table runtime').map verdict)
    (snapshot : ProofSnapshot) (expectations : ProofExpectations) :
    verdicts (verifyOpenClawRailwayProof table { snapshot with serviceRuntime := some runtime }
        expectations) =
      verdicts (verifyOpenClawRailwayProof table { snapshot with serviceRuntime := some runtime' }
        expectations) := by
  have hall : ∀ checks : List ProofCheck,
      (checks.all ProofCheck.ok, checks.map verdict) =
        ((checks.map verdict).all Prod.snd, checks.map verdict) := by
    intro checks
    rw [List.all_map]
    rfl
  have hverdicts : ∀ result : ProofVerificationResult,
      verdicts result = (result.ok, result.checks.map verdict) := fun _ => rfl
  rw [hverdicts, hverdicts]
  refine (hall _).trans (Eq.trans ?_ (hall _).symm)
  simp only [List.map_append, checksOf, Option.map_some, Option.getD_some, h]

/-- The checks of the runtime come out alike for both spellings, wherever a path is checked. -/
def SameVerdict (table : CaseTable) (s s' : String) : Prop :=
  ∀ (snapshot : ProofSnapshot) (expectations : ProofExpectations)
    (runtime : ProofServiceRuntimeSettings),
    let verdictsOf := fun runtime => verdicts (verifyOpenClawRailwayProof table
      { snapshot with serviceRuntime := some runtime } expectations)
    verdictsOf { runtime with rootDirectory := some s } =
        verdictsOf { runtime with rootDirectory := some s' } ∧
      verdictsOf { runtime with railwayConfigFile := some s } =
        verdictsOf { runtime with railwayConfigFile := some s' } ∧
      verdictsOf { runtime with dockerfilePath := some s } =
        verdictsOf { runtime with dockerfilePath := some s' }

theorem sameVerdict_of_normalizePath
    (h : normalizePath table (some s) = normalizePath table (some s')) :
    SameVerdict table s s' := by
  intro snapshot expectations runtime
  refine ⟨verdicts_runtime ?_ snapshot expectations, verdicts_runtime ?_ snapshot expectations,
    verdicts_runtime ?_ snapshot expectations⟩
  · simp [serviceRuntimeChecks, verdict, h]
  · simp [serviceRuntimeChecks, verdict, h]
  · simp [serviceRuntimeChecks, verdict, h]

/-- **When `normalizePath` is a canonicaliser**: of the strings it does not misread. -/
theorem normalizePath_canonical_iff (table : CaseTable) (s s' : String) :
    (Canonical table s ∧ Canonical table s' ∧ (SamePath table s s' → SameVerdict table s s')) ↔
      ¬ Misread (written s) ∧ ¬ Misread (written s') := by
  rw [misread_iff, misread_iff, not_not, not_not, canonical_iff, canonical_iff]
  constructor
  · rintro ⟨hs, hs', -⟩
    exact ⟨hs, hs'⟩
  · rintro ⟨hs, hs'⟩
    exact ⟨hs, hs', fun h => sameVerdict_of_normalizePath (normalizePath_samePath h hs hs')⟩

/-- A service that passes, as far as the path of its configuration goes. -/
def desiredSnapshot (railwayConfigFile : String) : ProofSnapshot where
  sourceFiles := {
    dockerfile := "ARG OPENCLAW_TEMPLATE_REF=c1\nADD https://t.test\n" ++
      "COPY --from=template-source /template/src ./src\n"
    railwayToml := "builder = \"dockerfile\"\nhealthcheckPath = \"/setup/healthz\"\n" ++
      "requiredMountPath = \"/data\"\n"
    templateLock := ⟨"https://t.test", "main", "c1"⟩ }
  serviceSource := none
  serviceRuntime := some {
    builder := some "DOCKERFILE"
    dockerfilePath := some "./Dockerfile"
    railwayConfigFile := some railwayConfigFile
    rootDirectory := some "./"
    startCommand := none
    healthcheckPath := some "/setup/healthz" }
  latestDeployment := none
  domains := none
  endpoints := none

/-- A slash behind the `./`: the path of the configuration is not found, and the proof fails. -/
theorem normalizePath_misreads :
    normalizePath asciiCases (some ".//railway.toml") = "/railway.toml" ∧
      normalizePath asciiCases (some "/railway.toml") = "railway.toml" ∧
      SamePath asciiCases ".//railway.toml" "railway.toml" ∧
      (verifyOpenClawRailwayProof asciiCases (desiredSnapshot "railway.toml")
        ⟨"r", "main", none, 8080⟩).ok = true ∧
      (verifyOpenClawRailwayProof asciiCases (desiredSnapshot ".//railway.toml")
        ⟨"r", "main", none, 8080⟩).ok = false ∧
      ¬ (Canonical asciiCases ".//railway.toml" ∧ Canonical asciiCases "railway.toml" ∧
        (SamePath asciiCases ".//railway.toml" "railway.toml" →
          SameVerdict asciiCases ".//railway.toml" "railway.toml")) := by
  have hpath : normalizePath asciiCases (some ".//railway.toml") = "/railway.toml" := by
    decide +kernel
  have hfront : ".//railway.toml".toList = '.' :: '/' :: '/' :: "railway.toml".toList := by
    decide +kernel
  have hsame : SamePath asciiCases ".//railway.toml" "railway.toml" := by
    rw [SamePath, hfront]
    exact .trans _ _ _ (.rel _ _ (.dotSlash _)) (.rel _ _ (.slash _))
  refine ⟨hpath, by decide +kernel, hsame, by decide +kernel, by decide +kernel, ?_⟩
  rintro ⟨hcanonical, -, -⟩
  have hslash := hcanonical.slash
  rw [hpath] at hslash
  exact hslash (by decide +kernel)

end Verdicts

end Railway
