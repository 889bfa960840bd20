/-
ControlPlane/Railway/EnvFile.lean

The local file of assignments, and what a merge does to it.

A text is the lines that `unlines` ends, and a merge writes the lines it keeps and a line for
each entry (`mergeEnv_eq`).  Splitting what was written gives these lines back
(`splitLines_unlines`), so that a further merge starts from them (`keptLines_mergeEnv`):
the same entries change nothing, and other keys leave these in place.
-/
import ControlPlane.Railway.Instance
import Mathlib.Data.List.Nodup

namespace Railway

open Js

/-! ### Lines -/

section Lines

variable {c : Char} {cs line rest : List Char} {lines : List (List Char)}

/-- A line, as a split gives it: there is no line break in it or at its end. -/
def IsLine (line : List Char) : Prop := '\n' ∉ line ∧ line.getLast? ≠ some '\r'

/-- Each line with a line feed behind it. -/
def unlines (lines : List (List Char)) : List Char := lines.flatMap fun line => line ++ ['\n']

/-- Each carriage return stands before a line feed. -/
def returnsFed : List Char → Bool
  | [] => true
  | '\r' :: rest => rest.head? == some '\n' && returnsFed rest
  | _ :: rest => returnsFed rest

@[simp] theorem unlines_nil : unlines [] = [] := rfl

@[simp] theorem unlines_cons : unlines (line :: lines) = line ++ '\n' :: unlines lines := by
  simp [unlines]

@[simp] theorem unlines_append {lines' : List (List Char)} :
    unlines (lines ++ lines') = unlines lines ++ unlines lines' := by
  simp [unlines]

theorem splitLines_cons (hfeed : c ≠ '\n') (hreturn : c = '\r' → rest.head? ≠ some '\n')
    (hsplit : splitLines rest = line :: lines) : splitLines (c :: rest) = (c :: line) :: lines := by
  rw [splitLines.eq_def]
  split
  · contradiction
  · rename_i heq
    obtain ⟨rfl, rfl⟩ := List.cons.inj heq
    exact absurd rfl (hreturn rfl)
  · rename_i heq
    exact absurd (List.cons.inj heq).1 hfeed
  · rename_i heq
    obtain ⟨rfl, rfl⟩ := List.cons.inj heq
    rw [hsplit]

/-- A line and its line feed are split off. -/
theorem splitLines_line (h : IsLine line) (rest : List Char) :
    splitLines (line ++ '\n' :: rest) = line :: splitLines rest := by
  induction line with
  | nil => rw [List.nil_append, splitLines]
  | cons c cs ih =>
      obtain ⟨hfeed, hlast⟩ := h
      obtain ⟨hc, hcs⟩ := not_or.mp (mt List.mem_cons.mpr hfeed)
      refine splitLines_cons (Ne.symm hc) ?_ (ih ⟨hcs, ?_⟩)
      · rintro rfl
        -- a line that ends here would end in its carriage return
        cases cs with
        | nil => exact absurd rfl hlast
        | cons d ds => simpa using fun hd : d = '\n' => hcs (hd ▸ List.mem_cons_self)
      · cases cs with
        | nil => simp
        | cons d ds => exact hlast

/-- **Lines that were written are read back.** -/
theorem splitLines_unlines (h : ∀ line ∈ lines, IsLine line) :
    splitLines (unlines lines) = lines ++ [[]] := by
  induction lines with
  | nil => rfl
  | cons line lines ih =>
      obtain ⟨hline, hlines⟩ := List.forall_mem_cons.mp h
      rw [unlines_cons, splitLines_line hline, ih hlines, List.cons_append]

/-- Only the last line has no line feed behind it. -/
theorem intercalate_concat (lines : List (List Char)) (line : List Char) :
    List.intercalate ['\n'] (lines ++ [line]) = unlines lines ++ line := by
  induction lines with
  | nil => simp
  | cons first lines ih =>
      cases lines with
      | nil => simp [List.intercalate_cons_cons]
      | cons second lines =>
          rw [List.cons_append, List.cons_append, List.intercalate_cons_cons,
            ← List.cons_append, ih]
          simp

theorem returnsFed_tail (h : returnsFed (c :: cs) = true) : returnsFed cs = true := by
  rw [returnsFed.eq_def] at h
  split at h
  · contradiction
  · rename_i heq
    obtain ⟨-, rfl⟩ := List.cons.inj heq
    exact (Bool.and_eq_true_iff.mp h).2
  · rename_i heq
    obtain ⟨-, rfl⟩ := List.cons.inj heq
    exact h

theorem returnsFed_return (h : returnsFed ('\r' :: cs) = true) : ∃ rest, cs = '\n' :: rest := by
  rw [returnsFed, Bool.and_eq_true_iff, beq_iff_eq] at h
  exact List.head?_eq_some_iff.mp h.1

/-- What is between line breaks holds neither of their characters. -/
theorem no_break_of_splitLines (h : returnsFed cs = true) :
    ∀ line ∈ splitLines cs, '\n' ∉ line ∧ '\r' ∉ line := by
  fun_induction splitLines cs with
  | case1 => simp
  | case2 rest ih =>
      have hrest := returnsFed_tail (returnsFed_tail h)
      exact List.forall_mem_cons.mpr ⟨by simp, ih hrest⟩
  | case3 rest ih => exact List.forall_mem_cons.mpr ⟨by simp, ih (returnsFed_tail h)⟩
  | case4 c rest hbreak hfeed hsplit ih =>
      have hreturn : c ≠ '\r' := by
        rintro rfl
        obtain ⟨rest', hrest⟩ := returnsFed_return h
        exact hbreak rest' rfl hrest
      simp [Ne.symm hfeed, Ne.symm hreturn]
  | case5 c rest hbreak hfeed line lines hsplit ih =>
      have hreturn : c ≠ '\r' := by
        rintro rfl
        obtain ⟨rest', hrest⟩ := returnsFed_return h
        exact hbreak rest' rfl hrest
      have hlines := ih (returnsFed_tail h)
      rw [hsplit] at hlines
      obtain ⟨⟨hline, hline'⟩, hlines⟩ := List.forall_mem_cons.mp hlines
      refine List.forall_mem_cons.mpr ⟨⟨?_, ?_⟩, hlines⟩
      · simpa [Ne.symm hfeed] using hline
      · simpa [Ne.symm hreturn] using hline'

/-- A text that is split into lines. -/
def LineText (text : String) : Prop := ∀ line ∈ splitLines text.toList, IsLine line

/-- A text whose returns are all followed by a feed is one of lines. -/
theorem lineText_of_returnsFed {text : String} (h : returnsFed text.toList = true) :
    LineText text := by
  intro line hmem
  obtain ⟨hfeed, hreturn⟩ := no_break_of_splitLines h line hmem
  exact ⟨hfeed, fun hlast => hreturn (List.mem_of_getLast? hlast)⟩

end Lines

/-! ### Keys -/

section Keys

variable {line key : List Char} {entries : List (String × String)}

/-- `[A-Za-z_][A-Za-z0-9_]*` -/
def isKey : List Char → Bool
  | [] => false
  | c :: cs => isKeyStart c && cs.all isKeyChar

/-- A line that starts with `key=`. -/
def assigns (key line : List Char) : Bool := (key ++ ['=']).isPrefixOf line

/-- An assignment is the key, an equals sign and a value. -/
theorem assigns_iff : assigns key line = true ↔ ∃ value, line = key ++ '=' :: value := by
  rw [assigns, List.isPrefixOf_iff_prefix]
  constructor
  · rintro ⟨value, rfl⟩
    exact ⟨value, by simp⟩
  · rintro ⟨value, rfl⟩
    exact ⟨value, by simp⟩

theorem all_of_isKey (h : isKey key = true) : ∀ c ∈ key, isKeyChar c = true := by
  cases key with
  | nil => simp
  | cons c cs =>
      obtain ⟨hstart, hall⟩ := Bool.and_eq_true_iff.mp h
      refine List.forall_mem_cons.mpr ⟨?_, List.all_eq_true.mp hall⟩
      rw [isKeyChar, hstart, Bool.true_or]

/-- The key of a line is the one it assigns. -/
theorem envKey_eq_some : envKey line = some key ↔ isKey key = true ∧ assigns key line = true := by
  constructor
  · intro h
    cases line with
    | nil => cases h
    | cons c cs =>
        simp only [envKey, Option.ite_none_right_eq_some, Bool.and_eq_true, beq_iff_eq,
          Option.some.injEq] at h
        obtain ⟨⟨hstart, hequals⟩, rfl⟩ := h
        have hprefix : (c :: cs).takeWhile isKeyChar <+: c :: cs := List.takeWhile_prefix isKeyChar
        have happend := List.prefix_iff_eq_append.mp hprefix
        obtain ⟨value, hdrop⟩ := List.head?_eq_some_iff.mp hequals
        refine ⟨?_, assigns_iff.mpr ⟨value, ?_⟩⟩
        · have hchar : isKeyChar c = true := by rw [isKeyChar, hstart, Bool.true_or]
          rw [List.takeWhile_cons_of_pos hchar, isKey, hstart, Bool.true_and]
          exact List.all_eq_true.mpr fun d hd => List.mem_takeWhile_imp hd
        · rw [← hdrop, happend]
  · rintro ⟨hkey, h⟩
    obtain ⟨value, rfl⟩ := assigns_iff.mp h
    have htake : (key ++ '=' :: value).takeWhile isKeyChar = key := by
      rw [List.takeWhile_append_of_pos (all_of_isKey hkey)]
      simp [isKeyChar, isKeyStart]
    cases key with
    | nil => cases hkey
    | cons c cs =>
        have hstart : isKeyStart c = true := (Bool.and_eq_true_iff.mp hkey).1
        rw [List.cons_append] at htake ⊢
        simp [envKey, htake, hstart]

/-- Two keys that a line assigns are one. -/
theorem assigns_unique {key' : List Char} (hkey : isKey key = true) (hkey' : isKey key' = true)
    (h : assigns key line = true) (h' : assigns key' line = true) : key = key' := by
  have heq : some key = some key' :=
    (envKey_eq_some.mpr ⟨hkey, h⟩).symm.trans (envKey_eq_some.mpr ⟨hkey', h'⟩)
  exact Option.some.inj heq

/-- A line that assigns a key of the entries. -/
def managed (entries : List (String × String)) (line : List Char) : Bool :=
  entries.any fun entry => assigns entry.1.toList line

/-- The lines that are kept are those that are not managed. -/
theorem keptLines_eq (hkeys : ∀ entry ∈ entries, isKey entry.1.toList = true) (existing : String) :
    keptLines existing entries =
      dropLastBlank ((splitLines existing.toList).filter fun line => !managed entries line) := by
  rw [keptLines]
  congr 1
  apply List.filter_congr
  intro line _
  cases hkey : envKey line with
  | none =>
      have hnone : managed entries line = false := by
        rw [managed, List.any_eq_false]
        intro entry hmem h
        rw [envKey_eq_some.mpr ⟨hkeys entry hmem, h⟩] at hkey
        cases hkey
      rw [hnone]
      rfl
  | some key =>
      obtain ⟨hvalid, hassigns⟩ := envKey_eq_some.mp hkey
      have hsome : managed entries line = entries.any fun entry => entry.1.toList == key := by
        rw [managed, Bool.eq_iff_iff, List.any_eq_true, List.any_eq_true]
        constructor
        · rintro ⟨entry, hmem, h⟩
          exact ⟨entry, hmem, beq_iff_eq.mpr (assigns_unique (hkeys entry hmem) hvalid h hassigns)⟩
        · rintro ⟨entry, hmem, h⟩
          exact ⟨entry, hmem, (beq_iff_eq.mp h).symm ▸ hassigns⟩
      rw [hsome]

end Keys

/-! ### Entries -/

/-- Assignments of values to distinct keys, each on a line of its own. -/
structure EnvMap where
  entries : List (String × String)
  ne : entries ≠ []
  distinct : (entries.map Prod.fst).Nodup
  keys : ∀ entry ∈ entries, isKey entry.1.toList = true
  unbroken : ∀ entry ∈ entries, '\n' ∉ entry.2.toList
  closed : ∀ entry ∈ entries, entry.2.toList.getLast?.any isWhiteSpace = false

section Entries

variable {m m' : EnvMap} {existing : String} {entry : String × String} {line : List Char}

theorem envLine_eq (entry : String × String) :
    envLine entry = entry.1.toList ++ '=' :: entry.2.toList := by
  simp [envLine]

theorem isKeyChar_not_break {c : Char} (h : isKeyChar c = true) : c ≠ '\n' ∧ c ≠ '\r' := by
  constructor
  · rintro rfl
    exact absurd h (by decide)
  · rintro rfl
    exact absurd h (by decide)

/-- The line of an entry ends in no blank. -/
theorem envLine_last (hmem : entry ∈ m.entries) :
    ∃ line c, envLine entry = line ++ [c] ∧ isWhiteSpace c = false := by
  rw [envLine_eq]
  rcases List.eq_nil_or_concat entry.2.toList with hvalue | ⟨value, c, hvalue⟩
  · exact ⟨entry.1.toList, '=', by rw [hvalue], by decide⟩
  · refine ⟨entry.1.toList ++ '=' :: value, c, by rw [hvalue]; simp, ?_⟩
    simpa [hvalue] using m.closed entry hmem

/-- An entry is written in one line. -/
theorem isLine_envLine (hmem : entry ∈ m.entries) : IsLine (envLine entry) := by
  constructor
  · rw [envLine_eq]
    intro h
    rcases List.mem_append.mp h with h | h
    · exact (isKeyChar_not_break (all_of_isKey (m.keys entry hmem) _ h)).1 rfl
    · rcases List.mem_cons.mp h with h | h
      · cases h
      · exact m.unbroken entry hmem h
  · obtain ⟨line, c, hline, hc⟩ := envLine_last hmem
    rw [hline, List.getLast?_append]
    intro h
    obtain rfl : c = '\r' := by simpa using h
    exact absurd hc (by decide)

theorem dropLastBlank_concat (lines : List (List Char)) :
    dropLastBlank (lines ++ [[]]) = lines := by
  simp [dropLastBlank]

/-- At most one blank line is dropped. -/
theorem dropLastBlank_cases (lines : List (List Char)) :
    dropLastBlank lines = lines ∨ dropLastBlank lines ++ [[]] = lines := by
  rcases List.eq_nil_or_concat lines with rfl | ⟨lines, line, rfl⟩
  · exact .inl rfl
  · cases line with
    | nil => exact .inr (by rw [List.concat_eq_append, dropLastBlank_concat])
    | cons c cs => exact .inl (by simp [dropLastBlank])

/-- The lines of a text that the entries leave alone. -/
def others (existing : String) (m : EnvMap) : List (List Char) :=
  (splitLines existing.toList).filter fun line => !managed m.entries line

/-- What is kept are the other lines, up to a blank one at the end. -/
theorem keptLines_cases (existing : String) (m : EnvMap) :
    keptLines existing m.entries = others existing m ∨
      keptLines existing m.entries ++ [[]] = others existing m := by
  rw [keptLines_eq m.keys]
  exact dropLastBlank_cases _

/-- A line that is kept is one of the others. -/
theorem mem_others_of_kept (h : line ∈ keptLines existing m.entries) :
    line ∈ others existing m := by
  rcases keptLines_cases existing m with hkept | hkept
  · exact hkept ▸ h
  · exact hkept ▸ List.mem_append_left _ h

theorem EnvMap.entries_concat (m : EnvMap) : ∃ entries entry, m.entries = entries ++ [entry] := by
  rcases List.eq_nil_or_concat m.entries with hnil | ⟨entries, entry, h⟩
  · exact absurd hnil m.ne
  · exact ⟨entries, entry, by rw [h, List.concat_eq_append]⟩

theorem trimEndChars_of_last {c : Char} (h : isWhiteSpace c = false) (cs : List Char) :
    trimEndChars (cs ++ [c]) = cs ++ [c] := by
  simp [trimEndChars, h]

/-- **What a merge writes**: the lines that are kept, and a line for each entry. -/
theorem mergeEnv_eq (existing : String) (m : EnvMap) : (mergeEnv existing m.entries).toList =
    unlines (keptLines existing m.entries ++ m.entries.map envLine) := by
  obtain ⟨entries, entry, hentries⟩ := m.entries_concat
  have hmem : entry ∈ m.entries := by simp [hentries]
  obtain ⟨line, c, hline, hc⟩ := envLine_last hmem
  have hlines : keptLines existing m.entries ++ m.entries.map envLine =
      (keptLines existing m.entries ++ entries.map envLine) ++ [envLine entry] := by
    simp [hentries]
  -- the last line ends in no blank, so that there is nothing to trim
  rw [mergeEnv, String.toList_ofList, hlines, intercalate_concat, hline, ← List.append_assoc,
    trimEndChars_of_last hc]
  simp

/-- What is written is made of lines. -/
theorem isLine_written (hexisting : LineText existing) :
    ∀ line ∈ keptLines existing m.entries ++ m.entries.map envLine, IsLine line := by
  intro line hmem
  rcases List.mem_append.mp hmem with hmem | hmem
  · exact hexisting line (List.mem_of_mem_filter (mem_others_of_kept hmem))
  · obtain ⟨entry, hentry, rfl⟩ := List.mem_map.mp hmem
    exact isLine_envLine hentry

/-- The merged file, line by line. -/
theorem splitLines_mergeEnv (hexisting : LineText existing) (m : EnvMap) :
    splitLines (mergeEnv existing m.entries).toList =
      keptLines existing m.entries ++ m.entries.map envLine ++ [[]] := by
  rw [mergeEnv_eq, splitLines_unlines (isLine_written hexisting)]

/-- The merged file can be read by lines again. -/
theorem lineText_mergeEnv (hexisting : LineText existing) (m : EnvMap) :
    LineText (mergeEnv existing m.entries) := by
  intro line hmem
  rw [splitLines_mergeEnv hexisting, List.mem_append, List.mem_singleton] at hmem
  rcases hmem with hmem | rfl
  · exact isLine_written hexisting line hmem
  · exact ⟨List.not_mem_nil, by simp⟩

theorem managed_nil (m : EnvMap) : managed m.entries [] = false := by
  rw [managed, List.any_eq_false]
  intro entry _ h
  obtain ⟨value, hvalue⟩ := assigns_iff.mp h
  simp at hvalue

/-- **A further merge** starts from the lines that were written. -/
theorem keptLines_mergeEnv (hexisting : LineText existing) (m m' : EnvMap) :
    keptLines (mergeEnv existing m.entries) m'.entries =
      (keptLines existing m.entries ++ m.entries.map envLine).filter
        fun line => !managed m'.entries line := by
  rw [keptLines_eq m'.keys, splitLines_mergeEnv hexisting, List.filter_append,
    List.filter_singleton, managed_nil]
  exact dropLastBlank_concat _

theorem assigns_envLine (entry : String × String) : assigns entry.1.toList (envLine entry) = true :=
  assigns_iff.mpr ⟨entry.2.toList, envLine_eq entry⟩

theorem managed_envLine (hmem : entry ∈ m.entries) : managed m.entries (envLine entry) = true :=
  List.any_eq_true.mpr ⟨entry, hmem, assigns_envLine entry⟩

/-- No line that is kept assigns a key that is written. -/
theorem not_managed_of_kept (h : line ∈ keptLines existing m.entries) :
    managed m.entries line = false := by
  simpa using (List.mem_filter.mp (mem_others_of_kept h)).2

/-- Merging the same entries again changes nothing. -/
theorem mergeEnv_again (hexisting : LineText existing) (m : EnvMap) :
    mergeEnv (mergeEnv existing m.entries) m.entries = mergeEnv existing m.entries := by
  have hkept : (keptLines existing m.entries).filter (fun line => !managed m.entries line) =
      keptLines existing m.entries :=
    List.filter_eq_self.mpr fun line h => by rw [not_managed_of_kept h]; rfl
  have hwritten : (m.entries.map envLine).filter (fun line => !managed m.entries line) = [] := by
    rw [List.filter_eq_nil_iff]
    intro line h
    obtain ⟨entry, hmem, rfl⟩ := List.mem_map.mp h
    rw [managed_envLine hmem]
    exact Bool.false_ne_true
  apply String.toList_inj.mp
  rw [mergeEnv_eq, mergeEnv_eq, keptLines_mergeEnv hexisting, List.filter_append, hkept, hwritten,
    List.append_nil]

/-- The lines of a text that assign a key. -/
def assignments (text : String) (key : String) : List (List Char) :=
  (splitLines text.toList).filter (assigns key.toList)

/-- No key is written twice. -/
theorem entry_of_key {entry' : String × String} (hmem : entry ∈ m.entries)
    (hmem' : entry' ∈ m.entries) (hkey : entry.1 = entry'.1) : entry = entry' :=
  List.inj_on_of_nodup_map m.distinct hmem hmem' hkey

/-- Among the lines of the entries, a key is assigned once. -/
theorem filter_assigns (hmem : entry ∈ m.entries) :
    (m.entries.map envLine).filter (assigns entry.1.toList) = [envLine entry] := by
  have hsame : ∀ entry' ∈ m.entries,
      (assigns entry.1.toList ∘ envLine) entry' = (entry' == entry) := by
    intro entry' hmem'
    rw [Bool.eq_iff_iff, beq_iff_eq]
    constructor
    · intro h
      have hkey := assigns_unique (m.keys entry hmem) (m.keys entry' hmem') h
        (assigns_envLine entry')
      exact (entry_of_key hmem hmem' (String.toList_inj.mp hkey)).symm
    · rintro rfl
      exact assigns_envLine entry'
  have hcount : m.entries.count entry = 1 :=
    List.count_eq_one_of_mem (List.Nodup.of_map _ m.distinct) hmem
  rw [List.filter_map, List.filter_congr hsame, List.filter_beq, hcount]
  rfl

theorem filter_assigns_nil {lines : List (List Char)} {key : String}
    (h : ∀ line ∈ lines, assigns key.toList line = false) :
    lines.filter (assigns key.toList) = [] := by
  rw [List.filter_eq_nil_iff]
  intro line hmem
  rw [h line hmem]
  exact Bool.false_ne_true

/-- A key of the entries is assigned in no line that is kept. -/
theorem not_assigns_of_kept (hmem : entry ∈ m.entries) (h : line ∈ keptLines existing m.entries) :
    assigns entry.1.toList line = false := by
  have hnot := List.any_eq_false.mp (not_managed_of_kept h) entry hmem
  simpa using hnot

theorem assigns_nil (key : String) : assigns key.toList [] = false := by
  rw [assigns]
  cases key.toList <;> rfl

/-- **One line for each key**, with its value. -/
theorem assignments_mergeEnv (hexisting : LineText existing)
    (hmem : entry ∈ m.entries) :
    assignments (mergeEnv existing m.entries) entry.1 = [envLine entry] := by
  rw [assignments, splitLines_mergeEnv hexisting, List.filter_append, List.filter_append,
    filter_assigns hmem, filter_assigns_nil fun line h => not_assigns_of_kept hmem h,
    List.filter_singleton, assigns_nil]
  rfl

/-! ### Merges -/

/-- **A merge leaves the other keys alone.** -/
theorem assignments_other {key : String} (hexisting : LineText existing)
    (hkey : isKey key.toList = true) (hother : ∀ entry ∈ m.entries, entry.1 ≠ key) :
    assignments (mergeEnv existing m.entries) key = assignments existing key := by
  have hdiffers : ∀ entry ∈ m.entries, ∀ line, assigns key.toList line = true →
      assigns entry.1.toList line = false := by
    intro entry hmem line h
    by_contra hassigns
    have heq := assigns_unique (m.keys entry hmem) hkey (Bool.not_eq_false _ ▸ hassigns) h
    exact hother entry hmem (String.toList_inj.mp heq)
  have hwritten : (m.entries.map envLine).filter (assigns key.toList) = [] := by
    apply filter_assigns_nil
    intro line hline
    obtain ⟨entry, hmem, rfl⟩ := List.mem_map.mp hline
    by_contra hassigns
    have hnot := hdiffers entry hmem _ (Bool.not_eq_false _ ▸ hassigns)
    rw [assigns_envLine] at hnot
    cases hnot
  have hothers : (others existing m).filter (assigns key.toList) = assignments existing key := by
    rw [others, List.filter_filter, assignments]
    apply List.filter_congr
    intro line _
    cases hassigns : assigns key.toList line with
    | false => rfl
    | true =>
        have hnot : managed m.entries line = false := by
          rw [managed, List.any_eq_false]
          intro entry hmem
          rw [hdiffers entry hmem line hassigns]
          exact Bool.false_ne_true
        rw [hnot]
        rfl
  have hnil : [([] : List Char)].filter (assigns key.toList) = [] := by
    rw [List.filter_singleton, assigns_nil]
    rfl
  have hkept : (keptLines existing m.entries).filter (assigns key.toList) =
      (others existing m).filter (assigns key.toList) := by
    rcases keptLines_cases existing m with h | h
    · rw [h]
    · rw [← h, List.filter_append, hnil, List.append_nil]
  rw [assignments, splitLines_mergeEnv hexisting, List.filter_append, List.filter_append, hwritten,
    hnil, hkept, hothers]
  simp

/-- What a merge has to do to a file: nothing is lost. -/
structure Lossless (existing : String) (m : EnvMap) : Prop where
  /-- One line for each key, with its value. -/
  assigned : ∀ entry ∈ m.entries,
    assignments (mergeEnv existing m.entries) entry.1 = [envLine entry]
  /-- The other lines are those that were there, in their order, but for an empty one at the end. -/
  kept : ∃ kept, (mergeEnv existing m.entries).toList = unlines (kept ++ m.entries.map envLine) ∧
    splitLines (mergeEnv existing m.entries).toList = kept ++ m.entries.map envLine ++ [[]] ∧
    (kept = others existing m ∨ kept ++ [[]] = others existing m)
  /-- There is one line feed at the end. -/
  feed : ∃ text c, (mergeEnv existing m.entries).toList = text ++ [c, '\n'] ∧ c ≠ '\n'
  again : mergeEnv (mergeEnv existing m.entries) m.entries = mergeEnv existing m.entries
  /-- A merge of other keys keeps these. -/
  beside : ∀ m' : EnvMap, (∀ entry ∈ m.entries, ∀ entry' ∈ m'.entries, entry.1 ≠ entry'.1) →
    ∀ entry ∈ m.entries ++ m'.entries,
      assignments (mergeEnv (mergeEnv existing m.entries) m'.entries) entry.1 = [envLine entry]

/-- The merged file ends in one line feed. -/
theorem mergeEnv_feed (existing : String) (m : EnvMap) :
    ∃ text c, (mergeEnv existing m.entries).toList = text ++ [c, '\n'] ∧ c ≠ '\n' := by
  obtain ⟨entries, entry, hentries⟩ := m.entries_concat
  have hmem : entry ∈ m.entries := by simp [hentries]
  obtain ⟨line, c, hline, hc⟩ := envLine_last hmem
  refine ⟨unlines (keptLines existing m.entries ++ entries.map envLine) ++ line, c, ?_, ?_⟩
  · rw [mergeEnv_eq, hentries]
    simp [hline]
  · rintro rfl
    exact absurd hc (by decide)

/-- **A merge loses nothing.** -/
theorem mergeEnv_lossless {existing : String} (hexisting : returnsFed existing.toList = true)
    (m : EnvMap) : Lossless existing m := by
  have htext := lineText_of_returnsFed hexisting
  refine ⟨fun entry hmem => assignments_mergeEnv htext hmem,
    ⟨_, mergeEnv_eq existing m, splitLines_mergeEnv htext m, keptLines_cases existing m⟩,
    mergeEnv_feed existing m, mergeEnv_again htext m, ?_⟩
  intro m' hapart entry hmem
  have htext' := lineText_mergeEnv htext m
  rcases List.mem_append.mp hmem with hmem | hmem
  · have hother := fun entry' hmem' => (hapart entry hmem entry' hmem').symm
    rw [assignments_other htext' (m.keys entry hmem) hother]
    exact assignments_mergeEnv htext hmem
  · exact assignments_mergeEnv htext' hmem

/-- A password that is replaced, with carriage returns in the old text. -/
theorem mergeEnv_replaces :
    returnsFed "KEEP=1\r\nPASSWORD=old\r\n".toList = true ∧
      Lossless "KEEP=1\r\nPASSWORD=old\r\n"
        { entries := [("PASSWORD", "new")]
          ne := by simp
          distinct := by simp
          keys := by decide +kernel
          unbroken := by decide +kernel
          closed := by decide +kernel } :=
  ⟨by decide +kernel, mergeEnv_lossless (by decide +kernel) _⟩

example : mergeEnv "KEEP=1\r\nPASSWORD=old\r\n" [("PASSWORD", "new")] =
    "KEEP=1\nPASSWORD=new\n" := by
  decide +kernel

end Entries

end Railway
