/-
ControlPlane/Js/LowerCase.lean

`toLowerCase`, over the character data of the standard.

The mapping of a text is that of its characters, but for a capital sigma, whose form depends on
the letters around it.  Which characters have a mapping, are letters with case or are skipped
between letters changes from one version of the standard to the next: `CaseTable` is this data,
with what every version says of it.  The laws here are about the characters that separate the
parts of a path and the blanks around it (`isMark`): they stay where they are, and the letters on
their two sides do not see each other.
-/
import ControlPlane.Js.Trim

namespace Js

/-- A blank, or a character that paths are made of. -/
def isMark (c : Char) : Bool := isWhiteSpace c || c == '/' || c == '\\' || c == '.'

/-- The data of the standard on lower case. -/
structure CaseTable where
  /-- The full mapping of a character; that of a capital sigma is not read. -/
  lower : Char → List Char
  cased : Char → Bool
  ignorable : Char → Bool
  lower_ne : ∀ c, lower c ≠ []
  /-- What is in lower case stays. -/
  lower_lower : ∀ c, c ≠ 'Σ' → ∀ d ∈ lower c, d ≠ 'Σ' ∧ lower d = [d]
  sigma : lower 'σ' = ['σ'] ∧ lower 'ς' = ['ς']
  lower_mark : ∀ c, isMark c = true → lower c = [c] ∧ cased c = false
  mark_lower : ∀ c, isMark c = false → ∀ d ∈ lower c, isMark d = false
  separators : ignorable '/' = false ∧ ignorable '\\' = false

variable (table : CaseTable)

/-- There is a letter with case next, behind characters that are skipped. -/
def CaseTable.reaches : List Char → Bool
  | [] => false
  | c :: rest => table.cased c || (table.ignorable c && CaseTable.reaches rest)

/-- The mapping of a character between two texts, the one before it backwards. -/
def CaseTable.lowerAt (before : List Char) (c : Char) (after : List Char) : List Char :=
  if c = 'Σ' then [if table.reaches before && !table.reaches after then 'ς' else 'σ']
  else table.lower c

/-- The lower case of a text, with what stands before it. -/
def CaseTable.lowerFrom : List Char → List Char → List Char
  | _, [] => []
  | before, c :: after =>
    table.lowerAt before c after ++ CaseTable.lowerFrom (c :: before) after

/-- `text.toLowerCase()` on characters -/
def lowerChars (cs : List Char) : List Char := table.lowerFrom [] cs

section Marks

variable {table} {before before' after cs u v : List Char} {c d : Char}

theorem isMark_white (h : isWhiteSpace c = true) : isMark c = true := by
  rw [isMark, h]
  rfl

theorem lowerAt_mark (h : isMark c = true) (before after : List Char) :
    table.lowerAt before c after = [c] := by
  have hsigma : c ≠ 'Σ' := by
    rintro rfl
    exact absurd h (by decide)
  rw [CaseTable.lowerAt, if_neg hsigma, (table.lower_mark c h).1]

theorem lowerAt_ne (before after : List Char) (c : Char) : table.lowerAt before c after ≠ [] := by
  rw [CaseTable.lowerAt]
  split
  · exact List.cons_ne_nil _ _
  · exact table.lower_ne c

/-- The mapping of no other character has a mark in it. -/
theorem not_mark_lowerAt (h : isMark c = false) :
    ∀ d ∈ table.lowerAt before c after, isMark d = false := by
  intro d hd
  rw [CaseTable.lowerAt] at hd
  split at hd
  · rw [List.mem_singleton] at hd
    subst hd
    split <;> decide
  · exact table.mark_lower c h d hd

theorem reaches_mark (h : isMark c = true) :
    table.reaches (c :: cs) = (table.ignorable c && table.reaches cs) := by
  rw [CaseTable.reaches, (table.lower_mark c h).2, Bool.false_or]

/-- What is before the text matters as far as it ends in a letter. -/
theorem lowerFrom_congr (h : table.reaches before = table.reaches before') :
    table.lowerFrom before cs = table.lowerFrom before' cs := by
  induction cs generalizing before before' with
  | nil => rfl
  | cons c cs ih =>
      have hcons : table.reaches (c :: before) = table.reaches (c :: before') := by
        rw [CaseTable.reaches, CaseTable.reaches, h]
      rw [CaseTable.lowerFrom, CaseTable.lowerFrom, ih hcons, CaseTable.lowerAt, CaseTable.lowerAt,
        h]

/-- **Marks in front stay.** -/
theorem lowerChars_marks_append (hu : ∀ c ∈ u, isMark c = true) (cs : List Char) :
    lowerChars table (u ++ cs) = u ++ lowerChars table cs := by
  have hrun : ∀ before, table.reaches before = false →
      table.lowerFrom before (u ++ cs) = u ++ table.lowerFrom [] cs := by
    induction u with
    | nil =>
        intro before hbefore
        exact lowerFrom_congr hbefore
    | cons c u ih =>
        intro before hbefore
        obtain ⟨hc, hu⟩ := List.forall_mem_cons.mp hu
        have hnext : table.reaches (c :: before) = false := by
          rw [reaches_mark hc, hbefore, Bool.and_false]
        rw [List.cons_append, CaseTable.lowerFrom, lowerAt_mark hc, ih hu _ hnext]
        rfl
  exact hrun [] rfl

theorem reaches_append_marks (hv : ∀ c ∈ v, isMark c = true) (cs : List Char) :
    table.reaches (cs ++ v) = table.reaches cs := by
  induction cs with
  | nil =>
      induction v with
      | nil => rfl
      | cons c v ih =>
          obtain ⟨hc, hv⟩ := List.forall_mem_cons.mp hv
          rw [List.nil_append] at ih ⊢
          rw [reaches_mark hc, ih hv, CaseTable.reaches, Bool.and_false]
  | cons c cs ih => rw [List.cons_append, CaseTable.reaches, CaseTable.reaches, ih]

theorem lowerFrom_marks (hv : ∀ c ∈ v, isMark c = true) (before : List Char) :
    table.lowerFrom before v = v := by
  induction v generalizing before with
  | nil => rfl
  | cons c v ih =>
      obtain ⟨hc, hv⟩ := List.forall_mem_cons.mp hv
      rw [CaseTable.lowerFrom, lowerAt_mark hc, ih hv]
      rfl

/-- **Marks behind stay.** -/
theorem lowerChars_append_marks (hv : ∀ c ∈ v, isMark c = true) (cs : List Char) :
    lowerChars table (cs ++ v) = lowerChars table cs ++ v := by
  have hrun : ∀ before, table.lowerFrom before (cs ++ v) = table.lowerFrom before cs ++ v := by
    induction cs with
    | nil => exact lowerFrom_marks hv
    | cons c cs ih =>
        intro before
        have hat : table.lowerAt before c (cs ++ v) = table.lowerAt before c cs := by
          rw [CaseTable.lowerAt, CaseTable.lowerAt, reaches_append_marks hv]
        rw [List.cons_append, CaseTable.lowerFrom, CaseTable.lowerFrom, ih, hat, List.append_assoc]
  exact hrun []

/-- A mark comes from itself only. -/
theorem mem_lowerAt_mark (hd : isMark d = true) :
    d ∈ table.lowerAt before c after ↔ c = d := by
  cases hc : isMark c with
  | true => rw [lowerAt_mark hc, List.mem_singleton, eq_comm]
  | false =>
      constructor
      · intro h
        have hnot := not_mark_lowerAt hc d h
        rw [hd] at hnot
        cases hnot
      · rintro rfl
        rw [hd] at hc
        cases hc

/-- A mark is first exactly where it was. -/
theorem lowerFrom_head? (hd : isMark d = true) :
    (table.lowerFrom before cs).head? = some d ↔ cs.head? = some d := by
  cases cs with
  | nil => simp [CaseTable.lowerFrom]
  | cons c cs =>
      rw [CaseTable.lowerFrom, List.head?_append_of_ne_nil _ (lowerAt_ne before cs c),
        List.head?_cons]
      constructor
      · intro h
        rw [(mem_lowerAt_mark hd).mp (List.mem_of_head? h)]
      · intro h
        obtain rfl := Option.some.inj h
        rw [lowerAt_mark hd, List.head?_cons]

theorem lowerFrom_ne (h : cs ≠ []) : table.lowerFrom before cs ≠ [] := by
  cases cs with
  | nil => exact absurd rfl h
  | cons c cs =>
      rw [CaseTable.lowerFrom]
      exact List.append_ne_nil_of_left_ne_nil (lowerAt_ne before cs c) _

/-- A mark is last exactly where it was. -/
theorem lowerFrom_getLast? (hd : isMark d = true) :
    (table.lowerFrom before cs).getLast? = some d ↔ cs.getLast? = some d := by
  induction cs generalizing before with
  | nil => simp [CaseTable.lowerFrom]
  | cons c cs ih =>
      rw [CaseTable.lowerFrom]
      cases cs with
      | nil =>
          rw [CaseTable.lowerFrom, List.append_nil]
          constructor
          · intro h
            rw [(mem_lowerAt_mark hd).mp (List.mem_of_getLast? h)]
            rfl
          · intro h
            have hc : c = d := Option.some.inj h
            subst hc
            rw [lowerAt_mark hd]
            rfl
      | cons e cs =>
          rw [List.getLast?_append_of_ne_nil _ (lowerFrom_ne (List.cons_ne_nil e cs)), ih]
          rfl

end Marks

/-! ### What is in lower case -/

section Lowered

variable {table} {before cs : List Char} {c d : Char}

theorem lowered_lowerFrom : ∀ d ∈ table.lowerFrom before cs, d ≠ 'Σ' ∧ table.lower d = [d] := by
  induction cs generalizing before with
  | nil => simp [CaseTable.lowerFrom]
  | cons c cs ih =>
      intro d hd
      rw [CaseTable.lowerFrom, List.mem_append] at hd
      rcases hd with hd | hd
      · rw [CaseTable.lowerAt] at hd
        split at hd
        · rw [List.mem_singleton] at hd
          subst hd
          split
          · exact ⟨by decide, table.sigma.2⟩
          · exact ⟨by decide, table.sigma.1⟩
        · rename_i hsigma
          exact table.lower_lower c hsigma d hd
      · exact ih d hd

theorem lowerFrom_of_lowered (h : ∀ d ∈ cs, d ≠ 'Σ' ∧ table.lower d = [d]) :
    table.lowerFrom before cs = cs := by
  induction cs generalizing before with
  | nil => rfl
  | cons c cs ih =>
      obtain ⟨⟨hsigma, hlower⟩, hcs⟩ := List.forall_mem_cons.mp h
      rw [CaseTable.lowerFrom, ih hcs, CaseTable.lowerAt, if_neg hsigma, hlower]
      rfl

end Lowered

/-! ### Slashes -/

/-- `text.replace(/\\/g, "/")`, a character at a time -/
def slash (c : Char) : Char := if c = '\\' then '/' else c

section Slashes

variable {table} {before after cs : List Char} {c : Char}

theorem slash_of_ne (h : c ≠ '\\') : slash c = c := if_neg h

theorem reaches_slash (cs : List Char) : table.reaches (cs.map slash) = table.reaches cs := by
  induction cs with
  | nil => rfl
  | cons c cs ih =>
      rw [List.map_cons]
      by_cases hc : c = '\\'
      · subst hc
        rw [show slash '\\' = '/' from rfl, reaches_mark (by decide), reaches_mark (by decide),
          table.separators.1, table.separators.2]
        rfl
      · rw [slash_of_ne hc, CaseTable.reaches, CaseTable.reaches, ih]

theorem lowerAt_slash : (table.lowerAt before c after).map slash =
    table.lowerAt (before.map slash) (slash c) (after.map slash) := by
  by_cases hc : c = '\\'
  · subst hc
    rw [show slash '\\' = '/' from rfl, lowerAt_mark (by decide), lowerAt_mark (by decide)]
    rfl
  · have hmap : (table.lowerAt before c after).map slash = table.lowerAt before c after := by
      refine (List.map_congr_left fun d hd => slash_of_ne ?_).trans (List.map_id _)
      rintro rfl
      exact hc ((mem_lowerAt_mark (by decide)).mp hd)
    rw [hmap, slash_of_ne hc, CaseTable.lowerAt, CaseTable.lowerAt, reaches_slash, reaches_slash]

/-- Slashes can be turned first. -/
theorem lowerChars_slash (cs : List Char) :
    (lowerChars table cs).map slash = lowerChars table (cs.map slash) := by
  have hrun : ∀ before, (table.lowerFrom before cs).map slash =
      table.lowerFrom (before.map slash) (cs.map slash) := by
    induction cs with
    | nil => intro before; rfl
    | cons c cs ih =>
        intro before
        rw [CaseTable.lowerFrom, List.map_append, lowerAt_slash, ih, List.map_cons, List.map_cons,
          CaseTable.lowerFrom]
  exact hrun []

end Slashes

/-! ### ASCII -/

section Ascii

variable {c : Char}

/-- `[A-Za-z]`. -/
def isAsciiLetter (c : Char) : Bool := ('A' ≤ c && c ≤ 'Z') || ('a' ≤ c && c ≤ 'z')

/-- The lower case of an ASCII letter. -/
def asciiLower (c : Char) : Char := if 'A' ≤ c && c ≤ 'Z' then Char.ofNat (c.toNat + 32) else c

theorem asciiLower_of_not_letter (h : isAsciiLetter c = false) : asciiLower c = c := by
  rw [isAsciiLetter, Bool.or_eq_false_iff] at h
  rw [asciiLower, h.1]
  rfl

theorem asciiLower_letter (h : isAsciiLetter c = true) :
    asciiLower c ≠ 'Σ' ∧ asciiLower (asciiLower c) = asciiLower c ∧
      isMark (asciiLower c) = false ∧ isMark c = false := by
  -- the letters are two runs of the table
  have hrun : ∀ n ∈ List.range' 65 58,
      isAsciiLetter (Char.ofNat n) = true → asciiLower (Char.ofNat n) ≠ 'Σ' ∧
        asciiLower (asciiLower (Char.ofNat n)) = asciiLower (Char.ofNat n) ∧
          isMark (asciiLower (Char.ofNat n)) = false ∧ isMark (Char.ofNat n) = false := by
    decide +kernel
  have hmem : c.toNat ∈ List.range' 65 58 := by
    simp only [isAsciiLetter, Bool.or_eq_true, Bool.and_eq_true, decide_eq_true_eq] at h
    rw [List.mem_range'_1]
    rcases h with ⟨hlow, hhigh⟩ | ⟨hlow, hhigh⟩
    · have hlow : 65 ≤ c.toNat := hlow
      have hhigh : c.toNat ≤ 90 := hhigh
      omega
    · have hlow : 97 ≤ c.toNat := hlow
      have hhigh : c.toNat ≤ 122 := hhigh
      omega
  have hc := hrun c.toNat hmem
  rw [Char.ofNat_toNat] at hc
  exact hc h

/-- The data on ASCII: no other character has a mapping. -/
def asciiCases : CaseTable where
  lower c := [asciiLower c]
  cased := isAsciiLetter
  -- the apostrophe, the full stop, the colon, the circumflex and the grave accent
  ignorable c := [39, 46, 58, 94, 96].contains c.toNat
  lower_ne _ := List.cons_ne_nil _ _
  lower_lower c hsigma d hd := by
    obtain rfl := List.mem_singleton.mp hd
    cases hletter : isAsciiLetter c with
    | true =>
        obtain ⟨hne, hself, -⟩ := asciiLower_letter hletter
        exact ⟨hne, by rw [hself]⟩
    | false =>
        rw [asciiLower_of_not_letter hletter, asciiLower_of_not_letter hletter]
        exact ⟨hsigma, rfl⟩
  sigma := by decide
  lower_mark c hc := by
    cases hletter : isAsciiLetter c with
    | true =>
        rw [(asciiLower_letter hletter).2.2.2] at hc
        cases hc
    | false => exact ⟨by rw [asciiLower_of_not_letter hletter], rfl⟩
  mark_lower c hc d hd := by
    obtain rfl := List.mem_singleton.mp hd
    cases hletter : isAsciiLetter c with
    | true => exact (asciiLower_letter hletter).2.2.1
    | false => rwa [asciiLower_of_not_letter hletter]
  separators := by decide

end Ascii

end Js
