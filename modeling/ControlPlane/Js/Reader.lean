/-
ControlPlane/Js/Reader.lean

A reader of JSON texts.

It reads a value off the front of a text and gives back what follows it, and skips
the blanks before each token; of members of one name the last counts, in the place of
the first, as `JSON.parse` has it.  Numbers are kept as they are written.  The fuel
bounds the depth of the recursion; twice the length of the text is enough.

The lemmas here are about the tokens: a quoted string is read back (`readString_quote`),
a word or a number up to the next character that is not its own (`readWord_number`).
What is read is distinct (`readDocument_distinct`).
-/
import ControlPlane.Js.Document
import ControlPlane.Js.Stringify
import Mathlib.Data.List.Nodup
import Mathlib.Data.List.TakeWhile

namespace Js

/-! ### Tokens -/

/-- The white space of JSON. -/
def isBlank (c : Char) : Bool := c == ' ' || c == '\n' || c == '\r' || c == '\t'

/-- What is left behind the white space. -/
def skipBlanks (cs : List Char) : List Char := cs.dropWhile isBlank

/-- The characters of a string up to the closing quote. -/
def readChars : ℕ → List Char → Option (List Char × List Char)
  | 0, _ => none
  | _ + 1, '"' :: rest => some ([], rest)
  | fuel + 1, cs => do
    let (c, rest) ← unquoteChar cs
    let (chars, rest) ← readChars fuel rest
    some (c :: chars, rest)

/-- A string whose opening quote was read. -/
def readString (cs : List Char) : Option (String × List Char) :=
  (readChars cs.length cs).map fun p => (String.ofList p.1, p.2)

/-- The characters of a finite number. -/
def isNumeric (c : Char) : Bool := c.isDigit || "+-.e".toList.contains c

theorem isNumberChar_of_isNumeric {c : Char} (h : isNumeric c = true) : isNumberChar c = true := by
  unfold isNumeric at h
  unfold isNumberChar
  rcases Bool.or_eq_true_iff.mp h with hdigit | hsign
  · rw [hdigit]
    rfl
  · have hmem : c ∈ ['+', '-', '.', 'e'] := List.contains_iff_mem.mp hsign
    have hsub : ['+', '-', '.', 'e'] ⊆ "+-.eInfityNa".toList := by decide
    rw [Bool.or_eq_true_iff]
    exact .inr (List.contains_iff_mem.mpr (hsub hmem))

theorem takeWhile_isNumeric_wf (cs : List Char) :
    (String.ofList (cs.takeWhile isNumeric)).toList.all isNumberChar = true := by
  rw [String.toList_ofList, List.all_eq_true]
  intro c hc
  exact isNumberChar_of_isNumeric (List.mem_takeWhile_imp hc)

/-- A number at the beginning, and what is left. -/
def readNumber (cs : List Char) : Option (Json × List Char) :=
  if cs.takeWhile isNumeric = [] then none
  else some (.num ⟨String.ofList (cs.takeWhile isNumeric), takeWhile_isNumeric_wf cs⟩,
    cs.dropWhile isNumeric)

/-- One of the three words, or a number. -/
def readWord (cs : List Char) : Option (Json × List Char) :=
  if cs.take 4 = ['n', 'u', 'l', 'l'] then some (.null, cs.drop 4)
  else if cs.take 4 = ['t', 'r', 'u', 'e'] then some (.bool true, cs.drop 4)
  else if cs.take 5 = ['f', 'a', 'l', 's', 'e'] then some (.bool false, cs.drop 5)
  else readNumber cs

/-! ### Values -/

/-- The members from one that was read and those after it: a later one of the same name
counts, in the place of this one. -/
def putFirst (name : String) (v : Json) (members : List (String × Json)) : List (String × Json) :=
  (name, (members.lookup name).getD v) :: members.filter fun p => p.1 ≠ name

mutual

/-- A value at the beginning, and what is left. -/
def readValue : ℕ → List Char → Option (Json × List Char)
  | 0, _ => none
  | fuel + 1, cs =>
    match skipBlanks cs with
    | '"' :: rest => (readString rest).map fun p => (.str p.1, p.2)
    | '[' :: rest =>
      match skipBlanks rest with
      | ']' :: rest => some (.arr [], rest)
      | rest => (readItems fuel rest).map fun p => (.arr p.1, p.2)
    | '\x7b' :: rest =>
      match skipBlanks rest with
      | '\x7d' :: rest => some (.obj [], rest)
      | rest => (readMembers fuel rest).map fun p => (.obj p.1, p.2)
    | cs => readWord cs

/-- The elements of an array that has one, and the closing bracket. -/
def readItems : ℕ → List Char → Option (List Json × List Char)
  | 0, _ => none
  | fuel + 1, cs => do
    let (j, rest) ← readValue fuel cs
    match skipBlanks rest with
    | ',' :: rest => (readItems fuel rest).map fun p => (j :: p.1, p.2)
    | ']' :: rest => some ([j], rest)
    | _ => none

/-- The members of an object that has one, and the closing brace. -/
def readMembers : ℕ → List Char → Option (List (String × Json) × List Char)
  | 0, _ => none
  | fuel + 1, cs =>
    match skipBlanks cs with
    | '"' :: rest => do
      let (name, rest) ← readString rest
      match skipBlanks rest with
      | ':' :: rest => do
        let (j, rest) ← readValue fuel rest
        match skipBlanks rest with
        | ',' :: rest => (readMembers fuel rest).map fun p => (putFirst name j p.1, p.2)
        | '\x7d' :: rest => some ([(name, j)], rest)
        | _ => none
      | _ => none
    | _ => none

end

-- unfolded here once, so that the proofs below need not wait for one another to do it
example (cs : List Char) :
    readValue 0 cs = none ∧ readItems 0 cs = none ∧ readMembers 0 cs = none := by
  simp only [readValue, readItems, readMembers, and_self]

/-- The document a text is. -/
def readDocument (text : String) : Except String Json :=
  match readValue (2 * text.toList.length) text.toList with
  | some (j, rest) =>
    if skipBlanks rest = [] then .ok j
    else .error "Unexpected non-whitespace character after JSON"
  | none => .error "Unexpected token"

/-! ### Reading tokens back -/

section Tokens

variable {cs lead rest : List Char} {c : Char}

/-- White space in front of anything else is skipped. -/
theorem skipBlanks_append (hlead : lead.all isBlank = true) (hc : isBlank c = false) :
    skipBlanks (lead ++ c :: rest) = c :: rest := by
  rw [skipBlanks, List.dropWhile_append_of_pos (List.all_eq_true.mp hlead),
    List.dropWhile_cons_of_neg (by rw [hc]; exact Bool.false_ne_true)]

theorem skipBlanks_cons (hc : isBlank c = false) : skipBlanks (c :: rest) = c :: rest := by
  have hnil : ([] : List Char).all isBlank = true := rfl
  exact skipBlanks_append hnil hc

theorem quoteChar_ne_nil (c : Char) : (quoteChar c).toList ≠ [] := by
  intro hnil
  have hread := unquoteChar_quoteChar c []
  rw [hnil] at hread
  cases hread

/-- A character that is read is not the closing quote. -/
theorem readChars_succ {fuel : ℕ} (h : unquoteChar cs = some (c, rest)) :
    readChars (fuel + 1) cs = (readChars fuel rest).map fun p => (c :: p.1, p.2) := by
  rw [readChars.eq_def]
  split
  · contradiction
  · cases h
  · next all fuel' heq _ =>
    obtain rfl := Nat.succ.inj heq
    rw [h]
    show (readChars fuel rest >>= fun p => some (c :: p.1, p.2)) = _
    cases readChars fuel rest with
    | none => rfl
    | some p => rfl

/-- The characters of a quoted string are read up to its closing quote. -/
theorem readChars_quoted {fuel : ℕ} (hfuel : cs.length < fuel) :
    readChars fuel ((cs.flatMap fun c => (quoteChar c).toList) ++ '"' :: rest) =
      some (cs, rest) := by
  induction cs generalizing fuel with
  | nil =>
      obtain ⟨fuel, rfl⟩ := Nat.exists_eq_succ_of_ne_zero (Nat.ne_of_gt hfuel)
      rfl
  | cons c cs ih =>
      obtain ⟨fuel, rfl⟩ := Nat.exists_eq_succ_of_ne_zero (Nat.ne_of_gt (Nat.zero_lt_of_lt hfuel))
      have hread := unquoteChar_quoteChar c
        ((cs.flatMap fun c => (quoteChar c).toList) ++ '"' :: rest)
      rw [List.flatMap_cons, List.append_assoc, readChars_succ hread,
        ih (Nat.lt_of_succ_lt_succ hfuel)]
      rfl

/-- Quoting makes no text shorter. -/
theorem length_le_flatMap_quoteChar (cs : List Char) :
    cs.length ≤ (cs.flatMap fun c => (quoteChar c).toList).length := by
  induction cs with
  | nil => exact Nat.le_refl 0
  | cons c cs ih =>
      have hc := List.length_pos_iff.mpr (quoteChar_ne_nil c)
      rw [List.flatMap_cons, List.length_append, List.length_cons]
      omega

/-- **A quoted string is read back.** -/
theorem readString_quote (s : String) (rest : List Char) :
    readString ((s.toList.flatMap fun c => (quoteChar c).toList) ++ '"' :: rest) =
      some (s, rest) := by
  have hfuel : s.toList.length <
      ((s.toList.flatMap fun c => (quoteChar c).toList) ++ '"' :: rest).length := by
    have hlength := length_le_flatMap_quoteChar s.toList
    rw [List.length_append, List.length_cons]
    omega
  rw [readString, readChars_quoted hfuel, Option.map_some, String.ofList_toList]

/-- A number of the characters a finite one is written in. -/
def Number.Numeric (n : Number) : Prop := n.text.toList ≠ [] ∧ n.text.toList.all isNumeric = true

/-- A number ends before such a text. -/
def Stops (rest : List Char) : Prop := ∀ c ∈ rest.head?, isNumeric c = false

theorem stops_nil : Stops [] := fun _ h => by cases h

theorem stops_cons (h : isNumeric c = false) : Stops (c :: rest) := fun d hd => by
  obtain rfl := Option.mem_some.mp hd
  exact h

/-- A number ends where nothing numeric goes on. -/
theorem takeWhile_numeric (h : cs.all isNumeric = true) (hrest : Stops rest) :
    (cs ++ rest).takeWhile isNumeric = cs ∧ (cs ++ rest).dropWhile isNumeric = rest := by
  have hall := List.all_eq_true.mp h
  rw [List.takeWhile_append_of_pos hall, List.dropWhile_append_of_pos hall]
  cases rest with
  | nil => exact ⟨List.append_nil cs, rfl⟩
  | cons d rest =>
      have hd : ¬ isNumeric d = true := by
        rw [hrest d rfl]
        exact Bool.false_ne_true
      rw [List.takeWhile_cons_of_neg hd, List.dropWhile_cons_of_neg hd, List.append_nil]
      exact ⟨rfl, rfl⟩

/-- A text that starts with a character of a number is no word. -/
theorem readWord_eq_readNumber (hc : isNumeric c = true) :
    readWord (c :: rest) = readNumber (c :: rest) := by
  have hne : ∀ {d : Char} {n : ℕ} {word : List Char}, isNumeric d = false →
      (c :: rest).take (n + 1) ≠ d :: word := by
    intro d n word hd heq
    rw [List.take_succ_cons] at heq
    rw [(List.cons.inj heq).1, hd] at hc
    cases hc
  rw [readWord, if_neg (hne (by decide)), if_neg (hne (by decide)), if_neg (hne (by decide))]

/-- **A number is read back**, up to what follows it. -/
theorem readWord_number {n : Number} (hn : n.Numeric) (hrest : Stops rest) :
    readWord (n.text.toList ++ rest) = some (.num n, rest) := by
  obtain ⟨hne, hall⟩ := hn
  obtain ⟨htake, hdrop⟩ := takeWhile_numeric hall hrest
  have hword : readWord (n.text.toList ++ rest) = readNumber (n.text.toList ++ rest) := by
    cases htext : n.text.toList with
    | nil => exact absurd htext hne
    | cons c cs =>
        rw [htext, List.all_cons, Bool.and_eq_true] at hall
        exact readWord_eq_readNumber hall.1
  rw [hword, readNumber, if_neg (by rw [htake]; exact hne), hdrop]
  congr 3
  obtain ⟨text, wf⟩ := n
  congr 1
  rw [htake, String.ofList_toList]

end Tokens

/-! ### What the next token says -/

section Steps

variable {cs rest after : List Char} {c : Char} {fuel : ℕ} {j : Json} {name : String}

theorem readValue_string (h : skipBlanks cs = '"' :: rest) :
    readValue (fuel + 1) cs = (readString rest).map fun p => (.str p.1, p.2) := by
  rw [readValue, h]
  rfl

/-- A value that is no string, array or object is a word or a number. -/
theorem readValue_word (h : skipBlanks cs = c :: rest) (hstring : c ≠ '"') (harray : c ≠ '[')
    (hobject : c ≠ '\x7b') : readValue (fuel + 1) cs = readWord (c :: rest) := by
  rw [readValue, h]
  split
  · next heq => exact absurd (List.cons.inj heq).1 hstring
  · next heq => exact absurd (List.cons.inj heq).1 harray
  · next heq => exact absurd (List.cons.inj heq).1 hobject
  · rfl

theorem readValue_empty_array (h : skipBlanks cs = '[' :: rest)
    (hend : skipBlanks rest = ']' :: after) : readValue (fuel + 1) cs = some (.arr [], after) := by
  simp only [readValue, h, hend]

theorem readValue_array (h : skipBlanks cs = '[' :: rest) (hnext : skipBlanks rest = c :: after)
    (hc : c ≠ ']') :
    readValue (fuel + 1) cs = (readItems fuel (c :: after)).map fun p => (.arr p.1, p.2) := by
  simp only [readValue, h, hnext]
  split
  · next heq => exact absurd (List.cons.inj heq).1 hc
  · rfl

theorem readValue_empty_object (h : skipBlanks cs = '\x7b' :: rest)
    (hend : skipBlanks rest = '\x7d' :: after) :
    readValue (fuel + 1) cs = some (.obj [], after) := by
  simp only [readValue, h, hend]

theorem readValue_object (h : skipBlanks cs = '\x7b' :: rest)
    (hnext : skipBlanks rest = c :: after) (hc : c ≠ '\x7d') :
    readValue (fuel + 1) cs = (readMembers fuel (c :: after)).map fun p => (.obj p.1, p.2) := by
  simp only [readValue, h, hnext]
  split
  · next heq => exact absurd (List.cons.inj heq).1 hc
  · rfl

theorem readItems_comma (h : readValue fuel cs = some (j, rest))
    (hnext : skipBlanks rest = ',' :: after) :
    readItems (fuel + 1) cs = (readItems fuel after).map fun p => (j :: p.1, p.2) := by
  rw [readItems, h]
  dsimp only [Option.bind_eq_bind, Option.bind_some]
  rw [hnext]
  rfl

theorem readItems_end (h : readValue fuel cs = some (j, rest))
    (hnext : skipBlanks rest = ']' :: after) : readItems (fuel + 1) cs = some ([j], after) := by
  rw [readItems, h]
  dsimp only [Option.bind_eq_bind, Option.bind_some]
  rw [hnext]
  rfl

theorem readMembers_comma {colon value : List Char} (h : skipBlanks cs = '"' :: rest)
    (hname : readString rest = some (name, colon)) (hcolon : skipBlanks colon = ':' :: value)
    {next : List Char} (hvalue : readValue fuel value = some (j, next))
    (hnext : skipBlanks next = ',' :: after) :
    readMembers (fuel + 1) cs =
      (readMembers fuel after).map fun p => (putFirst name j p.1, p.2) := by
  simp only [readMembers, h, hname, Option.bind_eq_bind, Option.bind_some, hcolon, hvalue, hnext]

theorem readMembers_end {colon value : List Char} (h : skipBlanks cs = '"' :: rest)
    (hname : readString rest = some (name, colon)) (hcolon : skipBlanks colon = ':' :: value)
    {next : List Char} (hvalue : readValue fuel value = some (j, next))
    (hnext : skipBlanks next = '\x7d' :: after) :
    readMembers (fuel + 1) cs = some ([(name, j)], after) := by
  simp only [readMembers, h, hname, Option.bind_eq_bind, Option.bind_some, hcolon, hvalue, hnext]

end Steps

/-! ### What is read -/

section Read

variable {cs rest : List Char} {j : Json} {name : String} {members : List (String × Json)}

/-- A number has no names. -/
theorem readNumber_distinct (h : readNumber cs = some (j, rest)) : Distinct j := by
  unfold readNumber at h
  split_ifs at h
  obtain ⟨rfl, -⟩ := Prod.mk.inj (Option.some.inj h)
  exact .num

/-- Nor has a word. -/
theorem readWord_distinct (h : readWord cs = some (j, rest)) : Distinct j := by
  unfold readWord at h
  split_ifs at h
  · obtain ⟨rfl, -⟩ := Prod.mk.inj (Option.some.inj h)
    exact .null
  · obtain ⟨rfl, -⟩ := Prod.mk.inj (Option.some.inj h)
    exact .bool
  · obtain ⟨rfl, -⟩ := Prod.mk.inj (Option.some.inj h)
    exact .bool
  · exact readNumber_distinct h

/-- A name that is there is not put in again. -/
theorem putFirst_names (h : (members.map Prod.fst).Nodup) :
    ((putFirst name j members).map Prod.fst).Nodup := by
  show (name :: (members.filter fun p => p.1 ≠ name).map Prod.fst).Nodup
  refine List.nodup_cons.mpr ⟨?_, h.sublist (List.filter_sublist.map _)⟩
  intro hmem
  obtain ⟨p, hp, hname⟩ := List.mem_map.mp hmem
  exact absurd hname (of_decide_eq_true (List.mem_filter.mp hp).2)

theorem putFirst_distinct (hj : Distinct j) (h : ∀ p ∈ members, Distinct p.2) :
    ∀ p ∈ putFirst name j members, Distinct p.2 := by
  intro p hp
  rcases List.mem_cons.mp hp with rfl | hp
  · cases hlookup : members.lookup name with
    | none => exact hj
    | some v => exact h _ (mem_of_lookup hlookup)
  · exact h p (List.mem_of_mem_filter hp)

/-- A member that comes with a new name is put before the others. -/
theorem putFirst_of_new (h : name ∉ members.map Prod.fst) :
    putFirst name j members = (name, j) :: members := by
  have hlookup : members.lookup name = none := by
    rw [List.lookup_eq_none_iff]
    intro p hp
    have hne : name ≠ p.1 := fun heq => h (List.mem_map.mpr ⟨p, hp, heq.symm⟩)
    simpa using hne
  have hfilter : (members.filter fun p => p.1 ≠ name) = members := by
    rw [List.filter_eq_self]
    intro p hp
    exact decide_eq_true fun heq => h (List.mem_map.mpr ⟨p, hp, heq⟩)
  rw [putFirst, hlookup, hfilter]
  rfl

/-- What is read has distinct names, if its parts have. -/
theorem readValue_distinct {fuel : ℕ}
    (hitems : ∀ cs items rest, readItems fuel cs = some (items, rest) → ∀ j ∈ items, Distinct j)
    (hmembers : ∀ cs members rest, readMembers fuel cs = some (members, rest) →
      (members.map Prod.fst).Nodup ∧ ∀ p ∈ members, Distinct p.2)
    (h : readValue (fuel + 1) cs = some (j, rest)) : Distinct j := by
  rw [readValue] at h
  split at h
  · obtain ⟨p, -, hp⟩ := Option.map_eq_some_iff.mp h
    obtain ⟨rfl, -⟩ := Prod.mk.inj hp
    exact .str
  · split at h
    · obtain ⟨rfl, -⟩ := Prod.mk.inj (Option.some.inj h)
      exact .arr fun j hj => by cases hj
    · obtain ⟨⟨items, after⟩, hread, hp⟩ := Option.map_eq_some_iff.mp h
      obtain ⟨rfl, -⟩ := Prod.mk.inj hp
      exact .arr (hitems _ _ _ hread)
  · split at h
    · obtain ⟨rfl, -⟩ := Prod.mk.inj (Option.some.inj h)
      exact .obj List.nodup_nil fun p hp => by cases hp
    · obtain ⟨⟨members, after⟩, hread, hp⟩ := Option.map_eq_some_iff.mp h
      obtain ⟨rfl, -⟩ := Prod.mk.inj hp
      obtain ⟨hnames, hdistinct⟩ := hmembers _ _ _ hread
      exact .obj hnames hdistinct
  · exact readWord_distinct h

/-- What the three readers give, by the fuel they have. -/
theorem read_distinct (fuel : ℕ) :
    (∀ cs j rest, readValue fuel cs = some (j, rest) → Distinct j) ∧
    (∀ cs items rest, readItems fuel cs = some (items, rest) → ∀ j ∈ items, Distinct j) ∧
    ∀ cs members rest, readMembers fuel cs = some (members, rest) →
      (members.map Prod.fst).Nodup ∧ ∀ p ∈ members, Distinct p.2 := by
  induction fuel with
  | zero =>
      refine ⟨?_, ?_, ?_⟩
      · intro cs j rest h
        cases h
      · intro cs items rest h
        cases h
      · intro cs members rest h
        cases h
  | succ fuel ih =>
      obtain ⟨hvalue, hitems, hmembers⟩ := ih
      refine ⟨fun cs j rest => readValue_distinct hitems hmembers, ?_, ?_⟩
      · intro cs items rest h
        rw [readItems] at h
        obtain ⟨⟨j, after⟩, hread, h⟩ := Option.bind_eq_some_iff.mp h
        have hj := hvalue _ _ _ hread
        dsimp only at h
        split at h
        · obtain ⟨⟨others, last⟩, hothers, hp⟩ := Option.map_eq_some_iff.mp h
          obtain ⟨rfl, -⟩ := Prod.mk.inj hp
          exact List.forall_mem_cons.mpr ⟨hj, hitems _ _ _ hothers⟩
        · obtain ⟨rfl, -⟩ := Prod.mk.inj (Option.some.inj h)
          exact List.forall_mem_singleton.mpr hj
        · cases h
      · intro cs members rest h
        rw [readMembers] at h
        split at h
        · obtain ⟨⟨name, after⟩, -, h⟩ := Option.bind_eq_some_iff.mp h
          dsimp only at h
          split at h
          · obtain ⟨⟨j, last⟩, hread, h⟩ := Option.bind_eq_some_iff.mp h
            have hj := hvalue _ _ _ hread
            dsimp only at h
            split at h
            · obtain ⟨⟨others, more⟩, hothers, hp⟩ := Option.map_eq_some_iff.mp h
              obtain ⟨rfl, -⟩ := Prod.mk.inj hp
              obtain ⟨hnames, hdistinct⟩ := hmembers _ _ _ hothers
              exact ⟨putFirst_names hnames, putFirst_distinct hj hdistinct⟩
            · obtain ⟨rfl, -⟩ := Prod.mk.inj (Option.some.inj h)
              exact ⟨List.nodup_singleton _, List.forall_mem_singleton.mpr hj⟩
            · cases h
          · cases h
        · cases h

/-- **What is read names no member twice.** -/
theorem readDocument_distinct {text : String} (h : readDocument text = .ok j) : Distinct j := by
  unfold readDocument at h
  split at h
  · next j' rest hread =>
    split_ifs at h
    obtain rfl := Except.ok.inj h
    exact (read_distinct _).1 _ _ _ hread
  · cases h

/-- A word that is a number has the characters of one. -/
theorem readWord_numeric {n : Number} (h : readWord cs = some (.num n, rest)) : n.Numeric := by
  unfold readWord at h
  split_ifs at h
  · cases h
  · cases h
  · cases h
  · unfold readNumber at h
    split_ifs at h with hnil
    obtain ⟨hnum, -⟩ := Prod.mk.inj (Option.some.inj h)
    rw [← Json.num.inj hnum, Number.Numeric, String.toList_ofList]
    refine ⟨hnil, List.all_eq_true.mpr fun c hc => ?_⟩
    exact List.mem_takeWhile_imp hc

/-- **A number is read in digits.** -/
theorem readDocument_numeric {text : String} {n : Number} (h : readDocument text = .ok (.num n)) :
    n.Numeric := by
  unfold readDocument at h
  split at h
  · next j' rest hread =>
    split_ifs at h
    obtain rfl := Except.ok.inj h
    cases hfuel : 2 * text.toList.length with
    | zero =>
        rw [hfuel] at hread
        cases hread
    | succ fuel =>
        rw [hfuel, readValue] at hread
        split at hread
        · obtain ⟨p, -, hp⟩ := Option.map_eq_some_iff.mp hread
          cases hp
        · split at hread
          · cases hread
          · obtain ⟨p, -, hp⟩ := Option.map_eq_some_iff.mp hread
            cases hp
        · split at hread
          · cases hread
          · obtain ⟨p, -, hp⟩ := Option.map_eq_some_iff.mp hread
            cases hp
        · exact readWord_numeric hread
  · cases h

end Read

end Js
