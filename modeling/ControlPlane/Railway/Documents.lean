/-
ControlPlane/Railway/Documents.lean

An indented text is read back (`readDocument_stringifyIndented`).

After an element of an array comes a comma and the next one on a line of its own, or
the closing bracket on its line (`itemsTail`), and so for the members of an object
(`membersTail`).  The induction is on the fuel of the reader: what is inside a value is
read with less of it.
-/
import ControlPlane.Railway.Instance
import ControlPlane.Js.Reader

namespace Railway

open Js

/-! ### The text -/

/-- The end of a line and the blanks of the next. -/
def lineBreak (depth : ℕ) : List Char := '\n' :: (indent depth).toList

/-- What follows an element of an array at this depth. -/
def itemsTail (depth : ℕ) : List Json → List Char
  | [] => lineBreak depth ++ [']']
  | j :: rest =>
    ',' :: (lineBreak (depth + 1) ++ (stringifyIndented (depth + 1) j).toList) ++
      itemsTail depth rest

/-- A member of an object. -/
def memberText (depth : ℕ) (name : String) (j : Json) : List Char :=
  '"' :: (name.toList.flatMap fun c => (quoteChar c).toList) ++
    '"' :: ':' :: ' ' :: (stringifyIndented depth j).toList

/-- What follows a member of an object at this depth. -/
def membersTail (depth : ℕ) : List (String × Json) → List Char
  | [] => lineBreak depth ++ ['\x7d']
  | (name, j) :: rest =>
    ',' :: (lineBreak (depth + 1) ++ memberText (depth + 1) name j) ++ membersTail depth rest

section Text

variable {depth : ℕ} {j : Json} {name : String}

theorem toList_member (depth : ℕ) (name : String) (j : Json) :
    (quote name ++ ": " ++ stringifyIndented depth j).toList = memberText depth name j := by
  rw [String.toList_append, String.toList_append, toList_quote, memberText]
  show _ ++ [':', ' '] ++ _ = _
  simp

/-- The elements of an array, first and rest. -/
theorem toList_items (depth : ℕ) (j : Json) (items : List Json) :
    ((",\n" ++ indent (depth + 1)).intercalate (itemsIndented (depth + 1) (j :: items))).toList ++
        (lineBreak depth ++ [']']) =
      (stringifyIndented (depth + 1) j).toList ++ itemsTail depth items := by
  induction items generalizing j with
  | nil =>
      show (String.intercalate _ [stringifyIndented (depth + 1) j]).toList ++ _ = _
      rw [String.intercalate_singleton]
      rfl
  | cons j' items ih =>
      show (String.intercalate _ (stringifyIndented (depth + 1) j ::
        stringifyIndented (depth + 1) j' :: itemsIndented (depth + 1) items)).toList ++ _ = _
      rw [String.intercalate_cons_cons, String.toList_append, String.toList_append,
        List.append_assoc, List.append_assoc]
      have hrest := ih j'
      change (String.intercalate _ (stringifyIndented (depth + 1) j' ::
        itemsIndented (depth + 1) items)).toList ++ _ = _ at hrest
      rw [hrest, String.toList_append]
      show _ ++ ((',' :: lineBreak (depth + 1)) ++ _) = _
      simp [itemsTail]

/-- The members of an object, first and rest. -/
theorem toList_members (depth : ℕ) (name : String) (j : Json) (fields : List (String × Json)) :
    ((",\n" ++ indent (depth + 1)).intercalate
        (fieldsIndented (depth + 1) ((name, j) :: fields))).toList ++
        (lineBreak depth ++ ['\x7d']) =
      memberText (depth + 1) name j ++ membersTail depth fields := by
  induction fields generalizing name j with
  | nil =>
      show (String.intercalate _ [quote name ++ ": " ++ stringifyIndented (depth + 1) j]).toList ++
        _ = _
      rw [String.intercalate_singleton, toList_member]
      rfl
  | cons field fields ih =>
      obtain ⟨name', j'⟩ := field
      show (String.intercalate _ ((quote name ++ ": " ++ stringifyIndented (depth + 1) j) ::
        (quote name' ++ ": " ++ stringifyIndented (depth + 1) j') ::
          fieldsIndented (depth + 1) fields)).toList ++ _ = _
      rw [String.intercalate_cons_cons, String.toList_append, String.toList_append,
        List.append_assoc, List.append_assoc, toList_member]
      have hrest := ih name' j'
      change (String.intercalate _ ((quote name' ++ ": " ++ stringifyIndented (depth + 1) j') ::
        fieldsIndented (depth + 1) fields)).toList ++ _ = _ at hrest
      rw [hrest, String.toList_append]
      show _ ++ ((',' :: lineBreak (depth + 1)) ++ _) = _
      simp [membersTail]

/-- An array that is not empty, from its bracket on. -/
theorem toList_array (depth : ℕ) (j : Json) (items : List Json) :
    (stringifyIndented depth (.arr (j :: items))).toList =
      '[' :: (lineBreak (depth + 1) ++ (stringifyIndented (depth + 1) j).toList) ++
        itemsTail depth items := by
  have hitems := toList_items depth j items
  rw [stringifyIndented]
  simp only [String.toList_append, List.append_assoc]
  show '[' :: (lineBreak (depth + 1) ++ (_ ++ (lineBreak depth ++ [']']))) = _
  rw [hitems]
  simp

/-- An object that is not empty, from its brace on. -/
theorem toList_object (depth : ℕ) (name : String) (j : Json) (fields : List (String × Json)) :
    (stringifyIndented depth (.obj ((name, j) :: fields))).toList =
      '\x7b' :: (lineBreak (depth + 1) ++ memberText (depth + 1) name j) ++
        membersTail depth fields := by
  have hmembers := toList_members depth name j fields
  rw [stringifyIndented]
  simp only [String.toList_append, List.append_assoc]
  show '\x7b' :: (lineBreak (depth + 1) ++ (_ ++ (lineBreak depth ++ ['\x7d']))) = _
  rw [hmembers]
  simp

/-- A line break with its indent is white space. -/
theorem lineBreak_blank (depth : ℕ) : (lineBreak depth).all isBlank = true := by
  rw [lineBreak, List.all_cons, indent, String.toList_ofList, List.all_replicate]
  simp [isBlank]

end Text

/-! ### Reading it back -/

/-- A document whose text is read back: no name comes twice, and its numbers are written
in digits. -/
structure Readable (j : Json) : Prop where
  distinct : Distinct j
  numeric : ∀ n, NumberIn n j → n.Numeric

section Readable

variable {depth : ℕ} {j : Json} {name : String} {items : List Json}
  {fields : List (String × Json)} {rest : List Char} {n : Number}

/-- The elements of what can be read back can be. -/
theorem Readable.item (h : Readable (.arr items)) (hj : j ∈ items) : Readable j :=
  ⟨h.distinct.item j hj, fun n hn => h.numeric n (.item hj hn)⟩

/-- The members of what can be read back can be. -/
theorem Readable.member (h : Readable (.obj fields)) {p : String × Json} (hp : p ∈ fields) :
    Readable p.2 :=
  ⟨h.distinct.member p hp, fun n hn => h.numeric n (.member hp hn)⟩

/-- A number in digits is written as it is. -/
theorem stringify_numeric (hn : n.Numeric) : (Json.num n).stringify = n.text := by
  have hinfinite : n.text ∉ ["Infinity", "-Infinity", "NaN"] := by
    intro hmem
    simp only [List.mem_cons, List.not_mem_nil, or_false] at hmem
    obtain ⟨-, hall⟩ := hn
    rcases hmem with htext | htext | htext
    · rw [htext] at hall
      exact absurd hall (by decide)
    · rw [htext] at hall
      exact absurd hall (by decide)
    · rw [htext] at hall
      exact absurd hall (by decide)
  rw [Json.stringify, if_neg hinfinite]

theorem isNumeric_ne {c d : Char} (hc : isNumeric c = true) (hd : isNumeric d = false) : c ≠ d := by
  rintro rfl
  rw [hc] at hd
  cases hd

theorem text_null (depth : ℕ) : (stringifyIndented depth .null).toList = ['n', 'u', 'l', 'l'] := by
  rw [stringifyIndented]
  rfl

theorem text_true (depth : ℕ) :
    (stringifyIndented depth (.bool true)).toList = ['t', 'r', 'u', 'e'] := by
  rw [stringifyIndented]
  rfl

theorem text_false (depth : ℕ) :
    (stringifyIndented depth (.bool false)).toList = ['f', 'a', 'l', 's', 'e'] := by
  rw [stringifyIndented]
  rfl

theorem text_number (depth : ℕ) (hn : n.Numeric) :
    (stringifyIndented depth (.num n)).toList = n.text.toList := by
  rw [stringifyIndented, stringify_numeric hn]

theorem text_string (depth : ℕ) (s : String) : (stringifyIndented depth (.str s)).toList =
    '"' :: (s.toList.flatMap fun c => (quoteChar c).toList) ++ ['"'] := by
  rw [stringifyIndented]
  exact toList_quote s

theorem text_empty_array (depth : ℕ) :
    (stringifyIndented depth (.arr [])).toList = ['[', ']'] := by
  rw [stringifyIndented]
  rfl

theorem text_empty_object (depth : ℕ) :
    (stringifyIndented depth (.obj [])).toList = ['\x7b', '\x7d'] := by
  rw [stringifyIndented]
  rfl

/-- The first character of a text. -/
theorem text_cons (h : Readable j) (depth : ℕ) : ∃ c cs,
    (stringifyIndented depth j).toList = c :: cs ∧ isBlank c = false ∧ c ≠ ']' := by
  cases j with
  | null => exact ⟨'n', _, text_null depth, by decide, by decide⟩
  | bool b =>
      cases b with
      | true => exact ⟨'t', _, text_true depth, by decide, by decide⟩
      | false => exact ⟨'f', _, text_false depth, by decide, by decide⟩
  | num n =>
      have hn := h.numeric n .self
      rw [text_number depth hn]
      obtain ⟨hne, hall⟩ := hn
      cases hchars : n.text.toList with
      | nil => exact absurd hchars hne
      | cons c cs =>
          rw [hchars, List.all_cons, Bool.and_eq_true] at hall
          refine ⟨c, cs, rfl, ?_, isNumeric_ne hall.1 (by decide)⟩
          have h₁ : c ≠ ' ' := isNumeric_ne hall.1 (by decide)
          have h₂ : c ≠ '\n' := isNumeric_ne hall.1 (by decide)
          have h₃ : c ≠ '\r' := isNumeric_ne hall.1 (by decide)
          have h₄ : c ≠ '\t' := isNumeric_ne hall.1 (by decide)
          simp [isBlank, h₁, h₂, h₃, h₄]
  | str s =>
      rw [text_string]
      exact ⟨'"', _, rfl, by decide, by decide⟩
  | arr items =>
      cases items with
      | nil => exact ⟨'[', _, text_empty_array depth, by decide, by decide⟩
      | cons j items =>
          rw [toList_array]
          exact ⟨'[', _, rfl, by decide, by decide⟩
  | obj fields =>
      cases fields with
      | nil => exact ⟨'\x7b', _, text_empty_object depth, by decide, by decide⟩
      | cons field fields =>
          rw [toList_object]
          exact ⟨'\x7b', _, rfl, by decide, by decide⟩

/-- No number goes on behind an element. -/
theorem itemsTail_stops : Stops (itemsTail depth items ++ rest) := by
  cases items with
  | nil => exact stops_cons (by decide)
  | cons j items => exact stops_cons (by decide)

/-- No number goes on behind a member. -/
theorem membersTail_stops : Stops (membersTail depth fields ++ rest) := by
  cases fields with
  | nil => exact stops_cons (by decide)
  | cons field fields => exact stops_cons (by decide)

end Readable

/-- With this fuel a value is read off the front of a text that starts with blanks. -/
def ReadsValue (fuel : ℕ) : Prop :=
  ∀ j depth lead rest, Readable j → lead.all isBlank = true → Stops rest →
    2 * (lead ++ ((stringifyIndented depth j).toList ++ rest)).length ≤ fuel →
    readValue fuel (lead ++ ((stringifyIndented depth j).toList ++ rest)) = some (j, rest)

/-- With this fuel, what is read as items is what they are written as. -/
def ReadsItems (fuel : ℕ) : Prop :=
  ∀ j items depth lead rest, (∀ x ∈ j :: items, Readable x) → lead.all isBlank = true →
    2 * (lead ++ ((stringifyIndented (depth + 1) j).toList ++
      (itemsTail depth items ++ rest))).length + 1 ≤ fuel →
    readItems fuel (lead ++ ((stringifyIndented (depth + 1) j).toList ++
      (itemsTail depth items ++ rest))) = some (j :: items, rest)

/-- With this fuel, what is read as members is what they are written as. -/
def ReadsMembers (fuel : ℕ) : Prop :=
  ∀ name j fields depth lead rest, (((name, j) :: fields).map Prod.fst).Nodup →
    (∀ p ∈ (name, j) :: fields, Readable p.2) → lead.all isBlank = true →
    2 * (lead ++ (memberText (depth + 1) name j ++ (membersTail depth fields ++ rest))).length + 1 ≤
      fuel →
    readMembers fuel (lead ++ (memberText (depth + 1) name j ++
      (membersTail depth fields ++ rest))) = some ((name, j) :: fields, rest)

section Reading

variable {fuel : ℕ}

/-- With more fuel the elements are read, one value and then the rest. -/
theorem readsItems_succ (hvalue : ReadsValue fuel) (hitems : ReadsItems fuel) :
    ReadsItems (fuel + 1) := by
  intro j items depth lead rest hreadable hlead hfuel
  obtain ⟨hj, hrest⟩ := List.forall_mem_cons.mp hreadable
  have hread := hvalue j (depth + 1) lead (itemsTail depth items ++ rest) hj hlead itemsTail_stops
    (Nat.le_of_lt_succ hfuel)
  cases items with
  | nil =>
      refine readItems_end hread ?_
      show skipBlanks ((lineBreak depth ++ [']']) ++ rest) = ']' :: rest
      rw [List.append_assoc]
      exact skipBlanks_append (lineBreak_blank depth) (by decide)
  | cons next items =>
      have hafter : itemsTail depth (next :: items) ++ rest =
          ',' :: (lineBreak (depth + 1) ++ ((stringifyIndented (depth + 1) next).toList ++
            (itemsTail depth items ++ rest))) := by
        simp [itemsTail]
      rw [hafter] at hread hfuel ⊢
      rw [readItems_comma hread (skipBlanks_cons (by decide)),
        hitems next items depth _ rest hrest (lineBreak_blank _) ?_]
      · rfl
      · simp only [List.length_append, List.length_cons] at hfuel ⊢
        omega

/-- With more fuel the members are read, one value and then the rest. -/
theorem readsMembers_succ (hvalue : ReadsValue fuel) (hmembers : ReadsMembers fuel) :
    ReadsMembers (fuel + 1) := by
  intro name j fields depth lead rest hnames hreadable hlead hfuel
  obtain ⟨hj, hrest⟩ := List.forall_mem_cons.mp hreadable
  obtain ⟨hnew, hnodup⟩ := List.nodup_cons.mp hnames
  have hmember : memberText (depth + 1) name j ++ (membersTail depth fields ++ rest) =
      '"' :: ((name.toList.flatMap fun c => (quoteChar c).toList) ++ '"' :: (':' :: ([' '] ++
        ((stringifyIndented (depth + 1) j).toList ++ (membersTail depth fields ++ rest))))) := by
    simp [memberText]
  rw [hmember] at hfuel ⊢
  have hquote : skipBlanks (lead ++ '"' :: ((name.toList.flatMap fun c => (quoteChar c).toList) ++
      '"' :: (':' :: ([' '] ++ ((stringifyIndented (depth + 1) j).toList ++
        (membersTail depth fields ++ rest)))))) = _ := skipBlanks_append hlead (by decide)
  have hname := readString_quote name (':' :: ([' '] ++
    ((stringifyIndented (depth + 1) j).toList ++ (membersTail depth fields ++ rest))))
  have hcolon : skipBlanks (':' :: ([' '] ++ ((stringifyIndented (depth + 1) j).toList ++
      (membersTail depth fields ++ rest)))) = _ := skipBlanks_cons (by decide)
  have hread := hvalue j (depth + 1) [' '] (membersTail depth fields ++ rest) hj rfl
    membersTail_stops (by simp only [List.length_append, List.length_cons] at hfuel ⊢; omega)
  cases fields with
  | nil =>
      refine readMembers_end hquote hname hcolon hread ?_
      show skipBlanks ((lineBreak depth ++ ['\x7d']) ++ rest) = '\x7d' :: rest
      rw [List.append_assoc]
      exact skipBlanks_append (lineBreak_blank depth) (by decide)
  | cons next fields =>
      obtain ⟨name', j'⟩ := next
      have hafter : skipBlanks (membersTail depth ((name', j') :: fields) ++ rest) =
          ',' :: (lineBreak (depth + 1) ++ (memberText (depth + 1) name' j' ++
            (membersTail depth fields ++ rest))) := by
        have htail : membersTail depth ((name', j') :: fields) ++ rest =
            ',' :: (lineBreak (depth + 1) ++ (memberText (depth + 1) name' j' ++
              (membersTail depth fields ++ rest))) := by
          simp [membersTail]
        rw [htail]
        exact skipBlanks_cons (by decide)
      rw [readMembers_comma hquote hname hcolon hread hafter,
        hmembers name' j' fields depth _ rest hnodup hrest (lineBreak_blank _) ?_]
      · show some (putFirst name j ((name', j') :: fields), rest) = _
        rw [putFirst_of_new hnew]
      · simp only [membersTail, List.length_append, List.length_cons] at hfuel ⊢
        omega

/-- With more fuel a value is read, by what it begins with. -/
theorem readsValue_succ (hitems : ReadsItems fuel) (hmembers : ReadsMembers fuel) :
    ReadsValue (fuel + 1) := by
  intro j depth lead rest hreadable hlead hrest hfuel
  cases j with
  | null =>
      rw [text_null]
      exact readValue_word (skipBlanks_append hlead (by decide)) (by decide) (by decide) (by decide)
  | bool b =>
      cases b with
      | true =>
          rw [text_true]
          exact readValue_word (skipBlanks_append hlead (by decide)) (by decide) (by decide)
            (by decide)
      | false =>
          rw [text_false]
          exact readValue_word (skipBlanks_append hlead (by decide)) (by decide) (by decide)
            (by decide)
  | num n =>
      have hn := hreadable.numeric n .self
      obtain ⟨c, cs, htext, hblank, -⟩ := text_cons hreadable depth
      rw [text_number depth hn] at htext ⊢
      have hc : isNumeric c = true := by
        have hall := hn.2
        rw [htext, List.all_cons, Bool.and_eq_true] at hall
        exact hall.1
      have hword := readWord_number hn hrest
      rw [htext] at hword ⊢
      rw [List.cons_append] at hword ⊢
      rw [readValue_word (skipBlanks_append hlead hblank) (isNumeric_ne hc (by decide))
        (isNumeric_ne hc (by decide)) (isNumeric_ne hc (by decide)), hword]
  | str s =>
      rw [text_string, List.cons_append, List.cons_append, List.append_assoc]
      rw [readValue_string (skipBlanks_append hlead (by decide))]
      show (readString ((s.toList.flatMap fun c => (quoteChar c).toList) ++ '"' :: rest)).map _ = _
      rw [readString_quote]
      rfl
  | arr items =>
      cases items with
      | nil =>
          rw [text_empty_array]
          exact readValue_empty_array (skipBlanks_append hlead (by decide))
            (skipBlanks_cons (by decide))
      | cons j items =>
          have hj := hreadable.item (.head _)
          obtain ⟨c, cs, htext, hblank, hc⟩ := text_cons hj (depth + 1)
          rw [toList_array] at hfuel ⊢
          rw [List.cons_append, List.cons_append, List.append_assoc, List.append_assoc] at hfuel ⊢
          have hnext : skipBlanks (lineBreak (depth + 1) ++
              ((stringifyIndented (depth + 1) j).toList ++ (itemsTail depth items ++ rest))) =
              c :: (cs ++ (itemsTail depth items ++ rest)) := by
            rw [htext, List.cons_append]
            exact skipBlanks_append (lineBreak_blank _) hblank
          rw [readValue_array (skipBlanks_append hlead (by decide)) hnext hc]
          have hread := hitems j items depth [] rest (fun x hx => hreadable.item hx) rfl (by
            simp only [List.length_append, List.length_cons, List.nil_append] at hfuel ⊢
            omega)
          rw [htext, List.nil_append, List.cons_append] at hread
          rw [hread]
          rfl
  | obj fields =>
      cases fields with
      | nil =>
          rw [text_empty_object]
          exact readValue_empty_object (skipBlanks_append hlead (by decide))
            (skipBlanks_cons (by decide))
      | cons field fields =>
          obtain ⟨name, j⟩ := field
          rw [toList_object] at hfuel ⊢
          rw [List.cons_append, List.cons_append, List.append_assoc, List.append_assoc] at hfuel ⊢
          have hnext : skipBlanks (lineBreak (depth + 1) ++ (memberText (depth + 1) name j ++
              (membersTail depth fields ++ rest))) =
              memberText (depth + 1) name j ++ (membersTail depth fields ++ rest) :=
            skipBlanks_append (lineBreak_blank _) (by decide)
          rw [readValue_object (skipBlanks_append hlead (by decide)) hnext (by decide)]
          have hread := hmembers name j fields depth [] rest hreadable.distinct.names
            (fun p hp => hreadable.member hp) rfl (by
              simp only [List.length_append, List.length_cons, List.nil_append] at hfuel ⊢
              omega)
          rw [List.nil_append] at hread
          change (readMembers fuel (memberText (depth + 1) name j ++
            (membersTail depth fields ++ rest))).map _ = _
          rw [hread]
          rfl

/-- What is written is read back, by induction on the fuel. -/
theorem reads (fuel : ℕ) : ReadsValue fuel ∧ ReadsItems fuel ∧ ReadsMembers fuel := by
  induction fuel with
  | zero =>
      refine ⟨?_, ?_, ?_⟩
      · intro j depth lead rest hreadable hlead hrest hfuel
        obtain ⟨c, cs, htext, -⟩ := text_cons hreadable depth
        rw [htext] at hfuel
        simp only [List.length_append, List.length_cons] at hfuel
        omega
      · intro j items depth lead rest hreadable hlead hfuel
        exact absurd hfuel (Nat.not_succ_le_zero _)
      · intro name j fields depth lead rest hnames hreadable hlead hfuel
        exact absurd hfuel (Nat.not_succ_le_zero _)
  | succ fuel ih =>
      obtain ⟨hvalue, hitems, hmembers⟩ := ih
      exact ⟨readsValue_succ hitems hmembers, readsItems_succ hvalue hitems,
        readsMembers_succ hvalue hmembers⟩

/-- **An indented text is read back.** -/
theorem readDocument_stringifyIndented {j : Json} (h : Readable j) :
    readDocument (stringifyIndented 0 j) = .ok j := by
  have hread := (reads (2 * (stringifyIndented 0 j).toList.length)).1 j 0 [] [] h rfl stops_nil
    (by rw [List.nil_append, List.append_nil])
  rw [List.nil_append, List.append_nil] at hread
  rw [readDocument, hread]
  rfl

end Reading

end Railway
