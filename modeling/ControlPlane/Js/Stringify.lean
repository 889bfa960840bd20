/-
ControlPlane/Js/Stringify.lean

The text `JSON.stringify` writes can be read back.

A quoted string ends at the first quote that is not escaped, and what stands before
it gives the characters back (`unquoteChar_quoteChar`).  So the text of a value of the
simple kind, a string or an empty object, is not the beginning of another one
(`stringify_simple`), and an object with such members is determined by its text
(`stringify_members_injective`).
-/
import ControlPlane.Js.Value
import Mathlib.Tactic.IntervalCases

namespace Js

/-! ### One character -/

/-- The value of a hexadecimal digit in lower case. -/
def hexValue (c : Char) : ℕ := if c.toNat < 58 then c.toNat - 48 else c.toNat - 87

/-- Read one character of a quoted string; a quote ends it. -/
def unquoteChar : List Char → Option (Char × List Char)
  | '"' :: _ => none
  | '\\' :: '"' :: rest => some ('"', rest)
  | '\\' :: '\\' :: rest => some ('\\', rest)
  | '\\' :: 'b' :: rest => some (Char.ofNat 8, rest)
  | '\\' :: 't' :: rest => some (Char.ofNat 9, rest)
  | '\\' :: 'n' :: rest => some (Char.ofNat 10, rest)
  | '\\' :: 'f' :: rest => some (Char.ofNat 12, rest)
  | '\\' :: 'r' :: rest => some (Char.ofNat 13, rest)
  | '\\' :: 'u' :: '0' :: '0' :: a :: b :: rest =>
    some (Char.ofNat (16 * hexValue a + hexValue b), rest)
  | '\\' :: _ => none
  | c :: rest => some (c, rest)
  | [] => none

/-- What is written for a control character is read as that character. -/
theorem unquoteChar_control {n : ℕ} (hn : n < 32) (rest : List Char) :
    unquoteChar ((quoteChar (Char.ofNat n)).toList ++ rest) = some (Char.ofNat n, rest) := by
  interval_cases n <;> rfl

/-- A character that is no quote and no backslash and is written as it is. -/
theorem unquoteChar_plain {c : Char} (hquote : c ≠ '"') (hslash : c ≠ '\\') (rest : List Char) :
    unquoteChar (c :: rest) = some (c, rest) := by
  unfold unquoteChar
  split <;> simp_all

theorem quoteChar_plain {c : Char} (hquote : c ≠ '"') (hslash : c ≠ '\\')
    (hcontrol : ¬ c.toNat < 32) : quoteChar c = c.toString := by
  have hcodes : ∀ n, n < 32 → c.toNat ≠ n := fun n hn he => hcontrol (he ▸ hn)
  rw [quoteChar, if_neg hquote, if_neg hslash, if_neg (hcodes 8 (by decide)),
    if_neg (hcodes 9 (by decide)), if_neg (hcodes 10 (by decide)), if_neg (hcodes 12 (by decide)),
    if_neg (hcodes 13 (by decide)), if_neg hcontrol]

/-- **Reading what was written**, character by character. -/
theorem unquoteChar_quoteChar (c : Char) (rest : List Char) :
    unquoteChar ((quoteChar c).toList ++ rest) = some (c, rest) := by
  by_cases hcontrol : c.toNat < 32
  · have h := unquoteChar_control hcontrol rest
    rwa [Char.ofNat_toNat] at h
  · by_cases hquote : c = '"'
    · subst hquote
      rfl
    · by_cases hslash : c = '\\'
      · subst hslash
        rfl
      · rw [quoteChar_plain hquote hslash hcontrol, Char.toString_eq_singleton,
          String.toList_singleton]
        exact unquoteChar_plain hquote hslash rest

/-! ### Quoted strings -/

theorem toList_quote (s : String) :
    (quote s).toList = '"' :: (s.toList.flatMap fun c => (quoteChar c).toList) ++ ['"'] := by
  rw [quote, String.toList_append, String.toList_append, String.toList_join, List.flatMap_map]
  rfl

/-- The characters before the closing quote are determined by the text. -/
theorem quoted_injective {cs ds : List Char} {x y : List Char}
    (h : (cs.flatMap fun c => (quoteChar c).toList) ++ '"' :: x =
      (ds.flatMap fun c => (quoteChar c).toList) ++ '"' :: y) : cs = ds ∧ x = y := by
  have hend : ∀ {c : Char} {cs x y : List Char},
      ((c :: cs).flatMap fun c => (quoteChar c).toList) ++ x ≠ '"' :: y := by
    intro c cs x y heq
    have hread := congrArg unquoteChar heq
    rw [List.flatMap_cons, List.append_assoc, unquoteChar_quoteChar] at hread
    cases hread
  induction cs generalizing ds with
  | nil =>
      cases ds with
      | nil => exact ⟨rfl, (List.cons.inj h).2⟩
      | cons d ds => exact absurd h.symm hend
  | cons c cs ih =>
      cases ds with
      | nil => exact absurd h hend
      | cons d ds =>
          have hread := congrArg unquoteChar h
          rw [List.flatMap_cons, List.flatMap_cons, List.append_assoc, List.append_assoc,
            unquoteChar_quoteChar, unquoteChar_quoteChar] at hread
          obtain ⟨rfl, hrest⟩ := Prod.mk.inj (Option.some.inj hread)
          obtain ⟨rfl, rfl⟩ := ih hrest
          exact ⟨rfl, rfl⟩

/-- No quoted string is the beginning of another text that begins with one. -/
theorem quote_injective {a b : String} {x y : List Char}
    (h : (quote a).toList ++ x = (quote b).toList ++ y) : a = b ∧ x = y := by
  rw [toList_quote, toList_quote] at h
  simp only [List.cons_append, List.append_assoc, List.nil_append, List.cons.injEq,
    true_and] at h
  obtain ⟨hab, hxy⟩ := quoted_injective h
  exact ⟨String.toList_inj.mp hab, hxy⟩

/-! ### Objects of simple members -/

/-- A string or an empty object. -/
inductive Simple : Json → Prop
  | str {s : String} : Simple (.str s)
  | empty : Simple (.obj [])

theorem stringify_simple {a b : Json} (ha : Simple a) (hb : Simple b) {x y : List Char}
    (h : a.stringify.toList ++ x = b.stringify.toList ++ y) : a = b ∧ x = y := by
  have hempty : (Json.obj []).stringify.toList = ['\x7b', '\x7d'] := rfl
  have hstart : ∀ {s : String} {x y : List Char},
      (Json.str s).stringify.toList ++ x ≠ (Json.obj []).stringify.toList ++ y := by
    intro s x y heq
    have hquote : (Json.str s).stringify.toList = (quote s).toList := rfl
    rw [hempty, hquote, toList_quote] at heq
    exact absurd (List.cons.inj heq).1 (by decide)
  cases ha with
  | str =>
      cases hb with
      | str =>
          obtain ⟨rfl, rfl⟩ := quote_injective h
          exact ⟨rfl, rfl⟩
      | empty => exact absurd h hstart
  | empty =>
      cases hb with
      | str => exact absurd h.symm hstart
      | empty => exact ⟨rfl, List.append_cancel_left h⟩

/-- The text of the members and the closing brace. -/
def membersText : List (String × Json) → List Char
  | [] => ['\x7d']
  | (name, v) :: rest =>
    (quote name).toList ++ ':' :: (v.stringify.toList ++
      if rest.isEmpty then ['\x7d'] else ',' :: membersText rest)

theorem toList_stringify_obj (members : List (String × Json)) :
    (Json.obj members).stringify.toList = '\x7b' :: membersText members := by
  have hmembers : (",".intercalate (Json.stringifyFields members)).toList ++ ['\x7d'] =
      membersText members := by
    induction members with
    | nil => rfl
    | cons member members ih =>
        obtain ⟨name, v⟩ := member
        cases members with
        | nil =>
            show (",".intercalate [quote name ++ ":" ++ v.stringify]).toList ++ ['\x7d'] = _
            rw [String.intercalate_singleton]
            simp [membersText]
        | cons next rest =>
            obtain ⟨name', v'⟩ := next
            show (",".intercalate ((quote name ++ ":" ++ v.stringify) ::
              (quote name' ++ ":" ++ v'.stringify) :: Json.stringifyFields rest)).toList ++
                ['\x7d'] = _
            rw [String.intercalate_cons_cons]
            have hrest : (",".intercalate ((quote name' ++ ":" ++ v'.stringify) ::
                Json.stringifyFields rest)).toList ++ ['\x7d'] =
                membersText ((name', v') :: rest) := ih
            rw [membersText, ← hrest]
            simp
  rw [Json.stringify, String.toList_append, String.toList_append, List.append_assoc]
  exact congrArg ('\x7b' :: ·) hmembers

theorem membersText_injective {l m : List (String × Json)} (hl : ∀ p ∈ l, Simple p.2)
    (hm : ∀ p ∈ m, Simple p.2) (h : membersText l = membersText m) : l = m := by
  have hquote : ∀ {name : String} {x : List Char}, (quote name).toList ++ x ≠ ['\x7d'] := by
    intro name x heq
    rw [toList_quote] at heq
    exact absurd (List.cons.inj heq).1 (by decide)
  induction l generalizing m with
  | nil =>
      cases m with
      | nil => rfl
      | cons q m => exact absurd h.symm hquote
  | cons p l ih =>
      cases m with
      | nil => exact absurd h hquote
      | cons q m =>
          -- the names, the values, and what follows them agree one after another
          obtain ⟨name, v⟩ := p
          obtain ⟨name', v'⟩ := q
          obtain ⟨rfl, hvalues⟩ := quote_injective h
          obtain ⟨rfl, hrest⟩ := stringify_simple (hl (name, v) (by simp)) (hm (name, v') (by simp))
            (List.cons.inj hvalues).2
          have hl' : ∀ p ∈ l, Simple p.2 := fun p hp => hl p (List.mem_cons_of_mem _ hp)
          have hm' : ∀ p ∈ m, Simple p.2 := fun p hp => hm p (List.mem_cons_of_mem _ hp)
          cases l with
          | nil =>
              cases m with
              | nil => rfl
              | cons q m => exact absurd (List.cons.inj hrest).1 (by decide)
          | cons p l =>
              cases m with
              | nil => exact absurd (List.cons.inj hrest).1 (by decide)
              | cons q m => rw [ih hl' hm' (List.cons.inj hrest).2]

/-- **Objects of simple members are determined by their text.** -/
theorem stringify_members_injective {l m : List (String × Json)} (hl : ∀ p ∈ l, Simple p.2)
    (hm : ∀ p ∈ m, Simple p.2) (h : (Json.obj l).stringify = (Json.obj m).stringify) : l = m := by
  have htext := congrArg String.toList h
  rw [toList_stringify_obj, toList_stringify_obj] at htext
  exact membersText_injective hl hm (List.cons.inj htext).2

end Js
