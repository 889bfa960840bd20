/-
ControlPlane/Js/Size.lean

How long the text is that `JSON.stringify` writes.

A plain text, of printable ASCII characters other than the quote and the backslash,
is written as it is (`length_quote`).  `Sized members n` bounds what the members of an
object take, one member after another.
-/
import ControlPlane.Js.Stringify
import ControlPlane.Js.Text
import Mathlib.Data.Nat.Digits.Defs

namespace Js

/-! ### Lengths -/

@[simp] theorem length_append (s t : String) : length (s ++ t) = length s + length t := by
  rw [length, codeUnits, String.toList_append, List.flatMap_append, List.length_append]
  rfl

/-- A printable ASCII character that is written as it is. -/
def isPlain (c : Char) : Bool :=
  decide (32 ≤ c.toNat) && decide (c.toNat < 127) && c != '"' && c != '\\'

/-- Letters and digits are plain. -/
theorem isPlain_of_isAlphanum {c : Char} (h : c.isAlphanum = true) : isPlain c = true := by
  have hrange : 48 ≤ c.toNat ∧ c.toNat ≤ 57 ∨ 65 ≤ c.toNat ∧ c.toNat ≤ 90 ∨
      97 ≤ c.toNat ∧ c.toNat ≤ 122 := by
    have hranges : ((decide (65 ≤ c.val ∧ c.val ≤ 90) ||
        decide (97 ≤ c.val) && decide (c.val ≤ 122)) ||
        decide (48 ≤ c.val) && decide (c.val ≤ 57)) = true := h
    simp only [Bool.or_eq_true, Bool.and_eq_true, decide_eq_true_eq,
      UInt32.le_iff_toNat_le] at hranges
    have hcode : c.toNat = c.val.toNat := rfl
    simp at hranges
    omega
  have hquote : c ≠ '"' := by
    rintro rfl
    revert hrange
    decide
  have hslash : c ≠ '\\' := by
    rintro rfl
    revert hrange
    decide
  simp only [isPlain, Bool.and_eq_true, decide_eq_true_eq, bne_iff_ne, ne_eq]
  exact ⟨⟨⟨by omega, by omega⟩, hquote⟩, hslash⟩

/-- An ASCII text has as many bytes as characters. -/
theorem length_of_ascii {s : String} (h : ∀ c ∈ s.toList, c.toNat < 127) :
    length s = s.toList.length := by
  have hone : ∀ cs : List Char, (∀ c ∈ cs, c.toNat < 127) →
      (cs.flatMap codeUnitsOf).length = cs.length := by
    intro cs hcs
    induction cs with
    | nil => rfl
    | cons c cs ih =>
        have hc : c.toNat < 0x10000 := Nat.lt_trans (hcs c List.mem_cons_self) (by decide)
        rw [List.flatMap_cons, List.length_append, codeUnitsOf, if_pos hc, List.length_cons,
          ih fun d hd => hcs d (List.mem_cons_of_mem c hd)]
        exact Nat.add_comm _ _
  exact hone s.toList h

theorem quoteChar_of_isPlain {c : Char} (h : isPlain c = true) : quoteChar c = c.toString := by
  simp only [isPlain, Bool.and_eq_true, decide_eq_true_eq, bne_iff_ne, ne_eq] at h
  obtain ⟨⟨⟨hcontrol, -⟩, hquote⟩, hslash⟩ := h
  exact quoteChar_plain hquote hslash (Nat.not_lt.mpr hcontrol)

/-- **A plain text is written as it is**, between two quotes. -/
theorem length_quote {s : String} (h : s.toList.all isPlain = true) :
    length (quote s) = s.toList.length + 2 := by
  rw [List.all_eq_true] at h
  have htext : (quote s).toList = '"' :: s.toList ++ ['"'] := by
    have hsame : (s.toList.flatMap fun c => (quoteChar c).toList) = s.toList := by
      have hchars : ∀ c ∈ s.toList, (quoteChar c).toList = [c] := by
        intro c hc
        rw [quoteChar_of_isPlain (h c hc), Char.toString_eq_singleton, String.toList_singleton]
      rw [List.flatMap_congr hchars]
      exact List.flatMap_singleton' s.toList
    rw [toList_quote, hsame]
  have hascii : ∀ c ∈ (quote s).toList, c.toNat < 127 := by
    intro c hc
    rw [htext, List.cons_append, List.mem_cons, List.mem_append, List.mem_singleton] at hc
    rcases hc with rfl | hc | rfl
    · decide
    · have hplain := h c hc
      simp only [isPlain, Bool.and_eq_true, decide_eq_true_eq] at hplain
      exact hplain.1.1.2
    · decide
  rw [length_of_ascii hascii, htext]
  simp

/-! ### Values -/

/-- The text of the value has at most `n` code units. -/
def Fits (j : Json) (n : ℕ) : Prop := length j.stringify ≤ n

/-- What fits fits into more. -/
theorem Fits.mono {j : Json} {m n : ℕ} (h : Fits j m) (hmn : m ≤ n) : Fits j n :=
  Nat.le_trans h hmn

theorem fits_null : Fits .null 4 := by
  show length "null" ≤ 4
  decide

theorem fits_bool (b : Bool) : Fits (.bool b) 5 := by
  cases b
  · show length "false" ≤ 5
    decide
  · show length "true" ≤ 5
    decide

theorem fits_str {s : String} {n : ℕ} (h : s.toList.all isPlain = true)
    (hn : s.toList.length ≤ n) : Fits (.str s) (n + 2) := by
  show length (quote s) ≤ n + 2
  rw [length_quote h]
  exact Nat.add_le_add_right hn 2

/-- A number below a power of ten has no more digits. -/
theorem fits_ofNat {k n : ℕ} (hn : 4 ≤ n) (hk : k < 10 ^ n) :
    Fits (.num (Number.ofNat k)) n := by
  show length (if (toString k) ∈ ["Infinity", "-Infinity", "NaN"] then "null" else toString k) ≤ n
  split
  · exact Nat.le_trans fits_null hn
  · have hdigits : ∀ c ∈ (toString k).toList, c.toNat < 127 := by
      intro c hc
      rw [Nat.toString_eq_repr, Nat.toList_repr] at hc
      have hdigit := Nat.isDigit_of_mem_toDigits (by decide) (by decide) hc
      simp only [Char.isDigit, Bool.and_eq_true, decide_eq_true_eq] at hdigit
      exact Nat.lt_of_le_of_lt hdigit.2 (by decide)
    rw [length_of_ascii hdigits]
    exact Nat.repr_length k n (by omega) hk

/-- What the members of an object take, each with its name, the colon and a comma. -/
inductive Sized : List (String × Json) → ℕ → Prop
  | nil : Sized [] 0
  | cons {cs : List Char} {v : Json} {members : List (String × Json)} {n m : ℕ}
      (hname : cs.all isPlain = true) (hv : Fits v n) (h : Sized members m) :
      Sized ((String.ofList cs, v) :: members) (cs.length + n + 4 + m)

/-- An object is as long as its members, and the braces. -/
theorem Sized.fits {members : List (String × Json)} {n : ℕ} (h : Sized members n) :
    Fits (.obj members) (n + 2) := by
  have hmembers : length (",".intercalate (Json.stringifyFields members)) ≤ n := by
    induction h with
    | nil => exact Nat.le_refl 0
    | @cons cs v members n m hname hv h ih =>
        have hhead : length (quote (String.ofList cs) ++ ":" ++ v.stringify) ≤
            cs.length + n + 3 := by
          have hquote : length (quote (String.ofList cs)) = cs.length + 2 := by
            rw [length_quote (by rwa [String.toList_ofList]), String.toList_ofList]
          have hcolon : length ":" = 1 := by decide
          have hvalue : length v.stringify ≤ n := hv
          rw [length_append, length_append, hquote, hcolon]
          omega
        cases h with
        | nil =>
            show length (",".intercalate [quote (String.ofList cs) ++ ":" ++ v.stringify]) ≤ _
            rw [String.intercalate_singleton]
            omega
        | @cons cs' v' members' n' m' hname' hv' h' =>
            have hcomma : length "," = 1 := by decide
            have hrest : length (",".intercalate ((quote (String.ofList cs') ++ ":" ++
                v'.stringify) :: Json.stringifyFields members')) ≤ _ := ih
            show length (",".intercalate ((quote (String.ofList cs) ++ ":" ++ v.stringify) ::
              (quote (String.ofList cs') ++ ":" ++ v'.stringify) ::
                Json.stringifyFields members')) ≤ _
            rw [String.intercalate_cons_cons, length_append, length_append, hcomma]
            omega
  have hbrace : length "\x7b" = 1 ∧ length "\x7d" = 1 := by decide
  show length ("\x7b" ++ ",".intercalate (Json.stringifyFields members) ++ "\x7d") ≤ n + 2
  rw [length_append, length_append, hbrace.1, hbrace.2]
  omega

end Js
