/-
ControlPlane/Js/Text.lean

The string operations of the language this program leans on: `trim`, the
length and the ordering of strings by UTF-16 code units, the line terminators
the `.` of a regular expression skips, and the conversion `Number(text)`.

`Number(text)` follows the grammar of numeric literals exactly and then rounds
to the nearest double, ties to even: `"0.99999999999999999999"` is the number
one, and an integer beyond 2^53 is the double next to it.
-/
import Mathlib.Data.Int.Log
import Mathlib.Data.List.TakeWhile
import Mathlib.Data.Rat.Floor

namespace Js

/-! ### White space -/

/-- The white space and line terminators `String.prototype.trim` removes. -/
def isWhiteSpace (c : Char) : Bool :=
  [9, 10, 11, 12, 13, 32, 160, 5760, 8232, 8233, 8239, 8287, 12288, 65279].contains c.toNat
    || (8192 ≤ c.toNat && c.toNat ≤ 8202)

/-- The characters `.` does not match in a regular expression. -/
def isLineTerminator (c : Char) : Bool :=
  [10, 13, 8232, 8233].contains c.toNat

/-- `s.trim()` on characters. -/
def trimChars (cs : List Char) : List Char :=
  ((cs.dropWhile isWhiteSpace).reverse.dropWhile isWhiteSpace).reverse

/-- `s.trim()`. -/
def trim (s : String) : String := String.ofList (trimChars s.toList)

/-- A text that starts with something else than white space is not blank. -/
theorem trim_ne_empty {s : String} {c : Char} {rest : List Char} (h : s.toList = c :: rest)
    (hc : isWhiteSpace c = false) : trim s ≠ "" := by
  intro hblank
  have hnil : trimChars (c :: rest) = [] := by
    rw [trim, h] at hblank
    exact String.ofList_inj.mp hblank
  rw [trimChars, List.dropWhile_cons_of_neg (by rw [hc]; exact Bool.false_ne_true),
    List.reverse_eq_nil_iff, List.dropWhile_eq_nil_iff] at hnil
  have hall := hnil c (by simp)
  rw [hc] at hall
  cases hall

/-! ### Code units -/

/-- The UTF-16 code units of one character. -/
def codeUnitsOf (c : Char) : List ℕ :=
  if c.toNat < 0x10000 then [c.toNat]
  else [0xD800 + (c.toNat - 0x10000) / 0x400, 0xDC00 + (c.toNat - 0x10000) % 0x400]

/-- The UTF-16 code units of a string. -/
def codeUnits (s : String) : List ℕ := s.toList.flatMap codeUnitsOf

/-- `s.length`. -/
def length (s : String) : ℕ := (codeUnits s).length

/-- `a <= b` on strings: by code units, a beginning of a string before it. -/
def codeUnitsLe : List ℕ → List ℕ → Bool
  | [], _ => true
  | _ :: _, [] => false
  | a :: as, b :: bs => a < b || (a == b && codeUnitsLe as bs)

/-- `a <= b` on strings. -/
def textLe (a b : String) : Bool := codeUnitsLe (codeUnits a) (codeUnits b)

/-! ### `Number(text)` -/

/-- A number as a value rather than as a text. -/
inductive Numeric where
  | nan
  | infinite (negative : Bool)
  | finite (q : ℚ)

/-- The nearest integer, ties to even. -/
def roundHalfEven (r : ℚ) : ℤ :=
  let f := ⌊r⌋
  if r - f < 1 / 2 then f
  else if 1 / 2 < r - f then f + 1
  else if f % 2 = 0 then f else f + 1

/-- `2 ^ e` for an integer exponent. -/
def twoPow (e : ℤ) : ℚ :=
  if 0 ≤ e then 2 ^ e.toNat else 1 / 2 ^ (-e).toNat

/-- The double nearest to a nonnegative rational. -/
def toDouble (q : ℚ) : Numeric :=
  if q = 0 then .finite 0
  else
    let e := max (Int.log 2 q - 52) (-1074)
    let v := roundHalfEven (q / twoPow e) * twoPow e
    if 2 ^ 1024 ≤ v then .infinite false else .finite v

/-- The value of a digit in a radix up to sixteen. -/
def digitValue (radix : ℕ) (c : Char) : Option ℕ :=
  let d :=
    if '0' ≤ c ∧ c ≤ '9' then some (c.toNat - 48)
    else if 'a' ≤ c ∧ c ≤ 'f' then some (c.toNat - 87)
    else if 'A' ≤ c ∧ c ≤ 'F' then some (c.toNat - 55)
    else none
  d.filter (· < radix)

/-- The number a nonempty run of digits writes. -/
def readInteger (radix : ℕ) (cs : List Char) : Option ℕ :=
  if cs.isEmpty then none
  else cs.foldlM (fun acc c => (digitValue radix c).map (acc * radix + ·)) 0

/-- The exponent part of a decimal literal; nothing at all is exponent zero. -/
def readExponent : List Char → Option ℤ
  | [] => some 0
  | c :: rest =>
    if c = 'e' ∨ c = 'E' then
      match rest with
      | '+' :: ds => (readInteger 10 ds).map Int.ofNat
      | '-' :: ds => (readInteger 10 ds).map fun n => -Int.ofNat n
      | ds => (readInteger 10 ds).map Int.ofNat
    else none

/-- An unsigned decimal literal: digits, a point and more digits, an exponent. -/
def readDecimal (cs : List Char) : Option ℚ :=
  let whole := cs.takeWhile Char.isDigit
  let rest := cs.dropWhile Char.isDigit
  let (fraction, tail) :=
    match rest with
    | '.' :: rest => (rest.takeWhile Char.isDigit, rest.dropWhile Char.isDigit)
    | rest => ([], rest)
  match readInteger 10 (whole ++ fraction), readExponent tail with
  | some n, some e =>
    let shift := e - fraction.length
    some (if 0 ≤ shift then n * 10 ^ shift.toNat else n / 10 ^ (-shift).toNat)
  | _, _ => none

/-- A decimal literal without its sign. -/
def readUnsigned (cs : List Char) : Numeric :=
  if cs = "Infinity".toList then .infinite false
  else match readDecimal cs with
    | some q => toDouble q
    | none => .nan

/-- The number with the opposite sign. -/
def Numeric.neg : Numeric → Numeric
  | .nan => .nan
  | .infinite negative => .infinite !negative
  | .finite q => .finite (-q)

/-- An integer literal with a radix mark, which takes no sign. -/
def readRadix (radix : ℕ) (cs : List Char) : Numeric :=
  match readInteger radix cs with
  | some n => toDouble n
  | none => .nan

/-- `Number(text)`. -/
def numberOf (s : String) : Numeric :=
  match trimChars s.toList with
  | [] => .finite 0
  | '0' :: 'x' :: cs | '0' :: 'X' :: cs => readRadix 16 cs
  | '0' :: 'o' :: cs | '0' :: 'O' :: cs => readRadix 8 cs
  | '0' :: 'b' :: cs | '0' :: 'B' :: cs => readRadix 2 cs
  | '+' :: cs => readUnsigned cs
  | '-' :: cs => (readUnsigned cs).neg
  | cs => readUnsigned cs

/-- The number as a natural number when `Number.isInteger(n) && n > 0`. -/
def Numeric.positiveInteger : Numeric → Option ℕ
  | .finite q => if q.den = 1 ∧ 0 < q.num then some q.num.toNat else none
  | _ => none

end Js
