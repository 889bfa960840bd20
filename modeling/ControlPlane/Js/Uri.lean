/-
ControlPlane/Js/Uri.lean

`encodeURIComponent`: a text as one component of a URI.

The text is taken in UTF-8.  The unreserved marks, letters and digits stand for themselves,
every other byte is written `%XY`.
-/
import Mathlib.Data.List.Basic
import Mathlib.Data.Nat.Notation

namespace Js

/-- `A`–`Z`, `a`–`z`, `0`–`9` and `- _ . ! ~ * ' ( )`, by their codes. -/
def isUnreserved (b : UInt8) : Bool :=
  (65 ≤ b && b ≤ 90) || (97 ≤ b && b ≤ 122) || (48 ≤ b && b ≤ 57) ||
    [45, 95, 46, 33, 126, 42, 39, 40, 41].contains b

/-- A digit of a percent escape. -/
def hexDigit (n : ℕ) : Char := if n < 10 then Char.ofNat (48 + n) else Char.ofNat (55 + n)

/-- A byte as a percent escape. -/
def encodeByte (b : UInt8) : List Char :=
  if isUnreserved b then [Char.ofNat b.toNat]
  else ['%', hexDigit (b.toNat / 16), hexDigit (b.toNat % 16)]

/-- `encodeURIComponent(text)` -/
def encodeURIComponent (text : String) : String :=
  String.ofList (text.toUTF8.data.toList.flatMap encodeByte)

end Js
