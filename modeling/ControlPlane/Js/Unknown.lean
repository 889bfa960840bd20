/-
ControlPlane/Js/Unknown.lean

Values of type `unknown`: what a library hands over, of which a program knows
nothing.  It may look at the type, read a member, go through an array; and any of
these reads may throw.

`Readable v` says that no read of `v` throws, however deep it goes.

`Alike same v w` says that two values have one shape: they differ in the text of
their strings only, and the texts have equal lengths.  `same` names the places
where the texts must be equal as well.
-/
import ControlPlane.Js.Text
import Mathlib.Data.List.Forall2
import Mathlib.Data.List.OfFn

namespace Js

/-- A value of type `unknown`.  A member that is absent is `undefined`; `thrown`
stands where a read throws; `other` is a function, a symbol or a big integer. -/
inductive Unknown where
  | undefined
  | null
  | bool (b : Bool)
  | num (n : Numeric)
  | str (s : String)
  | other
  | arr (n : Fin (2 ^ 32)) (item : Fin n → Unknown)
  | obj (member : String → Unknown)
  | thrown

namespace Unknown

/-- `value[name]` of an object, and `undefined` of anything else. -/
def own : Unknown → String → Unknown
  | obj member, name => member name
  | _, _ => undefined

/-- `Array.isArray(value) ? value : []`. -/
def entries : Unknown → List Unknown
  | arr _ item => List.ofFn item
  | _ => []

theorem length_entries_lt (v : Unknown) : v.entries.length < 2 ^ 32 := by
  cases v
  case arr n item =>
    rw [entries, List.length_ofFn]
    exact n.isLt
  all_goals exact Nat.two_pow_pos 32

/-- `value !== null && value !== undefined`. -/
def present : Unknown → Bool
  | null => false
  | undefined => false
  | _ => true

/-- `typeof value === "string"`, with the string. -/
def asString : Unknown → Option String
  | str s => some s
  | _ => none

/-- `value === true`. -/
def isTrue : Unknown → Bool
  | bool b => b
  | _ => false

end Unknown

/-! ### Values that can be read -/

/-- No read of the value throws, at any depth. -/
inductive Readable : Unknown → Prop
  | undefined : Readable .undefined
  | null : Readable .null
  | bool (b : Bool) : Readable (.bool b)
  | num (n : Numeric) : Readable (.num n)
  | str (s : String) : Readable (.str s)
  | other : Readable .other
  | arr {n : Fin (2 ^ 32)} {item : Fin n → Unknown} (h : ∀ i, Readable (item i)) :
      Readable (.arr n item)
  | obj {member : String → Unknown} (h : ∀ name, Readable (member name)) : Readable (.obj member)

namespace Readable

variable {v w : Unknown}

theorem own (h : Readable v) (name : String) : Readable (v.own name) := by
  cases h with
  | obj h => exact h name
  | _ => exact .undefined

theorem entries (h : Readable v) (hw : w ∈ v.entries) : Readable w := by
  cases h with
  | arr h =>
      obtain ⟨i, rfl⟩ := List.mem_ofFn.mp hw
      exact h i
  | _ => cases hw

end Readable

/-! ### Values of one shape -/

/-- A step from a value to a part of it. -/
inductive Key where
  | name (s : String)
  | index (i : ℕ)

/-- The places of a value, as seen from a part of it. -/
def under (same : List Key → Prop) (k : Key) : List Key → Prop := fun path => same (k :: path)

/-- The two values have one shape, and the same text at the places `same`. -/
inductive Alike : (List Key → Prop) → Unknown → Unknown → Prop
  | undefined {same} : Alike same .undefined .undefined
  | null {same} : Alike same .null .null
  | bool {same} (b : Bool) : Alike same (.bool b) (.bool b)
  | num {same} (n : Numeric) : Alike same (.num n) (.num n)
  | str {same} {s t : String} (hlength : length s = length t) (hsame : same [] → s = t) :
      Alike same (.str s) (.str t)
  | other {same} : Alike same .other .other
  | arr {same} {n : Fin (2 ^ 32)} {f g : Fin n → Unknown}
      (h : ∀ i : Fin n, Alike (under same (.index i.val)) (f i) (g i)) :
      Alike same (.arr n f) (.arr n g)
  | obj {same} {f g : String → Unknown}
      (h : ∀ name, Alike (under same (.name name)) (f name) (g name)) :
      Alike same (.obj f) (.obj g)
  | thrown {same} : Alike same .thrown .thrown

theorem forall₂_ofFn {α β : Type} {R : α → β → Prop} {n : ℕ} {f : Fin n → α} {g : Fin n → β}
    (h : ∀ i, R (f i) (g i)) : List.Forall₂ R (List.ofFn f) (List.ofFn g) := by
  induction n with
  | zero =>
      rw [List.ofFn_zero, List.ofFn_zero]
      exact .nil
  | succ n ih =>
      rw [List.ofFn_succ, List.ofFn_succ]
      exact .cons (h 0) (ih fun i => h i.succ)

namespace Alike

variable {same : List Key → Prop} {v w : Unknown}

theorem refl (same : List Key → Prop) (v : Unknown) : Alike same v v := by
  induction v generalizing same with
  | undefined => exact .undefined
  | null => exact .null
  | bool b => exact .bool b
  | num n => exact .num n
  | str s => exact .str rfl fun _ => rfl
  | other => exact .other
  | arr n f ih => exact .arr fun i => ih i _
  | obj f ih => exact .obj fun name => ih name _
  | thrown => exact .thrown

/-- Members of values of one shape. -/
theorem own (h : Alike same v w) (name : String) :
    Alike (under same (.name name)) (v.own name) (w.own name) := by
  cases h
  case obj h => exact h name
  all_goals exact .undefined

theorem present_eq (h : Alike same v w) : v.present = w.present := by
  cases h <;> rfl

/-- The texts at a place of equal texts. -/
theorem asString_eq (h : Alike same v w) (hsame : same []) : v.asString = w.asString := by
  cases h
  case str hlength hsame' => rw [hsame' hsame]
  all_goals rfl

/-- Elements of arrays of one shape. -/
theorem entries (h : Alike same v w) :
    List.Forall₂ (fun a b => ∃ i, Alike (under same (.index i)) a b) v.entries w.entries := by
  cases h
  case arr n f g h =>
    exact forall₂_ofFn fun i => ⟨i, h i⟩
  all_goals exact .nil

theorem length_entries_eq (h : Alike same v w) : v.entries.length = w.entries.length :=
  h.entries.length_eq

/-- The first elements. -/
theorem head (h : Alike same v w) {a b : Unknown} {as bs : List Unknown}
    (hv : v.entries = a :: as) (hw : w.entries = b :: bs) :
    Alike (under same (.index 0)) a b := by
  cases h
  case arr n f g h =>
    have hn : 0 < n.val := by
      have hlen := congrArg List.length hv
      simp only [Unknown.entries, List.length_ofFn, List.length_cons] at hlen
      omega
    have hf : a = f ⟨0, hn⟩ := by
      have hhead := congrArg (·[0]?) hv
      simpa [Unknown.entries, hn] using hhead.symm
    have hg : b = g ⟨0, hn⟩ := by
      have hhead := congrArg (·[0]?) hw
      simpa [Unknown.entries, hn] using hhead.symm
    rw [hf, hg]
    exact h ⟨0, hn⟩
  all_goals cases hv

end Alike

end Js
