/-
ControlPlane/Js/Document.lean

Documents compared as values.

Two documents are the same value when they have the same node at every path
(`SameValue`): the order in which an object has its members does not count.  What a
document that was parsed satisfies, and what is asked of one that is to be written
and read again, is stated here as well: no member is named twice (`Distinct`), and
the numbers that occur (`NumberIn`).
-/
import ControlPlane.Js.Value

namespace Js

/-! ### Paths -/

/-- A step into a document. -/
inductive Step where
  | name (s : String)
  | index (i : ℕ)
deriving DecidableEq

/-- What a step leads to. -/
def Json.child : Json → Step → Option Json
  | .obj fields, .name s => fields.lookup s
  | .arr items, .index i => items[i]?
  | _, _ => none

/-- The document below a path. -/
def Json.at : Json → List Step → Option Json
  | j, [] => some j
  | j, step :: path => (j.child step).bind fun below => below.at path

/-- What a document is without what it contains; an array keeps its length. -/
inductive Node where
  | null
  | bool (b : Bool)
  | num (n : Number)
  | str (s : String)
  | arr (length : ℕ)
  | obj
deriving DecidableEq

/-- A document without what is inside. -/
def Json.node : Json → Node
  | .null => .null
  | .bool b => .bool b
  | .num n => .num n
  | .str s => .str s
  | .arr items => .arr items.length
  | .obj _ => .obj

/-- The node at a path. -/
def Json.nodeAt (j : Json) (path : List Step) : Option Node := (j.at path).map Json.node

/-- The same value: the same node everywhere. -/
def SameValue (a b : Json) : Prop := ∀ path, a.nodeAt path = b.nodeAt path

section Paths

variable {a b c j : Json} {path path' : List Step} {step : Step}

theorem SameValue.refl (a : Json) : SameValue a a := fun _ => rfl

theorem SameValue.symm (h : SameValue a b) : SameValue b a := fun path => (h path).symm

theorem SameValue.trans (h : SameValue a b) (h' : SameValue b c) : SameValue a c :=
  fun path => (h path).trans (h' path)

/-- A path may be gone in two parts. -/
theorem at_append (j : Json) (path path' : List Step) :
    j.at (path ++ path') = (j.at path).bind fun below => below.at path' := by
  induction path generalizing j with
  | nil => rfl
  | cons step path ih =>
      show ((j.child step).bind fun below => below.at (path ++ path')) =
        ((j.child step).bind fun below => below.at path).bind fun below => below.at path'
      rw [Option.bind_assoc]
      exact congrArg (Option.bind (j.child step)) (funext ih)

/-- A node below is one of what the first step leads to. -/
theorem nodeAt_cons (j : Json) (step : Step) (path : List Step) :
    j.nodeAt (step :: path) = (j.child step).bind fun below => below.nodeAt path := by
  show ((j.child step).bind fun below => below.at path).map Json.node = _
  rw [Option.map_bind]
  rfl

theorem nodeAt_cons_of_child {below : Json} (h : j.child step = some below) :
    j.nodeAt (step :: path) = below.nodeAt path := by
  rw [nodeAt_cons, h]
  rfl

theorem nodeAt_cons_of_no_child (h : j.child step = none) : j.nodeAt (step :: path) = none := by
  rw [nodeAt_cons, h]
  rfl

/-- A child is there when it has a node. -/
theorem child_of_nodeAt {node : Node} (h : j.nodeAt [step] = some node) :
    ∃ below, j.child step = some below ∧ below.node = node := by
  rw [nodeAt_cons] at h
  obtain ⟨below, hbelow, hnode⟩ := Option.bind_eq_some_iff.mp h
  exact ⟨below, hbelow, Option.some.inj hnode⟩

/-- The same value has the same value below each of its steps. -/
theorem SameValue.below {x y : Json} (h : SameValue a b) (ha : a.child step = some x)
    (hb : b.child step = some y) : SameValue x y := by
  intro path
  have hpath := h (step :: path)
  rwa [nodeAt_cons_of_child ha, nodeAt_cons_of_child hb] at hpath

theorem node_eq_obj {j : Json} (h : j.node = .obj) : ∃ fields, j = .obj fields := by
  cases j with
  | obj fields => exact ⟨fields, rfl⟩
  | null | bool | num | str | arr => cases h

theorem node_eq_str {j : Json} {s : String} (h : j.node = .str s) : j = .str s := by
  cases j with
  | str s' => rw [Node.str.inj h]
  | null | bool | num | arr | obj => cases h

end Paths

/-! ### Names and numbers -/

/-- No object of the document has two members of one name. -/
inductive Distinct : Json → Prop
  | null : Distinct .null
  | bool {b : Bool} : Distinct (.bool b)
  | num {n : Number} : Distinct (.num n)
  | str {s : String} : Distinct (.str s)
  | arr {items : List Json} (h : ∀ j ∈ items, Distinct j) : Distinct (.arr items)
  | obj {fields : List (String × Json)} (hnames : (fields.map Prod.fst).Nodup)
      (h : ∀ p ∈ fields, Distinct p.2) : Distinct (.obj fields)

/-- A number that occurs in the document. -/
inductive NumberIn (n : Number) : Json → Prop
  | self : NumberIn n (.num n)
  | item {items : List Json} {j : Json} (hj : j ∈ items) (h : NumberIn n j) :
      NumberIn n (.arr items)
  | member {fields : List (String × Json)} {p : String × Json} (hp : p ∈ fields)
      (h : NumberIn n p.2) : NumberIn n (.obj fields)

section Parts

variable {items : List Json} {fields : List (String × Json)} {name : String} {j : Json}
  {n : Number}

theorem Distinct.item (h : Distinct (.arr items)) : ∀ j ∈ items, Distinct j := by
  cases h with
  | arr h => exact h

theorem Distinct.names (h : Distinct (.obj fields)) : (fields.map Prod.fst).Nodup := by
  cases h with
  | obj hnames => exact hnames

theorem Distinct.member (h : Distinct (.obj fields)) : ∀ p ∈ fields, Distinct p.2 := by
  cases h with
  | obj _ h => exact h

@[simp] theorem distinct_arr_iff : Distinct (.arr items) ↔ ∀ j ∈ items, Distinct j :=
  ⟨Distinct.item, .arr⟩

@[simp] theorem distinct_obj_iff :
    Distinct (.obj fields) ↔ (fields.map Prod.fst).Nodup ∧ ∀ p ∈ fields, Distinct p.2 :=
  ⟨fun h => ⟨h.names, h.member⟩, fun h => .obj h.1 h.2⟩

@[simp] theorem numberIn_num_iff {m : Number} : NumberIn n (.num m) ↔ n = m := by
  constructor
  · intro h
    cases h
    rfl
  · rintro rfl
    exact .self

@[simp] theorem not_numberIn_null : ¬ NumberIn n .null := by
  intro h
  cases h

@[simp] theorem not_numberIn_str {s : String} : ¬ NumberIn n (.str s) := by
  intro h
  cases h

@[simp] theorem numberIn_arr_iff : NumberIn n (.arr items) ↔ ∃ j ∈ items, NumberIn n j := by
  constructor
  · intro h
    cases h with
    | item hj h => exact ⟨_, hj, h⟩
  · rintro ⟨j, hj, h⟩
    exact .item hj h

@[simp] theorem numberIn_obj_iff :
    NumberIn n (.obj fields) ↔ ∃ p ∈ fields, NumberIn n p.2 := by
  constructor
  · intro h
    cases h with
    | member hp h => exact ⟨_, hp, h⟩
  · rintro ⟨p, hp, h⟩
    exact .member hp h

/-- What is found is a member. -/
theorem mem_of_lookup (h : fields.lookup name = some j) : (name, j) ∈ fields := by
  obtain ⟨before, after, rfl, -⟩ := List.lookup_eq_some_iff.mp h
  exact List.mem_append_right _ (.head _)

end Parts

/-! ### Below a path -/

section Below

variable {j below : Json} {step : Step} {path : List Step} {n : Number}

/-- Names stay distinct below. -/
theorem Distinct.child (h : Distinct j) (hchild : j.child step = some below) : Distinct below := by
  cases j with
  | arr items =>
      cases step with
      | index i => exact h.item below (List.mem_of_getElem? hchild)
      | name s => cases hchild
  | obj fields =>
      cases step with
      | name s => exact h.member _ (mem_of_lookup hchild)
      | index i => cases hchild
  | null | bool | num | str => cases hchild

/-- Names stay distinct along a path. -/
theorem Distinct.at (h : Distinct j) (hat : j.at path = some below) : Distinct below := by
  induction path generalizing j with
  | nil => rwa [← Option.some.inj hat]
  | cons step path ih =>
      obtain ⟨next, hchild, hnext⟩ := Option.bind_eq_some_iff.mp hat
      exact ih (h.child hchild) hnext

/-- A number below is one of the document. -/
theorem NumberIn.of_child (hchild : j.child step = some below) (h : NumberIn n below) :
    NumberIn n j := by
  cases j with
  | arr items =>
      cases step with
      | index i => exact .item (List.mem_of_getElem? hchild) h
      | name s => cases hchild
  | obj fields =>
      cases step with
      | name s => exact .member (mem_of_lookup hchild) h
      | index i => cases hchild
  | null | bool | num | str => cases hchild

/-- A number along a path is one of the document. -/
theorem NumberIn.of_at (hat : j.at path = some below) (h : NumberIn n below) : NumberIn n j := by
  induction path generalizing j with
  | nil => rwa [Option.some.inj hat]
  | cons step path ih =>
      obtain ⟨next, hchild, hnext⟩ := Option.bind_eq_some_iff.mp hat
      exact .of_child hchild (ih hnext)

end Below

end Js
