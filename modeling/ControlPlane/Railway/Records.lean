/-
ControlPlane/Railway/Records.lean

Writing one member of a record, and the record to write below.

`setMember` leaves every path alone that does not start with the member
(`nodeAt_setMember_other`); `asRecord` is what is below the member where the member is a
record or absent (`nodeAt_asRecord`).  Neither names a member twice, or brings a number
that was not there.
-/
import ControlPlane.Js.Document
import ControlPlane.Railway.Instance
import Mathlib.Data.List.Nodup

namespace Railway

open Js

/-! ### Setting a member -/

section Members

variable {fields : List (String × Json)} {j v : Json} {name : String} {n : Number}

theorem hasOwn_eq_false (h : (Json.obj fields).hasOwn name = false) :
    ∀ p ∈ fields, p.1 ≠ name := by
  have hlookup : fields.lookup name = none := by
    rw [← Option.isNone_iff_eq_none, ← Option.not_isSome]
    show (!(Json.obj fields).hasOwn name) = true
    rw [h]
    rfl
  intro p hp hname
  have hne := List.lookup_eq_none_iff.mp hlookup p hp
  exact bne_iff_ne.mp hne hname.symm

/-- A member that is there keeps its place. -/
theorem setMember_own (h : (Json.obj fields).hasOwn name = true) :
    setMember (.obj fields) name v =
      .obj (fields.map fun field => if field.1 = name then (name, v) else field) := by
  rw [setMember, if_pos h]
  rfl

/-- A member that is not there comes last. -/
theorem setMember_new (h : (Json.obj fields).hasOwn name = false) :
    setMember (.obj fields) name v = .obj (fields ++ [(name, v)]) := by
  rw [setMember, if_neg (by rw [h]; exact Bool.false_ne_true)]
  rfl

/-- The member that was set. -/
theorem child_setMember_self :
    (setMember (.obj fields) name v).child (.name name) = some v := by
  cases hown : (Json.obj fields).hasOwn name with
  | true =>
      rw [setMember_own hown]
      show List.lookup name _ = some v
      have hsome : (fields.lookup name).isSome = true := hown
      clear hown
      induction fields with
      | nil => cases hsome
      | cons field fields ih =>
          obtain ⟨key, w⟩ := field
          rw [List.map_cons]
          by_cases hkey : key = name
          · rw [if_pos hkey, List.lookup_cons, beq_self_eq_true]
          · have hne : (name == key) = false := beq_eq_false_iff_ne.mpr (Ne.symm hkey)
            rw [List.lookup_cons, hne] at hsome
            rw [if_neg hkey, List.lookup_cons, hne]
            exact ih hsome
  | false =>
      rw [setMember_new hown]
      show List.lookup name (fields ++ [(name, v)]) = some v
      have hnone : fields.lookup name = none := by
        rw [List.lookup_eq_none_iff]
        intro p hp
        exact bne_iff_ne.mpr (Ne.symm (hasOwn_eq_false hown p hp))
      rw [List.lookup_append, hnone, List.lookup_cons, beq_self_eq_true]
      rfl

/-- The others are as they were. -/
theorem child_setMember_other {step : Step} (h : step ≠ .name name) :
    (setMember (.obj fields) name v).child step = (Json.obj fields).child step := by
  cases step with
  | index i =>
      cases hown : (Json.obj fields).hasOwn name with
      | true => rw [setMember_own hown]; rfl
      | false => rw [setMember_new hown]; rfl
  | name other =>
      have hne : (other == name) = false :=
        beq_eq_false_iff_ne.mpr fun heq => h (congrArg Step.name heq)
      cases hown : (Json.obj fields).hasOwn name with
      | true =>
          rw [setMember_own hown]
          show List.lookup other _ = fields.lookup other
          clear hown
          induction fields with
          | nil => rfl
          | cons field fields ih =>
              obtain ⟨key, w⟩ := field
              rw [List.map_cons, List.lookup_cons]
              by_cases hkey : key = name
              · rw [if_pos hkey, List.lookup_cons, hne, hkey, hne]
                exact ih
              · rw [if_neg hkey, List.lookup_cons, ih]
      | false =>
          rw [setMember_new hown]
          show List.lookup other (fields ++ [(name, v)]) = fields.lookup other
          rw [List.lookup_append, List.lookup_cons, hne]
          cases fields.lookup other with
          | none => rfl
          | some w => rfl

theorem setMember_obj : ∃ fields', setMember (.obj fields) name v = .obj fields' := by
  cases hown : (Json.obj fields).hasOwn name with
  | true => exact ⟨_, setMember_own hown⟩
  | false => exact ⟨_, setMember_new hown⟩

/-- Below the member stands what was set. -/
theorem nodeAt_setMember_self (path : List Step) :
    (setMember (.obj fields) name v).nodeAt (.name name :: path) = v.nodeAt path :=
  nodeAt_cons_of_child child_setMember_self

/-- Elsewhere nothing has changed. -/
theorem nodeAt_setMember_other {step : Step} (h : step ≠ .name name) (path : List Step) :
    (setMember (.obj fields) name v).nodeAt (step :: path) =
      (Json.obj fields).nodeAt (step :: path) := by
  rw [nodeAt_cons, nodeAt_cons, child_setMember_other h]

theorem nodeAt_setMember_nil : (setMember (.obj fields) name v).nodeAt [] = some .obj := by
  have hobj : ∃ fields', setMember (.obj fields) name v = .obj fields' := setMember_obj
  obtain ⟨fields', h⟩ := hobj
  rw [h]
  rfl

theorem distinct_fields (h : Distinct j) : Distinct (.obj j.fields) := by
  cases j with
  | obj fields => exact h
  | null | bool | num | str | arr =>
      exact .obj List.nodup_nil fun p hp => absurd hp List.not_mem_nil

/-- Setting a member keeps the names distinct. -/
theorem distinct_setMember (h : Distinct j) (hv : Distinct v) :
    Distinct (setMember j name v) := by
  have hfields := distinct_fields h
  show Distinct (setMember (.obj j.fields) name v)
  cases hown : (Json.obj j.fields).hasOwn name with
  | true =>
      rw [setMember_own hown]
      have hnames : (j.fields.map fun field => if field.1 = name then (name, v) else field).map
          Prod.fst = j.fields.map Prod.fst := by
        rw [List.map_map]
        refine List.map_congr_left fun field _ => ?_
        show (if field.1 = name then (name, v) else field).1 = field.1
        split_ifs with hname
        · exact hname.symm
        · rfl
      refine .obj (hnames ▸ hfields.names) fun p hp => ?_
      obtain ⟨field, hfield, rfl⟩ := List.mem_map.mp hp
      split_ifs
      · exact hv
      · exact hfields.member field hfield
  | false =>
      rw [setMember_new hown]
      refine .obj ?_ fun p hp => ?_
      · rw [List.map_append]
        refine List.nodup_append'.mpr ⟨hfields.names, List.nodup_singleton _, ?_⟩
        intro key hkey hnew
        obtain ⟨p, hp, rfl⟩ := List.mem_map.mp hkey
        exact hasOwn_eq_false hown p hp (List.mem_singleton.mp hnew)
      · rcases List.mem_append.mp hp with hp | hp
        · exact hfields.member p hp
        · rw [List.mem_singleton.mp hp]
          exact hv

theorem numberIn_fields {p : String × Json} (hp : p ∈ j.fields) (h : NumberIn n p.2) :
    NumberIn n j := by
  cases j with
  | obj fields => exact .member hp h
  | null | bool | num | str | arr => exact absurd hp List.not_mem_nil

/-- A number is in what was set, or was there before. -/
theorem numberIn_setMember (h : NumberIn n (setMember j name v)) :
    NumberIn n j ∨ NumberIn n v := by
  have hset : NumberIn n (setMember (.obj j.fields) name v) := h
  cases hown : (Json.obj j.fields).hasOwn name with
  | true =>
      rw [setMember_own hown] at hset
      cases hset with
      | @member _ p hp hn =>
          obtain ⟨field, hfield, rfl⟩ := List.mem_map.mp hp
          split_ifs at hn
          · exact .inr hn
          · exact .inl (numberIn_fields hfield hn)
  | false =>
      rw [setMember_new hown] at hset
      cases hset with
      | @member _ p hp hn =>
          rcases List.mem_append.mp hp with hp | hp
          · exact .inl (numberIn_fields hp hn)
          · rw [List.mem_singleton.mp hp] at hn
            exact .inr hn

end Members

/-! ### Records below a record -/

section Records

variable {j v : Json} {name : String} {n : Number}

/-- A member that is read is one of the object's own. -/
theorem get_eq_json : j.get name = .json v ↔ j.child (.name name) = some v := by
  have hchild : j.child (.name name) = j.fields.lookup name := by
    cases j with
    | obj fields => rfl
    | null | bool | num | str | arr => rfl
  rw [hchild, Json.get]
  cases j.fields.lookup name with
  | some w => exact ⟨fun h => by rw [Value.json.inj h], fun h => by rw [Option.some.inj h]⟩
  | none =>
      constructor
      · intro h
        split_ifs at h
      · intro h
        cases h

/-- A member that is an object is read as it is. -/
theorem recordMember_eq_some {fields : List (String × Json)} :
    recordMember j name = some (.obj fields) ↔ j.child (.name name) = some (.obj fields) := by
  rw [← get_eq_json, recordMember]
  constructor
  · intro h
    split at h
    · rename_i _ fields' hget
      rw [hget, Option.some.inj h]
    · cases h
  · intro h
    rw [h]

theorem recordMember_obj {r : Json} (h : recordMember j name = some r) :
    ∃ fields, r = .obj fields := by
  rw [recordMember] at h
  split at h
  · rename_i fields _
    exact ⟨fields, (Option.some.inj h).symm⟩
  · cases h

/-- The record to write below is the member that is there, or an empty one. -/
theorem asRecord_cases (j : Json) (name : String) :
    (∃ fields, j.child (.name name) = some (.obj fields) ∧ asRecord j name = .obj fields) ∨
    (recordMember j name = none ∧ asRecord j name = .obj []) := by
  cases hmember : recordMember j name with
  | none =>
      refine .inr ⟨rfl, ?_⟩
      rw [asRecord, hmember]
      rfl
  | some r =>
      obtain ⟨fields, rfl⟩ := recordMember_obj hmember
      refine .inl ⟨fields, recordMember_eq_some.mp hmember, ?_⟩
      rw [asRecord, hmember]
      rfl

theorem asRecord_obj (j : Json) (name : String) : ∃ fields, asRecord j name = .obj fields := by
  rcases asRecord_cases j name with ⟨fields, -, h⟩ | ⟨-, h⟩
  · exact ⟨fields, h⟩
  · exact ⟨[], h⟩

/-- A member that is absent or a record is read as what is below it. -/
theorem at_asRecord (h : j.nodeAt [.name name] = none ∨ j.nodeAt [.name name] = some .obj)
    (step : Step) (path : List Step) :
    (asRecord j name).at (step :: path) = j.at (.name name :: step :: path) := by
  rcases asRecord_cases j name with ⟨fields, hchild, hrecord⟩ | ⟨hmember, hrecord⟩
  · rw [hrecord]
    show _ = (j.child (.name name)).bind fun below => below.at (step :: path)
    rw [hchild]
    rfl
  · have hchild : j.child (.name name) = none := by
      cases hchild : j.child (.name name) with
      | none => rfl
      | some below =>
          have hnode : j.nodeAt [.name name] = some below.node := nodeAt_cons_of_child hchild
          rcases h with h | h
          · rw [hnode] at h
            cases h
          · rw [hnode] at h
            obtain ⟨fields, rfl⟩ := node_eq_obj (Option.some.inj h)
            rw [recordMember_eq_some.mpr hchild] at hmember
            cases hmember
    rw [hrecord]
    show _ = (j.child (.name name)).bind fun below => below.at (step :: path)
    rw [hchild]
    cases step with
    | name s => rfl
    | index i => rfl

/-- Below a member that is an object, or not there, nothing has changed. -/
theorem nodeAt_asRecord (h : j.nodeAt [.name name] = none ∨ j.nodeAt [.name name] = some .obj)
    (step : Step) (path : List Step) :
    (asRecord j name).nodeAt (step :: path) = j.nodeAt (.name name :: step :: path) :=
  congrArg (Option.map Json.node) (at_asRecord h step path)

/-- What is read keeps its names distinct. -/
theorem distinct_asRecord (h : Distinct j) : Distinct (asRecord j name) := by
  rcases asRecord_cases j name with ⟨fields, hchild, hrecord⟩ | ⟨-, hrecord⟩
  · rw [hrecord]
    exact h.child hchild
  · rw [hrecord]
    exact .obj List.nodup_nil fun p hp => absurd hp List.not_mem_nil

/-- What is read has no other numbers. -/
theorem numberIn_asRecord (h : NumberIn n (asRecord j name)) : NumberIn n j := by
  rcases asRecord_cases j name with ⟨fields, hchild, hrecord⟩ | ⟨-, hrecord⟩
  · rw [hrecord] at h
    exact .of_child hchild h
  · rw [hrecord] at h
    cases h with
    | member hp _ => exact absurd hp List.not_mem_nil

end Records

end Railway
