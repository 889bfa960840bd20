/-
ControlPlane/Cli/Arguments.lean

Command lines of flags.

A flag stands alone, or takes the argument behind it as its value; what it does to the
options is told by a table.  `scan` goes over the arguments once, from the left.  What it
accepts are the lines that fall into groups, each a flag with its value (`scan_eq_ok`).  Two
tables that are one up to names make the same of lines that are (`scan_map`).
-/
import Mathlib.Data.List.Basic
import Mathlib.Data.List.Forall2

namespace Cli

/-- What a flag does to the options: something with its value, or something on its own. -/
inductive Flag (ε σ : Type) where
  | taking (read : Option String → Except ε (σ → σ))
  | alone (set : σ → σ)

section Scan

variable {ε σ : Type}

/-- The loop over the arguments; a value that was read is skipped. -/
def scan (table : String → Option (Flag ε σ)) (unknown : String → ε) :
    List String → σ → Except ε σ
  | [], s => .ok s
  | [arg], s =>
    match table arg with
    | some (.taking read) => (read none).map fun set => set s
    | some (.alone set) => .ok (set s)
    | none => .error (unknown arg)
  | arg :: value :: rest, s =>
    match table arg with
    | some (.taking read) => read (some value) >>= fun set => scan table unknown rest (set s)
    | some (.alone set) => scan table unknown (value :: rest) (set s)
    | none => .error (unknown arg)

/-- A flag with the value behind it, if it takes one. -/
structure Group where
  flag : String
  value : Option String

/-- The arguments a group is written as. -/
def Group.tokens (g : Group) : List String := g.flag :: g.value.toList

/-- What a group does: its flag is in the table, and its value can be read. -/
inductive Group.Sets (table : String → Option (Flag ε σ)) : Group → (σ → σ) → Prop where
  | taking {arg value read set} (htable : table arg = some (.taking read))
      (hread : read (some value) = .ok set) : Group.Sets table ⟨arg, some value⟩ set
  | alone {arg set} (htable : table arg = some (.alone set)) : Group.Sets table ⟨arg, none⟩ set

variable {table : String → Option (Flag ε σ)} {unknown : String → ε} {args rest : List String}
  {arg value : String} {s s' : σ} {set : σ → σ} {read : Option String → Except ε (σ → σ)}

@[simp] theorem scan_nil : scan table unknown [] s = .ok s := by
  rw [scan]

theorem scan_unknown (htable : table arg = none) :
    scan table unknown (arg :: rest) s = .error (unknown arg) := by
  cases rest with
  | nil => simp [scan, htable]
  | cons value rest => simp [scan, htable]

example : scan (fun _ => none) (fun arg => arg) ["--dry"] s = .error "--dry" := by
  simp [scan]

theorem scan_alone (htable : table arg = some (.alone set)) :
    scan table unknown (arg :: rest) s = scan table unknown rest (set s) := by
  cases rest with
  | nil => simp [scan, htable]
  | cons value rest => simp [scan, htable]

theorem scan_taking (htable : table arg = some (.taking read)) :
    scan table unknown (arg :: value :: rest) s =
      read (some value) >>= fun set => scan table unknown rest (set s) := by
  simp [scan, htable]

/-- No flag reads a value that is not there. -/
def Demanding (table : String → Option (Flag ε σ)) : Prop :=
  ∀ ⦃arg read⦄, table arg = some (.taking read) → ∃ e, read none = .error e

/-- A flag at the end that wants a value has none. -/
theorem scan_last (hdemand : Demanding table) (htable : table arg = some (.taking read))
    (unknown : String → ε) (s : σ) : ∃ e, scan table unknown [arg] s = .error e := by
  obtain ⟨e, he⟩ := hdemand htable
  refine ⟨e, ?_⟩
  rw [scan, htable]
  show (read none).map _ = _
  rw [he]
  rfl

theorem scan_group {g : Group} (h : g.Sets table set) :
    scan table unknown (g.tokens ++ rest) s = scan table unknown rest (set s) := by
  cases h with
  | taking htable hread =>
      show scan table unknown (_ :: _ :: rest) s = _
      rw [scan_taking htable, hread]
      rfl
  | alone htable => exact scan_alone htable

theorem scan_groups {groups : List Group} {sets : List (σ → σ)}
    (h : List.Forall₂ (Group.Sets table) groups sets) :
    scan table unknown (groups.flatMap Group.tokens) s =
      .ok (sets.foldl (fun s set => set s) s) := by
  induction h generalizing s with
  | nil => exact scan_nil
  | cons hgroup _ ih =>
      rw [List.flatMap_cons, scan_group hgroup, ih]
      rfl

/-- **What a scan accepts** are sequences of groups. -/
theorem scan_eq_ok (hdemand : Demanding table) : scan table unknown args s = .ok s' ↔
    ∃ groups sets, args = groups.flatMap Group.tokens ∧
      List.Forall₂ (Group.Sets table) groups sets ∧ s' = sets.foldl (fun s set => set s) s := by
  constructor
  · intro h
    -- the induction is over the arguments, one group at a time
    induction hn : args.length using Nat.strongRecOn generalizing args s with
    | _ n ih =>
        cases args with
        | nil =>
            rw [scan_nil] at h
            exact ⟨[], [], rfl, .nil, (Except.ok.inj h).symm⟩
        | cons arg rest =>
            cases htable : table arg with
            | none =>
                rw [scan_unknown htable] at h
                cases h
            | some flag =>
                cases flag with
                | alone set =>
                    rw [scan_alone htable] at h
                    obtain ⟨groups, sets, rfl, hsets, rfl⟩ := ih _ (by simp [← hn]) h rfl
                    exact ⟨⟨arg, none⟩ :: groups, set :: sets, rfl,
                      .cons (.alone htable) hsets, rfl⟩
                | taking read =>
                    cases rest with
                    | nil =>
                        obtain ⟨e, he⟩ := scan_last hdemand htable unknown s
                        rw [he] at h
                        cases h
                    | cons value rest =>
                        rw [scan_taking htable] at h
                        cases hread : read (some value) with
                        | error e =>
                            rw [hread] at h
                            cases h
                        | ok set =>
                            rw [hread] at h
                            obtain ⟨groups, sets, rfl, hsets, rfl⟩ :=
                              ih rest.length (by simp only [← hn, List.length_cons]; omega) h rfl
                            exact ⟨⟨arg, some value⟩ :: groups, set :: sets, rfl,
                              .cons (.taking htable hread) hsets, rfl⟩
  · rintro ⟨groups, sets, rfl, hsets, rfl⟩
    exact scan_groups hsets

end Scan

/-! ### Two tables -/

section Renaming

variable {ε ε' σ τ : Type} {name : String → String} {view : σ → τ}

/-- The second flag does what the first does, for a value under its new name. -/
inductive Flag.Renamed (name : String → String) (view : σ → τ) :
    Option (Flag ε σ) → Option (Flag ε' τ) → Prop where
  | taking {read read'} (h : ∀ value : Option String,
      (∃ e e', read value = .error e ∧ read' (value.map name) = .error e') ∨
        ∃ set set', read value = .ok set ∧ read' (value.map name) = .ok set' ∧
          ∀ s, view (set s) = set' (view s)) :
      Flag.Renamed name view (some (.taking read)) (some (.taking read'))
  | alone {set set'} (h : ∀ s, view (set s) = set' (view s)) :
      Flag.Renamed name view (some (.alone set)) (some (.alone set'))
  | unknown : Flag.Renamed name view none none

/-- **Two tables that are one up to names** accept the same lines up to names, and make the same
of them. -/
theorem scan_map {table : String → Option (Flag ε σ)} {table' : String → Option (Flag ε' τ)}
    (h : ∀ arg, Flag.Renamed name view (table arg) (table' (name arg))) (unknown : String → ε)
    (unknown' : String → ε') (args : List String) (s : σ) :
    (scan table' unknown' (args.map name) (view s)).toOption =
      (scan table unknown args s).toOption.map view := by
  induction hn : args.length using Nat.strongRecOn generalizing args s with
  | _ n ih =>
      cases args with
      | nil =>
          rw [List.map_nil, scan_nil, scan_nil]
          rfl
      | cons arg rest =>
          have hflag := h arg
          rw [List.map_cons]
          generalize htable : table arg = flag at hflag
          generalize htable' : table' (name arg) = flag' at hflag
          cases hflag with
          | unknown =>
              rw [scan_unknown htable, scan_unknown htable']
              rfl
          | @alone set set' hset =>
              rw [scan_alone htable, scan_alone htable', ← hset]
              exact ih _ (by simp [← hn]) _ _ rfl
          | @taking read read' hread =>
              cases rest with
              | nil =>
                  rw [List.map_nil, scan, scan, htable, htable']
                  rcases hread none with ⟨e, e', he, he'⟩ | ⟨set, set', hset, hset', hview⟩
                  · simp only [he, show read' none = _ from he']
                    rfl
                  · simp only [hset, show read' none = _ from hset']
                    show some (set' (view s)) = some (view (set s))
                    rw [hview]
              | cons value rest =>
                  rw [List.map_cons, scan_taking htable, scan_taking htable']
                  rcases hread (some value) with ⟨e, e', he, he'⟩ | ⟨set, set', hset, hset', hview⟩
                  · simp only [he, show read' (some (name value)) = _ from he']
                    rfl
                  · simp only [hset, show read' (some (name value)) = _ from hset']
                    show (scan table' unknown' _ (set' (view s))).toOption = _
                    rw [← hview]
                    exact ih rest.length (by simp only [← hn, List.length_cons]; omega) _ _ rfl

end Renaming

end Cli
