/-
ControlPlane/Workspace/Names.lean

File names of a workspace, and where they lead.

`path.join` takes a name apart at the separators of the platform and goes down, up or nowhere
for each part.  A name stays where it is put when it is a part of its own; the check of the
importer lets through exactly the names that stay on both kinds of platform, but for those
that begin like a drive (`unsafeFilename_eq_false_iff`).
-/
import ControlPlane.Js.Value
import Mathlib.Data.List.Basic

namespace Workspace

open Js

/-- An absolute path, by the names from its root down. -/
abbrev Path := List (List Char)

/-- What separates the names of a path. -/
inductive Platform where
  | posix
  | win32
deriving DecidableEq

/-- The characters that separate the parts of a path. -/
def Platform.isSeparator : Platform → Char → Bool
  | .posix, c => c == '/'
  | .win32, c => c == '/' || c == '\\'

/-- One part of a path that is joined. -/
def Path.go (path : Path) (part : List Char) : Path :=
  if part = [] ∨ part = ['.'] then path
  else if part = ['.', '.'] then path.dropLast
  else path ++ [part]

/-- `path.join(dir, name)` -/
def Path.join (platform : Platform) (dir : Path) (name : List Char) : Path :=
  (name.splitOnP platform.isSeparator).foldl Path.go dir

/-- `/^[A-Za-z]:/` -/
def startsLikeDrive : List Char → Bool
  | letter :: ':' :: _ => letter.isAlpha
  | _ => false

/-- The condition of `assertSafeWorkspaceFilename`. -/
def unsafeFilename (name : List Char) : Bool :=
  name == [] || name == ['.'] || name == ['.', '.'] || name.contains '/' || name.contains '\\' ||
    startsLikeDrive name

/-- The name stands for a file of its own in any directory it is joined to. -/
def Stays (platform : Platform) (name : List Char) : Prop :=
  ∀ dir : Path, dir.join platform name = dir ++ [name]

section Names

variable {platform : Platform} {name part : List Char} {path : Path} {p : Char → Bool}

/-- No part has a separator. -/
theorem not_separator_of_mem_splitOnP {part : List Char} (h : part ∈ name.splitOnP p) :
    ∀ c ∈ part, p c = false := by
  induction name generalizing part with
  | nil =>
      rw [List.splitOnP_nil, List.mem_singleton] at h
      intro c hc
      rw [h] at hc
      cases hc
  | cons d name ih =>
      rw [List.splitOnP_cons_eq_if_modifyHead] at h
      split_ifs at h with hd
      · rcases List.mem_cons.mp h with rfl | h
        · intro c hc
          cases hc
        · exact ih h
      · cases hparts : name.splitOnP p with
        | nil => exact absurd hparts (List.splitOnP_ne_nil p name)
        | cons first parts =>
            rw [hparts] at h ih
            rcases List.mem_cons.mp h with rfl | h
            · intro c hc
              rcases List.mem_cons.mp hc with rfl | hc
              · exact Bool.eq_false_iff.mpr hd
              · exact ih (.head _) c hc
            · exact ih (.tail _ h)

theorem go_parts (part : List Char) : path.go part ⊆ path ++ [part] := by
  unfold Path.go
  split_ifs
  · exact List.subset_append_left _ _
  · exact fun a ha => List.mem_append_left _ ((List.dropLast_sublist _).subset ha)
  · exact List.Subset.refl _

theorem foldl_go_parts (parts : List (List Char)) : parts.foldl Path.go path ⊆ path ++ parts := by
  induction parts generalizing path with
  | nil => simp
  | cons part parts ih =>
      intro a ha
      rcases List.mem_append.mp (ih ha) with ha | ha
      · rcases List.mem_append.mp (go_parts part ha) with ha | ha
        · exact List.mem_append_left _ ha
        · rw [List.mem_singleton.mp ha]
          exact List.mem_append_right _ (.head _)
      · exact List.mem_append_right _ (.tail _ ha)

/-- **Names that stay**: not empty, neither `.` nor `..`, and without a separator. -/
theorem stays_iff : Stays platform name ↔ name ≠ [] ∧ name ≠ ['.'] ∧ name ≠ ['.', '.'] ∧
    ∀ c ∈ name, platform.isSeparator c = false := by
  constructor
  · intro h
    have hroot : Path.join platform [] name = [name] := h []
    have hplain : ∀ c ∈ name, platform.isSeparator c = false := by
      have hmem : name ∈ Path.join platform [] name := by
        rw [hroot]
        exact .head _
      exact not_separator_of_mem_splitOnP (foldl_go_parts _ hmem)
    rw [Path.join, List.splitOnP_eq_singleton hplain] at hroot
    have hgo : Path.go [] name = [name] := hroot
    refine ⟨?_, ?_, ?_, hplain⟩ <;>
    · rintro rfl
      exact absurd hgo (by decide)
  · rintro ⟨hne, hdot, hdots, hplain⟩ dir
    rw [Path.join, List.splitOnP_eq_singleton hplain]
    show dir.go name = dir ++ [name]
    rw [Path.go, if_neg (not_or.mpr ⟨hne, hdot⟩), if_neg hdots]

/-- **The check is the one that is needed.**  What it lets through are the names that stay on
both kinds of platform, but for those that begin like a drive. -/
theorem unsafeFilename_eq_false_iff : unsafeFilename name = false ↔
    Stays .posix name ∧ Stays .win32 name ∧ startsLikeDrive name = false := by
  have hcontains : ∀ c, name.contains c = false ↔ ∀ d ∈ name, d ≠ c := by
    intro c
    rw [Bool.eq_false_iff, ne_eq, List.contains_iff_mem]
    exact ⟨fun h d hd heq => h (heq ▸ hd), fun h hc => h c hc rfl⟩
  have hposix : (∀ c ∈ name, Platform.posix.isSeparator c = false) ↔ ∀ c ∈ name, c ≠ '/' := by
    simp [Platform.isSeparator]
  have hwin32 : (∀ c ∈ name, Platform.win32.isSeparator c = false) ↔
      (∀ c ∈ name, c ≠ '/') ∧ ∀ c ∈ name, c ≠ '\\' := by
    simp [Platform.isSeparator, forall_and]
  rw [stays_iff, stays_iff, hposix, hwin32]
  simp only [unsafeFilename, Bool.or_eq_false_iff, beq_eq_false_iff_ne, hcontains]
  constructor
  · rintro ⟨⟨⟨⟨⟨hne, hdot⟩, hdots⟩, hslash⟩, hback⟩, hdrive⟩
    exact ⟨⟨hne, hdot, hdots, hslash⟩, ⟨hne, hdot, hdots, hslash, hback⟩, hdrive⟩
  · rintro ⟨⟨hne, hdot, hdots, hslash⟩, ⟨-, -, -, -, hback⟩, hdrive⟩
    exact ⟨⟨⟨⟨⟨hne, hdot⟩, hdots⟩, hslash⟩, hback⟩, hdrive⟩

end Names

end Workspace
