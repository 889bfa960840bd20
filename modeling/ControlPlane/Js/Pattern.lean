/-
ControlPlane/Js/Pattern.lean

Regular expressions as the matchers they stand for.

A pattern gives every way it matches at a cursor, in the order in which a backtracking
engine tries them: `many` takes as much as it can and gives it back, `lazily` the other
way round.  What is captured is what the pattern returns.  The first way is the match.

A cursor knows the character before it, which is all that `^` looks at.  `c.Moves u c'`
says that `c'` is behind the text `u` at `c`; each pattern has a lemma about the ways
it matches, in terms of `Moves`, so that a pattern can be read as what it matches
without the order.  The order matters where the first match is asked for.
-/
import ControlPlane.Js.Text
import Mathlib.Data.List.Basic
import Mathlib.Data.List.Forall2

namespace Js

/-! ### Cursors -/

/-- A place in a text: the character before it, and what is left. -/
structure Cursor where
  prev : Option Char
  rest : List Char

/-- The place before the first character. -/
def Cursor.start (text : List Char) : Cursor := ⟨none, text⟩

/-- The character before the place behind `u`. -/
def lastOf (prev : Option Char) (u : List Char) : Option Char := u.getLast?.or prev

/-- The text `u` stands at `c`, and `c'` is behind it. -/
def Cursor.Moves (c : Cursor) (u : List Char) (c' : Cursor) : Prop :=
  c.rest = u ++ c'.rest ∧ c'.prev = lastOf c.prev u

section Cursors

variable {c c' c'' : Cursor} {u v : List Char} {a : Char} {prev : Option Char}

theorem lastOf_cons : lastOf prev (a :: u) = lastOf (some a) u := by
  rw [lastOf, lastOf, List.getLast?_cons]
  cases u.getLast? with
  | none => rfl
  | some b => rfl

/-- The last character of two texts. -/
theorem lastOf_append : lastOf prev (u ++ v) = lastOf (lastOf prev u) v := by
  rw [lastOf, lastOf, lastOf, List.getLast?_append, Option.or_assoc]

theorem moves_nil : c.Moves [] c' ↔ c' = c := by
  constructor
  · rintro ⟨hrest, hprev⟩
    obtain ⟨prev, rest⟩ := c
    obtain ⟨prev', rest'⟩ := c'
    obtain rfl : rest = rest' := hrest
    obtain rfl : prev' = prev := hprev
    rfl
  · rintro rfl
    exact ⟨rfl, rfl⟩

/-- Moving over two texts is moving over the one and then the other. -/
theorem moves_append :
    c.Moves (u ++ v) c'' ↔ ∃ c', c.Moves u c' ∧ c'.Moves v c'' := by
  constructor
  · rintro ⟨hrest, hprev⟩
    refine ⟨⟨lastOf c.prev u, v ++ c''.rest⟩, ⟨?_, rfl⟩, rfl, ?_⟩
    · rw [hrest, List.append_assoc]
    · rw [hprev, lastOf_append]
  · rintro ⟨c', ⟨hrest, hprev⟩, hrest', hprev'⟩
    refine ⟨?_, ?_⟩
    · rw [hrest, hrest', List.append_assoc]
    · rw [hprev', hprev, lastOf_append]

theorem moves_cons : c.Moves (a :: u) c'' ↔ ∃ c', c.Moves [a] c' ∧ c'.Moves u c'' :=
  moves_append (u := [a])

theorem moves_single : c.Moves [a] c' ↔ c.rest = a :: c'.rest ∧ c'.prev = some a := Iff.rfl

/-- The place behind a text is only one. -/
theorem Cursor.Moves.unique (h : c.Moves u c') (h' : c.Moves u c'') : c' = c'' := by
  obtain ⟨prev', rest'⟩ := c'
  obtain ⟨prev'', rest''⟩ := c''
  obtain rfl : rest' = rest'' := List.append_cancel_left (h.1.symm.trans h'.1)
  obtain rfl : prev' = prev'' := h.2.trans h'.2.symm
  rfl

end Cursors

/-! ### Patterns -/

/-- The letters of the alphabet as small ones. -/
def foldCase (c : Char) : Char :=
  if 'A' ≤ c ∧ c ≤ 'Z' then Char.ofNat (c.toNat + 32) else c

/-- The same word but for capitals. -/
def SameNoCase (w u : List Char) : Prop := w.map foldCase = u.map foldCase

/-- The ways to match at a cursor, the one to try first first. -/
def Pattern (α : Type) : Type := Cursor → List (α × Cursor)

namespace Pattern

variable {α β : Type}

instance : Monad Pattern where
  pure a := fun c => [(a, c)]
  bind m f := fun c => (m c).flatMap fun way => f way.1 way.2

/-- A character of a class. -/
def one (p : Char → Bool) : Pattern Char := fun c =>
  match c.rest with
  | a :: rest => if p a then [(a, ⟨some a, rest⟩)] else []
  | [] => []

/-- Matches of `p*`, the longest first. -/
def manyFrom (p : Char → Bool) : Option Char → List Char → List (List Char × Cursor)
  | prev, [] => [([], ⟨prev, []⟩)]
  | prev, a :: rest =>
    if p a then
      ((manyFrom p (some a) rest).map fun way => (a :: way.1, way.2)) ++ [([], ⟨prev, a :: rest⟩)]
    else [([], ⟨prev, a :: rest⟩)]

/-- `p*` -/
def many (p : Char → Bool) : Pattern (List Char) := fun c => manyFrom p c.prev c.rest

/-- Matches of `p*?`, the shortest first. -/
def lazilyFrom (p : Char → Bool) : Option Char → List Char → List (List Char × Cursor)
  | prev, [] => [([], ⟨prev, []⟩)]
  | prev, a :: rest =>
    ([], ⟨prev, a :: rest⟩) ::
      if p a then (lazilyFrom p (some a) rest).map fun way => (a :: way.1, way.2) else []

/-- `p*?` -/
def lazily (p : Char → Bool) : Pattern (List Char) := fun c => lazilyFrom p c.prev c.rest

/-- `p+` -/
def several (p : Char → Bool) : Pattern (List Char) := do
  let a ← one p
  let u ← many p
  pure (a :: u)

/-- `m|m'` -/
def either (m m' : Pattern α) : Pattern α := fun c => m c ++ m' c

/-- `p?` -/
def optional (m : Pattern (List Char)) : Pattern (List Char) := either m (pure [])

/-- A word, letter by letter. -/
def wordBy (same : Char → Char → Bool) : List Char → Pattern (List Char)
  | [] => pure []
  | w :: word => do
    let a ← one (same w)
    let u ← wordBy same word
    pure (a :: u)

/-- A pattern for this very text. -/
def word (w : String) : Pattern (List Char) := wordBy (fun a b => a == b) w.toList

/-- A word under the flag `i`. -/
def wordNoCase (w : String) : Pattern (List Char) :=
  wordBy (fun a b => foldCase a == foldCase b) w.toList

/-- What holds at a cursor, with nothing matched. -/
def check (p : Cursor → Bool) : Pattern Unit := fun c => if p c then [((), c)] else []

/-- `^` -/
def textStart : Pattern Unit := check fun c => c.prev.isNone

/-- `$` -/
def textEnd : Pattern Unit := check fun c => c.rest.isEmpty

/-- `^` under the flag `m` -/
def lineStart : Pattern Unit := check fun c => c.prev.all isLineTerminator

/-- `$` under the flag `m` -/
def lineEnd : Pattern Unit := check fun c => c.rest.head?.all isLineTerminator

/-- `(?=m)` -/
def ahead (m : Pattern α) : Pattern Unit := check fun c => !(m c).isEmpty

/-- What a pattern that starts with `^` matches in a text. -/
def exec (m : Pattern α) (text : List Char) : Option α :=
  ((m (Cursor.start text)).head?).map Prod.fst

/-- Whether the pattern matches somewhere. -/
def test (m : Pattern α) (text : List Char) : Bool := (m.exec text).isSome

/-- All matches from a place on, one after the other; `skip` characters of the last match are
still ahead. -/
def findAllFrom (m : Pattern α) : Option Char → ℕ → List Char → List α
  | _, _ + 1, [] => []
  | prev, 0, [] => ((m ⟨prev, []⟩).head?.map Prod.fst).toList
  | _, skip + 1, a :: rest => findAllFrom m (some a) skip rest
  | prev, 0, a :: rest =>
    match (m ⟨prev, a :: rest⟩).head? with
    | some (x, c) => x :: findAllFrom m (some a) (rest.length - c.rest.length) rest
    | none => findAllFrom m (some a) 0 rest

/-- The matches under the flag `g`. -/
def findAll (m : Pattern α) (text : List Char) : List α := findAllFrom m none 0 text

/-- The text with each match under the flag `g` replaced by what is read from it; `skip`
characters of the last match are still ahead. -/
def replaceAllFrom (m : Pattern (List Char)) : Option Char → ℕ → List Char → List Char
  | _, _ + 1, [] => []
  | prev, 0, [] => ((m ⟨prev, []⟩).head?.map Prod.fst).getD []
  | _, skip + 1, a :: rest => replaceAllFrom m (some a) skip rest
  | prev, 0, a :: rest =>
    match (m ⟨prev, a :: rest⟩).head? with
    | none => a :: replaceAllFrom m (some a) 0 rest
    | some (x, c) =>
      -- behind an empty match the next character is kept
      if c.rest.length = (a :: rest).length then x ++ a :: replaceAllFrom m (some a) 0 rest
      else x ++ replaceAllFrom m (some a) (rest.length - c.rest.length) rest

/-- `text.replace(m, …)` under the flag `g`. -/
def replaceAll (m : Pattern (List Char)) (text : List Char) : List Char :=
  replaceAllFrom m none 0 text

/-! ### What a pattern matches -/

section Ways

variable {c c' c'' : Cursor} {u v : List Char} {a : Char} {p : Char → Bool}

@[simp] theorem mem_pure {x y : α} : (y, c') ∈ (pure x : Pattern α) c ↔ y = x ∧ c' = c := by
  show (y, c') ∈ [(x, c)] ↔ _
  rw [List.mem_singleton, Prod.mk.injEq]

/-- One pattern after the other. -/
theorem mem_bind {m : Pattern α} {f : α → Pattern β} {y : β} :
    (y, c'') ∈ (m >>= f) c ↔ ∃ x c', (x, c') ∈ m c ∧ (y, c'') ∈ f x c' := by
  show (y, c'') ∈ (m c).flatMap (fun way => f way.1 way.2) ↔ _
  rw [List.mem_flatMap]
  constructor
  · rintro ⟨⟨x, c'⟩, hx, hy⟩
    exact ⟨x, c', hx, hy⟩
  · rintro ⟨x, c', hx, hy⟩
    exact ⟨(x, c'), hx, hy⟩

/-- One character. -/
theorem mem_one : (a, c') ∈ one p c ↔ p a = true ∧ c.Moves [a] c' := by
  obtain ⟨prev, rest⟩ := c
  obtain ⟨prev', rest'⟩ := c'
  rw [moves_single, one]
  cases rest with
  | nil =>
      constructor
      · intro h
        cases h
      · rintro ⟨-, h, -⟩
        cases h
  | cons b rest =>
      show (a, _) ∈ (if p b then [(b, (⟨some b, rest⟩ : Cursor))] else []) ↔
        p a = true ∧ b :: rest = a :: rest' ∧ prev' = some a
      split_ifs with hb
      · rw [List.mem_singleton, Prod.mk.injEq, Cursor.mk.injEq]
        constructor
        · rintro ⟨rfl, rfl, rfl⟩
          exact ⟨hb, rfl, rfl⟩
        · rintro ⟨-, hrest, rfl⟩
          obtain ⟨rfl, rfl⟩ := List.cons.inj hrest
          exact ⟨rfl, rfl, rfl⟩
      · constructor
        · intro h
          cases h
        · rintro ⟨ha, hrest, -⟩
          obtain ⟨rfl, -⟩ := List.cons.inj hrest
          exact absurd ha hb

/-- Any number of characters of a kind. -/
theorem mem_many : (u, c') ∈ many p c ↔ (∀ a ∈ u, p a = true) ∧ c.Moves u c' := by
  obtain ⟨prev, rest⟩ := c
  show (u, c') ∈ manyFrom p prev rest ↔ _
  induction rest generalizing prev u with
  | nil =>
      rw [manyFrom, List.mem_singleton, Prod.mk.injEq]
      constructor
      · rintro ⟨rfl, rfl⟩
        exact ⟨fun _ h => (List.not_mem_nil h).elim, moves_nil.mpr rfl⟩
      · rintro ⟨-, h⟩
        obtain ⟨rfl, -⟩ := List.append_eq_nil_iff.mp h.1.symm
        exact ⟨rfl, moves_nil.mp h⟩
  | cons b rest ih =>
      have hnil : (u, c') = ([], (⟨prev, b :: rest⟩ : Cursor)) ↔
          u = [] ∧ (⟨prev, b :: rest⟩ : Cursor).Moves u c' := by
        rw [Prod.mk.injEq]
        constructor
        · rintro ⟨rfl, rfl⟩
          exact ⟨rfl, moves_nil.mpr rfl⟩
        · rintro ⟨rfl, h⟩
          exact ⟨rfl, moves_nil.mp h⟩
      have hcons : ∀ a v, (⟨prev, b :: rest⟩ : Cursor).Moves (a :: v) c' ↔
          a = b ∧ (⟨some b, rest⟩ : Cursor).Moves v c' := by
        intro a v
        rw [moves_cons]
        constructor
        · rintro ⟨⟨prev', rest'⟩, ⟨hrest, hprev⟩, hv⟩
          obtain ⟨rfl, rfl⟩ := List.cons.inj hrest
          obtain rfl : prev' = some b := hprev
          exact ⟨rfl, hv⟩
        · rintro ⟨rfl, hv⟩
          exact ⟨_, ⟨rfl, rfl⟩, hv⟩
      rw [manyFrom]
      split_ifs with hb
      · rw [List.mem_append, List.mem_map, List.mem_singleton, hnil]
        constructor
        · rintro (⟨⟨v, cv⟩, hv, heq⟩ | ⟨rfl, h⟩)
          · obtain ⟨rfl, rfl⟩ := Prod.mk.inj heq
            obtain ⟨hall, hmoves⟩ := (ih (some b)).mp hv
            exact ⟨List.forall_mem_cons.mpr ⟨hb, hall⟩, (hcons b v).mpr ⟨rfl, hmoves⟩⟩
          · exact ⟨fun _ h => (List.not_mem_nil h).elim, h⟩
        · rintro ⟨hall, h⟩
          cases u with
          | nil => exact .inr ⟨rfl, h⟩
          | cons a v =>
              obtain ⟨rfl, hv⟩ := (hcons a v).mp h
              exact .inl ⟨(v, c'), (ih (some _)).mpr ⟨(List.forall_mem_cons.mp hall).2, hv⟩, rfl⟩
      · rw [List.mem_singleton, hnil]
        constructor
        · rintro ⟨rfl, h⟩
          exact ⟨fun _ h => (List.not_mem_nil h).elim, h⟩
        · rintro ⟨hall, h⟩
          cases u with
          | nil => exact ⟨rfl, h⟩
          | cons a v =>
              obtain ⟨rfl, -⟩ := (hcons a v).mp h
              exact absurd (List.forall_mem_cons.mp hall).1 hb

/-- At least one character of a kind. -/
theorem mem_several :
    (u, c') ∈ several p c ↔ u ≠ [] ∧ (∀ a ∈ u, p a = true) ∧ c.Moves u c' := by
  rw [several, mem_bind]
  constructor
  · rintro ⟨a, c₁, ha, h⟩
    obtain ⟨v, c₂, hv, h⟩ := mem_bind.mp h
    obtain ⟨rfl, rfl⟩ := mem_pure.mp h
    obtain ⟨ha, hmove⟩ := mem_one.mp ha
    obtain ⟨hall, hmoves⟩ := mem_many.mp hv
    exact ⟨List.cons_ne_nil a v, List.forall_mem_cons.mpr ⟨ha, hall⟩,
      moves_cons.mpr ⟨c₁, hmove, hmoves⟩⟩
  · rintro ⟨hne, hall, hmoves⟩
    cases u with
    | nil => exact absurd rfl hne
    | cons a v =>
        obtain ⟨c₁, hmove, hmoves⟩ := moves_cons.mp hmoves
        obtain ⟨ha, hall⟩ := List.forall_mem_cons.mp hall
        exact ⟨a, c₁, mem_one.mpr ⟨ha, hmove⟩, mem_bind.mpr
          ⟨v, c', mem_many.mpr ⟨hall, hmoves⟩, mem_pure.mpr ⟨rfl, rfl⟩⟩⟩

theorem mem_wordBy {same : Char → Char → Bool} {w : List Char} :
    (u, c') ∈ wordBy same w c ↔ List.Forall₂ (fun b a => same b a = true) w u ∧ c.Moves u c' := by
  induction w generalizing u c with
  | nil =>
      rw [wordBy, mem_pure, List.forall₂_nil_left_iff]
      constructor
      · rintro ⟨rfl, rfl⟩
        exact ⟨rfl, moves_nil.mpr rfl⟩
      · rintro ⟨rfl, h⟩
        exact ⟨rfl, moves_nil.mp h⟩
  | cons b w ih =>
      rw [wordBy, mem_bind]
      constructor
      · rintro ⟨a, c₁, ha, h⟩
        obtain ⟨v, c₂, hv, h⟩ := mem_bind.mp h
        obtain ⟨rfl, rfl⟩ := mem_pure.mp h
        obtain ⟨ha, hmove⟩ := mem_one.mp ha
        obtain ⟨hword, hmoves⟩ := ih.mp hv
        exact ⟨.cons ha hword, moves_cons.mpr ⟨c₁, hmove, hmoves⟩⟩
      · rintro ⟨hword, hmoves⟩
        cases hword with
        | @cons _ a _ v ha hword =>
            obtain ⟨c₁, hmove, hmoves⟩ := moves_cons.mp hmoves
            exact ⟨a, c₁, mem_one.mpr ⟨ha, hmove⟩, mem_bind.mpr
              ⟨v, c', ih.mpr ⟨hword, hmoves⟩, mem_pure.mpr ⟨rfl, rfl⟩⟩⟩

/-- This very text. -/
theorem mem_word {w : String} : (u, c') ∈ word w c ↔ u = w.toList ∧ c.Moves u c' := by
  rw [word, mem_wordBy]
  have hsame : List.Forall₂ (fun b a => (b == a) = true) w.toList u ↔ u = w.toList := by
    simp only [beq_iff_eq, List.forall₂_eq_eq_eq]
    exact eq_comm
  rw [hsame]

end Ways

/-! ### The first match -/

section First

variable {m : Pattern α} {x : α} {c c' : Cursor} {text : List Char}

/-- What a pattern finds is one of the ways it matches. -/
theorem mem_of_head? (h : (m c).head? = some (x, c')) : (x, c') ∈ m c :=
  List.mem_of_head? h

end First

/-! ### All matches -/

section All

variable {m : Pattern α} {x : α} {prev : Option Char} {u v : List Char}

/-- What a match has covered is skipped. -/
theorem replaceAllFrom_skip {m : Pattern (List Char)} :
    m.replaceAllFrom prev u.length (u ++ v) = m.replaceAllFrom (lastOf prev u) 0 v := by
  induction u generalizing prev with
  | nil => rfl
  | cons a u ih =>
      show m.replaceAllFrom (some a) u.length (u ++ v) = _
      rw [ih, lastOf_cons]

/-- A match is replaced, and what is behind it is gone on with. -/
theorem replaceAllFrom_match {m : Pattern (List Char)} {x : List Char} (hu : u ≠ [])
    (h : (m ⟨prev, u ++ v⟩).head? = some (x, ⟨lastOf prev u, v⟩)) :
    m.replaceAllFrom prev 0 (u ++ v) = x ++ m.replaceAllFrom (lastOf prev u) 0 v := by
  cases u with
  | nil => exact absurd rfl hu
  | cons a u =>
      have hskip : (u ++ v).length - v.length = u.length := by
        rw [List.length_append, Nat.add_sub_cancel]
      have hlong : v.length ≠ (a :: (u ++ v)).length := by
        rw [List.length_cons, List.length_append]
        omega
      rw [List.cons_append] at h
      rw [List.cons_append, replaceAllFrom, h]
      show (if v.length = (a :: (u ++ v)).length then _
        else x ++ m.replaceAllFrom (some a) ((u ++ v).length - v.length) (u ++ v)) = _
      rw [if_neg hlong, hskip, replaceAllFrom_skip, lastOf_cons]

/-- Where nothing is matched the text is kept. -/
theorem replaceAllFrom_none {m : Pattern (List Char)}
    (h : ∀ a b, u = a ++ b → b ≠ [] → m ⟨lastOf prev a, b ++ v⟩ = []) :
    m.replaceAllFrom prev 0 (u ++ v) = u ++ m.replaceAllFrom (lastOf prev u) 0 v := by
  induction u generalizing prev with
  | nil => rfl
  | cons ch u ih =>
      have hfail : m ⟨prev, ch :: (u ++ v)⟩ = [] := h [] (ch :: u) rfl (List.cons_ne_nil _ _)
      rw [List.cons_append, replaceAllFrom, hfail, lastOf_cons]
      show ch :: m.replaceAllFrom (some ch) 0 (u ++ v) = _
      rw [List.cons_append]
      congr 1
      refine ih fun a b heq hb => ?_
      rw [← lastOf_cons]
      exact h (ch :: a) b (congrArg (ch :: ·) heq) hb

end All

/-! ### Lazy runs -/

section Lazy

variable {m : Pattern α} {p : Char → Bool} {c c' : Cursor} {u : List Char}

end Lazy

end Pattern

end Js
