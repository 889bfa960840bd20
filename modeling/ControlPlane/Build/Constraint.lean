/-
ControlPlane/Build/Constraint.lean

The two patterns that relax the `"openclaw"` version constraint of a `package.json`, and
what they do to a JSON text.

A pattern sees characters.  What it is meant for are tokens: the string behind the name
`"openclaw"` and a colon.  `Token` is the part of the JSON syntax this is about, strings as
they are written and other characters one by one, and `relaxTokens` the rewriting on it, a
machine that remembers where it is.  On the text of well-formed tokens the pattern does what
the machine does (`replaceAllFrom_textOf`).

Two things in the text would fool the pattern, and `Faithful` excludes them: a name that
ends in an escaped quote and `openclaw`, and a constraint with an escaped quote in it.
-/
import ControlPlane.Js.Pattern
import Mathlib.Data.List.TakeWhile

namespace Build

open Js

/-! ### The patterns -/

/-- The name of the members that are relaxed. -/
def openclaw : List Char := "openclaw".toList

/-- `("openclaw"\s*:\s*")<kind>[^"]+(")`, replaced by `$1*$2`. -/
def constraintPattern (kind : String) : Pattern (List Char) := do
  let name ← Pattern.word "\"openclaw\""
  let before ← Pattern.many isWhiteSpace
  let colon ← Pattern.word ":"
  let after ← Pattern.many isWhiteSpace
  let opening ← Pattern.word "\""
  let _ ← Pattern.word kind
  let _ ← Pattern.several (· != '"')
  let closing ← Pattern.word "\""
  pure (name ++ before ++ colon ++ after ++ opening ++ ['*'] ++ closing)

/-- The pattern of a range. -/
def RANGE_CONSTRAINT_RE : Pattern (List Char) := constraintPattern ">="

/-- The pattern of a link into the workspace. -/
def WORKSPACE_CONSTRAINT_RE : Pattern (List Char) := constraintPattern "workspace:"

/-- The text of a `package.json` after both replacements. -/
def relaxConstraints (original : List Char) : List Char :=
  WORKSPACE_CONSTRAINT_RE.replaceAll (RANGE_CONSTRAINT_RE.replaceAll original)

/-! ### Tokens -/

/-- A string as it is written between its quotes, or another character. -/
inductive Token where
  | string (raw : List Char)
  | mark (c : Char)
  deriving DecidableEq

/-- A token as it is written. -/
def Token.text : Token → List Char
  | .string raw => '"' :: raw ++ ['"']
  | .mark c => [c]

/-- The text of the tokens. -/
def textOf (ts : List Token) : List Char := ts.flatMap Token.text

/-- Characters that are no string, one by one. -/
def marks (cs : List Char) : List Token := cs.map Token.mark

/-- Where a reader of the tokens is: behind a string, behind a string and a colon, or
elsewhere.  Behind a colon the string is the name of a member. -/
inductive Place where
  | behind (name : List Char)
  | value (name : List Char)
  | other
  deriving DecidableEq

/-- The place behind a character. -/
def Place.mark (place : Place) (c : Char) : Place :=
  if isWhiteSpace c then place
  else match place with
    | .behind name => if c = ':' then .value name else .other
    | _ => .other

/-- A constraint of the kind, with something in it. -/
def constrained (kind raw : List Char) : Bool :=
  kind.isPrefixOf raw && decide (kind.length < raw.length)

/-- The value of a member `"openclaw"` becomes `"*"` if `p` holds of it. -/
def relaxTokens (p : List Char → Bool) : Place → List Token → List Token
  | _, [] => []
  | place, .mark c :: rest => .mark c :: relaxTokens p (place.mark c) rest
  | place, .string raw :: rest =>
    let raw' := if place = .value openclaw ∧ p raw = true then ['*'] else raw
    .string raw' :: relaxTokens p (.behind raw') rest

/-- Every quote is escaped. -/
def escaped : List Char → Bool
  | [] => true
  | '\\' :: _ :: raw => escaped raw
  | c :: raw => c != '"' && c != '\\' && escaped raw

/-- Tokens as JSON has them, in which the pattern finds what it is meant for: no constraint
has a name that ends in an escaped quote and `openclaw`, and no constraint of `"openclaw"`
has an escaped quote in it. -/
def faithful (kind : List Char) : Place → List Token → Bool
  | _, [] => true
  | place, .mark c :: rest => c != '"' && faithful kind (place.mark c) rest
  | place, .string raw :: rest =>
    escaped raw && decide (rest.head? ≠ some (.mark 'o')) &&
      (match place with
        | .value name => !constrained kind raw ||
            (!('"' :: openclaw).isSuffixOf name && (name != openclaw || !raw.contains '"'))
        | _ => true) &&
      faithful kind (.behind raw) rest

/-! ### What a pattern matches -/

section Match

variable {kind : String} {c c' : Cursor} {x : List Char}

/-- The name as it is written. -/
@[irreducible] def nameText : List Char := "\"openclaw\"".toList

theorem nameText_eq : nameText = '"' :: openclaw ++ ['"'] := by
  unfold nameText
  decide +kernel

/-- The member the pattern looks for, with blanks `u` and `v` around its colon. -/
def memberText (u v raw : List Char) : List Char :=
  nameText ++ u ++ ':' :: v ++ '"' :: raw ++ ['"']

theorem mem_constraintPattern : (x, c') ∈ constraintPattern kind c ↔ ∃ u v w,
    (∀ a ∈ u, isWhiteSpace a = true) ∧ (∀ a ∈ v, isWhiteSpace a = true) ∧ w ≠ [] ∧ '"' ∉ w ∧
      x = memberText u v ['*'] ∧ c.Moves (memberText u v (kind.toList ++ w)) c' := by
  have htext : ∀ u v w : List Char, memberText u v (kind.toList ++ w) =
      nameText ++ (u ++ (":".toList ++ (v ++ ("\"".toList ++
        (kind.toList ++ (w ++ "\"".toList)))))) := by
    intro u v w
    have hcolon : ":".toList = [':'] := rfl
    have hquote : "\"".toList = ['"'] := rfl
    simp only [memberText, hcolon, hquote, List.append_assoc, List.cons_append, List.nil_append]
  have hname : "\"openclaw\"".toList = nameText := by
    unfold nameText
    rfl
  have hnew : ∀ u v : List Char, memberText u v ['*'] =
      nameText ++ u ++ ":".toList ++ v ++ "\"".toList ++ ['*'] ++ "\"".toList := by
    intro u v
    have hcolon : ":".toList = [':'] := rfl
    have hquote : "\"".toList = ['"'] := rfl
    simp only [memberText, hcolon, hquote, List.append_assoc, List.cons_append, List.nil_append]
  simp only [constraintPattern, Pattern.mem_bind, Pattern.mem_word, Pattern.mem_many,
    Pattern.mem_several, Pattern.mem_pure, htext, hnew, hname,
    moves_append]
  constructor
  · rintro ⟨_, c₁, ⟨rfl, h₁⟩, u, c₂, ⟨hu, h₂⟩, _, c₃, ⟨rfl, h₃⟩, v, c₄, ⟨hv, h₄⟩, _, c₅,
      ⟨rfl, h₅⟩, _, c₆, ⟨rfl, h₆⟩, w, c₇, ⟨hne, hw, h₇⟩, _, c₈, ⟨rfl, h₈⟩, rfl, rfl⟩
    refine ⟨u, v, w, hu, hv, hne, ?_, ?_, c₁, h₁, c₂, h₂, c₃, h₃, c₄, h₄, c₅, h₅, c₆, h₆, c₇,
      h₇, h₈⟩
    · intro hmem
      exact absurd (hw _ hmem) (by decide)
    · rfl
  · rintro ⟨u, v, w, hu, hv, hne, hw, rfl, c₁, h₁, c₂, h₂, c₃, h₃, c₄, h₄, c₅, h₅, c₆, h₆, c₇,
      h₇, h₈⟩
    refine ⟨_, c₁, ⟨rfl, h₁⟩, u, c₂, ⟨hu, h₂⟩, _, c₃, ⟨rfl, h₃⟩, v, c₄, ⟨hv, h₄⟩, _, c₅,
      ⟨rfl, h₅⟩, _, c₆, ⟨rfl, h₆⟩, w, c₇, ⟨hne, ?_, h₇⟩, _, c', ⟨rfl, h₈⟩, ?_, rfl⟩
    · intro a ha
      exact bne_iff_ne.mpr fun heq => hw (heq ▸ ha)
    · rfl

/-- A text is cut in one way at the first character that is not of a kind. -/
theorem append_cons_unique {p : Char → Bool} {u u' r r' : List Char} {a a' : Char}
    (hu : ∀ b ∈ u, p b = true) (hu' : ∀ b ∈ u', p b = true) (ha : p a = false)
    (ha' : p a' = false) (h : u ++ a :: r = u' ++ a' :: r') : u = u' ∧ a = a' ∧ r = r' := by
  induction u generalizing u' with
  | nil =>
      cases u' with
      | nil =>
          obtain ⟨rfl, rfl⟩ := List.cons.inj h
          exact ⟨rfl, rfl, rfl⟩
      | cons b u' =>
          obtain ⟨rfl, -⟩ := List.cons.inj h
          rw [hu' a (.head _)] at ha
          cases ha
  | cons b u ih =>
      cases u' with
      | nil =>
          obtain ⟨rfl, -⟩ := List.cons.inj h
          rw [hu b (.head _)] at ha'
          cases ha'
      | cons b' u' =>
          obtain ⟨rfl, htail⟩ := List.cons.inj h
          obtain ⟨rfl, haa', hr⟩ := ih (fun d hd => hu d (.tail _ hd))
            (fun d hd => hu' d (.tail _ hd)) htail
          exact ⟨rfl, haa', hr⟩

/-- The same at the first quote. -/
theorem append_quote_unique {w w' r r' : List Char} (hw : '"' ∉ w) (hw' : '"' ∉ w')
    (h : w ++ '"' :: r = w' ++ '"' :: r') : w = w' ∧ r = r' := by
  have hquote : ∀ u : List Char, '"' ∉ u → ∀ b ∈ u, (b != '"') = true := by
    intro u hu b hb
    exact bne_iff_ne.mpr fun heq => hu (heq ▸ hb)
  obtain ⟨hww', -, hr⟩ := append_cons_unique (hquote w hw) (hquote w' hw') (by decide) (by decide) h
  exact ⟨hww', hr⟩

theorem memberText_append (u v raw r : List Char) :
    memberText u v raw ++ r = nameText ++ (u ++ ':' :: (v ++ '"' :: (raw ++ '"' :: r))) := by
  simp only [memberText, List.append_assoc, List.cons_append, List.nil_append]

theorem memberText_unique {u v w u' v' w' r r' : List Char}
    (hu : ∀ a ∈ u, isWhiteSpace a = true) (hv : ∀ a ∈ v, isWhiteSpace a = true) (hw : '"' ∉ w)
    (hu' : ∀ a ∈ u', isWhiteSpace a = true) (hv' : ∀ a ∈ v', isWhiteSpace a = true)
    (hw' : '"' ∉ w') (h : memberText u v w ++ r = memberText u' v' w' ++ r') :
    u = u' ∧ v = v' ∧ w = w' ∧ r = r' := by
  rw [memberText_append, memberText_append] at h
  have h := List.append_cancel_left h
  obtain ⟨rfl, -, h⟩ := append_cons_unique hu hu' (by decide) (by decide) h
  obtain ⟨rfl, -, h⟩ := append_cons_unique hv hv' (by decide) (by decide) h
  obtain ⟨rfl, rfl⟩ := append_quote_unique hw hw' h
  exact ⟨rfl, rfl, rfl, rfl⟩

section Kind

variable {prev : Option Char} {u v w r text : List Char} (hkind : '"' ∉ kind.toList)

include hkind in
/-- The pattern at a member whose value is a constraint. -/
theorem constraintPattern_head (hu : ∀ a ∈ u, isWhiteSpace a = true)
    (hv : ∀ a ∈ v, isWhiteSpace a = true) (hne : w ≠ []) (hw : '"' ∉ w) :
    (constraintPattern kind ⟨prev, memberText u v (kind.toList ++ w) ++ r⟩).head? =
      some (memberText u v ['*'], ⟨lastOf prev (memberText u v (kind.toList ++ w)), r⟩) := by
  have hmem := mem_constraintPattern.mpr ⟨u, v, w, hu, hv, hne, hw, rfl,
    (⟨rfl, rfl⟩ : Cursor.Moves ⟨prev, memberText u v (kind.toList ++ w) ++ r⟩
      (memberText u v (kind.toList ++ w)) ⟨_, r⟩)⟩
  cases hfirst : (constraintPattern kind ⟨prev, memberText u v (kind.toList ++ w) ++ r⟩).head? with
  | none =>
      rw [List.head?_eq_none_iff] at hfirst
      rw [hfirst] at hmem
      cases hmem
  | some way =>
      obtain ⟨x, prev', r'⟩ := way
      obtain ⟨u', v', w', hu', hv', -, hw', rfl, hrest, hprev⟩ :=
        mem_constraintPattern.mp (List.mem_of_head? hfirst)
      obtain ⟨rfl, rfl, hsame, rfl⟩ := memberText_unique hu hv
        (List.not_mem_append hkind hw) hu' hv' (List.not_mem_append hkind hw') hrest
      rw [List.append_cancel_left hsame]
      exact congrArg some (congrArg (Prod.mk _) (congrArg (Cursor.mk · r) hprev))

theorem constraintPattern_none (h : ∀ u v w r, (∀ a ∈ u, isWhiteSpace a = true) →
    (∀ a ∈ v, isWhiteSpace a = true) → w ≠ [] → '"' ∉ w →
    text ≠ memberText u v (kind.toList ++ w) ++ r) : constraintPattern kind ⟨prev, text⟩ = [] := by
  rw [List.eq_nil_iff_forall_not_mem]
  rintro ⟨x, c'⟩ hmem
  obtain ⟨u, v, w, hu, hv, hne, hw, -, hrest, -⟩ := mem_constraintPattern.mp hmem
  exact h u v w c'.rest hu hv hne hw hrest

/-- Only a quoted `openclaw` can be the beginning. -/
theorem constraintPattern_of_not_name (h : ¬ nameText <+: text) :
    constraintPattern kind ⟨prev, text⟩ = [] := by
  refine constraintPattern_none fun u v w r _ _ _ _ htext => h ?_
  rw [htext, memberText_append]
  exact List.prefix_append _ _

end Kind

end Match

/-! ### The tokens of a text -/

section Tokens

variable {kind name raw u v cs x : List Char} {ts rest : List Token} {place : Place} {c : Char}
  {p : List Char → Bool}

@[simp] theorem textOf_cons (tok : Token) (ts : List Token) :
    textOf (tok :: ts) = tok.text ++ textOf ts := rfl

@[simp] theorem textOf_append (ts rest : List Token) :
    textOf (ts ++ rest) = textOf ts ++ textOf rest := List.flatMap_append

@[simp] theorem textOf_marks (cs : List Char) : textOf (marks cs) = cs := by
  induction cs with
  | nil => rfl
  | cons c cs ih => exact congrArg (c :: ·) ih

/-- In front of a quote stands a backslash. -/
theorem escaped_before_quote {x y : List Char} (h : escaped (x ++ '"' :: y) = true) :
    ∃ z, x = z ++ ['\\'] := by
  induction x using escaped.induct with
  | case1 =>
      simp [escaped] at h
  | case2 c x ih =>
      obtain ⟨z, rfl⟩ := ih h
      exact ⟨'\\' :: c :: z, rfl⟩
  | case3 c x hne ih =>
      by_cases hc : c = '\\'
      · cases x with
        | nil => exact ⟨[], by rw [hc]; rfl⟩
        | cons d x => exact absurd rfl (hne d x hc)
      · rw [List.cons_append, escaped] at h
        · simp only [Bool.and_eq_true] at h
          obtain ⟨z, rfl⟩ := ih h.2
          exact ⟨c :: z, rfl⟩
        · intro d x' heq _
          exact absurd heq hc

/-- The first marks of the tokens are what the text starts with. -/
theorem marks_of_text (hcs : '"' ∉ cs) (h : textOf ts = cs ++ x) :
    ∃ rest, ts = marks cs ++ rest ∧ textOf rest = x := by
  induction cs generalizing ts with
  | nil => exact ⟨ts, rfl, h⟩
  | cons c cs ih =>
      have hc : c ≠ '"' := fun heq => hcs (heq ▸ .head _)
      cases ts with
      | nil => cases h
      | cons tok ts =>
          cases tok with
          | string raw => exact absurd (List.cons.inj h).1.symm hc
          | mark c' =>
              obtain ⟨rfl, htail⟩ := List.cons.inj h
              obtain ⟨rest, rfl, hrest⟩ := ih (fun hmem => hcs (.tail _ hmem)) htail
              exact ⟨rest, rfl, hrest⟩

/-! ### The machine -/

theorem Place.mark_blank (hc : isWhiteSpace c = true) : place.mark c = place := if_pos hc

theorem Place.other_mark : Place.other.mark c = .other := by
  unfold Place.mark
  split <;> rfl

theorem relaxTokens_blanks (hcs : ∀ a ∈ cs, isWhiteSpace a = true) :
    relaxTokens p place (marks cs ++ rest) = marks cs ++ relaxTokens p place rest := by
  induction cs with
  | nil => rfl
  | cons c cs ih =>
      show Token.mark c :: relaxTokens p (place.mark c) (marks cs ++ rest) = _
      rw [Place.mark_blank (hcs c (.head _)), ih fun a ha => hcs a (.tail _ ha)]
      rfl

theorem faithful_blanks (hcs : ∀ a ∈ cs, isWhiteSpace a = true)
    (h : faithful kind place (marks cs ++ rest) = true) : faithful kind place rest = true := by
  induction cs with
  | nil => exact h
  | cons c cs ih =>
      have htail := (Bool.and_eq_true_iff.mp h).2
      rw [Place.mark_blank (hcs c (.head _))] at htail
      exact ih (fun a ha => hcs a (.tail _ ha)) htail

/-- Less is asked of the tokens where nothing is known of the place. -/
theorem faithful_other (h : faithful kind place ts = true) : faithful kind .other ts = true := by
  induction ts generalizing place with
  | nil => rfl
  | cons tok ts ih =>
      cases tok with
      | mark c =>
          obtain ⟨hc, hrest⟩ := Bool.and_eq_true_iff.mp h
          refine Bool.and_eq_true_iff.mpr ⟨hc, ?_⟩
          rw [Place.other_mark]
          exact ih hrest
      | string raw =>
          simp only [faithful, Bool.and_eq_true] at h ⊢
          exact ⟨⟨h.1.1, trivial⟩, h.2⟩

/-- A constraint is no place for a constraint behind it to be relaxed. -/
theorem relaxTokens_value (h : ∀ v raw rest, ts = marks v ++ .string raw :: rest →
    (∀ a ∈ v, isWhiteSpace a = true) → p raw = true → name ≠ openclaw) :
    relaxTokens p (.value name) ts = relaxTokens p .other ts := by
  induction ts with
  | nil => rfl
  | cons tok ts ih =>
      cases tok with
      | mark c =>
          show Token.mark c :: relaxTokens p (Place.mark _ c) ts =
            .mark c :: relaxTokens p (Place.mark _ c) ts
          rw [Place.other_mark]
          by_cases hc : isWhiteSpace c = true
          · rw [Place.mark_blank hc]
            congr 1
            refine ih fun v raw rest hts hv => h (c :: v) raw rest (by rw [hts]; rfl) ?_
            intro a ha
            rcases List.mem_cons.mp ha with rfl | ha
            · exact hc
            · exact hv a ha
          · have hplace : (Place.value name).mark c = .other := if_neg hc
            rw [hplace]
      | string raw =>
          have hkeep : ¬(Place.value name = .value openclaw ∧ p raw = true) := by
            rintro ⟨heq, hraw⟩
            exact h [] raw ts rfl (fun a ha => by cases ha) hraw (Place.value.inj heq)
          have hother : ¬(Place.other = .value openclaw ∧ p raw = true) := by
            rintro ⟨⟨⟩, -⟩
          rw [relaxTokens, relaxTokens, if_neg hkeep, if_neg hother]

/-- A name matters only if a constraint is behind it. -/
theorem relaxTokens_behind (h : ∀ u v raw rest,
    ts = marks u ++ .mark ':' :: (marks v ++ .string raw :: rest) →
    (∀ a ∈ u, isWhiteSpace a = true) → (∀ a ∈ v, isWhiteSpace a = true) →
    p raw = true → name ≠ openclaw) :
    relaxTokens p (.behind name) ts = relaxTokens p .other ts := by
  induction ts with
  | nil => rfl
  | cons tok ts ih =>
      cases tok with
      | mark c =>
          show Token.mark c :: relaxTokens p (Place.mark _ c) ts =
            .mark c :: relaxTokens p (Place.mark _ c) ts
          rw [Place.other_mark]
          congr 1
          by_cases hc : isWhiteSpace c = true
          · rw [Place.mark_blank hc]
            refine ih fun u v raw rest hts hu => h (c :: u) v raw rest (by rw [hts]; rfl) ?_
            intro a ha
            rcases List.mem_cons.mp ha with rfl | ha
            · exact hc
            · exact hu a ha
          · by_cases hcolon : c = ':'
            · have hplace : (Place.behind name).mark c = .value name := by
                rw [Place.mark, if_neg hc]
                exact if_pos hcolon
              rw [hplace]
              refine relaxTokens_value fun v raw rest hts hv =>
                h [] v raw rest (by rw [hts, hcolon]; rfl) (fun a ha => by cases ha) hv
            · have hplace : (Place.behind name).mark c = .other := by
                rw [Place.mark, if_neg hc]
                exact if_neg hcolon
              rw [hplace]
      | string raw =>
          have hkeep : ∀ place, (∀ n, place ≠ Place.value n) →
              ¬(place = .value openclaw ∧ p raw = true) := by
            rintro place hplace ⟨rfl, -⟩
            exact hplace openclaw rfl
          rw [relaxTokens, relaxTokens, if_neg (hkeep _ (by simp)), if_neg (hkeep _ (by simp))]

/-- The member the machine relaxes. -/
theorem relaxTokens_member (hu : ∀ a ∈ u, isWhiteSpace a = true)
    (hv : ∀ a ∈ v, isWhiteSpace a = true) (hraw : p raw = true) :
    relaxTokens p (.behind openclaw) (marks u ++ .mark ':' :: (marks v ++ .string raw :: rest)) =
      marks u ++ .mark ':' :: (marks v ++ .string ['*'] :: relaxTokens p (.behind ['*']) rest) := by
  have hcolon : (Place.behind openclaw).mark ':' = .value openclaw := by decide
  rw [relaxTokens_blanks hu]
  show marks u ++ Token.mark ':' :: relaxTokens p ((Place.behind openclaw).mark ':') _ = _
  rw [hcolon, relaxTokens_blanks hv, relaxTokens]
  simp only [hraw, and_self, if_true]

/-- What is asked of a constraint and its name. -/
theorem faithful_member (hu : ∀ a ∈ u, isWhiteSpace a = true)
    (hv : ∀ a ∈ v, isWhiteSpace a = true) (hraw : constrained kind raw = true)
    (h : faithful kind (.behind name)
      (marks u ++ .mark ':' :: (marks v ++ .string raw :: rest)) = true) :
    ¬ '"' :: openclaw <:+ name ∧ (name = openclaw → '"' ∉ raw) ∧
      faithful kind (.behind raw) rest = true := by
  have hcolon : (Place.behind name).mark ':' = .value name := by
    rw [Place.mark, if_neg (by decide)]
    exact if_pos rfl
  have hvalue := (Bool.and_eq_true_iff.mp (faithful_blanks hu h)).2
  rw [hcolon] at hvalue
  have hmember := faithful_blanks hv hvalue
  simp only [faithful, Bool.and_eq_true, hraw, Bool.not_true, Bool.false_or, Bool.not_eq_true',
    Bool.or_eq_true, bne_iff_ne, ne_eq] at hmember
  obtain ⟨⟨-, hsuffix, hquote⟩, hrest⟩ := hmember
  refine ⟨?_, ?_, hrest⟩
  · rw [← List.isSuffixOf_iff_suffix, hsuffix]
    exact Bool.false_ne_true
  · intro hname
    rcases hquote with hne | hno
    · exact absurd hname hne
    · simpa using hno

end Tokens

/-! ### The pattern and the machine -/

/-- The beginnings of the constraints. -/
def kinds : List String := [">=", "workspace:"]

section Relax

variable {kind : String} {ts rest : List Token} {prev : Option Char} {raw u v : List Char}

theorem kind_quote (hkind : kind ∈ kinds) : '"' ∉ kind.toList := by
  rcases List.mem_cons.mp hkind with rfl | hkind
  · decide
  · rw [List.mem_singleton.mp hkind]
    decide

theorem faithful_marks {place : Place} {cs : List Char}
    (h : faithful kind.toList place (marks cs ++ rest) = true) :
    ∃ place', faithful kind.toList place' rest = true := by
  induction cs generalizing place with
  | nil => exact ⟨place, h⟩
  | cons c cs ih => exact ih (Bool.and_eq_true_iff.mp h).2

/-- Two strings up to a quote, the second of which has none in it. -/
theorem quote_cases {s t r r' : List Char} (ht : '"' ∉ t) (h : s ++ '"' :: r = t ++ '"' :: r') :
    (s = t ∧ r = r') ∨ ∃ d, s = t ++ '"' :: d := by
  rcases List.append_eq_append_iff.mp h with ⟨d, hd, hrest⟩ | ⟨d, hd, hrest⟩
  · cases d with
    | nil =>
        rw [List.append_nil] at hd
        exact .inl ⟨hd.symm, (List.cons.inj hrest).2⟩
    | cons c d =>
        obtain ⟨rfl, -⟩ := List.cons.inj hrest
        exact absurd (hd ▸ List.mem_append_right s (.head d)) ht
  · cases d with
    | nil =>
        rw [List.append_nil] at hd
        exact .inl ⟨hd, (List.cons.inj hrest).2.symm⟩
    | cons c d =>
        obtain ⟨rfl, -⟩ := List.cons.inj hrest
        exact .inr ⟨d, hd⟩

/-- A constraint in the text after a name is a constraint in its tokens. -/
theorem member_of_text {place : Place} {w r : List Char} (hkind : '"' ∉ kind.toList)
    (hu : ∀ a ∈ u, isWhiteSpace a = true) (hv : ∀ a ∈ v, isWhiteSpace a = true) (hne : w ≠ [])
    (hw : '"' ∉ w) (hts : faithful kind.toList place ts = true)
    (h : textOf ts = u ++ ':' :: (v ++ '"' :: (kind.toList ++ w ++ '"' :: r))) :
    ∃ raw rest, ts = marks u ++ .mark ':' :: (marks v ++ .string raw :: rest) ∧
      constrained kind.toList raw = true := by
  have hblank : ∀ cs : List Char, (∀ a ∈ cs, isWhiteSpace a = true) → '"' ∉ cs :=
    fun cs hcs hmem => absurd (hcs _ hmem) (by decide)
  have hgap : '"' ∉ u ++ ':' :: v := by
    refine List.not_mem_append (hblank u hu) ?_
    rw [List.mem_cons, not_or]
    exact ⟨by decide, hblank v hv⟩
  have hassoc : textOf ts = (u ++ ':' :: v) ++ '"' :: (kind.toList ++ w ++ '"' :: r) := by
    rw [h]
    simp only [List.append_assoc, List.cons_append]
  obtain ⟨rest, rfl, hrest⟩ := marks_of_text hgap hassoc
  obtain ⟨place', hplace'⟩ := faithful_marks hts
  cases rest with
  | nil => cases hrest
  | cons tok rest =>
      cases tok with
      | mark c =>
          obtain ⟨rfl, -⟩ := List.cons.inj hrest
          simp [faithful] at hplace'
      | string raw =>
          refine ⟨raw, rest, by simp [marks], ?_⟩
          have hraw : raw ++ '"' :: textOf rest = (kind.toList ++ w) ++ '"' :: r := by
            simpa [Token.text] using hrest
          have hpos : 0 < w.length := List.length_pos_iff.mpr hne
          have hlong : ∃ d, raw = kind.toList ++ (w ++ d) := by
            rcases quote_cases (List.not_mem_append hkind hw) hraw with ⟨hraw, -⟩ | ⟨d, hraw⟩
            · exact ⟨[], by rw [hraw, List.append_nil]⟩
            · exact ⟨'"' :: d, by rw [hraw, List.append_assoc]⟩
          obtain ⟨d, rfl⟩ := hlong
          rw [constrained, Bool.and_eq_true, List.isPrefixOf_iff_prefix, decide_eq_true_eq]
          refine ⟨List.prefix_append _ _, ?_⟩
          simp only [List.length_append]
          omega

/-- Between quotes there is no second quote behind `openclaw`. -/
theorem no_quote_behind {y d : List Char} (h : escaped (y ++ openclaw ++ '"' :: d) = true) :
    False := by
  obtain ⟨z, hz⟩ := escaped_before_quote h
  have hlast : openclaw = "opencla".toList ++ ['w'] := by decide
  rw [hlast, ← List.append_assoc] at hz
  have hw := (List.append_inj' hz rfl).2
  cases hw

theorem exists_constraint {kind raw : List Char} (h : constrained kind raw = true) :
    ∃ w, raw = kind ++ w ∧ w ≠ [] := by
  rw [constrained, Bool.and_eq_true, List.isPrefixOf_iff_prefix, decide_eq_true_eq] at h
  obtain ⟨⟨w, rfl⟩, hlong⟩ := h
  refine ⟨w, rfl, ?_⟩
  rintro rfl
  simp at hlong

theorem textOf_member (u v raw : List Char) (rest : List Token) :
    textOf (.string openclaw :: (marks u ++ .mark ':' :: (marks v ++ .string raw :: rest))) =
      memberText u v raw ++ textOf rest := by
  rw [memberText, nameText_eq]
  simp [Token.text]

/-- Nothing is matched in a string that is no name of a constraint. -/
theorem no_match_in_string (hkind : kind ∈ kinds)
    (hraw : faithful kind.toList .other (.string raw :: rest) = true)
    (h : ∀ u v raw' rest', rest = marks u ++ .mark ':' :: (marks v ++ .string raw' :: rest') →
      (∀ a ∈ u, isWhiteSpace a = true) → (∀ a ∈ v, isWhiteSpace a = true) →
      constrained kind.toList raw' = true → raw ≠ openclaw) {a b : List Char}
    (hab : '"' :: raw ++ ['"'] = a ++ b) (hb : b ≠ []) :
    constraintPattern kind ⟨prev, b ++ textOf rest⟩ = [] := by
  simp only [faithful, Bool.and_eq_true, decide_eq_true_eq] at hraw
  obtain ⟨⟨⟨hescaped, hhead⟩, -⟩, hrest⟩ := hraw
  have hquote : '"' ∉ openclaw := by decide
  -- the last character of `b` is the closing quote
  obtain ⟨b, q, rfl⟩ := (List.eq_nil_or_concat' b).resolve_left hb
  have hcut : '"' :: raw ++ ['"'] = (a ++ b) ++ [q] := by rw [hab, List.append_assoc]
  obtain ⟨hbefore, hq⟩ := List.append_inj' hcut rfl
  obtain rfl : '"' = q := (List.cons.inj hq).1
  refine constraintPattern_none fun u v w r hu hv hne hw hmatch => ?_
  have hmatch : b ++ '"' :: textOf rest =
      '"' :: (openclaw ++ '"' :: (u ++ ':' :: (v ++ '"' :: (kind.toList ++ w ++ '"' :: r)))) := by
    rw [memberText_append, nameText_eq] at hmatch
    simpa only [List.append_assoc, List.cons_append, List.nil_append] using hmatch
  cases b with
  | nil =>
      have htext := (List.cons.inj hmatch).2
      have ho : openclaw = 'o' :: "penclaw".toList := by decide
      rw [ho] at htext
      cases rest with
      | nil => cases htext
      | cons tok rest =>
          cases tok with
          | mark c =>
              obtain ⟨rfl, -⟩ := List.cons.inj htext
              exact hhead rfl
          | string raw' => exact absurd (List.cons.inj htext).1 (by decide)
  | cons c b =>
      obtain ⟨rfl, hname⟩ := List.cons.inj hmatch
      rcases quote_cases hquote hname with ⟨rfl, htext⟩ | ⟨d, rfl⟩
      · obtain ⟨raw', rest', hmember, hraw'⟩ :=
          member_of_text (kind_quote hkind) hu hv hne hw hrest htext
        have hne' := h u v raw' rest' hmember hu hv hraw'
        cases a with
        | nil => exact hne' (List.cons.inj hbefore).2
        | cons c a =>
            rw [hmember] at hrest
            exact (faithful_member hu hv hraw' hrest).1 ⟨a, (List.cons.inj hbefore).2.symm⟩
      · cases a with
        | nil =>
            have hraw : raw = [] ++ openclaw ++ '"' :: d := (List.cons.inj hbefore).2
            exact no_quote_behind (hraw ▸ hescaped)
        | cons c a =>
            have hraw : raw = a ++ '"' :: (openclaw ++ '"' :: d) := (List.cons.inj hbefore).2
            have hraw' : raw = (a ++ ['"']) ++ openclaw ++ '"' :: d := by
              rw [hraw]
              simp only [List.append_assoc, List.cons_append, List.nil_append]
            exact no_quote_behind (hraw' ▸ hescaped)

/-- **The pattern is the machine**, on tokens as JSON has them. -/
theorem replaceAllFrom_textOf (hkind : kind ∈ kinds)
    (h : faithful kind.toList .other ts = true) :
    (constraintPattern kind).replaceAllFrom prev 0 (textOf ts) =
      textOf (relaxTokens (constrained kind.toList) .other ts) := by
  induction hlen : ts.length using Nat.strong_induction_on generalizing ts prev with
  | _ n ih =>
      cases ts with
      | nil =>
          have hno : constraintPattern kind ⟨prev, []⟩ = [] :=
            constraintPattern_of_not_name (by rw [nameText_eq]; simp)
          show (((constraintPattern kind ⟨prev, []⟩).head?.map Prod.fst).getD []) = []
          rw [hno]
          rfl
      | cons tok ts =>
          have hshort : ts.length < n := by
            rw [← hlen]
            exact Nat.lt_succ_self _
          cases tok with
          | mark c =>
              obtain ⟨hc, hrest⟩ := Bool.and_eq_true_iff.mp h
              rw [Place.other_mark] at hrest
              have hnone : ∀ a b, [c] = a ++ b → b ≠ [] →
                  constraintPattern kind ⟨lastOf prev a, b ++ textOf ts⟩ = [] := by
                intro a b hab hb
                refine constraintPattern_of_not_name ?_
                rw [nameText_eq]
                cases a with
                | nil =>
                    rintro ⟨r, hr⟩
                    obtain rfl : [c] = b := hab
                    exact (bne_iff_ne.mp hc) (List.cons.inj hr).1.symm
                | cons d a =>
                    exact absurd (List.append_eq_nil_iff.mp (List.cons.inj hab).2.symm).2 hb
              show (constraintPattern kind).replaceAllFrom prev 0 ([c] ++ textOf ts) = _
              rw [Pattern.replaceAllFrom_none hnone, ih _ hshort hrest rfl, relaxTokens,
                Place.other_mark]
              rfl
          | string raw =>
              have hrest : faithful kind.toList .other ts = true :=
                faithful_other (Bool.and_eq_true_iff.mp h).2
              have hkeep : relaxTokens (constrained kind.toList) .other (.string raw :: ts) =
                  .string raw :: relaxTokens (constrained kind.toList) (.behind raw) ts := by
                rw [relaxTokens, if_neg]
                rintro ⟨⟨⟩, -⟩
              by_cases hmember : ∃ u v raw' rest,
                  ts = marks u ++ .mark ':' :: (marks v ++ .string raw' :: rest) ∧
                  (∀ a ∈ u, isWhiteSpace a = true) ∧ (∀ a ∈ v, isWhiteSpace a = true) ∧
                  constrained kind.toList raw' = true ∧ raw = openclaw
              · obtain ⟨u, v, raw', rest, rfl, hu, hv, hraw', rfl⟩ := hmember
                obtain ⟨-, hquote, hbehind⟩ :=
                  faithful_member hu hv hraw' (Bool.and_eq_true_iff.mp h).2
                obtain ⟨w, rfl, hne⟩ := exists_constraint hraw'
                have hw : '"' ∉ w := fun hmem => hquote rfl (List.mem_append_right _ hmem)
                have hrest' : rest.length < n := by
                  rw [← hlen]
                  simp only [List.length_cons, List.length_append]
                  omega
                have hmachine : relaxTokens (constrained kind.toList) (.behind ['*']) rest =
                    relaxTokens (constrained kind.toList) .other rest :=
                  relaxTokens_behind fun _ _ _ _ _ _ _ _ => by decide
                rw [hkeep, relaxTokens_member hu hv hraw', hmachine, textOf_member, textOf_member,
                  ← ih _ hrest' (faithful_other hbehind) rfl]
                refine Pattern.replaceAllFrom_match ?_
                  (constraintPattern_head (kind_quote hkind) hu hv hne hw)
                rw [memberText, nameText_eq]
                simp
              · have hno : ∀ u v raw' rest,
                    ts = marks u ++ .mark ':' :: (marks v ++ .string raw' :: rest) →
                    (∀ a ∈ u, isWhiteSpace a = true) → (∀ a ∈ v, isWhiteSpace a = true) →
                    constrained kind.toList raw' = true → raw ≠ openclaw :=
                  fun u v raw' rest hts hu hv hraw' hraw =>
                    hmember ⟨u, v, raw', rest, hts, hu, hv, hraw', hraw⟩
                rw [hkeep, relaxTokens_behind hno, textOf_cons, textOf_cons,
                  ← ih _ hshort hrest rfl]
                exact Pattern.replaceAllFrom_none fun a b hab hb =>
                  no_match_in_string hkind h hno hab hb

end Relax

/-! ### Both patterns -/

/-- Tokens as JSON has them, in which both patterns find what they are meant for. -/
def Faithful (ts : List Token) : Prop :=
  ∀ kind ∈ kinds, faithful kind.toList .other ts = true

/-- Whether a string is a constraint of either kind. -/
def isConstraint (raw : List Char) : Bool := kinds.any fun kind => constrained kind.toList raw

/-- Every constraint of a member `"openclaw"` becomes `"*"`, and nothing else changes. -/
def relaxMembers (ts : List Token) : List Token := relaxTokens isConstraint .other ts

section Both

variable {p q : List Char → Bool} {ts : List Token} {place : Place} {kind : List Char}

/-- One after the other is both at once. -/
theorem relaxTokens_relaxTokens (hq : q ['*'] = false) (hname : q openclaw = false) :
    relaxTokens q place (relaxTokens p place ts) =
      relaxTokens (fun raw => p raw || q raw) place ts := by
  induction ts generalizing place with
  | nil => rfl
  | cons tok ts ih =>
      cases tok with
      | mark c => exact congrArg (Token.mark c :: ·) ih
      | string raw =>
          by_cases hp : place = .value openclaw ∧ p raw = true
          · obtain ⟨rfl, hraw⟩ := hp
            simp only [relaxTokens, hraw, hq, Bool.true_or, and_self, and_false, if_true, if_false,
              Bool.false_eq_true]
            rw [ih]
          · have hsame : (place = .value openclaw ∧ (p raw || q raw) = true) ↔
                place = .value openclaw ∧ q raw = true := by
              rw [Bool.or_eq_true]
              constructor
              · rintro ⟨hplace, hraw | hraw⟩
                · exact absurd ⟨hplace, hraw⟩ hp
                · exact ⟨hplace, hraw⟩
              · rintro ⟨hplace, hraw⟩
                exact ⟨hplace, .inr hraw⟩
            simp only [relaxTokens, if_neg hp, hsame]
            by_cases hqraw : place = .value openclaw ∧ q raw = true
            · -- behind either string nothing is relaxed because of it
              have hraw : raw ≠ openclaw := by
                rintro rfl
                rw [hname] at hqraw
                exact Bool.false_ne_true hqraw.2
              have hother : relaxTokens p (.behind raw) ts = relaxTokens p (.behind ['*']) ts :=
                (relaxTokens_behind fun _ _ _ _ _ _ _ _ => hraw).trans
                  (relaxTokens_behind fun _ _ _ _ _ _ _ _ => by decide).symm
              simp only [if_pos hqraw]
              rw [hother, ih]
            · simp only [if_neg hqraw]
              rw [ih]

/-- Behind `"*"` nothing is asked of a constraint. -/
theorem faithful_star (h : faithful kind .other ts = true) :
    faithful kind (.behind ['*']) ts = true ∧ faithful kind (.value ['*']) ts = true := by
  induction ts with
  | nil => exact ⟨rfl, rfl⟩
  | cons tok ts ih =>
      cases tok with
      | mark c =>
          obtain ⟨hc, hrest⟩ := Bool.and_eq_true_iff.mp h
          rw [Place.other_mark] at hrest
          obtain ⟨hbehind, hvalue⟩ := ih hrest
          have hmark : ∀ place : Place, place = .behind ['*'] ∨ place = .value ['*'] →
              faithful kind (place.mark c) ts = true := by
            rintro place (rfl | rfl)
            · unfold Place.mark
              split_ifs
              · exact hbehind
              · exact hvalue
              · exact hrest
            · by_cases hblank : isWhiteSpace c = true
              · rw [Place.mark_blank hblank]
                exact hvalue
              · have hplace : (Place.value ['*']).mark c = .other := if_neg hblank
                rw [hplace]
                exact hrest
          exact ⟨Bool.and_eq_true_iff.mpr ⟨hc, hmark _ (.inl rfl)⟩,
            Bool.and_eq_true_iff.mpr ⟨hc, hmark _ (.inr rfl)⟩⟩
      | string raw =>
          simp only [faithful, Bool.and_eq_true] at h ⊢
          have hname : ('"' :: openclaw).isSuffixOf ['*'] = false := by decide
          have hne : (['*'] != openclaw) = true := by decide
          refine ⟨h, ⟨h.1.1, ?_⟩, h.2⟩
          rw [hname, hne]
          exact Bool.or_true _

/-- Relaxed tokens are no harder to read. -/
theorem faithful_relaxTokens (hstar : constrained kind ['*'] = false)
    (h : faithful kind place ts = true) : faithful kind place (relaxTokens p place ts) = true := by
  induction ts generalizing place with
  | nil => rfl
  | cons tok ts ih =>
      cases tok with
      | mark c =>
          obtain ⟨hc, hrest⟩ := Bool.and_eq_true_iff.mp h
          exact Bool.and_eq_true_iff.mpr ⟨hc, ih hrest⟩
      | string raw =>
          have hhead : ∀ place, (relaxTokens p place ts).head? = some (.mark 'o') →
              ts.head? = some (.mark 'o') := by
            intro place hmark
            cases ts with
            | nil => exact hmark
            | cons tok ts =>
                cases tok with
                | mark c => exact hmark
                | string raw => cases hmark
          simp only [faithful, Bool.and_eq_true, decide_eq_true_eq] at h
          obtain ⟨⟨⟨hraw, hbehind⟩, hvalue⟩, hrest⟩ := h
          by_cases hp : place = .value openclaw ∧ p raw = true
          · obtain ⟨rfl, hpraw⟩ := hp
            simp only [relaxTokens, hpraw, and_self, if_true, faithful, Bool.and_eq_true,
              decide_eq_true_eq, hstar, Bool.not_false, Bool.true_or]
            exact ⟨⟨⟨rfl, fun hmark => hbehind (hhead _ hmark)⟩, trivial⟩,
              ih (faithful_star (faithful_other hrest)).1⟩
          · simp only [relaxTokens, if_neg hp, faithful, Bool.and_eq_true, decide_eq_true_eq]
            exact ⟨⟨⟨hraw, fun hmark => hbehind (hhead _ hmark)⟩, hvalue⟩, ih hrest⟩

theorem kind_star {kind : String} (hkind : kind ∈ kinds) :
    constrained kind.toList ['*'] = false := by
  rcases List.mem_cons.mp hkind with rfl | hkind
  · decide
  · rw [List.mem_singleton.mp hkind]
    decide

theorem faithful_relaxMembers (h : Faithful ts) : Faithful (relaxMembers ts) :=
  fun kind hkind => faithful_relaxTokens (kind_star hkind) (h kind hkind)

/-- What the script makes of the text of a `package.json`. -/
theorem relaxConstraints_eq (h : Faithful ts) :
    relaxConstraints (textOf ts) = textOf (relaxMembers ts) := by
  have hrange : RANGE_CONSTRAINT_RE.replaceAll (textOf ts) =
      textOf (relaxTokens (constrained ">=".toList) .other ts) :=
    replaceAllFrom_textOf (.head _) (h _ (.head _))
  have hworkspace : WORKSPACE_CONSTRAINT_RE.replaceAll
        (textOf (relaxTokens (constrained ">=".toList) .other ts)) =
      textOf (relaxTokens (constrained "workspace:".toList) .other
        (relaxTokens (constrained ">=".toList) .other ts)) :=
    replaceAllFrom_textOf (.tail _ (.head _))
      (faithful_relaxTokens (kind_star (.tail _ (.head _))) (h _ (.tail _ (.head _))))
  have hboth : (fun raw => constrained ">=".toList raw || constrained "workspace:".toList raw) =
      isConstraint := by
    funext raw
    simp [isConstraint, kinds]
  rw [relaxConstraints, hrange, hworkspace, relaxTokens_relaxTokens (kind_star (.tail _ (.head _)))
    (by decide), hboth]
  rfl

theorem relaxMembers_relaxMembers : relaxMembers (relaxMembers ts) = relaxMembers ts := by
  have hstar : isConstraint ['*'] = false := by decide
  rw [relaxMembers, relaxMembers, relaxTokens_relaxTokens hstar (by decide)]
  simp only [Bool.or_self]

/-- **The patterns relax the constraints, and only these.**  On the text of a JSON document
in which they cannot mistake what they find, every constraint of a member `"openclaw"`
becomes `"*"` and all else is kept as it was written; a second run changes nothing.  Names
and values are taken as they are written: `"\u006fpenclaw"` is another name here, and is
left alone. -/
theorem relaxConstraints_textOf (h : Faithful ts) :
    relaxConstraints (textOf ts) = textOf (relaxMembers ts) ∧
      relaxConstraints (relaxConstraints (textOf ts)) = relaxConstraints (textOf ts) := by
  refine ⟨relaxConstraints_eq h, ?_⟩
  rw [relaxConstraints_eq h, relaxConstraints_eq (faithful_relaxMembers h),
    relaxMembers_relaxMembers]

/-- A member as an extension has it, behind another string that says the same. -/
def versionMember (raw : List Char) : List Token :=
  [.string ">=2".toList, .mark ',', .string openclaw, .mark ':', .mark ' ', .string raw]

theorem versionMember_faithful : Faithful (versionMember ">=2".toList) := by
  intro kind hkind
  rcases List.mem_cons.mp hkind with rfl | hkind
  · decide
  · rw [List.mem_singleton.mp hkind]
    decide

theorem versionMember_relaxed :
    relaxConstraints (textOf (versionMember ">=2".toList)) = textOf (versionMember ['*']) ∧
      relaxConstraints (textOf (versionMember ['*'])) = textOf (versionMember ['*']) := by
  have hstar : relaxMembers (versionMember ">=2".toList) = versionMember ['*'] := by decide
  have hrelaxed := relaxConstraints_textOf versionMember_faithful
  rw [hstar] at hrelaxed
  rw [← hrelaxed.1]
  exact ⟨rfl, hrelaxed.2⟩

end Both

end Build
