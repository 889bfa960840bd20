/-
ControlPlane/Wrapper/Separation.lean

The blocks of the patch scripts never get in each other's way.

Everything the laws of the scripts need to know about the blocks is a finite
number of facts of one kind: two given texts do not overlap, wherever they occur.
`Blocks.separate` decides all of them.  It is evaluated once, on the characters
of the blocks (`separate_blocks`), and read off below.

What may stand at an anchor when a script runs depends on the scripts that have
run before; `pending` lists it.  Only the line after the tar import has more than
two forms, since two scripts write there.
-/
import ControlPlane.Wrapper.Patches

namespace Wrapper

open Substitution

/-! ### The blocks as one value -/

/-- The blocks, as strings or as characters. -/
structure Blocks (τ : Type) where
  stopDefinition : τ
  restartDeclaration : τ
  restartBlock : τ
  restartBlockNew : τ
  importBlock : τ
  importBlockNew : τ
  tarImport : τ
  stateImport : τ
  hookImport : τ
  exportHandler : τ
  scopeDelegate : τ
  bodyParser : τ
  hookRoute : τ
  routeMarker : τ

/-- The blocks, each mapped. -/
def Blocks.map {τ υ : Type} (f : τ → υ) (b : Blocks τ) : Blocks υ where
  stopDefinition := f b.stopDefinition
  restartDeclaration := f b.restartDeclaration
  restartBlock := f b.restartBlock
  restartBlockNew := f b.restartBlockNew
  importBlock := f b.importBlock
  importBlockNew := f b.importBlockNew
  tarImport := f b.tarImport
  stateImport := f b.stateImport
  hookImport := f b.hookImport
  exportHandler := f b.exportHandler
  scopeDelegate := f b.scopeDelegate
  bodyParser := f b.bodyParser
  hookRoute := f b.hookRoute
  routeMarker := f b.routeMarker

/-- The blocks of the scripts. -/
def blocks : Blocks String where
  stopDefinition := stopGatewayAndWaitDefinition
  restartDeclaration := restartDeclaration
  restartBlock := restartBlock
  restartBlockNew := restartBlockNew
  importBlock := importBlock
  importBlockNew := importBlockNew
  tarImport := tarImport
  stateImport := stateImport
  hookImport := hookImport
  exportHandler := exportHandler
  scopeDelegate := scopeDelegate
  bodyParser := bodyParser
  hookRoute := hookRoute
  routeMarker := routeMarker

/-- The characters of the blocks. -/
def chars : Blocks (List Char) := blocks.map String.toList

/-! ### Anchors -/

/-- The places the scripts change. -/
inductive Anchor where
  | restartDeclaration
  | restartBlock
  | importBlock
  | tarImport
  | exportHandler
  | bodyParser
  deriving DecidableEq

/-- All anchors. -/
def Anchor.all : List Anchor :=
  [.restartDeclaration, .restartBlock, .importBlock, .tarImport, .exportHandler, .bodyParser]

/-- All scripts. -/
def Script.all : List Script := [.restartGateway, .scopedExport, .githubWebhook]

theorem Anchor.mem_all (a : Anchor) : a ∈ Anchor.all := by
  cases a <;> decide

theorem Script.mem_all (p : Script) : p ∈ Script.all := by
  cases p <;> decide

namespace Blocks

variable (b : Blocks (List Char))

/-- The text of an anchor before any script has run. -/
def anchor : Anchor → List Char
  | .restartDeclaration => b.restartDeclaration
  | .restartBlock => b.restartBlock
  | .importBlock => b.importBlock
  | .tarImport => b.tarImport
  | .exportHandler => b.exportHandler
  | .bodyParser => b.bodyParser

/-- The new line after the tar import. -/
def stateLine : List Char := '\n' :: b.stateImport

/-- The line the webhook's import is put in as. -/
def hookLine : List Char := '\n' :: b.hookImport

/-- The replacements of a script. -/
def steps : Script → List (Anchor × List Char)
  | .restartGateway =>
      [(.restartDeclaration, b.stopDefinition ++ '\n' :: '\n' :: b.restartDeclaration),
       (.restartBlock, b.restartBlockNew), (.importBlock, b.importBlockNew)]
  | .scopedExport =>
      [(.tarImport, b.tarImport ++ b.stateLine), (.exportHandler, b.exportHandler ++ b.scopeDelegate)]
  | .githubWebhook =>
      [(.tarImport, b.tarImport ++ b.hookLine), (.bodyParser, b.hookRoute ++ b.bodyParser)]

/-- What a script looks for to tell that it has run before. -/
def injected : Script → List (List Char)
  | .restartGateway => (b.steps .restartGateway).map Prod.snd
  | .scopedExport => (b.steps .scopedExport).map Prod.snd
  | .githubWebhook => [b.hookImport, b.routeMarker]

/-- One of these, which stays in the text whatever runs after. -/
def trace : Script → List Char
  | .restartGateway => b.stopDefinition ++ '\n' :: '\n' :: b.restartDeclaration
  | .scopedExport => b.exportHandler ++ b.scopeDelegate
  | .githubWebhook => b.routeMarker

/-- What the other scripts may have put at an anchor when a script runs. -/
def changed : Script → Anchor → List (List Char)
  | .restartGateway, .tarImport =>
      [b.tarImport ++ b.stateLine, b.tarImport ++ b.hookLine,
       b.tarImport ++ b.stateLine ++ b.hookLine, b.tarImport ++ b.hookLine ++ b.stateLine]
  | .scopedExport, .tarImport => [b.tarImport ++ b.hookLine]
  | .githubWebhook, .tarImport => [b.tarImport ++ b.stateLine]
  | p, a => (Script.all.filter (· ≠ p)).filterMap fun p' => (b.steps p').lookup a

/-- What may stand at an anchor when a script runs. -/
def pending (p : Script) (a : Anchor) : List (List Char) := b.anchor a :: b.changed p a

/-! ### The facts -/

/-- The texts of each script keep clear of what they may meet. -/
def separateScript (p : Script) : Bool :=
  -- injected text arises from nothing another script writes
  (b.injected p).all (fun x => Anchor.all.all fun a => (b.changed p a).all fun u => !overlaps x u) &&
  (b.steps p).all (fun step =>
    -- an anchor is met at its own site, at the beginning of it, and nowhere else
    Anchor.all.all (fun a => (b.pending p a).all fun u =>
      if a = step.1 then !strays (b.anchor step.1) u else !overlaps (b.anchor step.1) u) &&
    (b.steps p).all fun step' => step'.1 = step.1 || (b.pending p step'.1).all fun u =>
      !overlaps (b.anchor step.1) (step'.2 ++ u.drop (b.anchor step'.1).length)) &&
  -- the trace of a script stays when another one runs
  Script.all.all fun p' => p' = p || (b.steps p').all fun step =>
    !overlaps (b.trace p) (b.anchor step.1)

/-- Whether the blocks keep out of each other's way. -/
def separate : Bool :=
  Script.all.all b.separateScript &&
  -- the marker of the webhook script is in what it writes
  ((b.hookRoute ++ b.bodyParser).dropInfix? b.routeMarker).isSome &&
  (Anchor.all.all fun a => !(b.anchor a).isEmpty) &&
  Script.all.all fun p => (b.injected p).all fun x => !x.isEmpty

/-- A fact about lists of characters is one about the strings made of them. -/
theorem chars_of_ofList {P : Blocks (List Char) → Bool} {b : Blocks (List Char)} (h : P b = true) :
    P ((b.map String.ofList).map String.toList) = true := by
  simpa only [Blocks.map, String.toList_ofList] using h

/-! ### The facts, one by one -/

section Facts

variable {b} (hb : b.separate = true)
include hb

theorem separateScript_of_separate (p : Script) : b.separateScript p = true := by
  simp only [separate, Bool.and_eq_true, List.all_eq_true] at hb
  exact hb.1.1.1 p p.mem_all

theorem clear_injected {p : Script} {x u : List Char} {a : Anchor} (hx : x ∈ b.injected p)
    (hu : u ∈ b.changed p a) : Clear x u := by
  have h := separateScript_of_separate hb p
  simp only [separateScript, Bool.and_eq_true, List.all_eq_true, Bool.not_eq_true'] at h
  exact clear_of_overlaps (h.1.1 x hx a a.mem_all u hu)

theorem clear_anchor {p : Script} {step : Anchor × List Char} {a : Anchor} {u : List Char}
    (hstep : step ∈ b.steps p) (ha : a ≠ step.1) (hu : u ∈ b.pending p a) :
    Clear (b.anchor step.1) u := by
  have h := separateScript_of_separate hb p
  simp only [separateScript, Bool.and_eq_true, List.all_eq_true] at h
  have hau := (h.1.2 step hstep).1 a a.mem_all u hu
  rw [if_neg ha, Bool.not_eq_true'] at hau
  exact clear_of_overlaps hau

theorem onlyHead_anchor {p : Script} {step : Anchor × List Char} {u : List Char}
    (hstep : step ∈ b.steps p) (hu : u ∈ b.pending p step.1) :
    OnlyHead (b.anchor step.1) u := by
  have h := separateScript_of_separate hb p
  simp only [separateScript, Bool.and_eq_true, List.all_eq_true] at h
  have hau := (h.1.2 step hstep).1 step.1 step.1.mem_all u hu
  rw [if_pos rfl, Bool.not_eq_true'] at hau
  exact onlyHead_of_strays hau

theorem clear_new {p : Script} {step step' : Anchor × List Char} {u : List Char}
    (hstep : step ∈ b.steps p) (hstep' : step' ∈ b.steps p) (hne : step'.1 ≠ step.1)
    (hu : u ∈ b.pending p step'.1) :
    Clear (b.anchor step.1) (step'.2 ++ u.drop (b.anchor step'.1).length) := by
  have h := separateScript_of_separate hb p
  simp only [separateScript, Bool.and_eq_true, List.all_eq_true] at h
  have hnew := (h.1.2 step hstep).2 step' hstep'
  simp only [decide_eq_false hne, Bool.false_or, List.all_eq_true, Bool.not_eq_true'] at hnew
  exact clear_of_overlaps (hnew u hu)

theorem clear_trace {p p' : Script} {step : Anchor × List Char} (hp : p' ≠ p)
    (hstep : step ∈ b.steps p') : Clear (b.trace p) (b.anchor step.1) := by
  have h := separateScript_of_separate hb p
  simp only [separateScript, Bool.and_eq_true, List.all_eq_true] at h
  have htrace := h.2 p' p'.mem_all
  simp only [decide_eq_false hp, Bool.false_or, List.all_eq_true, Bool.not_eq_true'] at htrace
  exact clear_of_overlaps (htrace step hstep)

theorem marker_infix : b.routeMarker <:+: b.hookRoute ++ b.bodyParser := by
  simp only [separate, Bool.and_eq_true] at hb
  by_contra habsent
  have hsome := hb.1.1.2
  rw [dropInfix?_eq_none.mpr habsent] at hsome
  cases hsome

/-- The trace of a script is in what it writes. -/
theorem exists_trace (p : Script) : ∃ step ∈ b.steps p, b.trace p <:+: step.2 := by
  cases p with
  | restartGateway => exact ⟨_, List.mem_cons_self, List.infix_refl _⟩
  | scopedExport => exact ⟨_, List.mem_cons_of_mem _ List.mem_cons_self, List.infix_refl _⟩
  | githubWebhook =>
      exact ⟨_, List.mem_cons_of_mem _ List.mem_cons_self, marker_infix hb⟩

theorem anchor_ne_nil (a : Anchor) : b.anchor a ≠ [] := by
  simp only [separate, Bool.and_eq_true, List.all_eq_true, Bool.not_eq_true'] at hb
  intro hnil
  have hne := hb.1.2 a a.mem_all
  rw [hnil] at hne
  cases hne

theorem injected_ne_nil {p : Script} {x : List Char} (hx : x ∈ b.injected p) : x ≠ [] := by
  simp only [separate, Bool.and_eq_true, List.all_eq_true, Bool.not_eq_true'] at hb
  rintro rfl
  have hne := hb.2 p p.mem_all [] hx
  cases hne

end Facts

/-! ### The anchors of a script -/

/-- No two replacements of a script have one anchor. -/
theorem steps_nodup (p : Script) : ((b.steps p).map Prod.fst).Nodup := by
  cases p
  · show [Anchor.restartDeclaration, .restartBlock, .importBlock].Nodup
    decide
  · show [Anchor.tarImport, .exportHandler].Nodup
    decide
  · show [Anchor.tarImport, .bodyParser].Nodup
    decide

/-- Every anchor is one of some script. -/
theorem exists_step (a : Anchor) : ∃ p, ∃ step ∈ b.steps p, step.1 = a := by
  cases a
  · exact ⟨.restartGateway, _, List.mem_cons_self, rfl⟩
  · exact ⟨.restartGateway, _, List.mem_cons_of_mem _ List.mem_cons_self, rfl⟩
  · exact ⟨.restartGateway, _, List.mem_cons_of_mem _ (List.mem_cons_of_mem _ List.mem_cons_self),
      rfl⟩
  · exact ⟨.scopedExport, _, List.mem_cons_self, rfl⟩
  · exact ⟨.scopedExport, _, List.mem_cons_of_mem _ List.mem_cons_self, rfl⟩
  · exact ⟨.githubWebhook, _, List.mem_cons_of_mem _ List.mem_cons_self, rfl⟩

theorem trace_mem_injected (p : Script) : b.trace p ∈ b.injected p := by
  cases p
  · exact List.mem_cons_self
  · exact List.mem_cons_of_mem _ List.mem_cons_self
  · exact List.mem_cons_of_mem _ List.mem_cons_self

end Blocks

set_option maxRecDepth 100000 in
/-- **The blocks of the scripts are separate.** -/
theorem separate_blocks : chars.separate = true :=
  Blocks.chars_of_ofList (b := ⟨_, _, _, _, _, _, _, _, _, _, _, _, _, _⟩) (by decide +kernel)

end Wrapper
