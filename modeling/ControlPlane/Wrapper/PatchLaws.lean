/-
ControlPlane/Wrapper/PatchLaws.lean

The laws of the patch scripts: each is atomic, refuses a second time, and commutes
with the other two.

A script accepts a text when what it injects is absent and each of its anchors
occurs at one place (`status_eq_zero_iff`).  The text then has a layout with the
anchors as its sites, and running the script is substitution at its sites
(`run_layout`).  That lemma is about any state in which other scripts may have
run, as long as what stands at the sites is `pending`; the three laws are read
off it.  For the third the sites are all six anchors, and only the text at the
tar import depends on the order: `stands` says how.
-/
import ControlPlane.Wrapper.Separation

namespace Wrapper

open Substitution

/-! ### The scripts on characters -/

/-- Old and new blocks. -/
def Script.edits (p : Script) : List (List Char × List Char) :=
  p.replacements.map fun r => (r.oldBlock.toList, r.newBlock.toList)

theorem edits_eq (p : Script) :
    p.edits = (chars.steps p).map fun step => (chars.anchor step.1, step.2) := by
  cases p <;>
    simp [Script.edits, Script.replacements, Blocks.steps, Blocks.anchor, Blocks.stateLine,
      Blocks.hookLine, chars, blocks, Blocks.map]

theorem injected_eq (p : Script) :
    p.replacements.map (fun r => r.injected.toList) = chars.injected p := by
  cases p <;>
    simp [Script.replacements, Replacement.injected, Blocks.injected, Blocks.steps,
      Blocks.stateLine, chars, blocks, Blocks.map]

theorem toList_apply (rs : List Replacement) (s : String) :
    (apply rs s).toList =
      Layout.replaceAll (rs.map fun r => (r.oldBlock.toList, r.newBlock.toList)) s.toList := by
  induction rs generalizing s with
  | nil => rfl
  | cons r rs ih =>
      show (apply rs (String.ofList _)).toList = Layout.replaceAll _ (replaceFirst _ _ _)
      rw [ih, String.toList_ofList]

/-- What a script accepts. -/
structure Accepted (p : Script) (s : List Char) : Prop where
  absent : ∀ x ∈ chars.injected p, ¬ x <:+: s
  unique : ∀ step ∈ chars.steps p, UniqueIn (chars.anchor step.1) s

theorem guard_eq_none_iff {p : Script} {targetPath s : String} {r : Replacement} :
    p.guard targetPath s r = none ↔
      occurrences s r.injected = 0 ∧ occurrences s r.oldBlock = 1 := by
  have hguard : ∃ present expected, p.guard targetPath s r =
      if occurrences s r.injected ≠ 0 then some present
      else if occurrences s r.oldBlock ≠ 1 then some expected else none := ⟨_, _, rfl⟩
  obtain ⟨present, expected, hguard⟩ := hguard
  rw [hguard]
  by_cases h : occurrences s r.injected = 0
  · by_cases h' : occurrences s r.oldBlock = 1
    · simp [h, h']
    · simp [h, h']
  · simp [h]

section Run

variable {p : Script} {targetPath s : String}

theorem accepted_iff :
    Accepted p s.toList ↔ ∀ r ∈ p.replacements,
      occurrences s r.injected = 0 ∧ occurrences s r.oldBlock = 1 := by
  have hinjected : (∀ x ∈ chars.injected p, ¬ x <:+: s.toList) ↔
      ∀ r ∈ p.replacements, occurrences s r.injected = 0 := by
    rw [← injected_eq, List.forall_mem_map]
    refine forall₂_congr fun r hr => ?_
    have hne : r.injected.toList ≠ [] := by
      refine Blocks.injected_ne_nil separate_blocks (p := p) ?_
      rw [← injected_eq]
      exact List.mem_map_of_mem hr
    exact (length_split_eq_zero_iff hne).symm
  have hunique : (∀ step ∈ chars.steps p, UniqueIn (chars.anchor step.1) s.toList) ↔
      ∀ r ∈ p.replacements, occurrences s r.oldBlock = 1 := by
    have hedits : (∀ step ∈ chars.steps p, UniqueIn (chars.anchor step.1) s.toList) ↔
        ∀ e ∈ p.edits, UniqueIn e.1 s.toList := by
      rw [edits_eq, List.forall_mem_map]
    rw [hedits, Script.edits, List.forall_mem_map]
    refine forall₂_congr fun r hr => ?_
    have hmem : (r.oldBlock.toList, r.newBlock.toList) ∈ p.edits := List.mem_map_of_mem hr
    rw [edits_eq] at hmem
    obtain ⟨step, hstep, heq⟩ := List.mem_map.mp hmem
    have hold : chars.anchor step.1 = r.oldBlock.toList := (Prod.mk.inj heq).1
    have hne : r.oldBlock.toList ≠ [] := by
      rw [← hold]
      exact Blocks.anchor_ne_nil separate_blocks step.1
    have hself : OnlyHead r.oldBlock.toList r.oldBlock.toList := by
      rw [← hold]
      exact Blocks.onlyHead_anchor separate_blocks hstep List.mem_cons_self
    exact (length_split_eq_one_iff hne hself).symm
  constructor
  · rintro ⟨habsent, hun⟩ r hr
    exact ⟨hinjected.mp habsent r hr, hunique.mp hun r hr⟩
  · intro h
    exact ⟨hinjected.mpr fun r hr => (h r hr).1, hunique.mpr fun r hr => (h r hr).2⟩

/-- The two ways a run of a script can end. -/
theorem run_cases (p : Script) (targetPath s : String) :
    ((p.run targetPath s).status = 0 ∧ targetPath ≠ "" ∧ Accepted p s.toList ∧
      (p.run targetPath s).file.toList = Layout.replaceAll p.edits s.toList) ∨
    ((p.run targetPath s).status ≠ 0 ∧ (targetPath = "" ∨ ¬ Accepted p s.toList) ∧
      (p.run targetPath s).file = s) := by
  unfold Script.run
  by_cases hpath : targetPath = ""
  · right
    rw [if_pos hpath]
    exact ⟨Nat.one_ne_zero, .inl hpath, rfl⟩
  · have hnone : p.replacements.filterMap (p.guard targetPath s) = [] ↔ Accepted p s.toList := by
      rw [accepted_iff, List.filterMap_eq_nil_iff]
      exact forall₂_congr fun r _ => guard_eq_none_iff
    rw [if_neg hpath]
    by_cases herrors : p.replacements.filterMap (p.guard targetPath s) = []
    · left
      simp only [herrors, ne_eq, not_true_eq_false, if_false]
      exact ⟨trivial, hpath, hnone.mp herrors, toList_apply p.replacements s⟩
    · right
      simp only [herrors, ne_eq, not_false_eq_true, if_true]
      exact ⟨Nat.one_ne_zero, .inr fun h => herrors (hnone.mpr h), trivial⟩

/-- **When a script succeeds.** -/
theorem status_eq_zero_iff :
    (p.run targetPath s).status = 0 ↔ targetPath ≠ "" ∧ Accepted p s.toList := by
  rcases run_cases p targetPath s with ⟨hstatus, hpath, hacc, -⟩ | ⟨hstatus, hno, -⟩
  · exact ⟨fun _ => ⟨hpath, hacc⟩, fun _ => hstatus⟩
  · refine ⟨fun h => absurd h hstatus, ?_⟩
    rintro ⟨hpath, hacc⟩
    rcases hno with hno | hno
    · exact absurd hno hpath
    · exact absurd hacc hno

theorem file_of_accepted (hpath : targetPath ≠ "") (h : Accepted p s.toList) :
    (p.run targetPath s).file.toList = Layout.replaceAll p.edits s.toList := by
  have hstatus := status_eq_zero_iff.mpr ⟨hpath, h⟩
  rcases run_cases p targetPath s with ⟨-, -, -, hfile⟩ | ⟨hno, -, -⟩
  · exact hfile
  · exact absurd hstatus hno

end Run

/-! ### A script on a layout -/

section Layouts

variable {p : Script} {lay : Layout Anchor Char} {u : Anchor → List Char}

/-- Anchors do not overlap each other. -/
theorem clear_anchors {a a' : Anchor} (h : a' ≠ a) : Clear (chars.anchor a) (chars.anchor a') := by
  obtain ⟨p, step, hstep, rfl⟩ := chars.exists_step a
  exact Blocks.clear_anchor separate_blocks hstep h List.mem_cons_self

/-- A text in which some anchors occur at one place each is a layout of them. -/
theorem exists_layout {as : List Anchor} (hnodup : as.Nodup) {s : List Char}
    (h : ∀ a ∈ as, UniqueIn (chars.anchor a) s) :
    ∃ lay : Layout Anchor Char, lay.text chars.anchor = s ∧ lay.sites.Perm as ∧
      ∀ a ∈ as, ∀ c ∈ lay.keeps, ¬ chars.anchor a <:+: c := by
  have hclear : as.Pairwise fun a a' => Clear (chars.anchor a) (chars.anchor a') :=
    List.Pairwise.imp (fun hne => clear_anchors hne.symm) hnodup
  have hoccur : ∀ a ∈ as, chars.anchor a <:+: s := by
    intro a ha
    obtain ⟨p, q, hs, -⟩ := h a ha
    exact ⟨p, q, hs.symm⟩
  obtain ⟨lay, rfl, hperm⟩ := Layout.exists_layout hclear hoccur
  refine ⟨lay, rfl, hperm, ?_⟩
  intro a ha
  exact Layout.keep_of_unique (hperm.mem_iff.mpr ha) (Blocks.anchor_ne_nil separate_blocks a)
    (h a ha)

/-- What is pending at a script's own anchor starts with the anchor. -/
theorem exists_pending {step : Anchor × List Char} (hstep : step ∈ chars.steps p)
    {v : List Char} (hv : v ∈ chars.pending p step.1) : ∃ b, v = chars.anchor step.1 ++ b := by
  have hnil : ∀ a, v ∈ [chars.anchor a] → ∃ b, v = chars.anchor a ++ b := by
    intro a h
    exact ⟨[], by rw [List.mem_singleton.mp h, List.append_nil]⟩
  cases p with
  | restartGateway =>
      simp only [Blocks.steps, List.mem_cons, List.not_mem_nil, or_false] at hstep
      obtain rfl | rfl | rfl := hstep
      · exact hnil _ hv
      · exact hnil _ hv
      · exact hnil _ hv
  | scopedExport =>
      simp only [Blocks.steps, List.mem_cons, List.not_mem_nil, or_false] at hstep
      obtain rfl | rfl := hstep
      · rcases List.mem_cons.mp hv with rfl | hv
        · exact ⟨[], (List.append_nil _).symm⟩
        · exact ⟨chars.hookLine, List.mem_singleton.mp hv⟩
      · exact hnil _ hv
  | githubWebhook =>
      simp only [Blocks.steps, List.mem_cons, List.not_mem_nil, or_false] at hstep
      obtain rfl | rfl := hstep
      · rcases List.mem_cons.mp hv with rfl | hv
        · exact ⟨[], (List.append_nil _).symm⟩
        · exact ⟨chars.stateLine, List.mem_singleton.mp hv⟩
      · exact hnil _ hv

/-- **A script on a layout.**  If the layout's text was acceptable before any script
ran, it still is, and running the script substitutes at its sites. -/
theorem run_layout (hnodup : lay.sites.Nodup) (hsites : ∀ step ∈ chars.steps p, step.1 ∈ lay.sites)
    (hkeeps : ∀ step ∈ chars.steps p, ∀ c ∈ lay.keeps, ¬ chars.anchor step.1 <:+: c)
    (habsent : ∀ x ∈ chars.injected p, ¬ x <:+: lay.text chars.anchor)
    (hu : ∀ a ∈ lay.sites, u a ∈ chars.pending p a) :
    Accepted p (lay.text u) ∧ Layout.replaceAll p.edits (lay.text u) =
      lay.text (Layout.advance chars.anchor (chars.steps p) u) := by
  have hpending : ∀ step ∈ chars.steps p, u step.1 ∈ chars.pending p step.1 :=
    fun step hstep => hu step.1 (hsites step hstep)
  have hhead : ∀ step ∈ chars.steps p, OnlyHead (chars.anchor step.1) (u step.1) :=
    fun step hstep => Blocks.onlyHead_anchor separate_blocks hstep (hpending step hstep)
  have hclear : ∀ step ∈ chars.steps p, ∀ a ∈ lay.sites, a ≠ step.1 →
      Clear (chars.anchor step.1) (u a) :=
    fun step hstep a ha hne => Blocks.clear_anchor separate_blocks hstep hne (hu a ha)
  have hbegin : ∀ step ∈ chars.steps p, ∃ b, u step.1 = chars.anchor step.1 ++ b :=
    fun step hstep => exists_pending hstep (hpending step hstep)
  refine ⟨⟨?_, ?_⟩, ?_⟩
  · -- what is injected overlaps nothing another script has written
    intro x hx hin
    have hchanged : ∀ a ∈ lay.sites, u a = chars.anchor a ∨ Clear x (u a) := by
      intro a ha
      rcases List.mem_cons.mp (hu a ha) with h | h
      · exact .inl h
      · exact .inr (Blocks.clear_injected separate_blocks hx h)
    have hempty : x <:+: [] ++ lay.text u := hin
    exact habsent x hx (Layout.infix_of_changed hchanged hempty)
  · intro step hstep
    obtain ⟨b, hb⟩ := hbegin step hstep
    exact (Layout.replaceFirst_text hnodup (hsites step hstep) hb (hhead step hstep)
      (hclear step hstep) (hkeeps step hstep) []).1
  · rw [edits_eq]
    exact Layout.replaceAll_text hnodup hsites (chars.steps_nodup p) hkeeps hbegin hhead hclear
      fun step hstep step' hstep' hne =>
        Blocks.clear_new separate_blocks hstep hstep' hne (hpending step' hstep')

end Layouts

/-! ### What stands at the anchors -/

namespace Blocks

variable (b : Blocks (List Char))

/-- The line a script puts after the tar import. -/
def line : Script → List Char
  | .restartGateway => []
  | .scopedExport => b.stateLine
  | .githubWebhook => b.hookLine

/-- What stands at the anchors after some scripts: of two lines after the tar import
the one written last comes first. -/
def stands (ran : List Script) : Anchor → List Char
  | .restartDeclaration =>
      if .restartGateway ∈ ran then b.stopDefinition ++ '\n' :: '\n' :: b.restartDeclaration
      else b.restartDeclaration
  | .restartBlock => if .restartGateway ∈ ran then b.restartBlockNew else b.restartBlock
  | .importBlock => if .restartGateway ∈ ran then b.importBlockNew else b.importBlock
  | .tarImport => b.tarImport ++ ran.reverse.flatMap b.line
  | .exportHandler =>
      if .scopedExport ∈ ran then b.exportHandler ++ b.scopeDelegate else b.exportHandler
  | .bodyParser =>
      if .githubWebhook ∈ ran then b.hookRoute ++ b.bodyParser else b.bodyParser

theorem stands_nil : b.stands [] = b.anchor := by
  funext a
  cases a
  case tarImport => exact List.append_nil _
  all_goals rfl

/-- One more script. -/
theorem stands_append {ran : List Script} {p : Script} (hp : p ∉ ran) :
    Layout.advance b.anchor (b.steps p) (b.stands ran) = b.stands (ran ++ [p]) := by
  funext a
  cases p <;> cases a <;>
    simp [Layout.advance, steps, stands, anchor, line, hp, Function.update]

/-- What stands at an anchor when the first, the second or the third of three scripts
runs is pending. -/
theorem stands_pending_nil (p : Script) (a : Anchor) : b.stands [] a ∈ b.pending p a := by
  rw [stands_nil]
  exact List.mem_cons_self

theorem stands_pending_one {p q : Script} (hne : p ≠ q) (a : Anchor) :
    b.stands [p] a ∈ b.pending q a := by
  cases p <;> cases q <;> cases a <;>
    simp [stands, pending, changed, anchor, line, Script.all, steps, List.lookup_cons, List.lookup_nil,
      beq_eq_decide] at hne ⊢

theorem stands_pending_two {p q r : Script} (hpq : p ≠ q) (hpr : p ≠ r) (hqr : q ≠ r)
    (a : Anchor) : b.stands [p, q] a ∈ b.pending r a := by
  cases p <;> cases q <;> cases r <;> cases a <;>
    simp [stands, pending, changed, anchor, line, Script.all, steps, List.lookup_cons, List.lookup_nil,
      beq_eq_decide] at hpq hpr hqr ⊢

end Blocks

/-! ### The first law: all or nothing -/

/-- The script fails and leaves the file as it is, or succeeds and substitutes all
its blocks at once. -/
def Script.Atomic (p : Script) (targetPath s : String) : Prop :=
  ((p.run targetPath s).status ≠ 0 ∧ (p.run targetPath s).file = s) ∨
  ((p.run targetPath s).status = 0 ∧
    Substituted p.edits s.toList (p.run targetPath s).file.toList)

/-- An accepted text is a layout of the script's anchors, and the script substitutes
at its sites. -/
theorem Accepted.exists_layout {p : Script} {s : List Char} (h : Accepted p s) :
    ∃ lay : Layout Anchor Char, lay.text chars.anchor = s ∧
      lay.sites.Perm ((chars.steps p).map Prod.fst) ∧
      Layout.replaceAll p.edits s =
        lay.text (Layout.advance chars.anchor (chars.steps p) chars.anchor) := by
  have hanchors : ∀ a ∈ (chars.steps p).map Prod.fst, UniqueIn (chars.anchor a) s := by
    intro a ha
    obtain ⟨step, hstep, rfl⟩ := List.mem_map.mp ha
    exact h.unique step hstep
  obtain ⟨lay, htext, hperm, hkeeps⟩ := Wrapper.exists_layout (chars.steps_nodup p) hanchors
  refine ⟨lay, htext, hperm, ?_⟩
  have hstep : ∀ step ∈ chars.steps p, step.1 ∈ (chars.steps p).map Prod.fst :=
    fun step hstep => List.mem_map_of_mem hstep
  have hrun := run_layout (p := p) (u := chars.anchor) (hperm.nodup_iff.mpr (chars.steps_nodup p))
    (fun step h => hperm.mem_iff.mpr (hstep step h)) (fun step h => hkeeps step.1 (hstep step h))
    (by rw [htext]; exact h.absent) (fun a _ => List.mem_cons_self)
  rw [htext] at hrun
  exact hrun.2

/-- What a script puts at one of its anchors. -/
theorem advance_step {p : Script} {step : Anchor × List Char} (hstep : step ∈ chars.steps p) :
    Layout.advance chars.anchor (chars.steps p) chars.anchor step.1 = step.2 := by
  rw [Layout.advance_of_mem (chars.steps_nodup p) (n := step.2) hstep, List.drop_length,
    List.append_nil]

theorem atomic (p : Script) (targetPath s : String) : p.Atomic targetPath s := by
  rcases run_cases p targetPath s with ⟨hstatus, -, hacc, hfile⟩ | ⟨hstatus, -, hfile⟩
  · right
    refine ⟨hstatus, ?_, ?_⟩
    · rw [edits_eq, List.forall_mem_map]
      exact hacc.unique
    · obtain ⟨lay, htext, hperm, hreplaced⟩ := hacc.exists_layout
      let after := Layout.advance chars.anchor (chars.steps p) chars.anchor
      refine ⟨lay.map fun a => (chars.anchor a, after a), ?_, ?_, ?_⟩
      · have hedits : ((chars.steps p).map Prod.fst).map (fun a => (chars.anchor a, after a)) =
            p.edits := by
          rw [edits_eq, List.map_map]
          refine List.map_congr_left fun step hstep => ?_
          show (chars.anchor step.1, after step.1) = (chars.anchor step.1, step.2)
          rw [show after step.1 = step.2 from advance_step hstep]
        rw [Layout.sites_map, ← hedits]
        exact hperm.map _
      · rw [Layout.text_map]
        exact htext
      · rw [Layout.text_map, hfile, hreplaced]
  · exact .inl ⟨hstatus, hfile⟩

/-! ### The second law: once -/

/-- The file after some scripts, whether they succeed or not. -/
def runAll (targetPath : String) (scripts : List Script) (s : String) : String :=
  scripts.foldl (fun s p => (p.run targetPath s).file) s

/-- After the script has succeeded it fails, whatever has run in between. -/
def Script.Once (p : Script) (targetPath s : String) : Prop :=
  (p.run targetPath s).status = 0 → ∀ later : List Script,
    (p.run targetPath (runAll targetPath later (p.run targetPath s).file)).status ≠ 0

section Once

variable {p p' : Script} {targetPath s : String}

/-- A script that succeeds leaves its trace. -/
theorem trace_of_success (h : (p.run targetPath s).status = 0) :
    chars.trace p <:+: (p.run targetPath s).file.toList := by
  obtain ⟨hpath, hacc⟩ := status_eq_zero_iff.mp h
  obtain ⟨lay, -, hperm, hreplaced⟩ := hacc.exists_layout
  rw [file_of_accepted hpath hacc, hreplaced]
  -- it is in a new block, which stands at its site
  obtain ⟨step, hstep, htrace⟩ := Blocks.exists_trace separate_blocks p
  have hsite : step.1 ∈ lay.sites := hperm.mem_iff.mpr (List.mem_map_of_mem hstep)
  refine htrace.trans ?_
  rw [← advance_step hstep]
  exact Layout.infix_of_site hsite _

/-- A script whose trace is there fails. -/
theorem fails_of_trace (h : chars.trace p <:+: s.toList) : (p.run targetPath s).status ≠ 0 := by
  intro hstatus
  obtain ⟨-, hacc⟩ := status_eq_zero_iff.mp hstatus
  exact hacc.absent _ (chars.trace_mem_injected p) h

theorem infix_replaceAll {x : List Char} {edits : List (List Char × List Char)}
    (hclear : ∀ e ∈ edits, Clear x e.1) {t : List Char} (hx : x <:+: t) :
    x <:+: Layout.replaceAll edits t := by
  induction edits generalizing t with
  | nil => exact hx
  | cons e edits ih =>
      have hfirst : x <:+: replaceFirst t e.1 e.2 :=
        infix_replaceFirst (hclear e List.mem_cons_self) hx
      exact ih (fun e' he' => hclear e' (List.mem_cons_of_mem e he')) hfirst

/-- No script removes the trace of another, or its own. -/
theorem trace_stays (h : chars.trace p <:+: s.toList) :
    chars.trace p <:+: (p'.run targetPath s).file.toList := by
  rcases run_cases p' targetPath s with ⟨hstatus, -, -, hfile⟩ | ⟨-, -, hfile⟩
  · rcases eq_or_ne p' p with rfl | hne
    · exact absurd hstatus (fails_of_trace h)
    · rw [hfile]
      refine infix_replaceAll ?_ h
      rw [edits_eq, List.forall_mem_map]
      exact fun step hstep => Blocks.clear_trace separate_blocks hne hstep
  · rw [hfile]
    exact h

theorem trace_runAll (later : List Script) (h : chars.trace p <:+: s.toList) :
    chars.trace p <:+: (runAll targetPath later s).toList := by
  induction later generalizing s with
  | nil => exact h
  | cons p' later ih => exact ih (trace_stays h)

theorem once (p : Script) (targetPath s : String) : p.Once targetPath s :=
  fun h later => fails_of_trace (trace_runAll later (trace_of_success h))

end Once

/-! ### The third law: any order -/

/-- The file after some scripts, if all of them succeed. -/
def runInOrder (targetPath : String) : List Script → String → Option String
  | [], s => some s
  | p :: rest, s =>
      if (p.run targetPath s).status = 0 then
        runInOrder targetPath rest (p.run targetPath s).file
      else none

/-- In every order the three scripts succeed, and up to the order of the two lines
after the tar import the texts they end with are the same. -/
def Commutes (targetPath s : String) : Prop :=
  ∃ before after : String, ∀ order : List Script, order.Perm Script.all →
    ∃ first second, [first, second].Perm [stateImport, hookImport] ∧
      runInOrder targetPath order s =
        some (before ++ tarImport ++ "\n" ++ first ++ "\n" ++ second ++ after)

section Commutes

variable {targetPath s : String} {lay : Layout Anchor Char}

/-- The script that runs after some others. -/
theorem run_stands {p : Script} {ran : List Script} {t : String} (hpath : targetPath ≠ "")
    (hnodup : lay.sites.Nodup) (hsites : ∀ a, a ∈ lay.sites)
    (hkeeps : ∀ a, ∀ c ∈ lay.keeps, ¬ chars.anchor a <:+: c)
    (hacc : Accepted p (lay.text chars.anchor))
    (hpending : ∀ a, chars.stands ran a ∈ chars.pending p a) (hp : p ∉ ran)
    (ht : t.toList = lay.text (chars.stands ran)) :
    (p.run targetPath t).status = 0 ∧
      (p.run targetPath t).file.toList = lay.text (chars.stands (ran ++ [p])) := by
  obtain ⟨haccepted, hreplaced⟩ := run_layout (p := p) hnodup (fun step _ => hsites step.1)
    (fun step _ => hkeeps step.1) hacc.absent (fun a _ => hpending a)
  rw [chars.stands_append hp] at hreplaced
  rw [← ht] at haccepted hreplaced
  refine ⟨status_eq_zero_iff.mpr ⟨hpath, haccepted⟩, ?_⟩
  rw [file_of_accepted hpath haccepted, hreplaced]

/-- The two lines after the tar import once all scripts have run. -/
theorem exists_lines {p q r : Script} (hpq : p ≠ q) (hpr : p ≠ r) (hqr : q ≠ r) :
    ∃ first second, [first, second].Perm [stateImport, hookImport] ∧
      [p, q, r].reverse.flatMap chars.line = ("\n" ++ first ++ "\n" ++ second).toList := by
  have hstate : chars.stateLine = '\n' :: stateImport.toList := rfl
  have hhook : chars.hookLine = '\n' :: hookImport.toList := rfl
  cases p <;> cases q <;> cases r <;> simp at hpq hpr hqr
  case restartGateway.scopedExport.githubWebhook =>
    exact ⟨hookImport, stateImport, List.Perm.swap _ _ _, by simp [Blocks.line, hstate, hhook]⟩
  case restartGateway.githubWebhook.scopedExport =>
    exact ⟨stateImport, hookImport, List.Perm.refl _, by simp [Blocks.line, hstate, hhook]⟩
  case scopedExport.restartGateway.githubWebhook =>
    exact ⟨hookImport, stateImport, List.Perm.swap _ _ _, by simp [Blocks.line, hstate, hhook]⟩
  case scopedExport.githubWebhook.restartGateway =>
    exact ⟨hookImport, stateImport, List.Perm.swap _ _ _, by simp [Blocks.line, hstate, hhook]⟩
  case githubWebhook.restartGateway.scopedExport =>
    exact ⟨stateImport, hookImport, List.Perm.refl _, by simp [Blocks.line, hstate, hhook]⟩
  case githubWebhook.scopedExport.restartGateway =>
    exact ⟨stateImport, hookImport, List.Perm.refl _, by simp [Blocks.line, hstate, hhook]⟩

/-- Where all three scripts have run, only the tar import depends on the order. -/
theorem stands_of_perm {order : List Script} (h : order.Perm Script.all) {a : Anchor}
    (ha : a ≠ .tarImport) : chars.stands order a = chars.stands Script.all a := by
  have hmem : ∀ p, p ∈ order ↔ p ∈ Script.all := fun p => h.mem_iff
  cases a
  case tarImport => exact absurd rfl ha
  all_goals simp only [Blocks.stands, hmem]

theorem commute (hall : ∀ p : Script, (p.run targetPath s).status = 0) : Commutes targetPath s := by
  have hpath : targetPath ≠ "" := (status_eq_zero_iff.mp (hall .restartGateway)).1
  have hacc : ∀ p, Accepted p s.toList := fun p => (status_eq_zero_iff.mp (hall p)).2
  have hunique : ∀ a ∈ Anchor.all, UniqueIn (chars.anchor a) s.toList := by
    intro a _
    obtain ⟨p, step, hstep, rfl⟩ := chars.exists_step a
    exact (hacc p).unique step hstep
  obtain ⟨lay, htext, hperm, hkeeps⟩ := exists_layout (by decide) hunique
  have hnodup : lay.sites.Nodup := hperm.nodup_iff.mpr (by decide)
  have hsites : ∀ a, a ∈ lay.sites := fun a => hperm.mem_iff.mpr a.mem_all
  have hkeeps' : ∀ a, ∀ c ∈ lay.keeps, ¬ chars.anchor a <:+: c := fun a => hkeeps a a.mem_all
  have haccepted : ∀ p, Accepted p (lay.text chars.anchor) := by
    intro p
    rw [htext]
    exact hacc p
  obtain ⟨before, after, haround, -⟩ :=
    Layout.around (hsites .tarImport) hnodup (chars.stands Script.all)
  refine ⟨String.ofList before, String.ofList after, ?_⟩
  intro order horder
  -- the three scripts, in the order they run
  obtain ⟨p, q, r, rfl⟩ : ∃ p q r, order = [p, q, r] := by
    have hlength : order.length = 3 := horder.length_eq
    match order, hlength with
    | [p, q, r], _ => exact ⟨p, q, r, rfl⟩
  have hdistinct : [p, q, r].Nodup := horder.nodup_iff.mpr (by decide)
  simp only [List.nodup_cons, List.mem_cons, List.not_mem_nil, or_false, not_or,
    not_false_eq_true, and_true, List.nodup_nil] at hdistinct
  obtain ⟨⟨hpq, hpr⟩, hqr⟩ := hdistinct
  have hs : s.toList = lay.text (chars.stands []) := by rw [chars.stands_nil, htext]
  obtain ⟨hp₁, hfile₁⟩ := run_stands hpath hnodup hsites hkeeps' (haccepted p)
    (chars.stands_pending_nil p) (by simp) hs
  obtain ⟨hq₁, hfile₂⟩ := run_stands hpath hnodup hsites hkeeps' (haccepted q)
    (chars.stands_pending_one hpq) (by simpa using Ne.symm hpq) hfile₁
  obtain ⟨hr₁, hfile₃⟩ := run_stands hpath hnodup hsites hkeeps' (haccepted r)
    (chars.stands_pending_two hpq hpr hqr) (by simp [Ne.symm hpr, Ne.symm hqr]) hfile₂
  obtain ⟨first, second, hlines, hline⟩ := exists_lines hpq hpr hqr
  refine ⟨first, second, hlines, ?_⟩
  have hend : lay.text (chars.stands [p, q, r]) =
      before ++ (chars.tarImport ++ [p, q, r].reverse.flatMap chars.line) ++ after :=
    haround (chars.stands [p, q, r]) fun a _ ha => stands_of_perm horder ha
  rw [hline] at hend
  rw [runInOrder, if_pos hp₁, runInOrder, if_pos hq₁, runInOrder, if_pos hr₁, runInOrder]
  refine congrArg some (String.toList_inj.mp ?_)
  rw [hfile₃]
  show lay.text (chars.stands [p, q, r]) = _
  rw [hend, show chars.tarImport = tarImport.toList from rfl]
  simp only [String.toList_append, String.toList_ofList, List.append_assoc]

end Commutes

/-! ### The laws -/

/-- **The patch scripts are atomic, apply once and commute.** -/
theorem patch_scripts_lawful (targetPath s : String) :
    (∀ p : Script, p.Atomic targetPath s) ∧ (∀ p : Script, p.Once targetPath s) ∧
      ((∀ p : Script, (p.run targetPath s).status = 0) → Commutes targetPath s) :=
  ⟨fun p => atomic p targetPath s, fun p => once p targetPath s, commute⟩

/-! A text all three scripts accept: its lines are the anchors. -/

/-- A server with all anchors. -/
def sampleServer : String :=
  tarImport ++ "\n" ++ bodyParser ++ "\n" ++ restartDeclaration ++ "\n" ++ restartBlock ++ "\n" ++
    exportHandler ++ "\n" ++ importBlock ++ "\n"

/-- The same server as a layout. -/
def sampleLayout : Layout Anchor Char :=
  .site [] .tarImport (.site ['\n'] .bodyParser (.site ['\n'] .restartDeclaration
    (.site ['\n'] .restartBlock (.site ['\n'] .exportHandler (.site ['\n'] .importBlock
      (.last ['\n']))))))

/-- Nothing that is injected is in the sample, and no anchor between its lines. -/
def Blocks.sampleUnpatched (b : Blocks (List Char)) : Bool :=
  (Anchor.all.all fun a => sampleLayout.keeps.all fun c => !tailMeets (b.anchor a) c) &&
  Script.all.all fun p => (b.injected p).all fun x => !tailMeets x (sampleLayout.text b.anchor)

set_option maxRecDepth 100000 in
theorem sampleServer_unpatched : chars.sampleUnpatched = true :=
  Blocks.chars_of_ofList (b := ⟨_, _, _, _, _, _, _, _, _, _, _, _, _, _⟩) (by decide +kernel)

theorem Blocks.toList_sample (b : Blocks String) :
    (b.tarImport ++ "\n" ++ b.bodyParser ++ "\n" ++ b.restartDeclaration ++ "\n" ++
      b.restartBlock ++ "\n" ++ b.exportHandler ++ "\n" ++ b.importBlock ++ "\n").toList =
      sampleLayout.text (b.map String.toList).anchor := by
  simp [sampleLayout, Layout.text, Blocks.anchor, Blocks.map]

theorem sampleServer_toList : sampleServer.toList = sampleLayout.text chars.anchor :=
  blocks.toList_sample

theorem sampleServer_accepted (p : Script) : (p.run "src/server.js" sampleServer).status = 0 := by
  have h := sampleServer_unpatched
  simp only [Blocks.sampleUnpatched, Bool.and_eq_true, List.all_eq_true, Bool.not_eq_true'] at h
  have hkeeps : ∀ a, ∀ c ∈ sampleLayout.keeps, ¬ chars.anchor a <:+: c := fun a c hc =>
    absent_of_tailMeets (Blocks.anchor_ne_nil separate_blocks a) (h.1 a a.mem_all c hc)
  have habsent : ∀ x ∈ chars.injected p, ¬ x <:+: sampleLayout.text chars.anchor := fun x hx =>
    absent_of_tailMeets (Blocks.injected_ne_nil separate_blocks hx) (h.2 p p.mem_all x hx)
  refine status_eq_zero_iff.mpr ⟨by decide, ?_⟩
  rw [sampleServer_toList]
  exact (run_layout (u := chars.anchor) (by decide) (fun step _ => by cases step.1 <;> decide)
    (fun step _ => hkeeps step.1) habsent fun _ _ => List.mem_cons_self).1

theorem sampleServer_commutes : Commutes "src/server.js" sampleServer :=
  (patch_scripts_lawful "src/server.js" sampleServer).2.2 sampleServer_accepted

end Wrapper
