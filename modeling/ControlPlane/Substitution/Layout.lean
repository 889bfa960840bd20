/-
ControlPlane/Substitution/Layout.lean

A text cut at labelled sites, and the simultaneous substitution at them.

A `Layout` is what a text looks like around its sites; what stands at a site is
a function of its label, so one layout gives a text for each such function.
Changing what stands at the sites is substitution at all of them at once.

Replacing the sites one after another does the same (`replaceAll_text`), if each
pattern is unique in the text as it was and never overlaps what stands at another
site, before or after.  The reason is `around`: an occurrence of the pattern is
at its own site or else inside a part between two sites, and those parts do not
change.
-/
import ControlPlane.Substitution.Occurrence
import Mathlib.Data.List.Perm.Basic
import Mathlib.Logic.Function.Basic

namespace Substitution

/-- Parts that are kept, and a labelled site between two of them. -/
inductive Layout (ι α : Type*) where
  | last (c : List α)
  | site (c : List α) (i : ι) (rest : Layout ι α)

namespace Layout

variable {ι α : Type*}

/-- The text with `u i` at each site labelled `i`. -/
def text (u : ι → List α) : Layout ι α → List α
  | last c => c
  | site c i rest => c ++ u i ++ rest.text u

/-- The places of a layout, in order. -/
def sites : Layout ι α → List ι
  | last _ => []
  | site _ i rest => i :: rest.sites

/-- The texts between the places, in order. -/
def keeps : Layout ι α → List (List α)
  | last c => [c]
  | site c _ rest => c :: rest.keeps

/-- The layout with other labels. -/
def map {κ : Type*} (f : ι → κ) : Layout ι α → Layout κ α
  | last c => last c
  | site c i rest => site c (f i) (rest.map f)

@[simp] theorem sites_map {κ : Type*} (f : ι → κ) (lay : Layout ι α) :
    (lay.map f).sites = lay.sites.map f := by
  induction lay with
  | last c => rfl
  | site c i rest ih => exact congrArg (f i :: ·) ih

@[simp] theorem text_map {κ : Type*} (f : ι → κ) (u : κ → List α) (lay : Layout ι α) :
    (lay.map f).text u = lay.text fun i => u (f i) := by
  induction lay with
  | last c => rfl
  | site c i rest ih => exact congrArg (c ++ u (f i) ++ ·) ih

theorem text_congr {u v : ι → List α} {lay : Layout ι α} (h : ∀ i ∈ lay.sites, u i = v i) :
    lay.text u = lay.text v := by
  induction lay with
  | last c => rfl
  | site c i rest ih =>
      show c ++ u i ++ rest.text u = c ++ v i ++ rest.text v
      rw [h i List.mem_cons_self, ih fun j hj => h j (List.mem_cons_of_mem i hj)]

/-! ### Where a text occurs -/

/-- An occurrence in front of a site, or behind it. -/
theorem split_at {c y r p x q : List α} (h : c ++ y ++ r = p ++ x ++ q)
    (hle : p.length + x.length ≤ c.length ∨ c.length + y.length ≤ p.length) :
    (∃ d, c = p ++ x ++ d) ∨ ∃ d, p = c ++ y ++ d ∧ r = d ++ x ++ q := by
  rcases hle with hle | hle
  · left
    rw [List.append_assoc c y r] at h
    obtain ⟨d, hc, -⟩ := append_eq_append_of_le h.symm (by rwa [List.length_append])
    exact ⟨d, hc⟩
  · right
    rw [List.append_assoc p x q] at h
    obtain ⟨d, hp, hr⟩ := append_eq_append_of_le h (by rwa [List.length_append])
    exact ⟨d, hp, by rw [hr, List.append_assoc]⟩

/-- What overlaps no site occurs in a part between two. -/
theorem exists_keep {u : ι → List α} {x : List α} {lay : Layout ι α}
    (hclear : ∀ i ∈ lay.sites, Clear x (u i)) (h : x <:+: lay.text u) :
    ∃ c ∈ lay.keeps, x <:+: c := by
  induction lay with
  | last c => exact ⟨c, List.mem_cons_self, h⟩
  | site c i rest ih =>
      obtain ⟨p, q, h⟩ := h
      have hsite : Clear x (u i) := hclear i List.mem_cons_self
      rcases split_at h.symm (hsite h) with ⟨d, hc⟩ | ⟨d, -, hrest⟩
      · exact ⟨c, List.mem_cons_self, p, d, hc.symm⟩
      · obtain ⟨c', hc', hx⟩ := ih (fun j hj => hclear j (List.mem_cons_of_mem i hj))
          ⟨d, q, hrest.symm⟩
        exact ⟨c', List.mem_cons_of_mem c hc', hx⟩

/-- The parts between the sites are there whatever stands at the sites. -/
theorem infix_of_keep {c : List α} {lay : Layout ι α} (hc : c ∈ lay.keeps) (u : ι → List α) :
    c <:+: lay.text u := by
  induction lay with
  | last c' =>
      rw [List.mem_singleton.mp hc]
      exact List.infix_refl c'
  | site c' i rest ih =>
      rcases List.mem_cons.mp hc with rfl | hc
      · exact ⟨[], u i ++ rest.text u, by simp [text]⟩
      · exact (ih hc).trans ⟨c' ++ u i, [], by simp [text]⟩

/-- Behind a beginning that is kept, and at sites that are changed to something the
text does not overlap, no new occurrence arises. -/
theorem infix_of_changed {u v : ι → List α} {x : List α} {lay : Layout ι α}
    (h : ∀ i ∈ lay.sites, v i = u i ∨ Clear x (v i)) {c₀ : List α}
    (hx : x <:+: c₀ ++ lay.text v) : x <:+: c₀ ++ lay.text u := by
  induction lay generalizing c₀ with
  | last c => exact hx
  | site c i rest ih =>
      have hrest : ∀ j ∈ rest.sites, v j = u j ∨ Clear x (v j) :=
        fun j hj => h j (List.mem_cons_of_mem i hj)
      have htext : ∀ w : ι → List α, c₀ ++ (site c i rest).text w =
          c₀ ++ c ++ w i ++ rest.text w := by
        intro w
        show c₀ ++ (c ++ w i ++ rest.text w) = _
        simp only [List.append_assoc]
      rw [htext u]
      rw [htext v] at hx
      rcases h i List.mem_cons_self with hi | hi
      · rw [hi] at hx
        exact ih hrest hx
      · obtain ⟨p, q, hx⟩ := hx
        rcases split_at hx.symm (hi hx) with ⟨d, hd⟩ | ⟨d, -, hd⟩
        · exact List.IsInfix.trans ⟨p, d, hd.symm⟩ ⟨[], u i ++ rest.text u, by simp⟩
        · have hin : x <:+: [] ++ rest.text u := ih hrest ⟨d, q, hd.symm⟩
          exact hin.trans ⟨c₀ ++ c ++ u i, [], by simp⟩

/-- The text around a site, and that a pattern which overlaps no other site, and
its own only where both start, occurs nowhere else. -/
theorem around {lay : Layout ι α} {i : ι} (hi : i ∈ lay.sites) (hnodup : lay.sites.Nodup)
    (u : ι → List α) :
    ∃ before after, (∀ v, (∀ j ∈ lay.sites, j ≠ i → v j = u j) →
        lay.text v = before ++ v i ++ after) ∧
      ∀ {x : List α}, OnlyHead x (u i) → (∀ j ∈ lay.sites, j ≠ i → Clear x (u j)) →
        (∀ c ∈ lay.keeps, ¬ x <:+: c) → ∀ {p q}, lay.text u = p ++ x ++ q → p = before := by
  induction lay with
  | last c => cases hi
  | site c j rest ih =>
      obtain ⟨hj, hrest⟩ := List.nodup_cons.mp hnodup
      rcases eq_or_ne i j with rfl | hij
      · -- this site
        refine ⟨c, rest.text u, ?_, ?_⟩
        · intro v hv
          have hagree : rest.text v = rest.text u := by
            refine text_congr fun k hk => hv k (List.mem_cons_of_mem i hk) ?_
            rintro rfl
            exact hj hk
          show c ++ v i ++ rest.text v = c ++ v i ++ rest.text u
          rw [hagree]
        · intro x hhead hclear hkeeps p q h
          have hinc : ¬ x <:+: c := hkeeps c List.mem_cons_self
          have hinrest : ¬ x <:+: rest.text u := by
            intro hx
            obtain ⟨c', hc', hx⟩ := exists_keep (fun k hk => by
              refine hclear k (List.mem_cons_of_mem i hk) ?_
              rintro rfl
              exact hj hk) hx
            exact hkeeps c' (List.mem_cons_of_mem c hc') hx
          have hcases := hhead h.symm
          rw [← or_assoc] at hcases
          rcases hcases with hle | heq
          · rcases split_at h hle with ⟨d, hc⟩ | ⟨d, -, hr⟩
            · exact absurd ⟨p, d, hc.symm⟩ hinc
            · exact absurd ⟨d, q, hr.symm⟩ hinrest
          · exact heq
      · -- a later one
        have hi : i ∈ rest.sites := (List.mem_cons.mp hi).resolve_left hij
        obtain ⟨before, after, htext, honly⟩ := ih hi hrest
        refine ⟨c ++ u j ++ before, after, ?_, ?_⟩
        · intro v hv
          have hvj : v j = u j := hv j List.mem_cons_self hij.symm
          have hvrest : rest.text v = before ++ v i ++ after :=
            htext v fun k hk => hv k (List.mem_cons_of_mem j hk)
          show c ++ v j ++ rest.text v = _
          rw [hvj, hvrest]
          simp only [List.append_assoc]
        · intro x hhead hclear hkeeps p q h
          have hinc : ¬ x <:+: c := hkeeps c List.mem_cons_self
          have hclearj : Clear x (u j) := hclear j List.mem_cons_self hij.symm
          rcases split_at h (hclearj h.symm) with ⟨d, hc⟩ | ⟨d, hp, hr⟩
          · exact absurd ⟨p, d, hc.symm⟩ hinc
          · have hd : d = before := by
              refine honly hhead (fun k hk => hclear k (List.mem_cons_of_mem j hk)) ?_ hr
              exact fun c' hc' => hkeeps c' (List.mem_cons_of_mem c hc')
            rw [hp, hd]

/-- What stands at a site occurs. -/
theorem infix_of_site {i : ι} {lay : Layout ι α} (hi : i ∈ lay.sites) (u : ι → List α) :
    u i <:+: lay.text u := by
  induction lay with
  | last c => cases hi
  | site c j rest ih =>
      rcases List.mem_cons.mp hi with rfl | hi
      · exact ⟨c, rest.text u, rfl⟩
      · exact (ih hi).trans ⟨c ++ u j, [], by simp [text]⟩

/-- What stands at a site and occurs between two sites occurs at two places. -/
theorem exists_two {u : ι → List α} {i : ι} (hne : u i ≠ []) {c : List α} (hx : u i <:+: c)
    {lay : Layout ι α} (hi : i ∈ lay.sites) (hc : c ∈ lay.keeps) :
    ∃ p q p' q', lay.text u = p ++ u i ++ q ∧ lay.text u = p' ++ u i ++ q' ∧ p ≠ p' := by
  have hpos : 0 < (u i).length := List.length_pos_iff.mpr hne
  induction lay with
  | last c' => cases hi
  | site c' j rest ih =>
      -- an occurrence in the rest of the text
      have hshift : ∀ {p q}, rest.text u = p ++ u i ++ q →
          (site c' j rest).text u = c' ++ u j ++ p ++ u i ++ q := by
        intro p q h
        show c' ++ u j ++ rest.text u = _
        rw [h]
        simp only [List.append_assoc]
      rcases List.mem_cons.mp hc with rfl | hrest
      · -- in front of every site
        obtain ⟨p, d, hx⟩ := hx
        have hfirst : (site c j rest).text u = p ++ u i ++ (d ++ u j ++ rest.text u) := by
          show c ++ u j ++ rest.text u = _
          rw [← hx]
          simp only [List.append_assoc]
        have hp : p.length < c.length := by
          rw [← hx, List.length_append, List.length_append]
          omega
        rcases List.mem_cons.mp hi with rfl | hi
        · refine ⟨p, _, c, rest.text u, hfirst, rfl, ?_⟩
          rintro rfl
          omega
        · obtain ⟨p', q', h'⟩ := infix_of_site hi u
          refine ⟨p, _, c ++ u j ++ p', q', hfirst, hshift h'.symm, ?_⟩
          rintro rfl
          simp only [List.length_append] at hp
          omega
      · rcases List.mem_cons.mp hi with hij | hi
        · -- behind this site, which is the one
          obtain ⟨p, q, h⟩ := hx.trans (infix_of_keep hrest u)
          refine ⟨c', rest.text u, c' ++ u j ++ p, q, by rw [hij]; rfl, hshift h.symm, ?_⟩
          intro heq
          have hlen := congrArg List.length heq
          rw [hij] at hpos
          simp only [List.length_append] at hlen
          omega
        · obtain ⟨p, q, p', q', h, h', hne'⟩ := ih hi hrest
          refine ⟨_, q, _, q', hshift h, hshift h', ?_⟩
          exact fun heq => hne' (List.append_cancel_left heq)

/-- A text that stands at a site and occurs once does not occur between sites. -/
theorem keep_of_unique {a : ι → List α} {lay : Layout ι α} {i : ι} (hi : i ∈ lay.sites)
    (hne : a i ≠ []) (hunique : UniqueIn (a i) (lay.text a)) :
    ∀ c ∈ lay.keeps, ¬ a i <:+: c := by
  intro c hc hx
  obtain ⟨p, q, p', q', h, h', hne'⟩ := exists_two hne hx hi hc
  obtain ⟨p₀, -, -, honly⟩ := hunique
  exact hne' ((honly h).trans (honly h').symm)

/-! ### Every text has a layout -/

/-- One more site. -/
theorem exists_insert {a : ι → List α} {i : ι} {lay : Layout ι α}
    (hclear : ∀ j ∈ lay.sites, Clear (a i) (a j)) (h : a i <:+: lay.text a) :
    ∃ lay' : Layout ι α, lay'.text a = lay.text a ∧ lay'.sites.Perm (i :: lay.sites) := by
  induction lay with
  | last c =>
      obtain ⟨p, q, h⟩ := h
      exact ⟨site p i (last q), h, List.Perm.refl _⟩
  | site c j rest ih =>
      obtain ⟨p, q, h⟩ := h
      have hj : Clear (a i) (a j) := hclear j List.mem_cons_self
      rcases split_at h.symm (hj h) with ⟨d, hc⟩ | ⟨d, -, hrest⟩
      · refine ⟨site p i (site d j rest), ?_, List.Perm.refl _⟩
        show p ++ a i ++ (d ++ a j ++ rest.text a) = c ++ a j ++ rest.text a
        rw [hc]
        simp only [List.append_assoc]
      · obtain ⟨lay', htext, hperm⟩ := ih (fun k hk => hclear k (List.mem_cons_of_mem j hk))
          ⟨d, q, hrest.symm⟩
        refine ⟨site c j lay', ?_, ?_⟩
        · show c ++ a j ++ lay'.text a = c ++ a j ++ rest.text a
          rw [htext]
        · exact (List.Perm.cons j hperm).trans (List.Perm.swap i j rest.sites)

/-- Texts that occur and do not overlap each other are the sites of a layout. -/
theorem exists_layout {a : ι → List α} {s : List α} {is : List ι}
    (hclear : is.Pairwise fun i j => Clear (a i) (a j)) (h : ∀ i ∈ is, a i <:+: s) :
    ∃ lay : Layout ι α, lay.text a = s ∧ lay.sites.Perm is := by
  induction is with
  | nil => exact ⟨last s, rfl, List.Perm.refl _⟩
  | cons i is ih =>
      obtain ⟨hi, his⟩ := List.pairwise_cons.mp hclear
      obtain ⟨lay, rfl, hperm⟩ := ih his fun j hj => h j (List.mem_cons_of_mem i hj)
      obtain ⟨lay', htext, hperm'⟩ := exists_insert (a := a) (i := i)
        (fun j hj => hi j (hperm.mem_iff.mp hj)) (h i List.mem_cons_self)
      exact ⟨lay', htext, hperm'.trans (List.Perm.cons i hperm)⟩

/-! ### Replacing the sites one after another -/

section Advance

variable [DecidableEq ι]

/-- What stands at the sites after some of them, in which `a i` stands in front,
have got a new text in its place. -/
def advance (a : ι → List α) (steps : List (ι × List α)) (u : ι → List α) : ι → List α :=
  steps.foldl
    (fun u step => Function.update u step.1 (step.2 ++ (u step.1).drop (a step.1).length)) u

theorem advance_of_not_mem {a : ι → List α} {steps : List (ι × List α)} {u : ι → List α} {i : ι}
    (h : i ∉ steps.map Prod.fst) : advance a steps u i = u i := by
  induction steps generalizing u with
  | nil => rfl
  | cons step steps ih =>
      rw [List.map_cons, List.mem_cons, not_or] at h
      show advance a steps (Function.update u step.1 _) i = u i
      rw [ih h.2, Function.update_of_ne h.1]

theorem advance_of_mem {a : ι → List α} {steps : List (ι × List α)} {u : ι → List α} {i : ι}
    {n : List α} (hsteps : (steps.map Prod.fst).Nodup) (h : (i, n) ∈ steps) :
    advance a steps u i = n ++ (u i).drop (a i).length := by
  induction steps generalizing u with
  | nil => cases h
  | cons step steps ih =>
      obtain ⟨hfirst, hrest⟩ := List.nodup_cons.mp hsteps
      show advance a steps (Function.update u step.1 _) i = _
      rcases List.mem_cons.mp h with rfl | h
      · rw [advance_of_not_mem hfirst, Function.update_self]
      · have hne : i ≠ step.1 := by
          rintro rfl
          exact hfirst (List.mem_map.mpr ⟨(step.1, n), h, rfl⟩)
        rw [ih hrest h, Function.update_of_ne hne]

end Advance

section Replace

variable [DecidableEq α] [DecidableEq ι]

/-- Replacing a pattern that stands at the beginning of a site. -/
theorem replaceFirst_text {lay : Layout ι α} (hnodup : lay.sites.Nodup) {i : ι}
    (hi : i ∈ lay.sites) {u : ι → List α} {x b : List α} (hu : u i = x ++ b)
    (hhead : OnlyHead x (u i)) (hclear : ∀ j ∈ lay.sites, j ≠ i → Clear x (u j))
    (hkeeps : ∀ c ∈ lay.keeps, ¬ x <:+: c) (n : List α) :
    UniqueIn x (lay.text u) ∧
      replaceFirst (lay.text u) x n = lay.text (Function.update u i (n ++ b)) := by
  obtain ⟨before, after, htext, honly⟩ := around hi hnodup u
  have hplace : lay.text u = before ++ x ++ (b ++ after) := by
    rw [htext u fun _ _ _ => rfl, hu]
    simp only [List.append_assoc]
  have honly' : ∀ {p q}, lay.text u = p ++ x ++ q → p = before := honly hhead hclear hkeeps
  refine ⟨⟨before, b ++ after, hplace, honly'⟩, ?_⟩
  rw [replaceFirst_of_unique hplace honly',
    htext (Function.update u i (n ++ b)) fun j _ hj => Function.update_of_ne hj _ _,
    Function.update_self]
  simp only [List.append_assoc]

/-- Replacing one pattern after the other. -/
def replaceAll (edits : List (List α × List α)) (s : List α) : List α :=
  edits.foldl (fun s e => replaceFirst s e.1 e.2) s

/-- **Sequential replacement is simultaneous substitution.** -/
theorem replaceAll_text {a : ι → List α} {lay : Layout ι α} (hnodup : lay.sites.Nodup)
    {steps : List (ι × List α)} (hsites : ∀ step ∈ steps, step.1 ∈ lay.sites)
    (hsteps : (steps.map Prod.fst).Nodup)
    (hkeeps : ∀ step ∈ steps, ∀ c ∈ lay.keeps, ¬ a step.1 <:+: c) {u : ι → List α}
    (hu : ∀ step ∈ steps, ∃ b, u step.1 = a step.1 ++ b)
    (hhead : ∀ step ∈ steps, OnlyHead (a step.1) (u step.1))
    (hclear : ∀ step ∈ steps, ∀ j ∈ lay.sites, j ≠ step.1 → Clear (a step.1) (u j))
    (hnew : ∀ step ∈ steps, ∀ step' ∈ steps, step'.1 ≠ step.1 →
      Clear (a step.1) (step'.2 ++ (u step'.1).drop (a step'.1).length)) :
    replaceAll (steps.map fun step => (a step.1, step.2)) (lay.text u) =
      lay.text (advance a steps u) := by
  induction steps generalizing u with
  | nil => rfl
  | cons step steps ih =>
      obtain ⟨b, hb⟩ := hu step List.mem_cons_self
      obtain ⟨hfirst, hrest⟩ := List.nodup_cons.mp hsteps
      have hne : ∀ step' ∈ steps, step'.1 ≠ step.1 := by
        intro step' hmem heq
        exact hfirst (heq ▸ List.mem_map_of_mem hmem)
      obtain ⟨-, hreplaced⟩ := replaceFirst_text hnodup (hsites step List.mem_cons_self) hb
        (hhead step List.mem_cons_self) (hclear step List.mem_cons_self)
        (hkeeps step List.mem_cons_self) step.2
      have hdrop : (u step.1).drop (a step.1).length = b := by rw [hb, List.drop_left]
      show replaceAll (steps.map fun step => (a step.1, step.2))
          (replaceFirst (lay.text u) (a step.1) step.2) =
        lay.text (advance a steps
          (Function.update u step.1 (step.2 ++ (u step.1).drop (a step.1).length)))
      rw [hreplaced, hdrop]
      have hsame : ∀ step' ∈ steps, Function.update u step.1 (step.2 ++ b) step'.1 = u step'.1 :=
        fun step' hmem => Function.update_of_ne (hne step' hmem) _ _
      have hmem := fun {step'} (h : step' ∈ steps) => List.mem_cons_of_mem step h
      refine ih (fun st h => hsites st (hmem h)) hrest (fun st h => hkeeps st (hmem h)) ?_ ?_ ?_ ?_
      · intro st h
        rw [hsame st h]
        exact hu st (hmem h)
      · intro st h
        rw [hsame st h]
        exact hhead st (hmem h)
      · intro st h j hj hjne
        rcases eq_or_ne j step.1 with rfl | hjs
        · -- the site that has just been replaced
          rw [Function.update_self]
          have hcleared : Clear (a st.1) (step.2 ++ (u step.1).drop (a step.1).length) :=
            hnew st (hmem h) step List.mem_cons_self hjne
          rwa [hdrop] at hcleared
        · rw [Function.update_of_ne hjs]
          exact hclear st (hmem h) j hj hjne
      · intro st h st' h' hstne
        rw [hsame st' h']
        exact hnew st (hmem h) st' (hmem h') hstne

end Replace

end Layout

/-- `t` is `s` with the first text of each edit replaced, at the only place where
it occurs, by the second, all at once, and with nothing else changed. -/
def Substituted {α : Type*} (edits : List (List α × List α)) (s t : List α) : Prop :=
  (∀ e ∈ edits, UniqueIn e.1 s) ∧
    ∃ lay : Layout (List α × List α) α, lay.sites.Perm edits ∧
      lay.text Prod.fst = s ∧ lay.text Prod.snd = t

end Substitution
