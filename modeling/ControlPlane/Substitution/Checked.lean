/-
ControlPlane/Substitution/Checked.lean

Replacing patterns one after another, with a check before each that the pattern occurs
once.

The patterns of a list of edits are `Separated` if no two of them overlap and none
overlaps what another one is replaced by.  An edit then neither makes nor removes an
occurrence of another pattern (`UniqueIn.replaced`), so the checks, which are made on a
text that has been edited already, say the same about the text as it was.  They all pass
exactly if every pattern is unique in it, and the result is simultaneous substitution
(`replaceEach_eq_ok_iff`).
-/
import ControlPlane.Substitution.Layout
import Mathlib.Data.List.Pairwise

namespace Substitution

variable {α ε : Type*}

/-! ### Unique occurrences -/

/-- An occurrence elsewhere stays when what it does not overlap is replaced. -/
theorem occurs_replaced {x a n p q p₀ q₀ : List α} (h : p ++ a ++ q = p₀ ++ x ++ q₀)
    (ha : Clear x a) :
    (∃ d, p = p₀ ++ x ++ d ∧ p ++ n ++ q = p₀ ++ x ++ (d ++ n ++ q)) ∨
      ∃ d, p₀ = p ++ a ++ d ∧ p ++ n ++ q = (p ++ n ++ d) ++ x ++ q₀ := by
  rcases Layout.split_at h (ha h.symm) with ⟨d, hp⟩ | ⟨d, hp₀, hq⟩
  · refine .inl ⟨d, hp, ?_⟩
    rw [hp]
    simp only [List.append_assoc]
  · refine .inr ⟨d, hp₀, ?_⟩
    rw [hq]
    simp only [List.append_assoc]

theorem UniqueIn.replaced {x a n p q : List α} (h : UniqueIn x (p ++ a ++ q)) (hx : x ≠ [])
    (ha : Clear x a) (hn : Clear x n) : UniqueIn x (p ++ n ++ q) := by
  obtain ⟨p₀, q₀, hplace, honly⟩ := h
  have hpos : 0 < x.length := List.length_pos_iff.mpr hx
  -- what occurs behind the edited place occurs there before and after it
  rcases occurs_replaced (n := n) hplace ha with ⟨d, hp, hnew⟩ | ⟨d, hp₀, hnew⟩
  · refine ⟨p₀, d ++ n ++ q, hnew, ?_⟩
    intro p' q' h'
    rcases occurs_replaced (n := a) h' hn with ⟨d', -, hold⟩ | ⟨d', -, hold⟩
    · exact honly hold
    · have hlen := congrArg List.length (honly hold)
      rw [hp] at hlen
      simp only [List.length_append] at hlen
      omega
  · refine ⟨p ++ n ++ d, q₀, hnew, ?_⟩
    intro p' q' h'
    rcases occurs_replaced (n := a) h' hn with ⟨d', hp, hold⟩ | ⟨d', hp', hold⟩
    · have hlen := congrArg List.length (honly hold)
      rw [hp₀, hp] at hlen
      simp only [List.length_append] at hlen
      omega
    · have hsame : d' = d := List.append_cancel_left ((honly hold).trans hp₀)
      rw [hp', hsame]

/-- The edits neither make nor remove an occurrence of what they do not overlap. -/
theorem uniqueIn_replaceAll [DecidableEq α] {edits : List (List α × List α)} {x c s d : List α}
    (hx : x ≠ []) (hclear : ∀ e ∈ edits, Clear x e.1 ∧ Clear x e.2) :
    UniqueIn x (c ++ Layout.replaceAll edits s ++ d) ↔ UniqueIn x (c ++ s ++ d) := by
  induction edits generalizing s with
  | nil => exact Iff.rfl
  | cons e edits ih =>
      have hrest := ih (s := replaceFirst s e.1 e.2) fun e' he' =>
        hclear e' (List.mem_cons_of_mem e he')
      refine hrest.trans ?_
      obtain ⟨hold, hnew⟩ := hclear e List.mem_cons_self
      unfold replaceFirst
      cases hfirst : s.dropInfix? e.1 with
      | none => exact Iff.rfl
      | some place =>
          obtain ⟨p, q⟩ := place
          have hs : s = p ++ e.1 ++ q := (dropInfix?_eq_some.mp hfirst).1
          have hplace : ∀ n : List α, c ++ (p ++ n ++ q) ++ d = (c ++ p) ++ n ++ (q ++ d) := by
            intro n
            simp only [List.append_assoc]
          show UniqueIn x (c ++ (p ++ e.2 ++ q) ++ d) ↔ _
          rw [hs, hplace, hplace]
          exact ⟨fun h => h.replaced hx hnew hold, fun h => h.replaced hx hold hnew⟩

/-- Where more stands at each site, more stands in the text. -/
theorem Layout.text_sublist {ι : Type*} {u v : ι → List α} {lay : Layout ι α}
    (h : ∀ i ∈ lay.sites, (u i).Sublist (v i)) : (lay.text u).Sublist (lay.text v) := by
  induction lay with
  | last c => exact List.Sublist.refl c
  | site c i rest ih =>
      exact ((List.Sublist.refl c).append (h i List.mem_cons_self)).append
        (ih fun j hj => h j (List.mem_cons_of_mem i hj))

/-! ### Separated edits -/

/-- The patterns of the edits, which are their first texts, do not overlap each other or
what another one is replaced by. -/
structure Separated (edits : List (List α × List α)) : Prop where
  ne_nil : ∀ e ∈ edits, e.1 ≠ []
  onlyHead : ∀ e ∈ edits, OnlyHead e.1 e.1
  clear : edits.Pairwise fun e e' => Clear e.1 e'.1
  clear_new : edits.Pairwise fun e e' => Clear e.1 e'.2 ∧ Clear e'.1 e.2

section Separated

variable {edits : List (List α × List α)} {s t : List α} {e e' : List α × List α}

theorem Separated.tail (h : Separated (e :: edits)) : Separated edits where
  ne_nil e' he' := h.ne_nil e' (List.mem_cons_of_mem e he')
  onlyHead e' he' := h.onlyHead e' (List.mem_cons_of_mem e he')
  clear := (List.pairwise_cons.mp h.clear).2
  clear_new := (List.pairwise_cons.mp h.clear_new).2

/-- A text that is not empty overlaps itself, so no edit comes twice. -/
theorem Separated.nodup (h : Separated edits) : edits.Nodup := by
  refine h.clear.imp_of_mem ?_
  rintro e e' he - hclear rfl
  have hpos : 0 < e.1.length := List.length_pos_iff.mpr (h.ne_nil e he)
  have hsame : ([] : List α) ++ e.1 ++ [] = [] ++ e.1 ++ [] := rfl
  rcases hclear hsame with hle | hle
  · simp only [List.length_nil] at hle
    omega
  · simp only [List.length_nil] at hle
    omega

theorem Separated.clear_of_ne (h : Separated edits) (he : e ∈ edits) (he' : e' ∈ edits)
    (hne : e' ≠ e) : Clear e.1 e'.1 := by
  have : Std.Symm fun e e' : List α × List α => Clear e.1 e'.1 := ⟨fun _ _ hclear => hclear.symm⟩
  exact h.clear.forall he he' hne.symm

theorem Separated.clear_new_of_ne (h : Separated edits) (he : e ∈ edits) (he' : e' ∈ edits)
    (hne : e' ≠ e) : Clear e.1 e'.2 := by
  have : Std.Symm fun e e' : List α × List α => Clear e.1 e'.2 ∧ Clear e'.1 e.2 :=
    ⟨fun _ _ hclear => hclear.symm⟩
  exact (h.clear_new.forall he he' hne.symm).1

variable [DecidableEq α]

/-- A layout of the patterns is a layout of the result. -/
theorem Separated.replaceAll_text (h : Separated edits) {lay : Layout (List α × List α) α}
    (hsites : lay.sites.Perm edits) (hunique : ∀ e ∈ edits, UniqueIn e.1 (lay.text Prod.fst)) :
    Layout.replaceAll edits (lay.text Prod.fst) = lay.text Prod.snd := by
  have hnodup : lay.sites.Nodup := hsites.nodup_iff.mpr h.nodup
  let steps := edits.map fun e => (e, e.2)
  have hmem : ∀ step ∈ steps, ∃ e ∈ edits, (e, e.2) = step := fun step => List.mem_map.mp
  have hsteps : steps.map Prod.fst = edits := by
    rw [List.map_map]
    exact List.map_id _
  have hedits : (steps.map fun step => (step.1.1, step.2)) = edits := by
    rw [List.map_map]
    exact List.map_id _
  have hplaced : ∀ step ∈ steps, step.1 ∈ lay.sites := by
    intro step hstep
    obtain ⟨e, he, rfl⟩ := hmem step hstep
    exact hsites.mem_iff.mpr he
  have hreplaced := Layout.replaceAll_text (a := Prod.fst) (u := Prod.fst) hnodup hplaced
    (by rw [hsteps]; exact h.nodup)
    (by
      rintro step hstep
      obtain ⟨e, he, rfl⟩ := hmem step hstep
      exact Layout.keep_of_unique (hsites.mem_iff.mpr he) (h.ne_nil e he) (hunique e he))
    (fun step _ => ⟨[], (List.append_nil _).symm⟩)
    (by
      rintro step hstep
      obtain ⟨e, he, rfl⟩ := hmem step hstep
      exact h.onlyHead e he)
    (by
      rintro step hstep e' he' hne
      obtain ⟨e, he, rfl⟩ := hmem step hstep
      exact h.clear_of_ne he (hsites.mem_iff.mp he') hne)
    (by
      rintro step hstep step' hstep' hne
      obtain ⟨e, he, rfl⟩ := hmem step hstep
      obtain ⟨e', he', rfl⟩ := hmem step' hstep'
      rw [List.drop_length, List.append_nil]
      exact h.clear_new_of_ne he he' hne)
  rw [hedits] at hreplaced
  rw [hreplaced]
  refine Layout.text_congr ?_
  intro e he
  rw [Layout.advance_of_mem (n := e.2) (by rw [hsteps]; exact h.nodup)
    (List.mem_map_of_mem (f := fun e => (e, e.2)) (hsites.mem_iff.mp he)), List.drop_length,
    List.append_nil]

/-- **Unique patterns are replaced at once.** -/
theorem Separated.substituted_iff (h : Separated edits) :
    Substituted edits s t ↔
      (∀ e ∈ edits, UniqueIn e.1 s) ∧ t = Layout.replaceAll edits s := by
  constructor
  · rintro ⟨hunique, lay, hsites, rfl, rfl⟩
    exact ⟨hunique, (h.replaceAll_text hsites hunique).symm⟩
  · rintro ⟨hunique, rfl⟩
    have hoccur : ∀ e ∈ edits, e.1 <:+: s := by
      intro e he
      obtain ⟨p, q, hs, -⟩ := hunique e he
      exact ⟨p, q, hs.symm⟩
    obtain ⟨lay, rfl, hsites⟩ := Layout.exists_layout h.clear hoccur
    exact ⟨hunique, lay, hsites, rfl, (h.replaceAll_text hsites hunique).symm⟩

end Separated

/-! ### Checked replacement -/

section Checked

variable [DecidableEq α] {err : List α → ε} {edits : List (List α × List α)} {s t : List α}

/-- Replace a pattern that has to occur once. -/
def replaceOnce (err : List α → ε) (s : List α) (e : List α × List α) : Except ε (List α) :=
  if (split s e.1).length ≠ 2 then .error (err e.1) else .ok (replaceFirst s e.1 e.2)

/-- One after the other. -/
def replaceEach (err : List α → ε) (edits : List (List α × List α)) (s : List α) :
    Except ε (List α) :=
  edits.foldlM (replaceOnce err) s

theorem replaceOnce_eq_ok_iff {e : List α × List α} (hne : e.1 ≠ []) (hself : OnlyHead e.1 e.1) :
    replaceOnce err s e = .ok t ↔ UniqueIn e.1 s ∧ t = replaceFirst s e.1 e.2 := by
  have hlength : (split s e.1).length = 2 ↔ UniqueIn e.1 s := by
    rw [← length_split_eq_one_iff hne hself]
    omega
  unfold replaceOnce
  by_cases hunique : UniqueIn e.1 s
  · rw [if_neg (not_not.mpr (hlength.mpr hunique))]
    simp only [Except.ok.injEq, hunique, true_and]
    exact eq_comm
  · rw [if_pos fun h => hunique (hlength.mp h)]
    simp [hunique]

/-- **Checked replacement is simultaneous substitution.**  It goes through exactly if each
pattern occurs once in the text as it was. -/
theorem replaceEach_eq_ok_iff (h : Separated edits) :
    replaceEach err edits s = .ok t ↔ Substituted edits s t := by
  rw [h.substituted_iff]
  induction edits generalizing s with
  | nil =>
      show Except.ok s = .ok t ↔ _
      simp only [Except.ok.injEq, List.not_mem_nil, false_implies, implies_true, true_and]
      exact eq_comm
  | cons e edits ih =>
      have hne := h.ne_nil e List.mem_cons_self
      have hself := h.onlyHead e List.mem_cons_self
      have hfirst : replaceEach err (e :: edits) s = .ok t ↔
          ∃ s', replaceOnce err s e = .ok s' ∧ replaceEach err edits s' = .ok t := by
        show (replaceOnce err s e >>= fun s' => replaceEach err edits s') = .ok t ↔ _
        cases replaceOnce err s e with
        | error message => simp [bind, Except.bind]
        | ok s' => simp [bind, Except.bind]
      rw [hfirst]
      simp only [replaceOnce_eq_ok_iff hne hself, ih h.tail, List.forall_mem_cons]
      -- the other patterns are unique before this edit if and only if they are after it
      have hkeep : UniqueIn e.1 s → ((∀ e' ∈ edits, UniqueIn e'.1 (replaceFirst s e.1 e.2)) ↔
          ∀ e' ∈ edits, UniqueIn e'.1 s) := by
        rintro ⟨p, q, hs, honly⟩
        have hmem : ∀ e' ∈ edits, e' ∈ e :: edits := fun e' => List.mem_cons_of_mem e
        have hother : ∀ e' ∈ edits, e ≠ e' := by
          rintro e' he' rfl
          exact (List.nodup_cons.mp h.nodup).1 he'
        rw [replaceFirst_of_unique hs honly, hs]
        refine forall₂_congr fun e' he' => ?_
        have hold := h.clear_of_ne (hmem e' he') List.mem_cons_self (hother e' he')
        have hnew := h.clear_new_of_ne (hmem e' he') List.mem_cons_self (hother e' he')
        exact ⟨fun hu => hu.replaced (h.ne_nil e' (hmem e' he')) hnew hold,
          fun hu => hu.replaced (h.ne_nil e' (hmem e' he')) hold hnew⟩
      constructor
      · rintro ⟨s', ⟨hunique, rfl⟩, hrest, rfl⟩
        exact ⟨⟨hunique, (hkeep hunique).mp hrest⟩, rfl⟩
      · rintro ⟨⟨hunique, hrest⟩, rfl⟩
        exact ⟨_, ⟨hunique, rfl⟩, (hkeep hunique).mpr hrest, rfl⟩

end Checked

/-! ### Deciding that edits are separated -/

section Decide

variable [DecidableEq α]

/-- Two edits do not get in each other's way. -/
def apart (e e' : List α × List α) : Bool :=
  !overlaps e.1 e'.1 && !overlaps e.1 e'.2 && !overlaps e'.1 e.2

/-- The test of `Separated`. -/
def separated : List (List α × List α) → Bool
  | [] => true
  | e :: edits => !e.1.isEmpty && !strays e.1 e.1 && edits.all (apart e) && separated edits

theorem separated_iff {edits : List (List α × List α)} (h : separated edits = true) :
    Separated edits := by
  induction edits with
  | nil => exact ⟨by simp, by simp, .nil, .nil⟩
  | cons e edits ih =>
      simp only [separated, apart, Bool.and_eq_true, Bool.not_eq_true', List.all_eq_true] at h
      obtain ⟨⟨⟨hne, hself⟩, hall⟩, hrest⟩ := h
      have ih := ih hrest
      refine ⟨?_, ?_, ?_, ?_⟩
      · rw [List.forall_mem_cons]
        exact ⟨by simpa using hne, ih.ne_nil⟩
      · rw [List.forall_mem_cons]
        exact ⟨onlyHead_of_strays hself, ih.onlyHead⟩
      · refine .cons ?_ ih.clear
        intro e' he'
        exact clear_of_overlaps (hall e' he').1.1
      · refine .cons ?_ ih.clear_new
        intro e' he'
        exact ⟨clear_of_overlaps (hall e' he').1.2, clear_of_overlaps (hall e' he').2⟩

end Decide

end Substitution
