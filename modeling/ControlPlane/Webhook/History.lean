/-
ControlPlane/Webhook/History.lean

The dedup store as a record of what has happened, and no delivery is lost.

At most once is one half of what the store is for.  The other half is that it
stops nothing else: a key is in flight or has succeeded exactly when an eligible
delivery of it has come and no forward of it has failed since
(`process_tracks_history`).  Over a run in which the hook never fails and every
forward has ended, each key that was offered has succeeded, and has succeeded once.
-/
import ControlPlane.Webhook.Interleaving

namespace Webhook

open Js Interaction

/-! ### Failures -/

/-- The step is the failure of a forward of this key. -/
def Process.Fails (s : Process) (k : String) : Step → Prop
  | .delivery _ _ _ => False
  | .completion i outcome =>
    outcome.forwarded = false ∧ ∃ f, s.inFlight[i]? = some f ∧ f.dispatchKey = k

/-- The step is not the failure of a forward. -/
def Step.Unfailing : Step → Prop
  | .delivery _ _ _ => True
  | .completion _ outcome => outcome.forwarded = true

theorem Step.Unfailing.not_fails {label : Step} (h : label.Unfailing) (s : Process) (k : String) :
    ¬ s.Fails k label := by
  cases label with
  | delivery => exact id
  | completion i outcome =>
      rintro ⟨hfailed, -⟩
      exact Bool.false_ne_true (hfailed.symm.trans h)

/-! ### What a step does to one key -/

section Key

variable {rt : Runtime} {s s' : Process} {label : Step} {k : String}

/-- An eligible delivery leaves its key in the store, forwarded now or before. -/
theorem Process.mem_of_offers (hs : (process rt).step s label s') (hl : label.Offers rt k) :
    k ∈ s'.dedupStore := by
  cases label with
  | completion i outcome => exact hl.elim
  | delivery env options req =>
      obtain rfl : s' = _ := hs
      show k ∈ (s.handle rt env options req).dedupStore
      by_cases hk : k ∈ s.dedupStore
      · rcases s.handle_cases rt env options req with ⟨k', he, hk'⟩ | ⟨hstore, -, -⟩
        · rw [(Process.handle_of_eligible he hk').2.1]
          exact Finset.mem_insert_of_mem hk
        · rw [hstore]
          exact hk
      · rw [(Process.handle_of_eligible hl hk).2.1]
        exact Finset.mem_insert_self k s.dedupStore

/-- A failed forward takes its key out. -/
theorem Process.not_mem_of_fails (hs : (process rt).step s label s') (hl : s.Fails k label) :
    k ∉ s'.dedupStore := by
  cases label with
  | delivery => exact hl.elim
  | completion i outcome =>
      obtain ⟨hfailed, f, hf, rfl⟩ := hl
      obtain ⟨f', hf', rfl⟩ := hs
      obtain rfl : f = f' := Option.some.inj (hf.symm.trans hf')
      exact Process.not_mem_afterCompletion hfailed

/-- Every other step leaves the key where it is. -/
theorem Process.mem_iff_of_other (hs : (process rt).step s label s') (ho : ¬ label.Offers rt k)
    (hf : ¬ s.Fails k label) : k ∈ s'.dedupStore ↔ k ∈ s.dedupStore := by
  constructor
  · intro hk
    by_contra hnot
    exact Process.not_mem_step hnot ho hs hk
  · intro hk
    cases label with
    | delivery env options req =>
        obtain rfl : s' = _ := hs
        show k ∈ (s.handle rt env options req).dedupStore
        rcases s.handle_cases rt env options req with ⟨k', he, hk'⟩ | ⟨hstore, -, -⟩
        · rw [(Process.handle_of_eligible he hk').2.1]
          exact Finset.mem_insert_of_mem hk
        · rw [hstore]
          exact hk
    | completion i outcome =>
        obtain ⟨f, hi, rfl⟩ := hs
        show k ∈ completeForward s.dedupStore f.dispatchKey outcome
        unfold completeForward
        split
        · exact hk
        · -- the forward that failed had another key
          rename_i hfailed
          refine Finset.mem_erase.mpr ⟨?_, hk⟩
          intro hkey
          exact hf ⟨Bool.eq_false_iff.mpr hfailed, f, hi, hkey.symm⟩

end Key

/-! ### No delivery is lost -/

section History

variable {rt : Runtime} {labels : List Step} {s : Process}

/-- The store holds the keys that were offered and have not failed since. -/
theorem Process.mem_iff_since (h : (process rt).Run .initial labels s) (k : String) :
    k ∈ s.dedupStore ↔
      (process rt).Since (fun _ label => label.Offers rt k) (fun s label => s.Fails k label)
        .initial labels s := by
  apply h.holds_iff_since (I := fun s => k ∈ s.dedupStore)
  · exact Finset.notMem_empty k
  · exact fun _ _ _ hs ho => Process.mem_of_offers hs ho
  · exact fun _ _ _ hs hf => Process.not_mem_of_fails hs hf
  · exact fun _ _ _ hs ho hf => Process.mem_iff_of_other hs ho hf

/-- Without failures, since an offer is ever since it. -/
theorem Process.since_of_unfailing {k : String} (h : (process rt).Run .initial labels s)
    (hlabels : ∀ label ∈ labels, label.Unfailing) :
    (process rt).Since (fun _ label => label.Offers rt k) (fun s label => s.Fails k label)
        .initial labels s ↔ ∃ label ∈ labels, label.Offers rt k := by
  constructor
  · rintro ⟨before, label, after, m, m', rfl, -, -, ho, -⟩
    exact ⟨label, by simp, ho⟩
  · rintro ⟨label, hmem, ho⟩
    obtain ⟨before, after, rfl⟩ := List.append_of_mem hmem
    obtain ⟨m, hbefore, m', hstep, hafter⟩ := Lts.run_append.mp h
    refine ⟨before, label, after, m, m', rfl, hbefore, hstep, ho, hafter.guarded ?_⟩
    intro later hlater m
    exact (hlabels later (by simp [hlater])).not_fails m k

/-- **No delivery is lost, over any interleaving.**  A key is in flight or has
succeeded exactly when an eligible delivery of it has come and no forward of it has
failed since.  When no forward has failed and none is in flight any more, every key
that was offered has succeeded exactly once, and no other key has. -/
theorem process_tracks_history (h : (process rt).Run .initial labels s) :
    (∀ k, k ∈ s.inFlightKeys ∨ k ∈ s.succeeded ↔
      (process rt).Since (fun _ label => label.Offers rt k) (fun s label => s.Fails k label)
        .initial labels s) ∧
    ((∀ label ∈ labels, label.Unfailing) → s.inFlight = [] →
      ∀ k, (s.succeeded.count k = 1 ↔ ∃ label ∈ labels, label.Offers rt k) ∧
        s.succeeded.count k ≤ 1) := by
  have hinv := Process.invariant_of_run h
  refine ⟨?_, ?_⟩
  · intro k
    rw [← hinv.store, Process.mem_iff_since h]
  · intro hlabels hidle k
    have hnodup : s.succeeded.Nodup := (List.nodup_append.mp hinv.nodup).2.1
    have hmem : k ∈ s.succeeded ↔ k ∈ s.dedupStore := by
      rw [hinv.store, Process.inFlightKeys, hidle]
      simp
    refine ⟨?_, List.nodup_iff_count_le_one.mp hnodup k⟩
    rw [← Process.since_of_unfailing h hlabels, ← Process.mem_iff_since h, ← hmem]
    constructor
    · intro hcount
      exact List.count_pos_iff.mp (hcount ▸ Nat.one_pos)
    · exact List.count_eq_one_of_mem hnodup

/-- A delivery, a hook that answers, and the delivery again: it has succeeded once. -/
theorem sampleStep_delivered_once :
    ∃ s : Process, (process sampleRuntime).Run .initial
        [sampleStep, .completion 0 (.response true 200), sampleStep] s ∧
      s.succeeded.count "o/r#7@abc" = 1 := by
  obtain ⟨-, -, f, hawaiting, hf, -⟩ := Process.handle_of_eligible (s := .initial)
    sampleStep_eligible (by decide)
  obtain ⟨s₁, hs₁⟩ : ∃ s₁, (process sampleRuntime).step .initial sampleStep s₁ := ⟨_, rfl⟩
  have hinFlight : s₁.inFlight = [f] := by
    rw [hs₁]
    show [] ++ Option.toList _ = [f]
    rw [hawaiting]
    rfl
  have hmarked : "o/r#7@abc" ∈ s₁.dedupStore := Process.mem_of_offers hs₁ sampleStep_eligible
  have hfirst : s₁.inFlight[0]? = some f := by
    rw [hinFlight]
    rfl
  obtain ⟨s₂, hs₂, hstored, hempty⟩ : ∃ s₂,
      (process sampleRuntime).step s₁ (.completion 0 (.response true 200)) s₂ ∧
        "o/r#7@abc" ∈ s₂.dedupStore ∧ s₂.inFlight = [] := by
    refine ⟨_, ⟨f, hfirst, rfl⟩, hmarked, ?_⟩
    show s₁.inFlight.eraseIdx 0 = []
    rw [hinFlight]
    rfl
  obtain ⟨s₃, hs₃⟩ : ∃ s₃, (process sampleRuntime).step s₂ sampleStep s₃ := ⟨_, rfl⟩
  have hrun : (process sampleRuntime).Run .initial
      [sampleStep, .completion 0 (.response true 200), sampleStep] s₃ :=
    ⟨s₁, hs₁, s₂, hs₂, s₃, hs₃, rfl⟩
  have hidle : s₃.inFlight = [] := by
    rw [hs₃]
    show s₂.inFlight ++ Option.toList _ = []
    rcases s₂.handle_cases sampleRuntime sampleEnv sampleOptions sampleRequest with
      ⟨k, he, hk⟩ | ⟨-, hnone, -⟩
    · rw [he.deliversKey.unique sampleStep_eligible.deliversKey] at hk
      exact absurd hstored hk
    · rw [hempty, hnone]
      rfl
  have hunfailing : ∀ label ∈ [sampleStep, .completion 0 (.response true 200), sampleStep],
      label.Unfailing := by
    simp [sampleStep, Step.Unfailing, FetchOutcome.forwarded]
  refine ⟨s₃, hrun, ?_⟩
  exact (((process_tracks_history hrun).2 hunfailing hidle "o/r#7@abc").1).mpr
    ⟨sampleStep, by simp, sampleStep_eligible⟩

end History

end Webhook
