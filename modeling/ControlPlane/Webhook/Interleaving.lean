/-
ControlPlane/Webhook/Interleaving.lean

The webhook process as a whole: deliveries and completions of forwards in any
order, all sharing one dedup store.

A delivery runs to the point where it waits for the hook in one step, because
the handler does not give up control between the end of the body and the start
of the call.  A completion is the other step: some forward in flight ends, with
success or with a failure, and a failure gives the key back.  Which forwards
have succeeded is recorded beside the state; the code keeps no such record.

`Process.Invariant` is the invariant: the store holds exactly the keys in flight
and the keys forwarded with success, and no key is there twice.  What the store
is for follows from it: a key is in flight at most once and succeeds at most
once, `duplicate` means one of the two, and a failure does not consume its key.
-/
import ControlPlane.Webhook.Authorisation
import ControlPlane.Interaction.Lts

namespace Webhook

open Js Interaction

/-! ### The process -/

/-- The shared store, the forwards in flight in the order they were started, and
the keys of those that succeeded. -/
structure Process where
  dedupStore : Finset String
  inFlight : List Forward
  succeeded : List String

/-- A process that has handled nothing. -/
def Process.initial : Process := { dedupStore := ∅, inFlight := [], succeeded := [] }

/-- The keys of the forwards that are under way. -/
def Process.inFlightKeys (s : Process) : List String := s.inFlight.map Forward.dispatchKey

/-- What can happen next: a request is handled, or the `i`-th forward in flight
ends. -/
inductive Step where
  | delivery (env : Env) (options : HandlerOptions) (req : Request)
  | completion (i : ℕ) (outcome : FetchOutcome)

/-- The run of the handler a delivery makes in a state. -/
def Process.handle (rt : Runtime) (s : Process) (env : Env) (options : HandlerOptions)
    (req : Request) : HandlerRun :=
  handleGithubWebhookVerify rt env options s.dedupStore req

/-- The process once a delivery is handled. -/
def Process.afterDelivery (s : Process) (run : HandlerRun) : Process where
  dedupStore := run.dedupStore
  inFlight := s.inFlight ++ run.awaiting.toList
  succeeded := s.succeeded

/-- The process once a forward has come to an end. -/
def Process.afterCompletion (s : Process) (i : ℕ) (f : Forward) (outcome : FetchOutcome) :
    Process where
  dedupStore := completeForward s.dedupStore f.dispatchKey outcome
  inFlight := s.inFlight.eraseIdx i
  succeeded := if outcome.forwarded then f.dispatchKey :: s.succeeded else s.succeeded

/-- The steps of the process. -/
def process (rt : Runtime) : Lts Process Step where
  step s label s' :=
    match label with
    | .delivery env options req => s' = s.afterDelivery (s.handle rt env options req)
    | .completion i outcome => ∃ f, s.inFlight[i]? = some f ∧ s' = s.afterCompletion i f outcome

/-! ### Eligible deliveries -/

/-- The delivery is verified and has this dedup key. -/
def DeliversKey (rt : Runtime) (env : Env) (options : HandlerOptions) (req : Request)
    (k : String) : Prop :=
  ∃ rawBody, Verified rt env options req rawBody ∧
    deliveryKey (req.header "x-github-event") (payloadOf rt rawBody) = some k

/-- The delivery has this dedup key and the allowlist lets it through: nothing
but the store can stop it. -/
def Eligible (rt : Runtime) (env : Env) (options : HandlerOptions) (req : Request)
    (k : String) : Prop :=
  ∃ rawBody, Verified rt env options req rawBody ∧
    deliveryKey (req.header "x-github-event") (payloadOf rt rawBody) = some k ∧
    Permitted rt env (req.header "x-github-event") (payloadOf rt rawBody)

/-- The step is an eligible delivery of the key. -/
def Step.Offers (rt : Runtime) (k : String) : Step → Prop
  | .delivery env options req => Eligible rt env options req k
  | .completion _ _ => False

/-! ### What one delivery does -/

section Handle

variable {rt : Runtime} {s : Process} {env : Env} {options : HandlerOptions} {req : Request}
variable {k : String}

/-- An eligible delivery with a fresh key is forwarded, and marks its key. -/
theorem Process.handle_of_eligible (h : Eligible rt env options req k)
    (hk : k ∉ s.dedupStore) :
    (s.handle rt env options req).decision = some (.forwarded k) ∧
      (s.handle rt env options req).dedupStore = insert k s.dedupStore ∧
      ∃ f, (s.handle rt env options req).awaiting = some f ∧ f.dispatchKey = k ∧
        .fetch f.request ∈ (s.handle rt env options req).effects := by
  obtain ⟨rawBody, hv, hkey, hp⟩ := h
  obtain ⟨name, he, hkey⟩ := deliveryKey_eq_some_iff.mp hkey
  rw [he] at hp
  have hrun := handleVerified_of_permitted options he hkey hk hp
  rw [Process.handle, handleGithubWebhookVerify_of_verified hv, hrun]
  refine ⟨rfl, rfl, _, rfl, rfl, ?_⟩
  simp

/-- Any other delivery leaves the store alone and starts nothing, and it counts
as a duplicate exactly when its key is in the store. -/
theorem Process.handle_cases (rt : Runtime) (s : Process) (env : Env)
    (options : HandlerOptions) (req : Request) :
    (∃ k, Eligible rt env options req k ∧ k ∉ s.dedupStore) ∨
    ((s.handle rt env options req).dedupStore = s.dedupStore ∧
      (s.handle rt env options req).awaiting = none ∧
      ((s.handle rt env options req).decision = some .duplicate ↔
        ∃ k, DeliversKey rt env options req k ∧ k ∈ s.dedupStore)) := by
  by_cases hv : ∃ rawBody, Verified rt env options req rawBody
  · obtain ⟨rawBody, hv⟩ := hv
    rcases planDispatch_cases rt env (req.header "x-github-event") (payloadOf rt rawBody)
      s.dedupStore with ⟨k, hkey, hk, hp, -⟩ | ⟨dispatch, lines, hplan, hd, -, hdup⟩
    · exact .inl ⟨k, ⟨rawBody, hv, hkey, hp⟩, hk⟩
    · right
      rw [Process.handle, handleGithubWebhookVerify_of_verified hv,
        handleVerified_of_not_forwarded hplan hd]
      refine ⟨rfl, rfl, ?_⟩
      -- a request has one complete body, so its key is the one that was planned with
      rw [Option.some.injEq, hdup]
      refine exists_congr fun k => and_congr_left fun _ => ⟨fun h => ⟨rawBody, hv, h⟩, ?_⟩
      rintro ⟨rawBody', hv', h⟩
      rw [hv.body_unique hv']
      exact h
  · obtain ⟨effects, hrun, -⟩ :=
      handleGithubWebhookVerify_of_not_verified s.dedupStore (not_exists.mp hv)
    right
    rw [Process.handle, hrun]
    refine ⟨rfl, rfl, ?_⟩
    constructor
    · intro h
      cases h
    · rintro ⟨k, ⟨rawBody, h, -⟩, -⟩
      exact absurd ⟨rawBody, h⟩ hv

/-- A delivery has one key. -/
theorem DeliversKey.unique {k' : String} (h : DeliversKey rt env options req k)
    (h' : DeliversKey rt env options req k') : k = k' := by
  obtain ⟨rawBody, hv, hk⟩ := h
  obtain ⟨rawBody', hv', hk'⟩ := h'
  rw [hv.body_unique hv', hk'] at hk
  exact (Option.some.inj hk).symm

theorem Eligible.deliversKey (h : Eligible rt env options req k) :
    DeliversKey rt env options req k := by
  obtain ⟨rawBody, hv, hkey, -⟩ := h
  exact ⟨rawBody, hv, hkey⟩

/-- A delivery is classified as a duplicate exactly when its key is in the
store. -/
theorem Process.handle_duplicate_iff :
    (s.handle rt env options req).decision = some .duplicate ↔
      ∃ k, DeliversKey rt env options req k ∧ k ∈ s.dedupStore := by
  rcases s.handle_cases rt env options req with ⟨k, he, hk⟩ | ⟨-, -, h⟩
  · rw [(Process.handle_of_eligible he hk).1]
    constructor
    · intro h
      cases h
    · rintro ⟨k', hd, hk'⟩
      rw [hd.unique he.deliversKey] at hk'
      exact absurd hk' hk
  · exact h

end Handle

/-! ### The invariant -/

/-- The store holds exactly the keys in flight and the keys that succeeded, and
each of them is there once. -/
structure Process.Invariant (s : Process) : Prop where
  store : ∀ k, k ∈ s.dedupStore ↔ k ∈ s.inFlightKeys ∨ k ∈ s.succeeded
  nodup : (s.inFlightKeys ++ s.succeeded).Nodup

theorem Process.invariant_initial : Process.initial.Invariant where
  store k := by simp [Process.initial, Process.inFlightKeys]
  nodup := by simp [Process.initial, Process.inFlightKeys]

/-- Starting a forward of a fresh key keeps the invariant. -/
theorem Process.Invariant.start {s : Process} (h : s.Invariant) {f : Forward}
    (hf : f.dispatchKey ∉ s.dedupStore) :
    Process.Invariant
      { dedupStore := insert f.dispatchKey s.dedupStore
        inFlight := s.inFlight ++ [f]
        succeeded := s.succeeded } where
  store k := by
    simp only [Finset.mem_insert, h.store k, Process.inFlightKeys, List.map_append,
      List.map_cons, List.map_nil, List.mem_append, List.mem_singleton]
    tauto
  nodup := by
    have hfresh : f.dispatchKey ∉ s.inFlightKeys ++ s.succeeded := by
      rw [List.mem_append, ← h.store]
      exact hf
    show (List.map _ (s.inFlight ++ [f]) ++ s.succeeded).Nodup
    rw [List.map_append, List.append_assoc, List.map_cons, List.map_nil, List.singleton_append,
      List.nodup_middle, List.nodup_cons]
    exact ⟨hfresh, h.nodup⟩

theorem eraseIdx_perm {α : Type} {l : List α} {i : ℕ} {a : α} (h : l[i]? = some a) :
    l.Perm (a :: l.eraseIdx i) := by
  obtain ⟨hi, rfl⟩ := List.getElem?_eq_some_iff.mp h
  exact (List.getElem_cons_eraseIdx_perm hi).symm

/-- Ending a forward keeps the invariant, whatever its outcome. -/
theorem Process.Invariant.complete {s : Process} (h : s.Invariant) {i : ℕ} {f : Forward}
    (hi : s.inFlight[i]? = some f) (outcome : FetchOutcome) :
    (s.afterCompletion i f outcome).Invariant := by
  have hperm : s.inFlightKeys.Perm
      (f.dispatchKey :: (s.inFlight.eraseIdx i).map Forward.dispatchKey) :=
    (eraseIdx_perm hi).map Forward.dispatchKey
  have hnodup := (hperm.append_right s.succeeded).nodup_iff.mp h.nodup
  have hstore : ∀ k, k ∈ s.dedupStore ↔
      k = f.dispatchKey ∨ k ∈ (s.inFlight.eraseIdx i).map Forward.dispatchKey ∨
        k ∈ s.succeeded := by
    intro k
    rw [h.store, hperm.mem_iff, List.mem_cons, or_assoc]
  rw [List.cons_append, List.nodup_cons] at hnodup
  by_cases ho : outcome.forwarded = true
  · -- the key moves from in flight to succeeded
    refine ⟨fun k => ?_, ?_⟩
    · simp only [Process.afterCompletion, completeForward, if_pos ho, Process.inFlightKeys,
        hstore, List.mem_cons]
      tauto
    · simp only [Process.afterCompletion, if_pos ho, Process.inFlightKeys]
      rw [List.nodup_middle, List.nodup_cons]
      exact hnodup
  · -- the key leaves the store, and it was there once
    refine ⟨fun k => ?_, ?_⟩
    · simp only [Process.afterCompletion, completeForward, if_neg ho, Process.inFlightKeys,
        Finset.mem_erase, hstore, ne_eq]
      rw [List.mem_append] at hnodup
      constructor
      · tauto
      · intro hk
        exact ⟨fun e => hnodup.1 (e ▸ hk), .inr hk⟩
    · simp only [Process.afterCompletion, if_neg ho, Process.inFlightKeys]
      exact hnodup.2

/-- **Step lemma.**  Every step keeps the invariant. -/
theorem Process.Invariant.step {rt : Runtime} {s s' : Process} {label : Step}
    (h : s.Invariant) (hs : (process rt).step s label s') : s'.Invariant := by
  cases label with
  | delivery env options req =>
      obtain rfl : s' = _ := hs
      rcases s.handle_cases rt env options req with ⟨k, he, hk⟩ | ⟨hstore, hawaiting, -⟩
      · obtain ⟨-, hstore, f, hawaiting, rfl, -⟩ := Process.handle_of_eligible he hk
        rw [Process.afterDelivery, hstore, hawaiting]
        exact h.start hk
      · rw [Process.afterDelivery, hstore, hawaiting, Option.toList_none, List.append_nil]
        exact h
  | completion i outcome =>
      obtain ⟨f, hi, rfl⟩ := hs
      exact h.complete hi outcome

theorem Process.invariant_of_run {rt : Runtime} {labels : List Step} {s : Process}
    (h : (process rt).Run .initial labels s) : s.Invariant :=
  h.invariant Process.invariant_initial fun _ _ _ hs hstep => hs.step hstep

/-! ### A key stays free until it is offered again -/

/-- Only an eligible delivery of a key puts it into the store. -/
theorem Process.not_mem_step {rt : Runtime} {s s' : Process} {label : Step} {k : String}
    (hk : k ∉ s.dedupStore) (hl : ¬ label.Offers rt k) (hs : (process rt).step s label s') :
    k ∉ s'.dedupStore := by
  cases label with
  | delivery env options req =>
      obtain rfl : s' = _ := hs
      show k ∉ (s.handle rt env options req).dedupStore
      rcases s.handle_cases rt env options req with ⟨k', he, hk'⟩ | ⟨hstore, -, -⟩
      · have hne : k ≠ k' := by
          rintro rfl
          exact hl he
        rw [(Process.handle_of_eligible he hk').2.1, Finset.mem_insert]
        exact not_or.mpr ⟨hne, hk⟩
      · rw [hstore]
        exact hk
  | completion i outcome =>
      obtain ⟨f, -, rfl⟩ := hs
      show k ∉ completeForward s.dedupStore f.dispatchKey outcome
      unfold completeForward
      split
      · exact hk
      · exact fun h => hk (Finset.mem_of_mem_erase h)

theorem Process.not_mem_run {rt : Runtime} {s s' : Process} {labels : List Step} {k : String}
    (hk : k ∉ s.dedupStore) (hl : ∀ label ∈ labels, ¬ label.Offers rt k)
    (h : (process rt).Run s labels s') : k ∉ s'.dedupStore :=
  h.invariant_of (I := fun s => k ∉ s.dedupStore) (G := fun label => ¬ label.Offers rt k)
    hk hl fun _ _ _ hok hs hstep => Process.not_mem_step hs hok hstep

/-- A failed forward releases its key. -/
theorem Process.not_mem_afterCompletion {s : Process} {i : ℕ} {f : Forward}
    {outcome : FetchOutcome} (ho : outcome.forwarded = false) :
    f.dispatchKey ∉ (s.afterCompletion i f outcome).dedupStore := by
  have hne : ¬ outcome.forwarded = true := by
    rw [ho]
    exact Bool.false_ne_true
  rw [Process.afterCompletion, completeForward, if_neg hne]
  exact Finset.notMem_erase f.dispatchKey s.dedupStore

/-! ### At most once -/

/-- **Dispatch is at most once per key, over any interleaving.**  In every
reachable state the store holds exactly the keys in flight or forwarded with
success; no key is in flight twice and none succeeds twice; a delivery is a
duplicate exactly when its key is in flight or has succeeded; and once a forward
has failed, the next eligible delivery of its key is forwarded. -/
theorem process_at_most_once {rt : Runtime} {labels : List Step} {s : Process}
    (h : (process rt).Run .initial labels s) :
    (∀ k, k ∈ s.dedupStore ↔ k ∈ s.inFlightKeys ∨ k ∈ s.succeeded) ∧
    s.inFlightKeys.Nodup ∧ s.succeeded.Nodup ∧
    (∀ env options req, (s.handle rt env options req).decision = some .duplicate ↔
      ∃ k, DeliversKey rt env options req k ∧ (k ∈ s.inFlightKeys ∨ k ∈ s.succeeded)) ∧
    (∀ i f outcome s₁ later s₂ env options req, s.inFlight[i]? = some f →
      outcome.forwarded = false → (process rt).step s (.completion i outcome) s₁ →
      (process rt).Run s₁ later s₂ → (∀ label ∈ later, ¬ label.Offers rt f.dispatchKey) →
      Eligible rt env options req f.dispatchKey →
      (s₂.handle rt env options req).decision = some (.forwarded f.dispatchKey) ∧
        ∃ f', (s₂.handle rt env options req).awaiting = some f' ∧
          f'.dispatchKey = f.dispatchKey ∧
          .fetch f'.request ∈ (s₂.handle rt env options req).effects) := by
  have hinv := Process.invariant_of_run h
  refine ⟨hinv.store, (List.nodup_append.mp hinv.nodup).1, (List.nodup_append.mp hinv.nodup).2.1,
    ?_, ?_⟩
  · intro env options req
    rw [Process.handle_duplicate_iff]
    refine exists_congr fun k => and_congr_right fun _ => hinv.store k
  · intro i f outcome s₁ later s₂ env options req hi ho hstep hrun hlater he
    obtain ⟨f', hf', rfl⟩ := hstep
    obtain rfl : f = f' := Option.some.inj (hi.symm.trans hf')
    have hfree := Process.not_mem_run (Process.not_mem_afterCompletion ho) hlater hrun
    obtain ⟨hdecision, -, hawaiting⟩ := Process.handle_of_eligible he hfree
    exact ⟨hdecision, hawaiting⟩

/-- A delivery that is forwarded. -/
def sampleStep : Step := .delivery sampleEnv sampleOptions sampleRequest

theorem sampleStep_eligible :
    Eligible sampleRuntime sampleEnv sampleOptions sampleRequest "o/r#7@abc" := by
  have hpayload : payloadOf sampleRuntime sampleBody = .json samplePayload :=
    payloadOf_eq_json.mpr samplePayload_parses
  have hkey : computeDedupKey "pull_request" (.json samplePayload) = some "o/r#7@abc" :=
    computeDedupKey_eq_some_iff.mpr ⟨"o/r", .ofNat 7, by decide, samplePayload_target⟩
  refine ⟨sampleBody, sampleRequest_verified, ?_, ?_⟩
  · rw [hpayload]
    exact deliveryKey_eq_some_iff.mpr ⟨"pull_request", rfl, hkey⟩
  · rw [hpayload]
    exact samplePayload_permitted

/-- A delivery, a hook that does not answer, and the delivery again: the second
one is forwarded too. -/
theorem sampleStep_retried :
    ∃ s s₁ : Process, (process sampleRuntime).Run .initial [sampleStep] s ∧
      (process sampleRuntime).step s (.completion 0 .noResponse) s₁ ∧
      (s₁.handle sampleRuntime sampleEnv sampleOptions sampleRequest).decision =
        some (.forwarded "o/r#7@abc") := by
  obtain ⟨-, -, f, hawaiting, hf, -⟩ := Process.handle_of_eligible (s := .initial)
    sampleStep_eligible (by decide)
  let s := Process.initial.afterDelivery
    (Process.initial.handle sampleRuntime sampleEnv sampleOptions sampleRequest)
  have hrun : (process sampleRuntime).Run .initial [sampleStep] s :=
    Lts.run_singleton.mpr rfl
  have hinFlight : s.inFlight[0]? = some f := by
    show ([] ++ Option.toList _)[0]? = some f
    rw [hawaiting]
    rfl
  obtain ⟨-, -, -, -, hretry⟩ := process_at_most_once hrun
  have hoffers : ∀ label ∈ ([] : List Step), ¬ label.Offers sampleRuntime f.dispatchKey := by simp
  rw [← hf]
  have heligible := sampleStep_eligible
  rw [← hf] at heligible
  exact ⟨s, s.afterCompletion 0 f .noResponse, hrun, ⟨f, hinFlight, rfl⟩,
    (hretry 0 f .noResponse _ [] _ _ _ _ hinFlight rfl ⟨f, hinFlight, rfl⟩ rfl hoffers
      heligible).1⟩

end Webhook
