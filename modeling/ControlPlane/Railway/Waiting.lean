/-
ControlPlane/Railway/Waiting.lean

Which observation `pollServiceUntilSuccess` returns on.

The replies to the listings are a sequence, and so are the readings of the clock;
`scripted` answers with them.  The loop is then an instance of `Polling.poll`
(`pollRounds_look`): a listing is a look, and it is too late after it when the reading
that follows is not before the deadline.

An observation is `Decisive` when the service is listed with a deployment of the right
id that has succeeded or cannot recover.
-/
import ControlPlane.Railway.Services
import ControlPlane.Interaction.Polling

namespace Railway

open Js Interaction Polling

/-! ### Replies in turn -/

/-- Answers the clock with the readings of `clock` in turn, and any other call but a
sleep with its reply at the number of such calls before it. -/
def scripted (reply : (c : Call) → ℕ → c.Reply) (clock : ℕ → ℤ) (s : ℕ × ℕ) :
    (c : Call) → c.Reply × (ℕ × ℕ)
  | .now => (clock s.2, (s.1, s.2 + 1))
  | .sleep _ => ((), s)
  | c => (reply c s.1, (s.1 + 1, s.2))

/-- The listings are answered with `listing` in turn. -/
def listings (listing : ℕ → Except String String) : (c : Call) → ℕ → c.Reply
  | .run _ _, i => listing i
  | c, _ => offline c

/-- The calls that neither read the clock nor sleep. -/
def observes : Call → Bool
  | .now => false
  | .sleep _ => false
  | _ => true

/-- How many observations a trace has. -/
def observations (t : Trace) : ℕ := (t.filter fun e => observes e.call).length

/-- A program that reads the clock and goes on with what it read: what is left is run from the
next reading on. -/
theorem play_now {α : Type} (rounds : ℤ → Tool α) (reply : (c : Call) → ℕ → c.Reply)
    (clock : ℕ → ℤ) : ∃ t o s,
      (now >>= rounds).play (scripted reply clock) (0, 0) = (⟨.now, clock 0⟩ :: t, o) ∧
        (rounds (clock 0)).Exec t o ∧ (Prog.answering (scripted reply clock)).Run (0, 1) t s := by
  obtain ⟨s, hrun⟩ := Prog.play_run (I := Platform) (scripted reply clock) (rounds (clock 0)) (0, 1)
  exact ⟨_, _, s, rfl, Prog.play_exec (I := Platform) _ _ _, hrun⟩

section Rounds

variable {α : Type} {look : ℕ → Look (Outcome Failure α)} {late : ℕ → Prop} [DecidablePred late]
  {env : ℕ × ℕ → (c : Call) → c.Reply × (ℕ × ℕ)} {rounds : ℕ → Tool α}

/-- A round looks once: it is the last one, or it leaves the others to run. -/
structure RoundsLook (look : ℕ → Look (Outcome Failure α)) (late : ℕ → Prop)
    (env : ℕ × ℕ → (c : Call) → c.Reply × (ℕ × ℕ)) (rounds : ℕ → Tool α) : Prop where
  zero : rounds 0 = .diverge
  succ : ∀ ⦃fuel i t o s⦄, (rounds (fuel + 1)).Exec t o →
    (Prog.answering env).Run (i, i + 1) t s →
      (Last look late i o ∧ observations t = 1) ∨
        (GoesOn look late i ∧ ∃ t', (rounds fuel).Exec t' o ∧
          (Prog.answering env).Run (i + 1, i + 2) t' s ∧ observations t = observations t' + 1)

/-- **Rounds that look are a poll.** -/
theorem RoundsLook.run (hrounds : RoundsLook look late env rounds) {fuel i : ℕ} {t : Trace}
    {o : Outcome Failure α} {s : ℕ × ℕ} (h : (rounds fuel).Exec t o)
    (hr : (Prog.answering env).Run (i, i + 1) t s) :
    o = (poll look late fuel i).getD .diverged ∧ observations t = looks look late fuel i := by
  induction fuel generalizing i t with
  | zero =>
      rw [hrounds.zero] at h
      obtain ⟨rfl, rfl⟩ := h
      exact ⟨rfl, rfl⟩
  | succ fuel ih =>
      rcases hrounds.succ h hr with ⟨hlast, hcount⟩ | ⟨hgoes, t', h', hr', hcount⟩
      · rw [poll_of_last hlast, looks_of_last hlast]
        exact ⟨rfl, hcount⟩
      · obtain ⟨ho, hcount'⟩ := ih h' hr'
        rw [poll_of_goesOn hgoes, looks_of_goesOn hgoes, hcount, hcount']
        exact ⟨ho, rfl⟩

end Rounds

/-! ### Observations -/

/-- The service of that name in a listing that can be read. -/
def listed (rt : Runtime) (serviceName : String) (reply : Except String String) :
    Except Failure (Option Json) :=
  printed rt reply >>= fun services => findTemplateService services serviceName

/-- The service is listed, its latest deployment has a status that ends the wait, and
an id that is not the superseded one. -/
def Decisive (rt : Runtime) (serviceName : String) (supersedes : Value)
    (reply : Except String String) (service : Json) (status : String) : Prop :=
  listed rt serviceName reply = .ok (some service) ∧
  deploymentMember service "status" = .json (.str status) ∧
  (status = "SUCCESS" ∨ status ∈ terminalFailureStatuses) ∧
  (supersedes ≠ .undefined → deploymentMember service "id" ≠ .undefined ∧
    (deploymentMember service "id").strictEquals supersedes = false)

/-- The listing can be read, and shows nothing decisive. -/
def Indecisive (rt : Runtime) (serviceName : String) (supersedes : Value)
    (reply : Except String String) : Prop :=
  (∃ found, listed rt serviceName reply = .ok found) ∧
  ∀ service status, ¬Decisive rt serviceName supersedes reply service status

section Observations

variable {rt : Runtime} {serviceName : String} {supersedes : Value}
  {reply : Except String String} {service : Json} {status : String}

/-- A sighting is a judgement of the service that is listed. -/
theorem sighted_eq (rt : Runtime) (serviceName : String) (supersedes : Value)
    (reply : Except String String) :
    sighted rt serviceName supersedes reply =
      (listed rt serviceName reply).map fun found =>
        (found.map (judge supersedes)).getD .undecided := by
  unfold sighted listed sightingOf
  cases printed rt reply with
  | error e => rfl
  | ok services =>
      show (findTemplateService services serviceName >>= _) = _
      cases hfound : findTemplateService services serviceName with
      | error e =>
          show _ = Except.map _ (findTemplateService services serviceName)
          rw [hfound]
          rfl
      | ok found =>
          show _ = Except.map _ (findTemplateService services serviceName)
          rw [hfound]
          cases found <;> rfl

/-- A deployment supersedes another when it has another id. -/
theorem supersededBy_iff {observedId : Value} :
    supersededBy supersedes observedId = true ↔
      (supersedes ≠ .undefined → observedId ≠ .undefined ∧
        observedId.strictEquals supersedes = false) := by
  cases supersedes <;> cases observedId <;> simp [supersededBy, Value.isUndefined]

/-- A success is sighted in a listing that decides for it. -/
theorem sighted_deployed_iff :
    sighted rt serviceName supersedes reply = .ok (.deployed service) ↔
      Decisive rt serviceName supersedes reply service "SUCCESS" := by
  rw [sighted_eq, Decisive, ← supersededBy_iff]
  cases listed rt serviceName reply with
  | error e => simp [Except.map]
  | ok found =>
      cases found with
      | none => simp [Except.map]
      | some s =>
          simp only [Except.map, Option.map_some, Option.getD_some, Except.ok.injEq,
            Option.some.injEq, judge_deployed_iff, true_or, true_and]
          constructor
          · rintro ⟨rfl, hstatus, hid⟩
            exact ⟨rfl, hstatus, hid⟩
          · rintro ⟨rfl, hstatus, hid⟩
            exact ⟨rfl, hstatus, hid⟩

/-- A failure is sighted in a listing that decides for another status. -/
theorem sighted_failed_iff :
    sighted rt serviceName supersedes reply = .ok (.failed status) ↔
      status ≠ "SUCCESS" ∧ ∃ service, Decisive rt serviceName supersedes reply service status := by
  simp only [sighted_eq, Decisive, ← supersededBy_iff]
  cases listed rt serviceName reply with
  | error e => simp [Except.map]
  | ok found =>
      cases found with
      | none => simp [Except.map]
      | some s =>
          simp only [Except.map, Option.map_some, Option.getD_some, Except.ok.injEq,
            Option.some.injEq, judge_failed_iff]
          constructor
          · rintro ⟨hterminal, hstatus, hid⟩
            refine ⟨?_, s, rfl, hstatus, .inr hterminal, hid⟩
            rintro rfl
            exact absurd hterminal (by decide)
          · rintro ⟨hne, _, rfl, hstatus, hsuccess | hterminal, hid⟩
            · exact absurd hsuccess hne
            · exact ⟨hterminal, hstatus, hid⟩

/-- A listing that cannot be read is an error. -/
theorem sighted_error_iff {e : Failure} :
    sighted rt serviceName supersedes reply = .error e ↔
      listed rt serviceName reply = .error e := by
  rw [sighted_eq]
  cases listed rt serviceName reply <;> simp [Except.map]

/-- Nothing is decided by any other listing. -/
theorem sighted_undecided_iff :
    sighted rt serviceName supersedes reply = .ok .undecided ↔
      Indecisive rt serviceName supersedes reply := by
  constructor
  · intro h
    refine ⟨?_, ?_⟩
    · cases hlisted : listed rt serviceName reply with
      | ok found => exact ⟨found, rfl⟩
      | error e =>
          rw [sighted_error_iff.mpr hlisted] at h
          cases h
    · intro service status hdecisive
      by_cases hsuccess : status = "SUCCESS"
      · subst hsuccess
        rw [sighted_deployed_iff.mpr hdecisive] at h
        cases h
      · rw [sighted_failed_iff.mpr ⟨hsuccess, service, hdecisive⟩] at h
        cases h
  · rintro ⟨⟨found, hlisted⟩, hnone⟩
    cases hs : sighted rt serviceName supersedes reply with
    | error e =>
        rw [sighted_error_iff.mp hs] at hlisted
        cases hlisted
    | ok sighting =>
        cases sighting with
        | undecided => rfl
        | deployed service => exact absurd (sighted_deployed_iff.mp hs) (hnone service _)
        | failed status =>
            obtain ⟨-, service, hdecisive⟩ := sighted_failed_iff.mp hs
            exact absurd hdecisive (hnone service status)

theorem plain_listed : Plain (listed rt serviceName reply) :=
  (plain_printed rt reply).bind fun services => plain_findTemplateService services serviceName

end Observations

/-! ### The poll -/

/-- What a sighting says to the loop. -/
def sightingLook (serviceName : String) : Except Failure Sighting → Look (Outcome Failure Json)
  | .ok (.deployed service) => .ends (.returned service)
  | .ok (.failed status) => .ends (.threw (terminalState serviceName status))
  | .ok .undecided => .waits (.threw (deployTimeout serviceName))
  | .error e => .ends (.threw e)

/-- What the `i`-th listing says to the loop. -/
def listingLook (rt : Runtime) (serviceName : String) (supersedes : Value)
    (listing : ℕ → Except String String) (i : ℕ) : Look (Outcome Failure Json) :=
  sightingLook serviceName (sighted rt serviceName supersedes (listing i))

/-- The reading after the `i`-th observation is not before the deadline. -/
abbrev Late (clock : ℕ → ℤ) (deadline : ℤ) (i : ℕ) : Prop := deadline ≤ clock (i + 1)

section Poll

variable {rt : Runtime} {serviceName : String} {pollSeconds timeoutMinutes : ℕ}
  {supersedes : Value} {deadline : ℤ} {listing : ℕ → Except String String} {clock : ℕ → ℤ}

/-- Both ways to decide are ways for a look to end the loop. -/
theorem listingLook_of_decides {i : ℕ} {o : Outcome Failure Json}
    (h : Decides rt serviceName supersedes (listing i) o) :
    listingLook rt serviceName supersedes listing i = .ends o := by
  unfold listingLook
  rcases h with ⟨service, hs, rfl⟩ | ⟨status, hs, rfl⟩ | ⟨e, hs, rfl⟩
  · rw [hs]
    rfl
  · rw [hs]
    rfl
  · rw [hs]
    rfl

/-- **The loop is a poll** of the listings in turn. -/
theorem pollRounds_look : RoundsLook (listingLook rt serviceName supersedes listing)
    (Late clock deadline) (scripted (listings listing) clock)
    (pollRounds rt serviceName pollSeconds supersedes deadline) where
  zero := rfl
  succ := by
    intro fuel i t o s h hr
    obtain ⟨reply, t', rfl, hround⟩ := pollRounds_succ_cases h
    obtain ⟨m, ⟨-, rfl⟩, m', ⟨hreply, rfl⟩, hr'⟩ := hr
    have hlisting : reply = listing i := hreply
    subst hlisting
    rcases hround with ⟨hd, rfl⟩ | ⟨hs, hclock⟩
    · exact .inl ⟨.inl (listingLook_of_decides hd), rfl⟩
    · have hwaits : listingLook rt serviceName supersedes listing i =
          .waits (.threw (deployTimeout serviceName)) := by
        unfold listingLook
        rw [hs]
        rfl
      rcases hclock with ⟨time, t'', rfl, hlt, hrest⟩ | ⟨time, rfl, hlate, rfl⟩
      · obtain ⟨m'', ⟨htime, rfl⟩, hr''⟩ := hr'
        have hreading : time = clock (i + 1) := htime
        subst hreading
        exact .inr ⟨⟨⟨_, hwaits⟩, not_le.mpr hlt⟩, t'', hrest, hr'', rfl⟩
      · obtain ⟨m'', ⟨htime, rfl⟩, -⟩ := hr'
        have hreading : time = clock (i + 1) := htime
        subst hreading
        exact .inl ⟨.inr ⟨hwaits, hlate⟩, rfl⟩

/-- A run of the poll on given listings and readings of the clock. -/
def polled (rt : Runtime) (serviceName : String) (pollSeconds timeoutMinutes : ℕ)
    (supersedes : Value) (listing : ℕ → Except String String) (clock : ℕ → ℤ) (fuel : ℕ) :
    Trace × Outcome Failure Json :=
  (pollServiceUntilSuccess rt fuel serviceName pollSeconds timeoutMinutes supersedes).play
    (scripted (listings listing) clock) (0, 0)

/-- The first reading starts the wait. -/
def pollDeadline (timeoutMinutes : ℕ) (clock : ℕ → ℤ) : ℤ := clock 0 + timeoutMinutes * 60000

/-- The `n`-th observation is made: those before it are not decisive, and each is
before the deadline. -/
def Made (rt : Runtime) (serviceName : String) (supersedes : Value)
    (listing : ℕ → Except String String) (clock : ℕ → ℤ) (deadline : ℤ) (n : ℕ) : Prop :=
  ∀ i < n, Indecisive rt serviceName supersedes (listing i) ∧ clock (i + 1) < deadline

/-- The wait is a poll over these looks. -/
theorem polled_eq (fuel : ℕ) :
    (polled rt serviceName pollSeconds timeoutMinutes supersedes listing clock fuel).2 =
        (poll (listingLook rt serviceName supersedes listing)
          (Late clock (pollDeadline timeoutMinutes clock)) fuel 0).getD .diverged ∧
      observations
          (polled rt serviceName pollSeconds timeoutMinutes supersedes listing clock fuel).1 =
        looks (listingLook rt serviceName supersedes listing)
          (Late clock (pollDeadline timeoutMinutes clock)) fuel 0 := by
  obtain ⟨t, o, s, hplay, hexec, hrun⟩ := play_now (fun time =>
    pollRounds rt serviceName pollSeconds supersedes (time + timeoutMinutes * 60000) fuel)
    (listings listing) clock
  rw [show polled rt serviceName pollSeconds timeoutMinutes supersedes listing clock fuel = _
    from hplay]
  obtain ⟨ho, hcount⟩ := pollRounds_look.run hexec hrun
  exact ⟨ho, hcount⟩

/-- It goes on over a listing that decides nothing. -/
theorem listingLook_waits_iff {i : ℕ} :
    (∃ o, listingLook rt serviceName supersedes listing i = .waits o) ↔
      Indecisive rt serviceName supersedes (listing i) := by
  rw [← sighted_undecided_iff]
  unfold listingLook
  cases hs : sighted rt serviceName supersedes (listing i) with
  | error e => simp [sightingLook]
  | ok sighting => cases sighting <;> simp [sightingLook]

/-- The listings that are made are the looks that are taken. -/
theorem made_iff_taken {n : ℕ} :
    Made rt serviceName supersedes listing clock deadline n ↔
      Taken (listingLook rt serviceName supersedes listing) (Late clock deadline) 0 n := by
  have hone : ∀ i, Indecisive rt serviceName supersedes (listing i) ∧ clock (i + 1) < deadline ↔
      GoesOn (listingLook rt serviceName supersedes listing) (Late clock deadline) (0 + i) := by
    intro i
    rw [GoesOn, Nat.zero_add, listingLook_waits_iff, not_le]
  exact forall₂_congr fun i _ => hone i

/-- How the run ends is what the last observation made comes to. -/
theorem polled_ended_iff {fuel : ℕ} {o : Outcome Failure Json} (ho : o ≠ .diverged) :
    (polled rt serviceName pollSeconds timeoutMinutes supersedes listing clock fuel).2 = o ↔
      ∃ n < fuel,
        Made rt serviceName supersedes listing clock (pollDeadline timeoutMinutes clock) n ∧
        Last (listingLook rt serviceName supersedes listing)
          (Late clock (pollDeadline timeoutMinutes clock)) n o := by
  rw [(polled_eq fuel).1, getD_poll_eq_iff ho]
  simp only [made_iff_taken]

/-! ### How an observation ends the wait -/

/-- The failures of the poll's own are told apart from those of the platform. -/
theorem last_returned_iff {n : ℕ} {service : Json} :
    Last (listingLook rt serviceName supersedes listing) (Late clock deadline) n
        (.returned service) ↔
      Decisive rt serviceName supersedes (listing n) service "SUCCESS" := by
  rw [← sighted_deployed_iff]
  unfold Last listingLook
  cases hs : sighted rt serviceName supersedes (listing n) with
  | error e => simp [sightingLook]
  | ok sighting => cases sighting <;> simp [sightingLook]

/-- What the platform throws is of another kind than what the wait throws. -/
theorem sighted_error_ne {reply : Except String String} {e own : Failure}
    (h : sighted rt serviceName supersedes reply = .error e) (hown : own.kind ≠ .platform) :
    e ≠ own := by
  rintro rfl
  exact hown (plain_listed e (sighted_error_iff.mp h))

/-- A terminal state is no timeout. -/
theorem terminalState_ne_deployTimeout (serviceName status : String) :
    terminalState serviceName status ≠ deployTimeout serviceName := by
  intro h
  cases congrArg Failure.kind h

/-- The message tells the status. -/
theorem terminalState_injective {a b : String}
    (h : terminalState serviceName a = terminalState serviceName b) : a = b := by
  have hmessage := congrArg Failure.message h
  simpa [terminalState, String.append_assoc] using hmessage

/-- The wait ends in a failure at the listing that shows it. -/
theorem last_terminalState_iff {n : ℕ} {status : String} :
    Last (listingLook rt serviceName supersedes listing) (Late clock deadline) n
        (.threw (terminalState serviceName status)) ↔
      status ≠ "SUCCESS" ∧
        ∃ service, Decisive rt serviceName supersedes (listing n) service status := by
  rw [← sighted_failed_iff]
  unfold Last listingLook
  cases hs : sighted rt serviceName supersedes (listing n) with
  | error e =>
      have hother : e ≠ terminalState serviceName status := sighted_error_ne hs fun h => by cases h
      simp [sightingLook, hother]
  | ok sighting =>
      cases sighting with
      | deployed service => simp [sightingLook]
      | failed status' =>
          have hinj : terminalState serviceName status' = terminalState serviceName status ↔
              status' = status := ⟨terminalState_injective, fun h => h ▸ rfl⟩
          simp [sightingLook, hinj]
      | undecided =>
          have hother := (terminalState_ne_deployTimeout serviceName status).symm
          simp [sightingLook, hother]

/-- It times out at a listing that decides nothing, when it is late. -/
theorem last_deployTimeout_iff {n : ℕ} :
    Last (listingLook rt serviceName supersedes listing) (Late clock deadline) n
        (.threw (deployTimeout serviceName)) ↔
      Indecisive rt serviceName supersedes (listing n) ∧ deadline ≤ clock (n + 1) := by
  rw [← sighted_undecided_iff]
  unfold Last listingLook
  cases hs : sighted rt serviceName supersedes (listing n) with
  | error e =>
      have hother : e ≠ deployTimeout serviceName := sighted_error_ne hs fun h => by cases h
      simp [sightingLook, hother]
  | ok sighting =>
      cases sighting with
      | deployed service => simp [sightingLook]
      | failed status' =>
          have hother := terminalState_ne_deployTimeout serviceName status'
          simp [sightingLook, hother]
      | undecided => simp [sightingLook]

/-- It does not run out of fuel at a last look. -/
theorem last_ne_diverged {n : ℕ} {o : Outcome Failure Json}
    (h : Last (listingLook rt serviceName supersedes listing) (Late clock deadline) n o) :
    o ≠ .diverged := by
  rintro rfl
  unfold Last listingLook at h
  cases hs : sighted rt serviceName supersedes (listing n) with
  | error e => simp [hs, sightingLook] at h
  | ok sighting => cases sighting <;> simp [hs, sightingLook] at h

/-- The timeouts of a wait, by its listings and its clock. -/
theorem deployTimeout_iff {fuel : ℕ} :
    (∃ n < fuel, Made rt serviceName supersedes listing clock deadline n ∧
        Indecisive rt serviceName supersedes (listing n) ∧ deadline ≤ clock (n + 1)) ↔
      ∃ n < fuel, (∀ i < n, clock (i + 1) < deadline) ∧ deadline ≤ clock (n + 1) ∧
        ∀ i ≤ n, Indecisive rt serviceName supersedes (listing i) := by
  constructor
  · rintro ⟨n, hn, hmade, hlast, hlate⟩
    refine ⟨n, hn, fun i hi => (hmade i hi).2, hlate, fun i hi => ?_⟩
    rcases Nat.lt_or_eq_of_le hi with hlt | rfl
    · exact (hmade i hlt).1
    · exact hlast
  · rintro ⟨n, hn, hearly, hlate, hall⟩
    exact ⟨n, hn, fun i hi => ⟨hall i (Nat.le_of_lt hi), hearly i hi⟩, hall n le_rfl, hlate⟩

/-- Only what an observation decides matters: one that decides nothing can be
exchanged for another. -/
theorem listingLook_congr {listing' : ℕ → Except String String}
    (h : ∀ i, listing' i = listing i ∨ Indecisive rt serviceName supersedes (listing i) ∧
      Indecisive rt serviceName supersedes (listing' i)) :
    listingLook rt serviceName supersedes listing' =
      listingLook rt serviceName supersedes listing := by
  funext i
  unfold listingLook
  rcases h i with hsame | ⟨hold, hnew⟩
  · rw [hsame]
  · rw [sighted_undecided_iff.mpr hold, sighted_undecided_iff.mpr hnew]

end Poll

/-- **The poll returns on the first decisive observation.**  It returns the service
when the first decisive observation that is made is a success, and throws the
terminal-state error when it is a failure; it times out exactly when nothing decisive
is seen up to the first observation at or after the deadline.  An observation that is
not decisive never changes the outcome, one is always made, and the loop ends once the
clock passes the deadline. -/
theorem pollServiceUntilSuccess_first_decisive (rt : Runtime) (serviceName : String)
    (pollSeconds timeoutMinutes : ℕ) (supersedes : Value) (listing : ℕ → Except String String)
    (clock : ℕ → ℤ) :
    (∀ fuel service,
      (polled rt serviceName pollSeconds timeoutMinutes supersedes listing clock fuel).2 =
          .returned service ↔
        ∃ n < fuel,
          Made rt serviceName supersedes listing clock (pollDeadline timeoutMinutes clock) n ∧
          Decisive rt serviceName supersedes (listing n) service "SUCCESS") ∧
    (∀ fuel status,
      (polled rt serviceName pollSeconds timeoutMinutes supersedes listing clock fuel).2 =
          .threw (terminalState serviceName status) ↔
        ∃ n < fuel,
          Made rt serviceName supersedes listing clock (pollDeadline timeoutMinutes clock) n ∧
          status ≠ "SUCCESS" ∧
            ∃ service, Decisive rt serviceName supersedes (listing n) service status) ∧
    (∀ fuel,
      (polled rt serviceName pollSeconds timeoutMinutes supersedes listing clock fuel).2 =
          .threw (deployTimeout serviceName) ↔
        ∃ n < fuel, (∀ i < n, clock (i + 1) < pollDeadline timeoutMinutes clock) ∧
          pollDeadline timeoutMinutes clock ≤ clock (n + 1) ∧
          ∀ i ≤ n, Indecisive rt serviceName supersedes (listing i)) ∧
    (∀ listing' fuel, (∀ i, listing' i = listing i ∨
        Indecisive rt serviceName supersedes (listing i) ∧
          Indecisive rt serviceName supersedes (listing' i)) →
      (polled rt serviceName pollSeconds timeoutMinutes supersedes listing' clock fuel).2 =
        (polled rt serviceName pollSeconds timeoutMinutes supersedes listing clock fuel).2) ∧
    (∀ fuel n,
      n < observations
          (polled rt serviceName pollSeconds timeoutMinutes supersedes listing clock fuel).1 ↔
        n < fuel ∧
          Made rt serviceName supersedes listing clock (pollDeadline timeoutMinutes clock) n) ∧
    (∀ fuel, 0 < observations
      (polled rt serviceName pollSeconds timeoutMinutes supersedes listing clock (fuel + 1)).1) ∧
    ∀ n, pollDeadline timeoutMinutes clock ≤ clock (n + 1) → ∀ fuel, n < fuel →
      (polled rt serviceName pollSeconds timeoutMinutes supersedes listing clock fuel).2 ≠
        .diverged := by
  have hmade : ∀ fuel n, n < observations
        (polled rt serviceName pollSeconds timeoutMinutes supersedes listing clock fuel).1 ↔
      n < fuel ∧
        Made rt serviceName supersedes listing clock (pollDeadline timeoutMinutes clock) n := by
    intro fuel n
    rw [(polled_eq fuel).2, lt_looks_iff, made_iff_taken]
  refine ⟨?_, ?_, ?_, ?_, hmade, ?_, ?_⟩
  · intro fuel service
    rw [polled_ended_iff (by simp)]
    simp only [last_returned_iff]
  · intro fuel status
    rw [polled_ended_iff (by simp)]
    simp only [last_terminalState_iff]
  · intro fuel
    rw [polled_ended_iff (by simp)]
    simp only [last_deployTimeout_iff]
    exact deployTimeout_iff
  · intro listing' fuel h
    rw [(polled_eq fuel).1, (polled_eq fuel).1, listingLook_congr h]
  · intro fuel
    exact (hmade (fuel + 1) 0).mpr ⟨Nat.succ_pos fuel, fun i hi => absurd hi (Nat.not_lt_zero i)⟩
  · intro n hlate fuel hn
    have hnot : poll (listingLook rt serviceName supersedes listing)
        (Late clock (pollDeadline timeoutMinutes clock)) fuel 0 ≠ none := by
      apply poll_ne_none _ hn
      rwa [Nat.zero_add]
    obtain ⟨o, ho⟩ := Option.ne_none_iff_exists'.mp hnot
    obtain ⟨m, -, -, hlast⟩ := poll_eq_some_iff.mp ho
    rw [(polled_eq fuel).1, ho]
    exact last_ne_diverged hlast

/-! ### A client that is recovered -/

/-- A service with its latest deployment. -/
def deployment (id status : String) : Json :=
  .obj [("name", .str "client"),
    ("latestDeployment", .obj [("id", .str id), ("status", .str status)])]

/-- Two listings can be read. -/
def listingRuntime : Runtime where
  jsonParse text :=
    if text = "prior" then .ok (.arr [deployment "d1" "CRASHED"])
    else .ok (.arr [deployment "d2" "SUCCESS"])
  compileRegExp _ := none
  utf8Decode _ := ""
  hmacSha256Hex _ _ := ""

/-- The prior deployment is seen once, then the new one. -/
def recovering (i : ℕ) : Except String String := if i = 0 then .ok "prior" else .ok "new"

/-- The poll does not take the crash of the prior deployment for the new one's. -/
theorem recovering_returns :
    (polled listingRuntime "client" 5 1 (.json (.str "d1")) recovering (fun _ => 0) 2).2 =
      .returned (deployment "d2" "SUCCESS") := by
  apply ((pollServiceUntilSuccess_first_decisive listingRuntime "client" 5 1 (.json (.str "d1"))
    recovering fun _ => 0).1 2 (deployment "d2" "SUCCESS")).mpr
  refine ⟨1, by decide, ?_, rfl, rfl, .inl rfl, fun _ => ⟨?_, rfl⟩⟩
  · intro i hi
    obtain rfl : i = 0 := Nat.lt_one_iff.mp hi
    exact ⟨sighted_undecided_iff.mp rfl, by decide⟩
  · intro h
    cases h

end Railway
