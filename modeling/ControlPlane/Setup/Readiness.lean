/-
ControlPlane/Setup/Readiness.lean

The two polls that wait for an instance to answer (`waitForHealthy`,
`waitForSetupReady`), when a probe can be rejected.

What both are for is to wait an instance out that is restarting: a probe that does not
find it ready, by an HTTP status or by no answer at all, is followed by another one as
long as the deadline is ahead (`Tolerant`).  Neither loop catches a rejected probe, so
each does this exactly on the sequences in which no probe it would make is rejected
(`tolerant_iff`).

`probeLook` reads the outcome of a probe as a look of `Polling.poll`, and the loops are
polls of their probes (`readyRounds_look`, `healthRounds_look`).
-/
import ControlPlane.Setup.Apply
import ControlPlane.Railway.Waiting

namespace Setup

open Js Railway Interaction Polling

/-! ### Probes in turn -/

section Probes

variable {good : ℕ → Bool} {tooLate : ℕ → Failure} {kind : FailureKind}
  {probe : ℕ → Except String ℕ} {late : ℕ → Prop} [DecidablePred late]
  {run : ℕ → Trace × Outcome Failure Unit} {n : ℕ}

/-- What a probe says to the loop; a probe gives an HTTP status or is rejected. -/
def probeLook (good : ℕ → Bool) (tooLate : ℕ → Failure) :
    Except String ℕ → Look (Outcome Failure Unit)
  | .error message => .ends (.threw (thrown message))
  | .ok status => if good status then .ends (.returned ()) else .waits (.threw (tooLate status))

/-- The probe found the instance ready. -/
def Ready (good : ℕ → Bool) (reply : Except String ℕ) : Prop :=
  ∃ status, reply = .ok status ∧ good status = true

/-- The `n`-th probe is due: none before it found the instance ready, and each was
before the deadline. -/
def Due (good : ℕ → Bool) (probe : ℕ → Except String ℕ) (late : ℕ → Prop) (n : ℕ) : Prop :=
  ∀ i < n, ¬Ready good (probe i) ∧ ¬late i

/-- The last status among the first `n + 1` probes. -/
def LastStatus (probe : ℕ → Except String ℕ) (n status : ℕ) : Prop :=
  ∃ i ≤ n, probe i = .ok status ∧ ∀ j, i < j → j ≤ n → ∃ message, probe j = .error message

/-- The runs wait an instance out that is not ready or not reachable.  A run returns
when a probe that is due finds it ready, fails with the loop's own error, which names
the last status, when the deadline has passed, and makes another probe otherwise. -/
structure Tolerant (good : ℕ → Bool) (tooLate : ℕ → Failure) (kind : FailureKind)
    (probe : ℕ → Except String ℕ) (late : ℕ → Prop) (run : ℕ → Trace × Outcome Failure Unit) :
    Prop where
  returns : ∀ fuel, (run fuel).2 = .returned () ↔
    ∃ n < fuel, Due good probe late n ∧ Ready good (probe n)
  timesOut : ∀ n, Due good probe late n → ¬Ready good (probe n) → late n → ∀ fuel, n < fuel →
    ∃ e, (run fuel).2 = .threw e ∧ e.kind = kind ∧
      ∀ status, LastStatus probe n status → e = tooLate status
  goesOn : ∀ n, Due good probe late n → ¬Ready good (probe n) → ¬late n → ∀ fuel, n + 1 < fuel →
    n + 1 < observations (run fuel).1

/-- The runs are polls of the probes. -/
def PollsProbes (good : ℕ → Bool) (tooLate : ℕ → Failure) (probe : ℕ → Except String ℕ)
    (late : ℕ → Prop) [DecidablePred late] (run : ℕ → Trace × Outcome Failure Unit) : Prop :=
  ∀ fuel, (run fuel).2 =
      (poll (fun i => probeLook good tooLate (probe i)) late fuel 0).getD .diverged ∧
    observations (run fuel).1 = looks (fun i => probeLook good tooLate (probe i)) late fuel 0

omit [DecidablePred late] in
theorem last_returned_iff_ready :
    Last (fun i => probeLook good tooLate (probe i)) late n (.returned ()) ↔
      Ready good (probe n) := by
  unfold Last Ready
  cases hprobe : probe n with
  | error message => simp [probeLook, hprobe]
  | ok status => by_cases hgood : good status = true <;> simp [probeLook, hprobe, hgood]

/-- A probe that is rejected ends the loop with its error. -/
theorem look_of_settled {reply : Except String ℕ} {e : Failure} (h : settled reply = .error e) :
    probeLook good tooLate reply = .ends (.threw e) := by
  cases reply with
  | ok status => cases h
  | error message =>
      cases h
      rfl

/-- A probe that does not find the instance ready lets the loop go on when it was
answered. -/
theorem look_of_not_ready {reply : Except String ℕ} {status : ℕ} (hreply : reply = .ok status)
    (h : ¬Ready good reply) :
    probeLook good tooLate reply = .waits (.threw (tooLate status)) := by
  have hbad : good status = false := by
    rw [← Bool.not_eq_true]
    exact fun hgood => h ⟨status, hreply, hgood⟩
  rw [hreply]
  simp only [probeLook, hbad, Bool.false_eq_true, if_false]

omit [DecidablePred late] in
/-- A look that waits is a probe that was answered, and did not find the instance
ready. -/
theorem not_ready_of_goesOn (h : GoesOn (fun i => probeLook good tooLate (probe i)) late n) :
    ¬Ready good (probe n) ∧ ¬late n := by
  refine ⟨fun hready => ?_, h.2⟩
  exact (last_returned_iff_ready.mpr hready).not_goesOn h

omit [DecidablePred late] in
theorem Due.of_taken (h : Taken (fun i => probeLook good tooLate (probe i)) late 0 n) :
    Due good probe late n := by
  intro i hi
  have hgoes := h i hi
  rw [Nat.zero_add] at hgoes
  exact not_ready_of_goesOn hgoes

omit [DecidablePred late] in
/-- A probe that is due is made when those before it were answered. -/
theorem Due.taken (h : Due good probe late n)
    (hanswered : ∀ i < n, ∃ status, probe i = .ok status) :
    Taken (fun i => probeLook good tooLate (probe i)) late 0 n := by
  intro i hi
  obtain ⟨status, hstatus⟩ := hanswered i hi
  obtain ⟨hready, hearly⟩ := h i hi
  rw [Nat.zero_add]
  exact ⟨⟨_, look_of_not_ready hstatus hready⟩, hearly⟩

omit [DecidablePred late] in
theorem Due.mono {m : ℕ} (h : Due good probe late n) (hm : m ≤ n) : Due good probe late m :=
  fun i hi => h i (Nat.lt_of_lt_of_le hi hm)

theorem answered_of_no_rejection {reply : Except String ℕ}
    (h : ∀ message, reply ≠ .error message) : ∃ status, reply = .ok status := by
  cases reply with
  | ok status => exact ⟨status, rfl⟩
  | error message => exact absurd rfl (h message)

/-- Without a rejected probe the loop waits. -/
theorem tolerant_of_answered (hlaw : PollsProbes good tooLate probe late run)
    (hkind : ∀ status, (tooLate status).kind = kind)
    (h : ∀ n, Due good probe late n → ∀ message, probe n ≠ .error message) :
    Tolerant good tooLate kind probe late run := by
  have hanswered : ∀ n, Due good probe late n → ∃ status, probe n = .ok status :=
    fun n hdue => answered_of_no_rejection (h n hdue)
  have htaken : ∀ n, Due good probe late n →
      Taken (fun i => probeLook good tooLate (probe i)) late 0 n :=
    fun n hdue => hdue.taken fun i hi => hanswered i (hdue.mono (Nat.le_of_lt hi))
  refine ⟨?_, ?_, ?_⟩
  · intro fuel
    rw [(hlaw fuel).1, getD_poll_eq_iff (by simp)]
    simp only [last_returned_iff_ready]
    constructor
    · rintro ⟨n, hn, htaken, hready⟩
      exact ⟨n, hn, Due.of_taken htaken, hready⟩
    · rintro ⟨n, hn, hdue, hready⟩
      exact ⟨n, hn, htaken n hdue, hready⟩
  · intro n hdue hready hlate fuel hn
    obtain ⟨status, hstatus⟩ := hanswered n hdue
    have hlast : Last (fun i => probeLook good tooLate (probe i)) late n
        (.threw (tooLate status)) := .inr ⟨look_of_not_ready hstatus hready, hlate⟩
    refine ⟨tooLate status, ?_, hkind status, ?_⟩
    · rw [(hlaw fuel).1, getD_poll_eq_iff (by simp)]
      exact ⟨n, hn, htaken n hdue, hlast⟩
    · rintro last ⟨i, hi, hprobe, hafter⟩
      rcases Nat.lt_or_eq_of_le hi with hlt | rfl
      · -- a later probe would have been rejected
        obtain ⟨message, hrejected⟩ := hafter n hlt le_rfl
        exact absurd hrejected (h n hdue message)
      · rw [hstatus] at hprobe
        cases hprobe
        rfl
  · intro n hdue hready hearly fuel hn
    obtain ⟨status, hstatus⟩ := hanswered n hdue
    rw [(hlaw fuel).2, lt_looks_iff]
    refine ⟨hn, fun i hi => ?_⟩
    rcases Nat.lt_or_eq_of_le (Nat.le_of_lt_succ hi) with hlt | rfl
    · exact htaken n hdue i hlt
    · rw [Nat.zero_add]
      exact ⟨⟨_, look_of_not_ready hstatus hready⟩, hearly⟩

/-- **The loops wait an instance out exactly when no probe that is due is rejected.** -/
theorem tolerant_iff (hlaw : PollsProbes good tooLate probe late run)
    (hkind : ∀ status, (tooLate status).kind = kind) (hown : kind ≠ .platform) :
    Tolerant good tooLate kind probe late run ↔
      ∀ n, Due good probe late n → ∀ message, probe n ≠ .error message := by
  classical
  refine ⟨fun htolerant => ?_, tolerant_of_answered hlaw hkind⟩
  by_contra hnot
  have hex : ∃ n, Due good probe late n ∧ ∃ message, probe n = .error message := by
    by_contra hnone
    exact hnot fun n hdue message hprobe => hnone ⟨n, hdue, message, hprobe⟩
  -- the first rejected probe ends the loop
  obtain ⟨n, ⟨hdue, message, hprobe⟩, hleast⟩ :=
    (⟨Nat.find hex, Nat.find_spec hex, fun m hm => Nat.find_min hex hm⟩ :
      ∃ n, (Due good probe late n ∧ ∃ message, probe n = .error message) ∧
        ∀ m < n, ¬(Due good probe late m ∧ ∃ message, probe m = .error message))
  have htaken : Taken (fun i => probeLook good tooLate (probe i)) late 0 n := by
    refine hdue.taken fun i hi => answered_of_no_rejection fun text hi' => ?_
    exact hleast i hi ⟨hdue.mono (Nat.le_of_lt hi), text, hi'⟩
  have hlook : probeLook good tooLate (probe n) = .ends (.threw (thrown message)) := by
    apply look_of_settled
    rw [hprobe]
    rfl
  have hready : ¬Ready good (probe n) := by
    rintro ⟨status, hstatus, -⟩
    rw [hprobe] at hstatus
    cases hstatus
  have hlast : Last (fun i => probeLook good tooLate (probe i)) late n
      (.threw (thrown message)) := .inl hlook
  by_cases hlate : late n
  · obtain ⟨e, he, hekind, -⟩ := htolerant.timesOut n hdue hready hlate (n + 1) (Nat.lt_succ_self n)
    have hthrew : (run (n + 1)).2 = .threw (thrown message) := by
      rw [(hlaw (n + 1)).1, getD_poll_eq_iff (by simp)]
      exact ⟨n, Nat.lt_succ_self n, htaken, hlast⟩
    rw [hthrew] at he
    cases he
    exact hown hekind.symm
  · have hprobes := htolerant.goesOn n hdue hready hlate (n + 2) (Nat.lt_succ_self _)
    rw [(hlaw (n + 2)).2, lt_looks_iff] at hprobes
    have hgoes := hprobes.2 n (Nat.lt_succ_self n)
    rw [Nat.zero_add] at hgoes
    exact hlast.not_goesOn hgoes

end Probes

/-! ### The two loops -/

/-- The probes of the setup API are answered with `probe` in turn. -/
def statusProbes (probe : ℕ → Except String ℕ) : (c : Call) → ℕ → c.Reply
  | .checkSetupStatus _ _, i => probe i
  | c, _ => offline c

/-- The requests are answered with `reply` in turn. -/
def healthProbes (reply : ℕ → Except String Response) : (c : Call) → ℕ → c.Reply
  | .fetch _, i => reply i
  | c, _ => offline c

/-- The HTTP status of a reply. -/
def statusOf (reply : Except String Response) : Except String ℕ := reply.map Response.status

/-- `waitForSetupReady` asks for 200. -/
def isReady (status : ℕ) : Bool := status == 200

/-- `waitForHealthy` asks for any status of success (`response.ok`). -/
def isHealthy (status : ℕ) : Bool := 200 ≤ status && status < 300

section Loops

variable {url instanceBaseUrl : String} {auth : SetupAuth}
  {pollSeconds timeoutMinutes timeoutSeconds : ℕ} {deadline : ℤ} {clock : ℕ → ℤ}
  {probe : ℕ → Except String ℕ} {reply : ℕ → Except String Response} {t : Trace}
  {o : Outcome Failure Unit} {fuel i : ℕ} {s : ℕ × ℕ}

/-- What a probe of the setup API says to the loop. -/
abbrev readyLook (url : String) (timeoutMinutes : ℕ) (probe : ℕ → Except String ℕ) (i : ℕ) :
    Look (Outcome Failure Unit) :=
  probeLook isReady (setupNotReady url timeoutMinutes) (probe i)

/-- What a health check says to the loop. -/
abbrev healthLook (instanceBaseUrl : String) (timeoutSeconds : ℕ)
    (reply : ℕ → Except String Response) (i : ℕ) : Look (Outcome Failure Unit) :=
  probeLook isHealthy (unhealthy instanceBaseUrl timeoutSeconds) (statusOf (reply i))

theorem readyRounds_look : RoundsLook (readyLook url timeoutMinutes probe) (Late clock deadline)
    (scripted (statusProbes probe) clock)
    (readyRounds url auth pollSeconds timeoutMinutes deadline) where
  zero := rfl
  succ := by
    intro fuel i t o s h hr
    rcases Prog.exec_ask_bind.mp h with
      ⟨answer, t', status, rfl, hread, hnext⟩ | ⟨answer, e, rfl, hread, rfl⟩
    · obtain ⟨m, ⟨hanswer, rfl⟩, hr'⟩ := hr
      have hprobe : probe i = .ok status := by
        rw [← settled_eq_ok.mp hread]
        exact hanswer.symm
      by_cases h200 : status = 200
      · rw [if_pos h200] at hnext
        obtain ⟨rfl, rfl⟩ := hnext
        refine .inl ⟨last_returned_iff_ready.mpr ?_, rfl⟩
        exact ⟨status, hprobe, beq_iff_eq.mpr h200⟩
      · rw [if_neg h200] at hnext
        have hwaits : readyLook url timeoutMinutes probe i =
            .waits (.threw (setupNotReady url timeoutMinutes status)) := by
          apply look_of_not_ready hprobe
          rintro ⟨status', hstatus', hgood⟩
          rw [hprobe] at hstatus'
          cases hstatus'
          exact h200 (beq_iff_eq.mp hgood)
        obtain ⟨⟨⟩, t₁, rfl, hslept⟩ := Prog.exec_perform_bind.mp hnext
        obtain ⟨time, t₂, rfl, hclock⟩ := Prog.exec_perform_bind.mp hslept
        obtain ⟨m₁, ⟨-, rfl⟩, m₂, ⟨htime, rfl⟩, hr''⟩ := hr'
        have hreading : time = clock (i + 1) := htime
        subst hreading
        by_cases hearly : clock (i + 1) < deadline
        · rw [if_pos hearly] at hclock
          exact .inr ⟨⟨⟨_, hwaits⟩, not_le.mpr hearly⟩, t₂, hclock, hr'', rfl⟩
        · rw [if_neg hearly] at hclock
          obtain ⟨rfl, rfl⟩ := hclock
          exact .inl ⟨.inr ⟨hwaits, not_lt.mp hearly⟩, rfl⟩
    · obtain ⟨m, ⟨hanswer, rfl⟩, -⟩ := hr
      have hprobe : answer = probe i := hanswer
      subst hprobe
      exact .inl ⟨.inl (look_of_settled hread), rfl⟩

theorem healthRounds_look : RoundsLook (healthLook instanceBaseUrl timeoutSeconds reply)
    (Late clock deadline) (scripted (healthProbes reply) clock)
    (healthRounds instanceBaseUrl pollSeconds timeoutSeconds deadline) where
  zero := rfl
  succ := by
    intro fuel i t o s h hr
    rcases Prog.exec_ask_bind.mp h with
      ⟨answer, t', response, rfl, hread, hnext⟩ | ⟨answer, e, rfl, hread, rfl⟩
    · obtain ⟨m, ⟨hanswer, rfl⟩, hr'⟩ := hr
      have hreply : reply i = .ok response := by
        rw [← settled_eq_ok.mp hread]
        exact hanswer.symm
      have hstatus : statusOf (reply i) = .ok response.status := by
        rw [hreply]
        rfl
      by_cases hok : response.ok = true
      · rw [if_pos hok] at hnext
        obtain ⟨rfl, rfl⟩ := hnext
        refine .inl ⟨.inl ?_, rfl⟩
        show probeLook isHealthy _ (statusOf (reply i)) = _
        rw [hstatus]
        exact if_pos hok
      · rw [if_neg hok] at hnext
        have hwaits : healthLook instanceBaseUrl timeoutSeconds reply i =
            .waits (.threw (unhealthy instanceBaseUrl timeoutSeconds response.status)) := by
          apply look_of_not_ready hstatus
          rintro ⟨status', hstatus', hgood⟩
          rw [hstatus] at hstatus'
          cases hstatus'
          exact hok hgood
        obtain ⟨time, t₁, rfl, hclock⟩ := Prog.exec_perform_bind.mp hnext
        obtain ⟨m₁, ⟨htime, rfl⟩, hr''⟩ := hr'
        have hreading : time = clock (i + 1) := htime
        subst hreading
        by_cases hlate : deadline ≤ clock (i + 1)
        · rw [if_pos hlate] at hclock
          obtain ⟨rfl, rfl⟩ := hclock
          exact .inl ⟨.inr ⟨hwaits, hlate⟩, rfl⟩
        · rw [if_neg hlate] at hclock
          obtain ⟨⟨⟩, t₂, rfl, hrest⟩ := Prog.exec_perform_bind.mp hclock
          obtain ⟨m₂, ⟨-, rfl⟩, hr₂⟩ := hr''
          exact .inr ⟨⟨⟨_, hwaits⟩, hlate⟩, t₂, hrest, hr₂, rfl⟩
    · obtain ⟨m, ⟨hanswer, rfl⟩, -⟩ := hr
      have hreply : answer = reply i := hanswer
      subst hreply
      have hread' : settled (statusOf (reply i)) = .error e := by
        cases hreply : reply i with
        | ok response =>
            rw [hreply] at hread
            cases hread
        | error message =>
            rw [hreply] at hread
            cases hread
            rfl
      exact .inl ⟨.inl (look_of_settled hread'), rfl⟩

end Loops

/-! ### Runs on given probes -/

/-- A run of `waitForSetupReady` on given probes and readings of the clock. -/
def readyRun (url : String) (auth : SetupAuth) (pollSeconds timeoutMinutes : ℕ)
    (probe : ℕ → Except String ℕ) (clock : ℕ → ℤ) (fuel : ℕ) : Trace × Outcome Failure Unit :=
  (waitForSetupReady fuel url auth pollSeconds timeoutMinutes).play
    (scripted (statusProbes probe) clock) (0, 0)

/-- A run of `waitForHealthy` on given replies and readings of the clock. -/
def healthRun (instanceBaseUrl : String) (pollSeconds timeoutSeconds : Option ℕ)
    (reply : ℕ → Except String Response) (clock : ℕ → ℤ) (fuel : ℕ) :
    Trace × Outcome Failure Unit :=
  (waitForHealthy fuel instanceBaseUrl pollSeconds timeoutSeconds).play
    (scripted (healthProbes reply) clock) (0, 0)

theorem readyRun_polls (url : String) (auth : SetupAuth) (pollSeconds timeoutMinutes : ℕ)
    (probe : ℕ → Except String ℕ) (clock : ℕ → ℤ) :
    PollsProbes isReady (setupNotReady url timeoutMinutes) probe
      (Late clock (pollDeadline timeoutMinutes clock))
      (readyRun url auth pollSeconds timeoutMinutes probe clock) := by
  intro fuel
  obtain ⟨t, o, s, hplay, hexec, hrun⟩ := play_now (fun time =>
    readyRounds url auth pollSeconds timeoutMinutes (time + timeoutMinutes * 60000) fuel)
    (statusProbes probe) clock
  rw [show readyRun url auth pollSeconds timeoutMinutes probe clock fuel = _ from hplay]
  obtain ⟨ho, hcount⟩ := readyRounds_look.run hexec hrun
  exact ⟨ho, hcount⟩

/-- The deadline of a health check, in seconds from the first reading. -/
def healthDeadline (timeoutSeconds : Option ℕ) (clock : ℕ → ℤ) : ℤ :=
  clock 0 + timeoutSeconds.getD 60 * 1000

theorem healthRun_polls (instanceBaseUrl : String) (pollSeconds timeoutSeconds : Option ℕ)
    (reply : ℕ → Except String Response) (clock : ℕ → ℤ) :
    PollsProbes isHealthy (unhealthy instanceBaseUrl (timeoutSeconds.getD 60))
      (fun i => statusOf (reply i)) (Late clock (healthDeadline timeoutSeconds clock))
      (healthRun instanceBaseUrl pollSeconds timeoutSeconds reply clock) := by
  intro fuel
  obtain ⟨t, o, s, hplay, hexec, hrun⟩ := play_now (fun time =>
    healthRounds instanceBaseUrl (pollSeconds.getD 2) (timeoutSeconds.getD 60)
      (time + timeoutSeconds.getD 60 * 1000) fuel)
    (healthProbes reply) clock
  rw [show healthRun instanceBaseUrl pollSeconds timeoutSeconds reply clock fuel = _ from hplay]
  obtain ⟨ho, hcount⟩ := healthRounds_look.run hexec hrun
  exact ⟨ho, hcount⟩

/-- **Both polls wait an instance out exactly when no probe that is due is
rejected**: a connection that fails ends them, with the error of the connection. -/
theorem readiness_polls_tolerant_iff (clock : ℕ → ℤ) (instanceBaseUrl : String)
    (healthPollSeconds timeoutSeconds : Option ℕ) (reply : ℕ → Except String Response)
    (url : String) (auth : SetupAuth) (pollSeconds timeoutMinutes : ℕ)
    (probe : ℕ → Except String ℕ) :
    (Tolerant isHealthy (unhealthy instanceBaseUrl (timeoutSeconds.getD 60)) .unhealthy
        (fun i => statusOf (reply i)) (Late clock (healthDeadline timeoutSeconds clock))
        (healthRun instanceBaseUrl healthPollSeconds timeoutSeconds reply clock) ↔
      ∀ n, Due isHealthy (fun i => statusOf (reply i))
          (Late clock (healthDeadline timeoutSeconds clock)) n →
        ∀ message, reply n ≠ .error message) ∧
    (Tolerant isReady (setupNotReady url timeoutMinutes) .setupNotReady probe
        (Late clock (pollDeadline timeoutMinutes clock))
        (readyRun url auth pollSeconds timeoutMinutes probe clock) ↔
      ∀ n, Due isReady probe (Late clock (pollDeadline timeoutMinutes clock)) n →
        ∀ message, probe n ≠ .error message) := by
  constructor
  · have hrejected : ∀ n message,
        statusOf (reply n) = .error message ↔ reply n = .error message := by
      intro n message
      cases reply n with
      | ok response => simp [statusOf, Except.map]
      | error text => simp [statusOf, Except.map]
    rw [tolerant_iff (healthRun_polls instanceBaseUrl healthPollSeconds timeoutSeconds reply clock)
      (fun _ => rfl) (by decide)]
    simp only [ne_eq, hrejected]
  · exact tolerant_iff (readyRun_polls url auth pollSeconds timeoutMinutes probe clock)
      (fun _ => rfl) (by decide)

/-! ### An instance that restarts -/

/-- The first probe finds no connection, the next one an instance that is up. -/
def restarting {α : Type} (up : α) (i : ℕ) : Except String α :=
  if i = 0 then .error "fetch failed" else .ok up

/-- A response of an instance that is up. -/
def upResponse : Response where
  status := 200
  json := .error "not JSON"

theorem restarting_due (good : ℕ → Bool) (deadline : ℤ) (h : 0 < deadline) :
    Due good (fun i => restarting 200 i) (Late (fun _ => 0) deadline) 1 := by
  intro i hi
  obtain rfl : i = 0 := Nat.lt_one_iff.mp hi
  refine ⟨?_, not_le.mpr h⟩
  rintro ⟨status, hstatus, -⟩
  cases hstatus

/-- **A restart is not waited out.**  The second probe is answered 200 well before the
deadline, and neither poll makes it. -/
theorem restarting_not_tolerated :
    ¬Tolerant isHealthy (unhealthy "https://client.example" 60) .unhealthy
        (fun i => statusOf (restarting upResponse i))
        (Late (fun _ => 0) (healthDeadline none fun _ => 0))
        (healthRun "https://client.example" none none (restarting upResponse) fun _ => 0) ∧
      ¬Tolerant isReady (setupNotReady "https://client.example/setup/api/status" 15)
        .setupNotReady (restarting 200) (Late (fun _ => 0) (pollDeadline 15 fun _ => 0))
        (readyRun "https://client.example/setup/api/status" ⟨"admin", .json (.str "pw")⟩ 5 15
          (restarting 200) fun _ => 0) := by
  constructor
  · intro h
    have hprobes : (fun i => statusOf (restarting upResponse i)) = fun i => restarting 200 i := by
      funext i
      cases i <;> rfl
    rw [hprobes] at h
    have hdue := restarting_due isHealthy (healthDeadline none fun _ => 0) (by decide)
    have hreturns := (h.returns 2).mpr ⟨1, Nat.one_lt_two, hdue, 200, rfl, rfl⟩
    have hthrew : (healthRun "https://client.example" none none (restarting upResponse)
      (fun _ => 0) 2).2 = .threw (thrown "fetch failed") := rfl
    rw [hthrew] at hreturns
    cases hreturns
  · intro h
    have hdue := restarting_due isReady (pollDeadline 15 fun _ => 0) (by decide)
    have hreturns := (h.returns 2).mpr ⟨1, Nat.one_lt_two, hdue, 200, rfl, rfl⟩
    have hthrew : (readyRun "https://client.example/setup/api/status" ⟨"admin", .json (.str "pw")⟩
      5 15 (restarting 200) (fun _ => 0) 2).2 = .threw (thrown "fetch failed") := rfl
    rw [hthrew] at hreturns
    cases hreturns

end Setup
