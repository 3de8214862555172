import Midscale.Daemon.PunchProtocol

/-!
# The report of a punch

`initiate_punch` and `_execute_punch` of the hole puncher: rounds over the pairs with a delay in
between, one report at the end, the report of a failure once more if a callback raises, and the
table of the active sessions, which the session leaves in any case.

* `AttemptCourse.exists_attempt_eq` : what an attempt on the protocol comes to is one of four
  outcomes.
* `executeRounds_ends` : the rounds are one walk over the repeated pairs, up to the first success.
* `executePunch_spec` : **a punch that is not stopped, and whose callbacks raise nothing, makes its
  attempts in order, ends with the first success or fails, and is reported once.**
* `get?_executePunch` : a session has left the table, however its punch ends.
* `initiatePunch_reported` : one that is initiated is in the table when its execution begins.
* `executePunch_tried` : the pairs of the attempts are those of the plain loop of the hole puncher.
-/

namespace Midscale

namespace Daemon

/-- The states of a punch. -/
inductive PunchState where
  | pending | disabled | punching | connected | failed
  deriving DecidableEq

/-- The callbacks of a punch. -/
inductive PunchCallback where
  | onSuccess | onFailure | onRelayFallback
  deriving DecidableEq

/-- `PunchSession`, with the callbacks that are given. -/
structure PunchSession where
  sessionId : String
  targetDeviceId : String
  candidates : List TypedPair := []
  attempts : List PunchAttempt := []
  state : PunchState := .pending
  resultEndpoint : Option String := none
  resultPort : Option ℤ := none
  resultLatencyMs : Option ℕ := none
  given : PunchCallback → Bool := fun _ => false

/-- `_active_sessions`, with references to the sessions. -/
abbrev ActiveSessions := Dict String ℕ

/-! ### Attempts -/

/-- How an attempt ends. -/
inductive AttemptOutcome where
  | success
  | timeout
  | noTransport
  | raised (error : String)

/-- The course of an attempt; times in microseconds. -/
structure AttemptCourse where
  outcome : AttemptOutcome
  startedAt : ℕ := 0
  completedAt : ℕ := 0

/-- What `_attempt_pair` returns. -/
def AttemptCourse.attempt (a : AttemptCourse) (pair : TypedPair) : PunchAttempt :=
  let attempt : PunchAttempt := { pair, startedAt := a.startedAt }
  match a.outcome with
  | .noTransport => { attempt with error := some "no transport" }
  | .raised error => { attempt with completedAt := some a.completedAt, error := some error }
  | .timeout => { attempt with completedAt := some a.completedAt, error := some "timeout" }
  | .success =>
    { attempt with
      completedAt := some a.completedAt
      success := true
      latencyMs := some ((a.completedAt - a.startedAt) / 1000) }

@[simp] theorem AttemptCourse.pair_attempt (a : AttemptCourse) (pair : TypedPair) :
    (a.attempt pair).pair = pair := by
  cases h : a.outcome <;> simp [attempt, h]

/-- The outcomes are those of an attempt on the protocol. -/
theorem AttemptCourse.exists_attempt_eq (r : AttemptRun) (pair : TypedPair) (w : PunchProtocol)
    (events : List PunchEvent) :
    ∃ outcome, (attemptPair r pair w events).1 =
      (AttemptCourse.mk outcome r.startedAt r.completedAt).attempt pair := by
  cases hsetup : r.setup with
  | noTransport => exact ⟨.noTransport, by simp [attemptPair, hsetup, attempt]⟩
  | raised error => exact ⟨.raised error, by simp [attemptPair, hsetup, attempt]⟩
  | sent =>
    cases hresult : (run protocolStep (w.expect pair.key) events).results w.created with
    | some _ => exact ⟨.success, by simp [attemptPair, hsetup, hresult, attempt]⟩
    | none => exact ⟨.timeout, by simp [attemptPair, hsetup, hresult, attempt]⟩

/-! ### Execution -/

/-- What happens during a punch: whether the puncher runs at the `n`-th check, the course of the
`n`-th attempt, and whether the `n`-th call of a callback raises. -/
structure PunchCourse where
  running : ℕ → Bool
  attempts : ℕ → AttemptCourse
  raises : ℕ → Bool

/-- A punch that is executed: its session, how often it has checked whether the puncher runs, how
often it has slept, and the callbacks it has called. -/
structure PunchExecution where
  session : PunchSession
  checks : ℕ := 0
  sleeps : ℕ := 0
  calls : List PunchCallback := []

/-- How the loops are left early. -/
inductive EarlyEnd where
  | returned | raised

/-- The session with more attempts. -/
def PunchSession.append (s : PunchSession) (attempts : List PunchAttempt) : PunchSession :=
  { s with attempts := s.attempts ++ attempts }

/-- The session after a success. -/
def PunchSession.connect (s : PunchSession) (pair : TypedPair) (attempt : PunchAttempt) :
    PunchSession :=
  { s with
    state := .connected
    resultEndpoint := some pair.remoteEndpoint
    resultPort := some pair.remotePort
    resultLatencyMs := attempt.latencyMs }

/-- The session after a failure. -/
def PunchSession.fail (s : PunchSession) : PunchSession := { s with state := .failed }

namespace PunchExecution

/-- The next check whether the puncher runs. -/
def checked (x : PunchExecution) : PunchExecution := { x with checks := x.checks + 1 }

/-- An attempt is made. -/
def attempted (x : PunchExecution) (attempt : PunchAttempt) : PunchExecution :=
  { x with session := x.session.append [attempt] }

/-- The delay after a round, if others are left. -/
def pause (rounds : ℕ) (x : PunchExecution) : PunchExecution :=
  if 0 < rounds then { x with sleeps := x.sleeps + 1 } else x

/-- A callback is called if it is given; the flag tells whether it raises. -/
def callBack (c : PunchCourse) (callback : PunchCallback) (x : PunchExecution) :
    PunchExecution × Bool :=
  if x.session.given callback then
    ({ x with calls := x.calls ++ [callback] }, c.raises x.calls.length)
  else (x, false)

/-- The session is connected and the success is reported; the flag tells whether the callback
raises. -/
def reportSuccess (c : PunchCourse) (pair : TypedPair) (attempt : PunchAttempt)
    (x : PunchExecution) : PunchExecution × Bool :=
  callBack c .onSuccess { x with session := x.session.connect pair attempt }

/-- The session fails and the failure is reported; the flag tells whether a callback raises. -/
def reportFailure (c : PunchCourse) (x : PunchExecution) : PunchExecution × Bool :=
  match callBack c .onFailure { x with session := x.session.fail } with
  | (x, true) => (x, true)
  | (x, false) => callBack c .onRelayFallback x

end PunchExecution

/-- One round over the pairs. -/
def executeRound (c : PunchCourse) :
    List TypedPair → PunchExecution → PunchExecution × Option EarlyEnd
  | [], x => (x, none)
  | pair :: pairs, x =>
    if c.running x.checks then
      let attempt := (c.attempts x.session.attempts.length).attempt pair
      let x := x.checked.attempted attempt
      if attempt.success then
        let (x, raised) := x.reportSuccess c pair attempt
        (x, some (if raised then .raised else .returned))
      else executeRound c pairs x
    else (x.checked, some .returned)

/-- The rounds that are left, with a delay after each but the last. -/
def executeRounds (c : PunchCourse) (pairs : List TypedPair) :
    ℕ → PunchExecution → PunchExecution × Option EarlyEnd
  | 0, x => (x, none)
  | rounds + 1, x =>
    if c.running x.checks then
      match executeRound c pairs x.checked with
      | (x, none) => executeRounds c pairs rounds (x.pause rounds)
      | (x, some ended) => (x, some ended)
    else (x.checked, some .returned)

/-- What follows the rounds: the report of a failure if they are all over, and again if a callback
has raised.  What is raised then leaves the task. -/
def PunchExecution.finish (c : PunchCourse) : PunchExecution × Option EarlyEnd → PunchExecution
  | (x, none) =>
    match x.reportFailure c with
    | (x, true) => (x.reportFailure c).1
    | (x, false) => x
  | (x, some .returned) => x
  | (x, some .raised) => (x.reportFailure c).1

/-- `_execute_punch`, with the table as the end of the punch finds it. -/
def PunchSession.executePunch (p : HolePuncher) (c : PunchCourse) (s : PunchSession)
    (active : ActiveSessions) : PunchExecution × ActiveSessions :=
  (.finish c (executeRounds c s.candidates p.retries.toNat { session := s }),
    active.erase s.sessionId)

/-- The session of a punch that starts. -/
def PunchSession.punching (sessionId targetDeviceId : String) (pairs : List TypedPair)
    (given : PunchCallback → Bool) : PunchSession where
  sessionId := sessionId
  targetDeviceId := targetDeviceId
  candidates := pairs
  state := .punching
  given := given

/-- `initiate_punch` with the pairs that are built; the new session has the reference `id`.  A punch
is executed exactly if the puncher is enabled. -/
def HolePuncher.initiatePunch (p : HolePuncher) (sessionId targetDeviceId : String)
    (pairs : List TypedPair) (given : PunchCallback → Bool) (id : ℕ) (active : ActiveSessions) :
    PunchSession × ActiveSessions :=
  if p.enabled then
    (.punching sessionId targetDeviceId pairs given, active.set sessionId id)
  else ({ sessionId, targetDeviceId, state := .disabled }, active)

/-! ### The walk over the pairs -/

section

variable {c : PunchCourse} {s s' : PunchSession} {calls : List PunchCallback}
  {pairs ps qs : List TypedPair}

/-- The attempts at pairs, from the `n`-th attempt on. -/
def attemptsFrom (c : PunchCourse) (n : ℕ) (pairs : List TypedPair) : List PunchAttempt :=
  (pairs.zipIdx n).map fun e => (c.attempts e.2).attempt e.1

@[simp] theorem attemptsFrom_nil (n : ℕ) : attemptsFrom c n [] = [] := rfl

theorem attemptsFrom_append (n : ℕ) :
    attemptsFrom c n (ps ++ qs) = attemptsFrom c n ps ++ attemptsFrom c (n + ps.length) qs := by
  simp [attemptsFrom, List.zipIdx_append]

@[simp] theorem length_attemptsFrom (n : ℕ) : (attemptsFrom c n pairs).length = pairs.length := by
  simp [attemptsFrom]

@[simp] theorem map_pair_attemptsFrom (n : ℕ) :
    (attemptsFrom c n pairs).map (·.pair) = pairs := by
  simp [attemptsFrom, Function.comp_def]

theorem PunchSession.append_append (s : PunchSession) (as bs : List PunchAttempt) :
    (s.append as).append bs = s.append (as ++ bs) := by
  simp [append]

@[simp] theorem PunchExecution.session_pause (rounds : ℕ) (x : PunchExecution) :
    (x.pause rounds).session = x.session := by
  unfold pause
  split_ifs <;> rfl

@[simp] theorem PunchExecution.calls_pause (rounds : ℕ) (x : PunchExecution) :
    (x.pause rounds).calls = x.calls := by
  unfold pause
  split_ifs <;> rfl

/-- How a walk over pairs ends that starts from a session and calls of callbacks, if it is not
stopped and no callback raises: without a success, or with the first. -/
inductive Ends (c : PunchCourse) (s : PunchSession) (calls : List PunchCallback) :
    List TypedPair → PunchExecution × Option EarlyEnd → Prop
  | exhausted {pairs : List TypedPair} {y : PunchExecution}
      (hfails : ∀ a ∈ attemptsFrom c s.attempts.length pairs, a.success = false)
      (hsession : y.session = s.append (attemptsFrom c s.attempts.length pairs))
      (hcalls : y.calls = calls) : Ends c s calls pairs (y, none)
  | connected {front back : List TypedPair} {pair : TypedPair} {attempt : PunchAttempt}
      {y : PunchExecution}
      (hfails : ∀ a ∈ attemptsFrom c s.attempts.length front, a.success = false)
      (hattempt : attempt = (c.attempts (s.attempts.length + front.length)).attempt pair)
      (hsuccess : attempt.success = true)
      (hsession : y.session =
        (s.append (attemptsFrom c s.attempts.length (front ++ [pair]))).connect pair attempt)
      (hcalls : y.calls = calls ++ [.onSuccess].filter s.given) :
      Ends c s calls (front ++ pair :: back) (y, some .returned)

/-- A walk goes on where another one had no success. -/
theorem Ends.trans {r : PunchExecution × Option EarlyEnd}
    (hfails : ∀ a ∈ attemptsFrom c s.attempts.length ps, a.success = false)
    (hs' : s' = s.append (attemptsFrom c s.attempts.length ps)) (h : Ends c s' calls qs r) :
    Ends c s calls (ps ++ qs) r := by
  subst hs'
  have hlength : (s.append (attemptsFrom c s.attempts.length ps)).attempts.length =
      s.attempts.length + ps.length := by
    simp [PunchSession.append]
  cases h with
  | exhausted hfails' hsession hcalls =>
    rw [hlength] at hfails' hsession
    refine .exhausted ?_ ?_ hcalls
    · rw [attemptsFrom_append]
      exact List.forall_mem_append.2 ⟨hfails, hfails'⟩
    · rw [hsession, PunchSession.append_append, attemptsFrom_append]
  | @connected front back pair attempt y hfails' hattempt hsuccess hsession hcalls =>
    rw [hlength] at hfails' hattempt hsession
    rw [← List.append_assoc]
    refine .connected ?_ ?_ hsuccess ?_ hcalls
    · rw [attemptsFrom_append]
      exact List.forall_mem_append.2 ⟨hfails, hfails'⟩
    · rw [hattempt, List.length_append, Nat.add_assoc]
    · rw [hsession, PunchSession.append_append, List.append_assoc, ← attemptsFrom_append]

theorem Ends.append_of_returned {y : PunchExecution} (h : Ends c s calls ps (y, some .returned))
    (qs : List TypedPair) : Ends c s calls (ps ++ qs) (y, some .returned) := by
  cases h with
  | connected hfails hattempt hsuccess hsession hcalls =>
    rw [List.append_assoc, List.cons_append]
    exact .connected hfails hattempt hsuccess hsession hcalls

theorem callBack_of_quiet (hraises : ∀ n, c.raises n = false) (callback : PunchCallback)
    (x : PunchExecution) : PunchExecution.callBack c callback x =
      ({ x with calls := x.calls ++ [callback].filter x.session.given }, false) := by
  unfold PunchExecution.callBack
  split_ifs with hgiven
  · simp [hgiven, hraises]
  · simp [hgiven]

theorem reportFailure_of_quiet (hraises : ∀ n, c.raises n = false) (x : PunchExecution) :
    x.reportFailure c =
      ({ x with
          session := x.session.fail
          calls := x.calls ++ [.onFailure, .onRelayFallback].filter x.session.given }, false) := by
  simp only [PunchExecution.reportFailure, callBack_of_quiet hraises, PunchSession.fail,
    List.append_assoc, ← List.filter_append, List.singleton_append]

theorem executeRound_of_success {pair : TypedPair} {x : PunchExecution} {attempt : PunchAttempt}
    (hrunning : c.running x.checks = true)
    (hattempt : attempt = (c.attempts x.session.attempts.length).attempt pair)
    (hsuccess : attempt.success = true) :
    executeRound c (pair :: pairs) x =
      (((x.checked.attempted attempt).reportSuccess c pair attempt).1,
        some (if ((x.checked.attempted attempt).reportSuccess c pair attempt).2 then .raised
          else .returned)) := by
  subst hattempt
  rw [executeRound, if_pos hrunning]
  exact if_pos hsuccess

theorem executeRound_of_failure {pair : TypedPair} {x : PunchExecution} {attempt : PunchAttempt}
    (hrunning : c.running x.checks = true)
    (hattempt : attempt = (c.attempts x.session.attempts.length).attempt pair)
    (hfails : attempt.success = false) :
    executeRound c (pair :: pairs) x = executeRound c pairs (x.checked.attempted attempt) := by
  subst hattempt
  rw [executeRound, if_pos hrunning]
  exact if_neg (Bool.eq_false_iff.1 hfails)

/-- **One round**: a walk over the pairs. -/
theorem executeRound_ends (hrunning : ∀ n, c.running n = true)
    (hraises : ∀ n, c.raises n = false) (pairs : List TypedPair) (x : PunchExecution) :
    Ends c x.session x.calls pairs (executeRound c pairs x) := by
  induction pairs generalizing x with
  | nil => exact .exhausted (by simp) (by simp [PunchSession.append]) rfl
  | cons pair pairs ih =>
    cases hsuccess : ((c.attempts x.session.attempts.length).attempt pair).success with
    | true =>
      rw [executeRound_of_success (hrunning _) rfl hsuccess, PunchExecution.reportSuccess,
        callBack_of_quiet hraises]
      have hfails : ∀ a ∈ attemptsFrom c x.session.attempts.length [], a.success = false := by simp
      exact .connected hfails rfl hsuccess rfl rfl
    | false =>
      rw [executeRound_of_failure (hrunning _) rfl hsuccess]
      have hfails : ∀ a ∈ attemptsFrom c x.session.attempts.length [pair], a.success = false :=
        List.forall_mem_singleton.2 hsuccess
      have hnext := ih (x.checked.attempted ((c.attempts x.session.attempts.length).attempt pair))
      exact Ends.trans hfails rfl hnext

/-- **The rounds**: one walk over the repeated pairs. -/
theorem executeRounds_ends (hrunning : ∀ n, c.running n = true)
    (hraises : ∀ n, c.raises n = false) (pairs : List TypedPair) (rounds : ℕ)
    (x : PunchExecution) :
    Ends c x.session x.calls (List.replicate rounds pairs).flatten
      (executeRounds c pairs rounds x) := by
  induction rounds generalizing x with
  | zero => exact .exhausted (by simp) (by simp [PunchSession.append]) rfl
  | succ rounds ih =>
    rw [executeRounds, if_pos (hrunning _), List.replicate_succ, List.flatten_cons]
    have hround : Ends c x.session x.calls pairs (executeRound c pairs x.checked) :=
      executeRound_ends hrunning hraises pairs x.checked
    cases hresult : executeRound c pairs x.checked with
    | mk y ended =>
      rw [hresult] at hround
      cases hround with
      | exhausted hfails hsession hcalls =>
        have hnext := ih (y.pause rounds)
        rw [y.calls_pause, hcalls] at hnext
        exact hnext.trans hfails ((y.session_pause rounds).trans hsession)
      | connected hfails hattempt hsuccess hsession hcalls =>
        exact (Ends.connected hfails hattempt hsuccess hsession hcalls).append_of_returned _

end

/-! ### The report -/

/-- **The report of a punch** that has its rounds over the pairs. -/
structure PunchReported (c : PunchCourse) (retries : ℕ) (pairs : List TypedPair)
    (given : PunchCallback → Bool) (x : PunchExecution) : Prop where
  length_le : x.session.attempts.length ≤ retries * pairs.length
  /-- The attempts are made in rounds over the pairs, in order. -/
  inOrder : x.session.attempts.map (·.pair) <+: (List.replicate retries pairs).flatten
  outcomes : ∀ i, ∀ h : i < x.session.attempts.length,
    x.session.attempts[i] = (c.attempts i).attempt x.session.attempts[i].pair
  /-- No attempt but the last is a success. -/
  stops : ∀ a ∈ x.session.attempts.dropLast, a.success = false
  connected : ∀ a ∈ x.session.attempts, a.success = true →
    x.session.state = .connected ∧ x.session.resultEndpoint = some a.pair.remoteEndpoint ∧
      x.session.resultPort = some a.pair.remotePort ∧ x.session.resultLatencyMs = a.latencyMs ∧
      x.calls = [.onSuccess].filter given
  failed : (∀ a ∈ x.session.attempts, a.success = false) →
    x.session.attempts.length = retries * pairs.length ∧ x.session.state = .failed ∧
      x.session.resultEndpoint = none ∧ x.session.resultPort = none ∧
      x.calls = [.onFailure, .onRelayFallback].filter given

section

variable {c : PunchCourse} {p : HolePuncher}

theorem getElem_attemptsFrom {n i : ℕ} {pairs : List TypedPair}
    (h : i < (attemptsFrom c n pairs).length) : (attemptsFrom c n pairs)[i] =
      (c.attempts (n + i)).attempt (attemptsFrom c n pairs)[i].pair := by
  simp [attemptsFrom]

variable {retries : ℕ} {pairs : List TypedPair} {given : PunchCallback → Bool}
  {x : PunchExecution}

theorem length_le_of_prefix {tried : List TypedPair}
    (h : tried <+: (List.replicate retries pairs).flatten) :
    tried.length ≤ retries * pairs.length := by
  have hlength := h.length_le
  rwa [List.length_flatten, List.map_replicate, List.sum_replicate_nat] at hlength

theorem PunchReported.of_exhausted
    (hattempts : x.session.attempts = attemptsFrom c 0 (List.replicate retries pairs).flatten)
    (hfails : ∀ a ∈ attemptsFrom c 0 (List.replicate retries pairs).flatten, a.success = false)
    (hstate : x.session.state = .failed) (hendpoint : x.session.resultEndpoint = none)
    (hport : x.session.resultPort = none)
    (hcalls : x.calls = [.onFailure, .onRelayFallback].filter given) :
    PunchReported c retries pairs given x where
  length_le := by
    rw [hattempts, length_attemptsFrom]
    exact length_le_of_prefix (List.prefix_refl _)
  inOrder := by
    rw [hattempts]
    exact (map_pair_attemptsFrom 0).symm ▸ List.prefix_refl _
  outcomes i h := by
    simp only [hattempts] at h ⊢
    exact (getElem_attemptsFrom h).trans (by rw [Nat.zero_add])
  stops a ha := hfails a (hattempts ▸ List.dropLast_subset _ ha)
  connected a ha hsuccess := by
    rw [hfails a (hattempts ▸ ha)] at hsuccess
    cases hsuccess
  failed _ := by
    refine ⟨?_, hstate, hendpoint, hport, hcalls⟩
    rw [hattempts, length_attemptsFrom, List.length_flatten, List.map_replicate,
      List.sum_replicate_nat]

/-- The report after a success. -/
theorem PunchReported.of_connected {front back : List TypedPair} {pair : TypedPair}
    (hpairs : front ++ pair :: back = (List.replicate retries pairs).flatten)
    (hattempts : x.session.attempts = attemptsFrom c 0 (front ++ [pair]))
    (hfails : ∀ a ∈ attemptsFrom c 0 front, a.success = false) {attempt : PunchAttempt}
    (hattempt : attempt = (c.attempts front.length).attempt pair)
    (hsuccess : attempt.success = true) (hstate : x.session.state = .connected)
    (hendpoint : x.session.resultEndpoint = some pair.remoteEndpoint)
    (hport : x.session.resultPort = some pair.remotePort)
    (hlatency : x.session.resultLatencyMs = attempt.latencyMs)
    (hcalls : x.calls = [.onSuccess].filter given) :
    PunchReported c retries pairs given x := by
  have hprefix : front ++ [pair] <+: (List.replicate retries pairs).flatten :=
    ⟨back, by rw [← hpairs, List.append_assoc, List.singleton_append]⟩
  have hsplit : x.session.attempts = attemptsFrom c 0 front ++ [attempt] := by
    rw [hattempts, attemptsFrom_append, hattempt, Nat.zero_add]
    rfl
  have hpair : attempt.pair = pair := by rw [hattempt, AttemptCourse.pair_attempt]
  refine ⟨?_, ?_, fun i h => ?_, fun a ha => ?_, fun a ha hsuccess' => ?_, fun hfailed => ?_⟩
  · rw [hattempts, length_attemptsFrom]
    exact length_le_of_prefix hprefix
  · rwa [hattempts, map_pair_attemptsFrom]
  · simp only [hattempts] at h ⊢
    exact (getElem_attemptsFrom h).trans (by rw [Nat.zero_add])
  · rw [hsplit, List.dropLast_concat] at ha
    exact hfails a ha
  · rw [hsplit, List.mem_append, List.mem_singleton] at ha
    rcases ha with ha | rfl
    · rw [hfails a ha] at hsuccess'
      cases hsuccess'
    · exact ⟨hstate, hpair ▸ hendpoint, hpair ▸ hport, hlatency, hcalls⟩
  · have hfalse := hfailed attempt (hsplit ▸ List.mem_append_right _ (List.mem_singleton_self _))
    rw [hsuccess] at hfalse
    cases hfalse

/-- **A session leaves the table**, whatever happens during its punch; others stay. -/
theorem get?_executePunch (p : HolePuncher) (c : PunchCourse) (s : PunchSession)
    (active : ActiveSessions) (sessionId : String) :
    (s.executePunch p c active).2.get? sessionId =
      if sessionId = s.sessionId then none else active.get? sessionId :=
  active.get?_erase s.sessionId sessionId

theorem executePunch_reported (hrunning : ∀ n, c.running n = true)
    (hraises : ∀ n, c.raises n = false) (p : HolePuncher) (sessionId targetDeviceId : String)
    (pairs : List TypedPair) (given : PunchCallback → Bool) (active : ActiveSessions) :
    PunchReported c p.retries.toNat pairs given
      ((PunchSession.punching sessionId targetDeviceId pairs given).executePunch p c
        active).1 := by
  set s := PunchSession.punching sessionId targetDeviceId pairs given
  have hends : Ends c s [] (List.replicate p.retries.toNat pairs).flatten
      (executeRounds c s.candidates p.retries.toNat { session := s }) :=
    executeRounds_ends hrunning hraises pairs p.retries.toNat { session := s }
  generalize hall : (List.replicate p.retries.toNat pairs).flatten = all at hends
  change PunchReported c _ pairs given
    (.finish c (executeRounds c s.candidates p.retries.toNat { session := s }))
  cases hresult : executeRounds c s.candidates p.retries.toNat { session := s } with
  | mk y ended =>
    rw [hresult] at hends
    cases hends with
    | exhausted hfails hsession hcalls =>
      subst hall
      have hreport := reportFailure_of_quiet hraises y
      rw [hsession, hcalls] at hreport
      simp only [PunchExecution.finish, hreport]
      exact .of_exhausted rfl hfails rfl rfl rfl rfl
    | connected hfails hattempt hsuccess hsession hcalls =>
      rw [Nat.add_comm] at hattempt
      exact .of_connected hall.symm (hsession ▸ rfl) hfails hattempt hsuccess (hsession ▸ rfl)
        (hsession ▸ rfl) (hsession ▸ rfl) (hsession ▸ rfl) hcalls

/-- **One report for every punch**: whatever its pairs and the outcomes of its attempts are, a punch
that is not stopped and whose callbacks raise nothing makes its attempts in rounds over the pairs up
to the first success, is connected to the pair of this success or has failed, calls the callbacks
of the one or the other case, and leaves the table. -/
theorem executePunch_spec (hrunning : ∀ n, c.running n = true)
    (hraises : ∀ n, c.raises n = false) (p : HolePuncher) (sessionId targetDeviceId : String)
    (pairs : List TypedPair) (given : PunchCallback → Bool) (active : ActiveSessions) :
    PunchReported c p.retries.toNat pairs given
        ((PunchSession.punching sessionId targetDeviceId pairs given).executePunch p c active).1 ∧
      ((PunchSession.punching sessionId targetDeviceId pairs given).executePunch p c
        active).2.get? sessionId = none :=
  ⟨executePunch_reported hrunning hraises p sessionId targetDeviceId pairs given active,
    (get?_executePunch ..).trans (if_pos rfl)⟩

/-- Two attempts at a pair of gateways, the second of which is answered after 20 ms. -/
def gatewayCourse : PunchCourse where
  running _ := true
  attempts n := { outcome := if n = 1 then .success else .timeout, completedAt := 20000 }
  raises _ := false

theorem executePunch_spec_gateway :
    PunchReported gatewayCourse 3 [gatewayPair] (fun _ => true)
        ((PunchSession.punching "1" "2" [gatewayPair] fun _ => true).executePunch {}
          gatewayCourse .empty).1 ∧
      ((PunchSession.punching "1" "2" [gatewayPair] fun _ => true).executePunch {}
        gatewayCourse .empty).2.get? "1" = none :=
  executePunch_spec (fun _ => rfl) (fun _ => rfl) {} "1" "2" [gatewayPair] (fun _ => true) .empty

/-- The punch ends in its second round. -/
example : ((PunchSession.punching "1" "2" [gatewayPair] fun _ => true).executePunch {}
    gatewayCourse .empty).1.calls = [.onSuccess] := by decide

/-- A punch that is initiated is in the table when its execution begins, and is reported, whatever
becomes of the table meanwhile. -/
theorem initiatePunch_reported (hrunning : ∀ n, c.running n = true)
    (hraises : ∀ n, c.raises n = false) {p : HolePuncher} (henabled : p.enabled = true)
    (sessionId targetDeviceId : String) (pairs : List TypedPair) (given : PunchCallback → Bool)
    (id : ℕ) (active active' : ActiveSessions) :
    (p.initiatePunch sessionId targetDeviceId pairs given id active).2.get? sessionId = some id ∧
      PunchReported c p.retries.toNat pairs given
        ((p.initiatePunch sessionId targetDeviceId pairs given id active).1.executePunch p c
          active').1 := by
  rw [HolePuncher.initiatePunch, if_pos henabled]
  exact ⟨active.get?_set_self sessionId id,
    executePunch_reported hrunning hraises p sessionId targetDeviceId pairs given active'⟩

end

/-! ### The pairs that are tried -/

/-- The pair as the daemon builds it. -/
def TypedPair.candidatePair (pair : TypedPair) : CandidatePair where
  localEndpoint := .str pair.localEndpoint
  localPort := .int pair.localPort
  remoteEndpoint := .str pair.remoteEndpoint
  remotePort := .int pair.remotePort

/-- The pairs of attempts. -/
def PunchSession.tried (s : PunchSession) : List CandidatePair :=
  s.attempts.map (·.pair.candidatePair)

/-- A course, as far as it decides which pairs are tried. -/
def PunchCourse.punchRun (c : PunchCourse) : PunchRun where
  running _ := true
  succeeds n := (c.attempts n).outcome matches .success

section

variable {c : PunchCourse}

theorem AttemptCourse.success_attempt (a : AttemptCourse) (pair : TypedPair) :
    (a.attempt pair).success = (a.outcome matches .success) := by
  cases h : a.outcome <;> simp [attempt, h]

theorem PunchExecution.session_callBack (callback : PunchCallback) (x : PunchExecution) :
    (callBack c callback x).1.session = x.session := by
  unfold callBack
  split_ifs <;> rfl

theorem PunchExecution.session_reportFailure (x : PunchExecution) :
    (x.reportFailure c).1.session = x.session.fail := by
  have hfirst : (callBack c .onFailure { x with session := x.session.fail }).1.session =
      x.session.fail := session_callBack .onFailure _
  unfold reportFailure
  cases h : callBack c .onFailure { x with session := x.session.fail } with
  | mk y raised =>
    rw [h] at hfirst
    cases raised with
    | true => exact hfirst
    | false => exact (session_callBack .onRelayFallback y).trans hfirst

theorem PunchExecution.tried_reportFailure (x : PunchExecution) :
    (x.reportFailure c).1.session.tried = x.session.tried := by
  rw [x.session_reportFailure]
  rfl

theorem PunchExecution.tried_finish (r : PunchExecution × Option EarlyEnd) :
    (finish c r).session.tried = r.1.session.tried := by
  obtain ⟨x, ended⟩ := r
  cases ended with
  | none =>
    have hfirst := x.tried_reportFailure (c := c)
    simp only [finish]
    cases hreport : x.reportFailure c with
    | mk y raised =>
      rw [hreport] at hfirst
      cases raised with
      | true => exact y.tried_reportFailure.trans hfirst
      | false => exact hfirst
  | some ended =>
    cases ended with
    | returned => rfl
    | raised => exact x.tried_reportFailure

theorem PunchExecution.tried_attempted (x : PunchExecution) (attempt : PunchAttempt) :
    (x.attempted attempt).session.tried =
      x.session.tried ++ [attempt.pair.candidatePair] := by
  simp [attempted, PunchSession.append, PunchSession.tried]

/-- What is tried in a round is what the puncher tries in it. -/
theorem executeRound_tried (hrunning : ∀ n, c.running n = true) (pairs : List TypedPair)
    (x : PunchExecution) :
    (executeRound c pairs x).1.session.tried = x.session.tried ++
        (HolePuncher.tryPairs c.punchRun (pairs.map (·.candidatePair))
          x.session.attempts.length).1 ∧
      (executeRound c pairs x).2.isSome =
        (HolePuncher.tryPairs c.punchRun (pairs.map (·.candidatePair))
          x.session.attempts.length).2 := by
  induction pairs generalizing x with
  | nil => exact ⟨(List.append_nil _).symm, rfl⟩
  | cons pair pairs ih =>
    have hrun : c.punchRun.running x.session.attempts.length = true := rfl
    have hsucceeds := (c.attempts x.session.attempts.length).success_attempt pair
    rw [List.map_cons, HolePuncher.tryPairs, if_pos hrun]
    cases hsuccess : ((c.attempts x.session.attempts.length).attempt pair).success with
    | true =>
      have hsucceeds' : c.punchRun.succeeds x.session.attempts.length = true :=
        hsucceeds.symm.trans hsuccess
      rw [executeRound_of_success (hrunning _) rfl hsuccess, if_pos hsucceeds']
      refine ⟨?_, rfl⟩
      rw [PunchExecution.reportSuccess, PunchExecution.session_callBack]
      have htried := x.checked.tried_attempted
        ((c.attempts x.session.attempts.length).attempt pair)
      rw [AttemptCourse.pair_attempt] at htried
      exact htried
    | false =>
      have hsucceeds' : ¬ c.punchRun.succeeds x.session.attempts.length = true :=
        Bool.eq_false_iff.1 (hsucceeds.symm.trans hsuccess)
      rw [executeRound_of_failure (hrunning _) rfl hsuccess, if_neg hsucceeds']
      obtain ⟨htried, hended⟩ :=
        ih (x.checked.attempted ((c.attempts x.session.attempts.length).attempt pair))
      have hlength : (x.checked.attempted
          ((c.attempts x.session.attempts.length).attempt pair)).session.attempts.length =
            x.session.attempts.length + 1 := List.length_append
      rw [PunchExecution.tried_attempted, AttemptCourse.pair_attempt, hlength] at htried
      rw [hlength] at hended
      exact ⟨htried.trans (List.append_assoc ..), hended⟩

theorem length_executeRound (hrunning : ∀ n, c.running n = true) {pairs : List TypedPair}
    {x y : PunchExecution} (h : executeRound c pairs x = (y, none)) :
    y.session.attempts.length = x.session.attempts.length + pairs.length := by
  induction pairs generalizing x with
  | nil =>
    obtain ⟨rfl, -⟩ := Prod.mk.inj h
    rfl
  | cons pair pairs ih =>
    cases hsuccess : ((c.attempts x.session.attempts.length).attempt pair).success with
    | true =>
      rw [executeRound_of_success (hrunning _) rfl hsuccess] at h
      cases (Prod.mk.inj h).2
    | false =>
      rw [executeRound_of_failure (hrunning _) rfl hsuccess] at h
      rw [ih h, List.length_cons, Nat.add_comm pairs.length, ← Nat.add_assoc]
      exact congrArg (· + pairs.length) List.length_append

theorem executeRounds_tried (hrunning : ∀ n, c.running n = true) (pairs : List TypedPair)
    (rounds : ℕ) (x : PunchExecution) :
    (executeRounds c pairs rounds x).1.session.tried = x.session.tried ++
      HolePuncher.executePunch c.punchRun (pairs.map (·.candidatePair)) rounds
        x.session.attempts.length := by
  induction rounds generalizing x with
  | zero => exact (List.append_nil _).symm
  | succ rounds ih =>
    obtain ⟨htried, hended⟩ := executeRound_tried hrunning pairs x.checked
    rw [executeRounds, if_pos (hrunning _), HolePuncher.executePunch]
    cases hround : executeRound c pairs x.checked with
    | mk y ended =>
      rw [hround] at htried hended
      cases ended with
      | some ended => exact htried.trans (congrArg _ (if_pos hended.symm).symm)
      | none =>
        have hrest := ih (y.pause rounds)
        rw [y.session_pause, htried, length_executeRound hrunning hround,
          List.append_assoc] at hrest
        rw [List.length_map]
        exact hrest.trans (congrArg _ (if_neg (Bool.eq_false_iff.1 hended.symm)).symm)

/-- **The pairs of the attempts are those that the puncher tries**, as long as it is not stopped,
whatever the callbacks do. -/
theorem executePunch_tried (hrunning : ∀ n, c.running n = true) (p : HolePuncher)
    (sessionId targetDeviceId : String) (pairs : List TypedPair) (given : PunchCallback → Bool)
    (active : ActiveSessions) :
    ((PunchSession.punching sessionId targetDeviceId pairs given).executePunch p c
        active).1.session.tried =
      HolePuncher.executePunch c.punchRun (pairs.map (·.candidatePair)) p.retries.toNat 0 := by
  have htried := executeRounds_tried hrunning pairs p.retries.toNat
    { session := .punching sessionId targetDeviceId pairs given }
  exact (PunchExecution.tried_finish _).trans htried

end

end Daemon

end Midscale
