import Midscale.Api.Logins
import Midscale.Limits.Backends

/-!
# Guessing passwords through the rate limiter

The middleware stands before the handlers: a request under `/api/v1/auth/` takes a place in the
window of its client and reaches its handler only if there is one.  So the requests of a client that
reach the handlers keep a distance, whatever else the server is asked.  The limiters are those that
keep their windows in memory.

* `reached_times` : the requests that the middleware lets through are those of the limiter's log.
* `guesses_spaced` : **a client that tries `k * n` passwords needs more than `k` windows for it**,
  where `n` requests are allowed in a window.
-/

namespace Midscale

/-! ### The middleware before the handlers -/

/-- The path of a request for an account. -/
def AuthRequest.path? : AuthRequest → Option String
  | .register .. => some "/api/v1/auth/register"
  | .login _ => some "/api/v1/auth/login"
  | .refresh _ => some "/api/v1/auth/refresh"
  | .seed .. | .api .. => none

/-- A request with the client and the path that it comes with. -/
structure WebRequest where
  arrival : ClientRequest
  event : AuthEvent
  path_eq : ∀ path ∈ event.request.path?, arrival.path = path

/-- What reaches the server: a request, or the time to clean a limiter. -/
inductive GuardEvent where
  | request (q : WebRequest)
  | cleanup (category : Category) (now : ℚ)

/-- The reading of the clock of an event. -/
def GuardEvent.now : GuardEvent → ℚ
  | .request q => q.arrival.now
  | .cleanup _ now => now

/-- The limiters and the state behind them. -/
abbrev GuardState := (Category → RateLimiter) × AuthState

/-- The middleware lets the request through. -/
def GuardState.admits (s : GuardState) (q : WebRequest) : Bool :=
  (dispatchMemory s.1 q.arrival).1 = some true

/-- `RateLimitMiddleware.dispatch` before the handlers, and the clean-up of a limiter.  The limiters
keep their windows in memory; those with Redis are `dispatchRedis`. -/
def AuthServer.guard (server : AuthServer) (s : GuardState) : GuardEvent → GuardState
  | .request q =>
    ((dispatchMemory s.1 q.arrival).2, if s.admits q then server.serve s.2 q.event else s.2)
  | .cleanup category now =>
    (Function.update s.1 category ((s.1 category).step (.cleanup now)), s.2)

/-- The request that reaches its handler. -/
def GuardState.passed (s : GuardState) : GuardEvent → List WebRequest
  | .request q => if s.admits q then [q] else []
  | .cleanup _ _ => []

/-- The requests that reach their handlers. -/
def AuthServer.reached (server : AuthServer) : GuardState → List GuardEvent → List WebRequest
  | _, [] => []
  | s, e :: es => s.passed e ++ reached server (server.guard s e) es

/-- The requests of a client in a category that reach their handlers. -/
def AuthServer.reachedBy (server : AuthServer) (s : GuardState) (category : Category) (client : String)
    (es : List GuardEvent) : List WebRequest :=
  (server.reached s es).filter fun q => q.arrival.category = category ∧ q.arrival.clientIp = client

/-- What happens to the limiter of a category. -/
def GuardEvent.limiterEvents (category : Category) : GuardEvent → List RateLimiter.Event
  | .request q => if q.arrival.category = category then [.check q.arrival.clientIp q.arrival.now] else []
  | .cleanup c now => if c = category then [.cleanup now] else []

/-! ### One limiter -/

section

variable (server : AuthServer) (category : Category) (client : String)

theorem guard_limiter (s : GuardState) (e : GuardEvent) :
    (server.guard s e).1 category = run RateLimiter.step (s.1 category) (e.limiterEvents category) := by
  cases e with
  | request q =>
    by_cases hc : q.arrival.category = category
    · subst hc
      simp [AuthServer.guard, dispatchMemory, GuardEvent.limiterEvents]
    · simp [AuthServer.guard, dispatchMemory, GuardEvent.limiterEvents, hc,
        Function.update_of_ne (Ne.symm hc)]
  | cleanup c now =>
    by_cases hc : c = category
    · subst hc
      simp [AuthServer.guard, GuardEvent.limiterEvents]
    · simp [AuthServer.guard, GuardEvent.limiterEvents, hc, Function.update_of_ne (Ne.symm hc)]

theorem run_guard_limiter (s : GuardState) (es : List GuardEvent) :
    (run server.guard s es).1 category =
      run RateLimiter.step (s.1 category) (es.flatMap (·.limiterEvents category)) := by
  induction es generalizing s with
  | nil => rfl
  | cons e es ih => rw [run_cons, ih, List.flatMap_cons, run_append, guard_limiter]

theorem reached_append (s : GuardState) (es es' : List GuardEvent) :
    server.reached s (es ++ es') =
      server.reached s es ++ server.reached (run server.guard s es) es' := by
  induction es generalizing s with
  | nil => rfl
  | cons e es ih =>
    rw [List.cons_append, AuthServer.reached, AuthServer.reached, ih, List.append_assoc, run_cons]

/-- The requests of a client that are let through are those of the limiter's log. -/
theorem reached_times (limiters : Category → RateLimiter) (s : AuthState) (es : List GuardEvent) :
    (server.reachedBy (limiters, s) category client es).map (·.arrival.now) =
      (limiters category).allowedSinceReset client (es.flatMap (·.limiterEvents category)) := by
  induction es using List.reverseRecOn with
  | nil => rfl
  | append_singleton es e ih =>
    have hlimiter := run_guard_limiter server category (limiters, s) es
    rw [AuthServer.reachedBy, reached_append, List.filter_append, List.map_append,
      ← AuthServer.reachedBy, ih, List.flatMap_append, RateLimiter.allowedSinceReset,
      RateLimiter.allowedSinceReset, run_append, RateLimiter.run_record]
    generalize run server.guard (limiters, s) es = now at hlimiter
    generalize (limiters category).allowedSinceReset client
      (es.flatMap (·.limiterEvents category)) = log
    dsimp only at hlimiter
    rw [← hlimiter]
    cases e with
    | request q =>
      by_cases hc : q.arrival.category = category
      · subst hc
        by_cases hclient : q.arrival.clientIp = client
        · subst hclient
          by_cases hallowed : (now.1 q.arrival.category).allows q.arrival.clientIp q.arrival.now =
              some true
          · simp [AuthServer.reached, GuardState.passed, GuardState.admits, dispatchMemory, GuardEvent.limiterEvents,
              RateLimiter.record, hallowed]
          · simp [AuthServer.reached, GuardState.passed, GuardState.admits, dispatchMemory, GuardEvent.limiterEvents,
              RateLimiter.record, hallowed]
        · -- another client of the category
          have hnone : ([q].filter fun q' => q'.arrival.category = q.arrival.category ∧
              q'.arrival.clientIp = client) = [] := by simp [hclient]
          simp only [AuthServer.reached, GuardState.passed, List.append_nil, GuardEvent.limiterEvents, if_true,
            List.flatMap_cons, List.flatMap_nil, run_cons, run_nil, RateLimiter.record, hclient,
            false_and, if_false]
          split_ifs
          · rw [hnone]
            simp
          · simp
      · simp only [AuthServer.reached, GuardState.passed, List.append_nil, GuardEvent.limiterEvents, hc, if_false,
          List.flatMap_cons, List.flatMap_nil, run_nil]
        split_ifs
        · simp [hc]
        · simp
    | cleanup c t =>
      simp only [AuthServer.reached, GuardState.passed, List.append_nil, List.filter_nil, List.map_nil,
        GuardEvent.limiterEvents, List.flatMap_cons, List.flatMap_nil]
      split_ifs with hc
      · simp [RateLimiter.record]
      · simp

theorem run_guard_state (s : GuardState) (es : List GuardEvent) :
    (run server.guard s es).2 = run server.serve s.2 ((server.reached s es).map (·.event)) := by
  induction es generalizing s with
  | nil => rfl
  | cons e es ih =>
    rw [run_cons, ih, AuthServer.reached, List.map_append, run_append]
    congr 1
    cases e with
    | request q =>
      by_cases hq : s.admits q = true <;> simp [AuthServer.guard, GuardState.passed, hq]
    | cleanup c t => rfl

theorem readings_limiterEvents (es : List GuardEvent) :
    (RateLimiter.readings (es.flatMap (·.limiterEvents category))).Sublist
      (es.map GuardEvent.now) := by
  induction es with
  | nil => exact List.Sublist.refl _
  | cons e es ih =>
    rw [List.flatMap_cons, RateLimiter.readings, List.filterMap_append, List.map_cons]
    have he : (List.filterMap RateLimiter.Event.now? (e.limiterEvents category)).Sublist
        [e.now] := by
      cases e with
      | request q =>
        dsimp only [GuardEvent.limiterEvents]
        split_ifs
        · exact List.Sublist.refl _
        · exact List.nil_sublist _
      | cleanup c t =>
        dsimp only [GuardEvent.limiterEvents]
        split_ifs
        · exact List.Sublist.refl _
        · exact List.nil_sublist _
    exact he.append ih

theorem reached_sublist (s : GuardState) (es : List GuardEvent) :
    ((server.reached s es).map (·.arrival.now)).Sublist (es.map GuardEvent.now) := by
  induction es generalizing s with
  | nil => exact List.Sublist.refl _
  | cons e es ih =>
    rw [AuthServer.reached, List.map_append, List.map_cons]
    have he : ((s.passed e).map (·.arrival.now)).Sublist [e.now] := by
      cases e with
      | request q =>
        dsimp only [GuardState.passed]
        split_ifs
        · exact List.Sublist.refl _
        · exact List.nil_sublist _
      | cleanup c t => exact List.nil_sublist _
    exact he.append (ih _)

end

/-! ### Guesses -/

/-- The request gives a password. -/
def AuthRequest.isLogin : AuthRequest → Bool
  | .login _ => true
  | _ => false

/-- The logins that a client tried: those that reached their handler. -/
def AuthServer.guesses (server : AuthServer) (s : GuardState) (client : String)
    (es : List GuardEvent) : List WebRequest :=
  (server.reached s es).filter fun q => q.event.request.isLogin ∧ q.arrival.clientIp = client

theorem WebRequest.category_of_isLogin {q : WebRequest} (h : q.event.request.isLogin = true) :
    q.arrival.category = .auth := by
  obtain ⟨arrival, ⟨now, request⟩, hpath⟩ := q
  cases request with
  | login req =>
    have hlogin : arrival.path = "/api/v1/auth/login" := hpath _ rfl
    rw [ClientRequest.category, hlogin]
    decide +kernel
  | _ => cases h

/-- **A client that guesses is slowed down.**  Behind the middleware with its limiters in memory the
server runs on the requests that are let through.  Of these, whatever else happens and whoever else
asks, the logins that a client tries keep a distance: `k * n` guesses after one of them at least `k`
windows have passed, where `n` requests are allowed in a window. -/
theorem guesses_spaced (server : AuthServer) (limits : Category → Limit) (s : AuthState)
    (client : String) {es : List GuardEvent} (hclock : (es.map GuardEvent.now).Pairwise (· ≤ ·)) :
    let limiters := fun c => (limits c).limiter
    let guesses := server.guesses (limiters, s) client es
    (run server.guard (limiters, s) es).2 =
        run server.serve s ((server.reached (limiters, s) es).map (·.event)) ∧
      ∀ i k, (h : i + k * (limits .auth).max.toNat < guesses.length) →
        guesses[i].arrival.now + k * (limits .auth).window ≤
          guesses[i + k * (limits .auth).max.toNat].arrival.now := by
  intro limiters guesses
  refine ⟨run_guard_state server (limiters, s) es, fun i k h => ?_⟩
  have hreadings := readings_limiterEvents .auth es
  have htracks := RateLimiter.tracks_run (limits .auth).window (limits .auth).max_pos client
    (hclock.sublist hreadings)
  have hlog : (server.reachedBy (limiters, s) .auth client es).map (·.arrival.now) = _ :=
    reached_times server .auth client limiters s es
  -- the guesses are among the requests of the client that the limiter of accounts counts
  have hsub : guesses.Sublist (server.reachedBy (limiters, s) .auth client es) := by
    have hfilter : guesses = (server.reachedBy (limiters, s) .auth client es).filter
        fun q => q.event.request.isLogin := by
      rw [AuthServer.reachedBy, List.filter_filter]
      refine List.filter_congr fun q _ => ?_
      by_cases hq : q.event.request.isLogin = true
      · simp [hq, WebRequest.category_of_isLogin hq]
      · simp [hq]
    rw [hfilter]
    exact List.filter_sublist
  have hroom : ∀ a, inWindow ((limits .auth).window : ℚ) a (guesses.map (·.arrival.now)) ≤
      (limits .auth).max.toNat := fun a => by
    refine ((hsub.map _).countP_le).trans ?_
    have hroom := htracks.room a
    rw [RateLimiter.run_window, RateLimiter.run_max] at hroom
    rw [hlog]
    exact hroom
  have hsorted : (guesses.map (·.arrival.now)).Pairwise (· ≤ ·) :=
    hclock.sublist (((List.filter_sublist.map _)).trans (reached_sublist server (limiters, s) es))
  have hspaced := getElem_add_le hsorted hroom (i := i) (k := k) (by rwa [List.length_map])
  rw [List.getElem_map, List.getElem_map, nsmul_eq_mul] at hspaced
  exact hspaced

/-- A guess of a client. -/
def guessAt (now : ℚ) (password : String) : WebRequest where
  arrival := { client := some "10.0.0.9", path := "/api/v1/auth/login", now := now }
  event := { now := 0, request := .login ⟨"user@site", password⟩ }
  path_eq _ h := Option.some.inj (Option.mem_def.1 h)

/-- Three guesses, the second of which is too early. -/
def guessEvents : List GuardEvent := [
  .request (guessAt 0 "aaaaaaaa"), .cleanup .auth 30, .request (guessAt 30 "bbbbbbbb"),
  .request (guessAt 61 "password")]

/-- The second password that is tried comes a window after the first. -/
theorem guesses_spaced_strict :
    let guesses := plainServer.guesses (fun c => (oneAMinute c).limiter, (.ofAccounts .empty, []))
      "10.0.0.9" guessEvents
    ∃ h : 0 + 1 * (oneAMinute .auth).max.toNat < guesses.length,
      guesses[0].arrival.now + (1 : ℕ) * (oneAMinute .auth).window ≤
        guesses[0 + 1 * (oneAMinute .auth).max.toNat].arrival.now := by
  intro guesses
  have h : 0 + 1 * (oneAMinute .auth).max.toNat < guesses.length := by decide +kernel
  have hclock : (guessEvents.map GuardEvent.now).Pairwise (· ≤ ·) := by decide +kernel
  exact ⟨h, (guesses_spaced plainServer oneAMinute (.ofAccounts .empty, []) "10.0.0.9"
    hclock).2 0 1 h⟩

end Midscale
