import Midscale.Data.Text
import Midscale.Limits.RedisLimiter

/-!
# The two backends of the six limiters

`RateLimitMiddleware` chooses a limiter by the path of a request and checks the address of the
client with it.  In memory each limiter has entries of its own.  On Redis the six share the keys:
the sorted set of an address holds the requests of every category, each category prunes it by its
own window, two requests with the same clock reading are one member, and what is exactly one window
old is pruned.

* `dispatchMemory`, `dispatchRedis` : a request with either backend.
* `Mirrors` : what the server's sorted sets have to do with the requests so far.
* `backends_agree` : **the decisions are the same when every request finds its client with room in
  any case, or alone in its category** with requests at different readings.
* `shared_keys_deny` : a client that uses two categories is denied on Redis only.
-/

namespace Midscale

/-! ### The middleware -/

/-- The keys of `app.state.rate_limiters`. -/
inductive Category
  | default
  | auth
  | register
  | heartbeat
  | websocket
  | admin
  deriving DecidableEq, Repr

/-- `RateLimitMiddleware._classify_path`. -/
def classifyPath (path : String) : Category :=
  if startsWith path "/api/v1/auth/" then .auth
  else if hasPart path "/register" then .register
  else if hasPart path "/heartbeat" then .heartbeat
  else if startsWith path "/ws" then .websocket
  else if startsWith path "/api/v1/routes/" ∨ startsWith path "/api/v1/audit" then .admin
  else .default

/-- The maximum and the window that are configured for a limiter. -/
structure Limit where
  max : ℤ
  window : ℤ
  max_pos : 0 < max
  window_pos : 0 < window

/-- A limiter as `lifespan` makes it. -/
def Limit.limiter (l : Limit) : RateLimiter := { max := l.max, window := l.window }

/-- A request, with the reading of the clock when it is checked. -/
structure ClientRequest where
  client : Option String
  path : String
  now : ℚ
  deriving DecidableEq

/-- `client_ip`. -/
def ClientRequest.clientIp (q : ClientRequest) : String := q.client.getD "127.0.0.1"

/-- The category of a request. -/
def ClientRequest.category (q : ClientRequest) : Category := classifyPath q.path

/-- The check of a request in memory, `none` for an `IndexError`. -/
def dispatchMemory (limiters : Category → RateLimiter) (q : ClientRequest) :
    Option Bool × (Category → RateLimiter) :=
  ((limiters q.category).allows q.clientIp q.now,
    Function.update limiters q.category ((limiters q.category).step (.check q.clientIp q.now)))

/-- The check of a request on Redis. -/
def dispatchRedis (str : ℚ → String) (limits : Category → Limit) (redis : Redis) (q : ClientRequest) :
    Bool × Redis :=
  let result := (limits q.category).limiter.checkRedis str redis q.clientIp q.now
  (result.1.1, result.2)

/-- The decisions about the requests in memory. -/
def memoryDecisions : (Category → RateLimiter) → List ClientRequest → List (Option Bool)
  | _, [] => []
  | limiters, q :: qs =>
    (dispatchMemory limiters q).1 :: memoryDecisions (dispatchMemory limiters q).2 qs

/-- The decisions about the requests on Redis. -/
def redisDecisions (str : ℚ → String) (limits : Category → Limit) :
    Redis → List ClientRequest → List (Option Bool)
  | _, [] => []
  | redis, q :: qs =>
    some (dispatchRedis str limits redis q).1 ::
      redisDecisions str limits (dispatchRedis str limits redis q).2 qs

/-! ### The requests so far -/

/-- The requests so far, each with the decision about it. -/
abbrev History := List (ClientRequest × Bool)

/-- The limiters in memory beside the requests so far. -/
def recordMemory (s : (Category → RateLimiter) × History) (q : ClientRequest) :
    (Category → RateLimiter) × History :=
  ((dispatchMemory s.1 q).2, s.2 ++ [(q, (dispatchMemory s.1 q).1.getD false)])

/-- The requests of the client that were allowed. -/
def History.allowed (h : History) (client : String) : List ClientRequest :=
  (h.filter fun e => e.2 ∧ e.1.clientIp = client).map Prod.fst

section

variable (str : ℚ → String) (limits : Category → Limit) (h : History) (q : ClientRequest)

/-- The window of the limiter that checks a request. -/
def ClientRequest.window : ℤ := (limits q.category).window

/-- Whatever their categories, fewer requests of the client than the maximum were allowed in the
window that ends now. -/
def HasRoom : Prop :=
  (((h.allowed q.clientIp).countP fun e => q.now - q.window limits ≤ e.now : ℕ) : ℤ) <
    (limits q.category).max

/-- In the window that ends now all allowed requests of the client are of this category, the texts of
their readings differ, none is exactly one window old, and no request of another category has
pruned one of them. -/
structure Alone : Prop where
  category : ∀ e ∈ h.allowed q.clientIp, q.now - q.window limits < e.now → e.category = q.category
  distinct : (((h.allowed q.clientIp).filter fun e => q.now - q.window limits < e.now).map
    fun e => str e.now).Nodup
  boundary : ∀ e ∈ h.allowed q.clientIp, e.category = q.category → e.now ≠ q.now - q.window limits
  kept : ∀ e ∈ h.allowed q.clientIp, q.now - q.window limits < e.now → ∀ k ∈ h,
    k.1.clientIp = q.clientIp → k.1.category ≠ q.category → k.1.now - k.1.window limits < e.now

instance : Decidable (HasRoom limits h q) := inferInstanceAs (Decidable (_ < _))

instance : Decidable (Alone str limits h q) :=
  decidable_of_iff
    ((∀ e ∈ h.allowed q.clientIp, q.now - q.window limits < e.now → e.category = q.category) ∧
      (((h.allowed q.clientIp).filter fun e => q.now - q.window limits < e.now).map
        fun e => str e.now).Nodup ∧
      (∀ e ∈ h.allowed q.clientIp, e.category = q.category → e.now ≠ q.now - q.window limits) ∧
      ∀ e ∈ h.allowed q.clientIp, q.now - q.window limits < e.now → ∀ k ∈ h,
        k.1.clientIp = q.clientIp → k.1.category ≠ q.category → k.1.now - k.1.window limits < e.now)
    ⟨fun ⟨h₁, h₂, h₃, h₄⟩ => ⟨h₁, h₂, h₃, h₄⟩, fun ⟨h₁, h₂, h₃, h₄⟩ => ⟨h₁, h₂, h₃, h₄⟩⟩

end

theorem History.mem_allowed {h : History} {client : String} {e : ClientRequest} :
    e ∈ h.allowed client ↔ (e, true) ∈ h ∧ e.clientIp = client := by
  rw [allowed, List.mem_map]
  constructor
  · rintro ⟨⟨e, b⟩, he, rfl⟩
    obtain ⟨hmem, hb⟩ := List.mem_filter.1 he
    obtain ⟨rfl, hclient⟩ := of_decide_eq_true hb
    exact ⟨hmem, hclient⟩
  · rintro ⟨hmem, hclient⟩
    exact ⟨(e, true), List.mem_filter.2 ⟨hmem, decide_eq_true ⟨rfl, hclient⟩⟩, rfl⟩

theorem History.allowed_concat (h : History) (client : String) (q : ClientRequest) (b : Bool) :
    History.allowed (h ++ [(q, b)]) client =
      h.allowed client ++ if b ∧ q.clientIp = client then [q] else [] := by
  rw [allowed, allowed, List.filter_append, List.map_append, List.filter_singleton]
  by_cases hb : b = true ∧ q.clientIp = client
  · simp [hb]
  · simp only [hb, decide_false, if_false]
    rfl

/-! ### The sorted sets and the requests so far -/

section

variable {str : ℚ → String} {limits : Category → Limit} {redis : Redis} {h : History} {q : ClientRequest}

/-- A later request has pruned the request, or the key has expired since. -/
def Dropped (limits : Category → Limit) (h : History) (e : ClientRequest) : Prop :=
  (∃ k ∈ h, k.1.clientIp = e.clientIp ∧ e.now ≤ k.1.now - k.1.window limits) ∨
    ∃ l ∈ h.allowed e.clientIp, e.now ≤ l.now ∧
      ∃ k ∈ h, k.1.clientIp = e.clientIp ∧ l.now + l.window limits * 2 < k.1.now

/-- The members under the key of a client are requests of the client that were allowed; the others
have been dropped; and the key expires two windows after the last of them. -/
structure Mirrors (str : ℚ → String) (limits : Category → Limit) (redis : Redis) (h : History)
    (client : String) : Prop where
  member : ∀ x s, (redis.keys.getD (redisKey client) {}).scores.get? x = some s →
    ∃ e ∈ h.allowed client, e.now = s ∧ str s = x
  kept : ∀ e ∈ h.allowed client, Dropped limits h e ∨
    ∃ s, (redis.keys.getD (redisKey client) {}).scores.get? (str e.now) = some s ∧ e.now ≤ s
  expires : ∀ t, (redis.keys.getD (redisKey client) {}).expiresAt = some t →
    ∃ l ∈ h.allowed client, t = l.now + l.window limits * 2 ∧
      ∀ e ∈ h.allowed client, e.now ≤ l.now

theorem Dropped.mono {e : ClientRequest} (hd : Dropped limits h e) (new : History) :
    Dropped limits (h ++ new) e := by
  have hallowed : ∀ l ∈ h.allowed e.clientIp, l ∈ History.allowed (h ++ new) e.clientIp := by
    intro l hl
    obtain ⟨hmem, hclient⟩ := History.mem_allowed.1 hl
    exact History.mem_allowed.2 ⟨List.mem_append_left _ hmem, hclient⟩
  rcases hd with ⟨k, hk, hold⟩ | ⟨l, hl, hle, k, hk, hlate⟩
  · exact .inl ⟨k, List.mem_append_left _ hk, hold⟩
  · exact .inr ⟨l, hallowed l hl, hle, k, List.mem_append_left _ hk, hlate⟩

theorem mirrors_init (client : String) : Mirrors str limits {} [] client where
  member := nofun
  kept := nofun
  expires := nofun

/-- What a request of the client finds: the requests that are not dropped. -/
theorem Mirrors.get (hm : Mirrors str limits redis h q.clientIp) (b : Bool) :
    (∀ x s, (redis.get q.now (redisKey q.clientIp)).scores.get? x = some s →
      ∃ e ∈ h.allowed q.clientIp, e.now = s ∧ str s = x) ∧
    ∀ e ∈ h.allowed q.clientIp, Dropped limits (h ++ [(q, b)]) e ∨
      ∃ s, (redis.get q.now (redisKey q.clientIp)).scores.get? (str e.now) = some s ∧ e.now ≤ s := by
  by_cases hlate : ∃ t, (redis.keys.getD (redisKey q.clientIp) {}).expiresAt = some t ∧ t < q.now
  · -- the key has expired, so all requests so far are dropped
    obtain ⟨t, ht, hlt⟩ := hlate
    rw [Redis.get, SortedSet.live_of_expired ht hlt]
    obtain ⟨l, hl, rfl, hlast⟩ := hm.expires t ht
    refine ⟨(fun x s hs => by cases hs), fun e he => .inl (.inr ⟨l, ?_, hlast e he, (q, b), by simp, ?_, hlt⟩)⟩
    · rw [(History.mem_allowed.1 he).2]
      obtain ⟨hmem, hclient⟩ := History.mem_allowed.1 hl
      exact History.mem_allowed.2 ⟨List.mem_append_left _ hmem, hclient⟩
    · exact (History.mem_allowed.1 he).2.symm
  · have hlive : (redis.keys.getD (redisKey q.clientIp) {}).live q.now =
        redis.keys.getD (redisKey q.clientIp) {} :=
      SortedSet.live_of_not_expired fun t ht => not_lt.1 fun hlt => hlate ⟨t, ht, hlt⟩
    rw [Redis.get, hlive]
    exact ⟨hm.member, fun e he => (hm.kept e he).imp_left fun hd => hd.mono _⟩

theorem Mirrors.pruned (hm : Mirrors str limits redis h q.clientIp)
    (hepoch : ∀ e ∈ h, 0 ≤ e.1.now) (b : Bool) :
    let z := (limits q.category).limiter.pruned redis q.clientIp q.now q.now
    (∀ x s, z.scores.get? x = some s → q.now - q.window limits < s ∧
      ∃ e ∈ h.allowed q.clientIp, e.now = s ∧ str s = x) ∧
    ∀ e ∈ h.allowed q.clientIp, Dropped limits (h ++ [(q, b)]) e ∨
      ∃ s, z.scores.get? (str e.now) = some s ∧ e.now ≤ s := by
  intro z
  obtain ⟨hmember, hkept⟩ := hm.get b
  refine ⟨fun x s hs => ?_, fun e he => ?_⟩
  · obtain ⟨hs, hnot⟩ := RateLimiter.scores_pruned.1 hs
    obtain ⟨e, he, rfl, hx⟩ := hmember x s hs
    refine ⟨lt_of_not_ge fun hle => hnot ⟨?_, hle⟩, e, he, rfl, hx⟩
    exact hepoch (e, true) (History.mem_allowed.1 he).1
  · rcases hkept e he with hd | ⟨s, hs, hle⟩
    · exact .inl hd
    · by_cases hold : 0 ≤ s ∧ s ≤ q.now - q.window limits
      · refine .inl (.inl ⟨(q, b), by simp, (History.mem_allowed.1 he).2.symm, ?_⟩)
        exact hle.trans hold.2
      · exact .inr ⟨s, RateLimiter.scores_pruned.2 ⟨hs, hold⟩, hle⟩

theorem expiresAt_pruned {t : ℚ}
    (ht : ((limits q.category).limiter.pruned redis q.clientIp q.now q.now).expiresAt = some t) :
    (redis.keys.getD (redisKey q.clientIp) {}).expiresAt = some t ∧ q.now ≤ t :=
  SortedSet.expiresAt_live (SortedSet.expiresAt_zremrangebyscore ht)

theorem Mirrors.denied (hm : Mirrors str limits redis h q.clientIp)
    (hepoch : ∀ e ∈ h, 0 ≤ e.1.now) :
    Mirrors str limits ((limits q.category).limiter.pruneAndCount redis q.clientIp q.now q.now).2
      (h ++ [(q, false)]) q.clientIp := by
  obtain ⟨hmember, hkept⟩ := hm.pruned hepoch false
  have hallowed : History.allowed (h ++ [(q, false)]) q.clientIp = h.allowed q.clientIp := by
    rw [History.allowed_concat]
    simp
  have hset : ((limits q.category).limiter.pruneAndCount redis q.clientIp q.now q.now).2.keys.getD
      (redisKey q.clientIp) {} =
        (limits q.category).limiter.pruned redis q.clientIp q.now q.now :=
    RateLimiter.getD_pruneAndCount
  exact {
    member := fun x s hs => by
      rw [hset] at hs
      rw [hallowed]
      exact (hmember x s hs).2
    kept := fun e he => by
      rw [hallowed] at he
      rw [hset]
      exact hkept e he
    expires := fun t ht => by
      rw [hset] at ht
      rw [hallowed]
      exact hm.expires t (expiresAt_pruned ht).1 }

/-- An allowed request prunes the set of its client, adds itself and lets it expire later. -/
theorem Mirrors.allowed (hm : Mirrors str limits redis h q.clientIp)
    (hepoch : ∀ e ∈ h, 0 ≤ e.1.now) (hclock : ∀ e ∈ h, e.1.now ≤ q.now) :
    Mirrors str limits ((limits q.category).limiter.addAndExpire str
        ((limits q.category).limiter.pruneAndCount redis q.clientIp q.now q.now).2 q.clientIp q.now
        q.now)
      (h ++ [(q, true)]) q.clientIp := by
  have hwindow : 0 < (limits q.category).limiter.window := (limits q.category).window_pos
  obtain ⟨hmember, hkept⟩ := hm.pruned hepoch true
  have hallowed : History.allowed (h ++ [(q, true)]) q.clientIp = h.allowed q.clientIp ++ [q] := by
    rw [History.allowed_concat]
    simp
  have hlatest : ∀ e ∈ h.allowed q.clientIp ++ [q], e.now ≤ q.now := by
    intro e he
    rcases List.mem_append.1 he with he | he
    · exact hclock _ (History.mem_allowed.1 he).1
    · exact (List.mem_singleton.1 he).symm ▸ le_refl _
  -- the second transaction finds what the first has left
  have hset : (((limits q.category).limiter.pruneAndCount redis q.clientIp q.now q.now).2.get q.now
      (redisKey q.clientIp)) =
        (limits q.category).limiter.pruned redis q.clientIp q.now q.now := by
    rw [RateLimiter.pruneAndCount, Redis.get_put]
    exact SortedSet.live_of_not_expired fun t ht => (expiresAt_pruned ht).2
  have hadd := @RateLimiter.getD_addAndExpire (limits q.category).limiter
    ((limits q.category).limiter.pruneAndCount redis q.clientIp q.now q.now).2 q.clientIp q.now
    q.now str hwindow
  rw [hset] at hadd
  exact {
    member := fun x s hs => by
      rw [hadd, Dict.get?_set] at hs
      rw [hallowed]
      split_ifs at hs with hx
      · cases hs
        exact ⟨q, by simp, rfl, hx.symm⟩
      · obtain ⟨-, e, he, hes⟩ := hmember x s hs
        exact ⟨e, List.mem_append_left _ he, hes⟩
    kept := fun e he => by
      rw [hadd, Dict.get?_set]
      rw [hallowed] at he
      split_ifs with hx
      · exact .inr ⟨q.now, rfl, hlatest e he⟩
      · rcases List.mem_append.1 he with he | he
        · exact hkept e he
        · exact absurd (congrArg (fun e => str e.now) (List.mem_singleton.1 he)) hx
    expires := fun t ht => by
      rw [hadd, Option.some.injEq] at ht
      rw [hallowed]
      refine ⟨q, by simp, ?_, hlatest⟩
      rw [← ht]
      push_cast
      rfl }

/-- A request of one client leaves the sets of the others alone. -/
theorem Mirrors.other {client : String} (hm : Mirrors str limits redis h client)
    (hclient : client ≠ q.clientIp) {redis' : Redis} (b : Bool)
    (hset : redis'.keys.getD (redisKey client) {} = redis.keys.getD (redisKey client) {}) :
    Mirrors str limits redis' (h ++ [(q, b)]) client := by
  have hallowed : History.allowed (h ++ [(q, b)]) client = h.allowed client := by
    rw [History.allowed_concat, if_neg fun hq => hclient hq.2.symm, List.append_nil]
  exact {
    member := by
      rw [hset, hallowed]
      exact hm.member
    kept := fun e he => by
      rw [hallowed] at he
      rw [hset]
      exact (hm.kept e he).imp_left fun hd => hd.mono _
    expires := by
      rw [hset, hallowed]
      exact hm.expires }

/-- **A request keeps the sorted sets in step.** -/
theorem Mirrors.step {client : String} (hm : Mirrors str limits redis h client)
    (hepoch : ∀ e ∈ h, 0 ≤ e.1.now) (hclock : ∀ e ∈ h, e.1.now ≤ q.now) :
    Mirrors str limits (dispatchRedis str limits redis q).2
      (h ++ [(q, (dispatchRedis str limits redis q).1)]) client := by
  rw [dispatchRedis, RateLimiter.checkRedis_redis]
  generalize ((limits q.category).limiter.checkRedis str redis q.clientIp q.now).1.1 = b
  by_cases hclient : client = q.clientIp
  · subst hclient
    cases b with
    | false => exact hm.denied hepoch
    | true => exact hm.allowed hepoch hclock
  · -- the request concerns another key
    refine hm.other hclient b ?_
    split_ifs
    · rw [RateLimiter.getD_addAndExpire_of_ne _ hclient,
        RateLimiter.getD_pruneAndCount_of_ne hclient]
    · rw [RateLimiter.getD_pruneAndCount_of_ne hclient]

/-! ### The limiters in memory and the requests so far -/

/-- The requests of the client and the category that were allowed. -/
def History.own (h : History) (client : String) (c : Category) : List ClientRequest :=
  (h.allowed client).filter fun e => e.category = c

/-- Every limiter tracks the requests of its category. -/
structure Remembers (limits : Category → Limit) (limiters : Category → RateLimiter) (h : History) :
    Prop where
  max_eq : ∀ c, (limiters c).max = (limits c).max
  window_eq : ∀ c, (limiters c).window = (limits c).window
  tracks : ∀ c client, (limiters c).Tracks client (h.map fun e => e.1.now)
    ((h.own client c).map (·.now))

theorem remembers_init : Remembers limits (fun c => (limits c).limiter) [] where
  max_eq := fun _ => rfl
  window_eq := fun _ => rfl
  tracks := fun _ client => RateLimiter.tracks_init _ _ client

theorem Remembers.max_pos {limiters : Category → RateLimiter} (hr : Remembers limits limiters h)
    (c : Category) : 1 ≤ (limiters c).max := by
  rw [hr.max_eq]
  exact (limits c).max_pos

theorem Remembers.allows_eq {limiters : Category → RateLimiter} (hr : Remembers limits limiters h)
    (hclock : ∀ e ∈ h, e.1.now ≤ q.now) :
    (dispatchMemory limiters q).1 = some (decide
      ((((h.own q.clientIp q.category).countP fun e => q.now - q.window limits ≤ e.now : ℕ) : ℤ) <
        (limits q.category).max)) := by
  have hpast : ∀ s ∈ h.map fun e => e.1.now, s ≤ q.now := List.forall_mem_map.2 hclock
  have hmax : 1 ≤ (limiters q.category).max := hr.max_pos q.category
  have htracks := hr.tracks q.category q.clientIp
  have hcount : inWindow ((limits q.category).window : ℚ) (q.now - (limits q.category).window)
      ((h.own q.clientIp q.category).map (·.now)) =
        (h.own q.clientIp q.category).countP fun e => q.now - q.window limits ≤ e.now := by
    rw [inWindow, List.countP_map]
    refine List.countP_congr fun e he => ?_
    have hle := hpast e.now (htracks.log_past e.now (List.mem_map_of_mem he))
    simp [ClientRequest.window, hle]
  rw [dispatchMemory, htracks.allows_eq hmax q.now hpast, hr.max_eq, hr.window_eq, hcount]

/-- **A request keeps the limiters in step.** -/
theorem Remembers.step {limiters : Category → RateLimiter} (hr : Remembers limits limiters h)
    (hclock : ∀ e ∈ h, e.1.now ≤ q.now) :
    Remembers limits (recordMemory (limiters, h) q).1 (recordMemory (limiters, h) q).2 := by
  have hpast : ∀ s ∈ h.map fun e => e.1.now, s ≤ q.now := List.forall_mem_map.2 hclock
  have hmax : 1 ≤ (limiters q.category).max := hr.max_pos q.category
  refine ⟨fun c => ?_, fun c => ?_, fun c client => ?_⟩
  · by_cases hc : c = q.category
    · subst hc
      simp [recordMemory, dispatchMemory, hr.max_eq]
    · simp [recordMemory, dispatchMemory, Function.update_of_ne hc, hr.max_eq]
  · by_cases hc : c = q.category
    · subst hc
      simp [recordMemory, dispatchMemory, hr.window_eq]
    · simp [recordMemory, dispatchMemory, Function.update_of_ne hc, hr.window_eq]
  · have hown : ∀ b : Bool, History.own (h ++ [(q, b)]) client c = h.own client c ++
        if q.category = c ∧ b = true ∧ q.clientIp = client then [q] else [] := by
      intro b
      rw [History.own, History.own, History.allowed_concat, List.filter_append]
      by_cases hb : b = true ∧ q.clientIp = client
      · simp [hb, List.filter_singleton]
      · simp [hb]
    change (Function.update limiters q.category _ c).Tracks client
      ((h ++ [(q, (dispatchMemory limiters q).1.getD false)]).map _)
        ((History.own (h ++ [(q, (dispatchMemory limiters q).1.getD false)]) client c).map _)
    rw [hown, List.map_append, List.map_append]
    by_cases hc : c = q.category
    · subst hc
      have hstep := (hr.tracks q.category client).step hmax (.check q.clientIp q.now)
        fun t ht s hs => (Option.some.inj ht) ▸ hpast s hs
      have hlog : (RateLimiter.record client
          (limiters q.category, (h.own client q.category).map (·.now))
            (.check q.clientIp q.now)).2 = (h.own client q.category).map (·.now) ++
              (if q.category = q.category ∧ (dispatchMemory limiters q).1.getD false = true ∧
                q.clientIp = client then [q] else []).map (·.now) := by
        rw [RateLimiter.record, dispatchMemory]
        cases hallows : (limiters q.category).allows q.clientIp q.now with
        | none => simp
        | some b =>
          by_cases hb : b = true ∧ q.clientIp = client
          · simp [hb]
          · have hb' : ¬ (q.clientIp = client ∧ b = true) := fun hq => hb hq.symm
            simp [hb, hb']
      rw [Function.update_self, ← hlog]
      exact hstep
    · rw [Function.update_of_ne hc, if_neg fun hq => hc hq.1.symm, List.map_nil, List.append_nil]
      exact (hr.tracks c client).mono fun s hs => List.mem_append_left _ hs

/-! ### One request -/

theorem HasRoom.zcard_lt (hroom : HasRoom limits h q) (hm : Mirrors str limits redis h q.clientIp)
    (hepoch : ∀ e ∈ h, 0 ≤ e.1.now) :
    (((limits q.category).limiter.pruned redis q.clientIp q.now q.now).zcard : ℤ) <
      (limits q.category).max := by
  have hle : ((limits q.category).limiter.pruned redis q.clientIp q.now q.now).zcard ≤
      (((h.allowed q.clientIp).filter fun e => q.now - q.window limits ≤ e.now).map
        fun e => str e.now).length := by
    refine SortedSet.zcard_le fun x s hs => ?_
    obtain ⟨hlt, e, he, rfl, rfl⟩ := (hm.pruned hepoch false).1 x s hs
    exact List.mem_map.2 ⟨e, List.mem_filter.2 ⟨he, decide_eq_true hlt.le⟩, rfl⟩
  rw [List.length_map, ← List.countP_eq_length_filter] at hle
  rw [HasRoom] at hroom
  omega

/-- What the request finds on the server when its client is alone in its category. -/
theorem Alone.zcard_eq (halone : Alone str limits h q) (hm : Mirrors str limits redis h q.clientIp)
    (hepoch : ∀ e ∈ h, 0 ≤ e.1.now) (hclock : ∀ e ∈ h, e.1.now ≤ q.now) :
    ((limits q.category).limiter.pruned redis q.clientIp q.now q.now).zcard =
      (h.own q.clientIp q.category).countP fun e => q.now - q.window limits ≤ e.now := by
  have hwindow : (0 : ℚ) < q.window limits := Int.cast_pos.2 (limits q.category).window_pos
  obtain ⟨hmember, hkept⟩ := hm.pruned hepoch false
  -- both count the requests of the client that are less than one window old
  have hown : ((h.own q.clientIp q.category).countP fun e => q.now - q.window limits ≤ e.now) =
      (((h.allowed q.clientIp).filter fun e => q.now - q.window limits < e.now).map
        fun e => str e.now).length := by
    rw [List.length_map, ← List.countP_eq_length_filter, History.own, List.countP_filter]
    refine List.countP_congr fun e he => ?_
    rw [Bool.and_eq_true, decide_eq_true_eq, decide_eq_true_eq, decide_eq_true_eq]
    constructor
    · rintro ⟨hle, hc⟩
      exact lt_of_le_of_ne hle (halone.boundary e he hc).symm
    · exact fun hlt => ⟨hlt.le, halone.category e he hlt⟩
  -- none of them has been dropped
  have hdropped : ∀ e ∈ h.allowed q.clientIp, q.now - q.window limits < e.now →
      ¬ Dropped limits (h ++ [(q, false)]) e := by
    intro e he hlt hd
    have hclient := (History.mem_allowed.1 he).2
    rcases hd with ⟨k, hk, hkc, hold⟩ | ⟨l, hl, hle, k, hk, -, hlate⟩
    · rcases List.mem_append.1 hk with hk | hk
      · by_cases hc : k.1.category = q.category
        · have hsame : k.1.window limits = q.window limits := by
            rw [ClientRequest.window, hc]
            rfl
          rw [hsame] at hold
          exact absurd (hold.trans (sub_le_sub_right (hclock k hk) _)) (not_le.2 hlt)
        · have hkeep := halone.kept e he hlt k hk (hkc.trans hclient) hc
          exact absurd hold (not_le.2 hkeep)
      · rw [List.mem_singleton.1 hk] at hold
        exact absurd hold (not_le.2 hlt)
    · have hl' : l ∈ h.allowed q.clientIp := by
        rw [hclient, History.allowed_concat] at hl
        simpa using hl
      have hsame : l.window limits = q.window limits := by
        rw [ClientRequest.window, halone.category l hl' (hlt.trans_le hle)]
        rfl
      have hnow : k.1.now ≤ q.now := by
        rcases List.mem_append.1 hk with hk | hk
        · exact hclock k hk
        · exact (List.mem_singleton.1 hk) ▸ le_refl q.now
      rw [hsame] at hlate
      linarith
  rw [hown]
  refine le_antisymm (SortedSet.zcard_le fun x s hs => ?_)
    (SortedSet.le_zcard halone.distinct fun x hx => ?_)
  · obtain ⟨hlt, e, he, rfl, rfl⟩ := hmember x s hs
    exact List.mem_map.2 ⟨e, List.mem_filter.2 ⟨he, decide_eq_true hlt⟩, rfl⟩
  · obtain ⟨e, he, rfl⟩ := List.mem_map.1 hx
    obtain ⟨he, hlt⟩ := List.mem_filter.1 he
    obtain ⟨s, hs, -⟩ := (hkept e he).resolve_left (hdropped e he (of_decide_eq_true hlt))
    exact ⟨s, hs⟩

/-- **The backends decide alike** about a request that has room in any case, or is alone. -/
theorem dispatch_eq {limiters : Category → RateLimiter} (hm : Mirrors str limits redis h q.clientIp)
    (hr : Remembers limits limiters h) (hepoch : ∀ e ∈ h, 0 ≤ e.1.now)
    (hclock : ∀ e ∈ h, e.1.now ≤ q.now) (hok : HasRoom limits h q ∨ Alone str limits h q) :
    (dispatchMemory limiters q).1 = some (dispatchRedis str limits redis q).1 := by
  have hredis : (dispatchRedis str limits redis q).1 = true ↔
      (((limits q.category).limiter.pruned redis q.clientIp q.now q.now).zcard : ℤ) <
        (limits q.category).max := RateLimiter.checkRedis_allowed ..
  rw [hr.allows_eq hclock, Option.some.injEq, Bool.eq_iff_iff, decide_eq_true_eq, hredis]
  rcases hok with hroom | halone
  · refine iff_of_true (lt_of_le_of_lt (Int.ofNat_le.2 ?_) hroom) (hroom.zcard_lt hm hepoch)
    exact List.Sublist.countP_le List.filter_sublist
  · rw [halone.zcard_eq hm hepoch hclock]

end

/-! ### Runs -/

/-- **The backends agree** in every run in which each request finds its client with room in any case
or alone in its category. -/
theorem backends_agree (str : ℚ → String) (limits : Category → Limit) (qs : List ClientRequest)
    (hclock : qs.Pairwise fun q q' => q.now ≤ q'.now) (hepoch : ∀ q ∈ qs, 0 ≤ q.now)
    (hqs : Admissible recordMemory
      (fun s q => HasRoom limits s.2 q ∨ Alone str limits s.2 q)
      (fun c => (limits c).limiter, []) qs) :
    redisDecisions str limits {} qs = memoryDecisions (fun c => (limits c).limiter) qs := by
  suffices hrun : ∀ (qs : List ClientRequest) (limiters : Category → RateLimiter) (redis : Redis)
      (h : History), (∀ client, Mirrors str limits redis h client) → Remembers limits limiters h →
        (∀ e ∈ h, 0 ≤ e.1.now) → (∀ e ∈ h, ∀ q ∈ qs, e.1.now ≤ q.now) →
          (qs.Pairwise fun q q' => q.now ≤ q'.now) → (∀ q ∈ qs, 0 ≤ q.now) →
            Admissible recordMemory (fun s q => HasRoom limits s.2 q ∨ Alone str limits s.2 q)
              (limiters, h) qs → redisDecisions str limits redis qs = memoryDecisions limiters qs from
    hrun qs _ {} [] mirrors_init remembers_init nofun nofun hclock hepoch hqs
  intro qs
  induction qs with
  | nil => intros; rfl
  | cons q qs ih =>
    intro limiters redis h hm hr hold hpast hclock hepoch hqs
    rw [List.pairwise_cons] at hclock
    rw [List.forall_mem_cons] at hepoch
    have hnow : ∀ e ∈ h, e.1.now ≤ q.now := fun e he => hpast e he q List.mem_cons_self
    have hsame := dispatch_eq (hm q.clientIp) hr hold hnow hqs.1
    have hm' : ∀ client, Mirrors str limits (dispatchRedis str limits redis q).2
        (recordMemory (limiters, h) q).2 client := by
      intro client
      have hstep := (hm client).step hold hnow
      rw [recordMemory, hsame]
      exact hstep
    have hmem : ∀ e ∈ (recordMemory (limiters, h) q).2, e ∈ h ∨ e.1 = q := by
      intro e he
      rcases List.mem_append.1 he with he | he
      · exact .inl he
      · exact .inr (congrArg Prod.fst (List.mem_singleton.1 he))
    rw [redisDecisions, memoryDecisions, hsame]
    refine congrArg _ (ih _ _ _ hm' (hr.step hnow) (fun e he => ?_) (fun e he q' hq' => ?_) hclock.2
      hepoch.2 hqs.2)
    · rcases hmem e he with he | rfl
      · exact hold e he
      · exact hepoch.1
    · rcases hmem e he with he | rfl
      · exact hpast e he q' (List.mem_cons_of_mem _ hq')
      · exact hclock.1 q' hq'

/-! ### Two clients -/

/-- Python's `str` on the readings that are whole seconds. -/
def wholeSeconds (t : ℚ) : String := toString t.num ++ ".0"

/-- One request a minute in every category. -/
def oneAMinute : Category → Limit := fun _ =>
  { max := 1, window := 60, max_pos := by decide, window_pos := by decide }

/-- A client is denied and allowed again in one category while another client uses the others. -/
theorem backends_agree_separate :
    let qs : List ClientRequest := [⟨some "a", "/ws", 100⟩, ⟨some "b", "/api/v1/auth/login", 100⟩,
      ⟨some "a", "/ws", 130⟩, ⟨some "a", "/ws", 161⟩]
    redisDecisions wholeSeconds oneAMinute {} qs =
      memoryDecisions (fun c => (oneAMinute c).limiter) qs :=
  backends_agree _ _ _ (by decide +kernel) (by decide +kernel) (by decide +kernel)

/-- A client that uses two categories is denied on Redis only. -/
theorem shared_keys_deny : ¬ ∀ (str : ℚ → String) (limits : Category → Limit) (qs : List ClientRequest),
    (qs.Pairwise fun q q' => q.now ≤ q'.now) → (∀ q ∈ qs, 0 ≤ q.now) →
      redisDecisions str limits {} qs = memoryDecisions (fun c => (limits c).limiter) qs := by
  intro h
  have hagree := h wholeSeconds oneAMinute
    [⟨some "a", "/api/v1/auth/login", 100⟩, ⟨some "a", "/ws", 101⟩] (by decide +kernel)
    (by decide +kernel)
  exact absurd hagree (by decide +kernel)

end Midscale
