import Midscale.Limits.Backends
import Midscale.Run.Shared

/-!
# The limit that processes share

Checks of many server processes run against one Redis.  A check reads its clock, has its request
counted in one transaction and, when there was room, adds it in another; between these steps the
others go on.

* `CheckState.next` : one step of a check.
* `Undisturbed` : what a check must find when it is counted to see all the requests of its window.
* `shared_limit_holds` : **no window has more requests of a key than the maximum if every request
  that is added finds room, or was counted undisturbed** and no other was added since.
* `counted_together` : two checks that are counted before either adds its request.
-/

namespace Midscale

/-! ### Checks in steps -/

/-- How far a check has come. -/
inductive CheckState
  | idle
  | reading (key : String) (now : ℚ)
  | counted (key : String) (now : ℚ)
  deriving DecidableEq

/-- The steps of a check. -/
inductive CheckStep
  | read (key : String)
  | count
  | add
  deriving DecidableEq

/-- The next step of a check at a time: it reads the clock, is counted, and adds its request. -/
def CheckState.next (l : Limit) (str : ℚ → String) (i : CheckStep × ℚ) (redis : Redis)
    (s : CheckState) : Redis × CheckState :=
  match i.1, s with
  | .read key, .idle => (redis, .reading key i.2)
  | .count, .reading key now =>
    let (count, redis) := l.limiter.pruneAndCount redis key i.2 now
    (redis, if l.max ≤ count then .idle else .counted key now)
  | .add, .counted key now => (l.limiter.addAndExpire str redis key i.2 now, .idle)
  | _, s => (redis, s)

/-- The key and the clock reading of a request that was counted and is to be added. -/
def CheckState.counted? : CheckState → Option (String × ℚ)
  | .counted key now => some (key, now)
  | _ => none

/-- The checks with the server, and what has happened so far. -/
structure Traffic (P : Type) where
  world : Shared P Redis CheckState := { store := {}, locals := fun _ => .idle }
  clock : ℚ := 0
  /-- The clock readings of the requests of a key that were allowed. -/
  allowed : String → List ℚ := fun _ => []
  /-- The clock readings of the checks of a key that were counted. -/
  counts : String → List ℚ := fun _ => []
  /-- The checks that were counted undisturbed, and no request of the key was added since. -/
  undisturbed : P → Bool := fun _ => false

section

variable {P : Type} [DecidableEq P] (l : Limit) (str : ℚ → String)

/-- What a check with reading `now` must find when it is counted at a time: the requests of its window
have texts of their own, none is exactly one window old, no other check has pruned one of them, and it
is no more than a window since the clock was read. -/
structure Undisturbed (s : Traffic P) (key : String) (now time : ℚ) : Prop where
  distinct : ∀ r ∈ s.allowed key, now - l.window < r →
    (s.allowed key).countP (fun r' => str r' = str r) = 1
  boundary : ∀ r ∈ s.allowed key, r ≠ now - l.window
  kept : ∀ r ∈ s.allowed key, now - l.window < r → ∀ t ∈ s.counts key, t - l.window < r
  timely : time ≤ now + l.window

instance (s : Traffic P) (key : String) (now time : ℚ) :
    Decidable (Undisturbed l str s key now time) :=
  decidable_of_iff
    ((∀ r ∈ s.allowed key, now - l.window < r →
        (s.allowed key).countP (fun r' => str r' = str r) = 1) ∧
      (∀ r ∈ s.allowed key, r ≠ now - l.window) ∧
      (∀ r ∈ s.allowed key, now - l.window < r → ∀ t ∈ s.counts key, t - l.window < r) ∧
      time ≤ now + l.window)
    ⟨fun ⟨h₁, h₂, h₃, h₄⟩ => ⟨h₁, h₂, h₃, h₄⟩, fun ⟨h₁, h₂, h₃, h₄⟩ => ⟨h₁, h₂, h₃, h₄⟩⟩

/-- One step of one check, and what has happened then. -/
def Traffic.step (s : Traffic P) (e : P × CheckStep × ℚ) : Traffic P :=
  let world := s.world.step (fun _ => CheckState.next l str) e
  match e.2.1, s.world.locals e.1 with
  | .count, .reading key now =>
    { s with
      world := world
      clock := e.2.2
      counts := Function.update s.counts key (s.counts key ++ [now])
      undisturbed := Function.update s.undisturbed e.1 (Undisturbed l str s key now e.2.2) }
  | .add, .counted key now =>
    { s with
      world := world
      clock := e.2.2
      allowed := Function.update s.allowed key (s.allowed key ++ [now])
      undisturbed := fun p => s.undisturbed p ∧ (s.world.locals p).counted?.all (·.1 ≠ key) }
  | _, _ => { s with world := world, clock := e.2.2 }

variable {l str}

/-- What a step can do: nothing to the server, count a check, or add a request. -/
theorem Traffic.step_cases (s : Traffic P) (p : P) (i : CheckStep) (time : ℚ) :
    (∃ c, (c = s.world.locals p ∨ ∃ key, c = .reading key time) ∧ s.step l str (p, i, time) =
      { s with
        world := { store := s.world.store, locals := Function.update s.world.locals p c }
        clock := time }) ∨
    (∃ key now, s.world.locals p = .reading key now ∧ s.step l str (p, i, time) =
      { s with
        world :=
          { store := (l.limiter.pruneAndCount s.world.store key time now).2
            locals := Function.update s.world.locals p
              (if l.max ≤ (l.limiter.pruned s.world.store key time now).zcard then .idle
                else .counted key now) }
        clock := time
        counts := Function.update s.counts key (s.counts key ++ [now])
        undisturbed := Function.update s.undisturbed p (Undisturbed l str s key now time) }) ∨
    ∃ key now, i = .add ∧ s.world.locals p = .counted key now ∧ s.step l str (p, i, time) =
      { s with
        world :=
          { store := l.limiter.addAndExpire str s.world.store key time now
            locals := Function.update s.world.locals p .idle }
        clock := time
        allowed := Function.update s.allowed key (s.allowed key ++ [now])
        undisturbed := fun q => s.undisturbed q ∧ (s.world.locals q).counted?.all (·.1 ≠ key) } := by
  cases hlocal : s.world.locals p with
  | idle =>
    cases i with
    | read key =>
      refine .inl ⟨.reading key time, .inr ⟨key, rfl⟩, ?_⟩
      simp only [step, Shared.step, CheckState.next, hlocal]
    | count => exact .inl ⟨.idle, .inl rfl, by simp only [step, Shared.step, CheckState.next, hlocal]⟩
    | add => exact .inl ⟨.idle, .inl rfl, by simp only [step, Shared.step, CheckState.next, hlocal]⟩
  | reading key now =>
    cases i with
    | read key' => exact .inl ⟨_, .inl rfl, by simp only [step, Shared.step, CheckState.next, hlocal]⟩
    | count =>
      refine .inr (.inl ⟨key, now, rfl, ?_⟩)
      simp only [step, Shared.step, CheckState.next, hlocal]
      rfl
    | add => exact .inl ⟨_, .inl rfl, by simp only [step, Shared.step, CheckState.next, hlocal]⟩
  | counted key now =>
    cases i with
    | read key' => exact .inl ⟨_, .inl rfl, by simp only [step, Shared.step, CheckState.next, hlocal]⟩
    | count => exact .inl ⟨_, .inl rfl, by simp only [step, Shared.step, CheckState.next, hlocal]⟩
    | add =>
      refine .inr (.inr ⟨key, now, rfl, rfl, ?_⟩)
      simp only [step, Shared.step, CheckState.next, hlocal]

/-! ### The invariant -/

/-- What is stored under a key. -/
def Traffic.stored (s : Traffic P) (key : String) : SortedSet :=
  s.world.store.keys.getD (redisKey key) {}

/-- The windows have no more requests than the maximum; the members under a key are requests that were
allowed, and the others were pruned, or have expired; and a check that was counted undisturbed still
has room. -/
structure Traffic.Sound (l : Limit) (str : ℚ → String) (s : Traffic P) : Prop where
  clock_nonneg : 0 ≤ s.clock
  windows : ∀ key a, inWindow (l.window : ℚ) a (s.allowed key) ≤ l.max.toNat
  past : ∀ key, ∀ r ∈ s.allowed key, 0 ≤ r ∧ r ≤ s.clock
  readings : ∀ p key now, s.world.locals p = .reading key now ∨ s.world.locals p = .counted key now →
    0 ≤ now ∧ now ≤ s.clock
  member : ∀ key x r, (s.stored key).scores.get? x = some r → r ∈ s.allowed key ∧ str r = x
  kept : ∀ key, ∀ r ∈ s.allowed key, (∃ r', (s.stored key).scores.get? (str r) = some r') ∨
    (∃ r' ∈ s.allowed key, str r' = str r ∧ ∃ t ∈ s.counts key, r' ≤ t - l.window) ∨
      r + l.window * 2 < s.clock
  expires : ∀ key t, (s.stored key).expiresAt = some t → ∀ r ∈ s.allowed key, r + l.window * 2 ≤ t
  room : ∀ p key now, s.world.locals p = .counted key now → s.undisturbed p = true →
    (recent (l.window : ℚ) now (s.allowed key)).length < l.max.toNat

omit [DecidableEq P] in
theorem Traffic.sound_init : Traffic.Sound l str ({} : Traffic P) where
  clock_nonneg := le_refl _
  windows := fun _ _ => Nat.zero_le _
  past := nofun
  readings := fun p key now h => by rcases h with h | h <;> cases h
  member := nofun
  kept := nofun
  expires := nofun
  room := fun p key now h => by cases h

section

variable {s : Traffic P} (h : s.Sound l str) {p : P} {time : ℚ} (htime : s.clock ≤ time)
include h htime

theorem Traffic.Sound.readings_update {c : CheckState}
    (hc : ∀ key now, c = .reading key now ∨ c = .counted key now → 0 ≤ now ∧ now ≤ time) :
    ∀ q key now, Function.update s.world.locals p c q = .reading key now ∨
      Function.update s.world.locals p c q = .counted key now → 0 ≤ now ∧ now ≤ time := by
  intro q key now hq
  by_cases hqp : q = p
  · subst hqp
    rw [Function.update_self] at hq
    exact hc key now hq
  · rw [Function.update_of_ne hqp] at hq
    exact ⟨(h.readings q key now hq).1, (h.readings q key now hq).2.trans htime⟩

omit [DecidableEq P] in
theorem Traffic.Sound.past_later {key : String} {r : ℚ} (hr : r ∈ s.allowed key) :
    0 ≤ r ∧ r ≤ time :=
  ⟨(h.past key r hr).1, (h.past key r hr).2.trans htime⟩

omit [DecidableEq P] in
theorem Traffic.Sound.kept_later {key : String} {r : ℚ} (hr : r ∈ s.allowed key) :
    (∃ r', (s.stored key).scores.get? (str r) = some r') ∨
      (∃ r' ∈ s.allowed key, str r' = str r ∧ ∃ t ∈ s.counts key, r' ≤ t - l.window) ∨
        r + l.window * 2 < time :=
  (h.kept key r hr).imp_right (Or.imp_right fun hlt => hlt.trans_le htime)

/-- A step that leaves the server alone. -/
theorem Traffic.Sound.leave {c : CheckState}
    (hc : c = s.world.locals p ∨ ∃ key, c = .reading key time) :
    Traffic.Sound l str { s with
      world := { store := s.world.store, locals := Function.update s.world.locals p c }
      clock := time } where
  clock_nonneg := h.clock_nonneg.trans htime
  windows := h.windows
  past := fun key r hr => h.past_later htime hr
  readings := h.readings_update htime fun key now hq => by
    rcases hc with rfl | ⟨key', rfl⟩
    · exact ⟨(h.readings p key now hq).1, (h.readings p key now hq).2.trans htime⟩
    · rcases hq with hq | hq <;> cases hq
      exact ⟨h.clock_nonneg.trans htime, le_refl _⟩
  member := h.member
  kept := fun key r hr => h.kept_later htime hr
  expires := h.expires
  room := fun q key now hq hu => by
    by_cases hqp : q = p
    · subst hqp
      simp only [Function.update_self] at hq
      rcases hc with rfl | ⟨key', rfl⟩
      · exact h.room q key now hq hu
      · cases hq
    · simp only [Function.update_of_ne hqp] at hq
      exact h.room q key now hq hu

omit [DecidableEq P] in
/-- What is found of a request that was allowed. -/
theorem Traffic.Sound.found {key : String} {r : ℚ} (hr : r ∈ s.allowed key) :
    (∃ r', (s.world.store.get time (redisKey key)).scores.get? (str r) = some r') ∨
      (∃ r' ∈ s.allowed key, str r' = str r ∧ ∃ t ∈ s.counts key, r' ≤ t - l.window) ∨
        r + l.window * 2 < time := by
  rcases h.kept key r hr with ⟨r', hr'⟩ | hold
  · by_cases hexpired : ∃ t, (s.stored key).expiresAt = some t ∧ t < time
    · obtain ⟨t, ht, hlt⟩ := hexpired
      exact .inr (.inr ((h.expires key t ht r hr).trans_lt hlt))
    · have hlive : s.world.store.get time (redisKey key) = s.stored key :=
        SortedSet.live_of_not_expired fun t ht => not_lt.1 fun hlt => hexpired ⟨t, ht, hlt⟩
      exact .inl ⟨r', by rw [hlive, hr']⟩
  · exact .inr (hold.imp_right fun hlt => hlt.trans_le htime)

omit [DecidableEq P] htime in
theorem Traffic.Sound.of_found {key x : String} {r : ℚ}
    (hr : (s.world.store.get time (redisKey key)).scores.get? x = some r) :
    r ∈ s.allowed key ∧ str r = x := by
  rw [Redis.get, SortedSet.live] at hr
  split_ifs at hr
  · cases hr
  · exact h.member key x r hr

omit [DecidableEq P] in
/-- What a check that is undisturbed finds when it is counted: all requests of its window. -/
theorem Traffic.Sound.recent_le {key : String} {now : ℚ}
    (hu : Undisturbed l str s key now time) :
    (recent (l.window : ℚ) now (s.allowed key)).length ≤
      (l.limiter.pruned s.world.store key time now).zcard := by
  have hrecent : ∀ r ∈ recent (l.window : ℚ) now (s.allowed key),
      r ∈ s.allowed key ∧ now - l.window < r := fun r hr => by
    obtain ⟨hmem, hle⟩ := mem_recent.1 hr
    exact ⟨hmem, lt_of_le_of_ne hle (hu.boundary r hmem).symm⟩
  -- a text stands for one request
  have hsame : ∀ r ∈ s.allowed key, now - l.window < r → ∀ r' ∈ s.allowed key, str r' = str r →
      r' = r := by
    intro r hr hlt r' hr' htext
    have hone := hu.distinct r hr hlt
    rw [List.countP_eq_length_filter, List.length_eq_one_iff] at hone
    obtain ⟨r'', hfilter⟩ := hone
    have hin : r ∈ (s.allowed key).filter fun r' => str r' = str r :=
      List.mem_filter.2 ⟨hr, decide_eq_true rfl⟩
    have hin' : r' ∈ (s.allowed key).filter fun r' => str r' = str r :=
      List.mem_filter.2 ⟨hr', decide_eq_true htext⟩
    rw [hfilter, List.mem_singleton] at hin hin'
    rw [hin, hin']
  have hnodup : ((recent (l.window : ℚ) now (s.allowed key)).map str).Nodup := by
    refine List.nodup_iff_count_le_one.2 fun x => ?_
    by_cases hx : x ∈ (recent (l.window : ℚ) now (s.allowed key)).map str
    · obtain ⟨r, hr, rfl⟩ := List.mem_map.1 hx
      obtain ⟨hmem, hlt⟩ := hrecent r hr
      rw [List.count, List.countP_map, ← hu.distinct r hmem hlt]
      refine (List.Sublist.countP_le List.filter_sublist).trans (List.countP_mono_left ?_)
      exact fun r' _ htext => decide_eq_true (beq_iff_eq.1 htext)
    · rw [List.count_eq_zero.2 hx]
      exact Nat.zero_le 1
  rw [← List.length_map (f := str)]
  refine SortedSet.le_zcard hnodup fun x hx => ?_
  obtain ⟨r, hr, rfl⟩ := List.mem_map.1 hx
  obtain ⟨hmem, hlt⟩ := hrecent r hr
  rcases h.found htime hmem with ⟨r', hr'⟩ | ⟨r', hr', htext, t, ht, hold⟩ | hold
  · obtain ⟨hmem', htext⟩ := h.of_found hr'
    rw [hsame r hmem hlt r' hmem' htext] at hr'
    exact ⟨r, RateLimiter.scores_pruned.2 ⟨hr', fun hold => not_le.2 hlt hold.2⟩⟩
  · rw [hsame r hmem hlt r' hr' htext] at hold
    exact absurd hold (not_le.2 (hu.kept r hmem hlt t ht))
  · have htimely := hu.timely
    linarith

/-- What is sound about one key: its windows, and the requests that are stored under it. -/
structure KeySound (l : Limit) (str : ℚ → String) (set : SortedSet) (allowed counts : List ℚ)
    (time : ℚ) : Prop where
  windows : ∀ a, inWindow (l.window : ℚ) a allowed ≤ l.max.toNat
  past : ∀ r ∈ allowed, 0 ≤ r ∧ r ≤ time
  member : ∀ x r, set.scores.get? x = some r → r ∈ allowed ∧ str r = x
  kept : ∀ r ∈ allowed, (∃ r', set.scores.get? (str r) = some r') ∨
    (∃ r' ∈ allowed, str r' = str r ∧ ∃ t ∈ counts, r' ≤ t - l.window) ∨
      r + l.window * 2 < time
  expires : ∀ t, set.expiresAt = some t → ∀ r ∈ allowed, r + l.window * 2 ≤ t

omit [DecidableEq P] in
theorem Traffic.Sound.keySound (key : String) :
    KeySound l str (s.stored key) (s.allowed key) (s.counts key) time where
  windows := h.windows key
  past := fun _ => h.past_later htime
  member := h.member key
  kept := fun _ => h.kept_later htime
  expires := h.expires key

omit [DecidableEq P] in
theorem Traffic.Sound.of_key {s' : Traffic P} (key : String) (hclock : s'.clock = time)
    (hkey : KeySound l str (s'.stored key) (s'.allowed key) (s'.counts key) time)
    (hother : ∀ k, k ≠ key →
      s'.stored k = s.stored k ∧ s'.allowed k = s.allowed k ∧ s'.counts k = s.counts k)
    (hreadings : ∀ q k t, s'.world.locals q = .reading k t ∨ s'.world.locals q = .counted k t →
      0 ≤ t ∧ t ≤ time)
    (hroom : ∀ q k t, s'.world.locals q = .counted k t → s'.undisturbed q = true →
      (recent (l.window : ℚ) t (s'.allowed k)).length < l.max.toNat) :
    s'.Sound l str := by
  have hall : ∀ k, KeySound l str (s'.stored k) (s'.allowed k) (s'.counts k) s'.clock := by
    intro k
    rw [hclock]
    by_cases hk : k = key
    · subst hk
      exact hkey
    · obtain ⟨hstored, hallowed, hcounts⟩ := hother k hk
      rw [hstored, hallowed, hcounts]
      exact h.keySound htime k
  exact {
    clock_nonneg := hclock ▸ h.clock_nonneg.trans htime
    windows := fun k => (hall k).windows
    past := fun k => (hall k).past
    readings := fun q k t hq => hclock ▸ hreadings q k t hq
    member := fun k => (hall k).member
    kept := fun k => (hall k).kept
    expires := fun k => (hall k).expires
    room := hroom }

omit [DecidableEq P] in
theorem Traffic.Sound.keySound_count (key : String) (now : ℚ) :
    KeySound l str (l.limiter.pruned s.world.store key time now) (s.allowed key)
      (s.counts key ++ [now]) time where
  windows := h.windows key
  past := fun _ => h.past_later htime
  member := fun _ _ hr => h.of_found (RateLimiter.scores_pruned.1 hr).1
  kept := fun r hr => by
    rcases h.found htime hr with ⟨r', hr'⟩ | ⟨r', hr', htext, t, ht, hold⟩ | hold
    · obtain ⟨hmem, htext⟩ := h.of_found hr'
      by_cases hold : 0 ≤ r' ∧ r' ≤ now - l.window
      · exact .inr (.inl ⟨r', hmem, htext, now, by simp, hold.2⟩)
      · exact .inl ⟨r', RateLimiter.scores_pruned.2 ⟨hr', hold⟩⟩
    · exact .inr (.inl ⟨r', hr', htext, t, List.mem_append_left _ ht, hold⟩)
    · exact .inr (.inr hold)
  expires := fun t ht =>
    h.expires key t (SortedSet.expiresAt_live (SortedSet.expiresAt_zremrangebyscore ht)).1

/-- A check is counted. -/
theorem Traffic.Sound.count {key : String} {now : ℚ}
    (hlocal : s.world.locals p = .reading key now) :
    Traffic.Sound l str { s with
      world :=
        { store := (l.limiter.pruneAndCount s.world.store key time now).2
          locals := Function.update s.world.locals p
            (if l.max ≤ (l.limiter.pruned s.world.store key time now).zcard then .idle
              else .counted key now) }
      clock := time
      counts := Function.update s.counts key (s.counts key ++ [now])
      undisturbed := Function.update s.undisturbed p (Undisturbed l str s key now time) } := by
  have hself : (l.limiter.pruneAndCount s.world.store key time now).2.keys.getD (redisKey key) {} =
      l.limiter.pruned s.world.store key time now := RateLimiter.getD_pruneAndCount
  refine h.of_key htime key rfl ?_ (fun k hk => ⟨?_, rfl, ?_⟩) ?_ fun q k t hq hu => ?_
  · rw [Traffic.stored, hself]
    simp only [Function.update_self]
    exact h.keySound_count htime key now
  · exact RateLimiter.getD_pruneAndCount_of_ne hk
  · exact Function.update_of_ne hk ..
  · refine h.readings_update htime fun k t hq => ?_
    have hread := h.readings p key now (.inl hlocal)
    split_ifs at hq with hfull
    · rcases hq with hq | hq <;> cases hq
    · rcases hq with hq | hq <;> cases hq
      exact ⟨hread.1, hread.2.trans htime⟩
  · by_cases hqp : q = p
    · subst hqp
      simp only [Function.update_self] at hq hu
      split_ifs at hq with hfull
      cases hq
      have hle := h.recent_le htime (of_decide_eq_true hu)
      change (recent (l.window : ℚ) now (s.allowed key)).length < _
      omega
    · simp only [Function.update_of_ne hqp] at hq hu
      exact h.room q k t hq hu

omit [DecidableEq P] in
/-- The key of a request that is added. -/
theorem Traffic.Sound.keySound_add {key : String} {now : ℚ} (hnow : 0 ≤ now ∧ now ≤ s.clock)
    (hroom : (recent (l.window : ℚ) now (s.allowed key)).length < l.max.toNat) :
    KeySound l str ((l.limiter.addAndExpire str s.world.store key time now).keys.getD
      (redisKey key) {}) (s.allowed key ++ [now]) (s.counts key) time := by
  have hpast : ∀ r ∈ s.allowed key ++ [now], 0 ≤ r ∧ r ≤ time := by
    intro r hr
    rcases List.mem_append.1 hr with hr | hr
    · exact h.past_later htime hr
    · rw [List.mem_singleton.1 hr]
      exact ⟨hnow.1, hnow.2.trans htime⟩
  rw [@RateLimiter.getD_addAndExpire l.limiter s.world.store key time now str l.window_pos]
  refine ⟨inWindow_concat_le hroom (h.windows key), hpast, fun x r hr => ?_, fun r hr => ?_,
    fun t ht r hr => ?_⟩
  · rw [Dict.get?_set] at hr
    split_ifs at hr with hx
    · cases hr
      exact ⟨List.mem_append_right _ (List.mem_singleton_self _), hx.symm⟩
    · exact ⟨List.mem_append_left _ (h.of_found hr).1, (h.of_found hr).2⟩
  · rw [Dict.get?_set]
    split_ifs with hx
    · exact .inl ⟨now, rfl⟩
    · rcases List.mem_append.1 hr with hr | hr
      · refine (h.found htime hr).imp_right (Or.imp_left ?_)
        rintro ⟨r', hr', hold⟩
        exact ⟨r', List.mem_append_left _ hr', hold⟩
      · exact absurd (congrArg str (List.mem_singleton.1 hr)) hx
  · rw [Option.some.injEq] at ht
    rw [← ht]
    push_cast
    exact add_le_add_left (hpast r hr).2 _

/-- A request is added that finds room. -/
theorem Traffic.Sound.add {key : String} {now : ℚ} (hlocal : s.world.locals p = .counted key now)
    (hroom : (recent (l.window : ℚ) now (s.allowed key)).length < l.max.toNat) :
    Traffic.Sound l str { s with
      world :=
        { store := l.limiter.addAndExpire str s.world.store key time now
          locals := Function.update s.world.locals p .idle }
      clock := time
      allowed := Function.update s.allowed key (s.allowed key ++ [now])
      undisturbed := fun q => s.undisturbed q ∧ (s.world.locals q).counted?.all (·.1 ≠ key) } := by
  have hnow := h.readings p key now (.inr hlocal)
  refine h.of_key htime key rfl ?_ (fun k hk => ⟨?_, ?_, rfl⟩) ?_ fun q k t hq hu => ?_
  · simp only [Traffic.stored, Function.update_self]
    exact h.keySound_add htime hnow hroom
  · exact RateLimiter.getD_addAndExpire_of_ne str hk
  · exact Function.update_of_ne hk ..
  · refine h.readings_update htime fun k t hq => ?_
    rcases hq with hq | hq <;> cases hq
  · by_cases hqp : q = p
    · subst hqp
      simp only [Function.update_self] at hq
      cases hq
    · simp only [Function.update_of_ne hqp] at hq
      obtain ⟨hu, hkey⟩ := of_decide_eq_true hu
      rw [hq] at hkey
      have hk : k ≠ key := of_decide_eq_true hkey
      simp only [Function.update_of_ne hk]
      exact h.room q k t hq hu

end

/-! ### Runs -/

/-- The clocks agree and do not run backwards. -/
def ClockOk (s : Traffic P) (e : P × CheckStep × ℚ) : Prop := s.clock ≤ e.2.2

/-- A request that is added finds room in the window that ends at its clock reading, or it was counted
undisturbed and no other request of the key was added since. -/
def AddOk (l : Limit) (s : Traffic P) (e : P × CheckStep × ℚ) : Prop :=
  e.2.1 = .add → ∀ c ∈ (s.world.locals e.1).counted?,
    (recent (l.window : ℚ) c.2 (s.allowed c.1)).length < l.max.toNat ∨ s.undisturbed e.1 = true

instance (l : Limit) (s : Traffic P) (e : P × CheckStep × ℚ) : Decidable (AddOk l s e) :=
  inferInstanceAs (Decidable (_ → _))

instance (s : Traffic P) (e : P × CheckStep × ℚ) : Decidable (ClockOk s e) :=
  inferInstanceAs (Decidable (_ ≤ _))

/-- **Every step keeps the limit**, if what it adds finds room or was counted undisturbed. -/
theorem Traffic.Sound.step {s : Traffic P} (h : s.Sound l str) {e : P × CheckStep × ℚ}
    (hclock : ClockOk s e) (hadd : AddOk l s e) : (s.step l str e).Sound l str := by
  obtain ⟨p, i, time⟩ := e
  rcases @Traffic.step_cases P _ l str s p i time with
    ⟨c, hc, hstep⟩ | ⟨key, now, hlocal, hstep⟩ | ⟨key, now, hi, hlocal, hstep⟩
  · rw [hstep]
    exact h.leave hclock hc
  · rw [hstep]
    exact h.count hclock hlocal
  · rw [hstep]
    refine h.add hclock hlocal ?_
    have hok := hadd hi (key, now) (by rw [hlocal]; rfl)
    exact hok.elim id fun hu => h.room p key now hlocal hu

/-- **The limit holds in every window and for every key**, if every request that is added finds room
or was counted undisturbed. -/
theorem shared_limit_holds (l : Limit) (str : ℚ → String) (es : List (P × CheckStep × ℚ))
    (hclock : Admissible (Traffic.step l str) ClockOk {} es)
    (hadd : Admissible (Traffic.step l str) (AddOk l) {} es) (key : String) (a : ℚ) :
    (inWindow (l.window : ℚ) a ((run (Traffic.step l str) {} es).allowed key) : ℤ) ≤ l.max := by
  have hsound : (run (Traffic.step l str) {} es).Sound l str :=
    run_invariant_of_admissible (Traffic.step l str) (fun s e h hok => h.step hok.1 hok.2)
      Traffic.sound_init ((admissible_and _).2 ⟨hclock, hadd⟩)
  have hle := hsound.windows key a
  have hmax := l.max_pos
  omega

end

/-! ### Two processes -/

/-- The second process is denied, and allowed when the request of the first is old. -/
theorem shared_limit_holds_turns :
    let es : List (Bool × CheckStep × ℚ) := [(true, .read "a", 100), (true, .count, 100),
      (false, .read "a", 101), (true, .add, 101), (false, .count, 102), (false, .read "a", 170),
      (false, .count, 170), (false, .add, 171)]
    (inWindow ((60 : ℤ) : ℚ) 101
      ((run (Traffic.step (oneAMinute .default) wholeSeconds) {} es).allowed "a") : ℤ) ≤ 1 :=
  shared_limit_holds (oneAMinute .default) wholeSeconds _ (by decide +kernel) (by decide +kernel) "a"
    101

/-- Two checks are counted before either adds its request: one window has two requests where there is
room for one. -/
theorem counted_together : ¬ ∀ (l : Limit) (str : ℚ → String) (es : List (Bool × CheckStep × ℚ)),
    Admissible (Traffic.step l str) ClockOk {} es → ∀ key a,
      (inWindow (l.window : ℚ) a ((run (Traffic.step l str) {} es).allowed key) : ℤ) ≤ l.max := by
  intro h
  have hle := h (oneAMinute .default) wholeSeconds [(true, .read "a", 100), (false, .read "a", 101),
    (true, .count, 101), (false, .count, 101), (true, .add, 102), (false, .add, 102)]
    (by decide +kernel) "a" 100
  exact absurd hle (by decide +kernel)

end Midscale
