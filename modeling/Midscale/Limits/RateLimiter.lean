import Midscale.Data.Dict
import Midscale.Limits.SlidingWindow
import Midscale.Run.Basic
import Mathlib.Algebra.Order.Ring.Rat
import Mathlib.Data.Rat.Floor

/-!
# The in-memory rate limiter

The limiter prunes the times of a key only when the key is checked, and a clean-up task deletes
whole keys between two requests.  What it keeps of a key and the exact log of the key's allowed
requests differ, but never in what is recent: that is the invariant `Tracks`.

* `tracks_run` : the limiter tracks the log of every key, through checks, resets and clean-ups.
* `sliding_window_exact` : a check is allowed exactly when the window that ends now has room.
-/

namespace Midscale

/-- `int(x)`: rounding towards zero. -/
def truncate (x : ℚ) : ℤ := x.num.tdiv x.den

/-- `app.services.rate_limiter.RateLimiter` without Redis. -/
structure RateLimiter where
  max : ℤ := 100
  window : ℤ := 60
  clients : Dict String (List ℚ) := .empty

namespace RateLimiter

/-- `RateLimiter._check_memory`, `none` for an `IndexError`. -/
def checkMemory (r : RateLimiter) (key : String) (now : ℚ) : Option (Bool × ℤ) × RateLimiter :=
  let windowStart := now - r.window
  let timestamps := (r.clients.getD key []).dropWhile fun s => s < windowStart
  if r.max ≤ timestamps.length then
    (timestamps.head?.map fun oldest =>
        (false, Max.max (truncate (oldest + r.window - now)) 1),
      { r with clients := r.clients.set key timestamps })
  else (some (true, 0), { r with clients := r.clients.set key (timestamps ++ [now]) })

/-- `RateLimiter.reset` -/
def reset (r : RateLimiter) (key : String) : RateLimiter :=
  { r with clients := r.clients.erase key }

/-- `v and v[-1] < window_start` -/
def stale (windowStart : ℚ) (v : List ℚ) : Bool := v.getLast?.any fun s => s < windowStart

/-- One round of `RateLimiter._periodic_cleanup`. -/
def periodicCleanup (r : RateLimiter) (now : ℚ) : RateLimiter :=
  { r with clients := r.clients.filter fun e => !stale (now - r.window) e.2 }

/-- What happens to a limiter. -/
inductive Event
  | check (key : String) (now : ℚ)
  | reset (key : String)
  | cleanup (now : ℚ)

/-- The clock reading of an event. -/
def Event.now? : Event → Option ℚ
  | check _ now => some now
  | reset _ => none
  | cleanup now => some now

/-- The event names the key. -/
def Event.names (k : String) : Event → Bool
  | check key _ => key = k
  | reset key => key = k
  | cleanup _ => false

def step (r : RateLimiter) : Event → RateLimiter
  | .check key now => (r.checkMemory key now).2
  | .reset key => r.reset key
  | .cleanup now => r.periodicCleanup now

/-- Whether a check is allowed, `none` for an `IndexError`. -/
def allows (r : RateLimiter) (key : String) (now : ℚ) : Option Bool :=
  (r.checkMemory key now).1.map Prod.fst

/-- The clock readings of a run. -/
def readings (es : List Event) : List ℚ := es.filterMap Event.now?

/-- A limiter beside the times at which it allowed a key since the last reset of the key. -/
def record (k : String) (s : RateLimiter × List ℚ) (e : Event) : RateLimiter × List ℚ :=
  (s.1.step e,
    match e with
    | .check key now => if key = k ∧ s.1.allows key now = some true then s.2 ++ [now] else s.2
    | .reset key => if key = k then [] else s.2
    | .cleanup _ => s.2)

/-- The times at which a run allowed a key since the last reset of the key. -/
def allowedSinceReset (r : RateLimiter) (k : String) (es : List Event) : List ℚ :=
  (run (record k) (r, []) es).2

/-! ### One event -/

/-- What the limiter keeps of a key. -/
def timestamps (r : RateLimiter) (k : String) : List ℚ := r.clients.getD k []

theorem checkMemory_of_sorted {r : RateLimiter} {key : String} (now : ℚ)
    (h : (r.timestamps key).Pairwise (· ≤ ·)) :
    r.checkMemory key now =
      let kept := recent (r.window : ℚ) now (r.timestamps key)
      if r.max ≤ kept.length then
        (kept.head?.map fun oldest => (false, Max.max (truncate (oldest + r.window - now)) 1),
          { r with clients := r.clients.set key kept })
      else (some (true, 0), { r with clients := r.clients.set key (kept ++ [now]) }) := by
  rw [← dropWhile_eq_recent h]
  rfl

theorem allows_of_sorted {r : RateLimiter} {key : String} (now : ℚ) (hmax : 1 ≤ r.max)
    (h : (r.timestamps key).Pairwise (· ≤ ·)) :
    r.allows key now =
      some (decide ((recent (r.window : ℚ) now (r.timestamps key)).length < r.max)) := by
  rw [allows, checkMemory_of_sorted now h]
  dsimp only
  split_ifs with hfull
  · cases hkept : recent (r.window : ℚ) now (r.timestamps key) with
    | nil =>
      rw [hkept, List.length_nil] at hfull
      omega
    | cons s kept => simpa [hkept] using hfull
  · simpa using hfull

theorem timestamps_check {r : RateLimiter} {key : String} (now : ℚ)
    (h : (r.timestamps key).Pairwise (· ≤ ·)) :
    (r.step (.check key now)).timestamps key =
      if r.max ≤ (recent (r.window : ℚ) now (r.timestamps key)).length then
        recent (r.window : ℚ) now (r.timestamps key)
      else recent (r.window : ℚ) now (r.timestamps key) ++ [now] := by
  rw [step, checkMemory_of_sorted now h]
  dsimp only
  split_ifs <;> simp [timestamps, Dict.getD_set]

theorem timestamps_check_of_ne (r : RateLimiter) {key k : String} (now : ℚ) (hk : k ≠ key) :
    (r.step (.check key now)).timestamps k = r.timestamps k := by
  rw [step, checkMemory]
  split_ifs <;> simp [timestamps, Dict.getD_set, hk]

theorem timestamps_reset (r : RateLimiter) (key k : String) :
    (r.step (.reset key)).timestamps k = if k = key then [] else r.timestamps k := by
  rw [step, reset, timestamps, Dict.erase, Dict.getD_filter]
  by_cases hk : k = key
  · simp [hk]
  · simp [hk, timestamps]

theorem timestamps_cleanup (r : RateLimiter) (now : ℚ) (k : String) :
    (r.step (.cleanup now)).timestamps k =
      if stale (now - r.window) (r.timestamps k) then [] else r.timestamps k := by
  rw [step, periodicCleanup, timestamps, Dict.getD_filter]
  by_cases hs : stale (now - r.window) (r.clients.getD k []) = true
  · simp [hs, timestamps]
  · simp [hs, timestamps]

@[simp] theorem step_max (r : RateLimiter) (e : Event) : (r.step e).max = r.max := by
  cases e with
  | check key now =>
    rw [step, checkMemory]
    split_ifs <;> rfl
  | reset key => rfl
  | cleanup now => rfl

@[simp] theorem step_window (r : RateLimiter) (e : Event) : (r.step e).window = r.window := by
  cases e with
  | check key now =>
    rw [step, checkMemory]
    split_ifs <;> rfl
  | reset key => rfl
  | cleanup now => rfl

theorem stale_iff_of_sorted {t : ℚ} {v : List ℚ} (h : v.Pairwise (· ≤ ·)) :
    stale t v = true ↔ v ≠ [] ∧ ∀ s ∈ v, s < t := by
  cases v using List.reverseRecOn with
  | nil => simp [stale]
  | append_singleton v s =>
    have hle : ∀ r ∈ v, r ≤ s := fun r hr => (List.pairwise_append.1 h).2.2 r hr s (by simp)
    rw [stale, List.getLast?_concat, Option.any_some, decide_eq_true_eq]
    constructor
    · intro hs
      refine ⟨by simp, fun r hr => ?_⟩
      rcases List.mem_append.1 hr with hr | hr
      · exact (hle r hr).trans_lt hs
      · exact List.mem_singleton.1 hr ▸ hs
    · exact fun hall => hall.2 s (by simp)

/-! ### The log of a key -/

/-- The limiter agrees with the log of a key on everything recent, now and later. -/
structure Tracks (r : RateLimiter) (k : String) (past log : List ℚ) : Prop where
  sorted : (r.timestamps k).Pairwise (· ≤ ·)
  kept_past : ∀ s ∈ r.timestamps k, s ∈ past
  log_past : ∀ s ∈ log, s ∈ past
  recent_eq : ∀ t, (∀ s ∈ past, s ≤ t) →
    recent (r.window : ℚ) t (r.timestamps k) = recent (r.window : ℚ) t log
  room : ∀ a, inWindow (r.window : ℚ) a log ≤ r.max.toNat

theorem tracks_init (m w : ℤ) (k : String) : Tracks { max := m, window := w } k [] [] where
  sorted := List.Pairwise.nil
  kept_past := fun _ h => h
  log_past := fun _ h => h
  recent_eq := fun _ _ => rfl
  room := fun _ => Nat.zero_le _

section Tracks

variable {r : RateLimiter} {k : String} {past log : List ℚ}

theorem Tracks.mono (h : Tracks r k past log) {past' : List ℚ} (hsub : ∀ s ∈ past, s ∈ past') :
    Tracks r k past' log where
  sorted := h.sorted
  kept_past := fun s hs => hsub s (h.kept_past s hs)
  log_past := fun s hs => hsub s (h.log_past s hs)
  recent_eq := fun t ht => h.recent_eq t fun s hs => ht s (hsub s hs)
  room := h.room

theorem Tracks.allows_eq (h : Tracks r k past log) (hmax : 1 ≤ r.max) (now : ℚ)
    (hnow : ∀ s ∈ past, s ≤ now) :
    r.allows k now = some (decide (inWindow (r.window : ℚ) (now - r.window) log < r.max)) := by
  rw [allows_of_sorted now hmax h.sorted, h.recent_eq now hnow,
    length_recent fun s hs => hnow s (h.log_past s hs)]

theorem Tracks.of_unchanged (h : Tracks r k past log) {e : Event} (new : List ℚ)
    (hk : (r.step e).timestamps k = r.timestamps k) :
    Tracks (r.step e) k (past ++ new) log where
  sorted := hk ▸ h.sorted
  kept_past := fun s hs => List.mem_append_left _ (h.kept_past s (hk ▸ hs))
  log_past := fun s hs => List.mem_append_left _ (h.log_past s hs)
  recent_eq := fun t ht => by
    rw [hk, step_window]
    exact h.recent_eq t fun s hs => ht s (List.mem_append_left _ hs)
  room := by simpa using h.room

theorem Tracks.check (h : Tracks r k past log) (hmax : 1 ≤ r.max) {now : ℚ}
    (hnow : ∀ s ∈ past, s ≤ now) :
    Tracks (r.step (.check k now)) k (past ++ [now])
      (if r.allows k now = some true then log ++ [now] else log) := by
  have hkept := h.recent_eq now hnow
  have hqueue := timestamps_check now h.sorted
  have hpruned : ∀ s ∈ recent (r.window : ℚ) now (r.timestamps k), s ∈ past := fun s hs =>
    h.kept_past s (mem_recent.1 hs).1
  have hsub : (recent (r.window : ℚ) now (r.timestamps k)).Pairwise (· ≤ ·) :=
    h.sorted.sublist List.filter_sublist
  -- what was pruned now is not recent at any later time
  have hlater : ∀ t, (∀ s ∈ past ++ [now], s ≤ t) →
      recent (r.window : ℚ) t (recent (r.window : ℚ) now (r.timestamps k)) =
        recent (r.window : ℚ) t log := fun t ht => by
    rw [recent_recent _ (ht now (by simp)),
      h.recent_eq t fun s hs => ht s (List.mem_append_left _ hs)]
  rw [allows_of_sorted now hmax h.sorted]
  by_cases hfull : r.max ≤ (recent (r.window : ℚ) now (r.timestamps k)).length
  · rw [if_pos hfull] at hqueue
    rw [if_neg (by simpa using hfull)]
    exact {
      sorted := by rwa [hqueue]
      kept_past := fun s hs => List.mem_append_left _ (hpruned s (hqueue ▸ hs))
      log_past := fun s hs => List.mem_append_left _ (h.log_past s hs)
      recent_eq := fun t ht => by rw [hqueue, step_window, hlater t ht]
      room := by simpa using h.room }
  · rw [if_neg hfull] at hqueue
    rw [if_pos (by simpa using hfull)]
    exact {
      sorted := by
        rw [hqueue]
        refine List.pairwise_append.2 ⟨hsub, List.pairwise_singleton _ _, fun s hs t ht => ?_⟩
        rw [List.mem_singleton.1 ht]
        exact hnow s (hpruned s hs)
      kept_past := fun s hs => by
        rw [hqueue] at hs
        exact (List.mem_append.1 hs).elim (fun hs => List.mem_append_left _ (hpruned s hs))
          fun hs => List.mem_append_right _ hs
      log_past := fun s hs => (List.mem_append.1 hs).elim
        (fun hs => List.mem_append_left _ (h.log_past s hs)) fun hs => List.mem_append_right _ hs
      recent_eq := fun t ht => by
        rw [hqueue, step_window, recent_append, recent_append, hlater t ht]
      room := fun a => by
        rw [step_window, step_max]
        refine inWindow_concat_le ?_ h.room a
        rw [← hkept]
        omega }

theorem tracks_reset (r : RateLimiter) (k : String) (past : List ℚ) :
    Tracks (r.step (.reset k)) k past [] := by
  have hqueue := timestamps_reset r k k
  rw [if_pos rfl] at hqueue
  exact {
    sorted := hqueue ▸ List.Pairwise.nil
    kept_past := fun s hs => by simp [hqueue] at hs
    log_past := fun s hs => by simp at hs
    recent_eq := fun t _ => by rw [hqueue]
    room := fun _ => Nat.zero_le _ }

theorem Tracks.cleanup (h : Tracks r k past log) (now : ℚ) :
    Tracks (r.step (.cleanup now)) k (past ++ [now]) log := by
  have hqueue := timestamps_cleanup r now k
  by_cases hstale : stale (now - r.window) (r.timestamps k) = true
  · rw [if_pos hstale] at hqueue
    have hold := ((stale_iff_of_sorted h.sorted).1 hstale).2
    exact {
      sorted := hqueue ▸ List.Pairwise.nil
      kept_past := fun s hs => by simp [hqueue] at hs
      log_past := fun s hs => List.mem_append_left _ (h.log_past s hs)
      recent_eq := fun t ht => by
        have hle : now ≤ t := ht now (by simp)
        rw [hqueue, step_window, ← h.recent_eq t fun s hs => ht s (List.mem_append_left _ hs)]
        exact (recent_eq_nil fun s hs => (hold s hs).trans_le (sub_le_sub_right hle _)).symm
      room := by simpa using h.room }
  · rw [if_neg hstale] at hqueue
    exact h.of_unchanged [now] hqueue

/-- **Every event keeps track.** -/
theorem Tracks.step (h : Tracks r k past log) (hmax : 1 ≤ r.max) (e : Event)
    (hclock : ∀ t ∈ e.now?, ∀ s ∈ past, s ≤ t) :
    Tracks (r.step e) k (past ++ e.now?.toList) (record k (r, log) e).2 := by
  cases e with
  | check key now =>
    by_cases hk : key = k
    · subst hk
      simpa [record, Event.now?] using h.check hmax (hclock now rfl)
    · simpa [record, Event.now?, hk] using
        h.of_unchanged [now] (timestamps_check_of_ne r now (Ne.symm hk))
  | reset key =>
    by_cases hk : key = k
    · subst hk
      simpa [record, Event.now?] using tracks_reset r key past
    · have hunchanged : (r.step (.reset key)).timestamps k = r.timestamps k := by
        rw [timestamps_reset, if_neg (Ne.symm hk)]
      simpa [record, Event.now?, hk] using h.of_unchanged [] hunchanged
  | cleanup now => exact h.cleanup now

end Tracks

/-! ### Runs -/

theorem readings_concat (es : List Event) (e : Event) :
    readings (es ++ [e]) = readings es ++ e.now?.toList := by
  rw [readings, List.filterMap_append]
  cases e <;> rfl

theorem run_record_fst (r : RateLimiter) (k : String) (es : List Event) (log : List ℚ) :
    (run (record k) (r, log) es).1 = run step r es := by
  induction es generalizing r log with
  | nil => rfl
  | cons e es ih => exact ih (r.step e) _

theorem run_record (r : RateLimiter) (k : String) (es : List Event) :
    run (record k) (r, []) es = (run step r es, r.allowedSinceReset k es) :=
  Prod.ext (run_record_fst r k es []) rfl

@[simp] theorem run_max (r : RateLimiter) (es : List Event) : (run step r es).max = r.max :=
  run_invariant step (P := fun r' => r'.max = r.max)
    (fun r' e h => (step_max r' e).trans h) rfl es

@[simp] theorem run_window (r : RateLimiter) (es : List Event) :
    (run step r es).window = r.window :=
  run_invariant step (P := fun r' => r'.window = r.window)
    (fun r' e h => (step_window r' e).trans h) rfl es

/-- **The limiter tracks the log of every key**, whatever the clocks that do not run backwards. -/
theorem tracks_run {m : ℤ} (w : ℤ) (hmax : 1 ≤ m) (k : String) {es : List Event}
    (hclock : (readings es).Pairwise (· ≤ ·)) :
    Tracks (run step { max := m, window := w } es) k (readings es)
      (allowedSinceReset { max := m, window := w } k es) := by
  induction es using List.reverseRecOn with
  | nil => exact tracks_init m w k
  | append_singleton es e ih =>
    rw [readings_concat, List.pairwise_append] at hclock
    have hstep := (ih hclock.1).step (by simpa using hmax) e fun t ht s hs =>
      hclock.2.2 s hs t (by simpa using ht)
    rw [allowedSinceReset, run_concat, run_concat, run_record, readings_concat]
    exact hstep

/-- The log of a limiter that keeps all its times. -/
def exactRecord (m : ℤ) (w : ℚ) (k : String) (log : List ℚ) : Event → List ℚ
  | .check key now => if key = k ∧ inWindow w (now - w) log < m then log ++ [now] else log
  | .reset key => if key = k then [] else log
  | .cleanup _ => log

theorem run_exactRecord_filter (m : ℤ) (w : ℚ) (k : String) (es : List Event) (log : List ℚ) :
    run (exactRecord m w k) log (es.filter (Event.names k)) = run (exactRecord m w k) log es := by
  induction es generalizing log with
  | nil => rfl
  | cons e es ih =>
    by_cases he : e.names k = true
    · rw [List.filter_cons_of_pos he, run_cons, run_cons, ih]
    · rw [List.filter_cons_of_neg he, run_cons, ih]
      cases e <;> simp_all [Event.names, exactRecord]

theorem allowedSinceReset_eq {m : ℤ} (w : ℤ) (hmax : 1 ≤ m) (k : String) {es : List Event}
    (hclock : (readings es).Pairwise (· ≤ ·)) :
    allowedSinceReset { max := m, window := w } k es = run (exactRecord m w k) [] es := by
  induction es using List.reverseRecOn with
  | nil => rfl
  | append_singleton es e ih =>
    rw [readings_concat, List.pairwise_append] at hclock
    rw [run_concat, ← ih hclock.1, allowedSinceReset, run_concat, run_record]
    cases e with
    | check key now =>
      by_cases hk : key = k
      · subst hk
        have hdecide := (tracks_run w hmax key hclock.1).allows_eq (by simpa using hmax) now
          fun s hs => hclock.2.2 s hs now (by simp [Event.now?])
        simp [record, exactRecord, hdecide]
      · simp [record, exactRecord, hk]
    | reset key => rfl
    | cleanup now => rfl

/-- **The limiter is an exact sliding window.**  A check is allowed exactly when fewer than `m`
checks of the key were allowed in the window that ends now, since the key was last reset; no
window holds more than `m` of these; and other keys and clean-ups change no decision. -/
theorem sliding_window_exact {m : ℤ} (w : ℤ) (hmax : 1 ≤ m) (k : String) (es : List Event) (t : ℚ)
    (hclock : (readings (es ++ [.check k t])).Pairwise (· ≤ ·)) :
    let r : RateLimiter := { max := m, window := w }
    (run step r es).allows k t =
        some (decide (inWindow (w : ℚ) (t - w) (r.allowedSinceReset k es) < m)) ∧
      (∀ a, inWindow (w : ℚ) a (r.allowedSinceReset k es) ≤ m) ∧
      (run step r (es.filter (Event.names k))).allows k t = (run step r es).allows k t := by
  intro r
  rw [readings_concat, List.pairwise_append] at hclock
  have hnow : ∀ s ∈ readings es, s ≤ t := fun s hs => hclock.2.2 s hs t (by simp [Event.now?])
  have hsub : (readings (es.filter (Event.names k))).Sublist (readings es) :=
    List.filter_sublist.filterMap _
  have htracks := tracks_run w hmax k hclock.1
  have htracks' := tracks_run w hmax k (hclock.1.sublist hsub)
  refine ⟨?_, fun a => ?_, ?_⟩
  · simpa using htracks.allows_eq (by simpa using hmax) t hnow
  · have hroom := htracks.room a
    rw [run_window, run_max] at hroom
    exact (Int.toNat_of_nonneg (by omega : (0 : ℤ) ≤ m)) ▸ Int.ofNat_le.2 hroom
  · rw [htracks.allows_eq (by simpa using hmax) t hnow,
      htracks'.allows_eq (by simpa using hmax) t fun s hs => hnow s (hsub.subset hs),
      allowedSinceReset_eq w hmax k hclock.1,
      allowedSinceReset_eq w hmax k (hclock.1.sublist hsub), run_exactRecord_filter]
    simp

/-- A full window, a check of another key and a clean-up between. -/
theorem sliding_window_exact_full :
    let r : RateLimiter := { max := 1, window := 60 }
    let es : List Event := [.check "a" 0, .check "b" 30, .cleanup 60]
    (readings (es ++ [.check "a" 60])).Pairwise (· ≤ ·) ∧
      (run step r es).allows "a" 60 =
        some (decide
          ((inWindow ((60 : ℤ) : ℚ) (60 - (60 : ℤ)) (r.allowedSinceReset "a" es) : ℤ) < 1)) := by
  intro r es
  have hclock : (readings (es ++ [.check "a" 60])).Pairwise (· ≤ ·) := by decide +kernel
  exact ⟨hclock, (sliding_window_exact 60 le_rfl "a" es 60 hclock).1⟩

/-- All the times at which a run allowed a key. -/
def allowedTimes (k : String) : RateLimiter → List Event → List ℚ
  | _, [] => []
  | r, e :: es =>
    (match e with
      | .check key now => if key = k ∧ r.allows key now = some true then [now] else []
      | .reset _ => []
      | .cleanup _ => []) ++ allowedTimes k (r.step e) es

/-- A reset reopens the window: two requests are allowed in one window that has room for one. -/
theorem reset_reopens_window :
    let r : RateLimiter := { max := 1, window := 60 }
    let es : List Event := [.check "a" 0, .reset "a", .check "a" 1]
    (readings es).Pairwise (· ≤ ·) ∧ ¬ inWindow ((60 : ℤ) : ℚ) 0 (allowedTimes "a" r es) ≤ 1 := by
  decide +kernel

end RateLimiter

end Midscale
