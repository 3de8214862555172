import Midscale.Limits.RateLimiter
import Midscale.Limits.Redis

/-!
# The rate limiter on Redis

`RateLimiter._check_redis` runs two transactions: one prunes the sorted set of the key and counts
its members, and, when there is room, another adds the request and renews the expiry.  A request is
a member by the text of its clock reading.

* `RateLimiter.pruneAndCount`, `RateLimiter.addAndExpire` : the two transactions.
* `RateLimiter.checkRedis_allowed` : a check is allowed exactly if fewer members than the maximum
  are left.
-/

namespace Midscale

/-- `f"midscale:ratelimit:{key}"`. -/
def redisKey (key : String) : String := "midscale:ratelimit:" ++ key

theorem append_injective (start : String) : Function.Injective fun text => start ++ text :=
  fun _ _ h => by
    have hlist := congrArg String.toList h
    rw [String.toList_append, String.toList_append] at hlist
    exact String.toList_inj.1 (List.append_cancel_left hlist)

theorem redisKey_injective : Function.Injective redisKey := append_injective _

namespace RateLimiter

/-- The sorted set of a key after `pipe.zremrangebyscore(redis_key, 0, window_start)`, at the time
`redisNow` of the server, for a check with clock reading `now`. -/
def pruned (r : RateLimiter) (redis : Redis) (key : String) (redisNow now : ℚ) : SortedSet :=
  (redis.get redisNow (redisKey key)).zremrangebyscore 0 (now - r.window)

/-- The first transaction: `ZREMRANGEBYSCORE` and `ZCARD`. -/
def pruneAndCount (r : RateLimiter) (redis : Redis) (key : String) (redisNow now : ℚ) : ℕ × Redis :=
  ((r.pruned redis key redisNow now).zcard,
    redis.put (redisKey key) (r.pruned redis key redisNow now))

/-- The transaction of a check that is allowed: `ZADD` and `EXPIRE`.  `str` writes a clock
reading. -/
def addAndExpire (r : RateLimiter) (str : ℚ → String) (redis : Redis) (key : String)
    (redisNow now : ℚ) : Redis :=
  redis.put (redisKey key)
    (((redis.get redisNow (redisKey key)).zadd (str now) now).expire redisNow (r.window * 2))

/-- `RateLimiter._check_redis`, with a server that answers at once. -/
def checkRedis (r : RateLimiter) (str : ℚ → String) (redis : Redis) (key : String) (now : ℚ) :
    (Bool × ℤ) × Redis :=
  let (count, redis) := r.pruneAndCount redis key now now
  if r.max ≤ count then
    let oldest := ((redis.get now (redisKey key)).lowest).getD now
    ((false, Max.max (truncate (oldest + r.window - now)) 1), redis)
  else ((true, 0), r.addAndExpire str redis key now now)

/-- A check is allowed exactly if fewer members than the maximum are left. -/
theorem checkRedis_allowed (r : RateLimiter) (str : ℚ → String) (redis : Redis) (key : String)
    (now : ℚ) : (r.checkRedis str redis key now).1.1 = true ↔
      ((r.pruned redis key now now).zcard : ℤ) < r.max := by
  rw [checkRedis, pruneAndCount]
  dsimp only
  split_ifs with h
  · simpa using h
  · simpa using h

theorem checkRedis_redis (r : RateLimiter) (str : ℚ → String) (redis : Redis) (key : String)
    (now : ℚ) : (r.checkRedis str redis key now).2 =
      if (r.checkRedis str redis key now).1.1 then
        r.addAndExpire str (r.pruneAndCount redis key now now).2 key now now
      else (r.pruneAndCount redis key now now).2 := by
  rw [checkRedis, pruneAndCount]
  by_cases h : r.max ≤ ((r.pruned redis key now now).zcard : ℤ)
  · simp only [if_pos h]
    rfl
  · simp only [if_neg h]
    rfl

/-! ### What the transactions leave -/

section

variable {r : RateLimiter} {redis : Redis} {key : String} {redisNow now : ℚ}

theorem scores_pruned {x : String} {s : ℚ} :
    (r.pruned redis key redisNow now).scores.get? x = some s ↔
      (redis.get redisNow (redisKey key)).scores.get? x = some s ∧ ¬ (0 ≤ s ∧ s ≤ now - r.window) :=
  SortedSet.scores_zremrangebyscore

theorem getD_pruneAndCount :
    (r.pruneAndCount redis key redisNow now).2.keys.getD (redisKey key) {} =
      r.pruned redis key redisNow now := by
  rw [pruneAndCount, Redis.put, Dict.getD_set, if_pos rfl]

theorem getD_pruneAndCount_of_ne {key' : String} (h : key' ≠ key) :
    (r.pruneAndCount redis key redisNow now).2.keys.getD (redisKey key') {} =
      redis.keys.getD (redisKey key') {} :=
  redis.getD_put_of_ne _ fun heq => h (redisKey_injective heq)

theorem getD_addAndExpire (str : ℚ → String) (hwindow : 0 < r.window) :
    (r.addAndExpire str redis key redisNow now).keys.getD (redisKey key) {} =
      { scores := (redis.get redisNow (redisKey key)).scores.set (str now) now
        expiresAt := some (redisNow + (r.window * 2 : ℤ)) } := by
  rw [addAndExpire, Redis.put, Dict.getD_set, if_pos rfl, SortedSet.expire_zadd _ _ _ _ (by omega)]

theorem getD_addAndExpire_of_ne (str : ℚ → String) {key' : String} (h : key' ≠ key) :
    (r.addAndExpire str redis key redisNow now).keys.getD (redisKey key') {} =
      redis.keys.getD (redisKey key') {} :=
  redis.getD_put_of_ne _ fun heq => h (redisKey_injective heq)

end

end RateLimiter

end Midscale
