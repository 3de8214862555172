import Mathlib.Algebra.Order.Ring.Rat
import Mathlib.Data.List.Perm.Subperm
import Midscale.Data.Dict

/-!
# Sorted sets that expire

The sorted sets of a Redis server.  A key holds a score for each of its members and perhaps a time
at which it expires; a key that has expired, and one that has lost its last member, holds nothing
and expires no more.

* `SortedSet.scores_zremrangebyscore` : what a removal by score leaves.
* `SortedSet.zcard_le`, `SortedSet.le_zcard` : the members are counted once each.
* `Redis.get_put_of_ne` : a command concerns one key.
-/

namespace Midscale

/-- A sorted set with the time at which its key expires. -/
structure SortedSet where
  scores : Dict String ℚ := .empty
  expiresAt : Option ℚ := none

namespace SortedSet

/-- What a command at time `now` finds under the key. -/
def live (z : SortedSet) (now : ℚ) : SortedSet := if z.expiresAt.any (· < now) then {} else z

/-- `ZREMRANGEBYSCORE key lo hi`. -/
def zremrangebyscore (z : SortedSet) (lo hi : ℚ) : SortedSet :=
  let scores := z.scores.filter fun e => ¬ (lo ≤ e.2 ∧ e.2 ≤ hi)
  if scores.items = [] then {} else { z with scores := scores }

/-- `ZCARD key`. -/
def zcard (z : SortedSet) : ℕ := z.scores.items.length

/-- `ZADD key score member`. -/
def zadd (z : SortedSet) (member : String) (score : ℚ) : SortedSet :=
  { z with scores := z.scores.set member score }

/-- The score of the member that `ZRANGE key 0 0 WITHSCORES` returns. -/
def lowest (z : SortedSet) : Option ℚ := (z.scores.items.map Prod.snd).min?

/-- `EXPIRE key seconds` at time `now`; a time that is not to come deletes the key. -/
def expire (z : SortedSet) (now : ℚ) (seconds : ℤ) : SortedSet :=
  if z.scores.items = [] ∨ seconds ≤ 0 then {} else { z with expiresAt := some (now + seconds) }

/-! ### What the commands leave -/

theorem live_of_expired {z : SortedSet} {now t : ℚ} (ht : z.expiresAt = some t) (h : t < now) :
    z.live now = {} := by
  rw [live, ht, Option.any_some, if_pos (decide_eq_true h)]

theorem live_of_not_expired {z : SortedSet} {now : ℚ} (h : ∀ t, z.expiresAt = some t → now ≤ t) :
    z.live now = z := by
  rw [live, if_neg]
  rw [Option.any_eq_true]
  rintro ⟨t, ht, hlt⟩
  exact absurd (h t ht) (not_le.2 (of_decide_eq_true hlt))

theorem expiresAt_live {z : SortedSet} {now t : ℚ} (h : (z.live now).expiresAt = some t) :
    z.expiresAt = some t ∧ now ≤ t := by
  rw [live] at h
  split_ifs at h with hexpired
  refine ⟨h, not_lt.1 fun hlt => hexpired ?_⟩
  rw [h, Option.any_some, decide_eq_true hlt]

/-- What a removal by score leaves. -/
theorem scores_zremrangebyscore {z : SortedSet} {lo hi : ℚ} {x : String} {s : ℚ} :
    (z.zremrangebyscore lo hi).scores.get? x = some s ↔
      z.scores.get? x = some s ∧ ¬ (lo ≤ s ∧ s ≤ hi) := by
  have hfilter := Dict.get?_filter (d := z.scores) (p := fun e => ¬ (lo ≤ e.2 ∧ e.2 ≤ hi)) (k := x)
    (v := s)
  rw [decide_eq_true_eq] at hfilter
  rw [← hfilter, zremrangebyscore]
  split_ifs with hnil
  · rw [Dict.get?, Dict.get?, hnil]
    rfl
  · rfl

theorem expiresAt_zremrangebyscore {z : SortedSet} {lo hi t : ℚ}
    (h : (z.zremrangebyscore lo hi).expiresAt = some t) : z.expiresAt = some t := by
  rw [zremrangebyscore] at h
  split_ifs at h
  exact h

theorem items_zadd_ne_nil (z : SortedSet) (x : String) (s : ℚ) :
    (z.zadd x s).scores.items ≠ [] := by
  intro h
  have hget := Dict.get?_set_self z.scores x s
  rw [Dict.get?_eq_some_iff] at hget
  exact List.not_mem_nil (h ▸ hget)

theorem expire_zadd (z : SortedSet) (x : String) (s now : ℚ) {seconds : ℤ} (h : 0 < seconds) :
    (z.zadd x s).expire now seconds =
      { scores := z.scores.set x s, expiresAt := some (now + seconds) } := by
  rw [expire, if_neg]
  · rfl
  · rintro (hnil | hle)
    · exact z.items_zadd_ne_nil x s hnil
    · exact absurd hle (not_le.2 h)

/-! ### Counting -/

theorem mem_keys {z : SortedSet} {x : String} :
    x ∈ z.scores.keys ↔ ∃ s, z.scores.get? x = some s := by
  rw [Dict.keys, List.mem_map]
  constructor
  · rintro ⟨e, he, rfl⟩
    exact ⟨e.2, Dict.get?_eq_some_iff.2 he⟩
  · rintro ⟨s, hs⟩
    exact ⟨(x, s), Dict.get?_eq_some_iff.1 hs, rfl⟩

/-- Members among some texts are at most as many. -/
theorem zcard_le {z : SortedSet} {texts : List String}
    (h : ∀ x s, z.scores.get? x = some s → x ∈ texts) : z.zcard ≤ texts.length := by
  have hsub : z.scores.keys ⊆ texts := fun x hx => by
    obtain ⟨s, hs⟩ := mem_keys.1 hx
    exact h x s hs
  have hle := (List.Nodup.subperm z.scores.keys_nodup hsub).length_le
  rwa [List.length_map] at hle

/-- Different members are at least as many. -/
theorem le_zcard {z : SortedSet} {texts : List String} (hnodup : texts.Nodup)
    (h : ∀ x ∈ texts, ∃ s, z.scores.get? x = some s) : texts.length ≤ z.zcard := by
  have hsub : texts ⊆ z.scores.keys := fun x hx => mem_keys.2 (h x hx)
  have hle := (List.Nodup.subperm hnodup hsub).length_le
  rwa [Dict.keys, List.length_map] at hle

end SortedSet

/-! ### The server -/

/-- The keys of a Redis server. -/
structure Redis where
  keys : Dict String SortedSet := .empty

namespace Redis

/-- The sorted set under a key at time `now`. -/
def get (redis : Redis) (now : ℚ) (key : String) : SortedSet := (redis.keys.getD key {}).live now

/-- The server with another sorted set under a key. -/
def put (redis : Redis) (key : String) (z : SortedSet) : Redis := ⟨redis.keys.set key z⟩

theorem get_put (redis : Redis) (key : String) (z : SortedSet) (now : ℚ) :
    (redis.put key z).get now key = z.live now := by
  rw [get, put, Dict.getD_set, if_pos rfl]

theorem getD_put_of_ne (redis : Redis) {key key' : String} (z : SortedSet) (h : key' ≠ key) :
    (redis.put key z).keys.getD key' {} = redis.keys.getD key' {} := by
  rw [put, Dict.getD_set, if_neg h]

end Redis

end Midscale
