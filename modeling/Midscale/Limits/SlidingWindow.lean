import Mathlib.Algebra.Order.Group.Defs
import Mathlib.Algebra.Order.Sub.Basic
import Mathlib.Data.List.Basic

/-!
# Sliding windows over a log of times

A log of times in the order they were written, over any ordered group.  What a window of length `w`
that ends at `t` can contain is `recent w t log`; a later window sees no more of the log than an
earlier one did, so what has left the window once may be forgotten.

* `recent_recent` : forgetting what is not recent changes nothing later.
* `dropWhile_eq_recent` : dropping from the front is enough for a log in order.
* `inWindow_concat_le` : a log that grows only when its last window has room never has more than
  `n` entries in any window.
* `getElem_add_le` : in such a log, `k * n` entries further is `k` windows later.
-/

namespace Midscale

section SlidingWindow

variable {τ : Type*} [AddCommGroup τ] [LinearOrder τ]

/-- The entries that are not older than `w` at time `t`. -/
def recent (w t : τ) (log : List τ) : List τ := log.filter fun s => t - w ≤ s

/-- The number of entries in the window of length `w` that starts at `a`. -/
def inWindow (w a : τ) (log : List τ) : ℕ := log.countP fun s => a ≤ s ∧ s ≤ a + w

theorem mem_recent {w t s : τ} {log : List τ} : s ∈ recent w t log ↔ s ∈ log ∧ t - w ≤ s := by
  rw [recent, List.mem_filter, decide_eq_true_eq]

theorem recent_append (w t : τ) (l l' : List τ) :
    recent w t (l ++ l') = recent w t l ++ recent w t l' := List.filter_append ..

theorem recent_eq_nil {w t : τ} {log : List τ} (h : ∀ s ∈ log, s < t - w) : recent w t log = [] :=
  List.filter_eq_nil_iff.2 fun s hs hle => not_le.2 (h s hs) (of_decide_eq_true hle)

/-- Dropping old entries from the front is enough for a log in order. -/
theorem dropWhile_eq_recent {w t : τ} {log : List τ} (h : log.Pairwise (· ≤ ·)) :
    log.dropWhile (fun s => s < t - w) = recent w t log := by
  induction log with
  | nil => rfl
  | cons s log ih =>
    rw [List.pairwise_cons] at h
    rw [List.dropWhile_cons]
    by_cases hs : s < t - w
    · have hold : recent w t (s :: log) = recent w t log :=
        List.filter_cons_of_neg fun hle => not_le.2 hs (of_decide_eq_true hle)
      rw [if_pos (decide_eq_true hs), ih h.2, hold]
    · rw [if_neg (fun hlt => hs (of_decide_eq_true hlt))]
      refine (List.filter_eq_self.2 fun r hr => ?_).symm
      rcases List.mem_cons.1 hr with rfl | hr
      · exact decide_eq_true (not_lt.1 hs)
      · exact decide_eq_true ((not_lt.1 hs).trans (h.1 r hr))

variable [IsOrderedAddMonoid τ]

/-- Forgetting what is not recent changes nothing later. -/
theorem recent_recent (w : τ) {t t' : τ} (h : t ≤ t') (log : List τ) :
    recent w t' (recent w t log) = recent w t' log := by
  rw [recent, recent, recent, List.filter_filter]
  refine List.filter_congr fun s _ => ?_
  rw [Bool.and_eq_left_iff_imp, decide_eq_true_eq, decide_eq_true_eq]
  exact fun hs => (sub_le_sub_right h w).trans hs

theorem length_recent {w t : τ} {log : List τ} (h : ∀ s ∈ log, s ≤ t) :
    (recent w t log).length = inWindow w (t - w) log := by
  rw [recent, inWindow, ← List.countP_eq_length_filter]
  refine List.countP_congr fun s hs => ?_
  simp [h s hs]

/-- **No window has more than `n` entries** if an entry is added only when the window before it has
fewer. -/
theorem inWindow_concat_le {n : ℕ} {w t : τ} {log : List τ} (hroom : (recent w t log).length < n)
    (hle : ∀ a, inWindow w a log ≤ n) (a : τ) : inWindow w a (log ++ [t]) ≤ n := by
  rw [inWindow, List.countP_append, List.countP_singleton]
  split_ifs with ht
  · -- a window that contains `t` starts no earlier than the one that ends at `t`
    rw [decide_eq_true_eq] at ht
    have hsub : log.countP (fun s => a ≤ s ∧ s ≤ a + w) ≤ log.countP fun s => t - w ≤ s := by
      refine List.countP_mono_left fun s _ hs => ?_
      rw [decide_eq_true_eq] at hs ⊢
      exact (sub_le_iff_le_add.2 ht.2).trans hs.1
    rw [recent, ← List.countP_eq_length_filter] at hroom
    omega
  · exact hle a

omit [IsOrderedAddMonoid τ] in
theorem lt_getElem_add {w : τ} {n : ℕ} {log : List τ} (hsorted : log.Pairwise (· ≤ ·))
    (hroom : ∀ a, inWindow w a log ≤ n) {i : ℕ} (hi : i + n < log.length) :
    log[i] + w < log[i + n] := by
  by_contra hle
  rw [not_lt] at hle
  have hmono : ∀ {j k : ℕ} (hj : j < log.length) (hk : k < log.length), j ≤ k → log[j] ≤ log[k] := by
    intro j k hj hk hjk
    rcases hjk.eq_or_lt with rfl | hlt
    · exact le_rfl
    · exact List.pairwise_iff_getElem.1 hsorted j k hj hk hlt
  -- the entries from `i` to `i + n` are all in the window that starts with the first of them
  have hblock : n + 1 ≤ inWindow w log[i] log := by
    have hlength : ((log.drop i).take (n + 1)).length = n + 1 := by
      rw [List.length_take, List.length_drop]
      omega
    have hall : ∀ s ∈ (log.drop i).take (n + 1), log[i] ≤ s ∧ s ≤ log[i] + w := fun s hs => by
      obtain ⟨j, hj, rfl⟩ := List.mem_iff_getElem.1 hs
      rw [hlength] at hj
      rw [List.getElem_take, List.getElem_drop]
      constructor
      · exact hmono _ _ (by omega)
      · exact (hmono _ hi (by omega)).trans hle
    have hcount : ((log.drop i).take (n + 1)).countP
        (fun s => log[i] ≤ s ∧ s ≤ log[i] + w) = n + 1 := by
      rw [List.countP_eq_length.2 fun s hs => decide_eq_true (hall s hs), hlength]
    rw [inWindow, ← hcount]
    exact ((List.take_sublist _ _).trans (List.drop_sublist _ _)).countP_le
  exact absurd (hroom log[i]) (by omega)

/-- Repeated: `k * n` places further is `k` windows later, at least. -/
theorem getElem_add_le {w : τ} {n : ℕ} {log : List τ} (hsorted : log.Pairwise (· ≤ ·))
    (hroom : ∀ a, inWindow w a log ≤ n) {i k : ℕ} (hi : i + k * n < log.length) :
    log[i] + k • w ≤ log[i + k * n] := by
  induction k with
  | zero => simp
  | succ k ih =>
    have hindex : i + (k + 1) * n = i + k * n + n := by rw [Nat.add_mul, Nat.one_mul, Nat.add_assoc]
    simp only [hindex] at hi ⊢
    have hprev := ih (by omega)
    rw [succ_nsmul, ← add_assoc]
    exact (add_le_add_left hprev w).trans (lt_getElem_add hsorted hroom hi).le

end SlidingWindow

end Midscale
