import Mathlib.Algebra.Order.Group.Nat
import Mathlib.Data.List.Basic

/-!
# Longest-prefix matching

A routing table lists prefixes with the values they lead to.  The prefixes are of an arbitrary
type `π`, an arbitrary relation `covers` says which keys a prefix covers, and `len` measures how
specific it is.  A key is looked up by the entry of greatest length that covers it; of several
such entries the last one in the table wins, as when an insertion takes a prefix over from an
earlier entry.

* `lpm` : the lookup.
* `lpm_spec` : the entry found covers the key and no covering entry is longer.
* `lpm_forall` : **the rule used for forwarding proofs**: if every covering entry at least as
  long as some given covering entry satisfies `P`, the lookup succeeds with an entry
  satisfying `P`.
* `lpm_append_of_le` : in two tables joined, the later one wins against matches of equal length.
-/

namespace Midscale

section Lpm

variable {π α κ : Type*} (covers : π → α → Bool) (len : π → ℕ)

/-- The longest entry covering `x`, the last one among equals. -/
def lpm : List (π × κ) → α → Option (π × κ)
  | [], _ => none
  | e :: es, x =>
    match lpm es x with
    | some b => if covers e.1 x && decide (len b.1 < len e.1) then some e else some b
    | none => if covers e.1 x then some e else none

variable {covers len}

theorem lpm_eq_none_iff {t : List (π × κ)} {x : α} :
    lpm covers len t x = none ↔ ∀ e ∈ t, covers e.1 x = false := by
  induction t with
  | nil => simp [lpm]
  | cons e es ih =>
    rw [lpm, List.forall_mem_cons]
    cases hr : lpm covers len es x with
    | some b =>
      have : ¬ ∀ e ∈ es, covers e.1 x = false := by rw [← ih, hr]; simp
      simp only [this, and_false, iff_false]
      split_ifs <;> simp
    | none =>
      have := ih.1 hr
      cases hc : covers e.1 x
      · simpa using fun a b => this (a, b)
      · simp

/-- **What the lookup finds**: an entry of the table that covers the key and is at least as long
as every other one that does. -/
theorem lpm_spec {t : List (π × κ)} {x : α} {b : π × κ} (h : lpm covers len t x = some b) :
    b ∈ t ∧ covers b.1 x = true ∧ ∀ e ∈ t, covers e.1 x = true → len e.1 ≤ len b.1 := by
  induction t generalizing b with
  | nil => cases h
  | cons e es ih =>
    rw [lpm] at h
    cases hr : lpm covers len es x with
    | some b' =>
      obtain ⟨hmem, hcov, hmax⟩ := ih hr
      rw [hr] at h
      dsimp only at h
      split_ifs at h with hc
      · simp only [Bool.and_eq_true, decide_eq_true_eq] at hc
        -- the head is longer than the best of the tail
        cases h
        refine ⟨List.mem_cons_self, hc.1, fun e' he' hce' => ?_⟩
        rcases List.mem_cons.1 he' with rfl | he'
        · exact le_rfl
        · exact (hmax e' he' hce').trans hc.2.le
      · cases h
        refine ⟨List.mem_cons_of_mem _ hmem, hcov, fun e' he' hce' => ?_⟩
        rcases List.mem_cons.1 he' with rfl | he'
        · simp only [hce', Bool.true_and, decide_eq_true_eq, not_lt] at hc
          exact hc
        · exact hmax e' he' hce'
    | none =>
      rw [hr] at h
      dsimp only at h
      split_ifs at h with hc
      cases h
      refine ⟨List.mem_cons_self, hc, fun e' he' hce' => ?_⟩
      rcases List.mem_cons.1 he' with rfl | he'
      · exact le_rfl
      · rw [lpm_eq_none_iff.1 hr e' he'] at hce'
        cases hce'

theorem exists_lpm {t : List (π × κ)} {x : α} {e : π × κ} (he : e ∈ t)
    (hc : covers e.1 x = true) : ∃ b, lpm covers len t x = some b := by
  cases h : lpm covers len t x with
  | some b => exact ⟨b, rfl⟩
  | none => rw [lpm_eq_none_iff.1 h e he] at hc; cases hc

/-- If every covering entry at least as long as the covering entry `e` satisfies `P`, the lookup
finds an entry satisfying `P`. -/
theorem lpm_forall {t : List (π × κ)} {x : α} {e : π × κ} {P : π × κ → Prop} (he : e ∈ t)
    (hc : covers e.1 x = true)
    (hP : ∀ e' ∈ t, covers e'.1 x = true → len e.1 ≤ len e'.1 → P e') :
    ∃ b, lpm covers len t x = some b ∧ P b := by
  obtain ⟨b, hb⟩ : ∃ b, lpm covers len t x = some b := exists_lpm he hc
  obtain ⟨hmem, hcov, hmax⟩ := lpm_spec hb
  exact ⟨b, hb, hP b hmem hcov (hmax e he hc)⟩

/-- An entry found in the later of two tables wins unless the earlier one has a longer match. -/
theorem lpm_append_of_le {t t' : List (π × κ)} {x : α} {b : π × κ}
    (hb : lpm covers len t' x = some b)
    (hle : ∀ e ∈ t, covers e.1 x = true → len e.1 ≤ len b.1) :
    lpm covers len (t ++ t') x = some b := by
  induction t with
  | nil => exact hb
  | cons e es ih =>
    have hes := ih fun e' he' => hle e' (List.mem_cons_of_mem _ he')
    have he := hle e List.mem_cons_self
    rw [List.cons_append, lpm, hes]
    dsimp only
    split_ifs with hc
    · simp only [Bool.and_eq_true, decide_eq_true_eq] at hc
      exact absurd hc.2 (not_lt.2 (he hc.1))
    · rfl

end Lpm

end Midscale
