import Midscale.Data.Table

/-!
# Counting the rows of a table

What the changes of a table do to the number of rows of one kind.  The statements do without
subtraction: what a change takes away stands on the left.

* `count_insert` : a new row.
* `count_modify_add` : assignments to one row.
* `count_map_add` : assignments to the rows of a query.
-/

namespace Midscale

namespace Table

variable {ρ κ : Type} [Row ρ κ]

/-- The number of rows that satisfy `p`. -/
def count (t : Table ρ) (p : ρ → Bool) : ℕ := (t.select p).length

theorem count_eq_countP (t : Table ρ) (p : ρ → Bool) : t.count p = t.rows.countP p :=
  (List.countP_eq_length_filter ..).symm

theorem count_eq_zero {t : Table ρ} {p : ρ → Bool} (h : ∀ r, r ∉ t) : t.count p = 0 := by
  rw [count_eq_countP, List.countP_eq_zero]
  exact fun r hr => absurd hr (h r)

variable [DecidableEq κ]

theorem count_insert {t t' : Table ρ} {r : ρ} (h : t.insert r = some t') (p : ρ → Bool) :
    t'.count p = t.count p + (p r).toNat := by
  rw [count_eq_countP, (insert_eq_some h).1, List.countP_append, count_eq_countP]
  cases hp : p r <;> simp [hp]

/-- An assignment takes one row away from the count and adds the row that replaces it. -/
theorem count_modify_add {t : Table ρ} {k : κ} {r : ρ} (h : t.get? k = some r) {f : ρ → ρ}
    (hf : ∀ r, Row.pk (f r) = Row.pk r) (p : ρ → Bool) :
    (t.modify k f hf).count p + (p r).toNat = t.count p + (p (f r)).toNat := by
  obtain ⟨l₁, l₂, hrows, hmodify⟩ := modify_rows h f hf
  have hcons : ∀ (r : ρ) (l : List ρ), (r :: l).countP p = l.countP p + (p r).toNat := by
    intro r l
    cases hp : p r <;> simp [hp]
  rw [count_eq_countP, count_eq_countP, hrows, hmodify, List.countP_append, List.countP_append,
    hcons, hcons]
  omega

omit [DecidableEq κ] in
/-- Assignments to the rows of the query `q`, after which none of them is counted. -/
theorem count_map_add {t : Table ρ} {p q : ρ → Bool} {f : ρ → ρ}
    (hf : ∀ r, Row.pk (f r) = Row.pk r) (hkeep : ∀ r, q r = false → f r = r)
    (hdrop : ∀ r, q r = true → p (f r) = false) :
    (t.map f hf).count p + ((t.select q).filter p).length = t.count p := by
  rw [count_eq_countP, count_eq_countP, ← List.countP_eq_length_filter]
  change (t.rows.map f).countP p + (t.rows.filter q).countP p = _
  induction t.rows with
  | nil => rfl
  | cons r l ih =>
    rw [List.map_cons, List.countP_cons, List.countP_cons, List.filter_cons]
    cases hq : q r with
    | false =>
      rw [hkeep r hq, if_neg Bool.false_ne_true]
      omega
    | true =>
      rw [hdrop r hq, if_pos rfl, if_neg Bool.false_ne_true, List.countP_cons]
      omega

end Table

end Midscale
