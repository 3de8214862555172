import Mathlib.Data.List.Nodup

/-!
# Tables with a primary key

A table is the list of its rows in the order in which a query without `ORDER BY` returns them,
no two with the same primary key.  A `where` clause is a filter of that list, so two queries of
one snapshot see the rows in the same relative order.  Inserting a row whose key is taken fails,
and an update keeps the keys, so every table that can be built has unique keys.
-/

namespace Midscale

theorem find?_eq_some_of_unique {α : Type*} {l : List α} {p : α → Bool} {a : α} (ha : a ∈ l)
    (hp : p a = true) (huniq : ∀ b ∈ l, p b = true → b = a) : l.find? p = some a := by
  obtain ⟨b, hb⟩ := Option.isSome_iff_exists.1 (List.find?_isSome.2 ⟨a, ha, hp⟩)
  rw [hb, huniq b (List.mem_of_find?_eq_some hb) (List.find?_some hb)]

/-- Rows with a primary key. -/
class Row (ρ : Type) (κ : outParam Type) where
  /-- The primary key. -/
  pk : ρ → κ

/-- A table of rows with distinct primary keys. -/
structure Table (ρ : Type) {κ : Type} [Row ρ κ] where
  rows : List ρ
  pk_nodup : (rows.map Row.pk).Nodup

namespace Table

variable {ρ κ : Type} [Row ρ κ]

/-- The table without rows. -/
def empty : Table ρ := ⟨[], List.nodup_nil⟩

/-- The table with the given rows. -/
def ofRows (rows : List ρ) (h : (rows.map Row.pk).Nodup := by decide) : Table ρ := ⟨rows, h⟩

instance : Inhabited (Table ρ) := ⟨empty⟩

instance : Membership ρ (Table ρ) := ⟨fun t r => r ∈ t.rows⟩

theorem mem_def {t : Table ρ} {r : ρ} : r ∈ t ↔ r ∈ t.rows := Iff.rfl

theorem ext_rows {t t' : Table ρ} (h : t.rows = t'.rows) : t = t' := by
  cases t; cases t'; cases h; rfl

instance [DecidableEq ρ] : DecidableEq (Table ρ) := fun t t' =>
  decidable_of_iff (t.rows = t'.rows) ⟨ext_rows, fun h => h ▸ rfl⟩

instance [DecidableEq ρ] (t : Table ρ) (r : ρ) : Decidable (r ∈ t) :=
  inferInstanceAs (Decidable (r ∈ t.rows))

instance (t : Table ρ) (P : ρ → Prop) [DecidablePred P] : Decidable (∀ r ∈ t, P r) :=
  inferInstanceAs (Decidable (∀ r ∈ t.rows, P r))

/-- Two rows with the same primary key are the same row. -/
theorem eq_of_pk (t : Table ρ) {r r' : ρ} (hr : r ∈ t) (hr' : r' ∈ t)
    (h : Row.pk r = Row.pk r') : r = r' :=
  List.inj_on_of_nodup_map t.pk_nodup hr hr' h

/-! ### Queries -/

/-- `select(…).where(p)`. -/
def select (t : Table ρ) (p : ρ → Bool) : List ρ := t.rows.filter p

@[simp] theorem mem_select {t : Table ρ} {p : ρ → Bool} {r : ρ} :
    r ∈ t.select p ↔ r ∈ t ∧ p r = true := List.mem_filter

theorem select_eq_singleton {t : Table ρ} {p : ρ → Bool} {r : ρ} (hr : r ∈ t) (hp : p r = true)
    (huniq : ∀ r' ∈ t, p r' = true → r' = r) : t.select p = [r] := by
  have hnodup : (t.select p).Nodup := (List.Nodup.of_map _ t.pk_nodup).filter _
  refine List.perm_singleton.1 ((List.perm_ext_iff_of_nodup hnodup (List.nodup_singleton r)).2
    fun r' => ?_)
  rw [List.mem_singleton, mem_select]
  exact ⟨fun h => huniq r' h.1 h.2, fun h => h ▸ ⟨hr, hp⟩⟩

/-- The same rows in another order. -/
def reorder (t : Table ρ) (rows : List ρ) (h : rows.Perm t.rows) : Table ρ :=
  ⟨rows, (h.map Row.pk).nodup_iff.2 t.pk_nodup⟩

variable [DecidableEq κ]

/-- The row with a primary key. -/
def get? (t : Table ρ) (k : κ) : Option ρ := t.rows.find? fun r => Row.pk r = k

theorem get?_eq_some_iff {t : Table ρ} {k : κ} {r : ρ} :
    t.get? k = some r ↔ r ∈ t ∧ Row.pk r = k := by
  constructor
  · intro h
    exact ⟨List.mem_of_find?_eq_some h, by simpa using List.find?_some h⟩
  · rintro ⟨hr, rfl⟩
    exact find?_eq_some_of_unique hr (by simp) fun r' hr' hpk =>
      t.eq_of_pk hr' hr (by simpa using hpk)

theorem get?_of_perm {t t' : Table ρ} (h : t'.rows.Perm t.rows) (k : κ) : t'.get? k = t.get? k := by
  refine Option.ext fun r => ?_
  rw [get?_eq_some_iff, get?_eq_some_iff, mem_def, mem_def, h.mem_iff]

/-! ### Changes -/

/-- `session.add(r)`, `none` when the primary key is taken. -/
def insert (t : Table ρ) (r : ρ) : Option (Table ρ) :=
  if h : Row.pk r ∈ t.rows.map Row.pk then none
  else some
    { rows := t.rows ++ [r]
      pk_nodup := by
        rw [List.map_append, List.map_singleton]
        exact List.Nodup.append t.pk_nodup (List.nodup_singleton _)
          (List.disjoint_singleton.2 h) }

theorem insert_eq_some {t t' : Table ρ} {r : ρ} (h : t.insert r = some t') :
    t'.rows = t.rows ++ [r] ∧ ∀ r' ∈ t, Row.pk r' ≠ Row.pk r := by
  unfold insert at h
  split_ifs at h with hpk
  cases h
  exact ⟨rfl, fun r' hr' heq => hpk (heq ▸ List.mem_map_of_mem hr')⟩

theorem exists_insert_iff {t : Table ρ} {r : ρ} :
    (∃ t', t.insert r = some t') ↔ t.get? (Row.pk r) = none := by
  have hkeys : t.get? (Row.pk r) = none ↔ Row.pk r ∉ t.rows.map Row.pk := by
    simp [get?]
  rw [hkeys, insert]
  split_ifs with h
  · simp [h]
  · simp [h]

theorem mem_insert {t t' : Table ρ} {r r' : ρ} (h : t.insert r = some t') :
    r' ∈ t' ↔ r' ∈ t ∨ r' = r := by
  rw [mem_def, (insert_eq_some h).1, List.mem_append, List.mem_singleton, mem_def]

/-- Assignments to the columns of the rows with a primary key. -/
def modify (t : Table ρ) (k : κ) (f : ρ → ρ) (hf : ∀ r, Row.pk (f r) = Row.pk r) : Table ρ where
  rows := t.rows.map fun r => if Row.pk r = k then f r else r
  pk_nodup := by
    have hmap : (t.rows.map fun r => if Row.pk r = k then f r else r).map Row.pk =
        t.rows.map Row.pk := by
      rw [List.map_map]
      refine List.map_congr_left fun r _ => ?_
      rw [Function.comp_apply]
      split_ifs
      · exact hf r
      · rfl
    rw [hmap]
    exact t.pk_nodup

theorem modify_rows {t : Table ρ} {k : κ} {r : ρ} (h : t.get? k = some r) (f : ρ → ρ)
    (hf : ∀ r, Row.pk (f r) = Row.pk r) :
    ∃ l₁ l₂, t.rows = l₁ ++ r :: l₂ ∧ (t.modify k f hf).rows = l₁ ++ f r :: l₂ := by
  obtain ⟨hr, hk⟩ := get?_eq_some_iff.1 h
  obtain ⟨l₁, l₂, hrows⟩ := List.append_of_mem hr
  have hother : ∀ r' ∈ l₁ ++ l₂, Row.pk r' ≠ k := by
    intro r' hr' hk'
    have hnodup := t.pk_nodup
    rw [hrows, (List.perm_middle.map _).nodup_iff, List.map_cons, List.nodup_cons] at hnodup
    exact hnodup.1 (List.mem_map.2 ⟨r', hr', hk'.trans hk.symm⟩)
  refine ⟨l₁, l₂, hrows, ?_⟩
  have hkeep : ∀ l : List ρ, (∀ r' ∈ l, Row.pk r' ≠ k) →
      l.map (fun r' => if Row.pk r' = k then f r' else r') = l := fun l hl =>
    (List.map_congr_left fun r' hr' => if_neg (hl r' hr')).trans (List.map_id' l)
  change t.rows.map (fun r' => if Row.pk r' = k then f r' else r') = _
  rw [hrows, List.map_append, List.map_cons, if_pos hk,
    hkeep l₁ fun r' hr' => hother r' (List.mem_append_left _ hr'),
    hkeep l₂ fun r' hr' => hother r' (List.mem_append_right _ hr')]

/-- An update changes the row it names and no other. -/
theorem get?_modify {t : Table ρ} {k : κ} {f : ρ → ρ} {hf : ∀ r, Row.pk (f r) = Row.pk r}
    (k' : κ) : (t.modify k f hf).get? k' =
      (t.get? k').map fun r => if Row.pk r = k then f r else r := by
  have hpk : ((fun r => decide (Row.pk r = k')) ∘ fun r => if Row.pk r = k then f r else r) =
      fun r => decide (Row.pk r = k') := by
    funext r
    rw [Function.comp_apply]
    split_ifs <;> simp [hf]
  rw [get?, modify, List.find?_map, hpk]
  rfl

theorem get?_modify_of_get? {t : Table ρ} {k : κ} {r : ρ} (h : t.get? k = some r) {f : ρ → ρ}
    {hf : ∀ r, Row.pk (f r) = Row.pk r} (k' : κ) :
    (t.modify k f hf).get? k' = if k' = k then some (f r) else t.get? k' := by
  rw [get?_modify]
  split_ifs with hk
  · rw [hk, h, Option.map_some, if_pos (get?_eq_some_iff.1 h).2]
  · cases hget : t.get? k' with
    | none => rfl
    | some r' => rw [Option.map_some, if_neg ((get?_eq_some_iff.1 hget).2 ▸ hk)]

theorem get?_insert {t t' : Table ρ} {r : ρ} (h : t.insert r = some t') (k : κ) :
    t'.get? k = if Row.pk r = k then some r else t.get? k := by
  obtain ⟨hrows, hfresh⟩ := insert_eq_some h
  rw [get?, hrows, List.find?_append, List.find?_singleton]
  by_cases hk : Row.pk r = k
  · subst hk
    have hnone : t.rows.find? (fun r' => Row.pk r' = Row.pk r) = none := by
      simpa [mem_def] using hfresh
    rw [hnone, Option.none_or, if_pos (decide_eq_true rfl), if_pos rfl]
  · rw [if_neg (by simpa using hk), if_neg hk, Option.or_none]
    rfl

/-- The rows with some of their columns changed, none of them the primary key. -/
def map (t : Table ρ) (f : ρ → ρ) (hf : ∀ r, Row.pk (f r) = Row.pk r) : Table ρ where
  rows := t.rows.map f
  pk_nodup := by
    rw [List.map_map]
    exact (List.map_congr_left fun r _ => hf r) ▸ t.pk_nodup

omit [DecidableEq κ] in
theorem select_map (t : Table ρ) {f : ρ → ρ} (hf : ∀ r, Row.pk (f r) = Row.pk r) {p : ρ → Bool}
    (hp : ∀ r, p (f r) = p r) : (t.map f hf).select p = (t.select p).map f := by
  have hcomp : p ∘ f = p := funext hp
  rw [select, map, List.filter_map, hcomp]
  rfl

theorem get?_map (t : Table ρ) {f : ρ → ρ} (hf : ∀ r, Row.pk (f r) = Row.pk r) (k : κ) :
    (t.map f hf).get? k = (t.get? k).map f := by
  have hcomp : (fun r => decide (Row.pk r = k)) ∘ f = fun r => decide (Row.pk r = k) := by
    funext r
    rw [Function.comp_apply, hf]
  rw [get?, map, List.find?_map, hcomp]
  rfl

/-- `delete` of the rows that satisfy `p`. -/
def delete (t : Table ρ) (p : ρ → Bool) : Table ρ where
  rows := t.rows.filter fun r => !p r
  pk_nodup := t.pk_nodup.sublist (List.filter_sublist.map _)

omit [DecidableEq κ] in
theorem mem_delete {t : Table ρ} {p : ρ → Bool} {r : ρ} : r ∈ t.delete p ↔ r ∈ t ∧ p r = false := by
  rw [mem_def, delete, List.mem_filter, Bool.not_eq_true', mem_def]

theorem get?_delete_of_not {t : Table ρ} {p : ρ → Bool} {k : κ} {r : ρ} (h : t.get? k = some r)
    (hp : p r = false) : (t.delete p).get? k = some r := by
  obtain ⟨hr, hk⟩ := get?_eq_some_iff.1 h
  exact get?_eq_some_iff.2 ⟨mem_delete.2 ⟨hr, hp⟩, hk⟩

theorem get?_delete_pk {t : Table ρ} {k : κ} (k' : κ) :
    (t.delete fun r => Row.pk r = k).get? k' = if k' = k then none else t.get? k' := by
  rw [Option.ext_iff]
  intro r
  rw [get?_eq_some_iff, mem_delete, decide_eq_false_iff_not]
  by_cases hk : k' = k
  · subst hk
    rw [if_pos rfl]
    exact ⟨fun h => absurd h.2 h.1.2, nofun⟩
  · rw [if_neg hk, get?_eq_some_iff]
    exact ⟨fun h => ⟨h.1.1, h.2⟩, fun h => ⟨⟨h.1, fun heq => hk (h.2.symm.trans heq)⟩, h.2⟩⟩

omit [DecidableEq κ] in
theorem map_delete {α : Type*} {t : Table ρ} {p : ρ → Bool} {g : ρ → α} {q : α → Bool}
    (hq : ∀ r, q (g r) = !p r) : (t.delete p).rows.map g = (t.rows.map g).filter q := by
  rw [List.filter_map]
  refine congrArg (List.map g) (List.filter_congr fun r _ => ?_)
  rw [Function.comp_apply, hq]

theorem mem_modify {t : Table ρ} {k : κ} {f : ρ → ρ} {hf : ∀ r, Row.pk (f r) = Row.pk r} {r' : ρ} :
    r' ∈ t.modify k f hf ↔ ∃ r ∈ t, (if Row.pk r = k then f r else r) = r' := List.mem_map

theorem mem_modify_of_get? {t : Table ρ} {k : κ} {f : ρ → ρ} (hf : ∀ r, Row.pk (f r) = Row.pk r)
    {r r' : ρ} (h : t.get? k = some r) :
    r' ∈ t.modify k f hf ↔ r' = f r ∨ r' ∈ t ∧ Row.pk r' ≠ k := by
  obtain ⟨hmem, hpk⟩ := get?_eq_some_iff.1 h
  rw [mem_modify]
  constructor
  · rintro ⟨old, hold, rfl⟩
    split_ifs with hk
    · rw [t.eq_of_pk hold hmem (hk.trans hpk.symm)]
      exact .inl rfl
    · exact .inr ⟨hold, hk⟩
  · rintro (rfl | ⟨hr', hne⟩)
    · exact ⟨r, hmem, if_pos hpk⟩
    · exact ⟨r', hr', if_neg hne⟩

theorem map_modify {α : Type*} {t : Table ρ} {k : κ} {f : ρ → ρ} (hf : ∀ r, Row.pk (f r) = Row.pk r)
    {g : ρ → α} (hg : ∀ r, g (f r) = g r) : (t.modify k f hf).rows.map g = t.rows.map g := by
  rw [modify, List.map_map]
  refine List.map_congr_left fun r _ => ?_
  rw [Function.comp_apply]
  split_ifs
  · exact hg r
  · rfl

/-! ### Queries that a change does not concern -/

omit [DecidableEq κ] in
theorem select_of_select_eq {t t' : Table ρ} {p q : ρ → Bool} (h : t'.select p = t.select p)
    (hq : ∀ r ∈ t, q r = true → p r = true) (hq' : ∀ r ∈ t', q r = true → p r = true) :
    t'.select q = t.select q := by
  have hfilter : ∀ t : Table ρ, (∀ r ∈ t, q r = true → p r = true) →
      t.select q = (t.select p).filter q := by
    intro t hq
    rw [select, select, List.filter_filter]
    refine List.filter_congr fun r hr => ?_
    cases hqr : q r with
    | false => rfl
    | true => rw [hq r hr hqr]; rfl
  rw [hfilter t' hq', hfilter t hq, h]

omit [DecidableEq κ] in
theorem map_select_of_map_eq {α : Type*} {t t' : Table ρ} {f : ρ → ρ}
    (h : t'.rows.map f = t.rows.map f) {p : ρ → Bool} (hp : ∀ r, p (f r) = p r) {g : ρ → α}
    (hg : ∀ r, g (f r) = g r) : (t'.select p).map g = (t.select p).map g := by
  have hrows : ∀ t : Table ρ, (t.select p).map g = ((t.rows.map f).filter p).map g := by
    intro t
    have hcomp : p ∘ f = p := funext hp
    rw [List.filter_map, hcomp, List.map_map]
    exact List.map_congr_left fun r _ => (hg r).symm
  rw [hrows, hrows, h]

theorem select_insert_of_not {t t' : Table ρ} {r : ρ} {p : ρ → Bool} (h : t.insert r = some t')
    (hp : p r = false) : t'.select p = t.select p := by
  rw [select, (insert_eq_some h).1, List.filter_append, List.filter_singleton, hp]
  exact List.append_nil _

omit [DecidableEq κ] in
theorem select_map_of_not {t : Table ρ} {f : ρ → ρ} (hf : ∀ r, Row.pk (f r) = Row.pk r)
    {p : ρ → Bool} (h : ∀ r ∈ t, f r ≠ r → p r = false ∧ p (f r) = false) :
    (t.map f hf).select p = t.select p := by
  change (t.rows.map f).filter p = t.rows.filter p
  have hrows : ∀ r ∈ t.rows, f r ≠ r → p r = false ∧ p (f r) = false := h
  generalize t.rows = rows at hrows
  induction rows with
  | nil => rfl
  | cons r l ih =>
    rw [List.forall_mem_cons] at hrows
    rw [List.map_cons, List.filter_cons, List.filter_cons, ih hrows.2]
    by_cases hr : f r = r
    · rw [hr]
    · obtain ⟨hp, hpf⟩ := hrows.1 hr
      rw [hp, hpf]
      rfl

theorem select_modify_of_not {t : Table ρ} {k : κ} {f : ρ → ρ}
    {hf : ∀ r, Row.pk (f r) = Row.pk r} {p : ρ → Bool}
    (h : ∀ r ∈ t, Row.pk r = k → p r = false ∧ p (f r) = false) :
    (t.modify k f hf).select p = t.select p := by
  refine select_map_of_not (f := fun r => if Row.pk r = k then f r else r) (fun r => ?_)
    fun r hr hne => ?_
  · split_ifs
    · exact hf r
    · rfl
  · by_cases hk : Row.pk r = k
    · rw [if_pos hk]
      exact h r hr hk
    · exact absurd (if_neg hk) hne

omit [DecidableEq κ] in
theorem select_delete_of_not {t : Table ρ} {p q : ρ → Bool}
    (h : ∀ r ∈ t, q r = true → p r = false) : (t.delete q).select p = t.select p := by
  rw [select, delete, List.filter_filter]
  refine List.filter_congr fun r hr => ?_
  cases hq : q r with
  | false => simp
  | true => simp [h r hr hq]

end Table

end Midscale
