import Mathlib.Data.List.Nodup
import Mathlib.Data.List.Induction

/-!
# Python dictionaries

A dictionary as Python keeps it: key–value pairs in the order their keys were first inserted,
each key once.  The order matters only where a program iterates over the pairs; look-ups are
governed by `get?_set` and `get?_filter`, and by `getD_groupBy` for a dictionary that a loop
builds by appending to the list of a key.
-/

namespace Midscale

/-- A dictionary from `κ` to `ν`. -/
structure Dict (κ ν : Type*) where
  /-- The pairs, in insertion order. -/
  items : List (κ × ν)
  /-- No key occurs twice. -/
  keys_nodup : (items.map Prod.fst).Nodup

namespace Dict

variable {κ ν ρ : Type*}

/-- `d.keys()`. -/
def keys (d : Dict κ ν) : List κ := d.items.map Prod.fst

/-- `{}`. -/
def empty : Dict κ ν := ⟨[], List.nodup_nil⟩

instance : Inhabited (Dict κ ν) := ⟨empty⟩

theorem ext_items {d d' : Dict κ ν} (h : d.items = d'.items) : d = d' := by
  cases d; cases d'; cases h; rfl

/-- `{k: v for k, v in d.items() if p(k, v)}`. -/
def filter (d : Dict κ ν) (p : κ × ν → Bool) : Dict κ ν where
  items := d.items.filter p
  keys_nodup := d.keys_nodup.sublist (List.filter_sublist.map _)

variable [DecidableEq κ]

instance [DecidableEq ν] : DecidableEq (Dict κ ν) := fun d d' =>
  decidable_of_iff (d.items = d'.items) ⟨ext_items, fun h => h ▸ rfl⟩

/-- `d.get(k)`. -/
def get? (d : Dict κ ν) (k : κ) : Option ν := (d.items.find? fun e => e.1 = k).map Prod.snd

/-- `d.get(k, default)`. -/
def getD (d : Dict κ ν) (k : κ) (default : ν) : ν := (d.get? k).getD default

/-- The pairs after `d[k] = v`: a present key keeps its place. -/
def setItems (k : κ) (v : ν) : List (κ × ν) → List (κ × ν)
  | [] => [(k, v)]
  | e :: es => if e.1 = k then (k, v) :: es else e :: setItems k v es

theorem mem_keys_setItems {k k' : κ} {v : ν} {l : List (κ × ν)} :
    k' ∈ (setItems k v l).map Prod.fst ↔ k' = k ∨ k' ∈ l.map Prod.fst := by
  induction l with
  | nil => simp [setItems]
  | cons e es ih =>
    rw [setItems]
    split_ifs with h
    · subst h; simp
    · rw [List.map_cons, List.mem_cons, ih, List.map_cons, List.mem_cons]
      tauto

theorem nodup_keys_setItems {k : κ} {v : ν} {l : List (κ × ν)} (h : (l.map Prod.fst).Nodup) :
    ((setItems k v l).map Prod.fst).Nodup := by
  induction l with
  | nil => simp [setItems]
  | cons e es ih =>
    rw [List.map_cons, List.nodup_cons] at h
    rw [setItems]
    split_ifs with hk
    · subst hk; simpa using h
    · rw [List.map_cons, List.nodup_cons, mem_keys_setItems]
      exact ⟨fun hm => hm.elim hk h.1, ih h.2⟩

/-- `d[k] = v`. -/
def set (d : Dict κ ν) (k : κ) (v : ν) : Dict κ ν :=
  ⟨setItems k v d.items, nodup_keys_setItems d.keys_nodup⟩

/-- `d.pop(k, None)`. -/
def erase (d : Dict κ ν) (k : κ) : Dict κ ν := d.filter fun e => e.1 ≠ k

/-! ### Look-ups -/

@[simp] theorem get?_empty (k : κ) : (empty : Dict κ ν).get? k = none := rfl

theorem get?_set (d : Dict κ ν) (k k' : κ) (v : ν) :
    (d.set k v).get? k' = if k' = k then some v else d.get? k' := by
  suffices h : ∀ l : List (κ × ν), ((setItems k v l).find? fun e => e.1 = k').map Prod.snd =
      if k' = k then some v else (l.find? fun e => e.1 = k').map Prod.snd from h d.items
  intro l
  induction l with
  | nil =>
    by_cases h : k' = k
    · simp [setItems, h]
    · simp [setItems, h, Ne.symm h]
  | cons e es ih =>
    rw [setItems]
    by_cases hk : e.1 = k
    · by_cases h : k' = k
      · simp [hk, h]
      · simp [hk, h, Ne.symm h]
    · by_cases h : e.1 = k'
      · have : k' ≠ k := fun h' => hk (h.trans h')
        simp [h, this]
      · simp only [hk, ↓reduceIte]
        rw [List.find?_cons_of_neg (by simpa using h), ih, List.find?_cons_of_neg (by simpa using h)]

@[simp] theorem get?_set_self (d : Dict κ ν) (k : κ) (v : ν) : (d.set k v).get? k = some v := by
  rw [get?_set, if_pos rfl]

theorem get?_set_of_ne (d : Dict κ ν) {k k' : κ} (v : ν) (h : k' ≠ k) :
    (d.set k v).get? k' = d.get? k' := by
  rw [get?_set, if_neg h]

theorem get?_eq_some_iff {d : Dict κ ν} {k : κ} {v : ν} :
    d.get? k = some v ↔ (k, v) ∈ d.items := by
  constructor
  · intro h
    obtain ⟨⟨k', v'⟩, he, rfl⟩ := Option.map_eq_some_iff.1 h
    have hk : k' = k := by simpa using List.find?_some he
    exact hk ▸ List.mem_of_find?_eq_some he
  · intro h
    have hn := d.keys_nodup
    simp only [get?]
    generalize d.items = l at h hn
    induction l with
    | nil => cases h
    | cons e es ih =>
      rw [List.map_cons, List.nodup_cons] at hn
      rcases List.mem_cons.1 h with rfl | h
      · simp
      · have hne : e.1 ≠ k := fun hk => hn.1 (hk ▸ List.mem_map_of_mem (f := Prod.fst) h)
        rw [List.find?_cons_of_neg (by simpa using hne)]
        exact ih h hn.2

theorem get?_filter {d : Dict κ ν} {p : κ × ν → Bool} {k : κ} {v : ν} :
    (d.filter p).get? k = some v ↔ d.get? k = some v ∧ p (k, v) = true := by
  rw [get?_eq_some_iff, get?_eq_some_iff]
  exact List.mem_filter

theorem get?_erase (d : Dict κ ν) (k k' : κ) :
    (d.erase k).get? k' = if k' = k then none else d.get? k' := by
  split_ifs with h
  · refine Option.eq_none_iff_forall_ne_some.2 fun v hv => ?_
    simpa [h] using (get?_filter.1 hv).2
  · refine Option.ext fun v => ?_
    rw [erase, get?_filter]
    simp [h]

theorem getD_set (d : Dict κ ν) (k k' : κ) (v default : ν) :
    (d.set k v).getD k' default = if k' = k then v else d.getD k' default := by
  rw [getD, get?_set]
  split_ifs <;> rfl

theorem getD_filter (d : Dict κ ν) (p : κ × ν → Bool) (k : κ) (default : ν) :
    (d.filter p).getD k default =
      if p (k, d.getD k default) then d.getD k default else default := by
  cases hk : d.get? k with
  | none =>
    have hnone : (d.filter p).get? k = none :=
      Option.eq_none_iff_forall_ne_some.2 fun v hv => by simpa [hk] using (get?_filter.1 hv).1
    simp [getD, hk, hnone]
  | some v =>
    by_cases hp : p (k, v) = true
    · simp [getD, hk, hp, get?_filter.2 ⟨hk, hp⟩]
    · have hnone : (d.filter p).get? k = none :=
        Option.eq_none_iff_forall_ne_some.2 fun v' hv => by
          obtain ⟨hv', hp'⟩ := get?_filter.1 hv
          rw [hk, Option.some.injEq] at hv'
          exact hp (hv' ▸ hp')
      simp [getD, hk, hp, hnone]

/-! ### Writes that change nothing -/

theorem set_eq_self_iff {d : Dict κ ν} {k : κ} {v : ν} : d.set k v = d ↔ d.get? k = some v := by
  constructor
  · intro h
    rw [← h, get?_set_self]
  · intro h
    have hmem := get?_eq_some_iff.1 h
    have hn := d.keys_nodup
    refine ext_items ?_
    change setItems k v d.items = d.items
    generalize d.items = l at hmem hn
    induction l with
    | nil => cases hmem
    | cons e es ih =>
      rw [List.map_cons, List.nodup_cons] at hn
      rw [setItems]
      rcases List.mem_cons.1 hmem with rfl | hmem
      · rw [if_pos rfl]
      · have hne : e.1 ≠ k := fun hk => hn.1 (hk ▸ List.mem_map_of_mem (f := Prod.fst) hmem)
        rw [if_neg hne, ih hmem hn.2]

omit [DecidableEq κ] in
theorem filter_eq_self_iff {d : Dict κ ν} {p : κ × ν → Bool} :
    d.filter p = d ↔ ∀ e ∈ d.items, p e = true := by
  rw [← List.filter_eq_self]
  exact ⟨fun h => congrArg items h, fun h => ext_items h⟩

theorem erase_eq_self_iff {d : Dict κ ν} {k : κ} : d.erase k = d ↔ d.get? k = none := by
  rw [erase, filter_eq_self_iff, get?, Option.map_eq_none_iff, List.find?_eq_none]
  simp

/-! ### Dictionaries built in a loop -/

/-- `{key(r): val(r) for r in rows}`. -/
def ofRows (key : ρ → κ) (val : ρ → ν) (rows : List ρ) : Dict κ ν :=
  rows.foldl (fun d r => d.set (key r) (val r)) empty

theorem get?_ofRows (key : ρ → κ) (val : ρ → ν) (rows : List ρ) (k : κ) :
    (ofRows key val rows).get? k = (rows.reverse.find? fun r => key r = k).map val := by
  rw [ofRows]
  induction rows using List.reverseRecOn with
  | nil => rfl
  | append_singleton rows r ih =>
    rw [List.foldl_append, List.foldl_cons, List.foldl_nil, get?_set, ih, List.reverse_append,
      List.reverse_singleton, List.singleton_append, List.find?_cons]
    by_cases h : key r = k
    · simp [h]
    · simp [h, Ne.symm h]

/-- For each row `r`: make `d[key(r)]` an empty list if it is absent, then append `val(r)`. -/
def groupBy (key : ρ → κ) (val : ρ → ν) (rows : List ρ) : Dict κ (List ν) :=
  rows.foldl (fun d r => d.set (key r) (d.getD (key r) [] ++ [val r])) empty

theorem groupBy_eq_of_map_eq {key : ρ → κ} {val : ρ → ν} {rows rows' : List ρ}
    (h : rows'.map (fun r => (key r, val r)) = rows.map fun r => (key r, val r)) :
    groupBy key val rows' = groupBy key val rows := by
  have hpairs : ∀ rows : List ρ, groupBy key val rows =
      groupBy Prod.fst Prod.snd (rows.map fun r => (key r, val r)) := fun rows => by
    rw [groupBy, groupBy, List.foldl_map]
  rw [hpairs, hpairs, h]

/-- Grouping keeps the values of the rows with the key, in order. -/
theorem getD_groupBy (key : ρ → κ) (val : ρ → ν) (rows : List ρ) (k : κ) :
    (groupBy key val rows).getD k [] = (rows.filter fun r => key r = k).map val := by
  rw [groupBy]
  induction rows using List.reverseRecOn with
  | nil => rfl
  | append_singleton rows r ih =>
    rw [List.foldl_append, List.foldl_cons, List.foldl_nil, getD, get?_set, List.filter_append,
      List.map_append, ← ih]
    by_cases h : key r = k
    · subst h; simp
    · simp [h, Ne.symm h, getD]

/-! ### Removing a value -/

section

variable [DecidableEq ν]

/-- `for k, v in list(d.items()): if v == value: del d[k]; break`. -/
def eraseValue (d : Dict κ ν) (value : ν) : Dict κ ν where
  items := d.items.eraseP fun e => e.2 = value
  keys_nodup := d.keys_nodup.sublist (List.eraseP_sublist.map _)

theorem get?_of_eraseValue {d : Dict κ ν} {value v : ν} {k : κ}
    (h : (d.eraseValue value).get? k = some v) : d.get? k = some v :=
  get?_eq_some_iff.2 (List.mem_of_mem_eraseP (get?_eq_some_iff.1 h))

theorem get?_eraseValue_of_ne {d : Dict κ ν} {value v : ν} {k : κ} (h : d.get? k = some v)
    (hne : v ≠ value) : (d.eraseValue value).get? k = some v := by
  refine get?_eq_some_iff.2 ?_
  change (k, v) ∈ d.items.eraseP _
  rw [List.mem_eraseP_of_neg (by simpa using hne)]
  exact get?_eq_some_iff.1 h

theorem get?_eraseValue {d : Dict κ ν} {value v : ν} {k : κ}
    (hone : ∀ k k', d.get? k = some value → d.get? k' = some value → k = k') :
    (d.eraseValue value).get? k = some v ↔ d.get? k = some v ∧ v ≠ value := by
  refine ⟨fun h => ⟨get?_of_eraseValue h, ?_⟩, fun h => get?_eraseValue_of_ne h.1 h.2⟩
  rintro rfl
  have hk := get?_of_eraseValue h
  have hmem : (k, v) ∈ d.items.eraseP fun e => e.2 = v := get?_eq_some_iff.1 h
  obtain ⟨⟨k', v'⟩, l₁, l₂, -, hv', hitems, herase⟩ :=
    List.exists_of_eraseP (p := fun e : κ × ν => decide (e.2 = v)) (get?_eq_some_iff.1 hk) (by simp)
  obtain rfl : v' = v := by simpa using hv'
  have hk' : d.get? k' = some v' := get?_eq_some_iff.2 (by rw [hitems]; simp)
  obtain rfl := hone k k' hk hk'
  -- the key that is erased does not occur again
  have hnodup := d.keys_nodup
  rw [hitems, (List.perm_middle.map _).nodup_iff, List.map_cons, List.nodup_cons] at hnodup
  rw [herase] at hmem
  exact hnodup.1 (List.mem_map_of_mem (f := Prod.fst) hmem)

end

end Dict

end Midscale
