import Midscale.Data.Reorder
import Mathlib.Data.List.Sort

/-!
# Reading a table page by page

A query with `ORDER BY key DESC OFFSET skip LIMIT limit` returns a piece of the rows, the newest
first.  The order of rows with equal keys is up to the database, and may be another one for every
page.

* `CleanCut` : some row has exactly so many newer ones.
* `pages_perm_iff` : **the pages together are the rows, each once, however ties are broken,** exactly
  if every boundary between two pages is a clean cut.
* `mem_page_of_growing` : a reader who turns pages until one is empty has seen every row that was
  there when it started, whatever is added on the way.
-/

namespace Midscale

/-- `OFFSET skip LIMIT limit`. -/
def page {α : Type*} (rows : List α) (skip limit : ℕ) : List α := (rows.drop skip).take limit

/-- `ORDER BY key DESC`: the order in which a query returns rows. -/
structure NewestFirst {α τ : Type*} [LE τ] (key : α → τ) where
  rows : List α → List α
  perm : ∀ l, (rows l).Perm l
  sorted : ∀ l, (rows l).Pairwise fun a b => key b ≤ key a

section

variable {α τ : Type*} [LinearOrder τ] {key : α → τ}

/-- Ties are left in the order of the table. -/
def NewestFirst.stable (key : α → τ) : NewestFirst key where
  rows l := l.insertionSort fun a b => key b ≤ key a
  perm l := List.perm_insertionSort _ l
  sorted l := by
    have : Std.Total fun a b : α => key b ≤ key a := ⟨fun a b => le_total (key b) (key a)⟩
    have : IsTrans α fun a b : α => key b ≤ key a := ⟨fun _ _ _ hab hbc => hbc.trans hab⟩
    exact List.pairwise_insertionSort _ l

/-- The number of rows that are newer than a given key. -/
def newer (key : α → τ) (l : List α) (t : τ) : ℕ := l.countP fun a => t < key a

/-- Some row has exactly `n` newer ones. -/
def CleanCut (key : α → τ) (l : List α) (n : ℕ) : Prop := ∃ a ∈ l, newer key l (key a) = n

instance (key : α → τ) (l : List α) (n : ℕ) : Decidable (CleanCut key l n) :=
  inferInstanceAs (Decidable (∃ a ∈ l, _))

theorem takeWhile_eq_filter_of_imp {p : α → Bool} {l : List α}
    (h : l.Pairwise fun a b => p b = true → p a = true) : l.takeWhile p = l.filter p := by
  induction l with
  | nil => rfl
  | cons a l ih =>
    obtain ⟨ha, hl⟩ := List.pairwise_cons.1 h
    rw [List.takeWhile_cons, List.filter_cons]
    split_ifs with hp
    · rw [ih hl]
    · exact (List.filter_eq_nil_iff.2 fun b hb hpb => hp (ha b hb hpb)).symm

/-! ### Where a row stands -/

variable {l s : List α} (hperm : s.Perm l) (hsorted : s.Pairwise fun a b => key b ≤ key a)

include hperm hsorted

theorem take_newer (t : τ) : s.take (newer key l t) = s.filter fun a => t < key a := by
  have hwhile : s.takeWhile (fun a => t < key a) = s.filter fun a => t < key a :=
    takeWhile_eq_filter_of_imp (hsorted.imp fun hba hb => by
      rw [decide_eq_true_eq] at hb ⊢
      exact hb.trans_le hba)
  have hcount : newer key l t = (s.takeWhile fun a => t < key a).length := by
    rw [hwhile, ← List.countP_eq_length_filter, newer, hperm.countP_eq]
  rw [hcount, ← hwhile]
  exact List.prefix_iff_eq_take.1 (List.takeWhile_prefix _) |>.symm

theorem newer_getElem {n : ℕ} (hn : n < s.length) (h : ∀ a ∈ s.take n, key s[n] < key a) :
    newer key l (key s[n]) = n := by
  have hold : ∀ a ∈ s.drop n, ¬ key s[n] < key a := by
    have hdrop := hsorted.sublist (List.drop_sublist n s)
    rw [List.drop_eq_getElem_cons hn] at hdrop ⊢
    intro a ha
    rcases List.mem_cons.1 ha with rfl | ha
    · exact lt_irrefl _
    · exact not_lt.2 ((List.pairwise_cons.1 hdrop).1 a ha)
  generalize key s[n] = t at h hold
  rw [newer, ← hperm.countP_eq, ← List.take_append_drop n s, List.countP_append,
    List.countP_eq_length.2 fun a ha => decide_eq_true (h a ha),
    List.countP_eq_zero.2 fun a ha => by simpa using hold a ha, List.length_take]
  omega

/-- A row stands behind the newer ones, if no other has its key. -/
theorem getElem?_newer {x : α} (hx : x ∈ l) (hkey : ∀ y ∈ l, key y = key x → y = x) :
    s[newer key l (key x)]? = some x := by
  have htake := take_newer hperm hsorted (key x)
  -- the rows behind the newer ones are not newer, and `x` is among them
  have hdrop : ∀ y ∈ s.drop (newer key l (key x)), key y ≤ key x := by
    have hfilter : (s.drop (newer key l (key x))).filter (fun a => key x < key a) = [] := by
      have hsplit := congrArg (List.filter fun a => key x < key a)
        (List.take_append_drop (newer key l (key x)) s)
      rw [List.filter_append, htake, List.filter_filter] at hsplit
      simpa using hsplit
    intro y hy
    have hnot := List.filter_eq_nil_iff.1 hfilter y hy
    rw [decide_eq_true_eq] at hnot
    exact not_lt.1 hnot
  have hmem : x ∈ s.drop (newer key l (key x)) := by
    have hxs : x ∈ s.take (newer key l (key x)) ++ s.drop (newer key l (key x)) := by
      rw [List.take_append_drop]
      exact hperm.mem_iff.2 hx
    rcases List.mem_append.1 hxs with h | h
    · rw [htake, List.mem_filter, decide_eq_true_eq] at h
      exact absurd h.2 (lt_irrefl _)
    · exact h
  rw [← List.head?_drop]
  cases hcons : s.drop (newer key l (key x)) with
  | nil =>
    rw [hcons] at hmem
    cases hmem
  | cons y ys =>
    have hys := hsorted.sublist (List.drop_sublist (newer key l (key x)) s)
    rw [hcons] at hmem hys hdrop
    have hle : key x ≤ key y := by
      rcases List.mem_cons.1 hmem with rfl | h
      · exact le_rfl
      · exact (List.pairwise_cons.1 hys).1 x h
    have hyl : y ∈ l := hperm.mem_iff.1 (List.mem_of_mem_drop (hcons ▸ List.mem_cons_self))
    rw [List.head?_cons, hkey y hyl (le_antisymm (hdrop y List.mem_cons_self) hle)]

omit hperm hsorted

theorem mem_page {rows : List α} {x : α} {n skip limit : ℕ} (hx : rows[n]? = some x)
    (hskip : skip ≤ n) (hlimit : n < skip + limit) : x ∈ page rows skip limit := by
  refine List.mem_of_getElem? (i := n - skip) ?_
  rw [page, List.getElem?_take_of_lt (by omega), List.getElem?_drop, Nat.add_sub_cancel' hskip, hx]

end

/-! ### The pages of a table -/

section

variable {α τ : Type*} [LinearOrder τ] {key : α → τ} {l : List α} {L : ℕ}

/-- The pages that are read, each with an order of its own. -/
def readPages (orders : ℕ → NewestFirst key) (l : List α) (L n : ℕ) : List α :=
  (List.range n).flatMap fun i => page ((orders i).rows l) (i * L) L

theorem readPages_succ (orders : ℕ → NewestFirst key) (l : List α) (L n : ℕ) :
    readPages orders l L (n + 1) =
      readPages orders l L n ++ page ((orders n).rows l) (n * L) L := by
  simp [readPages, List.range_succ]

theorem take_perm_of_cleanCut {n : ℕ} (h : n < l.length → CleanCut key l n)
    (order order' : NewestFirst key) : ((order.rows l).take n).Perm ((order'.rows l).take n) := by
  by_cases hn : n < l.length
  · obtain ⟨a, -, rfl⟩ := h hn
    rw [take_newer (order.perm l) (order.sorted l), take_newer (order'.perm l) (order'.sorted l)]
    exact ((order.perm l).trans (order'.perm l).symm).filter _
  · have hall : ∀ order : NewestFirst key, (order.rows l).take n = order.rows l := fun order =>
      List.take_of_length_le (by rw [(order.perm l).length_eq]; omega)
    rw [hall, hall]
    exact (order.perm l).trans (order'.perm l).symm

theorem readPages_perm (h : ∀ i, 0 < i → i * L < l.length → CleanCut key l (i * L))
    (orders : ℕ → NewestFirst key) (n : ℕ) (order : NewestFirst key) :
    (readPages orders l L n).Perm ((order.rows l).take (n * L)) := by
  induction n generalizing order with
  | zero => simp [readPages]
  | succ n ih =>
    rw [readPages_succ]
    have hpage : ((orders n).rows l).take (n * L) ++ page ((orders n).rows l) (n * L) L =
        ((orders n).rows l).take ((n + 1) * L) := by
      rw [page, Nat.add_mul, Nat.one_mul, List.take_add]
    refine ((ih (orders n)).append_right _).trans ?_
    rw [hpage]
    exact take_perm_of_cleanCut (h (n + 1) (Nat.succ_pos n)) (orders n) order

theorem exists_swapped {p q : List α} {x y : α} (hperm : (p ++ x :: y :: q).Perm l)
    (hsorted : (p ++ x :: y :: q).Pairwise fun a b => key b ≤ key a) (hkey : key x = key y) :
    ∃ order : NewestFirst key, order.rows l = p ++ y :: x :: q := by
  classical
  have hkeys : (p ++ y :: x :: q).map key = (p ++ x :: y :: q).map key := by simp [hkey]
  have hswapped : (p ++ y :: x :: q).Pairwise fun a b => key b ≤ key a := by
    have hmap : ((p ++ x :: y :: q).map key).Pairwise fun t t' => t' ≤ t :=
      List.pairwise_map.2 hsorted
    rw [← hkeys] at hmap
    exact List.pairwise_map.1 hmap
  refine ⟨{ rows := fun m => if m = l then p ++ y :: x :: q else (NewestFirst.stable key).rows m
            perm := fun m => ?_, sorted := fun m => ?_ }, if_pos rfl⟩
  · split_ifs with hm
    · exact ((List.Perm.swap x y q).append_left p).trans (hm ▸ hperm)
    · exact (NewestFirst.stable key).perm m
  · split_ifs with hm
    · exact hswapped
    · exact (NewestFirst.stable key).sorted m

/-- **The pages together are the rows, each once, however ties are broken,** exactly if every
boundary between two pages is a clean cut. -/
theorem pages_perm_iff (hl : l.Nodup) (hL : 0 < L) :
    (∀ (orders : ℕ → NewestFirst key) (n : ℕ), l.length ≤ n * L → (readPages orders l L n).Perm l) ↔
      ∀ i, 0 < i → i * L < l.length → CleanCut key l (i * L) := by
  constructor
  · intro h i hi hlength
    by_contra hcut
    obtain ⟨i, rfl⟩ := Nat.exists_eq_succ_of_ne_zero hi.ne'
    obtain ⟨b, hb⟩ := Nat.exists_eq_succ_of_ne_zero (Nat.mul_pos hi hL).ne'
    rw [Nat.succ_eq_add_one, Nat.succ_eq_add_one] at hb
    rw [Nat.succ_eq_add_one, hb] at hlength hcut
    have hstart : i * L ≤ b := by
      rw [Nat.add_mul, Nat.one_mul] at hb
      omega
    have hperm := (NewestFirst.stable key).perm l
    have hsorted := (NewestFirst.stable key).sorted l
    set s := (NewestFirst.stable key).rows l with hs
    have hxs : b < s.length := by rw [hperm.length_eq]; omega
    have hys : b + 1 < s.length := by rw [hperm.length_eq]; omega
    have hsplit : s.take b ++ s[b] :: s[b + 1] :: s.drop (b + 2) = s := by
      rw [← List.drop_eq_getElem_cons hys, ← List.drop_eq_getElem_cons hxs,
        List.take_append_drop]
    -- the rows on the two sides of the boundary have the same key
    have hkey : key s[b] = key s[b + 1] := by
      by_contra hne
      refine hcut ⟨s[b + 1], hperm.mem_iff.1 (List.getElem_mem hys),
        newer_getElem hperm hsorted hys fun a ha => ?_⟩
      have hlt := lt_of_le_of_ne (List.pairwise_iff_getElem.1 hsorted b (b + 1) hxs hys
        (Nat.lt_succ_self b)) (Ne.symm hne)
      obtain ⟨j, hj, rfl⟩ := List.mem_iff_getElem.1 ha
      rw [List.length_take] at hj
      rw [List.getElem_take]
      rcases Nat.lt_or_eq_of_le (show j ≤ b by omega) with hjb | rfl
      · exact hlt.trans_le (List.pairwise_iff_getElem.1 hsorted j b (by omega) hxs hjb)
      · exact hlt
    obtain ⟨swapped, hswapped⟩ :=
      exists_swapped (l := l) (by rwa [hsplit]) (by rwa [hsplit]) hkey
    let orders : ℕ → NewestFirst key := fun j => if j = i then .stable key else swapped
    have hpages := h orders l.length (Nat.le_mul_of_pos_right _ hL)
    have hnodup : (readPages orders l L l.length).Nodup := hpages.nodup_iff.2 hl
    have hlt : i + 1 < l.length := by
      have hle := Nat.le_mul_of_pos_right (i + 1) hL
      omega
    have hdisjoint := List.pairwise_iff_getElem.1 (List.nodup_flatMap.1 hnodup).2 i (i + 1)
      (by rw [List.length_range]; omega) (by rwa [List.length_range]) (Nat.lt_succ_self i)
    rw [List.getElem_range, List.getElem_range] at hdisjoint
    refine hdisjoint (a := s[b]) ?_ ?_
    · -- the last row of the page before it
      change s[b] ∈ page ((orders i).rows l) (i * L) L
      rw [show orders i = .stable key from if_pos rfl, ← hs]
      refine mem_page (List.getElem?_eq_getElem hxs) hstart ?_
      rw [Nat.add_mul, Nat.one_mul] at hb
      omega
    · -- and the first row of the page after it, where ties are broken the other way round
      change s[b] ∈ page ((orders (i + 1)).rows l) ((i + 1) * L) L
      rw [show orders (i + 1) = swapped from if_neg (by omega), hswapped]
      refine mem_page (n := b + 1) ?_ hb.le (by omega)
      rw [List.getElem?_append_right (by rw [List.length_take]; omega), List.length_take,
        Nat.min_eq_left hxs.le, Nat.add_sub_cancel_left]
      rfl
  · intro h orders n hn
    have hpages := readPages_perm h orders n (NewestFirst.stable key)
    rw [List.take_of_length_le (by rwa [((NewestFirst.stable key).perm l).length_eq])] at hpages
    exact hpages.trans ((NewestFirst.stable key).perm l)

/-! ### A table that grows -/

/-- **A reader who turns pages until one is empty has seen every row that was there when it
started,** however many rows are added on the way: those push the others back, never forward. -/
theorem mem_page_of_growing {table : ℕ → List α} (hgrows : ∀ k, (table k).Sublist (table (k + 1)))
    (orders : ℕ → NewestFirst key) {x : α} (hx : x ∈ table 0)
    {K : ℕ} (hkey : ∀ y ∈ table K, key y = key x → y = x)
    (hempty : page ((orders K).rows (table K)) (K * L) L = []) (hL : 0 < L) :
    ∃ k < K, x ∈ page ((orders k).rows (table k)) (k * L) L := by
  have hmem : ∀ k, x ∈ table k := fun k => by
    induction k with
    | zero => exact hx
    | succ k ih => exact (hgrows k).subset ih
  have hsub : ∀ j k, table k ⊆ table (k + j) := fun j k => by
    induction j with
    | zero => exact List.Subset.refl _
    | succ j ih => exact List.Subset.trans ih (hgrows (k + j)).subset
  have hstands : ∀ k ≤ K, ((orders k).rows (table k))[newer key (table k) (key x)]? = some x :=
    fun k hk => getElem?_newer ((orders k).perm _) ((orders k).sorted _) (hmem k) fun y hy =>
      hkey y (Nat.add_sub_cancel' hk ▸ hsub (K - k) k hy)
  -- until it is seen, the row stands behind the pages that were read
  have hahead : ∀ k ≤ K, (∃ j < k, x ∈ page ((orders j).rows (table j)) (j * L) L) ∨
      k * L ≤ newer key (table k) (key x) := fun k => by
    induction k with
    | zero => exact fun _ => .inr (by simp)
    | succ k ih =>
      intro hk
      rcases ih (by omega) with ⟨j, hj, hseen⟩ | hle
      · exact .inl ⟨j, Nat.lt_succ_of_lt hj, hseen⟩
      · by_cases hlt : newer key (table k) (key x) < k * L + L
        · exact .inl ⟨k, Nat.lt_succ_self k, mem_page (hstands k (by omega)) hle hlt⟩
        · refine .inr ?_
          have hmono : newer key (table k) (key x) ≤ newer key (table (k + 1)) (key x) :=
            (hgrows k).countP_le
          rw [Nat.add_mul, Nat.one_mul]
          omega
  rcases hahead K le_rfl with hseen | hle
  · exact hseen
  · -- the last page would not be empty
    obtain ⟨hlt, -⟩ := List.getElem?_eq_some_iff.1 (hstands K le_rfl)
    rw [page, List.take_eq_nil_iff, List.drop_eq_nil_iff] at hempty
    omega

end

end Midscale
