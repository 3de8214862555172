import Mathlib.Data.List.Lex
import Mathlib.Data.List.Sort
import Mathlib.Order.Bounds.Basic

/-!
# Stable sorting

Sorting a list of rows by a key that does not tell all of them apart, as `ORDER BY` and `sorted` do:
rows with the same key stay in order.

* `filter_insertionSort` : selecting from the sorted list is sorting the selection.
* `find?_insertionSort_cons`, `of_find?_insertionSort` : what is found first in the sorted list.
* `find?_eq_some_iff_isLeast` : searching a sorted list finds the least element.
* `exists_insertionSort_map` : two lists of rows that compare alike are sorted in the same way.
* `eq_insertionSort_iff` : the sorted list is the one that is in order and leaves ties as they were.
* `insertionSort_eq_insertionSort_iff` : when two orders sort a list in the same way.
-/

namespace Midscale

section Stable

variable {α β : Type*} (r : α → α → Prop) [DecidableRel r]

theorem orderedInsert_of_forall_rel {a : α} {l : List α} (h : ∀ b ∈ l, r a b) :
    l.orderedInsert r a = a :: l := by
  cases l with
  | nil => rfl
  | cons b l => exact List.orderedInsert_cons_of_le r l (h b List.mem_cons_self)

theorem filter_orderedInsert [IsTrans α r] (p : α → Bool) (a : α) {l : List α}
    (h : l.Pairwise r) : (l.orderedInsert r a).filter p =
      if p a then (l.filter p).orderedInsert r a else l.filter p := by
  induction l with
  | nil => cases hp : p a <;> simp [hp]
  | cons b l ih =>
    obtain ⟨hb, hl⟩ := List.pairwise_cons.1 h
    by_cases hab : r a b
    · -- all that follow `b` come after `a` too
      have hall : ∀ c ∈ (b :: l).filter p, r a c := by
        intro c hc
        rcases List.mem_cons.1 (List.mem_filter.1 hc).1 with rfl | hc
        · exact hab
        · exact IsTrans.trans a b c hab (hb c hc)
      rw [List.orderedInsert_cons_of_le r l hab, List.filter_cons,
        orderedInsert_of_forall_rel r hall]
    · rw [List.orderedInsert_of_not_le r l hab, List.filter_cons, ih hl, List.filter_cons]
      cases hpb : p b with
      | false => rfl
      | true =>
        cases hpa : p a with
        | false => rfl
        | true => simp [List.orderedInsert_of_not_le r _ hab]

/-- Selecting from the sorted list is sorting the selection. -/
theorem filter_insertionSort [Std.Total r] [IsTrans α r] (p : α → Bool) (l : List α) :
    (l.insertionSort r).filter p = (l.filter p).insertionSort r := by
  induction l with
  | nil => rfl
  | cons a l ih =>
    rw [List.insertionSort_cons, filter_orderedInsert r p a (List.pairwise_insertionSort r l), ih,
      List.filter_cons]
    split_ifs
    · rw [List.insertionSort_cons]
    · rfl

/-- What is found first in the sorted list comes before all others that could be found. -/
theorem of_find?_insertionSort [Std.Total r] [IsTrans α r] {p : α → Bool} {a : α} {l : List α}
    (h : (l.insertionSort r).find? p = some a) :
    a ∈ l ∧ p a = true ∧ ∀ b ∈ l, p b = true → r a b := by
  obtain ⟨hp, before, after, hsplit, hbefore⟩ := List.find?_eq_some_iff_append.1 h
  have hsorted := List.pairwise_insertionSort r l
  have hmem : ∀ b, b ∈ l ↔ b ∈ before ++ a :: after := fun b => by
    rw [← hsplit, List.mem_insertionSort]
  rw [hsplit, List.pairwise_append, List.pairwise_cons] at hsorted
  refine ⟨(hmem a).2 (by simp), hp, fun b hb hpb => ?_⟩
  rcases List.mem_append.1 ((hmem b).1 hb) with hb | hb
  · have hnot := hbefore b hb
    rw [hpb] at hnot
    cases hnot
  · rcases List.mem_cons.1 hb with rfl | hb
    · exact (Std.Total.total (r := r) b b).elim id id
    · exact hsorted.2.1.1 b hb

/-- Of the rows that come before all others that could be found, the first one is found. -/
theorem find?_insertionSort_cons [Std.Total r] [IsTrans α r] {p : α → Bool} {a : α} {l : List α}
    (hp : p a = true) (h : ∀ b ∈ l, p b = true → r a b) :
    ((a :: l).insertionSort r).find? p = some a := by
  have hall : ∀ b ∈ (l.filter p).insertionSort r, r a b := by
    intro b hb
    obtain ⟨hmem, hpb⟩ := List.mem_filter.1 ((List.mem_insertionSort r).1 hb)
    exact h b hmem hpb
  rw [← List.head?_filter, filter_insertionSort, List.filter_cons_of_pos hp,
    List.insertionSort_cons, orderedInsert_of_forall_rel r hall, List.head?_cons]

/-- Two lists of rows that compare alike are sorted in the same way. -/
theorem exists_insertionSort_map {f g : β → α} {l : List β}
    (h : ∀ a ∈ l, ∀ b ∈ l, r (f a) (f b) ↔ r (g a) (g b)) :
    ∃ w : List β, w.Perm l ∧ (l.map f).insertionSort r = w.map f ∧
      (l.map g).insertionSort r = w.map g := by
  refine ⟨l.insertionSort fun a b => r (f a) (f b), List.perm_insertionSort _ l, ?_, ?_⟩
  · exact (List.map_insertionSort _ r f l fun _ _ _ _ => Iff.rfl).symm
  · exact (List.map_insertionSort _ r g l h).symm

end Stable

section Agree

variable {α : Type*} {r s : α → α → Prop} [DecidableRel r] [DecidableRel s]

theorem orderedInsert_congr {a : α} {l : List α} (h : ∀ b ∈ l, r a b ↔ s a b) :
    l.orderedInsert r a = l.orderedInsert s a := by
  induction l with
  | nil => rfl
  | cons b l ih =>
    have hhead := h b List.mem_cons_self
    by_cases hab : r a b
    · rw [List.orderedInsert_cons_of_le r l hab, List.orderedInsert_cons_of_le s l (hhead.1 hab)]
    · rw [List.orderedInsert_of_not_le r l hab,
        List.orderedInsert_of_not_le s l fun hs => hab (hhead.2 hs),
        ih fun c hc => h c (List.mem_cons_of_mem _ hc)]

theorem insertionSort_congr {l : List α} (h : l.Pairwise fun a b => r a b ↔ s a b) :
    l.insertionSort r = l.insertionSort s := by
  induction l with
  | nil => rfl
  | cons a l ih =>
    obtain ⟨ha, hl⟩ := List.pairwise_cons.1 h
    rw [List.insertionSort_cons, List.insertionSort_cons, ih hl]
    exact orderedInsert_congr fun b hb => ha b ((List.mem_insertionSort s).1 hb)

variable [Std.Total r]

/-- Two sorted lists with the same ties in the same order are the same. -/
theorem eq_of_pairwise_of_filter {l l' : List α} (h : l.Pairwise r) (h' : l'.Pairwise r)
    (hties : ∀ a, l'.filter (fun b => r a b ∧ r b a) = l.filter fun b => r a b ∧ r b a) :
    l' = l := by
  have hrefl : ∀ a, r a a := fun a => (Std.Total.total (r := r) a a).elim id id
  -- the elements are the same: each is among its own ties
  have hmem : ∀ a, a ∈ l' ↔ a ∈ l := by
    intro a
    have heq := congrArg (a ∈ ·) (hties a)
    simpa [hrefl] using heq
  induction l generalizing l' with
  | nil =>
    cases l' with
    | nil => rfl
    | cons a l' => exact absurd ((hmem a).1 List.mem_cons_self) List.not_mem_nil
  | cons a l ih =>
    cases l' with
    | nil => exact absurd ((hmem a).2 List.mem_cons_self) List.not_mem_nil
    | cons a' l' =>
      obtain ⟨ha, hl⟩ := List.pairwise_cons.1 h
      obtain ⟨ha', hl'⟩ := List.pairwise_cons.1 h'
      have hle : r a a' := by
        rcases List.mem_cons.1 ((hmem a').1 List.mem_cons_self) with heq | hin
        · exact heq ▸ hrefl a'
        · exact ha a' hin
      have hge : r a' a := by
        rcases List.mem_cons.1 ((hmem a).2 List.mem_cons_self) with heq | hin
        · exact heq ▸ hrefl a
        · exact ha' a hin
      -- the heads are tied, so both come first among their ties
      obtain rfl : a' = a := by
        have hfirst := hties a
        rw [List.filter_cons, List.filter_cons, if_pos (decide_eq_true ⟨hle, hge⟩),
          if_pos (decide_eq_true ⟨hrefl a, hrefl a⟩), List.cons.injEq] at hfirst
        exact hfirst.1
      have htail : ∀ b, l'.filter (fun c => r b c ∧ r c b) = l.filter fun c => r b c ∧ r c b := by
        intro b
        have hb := hties b
        rw [List.filter_cons, List.filter_cons] at hb
        split_ifs at hb
        · exact (List.cons.inj hb).2
        · exact hb
      refine congrArg (a' :: ·) (ih hl hl' htail fun b => ?_)
      have heq := congrArg (b ∈ ·) (htail b)
      simpa [hrefl] using heq

variable [IsTrans α r]

/-- Sorting is what orders a list and leaves ties in order. -/
theorem eq_insertionSort_iff {l l' : List α} : l' = l.insertionSort r ↔ l'.Pairwise r ∧
    ∀ a, l'.filter (fun b => r a b ∧ r b a) = l.filter fun b => r a b ∧ r b a := by
  have hties : ∀ a, (l.insertionSort r).filter (fun b => r a b ∧ r b a) =
      l.filter fun b => r a b ∧ r b a := by
    intro a
    rw [filter_insertionSort]
    refine List.Pairwise.insertionSort_eq (List.pairwise_of_forall_mem_list fun b hb c hc => ?_)
    have hba := (of_decide_eq_true (List.mem_filter.1 hb).2).2
    have hac := (of_decide_eq_true (List.mem_filter.1 hc).2).1
    exact IsTrans.trans b a c hba hac
  constructor
  · rintro rfl
    exact ⟨List.pairwise_insertionSort r l, hties⟩
  · rintro ⟨hsorted, htied⟩
    exact eq_of_pairwise_of_filter (List.pairwise_insertionSort r l) hsorted fun a =>
      (htied a).trans (hties a).symm

/-- Two orders sort a list in the same way exactly if they agree on each element and those behind
it. -/
theorem insertionSort_eq_insertionSort_iff [Std.Total s] [IsTrans α s] {l : List α} :
    l.insertionSort r = l.insertionSort s ↔ l.Pairwise fun a b => r a b ↔ s a b := by
  refine ⟨fun h => List.pairwise_iff_forall_sublist.2 fun {a b} hsub =>
    ⟨fun hr => ?_, fun hs => ?_⟩, insertionSort_congr⟩
  · have hpair := List.pair_sublist_insertionSort hr hsub
    rw [h] at hpair
    exact List.pairwise_iff_forall_sublist.1 (List.pairwise_insertionSort s l) hpair
  · have hpair := List.pair_sublist_insertionSort hs hsub
    rw [← h] at hpair
    exact List.pairwise_iff_forall_sublist.1 (List.pairwise_insertionSort r l) hpair

end Agree

theorem cons_le_cons_iff_lex {α : Type*} [LinearOrder α] {a b : α} {l l' : List α} :
    a :: l ≤ b :: l' ↔ a < b ∨ a = b ∧ l ≤ l' := by
  rw [le_iff_lt_or_eq, le_iff_lt_or_eq, List.cons_lt_cons_iff, List.cons.injEq, or_assoc,
    ← and_or_left]

/-- The first element of a sorted list with a property is the least one. -/
theorem find?_eq_some_iff_isLeast {α : Type*} [LinearOrder α] {l : List α}
    (h : l.Pairwise (· < ·)) {p : α → Bool} {x : α} :
    l.find? p = some x ↔ IsLeast {y | y ∈ l ∧ p y = true} x := by
  induction l with
  | nil => simp [IsLeast]
  | cons a l ih =>
    obtain ⟨hfirst, hrest⟩ := List.pairwise_cons.1 h
    by_cases hp : p a = true
    · rw [List.find?_cons_of_pos hp, Option.some.injEq]
      constructor
      · rintro rfl
        refine ⟨⟨List.mem_cons_self, hp⟩, fun y hy => ?_⟩
        rcases List.mem_cons.1 hy.1 with rfl | hmem
        · exact le_rfl
        · exact (hfirst y hmem).le
      · rintro ⟨⟨hmem, -⟩, hleast⟩
        have hle := hleast ⟨List.mem_cons_self, hp⟩
        exact (List.mem_cons.1 hmem).elim Eq.symm fun hx => absurd hle (hfirst x hx).not_ge
    · rw [List.find?_cons_of_neg hp, ih hrest]
      have hset : {y | y ∈ a :: l ∧ p y = true} = {y | y ∈ l ∧ p y = true} := by
        ext y
        refine and_congr_left fun hy => ?_
        rw [List.mem_cons, or_iff_right fun heq : y = a => hp (heq ▸ hy)]
      rw [hset]

theorem exists_zip_of_map_eq {α β : Type*} {f : α → β} {l l' : List α} (h : l'.map f = l.map f) :
    ∃ z : List (α × α), z.map Prod.fst = l ∧ z.map Prod.snd = l' ∧ ∀ p ∈ z, f p.2 = f p.1 := by
  induction l generalizing l' with
  | nil =>
    obtain rfl := List.map_eq_nil_iff.1 h
    exact ⟨[], rfl, rfl, nofun⟩
  | cons a l ih =>
    obtain ⟨a', t, rfl, ha, ht⟩ := List.map_eq_cons_iff.1 h
    obtain ⟨z, rfl, rfl, hz⟩ := ih ht
    exact ⟨(a, a') :: z, rfl, rfl, List.forall_mem_cons.2 ⟨ha, hz⟩⟩

end Midscale
