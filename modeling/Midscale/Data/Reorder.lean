import Midscale.Data.SetOrder
import Midscale.Data.Sort
import Midscale.Data.Table

/-!
# Lists that do not depend on an order

A query returns its rows in some order, and a program makes a list of them.  The list is the same
for every order exactly if the rows that may trade places are made into the same thing: all rows, if
nothing is sorted, and those that tie, if the rows are sorted first.

* `forall_perm_map_eq_iff` : rows in any order.
* `forall_sorted_map_eq_iff` : **rows that are sorted, with ties in any order.**
-/

namespace Midscale

variable {α β : Type*}

/-! ### Rows in any order -/

theorem map_eq_map_of_forall {f g : α → β} {l l' : List α} (hlen : l'.length = l.length)
    (h : ∀ a ∈ l, ∀ b ∈ l', g b = f a) : l'.map g = l.map f := by
  induction l generalizing l' with
  | nil => rw [List.length_eq_zero_iff.1 hlen, List.map_nil, List.map_nil]
  | cons a l ih =>
    cases l' with
    | nil => cases hlen
    | cons b l' =>
      rw [List.map_cons, List.map_cons, h a List.mem_cons_self b List.mem_cons_self,
        ih (Nat.succ.inj hlen) fun c hc e he =>
          h c (List.mem_cons_of_mem a hc) e (List.mem_cons_of_mem b he)]

/-- The same, where the last elements are made into another thing than those before. -/
theorem map_eq_map_of_getLast? {f g : α → β} {l l' : List α} (hlen : l'.length = l.length)
    (hl : l.Nodup) (hl' : l'.Nodup) (h : ∀ a ∈ l, ∀ b ∈ l',
      (l.getLast? = some a ↔ l'.getLast? = some b) → g b = f a) : l'.map g = l.map f := by
  induction l generalizing l' with
  | nil => rw [List.length_eq_zero_iff.1 hlen, List.map_nil, List.map_nil]
  | cons a l ih =>
    cases l' with
    | nil => cases hlen
    | cons b l' =>
      obtain ⟨ha, hl⟩ := List.nodup_cons.1 hl
      obtain ⟨hb, hl'⟩ := List.nodup_cons.1 hl'
      have hlen := Nat.succ.inj hlen
      have hhead : (a :: l).getLast? = some a ↔ (b :: l').getLast? = some b := by
        -- a first element is the last one if it is the only one
        have honly : ∀ {c : α} {m : List α}, c ∉ m →
            ((c :: m).getLast? = some c ↔ m.length = 0) := by
          intro c m hc
          cases m with
          | nil => exact iff_of_true rfl rfl
          | cons e m =>
            rw [List.getLast?_cons_cons]
            exact iff_of_false (fun heq => hc (List.mem_of_getLast? heq)) (Nat.succ_ne_zero _)
        rw [honly ha, honly hb, hlen]
      rw [List.map_cons, List.map_cons, h a List.mem_cons_self b List.mem_cons_self hhead,
        ih hlen hl hl' fun c hc e he hlast =>
          h c (List.mem_cons_of_mem a hc) e (List.mem_cons_of_mem b he) ?_]
      have htail : ∀ {c : α} {m : List α} {e : α}, e ∈ m → (c :: m).getLast? = m.getLast? := by
        intro c m e he
        cases m with
        | nil => cases he
        | cons e' m => exact List.getLast?_cons_cons
      rwa [htail hc, htail he]

/-- **A list of rows is the same in any order** exactly if all rows are made into the same thing. -/
theorem forall_perm_map_eq_iff [DecidableEq α] {f : α → β} {l : List α} :
    (∀ l' : List α, l'.Perm l → l'.map f = l.map f) ↔ ∀ a ∈ l, ∀ b ∈ l, f a = f b := by
  constructor
  · intro h a ha b hb
    have heq := (h _ (List.perm_cons_erase ha).symm).trans (h _ (List.perm_cons_erase hb).symm).symm
    exact (List.cons.inj heq).1
  · intro h l' hperm
    exact map_eq_map_of_forall hperm.length_eq fun a ha b hb => h b (hperm.subset hb) a ha

theorem perm_concat_erase [DecidableEq α] {a : α} {l : List α} (h : a ∈ l) :
    (l.erase a ++ [a]).Perm l :=
  (List.perm_append_singleton a _).trans (List.perm_cons_erase h).symm

theorem find?_reverse_concat (p : α → Bool) (l : List α) (a : α) :
    (l ++ [a]).reverse.find? p = if p a then some a else l.reverse.find? p := by
  rw [List.reverse_append, List.reverse_singleton, List.singleton_append, List.find?_cons]
  cases p a <;> rfl

/-! ### Sets in any order -/

theorem SetOrder.elems_eq_of_forall (order order' : SetOrder α) {l l' : List α}
    (hperm : l'.Perm l) (h : ∀ a ∈ l, ∀ b ∈ l, a = b) : order'.elems l' = order.elems l := by
  have helems : (order'.elems l').Perm (order.elems l) :=
    (List.perm_ext_iff_of_nodup (order'.nodup l') (order.nodup l)).2 fun a => by
      rw [order'.mem_elems, order.mem_elems, hperm.mem_iff]
  have hmap := map_eq_map_of_forall (f := id) (g := id) helems.length_eq fun a ha b hb =>
    h b (hperm.subset (order'.mem_elems.1 hb)) a (order.mem_elems.1 ha)
  rwa [List.map_id, List.map_id] at hmap

/-- The order in which an element comes first. -/
def SetOrder.first [DecidableEq α] (order : SetOrder α) (a : α) : SetOrder α where
  elems l := if a ∈ l then a :: (order.elems l).erase a else order.elems l
  nodup l := by
    split_ifs
    · exact List.nodup_cons.2 ⟨(order.nodup l).not_mem_erase, (order.nodup l).erase a⟩
    · exact order.nodup l
  mem_elems {l x} := by
    split_ifs with ha
    · rw [(List.perm_cons_erase (order.mem_elems.2 ha)).symm.mem_iff, order.mem_elems]
    · exact order.mem_elems

theorem SetOrder.eq_of_forall_elems [DecidableEq α] (order : SetOrder α) {l : List α}
    (h : ∀ order' : SetOrder α, order'.elems l = order.elems l) {a b : α} (ha : a ∈ l)
    (hb : b ∈ l) : a = b := by
  have heq := (h (order.first a)).trans (h (order.first b)).symm
  change (if a ∈ l then _ else _) = if b ∈ l then _ else _ at heq
  rw [if_pos ha, if_pos hb] at heq
  exact (List.cons.inj heq).1

/-! ### Sorted rows -/

section Sorted

variable {r : α → α → Prop}

theorem map_eq_of_pairwise_of_perm {f : α → β} {l l' : List α} (hl : l.Pairwise r)
    (hl' : l'.Pairwise r) (hperm : l'.Perm l)
    (hties : ∀ a ∈ l, ∀ b ∈ l, r a b → r b a → f a = f b) : l'.map f = l.map f := by
  induction l generalizing l' with
  | nil => rw [hperm.eq_nil]
  | cons a l ih =>
    obtain ⟨ha, hl⟩ := List.pairwise_cons.1 hl
    obtain ⟨s, u, rfl⟩ := List.append_of_mem (hperm.symm.subset List.mem_cons_self)
    have hrest : (s ++ u).Perm l := List.Perm.cons_inv (List.perm_middle.symm.trans hperm)
    have hsub : (s ++ u).Sublist (s ++ a :: u) :=
      List.Sublist.append_left (List.sublist_cons_self a u) s
    -- what stands before the first element ties with it
    have hfront : ∀ c ∈ s, f c = f a := by
      intro c hc
      have hmem : c ∈ l := hrest.subset (List.mem_append_left u hc)
      have hca : r c a := (List.pairwise_append.1 hl').2.2 c hc a List.mem_cons_self
      exact hties c (List.mem_cons_of_mem a hmem) a List.mem_cons_self hca (ha c hmem)
    have hmap := ih hl (hl'.sublist hsub) hrest fun b hb c hc =>
      hties b (List.mem_cons_of_mem a hb) c (List.mem_cons_of_mem a hc)
    have hs : s.map f = List.replicate s.length (f a) := by
      refine List.eq_replicate_iff.2 ⟨List.length_map f, fun b hb => ?_⟩
      obtain ⟨c, hc, rfl⟩ := List.mem_map.1 hb
      exact hfront c hc
    rw [List.map_append, hs] at hmap
    rw [List.map_append, List.map_cons, List.map_cons, hs, ← hmap, ← List.cons_append,
      ← List.replicate_succ, List.replicate_succ', List.append_assoc, List.singleton_append]

variable [DecidableRel r] [IsTrans α r]

theorem takeWhile_eq_filter_of_pairwise {a : α} {l : List α} (h : l.Pairwise r) :
    l.takeWhile (fun b => ¬ r a b) = l.filter fun b => ¬ r a b := by
  induction l with
  | nil => rfl
  | cons b l ih =>
    obtain ⟨hb, hl⟩ := List.pairwise_cons.1 h
    rw [List.takeWhile_cons, List.filter_cons]
    by_cases hab : r a b
    · have hnone : l.filter (fun c => ¬ r a c) = [] := by
        refine List.filter_eq_nil_iff.2 fun c hc => ?_
        simpa using IsTrans.trans a b c hab (hb c hc)
      rw [if_neg (by simpa using hab), if_neg (by simpa using hab), hnone]
    · rw [if_pos (by simpa using hab), if_pos (by simpa using hab), ih hl]

theorem getElem?_insertionSort_cons [Std.Total r] (a : α) (l : List α) :
    ((a :: l).insertionSort r)[l.countP fun b => ¬ r a b]? = some a := by
  have hsorted := List.pairwise_insertionSort r l
  have hlen : ((l.insertionSort r).takeWhile fun b => ¬ r a b).length =
      l.countP fun b => ¬ r a b := by
    rw [takeWhile_eq_filter_of_pairwise hsorted, ← List.countP_eq_length_filter]
    exact (List.perm_insertionSort r l).countP_eq _
  rw [List.insertionSort_cons, List.orderedInsert_eq_take_drop, ← hlen,
    List.getElem?_append_right le_rfl, Nat.sub_self]
  rfl

/-- **A list of sorted rows is the same for every order of the ties** exactly if rows that tie are
made into the same thing. -/
theorem forall_sorted_map_eq_iff [DecidableEq α] [Std.Total r] {f : α → β} {l : List α} :
    (∀ l' l'' : List α, l'.Perm l → l'.Pairwise r → l''.Perm l → l''.Pairwise r →
      l'.map f = l''.map f) ↔ ∀ a ∈ l, ∀ b ∈ l, r a b → r b a → f a = f b := by
  constructor
  · intro h a ha b hb hab hba
    have hsort : ∀ c ∈ l, ((c :: l.erase c).insertionSort r).Perm l := fun c hc =>
      (List.perm_insertionSort r _).trans (List.perm_cons_erase hc).symm
    have hmap := h _ _ (hsort a ha) (List.pairwise_insertionSort r _) (hsort b hb)
      (List.pairwise_insertionSort r _)
    have hrefl : ∀ c, r c c := fun c => (Std.Total.total (r := r) c c).elim id id
    -- both elements are put at the same place
    have hcount : ∀ c ∈ l, (l.erase c).countP (fun e => ¬ r c e) = l.countP fun e => ¬ r c e := by
      intro c hc
      rw [(List.perm_cons_erase hc).countP_eq, List.countP_cons_of_neg (by simpa using hrefl c)]
    have hplace : (l.erase b).countP (fun e => ¬ r b e) = (l.erase a).countP fun e => ¬ r a e := by
      rw [hcount a ha, hcount b hb]
      refine List.countP_congr fun e _ => ?_
      simp only [decide_eq_true_eq]
      exact not_congr ⟨IsTrans.trans a b e hab, IsTrans.trans b a e hba⟩
    have hfa := congrArg (fun m : List β => m[(l.erase a).countP fun e => ¬ r a e]?) hmap
    rw [List.getElem?_map, getElem?_insertionSort_cons, ← hplace, List.getElem?_map,
      getElem?_insertionSort_cons] at hfa
    exact Option.some.inj hfa
  · intro h l' l'' hperm hl' hperm' hl''
    exact map_eq_of_pairwise_of_perm hl'' hl' (hperm.trans hperm'.symm) fun a ha b hb =>
      h a (hperm'.subset ha) b (hperm'.subset hb)

end Sorted

/-! ### Sorting twice -/

section Twice

variable {r s : α → α → Prop} [DecidableRel r] [Std.Total r] [IsTrans α r]

theorem pairwise_insertionSort_of_pairwise {l : List α} (h : l.Pairwise s) :
    (l.insertionSort r).Pairwise fun a b => r a b ∧ (r b a → s a b) := by
  refine List.pairwise_iff_forall_sublist.2 fun {a b} hsub => ?_
  have hab : r a b := List.pairwise_iff_forall_sublist.1 (List.pairwise_insertionSort r l) hsub
  refine ⟨hab, fun hba => ?_⟩
  have hrefl : ∀ c, r c c := fun c => (Std.Total.total (r := r) c c).elim id id
  have hties := (eq_insertionSort_iff.1 (rfl : l.insertionSort r = l.insertionSort r)).2 a
  have hpair := hsub.filter fun c => decide (r a c ∧ r c a)
  rw [hties] at hpair
  simp only [List.filter_cons, hrefl, hab, hba, and_self, decide_true, if_true,
    List.filter_nil] at hpair
  exact List.pairwise_iff_forall_sublist.1 h (hpair.trans List.filter_sublist)

theorem insertionSort_insertionSort_eq_self [DecidableRel s] [Std.Total s] [IsTrans α s]
    {l : List α} (h : l.Pairwise fun a b => r a b ∧ (r b a → s a b)) :
    (l.insertionSort s).insertionSort r = l := by
  refine (eq_insertionSort_iff.2 ⟨h.imp And.left, fun a => ?_⟩).symm
  rw [filter_insertionSort]
  refine (List.Pairwise.insertionSort_eq ?_).symm
  refine List.Pairwise.imp_of_mem ?_ (h.filter _)
  intro b c hb hc hbc
  have hba := (of_decide_eq_true (List.mem_filter.1 hb).2).2
  have hac := (of_decide_eq_true (List.mem_filter.1 hb).2).1
  have hca := (of_decide_eq_true (List.mem_filter.1 hc).2).2
  exact hbc.2 (IsTrans.trans c a b hca hac)

end Twice

/-! ### Tables -/

theorem Table.exists_select_eq {ρ κ : Type} [Row ρ κ] (t : Table ρ) {p : ρ → Bool} {l : List ρ}
    (h : l.Perm (t.select p)) : ∃ t' : Table ρ, t'.rows.Perm t.rows ∧ t'.select p = l := by
  have hperm : (l ++ t.rows.filter fun r => ¬ p r).Perm t.rows :=
    (h.append_right _).trans (by simpa [select] using List.filter_append_perm p t.rows)
  refine ⟨t.reorder _ hperm, hperm, ?_⟩
  have hl : l.filter p = l :=
    List.filter_eq_self.2 fun r hr => (Table.mem_select.1 (h.subset hr)).2
  have hrest : (t.rows.filter fun r => ¬ p r).filter p = [] := by
    refine List.filter_eq_nil_iff.2 fun r hr => ?_
    simpa using (List.mem_filter.1 hr).2
  change (l ++ t.rows.filter fun r => ¬ p r).filter p = l
  rw [List.filter_append, hl, hrest, List.append_nil]

end Midscale
