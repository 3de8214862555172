import Mathlib.Algebra.BigOperators.Group.Finset.Basic
import Mathlib.Algebra.Order.BigOperators.Group.Finset
import Mathlib.Data.List.TakeWhile
import Midscale.Run.Shared

/-!
# Requests that read a value and write it back

A register is a value that requests change in two steps each: a request reads it, and later writes
what it makes of the value it read.  Nothing keeps the others from writing in between, and what they
wrote is lost then.  The schedule of a run lists which request takes the steps: the first step of a
request is its read, the second its write.

* `after_concat_write`, `after_concat_of_not` : the value after a schedule, from the value at the
  read.
* `after_add_eq` : **a register to which requests add holds the sum over `survivors`**, the
  requests that are left when the same steps are made on sets.
* `full_iff_undisturbed` : **all writers survive exactly if none writes between the read and the
  write of another.**
* `after_add_exact_iff`, `sum_lost_eq_zero_iff` : when the register has grown by all amounts.
-/

namespace Midscale

/-! ### The schedule before a first step -/

section

variable {P : Type*} [DecidableEq P] {l : List P} {p : P}

/-- The steps before the first one of `p`. -/
def beforeRead (p : P) (l : List P) : List P := l.takeWhile (· ≠ p)

theorem not_mem_beforeRead (p : P) (l : List P) : p ∉ beforeRead p l := fun h => by
  simpa using List.mem_takeWhile_imp h

theorem beforeRead_isPrefix (p : P) (l : List P) : beforeRead p l <+: l := List.takeWhile_prefix _

theorem beforeRead_append (p : P) {l : List P} (m : List P) (h : p ∉ l) :
    beforeRead p (l ++ p :: m) = l := by
  have hl : ∀ q ∈ l, decide (q ≠ p) = true := fun q hq =>
    decide_eq_true fun heq : q = p => h (heq ▸ hq)
  rw [beforeRead, List.takeWhile_append_of_pos hl, List.takeWhile_cons_of_neg (by simp),
    List.append_nil]

theorem exists_eq_beforeRead (h : p ∈ l) : ∃ m, l = beforeRead p l ++ p :: m := by
  obtain ⟨l₁, m, rfl, hl₁⟩ := List.eq_append_cons_of_mem h
  exact ⟨m, by rw [beforeRead_append p m hl₁]⟩

theorem beforeRead_concat (h : p ∈ l) (q : P) : beforeRead p (l ++ [q]) = beforeRead p l := by
  obtain ⟨m, hm⟩ := exists_eq_beforeRead h
  conv_lhs => rw [hm, List.append_assoc, List.cons_append]
  exact beforeRead_append p _ (not_mem_beforeRead p l)

end

/-! ### Requests -/

/-- How far a request has come. -/
inductive Rmw (α : Type*) where
  | idle
  | holding (a : α)
  | done

namespace Rmw

section

variable {P α : Type*} [DecidableEq P]

/-- The next step of a request; one that `skips` writes nothing. -/
def next (write : P → α → α) (skips : P → Bool) (p : P) (_ : Unit) (a : α) : Rmw α → α × Rmw α
  | .idle => (a, .holding a)
  | .holding old => (if skips p then a else write p old, .done)
  | .done => (a, .done)

/-- One step of the schedule. -/
def step (write : P → α → α) (skips : P → Bool) (w : Shared P α (Rmw α)) (p : P) :
    Shared P α (Rmw α) := w.step (next write skips) (p, ())

/-- The register and the requests after a schedule. -/
def after (write : P → α → α) (skips : P → Bool) (a : α) (schedule : List P) :
    Shared P α (Rmw α) := run (step write skips) ⟨a, fun _ => .idle⟩ schedule

variable {write : P → α → α} {skips : P → Bool} {a : α} {l : List P} {p : P}

theorem after_concat (l : List P) (p : P) :
    after write skips a (l ++ [p]) = step write skips (after write skips a l) p :=
  run_concat ..

theorem count_concat_self (l : List P) (p : P) : (l ++ [p]).count p = l.count p + 1 := by
  rw [List.count_append, List.count_singleton_self]

theorem count_concat_of_ne (l : List P) {p q : P} (h : p ≠ q) : (l ++ [q]).count p = l.count p := by
  have hzero : [q].count p = 0 := List.count_eq_zero.2 (by simpa using h)
  rw [List.count_append, hzero, Nat.add_zero]

theorem locals_after (write : P → α → α) (skips : P → Bool) (a : α) (l : List P) (p : P) :
    (l.count p = 0 ∧ (after write skips a l).locals p = .idle) ∨
    (l.count p = 1 ∧ (after write skips a l).locals p =
      .holding (after write skips a (beforeRead p l)).store) ∨
    (2 ≤ l.count p ∧ (after write skips a l).locals p = .done) := by
  induction l using List.reverseRecOn with
  | nil => exact .inl ⟨rfl, rfl⟩
  | append_singleton l q ih =>
    rw [after_concat, step]
    by_cases hq : p = q
    · subst hq
      rw [Shared.step_locals_self, count_concat_self]
      rcases ih with ⟨hcount, hlocal⟩ | ⟨hcount, hlocal⟩ | ⟨hcount, hlocal⟩
      · refine .inr (.inl ⟨by omega, ?_⟩)
        rw [hlocal, beforeRead_append p [] (List.count_eq_zero.1 hcount)]
        rfl
      · exact .inr (.inr ⟨by omega, by rw [hlocal]; rfl⟩)
      · exact .inr (.inr ⟨by omega, by rw [hlocal]; rfl⟩)
    · rw [Shared.step_locals_of_ne hq, count_concat_of_ne l hq]
      rcases ih with h | ⟨hcount, hlocal⟩ | h
      · exact .inl h
      · refine .inr (.inl ⟨hcount, ?_⟩)
        rw [hlocal, beforeRead_concat (List.count_pos_iff.1 (by omega))]
      · exact .inr (.inr h)

theorem locals_after_eq_done_iff :
    (after write skips a l).locals p = .done ↔ 2 ≤ l.count p := by
  rcases locals_after write skips a l p with ⟨hcount, hlocal⟩ | ⟨hcount, hlocal⟩ | h
  · exact iff_of_false (by rw [hlocal]; exact fun h => by cases h) (by omega)
  · exact iff_of_false (by rw [hlocal]; exact fun h => by cases h) (by omega)
  · exact iff_of_true h.2 h.1

/-- A write puts down what the request made of the value it read. -/
theorem after_concat_write (hcount : l.count p = 1) (hskips : skips p = false) :
    (after write skips a (l ++ [p])).store =
      write p (after write skips a (beforeRead p l)).store := by
  rw [after_concat, step, Shared.step_store]
  rcases locals_after write skips a l p with ⟨h, -⟩ | ⟨-, hlocal⟩ | ⟨h, -⟩
  · omega
  · rw [hlocal, next, hskips, if_neg Bool.false_ne_true]
  · omega

/-- Any other step leaves the value alone. -/
theorem after_concat_of_not (h : l.count p = 1 → skips p = true) :
    (after write skips a (l ++ [p])).store = (after write skips a l).store := by
  rw [after_concat, step, Shared.step_store]
  rcases locals_after write skips a l p with ⟨-, hlocal⟩ | ⟨hcount, hlocal⟩ | ⟨-, hlocal⟩
  · rw [hlocal, next]
  · rw [hlocal, next, h hcount, if_pos rfl]
  · rw [hlocal, next]

/-- Nobody writes in the second part of the schedule. -/
def Quiet (skips : P → Bool) (l m : List P) : Prop :=
  ∀ q, skips q = false → 2 ≤ (l ++ m).count q → 2 ≤ l.count q

theorem after_append_of_quiet {l m : List P} (h : Quiet skips l m) :
    (after write skips a (l ++ m)).store = (after write skips a l).store := by
  induction m using List.reverseRecOn with
  | nil => rw [List.append_nil]
  | append_singleton m q ih =>
    rw [Quiet, ← List.append_assoc] at h
    rw [← List.append_assoc, after_concat_of_not, ih]
    · refine fun r hr hcount => h r hr (hcount.trans ?_)
      exact (List.prefix_append (l ++ m) [q]).sublist.count_le r
    · intro hcount
      by_contra hskips
      have htwo : 2 ≤ l.count q := by
        refine h q (by simpa using hskips) ?_
        rw [count_concat_self, hcount]
      rw [List.count_append] at hcount
      omega

/-- **A rule for the value after a schedule**: it holds at the start, and of every write if it holds
before the read. -/
theorem after_induction {C : List P → α → Prop} (hnil : C [] a)
    (hwrite : ∀ l p, l.count p = 1 → skips p = false →
      C (beforeRead p l) (after write skips a (beforeRead p l)).store →
        C (l ++ [p]) (write p (after write skips a (beforeRead p l)).store))
    (hkeep : ∀ l p b, (l.count p = 1 → skips p = true) → C l b → C (l ++ [p]) b) (l : List P) :
    C l (after write skips a l).store := by
  induction hlen : l.length using Nat.strong_induction_on generalizing l with
  | _ n ih =>
    subst hlen
    cases l using List.reverseRecOn with
    | nil => exact hnil
    | append_singleton l p =>
      have hshorter : l.length < (l ++ [p]).length := by simp
      by_cases hstep : l.count p = 1 → skips p = true
      · rw [after_concat_of_not hstep]
        exact hkeep l p _ hstep (ih l.length hshorter l rfl)
      · rw [Classical.not_imp, Bool.not_eq_true] at hstep
        rw [after_concat_write hstep.1 hstep.2]
        exact hwrite l p hstep.1 hstep.2 (ih _
          ((beforeRead_isPrefix p l).length_le.trans_lt hshorter) _ rfl)

end

/-! ### The requests that survive -/

section

variable {P : Type*} [DecidableEq P]

/-- The requests whose writes the value still contains. -/
def survivors (skips : P → Bool) (schedule : List P) : Finset P :=
  (after (fun p s => insert p s) skips ∅ schedule).store

variable {skips : P → Bool} {l : List P} {p : P}

theorem survivors_concat_write (hcount : l.count p = 1) (hskips : skips p = false) :
    survivors skips (l ++ [p]) = insert p (survivors skips (beforeRead p l)) :=
  after_concat_write hcount hskips

theorem survivors_concat_of_not (h : l.count p = 1 → skips p = true) :
    survivors skips (l ++ [p]) = survivors skips l := after_concat_of_not h

theorem count_of_mem_survivors (l : List P) :
    ∀ q ∈ survivors skips l, skips q = false ∧ 2 ≤ l.count q := by
  have hmono : ∀ {l m : List P} (q : P), l <+: m → l.count q ≤ m.count q :=
    fun q h => h.sublist.count_le q
  refine after_induction (C := fun l s => ∀ q ∈ s, skips q = false ∧ 2 ≤ l.count q)
    (fun q hq => absurd hq (Finset.notMem_empty q)) (fun l p hcount hskips ih q hq => ?_)
    (fun l p s _ ih q hq => ⟨(ih q hq).1, (ih q hq).2.trans (hmono q (List.prefix_append ..))⟩) l
  rcases Finset.mem_insert.1 hq with rfl | hq
  · exact ⟨hskips, by rw [count_concat_self, hcount]⟩
  · exact ⟨(ih q hq).1, (ih q hq).2.trans (hmono q
      ((beforeRead_isPrefix p l).trans (List.prefix_append ..)))⟩

theorem not_mem_survivors_beforeRead (p : P) (l : List P) :
    p ∉ survivors skips (beforeRead p l) := fun h => by
  have hpos : 0 < (beforeRead p l).count p :=
    lt_of_lt_of_le Nat.two_pos (count_of_mem_survivors _ p h).2
  exact not_mem_beforeRead p l (List.count_pos_iff.1 hpos)

/-- **The value is the sum over the requests that survive**, where requests add to it. -/
theorem after_add_eq {A : Type*} [AddCommMonoid A] (amount : P → A) (a : A) (l : List P) :
    (after (fun p b => b + amount p) skips a l).store =
      a + ∑ p ∈ survivors skips l, amount p := by
  refine after_induction (C := fun l b => b = a + ∑ p ∈ survivors skips l, amount p)
    (add_zero a).symm (fun l p hcount hskips ih => ?_) (fun l p b hkeep ih => ?_) l
  · rw [survivors_concat_write hcount hskips,
      Finset.sum_insert (not_mem_survivors_beforeRead p l), ih, add_assoc,
      add_comm (∑ q ∈ _, amount q)]
  · rw [survivors_concat_of_not hkeep]
    exact ih

/-- No request that writes has another write between its read and its own write. -/
def Undisturbed (skips : P → Bool) (schedule : List P) : Prop :=
  ∀ l m p, l ++ p :: m ++ [p] <+: schedule → p ∉ l → p ∉ m → skips p = false →
    Quiet skips l (p :: m)

theorem undisturbed_concat_write (hcount : l.count p = 1) (hskips : skips p = false) {m : List P}
    (hl : l = beforeRead p l ++ p :: m) :
    Undisturbed skips (l ++ [p]) ↔ Undisturbed skips l ∧ Quiet skips (beforeRead p l) (p :: m) := by
  have hm : p ∉ m := fun h => by
    have hpos := List.count_pos_iff.2 h
    rw [hl, List.count_append, List.count_cons_self] at hcount
    omega
  constructor
  · intro h
    refine ⟨fun l₁ m₁ q hpre => h l₁ m₁ q (hpre.trans (List.prefix_append ..)), ?_⟩
    refine h (beforeRead p l) m p ?_ (not_mem_beforeRead p l) hm hskips
    rw [← hl]
  · rintro ⟨h, hquiet⟩ l₁ m₁ q hpre hl₁ hm₁ hq
    rcases List.prefix_concat_iff.1 hpre with heq | hpre
    · obtain ⟨hinit, hlast⟩ := List.append_inj' heq rfl
      obtain rfl : q = p := List.singleton_inj.1 hlast
      have hbefore : beforeRead q l = l₁ := by rw [← hinit, beforeRead_append q m₁ hl₁]
      rw [hbefore] at hl hquiet
      obtain rfl : m₁ = m := by
        have := hinit.trans hl
        exact (List.cons.inj (List.append_cancel_left this)).2
      exact hquiet
    · exact h l₁ m₁ q hpre hl₁ hm₁ hq

theorem undisturbed_concat_of_not (h : l.count p = 1 → skips p = true) :
    Undisturbed skips (l ++ [p]) ↔ Undisturbed skips l := by
  constructor
  · exact fun hall l₁ m₁ q hpre => hall l₁ m₁ q (hpre.trans (List.prefix_append ..))
  · intro hall l₁ m₁ q hpre hl₁ hm₁ hq
    rcases List.prefix_concat_iff.1 hpre with heq | hpre
    · obtain ⟨hinit, hlast⟩ := List.append_inj' heq rfl
      obtain rfl : q = p := List.singleton_inj.1 hlast
      have hcount : l.count q = 1 := by
        rw [← hinit, List.count_append, List.count_cons_self, List.count_eq_zero.2 hl₁,
          List.count_eq_zero.2 hm₁]
      rw [h hcount] at hq
      cases hq
    · exact hall l₁ m₁ q hpre hl₁ hm₁ hq

/-- Every request that has written survives. -/
def Full (skips : P → Bool) (schedule : List P) : Prop :=
  ∀ q, skips q = false → 2 ≤ schedule.count q → q ∈ survivors skips schedule

theorem full_concat_write (hcount : l.count p = 1) (hskips : skips p = false) {m : List P}
    (hl : l = beforeRead p l ++ p :: m) :
    Full skips (l ++ [p]) ↔ Full skips l ∧ Quiet skips (beforeRead p l) (p :: m) := by
  rw [Full, survivors_concat_write hcount hskips]
  have hne : ∀ {q}, 2 ≤ l.count q → q ≠ p := by
    rintro q hq rfl
    omega
  constructor
  · intro h
    have hread : ∀ q, skips q = false → 2 ≤ l.count q → q ∈ survivors skips (beforeRead p l) := by
      intro q hq htwo
      refine Finset.mem_of_mem_insert_of_ne (h q hq ?_) (hne htwo)
      rw [count_concat_of_ne l (hne htwo)]
      exact htwo
    have hquiet : Quiet skips (beforeRead p l) (p :: m) := by
      intro q hq htwo
      rw [← hl] at htwo
      exact (count_of_mem_survivors _ q (hread q hq htwo)).2
    refine ⟨fun q hq htwo => ?_, hquiet⟩
    rw [survivors, hl, after_append_of_quiet hquiet]
    exact hread q hq htwo
  · rintro ⟨hfull, hquiet⟩ q hq htwo
    by_cases hqp : q = p
    · exact Finset.mem_insert.2 (.inl hqp)
    · refine Finset.mem_insert_of_mem ?_
      rw [count_concat_of_ne l hqp] at htwo
      have hmem := hfull q hq htwo
      rw [survivors, hl, after_append_of_quiet hquiet] at hmem
      exact hmem

theorem full_concat_of_not (h : l.count p = 1 → skips p = true) :
    Full skips (l ++ [p]) ↔ Full skips l := by
  rw [Full, Full, survivors_concat_of_not h]
  refine forall_congr' fun q => forall_congr' fun hq => ?_
  by_cases hqp : q = p
  · subst hqp
    have hne : l.count q ≠ 1 := fun hone => by
      rw [h hone] at hq
      cases hq
    rw [count_concat_self]
    exact imp_congr_left (by omega)
  · rw [count_concat_of_ne l hqp]

/-- **All writers survive exactly if none writes between the read and the write of another.** -/
theorem full_iff_undisturbed (skips : P → Bool) (l : List P) :
    Full skips l ↔ Undisturbed skips l := by
  induction l using List.reverseRecOn with
  | nil =>
    refine iff_of_true (fun q _ h => absurd h (by simp)) fun l m p hpre => ?_
    have := hpre.length_le
    simp at this
  | append_singleton l p ih =>
    by_cases hstep : l.count p = 1 → skips p = true
    · rw [full_concat_of_not hstep, undisturbed_concat_of_not hstep, ih]
    · rw [Classical.not_imp, Bool.not_eq_true] at hstep
      have hmem : p ∈ l := List.count_pos_iff.1 (by rw [hstep.1]; exact Nat.one_pos)
      obtain ⟨m, hm⟩ := exists_eq_beforeRead hmem
      rw [full_concat_write hstep.1 hstep.2 hm, undisturbed_concat_write hstep.1 hstep.2 hm, ih]

/-! ### Sums -/

variable [Fintype P]

/-- The requests whose writes the value does not contain. -/
def lost (skips : P → Bool) (schedule : List P) : Finset P :=
  Finset.univ \ survivors skips schedule

/-- The register has grown by all amounts exactly if those of the lost requests sum to zero. -/
theorem after_add_exact_iff (skips : P → Bool) {A : Type*} [AddCommGroup A] (amount : P → A) (a : A)
    (l : List P) :
    (after (fun p b => b + amount p) skips a l).store = a + ∑ p, amount p ↔
      ∑ p ∈ lost skips l, amount p = 0 := by
  rw [after_add_eq, add_right_inj, lost,
    ← Finset.sum_sdiff (Finset.subset_univ (survivors skips l)), right_eq_add]

/-- Amounts that are not negative sum to zero over the lost requests exactly if the schedule is
undisturbed. -/
theorem sum_lost_eq_zero_iff {A : Type*} [AddCommMonoid A] [PartialOrder A] [IsOrderedAddMonoid A]
    {amount : P → A} (hpos : ∀ p, 0 ≤ amount p) (hskips : ∀ p, skips p = true ↔ amount p = 0)
    (hall : ∀ p, 2 ≤ l.count p) :
    ∑ p ∈ lost skips l, amount p = 0 ↔ Undisturbed skips l := by
  rw [Finset.sum_eq_zero_iff_of_nonneg fun p _ => hpos p, ← full_iff_undisturbed, Full]
  refine forall_congr' fun p => ?_
  rw [lost, Finset.mem_sdiff, ← hskips, ← Bool.not_eq_true]
  have hp := hall p
  have huniv := Finset.mem_univ p
  tauto

end

end Rmw

end Midscale
