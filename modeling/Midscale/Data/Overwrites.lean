import Mathlib.Data.List.Perm.Basic
import Midscale.Run.Basic

/-!
# Writers of the same places

Writers that work one after the other, each of which overwrites some places and leaves the others as
they are.  Each place has what the last writer that touched it left there.

* `apply_apply_eq_iff` : a second writer of the same places that changes nothing.
* `applyAll_of_mem`, `applyAll_of_untouched` : what is in a place after writers that agree.
* `perm_independent_iff` : **the result is the same for every order** exactly if any two writers of
  a place write the same.
-/

namespace Midscale

/-- What a writer leaves in each place that it touches. -/
abbrev Writes (P C : Type*) := P → Option C

namespace Writes

variable {P C ι : Type*}

/-- The places after a writer. -/
def apply (w : Writes P C) (s : P → C) : P → C := fun p => (w p).getD (s p)

/-- One writer after another. -/
def andThen (w w' : Writes P C) : Writes P C := fun p => (w' p).or (w p)

/-- The writer of one place. -/
def single [DecidableEq P] (p : P) (c : C) : Writes P C := fun q => if q = p then some c else none

/-- The places after all writers. -/
def applyAll (w : ι → Writes P C) (order : List ι) (s : P → C) : P → C :=
  run (fun s i => (w i).apply s) s order

/-- Any two writers of a place write the same. -/
def Compatible (w : ι → Writes P C) (writers : List ι) : Prop :=
  ∀ i ∈ writers, ∀ j ∈ writers, ∀ p c c', w i p = some c → w j p = some c' → c = c'

@[simp] theorem none_apply (s : P → C) : apply (fun _ => none) s = s := rfl

theorem andThen_apply (w w' : Writes P C) (s : P → C) :
    (w.andThen w').apply s = w'.apply (w.apply s) := by
  funext p
  cases hw : w' p with
  | none => simp [apply, andThen, hw]
  | some c => simp [apply, andThen, hw]

theorem single_apply [DecidableEq P] (p : P) (c : C) (s : P → C) :
    (single p c).apply s = Function.update s p c := by
  funext q
  by_cases hq : q = p
  · simp [apply, single, hq]
  · simp [apply, single, hq]

/-- Two writers write the same wherever both write. -/
def Agree (w w' : Writes P C) : Prop := ∀ p c c', w p = some c → w' p = some c' → c' = c

/-- A writer changes nothing after one of the same places exactly if both write the same. -/
theorem apply_apply_eq_iff {w w' : Writes P C} {s : P → C}
    (hplaces : ∀ p, (w' p).isSome → (w p).isSome) :
    w'.apply (w.apply s) = w.apply s ↔ Agree w w' := by
  constructor
  · intro h p c c' hc hc'
    have := congrFun h p
    simpa only [apply, hc, hc', Option.getD_some] using this
  · intro h
    funext p
    cases hc' : w' p with
    | none => rw [apply, hc', Option.getD_none]
    | some c' =>
      obtain ⟨c, hc⟩ := Option.isSome_iff_exists.1 (hplaces p (by rw [hc']; rfl))
      simp only [apply, hc, hc', Option.getD_some, h p c c' hc hc']

theorem agree_single_iff [DecidableEq P] {p : P} {c c' : C} :
    Agree (single p c) (single p c') ↔ c' = c := by
  constructor
  · exact fun h => h p c c' (if_pos rfl) (if_pos rfl)
  · rintro rfl q d d' hd hd'
    rw [hd] at hd'
    exact (Option.some.inj hd').symm

/-- A writer of one place before others counts only if they leave that place alone. -/
theorem agree_andThen_iff [DecidableEq P] {p : P} {c c' : C} {w w' : Writes P C}
    (hplaces : ∀ q, (w' q).isSome = (w q).isSome) :
    Agree ((single p c).andThen w) ((single p c').andThen w') ↔
      (w p = none → c' = c) ∧ Agree w w' := by
  have hnone : ∀ q, w q = none → w' q = none := fun q hq => by
    have := hplaces q
    rwa [hq, Option.isSome_none, Option.isSome_eq_false_iff, Option.isNone_iff_eq_none] at this
  constructor
  · intro h
    refine ⟨fun hp => h p c c' ?_ ?_, fun q d d' hd hd' => h q d d' ?_ ?_⟩
    · rw [andThen, hp, Option.none_or, single, if_pos rfl]
    · rw [andThen, hnone p hp, Option.none_or, single, if_pos rfl]
    · rw [andThen, hd, Option.some_or]
    · rw [andThen, hd', Option.some_or]
  · rintro ⟨hfirst, hagree⟩ q d d' hd hd'
    cases hq : w q with
    | none =>
      rw [andThen, hq, Option.none_or, single] at hd
      rw [andThen, hnone q hq, Option.none_or, single] at hd'
      by_cases hp : q = p
      · rw [if_pos hp] at hd hd'
        rw [← Option.some.inj hd, ← Option.some.inj hd', hfirst (hp ▸ hq)]
      · rw [if_neg hp] at hd
        cases hd
    | some e =>
      obtain ⟨e', he'⟩ := Option.isSome_iff_exists.1 ((hplaces q).trans (by rw [hq]; rfl))
      rw [andThen, hq, Option.some_or] at hd
      rw [andThen, he', Option.some_or] at hd'
      rw [← Option.some.inj hd, ← Option.some.inj hd']
      exact hagree q e e' hq he'

variable {w : ι → Writes P C} {order writers : List ι} {s : P → C} {p : P} {c : C}

theorem applyAll_concat (i : ι) :
    applyAll w (order ++ [i]) s = (w i).apply (applyAll w order s) := run_concat _ s order i

/-- A place that nobody touches is as it was. -/
theorem applyAll_of_untouched (h : ∀ i ∈ order, w i p = none) : applyAll w order s p = s p := by
  induction order using List.reverseRecOn with
  | nil => rfl
  | append_singleton order i ih =>
    rw [applyAll_concat, apply, h i (by simp), Option.getD_none]
    exact ih fun j hj => h j (List.mem_append_left _ hj)

/-- **A place that writers agree about** has what each of them writes. -/
theorem applyAll_of_mem (hcompat : Compatible w order) {i : ι} (hi : i ∈ order)
    (hp : w i p = some c) : applyAll w order s p = c := by
  induction order using List.reverseRecOn with
  | nil => cases hi
  | append_singleton order j ih =>
    rw [applyAll_concat, apply]
    cases hj : w j p with
    | some c' =>
      have hlast : j ∈ order ++ [j] := List.mem_append_right _ (List.mem_singleton.2 rfl)
      exact hcompat j hlast i hi p c' c hj hp
    | none =>
      have hmem : i ∈ order := (List.mem_append.1 hi).resolve_right fun h => by
        rw [List.mem_singleton.1 h, hj] at hp
        cases hp
      exact ih (fun a ha b hb => hcompat a (List.mem_append_left _ ha) b
        (List.mem_append_left _ hb)) hmem

theorem Compatible.perm (h : Compatible w writers) (hperm : order.Perm writers) :
    Compatible w order :=
  fun i hi j hj => h i (hperm.subset hi) j (hperm.subset hj)

theorem exists_perm_concat {i : ι} (hi : i ∈ writers) : ∃ before, (before ++ [i]).Perm writers := by
  obtain ⟨l₁, l₂, rfl⟩ := List.append_of_mem hi
  refine ⟨l₁ ++ l₂, ?_⟩
  rw [List.append_assoc]
  exact (List.perm_append_singleton i l₂).append_left l₁

/-- **The result is the same for every order** exactly if any two writers of a place write the
same. -/
theorem perm_independent_iff : (∀ order order' : List ι, order.Perm writers → order'.Perm writers →
    applyAll w order s = applyAll w order' s) ↔ Compatible w writers := by
  constructor
  · intro h i hi j hj p c c' hc hc'
    obtain ⟨before, hbefore⟩ := exists_perm_concat hi
    obtain ⟨before', hbefore'⟩ := exists_perm_concat hj
    have hsame := congrFun (h _ _ hbefore hbefore') p
    rwa [applyAll_concat, applyAll_concat, apply, apply, hc, hc'] at hsame
  · intro hcompat order order' hperm hperm'
    funext p
    by_cases htouched : ∃ i ∈ writers, ∃ c, w i p = some c
    · obtain ⟨i, hi, c, hc⟩ := htouched
      rw [applyAll_of_mem (hcompat.perm hperm) (hperm.mem_iff.2 hi) hc,
        applyAll_of_mem (hcompat.perm hperm') (hperm'.mem_iff.2 hi) hc]
    · have huntouched : ∀ i ∈ writers, w i p = none := fun i hi =>
        Option.eq_none_iff_forall_ne_some.2 fun c hc => htouched ⟨i, hi, c, hc⟩
      rw [applyAll_of_untouched fun i hi => huntouched i (hperm.subset hi),
        applyAll_of_untouched fun i hi => huntouched i (hperm'.subset hi)]

end Writes

end Midscale
