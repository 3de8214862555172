import Mathlib.Data.List.Induction

/-!
# Runs of a deterministic system

A system takes one event after another; a run is the fold of its step function over the events.

* `run_invariant` : what holds initially and is kept by every step holds after every run.
* `run_invariant_of_admissible` : the same for runs whose every step meets a condition on its
  event and on the state it starts in.
* `admissible_of_forall_prefix` : the converse, for a condition whose violation shows at once.
* `forall_prefix_iff_admissible` : both, where the condition decides every step.
* `admissible_congr` : two conditions that admit the same steps admit the same runs.
-/

namespace Midscale

section Run

variable {σ ε : Type*} (step : σ → ε → σ)

/-- The state after the events. -/
def run (s : σ) (es : List ε) : σ := es.foldl step s

@[simp] theorem run_nil (s : σ) : run step s [] = s := rfl

@[simp] theorem run_cons (s : σ) (e : ε) (es : List ε) :
    run step s (e :: es) = run step (step s e) es := rfl

theorem run_append (s : σ) (es es' : List ε) :
    run step s (es ++ es') = run step (run step s es) es' := List.foldl_append

theorem run_concat (s : σ) (es : List ε) (e : ε) :
    run step s (es ++ [e]) = step (run step s es) e := run_append step s es [e]

/-- Every step of the run meets the condition `ok`. -/
def Admissible (ok : σ → ε → Prop) : σ → List ε → Prop
  | _, [] => True
  | s, e :: es => ok s e ∧ Admissible ok (step s e) es

theorem admissible_append {ok : σ → ε → Prop} {s : σ} {es es' : List ε} :
    Admissible step ok s (es ++ es') ↔
      Admissible step ok s es ∧ Admissible step ok (run step s es) es' := by
  induction es generalizing s with
  | nil => simp [Admissible]
  | cons e es ih => rw [List.cons_append, Admissible, ih, Admissible, run_cons, and_assoc]

theorem admissible_const_iff {ok : ε → Prop} {s : σ} {es : List ε} :
    Admissible step (fun _ e => ok e) s es ↔ ∀ e ∈ es, ok e := by
  induction es generalizing s with
  | nil => simp [Admissible]
  | cons e es ih => rw [Admissible, ih, List.forall_mem_cons]

theorem admissible_iff_forall_split {ok : σ → ε → Prop} {s : σ} {es : List ε} :
    Admissible step ok s es ↔
      ∀ pre e post, es = pre ++ e :: post → ok (run step s pre) e := by
  constructor
  · rintro h pre e post rfl
    exact ((admissible_append step).1 h).2.1
  · intro h
    induction es generalizing s with
    | nil => trivial
    | cons e es ih =>
      refine ⟨h [] e es rfl, ih fun pre e' post hsplit => ?_⟩
      exact h (e :: pre) e' post (by rw [hsplit, List.cons_append])

instance {ok : σ → ε → Prop} [∀ s e, Decidable (ok s e)] :
    ∀ s es, Decidable (Admissible step ok s es)
  | _, [] => isTrue trivial
  | s, e :: es =>
    have : Decidable (Admissible step ok (step s e) es) := instDecidableAdmissible (step s e) es
    inferInstanceAs (Decidable (_ ∧ _))

theorem Admissible.of_prefix {ok : σ → ε → Prop} {s : σ} {es pre : List ε}
    (h : Admissible step ok s es) (hpre : pre <+: es) : Admissible step ok s pre := by
  obtain ⟨rest, rfl⟩ := hpre
  exact ((admissible_append step).1 h).1

/-- What every admissible step keeps holds after every admissible run. -/
theorem run_invariant_of_admissible {ok : σ → ε → Prop} {Inv : σ → Prop}
    (hstep : ∀ s e, Inv s → ok s e → Inv (step s e)) {s : σ} (hs : Inv s) {es : List ε}
    (hes : Admissible step ok s es) : Inv (run step s es) := by
  induction es generalizing s with
  | nil => exact hs
  | cons e es ih => exact ih (hstep s e hs hes.1) hes.2

/-- When a step that is not admissible breaks `P`, a run that meets `P` all along is admissible. -/
theorem admissible_of_forall_prefix {ok : σ → ε → Prop} {Inv P : σ → Prop}
    (hstep : ∀ s e, Inv s → ok s e → Inv (step s e))
    (hbreak : ∀ s e, Inv s → ¬ ok s e → ¬ P (step s e)) {s : σ} (hs : Inv s) {es : List ε}
    (hP : ∀ pre, pre <+: es → P (run step s pre)) : Admissible step ok s es := by
  induction es generalizing s with
  | nil => trivial
  | cons e es ih =>
    have hok : ok s e := by
      by_contra hnot
      exact hbreak s e hs hnot (hP [e] (List.cons_prefix_cons.2 ⟨rfl, List.nil_prefix⟩))
    exact ⟨hok, ih (hstep s e hs hok) fun pre hpre =>
      hP (e :: pre) (List.cons_prefix_cons.2 ⟨rfl, hpre⟩)⟩

theorem admissible_and {ok ok' : σ → ε → Prop} {s : σ} {es : List ε} :
    Admissible step (fun s e => ok s e ∧ ok' s e) s es ↔
      Admissible step ok s es ∧ Admissible step ok' s es := by
  induction es generalizing s with
  | nil => simp [Admissible]
  | cons e es ih => rw [Admissible, Admissible, Admissible, ih, and_and_and_comm]

/-- Two conditions that say the same of every step from a state of the invariant admit the same
runs, where the invariant is kept by the steps that meet them. -/
theorem admissible_congr {ok ok' : σ → ε → Prop} {Inv : σ → Prop}
    (hiff : ∀ s e, Inv s → (ok s e ↔ ok' s e)) (hstep : ∀ s e, Inv s → ok s e → Inv (step s e))
    {s : σ} (hs : Inv s) {es : List ε} : Admissible step ok s es ↔ Admissible step ok' s es := by
  induction es generalizing s with
  | nil => exact Iff.rfl
  | cons e es ih =>
    rw [Admissible, Admissible, ← hiff s e hs]
    exact and_congr_right fun hok => ih (hstep s e hs hok)

/-- Where every step meets `fresh`, and breaks the invariant exactly if it is not admissible, the
invariant holds all along a run exactly if the run is admissible. -/
theorem forall_prefix_iff_admissible {fresh ok : σ → ε → Prop} {Inv : σ → Prop}
    (hstep : ∀ s e, Inv s → fresh s e → (Inv (step s e) ↔ ok s e)) {s : σ} (hs : Inv s)
    {es : List ε} (hes : Admissible step fresh s es) :
    (∀ pre, pre <+: es → Inv (run step s pre)) ↔ Admissible step ok s es := by
  constructor
  · intro hall
    induction es generalizing s with
    | nil => trivial
    | cons e es ih =>
      have hnext := hall [e] (List.cons_prefix_cons.2 ⟨rfl, List.nil_prefix⟩)
      exact ⟨(hstep s e hs hes.1).1 hnext, ih hnext hes.2 fun pre hpre =>
        hall (e :: pre) (List.cons_prefix_cons.2 ⟨rfl, hpre⟩)⟩
  · intro hok pre hpre
    have hpre := Admissible.of_prefix step ((admissible_and step).2 ⟨hes, hok⟩) hpre
    refine run_invariant_of_admissible step (fun s e h hboth => ?_) hs hpre
    exact (hstep s e h hboth.1).2 hboth.2

/-- What every step keeps holds after every run. -/
theorem run_invariant {P : σ → Prop} (hstep : ∀ s e, P s → P (step s e)) {s : σ} (hs : P s)
    (es : List ε) : P (run step s es) := by
  induction es generalizing s with
  | nil => exact hs
  | cons e es ih => exact ih (hstep s e hs)

end Run

end Midscale
