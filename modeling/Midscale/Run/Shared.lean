import Mathlib.Logic.Function.Iterate
import Midscale.Run.Basic

/-!
# Processes that share a store

Processes take steps one at a time, in any order.  A step reads the store as it is at that moment,
knows what its process has read before, and may change both; so between two steps of one process the
others can change the store arbitrarily.

* `Shared.step` : one step of one process; `Shared.run_replicate` : a process that runs alone.
* `Shared.map_step` : a view of the store and of the processes that each step commutes with.
* `SharedInvariant.step` : **an invariant of the store, of each process and of each two processes
  is checked at the process that moves**: its own step keeps it, and the others do not notice.
-/

namespace Midscale

/-- A store and what each of the processes knows. -/
@[ext] structure Shared (P σ τ : Type*) where
  store : σ
  locals : P → τ

namespace Shared

variable {P σ τ ι : Type*} [DecidableEq P]

/-- The process `p` takes a step with input `i`. -/
def step (next : P → ι → σ → τ → σ × τ) (w : Shared P σ τ) (e : P × ι) : Shared P σ τ where
  store := (next e.1 e.2 w.store (w.locals e.1)).1
  locals := Function.update w.locals e.1 (next e.1 e.2 w.store (w.locals e.1)).2

variable {next : P → ι → σ → τ → σ × τ} {w : Shared P σ τ} {p q : P} {i : ι}

@[simp] theorem step_store :
    (w.step next (p, i)).store = (next p i w.store (w.locals p)).1 := rfl

@[simp] theorem step_locals_self :
    (w.step next (p, i)).locals p = (next p i w.store (w.locals p)).2 :=
  Function.update_self ..

theorem step_locals_of_ne (h : q ≠ p) : (w.step next (p, i)).locals q = w.locals q :=
  Function.update_of_ne h ..

theorem step_locals_cases {C : P → τ → Prop} (hself : C p (next p i w.store (w.locals p)).2)
    (hothers : ∀ q, q ≠ p → C q (w.locals q)) (q : P) : C q ((w.step next (p, i)).locals q) := by
  by_cases h : q = p
  · subst h
    rw [step_locals_self]
    exact hself
  · rw [step_locals_of_ne h]
    exact hothers q h

/-- A part of the store and of what the processes know. -/
def map {σ' τ' : Type*} (f : σ → σ') (g : τ → τ') (w : Shared P σ τ) : Shared P σ' τ' where
  store := f w.store
  locals p := g (w.locals p)

omit [DecidableEq P] in
@[simp] theorem map_store {σ' τ' : Type*} (f : σ → σ') (g : τ → τ') :
    (w.map f g).store = f w.store := rfl

omit [DecidableEq P] in
@[simp] theorem map_locals {σ' τ' : Type*} (f : σ → σ') (g : τ → τ') (p : P) :
    (w.map f g).locals p = g (w.locals p) := rfl

/-- A step on the whole is a step on the parts if it is one for the process that moves. -/
theorem map_step {σ' τ' ι' : Type*} {f : σ → σ'} {g : τ → τ'} {next' : P → ι' → σ' → τ' → σ' × τ'}
    {i' : ι'} (h : next' p i' (f w.store) (g (w.locals p)) =
      (f (next p i w.store (w.locals p)).1, g (next p i w.store (w.locals p)).2)) :
    (w.step next (p, i)).map f g = (w.map f g).step next' (p, i') := by
  refine Shared.ext ?_ (funext fun q => ?_)
  · rw [map_store, step_store, step_store, map_store, map_locals, h]
  · by_cases hq : q = p
    · subst hq
      rw [map_locals, step_locals_self, step_locals_self, map_store, map_locals, h]
    · rw [map_locals, step_locals_of_ne hq, step_locals_of_ne hq, map_locals]

/-- A process that runs alone. -/
theorem run_replicate (n : ℕ) (w : Shared P σ τ) :
    let s := (fun s : σ × τ => next p i s.1 s.2)^[n] (w.store, w.locals p)
    (run (Shared.step next) w (List.replicate n (p, i))).store = s.1 ∧
      (run (Shared.step next) w (List.replicate n (p, i))).locals p = s.2 := by
  induction n generalizing w with
  | zero => exact ⟨rfl, rfl⟩
  | succ n ih =>
    rw [List.replicate_succ, run_cons, Function.iterate_succ_apply]
    have hrest := ih (w.step next (p, i))
    rw [step_store, step_locals_self] at hrest
    exact hrest

end Shared

section

variable {P σ τ ι : Type*} [DecidableEq P] {next : P → ι → σ → τ → σ × τ}

/-- The store satisfies `S`, each process `L`, and each two processes `R`. -/
structure SharedInvariant (S : σ → Prop) (L : σ → τ → Prop) (R : τ → τ → Prop)
    (w : Shared P σ τ) : Prop where
  store : S w.store
  each : ∀ p, L w.store (w.locals p)
  pairs : ∀ p q, p ≠ q → R (w.locals p) (w.locals q)

variable {S : σ → Prop} {L : σ → τ → Prop} {R : τ → τ → Prop} {ok : Shared P σ τ → P × ι → Prop}

/-- **An invariant is checked at the process that moves.** -/
theorem SharedInvariant.step (hsymm : ∀ x y, R x y → R y x)
    (hown : ∀ w p i, SharedInvariant S L R w → ok w (p, i) →
      S (next p i w.store (w.locals p)).1 ∧
        L (next p i w.store (w.locals p)).1 (next p i w.store (w.locals p)).2)
    (hframe : ∀ w p i q, SharedInvariant S L R w → ok w (p, i) → q ≠ p →
      L (next p i w.store (w.locals p)).1 (w.locals q) ∧
        R (next p i w.store (w.locals p)).2 (w.locals q))
    (w : Shared P σ τ) (e : P × ι) (hw : SharedInvariant S L R w) (he : ok w e) :
    SharedInvariant S L R (w.step next e) := by
  obtain ⟨p, i⟩ := e
  refine ⟨(hown w p i hw he).1, ?_, fun q r hqr => ?_⟩
  · exact Shared.step_locals_cases (hown w p i hw he).2 fun q hq => (hframe w p i q hw he hq).1
  · by_cases hq : q = p
    · subst hq
      rw [Shared.step_locals_self, Shared.step_locals_of_ne hqr.symm]
      exact (hframe w q i r hw he hqr.symm).2
    · rw [Shared.step_locals_of_ne hq]
      by_cases hr : r = p
      · subst hr
        rw [Shared.step_locals_self]
        exact hsymm _ _ (hframe w r i q hw he hq).2
      · rw [Shared.step_locals_of_ne hr]
        exact hw.pairs q r hqr

end

end Midscale
