import Midscale.Run.Basic

/-!
# Where something comes from in a run

* `concat_eq_split` : the ways to point at an event of a run that ends with a given event.
* `exists_first` : **what holds after a run and not before it has an event that brought it about.**
-/

namespace Midscale

variable {α : Type*}

/-- An event of a run is its last one or one of the rest. -/
theorem concat_eq_split {es pre post : List α} {e x : α} :
    es ++ [e] = pre ++ x :: post ↔
      (post = [] ∧ es = pre ∧ e = x) ∨ ∃ mid, post = mid ++ [e] ∧ es = pre ++ x :: mid := by
  constructor
  · intro h
    rcases List.eq_nil_or_concat post with rfl | ⟨mid, y, rfl⟩
    · obtain ⟨hes, he⟩ := List.append_inj' h rfl
      exact .inl ⟨rfl, hes, (List.cons.inj he).1⟩
    · rw [List.concat_eq_append, ← List.cons_append, ← List.append_assoc] at h
      obtain ⟨hes, he⟩ := List.append_inj' h rfl
      obtain rfl := (List.cons.inj he).1
      exact .inr ⟨mid, List.concat_eq_append, hes⟩
  · rintro (⟨rfl, rfl, rfl⟩ | ⟨mid, rfl, rfl⟩)
    · rfl
    · simp

variable {σ ε : Type*} (step : σ → ε → σ) {P : σ → Prop} {s : σ} {es : List ε}

/-- What holds after a run and not before it has an event that brought it about. -/
theorem exists_first (hs : ¬ P s) (h : P (run step s es)) :
    ∃ pre e post, es = pre ++ e :: post ∧ ¬ P (run step s pre) ∧ P (run step s (pre ++ [e])) := by
  induction es using List.reverseRecOn with
  | nil => exact absurd h hs
  | append_singleton es e ih =>
    by_cases hes : P (run step s es)
    · obtain ⟨pre, e', post, rfl, hpre, hpost⟩ := ih hes
      exact ⟨pre, e', post ++ [e], by simp, hpre, hpost⟩
    · exact ⟨es, e, [], rfl, hes, h⟩

end Midscale
