import Midscale.Run.Session

/-!
# Calls whose operations may fail

A call works on a store in a session and publishes events on the way.  Each of its queries and
commits may fail; a failure ends the call, unless it is caught, and what was not committed is rolled
back.  What was committed or published before stays.

* `attempt_append` : a call is executed piece by piece.
* `attempt_completes_iff` : a call completes exactly if no operation fails that must not.
* `attempt_of_not_reachesCommit`, `committed_of_reachesCommit` : what is committed when a call ends
  before its first commit, and after it.
* `rolls_back_iff` : when a call that fails leaves nothing behind.
-/

namespace Midscale

/-- What a call does. -/
inductive CallStep (σ ε : Type*) where
  /-- A query, or a row that is read again. -/
  | read
  /-- A query whose failure is caught, for events that are published if it succeeds. -/
  | tryRead (events : σ → List ε)
  /-- Rows are changed in the session. -/
  | change (f : σ → σ)
  | commit
  | publish (event : ε)
  /-- An exception of the call itself. -/
  | raise

/-- The session of a call, what it has published, and the number of its operations so far. -/
structure CallState (σ ε : Type*) where
  session : Session σ
  published : List ε := []
  operations : ℕ := 0

section

variable {σ ε : Type*} (fails : ℕ → Bool)

/-- Where a call ends and whether it completes, if its operation after `n` others fails for every
`n` with `fails n`. -/
def attempt : List (CallStep σ ε) → CallState σ ε → CallState σ ε × Bool
  | [], s => (s, true)
  | .raise :: _, s => (s, false)
  | .change f :: steps, s => attempt steps { s with session := s.session.step (.change f) }
  | .publish event :: steps, s => attempt steps { s with published := s.published ++ [event] }
  | .tryRead events :: steps, s =>
    attempt steps
      { s with
        published := s.published ++ if fails s.operations then [] else events s.session.view
        operations := s.operations + 1 }
  | .read :: steps, s =>
    if fails s.operations then (s, false)
    else attempt steps { s with operations := s.operations + 1 }
  | .commit :: steps, s =>
    if fails s.operations then (s, false)
    else attempt steps
      { s with session := s.session.step .commit, operations := s.operations + 1 }

theorem attempt_read (steps : List (CallStep σ ε)) (s : CallState σ ε) :
    attempt fails (.read :: steps) s =
      if fails s.operations then (s, false)
      else attempt fails steps { s with operations := s.operations + 1 } := rfl

theorem attempt_commit (steps : List (CallStep σ ε)) (s : CallState σ ε) :
    attempt fails (.commit :: steps) s =
      if fails s.operations then (s, false)
      else attempt fails steps
        { s with session := s.session.step .commit, operations := s.operations + 1 } := rfl

/-- From the operation after `n` others on, none fails that must not, and no exception is raised. -/
def Succeeds : ℕ → List (CallStep σ ε) → Prop
  | _, [] => True
  | _, .raise :: _ => False
  | n, .change _ :: steps | n, .publish _ :: steps => Succeeds n steps
  | n, .tryRead _ :: steps => Succeeds (n + 1) steps
  | n, .read :: steps | n, .commit :: steps => fails n = false ∧ Succeeds (n + 1) steps

/-- The number of operations of a call that completes. -/
def countOperations : List (CallStep σ ε) → ℕ
  | [] => 0
  | .raise :: steps | .change _ :: steps | .publish _ :: steps => countOperations steps
  | .tryRead _ :: steps | .read :: steps | .commit :: steps => countOperations steps + 1

namespace CallStep

/-- A change keeps the property. -/
def Keeps (Inv : σ → Prop) : CallStep σ ε → Prop
  | .change f => ∀ x, Inv x → Inv (f x)
  | .read | .tryRead _ | .commit | .publish _ | .raise => True

/-- Events that are published have the property. -/
def Publishes (P : ε → Prop) : CallStep σ ε → Prop
  | .publish event => P event
  | .tryRead events => ∀ x, ∀ event ∈ events x, P event
  | .read | .change _ | .commit | .raise => True

end CallStep

/-! ### Executions -/

/-- **A call is executed piece by piece.** -/
theorem attempt_append (steps steps' : List (CallStep σ ε)) (s : CallState σ ε) :
    attempt fails (steps ++ steps') s =
      if (attempt fails steps s).2 then attempt fails steps' (attempt fails steps s).1
      else attempt fails steps s := by
  induction steps generalizing s with
  | nil => rfl
  | cons step steps ih =>
    rw [List.cons_append]
    cases step with
    | raise => rfl
    | change f => exact ih _
    | publish event => exact ih _
    | tryRead events => exact ih _
    | read | commit =>
      by_cases hfails : fails s.operations = true
      · simp only [attempt_read, attempt_commit, if_pos hfails, Bool.false_eq_true, if_false]
      · simp only [attempt_read, attempt_commit, if_neg hfails]
        exact ih _

variable {fails} {steps steps' : List (CallStep σ ε)} {s : CallState σ ε}

theorem attempt_append_of_eq {s' : CallState σ ε} (h : attempt fails steps s = (s', true)) :
    attempt fails (steps ++ steps') s = attempt fails steps' s' := by
  rw [attempt_append, h, if_pos rfl]

/-- **A call completes exactly if no operation fails that must not.** -/
theorem attempt_completes_iff :
    (attempt fails steps s).2 = true ↔ Succeeds fails s.operations steps := by
  induction steps generalizing s with
  | nil => exact iff_of_true rfl trivial
  | cons step steps ih =>
    cases step with
    | raise => exact iff_of_false Bool.false_ne_true id
    | change f => exact ih
    | publish event => exact ih
    | tryRead events => exact ih
    | read | commit =>
      simp only [attempt_read, attempt_commit, Succeeds]
      cases hfails : fails s.operations with
      | true => simp
      | false => simpa using ih

theorem not_succeeds_of_mem_raise (h : .raise ∈ steps) (n : ℕ) : ¬ Succeeds fails n steps := by
  induction steps generalizing n with
  | nil => cases h
  | cons step steps ih =>
    cases step with
    | raise => exact id
    | change f => exact ih (List.mem_of_ne_of_mem (by simp) h) n
    | publish event => exact ih (List.mem_of_ne_of_mem (by simp) h) n
    | tryRead events => exact ih (List.mem_of_ne_of_mem (by simp) h) (n + 1)
    | read | commit => exact fun hn => ih (List.mem_of_ne_of_mem (by simp) h) (n + 1) hn.2

theorem operations_attempt (h : (attempt fails steps s).2 = true) :
    (attempt fails steps s).1.operations = s.operations + countOperations steps := by
  induction steps generalizing s with
  | nil => rfl
  | cons step steps ih =>
    cases step with
    | raise => cases h
    | change f => exact ih h
    | publish event => exact ih h
    | tryRead events => exact (ih h).trans (Nat.succ_add_eq_add_succ _ _)
    | read | commit =>
      simp only [attempt_read, attempt_commit] at h ⊢
      split_ifs at h ⊢
      exact (ih h).trans (Nat.succ_add_eq_add_succ _ _)

theorem published_prefix (fails : ℕ → Bool) (steps : List (CallStep σ ε)) (s : CallState σ ε) :
    s.published <+: (attempt fails steps s).1.published := by
  induction steps generalizing s with
  | nil => exact List.prefix_rfl
  | cons step steps ih =>
    cases step with
    | raise => exact List.prefix_rfl
    | change f => exact ih { s with session := s.session.step (.change f) }
    | publish event =>
      exact (List.prefix_append _ _).trans (ih { s with published := s.published ++ [event] })
    | tryRead events =>
      refine (List.prefix_append _ _).trans (ih
        { s with
          published := s.published ++ if fails s.operations then [] else events s.session.view
          operations := s.operations + 1 })
    | read =>
      rw [attempt_read]
      split_ifs
      · exact List.prefix_rfl
      · exact ih { s with operations := s.operations + 1 }
    | commit =>
      rw [attempt_commit]
      split_ifs
      · exact List.prefix_rfl
      · exact ih { s with session := s.session.step .commit, operations := s.operations + 1 }

theorem committed_attempt_of_not_mem (fails : ℕ → Bool) (s : CallState σ ε)
    (h : .commit ∉ steps) : (attempt fails steps s).1.session.committed = s.session.committed := by
  induction steps generalizing s with
  | nil => rfl
  | cons step steps ih =>
    rw [List.mem_cons, not_or] at h
    cases step with
    | raise => rfl
    | change f => exact ih _ h.2
    | publish event => exact ih _ h.2
    | tryRead events => exact ih _ h.2
    | read =>
      rw [attempt_read]
      split_ifs
      · rfl
      · exact ih _ h.2
    | commit => exact absurd rfl h.1

theorem attempt_keeps (fails : ℕ → Bool) {Inv : σ → Prop} (h : ∀ step ∈ steps, step.Keeps Inv)
    (hview : Inv s.session.view) :
    Inv (attempt fails steps s).1.session.view ∧
      (Inv s.session.committed → Inv (attempt fails steps s).1.session.committed) := by
  induction steps generalizing s with
  | nil => exact ⟨hview, id⟩
  | cons step steps ih =>
    obtain ⟨hstep, hrest⟩ := List.forall_mem_cons.1 h
    cases step with
    | raise => exact ⟨hview, id⟩
    | change f => exact ih hrest (hstep _ hview)
    | publish event => exact ih hrest hview
    | tryRead events => exact ih hrest hview
    | read =>
      rw [attempt_read]
      split_ifs
      · exact ⟨hview, id⟩
      · exact ih hrest hview
    | commit =>
      rw [attempt_commit]
      split_ifs
      · exact ⟨hview, id⟩
      · obtain ⟨hlast, hcommitted⟩ := ih hrest hview
          (s := { s with session := s.session.step .commit, operations := s.operations + 1 })
        exact ⟨hlast, fun _ => hcommitted hview⟩

theorem forall_published (fails : ℕ → Bool) {P : ε → Prop} (h : ∀ step ∈ steps, step.Publishes P)
    (hs : ∀ event ∈ s.published, P event) :
    ∀ event ∈ (attempt fails steps s).1.published, P event := by
  induction steps generalizing s with
  | nil => exact hs
  | cons step steps ih =>
    obtain ⟨hstep, hrest⟩ := List.forall_mem_cons.1 h
    cases step with
    | raise => exact hs
    | change f => exact ih hrest hs
    | publish event =>
      refine ih hrest fun event' hevent => ?_
      rcases List.mem_append.1 hevent with hevent | hevent
      · exact hs event' hevent
      · rw [List.mem_singleton.1 hevent]
        exact hstep
    | tryRead events =>
      refine ih hrest fun event hevent => ?_
      rcases List.mem_append.1 hevent with hevent | hevent
      · exact hs event hevent
      · split_ifs at hevent
        · cases hevent
        · exact hstep _ event hevent
    | read | commit =>
      simp only [attempt_read, attempt_commit]
      split_ifs
      · exact hs
      · exact ih hrest hs

theorem committed_of_commit {Inv : σ → Prop} (hview : Inv s.session.view)
    (hkeeps : ∀ step ∈ steps, step.Keeps Inv) (hfails : fails s.operations = false) :
    Inv (attempt fails (.commit :: steps) s).1.session.committed := by
  have hkept := attempt_keeps fails hkeeps (s := { s with
    session := s.session.step .commit, operations := s.operations + 1 }) hview
  rw [attempt_commit, hfails]
  exact hkept.2 hview

theorem committed_of_completes (Inv : σ → Prop) (h : ∀ step ∈ steps, step.Keeps Inv)
    (hview : Inv s.session.view) (hcommit : .commit ∈ steps)
    (hcompletes : (attempt fails steps s).2 = true) :
    Inv (attempt fails steps s).1.session.committed := by
  obtain ⟨before, after, rfl⟩ := List.append_of_mem hcommit
  obtain ⟨hbefore, hafter⟩ := List.forall_mem_append.1 h
  rw [List.forall_mem_cons] at hafter
  have hheld := (attempt_keeps fails hbefore hview).1
  rw [attempt_append] at hcompletes ⊢
  by_cases hdone : (attempt fails before s).2 = true
  · rw [if_pos hdone] at hcompletes ⊢
    exact committed_of_commit hheld hafter.2 (attempt_completes_iff.1 hcompletes).1
  · rw [if_neg hdone] at hcompletes
    exact absurd hcompletes hdone

/-! ### The first commit -/

/-- The call comes to the commit after `steps`, and that succeeds. -/
def ReachesCommit (fails : ℕ → Bool) (n : ℕ) (steps : List (CallStep σ ε)) : Prop :=
  Succeeds fails n steps ∧ fails (n + countOperations steps) = false

/-- A call that does not come past its first commit fails and leaves nothing behind. -/
theorem attempt_of_not_reachesCommit (hfirst : .commit ∉ steps)
    (h : ¬ ReachesCommit fails s.operations steps) :
    (attempt fails (steps ++ .commit :: steps') s).2 = false ∧
      (attempt fails (steps ++ .commit :: steps') s).1.session.committed =
        s.session.committed := by
  have hcommitted := committed_attempt_of_not_mem fails s hfirst
  rw [attempt_append]
  split_ifs with hcompletes
  · have hfails : fails (attempt fails steps s).1.operations = true := by
      rw [operations_attempt hcompletes]
      by_contra hnot
      exact h ⟨attempt_completes_iff.1 hcompletes, Bool.eq_false_iff.2 hnot⟩
    rw [attempt_commit, if_pos hfails]
    exact ⟨rfl, hcommitted⟩
  · exact ⟨Bool.eq_false_iff.2 hcompletes, hcommitted⟩

/-- Past its first commit a call has committed what holds there and is kept. -/
theorem committed_of_reachesCommit {Inv : σ → Prop} (h : ReachesCommit fails s.operations steps)
    (hview : Inv (attempt fails steps s).1.session.view)
    (hkeeps : ∀ step ∈ steps', step.Keeps Inv) :
    Inv (attempt fails (steps ++ .commit :: steps') s).1.session.committed := by
  have hcompletes := attempt_completes_iff.2 h.1
  have hfails := h.2
  rw [← operations_attempt hcompletes] at hfails
  rw [attempt_append, if_pos hcompletes]
  exact committed_of_commit hview hkeeps hfails

/-- **A call that changes something with its first commit leaves nothing behind when it fails**
exactly if it does not come past that commit, or does not fail. -/
theorem rolls_back_iff {Inv : σ → Prop} {store : σ} (hfirst : .commit ∉ steps)
    (hview : Succeeds fails 0 steps →
      Inv (attempt fails steps { session := .start store }).1.session.view)
    (hkeeps : ∀ step ∈ steps', step.Keeps Inv) (hstore : ¬ Inv store) :
    ((attempt fails (steps ++ .commit :: steps') { session := .start store }).2 = false →
      (attempt fails (steps ++ .commit :: steps')
        { session := .start store }).1.session.committed = store) ↔
      Succeeds fails 0 (steps ++ .commit :: steps') ∨ ¬ ReachesCommit fails 0 steps := by
  rw [← attempt_completes_iff (s := { session := .start store })]
  constructor
  · intro h
    by_contra hnot
    push Not at hnot
    obtain ⟨hfailed, hreaches⟩ := hnot
    refine hstore (h (Bool.eq_false_iff.2 hfailed) ▸ ?_)
    exact committed_of_reachesCommit hreaches (hview hreaches.1) hkeeps
  · rintro (hcompletes | hnot) hfailed
    · rw [hfailed] at hcompletes
      cases hcompletes
    · exact (attempt_of_not_reachesCommit (s := { session := .start store }) hfirst hnot).2

end

end Midscale
