import Midscale.Run.Basic

/-!
# Sessions

A session has its own view of a store: its changes are there at once, and others see them once they
are committed.  A session that is closed rolls back what it has not committed.

* `Session.transact_of_not_commit` : **a session that never commits leaves nothing behind.**
-/

namespace Midscale

/-- The committed state of a store, and the view of a session that is open on it. -/
structure Session (σ : Type*) where
  committed : σ
  view : σ

/-- What a session does with its store. -/
inductive SessionStep (σ : Type*) where
  /-- Rows are changed and flushed. -/
  | change (f : σ → σ)
  | commit

namespace Session

variable {σ : Type*}

/-- A session that has just been opened. -/
def start (s : σ) : Session σ := ⟨s, s⟩

def step (session : Session σ) : SessionStep σ → Session σ
  | .change f => { session with view := f session.view }
  | .commit => { session with committed := session.view }

/-- The store after the session is closed: what was not committed is rolled back. -/
def close (session : Session σ) : σ := session.committed

/-- `async with session_factory() as session` around some steps. -/
def transact (steps : List (SessionStep σ)) (s : σ) : σ := (run step (start s) steps).close

theorem run_committed_of_forall_ne {steps : List (SessionStep σ)} (h : .commit ∉ steps)
    (session : Session σ) : (run step session steps).committed = session.committed := by
  induction steps generalizing session with
  | nil => rfl
  | cons i steps ih =>
    rw [List.mem_cons, not_or] at h
    rw [run_cons, ih h.2]
    cases i with
    | change f => rfl
    | commit => exact absurd rfl h.1

/-- **A session that never commits leaves the store as it was.** -/
theorem transact_of_not_commit {steps : List (SessionStep σ)} (h : .commit ∉ steps) (s : σ) :
    transact steps s = s :=
  run_committed_of_forall_ne h _

end Session

end Midscale
