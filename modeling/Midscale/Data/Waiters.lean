import Midscale.Data.Dict
import Midscale.Run.Basic

/-!
# Replies under a key

Whoever waits for a reply puts a fresh future into a table, under a key; a reply is given to the
future of its key, if there is one that is not done, and the key is taken out again after the wait.
Others use the same table meanwhile.

* `Waiters.firstReply` : the reply that belongs to a future, read off the steps alone.
* `Waiters.result_run_expect` : **a future gets the first reply under its key that comes before
  another future takes the key or the key is taken out**, whatever else happens.
-/

namespace Midscale

variable {κ α : Type*} [DecidableEq κ]

/-- The table of the awaited futures, and what the futures created so far hold. -/
structure Waiters (κ α : Type*) where
  expected : Dict κ ℕ := .empty
  results : ℕ → Option α := fun _ => none
  created : ℕ := 0

/-- What happens to the table. -/
inductive WaitStep (κ α : Type*) where
  | expect (key : κ)
  | forget (key : κ)
  | deliver (key : κ) (reply : α)

namespace Waiters

/-- A fresh future under the key, in place of the one that was there. -/
def expect (w : Waiters κ α) (key : κ) : Waiters κ α :=
  { w with expected := w.expected.set key w.created, created := w.created + 1 }

/-- The key is taken out, if it is there. -/
def forget (w : Waiters κ α) (key : κ) : Waiters κ α :=
  { w with expected := w.expected.erase key }

/-- The future gets a result, if it has none. -/
def setResult (w : Waiters κ α) (id : ℕ) (reply : α) : Waiters κ α :=
  { w with results := fun i => if i = id then (w.results i).or (some reply) else w.results i }

/-- The future of the key gets the reply, if it is not done. -/
def deliver (w : Waiters κ α) (key : κ) (reply : α) : Waiters κ α :=
  match w.expected.get? key with
  | some id => w.setResult id reply
  | none => w

/-- One step. -/
def step (w : Waiters κ α) : WaitStep κ α → Waiters κ α
  | .expect key => w.expect key
  | .forget key => w.forget key
  | .deliver key reply => w.deliver key reply

/-- The first reply under the key before the key is taken, or taken out. -/
def firstReply (key : κ) : List (WaitStep κ α) → Option α
  | [] => none
  | .deliver key' reply :: steps => if key' = key then some reply else firstReply key steps
  | .expect key' :: steps | .forget key' :: steps =>
    if key' = key then none else firstReply key steps

/-- Only created futures are in the table, and the others hold nothing. -/
structure Valid (w : Waiters κ α) : Prop where
  created : ∀ key id, w.expected.get? key = some id → id < w.created
  fresh : ∀ id, w.created ≤ id → w.results id = none

/-- The future is not in the table. -/
def Unlisted (w : Waiters κ α) (id : ℕ) : Prop := ∀ key, w.expected.get? key ≠ some id

/-- The future is in the table under this key only, and is not done. -/
structure Awaited (w : Waiters κ α) (key : κ) (id : ℕ) : Prop where
  listed : ∀ key', w.expected.get? key' = some id ↔ key' = key
  pending : w.results id = none
  created : id < w.created

variable {w : Waiters κ α} {key : κ} {id : ℕ}

/-! ### One step -/

theorem deliver_of_some (h : w.expected.get? key = some id) (reply : α) :
    w.deliver key reply = w.setResult id reply := by
  simp [deliver, h]

theorem deliver_of_none (h : w.expected.get? key = none) (reply : α) :
    w.deliver key reply = w := by
  simp [deliver, h]

@[simp] theorem expected_deliver (key : κ) (reply : α) :
    (w.deliver key reply).expected = w.expected := by
  cases h : w.expected.get? key with
  | none => rw [deliver_of_none h]
  | some id => rw [deliver_of_some h]; rfl

@[simp] theorem created_deliver (key : κ) (reply : α) :
    (w.deliver key reply).created = w.created := by
  cases h : w.expected.get? key with
  | none => rw [deliver_of_none h]
  | some id => rw [deliver_of_some h]; rfl

theorem results_deliver (key : κ) (reply : α) (id : ℕ) :
    (w.deliver key reply).results id =
      if w.expected.get? key = some id then (w.results id).or (some reply) else w.results id := by
  cases h : w.expected.get? key with
  | none => rw [deliver_of_none h, if_neg (by simp)]
  | some id' =>
    rw [deliver_of_some h]
    simp only [setResult, Option.some.injEq, eq_comm (a := id)]

theorem get?_expect (w : Waiters κ α) (key key' : κ) :
    (w.expect key).expected.get? key' =
      if key' = key then some w.created else w.expected.get? key' := Dict.get?_set _ _ _ _

theorem get?_forget (w : Waiters κ α) (key key' : κ) :
    (w.forget key).expected.get? key' = if key' = key then none else w.expected.get? key' :=
  Dict.get?_erase _ _ _

theorem valid_empty : Valid ({} : Waiters κ α) where
  created := fun key id h => by simp at h
  fresh := fun _ _ => rfl

theorem Valid.step (hw : Valid w) (e : WaitStep κ α) : Valid (w.step e) := by
  cases e with
  | expect key =>
    refine ⟨fun key' id h => ?_, fun id h => hw.fresh id (Nat.le_of_succ_le h)⟩
    simp only [Waiters.step, get?_expect] at h
    split_ifs at h with hkey
    · exact Option.some.inj h ▸ Nat.lt_succ_self _
    · exact Nat.lt_succ_of_lt (hw.created key' id h)
  | forget key =>
    refine ⟨fun key' id h => ?_, hw.fresh⟩
    simp only [Waiters.step, get?_forget] at h
    split_ifs at h with hkey
    exact hw.created key' id h
  | deliver key reply =>
    refine ⟨fun key' id h => ?_, fun id h => ?_⟩
    · rw [Waiters.step, expected_deliver] at h
      rw [Waiters.step, created_deliver]
      exact hw.created key' id h
    · rw [Waiters.step, created_deliver] at h
      rw [Waiters.step, results_deliver, if_neg, hw.fresh id h]
      exact fun hlisted => absurd (hw.created key id hlisted) (Nat.not_lt.2 h)

theorem valid_run (steps : List (WaitStep κ α)) : Valid (run step {} steps) :=
  run_invariant step (fun _ e h => h.step e) valid_empty steps

theorem Valid.awaited_expect (hw : Valid w) (key : κ) : Awaited (w.expect key) key w.created where
  listed := fun key' => by
    rw [get?_expect]
    split_ifs with hkey
    · exact iff_of_true rfl hkey
    · exact iff_of_false (fun h => Nat.lt_irrefl _ (hw.created key' _ h)) hkey
  pending := hw.fresh _ (Nat.le_refl _)
  created := Nat.lt_succ_self _

/-- A future that is not in the table, and was created, never is again. -/
theorem Unlisted.step (hw : Unlisted w id) (hid : id < w.created) (e : WaitStep κ α) :
    Unlisted (w.step e) id ∧ id < (w.step e).created ∧ (w.step e).results id = w.results id := by
  cases e with
  | expect key =>
    refine ⟨fun key' h => ?_, Nat.lt_succ_of_lt hid, rfl⟩
    simp only [Waiters.step, get?_expect] at h
    split_ifs at h with hkey
    · exact Nat.ne_of_gt hid (Option.some.inj h)
    · exact hw key' h
  | forget key =>
    refine ⟨fun key' h => ?_, hid, rfl⟩
    simp only [Waiters.step, get?_forget] at h
    split_ifs at h with hkey
    exact hw key' h
  | deliver key reply =>
    refine ⟨fun key' h => ?_, ?_, ?_⟩
    · rw [Waiters.step, expected_deliver] at h
      exact hw key' h
    · rwa [Waiters.step, created_deliver]
    · rw [Waiters.step, results_deliver, if_neg (hw key)]

theorem results_step_of_done {reply : α} (hdone : w.results id = some reply) (e : WaitStep κ α) :
    (w.step e).results id = some reply := by
  cases e with
  | expect key => exact hdone
  | forget key => exact hdone
  | deliver key reply' => rw [step, results_deliver, hdone]; simp

/-! ### Runs -/

theorem results_run_of_done {reply : α} (hdone : w.results id = some reply)
    (steps : List (WaitStep κ α)) : (run step w steps).results id = some reply :=
  run_invariant step (P := fun w => w.results id = some reply)
    (fun _ e h => results_step_of_done h e) hdone steps

theorem results_run_of_unlisted (hw : Unlisted w id) (hid : id < w.created)
    (steps : List (WaitStep κ α)) : (run step w steps).results id = w.results id := by
  induction steps generalizing w with
  | nil => rfl
  | cons e steps ih =>
    obtain ⟨hnext, hcreated, hresults⟩ := hw.step hid e
    rw [run_cons, ih hnext hcreated, hresults]

/-- A future that waits under its key gets the first reply to the key. -/
theorem Awaited.results_run (hw : Awaited w key id) (steps : List (WaitStep κ α)) :
    (run step w steps).results id = firstReply key steps := by
  induction steps generalizing w with
  | nil => exact hw.pending
  | cons e steps ih =>
    rw [run_cons]
    cases e with
    | expect key' =>
      by_cases hkey : key' = key
      · -- the key now belongs to another future
        have hlost : Unlisted (w.expect key') id := fun k h => by
          rw [get?_expect] at h
          split_ifs at h with hk
          · exact Nat.ne_of_gt hw.created (Option.some.inj h)
          · exact hk (((hw.listed k).1 h).trans hkey.symm)
        rw [firstReply, if_pos hkey]
        exact (results_run_of_unlisted hlost (Nat.lt_succ_of_lt hw.created) steps).trans hw.pending
      · rw [firstReply, if_neg hkey]
        refine ih ⟨fun k => ?_, hw.pending, Nat.lt_succ_of_lt hw.created⟩
        rw [step, get?_expect]
        split_ifs with hk
        · exact iff_of_false (fun h => Nat.ne_of_gt hw.created (Option.some.inj h))
            (fun h => hkey (hk.symm.trans h))
        · exact hw.listed k
    | forget key' =>
      by_cases hkey : key' = key
      · have hlost : Unlisted (w.forget key') id := fun k h => by
          rw [get?_forget] at h
          split_ifs at h with hk
          exact hk (((hw.listed k).1 h).trans hkey.symm)
        rw [firstReply, if_pos hkey]
        exact (results_run_of_unlisted hlost hw.created steps).trans hw.pending
      · rw [firstReply, if_neg hkey]
        refine ih ⟨fun k => ?_, hw.pending, hw.created⟩
        rw [step, get?_forget]
        split_ifs with hk
        · exact iff_of_false (by simp) (fun h => hkey (hk.symm.trans h))
        · exact hw.listed k
    | deliver key' reply =>
      by_cases hkey : key' = key
      · have hdone : (w.step (.deliver key' reply)).results id = some reply := by
          rw [step, results_deliver, if_pos ((hw.listed key').2 hkey), hw.pending]
          rfl
        rw [firstReply, if_pos hkey]
        exact results_run_of_done hdone steps
      · rw [firstReply, if_neg hkey]
        refine ih ⟨fun k => ?_, ?_, ?_⟩
        · rw [step, expected_deliver]
          exact hw.listed k
        · rw [step, results_deliver, if_neg fun h => hkey ((hw.listed key').1 h), hw.pending]
        · rw [step, created_deliver]
          exact hw.created

/-- **What a future gets**: the first reply under its key that comes before another future takes the
key, or the key is taken out. -/
theorem result_run_expect (hw : Valid w) (key : κ) (steps : List (WaitStep κ α)) :
    (run step (w.expect key) steps).results w.created = firstReply key steps :=
  (hw.awaited_expect key).results_run steps

end Waiters

end Midscale
