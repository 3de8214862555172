import Midscale.Daemon.Reconciler
import Midscale.Run.Basic

/-!
# The reconcile loop

`Reconciler._run_loop` and the calls that meet it: `trigger`, `start` and `stop`.  A task gives way
only at an `await`, so between the end of the wait and the start of the next `reconcile_once`
nothing else runs: the event is cleared, `_running` is tested and the pass begins, in one step.

* `RunLoop.step` : the loop, its calls and its timer, one step at a time and in any order.
* `RunLoop.Covered` : a loop that is past its first sleep and finds the event clear has started a
  pass since the last trigger.
* `no_lost_wakeup` : **a loop that waits with the event clear has answered every trigger.**
* `log_run`, `pass_since_trigger` : the triggers in the log are the calls of `trigger`.
* `pass_after_trigger` : a loop that has not answered one starts a pass without its timer.
-/

namespace Midscale

namespace Daemon

/-- Where the task of the loop is. -/
inductive LoopPoint where
  /-- In `asyncio.sleep(2)`. -/
  | sleeping
  /-- In `reconcile_once`. -/
  | reconciling
  /-- In `wait_for`; `woken` once the event or the timer has ended the wait, until the task runs. -/
  | waiting (woken : Bool)
  | ended
  deriving DecidableEq, Repr

/-- What is remembered of a run. -/
inductive LoopEntry where
  | triggered
  | passStarted
  deriving DecidableEq, Repr

/-- The `Reconciler` with its loop, and what has happened to it, oldest first. -/
structure RunLoop where
  running : Bool := false
  pushEvent : Bool := false
  /-- `_task`. -/
  task : Option LoopPoint := none
  /-- `stop` waits for the task. -/
  stopping : Bool := false
  state : DaemonState := {}
  log : List LoopEntry := []

/-- The steps.  `reconcile_once` may change the state of the daemon before it returns or raises. -/
inductive LoopStep where
  | trigger
  | start
  | stop
  /-- The sleep is over. -/
  | slept
  | passReturned (now : Timestamp) (state : DaemonState)
  | passRaised (state : DaemonState)
  /-- The timer ends the wait. -/
  | timedOut
  /-- The task goes on after the wait. -/
  | resumed
  /-- `CancelledError` reaches the task. -/
  | cancelled
  /-- `stop` goes on after the task. -/
  | stopped

/-- A call of `trigger`. -/
def LoopStep.isTrigger : LoopStep → Bool
  | .trigger => true
  | _ => false

namespace RunLoop

/-- `_push_event.set()`. -/
def setEvent (s : RunLoop) : RunLoop :=
  { s with
    pushEvent := true
    task := if s.task = some (.waiting false) then some (.waiting true) else s.task }

/-- The test of the loop, and with it the start of a pass. -/
def whileRunning (s : RunLoop) : RunLoop :=
  if s.running then { s with task := some .reconciling, log := s.log ++ [.passStarted] }
  else { s with task := some .ended }

/-- `wait_for` returns at once if the event is set. -/
def wait (s : RunLoop) : RunLoop := { s with task := some (.waiting s.pushEvent) }

/-- One step; a step that is not due changes nothing.  The daemon calls `start` and `stop` one after
the other. -/
def step (s : RunLoop) : LoopStep → RunLoop
  | .trigger => { s.setEvent with log := s.log ++ [.triggered] }
  | .start =>
    if s.running ∨ s.stopping then s else { s with running := true, task := some .sleeping }
  | .stop => { s.setEvent with running := false, stopping := s.task.isSome }
  | .slept => if s.task = some .sleeping then s.whileRunning else s
  | .passReturned now state =>
    if s.task = some .reconciling then
      { s with state := { state with lastConfigFetch := some now } }.wait
    else s
  | .passRaised state =>
    if s.task = some .reconciling then
      { s with state := { state with errorCount := state.errorCount + 1 } }.wait
    else s
  | .timedOut =>
    if s.task = some (.waiting false) then { s with task := some (.waiting true) } else s
  | .resumed =>
    if s.task = some (.waiting true) then { s with pushEvent := false }.whileRunning else s
  | .cancelled => if s.stopping then { s with task := some .ended } else s
  | .stopped =>
    if s.stopping ∧ s.task = some .ended then { s with task := none, stopping := false } else s

/-- Every trigger in the log is followed by the start of a pass. -/
def Answered (log : List LoopEntry) : Prop :=
  ∀ before after, log = before ++ .triggered :: after → .passStarted ∈ after

/-- The task is in a pass or in the wait. -/
def PastSleep (s : RunLoop) : Prop :=
  s.task = some .reconciling ∨ ∃ woken, s.task = some (.waiting woken)

/-- A loop past its first sleep that finds the event clear has answered every trigger. -/
def Covered (s : RunLoop) : Prop := s.PastSleep → s.pushEvent = false → Answered s.log

theorem answered_nil : Answered [] := fun before after h => by simp at h

theorem answered_passStarted (log : List LoopEntry) : Answered (log ++ [.passStarted]) := by
  intro before after h
  rcases List.append_eq_append_iff.1 h with ⟨mid, -, hmid⟩ | ⟨mid, -, hmid⟩
  · cases mid with
    | nil => simp at hmid
    | cons e mid =>
      have : mid ++ .triggered :: after = [] := by simpa using (List.cons.inj hmid).2.symm
      simp at this
  · cases mid with
    | nil => simp at hmid
    | cons e mid => simp only [List.cons_append, List.cons.injEq] at hmid; simp [hmid.2]

/-! ### One step -/

variable {s : RunLoop}

theorem covered_whileRunning (s : RunLoop) : Covered s.whileRunning := by
  unfold whileRunning
  split_ifs with hrunning
  · exact fun _ _ => answered_passStarted s.log
  · intro hpast
    simp [PastSleep] at hpast

theorem Covered.wait (hcovered : Covered s) (hpass : s.task = some .reconciling)
    (state : DaemonState) : Covered { s with state := state }.wait :=
  fun _ hclear => hcovered (.inl hpass) hclear

/-- **Every step keeps the invariant**: what sets the event is a trigger or a stop, and what clears
it starts a pass or ends the loop. -/
theorem Covered.step (hcovered : Covered s) (e : LoopStep) : Covered (s.step e) := by
  cases e with
  | trigger => exact fun _ hclear => Bool.noConfusion hclear
  | start =>
    simp only [RunLoop.step]
    split_ifs with hstarted
    · exact hcovered
    · intro hpast
      simp [PastSleep] at hpast
  | stop => exact fun _ hclear => Bool.noConfusion hclear
  | slept =>
    simp only [RunLoop.step]
    split_ifs with hsleeping
    · exact covered_whileRunning s
    · exact hcovered
  | passReturned now state =>
    simp only [RunLoop.step]
    split_ifs with hpass
    · exact hcovered.wait hpass _
    · exact hcovered
  | passRaised state =>
    simp only [RunLoop.step]
    split_ifs with hpass
    · exact hcovered.wait hpass _
    · exact hcovered
  | timedOut =>
    simp only [RunLoop.step]
    split_ifs with hwaiting
    · exact fun _ hclear => hcovered (.inr ⟨false, hwaiting⟩) hclear
    · exact hcovered
  | resumed =>
    simp only [RunLoop.step]
    split_ifs with hwoken
    · exact covered_whileRunning _
    · exact hcovered
  | cancelled =>
    simp only [RunLoop.step]
    split_ifs with hstopping
    · intro hpast
      simp [PastSleep] at hpast
    · exact hcovered
  | stopped =>
    simp only [RunLoop.step]
    split_ifs with hended
    · intro hpast
      simp [PastSleep] at hpast
    · exact hcovered

/-- A set event has ended the wait. -/
def Alert (s : RunLoop) : Prop := s.pushEvent = true → s.task ≠ some (.waiting false)

theorem alert_setEvent (s : RunLoop) : Alert s.setEvent := by
  intro _
  simp only [setEvent]
  split_ifs with hwaiting <;> simp_all

theorem alert_wait (s : RunLoop) : Alert s.wait := by
  intro hset hwaiting
  simp only [RunLoop.wait] at hset hwaiting
  simp [hset] at hwaiting

theorem Alert.step (halert : Alert s) (e : LoopStep) : Alert (s.step e) := by
  cases e with
  | trigger => exact alert_setEvent s
  | stop => exact alert_setEvent s
  | passReturned now state =>
    simp only [RunLoop.step]
    split_ifs
    · exact alert_wait _
    · exact halert
  | passRaised state =>
    simp only [RunLoop.step]
    split_ifs
    · exact alert_wait _
    · exact halert
  | start | slept | timedOut | resumed | cancelled | stopped =>
    simp only [RunLoop.step, whileRunning]
    split_ifs <;> first | exact halert | simp [Alert]

theorem log_whileRunning (s : RunLoop) :
    ∃ entries, s.whileRunning.log = s.log ++ entries ∧ entries.count .triggered = 0 := by
  simp only [whileRunning]
  split_ifs
  · exact ⟨[.passStarted], rfl, rfl⟩
  · exact ⟨[], (List.append_nil _).symm, rfl⟩

theorem log_step (s : RunLoop) (e : LoopStep) : ∃ entries, (s.step e).log = s.log ++ entries ∧
    entries.count .triggered = e.isTrigger.toNat := by
  have hnothing : ∃ entries, s.log = s.log ++ entries ∧ entries.count .triggered = 0 :=
    ⟨[], (List.append_nil _).symm, rfl⟩
  cases e with
  | trigger => exact ⟨[.triggered], rfl, rfl⟩
  | stop => exact hnothing
  | slept =>
    simp only [RunLoop.step]
    split_ifs
    · exact log_whileRunning s
    · exact hnothing
  | resumed =>
    simp only [RunLoop.step]
    split_ifs
    · exact log_whileRunning { s with pushEvent := false }
    · exact hnothing
  | start | passReturned | passRaised | timedOut | cancelled | stopped =>
    simp only [RunLoop.step]
    split_ifs <;> exact hnothing

/-! ### Runs -/

/-- **The triggers that a run logs are its calls of `trigger`.** -/
theorem log_run (s : RunLoop) (steps : List LoopStep) :
    ∃ entries, (run step s steps).log = s.log ++ entries ∧
      entries.count .triggered = steps.countP LoopStep.isTrigger := by
  induction steps generalizing s with
  | nil => exact ⟨[], (List.append_nil _).symm, rfl⟩
  | cons e steps ih =>
    obtain ⟨first, hfirst, hone⟩ := log_step s e
    obtain ⟨rest, hrest, hcount⟩ := ih (s.step e)
    refine ⟨first ++ rest, ?_, ?_⟩
    · rw [run_cons, hrest, hfirst, List.append_assoc]
    · rw [List.count_append, hone, hcount, List.countP_cons, Nat.add_comm]
      cases e.isTrigger <;> rfl

theorem covered_run (steps : List LoopStep) : Covered (run step {} steps) :=
  run_invariant step (P := Covered) (fun _ e h => h.step e) (fun _ _ => answered_nil) steps

theorem alert_run (steps : List LoopStep) : Alert (run step {} steps) :=
  run_invariant step (P := Alert) (fun _ e h => h.step e) (fun h => by simp at h) steps

theorem answered_whileRunning (hrunning : s.running = true) : Answered s.whileRunning.log := by
  simp only [whileRunning, if_pos hrunning]
  exact answered_passStarted s.log

theorem answered_resumed (hrunning : s.running = true) (hwoken : s.task = some (.waiting true)) :
    Answered (s.step .resumed).log := by
  simp only [RunLoop.step, if_pos hwoken]
  exact answered_whileRunning (s := { s with pushEvent := false }) hrunning

theorem wait_set (hset : s.pushEvent = true) : s.wait.task = some (.waiting true) := by
  simp [RunLoop.wait, hset]

theorem not_clear (hcovered : Covered s) (hpast : s.PastSleep) (hlog : ¬ Answered s.log) :
    s.pushEvent = true := by
  by_contra hclear
  exact hlog (hcovered hpast (Bool.eq_false_iff.2 hclear))

theorem answered_after_pass (hrunning : s.running = true) (hset : s.pushEvent = true)
    (state : DaemonState) : Answered ({ s with state := state }.wait.step .resumed).log :=
  answered_resumed hrunning (wait_set hset)

end RunLoop

/-- **No lost wake-up**: in every state of every run, if the loop waits and the event is clear then
a pass has started after the last trigger. -/
theorem no_lost_wakeup (steps : List LoopStep) {woken : Bool}
    (hwaiting : (run RunLoop.step {} steps).task = some (.waiting woken))
    (hclear : (run RunLoop.step {} steps).pushEvent = false) :
    RunLoop.Answered (run RunLoop.step {} steps).log :=
  RunLoop.covered_run steps (.inr ⟨woken, hwaiting⟩) hclear

/-- A trigger during a pass, and one between the timer and the end of the wait. -/
theorem no_lost_wakeup_twice : RunLoop.Answered (run RunLoop.step {}
    [.start, .slept, .trigger, .passReturned 5 {}, .resumed, .passRaised {}, .timedOut, .trigger,
      .resumed, .passReturned 9 {}]).log :=
  @no_lost_wakeup _ false (by decide) (by decide)

/-- So a pass has started since each call of `trigger`. -/
theorem pass_since_trigger (before after : List LoopStep) {woken : Bool}
    (hwaiting : (run RunLoop.step {} (before ++ .trigger :: after)).task = some (.waiting woken))
    (hclear : (run RunLoop.step {} (before ++ .trigger :: after)).pushEvent = false) :
    ∃ entries, (run RunLoop.step {} (before ++ .trigger :: after)).log =
      (run RunLoop.step {} before).log ++ .triggered :: entries ∧ .passStarted ∈ entries := by
  have hanswered := RunLoop.covered_run _ (.inr ⟨woken, hwaiting⟩) hclear
  obtain ⟨entries, hentries, -⟩ :=
    RunLoop.log_run ((run RunLoop.step {} before).step .trigger) after
  have hlog : (run RunLoop.step {} (before ++ .trigger :: after)).log =
      (run RunLoop.step {} before).log ++ .triggered :: entries := by
    rw [run_append, run_cons, hentries, RunLoop.step, List.append_assoc]
    rfl
  exact ⟨entries, hlog, hanswered _ _ hlog⟩

/-- A running loop that has not answered a trigger starts a pass without its timer: after its first
sleep, after the pass it is in, or at once. -/
theorem pass_after_trigger {steps : List LoopStep} {s : RunLoop}
    (hs : run RunLoop.step {} steps = s) (hrunning : s.running = true)
    (hlog : ¬ RunLoop.Answered s.log) :
    (s.task = some .sleeping → RunLoop.Answered (s.step .slept).log) ∧
    (s.task = some .reconciling → ∀ state now,
      RunLoop.Answered ((s.step (.passReturned now state)).step .resumed).log ∧
      RunLoop.Answered ((s.step (.passRaised state)).step .resumed).log) ∧
    ∀ woken, s.task = some (.waiting woken) → RunLoop.Answered (s.step .resumed).log := by
  subst hs
  have hcovered := RunLoop.covered_run steps
  refine ⟨fun hsleeping => ?_, fun hpass state now => ?_, fun woken hwaiting => ?_⟩
  · simp only [RunLoop.step, if_pos hsleeping]
    exact RunLoop.answered_whileRunning hrunning
  · have hset := RunLoop.not_clear hcovered (.inl hpass) hlog
    simp only [RunLoop.step, if_pos hpass]
    exact ⟨RunLoop.answered_after_pass hrunning hset _, RunLoop.answered_after_pass hrunning hset _⟩
  · have hset := RunLoop.not_clear hcovered (.inr ⟨woken, hwaiting⟩) hlog
    cases woken with
    | false => exact absurd hwaiting (RunLoop.alert_run steps hset)
    | true => exact RunLoop.answered_resumed hrunning hwaiting

end Daemon

end Midscale
