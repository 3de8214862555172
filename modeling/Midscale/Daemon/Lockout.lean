import Midscale.Daemon.Enrollment

/-!
# Devices that are locked out

Once a private key and a token are stored, `cmd_enroll` refuses to enroll again and `run` does not
register: nothing that the daemon does changes the state directory any more.  So an enrollment that
is cut off at the wrong point locks the device out for good.

* `stateDirStep_of_hasEnrollment` : the state directory of an enrolled device is final.
* `StateDir.enroll_consistent` : what an enrollment leaves that is not cut off.
* `lockout_iff` : **a device can come to work exactly if none of its enrollments was cut off between
  the rename of the private key and the end of `identity.json`.**
-/

namespace Midscale

namespace Daemon

/-- The daemon starts with the id, the token and the private key of one enrollment. -/
def Consistent (files : Files StateFile) : Prop :=
  ∃ r : EnrollmentResult, files .enrollment = some r.text ∧
    files .privateKey = some (r.privateKey ++ "\n").toList ∧
    ∀ preauthKey, runStart files preauthKey = .restored (.str r.deviceId) (.str r.deviceToken)

/-- An enrollment that the state directory does not refuse comes to its end, or is cut off at a safe
point. -/
def StateDirEvent.SafeIn (files : Files StateFile) : StateDirEvent → Prop
  | .enroll r c => hasEnrollment files = false → r.SafePoint files c
  | .register .. => True

section

variable {files : Files StateFile} {r : EnrollmentResult} {c : CrashPoint}

/-! ### Enrolled devices -/

/-- **The state directory of an enrolled device is final.** -/
theorem stateDirStep_of_hasEnrollment (h : hasEnrollment files = true) (e : StateDirEvent) :
    stateDirStep files e = files := by
  cases e with
  | enroll r c => rw [stateDirStep, if_pos h]
  | register preauthKey deviceId c =>
    have hstart : runStart files preauthKey ≠ .legacyRegister := by
      rw [runStart]
      split_ifs <;> exact RunStart.noConfusion
    rw [stateDirStep, if_neg hstart]

theorem run_of_hasEnrollment (h : hasEnrollment files = true) (events : List StateDirEvent) :
    run stateDirStep files events = files := by
  induction events with
  | nil => rfl
  | cons e events ih => rw [run_cons, stateDirStep_of_hasEnrollment h, ih]

namespace StateDir

theorem run_empty (events : List StateDirEvent) :
    StateDir (run stateDirStep (fun _ => none) events) :=
  run_invariant (P := StateDir) stateDirStep (fun _ e h => h.step e) StateDir.empty events

theorem consistent_iff (h : StateDir files) (henrollment : files .enrollment = some r.text)
    (hkey : files .privateKey = some (r.privateKey ++ "\n").toList) :
    Consistent files ↔ files .identity = some (identityText r.deviceId) := by
  constructor
  · rintro ⟨r', henrollment', -, hstart⟩
    have htext : readJson (some r'.text) = readJson (some r.text) := by
      rw [← henrollment', henrollment]
    have hid : r'.deviceId = r.deviceId := by
      rw [readJson_enrollment, readJson_enrollment] at htext
      simpa using congrArg List.head? htext
    exact hid ▸ (runStart_enrolled henrollment' h.identity "").1 (hstart "")
  · intro hidentity
    exact ⟨r, henrollment, hkey, fun preauthKey =>
      (runStart_enrolled henrollment h.identity preauthKey).2 hidentity⟩

end StateDir

/-! ### Enrollments -/

theorem StateDir.enroll_cases (h : StateDir files) (hfree : hasEnrollment files = false)
    (r : EnrollmentResult) (c : CrashPoint) :
    (c.done < keyRenamed ∧ hasEnrollment (stateDirStep files (.enroll r c)) = false) ∨
      (keyRenamed ≤ c.done ∧ hasEnrollment (stateDirStep files (.enroll r c)) = true ∧
        (Consistent (stateDirStep files (.enroll r c)) ↔ r.SafePoint files c)) := by
  have hstep := h.step (.enroll r c)
  have hcrash : stateDirStep files (.enroll r c) =
      crash ((loadIdentity files).cmdEnrollOps r) files c := by
    rw [stateDirStep, if_neg (by simp [hfree])]
  rcases crash_cmdEnroll h hfree r c hcrash.symm with
    ⟨hlt, hkey, -, -⟩ | ⟨hge, hkey, henrollment, hidentity⟩
  · refine .inl ⟨hlt, ?_⟩
    rw [← Bool.not_eq_true, hstep.hasEnrollment_iff, hkey]
    exact fun hne => hne rfl
  · refine .inr ⟨hge, ?_, ?_⟩
    · rw [hstep.hasEnrollment_iff, hkey]
      exact Option.some_ne_none _
    rw [hstep.consistent_iff henrollment hkey, hidentity, EnrollmentResult.SafePoint,
      or_iff_right (Nat.not_lt.2 hge)]
    by_cases hopen : c.done = keyRenamed
    · simp [hopen]
    by_cases hwriting : c.done = keyRenamed + 1
    · cases hcut : c.cut <;> simp [hwriting, List.take_eq_self_iff]
    · have hdone : keyRenamed + 2 ≤ c.done := by omega
      simp [hopen, hwriting, hdone]

/-- **An enrollment that is not cut off** leaves a device that works. -/
theorem StateDir.enroll_consistent (h : StateDir files) (hfree : hasEnrollment files = false)
    (r : EnrollmentResult) : Consistent (stateDirStep files (.enroll r ⟨keyRenamed + 2, none⟩)) := by
  rcases h.enroll_cases hfree r ⟨keyRenamed + 2, none⟩ with ⟨hlt, -⟩ | ⟨-, -, hworks⟩
  · exact absurd hlt (by decide)
  · exact hworks.2 (.inr (.inl (.inl le_rfl)))

theorem StateDir.step_consistent (h : StateDir files)
    (hworks : hasEnrollment files = true → Consistent files) {e : StateDirEvent}
    (hsafe : e.SafeIn files) (henrolled : hasEnrollment (stateDirStep files e) = true) :
    Consistent (stateDirStep files e) := by
  by_cases hold : hasEnrollment files = true
  · rw [stateDirStep_of_hasEnrollment hold]
    exact hworks hold
  rw [Bool.not_eq_true] at hold
  cases e with
  | enroll r c =>
    rcases h.enroll_cases hold r c with ⟨-, hunenrolled⟩ | ⟨-, -, hiff⟩
    · rw [hunenrolled] at henrolled
      cases henrolled
    · exact hiff.2 (hsafe hold)
  | register preauthKey deviceId c =>
    -- a registration stores no private key
    have hkey : stateDirStep files (.register preauthKey deviceId c) .privateKey =
        files .privateKey := by
      rw [stateDirStep]
      split_ifs
      · exact crash_untouched (by simp [StoredIdentity.saveIdentityOps, FileOp.paths])
      · rfl
    rw [(h.step _).hasEnrollment_iff, hkey, ← h.hasEnrollment_iff, hold] at henrolled
    cases henrolled

end

/-- **Which devices are locked out**: after any enrollments and registrations, each cut off anywhere
or not, the device works or can come to work exactly if none of its enrollments was cut off at an
unsafe point; and once it is enrolled, working or not, nothing changes its files. -/
theorem lockout_iff (events : List StateDirEvent) :
    let files := run stateDirStep (fun _ => none) events
    ((∃ later, Consistent (run stateDirStep files later)) ↔
      ∀ before e after, events = before ++ e :: after →
        e.SafeIn (run stateDirStep (fun _ => none) before)) ∧
    (hasEnrollment files = true → ∀ later, run stateDirStep files later = files) := by
  refine ⟨?_, run_of_hasEnrollment⟩
  have hfiles := StateDir.run_empty events
  rw [← admissible_iff_forall_split]
  constructor
  · rintro ⟨later, hworks⟩
    rw [admissible_iff_forall_split]
    intro before e after heq
    cases e with
    | register preauthKey deviceId c => trivial
    | enroll r c =>
      intro hfree
      rcases (StateDir.run_empty before).enroll_cases hfree r c with ⟨hlt, -⟩ | ⟨-, henrolled, hiff⟩
      · exact .inl hlt
      · -- the files are final from here on
        rw [heq, ← run_append, List.append_assoc, run_append, List.cons_append, run_cons,
          run_of_hasEnrollment henrolled] at hworks
        exact hiff.1 hworks
  · intro hsafe
    have hstep : ∀ (files : Files StateFile) (e : StateDirEvent),
        StateDir files ∧ (hasEnrollment files = true → Consistent files) → e.SafeIn files →
          StateDir (stateDirStep files e) ∧
            (hasEnrollment (stateDirStep files e) = true → Consistent (stateDirStep files e)) :=
      fun files e h hsafe => ⟨h.1.step e, h.1.step_consistent h.2 hsafe⟩
    have hworks := run_invariant_of_admissible stateDirStep hstep
      ⟨StateDir.empty, fun h => by cases h⟩ hsafe
    by_cases henrolled : hasEnrollment (run stateDirStep (fun _ => none) events) = true
    · exact ⟨[], hworks.2 henrolled⟩
    · -- the device can still enroll
      rw [Bool.not_eq_true] at henrolled
      exact ⟨[.enroll lampEnrollment ⟨keyRenamed + 2, none⟩],
        hfiles.enroll_consistent henrolled lampEnrollment⟩

/-- A lamp that loses power right after the rename of its private key never works again, whatever
follows; one that loses it before can come to work. -/
theorem lockout_iff_lamp :
    (∀ later, ¬ Consistent (run stateDirStep
      (run stateDirStep (fun _ => none) [.enroll lampEnrollment ⟨keyRenamed, none⟩]) later)) ∧
    ∃ later, Consistent (run stateDirStep
      (run stateDirStep (fun _ => none) [.enroll lampEnrollment ⟨7, none⟩]) later) := by
  constructor
  · intro later hworks
    have hsafe := (lockout_iff [.enroll lampEnrollment ⟨keyRenamed, none⟩]).1.1 ⟨later, hworks⟩
      [] _ [] rfl rfl
    revert hsafe
    simp [EnrollmentResult.SafePoint]
  · refine (lockout_iff [.enroll lampEnrollment ⟨7, none⟩]).1.2 fun before e after heq => ?_
    cases before with
    | nil =>
      cases heq
      exact fun _ => .inl (by decide)
    | cons e' before => simp at heq

end Daemon

end Midscale
