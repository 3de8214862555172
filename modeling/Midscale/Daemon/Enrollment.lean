import Mathlib.Data.List.TakeDrop
import Midscale.Data.Files
import Midscale.Data.JsonIndent

/-!
# Enrollment and crashes

What `cmd_enroll` writes once the server has accepted the enrollment, and what the next start of the
daemon makes of the files if it was cut off: `StateStore.save_enrollment` and `save_identity` with
their renames and writes, `has_enrollment`, and the part of `MidscaledDaemon.run` that restores the
identity.

* `cmdEnrollOps` : the operations on files, in order.
* `runStart` : how the daemon starts.
* `StateDir` : what the state directory holds in every run, crashes included.
* `crash_cmdEnroll` : the files after a crash.
* `enrollment_survives_iff` : **a crash is survived exactly if the private key is not renamed yet,
  `identity.json` is complete, or `identity.json` names the device already.**
-/

namespace Midscale

namespace Daemon

/-! ### The files -/

/-- The files of the state directory that hold the identity. -/
inductive StateFile where
  /-- `identity.json`. -/
  | identity
  /-- `enrollment.json`. -/
  | enrollment
  | enrollmentTmp
  /-- `keys/private.key`. -/
  | privateKey
  | privateKeyTmp
  deriving DecidableEq

/-- A successful `EnrollmentResult`, and the private key that was generated for it. -/
structure EnrollmentResult where
  deviceId : String
  deviceToken : String
  networkId : Option String := none
  privateKey : String
  deviceId_ne : deviceId ≠ ""
  deviceToken_ne : deviceToken ≠ ""

/-- The dictionaries of `StateStore` that hold the identity. -/
structure StoredIdentity where
  identity : List (String × Json)
  enrollment : List (String × Json)

/-- `_read_json`; the files hold dictionaries only. -/
def readJson (text : Option (List Char)) : List (String × Json) :=
  match text.bind fun cs => Json.loads (String.ofList cs) with
  | some (.obj fields) => fields
  | _ => []

/-- `load`. -/
def loadIdentity (files : Files StateFile) : StoredIdentity where
  identity := readJson (files .identity)
  enrollment := readJson (files .enrollment)

namespace StoredIdentity

variable (s : StoredIdentity)

/-- `get_device_id`. -/
def getDeviceId : Json := ((Json.obj s.identity).get? "device_id").getD .null

/-- `get_device_token`. -/
def getDeviceToken : Json := ((Json.obj s.enrollment).get? "device_token").getD .null

/-- The operations of `save_identity`. -/
def saveIdentityOps (deviceId : String) : List (FileOp StateFile) :=
  [.touch,
    .write .identity (Json.obj (Dict.setItems "device_id" (.str deviceId) s.identity)).dumpsIndent]

/-- The dictionary that `save_enrollment` writes. -/
def enrollmentData (r : EnrollmentResult) : List (String × Json) :=
  Dict.setItems "network_id" (.str (r.networkId.getD ""))
    (Dict.setItems "device_token" (.str r.deviceToken)
      (Dict.setItems "device_id" (.str r.deviceId) s.enrollment))

/-- The operations of `save_enrollment`: `_secure_write`, and the same for the private key. -/
def saveEnrollmentOps (r : EnrollmentResult) : List (FileOp StateFile) :=
  atomicWrite .enrollmentTmp .enrollment (Json.obj (s.enrollmentData r)).dumpsIndent ++
    atomicWrite .privateKeyTmp .privateKey (r.privateKey ++ "\n").toList

/-- The operations of `cmd_enroll`. -/
def cmdEnrollOps (r : EnrollmentResult) : List (FileOp StateFile) :=
  s.saveEnrollmentOps r ++ s.saveIdentityOps r.deviceId

end StoredIdentity

/-- `has_enrollment`, after `load`. -/
def hasEnrollment (files : Files StateFile) : Bool :=
  ((Json.obj (loadIdentity files).enrollment).get? "device_token").isSome &&
    (files .privateKey).isSome

/-- How `run` starts. -/
inductive RunStart where
  | restored (deviceId deviceToken : Json)
  /-- "incomplete enrollment state", and the daemon exits. -/
  | incomplete
  | legacyRegister
  /-- "no preauth key configured", and the daemon exits. -/
  | noPreauthKey
  deriving DecidableEq

/-- The beginning of `run`; when it asks for the enrollment, the id and the token are those it has
found already. -/
def runStart (files : Files StateFile) (preauthKey : String) : RunStart :=
  let s := loadIdentity files
  if s.getDeviceId.truthy ∧ s.getDeviceToken.truthy then .restored s.getDeviceId s.getDeviceToken
  else if hasEnrollment files then .incomplete
  else if preauthKey ≠ "" then .legacyRegister
  else .noPreauthKey

/-- What happens to the state directory. -/
inductive StateDirEvent where
  /-- `cmd_enroll`, accepted by the server, up to a point. -/
  | enroll (r : EnrollmentResult) (c : CrashPoint)
  /-- `run` with a preauth key, and the registration in the old way, up to a point. -/
  | register (preauthKey deviceId : String) (c : CrashPoint)

/-- One event. -/
def stateDirStep (files : Files StateFile) : StateDirEvent → Files StateFile
  | .enroll r c =>
    if hasEnrollment files then files
    else crash ((loadIdentity files).cmdEnrollOps r) files c
  | .register preauthKey deviceId c =>
    if runStart files preauthKey = .legacyRegister then
      crash ((loadIdentity files).saveIdentityOps deviceId) files c
    else files

/-- After the next load the daemon starts with the identity of the enrollment, or the device is not
enrolled and can enroll again. -/
def Survives (files : Files StateFile) (preauthKey : String) (r : EnrollmentResult) : Prop :=
  (runStart files preauthKey = .restored (.str r.deviceId) (.str r.deviceToken) ∧
      files .privateKey = some (r.privateKey ++ "\n").toList) ∨
    hasEnrollment files = false

/-! ### What the files hold -/

/-- The text of `identity.json`. -/
def identityText (deviceId : String) : List Char :=
  (Json.ofTexts [("device_id", deviceId)]).dumpsIndent

/-- The text of `enrollment.json`. -/
def EnrollmentResult.text (r : EnrollmentResult) : List Char :=
  (Json.ofTexts [("device_id", r.deviceId), ("device_token", r.deviceToken),
    ("network_id", r.networkId.getD "")]).dumpsIndent

/-- **What the state directory holds**: an identity that may be torn, an enrollment that is whole,
and no private key without it. -/
structure StateDir (files : Files StateFile) : Prop where
  identity : files .identity = none ∨ ∃ deviceId q, files .identity = some q ∧
    q <+: identityText deviceId
  enrollment : files .enrollment = none ∨ ∃ r : EnrollmentResult, files .enrollment = some r.text
  key : files .enrollment = none → files .privateKey = none

/-- The number of operations up to the rename of the private key, and with it. -/
def keyRenamed : ℕ := 8

/-- Where a crash does no harm: before the private key is renamed; after `identity.json` is written;
before it is opened, if it names the device. -/
def EnrollmentResult.SafePoint (r : EnrollmentResult) (files : Files StateFile) (c : CrashPoint) :
    Prop :=
  c.done < keyRenamed ∨
    (keyRenamed + 2 ≤ c.done ∨
      c.done = keyRenamed + 1 ∧ ∃ n ∈ c.cut, (identityText r.deviceId).length ≤ n) ∨
    ((c.done = keyRenamed ∨ c.done = keyRenamed + 1 ∧ c.cut = none) ∧
      files .identity = some (identityText r.deviceId))

theorem readJson_identityText (deviceId : String) :
    readJson (some (identityText deviceId)) = [("device_id", .str deviceId)] := by
  have hloads : Json.loads (String.ofList (identityText deviceId)) =
      some (Json.ofTexts [("device_id", deviceId)]) := Json.loads_indented (List.nodup_singleton _)
  rw [readJson, Option.bind_some, hloads]
  rfl

theorem readJson_torn {deviceId : String} {q : List Char} (h : q <+: identityText deviceId)
    (hne : q ≠ identityText deviceId) : readJson (some q) = [] := by
  rw [readJson, Option.bind_some, Json.loads_torn h hne]

theorem readJson_enrollment (r : EnrollmentResult) : readJson (some r.text) =
    [("device_id", .str r.deviceId), ("device_token", .str r.deviceToken),
      ("network_id", .str (r.networkId.getD ""))] := by
  have hloads : Json.loads (String.ofList r.text) = some (Json.ofTexts [("device_id", r.deviceId),
      ("device_token", r.deviceToken), ("network_id", r.networkId.getD "")]) :=
    Json.loads_indented (by decide : ["device_id", "device_token", "network_id"].Nodup)
  rw [readJson, Option.bind_some, hloads]
  rfl

theorem identityText_injective : Function.Injective identityText := by
  intro deviceId deviceId' h
  have hread := readJson_identityText deviceId
  rw [h, readJson_identityText] at hread
  simpa using hread.symm

namespace StateDir

variable {files : Files StateFile} {r : EnrollmentResult} {c : CrashPoint}

theorem identity_cases (h : files .identity = none ∨ ∃ deviceId q, files .identity = some q ∧
    q <+: identityText deviceId) :
    ((loadIdentity files).identity = [] ∧ ∀ deviceId,
      files .identity ≠ some (identityText deviceId)) ∨
      ∃ deviceId, (loadIdentity files).identity = [("device_id", .str deviceId)] ∧
        files .identity = some (identityText deviceId) := by
  rcases h with hnone | ⟨deviceId, q, hsome, hq⟩
  · refine .inl ⟨?_, fun deviceId h => ?_⟩
    · rw [loadIdentity, hnone]
      rfl
    · rw [hnone] at h
      cases h
  · by_cases hwhole : q = identityText deviceId
    · subst hwhole
      exact .inr ⟨deviceId, by rw [loadIdentity, hsome, readJson_identityText], hsome⟩
    · have hread := readJson_torn hq hwhole
      refine .inl ⟨by rw [loadIdentity, hsome, hread], fun deviceId' h => ?_⟩
      rw [← hsome, h, readJson_identityText] at hread
      cases hread

theorem getDeviceId_eq_iff (h : files .identity = none ∨ ∃ deviceId q, files .identity = some q ∧
    q <+: identityText deviceId) (deviceId : String) :
    (loadIdentity files).getDeviceId = .str deviceId ↔
      files .identity = some (identityText deviceId) := by
  rw [StoredIdentity.getDeviceId]
  rcases identity_cases h with ⟨hread, hnot⟩ | ⟨deviceId', hread, hsome⟩
  · rw [hread]
    exact iff_of_false (fun heq => by cases heq) (hnot deviceId)
  · rw [hread, hsome, Option.some.injEq, identityText_injective.eq_iff]
    exact ⟨Json.str.inj, congrArg _⟩

theorem dumps_identity (h : StateDir files) (deviceId : String) :
    (Json.obj (Dict.setItems "device_id" (.str deviceId)
      (loadIdentity files).identity)).dumpsIndent = identityText deviceId := by
  rcases identity_cases h.identity with ⟨hread, -⟩ | ⟨deviceId', hread, -⟩ <;> rw [hread] <;> rfl

theorem dumps_enrollment (h : StateDir files) (r : EnrollmentResult) :
    (Json.obj ((loadIdentity files).enrollmentData r)).dumpsIndent = r.text := by
  rw [StoredIdentity.enrollmentData]
  rcases h.enrollment with hnone | ⟨r', hsome⟩
  · rw [loadIdentity, hnone]
    rfl
  · rw [loadIdentity, hsome, readJson_enrollment]
    rfl

theorem hasEnrollment_iff (h : StateDir files) :
    hasEnrollment files = true ↔ files .privateKey ≠ none := by
  rw [hasEnrollment, Bool.and_eq_true, Option.isSome_iff_ne_none (o := files .privateKey)]
  refine and_iff_right_of_imp fun hkey => ?_
  rcases h.enrollment with hnone | ⟨r, hsome⟩
  · exact absurd (h.key hnone) hkey
  · rw [loadIdentity, hsome, readJson_enrollment]
    rfl

end StateDir

/-! ### Crashes -/

theorem crash_saveIdentity (s : StoredIdentity) (deviceId : String) (files : Files StateFile)
    (c : CrashPoint) {text : List Char}
    (htext : (Json.obj (Dict.setItems "device_id" (.str deviceId) s.identity)).dumpsIndent = text) :
    crash (s.saveIdentityOps deviceId) files c .identity =
      if c.done = 0 then files .identity
      else if c.done = 1 then (c.cut.map fun n => text.take n).or (files .identity)
      else some text := by
  subst htext
  by_cases hzero : c.done = 0
  · rw [if_pos hzero, crash, hzero]
    cases c.cut <;> rfl
  · rw [if_neg hzero]
    by_cases hone : c.done = 1
    · rw [if_pos hone, crash, hone]
      cases c.cut with
      | none => rfl
      | some n => simp [StoredIdentity.saveIdentityOps, FileOp.cutOff]
    · have hlen : (s.saveIdentityOps deviceId).length ≤ c.done := by
        change 2 ≤ c.done
        omega
      rw [if_neg hone, crash_of_length_le hlen]
      simp [StoredIdentity.saveIdentityOps, FileOp.apply]

section

variable {files : Files StateFile}

/-- **The files after a crash of `cmd_enroll`**: the enrollment as it was and no private key, or the
new private key with the new enrollment, and the identity as far as it is written. -/
theorem crash_cmdEnroll (h : StateDir files) (hfree : hasEnrollment files = false)
    (r : EnrollmentResult) (c : CrashPoint) {files' : Files StateFile}
    (hcrash : crash ((loadIdentity files).cmdEnrollOps r) files c = files') :
    (c.done < keyRenamed ∧ files' .privateKey = none ∧ files' .identity = files .identity ∧
        (files' .enrollment = files .enrollment ∨ files' .enrollment = some r.text)) ∨
      (keyRenamed ≤ c.done ∧ files' .privateKey = some (r.privateKey ++ "\n").toList ∧
        files' .enrollment = some r.text ∧ files' .identity =
          if c.done = keyRenamed then files .identity
          else if c.done = keyRenamed + 1 then
            (c.cut.map fun n => (identityText r.deviceId).take n).or (files .identity)
          else some (identityText r.deviceId)) := by
  subst hcrash
  have hnokey : files .privateKey = none := by
    by_contra hkey
    rw [h.hasEnrollment_iff.2 hkey] at hfree
    cases hfree
  rw [StoredIdentity.cmdEnrollOps, StoredIdentity.saveEnrollmentOps, h.dumps_enrollment r,
    List.append_assoc]
  generalize (r.privateKey ++ "\n").toList = saved
  by_cases hfirst : c.done < 4
  · -- the enrollment is not renamed yet
    left
    rw [crash_append_of_lt hfirst]
    refine ⟨hfirst.trans (by decide), ?_, ?_, .inl ?_⟩
    · rw [crash_untouched (not_mem_atomicWrite (by decide) (by decide)), hnokey]
    · exact crash_untouched (not_mem_atomicWrite (by decide) (by decide))
    · rw [crash_atomicWrite (by decide), if_pos hfirst]
  rw [crash_append_of_le (Nat.le_of_not_lt hfirst)]
  have hkept : ∀ p : StateFile, p ≠ .enrollmentTmp → p ≠ .enrollment →
      runOps (atomicWrite .enrollmentTmp .enrollment r.text) files p = files p := fun p h h' =>
    runOps_untouched (not_mem_atomicWrite h h')
  have henrollment : runOps (atomicWrite .enrollmentTmp .enrollment r.text) files .enrollment =
      some r.text := runOps_atomicWrite (by decide)
  revert hkept henrollment
  generalize runOps (atomicWrite .enrollmentTmp .enrollment r.text) files = files₁
  intro hkept henrollment
  by_cases hsecond : c.done < keyRenamed
  · -- the private key is not renamed yet
    left
    have hlt : c.done - 4 < 4 := by
      rw [keyRenamed] at hsecond
      omega
    refine ⟨hsecond, ?_, ?_, .inr ?_⟩
    all_goals rw [length_atomicWrite, crash_append_of_lt hlt]
    · rw [crash_atomicWrite (by decide), if_pos hlt, hkept _ (by decide) (by decide), hnokey]
    · rw [crash_untouched (not_mem_atomicWrite (by decide) (by decide)),
        hkept _ (by decide) (by decide)]
    · rw [crash_untouched (not_mem_atomicWrite (by decide) (by decide)), henrollment]
  · -- both are renamed, and the identity is being written
    right
    have hge : 8 ≤ c.done := Nat.le_of_not_lt hsecond
    have hle : 4 ≤ c.done - 4 := by omega
    have hsaveIdentity : ∀ p : StateFile, p ≠ .identity →
        ∀ op ∈ (loadIdentity files).saveIdentityOps r.deviceId, p ∉ op.paths := fun p hp => by
      simp [StoredIdentity.saveIdentityOps, FileOp.paths, hp]
    have hzero : c.done - 4 - 4 = 0 ↔ c.done = keyRenamed := by
      rw [keyRenamed]
      omega
    have hone : c.done - 4 - 4 = 1 ↔ c.done = keyRenamed + 1 := by
      rw [keyRenamed]
      omega
    refine ⟨hge, ?_, ?_, ?_⟩
    all_goals rw [length_atomicWrite, crash_append_of_le (by simpa using hle)]
    · rw [crash_untouched (hsaveIdentity _ (by decide)), runOps_atomicWrite (by decide)]
    · rw [crash_untouched (hsaveIdentity _ (by decide)),
        runOps_untouched (not_mem_atomicWrite (by decide) (by decide)), henrollment]
    · rw [crash_saveIdentity _ _ _ _ (h.dumps_identity r.deviceId),
        runOps_untouched (not_mem_atomicWrite (by decide) (by decide)),
        hkept _ (by decide) (by decide)]
      simp only [length_atomicWrite, hzero, hone]

theorem StateDir.identity_saved (h : StateDir files) (deviceId : String) (cut : Option ℕ)
    (p q : Prop) [Decidable p] [Decidable q] {saved : Option (List Char)}
    (hsaved : saved = if p then files .identity
      else if q then (cut.map fun n => (identityText deviceId).take n).or (files .identity)
      else some (identityText deviceId)) :
    saved = none ∨ ∃ deviceId' front, saved = some front ∧ front <+: identityText deviceId' := by
  subst hsaved
  split_ifs
  · exact h.identity
  · cases cut with
    | none => exact h.identity
    | some n => exact .inr ⟨deviceId, _, rfl, List.take_prefix n _⟩
  · exact .inr ⟨deviceId, _, rfl, List.prefix_refl _⟩

/-- **A crash leaves the state directory as described.** -/
theorem StateDir.step (h : StateDir files) (e : StateDirEvent) :
    StateDir (stateDirStep files e) := by
  cases e with
  | enroll r c =>
    rw [stateDirStep]
    split_ifs with henrolled
    · exact h
    rcases crash_cmdEnroll h (Bool.not_eq_true _ ▸ henrolled) r c rfl with
      ⟨-, hkey, hidentity, henrollment⟩ | ⟨-, hkey, henrollment, hidentity⟩
    · refine ⟨hidentity ▸ h.identity, ?_, fun _ => hkey⟩
      rcases henrollment with hold | hnew
      · exact hold ▸ h.enrollment
      · exact .inr ⟨r, hnew⟩
    · refine ⟨h.identity_saved _ _ _ _ hidentity, .inr ⟨r, henrollment⟩, fun hnone => ?_⟩
      rw [henrollment] at hnone
      cases hnone
  | register preauthKey deviceId c =>
    rw [stateDirStep]
    split_ifs
    · have hidentity := crash_saveIdentity _ _ files c (h.dumps_identity deviceId)
      have hkept : ∀ p : StateFile, p ≠ .identity →
          crash ((loadIdentity files).saveIdentityOps deviceId) files c p = files p := fun p hp =>
        crash_untouched (by simp [StoredIdentity.saveIdentityOps, FileOp.paths, hp])
      refine ⟨h.identity_saved _ _ _ _ hidentity, ?_, fun hnone => ?_⟩
      · rw [hkept _ (by decide)]
        exact h.enrollment
      · rw [hkept _ (by decide)] at hnone ⊢
        exact h.key hnone
    · exact h

/-- A state directory without files. -/
theorem StateDir.empty : StateDir fun _ => none := ⟨.inl rfl, .inl rfl, fun _ => rfl⟩

theorem runStart_enrolled {r : EnrollmentResult} (henrollment : files .enrollment = some r.text)
    (hidentity : files .identity = none ∨ ∃ deviceId q, files .identity = some q ∧
      q <+: identityText deviceId) (preauthKey : String) :
    runStart files preauthKey = .restored (.str r.deviceId) (.str r.deviceToken) ↔
      files .identity = some (identityText r.deviceId) := by
  have htoken : (loadIdentity files).getDeviceToken = .str r.deviceToken := by
    rw [StoredIdentity.getDeviceToken, loadIdentity, henrollment, readJson_enrollment]
    rfl
  have htruthy : ∀ s : String, s ≠ "" → (Json.str s).truthy = true := fun s hs => by
    simpa [Json.truthy] using hs
  rw [← StateDir.getDeviceId_eq_iff hidentity, runStart]
  simp only [htoken, htruthy _ r.deviceToken_ne, and_true]
  constructor
  · intro h
    split_ifs at h
    exact (RunStart.restored.inj h).1
  · intro h
    rw [h, if_pos (htruthy _ r.deviceId_ne)]

/-- **Which crashes are survived**: from every state directory that enrollments, registrations and
crashes leave, a crash of `cmd_enroll` leads to a daemon with the new identity or to a device that
can enroll again, exactly if it comes at a safe point. -/
theorem enrollment_survives_iff (events : List StateDirEvent) (preauthKey : String)
    (r : EnrollmentResult) (c : CrashPoint)
    (hfiles : run stateDirStep (fun _ => none) events = files)
    (hfree : hasEnrollment files = false) :
    Survives (crash ((loadIdentity files).cmdEnrollOps r) files c) preauthKey r ↔
      r.SafePoint files c := by
  have h : StateDir files := hfiles ▸
    run_invariant (P := StateDir) stateDirStep (fun _ e h => h.step e) StateDir.empty events
  have hcrashed : StateDir (crash ((loadIdentity files).cmdEnrollOps r) files c) := by
    have hstep := h.step (.enroll r c)
    rwa [stateDirStep, if_neg (by simp [hfree])] at hstep
  rcases crash_cmdEnroll h hfree r c rfl with
    ⟨hlt, hkey, -, -⟩ | ⟨hge, hkey, henrollment, hidentity⟩
  · refine iff_of_true (.inr ?_) (.inl hlt)
    rw [← Bool.not_eq_true, hcrashed.hasEnrollment_iff, hkey]
    exact fun hne => hne rfl
  · have henrolled :
        hasEnrollment (crash ((loadIdentity files).cmdEnrollOps r) files c) = true := by
      rw [hcrashed.hasEnrollment_iff, hkey]
      exact Option.some_ne_none _
    rw [Survives, henrolled, runStart_enrolled henrollment hcrashed.identity, hkey, hidentity,
      and_iff_left rfl, or_iff_left (by decide), EnrollmentResult.SafePoint,
      or_iff_right (Nat.not_lt.2 hge)]
    by_cases hopen : c.done = keyRenamed
    · simp [hopen]
    by_cases hwriting : c.done = keyRenamed + 1
    · simp only [hwriting, Nat.succ_ne_self, if_false, if_true, false_or, true_and]
      cases hcut : c.cut with
      | none => simp
      | some n => simp [List.take_eq_self_iff]
    · have hdone : keyRenamed + 2 ≤ c.done := by omega
      simp [hopen, hwriting, hdone]

end

/-! ### A first enrollment -/

/-- What the server returns to a lamp. -/
def lampEnrollment : EnrollmentResult where
  deviceId := "lamp"
  deviceToken := "lamp-token"
  privateKey := "lamp-key"
  deviceId_ne := by decide
  deviceToken_ne := by decide

/-- The lamp loses power before its key is renamed, and can enroll again. -/
theorem enrollment_survives_iff_lamp :
    Survives (crash ((loadIdentity fun _ => none).cmdEnrollOps lampEnrollment) (fun _ => none)
      ⟨7, none⟩) "" lampEnrollment :=
  (enrollment_survives_iff [] "" lampEnrollment ⟨7, none⟩ rfl rfl).2 (.inl (by decide))

/-- The lamp loses power after its key was renamed: the daemon finds an incomplete enrollment, and
`cmd_enroll` one that is there already. -/
theorem crash_after_key_refused :
    let files := crash ((loadIdentity fun _ => none).cmdEnrollOps lampEnrollment) (fun _ => none)
      ⟨8, none⟩
    runStart files "preauth" = .incomplete ∧ hasEnrollment files = true ∧
      ¬ Survives files "preauth" lampEnrollment := by
  have hstart : runStart (crash ((loadIdentity fun _ => none).cmdEnrollOps lampEnrollment)
      (fun _ => none) ⟨8, none⟩) "preauth" = .incomplete := by decide +kernel
  have henrolled : hasEnrollment (crash ((loadIdentity fun _ => none).cmdEnrollOps lampEnrollment)
      (fun _ => none) ⟨8, none⟩) = true := by decide +kernel
  refine ⟨hstart, henrolled, ?_⟩
  rintro (⟨hrestored, -⟩ | hfree)
  · rw [hstart] at hrestored
    cases hrestored
  · rw [henrolled] at hfree
    cases hfree

end Daemon

end Midscale
