import Midscale.Events.RelayFallback
import Midscale.Run.Faults
import Midscale.Sessions.EndpointScores

/-!
# Success events and failing operations

`record_punch_result` publishes `nat.punch_succeeded` before it has committed anything, promotes the
endpoint with commits of its own, and commits the session in the end.  Each of its operations on the
database may fail.

* `recordPunchSteps` : the queries, changes, commits and events of a call, in their order.
* `attemptPunch_of_ok` : without failures a call does what the services say.
* `punch_faults_iff` : **success events are true, and failed calls leave nothing behind, exactly
  if** no operation fails, or one does before anything is published and committed.
-/

namespace Midscale

/-! ### The steps of a call -/

/-- What `_publish_config_changed` publishes for one device of a session. -/
def NATSession.configChangedFor (env : Env) (s : NATSession) (deviceId : Uuid) (db : Database) :
    List Event :=
  ((db.devices.get? deviceId).bind fun device =>
    Except.toOption do
      let config ← buildConfigV2 env db device
      let revision ← config.callGet "revision"
      let hash ← config.callGet "hash"
      Except.ok (s.configChangedEvent env.now device revision hash)).toList

/-- The relay session is added. -/
def Database.addRelay (r : RelaySession) (db : Database) : Database :=
  { db with relaySessions := (db.relaySessions.insert r).getD db.relaySessions }

section

variable (eventBus : Bool) (env : Env) (e : Entropy) (db : Database)

/-- `_promote_endpoint`, by the rows that its query finds.  The row is committed, read again, and
compared with all active rows of the device. -/
def promotionSteps (deviceId : Uuid) (latencyMs : Option ℤ) :
    List DeviceEndpoint → List (CallStep Database Event)
  | [] => [.read]
  | [ep] =>
    [.read, .change (·.promoteRow env.now latencyMs ep.id), .commit, .read, .read] ++
      if (db.promoteRow env.now latencyMs ep.id).isPreferred deviceId ep.id then
        [.change (·.retireOthers deviceId ep.id), .commit]
      else []
  -- `MultipleResultsFound`
  | _ :: _ :: _ => [.read, .raise]

/-- `_publish_config_changed`: exceptions of the second query are swallowed. -/
def configSteps (s : NATSession) : List (CallStep Database Event) :=
  [s.initiatorDeviceId, s.targetDeviceId].flatMap fun deviceId =>
    .read :: if (db.devices.get? deviceId).isSome then [.tryRead (s.configChangedFor env deviceId)]
      else []

/-- A success; the first flush writes `updated_at` along. -/
def successSteps (s : NATSession) (req : PunchResult) : List (CallStep Database Event) :=
  .change (·.connectSession env.now s.id req.candidate) ::
    (if eventBus then [.publish (s.punchSucceeded req)] else []) ++
      if req.hasSelection then
        promotionSteps env db s.targetDeviceId req.latencyMs
            (req.selectedRows db s.targetDeviceId) ++
          if eventBus then configSteps env db s else []
      else []

/-- `auto_create_relay_fallback` and the event after it; a row that cannot be added fails the commit
with an `IntegrityError`. -/
def relaySteps (s : NATSession) : List (CallStep Database Event) :=
  match createRelaySession env.now db e.rowId e.relayToken s.initiatorDeviceId
      s.targetDeviceId with
  | .error _ => [.raise]
  | .ok (relay, _) =>
    [.change (·.addRelay relay), .commit, .read] ++
      if eventBus then [.publish relay.requested, .publish (s.relayFallback relay)] else []

/-- A failure. -/
def failureSteps (s : NATSession) (req : PunchResult) : List (CallStep Database Event) :=
  .change (·.setNatSession s.id (NATSession.failedWith env.now req.error) fun _ => rfl) ::
    (if eventBus then [.publish (s.punchFailed req.error)] else []) ++
      if 2 ≤ s.failures then relaySteps eventBus env e db s else []

/-- `record_punch_result`. -/
def recordPunchSteps (id : Uuid) (req : PunchResult) : List (CallStep Database Event) :=
  .read ::
    match db.natSessions.get? id with
    | none => []
    | some s =>
      (if req.success then successSteps eventBus env db s req
        else failureSteps eventBus env e db s req) ++ [.commit, .read]

/-- A call of `record_punch_result` in which operations may fail. -/
def attemptPunch (fails : ℕ → Bool) (id : Uuid) (req : PunchResult) :
    CallState Database Event × Bool :=
  attempt fails (recordPunchSteps eventBus env e db id req) { session := .start db }

end

/-! ### Without failures -/

section

variable {eventBus : Bool} {env : Env} {e : Entropy} {db db' : Database} {s : NATSession}
  {req : PunchResult}

theorem NATSession.configChangedFor_eq_nil (s : NATSession) (env : Env) (deviceId : Uuid)
    (db : Database) : s.configChangedFor env deviceId db = [] := by
  rw [configChangedFor]
  cases db.devices.get? deviceId with
  | none => rfl
  | some device =>
    rw [Option.bind_some]
    cases buildConfigV2 env db device <;> rfl

theorem promoteSelected_of_eq (now : Timestamp) {deviceId : Uuid} {ep : DeviceEndpoint}
    (h : req.selectedRows db deviceId = [ep]) : promoteSelected now db deviceId req =
      .ok (if (db.promoteRow now req.latencyMs ep.id).isPreferred deviceId ep.id then
          (db.promoteRow now req.latencyMs ep.id).retireOthers deviceId ep.id
        else db.promoteRow now req.latencyMs ep.id) := by
  unfold PunchResult.selectedRows at h
  unfold promoteSelected
  split at h
  · split_ifs at h
    rw [if_pos ‹_›, promoteEndpoint_of_eq now req.latencyMs h]
    rfl
  · cases h

theorem hasSelection_of_selectedRows {deviceId : Uuid} (h : req.selectedRows db deviceId ≠ []) :
    req.hasSelection = true := by
  unfold PunchResult.selectedRows at h
  split at h
  · rename_i endpoint port hendpoint hport
    split_ifs at h with hcond
    · simp [PunchResult.hasSelection, hendpoint, hport, hcond.1, hcond.2]
    · exact absurd rfl h
  · exact absurd rfl h

theorem attempt_configSteps (env : Env) (db : Database) (s : NATSession)
    (st : CallState Database Event) : ∃ n, attempt (fun _ => false) (configSteps env db s) st =
      ({ st with operations := n }, true) := by
  unfold configSteps
  by_cases h : (db.devices.get? s.initiatorDeviceId).isSome = true <;>
    by_cases h' : (db.devices.get? s.targetDeviceId).isSome = true <;>
    simp only [List.flatMap_cons, List.flatMap_nil, h, h', if_true, if_false, List.cons_append,
      List.nil_append, List.append_nil, attempt, Bool.false_eq_true, s.configChangedFor_eq_nil] <;>
    exact ⟨_, rfl⟩

/-- Without failures the steps of a promotion do what `promoteSelected` says. -/
theorem attempt_promotionSteps (st : CallState Database Event) {id : Uuid}
    (hview : st.session.view = db.connectSession env.now id req.candidate)
    (h : promoteSelected env.now (db.connectSession env.now id req.candidate) s.targetDeviceId req =
      .ok db') :
    ∃ committed n, attempt (fun _ => false)
        (promotionSteps env db s.targetDeviceId req.latencyMs
          (req.selectedRows db s.targetDeviceId)) st =
      ({ st with session := ⟨committed, db'⟩, operations := n }, true) := by
  have hcases := promoteSelected_cases env.now (db.connectSession env.now id req.candidate)
    s.targetDeviceId req
  have hrows : req.selectedRows (db.connectSession env.now id req.candidate) s.targetDeviceId =
    req.selectedRows db s.targetDeviceId := rfl
  rw [hrows] at hcases
  match hsel : req.selectedRows db s.targetDeviceId with
  | [] =>
    rw [hcases.1 hsel] at h
    cases h
    refine ⟨st.session.committed, st.operations + 1, ?_⟩
    rw [← hview]
    rfl
  | [ep] =>
    rw [promoteSelected_of_eq env.now (hrows.trans hsel)] at h
    cases h
    rw [promotionSteps]
    have hsame : ((db.connectSession env.now id req.candidate).promoteRow env.now req.latencyMs
        ep.id).isPreferred s.targetDeviceId ep.id =
      (db.promoteRow env.now req.latencyMs ep.id).isPreferred s.targetDeviceId ep.id := rfl
    rw [hsame]
    cases (db.promoteRow env.now req.latencyMs ep.id).isPreferred s.targetDeviceId ep.id <;>
      exact ⟨_, _, by rw [← hview]; rfl⟩
  | _ :: _ :: _ =>
    obtain ⟨error, herror⟩ := hcases.2.2 (by rw [hsel]; simp)
    rw [herror] at h
    cases h

theorem createRelaySession_setNatSession {now : Timestamp} {id rowId initiator target : Uuid}
    {relayToken : String} {f : NATSession → NATSession} {hf : ∀ s, (f s).id = s.id}
    {r : RelaySession} (h : createRelaySession now (db.setNatSession id f hf) rowId relayToken
      initiator target = .ok (r, db')) :
    createRelaySession now db rowId relayToken initiator target = .ok (r, db.addRelay r) ∧
      db' = (db.setNatSession id f hf).addRelay r := by
  obtain ⟨relaySessions, -, -, -, hinsert, rfl⟩ := createRelaySession_eq_ok h
  have hadded : (db.relaySessions.insert r).getD db.relaySessions = relaySessions := by
    change db.relaySessions.insert r = some relaySessions at hinsert
    rw [hinsert, Option.getD_some]
  have hrelay : ∀ db' : Database, db'.relaySessions = db.relaySessions →
      db'.addRelay r = { db' with relaySessions := relaySessions } := by
    intro db' hdb'
    rw [Database.addRelay, hdb', hadded]
  refine ⟨?_, (hrelay (db.setNatSession id f hf) rfl).symm⟩
  rw [hrelay db rfl]
  simp only [createRelaySession, bind_eq_ok, Table.add_eq_ok] at h ⊢
  obtain ⟨_, hdevices, relaySessions', hinsert', h⟩ := h
  cases h
  exact ⟨_, hdevices, relaySessions, hinsert, rfl⟩

/-- **Without failures a call does what `recordPunchResult` says**, and publishes its events. -/
theorem attemptPunch_of_ok {id : Uuid} {s' : NATSession} {relay : Option RelaySession}
    (hs : db.natSessions.get? id = some s)
    (h : recordPunchResult env.now db e id req = .ok (some (s', relay), db')) :
    ∃ n, attemptPunch eventBus env e db (fun _ => false) id req =
      (⟨⟨db', db'⟩, recordPunchResultEvents eventBus env db' s relay req, n⟩, true) := by
  obtain rfl := get?_natSessions_id hs
  rw [recordPunchResult, hs] at h
  rw [attemptPunch, recordPunchSteps, hs]
  cases hsuccess : req.success with
  | true =>
    simp only [hsuccess, if_true, bind_eq_ok] at h ⊢
    obtain ⟨db₁, hpromote, h⟩ := h
    cases h
    simp only [successSteps, recordPunchResultEvents, hsuccess, if_true,
      publishConfigChanged_eq_nil, ite_self]
    by_cases hselection : req.hasSelection = true
    · simp only [if_pos hselection]
      cases eventBus with
      | true =>
        obtain ⟨committed, n, hpromotion⟩ := attempt_promotionSteps
          ⟨⟨db, db.connectSession env.now s.id req.candidate⟩, [s.punchSucceeded req], 1⟩
          rfl hpromote
        obtain ⟨n', hconfig⟩ := attempt_configSteps env db s
          ⟨⟨committed, db'⟩, [s.punchSucceeded req], n⟩
        refine ⟨n' + 2, ?_⟩
        simp only [if_true, List.append_assoc, List.cons_append, List.nil_append]
        change attempt _ (promotionSteps _ _ _ _ _ ++ (configSteps _ _ _ ++ [.commit, .read]))
          ⟨⟨db, db.connectSession env.now s.id req.candidate⟩, [s.punchSucceeded req], 1⟩ = _
        rw [attempt_append_of_eq hpromotion, attempt_append_of_eq hconfig]
        rfl
      | false =>
        obtain ⟨committed, n, hpromotion⟩ := attempt_promotionSteps
          ⟨⟨db, db.connectSession env.now s.id req.candidate⟩, [], 1⟩ rfl hpromote
        refine ⟨n + 2, ?_⟩
        simp only [Bool.false_eq_true, if_false, List.append_assoc, List.cons_append,
          List.nil_append]
        change attempt _ (promotionSteps _ _ _ _ _ ++ [.commit, .read])
          ⟨⟨db, db.connectSession env.now s.id req.candidate⟩, [], 1⟩ = _
        rw [attempt_append_of_eq hpromotion]
        rfl
    · have hrows : req.selectedRows db s.targetDeviceId = [] := by
        by_contra hne
        exact hselection (hasSelection_of_selectedRows hne)
      rw [(promoteSelected_cases env.now (db.connectSession env.now s.id req.candidate)
        s.targetDeviceId req).1 hrows] at hpromote
      cases hpromote
      simp only [if_neg hselection]
      cases eventBus <;> exact ⟨_, rfl⟩
  | false =>
    simp only [hsuccess, Bool.false_eq_true, if_false, failureSteps,
      recordPunchResultEvents] at h ⊢
    by_cases hdue : 2 ≤ s.failures
    · rw [if_pos hdue] at h ⊢
      obtain ⟨⟨r, db₁⟩, hrelay, h⟩ := bind_eq_ok.1 h
      cases h
      obtain ⟨hcreated, rfl⟩ := createRelaySession_setNatSession hrelay
      rw [relaySteps, hcreated]
      cases eventBus <;> exact ⟨_, rfl⟩
    · rw [if_neg hdue] at h ⊢
      cases h
      cases eventBus <;> exact ⟨_, rfl⟩

end

/-! ### Failing operations -/

/-- A success of a punch is announced. -/
def AnnouncesSuccess (events : List Event) : Prop :=
  ∃ event ∈ events, event.eventType = "nat.punch_succeeded"

/-- Success events are true, and a call that fails announces no success and leaves nothing
behind. -/
structure SuccessTrue (db : Database) (id : Uuid) (req : PunchResult)
    (call : CallState Database Event × Bool) : Prop where
  connected : AnnouncesSuccess call.1.published → ∃ s,
    call.1.session.committed.natSessions.get? id = some s ∧ s.state = .connected ∧
      s.selectedCandidate = some req.candidate
  rolledBack : call.2 = false →
    call.1.session.committed = db ∧ ¬ AnnouncesSuccess call.1.published

section

variable (env : Env) (e : Entropy) (db : Database) (s : NATSession) (req : PunchResult)

/-- The operations fail before the first commit, or with it; or the call raises an exception by
then: for several rows of one address and port, or a relay session that does not fit in. -/
def EndsBeforeCommit (fails : ℕ → Bool) : Prop :=
  fails 1 = true ∨ (req.success = true ∧ req.hasSelection = true ∧ fails 2 = true) ∨
    if req.success then 2 ≤ (req.selectedRows db s.targetDeviceId).length
    else 2 ≤ s.failures ∧ ¬ (s.PairExists db ∧ db.relaySessions.get? e.rowId = none)

/-- The columns have the values that the call would write, and it neither promotes an endpoint nor
adds a relay session. -/
def ChangesNothing : Prop :=
  if req.success then
    req.selectedRows db s.targetDeviceId = [] ∧ db.connectSession env.now s.id req.candidate = db
  else
    ¬ 2 ≤ s.failures ∧
      (db.setNatSession s.id (NATSession.failedWith env.now req.error) fun _ => rfl) = db

end

section

variable {eventBus : Bool} {env : Env} {e : Entropy} {db db' : Database} {s : NATSession}
  {id : Uuid} {req : PunchResult} {fails : ℕ → Bool}

theorem announcesSuccess_attemptPunch (hs : db.natSessions.get? id = some s)
    (hfails : fails 0 = false) (hbus : eventBus = true) (hsuccess : req.success = true) :
    AnnouncesSuccess (attemptPunch eventBus env e db fails id req).1.published := by
  obtain ⟨steps, hsteps⟩ : ∃ steps, recordPunchSteps eventBus env e db id req =
      .read :: .change (·.connectSession env.now s.id req.candidate) ::
        .publish (s.punchSucceeded req) :: steps := by
    simp only [recordPunchSteps, hs, hsuccess, hbus, successSteps, if_true, List.cons_append,
      List.nil_append]
    exact ⟨_, rfl⟩
  have hprefix := published_prefix fails steps
    { session := ⟨db, db.connectSession env.now s.id req.candidate⟩
      published := [s.punchSucceeded req]
      operations := 1 }
  refine ⟨s.punchSucceeded req, ?_, rfl⟩
  rw [attemptPunch, hsteps]
  simp only [attempt, hfails, Bool.false_eq_true, if_false]
  exact hprefix.subset List.mem_cons_self

theorem promotionSteps_quiet {P : Event → Prop} {Inv : Table NATSession → Prop} (env : Env)
    (db : Database) (deviceId : Uuid) (latencyMs : Option ℤ) (rows : List DeviceEndpoint) :
    ∀ step ∈ promotionSteps env db deviceId latencyMs rows,
      step.Publishes P ∧ step.Keeps fun x => Inv x.natSessions := by
  unfold promotionSteps
  split <;> try split_ifs
  all_goals
    simp [CallStep.Publishes, CallStep.Keeps, Database.promoteRow, Database.retireOthers]

theorem configSteps_quiet {P : Event → Prop} {Inv : Database → Prop} (env : Env) (db : Database)
    (s : NATSession) :
    ∀ step ∈ configSteps env db s, step.Publishes P ∧ step.Keeps Inv := by
  intro step hstep
  simp only [configSteps, List.mem_flatMap, List.mem_cons] at hstep
  obtain ⟨deviceId, -, rfl | hstep⟩ := hstep
  · exact ⟨trivial, trivial⟩
  · split_ifs at hstep
    · rw [List.mem_singleton.1 hstep]
      refine ⟨fun x event hevent => ?_, trivial⟩
      rw [s.configChangedFor_eq_nil] at hevent
      cases hevent
    · cases hstep

theorem successSteps_quiet {P : Event → Prop} (Inv : Table NATSession → Prop) (env : Env)
    (db : Database) (s : NATSession) (req : PunchResult)
    (hpublish : eventBus = true → P (s.punchSucceeded req))
    (hconnect : ∀ x : Database, Inv x.natSessions →
      Inv (x.connectSession env.now s.id req.candidate).natSessions) :
    ∀ step ∈ successSteps eventBus env db s req,
      step.Publishes P ∧ step.Keeps fun x => Inv x.natSessions := by
  unfold successSteps
  rw [List.cons_append, List.forall_mem_cons, List.forall_mem_append]
  refine ⟨⟨trivial, hconnect⟩, ?_, ?_⟩
  · split_ifs with hbus
    · exact List.forall_mem_singleton.2 ⟨hpublish hbus, trivial⟩
    · exact List.forall_mem_nil _
  · split_ifs
    · exact List.forall_mem_append.2 ⟨promotionSteps_quiet env db _ _ _,
        configSteps_quiet env db s⟩
    · exact List.forall_mem_append.2 ⟨promotionSteps_quiet env db _ _ _, List.forall_mem_nil _⟩
    · exact List.forall_mem_nil _

theorem failureSteps_publishes (eventBus : Bool) (env : Env) (e : Entropy) (db : Database)
    (s : NATSession) (req : PunchResult) :
    ∀ step ∈ failureSteps eventBus env e db s req,
      step.Publishes fun event => event.eventType ≠ "nat.punch_succeeded" := by
  unfold failureSteps
  rw [List.cons_append, List.forall_mem_cons, List.forall_mem_append]
  refine ⟨trivial, ?_, ?_⟩
  · split_ifs
    · exact List.forall_mem_singleton.2 (by decide : "nat.punch_failed" ≠ "nat.punch_succeeded")
    · exact List.forall_mem_nil _
  · split_ifs
    · unfold relaySteps
      split
      · exact List.forall_mem_singleton.2 trivial
      · split_ifs <;> simp [CallStep.Publishes, RelaySession.requested, NATSession.relayFallback]
    · exact List.forall_mem_nil _

theorem not_announcesSuccess_attemptPunch (h : ¬ (eventBus = true ∧ req.success = true)) :
    ¬ AnnouncesSuccess (attemptPunch eventBus env e db fails id req).1.published := by
  rintro ⟨event, hevent, htype⟩
  refine forall_published fails (P := fun event => event.eventType ≠ "nat.punch_succeeded") ?_
    (List.forall_mem_nil _) event hevent htype
  rw [recordPunchSteps, List.forall_mem_cons]
  refine ⟨trivial, ?_⟩
  cases hs : db.natSessions.get? id with
  | none => exact List.forall_mem_nil _
  | some s =>
    rw [List.forall_mem_append]
    refine ⟨?_, by simp [CallStep.Publishes]⟩
    split_ifs with hsuccess
    · intro step hstep
      exact (successSteps_quiet (fun _ => True) env db s req
        (fun hbus => absurd ⟨hbus, hsuccess⟩ h) (fun _ _ => trivial) step hstep).1
    · exact failureSteps_publishes eventBus env e db s req

/-- **A call that completes has connected the session that it announces.** -/
theorem successTrue_of_succeeds (hs : db.natSessions.get? id = some s)
    (h : Succeeds fails 0 (recordPunchSteps eventBus env e db id req)) :
    SuccessTrue db id req (attemptPunch eventBus env e db fails id req) := by
  have hcompletes : (attemptPunch eventBus env e db fails id req).2 = true :=
    attempt_completes_iff.2 h
  refine ⟨fun hannounces => ?_, fun hfailed => by simp [hcompletes] at hfailed⟩
  obtain ⟨hbus, hsuccess⟩ : eventBus = true ∧ req.success = true := by
    by_contra hnot
    exact not_announcesSuccess_attemptPunch hnot hannounces
  obtain rfl := get?_natSessions_id hs
  have hsteps : recordPunchSteps eventBus env e db s.id req =
      [.read, .change (·.connectSession env.now s.id req.candidate)] ++
        ((successSteps eventBus env db s req).tail ++ [.commit, .read]) := by
    simp only [recordPunchSteps, hs, hsuccess, if_true, successSteps, List.cons_append,
      List.nil_append, List.tail_cons]
  have hreads : fails 0 = false := by
    rw [hsteps] at h
    exact h.1
  have hcall : attemptPunch eventBus env e db fails s.id req =
      attempt fails ((successSteps eventBus env db s req).tail ++ [.commit, .read])
        ⟨⟨db, db.connectSession env.now s.id req.candidate⟩, [], 1⟩ := by
    rw [attemptPunch, hsteps, List.cons_append, attempt, hreads, if_neg Bool.false_ne_true]
    rfl
  rw [hcall] at hcompletes ⊢
  refine ⟨s.connectedBy env.now req.candidate, ?_, rfl, rfl⟩
  refine committed_of_completes
    (fun x => x.natSessions.get? s.id = some (s.connectedBy env.now req.candidate)) ?_ ?_ ?_
    hcompletes
  · have hkeeps : ∀ step ∈ successSteps eventBus env db s req, step.Publishes (fun _ => True) ∧
        step.Keeps fun x => x.natSessions.get? s.id =
          some (s.connectedBy env.now req.candidate) :=
      successSteps_quiet (fun t => t.get? s.id = some (s.connectedBy env.now req.candidate)) env db
        s req (fun _ => trivial) fun x hx => get?_setNatSession
          (f := NATSession.connectedBy env.now req.candidate) hx fun _ => rfl
    refine List.forall_mem_append.2 ⟨fun step hstep => ?_, by simp [CallStep.Keeps]⟩
    exact (hkeeps step (List.mem_of_mem_tail hstep)).2
  · exact get?_setNatSession (f := NATSession.connectedBy env.now req.candidate) hs fun _ => rfl
  · exact List.mem_append_right _ List.mem_cons_self

/-! ### The first commit -/

/-- A call comes to its first commit with `before`, which makes `Inv` true of what is committed. -/
structure FirstCommit (db : Database) (fails : ℕ → Bool)
    (before after : List (CallStep Database Event)) (Inv : Database → Prop) : Prop where
  first : .commit ∉ before
  view : Succeeds fails 0 before →
    Inv (attempt fails before { session := .start db }).1.session.view
  keeps : ∀ step ∈ after, step.Keeps Inv
  store : ¬ Inv db

theorem FirstCommit.of_raise {before after : List (CallStep Database Event)}
    (hfirst : .commit ∉ before) (hraise : .raise ∈ before) :
    FirstCommit db fails before after (fun _ => False) where
  first := hfirst
  view h := not_succeeds_of_mem_raise hraise 0 h
  keeps step _ := by cases step <;> simp [CallStep.Keeps]
  store := id

theorem successCount_promoteRow {ep : DeviceEndpoint} (now : Timestamp) (latencyMs : Option ℤ)
    (hget : db.endpoints.get? ep.id = some ep) :
    ((db.promoteRow now latencyMs ep.id).endpoints.get? ep.id).map (·.successCount) =
      some (ep.successCount + 1) := by
  change ((db.endpoints.modify ep.id (DeviceEndpoint.promoted now latencyMs)
    (DeviceEndpoint.promoted_id now latencyMs)).get? ep.id).map _ = _
  rw [Table.get?_modify, hget, Option.map_some, Option.map_some,
    if_pos (Table.get?_eq_some_iff.1 hget).2]
  rfl

theorem successCount_retireOthers (x : Database) (deviceId id keep : Uuid) :
    ((x.retireOthers deviceId keep).endpoints.get? id).map (·.successCount) =
      (x.endpoints.get? id).map (·.successCount) := by
  change ((x.endpoints.map (DeviceEndpoint.retired deviceId keep)
    (DeviceEndpoint.retired_id deviceId keep)).get? id).map _ = _
  rw [Table.get?_map, Option.map_map]
  congr 1
  funext y
  simp only [Function.comp_apply, DeviceEndpoint.retired]
  split_ifs <;> rfl

theorem isSome_get?_addRelay {r : RelaySession} (hcreate : createRelaySession env.now db e.rowId
      e.relayToken s.initiatorDeviceId s.targetDeviceId = .ok (r, db')) :
    ((db.addRelay r).relaySessions.get? e.rowId).isSome = true := by
  obtain ⟨relaySessions, hid, -, -, hinsert, -⟩ := createRelaySession_eq_ok hcreate
  have hrow : relaySessions.get? e.rowId = some r :=
    Table.get?_eq_some_iff.2 ⟨(Table.mem_insert hinsert).2 (.inr rfl), hid⟩
  rw [Database.addRelay, hinsert, Option.getD_some, hrow]
  rfl

/-- The first commit of a success that is not announced. -/
theorem firstCommit_success (e : Entropy) (hs : db.natSessions.get? s.id = some s)
    (hfails : fails 0 = false) (hsuccess : req.success = true)
    (hchanges : ¬ ChangesNothing env db s req) :
    ∃ before after Inv, recordPunchSteps false env e db s.id req = before ++ .commit :: after ∧
      FirstCommit db fails before after Inv ∧
      (ReachesCommit fails 0 before ↔ ¬ EndsBeforeCommit e db s req fails) := by
  simp only [ChangesNothing, hsuccess, if_true, not_and] at hchanges
  simp only [recordPunchSteps, hs, hsuccess, if_true, successSteps, EndsBeforeCommit, true_and,
    Bool.false_eq_true, if_false, List.append_nil]
  cases hrows : req.selectedRows db s.targetDeviceId with
  | nil =>
    refine ⟨.read :: .change (·.connectSession env.now s.id req.candidate) ::
        (if req.hasSelection then [.read] else []), [.read],
      (· = db.connectSession env.now s.id req.candidate), ?_,
      ⟨?_, ?_, by simp [CallStep.Keeps], fun h => hchanges hrows h.symm⟩, ?_⟩
    · split_ifs <;> simp [promotionSteps]
    · split_ifs <;> simp
    · split_ifs
      · rintro ⟨h₀, h₁, -⟩
        simp only [attempt, h₀, h₁, Bool.false_eq_true, if_false]
        rfl
      · rintro ⟨h₀, -⟩
        simp only [attempt, h₀, Bool.false_eq_true, if_false]
        rfl
    · split_ifs with hselection <;>
        simp [ReachesCommit, Succeeds, countOperations, hfails, hselection]
  | cons ep rows =>
    have hselection : req.hasSelection = true := hasSelection_of_selectedRows (by rw [hrows]; simp)
    cases rows with
    | nil =>
      have hmem : ep ∈ req.selectedRows db s.targetDeviceId := by
        rw [hrows]
        exact List.mem_cons_self
      have hget : db.endpoints.get? ep.id = some ep :=
        Table.get?_eq_some_iff.2 ⟨(mem_selectedRows hmem).1, rfl⟩
      refine ⟨[.read, .change (·.connectSession env.now s.id req.candidate), .read,
        .change (·.promoteRow env.now req.latencyMs ep.id)],
        .read :: .read ::
          ((if (db.promoteRow env.now req.latencyMs ep.id).isPreferred s.targetDeviceId ep.id then
            [.change (·.retireOthers s.targetDeviceId ep.id), .commit] else []) ++
              [.commit, .read]),
        fun x => (x.endpoints.get? ep.id).map (·.successCount) = some (ep.successCount + 1), ?_,
        ⟨by simp, ?_, ?_, by simp [hget]⟩, ?_⟩
      · simp [hselection, promotionSteps]
      · rintro ⟨h₀, h₁, -⟩
        simp only [attempt, h₀, h₁, Bool.false_eq_true, if_false]
        exact successCount_promoteRow env.now req.latencyMs hget
      · have hretire : ∀ x : Database,
            (x.endpoints.get? ep.id).map (·.successCount) = some (ep.successCount + 1) →
            ((x.retireOthers s.targetDeviceId ep.id).endpoints.get? ep.id).map (·.successCount) =
              some (ep.successCount + 1) := fun x =>
          (successCount_retireOthers x s.targetDeviceId ep.id ep.id).trans
        split_ifs
        · simp only [List.cons_append, List.nil_append, List.forall_mem_cons]
          exact ⟨trivial, trivial, hretire, trivial, trivial, trivial, List.forall_mem_nil _⟩
        · simp [CallStep.Keeps]
      · simp [ReachesCommit, Succeeds, countOperations, hfails, hselection]
    | cons ep' rows =>
      refine ⟨[.read, .change (·.connectSession env.now s.id req.candidate), .read, .raise],
        [.read], fun _ => False, ?_, .of_raise (by simp) (by simp), ?_⟩
      · simp [hselection, promotionSteps]
      · simp [ReachesCommit, Succeeds]

/-- The first commit of a failure. -/
theorem firstCommit_failure (eventBus : Bool) (e : Entropy)
    (hs : db.natSessions.get? s.id = some s) (hfails : fails 0 = false)
    (hfailure : req.success = false) (hchanges : ¬ ChangesNothing env db s req) :
    ∃ before after Inv, recordPunchSteps eventBus env e db s.id req = before ++ .commit :: after ∧
      FirstCommit db fails before after Inv ∧
      (ReachesCommit fails 0 before ↔ ¬ EndsBeforeCommit e db s req fails) := by
  simp only [ChangesNothing, hfailure, Bool.false_eq_true, if_false, not_and] at hchanges
  simp only [recordPunchSteps, hs, hfailure, failureSteps, EndsBeforeCommit, false_and, false_or,
    Bool.false_eq_true, if_false]
  have hrelay := createRelaySession_ok_iff env.now db e.rowId e.relayToken s.initiatorDeviceId
    s.targetDeviceId "default"
  by_cases hdue : 2 ≤ s.failures
  · simp only [hdue, if_true, true_and, relaySteps]
    cases hcreate : createRelaySession env.now db e.rowId e.relayToken s.initiatorDeviceId
        s.targetDeviceId with
    | error error =>
      have hmisfit : ¬ (s.PairExists db ∧ db.relaySessions.get? e.rowId = none) := by
        intro hfits
        obtain ⟨r, hr⟩ := hrelay.2 hfits
        rw [hcreate] at hr
        cases hr
      refine ⟨.read :: .change (·.setNatSession s.id (NATSession.failedWith env.now req.error)
          fun _ => rfl) :: (if eventBus then [.publish (s.punchFailed req.error)] else []) ++
            [.raise], [.read], fun _ => False, ?_, .of_raise ?_ (by simp), ?_⟩
      · simp
      · split_ifs <;> simp
      · split_ifs <;> simp [ReachesCommit, Succeeds, hmisfit]
    | ok r =>
      obtain ⟨r, db'⟩ := r
      have hfits : s.PairExists db ∧ db.relaySessions.get? e.rowId = none :=
        hrelay.1 ⟨_, hcreate⟩
      refine ⟨.read :: .change (·.setNatSession s.id (NATSession.failedWith env.now req.error)
          fun _ => rfl) :: (if eventBus then [.publish (s.punchFailed req.error)] else []) ++
            [.change (·.addRelay r)],
        .read :: (if eventBus then [.publish r.requested, .publish (s.relayFallback r)] else []) ++
          [.commit, .read],
        fun x => (x.relaySessions.get? e.rowId).isSome = true, ?_, ⟨?_, ?_, ?_, ?_⟩, ?_⟩
      · simp
      · split_ifs <;> simp
      · rintro ⟨h₀, -⟩
        have hadded := isSome_get?_addRelay hcreate
        split_ifs <;>
          simp only [List.cons_append, List.nil_append, attempt, h₀, Bool.false_eq_true,
            if_false] <;>
          exact hadded
      · split_ifs <;> simp [CallStep.Keeps]
      · simp [hfits.2]
      · split_ifs <;> simp [ReachesCommit, Succeeds, countOperations, hfails, hfits]
  · simp only [hdue, if_false, false_and, or_false]
    refine ⟨.read :: .change (·.setNatSession s.id (NATSession.failedWith env.now req.error)
        fun _ => rfl) :: if eventBus then [.publish (s.punchFailed req.error)] else [], [.read],
      (· = db.setNatSession s.id (NATSession.failedWith env.now req.error) fun _ => rfl), ?_,
      ⟨?_, ?_, by simp [CallStep.Keeps], fun h => hchanges hdue h.symm⟩, ?_⟩
    · simp
    · split_ifs <;> simp
    · rintro ⟨h₀, -⟩
      split_ifs <;> simp only [attempt, h₀, Bool.false_eq_true, if_false] <;> rfl
    · split_ifs <;> simp [ReachesCommit, Succeeds, countOperations, hfails]

/-- A call that changes nothing leaves nothing behind. -/
theorem committed_of_changesNothing (eventBus : Bool) (e : Entropy)
    (hs : db.natSessions.get? s.id = some s) (h : ChangesNothing env db s req) :
    (attemptPunch eventBus env e db fails s.id req).1.session.committed = db := by
  have hkeeps : ∀ step ∈ recordPunchSteps eventBus env e db s.id req, step.Keeps (· = db) := by
    simp only [recordPunchSteps, hs, List.forall_mem_cons, List.forall_mem_append]
    refine ⟨trivial, ?_, trivial, trivial, List.forall_mem_nil _⟩
    cases hsuccess : req.success with
    | true =>
      simp only [ChangesNothing, hsuccess, if_true] at h
      have hconnect : ∀ x, x = db → x.connectSession env.now s.id req.candidate = db := by
        rintro x rfl
        exact h.2
      have hconfig : ∀ step ∈ configSteps env db s, step.Keeps (· = db) := fun step hstep =>
        (configSteps_quiet (P := fun _ => True) env db s step hstep).2
      rw [if_pos rfl, successSteps, h.1, List.cons_append, List.forall_mem_cons,
        List.forall_mem_append]
      refine ⟨hconnect, ?_, ?_⟩
      · split_ifs <;> simp [CallStep.Keeps]
      · split_ifs
        · exact List.forall_mem_append.2 ⟨List.forall_mem_singleton.2 trivial, hconfig⟩
        · exact List.forall_mem_append.2 ⟨List.forall_mem_singleton.2 trivial,
            List.forall_mem_nil _⟩
        · exact List.forall_mem_nil _
    | false =>
      simp only [ChangesNothing, hsuccess, Bool.false_eq_true, if_false] at h
      have hfail : ∀ x, x = db →
          (x.setNatSession s.id (NATSession.failedWith env.now req.error) fun _ => rfl) = db := by
        rintro x rfl
        exact h.2
      simp only [failureSteps, h.1, if_false, Bool.false_eq_true]
      split_ifs <;> simp [CallStep.Keeps, hfail]
  exact (attempt_keeps fails hkeeps rfl).2 rfl

/-- **When a failed call that announces no success leaves nothing behind.** -/
theorem punch_rolls_back_iff (eventBus : Bool) (env : Env) (e : Entropy)
    (hs : db.natSessions.get? s.id = some s) (hfails : fails 0 = false)
    (hquiet : ¬ (eventBus = true ∧ req.success = true)) :
    ((attemptPunch eventBus env e db fails s.id req).2 = false →
      (attemptPunch eventBus env e db fails s.id req).1.session.committed = db) ↔
      Succeeds fails 0 (recordPunchSteps eventBus env e db s.id req) ∨
        EndsBeforeCommit e db s req fails ∨ ChangesNothing env db s req := by
  by_cases hchanges : ChangesNothing env db s req
  · exact iff_of_true (fun _ => committed_of_changesNothing eventBus e hs hchanges)
      (.inr (.inr hchanges))
  · obtain ⟨before, after, Inv, hsteps, hcommit, hreaches⟩ : ∃ before after Inv,
        recordPunchSteps eventBus env e db s.id req = before ++ .commit :: after ∧
          FirstCommit db fails before after Inv ∧
          (ReachesCommit fails 0 before ↔ ¬ EndsBeforeCommit e db s req fails) := by
      cases hsuccess : req.success with
      | true =>
        obtain rfl : eventBus = false := by
          rw [← Bool.not_eq_true]
          exact fun hbus => hquiet ⟨hbus, hsuccess⟩
        exact firstCommit_success e hs hfails hsuccess hchanges
      | false => exact firstCommit_failure eventBus e hs hfails hsuccess hchanges
    rw [attemptPunch, hsteps, rolls_back_iff hcommit.first hcommit.view hcommit.keeps hcommit.store,
      hreaches, not_not, or_iff_left hchanges]

/-- The call cannot leave a success half done: no operation of it fails, or the first one does; or
no success is announced, and the call ends before its first commit or has nothing to change. -/
def PunchHonest (eventBus : Bool) (env : Env) (e : Entropy) (db : Database) (fails : ℕ → Bool)
    (s : NATSession) (req : PunchResult) : Prop :=
  Succeeds fails 0 (recordPunchSteps eventBus env e db s.id req) ∨ fails 0 = true ∨
    ¬ (eventBus = true ∧ req.success = true) ∧
      (EndsBeforeCommit e db s req fails ∨ ChangesNothing env db s req)

end

/-- **Success events are true, and failed calls leave nothing behind, exactly if** no operation
fails, or one does before anything is announced and committed. -/
theorem punch_faults_iff (eventBus : Bool) (env : Env) (e : Entropy) (db : Database)
    (fails : ℕ → Bool) (id : Uuid) (req : PunchResult) :
    SuccessTrue db id req (attemptPunch eventBus env e db fails id req) ↔
      ∀ s ∈ db.natSessions.get? id, PunchHonest eventBus env e db fails s req := by
  cases hs : db.natSessions.get? id with
  | none =>
    have hsteps : recordPunchSteps eventBus env e db id req = [.read] := by
      rw [recordPunchSteps, hs]
    refine iff_of_true ?_ (by simp)
    have hcommitted : (attemptPunch eventBus env e db fails id req).1.session.committed = db :=
      committed_attempt_of_not_mem fails { session := .start db } (by simp [hsteps])
    have hnone : ¬ AnnouncesSuccess (attemptPunch eventBus env e db fails id req).1.published := by
      rintro ⟨event, hevent, -⟩
      exact forall_published fails (P := fun _ => False) (by simp [hsteps, CallStep.Publishes])
        (List.forall_mem_nil _) event hevent
    exact ⟨fun h => absurd h hnone, fun _ => ⟨hcommitted, hnone⟩⟩
  | some s =>
    obtain rfl := get?_natSessions_id hs
    simp only [Option.mem_some_iff, forall_eq', PunchHonest]
    cases hfails : fails 0 with
    | true =>
      have hcall : attemptPunch eventBus env e db fails s.id req =
          ({ session := .start db }, false) := by
        rw [attemptPunch, recordPunchSteps, attempt, if_pos hfails]
      refine iff_of_true ?_ (.inr (.inl rfl))
      rw [hcall]
      exact ⟨by simp [AnnouncesSuccess], fun _ => ⟨rfl, by simp [AnnouncesSuccess]⟩⟩
    | false =>
      rw [or_iff_right Bool.false_ne_true]
      by_cases hannounces : eventBus = true ∧ req.success = true
      · rw [or_iff_left fun h => h.1 hannounces]
        refine ⟨fun h => ?_, successTrue_of_succeeds hs⟩
        by_contra hnot
        have hfailed : (attemptPunch eventBus env e db fails s.id req).2 = false :=
          Bool.eq_false_iff.2 fun hcompletes => hnot (attempt_completes_iff.1 hcompletes)
        exact (h.rolledBack hfailed).2
          (announcesSuccess_attemptPunch hs hfails hannounces.1 hannounces.2)
      · have hquiet : ¬ AnnouncesSuccess
            (attemptPunch eventBus env e db fails s.id req).1.published :=
          not_announcesSuccess_attemptPunch hannounces
        rw [and_iff_right hannounces, ← punch_rolls_back_iff eventBus env e hs hfails hannounces]
        exact ⟨fun h hfailed => (h.rolledBack hfailed).1,
          fun h => ⟨fun hnot => absurd hnot hquiet, fun hfailed => ⟨h hfailed, hquiet⟩⟩⟩

/-- The commit of a success fails: it was announced, and the session stays as it was. -/
theorem success_announced_before_failed_commit :
    ¬ SuccessTrue (natStep punchOffice (.create 0 (Uuid.ofNat 23) (Uuid.ofNat 21) (Uuid.ofNat 22)
        none)) (Uuid.ofNat 23) { success := true }
      (attemptPunch true plainEnv punchEntropy
        (natStep punchOffice (.create 0 (Uuid.ofNat 23) (Uuid.ofNat 21) (Uuid.ofNat 22) none))
        (fun n => n = 1) (Uuid.ofNat 23) { success := true }) := by
  intro h
  obtain ⟨s, hs, hconnected, -⟩ := h.connected ⟨_, List.mem_cons_self, rfl⟩
  have hpending : ∀ s', (natStep punchOffice (.create 0 (Uuid.ofNat 23) (Uuid.ofNat 21)
      (Uuid.ofNat 22) none)).natSessions.get? (Uuid.ofNat 23) = some s' → s'.state = .pending := by
    decide
  rw [hpending s hs] at hconnected
  cases hconnected

end Midscale
