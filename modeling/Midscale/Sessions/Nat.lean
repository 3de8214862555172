import Midscale.Sessions.Relay

/-!
# Hole-punching sessions

`app.services.nat`: the rows of `nat_sessions`, and the endpoint of the target device that a
successful punch promotes.  Like the relay services, these functions do not ask which device is
acting.  `extra_metadata` is a plain JSON column: what is assigned to a key of a dictionary that was
loaded from it is not written back.

* `promoteEndpoint_eq_ok` : a promotion touches active endpoints of one device only.
* `recordPunchResult_eq_ok`, `validateConnectivity_eq_ok` : what the reports on one session change.
-/

namespace Midscale

/-! ### Bodies and responses -/

/-- `PunchRequest`. -/
structure PunchRequest where
  targetDeviceId : String
  initiatorEndpoint : String
  initiatorPort : ℤ := 51820

/-- `PunchResult`; its `session_id` is not used. -/
structure PunchResult where
  success : Bool
  selectedEndpoint : Option String := none
  selectedPort : Option ℤ := none
  latencyMs : Option ℤ := none
  error : Option String := none

/-- `ConnectivityValidationRequest`; its `session_id` is not used. -/
structure ConnectivityValidationRequest where
  targetEndpoint : String
  targetPort : ℤ := 51820
  reachable : Bool
  latencyMs : Option ℤ := none

/-- `ConnectivityValidationResponse`. -/
structure ConnectivityValidationResponse where
  status : String
  sessionId : String
  directPathPromoted : Bool := false
  score : ℤ := 0
  preferred : Bool := false
  deriving DecidableEq, Repr

/-- One side of a candidate pair. -/
structure PunchCandidate where
  endpoint : String
  port : ℤ
  source : String
  localIp : Option String
  publicIp : Option String
  priority : ℤ
  deriving DecidableEq, Repr

/-- A pair of endpoints to try. -/
structure CandidatePair where
  initiator : PunchCandidate
  target : PunchCandidate
  pairKey : String
  deriving DecidableEq, Repr

/-! ### Changes of rows -/

/-- `SESSION_TIMEOUT_MINUTES` after a point in time. -/
def natExpiry (now : Timestamp) : Timestamp := now + Timestamp.seconds (5 * 60)

namespace NATSession

variable (now : Timestamp)

/-- The row after a successful punch or a reachable validation. -/
def connectedBy (candidate : SelectedCandidate) (s : NATSession) : NATSession :=
  { s with
    state := .connected
    connectivityEstablished := true
    selectedCandidate := some candidate
    updatedAt := now }

/-- `failure_count` as the handling of a failure sees it: one more than in the row. -/
def failures (s : NATSession) : ℤ := (s.extraMetadata.bind (·.failureCount)).getD 0 + 1

/-- The row after a failed punch: the dictionary is written only if it was created here. -/
def failedWith (error : Option String) (s : NATSession) : NATSession :=
  { s with
    state := .failed
    extraMetadata := match s.extraMetadata with
      | some metadata => some metadata
      | none => some { error := some error, failureCount := some 1 }
    updatedAt := now }

/-- The states that `expire_stale_sessions` looks for. -/
def isOpen (s : NATSession) : Bool :=
  s.state = .pending ∨ s.state = .coordinating ∨ s.state = .punching

/-- The row after `expire_stale_sessions`. -/
def expired (s : NATSession) : NATSession :=
  if s.isOpen ∧ s.expiresAt ≤ now then { s with state := .expired, updatedAt := now } else s

end NATSession

/-- The assignments of `_promote_endpoint` to the endpoint it found. -/
def DeviceEndpoint.promoted (now : Timestamp) (latencyMs : Option ℤ) (ep : DeviceEndpoint) :
    DeviceEndpoint :=
  { ep with
    successCount := ep.successCount + 1
    reachable := true
    latencyMs := latencyMs <|> ep.latencyMs
    score :=
      if ep.score = 0 then
        computeEndpointScore true latencyMs ep.failureCount (ep.successCount + 1) ep.priority
      else min (ep.score + 30) 200
    lastProbeAt := some now }

theorem DeviceEndpoint.promoted_id (now : Timestamp) (latencyMs : Option ℤ) (ep : DeviceEndpoint) :
    (ep.promoted now latencyMs).id = ep.id := rfl

/-- An active endpoint of the device other than `keep` becomes inactive. -/
def DeviceEndpoint.retired (deviceId keep : Uuid) (ep : DeviceEndpoint) : DeviceEndpoint :=
  if ep.deviceId = deviceId ∧ ep.isActive ∧ ep.id ≠ keep then { ep with isActive := false } else ep

theorem DeviceEndpoint.retired_id (deviceId keep : Uuid) (ep : DeviceEndpoint) :
    (ep.retired deviceId keep).id = ep.id := by
  unfold retired
  split_ifs <;> rfl

/-! ### Services -/

section

variable (now : Timestamp) (db : Database)

/-- Assignments to the columns of one NAT session. -/
def Database.setNatSession (id : Uuid) (f : NATSession → NATSession)
    (hf : ∀ s, (f s).id = s.id) : Database :=
  { db with natSessions := db.natSessions.modify id f hf }

/-- The connection of a session, by a success or a reachable validation. -/
def Database.connectSession (id : Uuid) (candidate : SelectedCandidate) : Database :=
  db.setNatSession id (NATSession.connectedBy now candidate) fun _ => rfl

/-- `create_nat_session`, with the id that is drawn. -/
def createNatSession (id initiator target : Uuid) (extraMetadata : Option NATMetadata) :
    Except ApiError (NATSession × Database) := do
  ensure ((db.devices.get? initiator).isSome ∧ (db.devices.get? target).isSome)
    (.internal "IntegrityError")
  let row : NATSession :=
    { id := id
      initiatorDeviceId := initiator
      targetDeviceId := target
      extraMetadata := some (extraMetadata.getD {})
      createdAt := now
      updatedAt := now
      expiresAt := natExpiry now }
  let natSessions ← db.natSessions.add row
  .ok (row, { db with natSessions := natSessions })

/-- The row after `start_punch`. -/
def NATSession.coordinating (s : NATSession) : NATSession :=
  { s with state := .coordinating, updatedAt := now }

/-- `start_punch`: `none` when the session is not there, not pending or expired. -/
def startPunch (id : Uuid) : Option (NATSession × Database) :=
  ((db.natSessions.get? id).filter fun s => s.state = .pending ∧ now < s.expiresAt).map fun s =>
    (s.coordinating now, db.setNatSession id (NATSession.coordinating now) fun _ => rfl)

/-- `get_active_endpoints_by_device`, the highest score first. -/
def getActiveEndpointsByDevice (deviceId : Uuid) : List DeviceEndpoint :=
  (db.activeEndpoints deviceId).insertionSort fun ep ep' => ep'.score ≤ ep.score

/-- One side of a pair. -/
def DeviceEndpoint.punchCandidate (ep : DeviceEndpoint) : PunchCandidate where
  endpoint := ep.endpoint
  port := ep.port
  source := ep.source
  localIp := ep.localIp
  publicIp := ep.publicIp
  priority := ep.priority

/-- `build_candidate_pairs`. -/
def buildCandidatePairs (initiator target : Uuid) : List CandidatePair :=
  (getActiveEndpointsByDevice db initiator).flatMap fun ie =>
    (getActiveEndpointsByDevice db target).map fun te =>
      { initiator := ie.punchCandidate
        target := te.punchCandidate
        pairKey := ie.endpoint ++ ":" ++ toString ie.port ++ "->" ++ te.endpoint ++ ":" ++
          toString te.port }

/-- The endpoints that `_promote_endpoint` asks for. -/
def Database.promotable (deviceId : Uuid) (endpoint : String) (port : ℤ) : List DeviceEndpoint :=
  db.endpoints.select fun ep =>
    ep.deviceId = deviceId ∧ ep.endpoint = endpoint ∧ ep.port = port ∧ ep.isActive

/-- Makes all active endpoints of a device but one inactive. -/
def Database.retireOthers (deviceId keep : Uuid) : Database :=
  { db with
    endpoints := db.endpoints.map (DeviceEndpoint.retired deviceId keep)
      (DeviceEndpoint.retired_id deviceId keep) }

/-- `_promote_endpoint`: the new score, whether the endpoint is preferred now, and the database. -/
def promoteEndpoint (deviceId : Uuid) (endpoint : String) (port : ℤ) (latencyMs : Option ℤ) :
    Except ApiError ((ℤ × Bool) × Database) := do
  match ← scalarOneOrNone (db.promotable deviceId endpoint port) with
  | none => .ok ((0, false), db)
  | some ep =>
    let db := { db with
      endpoints := db.endpoints.modify ep.id (DeviceEndpoint.promoted now latencyMs)
        (DeviceEndpoint.promoted_id now latencyMs) }
    let best := selectBestEndpoint (getActiveEndpointsByDevice db deviceId)
    let preferred := best.any (·.id = ep.id)
    .ok (((ep.promoted now latencyMs).score, preferred),
      if preferred then db.retireOthers deviceId ep.id else db)

/-- The promotion after a successful punch, which is left out without an endpoint and a port. -/
def promoteSelected (deviceId : Uuid) (req : PunchResult) : Except ApiError Database :=
  match req.selectedEndpoint, req.selectedPort with
  | some endpoint, some port =>
    if endpoint ≠ "" ∧ port ≠ 0 then
      Prod.snd <$> promoteEndpoint now db deviceId endpoint port req.latencyMs
    else .ok db
  | _, _ => .ok db

/-- The candidate that a successful punch selects. -/
def PunchResult.candidate (req : PunchResult) : SelectedCandidate :=
  ⟨req.selectedEndpoint, req.selectedPort, req.latencyMs⟩

/-- `record_punch_result`: the session after it and the relay session it falls back to; no session
when there is none with the id. -/
def recordPunchResult (e : Entropy) (id : Uuid) (req : PunchResult) :
    Except ApiError (Option (NATSession × Option RelaySession) × Database) :=
  match db.natSessions.get? id with
  | none => .ok (none, db)
  | some s =>
    if req.success then do
      let db ← promoteSelected now (db.connectSession now id req.candidate) s.targetDeviceId req
      .ok (some (s.connectedBy now req.candidate, none), db)
    else do
      let db := db.setNatSession id (NATSession.failedWith now req.error) fun _ => rfl
      if 2 ≤ s.failures then
        let (relay, db) ← createRelaySession now db e.rowId e.relayToken s.initiatorDeviceId
          s.targetDeviceId
        .ok (some (s.failedWith now req.error, some relay), db)
      else .ok (some (s.failedWith now req.error, none), db)

/-- The candidate that a validation selects. -/
def ConnectivityValidationRequest.candidate (req : ConnectivityValidationRequest) :
    SelectedCandidate :=
  ⟨some req.targetEndpoint, some req.targetPort, req.latencyMs⟩

/-- `validate_connectivity`. -/
def validateConnectivity (id : Uuid) (req : ConnectivityValidationRequest) :
    Except ApiError (ConnectivityValidationResponse × Database) :=
  match db.natSessions.get? id with
  | none => .ok ({ status := "session_not_found", sessionId := id.str }, db)
  | some s =>
    if req.reachable then do
      let ((score, preferred), db) ← promoteEndpoint now (db.connectSession now id req.candidate)
        s.targetDeviceId req.targetEndpoint req.targetPort req.latencyMs
      .ok
        ({ status := "connected"
           sessionId := id.str
           directPathPromoted := true
           score := score
           preferred := preferred }, db)
    else
      .ok ({ status := "failed", sessionId := id.str },
        db.setNatSession id (fun s => { s with updatedAt := now }) fun _ => rfl)

/-- `expire_stale_sessions`: the number of sessions that expired, and the database. -/
def expireStaleSessions : ℕ × Database :=
  ((db.natSessions.select fun s => s.isOpen ∧ s.expiresAt ≤ now).length,
    { db with
      natSessions := db.natSessions.map (NATSession.expired now) fun s => by
        unfold NATSession.expired
        split_ifs <;> rfl })

end

/-! ### What they change -/

/-- Queries that ask for no row of the device find the same rows. -/
def SameExcept (deviceId : Uuid) (t t' : Table DeviceEndpoint) : Prop :=
  ∀ p : DeviceEndpoint → Bool, (∀ ep, ep.deviceId = deviceId → p ep = false) →
    t'.select p = t.select p

theorem SameExcept.refl (deviceId : Uuid) (t : Table DeviceEndpoint) :
    SameExcept deviceId t t := fun _ _ => rfl

theorem SameExcept.trans {deviceId : Uuid} {t t' t'' : Table DeviceEndpoint}
    (h : SameExcept deviceId t t') (h' : SameExcept deviceId t' t'') :
    SameExcept deviceId t t'' := fun p hp => (h' p hp).trans (h p hp)

theorem sameExcept_insert {t t' : Table DeviceEndpoint} {ep : DeviceEndpoint}
    (h : t.insert ep = some t') : SameExcept ep.deviceId t t' := fun _ hp =>
  Table.select_insert_of_not h (hp ep rfl)

theorem sameExcept_modify {t : Table DeviceEndpoint} {ep : DeviceEndpoint} (hep : ep ∈ t)
    {f : DeviceEndpoint → DeviceEndpoint} (hf : ∀ ep, (f ep).id = ep.id)
    (hdevice : ∀ ep, (f ep).deviceId = ep.deviceId) :
    SameExcept ep.deviceId t (t.modify ep.id f hf) := fun p hp =>
  Table.select_modify_of_not fun ep' hep' hid => by
    obtain rfl := t.eq_of_pk hep' hep hid
    exact ⟨hp _ rfl, hp _ (hdevice _)⟩

section

variable {now : Timestamp} {db db' : Database} {id deviceId : Uuid}

theorem createNatSession_eq_ok {initiator target : Uuid} {extraMetadata : Option NATMetadata}
    {s : NATSession}
    (h : createNatSession now db id initiator target extraMetadata = .ok (s, db')) :
    ∃ natSessions, s.id = id ∧ s.state = .pending ∧ s.connectivityEstablished = false ∧
      s.selectedCandidate = none ∧ db.natSessions.insert s = some natSessions ∧
      db' = { db with natSessions := natSessions } := by
  simp only [createNatSession, bind_eq_ok, Table.add_eq_ok] at h
  obtain ⟨-, -, natSessions, hinsert, h⟩ := h
  cases h
  exact ⟨natSessions, rfl, rfl, rfl, rfl, hinsert, rfl⟩

theorem createNatSession_participants {initiator target : Uuid}
    {extraMetadata : Option NATMetadata} {s : NATSession}
    (h : createNatSession now db id initiator target extraMetadata = .ok (s, db')) :
    s.initiatorDeviceId = initiator ∧ s.targetDeviceId = target := by
  simp only [createNatSession, bind_eq_ok] at h
  obtain ⟨-, -, natSessions, -, h⟩ := h
  cases h
  exact ⟨rfl, rfl⟩

theorem startPunch_eq_some {s : NATSession} (h : startPunch now db id = some (s, db')) :
    ∃ old, db.natSessions.get? id = some old ∧ old.state = .pending ∧
      s = old.coordinating now ∧
      db' = db.setNatSession id (NATSession.coordinating now) fun _ => rfl := by
  simp only [startPunch, Option.map_eq_some_iff, Option.filter_eq_some_iff, decide_eq_true_eq,
    Prod.mk.injEq] at h
  obtain ⟨old, ⟨hold, hpending, -⟩, rfl, rfl⟩ := h
  exact ⟨old, hold, hpending, rfl, rfl⟩

theorem sameExcept_retireOthers (db : Database) (deviceId keep : Uuid) :
    SameExcept deviceId db.endpoints (db.retireOthers deviceId keep).endpoints := by
  intro p hp
  refine Table.select_map_of_not (DeviceEndpoint.retired_id deviceId keep) fun ep _ hne => ?_
  unfold DeviceEndpoint.retired at hne ⊢
  split_ifs at hne ⊢ with hcond
  · exact ⟨hp _ hcond.1, hp _ hcond.1⟩
  · exact absurd rfl hne

/-- **A promotion touches endpoints of one device only**: none when no active endpoint of it has the
address and port, and else the one that has, which counts one more success. -/
theorem promoteEndpoint_eq_ok {endpoint : String} {port : ℤ} {latencyMs : Option ℤ} {r : ℤ × Bool}
    (h : promoteEndpoint now db deviceId endpoint port latencyMs = .ok (r, db')) :
    ∃ endpoints, db' = { db with endpoints := endpoints } ∧
      SameExcept deviceId db.endpoints endpoints ∧
      (db.promotable deviceId endpoint port = [] ∧ endpoints = db.endpoints ∨
        ∃ ep, db.promotable deviceId endpoint port = [ep] ∧
          endpoints.get? ep.id = some (ep.promoted now latencyMs)) := by
  simp only [promoteEndpoint, bind_eq_ok] at h
  obtain ⟨found, hfound, h⟩ := h
  rcases scalarOneOrNone_eq_ok.1 hfound with ⟨hnil, rfl⟩ | ⟨ep, hep, rfl⟩
  · cases h
    exact ⟨db.endpoints, rfl, .refl _ _, .inl ⟨hnil, rfl⟩⟩
  · have hmem : ep ∈ db.promotable deviceId endpoint port := hep ▸ List.mem_singleton_self ep
    obtain ⟨hrow, hcond⟩ := Table.mem_select.1 hmem
    obtain ⟨rfl, -⟩ := of_decide_eq_true hcond
    have hget : db.endpoints.get? ep.id = some ep := Table.get?_eq_some_iff.2 ⟨hrow, rfl⟩
    have hpromoted : (db.endpoints.modify ep.id (DeviceEndpoint.promoted now latencyMs)
        (DeviceEndpoint.promoted_id now latencyMs)).get? ep.id =
          some (ep.promoted now latencyMs) := by
      rw [Table.get?_modify, hget, Option.map_some]
      exact congrArg some (if_pos rfl)
    have hsame : SameExcept ep.deviceId db.endpoints (db.endpoints.modify ep.id
        (DeviceEndpoint.promoted now latencyMs) (DeviceEndpoint.promoted_id now latencyMs)) :=
      sameExcept_modify hrow _ fun _ => rfl
    rw [Except.ok.injEq, Prod.mk.injEq] at h
    obtain ⟨-, rfl⟩ := h
    split_ifs
    · refine ⟨_, rfl, hsame.trans (sameExcept_retireOthers _ _ _), .inr ⟨ep, hep, ?_⟩⟩
      have hkeep : (ep.promoted now latencyMs).retired ep.deviceId ep.id =
          ep.promoted now latencyMs := if_neg fun hcond => hcond.2.2 rfl
      change (Table.map _ _ _).get? ep.id = _
      rw [Table.get?_map, hpromoted, Option.map_some, hkeep]
    · exact ⟨_, rfl, hsame, .inr ⟨ep, hep, hpromoted⟩⟩

/-- The endpoints that a successful punch may promote. -/
def PunchResult.selectedRows (req : PunchResult) (db : Database) (deviceId : Uuid) :
    List DeviceEndpoint :=
  match req.selectedEndpoint, req.selectedPort with
  | some endpoint, some port =>
    if endpoint ≠ "" ∧ port ≠ 0 then db.promotable deviceId endpoint port else []
  | _, _ => []

theorem mem_promotable {deviceId : Uuid} {endpoint : String} {port : ℤ} {ep : DeviceEndpoint}
    (h : ep ∈ db.promotable deviceId endpoint port) :
    ep ∈ db.endpoints ∧ ep.deviceId = deviceId ∧ ep.isActive = true := by
  obtain ⟨hep, hcond⟩ := Table.mem_select.1 h
  obtain ⟨hdevice, -, -, hactive⟩ := of_decide_eq_true hcond
  exact ⟨hep, hdevice, hactive⟩

theorem mem_selectedRows {deviceId : Uuid} {req : PunchResult} {ep : DeviceEndpoint}
    (h : ep ∈ req.selectedRows db deviceId) :
    ep ∈ db.endpoints ∧ ep.deviceId = deviceId ∧ ep.isActive = true := by
  unfold PunchResult.selectedRows at h
  split at h
  · split_ifs at h
    · exact mem_promotable h
    · cases h
  · cases h

theorem promoteEndpoint_of_nil (now : Timestamp) {endpoint : String} {port : ℤ}
    (latencyMs : Option ℤ) (h : db.promotable deviceId endpoint port = []) :
    promoteEndpoint now db deviceId endpoint port latencyMs = .ok ((0, false), db) := by
  rw [promoteEndpoint, h]
  rfl

theorem promoteEndpoint_of_singleton (now : Timestamp) {endpoint : String} {port : ℤ}
    (latencyMs : Option ℤ) {ep : DeviceEndpoint} (h : db.promotable deviceId endpoint port = [ep]) :
    ∃ r db', promoteEndpoint now db deviceId endpoint port latencyMs = .ok (r, db') := by
  rw [promoteEndpoint, h]
  exact ⟨_, _, rfl⟩

theorem promoteEndpoint_of_many (now : Timestamp) {endpoint : String} {port : ℤ}
    (latencyMs : Option ℤ) (h : 2 ≤ (db.promotable deviceId endpoint port).length) :
    ∃ error, promoteEndpoint now db deviceId endpoint port latencyMs = .error error := by
  rw [promoteEndpoint]
  match hrows : db.promotable deviceId endpoint port, h with
  | _ :: _ :: _, _ => exact ⟨_, rfl⟩

theorem promoteSelected_cases (now : Timestamp) (db : Database) (deviceId : Uuid)
    (req : PunchResult) :
    (req.selectedRows db deviceId = [] → promoteSelected now db deviceId req = .ok db) ∧
    (∀ ep, req.selectedRows db deviceId = [ep] → ∃ db',
      promoteSelected now db deviceId req = .ok db' ∧
        db'.endpoints.get? ep.id = some (ep.promoted now req.latencyMs)) ∧
    (2 ≤ (req.selectedRows db deviceId).length → ∃ error,
      promoteSelected now db deviceId req = .error error) := by
  unfold promoteSelected PunchResult.selectedRows
  split
  · rename_i endpoint port _ _
    split_ifs
    · refine ⟨fun h => ?_, fun ep h => ?_, fun h => ?_⟩
      · rw [promoteEndpoint_of_nil now req.latencyMs h]
        rfl
      · obtain ⟨r, db', hok⟩ := promoteEndpoint_of_singleton now req.latencyMs h
        refine ⟨db', by rw [hok]; rfl, ?_⟩
        obtain ⟨endpoints, rfl, -, ⟨hnil, -⟩ | ⟨ep', hep', hget⟩⟩ := promoteEndpoint_eq_ok hok
        · rw [hnil] at h
          cases h
        · rw [h] at hep'
          cases hep'
          exact hget
      · obtain ⟨error, herror⟩ := promoteEndpoint_of_many now req.latencyMs h
        exact ⟨error, by rw [herror]; rfl⟩
    · refine ⟨fun _ => rfl, fun ep h => ?_, fun h => absurd h (by decide)⟩
      cases h
  · refine ⟨fun _ => rfl, fun ep h => ?_, fun h => absurd h (by decide)⟩
    cases h

theorem promoteSelected_eq_ok {req : PunchResult}
    (h : promoteSelected now db deviceId req = .ok db') : ∃ endpoints,
      db' = { db with endpoints := endpoints } ∧ SameExcept deviceId db.endpoints endpoints := by
  have hnone : Except.ok (ε := ApiError) db = .ok db' → ∃ endpoints,
      db' = { db with endpoints := endpoints } ∧ SameExcept deviceId db.endpoints endpoints := by
    intro h
    cases h
    exact ⟨db.endpoints, rfl, .refl _ _⟩
  unfold promoteSelected at h
  split at h
  · split_ifs at h
    · obtain ⟨⟨r, db₁⟩, hpromote, rfl⟩ := map_eq_ok.1 h
      obtain ⟨endpoints, heq, hsame, -⟩ := promoteEndpoint_eq_ok hpromote
      exact ⟨endpoints, heq, hsame⟩
    · exact hnone h
  · exact hnone h

/-- What a report on the session `s` changes: its row by `f`, endpoints of its target device, and a
relay session may be added. -/
structure SessionReport (db db' : Database) (s : NATSession) (f : NATSession → NATSession) :
    Prop where
  get : db.natSessions.get? s.id = some s
  natSessions : ∃ hf, db'.natSessions = db.natSessions.modify s.id f hf
  endpoints : SameExcept s.targetDeviceId db.endpoints db'.endpoints
  relaySessions : db'.relaySessions = db.relaySessions ∨
    ∃ r, db.relaySessions.insert r = some db'.relaySessions
  others : db' = { db with
    natSessions := db'.natSessions
    endpoints := db'.endpoints
    relaySessions := db'.relaySessions }

theorem get?_natSessions_id {s : NATSession} (h : db.natSessions.get? id = some s) : s.id = id :=
  (Table.get?_eq_some_iff.1 h).2

/-- **A report on the result of a punch**: a success promotes, a failure may add a relay session. -/
theorem recordPunchResult_eq_ok {e : Entropy} {req : PunchResult}
    {r : Option (NATSession × Option RelaySession)}
    (h : recordPunchResult now db e id req = .ok (r, db')) :
    (db.natSessions.get? id = none ∧ r = none ∧ db' = db) ∨
      ∃ s, s.id = id ∧
        if req.success then
          r = some (s.connectedBy now req.candidate, none) ∧
          SessionReport db db' s (NATSession.connectedBy now req.candidate) ∧
            promoteSelected now (db.connectSession now id req.candidate) s.targetDeviceId req =
              .ok db'
        else
          (∃ relay, r = some (s.failedWith now req.error, relay)) ∧
          SessionReport db db' s (NATSession.failedWith now req.error) ∧
            db'.endpoints = db.endpoints := by
  unfold recordPunchResult at h
  cases hs : db.natSessions.get? id with
  | none =>
    rw [hs] at h
    cases h
    exact .inl ⟨rfl, rfl, rfl⟩
  | some s =>
    right
    rw [hs] at h
    obtain rfl := get?_natSessions_id hs
    refine ⟨s, rfl, ?_⟩
    by_cases hsuccess : req.success = true
    · simp only [hsuccess, if_true, bind_eq_ok] at h ⊢
      obtain ⟨db₁, hpromote, h⟩ := h
      cases h
      refine ⟨rfl, ?_, hpromote⟩
      obtain ⟨endpoints, rfl, hsame⟩ := promoteSelected_eq_ok hpromote
      exact ⟨hs, ⟨fun _ => rfl, rfl⟩, hsame, .inl rfl, rfl⟩
    · simp only [hsuccess, Bool.false_eq_true, if_false] at h ⊢
      split_ifs at h with hfailures
      · obtain ⟨⟨relay, db₁⟩, hrelay, h⟩ := bind_eq_ok.1 h
        cases h
        obtain ⟨relaySessions, -, -, -, hinsert, rfl⟩ := createRelaySession_eq_ok hrelay
        exact ⟨⟨_, rfl⟩, ⟨hs, ⟨fun _ => rfl, rfl⟩, .refl _ _, .inr ⟨_, hinsert⟩, rfl⟩, rfl⟩
      · cases h
        exact ⟨⟨_, rfl⟩, ⟨hs, ⟨fun _ => rfl, rfl⟩, .refl _ _, .inl rfl, rfl⟩, rfl⟩

/-- **A validation of a session**: a reachable endpoint promotes. -/
theorem validateConnectivity_eq_ok {req : ConnectivityValidationRequest}
    {r : ConnectivityValidationResponse}
    (h : validateConnectivity now db id req = .ok (r, db')) :
    (db.natSessions.get? id = none ∧ db' = db) ∨
      ∃ s, s.id = id ∧
        if req.reachable then
          SessionReport db db' s (NATSession.connectedBy now req.candidate) ∧
            ∃ r', promoteEndpoint now (db.connectSession now id req.candidate) s.targetDeviceId
              req.targetEndpoint req.targetPort req.latencyMs = .ok (r', db')
        else SessionReport db db' s (fun s => { s with updatedAt := now }) ∧
            db'.endpoints = db.endpoints := by
  unfold validateConnectivity at h
  cases hs : db.natSessions.get? id with
  | none =>
    rw [hs] at h
    cases h
    exact .inl ⟨rfl, rfl⟩
  | some s =>
    right
    rw [hs] at h
    obtain rfl := get?_natSessions_id hs
    refine ⟨s, rfl, ?_⟩
    by_cases hreachable : req.reachable = true
    · simp only [hreachable, if_true, bind_eq_ok] at h ⊢
      obtain ⟨⟨⟨score, preferred⟩, db₁⟩, hpromote, h⟩ := h
      cases h
      obtain ⟨endpoints, rfl, hsame, -⟩ := promoteEndpoint_eq_ok hpromote
      exact ⟨⟨hs, ⟨fun _ => rfl, rfl⟩, hsame, .inl rfl, rfl⟩, _, hpromote⟩
    · simp only [hreachable, Bool.false_eq_true, if_false] at h ⊢
      cases h
      exact ⟨⟨hs, ⟨fun _ => rfl, rfl⟩, .refl _ _, .inl rfl, rfl⟩, rfl⟩

theorem recordPunchResult_failure_ok_iff (now : Timestamp) (e : Entropy) {req : PunchResult}
    {s : NATSession}
    (hs : db.natSessions.get? id = some s) (hfailure : req.success = false) :
    (∃ r, recordPunchResult now db e id req = .ok r) ↔ ¬ (2 ≤ s.failures ∧
      ((db.relaySessions.get? e.rowId).isSome = true ∨
        ¬ ((db.devices.get? s.initiatorDeviceId).isSome = true ∧
          (db.devices.get? s.targetDeviceId).isSome = true))) := by
  rw [recordPunchResult, hs]
  simp only [hfailure, Bool.false_eq_true, if_false]
  split_ifs with hdue
  · simp only [bind_eq_ok, hdue, true_and, not_or, not_not, Bool.not_eq_true,
      Option.isSome_eq_false_iff, Option.isNone_iff_eq_none]
    have hrelay := createRelaySession_ok_iff now
      (db.setNatSession id (NATSession.failedWith now req.error) fun _ => rfl) e.rowId e.relayToken
      s.initiatorDeviceId s.targetDeviceId "default"
    rw [and_comm]
    refine Iff.trans ⟨?_, ?_⟩ hrelay
    · rintro ⟨-, relay, hok, -⟩
      exact ⟨relay, hok⟩
    · rintro ⟨relay, hok⟩
      exact ⟨_, relay, hok, rfl⟩
  · exact iff_of_true ⟨_, rfl⟩ fun h => hdue h.1

end

end Midscale
