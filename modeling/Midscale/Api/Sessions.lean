import Midscale.Api.Routes
import Midscale.Sessions.Nat

/-!
# The requests of devices

`app.api.v1.nat` and `app.api.v1.relay`: hole-punching and relay sessions, and with them all
requests that carry a device token.  The session is taken from the path or the body.  A relay
heartbeat and the two requests that read ask whether the device takes part in the session; the
requests that write to one do not.

* `getNatSession`, `getRelaySession` : the requests that read.
* `DeviceRequest`, `serveDevice` : the requests that may write, each in its transaction.
-/

namespace Midscale

/-! ### Bodies and responses -/

/-- The response to `request_punch`. -/
structure PunchResponse where
  sessionId : String
  state : NATState
  candidates : List CandidatePair
  targetDeviceId : String
  deriving DecidableEq, Repr

/-- The response to `report_punch_result`. -/
structure PunchResultResponse where
  sessionId : String
  state : NATState
  connectivityEstablished : Bool
  deriving DecidableEq, Repr

/-- `RelaySessionRequest`. -/
structure RelaySessionRequest where
  targetDeviceId : String
  relayRegion : String := "default"

/-- `RelayConnectResponse`. -/
structure RelayConnectResponse where
  status : String
  sessionId : String
  relayEndpoint : String
  relayToken : String
  relayNode : String
  relayRegion : String
  deriving DecidableEq, Repr

/-- `RelayStatsUpdate`; its `session_id` is not used. -/
structure RelayStatsUpdate where
  bytesTx : ℤ := 0
  bytesRx : ℤ := 0

/-- The response to `update_relay_stats_endpoint`. -/
structure RelayStatsResponse where
  status : String := "ok"
  sessionId : String
  bytesTx : ℤ
  bytesRx : ℤ
  deriving DecidableEq, Repr

/-! ### Handlers -/

/-- The device is the initiator or the target. -/
def NATSession.Involves (s : NATSession) (deviceId : Uuid) : Prop :=
  deviceId = s.initiatorDeviceId ∨ deviceId = s.targetDeviceId

/-- The device is the initiator or the target. -/
def RelaySession.Involves (s : RelaySession) (deviceId : Uuid) : Prop :=
  deviceId = s.initiatorDeviceId ∨ deviceId = s.targetDeviceId

instance (s : NATSession) (deviceId : Uuid) : Decidable (s.Involves deviceId) :=
  inferInstanceAs (Decidable (_ ∨ _))

instance (s : RelaySession) (deviceId : Uuid) : Decidable (s.Involves deviceId) :=
  inferInstanceAs (Decidable (_ ∨ _))

/-- `uuid.UUID(text)` in a handler, where nobody catches the `ValueError`. -/
def uuidOf (text : String) : Except ApiError Uuid :=
  getOr (.internal "ValueError") (Uuid.parse text)

section

variable (env : Env) (e : Entropy) (db : Database) (token : String)

/-- `request_punch`.  The session that was just made is pending and not expired, so the answer 409
after its commit is not reached. -/
def requestPunch (req : PunchRequest) : Except ApiError (PunchResponse × Database) := do
  let current ← getCurrentDevice env db token
  let target ← uuidOf req.targetDeviceId
  ensure (current.id ≠ target) (.http 400 "cannot punch to self")
  let (row, db) ← createNatSession env.now db e.rowId current.id target
    (some { initiatorEndpoint := some req.initiatorEndpoint
            initiatorPort := some req.initiatorPort })
  let (started, db) ← getOr (.http 409 "session expired or already active")
    (startPunch env.now db row.id)
  .ok
    ({ sessionId := started.id.str
       state := started.state
       candidates := buildCandidatePairs db current.id target
       targetDeviceId := target.str }, db)

/-- `report_punch_result`. -/
def reportPunchResult (sessionId : String) (req : PunchResult) :
    Except ApiError (PunchResultResponse × Database) := do
  let _ ← getCurrentDevice env db token
  let id ← uuidOf sessionId
  let (result, db) ← recordPunchResult env.now db e id req
  let (s, _) ← getOr (.http 404 "NAT session not found") result
  .ok
    ({ sessionId := sessionId
       state := s.state
       connectivityEstablished := s.connectivityEstablished }, db)

/-- `report_connectivity_validation`. -/
def reportConnectivityValidation (sessionId : String) (req : ConnectivityValidationRequest) :
    Except ApiError (ConnectivityValidationResponse × Database) := do
  let _ ← getCurrentDevice env db token
  let id ← uuidOf sessionId
  validateConnectivity env.now db id req

/-- `get_session` of the NAT endpoints. -/
def getNatSession (sessionId : String) : Except ApiError NATSession := do
  let current ← getCurrentDevice env db token
  let id ← uuidOf sessionId
  let s ← getOr (.http 404 "NAT session not found") (db.natSessions.get? id)
  ensure (s.Involves current.id) (.http 403 "not a participant in this session")
  .ok s

/-- `request_relay_session`; the relay server is told the token and the id of the row. -/
def requestRelaySession (req : RelaySessionRequest) : Except ApiError (RelaySession × Database) := do
  let current ← getCurrentDevice env db token
  let target ← uuidOf req.targetDeviceId
  ensure (current.id ≠ target) (.http 400 "cannot create relay session to self")
  createRelaySession env.now db e.rowId e.relayToken current.id target req.relayRegion

/-- `connect_relay_session`; the session is named in the body. -/
def connectRelaySession (sessionId : String) :
    Except ApiError (RelayConnectResponse × Database) := do
  let _ ← getCurrentDevice env db token
  let id ← uuidOf sessionId
  let (s, db) ← getOr (.http 404 "relay session not found or not pending")
    (activateRelaySession env.now db id)
  .ok
    ({ status := "connected"
       sessionId := s.id.str
       relayEndpoint := s.relayNode ++ ":8765"
       relayToken := s.relayToken
       relayNode := s.relayNode
       relayRegion := s.relayRegion }, db)

/-- `get_relay_session`. -/
def getRelaySession (sessionId : String) : Except ApiError RelaySession := do
  let current ← getCurrentDevice env db token
  let id ← uuidOf sessionId
  let s ← getOr (.http 404 "relay session not found") (db.relaySessions.get? id)
  ensure (s.Involves current.id) (.http 403 "not a participant in this session")
  .ok s

/-- `heartbeat_relay_session`: the device whose heartbeat the relay server is told; no row
changes. -/
def heartbeatRelaySession (sessionId : String) : Except ApiError String := do
  let current ← getCurrentDevice env db token
  let id ← uuidOf sessionId
  let s ← getOr (.http 404 "relay session not found") (db.relaySessions.get? id)
  ensure (s.Involves current.id) (.http 403 "not a participant in this session")
  .ok current.id.str

/-- `update_relay_stats_endpoint`. -/
def updateRelayStatsEndpoint (sessionId : String) (req : RelayStatsUpdate) :
    Except ApiError (RelayStatsResponse × Database) := do
  let _ ← getCurrentDevice env db token
  let id ← uuidOf sessionId
  let (s, db) ← getOr (.http 404 "relay session not found")
    (updateRelayStats env.now db id req.bytesTx req.bytesRx)
  .ok ({ sessionId := sessionId, bytesTx := s.bytesTx, bytesRx := s.bytesRx }, db)

end

/-! ### What a handler that succeeds did -/

theorem uuidOf_eq_ok {text : String} {id : Uuid} :
    uuidOf text = .ok id ↔ Uuid.parse text = some id :=
  getOr_eq_ok

section

variable {env : Env} {e : Entropy} {db db' : Database} {token sessionId : String}

theorem requestPunch_eq_ok {req : PunchRequest} {r : PunchResponse}
    (h : requestPunch env e db token req = .ok (r, db')) : ∃ current target row natSessions,
      getCurrentDevice env db token = .ok current ∧ Uuid.parse req.targetDeviceId = some target ∧
      row.id = e.rowId ∧ row.initiatorDeviceId = current.id ∧ row.targetDeviceId = target ∧
      db.natSessions.insert row = some natSessions ∧
      r.candidates = buildCandidatePairs db current.id target ∧
      db' = { db with natSessions :=
        natSessions.modify e.rowId (NATSession.coordinating env.now) fun _ => rfl } := by
  simp only [requestPunch, bind_eq_ok, uuidOf_eq_ok, getOr_eq_ok] at h
  obtain ⟨current, hcurrent, target, htarget, -, -, ⟨row, db₁⟩, hcreate, hstarted⟩ := h
  obtain ⟨⟨started, db₂⟩, hstart, h⟩ := hstarted
  cases h
  obtain ⟨hinitiator, htarget'⟩ := createNatSession_participants hcreate
  obtain ⟨natSessions, hid, -, -, -, hinsert, rfl⟩ := createNatSession_eq_ok hcreate
  obtain ⟨old, -, -, -, rfl⟩ := startPunch_eq_some hstart
  rw [hid]
  exact ⟨current, target, row, natSessions, hcurrent, htarget, hid, hinitiator, htarget', hinsert,
    rfl, rfl⟩

theorem reportPunchResult_eq_ok {req : PunchResult} {r : PunchResultResponse}
    (h : reportPunchResult env e db token sessionId req = .ok (r, db')) : ∃ id s relay,
      Uuid.parse sessionId = some id ∧
        recordPunchResult env.now db e id req = .ok (some (s, relay), db') := by
  simp only [reportPunchResult, bind_eq_ok, uuidOf_eq_ok, getOr_eq_ok] at h
  obtain ⟨-, -, id, hid, ⟨_, db₁⟩, hrecord, ⟨s, relay⟩, rfl, h⟩ := h
  cases h
  exact ⟨id, s, relay, hid, hrecord⟩

theorem reportConnectivityValidation_eq_ok {req : ConnectivityValidationRequest}
    {r : ConnectivityValidationResponse}
    (h : reportConnectivityValidation env db token sessionId req = .ok (r, db')) :
    ∃ id, Uuid.parse sessionId = some id ∧
      validateConnectivity env.now db id req = .ok (r, db') := by
  simp only [reportConnectivityValidation, bind_eq_ok, uuidOf_eq_ok] at h
  obtain ⟨-, -, id, hid, hvalidate⟩ := h
  exact ⟨id, hid, hvalidate⟩

theorem requestRelaySession_eq_ok {req : RelaySessionRequest} {r : RelaySession}
    (h : requestRelaySession env e db token req = .ok (r, db')) : ∃ relaySessions,
      db.relaySessions.insert r = some relaySessions ∧
        db' = { db with relaySessions := relaySessions } := by
  simp only [requestRelaySession, bind_eq_ok] at h
  obtain ⟨_, -, _, -, -, -, hcreate⟩ := h
  obtain ⟨relaySessions, -, -, -, hinsert, rfl⟩ := createRelaySession_eq_ok hcreate
  exact ⟨relaySessions, hinsert, rfl⟩

theorem connectRelaySession_eq_ok {r : RelayConnectResponse}
    (h : connectRelaySession env db token sessionId = .ok (r, db')) : ∃ id old,
      Uuid.parse sessionId = some id ∧ db.relaySessions.get? id = some old ∧
        db' = db.setRelaySession id (RelaySession.activated env.now) fun _ => rfl := by
  simp only [connectRelaySession, bind_eq_ok, uuidOf_eq_ok, getOr_eq_ok] at h
  obtain ⟨-, -, id, hid, ⟨_, db₁⟩, hactivate, h⟩ := h
  cases h
  obtain ⟨old, hold, -, -, rfl⟩ := activateRelaySession_eq_some hactivate
  exact ⟨id, old, hid, hold, rfl⟩

theorem updateRelayStatsEndpoint_eq_ok {req : RelayStatsUpdate} {r : RelayStatsResponse}
    (h : updateRelayStatsEndpoint env db token sessionId req = .ok (r, db')) : ∃ id old,
      Uuid.parse sessionId = some id ∧ db.relaySessions.get? id = some old ∧
        db' = db.setRelaySession id (RelaySession.counted env.now req.bytesTx req.bytesRx)
          fun _ => rfl := by
  simp only [updateRelayStatsEndpoint, bind_eq_ok, uuidOf_eq_ok, getOr_eq_ok] at h
  obtain ⟨-, -, id, hid, ⟨_, db₁⟩, hstats, h⟩ := h
  cases h
  obtain ⟨old, hold, -, rfl⟩ := updateRelayStats_eq_some hstats
  exact ⟨id, old, hid, hold, rfl⟩

end

/-! ### All requests of devices -/

/-- The requests that carry a device token and may write. -/
inductive DeviceRequest where
  | heartbeat (deviceId : Uuid) (req : HeartbeatRequest)
  | reportEndpoint (deviceId : Uuid) (req : EndpointReport)
  | probeResult (deviceId : Uuid) (req : ProbeResultRequest)
  | advertiseRoute (deviceId : Uuid) (req : RouteAdvertiseRequest)
  | rotateToken (deviceId : Uuid)
  | requestPunch (req : PunchRequest)
  | punchResult (sessionId : String) (req : PunchResult)
  | validate (sessionId : String) (req : ConnectivityValidationRequest)
  | requestRelay (req : RelaySessionRequest)
  | connectRelay (sessionId : String)
  | relayHeartbeat (sessionId : String)
  | relayStats (sessionId : String) (req : RelayStatsUpdate)

/-- A request with the token it carries, the environment it is executed in and what it draws at
random. -/
structure DeviceCall where
  env : Env
  entropy : Entropy
  token : String
  request : DeviceRequest

/-- The database after the request, if it succeeds. -/
def DeviceCall.handle (c : DeviceCall) (db : Database) : Except ApiError Database :=
  match c.request with
  | .heartbeat id req => Prod.snd <$> deviceHeartbeat c.env db c.token id req
  | .reportEndpoint id req => Prod.snd <$> deviceReportEndpoint c.env c.entropy db c.token id req
  | .probeResult id req => Prod.snd <$> deviceProbeResult c.env c.entropy db c.token id req
  | .advertiseRoute id req => Prod.snd <$> deviceAdvertiseRoute c.env c.entropy db c.token id req
  | .rotateToken id => Prod.snd <$> rotateDeviceToken c.env c.entropy db c.token id
  | .requestPunch req => Prod.snd <$> requestPunch c.env c.entropy db c.token req
  | .punchResult id req => Prod.snd <$> reportPunchResult c.env c.entropy db c.token id req
  | .validate id req => Prod.snd <$> reportConnectivityValidation c.env db c.token id req
  | .requestRelay req => Prod.snd <$> requestRelaySession c.env c.entropy db c.token req
  | .connectRelay id => Prod.snd <$> connectRelaySession c.env db c.token id
  | .relayHeartbeat id => (fun _ => db) <$> heartbeatRelaySession c.env db c.token id
  | .relayStats id req => Prod.snd <$> updateRelayStatsEndpoint c.env db c.token id req

/-- A request in its transaction, which is rolled back when the request fails. -/
def serveDevice (db : Database) (c : DeviceCall) : Database :=
  match c.handle db with
  | .ok db' => db'
  | .error _ => db

/-- The device that a request is authenticated as. -/
def DeviceCall.MadeBy (c : DeviceCall) (db : Database) (d : Device) : Prop :=
  getCurrentDevice c.env db c.token = .ok d

instance (c : DeviceCall) (db : Database) (d : Device) : Decidable (c.MadeBy db d) :=
  inferInstanceAs (Decidable (getCurrentDevice c.env db c.token = .ok d))

theorem serveDevice_cases {P : Database → Prop} {db : Database} {c : DeviceCall} (hsame : P db)
    (hok : ∀ db', c.handle db = .ok db' → P db') : P (serveDevice db c) := by
  unfold serveDevice
  split
  · rename_i db' h
    exact hok db' h
  · exact hsame

theorem DeviceCall.MadeBy.mem {c : DeviceCall} {db : Database} {d : Device} (h : c.MadeBy db d) :
    d ∈ db.devices := by
  simp only [MadeBy, getCurrentDevice, bind_eq_ok, getOr_eq_ok] at h
  obtain ⟨found, hlookup, rfl⟩ := h
  exact lookupDeviceByToken_mem hlookup

end Midscale
