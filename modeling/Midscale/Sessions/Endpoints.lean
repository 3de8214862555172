import Midscale.Api.Devices

/-!
# Endpoint rows

What daemons tell about endpoints: `app.services.endpoint_scoring`, the endpoint functions of
`app.services.daemon` and the two requests of `app.api.v1.devices` that call them.  A report adds a
row for the device itself; a probe result updates or adds a row of the device it names, whichever
that is.

* `deviceReportEndpoint_eq_ok` : a report adds a row of the reporting device.
* `processProbeResult_eq_ok` : a probe result touches one row, of the device named in the body.
* `processProbeResult_changes` : what is active of that device is then something else.
-/

namespace Midscale

/-- `compute_endpoint_score`. -/
def computeEndpointScore (reachable : Bool) (latencyMs : Option ℤ) (failureCount successCount : ℤ)
    (priority : ℤ := 100) : ℤ :=
  let score := 50 + (if reachable then 100 else 0) - min priority 100 -
    (latencyMs.map (· / 10)).getD 0 - failureCount * 5 + successCount * 2
  max 0 (min score 200)

example : computeEndpointScore true (some 15) 0 1 = 51 := by decide

/-! ### Bodies and responses -/

/-- `EndpointReport`. -/
structure EndpointReport where
  endpoint : String
  source : String := "reported"
  port : ℤ := 51820
  localIp : Option String := none
  publicIp : Option String := none

/-- `ProbeResultRequest`. -/
structure ProbeResultRequest where
  peerDeviceId : String
  endpoint : String
  source : String := "probe"
  port : ℤ := 51820
  reachable : Bool := false
  latencyMs : Option ℤ := none
  localIp : Option String := none
  publicIp : Option String := none

/-- What `report_endpoint` returns. -/
structure EndpointReportResponse where
  status : String := "ok"
  endpointId : String
  recordedAt : String
  deriving DecidableEq, Repr

/-- `ProbeResultResponse`. -/
structure ProbeResultResponse where
  status : String := "ok"
  endpointId : Option String := none
  score : ℤ := 0
  preferred : Bool := false
  deriving DecidableEq, Repr

/-! ### Changes of rows -/

/-- The row that `report_endpoint` adds. -/
def EndpointReport.row (req : EndpointReport) (now : Timestamp) (id deviceId : Uuid) :
    DeviceEndpoint where
  id := id
  deviceId := deviceId
  endpoint := req.endpoint
  source := req.source
  port := req.port
  localIp := req.localIp
  publicIp := req.publicIp
  priority := 100
  lastSeen := now

/-- The row that a probe result adds. -/
def ProbeResultRequest.row (req : ProbeResultRequest) (now : Timestamp) (id deviceId : Uuid) :
    DeviceEndpoint :=
  let failureCount : ℕ := if req.reachable then 0 else 1
  let successCount : ℕ := if req.reachable then 1 else 0
  { id := id
    deviceId := deviceId
    endpoint := req.endpoint
    source := req.source
    port := req.port
    localIp := req.localIp
    publicIp := req.publicIp
    reachable := req.reachable
    latencyMs := req.latencyMs
    lastProbeAt := some now
    failureCount := failureCount
    successCount := successCount
    score := computeEndpointScore req.reachable req.latencyMs failureCount successCount
    lastSeen := now }

/-- The assignments of a probe result to an existing row. -/
def ProbeResultRequest.apply (req : ProbeResultRequest) (now : Timestamp) (ep : DeviceEndpoint) :
    DeviceEndpoint :=
  let failureCount := if req.reachable then ep.failureCount else ep.failureCount + 1
  let successCount := if req.reachable then ep.successCount + 1 else ep.successCount
  { ep with
    reachable := req.reachable
    lastProbeAt := some now
    latencyMs := req.latencyMs
    successCount := successCount
    failureCount := failureCount
    score := computeEndpointScore req.reachable req.latencyMs failureCount successCount ep.priority
    lastSeen := now }

/-- The row after `stale_endpoint_cleanup`. -/
def DeviceEndpoint.cleaned (cutoff : Timestamp) (ep : DeviceEndpoint) : DeviceEndpoint :=
  if ep.isActive ∧ ep.lastSeen < cutoff then { ep with isActive := false } else ep

theorem DeviceEndpoint.pk_cleaned (cutoff : Timestamp) (ep : DeviceEndpoint) :
    Row.pk (ep.cleaned cutoff) = Row.pk ep := by
  unfold cleaned
  split_ifs <;> rfl

/-! ### Services -/

/-- `stale_endpoint_cleanup`: the number of endpoints it makes inactive, and the database. -/
def staleEndpointCleanup (now : Timestamp) (db : Database) (maxAgeMinutes : ℤ := 30) :
    ℕ × Database :=
  let cutoff := now - Timestamp.seconds (maxAgeMinutes * 60)
  ((db.endpoints.select fun ep => ep.isActive ∧ ep.lastSeen < cutoff).length,
    { db with
      endpoints :=
        db.endpoints.map (DeviceEndpoint.cleaned cutoff) (DeviceEndpoint.pk_cleaned cutoff) })

section

variable (env : Env) (e : Entropy) (db : Database)

/-- `report_endpoint`. -/
def reportEndpoint (deviceId : Uuid) (req : EndpointReport) :
    Except ApiError (EndpointReportResponse × Database) := do
  let _ ← getOr (.http 404 "Device not found") (db.devices.get? deviceId)
  let endpoints ← db.endpoints.add (req.row env.now e.rowId deviceId)
  .ok ({ endpointId := e.rowId.str, recordedAt := env.now.isoformat },
    { db with endpoints := endpoints })

/-- The active endpoints of a device, as they are queried after a probe. -/
def Database.activeEndpoints (deviceId : Uuid) : List DeviceEndpoint :=
  db.endpoints.select fun ep => ep.deviceId = deviceId ∧ ep.isActive

/-- The row that a probe result is about, and the database with it. -/
def recordProbe (peer : Uuid) (req : ProbeResultRequest) :
    Except ApiError (DeviceEndpoint × Database) := do
  let existing ← scalarOneOrNone
    (db.endpoints.select fun ep => ep.deviceId = peer ∧ ep.endpoint = req.endpoint)
  match existing with
  | some ep =>
    .ok (req.apply env.now ep,
      { db with endpoints := db.endpoints.modify ep.id (req.apply env.now) fun _ => rfl })
  | none =>
    -- the foreign key of `device_id`
    ensure (db.devices.get? peer).isSome (.internal "IntegrityError")
    let ep := req.row env.now e.rowId peer
    let endpoints ← db.endpoints.add ep
    .ok (ep, { db with endpoints := endpoints })

/-- `process_probe_result`: the row is one of the device that the body names. -/
def processProbeResult (req : ProbeResultRequest) :
    Except ApiError (ProbeResultResponse × Database) := do
  -- a text that is no UUID fails as a query parameter
  let peer ← getOr (.internal "DataError") (Uuid.parse req.peerDeviceId)
  let (ep, db) ← recordProbe env e db peer req
  let best := selectBestEndpoint (db.activeEndpoints peer)
  .ok ({ endpointId := some ep.id.str, score := ep.score, preferred := best.any (·.id = ep.id) },
    db)

/-! ### Handlers -/

/-- `device_report_endpoint`. -/
def deviceReportEndpoint (token : String) (deviceId : Uuid) (req : EndpointReport) :
    Except ApiError (EndpointReportResponse × Database) := do
  let _ ← getCurrentDeviceById env db deviceId token
  reportEndpoint env e db deviceId req

/-- `device_probe_result`. -/
def deviceProbeResult (token : String) (deviceId : Uuid) (req : ProbeResultRequest) :
    Except ApiError (ProbeResultResponse × Database) := do
  let _ ← getCurrentDeviceById env db deviceId token
  processProbeResult env e db req

end

/-! ### What they change -/

section

variable {env : Env} {e : Entropy} {db db' : Database} {token : String} {deviceId : Uuid}

/-- **A report adds a row of the reporting device.** -/
theorem deviceReportEndpoint_eq_ok {req : EndpointReport} {resp : EndpointReportResponse}
    (h : deviceReportEndpoint env e db token deviceId req = .ok (resp, db')) :
    ∃ current endpoints, getCurrentDeviceById env db deviceId token = .ok current ∧
      (db.devices.get? deviceId).isSome = true ∧
      db.endpoints.insert (req.row env.now e.rowId deviceId) = some endpoints ∧
      db' = { db with endpoints := endpoints } := by
  simp only [deviceReportEndpoint, reportEndpoint, bind_eq_ok, getOr_eq_ok, Table.add_eq_ok] at h
  obtain ⟨current, hcurrent, d, hd, endpoints, hinsert, h⟩ := h
  cases h
  exact ⟨current, endpoints, hcurrent, by rw [hd]; rfl, hinsert, rfl⟩

/-- The rows that a probe result is looked up in. -/
def Database.probedRows (db : Database) (deviceId : Uuid) (endpoint : String) :
    List DeviceEndpoint :=
  db.endpoints.select fun ep => ep.deviceId = deviceId ∧ ep.endpoint = endpoint

theorem mem_probedRows {endpoint : String} {ep : DeviceEndpoint}
    (h : ep ∈ db.probedRows deviceId endpoint) : ep ∈ db.endpoints ∧ ep.deviceId = deviceId := by
  obtain ⟨hep, hcond⟩ := Table.mem_select.1 h
  exact ⟨hep, (of_decide_eq_true hcond).1⟩

/-- **A probe result changes or adds one row of the device that the body names.** -/
theorem processProbeResult_eq_ok {req : ProbeResultRequest} {resp : ProbeResultResponse}
    (h : processProbeResult env e db req = .ok (resp, db')) :
    ∃ peer, Uuid.parse req.peerDeviceId = some peer ∧
      ((∃ ep, db.probedRows peer req.endpoint = [ep] ∧
          db' = { db with
            endpoints := db.endpoints.modify ep.id (req.apply env.now) fun _ => rfl }) ∨
        ∃ endpoints, db.probedRows peer req.endpoint = [] ∧ (db.devices.get? peer).isSome = true ∧
          db.endpoints.insert (req.row env.now e.rowId peer) = some endpoints ∧
          db' = { db with endpoints := endpoints }) := by
  simp only [processProbeResult, recordProbe, bind_eq_ok, getOr_eq_ok] at h
  obtain ⟨peer, hpeer, ⟨ep, db₁⟩, ⟨existing, hexisting, hrecord⟩, h⟩ := h
  cases h
  refine ⟨peer, hpeer, ?_⟩
  rcases scalarOneOrNone_eq_ok.1 hexisting with ⟨hnone, rfl⟩ | ⟨row, hrow, rfl⟩
  · right
    simp only [bind_eq_ok, ensure_eq_ok, Table.add_eq_ok] at hrecord
    obtain ⟨-, hdevice, endpoints, hinsert, hrecord⟩ := hrecord
    cases hrecord
    exact ⟨endpoints, hnone, hdevice, hinsert, rfl⟩
  · left
    cases hrecord
    exact ⟨row, hrow, rfl⟩

theorem deviceProbeResult_eq_ok {req : ProbeResultRequest} {resp : ProbeResultResponse}
    (h : deviceProbeResult env e db token deviceId req = .ok (resp, db')) : ∃ current,
      getCurrentDeviceById env db deviceId token = .ok current ∧
        processProbeResult env e db req = .ok (resp, db') := by
  simp only [deviceProbeResult, bind_eq_ok] at h
  exact h

/-- A probe result writes an active row of the device: the one it has for the endpoint, or a new
one. -/
def Database.probeWrites (db : Database) (rowId deviceId : Uuid) (endpoint : String) : Bool :=
  match db.probedRows deviceId endpoint with
  | [] => (db.devices.get? deviceId).isSome && (db.endpoints.get? rowId).isNone
  | [ep] => ep.isActive
  | _ => false

theorem activeEndpoints_ne {p : Uuid} {ep : DeviceEndpoint} (hep : ep ∈ db'.endpoints)
    (hdevice : ep.deviceId = p) (hactive : ep.isActive = true) (hnew : ep ∉ db.endpoints) :
    db'.activeEndpoints p ≠ db.activeEndpoints p := by
  intro hsame
  have hmem : ep ∈ db'.activeEndpoints p :=
    Table.mem_select.2 ⟨hep, decide_eq_true ⟨hdevice, hactive⟩⟩
  rw [hsame] at hmem
  exact hnew (Table.mem_select.1 hmem).1

theorem ProbeResultRequest.apply_ne (req : ProbeResultRequest) (now : Timestamp)
    (ep : DeviceEndpoint) : req.apply now ep ≠ ep := by
  intro heq
  cases hreachable : req.reachable with
  | true =>
    have hcount := congrArg DeviceEndpoint.successCount heq
    simp [apply, hreachable] at hcount
  | false =>
    have hcount := congrArg DeviceEndpoint.failureCount heq
    simp [apply, hreachable] at hcount

theorem processProbeResult_of_record {p : Uuid} {req : ProbeResultRequest} {ep : DeviceEndpoint}
    (hp : Uuid.parse req.peerDeviceId = some p)
    (h : recordProbe env e db p req = .ok (ep, db')) :
    ∃ r, processProbeResult env e db req = .ok (r, db') := by
  rw [processProbeResult, getOr_eq_ok.2 hp, ok_bind, h]
  exact ⟨_, rfl⟩

theorem recordProbe_of_singleton (env : Env) (e : Entropy) {p : Uuid} {req : ProbeResultRequest}
    {ep : DeviceEndpoint} (h : db.probedRows p req.endpoint = [ep]) :
    recordProbe env e db p req = .ok (req.apply env.now ep, { db with
      endpoints := db.endpoints.modify ep.id (req.apply env.now) fun _ => rfl }) := by
  rw [recordProbe]
  change (scalarOneOrNone (db.probedRows p req.endpoint) >>= _) = _
  rw [h]
  rfl

theorem recordProbe_of_nil (env : Env) (e : Entropy) {p : Uuid} {req : ProbeResultRequest}
    (h : db.probedRows p req.endpoint = []) :
    recordProbe env e db p req = (do
      ensure (db.devices.get? p).isSome (.internal "IntegrityError")
      let endpoints ← db.endpoints.add (req.row env.now e.rowId p)
      .ok (req.row env.now e.rowId p, { db with endpoints := endpoints })) := by
  rw [recordProbe]
  change (scalarOneOrNone (db.probedRows p req.endpoint) >>= _) = _
  rw [h]
  rfl

/-- **A probe result that writes an active row of a device** changes what is active of that
device. -/
theorem processProbeResult_changes (env : Env) {p : Uuid} {req : ProbeResultRequest}
    (hp : Uuid.parse req.peerDeviceId = some p)
    (hwrites : db.probeWrites e.rowId p req.endpoint = true) :
    ∃ r db', processProbeResult env e db req = .ok (r, db') ∧
      db'.activeEndpoints p ≠ db.activeEndpoints p := by
  unfold Database.probeWrites at hwrites
  split at hwrites
  · rename_i hrows
    rw [Bool.and_eq_true, Option.isNone_iff_eq_none] at hwrites
    obtain ⟨hdevice, hfresh⟩ := hwrites
    obtain ⟨endpoints, hinsert⟩ :=
      Table.exists_insert_iff (r := req.row env.now e.rowId p).2 hfresh
    have hrecord : recordProbe env e db p req =
        .ok (req.row env.now e.rowId p, { db with endpoints := endpoints }) := by
      rw [recordProbe_of_nil env e hrows, ensure_of hdevice, ok_bind, Table.add_eq_ok.2 hinsert]
      rfl
    obtain ⟨r, hok⟩ := processProbeResult_of_record hp hrecord
    have hnew : req.row env.now e.rowId p ∈ endpoints := (Table.mem_insert hinsert).2 (.inr rfl)
    refine ⟨r, _, hok, activeEndpoints_ne hnew rfl rfl fun hold => ?_⟩
    exact (Table.insert_eq_some hinsert).2 _ hold rfl
  · rename_i ep hrows
    obtain ⟨hep, hdevice⟩ := mem_probedRows (hrows ▸ List.mem_singleton_self ep)
    obtain ⟨r, hok⟩ := processProbeResult_of_record hp (recordProbe_of_singleton env e hrows)
    have hnew : req.apply env.now ep ∈
        db.endpoints.modify ep.id (req.apply env.now) fun _ => rfl :=
      Table.mem_modify.2 ⟨ep, hep, if_pos rfl⟩
    refine ⟨r, _, hok, activeEndpoints_ne hnew hdevice hwrites fun hold => ?_⟩
    exact req.apply_ne env.now ep (db.endpoints.eq_of_pk hold hep rfl)
  · cases hwrites

end

end Midscale
