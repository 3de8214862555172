import Midscale.Api.Sessions
import Midscale.Config.InactiveDevices
import Midscale.Events.Push

/-!
# Announcing changes

What the handlers that change configurations tell others: `_publish_config_change` of
`app.api.v1.devices` and the events of `app.services.nat`, with its `_publish_config_changed`.  Both
helpers swallow every exception.

* `publishConfigChange_mainModule` : the names that the first one imports are not all there, so it
  announces nothing.
* `publishConfigChanged_eq_nil` : the second one calls a method that a configuration does not have.
* `ConfigOperation` : the five operations, with what they write and what they announce.
* `announces_changes_iff` : all changes are announced exactly if there are none.
-/

namespace Midscale

/-- What a request tells others: the events it publishes on the bus, and the messages it sends to
the sockets of devices. -/
structure Announcements where
  published : List Event := []
  sent : List (String × Json) := []

/-! ### The helper of the device endpoints -/

/-- The names that are defined in `app.main`. -/
def mainNames : List String := ["asyncio", "uuid", "asynccontextmanager", "Optional", "FastAPI",
  "status", "CORSMiddleware", "Request", "settings", "init_db", "close_db", "get_session_factory",
  "setup_logging", "auth", "networks", "devices", "acls", "dns", "ws_router", "health_router",
  "routes_router", "audit_router", "nat_router", "relay_router", "EventBus", "Event",
  "CONFIG_CHANGED", "WS_CONNECTIONS", "WS_MESSAGES_SENT", "HEALTH_CHECK", "DEVICES_ONLINE",
  "DEVICES_TOTAL", "RateLimiter", "WireGuardController", "WebSocketConnectionManager",
  "HealthChecker", "stale_endpoint_cleanup", "expire_stale_sessions", "StunServer", "RelayServer",
  "set_relay_server", "get_relay_server", "cleanup_expired_relays", "RateLimitMiddleware",
  "_wg_controller", "_event_bus", "_ws_manager", "_stun_server", "_relay_server_instance",
  "_rate_limiter_default", "_rate_limiter_auth", "_rate_limiter_register",
  "_rate_limiter_heartbeat", "_rate_limiter_websocket", "_rate_limiter_admin", "_health_checker",
  "get_wg_controller", "get_event_bus", "_update_metrics", "lifespan", "app", "health", "metrics"]

/-- The module `app.main`: the names it defines, and whether its event bus and its connection
manager are there. -/
structure MainModule where
  names : List String := mainNames
  eventBus : Bool := true
  wsManager : Bool := true

/-- `from app.main import ...`. -/
def MainModule.importNames (main : MainModule) (wanted : List String) : Except String Unit :=
  match wanted.find? (· ∉ main.names) with
  | some name => .error ("cannot import name '" ++ name ++ "' from 'app.main'")
  | none => .ok ()

/-- The event of `_publish_config_change`. -/
def configChangeEvent (device : Device) (config : DeviceConfigV2Response) (reason : String) :
    Event where
  eventType := configChanged
  data := [("device_id", .str device.id.str), ("network_id", .str device.networkId.str),
    ("revision", .str config.revision), ("hash", .str config.hash), ("reason", .str reason)]

/-- The message of `_publish_config_change` to another device of the network. -/
def configChangeMessage (peer device : Device) (config : DeviceConfigV2Response)
    (reason : String) : String × Json :=
  (peer.id.str, .obj [("type", .str configChanged), ("device_id", .str peer.id.str),
    ("network_id", .str device.networkId.str), ("revision", .str config.revision),
    ("reason", .str reason)])

section

variable (main : MainModule) (env : Env) (db : Database)

/-- `_publish_config_change`; exceptions are swallowed. -/
def publishConfigChange (device : Device) (reason : String) : Announcements :=
  match main.importNames ["get_event_bus", "get_ws_manager"] with
  | .error _ => {}
  | .ok () =>
    if main.eventBus then
      match buildConfigV2 env db device with
      | .error _ => {}
      | .ok config =>
        { published := [configChangeEvent device config reason]
          sent :=
            if main.wsManager then
              (db.devices.select fun d =>
                d.networkId = device.networkId ∧ d.isActive ∧ d.id ≠ device.id).map
                  (configChangeMessage · device config reason)
            else [] }
    else {}

/-- **The name `get_ws_manager` is not defined in `app.main`, so nothing is announced.** -/
theorem publishConfigChange_mainModule (eventBus wsManager : Bool) (device : Device)
    (reason : String) :
    publishConfigChange { eventBus := eventBus, wsManager := wsManager } env db device reason =
      {} := by
  have hmissing : MainModule.importNames { eventBus := eventBus, wsManager := wsManager }
      ["get_event_bus", "get_ws_manager"] =
        .error "cannot import name 'get_ws_manager' from 'app.main'" := by
    change (match ["get_event_bus", "get_ws_manager"].find? (· ∉ mainNames) with
      | some name => Except.error ("cannot import name '" ++ name ++ "' from 'app.main'")
      | none => .ok ()) = _
    rw [show ["get_event_bus", "get_ws_manager"].find? (· ∉ mainNames) = some "get_ws_manager"
      from by decide]
    rfl
  rw [publishConfigChange, hmissing]

end

/-! ### The events of NAT sessions -/

/-- The fields that the events of a NAT session share. -/
def NATSession.eventData (s : NATSession) : List (String × Json) :=
  [("session_id", .str s.id.str), ("initiator_device_id", .str s.initiatorDeviceId.str),
    ("target_device_id", .str s.targetDeviceId.str)]

/-- The event of `create_nat_session`. -/
def NATSession.punchRequested (s : NATSession) : Event := ⟨"nat.punch_requested", s.eventData⟩

/-- The event of `start_punch`. -/
def NATSession.punchStarted (s : NATSession) : Event := ⟨"nat.punch_started", s.eventData⟩

/-- The event of a successful punch. -/
def NATSession.punchSucceeded (s : NATSession) (req : PunchResult) : Event :=
  ⟨"nat.punch_succeeded", s.eventData ++
    [("selected_endpoint", .ofOption .str req.selectedEndpoint),
      ("selected_port", .ofOption .int req.selectedPort),
      ("latency_ms", .ofOption .int req.latencyMs)]⟩

/-- The event of a failed punch. -/
def NATSession.punchFailed (s : NATSession) (error : Option String) : Event :=
  ⟨"nat.punch_failed", s.eventData ++ [("error", .ofOption .str error)]⟩

/-- The event of a validation. -/
def NATSession.connectivityValidated (s : NATSession) (req : ConnectivityValidationRequest) :
    Event :=
  ⟨"nat.connectivity_validated", s.eventData ++
    [("reachable", .bool req.reachable), ("target_endpoint", .str req.targetEndpoint),
      ("target_port", .int req.targetPort), ("latency_ms", .ofOption .int req.latencyMs),
      ("direct_path_promoted", .bool req.reachable)]⟩

/-- The event of `create_relay_session`. -/
def RelaySession.requested (r : RelaySession) : Event :=
  ⟨"relay.requested", [("session_id", .str r.id.str),
    ("initiator_device_id", .str r.initiatorDeviceId.str),
    ("target_device_id", .str r.targetDeviceId.str), ("relay_region", .str r.relayRegion),
    ("relay_node", .str r.relayNode)]⟩

/-- The event of a relay session that a failed punch falls back to. -/
def NATSession.relayFallback (s : NATSession) (r : RelaySession) : Event :=
  ⟨"relay.fallback", [("nat_session_id", .str s.id.str), ("relay_session_id", .str r.id.str),
    ("initiator_device_id", .str s.initiatorDeviceId.str),
    ("target_device_id", .str s.targetDeviceId.str)]⟩

/-- `config.get(key, "")`: the response model has its fields as attributes, and no method `get`. -/
def DeviceConfigV2Response.callGet (_config : DeviceConfigV2Response) (_key : String) :
    Except ApiError String :=
  .error (.internal "AttributeError")

/-- The event of `_publish_config_changed`, with `ConfigChangedPayload.to_dict`. -/
def NATSession.configChangedEvent (s : NATSession) (now : Timestamp) (device : Device)
    (revision hash : String) : Event where
  eventType := configChanged
  data := [("network_id", .str device.networkId.str),
      ("reason", .str ("nat_punch_successful:" ++ s.id.str)), ("timestamp", .str now.isoformat),
      ("device_id", .str device.id.str)] ++
    (if revision ≠ "" then [("revision", .str revision)] else []) ++
    if hash ≠ "" then [("hash", .str hash)] else []

section

variable (eventBus : Bool) (env : Env) (db : Database)

/-- `_publish_config_changed`; exceptions are swallowed for each of the two devices. -/
def publishConfigChanged (s : NATSession) : List Event :=
  if eventBus then
    [s.initiatorDeviceId, s.targetDeviceId].filterMap fun deviceId =>
      (db.devices.get? deviceId).bind fun device =>
        Except.toOption do
          let config ← buildConfigV2 env db device
          let revision ← config.callGet "revision"
          let hash ← config.callGet "hash"
          Except.ok (s.configChangedEvent env.now device revision hash)
  else []

/-- **The configuration is an object and no dictionary, so nothing is published.** -/
theorem publishConfigChanged_eq_nil (s : NATSession) :
    publishConfigChanged eventBus env db s = [] := by
  unfold publishConfigChanged
  split_ifs
  · refine List.filterMap_eq_nil_iff.2 fun deviceId _ => ?_
    cases db.devices.get? deviceId with
    | none => rfl
    | some device =>
      rw [Option.bind_some]
      cases buildConfigV2 env db device <;> rfl
  · rfl

/-- The events of `request_punch`: the row has been created and started. -/
def requestPunchEvents (s : NATSession) : List Event :=
  if eventBus then [s.punchRequested, s.punchStarted] else []

/-- `selected_endpoint and selected_port`. -/
def PunchResult.hasSelection (req : PunchResult) : Bool :=
  req.selectedEndpoint.any (· ≠ "") && req.selectedPort.any (· ≠ 0)

/-- The events of `record_punch_result` on a session, with the relay session it falls back to;
`db` has the promoted endpoint. -/
def recordPunchResultEvents (s : NATSession) (relay : Option RelaySession) (req : PunchResult) :
    List Event :=
  if eventBus then
    if req.success then
      s.punchSucceeded req ::
        if req.hasSelection then publishConfigChanged eventBus env db s else []
    else
      s.punchFailed req.error ::
        match relay with
        | some r => [r.requested, s.relayFallback r]
        | none => []
  else []

/-- The events of `validate_connectivity` on a session. -/
def validateConnectivityEvents (s : NATSession) (req : ConnectivityValidationRequest) :
    List Event :=
  if eventBus then
    (if req.reachable then publishConfigChanged eventBus env db s else []) ++
      [s.connectivityValidated req]
  else []

theorem recordPunchResultEvents_type (s : NATSession) (relay : Option RelaySession)
    (req : PunchResult) :
    ∀ event ∈ recordPunchResultEvents eventBus env db s relay req,
      event.eventType ≠ configChanged := by
  unfold recordPunchResultEvents
  rw [publishConfigChanged_eq_nil, ite_self]
  intro event hevent
  split_ifs at hevent
  · rw [List.mem_singleton.1 hevent]
    exact (by decide : "nat.punch_succeeded" ≠ "config.changed")
  · rcases List.mem_cons.1 hevent with rfl | hrelay
    · exact (by decide : "nat.punch_failed" ≠ "config.changed")
    · cases relay with
      | none => cases hrelay
      | some r =>
        simp only [List.mem_cons, List.not_mem_nil, or_false] at hrelay
        rcases hrelay with rfl | rfl
        · exact (by decide : "relay.requested" ≠ "config.changed")
        · exact (by decide : "relay.fallback" ≠ "config.changed")
  · cases hevent

theorem validateConnectivityEvents_type (s : NATSession) (req : ConnectivityValidationRequest) :
    ∀ event ∈ validateConnectivityEvents eventBus env db s req,
      event.eventType ≠ configChanged := by
  unfold validateConnectivityEvents
  rw [publishConfigChanged_eq_nil, ite_self, List.nil_append]
  intro event hevent
  split_ifs at hevent
  · rw [List.mem_singleton.1 hevent]
    exact (by decide : "nat.connectivity_validated" ≠ "config.changed")
  · cases hevent

end

/-! ### The five operations -/

/-- A request that may change the configurations of devices and announces it. -/
inductive ConfigOperation where
  | reportEndpoint (token : String) (deviceId : Uuid) (req : EndpointReport)
  | probeResult (token : String) (deviceId : Uuid) (req : ProbeResultRequest)
  | revoke (token : String) (deviceId : Uuid)
  | punchResult (token sessionId : String) (req : PunchResult)
  | validate (token sessionId : String) (req : ConnectivityValidationRequest)

namespace ConfigOperation

section

variable (env : Env) (e : Entropy) (db : Database)

/-- The database after the request succeeds. -/
def handle : ConfigOperation → Except ApiError Database
  | .reportEndpoint token deviceId req =>
    Prod.snd <$> deviceReportEndpoint env e db token deviceId req
  | .probeResult token deviceId req => Prod.snd <$> deviceProbeResult env e db token deviceId req
  | .revoke token deviceId => Prod.snd <$> revokeDevice env db token deviceId
  | .punchResult token sessionId req =>
    Prod.snd <$> reportPunchResult env e db token sessionId req
  | .validate token sessionId req =>
    Prod.snd <$> reportConnectivityValidation env db token sessionId req

/-- The session that a text names. -/
def sessionOf (sessionId : String) : Option NATSession :=
  (Uuid.parse sessionId).bind db.natSessions.get?

/-- What the request announces, given the database it leads to.  The helpers run before the commit,
with the rows already written. -/
def announcements (main : MainModule) (db' : Database) : ConfigOperation → Announcements
  | .reportEndpoint token deviceId _ =>
    match getCurrentDeviceById env db deviceId token with
    | .ok current => publishConfigChange main env db' current "endpoint.updated"
    | .error _ => {}
  | .probeResult token deviceId _ =>
    match getCurrentDeviceById env db deviceId token with
    | .ok current => publishConfigChange main env db' current "endpoint.probe"
    | .error _ => {}
  | .revoke _ deviceId =>
    match db'.devices.get? deviceId with
    | some device => publishConfigChange main env db' device "device.revoked"
    | none => {}
  | .punchResult _ sessionId req =>
    match sessionOf db sessionId with
    | some s =>
      match recordPunchResult env.now db e s.id req with
      | .ok (some (_, relay), _) =>
        { published := recordPunchResultEvents main.eventBus env db' s relay req }
      | _ => {}
    | none => {}
  | .validate _ sessionId req =>
    match sessionOf db sessionId with
    | some s => { published := validateConnectivityEvents main.eventBus env db' s req }
    | none => {}

/-- The rows that configurations depend on, as the services write them: the row of the report or
the probe, the revoked device, the promoted endpoint. -/
def write : ConfigOperation → Database
  | .reportEndpoint _ deviceId req =>
    match db.endpoints.insert (req.row env.now e.rowId deviceId) with
    | some endpoints => { db with endpoints := endpoints }
    | none => db
  | .probeResult _ _ req =>
    match (Uuid.parse req.peerDeviceId).map fun peer => recordProbe env e db peer req with
    | some (.ok (_, db')) => db'
    | _ => db
  | .revoke _ deviceId => db.assign env.now deviceId (Device.revoked env.now) fun _ => rfl
  | .punchResult _ sessionId req =>
    match sessionOf db sessionId with
    | some s =>
      if req.success then
        match promoteSelected env.now db s.targetDeviceId req with
        | .ok db' => db'
        | .error _ => db
      else db
    | none => db
  | .validate _ sessionId req =>
    match sessionOf db sessionId with
    | some s =>
      if req.reachable then
        match promoteEndpoint env.now db s.targetDeviceId req.targetEndpoint req.targetPort
          req.latencyMs with
        | .ok (_, db') => db'
        | .error _ => db
      else db
    | none => db

end

end ConfigOperation

/-! ### What is to be announced -/

/-- The response without its timestamps: `last_seen_at` of candidates, the revision, the time it was
generated, and the hash, which is computed with the former. -/
def DeviceConfigV2Response.withoutTimestamps (r : DeviceConfigV2Response) :
    DeviceConfigV2Response :=
  { r with
    peers := r.peers.map fun p =>
      { p with
        endpointCandidates := p.endpointCandidates.map fun c => { c with lastSeenAt := none } }
    revision := ""
    generatedAt := ""
    hash := "" }

/-- The same error, or the same response but for timestamps. -/
def SameContent (r r' : Except ApiError DeviceConfigV2Response) : Prop :=
  r'.map (·.withoutTimestamps) = r.map (·.withoutTimestamps)

instance (r r' : Except ApiError DeviceConfigV2Response) : Decidable (SameContent r r') :=
  inferInstanceAs (Decidable (_ = _))

/-- The device was sent a `config.changed` message, or a published `config.changed` event names
it. -/
def Announcements.Reach (a : Announcements) (d : Device) : Prop :=
  (∃ message ∈ a.sent, message.1 = d.id.str ∧
    message.2.get? "type" = some (.str configChanged)) ∨
  ∃ event ∈ a.published, event.eventType = configChanged ∧
    (Json.obj event.data).get? "device_id" = some (.str d.id.str)

/-- The announcements reach every active device of a network whose configuration differs from the
one before. -/
def AnnouncesChanges (env : Env) (db db' : Database) (networkId : Uuid) (a : Announcements) :
    Prop :=
  ∀ d ∈ db.devices, ∀ d' ∈ db'.devices, d'.id = d.id → d'.isActive = true →
    d'.networkId = networkId → ¬ SameContent (buildConfigV2 env db d) (buildConfigV2 env db' d') →
      a.Reach d'

/-- The rows that the request writes leave the configuration of every active device of the network
as it is. -/
def ConfigOperation.LeavesConfigs (op : ConfigOperation) (env : Env) (e : Entropy) (db : Database)
    (networkId : Uuid) : Prop :=
  ∀ d ∈ db.devices, ∀ d' ∈ (op.write env e db).devices, d'.id = d.id → d'.isActive = true →
    d'.networkId = networkId →
      SameContent (buildConfigV2 env db d) (buildConfigV2 env (op.write env e db) d')

namespace ConfigOperation

variable {env : Env} {e : Entropy} {db db' : Database}

/-- **No operation announces a change.** -/
theorem not_reach (op : ConfigOperation) (eventBus wsManager : Bool) (d : Device) :
    ¬ (op.announcements env e db { eventBus := eventBus, wsManager := wsManager } db').Reach d := by
  have hnothing : ¬ Announcements.Reach {} d := by
    rintro (⟨_, hmem, -⟩ | ⟨_, hmem, -⟩)
    · exact absurd hmem List.not_mem_nil
    · exact absurd hmem List.not_mem_nil
  have hpublished : ∀ events : List Event, (∀ event ∈ events, event.eventType ≠ configChanged) →
      ¬ Announcements.Reach { published := events } d := by
    rintro events hevents (⟨_, hmem, -⟩ | ⟨event, hmem, htype, -⟩)
    · exact absurd hmem List.not_mem_nil
    · exact hevents event hmem htype
  cases op with
  | reportEndpoint token deviceId req =>
    simp only [announcements, publishConfigChange_mainModule]
    split <;> exact hnothing
  | probeResult token deviceId req =>
    simp only [announcements, publishConfigChange_mainModule]
    split <;> exact hnothing
  | revoke token deviceId =>
    simp only [announcements, publishConfigChange_mainModule]
    split <;> exact hnothing
  | punchResult token sessionId req =>
    simp only [announcements]
    split
    · split
      · exact hpublished _ (recordPunchResultEvents_type _ _ _ _ _ _)
      · exact hnothing
    · exact hnothing
  | validate token sessionId req =>
    simp only [announcements]
    split
    · exact hpublished _ (validateConnectivityEvents_type _ _ _ _ _)
    · exact hnothing

/-! ### What is written -/

/-- The rows that configurations depend on. -/
structure SameConfigRows (db db' : Database) : Prop where
  networks : db'.networks = db.networks
  devices : db'.devices = db.devices
  endpoints : db'.endpoints = db.endpoints
  routes : db'.routes = db.routes
  dnsEntries : db'.dnsEntries = db.dnsEntries

theorem SameConfigRows.buildConfigV2_eq (h : SameConfigRows db db') (env : Env) (d : Device) :
    buildConfigV2 env db' d = buildConfigV2 env db d := by
  obtain ⟨h₁, h₂, h₃, h₄, h₅⟩ := h
  cases db
  cases db'
  dsimp only at h₁ h₂ h₃ h₄ h₅
  subst h₁ h₂ h₃ h₄ h₅
  rfl

theorem promoteEndpoint_setNatSession (now : Timestamp) (db : Database) (id : Uuid)
    {f : NATSession → NATSession} (hf : ∀ s, (f s).id = s.id) (deviceId : Uuid) (endpoint : String)
    (port : ℤ) (latencyMs : Option ℤ) :
    promoteEndpoint now (db.setNatSession id f hf) deviceId endpoint port latencyMs =
      (fun r => (r.1, r.2.setNatSession id f hf)) <$>
        promoteEndpoint now db deviceId endpoint port latencyMs := by
  unfold promoteEndpoint
  change (scalarOneOrNone (db.promotable deviceId endpoint port) >>= _) = _
  cases scalarOneOrNone (db.promotable deviceId endpoint port) with
  | error error => rfl
  | ok found =>
    cases found with
    | none => rfl
    | some ep =>
      simp only [ok_bind]
      change Except.ok (_, ite _ _ _) = Except.ok (_, Database.setNatSession (ite _ _ _) id f hf)
      split_ifs with hpreferred hpreferred' hpreferred'
      · rfl
      · exact absurd hpreferred hpreferred'
      · exact absurd hpreferred' hpreferred
      · rfl

theorem promoteSelected_setNatSession (now : Timestamp) (db : Database) (id : Uuid)
    {f : NATSession → NATSession} (hf : ∀ s, (f s).id = s.id) (deviceId : Uuid)
    (req : PunchResult) :
    promoteSelected now (db.setNatSession id f hf) deviceId req =
      (fun db₁ : Database => db₁.setNatSession id f hf) <$>
        promoteSelected now db deviceId req := by
  unfold promoteSelected
  split
  · split_ifs
    · rw [promoteEndpoint_setNatSession]
      cases promoteEndpoint now db deviceId _ _ req.latencyMs <;> rfl
    · rfl
  · rfl

/-- The operation leads to the rows that it writes. -/
theorem sameConfigRows_write {op : ConfigOperation} (h : op.handle env e db = .ok db') :
    SameConfigRows (op.write env e db) db' := by
  cases op with
  | reportEndpoint token deviceId req =>
    obtain ⟨⟨resp, db₁⟩, hreport, rfl⟩ := map_eq_ok.1 h
    obtain ⟨current, endpoints, -, -, hinsert, rfl⟩ := deviceReportEndpoint_eq_ok hreport
    rw [write, hinsert]
    exact ⟨rfl, rfl, rfl, rfl, rfl⟩
  | probeResult token deviceId req =>
    obtain ⟨⟨resp, db₁⟩, hprobe, rfl⟩ := map_eq_ok.1 h
    simp only [deviceProbeResult, processProbeResult, bind_eq_ok, getOr_eq_ok] at hprobe
    obtain ⟨-, -, peer, hpeer, ⟨ep, db₂⟩, hrecord, hdb₂⟩ := hprobe
    cases hdb₂
    rw [write, hpeer, Option.map_some, hrecord]
    exact ⟨rfl, rfl, rfl, rfl, rfl⟩
  | revoke token deviceId =>
    obtain ⟨⟨⟨⟩, db₁⟩, hrevoke, rfl⟩ := map_eq_ok.1 h
    obtain ⟨user, d, -, -, -, rfl⟩ := revokeDevice_eq_ok hrevoke
    exact ⟨rfl, rfl, rfl, rfl, rfl⟩
  | punchResult token sessionId req =>
    obtain ⟨resp, hpunch⟩ := snd_map_eq_ok.1 h
    obtain ⟨id, _, _, hid, hrecord⟩ := reportPunchResult_eq_ok hpunch
    rcases recordPunchResult_eq_ok hrecord with ⟨-, hnone, -⟩ | ⟨s, rfl, hreport⟩
    · cases hnone
    · rw [write, sessionOf, hid, Option.bind_some]
      split_ifs at hreport with hsuccess
      · obtain ⟨-, hsession, hpromote⟩ := hreport
        obtain ⟨db₃, hwrite, rfl⟩ := map_eq_ok.1
          ((promoteSelected_setNatSession env.now db s.id _ s.targetDeviceId req).symm.trans
            hpromote)
        rw [hsession.get]
        simp only [if_pos hsuccess, hwrite]
        exact ⟨rfl, rfl, rfl, rfl, rfl⟩
      · obtain ⟨-, hsession, hendpoints⟩ := hreport
        rw [hsession.get]
        simp only [if_neg hsuccess]
        rw [hsession.others]
        exact ⟨rfl, rfl, hendpoints, rfl, rfl⟩
  | validate token sessionId req =>
    obtain ⟨resp, hvalidate⟩ := snd_map_eq_ok.1 h
    obtain ⟨id, hid, hvalidate⟩ := reportConnectivityValidation_eq_ok hvalidate
    rcases validateConnectivity_eq_ok hvalidate with ⟨hnone, rfl⟩ | ⟨s, rfl, hreport⟩
    · rw [write, sessionOf, hid, Option.bind_some, hnone]
      exact ⟨rfl, rfl, rfl, rfl, rfl⟩
    · rw [write, sessionOf, hid, Option.bind_some]
      split_ifs at hreport with hreachable
      · obtain ⟨hsession, r', hpromote⟩ := hreport
        obtain ⟨⟨r₃, db₃⟩, hwrite, hdb₃⟩ := map_eq_ok.1
          ((promoteEndpoint_setNatSession env.now db s.id _ s.targetDeviceId req.targetEndpoint
            req.targetPort req.latencyMs).symm.trans hpromote)
        rw [hsession.get]
        cases hdb₃
        simp only [if_pos hreachable, hwrite]
        exact ⟨rfl, rfl, rfl, rfl, rfl⟩
      · obtain ⟨hsession, hendpoints⟩ := hreport
        rw [hsession.get]
        simp only [if_neg hreachable]
        rw [hsession.others]
        exact ⟨rfl, rfl, hendpoints, rfl, rfl⟩

end ConfigOperation

/-- **All changes are announced exactly if there are none to announce.**  After a request that
succeeds, the announcements reach every active device of the network whose configuration differs
from the one before if and only if the rows that the request writes leave the configurations as they
are. -/
theorem announces_changes_iff {op : ConfigOperation} {env : Env} {e : Entropy} {db db' : Database}
    (h : op.handle env e db = .ok db') (eventBus wsManager : Bool) (networkId : Uuid) :
    AnnouncesChanges env db db' networkId
        (op.announcements env e db { eventBus := eventBus, wsManager := wsManager } db') ↔
      op.LeavesConfigs env e db networkId := by
  have hrows := ConfigOperation.sameConfigRows_write h
  unfold AnnouncesChanges ConfigOperation.LeavesConfigs
  rw [hrows.devices]
  refine forall₂_congr fun d _ => forall₂_congr fun d' _ => forall_congr' fun _ =>
    forall_congr' fun _ => forall_congr' fun _ => ?_
  rw [hrows.buildConfigV2_eq, imp_iff_not (op.not_reach eventBus wsManager d'), not_not]

/-- A network of two boats. -/
def marina (topology : String) (endpoints : Table DeviceEndpoint) : Database where
  networks := .ofRows [
    { id := Uuid.ofNat 80, name := "marina", subnet := "10.8.0.0/24", topology := some topology }]
    (List.nodup_singleton _)
  devices := .ofRows [
    { id := Uuid.ofNat 81, name := "sloop", networkId := Uuid.ofNat 80
      publicKey := some "key-sloop", ipAddress := some "10.8.0.2"
      deviceTokenHash := some "hash:sloop" },
    { id := Uuid.ofNat 82, name := "ketch", networkId := Uuid.ofNat 80
      publicKey := some "key-ketch", ipAddress := some "10.8.0.3"
      deviceTokenHash := some "hash:ketch" }]
    (by decide : [Uuid.ofNat 81, Uuid.ofNat 82].Nodup)
  endpoints := endpoints

/-- The sloop. -/
def sloop : Device where
  id := Uuid.ofNat 81
  name := "sloop"
  networkId := Uuid.ofNat 80
  publicKey := some "key-sloop"
  ipAddress := some "10.8.0.2"
  deviceTokenHash := some "hash:sloop"

/-- What a request of the ketch draws at random. -/
def ketchEntropy : Entropy where
  rowId := Uuid.ofNat 83
  serverId := Uuid.ofNat 84
  keyPair := ⟨"", ""⟩
  nonce := ""
  rawPrefix := ""
  secret := ""
  salt := ""
  preauthText := ""

/-- What the ketch reports. -/
def ketchReport : EndpointReport where
  endpoint := "203.0.113.9"

/-- The request of the ketch. -/
def ketchOperation : ConfigOperation := .reportEndpoint "ketch" (Uuid.ofNat 82) ketchReport

/-- The row of its report. -/
def ketchRow : DeviceEndpoint := ketchReport.row 0 (Uuid.ofNat 83) (Uuid.ofNat 82)

/-- The network with it. -/
def reportedMarina (topology : String) : Database :=
  marina topology (.ofRows [ketchRow] (List.nodup_singleton _))

theorem ketch_handled (topology : String) :
    ketchOperation.handle plainEnv ketchEntropy (marina topology .empty) =
      .ok (reportedMarina topology) :=
  rfl

/-- In a star there is nothing to announce. -/
theorem announces_changes_iff_star :
    AnnouncesChanges plainEnv (marina "star" .empty) (reportedMarina "star") (Uuid.ofNat 80)
      (ketchOperation.announcements plainEnv ketchEntropy (marina "star" .empty) {}
        (reportedMarina "star")) := by
  refine (announces_changes_iff (ketch_handled "star") true true (Uuid.ofNat 80)).2 ?_
  unfold ConfigOperation.LeavesConfigs
  decide

/-- In a mesh the ketch reports its endpoint, and nobody tells the sloop. -/
theorem report_unannounced :
    ketchOperation.handle plainEnv ketchEntropy (marina "mesh" .empty) =
      .ok (reportedMarina "mesh") ∧
    ¬ AnnouncesChanges plainEnv (marina "mesh" .empty) (reportedMarina "mesh") (Uuid.ofNat 80)
      (ketchOperation.announcements plainEnv ketchEntropy (marina "mesh" .empty) {}
        (reportedMarina "mesh")) := by
  refine ⟨ketch_handled "mesh", fun hannounced => ?_⟩
  have hdiffers : ¬ SameContent (buildConfigV2 plainEnv (marina "mesh" .empty) sloop)
      (buildConfigV2 plainEnv (reportedMarina "mesh") sloop) := by
    decide
  exact ketchOperation.not_reach true true sloop
    (hannounced sloop List.mem_cons_self sloop List.mem_cons_self rfl rfl rfl hdiffers)

end Midscale
