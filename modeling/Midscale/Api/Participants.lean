import Midscale.Api.Sessions
import Midscale.Sessions.Connectivity

/-!
# Who acts on a session

A session has an initiator and a target, and the requests that read one ask whether the device is
one of the two.  The requests that report on a session do not: every device that knows its id can
decide its state, add to its counters and promote endpoints of its target.

* `OnlyParticipants` : the request changes nothing of a session that the device takes no part in.
* `serveDevice_keepsSessions` : a request leaves the sessions alone that it does not name.
* `nat_changed_iff`, `relay_changed_iff` : when a request changes something of the session it names.
* `only_participants_iff` : **a request respects participation if and only if the device takes part
  in the session it names or the request has no effect there.**
-/

namespace Midscale

/-! ### Effects on a session -/

/-- State, flag and selected candidate. -/
def NATSession.outcome (s : NATSession) : NATState × Bool × Option SelectedCandidate :=
  (s.state, s.connectivityEstablished, s.selectedCandidate)

/-- State and byte counters. -/
def RelaySession.outcome (s : RelaySession) : RelayState × ℤ × ℤ := (s.state, s.bytesTx, s.bytesRx)

/-- The state, the flag or the selected candidate of a NAT session is another one in `db'`. -/
def NatChanged (db' : Database) (s : NATSession) : Prop :=
  (db'.natSessions.get? s.id).map NATSession.outcome ≠ some s.outcome

/-- The state or a counter of a relay session is another one in `db'`. -/
def RelayChanged (db' : Database) (s : RelaySession) : Prop :=
  (db'.relaySessions.get? s.id).map RelaySession.outcome ≠ some s.outcome

/-- The endpoint rows of a device are others. -/
def EndpointsChanged (db db' : Database) (deviceId : Uuid) : Prop :=
  db'.endpoints.select (fun ep => ep.deviceId = deviceId) ≠
    db.endpoints.select fun ep => ep.deviceId = deviceId

/-- The NAT session that a request reports on. -/
def DeviceRequest.natSession? : DeviceRequest → Option Uuid
  | .punchResult sessionId _ | .validate sessionId _ => Uuid.parse sessionId
  | _ => none

/-- The relay session that a request is about. -/
def DeviceRequest.relaySession? : DeviceRequest → Option Uuid
  | .connectRelay sessionId | .relayHeartbeat sessionId | .relayStats sessionId _ =>
    Uuid.parse sessionId
  | _ => none

/-- Of every session that the request changes, or whose target's endpoints it changes as the session
it names, the device is the initiator or the target. -/
def OnlyParticipants (c : DeviceCall) (db : Database) (deviceId : Uuid) : Prop :=
  (∀ s ∈ db.natSessions, NatChanged (serveDevice db c) s ∨ c.request.natSession? = some s.id ∧
      EndpointsChanged db (serveDevice db c) s.targetDeviceId → s.Involves deviceId) ∧
  ∀ s ∈ db.relaySessions, RelayChanged (serveDevice db c) s ∨ c.request.relaySession? = some s.id ∧
      EndpointsChanged db (serveDevice db c) s.targetDeviceId → s.Involves deviceId

/-! ### Requests without effect -/

/-- A success with the candidate has no effect: it fails because several active endpoints match, or
none does and the session has the outcome already. -/
def NATSession.SuccessIdle (s : NATSession) (rows : List DeviceEndpoint)
    (candidate : SelectedCandidate) : Prop :=
  2 ≤ rows.length ∨ rows = [] ∧ s.outcome = (.connected, true, some candidate)

/-- A failure has no effect: the session has failed already, or the relay session that is due cannot
be added. -/
def NATSession.FailureIdle (s : NATSession) (db : Database) (relayId : Uuid) : Prop :=
  s.state = .failed ∨ 2 ≤ s.failures ∧
    ((db.relaySessions.get? relayId).isSome = true ∨
      ¬ ((db.devices.get? s.initiatorDeviceId).isSome = true ∧
        (db.devices.get? s.targetDeviceId).isSome = true))

/-- The request has no effect on the NAT session it names. -/
def DeviceCall.NatIdle (c : DeviceCall) (db : Database) (s : NATSession) : Prop :=
  match c.request with
  | .punchResult _ req =>
    if req.success then s.SuccessIdle (req.selectedRows db s.targetDeviceId) req.candidate
    else s.FailureIdle db c.entropy.rowId
  | .validate _ req =>
    req.reachable = true →
      s.SuccessIdle (db.promotable s.targetDeviceId req.targetEndpoint req.targetPort) req.candidate
  | _ => True

/-- The request has no effect on the relay session it names. -/
def DeviceCall.RelayIdle (c : DeviceCall) (s : RelaySession) : Prop :=
  match c.request with
  | .connectRelay _ => s.state ≠ .pending
  | .relayStats _ req => req.bytesTx = 0 ∧ req.bytesRx = 0
  | _ => True

/-! ### What stays -/

section

variable {c : DeviceCall} {db db' : Database} {d : Device}

theorem not_natChanged_of_get? {s : NATSession} (h : db'.natSessions.get? s.id = some s) :
    ¬ NatChanged db' s := by
  rw [NatChanged, h]
  exact not_not_intro rfl

theorem not_relayChanged_of_get? {s : RelaySession} (h : db'.relaySessions.get? s.id = some s) :
    ¬ RelayChanged db' s := by
  rw [RelayChanged, h]
  exact not_not_intro rfl

theorem get?_insert_mem {ρ : Type} [Row ρ Uuid] {t t' : Table ρ} {r s : ρ}
    (h : t.insert r = some t') (hs : s ∈ t) : t'.get? (Row.pk s) = some s := by
  rw [Table.get?_insert h, if_neg fun heq => (Table.insert_eq_some h).2 s hs heq.symm]
  exact Table.get?_eq_some_iff.2 ⟨hs, rfl⟩

theorem get?_modify_mem {ρ : Type} [Row ρ Uuid] {t : Table ρ} {k : Uuid} {f : ρ → ρ}
    (hf : ∀ r, Row.pk (f r) = Row.pk r) {s : ρ} (hs : s ∈ t) (hne : Row.pk s ≠ k) :
    (t.modify k f hf).get? (Row.pk s) = some s := by
  rw [Table.get?_modify, Table.get?_eq_some_iff.2 ⟨hs, rfl⟩, Option.map_some, if_neg hne]

/-- The sessions of `db` are in `db'` as they were, but for the two named ones. -/
structure KeepsSessions (db db' : Database) (nat relay : Option Uuid) : Prop where
  nat : ∀ s ∈ db.natSessions, nat ≠ some s.id → db'.natSessions.get? s.id = some s
  relay : ∀ s ∈ db.relaySessions, relay ≠ some s.id → db'.relaySessions.get? s.id = some s

theorem KeepsSessions.of_eq {nat relay : Option Uuid} (hnat : db'.natSessions = db.natSessions)
    (hrelay : db'.relaySessions = db.relaySessions) : KeepsSessions db db' nat relay where
  nat s hs _ := by rw [hnat]; exact Table.get?_eq_some_iff.2 ⟨hs, rfl⟩
  relay s hs _ := by rw [hrelay]; exact Table.get?_eq_some_iff.2 ⟨hs, rfl⟩

theorem SessionReport.keepsSessions {s : NATSession} {f : NATSession → NATSession}
    (h : SessionReport db db' s f) : KeepsSessions db db' (some s.id) none where
  nat s' hs' hne := by
    obtain ⟨hf, hnat⟩ := h.natSessions
    rw [hnat]
    exact get?_modify_mem hf hs' fun heq => hne (congrArg some heq.symm)
  relay s' hs' _ := by
    rcases h.relaySessions with heq | ⟨r, hr⟩
    · rw [heq]
      exact Table.get?_eq_some_iff.2 ⟨hs', rfl⟩
    · exact get?_insert_mem hr hs'

theorem keepsSessions_setRelaySession (db : Database) (id : Uuid) {f : RelaySession → RelaySession}
    (hf : ∀ s, (f s).id = s.id) : KeepsSessions db (db.setRelaySession id f hf) none (some id) where
  nat _ hs _ := Table.get?_eq_some_iff.2 ⟨hs, rfl⟩
  relay _ hs hne := get?_modify_mem hf hs fun heq => hne (congrArg some heq.symm)

theorem requestPunch_keepsSessions {env : Env} {e : Entropy} {token : String} {req : PunchRequest}
    {r : PunchResponse} (h : requestPunch env e db token req = .ok (r, db')) :
    KeepsSessions db db' none none := by
  obtain ⟨_, _, row, _, -, -, hid, -, -, hinsert, -, rfl⟩ := requestPunch_eq_ok h
  refine ⟨fun s hs _ => ?_, fun s hs _ => Table.get?_eq_some_iff.2 ⟨hs, rfl⟩⟩
  -- the session that starts is the new one
  exact get?_modify_mem (f := NATSession.coordinating env.now) (fun _ => rfl)
    ((Table.mem_insert hinsert).2 (.inl hs))
    (hid ▸ (Table.insert_eq_some hinsert).2 s hs)

/-- **A request leaves the sessions alone that it does not name.** -/
theorem DeviceCall.handle_keepsSessions (h : c.handle db = .ok db') :
    KeepsSessions db db' c.request.natSession? c.request.relaySession? := by
  rcases c with ⟨env, e, token, request⟩
  cases request with
  | heartbeat id req =>
    obtain ⟨r, hok⟩ := snd_map_eq_ok.1 h
    obtain ⟨_, -, rfl⟩ := deviceHeartbeat_eq_ok hok
    exact .of_eq rfl rfl
  | reportEndpoint id req =>
    obtain ⟨⟨r, db₁⟩, hok, rfl⟩ := map_eq_ok.1 h
    obtain ⟨-, endpoints, -, -, -, rfl⟩ := deviceReportEndpoint_eq_ok hok
    exact .of_eq rfl rfl
  | probeResult id req =>
    obtain ⟨r, hok⟩ := snd_map_eq_ok.1 h
    obtain ⟨_, -, hok⟩ := deviceProbeResult_eq_ok hok
    obtain ⟨peer, -, ⟨ep, -, rfl⟩ | ⟨endpoints, -, -, -, rfl⟩⟩ := processProbeResult_eq_ok hok
    · exact .of_eq rfl rfl
    · exact .of_eq rfl rfl
  | advertiseRoute id req =>
    obtain ⟨⟨r, db₁⟩, hok, rfl⟩ := map_eq_ok.1 h
    obtain ⟨-, routes, -, -, -, -, rfl⟩ := deviceAdvertiseRoute_eq_ok hok
    exact .of_eq rfl rfl
  | rotateToken id =>
    obtain ⟨r, hok⟩ := snd_map_eq_ok.1 h
    obtain ⟨_, -, -, -, rfl⟩ := rotateDeviceToken_eq_ok hok
    exact .of_eq rfl rfl
  | requestPunch req =>
    obtain ⟨⟨r, db₁⟩, hok, rfl⟩ := map_eq_ok.1 h
    exact requestPunch_keepsSessions hok
  | punchResult sessionId req =>
    obtain ⟨r, hok⟩ := snd_map_eq_ok.1 h
    obtain ⟨id, _, _, hid, hrecord⟩ := reportPunchResult_eq_ok hok
    simp only [DeviceRequest.natSession?, DeviceRequest.relaySession?, hid]
    rcases recordPunchResult_eq_ok hrecord with ⟨-, -, rfl⟩ | ⟨s, rfl, hreport⟩
    · exact .of_eq rfl rfl
    · split_ifs at hreport
      · exact hreport.2.1.keepsSessions
      · exact hreport.2.1.keepsSessions
  | validate sessionId req =>
    obtain ⟨r, hok⟩ := snd_map_eq_ok.1 h
    obtain ⟨id, hid, hvalidate⟩ := reportConnectivityValidation_eq_ok hok
    simp only [DeviceRequest.natSession?, DeviceRequest.relaySession?, hid]
    rcases validateConnectivity_eq_ok hvalidate with ⟨-, rfl⟩ | ⟨s, rfl, hreport⟩
    · exact .of_eq rfl rfl
    · split_ifs at hreport
      · exact hreport.1.keepsSessions
      · exact hreport.1.keepsSessions
  | requestRelay req =>
    obtain ⟨r, hok⟩ := snd_map_eq_ok.1 h
    obtain ⟨relaySessions, hinsert, rfl⟩ := requestRelaySession_eq_ok hok
    exact ⟨fun s hs _ => Table.get?_eq_some_iff.2 ⟨hs, rfl⟩,
      fun s hs _ => get?_insert_mem hinsert hs⟩
  | connectRelay sessionId =>
    obtain ⟨r, hok⟩ := snd_map_eq_ok.1 h
    obtain ⟨id, _, hid, -, rfl⟩ := connectRelaySession_eq_ok hok
    simp only [DeviceRequest.natSession?, DeviceRequest.relaySession?, hid]
    exact keepsSessions_setRelaySession db id _
  | relayHeartbeat sessionId =>
    obtain ⟨-, -, rfl⟩ := map_eq_ok.1 h
    exact .of_eq rfl rfl
  | relayStats sessionId req =>
    obtain ⟨r, hok⟩ := snd_map_eq_ok.1 h
    obtain ⟨id, _, hid, -, rfl⟩ := updateRelayStatsEndpoint_eq_ok hok
    simp only [DeviceRequest.natSession?, DeviceRequest.relaySession?, hid]
    exact keepsSessions_setRelaySession db id _

theorem serveDevice_keepsSessions (db : Database) (c : DeviceCall) :
    KeepsSessions db (serveDevice db c) c.request.natSession? c.request.relaySession? :=
  serveDevice_cases (.of_eq rfl rfl) fun _ h => c.handle_keepsSessions h

/-! ### What changes -/

theorem natChanged_iff {s : NATSession} {f : NATSession → NATSession}
    (h : SessionReport db db' s f) : NatChanged db' s ↔ (f s).outcome ≠ s.outcome := by
  obtain ⟨hf, hnat⟩ := h.natSessions
  have hget : db'.natSessions.get? s.id = some (f s) := by
    rw [hnat, Table.get?_modify, h.get, Option.map_some]
    exact congrArg some (if_pos rfl)
  rw [NatChanged, hget, Option.map_some, ne_eq, Option.some.injEq]

theorem not_endpointsChanged {deviceId : Uuid} (h : db'.endpoints = db.endpoints) :
    ¬ EndpointsChanged db db' deviceId := by
  rw [EndpointsChanged, h]
  exact not_not_intro rfl

theorem endpointsChanged_of_promoted {now : Timestamp} {latencyMs : Option ℤ} {ep : DeviceEndpoint}
    (hep : ep ∈ db.endpoints) (h : db'.endpoints.get? ep.id = some (ep.promoted now latencyMs)) :
    EndpointsChanged db db' ep.deviceId := by
  intro hsame
  have hnew : ep.promoted now latencyMs ∈
      db'.endpoints.select fun ep' => ep'.deviceId = ep.deviceId :=
    Table.mem_select.2 ⟨(Table.get?_eq_some_iff.1 h).1, decide_eq_true rfl⟩
  rw [hsame] at hnew
  have heq := db.endpoints.eq_of_pk (Table.mem_select.1 hnew).1 hep rfl
  have hcount := congrArg DeviceEndpoint.successCount heq
  exact absurd hcount (Nat.succ_ne_self _)

/-- What a success does: the report fails when several endpoints match, promotes one that matches,
and else writes the session alone. -/
structure SuccessReport (db db' : Database) (s : NATSession) (now : Timestamp)
    (candidate : SelectedCandidate) (latencyMs : Option ℤ) (rows : List DeviceEndpoint) : Prop where
  none : rows = [] → SessionReport db db' s (NATSession.connectedBy now candidate) ∧
    db'.endpoints = db.endpoints
  one : ∀ ep, rows = [ep] → ep ∈ db.endpoints ∧ ep.deviceId = s.targetDeviceId ∧
    db'.endpoints.get? ep.id = some (ep.promoted now latencyMs)
  many : 2 ≤ rows.length → db' = db

/-- **When a success changes something.** -/
theorem SuccessReport.changed_iff {s : NATSession} {now : Timestamp} {candidate : SelectedCandidate}
    {latencyMs : Option ℤ} {rows : List DeviceEndpoint}
    (h : SuccessReport db db' s now candidate latencyMs rows)
    (hs : db.natSessions.get? s.id = some s) :
    NatChanged db' s ∨ EndpointsChanged db db' s.targetDeviceId ↔
      ¬ s.SuccessIdle rows candidate := by
  match rows with
  | [] =>
    obtain ⟨hreport, hendpoints⟩ := h.none rfl
    rw [natChanged_iff hreport, or_iff_left (not_endpointsChanged hendpoints)]
    have houtcome : (s.connectedBy now candidate).outcome =
        (.connected, true, some candidate) := rfl
    simp [houtcome, NATSession.SuccessIdle, eq_comm]
  | [ep] =>
    obtain ⟨hep, hdevice, hget⟩ := h.one ep rfl
    have hchanged := endpointsChanged_of_promoted hep hget
    rw [hdevice] at hchanged
    simp [hchanged, NATSession.SuccessIdle]
  | ep :: ep' :: eps =>
    have hlength : 2 ≤ (ep :: ep' :: eps).length := by simp
    rw [h.many hlength]
    refine iff_of_false ?_ (not_not_intro (.inl hlength))
    rintro (h | h)
    · exact not_natChanged_of_get? hs h
    · exact not_endpointsChanged rfl h

theorem serveDevice_punchResult {sessionId : String} {req : PunchResult} {s : NATSession}
    (hmade : c.MadeBy db d) (hreq : c.request = .punchResult sessionId req)
    (hid : Uuid.parse sessionId = some s.id) (hs : db.natSessions.get? s.id = some s) :
    serveDevice db c = match recordPunchResult c.env.now db c.entropy s.id req with
      | .ok (_, db') => db'
      | .error _ => db := by
  have hmade : getCurrentDevice c.env db c.token = .ok d := hmade
  cases hrecord : recordPunchResult c.env.now db c.entropy s.id req with
  | error e =>
    simp only [serveDevice, DeviceCall.handle, hreq, reportPunchResult, hmade, ok_bind,
      uuidOf_eq_ok.2 hid, hrecord]
    rfl
  | ok result =>
    obtain ⟨r, db'⟩ := result
    have hsome : ∃ found, r = some found := by
      rcases recordPunchResult_eq_ok hrecord with ⟨hnone, -⟩ | ⟨s', -, hreport⟩
      · rw [hs] at hnone
        cases hnone
      · split_ifs at hreport
        · exact ⟨_, hreport.1⟩
        · obtain ⟨relay, hr⟩ := hreport.1
          exact ⟨_, hr⟩
    obtain ⟨found, rfl⟩ := hsome
    simp only [serveDevice, DeviceCall.handle, hreq, reportPunchResult, hmade, ok_bind,
      uuidOf_eq_ok.2 hid, hrecord]
    rfl

theorem serveDevice_validate {sessionId : String} {req : ConnectivityValidationRequest}
    {s : NATSession} (hmade : c.MadeBy db d) (hreq : c.request = .validate sessionId req)
    (hid : Uuid.parse sessionId = some s.id) :
    serveDevice db c = match validateConnectivity c.env.now db s.id req with
      | .ok (_, db') => db'
      | .error _ => db := by
  have hmade : getCurrentDevice c.env db c.token = .ok d := hmade
  simp only [serveDevice, DeviceCall.handle, hreq, reportConnectivityValidation, hmade, ok_bind,
    uuidOf_eq_ok.2 hid]
  cases validateConnectivity c.env.now db s.id req <;> rfl

theorem sessionReport_set {s : NATSession} (hs : db.natSessions.get? s.id = some s)
    {f : NATSession → NATSession} (hf : ∀ s, (f s).id = s.id) :
    SessionReport db (db.setNatSession s.id f hf) s f :=
  ⟨hs, ⟨hf, rfl⟩, .refl _ _, .inl rfl, rfl⟩

theorem serveDevice_punchSuccess {sessionId : String} {req : PunchResult} {s : NATSession}
    (hmade : c.MadeBy db d) (hreq : c.request = .punchResult sessionId req)
    (hid : Uuid.parse sessionId = some s.id) (hs : db.natSessions.get? s.id = some s)
    (hsuccess : req.success = true) :
    SuccessReport db (serveDevice db c) s c.env.now req.candidate req.latencyMs
      (req.selectedRows db s.targetDeviceId) := by
  have hserve := serveDevice_punchResult hmade hreq hid hs
  have hrecord : recordPunchResult c.env.now db c.entropy s.id req =
      (promoteSelected c.env.now (db.connectSession c.env.now s.id req.candidate) s.targetDeviceId
          req >>=
          fun db' => .ok (some (s.connectedBy c.env.now req.candidate, none), db')) := by
    rw [recordPunchResult, hs]
    simp only [hsuccess, if_true]
  obtain ⟨hnone, hone, hmany⟩ := promoteSelected_cases c.env.now
    (db.connectSession c.env.now s.id req.candidate) s.targetDeviceId req
  constructor
  · intro hnil
    rw [hserve, hrecord, hnone hnil]
    exact ⟨sessionReport_set hs _, rfl⟩
  · intro ep hep
    obtain ⟨hmem, hdevice, -⟩ := mem_selectedRows (hep ▸ List.mem_singleton_self ep)
    obtain ⟨db', hok, hget⟩ := hone ep hep
    rw [hserve, hrecord, hok]
    exact ⟨hmem, hdevice, hget⟩
  · intro h
    obtain ⟨error, herror⟩ := hmany h
    rw [hserve, hrecord, herror]
    rfl

theorem punchFailure_changed_iff {sessionId : String} {req : PunchResult} {s : NATSession}
    (hmade : c.MadeBy db d) (hreq : c.request = .punchResult sessionId req)
    (hid : Uuid.parse sessionId = some s.id) (hs : db.natSessions.get? s.id = some s)
    (hfailure : req.success = false) :
    NatChanged (serveDevice db c) s ∨ EndpointsChanged db (serveDevice db c) s.targetDeviceId ↔
      ¬ s.FailureIdle db c.entropy.rowId := by
  have hserve := serveDevice_punchResult hmade hreq hid hs
  have hok_iff := recordPunchResult_failure_ok_iff c.env.now c.entropy hs hfailure
  cases hrecord : recordPunchResult c.env.now db c.entropy s.id req with
  | error error =>
    rw [hrecord] at hserve hok_iff
    rw [hserve]
    refine iff_of_false ?_ (not_not_intro (.inr ?_))
    · rintro (h | h)
      · exact not_natChanged_of_get? hs h
      · exact not_endpointsChanged rfl h
    · by_contra hfits
      obtain ⟨r, hr⟩ := hok_iff.2 hfits
      cases hr
  | ok result =>
    obtain ⟨r, db'⟩ := result
    have hfits := hok_iff.1 ⟨_, hrecord⟩
    rw [hrecord] at hserve
    rw [hserve]
    rcases recordPunchResult_eq_ok hrecord with ⟨hnone, -⟩ | ⟨s', hs', hreport⟩
    · rw [hs] at hnone
      cases hnone
    · rw [if_neg (by simp [hfailure])] at hreport
      obtain ⟨-, hreport, hendpoints⟩ := hreport
      obtain rfl : s' = s := by
        have hget := hreport.get
        rw [hs', hs, Option.some.injEq] at hget
        exact hget.symm
      rw [natChanged_iff hreport, or_iff_left (not_endpointsChanged hendpoints),
        NATSession.FailureIdle, or_iff_left hfits]
      simp [NATSession.outcome, NATSession.failedWith, eq_comm]

theorem serveDevice_reachable {sessionId : String} {req : ConnectivityValidationRequest}
    {s : NATSession} (hmade : c.MadeBy db d) (hreq : c.request = .validate sessionId req)
    (hid : Uuid.parse sessionId = some s.id) (hs : db.natSessions.get? s.id = some s)
    (hreachable : req.reachable = true) :
    SuccessReport db (serveDevice db c) s c.env.now req.candidate req.latencyMs
      (db.promotable s.targetDeviceId req.targetEndpoint req.targetPort) := by
  have hserve := serveDevice_validate hmade hreq hid
  have hvalidate : validateConnectivity c.env.now db s.id req =
      (promoteEndpoint c.env.now (db.connectSession c.env.now s.id req.candidate)
        s.targetDeviceId req.targetEndpoint req.targetPort req.latencyMs >>= fun r => .ok
            ({ status := "connected"
               sessionId := s.id.str
               directPathPromoted := true
               score := r.1.1
               preferred := r.1.2 }, r.2)) := by
    rw [validateConnectivity, hs]
    simp only [hreachable, if_true]
  have hrows : (db.connectSession c.env.now s.id req.candidate).promotable s.targetDeviceId
      req.targetEndpoint req.targetPort =
        db.promotable s.targetDeviceId req.targetEndpoint req.targetPort := rfl
  constructor
  · intro hnil
    rw [hserve, hvalidate, promoteEndpoint_of_nil c.env.now req.latencyMs (hrows.trans hnil)]
    exact ⟨sessionReport_set hs _, rfl⟩
  · intro ep hep
    obtain ⟨hmem, hdevice, -⟩ := mem_promotable (hep ▸ List.mem_singleton_self ep)
    obtain ⟨r, db', hok⟩ := promoteEndpoint_of_singleton c.env.now req.latencyMs
      (hrows.trans hep)
    refine ⟨hmem, hdevice, ?_⟩
    rw [hserve, hvalidate, hok]
    obtain ⟨endpoints, rfl, -, ⟨hnil, -⟩ | ⟨ep', hep', hget⟩⟩ := promoteEndpoint_eq_ok hok
    · cases hep.symm.trans hnil
    · cases hep.symm.trans hep'
      exact hget
  · intro h
    obtain ⟨error, herror⟩ := promoteEndpoint_of_many c.env.now req.latencyMs
      (h.trans_eq (congrArg List.length hrows.symm))
    rw [hserve, hvalidate, herror]
    rfl

theorem validate_changed_iff {sessionId : String} {req : ConnectivityValidationRequest}
    {s : NATSession} (hmade : c.MadeBy db d) (hreq : c.request = .validate sessionId req)
    (hid : Uuid.parse sessionId = some s.id) (hs : db.natSessions.get? s.id = some s) :
    NatChanged (serveDevice db c) s ∨ EndpointsChanged db (serveDevice db c) s.targetDeviceId ↔
      ¬ (req.reachable = true → s.SuccessIdle
        (db.promotable s.targetDeviceId req.targetEndpoint req.targetPort) req.candidate) := by
  by_cases hreachable : req.reachable = true
  · rw [forall_prop_of_true hreachable]
    exact (serveDevice_reachable hmade hreq hid hs hreachable).changed_iff hs
  · have hvalidate : validateConnectivity c.env.now db s.id req =
        .ok ({ status := "failed", sessionId := s.id.str },
          db.setNatSession s.id (fun s => { s with updatedAt := c.env.now }) fun _ => rfl) := by
      rw [validateConnectivity, hs]
      simp only [hreachable, Bool.false_eq_true, if_false]
    rw [serveDevice_validate hmade hreq hid, hvalidate]
    refine iff_of_false ?_ (not_not_intro fun h => absurd h hreachable)
    rintro (h | h)
    · exact (natChanged_iff (sessionReport_set hs _)).1 h rfl
    · exact not_endpointsChanged rfl h

/-- **When a request changes something of the NAT session it names**, or of its target's
endpoints. -/
theorem nat_changed_iff {s : NATSession} (hmade : c.MadeBy db d) (hs : s ∈ db.natSessions)
    (hname : c.request.natSession? = some s.id) :
    NatChanged (serveDevice db c) s ∨ EndpointsChanged db (serveDevice db c) s.targetDeviceId ↔
      ¬ c.NatIdle db s := by
  have hget : db.natSessions.get? s.id = some s := Table.get?_eq_some_iff.2 ⟨hs, rfl⟩
  cases hreq : c.request with
  | punchResult sessionId req =>
    rw [hreq] at hname
    rw [DeviceCall.NatIdle, hreq]
    by_cases hsuccess : req.success = true
    · simp only [hsuccess, if_true]
      exact (serveDevice_punchSuccess hmade hreq hname hget hsuccess).changed_iff hget
    · simp only [hsuccess, Bool.false_eq_true, if_false]
      exact punchFailure_changed_iff hmade hreq hname hget (by simpa using hsuccess)
  | validate sessionId req =>
    rw [hreq] at hname
    rw [DeviceCall.NatIdle, hreq]
    exact validate_changed_iff hmade hreq hname hget
  | _ => rw [hreq] at hname; cases hname

theorem not_relay_changed_self {s : RelaySession} (hs : db.relaySessions.get? s.id = some s) :
    ¬ (RelayChanged db s ∨ EndpointsChanged db db s.targetDeviceId) := by
  rintro (h | h)
  · exact not_relayChanged_of_get? hs h
  · exact not_endpointsChanged rfl h

theorem relay_changed_set_iff {s : RelaySession} (hs : db.relaySessions.get? s.id = some s)
    {f : RelaySession → RelaySession} (hf : ∀ s, (f s).id = s.id) :
    RelayChanged (db.setRelaySession s.id f hf) s ∨
        EndpointsChanged db (db.setRelaySession s.id f hf) s.targetDeviceId ↔
      (f s).outcome ≠ s.outcome := by
  have hendpoints : ¬ EndpointsChanged db (db.setRelaySession s.id f hf) s.targetDeviceId :=
    not_endpointsChanged rfl
  have hnew : (db.setRelaySession s.id f hf).relaySessions.get? s.id = some (f s) := by
    rw [Database.setRelaySession, Table.get?_modify, hs, Option.map_some]
    exact congrArg some (if_pos rfl)
  rw [or_iff_left hendpoints, RelayChanged, hnew, Option.map_some, ne_eq, Option.some.injEq]

/-- **When a request changes something of the relay session it names**; no such request changes an
endpoint. -/
theorem relay_changed_iff {s : RelaySession} (hmade : c.MadeBy db d) (hs : s ∈ db.relaySessions)
    (hname : c.request.relaySession? = some s.id) :
    RelayChanged (serveDevice db c) s ∨ EndpointsChanged db (serveDevice db c) s.targetDeviceId ↔
      ¬ c.RelayIdle s := by
  have hmade : getCurrentDevice c.env db c.token = .ok d := hmade
  have hget : db.relaySessions.get? s.id = some s := Table.get?_eq_some_iff.2 ⟨hs, rfl⟩
  have hsame := not_relay_changed_self hget
  cases hreq : c.request with
  | connectRelay sessionId =>
    rw [hreq] at hname
    rw [DeviceCall.RelayIdle, hreq]
    have hid : uuidOf sessionId = .ok s.id := uuidOf_eq_ok.2 hname
    by_cases hpending : s.state = .pending
    · have hserve : serveDevice db c =
          db.setRelaySession s.id (RelaySession.activated c.env.now) fun _ => rfl := by
        simp only [serveDevice, DeviceCall.handle, hreq, connectRelaySession, hmade, ok_bind, hid,
          activateRelaySession, hget, Option.filter_some, hpending, decide_true, if_true,
          Option.map_some, getOr]
        rfl
      rw [hserve]
      refine (relay_changed_set_iff hget _).trans ?_
      simp [RelaySession.outcome, RelaySession.activated, hpending]
    · have hserve : serveDevice db c = db := by
        simp only [serveDevice, DeviceCall.handle, hreq, connectRelaySession, hmade, ok_bind, hid,
          activateRelaySession, hget, Option.filter_some, hpending, decide_false,
          Bool.false_eq_true, if_false, Option.map_none, getOr]
        rfl
      rw [hserve]
      exact iff_of_false hsame (not_not_intro hpending)
  | relayStats sessionId req =>
    rw [hreq] at hname
    rw [DeviceCall.RelayIdle, hreq]
    have hid : uuidOf sessionId = .ok s.id := uuidOf_eq_ok.2 hname
    have hserve : serveDevice db c = db.setRelaySession s.id
        (RelaySession.counted c.env.now req.bytesTx req.bytesRx) fun _ => rfl := by
      simp only [serveDevice, DeviceCall.handle, hreq, updateRelayStatsEndpoint, hmade, ok_bind,
        hid, updateRelayStats, hget, Option.map_some, getOr]
      rfl
    rw [hserve]
    refine (relay_changed_set_iff hget _).trans ?_
    simp [RelaySession.outcome, RelaySession.counted]
  | relayHeartbeat sessionId =>
    rw [DeviceCall.RelayIdle, hreq]
    have hserve : serveDevice db c = db := by
      refine serveDevice_cases (P := fun db' => db' = db) rfl fun db' h => ?_
      simp only [DeviceCall.handle, hreq] at h
      obtain ⟨-, -, rfl⟩ := map_eq_ok.1 h
      rfl
    rw [hserve]
    exact iff_of_false hsame (not_not_intro trivial)
  | _ => rw [hreq] at hname; cases hname

end

/-- **When a request respects participation**: exactly if the device that makes it takes part in the
session it names, or the request has no effect on that session. -/
theorem only_participants_iff {c : DeviceCall} {db : Database} {d : Device}
    (hmade : c.MadeBy db d) :
    OnlyParticipants c db d.id ↔
      (∀ s ∈ db.natSessions, c.request.natSession? = some s.id →
        s.Involves d.id ∨ c.NatIdle db s) ∧
      ∀ s ∈ db.relaySessions, c.request.relaySession? = some s.id →
        s.Involves d.id ∨ c.RelayIdle s := by
  have hkeeps := serveDevice_keepsSessions db c
  constructor
  · rintro ⟨hnat, hrelay⟩
    refine ⟨fun s hs hname => ?_, fun s hs hname => ?_⟩
    · by_contra hnot
      rw [not_or, ← nat_changed_iff hmade hs hname] at hnot
      exact hnot.1 (hnat s hs (hnot.2.imp_right fun h => ⟨hname, h⟩))
    · by_contra hnot
      rw [not_or, ← relay_changed_iff hmade hs hname] at hnot
      exact hnot.1 (hrelay s hs (hnot.2.imp_right fun h => ⟨hname, h⟩))
  · rintro ⟨hnat, hrelay⟩
    refine ⟨fun s hs hchanged => ?_, fun s hs hchanged => ?_⟩
    · -- a session that is not named does not change
      have hname : c.request.natSession? = some s.id := by
        rcases hchanged with h | h
        · by_contra hne
          exact not_natChanged_of_get? (hkeeps.nat s hs hne) h
        · exact h.1
      refine (hnat s hs hname).resolve_right ?_
      exact (nat_changed_iff hmade hs hname).1 (hchanged.imp_right And.right)
    · have hname : c.request.relaySession? = some s.id := by
        rcases hchanged with h | h
        · by_contra hne
          exact not_relayChanged_of_get? (hkeeps.relay s hs hne) h
        · exact h.1
      refine (hrelay s hs hname).resolve_right ?_
      exact (relay_changed_iff hmade hs hname).1 (hchanged.imp_right And.right)

/-- A session between two devices, and a third device in another network. -/
def punchFloor : Database where
  networks := .ofRows [
    { id := Uuid.ofNat 20, name := "floor", subnet := "10.2.0.0/24" },
    { id := Uuid.ofNat 30, name := "street", subnet := "10.3.0.0/24" }]
    (by decide : [Uuid.ofNat 20, Uuid.ofNat 30].Nodup)
  devices := .ofRows [
    { id := Uuid.ofNat 21, name := "camera", networkId := Uuid.ofNat 20
      deviceTokenHash := some "hash:camera" },
    { id := Uuid.ofNat 22, name := "viewer", networkId := Uuid.ofNat 20
      deviceTokenHash := some "hash:viewer" },
    { id := Uuid.ofNat 31, name := "stranger", networkId := Uuid.ofNat 30
      deviceTokenHash := some "hash:stranger" }]
    (by decide : [Uuid.ofNat 21, Uuid.ofNat 22, Uuid.ofNat 31].Nodup)
  natSessions := .ofRows [
    { id := Uuid.ofNat 23, initiatorDeviceId := Uuid.ofNat 21, targetDeviceId := Uuid.ofNat 22
      state := .coordinating, expiresAt := 300000000 }] (List.nodup_singleton _)

/-- A failed punch that the bearer of a token reports for the session of `punchFloor`. -/
def failureReport (token : String) : DeviceCall where
  env := plainEnv
  entropy := punchEntropy
  token := token
  request := .punchResult (Uuid.ofNat 23).str { success := false }

/-- The initiator reports for its own session. -/
theorem only_participants_iff_initiator :
    OnlyParticipants (failureReport "camera") punchFloor (Uuid.ofNat 21) := by
  refine (only_participants_iff (d := { id := Uuid.ofNat 21, name := "camera"
                                        networkId := Uuid.ofNat 20
                                        deviceTokenHash := some "hash:camera" }) (by decide)).2 ?_
  refine ⟨fun s hs _ => .inl ?_, fun s hs => by cases hs⟩
  rw [List.mem_singleton.1 hs]
  decide

/-- A device of another network ends the session of two others. -/
theorem stranger_fails_session :
    (∃ d ∈ punchFloor.devices, (failureReport "stranger").MadeBy punchFloor d ∧
      d.id = Uuid.ofNat 31) ∧
    (∃ s ∈ punchFloor.natSessions, ¬ s.Involves (Uuid.ofNat 31) ∧ s.state = .coordinating ∧
      ∃ s' ∈ (serveDevice punchFloor (failureReport "stranger")).natSessions,
        s'.id = s.id ∧ s'.state = .failed) ∧
    ¬ OnlyParticipants (failureReport "stranger") punchFloor (Uuid.ofNat 31) := by
  have hsession : ∃ s ∈ punchFloor.natSessions, ¬ s.Involves (Uuid.ofNat 31) ∧
      s.state = .coordinating ∧
      ∃ s' ∈ (serveDevice punchFloor (failureReport "stranger")).natSessions,
        s'.id = s.id ∧ s'.state = .failed := by decide
  refine ⟨by decide, hsession, fun honly => ?_⟩
  obtain ⟨s, hs, hnot, hstate, s', hs', hid, hfailed⟩ := hsession
  refine hnot (honly.1 s hs (.inl ?_))
  have hget := Table.get?_eq_some_iff.2 ⟨hs', hid⟩
  rw [NatChanged, hget]
  simp [NATSession.outcome, hfailed, hstate]

end Midscale
