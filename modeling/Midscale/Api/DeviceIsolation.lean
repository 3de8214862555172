import Midscale.Api.Participants
import Midscale.Api.Tenancy

/-!
# What a device can do to other networks

A device writes rows of its own network, sessions, and endpoint rows.  The structured configuration
of a device is made of the rows of its network and, in a mesh or hybrid network, of the endpoints of
the active devices there.  So a request reaches another network exactly through the endpoint rows of
a device that its body or its session names.

* `buildConfigV2_of_rows` : what a configuration is made of.
* `DeviceCall.handle_effect` : what a request of a device writes.
* `staysInside_iff` : when it writes no endpoint that another network shows.
* `config_of_other_networks` : **then it leaves the configurations of other networks alone.**
-/

namespace Midscale

/-! ### What a configuration is made of -/

/-- The endpoints that the configurations of a network are made with. -/
def Database.knownEndpoints (db : Database) (networkId : Uuid) : List DeviceEndpoint :=
  let ids := (db.devices.select fun d => d.networkId = networkId ∧ d.isActive).map (·.id)
  db.endpoints.select fun e => e.isActive ∧ e.deviceId ∈ ids

/-- The configurations of the network show the endpoints of its devices. -/
def Database.UsesEndpoints (db : Database) (settings : Settings) (networkId : Uuid) : Prop :=
  ∃ n, db.networks.get? networkId = some n ∧
    isMeshOrHybrid (settings.topologyOf n.topology) = true

section

variable {db db' : Database} {networkId : Uuid}

theorem select_and_of_eq {ρ : Type} [Row ρ Uuid] {t t' : Table ρ} {p : ρ → Bool}
    (h : t'.select p = t.select p) {q : ρ → Bool} (hq : ∀ r, q r = true → p r = true) :
    t'.select q = t.select q :=
  Table.select_of_select_eq h (fun r _ => hq r) fun r _ => hq r

theorem get?_networks_of_rows (h : db'.rowsOf networkId = db.rowsOf networkId) :
    db'.networks.get? networkId = db.networks.get? networkId := by
  have hhead : ∀ db : Database, db.networks.get? networkId = (db.rowsOf networkId).networks.head? :=
    fun db => List.head?_filter.symm
  rw [hhead, hhead, h]

theorem buildDeviceStates_of_rows (h : db'.rowsOf networkId = db.rowsOf networkId) :
    db'.buildDeviceStates networkId = db.buildDeviceStates networkId := by
  have hplanned : db'.plannedDevices networkId = db.plannedDevices networkId :=
    select_and_of_eq (congrArg NetworkRows.devices h) fun d hd => by
      simpa using (of_decide_eq_true hd).1
  rw [Database.buildDeviceStates, hplanned]
  rfl

theorem buildRoutesByDevice_of_rows (h : db'.rowsOf networkId = db.rowsOf networkId) :
    db'.buildRoutesByDevice networkId = db.buildRoutesByDevice networkId := by
  have hroutes : db'.approvedRoutes networkId = db.approvedRoutes networkId :=
    select_and_of_eq (congrArg NetworkRows.routes h) fun r hr => by
      simpa using (of_decide_eq_true hr).1
  rw [Database.buildRoutesByDevice, hroutes]
  rfl

theorem buildDnsServers_of_rows (order : SetOrder String)
    (h : db'.rowsOf networkId = db.rowsOf networkId) :
    db'.buildDnsServers order networkId = db.buildDnsServers order networkId := by
  have hentries : (db'.dnsEntries.select fun e => e.networkId = networkId) =
      db.dnsEntries.select fun e => e.networkId = networkId := congrArg NetworkRows.dnsEntries h
  rw [Database.buildDnsServers, hentries]
  rfl

theorem buildEndpointsByDevice_of_known
    (h : db'.knownEndpoints networkId = db.knownEndpoints networkId) :
    db'.buildEndpointsByDevice networkId = db.buildEndpointsByDevice networkId := by
  rw [Database.buildEndpointsByDevice]
  change Dict.groupBy _ _ (sortEndpoints (db'.knownEndpoints networkId)) = _
  rw [h]
  rfl

theorem PeerPlan.info_of_star (settings : Settings) (p : PeerPlan) (eps : List DeviceEndpoint) :
    p.info settings false eps =
      { publicKey := p.publicKey
        allowedIps := p.allowedIps
        endpoint := orText p.endpoint p.endpoint
        endpointPort := orPort p.endpointPort p.endpointPort
        persistentKeepalive := p.persistentKeepalive } := by
  simp [PeerPlan.info]

theorem TopologyType.eq_star {text : String} {t : TopologyType} (h : parse text = some t)
    (hnot : isMeshOrHybrid text = false) : t = .star := by
  unfold parse at h
  split at h
  · exact (Option.some.inj h).symm
  · simp [isMeshOrHybrid] at hnot
  · simp [isMeshOrHybrid] at hnot
  · cases h

theorem StarTopologyGenerator.generatePlan_endpoints (settings : Settings) (i : PlanInput)
    (eps : Dict String (List DeviceEndpoint)) :
    generatePlan settings { i with endpointsByDevice := eps } = generatePlan settings i := rfl

/-- **A configuration is made of the rows of its network** and, if it shows endpoints, of the active
endpoints of the active devices there. -/
theorem buildConfigV2_of_rows (env : Env) {d : Device}
    (hrows : db'.rowsOf d.networkId = db.rowsOf d.networkId)
    (hendpoints : db'.knownEndpoints d.networkId = db.knownEndpoints d.networkId ∨
      ¬ db.UsesEndpoints env.settings d.networkId) :
    buildConfigV2 env db' d = buildConfigV2 env db d := by
  rw [buildConfigV2, buildConfigV2]
  simp only [get?_networks_of_rows hrows, buildDeviceStates_of_rows hrows,
    buildRoutesByDevice_of_rows hrows, buildDnsServers_of_rows env.setOrder hrows]
  cases hn : db.networks.get? d.networkId with
  | none => simp only [scalarOne, getOr, error_bind]
  | some n =>
    have hid : n.id = d.networkId := (Table.get?_eq_some_iff.1 hn).2
    have hinput : ∀ current, db'.planInput n current = { db.planInput n current with
        endpointsByDevice := db'.buildEndpointsByDevice d.networkId } := fun current => by
      rw [Database.planInput, hid, buildDeviceStates_of_rows hrows,
        buildRoutesByDevice_of_rows hrows, Database.planInput, hid]
    rcases hendpoints with hknown | hstar
    · have hsame : ∀ current, db'.planInput n current = db.planInput n current := fun current => by
        rw [hinput, buildEndpointsByDevice_of_known hknown]
        simp only [Database.planInput, hid]
      simp only [scalarOne, getOr, ok_bind, hsame]
    · have hnot : isMeshOrHybrid (env.settings.topologyOf n.topology) = false := by
        rw [← Bool.not_eq_true]
        exact fun h => hstar ⟨n, hn, h⟩
      have hplan : ∀ current,
          TopologyType.star.generatePlan env.settings (db'.planInput n current) =
            TopologyType.star.generatePlan env.settings (db.planInput n current) :=
        fun current => by
          rw [hinput]
          exact StarTopologyGenerator.generatePlan_endpoints env.settings _ _
      cases hparse : TopologyType.parse (env.settings.topologyOf n.topology) with
      | none => simp only [scalarOne, getOr, ok_bind, error_bind, Settings.generatorOf, hparse]
      | some t =>
        obtain rfl := TopologyType.eq_star hparse hnot
        simp only [scalarOne, getOr, ok_bind, hnot, Settings.generatorOf, hparse, hplan,
          PeerPlan.info_of_star]

end

/-! ### What a device writes -/

/-- The device, besides `d` itself, of which a request of `d` writes an active endpoint row: the one
that a probe result names, or the target of the session that a success is reported for. -/
def DeviceCall.endpointTarget? (c : DeviceCall) (d : Device) (db : Database) : Option Uuid :=
  match c.request with
  | .probeResult id req =>
    (Uuid.parse req.peerDeviceId).filter fun peer =>
      d.id = id ∧ db.probeWrites c.entropy.rowId peer req.endpoint
  | .punchResult sessionId req =>
    ((Uuid.parse sessionId).bind db.natSessions.get?).bind fun s =>
      if req.success ∧ (req.selectedRows db s.targetDeviceId).length = 1 then
        some s.targetDeviceId
      else none
  | .validate sessionId req =>
    ((Uuid.parse sessionId).bind db.natSessions.get?).bind fun s =>
      if req.reachable ∧
          (db.promotable s.targetDeviceId req.targetEndpoint req.targetPort).length = 1 then
        some s.targetDeviceId
      else none
  | _ => none

/-- What a request of the device `d` changes: rows of the device's own network, and active endpoint
rows of the device itself or of the one that the request names. -/
structure DeviceEffect (c : DeviceCall) (d : Device) (db db' : Database) : Prop where
  rows : ∀ id, id ≠ d.networkId → db'.rowsOf id = db.rowsOf id
  endpoints : ∀ q : DeviceEndpoint → Bool, (∀ ep, ep.isActive = false → q ep = false) →
    (∀ ep, ep.deviceId = d.id ∨ c.endpointTarget? d db = some ep.deviceId → q ep = false) →
      db'.endpoints.select q = db.endpoints.select q

section

variable {c : DeviceCall} {db db' : Database} {d : Device}

theorem DeviceEffect.of_rows (h : ∀ id, id ≠ d.networkId → db'.rowsOf id = db.rowsOf id)
    (hendpoints : db'.endpoints = db.endpoints) : DeviceEffect c d db db' :=
  ⟨h, fun _ _ _ => by rw [hendpoints]⟩

theorem DeviceEffect.of_report {s : NATSession} {f : NATSession → NATSession}
    (h : SessionReport db db' s f) (htarget : db'.endpoints = db.endpoints ∨
      c.endpointTarget? d db = some s.targetDeviceId) : DeviceEffect c d db db' where
  rows id _ := by
    rw [h.others]
    rfl
  endpoints q _ hq := by
    rcases htarget with hsame | htarget
    · rw [hsame]
    · exact h.endpoints q fun ep hep => hq ep (.inr (htarget.trans (congrArg some hep.symm)))

theorem DeviceCall.MadeBy.byId (hmade : c.MadeBy db d) {deviceId : Uuid} {current : Device}
    (h : getCurrentDeviceById c.env db deviceId c.token = .ok current) : d.id = deviceId := by
  have hmade : getCurrentDevice c.env db c.token = .ok d := hmade
  simp only [getCurrentDeviceById, hmade, ok_bind, bind_eq_ok, ensure_eq_ok] at h
  exact h.choose_spec.1

/-- A probe result writes rows of the device that the body names. -/
theorem DeviceCall.probeResult_effect (hmade : c.MadeBy db d) {id : Uuid}
    {req : ProbeResultRequest} (hreq : c.request = .probeResult id req)
    (h : c.handle db = .ok db') : DeviceEffect c d db db' := by
  simp only [handle, hreq] at h
  obtain ⟨r, hok⟩ := snd_map_eq_ok.1 h
  obtain ⟨current, hcurrent, hok⟩ := deviceProbeResult_eq_ok hok
  have hid := hmade.byId hcurrent
  obtain ⟨peer, hpeer, ⟨ep, hrows, rfl⟩ | ⟨endpoints, hrows, hdevice, hinsert, rfl⟩⟩ :=
    processProbeResult_eq_ok hok
  · refine ⟨fun _ _ => rfl, fun q hactive hq => ?_⟩
    obtain ⟨hep, rfl⟩ := mem_probedRows (hrows ▸ List.mem_singleton_self ep)
    have hunseen : ∀ r ∈ db.endpoints, r.id = ep.id →
        q r = false ∧ q (req.apply c.env.now r) = false := by
      intro r hr hpk
      obtain rfl := db.endpoints.eq_of_pk hr hep hpk
      cases hactivity : r.isActive with
      | false => exact ⟨hactive r hactivity, hactive _ hactivity⟩
      | true =>
        have htarget : c.endpointTarget? d db = some r.deviceId := by
          simp only [endpointTarget?, hreq, hpeer, Option.filter_some, hid, Database.probeWrites,
            hrows, hactivity, and_self, decide_true, if_true]
        exact ⟨hq r (.inr htarget), hq _ (.inr htarget)⟩
    change (db.endpoints.modify ep.id (req.apply c.env.now) fun _ => rfl).select q = _
    exact Table.select_modify_of_not hunseen
  · refine ⟨fun _ _ => rfl, fun q _ hq => sameExcept_insert hinsert q fun ep hep => ?_⟩
    have hfresh : db.endpoints.get? c.entropy.rowId = none :=
      Table.exists_insert_iff.1 ⟨endpoints, hinsert⟩
    have htarget : c.endpointTarget? d db = some peer := by
      simp only [endpointTarget?, hreq, hpeer, Option.filter_some, hid, Database.probeWrites,
        hrows, hdevice, hfresh, Option.isNone_none, Bool.and_self, and_self, decide_true,
        if_true]
    exact hq ep (.inr (htarget.trans (congrArg some hep.symm)))

theorem DeviceCall.punchResult_effect {sessionId : String} {req : PunchResult}
    (hreq : c.request = .punchResult sessionId req) (h : c.handle db = .ok db') :
    DeviceEffect c d db db' := by
  simp only [handle, hreq] at h
  obtain ⟨r, hok⟩ := snd_map_eq_ok.1 h
  obtain ⟨id, _, _, hid, hrecord⟩ := reportPunchResult_eq_ok hok
  rcases recordPunchResult_eq_ok hrecord with ⟨-, -, rfl⟩ | ⟨s, rfl, hreport⟩
  · exact .of_rows (fun _ _ => rfl) rfl
  · split_ifs at hreport with hsuccess
    · obtain ⟨-, hreport, hpromote⟩ := hreport
      obtain ⟨hnone, -, hmany⟩ := promoteSelected_cases c.env.now
        (db.connectSession c.env.now s.id req.candidate) s.targetDeviceId req
      refine .of_report hreport ?_
      rcases Nat.lt_trichotomy (req.selectedRows db s.targetDeviceId).length 1 with
        hnil | hone | htwo
      · left
        have hsame := hnone (List.length_eq_zero_iff.1 (Nat.lt_one_iff.1 hnil))
        rw [hpromote, Except.ok.injEq] at hsame
        change db'.endpoints = db.endpoints
        rw [hsame]
        rfl
      · right
        simp only [endpointTarget?, hreq, hid, Option.bind_some, hreport.get, hsuccess, hone,
          and_self, if_true]
      · obtain ⟨error, herror⟩ := hmany htwo
        rw [herror] at hpromote
        cases hpromote
    · exact .of_report hreport.2.1 (.inl hreport.2.2)

theorem DeviceCall.validate_effect {sessionId : String} {req : ConnectivityValidationRequest}
    (hreq : c.request = .validate sessionId req) (h : c.handle db = .ok db') :
    DeviceEffect c d db db' := by
  simp only [handle, hreq] at h
  obtain ⟨r, hok⟩ := snd_map_eq_ok.1 h
  obtain ⟨id, hid, hvalidate⟩ := reportConnectivityValidation_eq_ok hok
  rcases validateConnectivity_eq_ok hvalidate with ⟨-, rfl⟩ | ⟨s, rfl, hreport⟩
  · exact .of_rows (fun _ _ => rfl) rfl
  · split_ifs at hreport with hreachable
    · obtain ⟨hreport, r', hpromote⟩ := hreport
      refine .of_report hreport ?_
      obtain ⟨endpoints, rfl, -, ⟨-, hsame⟩ | ⟨ep, hep, -⟩⟩ := promoteEndpoint_eq_ok hpromote
      · exact .inl hsame
      · right
        have hrows : db.promotable s.targetDeviceId req.targetEndpoint req.targetPort = [ep] := hep
        simp only [endpointTarget?, hreq, hid, Option.bind_some, hreport.get, hreachable, hrows,
          List.length_singleton, and_self, if_true]
    · exact .of_report hreport.1 (.inl hreport.2)

/-- **What a request of a device writes**: rows of its own network, sessions, and endpoint rows of
itself or of the device that the request names. -/
theorem DeviceCall.handle_effect (hmade : c.MadeBy db d) (h : c.handle db = .ok db') :
    DeviceEffect c d db db' := by
  have hget : db.devices.get? d.id = some d := Table.get?_eq_some_iff.2 ⟨hmade.mem, rfl⟩
  cases hreq : c.request with
  | heartbeat id req =>
    simp only [handle, hreq] at h
    obtain ⟨⟨r, db₁⟩, hok, rfl⟩ := map_eq_ok.1 h
    obtain ⟨current, hcurrent, rfl⟩ := deviceHeartbeat_eq_ok hok
    obtain rfl := hmade.byId hcurrent
    exact .of_rows (fun _ hid => rowsOf_assign (f := req.apply c.env.now) (fun _ => rfl)
      hget (fun _ => rfl) hid) rfl
  | reportEndpoint id req =>
    simp only [handle, hreq] at h
    obtain ⟨⟨r, db₁⟩, hok, rfl⟩ := map_eq_ok.1 h
    obtain ⟨current, endpoints, hcurrent, -, hinsert, rfl⟩ := deviceReportEndpoint_eq_ok hok
    obtain rfl := hmade.byId hcurrent
    exact ⟨fun _ _ => rfl, fun q _ hq =>
      sameExcept_insert hinsert q fun ep hep => hq ep (.inl hep)⟩
  | probeResult id req => exact probeResult_effect hmade hreq h
  | advertiseRoute id req =>
    simp only [handle, hreq] at h
    obtain ⟨r, hok⟩ := snd_map_eq_ok.1 h
    obtain ⟨current, d', hcurrent, hd', -, hadd⟩ := deviceAdvertiseRoute_adds hok
    obtain rfl := hmade.byId hcurrent
    rw [hget, Option.some.injEq] at hd'
    subst hd'
    obtain ⟨routes, -, hnet, hinsert, rfl⟩ := addRoute_eq_ok hadd
    exact .of_rows (fun _ hid => rowsOf_addRoute hinsert (hnet ▸ hid)) rfl
  | rotateToken id =>
    simp only [handle, hreq] at h
    obtain ⟨⟨r, db₁⟩, hok, rfl⟩ := map_eq_ok.1 h
    have hcurrent : getCurrentDevice c.env db c.token = .ok d := hmade
    simp only [rotateDeviceToken, hcurrent, ok_bind, bind_eq_ok, ensure_eq_ok] at hok
    obtain ⟨_, rfl, _, -, hok⟩ := hok
    cases hok
    exact .of_rows (fun _ hid => rowsOf_assign
      (f := Device.rotated c.env.security c.entropy) (fun _ => rfl) hget (fun _ => rfl) hid) rfl
  | requestPunch req =>
    simp only [handle, hreq] at h
    obtain ⟨r, hok⟩ := snd_map_eq_ok.1 h
    obtain ⟨_, _, _, _, -, -, -, -, -, -, -, rfl⟩ := requestPunch_eq_ok hok
    exact .of_rows (fun _ _ => rfl) rfl
  | punchResult sessionId req => exact punchResult_effect hreq h
  | validate sessionId req => exact validate_effect hreq h
  | requestRelay req =>
    simp only [handle, hreq] at h
    obtain ⟨r, hok⟩ := snd_map_eq_ok.1 h
    obtain ⟨_, -, rfl⟩ := requestRelaySession_eq_ok hok
    exact .of_rows (fun _ _ => rfl) rfl
  | connectRelay sessionId =>
    simp only [handle, hreq] at h
    obtain ⟨r, hok⟩ := snd_map_eq_ok.1 h
    obtain ⟨_, _, -, -, rfl⟩ := connectRelaySession_eq_ok hok
    exact .of_rows (fun _ _ => rfl) rfl
  | relayHeartbeat sessionId =>
    simp only [handle, hreq] at h
    obtain ⟨-, -, rfl⟩ := map_eq_ok.1 h
    exact .of_rows (fun _ _ => rfl) rfl
  | relayStats sessionId req =>
    simp only [handle, hreq] at h
    obtain ⟨r, hok⟩ := snd_map_eq_ok.1 h
    obtain ⟨_, _, -, -, rfl⟩ := updateRelayStatsEndpoint_eq_ok hok
    exact .of_rows (fun _ _ => rfl) rfl

theorem serveDevice_effect (hmade : c.MadeBy db d) : DeviceEffect c d db (serveDevice db c) :=
  serveDevice_cases (.of_rows (fun _ _ => rfl) rfl) fun _ h => c.handle_effect hmade h

/-- No active endpoint row is written of an active device of another network that shows
endpoints. -/
def DeviceCall.StaysInside (c : DeviceCall) (settings : Settings) (d : Device) (db : Database) :
    Prop :=
  ∀ x ∈ db.devices, c.endpointTarget? d db = some x.id → x.isActive = true →
    db.UsesEndpoints settings x.networkId → x.networkId = d.networkId

theorem SuccessReport.activeEndpoints_ne {s : NATSession} {now : Timestamp}
    {candidate : SelectedCandidate} {latencyMs : Option ℤ} {ep : DeviceEndpoint}
    (h : SuccessReport db db' s now candidate latencyMs [ep]) (hactive : ep.isActive = true) :
    db'.activeEndpoints s.targetDeviceId ≠ db.activeEndpoints s.targetDeviceId := by
  obtain ⟨hep, hdevice, hget⟩ := h.one ep rfl
  refine Midscale.activeEndpoints_ne (Table.get?_eq_some_iff.1 hget).1 hdevice hactive
    fun hold => ?_
  have hcount := congrArg DeviceEndpoint.successCount (db.endpoints.eq_of_pk hold hep rfl)
  exact absurd hcount (Nat.succ_ne_self _)

theorem exists_reported_session {sessionId : String} {p : Uuid} {writes : NATSession → Prop}
    [DecidablePred writes]
    (h : (((Uuid.parse sessionId).bind db.natSessions.get?).bind fun s =>
      if writes s then some s.targetDeviceId else none) = some p) :
    ∃ s, Uuid.parse sessionId = some s.id ∧ db.natSessions.get? s.id = some s ∧ writes s ∧
      s.targetDeviceId = p := by
  obtain ⟨s, hs, hcond⟩ := Option.bind_eq_some_iff.1 h
  obtain ⟨id, hid, hget⟩ := Option.bind_eq_some_iff.1 hs
  obtain rfl := get?_natSessions_id hget
  split_ifs at hcond with hwrites
  exact ⟨s, hid, hget, hwrites, Option.some.inj hcond⟩

/-- **Exactly the active endpoint rows of that device change**, besides those of the device that
makes the request. -/
theorem endpointTarget?_eq_some_iff (hmade : c.MadeBy db d) {p : Uuid} (hp : p ≠ d.id) :
    c.endpointTarget? d db = some p ↔
      (serveDevice db c).activeEndpoints p ≠ db.activeEndpoints p := by
  constructor
  · intro htarget
    unfold DeviceCall.endpointTarget? at htarget
    split at htarget
    · rename_i id req hreq
      obtain ⟨hparse, hcond⟩ := Option.filter_eq_some_iff.1 htarget
      obtain ⟨rfl, hwrites⟩ := of_decide_eq_true hcond
      obtain ⟨r, db', hok, hchanged⟩ := processProbeResult_changes c.env hparse hwrites
      have hcurrent : getCurrentDevice c.env db c.token = .ok d := hmade
      have hserve : serveDevice db c = db' := by
        simp only [serveDevice, DeviceCall.handle, hreq, deviceProbeResult, getCurrentDeviceById,
          hcurrent, ok_bind, ensure_of, hok]
        rfl
      rwa [hserve]
    · rename_i sessionId req hreq
      obtain ⟨s, hid, hget, ⟨hsuccess, hone⟩, rfl⟩ := exists_reported_session htarget
      obtain ⟨ep, hrows⟩ := List.length_eq_one_iff.1 hone
      have hreport := serveDevice_punchSuccess hmade hreq hid hget hsuccess
      rw [hrows] at hreport
      exact hreport.activeEndpoints_ne (mem_selectedRows (hrows ▸ List.mem_singleton_self ep)).2.2
    · rename_i sessionId req hreq
      obtain ⟨s, hid, hget, ⟨hreachable, hone⟩, rfl⟩ := exists_reported_session htarget
      obtain ⟨ep, hrows⟩ := List.length_eq_one_iff.1 hone
      have hreport := serveDevice_reachable hmade hreq hid hget hreachable
      rw [hrows] at hreport
      exact hreport.activeEndpoints_ne (mem_promotable (hrows ▸ List.mem_singleton_self ep)).2.2
    · cases htarget
  · intro hchanged
    by_contra htarget
    refine hchanged ((serveDevice_effect hmade).endpoints _ (fun ep hep => by simp [hep])
      fun ep hep => decide_eq_false ?_)
    rintro ⟨rfl, -⟩
    exact hep.elim hp htarget

/-- A request stays inside exactly if it leaves the active endpoint rows alone that configurations
of other networks show. -/
theorem staysInside_iff {settings : Settings} (hmade : c.MadeBy db d) :
    c.StaysInside settings d db ↔ ∀ x ∈ db.devices, x.networkId ≠ d.networkId →
      x.isActive = true → db.UsesEndpoints settings x.networkId →
        (serveDevice db c).activeEndpoints x.id = db.activeEndpoints x.id := by
  refine forall₂_congr fun x hx => ?_
  constructor
  · intro hinside hother hactive huses
    by_contra hchanged
    have hne : x.id ≠ d.id := fun hid => hother (db.devices.eq_of_pk hx hmade.mem hid ▸ rfl)
    exact hother (hinside ((endpointTarget?_eq_some_iff hmade hne).2 hchanged) hactive huses)
  · intro hsame htarget hactive huses
    by_contra hother
    have hne : x.id ≠ d.id := fun hid => hother (db.devices.eq_of_pk hx hmade.mem hid ▸ rfl)
    exact (endpointTarget?_eq_some_iff hmade hne).1 htarget (hsame hother hactive huses)

/-- **A request leaves the configurations of other networks alone** when it writes no active
endpoint row of an active device of another mesh or hybrid network. -/
theorem config_of_other_networks {env : Env} {x : Device} (hmade : c.MadeBy db d)
    (hinside : c.StaysInside env.settings d db) (hx : x ∈ db.devices)
    (hother : x.networkId ≠ d.networkId) :
    x ∈ (serveDevice db c).devices ∧
      buildConfigV2 env (serveDevice db c) x = buildConfigV2 env db x := by
  obtain ⟨hrows, hendpoints⟩ := serveDevice_effect hmade
  have hsame := hrows x.networkId hother
  constructor
  · have hmem : x ∈ ((serveDevice db c).rowsOf x.networkId).devices := by
      rw [hsame]
      exact Table.mem_select.2 ⟨hx, decide_eq_true rfl⟩
    exact (Table.mem_select.1 hmem).1
  · refine buildConfigV2_of_rows env hsame ?_
    by_cases huses : db.UsesEndpoints env.settings x.networkId
    · left
      have hdevices : ((serveDevice db c).devices.select fun y =>
          y.networkId = x.networkId ∧ y.isActive) =
            db.devices.select fun y => y.networkId = x.networkId ∧ y.isActive :=
        select_and_of_eq (congrArg NetworkRows.devices hsame) fun y hy => by
          simpa using (of_decide_eq_true hy).1
      rw [Database.knownEndpoints, hdevices]
      refine hendpoints _ (fun ep hep => by simp [hep]) fun ep hep => decide_eq_false ?_
      rintro ⟨-, hmem⟩
      obtain ⟨y, hy, hid⟩ := List.mem_map.1 hmem
      obtain ⟨hy, hcond⟩ := Table.mem_select.1 hy
      obtain ⟨hnet, hactive⟩ := of_decide_eq_true hcond
      rw [← hid] at hep
      rcases hep with hself | htarget
      · rw [db.devices.eq_of_pk hy hmade.mem hself] at hnet
        exact hother hnet.symm
      · exact hother (hnet.symm.trans (hinside y hy htarget hactive (hnet ▸ huses)))
    · exact .inr huses

end

/-! ### Two mesh networks -/

/-- A mesh with a stranger in it, and another one with a crane and a dock. -/
def harborStreet : Database where
  networks := .ofRows [
    { id := Uuid.ofNat 30, name := "street", subnet := "10.3.0.0/24", topology := some "mesh" },
    { id := Uuid.ofNat 40, name := "harbor", subnet := "10.4.0.0/24", topology := some "mesh" }]
    (by decide : [Uuid.ofNat 30, Uuid.ofNat 40].Nodup)
  devices := .ofRows [
    { id := Uuid.ofNat 31, name := "stranger", networkId := Uuid.ofNat 30
      publicKey := some "key-stranger", ipAddress := some "10.3.0.2"
      deviceTokenHash := some "hash:stranger" },
    { id := Uuid.ofNat 41, name := "crane", networkId := Uuid.ofNat 40
      publicKey := some "key-crane", ipAddress := some "10.4.0.2" },
    { id := Uuid.ofNat 42, name := "dock", networkId := Uuid.ofNat 40
      publicKey := some "key-dock", ipAddress := some "10.4.0.3" }]
    (by decide : [Uuid.ofNat 31, Uuid.ofNat 41, Uuid.ofNat 42].Nodup)

/-- The crane of `harborStreet`. -/
def harborCrane : Device where
  id := Uuid.ofNat 41
  name := "crane"
  networkId := Uuid.ofNat 40
  publicKey := some "key-crane"
  ipAddress := some "10.4.0.2"

/-- The stranger of `harborStreet`. -/
def harborStranger : Device where
  id := Uuid.ofNat 31
  name := "stranger"
  networkId := Uuid.ofNat 30
  publicKey := some "key-stranger"
  ipAddress := some "10.3.0.2"
  deviceTokenHash := some "hash:stranger"

/-- What the stranger tells to have seen of a device. -/
def strangerProbe (device : ℕ) : DeviceCall where
  env := plainEnv
  entropy := punchEntropy
  token := "stranger"
  request := .probeResult (Uuid.ofNat 31)
    { peerDeviceId := (Uuid.ofNat device).str, endpoint := "6.6.6.6", reachable := true }

/-- What the stranger tells about itself stays in its own network. -/
theorem config_of_other_networks_self :
    harborCrane ∈ (serveDevice harborStreet (strangerProbe 31)).devices ∧
      buildConfigV2 plainEnv (serveDevice harborStreet (strangerProbe 31)) harborCrane =
        buildConfigV2 plainEnv harborStreet harborCrane := by
  refine config_of_other_networks (d := harborStranger) (by decide) ?_ (by decide) (by decide)
  intro x hx htarget _ _
  have hself : (strangerProbe 31).endpointTarget? harborStranger harborStreet =
      some (Uuid.ofNat 31) := by decide
  have hnetwork : ∀ y ∈ harborStreet.devices, Uuid.ofNat 31 = y.id →
      y.networkId = Uuid.ofNat 30 := by decide
  rw [hself, Option.some.injEq] at htarget
  exact hnetwork x hx htarget

/-- Where the peers of a configuration are to be reached. -/
def DeviceConfigV2Response.peerEndpoints (r : DeviceConfigV2Response) : List (Option String) :=
  r.peers.map (·.endpoint)

/-- What the stranger tells about the dock moves the crane's peer. -/
theorem stranger_moves_peer :
    (∃ d ∈ harborStreet.devices, (strangerProbe 42).MadeBy harborStreet d ∧
      harborCrane.networkId ≠ d.networkId) ∧ harborCrane ∈ harborStreet.devices ∧
    (buildConfigV2 plainEnv harborStreet harborCrane).map (·.peerEndpoints) = .ok [none] ∧
    (buildConfigV2 plainEnv (serveDevice harborStreet (strangerProbe 42)) harborCrane).map
      (·.peerEndpoints) = .ok [some "6.6.6.6"] ∧
    buildConfigV2 plainEnv (serveDevice harborStreet (strangerProbe 42)) harborCrane ≠
      buildConfigV2 plainEnv harborStreet harborCrane := by
  have hbefore : (buildConfigV2 plainEnv harborStreet harborCrane).map (·.peerEndpoints) =
      .ok [none] := by decide
  have hafter : (buildConfigV2 plainEnv (serveDevice harborStreet (strangerProbe 42))
      harborCrane).map (·.peerEndpoints) = .ok [some "6.6.6.6"] := by decide
  refine ⟨by decide, by decide, hbefore, hafter, fun heq => ?_⟩
  rw [heq, hbefore] at hafter
  cases hafter

end Midscale
