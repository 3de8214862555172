import Midscale.Api.DeviceConfig
import Midscale.Config.View

/-!
# Inactive devices in the configurations of others

The queries for devices and for endpoints leave out inactive devices.  The query for routes does
not: the flat list of routes in a response, which is hashed with it, holds the approved routes of
inactive devices too.

* `Database.DiffersIn` : two states that differ in rows of one inactive device.
* `SameConfig` : two executions make the same response, but for the clock.
* `inactive_device_unseen_iff` : **the configuration of another device is the same exactly if the
  network's approved prefixes are**, or there is none.
* `retired_router_seen` : the approved route of an inactive router is in the response.
-/

namespace Midscale

/-! ### What is compared -/

/-- The two states differ in rows of one device alone, which is inactive in both: in its columns,
its endpoints and its routes. -/
structure Database.DiffersIn (db db' : Database) (x : Uuid) : Prop where
  inactive : ∀ d ∈ db.devices, d.id = x → d.isActive = false
  inactive' : ∀ d ∈ db'.devices, d.id = x → d.isActive = false
  devices : db'.devices.select (fun d => d.id ≠ x) = db.devices.select fun d => d.id ≠ x
  endpoints : db'.endpoints.select (fun e => e.deviceId ≠ x) =
    db.endpoints.select fun e => e.deviceId ≠ x
  routes : db'.routes.select (fun r => r.deviceId ≠ x) = db.routes.select fun r => r.deviceId ≠ x
  networks : db'.networks = db.networks
  dnsEntries : db'.dnsEntries = db.dnsEntries

/-- The two executions differ in the clock alone. -/
structure Env.SameButClock (env env' : Env) : Prop where
  settings : env'.settings = env.settings
  security : env'.security = env.security
  setOrder : env'.setOrder = env.setOrder

/-- The response without the fields that show the clock. -/
def DeviceConfigV2Response.withoutClock (r : DeviceConfigV2Response) : DeviceConfigV2Response :=
  { r with revision := "", generatedAt := "" }

/-- The same error, or the same response but for the clock. -/
def SameConfig (r r' : Except ApiError DeviceConfigV2Response) : Prop :=
  r'.map (·.withoutClock) = r.map (·.withoutClock)

/-! ### The queries -/

namespace Database.DiffersIn

variable {db db' : Database} {x : Uuid}

theorem select_devices (h : db.DiffersIn db' x) {q : Device → Bool}
    (hq : ∀ d, q d = true → d.isActive = true) : db'.devices.select q = db.devices.select q := by
  refine Table.select_of_select_eq h.devices (fun d hd hqd => decide_eq_true fun hid => ?_)
    fun d hd hqd => decide_eq_true fun hid => ?_
  · exact absurd (hq d hqd) (Bool.eq_false_iff.1 (h.inactive d hd hid))
  · exact absurd (hq d hqd) (Bool.eq_false_iff.1 (h.inactive' d hd hid))

theorem buildDeviceStates_eq (h : db.DiffersIn db' x) (networkId : Uuid) :
    db'.buildDeviceStates networkId = db.buildDeviceStates networkId := by
  have hplanned : db'.plannedDevices networkId = db.plannedDevices networkId :=
    h.select_devices fun d hd => (of_decide_eq_true hd).2.1
  rw [buildDeviceStates, hplanned]
  rfl

theorem buildEndpointsByDevice_eq (h : db.DiffersIn db' x) (networkId : Uuid) :
    db'.buildEndpointsByDevice networkId = db.buildEndpointsByDevice networkId := by
  have hdevices : (db'.devices.select fun d => d.networkId = networkId ∧ d.isActive) =
      db.devices.select fun d => d.networkId = networkId ∧ d.isActive :=
    h.select_devices fun d hd => (of_decide_eq_true hd).2
  rw [buildEndpointsByDevice, hdevices]
  -- the endpoints of an inactive device are no endpoints of the active ones
  have hother : ∀ e : DeviceEndpoint, decide (e.isActive = true ∧ e.deviceId ∈
      (db.devices.select fun d => d.networkId = networkId ∧ d.isActive).map (·.id)) = true →
        decide (e.deviceId ≠ x) = true := by
    intro e he
    obtain ⟨d, hd, hid⟩ := List.mem_map.1 (of_decide_eq_true he).2
    obtain ⟨hmem, hactive⟩ := Table.mem_select.1 hd
    refine decide_eq_true fun hx => ?_
    exact absurd (of_decide_eq_true hactive).2
      (Bool.eq_false_iff.1 (h.inactive d hmem (hid.trans hx)))
  rw [Table.select_of_select_eq h.endpoints (fun e _ => hother e) fun e _ => hother e]
  rfl

theorem routesOf_eq (h : db.DiffersIn db' x) (networkId : Uuid) {id : Uuid} (hne : id ≠ x) :
    (db'.buildRoutesByDevice networkId).2.getD id.str [] =
      (db.buildRoutesByDevice networkId).2.getD id.str [] := by
  have hfilter : ∀ db : Database, ((db.approvedRoutes networkId).filter fun r =>
      r.deviceId.str = id.str) = db.routes.select fun r =>
        r.deviceId.str = id.str ∧ r.networkId = networkId ∧ r.approved ∧ r.enabled := by
    intro db
    rw [approvedRoutes, Table.select, Table.select, List.filter_filter]
    refine List.filter_congr fun r _ => ?_
    rw [← Bool.decide_and]
  have hother : ∀ r : AdvertisedRoute, decide (r.deviceId.str = id.str ∧
      r.networkId = networkId ∧ r.approved = true ∧ r.enabled = true) = true →
        decide (r.deviceId ≠ x) = true :=
    fun r hr => decide_eq_true fun hx => hne ((Uuid.str_inj.1 (of_decide_eq_true hr).1).symm.trans hx)
  rw [Database.routesOf_eq, Database.routesOf_eq, hfilter, hfilter,
    Table.select_of_select_eq h.routes (fun r _ => hother r) fun r _ => hother r]

end Database.DiffersIn

/-! ### The configurations -/

section

variable {env env' : Env} {db db' : Database} {x : Uuid}

theorem Database.DiffersIn.peers_eq (h : db.DiffersIn db' x) (settings : Settings)
    (order order' : SetOrder String) (t : TopologyType) (network : Network) (networkId : Uuid)
    (current : DeviceState) : (db'.configView order' networkId).peers settings t network current =
      (db.configView order networkId).peers settings t network current := by
  have hstates := congrArg Prod.fst (h.buildDeviceStates_eq networkId)
  have hserver := congrArg Prod.snd (h.buildDeviceStates_eq networkId)
  have hendpoints := h.buildEndpointsByDevice_eq networkId
  have hplan : t.generatePlan settings ((db'.configView order' networkId).planInput network current) =
      t.generatePlan settings ((db.configView order networkId).planInput network current) := by
    refine TopologyType.generatePlan_congr settings t rfl hstates rfl
      (congrArg (Option.getD · "") hserver) (fun s hs => ?_) (fun s _ => ?_) fun s _ => ?_
    · -- the device is not in the snapshot
      obtain ⟨d, hd, rfl⟩ := List.mem_map.1 hs
      obtain ⟨hmem, -, hactive, -⟩ := Database.mem_plannedDevices.1 hd
      refine h.routesOf_eq networkId fun hid => ?_
      exact absurd hactive (Bool.eq_false_iff.1 (h.inactive d hmem hid))
    · change bestEndpoint ((db'.buildEndpointsByDevice networkId).getD s.id []) = _
      rw [hendpoints]
      rfl
    · change ((db'.buildEndpointsByDevice networkId).getD s.id []).isEmpty = _
      rw [hendpoints]
      rfl
  have hshown : (db'.configView order' networkId).endpointsOf =
      (db.configView order networkId).endpointsOf := by
    funext key
    simp only [ConfigView.endpointsOf, Database.configView, hstates, hendpoints]
  rw [ConfigView.peers, hplan, hshown]
  rfl

theorem buildConfigV2_routes {d : Device} {r : DeviceConfigV2Response}
    (h : buildConfigV2 env db d = .ok r) : r.routes = (db.approvedRoutes d.networkId).map (·.pfx) := by
  have hnetwork := Eq.refl ((db.networks.get? d.networkId).map Network.state)
  rcases buildConfigV2_cases (Eq.refl env.settings) hnetwork rfl with
    ⟨e, he, -⟩ | ⟨network, -, current, t, net, -, hsub, -⟩
  · rw [he] at h
    cases h
  · rw [hsub.build, Except.ok.injEq] at h
    rw [← h]
    rfl

/-- **The configuration of another device is the same exactly if the network's approved prefixes
are**, or there is none. -/
theorem inactive_device_unseen_iff (hclock : env.SameButClock env') (h : db.DiffersIn db' x)
    {d : Device} (hd : d ∈ db.devices) : SameConfig (buildConfigV2 env db d) (buildConfigV2 env' db' d) ↔
      (d.Configurable env db → (db'.approvedRoutes d.networkId).map (·.pfx) =
        (db.approvedRoutes d.networkId).map (·.pfx)) := by
  rw [← buildConfigV2_ok_iff hd]
  have hstates := h.buildDeviceStates_eq d.networkId
  have hnetwork : db'.networks.get? d.networkId = db.networks.get? d.networkId := by rw [h.networks]
  have hcurrent : (db'.buildDeviceStates d.networkId).1.find? (fun s => s.id = d.id.str) =
      (db.buildDeviceStates d.networkId).1.find? fun s => s.id = d.id.str := by rw [hstates]
  rcases buildConfigV2_cases hclock.settings (congrArg _ hnetwork) hcurrent with
    ⟨e, he, he'⟩ | ⟨network, network', current, t, net, -, hsub, hsub'⟩
  · refine iff_of_true ?_ fun ⟨r, hr⟩ => ?_
    · rw [SameConfig, he, he']
    · rw [he] at hr
      cases hr
  · obtain rfl : network = network' :=
      Option.some.inj (hsub.network_eq.symm.trans (hnetwork.symm.trans hsub'.network_eq))
    rw [hsub.build, hsub'.build, forall_prop_of_true ⟨_, rfl⟩, hclock.setOrder]
    have hdns : db'.buildDnsServers env.setOrder d.networkId =
        db.buildDnsServers env.setOrder d.networkId := by
      rw [Database.buildDnsServers, h.dnsEntries]
      rfl
    have hpeers := h.peers_eq env.settings env.setOrder env.setOrder t network d.networkId current
    -- the contents differ in the clock and in the flat list of routes
    have hcontent : (db'.configView env.setOrder d.networkId).content env' d network current t net =
        { (db.configView env.setOrder d.networkId).content env d network current t net with
          routes := (db'.approvedRoutes d.networkId).map (·.pfx)
          revision := toString (env'.now.tdiv 1000000)
          generatedAt := env'.now.isoformat } := by
      simp only [ConfigView.content, hclock.settings, hpeers]
      simp only [Database.configView, hdns, Database.buildRoutesByDevice]
    constructor
    · intro hsame
      exact congrArg DeviceConfigV2Response.routes (Except.ok.inj hsame)
    · intro hroutes
      rw [SameConfig, ConfigView.response, ConfigView.response, hcontent, hroutes, hclock.security]
      rfl

end

/-! ### An office with a retired router -/

/-- The laptop of the office. -/
def retiredLaptop : Device where
  id := Uuid.ofNat 3
  name := "laptop"
  networkId := Uuid.ofNat 1
  publicKey := some "L"
  ipAddress := some "10.0.0.2"

/-- An office whose router has been deactivated, with the router's key and the approval of its
route. -/
def retiredOffice (key : String) (approved : Bool) : Database where
  networks := .ofRows [{ id := Uuid.ofNat 1, name := "retired", subnet := "10.0.0.0/24" }]
  devices := .ofRows [
    { id := Uuid.ofNat 2, name := serverName, networkId := Uuid.ofNat 1, publicKey := some "S"
      ipAddress := some "10.0.0.1" },
    retiredLaptop,
    { id := Uuid.ofNat 4, name := "router", networkId := Uuid.ofNat 1, publicKey := some key
      ipAddress := some "10.0.0.3", isActive := false }]
    (by decide : [Uuid.ofNat 2, Uuid.ofNat 3, Uuid.ofNat 4].Nodup)
  routes := .ofRows [
    { id := Uuid.ofNat 5, deviceId := Uuid.ofNat 4, networkId := Uuid.ofNat 1
      pfx := "192.168.7.0/24", enabled := true, approved := approved }] (List.nodup_singleton _)

theorem retiredOffice_inactive (key : String) (approved : Bool) :
    ∀ d ∈ (retiredOffice key approved).devices, d.id = Uuid.ofNat 4 → d.isActive = false := by
  intro d hd hid
  rcases List.mem_cons.1 hd with rfl | hd
  · exact absurd hid (by decide)
  · rcases List.mem_cons.1 hd with rfl | hd
    · exact absurd hid (by decide)
    · rw [List.mem_singleton.1 hd]

theorem retiredOffice_differsIn (key key' : String) (approved approved' : Bool) :
    (retiredOffice key approved).DiffersIn (retiredOffice key' approved') (Uuid.ofNat 4) where
  inactive := retiredOffice_inactive key approved
  inactive' := retiredOffice_inactive key' approved'
  devices := rfl
  endpoints := rfl
  routes := rfl
  networks := rfl
  dnsEntries := rfl

/-- The laptop does not see the router's key. -/
theorem inactive_device_unseen_iff_office :
    SameConfig (buildConfigV2 plainEnv (retiredOffice "R" true) retiredLaptop)
      (buildConfigV2 { plainEnv with now := 1 } (retiredOffice "R2" true) retiredLaptop) :=
  (inactive_device_unseen_iff ⟨rfl, rfl, rfl⟩ (retiredOffice_differsIn "R" "R2" true true)
    (by decide)).2 fun _ => by decide

/-- The laptop sees whether the inactive router's route is approved. -/
theorem retired_router_seen : ¬ ∀ (db db' : Database) (x : Uuid) (d : Device),
    db.DiffersIn db' x → d ∈ db.devices → d.isActive = true → d.id ≠ x → d.exitNodeId ≠ some x →
      SameConfig (buildConfigV2 plainEnv db d) (buildConfigV2 plainEnv db' d) := by
  intro h
  have hdiffers := retiredOffice_differsIn "R" "R" true false
  have hsame := h _ _ _ retiredLaptop hdiffers (by decide) rfl (by decide) (by decide)
  have hconf : retiredLaptop.Configurable plainEnv (retiredOffice "R" true) :=
    ⟨rfl, rfl, rfl, _, rfl, ⟨.star, rfl⟩, _, rfl⟩
  obtain ⟨r, hr⟩ := (buildConfigV2_ok_iff (by decide)).2 hconf
  rw [SameConfig, hr] at hsame
  cases hr' : buildConfigV2 plainEnv (retiredOffice "R" false) retiredLaptop with
  | error e =>
    rw [hr'] at hsame
    cases hsame
  | ok r' =>
    rw [hr'] at hsame
    have hshown : r'.withoutClock = r.withoutClock := Except.ok.inj hsame
    have hroutes := congrArg DeviceConfigV2Response.routes hshown
    change r'.routes = r.routes at hroutes
    rw [buildConfigV2_routes hr, buildConfigV2_routes hr'] at hroutes
    exact absurd hroutes (by decide)

end Midscale
