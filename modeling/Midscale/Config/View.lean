import Midscale.Config.V2

/-!
# What a configuration is made of

`build_config_v2` reads the tables through the queries of `network_state`.  What it makes of their
answers is a function of its own, so two executions are compared by comparing the answers.

* `ConfigView` : the answers.
* `ConfigView.response` : the response that is made of them.
* `buildConfigV2_cases` : **two executions that find networks alike and the same device both fail or
  both answer**, with what is made of their views.
* `buildConfigV2_of_star` : in a star no configuration shows an endpoint.
-/

namespace Midscale

/-- The answers of the queries of `build_config_v2` about a network. -/
structure ConfigView where
  states : List DeviceState
  serverDeviceId : Option String
  dnsServers : Option (List String)
  routes : List String
  routesByDevice : Dict String (List String)
  endpointsByDevice : Dict String (List DeviceEndpoint)

/-- The answers from a database; the addresses of DNS servers come out of a set. -/
def Database.configView (db : Database) (order : SetOrder String) (networkId : Uuid) :
    ConfigView where
  states := (db.buildDeviceStates networkId).1
  serverDeviceId := (db.buildDeviceStates networkId).2
  dnsServers := db.buildDnsServers order networkId
  routes := (db.buildRoutesByDevice networkId).1
  routesByDevice := (db.buildRoutesByDevice networkId).2
  endpointsByDevice := db.buildEndpointsByDevice networkId

namespace ConfigView

variable (v : ConfigView)

/-- The arguments of `generate_plan`. -/
def planInput (network : Network) (device : DeviceState) : PlanInput where
  device := device
  allDevices := v.states
  network := network.state
  serverDeviceId := v.serverDeviceId.getD ""
  routesByDevice := v.routesByDevice
  endpointsByDevice := v.endpointsByDevice

/-- The endpoints that are shown for a peer with the key. -/
def endpointsOf (key : String) : List DeviceEndpoint :=
  v.endpointsByDevice.getD ((Dict.ofRows (·.publicKey) (·.id) v.states).getD key "") []

/-- The peers of the plan with their endpoints. -/
def peers (settings : Settings) (t : TopologyType) (network : Network) (device : DeviceState) :
    List PeerInfo :=
  (t.generatePlan settings (v.planInput network device)).peers.map fun p =>
    p.info settings (isMeshOrHybrid (settings.topologyOf network.topology))
      (v.endpointsOf p.publicKey)

/-- The response without its hash. -/
def content (env : Env) (device : Device) (network : Network) (current : DeviceState)
    (t : TopologyType) (net : IPv4Network) : DeviceConfigV2Response where
  interface :=
    { address := current.ipAddress ++ "/" ++ toString net.prefixlen.val
      dns := if device.dnsEnabled then v.dnsServers else none }
  peers := v.peers env.settings t network current
  routes := v.routes
  exitNode := device.exitNodeId.map Uuid.str
  minDaemonVersion := some "0.1.0"
  revision := toString (env.now.tdiv 1000000)
  generatedAt := env.now.isoformat

/-- The response. -/
def response (env : Env) (device : Device) (network : Network) (current : DeviceState)
    (t : TopologyType) (net : IPv4Network) : DeviceConfigV2Response :=
  let content := v.content env device network current t net
  { content with hash := env.security.computeConfigHash content.configData }

end ConfigView

/-- What the response is made of, besides the view: the network, the state of the device, the
topology and the subnet. -/
structure Database.ConfigSubject (db : Database) (env : Env) (device : Device) (network : Network)
    (current : DeviceState) (t : TopologyType) (net : IPv4Network) : Prop where
  network_eq : db.networks.get? device.networkId = some network
  current_eq : (db.buildDeviceStates device.networkId).1.find? (fun s => s.id = device.id.str) =
    some current
  generator : env.settings.generatorOf network.topology = .ok t
  subnet : IPv4Network.parse network.subnet = some net

/-- The response is made of the view. -/
theorem Database.ConfigSubject.build {db : Database} {env : Env} {device : Device}
    {network : Network} {current : DeviceState} {t : TopologyType} {net : IPv4Network}
    (h : db.ConfigSubject env device network current t net) : buildConfigV2 env db device =
      .ok ((db.configView env.setOrder device.networkId).response env device network current t
        net) := by
  have hid : network.id = device.networkId := (Table.get?_eq_some_iff.1 h.network_eq).2
  have hinput : db.planInput network current =
      (db.configView env.setOrder device.networkId).planInput network current := by
    rw [planInput, hid]
    rfl
  rw [buildConfigV2]
  simp only [h.network_eq, scalarOne, getOr, ok_bind, h.current_eq, h.generator, h.subnet, hinput]
  rfl

theorem ConfigView.content_network (v : ConfigView) (env : Env) (device : Device)
    {network network' : Network} (h : network'.state = network.state) (current : DeviceState)
    (t : TopologyType) (net : IPv4Network) :
    v.content env device network' current t net = v.content env device network current t net := by
  have htopology : network'.topology = network.topology := congrArg NetworkState.topology h
  simp only [content, peers, planInput, h, htopology]

/-- **Two executions that find networks alike and the same state of the device** both fail, with
the same error, or both make a response of their views. -/
theorem buildConfigV2_cases {env env' : Env} {db db' : Database} {device : Device}
    (hsettings : env'.settings = env.settings)
    (hnetwork : (db'.networks.get? device.networkId).map Network.state =
      (db.networks.get? device.networkId).map Network.state)
    (hcurrent :
      (db'.buildDeviceStates device.networkId).1.find? (fun s => s.id = device.id.str) =
        (db.buildDeviceStates device.networkId).1.find? fun s => s.id = device.id.str) :
    (∃ e, buildConfigV2 env db device = .error e ∧ buildConfigV2 env' db' device = .error e) ∨
      ∃ network network' current t net, network'.state = network.state ∧
        db.ConfigSubject env device network current t net ∧
          db'.ConfigSubject env' device network' current t net := by
  cases hn : db.networks.get? device.networkId with
  | none =>
    left
    rw [hn, Option.map_none, Option.map_eq_none_iff] at hnetwork
    refine ⟨.internal "NoResultFound", ?_, ?_⟩
    · simp only [buildConfigV2, hn, scalarOne, getOr, error_bind]
    · simp only [buildConfigV2, hnetwork, scalarOne, getOr, error_bind]
  | some network =>
    rw [hn, Option.map_some, Option.map_eq_some_iff] at hnetwork
    obtain ⟨network', hn', hstate⟩ := hnetwork
    have htopology : network'.topology = network.topology := congrArg NetworkState.topology hstate
    have hsubnet : network'.subnet = network.subnet := congrArg NetworkState.subnet hstate
    cases hs : (db.buildDeviceStates device.networkId).1.find? fun s => s.id = device.id.str with
    | none =>
      left
      rw [hs] at hcurrent
      refine ⟨.http 404 "Device not found in active devices", ?_, ?_⟩
      · simp only [buildConfigV2, hn, hs, scalarOne, getOr, ok_bind, error_bind]
      · simp only [buildConfigV2, hn', hcurrent, scalarOne, getOr, ok_bind, error_bind]
    | some current =>
      rw [hs] at hcurrent
      cases ht : env.settings.generatorOf network.topology with
      | error e =>
        left
        refine ⟨e, ?_, ?_⟩
        · simp only [buildConfigV2, hn, hs, ht, scalarOne, getOr, ok_bind, error_bind]
        · simp only [buildConfigV2, hn', hcurrent, hsettings, htopology, ht, scalarOne, getOr,
            ok_bind, error_bind]
      | ok t =>
        cases hp : IPv4Network.parse network.subnet with
        | none =>
          left
          refine ⟨.internal "ValueError", ?_, ?_⟩
          · simp only [buildConfigV2, hn, hs, ht, hp, scalarOne, getOr, ok_bind, error_bind]
          · simp only [buildConfigV2, hn', hcurrent, hsettings, htopology, ht, hsubnet, hp, scalarOne,
              getOr, ok_bind, error_bind]
        | some net =>
          right
          refine ⟨network, network', current, t, net, hstate, ⟨hn, hs, ht, hp⟩,
            ⟨hn', hcurrent, ?_, hsubnet ▸ hp⟩⟩
          rw [hsettings, htopology, ht]

/-- In a star no configuration shows an endpoint. -/
theorem buildConfigV2_of_star {env : Env} {db : Database} {device : Device} {network : Network}
    (hnetwork : db.networks.get? device.networkId = some network)
    (hstar : env.settings.topologyOf network.topology = "star") (endpoints : Table DeviceEndpoint) :
    buildConfigV2 env { db with endpoints := endpoints } device = buildConfigV2 env db device := by
  have hcases := @buildConfigV2_cases env env db { db with endpoints := endpoints } device
  rcases hcases rfl rfl rfl with ⟨e, hold, hnew⟩ | ⟨n, n', current, t, net, -, hold, hnew⟩
  · rw [hold, hnew]
  · rw [hold.build, hnew.build]
    obtain rfl : network = n := Option.some.inj (hnetwork.symm.trans hold.network_eq)
    obtain rfl : network = n' := Option.some.inj (hnetwork.symm.trans hnew.network_eq)
    obtain rfl : t = .star := by
      have hgenerator := hold.generator
      rw [Settings.generatorOf, hstar] at hgenerator
      exact (Except.ok.inj hgenerator).symm
    have hplain : isMeshOrHybrid (env.settings.topologyOf network.topology) = false := by
      rw [hstar]
      rfl
    have hpeers : ∀ v v' : ConfigView,
        v'.planInput network current = { v.planInput network current with
          endpointsByDevice := v'.endpointsByDevice } →
        v'.peers env.settings .star network current = v.peers env.settings .star network current := by
      intro v v' hinput
      rw [ConfigView.peers, ConfigView.peers, hinput, hplain]
      refine List.map_congr_left fun p _ => ?_
      simp [PeerPlan.info]
    have hcontent := hpeers (db.configView env.setOrder device.networkId)
      (Database.configView { db with endpoints := endpoints } env.setOrder device.networkId) rfl
    simp only [ConfigView.response, ConfigView.content, hcontent]
    rfl

end Midscale
