import Midscale.Wireguard.Controller

/-!
# The hub's plan and the controller's desired peers

The control plane computes the hub's peers twice: the topology generators from the snapshot of
one network, for the configuration that the hub is sent, and the controller from the joined rows
of all networks, for the interface it manages itself.

* `PlanInput.hubPeers_eq` : all three generators give the hub one peer for every other device,
  with its host route and its approved routes; the hub's exit node is never an extra peer.
* `hub_plan_eq_desired` : **the two lists agree**, when one network uses the interface and the
  network has one hub.
-/

namespace Midscale

/-! ### The hub's plan -/

theorem PlanInput.withExitNode_of_hub {i : PlanInput} (hid : i.device.id = i.serverDeviceId)
    {f : DeviceState → PeerPlan} (hf : ∀ d, (f d).publicKey = d.publicKey) :
    i.withExitNode ((i.allDevices.filter fun d => d.id ≠ i.device.id).map f) =
      (i.allDevices.filter fun d => d.id ≠ i.device.id).map f := by
  rcases i.withExitNode_cases ((i.allDevices.filter fun d => d.id ≠ i.device.id).map f) with
    h | ⟨ed, hed, -, hne, -, -, hnew, -⟩
  · exact h
  · have hmem : f ed ∈ (i.allDevices.filter fun d => d.id ≠ i.device.id).map f :=
      List.mem_map_of_mem (List.mem_filter.2 ⟨hed, decide_eq_true (hid ▸ hne)⟩)
    exact absurd (hf ed) (hnew _ hmem)

/-- The hub's peers in every topology: one for every other device, with its host route and its
approved routes. -/
theorem PlanInput.hubPeers_eq (settings : Settings) (t : TopologyType) {i : PlanInput}
    {server : DeviceState} (hs : server ∈ i.allDevices) (hserver : server.id = i.serverDeviceId)
    (hid : i.device.id = i.serverDeviceId) :
    (t.generatePlan settings i).peers.map (fun p => (p.publicKey, p.allowedIps)) =
      (i.allDevices.filter fun d => d.id ≠ i.serverDeviceId).map fun d =>
        (d.publicKey, i.peerAllowedIps d) := by
  cases t with
  | star =>
    rw [TopologyType.generatePlan, StarTopologyGenerator.peers_of_hub hs hserver hid, List.map_map]
    rfl
  | mesh =>
    rw [TopologyType.generatePlan, MeshTopologyGenerator.generatePlan, plan_peers,
      withExitNode_of_hub hid fun _ => rfl, List.map_map, hid]
    rfl
  | hybrid =>
    have hkey : ∀ d, (HybridTopologyGenerator.peer settings i d).publicKey = d.publicKey := by
      intro d
      simp only [HybridTopologyGenerator.peer]
      split_ifs <;> rfl
    rw [TopologyType.generatePlan, HybridTopologyGenerator.generatePlan, plan_peers,
      withExitNode_of_hub hid hkey, List.map_map, hid]
    refine List.map_congr_left fun d hd => ?_
    -- the subnet entry is the hub's own, which is not among its peers
    have hne : d.id ≠ i.serverDeviceId := by simpa using (List.mem_filter.1 hd).2
    simp only [Function.comp_apply, HybridTopologyGenerator.peer, hne, ↓reduceIte]
    split_ifs <;> rfl

/-! ### The two lists -/

section Agreement

variable {db : Database} {settings : Settings} {interface : String} {network : Network}
  {hub : Device}

theorem Database.any_interfaceOf_iff (hnet : network ∈ db.networks)
    (hiface : settings.interfaceOf network = interface)
    (honly : ∀ n ∈ db.networks, settings.interfaceOf n = interface → n = network) (d : Device) :
    ((db.networks.get? d.networkId).any fun n => settings.interfaceOf n = interface) = true ↔
      d.networkId = network.id := by
  constructor
  · intro h
    obtain ⟨n, hn, hni⟩ := (Option.any_eq_true _ _).1 h
    obtain ⟨hmem, hid⟩ := Table.get?_eq_some_iff.1 hn
    rw [← hid, honly n hmem (by simpa using hni)]
    rfl
  · intro h
    rw [Table.get?_eq_some_iff.2 ⟨hnet, h.symm⟩]
    simpa using hiface

theorem Database.interfaceDevices_eq (hnet : network ∈ db.networks)
    (hiface : settings.interfaceOf network = interface)
    (honly : ∀ n ∈ db.networks, settings.interfaceOf n = interface → n = network)
    (hhub : hub ∈ db.plannedDevices network.id) (hname : hub.name = serverName)
    (huniq : ∀ d ∈ db.plannedDevices network.id, d.name = serverName → d = hub) :
    db.interfaceDevices settings interface =
      (db.plannedDevices network.id).filter fun d => d.id ≠ hub.id := by
  rw [interfaceDevices, plannedDevices, Table.select, Table.select, List.filter_filter]
  refine List.filter_congr fun d hd => ?_
  rw [Bool.eq_iff_iff, Bool.and_eq_true, decide_eq_true_eq, decide_eq_true_eq, decide_eq_true_eq,
    any_interfaceOf_iff hnet hiface honly]
  constructor
  -- leaving out the server's name leaves out the hub and nothing else
  · rintro ⟨hact, hkey, hip, hne, hid⟩
    refine ⟨fun h => hne ?_, hid, hact, hkey, hip⟩
    rw [db.devices.eq_of_pk hd (mem_plannedDevices.1 hhub).1 h, hname]
  · rintro ⟨hne, hid, hact, hkey, hip⟩
    refine ⟨hact, hkey, hip, fun h => hne ?_, hid⟩
    rw [huniq d (mem_plannedDevices.2 ⟨hd, hid, hact, hkey, hip⟩) h]

theorem Database.allRoutesByDevice_eq
    (hroutes : ∀ r ∈ db.routes, ∀ d ∈ db.devices, r.deviceId = d.id → r.networkId = d.networkId)
    {d : Device} (hd : d ∈ db.devices) (hid : d.networkId = network.id) :
    db.allRoutesByDevice.getD d.id.str [] =
      (db.buildRoutesByDevice network.id).2.getD d.id.str [] := by
  rw [routesOf_eq, allRoutesByDevice, Dict.getD_groupBy, approvedRoutes, Table.select, Table.select,
    List.filter_filter, List.filter_filter]
  refine congrArg _ (List.filter_congr fun r hr => ?_)
  rw [Bool.eq_iff_iff, Bool.and_eq_true, Bool.and_eq_true, decide_eq_true_eq, decide_eq_true_eq,
    decide_eq_true_eq, Uuid.str_inj]
  constructor
  · rintro ⟨hdev, happ, hen⟩
    exact ⟨hdev, (hroutes r hr d hd hdev).trans hid, happ, hen⟩
  · rintro ⟨hdev, -, happ, hen⟩
    exact ⟨hdev, happ, hen⟩

/-- **The hub's plan and the controller's desired peers agree**, in every topology: the same peers
in the same order, with the same keys and the same AllowedIPs. -/
theorem hub_plan_eq_desired (t : TopologyType) (hnet : network ∈ db.networks)
    (hiface : settings.interfaceOf network = interface)
    (honly : ∀ n ∈ db.networks, settings.interfaceOf n = interface → n = network)
    (hhub : hub ∈ db.plannedDevices network.id) (hname : hub.name = serverName)
    (huniq : ∀ d ∈ db.plannedDevices network.id, d.name = serverName → d = hub)
    (hroutes : ∀ r ∈ db.routes, ∀ d ∈ db.devices, r.deviceId = d.id →
      r.networkId = d.networkId) :
    (t.generatePlan settings (db.planInput network hub.state)).peers.map
        (fun p => (p.publicKey, p.allowedIps)) =
      (db.getDesiredPeers settings interface).map fun p => (p.publicKey, p.allowedIps) := by
  have hserver : (db.planInput network hub.state).serverDeviceId = hub.id.str := by
    rw [Database.planInput, Database.buildDeviceStates_server hhub hname huniq, Option.getD_some]
  rw [PlanInput.hubPeers_eq settings t (List.mem_map_of_mem hhub) hserver.symm hserver.symm,
    hserver, Database.getDesiredPeers,
    Database.interfaceDevices_eq hnet hiface honly hhub hname huniq, List.map_map]
  change ((db.plannedDevices network.id).map Device.state |>.filter _).map _ = _
  rw [List.filter_map, List.map_map]
  -- the plan's devices are the rows, compared by the texts of their ids
  have hfilter : ((fun d : DeviceState => decide (d.id ≠ hub.id.str)) ∘ Device.state) =
      fun d : Device => decide (d.id ≠ hub.id) := by
    funext d
    simp only [Function.comp_apply, Device.state, ne_eq, Uuid.str_inj]
  rw [hfilter]
  refine List.map_congr_left fun d hd => ?_
  obtain ⟨hd, hid, -⟩ := Database.mem_plannedDevices.1 (List.mem_filter.1 hd).1
  simp only [Function.comp_apply, PlanInput.peerAllowedIps, Database.desiredPeer,
    Database.allRoutesByDevice_eq hroutes hd hid]
  rfl

end Agreement

/-- The network of an office. -/
def officeNetwork : Network := { id := Uuid.ofNat 1, name := "office", subnet := "10.0.0.0/24" }

/-- Its hub, with the router as exit node. -/
def officeHub : Device :=
  { id := Uuid.ofNat 2, name := serverName, networkId := Uuid.ofNat 1
    publicKey := some "key-hub", ipAddress := some "10.0.0.1", exitNodeId := some (Uuid.ofNat 3) }

/-- The hub, a router with an approved route, and a laptop. -/
def hubOffice : Database where
  networks := .ofRows [officeNetwork]
  devices := .ofRows [officeHub,
    { id := Uuid.ofNat 3, name := "router", networkId := Uuid.ofNat 1
      publicKey := some "key-r", ipAddress := some "10.0.0.2" },
    { id := Uuid.ofNat 4, name := "laptop", networkId := Uuid.ofNat 1
      publicKey := some "key-l", ipAddress := some "10.0.0.3" }]
  routes := .ofRows [
    { id := Uuid.ofNat 5, deviceId := Uuid.ofNat 3, networkId := Uuid.ofNat 1
      pfx := "192.168.7.0/24", enabled := true, approved := true }]

/-- The hub's mesh plan lists the controller's desired peers. -/
theorem hub_plan_eq_desired_office :
    (TopologyType.mesh.generatePlan {} (hubOffice.planInput officeNetwork officeHub.state)).peers.map
        (fun p => (p.publicKey, p.allowedIps)) =
      [("key-r", ["10.0.0.2/32", "192.168.7.0/24"]), ("key-l", ["10.0.0.3/32"])] := by
  have hdesired : (hubOffice.getDesiredPeers {} "wg0").map (fun p => (p.publicKey, p.allowedIps)) =
      [("key-r", ["10.0.0.2/32", "192.168.7.0/24"]), ("key-l", ["10.0.0.3/32"])] := by decide
  rw [← hdesired]
  exact hub_plan_eq_desired .mesh (by decide) (by decide) (by decide) (by decide) (by decide)
    (by decide) (by decide)

end Midscale
