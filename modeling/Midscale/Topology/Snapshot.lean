import Midscale.Data.SetOrder
import Midscale.Topology.Plan

/-!
# Snapshots of a network

`app.services.network_state`: the pure state objects that the topology generators work on, built
from the tables.

* `Database.planInput` : the arguments of `generate_plan` for one device of a network.
* `Database.routesOf_eq` : the routes of a device are its approved and enabled rows, in order.
-/

namespace Midscale

/-- `network.topology or settings.wireguard_topology`. -/
def Settings.topologyOf (settings : Settings) (topology : Option String) : String :=
  match topology with
  | some t => if t ≠ "" then t else settings.wireguardTopology
  | none => settings.wireguardTopology

/-- The `DeviceState` of a row. -/
def Device.state (d : Device) : DeviceState where
  id := d.id.str
  publicKey := d.publicKey.getD ""
  ipAddress := d.ipAddress.getD ""
  dnsEnabled := d.dnsEnabled
  exitNodeId := d.exitNodeId.map Uuid.str

/-- The `NetworkState` of a row. -/
def Network.state (n : Network) : NetworkState where
  subnet := n.subnet
  topology := n.topology

theorem Device.state_exitNodeId_eq_iff {d : Device} {id : Uuid} :
    d.state.exitNodeId = some id.str ↔ d.exitNodeId = some id := by
  change d.exitNodeId.map Uuid.str = some id.str ↔ _
  simp [Option.map_eq_some_iff]

namespace Database

/-- The active devices of a network that have a key and an address. -/
def plannedDevices (db : Database) (networkId : Uuid) : List Device :=
  db.devices.select fun d =>
    d.networkId = networkId ∧ d.isActive ∧ d.publicKey.isSome ∧ d.ipAddress.isSome

/-- `build_network_state`, `none` when there is no such network. -/
def buildNetworkState (db : Database) (networkId : Uuid) : Option NetworkState :=
  (db.networks.get? networkId).map Network.state

/-- `build_device_states`: the states, and the id of the last device with the server's name. -/
def buildDeviceStates (db : Database) (networkId : Uuid) : List DeviceState × Option String :=
  let devices := db.plannedDevices networkId
  (devices.map Device.state,
    devices.foldl (fun sid d => if d.name = serverName then some d.id.str else sid) none)

/-- `build_dns_servers`. -/
def buildDnsServers (order : SetOrder String) (db : Database) (networkId : Uuid) :
    Option (List String) :=
  match db.dnsEntries.select fun e => e.networkId = networkId with
  | [] => none
  | entries => some (order.elems (entries.map (·.address)))

/-- The approved and enabled routes of a network. -/
def approvedRoutes (db : Database) (networkId : Uuid) : List AdvertisedRoute :=
  db.routes.select fun r => r.networkId = networkId ∧ r.approved ∧ r.enabled

/-- `build_routes_by_device`: all prefixes, and the prefixes of each device. -/
def buildRoutesByDevice (db : Database) (networkId : Uuid) :
    List String × Dict String (List String) :=
  let rows := db.approvedRoutes networkId
  (rows.map (·.pfx), Dict.groupBy (·.deviceId.str) (·.pfx) rows)

/-- `build_endpoints_by_device`. -/
def buildEndpointsByDevice (db : Database) (networkId : Uuid) :
    Dict String (List DeviceEndpoint) :=
  let ids := (db.devices.select fun d => d.networkId = networkId ∧ d.isActive).map (·.id)
  Dict.groupBy (·.deviceId.str) (fun e => e)
    (sortEndpoints (db.endpoints.select fun e => e.isActive ∧ e.deviceId ∈ ids))

/-- The arguments of `generate_plan` for a device, as `build_config_v2` passes them. -/
def planInput (db : Database) (network : Network) (device : DeviceState) : PlanInput where
  device := device
  allDevices := (db.buildDeviceStates network.id).1
  network := network.state
  serverDeviceId := (db.buildDeviceStates network.id).2.getD ""
  routesByDevice := (db.buildRoutesByDevice network.id).2
  endpointsByDevice := db.buildEndpointsByDevice network.id

/-! ### What the snapshot holds -/

theorem mem_plannedDevices {db : Database} {networkId : Uuid} {d : Device} :
    d ∈ db.plannedDevices networkId ↔ d ∈ db.devices ∧ d.networkId = networkId ∧
      d.isActive = true ∧ d.publicKey.isSome = true ∧ d.ipAddress.isSome = true := by
  rw [plannedDevices, Table.mem_select, decide_eq_true_eq]

/-- The devices of a snapshot are told apart by their ids. -/
theorem eq_of_id {db : Database} {networkId : Uuid} {d d' : Device}
    (hd : d ∈ db.plannedDevices networkId) (hd' : d' ∈ db.plannedDevices networkId)
    (hid : d.id = d'.id) : d = d' :=
  db.devices.eq_of_pk (mem_plannedDevices.1 hd).1 (mem_plannedDevices.1 hd').1 hid

theorem routesOf_eq (db : Database) (networkId : Uuid) (k : String) :
    (db.buildRoutesByDevice networkId).2.getD k [] =
      ((db.approvedRoutes networkId).filter fun r => r.deviceId.str = k).map (·.pfx) :=
  Dict.getD_groupBy ..

theorem buildDeviceStates_server {db : Database} {networkId : Uuid} {hub : Device}
    (hhub : hub ∈ db.plannedDevices networkId) (hname : hub.name = serverName)
    (huniq : ∀ d ∈ db.plannedDevices networkId, d.name = serverName → d = hub) :
    (db.buildDeviceStates networkId).2 = some hub.id.str := by
  -- the loop keeps the last device with the name, and there is only one
  have hfold : ∀ (l : List Device) (sid : Option String), (∀ d ∈ l, d.name = serverName → d = hub) →
      hub ∈ l ∨ sid = some hub.id.str →
      l.foldl (fun sid d => if d.name = serverName then some d.id.str else sid) sid =
        some hub.id.str := by
    intro l
    induction l with
    | nil => rintro sid - (h | h); exacts [absurd h List.not_mem_nil, h]
    | cons d ds ih =>
      intro sid hl h
      rw [List.foldl_cons]
      apply ih _ fun e he => hl e (List.mem_cons_of_mem _ he)
      by_cases hd : d.name = serverName
      · right
        rw [if_pos hd, hl d List.mem_cons_self hd]
      · rw [if_neg hd]
        rcases h with h | h
        · rcases List.mem_cons.1 h with rfl | h
          · exact absurd hname hd
          · exact .inl h
        · exact .inr h
  exact hfold _ none huniq (.inl hhub)

end Database

end Midscale
