import Midscale.Data.Dict
import Midscale.Database.Schema
import Mathlib.Data.List.Sort

/-!
# Topology plans

The three topology generators of `app.services.topology`: pure functions from a snapshot of the
network's active devices, their approved routes and their active endpoints to the peers that one
device is to have.

* `StarTopologyGenerator.generatePlan` : clients have one peer, the hub, with the whole subnet;
  the hub has one peer for every client.
* `MeshTopologyGenerator.generatePlan` : every other device is a peer.
* `HybridTopologyGenerator.generatePlan` : every other device is a peer, the hub with the whole
  subnet.

`TopologyType.generatePlan` dispatches on the topology.
-/

namespace Midscale

/-- `TopologyType`. -/
inductive TopologyType where
  | star
  | mesh
  | hybrid
  deriving DecidableEq, Repr

/-- `TopologyType(text)`, `none` when it raises `ValueError`. -/
def TopologyType.parse : String → Option TopologyType
  | "star" => some .star
  | "mesh" => some .mesh
  | "hybrid" => some .hybrid
  | _ => none

/-- Read-only device snapshot for topology planning. -/
structure DeviceState where
  id : String
  publicKey : String
  ipAddress : String
  dnsEnabled : Bool := false
  exitNodeId : Option String := none
  deriving DecidableEq, Repr

/-- Read-only network snapshot for topology planning. -/
structure NetworkState where
  subnet : String
  topology : Option String := none
  deriving DecidableEq, Repr

/-- A single peer entry in a device's topology plan. -/
structure PeerPlan where
  publicKey : String
  allowedIps : List String := []
  endpoint : Option String := none
  endpointPort : Option ℤ := none
  persistentKeepalive : Option ℕ := none
  relayFallback : Bool := false
  deriving DecidableEq, Repr

/-- Connectivity plan for a single device. -/
structure TopologyPlan where
  deviceId : String
  address : String
  subnet : String
  dnsServers : Option (List String) := none
  peers : List PeerPlan := []
  mtu : Option ℕ := none
  deriving DecidableEq, Repr

/-- The arguments of `generate_plan`. -/
structure PlanInput where
  device : DeviceState
  allDevices : List DeviceState
  network : NetworkState
  serverDeviceId : String
  routesByDevice : Dict String (List String) := .empty
  endpointsByDevice : Dict String (List DeviceEndpoint) := .empty

/-! ### Helpers -/

/-- Python's truth value of an optional text: present and not empty. -/
def truthy : Option String → Bool
  | none => false
  | some s => s ≠ ""

/-- Python's `a or b` on optional texts. -/
def orText (a b : Option String) : Option String := if truthy a then a else b

/-- Python's `a or b` on optional numbers. -/
def orPort (a b : Option ℤ) : Option ℤ := if a.any (· ≠ 0) then a else b

/-- `settings.wireguard_server_endpoint or "localhost"`. -/
def Settings.serverEndpoint (settings : Settings) : String :=
  if settings.wireguardServerEndpoint ≠ "" then settings.wireguardServerEndpoint
  else "localhost"

/-- The order of `_sort_endpoints`: priority descending, then last seen descending. -/
def endpointLe (e e' : DeviceEndpoint) : Prop :=
  e'.priority < e.priority ∨ (e'.priority = e.priority ∧ e'.lastSeen ≤ e.lastSeen)

instance : DecidableRel endpointLe := fun _ _ => inferInstanceAs (Decidable (_ ∨ _))

instance : Std.Total endpointLe where
  total e e' := by
    unfold endpointLe
    grind

instance : IsTrans DeviceEndpoint endpointLe where
  trans e e' e'' h h' := by
    unfold endpointLe at *
    grind

/-- `_sort_endpoints`; insertion sort, like Python's `sorted`, keeps ties in order. -/
def sortEndpoints (eps : List DeviceEndpoint) : List DeviceEndpoint :=
  eps.insertionSort endpointLe

/-- `_best_endpoint`. -/
def bestEndpoint (eps : List DeviceEndpoint) : Option String × Option ℤ :=
  match sortEndpoints (eps.filter (·.isActive)) with
  | [] => (none, none)
  | best :: _ => (some best.endpoint, some best.port)

/-- `f"{ip_address}/32"`. -/
def hostRoute (ipAddress : String) : String := ipAddress ++ "/32"

/-- The `[f"{other.ip_address}/32"]` of a peer extended by its approved routes. -/
def PlanInput.peerAllowedIps (i : PlanInput) (other : DeviceState) : List String :=
  hostRoute other.ipAddress :: i.routesByDevice.getD other.id []

/-- The exit-node peer that each generator appends last: the selected exit node, when it is
neither the hub nor a peer already. -/
def PlanInput.withExitNode (i : PlanInput) (peers : List PeerPlan) : List PeerPlan :=
  if truthy i.device.exitNodeId ∧ i.device.exitNodeId ≠ some i.serverDeviceId then
    match i.allDevices.filter fun d => some d.id = i.device.exitNodeId with
    | [] => peers
    | ed :: _ =>
      if ed.publicKey ≠ "" ∧ ¬ peers.any (·.publicKey = ed.publicKey) then
        peers ++ [{ publicKey := ed.publicKey, allowedIps := ["0.0.0.0/0", "::/0"] }]
      else peers
  else peers

/-- The plan with the given peers. -/
def PlanInput.plan (i : PlanInput) (peers : List PeerPlan) : TopologyPlan where
  deviceId := i.device.id
  address := i.device.ipAddress
  subnet := i.network.subnet
  peers := peers

/-! ### Star -/

namespace StarTopologyGenerator

/-- The hub's entry for a client. -/
def clientPeer (i : PlanInput) (other : DeviceState) : PeerPlan where
  publicKey := other.publicKey
  allowedIps := i.peerAllowedIps other

/-- A client's entry for the hub. -/
def serverPeer (settings : Settings) (i : PlanInput) (server : DeviceState) : PeerPlan where
  publicKey := server.publicKey
  allowedIps := [i.network.subnet]
  endpoint := some settings.serverEndpoint
  endpointPort := some settings.wireguardPort
  persistentKeepalive := some 25

/-- `StarTopologyGenerator.generate_plan`. -/
def generatePlan (settings : Settings) (i : PlanInput) : TopologyPlan :=
  match i.allDevices.find? fun d => d.id = i.serverDeviceId with
  | none => i.plan []
  | some server =>
    if i.device.id = i.serverDeviceId then
      i.plan ((i.allDevices.filter fun other => other.id ≠ i.serverDeviceId).map (clientPeer i))
    else
      i.plan (i.withExitNode [serverPeer settings i server])

end StarTopologyGenerator

/-! ### Mesh -/

namespace MeshTopologyGenerator

/-- The entry for another device. -/
def peer (settings : Settings) (i : PlanInput) (other : DeviceState) : PeerPlan :=
  let eps := i.endpointsByDevice.getD other.id []
  let best := bestEndpoint eps
  let isServer := other.id = i.serverDeviceId
  { publicKey := other.publicKey
    allowedIps := i.peerAllowedIps other
    endpoint := orText best.1 (if isServer then some settings.serverEndpoint else none)
    endpointPort := orPort best.2 (if isServer then some settings.wireguardPort else none)
    persistentKeepalive := some 25
    relayFallback := eps.isEmpty }

/-- `MeshTopologyGenerator.generate_plan`. -/
def generatePlan (settings : Settings) (i : PlanInput) : TopologyPlan :=
  i.plan (i.withExitNode
    ((i.allDevices.filter fun other => other.id ≠ i.device.id).map (peer settings i)))

end MeshTopologyGenerator

/-! ### Hybrid -/

namespace HybridTopologyGenerator

/-- The entry for another device: the hub with the whole subnet, a device with a known endpoint
directly, any other device without an endpoint. -/
def peer (settings : Settings) (i : PlanInput) (other : DeviceState) : PeerPlan :=
  let best := bestEndpoint (i.endpointsByDevice.getD other.id [])
  if other.id = i.serverDeviceId then
    { publicKey := other.publicKey
      allowedIps := [i.network.subnet]
      endpoint := orText best.1 (some settings.serverEndpoint)
      endpointPort := orPort best.2 (some settings.wireguardPort)
      persistentKeepalive := some 25 }
  else if truthy best.1 then
    { publicKey := other.publicKey
      allowedIps := i.peerAllowedIps other
      endpoint := best.1
      endpointPort := best.2
      persistentKeepalive := some 25 }
  else
    { publicKey := other.publicKey
      allowedIps := i.peerAllowedIps other
      relayFallback := true }

/-- `HybridTopologyGenerator.generate_plan`. -/
def generatePlan (settings : Settings) (i : PlanInput) : TopologyPlan :=
  i.plan (i.withExitNode
    ((i.allDevices.filter fun other => other.id ≠ i.device.id).map (peer settings i)))

end HybridTopologyGenerator

/-- `generate_plan` of the generator for a topology. -/
def TopologyType.generatePlan (settings : Settings) : TopologyType → PlanInput → TopologyPlan
  | .star => StarTopologyGenerator.generatePlan settings
  | .mesh => MeshTopologyGenerator.generatePlan settings
  | .hybrid => HybridTopologyGenerator.generatePlan settings

/-! ### What the generators produce -/

@[simp] theorem PlanInput.plan_peers (i : PlanInput) (ps : List PeerPlan) :
    (i.plan ps).peers = ps := rfl

@[simp] theorem PlanInput.plan_address (i : PlanInput) (ps : List PeerPlan) :
    (i.plan ps).address = i.device.ipAddress := rfl

/-- The exit-node step keeps the peers and adds at most one, for a device of the snapshot that
is not the hub, with a key of its own and the two default routes. -/
theorem PlanInput.withExitNode_cases (i : PlanInput) (ps : List PeerPlan) :
    i.withExitNode ps = ps ∨ ∃ ed ∈ i.allDevices, i.device.exitNodeId = some ed.id ∧
      ed.id ≠ i.serverDeviceId ∧ ed.id ≠ "" ∧ ed.publicKey ≠ "" ∧
      (∀ p ∈ ps, p.publicKey ≠ ed.publicKey) ∧
      i.withExitNode ps =
        ps ++ [{ publicKey := ed.publicKey, allowedIps := ["0.0.0.0/0", "::/0"] }] := by
  rw [withExitNode]
  split_ifs with hx
  · split
    · exact .inl rfl
    · rename_i ed eds hf
      split_ifs with hk
      · right
        have hmem : ed ∈ i.allDevices.filter fun d => some d.id = i.device.exitNodeId :=
          hf ▸ List.mem_cons_self
        rw [List.mem_filter, decide_eq_true_eq] at hmem
        obtain ⟨hed, hid⟩ := hmem
        rw [← hid] at hx
        refine ⟨ed, hed, hid.symm, fun h => hx.2 (congrArg some h), ?_, hk.1, ?_, rfl⟩
        · simpa [truthy] using hx.1
        · simpa using hk.2
      · exact .inl rfl
  · exact .inl rfl

theorem PlanInput.withExitNode_of_selected (i : PlanInput) {ps : List PeerPlan} {x : DeviceState}
    (hx : x ∈ i.allDevices) (huniq : ∀ d ∈ i.allDevices, d.id = x.id → d = x)
    (hex : i.device.exitNodeId = some x.id) (hne : x.id ≠ "") (hkey : x.publicKey ≠ "")
    (hsrv : x.id ≠ i.serverDeviceId) (hnew : ∀ p ∈ ps, p.publicKey ≠ x.publicKey) :
    i.withExitNode ps =
      ps ++ [{ publicKey := x.publicKey, allowedIps := ["0.0.0.0/0", "::/0"] }] := by
  have hchosen : truthy i.device.exitNodeId = true ∧ i.device.exitNodeId ≠ some i.serverDeviceId := by
    rw [hex]
    exact ⟨by simpa [truthy] using hne, fun hs => hsrv (Option.some.inj hs)⟩
  have hfound : x ∈ i.allDevices.filter fun d => some d.id = i.device.exitNodeId :=
    List.mem_filter.2 ⟨hx, decide_eq_true hex.symm⟩
  rw [withExitNode, if_pos hchosen]
  split
  · rename_i hnil
    exact absurd (hnil ▸ hfound) List.not_mem_nil
  · -- the first device with the id is the selected one
    rename_i ed eds hcons
    obtain ⟨hed, hid⟩ := List.mem_filter.1 (hcons ▸ List.mem_cons_self :
      ed ∈ i.allDevices.filter fun d => some d.id = i.device.exitNodeId)
    rw [decide_eq_true_eq, hex, Option.some.injEq] at hid
    rw [huniq ed hed hid, if_pos ⟨hkey, by simpa using hnew⟩]

theorem StarTopologyGenerator.peers_of_hub {settings : Settings} {i : PlanInput}
    {server : DeviceState} (hs : server ∈ i.allDevices) (hid : server.id = i.serverDeviceId)
    (hd : i.device.id = i.serverDeviceId) :
    (generatePlan settings i).peers =
      (i.allDevices.filter fun other => other.id ≠ i.serverDeviceId).map (clientPeer i) := by
  have hsome : (i.allDevices.find? fun d => d.id = i.serverDeviceId).isSome := by
    rw [List.find?_isSome]; exact ⟨server, hs, by simpa using hid⟩
  obtain ⟨s, hf⟩ := Option.isSome_iff_exists.1 hsome
  simp only [generatePlan, hf, hd, ↓reduceIte, PlanInput.plan_peers]

theorem StarTopologyGenerator.peers_of_client {settings : Settings} {i : PlanInput}
    {server : DeviceState} (hf : i.allDevices.find? (fun d => d.id = i.serverDeviceId) = some server)
    (hd : i.device.id ≠ i.serverDeviceId) :
    (generatePlan settings i).peers = i.withExitNode [serverPeer settings i server] := by
  simp only [generatePlan, hf, hd, ↓reduceIte, PlanInput.plan_peers]

/-- **A plan depends on the routes of the snapshot's devices**, on their best endpoints and on which
of them have endpoints. -/
theorem TopologyType.generatePlan_congr (settings : Settings) (t : TopologyType) {i j : PlanInput}
    (hdevice : j.device = i.device) (hall : j.allDevices = i.allDevices)
    (hnetwork : j.network = i.network) (hserver : j.serverDeviceId = i.serverDeviceId)
    (hroutes : ∀ d ∈ i.allDevices,
      j.routesByDevice.getD d.id [] = i.routesByDevice.getD d.id [])
    (hbest : ∀ d ∈ i.allDevices, bestEndpoint (j.endpointsByDevice.getD d.id []) =
      bestEndpoint (i.endpointsByDevice.getD d.id []))
    (hempty : ∀ d ∈ i.allDevices, (j.endpointsByDevice.getD d.id []).isEmpty =
      (i.endpointsByDevice.getD d.id []).isEmpty) :
    t.generatePlan settings j = t.generatePlan settings i := by
  have hips : ∀ d ∈ i.allDevices, j.peerAllowedIps d = i.peerAllowedIps d := fun d hd => by
    rw [PlanInput.peerAllowedIps, hroutes d hd, PlanInput.peerAllowedIps]
  have hexit : ∀ ps, j.withExitNode ps = i.withExitNode ps := fun ps => by
    simp only [PlanInput.withExitNode, hdevice, hserver, hall]
  have hplan : ∀ ps, j.plan ps = i.plan ps := fun ps => by
    simp only [PlanInput.plan, hdevice, hnetwork]
  cases t with
  | star =>
    have hclient : ∀ d ∈ i.allDevices, StarTopologyGenerator.clientPeer j d =
        StarTopologyGenerator.clientPeer i d := fun d hd => by
      simp only [StarTopologyGenerator.clientPeer, hips d hd]
    have hclients : (i.allDevices.filter fun other => other.id ≠ i.serverDeviceId).map
        (StarTopologyGenerator.clientPeer j) =
          (i.allDevices.filter fun other => other.id ≠ i.serverDeviceId).map
            (StarTopologyGenerator.clientPeer i) :=
      List.map_congr_left fun d hd => hclient d (List.mem_filter.1 hd).1
    simp only [generatePlan, StarTopologyGenerator.generatePlan, StarTopologyGenerator.serverPeer,
      hall, hserver, hdevice, hplan, hexit, hnetwork, hclients]
  | mesh =>
    have hpeers : (i.allDevices.filter fun other => other.id ≠ i.device.id).map
        (MeshTopologyGenerator.peer settings j) =
          (i.allDevices.filter fun other => other.id ≠ i.device.id).map
            (MeshTopologyGenerator.peer settings i) := by
      refine List.map_congr_left fun d hd => ?_
      have hmem := (List.mem_filter.1 hd).1
      simp only [MeshTopologyGenerator.peer, hserver, hips d hmem, hbest d hmem, hempty d hmem]
    simp only [generatePlan, MeshTopologyGenerator.generatePlan, hall, hdevice, hplan, hexit, hpeers]
  | hybrid =>
    have hpeers : (i.allDevices.filter fun other => other.id ≠ i.device.id).map
        (HybridTopologyGenerator.peer settings j) =
          (i.allDevices.filter fun other => other.id ≠ i.device.id).map
            (HybridTopologyGenerator.peer settings i) := by
      refine List.map_congr_left fun d hd => ?_
      have hmem := (List.mem_filter.1 hd).1
      simp only [HybridTopologyGenerator.peer, hserver, hnetwork, hips d hmem, hbest d hmem]
    simp only [generatePlan, HybridTopologyGenerator.generatePlan, hall, hdevice, hplan, hexit, hpeers]

end Midscale
