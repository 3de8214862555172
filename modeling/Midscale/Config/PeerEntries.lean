import Midscale.Config.Enrichment
import Midscale.Data.Reorder

/-!
# The entries of a configuration

In a mesh or a hybrid network the configuration of a device has one entry for every other device.
The entry depends on the row of the other device, on its routes, on whether it is the hub, on the
best of its endpoints and on the endpoints that are shown for its key.

* `TopologyType.peerOf` : the planned peer for a device.
* `ConfigView.peers_eq` : **the peers of a configuration, entry by entry.**
-/

namespace Midscale

/-! ### Planned peers -/

/-- The planned peer for a device: its routes, whether it is the hub, and its best endpoint. -/
def TopologyType.peerOf (settings : Settings) (t : TopologyType) (subnet : String) (x : DeviceState)
    (routes : List String) (isHub : Bool) (best : Option DeviceEndpoint) : PeerPlan :=
  let endpoint := best.map (·.endpoint)
  let port := best.map (·.port)
  match t with
  | .star => { publicKey := x.publicKey, allowedIps := hostRoute x.ipAddress :: routes }
  | .mesh =>
    { publicKey := x.publicKey
      allowedIps := hostRoute x.ipAddress :: routes
      endpoint := orText endpoint (if isHub then some settings.serverEndpoint else none)
      endpointPort := orPort port (if isHub then some settings.wireguardPort else none)
      persistentKeepalive := some 25
      relayFallback := best.isNone }
  | .hybrid =>
    if isHub then
      { publicKey := x.publicKey
        allowedIps := [subnet]
        endpoint := orText endpoint (some settings.serverEndpoint)
        endpointPort := orPort port (some settings.wireguardPort)
        persistentKeepalive := some 25 }
    else if truthy endpoint then
      { publicKey := x.publicKey
        allowedIps := hostRoute x.ipAddress :: routes
        endpoint := endpoint
        endpointPort := port
        persistentKeepalive := some 25 }
    else
      { publicKey := x.publicKey
        allowedIps := hostRoute x.ipAddress :: routes
        relayFallback := true }

@[simp] theorem TopologyType.peerOf_publicKey (settings : Settings) (t : TopologyType)
    (subnet : String) (x : DeviceState) (routes : List String) (isHub : Bool)
    (best : Option DeviceEndpoint) :
    (t.peerOf settings subnet x routes isHub best).publicKey = x.publicKey := by
  cases t <;> simp only [peerOf]
  split_ifs <;> rfl

/-- Endpoints as the query for them returns them: active, and the best one first. -/
structure SortedRows (rows : List DeviceEndpoint) : Prop where
  sorted : rows.Pairwise endpointLe
  active : ∀ e ∈ rows, e.isActive = true

theorem SortedRows.bestEndpoint_eq {rows : List DeviceEndpoint} (h : SortedRows rows) :
    bestEndpoint rows = (rows.head?.map (·.endpoint), rows.head?.map (·.port)) := by
  rw [bestEndpoint, List.filter_eq_self.2 h.active, sortEndpoints, h.sorted.insertionSort_eq]
  cases rows with
  | nil => rfl
  | cons e rows => rfl

theorem TopologyType.generatePlan_peers (settings : Settings) {t : TopologyType} (ht : t ≠ .star)
    (i : PlanInput) (hrows : ∀ k, SortedRows (i.endpointsByDevice.getD k [])) :
    (t.generatePlan settings i).peers = i.withExitNode
      ((i.allDevices.filter fun x => x.id ≠ i.device.id).map fun x =>
        t.peerOf settings i.network.subnet x (i.routesByDevice.getD x.id [])
          (x.id = i.serverDeviceId) (i.endpointsByDevice.getD x.id []).head?) := by
  cases t with
  | star => exact absurd rfl ht
  | mesh =>
    have hpeer : ∀ x, MeshTopologyGenerator.peer settings i x = TopologyType.mesh.peerOf settings
        i.network.subnet x (i.routesByDevice.getD x.id []) (x.id = i.serverDeviceId)
          (i.endpointsByDevice.getD x.id []).head? := by
      intro x
      have hempty : (i.endpointsByDevice.getD x.id []).isEmpty =
          (i.endpointsByDevice.getD x.id []).head?.isNone := by
        cases i.endpointsByDevice.getD x.id [] <;> rfl
      simp only [MeshTopologyGenerator.peer, peerOf, (hrows x.id).bestEndpoint_eq, hempty,
        PlanInput.peerAllowedIps, decide_eq_true_eq]
    simp only [generatePlan, MeshTopologyGenerator.generatePlan, PlanInput.plan_peers]
    rw [List.map_congr_left fun x _ => hpeer x]
  | hybrid =>
    have hpeer : ∀ x, HybridTopologyGenerator.peer settings i x =
        TopologyType.hybrid.peerOf settings i.network.subnet x (i.routesByDevice.getD x.id [])
          (x.id = i.serverDeviceId) (i.endpointsByDevice.getD x.id []).head? := by
      intro x
      simp only [HybridTopologyGenerator.peer, peerOf, (hrows x.id).bestEndpoint_eq,
        PlanInput.peerAllowedIps, decide_eq_true_eq]
    simp only [generatePlan, HybridTopologyGenerator.generatePlan, PlanInput.plan_peers]
    rw [List.map_congr_left fun x _ => hpeer x]

/-! ### What the queries find -/

namespace Database

variable (db : Database) (networkId : Uuid)

/-- The prefixes of the approved routes of a device. -/
def prefixesOf (x : Device) : List String := (db.buildRoutesByDevice networkId).2.getD x.id.str []

/-- The hub: the last device of the snapshot with the server's name. -/
def lastHub : Option Device := (db.plannedDevices networkId).reverse.find? (·.name = serverName)

/-- The candidates that are shown for a key. -/
def shownFor (key : String) : List EndpointCandidate :=
  ((db.lastWithKey networkId key).map fun y =>
    shownCandidates (db.endpointRows networkId y)).getD []

/-- The devices of the snapshot other than `d`. -/
def others (d : Device) : List Device := (db.plannedDevices d.networkId).filter (·.id ≠ d.id)

variable {db networkId}

theorem mem_others {d x : Device} :
    x ∈ db.others d ↔ x ∈ db.plannedDevices d.networkId ∧ x.id ≠ d.id := by
  rw [others, List.mem_filter, decide_eq_true_eq]

theorem filter_map_state (d : Device) :
    ((db.plannedDevices d.networkId).map Device.state).filter (fun x => x.id ≠ d.state.id) =
      (db.others d).map Device.state := by
  rw [List.filter_map, others]
  refine congrArg _ (List.filter_congr fun x _ => ?_)
  change decide (x.id.str ≠ d.id.str) = _
  rw [decide_eq_decide, ne_eq, Uuid.str_inj]

theorem buildDeviceStates_snd :
    (db.buildDeviceStates networkId).2 = (db.lastHub networkId).map (·.id.str) := by
  rw [buildDeviceStates, lastHub]
  induction db.plannedDevices networkId using List.reverseRecOn with
  | nil => rfl
  | append_singleton ds d ih =>
    rw [List.foldl_append, List.foldl_cons, List.foldl_nil, List.reverse_append,
      List.reverse_singleton, List.singleton_append, List.find?_cons]
    by_cases hname : d.name = serverName
    · simp [hname]
    · simpa [hname] using ih

theorem lastHub_spec {hub : Device} (h : db.lastHub networkId = some hub) :
    hub ∈ db.plannedDevices networkId ∧ hub.name = serverName :=
  ⟨List.mem_reverse.1 (List.mem_of_find?_eq_some h), of_decide_eq_true
    (List.find?_some (p := fun x : Device => decide (x.name = serverName)) h)⟩

theorem buildDeviceStates_snd_eq_iff {x : Device} (hx : x ∈ db.plannedDevices networkId) :
    (db.buildDeviceStates networkId).2 = some x.id.str ↔ db.lastHub networkId = some x := by
  rw [buildDeviceStates_snd]
  cases hhub : db.lastHub networkId with
  | none => simp
  | some hub =>
    rw [Option.map_some, Option.some.injEq, Option.some.injEq, Uuid.str_inj]
    constructor
    · exact eq_of_id (lastHub_spec hhub).1 hx
    · rintro rfl
      rfl

theorem id_eq_serverDeviceId_iff {x : Device} (hx : x ∈ db.plannedDevices networkId) :
    x.state.id = (db.buildDeviceStates networkId).2.getD "" ↔ db.lastHub networkId = some x :=
  Uuid.str_eq_getD_iff.trans (buildDeviceStates_snd_eq_iff hx)

theorem find?_serverDeviceId : ((db.plannedDevices networkId).map Device.state).find?
    (fun s => s.id = (db.buildDeviceStates networkId).2.getD "") =
      (db.lastHub networkId).map Device.state := by
  cases hhub : db.lastHub networkId with
  | none =>
    refine List.find?_eq_none.2 fun s hs hid => ?_
    obtain ⟨x, hx, rfl⟩ := List.mem_map.1 hs
    have hlast := (id_eq_serverDeviceId_iff hx).1 (of_decide_eq_true hid)
    rw [hhub] at hlast
    cases hlast
  | some hub =>
    obtain ⟨hmem, -⟩ := lastHub_spec hhub
    refine find?_eq_some_of_unique (List.mem_map_of_mem hmem)
      (decide_eq_true ((id_eq_serverDeviceId_iff hmem).2 hhub)) fun s hs hid => ?_
    obtain ⟨x, hx, rfl⟩ := List.mem_map.1 hs
    have hlast := (id_eq_serverDeviceId_iff hx).1 (of_decide_eq_true hid)
    rw [Option.some.inj (hhub.symm.trans hlast)]

theorem exists_lastHub {x : Device} (hx : x ∈ db.plannedDevices networkId)
    (hname : x.name = serverName) : ∃ hub, db.lastHub networkId = some hub := by
  rw [← Option.isSome_iff_exists, lastHub, List.find?_isSome]
  exact ⟨x, List.mem_reverse.2 hx, decide_eq_true hname⟩

theorem sortedRows_endpoints (k : String) :
    SortedRows ((db.buildEndpointsByDevice networkId).getD k []) := by
  rw [buildEndpointsByDevice, Dict.getD_groupBy, List.map_id', sortEndpoints]
  refine ⟨(List.pairwise_insertionSort endpointLe _).filter _, fun e he => ?_⟩
  have hmem := (List.mem_insertionSort endpointLe).1 (List.mem_filter.1 he).1
  exact (of_decide_eq_true (Table.mem_select.1 hmem).2).1

end Database

/-! ### The entries -/

/-- The entry of a device in the configurations of others. -/
def Database.entryOf (settings : Settings) (t : TopologyType) (subnet : String) (db : Database)
    (networkId : Uuid) (x : Device) : PeerInfo :=
  (t.peerOf settings subnet x.state (db.prefixesOf networkId x) (db.lastHub networkId = some x)
    (db.endpointRows networkId x).head?).withCandidates settings
      (db.shownFor networkId x.state.publicKey)

/-- The entry for an exit node. -/
def Device.exitPeer (x : Device) : PeerPlan where
  publicKey := x.state.publicKey
  allowedIps := ["0.0.0.0/0", "::/0"]

/-- The device has an entry for itself: it selected itself as its exit node, and no other device
has its key. -/
def Device.HasOwnEntry (db : Database) (d : Device) : Prop :=
  d.SelectsSelf db ∧ ∀ x ∈ db.others d, x.state.publicKey ≠ d.state.publicKey

instance (db : Database) (d : Device) : Decidable (d.HasOwnEntry db) :=
  inferInstanceAs (Decidable ((_ ∧ _ ∧ _) ∧ _))

theorem Device.hasOwnEntry_iff {db : Database} {d : Device}
    (hd : d ∈ db.plannedDevices d.networkId) : d.HasOwnEntry db ↔
      d.exitNodeId = some d.id ∧ d.state.publicKey ≠ "" ∧ db.lastHub d.networkId ≠ some d ∧
        ∀ x ∈ db.others d, x.state.publicKey ≠ d.state.publicKey := by
  rw [HasOwnEntry, SelectsSelf, ne_eq _ (some d.id.str), Database.buildDeviceStates_snd_eq_iff hd,
    and_assoc, and_assoc]

/-- The peers of a device in a mesh or a hybrid network. -/
def Database.peersOf (settings : Settings) (t : TopologyType) (subnet : String) (db : Database)
    (d : Device) : List PeerInfo :=
  (db.others d).map (db.entryOf settings t subnet d.networkId) ++
    if d.HasOwnEntry db then
      [d.exitPeer.withCandidates settings (db.shownFor d.networkId d.state.publicKey)] else []

theorem ConfigView.endpointsOf_shown {db : Database} {order : SetOrder String} {networkId : Uuid}
    {x : Device} (hx : x ∈ db.plannedDevices networkId) :
    shownCandidates ((db.configView order networkId).endpointsOf x.state.publicKey) =
      db.shownFor networkId x.state.publicKey := by
  obtain ⟨y, hy⟩ := Database.exists_lastWithKey hx
  rw [ConfigView.endpointsOf_eq rfl hy, Database.shownFor, hy]
  rfl

/-- The exit-node step adds the selected device of the snapshot, unless that is the hub or has no
key of its own. -/
theorem withExitNode_eq {db : Database} {d : Device} {network : Network} (order : SetOrder String)
    (ps : List PeerPlan) :
    ((db.configView order d.networkId).planInput network d.state).withExitNode ps =
      ps ++ match (db.plannedDevices d.networkId).find? fun x => d.exitNodeId = some x.id with
        | none => []
        | some x =>
          if db.lastHub d.networkId ≠ some x ∧ x.state.publicKey ≠ "" ∧
            ∀ p ∈ ps, p.publicKey ≠ x.state.publicKey then [x.exitPeer] else [] := by
  generalize hi : (db.configView order d.networkId).planInput network d.state = i
  have hall : i.allDevices = (db.plannedDevices d.networkId).map Device.state := by rw [← hi]; rfl
  have hselected : ∀ x : Device, i.device.exitNodeId = some x.state.id ↔ d.exitNodeId = some x.id :=
    fun x => by rw [← hi]; exact Device.state_exitNodeId_eq_iff
  have hserver : ∀ {x : Device}, x ∈ db.plannedDevices d.networkId →
      (x.state.id ≠ i.serverDeviceId ↔ db.lastHub d.networkId ≠ some x) := fun hx => by
    rw [← hi]
    exact not_congr (Database.id_eq_serverDeviceId_iff hx)
  cases hfind : (db.plannedDevices d.networkId).find? fun x => d.exitNodeId = some x.id with
  | none =>
    rcases i.withExitNode_cases ps with hsame | ⟨ed, hed, hex, -⟩
    · rw [hsame, List.append_nil]
    · rw [hall] at hed
      obtain ⟨y, hy, rfl⟩ := List.mem_map.1 hed
      exact absurd (decide_eq_true ((hselected y).1 hex)) (List.find?_eq_none.1 hfind y hy)
  | some x =>
    have hx := List.mem_of_find?_eq_some hfind
    have hex : d.exitNodeId = some x.id := of_decide_eq_true
      (List.find?_some (p := fun x : Device => decide (d.exitNodeId = some x.id)) hfind)
    by_cases hadds : db.lastHub d.networkId ≠ some x ∧ x.state.publicKey ≠ "" ∧
        ∀ p ∈ ps, p.publicKey ≠ x.state.publicKey
    · simp only [if_pos hadds]
      obtain ⟨hhub, hkey, hnew⟩ := hadds
      refine i.withExitNode_of_selected (x := x.state) (hall ▸ List.mem_map_of_mem hx) ?_
        ((hselected x).2 hex) (Uuid.str_ne_empty x.id) hkey ((hserver hx).2 hhub) hnew
      intro s hs heq
      rw [hall] at hs
      obtain ⟨y, hy, rfl⟩ := List.mem_map.1 hs
      rw [Database.eq_of_id hy hx (Uuid.str_inj.1 heq)]
    · simp only [if_neg hadds, List.append_nil]
      rcases i.withExitNode_cases ps with hsame | ⟨ed, hed, hex', hhub, -, hkey, hnew, -⟩
      · exact hsame
      · rw [hall] at hed
        obtain ⟨y, hy, rfl⟩ := List.mem_map.1 hed
        have hid := (hselected y).1 hex'
        rw [hex, Option.some.injEq] at hid
        obtain rfl : x = y := Database.eq_of_id hx hy hid
        exact absurd ⟨(hserver hx).1 hhub, hkey, hnew⟩ hadds

/-- The exit-node step of a plan that has a peer for every other device: it adds at most the device
itself. -/
theorem withExitNode_others {db : Database} {d : Device} (network : Network)
    (hd : d ∈ db.plannedDevices d.networkId) (order : SetOrder String) {f : Device → PeerPlan}
    (hf : ∀ x, (f x).publicKey = x.state.publicKey) :
    ((db.configView order d.networkId).planInput network d.state).withExitNode
        ((db.others d).map f) =
      (db.others d).map f ++ if d.HasOwnEntry db then [d.exitPeer] else [] := by
  rw [withExitNode_eq]
  refine congrArg _ ?_
  cases hfind : (db.plannedDevices d.networkId).find? fun x => d.exitNodeId = some x.id with
  | none =>
    have hnot : ¬ d.HasOwnEntry db := fun hown =>
      List.find?_eq_none.1 hfind d hd (decide_eq_true hown.1.1)
    rw [if_neg hnot]
  | some x =>
    have hx := List.mem_of_find?_eq_some hfind
    have hex : d.exitNodeId = some x.id := of_decide_eq_true
      (List.find?_some (p := fun x : Device => decide (d.exitNodeId = some x.id)) hfind)
    by_cases hid : x.id = d.id
    · obtain rfl : x = d := Database.eq_of_id hx hd hid
      refine if_congr ?_ rfl rfl
      rw [Device.hasOwnEntry_iff hd]
      simp only [List.forall_mem_map, hf, hex, true_and]
      exact and_left_comm
    · -- another device is a peer already
      have htaken : f x ∈ (db.others d).map f :=
        List.mem_map_of_mem (Database.mem_others.2 ⟨hx, hid⟩)
      have hnot : ¬ d.HasOwnEntry db := fun hown => by
        have hself := hown.1.1
        rw [hex, Option.some.injEq] at hself
        exact hid hself
      simp only [if_neg hnot]
      exact if_neg fun hadds => hadds.2.2 _ htaken (hf x)

/-- **The peers of a configuration, entry by entry**, in a mesh or a hybrid network. -/
theorem ConfigView.peers_eq {settings : Settings} {db : Database} {d : Device} {network : Network}
    {t : TopologyType} (ht : t ≠ .star)
    (hgen : TopologyType.parse (settings.topologyOf network.topology) = some t)
    (hd : d ∈ db.plannedDevices d.networkId) (order : SetOrder String) :
    (db.configView order d.networkId).peers settings t network d.state =
      db.peersOf settings t network.subnet d := by
  let f : Device → PeerPlan := fun x => t.peerOf settings network.subnet x.state
    (db.prefixesOf d.networkId x) (db.lastHub d.networkId = some x)
      (db.endpointRows d.networkId x).head?
  have hplan : (t.generatePlan settings
      ((db.configView order d.networkId).planInput network d.state)).peers =
        (db.others d).map f ++ if d.HasOwnEntry db then [d.exitPeer] else [] := by
    rw [← withExitNode_others network hd order fun x => t.peerOf_publicKey ..,
      TopologyType.generatePlan_peers settings ht _ Database.sortedRows_endpoints]
    refine congrArg _ ?_
    change (((db.plannedDevices d.networkId).map Device.state).filter
      fun x => x.id ≠ d.state.id).map _ = _
    rw [Database.filter_map_state, List.map_map]
    refine List.map_congr_left fun x hx => ?_
    have hflag : decide (x.state.id = (db.buildDeviceStates d.networkId).2.getD "") =
        decide (db.lastHub d.networkId = some x) :=
      decide_eq_decide.2 (Database.id_eq_serverDeviceId_iff (Database.mem_others.1 hx).1)
    exact congrArg (fun b => t.peerOf settings network.subnet x.state
      (db.prefixesOf d.networkId x) b (db.endpointRows d.networkId x).head?) hflag
  have hinfo : ∀ p : PeerPlan, ∀ x ∈ db.plannedDevices d.networkId,
      p.publicKey = x.state.publicKey → p.info settings true
        ((db.configView order d.networkId).endpointsOf p.publicKey) =
          p.withCandidates settings (db.shownFor d.networkId x.state.publicKey) := by
    intro p x hx hkey
    have hids : (((db.configView order d.networkId).endpointsOf x.state.publicKey).map
        (·.id)).Nodup := db.nodup_endpoints _ _
    rw [hkey, p.info_eq settings hids, ConfigView.endpointsOf_shown hx]
  rw [ConfigView.peers, hplan, (isMeshOrHybrid_iff hgen).2 ht, List.map_append, List.map_map,
    Database.peersOf]
  congr 1
  · refine List.map_congr_left fun x hx => ?_
    exact hinfo (f x) x (Database.mem_others.1 hx).1 (t.peerOf_publicKey ..)
  · split_ifs with hown
    · rw [List.map_singleton, hinfo d.exitPeer d hd rfl]
    · rfl

/-! ### Stars -/

/-- The entry of a client for a hub with the key. -/
def hubPeer (settings : Settings) (subnet key : String) : PeerPlan where
  publicKey := key
  allowedIps := [subnet]
  endpoint := some settings.serverEndpoint
  endpointPort := some settings.wireguardPort
  persistentKeepalive := some 25

/-- The entry of a client for its exit node, which has a key, and not that of the hub. -/
def Database.exitPeers (db : Database) (d : Device) (hubKey : String) : List PeerPlan :=
  match (db.plannedDevices d.networkId).find? fun x => d.exitNodeId = some x.id with
  | none => []
  | some x =>
    if x.state.publicKey ≠ "" ∧ x.state.publicKey ≠ hubKey then [x.exitPeer] else []

/-- The peers of a device in a star: the hub has the others, and a client the hub and its exit
node. -/
def Database.starPeersOf (settings : Settings) (subnet : String) (db : Database) (d : Device) :
    List PeerPlan :=
  match db.lastHub d.networkId with
  | none => []
  | some hub =>
    if hub = d then
      (db.others d).map fun x =>
        TopologyType.star.peerOf settings subnet x.state (db.prefixesOf d.networkId x) false none
    else hubPeer settings subnet hub.state.publicKey :: db.exitPeers d hub.state.publicKey

theorem withExitNode_client {db : Database} {d hub : Device} {network : Network} (p : PeerPlan)
    (hhub : db.lastHub d.networkId = some hub) (hp : p.publicKey = hub.state.publicKey)
    (order : SetOrder String) :
    ((db.configView order d.networkId).planInput network d.state).withExitNode [p] =
      p :: db.exitPeers d hub.state.publicKey := by
  rw [withExitNode_eq, Database.exitPeers, List.singleton_append]
  refine congrArg _ ?_
  cases (db.plannedDevices d.networkId).find? fun x => d.exitNodeId = some x.id with
  | none => rfl
  | some x =>
    refine if_congr ?_ rfl rfl
    simp only [List.mem_singleton, forall_eq, hp, hhub, ne_eq, Option.some.injEq]
    constructor
    · exact fun h => ⟨h.2.1, Ne.symm h.2.2⟩
    · -- a device with another key is not the hub
      rintro ⟨hkey, hne⟩
      exact ⟨fun heq => hne (heq ▸ rfl), hkey, Ne.symm hne⟩

/-- **The peers of a configuration in a star.** -/
theorem ConfigView.starPeers_eq {settings : Settings} {db : Database} {d : Device}
    {network : Network}
    (hgen : TopologyType.parse (settings.topologyOf network.topology) = some .star)
    (hd : d ∈ db.plannedDevices d.networkId) (order : SetOrder String) :
    (db.configView order d.networkId).peers settings .star network d.state =
      (db.starPeersOf settings network.subnet d).map fun p => p.info settings false [] := by
  have hmesh : isMeshOrHybrid (settings.topologyOf network.topology) = false :=
    Bool.eq_false_iff.2 fun hmesh => (isMeshOrHybrid_iff hgen).1 hmesh rfl
  have hplan : (TopologyType.star.generatePlan settings
      ((db.configView order d.networkId).planInput network d.state)).peers =
        db.starPeersOf settings network.subnet d := by
    generalize hi : (db.configView order d.networkId).planInput network d.state = i
    have hall : i.allDevices = (db.plannedDevices d.networkId).map Device.state := by rw [← hi]; rfl
    have hdevice : i.device.id = d.state.id := by rw [← hi]; rfl
    have hfind : i.allDevices.find? (fun s => s.id = i.serverDeviceId) =
        (db.lastHub d.networkId).map Device.state := by
      rw [← hi]
      exact Database.find?_serverDeviceId
    have hself : d.state.id = i.serverDeviceId ↔ db.lastHub d.networkId = some d := by
      rw [← hi]
      exact Database.id_eq_serverDeviceId_iff hd
    change (StarTopologyGenerator.generatePlan settings i).peers = _
    rw [Database.starPeersOf]
    cases hhub : db.lastHub d.networkId with
    | none =>
      rw [hhub, Option.map_none] at hfind
      simp only [StarTopologyGenerator.generatePlan, hfind, PlanInput.plan_peers]
    | some hub =>
      rw [hhub, Option.some.injEq] at hself
      rw [hhub, Option.map_some] at hfind
      by_cases hsame : hub = d
      · subst hsame
        have hserver := hself.2 rfl
        have hroutes : i.routesByDevice = (db.buildRoutesByDevice hub.networkId).2 := by
          rw [← hi]
          rfl
        rw [StarTopologyGenerator.peers_of_hub (List.mem_of_find?_eq_some hfind) hserver
          (hdevice.trans hserver), ← hserver, hall, Database.filter_map_state, List.map_map]
        simp only [if_true]
        refine List.map_congr_left fun x _ => ?_
        simp only [Function.comp_apply, StarTopologyGenerator.clientPeer, PlanInput.peerAllowedIps,
          hroutes, TopologyType.peerOf]
        rfl
      · simp only [if_neg hsame]
        rw [StarTopologyGenerator.peers_of_client hfind (hdevice ▸ hself.not.2 hsame), ← hi]
        exact withExitNode_client _ hhub rfl order
  rw [peers, hplan, hmesh]
  exact List.map_congr_left fun p _ => p.info_star ..

end Midscale
