import Midscale.Config.Enrichment

/-!
# The config renderer

`app.services.config_renderer` has a renderer of its own, from a plan to a response, which
`build_config_v2` imports and does not call: it renders in line.  The two renderings have the same
frame, and of a star the same peers.  In a mesh or a hybrid network the renderer shows no endpoint
candidates and offers no relay, so a peer is rendered alike only if there is neither.

* `PeerPlan.info_eq_render_iff` : when a peer is rendered alike.
* `render_config_agrees_iff` : **when the two renderings of a configuration are equal.**
-/

namespace Midscale

/-! ### Rendering -/

/-- The `PeerInfo` that `render_config` makes of a planned peer. -/
def PeerPlan.render (meshOrHybrid : Bool) (p : PeerPlan) : PeerInfo where
  publicKey := p.publicKey
  allowedIps := p.allowedIps
  endpoint := p.endpoint
  endpointPort := p.endpointPort
  persistentKeepalive := p.persistentKeepalive
  endpointCandidates := []
  relayFallback := p.relayFallback && meshOrHybrid

/-- `render_config`. -/
def renderConfig (env : Env) (plan : TopologyPlan) (dnsServers routes : Option (List String))
    (exitNodeId : Option String) (topologyType : String) :
    Except ApiError DeviceConfigV2Response := do
  let net ← getOr (.internal "ValueError") (IPv4Network.parse plan.subnet)
  let response : DeviceConfigV2Response :=
    { interface :=
        { address := plan.address ++ "/" ++ toString net.prefixlen.val, dns := dnsServers }
      peers := plan.peers.map (PeerPlan.render (isMeshOrHybrid topologyType))
      routes := routes.getD []
      exitNode := exitNodeId
      minDaemonVersion := some "0.1.0"
      revision := toString (env.now.tdiv 1000000)
      generatedAt := env.now.isoformat }
  .ok { response with hash := env.security.computeConfigHash response.configData }

/-- What is left of a response without its peers, and without the hash that covers them. -/
def DeviceConfigV2Response.frame (r : DeviceConfigV2Response) : DeviceConfigV2Response :=
  { r with peers := [], hash := "" }

/-! ### Peers -/

theorem orText_self (a : Option String) : orText a a = a := ite_self a

theorem orPort_self (a : Option ℤ) : orPort a a = a := ite_self a

/-- **A peer is rendered alike** in a star, and otherwise if it has neither endpoints nor a relay. -/
theorem PeerPlan.info_eq_render_iff (settings : Settings) (b : Bool) (p : PeerPlan)
    {eps : List DeviceEndpoint} (hids : (eps.map (·.id)).Nodup) :
    p.info settings b eps = p.render b ↔ (b = true → eps = [] ∧ p.relayFallback = false) := by
  cases b with
  | false => simp [info, render, orText_self, orPort_self]
  | true =>
    rw [p.info_eq settings hids]
    constructor
    · intro h _
      have hcandidates : shownCandidates eps = [] := congrArg PeerInfo.endpointCandidates h
      have hrelay : (p.withCandidates settings (shownCandidates eps)).relayRequired = false :=
        congrArg PeerInfo.relayRequired h
      rw [hcandidates] at hrelay
      exact ⟨shownCandidates_eq_nil.1 hcandidates, by simpa [withCandidates] using hrelay⟩
    · intro h
      obtain ⟨rfl, hrelay⟩ := h rfl
      rw [shownCandidates_eq_nil.2 rfl]
      simp [withCandidates, render, hrelay, orText, orPort, truthy]

/-! ### Planned relays -/

theorem TopologyType.generatePlan_device (settings : Settings) (t : TopologyType) (i : PlanInput) :
    (t.generatePlan settings i).address = i.device.ipAddress ∧
      (t.generatePlan settings i).subnet = i.network.subnet := by
  cases t with
  | star =>
    simp only [generatePlan, StarTopologyGenerator.generatePlan]
    split
    · exact ⟨rfl, rfl⟩
    · split_ifs <;> exact ⟨rfl, rfl⟩
  | mesh => exact ⟨rfl, rfl⟩
  | hybrid => exact ⟨rfl, rfl⟩

/-- What a mesh or a hybrid network plans for the other devices. -/
structure PlansPeers (settings : Settings) (t : TopologyType) (i : PlanInput)
    (peer : DeviceState → PeerPlan) : Prop where
  peers_eq : (t.generatePlan settings i).peers =
    i.withExitNode ((i.allDevices.filter fun other => other.id ≠ i.device.id).map peer)
  publicKey : ∀ x, (peer x).publicKey = x.publicKey
  relay : ∀ x, i.endpointsByDevice.getD x.id [] = [] →
    ((peer x).relayFallback = false ↔ t = .hybrid ∧ x.id = i.serverDeviceId)

theorem TopologyType.exists_plansPeers (settings : Settings) {t : TopologyType} (ht : t ≠ .star)
    (i : PlanInput) : ∃ peer, PlansPeers settings t i peer := by
  cases t with
  | star => exact absurd rfl ht
  | mesh =>
    refine ⟨MeshTopologyGenerator.peer settings i, rfl, fun _ => rfl, fun x hnone => ?_⟩
    simp [MeshTopologyGenerator.peer, hnone]
  | hybrid =>
    refine ⟨HybridTopologyGenerator.peer settings i, rfl,
      HybridTopologyGenerator.peer_publicKey settings i, fun x hnone => ?_⟩
    by_cases hserver : x.id = i.serverDeviceId
    · simp [HybridTopologyGenerator.peer, hserver]
    · simp [HybridTopologyGenerator.peer, hserver, hnone, bestEndpoint, sortEndpoints, truthy]

namespace PlansPeers

variable {settings : Settings} {t : TopologyType} {i : PlanInput} {peer : DeviceState → PeerPlan}

theorem mem_peers (h : PlansPeers settings t i peer) {x : DeviceState} (hx : x ∈ i.allDevices)
    (hne : x.id ≠ i.device.id) : peer x ∈ (t.generatePlan settings i).peers := by
  have hin : peer x ∈ (i.allDevices.filter fun other => other.id ≠ i.device.id).map peer :=
    List.mem_map_of_mem (List.mem_filter.2 ⟨hx, decide_eq_true hne⟩)
  rw [h.peers_eq]
  rcases i.withExitNode_cases ((i.allDevices.filter fun other => other.id ≠ i.device.id).map peer)
    with hsame | ⟨_, _, _, _, _, _, _, happend⟩
  · rwa [hsame]
  · rw [happend]
    exact List.mem_append_left _ hin

/-- The exit node that is appended has no relay. -/
theorem relayFallback (h : PlansPeers settings t i peer) {p : PeerPlan}
    (hp : p ∈ (t.generatePlan settings i).peers) :
    (∃ x ∈ i.allDevices, x.id ≠ i.device.id ∧ peer x = p) ∨ p.relayFallback = false := by
  have hothers : ∀ p ∈ (i.allDevices.filter fun other => other.id ≠ i.device.id).map peer,
      ∃ x ∈ i.allDevices, x.id ≠ i.device.id ∧ peer x = p := by
    intro p hp
    obtain ⟨x, hx, rfl⟩ := List.mem_map.1 hp
    exact ⟨x, (List.mem_filter.1 hx).1, of_decide_eq_true (List.mem_filter.1 hx).2, rfl⟩
  rw [h.peers_eq] at hp
  rcases i.withExitNode_cases ((i.allDevices.filter fun other => other.id ≠ i.device.id).map peer)
    with hsame | ⟨_, _, _, _, _, _, _, happend⟩
  · exact .inl (hothers p (hsame ▸ hp))
  · rw [happend, List.mem_append, List.mem_singleton] at hp
    rcases hp with hp | rfl
    · exact .inl (hothers p hp)
    · exact .inr rfl

end PlansPeers

/-- There is nothing to show of the peers of `d` in a mesh or a hybrid network: the hub of a hybrid
network is the only other device and has no endpoints, and if `d` is a peer of its own, because it
selected itself as its exit node, then it has none either. -/
structure Device.ShowsNothing (db : Database) (t : TopologyType) (d : Device) : Prop where
  others : ∀ y ∈ db.plannedDevices d.networkId, y.id ≠ d.id → db.activeEndpoints y.id = [] ∧
    t = .hybrid ∧ (db.buildDeviceStates d.networkId).2 = some y.id.str
  own : d.SelectsSelf db → db.activeEndpoints d.id = []

section

variable {env : Env} {db : Database} {d : Device} {network : Network} {current : DeviceState}
  {t : TopologyType} {net : IPv4Network}

theorem Database.endpointsOf_of_nodup (order : SetOrder String) {y : Device}
    (hy : y ∈ db.plannedDevices d.networkId)
    (hkeys : ((db.plannedDevices d.networkId).map (·.state.publicKey)).Nodup) :
    (db.configView order d.networkId).endpointsOf y.state.publicKey =
      db.endpointRows d.networkId y :=
  ConfigView.endpointsOf_eq rfl (lastWithKey_of_nodup hy hkeys)

theorem Database.endpointRows_eq_nil {y : Device} (hy : y ∈ db.plannedDevices d.networkId) :
    db.endpointRows d.networkId y = [] ↔ db.activeEndpoints y.id = [] := by
  have hperm := endpointRows_perm hy
  exact ⟨fun h => (h ▸ hperm).nil_eq.symm, fun h => (h ▸ hperm).eq_nil⟩

/-- **The planned peers have neither endpoints nor relays** if there is nothing to show. -/
theorem Database.ConfigSubject.plain_peers_iff (h : db.ConfigSubject env d network current t net)
    (hd : d ∈ db.devices) (ht : t ≠ .star) (order : SetOrder String)
    (hkeys : ((db.plannedDevices d.networkId).map (·.state.publicKey)).Nodup) :
    (∀ p ∈ (t.generatePlan env.settings
        ((db.configView order d.networkId).planInput network current)).peers,
      (db.configView order d.networkId).endpointsOf p.publicKey = [] ∧ p.relayFallback = false) ↔
        d.ShowsNothing db t := by
  have hkey := fun k => h.mem_planKeys hd ht order (k := k)
  obtain ⟨rfl, hself⟩ := h.current_eq_state hd
  obtain ⟨peer, hpeer⟩ := TopologyType.exists_plansPeers env.settings ht
    ((db.configView order d.networkId).planInput network d.state)
  have hrelay : ∀ y ∈ db.plannedDevices d.networkId, db.activeEndpoints y.id = [] →
      ((peer y.state).relayFallback = false ↔
        t = .hybrid ∧ (db.buildDeviceStates d.networkId).2 = some y.id.str) := by
    intro y hy hnone
    rw [hpeer.relay y.state ((endpointRows_eq_nil hy).2 hnone)]
    exact and_congr_right fun _ => Uuid.str_eq_getD_iff
  constructor
  · intro hplain
    refine ⟨fun y hy hne => ?_, fun hselects => ?_⟩
    · have hmem := hpeer.mem_peers (List.mem_map_of_mem hy) fun hid => hne (Uuid.str_inj.1 hid)
      obtain ⟨hrows, hfallback⟩ := hplain _ hmem
      rw [hpeer.publicKey, endpointsOf_of_nodup order hy hkeys, endpointRows_eq_nil hy] at hrows
      exact ⟨hrows, (hrelay y hy hrows).1 hfallback⟩
    · obtain ⟨p, hp, hpkey⟩ := (hkey d.state.publicKey).2 ⟨d, hself, rfl, .inr hselects⟩
      have hrows := (hplain p hp).1
      rwa [hpkey, endpointsOf_of_nodup order hself hkeys, endpointRows_eq_nil hself] at hrows
  · intro hnothing p hp
    obtain ⟨y, hy, hykey, hshown⟩ := (hkey p.publicKey).1 ⟨p, hp, rfl⟩
    have hnone : db.activeEndpoints y.id = [] := by
      by_cases hid : y.id = d.id
      · rw [hid]
        exact hnothing.own (hshown.resolve_left (not_not_intro hid))
      · exact (hnothing.others y hy hid).1
    refine ⟨by rw [← hykey, endpointsOf_of_nodup order hy hkeys, endpointRows_eq_nil hy, hnone], ?_⟩
    rcases hpeer.relayFallback hp with ⟨x, hx, hne, rfl⟩ | hfallback
    · obtain ⟨z, hz, rfl⟩ := List.mem_map.1 hx
      obtain ⟨hnorows, hhub⟩ := hnothing.others z hz fun hid => hne (congrArg Uuid.str hid)
      exact (hrelay z hz hnorows).2 hhub
    · exact hfallback

theorem Database.ConfigSubject.planInput_eq (h : db.ConfigSubject env d network current t net)
    (order : SetOrder String) :
    db.planInput network current = (db.configView order d.networkId).planInput network current := by
  have hid : network.id = d.networkId := (Table.get?_eq_some_iff.1 h.network_eq).2
  rw [planInput, hid]
  rfl

/-- **The peers are rendered alike** in a star, and where there is nothing to show. -/
theorem Database.ConfigSubject.render_peers_iff (h : db.ConfigSubject env d network current t net)
    (hd : d ∈ db.devices) (order : SetOrder String)
    (hkeys : t ≠ .star → ((db.plannedDevices d.networkId).map (·.state.publicKey)).Nodup) :
    (t.generatePlan env.settings (db.planInput network current)).peers.map
        (PeerPlan.render (isMeshOrHybrid (env.settings.topologyOf network.topology))) =
      (db.configView order d.networkId).peers env.settings t network current ↔
        t = .star ∨ d.ShowsNothing db t := by
  have hmesh := isMeshOrHybrid_iff (getOr_eq_ok.1 h.generator)
  have halike : ∀ p : PeerPlan,
      p.render (isMeshOrHybrid (env.settings.topologyOf network.topology)) =
        p.info env.settings (isMeshOrHybrid (env.settings.topologyOf network.topology))
          ((db.configView order d.networkId).endpointsOf p.publicKey) ↔
      (t ≠ .star → (db.configView order d.networkId).endpointsOf p.publicKey = [] ∧
        p.relayFallback = false) := fun p => by
    have hids : (((db.configView order d.networkId).endpointsOf p.publicKey).map (·.id)).Nodup :=
      db.nodup_endpoints _ _
    rw [eq_comm, p.info_eq_render_iff env.settings _ hids, hmesh]
  rw [h.planInput_eq order, ConfigView.peers, List.map_inj_left]
  simp only [halike]
  by_cases ht : t = .star
  · exact iff_of_true (fun _ _ hne => absurd ht hne) (.inl ht)
  · rw [or_iff_right ht, ← h.plain_peers_iff hd ht order (hkeys ht)]
    exact forall₂_congr fun _ _ => imp_iff_right ht

theorem Database.ConfigSubject.renderConfig_eq (h : db.ConfigSubject env d network current t net) :
    let content := (db.configView env.setOrder d.networkId).content env d network current t net
    let plan := t.generatePlan env.settings (db.planInput network current)
    let rendered := { content with
      peers := plan.peers.map (PeerPlan.render (isMeshOrHybrid (env.settings.topologyOf
        network.topology))) }
    renderConfig env plan (if d.dnsEnabled then db.buildDnsServers env.setOrder d.networkId else none)
        (some (db.buildRoutesByDevice d.networkId).1) (d.exitNodeId.map Uuid.str)
        (env.settings.topologyOf network.topology) =
      .ok { rendered with hash := env.security.computeConfigHash rendered.configData } := by
  intro content plan rendered
  obtain ⟨haddress, hsubnet⟩ : plan.address = current.ipAddress ∧ plan.subnet = network.subnet :=
    t.generatePlan_device env.settings _
  simp only [renderConfig, hsubnet, haddress, h.subnet, getOr, ok_bind]
  rfl

end

/-- **The two renderings of a configuration** have the same frame and list the same peers.  They are
equal in a star, and in a mesh or a hybrid network of devices with different keys exactly if there is
nothing to show. -/
theorem render_config_agrees_iff {env : Env} {db : Database} {d : Device} {network : Network}
    {t : TopologyType} {r : DeviceConfigV2Response} (hd : d ∈ db.devices)
    (hnetwork : db.networks.get? d.networkId = some network)
    (ht : env.settings.generatorOf network.topology = .ok t)
    (h : buildConfigV2 env db d = .ok r) :
    ∃ r', renderConfig env (t.generatePlan env.settings (db.planInput network d.state))
        (if d.dnsEnabled then db.buildDnsServers env.setOrder d.networkId else none)
        (some (db.buildRoutesByDevice d.networkId).1) (d.exitNodeId.map Uuid.str)
        (env.settings.topologyOf network.topology) = .ok r' ∧
      r'.frame = r.frame ∧
      r'.peers.map (fun p => (p.publicKey, p.allowedIps, p.persistentKeepalive)) =
        r.peers.map (fun p => (p.publicKey, p.allowedIps, p.persistentKeepalive)) ∧
      ((t ≠ .star → ((db.plannedDevices d.networkId).map (·.state.publicKey)).Nodup) →
        (r' = r ↔ t = .star ∨ d.ShowsNothing db t)) := by
  obtain ⟨network', current, t', net, hsub, rfl⟩ := buildConfigV2_ok_subject h
  obtain rfl : network = network' := Option.some.inj (hnetwork.symm.trans hsub.network_eq)
  obtain rfl : t = t' := Except.ok.inj (ht.symm.trans hsub.generator)
  obtain rfl : current = d.state := (hsub.current_eq_state hd).1
  have hinput := hsub.planInput_eq env.setOrder
  refine ⟨_, hsub.renderConfig_eq, rfl, ?_, fun hkeys => ?_⟩
  · simp only [ConfigView.response, ConfigView.content, ConfigView.peers, List.map_map, hinput]
    rfl
  · rw [← hsub.render_peers_iff hd env.setOrder hkeys]
    constructor
    · exact fun heq => congrArg DeviceConfigV2Response.peers heq
    · -- equal peers are hashed alike
      intro heq
      simp only [ConfigView.response, ConfigView.content, heq]

/-- The phone shows its endpoint to the laptop, so the laptop's renderings differ. -/
theorem render_config_agrees_iff_phone : ∃ r,
    buildConfigV2 plainEnv (meshOffice 0 0) meshLaptop = .ok r ∧ ∃ r',
      renderConfig plainEnv
        (TopologyType.mesh.generatePlan plainEnv.settings
          ((meshOffice 0 0).planInput meshNetwork meshLaptop.state))
        (if meshLaptop.dnsEnabled then
          (meshOffice 0 0).buildDnsServers plainEnv.setOrder meshLaptop.networkId else none)
        (some ((meshOffice 0 0).buildRoutesByDevice meshLaptop.networkId).1)
        (meshLaptop.exitNodeId.map Uuid.str)
        (plainEnv.settings.topologyOf meshNetwork.topology) = .ok r' ∧
      r'.frame = r.frame ∧
      r'.peers.map (fun p => (p.publicKey, p.allowedIps, p.persistentKeepalive)) =
        r.peers.map (fun p => (p.publicKey, p.allowedIps, p.persistentKeepalive)) ∧
      (r' = r ↔ TopologyType.mesh = .star ∨ meshLaptop.ShowsNothing (meshOffice 0 0) .mesh) := by
  obtain ⟨r', hr', hframe, hpeers, hequal⟩ := render_config_agrees_iff (meshLaptop_mem 0 0)
    (meshOffice_subject 0).network_eq rfl (meshOffice_subject 0).build
  exact ⟨_, (meshOffice_subject 0).build, r', hr', hframe, hpeers, hequal fun _ => by decide⟩

end Midscale
