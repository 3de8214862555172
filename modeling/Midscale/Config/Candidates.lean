import Midscale.Config.View
import Midscale.Topology.Hybrid

/-!
# The candidates of a peer

In a mesh or a hybrid network `build_config_v2` shows with every peer the endpoints of a device:
of the last device of the snapshot that has the peer's key.

* `PeerPlan.info_eq` : the entry of a peer is made of the planned peer and its candidates.
* `TopologyType.mem_planKeys` : which keys the peers of a plan have.
* `ConfigView.endpointsOf_eq` : whose endpoints are shown.
-/

namespace Midscale

/-! ### Entries -/

/-- The candidates for the endpoints of a device, the best one first. -/
def shownCandidates (eps : List DeviceEndpoint) : List EndpointCandidate :=
  match sortEndpointCandidates eps with
  | [] => []
  | best :: rest => best.candidate true :: rest.map (·.candidate false)

/-- The entry of a planned peer with its candidates. -/
def PeerPlan.withCandidates (settings : Settings) (p : PeerPlan)
    (candidates : List EndpointCandidate) : PeerInfo :=
  let relayRequired : Bool := candidates.isEmpty ∧ p.relayFallback
  { publicKey := p.publicKey
    allowedIps := p.allowedIps
    endpoint := orText (candidates.head?.map (·.endpoint)) p.endpoint
    endpointPort := orPort (candidates.head?.map (·.port)) p.endpointPort
    persistentKeepalive := p.persistentKeepalive
    endpointCandidates := candidates
    relayFallback := relayRequired
    relayCandidates := if relayRequired then some [settings.bestRelayCandidate] else none
    relayRequired := relayRequired }

theorem shownCandidates_eq_nil {eps : List DeviceEndpoint} :
    shownCandidates eps = [] ↔ eps = [] := by
  have hlen := List.length_insertionSort
    (fun e e' : DeviceEndpoint => e'.candidateKey ≤ e.candidateKey) eps
  rw [shownCandidates, sortEndpointCandidates]
  split
  · rename_i hnil
    rw [hnil] at hlen
    exact iff_of_true rfl (List.eq_nil_of_length_eq_zero hlen.symm)
  · rename_i best rest hcons
    refine iff_of_false (List.cons_ne_nil _ _) fun heps => ?_
    rw [heps] at hcons
    cases hcons

theorem foldl_best {bestId : Uuid} {rest : List DeviceEndpoint} {x : Option String × Option ℤ}
    (hx : x.1 ≠ none) (h : ∀ e ∈ rest, e.id ≠ bestId) :
    rest.foldl (fun (best : Option String × Option ℤ) (e : DeviceEndpoint) =>
      if best.1 = none ∨ e.id = bestId then (some e.endpoint, some e.port) else best) x = x := by
  induction rest with
  | nil => rfl
  | cons e rest ih =>
    rw [List.foldl_cons, if_neg (by simp [hx, h e List.mem_cons_self])]
    exact ih fun e' he' => h e' (List.mem_cons_of_mem _ he')

/-- In a mesh or a hybrid network the entry is made of the planned peer and its candidates. -/
theorem PeerPlan.info_eq (settings : Settings) (p : PeerPlan) {eps : List DeviceEndpoint}
    (hids : (eps.map (·.id)).Nodup) :
    p.info settings true eps = p.withCandidates settings (shownCandidates eps) := by
  cases heps : eps with
  | nil =>
    rw [shownCandidates_eq_nil.2 rfl]
    simp [info, withCandidates, orText, orPort, truthy]
  | cons e es =>
    rw [← heps]
    have hne : eps ≠ [] := by simp [heps]
    have hperm : (sortEndpointCandidates eps).Perm eps := List.perm_insertionSort _ _
    cases hsorted : sortEndpointCandidates eps with
    | nil =>
      rw [hsorted] at hperm
      exact absurd hperm.nil_eq.symm hne
    | cons best rest =>
      rw [hsorted] at hperm
      have hrest : ∀ e ∈ rest, e.id ≠ best.id := by
        intro e he hid
        have hnodup := (hperm.map (·.id)).nodup_iff.2 hids
        rw [List.map_cons, List.nodup_cons] at hnodup
        exact hnodup.1 (hid ▸ List.mem_map_of_mem he)
      have hbest := foldl_best (x := (some best.endpoint, some best.port))
        (Option.some_ne_none _) hrest
      simpa [info, withCandidates, shownCandidates, selectBestEndpoint, hsorted, hne, hbest,
        DeviceEndpoint.candidate] using hrest

theorem PeerPlan.info_star (settings : Settings) (p : PeerPlan) (eps eps' : List DeviceEndpoint) :
    p.info settings false eps' = p.info settings false eps := by
  simp [info]

/-! ### Whose endpoints are shown -/

/-- The device selected itself as its exit node: it is not the hub and has a key. -/
def PlanInput.SelectsSelf (i : PlanInput) : Prop :=
  i.device.exitNodeId = some i.device.id ∧ i.device.id ≠ "" ∧ i.device.publicKey ≠ "" ∧
    i.device.id ≠ i.serverDeviceId

/-- The exit-node step of a plan that has a peer for every other device. -/
theorem PlanInput.mem_withExitNode_keys {i : PlanInput}
    (hids : ∀ x ∈ i.allDevices, x.id = i.device.id → x = i.device) {f : DeviceState → PeerPlan}
    (hf : ∀ x, (f x).publicKey = x.publicKey) {k : String} :
    (∃ p ∈ i.withExitNode ((i.allDevices.filter fun x => x.id ≠ i.device.id).map f),
      p.publicKey = k) ↔ ∃ x ∈ i.allDevices, x.publicKey = k ∧ (x.id ≠ i.device.id ∨ i.SelectsSelf) := by
  have hothers : ∀ x ∈ i.allDevices, x.id ≠ i.device.id →
      f x ∈ (i.allDevices.filter fun x => x.id ≠ i.device.id).map f := fun x hx hne =>
    List.mem_map_of_mem (List.mem_filter.2 ⟨hx, decide_eq_true hne⟩)
  have hpeers : ∀ p ∈ (i.allDevices.filter fun x => x.id ≠ i.device.id).map f,
      ∃ x ∈ i.allDevices, x.publicKey = p.publicKey ∧ x.id ≠ i.device.id := by
    intro p hp
    obtain ⟨x, hx, rfl⟩ := List.mem_map.1 hp
    obtain ⟨hx, hne⟩ := List.mem_filter.1 hx
    exact ⟨x, hx, (hf x).symm, of_decide_eq_true hne⟩
  generalize (i.allDevices.filter fun x => x.id ≠ i.device.id).map f = ps at hothers hpeers
  constructor
  · rintro ⟨p, hp, rfl⟩
    rcases i.withExitNode_cases ps with hsame | ⟨ed, hed, hex, hserver, hne, hkey, -, happend⟩
    · obtain ⟨x, hx, hk, hother⟩ := hpeers p (hsame ▸ hp)
      exact ⟨x, hx, hk, .inl hother⟩
    · rw [happend, List.mem_append, List.mem_singleton] at hp
      rcases hp with hp | rfl
      · obtain ⟨x, hx, hk, hother⟩ := hpeers p hp
        exact ⟨x, hx, hk, .inl hother⟩
      · refine ⟨ed, hed, rfl, ?_⟩
        by_cases hself : ed.id = i.device.id
        · obtain rfl := hids ed hed hself
          exact .inr ⟨hex, hne, hkey, hserver⟩
        · exact .inl hself
  · rintro ⟨x, hx, rfl, hshown⟩
    -- every peer stays in the plan
    have hsub : ∀ p ∈ ps, p ∈ i.withExitNode ps := fun p hp => by
      rcases i.withExitNode_cases ps with hsame | ⟨ed, _, _, _, _, _, _, happend⟩
      · rwa [hsame]
      · rw [happend]
        exact List.mem_append_left _ hp
    by_cases hother : x.id = i.device.id
    · obtain rfl := hids x hx hother
      obtain ⟨hex, hne, hkey, hserver⟩ := hshown.resolve_left (not_not_intro rfl)
      by_cases hnew : ∀ p ∈ ps, p.publicKey ≠ i.device.publicKey
      · rw [i.withExitNode_of_selected hx hids hex hne hkey hserver hnew]
        exact ⟨_, List.mem_append_right _ (List.mem_singleton_self _), rfl⟩
      · push Not at hnew
        obtain ⟨p, hp, hk⟩ := hnew
        exact ⟨p, hsub p hp, hk⟩
    · exact ⟨f x, hsub _ (hothers x hx hother), hf x⟩

/-- **The keys of the peers in a mesh or a hybrid network**: those of the other devices, and that of
a device that selected itself as its exit node. -/
theorem TopologyType.mem_planKeys (settings : Settings) {t : TopologyType} (ht : t ≠ .star)
    {i : PlanInput} (hids : ∀ x ∈ i.allDevices, x.id = i.device.id → x = i.device) {k : String} :
    (∃ p ∈ (t.generatePlan settings i).peers, p.publicKey = k) ↔
      ∃ x ∈ i.allDevices, x.publicKey = k ∧ (x.id ≠ i.device.id ∨ i.SelectsSelf) := by
  cases t with
  | star => exact absurd rfl ht
  | mesh => exact i.mem_withExitNode_keys hids fun _ => rfl
  | hybrid =>
    exact i.mem_withExitNode_keys hids (HybridTopologyGenerator.peer_publicKey settings i)

/-- The device whose endpoints are shown for a key: the last one of the snapshot. -/
def Database.lastWithKey (db : Database) (networkId : Uuid) (key : String) : Option Device :=
  (db.plannedDevices networkId).reverse.find? fun x => x.state.publicKey = key

theorem ConfigView.endpointsOf_eq {v : ConfigView} {db : Database} {networkId : Uuid} {key : String}
    {y : Device} (hstates : v.states = (db.buildDeviceStates networkId).1)
    (h : db.lastWithKey networkId key = some y) :
    v.endpointsOf key = v.endpointsByDevice.getD y.id.str [] := by
  have hid : (Dict.ofRows (·.publicKey) (·.id) v.states).getD key "" = y.id.str := by
    rw [hstates]
    change (Dict.ofRows _ _ ((db.plannedDevices networkId).map Device.state)).getD key "" = _
    rw [Database.lastWithKey] at h
    rw [Dict.getD, Dict.get?_ofRows, ← List.map_reverse, List.find?_map, Option.map_map]
    change (((db.plannedDevices networkId).reverse.find?
      fun x => x.state.publicKey = key).map _).getD "" = _
    rw [h]
    rfl
  rw [ConfigView.endpointsOf, hid]

theorem Database.exists_lastWithKey {db : Database} {networkId : Uuid} {x : Device}
    (hx : x ∈ db.plannedDevices networkId) :
    ∃ y, db.lastWithKey networkId x.state.publicKey = some y := by
  rw [← Option.isSome_iff_exists, lastWithKey, List.find?_isSome]
  exact ⟨x, List.mem_reverse.2 hx, decide_eq_true rfl⟩

theorem Database.lastWithKey_mem {db : Database} {networkId : Uuid} {key : String} {y : Device}
    (h : db.lastWithKey networkId key = some y) : y ∈ db.plannedDevices networkId :=
  List.mem_reverse.1 (List.mem_of_find?_eq_some h)

theorem Database.mem_endpointsOf {db : Database} {networkId : Uuid} {y : Device}
    (hy : y ∈ db.plannedDevices networkId) {e : DeviceEndpoint} :
    e ∈ (db.buildEndpointsByDevice networkId).getD y.id.str [] ↔
      e ∈ db.endpoints ∧ e.isActive = true ∧ e.deviceId = y.id := by
  obtain ⟨hmem, hnetwork, hactive, -⟩ := mem_plannedDevices.1 hy
  have hid : y.id ∈ (db.devices.select fun d => d.networkId = networkId ∧ d.isActive).map (·.id) :=
    List.mem_map_of_mem (Table.mem_select.2 ⟨hmem, decide_eq_true ⟨hnetwork, hactive⟩⟩)
  rw [buildEndpointsByDevice, Dict.getD_groupBy, List.map_id', List.mem_filter, sortEndpoints,
    List.mem_insertionSort, Table.mem_select, decide_eq_true_eq, decide_eq_true_eq, Uuid.str_inj]
  constructor
  · rintro ⟨⟨he, hactive, -⟩, hdevice⟩
    exact ⟨he, hactive, hdevice⟩
  · rintro ⟨he, hactive, hdevice⟩
    exact ⟨⟨he, hactive, hdevice ▸ hid⟩, hdevice⟩

theorem Database.nodup_endpoints (db : Database) (networkId : Uuid) (key : String) :
    (((db.buildEndpointsByDevice networkId).getD key []).map (·.id)).Nodup := by
  rw [buildEndpointsByDevice, Dict.getD_groupBy, List.map_id']
  refine List.Nodup.sublist (List.filter_sublist.map _) ?_
  refine ((List.perm_insertionSort endpointLe _).map _).nodup_iff.2 ?_
  exact db.endpoints.pk_nodup.sublist (List.filter_sublist.map _)

/-- The device selected itself as its exit node: it is not the hub and has a key. -/
def Device.SelectsSelf (db : Database) (d : Device) : Prop :=
  d.exitNodeId = some d.id ∧ d.state.publicKey ≠ "" ∧
    (db.buildDeviceStates d.networkId).2 ≠ some d.id.str

/-- The endpoints of `y` are shown in the configuration of `d`: in a mesh or a hybrid network `y` is
the last device with the key of another device, or with the key of `d`, which selected itself as its
exit node. -/
def Database.ShownTo (env : Env) (db : Database) (d y : Device) : Prop :=
  (∃ network, db.networks.get? d.networkId = some network ∧
    isMeshOrHybrid (env.settings.topologyOf network.topology) = true) ∧
  ∃ x ∈ db.plannedDevices d.networkId, db.lastWithKey d.networkId x.state.publicKey = some y ∧
    (x.id ≠ d.id ∨ d.SelectsSelf db)

theorem isMeshOrHybrid_iff {s : String} {t : TopologyType} (h : TopologyType.parse s = some t) :
    isMeshOrHybrid s = true ↔ t ≠ .star := by
  unfold TopologyType.parse at h
  split at h <;> cases h <;> simp [isMeshOrHybrid]

section

variable {env : Env} {db : Database} {d : Device} {network : Network} {current : DeviceState}
  {t : TopologyType} {net : IPv4Network}

theorem Database.ConfigSubject.current_eq_state
    (h : db.ConfigSubject env d network current t net) (hd : d ∈ db.devices) :
    current = d.state ∧ d ∈ db.plannedDevices d.networkId := by
  obtain ⟨x, hx, rfl⟩ := List.mem_map.1 (List.mem_of_find?_eq_some h.current_eq)
  have hid : x.id.str = d.id.str := of_decide_eq_true
    (List.find?_some (p := fun s : DeviceState => decide (s.id = d.id.str)) h.current_eq)
  obtain rfl : x = d :=
    db.devices.eq_of_pk (mem_plannedDevices.1 hx).1 hd (Uuid.str_inj.1 hid)
  exact ⟨rfl, hx⟩

/-- The keys of the peers in a mesh or a hybrid network. -/
theorem Database.ConfigSubject.mem_planKeys (h : db.ConfigSubject env d network current t net)
    (hd : d ∈ db.devices) (ht : t ≠ .star) (order : SetOrder String) {k : String} :
    (∃ p ∈ (t.generatePlan env.settings
      ((db.configView order d.networkId).planInput network current)).peers, p.publicKey = k) ↔
        ∃ x ∈ db.plannedDevices d.networkId, x.state.publicKey = k ∧
          (x.id ≠ d.id ∨ d.SelectsSelf db) := by
  obtain ⟨rfl, -⟩ := h.current_eq_state hd
  have hself : ((db.configView order d.networkId).planInput network d.state).SelectsSelf ↔
      d.SelectsSelf db := by
    have hserver : d.id.str = (db.buildDeviceStates d.networkId).2.getD "" ↔
        (db.buildDeviceStates d.networkId).2 = some d.id.str := Uuid.str_eq_getD_iff
    rw [Device.SelectsSelf, ← Device.state_exitNodeId_eq_iff, ne_eq _ (some d.id.str), ← hserver]
    exact and_congr_right fun _ => and_iff_right (Uuid.str_ne_empty d.id)
  rw [TopologyType.mem_planKeys env.settings ht ?_, hself]
  · constructor
    · rintro ⟨s, hs, rfl, hshown⟩
      obtain ⟨x, hx, rfl⟩ := List.mem_map.1 hs
      exact ⟨x, hx, rfl, hshown.imp_left fun hne hid => hne (congrArg Uuid.str hid)⟩
    · rintro ⟨x, hx, rfl, hshown⟩
      exact ⟨x.state, List.mem_map_of_mem hx, rfl,
        hshown.imp_left fun hne hid => hne (Uuid.str_inj.1 hid)⟩
  · intro s hs hid
    obtain ⟨x, hx, rfl⟩ := List.mem_map.1 hs
    rw [db.devices.eq_of_pk (mem_plannedDevices.1 hx).1 hd (Uuid.str_inj.1 hid)]
    rfl

end

end Midscale
