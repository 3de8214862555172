import Midscale.Config.Freshness
import Midscale.Sessions.Endpoints

/-!
# The endpoints of a peer

In a mesh or a hybrid network `build_config_v2` sorts the endpoints of a peer's device, and selects
the best of them by a sort of its own.  The sorts agree, ties included: the best candidate is the
first, and the peer is reached at it.  A device without active endpoints has no candidates.

* `Database.endpointRows_perm` : what is sorted are the active endpoints of the device.
* `PeerPlan.withCandidates_shows` : a peer that shows its endpoints is reached at the best.
* `candidate_enrichment` : **every peer of a configuration shows the endpoints of its device.**
-/

namespace Midscale

/-! ### The rows that are shown -/

/-- The endpoints of a device, as the query returns them. -/
def Database.endpointRows (db : Database) (networkId : Uuid) (y : Device) : List DeviceEndpoint :=
  (db.buildEndpointsByDevice networkId).getD y.id.str []

theorem Database.endpointRows_eq {db : Database} {networkId : Uuid} {y : Device}
    (hy : y ∈ db.plannedDevices networkId) :
    db.endpointRows networkId y = sortEndpoints (db.activeEndpoints y.id) := by
  obtain ⟨hmem, hnetwork, hactive, -⟩ := mem_plannedDevices.1 hy
  have hid : y.id ∈ (db.devices.select fun d => d.networkId = networkId ∧ d.isActive).map (·.id) :=
    List.mem_map_of_mem (Table.mem_select.2 ⟨hmem, decide_eq_true ⟨hnetwork, hactive⟩⟩)
  rw [endpointRows, buildEndpointsByDevice, Dict.getD_groupBy, List.map_id', sortEndpoints,
    filter_insertionSort, sortEndpoints, activeEndpoints, Table.select, Table.select,
    List.filter_filter]
  refine congrArg _ (List.filter_congr fun e _ => ?_)
  rw [← Bool.decide_and, decide_eq_decide, Uuid.str_inj]
  constructor
  · rintro ⟨hdevice, hactive, -⟩
    exact ⟨hdevice, hactive⟩
  · rintro ⟨hdevice, hactive⟩
    exact ⟨hdevice, hactive, hdevice ▸ hid⟩

/-- What is sorted are the active endpoints of the device. -/
theorem Database.endpointRows_perm {db : Database} {networkId : Uuid} {y : Device}
    (hy : y ∈ db.plannedDevices networkId) :
    (db.endpointRows networkId y).Perm (db.activeEndpoints y.id) := by
  rw [endpointRows_eq hy]
  exact List.perm_insertionSort _ _

/-! ### Showing -/

/-- The peer shows the rows in the order of `sort_endpoint_candidates`.  The first candidate is the
preferred one, no other is, and the peer is reached at it without a relay. -/
structure PeerInfo.Shows (p : PeerInfo) (rows : List DeviceEndpoint) : Prop where
  candidates : List.Forall₂ (fun e c => c = DeviceEndpoint.candidate e c.preferred)
    (sortEndpointCandidates rows) p.endpointCandidates
  preferred : ∃ best rest, p.endpointCandidates = best :: rest ∧ best.preferred = true ∧
    (∀ c ∈ rest, c.preferred = false) ∧ p.endpoint = some best.endpoint ∧
      p.endpointPort = some best.port
  direct : p.relayRequired = false ∧ p.relayFallback = false

theorem shownCandidates_forall₂ (rows : List DeviceEndpoint) :
    List.Forall₂ (fun e c => c = DeviceEndpoint.candidate e c.preferred)
      (sortEndpointCandidates rows) (shownCandidates rows) := by
  rw [shownCandidates]
  cases sortEndpointCandidates rows with
  | nil => exact .nil
  | cons best rest =>
    refine .cons rfl ?_
    rw [List.forall₂_map_right_iff, List.forall₂_same]
    exact fun _ _ => rfl

/-- **A peer that shows its endpoints is reached at the best of them**, whatever was planned. -/
theorem PeerPlan.withCandidates_shows (settings : Settings) (p : PeerPlan)
    {rows : List DeviceEndpoint} (hne : rows ≠ [])
    (hreal : ∀ e ∈ rows, e.endpoint ≠ "" ∧ e.port ≠ 0) :
    (p.withCandidates settings (shownCandidates rows)).Shows rows := by
  have hperm : (sortEndpointCandidates rows).Perm rows := List.perm_insertionSort _ _
  cases hsorted : sortEndpointCandidates rows with
  | nil =>
    rw [hsorted] at hperm
    exact absurd hperm.nil_eq.symm hne
  | cons best rest =>
    rw [hsorted] at hperm
    obtain ⟨hendpoint, hport⟩ := hreal best (hperm.subset List.mem_cons_self)
    have hall := shownCandidates_forall₂ rows
    have hshown : shownCandidates rows = best.candidate true :: rest.map (·.candidate false) := by
      rw [shownCandidates, hsorted]
    rw [hshown] at hall ⊢
    refine ⟨hall, ⟨best.candidate true, rest.map (·.candidate false), rfl, rfl, ?_,
      if_pos (decide_eq_true hendpoint), if_pos (decide_eq_true hport)⟩, rfl, rfl⟩
    intro c hc
    obtain ⟨e, -, rfl⟩ := List.mem_map.1 hc
    rfl

/-! ### The configuration -/

theorem buildConfigV2_ok_subject {env : Env} {db : Database} {d : Device}
    {r : DeviceConfigV2Response} (h : buildConfigV2 env db d = .ok r) : ∃ network current t net,
      db.ConfigSubject env d network current t net ∧
        r = (db.configView env.setOrder d.networkId).response env d network current t net := by
  have hcases := @buildConfigV2_cases env env db db d rfl rfl rfl
  rcases hcases with
    ⟨e, he, -⟩ | ⟨network, -, current, t, net, -, hsub, -⟩
  · rw [he] at h
    cases h
  · rw [hsub.build, Except.ok.injEq] at h
    exact ⟨network, current, t, net, hsub, h.symm⟩

theorem Database.lastWithKey_of_nodup {db : Database} {networkId : Uuid} {x : Device}
    (hx : x ∈ db.plannedDevices networkId)
    (hkeys : ((db.plannedDevices networkId).map (·.state.publicKey)).Nodup) :
    db.lastWithKey networkId x.state.publicKey = some x := by
  obtain ⟨y, hy⟩ := exists_lastWithKey hx
  have hkey : y.state.publicKey = x.state.publicKey :=
    of_decide_eq_true (List.find?_some (p := fun z : Device =>
      decide (z.state.publicKey = x.state.publicKey)) hy)
  rw [hy, List.inj_on_of_nodup_map hkeys (lastWithKey_mem hy) hx hkey]

/-- **Every peer of a configuration shows the endpoints of its device**, the best one first, and
none when there are none. -/
theorem candidate_enrichment {env : Env} {db : Database} {d : Device} {network : Network}
    {r : DeviceConfigV2Response} (hd : d ∈ db.devices)
    (hnetwork : db.networks.get? d.networkId = some network)
    (hmesh : isMeshOrHybrid (env.settings.topologyOf network.topology) = true)
    (hkeys : ((db.plannedDevices d.networkId).map (·.state.publicKey)).Nodup)
    (h : buildConfigV2 env db d = .ok r) :
    ∀ p ∈ r.peers, ∃ y ∈ db.plannedDevices d.networkId, y.state.publicKey = p.publicKey ∧
      (sortEndpointCandidates (db.endpointRows d.networkId y)).Perm (db.activeEndpoints y.id) ∧
      (db.activeEndpoints y.id ≠ [] →
        (∀ e ∈ db.activeEndpoints y.id, e.endpoint ≠ "" ∧ e.port ≠ 0) →
          p.Shows (db.endpointRows d.networkId y)) ∧
      (db.activeEndpoints y.id = [] → p.endpointCandidates = []) := by
  obtain ⟨network', current, t, net, hsub, rfl⟩ := buildConfigV2_ok_subject h
  obtain rfl : network = network' := Option.some.inj (hnetwork.symm.trans hsub.network_eq)
  have ht : t ≠ .star := (isMeshOrHybrid_iff (getOr_eq_ok.1 hsub.generator)).1 hmesh
  intro p hp
  obtain ⟨plan, hplan, rfl⟩ := List.mem_map.1 hp
  obtain ⟨y, hy, hkey, -⟩ := (hsub.mem_planKeys hd ht env.setOrder).1 ⟨plan, hplan, rfl⟩
  have hperm := Database.endpointRows_perm hy
  have hrows : (db.configView env.setOrder d.networkId).endpointsOf plan.publicKey =
      db.endpointRows d.networkId y := by
    rw [← hkey]
    exact ConfigView.endpointsOf_eq rfl (Database.lastWithKey_of_nodup hy hkeys)
  have hinfo : plan.info env.settings true (db.endpointRows d.networkId y) = _ :=
    plan.info_eq env.settings (db.nodup_endpoints _ _)
  rw [hmesh, hrows, hinfo]
  refine ⟨y, hy, hkey, (List.perm_insertionSort _ _).trans hperm, fun hne hreal => ?_,
    fun hnone => ?_⟩
  · refine plan.withCandidates_shows _ (fun hnil => hne ?_) fun e he => hreal e (hperm.subset he)
    rw [hnil] at hperm
    exact hperm.nil_eq.symm
  · rw [hnone] at hperm
    exact shownCandidates_eq_nil.2 hperm.eq_nil

/-- The laptop is shown the endpoint of the phone. -/
theorem candidate_enrichment_phone : ∃ r,
    buildConfigV2 plainEnv (meshOffice 0 0) meshLaptop = .ok r ∧
    ∀ p ∈ r.peers, ∃ y ∈ (meshOffice 0 0).plannedDevices meshLaptop.networkId,
      y.state.publicKey = p.publicKey ∧
      (sortEndpointCandidates ((meshOffice 0 0).endpointRows meshLaptop.networkId y)).Perm
        ((meshOffice 0 0).activeEndpoints y.id) ∧
      ((meshOffice 0 0).activeEndpoints y.id ≠ [] →
        (∀ e ∈ (meshOffice 0 0).activeEndpoints y.id, e.endpoint ≠ "" ∧ e.port ≠ 0) →
          p.Shows ((meshOffice 0 0).endpointRows meshLaptop.networkId y)) ∧
      ((meshOffice 0 0).activeEndpoints y.id = [] → p.endpointCandidates = []) :=
  ⟨_, (meshOffice_subject 0).build, candidate_enrichment (meshLaptop_mem 0 0)
    (meshOffice_subject 0).network_eq rfl (by decide) (meshOffice_subject 0).build⟩

end Midscale
