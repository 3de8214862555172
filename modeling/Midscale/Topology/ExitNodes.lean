import Midscale.Topology.Hybrid

/-!
# Default routes in a plan

Two paths lead a default route into a plan: the step that adds the selected exit node, and the
approved routes of a device.  The first one works in a star only, since in a mesh and in a hybrid
network every other device is a peer already; the second one works in a mesh and in a hybrid network
only, and does not ask what is selected.

* `star_sendsAllTo_iff` : in a star the selected device gets the default routes, approved or not.
* `mesh_sendsAllTo_iff`, `hybrid_sendsAllTo_iff` : elsewhere a device with an approved default route
  gets it, selected or not.
-/

namespace Midscale

/-- The default routes. -/
def defaultRoutes : List String := ["0.0.0.0/0", "::/0"]

/-- An entry for the key has a default route among its AllowedIPs. -/
def TopologyPlan.SendsAllTo (p : TopologyPlan) (key : String) : Prop :=
  ∃ q ∈ p.peers, q.publicKey = key ∧ ∃ s ∈ q.allowedIps, s ∈ defaultRoutes

instance (p : TopologyPlan) (key : String) : Decidable (p.SendsAllTo key) :=
  inferInstanceAs (Decidable (∃ q ∈ p.peers, _))

/-- The device's selection adds an entry for the key to `peers`. -/
def PlanInput.AddsExit (i : PlanInput) (peers : List PeerPlan) (key : String) : Prop :=
  ∃ e ∈ i.allDevices, i.device.exitNodeId = some e.id ∧ e.id ≠ i.serverDeviceId ∧ e.id ≠ "" ∧
    e.publicKey = key ∧ key ≠ "" ∧ ∀ q ∈ peers, q.publicKey ≠ key

/-- The device selected itself, and no other device has its key. -/
def PlanInput.SelectsItself (i : PlanInput) (key : String) : Prop :=
  i.device.exitNodeId = some i.device.id ∧ i.device.id ≠ "" ∧ i.device.publicKey = key ∧
    key ≠ "" ∧ ∀ d ∈ i.allDevices, d.id ≠ i.device.id → d.publicKey ≠ key

/-- The snapshot of a device that is not the hub: it is one of the devices of the snapshot, and no
two of these have one id. -/
structure PlanInput.Client (i : PlanInput) : Prop where
  ids_nodup : (i.allDevices.map (·.id)).Nodup
  device_mem : i.device ∈ i.allDevices
  not_hub : i.device.id ≠ i.serverDeviceId

theorem hostRoute_not_default (ip : String) : hostRoute ip ∉ defaultRoutes := by
  intro h
  have hlast : (hostRoute ip).toList.getLast? = some '2' := by
    rw [hostRoute, String.toList_append, List.getLast?_append]
    rfl
  simp only [defaultRoutes, List.mem_cons, List.not_mem_nil, or_false] at h
  rcases h with h | h <;> rw [h] at hlast <;> revert hlast <;> decide

namespace PlanInput.Client

variable {i : PlanInput}

theorem eq_of_id (h : i.Client) {d e : DeviceState} (hd : d ∈ i.allDevices)
    (he : e ∈ i.allDevices) (hid : d.id = e.id) : d = e :=
  List.inj_on_of_nodup_map h.ids_nodup hd he hid

theorem sendsAllTo_withExitNode (h : i.Client) (peers : List PeerPlan) {key : String} :
    (i.plan (i.withExitNode peers)).SendsAllTo key ↔
      (∃ q ∈ peers, q.publicKey = key ∧ ∃ s ∈ q.allowedIps, s ∈ defaultRoutes) ∨
        i.AddsExit peers key := by
  rw [TopologyPlan.SendsAllTo, PlanInput.plan_peers]
  constructor
  · rintro ⟨q, hq, hkey, hdefault⟩
    rcases i.withExitNode_cases peers with hw | ⟨e, he, hsel, hsrv, hid, hek, hnew, hw⟩
    · exact .inl ⟨q, hw ▸ hq, hkey, hdefault⟩
    · rw [hw] at hq
      rcases List.mem_append.1 hq with hq | hq
      · exact .inl ⟨q, hq, hkey, hdefault⟩
      · rw [List.mem_singleton.1 hq] at hkey
        subst hkey
        exact .inr ⟨e, he, hsel, hsrv, hid, rfl, hek, hnew⟩
  · rintro (⟨q, hq, hkey, hdefault⟩ | ⟨e, he, hsel, hsrv, hid, rfl, hek, hnew⟩)
    · refine ⟨q, ?_, hkey, hdefault⟩
      rcases i.withExitNode_cases peers with hw | ⟨e, -, -, -, -, -, -, hw⟩ <;> rw [hw]
      · exact hq
      · exact List.mem_append_left _ hq
    · refine ⟨{ publicKey := e.publicKey, allowedIps := ["0.0.0.0/0", "::/0"] }, ?_, rfl,
        "0.0.0.0/0", List.mem_cons_self, by decide⟩
      rw [i.withExitNode_of_selected he (fun d hd hid => h.eq_of_id hd he hid) hsel hid hek hsrv
        hnew]
      exact List.mem_append_right _ (List.mem_singleton_self _)

theorem sendsAllTo_of_peers (h : i.Client) (peer : DeviceState → PeerPlan)
    (hpeer : ∀ d, (peer d).publicKey = d.publicKey) {key : String} :
    (i.plan (i.withExitNode ((i.allDevices.filter fun d => d.id ≠ i.device.id).map
      peer))).SendsAllTo key ↔
        (∃ d ∈ i.allDevices, d.id ≠ i.device.id ∧ d.publicKey = key ∧
          ∃ s ∈ (peer d).allowedIps, s ∈ defaultRoutes) ∨ i.SelectsItself key := by
  rw [h.sendsAllTo_withExitNode]
  refine or_congr ?_ ?_
  · constructor
    · rintro ⟨q, hq, hkey, hdefault⟩
      obtain ⟨d, hd, rfl⟩ := List.mem_map.1 hq
      obtain ⟨hd, hid⟩ := List.mem_filter.1 hd
      exact ⟨d, hd, of_decide_eq_true hid, (hpeer d).symm.trans hkey, hdefault⟩
    · rintro ⟨d, hd, hid, hkey, hdefault⟩
      exact ⟨peer d, List.mem_map_of_mem (List.mem_filter.2 ⟨hd, decide_eq_true hid⟩),
        (hpeer d).trans hkey, hdefault⟩
  · simp only [AddsExit, List.forall_mem_map, List.mem_filter, decide_eq_true_eq, hpeer]
    constructor
    · rintro ⟨e, he, hsel, -, hid, hkey, hne, hnew⟩
      obtain rfl : e = i.device := by
        -- any other device is a peer already
        by_contra hother
        exact hnew e ⟨he, fun hid => hother (h.eq_of_id he h.device_mem hid)⟩ hkey
      exact ⟨hsel, hid, hkey, hne, fun d hd hid => hnew d ⟨hd, hid⟩⟩
    · rintro ⟨hsel, hid, hkey, hne, hnew⟩
      exact ⟨i.device, h.device_mem, hsel, h.not_hub, hid, hkey, hne,
        fun d hd => hnew d hd.1 hd.2⟩

end PlanInput.Client

section

variable (settings : Settings) {i : PlanInput} {x : DeviceState}

/-- **In a star** a default route leads to the hub if the subnet is one, and to the selected device
of the snapshot; whether that has an approved exit route does not matter. -/
theorem star_sendsAllTo_iff (h : i.Client) {key : String} :
    (StarTopologyGenerator.generatePlan settings i).SendsAllTo key ↔
      ∃ hub ∈ i.allDevices, hub.id = i.serverDeviceId ∧
        (hub.publicKey = key ∧ i.network.subnet ∈ defaultRoutes ∨
          ∃ e ∈ i.allDevices, i.device.exitNodeId = some e.id ∧ e.id ≠ i.serverDeviceId ∧
            e.id ≠ "" ∧ e.publicKey = key ∧ key ≠ "" ∧ hub.publicKey ≠ key) := by
  cases hf : i.allDevices.find? fun d => d.id = i.serverDeviceId with
  | none =>
    have hnil : (StarTopologyGenerator.generatePlan settings i).peers = [] := by
      simp only [StarTopologyGenerator.generatePlan, hf, PlanInput.plan_peers]
    rw [TopologyPlan.SendsAllTo, hnil]
    constructor
    · rintro ⟨q, hq, -⟩
      cases hq
    · rintro ⟨hub, hhub, hid, -⟩
      exact absurd (decide_eq_true hid) (List.find?_eq_none.1 hf hub hhub)
  | some hub =>
    have hhub : hub ∈ i.allDevices := List.mem_of_find?_eq_some hf
    have hid : hub.id = i.serverDeviceId := by simpa using List.find?_some hf
    have hplan : StarTopologyGenerator.generatePlan settings i =
        i.plan (i.withExitNode [StarTopologyGenerator.serverPeer settings i hub]) := by
      simp only [StarTopologyGenerator.generatePlan, hf, h.not_hub, ↓reduceIte]
    have hentry : (∃ q ∈ [StarTopologyGenerator.serverPeer settings i hub], q.publicKey = key ∧
        ∃ s ∈ q.allowedIps, s ∈ defaultRoutes) ↔
          hub.publicKey = key ∧ i.network.subnet ∈ defaultRoutes := by
      simp only [List.mem_singleton, exists_eq_left, StarTopologyGenerator.serverPeer]
    have hadds : i.AddsExit [StarTopologyGenerator.serverPeer settings i hub] key ↔
        ∃ e ∈ i.allDevices, i.device.exitNodeId = some e.id ∧ e.id ≠ i.serverDeviceId ∧
          e.id ≠ "" ∧ e.publicKey = key ∧ key ≠ "" ∧ hub.publicKey ≠ key := by
      simp only [PlanInput.AddsExit, List.mem_singleton, forall_eq,
        StarTopologyGenerator.serverPeer]
    rw [hplan, h.sendsAllTo_withExitNode, hentry, hadds]
    constructor
    · exact fun hsends => ⟨hub, hhub, hid, hsends⟩
    · rintro ⟨hub', hhub', hid', hsends⟩
      rwa [h.eq_of_id hhub' hhub (hid'.trans hid.symm)] at hsends

theorem peerAllowedIps_default :
    (∃ s ∈ i.peerAllowedIps x, s ∈ defaultRoutes) ↔
      ∃ s ∈ i.routesByDevice.getD x.id [], s ∈ defaultRoutes := by
  constructor
  · rintro ⟨s, hs, hdefault⟩
    rcases List.mem_cons.1 hs with rfl | hs
    · exact absurd hdefault (hostRoute_not_default _)
    · exact ⟨s, hs, hdefault⟩
  · rintro ⟨s, hs, hdefault⟩
    exact ⟨s, List.mem_cons_of_mem _ hs, hdefault⟩

/-- **In a mesh** a default route leads to every device that has one, selected or not. -/
theorem mesh_sendsAllTo_iff (h : i.Client) {key : String} :
    (MeshTopologyGenerator.generatePlan settings i).SendsAllTo key ↔
      (∃ d ∈ i.allDevices, d.id ≠ i.device.id ∧ d.publicKey = key ∧
        ∃ s ∈ i.routesByDevice.getD d.id [], s ∈ defaultRoutes) ∨ i.SelectsItself key := by
  simp only [← peerAllowedIps_default]
  exact h.sendsAllTo_of_peers (MeshTopologyGenerator.peer settings i) fun _ => rfl

/-- **In a hybrid network** the same is true of every device but the hub. -/
theorem hybrid_sendsAllTo_iff (h : i.Client) {key : String} :
    (HybridTopologyGenerator.generatePlan settings i).SendsAllTo key ↔
      (∃ d ∈ i.allDevices, d.id ≠ i.device.id ∧ d.publicKey = key ∧
        if d.id = i.serverDeviceId then i.network.subnet ∈ defaultRoutes
        else ∃ s ∈ i.routesByDevice.getD d.id [], s ∈ defaultRoutes) ∨ i.SelectsItself key := by
  have hentry : ∀ d, (∃ s ∈ (HybridTopologyGenerator.peer settings i d).allowedIps,
      s ∈ defaultRoutes) ↔ if d.id = i.serverDeviceId then i.network.subnet ∈ defaultRoutes
        else ∃ s ∈ i.routesByDevice.getD d.id [], s ∈ defaultRoutes := by
    intro d
    rw [HybridTopologyGenerator.peer_allowedIps]
    split_ifs
    · simp only [List.mem_singleton, exists_eq_left]
    · exact peerAllowedIps_default
  simp only [← hentry]
  exact h.sendsAllTo_of_peers (HybridTopologyGenerator.peer settings i)
    (HybridTopologyGenerator.peer_publicKey settings i)

end

end Midscale
