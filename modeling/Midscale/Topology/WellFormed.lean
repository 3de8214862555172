import Midscale.Topology.Hybrid

/-!
# Well-formed plans

A plan is to have no entry for the device itself, no key twice, and the peers of its topology: all
other devices, or in the star of a client the hub and the exit node.  The loops over the devices
skip the device itself.  The step that adds the exit node asks whether that is the hub or a peer
already, and not whether it is the device.

* `PlanInput.withExitNode_others` : where all other devices are peers, the step adds nothing but the
  device itself.
* `generatePlan_wellFormed_iff` : **a generated plan is well formed if and only if the device is not
  its own exit node**, or is the hub.
-/

namespace Midscale

/-- A snapshot with the device and the hub, where no two devices share an id or a key. -/
structure PlanInput.Keyed (i : PlanInput) : Prop where
  ids_nodup : (i.allDevices.map (·.id)).Nodup
  keys_nodup : (i.allDevices.map (·.publicKey)).Nodup
  keys_ne : ∀ d ∈ i.allDevices, d.publicKey ≠ ""
  device_mem : i.device ∈ i.allDevices
  hub_mem : ∃ hub ∈ i.allDevices, hub.id = i.serverDeviceId

/-- The devices that the plan is to have as peers. -/
def PlanInput.IsPeer (i : PlanInput) (t : TopologyType) (d : DeviceState) : Prop :=
  if t = .star ∧ i.device.id ≠ i.serverDeviceId then
    d.id = i.serverDeviceId ∨ truthy i.device.exitNodeId = true ∧ i.device.exitNodeId = some d.id
  else d.id ≠ i.device.id

/-- The plan has no entry for the device itself, no key twice, and the peers of its topology. -/
structure TopologyPlan.WellFormed (plan : TopologyPlan) (i : PlanInput) (t : TopologyType) :
    Prop where
  not_self : ∀ p ∈ plan.peers, p.publicKey ≠ i.device.publicKey
  keys_nodup : (plan.peers.map (·.publicKey)).Nodup
  keys_iff : ∀ k, k ∈ plan.peers.map (·.publicKey) ↔
    ∃ d ∈ i.allDevices, i.IsPeer t d ∧ d.publicKey = k

/-- The device has selected itself as its exit node, and is not the hub. -/
def PlanInput.IsOwnExit (i : PlanInput) : Prop :=
  i.device.exitNodeId = some i.device.id ∧ i.device.id ≠ "" ∧ i.device.id ≠ i.serverDeviceId

/-- Where all other devices are peers, the selection adds nothing but the device itself. -/
theorem PlanInput.withExitNode_others {i : PlanInput} {peer : DeviceState → PeerPlan}
    (hpeer : ∀ d, (peer d).publicKey = d.publicKey) (hown : ¬ i.IsOwnExit) :
    i.withExitNode ((i.allDevices.filter fun d => d.id ≠ i.device.id).map peer) =
      (i.allDevices.filter fun d => d.id ≠ i.device.id).map peer := by
  rcases i.withExitNode_cases ((i.allDevices.filter fun d => d.id ≠ i.device.id).map peer) with
    hsame | ⟨ed, hed, hex, hsrv, hne, -, hnew, -⟩
  · exact hsame
  · refine absurd ?_ hown
    have hself : ed.id = i.device.id := by
      by_contra hother
      refine hnew (peer ed) (List.mem_map_of_mem (List.mem_filter.2 ⟨hed, ?_⟩)) (hpeer ed)
      exact decide_eq_true hother
    rw [hself] at hex hsrv hne
    exact ⟨hex, hne, hsrv⟩

namespace PlanInput.Keyed

variable {i : PlanInput}

theorem eq_of_id (h : i.Keyed) {d e : DeviceState} (hd : d ∈ i.allDevices)
    (he : e ∈ i.allDevices) (hid : d.id = e.id) : d = e :=
  List.inj_on_of_nodup_map h.ids_nodup hd he hid

theorem eq_of_key (h : i.Keyed) {d e : DeviceState} (hd : d ∈ i.allDevices)
    (he : e ∈ i.allDevices) (hkey : d.publicKey = e.publicKey) : d = e :=
  List.inj_on_of_nodup_map h.keys_nodup hd he hkey

theorem own_key_of_isOwnExit (h : i.Keyed) (hown : i.IsOwnExit) {ps : List PeerPlan}
    (hps : ∀ p ∈ ps, p.publicKey ≠ i.device.publicKey) :
    ∃ p ∈ i.withExitNode ps, p.publicKey = i.device.publicKey := by
  obtain ⟨hex, hne, hsrv⟩ := hown
  rw [i.withExitNode_of_self h.device_mem
    (fun d hd hid => h.eq_of_id hd h.device_mem hid) hex hne (h.keys_ne _ h.device_mem) hsrv hps]
  exact ⟨_, List.mem_append_right _ (List.mem_singleton_self _), rfl⟩

/-- **A plan is well formed** if its entries have the keys of the devices that are to be peers. -/
theorem wellFormed_of_keys (h : i.Keyed) {plan : TopologyPlan} {t : TopologyType}
    (ds : List DeviceState) (hkeys : plan.peers.map (·.publicKey) = ds.map (·.publicKey))
    (hnodup : ds.Nodup) (hds : ∀ d, d ∈ ds ↔ d ∈ i.allDevices ∧ i.IsPeer t d)
    (hself : i.device ∉ ds) : plan.WellFormed i t where
  not_self p hp hkey := by
    have hmem : p.publicKey ∈ ds.map (·.publicKey) := hkeys ▸ List.mem_map_of_mem hp
    obtain ⟨d, hd, hdkey⟩ := List.mem_map.1 hmem
    have heq : d = i.device := h.eq_of_key ((hds d).1 hd).1 h.device_mem (hdkey.trans hkey)
    exact hself (heq ▸ hd)
  keys_nodup := by
    rw [hkeys]
    exact hnodup.map_on fun d hd e he => h.eq_of_key ((hds d).1 hd).1 ((hds e).1 he).1
  keys_iff k := by
    rw [hkeys, List.mem_map]
    simp only [hds, and_assoc]

/-! ### All other devices as peers -/

theorem others_wellFormed (h : i.Keyed) {peer : DeviceState → PeerPlan}
    (hpeer : ∀ d, (peer d).publicKey = d.publicKey) {t : TopologyType}
    (ht : ¬ (t = .star ∧ i.device.id ≠ i.serverDeviceId)) :
    (i.plan ((i.allDevices.filter fun d => d.id ≠ i.device.id).map peer)).WellFormed i t := by
  refine h.wellFormed_of_keys (i.allDevices.filter fun d => d.id ≠ i.device.id) ?_ ?_
    (fun d => ?_) fun hmem => ?_
  · rw [PlanInput.plan_peers, List.map_map]
    exact List.map_congr_left fun d _ => hpeer d
  · exact (List.Nodup.of_map _ h.ids_nodup).filter _
  · rw [List.mem_filter, decide_eq_true_eq, IsPeer, if_neg ht]
  · exact of_decide_eq_true (List.mem_filter.1 hmem).2 rfl

theorem plan_others_wellFormed_iff (h : i.Keyed) {peer : DeviceState → PeerPlan}
    (hpeer : ∀ d, (peer d).publicKey = d.publicKey) {t : TopologyType}
    (ht : ¬ (t = .star ∧ i.device.id ≠ i.serverDeviceId)) :
    (i.plan (i.withExitNode ((i.allDevices.filter fun d => d.id ≠ i.device.id).map
      peer))).WellFormed i t ↔ ¬ i.IsOwnExit := by
  constructor
  · intro hplan hown
    obtain ⟨p, hp, hkey⟩ := h.own_key_of_isOwnExit hown (h.others_wellFormed hpeer ht).not_self
    exact hplan.not_self p hp hkey
  · intro hown
    rw [withExitNode_others hpeer hown]
    exact h.others_wellFormed hpeer ht

/-! ### The star of a client -/

section Star

variable {hub : DeviceState} (settings : Settings)

theorem isPeer_star_iff (hclient : i.device.id ≠ i.serverDeviceId) {d : DeviceState} :
    i.IsPeer .star d ↔ d.id = i.serverDeviceId ∨
      truthy i.device.exitNodeId = true ∧ i.device.exitNodeId = some d.id := by
  rw [IsPeer, if_pos ⟨rfl, hclient⟩]

theorem star_hub_wellFormed (h : i.Keyed) (hclient : i.device.id ≠ i.serverDeviceId)
    (hhub : hub ∈ i.allDevices) (hid : hub.id = i.serverDeviceId)
    (hnone : ∀ d ∈ i.allDevices, truthy i.device.exitNodeId = true →
      i.device.exitNodeId = some d.id → d.id = i.serverDeviceId) {plan : TopologyPlan}
    (hpeers : plan.peers = [StarTopologyGenerator.serverPeer settings i hub]) :
    plan.WellFormed i .star := by
  refine h.wellFormed_of_keys [hub] (by rw [hpeers]; rfl) (List.nodup_singleton _)
    (fun d => ?_) fun hmem => ?_
  · rw [List.mem_singleton, isPeer_star_iff hclient]
    constructor
    · rintro rfl
      exact ⟨hhub, .inl hid⟩
    · rintro ⟨hd, hserver | ⟨htruthy, hex⟩⟩
      · exact h.eq_of_id hd hhub (hserver.trans hid.symm)
      · exact h.eq_of_id hd hhub ((hnone d hd htruthy hex).trans hid.symm)
  · rw [List.mem_singleton] at hmem
    exact hclient ((congrArg _ hmem).trans hid)

theorem star_exit_wellFormed (h : i.Keyed) (hclient : i.device.id ≠ i.serverDeviceId)
    (hhub : hub ∈ i.allDevices) (hid : hub.id = i.serverDeviceId) {ed : DeviceState}
    (hed : ed ∈ i.allDevices) (hex : i.device.exitNodeId = some ed.id)
    (htruthy : truthy i.device.exitNodeId = true) (hsrv : ed.id ≠ i.serverDeviceId)
    (hself : ed.id ≠ i.device.id) {plan : TopologyPlan}
    (hkeys : plan.peers.map (·.publicKey) = [hub.publicKey, ed.publicKey]) :
    plan.WellFormed i .star := by
  have hne : hub ≠ ed := fun heq => hsrv (heq ▸ hid)
  refine h.wellFormed_of_keys [hub, ed] hkeys (by simpa using hne) (fun d => ?_) fun hmem => ?_
  · rw [List.mem_pair, isPeer_star_iff hclient]
    constructor
    · rintro (rfl | rfl)
      · exact ⟨hhub, .inl hid⟩
      · exact ⟨hed, .inr ⟨htruthy, hex⟩⟩
    · rintro ⟨hd, hserver | ⟨-, hex'⟩⟩
      · exact .inl (h.eq_of_id hd hhub (hserver.trans hid.symm))
      · rw [hex, Option.some.injEq] at hex'
        exact .inr (h.eq_of_id hd hed hex'.symm)
  · rcases List.mem_pair.1 hmem with heq | heq
    · exact hclient ((congrArg _ heq).trans hid)
    · exact hself (congrArg _ heq).symm

end Star

theorem star_client_wellFormed_iff (settings : Settings) (h : i.Keyed)
    (hclient : i.device.id ≠ i.serverDeviceId) :
    (StarTopologyGenerator.generatePlan settings i).WellFormed i .star ↔ ¬ i.IsOwnExit := by
  obtain ⟨hub, hhub, hid⟩ := h.hub_mem
  have hfind : i.allDevices.find? (fun d => d.id = i.serverDeviceId) = some hub :=
    find?_eq_some_of_unique hhub (decide_eq_true hid) fun d hd hd' =>
      h.eq_of_id hd hhub ((of_decide_eq_true hd').trans hid.symm)
  have hpeers : (StarTopologyGenerator.generatePlan settings i).peers = _ :=
    StarTopologyGenerator.peers_of_client hfind hclient
  constructor
  · intro hplan hown
    have hnot_self : ∀ p ∈ [StarTopologyGenerator.serverPeer settings i hub],
        p.publicKey ≠ i.device.publicKey := by
      intro p hp hkey
      rw [List.mem_singleton.1 hp] at hkey
      exact hclient ((congrArg _ (h.eq_of_key hhub h.device_mem hkey)).symm.trans hid)
    obtain ⟨p, hp, hkey⟩ := h.own_key_of_isOwnExit hown hnot_self
    exact hplan.not_self p (hpeers ▸ hp) hkey
  · intro hown
    rcases i.withExitNode_cases [StarTopologyGenerator.serverPeer settings i hub] with
      hsame | ⟨ed, hed, hex, hsrv, hne', hkey', hnew, happend⟩
    · -- no exit node that is present, is a device of its own and is selected
      refine h.star_hub_wellFormed settings hclient hhub hid (fun d hd htruthy hex => ?_)
        (hpeers.trans hsame)
      by_contra hother
      have hadds : i.withExitNode [StarTopologyGenerator.serverPeer settings i hub] = _ :=
        i.withExitNode_of_selected hd (fun e he hid => h.eq_of_id he hd hid) hex
          (by simpa [hex, truthy] using htruthy) (h.keys_ne d hd) hother fun p hp hkey => by
            rw [List.mem_singleton.1 hp] at hkey
            exact hother ((congrArg _ (h.eq_of_key hhub hd hkey)).symm.trans hid)
      rw [hsame] at hadds
      exact absurd (congrArg List.length hadds) (by simp)
    · refine h.star_exit_wellFormed hclient hhub hid hed hex (by simpa [hex, truthy] using hne')
        hsrv (fun hself => ?_) ?_
      · rw [hself] at hex hne' hsrv
        exact hown ⟨hex, hne', hsrv⟩
      · rw [hpeers, happend]
        rfl

end PlanInput.Keyed

/-- **A generated plan is well formed if and only if the device is not its own exit node, or is the
hub**, for each of the topologies, all routes and all endpoints. -/
theorem generatePlan_wellFormed_iff (settings : Settings) (t : TopologyType) (i : PlanInput)
    (h : i.Keyed) : (t.generatePlan settings i).WellFormed i t ↔
      ¬ (i.device.exitNodeId = some i.device.id ∧ i.device.id ≠ "" ∧
        i.device.id ≠ i.serverDeviceId) := by
  cases t with
  | mesh => exact h.plan_others_wellFormed_iff (fun _ => rfl) (by simp)
  | hybrid =>
    exact h.plan_others_wellFormed_iff (HybridTopologyGenerator.peer_publicKey settings i) (by simp)
  | star =>
    by_cases hclient : i.device.id = i.serverDeviceId
    · refine iff_of_true ?_ fun hown => hown.2.2 hclient
      obtain ⟨hub, hhub, hid⟩ := h.hub_mem
      have hkey : ∀ d, (StarTopologyGenerator.clientPeer i d).publicKey = d.publicKey :=
        fun _ => rfl
      have hothers := h.others_wellFormed hkey (t := .star) fun hstar => hstar.2 hclient
      have hpeers : (StarTopologyGenerator.generatePlan settings i).peers = _ :=
        StarTopologyGenerator.peers_of_hub hhub hid hclient
      rw [← hclient] at hpeers
      exact ⟨fun p hp => hothers.not_self p (hpeers ▸ hp), hpeers ▸ hothers.keys_nodup,
        fun k => hpeers ▸ hothers.keys_iff k⟩
    · exact h.star_client_wellFormed_iff settings hclient

/-- The office, where device `a` has selected an exit node. -/
def selectingSnapshot (exit : String) : PlanInput :=
  { officeSnapshot with
    device := ⟨"a", "key-a", "10.0.0.2", true, some exit⟩
    allDevices := [⟨"hub", "key-hub", "10.0.0.1", true, none⟩,
      ⟨"a", "key-a", "10.0.0.2", true, some exit⟩, ⟨"b", "key-b", "10.0.0.3", true, none⟩] }

theorem selectingSnapshot_keyed (exit : String) : (selectingSnapshot exit).Keyed where
  ids_nodup := (by decide : ["hub", "a", "b"].Nodup)
  keys_nodup := (by decide : ["key-hub", "key-a", "key-b"].Nodup)
  keys_ne d hd := by
    simp only [selectingSnapshot, List.mem_cons, List.not_mem_nil, or_false] at hd
    rcases hd with rfl | rfl | rfl
    · exact (by decide : "key-hub" ≠ "")
    · exact (by decide : "key-a" ≠ "")
    · exact (by decide : "key-b" ≠ "")
  device_mem := List.mem_cons_of_mem _ List.mem_cons_self
  hub_mem := ⟨_, List.mem_cons_self, rfl⟩

/-- Another device as exit node. -/
theorem generatePlan_wellFormed_office :
    (TopologyType.star.generatePlan {} (selectingSnapshot "b")).WellFormed (selectingSnapshot "b")
      .star :=
  (generatePlan_wellFormed_iff {} .star (selectingSnapshot "b") (selectingSnapshot_keyed "b")).2
    (by decide)

/-- A device that has selected itself gets an entry with its own key. -/
theorem own_exit_has_own_key :
    ∃ p ∈ (TopologyType.mesh.generatePlan {} (selectingSnapshot "a")).peers,
      p.publicKey = (selectingSnapshot "a").device.publicKey := by decide

end Midscale
