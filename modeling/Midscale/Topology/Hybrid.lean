import Midscale.Topology.Forwarding

/-!
# Hub fallback in hybrid networks

In a hybrid network a device without a known endpoint is to be reached through the hub.  The
generator gives such a device a peer entry of its own, without an endpoint but with its host
route, and a host route beats the subnet that leads to the hub: packets to the device go to a
peer that cannot be reached.

* `hybrid_selects_device` : the address of every other device but the hub is matched to that
  device's own entry.
* `hybrid_selects_hub`, `hybrid_selects_self` : the hub's address is matched to the hub, except
  where a device that selected itself as exit node takes a default-route subnet over.
* `HybridReaches` : what the fallback is to achieve for one destination.
* `hybrid_fallback_iff` : **it is achieved for all destinations exactly when every other device
  has a usable endpoint** (and the exception above is excluded).
-/

namespace Midscale

/-- `d` has an active endpoint row. -/
def PlanInput.hasActiveEndpoint (i : PlanInput) (d : DeviceState) : Bool :=
  (i.endpointsByDevice.getD d.id []).any (·.isActive)

/-- The text of the best active endpoint of `d` is present and not empty. -/
def PlanInput.hasUsableEndpoint (i : PlanInput) (d : DeviceState) : Bool :=
  truthy (bestEndpoint (i.endpointsByDevice.getD d.id [])).1

/-- `d` selected itself as its exit node, has a key, and the subnet is the default route. -/
def PlanInput.SelfExit (i : PlanInput) (net : IPv4Network) (d : DeviceState) : Prop :=
  net.prefixlen.val = 0 ∧ d.exitNodeId = some d.id ∧ d.id ≠ "" ∧ d.publicKey ≠ "" ∧
    d.id ≠ i.serverDeviceId

theorem PlanInput.hasActiveEndpoint_of_usable {i : PlanInput} {d : DeviceState}
    (h : i.hasUsableEndpoint d = true) : i.hasActiveEndpoint d = true := by
  rw [hasActiveEndpoint, List.any_eq_true]
  by_contra hnone
  have hnil : (i.endpointsByDevice.getD d.id []).filter (·.isActive) = [] :=
    List.filter_eq_nil_iff.2 fun e he hact => hnone ⟨e, he, hact⟩
  rw [hasUsableEndpoint, bestEndpoint, hnil] at h
  cases h

/-- In the plan of `a`, packets to the address of `b` go to a peer with an endpoint: to `b` when
it has an active endpoint, and to the hub when it has none. -/
def HybridReaches (settings : Settings) (i : PlanInput) (hub a b : DeviceState) : Prop :=
  ∀ x : IPv4Address, b.ipAddress = x.str →
    ∃ p, selectPeer (HybridTopologyGenerator.generatePlan settings (i.forDevice a)).peers x = some p ∧
      truthy p.endpoint = true ∧
      p.publicKey = if i.hasActiveEndpoint b then b.publicKey else hub.publicKey

theorem PlanInput.withExitNode_of_self (i : PlanInput) {ps : List PeerPlan}
    (hmem : i.device ∈ i.allDevices) (huniq : ∀ d ∈ i.allDevices, d.id = i.device.id → d = i.device)
    (hex : i.device.exitNodeId = some i.device.id) (hne : i.device.id ≠ "")
    (hkey : i.device.publicKey ≠ "") (hsrv : i.device.id ≠ i.serverDeviceId)
    (hnew : ∀ p ∈ ps, p.publicKey ≠ i.device.publicKey) :
    i.withExitNode ps =
      ps ++ [{ publicKey := i.device.publicKey, allowedIps := ["0.0.0.0/0", "::/0"] }] :=
  i.withExitNode_of_selected hmem huniq hex hne hkey hsrv hnew

/-! ### The entries of a hybrid plan -/

namespace HybridTopologyGenerator

theorem peer_publicKey (settings : Settings) (i : PlanInput) (d : DeviceState) :
    (peer settings i d).publicKey = d.publicKey := by
  simp only [peer]
  split_ifs <;> rfl

theorem peer_allowedIps (settings : Settings) (i : PlanInput) (d : DeviceState) :
    (peer settings i d).allowedIps =
      if d.id = i.serverDeviceId then [i.network.subnet] else i.peerAllowedIps d := by
  simp only [peer]
  split_ifs <;> rfl

theorem peer_endpoint_of_hub (settings : Settings) {i : PlanInput} {d : DeviceState}
    (h : d.id = i.serverDeviceId) : truthy (peer settings i d).endpoint = true := by
  have hs : settings.serverEndpoint ≠ "" := by
    unfold Settings.serverEndpoint
    split_ifs with he
    · exact he
    · decide
  simp only [peer, h, ↓reduceIte, orText]
  split_ifs with hb
  · exact hb
  · simpa [truthy] using hs

theorem peer_endpoint (settings : Settings) {i : PlanInput} {d : DeviceState}
    (h : d.id ≠ i.serverDeviceId) :
    truthy (peer settings i d).endpoint = i.hasUsableEndpoint d := by
  simp only [peer, h, ↓reduceIte, PlanInput.hasUsableEndpoint]
  split_ifs with hb
  · rfl
  · exact (Bool.not_eq_true _ ▸ hb).symm

/-- The peers of a plan are the entries of the other devices, and perhaps the device itself as
its own exit node: every other exit node is a peer already. -/
theorem peers_cases (settings : Settings) {i : PlanInput} {net : IPv4Network}
    {hub a : DeviceState} (h : i.Addressed net hub) (ha : a ∈ i.allDevices) :
    let others := (i.allDevices.filter fun d => d.id ≠ a.id).map (peer settings (i.forDevice a))
    (generatePlan settings (i.forDevice a)).peers =
      if a.exitNodeId = some a.id ∧ a.id ≠ "" ∧ a.publicKey ≠ "" ∧ a.id ≠ i.serverDeviceId then
        others ++ [{ publicKey := a.publicKey, allowedIps := ["0.0.0.0/0", "::/0"] }]
      else others := by
  intro others
  -- an exit node other than `a` has its key among the peers, and `a` has not
  have hkeys : ∀ d ∈ i.allDevices, d ≠ a → ∃ p ∈ others, p.publicKey = d.publicKey :=
    fun d hd hda => ⟨peer settings (i.forDevice a) d,
      List.mem_map_of_mem (List.mem_filter.2 ⟨hd, decide_eq_true fun hid =>
        hda (h.eq_of_id hd ha hid)⟩), peer_publicKey ..⟩
  have hnot : ∀ p ∈ others, p.publicKey ≠ a.publicKey := fun p hp hk => by
    obtain ⟨d, hd, rfl⟩ := List.mem_map.1 hp
    obtain ⟨hd, hid⟩ := List.mem_filter.1 hd
    rw [peer_publicKey] at hk
    rw [h.eq_of_key hd ha hk] at hid
    simp at hid
  change (i.forDevice a).withExitNode others = _
  split_ifs with hself
  · obtain ⟨hex, hne, hkey, hsrv⟩ := hself
    exact (i.forDevice a).withExitNode_of_self ha (fun d hd hid => h.eq_of_id hd ha hid) hex hne
      hkey hsrv hnot
  · rcases (i.forDevice a).withExitNode_cases others with hw | ⟨ed, hed, hex, hsrv, hne, hkey, hnew, -⟩
    · exact hw
    · exfalso
      by_cases heda : ed = a
      · subst heda
        exact hself ⟨hex, hne, hkey, hsrv⟩
      · obtain ⟨p, hp, hpk⟩ := hkeys ed hed heda
        exact hnew p hp hpk

end HybridTopologyGenerator

/-! ### What the plan selects -/

section Selection

variable (settings : Settings) {i : PlanInput} {net : IPv4Network} {hub a : DeviceState}

theorem HybridTopologyGenerator.mem_peers (h : i.Addressed net hub) (ha : a ∈ i.allDevices)
    {q : PeerPlan}
    (hq : q ∈ (HybridTopologyGenerator.generatePlan settings (i.forDevice a)).peers) :
    (∃ d ∈ i.allDevices, d.id ≠ a.id ∧
      q = HybridTopologyGenerator.peer settings (i.forDevice a) d) ∨
    q.allowedIps = ["0.0.0.0/0", "::/0"] := by
  have hothers : q ∈ (i.allDevices.filter fun d => d.id ≠ a.id).map
      (HybridTopologyGenerator.peer settings (i.forDevice a)) → ∃ d ∈ i.allDevices,
        d.id ≠ a.id ∧ q = HybridTopologyGenerator.peer settings (i.forDevice a) d := fun hq => by
    obtain ⟨d, hd, rfl⟩ := List.mem_map.1 hq
    obtain ⟨hd, hid⟩ := List.mem_filter.1 hd
    exact ⟨d, hd, by simpa using hid, rfl⟩
  rw [HybridTopologyGenerator.peers_cases settings h ha] at hq
  split_ifs at hq
  · rcases List.mem_append.1 hq with hq | hq
    · exact .inl (hothers hq)
    · rw [List.mem_singleton.1 hq]; exact .inr rfl
  · exact .inl (hothers hq)

theorem HybridTopologyGenerator.mem_peer_allowedIps (hr : ∀ k, i.routesByDevice.getD k [] = [])
    {c : DeviceState} {t : String}
    (ht : t ∈ (HybridTopologyGenerator.peer settings (i.forDevice a) c).allowedIps) :
    c.id = i.serverDeviceId ∧ t = i.network.subnet ∨
      c.id ≠ i.serverDeviceId ∧ t = hostRoute c.ipAddress := by
  rw [HybridTopologyGenerator.peer_allowedIps] at ht
  split_ifs at ht with hs
  · exact .inl ⟨hs, List.mem_singleton.1 ht⟩
  · have hroute : (i.forDevice a).routesByDevice.getD c.id [] = [] := hr c.id
    rw [PlanInput.peerAllowedIps, hroute] at ht
    exact .inr ⟨hs, List.mem_singleton.1 ht⟩

theorem HybridTopologyGenerator.peer_mem_peers (h : i.Addressed net hub)
    (ha : a ∈ i.allDevices) {d : DeviceState} (hd : d ∈ i.allDevices) (hda : d ≠ a) :
    HybridTopologyGenerator.peer settings (i.forDevice a) d ∈
      (HybridTopologyGenerator.generatePlan settings (i.forDevice a)).peers := by
  have hmem : HybridTopologyGenerator.peer settings (i.forDevice a) d ∈
      (i.allDevices.filter fun d => d.id ≠ a.id).map
        (HybridTopologyGenerator.peer settings (i.forDevice a)) :=
    List.mem_map_of_mem (List.mem_filter.2 ⟨hd, decide_eq_true fun hid =>
      hda (h.eq_of_id hd ha hid)⟩)
  rw [HybridTopologyGenerator.peers_cases settings h ha]
  split_ifs
  · exact List.mem_append_left _ hmem
  · exact hmem

/-- Without routes, the address of another device but the hub is matched to the device's own
entry, whether that has an endpoint or not. -/
theorem hybrid_selects_device (h : i.Addressed net hub) (hr : ∀ k, i.routesByDevice.getD k [] = [])
    (ha : a ∈ i.allDevices) {b : DeviceState} (hb : b ∈ i.allDevices) (hba : b ≠ a)
    (hbh : b ≠ hub) {x : IPv4Address} (hx : b.ipAddress = x.str) :
    selectPeer (HybridTopologyGenerator.generatePlan settings (i.forDevice a)).peers x =
      some (HybridTopologyGenerator.peer settings (i.forDevice a) b) := by
  have hbs : b.id ≠ (i.forDevice a).serverDeviceId := fun hid =>
    hbh (h.eq_of_id hb h.hub_mem (hid.trans h.hub_id.symm))
  have hnb : IPv4Network.parse (hostRoute b.ipAddress) = some (IPv4Network.host x) := by
    rw [hx]; exact IPv4Network.parse_host x
  obtain ⟨q, hq, rfl⟩ := exists_selectPeer
    (P := fun q => q = HybridTopologyGenerator.peer settings (i.forDevice a) b)
    (HybridTopologyGenerator.peer_mem_peers settings h ha hb hba) (s := hostRoute b.ipAddress)
    (by
      rw [HybridTopologyGenerator.peer_allowedIps, if_neg hbs]
      exact List.mem_cons_self)
    hnb (IPv4Network.contains_host.2 rfl) (by
      -- a rival of the host route is as long as it
      intro q hq t ht m hm hcov hle
      rw [IPv4Network.prefixlen_host] at hle
      change 32 ≤ m.prefixlen.val at hle
      have h32 : m.prefixlen.val = 32 := by have := m.prefixlen.isLt; omega
      rcases HybridTopologyGenerator.mem_peers settings h ha hq with ⟨c, hc, hca, rfl⟩ | hdef
      · rcases HybridTopologyGenerator.mem_peer_allowedIps settings hr ht with ⟨-, rfl⟩ | ⟨-, rfl⟩
        · -- a subnet with one address would give `a` and `b` the same one
          exfalso
          obtain rfl : net = m := Option.some.inj (h.parse_subnet.symm.trans hm)
          obtain ⟨y, hy, hin⟩ := h.inside a ha
          refine hba (h.eq_of_address hb ha ?_)
          rw [hx, hy, IPv4Network.eq_of_contains h32 hcov hin]
        · rw [h.eq_of_hostRoute hc hb hx hm hcov]
      · rw [hdef] at ht
        have := prefixlen_of_default ht hm
        omega)
  exact hq

/-- Without routes, the hub's address is matched to the hub's entry, unless the default-route
subnet is taken over by the device's own exit-node entry. -/
theorem hybrid_selects_hub (h : i.Addressed net hub) (hr : ∀ k, i.routesByDevice.getD k [] = [])
    (ha : a ∈ i.allDevices) (hah : a ≠ hub) (hself : ¬ i.SelfExit net a) {x : IPv4Address}
    (hx : hub.ipAddress = x.str) :
    selectPeer (HybridTopologyGenerator.generatePlan settings (i.forDevice a)).peers x =
      some (HybridTopologyGenerator.peer settings (i.forDevice a) hub) := by
  have hin : net.contains x = true := h.contains_address h.hub_mem hx
  have hid : hub.id = (i.forDevice a).serverDeviceId := h.hub_id
  obtain ⟨q, hq, rfl⟩ := exists_selectPeer
    (P := fun q => q = HybridTopologyGenerator.peer settings (i.forDevice a) hub)
    (HybridTopologyGenerator.peer_mem_peers settings h ha h.hub_mem hah.symm)
    (s := i.network.subnet)
    (by
      rw [HybridTopologyGenerator.peer_allowedIps, if_pos hid]
      exact List.mem_cons_self)
    h.parse_subnet hin (by
      intro q hq t ht m hm hcov hle
      have hothers : ∀ c ∈ i.allDevices, c.id ≠ a.id →
          t ∈ (HybridTopologyGenerator.peer settings (i.forDevice a) c).allowedIps →
          HybridTopologyGenerator.peer settings (i.forDevice a) c =
            HybridTopologyGenerator.peer settings (i.forDevice a) hub := fun c hc hca ht => by
        rcases HybridTopologyGenerator.mem_peer_allowedIps settings hr ht with ⟨hs, -⟩ | ⟨-, rfl⟩
        · rw [h.eq_of_id hc h.hub_mem (hs.trans h.hub_id.symm)]
        · rw [h.eq_of_hostRoute hc h.hub_mem hx hm hcov]
      rw [HybridTopologyGenerator.peers_cases settings h ha] at hq
      split_ifs at hq with hexit
      · rcases List.mem_append.1 hq with hq | hq
        · obtain ⟨c, hc, rfl⟩ := List.mem_map.1 hq
          obtain ⟨hc, hca⟩ := List.mem_filter.1 hc
          exact hothers c hc (by simpa using hca) ht
        · rw [List.mem_singleton.1 hq] at ht
          have := prefixlen_of_default ht hm
          exact absurd ⟨by omega, hexit⟩ hself
      · obtain ⟨c, hc, rfl⟩ := List.mem_map.1 hq
        obtain ⟨hc, hca⟩ := List.mem_filter.1 hc
        exact hothers c hc (by simpa using hca) ht)
  exact hq

/-- The exception: the device's own exit-node entry takes the default-route subnet over. -/
theorem hybrid_selects_self (h : i.Addressed net hub) (hr : ∀ k, i.routesByDevice.getD k [] = [])
    (ha : a ∈ i.allDevices) (hself : i.SelfExit net a) {x : IPv4Address}
    (hx : hub.ipAddress = x.str) :
    selectPeer (HybridTopologyGenerator.generatePlan settings (i.forDevice a)).peers x =
      some { publicKey := a.publicKey, allowedIps := ["0.0.0.0/0", "::/0"] } := by
  set p : PeerPlan := { publicKey := a.publicKey, allowedIps := ["0.0.0.0/0", "::/0"] } with hp
  obtain ⟨hlen, hexit⟩ := hself
  have htable : allowedIpTable [p] = [(IPv4Network.ofAddress 0 0, p)] := by
    simp [allowedIpTable, hp, parse_default, parse_default_v6]
  have hlast : lpm IPv4Network.contains (·.prefixlen.val) (allowedIpTable [p]) x =
      some (IPv4Network.ofAddress 0 0, p) := by
    have hcov : (IPv4Network.ofAddress 0 0).contains x = true :=
      IPv4Network.contains_of_prefixlen_zero rfl x
    rw [htable]
    simp [lpm, hcov]
  rw [HybridTopologyGenerator.peers_cases settings h ha, if_pos hexit, selectPeer,
    show ∀ l, allowedIpTable (l ++ [p]) = allowedIpTable l ++ allowedIpTable [p] from fun l => by
      simp [allowedIpTable],
    lpm_append_of_le hlast, Option.map_some]
  -- no earlier entry covers the hub's address with a longer prefix
  intro e he hcov
  change e.1.prefixlen.val ≤ 0
  obtain ⟨hq, t, ht, hm⟩ := mem_allowedIpTable.1 he
  obtain ⟨c, hc, hce⟩ := List.mem_map.1 hq
  obtain ⟨hc, -⟩ := List.mem_filter.1 hc
  rw [← hce] at ht
  rcases HybridTopologyGenerator.mem_peer_allowedIps settings hr ht with ⟨-, rfl⟩ | ⟨hs, rfl⟩
  · obtain rfl : net = e.1 := Option.some.inj (h.parse_subnet.symm.trans hm)
    exact hlen.le
  · obtain rfl := h.eq_of_hostRoute hc h.hub_mem hx hm hcov
    exact absurd h.hub_id hs

/-- For a single destination: the fallback works for the hub outside the exception, and for
another device exactly when that device has a usable endpoint. -/
theorem hybridReaches_iff (h : i.Addressed net hub) (hr : ∀ k, i.routesByDevice.getD k [] = [])
    (ha : a ∈ i.allDevices) (hah : a ≠ hub) {b : DeviceState} (hb : b ∈ i.allDevices)
    (hba : b ≠ a) :
    HybridReaches settings i hub a b ↔
      if b = hub then ¬ i.SelfExit net a else i.hasUsableEndpoint b = true := by
  obtain ⟨x, hx, -⟩ := h.inside b hb
  split_ifs with hbh
  · subst hbh
    constructor
    · rintro hreach hself
      obtain ⟨p, hp, -, hkey⟩ := hreach x hx
      rw [hybrid_selects_self settings h hr ha hself hx, Option.some.injEq] at hp
      rw [ite_self, ← hp] at hkey
      exact hah (h.eq_of_key ha hb hkey)
    · intro hself y hy
      refine ⟨_, hybrid_selects_hub settings h hr ha hah hself hy,
        HybridTopologyGenerator.peer_endpoint_of_hub settings h.hub_id, ?_⟩
      rw [HybridTopologyGenerator.peer_publicKey, ite_self]
  · have hbs : b.id ≠ (i.forDevice a).serverDeviceId := fun hid =>
      hbh (h.eq_of_id hb h.hub_mem (hid.trans h.hub_id.symm))
    have hsel := fun {y} hy => hybrid_selects_device settings h hr ha hb hba hbh (x := y) hy
    constructor
    · intro hreach
      obtain ⟨p, hp, hend, -⟩ := hreach x hx
      rw [hsel hx, Option.some.injEq] at hp
      rw [← hp, HybridTopologyGenerator.peer_endpoint settings hbs] at hend
      exact hend
    · intro husable y hy
      refine ⟨_, hsel hy, (HybridTopologyGenerator.peer_endpoint settings hbs).trans husable, ?_⟩
      rw [HybridTopologyGenerator.peer_publicKey,
        if_pos (PlanInput.hasActiveEndpoint_of_usable husable)]

/-- **Hybrid fallback.**  From a device that is not the hub, every other device is reached over a
peer with an endpoint exactly when every other device but the hub has a usable endpoint of its
own: nothing falls back to the hub.  (The hub's own address is lost in one more case, a device
that is its own exit node in a default-route subnet.) -/
theorem hybrid_fallback_iff (h : i.Addressed net hub)
    (hr : ∀ k, i.routesByDevice.getD k [] = []) (ha : a ∈ i.allDevices) (hah : a ≠ hub) :
    (∀ b ∈ i.allDevices, b ≠ a → HybridReaches settings i hub a b) ↔
      (∀ b ∈ i.allDevices, b ≠ a → b ≠ hub → i.hasUsableEndpoint b = true) ∧
        ¬ i.SelfExit net a := by
  constructor
  · intro hall
    refine ⟨fun b hb hba hbh => ?_, ?_⟩
    · simpa [hbh] using (hybridReaches_iff settings h hr ha hah hb hba).1 (hall b hb hba)
    · simpa using (hybridReaches_iff settings h hr ha hah h.hub_mem hah.symm).1
        (hall hub h.hub_mem hah.symm)
  · rintro ⟨husable, hself⟩ b hb hba
    rw [hybridReaches_iff settings h hr ha hah hb hba]
    split_ifs with hbh
    · exact hself
    · exact husable b hb hba hbh

end Selection

/-- The office once client `b` has reported an endpoint. -/
def reportedSnapshot : PlanInput :=
  { officeSnapshot with
    endpointsByDevice := Dict.empty.set "b"
      [{ id := Uuid.ofNat 1, deviceId := Uuid.ofNat 2, endpoint := "203.0.113.7", port := 51820 }] }

/-- Then client `a` reaches `b` and the hub over entries with an endpoint. -/
theorem hybrid_fallback_iff_reported :
    HybridReaches {} reportedSnapshot ⟨"hub", "key-hub", "10.0.0.1", true, none⟩
        reportedSnapshot.device ⟨"b", "key-b", "10.0.0.3", true, none⟩ ∧
      HybridReaches {} reportedSnapshot ⟨"hub", "key-hub", "10.0.0.1", true, none⟩
        reportedSnapshot.device ⟨"hub", "key-hub", "10.0.0.1", true, none⟩ := by
  have haddr : reportedSnapshot.Addressed
      (IPv4Network.ofAddress (IPv4Address.ofOctets 10 0 0 0) 24)
      ⟨"hub", "key-hub", "10.0.0.1", true, none⟩ :=
    officeSnapshot_addressed.congr rfl rfl rfl
  have hall : ∀ b ∈ reportedSnapshot.allDevices, b ≠ reportedSnapshot.device →
      HybridReaches {} reportedSnapshot ⟨"hub", "key-hub", "10.0.0.1", true, none⟩
        reportedSnapshot.device b := by
    refine (hybrid_fallback_iff {} haddr (fun _ => rfl) (by decide) (by decide)).2 ⟨by decide, ?_⟩
    exact fun hself => absurd hself.1 (by decide)
  exact ⟨hall _ (by decide) (by decide), hall _ (by decide) (by decide)⟩

/-- Client `b` of the office has no active endpoint, and client `a` sends packets for `b` to
`b`'s own entry, which has no endpoint, instead of to the hub. -/
theorem hybrid_no_fallback :
    officeSnapshot.Addressed (IPv4Network.ofAddress (IPv4Address.ofOctets 10 0 0 0) 24)
      ⟨"hub", "key-hub", "10.0.0.1", true, none⟩ ∧
    (∀ k, officeSnapshot.routesByDevice.getD k [] = []) ∧
    officeSnapshot.hasActiveEndpoint ⟨"b", "key-b", "10.0.0.3", true, none⟩ = false ∧
    (selectPeer (HybridTopologyGenerator.generatePlan {} officeSnapshot).peers
      (IPv4Address.ofOctets 10 0 0 3)).map (fun p => (p.publicKey, p.endpoint)) =
        some ("key-b", none) ∧
    ¬ HybridReaches {} officeSnapshot ⟨"hub", "key-hub", "10.0.0.1", true, none⟩
        officeSnapshot.device ⟨"b", "key-b", "10.0.0.3", true, none⟩ := by
  have hsel : (selectPeer (HybridTopologyGenerator.generatePlan {} officeSnapshot).peers
      (IPv4Address.ofOctets 10 0 0 3)).map (fun p => (p.publicKey, p.endpoint)) =
        some ("key-b", none) := by decide
  refine ⟨officeSnapshot_addressed, fun _ => rfl, by decide, hsel, fun hreach => ?_⟩
  obtain ⟨p, hp, hend, -⟩ := hreach (IPv4Address.ofOctets 10 0 0 3) (by decide)
  change selectPeer (HybridTopologyGenerator.generatePlan {} officeSnapshot).peers _ = some p at hp
  rw [hp, Option.map_some, Option.some.injEq, Prod.mk.injEq] at hsel
  rw [hsel.2] at hend
  cases hend

end Midscale
