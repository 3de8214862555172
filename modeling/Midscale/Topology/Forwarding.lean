import Midscale.Topology.Plan
import Midscale.Net.IPv4
import Midscale.Net.Lpm

/-!
# Forwarding over a plan

WireGuard sends a packet to the peer with the longest AllowedIPs prefix that covers its
destination; a prefix configured for a second peer is taken over by it.  `selectPeer` is that
look-up for an IPv4 destination over the peers of a plan.

* `PlanInput.Addressed` : the devices of a snapshot have distinct ids, keys and addresses inside
  the subnet, and the hub is one of them.
* `star_forwarding` : **in a star a packet between two clients takes the two hops through the
  hub**, whatever exit nodes are selected and whatever routes compete for the match.
-/

namespace Midscale

/-- The IPv4 entries of the AllowedIPs of the peers, in the order they are configured. -/
def allowedIpTable (peers : List PeerPlan) : List (IPv4Network × PeerPlan) :=
  peers.flatMap fun p => p.allowedIps.filterMap fun s => (IPv4Network.parse s).map (·, p)

/-- The peer that WireGuard selects for a packet to `x`. -/
def selectPeer (peers : List PeerPlan) (x : IPv4Address) : Option PeerPlan :=
  (lpm IPv4Network.contains (·.prefixlen.val) (allowedIpTable peers) x).map Prod.snd

/-- The snapshot as seen when the plan of `d` is generated. -/
def PlanInput.forDevice (i : PlanInput) (d : DeviceState) : PlanInput := { i with device := d }

/-- The devices of the snapshot have distinct ids, keys and addresses inside the subnet `net`,
and `hub` is the one with the server's id. -/
structure PlanInput.Addressed (i : PlanInput) (net : IPv4Network) (hub : DeviceState) : Prop where
  ids_nodup : (i.allDevices.map (·.id)).Nodup
  keys_nodup : (i.allDevices.map (·.publicKey)).Nodup
  addresses_nodup : (i.allDevices.map (·.ipAddress)).Nodup
  parse_subnet : IPv4Network.parse i.network.subnet = some net
  inside : ∀ d ∈ i.allDevices, ∃ x : IPv4Address, d.ipAddress = x.str ∧ net.contains x = true
  hub_mem : hub ∈ i.allDevices
  hub_id : hub.id = i.serverDeviceId

/-! ### The table of a plan -/

theorem mem_allowedIpTable {peers : List PeerPlan} {e : IPv4Network × PeerPlan} :
    e ∈ allowedIpTable peers ↔ e.2 ∈ peers ∧ ∃ s ∈ e.2.allowedIps, IPv4Network.parse s = some e.1 := by
  obtain ⟨n, p⟩ := e
  simp only [allowedIpTable, List.mem_flatMap, List.mem_filterMap, Option.map_eq_some_iff,
    Prod.mk.injEq]
  constructor
  · rintro ⟨p', hp', s, hs, n', hn', rfl, rfl⟩
    exact ⟨hp', s, hs, hn'⟩
  · rintro ⟨hp, s, hs, hn⟩
    exact ⟨p, hp, s, hs, n, hn, rfl, rfl⟩

theorem exists_selectPeer {peers : List PeerPlan} {x : IPv4Address} {P : PeerPlan → Prop}
    {p : PeerPlan} {s : String} {n : IPv4Network} (hp : p ∈ peers) (hs : s ∈ p.allowedIps)
    (hn : IPv4Network.parse s = some n) (hx : n.contains x = true)
    (hP : ∀ q ∈ peers, ∀ t ∈ q.allowedIps, ∀ m, IPv4Network.parse t = some m →
      m.contains x = true → n.prefixlen.val ≤ m.prefixlen.val → P q) :
    ∃ q, selectPeer peers x = some q ∧ P q := by
  have hmem : (n, p) ∈ allowedIpTable peers := mem_allowedIpTable.2 ⟨hp, s, hs, hn⟩
  obtain ⟨b, hb, hPb⟩ : ∃ b, lpm IPv4Network.contains (·.prefixlen.val) (allowedIpTable peers) x =
      some b ∧ P b.2 := lpm_forall hmem hx fun e he hc hle => by
    obtain ⟨hq, t, ht, hm⟩ := mem_allowedIpTable.1 he
    exact hP e.2 hq t ht e.1 hm hc hle
  exact ⟨b.2, by rw [selectPeer, hb, Option.map_some], hPb⟩

theorem parse_default : IPv4Network.parse "0.0.0.0/0" = some (IPv4Network.ofAddress 0 0) := by
  decide

theorem parse_default_v6 : IPv4Network.parse "::/0" = none := by decide

theorem prefixlen_of_default {s : String} {n : IPv4Network} (hs : s ∈ ["0.0.0.0/0", "::/0"])
    (hn : IPv4Network.parse s = some n) : n.prefixlen.val = 0 := by
  simp only [List.mem_cons, List.not_mem_nil, or_false] at hs
  rcases hs with rfl | rfl
  · rw [parse_default, Option.some.injEq] at hn
    rw [← hn]; rfl
  · rw [parse_default_v6] at hn; cases hn

namespace PlanInput.Addressed

variable {i : PlanInput} {net : IPv4Network} {hub : DeviceState}

theorem eq_of_id (h : i.Addressed net hub) {d e : DeviceState} (hd : d ∈ i.allDevices)
    (he : e ∈ i.allDevices) (hid : d.id = e.id) : d = e :=
  List.inj_on_of_nodup_map h.ids_nodup hd he hid

theorem eq_of_address (h : i.Addressed net hub) {d e : DeviceState} (hd : d ∈ i.allDevices)
    (he : e ∈ i.allDevices) (hip : d.ipAddress = e.ipAddress) : d = e :=
  List.inj_on_of_nodup_map h.addresses_nodup hd he hip

theorem eq_of_key (h : i.Addressed net hub) {d e : DeviceState} (hd : d ∈ i.allDevices)
    (he : e ∈ i.allDevices) (hk : d.publicKey = e.publicKey) : d = e :=
  List.inj_on_of_nodup_map h.keys_nodup hd he hk

/-- Only the devices, the network and the server's id matter. -/
theorem congr (h : i.Addressed net hub) {j : PlanInput} (hd : j.allDevices = i.allDevices)
    (hn : j.network = i.network) (hs : j.serverDeviceId = i.serverDeviceId) :
    j.Addressed net hub where
  ids_nodup := hd ▸ h.ids_nodup
  keys_nodup := hd ▸ h.keys_nodup
  addresses_nodup := hd ▸ h.addresses_nodup
  parse_subnet := hn ▸ h.parse_subnet
  inside := hd ▸ h.inside
  hub_mem := hd ▸ h.hub_mem
  hub_id := hs ▸ h.hub_id

theorem forDevice (h : i.Addressed net hub) (d : DeviceState) :
    (i.forDevice d).Addressed net hub :=
  h.congr rfl rfl rfl

theorem contains_address (h : i.Addressed net hub) {d : DeviceState} (hd : d ∈ i.allDevices)
    {x : IPv4Address} (hx : d.ipAddress = x.str) : net.contains x = true := by
  obtain ⟨y, hy, hin⟩ := h.inside d hd
  rw [hx, IPv4Address.str_inj] at hy
  exact hy ▸ hin

theorem find_hub (h : i.Addressed net hub) :
    i.allDevices.find? (fun d => d.id = i.serverDeviceId) = some hub :=
  find?_eq_some_of_unique h.hub_mem (by simpa using h.hub_id) fun d hd hid =>
    h.eq_of_id hd h.hub_mem ((of_decide_eq_true hid).trans h.hub_id.symm)

theorem eq_of_hostRoute (h : i.Addressed net hub) {c d : DeviceState} (hc : c ∈ i.allDevices)
    (hd : d ∈ i.allDevices) {x : IPv4Address} (hx : d.ipAddress = x.str) {n : IPv4Network}
    (hn : IPv4Network.parse (hostRoute c.ipAddress) = some n) (hcov : n.contains x = true) :
    c = d := by
  obtain ⟨y, hy, -⟩ := h.inside c hc
  rw [hostRoute, hy, IPv4Network.parse_host, Option.some.injEq] at hn
  rw [← hn, IPv4Network.contains_host] at hcov
  exact h.eq_of_address hc hd (by rw [hx, hy, hcov])

end PlanInput.Addressed

/-! ### Star -/

/-- No approved route is the single address of a device. -/
def PlanInput.NoHostRoute (i : PlanInput) : Prop :=
  ∀ k, ∀ s ∈ i.routesByDevice.getD k [], ∀ n, IPv4Network.parse s = some n →
    n.prefixlen.val = 32 → ∀ d ∈ i.allDevices, d.ipAddress ≠ n.networkAddress.str

/-- The key of the peer selected for a packet to `x`. -/
def selectKey (peers : List PeerPlan) (x : IPv4Address) : Option String :=
  (selectPeer peers x).map (·.publicKey)

theorem selectKey_eq_some_iff {peers : List PeerPlan} {x : IPv4Address} {k : String} :
    selectKey peers x = some k ↔ ∃ q, selectPeer peers x = some q ∧ q.publicKey = k :=
  Option.map_eq_some_iff

theorem star_client_selects_hub (settings : Settings) {i : PlanInput} {net : IPv4Network}
    {hub a : DeviceState} (h : i.Addressed net hub) (hp : 1 ≤ net.prefixlen.val)
    (ha : a ∈ i.allDevices) (hah : a ≠ hub) {x : IPv4Address} (hx : net.contains x = true) :
    selectKey (StarTopologyGenerator.generatePlan settings (i.forDevice a)).peers x =
      some hub.publicKey := by
  have hid : (i.forDevice a).device.id ≠ (i.forDevice a).serverDeviceId := fun hid =>
    hah (h.eq_of_id ha h.hub_mem (hid.trans h.hub_id.symm))
  rw [StarTopologyGenerator.peers_of_client (h.forDevice a).find_hub hid, selectKey_eq_some_iff]
  set sp := StarTopologyGenerator.serverPeer settings (i.forDevice a) hub with hsp
  -- the hub's entry wins over any default route, as the subnet is no default route
  have hself : ∀ peers, sp ∈ peers → (∀ q ∈ peers, q = sp ∨
      q.allowedIps = ["0.0.0.0/0", "::/0"]) →
      ∃ q, selectPeer peers x = some q ∧ q.publicKey = hub.publicKey := fun peers hmem hall =>
    exists_selectPeer hmem (s := i.network.subnet) (List.mem_singleton.2 rfl) h.parse_subnet hx
      fun q hq t ht m hm _ hle => by
        rcases hall q hq with rfl | hdef
        · rfl
        · rw [hdef] at ht
          have := prefixlen_of_default ht hm
          omega
  rcases (i.forDevice a).withExitNode_cases [sp] with hw | ⟨ed, -, -, -, -, -, -, hw⟩
  · rw [hw]
    exact hself _ List.mem_cons_self fun q hq => .inl (List.mem_singleton.1 hq)
  · rw [hw]
    refine hself _ (List.mem_append_left _ List.mem_cons_self) fun q hq => ?_
    rcases List.mem_append.1 hq with hq | hq
    · exact .inl (List.mem_singleton.1 hq)
    · rw [List.mem_singleton.1 hq]; exact .inr rfl

theorem star_hub_selects_client (settings : Settings) {i : PlanInput} {net : IPv4Network}
    {hub b : DeviceState} (h : i.Addressed net hub) (hr : i.NoHostRoute)
    (hb : b ∈ i.allDevices) (hbh : b ≠ hub) {x : IPv4Address} (hx : b.ipAddress = x.str) :
    selectKey (StarTopologyGenerator.generatePlan settings (i.forDevice hub)).peers x =
      some b.publicKey := by
  have hne : b.id ≠ i.serverDeviceId := fun hid =>
    hbh (h.eq_of_id hb h.hub_mem (hid.trans h.hub_id.symm))
  rw [StarTopologyGenerator.peers_of_hub (i := i.forDevice hub) h.hub_mem h.hub_id h.hub_id,
    selectKey_eq_some_iff]
  refine exists_selectPeer (s := hostRoute b.ipAddress)
    (List.mem_map_of_mem (List.mem_filter.2 ⟨hb, decide_eq_true hne⟩)) List.mem_cons_self
    (by rw [hx]; exact IPv4Network.parse_host x) (IPv4Network.contains_host.2 rfl) ?_
  intro q hq t ht m hm hcov hle
  obtain ⟨c, hc, rfl⟩ := List.mem_map.1 hq
  have hc : c ∈ i.allDevices := (List.mem_filter.1 hc).1
  rcases List.mem_cons.1 ht with rfl | ht
  · rw [h.eq_of_hostRoute hc hb hx hm hcov]; rfl
  · -- a route at least as long as a host route is the single address `x`
    have h32 : m.prefixlen.val = 32 := by
      have := m.prefixlen.isLt
      rw [IPv4Network.prefixlen_host] at hle
      change 32 ≤ m.prefixlen.val at hle
      omega
    have hself : m.contains m.networkAddress = true := by
      rw [IPv4Network.contains_iff]
      exact ⟨le_rfl, Nat.lt_add_of_pos_right m.numAddresses_pos⟩
    have hxm : x = m.networkAddress := IPv4Network.eq_of_contains h32 hcov hself
    exact absurd (hxm ▸ hx) (hr c.id t ht m hm h32 b hb)

/-- **Star forwarding is correct.**  From every client the hub's address is matched to the hub,
and the address of every other client is matched to the hub by the sender's plan and to that
client by the hub's plan. -/
theorem star_forwarding (settings : Settings) {i : PlanInput} {net : IPv4Network}
    {hub a : DeviceState} (h : i.Addressed net hub) (hp : 1 ≤ net.prefixlen.val)
    (hr : i.NoHostRoute) (ha : a ∈ i.allDevices) (hah : a ≠ hub) :
    (∀ x : IPv4Address, hub.ipAddress = x.str →
      selectKey (StarTopologyGenerator.generatePlan settings (i.forDevice a)).peers x =
        some hub.publicKey) ∧
    ∀ b ∈ i.allDevices, b ≠ a → b ≠ hub → ∀ x : IPv4Address, b.ipAddress = x.str →
      selectKey (StarTopologyGenerator.generatePlan settings (i.forDevice a)).peers x =
        some hub.publicKey ∧
      selectKey (StarTopologyGenerator.generatePlan settings (i.forDevice hub)).peers x =
        some b.publicKey :=
  ⟨fun _ hx => star_client_selects_hub settings h hp ha hah (h.contains_address h.hub_mem hx),
    fun _ hb _ hbh _ hx =>
      ⟨star_client_selects_hub settings h hp ha hah (h.contains_address hb hx),
        star_hub_selects_client settings h hr hb hbh hx⟩⟩

/-- A hub and two clients in `10.0.0.0/24`. -/
def officeSnapshot : PlanInput where
  device := ⟨"a", "key-a", "10.0.0.2", true, none⟩
  allDevices := [⟨"hub", "key-hub", "10.0.0.1", true, none⟩, ⟨"a", "key-a", "10.0.0.2", true, none⟩,
    ⟨"b", "key-b", "10.0.0.3", true, none⟩]
  network := { subnet := "10.0.0.0/24" }
  serverDeviceId := "hub"

theorem officeSnapshot_addressed : officeSnapshot.Addressed
    (IPv4Network.ofAddress (IPv4Address.ofOctets 10 0 0 0) 24)
    ⟨"hub", "key-hub", "10.0.0.1", true, none⟩ where
  ids_nodup := by decide
  keys_nodup := by decide
  addresses_nodup := by decide
  parse_subnet := by decide
  inside d hd := by
    simp only [officeSnapshot, List.mem_cons, List.not_mem_nil, or_false] at hd
    rcases hd with rfl | rfl | rfl
    · exact ⟨IPv4Address.ofOctets 10 0 0 1, by decide⟩
    · exact ⟨IPv4Address.ofOctets 10 0 0 2, by decide⟩
    · exact ⟨IPv4Address.ofOctets 10 0 0 3, by decide⟩
  hub_mem := by decide
  hub_id := rfl

/-- Client `a` reaches client `b` over the hub. -/
theorem star_forwarding_office :
    selectKey (StarTopologyGenerator.generatePlan {} officeSnapshot).peers
      (IPv4Address.ofOctets 10 0 0 3) = some "key-hub" := by
  have h := star_forwarding {} (a := officeSnapshot.device) officeSnapshot_addressed (by decide)
    (fun k s hs => by cases hs) (by decide) (by decide)
  exact (h.2 ⟨"b", "key-b", "10.0.0.3", true, none⟩ (by decide) (by decide) (by decide)
    (IPv4Address.ofOctets 10 0 0 3) (by decide)).1

end Midscale
