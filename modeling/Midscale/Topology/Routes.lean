import Midscale.Topology.Hybrid

/-!
# Forwarding to approved routes

What the plans of the three topologies select for the addresses behind the approved routes of a
device.

* `mesh_forwarding` : **a mesh plan selects the owner of every address**, of a device or behind an
  approved route, and nobody for the other addresses.
* `approved_route_reached_iff` : **no client of a star sends packets for a route to the hub, and a
  device of a hybrid network sends them to the device with the route exactly when that is not the
  hub**: a client's entry for the hub has the subnet and nothing else.
-/

namespace Midscale

/-- The approved routes of different devices have no address in common. -/
def PlanInput.DisjointRoutes (i : PlanInput) : Prop :=
  ∀ k k', k ≠ k' → ∀ s ∈ i.routesByDevice.getD k [], ∀ s' ∈ i.routesByDevice.getD k' [],
    ∀ n n', IPv4Network.parse s = some n → IPv4Network.parse s' = some n' →
      ∀ x, n.contains x = true → n'.contains x = false

theorem PlanInput.DisjointRoutes.eq_of_contains {i : PlanInput} (h : i.DisjointRoutes)
    {k k' s s' : String} (hs : s ∈ i.routesByDevice.getD k [])
    (hs' : s' ∈ i.routesByDevice.getD k' []) {n n' : IPv4Network}
    (hn : IPv4Network.parse s = some n) (hn' : IPv4Network.parse s' = some n') {x : IPv4Address}
    (hx : n.contains x = true) (hx' : n'.contains x = true) : k = k' := by
  by_contra hne
  rw [h k k' hne s hs s' hs' n n' hn hn' x hx] at hx'
  cases hx'

theorem selectPeer_eq_some {peers : List PeerPlan} {x : IPv4Address} {q : PeerPlan}
    (h : selectPeer peers x = some q) : q ∈ peers ∧ ∃ t ∈ q.allowedIps, ∃ m,
      IPv4Network.parse t = some m ∧ m.contains x = true := by
  obtain ⟨e, he, rfl⟩ := Option.map_eq_some_iff.1 h
  obtain ⟨hmem, hcov, -⟩ := lpm_spec he
  obtain ⟨hq, t, ht, hm⟩ := mem_allowedIpTable.1 hmem
  exact ⟨hq, t, ht, e.1, hm, hcov⟩

theorem selectKey_eq_none_iff {peers : List PeerPlan} {x : IPv4Address} :
    selectKey peers x = none ↔ ∀ p ∈ peers, ∀ s ∈ p.allowedIps, ∀ n,
      IPv4Network.parse s = some n → n.contains x = false := by
  rw [selectKey, selectPeer, Option.map_eq_none_iff, Option.map_eq_none_iff, lpm_eq_none_iff]
  constructor
  · intro h p hp s hs n hn
    exact h (n, p) (mem_allowedIpTable.2 ⟨hp, s, hs, hn⟩)
  · rintro h e he
    obtain ⟨hp, s, hs, hn⟩ := mem_allowedIpTable.1 he
    exact h e.2 hp s hs e.1 hn

/-! ### Mesh -/

/-- The devices of the snapshot have distinct ids, keys and IPv4 addresses. -/
structure PlanInput.Distinct (i : PlanInput) : Prop where
  ids_nodup : (i.allDevices.map (·.id)).Nodup
  keys_nodup : (i.allDevices.map (·.publicKey)).Nodup
  addresses_nodup : (i.allDevices.map (·.ipAddress)).Nodup
  ipv4 : ∀ d ∈ i.allDevices, ∃ x : IPv4Address, d.ipAddress = x.str

/-- No approved route contains the address of a device. -/
def PlanInput.RoutesAvoidDevices (i : PlanInput) : Prop :=
  ∀ k, ∀ s ∈ i.routesByDevice.getD k [], ∀ n, IPv4Network.parse s = some n →
    ∀ d ∈ i.allDevices, ∀ x : IPv4Address, d.ipAddress = x.str → n.contains x = false

/-- The address belongs to a device, or lies in one of its approved routes. -/
def PlanInput.Owns (i : PlanInput) (d : DeviceState) (x : IPv4Address) : Prop :=
  d.ipAddress = x.str ∨ ∃ s ∈ i.routesByDevice.getD d.id [], ∃ n,
    IPv4Network.parse s = some n ∧ n.contains x = true

section Mesh

variable (settings : Settings) {i : PlanInput} {a : DeviceState}

theorem MeshTopologyGenerator.peers_eq (hexit : a.exitNodeId ≠ some a.id) :
    (MeshTopologyGenerator.generatePlan settings (i.forDevice a)).peers =
      (i.allDevices.filter fun d => d.id ≠ a.id).map
        (MeshTopologyGenerator.peer settings (i.forDevice a)) := by
  change (i.forDevice a).withExitNode ((i.allDevices.filter fun d => d.id ≠ a.id).map
    (MeshTopologyGenerator.peer settings (i.forDevice a))) = _
  rcases (i.forDevice a).withExitNode_cases ((i.allDevices.filter fun d => d.id ≠ a.id).map
    (MeshTopologyGenerator.peer settings (i.forDevice a))) with
    h | ⟨ed, hed, hex, -, -, -, hnew, -⟩
  · exact h
  · have hne : ed.id ≠ a.id := fun hid => hexit (hid ▸ hex)
    exact absurd rfl (hnew _ (List.mem_map_of_mem (List.mem_filter.2 ⟨hed, decide_eq_true hne⟩)))

theorem MeshTopologyGenerator.owns_of_contains (h : i.Distinct) {d : DeviceState}
    (hd : d ∈ i.allDevices) {t : String}
    (ht : t ∈ (MeshTopologyGenerator.peer settings (i.forDevice a) d).allowedIps)
    {n : IPv4Network} (hn : IPv4Network.parse t = some n) {x : IPv4Address}
    (hx : n.contains x = true) : i.Owns d x := by
  rcases List.mem_cons.1 ht with rfl | ht
  · obtain ⟨y, hy⟩ := h.ipv4 d hd
    rw [hostRoute, hy, IPv4Network.parse_host, Option.some.injEq] at hn
    rw [← hn, IPv4Network.contains_host] at hx
    exact .inl (hx ▸ hy)
  · exact .inr ⟨t, ht, n, hn, hx⟩

theorem MeshTopologyGenerator.exists_contains {d : DeviceState} {x : IPv4Address}
    (hx : i.Owns d x) : ∃ t ∈ (MeshTopologyGenerator.peer settings (i.forDevice a) d).allowedIps,
      ∃ n, IPv4Network.parse t = some n ∧ n.contains x = true := by
  rcases hx with hip | ⟨t, ht, n, hn, hx⟩
  · refine ⟨hostRoute d.ipAddress, List.mem_cons_self, IPv4Network.host x, ?_,
      IPv4Network.contains_host.2 rfl⟩
    rw [hip]
    exact IPv4Network.parse_host x
  · exact ⟨t, List.mem_cons_of_mem _ ht, n, hn, hx⟩

theorem PlanInput.Distinct.eq_of_owns (h : i.Distinct) (hr : i.DisjointRoutes)
    (hav : i.RoutesAvoidDevices) {c d : DeviceState} (hc : c ∈ i.allDevices)
    (hd : d ∈ i.allDevices) {x : IPv4Address} (hcx : i.Owns c x) (hdx : i.Owns d x) : c = d := by
  rcases hcx with hcx | ⟨s, hs, n, hn, hnx⟩
  · rcases hdx with hdx | ⟨s', hs', n', hn', hnx'⟩
    · exact List.inj_on_of_nodup_map h.addresses_nodup hc hd (hcx.trans hdx.symm)
    · rw [hav d.id s' hs' n' hn' c hc x hcx] at hnx'
      cases hnx'
  · rcases hdx with hdx | ⟨s', hs', n', hn', hnx'⟩
    · rw [hav c.id s hs n hn d hd x hdx] at hnx
      cases hnx
    · exact List.inj_on_of_nodup_map h.ids_nodup hc hd
        (hr.eq_of_contains hs hs' hn hn' hnx hnx')

/-- **Mesh forwarding is exact.**  The plan of a device that is not its own exit node selects
another device for its address and for the addresses in its approved routes, and no peer for an
address that no other device owns. -/
theorem mesh_forwarding (h : i.Distinct) (hr : i.DisjointRoutes) (hav : i.RoutesAvoidDevices)
    (hexit : a.exitNodeId ≠ some a.id) (ha : a ∈ i.allDevices) (x : IPv4Address) :
    (∀ b ∈ i.allDevices, b ≠ a → i.Owns b x →
      selectKey (MeshTopologyGenerator.generatePlan settings (i.forDevice a)).peers x =
        some b.publicKey) ∧
    ((∀ b ∈ i.allDevices, b ≠ a → ¬ i.Owns b x) →
      selectKey (MeshTopologyGenerator.generatePlan settings (i.forDevice a)).peers x = none) := by
  rw [MeshTopologyGenerator.peers_eq settings hexit]
  constructor
  · intro b hb hba hbx
    obtain ⟨t, ht, n, hn, hx⟩ := MeshTopologyGenerator.exists_contains settings (a := a) hbx
    have hid : b.id ≠ a.id := fun hid => hba (List.inj_on_of_nodup_map h.ids_nodup hb ha hid)
    rw [selectKey_eq_some_iff]
    refine exists_selectPeer (List.mem_map_of_mem (List.mem_filter.2 ⟨hb, decide_eq_true hid⟩)) ht
      hn hx ?_
    -- whatever the lengths, only the owner's entries cover the address
    intro q hq s hs m hm hmx _
    obtain ⟨c, hc, rfl⟩ := List.mem_map.1 hq
    have hc : c ∈ i.allDevices := (List.mem_filter.1 hc).1
    have hcx : i.Owns c x := MeshTopologyGenerator.owns_of_contains settings h hc hs hm hmx
    rw [h.eq_of_owns hr hav hc hb hcx hbx]
    rfl
  · intro hnone
    rw [selectKey_eq_none_iff]
    intro q hq s hs m hm
    obtain ⟨c, hc, rfl⟩ := List.mem_map.1 hq
    obtain ⟨hc, hid⟩ := List.mem_filter.1 hc
    have hca : c ≠ a := fun hca => by simp [hca] at hid
    by_contra hmx
    exact hnone c hc hca
      (MeshTopologyGenerator.owns_of_contains settings h hc hs hm (by simpa using hmx))

end Mesh

/-- The office with a network behind client `b`. -/
def routedSnapshot : PlanInput :=
  { officeSnapshot with routesByDevice := Dict.empty.set "b" ["192.168.7.0/24"] }

theorem routes_routedSnapshot (k : String) : routedSnapshot.routesByDevice.getD k [] =
    if k = "b" then ["192.168.7.0/24"] else [] := by
  change (Dict.empty.set "b" ["192.168.7.0/24"]).getD k [] = _
  rw [Dict.getD, Dict.get?_set]
  split_ifs <;> rfl

theorem mem_routes_routedSnapshot {k s : String} {n : IPv4Network}
    (hs : s ∈ routedSnapshot.routesByDevice.getD k []) (hn : IPv4Network.parse s = some n) :
    k = "b" ∧ n = IPv4Network.ofAddress (IPv4Address.ofOctets 192 168 7 0) 24 := by
  rw [routes_routedSnapshot] at hs
  split_ifs at hs with hk
  · rw [List.mem_singleton.1 hs] at hn
    have hparse : IPv4Network.parse "192.168.7.0/24" =
        some (IPv4Network.ofAddress (IPv4Address.ofOctets 192 168 7 0) 24) := by decide
    rw [hparse, Option.some.injEq] at hn
    exact ⟨hk, hn.symm⟩
  · cases hs

theorem routedSnapshot_disjointRoutes : routedSnapshot.DisjointRoutes := by
  intro k k' hne s hs s' hs' n n' hn hn'
  exact absurd ((mem_routes_routedSnapshot hs hn).1.trans (mem_routes_routedSnapshot hs' hn').1.symm)
    hne

/-- In a mesh, client `a` reaches the network behind `b` through `b`. -/
theorem mesh_forwarding_routed :
    selectKey (MeshTopologyGenerator.generatePlan {} routedSnapshot).peers
      (IPv4Address.ofOctets 192 168 7 9) = some "key-b" := by
  have hdistinct : routedSnapshot.Distinct :=
    { ids_nodup := by decide
      keys_nodup := by decide
      addresses_nodup := by decide
      ipv4 := fun d hd => (officeSnapshot_addressed.inside d hd).imp fun _ h => h.1 }
  have hav : routedSnapshot.RoutesAvoidDevices := by
    intro k s hs n hn d hd x hx
    rw [(mem_routes_routedSnapshot hs hn).2]
    simp only [routedSnapshot, officeSnapshot, List.mem_cons, List.not_mem_nil, or_false] at hd
    have hoffice : ∀ y : IPv4Address, y.str = x.str → x = y := fun y hy => (IPv4Address.str_inj.1 hy).symm
    rcases hd with rfl | rfl | rfl
    · rw [hoffice (IPv4Address.ofOctets 10 0 0 1) (Eq.trans (by decide) hx)]; decide
    · rw [hoffice (IPv4Address.ofOctets 10 0 0 2) (Eq.trans (by decide) hx)]; decide
    · rw [hoffice (IPv4Address.ofOctets 10 0 0 3) (Eq.trans (by decide) hx)]; decide
  refine (mesh_forwarding {} (a := routedSnapshot.device) hdistinct routedSnapshot_disjointRoutes hav
    (by decide) (by decide) (IPv4Address.ofOctets 192 168 7 9)).1
    ⟨"b", "key-b", "10.0.0.3", true, none⟩ (by decide) (by decide) (.inr ?_)
  exact ⟨"192.168.7.0/24", by decide,
    IPv4Network.ofAddress (IPv4Address.ofOctets 192 168 7 0) 24, by decide, by decide⟩

/-! ### Star and hybrid -/

/-- No approved route has an address of the subnet `net`. -/
def PlanInput.RoutesOutside (i : PlanInput) (net : IPv4Network) : Prop :=
  ∀ k, ∀ s ∈ i.routesByDevice.getD k [], ∀ n, IPv4Network.parse s = some n →
    ∀ x, n.contains x = true → net.contains x = false

/-- In a star, `a` sends the packets for the addresses of `n` to the hub, and the hub sends them to
`r` if it is not `r` itself. -/
def StarReachesRoute (settings : Settings) (i : PlanInput) (hub r a : DeviceState)
    (n : IPv4Network) : Prop :=
  (∀ x, n.contains x = true →
    selectKey (StarTopologyGenerator.generatePlan settings (i.forDevice a)).peers x =
      some hub.publicKey) ∧
  (r ≠ hub → ∀ x, n.contains x = true →
    selectKey (StarTopologyGenerator.generatePlan settings (i.forDevice hub)).peers x =
      some r.publicKey)

/-- In a hybrid network, `a` sends the packets for the addresses of `n` to `r`, or perhaps to the
hub if `r` is not the hub and has no active endpoint. -/
def HybridReachesRoute (settings : Settings) (i : PlanInput) (hub r a : DeviceState)
    (n : IPv4Network) : Prop :=
  ∀ x, n.contains x = true → ∃ k,
    selectKey (HybridTopologyGenerator.generatePlan settings (i.forDevice a)).peers x = some k ∧
      (k = r.publicKey ∨ i.hasActiveEndpoint r = false ∧ r ≠ hub ∧ k = hub.publicKey)

section Routes

variable (settings : Settings) {i : PlanInput} {net : IPv4Network} {hub r a : DeviceState}
  {s : String} {n : IPv4Network}

theorem PlanInput.Addressed.not_hostRoute (h : i.Addressed net hub) (hout : i.RoutesOutside net)
    {c : DeviceState} (hc : c ∈ i.allDevices) (hs : s ∈ i.routesByDevice.getD r.id [])
    (hn : IPv4Network.parse s = some n) {x : IPv4Address} (hx : n.contains x = true)
    {m : IPv4Network} (hm : IPv4Network.parse (hostRoute c.ipAddress) = some m) :
    m.contains x = false := by
  obtain ⟨y, hy, hin⟩ := h.inside c hc
  rw [hostRoute, hy, IPv4Network.parse_host, Option.some.injEq] at hm
  rw [← hm]
  by_contra hcov
  rw [Bool.not_eq_false, IPv4Network.contains_host] at hcov
  rw [← hcov, hout r.id s hs n hn x hx] at hin
  cases hin

theorem star_client_misses_route (h : i.Addressed net hub) (hout : i.RoutesOutside net)
    (ha : a ∈ i.allDevices) (hah : a ≠ hub) (hs : s ∈ i.routesByDevice.getD r.id [])
    (hn : IPv4Network.parse s = some n) {x : IPv4Address} (hx : n.contains x = true) :
    selectKey (StarTopologyGenerator.generatePlan settings (i.forDevice a)).peers x ≠
      some hub.publicKey := by
  have hid : (i.forDevice a).device.id ≠ (i.forDevice a).serverDeviceId := fun hid =>
    hah (h.eq_of_id ha h.hub_mem (hid.trans h.hub_id.symm))
  rw [StarTopologyGenerator.peers_of_client (h.forDevice a).find_hub hid]
  intro hsel
  obtain ⟨q, hq, hkey⟩ := selectKey_eq_some_iff.1 hsel
  obtain ⟨hmem, t, ht, m, hm, hcov⟩ := selectPeer_eq_some hq
  have hserver : q ≠ StarTopologyGenerator.serverPeer settings (i.forDevice a) hub := by
    rintro rfl
    rw [List.mem_singleton.1 ht] at hm
    obtain rfl : net = m := Option.some.inj (h.parse_subnet.symm.trans hm)
    rw [hout r.id s hs n hn x hx] at hcov
    cases hcov
  rcases (i.forDevice a).withExitNode_cases
    [StarTopologyGenerator.serverPeer settings (i.forDevice a) hub] with
    hw | ⟨ed, -, -, -, -, -, hnew, hw⟩
  · rw [hw] at hmem
    exact hserver (List.mem_singleton.1 hmem)
  · rw [hw] at hmem
    rcases List.mem_append.1 hmem with hmem | hmem
    · exact hserver (List.mem_singleton.1 hmem)
    · -- the exit node's key is not the hub's
      rw [List.mem_singleton.1 hmem] at hkey
      exact hnew _ List.mem_cons_self hkey.symm

/-- A device of a hybrid network sends the packets for a route of another device but the hub to
that device. -/
theorem hybrid_selects_route (h : i.Addressed net hub) (hdis : i.DisjointRoutes)
    (hout : i.RoutesOutside net) (ha : a ∈ i.allDevices) (hr : r ∈ i.allDevices) (hra : r ≠ a)
    (hrh : r ≠ hub) (hs : s ∈ i.routesByDevice.getD r.id []) (hn : IPv4Network.parse s = some n)
    {x : IPv4Address} (hx : n.contains x = true) :
    selectKey (HybridTopologyGenerator.generatePlan settings (i.forDevice a)).peers x =
      some r.publicKey := by
  have hrs : r.id ≠ (i.forDevice a).serverDeviceId := fun hid =>
    hrh (h.eq_of_id hr h.hub_mem (hid.trans h.hub_id.symm))
  rw [selectKey_eq_some_iff]
  refine exists_selectPeer (HybridTopologyGenerator.peer_mem_peers settings h ha hr hra)
    (s := s) ?_ hn hx ?_
  · rw [HybridTopologyGenerator.peer_allowedIps, if_neg hrs]
    exact List.mem_cons_of_mem _ hs
  · intro q hq t ht m hm hcov hle
    rcases HybridTopologyGenerator.mem_peers settings h ha hq with ⟨c, hc, -, rfl⟩ | hdef
    · rw [HybridTopologyGenerator.peer_publicKey]
      rw [HybridTopologyGenerator.peer_allowedIps] at ht
      split_ifs at ht
      · rw [List.mem_singleton.1 ht] at hm
        obtain rfl : net = m := Option.some.inj (h.parse_subnet.symm.trans hm)
        rw [hout r.id s hs n hn x hx] at hcov
        cases hcov
      · rcases List.mem_cons.1 ht with rfl | ht
        · rw [h.not_hostRoute hout hc hs hn hx hm] at hcov
          cases hcov
        · rw [h.eq_of_id hc hr (hdis.eq_of_contains ht hs hm hn hcov hx)]
    · -- a route as short as the default route would contain the hub's address
      exfalso
      rw [hdef] at ht
      have hzero : n.prefixlen.val = 0 := Nat.le_zero.1 (hle.trans (prefixlen_of_default ht hm).le)
      obtain ⟨y, -, hin⟩ := h.inside hub h.hub_mem
      rw [hout r.id s hs n hn y (IPv4Network.contains_of_prefixlen_zero hzero y)] at hin
      cases hin

theorem hybrid_misses_hub_route (h : i.Addressed net hub) (ha : a ∈ i.allDevices) (hah : a ≠ hub)
    {x : IPv4Address} (hx : net.contains x = false) :
    selectKey (HybridTopologyGenerator.generatePlan settings (i.forDevice a)).peers x ≠
      some hub.publicKey := by
  intro hsel
  obtain ⟨q, hq, hkey⟩ := selectKey_eq_some_iff.1 hsel
  obtain ⟨hmem, t, ht, m, hm, hcov⟩ := selectPeer_eq_some hq
  have hother : q ∉ (i.allDevices.filter fun d => d.id ≠ a.id).map
      (HybridTopologyGenerator.peer settings (i.forDevice a)) := by
    intro hmem
    obtain ⟨c, hc, rfl⟩ := List.mem_map.1 hmem
    rw [HybridTopologyGenerator.peer_publicKey] at hkey
    obtain rfl := h.eq_of_key (List.mem_filter.1 hc).1 h.hub_mem hkey
    rw [HybridTopologyGenerator.peer_allowedIps, if_pos (h.forDevice a).hub_id,
      List.mem_singleton] at ht
    obtain rfl : net = m := Option.some.inj (h.parse_subnet.symm.trans (ht ▸ hm))
    rw [hx] at hcov
    cases hcov
  rw [HybridTopologyGenerator.peers_cases settings h ha] at hmem
  split_ifs at hmem
  · rcases List.mem_append.1 hmem with hmem | hmem
    · exact hother hmem
    · rw [List.mem_singleton.1 hmem] at hkey
      exact hah (h.eq_of_key ha h.hub_mem hkey)
  · exact hother hmem

/-- **When approved routes are reached.**  In a star they never are, as the clients' entries for the
hub have the subnet only; in a hybrid network they are exactly when the device with the route is
not the hub. -/
theorem approved_route_reached_iff (h : i.Addressed net hub) (hdis : i.DisjointRoutes)
    (hout : i.RoutesOutside net) (ha : a ∈ i.allDevices) (hah : a ≠ hub) (hr : r ∈ i.allDevices)
    (hra : r ≠ a) (hs : s ∈ i.routesByDevice.getD r.id []) (hn : IPv4Network.parse s = some n) :
    ¬ StarReachesRoute settings i hub r a n ∧
      (HybridReachesRoute settings i hub r a n ↔ r ≠ hub) := by
  have hx : n.contains n.networkAddress = true := by
    rw [IPv4Network.contains_iff]
    exact ⟨le_rfl, Nat.lt_add_of_pos_right n.numAddresses_pos⟩
  refine ⟨fun hstar => ?_, fun hhybrid hrh => ?_, fun hrh x hx => ?_⟩
  · exact star_client_misses_route settings h hout ha hah hs hn hx (hstar.1 _ hx)
  · subst hrh
    obtain ⟨k, hk, rfl | ⟨-, hne, -⟩⟩ := hhybrid _ hx
    · exact hybrid_misses_hub_route settings h ha hah (hout _ s hs n hn _ hx) hk
    · exact hne rfl
  · exact ⟨_, hybrid_selects_route settings h hdis hout ha hr hra hrh hs hn hx, .inl rfl⟩

end Routes

theorem routedSnapshot_addressed : routedSnapshot.Addressed
    (IPv4Network.ofAddress (IPv4Address.ofOctets 10 0 0 0) 24)
    ⟨"hub", "key-hub", "10.0.0.1", true, none⟩ :=
  officeSnapshot_addressed.congr rfl rfl rfl

theorem routedSnapshot_routesOutside : routedSnapshot.RoutesOutside
    (IPv4Network.ofAddress (IPv4Address.ofOctets 10 0 0 0) 24) := by
  intro k s hs n hn x hx
  rw [(mem_routes_routedSnapshot hs hn).2, IPv4Network.contains_iff] at hx
  by_contra hin
  rw [Bool.not_eq_false, IPv4Network.contains_iff] at hin
  have hlow : (IPv4Network.ofAddress (IPv4Address.ofOctets 192 168 7 0) 24).networkAddress.val =
      3232237312 := by decide
  have hhigh : (IPv4Network.ofAddress (IPv4Address.ofOctets 10 0 0 0) 24).networkAddress.val +
      (IPv4Network.ofAddress (IPv4Address.ofOctets 10 0 0 0) 24).numAddresses = 167772416 := by
    decide
  omega

/-- If the office is a hybrid network, client `a` reaches the network behind `b`. -/
theorem approved_route_reached_routed :
    HybridReachesRoute {} routedSnapshot ⟨"hub", "key-hub", "10.0.0.1", true, none⟩
      ⟨"b", "key-b", "10.0.0.3", true, none⟩ routedSnapshot.device
      (IPv4Network.ofAddress (IPv4Address.ofOctets 192 168 7 0) 24) :=
  (approved_route_reached_iff {} routedSnapshot_addressed routedSnapshot_disjointRoutes
    routedSnapshot_routesOutside (by decide) (by decide)
    (show (⟨"b", "key-b", "10.0.0.3", true, none⟩ : DeviceState) ∈ routedSnapshot.allDevices by decide)
    (by decide) (show "192.168.7.0/24" ∈ _ by decide) (by decide)).2.2 (by decide)

/-- If the office is a star, client `a` has no peer for the network behind `b`. -/
theorem star_route_unreached :
    routedSnapshot.Addressed (IPv4Network.ofAddress (IPv4Address.ofOctets 10 0 0 0) 24)
      ⟨"hub", "key-hub", "10.0.0.1", true, none⟩ ∧
    routedSnapshot.DisjointRoutes ∧
    routedSnapshot.RoutesOutside (IPv4Network.ofAddress (IPv4Address.ofOctets 10 0 0 0) 24) ∧
    "192.168.7.0/24" ∈ routedSnapshot.routesByDevice.getD "b" [] ∧
    selectKey (StarTopologyGenerator.generatePlan {} routedSnapshot).peers
      (IPv4Address.ofOctets 192 168 7 9) = none ∧
    ¬ StarReachesRoute {} routedSnapshot ⟨"hub", "key-hub", "10.0.0.1", true, none⟩
      ⟨"b", "key-b", "10.0.0.3", true, none⟩ routedSnapshot.device
      (IPv4Network.ofAddress (IPv4Address.ofOctets 192 168 7 0) 24) := by
  have hnone : selectKey (StarTopologyGenerator.generatePlan {} routedSnapshot).peers
      (IPv4Address.ofOctets 192 168 7 9) = none := by decide
  refine ⟨routedSnapshot_addressed, routedSnapshot_disjointRoutes, routedSnapshot_routesOutside,
    by decide, hnone, fun hstar => ?_⟩
  have hhub := hstar.1 (IPv4Address.ofOctets 192 168 7 9) (by decide)
  change selectKey (StarTopologyGenerator.generatePlan {} routedSnapshot).peers _ = _ at hhub
  rw [hnone] at hhub
  cases hhub

end Midscale
