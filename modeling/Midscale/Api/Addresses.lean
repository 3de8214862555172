import Midscale.Api.Requests
import Midscale.Net.Leases
import Midscale.Run.Basic

/-!
# The addresses of a network's devices

Most addresses come from `allocate_ip`; a heartbeat and an enrollment by the owner write the address
of their body as it is.

* `Database.AddressesSound` : the devices of a network hold different host addresses of its subnet,
  and only the hub holds the first one.
* `createNetwork_hub`, `hubId?_run` : the hub is the device created with the network, for ever.
* `allocateIp_exact` : **an allocated address is the least free host**, never that of the hub.
* `Lawful` : a heartbeat or an enrollment gives no address, or one that the device may hold.
* `addresses_sound` : **after every run of lawful requests the addresses are sound.**
* `heartbeat_takes_hub_address` : a heartbeat gives a device the address of the hub.
-/

namespace Midscale

/-! ### Sound addresses -/

namespace Database

/-- The texts of the host addresses of a network's subnet. -/
def hostTexts (db : Database) (networkId : Uuid) : List String :=
  match (db.networks.get? networkId).bind fun n => IPv4Network.parse n.subnet with
  | some net => net.hostTexts
  | none => []

/-- The hub of a network: the device that was created with it, its oldest one. -/
def hubId? (db : Database) (networkId : Uuid) : Option Uuid :=
  keeper? Device.id Device.networkId networkId db.devices.rows

/-- The devices of a network hold different host addresses of its subnet, and only the hub holds
the first one. -/
structure AddressesSound (db : Database) : Prop where
  distinct : ∀ d ∈ db.devices, ∀ d' ∈ db.devices, d.networkId = d'.networkId →
    d.ipAddress ≠ none → d.ipAddress = d'.ipAddress → d = d'
  host : ∀ d ∈ db.devices, ∀ ip ∈ d.ipAddress, ∃ network net,
    db.networks.get? d.networkId = some network ∧ IPv4Network.parse network.subnet = some net ∧
      ip ∈ net.hostTexts ∧ (net.hostTexts.head? = some ip → db.hubId? d.networkId = some d.id)

/-- The device may take the address: it is a host address of the network that no device of it
holds, and the first one only if the device is the hub. -/
def MayHold (db : Database) (d : Device) (ip : String) : Prop :=
  (∃ network net, db.networks.get? d.networkId = some network ∧
      IPv4Network.parse network.subnet = some net ∧ ip ∈ net.hostTexts ∧
      (net.hostTexts.head? = some ip → db.hubId? d.networkId = some d.id)) ∧
    ∀ d' ∈ db.devices, d'.networkId = d.networkId → d'.ipAddress ≠ some ip

/-- The address of a body, if there is one, is the device's own or one it may take. -/
def MayWrite (db : Database) (d : Device) (ip : Option String) : Prop :=
  truthy ip = true → ip ≠ d.ipAddress → ∀ a ∈ ip, db.MayHold d a

end Database

/-- An accepted heartbeat or enrollment by the owner gives no address, the device's own or one the
device may take; every other request is lawful. -/
def Lawful (db : Database) (c : Call) : Prop :=
  match c.request with
  | .heartbeat token id req => ∀ d,
      getCurrentDeviceById c.env db id token = .ok d → db.MayWrite d req.ipAddress
  | .enrollDevice token id req => ∀ user d,
      getCurrentUser c.env db token = .ok user → db.devices.get? id = some d →
      requireDeviceOwner db d user = .ok () → d.isNodeOwned = true →
      d.enrollmentStatus = "pending" → db.MayWrite d req.ipAddress
  | _ => True

/-! ### The invariant -/

/-- Every device belongs to a network. -/
def Database.NetworksExist (db : Database) : Prop :=
  ∀ d ∈ db.devices, (db.networks.get? d.networkId).isSome = true

namespace Database.NetworksExist

variable {db db' : Database}

theorem no_member (h : db.NetworksExist) {network : Network} {networks : Table Network}
    (hnetworks : db.networks.insert network = some networks) :
    ∀ d ∈ db.devices, network.id ≠ d.networkId := by
  intro d hd heq
  obtain ⟨n, hn⟩ := Option.isSome_iff_exists.1 (h d hd)
  obtain ⟨hmem, hpk⟩ := Table.get?_eq_some_iff.1 hn
  exact (Table.insert_eq_some hnetworks).2 n hmem (hpk.trans heq.symm)

theorem hubId?_created (h : db.NetworksExist) {network : Network} {networks : Table Network}
    {server : Device} (hnetworks : db.networks.insert network = some networks)
    (hid : server.networkId = network.id)
    (hdevices : db.devices.insert server = some db'.devices) :
    db'.hubId? network.id = some server.id := by
  rw [hubId?, (Table.insert_eq_some hdevices).1, ← hid]
  exact keeper?_concat_self fun d hd hg => h.no_member hnetworks d hd (hid.symm.trans hg.symm)

end Database.NetworksExist

/-- Every device belongs to a network, and the addresses are leased from the networks' hosts. -/
structure Database.Leased (db : Database) : Prop where
  network_exists : ∀ d ∈ db.devices, (db.networks.get? d.networkId).isSome = true
  leases : Leases Device.id Device.networkId Device.ipAddress db.hostTexts db.devices.rows

namespace Database.Leased

variable {db db' : Database}

theorem hostTexts_eq {networkId : Uuid} {network : Network} {net : IPv4Network}
    (hn : db.networks.get? networkId = some network)
    (hnet : IPv4Network.parse network.subnet = some net) :
    db.hostTexts networkId = net.hostTexts := by
  rw [hostTexts, hn, Option.bind_some, hnet]

theorem exists_net {networkId : Uuid} {ip : String} (h : ip ∈ db.hostTexts networkId) :
    ∃ network net, db.networks.get? networkId = some network ∧
      IPv4Network.parse network.subnet = some net ∧ db.hostTexts networkId = net.hostTexts := by
  unfold hostTexts at h ⊢
  split at h
  · rename_i net hnet
    obtain ⟨network, hn, hnet⟩ := Option.bind_eq_some_iff.1 hnet
    exact ⟨network, net, hn, hnet, rfl⟩
  · cases h

theorem sound (h : db.Leased) : db.AddressesSound where
  distinct := fun _ hd _ hd' hnet hsome heq => h.leases.eq_of_addr hd hd' hnet hsome heq
  host := by
    intro d hd ip hip
    have hmem := h.leases.mem_pool d hd ip hip
    obtain ⟨network, net, hn, hnet, hhosts⟩ := exists_net hmem
    exact ⟨network, net, hn, hnet, hhosts ▸ hmem,
      fun hhead => h.leases.gateway d hd ip hip (hhosts ▸ hhead)⟩

theorem hostTexts_congr {networkId : Uuid}
    (h : (db'.networks.get? networkId).map (·.subnet) =
      (db.networks.get? networkId).map (·.subnet)) :
    db'.hostTexts networkId = db.hostTexts networkId := by
  have hbind : ∀ o : Option Network, (o.bind fun n => IPv4Network.parse n.subnet) =
      (o.map (·.subnet)).bind IPv4Network.parse := fun o => by cases o <;> rfl
  unfold hostTexts
  rw [hbind, h, ← hbind]

theorem hostTexts_of_networks (h : db'.networks = db.networks) : db'.hostTexts = db.hostTexts := by
  funext id
  exact hostTexts_congr (by rw [h])

theorem of_subnets (h : db.Leased) (hdevices : db'.devices = db.devices)
    (hsubnets : ∀ id, (db'.networks.get? id).map (·.subnet) =
      (db.networks.get? id).map (·.subnet)) : db'.Leased where
  network_exists := by
    intro d hd
    have hsome := h.network_exists d (hdevices ▸ hd)
    rwa [← Option.isSome_map, hsubnets, Option.isSome_map]
  leases := by
    rw [hdevices]
    exact h.leases.congr_pool fun d _ => hostTexts_congr (hsubnets d.networkId)

theorem allocated (h : db.Leased) {network : Network} {device : Device} {ip : String}
    (hn : db.networks.get? device.networkId = some network)
    (hip : allocateIp db device.networkId network.subnet = .ok ip)
    (haddr : device.ipAddress = some ip) (hnetworks : db'.networks = db.networks)
    (hdevices : db.devices.insert device = some db'.devices) : db'.Leased where
  network_exists := by
    intro d hd
    rw [hnetworks]
    rcases (Table.mem_insert hdevices).1 hd with hd | rfl
    · exact h.network_exists d hd
    · rw [hn]; rfl
  leases := by
    obtain ⟨net, hnet, hmem, hhead, hfree⟩ := allocateIp_eq_ok hip
    have hhosts : db.hostTexts device.networkId = net.hostTexts := hostTexts_eq hn hnet
    rw [(Table.insert_eq_some hdevices).1, hostTexts_of_networks hnetworks]
    refine h.leases.concat ?_ ?_ ?_
    all_goals rw [haddr]; rintro a ⟨⟩
    · exact fun d hd hg => hfree d hd hg
    · exact hhosts ▸ hmem
    · exact fun h => absurd (hhosts ▸ h) hhead

/-- A new network with its hub. -/
theorem created (h : db.Leased) {network : Network} {net : IPv4Network} {ip : String}
    {server : Device} (hnet : IPv4Network.parse network.subnet = some net)
    (hip : net.hostTexts.head? = some ip) (hid : server.networkId = network.id)
    (haddr : server.ipAddress = some ip)
    (hnetworks : db.networks.insert network = some db'.networks)
    (hdevices : db.devices.insert server = some db'.devices) : db'.Leased := by
  have hget : ∀ id, db'.networks.get? id =
      if network.id = id then some network else db.networks.get? id := Table.get?_insert hnetworks
  -- the network is new, so its hub is its only device
  have hnew := NetworksExist.no_member h.network_exists hnetworks
  have hold : ∀ d ∈ db.devices, db'.networks.get? d.networkId = db.networks.get? d.networkId :=
    fun d hd => by rw [hget, if_neg (hnew d hd)]
  have hhosts : db'.hostTexts server.networkId = net.hostTexts :=
    hostTexts_eq (by rw [hget, hid, if_pos rfl]) hnet
  constructor
  · intro d hd
    rcases (Table.mem_insert hdevices).1 hd with hd | rfl
    · rw [hold d hd]
      exact h.network_exists d hd
    · rw [hget, hid, if_pos rfl]
      rfl
  · rw [(Table.insert_eq_some hdevices).1]
    have hleases : Leases Device.id Device.networkId Device.ipAddress db'.hostTexts
        db.devices.rows := h.leases.congr_pool fun d hd => by
      exact hostTexts_congr (by rw [hold d hd])
    refine hleases.concat ?_ ?_ ?_
    all_goals rw [haddr]; rintro a ⟨⟩
    · exact fun d hd hg => absurd (hg.trans hid).symm (hnew d hd)
    · exact hhosts ▸ List.mem_of_mem_head? hip
    · exact fun _ d hd hg => hnew d hd (hg.trans hid).symm

/-- Assignments to a device that keep its network and write an address it may take, if any. -/
theorem assigned (h : db.Leased) {now : Timestamp} {deviceId : Uuid} {f : Device → Device}
    {hf : ∀ d, (f d).id = d.id} {d : Device} (hd : db.devices.get? deviceId = some d)
    (hnet : (f d).networkId = d.networkId)
    (haddr : (f d).ipAddress = d.ipAddress ∨ ∀ ip ∈ (f d).ipAddress, db.MayHold d ip)
    (hnetworks : db'.networks = db.networks)
    (hdevices : db'.devices = (db.assign now deviceId f hf).devices) : db'.Leased := by
  -- one row changes in place
  obtain ⟨l₁, l₂, hrows, hrows'⟩ := assign_rows hd
  have hleases := h.leases
  rw [hrows] at hleases
  constructor
  · intro d' hd'
    rw [Table.mem_def, hdevices, hrows'] at hd'
    rw [hnetworks]
    have hold : ∀ d' ∈ l₁ ++ d :: l₂, (db.networks.get? d'.networkId).isSome = true :=
      fun d' hd' => h.network_exists d' (Table.mem_def.2 (hrows ▸ hd'))
    rcases List.mem_append.1 hd' with hd' | hd'
    · exact hold d' (List.mem_append_left _ hd')
    · rcases List.mem_cons.1 hd' with rfl | hd'
      · rw [Device.flushed_networkId, hnet]
        exact hold d (List.mem_append_right _ List.mem_cons_self)
      · exact hold d' (List.mem_append_right _ (List.mem_cons_of_mem _ hd'))
  · rw [hdevices, hrows', hostTexts_of_networks hnetworks]
    rcases haddr with haddr | haddr
    · exact hleases.replace_of_addr_eq ((Device.flushed_id now f d).trans (hf d))
        ((Device.flushed_networkId now f d).trans hnet)
        ((Device.flushed_ipAddress now f d).trans haddr)
    · refine hleases.replace ((Device.flushed_id now f d).trans (hf d))
        ((Device.flushed_networkId now f d).trans hnet) ?_ ?_ ?_
      all_goals
        rw [Device.flushed_ipAddress]
        intro ip hip
        obtain ⟨⟨network, net, hn, hparse, hmem, hhead⟩, hfree⟩ := haddr ip hip
      · intro d' hd' hg
        refine hfree d' (Table.mem_def.2 (hrows ▸ ?_)) hg
        rcases List.mem_append.1 hd' with hd' | hd'
        · exact List.mem_append_left _ hd'
        · exact List.mem_append_right _ (List.mem_cons_of_mem _ hd')
      · rw [hostTexts_eq hn hparse]
        exact hmem
      · rw [hostTexts_eq hn hparse, ← hrows]
        exact hhead

end Database.Leased

/-- What a lawful body writes is the device's own address or one it may take. -/
theorem Database.MayWrite.written {db : Database} {d : Device} {ip : Option String}
    (h : db.MayWrite d ip) (htruthy : truthy ip = true) :
    ip = d.ipAddress ∨ ∀ a ∈ ip, db.MayHold d a := by
  by_cases hsame : ip = d.ipAddress
  · exact .inl hsame
  · exact .inr (h htruthy hsame)

theorem Lawful.mayWrite {db : Database} {c : Call} (hl : Lawful db c) {d : Device}
    {ip : Option String} (h : c.Gives db d ip) : db.MayWrite d ip := by
  obtain ⟨env, e, request⟩ := c
  cases h with
  | heartbeat hreq hd =>
    subst hreq
    exact hl d hd
  | enrollment hreq huser hd howner howned hpending =>
    subst hreq
    exact hl _ d huser hd howner howned hpending

/-- A lawful request that succeeds keeps the leases. -/
theorem Database.Leased.handle {db db' : Database} {c : Call} (h : db.Leased) (hl : Lawful db c)
    (hok : c.handle db = .ok db') : db'.Leased := by
  cases c.handle_change hok with
  | keptDevices hdevices hsubnets => exact h.of_subnets hdevices hsubnets
  | created hnet hip _ hid haddr hnetworks hdevices =>
    exact h.created hnet hip hid haddr hnetworks hdevices
  | allocated hn hip haddr hnetworks hdevices => exact h.allocated hn hip haddr hnetworks hdevices
  | assigned f hd hnet hgiven hnetworks hdevices =>
    refine h.assigned hd (hnet _) ?_ hnetworks hdevices
    rcases hgiven with hold | ⟨htruthy, hgives⟩
    · exact .inl hold
    · exact (hl.mayWrite hgives).written htruthy

/-! ### The hub -/

/-- The device created with a network is its hub. -/
theorem createNetwork_hub {env : Env} {e : Entropy} {db db' : Database} {token : String}
    {req : NetworkCreate} {network : Network} (h : db.Leased)
    (hok : createNetwork env e db token req = .ok (network, db')) :
    ∃ server ∈ db'.devices, server.name = serverName ∧ server.networkId = network.id ∧
      db'.hubId? network.id = some server.id := by
  obtain ⟨user, net, ip, networks, devices, -, -, -, -, hnetworks, hdevices, rfl⟩ :=
    createNetwork_eq_ok hok
  refine ⟨_, (Table.mem_insert hdevices).2 (.inr rfl), rfl, rfl, ?_⟩
  exact Database.NetworksExist.hubId?_created h.network_exists hnetworks rfl hdevices

theorem createNetwork_hub_address {env : Env} {e : Entropy} {db db' : Database} {token : String}
    {req : NetworkCreate} {network : Network} {net : IPv4Network}
    (hnet : IPv4Network.parse req.subnet = some net)
    (hok : createNetwork env e db token req = .ok (network, db')) :
    ∃ server ∈ db'.devices, ∃ first, server.name = serverName ∧ server.networkId = network.id ∧
      net.hosts.head? = some first ∧ server.ipAddress = some first.str := by
  obtain ⟨user, net', ip, networks, devices, -, hnet', hip, -, -, hdevices, rfl⟩ :=
    createNetwork_eq_ok hok
  cases hnet.symm.trans hnet'
  rw [IPv4Network.hostTexts, List.head?_map, Option.map_eq_some_iff] at hip
  obtain ⟨first, hfirst, rfl⟩ := hip
  exact ⟨_, (Table.mem_insert hdevices).2 (.inr rfl), first, rfl, rfl, hfirst, rfl⟩

/-- **Allocation is exact.**  From a subnet, `allocate_ip` returns the least host address other than
the first one that no device of the network holds, and conflicts exactly if there is none; and the
first one is the address of the hub of any network created on that subnet, so no client gets it. -/
theorem allocateIp_exact {subnet : String} {net : IPv4Network}
    (hnet : IPv4Network.parse subnet = some net) :
    (∀ db networkId x, allocateIp db networkId subnet = .ok x.str ↔
      IsLeast {y | y ∈ net.hosts ∧ net.hosts.head? ≠ some y ∧ y.str ∉ db.usedIps networkId} x) ∧
    (∀ db networkId, allocateIp db networkId subnet =
        .error (.http 409 "No available IP addresses in subnet") ↔
      ∀ y ∈ net.hosts, net.hosts.head? ≠ some y → y.str ∈ db.usedIps networkId) ∧
    (∀ db networkId, (∃ x : IPv4Address, allocateIp db networkId subnet = .ok x.str) ∨
      allocateIp db networkId subnet =
        .error (.http 409 "No available IP addresses in subnet")) ∧
    ∀ env e db token (req : NetworkCreate) network db', req.subnet = subnet →
      createNetwork env e db token req = .ok (network, db') →
      ∃ hub ∈ db'.devices, hub.name = serverName ∧ hub.networkId = network.id ∧
        hub.ipAddress = net.hosts.head?.map IPv4Address.str ∧
        ∀ later networkId ip, allocateIp later networkId subnet = .ok ip →
          hub.ipAddress ≠ some ip := by
  have hfree : ∀ db networkId, Database.freeHosts db networkId net = ∅ ↔
      ∀ y ∈ net.hosts, net.hosts.head? ≠ some y → y.str ∈ db.usedIps networkId := by
    intro db networkId
    rw [Set.eq_empty_iff_forall_notMem]
    refine forall_congr' fun y => ?_
    simp only [Database.freeHosts, Set.mem_ofPred_eq, not_and, not_not]
  refine ⟨fun db networkId x => allocateIp_eq_ok_iff hnet,
    fun db networkId => (allocateIp_conflict_iff hnet).trans (hfree db networkId),
    fun db networkId => ?_, ?_⟩
  · rw [allocateIp_eq hnet]
    cases net.hosts.find? fun x => net.hosts.head? ≠ some x ∧ x.str ∉ db.usedIps networkId with
    | none => exact .inr rfl
    | some x => exact .inl ⟨x, rfl⟩
  · rintro env e db token req network db' rfl hok
    obtain ⟨hub, hhub, first, hname, hid, hfirst, hip⟩ := createNetwork_hub_address hnet hok
    refine ⟨hub, hhub, hname, hid, by rw [hip, hfirst, Option.map_some], ?_⟩
    intro later networkId ip hallocated
    obtain ⟨net', hnet', -, hgateway, -⟩ := allocateIp_eq_ok hallocated
    cases hnet.symm.trans hnet'
    rw [IPv4Network.hostTexts, List.head?_map, hfirst, Option.map_some] at hgateway
    rw [hip]
    exact hgateway

/-- A subnet of two addresses. -/
theorem allocateIp_exact_pair :
    let net := IPv4Network.ofAddress ⟨0x0A000001, by decide⟩ 31
    (∀ db networkId x, allocateIp db networkId "10.0.0.1/31" = .ok x.str ↔
      IsLeast {y | y ∈ net.hosts ∧ net.hosts.head? ≠ some y ∧ y.str ∉ db.usedIps networkId} x) ∧
    (∀ db networkId, allocateIp db networkId "10.0.0.1/31" =
        .error (.http 409 "No available IP addresses in subnet") ↔
      ∀ y ∈ net.hosts, net.hosts.head? ≠ some y → y.str ∈ db.usedIps networkId) ∧
    (∀ db networkId, (∃ x : IPv4Address, allocateIp db networkId "10.0.0.1/31" = .ok x.str) ∨
      allocateIp db networkId "10.0.0.1/31" =
        .error (.http 409 "No available IP addresses in subnet")) ∧
    ∀ env e db token (req : NetworkCreate) network db', req.subnet = "10.0.0.1/31" →
      createNetwork env e db token req = .ok (network, db') →
      ∃ hub ∈ db'.devices, hub.name = serverName ∧ hub.networkId = network.id ∧
        hub.ipAddress = net.hosts.head?.map IPv4Address.str ∧
        ∀ later networkId ip, allocateIp later networkId "10.0.0.1/31" = .ok ip →
          hub.ipAddress ≠ some ip :=
  allocateIp_exact (by decide +kernel)

/-- The id and the network of a device. -/
def Device.membership (d : Device) : Uuid × Uuid := (d.id, d.networkId)

theorem membership_insert {t t' : Table Device} {d : Device} (h : t.insert d = some t') :
    t.rows.map Device.membership <+: t'.rows.map Device.membership := by
  rw [(Table.insert_eq_some h).1, List.map_append]
  exact List.prefix_append _ _

theorem membership_assign {db : Database} {now : Timestamp} {deviceId : Uuid} {f : Device → Device}
    {hf : ∀ d, (f d).id = d.id} (hnet : ∀ d, (f d).networkId = d.networkId) :
    db.devices.rows.map Device.membership <+:
      (db.assign now deviceId f hf).devices.rows.map Device.membership := by
  have hmap : (db.assign now deviceId f hf).devices.rows.map Device.membership =
      db.devices.rows.map Device.membership := by
    refine Table.map_modify (fun d => (Device.flushed_id now f d).trans (hf d)) fun d => ?_
    rw [Device.membership, Device.flushed_id, Device.flushed_networkId, hf, hnet]
    rfl
  exact hmap ▸ List.prefix_refl _

theorem Call.handle_membership {db db' : Database} {c : Call} (hok : c.handle db = .ok db') :
    db.devices.rows.map Device.membership <+: db'.devices.rows.map Device.membership := by
  cases c.handle_change hok with
  | keptDevices hdevices _ => exact hdevices ▸ List.prefix_refl _
  | created _ _ _ _ _ _ hdevices => exact membership_insert hdevices
  | allocated _ _ _ _ hdevices => exact membership_insert hdevices
  | assigned _ _ hnet _ _ hdevices => exact hdevices ▸ membership_assign hnet

/-- **A network keeps its hub.** -/
theorem hubId?_run {db : Database} {networkId hub : Uuid} (calls : List Call)
    (h : db.hubId? networkId = some hub) : (run serve db calls).hubId? networkId = some hub := by
  have hstep : ∀ db c, Database.hubId? db networkId = some hub →
      (serve db c).hubId? networkId = some hub := by
    intro db c h
    unfold serve
    split
    · rename_i db' hok
      exact keeper?_of_prefix (Call.handle_membership hok) h
    · exact h
  exact run_invariant serve hstep h calls

/-! ### The addresses -/

/-- **After every run of lawful requests the addresses are sound**, whoever the users are. -/
theorem addresses_sound (users : Table User) (calls : List Call)
    (hlawful : Admissible serve Lawful { users } calls) :
    (run serve { users } calls).AddressesSound := by
  have hstart : Database.Leased { users } :=
    { network_exists := fun d hd => absurd hd List.not_mem_nil
      leases := leases_nil }
  have hstep : ∀ db c, Database.Leased db → Lawful db c → (serve db c).Leased := by
    intro db c h hl
    unfold serve
    split
    · rename_i db' hok
      exact h.handle hl hok
    · exact h
  exact (run_invariant_of_admissible serve hstep hstart hlawful).sound

/-! ### An office -/

/-- An environment in which `jwt` is the access token of the first user. -/
def officeEnv : Env where
  settings := {}
  security := plainSecurity [("jwt",
    (Dict.empty.set "sub" (.str "00000000-0000-0000-0000-000000000001")).set "type" (.str "access"))]
  now := 0
  setOrder := .dedup String

/-- What the request that adds row `n` draws. -/
def officeEntropy (n : ℕ) : Entropy where
  rowId := Uuid.ofNat n
  serverId := Uuid.ofNat (100 + n)
  keyPair := { privateKey := "private", publicKey := "public" }
  nonce := ""
  rawPrefix := "abcdefgh"
  secret := "secret"
  salt := ""
  preauthText := "key"

/-- The users of the office. -/
def officeUsers : Table User := .ofRows [{ id := Uuid.ofNat 1 }]

/-- A user creates a network and a pre-auth key, and a laptop enrolls with the key. -/
def officeCalls : List Call := [
  { env := officeEnv, entropy := officeEntropy 2
    request := .createNetwork "jwt" { name := "office", subnet := "10.0.0.0/29" } },
  { env := officeEnv, entropy := officeEntropy 3
    request := .createPreauthKey "jwt" (Uuid.ofNat 2) {} },
  { env := officeEnv, entropy := officeEntropy 4
    request := .enrollByKey
      { preauthKey := "midscale_key", name := "laptop", publicKey := "key-l" } }]

/-- A heartbeat of the laptop. -/
def officeHeartbeat (ip : String) : Call where
  env := officeEnv
  entropy := officeEntropy 5
  request := .heartbeat "midscale_device_abcdefgh_secret" (Uuid.ofNat 4) { ipAddress := some ip }

/-- The laptop enrolls and reports the address it got. -/
theorem addresses_sound_office :
    (run serve { users := officeUsers }
      (officeCalls ++ [officeHeartbeat "10.0.0.2"])).AddressesSound := by
  refine addresses_sound officeUsers _ ((admissible_append serve).2
    ⟨⟨trivial, trivial, trivial, trivial⟩, ?_, trivial⟩)
  intro d hd _ hne
  have hlaptop : ((run serve { users := officeUsers } officeCalls).devices.get?
      (Uuid.ofNat 4)).map (·.ipAddress) = some (some "10.0.0.2") := by decide +kernel
  rw [getCurrentDeviceById_eq_ok hd, Option.map_some, Option.some.injEq] at hlaptop
  exact absurd hlaptop.symm hne

/-- A heartbeat gives the laptop the address of the hub. -/
theorem heartbeat_takes_hub_address :
    ¬ (run serve { users := officeUsers }
      (officeCalls ++ [officeHeartbeat "10.0.0.1"])).AddressesSound := by
  intro h
  -- the hub and the laptop
  have hboth : ∃ d ∈ (run serve { users := officeUsers }
      (officeCalls ++ [officeHeartbeat "10.0.0.1"])).devices.rows,
      ∃ d' ∈ (run serve { users := officeUsers }
        (officeCalls ++ [officeHeartbeat "10.0.0.1"])).devices.rows,
      d.networkId = d'.networkId ∧ d.ipAddress ≠ none ∧ d.ipAddress = d'.ipAddress ∧ d ≠ d' := by
    decide +kernel
  obtain ⟨d, hd, d', hd', hnet, hsome, heq, hne⟩ := hboth
  exact hne (h.distinct d hd d' hd' hnet hsome heq)

end Midscale
