import Midscale.Api.DeviceWrites
import Midscale.Wireguard.Controller

/-!
# The identity of the hub

The hub of a network is made by `create_network` and found again by its name.  The name is not
reserved: a device may be added under it or renamed to it, and the hub itself may be renamed or
deactivated, which hides it from the lookups.

* `Database.HubFound` : a device of a network has the hub's name alone, and every lookup finds it.
* `KeepsHubs` : a request leaves the name and the activity of the hubs alone.
* `hubs_found_iff` : **in every state of a run the hubs are the devices that the networks were
  created with, and are found, exactly if every request keeps the hubs.**
* `enrolled_hub` : a device enrolls under the hub's name.
-/

namespace Midscale

/-! ### Finding the hub -/

/-- The device has the server's name, alone in its network, and every lookup finds it: the first
match of `get_device_config`, the last match of `build_device_states`, and the filter of the
controller, which leaves out that device and no other. -/
structure Database.HubFound (db : Database) (networkId : Uuid) (hub : Device) : Prop where
  mem : hub ∈ db.devices
  network : hub.networkId = networkId
  named : ∀ d ∈ db.devices, d.networkId = networkId → (d.name = serverName ↔ d = hub)
  first : (db.plannedDevices networkId).find? (fun d => d.name = serverName) = some hub
  last : (db.buildDeviceStates networkId).2 = some hub.id.str
  filtered : ∀ settings : Settings, ∀ network ∈ db.networks.get? networkId,
    (db.interfaceDevices settings (settings.interfaceOf network)).filter
        (fun d => d.networkId = networkId) =
      (db.plannedDevices networkId).filter fun d => d ≠ hub

/-- A planned device that has the server's name alone is found. -/
theorem Database.HubFound.of_named {db : Database} {networkId : Uuid} {hub : Device}
    (hplanned : hub ∈ db.plannedDevices networkId)
    (hnamed : ∀ d ∈ db.devices, d.networkId = networkId → (d.name = serverName ↔ d = hub)) :
    db.HubFound networkId hub where
  mem := (mem_plannedDevices.1 hplanned).1
  network := (mem_plannedDevices.1 hplanned).2.1
  named := hnamed
  first := by
    obtain ⟨hmem, hnet, -⟩ := mem_plannedDevices.1 hplanned
    refine find?_eq_some_of_unique hplanned (decide_eq_true ((hnamed hub hmem hnet).2 rfl))
      fun d hd hname => ?_
    obtain ⟨hd, hdnet, -⟩ := mem_plannedDevices.1 hd
    exact (hnamed d hd hdnet).1 (of_decide_eq_true hname)
  last := by
    obtain ⟨hmem, hnet, -⟩ := mem_plannedDevices.1 hplanned
    refine buildDeviceStates_server hplanned ((hnamed hub hmem hnet).2 rfl) fun d hd hname => ?_
    obtain ⟨hd, hdnet, -⟩ := mem_plannedDevices.1 hd
    exact (hnamed d hd hdnet).1 hname
  filtered := by
    intro settings network hn
    rw [interfaceDevices, plannedDevices, Table.select, Table.select, List.filter_filter,
      List.filter_filter]
    refine List.filter_congr fun d hd => ?_
    rw [Bool.eq_iff_iff, Bool.and_eq_true, Bool.and_eq_true]
    simp only [decide_eq_true_eq]
    constructor
    · rintro ⟨hid, hact, hkey, hip, hne, -⟩
      exact ⟨fun h => hne ((hnamed d hd hid).2 h), hid, hact, hkey, hip⟩
    · rintro ⟨hne, hid, hact, hkey, hip⟩
      refine ⟨hid, hact, hkey, hip, fun h => hne ((hnamed d hd hid).1 h), ?_⟩
      rw [hid, hn, Option.any_some, decide_eq_true_eq]

/-- Every network has a hub that is found. -/
def Database.HubsFound (db : Database) : Prop :=
  ∀ network ∈ db.networks, ∃ hub, db.HubFound network.id hub

/-- The run created the network with the device as its hub. -/
def CreatedWith (start : Database) (calls : List Call) (networkId hubId : Uuid) : Prop :=
  ∃ (before after : List Call) (c : Call) (token : String) (req : NetworkCreate) (network : Network)
    (db' : Database), calls = before ++ c :: after ∧ c.request = .createNetwork token req ∧
      createNetwork c.env c.entropy (run serve start before) token req = .ok (network, db') ∧
      network.id = networkId ∧ c.entropy.serverId = hubId

/-- A request that is accepted gives the hub's name to no device but the hub, and neither renames
nor deactivates the hub. -/
def KeepsHubs (db : Database) (c : Call) : Prop :=
  (∃ db', c.handle db = .ok db') →
    match c.request with
    | .createDevice _ _ req | .createNodeDevice _ _ req => req.name ≠ serverName
    | .enrollByKey req => req.name ≠ serverName
    | .registerDevice req => req.name ≠ serverName
    | .updateDevice _ id req => ∀ d, db.devices.get? id = some d →
        if db.hubId? d.networkId = some id then
          req.name.getD serverName = serverName ∧ req.isActive ≠ some false
        else req.name ≠ some serverName
    | .revokeDevice _ id => ∀ d, db.devices.get? id = some d → db.hubId? d.networkId ≠ some id
    | _ => True

/-! ### The invariant -/

/-- Every device belongs to a network, every network has a hub that the lookups may find, and the
hubs are the devices with the server's name. -/
structure Database.HubsNamed (db : Database) : Prop where
  networks_exist : db.NetworksExist
  hub : ∀ id, (db.networks.get? id).isSome = true → ∃ hub ∈ db.plannedDevices id,
    db.hubId? id = some hub.id
  named : ∀ d ∈ db.devices, d.name = serverName ↔ db.hubId? d.networkId = some d.id

namespace Database.HubsNamed

variable {db db' : Database} {c : Call}

theorem eq_hub (h : db.HubsNamed) {networkId : Uuid} {hub d : Device}
    (hplanned : hub ∈ db.plannedDevices networkId) (hhub : db.hubId? networkId = some hub.id)
    (hd : d ∈ db.devices) (hnet : d.networkId = networkId) : d.name = serverName ↔ d = hub := by
  rw [h.named d hd, hnet, hhub, Option.some.injEq]
  constructor
  · exact fun hid => db.devices.eq_of_pk hd (mem_plannedDevices.1 hplanned).1 hid.symm
  · rintro rfl
    rfl

theorem found (h : db.HubsNamed) {networkId hub : Uuid}
    (hsome : (db.networks.get? networkId).isSome = true) (hhub : db.hubId? networkId = some hub) :
    ∃ d, d.id = hub ∧ db.HubFound networkId d := by
  obtain ⟨d, hplanned, hd⟩ := h.hub networkId hsome
  refine ⟨d, Option.some.inj (hd.symm.trans hhub), .of_named hplanned fun d' hd' hnet => ?_⟩
  exact h.eq_hub hplanned hd hd' hnet

theorem hubId?_eq (h : db.HubsNamed) (hok : c.handle db = .ok db') {id : Uuid}
    (hsome : (db.networks.get? id).isSome = true) : db'.hubId? id = db.hubId? id := by
  obtain ⟨hub, -, hhub⟩ := h.hub id hsome
  rw [hhub]
  exact keeper?_of_prefix (Call.handle_membership hok) hhub

end Database.HubsNamed

/-! ### What keeps the hubs -/

section

variable {db db' : Database} {c : Call}

theorem keepsHubs_of_none (hname : c.request.newName? = none) (hassign : c.assignment? = none) :
    KeepsHubs db c := by
  obtain ⟨env, e, request⟩ := c
  cases request with
  | createDevice | createNodeDevice | enrollByKey | registerDevice => cases hname
  | updateDevice | revokeDevice | enrollDevice | heartbeat => cases hassign
  | createNetwork | updateNetwork | createPreauthKey => exact fun _ => trivial

theorem keepsHubs_iff_of_newName {name : String} (hok : c.handle db = .ok db')
    (hname : c.request.newName? = some name) : KeepsHubs db c ↔ name ≠ serverName := by
  have haccepted : ∃ db', c.handle db = .ok db' := ⟨db', hok⟩
  obtain ⟨env, e, request⟩ := c
  cases request with
  | createDevice | createNodeDevice | enrollByKey | registerDevice =>
    cases hname
    exact forall_prop_of_true haccepted
  | _ => cases hname

/-- Assignments to a device keep the hubs if the device has the hub's name exactly if it is the hub,
which stays active. -/
theorem keepsHubs_iff_of_assignment {deviceId : Uuid} {f : Device → Device} {d : Device}
    (hok : c.handle db = .ok db') (hassign : c.assignment? = some (deviceId, f))
    (hd : db.devices.get? deviceId = some d)
    (hnamed : d.name = serverName ↔ db.hubId? d.networkId = some d.id)
    (hactive : db.hubId? d.networkId = some d.id → d.isActive = true) :
    KeepsHubs db c ↔ ((f d).name = serverName ↔ db.hubId? d.networkId = some d.id) ∧
      (db.hubId? d.networkId = some d.id → (f d).isActive = true) := by
  have haccepted : ∃ db', c.handle db = .ok db' := ⟨db', hok⟩
  obtain rfl : d.id = deviceId := (Table.get?_eq_some_iff.1 hd).2
  obtain ⟨env, e, request⟩ := c
  cases request with
  | updateDevice token id req =>
    cases hassign
    refine (forall_prop_of_true haccepted).trans ?_
    simp only [hd, Option.some.injEq, forall_eq', DeviceUpdate.apply]
    by_cases hhub : db.hubId? d.networkId = some d.id
    · have hserver := hnamed.2 hhub
      simp only [hhub, if_true, iff_true, true_imp_iff, hserver, hactive hhub]
      refine and_congr_right fun _ => ?_
      cases req.isActive <;> simp
    · have hserver : d.name ≠ serverName := fun h => hhub (hnamed.1 h)
      simp only [hhub, if_false, iff_false, false_imp_iff, and_true]
      cases req.name <;> simp [hserver]
  | revokeDevice token id =>
    cases hassign
    refine (forall_prop_of_true haccepted).trans ?_
    simp only [hd, Option.some.injEq, forall_eq', Device.revoked, hnamed, true_and,
      Bool.false_eq_true, imp_false, ne_eq]
  | enrollDevice token id req =>
    cases hassign
    exact iff_of_true (fun _ => trivial) ⟨hnamed, hactive⟩
  | heartbeat token id req =>
    cases hassign
    exact iff_of_true (fun _ => trivial) ⟨hnamed, hactive⟩
  | _ => cases hassign

end

/-! ### One request -/

namespace Database

variable {db db' : Database} {c : Call}

/-- A request leaves every device in a network that exists. -/
theorem NetworksExist.handle (h : db.NetworksExist) (hok : c.handle db = .ok db') :
    db'.NetworksExist := by
  cases c.handle_write hok with
  | kept _ _ hdevices hnetworks =>
    intro d hd
    rw [hnetworks]
    exact h d (hdevices ▸ hd)
  | hub hreq hcreated _ _ hnet _ _ _ _ hnetworks hdevices =>
    intro d hd
    rw [Table.get?_insert hnetworks]
    split_ifs with hid
    · rfl
    · rcases (Table.mem_insert hdevices).1 hd with hd | rfl
      · exact h d hd
      · exact absurd hnet.symm hid
  | added _ _ _ hnet hnetworks hdevices =>
    intro d hd
    rw [hnetworks]
    rcases (Table.mem_insert hdevices).1 hd with hd | rfl
    · exact h d hd
    · exact hnet
  | assigned _ hassign _ hnetworks hdevices =>
    intro d' hd'
    rw [Table.mem_def, hdevices] at hd'
    obtain ⟨d, hd, rfl⟩ := mem_assign.1 hd'
    rw [hnetworks]
    split_ifs
    · rw [Device.flushed_networkId, Call.assignment?_networkId hassign]
      exact h d hd
    · exact h d hd

/-- The hub of a network is active. -/
theorem HubsNamed.isActive (h : db.HubsNamed) {d : Device} (hd : d ∈ db.devices)
    (hhub : db.hubId? d.networkId = some d.id) : d.isActive = true := by
  obtain ⟨hub, hplanned, hid⟩ := h.hub d.networkId (h.networks_exist d hd)
  obtain ⟨hmem, -, hactive, -⟩ := mem_plannedDevices.1 hplanned
  rwa [db.devices.eq_of_pk hd hmem (Option.some.inj (hhub.symm.trans hid))]

theorem HubsNamed.hub_of_insert (h : db.HubsNamed) (hok : c.handle db = .ok db') {device : Device}
    (hdevices : db.devices.insert device = some db'.devices) {id : Uuid}
    (hid : (db.networks.get? id).isSome = true) :
    ∃ hub ∈ db'.plannedDevices id, db'.hubId? id = some hub.id := by
  obtain ⟨hub, hplanned, hhub⟩ := h.hub id hid
  obtain ⟨hmem, hcolumns⟩ := mem_plannedDevices.1 hplanned
  refine ⟨hub, mem_plannedDevices.2 ⟨(Table.mem_insert hdevices).2 (.inl hmem), hcolumns⟩, ?_⟩
  rw [h.hubId?_eq hok hid, hhub]

/-- A request that keeps the hubs keeps the invariant. -/
theorem HubsNamed.handle (h : db.HubsNamed) (hkeeps : KeepsHubs db c)
    (hok : c.handle db = .ok db') : db'.HubsNamed := by
  have hexist := h.networks_exist.handle hok
  cases c.handle_write hok with
  | kept _ _ hdevices hnetworks =>
    refine ⟨hexist, fun id hid => ?_, fun d hd => ?_⟩
    · rw [hnetworks] at hid
      rw [h.hubId?_eq hok hid, plannedDevices, hdevices]
      exact h.hub id hid
    · rw [hdevices] at hd
      rw [h.hubId?_eq hok (h.networks_exist d hd)]
      exact h.named d hd
  | @hub _ _ network server hreq hcreated _ hserver hnet hactive haddr hkey hsome hnetworks
      hdevices =>
    have hnew := h.networks_exist.hubId?_created hnetworks hnet hdevices
    refine ⟨hexist, fun id hid => ?_, fun d hd => ?_⟩
    · rw [Table.get?_insert hnetworks] at hid
      split_ifs at hid with heq
      · obtain rfl : network.id = id := heq
        exact ⟨server, mem_plannedDevices.2 ⟨(Table.mem_insert hdevices).2 (.inr rfl), hnet,
          hactive, hsome, haddr⟩, hnew⟩
      · exact h.hub_of_insert hok hdevices hid
    · rcases (Table.mem_insert hdevices).1 hd with hd | rfl
      · rw [h.hubId?_eq hok (h.networks_exist d hd)]
        exact h.named d hd
      · exact iff_of_true hserver (hnet ▸ hnew)
  | @added device hname _ _ hnet hnetworks hdevices =>
    have hother : device.name ≠ serverName := (keepsHubs_iff_of_newName hok hname).1 hkeeps
    refine ⟨hexist, fun id hid => ?_, fun d hd => ?_⟩
    · rw [hnetworks] at hid
      exact h.hub_of_insert hok hdevices hid
    · rcases (Table.mem_insert hdevices).1 hd with hd | rfl
      · rw [h.hubId?_eq hok (h.networks_exist d hd)]
        exact h.named d hd
      · rw [h.hubId?_eq hok hnet]
        obtain ⟨hub, hplanned, hhub⟩ := h.hub _ hnet
        refine iff_of_false hother fun hid => ?_
        -- the id of a new device is no id of a device that was there
        exact (Table.insert_eq_some hdevices).2 hub (mem_plannedDevices.1 hplanned).1
          (Option.some.inj (hhub.symm.trans hid))
  | @assigned deviceId f hf d _ hassign hd hnetworks hdevices =>
    have hmem := (Table.get?_eq_some_iff.1 hd).1
    obtain ⟨hnamed, hactive⟩ := (keepsHubs_iff_of_assignment hok hassign hd (h.named d hmem)
      (h.isActive hmem)).1 hkeeps
    have hrow : ∀ d' ∈ db.devices,
        (if d'.id = deviceId then d'.flushed c.env.now f else d') ∈ db'.devices :=
      fun d' hd' => Table.mem_def.2 (hdevices ▸ mem_assign.2 ⟨d', hd', rfl⟩)
    have heq : ∀ d' ∈ db.devices, d'.id = deviceId → d' = d := fun d' hd' hid =>
      db.devices.eq_of_pk hd' hmem (hid.trans (Table.get?_eq_some_iff.1 hd).2.symm)
    refine ⟨hexist, fun id hid => ?_, fun d' hd' => ?_⟩
    · rw [hnetworks] at hid
      obtain ⟨hub, hplanned, hhub⟩ := h.hub id hid
      obtain ⟨hhubmem, hnet, hcolumns⟩ := mem_plannedDevices.1 hplanned
      have hrow := hrow hub hhubmem
      rw [h.hubId?_eq hok hid, hhub]
      split_ifs at hrow with hassigned
      · obtain rfl := heq hub hhubmem hassigned
        have hsome := Call.assignment?_isSome hassign hcolumns.2.1 hcolumns.2.2
        refine ⟨_, mem_plannedDevices.2 ⟨hrow, ?_, ?_, ?_, ?_⟩, ?_⟩
        · rw [Device.flushed_networkId, Call.assignment?_networkId hassign, hnet]
        · rw [Device.flushed_isActive, hactive (hnet ▸ hhub)]
        · rw [Device.flushed_publicKey, hsome.1]
        · rw [Device.flushed_ipAddress, hsome.2]
        · rw [Device.flushed_id, hf]
      · exact ⟨hub, mem_plannedDevices.2 ⟨hrow, hnet, hcolumns⟩, rfl⟩
    · rw [Table.mem_def, hdevices] at hd'
      obtain ⟨d₀, hd₀, rfl⟩ := mem_assign.1 hd'
      split_ifs with hassigned
      · obtain rfl := heq d₀ hd₀ hassigned
        rw [Device.flushed_networkId, Device.flushed_id, Device.flushed_name, hf,
          Call.assignment?_networkId hassign, h.hubId?_eq hok (h.networks_exist d₀ hd₀)]
        exact hnamed
      · rw [h.hubId?_eq hok (h.networks_exist d₀ hd₀)]
        exact h.named d₀ hd₀

/-- A request that does not keep the hubs leaves a network whose hub is not found. -/
theorem HubsNamed.not_found (h : db.HubsNamed) (hkeeps : ¬ KeepsHubs db c)
    (hok : c.handle db = .ok db') : ¬ db'.HubsFound := by
  intro hfound
  -- the device of the lookups is the only one with the name
  have honly : ∀ {networkId}, (db'.networks.get? networkId).isSome = true →
      ∃ hub ∈ db'.plannedDevices networkId, hub.name = serverName ∧
        ∀ d ∈ db'.devices, d.networkId = networkId → d.name = serverName → d = hub := by
    intro networkId hsome
    obtain ⟨network, hn⟩ := Option.isSome_iff_exists.1 hsome
    obtain ⟨hmem, rfl⟩ := Table.get?_eq_some_iff.1 hn
    obtain ⟨hub, hhub⟩ := hfound network hmem
    exact ⟨hub, List.mem_of_find?_eq_some hhub.first,
      (hhub.named hub hhub.mem hhub.network).2 rfl, fun d hd hnet => (hhub.named d hd hnet).1⟩
  cases c.handle_write hok with
  | kept hname hassign _ _ => exact hkeeps (keepsHubs_of_none hname hassign)
  | hub hreq =>
    obtain ⟨env, e, request⟩ := c
    subst hreq
    exact hkeeps (keepsHubs_of_none rfl rfl)
  | @added device hname _ _ hnet hnetworks hdevices =>
    rw [keepsHubs_iff_of_newName hok hname, not_not] at hkeeps
    obtain ⟨hub, -, -, honly⟩ := honly (hnetworks ▸ hnet)
    -- the hub and the new device have the name
    obtain ⟨old, hplanned, hold⟩ := h.hub device.networkId hnet
    obtain ⟨hmem, holdnet, -⟩ := mem_plannedDevices.1 hplanned
    have hnew := honly device ((Table.mem_insert hdevices).2 (.inr rfl)) rfl hkeeps
    have hold' := honly old ((Table.mem_insert hdevices).2 (.inl hmem)) holdnet
      ((h.named old hmem).2 (holdnet ▸ hold))
    exact (Table.insert_eq_some hdevices).2 old hmem (congrArg Device.id (hold'.trans hnew.symm))
  | @assigned deviceId f hf d _ hassign hd hnetworks hdevices =>
    have hid : d.id = deviceId := (Table.get?_eq_some_iff.1 hd).2
    have hmem := (Table.get?_eq_some_iff.1 hd).1
    rw [keepsHubs_iff_of_assignment hok hassign hd (h.named d hmem) (h.isActive hmem)] at hkeeps
    have hrow : ∀ d' ∈ db.devices,
        (if d'.id = deviceId then d'.flushed c.env.now f else d') ∈ db'.devices :=
      fun d' hd' => Table.mem_def.2 (hdevices ▸ mem_assign.2 ⟨d', hd', rfl⟩)
    obtain ⟨hub, hplanned, hname, honly⟩ := honly (hnetworks ▸ h.networks_exist d hmem)
    have hd' := hrow d hmem
    rw [if_pos hid] at hd'
    refine hkeeps ⟨⟨fun hserver => ?_, fun hhub => ?_⟩, fun hhub => ?_⟩
    · -- the device has the name now, so it is the hub of the lookups, and the old hub too
      have hnew := honly _ hd'
        ((Device.flushed_networkId ..).trans (Call.assignment?_networkId hassign d))
        ((Device.flushed_name ..).trans hserver)
      obtain ⟨old, hplanned, hold⟩ := h.hub d.networkId (h.networks_exist d hmem)
      obtain ⟨holdmem, holdnet, -⟩ := mem_plannedDevices.1 hplanned
      have hold' := hrow old holdmem
      split_ifs at hold' with heq
      · rw [hold, heq, ← hid]
      · have hsame := honly old hold' holdnet ((h.named old holdmem).2 (holdnet ▸ hold))
        rw [hold, hsame, ← hnew, Device.flushed_id, hf]
    all_goals
      -- the hub of the lookups was the hub before
      obtain ⟨hubmem, hubnet, hubactive, -⟩ := mem_plannedDevices.1 hplanned
      rw [Table.mem_def, hdevices] at hubmem
      obtain ⟨d₀, hd₀, rfl⟩ := mem_assign.1 hubmem
      have hsame : d₀ = d := by
        split_ifs at hname hubnet with heq
        · exact db.devices.eq_of_pk hd₀ hmem (heq.trans hid.symm)
        · have hhub₀ := (h.named d₀ hd₀).1 hname
          rw [hubnet, hhub] at hhub₀
          exact db.devices.eq_of_pk hd₀ hmem (Option.some.inj hhub₀).symm
      subst hsame
      rw [if_pos hid] at hname hubactive
    · rwa [Device.flushed_name] at hname
    · rwa [Device.flushed_isActive] at hubactive

end Database

/-! ### Runs -/

/-- The device created with a network is its hub after the run, whatever the requests are. -/
theorem createdWith_run (users : Table User) (calls : List Call) :
    (run serve { users } calls).NetworksExist ∧
      ∀ id, ((run serve { users } calls).networks.get? id).isSome = true →
        ∃ hub, (run serve { users } calls).hubId? id = some hub ∧
          CreatedWith { users } calls id hub := by
  induction calls using List.reverseRecOn with
  | nil => exact ⟨fun d hd => absurd hd List.not_mem_nil, fun id hid => by cases hid⟩
  | append_singleton calls c ih =>
    obtain ⟨hexist, hcreated⟩ := ih
    have hlater : ∀ {id hub}, CreatedWith { users } calls id hub →
        CreatedWith { users } (calls ++ [c]) id hub := by
      rintro id hub ⟨before, after, c', token, req, network, db', rfl, h⟩
      exact ⟨before, after ++ [c], c', token, req, network, db',
        by rw [List.append_assoc, List.cons_append], h⟩
    rw [run_concat]
    unfold serve
    split
    · rename_i db' hok
      refine ⟨hexist.handle hok, fun id hid => ?_⟩
      have hold : ((run serve { users } calls).networks.get? id).isSome = true →
          ∃ hub, db'.hubId? id = some hub ∧ CreatedWith { users } (calls ++ [c]) id hub := by
        intro hid
        obtain ⟨hub, hhub, hby⟩ := hcreated id hid
        exact ⟨hub, keeper?_of_prefix (Call.handle_membership hok) hhub, hlater hby⟩
      cases c.handle_write hok with
      | kept _ _ _ hnetworks => exact hold (hnetworks id ▸ hid)
      | added _ _ _ _ hnetworks => exact hold (hnetworks ▸ hid)
      | assigned _ _ _ hnetworks => exact hold (hnetworks ▸ hid)
      | hub hreq hcall hserver _ hnet _ _ _ _ hnetworks hdevices =>
        rw [Table.get?_insert hnetworks] at hid
        split_ifs at hid with heq
        · refine ⟨_, heq ▸ hexist.hubId?_created hnetworks hnet hdevices, calls, [], c, _, _, _, _,
            rfl, hreq, hcall, heq, hserver.symm⟩
        · exact hold hid
    · refine ⟨hexist, fun id hid => ?_⟩
      obtain ⟨hub, hhub, hby⟩ := hcreated id hid
      exact ⟨hub, hhub, hlater hby⟩

/-- **In every state of a run the hubs are the devices that the networks were created with, and are
found, exactly if every request keeps the hubs**, whoever the users are. -/
theorem hubs_found_iff (users : Table User) (calls : List Call) :
    (∀ pre, pre <+: calls → ∀ network ∈ (run serve { users } pre).networks,
      ∃ hub, (run serve { users } pre).HubFound network.id hub ∧
        CreatedWith { users } pre network.id hub.id) ↔
      Admissible serve KeepsHubs { users } calls := by
  have hstart : Database.HubsNamed { users } :=
    { networks_exist := fun d hd => absurd hd List.not_mem_nil
      hub := fun id hid => by cases hid
      named := fun d hd => absurd hd List.not_mem_nil }
  have hstep : ∀ db c, Database.HubsNamed db → KeepsHubs db c → (serve db c).HubsNamed := by
    intro db c h hkeeps
    unfold serve
    split
    · rename_i db' hok
      exact h.handle hkeeps hok
    · exact h
  constructor
  · intro hfound
    refine admissible_of_forall_prefix serve hstep (fun db c h hkeeps => ?_) hstart
      (P := Database.HubsFound) fun pre hpre network hn => ?_
    · obtain ⟨db', hok⟩ : ∃ db', c.handle db = .ok db' := by
        by_contra hnone
        exact hkeeps fun haccepted => absurd haccepted hnone
      rw [serve, hok]
      exact h.not_found hkeeps hok
    · obtain ⟨hub, hhub, -⟩ := hfound pre hpre network hn
      exact ⟨hub, hhub⟩
  · intro hkeeps pre hpre network hn
    have h := run_invariant_of_admissible serve hstep hstart (hkeeps.of_prefix serve hpre)
    have hsome : ((run serve { users } pre).networks.get? network.id).isSome = true :=
      Option.isSome_of_eq_some (Table.get?_eq_some_iff.2 ⟨hn, rfl⟩)
    obtain ⟨hubId, hhub, hby⟩ := (createdWith_run users pre).2 _ hsome
    obtain ⟨hub, rfl, hfound⟩ := h.found hsome hhub
    exact ⟨hub, hfound, hby⟩

/-- A user creates a network and a pre-auth key, and a device enrolls under the hub's name. -/
def impostorCalls : List Call := officeCalls.take 2 ++ [
  { env := officeEnv, entropy := officeEntropy 4
    request := .enrollByKey
      { preauthKey := "midscale_key", name := serverName, publicKey := "key-l" } }]

/-- The device that enrolled is the last match of the hub's name, and the hub is the first one. -/
theorem enrolled_hub : ¬ ∀ pre, pre <+: impostorCalls →
    ∀ network ∈ (run serve { users := officeUsers } pre).networks,
      ∃ hub, (run serve { users := officeUsers } pre).HubFound network.id hub ∧
        CreatedWith { users := officeUsers } pre network.id hub.id := by
  intro h
  have hdiffer : ∃ network ∈ (run serve { users := officeUsers } impostorCalls).networks.rows,
      (((run serve { users := officeUsers } impostorCalls).plannedDevices network.id).find?
        (fun d => d.name = serverName)).map (fun d => d.id.str) ≠
      ((run serve { users := officeUsers } impostorCalls).buildDeviceStates network.id).2 := by
    decide +kernel
  obtain ⟨network, hn, hne⟩ := hdiffer
  obtain ⟨hub, hhub, -⟩ := h _ (List.prefix_refl _) network hn
  exact hne (by rw [hhub.first, hhub.last]; rfl)

end Midscale
