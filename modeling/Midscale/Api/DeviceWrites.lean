import Midscale.Api.Addresses

/-!
# What requests write to devices

The columns that tell devices apart, their names and public keys, as the requests write them: a
request adds one device, assigns to one device, or leaves the devices alone.

* `Request.newName?`, `Call.newKey?`, `Call.assignment?` : what a request writes, read off its body.
* `DeviceWrite`, `Call.handle_write` : **what a request that succeeds does to the devices.**
-/

namespace Midscale

/-- The name of the device that a client adds with the request. -/
def Request.newName? : Request → Option String
  | .createDevice _ _ req | .createNodeDevice _ _ req => some req.name
  | .enrollByKey req => some req.name
  | .registerDevice req => some req.name
  | _ => none

/-- The public key of the device that the request adds: generated, or chosen by the client. -/
def Call.newKey? (c : Call) : Option String :=
  match c.request with
  | .createNetwork .. | .createDevice .. | .registerDevice _ => some c.entropy.keyPair.publicKey
  | .enrollByKey req => some req.publicKey
  | _ => none

/-- The device that the request assigns to, with the assignments. -/
def Call.assignment? (c : Call) : Option (Uuid × (Device → Device)) :=
  match c.request with
  | .updateDevice _ id req => some (id, req.apply)
  | .enrollDevice _ id req => some (id, req.apply c.env c.entropy)
  | .heartbeat _ id req => some (id, req.apply c.env.now)
  | .revokeDevice _ id => some (id, Device.revoked c.env.now)
  | _ => none

/-- What a request writes to the devices. -/
inductive DeviceWrite (c : Call) (db db' : Database) : Prop
  /-- The devices stay, and the networks there are. -/
  | kept (hname : c.request.newName? = none) (hassign : c.assignment? = none)
      (hdevices : db'.devices = db.devices)
      (hnetworks : ∀ id, (db'.networks.get? id).isSome = (db.networks.get? id).isSome)
  /-- A network is added with its hub. -/
  | hub {token : String} {req : NetworkCreate} {network : Network} {server : Device}
      (hreq : c.request = .createNetwork token req)
      (hcreated : createNetwork c.env c.entropy db token req = .ok (network, db'))
      (hid : server.id = c.entropy.serverId) (hserver : server.name = serverName)
      (hnet : server.networkId = network.id) (hactive : server.isActive = true)
      (haddr : server.ipAddress.isSome = true) (hkey : server.publicKey = c.newKey?)
      (hsome : server.publicKey.isSome = true)
      (hnetworks : db.networks.insert network = some db'.networks)
      (hdevices : db.devices.insert server = some db'.devices)
  /-- A device is added to a network. -/
  | added {device : Device} (hname : c.request.newName? = some device.name)
      (hassign : c.assignment? = none) (hkey : device.publicKey = c.newKey?)
      (hnet : (db.networks.get? device.networkId).isSome = true)
      (hnetworks : db'.networks = db.networks)
      (hdevices : db.devices.insert device = some db'.devices)
  /-- A device is assigned to. -/
  | assigned {deviceId : Uuid} {f : Device → Device} {hf : ∀ d, (f d).id = d.id} {d : Device}
      (hname : c.request.newName? = none) (hassign : c.assignment? = some (deviceId, f))
      (hd : db.devices.get? deviceId = some d) (hnetworks : db'.networks = db.networks)
      (hdevices : db'.devices = (db.assign c.env.now deviceId f hf).devices)

theorem Call.assignment?_networkId {c : Call} {deviceId : Uuid} {f : Device → Device}
    (h : c.assignment? = some (deviceId, f)) (d : Device) : (f d).networkId = d.networkId := by
  obtain ⟨env, e, request⟩ := c
  unfold assignment? at h
  split at h
  all_goals cases h
  all_goals rfl

/-- Assignments leave no device without a key or an address. -/
theorem Call.assignment?_isSome {c : Call} {deviceId : Uuid} {f : Device → Device}
    (h : c.assignment? = some (deviceId, f)) {d : Device} (hkey : d.publicKey.isSome = true)
    (haddr : d.ipAddress.isSome = true) :
    (f d).publicKey.isSome = true ∧ (f d).ipAddress.isSome = true := by
  have hsome : ∀ {o : Option String}, truthy o = true → o.isSome = true := by
    intro o ho
    cases o with
    | none => cases ho
    | some s => rfl
  obtain ⟨env, e, request⟩ := c
  cases request with
  | updateDevice token id req =>
    cases h
    exact ⟨hkey, haddr⟩
  | revokeDevice token id =>
    cases h
    exact ⟨hkey, haddr⟩
  | enrollDevice token id req =>
    cases h
    refine ⟨rfl, ?_⟩
    dsimp only [EnrollRequest.apply]
    split_ifs with hip
    · exact hsome hip
    · exact haddr
  | heartbeat token id req =>
    cases h
    dsimp only [HeartbeatRequest.apply]
    constructor
    · split_ifs with hnew
      · exact hsome (of_decide_eq_true hnew).1
      · exact hkey
    · split_ifs with hnew
      · exact hsome (of_decide_eq_true hnew).1
      · exact haddr
  | _ => cases h

/-- **What a request that succeeds does to the devices.** -/
theorem Call.handle_write {db db' : Database} (c : Call) (hok : c.handle db = .ok db') :
    DeviceWrite c db db' := by
  obtain ⟨env, e, request⟩ := c
  unfold handle at hok
  cases request with
  | createNetwork token req =>
    obtain ⟨network, hok⟩ := snd_map_eq_ok.1 hok
    obtain ⟨user, net, ip, networks, devices, -, -, -, rfl, hnetworks, hdevices, rfl⟩ :=
      createNetwork_eq_ok hok
    refine .hub rfl hok ?_ ?_ ?_ ?_ ?_ ?_ ?_ hnetworks hdevices
    all_goals rfl
  | updateNetwork token networkId req =>
    obtain ⟨network, hok⟩ := snd_map_eq_ok.1 hok
    obtain ⟨user, n, -, -, rfl⟩ := updateNetwork_eq_ok hok
    refine .kept rfl rfl rfl fun id => ?_
    rw [Database.audit, Table.get?_modify, Option.isSome_map]
  | createPreauthKey token networkId req =>
    obtain ⟨key, hok⟩ := snd_map_eq_ok.1 hok
    obtain ⟨user, n, keys, -, -, rfl, -, rfl⟩ := createPreauthKey_eq_ok hok
    exact .kept rfl rfl rfl fun id => rfl
  | createDevice token networkId req =>
    obtain ⟨device, hok⟩ := snd_map_eq_ok.1 hok
    obtain ⟨user, network, ip, devices, -, hn, -, rfl, hdevices, rfl⟩ := createDevice_eq_ok hok
    refine .added rfl rfl rfl ?_ rfl hdevices
    exact Option.isSome_of_eq_some (requireNetworkOwner_eq_ok.1 hn).1
  | createNodeDevice token networkId req =>
    obtain ⟨device, hok⟩ := snd_map_eq_ok.1 hok
    obtain ⟨user, network, ip, devices, -, hn, -, rfl, hdevices, rfl⟩ :=
      createNodeDevice_eq_ok hok
    refine .added rfl rfl rfl ?_ rfl hdevices
    exact Option.isSome_of_eq_some (requireNetworkOwner_eq_ok.1 hn).1
  | enrollByKey req =>
    obtain ⟨response, hok⟩ := snd_map_eq_ok.1 hok
    obtain ⟨preauth, network, ip, devices, -, -, hn, -, hdevices, -, -, rfl⟩ :=
      enrollByKey_eq_ok hok
    exact .added rfl rfl rfl (Option.isSome_of_eq_some hn) rfl hdevices
  | registerDevice req =>
    obtain ⟨device, hok⟩ := snd_map_eq_ok.1 hok
    obtain ⟨preauth, network, ip, devices, -, hn, -, rfl, hdevices, rfl⟩ :=
      registerDevice_eq_ok hok
    exact .added rfl rfl rfl (Option.isSome_of_eq_some hn) rfl hdevices
  | updateDevice token deviceId req =>
    obtain ⟨device, hok⟩ := snd_map_eq_ok.1 hok
    obtain ⟨user, d, -, hd, -, rfl⟩ := updateDevice_eq_ok hok
    exact .assigned rfl rfl hd rfl (Database.audit_devices ..)
  | enrollDevice token deviceId req =>
    obtain ⟨response, hok⟩ := snd_map_eq_ok.1 hok
    obtain ⟨user, d, -, hd, -, -, -, -, rfl⟩ := enrollDevice_eq_ok hok
    exact .assigned rfl rfl hd rfl (Database.audit_devices ..)
  | heartbeat token deviceId req =>
    obtain ⟨response, hok⟩ := snd_map_eq_ok.1 hok
    obtain ⟨d, hd, rfl⟩ := deviceHeartbeat_eq_ok hok
    exact .assigned rfl rfl (getCurrentDeviceById_eq_ok hd) rfl rfl
  | revokeDevice token deviceId =>
    obtain ⟨_, hok⟩ := snd_map_eq_ok.1 hok
    obtain ⟨user, d, -, hd, -, rfl⟩ := revokeDevice_eq_ok hok
    exact .assigned rfl rfl hd rfl (Database.audit_devices ..)

end Midscale
