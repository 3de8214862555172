import Midscale.Api.Devices

/-!
# Requests one after another

Requests that touch networks and devices, executed one after another, each in its own transaction:
a request that fails changes nothing.

* `serve` : one request.
* `Change`, `Call.handle_change` : **what a request that succeeds can do to networks and devices**,
  from which every invariant of runs follows.
-/

namespace Midscale

/-- The requests that touch networks and devices. -/
inductive Request where
  | createNetwork (token : String) (req : NetworkCreate)
  | updateNetwork (token : String) (networkId : Uuid) (req : NetworkUpdate)
  | createPreauthKey (token : String) (networkId : Uuid) (req : PreAuthKeyCreate)
  | createDevice (token : String) (networkId : Uuid) (req : DeviceCreate)
  | createNodeDevice (token : String) (networkId : Uuid) (req : DeviceCreate)
  | updateDevice (token : String) (deviceId : Uuid) (req : DeviceUpdate)
  | enrollDevice (token : String) (deviceId : Uuid) (req : EnrollRequest)
  | enrollByKey (req : EnrollByKeyRequest)
  | registerDevice (req : DeviceRegisterRequest)
  | heartbeat (token : String) (deviceId : Uuid) (req : HeartbeatRequest)
  | revokeDevice (token : String) (deviceId : Uuid)

/-- A request with the environment it is executed in and what it draws at random. -/
structure Call where
  env : Env
  entropy : Entropy
  request : Request

/-- The database after the request, if it succeeds. -/
def Call.handle (c : Call) (db : Database) : Except ApiError Database :=
  match c.request with
  | .createNetwork token req => Prod.snd <$> createNetwork c.env c.entropy db token req
  | .updateNetwork token id req => Prod.snd <$> updateNetwork c.env db token id req
  | .createPreauthKey token id req => Prod.snd <$> createPreauthKey c.env c.entropy db token id req
  | .createDevice token id req => Prod.snd <$> createDevice c.env c.entropy db token id req
  | .createNodeDevice token id req => Prod.snd <$> createNodeDevice c.env c.entropy db token id req
  | .updateDevice token id req => Prod.snd <$> updateDevice c.env db token id req
  | .enrollDevice token id req => Prod.snd <$> enrollDevice c.env c.entropy db token id req
  | .enrollByKey req => Prod.snd <$> enrollByKey c.env c.entropy db req
  | .registerDevice req => Prod.snd <$> registerDevice c.env c.entropy db req
  | .heartbeat token id req => Prod.snd <$> deviceHeartbeat c.env db token id req
  | .revokeDevice token id => Prod.snd <$> revokeDevice c.env db token id

/-- A request in its transaction, which is rolled back when the request fails. -/
def serve (db : Database) (c : Call) : Database :=
  match c.handle db with
  | .ok db' => db'
  | .error _ => db

/-! ### What a request can do -/

/-- The request is a heartbeat or an enrollment that is accepted for the device, with this address
in its body. -/
inductive Call.Gives (c : Call) (db : Database) (d : Device) : Option String → Prop
  | heartbeat {token : String} {deviceId : Uuid} {req : HeartbeatRequest}
      (hreq : c.request = .heartbeat token deviceId req)
      (hd : getCurrentDeviceById c.env db deviceId token = .ok d) : c.Gives db d req.ipAddress
  | enrollment {token : String} {deviceId : Uuid} {req : EnrollRequest} {user : User}
      (hreq : c.request = .enrollDevice token deviceId req)
      (huser : getCurrentUser c.env db token = .ok user)
      (hd : db.devices.get? deviceId = some d) (howner : requireDeviceOwner db d user = .ok ())
      (howned : d.isNodeOwned = true) (hpending : d.enrollmentStatus = "pending") :
      c.Gives db d req.ipAddress

/-- The changes of networks and devices. -/
inductive Change (c : Call) (db db' : Database) : Prop
  /-- The devices and the subnets stay. -/
  | keptDevices (hdevices : db'.devices = db.devices)
      (hsubnets : ∀ id, (db'.networks.get? id).map (·.subnet) =
        (db.networks.get? id).map (·.subnet))
  /-- A network is added with its hub. -/
  | created {network : Network} {net : IPv4Network} {ip : String} {server : Device}
      (hnet : IPv4Network.parse network.subnet = some net) (hip : net.hostTexts.head? = some ip)
      (hname : server.name = serverName) (hid : server.networkId = network.id)
      (haddr : server.ipAddress = some ip)
      (hnetworks : db.networks.insert network = some db'.networks)
      (hdevices : db.devices.insert server = some db'.devices)
  /-- A device is added with an allocated address. -/
  | allocated {network : Network} {device : Device} {ip : String}
      (hn : db.networks.get? device.networkId = some network)
      (hip : allocateIp db device.networkId network.subnet = .ok ip)
      (haddr : device.ipAddress = some ip) (hnetworks : db'.networks = db.networks)
      (hdevices : db.devices.insert device = some db'.devices)
  /-- A device is assigned to: it keeps its network, and its address or takes the one given. -/
  | assigned {now : Timestamp} {deviceId : Uuid} (f : Device → Device)
      {hf : ∀ d, (f d).id = d.id} {d : Device} (hd : db.devices.get? deviceId = some d)
      (hnet : ∀ d, (f d).networkId = d.networkId)
      (hgiven : (f d).ipAddress = d.ipAddress ∨
        truthy (f d).ipAddress = true ∧ c.Gives db d (f d).ipAddress)
      (hnetworks : db'.networks = db.networks)
      (hdevices : db'.devices = (db.assign now deviceId f hf).devices)

theorem Change.of_insert {c : Call} {db db' : Database} {network : Network} {device : Device}
    {ip : String} {devices : Table Device} (hinsert : db.devices.insert device = some devices)
    (hdevices : db'.devices = devices) (hn : db.networks.get? device.networkId = some network)
    (hip : allocateIp db device.networkId network.subnet = .ok ip)
    (haddr : device.ipAddress = some ip) (hnetworks : db'.networks = db.networks) :
    Change c db db' :=
  .allocated hn hip haddr hnetworks (hdevices ▸ hinsert)

/-- **What a request that succeeds can do.** -/
theorem Call.handle_change {db db' : Database} (c : Call) (hok : c.handle db = .ok db') :
    Change c db db' := by
  obtain ⟨env, e, request⟩ := c
  unfold handle at hok
  cases request with
  | createNetwork token req =>
    obtain ⟨network, hok⟩ := snd_map_eq_ok.1 hok
    obtain ⟨user, net, ip, networks, devices, -, hnet, hip, rfl, hnetworks, hdevices, rfl⟩ :=
      createNetwork_eq_ok hok
    refine .created ?_ hip ?_ ?_ ?_ hnetworks hdevices
    · exact hnet
    all_goals rfl
  | updateNetwork token networkId req =>
    obtain ⟨network, hok⟩ := snd_map_eq_ok.1 hok
    obtain ⟨user, n, -, -, rfl⟩ := updateNetwork_eq_ok hok
    refine .keptDevices rfl fun id => ?_
    have hsubnet : (fun n : Network => (if n.id = networkId then req.apply n else n).subnet) =
        Network.subnet := by
      funext n
      split_ifs <;> rfl
    rw [Database.audit, Table.get?_modify, Option.map_map]
    exact congrArg (fun g => Option.map g (db.networks.get? id)) hsubnet
  | createPreauthKey token networkId req =>
    obtain ⟨key, hok⟩ := snd_map_eq_ok.1 hok
    obtain ⟨user, n, keys, -, -, rfl, -, rfl⟩ := createPreauthKey_eq_ok hok
    exact .keptDevices rfl fun id => rfl
  | createDevice token networkId req =>
    obtain ⟨device, hok⟩ := snd_map_eq_ok.1 hok
    obtain ⟨user, network, ip, devices, -, hn, hip, rfl, hdevices, rfl⟩ := createDevice_eq_ok hok
    exact .of_insert hdevices rfl (requireNetworkOwner_eq_ok.1 hn).1 hip rfl rfl
  | createNodeDevice token networkId req =>
    obtain ⟨device, hok⟩ := snd_map_eq_ok.1 hok
    obtain ⟨user, network, ip, devices, -, hn, hip, rfl, hdevices, rfl⟩ :=
      createNodeDevice_eq_ok hok
    exact .of_insert hdevices rfl (requireNetworkOwner_eq_ok.1 hn).1 hip rfl rfl
  | enrollByKey req =>
    obtain ⟨response, hok⟩ := snd_map_eq_ok.1 hok
    obtain ⟨preauth, network, ip, devices, -, -, hn, hip, hdevices, -, -, rfl⟩ :=
      enrollByKey_eq_ok hok
    exact .of_insert hdevices rfl hn hip rfl rfl
  | registerDevice req =>
    obtain ⟨device, hok⟩ := snd_map_eq_ok.1 hok
    obtain ⟨preauth, network, ip, devices, -, hn, hip, rfl, hdevices, rfl⟩ :=
      registerDevice_eq_ok hok
    exact .of_insert hdevices rfl hn hip rfl rfl
  | updateDevice token deviceId req =>
    obtain ⟨device, hok⟩ := snd_map_eq_ok.1 hok
    obtain ⟨user, d, -, hd, -, rfl⟩ := updateDevice_eq_ok hok
    exact .assigned req.apply hd (fun _ => rfl) (.inl rfl) rfl (Database.audit_devices ..)
  | revokeDevice token deviceId =>
    obtain ⟨_, hok⟩ := snd_map_eq_ok.1 hok
    obtain ⟨user, d, -, hd, -, rfl⟩ := revokeDevice_eq_ok hok
    exact .assigned (Device.revoked env.now) hd (fun _ => rfl) (.inl rfl) rfl
      (Database.audit_devices ..)
  | heartbeat token deviceId req =>
    obtain ⟨response, hok⟩ := snd_map_eq_ok.1 hok
    obtain ⟨d, hd, rfl⟩ := deviceHeartbeat_eq_ok hok
    refine .assigned (req.apply env.now) (getCurrentDeviceById_eq_ok hd) (fun _ => rfl) ?_ rfl rfl
    dsimp only [HeartbeatRequest.apply]
    split_ifs with hnew
    · exact .inr ⟨(of_decide_eq_true hnew).1, .heartbeat rfl hd⟩
    · exact .inl rfl
  | enrollDevice token deviceId req =>
    obtain ⟨response, hok⟩ := snd_map_eq_ok.1 hok
    obtain ⟨user, d, huser, hd, howner, howned, hpending, -, rfl⟩ := enrollDevice_eq_ok hok
    refine .assigned (req.apply env e) hd (fun _ => rfl) ?_ rfl (Database.audit_devices ..)
    dsimp only [EnrollRequest.apply]
    split_ifs with hnew
    · exact .inr ⟨hnew, .enrollment rfl huser hd howner howned hpending⟩
    · exact .inl rfl

end Midscale
