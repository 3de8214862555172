import Midscale.Api.Auth
import Midscale.Api.Ipam

/-!
# The networks endpoints

`app.api.v1.networks`: networks, the devices that users add to them, and pre-auth keys.  A handler
returns what it answers and the database after its commit; the audit entry of a deletion is written
before it, which is the same transaction.  Bodies are taken as they are: a body that the schema
rejects never reaches a handler, so what holds for all bodies holds for the valid ones.

* `OwnedTable`, `listOwned`, `createOwned`, `deleteOwned` : the tables of the rows of a network,
  with the handlers that they share.
* `createNetwork_eq_ok`, `updateNetwork_eq_ok`, `deleteNetwork_eq_ok` : what a request changes in
  the table of networks.
* `createDevice_eq_ok`, `createNodeDevice_eq_ok`, `createPreauthKey_eq_ok` : new rows.
-/

namespace Midscale

/-! ### Bodies -/

/-- `NetworkCreate`. -/
structure NetworkCreate where
  name : String
  subnet : String
  description : Option String := none
  interfaceName : Option String := none

/-- `NetworkUpdate`. -/
structure NetworkUpdate where
  name : Option String := none
  description : Option String := none
  interfaceName : Option String := none
  topology : Option String := none

/-- `DeviceCreate` and `NodeDeviceCreate`. -/
structure DeviceCreate where
  name : String
  dnsEnabled : Bool := true
  tags : List String := []

/-- `PreAuthKeyCreate`. -/
structure PreAuthKeyCreate where
  reusable : Bool := false
  expiresInHours : ℕ := 24

/-! ### Changes of the tables -/

/-- `session.add(row)` and a flush. -/
def Table.add {ρ κ : Type} [Row ρ κ] [DecidableEq κ] (t : Table ρ) (r : ρ) :
    Except ApiError (Table ρ) :=
  getOr (.internal "IntegrityError") (t.insert r)

theorem Table.add_eq_ok {ρ κ : Type} [Row ρ κ] [DecidableEq κ] {t t' : Table ρ} {r : ρ} :
    t.add r = .ok t' ↔ t.insert r = some t' := getOr_eq_ok

/-- The audit entry of something a user did. -/
def User.did (u : User) (action targetType : String) (target : Uuid) : AuditLog where
  actorId := some u.id.str
  actorType := "user"
  action := action
  targetType := targetType
  targetId := some target.str

/-- A new row of `devices`. -/
def Device.fresh (now : Timestamp) (id networkId : Uuid) (name : String) (userId : Option Uuid)
    (ip : String) : Device where
  id := id
  name := name
  userId := userId
  networkId := networkId
  ipAddress := some ip
  createdAt := now
  updatedAt := now

/-- `save_device_keys`. -/
def Device.withKeys (security : Security) (e : Entropy) (d : Device) : Device :=
  { d with
    privateKeyEnc := some (security.encryptPrivateKey e.nonce e.keyPair.privateKey)
    publicKey := some e.keyPair.publicKey }

/-! ### Rows of a network -/

/-- A table whose rows belong to networks. -/
structure OwnedTable (ρ : Type) [Row ρ Uuid] where
  get : Database → Table ρ
  put : Database → Table ρ → Database
  networkId : ρ → Uuid

def devicesTable : OwnedTable Device where
  get := Database.devices
  put db t := { db with devices := t }
  networkId := Device.networkId

def preauthKeysTable : OwnedTable PreAuthKey where
  get := Database.preauthKeys
  put db t := { db with preauthKeys := t }
  networkId := PreAuthKey.networkId

section Owned

variable {ρ : Type} [Row ρ Uuid] (T : OwnedTable ρ) (env : Env) (db : Database) (token : String)
  (networkId : Uuid)

/-- The owner's list of the rows of a network. -/
def listOwned (le : ρ → ρ → Prop) [DecidableRel le] : Except ApiError (List ρ) := do
  let user ← getCurrentUser env db token
  let _ ← requireNetworkOwner db networkId user
  .ok (((T.get db).select fun r => T.networkId r = networkId).insertionSort le)

/-- The owner adds a row to a network. -/
def createOwned (row : ρ) (action targetType : String) : Except ApiError (ρ × Database) := do
  let user ← getCurrentUser env db token
  let _ ← requireNetworkOwner db networkId user
  let rows ← (T.get db).add row
  .ok (row, (T.put db rows).audit (user.did action targetType (Row.pk row)))

/-- The row of a network that the owner names, or a 404. -/
def findOwned (missing : String) (id : Uuid) : Except ApiError ρ :=
  getOr (.http 404 missing) (((T.get db).get? id).filter fun r => T.networkId r = networkId)

/-- The owner deletes a row of a network. -/
def deleteOwned (missing action targetType : String) (id : Uuid) :
    Except ApiError (Unit × Database) := do
  let user ← getCurrentUser env db token
  let _ ← requireNetworkOwner db networkId user
  let _ ← findOwned T db networkId missing id
  let rows := (T.get db).delete fun r => Row.pk r = id
  .ok ((), (T.put db rows).audit (user.did action targetType id))

end Owned

/-! ### Handlers -/

section

variable (env : Env) (e : Entropy) (db : Database) (token : String)

/-- `filter_owned_networks`. -/
def filterOwnedNetworks (user : User) : List Network :=
  (db.networks.select fun n => user.isSuperuser ∨ n.ownerId = some user.id).insertionSort
    fun n n' => n.createdAt ≤ n'.createdAt

/-- `list_networks`. -/
def listNetworks : Except ApiError (List Network) := do
  let user ← getCurrentUser env db token
  .ok (filterOwnedNetworks db user)

/-- `get_network`. -/
def getNetwork (networkId : Uuid) : Except ApiError Network := do
  let user ← getCurrentUser env db token
  requireNetworkOwner db networkId user

/-- `create_network`. -/
def createNetwork (req : NetworkCreate) : Except ApiError (Network × Database) := do
  let user ← getCurrentUser env db token
  let network : Network :=
    { id := e.rowId
      name := req.name
      subnet := req.subnet
      description := req.description
      interfaceName := req.interfaceName
      ownerId := some user.id
      createdAt := env.now }
  let networks ← db.networks.add network
  let net ← getOr (.internal "ValueError") (IPv4Network.parse req.subnet)
  -- the hub gets the gateway address, which `allocate_ip` skips
  let serverIp ← getOr (.internal "IndexError") net.hostTexts.head?
  let server := (Device.fresh env.now e.serverId network.id serverName (some user.id) serverIp).withKeys
    env.security e
  let devices ← db.devices.add server
  let db := { db with networks := networks, devices := devices }
  .ok (network, db.audit (user.did "network.create" "network" network.id))

/-- The row after `update_network`. -/
def NetworkUpdate.apply (req : NetworkUpdate) (network : Network) : Network :=
  { network with
    name := req.name.getD network.name
    description := req.description <|> network.description
    interfaceName := req.interfaceName <|> network.interfaceName
    topology := match req.topology with
      | some t => if t ≠ "" then some t else none
      | none => network.topology }

theorem NetworkUpdate.pk_apply (req : NetworkUpdate) (network : Network) :
    Row.pk (req.apply network) = Row.pk network := rfl

/-- `update_network`. -/
def updateNetwork (networkId : Uuid) (req : NetworkUpdate) :
    Except ApiError (Network × Database) := do
  let user ← getCurrentUser env db token
  let network ← requireNetworkOwner db networkId user
  let db := { db with networks := db.networks.modify networkId req.apply req.pk_apply }
  .ok (req.apply network, db.audit (user.did "network.update" "network" networkId))

/-- What the foreign keys of the tables ask for before a device is deleted. -/
def Database.Unreferenced (db : Database) (deviceId : Uuid) : Prop :=
  (∀ d ∈ db.devices, d.id ≠ deviceId → d.exitNodeId ≠ some deviceId) ∧
    (∀ r ∈ db.routes, r.deviceId ≠ deviceId) ∧ (∀ e ∈ db.endpoints, e.deviceId ≠ deviceId) ∧
    (∀ s ∈ db.natSessions, s.initiatorDeviceId ≠ deviceId ∧ s.targetDeviceId ≠ deviceId) ∧
    ∀ s ∈ db.relaySessions, s.initiatorDeviceId ≠ deviceId ∧ s.targetDeviceId ≠ deviceId

instance (db : Database) (deviceId : Uuid) : Decidable (db.Unreferenced deviceId) :=
  inferInstanceAs (Decidable (_ ∧ _))

/-- The deletion of one device. -/
def Database.deleteDevice (db : Database) (deviceId : Uuid) : Except ApiError Database := do
  ensure (db.Unreferenced deviceId) (.internal "IntegrityError")
  .ok { db with devices := db.devices.delete fun d => d.id = deviceId }

/-- `delete_network`: the devices, rules, entries and keys of the network are deleted with it, the
devices one after another in the order of their ids; its routes are not. -/
def deleteNetwork (networkId : Uuid) : Except ApiError (Unit × Database) := do
  let user ← getCurrentUser env db token
  let _ ← requireNetworkOwner db networkId user
  let db := db.audit (user.did "network.delete" "network" networkId)
  let ids := (db.devices.select fun d => d.networkId = networkId).map (·.id)
  let db ← (ids.insertionSort fun i j => i.toNat ≤ j.toNat).foldlM Database.deleteDevice db
  ensure (∀ r ∈ db.routes, r.networkId ≠ networkId) (.internal "IntegrityError")
  .ok ((),
    { db with
      networks := db.networks.delete fun n => n.id = networkId
      aclRules := db.aclRules.delete fun r => r.networkId = networkId
      dnsEntries := db.dnsEntries.delete fun e => e.networkId = networkId
      preauthKeys := db.preauthKeys.delete fun k => k.networkId = networkId })

/-- `list_devices`. -/
def listDevices (networkId : Uuid) : Except ApiError (List Device) :=
  listOwned devicesTable env db token networkId fun d d' => d.createdAt ≤ d'.createdAt

/-- `create_device`. -/
def createDevice (networkId : Uuid) (req : DeviceCreate) :
    Except ApiError (Device × Database) := do
  let user ← getCurrentUser env db token
  let network ← requireNetworkOwner db networkId user
  let ip ← allocateIp db networkId network.subnet
  let device := { Device.fresh env.now e.rowId networkId req.name (some user.id) ip with
    dnsEnabled := req.dnsEnabled
    tags := some req.tags }
  let device := device.withKeys env.security e
  let devices ← db.devices.add device
  let db := { db with devices := devices }
  .ok (device, db.audit (user.did "device.create" "device" device.id))

/-- `create_node_device`. -/
def createNodeDevice (networkId : Uuid) (req : DeviceCreate) :
    Except ApiError (Device × Database) := do
  let user ← getCurrentUser env db token
  let network ← requireNetworkOwner db networkId user
  let ip ← allocateIp db networkId network.subnet
  let device := { Device.fresh env.now e.rowId networkId req.name (some user.id) ip with
    dnsEnabled := req.dnsEnabled
    tags := some req.tags
    isNodeOwned := true
    enrollmentStatus := "pending" }
  let devices ← db.devices.add device
  let db := { db with devices := devices }
  .ok (device, db.audit (user.did "device.create_node_owned" "device" device.id))

/-- `list_preauth_keys`. -/
def listPreauthKeys (networkId : Uuid) : Except ApiError (List PreAuthKey) :=
  listOwned preauthKeysTable env db token networkId fun k k' => k'.createdAt ≤ k.createdAt

/-- `create_preauth_key`. -/
def createPreauthKey (networkId : Uuid) (req : PreAuthKeyCreate) :
    Except ApiError (PreAuthKey × Database) := do
  let user ← getCurrentUser env db token
  let _ ← requireNetworkOwner db networkId user
  let key : PreAuthKey :=
    { id := e.rowId
      key := "midscale_" ++ e.preauthText
      networkId := networkId
      reusable := req.reusable
      expiresAt := env.now + Timestamp.seconds (req.expiresInHours * 3600)
      createdAt := env.now }
  -- the column `key` is unique
  ensure (∀ k ∈ db.preauthKeys, k.key ≠ key.key) (.internal "IntegrityError")
  let preauthKeys ← db.preauthKeys.add key
  let db := { db with preauthKeys := preauthKeys }
  .ok (key, db.audit (user.did "preauth_key.create" "preauth_key" key.id))

/-- `delete_preauth_key`. -/
def deletePreauthKey (networkId keyId : Uuid) : Except ApiError (Unit × Database) :=
  deleteOwned preauthKeysTable env db token networkId "Key not found" "preauth_key.delete"
    "preauth_key" keyId

end

/-! ### What they change -/

section

variable {env : Env} {e : Entropy} {db db' : Database} {token : String}

theorem requireNetworkOwner_eq_ok {networkId : Uuid} {user : User} {network : Network} :
    requireNetworkOwner db networkId user = .ok network ↔
      db.networks.get? networkId = some network ∧
        (user.isSuperuser = true ∨ network.ownerId = some user.id) := by
  simp only [requireNetworkOwner, bind_eq_ok, getOr_eq_ok, ensure_eq_ok, Except.ok.injEq]
  constructor
  · rintro ⟨n, hn, -, hown, rfl⟩
    exact ⟨hn, hown⟩
  · rintro ⟨hn, hown⟩
    exact ⟨network, hn, (), hown, rfl⟩

/-- A new network comes with its hub, which holds the first host address. -/
theorem createNetwork_eq_ok {req : NetworkCreate} {network : Network}
    (h : createNetwork env e db token req = .ok (network, db')) :
    ∃ user net ip networks devices,
      getCurrentUser env db token = .ok user ∧ IPv4Network.parse req.subnet = some net ∧
        net.hostTexts.head? = some ip ∧
        network =
          { id := e.rowId, name := req.name, subnet := req.subnet, description := req.description
            interfaceName := req.interfaceName, ownerId := some user.id, createdAt := env.now } ∧
        db.networks.insert network = some networks ∧
        db.devices.insert ((Device.fresh env.now e.serverId network.id serverName (some user.id)
          ip).withKeys env.security e) = some devices ∧
        db' = ({ db with networks := networks, devices := devices }.audit
          (user.did "network.create" "network" network.id)) := by
  simp only [createNetwork, bind_eq_ok, getOr_eq_ok, Table.add_eq_ok] at h
  obtain ⟨user, huser, networks, hnetworks, net, hnet, ip, hip, devices, hdevices, h⟩ := h
  cases h
  exact ⟨user, net, ip, networks, devices, huser, hnet, hip, rfl, hnetworks, hdevices, rfl⟩

/-- An update of a network leaves its subnet and its owner alone. -/
theorem updateNetwork_eq_ok {networkId : Uuid} {req : NetworkUpdate} {network : Network}
    (h : updateNetwork env db token networkId req = .ok (network, db')) : ∃ user n,
      getCurrentUser env db token = .ok user ∧ requireNetworkOwner db networkId user = .ok n ∧
        db' = ({ db with networks := db.networks.modify networkId req.apply req.pk_apply }.audit
          (user.did "network.update" "network" networkId)) := by
  simp only [updateNetwork, bind_eq_ok] at h
  obtain ⟨user, huser, n, hn, h⟩ := h
  cases h
  exact ⟨user, n, huser, hn, rfl⟩

/-- A new device holds an allocated address. -/
theorem createDevice_eq_ok {networkId : Uuid} {req : DeviceCreate} {device : Device}
    (h : createDevice env e db token networkId req = .ok (device, db')) :
    ∃ user network ip devices,
      getCurrentUser env db token = .ok user ∧ requireNetworkOwner db networkId user = .ok network ∧
        allocateIp db networkId network.subnet = .ok ip ∧
        device = { Device.fresh env.now e.rowId networkId req.name (some user.id) ip with
          dnsEnabled := req.dnsEnabled, tags := some req.tags }.withKeys env.security e ∧
        db.devices.insert device = some devices ∧
        db' = ({ db with devices := devices }.audit
          (user.did "device.create" "device" device.id)) := by
  simp only [createDevice, bind_eq_ok, Table.add_eq_ok] at h
  obtain ⟨user, huser, network, hnet, ip, hip, devices, hdevices, h⟩ := h
  cases h
  exact ⟨user, network, ip, devices, huser, hnet, hip, rfl, hdevices, rfl⟩

theorem createNodeDevice_eq_ok {networkId : Uuid} {req : DeviceCreate} {device : Device}
    (h : createNodeDevice env e db token networkId req = .ok (device, db')) :
    ∃ user network ip devices,
      getCurrentUser env db token = .ok user ∧ requireNetworkOwner db networkId user = .ok network ∧
        allocateIp db networkId network.subnet = .ok ip ∧
        device = { Device.fresh env.now e.rowId networkId req.name (some user.id) ip with
          dnsEnabled := req.dnsEnabled, tags := some req.tags, isNodeOwned := true
          enrollmentStatus := "pending" } ∧
        db.devices.insert device = some devices ∧
        db' = ({ db with devices := devices }.audit
          (user.did "device.create_node_owned" "device" device.id)) := by
  simp only [createNodeDevice, bind_eq_ok, Table.add_eq_ok] at h
  obtain ⟨user, huser, network, hnet, ip, hip, devices, hdevices, h⟩ := h
  cases h
  exact ⟨user, network, ip, devices, huser, hnet, hip, rfl, hdevices, rfl⟩

theorem createPreauthKey_eq_ok {networkId : Uuid} {req : PreAuthKeyCreate} {key : PreAuthKey}
    (h : createPreauthKey env e db token networkId req = .ok (key, db')) :
    ∃ user network preauthKeys,
      getCurrentUser env db token = .ok user ∧ requireNetworkOwner db networkId user = .ok network ∧
        key =
          { id := e.rowId, key := "midscale_" ++ e.preauthText, networkId := networkId
            reusable := req.reusable, createdAt := env.now
            expiresAt := env.now + Timestamp.seconds (req.expiresInHours * 3600) } ∧
        db.preauthKeys.insert key = some preauthKeys ∧
        db' = ({ db with preauthKeys := preauthKeys }.audit
          (user.did "preauth_key.create" "preauth_key" key.id)) := by
  simp only [createPreauthKey, bind_eq_ok, Table.add_eq_ok] at h
  obtain ⟨user, huser, network, hnet, -, -, keys, hkeys, h⟩ := h
  cases h
  exact ⟨user, network, keys, huser, hnet, rfl, hkeys, rfl⟩

/-- The deletion of devices in order leaves the other devices and the other tables alone. -/
theorem Database.foldlM_deleteDevice {ids : List Uuid}
    (h : ids.foldlM Database.deleteDevice db = .ok db') :
    db' = { db with devices := db.devices.delete fun d => d.id ∈ ids } ∧
      ∀ r ∈ db.routes, r.deviceId ∉ ids := by
  induction ids generalizing db with
  | nil =>
    obtain rfl : db = db' := Except.ok.inj h
    refine ⟨?_, fun _ _ => List.not_mem_nil⟩
    have hnil : (db.devices.delete fun d => d.id ∈ ([] : List Uuid)) = db.devices := by
      refine Table.ext_rows ?_
      simp [Table.delete]
    rw [hnil]
  | cons i ids ih =>
    obtain ⟨db₁, hdelete, h⟩ := bind_eq_ok.1 h
    obtain ⟨_, href, hdelete⟩ := bind_eq_ok.1 hdelete
    rw [ensure_eq_ok] at href
    cases hdelete
    obtain ⟨rfl, hroutes⟩ := ih h
    constructor
    · have hboth : ((db.devices.delete fun d => d.id = i).delete fun d => d.id ∈ ids) =
          db.devices.delete fun d => d.id ∈ i :: ids := by
        refine Table.ext_rows ?_
        simp only [Table.delete, List.filter_filter]
        refine List.filter_congr fun d _ => ?_
        by_cases hi : d.id = i
        · simp [hi]
        · simp [hi]
      rw [← hboth]
    · intro r hr
      rw [List.mem_cons, not_or]
      exact ⟨href.2.1 r hr, hroutes r hr⟩

/-- A network is deleted with its rows, and only when no route refers to it or to a device of it. -/
theorem deleteNetwork_eq_ok {networkId : Uuid}
    (h : deleteNetwork env db token networkId = .ok ((), db')) : ∃ user network,
      getCurrentUser env db token = .ok user ∧ requireNetworkOwner db networkId user = .ok network ∧
        (∀ r ∈ db.routes, r.networkId ≠ networkId ∧
          ∀ d ∈ db.devices, d.networkId = networkId → r.deviceId ≠ d.id) ∧
        db' = { db.audit (user.did "network.delete" "network" networkId) with
          networks := db.networks.delete fun n => n.id = networkId
          devices := db.devices.delete fun d => d.networkId = networkId
          aclRules := db.aclRules.delete fun r => r.networkId = networkId
          dnsEntries := db.dnsEntries.delete fun e => e.networkId = networkId
          preauthKeys := db.preauthKeys.delete fun k => k.networkId = networkId } := by
  simp only [deleteNetwork, bind_eq_ok, ensure_eq_ok] at h
  obtain ⟨user, huser, network, hnet, db₁, hdelete, -, hroutes, h⟩ := h
  cases h
  obtain ⟨rfl, hids⟩ := Database.foldlM_deleteDevice hdelete
  refine ⟨user, network, huser, hnet, fun r hr => ⟨hroutes r hr, fun d hd hnet heq => ?_⟩, ?_⟩
  · refine hids r hr ?_
    rw [List.mem_insertionSort, heq]
    exact List.mem_map_of_mem (Table.mem_select.2 ⟨hd, decide_eq_true hnet⟩)
  · have hdevices : (db.devices.delete fun d => d.id ∈
        ((db.devices.select fun d => d.networkId = networkId).map (·.id)).insertionSort
          fun i j => i.toNat ≤ j.toNat) = db.devices.delete fun d => d.networkId = networkId := by
      refine Table.ext_rows (List.filter_congr fun d hd => ?_)
      refine congrArg not (decide_eq_decide.2 ?_)
      rw [List.mem_insertionSort, List.mem_map]
      constructor
      · rintro ⟨d', hd', hid⟩
        obtain ⟨hmem, hnet'⟩ := Table.mem_select.1 hd'
        exact db.devices.eq_of_pk hmem hd hid ▸ of_decide_eq_true hnet'
      · exact fun hnet' => ⟨d, Table.mem_select.2 ⟨hd, decide_eq_true hnet'⟩, rfl⟩
    rw [← hdevices]
    rfl

section Owned

variable {ρ : Type} [Row ρ Uuid] {T : OwnedTable ρ} {networkId : Uuid}

theorem listOwned_eq_ok {le : ρ → ρ → Prop} [DecidableRel le] {rows : List ρ} :
    listOwned T env db token networkId le = .ok rows ↔ ∃ user network,
      getCurrentUser env db token = .ok user ∧ requireNetworkOwner db networkId user = .ok network ∧
        rows = ((T.get db).select fun r => T.networkId r = networkId).insertionSort le := by
  simp only [listOwned, bind_eq_ok, Except.ok.injEq]
  constructor
  · rintro ⟨user, huser, network, hnet, rfl⟩
    exact ⟨user, network, huser, hnet, rfl⟩
  · rintro ⟨user, network, huser, hnet, rfl⟩
    exact ⟨user, huser, network, hnet, rfl⟩

theorem createOwned_eq_ok {row row' : ρ} {action targetType : String}
    (h : createOwned T env db token networkId row action targetType = .ok (row', db')) :
    ∃ user network rows,
      getCurrentUser env db token = .ok user ∧ requireNetworkOwner db networkId user = .ok network ∧
        (T.get db).insert row = some rows ∧
        db' = (T.put db rows).audit (user.did action targetType (Row.pk row)) := by
  simp only [createOwned, bind_eq_ok, Table.add_eq_ok] at h
  obtain ⟨user, huser, network, hnet, rows, hrows, h⟩ := h
  cases h
  exact ⟨user, network, rows, huser, hnet, hrows, rfl⟩

theorem findOwned_eq_ok {missing : String} {id : Uuid} {row : ρ} :
    findOwned T db networkId missing id = .ok row ↔
      (T.get db).get? id = some row ∧ T.networkId row = networkId := by
  rw [findOwned, getOr_eq_ok, Option.filter_eq_some_iff, decide_eq_true_eq]

theorem deleteOwned_eq_ok {missing action targetType : String} {id : Uuid}
    (h : deleteOwned T env db token networkId missing action targetType id = .ok ((), db')) :
    ∃ user network row,
      getCurrentUser env db token = .ok user ∧ requireNetworkOwner db networkId user = .ok network ∧
        (T.get db).get? id = some row ∧ T.networkId row = networkId ∧
        db' = (T.put db ((T.get db).delete fun r => Row.pk r = id)).audit
          (user.did action targetType id) := by
  simp only [deleteOwned, bind_eq_ok, findOwned_eq_ok] at h
  obtain ⟨user, huser, network, hnet, row, ⟨hrow, hid⟩, h⟩ := h
  cases h
  exact ⟨user, network, row, huser, hnet, hrow, hid, rfl⟩

end Owned

end

end Midscale
