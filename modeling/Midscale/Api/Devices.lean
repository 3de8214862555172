import Midscale.Api.Networks
import Midscale.Config.V2

/-!
# The devices endpoints

`app.api.v1.devices` and `app.services.daemon.process_heartbeat`: updates by the owner, enrollment,
heartbeats and revocation.  As for networks, a handler returns its response and the database after
its commit; what is published on the event bus is left out.

* `updateDevice_eq_ok`, `revokeDevice_eq_ok` : requests that leave addresses alone.
* `enrollByKey_eq_ok`, `registerDevice_eq_ok` : a new device with an allocated address.
* `deviceHeartbeat_eq_ok`, `enrollDevice_eq_ok` : requests that write the address they are given.
-/

namespace Midscale

/-! ### Bodies and responses -/

/-- `DeviceUpdate`. -/
structure DeviceUpdate where
  name : Option String := none
  dnsEnabled : Option Bool := none
  isActive : Option Bool := none
  tags : Option (List String) := none
  enrollmentStatus : Option String := none
  exitNodeId : Option Uuid := none

/-- `HeartbeatRequest`. -/
structure HeartbeatRequest where
  publicKey : Option String := none
  ipAddress : Option String := none

/-- `EnrollRequest`. -/
structure EnrollRequest where
  publicKey : String
  ipAddress : Option String := none

/-- `EnrollByKeyRequest`, as far as it is used. -/
structure EnrollByKeyRequest where
  preauthKey : String
  name : String
  publicKey : String

/-- `DeviceRegisterRequest`. -/
structure DeviceRegisterRequest where
  key : String
  name : String

/-- What `process_heartbeat` returns. -/
structure HeartbeatResponse where
  status : String := "ok"
  deviceId : String
  lastHeartbeat : String
  configUrl : String
  deriving DecidableEq, Repr

/-- `EnrollResponse`. -/
structure EnrollResponse where
  deviceId : Uuid
  deviceToken : String
  status : String := "active"
  deriving DecidableEq, Repr

/-- `EnrollByKeyResponse`. -/
structure EnrollByKeyResponse where
  deviceId : Uuid
  deviceToken : String
  networkId : Uuid
  ipAddress : String
  configV2 : DeviceConfigV2Response
  deriving DecidableEq, Repr

/-! ### Changes of rows -/

/-- `generate_device_token`: the token, its prefix and the hash of its secret. -/
def generateDeviceToken (security : Security) (e : Entropy) : String × String × String :=
  let pfx := String.ofList (e.rawPrefix.toList.take 8)
  (tokenPrefix ++ pfx ++ "_" ++ e.secret, pfx, security.hashPassword e.salt e.secret)

/-- A flush of assignments to a device: `updated_at` changes with the row. -/
def Device.flushed (now : Timestamp) (f : Device → Device) (d : Device) : Device :=
  if f d = d then d else { f d with updatedAt := now }

theorem Device.flushed_column {α : Type} (now : Timestamp) (f : Device → Device) (d : Device)
    (column : Device → α) (h : ∀ d t, column { d with updatedAt := t } = column d) :
    column (d.flushed now f) = column (f d) := by
  unfold flushed
  split_ifs with hf
  · rw [hf]
  · exact h _ _

@[simp] theorem Device.flushed_id (now : Timestamp) (f : Device → Device) (d : Device) :
    (d.flushed now f).id = (f d).id := d.flushed_column now f Device.id fun _ _ => rfl

@[simp] theorem Device.flushed_networkId (now : Timestamp) (f : Device → Device) (d : Device) :
    (d.flushed now f).networkId = (f d).networkId :=
  d.flushed_column now f Device.networkId fun _ _ => rfl

@[simp] theorem Device.flushed_ipAddress (now : Timestamp) (f : Device → Device) (d : Device) :
    (d.flushed now f).ipAddress = (f d).ipAddress :=
  d.flushed_column now f Device.ipAddress fun _ _ => rfl

@[simp] theorem Device.flushed_name (now : Timestamp) (f : Device → Device) (d : Device) :
    (d.flushed now f).name = (f d).name := d.flushed_column now f Device.name fun _ _ => rfl

@[simp] theorem Device.flushed_publicKey (now : Timestamp) (f : Device → Device) (d : Device) :
    (d.flushed now f).publicKey = (f d).publicKey :=
  d.flushed_column now f Device.publicKey fun _ _ => rfl

@[simp] theorem Device.flushed_isActive (now : Timestamp) (f : Device → Device) (d : Device) :
    (d.flushed now f).isActive = (f d).isActive :=
  d.flushed_column now f Device.isActive fun _ _ => rfl

/-- Assignments to the columns of one device that keep its id, and a flush. -/
def Database.assign (db : Database) (now : Timestamp) (deviceId : Uuid) (f : Device → Device)
    (hf : ∀ d, (f d).id = d.id) : Database :=
  { db with
    devices := db.devices.modify deviceId (Device.flushed now f) fun d =>
      (Device.flushed_id now f d).trans (hf d) }

/-- The row after `update_device`. -/
def DeviceUpdate.apply (req : DeviceUpdate) (d : Device) : Device :=
  { d with
    name := req.name.getD d.name
    dnsEnabled := req.dnsEnabled.getD d.dnsEnabled
    isActive := req.isActive.getD d.isActive
    tags := req.tags <|> d.tags
    enrollmentStatus := req.enrollmentStatus.getD d.enrollmentStatus
    exitNodeId := req.exitNodeId <|> d.exitNodeId }

/-- The row after `process_heartbeat`. -/
def HeartbeatRequest.apply (req : HeartbeatRequest) (now : Timestamp) (d : Device) : Device :=
  let newKey : Bool := truthy req.publicKey ∧ req.publicKey ≠ d.publicKey
  -- a non-empty address is taken from the body without a check
  let newAddress : Bool := truthy req.ipAddress ∧ req.ipAddress ≠ d.ipAddress
  { d with
    lastSeenAt := some now
    publicKey := if newKey then req.publicKey else d.publicKey
    ipAddress := if newAddress then req.ipAddress else d.ipAddress
    updatedAt := if newKey ∨ newAddress then now else d.updatedAt }

/-- The row after `enroll_device`. -/
def EnrollRequest.apply (req : EnrollRequest) (env : Env) (e : Entropy) (d : Device) : Device :=
  let (_, pfx, hashedSecret) := generateDeviceToken env.security e
  { d with
    publicKey := some req.publicKey
    ipAddress := if truthy req.ipAddress then req.ipAddress else d.ipAddress
    deviceTokenHash := some hashedSecret
    deviceTokenPrefix := some pfx
    enrollmentStatus := "active"
    enrolledAt := some env.now }

/-- The row after `rotate_device_token`: the prefix stays when there is one. -/
def Device.rotated (security : Security) (e : Entropy) (d : Device) : Device :=
  let (_, pfx, hashedSecret) := generateDeviceToken security e
  { d with
    deviceTokenHash := some hashedSecret
    deviceTokenPrefix := if truthy d.deviceTokenPrefix then d.deviceTokenPrefix else some pfx }

/-! ### Handlers -/

/-- The owner check of the device endpoints. -/
def requireDeviceOwner (db : Database) (device : Device) (user : User) : Except ApiError Unit :=
  ensure (user.isSuperuser ∨
      ((db.networks.get? device.networkId).bind (·.ownerId)) = some user.id)
    (.http 403 "Access denied: you do not own this device's network")

section

variable (env : Env) (e : Entropy) (db : Database)

/-- `list_all_devices`. -/
def listAllDevices (token : String) : Except ApiError (List Device) := do
  let user ← getCurrentUser env db token
  .ok ((db.devices.select fun d => user.isSuperuser ∨ d.userId = some user.id).insertionSort
    fun d d' => d.createdAt ≤ d'.createdAt)

/-- `get_device`. -/
def getDevice (token : String) (deviceId : Uuid) : Except ApiError Device := do
  let user ← getCurrentUser env db token
  let device ← getOr (.http 404 "Device not found") (db.devices.get? deviceId)
  requireDeviceOwner db device user
  .ok device

/-- `get_device_config_endpoint`: the configuration and the name of its file. -/
def getDeviceConfigEndpoint (token : String) (deviceId : Uuid) :
    Except ApiError (String × String) := do
  let user ← getCurrentUser env db token
  let device ← getOr (.http 404 "Device not found") (db.devices.get? deviceId)
  requireDeviceOwner db device user
  let config ← getDeviceConfig env db deviceId
  .ok (config, "midscale-" ++ device.name ++ ".conf")

/-- `update_device`. -/
def updateDevice (token : String) (deviceId : Uuid) (req : DeviceUpdate) :
    Except ApiError (Device × Database) := do
  let user ← getCurrentUser env db token
  let device ← getOr (.http 404 "Device not found") (db.devices.get? deviceId)
  requireDeviceOwner db device user
  -- the foreign key of `exit_node_id`
  ensure (∀ exit ∈ req.exitNodeId, (db.devices.get? exit).isSome) (.internal "IntegrityError")
  let db := db.assign env.now deviceId req.apply fun _ => rfl
  .ok (device.flushed env.now req.apply, db.audit (user.did "device.update" "device" deviceId))

/-- `process_heartbeat`. -/
def processHeartbeat (deviceId : Uuid) (req : HeartbeatRequest) :
    Except ApiError (HeartbeatResponse × Database) := do
  let device ← getOr (.http 404 "Device not found") (db.devices.get? deviceId)
  let db := db.assign env.now deviceId (req.apply env.now) fun _ => rfl
  .ok
    ({ deviceId := device.id.str
       lastHeartbeat := env.now.isoformat
       configUrl := "/api/v1/devices/" ++ device.id.str ++ "/config" }, db)

/-- `device_heartbeat`. -/
def deviceHeartbeat (token : String) (deviceId : Uuid) (req : HeartbeatRequest) :
    Except ApiError (HeartbeatResponse × Database) := do
  let _ ← getCurrentDeviceById env db deviceId token
  processHeartbeat env db deviceId req

/-- `enroll_device`. -/
def enrollDevice (token : String) (deviceId : Uuid) (req : EnrollRequest) :
    Except ApiError (EnrollResponse × Database) := do
  let user ← getCurrentUser env db token
  let device ← getOr (.http 404 "Device not found") (db.devices.get? deviceId)
  requireDeviceOwner db device user
  ensure device.isNodeOwned (.http 400 "Device is not configured for node-owned keys")
  ensure (device.enrollmentStatus = "pending") (.http 400 ("Device enrollment status is '" ++
    device.enrollmentStatus ++ "', expected 'pending'"))
  let (deviceToken, _) := generateDeviceToken env.security e
  let db := db.assign env.now deviceId (req.apply env e) fun _ => rfl
  .ok ({ deviceId := device.id, deviceToken := deviceToken },
    db.audit (user.did "device.enroll" "device" deviceId))

/-- `rotate_device_token`. -/
def rotateDeviceToken (token : String) (deviceId : Uuid) : Except ApiError (String × Database) := do
  let current ← getCurrentDevice env db token
  ensure (current.id = deviceId)
    (.http 403 "Device token can only be rotated by the device itself")
  ensure (current.enrollmentStatus = "active") (.http 400
    ("Cannot rotate token for device with status '" ++ current.enrollmentStatus ++ "'"))
  let newToken := match current.deviceTokenPrefix with
    | some pfx =>
      if pfx ≠ "" then tokenPrefix ++ pfx ++ "_" ++ e.secret
      else (generateDeviceToken env.security e).1
    | none => (generateDeviceToken env.security e).1
  .ok (newToken, db.assign env.now deviceId (Device.rotated env.security e) fun _ => rfl)

/-- `revoke_device`. -/
def revokeDevice (token : String) (deviceId : Uuid) : Except ApiError (Unit × Database) := do
  let user ← getCurrentUser env db token
  let device ← getOr (.http 404 "Device not found") (db.devices.get? deviceId)
  requireDeviceOwner db device user
  ensure (device.enrollmentStatus ≠ "revoked") (.http 400 "Device is already revoked")
  let db := db.assign env.now deviceId (fun d =>
    { d with enrollmentStatus := "revoked", isActive := false, revokedAt := some env.now })
    fun _ => rfl
  .ok ((), db.audit (user.did "device.revoke" "device" deviceId))

/-- The pre-auth key of a text, if it exists and has not expired. -/
def validPreauthKey (text : String) : Except ApiError PreAuthKey := do
  let found ← scalarOneOrNone (db.preauthKeys.select fun k => k.key = text)
  let preauth ← getOr (.http 401 "Invalid pre-auth key") found
  ensure (¬ preauth.expiresAt < env.now) (.http 401 "Pre-auth key has expired")
  .ok preauth

/-- A key that is not reusable is deleted, another one records the device. -/
def Database.usePreauthKey (preauth : PreAuthKey) (deviceId : Uuid) : Database :=
  { db with
    preauthKeys :=
      if preauth.reusable then
        db.preauthKeys.modify preauth.id
          (fun k => { k with usedBy := some (k.usedBy.getD [] ++ [deviceId.str]) }) fun _ => rfl
      else db.preauthKeys.delete fun k => k.id = preauth.id }

/-- The audit entry of a device that enrolls itself. -/
def Device.did (d : Device) (action : String) : AuditLog where
  actorId := some d.id.str
  actorType := "device"
  action := action
  targetType := "device"
  targetId := some d.id.str

/-- `enroll_by_key`. -/
def enrollByKey (req : EnrollByKeyRequest) :
    Except ApiError (EnrollByKeyResponse × Database) := do
  let preauth ← validPreauthKey env db req.preauthKey
  ensure (preauth.reusable ∨ preauth.usedBy.getD [] = [])
    (.http 401 "Pre-auth key has already been used")
  let network ← scalarOne (db.networks.get? preauth.networkId)
  let ip ← allocateIp db preauth.networkId network.subnet
  let (deviceToken, pfx, hashedSecret) := generateDeviceToken env.security e
  let device := { Device.fresh env.now e.rowId preauth.networkId req.name none ip with
    publicKey := some req.publicKey
    isNodeOwned := true
    deviceTokenHash := some hashedSecret
    deviceTokenPrefix := some pfx
    enrolledAt := some env.now
    lastSeenAt := some env.now }
  let devices ← db.devices.add device
  let db := { db with devices := devices }
  let db := db.usePreauthKey preauth device.id
  let configV2 ← buildConfigV2 env db device
  .ok
    ({ deviceId := device.id
       deviceToken := deviceToken
       networkId := preauth.networkId
       ipAddress := ip
       configV2 := configV2 }, db.audit (device.did "device.enroll_by_key"))

/-- `register_device`. -/
def registerDevice (req : DeviceRegisterRequest) : Except ApiError (Device × Database) := do
  let preauth ← validPreauthKey env db req.key
  let network ← scalarOne (db.networks.get? preauth.networkId)
  let ip ← allocateIp db preauth.networkId network.subnet
  let device := (Device.fresh env.now e.rowId preauth.networkId req.name none ip).withKeys
    env.security e
  let devices ← db.devices.add device
  let db := { db with devices := devices }
  let db := db.usePreauthKey preauth device.id
  .ok (device, db.audit (device.did "device.register"))

end

/-! ### What they change -/

section

variable {env : Env} {e : Entropy} {db db' : Database} {token : String} {deviceId : Uuid}

theorem Database.assign_rows {now : Timestamp} {f : Device → Device} {hf : ∀ d, (f d).id = d.id}
    {d : Device} (hd : db.devices.get? deviceId = some d) :
    ∃ l₁ l₂, db.devices.rows = l₁ ++ d :: l₂ ∧
      (db.assign now deviceId f hf).devices.rows = l₁ ++ d.flushed now f :: l₂ :=
  Table.modify_rows hd (Device.flushed now f) fun d => (Device.flushed_id now f d).trans (hf d)

theorem Database.mem_assign {now : Timestamp} {f : Device → Device} {hf : ∀ d, (f d).id = d.id}
    {d' : Device} : d' ∈ (db.assign now deviceId f hf).devices ↔
      ∃ d ∈ db.devices, (if d.id = deviceId then d.flushed now f else d) = d' := List.mem_map

theorem requireDeviceOwner_eq_ok {d : Device} {user : User} {u : Unit} :
    requireDeviceOwner db d user = .ok u ↔ user.isSuperuser = true ∨
      ((db.networks.get? d.networkId).bind (·.ownerId)) = some user.id := ensure_eq_ok

/-- An update of a device leaves its address alone. -/
theorem updateDevice_eq_ok {req : DeviceUpdate} {device : Device}
    (h : updateDevice env db token deviceId req = .ok (device, db')) : ∃ user d,
      getCurrentUser env db token = .ok user ∧ db.devices.get? deviceId = some d ∧
        requireDeviceOwner db d user = .ok () ∧
        db' = ((db.assign env.now deviceId req.apply fun _ => rfl).audit
          (user.did "device.update" "device" deviceId)) := by
  simp only [updateDevice, bind_eq_ok, getOr_eq_ok] at h
  obtain ⟨user, huser, d, hd, _, howner, -, -, h⟩ := h
  cases h
  exact ⟨user, d, huser, hd, howner, rfl⟩

/-- The row after `revoke_device`. -/
def Device.revoked (now : Timestamp) (d : Device) : Device :=
  { d with enrollmentStatus := "revoked", isActive := false, revokedAt := some now }

theorem revokeDevice_eq_ok (h : revokeDevice env db token deviceId = .ok ((), db')) : ∃ user d,
    getCurrentUser env db token = .ok user ∧ db.devices.get? deviceId = some d ∧
      requireDeviceOwner db d user = .ok () ∧
      db' = ((db.assign env.now deviceId (Device.revoked env.now) fun _ => rfl).audit
        (user.did "device.revoke" "device" deviceId)) := by
  simp only [revokeDevice, bind_eq_ok, getOr_eq_ok] at h
  obtain ⟨user, huser, d, hd, _, howner, -, -, h⟩ := h
  cases h
  exact ⟨user, d, huser, hd, howner, rfl⟩

/-- A heartbeat writes the address of its body. -/
theorem deviceHeartbeat_eq_ok {req : HeartbeatRequest} {r : HeartbeatResponse}
    (h : deviceHeartbeat env db token deviceId req = .ok (r, db')) : ∃ d,
      getCurrentDeviceById env db deviceId token = .ok d ∧
        db' = db.assign env.now deviceId (req.apply env.now) fun _ => rfl := by
  simp only [deviceHeartbeat, processHeartbeat, bind_eq_ok] at h
  obtain ⟨d, hd, d', -, h⟩ := h
  cases h
  exact ⟨d, hd, rfl⟩

/-- An enrollment by the owner writes the address of its body. -/
theorem enrollDevice_eq_ok {req : EnrollRequest} {r : EnrollResponse}
    (h : enrollDevice env e db token deviceId req = .ok (r, db')) : ∃ user d,
      getCurrentUser env db token = .ok user ∧ db.devices.get? deviceId = some d ∧
        requireDeviceOwner db d user = .ok () ∧ d.isNodeOwned = true ∧
        d.enrollmentStatus = "pending" ∧
        r = { deviceId := deviceId, deviceToken := (generateDeviceToken env.security e).1 } ∧
        db' = ((db.assign env.now deviceId (req.apply env e) fun _ => rfl).audit
          (user.did "device.enroll" "device" deviceId)) := by
  simp only [enrollDevice, bind_eq_ok, getOr_eq_ok, ensure_eq_ok] at h
  obtain ⟨user, huser, d, hd, _, howner, _, howned, _, hpending, h⟩ := h
  cases h
  obtain rfl := (Table.get?_eq_some_iff.1 hd).2
  exact ⟨user, d, huser, hd, howner, howned, hpending, rfl, rfl⟩

theorem rotateDeviceToken_eq_ok {newToken : String}
    (h : rotateDeviceToken env e db token deviceId = .ok (newToken, db')) : ∃ d,
      getCurrentDevice env db token = .ok d ∧ db.devices.get? deviceId = some d ∧
        newToken = tokenPrefix ++
          ((Device.rotated env.security e d).deviceTokenPrefix.getD "") ++ "_" ++ e.secret ∧
        db' = db.assign env.now deviceId (Device.rotated env.security e) fun _ => rfl := by
  simp only [rotateDeviceToken, bind_eq_ok, ensure_eq_ok] at h
  obtain ⟨d, hd, _, rfl, _, -, h⟩ := h
  cases h
  obtain ⟨found, hlookup, hfound⟩ := bind_eq_ok.1 hd
  obtain rfl := getOr_eq_ok.1 hfound
  refine ⟨d, hd, Table.get?_eq_some_iff.2 ⟨lookupDeviceByToken_mem hlookup, rfl⟩, ?_, rfl⟩
  rw [Device.rotated, generateDeviceToken]
  cases hpfx : d.deviceTokenPrefix with
  | none => simp [truthy]
  | some pfx => by_cases hne : pfx = "" <;> simp [truthy, hne]

theorem validPreauthKey_eq_ok {text : String} {preauth : PreAuthKey}
    (h : validPreauthKey env db text = .ok preauth) :
    preauth ∈ db.preauthKeys ∧ preauth.key = text := by
  simp only [validPreauthKey, bind_eq_ok, getOr_eq_ok] at h
  obtain ⟨found, hfound, preauth', rfl, -, -, h⟩ := h
  cases h
  obtain ⟨-, hnone⟩ | ⟨k, hk, hsome⟩ := scalarOneOrNone_eq_ok.1 hfound
  · cases hnone
  · cases hsome
    have hmem := Table.mem_select.1 (hk ▸ List.mem_singleton_self preauth)
    exact ⟨hmem.1, of_decide_eq_true hmem.2⟩

/-- The row that `enroll_by_key` adds. -/
def EnrollByKeyRequest.row (req : EnrollByKeyRequest) (env : Env) (e : Entropy) (networkId : Uuid)
    (ip : String) : Device :=
  { Device.fresh env.now e.rowId networkId req.name none ip with
    publicKey := some req.publicKey
    isNodeOwned := true
    deviceTokenHash := some (generateDeviceToken env.security e).2.2
    deviceTokenPrefix := some (generateDeviceToken env.security e).2.1
    enrolledAt := some env.now
    lastSeenAt := some env.now }

/-- A device enrolled by a key holds an allocated address. -/
theorem enrollByKey_eq_ok {req : EnrollByKeyRequest} {r : EnrollByKeyResponse}
    (h : enrollByKey env e db req = .ok (r, db')) : ∃ preauth network ip devices,
      validPreauthKey env db req.preauthKey = .ok preauth ∧
        (preauth.reusable = true ∨ preauth.usedBy.getD [] = []) ∧
        db.networks.get? preauth.networkId = some network ∧
        allocateIp db preauth.networkId network.subnet = .ok ip ∧
        db.devices.insert (req.row env e preauth.networkId ip) = some devices ∧
        r.deviceId = e.rowId ∧ r.deviceToken = (generateDeviceToken env.security e).1 ∧
        db' = (({ db with devices := devices }.usePreauthKey preauth e.rowId).audit
          ((req.row env e preauth.networkId ip).did "device.enroll_by_key")) := by
  simp only [enrollByKey, bind_eq_ok, scalarOne_eq_ok, Table.add_eq_ok, ensure_eq_ok] at h
  obtain ⟨preauth, hvalid, -, hused, network, hnet, ip, hip, devices, hdevices, config, -, h⟩ := h
  cases h
  exact ⟨preauth, network, ip, devices, hvalid, hused, hnet, hip, hdevices, rfl, rfl, rfl⟩

theorem registerDevice_eq_ok {req : DeviceRegisterRequest} {device : Device}
    (h : registerDevice env e db req = .ok (device, db')) : ∃ preauth network ip devices,
      validPreauthKey env db req.key = .ok preauth ∧
        db.networks.get? preauth.networkId = some network ∧
        allocateIp db preauth.networkId network.subnet = .ok ip ∧
        device = (Device.fresh env.now e.rowId preauth.networkId req.name none ip).withKeys
          env.security e ∧
        db.devices.insert device = some devices ∧
        db' = (({ db with devices := devices }.usePreauthKey preauth device.id).audit
          (device.did "device.register")) := by
  simp only [registerDevice, bind_eq_ok, scalarOne_eq_ok, Table.add_eq_ok] at h
  obtain ⟨preauth, hvalid, network, hnet, ip, hip, devices, hdevices, h⟩ := h
  cases h
  exact ⟨preauth, network, ip, devices, hvalid, hnet, hip, rfl, hdevices, rfl⟩

end

end Midscale
