import Midscale.Config.V2

/-!
# The structured configuration and secrets

The rows that `build_config_v2` reads hold private keys, token hashes and token prefixes; pre-auth
keys, password hashes and relay tokens are a query away.  None of them reaches the response: it is
a function of the database without its secrets.

* `buildConfigV2_withoutSecrets` : the response is that of the database without secrets.
* `configV2_carries_no_secrets` : databases that differ in secrets only give identical responses.
-/

namespace Midscale

/-- The row without `private_key_enc`, `device_token_hash` and `device_token_prefix`. -/
def Device.withoutSecrets (d : Device) : Device :=
  { d with privateKeyEnc := none, deviceTokenHash := none, deviceTokenPrefix := none }

/-- The row without `password_hash`. -/
def User.withoutSecrets (u : User) : User := { u with passwordHash := "" }

/-- The row without `relay_token`. -/
def RelaySession.withoutSecrets (s : RelaySession) : RelaySession := { s with relayToken := "" }

theorem Device.pk_withoutSecrets (d : Device) : Row.pk d.withoutSecrets = Row.pk d := rfl

theorem User.pk_withoutSecrets (u : User) : Row.pk u.withoutSecrets = Row.pk u := rfl

theorem RelaySession.pk_withoutSecrets (s : RelaySession) :
    Row.pk s.withoutSecrets = Row.pk s := rfl

/-- The tables without secrets, their rows in the same order. -/
def Database.withoutSecrets (db : Database) : Database :=
  { db with
    users := db.users.map User.withoutSecrets User.pk_withoutSecrets
    devices := db.devices.map Device.withoutSecrets Device.pk_withoutSecrets
    preauthKeys := .empty
    relaySessions := db.relaySessions.map RelaySession.withoutSecrets RelaySession.pk_withoutSecrets }

namespace Database

variable (db : Database)

theorem select_withoutSecrets {p : Device → Bool} (hp : ∀ d : Device, p d.withoutSecrets = p d) :
    db.withoutSecrets.devices.select p = (db.devices.select p).map Device.withoutSecrets :=
  db.devices.select_map Device.pk_withoutSecrets hp

theorem buildDeviceStates_withoutSecrets (networkId : Uuid) :
    db.withoutSecrets.buildDeviceStates networkId = db.buildDeviceStates networkId := by
  have hplanned : db.withoutSecrets.plannedDevices networkId =
      (db.plannedDevices networkId).map Device.withoutSecrets :=
    db.select_withoutSecrets fun _ => rfl
  rw [buildDeviceStates, hplanned, List.map_map, List.foldl_map]
  rfl

theorem buildEndpointsByDevice_withoutSecrets (networkId : Uuid) :
    db.withoutSecrets.buildEndpointsByDevice networkId = db.buildEndpointsByDevice networkId := by
  have hids := db.select_withoutSecrets
    (p := fun d => d.networkId = networkId ∧ d.isActive) fun _ => rfl
  rw [buildEndpointsByDevice, hids, List.map_map]
  rfl

theorem planInput_withoutSecrets (network : Network) (device : DeviceState) :
    db.withoutSecrets.planInput network device = db.planInput network device := by
  rw [planInput, buildDeviceStates_withoutSecrets, buildEndpointsByDevice_withoutSecrets]
  rfl

end Database

/-- **The response is that of the database without secrets.** -/
theorem buildConfigV2_withoutSecrets (env : Env) (db : Database) (d : Device) :
    buildConfigV2 env db d = buildConfigV2 env db.withoutSecrets d.withoutSecrets := by
  rw [buildConfigV2, buildConfigV2]
  simp only [Database.buildDeviceStates_withoutSecrets, Database.planInput_withoutSecrets]
  rfl

/-- **Config v2 carries no secrets**: databases that differ in private keys, device tokens,
pre-auth keys, password hashes and relay tokens only give identical responses. -/
theorem configV2_carries_no_secrets (env : Env) {db db' : Database}
    (h : db.withoutSecrets = db'.withoutSecrets) (deviceId : Uuid) :
    (db.devices.get? deviceId).map (buildConfigV2 env db) =
      (db'.devices.get? deviceId).map (buildConfigV2 env db') := by
  have hget : ∀ db : Database, (db.devices.get? deviceId).map (buildConfigV2 env db) =
      (db.withoutSecrets.devices.get? deviceId).map (buildConfigV2 env db.withoutSecrets) := by
    intro db
    have hrow : db.withoutSecrets.devices.get? deviceId =
        (db.devices.get? deviceId).map Device.withoutSecrets :=
      db.devices.get?_map Device.pk_withoutSecrets deviceId
    rw [hrow, Option.map_map]
    congr 1
    funext d
    exact buildConfigV2_withoutSecrets env db d
  rw [hget db, hget db', h]

/-- Two states of one network, with other secrets everywhere. -/
def secretOffice (secret : String) : Database where
  users := .ofRows [{ id := Uuid.ofNat 1, passwordHash := secret }] (List.nodup_singleton _)
  networks := .ofRows [
    { id := Uuid.ofNat 2, name := "secret office", subnet := "10.0.0.0/24"
      ownerId := some (Uuid.ofNat 1) }]
  devices := .ofRows [
    { id := Uuid.ofNat 3, name := serverName, networkId := Uuid.ofNat 2, publicKey := some "S"
      ipAddress := some "10.0.0.1", privateKeyEnc := some secret },
    { id := Uuid.ofNat 4, name := "laptop", networkId := Uuid.ofNat 2, publicKey := some "L"
      ipAddress := some "10.0.0.2", privateKeyEnc := some secret, deviceTokenHash := some secret
      deviceTokenPrefix := some secret }] (by decide : [Uuid.ofNat 3, Uuid.ofNat 4].Nodup)
  preauthKeys := .ofRows [
    { id := Uuid.ofNat 5, key := secret, networkId := Uuid.ofNat 2, expiresAt := 0 }]
    (List.nodup_singleton _)
  relaySessions := .ofRows [
    { id := Uuid.ofNat 6, initiatorDeviceId := Uuid.ofNat 3, targetDeviceId := Uuid.ofNat 4
      relayToken := secret }] (List.nodup_singleton _)

theorem configV2_carries_no_secrets_office :
    secretOffice "a" ≠ secretOffice "b" ∧
      ((secretOffice "a").devices.get? (Uuid.ofNat 4)).map (buildConfigV2 plainEnv (secretOffice "a")) =
        ((secretOffice "b").devices.get? (Uuid.ofNat 4)).map
          (buildConfigV2 plainEnv (secretOffice "b")) :=
  ⟨by decide, configV2_carries_no_secrets plainEnv (by decide) (Uuid.ofNat 4)⟩

end Midscale
