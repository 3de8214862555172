import Midscale.Api.Auth
import Midscale.Config.V2

/-!
# Who may read a device's configuration

`get_device_config_v2`, which authenticates by hand: by an access token, whoever the user is, and
else by a device token.

* `buildConfigV2_ok_iff` : when `build_config_v2` succeeds.
* `getDeviceConfigV2_ok_iff` : when the endpoint returns a configuration.
* `config_v2_authorized_iff` : **it serves only the device itself, a superuser and the owner of its
  network, exactly when the credential is neither a stranger's access token nor a bare secret.**
* `config_v2_served_to_stranger` : an active user reads the configuration of another's device.
-/

namespace Midscale

/-! ### The endpoint -/

/-- The credentials of an `Authorization` header of scheme `Bearer`. -/
def bearerCredentials (authHeader : Option String) : Except ApiError String := do
  let authHeader ← getOr (.http 401 "Authentication required") (authHeader.filter (· ≠ ""))
  let (scheme, credentials) := partition ' ' authHeader
  ensure (scheme.toList.map Char.toLower = "bearer".toList ∧ credentials ≠ "")
    (.http 401 "Invalid authorization header")
  .ok credentials

/-- `get_device_config_v2`. -/
def getDeviceConfigV2 (env : Env) (db : Database) (deviceId : Uuid) (authHeader : Option String) :
    Except ApiError DeviceConfigV2Response := do
  let credentials ← bearerCredentials authHeader
  let user ← accessUser env db credentials
  let deviceAuth ← (if user.isNone then lookupDeviceByToken env db credentials else .ok none)
  -- from here on the user is not looked at again
  ensure (user.isSome ∨ deviceAuth.isSome) (.http 401 "Invalid authentication")
  ensure (deviceAuth.all (·.id = deviceId))
    (.http 403 "Device token does not match requested device")
  let device ← getOr (.http 404 "Device not found") (db.devices.get? deviceId)
  ensure device.isActive (.http 400 "Device is not active")
  ensure (truthy device.ipAddress) (.http 400 "Device has no IP address assigned")
  ensure (device.enrollmentStatus = "active") (.http 400 ("Device enrollment status is '" ++
    device.enrollmentStatus ++ "', expected 'active'"))
  buildConfigV2 env db device

/-! ### Who is served -/

/-- The user is a superuser or owns the device's network. -/
def User.MayRead (db : Database) (u : User) (d : Device) : Prop :=
  u.isSuperuser = true ∨
    ∃ network, db.networks.get? d.networkId = some network ∧ network.ownerId = some u.id

/-- The credential is the device's token, or the access token of an active user who may read the
device's configuration. -/
def Authorized (env : Env) (db : Database) (credentials : String) (deviceId : Uuid) : Prop :=
  ∃ d, db.devices.get? deviceId = some d ∧
    (d.IsToken env credentials ∨
      ∃ u ∈ db.users, u.isActive = true ∧ IsAccessTokenOf env credentials u ∧ u.MayRead db d)

/-- Whenever the endpoint returns a configuration, the credential is authorized. -/
def ServesOnlyAuthorized (env : Env) (db : Database) (deviceId : Uuid)
    (authHeader : Option String) : Prop :=
  ∀ credentials response, bearerCredentials authHeader = .ok credentials →
    getDeviceConfigV2 env db deviceId authHeader = .ok response →
    Authorized env db credentials deviceId

/-- The device has a key and its network a topology and a subnet that can be used. -/
def Device.Configurable (env : Env) (db : Database) (d : Device) : Prop :=
  d.isActive = true ∧ d.publicKey.isSome = true ∧ d.ipAddress.isSome = true ∧
    ∃ network, db.networks.get? d.networkId = some network ∧
      (∃ t, TopologyType.parse (env.settings.topologyOf network.topology) = some t) ∧
      ∃ net, IPv4Network.parse network.subnet = some net

/-- The device is enrolled, has an address and can be configured. -/
def Device.Servable (env : Env) (db : Database) (d : Device) : Prop :=
  d.enrollmentStatus = "active" ∧ truthy d.ipAddress = true ∧ d.Configurable env db

/-- The credential is the access token of an active user who may not read the device's
configuration. -/
def IsStrangersToken (env : Env) (db : Database) (credentials : String) (d : Device) : Prop :=
  ∃ u, accessUser env db credentials = .ok (some u) ∧ ¬ u.MayRead db d

/-- The credential is no access token of an active user and finds the device only by the full
scan. -/
def IsScanned (env : Env) (db : Database) (credentials : String) (d : Device) : Prop :=
  accessUser env db credentials = .ok none ∧ deviceByPrefix env db credentials = .ok none ∧
    deviceByScan env credentials (db.devices.select fun d => d.isActive) = .ok (some d)

section

variable {env : Env} {db : Database}

/-- When `build_config_v2` succeeds. -/
theorem buildConfigV2_ok_iff {d : Device} (hd : d ∈ db.devices) :
    (∃ response, buildConfigV2 env db d = .ok response) ↔ d.Configurable env db := by
  -- the snapshot is searched for the text of the id, which determines the id
  have hfind : (∃ s, (db.buildDeviceStates d.networkId).1.find? (fun s => s.id = d.id.str) = some s) ↔
      d.isActive = true ∧ d.publicKey.isSome = true ∧ d.ipAddress.isSome = true := by
    change (∃ s, ((db.plannedDevices d.networkId).map Device.state).find?
      (fun s => s.id = d.id.str) = some s) ↔ _
    rw [← Option.isSome_iff_exists, List.find?_isSome]
    constructor
    · rintro ⟨s, hs, hid⟩
      obtain ⟨d', hd', rfl⟩ := List.mem_map.1 hs
      obtain ⟨hmem, -, hready⟩ := Database.mem_plannedDevices.1 hd'
      obtain rfl : d' = d := db.devices.eq_of_pk hmem hd (Uuid.str_inj.1 (of_decide_eq_true hid))
      exact hready
    · intro hready
      exact ⟨d.state, List.mem_map_of_mem (Database.mem_plannedDevices.2 ⟨hd, rfl, hready⟩),
        decide_eq_true rfl⟩
  simp only [buildConfigV2, bind_eq_ok, scalarOne_eq_ok, getOr_eq_ok, Settings.generatorOf,
    Device.Configurable]
  constructor
  · rintro ⟨response, network, hnet, s, hs, t, ht, net, hsubnet, -⟩
    obtain ⟨hactive, hkey, hip⟩ := hfind.1 ⟨s, hs⟩
    exact ⟨hactive, hkey, hip, network, hnet, ⟨t, ht⟩, net, hsubnet⟩
  · rintro ⟨hactive, hkey, hip, network, hnet, ⟨t, ht⟩, net, hsubnet⟩
    obtain ⟨s, hs⟩ := hfind.2 ⟨hactive, hkey, hip⟩
    exact ⟨_, network, hnet, s, hs, t, ht, net, hsubnet, rfl⟩

/-- When the endpoint returns a configuration. -/
theorem getDeviceConfigV2_ok_iff {deviceId : Uuid} {authHeader : Option String} :
    (∃ response, getDeviceConfigV2 env db deviceId authHeader = .ok response) ↔
      ∃ credentials d, bearerCredentials authHeader = .ok credentials ∧
        db.devices.get? deviceId = some d ∧ d.Servable env db ∧
        ((∃ u, accessUser env db credentials = .ok (some u)) ∨
          accessUser env db credentials = .ok none ∧
            lookupDeviceByToken env db credentials = .ok (some d)) := by
  simp only [getDeviceConfigV2, bind_eq_ok, getOr_eq_ok, ensure_eq_ok]
  constructor
  · rintro ⟨response, credentials, hcred, user, huser, auth, hauth, -, hsome, -, hid, d, hd, -, hactive,
      -, hip, -, hstatus, hresponse⟩
    obtain ⟨hmem, hpk⟩ := Table.get?_eq_some_iff.1 hd
    have hconf : d.Configurable env db := (buildConfigV2_ok_iff hmem).1 ⟨response, hresponse⟩
    refine ⟨credentials, d, hcred, hd, ⟨hstatus, hip, hconf⟩, ?_⟩
    cases user with
    | some u => exact .inl ⟨u, huser⟩
    | none =>
      change lookupDeviceByToken env db credentials = .ok auth at hauth
      cases auth with
      | none => rcases hsome with h | h <;> cases h
      | some d' =>
        -- the device that authenticated is the requested one
        obtain rfl : d' = d := db.devices.eq_of_pk (lookupDeviceByToken_mem hauth) hmem
          ((of_decide_eq_true hid).trans hpk.symm)
        exact .inr ⟨huser, hauth⟩
  · rintro ⟨credentials, d, hcred, hd, ⟨hstatus, hip, hconf⟩, hwho⟩
    obtain ⟨hmem, hpk⟩ := Table.get?_eq_some_iff.1 hd
    obtain ⟨response, hresponse⟩ := (buildConfigV2_ok_iff hmem).2 hconf
    rcases hwho with ⟨u, hu⟩ | ⟨hnone, hlookup⟩
    · exact ⟨response, credentials, hcred, some u, hu, none, rfl, (), .inl rfl, (), rfl, d, hd, (),
        hconf.1, (), hip, (), hstatus, hresponse⟩
    · exact ⟨response, credentials, hcred, none, hnone, some d, hlookup, (), .inr rfl, (),
        decide_eq_true hpk, d, hd, (), hconf.1, (), hip, (), hstatus, hresponse⟩

/-- The endpoint returns a configuration to a stranger, or to someone who has only the secret of a
token. -/
def ServesOther (env : Env) (db : Database) (credentials : String) (d : Device) : Prop :=
  d.Servable env db ∧ ¬ d.IsToken env credentials ∧
    (IsStrangersToken env db credentials d ∨ IsScanned env db credentials d)

/-- **The endpoint serves only authorized credentials** exactly when the credential of the header
is neither a stranger's access token nor found by the full scan without being the device's
token. -/
theorem config_v2_authorized_iff (env : Env) (db : Database) (deviceId : Uuid)
    (authHeader : Option String) :
    ServesOnlyAuthorized env db deviceId authHeader ↔
      ∀ credentials d, bearerCredentials authHeader = .ok credentials →
        db.devices.get? deviceId = some d → ¬ ServesOther env db credentials d := by
  constructor
  · rintro hserves credentials d hcred hd ⟨hservable, htoken, hwho⟩
    -- such a credential is served, though it is not authorized
    have haccess : (∃ u, accessUser env db credentials = .ok (some u)) ∨
        accessUser env db credentials = .ok none ∧
          lookupDeviceByToken env db credentials = .ok (some d) := by
      rcases hwho with ⟨u, hu, -⟩ | ⟨hnone, hpre, hscan⟩
      · exact .inl ⟨u, hu⟩
      · refine .inr ⟨hnone, lookupDeviceByToken_eq_some.2 ⟨?_, .inr ⟨hpre, hscan⟩⟩⟩
        rw [hservable.1]
        decide
    obtain ⟨response, hresponse⟩ :=
      getDeviceConfigV2_ok_iff.2 ⟨credentials, d, hcred, hd, hservable, haccess⟩
    obtain ⟨d', hd', hauth⟩ := hserves credentials response hcred hresponse
    obtain rfl : d' = d := by rw [hd'] at hd; exact Option.some.inj hd
    rcases hauth with h | ⟨u, hmem, hactive, htok, hmay⟩
    · exact htoken h
    · have hu : accessUser env db credentials = .ok (some u) :=
        accessUser_eq_some.2 ⟨htok, hmem, hactive⟩
      rcases hwho with ⟨u', hu', hnot⟩ | ⟨hnone, -⟩
      · rw [hu, Except.ok.injEq, Option.some.injEq] at hu'
        exact hnot (hu' ▸ hmay)
      · rw [hu] at hnone; cases hnone
  · intro hnot credentials response hcred hresponse
    obtain ⟨credentials', d, hcred', hd, hservable, haccess⟩ :=
      getDeviceConfigV2_ok_iff.1 ⟨response, hresponse⟩
    obtain rfl : credentials' = credentials := by
      rw [hcred', Except.ok.injEq] at hcred; exact hcred
    have hother := hnot credentials' d hcred hd
    refine ⟨d, hd, ?_⟩
    -- what is served without authorization is a stranger's or scanned
    by_contra hauth
    rw [not_or] at hauth
    refine hother ⟨hservable, hauth.1, ?_⟩
    rcases haccess with ⟨u, hu⟩ | ⟨hnone, hlookup⟩
    · obtain ⟨htok, hmem, hactive⟩ := accessUser_eq_some.1 hu
      exact .inl ⟨u, hu, fun hmay => hauth.2 ⟨u, hmem, hactive, htok, hmay⟩⟩
    · rcases (lookupDeviceByToken_eq_some.1 hlookup).2 with hpre | ⟨hpre, hscan⟩
      · exact absurd (deviceByPrefix_eq_some hpre).2.2 hauth.1
      · exact .inr ⟨hnone, hpre, hscan⟩

end

/-- Alice's laptop, which has no token. -/
def aliceLaptop : Device where
  id := Uuid.ofNat 4
  name := "laptop"
  networkId := Uuid.ofNat 3
  publicKey := some "key-l"
  ipAddress := some "10.0.0.2"

/-- Alice's network with her laptop, and Bob, who owns nothing. -/
def aliceAndBob : Database where
  users := .ofRows [{ id := Uuid.ofNat 1 }, { id := Uuid.ofNat 2 }]
  networks := .ofRows [
    { id := Uuid.ofNat 3, name := "office", subnet := "10.0.0.0/24", ownerId := some (Uuid.ofNat 1) }]
  devices := .ofRows [aliceLaptop]

/-- An environment in which `jwt` is Bob's access token. -/
def bobEnv : Env where
  settings := {}
  security := plainSecurity [("jwt",
    (Dict.empty.set "sub" (.str "00000000-0000-0000-0000-000000000002")).set "type" (.str "access"))]
  now := 0
  setOrder := .dedup String

/-- Bob reads the configuration of Alice's laptop. -/
theorem config_v2_served_to_stranger :
    ¬ ServesOnlyAuthorized bobEnv aliceAndBob (Uuid.ofNat 4) (some "Bearer jwt") := by
  intro h
  have hbob : accessUser bobEnv aliceAndBob "jwt" = .ok (some { id := Uuid.ofNat 2 }) := by decide
  have hservable : aliceLaptop.Servable bobEnv aliceAndBob :=
    ⟨by decide, by decide, by decide, by decide, by decide,
      { id := Uuid.ofNat 3, name := "office", subnet := "10.0.0.0/24"
        ownerId := some (Uuid.ofNat 1) }, by decide, ⟨.star, by decide⟩,
      IPv4Network.ofAddress (IPv4Address.ofOctets 10 0 0 0) 24, by decide⟩
  have hcred : bearerCredentials (some "Bearer jwt") = .ok "jwt" := by decide
  have hlaptop : aliceAndBob.devices.get? (Uuid.ofNat 4) = some aliceLaptop := by decide
  obtain ⟨response, hresponse⟩ := getDeviceConfigV2_ok_iff.2
    ⟨"jwt", aliceLaptop, hcred, hlaptop, hservable, .inl ⟨_, hbob⟩⟩
  obtain ⟨d, hd, hauth⟩ := h "jwt" response hcred hresponse
  obtain rfl : aliceLaptop = d := by rw [hlaptop] at hd; exact Option.some.inj hd
  rcases hauth with ⟨hash, hhash, -⟩ | ⟨u, hmem, hactive, htok, hmay⟩
  · cases hhash
  · have hu := accessUser_eq_some.2 ⟨htok, hmem, hactive⟩
    rw [hbob, Except.ok.injEq, Option.some.injEq] at hu
    subst hu
    rcases hmay with hsuper | ⟨network, hnet, howner⟩
    · cases hsuper
    · have hoffice : aliceAndBob.networks.get? (Uuid.ofNat 3) = some
          { id := Uuid.ofNat 3, name := "office", subnet := "10.0.0.0/24"
            ownerId := some (Uuid.ofNat 1) } := by decide
      change aliceAndBob.networks.get? (Uuid.ofNat 3) = some network at hnet
      rw [hoffice, Option.some.injEq] at hnet
      subst hnet
      exact absurd howner (by decide)

end Midscale
