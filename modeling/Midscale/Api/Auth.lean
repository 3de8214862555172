import Midscale.Api.Basic
import Midscale.Topology.Plan

/-!
# Authentication

`app.api.deps`: who a bearer credential stands for.  A user presents an access token; a device
presents its device token, which is looked up by the prefix it carries and else compared with the
hash of every active device.

* `accessUser` : the user of an access token, as `get_device_config_v2` reads it by hand.
* `getCurrentUser`, `getCurrentDeviceById`, `requireNetworkOwner` : the shared dependencies.
* `accessUser_eq_some` : the user found is an active one whose access token the credential is.
* `lookupDeviceByToken_eq_some` : the device found is active, and the secret or the credential as a
  whole verifies against its hash.
-/

namespace Midscale

/-! ### Users -/

/-- `uuid.UUID(value)`: `none` on a text that is no UUID, an `AttributeError` on another value. -/
def uuidOfJson : Json → Except ApiError (Option Uuid)
  | .str s => .ok (Uuid.parse s)
  | _ => .error (.internal "AttributeError")

/-- The payload of a token of type `access`. -/
def Env.accessPayload (env : Env) (token : String) : Option (Dict String Json) :=
  (env.security.decodeToken env.now token).filter fun p => p.get? "type" = some (.str "access")

/-- `get_current_user`. -/
def getCurrentUser (env : Env) (db : Database) (token : String) : Except ApiError User := do
  let payload ← getOr (.http 401 "Invalid or expired token") (env.accessPayload token)
  let sub ← getOr (.http 401 "Invalid token payload") ((payload.get? "sub").filter (· ≠ .null))
  let uid ← getOr (.http 401 "Invalid token payload") (← uuidOfJson sub)
  getOr (.http 401 "User not found or inactive") ((db.users.get? uid).filter (·.isActive))

/-- The active user of an access token, as `get_device_config_v2` looks it up. -/
def accessUser (env : Env) (db : Database) (token : String) : Except ApiError (Option User) :=
  match env.accessPayload token with
  | none => .ok none
  | some payload =>
    match (payload.get? "sub").filter (·.truthy) with
    | none => .ok none
    | some sub => do
      let uid ← uuidOfJson sub
      .ok (uid.bind fun uid => (db.users.get? uid).filter (·.isActive))

/-- `require_network_owner`. -/
def requireNetworkOwner (db : Database) (networkId : Uuid) (user : User) :
    Except ApiError Network := do
  let network ← getOr (.http 404 "Network not found") (db.networks.get? networkId)
  ensure (user.isSuperuser ∨ network.ownerId = some user.id)
    (.http 403 "Access denied: you do not own this network")
  .ok network

/-! ### Devices -/

/-- `_TOKEN_PREFIX`. -/
def tokenPrefix : String := "midscale_device_"

/-- The prefix and the secret of a token `midscale_device_<prefix>_<secret>`, extracted by
position. -/
def splitDeviceToken (token : String) : Option (String × String) :=
  if tokenPrefix.toList.isPrefixOf token.toList then
    let rest := token.toList.drop tokenPrefix.length
    if 9 < rest.length ∧ rest[8]? = some '_' then
      some (String.ofList (rest.take 8), String.ofList (rest.drop 9))
    else none
  else none

/-- `verify_password`; what it raises is not caught. -/
def Env.verifyPassword (env : Env) (plain hashed : String) : Except ApiError Bool :=
  (env.security.verifyPassword plain hashed).mapError .internal

/-- `device.device_token_hash and verify_password(secret, device.device_token_hash)`. -/
def Device.verifySecret (env : Env) (secret : String) (d : Device) : Except ApiError Bool :=
  if truthy d.deviceTokenHash then env.verifyPassword secret (d.deviceTokenHash.getD "")
  else .ok false

/-- The lookup of `_lookup_device_by_token` by the prefix of a token. -/
def deviceByPrefix (env : Env) (db : Database) (token : String) :
    Except ApiError (Option Device) :=
  match splitDeviceToken token with
  | none => .ok none
  | some (rawPrefix, secret) => do
    let device ← scalarOneOrNone
      (db.devices.select fun d => d.deviceTokenPrefix = some rawPrefix ∧ d.isActive)
    match device with
    -- a wrong secret is no error here, the caller goes on with the scan
    | none => .ok none
    | some d => .ok (if ← d.verifySecret env secret then some d else none)

/-- The full scan of `_lookup_device_by_token`. -/
def deviceByScan (env : Env) (token : String) : List Device → Except ApiError (Option Device)
  | [] => .ok none
  | d :: ds => do
    if ← d.verifySecret env token then .ok (some d) else deviceByScan env token ds

/-- `_check_device_status`. -/
def checkDeviceStatus (d : Device) : Except ApiError Device :=
  if d.enrollmentStatus = "revoked" then .error (.http 401 "Device has been revoked")
  else if d.enrollmentStatus = "expired" then .error (.http 401 "Device enrollment has expired")
  else if d.enrollmentStatus = "pending" then
    .error (.http 401 "Device enrollment not yet completed")
  else .ok d

/-- `_lookup_device_by_token`. -/
def lookupDeviceByToken (env : Env) (db : Database) (token : String) :
    Except ApiError (Option Device) := do
  match ← deviceByPrefix env db token with
  | some d => some <$> checkDeviceStatus d
  | none =>
    match ← deviceByScan env token (db.devices.select fun d => d.isActive) with
    | some d => some <$> checkDeviceStatus d
    | none => .ok none

/-- `get_current_device`. -/
def getCurrentDevice (env : Env) (db : Database) (token : String) : Except ApiError Device := do
  getOr (.http 401 "Invalid device token") (← lookupDeviceByToken env db token)

/-- `get_current_device_by_id`. -/
def getCurrentDeviceById (env : Env) (db : Database) (deviceId : Uuid) (token : String) :
    Except ApiError Device := do
  let device ← getCurrentDevice env db token
  ensure (device.id = deviceId) (.http 403 "Device token does not match requested device")
  .ok device

/-! ### Whose credential it is -/

/-- The credential is a valid access token of the user. -/
def IsAccessTokenOf (env : Env) (token : String) (u : User) : Prop :=
  ∃ payload sub, env.security.decodeToken env.now token = some payload ∧
    payload.get? "type" = some (.str "access") ∧ payload.get? "sub" = some (.str sub) ∧
    Uuid.parse sub = some u.id

/-- The credential is the device's current token: `midscale_device_<prefix>_<secret>` with a secret
that verifies, or, for a device without a prefix, a text that verifies as a whole. -/
def Device.IsToken (env : Env) (token : String) (d : Device) : Prop :=
  ∃ hash, d.deviceTokenHash = some hash ∧
    match d.deviceTokenPrefix with
    | some rawPrefix => ∃ secret, token = tokenPrefix ++ rawPrefix ++ "_" ++ secret ∧
        env.security.verifyPassword secret hash = .ok true
    | none => env.security.verifyPassword token hash = .ok true

section

variable {env : Env} {db : Database} {token : String}

theorem accessPayload_eq_some {payload : Dict String Json} :
    env.accessPayload token = some payload ↔
      env.security.decodeToken env.now token = some payload ∧
        payload.get? "type" = some (.str "access") := by
  rw [Env.accessPayload, Option.filter_eq_some_iff, decide_eq_true_eq]

theorem activeUser_eq_some {uid : Uuid} {u : User} :
    (db.users.get? uid).filter (·.isActive) = some u ↔
      u ∈ db.users ∧ u.id = uid ∧ u.isActive = true := by
  rw [Option.filter_eq_some_iff, Table.get?_eq_some_iff, and_assoc]
  rfl

/-- **The user found is an active one whose access token the credential is.** -/
theorem accessUser_eq_some {u : User} :
    accessUser env db token = .ok (some u) ↔
      IsAccessTokenOf env token u ∧ u ∈ db.users ∧ u.isActive = true := by
  unfold accessUser
  constructor
  · intro h
    split at h
    · cases h
    · rename_i payload hpayload
      obtain ⟨hdecode, htype⟩ := accessPayload_eq_some.1 hpayload
      split at h
      · cases h
      · rename_i sub hsub
        obtain ⟨hsub, -⟩ := Option.filter_eq_some_iff.1 hsub
        obtain ⟨uid?, huid, h⟩ := bind_eq_ok.1 h
        cases sub with
        | str s =>
          cases huid
          rw [Except.ok.injEq, Option.bind_eq_some_iff] at h
          obtain ⟨uid, hparse, hu⟩ := h
          obtain ⟨hmem, rfl, hactive⟩ := activeUser_eq_some.1 hu
          exact ⟨⟨payload, s, hdecode, htype, hsub, hparse⟩, hmem, hactive⟩
        | _ => cases huid
  · rintro ⟨⟨payload, sub, hdecode, htype, hsub, hparse⟩, hmem, hactive⟩
    -- an empty subject is refused before it is parsed, and is no uuid anyway
    have hne : sub ≠ "" := by
      rintro rfl
      have hnone : Uuid.parse "" = none := by decide
      rw [hnone] at hparse
      cases hparse
    have htruthy : (payload.get? "sub").filter (·.truthy) = some (.str sub) := by
      rw [Option.filter_eq_some_iff]
      exact ⟨hsub, decide_eq_true hne⟩
    rw [accessPayload_eq_some.2 ⟨hdecode, htype⟩]
    simp only [htruthy, uuidOfJson, ok_bind, hparse, Option.bind_some,
      activeUser_eq_some.2 ⟨hmem, rfl, hactive⟩]

theorem getCurrentUser_eq_ok {u : User} :
    getCurrentUser env db token = .ok u ↔
      IsAccessTokenOf env token u ∧ u ∈ db.users ∧ u.isActive = true := by
  have hfilter : ∀ (payload : Dict String Json) sub,
      (payload.get? "sub").filter (· ≠ .null) = some sub ↔
        payload.get? "sub" = some sub ∧ sub ≠ .null := fun payload sub => by
    rw [Option.filter_eq_some_iff, decide_eq_true_eq]
  unfold getCurrentUser
  simp only [bind_eq_ok, getOr_eq_ok, accessPayload_eq_some, hfilter, activeUser_eq_some]
  constructor
  · rintro ⟨payload, ⟨hdecode, htype⟩, sub, ⟨hsub, -⟩, uid?, huid, uid, hparse, hmem, rfl, hactive⟩
    cases sub with
    | str s =>
      cases huid
      exact ⟨⟨payload, s, hdecode, htype, hsub, hparse⟩, hmem, hactive⟩
    | _ => cases huid
  · rintro ⟨⟨payload, sub, hdecode, htype, hsub, hparse⟩, hmem, hactive⟩
    have hne : Json.str sub ≠ .null := by simp
    exact ⟨payload, ⟨hdecode, htype⟩, .str sub, ⟨hsub, hne⟩, Uuid.parse sub, rfl, u.id, hparse,
      hmem, rfl, hactive⟩

theorem verifySecret_eq_true {d : Device} {secret : String} :
    d.verifySecret env secret = .ok true ↔ ∃ hash, d.deviceTokenHash = some hash ∧ hash ≠ "" ∧
      env.security.verifyPassword secret hash = .ok true := by
  have hverify : ∀ hash, env.verifyPassword secret hash = .ok true ↔
      env.security.verifyPassword secret hash = .ok true := fun hash => by
    unfold Env.verifyPassword
    cases env.security.verifyPassword secret hash <;> simp [Except.mapError]
  unfold Device.verifySecret truthy
  cases d.deviceTokenHash with
  | none => simp
  | some hash => by_cases hne : hash = "" <;> simp [hne, hverify]

theorem splitDeviceToken_eq_some {rawPrefix secret : String}
    (h : splitDeviceToken token = some (rawPrefix, secret)) :
    token = tokenPrefix ++ rawPrefix ++ "_" ++ secret := by
  unfold splitDeviceToken at h
  dsimp only at h
  split_ifs at h with hpre hrest
  obtain ⟨rest, hrest'⟩ := List.isPrefixOf_iff_prefix.1 hpre
  have hdrop : token.toList.drop tokenPrefix.length = rest := by
    rw [← hrest', ← String.length_toList, List.drop_left]
  simp only [hdrop, Option.some.injEq, Prod.mk.injEq] at h hrest
  obtain ⟨rfl, rfl⟩ := h
  have hsplit : rest = rest.take 8 ++ '_' :: rest.drop 9 := by
    conv_lhs => rw [← List.take_append_drop 8 rest]
    obtain ⟨hlt, h8⟩ := List.getElem?_eq_some_iff.1 hrest.2
    rw [List.drop_eq_getElem_cons hlt, h8]
  apply String.toList_injective
  rw [String.toList_append, String.toList_append, String.toList_append, String.toList_ofList,
    String.toList_ofList, ← hrest']
  conv_lhs => rw [hsplit]
  simp

theorem deviceByPrefix_eq_some {d : Device} (h : deviceByPrefix env db token = .ok (some d)) :
    d ∈ db.devices ∧ d.isActive = true ∧ d.IsToken env token := by
  unfold deviceByPrefix at h
  split at h
  · cases h
  · rename_i rawPrefix secret hsplit
    obtain ⟨device, hdevice, h⟩ := bind_eq_ok.1 h
    rcases scalarOneOrNone_eq_ok.1 hdevice with ⟨-, rfl⟩ | ⟨d', hd', rfl⟩
    · cases h
    · obtain ⟨verified, hverified, h⟩ := bind_eq_ok.1 h
      cases verified with
      | false => cases h
      | true =>
        cases h
        -- the query returned this one row
        have hmem : d ∈ db.devices.select fun d => d.deviceTokenPrefix = some rawPrefix ∧
            d.isActive := by rw [hd']; exact List.mem_cons_self
        obtain ⟨hmem, hcond⟩ := Table.mem_select.1 hmem
        obtain ⟨hraw, hactive⟩ := of_decide_eq_true hcond
        obtain ⟨hash, hhash, -, hv⟩ := verifySecret_eq_true.1 hverified
        refine ⟨hmem, hactive, hash, hhash, ?_⟩
        rw [hraw]
        exact ⟨secret, splitDeviceToken_eq_some hsplit, hv⟩

theorem deviceByScan_eq_some {ds : List Device} {d : Device}
    (h : deviceByScan env token ds = .ok (some d)) :
    d ∈ ds ∧ d.verifySecret env token = .ok true := by
  induction ds with
  | nil => cases h
  | cons d' ds ih =>
    obtain ⟨verified, hverified, h⟩ := bind_eq_ok.1 h
    cases verified with
    | true => cases h; exact ⟨List.mem_cons_self, hverified⟩
    | false =>
      obtain ⟨hmem, hv⟩ := ih h
      exact ⟨List.mem_cons_of_mem _ hmem, hv⟩

theorem checkDeviceStatus_eq_ok {d d' : Device} : checkDeviceStatus d = .ok d' ↔
    d' = d ∧ d.enrollmentStatus ∉ ["revoked", "expired", "pending"] := by
  unfold checkDeviceStatus
  simp only [List.mem_cons, List.not_mem_nil, or_false, not_or]
  split_ifs with hr he hp
  · exact ⟨nofun, fun h => absurd hr h.2.1⟩
  · exact ⟨nofun, fun h => absurd he h.2.2.1⟩
  · exact ⟨nofun, fun h => absurd hp h.2.2.2⟩
  · rw [Except.ok.injEq, eq_comm]
    exact ⟨fun h => ⟨h, hr, he, hp⟩, And.left⟩

/-- How a device is found. -/
theorem lookupDeviceByToken_eq_some {d : Device} :
    lookupDeviceByToken env db token = .ok (some d) ↔
      d.enrollmentStatus ∉ ["revoked", "expired", "pending"] ∧
        (deviceByPrefix env db token = .ok (some d) ∨
          deviceByPrefix env db token = .ok none ∧
            deviceByScan env token (db.devices.select fun d => d.isActive) = .ok (some d)) := by
  have hcheck : ∀ d' : Device, (some <$> checkDeviceStatus d') = .ok (some d) ↔
      d.enrollmentStatus ∉ ["revoked", "expired", "pending"] ∧ d' = d := fun d' => by
    have hsome : (some <$> checkDeviceStatus d') = .ok (some d) ↔
        checkDeviceStatus d' = .ok d := by
      cases checkDeviceStatus d' <;> simp [Functor.map, Except.map]
    rw [hsome, checkDeviceStatus_eq_ok]
    constructor
    · rintro ⟨rfl, hs⟩
      exact ⟨hs, rfl⟩
    · rintro ⟨hs, rfl⟩
      exact ⟨rfl, hs⟩
  unfold lookupDeviceByToken
  cases hpre : deviceByPrefix env db token with
  | error e => simp [bind, Except.bind]
  | ok found =>
    cases found with
    | some d' =>
      simp only [ok_bind, hcheck, Except.ok.injEq, Option.some.injEq, reduceCtorEq, false_and,
        or_false]
    | none =>
      -- no device by the prefix, or the wrong secret for it: the scan decides
      cases hscan : deviceByScan env token (db.devices.select fun d => d.isActive) with
      | error e => simp [bind, Except.bind]
      | ok scanned =>
        cases scanned with
        | some d' =>
          simp only [ok_bind, hcheck, Except.ok.injEq, Option.some.injEq, reduceCtorEq, true_and,
            false_or]
        | none => simp

theorem lookupDeviceByToken_mem {d : Device}
    (h : lookupDeviceByToken env db token = .ok (some d)) : d ∈ db.devices := by
  obtain ⟨-, hfound⟩ := lookupDeviceByToken_eq_some.1 h
  rcases hfound with hpre | ⟨-, hscan⟩
  · exact (deviceByPrefix_eq_some hpre).1
  · exact (Table.mem_select.1 (deviceByScan_eq_some hscan).1).1

theorem getCurrentDeviceById_eq_ok {deviceId : Uuid} {d : Device}
    (h : getCurrentDeviceById env db deviceId token = .ok d) :
    db.devices.get? deviceId = some d := by
  simp only [getCurrentDeviceById, getCurrentDevice, bind_eq_ok, getOr_eq_ok, ensure_eq_ok,
    Except.ok.injEq] at h
  obtain ⟨d', ⟨found, hlookup, rfl⟩, -, hid, rfl⟩ := h
  exact Table.get?_eq_some_iff.2 ⟨lookupDeviceByToken_mem hlookup, hid⟩

end

end Midscale
