import Midscale.Api.ReadIsolation

/-!
# Who holds a private key

A device gets its key pair from the backend, which stores the private key encrypted, or keeps its
private key to itself and chooses its public key.  No column says which it is; what keeps the two
apart is that the first have no device token and are not node-owned, so that no request that chooses
a public key accepts them.

* `Device.Managed`, `Device.NodeKept` : the two kinds of devices.
* `ApiCall.handle_custody` : every request keeps every device of one kind.
* `key_custody_run` : **in every state of a run a stored private key is that of the public key next to
  it**, so that a configuration never comes with the wrong one.
-/

namespace Midscale

section

variable (security : Security) (pub : String → String)

/-- The backend holds the private key, and the device has no token. -/
structure Device.Managed (d : Device) : Prop where
  key : ∃ encrypted key, d.privateKeyEnc = some encrypted ∧
    security.decryptPrivateKey encrypted = .ok key ∧ d.publicKey = some (pub key)
  not_node : d.isNodeOwned = false
  no_token : d.deviceTokenHash = none

/-- The device holds the private key. -/
structure Device.NodeKept (d : Device) : Prop where
  no_key : d.privateKeyEnc = none
  node : d.isNodeOwned = true

/-- Every device is of one kind. -/
def Database.Custody (db : Database) : Prop :=
  ∀ d ∈ db.devices, d.Managed security pub ∨ d.NodeKept

/-- The request runs with these security functions and generates key pairs. -/
structure ApiCall.GeneratesPairs (c : ApiCall) : Prop where
  security_eq : c.env.security = security
  pair : c.entropy.keyPair.publicKey = pub c.entropy.keyPair.privateKey

end

section

variable {security : Security} {pub : String → String} {env : Env} {e : Entropy}
  {db db' : Database} {token : String}

theorem Device.not_nodeKept_and_managed {d : Device} (h : d.Managed security pub) :
    ¬ d.NodeKept := fun h' => by
  have hnode := h'.node
  rw [h.not_node] at hnode
  cases hnode

theorem Device.managed_withKeys
    (hround : ∀ nonce key, security.decryptPrivateKey (security.encryptPrivateKey nonce key) = .ok key)
    (hpair : e.keyPair.publicKey = pub e.keyPair.privateKey) {d : Device}
    (hnode : d.isNodeOwned = false) (htoken : d.deviceTokenHash = none) :
    (d.withKeys security e).Managed security pub where
  key := ⟨_, _, rfl, hround _ _, congrArg some hpair⟩
  not_node := hnode
  no_token := htoken

theorem Database.Custody.nodeKept_of_token (h : db.Custody security pub) {d : Device}
    (hd : getCurrentDevice env db token = .ok d) : d.NodeKept := by
  obtain ⟨found, hlookup, hfound⟩ := bind_eq_ok.1 hd
  obtain rfl := getOr_eq_ok.1 hfound
  have htoken : d.deviceTokenHash ≠ none := by
    obtain ⟨-, hpre | ⟨-, hscan⟩⟩ := lookupDeviceByToken_eq_some.1 hlookup
    · obtain ⟨-, -, hash, hhash, -⟩ := deviceByPrefix_eq_some hpre
      rw [hhash]
      exact Option.some_ne_none _
    · obtain ⟨hash, hhash, -⟩ := verifySecret_eq_true.1 (deviceByScan_eq_some hscan).2
      rw [hhash]
      exact Option.some_ne_none _
  exact (h d (lookupDeviceByToken_mem hlookup)).resolve_left fun hm => htoken hm.no_token

/-! ### Rows -/

theorem Database.Custody.of_subset (h : db.Custody security pub)
    (hsub : ∀ d ∈ db'.devices, d ∈ db.devices) : db'.Custody security pub :=
  fun d hd => h d (hsub d hd)

theorem Database.Custody.insert (h : db.Custody security pub) {device : Device}
    (hdevice : device.Managed security pub ∨ device.NodeKept)
    (hdevices : db.devices.insert device = some db'.devices) : db'.Custody security pub := by
  intro d hd
  rcases (Table.mem_insert hdevices).1 hd with hd | rfl
  · exact h d hd
  · exact hdevice

theorem Device.kind_flushed {now : Timestamp} {f : Device → Device} {d : Device}
    (hkey : (f d).privateKeyEnc = d.privateKeyEnc) (hnode : (f d).isNodeOwned = d.isNodeOwned)
    (hmanaged : d.Managed security pub →
      (f d).publicKey = d.publicKey ∧ (f d).deviceTokenHash = d.deviceTokenHash)
    (h : d.Managed security pub ∨ d.NodeKept) :
    (d.flushed now f).Managed security pub ∨ (d.flushed now f).NodeKept := by
  have hkey' : (d.flushed now f).privateKeyEnc = d.privateKeyEnc :=
    (d.flushed_column now f Device.privateKeyEnc fun _ _ => rfl).trans hkey
  have hnode' : (d.flushed now f).isNodeOwned = d.isNodeOwned :=
    (d.flushed_column now f Device.isNodeOwned fun _ _ => rfl).trans hnode
  rcases h with h | h
  · obtain ⟨hpublic, htoken⟩ := hmanaged h
    have htoken' : (d.flushed now f).deviceTokenHash = d.deviceTokenHash :=
      (d.flushed_column now f Device.deviceTokenHash fun _ _ => rfl).trans htoken
    refine .inl ⟨?_, hnode'.trans h.not_node, htoken'.trans h.no_token⟩
    rw [hkey', Device.flushed_publicKey, hpublic]
    exact h.key
  · exact .inr ⟨hkey'.trans h.no_key, hnode'.trans h.node⟩

theorem Database.Custody.assign (h : db.Custody security pub) {now : Timestamp} {deviceId : Uuid}
    {f : Device → Device} {hf : ∀ d, (f d).id = d.id} {d : Device}
    (hd : db.devices.get? deviceId = some d)
    (hdevices : db'.devices = (db.assign now deviceId f hf).devices) (hkey : (f d).privateKeyEnc = d.privateKeyEnc)
    (hnode : (f d).isNodeOwned = d.isNodeOwned)
    (hmanaged : d.Managed security pub →
      (f d).publicKey = d.publicKey ∧ (f d).deviceTokenHash = d.deviceTokenHash) :
    db'.Custody security pub := by
  intro d' hd'
  rw [Table.mem_def, hdevices] at hd'
  obtain ⟨r, hr, rfl⟩ := Database.mem_assign.1 hd'
  obtain ⟨hmem, hid⟩ := Table.get?_eq_some_iff.1 hd
  split_ifs with hrid
  · obtain rfl := db.devices.eq_of_pk hr hmem (hrid.trans hid.symm)
    exact Device.kind_flushed hkey hnode hmanaged (h r hr)
  · exact h r hr

/-! ### One request -/

/-- **A request about devices keeps every device of one kind.** -/
theorem Call.handle_custody
    (hround : ∀ nonce key, security.decryptPrivateKey (security.encryptPrivateKey nonce key) = .ok key)
    {c : Call} (hsecurity : c.env.security = security)
    (hpair : c.entropy.keyPair.publicKey = pub c.entropy.keyPair.privateKey)
    (h : db.Custody security pub) (hok : c.handle db = .ok db') : db'.Custody security pub := by
  obtain ⟨env, e, request⟩ := c
  dsimp only at hsecurity hpair
  unfold handle at hok
  cases request with
  | createNetwork token req =>
    obtain ⟨network, hok⟩ := snd_map_eq_ok.1 hok
    obtain ⟨user, net, ip, networks, devices, -, -, -, rfl, -, hdevices, rfl⟩ :=
      createNetwork_eq_ok hok
    rw [hsecurity] at hdevices
    exact h.insert (.inl (Device.managed_withKeys hround hpair rfl rfl)) hdevices
  | updateNetwork token networkId req =>
    obtain ⟨network, hok⟩ := snd_map_eq_ok.1 hok
    obtain ⟨user, n, -, -, rfl⟩ := updateNetwork_eq_ok hok
    exact h
  | createPreauthKey token networkId req =>
    obtain ⟨key, hok⟩ := snd_map_eq_ok.1 hok
    obtain ⟨user, n, keys, -, -, rfl, -, rfl⟩ := createPreauthKey_eq_ok hok
    exact h
  | createDevice token networkId req =>
    obtain ⟨device, hok⟩ := snd_map_eq_ok.1 hok
    obtain ⟨user, network, ip, devices, -, -, -, rfl, hdevices, rfl⟩ := createDevice_eq_ok hok
    rw [hsecurity] at hdevices
    exact h.insert (.inl (Device.managed_withKeys hround hpair rfl rfl)) hdevices
  | createNodeDevice token networkId req =>
    obtain ⟨device, hok⟩ := snd_map_eq_ok.1 hok
    obtain ⟨user, network, ip, devices, -, -, -, rfl, hdevices, rfl⟩ := createNodeDevice_eq_ok hok
    exact h.insert (.inr ⟨rfl, rfl⟩) hdevices
  | enrollByKey req =>
    obtain ⟨response, hok⟩ := snd_map_eq_ok.1 hok
    obtain ⟨preauth, network, ip, devices, -, -, -, -, hdevices, -, -, rfl⟩ := enrollByKey_eq_ok hok
    exact h.insert (.inr ⟨rfl, rfl⟩) hdevices
  | registerDevice req =>
    obtain ⟨device, hok⟩ := snd_map_eq_ok.1 hok
    obtain ⟨preauth, network, ip, devices, -, -, -, rfl, hdevices, rfl⟩ := registerDevice_eq_ok hok
    rw [hsecurity] at hdevices
    exact h.insert (.inl (Device.managed_withKeys hround hpair rfl rfl)) hdevices
  | updateDevice token deviceId req =>
    obtain ⟨device, hok⟩ := snd_map_eq_ok.1 hok
    obtain ⟨user, d, -, hd, -, rfl⟩ := updateDevice_eq_ok hok
    exact h.assign hd (Database.audit_devices ..) rfl rfl fun _ => ⟨rfl, rfl⟩
  | enrollDevice token deviceId req =>
    obtain ⟨response, hok⟩ := snd_map_eq_ok.1 hok
    obtain ⟨user, d, -, hd, -, hnode, -, -, rfl⟩ := enrollDevice_eq_ok hok
    -- only a node-owned device is enrolled
    refine h.assign hd (Database.audit_devices ..) rfl rfl fun hm => ?_
    rw [hm.not_node] at hnode
    cases hnode
  | heartbeat token deviceId req =>
    obtain ⟨response, hok⟩ := snd_map_eq_ok.1 hok
    obtain ⟨d, hd, rfl⟩ := deviceHeartbeat_eq_ok hok
    -- only a device with a token sends heartbeats
    refine h.assign (getCurrentDeviceById_eq_ok hd) rfl rfl rfl fun hm => ?_
    obtain ⟨d', hd', hrest⟩ := bind_eq_ok.1 hd
    obtain ⟨-, -, hsame⟩ := bind_eq_ok.1 hrest
    cases hsame
    exact absurd (h.nodeKept_of_token hd') (Device.not_nodeKept_and_managed hm)
  | revokeDevice token deviceId =>
    obtain ⟨_, hok⟩ := snd_map_eq_ok.1 hok
    obtain ⟨user, d, -, hd, -, rfl⟩ := revokeDevice_eq_ok hok
    exact h.assign hd (Database.audit_devices ..) rfl rfl fun _ => ⟨rfl, rfl⟩

/-- **Every request keeps every device of one kind.** -/
theorem ApiCall.handle_custody
    (hround : ∀ nonce key, security.decryptPrivateKey (security.encryptPrivateKey nonce key) = .ok key)
    {c : ApiCall} (hc : c.GeneratesPairs security pub) (h : db.Custody security pub)
    (hok : c.handle db = .ok db') : db'.Custody security pub := by
  obtain ⟨env, e, request⟩ := c
  obtain ⟨hsecurity, hpair⟩ := hc
  unfold handle at hok
  cases request with
  | device request => exact Call.handle_custody hround hsecurity hpair h hok
  | deleteNetwork token networkId =>
    obtain ⟨_, hok⟩ := snd_map_eq_ok.1 hok
    obtain ⟨user, network, -, -, -, rfl⟩ := deleteNetwork_eq_ok hok
    exact h.of_subset fun d hd => (Table.mem_delete.1 hd).1
  | deletePreauthKey token networkId keyId =>
    obtain ⟨_, hok⟩ := snd_map_eq_ok.1 hok
    obtain ⟨user, n, key, -, -, -, -, rfl⟩ := deleteOwned_eq_ok hok
    exact h
  | createAcl token networkId req =>
    obtain ⟨rule, hok⟩ := snd_map_eq_ok.1 hok
    obtain ⟨user, n, rows, -, -, -, rfl⟩ := createOwned_eq_ok hok
    exact h
  | updateAcl token networkId ruleId req =>
    obtain ⟨rule, hok⟩ := snd_map_eq_ok.1 hok
    obtain ⟨user, n, old, -, -, -, -, rfl⟩ := updateAcl_eq_ok hok
    exact h
  | deleteAcl token networkId ruleId =>
    obtain ⟨_, hok⟩ := snd_map_eq_ok.1 hok
    obtain ⟨user, n, rule, -, -, -, -, rfl⟩ := deleteOwned_eq_ok hok
    exact h
  | createDns token networkId req =>
    obtain ⟨entry, hok⟩ := snd_map_eq_ok.1 hok
    obtain ⟨user, n, rows, -, -, -, rfl⟩ := createOwned_eq_ok hok
    exact h
  | deleteDns token networkId entryId =>
    obtain ⟨_, hok⟩ := snd_map_eq_ok.1 hok
    obtain ⟨user, n, entry, -, -, -, -, rfl⟩ := deleteOwned_eq_ok hok
    exact h
  | advertiseRoute token networkId req =>
    obtain ⟨route, hok⟩ := snd_map_eq_ok.1 hok
    obtain ⟨user, n, d, routes, -, -, -, -, -, -, -, rfl⟩ := advertiseRoute_eq_ok hok
    exact h
  | deviceAdvertiseRoute token deviceId req =>
    obtain ⟨route, hok⟩ := snd_map_eq_ok.1 hok
    obtain ⟨d, routes, -, -, -, -, rfl⟩ := deviceAdvertiseRoute_eq_ok hok
    exact h
  | approveRoute token routeId req =>
    obtain ⟨route, hok⟩ := snd_map_eq_ok.1 hok
    obtain ⟨user, old, -, -, rfl⟩ := approveRoute_eq_ok hok
    exact h
  | updateRoute token routeId req =>
    obtain ⟨route, hok⟩ := snd_map_eq_ok.1 hok
    obtain ⟨user, old, -, -, rfl⟩ := updateRoute_eq_ok hok
    exact h
  | deleteRoute token routeId =>
    obtain ⟨_, hok⟩ := snd_map_eq_ok.1 hok
    exact absurd hok (deleteRoute_ne_ok routeId _)
  | selectExitNode token deviceId req =>
    obtain ⟨route, hok⟩ := snd_map_eq_ok.1 hok
    obtain ⟨user, d, -, hd, -, rfl⟩ := selectExitNode_eq_ok hok
    exact h.assign hd (Database.audit_devices ..) rfl rfl fun _ => ⟨rfl, rfl⟩
  | rotateDeviceToken token deviceId =>
    obtain ⟨newToken, hok⟩ := snd_map_eq_ok.1 hok
    obtain ⟨d, hcurrent, hd, -, rfl⟩ := rotateDeviceToken_eq_ok hok
    exact h.assign hd rfl rfl rfl fun hm =>
      absurd (h.nodeKept_of_token hcurrent) (Device.not_nodeKept_and_managed hm)

end

/-! ### Runs -/

/-- **A stored private key is that of the public key next to it**, in every state of a run from no
devices; devices with a token hold their private keys themselves; and a configuration comes with the
private key that its device has published the other half of. -/
theorem key_custody_run {security : Security} {pub : String → String} (users : Table User)
    (hround : ∀ nonce key, security.decryptPrivateKey (security.encryptPrivateKey nonce key) = .ok key)
    {calls : List ApiCall} (hcalls : ∀ c ∈ calls, c.GeneratesPairs security pub) :
    let db := run serveApi { users } calls
    (∀ d ∈ db.devices, d.Managed security pub ∨ d.NodeKept) ∧
      ∀ (env : Env) (deviceId : Uuid) (text : String), env.security = security →
        getDeviceConfig env db deviceId = .ok text →
          ∃ (d : Device) (config : WireGuardConfig), db.devices.get? deviceId = some d ∧ d.deviceTokenHash = none ∧
            config.toIni = .ok text ∧ d.publicKey = some (pub config.privateKey) := by
  have hadmissible : Admissible serveApi (fun _ c => c.GeneratesPairs security pub) { users } calls :=
    (admissible_const_iff serveApi).2 hcalls
  have hcustody : (run serveApi { users } calls).Custody security pub :=
    run_invariant_of_admissible serveApi
      (fun db c h hc => serveApi_cases h fun db' hok => ApiCall.handle_custody hround hc h hok)
      (fun d hd => absurd hd List.not_mem_nil) hadmissible
  refine ⟨hcustody, fun env deviceId text hsecurity h => ?_⟩
  obtain ⟨d, config, hd, hini, hkey⟩ := getDeviceConfig_privateKey h
  have hmem := (Table.get?_eq_some_iff.1 hd).1
  have hheld : truthy d.privateKeyEnc = true := by
    simp only [getDeviceConfig, bind_eq_ok, getOr_eq_ok, ensure_eq_ok] at h
    obtain ⟨d', hd', _, ⟨-, hheld, -⟩, -⟩ := h
    cases hd.symm.trans hd'
    exact hheld
  rcases hcustody d hmem with hmanaged | hkept
  · obtain ⟨encrypted, key, hencrypted, hdecrypt, hpublic⟩ := hmanaged.key
    rw [hsecurity, hencrypted, Option.getD_some, hdecrypt] at hkey
    cases hkey
    exact ⟨d, config, hd, hmanaged.no_token, hini, hpublic⟩
  · rw [hkept.no_key] at hheld
    cases hheld

theorem plainSecurity_round (tokens : List (String × Dict String Json)) (nonce key : String) :
    (plainSecurity tokens).decryptPrivateKey ((plainSecurity tokens).encryptPrivateKey nonce key) =
      .ok key := by
  simp [plainSecurity]

/-- The requests of the office. -/
def officeApiCalls : List ApiCall :=
  officeCalls.map fun c => { env := c.env, entropy := c.entropy, request := .device c.request }

/-- The hub's private key is with the backend, the laptop's is with the laptop. -/
theorem key_custody_run_office :
    (run serveApi { users := officeUsers } officeApiCalls).Custody officeEnv.security
      fun _ => "public" := by
  have hcalls : ∀ c ∈ officeApiCalls, c.GeneratesPairs officeEnv.security fun _ => "public" := by
    simp only [officeApiCalls, officeCalls, List.map_cons, List.map_nil, List.forall_mem_cons]
    exact ⟨⟨rfl, rfl⟩, ⟨rfl, rfl⟩, ⟨rfl, rfl⟩, List.forall_mem_nil _⟩
  exact (key_custody_run officeUsers (plainSecurity_round _) hcalls).1

end Midscale
