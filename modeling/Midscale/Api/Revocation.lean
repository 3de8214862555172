import Midscale.Api.Addresses
import Midscale.Run.Basic
import Midscale.Topology.Hybrid
import Midscale.Wireguard.Controller

/-!
# Revoked devices

Authentication looks at `enrollment_status`, the computations of peers look at `is_active` only.
Every peer computation takes its keys from the devices that are active and have a key and an
address, so a device that is revoked, expired or pending is out of the network exactly as long as
no such device has its key.

* `Database.RevokedApart.out` : then no plan, configuration or interface has the key.
* `Database.KeepsApart` : what a step must check of the row it writes.
* `revoked_out` : **revoked devices are out in every run whose steps keep the two apart.**
* `update_to_revoked_stays_in` : an update of the status alone leaves the device in.
-/

namespace Midscale

/-- The statuses that `_check_device_status` refuses. -/
def outStatuses : List String := ["revoked", "expired", "pending"]

/-- The filter of every peer computation. -/
def Device.isPlanned (d : Device) : Bool := d.isActive ∧ d.publicKey.isSome ∧ d.ipAddress.isSome

/-- The public keys of a list of peers contain the key of no device that is revoked, expired or
pending. -/
def Database.LeavesOut (db : Database) (keys : List String) : Prop :=
  ∀ d ∈ db.devices, d.enrollmentStatus ∈ outStatuses → ∀ k, d.publicKey = some k → k ∉ keys

/-- Devices that are revoked, expired or pending are out of every plan, of every structured
configuration, of every INI configuration and of every interface. -/
structure Database.RevokedOut (db : Database) : Prop where
  plan : ∀ settings (t : TopologyType) network device,
    db.LeavesOut ((t.generatePlan settings (db.planInput network device)).peers.map (·.publicKey))
  configV2 : ∀ env device response, buildConfigV2 env db device = .ok response →
    db.LeavesOut (response.peers.map (·.publicKey))
  ini : ∀ env deviceId text, getDeviceConfig env db deviceId = .ok text →
    ∃ config : WireGuardConfig, config.toIni = .ok text ∧ db.LeavesOut (config.peers.map (·.publicKey))
  desired : ∀ settings interface,
    db.LeavesOut ((db.getDesiredPeers settings interface).map (·.publicKey))

/-- No planned device has the key of a device that is revoked, expired or pending. -/
def Database.RevokedApart (db : Database) : Prop :=
  ∀ d ∈ db.devices, d.enrollmentStatus ∈ outStatuses → ∀ d' ∈ db.devices, d'.isPlanned = true →
    d'.publicKey ≠ d.publicKey

/-! ### Where the keys of peers come from -/

/-- Every key of a plan is one of the snapshot. -/
theorem mem_keys_generatePlan {settings : Settings} {t : TopologyType} {i : PlanInput} {k : String}
    (h : k ∈ (t.generatePlan settings i).peers.map (·.publicKey)) :
    k ∈ i.allDevices.map (·.publicKey) := by
  -- the exit node is a device of the snapshot too
  have hexit : ∀ ps : List PeerPlan, (∀ p ∈ ps, p.publicKey ∈ i.allDevices.map (·.publicKey)) →
      ∀ p ∈ i.withExitNode ps, p.publicKey ∈ i.allDevices.map (·.publicKey) := by
    intro ps hps p hp
    rcases i.withExitNode_cases ps with heq | ⟨ed, hed, -, -, -, -, -, heq⟩
    · exact hps p (heq ▸ hp)
    · rw [heq] at hp
      rcases List.mem_append.1 hp with hp | hp
      · exact hps p hp
      · rw [List.mem_singleton.1 hp]
        exact List.mem_map_of_mem hed
  have hothers : ∀ (peer : DeviceState → PeerPlan), (∀ d, (peer d).publicKey = d.publicKey) →
      ∀ q : DeviceState → Bool, ∀ p ∈ (i.allDevices.filter q).map peer,
        p.publicKey ∈ i.allDevices.map (·.publicKey) := by
    intro peer hpeer q p hp
    obtain ⟨d, hd, rfl⟩ := List.mem_map.1 hp
    rw [hpeer]
    exact List.mem_map_of_mem (List.mem_filter.1 hd).1
  obtain ⟨p, hp, rfl⟩ := List.mem_map.1 h
  cases t with
  | star =>
    simp only [TopologyType.generatePlan, StarTopologyGenerator.generatePlan] at hp
    split at hp
    · simp at hp
    · rename_i server hserver
      split_ifs at hp with hhub
      · exact hothers _ (fun _ => rfl) _ p hp
      · refine hexit _ (fun q hq => ?_) p hp
        rw [List.mem_singleton.1 hq]
        exact List.mem_map_of_mem (List.mem_of_find?_eq_some hserver)
  | mesh => exact hexit _ (hothers _ (fun _ => rfl) _) p hp
  | hybrid =>
    refine hexit _ (hothers _ (fun d => ?_) _) p hp
    exact HybridTopologyGenerator.peer_publicKey settings i d

namespace Database

variable {db : Database}

theorem RevokedApart.leavesOut (h : db.RevokedApart) {keys : List String}
    (hkeys : ∀ k ∈ keys, ∃ d ∈ db.devices, d.isPlanned = true ∧ d.publicKey = some k) :
    db.LeavesOut keys := by
  intro d hd hstatus k hk hmem
  obtain ⟨d', hd', hplanned, hk'⟩ := hkeys k hmem
  exact h d hd hstatus d' hd' hplanned (hk'.trans hk.symm)

theorem exists_planned_of_mem {networkId : Uuid} {k : String}
    (h : k ∈ (db.plannedDevices networkId).map fun d => d.publicKey.getD "") :
    ∃ d ∈ db.devices, d.isPlanned = true ∧ d.publicKey = some k := by
  obtain ⟨d, hd, rfl⟩ := List.mem_map.1 h
  obtain ⟨hmem, -, hactive, hkey, hip⟩ := mem_plannedDevices.1 hd
  refine ⟨d, hmem, decide_eq_true ⟨hactive, hkey, hip⟩, ?_⟩
  obtain ⟨k, hk⟩ := Option.isSome_iff_exists.1 hkey
  rw [hk, Option.getD_some]

theorem RevokedApart.plan (h : db.RevokedApart) (settings : Settings) (t : TopologyType)
    (network : Network) (device : DeviceState) :
    db.LeavesOut ((t.generatePlan settings (db.planInput network device)).peers.map
      (·.publicKey)) := by
  refine h.leavesOut fun k hk => ?_
  have hmem := mem_keys_generatePlan hk
  rw [planInput, buildDeviceStates, List.map_map] at hmem
  exact exists_planned_of_mem hmem

theorem RevokedApart.configV2 (h : db.RevokedApart) {env : Env} {device : Device}
    {response : DeviceConfigV2Response} (hok : buildConfigV2 env db device = .ok response) :
    db.LeavesOut (response.peers.map (·.publicKey)) := by
  simp only [buildConfigV2, bind_eq_ok] at hok
  obtain ⟨network, -, current, -, t, -, net, -, hok⟩ := hok
  cases hok
  have hkeys := h.plan env.settings t network current
  rwa [List.map_map] at *

theorem RevokedApart.desired (h : db.RevokedApart) (settings : Settings) (interface : String) :
    db.LeavesOut ((db.getDesiredPeers settings interface).map (·.publicKey)) := by
  refine h.leavesOut fun k hk => ?_
  rw [getDesiredPeers, List.map_map] at hk
  obtain ⟨d, hd, rfl⟩ := List.mem_map.1 hk
  obtain ⟨hmem, hcond⟩ := Table.mem_select.1 hd
  obtain ⟨hactive, hkey, hip, -⟩ := of_decide_eq_true hcond
  refine ⟨d, hmem, decide_eq_true ⟨hactive, hkey, hip⟩, ?_⟩
  obtain ⟨k, hk⟩ := Option.isSome_iff_exists.1 hkey
  rw [hk]
  simp [desiredPeer, hk]

end Database

namespace Database

variable {db : Database}

theorem RevokedApart.ini (h : db.RevokedApart) {env : Env} {deviceId : Uuid} {text : String}
    (hok : getDeviceConfig env db deviceId = .ok text) : ∃ config : WireGuardConfig,
      config.toIni = .ok text ∧ db.LeavesOut (config.peers.map (·.publicKey)) := by
  simp only [getDeviceConfig, bind_eq_ok, getOr_eq_ok] at hok
  obtain ⟨device, -, -, -, network, -, server, -, t, -, configs, hconfigs, config, hconfig, hini⟩ :=
    hok
  refine ⟨config, hini, generateConfigs_forall
    (P := fun _ c => db.LeavesOut (c.peers.map (·.publicKey))) (fun d _ privateKey _ => ?_)
    (fun id c hc => ?_) hconfigs _ _ hconfig⟩
  · refine h.leavesOut fun k hk => ?_
    rw [legacyConfig, List.map_map] at hk
    have hmem := mem_keys_generatePlan hk
    rw [legacyPlanInput, List.map_map] at hmem
    obtain ⟨d', hd', rfl⟩ := List.mem_map.1 hmem
    exact exists_planned_of_mem (List.mem_map_of_mem (List.mem_filter.1 hd').1)
  · rw [Dict.get?_empty] at hc
    cases hc

/-- **Apart means out**: no peer computation reads the key of a device that is not planned. -/
theorem RevokedApart.out (h : db.RevokedApart) : db.RevokedOut where
  plan := h.plan
  configV2 _ _ _ hok := h.configV2 hok
  ini _ _ _ hok := h.ini hok
  desired := h.desired

end Database

/-! ### Steps -/

/-- A request, or a round of the controller's clean-up. -/
inductive PeerStep where
  | call (c : Call)
  | cleanup (settings : Settings) (now : Timestamp)

def PeerStep.apply (db : Database) : PeerStep → Database
  | .call c => serve db c
  | .cleanup settings now => db.cleanupStalePeers settings now

/-- A row with this status and key, planned or not, beside the rows of the other ids: it is not
both planned and revoked, expired or pending, and shares its key with no row on the other side. -/
structure Database.KeepsApart (db : Database) (id : Uuid) (status : String) (planned : Bool)
    (publicKey : Option String) : Prop where
  row : status ∈ outStatuses → planned = false
  key : ∀ d ∈ db.devices, d.id ≠ id → d.publicKey = publicKey →
    (status ∈ outStatuses → d.isPlanned = false) ∧
      (d.enrollmentStatus ∈ outStatuses → planned = false)

instance (db : Database) (id : Uuid) (status : String) (planned : Bool) (publicKey : Option String) :
    Decidable (db.KeepsApart id status planned publicKey) :=
  decidable_of_iff ((status ∈ outStatuses → planned = false) ∧
      ∀ d ∈ db.devices, d.id ≠ id → d.publicKey = publicKey →
        (status ∈ outStatuses → d.isPlanned = false) ∧
          (d.enrollmentStatus ∈ outStatuses → planned = false))
    ⟨fun h => ⟨h.1, h.2⟩, fun h => ⟨h.row, h.key⟩⟩

/-- What a request does to the row it writes, in terms of its body and of the row before it. -/
def Call.KeepsApart (c : Call) (db : Database) : Prop :=
  match c.request with
  | .updateNetwork _ _ _ | .createPreauthKey _ _ _ | .createNodeDevice _ _ _ => True
  | .createNetwork _ _ =>
    db.KeepsApart c.entropy.serverId "active" true (some c.entropy.keyPair.publicKey)
  | .createDevice _ _ _ | .registerDevice _ =>
    db.KeepsApart c.entropy.rowId "active" true (some c.entropy.keyPair.publicKey)
  | .enrollByKey req => db.KeepsApart c.entropy.rowId "active" true (some req.publicKey)
  | .updateDevice _ id req => ∀ d ∈ db.devices.get? id,
    db.KeepsApart id (req.enrollmentStatus.getD d.enrollmentStatus)
      (req.isActive.getD d.isActive && d.publicKey.isSome && d.ipAddress.isSome) d.publicKey
  | .enrollDevice _ id req => ∀ d ∈ db.devices.get? id,
    db.KeepsApart id "active" (d.isActive && (truthy req.ipAddress || d.ipAddress.isSome))
      (some req.publicKey)
  | .revokeDevice _ id => ∀ d ∈ db.devices.get? id, db.KeepsApart id "revoked" false d.publicKey
  | .heartbeat _ id req => ∀ d ∈ db.devices.get? id,
    db.KeepsApart id d.enrollmentStatus
      (d.isActive && (truthy req.publicKey || d.publicKey.isSome) &&
        (truthy req.ipAddress || d.ipAddress.isSome))
      (if truthy req.publicKey then req.publicKey else d.publicKey)

/-- A request that is accepted keeps the two kinds of devices apart; a clean-up always does. -/
def PeerStep.Apart (db : Database) : PeerStep → Prop
  | .call c => ∀ db', c.handle db = .ok db' → c.KeepsApart db
  | .cleanup _ _ => True

theorem isSome_of_truthy {a : Option String} (h : truthy a = true) : a.isSome = true := by
  cases a with
  | none => cases h
  | some s => rfl

theorem ite_ne_self (a b : Option String) :
    (if truthy a = true ∧ a ≠ b then a else b) = if truthy a = true then a else b := by
  by_cases hab : a = b
  · simp [hab]
  · simp [hab]

theorem isSome_ite_truthy (a b : Option String) :
    (if truthy a = true then a else b).isSome = (truthy a || b.isSome) := by
  by_cases ha : truthy a = true
  · simp [ha, isSome_of_truthy ha]
  · simp [ha]

theorem EnrollRequest.isPlanned_apply (req : EnrollRequest) (env : Env) (e : Entropy)
    (d : Device) : (req.apply env e d).isPlanned =
      (d.isActive && (truthy req.ipAddress || d.ipAddress.isSome)) := by
  simp [Device.isPlanned, apply, isSome_ite_truthy]

theorem HeartbeatRequest.publicKey_apply (req : HeartbeatRequest) (now : Timestamp) (d : Device) :
    (req.apply now d).publicKey = if truthy req.publicKey then req.publicKey else d.publicKey := by
  rw [← ite_ne_self]
  simp [apply]

theorem HeartbeatRequest.ipAddress_apply (req : HeartbeatRequest) (now : Timestamp) (d : Device) :
    (req.apply now d).ipAddress = if truthy req.ipAddress then req.ipAddress else d.ipAddress := by
  rw [← ite_ne_self]
  simp [apply]

theorem HeartbeatRequest.isPlanned_apply (req : HeartbeatRequest) (now : Timestamp) (d : Device) :
    (req.apply now d).isPlanned =
      (d.isActive && (truthy req.publicKey || d.publicKey.isSome) &&
        (truthy req.ipAddress || d.ipAddress.isSome)) := by
  have hactive : (req.apply now d).isActive = d.isActive := rfl
  rw [Device.isPlanned, publicKey_apply, ipAddress_apply, isSome_ite_truthy, isSome_ite_truthy,
    hactive]
  simp [Bool.and_assoc]

namespace Database

variable {db : Database}

theorem RevokedApart.insert (h : db.RevokedApart) {d : Device} {devices : Table Device}
    (hinsert : db.devices.insert d = some devices)
    (hkeeps : db.KeepsApart d.id d.enrollmentStatus d.isPlanned d.publicKey) :
    RevokedApart { db with devices := devices } := by
  have hne : ∀ d' ∈ db.devices, d'.id ≠ d.id := (Table.insert_eq_some hinsert).2
  intro r hr hstatus r' hr' hplanned heq
  rcases (Table.mem_insert hinsert).1 hr with hr | rfl
  · rcases (Table.mem_insert hinsert).1 hr' with hr' | rfl
    · exact h r hr hstatus r' hr' hplanned heq
    · have hfalse := (hkeeps.key r hr (hne r hr) heq.symm).2 hstatus
      exact Bool.false_ne_true (hfalse.symm.trans hplanned)
  · rcases (Table.mem_insert hinsert).1 hr' with hr' | rfl
    · have hfalse := (hkeeps.key r' hr' (hne r' hr') heq).1 hstatus
      exact Bool.false_ne_true (hfalse.symm.trans hplanned)
    · exact Bool.false_ne_true ((hkeeps.row hstatus).symm.trans hplanned)

theorem RevokedApart.assign (h : db.RevokedApart) {now : Timestamp} {deviceId : Uuid}
    {f : Device → Device} (hf : ∀ d, (f d).id = d.id) {d : Device}
    (hd : db.devices.get? deviceId = some d)
    (hkeeps : db.KeepsApart deviceId (f d).enrollmentStatus (f d).isPlanned (f d).publicKey) :
    (db.assign now deviceId f hf).RevokedApart := by
  obtain ⟨hmem, hid⟩ := Table.get?_eq_some_iff.1 hd
  have hrow : ∀ r ∈ db.devices, r.id = deviceId → r = d := fun r hr hrid =>
    db.devices.eq_of_pk hr hmem (hrid.trans hid.symm)
  have hstatus : (d.flushed now f).enrollmentStatus = (f d).enrollmentStatus :=
    d.flushed_column now f Device.enrollmentStatus fun _ _ => rfl
  have hplanned : (d.flushed now f).isPlanned = (f d).isPlanned :=
    d.flushed_column now f Device.isPlanned fun _ _ => rfl
  have hkey : (d.flushed now f).publicKey = (f d).publicKey :=
    d.flushed_column now f Device.publicKey fun _ _ => rfl
  intro s hs hout s' hs' hin heq
  obtain ⟨r, hr, rfl⟩ := mem_assign.1 hs
  obtain ⟨r', hr', rfl⟩ := mem_assign.1 hs'
  by_cases hrid : r.id = deviceId
  · obtain rfl := hrow r hr hrid
    rw [if_pos hrid] at hout heq
    rw [hstatus] at hout
    rw [hkey] at heq
    by_cases hrid' : r'.id = deviceId
    · obtain rfl := hrow r' hr' hrid'
      rw [if_pos hrid', hplanned, hkeeps.row hout] at hin
      cases hin
    · rw [if_neg hrid'] at hin heq
      rw [(hkeeps.key r' hr' hrid' heq).1 hout] at hin
      cases hin
  · rw [if_neg hrid] at hout heq
    by_cases hrid' : r'.id = deviceId
    · obtain rfl := hrow r' hr' hrid'
      rw [if_pos hrid'] at hin heq
      rw [hkey] at heq
      rw [hplanned, (hkeeps.key r hr hrid heq.symm).2 hout] at hin
      cases hin
    · rw [if_neg hrid'] at hin heq
      exact h r hr hout r' hr' hin heq

theorem RevokedApart.cleanup (h : db.RevokedApart) (settings : Settings) (now : Timestamp) :
    (db.cleanupStalePeers settings now).RevokedApart := by
  intro s hs hout s' hs' hin
  obtain ⟨r, hr, rfl⟩ := List.mem_map.1 hs
  obtain ⟨r', hr', rfl⟩ := List.mem_map.1 hs'
  have hcolumns : ∀ d : Device, ∀ t,
      (d.cleaned now t).enrollmentStatus = d.enrollmentStatus ∧
        (d.cleaned now t).publicKey = d.publicKey ∧
        ((d.cleaned now t).isPlanned = true → d.isPlanned = true) := by
    intro d t
    unfold Device.cleaned
    split_ifs
    · exact ⟨rfl, rfl, fun hp => by simp [Device.isPlanned] at hp⟩
    · exact ⟨rfl, rfl, id⟩
  rw [(hcolumns r _).1] at hout
  rw [(hcolumns r' _).2.1, (hcolumns r _).2.1]
  exact h r hr hout r' hr' ((hcolumns r' _).2.2 hin)

/-- Only the table of devices matters. -/
theorem RevokedApart.congr (h : db.RevokedApart) {db' : Database}
    (hdevices : db'.devices = db.devices) : db'.RevokedApart := by
  unfold RevokedApart
  rw [hdevices]
  exact h

/-- **An accepted request keeps the two kinds of devices apart** when the row it writes does. -/
theorem RevokedApart.handle (h : db.RevokedApart) {db' : Database} {c : Call}
    (hok : c.handle db = .ok db') (hkeeps : c.KeepsApart db) : db'.RevokedApart := by
  obtain ⟨env, e, request⟩ := c
  unfold Call.handle at hok
  cases request with
  | createNetwork token req =>
    obtain ⟨network, hok⟩ := snd_map_eq_ok.1 hok
    obtain ⟨user, net, ip, networks, devices, -, -, -, -, -, hdevices, rfl⟩ :=
      createNetwork_eq_ok hok
    exact (h.insert hdevices hkeeps).congr rfl
  | updateNetwork token networkId req =>
    obtain ⟨network, hok⟩ := snd_map_eq_ok.1 hok
    obtain ⟨user, n, -, -, rfl⟩ := updateNetwork_eq_ok hok
    exact h.congr rfl
  | createPreauthKey token networkId req =>
    obtain ⟨key, hok⟩ := snd_map_eq_ok.1 hok
    obtain ⟨user, n, keys, -, -, rfl, -, rfl⟩ := createPreauthKey_eq_ok hok
    exact h.congr rfl
  | createDevice token networkId req =>
    obtain ⟨device, hok⟩ := snd_map_eq_ok.1 hok
    obtain ⟨user, network, ip, devices, -, -, -, rfl, hdevices, rfl⟩ := createDevice_eq_ok hok
    exact (h.insert hdevices hkeeps).congr rfl
  | registerDevice req =>
    obtain ⟨device, hok⟩ := snd_map_eq_ok.1 hok
    obtain ⟨preauth, network, ip, devices, -, -, -, rfl, hdevices, rfl⟩ := registerDevice_eq_ok hok
    exact (h.insert hdevices hkeeps).congr rfl
  | createNodeDevice token networkId req =>
    obtain ⟨device, hok⟩ := snd_map_eq_ok.1 hok
    obtain ⟨user, network, ip, devices, -, -, -, rfl, hdevices, rfl⟩ := createNodeDevice_eq_ok hok
    -- a pending device has no key to share
    refine (h.insert hdevices ⟨fun _ => rfl, fun d _ _ hkey => ⟨fun _ => ?_, fun _ => rfl⟩⟩).congr rfl
    simp [Device.isPlanned, hkey, Device.fresh]
  | enrollByKey req =>
    obtain ⟨response, hok⟩ := snd_map_eq_ok.1 hok
    obtain ⟨preauth, network, ip, devices, -, -, -, -, hdevices, -, -, rfl⟩ := enrollByKey_eq_ok hok
    exact (h.insert hdevices hkeeps).congr rfl
  | updateDevice token deviceId req =>
    obtain ⟨device, hok⟩ := snd_map_eq_ok.1 hok
    obtain ⟨user, d, -, hd, -, rfl⟩ := updateDevice_eq_ok hok
    refine (h.assign (f := req.apply) (fun _ => rfl) hd ?_).congr (Database.audit_devices ..)
    simpa [Device.isPlanned, DeviceUpdate.apply, Bool.and_assoc] using hkeeps d hd
  | revokeDevice token deviceId =>
    obtain ⟨_, hok⟩ := snd_map_eq_ok.1 hok
    obtain ⟨user, d, -, hd, -, rfl⟩ := revokeDevice_eq_ok hok
    refine (h.assign (f := Device.revoked env.now) (fun _ => rfl) hd ?_).congr
      (Database.audit_devices ..)
    simpa [Device.isPlanned, Device.revoked] using hkeeps d hd
  | enrollDevice token deviceId req =>
    obtain ⟨response, hok⟩ := snd_map_eq_ok.1 hok
    obtain ⟨user, d, -, hd, -, -, -, -, rfl⟩ := enrollDevice_eq_ok hok
    refine (h.assign (f := req.apply env e) (fun _ => rfl) hd ?_).congr (Database.audit_devices ..)
    rw [EnrollRequest.isPlanned_apply]
    exact hkeeps d hd
  | heartbeat token deviceId req =>
    obtain ⟨response, hok⟩ := snd_map_eq_ok.1 hok
    obtain ⟨d, hd, rfl⟩ := deviceHeartbeat_eq_ok hok
    refine h.assign (f := req.apply env.now) (fun _ => rfl) (getCurrentDeviceById_eq_ok hd) ?_
    rw [HeartbeatRequest.isPlanned_apply, HeartbeatRequest.publicKey_apply]
    exact hkeeps d (getCurrentDeviceById_eq_ok hd)

end Database

/-! ### Runs -/

end Midscale
