import Midscale.Api.ExitNodes
import Midscale.Api.Tenancy

/-!
# The audit trail

Every endpoint that writes calls the audit logger by hand, in the transaction of its write.  Two of
them do not: a device that rotates its token or advertises a route leaves no entry.  The endpoints
that update a row enter what they were asked to do, also when the row has these values already.

* `Journaled` : a step enters what it changes, and nothing else.
* `ApiCall.handle_outcome` : what a request that succeeds enters and changes.
* `audited_iff` : **a request is audited exactly if it is no silent change and no idle update**, all
  along every run.
-/

namespace Midscale

/-! ### Journals -/

section Journal

variable {σ δ ε : Type*} (data : σ → δ) (log : σ → List ε) (names : ε → Prop)

/-- A step that changes the data makes one entry of it; a step that does not makes none. -/
def Journaled (s s' : σ) : Prop :=
  (data s' = data s → log s' = log s) ∧
    (data s' ≠ data s → ∃ e, log s' = log s ++ [e] ∧ names e)

variable {data log names} {s s' : σ}

theorem journaled_refl (s : σ) : Journaled data log names s s :=
  ⟨fun _ => rfl, fun h => absurd rfl h⟩

theorem journaled_iff_of_entry {e : ε} (hlog : log s' = log s ++ [e]) (he : names e) :
    Journaled data log names s s' ↔ data s' ≠ data s := by
  constructor
  · rintro ⟨hsame, -⟩ heq
    have hnone := hlog.symm.trans (hsame heq)
    simp at hnone
  · exact fun hne => ⟨fun heq => absurd heq hne, fun _ => ⟨e, hlog, he⟩⟩

theorem journaled_iff_of_silent (hlog : log s' = log s) :
    Journaled data log names s s' ↔ data s' = data s := by
  constructor
  · rintro ⟨-, hentry⟩
    by_contra hne
    obtain ⟨e, happend, -⟩ := hentry hne
    have hnone := hlog.symm.trans happend
    simp at hnone
  · exact fun heq => ⟨fun _ => hlog, fun hne => absurd heq hne⟩

end Journal

/-! ### Changes of a table -/

namespace Table

variable {ρ κ : Type} [Row ρ κ] [DecidableEq κ] {t t' : Table ρ} {k : κ} {r : ρ}

theorem insert_ne (h : t.insert r = some t') : t' ≠ t := by
  rintro rfl
  exact (insert_eq_some h).2 r ((mem_insert h).2 (.inr rfl)) rfl

omit [DecidableEq κ] in
theorem delete_ne {p : ρ → Bool} (hr : r ∈ t) (hp : p r = true) : t.delete p ≠ t := by
  intro heq
  have hmem : r ∈ t.delete p := heq.symm ▸ hr
  rw [mem_delete, hp] at hmem
  exact absurd hmem.2 (by decide)

theorem delete_pk_ne (h : t.get? k = some r) : (t.delete fun r => Row.pk r = k) ≠ t :=
  delete_ne (get?_eq_some_iff.1 h).1 (decide_eq_true (get?_eq_some_iff.1 h).2)

theorem modify_eq_self_iff {f : ρ → ρ} (hf : ∀ r, Row.pk (f r) = Row.pk r)
    (h : t.get? k = some r) : t.modify k f hf = t ↔ f r = r := by
  obtain ⟨hr, hk⟩ := get?_eq_some_iff.1 h
  constructor
  · intro heq
    have hget : (t.modify k f hf).get? k = _ := get?_modify k
    rw [heq, h, Option.map_some, if_pos hk, Option.some.injEq] at hget
    exact hget.symm
  · intro heq
    refine ext_rows ((List.map_congr_left fun r' hr' => ?_).trans (List.map_id' t.rows))
    split_ifs with hk'
    · rw [t.eq_of_pk hr' hr (hk'.trans hk.symm), heq]
    · rfl

theorem exists_get?_iff (h : t.get? k = some r) {P : ρ → Prop} :
    (∃ r, t.get? k = some r ∧ P r) ↔ P r := by
  constructor
  · rintro ⟨r', h', hr'⟩
    obtain rfl : r = r' := Option.some.inj (h.symm.trans h')
    exact hr'
  · exact fun hr => ⟨r, h, hr⟩

end Table

theorem Device.flushed_eq_self_iff {now : Timestamp} {f : Device → Device} {d : Device}
    (h : (f d).updatedAt = d.updatedAt ∨ (f d).updatedAt = now) :
    d.flushed now f = d ↔ f d = d := by
  unfold flushed
  split_ifs with hf
  · exact iff_of_true rfl hf
  · refine iff_of_false (fun heq => hf ?_) hf
    have hnow : now = d.updatedAt := congrArg Device.updatedAt heq
    have hsame : { f d with updatedAt := now } = f d := by
      rcases h with h | h
      · rw [hnow, ← h]
      · rw [← h]
    exact hsame.symm.trans heq

theorem Database.assign_devices_eq_iff {db : Database} (now : Timestamp) {deviceId : Uuid}
    (f : Device → Device) (hf : ∀ d, (f d).id = d.id) {d : Device}
    (hd : db.devices.get? deviceId = some d)
    (h : (f d).updatedAt = d.updatedAt ∨ (f d).updatedAt = now) :
    (db.assign now deviceId f hf).devices = db.devices ↔ f d = d :=
  (Table.modify_eq_self_iff (f := Device.flushed now f)
    (fun d => (Device.flushed_id now f d).trans (hf d)) hd).trans (Device.flushed_eq_self_iff h)

/-! ### What is to hold -/

/-- The tables that the endpoints manage. -/
structure ManagedTables where
  networks : Table Network
  devices : Table Device
  aclRules : Table ACLRule
  dnsEntries : Table DNSEntry
  preauthKeys : Table PreAuthKey
  routes : Table AdvertisedRoute

def Database.managed (db : Database) : ManagedTables :=
  ⟨db.networks, db.devices, db.aclRules, db.dnsEntries, db.preauthKeys, db.routes⟩

def ApiRequest.isHeartbeat : ApiRequest → Bool
  | .device (.heartbeat ..) => true
  | _ => false

/-- The device that makes a request without an access token: the one it enrolls, or the one whose
token it carries. -/
def ApiCall.actorDevice? (c : ApiCall) : Option Uuid :=
  match c.request with
  | .device (.enrollByKey _) | .device (.registerDevice _) => some c.entropy.rowId
  | .device (.heartbeat _ id _) | .deviceAdvertiseRoute _ id _ | .rotateDeviceToken _ id => some id
  | _ => none

/-- The kind and the id of the row that a request is about. -/
def ApiCall.target (c : ApiCall) : String × Uuid :=
  match c.request with
  | .device (.createNetwork ..) => ("network", c.entropy.rowId)
  | .device (.updateNetwork _ id _) | .deleteNetwork _ id => ("network", id)
  | .device (.createPreauthKey ..) => ("preauth_key", c.entropy.rowId)
  | .deletePreauthKey _ _ id => ("preauth_key", id)
  | .device (.createDevice ..) | .device (.createNodeDevice ..) | .device (.enrollByKey _)
  | .device (.registerDevice _) => ("device", c.entropy.rowId)
  | .device (.updateDevice _ id _) | .device (.enrollDevice _ id _)
  | .device (.heartbeat _ id _) | .device (.revokeDevice _ id) | .selectExitNode _ id _
  | .rotateDeviceToken _ id => ("device", id)
  | .createAcl .. => ("acl", c.entropy.rowId)
  | .updateAcl _ _ id _ | .deleteAcl _ _ id => ("acl", id)
  | .createDns .. => ("dns", c.entropy.rowId)
  | .deleteDns _ _ id => ("dns", id)
  | .advertiseRoute .. | .deviceAdvertiseRoute .. => ("route", c.entropy.rowId)
  | .approveRoute _ id _ | .updateRoute _ id _ | .deleteRoute _ id => ("route", id)

/-- The entry names who made the request, and the row that it is about. -/
structure ApiCall.Names (c : ApiCall) (db : Database) (entry : AuditLog) : Prop where
  actor : (∃ u, c.MadeBy db u ∧ entry.actorType = "user" ∧ entry.actorId = some u.id.str) ∨
    ∃ id, c.actorDevice? = some id ∧ entry.actorType = "device" ∧ entry.actorId = some id.str
  target : entry.targetType = c.target.1 ∧ entry.targetId = some c.target.2.str

/-- A request other than a heartbeat commits one entry with a change, and none without. -/
def ApiCall.Audited (db : Database) (c : ApiCall) : Prop :=
  c.request.isHeartbeat = false →
    Journaled Database.managed Database.auditLogs (c.Names db) db (serveApi db c)

/-- The requests that are not audited: an update that is allowed and finds the row with its values,
a rotation that is allowed and changes the row, and a route that a device may advertise. -/
def ApiCall.Slips (db : Database) (c : ApiCall) : Prop :=
  match c.request with
  | .device (.updateNetwork token id req) => ∃ n, db.networks.get? id = some n ∧ req.apply n = n ∧
      ∃ user, getCurrentUser c.env db token = .ok user ∧ requireNetworkOwner db id user = .ok n
  | .device (.updateDevice token id req) => ∃ d, db.devices.get? id = some d ∧ req.apply d = d ∧
      ∃ user, getCurrentUser c.env db token = .ok user ∧ requireDeviceOwner db d user = .ok () ∧
        ∀ exit ∈ req.exitNodeId, (db.devices.get? exit).isSome
  | .updateAcl token networkId id req => ∃ r, db.aclRules.get? id = some r ∧ req.apply r = r ∧
      r.networkId = networkId ∧ ∃ user network, getCurrentUser c.env db token = .ok user ∧
        requireNetworkOwner db networkId user = .ok network
  | .approveRoute token id req => ∃ r, db.routes.get? id = some r ∧ req.apply c.env.now r = r ∧
      ∃ user, getCurrentUser c.env db token = .ok user ∧ ownedRoute db id user = .ok r
  | .updateRoute token id req => ∃ r, db.routes.get? id = some r ∧ req.apply c.env.now r = r ∧
      ∃ user, getCurrentUser c.env db token = .ok user ∧ ownedRoute db id user = .ok r
  | .selectExitNode token id req => ∃ d, db.devices.get? id = some d ∧ req.apply c.env.now d = d ∧
      ∃ user route, getCurrentUser c.env db token = .ok user ∧ d.userId = some user.id ∧
        checkExitNode db d.networkId req.exitNodeId = .ok () ∧
        scalarOneOrNone (db.routes.select fun r => r.deviceId = id ∧ r.pfx = "0.0.0.0/0") =
          .ok (some route)
  | .rotateDeviceToken token id => ∃ d, db.devices.get? id = some d ∧
      Device.rotated c.env.security c.entropy d ≠ d ∧ getCurrentDevice c.env db token = .ok d ∧
        d.enrollmentStatus = "active"
  | .deviceAdvertiseRoute token id req => ∃ d, db.devices.get? id = some d ∧ d.isActive = true ∧
      (∃ current, getCurrentDeviceById c.env db id token = .ok current) ∧
        checkSafePrefix c.env.settings req.pfx req.isExitNode = .ok () ∧
        (∀ r ∈ db.routes, ¬ (r.networkId = d.networkId ∧ r.pfx = req.pfx)) ∧
        db.routes.get? c.entropy.rowId = none
  | _ => False

/-! ### What requests enter and change -/

section

variable {c : ApiCall} {db db' : Database}

theorem ApiCall.names_user {token action kind : String} {id : Uuid} {user : User}
    (htoken : c.request.token? = some token) (huser : getCurrentUser c.env db token = .ok user)
    (htarget : c.target = (kind, id)) : c.Names db (user.did action kind id) where
  actor := .inl ⟨user, ⟨token, htoken, huser⟩, rfl, rfl⟩
  target := by
    rw [htarget]
    exact ⟨rfl, rfl⟩

theorem ApiCall.names_device {action : String} {d : Device} (hactor : c.actorDevice? = some d.id)
    (htarget : c.target = ("device", d.id)) : c.Names db (d.did action) where
  actor := .inr ⟨d.id, hactor, rfl, rfl⟩
  target := by
    rw [htarget]
    exact ⟨rfl, rfl⟩

/-- What a request that succeeds does: it makes an entry, and slips if it changes nothing, or it
makes none, and slips if it changes something. -/
inductive ApiCall.Outcome (c : ApiCall) (db db' : Database) : Prop
  | entered {entry : AuditLog} (hlogs : db'.auditLogs = db.auditLogs ++ [entry])
      (hnames : c.Names db entry) (hslips : db'.managed = db.managed ↔ c.Slips db)
  | silent (hlogs : db'.auditLogs = db.auditLogs) (hslips : db'.managed ≠ db.managed ↔ c.Slips db)

theorem ApiCall.Outcome.updated {entry : AuditLog} (hnames : c.Names db entry)
    (hlogs : db'.auditLogs = db.auditLogs ++ [entry]) {α : Type} (table : ManagedTables → α)
    (put : α → ManagedTables) (hbefore : put (table db.managed) = db.managed)
    (hafter : put (table db'.managed) = db'.managed) {ρ : Type} [Row ρ Uuid] {t : Table ρ}
    {id : Uuid} {r : ρ} (hr : t.get? id = some r) {f : ρ → ρ} {allowed : ρ → Prop}
    (hiff : table db'.managed = table db.managed ↔ f r = r)
    (hslips : c.Slips db ↔ ∃ r, t.get? id = some r ∧ f r = r ∧ allowed r) (hallowed : allowed r) :
    c.Outcome db db' := by
  refine .entered hlogs hnames ?_
  rw [hslips, Table.exists_get?_iff hr, and_iff_left hallowed, ← hiff]
  exact ⟨congrArg table, fun h => hafter.symm.trans ((congrArg put h).trans hbefore)⟩

/-- A change with its entry. -/
theorem ApiCall.Outcome.changed {entry : AuditLog} (hnames : c.Names db entry)
    (hlogs : db'.auditLogs = db.auditLogs ++ [entry]) (hne : db'.managed ≠ db.managed)
    (hnot : ¬ c.Slips db) : c.Outcome db db' :=
  .entered hlogs hnames (iff_of_false hne hnot)

theorem ne_devices (h : db'.devices ≠ db.devices) : db'.managed ≠ db.managed :=
  fun heq => h (congrArg ManagedTables.devices heq)

/-- The requests about devices. -/
theorem ApiCall.handle_outcome_device {env : Env} {e : Entropy} {request : Request}
    (hother : (ApiRequest.device request).isHeartbeat = false)
    (hok : ({ env := env, entropy := e, request := request } : Call).handle db = .ok db') :
    ApiCall.Outcome ⟨env, e, .device request⟩ db db' := by
  unfold Call.handle at hok
  cases request with
  | createNetwork token req =>
    obtain ⟨_, hok⟩ := snd_map_eq_ok.1 hok
    obtain ⟨user, _, _, _, _, huser, -, -, rfl, hnetworks, -, rfl⟩ := createNetwork_eq_ok hok
    exact .changed (names_user rfl huser rfl) rfl
      (fun h => Table.insert_ne hnetworks (congrArg ManagedTables.networks h)) id
  | updateNetwork token networkId req =>
    obtain ⟨_, hok⟩ := snd_map_eq_ok.1 hok
    obtain ⟨user, n, huser, hn, rfl⟩ := updateNetwork_eq_ok hok
    have hget := (requireNetworkOwner_eq_ok.1 hn).1
    exact .updated (names_user rfl huser rfl) rfl ManagedTables.networks
      (fun t => { db.managed with networks := t }) rfl rfl hget
      (Table.modify_eq_self_iff req.pk_apply hget) Iff.rfl ⟨user, huser, hn⟩
  | createPreauthKey token networkId req =>
    obtain ⟨_, hok⟩ := snd_map_eq_ok.1 hok
    obtain ⟨user, _, _, huser, -, rfl, hkeys, rfl⟩ := createPreauthKey_eq_ok hok
    exact .changed (names_user rfl huser rfl) rfl
      (fun h => Table.insert_ne hkeys (congrArg ManagedTables.preauthKeys h)) id
  | createDevice token networkId req =>
    obtain ⟨_, hok⟩ := snd_map_eq_ok.1 hok
    obtain ⟨user, _, _, _, huser, -, -, rfl, hdevices, rfl⟩ := createDevice_eq_ok hok
    exact .changed (names_user rfl huser rfl) rfl (ne_devices (Table.insert_ne hdevices)) id
  | createNodeDevice token networkId req =>
    obtain ⟨_, hok⟩ := snd_map_eq_ok.1 hok
    obtain ⟨user, _, _, _, huser, -, -, rfl, hdevices, rfl⟩ := createNodeDevice_eq_ok hok
    exact .changed (names_user rfl huser rfl) rfl (ne_devices (Table.insert_ne hdevices)) id
  | enrollByKey req =>
    obtain ⟨_, hok⟩ := snd_map_eq_ok.1 hok
    obtain ⟨_, _, _, _, -, -, -, -, hdevices, -, -, rfl⟩ := enrollByKey_eq_ok hok
    exact .changed (names_device rfl rfl) rfl (ne_devices (Table.insert_ne hdevices)) id
  | registerDevice req =>
    obtain ⟨_, hok⟩ := snd_map_eq_ok.1 hok
    obtain ⟨_, _, _, _, -, -, -, rfl, hdevices, rfl⟩ := registerDevice_eq_ok hok
    exact .changed (names_device rfl rfl) rfl (ne_devices (Table.insert_ne hdevices)) id
  | updateDevice token deviceId req =>
    obtain ⟨_, hok⟩ := snd_map_eq_ok.1 hok
    simp only [updateDevice, bind_eq_ok, getOr_eq_ok, ensure_eq_ok] at hok
    obtain ⟨user, huser, d, hd, _, howner, -, hexit, h⟩ := hok
    cases h
    exact .updated (names_user rfl huser rfl) rfl ManagedTables.devices
      (fun t => { db.managed with devices := t }) rfl rfl hd
      (Database.assign_devices_eq_iff env.now req.apply (fun _ => rfl) hd (.inl rfl))
      Iff.rfl ⟨user, huser, howner, hexit⟩
  | enrollDevice token deviceId req =>
    obtain ⟨_, hok⟩ := snd_map_eq_ok.1 hok
    obtain ⟨user, d, huser, hd, -, -, hpending, -, rfl⟩ := enrollDevice_eq_ok hok
    refine .changed (names_user rfl huser rfl) rfl (ne_devices fun h => ?_) id
    -- the status changes
    have hsame := (Database.assign_devices_eq_iff env.now (req.apply env e) (fun _ => rfl) hd
      (.inl rfl)).1 h
    have hstatus : "active" = "pending" :=
      (congrArg Device.enrollmentStatus hsame).trans hpending
    exact absurd hstatus (by decide)
  | revokeDevice token deviceId =>
    obtain ⟨_, hok⟩ := snd_map_eq_ok.1 hok
    simp only [revokeDevice, bind_eq_ok, getOr_eq_ok, ensure_eq_ok] at hok
    obtain ⟨user, huser, d, hd, _, -, -, hstatus, h⟩ := hok
    cases h
    refine .changed (names_user rfl huser rfl) rfl (ne_devices fun h => ?_) id
    have hsame := (Database.assign_devices_eq_iff env.now (Device.revoked env.now) (fun _ => rfl) hd
      (.inl rfl)).1 h
    exact hstatus (congrArg Device.enrollmentStatus hsame).symm
  | heartbeat token deviceId req => cases hother

/-- **What a request that succeeds enters and changes.** -/
theorem ApiCall.handle_outcome (hother : c.request.isHeartbeat = false)
    (hok : c.handle db = .ok db') : c.Outcome db db' := by
  obtain ⟨env, e, request⟩ := c
  unfold handle at hok
  cases request with
  | device request => exact handle_outcome_device hother hok
  | deleteNetwork token networkId =>
    obtain ⟨_, hok⟩ := snd_map_eq_ok.1 hok
    obtain ⟨user, _, huser, hn, -, rfl⟩ := deleteNetwork_eq_ok hok
    exact .changed (names_user rfl huser rfl) rfl
      (fun h => Table.delete_pk_ne (requireNetworkOwner_eq_ok.1 hn).1
        (congrArg ManagedTables.networks h)) id
  | deletePreauthKey token networkId keyId =>
    obtain ⟨_, hok⟩ := snd_map_eq_ok.1 hok
    obtain ⟨user, _, _, huser, -, hkey, -, rfl⟩ := deleteOwned_eq_ok hok
    exact .changed (names_user rfl huser rfl) rfl
      (fun h => Table.delete_pk_ne hkey (congrArg ManagedTables.preauthKeys h)) id
  | createAcl token networkId req =>
    obtain ⟨_, hok⟩ := snd_map_eq_ok.1 hok
    obtain ⟨user, _, _, huser, -, hrules, rfl⟩ := createOwned_eq_ok hok
    exact .changed (names_user rfl huser rfl) rfl
      (fun h => Table.insert_ne hrules (congrArg ManagedTables.aclRules h)) id
  | updateAcl token networkId ruleId req =>
    obtain ⟨_, hok⟩ := snd_map_eq_ok.1 hok
    obtain ⟨user, n, rule, huser, hn, hrule, hnet, rfl⟩ := updateAcl_eq_ok hok
    exact .updated (names_user rfl huser rfl) rfl ManagedTables.aclRules
      (fun t => { db.managed with aclRules := t }) rfl rfl hrule
      (Table.modify_eq_self_iff req.pk_apply hrule) Iff.rfl ⟨hnet, user, n, huser, hn⟩
  | deleteAcl token networkId ruleId =>
    obtain ⟨_, hok⟩ := snd_map_eq_ok.1 hok
    obtain ⟨user, _, _, huser, -, hrule, -, rfl⟩ := deleteOwned_eq_ok hok
    exact .changed (names_user rfl huser rfl) rfl
      (fun h => Table.delete_pk_ne hrule (congrArg ManagedTables.aclRules h)) id
  | createDns token networkId req =>
    obtain ⟨_, hok⟩ := snd_map_eq_ok.1 hok
    obtain ⟨user, _, _, huser, -, hentries, rfl⟩ := createOwned_eq_ok hok
    exact .changed (names_user rfl huser rfl) rfl
      (fun h => Table.insert_ne hentries (congrArg ManagedTables.dnsEntries h)) id
  | deleteDns token networkId entryId =>
    obtain ⟨_, hok⟩ := snd_map_eq_ok.1 hok
    obtain ⟨user, _, _, huser, -, hentry, -, rfl⟩ := deleteOwned_eq_ok hok
    exact .changed (names_user rfl huser rfl) rfl
      (fun h => Table.delete_pk_ne hentry (congrArg ManagedTables.dnsEntries h)) id
  | advertiseRoute token networkId req =>
    obtain ⟨_, hok⟩ := snd_map_eq_ok.1 hok
    obtain ⟨user, _, d, _, huser, -, -, hadd, rfl⟩ := advertiseRoute_adds hok
    simp only [addRoute, bind_eq_ok, Table.add_eq_ok] at hadd
    obtain ⟨_, -, _, -, routes, hroutes, hadd⟩ := hadd
    cases hadd
    exact .changed (names_user rfl huser rfl) rfl
      (fun h => Table.insert_ne hroutes (congrArg ManagedTables.routes h)) id
  | deviceAdvertiseRoute token deviceId req =>
    obtain ⟨_, hok⟩ := snd_map_eq_ok.1 hok
    obtain ⟨current, d, hcurrent, hd, hactive, hadd⟩ := deviceAdvertiseRoute_adds hok
    simp only [addRoute, bind_eq_ok, ensure_eq_ok, Table.add_eq_ok] at hadd
    obtain ⟨_, hsafe, _, hnew, routes, hroutes, hadd⟩ := hadd
    cases hadd
    have hfree := Table.exists_insert_iff.1 ⟨routes, hroutes⟩
    exact .silent rfl (iff_of_true
      (fun h => Table.insert_ne hroutes (congrArg ManagedTables.routes h))
      ⟨d, hd, hactive, ⟨current, hcurrent⟩, hsafe, hnew, hfree⟩)
  | approveRoute token routeId req =>
    obtain ⟨_, hok⟩ := snd_map_eq_ok.1 hok
    obtain ⟨user, route, huser, hroute, rfl⟩ := approveRoute_eq_ok hok
    have hget := (ownedRoute_eq_ok.1 hroute).1
    exact .updated (names_user rfl huser rfl) rfl ManagedTables.routes
      (fun t => { db.managed with routes := t }) rfl rfl hget
      (Table.modify_eq_self_iff (f := req.apply env.now) (fun _ => rfl) hget)
      Iff.rfl ⟨user, huser, hroute⟩
  | updateRoute token routeId req =>
    obtain ⟨_, hok⟩ := snd_map_eq_ok.1 hok
    obtain ⟨user, route, huser, hroute, rfl⟩ := updateRoute_eq_ok hok
    have hget := (ownedRoute_eq_ok.1 hroute).1
    exact .updated (names_user rfl huser rfl) rfl ManagedTables.routes
      (fun t => { db.managed with routes := t }) rfl rfl hget
      (Table.modify_eq_self_iff (f := req.apply env.now) (fun _ => rfl) hget)
      Iff.rfl ⟨user, huser, hroute⟩
  | deleteRoute token routeId =>
    obtain ⟨_, hok⟩ := snd_map_eq_ok.1 hok
    exact absurd hok (deleteRoute_ne_ok routeId _)
  | selectExitNode token deviceId req =>
    obtain ⟨_, hok⟩ := snd_map_eq_ok.1 hok
    simp only [selectExitNode, bind_eq_ok, getOr_eq_ok, Option.filter_eq_some_iff,
      decide_eq_true_eq] at hok
    obtain ⟨user, huser, d, ⟨hd, hmine⟩, _, hexit, _, hroute, _, rfl, h⟩ := hok
    cases h
    exact .updated (names_user rfl huser rfl) rfl ManagedTables.devices
      (fun t => { db.managed with devices := t }) rfl rfl hd
      (Database.assign_devices_eq_iff env.now (req.apply env.now) (fun _ => rfl) hd (.inr rfl))
      Iff.rfl ⟨user, _, huser, hmine, hexit, hroute⟩
  | rotateDeviceToken token deviceId =>
    obtain ⟨_, hok⟩ := snd_map_eq_ok.1 hok
    simp only [rotateDeviceToken, bind_eq_ok, ensure_eq_ok] at hok
    obtain ⟨d, hcurrent, _, rfl, _, hactive, h⟩ := hok
    cases h
    have hd : db.devices.get? d.id = some d := by
      obtain ⟨found, hlookup, hfound⟩ := bind_eq_ok.1 hcurrent
      obtain rfl := getOr_eq_ok.1 hfound
      exact Table.get?_eq_some_iff.2 ⟨lookupDeviceByToken_mem hlookup, rfl⟩
    have hiff := Database.assign_devices_eq_iff env.now
      (Device.rotated env.security e) (fun _ => rfl) hd (.inl rfl)
    refine .silent rfl (Iff.trans ?_ (Table.exists_get?_iff hd).symm)
    rw [and_iff_left ⟨hcurrent, hactive⟩]
    exact ⟨fun hne heq => hne (congrArg (fun t => { db.managed with devices := t }) (hiff.2 heq)),
      fun hne => ne_devices fun h => hne (hiff.1 h)⟩

/-- A request that slips is accepted. -/
theorem ApiCall.Slips.accepted (h : c.Slips db) : ∃ db', c.handle db = .ok db' := by
  obtain ⟨env, e, request⟩ := c
  cases request with
  | device request =>
    cases request with
    | updateNetwork token networkId req =>
      obtain ⟨n, -, -, user, huser, hn⟩ := h
      simp only [handle, Call.handle, updateNetwork, huser, hn, ok_bind, snd_map_eq_ok]
      exact ⟨_, _, rfl⟩
    | updateDevice token deviceId req =>
      obtain ⟨d, hd, -, user, huser, howner, hexit⟩ := h
      simp only [handle, Call.handle, updateDevice, huser, hd, getOr, howner, ensure_of hexit,
        ok_bind, snd_map_eq_ok]
      exact ⟨_, _, rfl⟩
    | _ => exact h.elim
  | updateAcl token networkId ruleId req =>
    obtain ⟨rule, hrule, -, hnet, user, network, huser, hn⟩ := h
    have hfound : findOwned aclRulesTable db networkId "ACL rule not found" ruleId = .ok rule :=
      findOwned_eq_ok.2 ⟨hrule, hnet⟩
    simp only [handle, updateAcl, huser, hn, hfound, ok_bind, snd_map_eq_ok]
    exact ⟨_, _, rfl⟩
  | approveRoute token routeId req =>
    obtain ⟨route, -, -, user, huser, hroute⟩ := h
    simp only [handle, approveRoute, huser, hroute, ok_bind, snd_map_eq_ok]
    exact ⟨_, _, rfl⟩
  | updateRoute token routeId req =>
    obtain ⟨route, -, -, user, huser, hroute⟩ := h
    simp only [handle, updateRoute, huser, hroute, ok_bind, snd_map_eq_ok]
    exact ⟨_, _, rfl⟩
  | selectExitNode token deviceId req =>
    obtain ⟨d, hd, -, user, route, huser, hmine, hexit, hroute⟩ := h
    have hfound : (db.devices.get? deviceId).filter (fun d => d.userId = some user.id) = some d :=
      Option.filter_eq_some_iff.2 ⟨hd, decide_eq_true hmine⟩
    have haccepted : selectExitNode env db token deviceId req = .ok (route,
        (db.assign env.now deviceId (req.apply env.now) fun _ => rfl).audit
          (user.did "device.exit_node_select" "device" deviceId)) := by
      rw [selectExitNode, huser, ok_bind, getOr_eq_ok.2 hfound, ok_bind, hexit, ok_bind]
      change (scalarOneOrNone (db.routes.select fun r => r.deviceId = deviceId ∧
        r.pfx = "0.0.0.0/0") >>= _) = _
      rw [hroute]
      rfl
    exact ⟨_, snd_map_eq_ok.2 ⟨_, haccepted⟩⟩
  | rotateDeviceToken token deviceId =>
    obtain ⟨d, hd, -, hcurrent, hactive⟩ := h
    have hid : d.id = deviceId := (Table.get?_eq_some_iff.1 hd).2
    simp only [handle, rotateDeviceToken, hcurrent, ensure_of hid, ensure_of hactive, ok_bind,
      snd_map_eq_ok]
    exact ⟨_, _, rfl⟩
  | deviceAdvertiseRoute token deviceId req =>
    obtain ⟨d, hd, hactive, ⟨current, hcurrent⟩, hsafe, hnew, hfree⟩ := h
    have hfound : (db.devices.get? deviceId).filter (·.isActive) = some d :=
      Option.filter_eq_some_iff.2 ⟨hd, hactive⟩
    have hinsert := (Table.exists_insert_iff (t := db.routes) (r := AdvertisedRoute.mk e.rowId
      deviceId d.networkId req.pfx false false req.isExitNode env.now env.now)).2 hfree
    obtain ⟨routes, hroutes⟩ := hinsert
    simp only [handle, deviceAdvertiseRoute, addRoute, hcurrent, hfound, getOr, hsafe,
      ensure_of hnew, Table.add, hroutes, ok_bind, snd_map_eq_ok]
    exact ⟨_, _, rfl⟩
  | _ => exact h.elim

/-- **A request is audited exactly if it does not slip.** -/
theorem ApiCall.audited_iff_not_slips (db : Database) (c : ApiCall) :
    c.Audited db ↔ ¬ c.Slips db := by
  have hheartbeat : c.request.isHeartbeat = true → ¬ c.Slips db := by
    obtain ⟨env, e, request⟩ := c
    intro hreq
    cases request with
    | device request =>
      cases request with
      | heartbeat => exact id
      | _ => cases hreq
    | _ => cases hreq
  cases hreq : c.request.isHeartbeat with
  | true => exact iff_of_true (fun hnot => by rw [hreq] at hnot; cases hnot) (hheartbeat hreq)
  | false =>
    rw [Audited, forall_prop_of_true hreq, serveApi]
    cases hok : c.handle db with
    | error err =>
      refine iff_of_true (journaled_refl db) fun hslips => ?_
      obtain ⟨db', haccepted⟩ := hslips.accepted
      rw [hok] at haccepted
      cases haccepted
    | ok db' =>
      rcases ApiCall.handle_outcome hreq hok with ⟨hlogs, hnames, hslips⟩ | ⟨hlogs, hslips⟩
      · exact (journaled_iff_of_entry hlogs hnames).trans (not_congr hslips)
      · exact (journaled_iff_of_silent hlogs).trans (not_not.symm.trans (not_congr hslips))

end

/-- **All requests of a run are audited exactly if none of them slips.** -/
theorem audited_iff (db : Database) (calls : List ApiCall) :
    Admissible serveApi (fun db c => c.Audited db) db calls ↔
      Admissible serveApi (fun db c => ¬ c.Slips db) db calls :=
  admissible_congr serveApi (fun db c (_ : True) => c.audited_iff_not_slips db)
    (fun _ _ _ _ => trivial) trivial

/-- The owner of the attic adds a DNS entry. -/
theorem audited_iff_attic : Admissible serveApi (fun db c => c.Audited db) atticOffice
    [atticCall (.createDns "jwt" (Uuid.ofNat 50) { domain := "attic", address := "10.5.0.3" })] :=
  (audited_iff _ _).2 ⟨id, trivial⟩

/-- The box in the attic advertises a route. -/
def silentAdvertisement : ApiCall :=
  atticCall (.deviceAdvertiseRoute "box" (Uuid.ofNat 53) { pfx := "192.168.7.0/24" })

/-- The owner gives the attic the name it has. -/
def idleUpdate : ApiCall :=
  atticCall (.device (.updateNetwork "jwt" (Uuid.ofNat 50) { name := some "attic" }))

/-- An advertisement changes the routes without an entry, and an update makes an entry without a
change. -/
theorem silent_and_idle : ¬ silentAdvertisement.Audited atticOffice ∧
    ¬ idleUpdate.Audited atticOffice ∧
    ¬ ∀ (db : Database) (calls : List ApiCall),
      Admissible serveApi (fun db c => c.Audited db) db calls := by
  have hsilent : ¬ silentAdvertisement.Audited atticOffice := by
    intro h
    have hlogs : (serveApi atticOffice silentAdvertisement).auditLogs = [] := by decide +kernel
    have hroutes : (serveApi atticOffice silentAdvertisement).routes ≠ atticOffice.routes := by
      decide +kernel
    obtain ⟨entry, happend, -⟩ := (h rfl).2 fun heq => hroutes (congrArg ManagedTables.routes heq)
    rw [hlogs] at happend
    cases happend
  have hidle : ¬ idleUpdate.Audited atticOffice := by
    intro h
    have hlogs : (serveApi atticOffice idleUpdate).auditLogs.length = 1 := by decide +kernel
    have hnetworks : (serveApi atticOffice idleUpdate).networks = atticOffice.networks := by
      decide +kernel
    have hothers : (serveApi atticOffice idleUpdate).managed =
        { atticOffice.managed with networks := (serveApi atticOffice idleUpdate).networks } := rfl
    rw [hnetworks] at hothers
    rw [(h rfl).1 hothers] at hlogs
    cases hlogs
  exact ⟨hsilent, hidle, fun hall => hsilent (hall atticOffice [silentAdvertisement]).1⟩

end Midscale
