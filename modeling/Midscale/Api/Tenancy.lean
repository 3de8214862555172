import Midscale.Access.Tenancy
import Midscale.Api.Addresses
import Midscale.Api.Endpoints

/-!
# Tenants and what they may change

The networks with their owners, the devices with their users and the routes of the database are a
tenancy, and every request is a step of it.  Almost every endpoint asks for the owner of a network;
the selection of an exit node asks for the user of a device, which is safe because a tenancy stays
sound.

* `Database.rowsOf` : the rows that belong to a network.
* `Effect`, `ApiCall.handle_effect` : **a request writes to one network**, on which the user who
  made it has some claim, and is a step of the tenancy.
* `tenancy_sound_run` : the tenancy is sound after every run.
* `tenant_isolation` : **no user changes the rows of another one's network.**
-/

namespace Midscale

/-! ### The rows of a network -/

/-- The rows that belong to a network, the row of the network itself included. -/
structure NetworkRows where
  networks : List Network
  devices : List Device
  aclRules : List ACLRule
  dnsEntries : List DNSEntry
  preauthKeys : List PreAuthKey
  routes : List AdvertisedRoute
  deriving DecidableEq

/-- The rows that belong to a network. -/
def Database.rowsOf (db : Database) (id : Uuid) : NetworkRows where
  networks := db.networks.select fun n => n.id = id
  devices := db.devices.select fun d => d.networkId = id
  aclRules := db.aclRules.select fun r => r.networkId = id
  dnsEntries := db.dnsEntries.select fun e => e.networkId = id
  preauthKeys := db.preauthKeys.select fun k => k.networkId = id
  routes := db.routes.select fun r => r.networkId = id

/-- A change of a table concerns rows of the network `m` only. -/
def Confined {ρ : Type} [Row ρ Uuid] (networkId : ρ → Uuid) (m : Uuid) (t t' : Table ρ) : Prop :=
  ∀ id, id ≠ m → t'.select (fun r => networkId r = id) = t.select fun r => networkId r = id

section

variable {ρ : Type} [Row ρ Uuid] {networkId : ρ → Uuid} {m : Uuid} {t t' : Table ρ}

theorem confined_refl (t : Table ρ) : Confined networkId m t t := fun _ _ => rfl

theorem confined_insert {r : ρ} (h : t.insert r = some t') (hr : networkId r = m) :
    Confined networkId m t t' := by
  intro id hid
  exact Table.select_insert_of_not h (decide_eq_false fun heq => hid (heq.symm.trans hr))

theorem confined_delete {p : ρ → Bool} (h : ∀ r ∈ t, p r = true → networkId r = m) :
    Confined networkId m t (t.delete p) := by
  intro id hid
  exact Table.select_delete_of_not fun r hr hp =>
    decide_eq_false fun heq => hid (heq.symm.trans (h r hr hp))

theorem confined_modify {k : Uuid} {r : ρ} (hr : t.get? k = some r) (hm : networkId r = m)
    {f : ρ → ρ} (hf : ∀ r, Row.pk (f r) = Row.pk r) (hnet : networkId (f r) = networkId r) :
    Confined networkId m t (t.modify k f hf) := by
  intro id hid
  refine Table.select_modify_of_not fun r' hr' hk => ?_
  obtain ⟨hmem, hpk⟩ := Table.get?_eq_some_iff.1 hr
  obtain rfl := t.eq_of_pk hr' hmem (hk.trans hpk.symm)
  constructor
  · exact decide_eq_false fun heq => hid (heq.symm.trans hm)
  · exact decide_eq_false fun heq => hid (heq.symm.trans (hnet.trans hm))

theorem confined_delete_pk {k : Uuid} {r : ρ} (hr : t.get? k = some r) (hm : networkId r = m) :
    Confined networkId m t (t.delete fun r => Row.pk r = k) := by
  refine confined_delete fun r' hr' hk => ?_
  obtain ⟨hmem, hpk⟩ := Table.get?_eq_some_iff.1 hr
  exact t.eq_of_pk hr' hmem ((of_decide_eq_true hk).trans hpk.symm) ▸ hm

end

theorem rowsOf_assign {db : Database} {now : Timestamp} {deviceId : Uuid} {f : Device → Device}
    (hf : ∀ d, (f d).id = d.id) {d : Device} (hd : db.devices.get? deviceId = some d)
    (hnet : ∀ d, (f d).networkId = d.networkId) {id : Uuid} (hid : id ≠ d.networkId) :
    (db.assign now deviceId f hf).rowsOf id = db.rowsOf id := by
  have hdevices : Confined Device.networkId d.networkId db.devices
      (db.assign now deviceId f hf).devices :=
    confined_modify hd rfl (fun d => (Device.flushed_id now f d).trans (hf d))
      ((Device.flushed_networkId now f d).trans (hnet d))
  rw [Database.rowsOf, hdevices id hid]
  rfl

theorem rowsOf_addRoute {db : Database} {r : AdvertisedRoute} {routes : Table AdvertisedRoute}
    (hroutes : db.routes.insert r = some routes) {id : Uuid} (hid : id ≠ r.networkId) :
    ({ db with routes := routes } : Database).rowsOf id = db.rowsOf id := by
  have hconfined : Confined AdvertisedRoute.networkId r.networkId db.routes routes :=
    confined_insert hroutes rfl
  simp only [Database.rowsOf, hconfined id hid]

/-! ### The tenancy of a database -/

/-- The network and its owner. -/
def Network.ownership (n : Network) : Uuid × Option Uuid := (n.id, n.ownerId)

/-- The device, its network and its user. -/
def Device.affiliation (d : Device) : Uuid × Uuid × Option Uuid := (d.id, d.networkId, d.userId)

/-- The device and the network of a route. -/
def AdvertisedRoute.origin (r : AdvertisedRoute) : Uuid × Uuid := (r.deviceId, r.networkId)

namespace Database

variable (db : Database)

/-- Networks with their owners, devices with their users, and routes. -/
def tenancy : Tenancy Uuid Uuid Uuid where
  owners := db.networks.rows.map Network.ownership
  members := db.devices.rows.map Device.affiliation
  links := db.routes.rows.map AdvertisedRoute.origin

/-- The user with this id is a superuser. -/
def Admin (id : Uuid) : Prop := ∃ u ∈ db.users, u.id = id ∧ u.isSuperuser = true

/-- The user may write to the network. -/
def MayWriteTo (u : User) (m : Uuid) : Prop := db.tenancy.MayAct db.Admin u.id m

variable {db}

theorem owns_iff {u m : Uuid} :
    db.tenancy.Owns u m ↔ ∃ n, db.networks.get? m = some n ∧ n.ownerId = some u := by
  simp only [Tenancy.Owns, tenancy, List.mem_map, Table.get?_eq_some_iff]
  constructor
  · rintro ⟨n, hn, hown⟩
    obtain ⟨rfl, howner⟩ := Prod.mk.inj hown
    exact ⟨n, ⟨hn, rfl⟩, howner⟩
  · rintro ⟨n, ⟨hn, rfl⟩, howner⟩
    exact ⟨n, hn, Prod.ext rfl howner⟩

theorem holds_iff {u m : Uuid} :
    db.tenancy.Holds u m ↔ ∃ d ∈ db.devices, d.networkId = m ∧ d.userId = some u := by
  simp only [Tenancy.Holds, tenancy, List.mem_map]
  constructor
  · rintro ⟨_, d, hd, hmember⟩
    obtain ⟨-, hmember⟩ := Prod.mk.inj hmember
    obtain ⟨hnet, huser⟩ := Prod.mk.inj hmember
    exact ⟨d, hd, hnet, huser⟩
  · rintro ⟨d, hd, rfl, huser⟩
    exact ⟨d.id, d, hd, by rw [Device.affiliation, huser]⟩

theorem mayWriteTo_of_superuser {u : User} (hu : u ∈ db.users) (h : u.isSuperuser = true)
    (m : Uuid) : db.MayWriteTo u m := .inl ⟨u, hu, rfl, h⟩

theorem mayWriteTo_of_owner {env : Env} {token : String} {u : User} {m : Uuid} {n : Network}
    (huser : getCurrentUser env db token = .ok u) (h : requireNetworkOwner db m u = .ok n) :
    db.MayWriteTo u m := by
  obtain ⟨hn, hsuper | howner⟩ := requireNetworkOwner_eq_ok.1 h
  · exact mayWriteTo_of_superuser (getCurrentUser_eq_ok.1 huser).2.1 hsuper m
  · exact .inr (owns_iff.2 ⟨n, hn, howner⟩)

theorem mayWriteTo_of_deviceOwner {env : Env} {token : String} {u : User} {d : Device}
    (huser : getCurrentUser env db token = .ok u) (h : requireDeviceOwner db d u = .ok ()) :
    db.MayWriteTo u d.networkId := by
  rcases requireDeviceOwner_eq_ok.1 h with hsuper | howner
  · exact mayWriteTo_of_superuser (getCurrentUser_eq_ok.1 huser).2.1 hsuper _
  · obtain ⟨n, hn, howner⟩ := Option.bind_eq_some_iff.1 howner
    exact .inr (owns_iff.2 ⟨n, hn, howner⟩)

end Database

/-! ### What a request does -/

/-- The user who made a request may write to the network `m`, or is the user of a device there. -/
def Claim (c : ApiCall) (db : Database) (m : Uuid) : Prop :=
  ∀ u, c.MadeBy db u → db.MayWriteTo u m ∨ db.tenancy.Holds u.id m

/-- A request writes to the network `m` only, and is a step of the tenancy.  The user who made it
has a claim on `m`, or made the network. -/
structure Effect (c : ApiCall) (db db' : Database) (m : Uuid) : Prop where
  users : db'.users = db.users
  others : ∀ id, id ≠ m → db'.rowsOf id = db.rowsOf id
  step : Tenancy.Step db.Admin db.tenancy db'.tenancy
  claim : Claim c db m ∨
    db.networks.get? m = none ∧ ∀ u, c.MadeBy db u → db'.tenancy.Owns u.id m

theorem ApiCall.madeBy_of_token {c : ApiCall} {db : Database} {token : String} {user : User}
    {P : User → Prop} (htoken : c.request.token? = some token)
    (huser : getCurrentUser c.env db token = .ok user) (hp : P user) :
    ∀ u, c.MadeBy db u → P u := by
  rintro u ⟨token', htoken', hu⟩
  obtain rfl : token = token' := Option.some.inj (htoken.symm.trans htoken')
  exact Except.ok.inj (huser.symm.trans hu) ▸ hp

theorem ApiCall.MadeBy.mem_users {c : ApiCall} {db : Database} {u : User} (h : c.MadeBy db u) :
    u ∈ db.users := by
  obtain ⟨token, -, huser⟩ := h
  exact (getCurrentUser_eq_ok.1 huser).2.1

namespace Claim

variable {c : ApiCall} {db : Database} {token : String} {user : User} {m : Uuid}

theorem owner {n : Network} (htoken : c.request.token? = some token)
    (huser : getCurrentUser c.env db token = .ok user) (h : requireNetworkOwner db m user = .ok n) :
    Claim c db m :=
  ApiCall.madeBy_of_token htoken huser (.inl (Database.mayWriteTo_of_owner huser h))

theorem deviceOwner {d : Device} (htoken : c.request.token? = some token)
    (huser : getCurrentUser c.env db token = .ok user) (h : requireDeviceOwner db d user = .ok ()) :
    Claim c db d.networkId :=
  ApiCall.madeBy_of_token htoken huser (.inl (Database.mayWriteTo_of_deviceOwner huser h))

theorem holder {d : Device} (htoken : c.request.token? = some token)
    (huser : getCurrentUser c.env db token = .ok user) (hd : d ∈ db.devices)
    (h : d.userId = some user.id) : Claim c db d.networkId :=
  ApiCall.madeBy_of_token htoken huser (.inr (Database.holds_iff.2 ⟨d, hd, rfl, h⟩))

/-- No user made the request. -/
theorem nobody (htoken : c.request.token? = none) : Claim c db m := by
  rintro u ⟨token, htoken', -⟩
  rw [htoken] at htoken'
  cases htoken'

end Claim

namespace Effect

variable {c : ApiCall} {db db' : Database} {m : Uuid}

theorem audit (h : Effect c db db' m) (entry : AuditLog) : Effect c db (db'.audit entry) m :=
  ⟨h.users, h.others, h.step, h.claim⟩

/-- Rules, entries and keys of a network change. -/
theorem rows {acls : Table ACLRule} {entries : Table DNSEntry} {keys : Table PreAuthKey}
    (hclaim : Claim c db m) (hacls : Confined ACLRule.networkId m db.aclRules acls)
    (hentries : Confined DNSEntry.networkId m db.dnsEntries entries)
    (hkeys : Confined PreAuthKey.networkId m db.preauthKeys keys) :
    Effect c db { db with aclRules := acls, dnsEntries := entries, preauthKeys := keys } m where
  users := rfl
  others := fun id hid => by
    simp only [Database.rowsOf, hacls id hid, hentries id hid, hkeys id hid]
  step := .kept
  claim := .inl hclaim

/-- The row of a network changes, but not its owner. -/
theorem network {n : Network} (f : Network → Network) {hf : ∀ n, Row.pk (f n) = Row.pk n}
    (hclaim : Claim c db m) (hn : db.networks.get? m = some n)
    (howner : ∀ n, (f n).ownerId = n.ownerId) :
    Effect c db { db with networks := db.networks.modify m f hf } m where
  users := rfl
  others := fun id hid => by
    have hnetworks : Confined Network.id m db.networks (db.networks.modify m f hf) :=
      confined_modify hn (Table.get?_eq_some_iff.1 hn).2 hf (hf n)
    simp only [Database.rowsOf, hnetworks id hid]
  step := by
    have howners : (db.networks.modify m f hf).rows.map Network.ownership =
        db.networks.rows.map Network.ownership :=
      Table.map_modify hf fun n => Prod.ext (hf n) (howner n)
    have hkept : ({ db with networks := db.networks.modify m f hf } : Database).tenancy =
        db.tenancy := by rw [Database.tenancy, howners, Database.tenancy]
    exact hkept ▸ .kept
  claim := .inl hclaim

/-- A device is assigned to, but not its network and not its user. -/
theorem device {now : Timestamp} {deviceId : Uuid} (f : Device → Device)
    {hf : ∀ d, (f d).id = d.id} {d : Device}
    (hclaim : Claim c db d.networkId) (hd : db.devices.get? deviceId = some d)
    (hnet : ∀ d, (f d).networkId = d.networkId) (huser : ∀ d, (f d).userId = d.userId) :
    Effect c db (db.assign now deviceId f hf) d.networkId where
  users := rfl
  others := fun _ hid => rowsOf_assign hf hd hnet hid
  step := by
    have hmembers : (db.assign now deviceId f hf).devices.rows.map Device.affiliation =
        db.devices.rows.map Device.affiliation := by
      refine Table.map_modify (fun d => (Device.flushed_id now f d).trans (hf d)) fun d => ?_
      rw [Device.affiliation, Device.flushed_id, Device.flushed_networkId,
        d.flushed_column now f Device.userId fun _ _ => rfl, hf, hnet, huser]
      rfl
    have hkept : (db.assign now deviceId f hf).tenancy = db.tenancy := by
      rw [Database.tenancy, hmembers]
      rfl
    exact hkept ▸ .kept
  claim := .inl hclaim

theorem addDevice {d : Device} {devices : Table Device} {keys : Table PreAuthKey}
    (hclaim : Claim c db d.networkId) (hdevices : db.devices.insert d = some devices)
    (hkeys : Confined PreAuthKey.networkId d.networkId db.preauthKeys keys)
    (huser : ∀ u ∈ d.userId, db.tenancy.MayAct db.Admin u d.networkId) :
    Effect c db { db with devices := devices, preauthKeys := keys } d.networkId where
  users := rfl
  others := fun id hid => by
    have hconfined : Confined Device.networkId d.networkId db.devices devices :=
      confined_insert hdevices rfl
    simp only [Database.rowsOf, hconfined id hid, hkeys id hid]
  step := by
    obtain ⟨hrows, hfresh⟩ := Table.insert_eq_some hdevices
    have hjoined : ({ db with devices := devices, preauthKeys := keys } : Database).tenancy =
        { db.tenancy with members := db.tenancy.members ++ [d.affiliation] } := by
      simp only [Database.tenancy, hrows, List.map_append, List.map_singleton]
    rw [hjoined]
    refine .joined (fun x hx => ?_) huser
    obtain ⟨d', hd', rfl⟩ := List.mem_map.1 hx
    exact hfresh d' hd'
  claim := .inl hclaim

theorem addRoute {r : AdvertisedRoute} {d : Device} {routes : Table AdvertisedRoute}
    (hclaim : Claim c db m) (hd : d ∈ db.devices) (hdevice : r.deviceId = d.id)
    (hm : d.networkId = m) (hnet : r.networkId = m) (hroutes : db.routes.insert r = some routes) :
    Effect c db { db with routes := routes } m where
  users := rfl
  others := fun _ hid => rowsOf_addRoute hroutes (hnet ▸ hid)
  step := by
    have hlinked : ({ db with routes := routes } : Database).tenancy =
        { db.tenancy with links := db.tenancy.links ++ [(d.id, d.networkId)] } := by
      simp only [Database.tenancy, (Table.insert_eq_some hroutes).1, List.map_append,
        List.map_singleton, AdvertisedRoute.origin, hdevice, hnet, hm]
    rw [hlinked]
    exact .linked (List.mem_map_of_mem hd)
  claim := .inl hclaim

/-- A route changes, but not its device and network. -/
theorem route {routeId : Uuid} {r : AdvertisedRoute} (f : AdvertisedRoute → AdvertisedRoute)
    {hf : ∀ r, Row.pk (f r) = Row.pk r} (hclaim : Claim c db r.networkId)
    (hr : db.routes.get? routeId = some r) (horigin : ∀ r, (f r).origin = r.origin) :
    Effect c db { db with routes := db.routes.modify routeId f hf } r.networkId where
  users := rfl
  others := fun id hid => by
    have hconfined : Confined AdvertisedRoute.networkId r.networkId db.routes
        (db.routes.modify routeId f hf) :=
      confined_modify hr rfl hf (congrArg Prod.snd (horigin r))
    simp only [Database.rowsOf, hconfined id hid]
  step := by
    refine .unlinked fun l hl => ?_
    rwa [Table.map_modify hf horigin] at hl
  claim := .inl hclaim

end Effect

/-- A network is added with its hub, both the user's own. -/
theorem createNetwork_effect {env : Env} {e : Entropy} {db db' : Database} {token : String}
    {req : NetworkCreate} {network : Network}
    (h : createNetwork env e db token req = .ok (network, db')) :
    Effect ⟨env, e, .device (.createNetwork token req)⟩ db db' network.id := by
  obtain ⟨user, net, ip, networks, devices, huser, -, -, hnetwork, hnetworks, hdevices, rfl⟩ :=
    createNetwork_eq_ok h
  have howner : network.ownership = (network.id, some user.id) := by rw [hnetwork]; rfl
  obtain ⟨hrows, hnew⟩ := Table.insert_eq_some hnetworks
  obtain ⟨hmembers, hfresh⟩ := Table.insert_eq_some hdevices
  have howners : networks.rows.map Network.ownership =
      db.tenancy.owners ++ [(network.id, some user.id)] := by
    rw [hrows, List.map_append, List.map_singleton, howner]
    rfl
  refine Effect.audit (m := network.id) ?_ _
  refine ⟨rfl, fun id hid => ?_, ?_, .inr ⟨?_, ?_⟩⟩
  · have hn : Confined Network.id network.id db.networks networks := confined_insert hnetworks rfl
    have hd : Confined Device.networkId network.id db.devices devices :=
      confined_insert hdevices rfl
    simp only [Database.rowsOf, hn id hid, hd id hid]
  · have hcreated : ({ db with networks := networks, devices := devices } : Database).tenancy =
        { db.tenancy with
          owners := db.tenancy.owners ++ [(network.id, some user.id)]
          members := db.tenancy.members ++ [(e.serverId, network.id, some user.id)] } := by
      rw [Database.tenancy, howners, hmembers, List.map_append]
      rfl
    rw [hcreated]
    refine .created (fun x hx => ?_) fun x hx => ?_
    · obtain ⟨n, hn, rfl⟩ := List.mem_map.1 hx
      exact hnew n hn
    · obtain ⟨d, hd, rfl⟩ := List.mem_map.1 hx
      exact hfresh d hd
  · rw [Option.eq_none_iff_forall_ne_some]
    intro n hn
    obtain ⟨hmem, hpk⟩ := Table.get?_eq_some_iff.1 hn
    exact hnew n hmem hpk
  · refine ApiCall.madeBy_of_token rfl huser ?_
    change (network.id, some user.id) ∈ networks.rows.map Network.ownership
    rw [howners]
    exact List.mem_append_right _ (List.mem_singleton_self _)

theorem usePreauthKey_confined {db : Database} {preauth : PreAuthKey} (deviceId : Uuid)
    (hk : preauth ∈ db.preauthKeys) : Confined PreAuthKey.networkId preauth.networkId
      db.preauthKeys (db.usePreauthKey preauth deviceId).preauthKeys := by
  have hget : db.preauthKeys.get? preauth.id = some preauth := Table.get?_eq_some_iff.2 ⟨hk, rfl⟩
  dsimp only [Database.usePreauthKey]
  by_cases hreusable : preauth.reusable = true
  · rw [if_pos hreusable]
    exact confined_modify hget rfl _ rfl
  · rw [if_neg hreusable]
    exact confined_delete_pk hget rfl

/-- The requests of `Request`. -/
theorem ApiCall.handle_effect_device {env : Env} {e : Entropy} {db db' : Database}
    {request : Request} (hok : ({ env := env, entropy := e, request := request } : Call).handle db =
      .ok db') : ∃ m, Effect ⟨env, e, .device request⟩ db db' m := by
  unfold Call.handle at hok
  cases request with
  | createNetwork token req =>
    obtain ⟨network, hok⟩ := snd_map_eq_ok.1 hok
    exact ⟨network.id, createNetwork_effect hok⟩
  | updateNetwork token networkId req =>
    obtain ⟨network, hok⟩ := snd_map_eq_ok.1 hok
    obtain ⟨user, n, huser, hn, rfl⟩ := updateNetwork_eq_ok hok
    exact ⟨networkId, .audit (.network req.apply (.owner rfl huser hn)
      (requireNetworkOwner_eq_ok.1 hn).1 fun _ => rfl) _⟩
  | createPreauthKey token networkId req =>
    obtain ⟨key, hok⟩ := snd_map_eq_ok.1 hok
    obtain ⟨user, n, keys, huser, hn, rfl, hkeys, rfl⟩ := createPreauthKey_eq_ok hok
    exact ⟨networkId, .audit (.rows (.owner rfl huser hn)
      (confined_refl _) (confined_refl _) (confined_insert hkeys rfl)) _⟩
  | createDevice token networkId req =>
    obtain ⟨device, hok⟩ := snd_map_eq_ok.1 hok
    obtain ⟨user, network, ip, devices, huser, hn, -, rfl, hdevices, rfl⟩ := createDevice_eq_ok hok
    refine ⟨networkId, .audit (.addDevice (.owner rfl huser hn) hdevices (confined_refl _) ?_) _⟩
    rintro u ⟨⟩
    exact Database.mayWriteTo_of_owner huser hn
  | createNodeDevice token networkId req =>
    obtain ⟨device, hok⟩ := snd_map_eq_ok.1 hok
    obtain ⟨user, network, ip, devices, huser, hn, -, rfl, hdevices, rfl⟩ :=
      createNodeDevice_eq_ok hok
    refine ⟨networkId, .audit (.addDevice (.owner rfl huser hn) hdevices (confined_refl _) ?_) _⟩
    rintro u ⟨⟩
    exact Database.mayWriteTo_of_owner huser hn
  | enrollByKey req =>
    obtain ⟨response, hok⟩ := snd_map_eq_ok.1 hok
    obtain ⟨preauth, network, ip, devices, hvalid, -, hn, -, hdevices, -, -, rfl⟩ :=
      enrollByKey_eq_ok hok
    exact ⟨preauth.networkId, .audit (.addDevice (.nobody rfl) hdevices
      (usePreauthKey_confined _ (validPreauthKey_eq_ok hvalid).1) nofun) _⟩
  | registerDevice req =>
    obtain ⟨device, hok⟩ := snd_map_eq_ok.1 hok
    obtain ⟨preauth, network, ip, devices, hvalid, hn, -, rfl, hdevices, rfl⟩ :=
      registerDevice_eq_ok hok
    exact ⟨preauth.networkId, .audit (.addDevice (.nobody rfl) hdevices
      (usePreauthKey_confined _ (validPreauthKey_eq_ok hvalid).1) nofun) _⟩
  | updateDevice token deviceId req =>
    obtain ⟨device, hok⟩ := snd_map_eq_ok.1 hok
    obtain ⟨user, d, huser, hd, howner, rfl⟩ := updateDevice_eq_ok hok
    exact ⟨d.networkId, .audit (.device req.apply (.deviceOwner rfl huser howner) hd (fun _ => rfl)
      fun _ => rfl) _⟩
  | enrollDevice token deviceId req =>
    obtain ⟨response, hok⟩ := snd_map_eq_ok.1 hok
    obtain ⟨user, d, huser, hd, howner, -, -, -, rfl⟩ := enrollDevice_eq_ok hok
    exact ⟨d.networkId, .audit (.device (req.apply env e) (.deviceOwner rfl huser howner) hd
      (fun _ => rfl) fun _ => rfl) _⟩
  | revokeDevice token deviceId =>
    obtain ⟨_, hok⟩ := snd_map_eq_ok.1 hok
    obtain ⟨user, d, huser, hd, howner, rfl⟩ := revokeDevice_eq_ok hok
    exact ⟨d.networkId, .audit (.device (Device.revoked env.now) (.deviceOwner rfl huser howner) hd
      (fun _ => rfl) fun _ => rfl) _⟩
  | heartbeat token deviceId req =>
    obtain ⟨response, hok⟩ := snd_map_eq_ok.1 hok
    obtain ⟨d, hd, rfl⟩ := deviceHeartbeat_eq_ok hok
    exact ⟨d.networkId, .device (req.apply env.now) (.nobody rfl) (getCurrentDeviceById_eq_ok hd)
      (fun _ => rfl) fun _ => rfl⟩

theorem deleteNetwork_effect {c : ApiCall} {db db' : Database} {token : String} {networkId : Uuid}
    (htoken : c.request.token? = some token)
    (h : deleteNetwork c.env db token networkId = .ok ((), db')) : Effect c db db' networkId := by
  obtain ⟨user, network, huser, hn, hroutes, rfl⟩ := deleteNetwork_eq_ok h
  refine ⟨rfl, fun id hid => ?_, ?_, .inl (.owner htoken huser hn)⟩
  · -- only rows of the network are deleted
    have hdelete : ∀ {ρ : Type} [Row ρ Uuid] (t : Table ρ) (f : ρ → Uuid),
        (t.delete fun r => f r = networkId).select (fun r => f r = id) =
          t.select fun r => f r = id := fun t f =>
      confined_delete (fun _ _ hr => of_decide_eq_true hr) id hid
    simp only [Database.rowsOf, Database.audit, hdelete]
  · refine Eq.mpr (congrArg _ ?_) (Tenancy.Step.dissolved (g := networkId) ?_)
    · refine congrArg₂ (fun owners members => Tenancy.mk owners members db.tenancy.links) ?_ ?_
      · exact Table.map_delete fun n => decide_not
      · exact Table.map_delete fun d => decide_not
    · intro l hl
      obtain ⟨r, hr, rfl⟩ := List.mem_map.1 hl
      exact (hroutes r hr).1

/-- **A request that succeeds writes to one network**, on which its user has a claim, and is a step
of the tenancy. -/
theorem ApiCall.handle_effect {db db' : Database} (c : ApiCall) (hok : c.handle db = .ok db') :
    ∃ m, Effect c db db' m := by
  obtain ⟨env, e, request⟩ := c
  unfold handle at hok
  cases request with
  | device request => exact handle_effect_device hok
  | deleteNetwork token networkId =>
    obtain ⟨_, hok⟩ := snd_map_eq_ok.1 hok
    exact ⟨networkId, deleteNetwork_effect rfl hok⟩
  | deletePreauthKey token networkId keyId =>
    obtain ⟨_, hok⟩ := snd_map_eq_ok.1 hok
    obtain ⟨user, n, key, huser, hn, hkey, hnet, rfl⟩ := deleteOwned_eq_ok hok
    exact ⟨networkId, .audit (.rows (.owner rfl huser hn) (confined_refl _) (confined_refl _)
      (confined_delete_pk hkey hnet)) _⟩
  | createAcl token networkId req =>
    obtain ⟨rule, hok⟩ := snd_map_eq_ok.1 hok
    obtain ⟨user, n, rows, huser, hn, hrows, rfl⟩ := createOwned_eq_ok hok
    exact ⟨networkId, .audit (.rows (.owner rfl huser hn) (confined_insert hrows rfl)
      (confined_refl _) (confined_refl _)) _⟩
  | updateAcl token networkId ruleId req =>
    obtain ⟨rule, hok⟩ := snd_map_eq_ok.1 hok
    obtain ⟨user, n, old, huser, hn, hold, hnet, rfl⟩ := updateAcl_eq_ok hok
    exact ⟨networkId, .audit (.rows (.owner rfl huser hn)
      (confined_modify hold hnet req.pk_apply rfl) (confined_refl _) (confined_refl _)) _⟩
  | deleteAcl token networkId ruleId =>
    obtain ⟨_, hok⟩ := snd_map_eq_ok.1 hok
    obtain ⟨user, n, rule, huser, hn, hrule, hnet, rfl⟩ := deleteOwned_eq_ok hok
    exact ⟨networkId, .audit (.rows (.owner rfl huser hn) (confined_delete_pk hrule hnet)
      (confined_refl _) (confined_refl _)) _⟩
  | createDns token networkId req =>
    obtain ⟨entry, hok⟩ := snd_map_eq_ok.1 hok
    obtain ⟨user, n, rows, huser, hn, hrows, rfl⟩ := createOwned_eq_ok hok
    exact ⟨networkId, .audit (.rows (.owner rfl huser hn) (confined_refl _)
      (confined_insert hrows rfl) (confined_refl _)) _⟩
  | deleteDns token networkId entryId =>
    obtain ⟨_, hok⟩ := snd_map_eq_ok.1 hok
    obtain ⟨user, n, entry, huser, hn, hentry, hnet, rfl⟩ := deleteOwned_eq_ok hok
    exact ⟨networkId, .audit (.rows (.owner rfl huser hn) (confined_refl _)
      (confined_delete_pk hentry hnet) (confined_refl _)) _⟩
  | advertiseRoute token networkId req =>
    obtain ⟨route, hok⟩ := snd_map_eq_ok.1 hok
    obtain ⟨user, n, d, routes, huser, hn, hd, hnet, hdevice, hid, hroutes, rfl⟩ :=
      advertiseRoute_eq_ok hok
    exact ⟨networkId, .audit (.addRoute (.owner rfl huser hn) hd hdevice hnet hid hroutes) _⟩
  | deviceAdvertiseRoute token deviceId req =>
    obtain ⟨route, hok⟩ := snd_map_eq_ok.1 hok
    obtain ⟨d, routes, hd, hdevice, hid, hroutes, rfl⟩ := deviceAdvertiseRoute_eq_ok hok
    exact ⟨d.networkId, .addRoute (.nobody rfl) (Table.get?_eq_some_iff.1 hd).1 hdevice rfl hid
      hroutes⟩
  | approveRoute token routeId req =>
    obtain ⟨route, hok⟩ := snd_map_eq_ok.1 hok
    obtain ⟨user, old, huser, hold, rfl⟩ := approveRoute_eq_ok hok
    obtain ⟨hget, n, hn⟩ := ownedRoute_eq_ok.1 hold
    exact ⟨old.networkId, .audit (.route (req.apply env.now) (.owner rfl huser hn) hget
      fun _ => rfl) _⟩
  | updateRoute token routeId req =>
    obtain ⟨route, hok⟩ := snd_map_eq_ok.1 hok
    obtain ⟨user, old, huser, hold, rfl⟩ := updateRoute_eq_ok hok
    obtain ⟨hget, n, hn⟩ := ownedRoute_eq_ok.1 hold
    exact ⟨old.networkId, .audit (.route (req.apply env.now) (.owner rfl huser hn) hget
      fun _ => rfl) _⟩
  | deleteRoute token routeId =>
    obtain ⟨_, hok⟩ := snd_map_eq_ok.1 hok
    exact absurd hok (deleteRoute_ne_ok routeId _)
  | selectExitNode token deviceId req =>
    obtain ⟨route, hok⟩ := snd_map_eq_ok.1 hok
    obtain ⟨user, d, huser, hd, hmine, rfl⟩ := selectExitNode_eq_ok hok
    exact ⟨d.networkId, .audit (.device (req.apply env.now)
      (.holder rfl huser (Table.get?_eq_some_iff.1 hd).1 hmine) hd (fun _ => rfl) fun _ => rfl) _⟩
  | rotateDeviceToken token deviceId =>
    obtain ⟨newToken, hok⟩ := snd_map_eq_ok.1 hok
    obtain ⟨d, -, hd, -, rfl⟩ := rotateDeviceToken_eq_ok hok
    exact ⟨d.networkId, .device (Device.rotated env.security e) (.nobody rfl) hd (fun _ => rfl)
      fun _ => rfl⟩

/-! ### Runs -/

/-- The user owns the network. -/
def Database.OwnsNetwork (db : Database) (u : User) (id : Uuid) : Prop :=
  ∃ n, db.networks.get? id = some n ∧ n.ownerId = some u.id

/-- The tenancy of the database is sound: the user of a device owns its network or is a superuser,
and a route belongs to the network of its device. -/
def Database.TenancySound (db : Database) : Prop := db.tenancy.Sound db.Admin

theorem Effect.tenancySound {c : ApiCall} {db db' : Database} {m : Uuid} (h : Effect c db db' m)
    (hs : db.TenancySound) : db'.TenancySound := by
  have hadmin : db'.Admin = db.Admin := by
    unfold Database.Admin
    rw [h.users]
  rw [Database.TenancySound, hadmin]
  exact h.step.sound hs

/-- **The tenancy is sound after every run**, whoever the users are. -/
theorem tenancy_sound_run (users : Table User) (calls : List ApiCall) :
    (run serveApi { users } calls).TenancySound := by
  have hstart : Database.TenancySound { users } :=
    ⟨fun _ _ ⟨_, hm⟩ => absurd hm List.not_mem_nil, fun _ hl => absurd hl List.not_mem_nil⟩
  refine run_invariant serveApi (fun db c hs => ?_) hstart calls
  refine serveApi_cases hs fun db' hok => ?_
  obtain ⟨m, heffect⟩ := c.handle_effect hok
  exact heffect.tenancySound hs

theorem Database.MayWriteTo.owns {db : Database} {u : User} {m : Uuid} (hu : u ∈ db.users)
    (hsuper : u.isSuperuser = false) (h : db.MayWriteTo u m) : db.OwnsNetwork u m := by
  rcases h with ⟨u', hu', hid, hadmin⟩ | howns
  · obtain rfl := db.users.eq_of_pk hu' hu hid
    rw [hsuper] at hadmin
    cases hadmin
  · exact owns_iff.1 howns

theorem Database.TenancySound.owns_of_holds {db : Database} {u : User} {m : Uuid}
    (hs : db.TenancySound) (hu : u ∈ db.users) (hsuper : u.isSuperuser = false)
    (h : db.tenancy.Holds u.id m) : db.OwnsNetwork u m :=
  Database.MayWriteTo.owns hu hsuper (hs.holder u.id m h)

/-- What a request of a tenant leaves as it was. -/
structure Isolated (c : ApiCall) (db db' : Database) : Prop where
  /-- The rows of a network that the user does not own, unless the user creates it. -/
  others : ∀ u, c.MadeBy db u → u.isSuperuser = false → ∀ id, ¬ db.OwnsNetwork u id →
    db'.rowsOf id = db.rowsOf id ∨ db.networks.get? id = none ∧ db'.OwnsNetwork u id
  users : db'.users = db.users
  owners : ∀ n ∈ db.networks, ∀ n' ∈ db'.networks, n'.id = n.id → n'.ownerId = n.ownerId
  affiliations : ∀ d ∈ db.devices, ∀ d' ∈ db'.devices, d'.id = d.id →
    d'.networkId = d.networkId ∧ d'.userId = d.userId
  /-- Everything, when the request is rejected. -/
  rejected : ∀ error, c.handle db = .error error → db' = db

theorem Effect.isolated {c : ApiCall} {db db' : Database} {m : Uuid} (h : Effect c db db' m)
    (hs : db.TenancySound) (hok : c.handle db = .ok db') : Isolated c db db' where
  others := by
    rintro u hmade hsuper id hid
    have hu := hmade.mem_users
    by_cases hm : id = m
    · subst hm
      rcases h.claim with hclaim | ⟨hnew, howns⟩
      · rcases hclaim u hmade with hmay | hholds
        · exact absurd (hmay.owns hu hsuper) hid
        · exact absurd (hs.owns_of_holds hu hsuper hholds) hid
      · exact .inr ⟨hnew, Database.owns_iff.1 (howns u hmade)⟩
    · exact .inl (h.others id hm)
  users := h.users
  owners := by
    intro n hn n' hn' hid
    rcases h.step.owner_old_or_new (List.mem_map_of_mem hn') with hold | hnew
    · obtain ⟨n₀, hn₀, heq⟩ := List.mem_map.1 hold
      obtain ⟨hid₀, howner⟩ := Prod.mk.inj heq
      obtain rfl := db.networks.eq_of_pk hn₀ hn (hid₀.trans hid)
      exact howner.symm
    · exact absurd hid.symm (hnew _ (List.mem_map_of_mem hn))
  affiliations := by
    intro d hd d' hd' hid
    rcases h.step.member_old_or_new (List.mem_map_of_mem hd') with hold | hnew
    · obtain ⟨d₀, hd₀, heq⟩ := List.mem_map.1 hold
      obtain ⟨hid₀, heq⟩ := Prod.mk.inj heq
      obtain ⟨hnet, huser⟩ := Prod.mk.inj heq
      obtain rfl := db.devices.eq_of_pk hd₀ hd (hid₀.trans hid)
      exact ⟨hnet.symm, huser.symm⟩
    · exact absurd hid.symm (hnew _ (List.mem_map_of_mem hd))
  rejected := fun error herror => by
    rw [hok] at herror
    cases herror

/-- **Tenant isolation**: after every run, a request changes no row of a network that the user who
made it does not own, unless the user is a superuser; owners and users stay, and a rejected request
changes nothing. -/
theorem tenant_isolation (users : Table User) (calls : List ApiCall) (c : ApiCall) :
    Isolated c (run serveApi { users } calls) (serveApi (run serveApi { users } calls) c) := by
  have hs := tenancy_sound_run users calls
  generalize run serveApi { users } calls = db at hs
  unfold serveApi
  split
  · rename_i db' hok
    obtain ⟨m, heffect⟩ := c.handle_effect hok
    exact heffect.isolated hs hok
  · exact ⟨fun _ _ _ _ _ => .inl rfl, rfl,
      fun n hn n' hn' hid => db.networks.eq_of_pk hn' hn hid ▸ rfl,
      fun d hd d' hd' hid => db.devices.eq_of_pk hd' hd hid ▸ ⟨rfl, rfl⟩, fun _ _ => rfl⟩

/-! ### Two tenants -/

/-- An environment in which `jwt` and `jwt9` are the access tokens of two users. -/
def tenantsEnv : Env :=
  { officeEnv with
    security := plainSecurity [
      ("jwt", (Dict.empty.set "sub" (.str "00000000-0000-0000-0000-000000000001")).set "type"
        (.str "access")),
      ("jwt9", (Dict.empty.set "sub" (.str "00000000-0000-0000-0000-000000000009")).set "type"
        (.str "access"))] }

/-- Two users without privileges. -/
def tenants : Table User := .ofRows [{ id := Uuid.ofNat 1 }, { id := Uuid.ofNat 9 }]

/-- The first user creates a network and a device. -/
def tenantCalls : List ApiCall := [
  { env := tenantsEnv, entropy := officeEntropy 2
    request := .device (.createNetwork "jwt" { name := "tenant", subnet := "10.0.0.0/29" }) },
  { env := tenantsEnv, entropy := officeEntropy 3
    request := .device (.createDevice "jwt" (Uuid.ofNat 2) { name := "laptop" }) }]

/-- The second user creates a network. -/
def neighbourCall : ApiCall where
  env := tenantsEnv
  entropy := officeEntropy 4
  request := .device (.createNetwork "jwt9" { name := "neighbour", subnet := "10.1.0.0/29" })

/-- The second user leaves the network of the first one alone. -/
theorem tenant_isolation_neighbour :
    (serveApi (run serveApi { users := tenants } tenantCalls) neighbourCall).rowsOf (Uuid.ofNat 2) =
      (run serveApi { users := tenants } tenantCalls).rowsOf (Uuid.ofNat 2) := by
  have hmade : neighbourCall.MadeBy (run serveApi { users := tenants } tenantCalls)
      { id := Uuid.ofNat 9 } := ⟨"jwt9", rfl, by decide +kernel⟩
  have howner : ((run serveApi { users := tenants } tenantCalls).networks.get?
      (Uuid.ofNat 2)).bind (·.ownerId) = some (Uuid.ofNat 1) := by decide +kernel
  have hnot : ¬ (run serveApi { users := tenants } tenantCalls).OwnsNetwork
      { id := Uuid.ofNat 9 } (Uuid.ofNat 2) := by
    rintro ⟨n, hn, hown⟩
    rw [hn, Option.bind_some, hown] at howner
    exact absurd howner (by decide)
  rcases (tenant_isolation tenants tenantCalls neighbourCall).others _ hmade rfl _ hnot with
    hsame | ⟨hnone, -⟩
  · exact hsame
  · rw [hnone] at howner
    cases howner

end Midscale
