import Midscale.Api.Tenancy

/-!
# What tenants may read

A user without privileges is shown rows of their own networks only: a request that reads is answered
as if the rows of all other networks did not exist.  Most endpoints ask for the owner of a network;
the list of all devices asks for the user of a device and the routes of a device are found by the
device, which shows no other tenant's rows because the tenancy is sound.

* `Database.ownedBy` : the database without the networks of the others.
* `respond_ownedBy` : **a request that reads is answered from the own networks.**
* `read_isolation` : every row shown, and the private key of a configuration, belongs to a network
  of the user, in every state that requests reach.
-/

namespace Midscale

/-! ### The database of one tenant -/

namespace Database

variable (db : Database) (u : User)

/-- The user owns the network. -/
def isOwn (networkId : Uuid) : Bool := (db.networks.get? networkId).bind (·.ownerId) = some u.id

/-- The database without the networks that the user does not own and their rows. -/
def ownedBy : Database :=
  { db with
    networks := db.networks.delete fun n => !db.isOwn u n.id
    devices := db.devices.delete fun d => !db.isOwn u d.networkId
    aclRules := db.aclRules.delete fun r => !db.isOwn u r.networkId
    dnsEntries := db.dnsEntries.delete fun e => !db.isOwn u e.networkId
    preauthKeys := db.preauthKeys.delete fun k => !db.isOwn u k.networkId
    routes := db.routes.delete fun r => !db.isOwn u r.networkId }

variable {db u}

theorem isOwn_iff {id : Uuid} : db.isOwn u id = true ↔ db.OwnsNetwork u id := by
  rw [isOwn, decide_eq_true_eq, Option.bind_eq_some_iff]
  rfl

theorem select_ownedBy {ρ : Type} [Row ρ Uuid] {t : Table ρ} (networkId : ρ → Uuid) {p : ρ → Bool}
    (h : ∀ r ∈ t, p r = true → db.OwnsNetwork u (networkId r)) :
    (t.delete fun r => !db.isOwn u (networkId r)).select p = t.select p := by
  refine Table.select_delete_of_not fun r hr hnot => ?_
  rw [Bool.eq_false_iff]
  intro hp
  rw [isOwn_iff.2 (h r hr hp)] at hnot
  cases hnot

theorem get?_ownedBy {ρ : Type} [Row ρ Uuid] {t : Table ρ} (networkId : ρ → Uuid) {id : Uuid}
    {r : ρ} (h : t.get? id = some r) (hown : db.OwnsNetwork u (networkId r)) :
    (t.delete fun r => !db.isOwn u (networkId r)).get? id = some r := by
  refine Table.get?_delete_of_not h ?_
  rw [isOwn_iff.2 hown]
  rfl

theorem getCurrentUser_ownedBy (env : Env) (token : String) :
    getCurrentUser env (db.ownedBy u) token = getCurrentUser env db token := rfl

end Database

/-! ### The checks -/

section

variable {env : Env} {db : Database} {token : String} {u : User}

theorem requireNetworkOwner_own {networkId : Uuid} {network : Network}
    (hsuper : u.isSuperuser = false) (h : requireNetworkOwner db networkId u = .ok network) :
    db.OwnsNetwork u networkId ∧ requireNetworkOwner (db.ownedBy u) networkId u = .ok network := by
  obtain ⟨hn, hsuper' | howner⟩ := requireNetworkOwner_eq_ok.1 h
  · rw [hsuper] at hsuper'
    cases hsuper'
  · have hown : db.OwnsNetwork u networkId := ⟨network, hn, howner⟩
    have hid : network.id = networkId := (Table.get?_eq_some_iff.1 hn).2
    exact ⟨hown, requireNetworkOwner_eq_ok.2
      ⟨Database.get?_ownedBy Network.id hn (hid.symm ▸ hown), .inr howner⟩⟩

theorem requireDeviceOwner_own {d : Device} (hsuper : u.isSuperuser = false)
    (h : requireDeviceOwner db d u = .ok ()) :
    db.OwnsNetwork u d.networkId ∧ requireDeviceOwner (db.ownedBy u) d u = .ok () := by
  rcases requireDeviceOwner_eq_ok.1 h with hsuper' | howner
  · rw [hsuper] at hsuper'
    cases hsuper'
  · obtain ⟨n, hn, hown⟩ := Option.bind_eq_some_iff.1 howner
    have hid : n.id = d.networkId := (Table.get?_eq_some_iff.1 hn).2
    have hkept : (db.ownedBy u).networks.get? d.networkId = some n :=
      Database.get?_ownedBy Network.id hn (hid.symm ▸ ⟨n, hn, hown⟩)
    exact ⟨⟨n, hn, hown⟩, requireDeviceOwner_eq_ok.2 (.inr (by rw [hkept]; exact hown))⟩

theorem listOwned_own {ρ : Type} [Row ρ Uuid] {T : OwnedTable ρ} {networkId : Uuid}
    {le : ρ → ρ → Prop} [DecidableRel le] {rows : List ρ}
    (hT : T.get (db.ownedBy u) = (T.get db).delete fun r => !db.isOwn u (T.networkId r))
    (hu : getCurrentUser env db token = .ok u) (hsuper : u.isSuperuser = false)
    (h : listOwned T env db token networkId le = .ok rows) :
    (∀ r ∈ rows, db.OwnsNetwork u (T.networkId r)) ∧
      listOwned T env (db.ownedBy u) token networkId le = .ok rows := by
  obtain ⟨user, network, huser, hnet, rfl⟩ := listOwned_eq_ok.1 h
  obtain rfl : u = user := Except.ok.inj (hu.symm.trans huser)
  obtain ⟨hown, hnet'⟩ := requireNetworkOwner_own hsuper hnet
  constructor
  · intro r hr
    rw [List.mem_insertionSort, Table.mem_select] at hr
    exact of_decide_eq_true hr.2 ▸ hown
  · refine listOwned_eq_ok.2 ⟨u, network, hu, hnet', ?_⟩
    rw [hT, Database.select_ownedBy T.networkId fun r _ hr => of_decide_eq_true hr ▸ hown]

theorem listNetworks_own {rows : List Network} (hu : getCurrentUser env db token = .ok u)
    (hsuper : u.isSuperuser = false) (h : listNetworks env db token = .ok rows) :
    (∀ n ∈ rows, db.OwnsNetwork u n.id) ∧ listNetworks env (db.ownedBy u) token = .ok rows := by
  rw [listNetworks, hu, ok_bind, Except.ok.injEq] at h
  subst h
  have hown : ∀ n ∈ db.networks, u.isSuperuser = true ∨ n.ownerId = some u.id →
      db.OwnsNetwork u n.id := by
    rintro n hn (hsuper' | howner)
    · rw [hsuper] at hsuper'
      cases hsuper'
    · exact ⟨n, Table.get?_eq_some_iff.2 ⟨hn, rfl⟩, howner⟩
  constructor
  · intro n hn
    rw [filterOwnedNetworks, List.mem_insertionSort, Table.mem_select] at hn
    exact hown n hn.1 (of_decide_eq_true hn.2)
  · rw [listNetworks, Database.getCurrentUser_ownedBy, hu, ok_bind, filterOwnedNetworks,
      filterOwnedNetworks]
    refine congrArg (fun rows => Except.ok (List.insertionSort _ rows)) ?_
    exact Database.select_ownedBy Network.id fun n hn hp =>
      hown n hn (of_decide_eq_true hp)

theorem listAllDevices_own {rows : List Device} (hs : db.TenancySound)
    (hu : getCurrentUser env db token = .ok u) (hsuper : u.isSuperuser = false)
    (h : listAllDevices env db token = .ok rows) :
    (∀ d ∈ rows, db.OwnsNetwork u d.networkId) ∧
      listAllDevices env (db.ownedBy u) token = .ok rows := by
  rw [listAllDevices, hu, ok_bind, Except.ok.injEq] at h
  subst h
  -- the user of a device owns its network
  have hown : ∀ d ∈ db.devices, u.isSuperuser = true ∨ d.userId = some u.id →
      db.OwnsNetwork u d.networkId := by
    rintro d hd (hsuper' | hmine)
    · rw [hsuper] at hsuper'
      cases hsuper'
    · exact hs.owns_of_holds (getCurrentUser_eq_ok.1 hu).2.1 hsuper
        (Database.holds_iff.2 ⟨d, hd, rfl, hmine⟩)
  constructor
  · intro d hd
    rw [List.mem_insertionSort, Table.mem_select] at hd
    exact hown d hd.1 (of_decide_eq_true hd.2)
  · rw [listAllDevices, Database.getCurrentUser_ownedBy, hu, ok_bind]
    refine congrArg (fun rows => Except.ok (List.insertionSort _ rows)) ?_
    exact Database.select_ownedBy Device.networkId fun d hd hp =>
      hown d hd (of_decide_eq_true hp)

theorem getDevice_own {deviceId : Uuid} {d : Device} (hu : getCurrentUser env db token = .ok u)
    (hsuper : u.isSuperuser = false) (h : getDevice env db token deviceId = .ok d) :
    db.devices.get? deviceId = some d ∧ db.OwnsNetwork u d.networkId ∧
      getDevice env (db.ownedBy u) token deviceId = .ok d := by
  simp only [getDevice, hu, ok_bind, bind_eq_ok, getOr_eq_ok] at h
  obtain ⟨d', hd, _, howner, h⟩ := h
  cases h
  obtain ⟨hown, howner'⟩ := requireDeviceOwner_own hsuper howner
  refine ⟨hd, hown, ?_⟩
  have hkept : (db.ownedBy u).devices.get? deviceId = some d :=
    Database.get?_ownedBy Device.networkId hd hown
  rw [getDevice, Database.getCurrentUser_ownedBy, hu, ok_bind, hkept, getOr, ok_bind]
  exact bind_eq_ok.2 ⟨(), howner', rfl⟩

theorem getDeviceConfig_ownedBy {deviceId : Uuid} {d : Device}
    (hd : db.devices.get? deviceId = some d) (hown : db.OwnsNetwork u d.networkId) :
    getDeviceConfig env (db.ownedBy u) deviceId = getDeviceConfig env db deviceId := by
  obtain ⟨n, hn, howner⟩ := hown
  have hown : db.OwnsNetwork u d.networkId := ⟨n, hn, howner⟩
  have hid : n.id = d.networkId := (Table.get?_eq_some_iff.1 hn).2
  have hkept : (db.ownedBy u).networks.get? d.networkId = some n :=
    Database.get?_ownedBy Network.id hn (hid.symm ▸ hown)
  have hplanned : (db.ownedBy u).plannedDevices d.networkId = db.plannedDevices d.networkId :=
    Database.select_ownedBy Device.networkId fun d' _ hp =>
      (of_decide_eq_true hp).1 ▸ hown
  have hentries : ((db.ownedBy u).dnsEntries.select fun e => e.networkId = d.networkId) =
      db.dnsEntries.select fun e => e.networkId = d.networkId :=
    Database.select_ownedBy DNSEntry.networkId fun e _ hp =>
      of_decide_eq_true hp ▸ hown
  have hroutes : (db.ownedBy u).approvedRoutes d.networkId = db.approvedRoutes d.networkId :=
    Database.select_ownedBy AdvertisedRoute.networkId fun r _ hp =>
      (of_decide_eq_true hp).1 ▸ hown
  refine getDeviceConfig_congr hd (Database.get?_ownedBy Device.networkId hd hown)
    (hkept.trans hn.symm) hplanned ?_ ?_
  · rw [Database.buildDnsServers, hentries, Database.buildDnsServers]
  · rw [Database.buildRoutesByDevice, hroutes, Database.buildRoutesByDevice]

theorem getDeviceConfigEndpoint_own {deviceId : Uuid} {r : String × String}
    (hu : getCurrentUser env db token = .ok u) (hsuper : u.isSuperuser = false)
    (h : getDeviceConfigEndpoint env db token deviceId = .ok r) :
    (∃ d ∈ db.devices, db.OwnsNetwork u d.networkId ∧ ∃ config : WireGuardConfig,
      config.toIni = .ok r.1 ∧
        env.security.decryptPrivateKey (d.privateKeyEnc.getD "") = .ok config.privateKey) ∧
      getDeviceConfigEndpoint env (db.ownedBy u) token deviceId = .ok r := by
  simp only [getDeviceConfigEndpoint, hu, ok_bind, bind_eq_ok, getOr_eq_ok] at h
  obtain ⟨d, hd, _, howner, text, htext, h⟩ := h
  cases h
  obtain ⟨hown, howner'⟩ := requireDeviceOwner_own hsuper howner
  constructor
  · obtain ⟨d', config, hd', hini, hkey⟩ := getDeviceConfig_privateKey htext
    obtain rfl := Option.some.inj (hd.symm.trans hd')
    exact ⟨d, (Table.get?_eq_some_iff.1 hd).1, hown, config, hini, hkey⟩
  · have hkept : (db.ownedBy u).devices.get? deviceId = some d :=
      Database.get?_ownedBy Device.networkId hd hown
    rw [getDeviceConfigEndpoint, Database.getCurrentUser_ownedBy, hu, ok_bind, hkept, getOr,
      ok_bind, getDeviceConfig_ownedBy hd hown, htext]
    exact bind_eq_ok.2 ⟨(), howner', rfl⟩

/-- The routes of a device. -/
theorem listDeviceRoutes_own {deviceId : Uuid} {rows : List AdvertisedRoute}
    (hs : db.TenancySound) (hu : getCurrentUser env db token = .ok u)
    (hsuper : u.isSuperuser = false) (h : listDeviceRoutes env db token deviceId = .ok rows) :
    (∀ r ∈ rows, db.OwnsNetwork u r.networkId) ∧
      listDeviceRoutes env (db.ownedBy u) token deviceId = .ok rows := by
  simp only [listDeviceRoutes, hu, ok_bind, bind_eq_ok, getOr_eq_ok] at h
  obtain ⟨d, hd, network, hnet, h⟩ := h
  cases h
  obtain ⟨hown, hnet'⟩ := requireNetworkOwner_own hsuper hnet
  -- a route belongs to the network of its device
  have hroute : ∀ r ∈ db.routes, r.deviceId = deviceId → db.OwnsNetwork u r.networkId := by
    intro r hr hdevice
    obtain ⟨holder, hmem⟩ := hs.link r.origin (List.mem_map_of_mem hr)
    obtain ⟨d', hd', heq⟩ := List.mem_map.1 hmem
    obtain ⟨hid, heq⟩ := Prod.mk.inj heq
    obtain ⟨hmemd, hpk⟩ := Table.get?_eq_some_iff.1 hd
    obtain rfl := db.devices.eq_of_pk hd' hmemd (hid.trans (hdevice.trans hpk.symm))
    have hnetwork : d'.networkId = r.networkId := (Prod.mk.inj heq).1
    exact hnetwork ▸ hown
  constructor
  · intro r hr
    rw [List.mem_insertionSort, Table.mem_select] at hr
    exact hroute r hr.1 (of_decide_eq_true hr.2)
  · have hkept : (db.ownedBy u).devices.get? deviceId = some d :=
      Database.get?_ownedBy Device.networkId hd hown
    have hrows : ((db.ownedBy u).routes.select fun r => r.deviceId = deviceId) =
        db.routes.select fun r => r.deviceId = deviceId :=
      Database.select_ownedBy AdvertisedRoute.networkId fun r hr hp =>
        hroute r hr (of_decide_eq_true hp)
    rw [listDeviceRoutes, Database.getCurrentUser_ownedBy, hu, ok_bind, hkept, getOr, ok_bind,
      hnet', ok_bind, hrows]

end

/-! ### Every request -/

/-- The networks that the rows of a response belong to. -/
def GetResponse.networkIds : GetResponse → List Uuid
  | .networks rows => rows.map (·.id)
  | .devices rows => rows.map (·.networkId)
  | .preauthKeys rows => rows.map (·.networkId)
  | .aclRules rows => rows.map (·.networkId)
  | .dnsEntries rows => rows.map (·.networkId)
  | .routes rows => rows.map (·.networkId)
  | .config _ _ => []

/-- The response shows rows of the user's networks, and the private key of a configuration is that
of a device there. -/
structure ShowsOwn (env : Env) (db : Database) (u : User) (r : GetResponse) : Prop where
  rows : ∀ id ∈ r.networkIds, db.OwnsNetwork u id
  privateKey : ∀ text filename, r = .config text filename →
    ∃ d ∈ db.devices, db.OwnsNetwork u d.networkId ∧ ∃ config : WireGuardConfig,
      config.toIni = .ok text ∧
        env.security.decryptPrivateKey (d.privateKeyEnc.getD "") = .ok config.privateKey

theorem ShowsOwn.of_rows {env : Env} {db : Database} {u : User} {r : GetResponse}
    (hrows : ∀ id ∈ r.networkIds, db.OwnsNetwork u id) (hr : ∀ text name, r ≠ .config text name) :
    ShowsOwn env db u r :=
  ⟨hrows, fun text name heq => absurd heq (hr text name)⟩

/-- **A request that reads is answered from the own networks.** -/
theorem respond_ownedBy {env : Env} {db : Database} {token : String} {u : User} {q : GetRequest}
    {r : GetResponse} (hs : db.TenancySound) (hu : getCurrentUser env db token = .ok u)
    (hsuper : u.isSuperuser = false) (h : respond env db token q = .ok r) :
    ShowsOwn env db u r ∧ respond env (db.ownedBy u) token q = .ok r := by
  unfold respond at h ⊢
  cases q with
  | listNetworks =>
    obtain ⟨rows, hrows, rfl⟩ := map_eq_ok.1 h
    obtain ⟨hown, hsame⟩ := listNetworks_own hu hsuper hrows
    exact ⟨.of_rows (List.forall_mem_map.2 hown) nofun, map_eq_ok.2 ⟨rows, hsame, rfl⟩⟩
  | getNetwork id =>
    obtain ⟨n, hn, rfl⟩ := map_eq_ok.1 h
    rw [getNetwork, hu, ok_bind] at hn
    obtain ⟨hown, hsame⟩ := requireNetworkOwner_own hsuper hn
    have hid : n.id = id := (Table.get?_eq_some_iff.1 (requireNetworkOwner_eq_ok.1 hn).1).2
    have hshown : db.OwnsNetwork u n.id := hid.symm ▸ hown
    refine ⟨.of_rows (List.forall_mem_singleton.2 hshown) nofun, map_eq_ok.2 ⟨n, ?_, rfl⟩⟩
    rw [getNetwork, Database.getCurrentUser_ownedBy, hu, ok_bind, hsame]
  | listDevices id =>
    obtain ⟨rows, hrows, rfl⟩ := map_eq_ok.1 h
    obtain ⟨hown, hsame⟩ := listOwned_own rfl hu hsuper hrows
    exact ⟨.of_rows (List.forall_mem_map.2 hown) nofun, map_eq_ok.2 ⟨rows, hsame, rfl⟩⟩
  | listPreauthKeys id =>
    obtain ⟨rows, hrows, rfl⟩ := map_eq_ok.1 h
    obtain ⟨hown, hsame⟩ := listOwned_own rfl hu hsuper hrows
    exact ⟨.of_rows (List.forall_mem_map.2 hown) nofun, map_eq_ok.2 ⟨rows, hsame, rfl⟩⟩
  | listAllDevices =>
    obtain ⟨rows, hrows, rfl⟩ := map_eq_ok.1 h
    obtain ⟨hown, hsame⟩ := listAllDevices_own hs hu hsuper hrows
    exact ⟨.of_rows (List.forall_mem_map.2 hown) nofun, map_eq_ok.2 ⟨rows, hsame, rfl⟩⟩
  | getDevice id =>
    obtain ⟨d, hd, rfl⟩ := map_eq_ok.1 h
    obtain ⟨-, hown, hsame⟩ := getDevice_own hu hsuper hd
    exact ⟨.of_rows (List.forall_mem_singleton.2 hown) nofun, map_eq_ok.2 ⟨d, hsame, rfl⟩⟩
  | getDeviceConfig id =>
    obtain ⟨text, htext, rfl⟩ := map_eq_ok.1 h
    obtain ⟨hkey, hsame⟩ := getDeviceConfigEndpoint_own hu hsuper htext
    refine ⟨⟨nofun, ?_⟩, map_eq_ok.2 ⟨text, hsame, rfl⟩⟩
    rintro _ _ ⟨⟩
    exact hkey
  | listAcls id =>
    obtain ⟨rows, hrows, rfl⟩ := map_eq_ok.1 h
    obtain ⟨hown, hsame⟩ := listOwned_own rfl hu hsuper hrows
    exact ⟨.of_rows (List.forall_mem_map.2 hown) nofun, map_eq_ok.2 ⟨rows, hsame, rfl⟩⟩
  | listDns id =>
    obtain ⟨rows, hrows, rfl⟩ := map_eq_ok.1 h
    obtain ⟨hown, hsame⟩ := listOwned_own rfl hu hsuper hrows
    exact ⟨.of_rows (List.forall_mem_map.2 hown) nofun, map_eq_ok.2 ⟨rows, hsame, rfl⟩⟩
  | listRoutes id =>
    obtain ⟨rows, hrows, rfl⟩ := map_eq_ok.1 h
    obtain ⟨hown, hsame⟩ := listOwned_own rfl hu hsuper hrows
    exact ⟨.of_rows (List.forall_mem_map.2 hown) nofun, map_eq_ok.2 ⟨rows, hsame, rfl⟩⟩
  | listDeviceRoutes id =>
    obtain ⟨rows, hrows, rfl⟩ := map_eq_ok.1 h
    obtain ⟨hown, hsame⟩ := listDeviceRoutes_own hs hu hsuper hrows
    exact ⟨.of_rows (List.forall_mem_map.2 hown) nofun, map_eq_ok.2 ⟨rows, hsame, rfl⟩⟩

/-- **Read isolation**: in every state that requests reach, a response to an active user without
privileges shows rows and private keys of the user's own networks only, and is the one that the
database without all other networks gives. -/
theorem read_isolation (users : Table User) (calls : List ApiCall) {env : Env} {token : String}
    {u : User} {q : GetRequest} {r : GetResponse}
    (hu : getCurrentUser env (run serveApi { users } calls) token = .ok u)
    (hsuper : u.isSuperuser = false)
    (h : respond env (run serveApi { users } calls) token q = .ok r) :
    ShowsOwn env (run serveApi { users } calls) u r ∧
      respond env ((run serveApi { users } calls).ownedBy u) token q = .ok r :=
  respond_ownedBy (tenancy_sound_run users calls) hu hsuper h

/-- What the list of all devices shows the second of two tenants. -/
theorem read_isolation_neighbour : ∃ r,
    respond tenantsEnv (run serveApi { users := tenants } (tenantCalls ++ [neighbourCall])) "jwt9"
        .listAllDevices = .ok r ∧ r.networkIds = [Uuid.ofNat 4] ∧
      ShowsOwn tenantsEnv (run serveApi { users := tenants } (tenantCalls ++ [neighbourCall]))
        { id := Uuid.ofNat 9 } r := by
  have hshown : GetResponse.networkIds <$> respond tenantsEnv
      (run serveApi { users := tenants } (tenantCalls ++ [neighbourCall])) "jwt9" .listAllDevices =
      .ok [Uuid.ofNat 4] := by decide +kernel
  obtain ⟨r, hr, hids⟩ := map_eq_ok.1 hshown
  exact ⟨r, hr, hids, (read_isolation tenants (tenantCalls ++ [neighbourCall]) (by decide +kernel)
    rfl hr).1⟩

end Midscale
