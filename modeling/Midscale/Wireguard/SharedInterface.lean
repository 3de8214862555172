import Midscale.Api.Addresses
import Midscale.Api.Withdrawal
import Midscale.Wireguard.InterfacePeers

/-!
# Peers on a shared interface

No request looks at the other networks of its interface, and none looks at the routes when it gives
an address or at the addresses when it approves a route.

* `ApiCall.handle_gains` : a request gives the peers what it gains, and nothing else.
* `serveApi_exclusive_iff` : when one request keeps the peers apart.
* `shared_interface_iff` : **no two peers of an interface ever cover one address exactly if no
  request gives a peer an address that another one covers.**
-/

namespace Midscale

/-! ### One request -/

section

variable {db db' : Database} {settings : Settings}

theorem holds_createNetwork (h : db.Linked) {network : Network} {hub : Device}
    (hname : hub.name = serverName) (hid : hub.networkId = network.id)
    (hnetworks : db.networks.insert network = some db'.networks)
    (hdevices : db.devices.insert hub = some db'.devices) (hroutes : db'.routes = db.routes) :
    db'.Linked ∧ ∀ interface id x, db'.Holds settings interface id x →
      db.Holds settings interface id x := by
  have hget : ∀ d ∈ db.devices, db'.networks.get? d.networkId = db.networks.get? d.networkId := by
    intro d hd
    rw [Table.get?_insert hnetworks]
    refine if_neg fun hpk => h.network d hd ?_
    rw [← hpk]
    exact Table.exists_insert_iff.1 ⟨_, hnetworks⟩
  refine ⟨⟨?_, ?_⟩, ?_⟩
  · intro d hd
    rcases (Table.mem_insert hdevices).1 hd with hd | rfl
    · rw [hget d hd]
      exact h.network d hd
    · have hpk : Row.pk network = network.id := rfl
      rw [hid, Table.get?_insert hnetworks, if_pos hpk]
      exact Option.some_ne_none _
  · rw [hroutes]
    intro r hr
    obtain ⟨d, hd, hid⟩ := h.device r hr
    exact ⟨d, (Table.mem_insert hdevices).2 (.inl hd), hid⟩
  · rintro interface id x ⟨d, hd, rfl, hpeer, ⟨n, hn, hinterface⟩, hx⟩
    rcases (Table.mem_insert hdevices).1 hd with hd | rfl
    · refine ⟨d, hd, rfl, hpeer, ⟨n, hget d hd ▸ hn, hinterface⟩, ?_⟩
      rwa [Database.RowCovers, hroutes] at hx
    · exact absurd hname hpeer.2.2.2

/-- A network that is updated takes its peers to its interface. -/
theorem gains_updateNetwork (h : db.Linked) {c : ApiCall} {token : String} {networkId : Uuid}
    {req : NetworkUpdate} {network : Network}
    (hreq : c.request = .device (.updateNetwork token networkId req))
    (hnetwork : db.networks.get? networkId = some network)
    (hnetworks : db'.networks = db.networks.modify networkId req.apply req.pk_apply)
    (hdevices : db'.devices = db.devices) (hroutes : db'.routes = db.routes) :
    db'.Linked ∧ Holdings.Gains (db.Holds settings) (fun i id x => c.Gains settings db i id x)
      (db'.Holds settings) := by
  have hcovers := Database.rowCovers_congr hroutes
  -- before the request they are all on one interface
  have hheld : ∀ {d : Device} {x : IPv4Address}, d ∈ db.devices → d.networkId = networkId →
      d.IsPeer → db.RowCovers d x → db.Holds settings (settings.interfaceOf network) d.id x :=
    fun hd hid hpeer hx => ⟨_, hd, rfl, hpeer, ⟨network, hid ▸ hnetwork, rfl⟩, hx⟩
  refine ⟨⟨?_, ?_⟩, ?_, ?_, ?_, ?_⟩
  · rw [hdevices, hnetworks]
    intro d hd
    rw [Table.get?_modify, Ne, Option.map_eq_none_iff]
    exact h.network d hd
  · rw [hdevices, hroutes]
    exact h.device
  · rintro i id x ⟨d, hd, rfl, hpeer, hon, hx⟩
    rw [hdevices] at hd
    rw [hcovers] at hx
    by_cases hid : d.networkId = networkId
    · rw [hid, Database.onInterface_update hnetwork hnetworks] at hon
      exact .inr (.moved hreq hnetwork hon hd hid hpeer hx)
    · rw [Database.onInterface_update_of_ne hnetworks hid] at hon
      exact .inl ⟨d, hd, rfl, hpeer, hon, hx⟩
  · intro i id x hx
    obtain ⟨hinterface, d, hd, rfl, hid, hpeer, hx⟩ :=
      (ApiCall.gains_updateNetwork_iff hreq hnetwork).1 hx
    have hon := (Database.onInterface_update hnetwork hnetworks).2 hinterface
    exact ⟨d, hdevices ▸ hd, rfl, hpeer, hid ▸ hon, (hcovers _ _).2 hx⟩
  · intro hexclusive i a b x ha hb
    obtain ⟨-, d, hd, rfl, hid, hpeer, hx⟩ := (ApiCall.gains_updateNetwork_iff hreq hnetwork).1 ha
    obtain ⟨-, d', hd', rfl, hid', hpeer', hx'⟩ :=
      (ApiCall.gains_updateNetwork_iff hreq hnetwork).1 hb
    exact hexclusive _ _ _ x (hheld hd hid hpeer hx) (hheld hd' hid' hpeer' hx')
  · rintro hexclusive i a b x ha ⟨d', hd', rfl, hpeer', hon', hx'⟩ hne
    obtain ⟨-, d, hd, rfl, hid, hpeer, hx⟩ := (ApiCall.gains_updateNetwork_iff hreq hnetwork).1 ha
    by_cases hid' : d'.networkId = networkId
    · exact absurd (hexclusive _ _ _ x (hheld hd' hid' hpeer' hx') (hheld hd hid hpeer hx)) hne
    · exact ⟨d', hdevices ▸ hd', rfl, hpeer',
        (Database.onInterface_update_of_ne hnetworks hid').2 hon', (hcovers _ _).2 hx'⟩

/-- A device that enrolls gains what its new row covers. -/
theorem gains_enrollDevice (h : db.Linked) {c : ApiCall} {token : String} {deviceId : Uuid}
    {req : EnrollRequest} {d : Device}
    (hreq : c.request = .device (.enrollDevice token deviceId req))
    (hd : db.devices.get? deviceId = some d) (hnetworks : db'.networks = db.networks)
    (hdevices : db'.devices = (db.assign c.env.now deviceId (req.apply c.env c.entropy)
      fun _ => rfl).devices) (hroutes : db'.routes = db.routes) :
    db'.Linked ∧ Holdings.Gains (db.Holds settings) (fun i id x => c.Gains settings db i id x)
      (db'.Holds settings) := by
  set row := d.flushed c.env.now (req.apply c.env c.entropy) with hrow
  obtain ⟨hmem, hid⟩ := Table.get?_eq_some_iff.1 hd
  have hrowId : row.id = deviceId := (Device.flushed_id ..).trans hid
  have hmodify : ∀ d', d' ∈ db'.devices ↔ d' = row ∨ d' ∈ db.devices ∧ d'.id ≠ deviceId := by
    intro d'
    have hpk : ∀ d₀ : Device, Row.pk (d₀.flushed c.env.now (req.apply c.env c.entropy)) =
        Row.pk d₀ := Device.flushed_id _ _
    rw [hdevices]
    exact Table.mem_modify_of_get? hpk hd
  have hpeer : row.IsPeer ↔ (req.apply c.env c.entropy d).IsPeer := by
    simp only [Device.IsPeer, hrow, Device.flushed_isActive, Device.flushed_publicKey,
      Device.flushed_ipAddress, Device.flushed_name]
  have hon : ∀ i id, db'.OnInterface settings i id ↔ db.OnInterface settings i id :=
    Database.onInterface_congr hnetworks
  have hcovers := Database.rowCovers_congr hroutes
  have hrowCovers : ∀ x, db.RowCovers row x ↔ db.RowCovers (req.apply c.env c.entropy d) x := by
    intro x
    simp only [Database.RowCovers, hrow, Device.flushed_ipAddress, Device.flushed_id]
  have hrowNetwork : row.networkId = d.networkId := Device.flushed_networkId ..
  have hgains : ∀ {i : String} {id : Uuid} {x : IPv4Address}, c.Gains settings db i id x ↔
      id = deviceId ∧ row.IsPeer ∧ db.OnInterface settings i row.networkId ∧
        db.RowCovers row x := by
    intro i id x
    rw [hpeer, hrowCovers, hrowNetwork]
    exact ApiCall.gains_enrollDevice_iff hreq hd
  refine ⟨⟨?_, ?_⟩, ?_, ?_, ?_, ?_⟩
  · intro d' hd'
    rw [hnetworks]
    rcases (hmodify d').1 hd' with rfl | ⟨hd', -⟩
    · rw [hrowNetwork]
      exact h.network d hmem
    · exact h.network d' hd'
  · rw [hroutes]
    intro r hr
    obtain ⟨d', hd', hid'⟩ := h.device r hr
    by_cases hsame : d'.id = deviceId
    · exact ⟨row, (hmodify row).2 (.inl rfl), hrowId.trans (hsame.symm.trans hid')⟩
    · exact ⟨d', (hmodify d').2 (.inr ⟨hd', hsame⟩), hid'⟩
  · rintro i id x ⟨d', hd', rfl, hpeer', hon', hx⟩
    rw [hon] at hon'
    rw [hcovers] at hx
    rcases (hmodify d').1 hd' with rfl | ⟨hd', -⟩
    · exact .inr (hgains.2 ⟨hrowId, hpeer', hon', hx⟩)
    · exact .inl ⟨d', hd', rfl, hpeer', hon', hx⟩
  · intro i id x hx
    obtain ⟨rfl, hpeer', hon', hx⟩ := hgains.1 hx
    exact ⟨row, (hmodify row).2 (.inl rfl), hrowId, hpeer', (hon _ _).2 hon', (hcovers _ _).2 hx⟩
  · intro _ i a b x ha hb
    exact (hgains.1 ha).1.trans (hgains.1 hb).1.symm
  · rintro _ i a b x ha ⟨d', hd', rfl, hpeer', hon', hx⟩ hne
    have hne' : d'.id ≠ deviceId := (hgains.1 ha).1 ▸ hne
    exact ⟨d', (hmodify d').2 (.inr ⟨hd', hne'⟩), rfl, hpeer', (hon _ _).2 hon', (hcovers _ _).2 hx⟩

/-- A route that is approved gives its device what it covers. -/
theorem gains_approveRoute (h : db.Linked) {c : ApiCall} {token : String} {routeId : Uuid}
    {req : RouteApproveRequest} {route : AdvertisedRoute}
    (hreq : c.request = .approveRoute token routeId req)
    (hroute : db.routes.get? routeId = some route) (hnetworks : db'.networks = db.networks)
    (hdevices : db'.devices = db.devices)
    (hroutes : db'.routes = db.routes.modify routeId (req.apply c.env.now) fun _ => rfl) :
    db'.Linked ∧ Holdings.Gains (db.Holds settings) (fun i id x => c.Gains settings db i id x)
      (db'.Holds settings) := by
  obtain ⟨hmem, hid⟩ := Table.get?_eq_some_iff.1 hroute
  have hmodify : ∀ r, r ∈ db'.routes ↔ r = req.apply c.env.now route ∨
      r ∈ db.routes ∧ r.id ≠ routeId := by
    intro r
    rw [hroutes]
    have hpk : ∀ r₀, Row.pk (req.apply c.env.now r₀) = Row.pk r₀ := fun _ => rfl
    exact Table.mem_modify_of_get? hpk hroute
  have hon : ∀ i id, db'.OnInterface settings i id ↔ db.OnInterface settings i id :=
    Database.onInterface_congr hnetworks
  refine ⟨⟨?_, ?_⟩, ?_, ?_, ?_, ?_⟩
  · rw [hdevices, hnetworks]
    exact h.network
  · rw [hdevices]
    intro r hr
    rcases (hmodify r).1 hr with rfl | ⟨hr, -⟩
    · exact h.device route hmem
    · exact h.device r hr
  · rintro i id x ⟨d, hd, rfl, hpeer, hon', hx⟩
    rw [hdevices] at hd
    rw [hon] at hon'
    rcases hx with hx | ⟨r, hr, happroved, henabled, hdevice, hx⟩
    · exact .inl ⟨d, hd, rfl, hpeer, hon', .inl hx⟩
    · rcases (hmodify r).1 hr with rfl | ⟨hr, -⟩
      · exact .inr ((ApiCall.gains_approveRoute_iff hreq hroute).2
          ⟨d, hd, rfl, hpeer, hon', happroved, henabled, hdevice, hx⟩)
      · exact .inl ⟨d, hd, rfl, hpeer, hon', .inr ⟨r, hr, happroved, henabled, hdevice, hx⟩⟩
  · intro i id x hx
    obtain ⟨d, hd, rfl, hpeer, hon', happroved, henabled, hdevice, hx⟩ :=
      (ApiCall.gains_approveRoute_iff hreq hroute).1 hx
    exact ⟨d, hdevices ▸ hd, rfl, hpeer, (hon _ _).2 hon', .inr ⟨req.apply c.env.now route,
      (hmodify _).2 (.inl rfl), happroved, henabled, hdevice, hx⟩⟩
  · intro _ i a b x ha hb
    obtain ⟨d, -, rfl, -, -, -, -, hdevice, -⟩ := (ApiCall.gains_approveRoute_iff hreq hroute).1 ha
    obtain ⟨d', -, rfl, -, -, -, -, hdevice', -⟩ :=
      (ApiCall.gains_approveRoute_iff hreq hroute).1 hb
    exact hdevice.symm.trans hdevice'
  · rintro _ i a b x ha ⟨d', hd', rfl, hpeer', hon', hx⟩ hne
    obtain ⟨d, -, rfl, -, -, -, -, hdevice, -⟩ := (ApiCall.gains_approveRoute_iff hreq hroute).1 ha
    refine ⟨d', hdevices ▸ hd', rfl, hpeer', (hon _ _).2 hon', hx.imp_right ?_⟩
    rintro ⟨r, hr, happroved, henabled, hdevice', hx⟩
    refine ⟨r, (hmodify r).2 (.inr ⟨hr, fun hsame => hne ?_⟩), happroved, henabled, hdevice', hx⟩
    rw [← hdevice', ← hdevice, db.routes.eq_of_pk hr hmem (hsame.trans hid.symm)]

theorem holds_addRoute (h : db.Linked) {db₁ : Database} {env : Env} {e : Entropy}
    {deviceId networkId : Uuid} {req : RouteAdvertiseRequest} {route : AdvertisedRoute}
    (hadd : addRoute env e db deviceId networkId req = .ok (route, db₁))
    (hdevice : ∃ d ∈ db.devices, d.id = deviceId) (hnetworks : db'.networks = db₁.networks)
    (hdevices : db'.devices = db₁.devices) (hroutes : db'.routes = db₁.routes) :
    db'.Linked ∧ ∀ interface id x, db'.Holds settings interface id x →
      db.Holds settings interface id x := by
  obtain ⟨routes, hid, -, hinsert, rfl⟩ := addRoute_eq_ok hadd
  refine ⟨⟨?_, ?_⟩, ?_⟩
  · rw [hdevices, hnetworks]
    exact h.network
  · rw [hdevices, hroutes]
    intro r hr
    rcases (Table.mem_insert hinsert).1 hr with hr | rfl
    · exact h.device r hr
    · rwa [hid]
  · rintro i id x ⟨d, hd, rfl, hpeer, hon, hx⟩
    rw [hdevices] at hd
    rw [Database.OnInterface, hnetworks] at hon
    refine ⟨d, hd, rfl, hpeer, hon, hx.imp_right ?_⟩
    rintro ⟨r, hr, happroved, henabled, hid, hx⟩
    rcases addRoute_unapproved hadd (hroutes ▸ hr) with hr | hunapproved
    · exact ⟨r, hr, happroved, henabled, hid, hx⟩
    · cases hunapproved.symm.trans happroved

theorem holds_insertPending (h : db.Linked) {row : Device} (hkey : row.publicKey = none)
    (hrow : ∃ n, db.networks.get? row.networkId = some n)
    (hinsert : db.devices.insert row = some db'.devices)
    (hnetworks : db'.networks = db.networks) (hroutes : db'.routes = db.routes) :
    db'.Linked ∧ ∀ interface id x, db'.Holds settings interface id x →
      db.Holds settings interface id x := by
  obtain ⟨n, hn⟩ := hrow
  refine ⟨h.insert hinsert hnetworks hroutes (hn ▸ Option.some_ne_none n), fun i id x hx => ?_⟩
  refine ((Database.holds_insert h hinsert hnetworks hroutes).1 hx).resolve_right fun hnew => ?_
  have hpeer := hnew.2.1.2.1
  rw [hkey] at hpeer
  cases hpeer

theorem gains_createPeer (h : db.Linked) {c : ApiCall} {networkId : Uuid} {name ip : String}
    {network : Network} {row : Device} (hcreates : c.Creates db networkId name)
    (hnetwork : db.networks.get? networkId = some network)
    (hip : allocateIp db networkId network.subnet = .ok ip) (hid : row.id = c.entropy.rowId)
    (hrowNetwork : row.networkId = networkId) (hname : row.name = name)
    (haddress : row.ipAddress = some ip) (hactive : row.isActive = true)
    (hkey : row.publicKey.isSome) (hinsert : db.devices.insert row = some db'.devices)
    (hnetworks : db'.networks = db.networks) (hroutes : db'.routes = db.routes) :
    db'.Linked ∧ Holdings.Gains (db.Holds settings) (fun i id x => c.Gains settings db i id x)
      (db'.Holds settings) := by
  have hrow : db.networks.get? row.networkId ≠ none := by
    rw [hrowNetwork, hnetwork]
    exact Option.some_ne_none _
  refine ⟨h.insert hinsert hnetworks hroutes hrow,
    Database.gains_insert h hinsert hnetworks hroutes fun i id x => ?_⟩
  rw [ApiCall.gains_create_iff hcreates hnetwork hip, hid, hrowNetwork, haddress,
    Option.getD_some, ← hname]
  refine and_congr_right fun _ => ?_
  constructor
  · rintro ⟨hname, hinterface, hx⟩
    have haddress : row.ipAddress.isSome := by rw [haddress]; rfl
    exact ⟨⟨hactive, hkey, haddress, hname⟩, ⟨network, hnetwork, hinterface⟩, hx⟩
  · rintro ⟨hpeer, ⟨n, hn, hinterface⟩, hx⟩
    cases hnetwork.symm.trans hn
    exact ⟨hpeer.2.2.2, hinterface, hx⟩

/-- **What an accepted request of these runs does** to the peers: it gives what it gains. -/
theorem ApiCall.handle_gains (settings : Settings) {c : ApiCall}
    (hbuilds : c.request.BuildsNetworks) (h : db.Linked) (hok : c.handle db = .ok db') :
    db'.Linked ∧ Holdings.Gains (db.Holds settings) (fun i id x => c.Gains settings db i id x)
      (db'.Holds settings) := by
  have hnothing : c.request.GivesNothing →
      (db'.Linked ∧ ∀ i id x, db'.Holds settings i id x → db.Holds settings i id x) →
      db'.Linked ∧ Holdings.Gains (db.Holds settings) (fun i id x => c.Gains settings db i id x)
        (db'.Holds settings) :=
    fun hgives hsame => ⟨hsame.1, .of_none hsame.2 (not_gains hgives)⟩
  obtain ⟨env, e, request⟩ := c
  unfold ApiCall.handle at hok
  cases request with
  | device request =>
    unfold Call.handle at hok
    cases request with
    | createNetwork token req =>
      obtain ⟨network, hok⟩ := snd_map_eq_ok.1 hok
      obtain ⟨user, net, ip, networks, devices, -, -, -, rfl, hnetworks, hdevices, rfl⟩ :=
        createNetwork_eq_ok hok
      exact hnothing trivial (holds_createNetwork h rfl rfl hnetworks hdevices rfl)
    | updateNetwork token networkId req =>
      obtain ⟨network, hok⟩ := snd_map_eq_ok.1 hok
      obtain ⟨user, n, -, hn, rfl⟩ := updateNetwork_eq_ok hok
      exact gains_updateNetwork h rfl (requireNetworkOwner_eq_ok.1 hn).1 rfl rfl rfl
    | createPreauthKey token networkId req =>
      obtain ⟨key, hok⟩ := snd_map_eq_ok.1 hok
      obtain ⟨user, n, keys, -, -, rfl, -, rfl⟩ := createPreauthKey_eq_ok hok
      exact hnothing trivial ⟨h.of_same rfl rfl rfl, fun i id x hx => hx⟩
    | createDevice token networkId req =>
      obtain ⟨device, hok⟩ := snd_map_eq_ok.1 hok
      obtain ⟨user, network, ip, devices, -, hn, hip, rfl, hdevices, rfl⟩ :=
        createDevice_eq_ok hok
      exact gains_createPeer h (.owned rfl) (requireNetworkOwner_eq_ok.1 hn).1 hip rfl rfl rfl rfl
        rfl rfl hdevices rfl rfl
    | createNodeDevice token networkId req =>
      obtain ⟨device, hok⟩ := snd_map_eq_ok.1 hok
      obtain ⟨user, network, ip, devices, -, hn, hip, rfl, hdevices, rfl⟩ :=
        createNodeDevice_eq_ok hok
      exact hnothing trivial (holds_insertPending h rfl
        ⟨network, (requireNetworkOwner_eq_ok.1 hn).1⟩ hdevices rfl rfl)
    | enrollDevice token deviceId req =>
      obtain ⟨response, hok⟩ := snd_map_eq_ok.1 hok
      obtain ⟨user, d, -, hd, -, -, -, -, rfl⟩ := enrollDevice_eq_ok hok
      exact gains_enrollDevice h rfl hd rfl rfl rfl
    | enrollByKey req =>
      obtain ⟨response, hok⟩ := snd_map_eq_ok.1 hok
      obtain ⟨preauth, network, ip, devices, hkey, -, hn, hip, hdevices, -, -, rfl⟩ :=
        enrollByKey_eq_ok hok
      exact gains_createPeer h (.enrolled rfl hkey) hn hip rfl rfl rfl rfl rfl rfl hdevices rfl rfl
    | registerDevice req =>
      obtain ⟨device, hok⟩ := snd_map_eq_ok.1 hok
      obtain ⟨preauth, network, ip, devices, hkey, hn, hip, rfl, hdevices, rfl⟩ :=
        registerDevice_eq_ok hok
      exact gains_createPeer h (.registered rfl hkey) hn hip rfl rfl rfl rfl rfl rfl hdevices rfl
        rfl
    | updateDevice token deviceId req => cases hbuilds
    | revokeDevice token deviceId => cases hbuilds
    | heartbeat token deviceId req => cases hbuilds
  | advertiseRoute token networkId req =>
    obtain ⟨_, hok⟩ := snd_map_eq_ok.1 hok
    obtain ⟨user, _, d, _, -, -, hd, hadd, rfl⟩ := advertiseRoute_adds hok
    have hmem := (Table.mem_select.1 (List.mem_of_mem_head? hd)).1
    exact hnothing trivial (holds_addRoute h hadd ⟨d, hmem, rfl⟩ rfl rfl rfl)
  | deviceAdvertiseRoute token deviceId req =>
    obtain ⟨route, hok⟩ := snd_map_eq_ok.1 hok
    obtain ⟨_, d, -, hd, -, hadd⟩ := deviceAdvertiseRoute_adds hok
    exact hnothing trivial (holds_addRoute h hadd ⟨d, Table.get?_eq_some_iff.1 hd⟩ rfl rfl rfl)
  | approveRoute token routeId req =>
    obtain ⟨route, hok⟩ := snd_map_eq_ok.1 hok
    obtain ⟨user, old, -, hold, rfl⟩ := approveRoute_eq_ok hok
    exact gains_approveRoute h rfl (ownedRoute_eq_ok.1 hold).1 rfl rfl rfl
  | _ => cases hbuilds

/-- A request keeps the holdings exclusive exactly if it gives nobody what another one holds. -/
theorem serveApi_exclusive_iff {c : ApiCall} (hbuilds : c.request.BuildsNetworks) (h : db.Linked)
    (hexclusive : (db.Holds settings).Exclusive) :
    (serveApi db c).Linked ∧ ((serveApi db c).Holds settings).Exclusive ↔
      c.StaysApart settings db := by
  cases hok : c.handle db with
  | ok db' =>
    have hserve : serveApi db c = db' := by rw [serveApi, hok]
    obtain ⟨hlinked, hgains⟩ := ApiCall.handle_gains settings hbuilds h hok
    rw [hserve, hgains.exclusive_iff hexclusive]
    exact ⟨fun hapart _ => hapart.2, fun hapart => ⟨hlinked, hapart ⟨db', hok⟩⟩⟩
  | error e =>
    have hserve : serveApi db c = db := by rw [serveApi, hok]
    have hrejected : c.StaysApart settings db := by
      rintro ⟨db', hok'⟩
      cases hok.symm.trans hok'
    rw [hserve]
    exact iff_of_true ⟨h, hexclusive⟩ hrejected

end

/-- **No two peers of an interface ever cover one address** exactly if no request gives a peer an
address that another peer of its interface covers. -/
theorem shared_interface_iff (settings : Settings) (users : Table User) {calls : List ApiCall}
    (hcalls : ∀ c ∈ calls, c.request.BuildsNetworks) :
    (∀ pre, pre <+: calls → ∀ interface,
        (run serveApi { users := users } pre).PeersApart settings interface) ↔
      Admissible serveApi (fun db c => c.StaysApart settings db) { users := users } calls := by
  have hbuilds := (admissible_const_iff serveApi (s := { users := users })).2 hcalls
  have hstart : Database.Linked { users := users } :=
    ⟨fun d hd => absurd hd List.not_mem_nil, fun r hr => absurd hr List.not_mem_nil⟩
  have hnobody : (Database.Holds { users := users } settings).Exclusive := by
    rintro i a b x ⟨d, hd, -⟩
    exact absurd hd List.not_mem_nil
  have hlinked : ∀ pre, pre <+: calls → (run serveApi { users := users } pre).Linked := by
    refine fun pre hpre => run_invariant_of_admissible serveApi (fun db c hdb hc => ?_) hstart
      (hbuilds.of_prefix serveApi hpre)
    exact serveApi_cases hdb fun db' hok => (ApiCall.handle_gains settings hc hdb hok).1
  have hstep : ∀ (db : Database) (c : ApiCall), db.Linked ∧ (db.Holds settings).Exclusive →
      c.request.BuildsNetworks → ((serveApi db c).Linked ∧
        ((serveApi db c).Holds settings).Exclusive ↔ c.StaysApart settings db) :=
    fun db c hdb hc => serveApi_exclusive_iff hc hdb.1 hdb.2
  rw [← forall_prefix_iff_admissible serveApi hstep ⟨hstart, hnobody⟩ hbuilds]
  refine forall₂_congr fun pre hpre => ?_
  rw [pairwise_iff_exclusive]
  exact (and_iff_right (hlinked pre hpre)).symm

/-! ### Two networks with one subnet -/

/-- A request of the user that may add row `n`; every row has a key of its own. -/
def tenantCall (n : ℕ) (key : String) (request : ApiRequest) : ApiCall where
  env := officeEnv
  entropy := { officeEntropy n with keyPair := { privateKey := "private", publicKey := key } }
  request := request

/-- Two networks with one subnet, and a device in each. -/
def twinCalls : List ApiCall := [
  tenantCall 2 "office-hub" (.device (.createNetwork "jwt"
    { name := "office", subnet := "10.0.0.0/29" })),
  tenantCall 3 "laptop" (.device (.createDevice "jwt" (Uuid.ofNat 2) { name := "laptop" })),
  tenantCall 4 "lab-hub" (.device (.createNetwork "jwt"
    { name := "lab", subnet := "10.0.0.0/29" })),
  tenantCall 5 "scope" (.device (.createDevice "jwt" (Uuid.ofNat 4) { name := "scope" }))]

theorem twinCalls_buildsNetworks : ∀ c ∈ twinCalls, c.request.BuildsNetworks := by
  simp [twinCalls, tenantCall, ApiRequest.BuildsNetworks]

/-- The device of the first network shares its address with nobody. -/
theorem shared_interface_iff_office :
    ((run serveApi { users := officeUsers } (twinCalls.take 2)).getDesiredPeers {} "wg0").length =
        1 ∧
      ∀ pre, pre <+: twinCalls.take 2 → ∀ interface,
        (run serveApi { users := officeUsers } pre).PeersApart {} interface := by
  refine ⟨by decide +kernel, (shared_interface_iff {} officeUsers fun c hc =>
    twinCalls_buildsNetworks c (List.mem_of_mem_take hc)).2 ⟨?_, ?_, trivial⟩⟩
  · intro _ i a b x hgains
    refine absurd hgains (ApiCall.not_gains ?_ i a x)
    trivial
  · -- there is only the hub
    have hhub : ∀ d ∈ (run serveApi { users := officeUsers } (twinCalls.take 1)).devices.rows,
        d.name = serverName := by decide +kernel
    rintro - i a b x - ⟨d, hd, -, hpeer, -⟩
    exact absurd (hhub d hd) hpeer.2.2.2

/-- Both devices get the first free address of their networks. -/
theorem twins_share_address : (∀ c ∈ twinCalls, c.request.BuildsNetworks) ∧
    ¬ (run serveApi { users := officeUsers } twinCalls).PeersApart {} "wg0" := by
  refine ⟨twinCalls_buildsNetworks, fun hapart => ?_⟩
  have hpeers : (run serveApi { users := officeUsers } twinCalls).getDesiredPeers {} "wg0" =
      [{ publicKey := "laptop", allowedIps := ["10.0.0.2/32"] },
        { publicKey := "scope", allowedIps := ["10.0.0.2/32"] }] := by decide +kernel
  have hcovers : Covers "10.0.0.2/32" (IPv4Address.ofOctets 10 0 0 2) :=
    ⟨IPv4Network.ofAddress (IPv4Address.ofOctets 10 0 0 2) 32, by decide, by decide⟩
  rw [Database.PeersApart, hpeers, List.pairwise_pair] at hapart
  exact hapart (IPv4Address.ofOctets 10 0 0 2)
    ⟨⟨_, List.mem_cons_self, hcovers⟩, ⟨_, List.mem_cons_self, hcovers⟩⟩

end Midscale
