import Mathlib.Data.List.Pairwise
import Midscale.Api.Endpoints
import Midscale.Api.RouteOverlaps
import Midscale.Data.Holdings
import Midscale.Wireguard.Controller

/-!
# The peers of an interface

The desired peers of an interface come from all networks that use it.  Here is what they cover, and
what the requests that build networks give them.

* `Database.Holds` : a peer of an interface covers an address.
* `pairwise_iff_exclusive` : no two peers of an interface cover one address.
* `ApiCall.Gains` : what a request gives to the peers of an interface, with an equivalence for each
  kind of request.
* `Database.holds_insert` : what the peers cover after a device was added.
-/

namespace Midscale

/-! ### What the peers of an interface cover -/

/-- The AllowedIPs of the peer cover the address. -/
def DesiredPeer.Covers (p : DesiredPeer) (x : IPv4Address) : Prop :=
  ∃ s ∈ p.allowedIps, Midscale.Covers s x

/-- The device is one of the peers of its interface. -/
def Device.IsPeer (d : Device) : Prop :=
  d.isActive = true ∧ d.publicKey.isSome ∧ d.ipAddress.isSome ∧ d.name ≠ serverName

namespace Database

variable (db : Database) (settings : Settings)

/-- The network uses the interface. -/
def OnInterface (interface : String) (networkId : Uuid) : Prop :=
  ∃ n, db.networks.get? networkId = some n ∧ settings.interfaceOf n = interface

/-- The address of the device, or an approved and enabled route of it, covers the address. -/
def RowCovers (d : Device) (x : IPv4Address) : Prop :=
  Covers (hostRoute (d.ipAddress.getD "")) x ∨
    ∃ r ∈ db.routes, r.approved = true ∧ r.enabled = true ∧ r.deviceId = d.id ∧ Covers r.pfx x

/-- The peer of a device on an interface covers an address. -/
def Holds : Holdings String Uuid IPv4Address := fun interface id x =>
  ∃ d ∈ db.devices, d.id = id ∧ d.IsPeer ∧ db.OnInterface settings interface d.networkId ∧
    db.RowCovers d x

/-- No two peers of an interface cover one address. -/
def PeersApart (interface : String) : Prop :=
  (db.getDesiredPeers settings interface).Pairwise fun p q => ∀ x, ¬ (p.Covers x ∧ q.Covers x)

end Database

section

variable {db db' : Database} {settings : Settings}

theorem Database.mem_interfaceDevices {interface : String} {d : Device} :
    d ∈ db.interfaceDevices settings interface ↔
      d ∈ db.devices ∧ d.IsPeer ∧ db.OnInterface settings interface d.networkId := by
  rw [interfaceDevices, Table.mem_select]
  refine and_congr_right fun _ => ?_
  rw [decide_eq_true_eq, Option.any_eq_true]
  simp only [decide_eq_true_eq, Device.IsPeer, OnInterface]
  tauto

theorem Database.covers_desiredPeer {d : Device} {x : IPv4Address} :
    (db.desiredPeer d).Covers x ↔ db.RowCovers d x := by
  have hroutes : ∀ s, s ∈ db.allRoutesByDevice.getD d.id.str [] ↔
      ∃ r ∈ db.routes, r.approved = true ∧ r.enabled = true ∧ r.deviceId = d.id ∧ r.pfx = s := by
    intro s
    rw [allRoutesByDevice, Dict.getD_groupBy, List.mem_map]
    simp only [List.mem_filter, Table.mem_select, decide_eq_true_eq, Uuid.str_inj]
    constructor
    · rintro ⟨r, ⟨⟨hr, happroved, henabled⟩, hid⟩, rfl⟩
      exact ⟨r, hr, happroved, henabled, hid, rfl⟩
    · rintro ⟨r, hr, happroved, henabled, hid, rfl⟩
      exact ⟨r, ⟨⟨hr, happroved, henabled⟩, hid⟩, rfl⟩
  rw [DesiredPeer.Covers, desiredPeer, RowCovers]
  simp only [List.mem_cons, exists_eq_or_imp, hroutes]
  refine or_congr_right ?_
  constructor
  · rintro ⟨s, ⟨r, hr, happroved, henabled, hid, rfl⟩, hx⟩
    exact ⟨r, hr, happroved, henabled, hid, hx⟩
  · rintro ⟨r, hr, happroved, henabled, hid, hx⟩
    exact ⟨r.pfx, ⟨r, hr, happroved, henabled, hid, rfl⟩, hx⟩

/-- **No two peers of an interface cover one address** exactly if the holdings are exclusive. -/
theorem pairwise_iff_exclusive :
    (∀ interface, db.PeersApart settings interface) ↔ (db.Holds settings).Exclusive := by
  have hpairwise : ∀ interface, db.PeersApart settings interface ↔
      (db.interfaceDevices settings interface).Pairwise fun d d' =>
        ∀ x, ¬ (db.RowCovers d x ∧ db.RowCovers d' x) := fun interface => by
    rw [Database.PeersApart, Database.getDesiredPeers, List.pairwise_map]
    simp only [Database.covers_desiredPeer]
  constructor
  · rintro h i a b x ⟨d, hd, rfl, hpeer, hon, hx⟩ ⟨d', hd', rfl, hpeer', hon', hx'⟩
    by_contra hne
    have hrows : d ≠ d' := fun heq => hne (heq ▸ rfl)
    have hsymm : Std.Symm fun d d' : Device => ∀ x, ¬ (db.RowCovers d x ∧ db.RowCovers d' x) :=
      ⟨fun _ _ hdd y hy => hdd y hy.symm⟩
    exact ((hpairwise i).1 (h i)).forall (Database.mem_interfaceDevices.2 ⟨hd, hpeer, hon⟩)
      (Database.mem_interfaceDevices.2 ⟨hd', hpeer', hon'⟩) hrows x ⟨hx, hx'⟩
  · intro h interface
    rw [hpairwise]
    have hnodup : (db.interfaceDevices settings interface).Nodup :=
      (List.Nodup.of_map _ db.devices.pk_nodup).filter _
    refine hnodup.pairwise_of_forall_ne fun d hd d' hd' hne x hx => hne ?_
    obtain ⟨hmem, hpeer, hon⟩ := Database.mem_interfaceDevices.1 hd
    obtain ⟨hmem', hpeer', hon'⟩ := Database.mem_interfaceDevices.1 hd'
    exact db.devices.eq_of_pk hmem hmem' (h interface d.id d'.id x
      ⟨d, hmem, rfl, hpeer, hon, hx.1⟩ ⟨d', hmem', rfl, hpeer', hon', hx.2⟩)

end

/-! ### What a request gives -/

/-- The requests that the runs consist of. -/
def ApiRequest.BuildsNetworks : ApiRequest → Prop
  | .device (.createNetwork ..) | .device (.updateNetwork ..) | .device (.createPreauthKey ..)
  | .device (.createDevice ..) | .device (.createNodeDevice ..) | .device (.enrollDevice ..)
  | .device (.enrollByKey ..) | .device (.registerDevice ..) | .advertiseRoute ..
  | .deviceAdvertiseRoute .. | .approveRoute .. => True
  | _ => False

namespace ApiCall

variable (settings : Settings) (c : ApiCall) (db : Database)

/-- The request creates a device with a key, in this network and with this name. -/
inductive Creates : Uuid → String → Prop
  | owned {token : String} {networkId : Uuid} {req : DeviceCreate}
      (hreq : c.request = .device (.createDevice token networkId req)) : Creates networkId req.name
  | enrolled {req : EnrollByKeyRequest} {preauth : PreAuthKey}
      (hreq : c.request = .device (.enrollByKey req))
      (hkey : validPreauthKey c.env db req.preauthKey = .ok preauth) :
      Creates preauth.networkId req.name
  | registered {req : DeviceRegisterRequest} {preauth : PreAuthKey}
      (hreq : c.request = .device (.registerDevice req))
      (hkey : validPreauthKey c.env db req.key = .ok preauth) : Creates preauth.networkId req.name

/-- What an accepted request gives to the peers of an interface. -/
inductive Gains (interface : String) : Uuid → IPv4Address → Prop
  /-- A network comes to the interface with its peers. -/
  | moved {token : String} {networkId : Uuid} {req : NetworkUpdate} {network : Network}
      {d : Device} {x : IPv4Address}
      (hreq : c.request = .device (.updateNetwork token networkId req))
      (hnetwork : db.networks.get? networkId = some network)
      (hinterface : settings.interfaceOf (req.apply network) = interface)
      (hd : d ∈ db.devices) (hid : d.networkId = networkId) (hpeer : d.IsPeer)
      (hx : db.RowCovers d x) : Gains interface d.id x
  /-- A device gets the first free address of its network. -/
  | created {networkId : Uuid} {name ip : String} {network : Network} {x : IPv4Address}
      (hcreates : c.Creates db networkId name) (hname : name ≠ serverName)
      (hnetwork : db.networks.get? networkId = some network)
      (hinterface : settings.interfaceOf network = interface)
      (hip : allocateIp db networkId network.subnet = .ok ip) (hx : Covers (hostRoute ip) x) :
      Gains interface c.entropy.rowId x
  /-- A pending device becomes a peer with its key. -/
  | enrolled {token : String} {deviceId : Uuid} {req : EnrollRequest} {d : Device}
      {x : IPv4Address} (hreq : c.request = .device (.enrollDevice token deviceId req))
      (hd : db.devices.get? deviceId = some d) (hpeer : (req.apply c.env c.entropy d).IsPeer)
      (hon : db.OnInterface settings interface d.networkId)
      (hx : db.RowCovers (req.apply c.env c.entropy d) x) : Gains interface deviceId x
  /-- A route of a peer is approved. -/
  | approved {token : String} {routeId : Uuid} {req : RouteApproveRequest}
      {route : AdvertisedRoute} {d : Device} {x : IPv4Address}
      (hreq : c.request = .approveRoute token routeId req) (happroved : req.approved = true)
      (henabled : req.enabled = true) (hroute : db.routes.get? routeId = some route)
      (hd : d ∈ db.devices) (hid : d.id = route.deviceId) (hpeer : d.IsPeer)
      (hon : db.OnInterface settings interface d.networkId) (hx : Covers route.pfx x) :
      Gains interface d.id x

/-- If the request is accepted, it gives no peer an address that another peer of the interface
covers. -/
def StaysApart : Prop :=
  (∃ db', c.handle db = .ok db') →
    (db.Holds settings).Apart fun interface id x => c.Gains settings db interface id x

end ApiCall

section

variable {db : Database} {settings : Settings} {c : ApiCall}

/-- The requests that create a device with a key. -/
def ApiRequest.CreatesPeer : ApiRequest → Prop
  | .device (.createDevice ..) | .device (.enrollByKey ..) | .device (.registerDevice ..) => True
  | _ => False

theorem ApiCall.Creates.createsPeer {networkId : Uuid} {name : String}
    (h : c.Creates db networkId name) : c.request.CreatesPeer := by
  cases h with
  | owned hreq => rw [hreq]; trivial
  | enrolled hreq => rw [hreq]; trivial
  | registered hreq => rw [hreq]; trivial

theorem ApiCall.Creates.unique {networkId networkId' : Uuid} {name name' : String}
    (h : c.Creates db networkId name) (h' : c.Creates db networkId' name') :
    networkId' = networkId ∧ name' = name := by
  cases h with
  | owned hreq =>
    cases h' with
    | owned hreq' => cases hreq.symm.trans hreq'; exact ⟨rfl, rfl⟩
    | enrolled hreq' => cases hreq.symm.trans hreq'
    | registered hreq' => cases hreq.symm.trans hreq'
  | enrolled hreq hkey =>
    cases h' with
    | owned hreq' => cases hreq.symm.trans hreq'
    | enrolled hreq' hkey' =>
      cases hreq.symm.trans hreq'
      cases hkey.symm.trans hkey'
      exact ⟨rfl, rfl⟩
    | registered hreq' => cases hreq.symm.trans hreq'
  | registered hreq hkey =>
    cases h' with
    | owned hreq' => cases hreq.symm.trans hreq'
    | enrolled hreq' => cases hreq.symm.trans hreq'
    | registered hreq' hkey' =>
      cases hreq.symm.trans hreq'
      cases hkey.symm.trans hkey'
      exact ⟨rfl, rfl⟩

/-- The requests of these runs that give nobody anything. -/
def ApiRequest.GivesNothing : ApiRequest → Prop
  | .device (.createNetwork ..) | .device (.createPreauthKey ..)
  | .device (.createNodeDevice ..) | .advertiseRoute .. | .deviceAdvertiseRoute .. => True
  | _ => False

theorem ApiCall.not_gains (h : c.request.GivesNothing) (interface : String)
    (id : Uuid) (x : IPv4Address) : ¬ c.Gains settings db interface id x := by
  intro hgains
  cases hgains with
  | moved hreq => rw [hreq] at h; exact h
  | created hcreates =>
    cases hcreates with
    | owned hreq => rw [hreq] at h; exact h
    | enrolled hreq => rw [hreq] at h; exact h
    | registered hreq => rw [hreq] at h; exact h
  | enrolled hreq => rw [hreq] at h; exact h
  | approved hreq => rw [hreq] at h; exact h

theorem ApiCall.gains_updateNetwork_iff {token : String} {networkId : Uuid} {req : NetworkUpdate}
    {network : Network} (hreq : c.request = .device (.updateNetwork token networkId req))
    (hnetwork : db.networks.get? networkId = some network) {i : String} {id : Uuid}
    {x : IPv4Address} : c.Gains settings db i id x ↔
      settings.interfaceOf (req.apply network) = i ∧
        ∃ d ∈ db.devices, d.id = id ∧ d.networkId = networkId ∧ d.IsPeer ∧ db.RowCovers d x := by
  constructor
  · intro hgains
    cases hgains with
    | moved hreq' hnetwork' hinterface hd hid hpeer hx =>
      cases hreq.symm.trans hreq'
      cases hnetwork.symm.trans hnetwork'
      exact ⟨hinterface, _, hd, rfl, hid, hpeer, hx⟩
    | created hcreates => exact absurd hcreates.createsPeer (by rw [hreq]; exact id)
    | enrolled hreq' => cases hreq.symm.trans hreq'
    | approved hreq' => cases hreq.symm.trans hreq'
  · rintro ⟨hinterface, d, hd, rfl, hid, hpeer, hx⟩
    exact .moved hreq hnetwork hinterface hd hid hpeer hx

theorem ApiCall.gains_create_iff {networkId : Uuid} {name ip : String} {network : Network}
    (hcreates : c.Creates db networkId name)
    (hnetwork : db.networks.get? networkId = some network)
    (hip : allocateIp db networkId network.subnet = .ok ip) {i : String} {id : Uuid}
    {x : IPv4Address} : c.Gains settings db i id x ↔
      id = c.entropy.rowId ∧ name ≠ serverName ∧ settings.interfaceOf network = i ∧
        Covers (hostRoute ip) x := by
  have hpeer := hcreates.createsPeer
  constructor
  · intro hgains
    cases hgains with
    | moved hreq => rw [hreq] at hpeer; cases hpeer
    | created hcreates' hname hnetwork' hinterface hip' hx =>
      obtain ⟨rfl, rfl⟩ := hcreates.unique hcreates'
      cases hnetwork.symm.trans hnetwork'
      cases hip.symm.trans hip'
      exact ⟨rfl, hname, hinterface, hx⟩
    | enrolled hreq => rw [hreq] at hpeer; cases hpeer
    | approved hreq => rw [hreq] at hpeer; cases hpeer
  · rintro ⟨rfl, hname, hinterface, hx⟩
    exact .created hcreates hname hnetwork hinterface hip hx

theorem ApiCall.gains_enrollDevice_iff {token : String} {deviceId : Uuid} {req : EnrollRequest}
    {d : Device} (hreq : c.request = .device (.enrollDevice token deviceId req))
    (hd : db.devices.get? deviceId = some d) {i : String} {id : Uuid} {x : IPv4Address} :
    c.Gains settings db i id x ↔ id = deviceId ∧ (req.apply c.env c.entropy d).IsPeer ∧
      db.OnInterface settings i d.networkId ∧ db.RowCovers (req.apply c.env c.entropy d) x := by
  constructor
  · intro hgains
    cases hgains with
    | moved hreq' => cases hreq.symm.trans hreq'
    | created hcreates => exact absurd hcreates.createsPeer (by rw [hreq]; exact id)
    | enrolled hreq' hd' hpeer hon hx =>
      cases hreq.symm.trans hreq'
      cases hd.symm.trans hd'
      exact ⟨rfl, hpeer, hon, hx⟩
    | approved hreq' => cases hreq.symm.trans hreq'
  · rintro ⟨rfl, hpeer, hon, hx⟩
    exact .enrolled hreq hd hpeer hon hx

theorem ApiCall.gains_approveRoute_iff {token : String} {routeId : Uuid}
    {req : RouteApproveRequest} {route : AdvertisedRoute}
    (hreq : c.request = .approveRoute token routeId req)
    (hroute : db.routes.get? routeId = some route) {i : String} {id : Uuid} {x : IPv4Address} :
    c.Gains settings db i id x ↔
      ∃ d ∈ db.devices, d.id = id ∧ d.IsPeer ∧ db.OnInterface settings i d.networkId ∧
        req.approved = true ∧ req.enabled = true ∧ route.deviceId = d.id ∧
          Covers route.pfx x := by
  constructor
  · intro hgains
    cases hgains with
    | moved hreq' => cases hreq.symm.trans hreq'
    | created hcreates => exact absurd hcreates.createsPeer (by rw [hreq]; exact id)
    | enrolled hreq' => cases hreq.symm.trans hreq'
    | approved hreq' happroved henabled hroute' hd hdevice hpeer hon hx =>
      cases hreq.symm.trans hreq'
      cases hroute.symm.trans hroute'
      exact ⟨_, hd, rfl, hpeer, hon, happroved, henabled, hdevice.symm, hx⟩
  · rintro ⟨d, hd, rfl, hpeer, hon, happroved, henabled, hdevice, hx⟩
    exact .approved hreq happroved henabled hroute hd hdevice.symm hpeer hon hx

end

/-! ### The foreign keys -/

/-- Devices have a network, and routes a device. -/
structure Database.Linked (db : Database) : Prop where
  network : ∀ d ∈ db.devices, db.networks.get? d.networkId ≠ none
  device : ∀ r ∈ db.routes, ∃ d ∈ db.devices, d.id = r.deviceId

section

variable {db db' : Database} {settings : Settings}

theorem Database.Linked.of_same (h : db.Linked) (hnetworks : db'.networks = db.networks)
    (hdevices : db'.devices = db.devices) (hroutes : db'.routes = db.routes) : db'.Linked := by
  constructor
  · rw [hnetworks, hdevices]
    exact h.network
  · rw [hdevices, hroutes]
    exact h.device

theorem Database.onInterface_congr (hnetworks : db'.networks = db.networks) (interface : String)
    (id : Uuid) : db'.OnInterface settings interface id ↔ db.OnInterface settings interface id := by
  rw [OnInterface, OnInterface, hnetworks]

theorem Database.rowCovers_congr (hroutes : db'.routes = db.routes) (d : Device)
    (x : IPv4Address) : db'.RowCovers d x ↔ db.RowCovers d x := by
  rw [RowCovers, RowCovers, hroutes]

theorem Database.onInterface_update {networkId : Uuid} {req : NetworkUpdate} {network : Network}
    (hnetwork : db.networks.get? networkId = some network)
    (hnetworks : db'.networks = db.networks.modify networkId req.apply req.pk_apply)
    {interface : String} : db'.OnInterface settings interface networkId ↔
      settings.interfaceOf (req.apply network) = interface := by
  have hid : Row.pk network = networkId := (Table.get?_eq_some_iff.1 hnetwork).2
  have hget : db'.networks.get? networkId = some (req.apply network) := by
    rw [hnetworks, Table.get?_modify, hnetwork, Option.map_some, if_pos hid]
  simp only [OnInterface, hget, Option.some.injEq, exists_eq_left']

theorem Database.onInterface_update_of_ne {networkId id : Uuid} {req : NetworkUpdate}
    (hnetworks : db'.networks = db.networks.modify networkId req.apply req.pk_apply)
    (hne : id ≠ networkId) {interface : String} :
    db'.OnInterface settings interface id ↔ db.OnInterface settings interface id := by
  have hsame : db'.networks.get? id = db.networks.get? id := by
    rw [hnetworks, Table.get?_modify]
    cases hn : db.networks.get? id with
    | none => rfl
    | some n =>
      have hid : Row.pk n = id := (Table.get?_eq_some_iff.1 hn).2
      rw [Option.map_some, if_neg (hid ▸ hne)]
  rw [OnInterface, OnInterface, hsame]

/-- A device is added to a network. -/
theorem Database.Linked.insert (h : db.Linked) {row : Device}
    (hinsert : db.devices.insert row = some db'.devices)
    (hnetworks : db'.networks = db.networks) (hroutes : db'.routes = db.routes)
    (hrow : db.networks.get? row.networkId ≠ none) : db'.Linked := by
  constructor
  · intro d hd
    rw [hnetworks]
    rcases (Table.mem_insert hinsert).1 hd with hd | rfl
    · exact h.network d hd
    · exact hrow
  · rw [hroutes]
    intro r hr
    obtain ⟨d, hd, hid⟩ := h.device r hr
    exact ⟨d, (Table.mem_insert hinsert).2 (.inl hd), hid⟩

/-- What the peers cover after a device was added. -/
theorem Database.holds_insert (h : db.Linked) {row : Device}
    (hinsert : db.devices.insert row = some db'.devices)
    (hnetworks : db'.networks = db.networks) (hroutes : db'.routes = db.routes)
    {interface : String} {id : Uuid} {x : IPv4Address} :
    db'.Holds settings interface id x ↔ db.Holds settings interface id x ∨
      id = row.id ∧ row.IsPeer ∧ db.OnInterface settings interface row.networkId ∧
        Covers (hostRoute (row.ipAddress.getD "")) x := by
  -- no route belongs to the new device
  have hrow : db.RowCovers row x ↔ Covers (hostRoute (row.ipAddress.getD "")) x := by
    refine or_iff_left ?_
    rintro ⟨r, hr, -, -, hid, -⟩
    obtain ⟨d, hd, hid'⟩ := h.device r hr
    exact (Table.insert_eq_some hinsert).2 d hd (hid'.trans hid)
  simp only [Holds, onInterface_congr hnetworks, rowCovers_congr hroutes, Table.mem_insert hinsert]
  constructor
  · rintro ⟨d, hd | rfl, rfl, hpeer, hon, hx⟩
    · exact .inl ⟨d, hd, rfl, hpeer, hon, hx⟩
    · exact .inr ⟨rfl, hpeer, hon, hrow.1 hx⟩
  · rintro (⟨d, hd, rfl, hpeer, hon, hx⟩ | ⟨rfl, hpeer, hon, hx⟩)
    · exact ⟨d, .inl hd, rfl, hpeer, hon, hx⟩
    · exact ⟨row, .inr rfl, rfl, hpeer, hon, hrow.2 hx⟩

theorem Database.gains_insert (h : db.Linked) {row : Device}
    (hinsert : db.devices.insert row = some db'.devices)
    (hnetworks : db'.networks = db.networks) (hroutes : db'.routes = db.routes)
    {G : Holdings String Uuid IPv4Address}
    (hG : ∀ interface id x, G interface id x ↔ id = row.id ∧ row.IsPeer ∧
      db.OnInterface settings interface row.networkId ∧
        Covers (hostRoute (row.ipAddress.getD "")) x) :
    Holdings.Gains (db.Holds settings) G (db'.Holds settings) where
  only := fun i a x hx => by
    rw [hG]
    exact (holds_insert h hinsert hnetworks hroutes).1 hx
  gained := fun i a x hx => (holds_insert h hinsert hnetworks hroutes).2 (.inr ((hG i a x).1 hx))
  exclusive := fun _ i a b x ha hb => ((hG i a x).1 ha).1.trans ((hG i b x).1 hb).1.symm
  kept := fun _ i a b x _ hb _ => (holds_insert h hinsert hnetworks hroutes).2 (.inl hb)

end

end Midscale
