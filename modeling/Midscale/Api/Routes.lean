import Midscale.Api.Devices

/-!
# The routes endpoints

`app.services.route_validation` and `app.api.v1.routes`: routes are advertised by the owner of a
network for the first of its devices there, or by a device itself; they are approved, changed and
deleted by the owner of their network, and a user selects the exit node of a device of theirs.

* `checkSafePrefix` : which prefixes may be advertised.
* `advertiseRoute_eq_ok`, `deviceAdvertiseRoute_eq_ok` : a new route belongs to the network of its
  device.
* `deleteRoute_ne_ok` : no deletion succeeds, because counters cannot be decremented.
* `selectExitNode_eq_ok` : the only handler that looks at the device's user, not at the network.
-/

namespace Midscale

/-! ### Validation -/

namespace IPv4Network

/-- The last address of a network. -/
def broadcastAddress (net : IPv4Network) : ℕ := net.networkAddress.val + (net.numAddresses - 1)

/-- `_private_networks`. -/
def privateNetworks : List IPv4Network :=
  ["0.0.0.0/8", "10.0.0.0/8", "127.0.0.0/8", "169.254.0.0/16", "172.16.0.0/12", "192.0.0.0/24",
    "192.0.0.170/31", "192.0.2.0/24", "192.168.0.0/16", "198.18.0.0/15", "198.51.100.0/24",
    "203.0.113.0/24", "240.0.0.0/4", "255.255.255.255/32"].filterMap parse

/-- `_private_networks_exceptions`. -/
def privateExceptions : List IPv4Network := ["192.0.0.9/32", "192.0.0.10/32"].filterMap parse

/-- Both ends of a network are in another one. -/
def endsIn (net other : IPv4Network) : Bool :=
  other.networkAddress.val ≤ net.networkAddress.val ∧
    net.broadcastAddress ≤ other.broadcastAddress

/-- One end of a network is in another one. -/
def touches (net other : IPv4Network) : Bool :=
  other.networkAddress.val ≤ net.networkAddress.val ∧
      net.networkAddress.val ≤ other.broadcastAddress ∨
    other.networkAddress.val ≤ net.broadcastAddress ∧
      net.broadcastAddress ≤ other.broadcastAddress

/-- `net.is_private`. -/
def isPrivate (net : IPv4Network) : Bool :=
  privateNetworks.any net.endsIn ∧ ¬ privateExceptions.any net.touches

/-- `net.is_loopback`. -/
def isLoopback (net : IPv4Network) : Bool := (parse "127.0.0.0/8").any net.endsIn

example : privateNetworks.length = 14 ∧ privateExceptions.length = 2 := by decide +kernel

end IPv4Network

/-- `_FORBIDDEN_PREFIXES`. -/
def forbiddenPrefixes : List String :=
  ["127.0.0.0/8", "169.254.0.0/16", "224.0.0.0/4", "240.0.0.0/4", "0.0.0.0/8"]

/-- `check_safe_prefix`; the detail for a prefix that is no network ends with the text of the
`ValueError`, which is left out. -/
def checkSafePrefix (settings : Settings) (pfx : String) (isExitNode : Bool) :
    Except ApiError Unit :=
  if pfx ∈ forbiddenPrefixes then
    .error (.http 400 ("Route prefix " ++ pfx ++ " is reserved and cannot be advertised"))
  else if pfx = "0.0.0.0/0" ∨ pfx = "::/0" then
    ensure isExitNode (.http 400 (pfx ++ " can only be advertised as an exit node"))
  else do
    let net ← getOr (.http 400 "Invalid CIDR prefix: ") (IPv4Network.parse pfx)
    ensure (8 ≤ net.prefixlen.val) (.http 400
      ("Prefix length /" ++ toString net.prefixlen.val ++ " is too broad. Minimum is /8."))
    ensure (net.isPrivate ∨ net.isLoopback ∨ settings.debug)
      (.http 400 ("Public IP range " ++ pfx ++ " cannot be advertised as a subnet route"))

example : checkSafePrefix {} "192.168.7.0/24" false = .ok () := by decide

example : checkSafePrefix {} "8.8.8.0/24" true =
    .error (.http 400 "Public IP range 8.8.8.0/24 cannot be advertised as a subnet route") := by
  decide

/-! ### Bodies -/

/-- `RouteAdvertiseRequest`. -/
structure RouteAdvertiseRequest where
  pfx : String
  isExitNode : Bool := false

/-- `RouteApproveRequest`. -/
structure RouteApproveRequest where
  approved : Bool := true
  enabled : Bool := true

/-- `RouteUpdateRequest`. -/
structure RouteUpdateRequest where
  enabled : Option Bool := none

/-- `ExitNodeSelectRequest`. -/
structure ExitNodeSelectRequest where
  exitNodeId : Option Uuid := none

/-! ### Handlers -/

def routesTable : OwnedTable AdvertisedRoute where
  get := Database.routes
  put db t := { db with routes := t }
  networkId := AdvertisedRoute.networkId

/-- The row after `approve_route`. -/
def RouteApproveRequest.apply (req : RouteApproveRequest) (now : Timestamp)
    (route : AdvertisedRoute) : AdvertisedRoute :=
  { route with approved := req.approved, enabled := req.enabled, updatedAt := now }

/-- The row after `update_route`. -/
def RouteUpdateRequest.apply (req : RouteUpdateRequest) (now : Timestamp)
    (route : AdvertisedRoute) : AdvertisedRoute :=
  { route with enabled := req.enabled.getD route.enabled, updatedAt := now }

/-- The row after `select_exit_node`. -/
def ExitNodeSelectRequest.apply (req : ExitNodeSelectRequest) (now : Timestamp) (d : Device) :
    Device :=
  { d with exitNodeId := req.exitNodeId, updatedAt := now }

/-- The metrics of `prometheus_client` that can be told apart by what is done to them here. -/
inductive Metric where
  | counter
  | gauge
  deriving DecidableEq, Repr

/-- `dec()`, a method of gauges; a counter only goes up. -/
def Metric.dec : Metric → Except ApiError Unit
  | .counter => .error (.internal "AttributeError")
  | .gauge => .ok ()

/-- `ROUTES_TOTAL`. -/
def routesTotal : Metric := .counter

/-- `EXIT_NODES_TOTAL`. -/
def exitNodesTotal : Metric := .counter

/-- The decrements of `delete_route`. -/
def AdvertisedRoute.countDown (route : AdvertisedRoute) : Except ApiError Unit :=
  (if route.isExitNode then exitNodesTotal.dec else .ok ()) >>= fun _ => routesTotal.dec

section

variable (env : Env) (e : Entropy) (db : Database) (token : String)

/-- `list_routes`. -/
def listRoutes (networkId : Uuid) : Except ApiError (List AdvertisedRoute) :=
  listOwned routesTable env db token networkId fun r r' => r'.createdAt ≤ r.createdAt

/-- `list_device_routes`. -/
def listDeviceRoutes (deviceId : Uuid) : Except ApiError (List AdvertisedRoute) := do
  let user ← getCurrentUser env db token
  let device ← getOr (.http 404 "Device not found") (db.devices.get? deviceId)
  let _ ← requireNetworkOwner db device.networkId user
  .ok ((db.routes.select fun r => r.deviceId = deviceId).insertionSort
    fun r r' => r'.createdAt ≤ r.createdAt)

/-- The checks and the row that the two ways to advertise a route share. -/
def addRoute (deviceId networkId : Uuid) (req : RouteAdvertiseRequest) :
    Except ApiError (AdvertisedRoute × Database) := do
  checkSafePrefix env.settings req.pfx req.isExitNode
  -- `_overlaps_with_existing` asks for the same text
  ensure (∀ r ∈ db.routes, ¬ (r.networkId = networkId ∧ r.pfx = req.pfx))
    (.http 409 ("Route " ++ req.pfx ++ " already advertised by another device"))
  let route : AdvertisedRoute :=
    { id := e.rowId
      deviceId := deviceId
      networkId := networkId
      pfx := req.pfx
      isExitNode := req.isExitNode
      createdAt := env.now
      updatedAt := env.now }
  let routes ← db.routes.add route
  .ok (route, { db with routes := routes })

/-- `advertise_route`: the route is one of the user's first device in the network. -/
def advertiseRoute (networkId : Uuid) (req : RouteAdvertiseRequest) :
    Except ApiError (AdvertisedRoute × Database) := do
  let user ← getCurrentUser env db token
  let _ ← requireNetworkOwner db networkId user
  let devices := db.devices.select fun d => d.userId = some user.id ∧ d.networkId = networkId
  let device ← getOr (.http 400 "You have no devices in this network") devices.head?
  let (route, db) ← addRoute env e db device.id networkId req
  .ok (route, db.audit (user.did "route.advertise" "route" route.id))

/-- `device_advertise_route`. -/
def deviceAdvertiseRoute (deviceId : Uuid) (req : RouteAdvertiseRequest) :
    Except ApiError (AdvertisedRoute × Database) := do
  let _ ← getCurrentDeviceById env db deviceId token
  let device ← getOr (.http 404 "Device not found or inactive")
    ((db.devices.get? deviceId).filter (·.isActive))
  addRoute env e db deviceId device.networkId req

/-- The route that the owner of its network names. -/
def ownedRoute (routeId : Uuid) (user : User) : Except ApiError AdvertisedRoute := do
  let route ← getOr (.http 404 "Route not found") (db.routes.get? routeId)
  let _ ← requireNetworkOwner db route.networkId user
  .ok route

/-- `approve_route`. -/
def approveRoute (routeId : Uuid) (req : RouteApproveRequest) :
    Except ApiError (AdvertisedRoute × Database) := do
  let user ← getCurrentUser env db token
  let route ← ownedRoute db routeId user
  let db := { db with routes := db.routes.modify routeId (req.apply env.now) fun _ => rfl }
  .ok (req.apply env.now route, db.audit (user.did "route.approve" "route" routeId))

/-- `update_route`. -/
def updateRoute (routeId : Uuid) (req : RouteUpdateRequest) :
    Except ApiError (AdvertisedRoute × Database) := do
  let user ← getCurrentUser env db token
  let route ← ownedRoute db routeId user
  let db := { db with routes := db.routes.modify routeId (req.apply env.now) fun _ => rfl }
  .ok (req.apply env.now route, db.audit (user.did "route.update" "route" routeId))

/-- `delete_route`: the metrics are decremented before the row is deleted. -/
def deleteRoute (routeId : Uuid) : Except ApiError (Unit × Database) := do
  let user ← getCurrentUser env db token
  let route ← ownedRoute db routeId user
  let db := db.audit (user.did "route.delete" "route" routeId)
  route.countDown
  .ok ((), { db with routes := db.routes.delete fun r => r.id = routeId })

/-- The exit node of a request is that of one approved and enabled exit route of the network. -/
def checkExitNode (networkId : Uuid) : Option Uuid → Except ApiError Unit
  | none => .ok ()
  | some exitNodeId => do
    let found ← scalarOneOrNone (db.routes.select fun r => r.deviceId = exitNodeId ∧
      r.isExitNode ∧ r.approved ∧ r.enabled ∧ r.networkId = networkId)
    ensure found.isSome
      (.http 400 "Specified device is not an approved exit node in this network")

/-- `select_exit_node`: the response is the device's own default route, and a device without one
cannot select. -/
def selectExitNode (deviceId : Uuid) (req : ExitNodeSelectRequest) :
    Except ApiError (AdvertisedRoute × Database) := do
  let user ← getCurrentUser env db token
  let device ← getOr (.http 404 "Device not found")
    ((db.devices.get? deviceId).filter fun d => d.userId = some user.id)
  checkExitNode db device.networkId req.exitNodeId
  let db := db.assign env.now deviceId (req.apply env.now) fun _ => rfl
  let db := db.audit (user.did "device.exit_node_select" "device" deviceId)
  let found ← scalarOneOrNone
    (db.routes.select fun r => r.deviceId = deviceId ∧ r.pfx = "0.0.0.0/0")
  -- the response model has no value for `None`
  let route ← getOr (.internal "ResponseValidationError") found
  .ok (route, db)

end

/-! ### What they change -/

section

variable {env : Env} {e : Entropy} {db db' : Database} {token : String}

theorem addRoute_eq_ok {deviceId networkId : Uuid} {req : RouteAdvertiseRequest}
    {route : AdvertisedRoute} (h : addRoute env e db deviceId networkId req = .ok (route, db')) :
    ∃ routes, route.deviceId = deviceId ∧ route.networkId = networkId ∧
      db.routes.insert route = some routes ∧ db' = { db with routes := routes } := by
  simp only [addRoute, bind_eq_ok, Table.add_eq_ok] at h
  obtain ⟨_, -, _, -, routes, hroutes, h⟩ := h
  cases h
  exact ⟨routes, rfl, rfl, hroutes, rfl⟩

theorem advertiseRoute_adds {networkId : Uuid} {req : RouteAdvertiseRequest}
    {route : AdvertisedRoute} (h : advertiseRoute env e db token networkId req = .ok (route, db')) :
    ∃ user network d db₁,
      getCurrentUser env db token = .ok user ∧ requireNetworkOwner db networkId user = .ok network ∧
        (db.devices.select fun d => d.userId = some user.id ∧ d.networkId = networkId).head? =
          some d ∧
        addRoute env e db d.id networkId req = .ok (route, db₁) ∧
        db' = db₁.audit (user.did "route.advertise" "route" route.id) := by
  simp only [advertiseRoute, bind_eq_ok, getOr_eq_ok] at h
  obtain ⟨user, huser, network, hnet, d, hd, ⟨route', db₁⟩, hadd, h⟩ := h
  cases h
  exact ⟨user, network, d, db₁, huser, hnet, hd, hadd, rfl⟩

theorem deviceAdvertiseRoute_adds {deviceId : Uuid} {req : RouteAdvertiseRequest}
    {route : AdvertisedRoute}
    (h : deviceAdvertiseRoute env e db token deviceId req = .ok (route, db')) : ∃ current d,
      getCurrentDeviceById env db deviceId token = .ok current ∧
        db.devices.get? deviceId = some d ∧ d.isActive = true ∧
        addRoute env e db deviceId d.networkId req = .ok (route, db') := by
  simp only [deviceAdvertiseRoute, bind_eq_ok, getOr_eq_ok, Option.filter_eq_some_iff] at h
  obtain ⟨current, hcurrent, d, ⟨hd, hactive⟩, hadd⟩ := h
  exact ⟨current, d, hcurrent, hd, hactive, hadd⟩

/-- A route that the owner advertises is one of a device of the network. -/
theorem advertiseRoute_eq_ok {networkId : Uuid} {req : RouteAdvertiseRequest}
    {route : AdvertisedRoute} (h : advertiseRoute env e db token networkId req = .ok (route, db')) :
    ∃ user network d routes,
      getCurrentUser env db token = .ok user ∧ requireNetworkOwner db networkId user = .ok network ∧
        d ∈ db.devices ∧ d.networkId = networkId ∧ route.deviceId = d.id ∧
        route.networkId = networkId ∧ db.routes.insert route = some routes ∧
        db' = ({ db with routes := routes }.audit
          (user.did "route.advertise" "route" route.id)) := by
  obtain ⟨user, network, d, db₁, huser, hnet, hd, hadd, rfl⟩ := advertiseRoute_adds h
  obtain ⟨routes, hdevice, hid, hroutes, rfl⟩ := addRoute_eq_ok hadd
  obtain ⟨hmem, hcond⟩ := Table.mem_select.1 (List.mem_of_mem_head? hd)
  exact ⟨user, network, d, routes, huser, hnet, hmem, (of_decide_eq_true hcond).2, hdevice, hid,
    hroutes, rfl⟩

/-- A route that a device advertises is one of that device. -/
theorem deviceAdvertiseRoute_eq_ok {deviceId : Uuid} {req : RouteAdvertiseRequest}
    {route : AdvertisedRoute}
    (h : deviceAdvertiseRoute env e db token deviceId req = .ok (route, db')) : ∃ d routes,
      db.devices.get? deviceId = some d ∧ route.deviceId = d.id ∧ route.networkId = d.networkId ∧
        db.routes.insert route = some routes ∧ db' = { db with routes := routes } := by
  obtain ⟨-, d, -, hd, -, hadd⟩ := deviceAdvertiseRoute_adds h
  obtain ⟨routes, hdevice, hid, hroutes, rfl⟩ := addRoute_eq_ok hadd
  exact ⟨d, routes, hd, hdevice.trans (Table.get?_eq_some_iff.1 hd).2.symm, hid, hroutes, rfl⟩

theorem ownedRoute_eq_ok {routeId : Uuid} {user : User} {route : AdvertisedRoute} :
    ownedRoute db routeId user = .ok route ↔ db.routes.get? routeId = some route ∧
      ∃ network, requireNetworkOwner db route.networkId user = .ok network := by
  simp only [ownedRoute, bind_eq_ok, getOr_eq_ok, Except.ok.injEq]
  constructor
  · rintro ⟨r, hr, network, hnet, rfl⟩
    exact ⟨hr, network, hnet⟩
  · rintro ⟨hr, network, hnet⟩
    exact ⟨route, hr, network, hnet, rfl⟩

theorem approveRoute_eq_ok {routeId : Uuid} {req : RouteApproveRequest} {route : AdvertisedRoute}
    (h : approveRoute env db token routeId req = .ok (route, db')) : ∃ user old,
      getCurrentUser env db token = .ok user ∧ ownedRoute db routeId user = .ok old ∧
        db' = ({ db with routes := db.routes.modify routeId (req.apply env.now) fun _ => rfl }.audit
          (user.did "route.approve" "route" routeId)) := by
  simp only [approveRoute, bind_eq_ok] at h
  obtain ⟨user, huser, old, hold, h⟩ := h
  cases h
  exact ⟨user, old, huser, hold, rfl⟩

theorem updateRoute_eq_ok {routeId : Uuid} {req : RouteUpdateRequest} {route : AdvertisedRoute}
    (h : updateRoute env db token routeId req = .ok (route, db')) : ∃ user old,
      getCurrentUser env db token = .ok user ∧ ownedRoute db routeId user = .ok old ∧
        db' = ({ db with routes := db.routes.modify routeId (req.apply env.now) fun _ => rfl }.audit
          (user.did "route.update" "route" routeId)) := by
  simp only [updateRoute, bind_eq_ok] at h
  obtain ⟨user, huser, old, hold, h⟩ := h
  cases h
  exact ⟨user, old, huser, hold, rfl⟩

theorem AdvertisedRoute.countDown_eq (route : AdvertisedRoute) :
    route.countDown = .error (.internal "AttributeError") := by
  unfold countDown
  split_ifs <;> rfl

/-- **A deletion does not get past the metrics.** -/
theorem deleteRoute_ne_ok (routeId : Uuid) (result : Unit × Database) :
    deleteRoute env db token routeId ≠ .ok result := by
  intro h
  simp only [deleteRoute, bind_eq_ok, AdvertisedRoute.countDown_eq] at h
  obtain ⟨_, -, _, -, _, hdec, -⟩ := h
  cases hdec

/-- The device is one of the user, whoever owns its network. -/
theorem selectExitNode_eq_ok {deviceId : Uuid} {req : ExitNodeSelectRequest}
    {route : AdvertisedRoute}
    (h : selectExitNode env db token deviceId req = .ok (route, db')) : ∃ user d,
      getCurrentUser env db token = .ok user ∧ db.devices.get? deviceId = some d ∧
        d.userId = some user.id ∧
        db' = ((db.assign env.now deviceId (req.apply env.now) fun _ => rfl).audit
          (user.did "device.exit_node_select" "device" deviceId)) := by
  simp only [selectExitNode, bind_eq_ok, getOr_eq_ok, Option.filter_eq_some_iff,
    decide_eq_true_eq] at h
  obtain ⟨user, huser, d, ⟨hd, hmine⟩, -, -, _, -, _, -, h⟩ := h
  cases h
  exact ⟨user, d, huser, hd, hmine, rfl⟩

end

end Midscale
