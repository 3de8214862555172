import Midscale.Api.Requests
import Midscale.Api.Routes
import Midscale.Api.Rules

/-!
# The requests of the tenants

All requests of the networks, devices, ACL, DNS and routes endpoints, of users, of devices and of
those who enroll with a key; what devices report about endpoints, which touches its own table only,
is with the requests of `serveDevice`.  As in `serve`, every request runs in its own transaction.

* `ApiRequest.token?` : the access token of a request that a user makes.
* `serveApi` : one request.
* `respond` : the answer to a request that reads.
-/

namespace Midscale

/-! ### Requests that write -/

/-- The requests that write. -/
inductive ApiRequest where
  | device (request : Request)
  | deleteNetwork (token : String) (networkId : Uuid)
  | deletePreauthKey (token : String) (networkId keyId : Uuid)
  | createAcl (token : String) (networkId : Uuid) (req : ACLRuleCreate)
  | updateAcl (token : String) (networkId ruleId : Uuid) (req : ACLRuleUpdate)
  | deleteAcl (token : String) (networkId ruleId : Uuid)
  | createDns (token : String) (networkId : Uuid) (req : DNSEntryCreate)
  | deleteDns (token : String) (networkId entryId : Uuid)
  | advertiseRoute (token : String) (networkId : Uuid) (req : RouteAdvertiseRequest)
  | approveRoute (token : String) (routeId : Uuid) (req : RouteApproveRequest)
  | updateRoute (token : String) (routeId : Uuid) (req : RouteUpdateRequest)
  | deleteRoute (token : String) (routeId : Uuid)
  | selectExitNode (token : String) (deviceId : Uuid) (req : ExitNodeSelectRequest)
  | deviceAdvertiseRoute (token : String) (deviceId : Uuid) (req : RouteAdvertiseRequest)
  | rotateDeviceToken (token : String) (deviceId : Uuid)

/-- The access token of a request that a user makes; the other requests carry a device token or a
pre-auth key. -/
def Request.token? : Request → Option String
  | .createNetwork token .. | .updateNetwork token .. | .createPreauthKey token ..
  | .createDevice token .. | .createNodeDevice token .. | .updateDevice token ..
  | .enrollDevice token .. | .revokeDevice token .. => some token
  | .enrollByKey .. | .registerDevice .. | .heartbeat .. => none

/-- The access token of a request that a user makes. -/
def ApiRequest.token? : ApiRequest → Option String
  | .device request => request.token?
  | .deleteNetwork token .. | .deletePreauthKey token .. | .createAcl token ..
  | .updateAcl token .. | .deleteAcl token .. | .createDns token .. | .deleteDns token ..
  | .advertiseRoute token .. | .approveRoute token .. | .updateRoute token ..
  | .deleteRoute token .. | .selectExitNode token .. => some token
  | .deviceAdvertiseRoute .. | .rotateDeviceToken .. => none

/-- A request with the environment it is executed in and what it draws at random. -/
structure ApiCall where
  env : Env
  entropy : Entropy
  request : ApiRequest

/-- The database after the request, if it succeeds. -/
def ApiCall.handle (c : ApiCall) (db : Database) : Except ApiError Database :=
  match c.request with
  | .device request => { env := c.env, entropy := c.entropy, request : Call }.handle db
  | .deleteNetwork token id => Prod.snd <$> deleteNetwork c.env db token id
  | .deletePreauthKey token id keyId => Prod.snd <$> deletePreauthKey c.env db token id keyId
  | .createAcl token id req => Prod.snd <$> createAcl c.env c.entropy db token id req
  | .updateAcl token id ruleId req => Prod.snd <$> updateAcl c.env db token id ruleId req
  | .deleteAcl token id ruleId => Prod.snd <$> deleteAcl c.env db token id ruleId
  | .createDns token id req => Prod.snd <$> createDns c.env c.entropy db token id req
  | .deleteDns token id entryId => Prod.snd <$> deleteDns c.env db token id entryId
  | .advertiseRoute token id req => Prod.snd <$> advertiseRoute c.env c.entropy db token id req
  | .approveRoute token id req => Prod.snd <$> approveRoute c.env db token id req
  | .updateRoute token id req => Prod.snd <$> updateRoute c.env db token id req
  | .deleteRoute token id => Prod.snd <$> deleteRoute c.env db token id
  | .selectExitNode token id req => Prod.snd <$> selectExitNode c.env db token id req
  | .deviceAdvertiseRoute token id req =>
    Prod.snd <$> deviceAdvertiseRoute c.env c.entropy db token id req
  | .rotateDeviceToken token id => Prod.snd <$> rotateDeviceToken c.env c.entropy db token id

/-- A request in its transaction, which is rolled back when the request fails. -/
def serveApi (db : Database) (c : ApiCall) : Database :=
  match c.handle db with
  | .ok db' => db'
  | .error _ => db

/-- The user who makes a request: the one its access token stands for. -/
def ApiCall.MadeBy (c : ApiCall) (db : Database) (u : User) : Prop :=
  ∃ token, c.request.token? = some token ∧ getCurrentUser c.env db token = .ok u

/-- What every request that succeeds keeps, every request keeps. -/
theorem serveApi_cases {P : Database → Prop} {db : Database} {c : ApiCall} (hsame : P db)
    (hok : ∀ db', c.handle db = .ok db' → P db') : P (serveApi db c) := by
  unfold serveApi
  split
  · rename_i db' h
    exact hok db' h
  · exact hsame

/-! ### Requests that read -/

/-- The requests of users that read. -/
inductive GetRequest where
  | listNetworks
  | getNetwork (networkId : Uuid)
  | listDevices (networkId : Uuid)
  | listPreauthKeys (networkId : Uuid)
  | listAllDevices
  | getDevice (deviceId : Uuid)
  | getDeviceConfig (deviceId : Uuid)
  | listAcls (networkId : Uuid)
  | listDns (networkId : Uuid)
  | listRoutes (networkId : Uuid)
  | listDeviceRoutes (deviceId : Uuid)

/-- What a request that reads shows: rows, or the text of a configuration and its file name. -/
inductive GetResponse where
  | networks (rows : List Network)
  | devices (rows : List Device)
  | preauthKeys (rows : List PreAuthKey)
  | aclRules (rows : List ACLRule)
  | dnsEntries (rows : List DNSEntry)
  | routes (rows : List AdvertisedRoute)
  | config (text filename : String)
  deriving DecidableEq

/-- The answer to a request that reads. -/
def respond (env : Env) (db : Database) (token : String) :
    GetRequest → Except ApiError GetResponse
  | .listNetworks => .networks <$> listNetworks env db token
  | .getNetwork id => (fun n => .networks [n]) <$> getNetwork env db token id
  | .listDevices id => .devices <$> listDevices env db token id
  | .listPreauthKeys id => .preauthKeys <$> listPreauthKeys env db token id
  | .listAllDevices => .devices <$> listAllDevices env db token
  | .getDevice id => (fun d => .devices [d]) <$> getDevice env db token id
  | .getDeviceConfig id =>
    (fun r => .config r.1 r.2) <$> getDeviceConfigEndpoint env db token id
  | .listAcls id => .aclRules <$> listAcls env db token id
  | .listDns id => .dnsEntries <$> listDns env db token id
  | .listRoutes id => .routes <$> listRoutes env db token id
  | .listDeviceRoutes id => .routes <$> listDeviceRoutes env db token id

end Midscale
