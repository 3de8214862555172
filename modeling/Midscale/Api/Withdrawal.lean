import Mathlib.Logic.Relation
import Midscale.Api.RouteOverlaps
import Midscale.Api.Sessions
import Midscale.Api.DeviceIsolation
import Midscale.Config.Legacy
import Midscale.Wireguard.Controller

/-!
# Withdrawn routes

The owner of a network withdraws a route by deleting it, un-approving it or disabling it.  A route
that is not approved and enabled contributes to nothing that is generated, and nobody but
`approve_route` and `update_route` approves or enables one.

* `ApiCall.handle_routes`, `DeviceCall.handle_routes` : where the routes after a request come from.
* `Database.RouteOff` : the route is not approved and enabled; kept by what does not restore it.
* `Database.RouteOff.contributesNothing` : then everything is as if it was not there.
* `withdrawal_works_iff` : **every withdrawal but a deletion succeeds and takes effect.**
-/

namespace Midscale

/-! ### Requests about a route -/

/-- The request deletes the route, un-approves it or disables it. -/
def ApiRequest.Withdraws (routeId : Uuid) : ApiRequest → Prop
  | .deleteRoute _ id => id = routeId
  | .approveRoute _ id req => id = routeId ∧ ¬ (req.approved = true ∧ req.enabled = true)
  | .updateRoute _ id req => id = routeId ∧ req.enabled = some false
  | _ => False

/-- The request approves or enables the route. -/
def ApiRequest.Restores (routeId : Uuid) : ApiRequest → Prop
  | .approveRoute _ id req => id = routeId ∧ req.approved = true ∧ req.enabled = true
  | .updateRoute _ id req => id = routeId ∧ req.enabled = some true
  | _ => False

/-- The request deletes a route. -/
def ApiRequest.IsDeletion : ApiRequest → Prop
  | .deleteRoute .. => True
  | _ => False

/-! ### Where routes come from -/

/-- Where a row of the routes after a request comes from. -/
inductive RouteOrigin (request : ApiRequest) (db : Database) (r : AdvertisedRoute) : Prop
  | kept (hr : r ∈ db.routes)
  | advertised (happroved : r.approved = false)
  | approved {token : String} {req : RouteApproveRequest}
      (hrequest : request = .approveRoute token r.id req) (happroved : r.approved = req.approved)
      (henabled : r.enabled = req.enabled)
  | updated {token : String} {req : RouteUpdateRequest} {old : AdvertisedRoute}
      (hrequest : request = .updateRoute token r.id req) (hold : old ∈ db.routes)
      (hid : old.id = r.id) (happroved : r.approved = old.approved)
      (henabled : r.enabled = req.enabled.getD old.enabled)

section

variable {db db' : Database}

theorem addRoute_unapproved {env : Env} {e : Entropy} {deviceId networkId : Uuid}
    {req : RouteAdvertiseRequest} {route : AdvertisedRoute}
    (h : addRoute env e db deviceId networkId req = .ok (route, db')) {r : AdvertisedRoute}
    (hr : r ∈ db'.routes) : r ∈ db.routes ∨ r.approved = false := by
  simp only [addRoute, bind_eq_ok, Table.add_eq_ok] at h
  obtain ⟨_, -, _, -, routes, hinsert, h⟩ := h
  cases h
  rcases (Table.mem_insert hinsert).1 hr with hr | rfl
  · exact .inl hr
  · exact .inr rfl

/-- The requests about devices leave the routes alone. -/
theorem Call.handle_routes {c : Call} (h : c.handle db = .ok db') : db'.routes = db.routes := by
  obtain ⟨env, e, request⟩ := c
  unfold Call.handle at h
  cases request with
  | createNetwork token req =>
    obtain ⟨_, h⟩ := snd_map_eq_ok.1 h
    obtain ⟨_, _, _, _, _, -, -, -, -, -, -, rfl⟩ := createNetwork_eq_ok h
    rfl
  | updateNetwork token networkId req =>
    obtain ⟨_, h⟩ := snd_map_eq_ok.1 h
    obtain ⟨_, _, -, -, rfl⟩ := updateNetwork_eq_ok h
    rfl
  | createPreauthKey token networkId req =>
    obtain ⟨_, h⟩ := snd_map_eq_ok.1 h
    obtain ⟨_, _, _, -, -, -, -, rfl⟩ := createPreauthKey_eq_ok h
    rfl
  | createDevice token networkId req =>
    obtain ⟨_, h⟩ := snd_map_eq_ok.1 h
    obtain ⟨_, _, _, _, -, -, -, -, -, rfl⟩ := createDevice_eq_ok h
    rfl
  | createNodeDevice token networkId req =>
    obtain ⟨_, h⟩ := snd_map_eq_ok.1 h
    obtain ⟨_, _, _, _, -, -, -, -, -, rfl⟩ := createNodeDevice_eq_ok h
    rfl
  | enrollByKey req =>
    obtain ⟨_, h⟩ := snd_map_eq_ok.1 h
    obtain ⟨_, _, _, _, -, -, -, -, -, -, -, rfl⟩ := enrollByKey_eq_ok h
    rfl
  | registerDevice req =>
    obtain ⟨_, h⟩ := snd_map_eq_ok.1 h
    obtain ⟨_, _, _, _, -, -, -, -, -, rfl⟩ := registerDevice_eq_ok h
    rfl
  | updateDevice token deviceId req =>
    obtain ⟨_, h⟩ := snd_map_eq_ok.1 h
    obtain ⟨_, _, -, -, -, rfl⟩ := updateDevice_eq_ok h
    rfl
  | enrollDevice token deviceId req =>
    obtain ⟨_, h⟩ := snd_map_eq_ok.1 h
    obtain ⟨_, _, -, -, -, -, -, -, rfl⟩ := enrollDevice_eq_ok h
    rfl
  | revokeDevice token deviceId =>
    obtain ⟨_, h⟩ := snd_map_eq_ok.1 h
    obtain ⟨_, _, -, -, -, rfl⟩ := revokeDevice_eq_ok h
    rfl
  | heartbeat token deviceId req =>
    obtain ⟨_, h⟩ := snd_map_eq_ok.1 h
    obtain ⟨_, -, rfl⟩ := deviceHeartbeat_eq_ok h
    rfl

/-- **Where the routes after a request come from.** -/
theorem ApiCall.handle_routes {c : ApiCall} (h : c.handle db = .ok db') {r : AdvertisedRoute}
    (hr : r ∈ db'.routes) : RouteOrigin c.request db r := by
  obtain ⟨env, e, request⟩ := c
  unfold ApiCall.handle at h
  cases request with
  | device request => exact .kept (Call.handle_routes h ▸ hr)
  | deleteNetwork token networkId =>
    obtain ⟨_, h⟩ := snd_map_eq_ok.1 h
    obtain ⟨_, _, -, -, -, rfl⟩ := deleteNetwork_eq_ok h
    exact .kept hr
  | deletePreauthKey token networkId keyId =>
    obtain ⟨_, h⟩ := snd_map_eq_ok.1 h
    obtain ⟨_, _, _, -, -, -, -, rfl⟩ := deleteOwned_eq_ok h
    exact .kept hr
  | createAcl token networkId req =>
    obtain ⟨_, h⟩ := snd_map_eq_ok.1 h
    obtain ⟨_, _, _, -, -, -, rfl⟩ := createOwned_eq_ok h
    exact .kept hr
  | updateAcl token networkId ruleId req =>
    obtain ⟨_, h⟩ := snd_map_eq_ok.1 h
    obtain ⟨_, _, _, -, -, -, -, rfl⟩ := updateAcl_eq_ok h
    exact .kept hr
  | deleteAcl token networkId ruleId =>
    obtain ⟨_, h⟩ := snd_map_eq_ok.1 h
    obtain ⟨_, _, _, -, -, -, -, rfl⟩ := deleteOwned_eq_ok h
    exact .kept hr
  | createDns token networkId req =>
    obtain ⟨_, h⟩ := snd_map_eq_ok.1 h
    obtain ⟨_, _, _, -, -, -, rfl⟩ := createOwned_eq_ok h
    exact .kept hr
  | deleteDns token networkId entryId =>
    obtain ⟨_, h⟩ := snd_map_eq_ok.1 h
    obtain ⟨_, _, _, -, -, -, -, rfl⟩ := deleteOwned_eq_ok h
    exact .kept hr
  | advertiseRoute token networkId req =>
    obtain ⟨_, h⟩ := snd_map_eq_ok.1 h
    obtain ⟨_, _, _, _, -, -, -, hadd, rfl⟩ := advertiseRoute_adds h
    exact (addRoute_unapproved hadd hr).elim .kept .advertised
  | deviceAdvertiseRoute token deviceId req =>
    obtain ⟨_, h⟩ := snd_map_eq_ok.1 h
    obtain ⟨_, _, -, -, -, hadd⟩ := deviceAdvertiseRoute_adds h
    exact (addRoute_unapproved hadd hr).elim .kept .advertised
  | approveRoute token routeId req =>
    obtain ⟨_, h⟩ := snd_map_eq_ok.1 h
    obtain ⟨_, _, -, -, rfl⟩ := approveRoute_eq_ok h
    have hr : r ∈ db.routes.modify routeId (req.apply env.now) fun _ => rfl := hr
    obtain ⟨old, hold, rfl⟩ := Table.mem_modify.1 hr
    split_ifs with hid
    · exact .approved (congrArg (ApiRequest.approveRoute token · req) hid.symm) rfl rfl
    · exact .kept hold
  | updateRoute token routeId req =>
    obtain ⟨_, h⟩ := snd_map_eq_ok.1 h
    obtain ⟨_, _, -, -, rfl⟩ := updateRoute_eq_ok h
    have hr : r ∈ db.routes.modify routeId (req.apply env.now) fun _ => rfl := hr
    obtain ⟨old, hold, rfl⟩ := Table.mem_modify.1 hr
    split_ifs with hid
    · exact .updated (congrArg (ApiRequest.updateRoute token · req) hid.symm) hold rfl rfl rfl
    · exact .kept hold
  | deleteRoute token routeId =>
    obtain ⟨_, h⟩ := snd_map_eq_ok.1 h
    exact absurd h (deleteRoute_ne_ok routeId _)
  | selectExitNode token deviceId req =>
    obtain ⟨_, h⟩ := snd_map_eq_ok.1 h
    obtain ⟨_, _, -, -, -, rfl⟩ := selectExitNode_eq_ok h
    exact .kept hr
  | rotateDeviceToken token deviceId =>
    obtain ⟨_, h⟩ := snd_map_eq_ok.1 h
    obtain ⟨_, -, -, -, rfl⟩ := rotateDeviceToken_eq_ok h
    exact .kept hr

/-- The requests of devices leave the routes alone, but for new ones. -/
theorem DeviceCall.handle_routes {c : DeviceCall} (h : c.handle db = .ok db')
    {r : AdvertisedRoute} (hr : r ∈ db'.routes) : r ∈ db.routes ∨ r.approved = false := by
  have hsession : ∀ {s : NATSession} {f : NATSession → NATSession} {db₁ : Database},
      SessionReport db db₁ s f → db₁.routes = db.routes := fun hreport => by rw [hreport.others]
  cases hreq : c.request with
  | heartbeat id req =>
    simp only [handle, hreq] at h
    obtain ⟨_, hok⟩ := snd_map_eq_ok.1 h
    obtain ⟨_, -, rfl⟩ := deviceHeartbeat_eq_ok hok
    exact .inl hr
  | reportEndpoint id req =>
    simp only [handle, hreq] at h
    obtain ⟨_, hok⟩ := snd_map_eq_ok.1 h
    obtain ⟨_, _, -, -, -, rfl⟩ := deviceReportEndpoint_eq_ok hok
    exact .inl hr
  | probeResult id req =>
    simp only [handle, hreq] at h
    obtain ⟨_, hok⟩ := snd_map_eq_ok.1 h
    obtain ⟨_, -, hok⟩ := deviceProbeResult_eq_ok hok
    obtain ⟨_, -, ⟨_, -, rfl⟩ | ⟨_, -, -, -, rfl⟩⟩ := processProbeResult_eq_ok hok
    · exact .inl hr
    · exact .inl hr
  | advertiseRoute id req =>
    simp only [handle, hreq] at h
    obtain ⟨_, hok⟩ := snd_map_eq_ok.1 h
    obtain ⟨_, _, -, -, -, hadd⟩ := deviceAdvertiseRoute_adds hok
    exact addRoute_unapproved hadd hr
  | rotateToken id =>
    simp only [handle, hreq] at h
    obtain ⟨_, hok⟩ := snd_map_eq_ok.1 h
    obtain ⟨_, -, -, -, rfl⟩ := rotateDeviceToken_eq_ok hok
    exact .inl hr
  | requestPunch req =>
    simp only [handle, hreq] at h
    obtain ⟨_, hok⟩ := snd_map_eq_ok.1 h
    obtain ⟨_, _, _, _, -, -, -, -, -, -, -, rfl⟩ := requestPunch_eq_ok hok
    exact .inl hr
  | punchResult sessionId req =>
    simp only [handle, hreq] at h
    obtain ⟨_, hok⟩ := snd_map_eq_ok.1 h
    obtain ⟨_, _, _, -, hrecord⟩ := reportPunchResult_eq_ok hok
    rcases recordPunchResult_eq_ok hrecord with ⟨-, -, rfl⟩ | ⟨s, -, hreport⟩
    · exact .inl hr
    · split_ifs at hreport with hsuccess
      · exact .inl (hsession hreport.2.1 ▸ hr)
      · exact .inl (hsession hreport.2.1 ▸ hr)
  | validate sessionId req =>
    simp only [handle, hreq] at h
    obtain ⟨_, hok⟩ := snd_map_eq_ok.1 h
    obtain ⟨_, -, hvalidate⟩ := reportConnectivityValidation_eq_ok hok
    rcases validateConnectivity_eq_ok hvalidate with ⟨-, rfl⟩ | ⟨s, -, hreport⟩
    · exact .inl hr
    · split_ifs at hreport with hreachable
      · exact .inl (hsession hreport.1 ▸ hr)
      · exact .inl (hsession hreport.1 ▸ hr)
  | requestRelay req =>
    simp only [handle, hreq] at h
    obtain ⟨_, hok⟩ := snd_map_eq_ok.1 h
    obtain ⟨_, -, rfl⟩ := requestRelaySession_eq_ok hok
    exact .inl hr
  | connectRelay sessionId =>
    simp only [handle, hreq] at h
    obtain ⟨_, hok⟩ := snd_map_eq_ok.1 h
    obtain ⟨_, _, -, -, rfl⟩ := connectRelaySession_eq_ok hok
    exact .inl hr
  | relayHeartbeat sessionId =>
    simp only [handle, hreq] at h
    obtain ⟨-, -, rfl⟩ := map_eq_ok.1 h
    exact .inl hr
  | relayStats sessionId req =>
    simp only [handle, hreq] at h
    obtain ⟨_, hok⟩ := snd_map_eq_ok.1 h
    obtain ⟨_, _, -, -, rfl⟩ := updateRelayStatsEndpoint_eq_ok hok
    exact .inl hr

end

/-! ### Routes that are off -/

/-- The route is not approved and enabled, if it is there at all. -/
def Database.RouteOff (db : Database) (routeId : Uuid) : Prop :=
  ∀ r ∈ db.routes, r.id = routeId → ¬ (r.approved = true ∧ r.enabled = true)

/-- What can happen after a withdrawal: requests that do not restore the route, and whatever leaves
the routes alone (the controller, the clean-ups). -/
inductive Afterwards (routeId : Uuid) : Database → Database → Prop
  | api (db : Database) {c : ApiCall} (h : ¬ c.request.Restores routeId) :
      Afterwards routeId db (serveApi db c)
  | device (db : Database) (c : DeviceCall) : Afterwards routeId db (serveDevice db c)
  | elsewhere {db db' : Database} (h : db'.routes = db.routes) : Afterwards routeId db db'

section

variable {db db' : Database} {routeId : Uuid}

theorem Database.RouteOff.of_new (hoff : db.RouteOff routeId)
    (h : ∀ r ∈ db'.routes, r ∈ db.routes ∨ r.approved = false) : db'.RouteOff routeId := by
  intro r hr hid
  rcases h r hr with hkept | hnew
  · exact hoff r hkept hid
  · rw [hnew]
    exact fun hon => Bool.false_ne_true hon.1

/-- A request that does not restore the route keeps it off. -/
theorem Database.RouteOff.handle {c : ApiCall} (hoff : db.RouteOff routeId)
    (hrestores : ¬ c.request.Restores routeId) (h : c.handle db = .ok db') :
    db'.RouteOff routeId := by
  intro r hr hid hon
  cases c.handle_routes h hr with
  | kept hr => exact hoff r hr hid hon
  | advertised happroved => rw [happroved] at hon; exact Bool.false_ne_true hon.1
  | approved hrequest happroved henabled =>
    rw [hrequest] at hrestores
    exact hrestores ⟨hid, happroved ▸ hon.1, henabled ▸ hon.2⟩
  | @updated token req old hrequest hold holdid happroved henabled =>
    rw [hrequest] at hrestores
    cases hreq : req.enabled with
    | none =>
      rw [hreq, Option.getD_none] at henabled
      exact hoff old hold (holdid.trans hid) ⟨happroved ▸ hon.1, henabled ▸ hon.2⟩
    | some enabled =>
      rw [hreq, Option.getD_some] at henabled
      exact hrestores ⟨hid, by rw [hreq, ← henabled, hon.2]⟩

/-- **A route that is off stays off** until it is approved or enabled. -/
theorem Database.RouteOff.afterwards (hoff : db.RouteOff routeId)
    (h : Afterwards routeId db db') : db'.RouteOff routeId := by
  cases h with
  | api hrestores => exact serveApi_cases hoff fun db' h => hoff.handle hrestores h
  | device c =>
    exact serveDevice_cases hoff fun db' h => hoff.of_new fun r hr => c.handle_routes h hr
  | elsewhere h => exact hoff.of_new fun r hr => .inl (h ▸ hr)

theorem Database.RouteOff.run (hoff : db.RouteOff routeId)
    (h : Relation.ReflTransGen (Afterwards routeId) db db') : db'.RouteOff routeId := by
  induction h with
  | refl => exact hoff
  | tail _ hstep ih => exact ih.afterwards hstep

end

/-! ### What a route contributes -/

/-- The database without the route. -/
def Database.withoutRoute (db : Database) (routeId : Uuid) : Database :=
  { db with routes := db.routes.delete fun r => r.id = routeId }

/-- Plans, configurations and desired peers are those of a database without the route. -/
structure Database.ContributesNothing (db : Database) (routeId : Uuid) : Prop where
  plan : ∀ (settings : Settings) (t : TopologyType) (network : Network) (device : DeviceState),
    t.generatePlan settings (db.planInput network device) =
      t.generatePlan settings ((db.withoutRoute routeId).planInput network device)
  config : ∀ (env : Env) (deviceId : Uuid),
    getDeviceConfig env db deviceId = getDeviceConfig env (db.withoutRoute routeId) deviceId
  configV2 : ∀ (env : Env) (device : Device),
    buildConfigV2 env db device = buildConfigV2 env (db.withoutRoute routeId) device
  desired : ∀ (settings : Settings) (interface : String),
    db.getDesiredPeers settings interface =
      (db.withoutRoute routeId).getDesiredPeers settings interface

section

variable {db : Database} {routeId : Uuid}

theorem Database.RouteOff.select_eq (hoff : db.RouteOff routeId) {p : AdvertisedRoute → Bool}
    (hp : ∀ r, p r = true → r.approved = true ∧ r.enabled = true) :
    (db.withoutRoute routeId).routes.select p = db.routes.select p := by
  refine Table.select_delete_of_not fun r hr hid => ?_
  rw [Bool.eq_false_iff]
  exact fun hpr => hoff r hr (of_decide_eq_true hid) (hp r hpr)

/-- **A route that is off contributes nothing.** -/
theorem Database.RouteOff.contributesNothing (hoff : db.RouteOff routeId) :
    db.ContributesNothing routeId := by
  have hnetwork : ∀ networkId, (db.withoutRoute routeId).buildRoutesByDevice networkId =
      db.buildRoutesByDevice networkId := fun networkId => by
    have hrows : (db.withoutRoute routeId).approvedRoutes networkId = db.approvedRoutes networkId :=
      hoff.select_eq fun r hr => (of_decide_eq_true hr).2
    simp only [buildRoutesByDevice, hrows]
  have hall : (db.withoutRoute routeId).allRoutesByDevice = db.allRoutesByDevice := by
    rw [allRoutesByDevice, hoff.select_eq fun r hr => of_decide_eq_true hr, allRoutesByDevice]
  refine ⟨fun settings t network device => ?_, fun env deviceId => ?_, fun env device => ?_,
    fun settings interface => ?_⟩
  · rw [planInput, planInput, hnetwork]
    rfl
  · simp only [getDeviceConfig, hnetwork]
    rfl
  · simp only [buildConfigV2, planInput, hnetwork]
    rfl
  · have hpeer : (db.withoutRoute routeId).desiredPeer = db.desiredPeer := by
      funext d
      rw [desiredPeer, desiredPeer, hall]
    rw [getDesiredPeers, getDesiredPeers, hpeer]
    rfl

end

/-! ### Withdrawals -/

/-- The withdrawal succeeds, and from then on, until it is restored, the route contributes
nothing. -/
def ApiCall.WithdrawalWorks (c : ApiCall) (db : Database) (routeId : Uuid) : Prop :=
  ∃ db', c.handle db = .ok db' ∧
    ∀ later, Relation.ReflTransGen (Afterwards routeId) db' later →
      later.ContributesNothing routeId

/-- The user of the request owns the network of the route, or is a superuser. -/
structure ApiCall.ByOwner (c : ApiCall) (db : Database) (routeId : Uuid) (token : String)
    (user : User) (route : AdvertisedRoute) : Prop where
  token_eq : c.request.token? = some token
  user_eq : getCurrentUser c.env db token = .ok user
  owned : ownedRoute db routeId user = .ok route

section

variable {c : ApiCall} {db db' : Database} {routeId : Uuid}

theorem Database.routeOff_modify {f : AdvertisedRoute → AdvertisedRoute}
    (hf : ∀ r, Row.pk (f r) = Row.pk r) (hroutes : db.routes.modify routeId f hf = db'.routes)
    (h : ∀ r ∈ db.routes, r.id = routeId → ¬ ((f r).approved = true ∧ (f r).enabled = true)) :
    db'.RouteOff routeId := by
  intro r hr hid
  rw [← hroutes] at hr
  obtain ⟨old, hold, rfl⟩ := Table.mem_modify.1 hr
  by_cases hpk : Row.pk old = routeId
  · rw [if_pos hpk]
    exact h old hold hpk
  · rw [if_neg hpk] at hid
    exact absurd hid hpk

/-- **Every withdrawal but a deletion works**, and no deletion does. -/
theorem withdrawal_works_iff {token : String} {user : User} {route : AdvertisedRoute}
    (hwithdraws : c.request.Withdraws routeId) (howner : c.ByOwner db routeId token user route) :
    c.WithdrawalWorks db routeId ↔ ¬ c.request.IsDeletion := by
  obtain ⟨htoken, huser, howned⟩ := howner
  obtain ⟨env, e, request⟩ := c
  have hworks : ∀ {db' : Database}, db'.RouteOff routeId →
      ∀ later, Relation.ReflTransGen (Afterwards routeId) db' later →
        later.ContributesNothing routeId :=
    fun hoff later hlater => (hoff.run hlater).contributesNothing
  cases request with
  | deleteRoute token' id =>
    refine iff_of_false ?_ (not_not_intro trivial)
    rintro ⟨db', h, -⟩
    obtain ⟨_, h⟩ := snd_map_eq_ok.1 h
    exact deleteRoute_ne_ok id _ h
  | approveRoute token' approvedId req =>
    obtain ⟨rfl, hoff⟩ := hwithdraws
    obtain rfl : token' = token := Option.some.inj htoken
    let rows := db.routes.modify approvedId (req.apply env.now) fun _ => rfl
    have hok : ({ env := env, entropy := e, request := .approveRoute token' approvedId req } :
        ApiCall).handle db =
          .ok ({ db with routes := rows }.audit (user.did "route.approve" "route" approvedId)) := by
      simp only [ApiCall.handle, approveRoute, huser, howned, ok_bind]
      rfl
    have hafter : ({ db with routes := rows } : Database).RouteOff approvedId :=
      Database.routeOff_modify (f := req.apply env.now) (fun _ => rfl) rfl fun _ _ _ => hoff
    exact iff_of_true ⟨_, hok, hworks hafter⟩ id
  | updateRoute token' updatedId req =>
    obtain ⟨rfl, hoff⟩ := hwithdraws
    obtain rfl : token' = token := Option.some.inj htoken
    let rows := db.routes.modify updatedId (req.apply env.now) fun _ => rfl
    have hok : ({ env := env, entropy := e, request := .updateRoute token' updatedId req } :
        ApiCall).handle db =
          .ok ({ db with routes := rows }.audit (user.did "route.update" "route" updatedId)) := by
      simp only [ApiCall.handle, updateRoute, huser, howned, ok_bind]
      rfl
    have hafter : ({ db with routes := rows } : Database).RouteOff updatedId :=
      Database.routeOff_modify (f := req.apply env.now) (fun _ => rfl) rfl fun r _ _ => by
        simp [RouteUpdateRequest.apply, hoff]
    exact iff_of_true ⟨_, hok, hworks hafter⟩ id
  | device | deleteNetwork | deletePreauthKey | createAcl | updateAcl | deleteAcl | createDns
  | deleteDns | advertiseRoute | selectExitNode | deviceAdvertiseRoute | rotateDeviceToken =>
    exact absurd hwithdraws id

end

/-! ### A gateway in a workshop -/

/-- The network of the workshop, with a route to its machines that was approved. -/
def workshop : Database where
  users := .ofRows [{ id := Uuid.ofNat 90 }] (List.nodup_singleton _)
  networks := .ofRows
    [{ id := Uuid.ofNat 91, name := "workshop", subnet := "10.9.0.0/24"
       ownerId := some (Uuid.ofNat 90) }] (List.nodup_singleton _)
  devices := .ofRows
    [{ id := Uuid.ofNat 92, name := "lathe", networkId := Uuid.ofNat 91
       publicKey := some "key-lathe", ipAddress := some "10.9.0.2" }] (List.nodup_singleton _)
  routes := .ofRows
    [{ id := Uuid.ofNat 93, deviceId := Uuid.ofNat 92, networkId := Uuid.ofNat 91
       pfx := "192.168.40.0/24", approved := true }] (List.nodup_singleton _)

/-- A request in the workshop with the access token of its owner. -/
def workshopCall (request : ApiRequest) : ApiCall where
  env := { plainEnv with
    security := plainSecurity [
      ("jwt", (Dict.empty.set "sub" (.str "00000000-0000-0000-0000-00000000005a")).set "type"
        (.str "access"))] }
  entropy :=
    { rowId := Uuid.ofNat 94, serverId := Uuid.ofNat 95, keyPair := ⟨"", ""⟩, nonce := ""
      rawPrefix := "", secret := "", salt := "", preauthText := "" }
  request := request

theorem workshopCall_byOwner {request : ApiRequest} (htoken : request.token? = some "jwt") :
    ∃ user route, (workshopCall request).ByOwner workshop (Uuid.ofNat 93) "jwt" user route :=
  ⟨_, _, htoken, rfl, rfl⟩

/-- The owner disables the route. -/
theorem withdrawal_works_iff_disabled :
    (workshopCall (.updateRoute "jwt" (Uuid.ofNat 93) { enabled := some false })).WithdrawalWorks
      workshop (Uuid.ofNat 93) := by
  have htoken : (ApiRequest.updateRoute "jwt" (Uuid.ofNat 93)
      { enabled := some false }).token? = some "jwt" := rfl
  obtain ⟨user, route, howner⟩ := workshopCall_byOwner htoken
  have hwithdraws : (workshopCall (.updateRoute "jwt" (Uuid.ofNat 93)
      { enabled := some false })).request.Withdraws (Uuid.ofNat 93) := ⟨rfl, rfl⟩
  exact (withdrawal_works_iff hwithdraws howner).2 id

/-- **The owner cannot delete it**: the request fails, and the peer keeps the prefix. -/
theorem deletion_fails :
    (∃ user route, (workshopCall (.deleteRoute "jwt" (Uuid.ofNat 93))).ByOwner workshop
      (Uuid.ofNat 93) "jwt" user route) ∧
    (workshopCall (.deleteRoute "jwt" (Uuid.ofNat 93))).handle workshop =
      .error (.internal "AttributeError") ∧
    ¬ (workshopCall (.deleteRoute "jwt" (Uuid.ofNat 93))).WithdrawalWorks workshop
      (Uuid.ofNat 93) := by
  have htoken : (ApiRequest.deleteRoute "jwt" (Uuid.ofNat 93)).token? = some "jwt" := rfl
  refine ⟨workshopCall_byOwner htoken, by decide +kernel, ?_⟩
  rintro ⟨db', h, -⟩
  obtain ⟨_, h⟩ := snd_map_eq_ok.1 h
  exact deleteRoute_ne_ok _ _ h

end Midscale
