import Midscale.Api.ExitNodes

/-!
# Selecting an exit node

`select_exit_node` accepts a device that has an approved exit route in the network.  It looks for
the route with a query that must not find two, although a device may offer both default routes, and
answers with a default route of the selecting device itself, which need not have one.

* `selectExitNode_ok_iff` : when a selection completes.
* `exit_selection_iff` : **in every state of a run a request is answered as it should exactly if**
  each of the two queries finds one route, or the requested node has none.
-/

namespace Midscale

namespace Database

variable (db : Database)

/-- The approved exit routes of a device in a network, as `select_exit_node` asks for them. -/
def exitRoutes (networkId exitNodeId : Uuid) : List AdvertisedRoute :=
  db.routes.select fun r => r.deviceId = exitNodeId ∧ r.isExitNode ∧ r.approved ∧ r.enabled ∧
    r.networkId = networkId

/-- The default routes of the selecting device, for the answer. -/
def ownDefaultRoutes (deviceId : Uuid) : List AdvertisedRoute :=
  db.routes.select fun r => r.deviceId = deviceId ∧ r.pfx = "0.0.0.0/0"

/-- The queries of a request find what they are for. -/
def SelectionFits (d : Device) : Option Uuid → Prop
  | none => (db.ownDefaultRoutes d.id).length = 1
  | some e => db.exitRoutes d.networkId e = [] ∨
      (db.exitRoutes d.networkId e).length = 1 ∧ (db.ownDefaultRoutes d.id).length = 1

end Database

section

variable (env : Env) (db : Database) (token : String) (d : Device)

/-- The request completes, and the device has the exit node then. -/
def Selects (exitNodeId : Option Uuid) : Prop :=
  ∃ route db', selectExitNode env db token d.id { exitNodeId } = .ok (route, db') ∧
    ∃ d', db'.devices.get? d.id = some d' ∧ d'.exitNodeId = exitNodeId

/-- The request is answered with the error for a device that is no exit node, and changes
nothing. -/
def RefusesExit (exitNodeId : Uuid) : Prop :=
  selectExitNode env db token d.id { exitNodeId := some exitNodeId } =
      .error (.http 400 "Specified device is not an approved exit node in this network") ∧
    ∀ entropy, serveApi db
      { env, entropy, request := .selectExitNode token d.id { exitNodeId := some exitNodeId } } = db

/-- A selection is accepted exactly if it is a valid choice, and refused else; a deselection is
accepted. -/
def ExitSelectionRight : Option Uuid → Prop
  | none => Selects env db token d none
  | some e => (Selects env db token d (some e) ↔ db.HasExitRoute d.networkId e) ∧
      (¬ db.HasExitRoute d.networkId e → RefusesExit env db token d e)

end

section

variable {env : Env} {db : Database} {token : String} {d : Device} {user : User}

theorem hasExitRoute_iff {networkId e : Uuid} :
    db.HasExitRoute networkId e ↔ db.exitRoutes networkId e ≠ [] := by
  rw [ne_eq, List.eq_nil_iff_forall_not_mem, not_forall_not]
  constructor
  · rintro ⟨r, hr, rfl, hexit⟩
    obtain ⟨hmem, hcond⟩ := Table.mem_select.1 hr
    obtain ⟨hnet, happroved, henabled⟩ := of_decide_eq_true hcond
    exact ⟨r, Table.mem_select.2 ⟨hmem, decide_eq_true ⟨rfl, hexit, happroved, henabled, hnet⟩⟩⟩
  · rintro ⟨r, hr⟩
    obtain ⟨hmem, hcond⟩ := Table.mem_select.1 hr
    obtain ⟨rfl, hexit, happroved, henabled, hnet⟩ := of_decide_eq_true hcond
    exact ⟨r, Table.mem_select.2 ⟨hmem, decide_eq_true ⟨hnet, happroved, henabled⟩⟩, rfl, hexit⟩

theorem exists_scalar_iff {α : Type} {l : List α} :
    (∃ a, scalarOneOrNone l = .ok (some a)) ↔ l.length = 1 := by
  match l with
  | [] => simp [scalarOneOrNone]
  | [a] => simp [scalarOneOrNone]
  | _ :: _ :: _ => simp [scalarOneOrNone]

theorem checkExitNode_ok_iff {networkId : Uuid} {exitNodeId : Option Uuid} :
    checkExitNode db networkId exitNodeId = .ok () ↔
      ∀ e ∈ exitNodeId, (db.exitRoutes networkId e).length = 1 := by
  cases exitNodeId with
  | none => simp [checkExitNode]
  | some e =>
    simp only [Option.mem_some_iff, forall_eq', ← exists_scalar_iff]
    rw [checkExitNode, bind_eq_ok]
    constructor
    · rintro ⟨found, hfound, hsome⟩
      obtain ⟨r, rfl⟩ := Option.isSome_iff_exists.1 (ensure_eq_ok.1 hsome)
      exact ⟨r, hfound⟩
    · rintro ⟨r, hr⟩
      exact ⟨some r, hr, rfl⟩

/-- **A request of the device's user completes exactly if** the node it names has one approved exit
route, and the device itself one default route. -/
theorem selectExitNode_ok_iff (huser : getCurrentUser env db token = .ok user)
    (hd : db.devices.get? d.id = some d) (hmine : d.userId = some user.id)
    (req : ExitNodeSelectRequest) :
    (∃ r, selectExitNode env db token d.id req = .ok r) ↔
      (∀ e ∈ req.exitNodeId, (db.exitRoutes d.networkId e).length = 1) ∧
        (db.ownDefaultRoutes d.id).length = 1 := by
  have hfound : (db.devices.get? d.id).filter (fun d => d.userId = some user.id) = some d := by
    rw [hd, Option.filter_eq_some_iff]
    exact ⟨rfl, decide_eq_true hmine⟩
  rw [← checkExitNode_ok_iff, ← exists_scalar_iff]
  simp only [selectExitNode, bind_eq_ok, getOr_eq_ok]
  constructor
  · rintro ⟨-, user', huser', d', hd', ⟨⟩, hcheck, found, hown, route, rfl, -⟩
    rw [huser] at huser'
    cases huser'
    rw [hfound] at hd'
    cases hd'
    exact ⟨hcheck, route, hown⟩
  · rintro ⟨hcheck, route, hown⟩
    exact ⟨_, user, huser, d, hfound, (), hcheck, some route, hown, route, rfl, rfl⟩

theorem selects_iff {exitNodeId : Option Uuid} (hd : db.devices.get? d.id = some d) :
    Selects env db token d exitNodeId ↔
      ∃ r, selectExitNode env db token d.id { exitNodeId } = .ok r := by
  constructor
  · rintro ⟨route, db', hok, -⟩
    exact ⟨_, hok⟩
  · rintro ⟨⟨route, db'⟩, hok⟩
    refine ⟨route, db', hok, ?_⟩
    obtain ⟨user, d', -, -, -, rfl⟩ := selectExitNode_eq_ok hok
    refine ⟨d.flushed env.now (ExitNodeSelectRequest.apply { exitNodeId } env.now), ?_,
      d.flushed_column env.now _ Device.exitNodeId fun _ _ => rfl⟩
    simp only [Database.audit_devices, Database.assign, Table.get?_modify, hd, Option.map_some]
    exact congrArg some (if_pos rfl)

theorem refusesExit_of_nil (huser : getCurrentUser env db token = .ok user)
    (hd : db.devices.get? d.id = some d) (hmine : d.userId = some user.id) {e : Uuid}
    (hnone : db.exitRoutes d.networkId e = []) : RefusesExit env db token d e := by
  have hfound : (db.devices.get? d.id).filter (fun d => d.userId = some user.id) = some d := by
    rw [hd, Option.filter_eq_some_iff]
    exact ⟨rfl, decide_eq_true hmine⟩
  have hcheck : checkExitNode db d.networkId (some e) =
      .error (.http 400 "Specified device is not an approved exit node in this network") := by
    change (scalarOneOrNone (db.exitRoutes d.networkId e) >>= _) = _
    rw [hnone]
    rfl
  have herror : selectExitNode env db token d.id { exitNodeId := some e } =
      .error (.http 400 "Specified device is not an approved exit node in this network") := by
    rw [selectExitNode, huser, ok_bind, hfound]
    change (checkExitNode db d.networkId (some e) >>= _) = _
    rw [hcheck]
    rfl
  refine ⟨herror, fun entropy => ?_⟩
  simp only [serveApi, ApiCall.handle, herror]
  rfl

theorem exitSelectionRight_iff (huser : getCurrentUser env db token = .ok user)
    (hd : db.devices.get? d.id = some d) (hmine : d.userId = some user.id)
    (exitNodeId : Option Uuid) :
    ExitSelectionRight env db token d exitNodeId ↔ db.SelectionFits d exitNodeId := by
  cases exitNodeId with
  | none =>
    rw [ExitSelectionRight, selects_iff hd, selectExitNode_ok_iff huser hd hmine]
    simp [Database.SelectionFits]
  | some e =>
    rw [ExitSelectionRight, selects_iff hd, selectExitNode_ok_iff huser hd hmine, hasExitRoute_iff,
      Database.SelectionFits]
    simp only [Option.mem_some_iff, forall_eq']
    by_cases hnone : db.exitRoutes d.networkId e = []
    · simp [hnone, refusesExit_of_nil huser hd hmine hnone]
    · simp [hnone]

end

/-- **In every state of a run, a request for a device of its user is answered as it should exactly
if the queries find what they are for.** -/
theorem exit_selection_iff (start : Database) (calls : List ApiCall) (env : Env) (token : String)
    (user : User) (d : Device) (exitNodeId : Option Uuid)
    (huser : getCurrentUser env (run serveApi start calls) token = .ok user)
    (hd : (run serveApi start calls).devices.get? d.id = some d)
    (hmine : d.userId = some user.id) :
    ExitSelectionRight env (run serveApi start calls) token d exitNodeId ↔
      (run serveApi start calls).SelectionFits d exitNodeId :=
  exitSelectionRight_iff huser hd hmine exitNodeId

/-! ### A desk in the attic -/

/-- The desk of the attic as a device of the office's owner, with a token of its own. -/
def atticDesk : Device where
  id := Uuid.ofNat 52
  name := "desk"
  userId := some (Uuid.ofNat 1)
  networkId := Uuid.ofNat 50
  publicKey := some "key-desk"
  ipAddress := some "10.5.0.2"
  deviceTokenHash := some "hash:desk"

def atticBox : Device where
  id := Uuid.ofNat 53
  name := "box"
  networkId := Uuid.ofNat 50
  publicKey := some "key-box"
  ipAddress := some "10.5.0.3"
  deviceTokenHash := some "hash:box"

def deskOffice : Database :=
  { atticOffice with
    devices := .ofRows [atticDesk, atticBox] (show [Uuid.ofNat 52, Uuid.ofNat 53].Nodup by decide) }

/-- A device advertises a default route under an id. -/
def offersExit (rowId : ℕ) (token : String) (d : Device) (pfx : String) : ApiCall :=
  let call := atticCall (.deviceAdvertiseRoute token d.id { pfx, isExitNode := true })
  { call with entropy := { call.entropy with rowId := Uuid.ofNat rowId } }

/-- The owner approves the route with the id. -/
def approvesExit (rowId : ℕ) : ApiCall := atticCall (.approveRoute "jwt" (Uuid.ofNat rowId) {})

/-- Both default routes of the box, approved. -/
def boxOffersBoth : List ApiCall :=
  [offersExit 54 "box" atticBox "0.0.0.0/0", offersExit 55 "box" atticBox "::/0", approvesExit 54,
    approvesExit 55]

/-- A default route of the desk, and one of the box for the other family, approved. -/
def eachOffersOne : List ApiCall :=
  [offersExit 54 "desk" atticDesk "0.0.0.0/0", offersExit 55 "box" atticBox "::/0",
    approvesExit 55]

/-- A desk that offers a default route may select a box that offers another. -/
theorem exit_selection_iff_desk :
    ExitSelectionRight (approvesExit 0).env
      (run serveApi deskOffice eachOffersOne) "jwt" atticDesk (some atticBox.id) :=
  (exit_selection_iff deskOffice eachOffersOne _ "jwt" { id := Uuid.ofNat 1 } atticDesk
    (some atticBox.id) (by decide) (by decide +kernel) rfl).2 (by
      rw [Database.SelectionFits]
      decide)

/-- A box with both default routes approved cannot be selected. -/
theorem boxOffersBoth_not_selected :
    (run serveApi deskOffice boxOffersBoth).HasExitRoute (Uuid.ofNat 50) atticBox.id ∧
      ¬ ExitSelectionRight (approvesExit 0).env
        (run serveApi deskOffice boxOffersBoth) "jwt" atticDesk (some atticBox.id) := by
  have hroute :
      (run serveApi deskOffice boxOffersBoth).HasExitRoute (Uuid.ofNat 50) atticBox.id := by
    decide
  refine ⟨hroute, fun h => ?_⟩
  obtain ⟨route, db', hok, -⟩ := h.1.2 hroute
  have herror : selectExitNode (approvesExit 0).env
      (run serveApi deskOffice boxOffersBoth) "jwt" atticDesk.id
        { exitNodeId := some atticBox.id } = .error (.internal "MultipleResultsFound") := by
    decide
  rw [herror] at hok
  cases hok

end Midscale
