import Midscale.Api.Withdrawal
import Midscale.Data.FirstCome

/-!
# Who holds a prefix

An advertisement is refused if its network has a route with the same prefix, be it approved or not,
enabled or not, and of the same device or of another one.  No request deletes a route or moves it to
another device or prefix, so the routes are a ledger of claims: a prefix is held for good by the
device that claimed it first, and `RouteAdvertiser`, which advertises its prefixes every five
minutes, is refused from the second time on.

* `ApiCall.handle_routeLedger` : other requests leave the ledger alone.
* `serveApi_routeLedger` : what a request does to the ledger.
* `prefix_holder` : **a prefix is held by the first device with a valid claim**, and an advertisement
  is accepted exactly if it makes that claim.
-/

namespace Midscale

open FirstCome

/-! ### Claims -/

/-- What a route claims, and for which device: a prefix in a network. -/
def AdvertisedRoute.claim (r : AdvertisedRoute) : (Uuid × String) × Uuid :=
  ((r.networkId, r.pfx), r.deviceId)

/-- The claims of the routes. -/
def Database.routeLedger (db : Database) : List ((Uuid × String) × Uuid) :=
  db.routes.rows.map AdvertisedRoute.claim

/-- The device that holds a prefix in a network. -/
def Database.prefixHolder (db : Database) (networkId : Uuid) (pfx : String) : Option Uuid :=
  holder db.routeLedger (networkId, pfx)

/-- The claim that an advertisement makes, if the one who asks may advertise and the prefix is
safe. -/
def AdvertiseCall.claim? (c : AdvertiseCall) (db : Database) : Option ((Uuid × String) × Uuid) :=
  match c.advertiser db with
  | .ok (deviceId, networkId) =>
    if checkSafePrefix c.env.settings c.req.pfx c.req.isExitNode = .ok () ∧
        db.routes.get? c.entropy.rowId = none then
      some ((networkId, c.req.pfx), deviceId)
    else none
  | .error _ => none

/-- The advertisement that a request is. -/
def ApiCall.advertisement? (c : ApiCall) : Option AdvertiseCall :=
  match c.request with
  | .advertiseRoute token networkId req => some ⟨c.env, c.entropy, .byOwner token networkId, req⟩
  | .deviceAdvertiseRoute token deviceId req =>
    some ⟨c.env, c.entropy, .byDevice token deviceId, req⟩
  | _ => none

/-- The claim that a request makes. -/
def ApiCall.routeClaim? (db : Database) (c : ApiCall) : Option ((Uuid × String) × Uuid) :=
  c.advertisement?.bind fun a => a.claim? db

theorem ApiCall.advertisement?_eq_some {c : ApiCall} {a : AdvertiseCall} :
    c.advertisement? = some a ↔ c = a.call := by
  obtain ⟨env, e, request⟩ := c
  obtain ⟨env', e', advertisement, req⟩ := a
  constructor
  · intro h
    cases request <;> cases h <;> rfl
  · intro h
    cases advertisement <;> cases h <;> rfl

@[simp] theorem AdvertiseCall.routeClaim?_call (a : AdvertiseCall) (db : Database) :
    a.call.routeClaim? db = a.claim? db := by
  rw [ApiCall.routeClaim?, ApiCall.advertisement?_eq_some.2 rfl, Option.bind_some]

section

variable {db db' : Database}

/-- Other requests leave the ledger alone. -/
theorem ApiCall.handle_routeLedger {c : ApiCall} (hother : c.advertisement? = none)
    (h : c.handle db = .ok db') : db'.routeLedger = db.routeLedger := by
  have hkept : ∀ {db₁ : Database}, db₁.routes = db.routes → db₁.routeLedger = db.routeLedger :=
    fun heq => by rw [Database.routeLedger, heq, Database.routeLedger]
  have hassigned : ∀ {db₁ : Database} {routeId : Uuid} {f : AdvertisedRoute → AdvertisedRoute}
      (hf : ∀ r, Row.pk (f r) = Row.pk r), db₁.routes = db.routes.modify routeId f hf →
        (∀ r, (f r).claim = r.claim) → db₁.routeLedger = db.routeLedger := fun _ heq hclaim => by
    rw [Database.routeLedger, heq]
    exact Table.map_modify _ hclaim
  obtain ⟨env, e, request⟩ := c
  unfold ApiCall.handle at h
  cases request with
  | device request => exact hkept (Call.handle_routes h)
  | deleteNetwork token networkId =>
    obtain ⟨_, h⟩ := snd_map_eq_ok.1 h
    obtain ⟨_, _, -, -, -, rfl⟩ := deleteNetwork_eq_ok h
    exact hkept rfl
  | deletePreauthKey token networkId keyId =>
    obtain ⟨_, h⟩ := snd_map_eq_ok.1 h
    obtain ⟨_, _, _, -, -, -, -, rfl⟩ := deleteOwned_eq_ok h
    exact hkept rfl
  | createAcl token networkId req =>
    obtain ⟨_, h⟩ := snd_map_eq_ok.1 h
    obtain ⟨_, _, _, -, -, -, rfl⟩ := createOwned_eq_ok h
    exact hkept rfl
  | updateAcl token networkId ruleId req =>
    obtain ⟨_, h⟩ := snd_map_eq_ok.1 h
    obtain ⟨_, _, _, -, -, -, -, rfl⟩ := updateAcl_eq_ok h
    exact hkept rfl
  | deleteAcl token networkId ruleId =>
    obtain ⟨_, h⟩ := snd_map_eq_ok.1 h
    obtain ⟨_, _, _, -, -, -, -, rfl⟩ := deleteOwned_eq_ok h
    exact hkept rfl
  | createDns token networkId req =>
    obtain ⟨_, h⟩ := snd_map_eq_ok.1 h
    obtain ⟨_, _, _, -, -, -, rfl⟩ := createOwned_eq_ok h
    exact hkept rfl
  | deleteDns token networkId entryId =>
    obtain ⟨_, h⟩ := snd_map_eq_ok.1 h
    obtain ⟨_, _, _, -, -, -, -, rfl⟩ := deleteOwned_eq_ok h
    exact hkept rfl
  | advertiseRoute token networkId req => cases hother
  | deviceAdvertiseRoute token deviceId req => cases hother
  | approveRoute token routeId req =>
    obtain ⟨_, h⟩ := snd_map_eq_ok.1 h
    obtain ⟨_, _, -, -, rfl⟩ := approveRoute_eq_ok h
    exact hassigned (f := req.apply env.now) (fun _ => rfl) rfl fun _ => rfl
  | updateRoute token routeId req =>
    obtain ⟨_, h⟩ := snd_map_eq_ok.1 h
    obtain ⟨_, _, -, -, rfl⟩ := updateRoute_eq_ok h
    exact hassigned (f := req.apply env.now) (fun _ => rfl) rfl fun _ => rfl
  | deleteRoute token routeId =>
    obtain ⟨_, h⟩ := snd_map_eq_ok.1 h
    exact absurd h (deleteRoute_ne_ok routeId _)
  | selectExitNode token deviceId req =>
    obtain ⟨_, h⟩ := snd_map_eq_ok.1 h
    obtain ⟨_, _, -, -, -, rfl⟩ := selectExitNode_eq_ok h
    exact hkept rfl
  | rotateDeviceToken token deviceId =>
    obtain ⟨_, h⟩ := snd_map_eq_ok.1 h
    obtain ⟨_, -, -, -, rfl⟩ := rotateDeviceToken_eq_ok h
    exact hkept rfl

theorem AdvertiseCall.claim?_eq_some {a : AdvertiseCall} {claim : (Uuid × String) × Uuid} :
    a.claim? db = some claim ↔ ∃ deviceId networkId, a.advertiser db = .ok (deviceId, networkId) ∧
      checkSafePrefix a.env.settings a.req.pfx a.req.isExitNode = .ok () ∧
        db.routes.get? a.entropy.rowId = none ∧ ((networkId, a.req.pfx), deviceId) = claim := by
  rw [claim?]
  constructor
  · intro h
    split at h
    · rename_i deviceId networkId hfor
      split_ifs at h with hvalid
      exact ⟨deviceId, networkId, hfor, hvalid.1, hvalid.2, Option.some.inj h⟩
    · cases h
  · rintro ⟨deviceId, networkId, hfor, hsafe, hid, rfl⟩
    simp only [hfor, hsafe, hid, and_self, if_true]

theorem AdvertiseCall.passes_iff {a : AdvertiseCall} {deviceId networkId : Uuid}
    (hfor : a.advertiser db = .ok (deviceId, networkId)) : a.Passes db networkId ↔
      a.claim? db = some ((networkId, a.req.pfx), deviceId) ∧
        (networkId, a.req.pfx) ∉ db.routeLedger.map Prod.fst := by
  have hfree : (networkId, a.req.pfx) ∉ db.routeLedger.map Prod.fst ↔
      ∀ r ∈ db.routes, ¬ (r.networkId = networkId ∧ r.pfx = a.req.pfx) := by
    simp [Database.routeLedger, AdvertisedRoute.claim, Table.mem_def, Prod.ext_iff]
  rw [hfree, claim?_eq_some]
  constructor
  · rintro ⟨hsafe, hnew, hid⟩
    exact ⟨⟨deviceId, networkId, hfor, hsafe, hid, rfl⟩, hnew⟩
  · rintro ⟨⟨_, _, -, hsafe, hid, -⟩, hnew⟩
    exact ⟨hsafe, hnew, hid⟩

theorem advertise_routeLedger (db : Database) (a : AdvertiseCall) :
    (advertise db a).routeLedger = (a.claim? db).elim db.routeLedger (enter db.routeLedger) := by
  rcases advertise_cases db a with ⟨deviceId, networkId, hfor, hpass, hinsert⟩ | ⟨hrefused, hsame⟩
  · obtain ⟨hclaim, hfree⟩ := (AdvertiseCall.passes_iff hfor).1 hpass
    rw [hclaim, Option.elim_some, enter, if_neg hfree, Database.routeLedger,
      (Table.insert_eq_some hinsert).1, List.map_append]
    rfl
  · rw [hsame]
    cases hclaim : a.claim? db with
    | none => rfl
    | some claim =>
      -- a valid claim is refused because the prefix is held
      obtain ⟨deviceId, networkId, hfor, -, -, rfl⟩ := AdvertiseCall.claim?_eq_some.1 hclaim
      have hheld : (networkId, a.req.pfx) ∈ db.routeLedger.map Prod.fst := by
        by_contra hfree
        exact hrefused deviceId networkId hfor ((AdvertiseCall.passes_iff hfor).2 ⟨hclaim, hfree⟩)
      rw [Option.elim_some, enter, if_pos hheld]

/-- **What a request does to the ledger.** -/
theorem serveApi_routeLedger (db : Database) (c : ApiCall) :
    (serveApi db c).routeLedger =
      (c.routeClaim? db).elim db.routeLedger (enter db.routeLedger) := by
  cases hadvertises : c.advertisement? with
  | none =>
    rw [ApiCall.routeClaim?, hadvertises, Option.bind_none, Option.elim_none]
    exact serveApi_cases (P := fun db' => db'.routeLedger = db.routeLedger) rfl fun db' h =>
      c.handle_routeLedger hadvertises h
  | some a =>
    obtain rfl := ApiCall.advertisement?_eq_some.1 hadvertises
    rw [a.routeClaim?_call]
    exact advertise_routeLedger db a

theorem advertise_accepted_iff (db : Database) (a : AdvertiseCall) :
    (∃ db', a.call.handle db = .ok db') ↔
      ∃ claim, a.claim? db = some claim ∧ holder db.routeLedger claim.1 = none := by
  constructor
  · rintro ⟨db', hok⟩
    obtain ⟨deviceId, networkId, -, hfor, hpass, -, -⟩ := advertise_handle_eq_ok hok
    obtain ⟨hclaim, hfree⟩ := (AdvertiseCall.passes_iff hfor).1 hpass
    exact ⟨_, hclaim, holder_eq_none_iff.2 hfree⟩
  · rintro ⟨claim, hclaim, hfree⟩
    obtain ⟨deviceId, networkId, hfor, -, -, rfl⟩ := AdvertiseCall.claim?_eq_some.1 hclaim
    exact advertise_handle_isOk hfor
      ((AdvertiseCall.passes_iff hfor).2 ⟨hclaim, holder_eq_none_iff.1 hfree⟩)

theorem run_routeLedger (db : Database) (calls : List ApiCall) :
    (run serveApi db calls).routeLedger =
      run enter db.routeLedger (trace serveApi (fun db c => c.routeClaim? db) db calls) :=
  run_of_trace serveApi _ Database.routeLedger serveApi_routeLedger db calls

/-- **A prefix is held by the first device with a valid claim**, for good: after any requests of
anyone it is held by the device that held it before them, and otherwise by the one with the first
valid claim among them.  The next advertisement is accepted exactly if it makes a valid claim to a
prefix that nobody holds, the device itself included.  And no prefix of a network is ever held twice
if none was at first. -/
theorem prefix_holder (db : Database) (calls : List ApiCall) :
    let db' := run serveApi db calls
    let claims := trace serveApi (fun db c => c.routeClaim? db) db calls
    (∀ networkId pfx, db'.prefixHolder networkId pfx =
      (db.prefixHolder networkId pfx).or (holder claims (networkId, pfx))) ∧
    (∀ a : AdvertiseCall, (∃ db'', a.call.handle db' = .ok db'') ↔
      ∃ networkId pfx deviceId, a.claim? db' = some ((networkId, pfx), deviceId) ∧
        (db.prefixHolder networkId pfx).or (holder claims (networkId, pfx)) = none) ∧
    ((db.routeLedger.map Prod.fst).Nodup → (db'.routeLedger.map Prod.fst).Nodup) := by
  intro db' claims
  have hholder : ∀ key, holder db'.routeLedger key =
      (holder db.routeLedger key).or (holder claims key) := fun key => by
    rw [run_routeLedger, holder_run]
  refine ⟨fun networkId pfx => hholder _, fun a => ?_, fun hnodup => ?_⟩
  · rw [advertise_accepted_iff]
    constructor
    · rintro ⟨⟨⟨networkId, pfx⟩, deviceId⟩, hclaim, hfree⟩
      exact ⟨networkId, pfx, deviceId, hclaim, (hholder _).symm.trans hfree⟩
    · rintro ⟨networkId, pfx, deviceId, hclaim, hfree⟩
      exact ⟨_, hclaim, (hholder _).trans hfree⟩
  · rw [run_routeLedger]
    exact run_keys_nodup hnodup _

/-- The second gateway advertises a prefix of the first one, which then advertises it again. -/
example :
    let db := run advertise gateways [gatewayRoute 63 "north" 61 "192.168.1.0/24",
      gatewayRoute 64 "south" 62 "192.168.1.0/24", gatewayRoute 65 "north" 61 "192.168.1.0/24"]
    db.routes.rows.length = 1 ∧
      db.prefixHolder (Uuid.ofNat 60) "192.168.1.0/24" = some (Uuid.ofNat 61) := by
  decide

end

end Midscale
