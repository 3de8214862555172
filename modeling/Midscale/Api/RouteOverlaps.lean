import Midscale.Api.Endpoints
import Midscale.Run.Basic

/-!
# Overlapping routes

A network's subnet routes are to have no address in common, since an address can have one peer only.
The check before a route is added compares texts: it finds the same prefix written the same way, and
misses a network inside another one and the same network with other host bits.  `check_overlap`
compares addresses, and nobody calls it.

* `IPv4Network.overlaps_iff`, `checkOverlap_eq_none_iff` : what `check_overlap` finds.
* `advertise_cases` : what an advertisement changes, and when.
* `no_overlap_iff` : **the subnet routes of a network are disjoint in every state of a run exactly
  if `check_overlap` finds nothing for any prefix that is accepted.**
-/

namespace Midscale

/-! ### Networks with a common address -/

namespace IPv4Network

/-- `net.overlaps(other)`. -/
def overlaps (net other : IPv4Network) : Bool := other.touches net ∨ net.touches other

theorem broadcastAddress_lt (net : IPv4Network) : net.broadcastAddress < 2 ^ 32 := by
  have hpos := net.numAddresses_pos
  have hle := net.networkAddress_add_le
  rw [broadcastAddress]
  omega

theorem contains_iff_le_broadcast {net : IPv4Network} {x : IPv4Address} :
    net.contains x = true ↔ net.networkAddress.val ≤ x.val ∧ x.val ≤ net.broadcastAddress := by
  have hpos := net.numAddresses_pos
  rw [contains_iff, broadcastAddress]
  omega

theorem exists_contains_of_touches {net other : IPv4Network} (h : net.touches other = true) :
    ∃ x, net.contains x = true ∧ other.contains x = true := by
  have hle : net.networkAddress.val ≤ net.broadcastAddress := Nat.le_add_right _ _
  rcases of_decide_eq_true h with hlow | hhigh
  · exact ⟨net.networkAddress, contains_iff_le_broadcast.2 ⟨le_rfl, hle⟩,
      contains_iff_le_broadcast.2 hlow⟩
  · exact ⟨⟨net.broadcastAddress, net.broadcastAddress_lt⟩,
      contains_iff_le_broadcast.2 ⟨hle, le_rfl⟩, contains_iff_le_broadcast.2 hhigh⟩

/-- **Networks overlap if they have an address in common.** -/
theorem overlaps_iff {net other : IPv4Network} :
    net.overlaps other = true ↔ ∃ x, net.contains x = true ∧ other.contains x = true := by
  rw [overlaps, decide_eq_true_eq]
  constructor
  · rintro (h | h)
    · obtain ⟨x, hother, hnet⟩ := exists_contains_of_touches h
      exact ⟨x, hnet, hother⟩
    · exact exists_contains_of_touches h
  · rintro ⟨x, hnet, hother⟩
    -- of two ranges with a common address one begins in the other
    rw [contains_iff_le_broadcast] at hnet hother
    simp only [touches, decide_eq_true_eq]
    omega

end IPv4Network

/-- The text denotes a network with the address. -/
def Covers (pfx : String) (x : IPv4Address) : Prop :=
  ∃ n, IPv4Network.parse pfx = some n ∧ n.contains x = true

/-- `check_overlap`. -/
def checkOverlap (existing : List String) (pfx : String) : Option String :=
  (IPv4Network.parse pfx).bind fun net =>
    existing.find? fun other => (IPv4Network.parse other).any net.overlaps

/-- **`check_overlap` finds nothing if no existing prefix has an address in common with the new
one.** -/
theorem checkOverlap_eq_none_iff {existing : List String} {pfx : String} :
    checkOverlap existing pfx = none ↔
      ∀ other ∈ existing, ∀ x, Covers pfx x → ¬ Covers other x := by
  rw [checkOverlap]
  cases hnet : IPv4Network.parse pfx with
  | none => simp [Covers, hnet]
  | some net =>
    rw [Option.bind_some, List.find?_eq_none]
    refine forall₂_congr fun other _ => ?_
    cases hother : IPv4Network.parse other with
    | none => simp [Covers, hother]
    | some m =>
      rw [Option.any_some, IPv4Network.overlaps_iff]
      simp [Covers, hnet, hother]

example : checkOverlap ["10.9.0.0/16", "192.168.0.0/16"] "192.168.7.1/24" =
    some "192.168.0.0/16" := by decide

/-! ### Advertisements -/

/-- The two requests that advertise a route. -/
inductive Advertisement where
  | byOwner (token : String) (networkId : Uuid)
  | byDevice (token : String) (deviceId : Uuid)

/-- A request that advertises a route. -/
structure AdvertiseCall where
  env : Env
  entropy : Entropy
  advertisement : Advertisement
  req : RouteAdvertiseRequest

namespace AdvertiseCall

variable (c : AdvertiseCall) (db : Database)

/-- The request as one of the endpoints. -/
def call : ApiCall where
  env := c.env
  entropy := c.entropy
  request :=
    match c.advertisement with
    | .byOwner token networkId => .advertiseRoute token networkId c.req
    | .byDevice token deviceId => .deviceAdvertiseRoute token deviceId c.req

/-- The device that the one who asks may advertise for, and its network. -/
def advertiser : Except ApiError (Uuid × Uuid) :=
  match c.advertisement with
  | .byOwner token networkId => do
    let user ← getCurrentUser c.env db token
    let _ ← requireNetworkOwner db networkId user
    let device ← getOr (.http 400 "You have no devices in this network")
      (db.devices.select fun d => d.userId = some user.id ∧ d.networkId = networkId).head?
    .ok (device.id, networkId)
  | .byDevice token deviceId => do
    let _ ← getCurrentDeviceById c.env db deviceId token
    let device ← getOr (.http 404 "Device not found or inactive")
      ((db.devices.get? deviceId).filter (·.isActive))
    .ok (deviceId, device.networkId)

/-- The checks that a route passes before it is added. -/
def Passes (networkId : Uuid) : Prop :=
  checkSafePrefix c.env.settings c.req.pfx c.req.isExitNode = .ok () ∧
    (∀ r ∈ db.routes, ¬ (r.networkId = networkId ∧ r.pfx = c.req.pfx)) ∧
    db.routes.get? c.entropy.rowId = none

/-- The route that is added. -/
def row (deviceId networkId : Uuid) : AdvertisedRoute where
  id := c.entropy.rowId
  deviceId := deviceId
  networkId := networkId
  pfx := c.req.pfx
  isExitNode := c.req.isExitNode
  createdAt := c.env.now
  updatedAt := c.env.now

end AdvertiseCall

/-- One advertisement. -/
def advertise (db : Database) (c : AdvertiseCall) : Database := serveApi db c.call

section

variable {c : AdvertiseCall} {db : Database} {networkId : Uuid}

theorem addRoute_eq_ok_iff {deviceId : Uuid} {route : AdvertisedRoute} {db' : Database} :
    addRoute c.env c.entropy db deviceId networkId c.req = .ok (route, db') ↔
      c.Passes db networkId ∧ route = c.row deviceId networkId ∧
        ∃ routes, db.routes.insert (c.row deviceId networkId) = some routes ∧
          db' = { db with routes := routes } := by
  simp only [addRoute, bind_eq_ok, ensure_eq_ok, Table.add_eq_ok]
  constructor
  · rintro ⟨_, hsafe, _, hnew, routes, hinsert, h⟩
    cases h
    exact ⟨⟨hsafe, hnew, Table.exists_insert_iff.1 ⟨routes, hinsert⟩⟩, rfl, routes, hinsert, rfl⟩
  · rintro ⟨⟨hsafe, hnew, -⟩, rfl, routes, hinsert, rfl⟩
    exact ⟨(), hsafe, (), hnew, routes, hinsert, rfl⟩

theorem advertise_handle_eq_ok {db' : Database} (h : c.call.handle db = .ok db') :
    ∃ deviceId networkId routes, c.advertiser db = .ok (deviceId, networkId) ∧
      c.Passes db networkId ∧ db.routes.insert (c.row deviceId networkId) = some routes ∧
        db'.routes = routes := by
  rcases c with ⟨env, e, ⟨token, networkId⟩ | ⟨token, deviceId⟩, req⟩
  · simp only [AdvertiseCall.call, ApiCall.handle] at h
    obtain ⟨route, hreply⟩ := snd_map_eq_ok.1 h
    obtain ⟨user, network, d, db₁, huser, hnetwork, hd, hadd, rfl⟩ := advertiseRoute_adds hreply
    obtain ⟨hpass, -, routes, hinsert, rfl⟩ := addRoute_eq_ok_iff
      (c := ⟨env, e, .byOwner token networkId, req⟩).1 hadd
    refine ⟨d.id, networkId, routes, ?_, hpass, hinsert, rfl⟩
    simp only [AdvertiseCall.advertiser, huser, hnetwork, ok_bind, hd, getOr]
  · simp only [AdvertiseCall.call, ApiCall.handle] at h
    obtain ⟨route, hreply⟩ := snd_map_eq_ok.1 h
    obtain ⟨current, d, hcurrent, hd, hactive, hadd⟩ := deviceAdvertiseRoute_adds hreply
    obtain ⟨hpass, -, routes, hinsert, rfl⟩ := addRoute_eq_ok_iff
      (c := ⟨env, e, .byDevice token deviceId, req⟩).1 hadd
    refine ⟨deviceId, d.networkId, routes, ?_, hpass, hinsert, rfl⟩
    have hfound := Option.filter_eq_some_iff.2 ⟨hd, hactive⟩
    simp only [AdvertiseCall.advertiser, hcurrent, ok_bind, hfound, getOr]

theorem advertise_handle_isOk {deviceId : Uuid} (h : c.advertiser db = .ok (deviceId, networkId))
    (hpass : c.Passes db networkId) : ∃ db', c.call.handle db = .ok db' := by
  obtain ⟨routes, hinsert⟩ := Table.exists_insert_iff.2
    (show db.routes.get? (Row.pk (c.row deviceId networkId)) = none from hpass.2.2)
  have hadd := addRoute_eq_ok_iff.2 ⟨hpass, rfl, routes, hinsert, rfl⟩
  rcases c with ⟨env, e, ⟨token, networkId'⟩ | ⟨token, deviceId'⟩, req⟩
  · simp only [AdvertiseCall.advertiser, bind_eq_ok, getOr_eq_ok, Except.ok.injEq,
      Prod.mk.injEq] at h
    obtain ⟨user, huser, network, hnetwork, d, hd, rfl, rfl⟩ := h
    have hreply : ∃ p, advertiseRoute env e db token networkId' req = .ok p := by
      simp only [advertiseRoute, huser, hnetwork, ok_bind, hd, getOr]
      exact ⟨_, bind_eq_ok.2 ⟨_, hadd, rfl⟩⟩
    exact hreply.elim fun p hp => ⟨p.2, map_eq_ok.2 ⟨p, hp, rfl⟩⟩
  · simp only [AdvertiseCall.advertiser, bind_eq_ok, getOr_eq_ok, Except.ok.injEq,
      Prod.mk.injEq] at h
    obtain ⟨current, hcurrent, d, hd, rfl, rfl⟩ := h
    have hreply : ∃ p, deviceAdvertiseRoute env e db token deviceId' req = .ok p := by
      simp only [deviceAdvertiseRoute, hcurrent, ok_bind, hd, getOr]
      exact ⟨_, hadd⟩
    exact hreply.elim fun p hp => ⟨p.2, map_eq_ok.2 ⟨p, hp, rfl⟩⟩

/-- **What an advertisement changes**: a route of the device and the network that it is made for,
if the route passes the checks, and nothing otherwise. -/
theorem advertise_cases (db : Database) (c : AdvertiseCall) :
    (∃ deviceId networkId, c.advertiser db = .ok (deviceId, networkId) ∧
      c.Passes db networkId ∧
        db.routes.insert (c.row deviceId networkId) = some (advertise db c).routes) ∨
      ((∀ deviceId networkId, c.advertiser db = .ok (deviceId, networkId) →
        ¬ c.Passes db networkId) ∧ advertise db c = db) := by
  rw [advertise, serveApi]
  split
  · rename_i db' hok
    obtain ⟨deviceId, networkId, routes, hfor, hpass, hinsert, rfl⟩ := advertise_handle_eq_ok hok
    exact .inl ⟨deviceId, networkId, hfor, hpass, hinsert⟩
  · rename_i error hfail
    refine .inr ⟨fun deviceId networkId hfor hpass => ?_, rfl⟩
    obtain ⟨db', hok⟩ := advertise_handle_isOk hfor hpass
    rw [hok] at hfail
    cases hfail

/-! ### Runs -/

/-- The routes of a network but those of exit nodes. -/
def Database.subnetRoutes (db : Database) (networkId : Uuid) : List AdvertisedRoute :=
  db.routes.select fun r => r.networkId = networkId ∧ r.isExitNode = false

/-- Different subnet routes of the network have no address in common. -/
def Database.NoOverlap (db : Database) (networkId : Uuid) : Prop :=
  ∀ r ∈ db.subnetRoutes networkId, ∀ r' ∈ db.subnetRoutes networkId, r ≠ r' →
    ∀ x, Covers r.pfx x → ¬ Covers r'.pfx x

/-- If the advertisement is accepted as a subnet route of the network, `check_overlap` finds no
route there that its prefix overlaps. -/
def StaysApart (networkId : Uuid) (db : Database) (c : AdvertiseCall) : Prop :=
  ∀ deviceId, c.advertiser db = .ok (deviceId, networkId) → c.Passes db networkId →
    c.req.isExitNode = false →
      checkOverlap ((db.subnetRoutes networkId).map (·.pfx)) c.req.pfx = none

theorem Database.mem_subnetRoutes {r : AdvertisedRoute} :
    r ∈ db.subnetRoutes networkId ↔
      r ∈ db.routes ∧ r.networkId = networkId ∧ r.isExitNode = false := by
  rw [Database.subnetRoutes, Table.mem_select, decide_eq_true_eq]

theorem mem_subnetRoutes_of_insert {r r' : AdvertisedRoute} {db' : Database}
    (h : db.routes.insert r = some db'.routes) :
    r' ∈ db'.subnetRoutes networkId ↔ r' ∈ db.subnetRoutes networkId ∨
      r' = r ∧ r.networkId = networkId ∧ r.isExitNode = false := by
  rw [Database.mem_subnetRoutes, Database.mem_subnetRoutes, Table.mem_insert h]
  constructor
  · rintro ⟨hmem | rfl, hcond⟩
    · exact .inl ⟨hmem, hcond⟩
    · exact .inr ⟨rfl, hcond⟩
  · rintro (⟨hmem, hcond⟩ | ⟨rfl, hcond⟩)
    · exact ⟨.inl hmem, hcond⟩
    · exact ⟨.inr rfl, hcond⟩

/-- **An advertisement that stays apart keeps the subnet routes disjoint.** -/
theorem advertise_noOverlap (h : db.NoOverlap networkId) (hok : StaysApart networkId db c) :
    (advertise db c).NoOverlap networkId := by
  rcases advertise_cases db c with ⟨deviceId, n, hfor, hpass, hinsert⟩ | ⟨-, heq⟩
  · have hnew : ∀ r ∈ db.subnetRoutes networkId, n = networkId → c.req.isExitNode = false →
        ∀ x, Covers c.req.pfx x → ¬ Covers r.pfx x := by
      rintro r hr rfl hexit
      exact checkOverlap_eq_none_iff.1 (hok deviceId hfor hpass hexit) _ (List.mem_map_of_mem hr)
    intro r hr r' hr' hne x hx hx'
    rcases (mem_subnetRoutes_of_insert hinsert).1 hr with hr | ⟨rfl, hnet, hexit⟩
    · rcases (mem_subnetRoutes_of_insert hinsert).1 hr' with hr' | ⟨rfl, hnet, hexit⟩
      · exact h r hr r' hr' hne x hx hx'
      · exact hnew r hr hnet hexit x hx' hx
    · rcases (mem_subnetRoutes_of_insert hinsert).1 hr' with hr' | ⟨rfl, -, -⟩
      · exact hnew r' hr' hnet hexit x hx hx'
      · exact hne rfl
  · rw [heq]
    exact h

theorem advertise_overlap (hbad : ¬ StaysApart networkId db c) :
    ¬ (advertise db c).NoOverlap networkId := by
  simp only [StaysApart, not_forall] at hbad
  obtain ⟨deviceId, hfor, hpass, hexit, hfound⟩ := hbad
  rw [checkOverlap_eq_none_iff] at hfound
  push Not at hfound
  obtain ⟨pfx, hpfx, x, hx, hx'⟩ := hfound
  obtain ⟨r, hr, rfl⟩ := List.mem_map.1 hpfx
  rcases advertise_cases db c with ⟨deviceId', n, hfor', -, hinsert⟩ | ⟨hrefused, -⟩
  · obtain ⟨rfl, rfl⟩ : deviceId = deviceId' ∧ networkId = n := by
      simpa using hfor.symm.trans hfor'
    intro hapart
    refine hapart (c.row deviceId networkId) ((mem_subnetRoutes_of_insert hinsert).2
      (.inr ⟨rfl, rfl, hexit⟩)) r ((mem_subnetRoutes_of_insert hinsert).2 (.inl hr)) ?_ x hx hx'
    rintro rfl
    exact (Table.insert_eq_some hinsert).2 _ (Database.mem_subnetRoutes.1 hr).1 rfl
  · exact absurd hpass (hrefused deviceId networkId hfor)

/-- **The subnet routes of a network are disjoint all along a run exactly if `check_overlap` finds
nothing for any prefix that is accepted there.** -/
theorem no_overlap_iff (hstart : ∀ r ∈ db.routes, r.networkId ≠ networkId)
    (calls : List AdvertiseCall) :
    (∀ pre, pre <+: calls → (run advertise db pre).NoOverlap networkId) ↔
      Admissible advertise (StaysApart networkId) db calls := by
  have hempty : db.NoOverlap networkId := fun r hr => by
    obtain ⟨hmem, hnet, -⟩ := Database.mem_subnetRoutes.1 hr
    exact absurd hnet (hstart r hmem)
  have hkeeps : ∀ (db : Database) (call : AdvertiseCall), db.NoOverlap networkId →
      StaysApart networkId db call → (advertise db call).NoOverlap networkId :=
    fun _ _ => advertise_noOverlap
  have hbreaks : ∀ (db : Database) (call : AdvertiseCall), db.NoOverlap networkId →
      ¬ StaysApart networkId db call → ¬ (advertise db call).NoOverlap networkId :=
    fun _ _ _ => advertise_overlap
  constructor
  · exact admissible_of_forall_prefix advertise (P := fun db => db.NoOverlap networkId) hkeeps
      hbreaks hempty
  · exact fun hcalls pre hpre =>
      run_invariant_of_admissible advertise hkeeps hempty (hcalls.of_prefix advertise hpre)

end

/-! ### Two gateways -/

/-- A network with two devices that may advertise. -/
def gateways : Database where
  networks := .ofRows [{ id := Uuid.ofNat 60, name := "site", subnet := "10.6.0.0/24" }]
    (List.nodup_singleton _)
  devices := .ofRows [
    { id := Uuid.ofNat 61, name := "north", networkId := Uuid.ofNat 60
      deviceTokenHash := some "hash:north" },
    { id := Uuid.ofNat 62, name := "south", networkId := Uuid.ofNat 60
      deviceTokenHash := some "hash:south" }]
    (by decide : [Uuid.ofNat 61, Uuid.ofNat 62].Nodup)

/-- The `n`-th route that a gateway advertises. -/
def gatewayRoute (n : ℕ) (token : String) (deviceId : ℕ) (pfx : String) : AdvertiseCall where
  env := plainEnv
  entropy :=
    { rowId := Uuid.ofNat n, serverId := Uuid.ofNat n, keyPair := ⟨"", ""⟩, nonce := ""
      rawPrefix := "", secret := "", salt := "", preauthText := "" }
  advertisement := .byDevice token (Uuid.ofNat deviceId)
  req := { pfx := pfx }

/-- Two gateways advertise networks side by side. -/
theorem no_overlap_iff_gateways :
    (run advertise gateways [gatewayRoute 63 "north" 61 "192.168.1.0/24",
        gatewayRoute 64 "south" 62 "192.168.2.0/24"]).routes.rows.length = 2 ∧
      ∀ pre, pre <+: [gatewayRoute 63 "north" 61 "192.168.1.0/24",
          gatewayRoute 64 "south" 62 "192.168.2.0/24"] →
        (run advertise gateways pre).NoOverlap (Uuid.ofNat 60) := by
  refine ⟨by decide, (no_overlap_iff (by decide) _).2
    ⟨fun _ _ _ _ => ?_, fun _ _ _ _ => ?_, trivial⟩⟩
  · decide
  · decide

/-- The second gateway advertises a network inside that of the first one. -/
theorem nested_routes_accepted :
    (∀ r ∈ gateways.routes, r.networkId ≠ Uuid.ofNat 60) ∧
    ((run advertise gateways [gatewayRoute 63 "north" 61 "192.168.0.0/16",
        gatewayRoute 64 "south" 62 "192.168.1.0/24"]).subnetRoutes (Uuid.ofNat 60)).map
          (fun r => (r.deviceId, r.pfx)) =
      [(Uuid.ofNat 61, "192.168.0.0/16"), (Uuid.ofNat 62, "192.168.1.0/24")] ∧
    ¬ (run advertise gateways [gatewayRoute 63 "north" 61 "192.168.0.0/16",
        gatewayRoute 64 "south" 62 "192.168.1.0/24"]).NoOverlap (Uuid.ofNat 60) := by
  refine ⟨by decide, by decide, fun hapart => ?_⟩
  have hroute : ∀ p ∈ [(Uuid.ofNat 61, "192.168.0.0/16"), (Uuid.ofNat 62, "192.168.1.0/24")],
      ∃ r ∈ (run advertise gateways [gatewayRoute 63 "north" 61 "192.168.0.0/16",
        gatewayRoute 64 "south" 62 "192.168.1.0/24"]).subnetRoutes (Uuid.ofNat 60),
          (r.deviceId, r.pfx) = p := by decide
  obtain ⟨r, hr, heq⟩ := hroute _ List.mem_cons_self
  obtain ⟨r', hr', heq'⟩ := hroute _ (List.mem_cons_of_mem _ List.mem_cons_self)
  simp only [Prod.mk.injEq] at heq heq'
  refine hapart r hr r' hr' ?_ (IPv4Address.ofOctets 192 168 1 9) ?_ ?_
  · rintro rfl
    exact absurd (heq.1.symm.trans heq'.1) (by decide)
  · rw [heq.2]
    exact ⟨IPv4Network.ofAddress (IPv4Address.ofOctets 192 168 0 0) 16, by decide, by decide⟩
  · rw [heq'.2]
    exact ⟨IPv4Network.ofAddress (IPv4Address.ofOctets 192 168 1 0) 24, by decide, by decide⟩

end Midscale
