import Midscale.Api.Endpoints
import Midscale.Run.Basic
import Midscale.Topology.ExitNodes
import Midscale.Topology.Snapshot

/-!
# Exit nodes

A device sends all its traffic to another one when its plan has a default route there.  That is to
happen when it selected the other device and that one has an approved exit route; `update_device`
selects without looking at routes, and an approval is revoked without looking at selections.

* `Database.DefaultRoutesRight` : a default route leads to a device exactly if that is selected and
  approved.
* `Database.LeadsTo` : where the rows of a database let default routes lead.
* `sendsAllTo_iff` : that is where they lead in the plans.
* `exitsInOrder_iff_of_distinct` : what it means that they are in order where keys are distinct.
* `default_routes_iff` : **in every state of a run the default routes are right exactly if the exits
  are in order.**
-/

namespace Midscale

/-! ### What is to hold -/

namespace Database

variable (db : Database) (networkId : Uuid)

/-- The device is the one that the generators take for the hub. -/
def IsHub (d : Device) : Prop := (db.buildDeviceStates networkId).2 = some d.id.str

instance (d : Device) : Decidable (db.IsHub networkId d) := inferInstanceAs (Decidable (_ = _))

/-- The device has an exit route in the network that is approved and enabled. -/
def HasExitRoute (deviceId : Uuid) : Prop :=
  ∃ r ∈ db.approvedRoutes networkId, r.deviceId = deviceId ∧ r.isExitNode = true

instance (deviceId : Uuid) : Decidable (db.HasExitRoute networkId deviceId) :=
  inferInstanceAs (Decidable (∃ r ∈ db.approvedRoutes networkId, _))

/-- The device has a default route in the network that is approved and enabled. -/
def HasDefaultRoute (deviceId : Uuid) : Prop :=
  ∃ r ∈ db.approvedRoutes networkId, r.deviceId = deviceId ∧ r.pfx ∈ defaultRoutes

instance (deviceId : Uuid) : Decidable (db.HasDefaultRoute networkId deviceId) :=
  inferInstanceAs (Decidable (∃ r ∈ db.approvedRoutes networkId, _))

/-- **A default route leads to a device exactly if that is selected and approved**, in the plan of
every active device but the hub. -/
def DefaultRoutesRight (settings : Settings) (t : TopologyType) (network : Network) : Prop :=
  ∀ d ∈ db.plannedDevices network.id, ¬ db.IsHub network.id d →
    ∀ x ∈ db.devices, x.networkId = network.id → x.id ≠ d.id →
      ((∃ key ∈ x.publicKey,
          (t.generatePlan settings (db.planInput network d.state)).SendsAllTo key) ↔
        d.exitNodeId = some x.id ∧ db.HasExitRoute network.id x.id)

/-- The device selected itself, and no other device of the snapshot has its key. -/
def SelectsItself (d : Device) (key : String) : Prop :=
  d.exitNodeId = some d.id ∧ d.publicKey = some key ∧ key ≠ "" ∧
    ∀ y ∈ db.plannedDevices networkId, y.id ≠ d.id → y.publicKey ≠ some key

instance (d : Device) (key : String) : Decidable (db.SelectsItself networkId d key) :=
  inferInstanceAs (Decidable (_ ∧ _ ∧ _ ∧ ∀ y ∈ db.plannedDevices networkId, _))

/-- A default route leads from the device to the key: in a star if it is the key of the active hub
and the subnet is a default route, or of the selected client; in the other topologies if it is the
key of another active device with an approved default route, where the hub of a hybrid network has
the subnet instead, or of a device that selected itself. -/
def LeadsTo (network : Network) (d : Device) (key : String) : TopologyType → Prop
  | .star => ∃ hub ∈ db.plannedDevices network.id, db.IsHub network.id hub ∧
      (hub.publicKey = some key ∧ network.subnet ∈ defaultRoutes ∨
        ∃ e ∈ db.plannedDevices network.id, d.exitNodeId = some e.id ∧ ¬ db.IsHub network.id e ∧
          e.publicKey = some key ∧ key ≠ "" ∧ hub.publicKey ≠ some key)
  | .mesh =>
      (∃ y ∈ db.plannedDevices network.id, y.id ≠ d.id ∧ y.publicKey = some key ∧
        db.HasDefaultRoute network.id y.id) ∨ db.SelectsItself network.id d key
  | .hybrid =>
      (∃ y ∈ db.plannedDevices network.id, y.id ≠ d.id ∧ y.publicKey = some key ∧
        if db.IsHub network.id y then network.subnet ∈ defaultRoutes
        else db.HasDefaultRoute network.id y.id) ∨ db.SelectsItself network.id d key

instance (network : Network) (d : Device) (key : String) :
    ∀ t, Decidable (db.LeadsTo network d key t)
  | .star => inferInstanceAs (Decidable (∃ hub ∈ db.plannedDevices network.id, _))
  | .mesh => inferInstanceAs (Decidable (_ ∨ _))
  | .hybrid => inferInstanceAs (Decidable (_ ∨ _))

/-- A selected device has an approved exit route exactly if a default route leads to it, and no
default route leads to a device that is not selected. -/
def ExitsInOrder (network : Network) (t : TopologyType) : Prop :=
  ∀ d ∈ db.plannedDevices network.id, ¬ db.IsHub network.id d →
    ∀ x ∈ db.devices, x.networkId = network.id → x.id ≠ d.id →
      (d.exitNodeId = some x.id →
        (db.HasExitRoute network.id x.id ↔ ∃ key ∈ x.publicKey, db.LeadsTo network d key t)) ∧
      (d.exitNodeId ≠ some x.id → ∀ key ∈ x.publicKey, ¬ db.LeadsTo network d key t)

instance (network : Network) (t : TopologyType) : Decidable (db.ExitsInOrder network t) :=
  inferInstanceAs (Decidable (∀ d ∈ db.plannedDevices network.id, _))

/-- A default route can lead to the device: in a star to a client with a key, in the other
topologies to an active device with an approved default route, in a hybrid network not to the
hub. -/
def CanLeadTo (x : Device) : TopologyType → Prop
  | .star => (∃ hub ∈ db.plannedDevices networkId, db.IsHub networkId hub) ∧
      x ∈ db.plannedDevices networkId ∧ ¬ db.IsHub networkId x ∧ x.publicKey ≠ some ""
  | .mesh => x ∈ db.plannedDevices networkId ∧ db.HasDefaultRoute networkId x.id
  | .hybrid => x ∈ db.plannedDevices networkId ∧ ¬ db.IsHub networkId x ∧
      db.HasDefaultRoute networkId x.id

/-- No two devices of the network have the same public key. -/
def KeysDistinct : Prop :=
  ∀ d ∈ db.devices, ∀ d' ∈ db.devices, d.networkId = networkId → d'.networkId = networkId →
    d.publicKey.isSome = true → d.publicKey = d'.publicKey → d.id = d'.id

end Database

/-! ### The plans of a state -/

section

variable {db : Database} {network : Network} {settings : Settings} {d x : Device}

theorem Database.mem_routes_planInput {current : DeviceState} :
    (∃ s ∈ (db.planInput network current).routesByDevice.getD x.id.str [], s ∈ defaultRoutes) ↔
      db.HasDefaultRoute network.id x.id := by
  rw [Database.planInput, Database.routesOf_eq]
  constructor
  · rintro ⟨s, hs, hdefault⟩
    obtain ⟨r, hr, rfl⟩ := List.mem_map.1 hs
    obtain ⟨hr, hid⟩ := List.mem_filter.1 hr
    exact ⟨r, hr, Uuid.str_inj.1 (of_decide_eq_true hid), hdefault⟩
  · rintro ⟨r, hr, hid, hdefault⟩
    exact ⟨r.pfx, List.mem_map_of_mem (List.mem_filter.2
      ⟨hr, decide_eq_true (congrArg Uuid.str hid)⟩), hdefault⟩

theorem Database.serverDeviceId_eq_iff {current : DeviceState} :
    x.id.str = (db.planInput network current).serverDeviceId ↔ db.IsHub network.id x := by
  rw [Database.planInput, Database.IsHub]
  exact Uuid.str_eq_getD_iff

theorem Database.client (hd : d ∈ db.plannedDevices network.id)
    (hhub : ¬ db.IsHub network.id d) : (db.planInput network d.state).Client where
  ids_nodup := by
    change ((db.plannedDevices network.id).map Device.state |>.map (·.id)).Nodup
    rw [List.map_map]
    have hnodup : (db.devices.rows.map (·.id)).Nodup := db.devices.pk_nodup
    exact (List.Nodup.of_map _ hnodup |>.filter _).map_on fun a ha b hb hab =>
      db.devices.eq_of_pk (List.mem_filter.1 ha).1 (List.mem_filter.1 hb).1 (Uuid.str_inj.1 hab)
  device_mem := List.mem_map_of_mem hd
  not_hub := fun hid => hhub (Database.serverDeviceId_eq_iff.1 hid)

theorem Device.state_publicKey_eq_iff (hx : x ∈ db.plannedDevices network.id) {key : String} :
    x.state.publicKey = key ↔ x.publicKey = some key := by
  obtain ⟨k, hk⟩ := Option.isSome_iff_exists.1 (Database.mem_plannedDevices.1 hx).2.2.2.1
  rw [Device.state, hk, Option.getD_some, Option.some.injEq]

theorem Database.exists_state_iff {current : DeviceState} {P : DeviceState → Prop} :
    (∃ s ∈ (db.planInput network current).allDevices, P s) ↔
      ∃ y ∈ db.plannedDevices network.id, P y.state := by
  constructor
  · rintro ⟨s, hs, hp⟩
    obtain ⟨y, hy, rfl⟩ := List.mem_map.1 hs
    exact ⟨y, hy, hp⟩
  · rintro ⟨y, hy, hp⟩
    exact ⟨y.state, List.mem_map_of_mem hy, hp⟩

theorem Database.selectsItself_iff (hd : d ∈ db.plannedDevices network.id) {key : String} :
    (db.planInput network d.state).SelectsItself key ↔ db.SelectsItself network.id d key := by
  have hothers : (∀ s ∈ (db.planInput network d.state).allDevices, s.id ≠ d.id.str →
      s.publicKey ≠ key) ↔
        ∀ y ∈ db.plannedDevices network.id, y.id ≠ d.id → y.publicKey ≠ some key := by
    refine List.forall_mem_map.trans (forall₂_congr fun y hy => ?_)
    exact imp_congr (not_congr Uuid.str_inj) (not_congr (Device.state_publicKey_eq_iff hy))
  refine (and_congr Device.state_exitNodeId_eq_iff (and_iff_right d.id.str_ne_empty)).trans ?_
  exact and_congr_right fun _ => and_congr (Device.state_publicKey_eq_iff hd)
    (and_congr_right fun _ => hothers)

/-- **Where the default routes of a plan lead.** -/
theorem sendsAllTo_iff (t : TopologyType) (hd : d ∈ db.plannedDevices network.id)
    (hhub : ¬ db.IsHub network.id d) {key : String} :
    (t.generatePlan settings (db.planInput network d.state)).SendsAllTo key ↔
      db.LeadsTo network d key t := by
  have hclient := Database.client hd hhub
  cases t with
  | star =>
    refine (star_sendsAllTo_iff settings hclient).trans (Database.exists_state_iff.trans ?_)
    refine exists_congr fun hub => and_congr_right fun hhubmem => ?_
    refine and_congr Database.serverDeviceId_eq_iff
      (or_congr ?_ (Database.exists_state_iff.trans ?_))
    · exact and_congr_left' (Device.state_publicKey_eq_iff hhubmem)
    · refine exists_congr fun e => and_congr_right fun he => ?_
      refine and_congr Device.state_exitNodeId_eq_iff
        (and_congr (not_congr Database.serverDeviceId_eq_iff) ?_)
      refine (and_iff_right e.id.str_ne_empty).trans (and_congr (Device.state_publicKey_eq_iff he)
        (and_congr_right fun _ => not_congr (Device.state_publicKey_eq_iff hhubmem)))
  | mesh =>
    refine (mesh_sendsAllTo_iff settings hclient).trans
      (or_congr (Database.exists_state_iff.trans ?_) (Database.selectsItself_iff hd))
    refine exists_congr fun y => and_congr_right fun hy => and_congr (not_congr Uuid.str_inj) ?_
    exact and_congr (Device.state_publicKey_eq_iff hy) Database.mem_routes_planInput
  | hybrid =>
    refine (hybrid_sendsAllTo_iff settings hclient).trans
      (or_congr (Database.exists_state_iff.trans ?_) (Database.selectsItself_iff hd))
    refine exists_congr fun y => and_congr_right fun hy => and_congr (not_congr Uuid.str_inj) ?_
    refine and_congr (Device.state_publicKey_eq_iff hy) ?_
    exact iff_of_eq (if_congr Database.serverDeviceId_eq_iff rfl
      (propext Database.mem_routes_planInput))

theorem defaultRoutesRight_iff (t : TopologyType) :
    db.DefaultRoutesRight settings t network ↔ db.ExitsInOrder network t := by
  refine forall₂_congr fun d hd => forall_congr' fun hhub => forall₂_congr fun x hx =>
    forall₂_congr fun hnet hne => ?_
  simp only [sendsAllTo_iff t hd hhub]
  by_cases hsel : d.exitNodeId = some x.id
  · simp only [hsel, true_and, true_imp_iff, ne_eq, not_true_eq_false, false_imp_iff, and_true]
    exact Iff.comm
  · simp only [hsel, false_and, iff_false, false_imp_iff, ne_eq, not_false_eq_true, true_imp_iff,
      true_and, not_exists, not_and]

theorem Database.KeysDistinct.eq_of_key (hkeys : db.KeysDistinct network.id)
    (hx : x ∈ db.devices) (hnet : x.networkId = network.id) {key : String}
    (hxkey : x.publicKey = some key) {y : Device} (hy : y ∈ db.plannedDevices network.id)
    (hykey : y.publicKey = some key) : y = x := by
  obtain ⟨hymem, hynet, -, hysome, -⟩ := Database.mem_plannedDevices.1 hy
  exact db.devices.eq_of_pk hymem hx
    (hkeys y hymem x hx hynet hnet hysome (hykey.trans hxkey.symm))

/-- Where keys are distinct and the subnet is no default route, a default route leads to the devices
that it can lead to, in a star to the selected one of them. -/
theorem leadsTo_iff_of_distinct (hkeys : db.KeysDistinct network.id)
    (hsubnet : network.subnet ∉ defaultRoutes) (t : TopologyType)
    (hd : d ∈ db.plannedDevices network.id) (hx : x ∈ db.devices)
    (hnet : x.networkId = network.id) (hne : x.id ≠ d.id) :
    (∃ key ∈ x.publicKey, db.LeadsTo network d key t) ↔
      db.CanLeadTo network.id x t ∧ (t = .star → d.exitNodeId = some x.id) := by
  have hself : ∀ {key}, x.publicKey = some key → ¬ db.SelectsItself network.id d key :=
    fun hxkey hsel => hne (hkeys.eq_of_key hx hnet hxkey hd hsel.2.1 ▸ rfl)
  have hkey : x ∈ db.plannedDevices network.id → ∃ key, x.publicKey = some key := fun hplanned =>
    Option.isSome_iff_exists.1 (Database.mem_plannedDevices.1 hplanned).2.2.2.1
  constructor
  · rintro ⟨key, hxkey, hleads⟩
    cases t with
    | star =>
      obtain ⟨hub, hhub, hid, ⟨-, hdefault⟩ | ⟨e, he, hsel, hnot, hekey, hempty, -⟩⟩ := hleads
      · exact absurd hdefault hsubnet
      · obtain rfl := hkeys.eq_of_key hx hnet hxkey he hekey
        refine ⟨⟨⟨hub, hhub, hid⟩, he, hnot, fun h => hempty ?_⟩, fun _ => hsel⟩
        exact Option.some.inj (hekey.symm.trans h)
    | mesh =>
      rcases hleads with ⟨y, hy, -, hykey, hroute⟩ | hsel
      · obtain rfl := hkeys.eq_of_key hx hnet hxkey hy hykey
        exact ⟨⟨hy, hroute⟩, fun h => by cases h⟩
      · exact absurd hsel (hself hxkey)
    | hybrid =>
      rcases hleads with ⟨y, hy, -, hykey, hroute⟩ | hsel
      · obtain rfl := hkeys.eq_of_key hx hnet hxkey hy hykey
        split_ifs at hroute with hhub
        · exact absurd hroute hsubnet
        · exact ⟨⟨hy, hhub, hroute⟩, fun h => by cases h⟩
      · exact absurd hsel (hself hxkey)
  · rintro ⟨hcan, hsel⟩
    cases t with
    | star =>
      obtain ⟨⟨hub, hhub, hid⟩, hplanned, hnot, hempty⟩ := hcan
      obtain ⟨key, hxkey⟩ := hkey hplanned
      refine ⟨key, hxkey, hub, hhub, hid, .inr ⟨x, hplanned, hsel rfl, hnot, hxkey,
        fun h => hempty (hxkey.trans (congrArg some h)), fun hhubkey => hnot ?_⟩⟩
      exact hkeys.eq_of_key hx hnet hxkey hhub hhubkey ▸ hid
    | mesh =>
      obtain ⟨hplanned, hroute⟩ := hcan
      obtain ⟨key, hxkey⟩ := hkey hplanned
      exact ⟨key, hxkey, .inl ⟨x, hplanned, hne, hxkey, hroute⟩⟩
    | hybrid =>
      obtain ⟨hplanned, hnot, hroute⟩ := hcan
      obtain ⟨key, hxkey⟩ := hkey hplanned
      refine ⟨key, hxkey, .inl ⟨x, hplanned, hne, hxkey, ?_⟩⟩
      rwa [if_neg hnot]

/-- Where keys are distinct and the subnet is no default route, the exits are in order if a selected
device has an approved exit route exactly if a default route can lead to it, and if outside of a
star a default route can lead to selected devices only. -/
theorem exitsInOrder_iff_of_distinct (hkeys : db.KeysDistinct network.id)
    (hsubnet : network.subnet ∉ defaultRoutes) (t : TopologyType) :
    db.ExitsInOrder network t ↔
      ∀ d ∈ db.plannedDevices network.id, ¬ db.IsHub network.id d →
        ∀ x ∈ db.devices, x.networkId = network.id → x.id ≠ d.id →
          (d.exitNodeId = some x.id →
            (db.HasExitRoute network.id x.id ↔ db.CanLeadTo network.id x t)) ∧
          (t ≠ .star → db.CanLeadTo network.id x t → d.exitNodeId = some x.id) := by
  refine forall₂_congr fun d hd => forall_congr' fun hhub => forall₂_congr fun x hx =>
    forall₂_congr fun hnet hne => ?_
  have hleads := leadsTo_iff_of_distinct hkeys hsubnet t hd hx hnet hne
  by_cases hsel : d.exitNodeId = some x.id
  · simp only [hleads, hsel, true_imp_iff, implies_true, and_true, ne_eq, not_true_eq_false,
      false_imp_iff]
  · have hnone : (∀ key ∈ x.publicKey, ¬ db.LeadsTo network d key t) ↔
        ¬ ∃ key ∈ x.publicKey, db.LeadsTo network d key t := by
      simp only [not_exists, not_and]
    simp only [hnone, hleads, hsel, false_imp_iff, true_and, ne_eq, not_false_eq_true,
      true_imp_iff, imp_false, not_and]
    exact ⟨fun h ht hcan => h hcan ht, fun h hcan ht => h ht hcan⟩

end

/-! ### Runs -/

/-- **In every state of a run the default routes are right exactly if the exits are in order**, in
every topology. -/
theorem default_routes_iff (settings : Settings) (t : TopologyType) (db : Database)
    (network : Network) (calls : List ApiCall) :
    (run serveApi db calls).DefaultRoutesRight settings t network ↔
      (run serveApi db calls).ExitsInOrder network t :=
  defaultRoutesRight_iff t

/-! ### An office with an attic -/

/-- The network of the office. -/
def atticNetwork : Network where
  id := Uuid.ofNat 50
  name := "attic"
  subnet := "10.5.0.0/24"
  ownerId := some (Uuid.ofNat 1)

/-- A hub, a desk and a box in the attic. -/
def atticOffice : Database where
  users := .ofRows [{ id := Uuid.ofNat 1 }] (List.nodup_singleton _)
  networks := .ofRows [atticNetwork] (List.nodup_singleton _)
  devices := .ofRows [
    { id := Uuid.ofNat 51, name := serverName, networkId := Uuid.ofNat 50
      publicKey := some "key-door", ipAddress := some "10.5.0.1" },
    { id := Uuid.ofNat 52, name := "desk", networkId := Uuid.ofNat 50
      publicKey := some "key-desk", ipAddress := some "10.5.0.2" },
    { id := Uuid.ofNat 53, name := "box", networkId := Uuid.ofNat 50
      publicKey := some "key-box", ipAddress := some "10.5.0.3"
      deviceTokenHash := some "hash:box" }]
    (by decide : [Uuid.ofNat 51, Uuid.ofNat 52, Uuid.ofNat 53].Nodup)

/-- A request in the office, where `jwt` is the access token of its owner. -/
def atticCall (request : ApiRequest) : ApiCall where
  env := { plainEnv with
    security := plainSecurity [
      ("jwt", (Dict.empty.set "sub" (.str "00000000-0000-0000-0000-000000000001")).set "type"
        (.str "access"))] }
  entropy :=
    { rowId := Uuid.ofNat 54, serverId := Uuid.ofNat 54, keyPair := ⟨"", ""⟩, nonce := ""
      rawPrefix := "", secret := "", salt := "", preauthText := "" }
  request := request

/-- The box advertises a default route, and the owner approves it. -/
def approveBox : List ApiCall :=
  [atticCall (.deviceAdvertiseRoute "box" (Uuid.ofNat 53)
      { pfx := "0.0.0.0/0", isExitNode := true }),
    atticCall (.approveRoute "jwt" (Uuid.ofNat 54) {})]

/-- The owner selects the box for the desk. -/
def selectBox : List ApiCall :=
  [atticCall (.device (.updateDevice "jwt" (Uuid.ofNat 52) { exitNodeId := some (Uuid.ofNat 53) }))]

/-- In a star the desk may select the box once that is approved. -/
theorem default_routes_iff_attic :
    (run serveApi atticOffice (approveBox ++ selectBox)).DefaultRoutesRight {} .star
      atticNetwork :=
  (default_routes_iff {} .star atticOffice atticNetwork (approveBox ++ selectBox)).2
    (by decide +kernel)

/-- In a star a box that nobody approved gets the desk's traffic, and in a mesh a box that nobody
selected. -/
theorem unapproved_and_unselected_exits :
    ((run serveApi atticOffice selectBox).routes.rows = [] ∧
      ∃ d ∈ (run serveApi atticOffice selectBox).plannedDevices (Uuid.ofNat 50),
        d.id = Uuid.ofNat 52 ∧ (StarTopologyGenerator.generatePlan {}
          ((run serveApi atticOffice selectBox).planInput atticNetwork d.state)).SendsAllTo
            "key-box") ∧
    ¬ (run serveApi atticOffice selectBox).DefaultRoutesRight {} .star atticNetwork ∧
    (∃ d ∈ (run serveApi atticOffice approveBox).plannedDevices (Uuid.ofNat 50),
        d.id = Uuid.ofNat 52 ∧ d.exitNodeId = none ∧ (MeshTopologyGenerator.generatePlan {}
          ((run serveApi atticOffice approveBox).planInput atticNetwork d.state)).SendsAllTo
            "key-box") ∧
    ¬ (run serveApi atticOffice approveBox).DefaultRoutesRight {} .mesh atticNetwork := by
  refine ⟨by decide +kernel, ?_, by decide +kernel, ?_⟩
  · rw [defaultRoutesRight_iff]
    decide +kernel
  · rw [defaultRoutesRight_iff]
    decide +kernel

end Midscale
