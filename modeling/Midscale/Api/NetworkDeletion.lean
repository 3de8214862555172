import Midscale.Api.Addresses
import Midscale.Api.Sessions
import Midscale.Api.Tenancy

/-!
# Deleting a network

The models of a network name four kinds of rows that go with it: devices, rules, DNS entries and
keys.  Routes, endpoints, NAT and relay sessions refer to the network or to its devices as well, and
devices refer to each other as exit nodes.  A foreign key rejects the deletion of a row that is
referred to, so whether a network can be deleted depends on what its devices have done.

* `Database.exists_foldlM_deleteDevice_iff` : when devices can be deleted one after another.
* `deletionWorks_iff` : **a deletion works exactly if nothing refers to what it deletes.**
* `networks_deletable_iff` : that in every state of every run, and runs in which nothing is
  advertised, reported, punched, relayed or selected.
-/

namespace Midscale

/-! ### The order of ids -/

theorem Uuid.foldl_digits_inj {l l' : List (Fin 16)} (hlen : l.length = l'.length) {n n' : ℕ}
    (h : l.foldl (fun (n : ℕ) (d : Fin 16) => 16 * n + d) n =
      l'.foldl (fun (n : ℕ) (d : Fin 16) => 16 * n + d) n') : n = n' ∧ l = l' := by
  induction l generalizing l' n n' with
  | nil =>
    obtain rfl := List.eq_nil_of_length_eq_zero hlen.symm
    exact ⟨h, rfl⟩
  | cons d l ih =>
    obtain ⟨d', l', rfl⟩ := List.exists_cons_of_length_eq_add_one hlen.symm
    obtain ⟨hdigit, rfl⟩ := ih (Nat.succ.inj hlen) h
    change 16 * n + (d : ℕ) = 16 * n' + (d' : ℕ) at hdigit
    have hd : d = d' := Fin.ext (by omega)
    exact ⟨by omega, by rw [hd]⟩

theorem Uuid.toNat_eq_foldl (u : Uuid) :
    u.toNat = u.digits.foldl (fun (n : ℕ) (d : Fin 16) => 16 * n + d) 0 := by
  have hmap : (u.digits >>= fun d => pure (d : ℕ)) = u.digits.map Fin.val :=
    List.flatMap_pure_eq_map _ _
  rw [toNat, hmap, List.foldl_map]

theorem Uuid.toNat_injective : Function.Injective Uuid.toNat := by
  intro u u' h
  rw [toNat_eq_foldl, toNat_eq_foldl] at h
  have hdigits := (@foldl_digits_inj _ _ (u.length_eq.trans u'.length_eq.symm) 0 0 h).2
  cases u
  cases u'
  simpa using hdigits

/-! ### What is to hold -/

namespace Database

variable (db : Database)

/-- No row but a device refers to the device. -/
structure Unused (deviceId : Uuid) : Prop where
  routes : ∀ r ∈ db.routes, r.deviceId ≠ deviceId
  endpoints : ∀ e ∈ db.endpoints, e.deviceId ≠ deviceId
  natSessions : ∀ s ∈ db.natSessions, s.initiatorDeviceId ≠ deviceId ∧ s.targetDeviceId ≠ deviceId
  relaySessions :
    ∀ s ∈ db.relaySessions, s.initiatorDeviceId ≠ deviceId ∧ s.targetDeviceId ≠ deviceId

/-- Nothing refers to the network, or to one of the devices that `before` had in it. -/
structure Forgets (before : Database) (networkId : Uuid) : Prop where
  networks : ∀ n ∈ db.networks, n.id ≠ networkId
  devices : ∀ d ∈ db.devices, d.networkId ≠ networkId ∧
    ∀ x ∈ before.devices, x.networkId = networkId → d.exitNodeId ≠ some x.id
  aclRules : ∀ r ∈ db.aclRules, r.networkId ≠ networkId
  dnsEntries : ∀ e ∈ db.dnsEntries, e.networkId ≠ networkId
  preauthKeys : ∀ k ∈ db.preauthKeys, k.networkId ≠ networkId
  routes : ∀ r ∈ db.routes, r.networkId ≠ networkId
  unused : ∀ x ∈ before.devices, x.networkId = networkId → db.Unused x.id

/-- The rows of other networks, and what belongs to no network, are as `before` had them. -/
structure KeepsOthers (before : Database) (networkId : Uuid) : Prop where
  rows : ∀ id, id ≠ networkId → db.rowsOf id = before.rowsOf id
  endpoints : db.endpoints = before.endpoints
  natSessions : db.natSessions = before.natSessions
  relaySessions : db.relaySessions = before.relaySessions

variable (env : Env) (token : String) (networkId : Uuid)

/-- The access token is one of the owner of the network. -/
def OwnerToken : Prop := ∃ user network, getCurrentUser env db token = .ok user ∧
  db.networks.get? networkId = some network ∧ network.ownerId = some user.id

/-- The network is deleted with everything that refers to it, and nothing else changes. -/
def DeletionWorks : Prop := ∃ db', deleteNetwork env db token networkId = .ok ((), db') ∧
  db'.Forgets db networkId ∧ db'.KeepsOthers db networkId

/-- No route, endpoint or session refers to the network or to a device of it, and who has a device
of it as exit node is deleted before that. -/
structure Deletable : Prop where
  unrouted : ∀ r ∈ db.routes, r.networkId ≠ networkId
  unused : ∀ x ∈ db.devices, x.networkId = networkId → db.Unused x.id
  exits : ∀ x ∈ db.devices, x.networkId = networkId → ∀ d ∈ db.devices,
    d.exitNodeId = some x.id → d.networkId = networkId ∧ d.id.toNat ≤ x.id.toNat

end Database

/-! ### One device after another -/

section

variable {env : Env} {db db' : Database} {token : String} {networkId : Uuid}

theorem Database.unreferenced_iff {deviceId : Uuid} : db.Unreferenced deviceId ↔
    (∀ d ∈ db.devices, d.id ≠ deviceId → d.exitNodeId ≠ some deviceId) ∧ db.Unused deviceId :=
  and_congr_right fun _ => ⟨fun ⟨h₁, h₂, h₃, h₄⟩ => ⟨h₁, h₂, h₃, h₄⟩,
    fun ⟨h₁, h₂, h₃, h₄⟩ => ⟨h₁, h₂, h₃, h₄⟩⟩

theorem Database.deleteDevice_eq_ok {deviceId : Uuid} : db.deleteDevice deviceId = .ok db' ↔
    db.Unreferenced deviceId ∧
      db' = { db with devices := db.devices.delete fun d => d.id = deviceId } := by
  simp only [deleteDevice, bind_eq_ok, ensure_eq_ok, Except.ok.injEq]
  constructor
  · rintro ⟨-, href, rfl⟩
    exact ⟨href, rfl⟩
  · rintro ⟨href, rfl⟩
    exact ⟨(), href, rfl⟩

/-- **When devices can be deleted one after another**: each is unused, and who has it as exit node
is deleted with it or before it. -/
theorem Database.exists_foldlM_deleteDevice_iff (db : Database) {ids : List Uuid}
    (hsorted : ids.Pairwise fun i j => i.toNat < j.toNat) :
    (∃ db', ids.foldlM Database.deleteDevice db = .ok db') ↔ ∀ i ∈ ids, db.Unused i ∧
      ∀ d ∈ db.devices, d.exitNodeId = some i → d.id ∈ ids ∧ d.id.toNat ≤ i.toNat := by
  induction ids generalizing db with
  | nil => exact iff_of_true ⟨db, rfl⟩ fun i hi => absurd hi List.not_mem_nil
  | cons j ids ih =>
    obtain ⟨hj, hrest⟩ := List.pairwise_cons.1 hsorted
    simp only [List.foldlM_cons, bind_eq_ok, deleteDevice_eq_ok]
    constructor
    · rintro ⟨db', _, ⟨href, rfl⟩, hfold⟩
      rw [unreferenced_iff] at href
      have hall := (ih _ hrest).1 ⟨db', hfold⟩
      intro i hi
      rcases List.mem_cons.1 hi with rfl | hi
      · refine ⟨href.2, fun d hd hexit => ?_⟩
        by_cases hid : d.id = i
        · exact ⟨hid ▸ List.mem_cons_self, le_of_eq (congrArg Uuid.toNat hid)⟩
        · exact absurd hexit (href.1 d hd hid)
      · obtain ⟨hunused, hexits⟩ := hall i hi
        refine ⟨⟨hunused.1, hunused.2, hunused.3, hunused.4⟩, fun d hd hexit => ?_⟩
        by_cases hid : d.id = j
        · exact ⟨hid ▸ List.mem_cons_self, le_of_lt (hid ▸ hj i hi)⟩
        · obtain ⟨hmem, hle⟩ := hexits d (Table.mem_delete.2 ⟨hd, decide_eq_false hid⟩) hexit
          exact ⟨List.mem_cons_of_mem _ hmem, hle⟩
    · intro hall
      obtain ⟨hunused, hexits⟩ := hall j List.mem_cons_self
      have href : db.Unreferenced j := by
        refine unreferenced_iff.2 ⟨fun d hd hne hexit => ?_, hunused⟩
        -- who is deleted after `j` does not have it as exit node
        obtain ⟨hmem, hle⟩ := hexits d hd hexit
        have hlt := hj d.id ((List.mem_cons.1 hmem).resolve_left hne)
        omega
      obtain ⟨db', hfold⟩ := (ih
        { db with devices := db.devices.delete fun d => d.id = j } hrest).2 fun i hi => by
          obtain ⟨hunused, hexits⟩ := hall i (List.mem_cons_of_mem _ hi)
          refine ⟨⟨hunused.1, hunused.2, hunused.3, hunused.4⟩, fun d hd hexit => ?_⟩
          obtain ⟨hd, hne⟩ := Table.mem_delete.1 hd
          obtain ⟨hmem, hle⟩ := hexits d hd hexit
          exact ⟨(List.mem_cons.1 hmem).resolve_left (of_decide_eq_false hne), hle⟩
      exact ⟨db', _, ⟨href, rfl⟩, hfold⟩

/-- The ids of the devices of a network, in the order in which these are deleted. -/
def Database.deletionOrder (db : Database) (networkId : Uuid) : List Uuid :=
  ((db.devices.select fun d => d.networkId = networkId).map (·.id)).insertionSort
    fun i j => i.toNat ≤ j.toNat

theorem Database.mem_deletionOrder {i : Uuid} :
    i ∈ db.deletionOrder networkId ↔ ∃ d ∈ db.devices, d.networkId = networkId ∧ d.id = i := by
  simp only [deletionOrder, List.mem_insertionSort, List.mem_map, Table.mem_select,
    decide_eq_true_eq, and_assoc]

theorem Database.pairwise_deletionOrder (db : Database) (networkId : Uuid) :
    (db.deletionOrder networkId).Pairwise fun i j => i.toNat < j.toNat := by
  have htotal : Std.Total fun i j : Uuid => i.toNat ≤ j.toNat :=
    ⟨fun i j => le_total i.toNat j.toNat⟩
  have htrans : IsTrans Uuid fun i j => i.toNat ≤ j.toNat := ⟨fun _ _ _ => le_trans⟩
  have hnodup : (db.deletionOrder networkId).Nodup :=
    (List.perm_insertionSort _ _).nodup_iff.2
      (db.devices.pk_nodup.sublist (List.filter_sublist.map _))
  refine ((List.pairwise_insertionSort (fun i j : Uuid => i.toNat ≤ j.toNat) _).and hnodup).imp ?_
  rintro i j ⟨hle, hne⟩
  exact lt_of_le_of_ne hle fun h => hne (Uuid.toNat_injective h)

/-! ### Deletions -/

/-- A deletion by the owner succeeds exactly if the network is deletable. -/
theorem exists_deleteNetwork_iff (hby : db.OwnerToken env token networkId) :
    (∃ db', deleteNetwork env db token networkId = .ok ((), db')) ↔ db.Deletable networkId := by
  obtain ⟨user, network, huser, hnetwork, howner⟩ := hby
  have hrequire : requireNetworkOwner db networkId user = .ok network :=
    requireNetworkOwner_eq_ok.2 ⟨hnetwork, .inr howner⟩
  have hfold := Database.exists_foldlM_deleteDevice_iff
    (db.audit (user.did "network.delete" "network" networkId))
    (db.pairwise_deletionOrder networkId)
  constructor
  · rintro ⟨db', h⟩
    simp only [deleteNetwork, huser, hrequire, ok_bind, bind_eq_ok, ensure_eq_ok] at h
    obtain ⟨db₁, hdelete, -, hroutes, -⟩ := h
    have hall := hfold.1 ⟨db₁, hdelete⟩
    obtain ⟨rfl, -⟩ := Database.foldlM_deleteDevice hdelete
    refine ⟨hroutes, fun x hx hnet => ?_, fun x hx hnet d hd hexit => ?_⟩
    · have hunused := (hall x.id (Database.mem_deletionOrder.2 ⟨x, hx, hnet, rfl⟩)).1
      exact ⟨hunused.1, hunused.2, hunused.3, hunused.4⟩
    · obtain ⟨hmem, hle⟩ :=
        (hall x.id (Database.mem_deletionOrder.2 ⟨x, hx, hnet, rfl⟩)).2 d hd hexit
      obtain ⟨d', hd', hnet', hid⟩ := Database.mem_deletionOrder.1 hmem
      exact ⟨db.devices.eq_of_pk hd' hd hid ▸ hnet', hle⟩
  · intro h
    obtain ⟨db₁, hdelete⟩ := hfold.2 fun i hi => by
      obtain ⟨x, hx, hnet, rfl⟩ := Database.mem_deletionOrder.1 hi
      have hunused := h.unused x hx hnet
      refine ⟨⟨hunused.1, hunused.2, hunused.3, hunused.4⟩, fun d hd hexit => ?_⟩
      obtain ⟨hnet', hle⟩ := h.exits x hx hnet d hd hexit
      exact ⟨Database.mem_deletionOrder.2 ⟨d, hd, hnet', rfl⟩, hle⟩
    have hroutes : ∀ r ∈ db₁.routes, r.networkId ≠ networkId := by
      rw [(Database.foldlM_deleteDevice hdelete).1]
      exact h.unrouted
    simp only [deleteNetwork, huser, hrequire, ok_bind, bind_eq_ok, ensure_eq_ok]
    exact ⟨_, db₁, hdelete, (), hroutes, rfl⟩

/-- **A deletion works exactly if nothing refers to what it deletes**, but for what it deletes
before. -/
theorem deletionWorks_iff (hby : db.OwnerToken env token networkId) :
    db.DeletionWorks env token networkId ↔ db.Deletable networkId := by
  constructor
  · rintro ⟨db', h, -⟩
    exact (exists_deleteNetwork_iff hby).1 ⟨db', h⟩
  · intro hdel
    obtain ⟨db', h⟩ := (exists_deleteNetwork_iff hby).2 hdel
    obtain ⟨user, network, -, -, -, rfl⟩ := deleteNetwork_eq_ok h
    have hgone : ∀ {ρ : Type} [Row ρ Uuid] (t : Table ρ) (f : ρ → Uuid),
        ∀ r ∈ t.delete (fun r => f r = networkId), f r ≠ networkId := fun t f r hr =>
      of_decide_eq_false (Table.mem_delete.1 hr).2
    refine ⟨_, h, ⟨hgone _ Network.id, fun d hd => ?_, hgone _ ACLRule.networkId,
      hgone _ DNSEntry.networkId, hgone _ PreAuthKey.networkId, hdel.unrouted,
      fun x hx hnet => ?_⟩, ⟨fun id hid => ?_, rfl, rfl, rfl⟩⟩
    · have hnet := hgone db.devices Device.networkId d hd
      refine ⟨hnet, fun x hx hnet' hexit => hnet ?_⟩
      exact (hdel.exits x hx hnet' d (Table.mem_delete.1 hd).1 hexit).1
    · have hunused := hdel.unused x hx hnet
      exact ⟨hunused.1, hunused.2, hunused.3, hunused.4⟩
    · have hdelete : ∀ {ρ : Type} [Row ρ Uuid] (t : Table ρ) (f : ρ → Uuid),
          (t.delete fun r => f r = networkId).select (fun r => f r = id) =
            t.select fun r => f r = id := fun t f =>
        confined_delete (fun _ _ hr => of_decide_eq_true hr) id hid
      simp only [Database.rowsOf, Database.audit, hdelete]

end

/-! ### Runs -/

/-- A request of a user or of a device. -/
inductive ServerCall where
  | api (c : ApiCall)
  | device (c : DeviceCall)

/-- One request in its transaction. -/
def ServerCall.serve (db : Database) : ServerCall → Database
  | .api c => serveApi db c
  | .device c => serveDevice db c

/-- The request may make a row refer to a device. -/
def ApiRequest.links : ApiRequest → Bool
  | .device (.updateDevice _ _ req) => req.exitNodeId.isSome
  | .selectExitNode _ _ req => req.exitNodeId.isSome
  | .advertiseRoute .. | .deviceAdvertiseRoute .. => true
  | _ => false

/-- The request may make a row refer to a device. -/
def DeviceRequest.links : DeviceRequest → Bool
  | .reportEndpoint .. | .probeResult .. | .advertiseRoute .. | .requestPunch _
  | .requestRelay _ => true
  | _ => false

/-- The request may make a row refer to a device. -/
def ServerCall.links : ServerCall → Bool
  | .api c => c.request.links
  | .device c => c.request.links

/-- No row refers to a device. -/
structure Database.Unlinked (db : Database) : Prop where
  routes : ∀ r, r ∉ db.routes
  endpoints : ∀ e, e ∉ db.endpoints
  natSessions : ∀ s, s ∉ db.natSessions
  relaySessions : ∀ s, s ∉ db.relaySessions
  exits : ∀ d ∈ db.devices, d.exitNodeId = none

namespace Database.Unlinked

variable {db db' : Database} (h : db.Unlinked)
include h

theorem deletable (networkId : Uuid) : db.Deletable networkId where
  unrouted r hr := absurd hr (h.routes r)
  unused _ _ _ := ⟨fun r hr => absurd hr (h.routes r), fun e he => absurd he (h.endpoints e),
    fun s hs => absurd hs (h.natSessions s), fun s hs => absurd hs (h.relaySessions s)⟩
  exits x _ _ d hd hexit := by
    rw [h.exits d hd] at hexit
    cases hexit

theorem exits_insert {d : Device} {devices : Table Device}
    (hinsert : db.devices.insert d = some devices) (hd : d.exitNodeId = none) :
    ∀ x ∈ devices, x.exitNodeId = none := by
  intro x hx
  rcases (Table.mem_insert hinsert).1 hx with hx | rfl
  · exact h.exits x hx
  · exact hd

theorem exits_assign {now : Timestamp} {deviceId : Uuid} (f : Device → Device)
    (hf : ∀ d, (f d).id = d.id) (hexit : ∀ d, d.exitNodeId = none → (f d).exitNodeId = none) :
    ∀ x ∈ (db.assign now deviceId f hf).devices, x.exitNodeId = none := by
  intro x hx
  obtain ⟨d, hd, rfl⟩ := Database.mem_assign.1 hx
  have hnone := h.exits d hd
  split_ifs
  · rw [d.flushed_column now f Device.exitNodeId fun _ _ => rfl]
    exact hexit d hnone
  · exact hnone

theorem get?_natSessions (id : Uuid) : db.natSessions.get? id = none := by
  cases hs : db.natSessions.get? id with
  | none => rfl
  | some s => exact absurd (Table.get?_eq_some_iff.1 hs).1 (h.natSessions s)

theorem get?_relaySessions (id : Uuid) : db.relaySessions.get? id = none := by
  cases hs : db.relaySessions.get? id with
  | none => rfl
  | some s => exact absurd (Table.get?_eq_some_iff.1 hs).1 (h.relaySessions s)

/-- The requests about devices. -/
theorem call {c : Call} (hc : (ApiRequest.device c.request).links = false)
    (hok : c.handle db = .ok db') : db'.Unlinked := by
  obtain ⟨h₁, h₂, h₃, h₄, h₅⟩ := id h
  obtain ⟨env, e, request⟩ := c
  unfold Call.handle at hok
  cases request with
  | createNetwork token req =>
    obtain ⟨_, hok⟩ := snd_map_eq_ok.1 hok
    obtain ⟨_, _, _, _, _, -, -, -, -, -, hdevices, rfl⟩ := createNetwork_eq_ok hok
    exact ⟨h₁, h₂, h₃, h₄, h.exits_insert hdevices rfl⟩
  | updateNetwork token networkId req =>
    obtain ⟨_, hok⟩ := snd_map_eq_ok.1 hok
    obtain ⟨_, _, -, -, rfl⟩ := updateNetwork_eq_ok hok
    exact ⟨h₁, h₂, h₃, h₄, h₅⟩
  | createPreauthKey token networkId req =>
    obtain ⟨_, hok⟩ := snd_map_eq_ok.1 hok
    obtain ⟨_, _, _, -, -, -, -, rfl⟩ := createPreauthKey_eq_ok hok
    exact ⟨h₁, h₂, h₃, h₄, h₅⟩
  | createDevice token networkId req =>
    obtain ⟨_, hok⟩ := snd_map_eq_ok.1 hok
    obtain ⟨_, _, _, _, -, -, -, rfl, hdevices, rfl⟩ := createDevice_eq_ok hok
    exact ⟨h₁, h₂, h₃, h₄, h.exits_insert hdevices rfl⟩
  | createNodeDevice token networkId req =>
    obtain ⟨_, hok⟩ := snd_map_eq_ok.1 hok
    obtain ⟨_, _, _, _, -, -, -, rfl, hdevices, rfl⟩ := createNodeDevice_eq_ok hok
    exact ⟨h₁, h₂, h₃, h₄, h.exits_insert hdevices rfl⟩
  | enrollByKey req =>
    obtain ⟨_, hok⟩ := snd_map_eq_ok.1 hok
    obtain ⟨_, _, _, _, -, -, -, -, hdevices, -, -, rfl⟩ := enrollByKey_eq_ok hok
    exact ⟨h₁, h₂, h₃, h₄, h.exits_insert hdevices rfl⟩
  | registerDevice req =>
    obtain ⟨_, hok⟩ := snd_map_eq_ok.1 hok
    obtain ⟨_, _, _, _, -, -, -, rfl, hdevices, rfl⟩ := registerDevice_eq_ok hok
    exact ⟨h₁, h₂, h₃, h₄, h.exits_insert hdevices rfl⟩
  | updateDevice token deviceId req =>
    obtain ⟨_, hok⟩ := snd_map_eq_ok.1 hok
    obtain ⟨_, _, -, -, -, rfl⟩ := updateDevice_eq_ok hok
    have hreq : req.exitNodeId = none := Option.not_isSome_iff_eq_none.1 (Bool.eq_false_iff.1 hc)
    refine ⟨h₁, h₂, h₃, h₄, h.exits_assign req.apply (fun _ => rfl) fun d hd => ?_⟩
    rw [DeviceUpdate.apply, hreq, hd]
    rfl
  | enrollDevice token deviceId req =>
    obtain ⟨_, hok⟩ := snd_map_eq_ok.1 hok
    obtain ⟨_, _, -, -, -, -, -, -, rfl⟩ := enrollDevice_eq_ok hok
    exact ⟨h₁, h₂, h₃, h₄, h.exits_assign (req.apply env e) (fun _ => rfl) fun _ hd => hd⟩
  | revokeDevice token deviceId =>
    obtain ⟨_, hok⟩ := snd_map_eq_ok.1 hok
    obtain ⟨_, _, -, -, -, rfl⟩ := revokeDevice_eq_ok hok
    exact ⟨h₁, h₂, h₃, h₄, h.exits_assign (Device.revoked env.now) (fun _ => rfl) fun _ hd => hd⟩
  | heartbeat token deviceId req =>
    obtain ⟨_, hok⟩ := snd_map_eq_ok.1 hok
    obtain ⟨_, -, rfl⟩ := deviceHeartbeat_eq_ok hok
    exact ⟨h₁, h₂, h₃, h₄, h.exits_assign (req.apply env.now) (fun _ => rfl) fun _ hd => hd⟩

/-- The requests of users, and of devices for routes and tokens. -/
theorem apiCall {c : ApiCall} (hc : c.request.links = false) (hok : c.handle db = .ok db') :
    db'.Unlinked := by
  obtain ⟨h₁, h₂, h₃, h₄, h₅⟩ := id h
  obtain ⟨env, e, request⟩ := c
  unfold ApiCall.handle at hok
  cases request with
  | device request => exact h.call hc hok
  | deleteNetwork token networkId =>
    obtain ⟨_, hok⟩ := snd_map_eq_ok.1 hok
    obtain ⟨_, _, -, -, -, rfl⟩ := deleteNetwork_eq_ok hok
    exact ⟨h₁, h₂, h₃, h₄, fun d hd => h₅ d (Table.mem_delete.1 hd).1⟩
  | deletePreauthKey token networkId keyId =>
    obtain ⟨_, hok⟩ := snd_map_eq_ok.1 hok
    obtain ⟨_, _, _, -, -, -, -, rfl⟩ := deleteOwned_eq_ok hok
    exact ⟨h₁, h₂, h₃, h₄, h₅⟩
  | createAcl token networkId req =>
    obtain ⟨_, hok⟩ := snd_map_eq_ok.1 hok
    obtain ⟨_, _, _, -, -, -, rfl⟩ := createOwned_eq_ok hok
    exact ⟨h₁, h₂, h₃, h₄, h₅⟩
  | updateAcl token networkId ruleId req =>
    obtain ⟨_, hok⟩ := snd_map_eq_ok.1 hok
    obtain ⟨_, _, _, -, -, -, -, rfl⟩ := updateAcl_eq_ok hok
    exact ⟨h₁, h₂, h₃, h₄, h₅⟩
  | deleteAcl token networkId ruleId =>
    obtain ⟨_, hok⟩ := snd_map_eq_ok.1 hok
    obtain ⟨_, _, _, -, -, -, -, rfl⟩ := deleteOwned_eq_ok hok
    exact ⟨h₁, h₂, h₃, h₄, h₅⟩
  | createDns token networkId req =>
    obtain ⟨_, hok⟩ := snd_map_eq_ok.1 hok
    obtain ⟨_, _, _, -, -, -, rfl⟩ := createOwned_eq_ok hok
    exact ⟨h₁, h₂, h₃, h₄, h₅⟩
  | deleteDns token networkId entryId =>
    obtain ⟨_, hok⟩ := snd_map_eq_ok.1 hok
    obtain ⟨_, _, _, -, -, -, -, rfl⟩ := deleteOwned_eq_ok hok
    exact ⟨h₁, h₂, h₃, h₄, h₅⟩
  | advertiseRoute token networkId req => cases hc
  | deviceAdvertiseRoute token deviceId req => cases hc
  | approveRoute token routeId req =>
    obtain ⟨_, hok⟩ := snd_map_eq_ok.1 hok
    obtain ⟨_, route, -, hroute, -⟩ := approveRoute_eq_ok hok
    exact absurd (Table.get?_eq_some_iff.1 (ownedRoute_eq_ok.1 hroute).1).1 (h₁ route)
  | updateRoute token routeId req =>
    obtain ⟨_, hok⟩ := snd_map_eq_ok.1 hok
    obtain ⟨_, route, -, hroute, -⟩ := updateRoute_eq_ok hok
    exact absurd (Table.get?_eq_some_iff.1 (ownedRoute_eq_ok.1 hroute).1).1 (h₁ route)
  | deleteRoute token routeId =>
    obtain ⟨_, hok⟩ := snd_map_eq_ok.1 hok
    exact absurd hok (deleteRoute_ne_ok routeId _)
  | selectExitNode token deviceId req =>
    obtain ⟨_, hok⟩ := snd_map_eq_ok.1 hok
    obtain ⟨_, _, -, -, -, rfl⟩ := selectExitNode_eq_ok hok
    have hreq : req.exitNodeId = none := Option.not_isSome_iff_eq_none.1 (Bool.eq_false_iff.1 hc)
    exact ⟨h₁, h₂, h₃, h₄, h.exits_assign (req.apply env.now) (fun _ => rfl) fun _ _ => hreq⟩
  | rotateDeviceToken token deviceId =>
    obtain ⟨_, hok⟩ := snd_map_eq_ok.1 hok
    obtain ⟨_, -, -, -, rfl⟩ := rotateDeviceToken_eq_ok hok
    exact ⟨h₁, h₂, h₃, h₄,
      h.exits_assign (Device.rotated env.security e) (fun _ => rfl) fun _ hd => hd⟩

/-- The requests of devices; without sessions there is none to report on. -/
theorem deviceCall {c : DeviceCall} (hc : c.request.links = false) (hok : c.handle db = .ok db') :
    db'.Unlinked := by
  obtain ⟨h₁, h₂, h₃, h₄, -⟩ := id h
  obtain ⟨env, e, token, request⟩ := c
  unfold DeviceCall.handle at hok
  cases request with
  | heartbeat deviceId req =>
    obtain ⟨_, hok⟩ := snd_map_eq_ok.1 hok
    obtain ⟨_, -, rfl⟩ := deviceHeartbeat_eq_ok hok
    exact ⟨h₁, h₂, h₃, h₄, h.exits_assign (req.apply env.now) (fun _ => rfl) fun _ hd => hd⟩
  | rotateToken deviceId =>
    obtain ⟨_, hok⟩ := snd_map_eq_ok.1 hok
    obtain ⟨_, -, -, -, rfl⟩ := rotateDeviceToken_eq_ok hok
    exact ⟨h₁, h₂, h₃, h₄,
      h.exits_assign (Device.rotated env.security e) (fun _ => rfl) fun _ hd => hd⟩
  | punchResult sessionId req =>
    obtain ⟨_, hok⟩ := snd_map_eq_ok.1 hok
    obtain ⟨id, _, _, -, hrecord⟩ := reportPunchResult_eq_ok hok
    rw [recordPunchResult, h.get?_natSessions id] at hrecord
    cases hrecord
  | validate sessionId req =>
    obtain ⟨_, hok⟩ := snd_map_eq_ok.1 hok
    obtain ⟨id, -, hvalidate⟩ := reportConnectivityValidation_eq_ok hok
    rw [validateConnectivity, h.get?_natSessions id] at hvalidate
    cases hvalidate
    exact h
  | connectRelay sessionId =>
    obtain ⟨_, hok⟩ := snd_map_eq_ok.1 hok
    obtain ⟨id, old, -, hold, -⟩ := connectRelaySession_eq_ok hok
    rw [h.get?_relaySessions id] at hold
    cases hold
  | relayHeartbeat sessionId =>
    obtain ⟨_, -, rfl⟩ := map_eq_ok.1 hok
    exact h
  | relayStats sessionId req =>
    obtain ⟨_, hok⟩ := snd_map_eq_ok.1 hok
    obtain ⟨id, old, -, hold, -⟩ := updateRelayStatsEndpoint_eq_ok hok
    rw [h.get?_relaySessions id] at hold
    cases hold
  | reportEndpoint deviceId req => cases hc
  | probeResult deviceId req => cases hc
  | advertiseRoute deviceId req => cases hc
  | requestPunch req => cases hc
  | requestRelay req => cases hc

/-- **A request that makes no row refer to a device.** -/
theorem serve {c : ServerCall} (hc : c.links = false) : (c.serve db).Unlinked := by
  cases c with
  | api c => exact serveApi_cases h fun _ hok => h.apiCall hc hok
  | device c => exact serveDevice_cases h fun _ hok => h.deviceCall hc hok

end Database.Unlinked

/-- **In every state of every run a deletion works exactly if nothing refers to what it deletes**,
but for what it deletes before.  In a run whose requests make no row refer to a device every network
can be deleted. -/
theorem networks_deletable_iff (db : Database) (calls : List ServerCall) :
    (∀ env token networkId, (run ServerCall.serve db calls).OwnerToken env token networkId →
      ((run ServerCall.serve db calls).DeletionWorks env token networkId ↔
        (run ServerCall.serve db calls).Deletable networkId)) ∧
    (db.Unlinked → (∀ c ∈ calls, c.links = false) →
      ∀ env token networkId, (run ServerCall.serve db calls).OwnerToken env token networkId →
        (run ServerCall.serve db calls).DeletionWorks env token networkId) := by
  refine ⟨fun env token networkId hby => deletionWorks_iff hby,
    fun hdb hcalls env token networkId hby => (deletionWorks_iff hby).2 ?_⟩
  have hrun : (run ServerCall.serve db calls).Unlinked :=
    run_invariant_of_admissible ServerCall.serve (fun _ _ h hc => h.serve hc) hdb
      ((admissible_const_iff ServerCall.serve).2 hcalls)
  exact hrun.deletable networkId

/-! ### An office with a route -/

/-- A user creates a network and advertises a route in it. -/
def advertisedOffice : List ServerCall := [
  .api
    { env := officeEnv
      entropy := officeEntropy 132
      request := .device (.createNetwork "jwt" { name := "office", subnet := "10.0.0.0/29" }) },
  .api
    { env := officeEnv
      entropy := officeEntropy 133
      request := .advertiseRoute "jwt" (Uuid.ofNat 132) { pfx := "192.168.7.0/24" } }]

/-- The network of the office. -/
def advertisedNetwork : Network where
  id := Uuid.ofNat 132
  name := "office"
  subnet := "10.0.0.0/29"
  ownerId := some (Uuid.ofNat 1)

/-- Before the route is advertised the network can be deleted. -/
theorem networks_deletable_iff_new :
    (run ServerCall.serve { users := officeUsers } (advertisedOffice.take 1)).DeletionWorks
      officeEnv "jwt" (Uuid.ofNat 132) := by
  have hunlinked : Database.Unlinked { users := officeUsers } :=
    ⟨fun _ => List.not_mem_nil, fun _ => List.not_mem_nil, fun _ => List.not_mem_nil,
      fun _ => List.not_mem_nil, fun _ hd => absurd hd List.not_mem_nil⟩
  exact (networks_deletable_iff _ _).2 hunlinked (by decide) _ _ _
    ⟨{ id := Uuid.ofNat 1 }, advertisedNetwork, by decide +kernel, by decide +kernel, rfl⟩

/-- Once it is advertised, it cannot. -/
theorem advertised_network_stays : ¬ ∀ (calls : List ServerCall) (env : Env) (token : String)
    (networkId : Uuid),
    (run ServerCall.serve { users := officeUsers } calls).OwnerToken env token networkId →
      (run ServerCall.serve { users := officeUsers } calls).DeletionWorks env token networkId := by
  intro hall
  have hby : (run ServerCall.serve { users := officeUsers } advertisedOffice).OwnerToken officeEnv
      "jwt" (Uuid.ofNat 132) :=
    ⟨{ id := Uuid.ofNat 1 }, advertisedNetwork, by decide +kernel, by decide +kernel, rfl⟩
  have hroute : ∃ r ∈ (run ServerCall.serve { users := officeUsers } advertisedOffice).routes.rows,
      r.networkId = Uuid.ofNat 132 := by decide +kernel
  obtain ⟨r, hr, hnet⟩ := hroute
  exact ((deletionWorks_iff hby).1 (hall _ _ _ _ hby)).unrouted r hr hnet

end Midscale
