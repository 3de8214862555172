import Midscale.Api.Addresses
import Midscale.Api.Concurrent

/-!
# Addresses that are allocated at the same time

`allocate_ip` picks an address that is free when it reads the addresses of the network; the device
is committed later, and nothing makes the database check again.

* `Database.AddressesDistinct` : no two devices of a network hold the same address.
* `AddressKept` : a request commits while the addresses of the network are those that it read.
* `addresses_distinct_iff` : **the addresses are distinct all along a run exactly if every commit is
  such.**
* `two_devices_one_address` : two requests that overlap.
-/

namespace Midscale

/-- No two devices of a network hold the same address. -/
def Database.AddressesDistinct (db : Database) : Prop :=
  ∀ d ∈ db.devices, ∀ d' ∈ db.devices, d.networkId = d'.networkId →
    d.ipAddress ≠ none → d.ipAddress = d'.ipAddress → d = d'

instance (db : Database) : Decidable db.AddressesDistinct :=
  inferInstanceAs (Decidable (∀ d ∈ db.devices, ∀ d' ∈ db.devices, _))

/-- The addresses of the network are those that the request read: no other request has committed
a device of the network since. -/
def AddressKept (db : Database) (a : Admission) (used : List String) (_ : Device) : Prop :=
  db.usedIps a.networkId = used

instance (db : Database) (a : Admission) (used : List String) (d : Device) :
    Decidable (AddressKept db a used d) :=
  inferInstanceAs (Decidable (_ = _))

/-! ### What a request knows of its address -/

/-- The address was free when the addresses `used` were read, and if these have changed since then
a device of the network holds it. -/
structure Picked (db : Database) (a : Admission) (used : List String) (ip : String) : Prop where
  network : db.networks.get? a.networkId = some a.network
  read : ∃ db₀ : Database, db₀.usedIps a.networkId = used ∧
    allocateIp db₀ a.networkId a.network.subnet = .ok ip
  taken : db.usedIps a.networkId = used ∨ ip ∈ db.usedIps a.networkId

/-- What holds of a request at each point. -/
def KnowsAddress (db : Database) : Progress → Prop
  | .admitted a => db.networks.get? a.networkId = some a.network
  | .allocated a used ip => Picked db a used ip
  | .flushed _ a used d =>
    ∃ ip, d.networkId = a.networkId ∧ d.ipAddress = some ip ∧ Picked db a used ip
  | _ => True

theorem allocateIp_congr {db db' : Database} {networkId : Uuid} {subnet : String}
    (h : db.usedIps networkId = db'.usedIps networkId) :
    allocateIp db networkId subnet = allocateIp db' networkId subnet := by
  unfold allocateIp
  rw [h]

namespace Picked

variable {db db' : Database} {a a' : Admission} {used used' : List String} {ip ip' : String}

theorem fresh (hnet : db.networks.get? a.networkId = some a.network)
    (h : allocateIp db a.networkId a.network.subnet = .ok ip) :
    Picked db a (db.usedIps a.networkId) ip :=
  ⟨hnet, ⟨db, rfl, h⟩, .inl rfl⟩

theorem not_mem (h : Picked db a used ip) : ip ∉ used := by
  obtain ⟨db₀, rfl, hip⟩ := h.read
  obtain ⟨net, -, -, -, hfree⟩ := allocateIp_eq_ok hip
  rw [mem_usedIps]
  rintro ⟨d, hd, hnet, heq⟩
  exact hfree d hd hnet heq

theorem eq_of_used (h : Picked db a used ip) (h' : Picked db a' used ip')
    (hnet : a.networkId = a'.networkId) : ip = ip' := by
  obtain ⟨db₀, hused, hip⟩ := h.read
  obtain ⟨db₁, hused', hip'⟩ := h'.read
  have hnetwork : a.network = a'.network :=
    Option.some.inj (h.network.symm.trans (hnet ▸ h'.network))
  rw [allocateIp_congr (hused.trans (hnet ▸ hused').symm), hnetwork, hnet, hip'] at hip
  exact (Except.ok.inj hip).symm

/-- Another request commits its device. -/
theorem commit (h : Picked db a used ip) {d : Device} (h' : Picked db a' used' ip')
    (hd : d.networkId = a'.networkId) (hip : d.ipAddress = some ip')
    (hkept : db.usedIps a'.networkId = used') (hdevices : db.devices.insert d = some db'.devices)
    (hnetworks : db'.networks = db.networks) : Picked db' a used ip where
  network := hnetworks ▸ h.network
  read := h.read
  taken := by
    by_cases hnet : d.networkId = a.networkId
    · right
      rw [mem_usedIps]
      rcases h.taken with hused | htaken
      · -- both read the same addresses
        have hsame : ip = ip' := by
          refine h.eq_of_used ?_ (hnet.symm.trans hd)
          rw [← hused, hnet.symm.trans hd, hkept]
          exact h'
        exact ⟨d, (Table.mem_insert hdevices).2 (.inr rfl), hnet, hsame ▸ hip⟩
      · obtain ⟨d', hd', hnet', hip'⟩ := mem_usedIps.1 htaken
        exact ⟨d', (Table.mem_insert hdevices).2 (.inl hd'), hnet', hip'⟩
    · have hused : db'.usedIps a.networkId = db.usedIps a.networkId := by
        rw [Database.usedIps, Table.select_insert_of_not hdevices (decide_eq_false fun h =>
          hnet h.1), Database.usedIps]
      rw [hused]
      exact h.taken

end Picked

/-- The commit of another request changes what is known of an address as it should. -/
theorem KnowsAddress.commit {db db' : Database} {x : Progress} (hx : KnowsAddress db x)
    {a : Admission} {used : List String} {d : Device} {ip : String} (h : Picked db a used ip)
    (hd : d.networkId = a.networkId) (hip : d.ipAddress = some ip)
    (hkept : db.usedIps a.networkId = used) (hdevices : db.devices.insert d = some db'.devices)
    (hnetworks : db'.networks = db.networks) : KnowsAddress db' x := by
  cases x with
  | admitted a' =>
    rw [KnowsAddress, hnetworks]
    exact hx
  | allocated a' used' ip' => exact Picked.commit hx h hd hip hkept hdevices hnetworks
  | flushed f a' used' d' =>
    obtain ⟨ip', hnet, hip', hpicked⟩ := hx
    exact ⟨ip', hnet, hip', hpicked.commit h hd hip hkept hdevices hnetworks⟩
  | _ => trivial

/-! ### Runs -/

/-- The addresses are distinct, and each request knows of its own. -/
def AddressInvariant : Server → Prop :=
  SharedInvariant Database.AddressesDistinct KnowsAddress fun _ _ => True

/-- A new device whose address no device of the network holds. -/
theorem Database.AddressesDistinct.insert {db db' : Database} {d : Device} {ip : String}
    (h : db.AddressesDistinct) (hdevices : db.devices.insert d = some db'.devices)
    (hip : d.ipAddress = some ip) (hfree : ip ∉ db.usedIps d.networkId) :
    db'.AddressesDistinct := by
  intro d₁ hd₁ d₂ hd₂ hnet hsome heq
  rcases (Table.mem_insert hdevices).1 hd₁ with hold₁ | rfl
  · rcases (Table.mem_insert hdevices).1 hd₂ with hold₂ | rfl
    · exact h d₁ hold₁ d₂ hold₂ hnet hsome heq
    · exact absurd (mem_usedIps.2 ⟨d₁, hold₁, hnet, heq.trans hip⟩) hfree
  · rcases (Table.mem_insert hdevices).1 hd₂ with hold₂ | rfl
    · exact absurd (mem_usedIps.2 ⟨d₂, hold₂, hnet.symm, heq.symm.trans hip⟩) hfree
    · rfl

/-- What a turn does to the tables and to the request itself. -/
theorem AllocCall.Moved.own {c : AllocCall} {i : Turn} {db db' : Database} {x y : Progress}
    (h : c.Moved db i x db' y) (hdb : db.AddressesDistinct) (hx : KnowsAddress db x)
    (hkept : AtCommit AddressKept db i x) : db'.AddressesDistinct ∧ KnowsAddress db' y := by
  cases h with
  | kept => exact ⟨hdb, hx⟩
  | failed => exact ⟨hdb, trivial⟩
  | admitted ha => exact ⟨hdb, AllocCall.network_of_admit ha⟩
  | allocated hip => exact ⟨hdb, Picked.fresh hx hip⟩
  | added a used ip => exact ⟨hdb, ip, c.device_networkId a ip, c.device_ipAddress a ip, hx⟩
  | flushed => exact ⟨hdb, hx⟩
  | @committed a used d view hview =>
    obtain ⟨ip, hnet, hip, hpicked⟩ := hx
    obtain ⟨hdevices, -, -⟩ := Database.withWrites_eq_ok hview
    have hused : db.usedIps a.networkId = used := hkept.of_withWrites hview
    refine ⟨hdb.insert hdevices hip ?_, trivial⟩
    rw [hnet, hused]
    exact hpicked.not_mem

/-- What a turn does to the other requests. -/
theorem AllocCall.Moved.other {c : AllocCall} {i : Turn} {db db' : Database} {x y z : Progress}
    (h : c.Moved db i x db' y) (hx : KnowsAddress db x) (hz : KnowsAddress db z)
    (hkept : AtCommit AddressKept db i x) : KnowsAddress db' z := by
  cases h with
  | @committed a used d view hview =>
    obtain ⟨ip, hnet, hip, hpicked⟩ := hx
    obtain ⟨hdevices, hnetworks, -⟩ := Database.withWrites_eq_ok hview
    exact hz.commit hpicked hnet hip (hkept.of_withWrites hview) hdevices hnetworks
  | _ => exact hz

/-- A turn that meets the condition keeps the invariant. -/
theorem AddressInvariant.step (calls : ℕ → AllocCall) (w : Server) (e : ℕ × Turn)
    (hw : AddressInvariant w) (he : CommitTurn AddressKept w e) :
    AddressInvariant (serverStep calls w e) := by
  refine SharedInvariant.step (fun _ _ _ => trivial) (fun w t i hw he => ?_)
    (fun w t i q hw he _ => ⟨?_, trivial⟩) w e hw he
  · exact ((calls t).advance_moved i w.store (w.locals t)).own hw.store (hw.each t) he
  · exact ((calls t).advance_moved i w.store (w.locals t)).other (hw.each t) (hw.each q) he

theorem AddressInvariant.breaks (calls : ℕ → AllocCall) (w : Server) (e : ℕ × Turn)
    (hw : AddressInvariant w) (he : ¬ CommitTurn AddressKept w e) :
    ¬ (serverStep calls w e).store.AddressesDistinct := by
  obtain ⟨t, i⟩ := e
  obtain ⟨a, used, d, view, hi, hx, hview, hne⟩ := not_atCommit he
  dsimp only at hi hx
  subst hi
  have hknows := hw.each t
  rw [hx] at hknows
  obtain ⟨ip, hnet, hip, hpicked⟩ := hknows
  obtain ⟨hdevices, -, -⟩ := Database.withWrites_eq_ok hview
  -- another device of the network holds the address already
  obtain ⟨d', hd', hnet', hip'⟩ := mem_usedIps.1 (hpicked.taken.resolve_left hne)
  rw [(serverStep_commit calls hx hview).1]
  intro hdistinct
  have heq : d' = d := hdistinct d' ((Table.mem_insert hdevices).2 (.inl hd')) d
    ((Table.mem_insert hdevices).2 (.inr rfl)) (hnet'.trans hnet.symm) (by rw [hip']; nofun)
    (hip'.trans hip.symm)
  exact (Table.insert_eq_some hdevices).2 d' hd' (congrArg Device.id heq)

/-- **The addresses are distinct all along a run exactly if** they are at its start and **no request
commits when another one of its network has committed since it read the addresses.** -/
theorem addresses_distinct_iff (calls : ℕ → AllocCall) (db : Database) (es : List (ℕ × Turn)) :
    (∀ pre, pre <+: es → (run (serverStep calls) (Server.start db) pre).store.AddressesDistinct) ↔
      db.AddressesDistinct ∧
        Admissible (serverStep calls) (CommitTurn AddressKept) (Server.start db) es := by
  have hstart : db.AddressesDistinct → AddressInvariant (Server.start db) := fun h =>
    ⟨h, fun _ => trivial, fun _ _ _ => trivial⟩
  constructor
  · intro h
    have hdb : db.AddressesDistinct := h [] List.nil_prefix
    exact ⟨hdb, admissible_of_forall_prefix (P := fun w : Server => w.store.AddressesDistinct)
      (serverStep calls) (AddressInvariant.step calls) (AddressInvariant.breaks calls) (hstart hdb)
      h⟩
  · rintro ⟨hdb, hes⟩ pre hpre
    exact (run_invariant_of_admissible (serverStep calls) (AddressInvariant.step calls)
      (hstart hdb) (hes.of_prefix _ hpre)).store

/-! ### Two requests of an office -/

/-- The office with its network and a pre-auth key. -/
def officeDb : Database := run serve { users := officeUsers } (officeCalls.take 2)

/-- The owner adds devices. -/
def addingCalls (n : ℕ) : AllocCall where
  env := officeEnv
  entropy := officeEntropy (10 + n)
  request := .createDevice "jwt" (Uuid.ofNat 2) { name := "desk" }

/-- Two requests, one after the other. -/
def inTurn : List (ℕ × Turn) :=
  List.replicate 6 (0, .advance) ++ List.replicate 6 (1, .advance)

/-- Two requests at the same time: both read before the first one commits. -/
def overlapping : List (ℕ × Turn) :=
  List.replicate 3 (0, .advance) ++ List.replicate 3 (1, .advance) ++
    (List.replicate 3 (0, .advance) ++ List.replicate 3 (1, .advance))

example : Admissible (serverStep addingCalls) (CommitTurn AddressKept) (Server.start officeDb)
    inTurn := by
  decide +kernel

/-- Both requests commit, and their devices hold the same address. -/
theorem two_devices_one_address :
    officeDb.AddressesDistinct ∧
      ¬ (run (serverStep addingCalls) (Server.start officeDb)
        overlapping).store.AddressesDistinct := by
  decide +kernel

end Midscale
