import Midscale.Api.DeviceWrites
import Midscale.Wireguard.ReconcileAll

/-!
# Public keys that identify devices

The controller looks devices up by their public keys.  Key pairs that the backend generates are
fresh; a device that enrolls, or sends a heartbeat, chooses its key itself, and no check compares it
with the keys of the other devices.

* `Database.KeysIdentify` : keys are distinct, look-ups find one device, passes do not end early.
* `FreshKeys`, `ChoosesNewKey` : what is assumed of generated keys, and what is not checked of others.
* `Call.publicKeysDistinct_iff` : what one request does.
* `keys_identify_iff` : **in every state of a run keys identify devices exactly if no accepted
  request chooses the key of another device.**
* `stolen_key` : a device enrolls with the key of the hub.
-/

namespace Midscale

/-- Public keys identify devices: no two devices have the same one, the look-up of the controller
never finds two rows, and a pass processes every managed interface, unless it ends with an exception
that the adapter raises. -/
structure Database.KeysIdentify (db : Database) : Prop where
  distinct : ∀ d ∈ db.devices, ∀ d' ∈ db.devices, d.publicKey.isSome = true →
    d.publicKey = d'.publicKey → d = d'
  lookup : ∀ key, (db.devices.select fun d => d.publicKey = some key).length ≤ 1
  processed : ∀ (settings : Settings) (order : SetOrder String) (clock : String → Timestamp)
    (now : Timestamp) (σ : Type) (adapter : WireGuardAdapter σ) (host : σ) (cycleCount : ℕ),
    let pass := (reconcileAll adapter settings order clock now db host cycleCount).1
    let interfaces := db.managedInterfaces settings order
    pass.results.map (·.interface) = interfaces ∨
      ∃ interface ∈ interfaces, ∃ e, adapter.Escapes interface e ∧ pass.failure = some e.str

theorem Database.keysIdentify_iff {db : Database} : db.KeysIdentify ↔ db.PublicKeysDistinct :=
  ⟨KeysIdentify.distinct, fun h =>
    { distinct := h
      lookup := publicKeysDistinct_iff.1 h
      processed := fun settings order clock now _ adapter host cycleCount =>
        reconcileAll_processes adapter settings order clock now h host cycleCount }⟩

/-- A key pair that the request generates is no device's yet. -/
def FreshKeys (db : Database) (c : Call) : Prop :=
  match c.request with
  | .createNetwork .. | .createDevice .. | .registerDevice _ =>
    ∀ d ∈ db.devices, d.publicKey ≠ some c.entropy.keyPair.publicKey
  | _ => True

/-- A key that the client of an accepted request chooses is no other device's. -/
def ChoosesNewKey (db : Database) (c : Call) : Prop :=
  (∃ db', c.handle db = .ok db') →
    match c.request with
    | .enrollByKey req => ∀ d ∈ db.devices, d.publicKey ≠ some req.publicKey
    | .enrollDevice _ id req => ∀ d ∈ db.devices, d.id ≠ id → d.publicKey ≠ some req.publicKey
    | .heartbeat _ id req => truthy req.publicKey = true →
        ∀ d ∈ db.devices, d.id ≠ id → d.publicKey ≠ req.publicKey
    | _ => True

/-! ### One request -/

section

variable {db db' : Database}

theorem Database.PublicKeysDistinct.insert_iff (h : db.PublicKeysDistinct) {device : Device}
    (hdevices : db.devices.insert device = some db'.devices) : db'.PublicKeysDistinct ↔
      ∀ key ∈ device.publicKey, ∀ d ∈ db.devices, d.publicKey ≠ some key := by
  constructor
  · intro h' key hkey d hd hdkey
    have heq : d = device := h' d ((Table.mem_insert hdevices).2 (.inl hd)) device
      ((Table.mem_insert hdevices).2 (.inr rfl)) (hdkey ▸ rfl) (hdkey.trans hkey.symm)
    exact (Table.insert_eq_some hdevices).2 d hd (congrArg Row.pk heq)
  · intro hnew d hd d' hd' hsome heq
    obtain ⟨key, hkey⟩ := Option.isSome_iff_exists.1 hsome
    rcases (Table.mem_insert hdevices).1 hd with hd | rfl
    · rcases (Table.mem_insert hdevices).1 hd' with hd' | rfl
      · exact h d hd d' hd' hsome heq
      · exact absurd hkey (hnew key (heq ▸ hkey) d hd)
    · rcases (Table.mem_insert hdevices).1 hd' with hd' | rfl
      · exact absurd (heq ▸ hkey) (hnew key hkey d' hd')
      · rfl

/-- Assignments to a device keep the keys distinct exactly if no other device has its key. -/
theorem Database.PublicKeysDistinct.assign_iff (h : db.PublicKeysDistinct) {now : Timestamp}
    {deviceId : Uuid} {f : Device → Device} {hf : ∀ d, (f d).id = d.id} {d : Device}
    (hd : db.devices.get? deviceId = some d)
    (hdevices : db'.devices = (db.assign now deviceId f hf).devices) : db'.PublicKeysDistinct ↔
      ∀ key ∈ (f d).publicKey, ∀ d' ∈ db.devices, d'.id ≠ deviceId →
        d'.publicKey ≠ some key := by
  have hmem := (Table.get?_eq_some_iff.1 hd).1
  have hid : d.id = deviceId := (Table.get?_eq_some_iff.1 hd).2
  have hrows : ∀ {d'}, d' ∈ db'.devices ↔ ∃ r ∈ db.devices,
      (if r.id = deviceId then r.flushed now f else r) = d' := by
    intro d'
    rw [Table.mem_def, hdevices]
    exact mem_assign
  have heq : ∀ r ∈ db.devices, r.id = deviceId → r = d :=
    fun r hr hrid => db.devices.eq_of_pk hr hmem (hrid.trans hid.symm)
  constructor
  · intro h' key hkey d' hd' hne hdkey
    have hsame := h' _ (hrows.2 ⟨d, hmem, if_pos hid⟩) _ (hrows.2 ⟨d', hd', if_neg hne⟩)
    rw [Device.flushed_publicKey, hkey, hdkey] at hsame
    refine hne ((congrArg Device.id (hsame rfl rfl)).symm.trans ?_)
    rw [Device.flushed_id, hf, hid]
  · intro hnew r₁ hr₁ r₂ hr₂ hsome hkeys
    obtain ⟨d₁, hd₁, rfl⟩ := hrows.1 hr₁
    obtain ⟨d₂, hd₂, rfl⟩ := hrows.1 hr₂
    obtain ⟨key, hkey⟩ := Option.isSome_iff_exists.1 hsome
    split_ifs at hkey hkeys ⊢ with h₁ h₂ h₂
    · rw [heq d₁ hd₁ h₁, heq d₂ hd₂ h₂]
    · obtain rfl := heq d₁ hd₁ h₁
      rw [Device.flushed_publicKey] at hkey hkeys
      exact absurd (hkeys ▸ hkey) (hnew key hkey d₂ hd₂ h₂)
    · obtain rfl := heq d₂ hd₂ h₂
      rw [Device.flushed_publicKey] at hkeys
      exact absurd hkey (hnew key (hkeys ▸ hkey) d₁ hd₁ h₁)
    · exact h d₁ hd₁ d₂ hd₂ (hkey ▸ rfl) hkeys

theorem Database.PublicKeysDistinct.not_other (h : db.PublicKeysDistinct) {d : Device}
    (hd : d ∈ db.devices) : ∀ key ∈ d.publicKey, ∀ d' ∈ db.devices, d'.id ≠ d.id →
      d'.publicKey ≠ some key := by
  intro key hkey d' hd' hne hdkey
  exact hne (congrArg Device.id (h d' hd' d hd (hdkey ▸ rfl) (hdkey.trans hkey.symm)))

/-- **A request that succeeds keeps the keys distinct exactly if its client chooses a new one.** -/
theorem Call.publicKeysDistinct_iff {c : Call} (h : db.PublicKeysDistinct) (hfresh : FreshKeys db c)
    (hok : c.handle db = .ok db') : db'.PublicKeysDistinct ↔ ChoosesNewKey db c := by
  have haccepted : ∃ db', c.handle db = .ok db' := ⟨db', hok⟩
  have hwrite := c.handle_write hok
  obtain ⟨env, e, request⟩ := c
  cases hwrite with
  | kept hname hassign hdevices _ =>
    have hkept : db'.PublicKeysDistinct := by
      rw [Database.PublicKeysDistinct, hdevices]
      exact h
    refine iff_of_true hkept fun _ => ?_
    cases request with
    | createNetwork | updateNetwork | createPreauthKey => trivial
    | createDevice | createNodeDevice | enrollByKey | registerDevice => cases hname
    | updateDevice | enrollDevice | heartbeat | revokeDevice => cases hassign
  | hub hreq _ _ _ _ _ _ hkey _ _ hdevices =>
    cases hreq
    refine iff_of_true ((h.insert_iff hdevices).2 fun key hk => ?_) fun _ => trivial
    cases hkey.symm.trans hk
    exact hfresh
  | added hname _ hkey _ _ hdevices =>
    rw [h.insert_iff hdevices, hkey]
    cases request with
    | createNodeDevice => exact iff_of_true nofun fun _ => trivial
    | createDevice | registerDevice =>
      refine iff_of_true ?_ fun _ => trivial
      rintro key ⟨⟩
      exact hfresh
    | enrollByKey req =>
      refine Iff.trans ?_ (forall_prop_of_true haccepted).symm
      simp only [Call.newKey?, Option.mem_some_iff, forall_eq']
    | _ => cases hname
  | @assigned deviceId f hf d _ hassign hd _ hdevices =>
    have hmem := (Table.get?_eq_some_iff.1 hd).1
    obtain rfl : d.id = deviceId := (Table.get?_eq_some_iff.1 hd).2
    rw [h.assign_iff hd hdevices]
    have hother := h.not_other hmem
    cases request with
    | updateDevice | revokeDevice =>
      cases hassign
      exact iff_of_true hother fun _ => trivial
    | enrollDevice token id req =>
      cases hassign
      refine Iff.trans ?_ (forall_prop_of_true haccepted).symm
      simp only [EnrollRequest.apply, Option.mem_some_iff, forall_eq']
    | heartbeat token id req =>
      cases hassign
      refine Iff.trans ?_ (forall_prop_of_true haccepted).symm
      have hsome : truthy req.publicKey = true → ∃ key, req.publicKey = some key := by
        cases req.publicKey with
        | none => exact nofun
        | some key => exact fun _ => ⟨key, rfl⟩
      dsimp only [HeartbeatRequest.apply]
      split_ifs with hnew
      · have htruthy := (of_decide_eq_true hnew).1
        obtain ⟨key, hkey⟩ := hsome htruthy
        rw [forall_prop_of_true htruthy, hkey]
        simp only [Option.mem_some_iff, forall_eq']
      · refine iff_of_true hother fun htruthy d' hd' hne heq => ?_
        -- the key is the device's own already
        have hown : req.publicKey = d.publicKey := by
          by_contra hne
          exact hnew (decide_eq_true ⟨htruthy, hne⟩)
        obtain ⟨key, hkey⟩ := hsome htruthy
        exact hother key (hown ▸ hkey) d' hd' hne (heq.trans hkey)
    | _ => cases hassign

end

/-! ### Runs -/

/-- **In every state of a run keys identify devices exactly if no accepted request chooses the key
of another device**, where generated keys are fresh. -/
theorem keys_identify_iff (users : Table User) (calls : List Call)
    (hfresh : Admissible serve FreshKeys { users } calls) :
    (∀ pre, pre <+: calls → (run serve { users } pre).KeysIdentify) ↔
      Admissible serve ChoosesNewKey { users } calls := by
  simp only [Database.keysIdentify_iff]
  refine forall_prefix_iff_admissible serve (fun db c h hfresh => ?_)
    (fun d hd => absurd hd List.not_mem_nil) hfresh
  unfold serve
  split
  · rename_i db' hok
    exact Call.publicKeysDistinct_iff h hfresh hok
  · rename_i error hok
    refine iff_of_true h fun ⟨db', haccepted⟩ => ?_
    rw [hok] at haccepted
    cases haccepted

/-- The laptop of the office enrolls with a key of its own. -/
theorem keys_identify_iff_office :
    (∀ pre, pre <+: officeCalls → (run serve { users := officeUsers } pre).KeysIdentify) ↔
      Admissible serve ChoosesNewKey { users := officeUsers } officeCalls := by
  refine keys_identify_iff officeUsers officeCalls ⟨?_, trivial, trivial, trivial⟩
  intro d hd
  exact absurd hd List.not_mem_nil

/-- The laptop enrolls with the public key of the hub. -/
def stolenKeyCalls : List Call := officeCalls.take 2 ++ [
  { env := officeEnv, entropy := officeEntropy 4
    request := .enrollByKey
      { preauthKey := "midscale_key", name := "laptop", publicKey := "public" } }]

/-- A generated key is fresh, and the client of the next request chooses it too. -/
theorem stolen_key : Admissible serve FreshKeys { users := officeUsers } stolenKeyCalls ∧
    ¬ ∀ pre, pre <+: stolenKeyCalls →
      (run serve { users := officeUsers } pre).KeysIdentify := by
  refine ⟨⟨fun d hd => absurd hd List.not_mem_nil, trivial, trivial, trivial⟩, fun h => ?_⟩
  have htwo : ((run serve { users := officeUsers } stolenKeyCalls).devices.select
      fun d => d.publicKey = some "public").length = 2 := by decide +kernel
  have hone := (h _ (List.prefix_refl _)).lookup "public"
  omega

end Midscale
