import Midscale.Api.Requests
import Midscale.Run.Shared

/-!
# Requests at the same time

The four requests that allocate an address, as transactions of a server that handles them
concurrently.  A request awaits the database several times, and between two awaits the others go on.
The isolation is read committed: a query sees what is committed at that moment and the writes of its
own session; there are no locks, and nothing but the primary keys is unique among the columns that
are written.  Networks and users do not change in such runs, so what a request reads of them is read
in one step with the row that it is about.

* `AllocCall.next` : one step of a request, `AllocCall.advance` : with its failures.
* `serverStep` : one step of the server.
* `AllocCall.Moved`, `AllocCall.advance_moved` : what a turn of a request can do.
* `CommitTurn` : a condition on the turns that commit a device.
* `AllocCall.handle_eq`, `run_alone` : **a request that runs alone does what its handler does.**
-/

namespace Midscale

/-! ### The requests -/

/-- The requests that allocate an address. -/
inductive AllocRequest where
  | createDevice (token : String) (networkId : Uuid) (req : DeviceCreate)
  | createNodeDevice (token : String) (networkId : Uuid) (req : DeviceCreate)
  | enrollByKey (req : EnrollByKeyRequest)
  | registerDevice (req : DeviceRegisterRequest)

/-- A request with its environment and what it draws at random. -/
structure AllocCall where
  env : Env
  entropy : Entropy
  request : AllocRequest

/-- The request as one that is handled at once. -/
def AllocCall.call (c : AllocCall) : Call where
  env := c.env
  entropy := c.entropy
  request := match c.request with
    | .createDevice token networkId req => .createDevice token networkId req
    | .createNodeDevice token networkId req => .createNodeDevice token networkId req
    | .enrollByKey req => .enrollByKey req
    | .registerDevice req => .registerDevice req

/-- What a request has read when it is admitted: the network, the user it was made by, the row of
its key. -/
structure Admission where
  networkId : Uuid
  network : Network
  userId : Option Uuid
  preauth : Option PreAuthKey
  deriving DecidableEq

/-- The checks at the beginning of a request. -/
def AllocCall.admit (c : AllocCall) (db : Database) : Except ApiError Admission :=
  match c.request with
  | .createDevice token networkId _ | .createNodeDevice token networkId _ => do
    let user ← getCurrentUser c.env db token
    let network ← requireNetworkOwner db networkId user
    .ok { networkId := networkId, network := network, userId := some user.id, preauth := none }
  | .enrollByKey req => do
    let preauth ← validPreauthKey c.env db req.preauthKey
    ensure (preauth.reusable ∨ preauth.usedBy.getD [] = [])
      (.http 401 "Pre-auth key has already been used")
    let network ← scalarOne (db.networks.get? preauth.networkId)
    .ok { networkId := preauth.networkId, network := network, userId := none, preauth := preauth }
  | .registerDevice req => do
    let preauth ← validPreauthKey c.env db req.key
    let network ← scalarOne (db.networks.get? preauth.networkId)
    .ok { networkId := preauth.networkId, network := network, userId := none, preauth := preauth }

/-- The device that a request adds. -/
def AllocCall.device (c : AllocCall) (a : Admission) (ip : String) : Device :=
  match c.request with
  | .createDevice _ _ req =>
    { Device.fresh c.env.now c.entropy.rowId a.networkId req.name a.userId ip with
      dnsEnabled := req.dnsEnabled, tags := some req.tags }.withKeys c.env.security c.entropy
  | .createNodeDevice _ _ req =>
    { Device.fresh c.env.now c.entropy.rowId a.networkId req.name a.userId ip with
      dnsEnabled := req.dnsEnabled, tags := some req.tags, isNodeOwned := true
      enrollmentStatus := "pending" }
  | .enrollByKey req => req.row c.env c.entropy a.networkId ip
  | .registerDevice req =>
    (Device.fresh c.env.now c.entropy.rowId a.networkId req.name none ip).withKeys c.env.security
      c.entropy

/-- The audit entry of a request. -/
def AllocCall.entry (c : AllocCall) (a : Admission) (d : Device) : AuditLog :=
  let byUser (action : String) : AuditLog :=
    { actorId := a.userId.map Uuid.str, actorType := "user", action := action
      targetType := "device", targetId := some d.id.str }
  match c.request with
  | .createDevice .. => byUser "device.create"
  | .createNodeDevice .. => byUser "device.create_node_owned"
  | .enrollByKey _ => d.did "device.enroll_by_key"
  | .registerDevice _ => d.did "device.register"

/-! ### Writes -/

/-- What a request writes to the row of its key.  The list `used_by` is the one that was read with
the row, with the new id at its end; the deletion of a row that is gone only warns. -/
def Database.consumeKey (db : Database) (preauth : Option PreAuthKey) (deviceId : Uuid) :
    Database :=
  match preauth with
  | none => db
  | some k =>
    { db with
      preauthKeys :=
        if k.reusable then
          db.preauthKeys.modify k.id
            (fun row => { row with usedBy := some (k.usedBy.getD [] ++ [deviceId.str]) })
            fun _ => rfl
        else db.preauthKeys.delete fun row => row.id = k.id }

/-- The tables with the writes of a request. -/
def Database.withWrites (db : Database) (a : Admission) (d : Device) :
    Except ApiError Database := do
  let devices ← db.devices.add d
  .ok ({ db with devices := devices }.consumeKey a.preauth d.id)

/-- What a request still reads for its response, its own writes included. -/
def AllocCall.answer (c : AllocCall) (view : Database) (d : Device) : Except ApiError Unit :=
  match c.request with
  | .enrollByKey _ => do
    let _ ← buildConfigV2 c.env view d
    .ok ()
  | _ => .ok ()

/-! ### Steps -/

/-- What is flushed: the device, and the row of the key; `answered` when the response is made. -/
inductive Flush where
  | device | key | answered
  deriving DecidableEq

/-- How far a request is.  `used` are the addresses that `allocate_ip` read. -/
inductive Progress where
  | idle
  | admitted (a : Admission)
  | allocated (a : Admission) (used : List String) (ip : String)
  | flushed (f : Flush) (a : Admission) (used : List String) (d : Device)
  | committed (a : Admission) (d : Device)
  | failed (error : ApiError)
  deriving DecidableEq

/-- One step of a request; only the commit changes what the others see. -/
def AllocCall.next (c : AllocCall) (db : Database) :
    Progress → Except ApiError (Database × Progress)
  | .idle => do
    let a ← c.admit db
    .ok (db, .admitted a)
  | .admitted a => do
    let ip ← allocateIp db a.networkId a.network.subnet
    .ok (db, .allocated a (db.usedIps a.networkId) ip)
  | .allocated a used ip => do
    let _ ← db.devices.add (c.device a ip)
    .ok (db, .flushed .device a used (c.device a ip))
  | .flushed .device a used d => do
    -- the update of a row that is gone is noticed, its deletion is not
    ensure (∀ k ∈ a.preauth, k.reusable = true → (db.preauthKeys.get? k.id).isSome)
      (.internal "StaleDataError")
    .ok (db, .flushed .key a used d)
  | .flushed .key a used d => do
    let view ← db.withWrites a d
    c.answer view d
    .ok (db, .flushed .answered a used d)
  | .flushed .answered a _ d => do
    let db ← db.withWrites a d
    .ok (db.audit (c.entry a d), .committed a d)
  | x => .ok (db, x)

/-- What happens to a request next: it goes on, or it is aborted. -/
inductive Turn where
  | advance | abort
  deriving DecidableEq

/-- A turn of a request, which is rolled back when a step fails. -/
def AllocCall.advance (c : AllocCall) : Turn → Database → Progress → Database × Progress
  | .advance, db, x => match c.next db x with
    | .ok r => r
    | .error e => (db, .failed e)
  | .abort, db, .committed a d => (db, .committed a d)
  | .abort, db, _ => (db, .failed (.internal "CancelledError"))

/-- The server: the committed tables and the progress of each request. -/
abbrev Server := Shared ℕ Database Progress

/-- One turn of one of the requests. -/
def serverStep (calls : ℕ → AllocCall) : Server → ℕ × Turn → Server :=
  Shared.step fun t => (calls t).advance

/-- The server before the requests. -/
def Server.start (db : Database) : Server where
  store := db
  locals _ := .idle

/-! ### What a turn can do -/

/-- What a turn of a request can do to the tables and to its progress. -/
inductive AllocCall.Moved (c : AllocCall) (db : Database) :
    Turn → Progress → Database → Progress → Prop
  | kept (i : Turn) (x : Progress) : c.Moved db i x db x
  | failed (i : Turn) {x : Progress} (hx : ∀ a d, x ≠ .committed a d) (e : ApiError) :
      c.Moved db i x db (.failed e)
  | admitted {a : Admission} (h : c.admit db = .ok a) : c.Moved db .advance .idle db (.admitted a)
  | allocated {a : Admission} {ip : String}
      (h : allocateIp db a.networkId a.network.subnet = .ok ip) :
      c.Moved db .advance (.admitted a) db (.allocated a (db.usedIps a.networkId) ip)
  | added (a : Admission) (used : List String) (ip : String) :
      c.Moved db .advance (.allocated a used ip) db (.flushed .device a used (c.device a ip))
  | flushed (f f' : Flush) (a : Admission) (used : List String) (d : Device) :
      c.Moved db .advance (.flushed f a used d) db (.flushed f' a used d)
  | committed {a : Admission} {used : List String} {d : Device} {view : Database}
      (h : db.withWrites a d = .ok view) :
      c.Moved db .advance (.flushed .answered a used d) (view.audit (c.entry a d)) (.committed a d)

theorem AllocCall.next_moved {c : AllocCall} {db : Database} {x : Progress}
    {r : Database × Progress} (h : c.next db x = .ok r) : c.Moved db .advance x r.1 r.2 := by
  cases x with
  | idle =>
    obtain ⟨a, ha, h⟩ := bind_eq_ok.1 h
    cases h
    exact .admitted ha
  | admitted a =>
    obtain ⟨ip, hip, h⟩ := bind_eq_ok.1 h
    cases h
    exact .allocated hip
  | allocated a used ip =>
    obtain ⟨devices, -, h⟩ := bind_eq_ok.1 h
    cases h
    exact .added a used ip
  | flushed f a used d =>
    cases f with
    | device =>
      obtain ⟨_, -, h⟩ := bind_eq_ok.1 h
      cases h
      exact .flushed _ _ a used d
    | key =>
      obtain ⟨view, -, h⟩ := bind_eq_ok.1 h
      obtain ⟨_, -, h⟩ := bind_eq_ok.1 h
      cases h
      exact .flushed _ _ a used d
    | answered =>
      obtain ⟨view, hview, h⟩ := bind_eq_ok.1 h
      cases h
      exact .committed hview
  | committed a d => cases h; exact .kept _ _
  | failed e => cases h; exact .kept _ _

theorem AllocCall.advance_of_ok {c : AllocCall} {db : Database} {x : Progress}
    {r : Database × Progress} (h : c.next db x = .ok r) : c.advance .advance db x = r := by
  rw [AllocCall.advance, h]

theorem AllocCall.advance_of_error {c : AllocCall} {db : Database} {x : Progress} {e : ApiError}
    (h : c.next db x = .error e) : c.advance .advance db x = (db, .failed e) := by
  rw [AllocCall.advance, h]

/-- **What a turn can do.** -/
theorem AllocCall.advance_moved (c : AllocCall) (i : Turn) (db : Database) (x : Progress) :
    c.Moved db i x (c.advance i db x).1 (c.advance i db x).2 := by
  cases i with
  | advance =>
    cases hnext : c.next db x with
    | ok r =>
      rw [advance_of_ok hnext]
      exact AllocCall.next_moved hnext
    | error e =>
      rw [advance_of_error hnext]
      refine .failed _ ?_ _
      rintro a d rfl
      cases hnext
  | abort =>
    cases x with
    | committed a d => exact .kept _ _
    | _ => exact .failed _ (fun _ _ h => by cases h) _

theorem AllocCall.advance_commit {c : AllocCall} {db view : Database} {a : Admission}
    {used : List String} {d : Device} (h : db.withWrites a d = .ok view) :
    c.advance .advance db (.flushed .answered a used d) =
      (view.audit (c.entry a d), .committed a d) :=
  advance_of_ok (by rw [next, h, ok_bind])

theorem AllocCall.network_of_admit {c : AllocCall} {db : Database} {a : Admission}
    (h : c.admit db = .ok a) : db.networks.get? a.networkId = some a.network := by
  unfold AllocCall.admit at h
  split at h
  all_goals simp only [bind_eq_ok, scalarOne_eq_ok] at h
  · obtain ⟨user, -, network, hnet, h⟩ := h
    cases h
    exact (requireNetworkOwner_eq_ok.1 hnet).1
  · obtain ⟨user, -, network, hnet, h⟩ := h
    cases h
    exact (requireNetworkOwner_eq_ok.1 hnet).1
  · obtain ⟨preauth, -, -, -, network, hnet, h⟩ := h
    cases h
    exact hnet
  · obtain ⟨preauth, -, network, hnet, h⟩ := h
    cases h
    exact hnet

theorem AllocCall.device_networkId (c : AllocCall) (a : Admission) (ip : String) :
    (c.device a ip).networkId = a.networkId := by
  obtain ⟨env, e, request⟩ := c
  cases request <;> rfl

theorem AllocCall.device_id (c : AllocCall) (a : Admission) (ip : String) :
    (c.device a ip).id = c.entropy.rowId := by
  obtain ⟨env, e, request⟩ := c
  cases request <;> rfl

theorem AllocCall.device_ipAddress (c : AllocCall) (a : Admission) (ip : String) :
    (c.device a ip).ipAddress = some ip := by
  obtain ⟨env, e, request⟩ := c
  cases request <;> rfl

theorem Database.withWrites_eq_ok {db view : Database} {a : Admission} {d : Device}
    (h : db.withWrites a d = .ok view) :
    db.devices.insert d = some view.devices ∧ view.networks = db.networks ∧
      view.preauthKeys = (db.consumeKey a.preauth d.id).preauthKeys := by
  obtain ⟨devices, hdevices, h⟩ := bind_eq_ok.1 h
  cases h
  rw [Table.add_eq_ok] at hdevices
  cases hkey : a.preauth with
  | none => exact ⟨hdevices, rfl, rfl⟩
  | some k => exact ⟨hdevices, rfl, rfl⟩

theorem serverStep_commit (calls : ℕ → AllocCall) {w : Server} {t : ℕ} {view : Database}
    {a : Admission} {used : List String} {d : Device}
    (hx : w.locals t = .flushed .answered a used d) (h : w.store.withWrites a d = .ok view) :
    (serverStep calls w (t, .advance)).store = view.audit ((calls t).entry a d) ∧
      (serverStep calls w (t, .advance)).locals t = .committed a d := by
  rw [serverStep, Shared.step_store, Shared.step_locals_self, hx, AllocCall.advance_commit h]
  exact ⟨rfl, rfl⟩

/-! ### Conditions on the commits of a run -/

section AtCommit

variable {C : Database → Admission → List String → Device → Prop}

/-- If the turn commits a device, then `C` holds of the tables before the commit and of what the
request knows. -/
def AtCommit (C : Database → Admission → List String → Device → Prop) (db : Database) :
    Turn → Progress → Prop
  | .advance, .flushed .answered a used d => (db.withWrites a d).isOk = true → C db a used d
  | _, _ => True

instance [∀ db a used d, Decidable (C db a used d)] (db : Database) :
    ∀ i x, Decidable (AtCommit C db i x)
  | .abort, _ => isTrue trivial
  | .advance, .flushed .answered _ _ _ => inferInstanceAs (Decidable (_ → _))
  | .advance, .flushed .device _ _ _ | .advance, .flushed .key _ _ _
  | .advance, .idle | .advance, .admitted _ | .advance, .allocated ..
  | .advance, .committed .. | .advance, .failed _ => isTrue trivial

/-- The same as a condition on the turns of a run. -/
def CommitTurn (C : Database → Admission → List String → Device → Prop) (w : Server)
    (e : ℕ × Turn) : Prop :=
  AtCommit C w.store e.2 (w.locals e.1)

instance [∀ db a used d, Decidable (C db a used d)] (w : Server) (e : ℕ × Turn) :
    Decidable (CommitTurn C w e) :=
  inferInstanceAs (Decidable (AtCommit _ _ _ _))

theorem AtCommit.of_withWrites {db view : Database} {a : Admission} {used : List String}
    {d : Device} (h : AtCommit C db .advance (.flushed .answered a used d))
    (hview : db.withWrites a d = .ok view) : C db a used d := h (by rw [hview]; rfl)

theorem CommitTurn.of_withWrites {w : Server} {t : ℕ} {view : Database} {a : Admission}
    {used : List String} {d : Device} (h : CommitTurn C w (t, .advance))
    (hx : w.locals t = .flushed .answered a used d) (hview : w.store.withWrites a d = .ok view) :
    C w.store a used d := by
  unfold CommitTurn at h
  rw [hx] at h
  exact h.of_withWrites hview

theorem not_atCommit {db : Database} {i : Turn} {x : Progress} (h : ¬ AtCommit C db i x) :
    ∃ a used d view, i = .advance ∧ x = .flushed .answered a used d ∧
      db.withWrites a d = .ok view ∧ ¬ C db a used d := by
  unfold AtCommit at h
  split at h
  · rename_i a used d
    rw [Classical.not_imp] at h
    cases hview : db.withWrites a d with
    | error e =>
      rw [hview] at h
      cases h.1
    | ok view => exact ⟨a, used, d, view, rfl, rfl, hview, h.2⟩
  · exact absurd trivial h

end AtCommit

/-! ### A request that runs alone -/

/-- The steps of a request, one after another. -/
def AllocCall.atOnce (c : AllocCall) (db : Database) : Except ApiError Database := do
  let a ← c.admit db
  let ip ← allocateIp db a.networkId a.network.subnet
  let view ← db.withWrites a (c.device a ip)
  c.answer view (c.device a ip)
  .ok (view.audit (c.entry a (c.device a ip)))

theorem AllocCall.mem_of_admit {c : AllocCall} {db : Database} {a : Admission}
    (h : c.admit db = .ok a) : ∀ k ∈ a.preauth, k ∈ db.preauthKeys := by
  unfold AllocCall.admit at h
  split at h
  · simp only [bind_eq_ok] at h
    obtain ⟨user, -, network, -, h⟩ := h
    cases h
    nofun
  · simp only [bind_eq_ok] at h
    obtain ⟨user, -, network, -, h⟩ := h
    cases h
    nofun
  · simp only [bind_eq_ok] at h
    obtain ⟨preauth, hvalid, -, -, network, -, h⟩ := h
    cases h
    rintro k ⟨⟩
    exact (validPreauthKey_eq_ok hvalid).1
  · simp only [bind_eq_ok] at h
    obtain ⟨preauth, hvalid, network, -, h⟩ := h
    cases h
    rintro k ⟨⟩
    exact (validPreauthKey_eq_ok hvalid).1

theorem Database.consumeKey_eq {db : Database} {k : PreAuthKey} (hk : k ∈ db.preauthKeys)
    (deviceId : Uuid) : db.consumeKey (some k) deviceId = db.usePreauthKey k deviceId := by
  rw [consumeKey, usePreauthKey]
  by_cases hreusable : k.reusable = true
  · rw [if_pos hreusable, if_pos hreusable]
    refine congrArg (fun t => { db with preauthKeys := t }) (Table.ext_rows ?_)
    refine List.map_congr_left fun row hrow => ?_
    split_ifs with hid
    · rw [db.preauthKeys.eq_of_pk hrow hk hid]
    · rfl
  · rw [if_neg hreusable, if_neg hreusable]

theorem Database.usePreauthKey_eq {db : Database} {k : PreAuthKey} (hk : k ∈ db.preauthKeys)
    (devices : Table Device) (deviceId : Uuid) :
    ({ db with devices := devices } : Database).usePreauthKey k deviceId =
      ({ db with devices := devices } : Database).consumeKey (some k) deviceId := by
  have hk' : k ∈ ({ db with devices := devices } : Database).preauthKeys := hk
  exact (consumeKey_eq hk' deviceId).symm

/-- **The steps one after another are the handler.** -/
theorem AllocCall.handle_eq (c : AllocCall) (db : Database) :
    c.call.handle db = c.atOnce db := by
  obtain ⟨env, e, request⟩ := c
  cases request with
  | createDevice token networkId req =>
    change Prod.snd <$> createDevice env e db token networkId req = _
    simp only [createDevice, AllocCall.atOnce, AllocCall.admit, Database.withWrites,
      AllocCall.answer, bind_assoc, ok_bind, map_bind]
    rfl
  | createNodeDevice token networkId req =>
    change Prod.snd <$> createNodeDevice env e db token networkId req = _
    simp only [createNodeDevice, AllocCall.atOnce, AllocCall.admit, Database.withWrites,
      AllocCall.answer, bind_assoc, ok_bind, map_bind]
    rfl
  | enrollByKey req =>
    change Prod.snd <$> enrollByKey env e db req = _
    simp only [enrollByKey, AllocCall.atOnce, AllocCall.admit, Database.withWrites,
      AllocCall.answer, bind_assoc, ok_bind, map_bind]
    cases hvalid : validPreauthKey env db req.preauthKey with
    | error error => rfl
    | ok preauth =>
      simp only [ok_bind, Database.usePreauthKey_eq (validPreauthKey_eq_ok hvalid).1]
      rfl
  | registerDevice req =>
    change Prod.snd <$> registerDevice env e db req = _
    simp only [registerDevice, AllocCall.atOnce, AllocCall.admit, Database.withWrites,
      AllocCall.answer, bind_assoc, ok_bind, map_bind]
    cases hvalid : validPreauthKey env db req.key with
    | error error => rfl
    | ok preauth =>
      simp only [ok_bind, Database.usePreauthKey_eq (validPreauthKey_eq_ok hvalid).1]
      rfl

/-- A turn of a request that runs alone. -/
def AllocCall.turn (c : AllocCall) (s : Database × Progress) : Database × Progress :=
  c.advance .advance s.1 s.2

theorem AllocCall.iterate_turn_of_ok {c : AllocCall} {db : Database} {x : Progress}
    {r : Database × Progress} (h : c.next db x = .ok r) (n : ℕ) :
    c.turn^[n + 1] (db, x) = c.turn^[n] r := by
  rw [Function.iterate_succ_apply]
  exact congrArg c.turn^[n] (advance_of_ok h)

theorem AllocCall.iterate_turn_of_error {c : AllocCall} {db : Database} {x : Progress}
    {e : ApiError} (h : c.next db x = .error e) (n : ℕ) : c.turn^[n + 1] (db, x) = (db, .failed e) := by
  have hfixed : c.turn (db, .failed e) = (db, .failed e) := rfl
  rw [Function.iterate_succ_apply]
  exact (congrArg c.turn^[n] (advance_of_error h)).trans (Function.iterate_fixed hfixed n)

/-- Six turns in a row. -/
theorem AllocCall.iterate_turn (c : AllocCall) (db : Database) :
    (c.turn^[6] (db, .idle)).1 = serve db c.call := by
  rw [serve, c.handle_eq, atOnce]
  cases ha : c.admit db with
  | error e =>
    rw [iterate_turn_of_error (by rw [next, ha]; rfl)]
    rfl
  | ok a =>
    rw [iterate_turn_of_ok (r := (db, .admitted a)) (by rw [next, ha]; rfl), ok_bind]
    cases hip : allocateIp db a.networkId a.network.subnet with
    | error e =>
      rw [iterate_turn_of_error (by rw [next, hip]; rfl)]
      rfl
    | ok ip =>
      rw [iterate_turn_of_ok (r := (db, .allocated a (db.usedIps a.networkId) ip))
        (by rw [next, hip]; rfl), ok_bind]
      generalize hd : c.device a ip = d
      cases hadd : db.devices.add d with
      | error e =>
        have hwrites : db.withWrites a d = .error e := by rw [Database.withWrites, hadd]; rfl
        rw [iterate_turn_of_error (by rw [next, hd, hadd]; rfl), hwrites]
        rfl
      | ok devices =>
        -- the row of the key is still there
        have hpresent : ∀ k ∈ a.preauth, k.reusable = true →
            (db.preauthKeys.get? k.id).isSome = true := fun k hk _ =>
          Option.isSome_iff_exists.2
            ⟨k, Table.get?_eq_some_iff.2 ⟨AllocCall.mem_of_admit ha k hk, rfl⟩⟩
        obtain ⟨view, hview⟩ : ∃ view, db.withWrites a d = .ok view :=
          ⟨_, by rw [Database.withWrites, hadd, ok_bind]⟩
        rw [iterate_turn_of_ok (r := (db, .flushed .device a (db.usedIps a.networkId) d))
          (by rw [next, hd, hadd]; rfl),
          iterate_turn_of_ok (r := (db, .flushed .key a (db.usedIps a.networkId) d))
            (by rw [next, ensure_of hpresent]; rfl), hview, ok_bind]
        cases hanswer : c.answer view d with
        | error e =>
          rw [iterate_turn_of_error (by rw [next, hview, ok_bind, hanswer]; rfl)]
          rfl
        | ok _ =>
          rw [iterate_turn_of_ok (r := (db, .flushed .answered a (db.usedIps a.networkId) d))
            (by rw [next, hview, ok_bind, hanswer]; rfl),
            iterate_turn_of_ok (r := (view.audit (c.entry a d), .committed a d))
              (by rw [next, hview, ok_bind])]
          rfl

/-- **A request that runs alone does what its handler does.** -/
theorem run_alone (calls : ℕ → AllocCall) (t : ℕ) {w : Server} (hw : w.locals t = .idle) :
    (run (serverStep calls) w (List.replicate 6 (t, .advance))).store =
      serve w.store (calls t).call := by
  rw [← (calls t).iterate_turn w.store, ← hw]
  exact (Shared.run_replicate 6 w).1

end Midscale
