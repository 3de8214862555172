import Midscale.Run.Session
import Midscale.Sessions.Endpoints
import Midscale.Wireguard.ReconcileAll

/-!
# Background maintenance

The loop of `stale_endpoint_cleanup` and the controller's `_reconcile_all` open a session for each
pass, change rows, flush them, and close the session.

* `Database.Refreshed` : the handshakes that a pass copies are in its session.
* `staleEndpointCleanup_reflected`, `reconcileAll_reflected` : **in its session a pass does what it
  is there for.**
* `run_maintain` : no commit follows, so no number of passes changes what is committed.
* `maintenance_reflected_iff` : the committed database reflects the passes exactly if there was
  nothing to do.
-/

namespace Midscale

/-! ### The passes -/

/-- The rows that a sweep of the controller deactivates. -/
def Settings.staleThreshold (settings : Settings) (now : Timestamp) : Timestamp :=
  now - Timestamp.seconds (settings.staleDeviceDays * 86400)

/-- One pass of `_stale_endpoint_cleanup_loop`. -/
def staleEndpointCleanupPass (now : Timestamp) (committed : Database) : Database :=
  Session.transact [.change fun db => (staleEndpointCleanup now db 30).2] committed

section Pass

variable {σ : Type} (adapter : WireGuardAdapter σ) (settings : Settings) (order : SetOrder String)
  (clock : String → Timestamp)

/-- One pass of the controller. -/
def reconcilePass (now : Timestamp) (host : σ) (cycleCount : ℕ) (committed : Database) : Database :=
  Session.transact
    [.change fun db => (reconcileAll adapter settings order clock now db host cycleCount).1.session]
    committed

/-- What a cycle reads from an interface, and whether it comes to copying the handshakes. -/
structure Reading where
  interface : String
  peers : List WGPeer := []
  copied : Bool := false
  deriving DecidableEq, Repr

/-- The reading of a cycle: an interface that is not there has no peers, and an exception while
peers are removed or added ends the cycle before handshakes are copied. -/
def readInterface (db : Database) (host : σ) (interface : String) : Reading :=
  match adapter.interfaceExists host interface with
  | .error _ | .ok false => { interface }
  | .ok true =>
    match adapter.getInterfaceState host interface with
    | .error _ => { interface }
    | .ok actualState =>
      let diff := computePeerDiff order (db.getDesiredPeers settings interface)
        (actualState.peers.map (·.publicKey))
      match removePeers adapter interface diff.toRemove host { interface } with
      | (_, _, some _) => { interface, peers := actualState.peers }
      | (host, r, none) =>
        match addPeers adapter interface diff.toAdd host r with
        | (_, _, some _) => { interface, peers := actualState.peers }
        | (_, _, none) => { interface, peers := actualState.peers, copied := true }

/-- The readings of the cycles of a pass. -/
def readInterfaces : List String → Database → σ → List Reading
  | [], _, _ => []
  | interface :: interfaces, db, host =>
    let cycle := reconcileInterface adapter settings order (clock interface) db host interface
    readInterface adapter settings order db host interface ::
      match cycle.result with
      | .error _ => []
      | .ok (db', _) => readInterfaces interfaces db' cycle.host

/-- The readings of a pass over the managed interfaces. -/
def Database.readings (db : Database) (host : σ) : List Reading :=
  readInterfaces adapter settings order clock (db.managedInterfaces settings order) db host

/-- The cycles of a pass, from which it comes to its sweep. -/
def Database.cycles (db : Database) (host : σ) : PassOutcome σ :=
  reconcileInterfaces adapter settings order clock (db.managedInterfaces settings order) db host

/-- The pass comes to its sweep. -/
def Database.ReachesSweep (db : Database) (host : σ) (cycleCount : ℕ) : Prop :=
  (db.cycles adapter settings order clock host).failure = none ∧
    cleanupIntervalCycles ≤ cycleCount + 1

/-- The devices that the sweep of a pass selects. -/
def Database.swept (db : Database) (host : σ) (now : Timestamp) : List Device :=
  (db.cycles adapter settings order clock host).session.devices.select
    (Device.isStale (settings.staleThreshold now))

end Pass

/-! ### What a database reflects -/

/-- The interface of a device's network. -/
def Database.HasInterface (db : Database) (settings : Settings) (d : Device) (interface : String) :
    Prop :=
  ∃ n, db.networks.get? d.networkId = some n ∧ settings.interfaceOf n = interface

/-- Every endpoint of `before` that is active and older than the cutoff is inactive in `db`. -/
def Database.EndpointsCleaned (before db : Database) (cutoff : Timestamp) : Prop :=
  ∀ ep ∈ before.endpoints, ep.isActive = true → ep.lastSeen < cutoff →
    ∃ ep', db.endpoints.get? ep.id = some ep' ∧ ep'.isActive = false

/-- The selected devices are inactive. -/
def Database.Deactivated (db : Database) (selected : List Device) : Prop :=
  ∀ d ∈ selected, ∃ d', db.devices.get? d.id = some d' ∧ d'.isActive = false

/-- Each device's `last_handshake` is at least the newest handshake that was read for it from its
interface. -/
def Database.HandshakesKept (db : Database) (settings : Settings) (readings : List Reading) :
    Prop :=
  ∀ d ∈ db.devices, ∀ r ∈ readings, db.HasInterface settings d r.interface →
    ∀ p ∈ r.peers, d.publicKey = some p.publicKey → ∀ t ∈ p.latestHandshake,
      ∃ t' ∈ d.lastHandshake, t ≤ t'

/-! ### Handshakes in the session -/

/-- The row with the newest of its handshake and those of the peers with its key. -/
structure Device.Refreshed (peers : List WGPeer) (d d' : Device) : Prop where
  row : ∃ handshake updated, d' = { d with lastHandshake := handshake, updatedAt := updated }
  older_iff : ∀ t, d'.lastHandshake.all (· < t) = true ↔ d.lastHandshake.all (· < t) = true ∧
    ∀ p ∈ peers, d.publicKey = some p.publicKey → p.latestHandshake.all (· < t) = true

theorem Device.Refreshed.refl (d : Device) : d.Refreshed [] d :=
  ⟨⟨_, _, rfl⟩, fun t => by simp⟩

theorem Device.Refreshed.append {peers peers' : List WGPeer} {d d' d'' : Device}
    (h : d.Refreshed peers d') (h' : d'.Refreshed peers' d'') :
    d.Refreshed (peers ++ peers') d'' := by
  obtain ⟨⟨s, u, rfl⟩, holder⟩ := h
  obtain ⟨⟨s', u', rfl⟩, holder'⟩ := h'
  refine ⟨⟨s', u', rfl⟩, fun t => ?_⟩
  rw [holder' t, holder t, and_assoc, List.forall_mem_append]

theorem Device.Refreshed.publicKey {peers : List WGPeer} {d d' : Device}
    (h : d.Refreshed peers d') : d'.publicKey = d.publicKey := by
  obtain ⟨_, _, rfl⟩ := h.row
  rfl

theorem Device.Refreshed.exists_le {peers : List WGPeer} {d d' : Device}
    (h : d.Refreshed peers d') {p : WGPeer} (hp : p ∈ peers)
    (hkey : d.publicKey = some p.publicKey) {t : Timestamp} (ht : t ∈ p.latestHandshake) :
    ∃ t' ∈ d'.lastHandshake, t ≤ t' := by
  by_contra hnone
  push Not at hnone
  have holder : d'.lastHandshake.all (· < t) = true :=
    (Option.all_eq_true _ _).2 fun t' ht' => decide_eq_true (hnone t' ht')
  have hpeer := ((h.older_iff t).1 holder).2 p hp hkey
  rw [Option.mem_def.1 ht] at hpeer
  exact lt_irrefl t (of_decide_eq_true hpeer)

/-- Device by device; the other tables stay as they are. -/
structure Database.Refreshed (peers : List WGPeer) (db db' : Database) : Prop where
  frame : db' = { db with devices := db'.devices }
  rows : ∀ id, Option.Rel (Device.Refreshed peers) (db.devices.get? id) (db'.devices.get? id)

namespace Database.Refreshed

variable {peers peers' : List WGPeer} {db db' db'' : Database}

theorem refl (db : Database) : db.Refreshed [] db := by
  refine ⟨rfl, fun id => ?_⟩
  cases db.devices.get? id with
  | none => exact .none
  | some d => exact .some (.refl d)

theorem append (h : db.Refreshed peers db') (h' : db'.Refreshed peers' db'') :
    db.Refreshed (peers ++ peers') db'' := by
  refine ⟨h'.frame.trans (by rw [h.frame]), fun id => ?_⟩
  have hfirst := h.rows id
  have hsecond := h'.rows id
  generalize db.devices.get? id = row, db'.devices.get? id = row', db''.devices.get? id = row''
    at hfirst hsecond
  cases hfirst with
  | none =>
    cases hsecond
    exact .none
  | some hrow =>
    cases hsecond with
    | some hrow' => exact .some (hrow.append hrow')

theorem exists_row (h : db.Refreshed peers db') {d' : Device} (hd' : d' ∈ db'.devices) :
    ∃ d ∈ db.devices, d.Refreshed peers d' := by
  have hrel := h.rows d'.id
  rw [show db'.devices.get? d'.id = some d' from Table.get?_eq_some_iff.2 ⟨hd', rfl⟩] at hrel
  cases hrow : db.devices.get? d'.id with
  | none =>
    rw [hrow] at hrel
    cases hrel
  | some d =>
    rw [hrow] at hrel
    cases hrel with
    | some hd => exact ⟨d, (Table.get?_eq_some_iff.1 hrow).1, hd⟩

theorem exists_session (h : db.Refreshed peers db') {d : Device} (hd : d ∈ db.devices) :
    ∃ d' ∈ db'.devices, d.Refreshed peers d' := by
  have hrel := h.rows d.id
  rw [show db.devices.get? d.id = some d from Table.get?_eq_some_iff.2 ⟨hd, rfl⟩] at hrel
  cases hrow : db'.devices.get? d.id with
  | none =>
    rw [hrow] at hrel
    cases hrel
  | some d' =>
    rw [hrow] at hrel
    cases hrel with
    | some hd' => exact ⟨d', (Table.get?_eq_some_iff.1 hrow).1, hd'⟩

theorem of_not_newer {p : WGPeer} (h : ∀ d ∈ db.devices, d.publicKey = some p.publicKey →
    ∀ t, d.lastHandshake.all (· < t) = true → p.latestHandshake.all (· < t) = true) :
    db.Refreshed [p] db := by
  refine ⟨rfl, fun id => ?_⟩
  cases hrow : db.devices.get? id with
  | none => exact .none
  | some d =>
    obtain ⟨hd, -⟩ := Table.get?_eq_some_iff.1 hrow
    refine .some ⟨⟨_, _, rfl⟩, fun t => ⟨fun holder => ⟨holder, ?_⟩, And.left⟩⟩
    simp only [List.mem_singleton, forall_eq]
    exact fun hkey => h d hd hkey t holder

/-- The one row with the key of a peer takes its newer handshake. -/
theorem of_newer {p : WGPeer} {d : Device} (hd : d ∈ db.devices)
    (hone : ∀ d' ∈ db.devices, d'.publicKey = some p.publicKey → d' = d)
    (hkey : d.publicKey = some p.publicKey) {t now : Timestamp} (ht : p.latestHandshake = some t)
    (hnewer : d.lastHandshake.all (· < t) = true) :
    db.Refreshed [p]
      { db with
        devices := db.devices.modify d.id
          (fun d => { d with lastHandshake := some t, updatedAt := now }) fun _ => rfl } := by
  refine ⟨rfl, fun id => ?_⟩
  rw [Table.get?_modify]
  cases hrow : db.devices.get? id with
  | none => exact .none
  | some d' =>
    obtain ⟨hd', -⟩ := Table.get?_eq_some_iff.1 hrow
    refine .some ?_
    dsimp only
    by_cases hpk : Row.pk d' = d.id
    · obtain rfl : d' = d := db.devices.eq_of_pk hd' hd hpk
      rw [if_pos hpk]
      refine ⟨⟨_, _, rfl⟩, fun s => ?_⟩
      simp only [List.mem_singleton, forall_eq, hkey, forall_const, ht, Option.all_some,
        decide_eq_true_eq]
      refine ⟨fun hts => ⟨?_, hts⟩, And.right⟩
      rw [Option.all_eq_true] at hnewer ⊢
      intro t' ht'
      exact decide_eq_true ((of_decide_eq_true (hnewer t' ht')).trans hts)
    · rw [if_neg hpk]
      refine ⟨⟨_, _, rfl⟩, fun s => ⟨fun holder => ⟨holder, ?_⟩, And.left⟩⟩
      simp only [List.mem_singleton, forall_eq]
      intro hkey'
      exact absurd (congrArg Row.pk (hone d' hd' hkey')) hpk

end Database.Refreshed

/-- **What the session sees after a copy**: each row has the newest of its handshakes. -/
theorem syncRuntimeMetadata_refreshed (now : Timestamp) {db db' : Database} {rps : List WGPeer}
    (h : (syncRuntimeMetadata now db rps).2 = .ok db') : db.Refreshed rps db' := by
  induction rps generalizing db with
  | nil =>
    cases h
    exact .refl _
  | cons rp rps ih =>
    rw [syncRuntimeMetadata] at h
    split at h
    · -- the key of no device
      rename_i hrows
      refine Database.Refreshed.append (.of_not_newer fun d hd hkey => ?_) (ih h)
      have hmem : d ∈ db.devices.select fun d => d.publicKey = some rp.publicKey :=
        Table.mem_select.2 ⟨hd, decide_eq_true hkey⟩
      rw [hrows] at hmem
      exact absurd hmem List.not_mem_nil
    · rename_i d hrows
      have hone : ∀ d' ∈ db.devices, d'.publicKey = some rp.publicKey → d' = d := by
        intro d' hd' hkey
        have hmem : d' ∈ db.devices.select fun d => d.publicKey = some rp.publicKey :=
          Table.mem_select.2 ⟨hd', decide_eq_true hkey⟩
        rw [hrows] at hmem
        exact List.mem_singleton.1 hmem
      split at h
      · -- the handshake is not newer
        rename_i hnone
        refine Database.Refreshed.append (.of_not_newer fun d' hd' hkey t holder => ?_) (ih h)
        rw [hone d' hd' hkey] at holder
        rw [Option.filter_eq_none_iff] at hnone
        rw [Option.all_eq_true]
        intro t' ht'
        have hnewer := hnone t' ht'
        cases hlast : d.lastHandshake with
        | none => simp [hlast] at hnewer
        | some s =>
          simp only [hlast, Option.all_some, decide_eq_true_eq] at hnewer holder ⊢
          exact (not_lt.1 hnewer).trans_lt holder
      · rename_i t hsome
        rw [Option.filter_eq_some_iff] at hsome
        have hmem : d ∈ db.devices.select fun d => d.publicKey = some rp.publicKey := by
          rw [hrows]
          exact List.mem_singleton_self d
        obtain ⟨hd, hkey⟩ := Table.mem_select.1 hmem
        exact .append (.of_newer hd hone (of_decide_eq_true hkey) hsome.1 hsome.2) (ih h)
    · cases h

/-- The peers whose handshakes are copied. -/
def Reading.handshakes (r : Reading) : List WGPeer := if r.copied then r.peers else []

section Pass

variable {σ : Type} (adapter : WireGuardAdapter σ) (settings : Settings) (order : SetOrder String)
  (clock : String → Timestamp)

/-- A cycle copies the handshakes of its reading. -/
theorem reconcileInterface_refreshed (now : Timestamp) {db db' : Database} {host : σ}
    {interface : String} {r : ReconciliationResult}
    (h : (reconcileInterface adapter settings order now db host interface).result =
      .ok (db', r)) :
    db.Refreshed (readInterface adapter settings order db host interface).handshakes db' := by
  -- an exception that the cycle catches leaves the database as it is
  have hfailed : ∀ {r₀ e}, (handleError r₀ e).map (db, ·) = .ok (db', r) →
      db.Refreshed [] db' := by
    intro r₀ e herror
    obtain ⟨r₁, -, hr₁⟩ := map_eq_ok.1 herror
    cases hr₁
    exact .refl db
  unfold reconcileInterface at h
  unfold readInterface
  cases hexists : adapter.interfaceExists host interface with
  | error e =>
    rw [hexists] at h
    exact hfailed h
  | ok found =>
    rw [hexists] at h
    cases found with
    | false =>
      cases h
      exact .refl db
    | true =>
      cases hstate : adapter.getInterfaceState host interface with
      | error e =>
        rw [hstate] at h
        exact hfailed h
      | ok actualState =>
        rw [hstate] at h
        dsimp only at h ⊢
        generalize removePeers adapter interface _ host _ = removed at h ⊢
        obtain ⟨host₁, r₁, _ | e⟩ := removed
        · dsimp only at h ⊢
          generalize addPeers adapter interface _ host₁ r₁ = added at h ⊢
          obtain ⟨host₂, r₂, _ | e⟩ := added
          · obtain ⟨db₁, hsync, hdb₁⟩ := map_eq_ok.1 h
            cases hdb₁
            exact syncRuntimeMetadata_refreshed now hsync
          · exact hfailed h
        · exact hfailed h

theorem reconcileInterfaces_refreshed (interfaces : List String) {db : Database} {host : σ}
    (h : (reconcileInterfaces adapter settings order clock interfaces db host).failure = none) :
    db.Refreshed
      ((readInterfaces adapter settings order clock interfaces db host).flatMap
        Reading.handshakes)
      (reconcileInterfaces adapter settings order clock interfaces db host).session := by
  induction interfaces generalizing db host with
  | nil => exact .refl db
  | cons interface interfaces ih =>
    unfold reconcileInterfaces at h ⊢
    unfold readInterfaces
    dsimp only at h ⊢
    cases hcycle : (reconcileInterface adapter settings order (clock interface) db host
      interface).result with
    | error e =>
      rw [hcycle] at h
      cases h
    | ok cycle =>
      rw [hcycle] at h
      rw [List.flatMap_cons]
      exact (reconcileInterface_refreshed adapter settings order _ hcycle).append (ih h)

end Pass

/-! ### What the sessions have done -/

theorem Device.publicKey_cleaned (now threshold : Timestamp) (d : Device) :
    (d.cleaned now threshold).publicKey = d.publicKey := by
  unfold cleaned
  split_ifs <;> rfl

theorem Device.lastHandshake_cleaned (now threshold : Timestamp) (d : Device) :
    (d.cleaned now threshold).lastHandshake = d.lastHandshake := by
  unfold cleaned
  split_ifs <;> rfl

theorem Database.cleanupStalePeers_eq (db : Database) (settings : Settings) (now : Timestamp) :
    db.cleanupStalePeers settings now =
      { db with
        devices := db.devices.map (Device.cleaned now (settings.staleThreshold now))
          (Device.pk_cleaned now _) } :=
  rfl

/-- **In its session the loop deactivates the endpoints older than its cutoff.** -/
theorem staleEndpointCleanup_reflected (now : Timestamp) (db : Database) (maxAgeMinutes : ℤ) :
    db.EndpointsCleaned (staleEndpointCleanup now db maxAgeMinutes).2
      (now - Timestamp.seconds (maxAgeMinutes * 60)) := by
  intro ep hep hactive hold
  have hrow : db.endpoints.get? ep.id = some ep := Table.get?_eq_some_iff.2 ⟨hep, rfl⟩
  refine ⟨{ ep with isActive := false }, ?_, rfl⟩
  dsimp only [staleEndpointCleanup]
  rw [Table.get?_map, hrow, Option.map_some, DeviceEndpoint.cleaned, if_pos ⟨hactive, hold⟩]

section Reflected

variable {σ : Type} {adapter : WireGuardAdapter σ} {settings : Settings} {order : SetOrder String}
  {clock : String → Timestamp} {now : Timestamp} {db : Database} {host : σ} {cycleCount : ℕ}

theorem reconcileAll_session_of_reachesSweep
    (h : db.ReachesSweep adapter settings order clock host cycleCount) :
    (reconcileAll adapter settings order clock now db host cycleCount).1.session =
      (db.cycles adapter settings order clock host).session.cleanupStalePeers settings now := by
  unfold reconcileAll
  dsimp only
  split
  · rename_i e hfailure
    exact absurd (h.1.symm.trans hfailure) nofun
  · rw [if_pos h.2]
    rfl

/-- **In its session a pass deactivates the devices it selects, and keeps the newest of the
handshakes it copies.** -/
theorem reconcileAll_reflected
    (h : db.ReachesSweep adapter settings order clock host cycleCount) :
    let session := (reconcileAll adapter settings order clock now db host cycleCount).1.session
    session.Deactivated (db.swept adapter settings order clock host now) ∧
      session.HandshakesKept settings
        ((db.readings adapter settings order clock host).filter (·.copied)) := by
  dsimp only
  rw [reconcileAll_session_of_reachesSweep h, Database.cleanupStalePeers_eq]
  have hrefreshed := reconcileInterfaces_refreshed adapter settings order clock
    (db.managedInterfaces settings order) h.1
  refine ⟨fun d hd => ?_, fun d hd r hr _ p hp hkey t ht => ?_⟩
  · obtain ⟨hd, hstale⟩ := Table.mem_select.1 hd
    have hrow : (db.cycles adapter settings order clock host).session.devices.get? d.id = some d :=
      Table.get?_eq_some_iff.2 ⟨hd, rfl⟩
    refine ⟨{ d with isActive := false, updatedAt := now }, ?_, rfl⟩
    rw [Table.get?_map, hrow, Option.map_some, Device.cleaned, if_pos hstale]
  · obtain ⟨d₁, hd₁, rfl⟩ := List.mem_map.1 hd
    obtain ⟨hr, hcopied⟩ := List.mem_filter.1 hr
    have hp' : p ∈ (db.readings adapter settings order clock host).flatMap Reading.handshakes :=
      List.mem_flatMap.2 ⟨r, hr, by rwa [Reading.handshakes, if_pos hcopied]⟩
    obtain ⟨d₀, -, hdevice⟩ := hrefreshed.exists_row hd₁
    rw [Device.publicKey_cleaned] at hkey
    rw [Device.lastHandshake_cleaned]
    exact hdevice.exists_le hp' (hdevice.publicKey.symm.trans hkey) ht

end Reflected

/-! ### What is committed -/

section Committed

variable {σ : Type} (adapter : WireGuardAdapter σ) (settings : Settings) (order : SetOrder String)

/-- A pass of one of the two loops. -/
inductive MaintenancePass (σ : Type) where
  | staleEndpointCleanup (now : Timestamp)
  | reconcileAll (clock : String → Timestamp) (now : Timestamp) (host : σ) (cycleCount : ℕ)

/-- What is committed after a pass. -/
def maintain (committed : Database) : MaintenancePass σ → Database
  | .staleEndpointCleanup now => staleEndpointCleanupPass now committed
  | .reconcileAll clock now host cycleCount =>
    reconcilePass adapter settings order clock now host cycleCount committed

@[simp] theorem staleEndpointCleanupPass_eq (now : Timestamp) (db : Database) :
    staleEndpointCleanupPass now db = db :=
  Session.transact_of_not_commit (by simp) db

@[simp] theorem reconcilePass_eq (clock : String → Timestamp) (now : Timestamp) (host : σ)
    (cycleCount : ℕ) (db : Database) :
    reconcilePass adapter settings order clock now host cycleCount db = db :=
  Session.transact_of_not_commit (by simp) db

/-- **No number of passes changes what is committed.** -/
theorem run_maintain (passes : List (MaintenancePass σ)) (db : Database) :
    run (maintain adapter settings order) db passes = db := by
  refine run_invariant (maintain adapter settings order) (P := (· = db))
    (fun committed pass hdb => ?_) rfl passes
  rw [hdb]
  cases pass with
  | staleEndpointCleanup now => exact staleEndpointCleanupPass_eq now db
  | reconcileAll clock now host cycleCount =>
    exact reconcilePass_eq adapter settings order clock now host cycleCount db

variable (clock : String → Timestamp) (cleanedAt now : Timestamp) (host : σ) (cycleCount : ℕ)
  (db : Database)

/-- The committed database reflects a pass of the clean-up and a pass of the controller. -/
structure MaintenanceReflected : Prop where
  endpoints : db.EndpointsCleaned
    (reconcilePass adapter settings order clock now host cycleCount
      (staleEndpointCleanupPass cleanedAt db))
    (cleanedAt - Timestamp.seconds (30 * 60))
  devices : (reconcilePass adapter settings order clock now host cycleCount
      (staleEndpointCleanupPass cleanedAt db)).Deactivated
    ((staleEndpointCleanupPass cleanedAt db).swept adapter settings order clock host now)
  handshakes : (reconcilePass adapter settings order clock now host cycleCount
      (staleEndpointCleanupPass cleanedAt db)).HandshakesKept settings
    ((staleEndpointCleanupPass cleanedAt db).readings adapter settings order clock host)

/-- The database leaves the passes nothing to do. -/
structure NothingToMaintain : Prop where
  /-- Active endpoints have been seen since the cutoff. -/
  endpoints : ∀ ep ∈ db.endpoints, ep.isActive = true →
    cleanedAt - Timestamp.seconds (30 * 60) ≤ ep.lastSeen
  /-- For every stale device a newer handshake is copied. -/
  devices : ∀ d ∈ db.devices, d.isStale (settings.staleThreshold now) = true →
    ∃ r ∈ db.readings adapter settings order clock host, r.copied = true ∧
      ∃ p ∈ r.peers, d.publicKey = some p.publicKey ∧
        ∃ t ∈ p.latestHandshake, settings.staleThreshold now ≤ t
  /-- No handshake that is read is newer than the stored one. -/
  handshakes : ∀ d ∈ db.devices, ∀ r ∈ db.readings adapter settings order clock host,
    db.HasInterface settings d r.interface → ∀ p ∈ r.peers, d.publicKey = some p.publicKey →
      ∀ t ∈ p.latestHandshake, d.lastHandshake.all (· < t) = false

end Committed

section Iff

variable {σ : Type} {adapter : WireGuardAdapter σ} {settings : Settings} {order : SetOrder String}
  {clock : String → Timestamp} {cleanedAt now : Timestamp} {host : σ} {cycleCount : ℕ}
  {db : Database}

theorem Device.isActive_of_isStale {threshold : Timestamp} {d : Device}
    (h : d.isStale threshold = true) : d.isActive = true :=
  (of_decide_eq_true h).1

theorem Device.Refreshed.isStale_iff {peers : List WGPeer} {d d' : Device}
    (h : d.Refreshed peers d') (threshold : Timestamp) :
    d'.isStale threshold = true ↔ d.isStale threshold = true ∧
      ∀ p ∈ peers, d.publicKey = some p.publicKey →
        p.latestHandshake.all (· < threshold) = true := by
  have holder := h.older_iff threshold
  obtain ⟨_, _, rfl⟩ := h.row
  simp only [isStale, decide_eq_true_eq] at holder ⊢
  rw [holder]
  tauto

/-- A device that the sweep selects is active in the committed database. -/
theorem deactivated_iff (h : db.ReachesSweep adapter settings order clock host cycleCount) :
    db.Deactivated (db.swept adapter settings order clock host now) ↔
      ∀ d ∈ db.devices, d.isStale (settings.staleThreshold now) = true →
        ∃ r ∈ db.readings adapter settings order clock host, r.copied = true ∧
          ∃ p ∈ r.peers, d.publicKey = some p.publicKey ∧
            ∃ t ∈ p.latestHandshake, settings.staleThreshold now ≤ t := by
  have hrefreshed := reconcileInterfaces_refreshed adapter settings order clock
    (db.managedInterfaces settings order) h.1
  constructor
  · intro hdeactivated d hd hstale
    obtain ⟨d', hd', hrow⟩ := hrefreshed.exists_session hd
    by_contra hnone
    push Not at hnone
    have hselected : d' ∈ db.swept adapter settings order clock host now := by
      refine Table.mem_select.2 ⟨hd', (hrow.isStale_iff _).2 ⟨hstale, fun p hp hkey => ?_⟩⟩
      obtain ⟨r, hr, hp⟩ := List.mem_flatMap.1 hp
      rw [Option.all_eq_true]
      intro t ht
      by_cases hcopied : r.copied = true
      · rw [Reading.handshakes, if_pos hcopied] at hp
        exact decide_eq_true (hnone r hr hcopied p hp hkey t ht)
      · rw [Reading.handshakes, if_neg hcopied] at hp
        exact absurd hp List.not_mem_nil
    obtain ⟨d₀, hd₀, hinactive⟩ := hdeactivated d' hselected
    have hid : d'.id = d.id := by
      obtain ⟨_, _, rfl⟩ := hrow.row
      rfl
    rw [hid, show db.devices.get? d.id = some d from Table.get?_eq_some_iff.2 ⟨hd, rfl⟩] at hd₀
    cases hd₀
    exact absurd (hinactive.symm.trans (Device.isActive_of_isStale hstale)) (by decide)
  · intro hnewer d' hd'
    obtain ⟨hd', hstale'⟩ := Table.mem_select.1 hd'
    obtain ⟨d, hd, hrow⟩ := hrefreshed.exists_row hd'
    obtain ⟨hstale, holder⟩ := (hrow.isStale_iff _).1 hstale'
    obtain ⟨r, hr, hcopied, p, hp, hkey, t, ht, hle⟩ := hnewer d hd hstale
    have hp' : p ∈ (db.readings adapter settings order clock host).flatMap Reading.handshakes :=
      List.mem_flatMap.2 ⟨r, hr, by rwa [Reading.handshakes, if_pos hcopied]⟩
    have hlt := (Option.all_eq_true _ _).1 (holder p hp' hkey) t ht
    exact absurd (of_decide_eq_true hlt) (not_lt.2 hle)

/-- **The committed database reflects the passes exactly if they have nothing to do**: their
sessions are closed without a commit. -/
theorem maintenance_reflected_iff
    (h : db.ReachesSweep adapter settings order clock host cycleCount) :
    MaintenanceReflected adapter settings order clock cleanedAt now host cycleCount db ↔
      NothingToMaintain adapter settings order clock cleanedAt now host db := by
  have hendpoints : db.EndpointsCleaned db (cleanedAt - Timestamp.seconds (30 * 60)) ↔
      ∀ ep ∈ db.endpoints, ep.isActive = true →
        cleanedAt - Timestamp.seconds (30 * 60) ≤ ep.lastSeen := by
    refine forall₂_congr fun ep hep => forall_congr' fun hactive => ?_
    have hrow : db.endpoints.get? ep.id = some ep := Table.get?_eq_some_iff.2 ⟨hep, rfl⟩
    simp [hrow, hactive]
  have hhandshakes : db.HandshakesKept settings
        (db.readings adapter settings order clock host) ↔
      ∀ d ∈ db.devices, ∀ r ∈ db.readings adapter settings order clock host,
        db.HasInterface settings d r.interface → ∀ p ∈ r.peers,
          d.publicKey = some p.publicKey → ∀ t ∈ p.latestHandshake,
            d.lastHandshake.all (· < t) = false := by
    refine forall₂_congr fun d _ => forall₂_congr fun r _ => forall_congr' fun _ =>
      forall₂_congr fun p _ => forall_congr' fun _ => forall₂_congr fun t _ => ?_
    cases d.lastHandshake <;> simp
  constructor
  · rintro ⟨hep, hdev, hkept⟩
    simp only [reconcilePass_eq, staleEndpointCleanupPass_eq] at hep hdev hkept
    exact ⟨hendpoints.1 hep, (deactivated_iff h).1 hdev, hhandshakes.1 hkept⟩
  · rintro ⟨hep, hdev, hkept⟩
    constructor
    · simp only [reconcilePass_eq, staleEndpointCleanupPass_eq]
      exact hendpoints.2 hep
    · simp only [reconcilePass_eq, staleEndpointCleanupPass_eq]
      exact (deactivated_iff h).2 hdev
    · simp only [reconcilePass_eq, staleEndpointCleanupPass_eq]
      exact hhandshakes.2 hkept

end Iff

/-- An office with a router that has never been connected, and a camera. -/
def quietOffice (routerActive : Bool) (cameraSeen routerSeen : Timestamp) : Database where
  networks := .ofRows [{ id := Uuid.ofNat 32, name := "branch", subnet := "10.0.0.0/24" }]
  devices := .ofRows [
    { id := Uuid.ofNat 33, name := "router", networkId := Uuid.ofNat 32
      publicKey := some "key-r", ipAddress := some "10.0.0.2", isActive := routerActive },
    { id := Uuid.ofNat 34, name := "camera", networkId := Uuid.ofNat 32
      publicKey := some "key-c", ipAddress := some "10.0.0.3"
      lastHandshake := some cameraSeen }] (show [Uuid.ofNat 33, Uuid.ofNat 34].Nodup by decide)
  endpoints := .ofRows [
    { id := Uuid.ofNat 35, deviceId := Uuid.ofNat 33, endpoint := "192.0.2.7", port := 51820
      source := "reported", lastSeen := routerSeen }] (List.nodup_singleton _)

/-- A number of days as a timestamp. -/
def onDay (n : ℤ) : Timestamp := Timestamp.seconds (n * 86400)

/-- The interface, with a handshake of the camera on day forty. -/
def cameraHost : WgMockAdapter where
  interfaces := Dict.empty.set "wg0"
    { name := "wg0"
      peers := [{ publicKey := "key-c", latestHandshake := some (onDay 40) }]
      keys_nodup := List.nodup_singleton _ }

theorem readings_quietOffice (routerActive : Bool) :
    ∀ seen ∈ [onDay 1, onDay 40], ∀ routerSeen ∈ [onDay 1, onDay 41],
      (quietOffice routerActive seen routerSeen).readings WgMockAdapter.adapter {}
          (SetOrder.dedup String) (fun _ => onDay 41) cameraHost =
        [{ interface := "wg0"
           peers := [{ publicKey := "key-c", latestHandshake := some (onDay 40) }]
           copied := true }] := by
  cases routerActive <;> decide +kernel

/-- The router has been deactivated, its endpoint is recent and the handshake is stored. -/
theorem maintenance_reflected_iff_quiet :
    MaintenanceReflected WgMockAdapter.adapter {} (SetOrder.dedup String) (fun _ => onDay 41)
      (onDay 41) (onDay 41) cameraHost 119 (quietOffice false (onDay 40) (onDay 41)) := by
  refine (maintenance_reflected_iff ⟨by decide +kernel, by decide⟩).2 ⟨by decide, ?_, ?_⟩
  · intro d hd hstale
    exact absurd hstale (by revert d; decide)
  · rw [readings_quietOffice false (onDay 40) (by decide) (onDay 41) (by decide)]
    simp only [List.mem_singleton, forall_eq]
    intro d hd _ hkey t ht
    cases ht
    have hdecided : ∀ d ∈ (quietOffice false (onDay 40) (onDay 41)).devices,
        d.publicKey = some "key-c" → d.lastHandshake.all (· < onDay 40) = false := by decide
    exact hdecided d hd hkey

/-- On day forty-one the router and its endpoint are still active, and the handshake of the camera
is the one of day one. -/
theorem maintenance_rolled_back :
    let db := quietOffice true (onDay 1) (onDay 1)
    let committed := reconcilePass WgMockAdapter.adapter {} (SetOrder.dedup String)
      (fun _ => onDay 41) (onDay 41) cameraHost 119 (staleEndpointCleanupPass (onDay 41) db)
    db.ReachesSweep WgMockAdapter.adapter {} (SetOrder.dedup String) (fun _ => onDay 41)
      cameraHost 119 ∧
    ¬ db.EndpointsCleaned committed (onDay 41 - Timestamp.seconds (30 * 60)) ∧
    ¬ committed.Deactivated
      (db.swept WgMockAdapter.adapter {} (SetOrder.dedup String) (fun _ => onDay 41) cameraHost
        (onDay 41)) ∧
    ¬ committed.HandshakesKept {}
      (db.readings WgMockAdapter.adapter {} (SetOrder.dedup String) (fun _ => onDay 41)
        cameraHost) ∧
    ¬ MaintenanceReflected WgMockAdapter.adapter {} (SetOrder.dedup String) (fun _ => onDay 41)
      (onDay 41) (onDay 41) cameraHost 119 db := by
  intro db committed
  have hcommitted : committed = db := by
    simp only [committed, reconcilePass_eq, staleEndpointCleanupPass_eq]
  have hendpoints : ¬ db.EndpointsCleaned db (onDay 41 - Timestamp.seconds (30 * 60)) := by
    intro hcleaned
    obtain ⟨ep, hep, hinactive⟩ := hcleaned _ List.mem_cons_self rfl (by decide)
    cases hep
    cases hinactive
  rw [hcommitted]
  refine ⟨⟨by decide +kernel, by decide⟩, hendpoints, ?_, ?_, fun hreflected => hendpoints ?_⟩
  · intro hdeactivated
    have hswept : db.swept WgMockAdapter.adapter {} (SetOrder.dedup String) (fun _ => onDay 41)
        cameraHost (onDay 41) = db.devices.select (·.name = "router") := by decide +kernel
    rw [hswept] at hdeactivated
    obtain ⟨d, hd, hinactive⟩ := hdeactivated _ List.mem_cons_self
    cases hd
    cases hinactive
  · intro hkept
    rw [readings_quietOffice true (onDay 1) (by decide) (onDay 1) (by decide)] at hkept
    obtain ⟨t, ht, hle⟩ := hkept _ (List.mem_cons_of_mem _ List.mem_cons_self) _
      List.mem_cons_self ⟨_, rfl, rfl⟩ _ List.mem_cons_self rfl _ rfl
    cases ht
    exact absurd hle (by decide)
  · have h := hreflected.endpoints
    simp only [reconcilePass_eq, staleEndpointCleanupPass_eq] at h
    exact h

end Midscale
