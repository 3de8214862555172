import Midscale.Data.Json
import Midscale.Topology.Snapshot
import Midscale.Wireguard.Adapter

/-!
# The interface controller

One cycle of `WireGuardController._reconcile_interface`: read the desired peers from the
database, compare them with the peers on the interface, remove and add peers, copy handshakes
back into the database.

* `Converged` : what a cycle is to achieve.
* `WgMockAdapter.reconcileInterface_spec` : what a cycle does to the peers of an interface.
* `reconcileInterface_converges_iff` : **a cycle achieves it exactly when the peers that are
  already there have the desired AllowedIPs** (and devices sharing a key agree): the third class
  of the diff, the peers to update, is computed and never applied.
-/

namespace Midscale

/-- An event on the event bus. -/
structure Event where
  eventType : String
  data : List (String × Json)

/-- Desired state for a single peer from the database perspective. -/
structure DesiredPeer where
  publicKey : String
  allowedIps : List String := []
  remove : Bool := false
  deriving DecidableEq, Repr

/-- Result of comparing desired vs actual peer state. -/
structure PeerDiff where
  toAdd : List DesiredPeer := []
  toUpdate : List DesiredPeer := []
  toRemove : List DesiredPeer := []
  deriving DecidableEq, Repr

/-- Result of a single reconciliation cycle for one interface. -/
structure ReconciliationResult where
  interface : String
  peersAdded : ℕ := 0
  peersRemoved : ℕ := 0
  peersUpdated : ℕ := 0
  errors : List String := []
  deriving DecidableEq, Repr

/-- `_compute_peer_diff`; `order` is the iteration order of the set of orphaned keys. -/
def computePeerDiff (order : SetOrder String) (desired : List DesiredPeer)
    (actualKeys : List String) : PeerDiff :=
  let desiredKeys := (desired.filter fun p => !p.remove).map (·.publicKey)
  let removeKeys := (desired.filter fun p => p.remove).map (·.publicKey)
  let orphaned := order.elems (actualKeys.filter fun k => k ∉ desiredKeys ∧ k ∉ removeKeys)
  { toAdd := desired.filter fun p => !p.remove ∧ p.publicKey ∉ actualKeys
    toUpdate := desired.filter fun p => !p.remove ∧ p.publicKey ∈ actualKeys
    toRemove := (desired.filter fun p => p.remove ∧ p.publicKey ∈ actualKeys) ++
      orphaned.map fun k => { publicKey := k, remove := true } }

/-! ### Desired peers -/

/-- `network.interface_name or settings.wireguard_interface`. -/
def Settings.interfaceOf (settings : Settings) (network : Network) : String :=
  match network.interfaceName with
  | some name => if name ≠ "" then name else settings.wireguardInterface
  | none => settings.wireguardInterface

/-- The devices with a peer on the interface, in the order of the joined rows. -/
def Database.interfaceDevices (db : Database) (settings : Settings) (interface : String) :
    List Device :=
  db.devices.select fun d =>
    d.isActive ∧ d.publicKey.isSome ∧ d.ipAddress.isSome ∧ d.name ≠ serverName ∧
      (db.networks.get? d.networkId).any fun n => settings.interfaceOf n = interface

/-- `routes_by_device` of the controller: the routes of all networks. -/
def Database.allRoutesByDevice (db : Database) : Dict String (List String) :=
  Dict.groupBy (·.deviceId.str) (·.pfx) (db.routes.select fun r => r.approved ∧ r.enabled)

/-- The desired peer of a device. -/
def Database.desiredPeer (db : Database) (d : Device) : DesiredPeer where
  publicKey := d.publicKey.getD ""
  allowedIps := hostRoute (d.ipAddress.getD "") :: db.allRoutesByDevice.getD d.id.str []

/-- `_get_desired_peers`. -/
def Database.getDesiredPeers (db : Database) (settings : Settings) (interface : String) :
    List DesiredPeer :=
  (db.interfaceDevices settings interface).map db.desiredPeer

/-! ### Stale devices -/

/-- No handshake since the threshold, and created before it. -/
def Device.isStale (threshold : Timestamp) (d : Device) : Bool :=
  d.isActive ∧ d.lastHandshake.all (fun t => t < threshold) ∧ d.createdAt < threshold

/-- The row after `_cleanup_stale_peers`. -/
def Device.cleaned (now threshold : Timestamp) (d : Device) : Device :=
  if d.isStale threshold then { d with isActive := false, updatedAt := now } else d

theorem Device.pk_cleaned (now threshold : Timestamp) (d : Device) :
    Row.pk (d.cleaned now threshold) = Row.pk d := by
  unfold cleaned
  split_ifs <;> rfl

/-- `_cleanup_stale_peers`. -/
def Database.cleanupStalePeers (db : Database) (settings : Settings) (now : Timestamp) : Database :=
  let threshold := now - Timestamp.seconds (settings.staleDeviceDays * 86400)
  { db with
    devices := db.devices.map (Device.cleaned now threshold) (Device.pk_cleaned now threshold) }

/-! ### Applying a diff -/

section Cycle

variable {σ : Type} (adapter : WireGuardAdapter σ)

/-- The exceptions that the loops over the diff catch for one peer. -/
def WireGuardError.isCaughtPerPeer : WireGuardError → Bool
  | interfaceNotFound _ | keyError _ => true
  | commandError .. | peerNotFound .. | configurationError _ => false

/-- The loop over `diff.to_remove`, with the exception that ends it early. -/
def removePeers (interface : String) :
    List DesiredPeer → σ → ReconciliationResult →
      σ × ReconciliationResult × Option WireGuardError
  | [], s, r => (s, r, none)
  | p :: ps, s, r =>
    match adapter.removePeer s interface p.publicKey with
    | (s', .ok ()) => removePeers interface ps s' { r with peersRemoved := r.peersRemoved + 1 }
    | (s', .error e) =>
      if e.isCaughtPerPeer then
        removePeers interface ps s'
          { r with errors := r.errors ++ ["remove " ++ keyPrefix p.publicKey ++ ": " ++ e.str] }
      else (s', r, some e)

/-- The loop over `diff.to_add`, with the exception that ends it early. -/
def addPeers (interface : String) :
    List DesiredPeer → σ → ReconciliationResult →
      σ × ReconciliationResult × Option WireGuardError
  | [], s, r => (s, r, none)
  | p :: ps, s, r =>
    match adapter.addPeer s interface p.publicKey p.allowedIps with
    | (s', .ok ()) => addPeers interface ps s' { r with peersAdded := r.peersAdded + 1 }
    | (s', .error e) =>
      if e.isCaughtPerPeer then
        addPeers interface ps s'
          { r with errors := r.errors ++ ["add " ++ keyPrefix p.publicKey ++ ": " ++ e.str] }
      else (s', r, some e)

/-- The device is online: its last handshake is less than 180 seconds old. -/
def isOnline (now : Timestamp) (lastHandshake : Option Timestamp) : Bool :=
  lastHandshake.any fun t => now - t < Timestamp.seconds 180

/-- The event for a device that comes online or goes offline. -/
def presenceEvent (d : Device) (lastHandshake : Option Timestamp) (online : Bool) : Event :=
  if online then
    { eventType := "device.online"
      data := [("device_id", .str d.id.str), ("device_name", .str d.name)] }
  else
    { eventType := "device.offline"
      data := [("device_id", .str d.id.str), ("device_name", .str d.name),
        ("last_seen", .str ((lastHandshake.map Timestamp.isoformat).getD ""))] }

/-- `_sync_runtime_metadata`: the published events, and the database or the exception
`MultipleResultsFound` of a key that two devices share. -/
def syncRuntimeMetadata (now : Timestamp) :
    Database → List WGPeer → List Event × Except String Database
  | db, [] => ([], .ok db)
  | db, rp :: rps =>
    match db.devices.select fun d => d.publicKey = some rp.publicKey with
    | [] => syncRuntimeMetadata now db rps
    | [d] =>
      match rp.latestHandshake.filter fun t => d.lastHandshake.all fun t' => t' < t with
      | none => syncRuntimeMetadata now db rps
      | some t =>
        let wasOnline := isOnline now d.lastHandshake
        let online := isOnline now (some t)
        let db' := { db with
          devices := db.devices.modify d.id
            (fun d => { d with lastHandshake := some t, updatedAt := now }) fun _ => rfl }
        let (events, result) := syncRuntimeMetadata now db' rps
        (if online = wasOnline then events else presenceEvent d (some t) online :: events, result)
    | _ :: _ :: _ => ([], .error "MultipleResultsFound")

/-- What an exception that leaves the `try` block makes of the result. -/
def handleError (r : ReconciliationResult) : WireGuardError → Except String ReconciliationResult
  | .interfaceNotFound _ => .ok r
  | .commandError c n s =>
    .ok { r with errors := r.errors ++ ["command error: " ++ (WireGuardError.commandError c n s).str] }
  | e => .error e.str

/-- The outcome of a cycle: the host, the events, and the database with the result unless an
exception is raised. -/
structure CycleOutcome (σ : Type) where
  host : σ
  events : List Event := []
  result : Except String (Database × ReconciliationResult)

/-- `_reconcile_interface`.  The adapter gives the state of the interface as it is before the diff is
applied, and `_sync_runtime_metadata` reads that. -/
def reconcileInterface (settings : Settings) (order : SetOrder String) (now : Timestamp)
    (db : Database) (host : σ) (interface : String) : CycleOutcome σ :=
  let r : ReconciliationResult := { interface }
  let failed (host : σ) (r : ReconciliationResult) (e : WireGuardError) : CycleOutcome σ :=
    { host, result := (handleError r e).map (db, ·) }
  match adapter.interfaceExists host interface with
  | .error e => failed host r e
  | .ok false => { host, result := .ok (db, r) }
  | .ok true =>
    match adapter.getInterfaceState host interface with
    | .error e => failed host r e
    | .ok actualState =>
      let diff := computePeerDiff order (db.getDesiredPeers settings interface)
        (actualState.peers.map (·.publicKey))
      -- `diff.toUpdate` is not applied
      match removePeers adapter interface diff.toRemove host r with
      | (host, r, some e) => failed host r e
      | (host, r, none) =>
        match addPeers adapter interface diff.toAdd host r with
        | (host, r, some e) => failed host r e
        | (host, r, none) =>
          let (events, synced) := syncRuntimeMetadata now db actualState.peers
          { host, events, result := synced.map (·, r) }

end Cycle

/-! ### What a cycle does to the mock adapter -/

namespace WgMockAdapter

variable {m : WgMockAdapter} {interface : String} {st : WGInterface}

theorem removePeers_spec (h : m.interfaces.get? interface = some st) (ps : List DesiredPeer)
    (r : ReconciliationResult) : ∃ m' r', removePeers adapter interface ps m r = (m', r', none) ∧
      m'.interfaces.get? interface =
        some (ps.foldl (fun st p => st.removePeer p.publicKey) st) := by
  induction ps generalizing m st r with
  | nil => exact ⟨m, r, rfl, h⟩
  | cons p ps ih => exact ih (get?_removePeer h p.publicKey) _

theorem addPeers_spec (h : m.interfaces.get? interface = some st) (ps : List DesiredPeer)
    (r : ReconciliationResult) : ∃ m' r', addPeers adapter interface ps m r = (m', r', none) ∧
      m'.interfaces.get? interface = some (ps.foldl
        (fun st p => st.addPeer { publicKey := p.publicKey, allowedIps := p.allowedIps }) st) := by
  induction ps generalizing m st r with
  | nil => exact ⟨m, r, rfl, h⟩
  | cons p ps ih => exact ih (get?_addPeer h p.publicKey p.allowedIps) _

end WgMockAdapter

namespace WGInterface

theorem mem_foldl_removePeer {ps : List DesiredPeer} {st : WGInterface} {q : WGPeer} :
    q ∈ (ps.foldl (fun st p => st.removePeer p.publicKey) st).peers ↔
      q ∈ st.peers ∧ ∀ p ∈ ps, p.publicKey ≠ q.publicKey := by
  induction ps generalizing st with
  | nil => simp
  | cons p ps ih =>
    have hp : q ∈ (st.removePeer p.publicKey).peers ↔ q ∈ st.peers ∧ q.publicKey ≠ p.publicKey := by
      simp only [removePeer, List.mem_filter, decide_eq_true_eq]
    rw [List.foldl_cons, ih, hp, List.forall_mem_cons, ne_comm, and_assoc]

theorem foldl_addPeer_spec (ps : List DesiredPeer) (st : WGInterface) :
    let st' := ps.foldl
      (fun st p => st.addPeer { publicKey := p.publicKey, allowedIps := p.allowedIps }) st
    (∀ q ∈ st.peers, (∀ p ∈ ps, p.publicKey ≠ q.publicKey) → q ∈ st'.peers) ∧
    (∀ q ∈ st'.peers, q ∈ st.peers ∨
      ∃ p ∈ ps, p.publicKey = q.publicKey ∧ p.allowedIps = q.allowedIps) ∧
    (∀ q ∈ st.peers, ∃ q' ∈ st'.peers, q'.publicKey = q.publicKey) ∧
    ∀ p ∈ ps, ∃ q ∈ st'.peers, q.publicKey = p.publicKey := by
  induction ps generalizing st with
  | nil => exact ⟨fun q hq _ => hq, fun q hq => .inl hq, fun q hq => ⟨q, hq, rfl⟩, by simp⟩
  | cons p ps ih =>
    set new : WGPeer := { publicKey := p.publicKey, allowedIps := p.allowedIps } with hnew
    obtain ⟨hkeep, horigin, hkeys, hcover⟩ := ih (st.addPeer new)
    have hself : new ∈ (st.addPeer new).peers := mem_putPeer_self ..
    refine ⟨fun q hq hne => ?_, fun q hq => ?_, fun q hq => ?_, fun p' hp' => ?_⟩
    · rw [List.forall_mem_cons] at hne
      exact hkeep q (mem_putPeer_of_ne hq hne.1.symm) hne.2
    · rcases horigin q hq with hq | ⟨p', hp', h⟩
      · rcases mem_of_mem_putPeer hq with rfl | hq
        · exact .inr ⟨p, List.mem_cons_self, rfl, rfl⟩
        · exact .inl hq
      · exact .inr ⟨p', List.mem_cons_of_mem _ hp', h⟩
    · by_cases hk : q.publicKey = p.publicKey
      · obtain ⟨q', hq', hk'⟩ := hkeys new hself
        exact ⟨q', hq', hk'.trans hk.symm⟩
      · exact hkeys q (mem_putPeer_of_ne hq hk)
    · rcases List.mem_cons.1 hp' with rfl | hp'
      · exact hkeys new hself
      · exact hcover p' hp'

end WGInterface

theorem remove_of_mem_getDesiredPeers {db : Database} {settings : Settings} {interface : String}
    {d : DesiredPeer} (h : d ∈ db.getDesiredPeers settings interface) : d.remove = false := by
  obtain ⟨dev, -, rfl⟩ := List.mem_map.1 h
  rfl

section Diff

variable {order : SetOrder String} {desired : List DesiredPeer} {keys : List String}

theorem mem_toAdd_iff (h : ∀ d ∈ desired, d.remove = false) {p : DesiredPeer} :
    p ∈ (computePeerDiff order desired keys).toAdd ↔ p ∈ desired ∧ p.publicKey ∉ keys := by
  simp only [computePeerDiff, List.mem_filter, decide_eq_true_eq]
  constructor
  · rintro ⟨hp, -, hk⟩
    exact ⟨hp, hk⟩
  · rintro ⟨hp, hk⟩
    exact ⟨hp, by simp [h p hp], hk⟩

theorem exists_toRemove_iff (h : ∀ d ∈ desired, d.remove = false) {k : String} :
    (∃ p ∈ (computePeerDiff order desired keys).toRemove, p.publicKey = k) ↔
      k ∈ keys ∧ ∀ d ∈ desired, d.publicKey ≠ k := by
  have hnone : (desired.filter fun p => p.remove) = [] :=
    List.filter_eq_nil_iff.2 fun d hd => by simp [h d hd]
  have hnone' : (desired.filter fun p => p.remove ∧ p.publicKey ∈ keys) = [] :=
    List.filter_eq_nil_iff.2 fun d hd => by simp [h d hd]
  have hall : (desired.filter fun p => !p.remove) = desired :=
    List.filter_eq_self.2 fun d hd => by simp [h d hd]
  simp only [computePeerDiff, hnone, hnone', hall, List.nil_append, List.map_nil,
    List.not_mem_nil, not_false_eq_true, and_true, List.mem_map, order.mem_elems,
    List.mem_filter, decide_eq_true_eq, not_exists, not_and, exists_exists_and_eq_and,
    exists_eq_right]

end Diff

/-- **What a cycle does to an interface**: the peers whose keys are desired stay as they are, all
others go, and every desired key that was not there is added. -/
theorem WgMockAdapter.reconcileInterface_spec (settings : Settings) (order : SetOrder String)
    (now : Timestamp) (db : Database) {m : WgMockAdapter} {interface : String} {st : WGInterface}
    (h : m.interfaces.get? interface = some st) :
    ∃ st', (reconcileInterface adapter settings order now db m interface).host.interfaces.get?
        interface = some st' ∧
      (∀ q ∈ st.peers, (∃ d ∈ db.getDesiredPeers settings interface,
        d.publicKey = q.publicKey) → q ∈ st'.peers) ∧
      (∀ q ∈ st'.peers, (∃ d ∈ db.getDesiredPeers settings interface,
        d.publicKey = q.publicKey ∧ (q ∈ st.peers ∨ d.allowedIps = q.allowedIps))) ∧
      ∀ d ∈ db.getDesiredPeers settings interface, ∃ q ∈ st'.peers,
        q.publicKey = d.publicKey := by
  set desired := db.getDesiredPeers settings interface with hdes
  set keys := st.peers.map (·.publicKey) with hkeys
  set diff := computePeerDiff order desired keys with hdiff
  have hnot : ∀ d ∈ desired, d.remove = false := fun d hd => remove_of_mem_getDesiredPeers hd
  have hadd : ∀ p, p ∈ diff.toAdd ↔ p ∈ desired ∧ p.publicKey ∉ keys := fun p => mem_toAdd_iff hnot
  obtain ⟨m₁, r₁, hrem, hm₁⟩ := removePeers_spec h diff.toRemove { interface }
  obtain ⟨m₂, r₂, hadds, hm₂⟩ := addPeers_spec hm₁ diff.toAdd r₁
  set st₁ := diff.toRemove.foldl (fun st p => st.removePeer p.publicKey) st with hst₁
  obtain ⟨hkeep, horigin, -, hcover⟩ := st₁.foldl_addPeer_spec diff.toAdd
  have hmem₁ : ∀ q, q ∈ st₁.peers ↔ q ∈ st.peers ∧ ∃ d ∈ desired, d.publicKey = q.publicKey := by
    intro q
    rw [WGInterface.mem_foldl_removePeer]
    refine and_congr_right fun hq => ?_
    have hgone : (∃ p ∈ diff.toRemove, p.publicKey = q.publicKey) ↔
        q.publicKey ∈ keys ∧ ∀ d ∈ desired, d.publicKey ≠ q.publicKey := exists_toRemove_iff hnot
    rw [and_iff_right (List.mem_map_of_mem hq)] at hgone
    rw [← not_iff_not]
    push Not
    exact hgone
  -- the adapter never fails on an interface that exists
  have hhost : (reconcileInterface adapter settings order now db m interface).host = m₂ := by
    have hex : adapter.interfaceExists m interface = .ok true := by simp [adapter, h]
    have hget : adapter.getInterfaceState m interface = .ok st.toWGInterfaceState := by
      simp [adapter, h]
    simp only [reconcileInterface, hex, hget, ← hdes, ← hkeys, ← hdiff, hrem, hadds]
  refine ⟨_, hhost ▸ hm₂, fun q hq hd => ?_, fun q hq => ?_, fun d hd => ?_⟩
  · refine hkeep q ((hmem₁ q).2 ⟨hq, hd⟩) fun p hp hk => ?_
    exact ((hadd p).1 hp).2 (hk ▸ List.mem_map_of_mem hq)
  · rcases horigin q hq with hq | ⟨p, hp, hk, hips⟩
    · obtain ⟨hq, d, hd, hk⟩ := (hmem₁ q).1 hq
      exact ⟨d, hd, hk, .inl hq⟩
    · exact ⟨p, ((hadd p).1 hp).1, hk, .inr hips⟩
  · by_cases hk : d.publicKey ∈ keys
    · obtain ⟨q, hq, hqk⟩ := List.mem_map.1 hk
      refine ⟨q, hkeep q ((hmem₁ q).2 ⟨hq, d, hd, hqk.symm⟩) fun p hp hpk => ?_, hqk⟩
      exact ((hadd p).1 hp).2 (hpk ▸ List.mem_map_of_mem hq)
    · exact hcover d ((hadd d).2 ⟨hd, hk⟩)

/-! ### Convergence -/

/-- Two lists of AllowedIPs name the same prefixes. -/
def SameIps (l l' : List String) : Prop := ∀ s, s ∈ l ↔ s ∈ l'

/-- The peers are exactly the desired ones: the same keys, and for each key the same
AllowedIPs. -/
structure Converged (peers : List WGPeer) (desired : List DesiredPeer) : Prop where
  isDesired : ∀ p ∈ peers, ∃ d ∈ desired, d.publicKey = p.publicKey ∧
    SameIps p.allowedIps d.allowedIps
  isPresent : ∀ d ∈ desired, ∃ p ∈ peers, p.publicKey = d.publicKey ∧
    SameIps p.allowedIps d.allowedIps

/-- The peers already on the interface have the desired AllowedIPs, and desired entries with the
same key agree: a cycle has nothing to update. -/
structure NothingToUpdate (peers : List WGPeer) (desired : List DesiredPeer) : Prop where
  peers_agree : ∀ d ∈ desired, ∀ p ∈ peers, p.publicKey = d.publicKey →
    SameIps p.allowedIps d.allowedIps
  desired_agree : ∀ d ∈ desired, ∀ d' ∈ desired, d.publicKey = d'.publicKey →
    SameIps d.allowedIps d'.allowedIps

theorem SameIps.symm {l l' : List String} (h : SameIps l l') : SameIps l' l := fun s => (h s).symm

theorem SameIps.trans {l l' l'' : List String} (h : SameIps l l') (h' : SameIps l' l'') :
    SameIps l l'' := fun s => (h s).trans (h' s)

/-- **A cycle converges exactly when there is nothing to update**: outdated AllowedIPs of a peer
that is already on the interface stay. -/
theorem reconcileInterface_converges_iff (settings : Settings) (order : SetOrder String)
    (now : Timestamp) (db : Database) {m : WgMockAdapter} {interface : String} {st : WGInterface}
    (h : m.interfaces.get? interface = some st) :
    ∃ st', (reconcileInterface WgMockAdapter.adapter settings order now db m
        interface).host.interfaces.get? interface = some st' ∧
      (Converged st'.peers (db.getDesiredPeers settings interface) ↔
        NothingToUpdate st.peers (db.getDesiredPeers settings interface)) := by
  obtain ⟨st', hst', hkeep, horigin, hcover⟩ :=
    WgMockAdapter.reconcileInterface_spec settings order now db h
  refine ⟨st', hst', fun hconv => ⟨fun d hd p hp hk => ?_, fun d hd d' hd' hk => ?_⟩,
    fun hnone => ⟨fun p hp => ?_, fun d hd => ?_⟩⟩
  -- a peer that was kept is the only one with its key
  · obtain ⟨q, hq, hqk, hips⟩ := hconv.isPresent d hd
    rw [st'.eq_of_key (hkeep p hp ⟨d, hd, hk.symm⟩) hq (hk.trans hqk.symm)]
    exact hips
  · obtain ⟨q, hq, hqk, hips⟩ := hconv.isPresent d hd
    obtain ⟨q', hq', hqk', hips'⟩ := hconv.isPresent d' hd'
    rw [st'.eq_of_key hq' hq (hqk'.trans (hk.symm.trans hqk.symm))] at hips'
    exact hips.symm.trans hips'
  · obtain ⟨d, hd, hk, hp | hips⟩ := horigin p hp
    · exact ⟨d, hd, hk, hnone.peers_agree d hd p hp hk.symm⟩
    · exact ⟨d, hd, hk, fun s => by rw [hips]⟩
  · obtain ⟨q, hq, hqk⟩ := hcover d hd
    refine ⟨q, hq, hqk, ?_⟩
    obtain ⟨d', hd', hk', hp | hips⟩ := horigin q hq
    · exact hnone.peers_agree d hd q hp hqk
    · rw [← hips]
      exact hnone.desired_agree d' hd' d hd (hk'.trans hqk)

/-- A network with a router whose route has been approved. -/
def routedOffice : Database where
  networks := .ofRows [{ id := Uuid.ofNat 1, name := "branch", subnet := "10.0.0.0/24" }]
  devices := .ofRows [
    { id := Uuid.ofNat 2, name := "router", networkId := Uuid.ofNat 1
      publicKey := some "key-r", ipAddress := some "10.0.0.2" }]
  routes := .ofRows [
    { id := Uuid.ofNat 3, deviceId := Uuid.ofNat 2, networkId := Uuid.ofNat 1
      pfx := "192.168.7.0/24", enabled := true, approved := true }]

/-- The interface with some AllowedIPs of the router. -/
def officeInterface (allowedIps : List String) : WGInterface where
  name := "wg0"
  peers := [{ publicKey := "key-r", allowedIps }]
  keys_nodup := List.nodup_singleton _

/-- The host with that interface. -/
def officeHost (allowedIps : List String) : WgMockAdapter where
  interfaces := Dict.empty.set "wg0" (officeInterface allowedIps)

theorem get?_officeHost (allowedIps : List String) :
    (officeHost allowedIps).interfaces.get? "wg0" = some (officeInterface allowedIps) :=
  Dict.get?_set_self ..

/-- Once the router's peer has the route, a cycle converges. -/
theorem reconcileInterface_converges_iff_office :
    ∃ st', (reconcileInterface WgMockAdapter.adapter {} (SetOrder.dedup String) 0 routedOffice
        (officeHost ["192.168.7.0/24", "10.0.0.2/32"]) "wg0").host.interfaces.get? "wg0" = some st' ∧
      Converged st'.peers (routedOffice.getDesiredPeers {} "wg0") := by
  have hdesired : routedOffice.getDesiredPeers {} "wg0" =
      [{ publicKey := "key-r", allowedIps := ["10.0.0.2/32", "192.168.7.0/24"] }] := by decide
  obtain ⟨st', hst', hiff⟩ := reconcileInterface_converges_iff {} (SetOrder.dedup String) 0
    routedOffice (get?_officeHost ["192.168.7.0/24", "10.0.0.2/32"])
  refine ⟨st', hst', hiff.2 ?_⟩
  rw [hdesired]
  constructor
  · simp [officeInterface, SameIps, or_comm]
  · simp [SameIps]

/-- The router's peer was there before its route was approved: the cycle leaves it as it is, so
packets to the routed subnet find no peer. -/
theorem reconcileInterface_leaves_outdated_peer :
    routedOffice.getDesiredPeers {} "wg0" =
      [{ publicKey := "key-r", allowedIps := ["10.0.0.2/32", "192.168.7.0/24"] }] ∧
    ∃ st', (reconcileInterface WgMockAdapter.adapter {} (SetOrder.dedup String) 0 routedOffice
        (officeHost ["10.0.0.2/32"]) "wg0").host.interfaces.get? "wg0" = some st' ∧
      st'.peers = [{ publicKey := "key-r", allowedIps := ["10.0.0.2/32"] }] ∧
      ¬ Converged st'.peers (routedOffice.getDesiredPeers {} "wg0") := by
  have hdesired : routedOffice.getDesiredPeers {} "wg0" =
      [{ publicKey := "key-r", allowedIps := ["10.0.0.2/32", "192.168.7.0/24"] }] := by decide
  refine ⟨hdesired, _, rfl, rfl, fun hconv => ?_⟩
  rw [hdesired] at hconv
  obtain ⟨p, hp, -, hips⟩ := hconv.isPresent _ List.mem_cons_self
  rw [List.mem_singleton.1 hp] at hips
  exact absurd ((hips "192.168.7.0/24").2 (by decide)) (by decide)

end Midscale
