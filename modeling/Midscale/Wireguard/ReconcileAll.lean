import Midscale.Wireguard.Controller

/-!
# A pass of the controller

`WireGuardController._reconcile_all`: one cycle for every managed interface, in one session.  A
cycle copies handshakes into the device with the key of a peer; where two devices have the key, the
exception leaves the cycle and ends the pass, so the remaining interfaces are left as they are.

* `Database.PublicKeysDistinct` : no two devices have the same public key.
* `WireGuardAdapter.Escapes` : the exceptions of an adapter that end a pass.
* `reconcileAll_processes` : with distinct keys **a pass processes every managed interface**, unless
  the adapter raises one of these.
* `publicKeysDistinct_iff_processes` : only with distinct keys every pass of the mock adapter does.
-/

namespace Midscale

/-! ### The pass -/

/-- The event that `_publish_peer_sync_event` publishes, without the duration. -/
def ReconciliationResult.syncedEvent (r : ReconciliationResult) : Event where
  eventType := "peer.synced"
  data := [("interface", .str r.interface), ("peers_added", .int r.peersAdded),
    ("peers_removed", .int r.peersRemoved), ("peers_updated", .int r.peersUpdated),
    ("errors", .arr (r.errors.map .str))]

/-- `_get_managed_interfaces`. -/
def Database.managedInterfaces (db : Database) (settings : Settings) (order : SetOrder String) :
    List String :=
  match order.elems (db.networks.rows.map settings.interfaceOf) with
  | [] => [settings.wireguardInterface]
  | interfaces => interfaces

/-- The outcome of a pass: the host, the session's view of the database, what was published and
appended to the results, and the exception that ended the pass. -/
structure PassOutcome (σ : Type) where
  host : σ
  session : Database
  events : List Event := []
  results : List ReconciliationResult := []
  failure : Option String := none

section Pass

variable {σ : Type} (adapter : WireGuardAdapter σ) (settings : Settings) (order : SetOrder String)
  (clock : String → Timestamp)

/-- The loop over the interfaces; `clock` is read in the cycle of each. -/
def reconcileInterfaces : List String → Database → σ → PassOutcome σ
  | [], db, host => { host, session := db }
  | interface :: interfaces, db, host =>
    let cycle := reconcileInterface adapter settings order (clock interface) db host interface
    match cycle.result with
    | .error e => { host := cycle.host, session := db, events := cycle.events, failure := some e }
    | .ok (db', r) =>
      let rest := reconcileInterfaces interfaces db' cycle.host
      { rest with
        events := cycle.events ++ r.syncedEvent :: rest.events
        results := r :: rest.results }

/-- `_CLEANUP_INTERVAL_CYCLES`. -/
def cleanupIntervalCycles : ℕ := 120

/-- `_reconcile_all` with `dns_enabled` off: the outcome, and the new `_cycle_count`.  Otherwise
`_sync_dns` writes zone files in between and publishes `EVENT_DNS_UPDATED`. -/
def reconcileAll (now : Timestamp) (db : Database) (host : σ) (cycleCount : ℕ) :
    PassOutcome σ × ℕ :=
  let pass := reconcileInterfaces adapter settings order clock
    (db.managedInterfaces settings order) db host
  match pass.failure with
  | some _ => (pass, cycleCount)
  | none =>
    if cleanupIntervalCycles ≤ cycleCount + 1 then
      ({ pass with session := pass.session.cleanupStalePeers settings now }, 0)
    else (pass, cycleCount + 1)

end Pass

/-! ### Adapters -/

/-- The exceptions that `_reconcile_interface` catches around its cycle. -/
def WireGuardError.isCaughtPerCycle : WireGuardError → Bool
  | interfaceNotFound _ | commandError .. => true
  | keyError _ | peerNotFound .. | configurationError _ => false

/-- An exception that the adapter raises on the interface and that leaves the cycle.  The mock adapter
raises none; the adapter for `wg` raises one whenever it reads a dump (`parseDump` fails). -/
def WireGuardAdapter.Escapes {σ : Type} (adapter : WireGuardAdapter σ) (interface : String)
    (e : WireGuardError) : Prop :=
  e.isCaughtPerCycle = false ∧ ∃ s,
    adapter.interfaceExists s interface = .error e ∨
    adapter.getInterfaceState s interface = .error e ∨
    e.isCaughtPerPeer = false ∧
      ((∃ k ips, (adapter.addPeer s interface k ips).2 = .error e) ∨
        ∃ k, (adapter.removePeer s interface k).2 = .error e)

theorem WgMockAdapter.not_escapes (interface : String) (e : WireGuardError) :
    ¬ adapter.Escapes interface e := by
  rintro ⟨hcycle, m, hexists | hstate | ⟨-, ⟨k, ips, hadd⟩ | ⟨k, hremove⟩⟩⟩
  · cases hexists
  · simp only [adapter] at hstate
    split at hstate
    · cases hstate
    · cases hstate
      cases hcycle
  · cases hadd
  · cases hremove

theorem handleError_eq_ok {e : WireGuardError} (h : e.isCaughtPerCycle = true)
    (r : ReconciliationResult) :
    ∃ r', handleError r e = .ok r' ∧ r'.interface = r.interface := by
  cases e with
  | interfaceNotFound => exact ⟨r, rfl, rfl⟩
  | commandError => exact ⟨_, rfl, rfl⟩
  | keyError | peerNotFound | configurationError => cases h

theorem handleError_eq_error {e : WireGuardError} (h : e.isCaughtPerCycle = false)
    (r : ReconciliationResult) : handleError r e = .error e.str := by
  cases e with
  | interfaceNotFound | commandError => cases h
  | keyError | peerNotFound | configurationError => rfl

section Loops

variable {σ : Type} {adapter : WireGuardAdapter σ}

theorem removePeers_interface {interface : String} {ps : List DesiredPeer} {s s' : σ}
    {r r' : ReconciliationResult} {failure : Option WireGuardError}
    (h : removePeers adapter interface ps s r = (s', r', failure)) :
    r'.interface = r.interface ∧ ∀ e ∈ failure, e.isCaughtPerPeer = false ∧
      ∃ s k, (adapter.removePeer s interface k).2 = .error e := by
  induction ps generalizing s r with
  | nil =>
    cases h
    exact ⟨rfl, nofun⟩
  | cons p ps ih =>
    rw [removePeers] at h
    split at h
    · obtain ⟨hinterface, hcaught⟩ := ih h
      exact ⟨hinterface, hcaught⟩
    · rename_i s₁ e hp
      split_ifs at h with hcaught
      · obtain ⟨hinterface, hcaught⟩ := ih h
        exact ⟨hinterface, hcaught⟩
      · cases h
        refine ⟨rfl, ?_⟩
        rintro _ ⟨⟩
        exact ⟨Bool.eq_false_iff.2 hcaught, s, p.publicKey, congrArg Prod.snd hp⟩

theorem addPeers_interface {interface : String} {ps : List DesiredPeer} {s s' : σ}
    {r r' : ReconciliationResult} {failure : Option WireGuardError}
    (h : addPeers adapter interface ps s r = (s', r', failure)) :
    r'.interface = r.interface ∧ ∀ e ∈ failure, e.isCaughtPerPeer = false ∧
      ∃ s k ips, (adapter.addPeer s interface k ips).2 = .error e := by
  induction ps generalizing s r with
  | nil =>
    cases h
    exact ⟨rfl, nofun⟩
  | cons p ps ih =>
    rw [addPeers] at h
    split at h
    · obtain ⟨hinterface, hcaught⟩ := ih h
      exact ⟨hinterface, hcaught⟩
    · rename_i s₁ e hp
      split_ifs at h with hcaught
      · obtain ⟨hinterface, hcaught⟩ := ih h
        exact ⟨hinterface, hcaught⟩
      · cases h
        refine ⟨rfl, ?_⟩
        rintro _ ⟨⟩
        exact ⟨Bool.eq_false_iff.2 hcaught, s, p.publicKey, p.allowedIps, congrArg Prod.snd hp⟩

end Loops

/-! ### Distinct keys -/

namespace Database

/-- No two devices have the same public key. -/
def PublicKeysDistinct (db : Database) : Prop :=
  ∀ d ∈ db.devices, ∀ d' ∈ db.devices, d.publicKey.isSome = true →
    d.publicKey = d'.publicKey → d = d'

variable {db : Database}

theorem publicKeysDistinct_iff : db.PublicKeysDistinct ↔
    ∀ key, (db.devices.select fun d => d.publicKey = some key).length ≤ 1 := by
  constructor
  · intro h key
    have hnodup : (db.devices.select fun d => d.publicKey = some key).Nodup :=
      (List.Nodup.of_map _ db.devices.pk_nodup).filter _
    match hrows : db.devices.select fun d => d.publicKey = some key with
    | [] | [_] => simp
    | d :: d' :: rest =>
      have hmem : ∀ r ∈ d :: d' :: rest, r ∈ db.devices ∧ r.publicKey = some key := by
        intro r hr
        rw [← hrows, Table.mem_select, decide_eq_true_eq] at hr
        exact hr
      obtain ⟨hd, hkey⟩ := hmem d List.mem_cons_self
      obtain ⟨hd', hkey'⟩ := hmem d' (List.mem_cons_of_mem _ List.mem_cons_self)
      rw [hrows] at hnodup
      exact absurd (h d hd d' hd' (hkey ▸ rfl) (hkey.trans hkey'.symm) ▸ List.mem_cons_self)
        (List.nodup_cons.1 hnodup).1
  · intro h d hd d' hd' hsome hkey
    obtain ⟨key, hdkey⟩ := Option.isSome_iff_exists.1 hsome
    have hmem : ∀ r ∈ db.devices, r.publicKey = some key →
        r ∈ db.devices.select fun d => d.publicKey = some key :=
      fun r hr hrkey => Table.mem_select.2 ⟨hr, decide_eq_true hrkey⟩
    obtain ⟨r, hr⟩ := List.length_eq_one_iff.1
      (le_antisymm (h key) (List.length_pos_of_mem (hmem d hd hdkey)))
    simp only [hr, List.mem_singleton] at hmem
    rw [hmem d hd hdkey, hmem d' hd' (hkey ▸ hdkey)]

/-- Changes of a row that keep its key keep the keys distinct. -/
theorem PublicKeysDistinct.modify (h : db.PublicKeysDistinct) {id : Uuid} {f : Device → Device}
    {hf : ∀ d, Row.pk (f d) = Row.pk d} (hkey : ∀ d, (f d).publicKey = d.publicKey) :
    PublicKeysDistinct { db with devices := db.devices.modify id f hf } := by
  have hcolumn : ∀ d : Device,
      (if Row.pk d = id then f d else d).publicKey = d.publicKey := by
    intro d
    split_ifs
    · exact hkey d
    · rfl
  intro d hd d' hd' hsome heq
  obtain ⟨r, hr, rfl⟩ := List.mem_map.1 hd
  obtain ⟨r', hr', rfl⟩ := List.mem_map.1 hd'
  rw [hcolumn] at hsome
  rw [hcolumn, hcolumn] at heq
  rw [h r hr r' hr' hsome heq]

end Database

theorem syncRuntimeMetadata_ok (now : Timestamp) {db : Database} (h : db.PublicKeysDistinct)
    (rps : List WGPeer) : ∃ db', (syncRuntimeMetadata now db rps).2 = .ok db' ∧
      db'.PublicKeysDistinct := by
  induction rps generalizing db with
  | nil => exact ⟨db, rfl, h⟩
  | cons rp rps ih =>
    have hone := Database.publicKeysDistinct_iff.1 h rp.publicKey
    rw [syncRuntimeMetadata]
    split
    · exact ih h
    · split
      · exact ih h
      · exact ih (h.modify fun _ => rfl)
    · rename_i hrows
      rw [hrows] at hone
      simp at hone

/-- With distinct keys a cycle comes to its end, unless an exception of the adapter leaves it. -/
theorem reconcileInterface_ok {σ : Type} (adapter : WireGuardAdapter σ) (settings : Settings)
    (order : SetOrder String) (now : Timestamp) {db : Database} (h : db.PublicKeysDistinct)
    (host : σ) (interface : String) :
    (∃ db' r, (reconcileInterface adapter settings order now db host interface).result =
      .ok (db', r) ∧ r.interface = interface ∧ db'.PublicKeysDistinct) ∨
    ∃ e, adapter.Escapes interface e ∧
      (reconcileInterface adapter settings order now db host interface).result = .error e.str := by
  -- an exception that the cycle catches leaves the database as it is
  have hfailed : ∀ (r : ReconciliationResult) (e : WireGuardError), r.interface = interface →
      (e.isCaughtPerCycle = false → adapter.Escapes interface e) →
      (∃ db' r', (handleError r e).map (db, ·) = .ok (db', r') ∧ r'.interface = interface ∧
        db'.PublicKeysDistinct) ∨
      ∃ e', adapter.Escapes interface e' ∧ (handleError r e).map (db, ·) = .error e'.str := by
    intro r e hr hescapes
    cases hcaught : e.isCaughtPerCycle with
    | true =>
      obtain ⟨r', hr', hiface⟩ := handleError_eq_ok hcaught r
      exact .inl ⟨db, r', by rw [hr']; rfl, hiface.trans hr, h⟩
    | false =>
      refine .inr ⟨e, hescapes hcaught, ?_⟩
      rw [handleError_eq_error hcaught]
      rfl
  unfold reconcileInterface
  dsimp only
  split
  · rename_i e hexists
    exact hfailed _ e rfl fun hcaught => ⟨hcaught, host, .inl hexists⟩
  · exact .inl ⟨db, _, rfl, rfl, h⟩
  · split
    · rename_i e hstate
      exact hfailed _ e rfl fun hcaught => ⟨hcaught, host, .inr (.inl hstate)⟩
    · rename_i actualState hstate
      split
      · rename_i host' r e hremove
        obtain ⟨hremoved, hraised⟩ := removePeers_interface hremove
        obtain ⟨hpeer, s, k, hs⟩ := hraised e rfl
        exact hfailed r e hremoved fun hcaught =>
          ⟨hcaught, s, .inr (.inr ⟨hpeer, .inr ⟨k, hs⟩⟩)⟩
      · rename_i host' r hremove
        obtain ⟨hremoved, -⟩ := removePeers_interface hremove
        split
        · rename_i host'' r' e hadd
          obtain ⟨hadded, hraised⟩ := addPeers_interface hadd
          obtain ⟨hpeer, s, k, ips, hs⟩ := hraised e rfl
          exact hfailed r' e (hadded.trans hremoved) fun hcaught =>
            ⟨hcaught, s, .inr (.inr ⟨hpeer, .inl ⟨k, ips, hs⟩⟩)⟩
        · rename_i host'' r' hadd
          obtain ⟨hadded, -⟩ := addPeers_interface hadd
          obtain ⟨db', hsync, hdistinct⟩ := syncRuntimeMetadata_ok now h actualState.peers
          refine .inl ⟨db', r', ?_, hadded.trans hremoved, hdistinct⟩
          dsimp only
          rw [hsync]
          rfl

theorem reconcileInterfaces_processes {σ : Type} (adapter : WireGuardAdapter σ)
    (settings : Settings) (order : SetOrder String) (clock : String → Timestamp)
    (interfaces : List String) {db : Database} (h : db.PublicKeysDistinct) (host : σ) :
    let pass := reconcileInterfaces adapter settings order clock interfaces db host
    pass.results.map (·.interface) = interfaces ∨
      ∃ interface ∈ interfaces, ∃ e, adapter.Escapes interface e ∧ pass.failure = some e.str := by
  induction interfaces generalizing db host with
  | nil => exact .inl rfl
  | cons interface interfaces ih =>
    simp only [reconcileInterfaces]
    rcases reconcileInterface_ok adapter settings order (clock interface) h host interface with
      ⟨db', r, hcycle, hr, hdistinct⟩ | ⟨e, hescapes, hcycle⟩
    · rw [hcycle]
      rcases ih hdistinct _ with hrest | ⟨interface', hmem, e, hescapes, hfailure⟩
      · exact .inl (congrArg₂ List.cons hr hrest)
      · exact .inr ⟨interface', List.mem_cons_of_mem _ hmem, e, hescapes, hfailure⟩
    · rw [hcycle]
      exact .inr ⟨interface, List.mem_cons_self, e, hescapes, rfl⟩

theorem reconcileAll_eq {σ : Type} (adapter : WireGuardAdapter σ) (settings : Settings)
    (order : SetOrder String) (clock : String → Timestamp) (now : Timestamp) (db : Database)
    (host : σ) (cycleCount : ℕ) :
    let pass := (reconcileAll adapter settings order clock now db host cycleCount).1
    let loop := reconcileInterfaces adapter settings order clock
      (db.managedInterfaces settings order) db host
    pass.results = loop.results ∧ pass.failure = loop.failure := by
  unfold reconcileAll
  dsimp only
  split
  · exact ⟨rfl, rfl⟩
  · split_ifs <;> exact ⟨rfl, rfl⟩

/-- **With distinct keys a pass processes every managed interface**, or it ends with an exception of
the adapter. -/
theorem reconcileAll_processes {σ : Type} (adapter : WireGuardAdapter σ) (settings : Settings)
    (order : SetOrder String) (clock : String → Timestamp) (now : Timestamp) {db : Database}
    (h : db.PublicKeysDistinct) (host : σ) (cycleCount : ℕ) :
    let pass := (reconcileAll adapter settings order clock now db host cycleCount).1
    let interfaces := db.managedInterfaces settings order
    pass.results.map (·.interface) = interfaces ∨
      ∃ interface ∈ interfaces, ∃ e, adapter.Escapes interface e ∧ pass.failure = some e.str := by
  intro pass interfaces
  obtain ⟨hresults, hfailure⟩ := reconcileAll_eq adapter settings order clock now db host cycleCount
  rw [hresults, hfailure]
  exact reconcileInterfaces_processes adapter settings order clock interfaces h host

theorem reconcileInterface_multiple (settings : Settings) (order : SetOrder String)
    (now : Timestamp) {db : Database} {key : String}
    (hkey : 1 < (db.devices.select fun d => d.publicKey = some key).length) {m : WgMockAdapter}
    {interface : String} {st : WGInterface} (h : m.interfaces.get? interface = some st)
    (hpeers : st.peers = [{ publicKey := key }]) :
    (reconcileInterface WgMockAdapter.adapter settings order now db m interface).result =
      .error "MultipleResultsFound" := by
  have hexists : WgMockAdapter.adapter.interfaceExists m interface = .ok true := by
    simp [WgMockAdapter.adapter, h]
  have hstate : WgMockAdapter.adapter.getInterfaceState m interface = .ok st.toWGInterfaceState := by
    simp [WgMockAdapter.adapter, h]
  obtain ⟨m₁, r₁, hremove, hm₁⟩ := WgMockAdapter.removePeers_spec h (computePeerDiff order
    (db.getDesiredPeers settings interface) (st.peers.map (·.publicKey))).toRemove { interface }
  obtain ⟨m₂, r₂, hadd, -⟩ := WgMockAdapter.addPeers_spec hm₁ (computePeerDiff order
    (db.getDesiredPeers settings interface) (st.peers.map (·.publicKey))).toAdd r₁
  have hsync : (syncRuntimeMetadata now db st.peers).2 = .error "MultipleResultsFound" := by
    rw [hpeers, syncRuntimeMetadata]
    dsimp only
    split
    · rename_i hrows
      rw [hrows] at hkey
      simp at hkey
    · rename_i hrows
      rw [hrows] at hkey
      simp at hkey
    · rfl
  simp only [reconcileInterface, hexists, hstate, hremove, hadd, hsync]
  rfl

/-- **Every pass of the mock adapter processes every managed interface exactly if keys are
distinct.** -/
theorem publicKeysDistinct_iff_processes (settings : Settings) (order : SetOrder String)
    (clock : String → Timestamp) (now : Timestamp) {db : Database} : db.PublicKeysDistinct ↔
      ∀ host, (reconcileAll WgMockAdapter.adapter settings order clock now db host 0).1.results.map
        (·.interface) = db.managedInterfaces settings order := by
  refine ⟨fun h host => ?_, fun h => ?_⟩
  · refine (reconcileAll_processes WgMockAdapter.adapter settings order clock now h host
      0).resolve_right ?_
    rintro ⟨interface, -, e, hescapes, -⟩
    exact WgMockAdapter.not_escapes interface e hescapes
  rw [Database.publicKeysDistinct_iff]
  intro key
  by_contra hkey
  obtain ⟨interface, interfaces, hmanaged⟩ : ∃ interface interfaces,
      db.managedInterfaces settings order = interface :: interfaces := by
    unfold Database.managedInterfaces
    split
    · exact ⟨_, _, rfl⟩
    · rename_i l hne
      exact List.exists_cons_of_ne_nil hne
  -- a host on which the first interface has a peer with the key
  set st : WGInterface :=
    { name := interface, peers := [{ publicKey := key }], keys_nodup := List.nodup_singleton _ }
  have hcycle := reconcileInterface_multiple settings order (clock interface) (not_le.1 hkey)
    (Dict.get?_set_self .empty interface st) rfl
    (m := { interfaces := Dict.empty.set interface st })
  have hpass := h { interfaces := Dict.empty.set interface st }
  simp only [reconcileAll, hmanaged, reconcileInterfaces, hcycle, List.map_nil] at hpass
  cases hpass

end Midscale
