import Midscale.Daemon.Delivery
import Midscale.Daemon.Ini

/-!
# The daemon on its host

`Reconciler.reconcile_once` with both of its branches, `_run_loop` around it and restarts of the
daemon, on a host whose commands are run by `WireGuardRuntime`.  Whatever the server answers, a run
is a list of configurations, and what it does to the host is the list of their commands.

* `Reconciler.step` : a pass of the loop, or a restart.
* `Reconciler.reconcileV2_refines` : the branch for enrolled daemons is the step that was modelled
  with the runtime's outcome as an input.
* `Reconciler.configs` : the configurations that a run hands to `_apply_config`.
* `Reconciler.world_run` : **what a run leaves of the host is what their commands leave, one after
  another.**
* `kernel_accumulates` : **no peer is ever taken from the interface**: after a run it has the peers
  that it had and those that a command of the run has set.
-/

namespace Midscale

namespace Daemon

/-! ### The daemon -/

/-- A configuration that the parser fills with values of the declared types. -/
structure TypedPull extends Pull where
  typed : ∀ privateKey c, parseConfigV2 config privateKey = some c → c.typed?.isSome = true

/-- What a pass of the loop meets. -/
structure PassInput where
  now : Timestamp
  /-- The content of the private key file, if it can be read. -/
  keyFile : Option String := none
  /-- What `pull_config` returns if it succeeds: the text, if there is one. -/
  pullConfig : Option (Option String) := none
  /-- What `pull_config_v2` returns if it succeeds. -/
  pullConfigV2 : Option TypedPull := none

/-- The private key, `none` when the file cannot be read or is blank. -/
def PassInput.privateKey (i : PassInput) : Option String := (i.keyFile.map strip).filter (· ≠ "")

/-- The daemon, with the host it runs on. -/
structure Tunnel (σ : Type) where
  enrolled : Bool
  store : StateStore := {}
  state : DaemonState := {}
  /-- `Reconciler._last_config`. -/
  lastConfig : Option String := none
  world : World σ

/-- What happens to the daemon. -/
inductive TunnelEvent where
  | pass (i : PassInput)
  /-- The daemon starts again, as an enrolled one or not. -/
  | restart (enrolled : Bool)

/-- `Reconciler` with what does not change: the runtime, the name of the interface, and which
characters beyond ASCII are alphanumeric. -/
structure Reconciler (σ : Type) where
  runtime : WireGuardRuntime σ
  interface : String := "midscale0"
  alnum : Char → Bool := fun _ => false

namespace Reconciler

variable {σ : Type} (rc : Reconciler σ) (t : Tunnel σ)

/-- `_apply_config`. -/
def applyConfig (config : TypedConfig) : Tunnel σ :=
  let (world, state) := applyWith rc.runtime t.world t.state rc.interface config
  { t with world := world, state := state }

/-- The end of `_reconcile_v1`: a text is remembered before it is parsed, and applied if it can be. -/
def takeUp (ini : String) : Tunnel σ × Except String Unit :=
  let t := { t with lastConfig := some ini }
  match parseConfigIni rc.alnum ini with
  | .error e => (t, .error e)
  | .ok none => (t, .ok ())
  | .ok (some config) => (rc.applyConfig t config.toTypedConfig, .ok ())

/-- `_reconcile_v1`. -/
def reconcileV1 (i : PassInput) : Tunnel σ × Except String Unit :=
  match i.pullConfig with
  | none =>
    match (t.store.cache.get? "last_config").filter (· ≠ ""), t.lastConfig with
    | some cached, none => rc.takeUp t cached
    | _, _ => (t, .ok ())
  | some ini? =>
    match ini?.filter (· ≠ "") with
    | none => (t, .ok ())
    | some ini =>
      if t.lastConfig = some ini then
        ({ t with state := { t.state with lastConfigFetch := some i.now } }, .ok ())
      else rc.takeUp { t with store := t.store.updateCache "last_config" ini } ini

/-- `_reconcile_v2`, without the activation of relays. -/
def reconcileV2 (i : PassInput) : Tunnel σ :=
  match i.privateKey with
  | none => t
  | some privateKey =>
    match i.pullConfigV2 with
    | none => t
    | some p =>
      if t.store.isUnchanged p.toPull then
        { t with state := { t.state with lastConfigFetch := some i.now } }
      else
        match (parseConfigV2 p.config privateKey).bind DesiredConfig.typed? with
        | none => t
        | some config =>
          let t := rc.applyConfig t config
          { t with
            store := t.store.remember p.toPull
            state := if (p.hash.filter (· ≠ "")).isSome then
              { t.state with lastConfigHash := p.hash, lastConfigRevision := p.revision }
            else t.state }

/-- `reconcile_once`. -/
def reconcileOnce (i : PassInput) : Tunnel σ × Except String Unit :=
  if t.enrolled then (rc.reconcileV2 t i, .ok ()) else rc.reconcileV1 t i

/-- A pass of `_run_loop`; an exception is counted. -/
def pass (i : PassInput) : Tunnel σ :=
  match rc.reconcileOnce t i with
  | (t, .ok ()) => { t with state := { t.state with lastConfigFetch := some i.now } }
  | (t, .error _) => { t with state := { t.state with errorCount := t.state.errorCount + 1 } }

/-- One event. -/
def step : TunnelEvent → Tunnel σ
  | .pass i => rc.pass t i
  | .restart enrolled => { enrolled := enrolled, store := t.store.load, world := t.world }

/-! ### The step with the outcome as an input -/

/-- The outcome of `_apply_config`. -/
def outcome (config : TypedConfig) : RuntimeOutcome :=
  let up := rc.runtime.bringUpInterface t.world rc.interface config.address config.subnet
  { up := up.2, created := true, ok := (rc.runtime.applyConfig up.1 rc.interface config).2 }

theorem state_applyConfig {h : Host} (hstate : h.state = t.state) (c : ConfigV2)
    (config : TypedConfig) : (rc.applyConfig t config).state =
      (Daemon.applyConfig h c (rc.outcome t config)).state := by
  rw [applyConfig, ← hstate]
  exact applyWith_state rc.runtime t.world rc.interface config h c true

/-- **The branch for enrolled daemons is `reconcileV2`**, with the outcome that the runtime has. -/
theorem reconcileV2_refines {h : Host} (hstore : h.store = t.store) (hstate : h.state = t.state)
    (i : PassInput) : ∃ outcome,
      let h' := (Daemon.reconcileV2 h
        ⟨i.now, i.keyFile, i.pullConfigV2.map TypedPull.toPull, outcome⟩).1
      h'.store = (rc.reconcileV2 t i).store ∧ h'.state = (rc.reconcileV2 t i).state := by
  unfold Daemon.reconcileV2 reconcileV2 StepInput.privateKey PassInput.privateKey
  dsimp only
  cases hkey : (i.keyFile.map strip).filter (· ≠ "") with
  | none => exact ⟨⟨true, true, true⟩, hstore, hstate⟩
  | some privateKey =>
    cases hp : i.pullConfigV2 with
    | none => exact ⟨⟨true, true, true⟩, hstore, hstate⟩
    | some p =>
      dsimp only [Option.map_some]
      rw [hstore]
      cases hun : t.store.isUnchanged p.toPull with
      | true => exact ⟨⟨true, true, true⟩, by simp, by simp [hstate]⟩
      | false =>
        cases hparse : parseConfigV2 p.config privateKey with
        | none => exact ⟨⟨true, true, true⟩, hstore, hstate⟩
        | some c =>
          obtain ⟨config, hconfig⟩ := Option.isSome_iff_exists.1 (p.typed privateKey c hparse)
          refine ⟨rc.outcome t config, ?_⟩
          have hdone := rc.state_applyConfig t hstate p.config config
          simp only [Bool.false_eq_true, ↓reduceIte, Option.bind_some, hconfig, applyConfig_store,
            hstore, hdone]
          exact ⟨rfl, trivial⟩

/-! ### The configurations of a run -/

/-- The text that `_reconcile_v1` takes up: the cached one if there is no answer and there was none
before, or one that differs from the last. -/
def taken (i : PassInput) : Option String :=
  match i.pullConfig with
  | none =>
    if t.lastConfig = none then (t.store.cache.get? "last_config").filter (· ≠ "") else none
  | some ini? => (ini?.filter (· ≠ "")).filter fun ini => t.lastConfig ≠ some ini

/-- The configuration of a text, if it is one. -/
def configOf (ini : String) : Option TypedConfig :=
  match parseConfigIni rc.alnum ini with
  | .ok (some config) => some config.toTypedConfig
  | _ => none

/-- The configuration that a pass hands to `_apply_config`. -/
def config (i : PassInput) : Option TypedConfig :=
  if t.enrolled then do
    let privateKey ← i.privateKey
    let p ← i.pullConfigV2
    if t.store.isUnchanged p.toPull then none
    else (parseConfigV2 p.config privateKey).bind DesiredConfig.typed?
  else (taken t i).bind rc.configOf

/-- The configurations that a run hands to `_apply_config`. -/
def configs : Tunnel σ → List TunnelEvent → List TypedConfig
  | _, [] => []
  | t, .pass i :: es => (rc.config t i).toList ++ configs (rc.pass t i) es
  | t, .restart enrolled :: es => configs (rc.step t (.restart enrolled)) es

/-- What `_apply_config` does to the host. -/
def applied (w : World σ) (config : TypedConfig) : World σ :=
  (applyWith rc.runtime w {} rc.interface config).1

theorem world_applyConfig (config : TypedConfig) :
    (rc.applyConfig t config).world = rc.applied t.world config := by
  rw [applyConfig, applied, applyWith, applyWith]
  rcases rc.runtime.bringUpInterface t.world rc.interface config.address config.subnet with ⟨w, up⟩
  cases up with
  | false => rfl
  | true =>
    dsimp only
    rcases rc.runtime.applyConfig w rc.interface config with ⟨w', ok⟩
    cases ok <;> rfl

theorem world_takeUp (ini : String) :
    (rc.takeUp t ini).1.world = (rc.configOf ini).toList.foldl rc.applied t.world := by
  unfold takeUp configOf
  cases parseConfigIni rc.alnum ini with
  | error e => rfl
  | ok c =>
    cases c with
    | none => rfl
    | some config => exact rc.world_applyConfig _ config.toTypedConfig

theorem world_reconcileV1 (i : PassInput) : (rc.reconcileV1 t i).1.world =
    ((taken t i).bind rc.configOf).toList.foldl rc.applied t.world := by
  unfold reconcileV1 taken
  cases i.pullConfig with
  | none =>
    dsimp only
    cases (t.store.cache.get? "last_config").filter (· ≠ "") with
    | none => cases t.lastConfig <;> rfl
    | some cached =>
      cases t.lastConfig with
      | none => exact rc.world_takeUp t cached
      | some last => rfl
  | some ini? =>
    dsimp only
    cases ini?.filter (· ≠ "") with
    | none => rfl
    | some ini =>
      dsimp only
      split_ifs with hlast
      · simp [Option.filter, hlast]
      · rw [rc.world_takeUp]
        simp [Option.filter, hlast]

theorem world_reconcileV2 (i : PassInput) (henrolled : t.enrolled = true) :
    (rc.reconcileV2 t i).world = (rc.config t i).toList.foldl rc.applied t.world := by
  unfold reconcileV2 config
  rw [if_pos henrolled]
  cases i.privateKey with
  | none => rfl
  | some privateKey =>
    cases i.pullConfigV2 with
    | none => rfl
    | some p =>
      dsimp only [Option.bind_eq_bind, Option.bind_some]
      cases t.store.isUnchanged p.toPull with
      | true => rfl
      | false =>
        cases (parseConfigV2 p.config privateKey).bind DesiredConfig.typed? with
        | none => rfl
        | some config => exact rc.world_applyConfig t config

theorem world_pass (i : PassInput) :
    (rc.pass t i).world = (rc.config t i).toList.foldl rc.applied t.world := by
  have hpass : (rc.pass t i).world = (rc.reconcileOnce t i).1.world := by
    unfold pass
    rcases rc.reconcileOnce t i with ⟨t', e | e⟩
    · rfl
    · rfl
  rw [hpass, reconcileOnce]
  split_ifs with henrolled
  · exact rc.world_reconcileV2 t i henrolled
  · rw [world_reconcileV1, config, if_neg henrolled]

/-- **What a run leaves of the host is what its configurations leave**, one after another. -/
theorem world_run (es : List TunnelEvent) :
    (run rc.step t es).world = (rc.configs t es).foldl rc.applied t.world := by
  induction es generalizing t with
  | nil => rfl
  | cons e es ih =>
    rw [run_cons, ih]
    cases e with
    | pass i => rw [configs, List.foldl_append, step, world_pass]
    | restart enrolled => rfl

/-! ### The commands of a run -/

/-- The commands of `_apply_config` when none of the calls raises and no state is read back. -/
def commands (config : TypedConfig) : List Command :=
  rc.runtime.wg ["show", rc.interface] ::
    (WireGuardRuntime.upCommands rc.interface config.address config.subnet ++
      rc.runtime.setInterface rc.interface config ::
        rc.runtime.wg ["show", rc.interface, "dump"] ::
          config.peers.map (rc.runtime.setPeer rc.interface))

section Host

variable {P E : Type} {view : σ → Option (InterfaceView P E)} {reading : Reading P E} {rc}

theorem applied_eq (hdoc : Documented rc.runtime rc.interface view reading)
    (hcodes : rc.runtime.Codes) (w : World σ) (config : TypedConfig) :
    rc.applied w config = run rc.runtime.step w (rc.commands config) := by
  obtain ⟨w', hw'⟩ := applyWith_of_codes rc.runtime w {} rc.interface config hcodes
  rw [applied, hw', hdoc.peerCommands]
  rfl

/-- **A run of the daemon is a run of the commands of its configurations.** -/
theorem world_run_eq (hdoc : Documented rc.runtime rc.interface view reading)
    (hcodes : rc.runtime.Codes) (t : Tunnel σ) (es : List TunnelEvent) :
    (run rc.step t es).world =
      run rc.runtime.step t.world ((rc.configs t es).flatMap rc.commands) := by
  have happlied : rc.applied = fun w config => run rc.runtime.step w (rc.commands config) := by
    funext w config
    exact applied_eq hdoc hcodes w config
  rw [world_run, happlied, run, List.foldl_flatMap]
  rfl

/-! ### The peers of the interface -/

end Host

end Reconciler

/-- The key of the peer that a command sets. -/
def Command.peerKey? (c : Command) : Option String := c.peer?.map (·.1)

/-- The command removes a peer. -/
def Command.removesPeer (c : Command) : Bool :=
  match c.args with
  | ["set", _, "peer", _, "remove"] => true
  | _ => false

example {σ : Type} (rt : WireGuardRuntime σ) (interface key : String) :
    (rt.removePeer interface key).removesPeer = true := rfl

/-- The keys of the peers of a configuration. -/
def TypedConfig.keys (config : TypedConfig) : Set String :=
  {k | ∃ p ∈ config.peers, p.publicKey = k}

/-- The commands that exit with 0, when the first is run after `n` others. -/
def WireGuardRuntime.succeeded {σ : Type} (rt : WireGuardRuntime σ) (n : ℕ) (cs : List Command) :
    List Command :=
  ((cs.zipIdx n).filter fun c => rt.exits c.2 = .code 0).map (·.1)

/-- The keys of the peers of an interface that may be there. -/
def viewKeys {P E : Type} (v : Option (InterfaceView P E)) : Set String :=
  {k | ∃ i ∈ v, (i.peers.peers k).isSome = true}

section Peers

variable {σ P E : Type} {rt : WireGuardRuntime σ} {interface : String}
  {view : σ → Option (InterfaceView P E)} {reading : Reading P E}

/-- A command that neither makes the interface nor takes a peer from it, and gives it no other peer
than the one it sets. -/
structure Grows (rt : WireGuardRuntime σ) (view : σ → Option (InterfaceView P E)) (c : Command) :
    Prop where
  isSome_eq : ∀ s, (view (rt.tools.perform s c)).isSome = (view s).isSome
  mem_keys_iff : ∀ s k, k ∈ viewKeys (view (rt.tools.perform s c)) ↔
    k ∈ viewKeys (view s) ∨ (view s).isSome = true ∧ c.peerKey? = some k

theorem grows_of_map {c : Command} {f : InterfaceView P E → InterfaceView P E}
    (h : ∀ s, view (rt.tools.perform s c) = (view s).map f) (hf : ∀ v, (f v).peers = v.peers)
    (hc : c.peerKey? = none) : Grows rt view c where
  isSome_eq s := by rw [h, Option.isSome_map]
  mem_keys_iff s k := by
    rw [h, hc]
    cases view s with
    | none => simp [viewKeys]
    | some v => simp [viewKeys, hf]

theorem grows_of_same {c : Command} (h : ∀ s, view (rt.tools.perform s c) = view s)
    (hc : c.peerKey? = none) : Grows rt view c :=
  grows_of_map (f := id) (fun s => by rw [h, Option.map_id_fun, id]) (fun _ => rfl) hc

theorem grows_setPeer (hdoc : Documented rt interface view reading) (p : TypedPeer) :
    Grows rt view (rt.setPeer interface p) where
  isSome_eq s := by rw [hdoc.set_peer, Option.isSome_map]
  mem_keys_iff s k := by
    have hkey : (rt.setPeer interface p).peerKey? = some p.publicKey := rfl
    rw [hdoc.set_peer, hkey]
    cases view s with
    | none => simp [viewKeys]
    | some v =>
      have happly : ((v.peers.apply [p.setting reading]).peers k).isSome = true ↔ _ :=
        PeerTable.isSome_apply
      simpa [viewKeys, PeerTable.apply, TypedPeer.setting] using happly

theorem succeeded_eq_self {cs : List Command} {n : ℕ} (h : ∀ i, rt.exits i = .code 0) :
    rt.succeeded n cs = cs := by
  rw [WireGuardRuntime.succeeded, List.filter_eq_self.2 fun c _ => decide_eq_true (h c.2),
    List.zipIdx_map_fst]

/-- **Growing commands add the peers that they set**, those of them that exit with 0. -/
theorem mem_viewKeys_run {cs : List Command} (hcs : ∀ c ∈ cs, Grows rt view c) (w : World σ)
    (k : String) : k ∈ viewKeys (view (run rt.step w cs).host) ↔
      k ∈ viewKeys (view w.host) ∨
        (view w.host).isSome = true ∧ ∃ c ∈ rt.succeeded w.issued.length cs, c.peerKey? = some k := by
  induction cs generalizing w with
  | nil => simp [WireGuardRuntime.succeeded]
  | cons c cs ih =>
    obtain ⟨hc, hcs⟩ := List.forall_mem_cons.1 hcs
    rw [run_cons, ih hcs, WireGuardRuntime.step_issued, List.length_append, List.length_singleton,
      WireGuardRuntime.step_host]
    simp only [WireGuardRuntime.succeeded, List.zipIdx_cons]
    split_ifs with hexit
    · rw [hc.isSome_eq, hc.mem_keys_iff, List.filter_cons_of_pos (by simpa using hexit),
        List.map_cons]
      simp only [List.mem_cons, exists_eq_or_imp]
      tauto
    · rw [List.filter_cons_of_neg (by simpa using hexit)]

end Peers

namespace Reconciler

variable {σ P E : Type} {rc : Reconciler σ} {view : σ → Option (InterfaceView P E)}
  {reading : Reading P E}

theorem grows_commands (hdoc : Documented rc.runtime rc.interface view reading)
    (config : TypedConfig) : ∀ c ∈ rc.commands config, Grows rc.runtime view c := by
  intro c hc
  simp only [commands, WireGuardRuntime.upCommands, List.cons_append, List.nil_append, List.mem_cons,
    List.mem_map] at hc
  rcases hc with rfl | rfl | rfl | rfl | rfl | ⟨p, -, rfl⟩
  · exact grows_of_same hdoc.show_same rfl
  · exact grows_of_map (hdoc.addr_add · _) (fun _ => rfl) rfl
  · exact grows_of_map hdoc.link_up (fun _ => rfl) rfl
  · exact grows_of_same (hdoc.set_interface · config) rfl
  · exact grows_of_same hdoc.dump_same rfl
  · exact grows_setPeer hdoc p

theorem filter_commands (config : TypedConfig) :
    (rc.commands config).filter (fun c => c.peer?.isSome) =
      config.peers.map (rc.runtime.setPeer rc.interface) := by
  have hset : (config.peers.map (rc.runtime.setPeer rc.interface)).filter (fun c => c.peer?.isSome) =
      config.peers.map (rc.runtime.setPeer rc.interface) := List.filter_eq_self.2 fun c hc => by
    obtain ⟨p, -, rfl⟩ := List.mem_map.1 hc
    rfl
  exact hset

theorem removesPeer_commands (config : TypedConfig) :
    ∀ c ∈ rc.commands config, c.removesPeer = false := by
  intro c hc
  simp only [commands, WireGuardRuntime.upCommands, List.cons_append, List.nil_append, List.mem_cons,
    List.mem_map] at hc
  rcases hc with rfl | rfl | rfl | rfl | rfl | ⟨p, -, rfl⟩
  all_goals rfl

theorem filter_runCommands (configs : List TypedConfig) :
    (configs.flatMap rc.commands).filter (fun c => c.peer?.isSome) =
      configs.flatMap fun config => config.peers.map (rc.runtime.setPeer rc.interface) := by
  rw [List.filter_flatMap]
  exact List.flatMap_congr fun config _ => filter_commands config

theorem mem_viewKeys_step (hdoc : Documented rc.runtime rc.interface view reading)
    (hcodes : rc.runtime.Codes) (t : Tunnel σ) (es : List TunnelEvent) (k : String) :
    k ∈ viewKeys (view (run rc.step t es).world.host) ↔
      k ∈ viewKeys (view t.world.host) ∨ (view t.world.host).isSome = true ∧
        ∃ c ∈ rc.runtime.succeeded t.world.issued.length ((rc.configs t es).flatMap rc.commands),
          c.peerKey? = some k := by
  have hgrows : ∀ c ∈ (rc.configs t es).flatMap rc.commands, Grows rc.runtime view c := by
    intro c hc
    obtain ⟨config, -, hc⟩ := List.mem_flatMap.1 hc
    exact grows_commands hdoc config c hc
  rw [world_run_eq hdoc hcodes]
  exact mem_viewKeys_run hgrows t.world k

/-- **The interface only ever gains peers.**  Whatever the server answers and however often the
daemon is restarted, no command of a run removes a peer, the commands that set peers are those of
the configurations that were applied, and the interface has the peers it had before and those that
one of these commands has set. -/
theorem kernel_accumulates (hdoc : Documented rc.runtime rc.interface view reading)
    (hcodes : rc.runtime.Codes) (t : Tunnel σ) (es : List TunnelEvent) :
    ∃ cs, (run rc.step t es).world.issued = t.world.issued ++ cs ∧
      (∀ c ∈ cs, c.removesPeer = false) ∧
      cs.filter (fun c => c.peer?.isSome) = (rc.configs t es).flatMap (fun config =>
        config.peers.map (rc.runtime.setPeer rc.interface)) ∧
      ∀ k, k ∈ viewKeys (view (run rc.step t es).world.host) ↔
        k ∈ viewKeys (view t.world.host) ∨ (view t.world.host).isSome = true ∧
          ∃ c ∈ rc.runtime.succeeded t.world.issued.length cs, c.peerKey? = some k := by
  refine ⟨(rc.configs t es).flatMap rc.commands, ?_, ?_, filter_runCommands _,
    mem_viewKeys_step hdoc hcodes t es⟩
  · rw [world_run_eq hdoc hcodes, WireGuardRuntime.run_issued]
  · intro c hc
    obtain ⟨config, -, hc⟩ := List.mem_flatMap.1 hc
    exact removesPeer_commands config c hc

/-- **Old peers stay.**  With commands that all exit with 0, the interface has exactly the peers of
the last configuration exactly if no earlier configuration had another peer, and the interface had
none before. -/
theorem stale_peers_iff (hdoc : Documented rc.runtime rc.interface view reading)
    (hexits : ∀ i, rc.runtime.exits i = .code 0) {t : Tunnel σ}
    (hview : (view t.world.host).isSome = true) {es : List TunnelEvent} {before : List TypedConfig}
    {last : TypedConfig} (hconfigs : rc.configs t es = before ++ [last]) :
    viewKeys (view (run rc.step t es).world.host) = last.keys ↔
      viewKeys (view t.world.host) ⊆ last.keys ∧ ∀ config ∈ before, config.keys ⊆ last.keys := by
  have hcodes : rc.runtime.Codes := fun i => by rw [hexits i]; nofun
  have hset : ((rc.configs t es).flatMap rc.commands).filter (fun c => c.peer?.isSome) =
      (rc.configs t es).flatMap fun config => config.peers.map (rc.runtime.setPeer rc.interface) :=
    filter_runCommands _
  have hmem : ∀ k, k ∈ viewKeys (view (run rc.step t es).world.host) ↔
      k ∈ viewKeys (view t.world.host) ∨ ∃ config ∈ before ++ [last], k ∈ config.keys := by
    intro k
    rw [mem_viewKeys_step hdoc hcodes, succeeded_eq_self hexits, ← hconfigs, and_iff_right hview]
    refine or_congr_right ⟨?_, ?_⟩
    · rintro ⟨c, hc, hkey⟩
      have hsets : c ∈ ((rc.configs t es).flatMap rc.commands).filter
          fun c => c.peer?.isSome := List.mem_filter.2 ⟨hc, by
        obtain ⟨x, hx, -⟩ := Option.map_eq_some_iff.1 hkey
        rw [hx]
        rfl⟩
      rw [hset] at hsets
      obtain ⟨config, hconfig, hc⟩ := List.mem_flatMap.1 hsets
      obtain ⟨p, hp, rfl⟩ := List.mem_map.1 hc
      exact ⟨config, hconfig, p, hp, Option.some.inj hkey⟩
    · rintro ⟨config, hconfig, p, hp, rfl⟩
      have hc : rc.runtime.setPeer rc.interface p ∈
          ((rc.configs t es).flatMap rc.commands).filter fun c => c.peer?.isSome :=
        hset ▸ List.mem_flatMap.2 ⟨config, hconfig, List.mem_map_of_mem hp⟩
      exact ⟨_, (List.mem_filter.1 hc).1, rfl⟩
  constructor
  · intro heq
    rw [Set.ext_iff] at heq
    refine ⟨fun k hk => (heq k).1 ((hmem k).2 (.inl hk)), fun config hconfig k hk => ?_⟩
    exact (heq k).1 ((hmem k).2 (.inr ⟨config, List.mem_append_left _ hconfig, hk⟩))
  · rintro ⟨hstart, hbefore⟩
    ext k
    rw [hmem]
    constructor
    · rintro (hk | ⟨config, hconfig, hk⟩)
      · exact hstart hk
      · rcases List.mem_append.1 hconfig with hconfig | hconfig
        · exact hbefore config hconfig hk
        · rwa [List.mem_singleton.1 hconfig] at hk
    · exact fun hk => .inr ⟨last, List.mem_append_right _ (List.mem_singleton_self _), hk⟩

end Reconciler

/-! ### A peer that is gone -/

/-- The laptop's daemon, which is not enrolled. -/
def laptopReconciler : Reconciler (Option (InterfaceView String String)) where
  runtime := laptopRuntime fun _ => .code 0
  interface := "wg0"

/-- The daemon starts on a host with an interface without peers. -/
def laptopTunnel : Tunnel (Option (InterfaceView String String)) where
  enrolled := false
  world := { host := some ⟨false, ∅, .empty⟩ }

/-- The server sends a configuration with a peer, and one without it. -/
def laptopEvents : List TunnelEvent :=
  [.pass { now := 0, pullConfig := some (some
    "[Interface]\nPrivateKey = k\nAddress = 10.0.0.2/24\n\n[Peer]\nPublicKey = p\n") },
   .pass { now := 30, pullConfig := some (some
    "[Interface]\nPrivateKey = k\nAddress = 10.0.0.2/24\n") }]

/-- The configurations that are applied. -/
def laptopConfigs : List TypedConfig :=
  [{ privateKey := "k", address := "10.0.0.2", subnet := "0.0.0.0/24", peers := [{ publicKey := "p" }] },
   { privateKey := "k", address := "10.0.0.2", subnet := "0.0.0.0/24" }]

theorem configs_laptop : laptopReconciler.configs laptopTunnel laptopEvents = laptopConfigs := by
  decide +kernel

theorem laptopReconciler_documented :
    Documented laptopReconciler.runtime laptopReconciler.interface (fun s => s) laptopReading :=
  laptop_documented fun _ => .code 0

/-- The peer is still there after the configuration without it. -/
theorem kernel_accumulates_laptop :
    "p" ∈ viewKeys (run laptopReconciler.step laptopTunnel laptopEvents).world.host := by
  obtain ⟨cs, -, -, hset, hkeys⟩ := Reconciler.kernel_accumulates laptopReconciler_documented
    (fun _ => nofun) laptopTunnel laptopEvents
  have hmem : laptopReconciler.runtime.setPeer "wg0" { publicKey := "p" } ∈
      cs.filter fun c => c.peer?.isSome := by
    rw [hset, configs_laptop]
    exact List.mem_cons_self
  rw [succeeded_eq_self fun _ => rfl] at hkeys
  exact (hkeys "p").2 (.inr ⟨rfl, _, (List.mem_filter.1 hmem).1, rfl⟩)

/-- So the interface does not have the peers of the last configuration. -/
theorem stale_peers_iff_laptop :
    viewKeys (run laptopReconciler.step laptopTunnel laptopEvents).world.host ≠
      (laptopConfigs.getLast (by decide)).keys := by
  have hview : laptopTunnel.world.host.isSome = true := rfl
  have hiff := Reconciler.stale_peers_iff laptopReconciler_documented (fun _ => rfl) hview
    (configs_laptop.trans (List.dropLast_concat_getLast (by decide)).symm)
  rw [Ne, hiff]
  rintro ⟨-, hbefore⟩
  obtain ⟨q, hq, -⟩ := hbefore _ (List.mem_singleton_self _) ⟨_, List.mem_singleton_self _, rfl⟩
  cases hq

end Daemon

end Midscale
