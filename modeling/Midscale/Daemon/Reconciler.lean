import Midscale.Data.Datetime
import Midscale.Data.Dict
import Midscale.Data.Json
import Midscale.Data.Text
import Midscale.Run.Basic

/-!
# The daemon's reconcile step

`Reconciler._reconcile_v2` with the state store it caches the last configuration in, the outcomes
of the WireGuard runtime as inputs, and restarts of the daemon in between.  The host state records
which configuration was last applied to the interface since it exists, which the program does not
know.

* `reconcileV2` : one step, which skips a configuration whose hash or text is cached.
* `Sound` : a step whose apply succeeds, a restart that keeps a configured interface, a
  configuration that equals the cached one when its hash does.
* `CacheApplied` : the invariant, the cached configuration is the one that was last applied.
* `skips_only_applied` : **in every run of sound steps, a skipped configuration is the one that was
  last applied.**
* `unchanged_of_attempted`, `skips_failed_apply` : a configuration is skipped after it was
  attempted, even if the apply failed.
-/

namespace Midscale

namespace Daemon

/-! ### Configurations -/

/-- `DesiredPeer`; the fields are whatever JSON values the server sent. -/
structure DesiredPeer where
  publicKey : Json
  allowedIps : Json
  endpoint : Json := .null
  endpointPort : Json := .null
  persistentKeepalive : Json := .null
  relayRequired : Json := .bool false
  relayCandidates : Json := .arr []
  deriving DecidableEq

/-- `DesiredConfig`. -/
structure DesiredConfig where
  privateKey : String
  address : String
  subnet : String
  dnsServers : Json := .null
  peers : List DesiredPeer := []
  mtu : Json := .null
  deriving DecidableEq

/-- The `config_v2` dictionary of a pulled configuration. -/
structure ConfigV2 where
  interface : Json
  peers : Json
  routes : Json
  exitNode : Json
  deriving DecidableEq

/-- `json.dumps(config_v2, sort_keys=True)`. -/
def ConfigV2.cacheKey (c : ConfigV2) : String :=
  (Json.obj [("interface", c.interface), ("peers", c.peers), ("routes", c.routes),
    ("exit_node", c.exitNode)]).dumpsSorted

/-- Two configurations are the same up to the order of keys. -/
def ConfigV2.Same (c c' : ConfigV2) : Prop :=
  c.interface.sortKeys = c'.interface.sortKeys ∧ c.peers.sortKeys = c'.peers.sortKeys ∧
    c.routes.sortKeys = c'.routes.sortKeys ∧ c.exitNode.sortKeys = c'.exitNode.sortKeys

theorem ConfigV2.sortKeys_json (i p r e : Json) :
    (Json.obj [("interface", i), ("peers", p), ("routes", r), ("exit_node", e)]).sortKeys =
      .obj [("exit_node", e.sortKeys), ("interface", i.sortKeys), ("peers", p.sortKeys),
        ("routes", r.sortKeys)] := by
  have hkeys : ("exit_node".toList ≤ "routes".toList ∧ "peers".toList ≤ "routes".toList ∧
      "exit_node".toList ≤ "peers".toList ∧ "interface".toList ≤ "peers".toList) ∧
      ¬ "peers".toList ≤ "exit_node".toList ∧ ¬ "interface".toList ≤ "exit_node".toList ∧
      ¬ "routes".toList ≤ "exit_node".toList := by decide
  simp only [Json.sortKeys, Json.sortFields, List.insertionSort_cons, List.insertionSort_nil,
    List.orderedInsert_nil, List.orderedInsert_cons, hkeys, ↓reduceIte]

theorem ConfigV2.cacheKey_inj {c c' : ConfigV2} : c.cacheKey = c'.cacheKey ↔ c.Same c' := by
  rw [cacheKey, cacheKey, Json.dumpsSorted_inj, sortKeys_json, sortKeys_json, Same]
  simp only [Json.obj.injEq, List.cons.injEq, Prod.mk.injEq, true_and, and_true]
  tauto

/-- `"/" in address`, `none` when it raises `TypeError`. -/
def containsSlash : Json → Option Bool
  | .str s => some ('/' ∈ s.toList)
  | .arr xs => some (Json.str "/" ∈ xs)
  | .obj fields => some ("/" ∈ fields.map Prod.fst)
  | _ => none

/-- The peers of a configuration, `none` when an exception is raised. -/
def parsePeer (p : Json) : Option DesiredPeer :=
  match p with
  | .obj _ =>
    let relayCandidates := (p.get? "relay_candidates").getD .null
    some
      { publicKey := (p.get? "public_key").getD (.str "")
        allowedIps := (p.get? "allowed_ips").getD (.arr [])
        endpoint := (p.get? "endpoint").getD .null
        endpointPort := (p.get? "endpoint_port").getD .null
        persistentKeepalive := (p.get? "persistent_keepalive").getD .null
        relayRequired := (p.get? "relay_required").getD (.bool false)
        relayCandidates := if relayCandidates.truthy then relayCandidates else .arr [] }
  | _ => none

/-- The elements a Python loop runs over, `none` when the value is not iterable. -/
def iterate : Json → Option (List Json)
  | .arr xs => some xs
  | .obj fields => some (fields.map fun f => .str f.1)
  | .str s => some (s.toList.map fun c => .str (String.singleton c))
  | _ => none

/-- `_parse_config_v2`; every exception makes it `None`. -/
def parseConfigV2 (c : ConfigV2) (privateKey : String) : Option DesiredConfig :=
  match c.interface with
  | .obj _ => do
    let addressRaw := (c.interface.get? "address").getD (.str "")
    let parts ← match addressRaw with
      | .str s => some (s.splitOn "/")
      | _ => if addressRaw.truthy then none else some [""]
    let slash ← containsSlash addressRaw
    let peers ← (← iterate c.peers).mapM parsePeer
    some
      { privateKey := privateKey
        address := parts.headD ""
        subnet := if slash then "0.0.0.0/" ++ (parts.drop 1).headD "" else ""
        dnsServers := (c.interface.get? "dns").getD .null
        peers := peers
        mtu := (c.interface.get? "mtu").getD .null }
  | _ => none

/-! ### The state -/

/-- The cache of `StateStore`, in memory and in its file. -/
structure StateStore where
  cache : Dict String String := .empty
  cacheFile : Dict String String := .empty

/-- `update_cache`. -/
def StateStore.updateCache (st : StateStore) (key value : String) : StateStore where
  cache := st.cache.set key value
  cacheFile := st.cache.set key value

/-- `load`. -/
def StateStore.load (st : StateStore) : StateStore := { st with cache := st.cacheFile }

/-- `DaemonState`, as far as the reconcile step uses it. -/
structure DaemonState where
  lastConfigFetch : Option Timestamp := none
  reconfigureCount : ℕ := 0
  errorCount : ℕ := 0
  lastConfigHash : Option String := none
  lastConfigRevision : Option String := none

/-- The WireGuard interface: absent, or with the configuration of the last `apply_config` that
returned `True` since the interface exists. -/
inductive HostInterface where
  | absent
  | present (applied : Option ConfigV2)

/-- The daemon and its host. -/
structure Host where
  store : StateStore := {}
  state : DaemonState := {}
  interface : HostInterface := .absent

/-- The outcomes of the WireGuard runtime in one step. -/
structure RuntimeOutcome where
  /-- `bring_up_interface` returns `True`. -/
  up : Bool
  /-- `bring_up_interface` created the interface, if there was none. -/
  created : Bool
  /-- `apply_config` returns `True`. -/
  ok : Bool

/-- A successful `ConfigV2PullResult`. -/
structure Pull where
  config : ConfigV2
  hash : Option String := none
  revision : Option String := none

/-- What one reconcile step meets. -/
structure StepInput where
  now : Timestamp
  /-- The content of the private key file, if it can be read. -/
  keyFile : Option String
  /-- What `pull_config_v2` returns, if it succeeds. -/
  pull : Option Pull
  outcome : RuntimeOutcome

/-- How one reconcile step ends. -/
inductive StepResult where
  | noKey
  | pullFailed
  | unchanged
  | parseFailed
  /-- `_apply_config` was called. -/
  | attempted
  deriving DecidableEq

/-! ### One step -/

/-- The interface after `bring_up_interface`. -/
def HostInterface.bringUp (i : HostInterface) (o : RuntimeOutcome) : HostInterface :=
  match i with
  | .absent => if o.created then .present none else .absent
  | .present applied => .present applied

/-- The interface after an `apply_config` that returned `True`. -/
def HostInterface.apply (i : HostInterface) (c : ConfigV2) : HostInterface :=
  match i with
  | .absent => .absent
  | .present _ => .present (some c)

/-- `_apply_config`. -/
def applyConfig (h : Host) (c : ConfigV2) (o : RuntimeOutcome) : Host :=
  let h := { h with interface := h.interface.bringUp o }
  if o.up then
    if o.ok then
      { h with
        interface := h.interface.apply c
        state := { h.state with reconfigureCount := h.state.reconfigureCount + 1 } }
    else { h with state := { h.state with errorCount := h.state.errorCount + 1 } }
  else h

/-- The configuration is skipped as unchanged: its hash is the cached one, or it has no hash and its
text is the cached one. -/
def StateStore.isUnchanged (st : StateStore) (p : Pull) : Bool :=
  match p.hash.filter (· ≠ "") with
  | some hash => st.cache.get? "last_config_hash" = some hash
  | none => st.cache.get? "last_config_v2" = some p.config.cacheKey

/-- The cache after a configuration was attempted, whatever the outcome. -/
def StateStore.remember (st : StateStore) (p : Pull) : StateStore :=
  let st := st.updateCache "last_config_v2" p.config.cacheKey
  match p.hash.filter (· ≠ "") with
  | some hash => st.updateCache "last_config_hash" hash
  | none => st

/-- The private key, `none` when the file cannot be read or is blank. -/
def StepInput.privateKey (i : StepInput) : Option String :=
  (i.keyFile.map strip).filter (· ≠ "")

/-- `_reconcile_v2`. -/
def reconcileV2 (h : Host) (i : StepInput) : Host × StepResult :=
  match i.privateKey with
  | none => (h, .noKey)
  | some privateKey =>
    match i.pull with
    | none => (h, .pullFailed)
    | some p =>
      if h.store.isUnchanged p then
        ({ h with state := { h.state with lastConfigFetch := some i.now } }, .unchanged)
      else
        match parseConfigV2 p.config privateKey with
        | none => (h, .parseFailed)
        | some _ =>
          let h := applyConfig h p.config i.outcome
          -- the outcome of the apply is not looked at
          let state :=
            if (p.hash.filter (· ≠ "")).isSome then
              { h.state with lastConfigHash := p.hash, lastConfigRevision := p.revision }
            else h.state
          ({ h with store := h.store.remember p, state := state }, .attempted)

/-- What can happen to the daemon. -/
inductive DaemonEvent where
  | reconcile (i : StepInput)
  /-- The daemon restarts; the interface survives or not. -/
  | restart (interfaceSurvives : Bool)

/-- One event. -/
def daemonStep (h : Host) : DaemonEvent → Host
  | .reconcile i => (reconcileV2 h i).1
  | .restart survives =>
    { store := h.store.load, interface := if survives then h.interface else .absent }

/-! ### Sound runs -/

/-- The interface exists after `bring_up_interface`. -/
def HostInterface.existsAfter (i : HostInterface) (o : RuntimeOutcome) : Prop :=
  i = .absent → o.created = true

/-- An event that cannot make the cache wrong, nor be misled by it: a configuration that is not
cached and can be parsed is applied with success to an existing interface, one with the cached hash
is the cached configuration, a restart keeps the interface unless nothing is cached. -/
def Sound (h : Host) : DaemonEvent → Prop
  | .reconcile i =>
    ∀ privateKey ∈ i.privateKey, ∀ p ∈ i.pull,
      (h.store.isUnchanged p = false → (parseConfigV2 p.config privateKey).isSome →
        i.outcome.up = true ∧ i.outcome.ok = true ∧ h.interface.existsAfter i.outcome) ∧
      ∀ hash ∈ p.hash, h.store.cache.get? "last_config_hash" = some hash →
        h.store.cache.get? "last_config_v2" = some p.config.cacheKey
  | .restart survives => survives = true ∨ h.store.cacheFile.get? "last_config_v2" = none

/-- The cached configuration is the one that was last applied. -/
structure CacheApplied (h : Host) : Prop where
  file_eq : h.store.cacheFile = h.store.cache
  applied : ∀ key, h.store.cache.get? "last_config_v2" = some key →
    ∃ c, h.interface = .present (some c) ∧ c.cacheKey = key

theorem StateStore.get?_remember (st : StateStore) (p : Pull) :
    (st.remember p).cache.get? "last_config_v2" = some p.config.cacheKey := by
  have hne : "last_config_v2" ≠ "last_config_hash" := by decide
  unfold remember
  split
  · rw [updateCache, Dict.get?_set_of_ne _ _ hne]
    exact Dict.get?_set_self ..
  · exact Dict.get?_set_self ..

theorem StateStore.remember_file (st : StateStore) (p : Pull) :
    (st.remember p).cacheFile = (st.remember p).cache := by
  unfold remember
  split <;> rfl

theorem applyConfig_store (h : Host) (c : ConfigV2) (o : RuntimeOutcome) :
    (applyConfig h c o).store = h.store := by
  unfold applyConfig
  split_ifs <;> rfl

theorem reconcileV2_cases (h : Host) (i : StepInput) :
    ((reconcileV2 h i).2 ≠ .attempted ∧ (reconcileV2 h i).1.store = h.store ∧
      (reconcileV2 h i).1.interface = h.interface ∧ ((reconcileV2 h i).2 = .unchanged →
        ∃ key p, i.privateKey = some key ∧ i.pull = some p ∧ h.store.isUnchanged p = true)) ∨
    ∃ key p, i.privateKey = some key ∧ i.pull = some p ∧ h.store.isUnchanged p = false ∧
      (parseConfigV2 p.config key).isSome = true ∧ (reconcileV2 h i).2 = .attempted ∧
      (reconcileV2 h i).1.store = h.store.remember p ∧
      (reconcileV2 h i).1.interface = (applyConfig h p.config i.outcome).interface := by
  unfold reconcileV2
  cases hkey : i.privateKey with
  | none => exact .inl ⟨nofun, rfl, rfl, nofun⟩
  | some key =>
    cases hp : i.pull with
    | none => exact .inl ⟨nofun, rfl, rfl, nofun⟩
    | some p =>
      dsimp only
      cases hun : h.store.isUnchanged p with
      | true => exact .inl ⟨nofun, rfl, rfl, fun _ => ⟨key, p, rfl, rfl, hun⟩⟩
      | false =>
        rw [if_neg Bool.false_ne_true]
        cases hparse : parseConfigV2 p.config key with
        | none => exact .inl ⟨nofun, rfl, rfl, nofun⟩
        | some c =>
          exact .inr ⟨key, p, rfl, rfl, hun, congrArg _ hparse, rfl,
            congrArg (·.remember p) (applyConfig_store h p.config i.outcome), rfl⟩

/-- A sound step keeps the cache right. -/
theorem CacheApplied.step {h : Host} {e : DaemonEvent} (hinv : CacheApplied h) (hs : Sound h e) :
    CacheApplied (daemonStep h e) := by
  cases e with
  | reconcile i =>
    rcases reconcileV2_cases h i with ⟨-, hstore, hiface, -⟩ |
      ⟨key, p, hkey, hp, hun, hparse, -, hstore, hiface⟩
    · refine ⟨by rw [daemonStep, hstore, hinv.file_eq], fun text htext => ?_⟩
      rw [daemonStep, hstore] at htext
      rw [daemonStep, hiface]
      exact hinv.applied text htext
    · obtain ⟨hup, hok, hexists⟩ := (hs key hkey p hp).1 hun hparse
      -- what is cached now has just been applied
      refine ⟨by rw [daemonStep, hstore, StateStore.remember_file], fun text htext => ?_⟩
      rw [daemonStep, hstore, StateStore.get?_remember, Option.some.injEq] at htext
      refine ⟨p.config, ?_, htext⟩
      rw [daemonStep, hiface]
      simp only [applyConfig, hup, hok, ↓reduceIte]
      cases hi : h.interface with
      | absent => simp only [HostInterface.bringUp, hexists hi, ↓reduceIte, HostInterface.apply]
      | present applied => rfl
  | restart survives =>
    -- the restarted daemon has what the file has
    refine ⟨rfl, fun text htext => ?_⟩
    change h.store.cacheFile.get? "last_config_v2" = some text at htext
    rcases hs with rfl | hnone
    · exact hinv.applied text (hinv.file_eq ▸ htext)
    · rw [hnone] at htext; cases htext

theorem isUnchanged_of_unchanged {h : Host} {i : StepInput}
    (hres : (reconcileV2 h i).2 = .unchanged) :
    ∃ key p, i.privateKey = some key ∧ i.pull = some p ∧ h.store.isUnchanged p = true := by
  rcases reconcileV2_cases h i with ⟨-, -, -, hun⟩ | ⟨_, _, -, -, -, -, hatt, -⟩
  · exact hun hres
  · rw [hatt] at hres; cases hres

/-- An attempted configuration is skipped the next time, whether or not it was applied. -/
theorem unchanged_of_attempted {h : Host} {i : StepInput}
    (hres : (reconcileV2 h i).2 = .attempted) :
    (reconcileV2 (reconcileV2 h i).1 i).2 = .unchanged := by
  rcases reconcileV2_cases h i with ⟨hne, -⟩ | ⟨key, p, hkey, hp, -, -, -, hstore, -⟩
  · exact absurd hres hne
  · have hun : (reconcileV2 h i).1.store.isUnchanged p = true := by
      rw [hstore]
      unfold StateStore.isUnchanged StateStore.remember
      split
      · exact decide_eq_true (Dict.get?_set_self ..)
      · exact decide_eq_true (Dict.get?_set_self ..)
    generalize (reconcileV2 h i).1 = h' at hun ⊢
    simp only [reconcileV2, hkey, hp, hun, ↓reduceIte]

/-- The step skips only the configuration that was last applied to the interface. -/
def SkipsOnlyApplied (h : Host) (i : StepInput) : Prop :=
  (reconcileV2 h i).2 = .unchanged →
    ∃ p c, i.pull = some p ∧ h.interface = .present (some c) ∧ c.Same p.config

/-- **A skipped configuration is the one that was last applied**, in every run of sound steps from
an empty cache. -/
theorem skips_only_applied (interface : HostInterface) (events : List DaemonEvent) (i : StepInput)
    (hsound : Admissible daemonStep Sound { interface } (events ++ [.reconcile i])) :
    SkipsOnlyApplied (run daemonStep { interface } events) i := by
  intro hres
  obtain ⟨hbefore, hlast, -⟩ := (admissible_append daemonStep).1 hsound
  have hinv : CacheApplied (run daemonStep { interface } events) :=
    run_invariant_of_admissible daemonStep (fun _ _ hinv hs => hinv.step hs)
      ⟨rfl, fun key hkey => by cases hkey⟩ hbefore
  obtain ⟨key, p, hkey, hp, hun⟩ := isUnchanged_of_unchanged hres
  have hcached : (run daemonStep { interface } events).store.cache.get? "last_config_v2" =
      some p.config.cacheKey := by
    -- a known hash stands for the cached configuration, else its text was compared
    unfold StateStore.isUnchanged at hun
    split at hun
    · rename_i hash hfilter
      rw [Option.filter_eq_some_iff] at hfilter
      exact (hlast key hkey p hp).2 hash hfilter.1 (of_decide_eq_true hun)
    · exact of_decide_eq_true hun
  obtain ⟨c, hc, htext⟩ := hinv.applied _ hcached
  exact ⟨p, c, hp, hc, ConfigV2.cacheKey_inj.1 htext⟩

/-- One step with a key, the configuration of a network without peers, and an outcome. -/
def aloneStep (ok : Bool) : StepInput where
  now := 0
  keyFile := some "key\n"
  pull := some
    { config :=
        { interface := .obj [("address", .str "10.0.0.2/24")]
          peers := .arr []
          routes := .arr []
          exitNode := .null }
      hash := some "h" }
  outcome := { up := true, created := true, ok := ok }

/-- A configuration that was applied with success is skipped the next time. -/
theorem skips_only_applied_alone :
    (reconcileV2 (run daemonStep {} [.reconcile (aloneStep true)]) (aloneStep true)).2 =
        .unchanged ∧
      SkipsOnlyApplied (run daemonStep {} [.reconcile (aloneStep true)]) (aloneStep true) := by
  refine ⟨by decide, skips_only_applied .absent [.reconcile (aloneStep true)] (aloneStep true)
    ⟨?_, ?_, trivial⟩⟩
  · intro key _ p hp
    cases hp
    exact ⟨fun _ _ => ⟨rfl, rfl, fun _ => rfl⟩, fun hash _ h => by cases h⟩
  · intro key _ p hp
    cases hp
    exact ⟨fun h => absurd h (by decide), fun hash _ _ => by decide⟩

/-- After a failed apply the same configuration is skipped, while none was applied. -/
theorem skips_failed_apply :
    ¬ SkipsOnlyApplied (run daemonStep {} [.reconcile (aloneStep false)]) (aloneStep true) := by
  intro h
  obtain ⟨p, c, -, hc, -⟩ := h (by decide)
  have hnone : (run daemonStep {} [.reconcile (aloneStep false)]).interface = .present none := rfl
  rw [hnone] at hc
  cases hc

end Daemon

end Midscale
