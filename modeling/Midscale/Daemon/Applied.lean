import Midscale.Daemon.Runtime
import Midscale.Wireguard.Routing

/-!
# What a counted reconfiguration leaves

`_apply_config` counts a reconfiguration when `bring_up_interface` and `apply_config` return `True`,
which they do with all exit codes.  What the commands do to the host is documented: the hypotheses
say it in terms of what can be seen of the interface.

* `Documented` : what the manuals of `ip` and `wg` say of the commands.
* `Documented.view_applyWith` : what can be seen after a reconfiguration.
* `counted_applied_iff` : **a counted reconfiguration has been applied exactly if the interface was
  there and nothing of what had to change was up to a command that failed.**
* `counted_without_interface` : on a host without the interface everything fails and is counted.
-/

namespace Midscale

namespace Daemon

/-- What can be seen of an interface. -/
structure InterfaceView (P E : Type) where
  up : Bool
  /-- The addresses, as `ip addr add` names them. -/
  addresses : Set String
  peers : PeerTable String P E

/-- What the arguments of `wg set` mean. -/
structure Reading (P E : Type) where
  allowedIps : String → Set P
  endpoint : String → E

section

variable {σ P E : Type}

/-- The setting that a peer of a configuration asks for. -/
def TypedPeer.setting (reading : Reading P E) (p : TypedPeer) : PeerSetting String P E where
  key := p.publicKey
  allowed := reading.allowedIps (",".intercalate p.allowedIps)
  endpoint := p.endpointArg.map reading.endpoint

/-- The settings of the peers of a configuration. -/
def TypedConfig.settings (reading : Reading P E) (config : TypedConfig) :
    List (PeerSetting String P E) :=
  config.peers.map (·.setting reading)

/-- What the manuals of `ip` and `wg` say of the commands that the runtime runs. -/
structure Documented (rt : WireGuardRuntime σ) (interface : String)
    (view : σ → Option (InterfaceView P E)) (reading : Reading P E) : Prop where
  show_same : ∀ s, view (rt.tools.perform s (rt.wg ["show", interface])) = view s
  dump_same : ∀ s, view (rt.tools.perform s (rt.wg ["show", interface, "dump"])) = view s
  dump_output : ∀ s, ∃ k : KernelInterface,
    strip (rt.tools.output s (rt.wg ["show", interface, "dump"])) = k.dump
  set_interface : ∀ s config, view (rt.tools.perform s (rt.setInterface interface config)) = view s
  addr_add : ∀ s address,
    view (rt.tools.perform s (WireGuardRuntime.ipAddrAdd interface address)) =
      (view s).map fun v => { v with addresses := insert address v.addresses }
  link_up : ∀ s, view (rt.tools.perform s (WireGuardRuntime.ipLinkUp interface)) =
    (view s).map fun v => { v with up := true }
  set_peer : ∀ s p, view (rt.tools.perform s (rt.setPeer interface p)) =
    (view s).map fun v => { v with peers := v.peers.set (p.setting reading) }

/-- The interface is there and up, with the address of the configuration, and has exactly the peers of
the configuration. -/
def Applied (reading : Reading P E) (config : TypedConfig) (v : Option (InterfaceView P E)) : Prop :=
  ∃ i ∈ v, i.up = true ∧ addressArg config.address config.subnet ∈ i.addresses ∧
    i.peers.Exactly (config.settings reading)

/-- The peers whose command exits with 0, when the first is run after `n` commands. -/
def WireGuardRuntime.setPeers (rt : WireGuardRuntime σ) (n : ℕ) (peers : List TypedPeer) :
    List TypedPeer :=
  ((peers.zipIdx n).filter fun p => rt.exits p.2 = .code 0).map (·.1)

/-- The interface was there; it was up or the command for that succeeds, it had the address or the
command for that does; and its peers meet the configuration after the settings of the commands that
succeed. -/
def AppliesFrom (rt : WireGuardRuntime σ) (reading : Reading P E) (config : TypedConfig)
    (prior : Option (InterfaceView P E)) : Prop :=
  ∃ i ∈ prior, (i.up = true ∨ rt.exits 2 = .code 0) ∧
    (addressArg config.address config.subnet ∈ i.addresses ∨ rt.exits 1 = .code 0) ∧
    i.peers.MeetsAfter (config.settings reading)
      ((rt.setPeers 5 config.peers).map (·.setting reading))

variable {rt : WireGuardRuntime σ} {interface : String} {view : σ → Option (InterfaceView P E)}
  {reading : Reading P E} {w : World σ} {config : TypedConfig}

theorem WireGuardRuntime.setPeers_subset (n : ℕ) (peers : List TypedPeer) :
    rt.setPeers n peers ⊆ peers := fun p hp => by
  obtain ⟨x, hx, rfl⟩ := List.mem_map.1 hp
  exact List.fst_mem_of_mem_zipIdx (List.mem_filter.1 hx).1

theorem WireGuardRuntime.step_host (c : Command) : (rt.step w c).host =
    if rt.exits w.issued.length = .code 0 then rt.tools.perform w.host c else w.host := by
  rw [step, exec]
  cases hexit : rt.exits w.issued.length with
  | raised => rfl
  | code n =>
    by_cases hn : n = 0
    · subst hn
      rfl
    · simp [hn]

theorem view_step_same {c : Command} (h : ∀ s, view (rt.tools.perform s c) = view s) :
    view (rt.step w c).host = view w.host := by
  rw [WireGuardRuntime.step_host]
  split_ifs
  · exact h _
  · rfl

namespace Documented

theorem getState (hdoc : Documented rt interface view reading) (w : World σ) :
    (rt.getState w interface).2 = none := by
  rw [WireGuardRuntime.getState, WireGuardRuntime.runWg, WireGuardRuntime.exec]
  cases rt.exits w.issued.length with
  | raised => rfl
  | code n =>
    by_cases hn : n = 0
    · obtain ⟨k, hk⟩ := hdoc.dump_output w.host
      have hraises := parseDump_dump k interface
      simp [hn, WireGuardRuntime.stateOf, hk, hraises, Except.toOption]
    · have hempty : strip "" = "" := by decide
      simp [hn, WireGuardRuntime.stateOf, hempty]

theorem peerCommands (hdoc : Documented rt interface view reading) (w : World σ) :
    rt.peerCommands interface config (rt.getState w interface).2 =
      config.peers.map (rt.setPeer interface) := by
  have hnone : rt.setOrder.elems [] = [] :=
    List.eq_nil_iff_forall_not_mem.2 fun key hkey =>
      List.not_mem_nil (rt.setOrder.mem_elems.1 hkey)
  rw [hdoc.getState, WireGuardRuntime.peerCommands]
  simp [hnone]

theorem view_setPeers (hdoc : Documented rt interface view reading) (peers : List TypedPeer) :
    view (run rt.step w (peers.map (rt.setPeer interface))).host =
      (view w.host).map fun v => { v with
        peers := v.peers.apply ((rt.setPeers w.issued.length peers).map (·.setting reading)) } := by
  induction peers generalizing w with
  | nil => simp [WireGuardRuntime.setPeers, PeerTable.apply]
  | cons p peers ih =>
    rw [List.map_cons, run_cons, ih, WireGuardRuntime.step_issued, List.length_append,
      List.length_singleton, WireGuardRuntime.step_host]
    split_ifs with hexit
    · rw [hdoc.set_peer, Option.map_map]
      simp [WireGuardRuntime.setPeers, hexit, PeerTable.apply, Function.comp_def]
    · simp [WireGuardRuntime.setPeers, hexit]

/-- **What can be seen after a reconfiguration.** -/
theorem view_applyWith (hdoc : Documented rt interface view reading) (hcodes : rt.Codes) (s : σ)
    (st : DaemonState) (config : TypedConfig) :
    view (applyWith rt { host := s } st interface config).1.host = (view s).map fun v =>
      { up := v.up || decide (rt.exits 2 = .code 0)
        addresses := if rt.exits 1 = .code 0 then
          insert (addressArg config.address config.subnet) v.addresses else v.addresses
        peers := v.peers.apply ((rt.setPeers 5 config.peers).map (·.setting reading)) } := by
  obtain ⟨w', hw'⟩ := applyWith_of_codes rt { host := s } st interface config hcodes
  rw [hw', hdoc.peerCommands, run_cons, run_append, run_cons, run_cons, hdoc.view_setPeers]
  simp only [WireGuardRuntime.step_issued, WireGuardRuntime.upCommands, run_cons, run_nil,
    List.length_append, List.length_singleton, List.length_nil, Nat.reduceAdd]
  rw [view_step_same hdoc.dump_same, view_step_same fun s => hdoc.set_interface s config,
    WireGuardRuntime.step_host, WireGuardRuntime.step_host]
  simp only [WireGuardRuntime.step_issued, List.length_append, List.length_singleton,
    List.length_nil, Nat.reduceAdd]
  have hstart : view (rt.step { host := s } (rt.wg ["show", interface])).host = view s :=
    view_step_same hdoc.show_same
  split_ifs with hup haddr haddr
  · rw [hdoc.link_up, hdoc.addr_add, hstart, Option.map_map, Option.map_map]
    simp [Function.comp_def, hup]
  · rw [hdoc.link_up, hstart, Option.map_map]
    simp [Function.comp_def, hup]
  · rw [hdoc.addr_add, hstart, Option.map_map]
    simp [Function.comp_def, hup]
  · rw [hstart]
    simp [hup]

end Documented

/-- **A counted reconfiguration has been applied exactly if** the interface was there, and nothing
that had to change was left to a command that failed. -/
theorem counted_applied_iff (hdoc : Documented rt interface view reading) (hcodes : rt.Codes) (s : σ)
    (st : DaemonState) (config : TypedConfig) :
    ((applyWith rt { host := s } st interface config).2.reconfigureCount = st.reconfigureCount + 1 →
        Applied reading config (view (applyWith rt { host := s } st interface config).1.host)) ↔
      AppliesFrom rt reading config (view s) := by
  have hdone : (rt.setPeers 5 config.peers).map (·.setting reading) ⊆ config.settings reading :=
    List.map_subset _ (WireGuardRuntime.setPeers_subset 5 config.peers)
  rw [imp_iff_right (reconfigureCount_applyWith rt _ st interface config hcodes),
    hdoc.view_applyWith hcodes]
  cases hview : view s with
  | none => simp [Applied, AppliesFrom]
  | some i =>
    simp only [Applied, AppliesFrom, Option.map_some, Option.mem_some_iff, exists_eq_left',
      PeerTable.exactly_apply_iff hdone, Bool.or_eq_true, decide_eq_true_eq]
    refine and_congr_right fun _ => and_congr_left fun _ => ?_
    split_ifs with haddr
    · simp [haddr]
    · simp [haddr]

end

/-! ### A laptop -/

/-- Prefixes and endpoints as they are written. -/
def laptopReading : Reading String String where
  allowedIps text := {p | p ∈ splitText ',' text}
  endpoint text := text

/-- The laptop's interface before it has peers. -/
def laptopInterface : KernelInterface where
  privateKey := tunnelInterface.privateKey
  publicKey := tunnelInterface.publicKey
  listenPort := 51820

/-- A host with at most one interface. -/
def laptopTools : Tools (Option (InterfaceView String String)) where
  perform s c :=
    match c.program, c.args with
    | "ip", ["addr", "add", address, "dev", _] =>
      s.map fun v => { v with addresses := insert address v.addresses }
    | "ip", ["link", "set", _, "up"] => s.map fun v => { v with up := true }
    | "wg", "set" :: _ :: "peer" :: key :: "allowed-ips" :: ips :: rest =>
      let endpoint := match rest with
        | "endpoint" :: endpoint :: _ => some endpoint
        | _ => none
      s.map fun v => { v with
        peers := v.peers.set
          { key := key, allowed := laptopReading.allowedIps ips, endpoint := endpoint } }
    | _, _ => s
  output _ c := if c.args.getLast? = some "dump" then laptopInterface.dump ++ "\n" else ""

/-- The runtime of the laptop. -/
def laptopRuntime (exits : ℕ → Exit) : WireGuardRuntime (Option (InterfaceView String String)) where
  tools := laptopTools
  exits := exits
  setOrder := .dedup String

theorem strip_laptopInterface :
    strip (laptopInterface.dump ++ "\n") = laptopInterface.dump := by decide +kernel

theorem laptop_documented (exits : ℕ → Exit) :
    Documented (laptopRuntime exits) "wg0" (fun s => s) laptopReading where
  show_same _ := rfl
  dump_same _ := rfl
  dump_output _ := ⟨laptopInterface, strip_laptopInterface⟩
  set_interface _ _ := rfl
  addr_add _ _ := rfl
  link_up _ := rfl
  set_peer s p := by
    cases hep : p.endpointArg with
    | none =>
      cases hk : p.keepaliveArg with
      | none =>
        simp [WireGuardRuntime.setPeer, hep, hk, TypedPeer.setting, laptopRuntime,
          WireGuardRuntime.wg, laptopTools]
      | some keepalive =>
        simp [WireGuardRuntime.setPeer, hep, hk, TypedPeer.setting, laptopRuntime,
          WireGuardRuntime.wg, laptopTools]
    | some endpoint =>
      simp [WireGuardRuntime.setPeer, hep, TypedPeer.setting, laptopRuntime, WireGuardRuntime.wg,
        laptopTools]
      rfl

/-- A configuration with one peer. -/
def laptopConfig : TypedConfig where
  privateKey := String.ofList (List.replicate 43 'a' ++ ['='])
  address := "10.0.0.2"
  subnet := "0.0.0.0/24"
  peers := [
    { publicKey := "key-hub", allowedIps := ["10.0.0.0/24", "192.168.7.0/24"],
      endpoint := some "192.0.2.1", endpointPort := some 51820, persistentKeepalive := some 25 }]

/-- With an interface that is down and has no peers, and commands that succeed, the configuration is
applied. -/
theorem counted_applied_iff_laptop :
    (laptopRuntime fun _ => .code 0).Codes ∧
      Applied laptopReading laptopConfig
        (applyWith (laptopRuntime fun _ => .code 0) { host := some ⟨false, ∅, .empty⟩ } {} "wg0"
          laptopConfig).1.host := by
  have hcodes : (laptopRuntime fun _ => .code 0).Codes := fun _ => nofun
  have hiff := counted_applied_iff (laptop_documented fun _ => .code 0) hcodes
    (some ⟨false, ∅, .empty⟩) {} laptopConfig
  have hmeets : (PeerTable.empty : PeerTable String String String).MeetsAfter
      (laptopConfig.settings laptopReading)
      (((laptopRuntime fun _ => .code 0).setPeers 5 laptopConfig.peers).map
        (·.setting laptopReading)) := by
    have hset : (laptopRuntime fun _ => .code 0).setPeers 5 laptopConfig.peers =
      laptopConfig.peers := rfl
    rw [hset]
    refine ⟨?_, fun k (hk : false = true) => absurd hk Bool.false_ne_true,
      fun s hs => ⟨fun _ _ => rfl, fun hnot => absurd hs hnot⟩⟩
    intro s hs s' hs'
    cases List.mem_singleton.1 hs
    cases List.mem_singleton.1 hs'
    exact ⟨fun _ => rfl, fun hne => absurd rfl hne⟩
  exact ⟨hcodes, hiff.2 ⟨_, rfl, .inr rfl, .inr rfl, hmeets⟩
    (reconfigureCount_applyWith _ _ _ _ _ hcodes)⟩

/-- **On a host without the interface every command fails, and the reconfiguration is counted.** -/
theorem counted_without_interface :
    Documented (laptopRuntime fun _ => .code 1) "wg0" (fun s => s) laptopReading ∧
      (laptopRuntime fun _ => .code 1).Codes ∧
      (applyWith (laptopRuntime fun _ => .code 1) { host := none } {} "wg0"
        laptopConfig).2.reconfigureCount = 1 ∧
      ¬ Applied laptopReading laptopConfig
        (applyWith (laptopRuntime fun _ => .code 1) { host := none } {} "wg0"
          laptopConfig).1.host := by
  have hdoc := laptop_documented fun _ => .code 1
  have hcodes : (laptopRuntime fun _ => .code 1).Codes := fun _ => nofun
  have hview := hdoc.view_applyWith hcodes none {} laptopConfig
  refine ⟨hdoc, hcodes, reconfigureCount_applyWith _ _ _ _ _ hcodes, ?_⟩
  rintro ⟨i, hi, -⟩
  rw [hview] at hi
  cases hi

end Daemon

end Midscale
