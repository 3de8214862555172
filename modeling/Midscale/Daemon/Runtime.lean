import Midscale.Daemon.Reconciler
import Midscale.Data.SetOrder
import Midscale.Wireguard.Dump

/-!
# The daemon's WireGuard runtime

`WireGuardRuntime` brings the interface up and configures it by running `wg` and `ip`.  What these
programs do to a host is a parameter, and so is how each command ends: with an exit code, or with an
exception of the call.  A command that fails does nothing and prints nothing.

* `WireGuardRuntime.bringUpInterface`, `WireGuardRuntime.applyConfig` : the two methods that
  `Reconciler._apply_config` calls.
* `WireGuardRuntime.Codes.bringUpInterface_eq`, `WireGuardRuntime.Codes.applyConfig_eq` : **with exit
  codes alone, whatever they are, both return `True`**.
* `applyWith_state` : the reconcile step counts what the two methods return.
-/

namespace Midscale

namespace Daemon

/-! ### Configurations of the declared types -/

/-- `DesiredPeer` with fields of their declared types, as far as the runtime reads it. -/
structure TypedPeer where
  publicKey : String
  allowedIps : List String := []
  endpoint : Option String := none
  endpointPort : Option ℤ := none
  persistentKeepalive : Option ℤ := none
  deriving DecidableEq, Repr

/-- `DesiredConfig` with fields of their declared types, as far as the runtime reads it. -/
structure TypedConfig where
  privateKey : String
  address : String
  subnet : String
  listenPort : Option ℤ := none
  peers : List TypedPeer := []
  deriving DecidableEq, Repr

/-- `f"{peer.endpoint}:{port}"` with `port = peer.endpoint_port or 51820`, if there is an endpoint. -/
def TypedPeer.endpointArg (p : TypedPeer) : Option String :=
  (p.endpoint.filter (· ≠ "")).map fun endpoint =>
    endpoint ++ ":" ++ toString ((p.endpointPort.filter (· ≠ 0)).getD 51820)

/-- `str(peer.persistent_keepalive)`, if there is one. -/
def TypedPeer.keepaliveArg (p : TypedPeer) : Option String := p.persistentKeepalive.map toString

/-- `f"{address}/{subnet.split('/')[1] if '/' in subnet else '24'}"`. -/
def addressArg (address subnet : String) : String :=
  address ++ "/" ++ if '/' ∈ subnet.toList then (splitText '/' subnet).getD 1 "" else "24"

/-! ### Commands -/

/-- A command: a program, its arguments and its standard input. -/
structure Command where
  program : String
  args : List String
  input : Option String := none
  deriving DecidableEq, Repr

/-- How the call of a command ends. -/
inductive Exit where
  | code (n : ℤ)
  | raised
  deriving DecidableEq

/-- What the commands of a host do and print when they exit with 0. -/
structure Tools (σ : Type) where
  perform : σ → Command → σ
  output : σ → Command → String

/-- A host, and the commands that were run on it. -/
structure World (σ : Type) where
  host : σ
  issued : List Command := []

/-- `WireGuardRuntime`, with the programs of its host. -/
structure WireGuardRuntime (σ : Type) where
  wgBinary : String := "wg"
  tools : Tools σ
  /-- How a command ends that is run after `i` others. -/
  exits : ℕ → Exit
  setOrder : SetOrder String

namespace WireGuardRuntime

variable {σ : Type} (rt : WireGuardRuntime σ) (w : World σ) (interface : String)

/-- A command of the `wg` program. -/
def wg (args : List String) (input : String := "") : Command where
  program := rt.wgBinary
  args := args
  input := if input ≠ "" then some input else none

/-- `ip addr add`. -/
def ipAddrAdd (address : String) : Command where
  program := "ip"
  args := ["addr", "add", address, "dev", interface]

/-- `ip link add`. -/
def ipLinkAdd : Command where
  program := "ip"
  args := ["link", "add", interface, "type", "wireguard"]

/-- `ip link set up`. -/
def ipLinkUp : Command where
  program := "ip"
  args := ["link", "set", interface, "up"]

/-- The command that sets a peer. -/
def setPeer (p : TypedPeer) : Command :=
  rt.wg (["set", interface, "peer", p.publicKey, "allowed-ips", ",".intercalate p.allowedIps] ++
    (p.endpointArg.map (["endpoint", ·])).getD [] ++
    (p.keepaliveArg.map (["persistent-keepalive", ·])).getD [])

/-- The command that removes a peer. -/
def removePeer (key : String) : Command := rt.wg ["set", interface, "peer", key, "remove"]

/-- The command that sets the private key and the listen port. -/
def setInterface (config : TypedConfig) : Command :=
  rt.wg ["set", interface, "private-key", "/dev/stdin", "listen-port",
    toString ((config.listenPort.filter (· ≠ 0)).getD 51820)] config.privateKey

/-! ### The methods -/

/-- Runs a command: its exit code and output, `none` when the call raises. -/
def exec (c : Command) : World σ × Option (ℤ × String) :=
  let issued := w.issued ++ [c]
  match rt.exits w.issued.length with
  | .raised => ({ w with issued := issued }, none)
  | .code n =>
    if n = 0 then
      ({ host := rt.tools.perform w.host c, issued := issued }, some (n, rt.tools.output w.host c))
    else ({ w with issued := issued }, some (n, ""))

/-- Runs commands one after another, `false` when one of the calls raises. -/
def execAll (w : World σ) : List Command → World σ × Bool
  | [] => (w, true)
  | c :: cs =>
    match rt.exec w c with
    | (w, none) => (w, false)
    | (w, some _) => execAll w cs

/-- `_run`: the output, the exit code is not looked at. -/
def runWg (c : Command) : World σ × Option String :=
  ((rt.exec w c).1, (rt.exec w c).2.map fun ended => strip ended.2)

/-- `interface_exists`. -/
def interfaceExists : World σ × Bool :=
  let (w, output) := rt.runWg w (rt.wg ["show", interface])
  (w, output.isSome)

/-- What `get_state` returns for the output of `wg show <interface> dump`. -/
def stateOf (output : Option String) : Option InterfaceState := do
  let raw ← output
  if raw = "" then none else (Daemon.parseDump raw interface).toOption

/-- `get_state`. -/
def getState : World σ × Option InterfaceState :=
  let (w, output) := rt.runWg w (rt.wg ["show", interface, "dump"])
  (w, stateOf interface output)

/-- The commands of `apply_config` that follow `get_state`: a peer that the configuration does not have
is removed. -/
def peerCommands (config : TypedConfig) (current : Option InterfaceState) : List Command :=
  let currentKeys := rt.setOrder.elems ((current.map (·.peers)).getD [] |>.map (·.publicKey))
  let desiredKeys := config.peers.map (·.publicKey)
  config.peers.map (rt.setPeer interface) ++
    (currentKeys.filter (· ∉ desiredKeys)).map (rt.removePeer interface)

/-- `apply_config`. -/
def applyConfig (config : TypedConfig) : World σ × Bool :=
  match rt.exec w (rt.setInterface interface config) with
  | (w, none) => (w, false)
  | (w, some _) =>
    let (w, current) := rt.getState w interface
    rt.execAll w (rt.peerCommands interface config current)

/-- The commands that put an address on the interface and bring it up. -/
def upCommands (address subnet : String) : List Command :=
  [ipAddrAdd interface (addressArg address subnet), ipLinkUp interface]

/-- `bring_up_interface`: the interface is only made if `interface_exists` says that there is none. -/
def bringUpInterface (address subnet : String) : World σ × Bool :=
  match rt.interfaceExists w interface with
  | (w, true) => rt.execAll w (upCommands interface address subnet)
  | (w, false) =>
    match rt.exec w (rt.wg ["genkey"]) with
    | (w, none) => (w, false)
    | (w, some (code, output)) =>
      let privateKey := if code = 0 then strip output else ""
      rt.execAll w (ipLinkAdd interface :: upCommands interface address subnet ++
        if privateKey ≠ "" then
          [rt.wg ["set", interface, "private-key", "/dev/stdin"] privateKey]
        else [])

/-! ### With exit codes alone -/

/-- What a command leaves, however it ends. -/
def step (c : Command) : World σ := (rt.exec w c).1

/-- No call raises. -/
def Codes : Prop := ∀ i, rt.exits i ≠ .raised

variable {rt w interface}

theorem step_issued (c : Command) : (rt.step w c).issued = w.issued ++ [c] := by
  rw [step, exec]
  cases rt.exits w.issued.length with
  | raised => rfl
  | code n =>
    dsimp only
    split_ifs <;> rfl

theorem run_issued (cs : List Command) : (run rt.step w cs).issued = w.issued ++ cs := by
  induction cs generalizing w with
  | nil => simp
  | cons c cs ih => rw [run_cons, ih, step_issued, List.append_assoc, List.singleton_append]

theorem Codes.exec_eq (hcodes : rt.Codes) (w : World σ) (c : Command) :
    ∃ ended, rt.exec w c = (rt.step w c, some ended) := by
  rw [step, exec]
  cases hexit : rt.exits w.issued.length with
  | raised => exact absurd hexit (hcodes _)
  | code n =>
    dsimp only
    split_ifs
    · exact ⟨_, rfl⟩
    · exact ⟨_, rfl⟩

theorem Codes.execAll_eq (hcodes : rt.Codes) (w : World σ) (cs : List Command) :
    rt.execAll w cs = (run rt.step w cs, true) := by
  induction cs generalizing w with
  | nil => rfl
  | cons c cs ih =>
    obtain ⟨ended, hended⟩ := hcodes.exec_eq w c
    rw [execAll, hended]
    exact ih _

theorem Codes.interfaceExists_eq (hcodes : rt.Codes) :
    rt.interfaceExists w interface = (rt.step w (rt.wg ["show", interface]), true) := by
  obtain ⟨ended, hended⟩ := hcodes.exec_eq w (rt.wg ["show", interface])
  rw [interfaceExists, runWg, hended]
  rfl

/-- **With exit codes alone `bring_up_interface` returns `True` and makes no interface.** -/
theorem Codes.bringUpInterface_eq (hcodes : rt.Codes) (address subnet : String) :
    rt.bringUpInterface w interface address subnet =
      (run rt.step w (rt.wg ["show", interface] :: upCommands interface address subnet), true) := by
  rw [bringUpInterface, hcodes.interfaceExists_eq]
  exact hcodes.execAll_eq _ _

/-- **With exit codes alone `apply_config` returns `True`.** -/
theorem Codes.applyConfig_eq (hcodes : rt.Codes) (config : TypedConfig) :
    rt.applyConfig w interface config =
      (run rt.step w (rt.setInterface interface config :: rt.wg ["show", interface, "dump"] ::
        rt.peerCommands interface config
          (rt.getState (rt.step w (rt.setInterface interface config)) interface).2), true) := by
  obtain ⟨ended, hended⟩ := hcodes.exec_eq w (rt.setInterface interface config)
  rw [applyConfig, hended]
  exact hcodes.execAll_eq _ _

end WireGuardRuntime

/-! ### The reconcile step -/

section

variable {σ : Type} (rt : WireGuardRuntime σ) (w : World σ) (st : DaemonState) (interface : String)
  (config : TypedConfig)

/-- `_apply_config` with the runtime. -/
def applyWith : World σ × DaemonState :=
  match rt.bringUpInterface w interface config.address config.subnet with
  | (w, false) => (w, st)
  | (w, true) =>
    match rt.applyConfig w interface config with
    | (w, true) => (w, { st with reconfigureCount := st.reconfigureCount + 1 })
    | (w, false) => (w, { st with errorCount := st.errorCount + 1 })

/-- **The reconcile step counts what the two methods return.** -/
theorem applyWith_state (h : Host) (c : ConfigV2) (created : Bool) :
    let up := rt.bringUpInterface w interface config.address config.subnet
    (applyWith rt w h.state interface config).2 =
      (applyConfig h c
        { up := up.2
          created := created
          ok := (rt.applyConfig up.1 interface config).2 }).state := by
  dsimp only
  rw [applyWith, applyConfig]
  rcases rt.bringUpInterface w interface config.address config.subnet with ⟨w', up⟩
  cases up with
  | false => rfl
  | true =>
    dsimp only
    rcases rt.applyConfig w' interface config with ⟨w'', ok⟩
    cases ok <;> rfl

/-- **With exit codes alone every reconfiguration is counted**, after these commands. -/
theorem applyWith_of_codes (hcodes : rt.Codes) : ∃ w',
    applyWith rt w st interface config =
      (run rt.step w (rt.wg ["show", interface] ::
        (WireGuardRuntime.upCommands interface config.address config.subnet ++
          rt.setInterface interface config :: rt.wg ["show", interface, "dump"] ::
            rt.peerCommands interface config (rt.getState w' interface).2)),
        { st with reconfigureCount := st.reconfigureCount + 1 }) := by
  rw [applyWith, hcodes.bringUpInterface_eq]
  dsimp only
  rw [hcodes.applyConfig_eq]
  exact ⟨_, rfl⟩

theorem reconfigureCount_applyWith (hcodes : rt.Codes) :
    (applyWith rt w st interface config).2.reconfigureCount = st.reconfigureCount + 1 := by
  obtain ⟨w', hw'⟩ := applyWith_of_codes rt w st interface config hcodes
  rw [hw']

end

end Daemon

end Midscale
