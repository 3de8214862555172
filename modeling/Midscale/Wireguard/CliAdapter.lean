import Mathlib.Data.List.Infix
import Midscale.Run.Basic
import Midscale.Wireguard.Dump
import Midscale.Wireguard.ReconcileAll

/-!
# The adapter for the `wg` program

`WgCliAdapter` runs `wg show` and `wg set`, which are parameters.  It cannot read the state of an
interface: what it makes of a dump is an exception that the controller does not catch.

* `validateWireguardKey_iff` : the keys that it accepts, two of which are no keys.
* `WgCliAdapter.cycleOf` : what a cycle of the controller comes to, which depends on `wg show` alone.
* `WgCliAdapter.reconcileAll_eq` : a pass ends at the first interface that can be read.
* `cli_controller_idle` : **in no run does the controller change anything on the host**, and, with
  `dns_enabled` off, it never says that a device came online.
-/

namespace Midscale

/-! ### Keys -/

/-- The text without the line end that `$` lets pass. -/
def dropLineEnd (cs : List Char) : List Char :=
  if cs.getLast? = some '\n' then cs.dropLast else cs

/-- `_PEER_KEY_PATTERN`, up to the end. -/
def isPeerKey (cs : List Char) : Bool :=
  cs.length = 44 ∧ cs.dropLast.all isKeyChar ∧ cs.getLast? = some '='

/-- `[a-fA-F0-9]`. -/
def isHexDigit (c : Char) : Bool :=
  c.isDigit ∨ ('a' ≤ c ∧ c ≤ 'f') ∨ ('A' ≤ c ∧ c ≤ 'F')

/-- `_HEX_KEY_PATTERN`, up to the end. -/
def isHexKey (cs : List Char) : Bool := cs.length = 64 ∧ cs.all isHexDigit

/-- `validate_wireguard_key`. -/
def validateWireguardKey (key : String) : Bool :=
  isPeerKey (dropLineEnd key.toList) ∨ isHexKey (dropLineEnd key.toList)

theorem isPeerKey_iff {cs : List Char} : isPeerKey cs = true ↔ ∃ k : WgKey, cs = k.text.toList := by
  simp only [isPeerKey, Bool.decide_and, Bool.decide_eq_true, Bool.and_eq_true, decide_eq_true_eq]
  constructor
  · rintro ⟨hlength, hall, hlast⟩
    refine ⟨⟨cs.dropLast, by rw [List.length_dropLast, hlength], hall⟩, ?_⟩
    rw [WgKey.text, String.toList_ofList]
    exact (List.dropLast_append_getLast? _ hlast).symm
  · rintro ⟨k, rfl⟩
    rw [WgKey.text, String.toList_ofList, List.dropLast_concat, List.getLast?_concat]
    exact ⟨by simp [k.length_eq], k.base64, rfl⟩

/-- **The accepted keys**: those that `wg` prints and 64 hexadecimal digits, which `wg` does not take,
each with a line end after it or without one. -/
theorem validateWireguardKey_iff {key : String} : validateWireguardKey key = true ↔
    ∃ cs, ((∃ k : WgKey, cs = k.text.toList) ∨ isHexKey cs = true) ∧
      (key.toList = cs ∨ key.toList = cs ++ ['\n']) := by
  have hline : ∀ cs, (∃ k : WgKey, cs = k.text.toList) ∨ isHexKey cs = true →
      cs.getLast? ≠ some '\n' := by
    rintro cs (⟨k, rfl⟩ | hhex) hlast
    · rw [WgKey.text, String.toList_ofList, List.getLast?_concat] at hlast
      exact absurd (Option.some.inj hlast) (by decide)
    · simp only [isHexKey, Bool.decide_and, Bool.decide_eq_true, Bool.and_eq_true,
        decide_eq_true_eq] at hhex
      exact absurd (List.all_eq_true.1 hhex.2 _ (List.mem_of_getLast? hlast)) (by decide)
  have hvalid : validateWireguardKey key = true ↔
      (∃ k : WgKey, dropLineEnd key.toList = k.text.toList) ∨
        isHexKey (dropLineEnd key.toList) = true := by
    rw [validateWireguardKey, decide_eq_true_eq, isPeerKey_iff]
  rw [hvalid]
  constructor
  · intro h
    refine ⟨_, h, ?_⟩
    rw [dropLineEnd]
    split_ifs with hlast
    · exact .inr (List.dropLast_append_getLast? _ hlast).symm
    · exact .inl rfl
  · rintro ⟨cs, hcs, hkey | hkey⟩
    · rwa [hkey, dropLineEnd, if_neg (hline cs hcs)]
    · rwa [hkey, dropLineEnd, if_pos List.getLast?_concat, List.dropLast_concat]

/-! ### The program and the adapter -/

/-- How a process ends that was started. -/
structure Ended where
  returnCode : ℤ
  stdout : String := ""
  stderr : String := ""

/-- The `wg` program on hosts `σ`: `wg show` reads, `wg set` writes, and starting a process may raise
an exception. -/
structure WgProgram (σ : Type) where
  read : σ → List String → Except String Ended
  write : σ → List String → σ × Except String Ended

/-- An exception: one of `app.services.wg_exceptions`, or another. -/
inductive CliError where
  | wireguard (e : WireGuardError)
  | other (text : String)

/-- `WgCliAdapter`. -/
structure WgCliAdapter (σ : Type) where
  wgBinary : String := "wg"
  program : WgProgram σ

namespace WgCliAdapter

variable {σ : Type} (a : WgCliAdapter σ) (s : σ) (interface publicKey : String)

/-- What `_run` makes of a process: its two outputs, or `WireGuardCommandError`. -/
def run (args : List String) : Except String Ended → Except CliError (String × String)
  | .error e => .error (.other e)
  | .ok r =>
    if r.returnCode ≠ 0 then
      .error (.wireguard
        (.commandError (" ".intercalate (a.wgBinary :: args)) r.returnCode (strip r.stderr)))
    else .ok (strip r.stdout, strip r.stderr)

/-- `_run` of `wg show`. -/
def runShow (args : List String) : Except CliError (String × String) :=
  a.run ("show" :: args) (a.program.read s args)

/-- `_run` of `wg set`. -/
def runSet (args : List String) : σ × Except CliError (String × String) :=
  let (s, ended) := a.program.write s args
  (s, a.run ("set" :: args) ended)

/-- `interface_exists`. -/
def interfaceExists : Except CliError Bool :=
  match a.runShow s [interface] with
  | .ok _ => .ok true
  | .error (.wireguard (.commandError ..)) => .ok false
  | .error e => .error e

/-- `get_interface_state`. -/
def getInterfaceState : Except CliError WGInterfaceState :=
  match a.runShow s [interface, "dump"] with
  | .error e => .error e
  | .ok (raw, _) =>
    if raw = "" then .error (.wireguard (.interfaceNotFound interface))
    else
      match parseDump raw interface with
      | .ok st => .ok st
      | .error e => .error (.other e)

/-- `text in stderr`. -/
def mentions (text stderr : String) : Bool := text.toList <:+: stderr.toList

/-- What the methods that set something make of an exception of `_run`; `more` is what the method does
beyond the others. -/
def setError (more : String → Option WireGuardError) : Except CliError (String × String) →
    Except CliError Unit
  | .ok _ => .ok ()
  | .error (.wireguard (.commandError command code stderr)) =>
    if mentions "No such device" stderr ∨ mentions "does not exist" stderr then
      .error (.wireguard (.interfaceNotFound interface))
    else .error (.wireguard ((more stderr).getD (.commandError command code stderr)))
  | .error e => .error e

/-- The methods that set something of a peer: a malformed key is refused before `_run`. -/
def setPeer (more : String → Option WireGuardError) (args : List String) :
    σ × Except CliError Unit :=
  if validateWireguardKey publicKey = false then
    (s, .error (.wireguard (.keyError
      ("Invalid public key format: " ++ keyPrefix publicKey ++ "..."))))
  else
    let (s, result) := a.runSet s (interface :: "peer" :: publicKey :: args)
    (s, setError interface more result)

/-- The arguments for an endpoint and a keepalive. -/
def optionArgs (endpoint : Option String) (persistentKeepalive : Option ℤ) : List String :=
  (endpoint.map (["endpoint", ·])).getD [] ++
    (persistentKeepalive.map (["persistent-keepalive", toString ·])).getD []

/-- `add_peer`; an empty endpoint is none. -/
def addPeer (allowedIps : List String) (endpoint : Option String := none)
    (persistentKeepalive : Option ℤ := none) : σ × Except CliError Unit :=
  a.setPeer s interface publicKey (fun _ => none)
    ("allowed-ips" :: ",".intercalate allowedIps ::
      optionArgs (endpoint.filter (· ≠ "")) persistentKeepalive)

/-- `remove_peer`. -/
def removePeer : σ × Except CliError Unit :=
  a.setPeer s interface publicKey
    (fun stderr =>
      if mentions "Invalid peer" stderr ∨ mentions "is not a valid" stderr then
        some (.keyError ("Invalid peer key: " ++ keyPrefix publicKey ++ "..."))
      else none)
    ["remove"]

/-- `update_peer`; without anything to set nothing is run. -/
def updatePeer (allowedIps : Option (List String) := none) (endpoint : Option String := none)
    (persistentKeepalive : Option ℤ := none) : σ × Except CliError Unit :=
  let args := (allowedIps.map (["allowed-ips", ",".intercalate ·])).getD [] ++
    optionArgs endpoint persistentKeepalive
  if validateWireguardKey publicKey = true ∧ args = [] then (s, .ok ())
  else a.setPeer s interface publicKey (fun _ => none) args

/-- `set_peer_endpoint`. -/
def setPeerEndpoint (endpoint : String) : σ × Except CliError Unit :=
  a.setPeer s interface publicKey (fun _ => none) ["endpoint", endpoint]

end WgCliAdapter

/-- An exception as the controller sees it.  It catches one that is not of `wg_exceptions` as little as
a `WireGuardConfigurationError`, which no adapter raises and which stands for it here. -/
def CliError.seen : CliError → WireGuardError
  | wireguard e => e
  | other text => .configurationError text

/-- The adapter as the controller sees it. -/
def WgCliAdapter.adapter {σ : Type} (a : WgCliAdapter σ) : WireGuardAdapter σ where
  interfaceExists s interface := (a.interfaceExists s interface).mapError CliError.seen
  getInterfaceState s interface := (a.getInterfaceState s interface).mapError CliError.seen
  addPeer s interface publicKey allowedIps :=
    ((a.addPeer s interface publicKey allowedIps).1,
      (a.addPeer s interface publicKey allowedIps).2.mapError CliError.seen)
  removePeer s interface publicKey :=
    ((a.removePeer s interface publicKey).1,
      (a.removePeer s interface publicKey).2.mapError CliError.seen)

/-- What the manual says of `wg show <interface> dump`, when it exits with 0. -/
def WgProgram.PrintsDumps {σ : Type} (program : WgProgram σ) : Prop :=
  ∀ s interface r, program.read s [interface, "dump"] = .ok r → r.returnCode = 0 →
    ∃ k : KernelInterface, strip r.stdout = k.dump

namespace WgCliAdapter

/-! ### A cycle and a pass -/

section Cycle

variable {σ : Type} (a : WgCliAdapter σ) (host : σ)

/-- What a cycle comes to: without the interface nothing is done; if its dump can be read the parser
raises, and otherwise the command that failed is noted. -/
def cycleOf (interface : String) : Except String ReconciliationResult :=
  match a.program.read host [interface] with
  | .error e => .error e
  | .ok found =>
    if found.returnCode ≠ 0 then .ok { interface }
    else
      match a.program.read host [interface, "dump"] with
      | .error e => .error e
      | .ok r =>
        if r.returnCode = 0 then .error "ValueError"
        else
          .ok
            { interface
              errors := ["command error: " ++ (WireGuardError.commandError
                (" ".intercalate [a.wgBinary, "show", interface, "dump"]) r.returnCode
                (strip r.stderr)).str] }

/-- What the cycles of a pass come to, until one raises. -/
def cyclesOf : List String → List ReconciliationResult × Option String
  | [] => ([], none)
  | interface :: interfaces =>
    match a.cycleOf host interface with
    | .error e => ([], some e)
    | .ok r => (r :: (cyclesOf interfaces).1, (cyclesOf interfaces).2)

variable {a}

theorem dump_ne_empty (k : KernelInterface) : k.dump ≠ "" := by
  intro h
  obtain ⟨rest, hrest⟩ := k.dump_eq
  rw [h] at hrest
  simp at hrest

/-- **A cycle only looks.** -/
theorem reconcileInterface_eq (hprints : a.program.PrintsDumps) (settings : Settings)
    (order : SetOrder String) (now : Timestamp) (db : Database) (interface : String) :
    reconcileInterface a.adapter settings order now db host interface =
      { host, result := (a.cycleOf host interface).map (db, ·) } := by
  unfold reconcileInterface cycleOf
  simp only [adapter, interfaceExists, getInterfaceState, runShow, run]
  cases hfound : a.program.read host [interface] with
  | error e => rfl
  | ok found =>
    dsimp only
    by_cases hcode : found.returnCode = 0
    · rw [if_neg (not_not.2 hcode), if_neg (not_not.2 hcode)]
      cases hdump : a.program.read host [interface, "dump"] with
      | error e => rfl
      | ok r =>
        dsimp only
        by_cases hdumped : r.returnCode = 0
        · obtain ⟨k, hk⟩ := hprints host interface r hdump hdumped
          rw [if_neg (not_not.2 hdumped), if_pos hdumped]
          dsimp only
          rw [hk, if_neg (dump_ne_empty k), parseDump_dump]
          rfl
        · rw [if_pos hdumped, if_neg hdumped]
          rfl
    · rw [if_pos hcode, if_pos hcode]
      rfl

theorem reconcileInterfaces_eq (hprints : a.program.PrintsDumps) (settings : Settings)
    (order : SetOrder String) (clock : String → Timestamp) (interfaces : List String)
    (db : Database) :
    reconcileInterfaces a.adapter settings order clock interfaces db host =
      { host
        session := db
        events := (a.cyclesOf host interfaces).1.map ReconciliationResult.syncedEvent
        results := (a.cyclesOf host interfaces).1
        failure := (a.cyclesOf host interfaces).2 } := by
  induction interfaces with
  | nil => rfl
  | cons interface interfaces ih =>
    rw [reconcileInterfaces, reconcileInterface_eq host hprints, cyclesOf]
    cases a.cycleOf host interface with
    | error e => rfl
    | ok r =>
      show ({ reconcileInterfaces a.adapter settings order clock interfaces db host with
        events := _, results := _ } : PassOutcome σ) = _
      rw [ih]
      rfl

theorem mem_cyclesOf {interfaces : List String} {r : ReconciliationResult}
    (h : r ∈ (a.cyclesOf host interfaces).1) :
    r.peersAdded = 0 ∧ r.peersRemoved = 0 ∧ r.peersUpdated = 0 := by
  induction interfaces with
  | nil => cases h
  | cons interface interfaces ih =>
    rw [cyclesOf] at h
    cases hcycle : a.cycleOf host interface with
    | error e =>
      rw [hcycle] at h
      cases h
    | ok r' =>
      rw [hcycle] at h
      rcases List.mem_cons.1 h with rfl | h
      · unfold cycleOf at hcycle
        split at hcycle
        · cases hcycle
        · split_ifs at hcycle
          · cases hcycle
            exact ⟨rfl, rfl, rfl⟩
          · split at hcycle
            · cases hcycle
            · split_ifs at hcycle
              cases hcycle
              exact ⟨rfl, rfl, rfl⟩
      · exact ih h

end Cycle

/-- No cycle of the pass raises. -/
def completes {σ : Type} (a : WgCliAdapter σ) (settings : Settings) (order : SetOrder String)
    (host : σ) (db : Database) : Bool :=
  (a.cyclesOf host (db.managedInterfaces settings order)).2.isNone

end WgCliAdapter

/-! ### Runs -/

/-- The controller, with its host. -/
structure ControllerRun (σ : Type) where
  host : σ
  cycleCount : ℕ := 0
  events : List Event := []
  results : List ReconciliationResult := []

/-- A pass, on the database as it is then, or something that others do on the host. -/
inductive ControllerEvent (σ : Type) where
  | pass (clock : String → Timestamp) (now : Timestamp) (db : Database)
  | change (f : σ → σ)

section Run

variable {σ : Type} (adapter : WireGuardAdapter σ) (settings : Settings) (order : SetOrder String)

/-- One event. -/
def ControllerRun.step (c : ControllerRun σ) : ControllerEvent σ → ControllerRun σ
  | .pass clock now db =>
    let (outcome, cycleCount) := reconcileAll adapter settings order clock now db c.host c.cycleCount
    { host := outcome.host
      cycleCount := cycleCount
      events := c.events ++ outcome.events
      results := c.results ++ outcome.results }
  | .change f => { c with host := f c.host }

/-- What others do on the host. -/
def ControllerEvent.change? : ControllerEvent σ → Option (σ → σ)
  | .pass .. => none
  | .change f => some f

/-- The passes that complete, on a host that only others change. -/
def WgCliAdapter.completed (a : WgCliAdapter σ) : σ → List (ControllerEvent σ) → ℕ
  | _, [] => 0
  | host, .pass _ _ db :: es =>
    (a.completes settings order host db).toNat + completed a host es
  | host, .change f :: es => completed a (f host) es

variable {a : WgCliAdapter σ}

theorem ControllerRun.step_pass (hprints : a.program.PrintsDumps) (c : ControllerRun σ)
    (hcount : c.cycleCount < cleanupIntervalCycles) (clock : String → Timestamp) (now : Timestamp)
    (db : Database) :
    let results := (a.cyclesOf c.host (db.managedInterfaces settings order)).1
    c.step a.adapter settings order (.pass clock now db) =
      { host := c.host
        cycleCount := (c.cycleCount + (a.completes settings order c.host db).toNat) %
          cleanupIntervalCycles
        events := c.events ++ results.map ReconciliationResult.syncedEvent
        results := c.results ++ results } := by
  rw [step, reconcileAll, WgCliAdapter.reconcileInterfaces_eq c.host hprints, WgCliAdapter.completes]
  cases (a.cyclesOf c.host (db.managedInterfaces settings order)).2 with
  | some e => simp [Nat.mod_eq_of_lt hcount]
  | none =>
    dsimp only
    split_ifs with hsweep
    · have hlast : c.cycleCount + 1 = cleanupIntervalCycles := by omega
      simp [hlast]
    · have hlt : c.cycleCount + 1 < cleanupIntervalCycles := by omega
      simp [Nat.mod_eq_of_lt hlt]

theorem ControllerRun.run_idle (hprints : a.program.PrintsDumps) (es : List (ControllerEvent σ))
    (c : ControllerRun σ) (hcount : c.cycleCount < cleanupIntervalCycles)
    (hevents : c.events = c.results.map ReconciliationResult.syncedEvent)
    (hresults : ∀ r ∈ c.results, r.peersAdded = 0 ∧ r.peersRemoved = 0 ∧ r.peersUpdated = 0) :
    let c' := run (step a.adapter settings order) c es
    c'.host = run (fun host f => f host) c.host (es.filterMap ControllerEvent.change?) ∧
      c'.cycleCount = (c.cycleCount + a.completed settings order c.host es) %
        cleanupIntervalCycles ∧
      c'.events = c'.results.map ReconciliationResult.syncedEvent ∧
      ∀ r ∈ c'.results, r.peersAdded = 0 ∧ r.peersRemoved = 0 ∧ r.peersUpdated = 0 := by
  induction es generalizing c with
  | nil => exact ⟨rfl, (Nat.mod_eq_of_lt hcount).symm, hevents, hresults⟩
  | cons e es ih =>
    cases e with
    | pass clock now db =>
      have hevents' : c.events ++ (a.cyclesOf c.host
          (db.managedInterfaces settings order)).1.map ReconciliationResult.syncedEvent =
          (c.results ++ (a.cyclesOf c.host (db.managedInterfaces settings order)).1).map
            ReconciliationResult.syncedEvent := by
        rw [hevents, List.map_append]
      rw [run_cons, step_pass settings order hprints c hcount]
      obtain ⟨hhost, hcycles, hrest⟩ := ih ⟨c.host, _, _, _⟩ (Nat.mod_lt _ (Nat.succ_pos _)) hevents'
        fun r hr => (List.mem_append.1 hr).elim (hresults r) (WgCliAdapter.mem_cyclesOf c.host)
      refine ⟨hhost, ?_, hrest⟩
      rw [hcycles, WgCliAdapter.completed, Nat.mod_add_mod, Nat.add_assoc]
    | change f => exact ih { c with host := f c.host } hcount hevents hresults

/-- **The controller never does anything.**  With an adapter for `wg` and `dns_enabled` off, whatever the
database has at its passes and whatever others do on the host, the host is as the others leave it; all
that is published is that nothing was added and nothing removed; and the passes that count for the sweep
are those in which no cycle raises. -/
theorem cli_controller_idle (hprints : a.program.PrintsDumps) (host : σ)
    (es : List (ControllerEvent σ)) :
    let c := run (ControllerRun.step a.adapter settings order) { host := host } es
    c.host = run (fun host f => f host) host (es.filterMap ControllerEvent.change?) ∧
      c.cycleCount = a.completed settings order host es % cleanupIntervalCycles ∧
      c.events = c.results.map ReconciliationResult.syncedEvent ∧
      ∀ r ∈ c.results, r.peersAdded = 0 ∧ r.peersRemoved = 0 ∧ r.peersUpdated = 0 := by
  obtain ⟨hhost, hcycles, hrest⟩ := ControllerRun.run_idle settings order hprints es
    { host := host } (Nat.succ_pos _) rfl nofun
  rw [Nat.zero_add] at hcycles
  exact ⟨hhost, hcycles, hrest⟩

end Run

/-- A host whose interfaces, if they are there, are all the same. -/
def tunnelProgram : WgProgram Bool where
  read present _ :=
    .ok (if present then { returnCode := 0, stdout := tunnelInterface.dump }
      else { returnCode := 1, stderr := "No such device" })
  write present _ := (present, .ok { returnCode := 0 })

theorem tunnelProgram_printsDumps : tunnelProgram.PrintsDumps := by
  intro present interface r hread hcode
  cases present with
  | false =>
    cases hread
    cases hcode
  | true =>
    cases hread
    exact ⟨tunnelInterface, by decide +kernel⟩

/-- A pass before the interface is made, and one after that: only the first completes. -/
theorem cli_controller_idle_tunnel :
    let c := run (ControllerRun.step (WgCliAdapter.adapter { program := tunnelProgram }) {}
      (SetOrder.dedup String)) { host := false }
        [.pass (fun _ => 0) 0 {}, .change fun _ => true, .pass (fun _ => 0) 0 {}]
    c.host = true ∧ c.cycleCount = 1 := by
  obtain ⟨hhost, hcycles, -⟩ := cli_controller_idle (a := { program := tunnelProgram }) {}
    (SetOrder.dedup String) tunnelProgram_printsDumps false
      [.pass (fun _ => 0) 0 {}, .change fun _ => true, .pass (fun _ => 0) 0 {}]
  exact ⟨hhost, hcycles.trans (by decide +kernel)⟩

end Midscale
