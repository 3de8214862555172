import Midscale.Wireguard.Presence

/-!
# Peers that fail

A cycle of the controller removes and adds peers one call at a time.  An interface that is not there
and a malformed key fail one peer; a `wg` command that fails ends the cycle.

* `scriptedAdapter` : an adapter whose calls end as one likes, and which writes them down.
* `reconcileInterface_scripted` : with it a cycle is one loop over the calls of the diff.
* `peer_failures_iff` : **a cycle attempts every removal and addition and counts them right exactly
  if** no command fails before the last call, and copying the handshakes raises no exception.
-/

namespace Midscale

/-! ### Calls and their outcomes -/

/-- A call about one peer. -/
inductive PeerCall where
  | removePeer (publicKey : String)
  | addPeer (publicKey : String) (allowedIps : List String)
  deriving DecidableEq

/-- How a call ends. -/
inductive PeerOutcome where
  | success
  | interfaceNotFound (interface : String)
  | keyError (message : String)
  | commandError (command : String) (returnCode : ℤ) (stderr : String)

namespace PeerOutcome

def result : PeerOutcome → Except WireGuardError Unit
  | success => .ok ()
  | interfaceNotFound interface => .error (.interfaceNotFound interface)
  | keyError message => .error (.keyError message)
  | commandError command returnCode stderr => .error (.commandError command returnCode stderr)

def isSuccess : PeerOutcome → Bool
  | success => true
  | interfaceNotFound _ | keyError _ | commandError .. => false

def isCommandError : PeerOutcome → Bool
  | commandError .. => true
  | success | interfaceNotFound _ | keyError _ => false

end PeerOutcome

/-- The calls of the loops over the diff, in their order. -/
def PeerDiff.calls (diff : PeerDiff) : List PeerCall :=
  diff.toRemove.map (fun p => .removePeer p.publicKey) ++
    diff.toAdd.map fun p => .addPeer p.publicKey p.allowedIps

/-- An adapter for an interface that is there; the call after `n` others ends with `outcomes n`, and
the host writes down the calls. -/
def scriptedAdapter (state : WGInterfaceState) (outcomes : ℕ → PeerOutcome) :
    WireGuardAdapter (List PeerCall) where
  interfaceExists _ _ := .ok true
  getInterfaceState _ _ := .ok state
  addPeer calls _ publicKey allowedIps :=
    (calls ++ [.addPeer publicKey allowedIps], (outcomes calls.length).result)
  removePeer calls _ publicKey :=
    (calls ++ [.removePeer publicKey], (outcomes calls.length).result)

/-- Calls with their outcomes, from the one after `n` others on. -/
def withOutcomes (outcomes : ℕ → PeerOutcome) : ℕ → List PeerCall → List (PeerCall × PeerOutcome)
  | _, [] => []
  | n, call :: calls => (call, outcomes n) :: withOutcomes outcomes (n + 1) calls

/-- The error that is recorded for a call that fails. -/
def errorOf : PeerCall × PeerOutcome → Option String
  | (call, outcome) =>
    match outcome.result with
    | .ok () => none
    | .error e =>
      if e.isCaughtPerPeer then
        match call with
        | .removePeer publicKey => some ("remove " ++ keyPrefix publicKey ++ ": " ++ e.str)
        | .addPeer publicKey _ => some ("add " ++ keyPrefix publicKey ++ ": " ++ e.str)
      else some ("command error: " ++ e.str)

/-- The result with the calls counted. -/
def ReconciliationResult.after (r : ReconciliationResult) (calls : List (PeerCall × PeerOutcome)) :
    ReconciliationResult where
  interface := r.interface
  peersAdded := r.peersAdded + calls.countP fun x => x.1 matches .addPeer .. && x.2.isSuccess
  peersRemoved := r.peersRemoved + calls.countP fun x => x.1 matches .removePeer _ && x.2.isSuccess
  peersUpdated := r.peersUpdated
  errors := r.errors ++ calls.filterMap errorOf

theorem ReconciliationResult.after_after (r : ReconciliationResult)
    (calls calls' : List (PeerCall × PeerOutcome)) :
    (r.after calls).after calls' = r.after (calls ++ calls') := by
  simp [after, List.countP_append, List.filterMap_append, Nat.add_assoc]

/-- The loop over calls, with the exception that ends it early. -/
def applyCalls (outcomes : ℕ → PeerOutcome) :
    List PeerCall → List PeerCall → ReconciliationResult →
      List PeerCall × ReconciliationResult × Option WireGuardError
  | [], host, r => (host, r, none)
  | call :: calls, host, r =>
    match outcomes host.length with
    | .commandError c n s => (host ++ [call], r, some (.commandError c n s))
    | outcome => applyCalls outcomes calls (host ++ [call]) (r.after [(call, outcome)])

section

variable {state : WGInterfaceState} {outcomes : ℕ → PeerOutcome} {interface : String}

theorem interfaceExists_scripted (host : List PeerCall) :
    (scriptedAdapter state outcomes).interfaceExists host interface = .ok true := rfl

theorem getInterfaceState_scripted (host : List PeerCall) :
    (scriptedAdapter state outcomes).getInterfaceState host interface = .ok state := rfl

theorem removePeer_scripted (host : List PeerCall) (publicKey : String) :
    (scriptedAdapter state outcomes).removePeer host interface publicKey =
      (host ++ [.removePeer publicKey], (outcomes host.length).result) := rfl

theorem addPeer_scripted (host : List PeerCall) (publicKey : String) (allowedIps : List String) :
    (scriptedAdapter state outcomes).addPeer host interface publicKey allowedIps =
      (host ++ [.addPeer publicKey allowedIps], (outcomes host.length).result) := rfl

variable (state outcomes interface) in
theorem removePeers_scripted (ps : List DesiredPeer) (host : List PeerCall)
    (r : ReconciliationResult) :
    removePeers (scriptedAdapter state outcomes) interface ps host r =
      applyCalls outcomes (ps.map fun p => .removePeer p.publicKey) host r := by
  induction ps generalizing host r with
  | nil => rfl
  | cons p ps ih =>
    rw [List.map_cons, removePeers, applyCalls, removePeer_scripted]
    cases outcomes host.length <;>
      simp [PeerOutcome.result, ih, ReconciliationResult.after, errorOf, PeerOutcome.isSuccess,
        WireGuardError.isCaughtPerPeer, List.filterMap_cons]

variable (state outcomes interface) in
theorem addPeers_scripted (ps : List DesiredPeer) (host : List PeerCall)
    (r : ReconciliationResult) :
    addPeers (scriptedAdapter state outcomes) interface ps host r =
      applyCalls outcomes (ps.map fun p => .addPeer p.publicKey p.allowedIps) host r := by
  induction ps generalizing host r with
  | nil => rfl
  | cons p ps ih =>
    rw [List.map_cons, addPeers, applyCalls, addPeer_scripted]
    cases outcomes host.length <;>
      simp [PeerOutcome.result, ih, ReconciliationResult.after, errorOf, PeerOutcome.isSuccess,
        WireGuardError.isCaughtPerPeer, List.filterMap_cons]

theorem applyCalls_append (outcomes : ℕ → PeerOutcome) (calls calls' host : List PeerCall)
    (r : ReconciliationResult) : applyCalls outcomes (calls ++ calls') host r =
      match applyCalls outcomes calls host r with
      | (host, r, some e) => (host, r, some e)
      | (host, r, none) => applyCalls outcomes calls' host r := by
  induction calls generalizing host r with
  | nil => rfl
  | cons call calls ih =>
    rw [List.cons_append, applyCalls, applyCalls]
    cases outcomes host.length with
    | commandError c n e => rfl
    | success | interfaceNotFound _ | keyError _ => exact ih _ _

/-- **With the scripted adapter a cycle is one loop over the calls of the diff**, then a copy of the
handshakes. -/
theorem reconcileInterface_scripted (state : WGInterfaceState) (outcomes : ℕ → PeerOutcome)
    (settings : Settings) (order : SetOrder String) (now : Timestamp) (db : Database)
    (interface : String) :
    reconcileInterface (scriptedAdapter state outcomes) settings order now db [] interface =
      match applyCalls outcomes (computePeerDiff order (db.getDesiredPeers settings interface)
          (state.peers.map (·.publicKey))).calls [] { interface } with
      | (host, r, some e) => { host, result := (handleError r e).map (db, ·) }
      | (host, r, none) =>
        { host
          events := (syncRuntimeMetadata now db state.peers).1
          result := (syncRuntimeMetadata now db state.peers).2.map (·, r) } := by
  rw [PeerDiff.calls, applyCalls_append, ← removePeers_scripted state outcomes interface]
  simp only [← addPeers_scripted state outcomes interface]
  rw [reconcileInterface]
  dsimp only [interfaceExists_scripted, getInterfaceState_scripted]
  generalize removePeers (scriptedAdapter state outcomes) interface _ [] { interface } = removed
  obtain ⟨host, r, _ | e⟩ := removed
  · dsimp only
    generalize addPeers (scriptedAdapter state outcomes) interface _ host r = added
    obtain ⟨host', r', _ | e⟩ := added <;> rfl
  · rfl

/-- A loop attempts all calls exactly if no command fails before the last one. -/
theorem host_applyCalls_iff {calls host : List PeerCall} {r : ReconciliationResult} :
    (applyCalls outcomes calls host r).1 = host ++ calls ↔
      ∀ i, i + 1 < calls.length → (outcomes (host.length + i)).isCommandError = false := by
  induction calls generalizing host r with
  | nil => simp [applyCalls]
  | cons call calls ih =>
    rw [applyCalls]
    cases houtcome : outcomes host.length with
    | commandError c n e =>
      have hlast : host ++ [call] = host ++ call :: calls ↔ calls = [] := by
        rw [List.append_cancel_left_eq, List.cons.injEq, eq_self, true_and, eq_comm]
      simp only [hlast]
      constructor
      · rintro rfl i hi
        exact absurd hi (by simp)
      · intro hall
        by_contra hne
        have hfirst := hall 0 (by simpa using List.length_pos_of_ne_nil hne)
        rw [Nat.add_zero, houtcome] at hfirst
        cases hfirst
    | success | interfaceNotFound _ | keyError _ =>
      have hrest := @ih (host ++ [call])
      simp only [List.append_assoc, List.singleton_append, List.length_append,
        List.length_singleton] at hrest
      refine hrest.trans ⟨fun h i hi => ?_, fun h i hi => ?_⟩
      · cases i with
        | zero =>
          rw [Nat.add_zero, houtcome]
          rfl
        | succ i =>
          rw [← Nat.succ_add_eq_add_succ]
          exact h i (Nat.lt_of_succ_lt_succ hi)
      · rw [Nat.succ_add_eq_add_succ]
        exact h (i + 1) (Nat.succ_lt_succ hi)

theorem applyCalls_of_forall {calls host : List PeerCall} {r : ReconciliationResult}
    (h : ∀ i < calls.length, (outcomes (host.length + i)).isCommandError = false) :
    applyCalls outcomes calls host r =
      (host ++ calls, r.after (withOutcomes outcomes host.length calls), none) := by
  induction calls generalizing host r with
  | nil => simp [applyCalls, withOutcomes, ReconciliationResult.after]
  | cons call calls ih =>
    have hfirst := h 0 (Nat.succ_pos _)
    rw [Nat.add_zero] at hfirst
    have hrest := @ih (host ++ [call])
    simp only [List.append_assoc, List.singleton_append, List.length_append,
      List.length_singleton] at hrest
    have hlater : ∀ i < calls.length, (outcomes (host.length + 1 + i)).isCommandError = false := by
      intro i hi
      rw [Nat.succ_add_eq_add_succ]
      exact h (i + 1) (Nat.succ_lt_succ hi)
    rw [applyCalls, withOutcomes]
    cases houtcome : outcomes host.length with
    | commandError c n e =>
      rw [houtcome] at hfirst
      cases hfirst
    | success | interfaceNotFound _ | keyError _ =>
      refine (hrest hlater).trans ?_
      rw [ReconciliationResult.after_after]
      rfl

theorem withOutcomes_append (outcomes : ℕ → PeerOutcome) (n : ℕ) (calls calls' : List PeerCall) :
    withOutcomes outcomes n (calls ++ calls') =
      withOutcomes outcomes n calls ++ withOutcomes outcomes (n + calls.length) calls' := by
  induction calls generalizing n with
  | nil => rfl
  | cons call calls ih =>
    rw [List.cons_append, withOutcomes, ih, withOutcomes, List.length_cons,
      Nat.add_right_comm, Nat.add_assoc]
    rfl

theorem applyCalls_concat {calls : List PeerCall} {call : PeerCall} {r : ReconciliationResult}
    (h : ∀ i < calls.length, (outcomes i).isCommandError = false)
    (hlast : (outcomes calls.length).isCommandError = true) :
    ∃ r' e, applyCalls outcomes (calls ++ [call]) [] r = (calls ++ [call], r', some e) ∧
      handleError r' e = .ok (r.after (withOutcomes outcomes 0 (calls ++ [call]))) := by
  have hbefore := @applyCalls_of_forall outcomes calls [] r (by simpa using h)
  rw [List.nil_append] at hbefore
  rw [applyCalls_append, hbefore, withOutcomes_append, ← ReconciliationResult.after_after]
  cases houtcome : outcomes calls.length with
  | commandError c n e =>
    refine ⟨r.after (withOutcomes outcomes 0 calls), .commandError c n e, ?_, ?_⟩
    · dsimp only
      rw [applyCalls, houtcome]
      rfl
    · simp [handleError, ReconciliationResult.after, withOutcomes, houtcome, errorOf,
        PeerOutcome.result, WireGuardError.isCaughtPerPeer, PeerOutcome.isSuccess]
  | success | interfaceNotFound _ | keyError _ =>
    rw [houtcome] at hlast
    cases hlast

end

/-- The cycle has attempted every removal and addition once, in the order of the diff; its result
counts those that succeeded, and has one error for each that failed. -/
structure CallsCounted (outcomes : ℕ → PeerOutcome) (calls : List PeerCall)
    (cycle : CycleOutcome (List PeerCall)) : Prop where
  attempted : cycle.host = calls
  counted : ∃ db r, cycle.result = .ok (db, r) ∧
    r.peersRemoved = (withOutcomes outcomes 0 calls).countP
      (fun x => x.1 matches .removePeer _ && x.2.isSuccess) ∧
    r.peersAdded = (withOutcomes outcomes 0 calls).countP
      (fun x => x.1 matches .addPeer .. && x.2.isSuccess) ∧
    r.errors = (withOutcomes outcomes 0 calls).filterMap errorOf

section

variable {settings : Settings} {order : SetOrder String} {now : Timestamp} {db : Database}
  {interface : String} {state : WGInterfaceState} {outcomes : ℕ → PeerOutcome}
  {calls : List PeerCall}

theorem callsCounted_iff_of_forall
    (hcalls : (computePeerDiff order (db.getDesiredPeers settings interface)
      (state.peers.map (·.publicKey))).calls = calls)
    (hall : ∀ i < calls.length, (outcomes i).isCommandError = false) :
    CallsCounted outcomes calls
        (reconcileInterface (scriptedAdapter state outcomes) settings order now db [] interface) ↔
      ¬ db.Aborts state.peers := by
  have hloop := @applyCalls_of_forall outcomes calls [] { interface } (by simpa using hall)
  rw [reconcileInterface_scripted, hcalls, hloop, List.nil_append,
    ← syncRuntimeMetadata_isOk_iff now]
  constructor
  · rintro ⟨-, db', r, hok, -⟩
    obtain ⟨db'', hsync, -⟩ := map_eq_ok.1 hok
    exact ⟨db'', hsync⟩
  · rintro ⟨db', hsync⟩
    refine ⟨rfl, db', ({ interface } : ReconciliationResult).after
      (withOutcomes outcomes 0 calls), congrArg (Except.map (·, _)) hsync, ?_⟩
    simp [ReconciliationResult.after]

theorem CallsCounted.early
    (hcalls : (computePeerDiff order (db.getDesiredPeers settings interface)
      (state.peers.map (·.publicKey))).calls = calls)
    (h : CallsCounted outcomes calls
      (reconcileInterface (scriptedAdapter state outcomes) settings order now db [] interface)) :
    ∀ i, i + 1 < calls.length → (outcomes i).isCommandError = false := by
  have hhost := h.attempted
  rw [reconcileInterface_scripted, hcalls] at hhost
  have hiff := @host_applyCalls_iff outcomes calls [] { interface }
  simp only [List.nil_append, List.length_nil, Nat.zero_add] at hiff
  refine hiff.1 ?_
  generalize applyCalls outcomes calls [] { interface } = loop at hhost
  obtain ⟨host, r, _ | e⟩ := loop <;> exact hhost

theorem callsCounted_of_last
    (hcalls : (computePeerDiff order (db.getDesiredPeers settings interface)
      (state.peers.map (·.publicKey))).calls = calls) (hne : calls ≠ [])
    (hearly : ∀ i, i + 1 < calls.length → (outcomes i).isCommandError = false)
    (hlast : (outcomes (calls.length - 1)).isCommandError = true) :
    CallsCounted outcomes calls
      (reconcileInterface (scriptedAdapter state outcomes) settings order now db [] interface) := by
  obtain ⟨before, call, hsplit⟩ := (List.eq_nil_or_concat calls).resolve_left hne
  rw [List.concat_eq_append] at hsplit
  rw [hsplit, List.length_append, List.length_singleton] at hearly hlast
  rw [Nat.add_sub_cancel] at hlast
  obtain ⟨r, e, hloop, hok⟩ := applyCalls_concat (r := { interface })
    (fun i hi => hearly i (Nat.succ_lt_succ hi)) hlast
  rw [← hsplit] at hloop hok
  rw [reconcileInterface_scripted, hcalls, hloop]
  refine ⟨rfl, db, ({ interface } : ReconciliationResult).after
    (withOutcomes outcomes 0 calls), congrArg (Except.map (db, ·)) hok, ?_⟩
  simp [ReconciliationResult.after]

theorem last_of_early (hall : ¬ ∀ i < calls.length, (outcomes i).isCommandError = false)
    (hearly : ∀ i, i + 1 < calls.length → (outcomes i).isCommandError = false) :
    calls ≠ [] ∧ (outcomes (calls.length - 1)).isCommandError = true := by
  push Not at hall
  obtain ⟨i, hi, hfails⟩ := hall
  have hlast : i = calls.length - 1 := by
    by_contra hne
    exact hfails (hearly i (by omega))
  rw [hlast] at hfails
  exact ⟨List.ne_nil_of_length_pos (Nat.zero_lt_of_lt hi), Bool.eq_true_of_not_eq_false hfails⟩

end

/-- **One bad peer does not stop the others exactly if** no command fails before the last call, and
the copy of the handshakes that follows, unless the last command fails, finds each key once. -/
theorem peer_failures_iff (settings : Settings) (order : SetOrder String) (now : Timestamp)
    (db : Database) (interface : String) (state : WGInterfaceState) (outcomes : ℕ → PeerOutcome) :
    let calls := (computePeerDiff order (db.getDesiredPeers settings interface)
      (state.peers.map (·.publicKey))).calls
    CallsCounted outcomes calls
        (reconcileInterface (scriptedAdapter state outcomes) settings order now db [] interface) ↔
      (∀ i, i + 1 < calls.length → (outcomes i).isCommandError = false) ∧
        (¬ db.Aborts state.peers ∨
          calls ≠ [] ∧ (outcomes (calls.length - 1)).isCommandError = true) := by
  intro calls
  by_cases hall : ∀ i < calls.length, (outcomes i).isCommandError = false
  · have hlast : ¬ (calls ≠ [] ∧ (outcomes (calls.length - 1)).isCommandError = true) := by
      rintro ⟨hne, hfails⟩
      have hlen := List.length_pos_of_ne_nil hne
      rw [hall _ (Nat.sub_lt hlen Nat.one_pos)] at hfails
      cases hfails
    rw [callsCounted_iff_of_forall rfl hall, or_iff_left hlast, and_iff_right]
    exact fun i hi => hall i (Nat.lt_of_succ_lt hi)
  · constructor
    · intro hcounted
      have hearly := hcounted.early rfl
      exact ⟨hearly, .inr (last_of_early hall hearly)⟩
    · rintro ⟨hearly, -⟩
      obtain ⟨hne, hlast⟩ := last_of_early hall hearly
      exact callsCounted_of_last rfl hne hearly hlast

/-- Two devices that have no peer yet. -/
def newPair : Database where
  networks := .ofRows [{ id := Uuid.ofNat 147, name := "branch", subnet := "10.0.0.0/24" }]
  devices := .ofRows [
    { id := Uuid.ofNat 142, name := "desk", networkId := Uuid.ofNat 147
      publicKey := some "key-d", ipAddress := some "10.0.0.2" },
    { id := Uuid.ofNat 143, name := "phone", networkId := Uuid.ofNat 147
      publicKey := some "key-p", ipAddress := some "10.0.0.3" }]

/-- The first command fails, and the second peer is not attempted. -/
theorem newPair_second_not_attempted :
    let outcomes : ℕ → PeerOutcome := fun n =>
      if n = 0 then .commandError "wg set wg0 peer key-d" 1 "Unable to modify interface"
      else .success
    ¬ CallsCounted outcomes (computePeerDiff (SetOrder.dedup String)
        (newPair.getDesiredPeers {} "wg0") []).calls
      (reconcileInterface (scriptedAdapter { name := "wg0" } outcomes) {} (SetOrder.dedup String) 0
        newPair [] "wg0") := by
  intro outcomes h
  exact absurd h.attempted (by decide +kernel)

end Midscale
