import Midscale.Api.Sessions
import Midscale.Events.Announcements

/-!
# Hole punching

`midscaled.daemon.hole_puncher` and the handlers of `midscaled.daemon.main` that start a punch.  The
server builds the pairs of candidates for its response; the daemons build theirs from the candidates
in the event `nat.punch_requested`.

* `mem_buildCandidatePairs_sided` : from candidates that tell their side a daemon builds all pairs,
  as the initiator's daemon is to try them.
* `mem_buildCandidatePairs_offered` : from the pairs of the response it would build one without a
  remote address.
* `HolePuncher.mem_executePunch_iff` : without a success every pair is tried.
* `HolePuncher.tried_punchRequested` : **the event has no candidates, so one pair of loopback
  addresses is tried.**
* `candidate_exchange_iff` : when that is what the server offers.
-/

namespace Midscale

namespace Daemon

/-- `CandidatePair` of the daemon, without its key, which is made of the other fields.  What the
candidates hold is not checked. -/
@[ext] structure CandidatePair where
  localEndpoint : Json
  localPort : Json
  remoteEndpoint : Json
  remotePort : Json

/-- `random.shuffle`. -/
structure Shuffle where
  apply : List CandidatePair → List CandidatePair
  perm : ∀ pairs, (apply pairs).Perm pairs

/-- `HolePuncher`, with the fields that decide what is tried. -/
structure HolePuncher where
  enabled : Bool := true
  retries : ℤ := 3
  bindPort : ℤ := 51820

/-- `DaemonConfig`, as far as the hole puncher is built of it. -/
structure PunchConfig where
  holePunchEnabled : Bool := true
  holePunchRetries : ℤ := 3

/-- The hole puncher that `MidscaledDaemon.run` makes; its port is the default. -/
def PunchConfig.holePuncher (config : PunchConfig) : HolePuncher where
  enabled := config.holePunchEnabled
  retries := config.holePunchRetries

/-- What `initiate_punch` is called with. -/
structure PunchStart where
  sessionId : Json
  targetDeviceId : Json
  candidates : Json

/-- What happens during a punch: whether the puncher still runs before the `n`-th attempt, and
whether that attempt succeeds. -/
structure PunchRun where
  running : ℕ → Bool
  succeeds : ℕ → Bool

namespace HolePuncher

variable (p : HolePuncher)

/-! ### Pairs -/

/-- The candidates, if they are a list of dictionaries. -/
def candidateDicts : Json → Option (List Json)
  | .arr xs =>
    if xs.all (fun x => match x with | .obj _ => true | _ => false) then some xs else none
  | .obj [] | .str "" => some []
  | _ => none

/-- The candidates that tell a side. -/
def ofSide (side : String) (candidates : List Json) : List Json :=
  candidates.filter fun c =>
    match c.get? "side" with
    | some (.str s) => s = side
    | _ => false

/-- The candidates of the two sides; all of them for both if a side has none. -/
def sides (candidates : List Json) : List Json × List Json :=
  let initiators := ofSide "initiator" candidates
  let targets := ofSide "target" candidates
  if initiators = [] ∨ targets = [] then (candidates, candidates) else (initiators, targets)

/-- The pair of a local and a remote candidate. -/
def pairOf (ic tc : Json) : CandidatePair where
  localEndpoint := (ic.get? "endpoint").getD (.str "127.0.0.1")
  localPort := (ic.get? "port").getD (.int p.bindPort)
  remoteEndpoint := (tc.get? "endpoint").getD (.str "")
  remotePort := (tc.get? "port").getD (.int p.bindPort)

/-- The pair that is tried when there is none. -/
def loopbackPair : CandidatePair where
  localEndpoint := .str "127.0.0.1"
  localPort := .int p.bindPort
  remoteEndpoint := .str "127.0.0.1"
  remotePort := .int p.bindPort

/-- `_build_candidate_pairs`. -/
def buildCandidatePairs (shuffle : Shuffle) (candidates : List Json) : List CandidatePair :=
  let (initiators, targets) := sides candidates
  let pairs := initiators.flatMap fun ic => targets.map fun tc => p.pairOf ic tc
  shuffle.apply (if pairs = [] then [p.loopbackPair] else pairs)

theorem buildCandidatePairs_nil (shuffle : Shuffle) :
    p.buildCandidatePairs shuffle [] = [p.loopbackPair] :=
  List.perm_singleton.1 (shuffle.perm [p.loopbackPair])

variable {p}

theorem sides_eq {initiators targets candidates : List Json}
    (hinitiators : ofSide "initiator" candidates = initiators)
    (htargets : ofSide "target" candidates = targets) (hne : ¬ (initiators = [] ∨ targets = [])) :
    sides candidates = (initiators, targets) := by
  subst hinitiators htargets
  exact if_neg hne

theorem mem_buildCandidatePairs {shuffle : Shuffle} {initiators targets candidates : List Json}
    (hsides : sides candidates = (initiators, targets)) (hinitiators : initiators ≠ [])
    (htargets : targets ≠ []) {pair : CandidatePair} :
    pair ∈ p.buildCandidatePairs shuffle candidates ↔
      ∃ ic ∈ initiators, ∃ tc ∈ targets, pair = p.pairOf ic tc := by
  have hpairs : (initiators.flatMap fun ic => targets.map fun tc => p.pairOf ic tc) ≠ [] := by
    simp [List.flatMap_eq_nil_iff, hinitiators, htargets, List.exists_mem_of_ne_nil]
  simp only [buildCandidatePairs, hsides]
  rw [if_neg hpairs, (shuffle.perm _).mem_iff]
  simp only [List.mem_flatMap, List.mem_map]
  exact ⟨fun ⟨ic, hic, tc, htc, h⟩ => ⟨ic, hic, tc, htc, h.symm⟩,
    fun ⟨ic, hic, tc, htc, h⟩ => ⟨ic, hic, tc, htc, h.symm⟩⟩

/-! ### Attempts -/

/-- One round over the pairs from the `n`-th attempt on: the pairs that are tried, and whether the
punch ends in the round. -/
def tryPairs (r : PunchRun) : List CandidatePair → ℕ → List CandidatePair × Bool
  | [], _ => ([], false)
  | pair :: pairs, n =>
    if r.running n then
      if r.succeeds n then ([pair], true)
      else
        let rest := tryPairs r pairs (n + 1)
        (pair :: rest.1, rest.2)
    else ([], true)

/-- `_execute_punch` with a number of rounds: the pairs that are tried, in order. -/
def executePunch (r : PunchRun) (pairs : List CandidatePair) : ℕ → ℕ → List CandidatePair
  | 0, _ => []
  | rounds + 1, n =>
    let round := tryPairs r pairs n
    if round.2 then round.1 else round.1 ++ executePunch r pairs rounds (n + pairs.length)

theorem tryPairs_subset (r : PunchRun) (pairs : List CandidatePair) (n : ℕ) :
    ∀ pair ∈ (tryPairs r pairs n).1, pair ∈ pairs := by
  induction pairs generalizing n with
  | nil => simp [tryPairs]
  | cons first pairs ih =>
    unfold tryPairs
    split_ifs
    · simp
    · intro pair hpair
      rcases List.mem_cons.1 hpair with rfl | hpair
      · exact List.mem_cons_self
      · exact List.mem_cons_of_mem _ (ih (n + 1) pair hpair)
    · simp

theorem executePunch_subset (r : PunchRun) (pairs : List CandidatePair) (rounds n : ℕ) :
    ∀ pair ∈ executePunch r pairs rounds n, pair ∈ pairs := by
  induction rounds generalizing n with
  | zero => simp [executePunch]
  | succ rounds ih =>
    unfold executePunch
    dsimp only
    split_ifs
    · exact tryPairs_subset r pairs n
    · intro pair hpair
      rcases List.mem_append.1 hpair with hpair | hpair
      · exact tryPairs_subset r pairs n pair hpair
      · exact ih _ pair hpair

theorem tryPairs_of_failing {r : PunchRun} (hrunning : ∀ n, r.running n = true)
    (hfails : ∀ n, r.succeeds n = false) (pairs : List CandidatePair) (n : ℕ) :
    tryPairs r pairs n = (pairs, false) := by
  induction pairs generalizing n with
  | nil => rfl
  | cons pair pairs ih => simp [tryPairs, hrunning, hfails, ih]

/-- Without a success every pair is tried, if there is a round. -/
theorem mem_executePunch_iff {r : PunchRun} (hrunning : ∀ n, r.running n = true)
    (hfails : ∀ n, r.succeeds n = false) {pairs : List CandidatePair} {rounds : ℕ}
    (hrounds : 0 < rounds) {pair : CandidatePair} :
    pair ∈ executePunch r pairs rounds 0 ↔ pair ∈ pairs := by
  refine ⟨executePunch_subset r pairs rounds 0 pair, fun hpair => ?_⟩
  obtain ⟨rounds, rfl⟩ := Nat.exists_eq_add_of_lt hrounds
  rw [executePunch, tryPairs_of_failing hrunning hfails]
  exact List.mem_append_left _ hpair

theorem executePunch_ne_nil_iff {r : PunchRun} {pairs : List CandidatePair} (hpairs : pairs ≠ [])
    (rounds : ℕ) : executePunch r pairs rounds 0 ≠ [] ↔ 0 < rounds ∧ r.running 0 = true := by
  obtain ⟨first, rest, rfl⟩ := List.exists_cons_of_ne_nil hpairs
  cases rounds with
  | zero => simp [executePunch]
  | succ rounds =>
    cases hrunning : r.running 0 with
    | false => simp [executePunch, tryPairs, hrunning]
    | true =>
      refine iff_of_true ?_ ⟨rounds.succ_pos, rfl⟩
      simp only [executePunch, tryPairs, hrunning, if_true]
      split_ifs <;> simp

variable (p)

/-! ### Messages -/

/-- `_on_nat_punch_requested`: what a punch is started with, if it is. -/
def onNatPunchRequested (data : Json) : Option PunchStart :=
  if p.enabled then
    match (data.get? "data").getD (.obj []) with
    | .obj fields =>
      let event := Json.obj fields
      let sessionId := (event.get? "session_id").getD (.str "")
      let targetDeviceId := (event.get? "target_device_id").getD (.str "")
      let candidates := (event.get? "candidates").getD (.arr [])
      if sessionId.truthy ∧ targetDeviceId.truthy then
        some { sessionId, targetDeviceId, candidates }
      else none
    | _ => none
  else none

/-- `_on_ws_message`, as far as it starts punches. -/
def onWsMessage (data : Json) : Option PunchStart :=
  match data.get? "type" with
  | some (.str "nat.punch_requested") => p.onNatPunchRequested data
  | _ => none

/-- The pairs that are tried after a message. -/
def tried (shuffle : Shuffle) (r : PunchRun) (message : Json) : List CandidatePair :=
  match (p.onWsMessage message).bind fun start => candidateDicts start.candidates with
  | some candidates =>
    executePunch r (p.buildCandidatePairs shuffle candidates) p.retries.toNat 0
  | none => []

/-- The puncher is enabled, makes an attempt, and runs when it makes the first. -/
def Attempts (r : PunchRun) : Prop :=
  p.enabled = true ∧ 0 < p.retries ∧ r.running 0 = true

theorem onWsMessage_punchRequested {s : NATSession} {event : BusEvent}
    (hevent : event.toEvent = s.punchRequested) :
    p.onWsMessage event.toDict =
      if p.enabled then
        some
          { sessionId := .str s.id.str
            targetDeviceId := .str s.targetDeviceId.str
            candidates := .arr [] }
      else none := by
  have htype : event.toDict.get? "type" = some (.str "nat.punch_requested") := by
    simp [BusEvent.toDict, Json.get?, hevent, NATSession.punchRequested]
  have hdata : event.toDict.get? "data" = some (.obj s.eventData) := by
    simp [BusEvent.toDict, Json.get?, hevent, NATSession.punchRequested]
  have hsession : (Json.obj s.eventData).get? "session_id" = some (.str s.id.str) := by
    simp [Json.get?, NATSession.eventData]
  have htarget : (Json.obj s.eventData).get? "target_device_id" =
      some (.str s.targetDeviceId.str) := by
    simp [Json.get?, NATSession.eventData]
  have hcandidates : (Json.obj s.eventData).get? "candidates" = none := by
    simp [Json.get?, NATSession.eventData]
  simp [onWsMessage, htype, onNatPunchRequested, hdata, hsession, htarget, hcandidates,
    Json.truthy, Uuid.str_ne_empty]

/-- **What the event of a requested punch leads to**: it has no candidates, so the one pair of
loopback addresses is tried. -/
theorem tried_punchRequested (shuffle : Shuffle) (r : PunchRun) {s : NATSession} {event : BusEvent}
    (hevent : event.toEvent = s.punchRequested) (pair : CandidatePair) :
    pair ∈ p.tried shuffle r event.toDict ↔ p.Attempts r ∧ pair = p.loopbackPair := by
  unfold tried Attempts
  rw [p.onWsMessage_punchRequested hevent]
  cases p.enabled with
  | false => simp
  | true =>
    have hne := executePunch_ne_nil_iff (r := r) (List.cons_ne_nil p.loopbackPair [])
      p.retries.toNat
    simp only [if_true, Option.bind_some, candidateDicts, List.all_nil, buildCandidatePairs_nil,
      true_and]
    have honly := executePunch_subset r [p.loopbackPair] p.retries.toNat 0
    rw [Int.lt_toNat, Nat.cast_zero] at hne
    rw [← hne]
    constructor
    · intro hpair
      exact ⟨List.ne_nil_of_mem hpair, List.mem_singleton.1 (honly pair hpair)⟩
    · rintro ⟨htried, rfl⟩
      obtain ⟨other, hother⟩ := List.exists_mem_of_ne_nil _ htried
      rwa [List.mem_singleton.1 (honly other hother)] at hother

theorem tried_eq_nil (shuffle : Shuffle) (r : PunchRun) {event : BusEvent}
    (hevent : event.eventType ≠ "nat.punch_requested") :
    p.tried shuffle r event.toDict = [] := by
  have htype : event.toDict.get? "type" = some (.str event.eventType) := by
    simp [BusEvent.toDict, Json.get?]
  have hnone : p.onWsMessage event.toDict = none := by
    unfold onWsMessage
    rw [htype]
    split
    · rename_i heq
      exact absurd (Json.str.inj (Option.some.inj heq)) hevent
    · rfl
  rw [tried, hnone]
  rfl

end HolePuncher

/-- The hole puncher of a daemon with its configuration, in a run. -/
structure PunchDaemon where
  config : PunchConfig
  shuffle : Shuffle
  run : PunchRun

/-- The pairs that a daemon tries after some messages. -/
def PunchDaemon.tried (d : PunchDaemon) (messages : List BusEvent) : List CandidatePair :=
  messages.flatMap fun event => d.config.holePuncher.tried d.shuffle d.run event.toDict

/-- The daemon comes to an attempt. -/
def PunchDaemon.Attempts (d : PunchDaemon) : Prop := d.config.holePuncher.Attempts d.run

theorem PunchDaemon.mem_tried_iff (d : PunchDaemon) {messages : List BusEvent} {s : NATSession}
    (h : messages.map (·.toEvent) = requestPunchEvents true s) {pair : CandidatePair} :
    pair ∈ d.tried messages ↔ d.Attempts ∧ pair = d.config.holePuncher.loopbackPair := by
  obtain ⟨requested, rest, rfl, hrequested, hrest⟩ := List.map_eq_cons_iff.1 h
  obtain ⟨started, rest, rfl, hstarted, hrest⟩ := List.map_eq_cons_iff.1 hrest
  obtain rfl := List.map_eq_nil_iff.1 hrest
  have hother : started.eventType ≠ "nat.punch_requested" := by
    rw [hstarted]
    exact (by decide : "nat.punch_started" ≠ "nat.punch_requested")
  simp only [tried, List.flatMap_cons, List.flatMap_nil, List.append_nil,
    HolePuncher.tried_eq_nil _ _ _ hother, HolePuncher.tried_punchRequested _ _ _ hrequested]
  exact Iff.rfl

end Daemon

/-! ### The exchange -/

/-- A pair of the server as the initiator's daemon is to try it. -/
def CandidatePair.forInitiator (c : CandidatePair) : Daemon.CandidatePair where
  localEndpoint := .str c.initiator.endpoint
  localPort := .int c.initiator.port
  remoteEndpoint := .str c.target.endpoint
  remotePort := .int c.target.port

/-- A pair of the server as the target's daemon is to try it. -/
def CandidatePair.forTarget (c : CandidatePair) : Daemon.CandidatePair where
  localEndpoint := .str c.target.endpoint
  localPort := .int c.target.port
  remoteEndpoint := .str c.initiator.endpoint
  remotePort := .int c.initiator.port

/-- One side of a pair, in the response. -/
def PunchCandidate.toJson (c : PunchCandidate) : Json :=
  .obj [("endpoint", .str c.endpoint), ("port", .int c.port), ("source", .str c.source),
    ("local_ip", .ofOption .str c.localIp), ("public_ip", .ofOption .str c.publicIp),
    ("priority", .int c.priority)]

/-- A pair, in the response. -/
def CandidatePair.toJson (c : CandidatePair) : Json :=
  .obj [("initiator", c.initiator.toJson), ("target", c.target.toJson),
    ("pair_key", .str c.pairKey)]

/-- An endpoint as the daemon's `_build_candidate_pairs` reads it. -/
def PunchCandidate.sided (side : String) (c : PunchCandidate) : Json :=
  .obj [("side", .str side), ("endpoint", .str c.endpoint), ("port", .int c.port)]

section

open Daemon.HolePuncher

variable {p : Daemon.HolePuncher} {shuffle : Daemon.Shuffle}

theorem ofSide_map_sided (side other : String) (cs : List PunchCandidate) :
    ofSide side (cs.map (·.sided other)) =
      if other = side then cs.map (·.sided other) else [] := by
  have hside : ∀ c : PunchCandidate, (c.sided other).get? "side" = some (.str other) := fun _ => rfl
  simp only [ofSide, List.filter_map, Function.comp_def, hside]
  split_ifs with h <;> simp [h]

/-- **What two sides give**: all pairs of the cross product, with the initiator's endpoint as the
local one.  The target's daemon builds the same pairs. -/
theorem mem_buildCandidatePairs_sided {initiators targets : List PunchCandidate}
    (hinitiators : initiators ≠ []) (htargets : targets ≠ []) (pairKey : String)
    {pair : Daemon.CandidatePair} :
    pair ∈ p.buildCandidatePairs shuffle
        (initiators.map (·.sided "initiator") ++ targets.map (·.sided "target")) ↔
      ∃ ic ∈ initiators, ∃ tc ∈ targets, pair = CandidatePair.forInitiator ⟨ic, tc, pairKey⟩ := by
  have hfirst : ofSide "initiator"
      (initiators.map (·.sided "initiator") ++ targets.map (·.sided "target")) =
        initiators.map (·.sided "initiator") := by
    rw [ofSide, List.filter_append]
    exact (congrArg₂ _ (ofSide_map_sided _ _ _) (ofSide_map_sided _ _ _)).trans
      (List.append_nil _)
  have hsecond : ofSide "target"
      (initiators.map (·.sided "initiator") ++ targets.map (·.sided "target")) =
        targets.map (·.sided "target") := by
    rw [ofSide, List.filter_append]
    exact congrArg₂ _ (ofSide_map_sided _ _ _) (ofSide_map_sided _ _ _)
  have hne : initiators.map (·.sided "initiator") ≠ [] := mt List.map_eq_nil_iff.1 hinitiators
  have hne' : targets.map (·.sided "target") ≠ [] := mt List.map_eq_nil_iff.1 htargets
  rw [mem_buildCandidatePairs (sides_eq hfirst hsecond (not_or.2 ⟨hne, hne'⟩)) hne hne']
  simp only [List.mem_map, exists_exists_and_eq_and]
  exact Iff.rfl

/-- The pairs of the response tell no side and have no address of their own, so a daemon would build
the default pair of them. -/
theorem mem_buildCandidatePairs_offered {offered : List CandidatePair} (hne : offered ≠ [])
    {pair : Daemon.CandidatePair} :
    pair ∈ p.buildCandidatePairs shuffle (offered.map CandidatePair.toJson) ↔
      pair = ⟨.str "127.0.0.1", .int p.bindPort, .str "", .int p.bindPort⟩ := by
  have hsides : sides (offered.map CandidatePair.toJson) =
      (offered.map CandidatePair.toJson, offered.map CandidatePair.toJson) := by
    have hside : ofSide "initiator" (offered.map CandidatePair.toJson) = [] :=
      List.filter_eq_nil_iff.2 fun c hc => by
        obtain ⟨c, -, rfl⟩ := List.mem_map.1 hc
        exact Bool.false_ne_true
    exact if_pos (.inl hside)
  have hne' : offered.map CandidatePair.toJson ≠ [] := mt List.map_eq_nil_iff.1 hne
  rw [mem_buildCandidatePairs hsides hne' hne']
  simp only [List.mem_map, exists_exists_and_eq_and]
  obtain ⟨c, hc⟩ := List.exists_mem_of_ne_nil _ hne
  exact ⟨fun ⟨_, _, _, _, h⟩ => h, fun h => ⟨c, hc, c, hc, h⟩⟩

end

/-- Each of the two daemons tries the pairs of the server, seen from its side, and no others. -/
structure CandidatesExchanged (initiator target : Daemon.PunchDaemon) (messages : List BusEvent)
    (offered : List CandidatePair) : Prop where
  initiator : ∀ pair, pair ∈ initiator.tried messages ↔
    pair ∈ offered.map CandidatePair.forInitiator
  target : ∀ pair, pair ∈ target.tried messages ↔ pair ∈ offered.map CandidatePair.forTarget

section

variable {env : Env} {e : Entropy} {db db' : Database} {token : String} {req : PunchRequest}
  {resp : PunchResponse}

/-- **A requested punch**: a session between the two devices, and the pairs of their active
endpoints. -/
theorem requestPunch_offers (h : requestPunch env e db token req = .ok (resp, db')) :
    ∃ current target s, getCurrentDevice env db token = .ok current ∧
      Uuid.parse req.targetDeviceId = some target ∧ db'.natSessions.get? e.rowId = some s ∧
      s.initiatorDeviceId = current.id ∧ s.targetDeviceId = target ∧
      resp.candidates = buildCandidatePairs db current.id target := by
  obtain ⟨current, target, row, natSessions, hcurrent, htarget, hid, hinitiator, htarget', hinsert,
    hcandidates, rfl⟩ := requestPunch_eq_ok h
  have hrow : natSessions.get? e.rowId = some row :=
    (Table.get?_insert hinsert e.rowId).trans (if_pos hid)
  have hget : (natSessions.modify e.rowId (NATSession.coordinating env.now) fun _ => rfl).get?
      e.rowId = some (row.coordinating env.now) :=
    (Table.get?_modify e.rowId).trans ((congrArg _ hrow).trans (congrArg some (if_pos hid)))
  exact ⟨current, target, _, hcurrent, htarget, hget, hinitiator, htarget', hcandidates⟩

theorem mem_map_buildCandidatePairs {initiator target : Uuid}
    {view : CandidatePair → Daemon.CandidatePair} {pair : Daemon.CandidatePair} :
    pair ∈ (buildCandidatePairs db initiator target).map view ↔
      ∃ ie ∈ db.activeEndpoints initiator, ∃ te ∈ db.activeEndpoints target,
        pair = view
          { initiator := ie.punchCandidate
            target := te.punchCandidate
            pairKey := ie.endpoint ++ ":" ++ toString ie.port ++ "->" ++ te.endpoint ++ ":" ++
              toString te.port } := by
  simp only [buildCandidatePairs, getActiveEndpointsByDevice, List.map_flatMap, List.map_map,
    List.mem_flatMap, List.mem_map, List.mem_insertionSort, Function.comp_apply]
  exact ⟨fun ⟨ie, hie, te, hte, h⟩ => ⟨ie, hie, te, hte, h.symm⟩,
    fun ⟨ie, hie, te, hte, h⟩ => ⟨ie, hie, te, hte, h.symm⟩⟩

/-- The endpoint that the fallback of the daemons stands for. -/
def DeviceEndpoint.IsLoopback (ep : DeviceEndpoint) : Prop :=
  ep.endpoint = "127.0.0.1" ∧ ep.port = 51820

theorem tried_iff_offered {messages : List BusEvent} {s : NATSession}
    (hmessages : messages.map (·.toEvent) = requestPunchEvents true s) (d : Daemon.PunchDaemon)
    {initiator target : Uuid} (hinitiator : db.activeEndpoints initiator ≠ [])
    (htarget : db.activeEndpoints target ≠ []) {view : CandidatePair → Daemon.CandidatePair}
    (hview : ∀ ie te : DeviceEndpoint, ∀ key,
      view ⟨ie.punchCandidate, te.punchCandidate, key⟩ = d.config.holePuncher.loopbackPair ↔
        ie.IsLoopback ∧ te.IsLoopback) :
    (∀ pair, pair ∈ d.tried messages ↔
        pair ∈ (buildCandidatePairs db initiator target).map view) ↔
      d.Attempts ∧ ∀ ie ∈ db.activeEndpoints initiator, ∀ te ∈ db.activeEndpoints target,
        ie.IsLoopback ∧ te.IsLoopback := by
  simp only [d.mem_tried_iff hmessages, mem_map_buildCandidatePairs]
  constructor
  · intro h
    obtain ⟨ie₀, hie₀⟩ := List.exists_mem_of_ne_nil _ hinitiator
    obtain ⟨te₀, hte₀⟩ := List.exists_mem_of_ne_nil _ htarget
    refine ⟨((h _).2 ⟨ie₀, hie₀, te₀, hte₀, rfl⟩).1, fun ie hie te hte => ?_⟩
    exact (hview ie te _).1 ((h _).2 ⟨ie, hie, te, hte, rfl⟩).2
  · rintro ⟨hattempts, hloopback⟩ pair
    constructor
    · rintro ⟨-, rfl⟩
      obtain ⟨ie, hie⟩ := List.exists_mem_of_ne_nil _ hinitiator
      obtain ⟨te, hte⟩ := List.exists_mem_of_ne_nil _ htarget
      exact ⟨ie, hie, te, hte, ((hview ie te _).2 (hloopback ie hie te hte)).symm⟩
    · rintro ⟨ie, hie, te, hte, rfl⟩
      exact ⟨hattempts, (hview ie te _).2 (hloopback ie hie te hte)⟩

theorem forInitiator_eq_loopbackPair_iff (config : Daemon.PunchConfig) (ie te : DeviceEndpoint)
    (pairKey : String) : CandidatePair.forInitiator ⟨ie.punchCandidate, te.punchCandidate, pairKey⟩ =
      config.holePuncher.loopbackPair ↔ ie.IsLoopback ∧ te.IsLoopback := by
  simp [CandidatePair.forInitiator, DeviceEndpoint.punchCandidate, Daemon.HolePuncher.loopbackPair,
    Daemon.PunchConfig.holePuncher, DeviceEndpoint.IsLoopback, and_assoc]

theorem forTarget_eq_loopbackPair_iff (config : Daemon.PunchConfig) (ie te : DeviceEndpoint)
    (pairKey : String) : CandidatePair.forTarget ⟨ie.punchCandidate, te.punchCandidate, pairKey⟩ =
      config.holePuncher.loopbackPair ↔ ie.IsLoopback ∧ te.IsLoopback := by
  refine Iff.trans ?_ and_comm
  simp [CandidatePair.forTarget, DeviceEndpoint.punchCandidate, Daemon.HolePuncher.loopbackPair,
    Daemon.PunchConfig.holePuncher, DeviceEndpoint.IsLoopback, and_assoc]

theorem forall_pairs_iff {α : Type} {P : α → Prop} {l l' : List α} (hl : l ≠ []) (hl' : l' ≠ []) :
    (∀ a ∈ l, ∀ b ∈ l', P a ∧ P b) ↔ ∀ a ∈ l ++ l', P a := by
  rw [List.forall_mem_append]
  constructor
  · intro h
    obtain ⟨a₀, ha₀⟩ := List.exists_mem_of_ne_nil _ hl
    obtain ⟨b₀, hb₀⟩ := List.exists_mem_of_ne_nil _ hl'
    exact ⟨fun a ha => (h a ha b₀ hb₀).1, fun b hb => (h a₀ ha₀ b hb).2⟩
  · exact fun h a ha b hb => ⟨h.1 a ha, h.2 b hb⟩

/-- **When the candidates are exchanged**: both daemons come to an attempt, and every active
endpoint of the two devices is the loopback address with the default port. -/
theorem candidate_exchange_iff (h : requestPunch env e db token req = .ok (resp, db'))
    {s : NATSession} (hs : db'.natSessions.get? e.rowId = some s)
    (hinitiator : db.activeEndpoints s.initiatorDeviceId ≠ [])
    (htarget : db.activeEndpoints s.targetDeviceId ≠ []) {messages : List BusEvent}
    (hmessages : messages.map (·.toEvent) = requestPunchEvents true s)
    (initiator target : Daemon.PunchDaemon) :
    CandidatesExchanged initiator target messages resp.candidates ↔
      initiator.Attempts ∧ target.Attempts ∧
        ∀ ep ∈ db.activeEndpoints s.initiatorDeviceId ++ db.activeEndpoints s.targetDeviceId,
          ep.IsLoopback := by
  obtain ⟨current, target', s', -, -, hs', hcurrent, htarget', hcandidates⟩ := requestPunch_offers h
  rw [hs] at hs'
  cases hs'
  rw [hcandidates, ← hcurrent, ← htarget']
  have hfirst := tried_iff_offered hmessages initiator hinitiator htarget
    (forInitiator_eq_loopbackPair_iff initiator.config)
  have hsecond := tried_iff_offered hmessages target hinitiator htarget
    (forTarget_eq_loopbackPair_iff target.config)
  rw [← forall_pairs_iff hinitiator htarget]
  constructor
  · rintro ⟨hoffered, hoffered'⟩
    exact ⟨(hfirst.1 hoffered).1, (hsecond.1 hoffered').1, (hfirst.1 hoffered).2⟩
  · rintro ⟨hattempts, hattempts', hloopback⟩
    exact ⟨hfirst.2 ⟨hattempts, hloopback⟩, hsecond.2 ⟨hattempts', hloopback⟩⟩

end

/-- The marina with an endpoint of each boat. -/
def berth (host : String) : Database :=
  marina "mesh" (.ofRows [
    { id := Uuid.ofNat 85, deviceId := Uuid.ofNat 81, endpoint := host },
    { id := Uuid.ofNat 86, deviceId := Uuid.ofNat 82, endpoint := host }]
    (by decide : [Uuid.ofNat 85, Uuid.ofNat 86].Nodup))

/-- The ketch wants to reach the sloop. -/
def punchSloop : PunchRequest where
  targetDeviceId := (Uuid.ofNat 81).str
  initiatorEndpoint := "203.0.113.9"

/-- The session of the ketch with the sloop. -/
def ketchSession : NATSession where
  id := Uuid.ofNat 83
  initiatorDeviceId := Uuid.ofNat 82
  targetDeviceId := Uuid.ofNat 81
  state := .coordinating
  extraMetadata := some
    { initiatorEndpoint := some "203.0.113.9", initiatorPort := some 51820 }
  expiresAt := natExpiry 0

/-- The two events of the request, as they come to a socket. -/
def ketchMessages : List BusEvent :=
  [⟨ketchSession.punchRequested, "1", "", by decide⟩,
    ⟨ketchSession.punchStarted, "2", "", by decide⟩]

theorem ketch_punches (host : String) :
    ∃ resp db', requestPunch plainEnv ketchEntropy (berth host) "ketch" punchSloop =
      .ok (resp, db') ∧ db'.natSessions.get? (Uuid.ofNat 83) = some ketchSession :=
  ⟨_, _, rfl, rfl⟩

/-- A daemon that has no success. -/
def unluckyDaemon : Daemon.PunchDaemon where
  config := {}
  shuffle := ⟨id, List.Perm.refl⟩
  run := ⟨fun _ => true, fun _ => false⟩

/-- On one host the daemons try what is offered. -/
theorem candidate_exchange_iff_loopback :
    ∃ resp db', requestPunch plainEnv ketchEntropy (berth "127.0.0.1") "ketch" punchSloop =
        .ok (resp, db') ∧
      CandidatesExchanged unluckyDaemon unluckyDaemon ketchMessages resp.candidates := by
  obtain ⟨resp, db', hpunch, hsession⟩ := ketch_punches "127.0.0.1"
  refine ⟨resp, db', hpunch, ?_⟩
  refine (candidate_exchange_iff hpunch hsession (by decide) (by decide) rfl unluckyDaemon
    unluckyDaemon).2 ⟨⟨rfl, by decide, rfl⟩, ⟨rfl, by decide, rfl⟩, ?_⟩
  unfold DeviceEndpoint.IsLoopback
  decide

/-- On two hosts they are offered a pair, and try another one. -/
theorem candidates_not_exchanged :
    ∃ resp db', requestPunch plainEnv ketchEntropy (berth "203.0.113.8") "ketch" punchSloop =
        .ok (resp, db') ∧
      db'.natSessions.get? (Uuid.ofNat 83) = some ketchSession ∧
      (berth "203.0.113.8").activeEndpoints ketchSession.initiatorDeviceId ≠ [] ∧
      (berth "203.0.113.8").activeEndpoints ketchSession.targetDeviceId ≠ [] ∧
      ketchMessages.map (·.toEvent) = requestPunchEvents true ketchSession ∧
      ¬ CandidatesExchanged unluckyDaemon unluckyDaemon ketchMessages resp.candidates := by
  refine ⟨_, _, rfl, rfl, by decide, by decide, rfl, fun hexchanged => ?_⟩
  have htried : unluckyDaemon.config.holePuncher.loopbackPair ∈
      unluckyDaemon.tried ketchMessages :=
    (unluckyDaemon.mem_tried_iff (s := ketchSession) rfl).2 ⟨⟨rfl, by decide, rfl⟩, rfl⟩
  obtain ⟨c, hc, hpair⟩ := List.mem_map.1 ((hexchanged.initiator _).1 htried)
  rw [List.mem_singleton.1 hc] at hpair
  have hhost : "203.0.113.8" = "127.0.0.1" :=
    Json.str.inj (congrArg Daemon.CandidatePair.localEndpoint hpair)
  exact absurd hhost (by decide)

end Midscale
