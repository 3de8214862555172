import Mathlib.Data.Rat.Lemmas
import Midscale.Config.V2
import Midscale.Sessions.Endpoints

/-!
# The results of probing peers

`_reconcile_v2` makes targets of the peers of a configuration, `PeerProber` probes them,
`report_probe_result` sends what it measured, `ProbeResultRequest` checks it and
`process_probe_result` writes it.  Times are exact numbers of milliseconds.

* `PeerInfo.probeTargets` : the targets of a peer, which are named by its public key.
* `ProbeReport.validate` : the fields of the request; a number with a fraction is no integer.
* `validate_isSome_iff` : which results are accepted.
* `probe_attributed_iff` : **a result is accepted and written to the row of the probed endpoint
  exactly if the time is rounded to a whole number of milliseconds or missing, the public key of the
  owner is the text of its own id, and the owner has one row with the address, that of the port.**
-/

namespace Midscale

namespace Daemon

/-! ### Targets -/

/-- `ProbeTarget`. -/
structure ProbeTarget where
  peerDeviceId : String
  publicKey : String
  endpoint : String
  port : Option ℤ
  deriving DecidableEq

end Daemon

/-- The targets of a peer; its dictionary has every key, and a port that is null stays so. -/
def PeerInfo.probeTargets (peer : PeerInfo) : List Daemon.ProbeTarget :=
  let target (endpoint : String) (port : Option ℤ) : Daemon.ProbeTarget :=
    { peerDeviceId := peer.publicKey, publicKey := peer.publicKey, endpoint, port }
  ((peer.endpoint.filter (· ≠ "")).toList.map fun endpoint => target endpoint peer.endpointPort) ++
    peer.endpointCandidates.map fun cand => target cand.endpoint (some cand.port)

/-- The targets of a configuration. -/
def DeviceConfigV2Response.probeTargets (r : DeviceConfigV2Response) : List Daemon.ProbeTarget :=
  r.peers.flatMap PeerInfo.probeTargets

namespace Daemon

/-! ### Probing -/

/-- The nearest integer, and the even one of two that are as near. -/
def roundHalfEven (x : ℚ) : ℤ :=
  let n := x.floor
  if x - n < 1 / 2 then n
  else if 1 / 2 < x - n then n + 1
  else if n % 2 = 0 then n else n + 1

/-- `round(x, 1)`. -/
def roundTenth (x : ℚ) : ℚ := (roundHalfEven (10 * x) : ℚ) / 10

example : roundTenth (2025 / 100) = 202 / 10 ∧ roundTenth (1996 / 100) = 20 := by decide +kernel

/-- How a probe ends. -/
inductive ProbeOutcome where
  /-- Something was received after so many milliseconds. -/
  | answered (elapsed : ℚ)
  | timedOut (elapsed : ℚ)
  /-- Any other exception, as the socket raises it for a port that is no number. -/
  | failed

/-- `ProbeResult`. -/
structure ProbeResult where
  peerDeviceId : String
  endpoint : String
  port : Option ℤ
  reachable : Bool
  latencyMs : Option ℚ := none

/-- `_probe_endpoint`. -/
def probeEndpoint (target : ProbeTarget) (outcome : ProbeOutcome) : ProbeResult :=
  let result (reachable : Bool) (latencyMs : Option ℚ) : ProbeResult :=
    { peerDeviceId := target.peerDeviceId, endpoint := target.endpoint, port := target.port
      reachable, latencyMs }
  match outcome with
  | .answered elapsed => result true (some (roundTenth elapsed))
  | .timedOut elapsed => result false (some (roundTenth elapsed))
  | .failed => result false none

/-- The body that `report_probe_result` sends; a latency that is missing is left out. -/
structure ProbeReport where
  peerDeviceId : String
  endpoint : String
  reachable : Bool
  port : Option ℤ
  source : String := "probe"
  latencyMs : Option ℚ := none

/-- What `_run_probe_cycle` reports. -/
def ProbeResult.report (result : ProbeResult) : ProbeReport where
  peerDeviceId := result.peerDeviceId
  endpoint := result.endpoint
  reachable := result.reachable
  port := result.port
  latencyMs := result.latencyMs

/-! ### The request -/

/-- A number for an integer field, which must have no fraction. -/
def wholeNumber? (x : ℚ) : Option ℤ := if x.den = 1 then some x.num else none

/-- An integer field that may be left out. -/
def optionalWhole? : Option ℚ → Option (Option ℤ)
  | some x => (wholeNumber? x).map some
  | none => some none

/-- The fields of `ProbeResultRequest`; a port that is null is no integer. -/
def ProbeReport.validate (body : ProbeReport) : Option ProbeResultRequest := do
  let port ← body.port
  let latencyMs ← optionalWhole? body.latencyMs
  some
    { peerDeviceId := body.peerDeviceId
      endpoint := body.endpoint
      source := body.source
      port := port
      reachable := body.reachable
      latencyMs := latencyMs }

/-- The measured time is missing, or rounded to a whole number of milliseconds. -/
def ProbeOutcome.Whole : ProbeOutcome → Prop
  | .answered elapsed | .timedOut elapsed => 10 ∣ roundHalfEven (10 * elapsed)
  | .failed => True

/-- The report is accepted, it names the owner, and a row of the owner with the probed address and
port is updated, and nothing else. -/
def Attributed (env : Env) (e : Entropy) (db : Database) (owner : Uuid) (body : ProbeReport) :
    Prop :=
  ∃ req, body.validate = some req ∧ Uuid.parse req.peerDeviceId = some owner ∧
    ∃ row ∈ db.endpoints, row.deviceId = owner ∧ row.endpoint = body.endpoint ∧
      body.port = some row.port ∧
      ∃ resp endpoints,
        processProbeResult env e db req = .ok (resp, { db with endpoints := endpoints }) ∧
        ∀ id, endpoints.get? id =
          if id = row.id then some (req.apply env.now row) else db.endpoints.get? id

theorem wholeNumber?_tenth (n : ℤ) : (wholeNumber? ((n : ℚ) / 10)).isSome = true ↔ 10 ∣ n := by
  have hden : ((n : ℚ) / (10 : ℤ)).den = 1 ↔ 10 ∣ n :=
    Rat.den_div_intCast_eq_one_iff n 10 (by decide)
  rw [← hden, wholeNumber?]
  push_cast
  split_ifs with h <;> simp [h]

theorem peerDeviceId_of_mem {r : DeviceConfigV2Response} {target : ProbeTarget}
    (h : target ∈ r.probeTargets) : target.peerDeviceId = target.publicKey := by
  obtain ⟨peer, -, htarget⟩ := List.mem_flatMap.1 h
  rcases List.mem_append.1 htarget with hendpoint | hcandidate
  · obtain ⟨endpoint, -, rfl⟩ := List.mem_map.1 hendpoint
    rfl
  · obtain ⟨cand, -, rfl⟩ := List.mem_map.1 hcandidate
    rfl

theorem probeEndpoint_report (target : ProbeTarget) (outcome : ProbeOutcome) :
    (probeEndpoint target outcome).report.peerDeviceId = target.peerDeviceId ∧
      (probeEndpoint target outcome).report.endpoint = target.endpoint ∧
        (probeEndpoint target outcome).report.port = target.port := by
  cases outcome <;> exact ⟨rfl, rfl, rfl⟩

theorem validate_eq_some {body : ProbeReport} {req : ProbeResultRequest}
    (h : body.validate = some req) :
    req.peerDeviceId = body.peerDeviceId ∧ req.endpoint = body.endpoint := by
  simp only [ProbeReport.validate, Option.bind_eq_bind, Option.bind_eq_some_iff] at h
  obtain ⟨port, -, latencyMs, -, h⟩ := h
  cases h
  exact ⟨rfl, rfl⟩

/-- **Which results are accepted.** -/
theorem validate_isSome_iff (target : ProbeTarget) (outcome : ProbeOutcome) :
    (probeEndpoint target outcome).report.validate.isSome = true ↔
      target.port ≠ none ∧ outcome.Whole := by
  have hmeasured : ∀ (reachable : Bool) (elapsed : ℚ),
      (ProbeReport.validate
        { peerDeviceId := target.peerDeviceId, endpoint := target.endpoint, reachable
          port := target.port, latencyMs := some (roundTenth elapsed) }).isSome = true ↔
        target.port ≠ none ∧ 10 ∣ roundHalfEven (10 * elapsed) := by
    intro reachable elapsed
    rw [← wholeNumber?_tenth, ← roundTenth]
    cases target.port with
    | none => simp [ProbeReport.validate]
    | some port =>
      cases hwhole : wholeNumber? (roundTenth elapsed) <;>
        simp [ProbeReport.validate, optionalWhole?, hwhole]
  cases outcome with
  | answered elapsed => exact hmeasured true elapsed
  | timedOut elapsed => exact hmeasured false elapsed
  | failed =>
    cases hport : target.port <;>
      simp [probeEndpoint, ProbeResult.report, ProbeReport.validate, optionalWhole?,
        ProbeOutcome.Whole, hport]

theorem probedRows_eq_singleton {env : Env} {e : Entropy} {db db' : Database} {owner : Uuid}
    {req : ProbeResultRequest} {resp : ProbeResultResponse} {row : DeviceEndpoint}
    (hparse : Uuid.parse req.peerDeviceId = some owner) (hrow : row ∈ db.endpoints)
    (howner : row.deviceId = owner) (hendpoint : row.endpoint = req.endpoint)
    (hok : processProbeResult env e db req = .ok (resp, db')) :
    db.probedRows owner req.endpoint = [row] := by
  have hmem : row ∈ db.probedRows owner req.endpoint :=
    Table.mem_select.2 ⟨hrow, decide_eq_true ⟨howner, hendpoint⟩⟩
  obtain ⟨peer, hpeer, ⟨row', hrows, -⟩ | ⟨-, hrows, -⟩⟩ := processProbeResult_eq_ok hok
  · cases hparse.symm.trans hpeer
    rw [hrows, List.mem_singleton] at hmem
    rw [hrows, hmem]
  · cases hparse.symm.trans hpeer
    rw [hrows] at hmem
    cases hmem

/-- **Which results are accepted and attributed**: exactly those whose time is missing or rounded to
whole milliseconds, if the public key of the owner is the text of its id and the owner has one row
with the address, and this has the port. -/
theorem probe_attributed_iff (env : Env) (e : Entropy) (db : Database) {r : DeviceConfigV2Response}
    {target : ProbeTarget} (htarget : target ∈ r.probeTargets) {owner : Device}
    (hkey : owner.publicKey = some target.publicKey) (outcome : ProbeOutcome) :
    Attributed env e db owner.id (probeEndpoint target outcome).report ↔
      outcome.Whole ∧ owner.publicKey.bind Uuid.parse = some owner.id ∧
        ∃ row, db.probedRows owner.id target.endpoint = [row] ∧ target.port = some row.port := by
  obtain ⟨hpeer, hendpoint, hport⟩ := probeEndpoint_report target outcome
  rw [hkey, Option.bind_some, ← peerDeviceId_of_mem htarget]
  constructor
  · rintro ⟨req, hvalid, hparse, row, hrow, howner, hrowEndpoint, hrowPort, resp, endpoints, hok, -⟩
    obtain ⟨hreq, hreq'⟩ := validate_eq_some hvalid
    obtain ⟨-, hwhole⟩ := (validate_isSome_iff target outcome).1 (Option.isSome_of_eq_some hvalid)
    have honly := probedRows_eq_singleton hparse hrow howner (hrowEndpoint.trans hreq'.symm) hok
    rw [hreq, hpeer] at hparse
    rw [hreq', hendpoint] at honly
    exact ⟨hwhole, hparse, row, honly, hport.symm.trans hrowPort⟩
  · rintro ⟨hwhole, hparse, row, honly, hrowPort⟩
    obtain ⟨req, hvalid⟩ := Option.isSome_iff_exists.1
      ((validate_isSome_iff target outcome).2 ⟨hrowPort ▸ Option.some_ne_none _, hwhole⟩)
    obtain ⟨hreq, hreq'⟩ := validate_eq_some hvalid
    have hparse' : Uuid.parse req.peerDeviceId = some owner.id := by rw [hreq, hpeer, hparse]
    have honly' : db.probedRows owner.id req.endpoint = [row] := by rw [hreq', hendpoint, honly]
    obtain ⟨hrow, hcond⟩ := Table.mem_select.1 (honly ▸ List.mem_singleton_self row)
    obtain ⟨howner, hrowEndpoint⟩ := of_decide_eq_true hcond
    obtain ⟨resp, hok⟩ :=
      processProbeResult_of_record hparse' (recordProbe_of_singleton env e honly')
    refine ⟨req, hvalid, hparse', row, hrow, howner, hrowEndpoint.trans hendpoint.symm,
      hport.trans hrowPort, resp, _, hok, ?_⟩
    exact Table.get?_modify_of_get? (Table.get?_eq_some_iff.2 ⟨hrow, rfl⟩)

/-! ### A printer and its office -/

/-- A printer that is known by a key, with one endpoint. -/
def printRoom (publicKey : String) : Database where
  devices := .ofRows
    [{ id := Uuid.ofNat 110, name := "printer", networkId := Uuid.ofNat 111
       publicKey := some publicKey }] (List.nodup_singleton _)
  endpoints := .ofRows
    [{ id := Uuid.ofNat 112, deviceId := Uuid.ofNat 110, endpoint := "203.0.113.20" }]
    (List.nodup_singleton _)

/-- A configuration with the printer as peer. -/
def printConfig (publicKey : String) : DeviceConfigV2Response where
  peers := [{ publicKey, endpointCandidates := [{ endpoint := "203.0.113.20" }] }]

/-- The printer. -/
def printer (publicKey : String) : Device where
  id := Uuid.ofNat 110
  name := "printer"
  networkId := Uuid.ofNat 111
  publicKey := some publicKey

/-- The target that it makes. -/
def printTarget (publicKey : String) : ProbeTarget where
  peerDeviceId := publicKey
  publicKey := publicKey
  endpoint := "203.0.113.20"
  port := some 51820

def printEntropy : Entropy :=
  ⟨Uuid.ofNat 113, Uuid.ofNat 114, ⟨"", ""⟩, "", "", "", "", "", ""⟩

/-- A printer whose key is its id, and an answer after twelve milliseconds. -/
theorem probe_attributed_iff_printer :
    Attributed plainEnv printEntropy (printRoom (Uuid.ofNat 110).str) (Uuid.ofNat 110)
      (probeEndpoint (printTarget (Uuid.ofNat 110).str) (.answered 12)).report := by
  have htarget : printTarget (Uuid.ofNat 110).str ∈
      (printConfig (Uuid.ofNat 110).str).probeTargets := List.mem_cons_self
  have hkey : (printer (Uuid.ofNat 110).str).publicKey =
      some (printTarget (Uuid.ofNat 110).str).publicKey := rfl
  exact (probe_attributed_iff _ _ _ htarget hkey (.answered 12)).2
    ⟨(by decide +kernel : (10 : ℤ) ∣ roundHalfEven (10 * 12)), by decide +kernel,
      _, rfl, rfl⟩

/-- A WireGuard key. -/
def printKey : String := "cHJpbnRlci1rZXktMDEyMzQ1Njc4OTAxMjM0NTY3OD0="

/-- The printer has a WireGuard key.  The answer after 12.3 milliseconds is refused; that after
twelve is accepted and then fails, since the key is no id. -/
theorem probe_results_lost :
    printTarget printKey ∈ (printConfig printKey).probeTargets ∧
      printer printKey ∈ (printRoom printKey).devices ∧
      (probeEndpoint (printTarget printKey) (.answered (123 / 10))).report.validate.isNone = true ∧
      (∃ req, (probeEndpoint (printTarget printKey) (.answered 12)).report.validate = some req ∧
        ∀ env e, processProbeResult env e (printRoom printKey) req =
          .error (.internal "DataError")) ∧
      ∀ env e,
        ¬ Attributed env e (printRoom printKey) (Uuid.ofNat 110)
          (probeEndpoint (printTarget printKey) (.answered (123 / 10))).report ∧
        ¬ Attributed env e (printRoom printKey) (Uuid.ofNat 110)
          (probeEndpoint (printTarget printKey) (.answered 12)).report := by
  have hnone : (probeEndpoint (printTarget printKey)
      (.answered (123 / 10))).report.validate.isNone = true := by decide +kernel
  have hkey : Uuid.parse printKey = none := by decide +kernel
  refine ⟨List.mem_cons_self, List.mem_cons_self, hnone, ?_, fun env e => ⟨?_, ?_⟩⟩
  · obtain ⟨req, hvalid⟩ := Option.isSome_iff_exists.1 ((validate_isSome_iff (printTarget printKey)
      (.answered 12)).2 ⟨by decide, (by decide +kernel : (10 : ℤ) ∣ roundHalfEven (10 * 12))⟩)
    have hparse : Uuid.parse req.peerDeviceId = none := by
      rw [(validate_eq_some hvalid).1]
      exact hkey
    refine ⟨req, hvalid, fun env e => ?_⟩
    rw [processProbeResult, hparse]
    rfl
  · rintro ⟨req, hvalid, -⟩
    rw [hvalid] at hnone
    cases hnone
  · rintro ⟨req, hvalid, hparse, -⟩
    rw [(validate_eq_some hvalid).1] at hparse
    cases hkey.symm.trans hparse

end Daemon

end Midscale
