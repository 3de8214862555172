import Mathlib.Data.Int.Order.Basic
import Mathlib.Data.List.Lex
import Midscale.Config.Legacy

/-!
# The structured configuration

`build_config_v2`: the JSON configuration of a device.  The peers come from the same generators as
the legacy configuration's, here with the known endpoints; every peer is then enriched with its
endpoint candidates and, where it has none, with a relay.

* `PeerPlan.info_publicKey`, `PeerPlan.info_allowedIps` : enrichment leaves the key and the
  AllowedIPs of a peer alone.
-/

namespace Midscale

/-! ### The response -/

/-- `EndpointCandidate`. -/
structure EndpointCandidate where
  endpoint : String
  port : ℤ := 51820
  source : String := "reported"
  priority : ℤ := 100
  lastSeenAt : Option String := none
  localIp : Option String := none
  publicIp : Option String := none
  reachable : Bool := false
  latencyMs : Option ℤ := none
  score : ℤ := 0
  preferred : Bool := false
  deriving DecidableEq, Repr

/-- `RelayCandidateInfo`. -/
structure RelayCandidateInfo where
  relayNode : String
  relayRegion : String
  relayEndpoint : String
  priority : ℤ := 100
  preferred : Bool := false
  deriving DecidableEq, Repr

/-- `PeerInfo`. -/
structure PeerInfo where
  publicKey : String
  allowedIps : List String := []
  endpoint : Option String := none
  endpointPort : Option ℤ := none
  persistentKeepalive : Option ℕ := none
  endpointCandidates : List EndpointCandidate := []
  relayFallback : Bool := false
  relayCandidates : Option (List RelayCandidateInfo) := none
  relayRequired : Bool := false
  deriving DecidableEq, Repr

/-- The `interface` object. -/
structure InterfaceInfo where
  address : String := ""
  dns : Option (List String) := none
  mtu : Option ℕ := none
  deriving DecidableEq, Repr

/-- `DeviceConfigV2Response`. -/
structure DeviceConfigV2Response where
  interface : InterfaceInfo := {}
  peers : List PeerInfo := []
  routes : List String := []
  exitNode : Option String := none
  version : String := "2"
  configVersion : String := "2"
  schemaVersion : String := "1"
  minDaemonVersion : Option String := none
  revision : String := ""
  generatedAt : String := ""
  hash : String := ""
  deriving DecidableEq, Repr

/-! ### The response as JSON -/

/-- An optional value, `null` when there is none. -/
def Json.ofOption {α : Type} (f : α → Json) : Option α → Json
  | some a => f a
  | none => .null

/-- A list of values. -/
def Json.ofList {α : Type} (f : α → Json) (l : List α) : Json := .arr (l.map f)

/-- `candidate.model_dump()`. -/
def EndpointCandidate.json (c : EndpointCandidate) : Json :=
  .obj [("endpoint", .str c.endpoint), ("port", .int c.port), ("source", .str c.source),
    ("priority", .int c.priority), ("last_seen_at", .ofOption .str c.lastSeenAt),
    ("local_ip", .ofOption .str c.localIp), ("public_ip", .ofOption .str c.publicIp),
    ("reachable", .bool c.reachable), ("latency_ms", .ofOption .int c.latencyMs),
    ("score", .int c.score), ("preferred", .bool c.preferred)]

/-- `candidate.model_dump()`. -/
def RelayCandidateInfo.json (c : RelayCandidateInfo) : Json :=
  .obj [("relay_node", .str c.relayNode), ("relay_region", .str c.relayRegion),
    ("relay_endpoint", .str c.relayEndpoint), ("priority", .int c.priority),
    ("preferred", .bool c.preferred)]

/-- `peer.model_dump()`. -/
def PeerInfo.json (p : PeerInfo) : Json :=
  .obj [("public_key", .str p.publicKey), ("allowed_ips", .ofList .str p.allowedIps),
    ("endpoint", .ofOption .str p.endpoint), ("endpoint_port", .ofOption .int p.endpointPort),
    ("persistent_keepalive", .ofOption (fun n => .int (n : ℕ)) p.persistentKeepalive),
    ("endpoint_candidates", .ofList EndpointCandidate.json p.endpointCandidates),
    ("relay_fallback", .bool p.relayFallback),
    ("relay_candidates", .ofOption (.ofList RelayCandidateInfo.json) p.relayCandidates),
    ("relay_required", .bool p.relayRequired)]

/-- The `interface` dictionary. -/
def InterfaceInfo.json (i : InterfaceInfo) : Json :=
  .obj [("address", .str i.address), ("dns", .ofOption (.ofList .str) i.dns),
    ("mtu", .ofOption (fun n => .int (n : ℕ)) i.mtu)]

/-- The `config_data` that is hashed: everything but the volatile metadata. -/
def DeviceConfigV2Response.configData (r : DeviceConfigV2Response) : Json :=
  .obj [("interface", r.interface.json), ("peers", .ofList PeerInfo.json r.peers),
    ("routes", .ofList .str r.routes), ("exit_node", .ofOption .str r.exitNode),
    ("version", .str r.version), ("config_version", .str r.configVersion),
    ("schema_version", .str r.schemaVersion)]

/-- `compute_config_hash`. -/
def Security.computeConfigHash (security : Security) (configData : Json) : String :=
  security.sha256 configData.dumpsSorted

/-! ### Candidates -/

/-- The sort key of `sort_endpoint_candidates` and `select_best_endpoint`: score, reachability,
latency (9999 when it is missing or 0) and priority. -/
def DeviceEndpoint.candidateKey (e : DeviceEndpoint) : List ℤ :=
  [e.score, if e.reachable then 1 else 0, -(orPort e.latencyMs (some 9999)).getD 0, -e.priority]

/-- `sort_endpoint_candidates`: descending, and like Python's `sorted` with `reverse=True` it keeps
ties in order. -/
def sortEndpointCandidates (eps : List DeviceEndpoint) : List DeviceEndpoint :=
  eps.insertionSort fun e e' => e'.candidateKey ≤ e.candidateKey

/-- `select_best_endpoint`. -/
def selectBestEndpoint (eps : List DeviceEndpoint) : Option DeviceEndpoint :=
  (sortEndpointCandidates eps).head?

/-- The `EndpointCandidate` of a row. -/
def DeviceEndpoint.candidate (e : DeviceEndpoint) (preferred : Bool) : EndpointCandidate where
  endpoint := e.endpoint
  port := e.port
  source := e.source
  priority := e.priority
  lastSeenAt := some e.lastSeen.isoformat
  localIp := e.localIp
  publicIp := e.publicIp
  reachable := e.reachable
  latencyMs := e.latencyMs
  score := e.score
  preferred := preferred

/-- `get_best_relay_candidate`: a static default. -/
def Settings.bestRelayCandidate (settings : Settings) : RelayCandidateInfo where
  relayNode := "relay0"
  relayRegion := "default"
  relayEndpoint := settings.relayHost ++ ":" ++ toString settings.relayPort
  priority := 50
  preferred := true

/-! ### Building -/

/-- `ttype_str in ("mesh", "hybrid")`. -/
def isMeshOrHybrid (topology : String) : Bool := topology ∈ ["mesh", "hybrid"]

/-- The `PeerInfo` of a planned peer with the endpoints of its device. -/
def PeerPlan.info (settings : Settings) (meshOrHybrid : Bool) (p : PeerPlan)
    (eps : List DeviceEndpoint) : PeerInfo :=
  let enriched : Bool := eps ≠ [] ∧ meshOrHybrid
  let sorted := if enriched then sortEndpointCandidates eps else []
  let bestId : Option Uuid := if enriched then (selectBestEndpoint eps).map (·.id) else none
  let best := sorted.foldl (fun (best : Option String × Option ℤ) (e : DeviceEndpoint) =>
    if best.1 = none ∨ some e.id = bestId then (some e.endpoint, some e.port) else best)
    (p.endpoint, p.endpointPort)
  let relayRequired : Bool := (if eps ≠ [] then false else p.relayFallback) ∧ meshOrHybrid
  { publicKey := p.publicKey
    allowedIps := p.allowedIps
    endpoint := orText best.1 p.endpoint
    endpointPort := orPort best.2 p.endpointPort
    persistentKeepalive := p.persistentKeepalive
    endpointCandidates := sorted.map fun e => e.candidate (some e.id = bestId)
    relayFallback := relayRequired
    relayCandidates := if relayRequired then some [settings.bestRelayCandidate] else none
    relayRequired := relayRequired }

/-- `build_config_v2`. -/
def buildConfigV2 (env : Env) (db : Database) (device : Device) :
    Except ApiError DeviceConfigV2Response := do
  let network ← scalarOne (db.networks.get? device.networkId)
  let states := (db.buildDeviceStates device.networkId).1
  let dnsServers := if device.dnsEnabled then db.buildDnsServers env.setOrder device.networkId
    else none
  let meshOrHybrid := isMeshOrHybrid (env.settings.topologyOf network.topology)
  let current ← getOr (.http 404 "Device not found in active devices")
    (states.find? fun s => s.id = device.id.str)
  let t ← env.settings.generatorOf network.topology
  let input := db.planInput network current
  -- of two devices with one key the later one gives the endpoints
  let deviceIdOf := Dict.ofRows (·.publicKey) (·.id) states
  let peers := (t.generatePlan env.settings input).peers.map fun p =>
    p.info env.settings meshOrHybrid
      (input.endpointsByDevice.getD (deviceIdOf.getD p.publicKey "") [])
  let net ← getOr (.internal "ValueError") (IPv4Network.parse network.subnet)
  let response : DeviceConfigV2Response :=
    { interface :=
        { address := current.ipAddress ++ "/" ++ toString net.prefixlen.val, dns := dnsServers }
      peers := peers
      routes := (db.buildRoutesByDevice device.networkId).1
      exitNode := device.exitNodeId.map Uuid.str
      minDaemonVersion := some "0.1.0"
      revision := toString (env.now.tdiv 1000000)
      generatedAt := env.now.isoformat }
  .ok { response with hash := env.security.computeConfigHash response.configData }

@[simp] theorem PeerPlan.info_publicKey (settings : Settings) (b : Bool) (p : PeerPlan)
    (eps : List DeviceEndpoint) : (p.info settings b eps).publicKey = p.publicKey := rfl

@[simp] theorem PeerPlan.info_allowedIps (settings : Settings) (b : Bool) (p : PeerPlan)
    (eps : List DeviceEndpoint) : (p.info settings b eps).allowedIps = p.allowedIps := rfl

end Midscale
