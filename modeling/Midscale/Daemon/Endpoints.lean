import Midscale.Daemon.Delivery
import Midscale.Sessions.Endpoints

/-!
# The way of an endpoint

The daemon's endpoint monitor reports the text `address:port` as its endpoint and the port beside it.
The server stores both and hands both to the other devices, whose runtime appends the port.

* `EndpointMonitor.report_eq_some` : what is reported.
* `PeerPlan.info_of_preferred` : a peer has the endpoint and the port of the preferred candidate.
* `endpoint_never_survives` : **the endpoint that `wg` is given is never the reported `address:port`**:
  the port is there twice.
-/

namespace Midscale

namespace Daemon

/-! ### The monitor -/

/-- `StunResult`, as far as the monitor uses it. -/
structure StunResult where
  publicIp : String
  publicPort : ℤ

/-- `EndpointMonitor`: its configuration, and whether it has STUN servers. -/
structure EndpointMonitor where
  stunEnabled : Bool := true
  hasStunServers : Bool := true
  wgPort : ℤ := 51820

/-- What the network tells the monitor. -/
structure Detection where
  /-- `_get_local_ip`. -/
  localIp : Option String
  /-- `query_stun_servers`. -/
  stun : Option StunResult

/-- What the monitor detects. -/
structure Detected where
  endpoint : String
  source : String
  publicIp : String
  localIp : String

namespace EndpointMonitor

variable (m : EndpointMonitor) (d : Detection)

/-- `f"{address}:{self._config.wg_port}"`. -/
def endpointOf (address : String) : String := address ++ ":" ++ toString m.wgPort

/-- `_detect_endpoint_stun`. -/
def detectStun : Option Detected :=
  if m.stunEnabled ∧ m.hasStunServers then
    d.stun.map fun result =>
      { endpoint := m.endpointOf result.publicIp
        source := "stun"
        publicIp := result.publicIp
        localIp := (d.localIp.filter (· ≠ "")).getD result.publicIp }
  else none

/-- `_detect_endpoint_local`. -/
def detectLocal : Option Detected :=
  (d.localIp.filter (· ≠ "")).map fun localIp =>
    { endpoint := m.endpointOf localIp, source := "local", publicIp := localIp, localIp := localIp }

/-- `_detect_endpoint`. -/
def detect : Option Detected := m.detectStun d <|> m.detectLocal d

/-- The report of one round of `_run_loop`, if there is something new to report. -/
def report (current : Option String) : Option EndpointReport :=
  ((m.detect d).filter fun detected => some detected.endpoint ≠ current).map fun detected =>
    { endpoint := detected.endpoint
      source := detected.source
      port := m.wgPort
      localIp := some detected.localIp
      publicIp := some detected.publicIp }

variable {m d}

/-- **What is reported**: the address and the port in one text, and the port beside it. -/
theorem report_eq_some {current : Option String} {req : EndpointReport}
    (h : m.report d current = some req) : ∃ address, req.publicIp = some address ∧
      req.endpoint = address ++ ":" ++ toString m.wgPort ∧ req.port = m.wgPort := by
  obtain ⟨detected, hdetected, rfl⟩ := Option.map_eq_some_iff.1 h
  rw [Option.filter_eq_some_iff, detect] at hdetected
  refine ⟨detected.publicIp, rfl, ?_, rfl⟩
  rcases (Option.orElse_eq_some _ _ _).1 hdetected.1 with hstun | ⟨-, hlocal⟩
  · rw [detectStun] at hstun
    split_ifs at hstun
    obtain ⟨result, -, rfl⟩ := Option.map_eq_some_iff.1 hstun
    rfl
  · obtain ⟨localIp, -, rfl⟩ := Option.map_eq_some_iff.1 hlocal
    rfl

end EndpointMonitor

/-- The row is the report as the server stores it. -/
def StoredAs (req : EndpointReport) (r : DeviceEndpoint) : Prop :=
  r.endpoint = req.endpoint ∧ r.port = req.port

theorem storedAs_row (req : EndpointReport) (now : Timestamp) (id deviceId : Uuid) :
    StoredAs req (req.row now id deviceId) := ⟨rfl, rfl⟩

end Daemon

/-! ### The server -/

theorem foldl_best_eq {bestId : Option Uuid} {es : List DeviceEndpoint}
    (h : ∀ e ∈ es, some e.id ≠ bestId) {best : Option String × Option ℤ} (hbest : best.1 ≠ none) :
    es.foldl (fun (best : Option String × Option ℤ) (e : DeviceEndpoint) =>
      if best.1 = none ∨ some e.id = bestId then (some e.endpoint, some e.port) else best) best =
      best := by
  induction es with
  | nil => rfl
  | cons e es ih =>
    have hskip : ¬ (best.1 = none ∨ some e.id = bestId) :=
      not_or.2 ⟨hbest, h e List.mem_cons_self⟩
    rw [List.foldl_cons, if_neg hskip]
    exact ih fun e' he' => h e' (List.mem_cons_of_mem _ he')

theorem Database.endpointsOfKey_nodup (db : Database) (networkId : Uuid) (key : String) :
    ((db.endpointsOfKey networkId key).map (·.id)).Nodup := by
  rw [endpointsOfKey, buildEndpointsByDevice, Dict.getD_groupBy, List.map_id']
  have hselect : ∀ q : DeviceEndpoint → Bool, ((db.endpoints.select q).map (·.id)).Nodup :=
    fun q => db.endpoints.pk_nodup.sublist (List.filter_sublist.map _)
  have hsorted : ∀ rows : List DeviceEndpoint, (rows.map (·.id)).Nodup →
      ((sortEndpoints rows).map (·.id)).Nodup := fun rows =>
    ((List.perm_insertionSort _ rows).map _).nodup_iff.2
  exact (hsorted _ (hselect _)).sublist (List.filter_sublist.map _)

/-- **A peer has the endpoint and the port of the preferred candidate.** -/
theorem PeerPlan.info_of_preferred {settings : Settings} {m : Bool} {p : PeerPlan}
    {eps : List DeviceEndpoint} (hnodup : (eps.map (·.id)).Nodup) {r : DeviceEndpoint}
    (hr : r.candidate true ∈ (p.info settings m eps).endpointCandidates) (hne : r.endpoint ≠ "") :
    (p.info settings m eps).endpoint = some r.endpoint ∧
      (p.info settings m eps).endpointPort = orPort (some r.port) p.endpointPort := by
  have henriched : eps ≠ [] ∧ m = true := by
    by_contra hnot
    simp [info, hnot] at hr
  have hperm : (sortEndpointCandidates eps).Perm eps := List.perm_insertionSort _ eps
  obtain ⟨b, rest, hsorted⟩ : ∃ b rest, sortEndpointCandidates eps = b :: rest :=
    List.exists_cons_of_ne_nil fun hnil => henriched.1 (List.nil_perm.1 (hnil ▸ hperm))
  have hbest : selectBestEndpoint eps = some b := by rw [selectBestEndpoint, hsorted]; rfl
  have hids : ((b :: rest).map (·.id)).Nodup := hsorted ▸ (hperm.map _).nodup_iff.2 hnodup
  have hrest : ∀ e ∈ rest, some e.id ≠ some b.id := fun e he heq => by
    rw [List.map_cons, List.nodup_cons, ← Option.some.inj heq] at hids
    exact hids.1 (List.mem_map_of_mem he)
  -- the preferred candidate is that of the best row
  have hcandidate : r.candidate true = b.candidate true := by
    have hmem : r.candidate true = b.candidate true ∨
        ∃ e ∈ rest, e.candidate (decide (e.id = b.id)) = r.candidate true := by
      simpa [info, henriched, hbest, hsorted] using hr
    rcases hmem with heq | ⟨e, he, heq⟩
    · exact heq
    · have hpreferred : decide (e.id = b.id) = true := congrArg EndpointCandidate.preferred heq
      exact absurd (congrArg some (of_decide_eq_true hpreferred)) (hrest e he)
  have hendpoint : r.endpoint = b.endpoint := congrArg EndpointCandidate.endpoint hcandidate
  have hport : r.port = b.port := congrArg EndpointCandidate.port hcandidate
  have hfold : (sortEndpointCandidates eps).foldl
      (fun (best : Option String × Option ℤ) (e : DeviceEndpoint) =>
        if best.1 = none ∨ some e.id = some b.id then (some e.endpoint, some e.port) else best)
      (p.endpoint, p.endpointPort) = (some b.endpoint, some b.port) := by
    rw [hsorted, List.foldl_cons, if_pos (.inr rfl)]
    exact foldl_best_eq hrest (Option.some_ne_none _)
  have htruthy : truthy (some b.endpoint) = true := by
    rw [hendpoint] at hne
    simp [truthy, hne]
  have henr : decide (eps ≠ [] ∧ m = true) = true := decide_eq_true henriched
  simp only [info, henr, ↓reduceIte, hbest, Option.map_some, hfold]
  rw [orText, if_pos htruthy, hendpoint, hport]
  exact ⟨rfl, rfl⟩

namespace Daemon

/-! ### The command -/

variable {σ : Type} {rt : WireGuardRuntime σ}

/-- **The endpoint that `wg` is given is never the reported `address:port`.**  A report of the
monitor is stored, its row is the preferred candidate of a peer in the response to another device,
and that device applies the response: the command for the peer has the port twice. -/
theorem endpoint_never_survives {m : EndpointMonitor} {d : Detection} {current : Option String}
    {req : EndpointReport} (hreq : m.report d current = some req) {r : DeviceEndpoint}
    (hr : StoredAs req r) {env : Env} {db : Database} {device : Device} (hd : device ∈ db.devices)
    {response : DeviceConfigV2Response} (hresponse : buildConfigV2 env db device = .ok response)
    {peer : PeerInfo} (hpeer : peer ∈ response.peers)
    (hpreferred : r.candidate true ∈ peer.endpointCandidates)
    (privateKey : String) (hcodes : rt.Codes) (w : World σ) (interface : String) :
    ∃ address config typed commands, req.publicIp = some address ∧
      parseConfigV2 (pullConfigV2 response.json).config privateKey = some config ∧
      config.typed? = some typed ∧
      (rt.applyConfig w interface typed).1.issued = w.issued ++ commands ∧
      ¬ ∀ c ∈ commands, ∀ ips rest, c.peer? = some (peer.publicKey, ips, rest) →
        optionArg "endpoint" rest = some (address ++ ":" ++ toString m.wgPort) := by
  obtain ⟨address, haddress, hendpoint, -⟩ := EndpointMonitor.report_eq_some hreq
  obtain ⟨network, t, net, -, -, -, -, hpeers⟩ := buildConfigV2_planned hd hresponse
  obtain ⟨config, hparse, htyped⟩ := parseConfigV2_json response privateKey
  obtain ⟨-, commands, hissued, hset⟩ := issued_applyConfig hcodes _
  refine ⟨address, config, _, commands, haddress, hparse, htyped, hissued, fun hall => ?_⟩
  have htext : r.endpoint = address ++ ":" ++ toString m.wgPort := hr.1.trans hendpoint
  have hne : r.endpoint ≠ "" := by
    rw [htext]
    intro h
    simpa using congrArg String.toList h
  -- the command of the peer
  have hcommand : rt.setPeer interface (typedPeer peer) ∈ commands := by
    have hmem : rt.setPeer interface (typedPeer peer) ∈
        (response.peers.map typedPeer).map (rt.setPeer interface) :=
      List.mem_map_of_mem (List.mem_map_of_mem hpeer)
    rw [← hset] at hmem
    exact (List.mem_filter.1 hmem).1
  have harg := hall _ hcommand _ _ (peer?_setPeer (typedPeer peer))
  rw [(optionArg_setPeer _).1] at harg
  have hpreferredEndpoint : peer.endpoint = some r.endpoint := by
    rw [hpeers] at hpeer
    obtain ⟨p, -, rfl⟩ := List.mem_map.1 hpeer
    exact (PeerPlan.info_of_preferred (db.endpointsOfKey_nodup _ _) hpreferred hne).1
  have hpeerEndpoint : (typedPeer peer).endpoint.filter (· ≠ "") = some r.endpoint := by
    rw [typedPeer, hpreferredEndpoint, Option.filter_some, if_pos (decide_eq_true hne)]
  rw [TypedPeer.endpointArg, hpeerEndpoint, Option.map_some, Option.some.injEq, ← htext] at harg
  have hlength := congrArg (fun text => text.toList.length) harg
  simp [String.toList_append] at hlength

/-! ### Two boats -/

/-- A mesh of two boats. -/
def twoBoats : Database where
  networks := .ofRows [
    { id := Uuid.ofNat 70, name := "lake", subnet := "10.7.0.0/24", topology := some "mesh" }]
  devices := .ofRows [
    { id := Uuid.ofNat 71, name := "punt", networkId := Uuid.ofNat 70
      publicKey := some "key-punt", ipAddress := some "10.7.0.2" },
    { id := Uuid.ofNat 72, name := "raft", networkId := Uuid.ofNat 70
      publicKey := some "key-raft", ipAddress := some "10.7.0.3" }]
    (by decide : [Uuid.ofNat 71, Uuid.ofNat 72].Nodup)

/-- The punt. -/
def punt : Device where
  id := Uuid.ofNat 71
  name := "punt"
  networkId := Uuid.ofNat 70
  publicKey := some "key-punt"
  ipAddress := some "10.7.0.2"

/-- What the raft's monitor reports of the address 203.0.113.7. -/
def raftReport : EndpointReport where
  endpoint := "203.0.113.7:51820"
  source := "stun"
  port := 51820
  localIp := some "192.168.1.5"
  publicIp := some "203.0.113.7"

/-- What the request of the raft draws at random. -/
def raftEntropy : Entropy where
  rowId := Uuid.ofNat 73
  serverId := Uuid.ofNat 74
  keyPair := ⟨"", ""⟩
  nonce := ""
  rawPrefix := ""
  secret := ""
  salt := ""
  preauthText := ""

/-- The row of the raft's report. -/
def raftRow : DeviceEndpoint := raftReport.row 0 (Uuid.ofNat 73) (Uuid.ofNat 72)

/-- The boats after the report. -/
def reportedBoats : Database := { twoBoats with endpoints := .ofRows [raftRow] }

theorem raftReport_eq : EndpointMonitor.report {}
    { localIp := some "192.168.1.5", stun := some ⟨"203.0.113.7", 40000⟩ } none =
      some raftReport := rfl

theorem punt_response : ∃ response, buildConfigV2 plainEnv reportedBoats punt = .ok response ∧
    (∃ peer ∈ response.peers, raftRow.candidate true ∈ peer.endpointCandidates) ∧
    response.peers.map (fun p => (typedPeer p).endpointArg) =
      [some "203.0.113.7:51820:51820"] := by
  have hpeers : (buildConfigV2 plainEnv reportedBoats punt).map (fun response =>
      (response.peers.any fun peer => decide (raftRow.candidate true ∈ peer.endpointCandidates),
        response.peers.map fun p => (typedPeer p).endpointArg)) =
      .ok (true, [some "203.0.113.7:51820:51820"]) := by decide
  cases hresponse : buildConfigV2 plainEnv reportedBoats punt with
  | error e => rw [hresponse] at hpeers; cases hpeers
  | ok response =>
    rw [hresponse] at hpeers
    obtain ⟨hany, hargs⟩ := Prod.mk.inj (Except.ok.inj hpeers)
    obtain ⟨peer, hpeer, hmem⟩ := List.any_eq_true.1 hany
    exact ⟨response, rfl, ⟨peer, hpeer, of_decide_eq_true hmem⟩, hargs⟩

/-- The raft's endpoint does not reach the punt. -/
theorem endpoint_never_survives_raft : ∃ response peer,
    buildConfigV2 plainEnv reportedBoats punt = .ok response ∧ peer ∈ response.peers ∧
      ∃ address config typed commands, raftReport.publicIp = some address ∧
        parseConfigV2 (pullConfigV2 response.json).config "key" = some config ∧
        config.typed? = some typed ∧
        ((laptopRuntime fun _ => .code 0).applyConfig { host := some ⟨true, ∅, .empty⟩ } "wg0"
          typed).1.issued = [] ++ commands ∧
        ¬ ∀ c ∈ commands, ∀ ips rest, c.peer? = some (peer.publicKey, ips, rest) →
          optionArg "endpoint" rest = some (address ++ ":" ++ toString (51820 : ℤ)) := by
  obtain ⟨response, hresponse, ⟨peer, hpeer, hpreferred⟩, -⟩ := punt_response
  have hcodes : (laptopRuntime fun _ => .code 0).Codes := fun _ => nofun
  exact ⟨response, peer, hresponse, hpeer, endpoint_never_survives raftReport_eq
    (storedAs_row raftReport 0 (Uuid.ofNat 73) (Uuid.ofNat 72))
    (by decide : punt ∈ reportedBoats.devices) hresponse hpeer hpreferred "key" hcodes
    { host := some ⟨true, ∅, .empty⟩ } "wg0"⟩

/-- **The raft reports 203.0.113.7:51820, and the punt's `wg` gets 203.0.113.7:51820:51820.** -/
theorem raft_port_twice :
    EndpointMonitor.report {}
      { localIp := some "192.168.1.5", stun := some ⟨"203.0.113.7", 40000⟩ } none =
        some raftReport ∧
    (reportEndpoint plainEnv raftEntropy twoBoats (Uuid.ofNat 72) raftReport).map
      (·.2.endpoints.rows) = .ok [raftRow] ∧
    ∃ response config typed commands,
      buildConfigV2 plainEnv reportedBoats punt = .ok response ∧
      parseConfigV2 (pullConfigV2 response.json).config "key" = some config ∧
      config.typed? = some typed ∧
      ((laptopRuntime fun _ => .code 0).applyConfig { host := some ⟨true, ∅, .empty⟩ } "wg0"
        typed).1.issued = [] ++ commands ∧
      (commands.filter fun c => c.peer?.isSome).map
        (fun c => c.peer?.map fun args => optionArg "endpoint" args.2.2) =
          [some (some "203.0.113.7:51820:51820")] := by
  obtain ⟨response, hresponse, -, hargs⟩ := punt_response
  have hcodes : (laptopRuntime fun _ => .code 0).Codes := fun _ => nofun
  obtain ⟨-, -, -, config, typed, -, -, -, hparse, htyped, -, -, -, commands, hissued, hset⟩ :=
    response_delivered (by decide : punt ∈ reportedBoats.devices)
      ⟨IPv4Address.ofOctets 10 7 0 2, by decide⟩ hresponse "key" hcodes
      { host := some ⟨true, ∅, .empty⟩ } "wg0"
  refine ⟨raftReport_eq, by decide, response, config, typed, commands, hresponse, hparse, htyped,
    hissued, ?_⟩
  have hargsSome := congrArg (List.map some) hargs
  rw [List.map_map] at hargsSome
  rw [hset, List.map_map, List.map_map]
  refine Eq.trans (List.map_congr_left fun p _ => ?_) hargsSome
  simp only [Function.comp_apply, peer?_setPeer, Option.map_some, (optionArg_setPeer _).1]

end Daemon

end Midscale
