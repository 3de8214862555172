import Midscale.Daemon.Delivery
import Midscale.Daemon.HolePuncher
import Midscale.Daemon.RelayClient
import Midscale.Relay.SessionTokens

/-!
# Joining relay sessions

What makes the daemon send a `CONNECT` to the relay server: the event `relay.fallback`, and a
configuration that marks a peer as relayed.  The answers of the API to requests for a session are a
parameter.

* `WsChannel.handler` : the handlers that the two WebSocket clients dispatch a message to.
* `RelayDaemon.activateRelays` : what `_reconcile_v2` starts for the relayed peers.
* `RelayDaemon.resolvePeerDeviceId_pulled` : no cached configuration of the server tells the id of a
  peer.
* `sessionStep_emptyToken` : the empty text is never a valid token.
* `never_joined` : **on neither occasion does the daemon send a `CONNECT` that the relay server
  accepts.**
-/

namespace Midscale

namespace Daemon

/-! ### The event -/

/-- The handlers of messages. -/
inductive WsHandler where
  | configChanged
  | natPunchRequested
  | natPunchStarted
  | relayFallback
  deriving DecidableEq

/-- The WebSocket clients. -/
inductive WsChannel where
  /-- `WebSocketClient` with `_on_ws_message`. -/
  | webSocket
  /-- `DaemonWebSocketClient`, whose `_on_message` nothing calls. -/
  | daemonWebSocket

/-- The handler that a message is dispatched to. -/
def WsChannel.handler (channel : WsChannel) (data : Json) : Option WsHandler :=
  match data.get? "type" with
  | some (.str "config.changed") => some .configChanged
  | some (.str "nat.punch_requested") => some .natPunchRequested
  | some (.str "nat.punch_started") => some .natPunchStarted
  | some (.str "relay.fallback") =>
    match channel with
    | .webSocket => none
    | .daemonWebSocket => some .relayFallback
  | _ => none

/-- `RelaySessionResult`. -/
structure RelaySessionResult where
  success : Bool
  sessionId : Json := .null
  relayToken : Json := .null

/-- The daemon with a relay client that is connected. -/
structure RelayDaemon where
  relayClient : RelayClient
  /-- `device_id` of the API client. -/
  deviceId : Option String
  /-- `_last_config` of the reconciler, which the first version of the configuration sets. -/
  lastConfig : Option String := none
  /-- What `request_relay_session` returns for a target. -/
  requestRelaySession : Json → RelaySessionResult

/-- `_on_relay_fallback`: the body of the `CONNECT` it sends; where there is no dictionary it
raises. -/
def RelayDaemon.onRelayFallback (d : RelayDaemon) (data : Json) : List Json :=
  match (data.get? "data").getD (.obj []) with
  | .obj fields =>
    let relaySessionId := ((Json.obj fields).get? "relay_session_id").getD (.str "")
    if relaySessionId.truthy then [d.relayClient.connectMessage relaySessionId (.str "")] else []
  | _ => []

/-- The bodies of the `CONNECT`s that a message makes the daemon send; the other handlers trigger a
reconcile step, start a punch or log. -/
def RelayDaemon.onMessage (d : RelayDaemon) (channel : WsChannel) (data : Json) : List Json :=
  match channel.handler data with
  | some .relayFallback => d.onRelayFallback data
  | _ => []

/-! ### The configuration -/

/-- The loop of `_resolve_peer_device_id`; an element that is no dictionary makes it raise. -/
def deviceIdOf (publicKey : Json) : List Json → Json
  | [] => .null
  | p :: ps =>
    match p with
    | .obj _ =>
      if (p.get? "public_key").getD .null = publicKey then (p.get? "device_id").getD .null
      else deviceIdOf publicKey ps
    | _ => .null

/-- `_resolve_peer_device_id`; every exception makes it `None`. -/
def RelayDaemon.resolvePeerDeviceId (d : RelayDaemon) (store : StateStore) (publicKey : Json) :
    Json :=
  if d.lastConfig.any (· ≠ "") then
    match ((store.cache.get? "last_config_v2").filter (· ≠ "")).bind Json.loads with
    | some (.obj fields) =>
      match iterate (((Json.obj fields).get? "peers").getD (.arr [])) with
      | some peers => deviceIdOf publicKey peers
      | none => .null
    | _ => .null
  else .null

/-- `_activate_relay_for_peer`: the body of the `CONNECT` it sends. -/
def RelayDaemon.activateRelayForPeer (d : RelayDaemon) (store : StateStore) (peer : DesiredPeer) :
    List Json :=
  if d.deviceId.any (· ≠ "") ∧ peer.relayCandidates.truthy then
    let targetDeviceId := d.resolvePeerDeviceId store peer.publicKey
    if targetDeviceId.truthy then
      let result := d.requestRelaySession targetDeviceId
      if result.success ∧ result.sessionId.truthy ∧ result.relayToken.truthy then
        [d.relayClient.connectMessage result.sessionId result.relayToken]
      else []
    else []
  else []

/-- The tasks that `_reconcile_v2` starts for the relayed peers of a configuration it attempts.
They run when the step is over, with the cache it leaves. -/
def RelayDaemon.activateRelays (d : RelayDaemon) (h : Host) (i : StepInput) : List Json :=
  match (reconcileV2 h i).2, i.privateKey, i.pull with
  | .attempted, some privateKey, some p =>
    match parseConfigV2 p.config privateKey with
    | some config =>
      (config.peers.filter fun peer => peer.relayRequired.truthy && peer.relayCandidates.truthy)
        |>.flatMap (d.activateRelayForPeer (reconcileV2 h i).1.store)
    | none => []
  | _, _, _ => []


/-! ### What the daemon sends -/

/-- A `CONNECT` among those sent has a token and a session id that the relay server accepts. -/
def Joins (server : Relay.RelayServer) (sent : List Json) : Prop :=
  ∃ body ∈ sent, server.validateSession (Relay.connectField body "token")
    (Relay.connectField body "session_id") = some true

theorem deviceIdOf_eq_null {peers : List Json} (h : ∀ p ∈ peers, p.get? "device_id" = none)
    (publicKey : Json) : deviceIdOf publicKey peers = .null := by
  induction peers with
  | nil => rfl
  | cons p ps ih =>
    have hps := ih fun q hq => h q (List.mem_cons_of_mem _ hq)
    cases p with
    | obj fields =>
      simp only [deviceIdOf, h _ List.mem_cons_self, hps, Option.getD_none, ite_self]
    | _ => rfl

theorem loadable_ofList {α : Type} {f : α → Json} (hf : ∀ a, (f a).loadable = true) (l : List α) :
    (Json.ofList f l).loadable = true := by
  rw [Json.ofList, Json.loadable, Json.elemsLoadable_iff]
  intro x hx
  obtain ⟨a, -, rfl⟩ := List.mem_map.1 hx
  exact hf a

theorem loadable_ofOption {α : Type} {f : α → Json} (hf : ∀ a, (f a).loadable = true)
    (o : Option α) : (Json.ofOption f o).loadable = true := by
  cases o with
  | none => rfl
  | some a => exact hf a

theorem loadable_peerJson (p : PeerInfo) : p.json.loadable = true := by
  have htext : ∀ s, (Json.str s).loadable = true := fun _ => rfl
  have hint : ∀ n, (Json.int n).loadable = true := fun _ => rfl
  have hcandidate : ∀ c : EndpointCandidate, c.json.loadable = true := fun c => by
    simp [EndpointCandidate.json, Json.loadable, Json.fieldsLoadable, loadable_ofOption htext,
      loadable_ofOption hint]
  have hrelay : ∀ c : RelayCandidateInfo, c.json.loadable = true := fun c => by
    simp [RelayCandidateInfo.json, Json.loadable, Json.fieldsLoadable]
  simp [PeerInfo.json, Json.loadable, Json.fieldsLoadable, loadable_ofOption htext,
    loadable_ofOption hint, loadable_ofOption (fun _ => hint _), loadable_ofList htext,
    loadable_ofList hcandidate, loadable_ofOption (loadable_ofList hrelay)]

theorem loads_cacheKey (r : DeviceConfigV2Response) : ∃ fields,
    Json.loads (pullConfigV2 r.json).config.cacheKey = some (.obj fields) ∧
      (Json.obj fields).get? "peers" = some (Json.ofList PeerInfo.json r.peers).sortKeys := by
  have htext : ∀ s, (Json.str s).loadable = true := fun _ => rfl
  have hint : ∀ n, (Json.int n).loadable = true := fun _ => rfl
  have hload : (Json.obj [("interface", r.interface.json),
      ("peers", .ofList PeerInfo.json r.peers), ("routes", .ofList .str r.routes),
      ("exit_node", .ofOption .str r.exitNode)]).loadable = true := by
    simp [InterfaceInfo.json, Json.loadable, Json.fieldsLoadable, loadable_ofOption htext,
      loadable_ofOption (loadable_ofList htext), loadable_ofOption (fun _ => hint _),
      loadable_ofList htext, loadable_ofList loadable_peerJson]
  exact ⟨_, (Json.loads_dumpsSorted hload).trans (congrArg some (ConfigV2.sortKeys_json _ _ _ _)),
    rfl⟩

/-- **No cached configuration of the server tells the id of a peer.** -/
theorem RelayDaemon.resolvePeerDeviceId_pulled (d : RelayDaemon) {store : StateStore}
    {r : DeviceConfigV2Response}
    (hcache : store.cache.get? "last_config_v2" = some (pullConfigV2 r.json).config.cacheKey)
    (publicKey : Json) : d.resolvePeerDeviceId store publicKey = .null := by
  obtain ⟨fields, hloads, hpeers⟩ := loads_cacheKey r
  have hnone : ∀ p ∈ r.peers.map fun p => p.json.sortKeys, p.get? "device_id" = none := by
    intro p hp
    obtain ⟨info, -, rfl⟩ := List.mem_map.1 hp
    exact Json.get?_sortKeys_eq_none rfl
  have hiterate : iterate (Json.ofList PeerInfo.json r.peers).sortKeys =
      some (r.peers.map fun p => p.json.sortKeys) := by
    rw [Json.ofList, Json.sortKeys, Json.sortElems_eq_map, List.map_map]
    rfl
  unfold RelayDaemon.resolvePeerDeviceId
  rw [hcache, Option.filter_some]
  split_ifs
  · rw [Option.bind_some, hloads]
    simp only [hpeers, Option.getD_some, hiterate, deviceIdOf_eq_null hnone]
  · rfl
  · rfl

theorem activateRelays_pulled (d : RelayDaemon) (h : Host) {i : StepInput}
    {r : DeviceConfigV2Response} (hpull : i.pull = some (pullConfigV2 r.json)) :
    d.activateRelays h i = [] := by
  rcases reconcileV2_cases h i with ⟨hne, -⟩ | ⟨key, p, hkey, hp, -, -, hattempted, hstore, -⟩
  · unfold RelayDaemon.activateRelays
    split
    · rename_i hres _ _
      exact absurd hres hne
    · rfl
  · obtain rfl : pullConfigV2 r.json = p := Option.some.inj (hpull.symm.trans hp)
    have hnone := d.resolvePeerDeviceId_pulled (hstore ▸ StateStore.get?_remember h.store _)
    have hpeer : ∀ peer, d.activateRelayForPeer (reconcileV2 h i).1.store peer = [] := by
      intro peer
      simp [RelayDaemon.activateRelayForPeer, hnone, Json.truthy]
    simp only [RelayDaemon.activateRelays, hattempted, hkey, hpull]
    split
    · simp [hpeer]
    · rfl

end Daemon

/-! ### The tokens of the relay server -/

namespace Relay

/-- The token of a new session comes from `secrets.token_urlsafe(32)`. -/
def SessionEvent.TokenDrawn : SessionEvent → Prop
  | .create _ _ relayToken _ _ _ _ => relayToken.length = 43
  | _ => True

variable (loads : Bytes → Option Json)

/-- **The empty text is never a valid token.** -/
theorem sessionStep_emptyToken {s : RelayService} (h : s.server.validTokens.get? "" = none)
    {e : SessionEvent} (he : e.TokenDrawn) :
    (sessionStep loads s e).server.validTokens.get? "" = none := by
  -- whatever takes tokens away at most
  have hfrom : ∀ server : RelayServer, server.TokensFrom s.server →
      server.validTokens.get? "" = none := by
    intro server hserver
    cases hget : server.validTokens.get? "" with
    | none => rfl
    | some sessionId => exact absurd (hserver _ _ hget) (by simp [h])
  have hstored : ∀ result, (s.stored result).server = s.server := by
    intro result
    cases result <;> rfl
  cases e with
  | create now id relayToken initiator target relayRegion told =>
    rw [sessionStep]
    split
    · rename_i row db hcreate
      have htoken : row.relayToken = relayToken := by
        simp only [createRelaySession, bind_eq_ok, Table.add_eq_ok] at hcreate
        obtain ⟨-, -, relaySessions, -, hcreate⟩ := hcreate
        cases hcreate
        rfl
      cases told with
      | false => exact h
      | true =>
        have hne : "" ≠ row.relayToken := by
          rintro heq
          rw [SessionEvent.TokenDrawn, ← htoken, ← heq] at he
          cases he
        simpa [RelayServer.addValidToken, Dict.get?_set_of_ne _ _ hne] using h
    · exact h
  | activate now id => exact (hstored _).symm ▸ h
  | fail now id => exact (hstored _).symm ▸ h
  | expire now id => exact (hstored _).symm ▸ h
  | cleanup now monotonic =>
    exact hfrom _ fun _ _ ht => (RelayServer.get?_removeExpiredTokens.1 ht).1
  | connectionMade c => exact hfrom _ (tokensFrom_relayStep loads _ fun _ _ he => by cases he)
  | frame c now payload => exact hfrom _ (tokensFrom_relayStep loads _ fun _ _ he => by cases he)
  | connectionLost c => exact hfrom _ (tokensFrom_relayStep loads _ fun _ _ he => by cases he)

theorem run_emptyToken {s : RelayService} (h : s.server.validTokens.get? "" = none)
    {events : List SessionEvent} (hdrawn : ∀ e ∈ events, e.TokenDrawn) :
    (run (sessionStep loads) s events).server.validTokens.get? "" = none := by
  induction events generalizing s with
  | nil => exact h
  | cons e events ih =>
    rw [run_cons]
    exact ih (sessionStep_emptyToken loads h (hdrawn e List.mem_cons_self))
      fun e' he' => hdrawn e' (List.mem_cons_of_mem e he')

end Relay

namespace Daemon

theorem not_joins_onMessage {server : Relay.RelayServer}
    (hserver : server.validTokens.get? "" = none) (d : RelayDaemon) (channel : WsChannel)
    (data : Json) : ¬ Joins server (d.onMessage channel data) := by
  have hfallback : ¬ Joins server (d.onRelayFallback data) := by
    unfold RelayDaemon.onRelayFallback
    split
    · rename_i fields _
      dsimp only
      split_ifs with htruthy
      · rintro ⟨body, hbody, hvalid⟩
        rw [List.mem_singleton.1 hbody] at hvalid
        -- no session is stored for the empty token, and the frame names one
        have hnull : Json.null = ((Json.obj fields).get? "relay_session_id").getD (.str "") := by
          simpa [Relay.RelayServer.validateSession, RelayClient.connectMessage, Relay.connectField,
            Json.get?, Json.hashKey?, Relay.RelayServer.storedSession, hserver,
            Relay.RelayServer.sessionJson] using hvalid
        rw [← hnull] at htruthy
        cases htruthy
      · rintro ⟨body, hbody, -⟩
        cases hbody
    · rintro ⟨body, hbody, -⟩
      cases hbody
  unfold RelayDaemon.onMessage
  split
  · exact hfallback
  · rintro ⟨body, hbody, -⟩
    cases hbody

/-- **No relay session is joined**: in every run of the relay service, neither the event of a
fallback nor a configuration of the server makes the daemon send a `CONNECT` that is accepted. -/
theorem never_joined (loads : Bytes → Option Json) (db : Database)
    {events : List Relay.SessionEvent} (hdrawn : ∀ e ∈ events, e.TokenDrawn) (d : RelayDaemon) :
    (∀ (s : NATSession) (r : RelaySession) (event : BusEvent) (channel : WsChannel),
      event.toEvent = s.relayFallback r →
        ¬ Joins (run (Relay.sessionStep loads) { db := db } events).server
          (d.onMessage channel event.toDict)) ∧
      ∀ (h : Host) (i : StepInput) (r : DeviceConfigV2Response),
        i.pull = some (pullConfigV2 r.json) →
          ¬ Joins (run (Relay.sessionStep loads) { db := db } events).server
            (d.activateRelays h i) := by
  have hempty := Relay.run_emptyToken loads (s := { db := db }) rfl hdrawn
  refine ⟨fun _ _ event channel _ => not_joins_onMessage hempty d channel event.toDict, ?_⟩
  intro h i r hpull
  rw [activateRelays_pulled d h hpull]
  rintro ⟨body, hbody, -⟩
  cases hbody

/-! ### Two devices that cannot reach each other -/

/-- A crane and a barge, after one failed punch. -/
def wharf : Database where
  devices := .ofRows [
    { id := Uuid.ofNat 104, name := "crane", networkId := Uuid.ofNat 106 },
    { id := Uuid.ofNat 105, name := "barge", networkId := Uuid.ofNat 106 }]
    (by decide : [Uuid.ofNat 104, Uuid.ofNat 105].Nodup)
  natSessions := .ofRows
    [{ id := Uuid.ofNat 107, initiatorDeviceId := Uuid.ofNat 104
       targetDeviceId := Uuid.ofNat 105, extraMetadata := some { failureCount := some 1 } }]
    (List.nodup_singleton _)

/-- The second failure draws the id and the token of a relay session. -/
def wharfEntropy : Entropy where
  rowId := Uuid.ofNat 108
  serverId := Uuid.ofNat 109
  keyPair := ⟨"", ""⟩
  nonce := ""
  rawPrefix := ""
  secret := ""
  salt := ""
  preauthText := ""
  relayToken := "k3Qw8ZrT1vXy5LmN7pBs2DfGh4JcRaEu6WtYi0OxVnM"

/-- The relay session of the two. -/
def wharfRelay : RelaySession :=
  .fresh 0 (Uuid.ofNat 108) wharfEntropy.relayToken (Uuid.ofNat 104) (Uuid.ofNat 105) "default"

/-- Its creation. -/
def wharfEvents : List Relay.SessionEvent :=
  [.create 0 (Uuid.ofNat 108) wharfEntropy.relayToken (Uuid.ofNat 104) (Uuid.ofNat 105) "default"
    true]

/-- The daemon of the crane, which is granted every session it asks for. -/
def crane : RelayDaemon where
  relayClient := { deviceId := (Uuid.ofNat 104).str, deviceToken := "crane" }
  deviceId := some (Uuid.ofNat 104).str
  lastConfig := some "[Interface]"
  requestRelaySession := fun _ =>
    { success := true
      sessionId := .str (Uuid.ofNat 108).str
      relayToken := .str wharfEntropy.relayToken }

theorem never_joined_wharf :
    (∀ (s : NATSession) (r : RelaySession) (event : BusEvent) (channel : WsChannel),
      event.toEvent = s.relayFallback r →
        ¬ Joins (run (Relay.sessionStep fun _ => none) { db := wharf } wharfEvents).server
          (crane.onMessage channel event.toDict)) ∧
      ∀ (h : Host) (i : StepInput) (r : DeviceConfigV2Response),
        i.pull = some (pullConfigV2 r.json) →
          ¬ Joins (run (Relay.sessionStep fun _ => none) { db := wharf } wharfEvents).server
            (crane.activateRelays h i) :=
  never_joined (fun _ => none) wharf (fun e he => by
    rw [List.mem_singleton.1 he]
    exact (by decide : wharfEntropy.relayToken.length = 43)) crane

/-- A configuration that relays the barge. -/
def wharfConfig : DeviceConfigV2Response where
  interface := { address := "10.9.0.2/24" }
  peers :=
    [{ publicKey := "barge-key"
       relayFallback := true
       relayCandidates := some [⟨"relay0", "default", "relay0:8765", 100, true⟩]
       relayRequired := true }]

/-- It reaches the daemon. -/
def wharfStep : StepInput where
  now := 0
  keyFile := some "crane-key"
  pull := some (pullConfigV2 wharfConfig.json)
  outcome := { up := true, created := true, ok := true }

/-- The event of the second failure. -/
def wharfFallback : BusEvent where
  toEvent := NATSession.relayFallback
    { id := Uuid.ofNat 107, initiatorDeviceId := Uuid.ofNat 104, targetDeviceId := Uuid.ofNat 105 }
    wharfRelay
  eventId := "1"
  createdAt := ""
  loadable := by decide

/-- The second failure creates a session that the relay server would let the crane join.  Its event
and a configuration that relays the barge reach the daemon, which does not join. -/
theorem relay_not_joined :
    (∃ s db', recordPunchResult 0 wharf wharfEntropy (Uuid.ofNat 107) { success := false } =
        .ok (some (s, some wharfRelay), db') ∧
      wharfFallback.toEvent = s.relayFallback wharfRelay) ∧
      (run (Relay.sessionStep fun _ => none) { db := wharf } wharfEvents).server.validateSession
        (.str wharfRelay.relayToken) (.str wharfRelay.id.str) = some true ∧
      crane.onMessage .webSocket wharfFallback.toDict = [] ∧
      crane.onMessage .daemonWebSocket wharfFallback.toDict =
        [crane.relayClient.connectMessage (.str wharfRelay.id.str) (.str "")] ∧
      (run (Relay.sessionStep fun _ => none) { db := wharf } wharfEvents).server.validateSession
        (.str "") (.str wharfRelay.id.str) = some false ∧
      (reconcileV2 {} wharfStep).2 = .attempted ∧ crane.activateRelays {} wharfStep = [] :=
  ⟨⟨_, _, rfl, rfl⟩, by decide, by decide, by decide, by decide, by decide,
    activateRelays_pulled crane {} rfl⟩

end Daemon

end Midscale
