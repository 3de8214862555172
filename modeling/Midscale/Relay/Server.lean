import Midscale.Data.Datetime
import Midscale.Data.Dict
import Midscale.Data.Json
import Midscale.Relay.Frame
import Midscale.Run.Basic

/-!
# The relay server

`RelayServer` and the part of `RelayProtocol` behind the framing: tokens and the sessions they are
bound to, the connections of devices, and what each message does to them.  `json.loads` is a
parameter: the results hold for every way of reading a body.

* `RelayServer.get?_validTokens_of_reachable` : a token in the table is bound to the session it was
  last added for.
* `handleConnect_eq_connected_iff` : when a `CONNECT` is accepted.
* `connect_authenticated_iff` : **in every reachable state an accepted `CONNECT` has a token that
  was added and the session bound to it, except that a token that is not in the table and the
  session `null` are accepted too.**
-/

namespace Midscale

namespace Relay

/-- What the server keeps in the `RelayProtocol` object of a connection. -/
structure Connection where
  sessionToken : Json := .null
  deviceId : Json := .null
  /-- `_transport` is set. -/
  hasTransport : Bool := true

/-- `RelayServer`, with the protocol objects of all connections by number. -/
structure RelayServer where
  connections : Dict Json.HashKey ℕ := .empty
  heartbeats : Dict Json.HashKey Timestamp := .empty
  /-- Tokens and the session ids they are bound to. -/
  validTokens : Dict String String := .empty
  protocols : Dict ℕ Connection := .empty

/-- The frames written to the transports, by connection. -/
abbrev Sent := List (ℕ × Bytes)

namespace RelayServer

/-- `_send_message` on a connection, which does nothing without a transport. -/
def send (s : RelayServer) (c : ℕ) (msgType : UInt8) (body : Bytes) : Sent :=
  match s.protocols.get? c with
  | some p =>
    if p.hasTransport then
      match RelayProtocol.sendMessage msgType body with
      | some frame => [(c, frame)]
      | none => []
    else []
  | none => []

/-- `add_valid_token`. -/
def addValidToken (s : RelayServer) (token sessionId : String) : RelayServer :=
  { s with validTokens := s.validTokens.set token sessionId }

/-- `_valid_tokens.get(token)` for a hashable value. -/
def storedSession (s : RelayServer) : Json.HashKey → Option String
  | .str token => s.validTokens.get? token
  | _ => none

/-- A stored session id as Python compares it, `None` when there is none. -/
def sessionJson : Option String → Json
  | some sessionId => .str sessionId
  | none => .null

/-- `validate_session`, `none` when it raises `TypeError` on an unhashable token. -/
def validateSession (s : RelayServer) (token sessionId : Json) : Option Bool :=
  token.hashKey?.map fun k => sessionJson (s.storedSession k) = sessionId

/-- `register_connection` under a hashable device id. -/
def registerConnection (s : RelayServer) (deviceId : Json.HashKey) (c : ℕ) (now : Timestamp) :
    RelayServer :=
  { s with
    connections := s.connections.set deviceId c
    heartbeats := s.heartbeats.set deviceId now }

/-- `unregister_connection` under a hashable device id. -/
def unregisterConnection (s : RelayServer) (deviceId : Json.HashKey) : RelayServer :=
  { s with
    connections := s.connections.erase deviceId
    heartbeats := s.heartbeats.erase deviceId
    validTokens := s.validTokens.filter fun e => Json.HashKey.str e.2 ≠ deviceId }

/-- `update_heartbeat` under a hashable device id. -/
def updateHeartbeat (s : RelayServer) (deviceId : Json.HashKey) (now : Timestamp) : RelayServer :=
  { s with heartbeats := s.heartbeats.set deviceId now }

/-- Assigns to the attributes of a protocol object. -/
def modifyProtocol (s : RelayServer) (c : ℕ) (f : Connection → Connection) : RelayServer :=
  match s.protocols.get? c with
  | some p => { s with protocols := s.protocols.set c (f p) }
  | none => s

/-- `remove_expired_tokens`: unregisters the devices without a heartbeat for 120 seconds. -/
def removeExpiredTokens (s : RelayServer) (now : Timestamp) : RelayServer :=
  let stale := (s.heartbeats.items.filter fun e => e.2 < now - Timestamp.seconds 120).map Prod.fst
  stale.foldl unregisterConnection s

end RelayServer

/-! ### Messages -/

/-- How `_handle_connect` ends. -/
inductive ConnectResult where
  | connected
  | rejected
  /-- An exception, which the message handler logs. -/
  | raised
  deriving DecidableEq

/-- A field of the body of a `CONNECT`, `""` when it is missing. -/
def connectField (data : Json) (key : String) : Json := (data.get? key).getD (.str "")

/-- `_handle_connect` on the parsed body. -/
def handleConnect (s : RelayServer) (c : ℕ) (now : Timestamp) (data : Json) :
    RelayServer × ConnectResult :=
  match data with
  | .obj _ =>
    let token := connectField data "token"
    let deviceId := connectField data "device_id"
    let sessionId := connectField data "session_id"
    let s := s.modifyProtocol c fun p => { p with sessionToken := token, deviceId := deviceId }
    match s.validateSession token sessionId with
    | some true =>
      match deviceId.hashKey? with
      | some k => (s.registerConnection k c now, .connected)
      | none => (s, .raised)
    | some false => (s, .rejected)
    | none => (s, .raised)
  | _ => (s, .raised)

/-- The `CONNECT_ACK` for a `CONNECT`. -/
def connectAck (data : Json) : ConnectResult → Option Json
  | .connected => some (.obj [("status", .str "connected"),
      ("session_id", connectField data "session_id"), ("device_id", connectField data "device_id")])
  | .rejected => some (.obj [("status", .str "rejected"),
      ("reason", .str "invalid token or session")])
  | .raised => none

/-- The text of bytes that are valid UTF-8. -/
def decodeUtf8 (b : Bytes) : Option String := String.fromUTF8? ⟨b.toArray⟩

/-- `data.hex()`. -/
def hex (b : Bytes) : String :=
  String.ofList (b.flatMap fun x =>
    [Nat.digitChar (x.toNat / 16), Nat.digitChar (x.toNat % 16)])

/-- `_handle_data`: the forwarded frame, if there is a target. -/
def handleData (s : RelayServer) (c : ℕ) (body : Bytes) : Sent :=
  let header := body.takeWhile (· ≠ 124)
  match body.drop header.length, decodeUtf8 header with
  | _ :: relayData, some target =>
    match s.connections.get? (.str target) with
    | some targetConn =>
      let fromDevice := ((s.protocols.get? c).map (·.deviceId)).getD .null
      s.send targetConn 0x03 (ascii (Json.obj [("from_device_id", fromDevice),
        ("data", .str (hex relayData))]).dumps)
    | none => []
  | _, _ => []

/-- `_handle_disconnect`, `none` when it raises `TypeError` on an unhashable device id. -/
def handleDisconnect (s : RelayServer) (c : ℕ) : Option RelayServer :=
  let deviceId := ((s.protocols.get? c).map (·.deviceId)).getD .null
  let clear (s : RelayServer) :=
    s.modifyProtocol c fun p => { p with sessionToken := .null, deviceId := .null }
  if deviceId.truthy then deviceId.hashKey?.map fun k => clear (s.unregisterConnection k)
  else some (clear s)

/-- `_handle_heartbeat` on the parsed body. -/
def handleHeartbeat (s : RelayServer) (c : ℕ) (now : Timestamp) (data : Json) :
    RelayServer × Sent :=
  match data with
  | .obj _ =>
    let deviceId := ((s.protocols.get? c).map (·.deviceId)).getD .null
    let ack := ascii (Json.obj [("status", .str "ok"), ("timestamp", .str now.isoformat)]).dumps
    if deviceId.truthy then
      match deviceId.hashKey? with
      | some k => (s.updateHeartbeat k now, s.send c 0x08 ack)
      | none => (s, [])
    else (s, s.send c 0x08 ack)
  | _ => (s, [])

section Machine

variable (loads : Bytes → Option Json)

/-- `_handle_message`. -/
def handleMessage (s : RelayServer) (c : ℕ) (now : Timestamp) (payload : Bytes) :
    RelayServer × Sent :=
  if relayMagic.isPrefixOf payload then
    match payload.drop relayMagic.length with
    | [] => (s, [])
    | msgType :: body =>
      -- `PING`, `CONNECT`, `DATA`, `DISCONNECT` and `HEARTBEAT`
      if msgType = 0x01 then (s, s.send c 0x02 [])
      else if msgType = 0x04 then
        match loads body with
        | some data =>
          let (s', result) := handleConnect s c now data
          (s', match connectAck data result with
            | some ack => s'.send c 0x05 (ascii ack.dumps)
            | none => [])
        | none => (s, [])
      else if msgType = 0x03 then (s, handleData s c body)
      else if msgType = 0x06 then ((handleDisconnect s c).getD s, [])
      else if msgType = 0x07 then
        match loads body with
        | some data => handleHeartbeat s c now data
        | none => (s, [])
      else (s, [])
  else (s, [])

/-- What can happen to the server. -/
inductive RelayEvent where
  | connectionMade (c : ℕ)
  /-- A frame arrives on a connection. -/
  | message (c : ℕ) (now : Timestamp) (payload : Bytes)
  | connectionLost (c : ℕ)
  | addValidToken (token sessionId : String)
  /-- The relay heartbeat endpoint of the API. -/
  | apiHeartbeat (deviceId : String) (now : Timestamp)
  | removeExpiredTokens (now : Timestamp)
  | stop

/-- The loop of `stop` over the connections, `false` when an exception ends it. -/
def disconnectAll (s : RelayServer) : List ℕ → RelayServer × Bool
  | [] => (s, true)
  | c :: cs =>
    match handleDisconnect s c with
    | some s' => disconnectAll s' cs
    | none => (s, false)

/-- One event. -/
def relayStep (s : RelayServer) : RelayEvent → RelayServer
  | .connectionMade c => { s with protocols := s.protocols.set c {} }
  | .message c now payload => (handleMessage loads s c now payload).1
  | .connectionLost c =>
    let deviceId := ((s.protocols.get? c).map (·.deviceId)).getD .null
    let lose (s : RelayServer) := s.modifyProtocol c fun p => { p with hasTransport := false }
    if deviceId.truthy then
      match deviceId.hashKey? with
      | some k => lose (s.unregisterConnection k)
      | none => s
    else lose s
  | .addValidToken token sessionId => s.addValidToken token sessionId
  | .apiHeartbeat deviceId now => s.updateHeartbeat (.str deviceId) now
  | .removeExpiredTokens now => s.removeExpiredTokens now
  | .stop =>
    match disconnectAll s (s.connections.items.map Prod.snd) with
    | (s', true) => { s' with connections := .empty, heartbeats := .empty, validTokens := .empty }
    | (s', false) => s'

/-- The session that a token is bound to after one more event. -/
def bindToken (token : String) (bound : Option String) : RelayEvent → Option String
  | .addValidToken t sessionId => if t = token then some sessionId else bound
  | _ => bound

/-- The session that a token was last added for. -/
def boundSession (events : List RelayEvent) (token : String) : Option String :=
  events.foldl (bindToken token) none

end Machine

/-! ### The token table -/

/-- The tokens of `s` are tokens of `s₀`, bound to the same sessions. -/
def RelayServer.TokensFrom (s s₀ : RelayServer) : Prop :=
  ∀ token sessionId, s.validTokens.get? token = some sessionId →
    s₀.validTokens.get? token = some sessionId

namespace RelayServer.TokensFrom

variable {s s₁ s₀ : RelayServer}

theorem of_eq (h : s.validTokens = s₀.validTokens) : s.TokensFrom s₀ := fun _ _ ht => h ▸ ht

theorem trans (h : s.TokensFrom s₁) (h' : s₁.TokensFrom s₀) : s.TokensFrom s₀ :=
  fun t v ht => h' t v (h t v ht)

theorem unregister (s : RelayServer) (k : Json.HashKey) :
    (s.unregisterConnection k).TokensFrom s := fun _ _ ht => (Dict.get?_filter.1 ht).1

end RelayServer.TokensFrom

open RelayServer (TokensFrom)

theorem validTokens_modifyProtocol (s : RelayServer) (c : ℕ) (f : Connection → Connection) :
    (s.modifyProtocol c f).validTokens = s.validTokens := by
  unfold RelayServer.modifyProtocol
  split <;> rfl

theorem validTokens_handleConnect (s : RelayServer) (c : ℕ) (now : Timestamp) (data : Json) :
    (handleConnect s c now data).1.validTokens = s.validTokens := by
  cases data with
  | obj fields =>
    simp only [handleConnect]
    split
    · split
      · simp only [RelayServer.registerConnection, validTokens_modifyProtocol]
      · simp only [validTokens_modifyProtocol]
    · simp only [validTokens_modifyProtocol]
    · simp only [validTokens_modifyProtocol]
  | _ => rfl

theorem tokensFrom_handleDisconnect {s s' : RelayServer} {c : ℕ}
    (h : handleDisconnect s c = some s') : s'.TokensFrom s := by
  simp only [handleDisconnect] at h
  split_ifs at h
  · obtain ⟨k, -, rfl⟩ := Option.map_eq_some_iff.1 h
    exact (TokensFrom.of_eq (validTokens_modifyProtocol ..)).trans (TokensFrom.unregister s k)
  · cases h
    exact TokensFrom.of_eq (validTokens_modifyProtocol ..)

theorem tokensFrom_disconnectAll (s : RelayServer) (cs : List ℕ) :
    (disconnectAll s cs).1.TokensFrom s := by
  induction cs generalizing s with
  | nil => exact TokensFrom.of_eq rfl
  | cons c cs ih =>
    unfold disconnectAll
    split
    · rename_i s' hs'
      exact (ih s').trans (tokensFrom_handleDisconnect hs')
    · exact TokensFrom.of_eq rfl

theorem tokensFrom_handleMessage (loads : Bytes → Option Json) (s : RelayServer) (c : ℕ)
    (now : Timestamp) (payload : Bytes) : (handleMessage loads s c now payload).1.TokensFrom s := by
  have hheartbeat : ∀ data, (handleHeartbeat s c now data).1.validTokens = s.validTokens := by
    intro data
    cases data with
    | obj fields =>
      simp only [handleHeartbeat]
      split_ifs
      · split <;> rfl
      · rfl
    | _ => rfl
  unfold handleMessage
  split_ifs
  · split
    · exact TokensFrom.of_eq rfl
    · split_ifs
      · exact TokensFrom.of_eq rfl
      · split
        · exact TokensFrom.of_eq (validTokens_handleConnect ..)
        · exact TokensFrom.of_eq rfl
      · exact TokensFrom.of_eq rfl
      · cases hd : handleDisconnect s c with
        | none => exact TokensFrom.of_eq rfl
        | some s' => exact tokensFrom_handleDisconnect hd
      · split
        · exact TokensFrom.of_eq (hheartbeat _)
        · exact TokensFrom.of_eq rfl
      · exact TokensFrom.of_eq rfl
  · exact TokensFrom.of_eq rfl

/-- Every event but the adding of a token takes tokens away at most. -/
theorem tokensFrom_relayStep (loads : Bytes → Option Json) (s : RelayServer) {e : RelayEvent}
    (he : ∀ token sessionId, e ≠ .addValidToken token sessionId) :
    (relayStep loads s e).TokensFrom s := by
  cases e with
  | connectionMade c => exact TokensFrom.of_eq rfl
  | message c now payload => exact tokensFrom_handleMessage loads s c now payload
  | connectionLost c =>
    simp only [relayStep]
    split_ifs
    · split
      · rename_i k _
        exact (TokensFrom.of_eq (validTokens_modifyProtocol ..)).trans (TokensFrom.unregister s k)
      · exact TokensFrom.of_eq rfl
    · exact TokensFrom.of_eq (validTokens_modifyProtocol ..)
  | addValidToken token sessionId => exact absurd rfl (he token sessionId)
  | apiHeartbeat deviceId now => exact TokensFrom.of_eq rfl
  | removeExpiredTokens now =>
    have hfold : ∀ (ks : List Json.HashKey) (s : RelayServer),
        (ks.foldl RelayServer.unregisterConnection s).TokensFrom s := by
      intro ks
      induction ks with
      | nil => intro s; exact TokensFrom.of_eq rfl
      | cons k ks ih => intro s; exact (ih _).trans (TokensFrom.unregister s k)
    exact hfold _ s
  | stop =>
    simp only [relayStep]
    have hall := tokensFrom_disconnectAll s (s.connections.items.map Prod.snd)
    split
    · intro token sessionId h
      cases h
    · rename_i s' hs'
      rw [hs'] at hall
      exact hall

/-- **A token in the table is bound to the session it was last added for**, after every run. -/
theorem RelayServer.get?_validTokens_of_reachable (loads : Bytes → Option Json)
    (events : List RelayEvent) {token sessionId : String}
    (h : (run (relayStep loads) {} events).validTokens.get? token = some sessionId) :
    boundSession events token = some sessionId := by
  induction events using List.reverseRecOn generalizing token sessionId with
  | nil => cases h
  | append_singleton events e ih =>
    rw [run_concat] at h
    rw [boundSession, List.foldl_append, List.foldl_cons, List.foldl_nil, ← boundSession]
    -- only the adding of a token binds one
    by_cases he : ∃ t s, e = .addValidToken t s
    · obtain ⟨t, s, rfl⟩ := he
      rw [relayStep, RelayServer.addValidToken, Dict.get?_set] at h
      split_ifs at h with ht
      · rw [← h]; exact if_pos ht.symm
      · rw [← ih h]; exact if_neg (Ne.symm ht)
    · push Not at he
      have hold := ih (tokensFrom_relayStep loads _ he token sessionId h)
      cases e with
      | addValidToken t s => exact absurd rfl (he t s)
      | _ => exact hold

/-! ### Accepted connections -/

theorem storedSession_modifyProtocol (s : RelayServer) (c : ℕ) (f : Connection → Connection)
    (k : Json.HashKey) : (s.modifyProtocol c f).storedSession k = s.storedSession k := by
  cases k <;> simp only [RelayServer.storedSession, validTokens_modifyProtocol]

/-- When a `CONNECT` is accepted: its token and device id are hashable, and its session is the one
in the table, or `null` when there is none. -/
theorem handleConnect_eq_connected_iff {s : RelayServer} {c : ℕ} {now : Timestamp} {data : Json} :
    (handleConnect s c now data).2 = .connected ↔ (∃ fields, data = .obj fields) ∧
      (∃ d, (connectField data "device_id").hashKey? = some d) ∧
      ∃ k, (connectField data "token").hashKey? = some k ∧
        connectField data "session_id" = RelayServer.sessionJson (s.storedSession k) := by
  cases data with
  | obj fields =>
    simp only [handleConnect, RelayServer.validateSession, storedSession_modifyProtocol]
    cases hk : (connectField (.obj fields) "token").hashKey? with
    | none => simp
    | some k =>
      by_cases hs : RelayServer.sessionJson (s.storedSession k) =
          connectField (.obj fields) "session_id"
      · cases hd : (connectField (.obj fields) "device_id").hashKey? <;> simp [hs]
      · have hs' : connectField (.obj fields) "session_id" ≠
            RelayServer.sessionJson (s.storedSession k) := fun h => hs h.symm
        simp [hs, hs']
  | _ => simp [handleConnect]

/-- The token of the frame was added, and its session is the one the token is bound to. -/
def FrameAuthenticated (events : List RelayEvent) (data : Json) : Prop :=
  ∃ token sessionId, connectField data "token" = .str token ∧
    connectField data "session_id" = .str sessionId ∧
    boundSession events token = some sessionId

/-- The frame has the session `null` and a token that is not in the table, and both its token and
its device id are hashable. -/
def NullSession (s : RelayServer) (data : Json) : Prop :=
  (∃ fields, data = .obj fields) ∧ connectField data "session_id" = .null ∧
    (∃ d, (connectField data "device_id").hashKey? = some d) ∧
    ∃ k, (connectField data "token").hashKey? = some k ∧ s.storedSession k = none

/-- **Which frames are authenticated**: in every reachable state, a `CONNECT` is accepted only with
a token that was added and the session bound to it, exactly if it is not a frame with the session
`null` and a token that is not in the table. -/
theorem connect_authenticated_iff (loads : Bytes → Option Json) (events : List RelayEvent) (c : ℕ)
    (now : Timestamp) (data : Json) :
    ((handleConnect (run (relayStep loads) {} events) c now data).2 = .connected →
      FrameAuthenticated events data) ↔
    ¬ NullSession (run (relayStep loads) {} events) data := by
  constructor
  · rintro hauth ⟨hobj, hnull, hdev, k, hk, hnone⟩
    obtain ⟨token, sessionId, -, hs, -⟩ :=
      hauth (handleConnect_eq_connected_iff.2 ⟨hobj, hdev, k, hk, by rw [hnull, hnone]; rfl⟩)
    rw [hnull] at hs
    cases hs
  · intro hnot hconn
    obtain ⟨hobj, hdev, k, hk, hs⟩ := handleConnect_eq_connected_iff.1 hconn
    cases hstored : (run (relayStep loads) {} events).storedSession k with
    | none =>
      rw [hstored] at hs
      exact absurd ⟨hobj, hs, hdev, k, hk, hstored⟩ hnot
    | some sessionId =>
      rw [hstored] at hs
      -- only text keys are in the table, so the token is the text that was added
      cases k with
      | str token =>
        have htoken : connectField data "token" = .str token := by
          revert hk
          cases connectField data "token" with
          | float x => simp only [Json.hashKey?]; split <;> simp
          | _ => simp [Json.hashKey?]
        exact ⟨token, sessionId, htoken, hs,
          RelayServer.get?_validTokens_of_reachable loads events hstored⟩
      | _ => cases hstored

/-- A fresh server accepts and registers a connection with a token nobody added. -/
theorem connect_accepts_null_session :
    let data : Json := .obj [("token", .str "forged"), ("device_id", .str "victim"),
      ("session_id", .null)]
    let server := run (relayStep fun _ => none) {} [.connectionMade 7]
    (handleConnect server 7 0 data).2 = .connected ∧
    (handleConnect server 7 0 data).1.connections.get? (.str "victim") = some 7 ∧
    ¬ FrameAuthenticated [.connectionMade 7] data := by
  refine ⟨by decide, by decide, ?_⟩
  rintro ⟨token, sessionId, -, hs, -⟩
  cases hs

end Relay

end Midscale
