import Midscale.Api.Auth
import Midscale.Events.Bus
import Midscale.Events.Sockets

/-!
# Pushing events to sockets

`bridge_event`, the handler that `app.main` gives to the event bus, broadcasts every event to all
WebSocket connections and then sends a `config.changed` event to the daemon of the device it
names.  A daemon's socket is one of the connections that are broadcast to.

* `bridgeEvent` : the handler.
* `websocketEndpoint`, `daemonWebsocketEndpoint` : the two ways into the connections.
* `pushed_once_iff` : when a `config.changed` event reaches the daemon of its device exactly once
  and no other daemon.
* `events_reach_admitted` : every socket that an event is sent to was admitted by one of the
  handshakes, on a valid token or, on `/ws`, on none; apart from sockets that the scan for legacy
  tokens admits on the secret of a token alone (`PushStep.PresentsSecret`).
-/

namespace Midscale

/-- `CONFIG_CHANGED`. -/
def configChanged : String := "config.changed"

/-- `(event.data or {}).get("device_id", "")`, if it is a text and not empty.  Another value is no
key of `_daemon_connections`. -/
def BusEvent.targetDeviceId (event : BusEvent) : Option String :=
  match (Json.obj event.data).get? "device_id" with
  | some (.str deviceId) => if deviceId ≠ "" then some deviceId else none
  | _ => none

section

variable {ω : Type} [DecidableEq ω]

/-- `bridge_event` with a manager, where `accepts` and `acceptsTargeted` say which sends of the
broadcast and of the targeted push go through: the sends and the connections that are left. -/
def bridgeEvent (order : SetOrder ω) (accepts acceptsTargeted : ω → Bool)
    (m : WebSocketConnectionManager ω) (event : BusEvent) :
    List (Send ω) × WebSocketConnectionManager ω :=
  let (sends, m) := m.broadcast order accepts event.toDict
  if event.eventType = configChanged then
    match event.targetDeviceId with
    | some deviceId =>
      let (_, pushed, m) := m.sendToDevice acceptsTargeted deviceId event.toDict
      (sends ++ pushed, m)
    | none => (sends, m)
  else (sends, m)

/-- How often a message went through to a socket. -/
def timesSent (ws : ω) (sends : List (Send ω)) : ℕ :=
  sends.countP fun s => decide (s.socket = ws) && s.ok

/-! ### One event -/

variable {order : SetOrder ω} {accepts acceptsTargeted : ω → Bool}
  {m : WebSocketConnectionManager ω} {event : BusEvent}

theorem timesSent_broadcast (ws : ω) (message : Json) :
    timesSent ws (m.broadcast order accepts message).1 =
      if ws ∈ m.connections ∧ accepts ws = true then 1 else 0 := by
  have hcount : timesSent ws (m.broadcast order accepts message).1 =
      (order.elems m.connections).countP fun ws' => decide (ws' = ws) && accepts ws' := by
    rw [timesSent, WebSocketConnectionManager.broadcast, List.countP_map]
    rfl
  rw [hcount]
  cases hacc : accepts ws with
  | false =>
    rw [if_neg (by simp), List.countP_eq_zero]
    rintro ws' - hws'
    rw [Bool.and_eq_true, decide_eq_true_eq] at hws'
    rw [hws'.1, hacc] at hws'
    cases hws'.2
  | true =>
    have hsame : (fun ws' => decide (ws' = ws) && accepts ws') = fun ws' => decide (ws' = ws) := by
      funext ws'
      by_cases hws' : ws' = ws
      · simp [hws', hacc]
      · simp [hws']
    have hcount : (order.elems m.connections).countP (fun ws' => decide (ws' = ws)) =
        (order.elems m.connections).count ws := by
      rw [List.count_eq_countP]
      rfl
    rw [hsame, hcount, (order.nodup _).count]
    simp [order.mem_elems]

theorem timesSent_sendToDevice (ws : ω) (deviceId : String) (message : Json) :
    timesSent ws (m.sendToDevice acceptsTargeted deviceId message).2.1 =
      if m.daemonConnections.get? deviceId = some ws ∧ acceptsTargeted ws = true then 1 else 0 := by
  unfold WebSocketConnectionManager.sendToDevice
  cases hentry : m.daemonConnections.get? deviceId with
  | none => simp [timesSent]
  | some ws' =>
    have hpush : timesSent ws [(⟨ws', message.dumps, acceptsTargeted ws'⟩ : Send ω)] =
        if ws' = ws ∧ acceptsTargeted ws' = true then 1 else 0 := by
      simp only [timesSent, List.countP_singleton, Bool.and_eq_true, decide_eq_true_eq]
    have hcond : (ws' = ws ∧ acceptsTargeted ws' = true) ↔
        (some ws' = some ws ∧ acceptsTargeted ws = true) := by
      rw [Option.some.injEq]
      refine and_congr_right fun h => ?_
      rw [h]
    refine Eq.trans ?_ (hpush.trans (if_congr hcond rfl rfl))
    dsimp only
    split_ifs <;> rfl

theorem timesSent_bridgeEvent (h : m.Consistent) {deviceId : String}
    (htype : event.eventType = configChanged) (htarget : event.targetDeviceId = some deviceId)
    (ws : ω) : timesSent ws (bridgeEvent order accepts acceptsTargeted m event).1 =
      (if ws ∈ m.connections ∧ accepts ws = true then 1 else 0) +
        if m.daemonConnections.get? deviceId = some ws ∧ accepts ws = true ∧
          acceptsTargeted ws = true then 1 else 0 := by
  have hsends : (bridgeEvent order accepts acceptsTargeted m event).1 =
      (m.broadcast order accepts event.toDict).1 ++
        ((m.broadcast order accepts event.toDict).2.sendToDevice acceptsTargeted deviceId
          event.toDict).2.1 := by
    simp only [bridgeEvent, if_pos htype, htarget]
  rw [hsends, timesSent, List.countP_append]
  refine congrArg₂ (· + ·) (timesSent_broadcast ws _) ((timesSent_sendToDevice ws _ _).trans ?_)
  -- the entry is still there if the broadcast went through
  simp only [h.get?_broadcast, and_assoc]

/-- A message goes through once to the socket registered for the device, if there is one, and to
no socket that was opened for another device. -/
def PushedOnce (calls : List (SocketCall ω)) (deviceId : String) (sends : List (Send ω)) : Prop :=
  (∀ ws, (connectionsAfter calls).daemonConnections.get? deviceId = some ws →
    timesSent ws sends = 1) ∧
  ∀ ws d, d ≠ deviceId → .connectDaemon ws d ∈ calls → timesSent ws sends = 0

/-- **Targeted push.**  After any calls in which each socket is connected once, a `config.changed`
event for a device goes through once to the socket registered for the device and to no other
daemon's socket, if and only if no connected socket of another device's daemon accepts the
broadcast and the registered socket, if there is one, accepts the broadcast and not the targeted
send. -/
theorem pushed_once_iff {calls : List (SocketCall ω)}
    (h : (calls.filterMap SocketCall.opens).Nodup) (order : SetOrder ω)
    (accepts acceptsTargeted : ω → Bool) {event : BusEvent} {deviceId : String}
    (htype : event.eventType = configChanged) (htarget : event.targetDeviceId = some deviceId) :
    PushedOnce calls deviceId
        (bridgeEvent order accepts acceptsTargeted (connectionsAfter calls) event).1 ↔
      (∀ ws d, d ≠ deviceId → .connectDaemon ws d ∈ calls →
        ws ∈ (connectionsAfter calls).connections → accepts ws = false) ∧
      ∀ ws, (connectionsAfter calls).daemonConnections.get? deviceId = some ws →
        accepts ws = true ∧ acceptsTargeted ws = false := by
  obtain ⟨hconsistent, hlatest⟩ := connectionsAfter_consistent h
  have hsent : ∀ ws, timesSent ws
      (bridgeEvent order accepts acceptsTargeted (connectionsAfter calls) event).1 = _ :=
    timesSent_bridgeEvent hconsistent htype htarget
  -- a socket that was opened for another device is not the registered one
  have hother : ∀ ws d, d ≠ deviceId → .connectDaemon ws d ∈ calls →
      (connectionsAfter calls).daemonConnections.get? deviceId ≠ some ws := by
    intro ws d hd hcall hentry
    obtain ⟨call, hcall', hopens⟩ :=
      List.mem_filterMap.1 (List.mem_of_getLast? (hlatest deviceId ws hentry))
    have hsame := opens_unique h hcall hcall' rfl (opens_of_opensFor hopens)
    rw [← hsame] at hopens
    simp only [SocketCall.opensFor, Option.ite_none_right_eq_some] at hopens
    exact hd hopens.1
  rw [PushedOnce, and_comm]
  refine and_congr ?_ ?_
  · refine forall_congr' fun ws => forall_congr' fun d => forall_congr' fun hd =>
      forall_congr' fun hcall => ?_
    rw [hsent ws]
    have hnot := hother ws d hd hcall
    cases hacc : accepts ws <;> simp [hnot]
  · refine forall_congr' fun ws => forall_congr' fun hentry => ?_
    have hmember := hconsistent.connected hentry
    rw [hsent ws]
    cases hacc : accepts ws <;> cases hpush : acceptsTargeted ws <;> simp [hmember, hentry]

end

/-- The configuration of the boat has changed. -/
def boatChanged : BusEvent where
  eventType := "config.changed"
  data := [("device_id", .str "boat"), ("reason", .str "endpoint_reported")]
  eventId := "e2"
  createdAt := "2026-01-01T00:00:00+00:00"
  loadable := by decide

/-- An admin and the daemon of the boat are connected, and the daemon's socket fails between the two
sends: the event reaches it once. -/
theorem pushed_once_boat :
    let calls : List (SocketCall ℕ) := [.connect 9, .connectDaemon 1 "boat"]
    let sends := (bridgeEvent (.dedup ℕ) (fun _ => true) (fun ws => ws ≠ 1) (connectionsAfter calls)
      boatChanged).1
    (connectionsAfter calls).daemonConnections.get? "boat" = some 1 ∧ PushedOnce calls "boat" sends := by
  refine ⟨by decide,
    (pushed_once_iff (by decide) _ _ _ rfl rfl).2 ⟨fun ws d hd hcall => ?_, fun ws hentry => ?_⟩⟩
  · -- the one daemon is the boat's
    simp only [List.mem_cons, SocketCall.connectDaemon.injEq, List.not_mem_nil, or_false,
      reduceCtorEq, false_or] at hcall
    exact absurd hcall.2 hd
  · obtain rfl : ws = 1 := (Option.some.inj hentry).symm
    exact ⟨rfl, rfl⟩

/-- With the daemons of a boat and of a punt connected, the event about the boat is sent to the
boat's daemon twice and to the punt's daemon too. -/
theorem pushed_to_everyone :
    let calls : List (SocketCall ℕ) := [.connectDaemon 1 "boat", .connectDaemon 2 "punt"]
    let sends := (bridgeEvent (.dedup ℕ) (fun _ => true) (fun _ => true) (connectionsAfter calls)
      boatChanged).1
    (connectionsAfter calls).daemonConnections.get? "boat" = some 1 ∧ timesSent 1 sends = 2 ∧
      timesSent 2 sends = 1 ∧ ¬ PushedOnce calls "boat" sends := by
  intro calls sends
  have htwice : timesSent 1 sends = 2 := by decide
  refine ⟨by decide, htwice, by decide, fun hpushed => ?_⟩
  have honce := hpushed.1 1 (by decide)
  rw [htwice] at honce
  cases honce

/-! ### Handshakes -/

/-- How a handshake is refused. -/
inductive Refusal where
  | closed (code : ℕ) (reason : String)
  | raised (e : ApiError)
  deriving DecidableEq, Repr

section

variable {ω : Type} [DecidableEq ω]

/-- `websocket_endpoint` up to its loop. -/
def websocketEndpoint (env : Env) (manager : Option (WebSocketConnectionManager ω)) (ws : ω)
    (token : Option String) : Except Refusal (WebSocketConnectionManager ω) :=
  match manager with
  | none => .error (.closed 1011 "")
  | some m =>
    match token.filter (· ≠ "") with
    | none => .ok (m.connect ws)
    | some token =>
      match env.accessPayload token with
      | none => .error (.closed 1008 "")
      | some _ => .ok (m.connect ws)

/-- `daemon_websocket_endpoint` up to its loop. -/
def daemonWebsocketEndpoint (env : Env) (db : Database)
    (manager : Option (WebSocketConnectionManager ω)) (ws : ω) (token : Option String) :
    Except Refusal (WebSocketConnectionManager ω) :=
  match manager with
  | none => .error (.closed 1011 "")
  | some m =>
    match token.filter (· ≠ "") with
    | none => .error (.closed 1008 "Device token required")
    | some token =>
      match lookupDeviceByToken env db token with
      | .error e => .error (.raised e)
      | .ok none => .error (.closed 1008 "Invalid device token")
      | .ok (some device) =>
        if device.enrollmentStatus ≠ "active" then
          .error (.closed 1008 ("Device status is '" ++ device.enrollmentStatus ++ "'"))
        else .ok (m.connectDaemon ws device.id.str)

end

/-- A step of the process that serves the sockets. -/
inductive PushStep (ω : Type) where
  /-- The start of the application. -/
  | startup
  | websocket (ws : ω) (token : Option String) (env : Env)
  | daemonWebsocket (ws : ω) (token : Option String) (env : Env) (db : Database)
  | disconnect (ws : ω)
  /-- An event reaches `bridge_event`. -/
  | event (order : SetOrder ω) (accepts acceptsTargeted : ω → Bool) (event : BusEvent)

/-- The process, with the sends so far. -/
structure PushState (ω : Type) where
  /-- `_ws_manager`. -/
  manager : Option (WebSocketConnectionManager ω) := none
  /-- The sockets that events were sent to, with the events. -/
  sent : List (ω × BusEvent) := []

section

variable {ω : Type} [DecidableEq ω]

/-- The process after a step.  A refused handshake leaves the connections alone. -/
def PushState.step (s : PushState ω) : PushStep ω → PushState ω
  | .startup => { s with manager := some .init }
  | .websocket ws token env =>
    match websocketEndpoint env s.manager ws token with
    | .ok m => { s with manager := some m }
    | .error _ => s
  | .daemonWebsocket ws token env db =>
    match daemonWebsocketEndpoint env db s.manager ws token with
    | .ok m => { s with manager := some m }
    | .error _ => s
  | .disconnect ws => { s with manager := s.manager.map (·.disconnect ws) }
  | .event order accepts acceptsTargeted event =>
    match s.manager with
    | none => s
    | some m =>
      let (sends, m) := bridgeEvent order accepts acceptsTargeted m event
      { manager := some m, sent := s.sent ++ sends.map fun send => (send.socket, event) }

end

/-- The socket presents a valid access token on `/ws`, or on `/daemon/ws` the token of an active
device whose enrollment is active. -/
def PushStep.Authenticates {ω : Type} (ws : ω) : PushStep ω → Prop
  | .websocket ws' token env => ws' = ws ∧ ∃ t, token = some t ∧ (env.accessPayload t).isSome = true
  | .daemonWebsocket ws' token env db => ws' = ws ∧ ∃ t d, token = some t ∧ d ∈ db.devices ∧
      d.isActive = true ∧ d.enrollmentStatus = "active" ∧ d.IsToken env t
  | _ => False

/-- The socket presents on `/daemon/ws` a text that verifies as a whole against the hash of an active
device with a prefix, as the secret of its token does.  The scan for tokens without a prefix finds
the device by it. -/
def PushStep.PresentsSecret {ω : Type} (ws : ω) : PushStep ω → Prop
  | .daemonWebsocket ws' token env db => ws' = ws ∧ ∃ t d, token = some t ∧ d ∈ db.devices ∧
      d.isActive = true ∧ d.deviceTokenPrefix ≠ none ∧ d.verifySecret env t = .ok true
  | _ => False

/-- The socket presents no token, or an empty one, on `/ws`. -/
def PushStep.Anonymous {ω : Type} (ws : ω) : PushStep ω → Prop
  | .websocket ws' token _ => ws' = ws ∧ token.filter (· ≠ "") = none
  | _ => False

namespace WebSocketConnectionManager

variable {ω : Type}

/-- A socket that something can be sent to. -/
def Holds (m : WebSocketConnectionManager ω) (ws : ω) : Prop :=
  ws ∈ m.connections ∨ ∃ d, m.daemonConnections.get? d = some ws

variable [DecidableEq ω] {m : WebSocketConnectionManager ω} {ws : ω}

theorem Holds.of_connect {ws' : ω} (h : (m.connect ws').Holds ws) : ws = ws' ∨ m.Holds ws := by
  rcases h with hmem | hentry
  · rcases List.mem_insert_iff.1 hmem with rfl | hmem
    · exact .inl rfl
    · exact .inr (.inl hmem)
  · exact .inr (.inr hentry)

theorem Holds.of_connectDaemon {ws' : ω} {deviceId : String}
    (h : (m.connectDaemon ws' deviceId).Holds ws) : ws = ws' ∨ m.Holds ws := by
  rcases h with hmem | ⟨d, hentry⟩
  · exact Holds.of_connect (.inl hmem)
  · change (m.daemonConnections.set deviceId ws').get? d = some ws at hentry
    rw [Dict.get?_set] at hentry
    split_ifs at hentry
    · exact .inl (Option.some.inj hentry).symm
    · exact .inr (.inr ⟨d, hentry⟩)

theorem Holds.of_forget {ws' : ω} (h : (m.forget ws').Holds ws) : m.Holds ws := by
  rcases h with hmem | ⟨d, hentry⟩
  · exact .inl (List.mem_of_mem_erase hmem)
  · exact .inr ⟨d, Dict.get?_of_eraseValue hentry⟩

theorem Holds.of_forget_all {l : List ω} (h : (l.foldl forget m).Holds ws) : m.Holds ws := by
  induction l generalizing m with
  | nil => exact h
  | cons ws' l ih => exact (ih h).of_forget

theorem Holds.of_sendToDevice {accepts : ω → Bool} {deviceId : String} {message : Json}
    (h : (m.sendToDevice accepts deviceId message).2.2.Holds ws) : m.Holds ws := by
  rcases h with hmem | ⟨d, hentry⟩
  · exact .inl (mem_sendToDevice hmem)
  · exact .inr ⟨d, (get?_sendToDevice.1 hentry).1⟩

theorem Holds.of_broadcast {order : SetOrder ω} {accepts : ω → Bool} {message : Json}
    (h : (m.broadcast order accepts message).2.Holds ws) : m.Holds ws := h.of_forget_all

/-- What an event is sent to was held, and nothing else is held afterwards. -/
theorem holds_bridgeEvent (order : SetOrder ω) (accepts acceptsTargeted : ω → Bool)
    (m : WebSocketConnectionManager ω) (event : BusEvent) :
    (∀ send ∈ (bridgeEvent order accepts acceptsTargeted m event).1, m.Holds send.socket) ∧
      ∀ ws, (bridgeEvent order accepts acceptsTargeted m event).2.Holds ws → m.Holds ws := by
  have hbroadcast : ∀ send ∈ (m.broadcast order accepts event.toDict).1, m.Holds send.socket := by
    intro send hsend
    obtain ⟨ws, hws, rfl⟩ := List.mem_map.1 hsend
    exact .inl (order.mem_elems.1 hws)
  have hpush : ∀ (m' : WebSocketConnectionManager ω) deviceId,
      ∀ send ∈ (m'.sendToDevice acceptsTargeted deviceId event.toDict).2.1,
        m'.Holds send.socket := by
    intro m' deviceId send hsend
    unfold sendToDevice at hsend
    split at hsend
    · cases hsend
    · rename_i ws hentry
      dsimp only at hsend
      have hsocket : send.socket = ws := by
        split_ifs at hsend <;> rw [List.mem_singleton.1 hsend]
      exact .inr ⟨deviceId, hsocket ▸ hentry⟩
  unfold bridgeEvent
  dsimp only
  split_ifs
  · split
    · rename_i deviceId _
      refine ⟨fun send hsend => ?_, fun ws hws => hws.of_sendToDevice.of_broadcast⟩
      rcases List.mem_append.1 hsend with hsend | hsend
      · exact hbroadcast send hsend
      · exact (hpush _ deviceId send hsend).of_broadcast
    · exact ⟨hbroadcast, fun ws hws => hws.of_broadcast⟩
  · exact ⟨hbroadcast, fun ws hws => hws.of_broadcast⟩

end WebSocketConnectionManager

section

open WebSocketConnectionManager

variable {ω : Type} [DecidableEq ω]

theorem websocketEndpoint_eq_ok {env : Env} {manager : Option (WebSocketConnectionManager ω)}
    {ws : ω} {token : Option String} {m' : WebSocketConnectionManager ω}
    (h : websocketEndpoint env manager ws token = .ok m') :
    ∃ m, manager = some m ∧ m' = m.connect ws ∧
      ((PushStep.websocket ws token env).Authenticates ws ∨
        (PushStep.websocket ws token env).Anonymous ws) := by
  unfold websocketEndpoint at h
  split at h
  · cases h
  · rename_i m
    split at h
    · rename_i htoken
      exact ⟨m, rfl, (Except.ok.inj h).symm, .inr ⟨rfl, htoken⟩⟩
    · rename_i t htoken
      split at h
      · cases h
      · rename_i payload hpayload
        have ht : token = some t := (Option.filter_eq_some_iff.1 htoken).1
        exact ⟨m, rfl, (Except.ok.inj h).symm, .inl ⟨rfl, t, ht, by rw [hpayload]; rfl⟩⟩

/-- A handshake on `/daemon/ws` connects its socket for an active device whose token it is, or
whose secret. -/
theorem daemonWebsocketEndpoint_eq_ok {env : Env} {db : Database}
    {manager : Option (WebSocketConnectionManager ω)} {ws : ω} {token : Option String}
    {m' : WebSocketConnectionManager ω}
    (h : daemonWebsocketEndpoint env db manager ws token = .ok m') :
    ∃ m deviceId, manager = some m ∧ m' = m.connectDaemon ws deviceId ∧
      ((PushStep.daemonWebsocket ws token env db).Authenticates ws ∨
        (PushStep.daemonWebsocket ws token env db).PresentsSecret ws) := by
  unfold daemonWebsocketEndpoint at h
  split at h
  · cases h
  · rename_i m
    split at h
    · cases h
    · rename_i t htoken
      split at h
      · cases h
      · cases h
      · rename_i device hlookup
        split_ifs at h with hstatus
        have ht : token = some t := (Option.filter_eq_some_iff.1 htoken).1
        obtain ⟨-, hfound⟩ := lookupDeviceByToken_eq_some.1 hlookup
        refine ⟨m, device.id.str, rfl, (Except.ok.inj h).symm, ?_⟩
        rcases hfound with hprefix | ⟨-, hscan⟩
        · obtain ⟨hmem, hactive, htok⟩ := deviceByPrefix_eq_some hprefix
          exact .inl ⟨rfl, t, device, ht, hmem, hactive, not_not.1 hstatus, htok⟩
        · obtain ⟨hselected, hverify⟩ := deviceByScan_eq_some hscan
          obtain ⟨hmem, hactive⟩ := Table.mem_select.1 hselected
          cases hraw : device.deviceTokenPrefix with
          | some rawPrefix =>
            exact .inr ⟨rfl, t, device, ht, hmem, hactive, hraw ▸ Option.some_ne_none _, hverify⟩
          | none =>
            -- without a prefix the whole text is the token
            obtain ⟨hash, hhash, -, htok⟩ := verifySecret_eq_true.1 hverify
            refine .inl ⟨rfl, t, device, ht, hmem, hactive, not_not.1 hstatus, hash, hhash, ?_⟩
            rw [hraw]
            exact htok

/-- The step admits the socket. -/
def PushStep.Admits (ws : ω) (st : PushStep ω) : Prop :=
  st.Authenticates ws ∨ st.Anonymous ws ∨ st.PresentsSecret ws

/-- A socket that is held after a step was held before, or the step admits it. -/
theorem holds_step {s : PushState ω} {st : PushStep ω} {m' : WebSocketConnectionManager ω} {ws : ω}
    (hm : (s.step st).manager = some m') (hws : m'.Holds ws) :
    (∃ m, s.manager = some m ∧ m.Holds ws) ∨ st.Admits ws := by
  cases st with
  | startup =>
    cases hm
    rcases hws with hmem | ⟨d, hentry⟩
    · cases hmem
    · cases hentry
  | websocket ws' token env =>
    simp only [PushState.step] at hm
    split at hm
    · rename_i m'' hok
      cases hm
      obtain ⟨m, hmanager, rfl, hauth⟩ := websocketEndpoint_eq_ok hok
      rcases hws.of_connect with rfl | hws
      · exact .inr (hauth.imp_right .inl)
      · exact .inl ⟨m, hmanager, hws⟩
    · exact .inl ⟨m', hm, hws⟩
  | daemonWebsocket ws' token env db =>
    simp only [PushState.step] at hm
    split at hm
    · rename_i m'' hok
      cases hm
      obtain ⟨m, deviceId, hmanager, rfl, hauth⟩ := daemonWebsocketEndpoint_eq_ok hok
      rcases hws.of_connectDaemon with rfl | hws
      · exact .inr (hauth.imp_right .inr)
      · exact .inl ⟨m, hmanager, hws⟩
    · exact .inl ⟨m', hm, hws⟩
  | disconnect ws' =>
    obtain ⟨m, hmanager, rfl⟩ := Option.map_eq_some_iff.1 hm
    exact .inl ⟨m, hmanager, hws.of_forget⟩
  | event order accepts acceptsTargeted event =>
    simp only [PushState.step] at hm
    split at hm
    · exact .inl ⟨m', hm, hws⟩
    · rename_i m hmanager
      cases hm
      exact .inl ⟨m, hmanager, (holds_bridgeEvent order accepts acceptsTargeted m event).2 ws hws⟩

theorem sent_step {s : PushState ω} {st : PushStep ω} {p : ω × BusEvent}
    (hp : p ∈ (s.step st).sent) : p ∈ s.sent ∨ ∃ m, s.manager = some m ∧ m.Holds p.1 := by
  cases st with
  | startup => exact .inl hp
  | websocket ws token env =>
    simp only [PushState.step] at hp
    split at hp <;> exact .inl hp
  | daemonWebsocket ws token env db =>
    simp only [PushState.step] at hp
    split at hp <;> exact .inl hp
  | disconnect ws => exact .inl hp
  | event order accepts acceptsTargeted event =>
    simp only [PushState.step] at hp
    split at hp
    · exact .inl hp
    · rename_i m hmanager
      rcases List.mem_append.1 hp with hp | hp
      · exact .inl hp
      · obtain ⟨send, hsend, rfl⟩ := List.mem_map.1 hp
        exact .inr ⟨m, hmanager,
          (holds_bridgeEvent order accepts acceptsTargeted m event).1 send hsend⟩

/-- One of the steps admits the socket. -/
def Admitted (steps : List (PushStep ω)) (ws : ω) : Prop :=
  ∃ st ∈ steps, st.Admits ws

omit [DecidableEq ω] in
theorem Admitted.concat {steps : List (PushStep ω)} {ws : ω} (h : Admitted steps ws)
    (st : PushStep ω) : Admitted (steps ++ [st]) ws := by
  obtain ⟨st', hst', hauth⟩ := h
  exact ⟨st', List.mem_append_left _ hst', hauth⟩

theorem admitted_run (steps : List (PushStep ω)) :
    (∀ m, (run PushState.step {} steps).manager = some m → ∀ ws, m.Holds ws → Admitted steps ws) ∧
      ∀ p ∈ (run PushState.step {} steps).sent, Admitted steps p.1 := by
  induction steps using List.reverseRecOn with
  | nil => exact ⟨nofun, nofun⟩
  | append_singleton steps st ih =>
    obtain ⟨hheld, hsent⟩ := ih
    rw [run_concat]
    refine ⟨fun m' hm' ws hws => ?_, fun p hp => ?_⟩
    · rcases holds_step hm' hws with ⟨m, hm, hws⟩ | hauth
      · exact (hheld m hm ws hws).concat st
      · exact ⟨st, List.mem_append_right _ (List.mem_singleton_self st), hauth⟩
    · rcases sent_step hp with hp | ⟨m, hm, hws⟩
      · exact (hsent p hp).concat st
      · exact (hheld m hm p.1 hws).concat st

/-- **Events reach admitted sockets.**  In every run of handshakes, disconnects and events, a socket
that an event was sent to presented at its handshake a valid access token, or the token of an
active device with an active enrollment, or on `/ws` no token or an empty one, unless it presented
the secret of such a token alone. -/
theorem events_reach_admitted (steps : List (PushStep ω)) :
    ∀ p ∈ (run PushState.step {} steps).sent, (∀ st ∈ steps, ¬ st.PresentsSecret p.1) →
      ∃ st ∈ steps, st.Authenticates p.1 ∨ st.Anonymous p.1 := by
  intro p hp hsecret
  obtain ⟨st, hst, hauth | hanonymous | hpresents⟩ := (admitted_run steps).2 p hp
  · exact ⟨st, hst, .inl hauth⟩
  · exact ⟨st, hst, .inr hanonymous⟩
  · exact absurd hpresents (hsecret st hst)

end

/-- The boat, with the token `midscale_device_ahoyahoy_sail`. -/
def boat : Device where
  id := Uuid.ofNat 71
  name := "boat"
  networkId := Uuid.ofNat 70
  deviceTokenPrefix := some "ahoyahoy"
  deviceTokenHash := some "hash:sail"

/-- A connection without a token, the boat's daemon with its token, and the event about the boat. -/
def boatSteps : List (PushStep ℕ) :=
  [.startup, .websocket 9 none plainEnv,
    .daemonWebsocket 7 (some "midscale_device_ahoyahoy_sail") plainEnv
      { devices := .ofRows [boat] (List.nodup_singleton _) },
    .event (.dedup ℕ) (fun _ => true) (fun _ => true) boatChanged]

theorem sent_boatSteps :
    (run PushState.step {} boatSteps).sent = [(7, boatChanged), (9, boatChanged)] := rfl

/-- The daemon presents more than the secret, and is admitted as the boat's. -/
theorem events_reach_admitted_boat :
    (7, boatChanged) ∈ (run PushState.step {} boatSteps).sent ∧
      ∃ st ∈ boatSteps, st.Authenticates 7 ∨ st.Anonymous 7 := by
  have hsent : (7, boatChanged) ∈ (run PushState.step {} boatSteps).sent := by
    rw [sent_boatSteps]
    exact List.mem_cons_self
  refine ⟨hsent, events_reach_admitted boatSteps (7, boatChanged) hsent fun st hst => ?_⟩
  simp only [boatSteps, List.mem_cons, List.not_mem_nil, or_false] at hst
  rcases hst with rfl | rfl | rfl | rfl
  · exact id
  · exact id
  · rintro ⟨-, t, d, ht, hd, -, -, hverify⟩
    cases ht
    obtain rfl : d = boat := List.mem_singleton.1 hd
    revert hverify
    decide
  · exact id

/-- An anonymous connection gets the event. -/
theorem anonymous_gets_events :
    (9, boatChanged) ∈ (run PushState.step {} boatSteps).sent ∧
      ¬ ∃ st ∈ boatSteps, st.Authenticates 9 := by
  refine ⟨sent_boatSteps ▸ List.mem_cons_of_mem _ List.mem_cons_self, ?_⟩
  simp [boatSteps, PushStep.Authenticates]

end Midscale
