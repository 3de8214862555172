import Midscale.Data.Dict
import Midscale.Data.Json
import Midscale.Data.SetOrder
import Midscale.Run.Basic

/-!
# WebSocket connections

`app.services.ws_manager`: one set of all connections, and for each device the connection of its
daemon.  A daemon that connects again replaces the entry of its device, and its older socket stays
in the set until it closes or a send to it fails.

* `WebSocketConnectionManager.broadcast`, `sendToDevice` : the sends and the connections after them.
* `Consistent` : an entry of a device is a connection, and of no other device.
* `registry_invariant` : over every run, entries are consistent and the latest ones, and only what
  happens to the registered socket itself removes an entry.
-/

namespace Midscale

/-- `WebSocketConnectionManager`, over the type of the sockets. -/
structure WebSocketConnectionManager (ω : Type) where
  /-- `_connections`, a set. -/
  connections : List ω
  connections_nodup : connections.Nodup
  /-- `_daemon_connections`. -/
  daemonConnections : Dict String ω

/-- A call of `send_text`, and whether it went through. -/
structure Send (ω : Type) where
  socket : ω
  payload : String
  ok : Bool

namespace WebSocketConnectionManager

variable {ω : Type}

/-- `WebSocketConnectionManager()`. -/
def init : WebSocketConnectionManager ω := ⟨[], List.nodup_nil, Dict.empty⟩

variable [DecidableEq ω]

/-- `connect`. -/
def connect (m : WebSocketConnectionManager ω) (ws : ω) : WebSocketConnectionManager ω :=
  { m with
    connections := m.connections.insert ws
    connections_nodup := m.connections_nodup.insert }

/-- `connect_daemon`. -/
def connectDaemon (m : WebSocketConnectionManager ω) (ws : ω) (deviceId : String) :
    WebSocketConnectionManager ω :=
  { m.connect ws with daemonConnections := m.daemonConnections.set deviceId ws }

/-- The socket is discarded from the set, and its first entry deleted. -/
def forget (m : WebSocketConnectionManager ω) (ws : ω) : WebSocketConnectionManager ω where
  connections := m.connections.erase ws
  connections_nodup := m.connections_nodup.erase ws
  daemonConnections := m.daemonConnections.eraseValue ws

/-- `disconnect`. -/
def disconnect (m : WebSocketConnectionManager ω) (ws : ω) : WebSocketConnectionManager ω :=
  m.forget ws

/-- `broadcast`, where `accepts` says which sends go through: the sends, in the order in which
the set is iterated, and the connections that are left. -/
def broadcast (order : SetOrder ω) (accepts : ω → Bool) (m : WebSocketConnectionManager ω)
    (message : Json) : List (Send ω) × WebSocketConnectionManager ω :=
  let payload := message.dumps
  let members := order.elems m.connections
  let stale := members.filter fun ws => !accepts ws
  (members.map fun ws => ⟨ws, payload, accepts ws⟩, stale.foldl forget m)

/-- `send_to_device`: what it returns, the sends and the connections that are left. -/
def sendToDevice (accepts : ω → Bool) (m : WebSocketConnectionManager ω) (deviceId : String)
    (message : Json) : Bool × List (Send ω) × WebSocketConnectionManager ω :=
  match m.daemonConnections.get? deviceId with
  | none => (false, [], m)
  | some ws =>
    let sent : List (Send ω) := [⟨ws, message.dumps, accepts ws⟩]
    if accepts ws then (true, sent, m)
    else
      (false, sent,
        { connections := m.connections.erase ws
          connections_nodup := m.connections_nodup.erase ws
          daemonConnections := m.daemonConnections.erase deviceId })

end WebSocketConnectionManager

/-- A call to the manager.  The calls exclude each other by its lock. -/
inductive SocketCall (ω : Type) where
  | connect (ws : ω)
  | connectDaemon (ws : ω) (deviceId : String)
  | disconnect (ws : ω)
  | broadcast (order : SetOrder ω) (accepts : ω → Bool) (message : Json)
  | sendToDevice (accepts : ω → Bool) (deviceId : String) (message : Json)

namespace SocketCall

variable {ω : Type}

/-- The socket that a call opens. -/
def opens : SocketCall ω → Option ω
  | connect ws | connectDaemon ws _ => some ws
  | _ => none

/-- The socket that a call opens for a device. -/
def opensFor (deviceId : String) : SocketCall ω → Option ω
  | connectDaemon ws d => if d = deviceId then some ws else none
  | _ => none

/-- The call closes the socket, or a send to it fails. -/
def Loses (ws : ω) : SocketCall ω → Prop
  | disconnect ws' => ws' = ws
  | broadcast _ accepts _ | sendToDevice accepts _ _ => accepts ws = false
  | _ => False

variable [DecidableEq ω]

/-- The connections after a call. -/
def step (m : WebSocketConnectionManager ω) : SocketCall ω → WebSocketConnectionManager ω
  | connect ws => m.connect ws
  | connectDaemon ws deviceId => m.connectDaemon ws deviceId
  | disconnect ws => m.disconnect ws
  | broadcast order accepts message => (m.broadcast order accepts message).2
  | sendToDevice accepts deviceId message => (m.sendToDevice accepts deviceId message).2.2

end SocketCall

/-- The latest socket that was opened for a device. -/
def latestSocket {ω : Type} (deviceId : String) (calls : List (SocketCall ω)) : Option ω :=
  (calls.filterMap (SocketCall.opensFor deviceId)).getLast?

namespace WebSocketConnectionManager

variable {ω : Type}

/-- The entry of a device is a connection, and the entry of no other device. -/
structure Consistent (m : WebSocketConnectionManager ω) : Prop where
  connected : ∀ {d ws}, m.daemonConnections.get? d = some ws → ws ∈ m.connections
  one : ∀ {d d' ws}, m.daemonConnections.get? d = some ws → m.daemonConnections.get? d' = some ws →
    d = d'

variable [DecidableEq ω] {m : WebSocketConnectionManager ω}

/-! ### Forgetting sockets -/

theorem mem_forget {ws ws' : ω} :
    ws' ∈ (m.forget ws).connections ↔ ws' ∈ m.connections ∧ ws' ≠ ws := by
  rw [forget, m.connections_nodup.mem_erase_iff, and_comm]

theorem Consistent.get?_forget (h : m.Consistent) {ws ws' : ω} {d : String} :
    (m.forget ws).daemonConnections.get? d = some ws' ↔
      m.daemonConnections.get? d = some ws' ∧ ws' ≠ ws :=
  Dict.get?_eraseValue fun _ _ hk hk' => h.one hk hk'

theorem Consistent.forget (h : m.Consistent) (ws : ω) : (m.forget ws).Consistent where
  connected hd := by
    obtain ⟨hd, hne⟩ := h.get?_forget.1 hd
    exact mem_forget.2 ⟨h.connected hd, hne⟩
  one hd hd' := h.one (h.get?_forget.1 hd).1 (h.get?_forget.1 hd').1

theorem Consistent.forget_all (h : m.Consistent) (l : List ω) :
    (l.foldl WebSocketConnectionManager.forget m).Consistent ∧
      (∀ ws, ws ∈ (l.foldl WebSocketConnectionManager.forget m).connections ↔
        ws ∈ m.connections ∧ ws ∉ l) ∧
      ∀ d ws, (l.foldl WebSocketConnectionManager.forget m).daemonConnections.get? d = some ws ↔
        m.daemonConnections.get? d = some ws ∧ ws ∉ l := by
  induction l generalizing m with
  | nil => simp [h]
  | cons a l ih =>
    obtain ⟨hconsistent, hmem, hget⟩ := ih (h.forget a)
    refine ⟨hconsistent, fun ws => ?_, fun d ws => ?_⟩
    · rw [List.foldl_cons, hmem, mem_forget, List.mem_cons, not_or, and_assoc]
    · rw [List.foldl_cons, hget, h.get?_forget, List.mem_cons, not_or, and_assoc]

variable {order : SetOrder ω} {accepts : ω → Bool} {message : Json}

omit [DecidableEq ω] in
theorem mem_stale {ws : ω} : ws ∈ (order.elems m.connections).filter (fun ws => !accepts ws) ↔
    ws ∈ m.connections ∧ accepts ws = false := by
  rw [List.mem_filter, order.mem_elems, Bool.not_eq_true']

theorem Consistent.broadcast (h : m.Consistent) :
    (m.broadcast order accepts message).2.Consistent :=
  (h.forget_all _).1

theorem Consistent.get?_broadcast (h : m.Consistent) {d : String} {ws : ω} :
    (m.broadcast order accepts message).2.daemonConnections.get? d = some ws ↔
      m.daemonConnections.get? d = some ws ∧ accepts ws = true := by
  refine ((h.forget_all _).2.2 d ws).trans ?_
  rw [mem_stale, not_and, Bool.not_eq_false]
  exact and_congr_right fun hd => ⟨fun hacc => hacc (h.connected hd), fun hacc _ => hacc⟩

theorem get?_sendToDevice {d deviceId : String} {ws : ω} :
    (m.sendToDevice accepts deviceId message).2.2.daemonConnections.get? d = some ws ↔
      m.daemonConnections.get? d = some ws ∧ (d = deviceId → accepts ws = true) := by
  unfold sendToDevice
  cases hentry : m.daemonConnections.get? deviceId with
  | none =>
    refine ⟨fun hd => ⟨hd, ?_⟩, And.left⟩
    rintro rfl
    rw [hentry] at hd
    cases hd
  | some ws' =>
    dsimp only
    split_ifs with hacc
    · refine ⟨fun hd => ⟨hd, ?_⟩, And.left⟩
      rintro rfl
      rw [hentry] at hd
      cases hd
      exact hacc
    · rw [Dict.get?_erase]
      split_ifs with hd
      · subst hd
        rw [hentry]
        simp only [Option.some.injEq, forall_const, false_iff, not_and]
        rintro rfl
        exact hacc
      · exact ⟨fun h => ⟨h, fun heq => absurd heq hd⟩, And.left⟩

theorem mem_sendToDevice {deviceId : String} {ws : ω}
    (h : ws ∈ (m.sendToDevice accepts deviceId message).2.2.connections) : ws ∈ m.connections := by
  unfold sendToDevice at h
  split at h
  · exact h
  · dsimp only at h
    split_ifs at h
    · exact h
    · exact List.mem_of_mem_erase h

theorem Consistent.sendToDevice (h : m.Consistent) {deviceId : String} :
    (m.sendToDevice accepts deviceId message).2.2.Consistent where
  connected := by
    intro d ws hd
    obtain ⟨hd', hacc⟩ := get?_sendToDevice.1 hd
    have hws := h.connected hd'
    unfold WebSocketConnectionManager.sendToDevice
    split
    · exact hws
    · rename_i ws' hentry
      dsimp only
      split_ifs with hfails
      · exact hws
      · -- the socket that is erased had one entry, and that is gone
        refine (m.connections_nodup.mem_erase_iff).2 ⟨?_, hws⟩
        rintro rfl
        exact hfails (hacc (h.one hd' hentry))
  one hd hd' := h.one (get?_sendToDevice.1 hd).1 (get?_sendToDevice.1 hd').1

theorem Consistent.connectDaemon (h : m.Consistent) {ws : ω}
    (hnew : ∀ d, m.daemonConnections.get? d ≠ some ws) (deviceId : String) :
    (m.connectDaemon ws deviceId).Consistent where
  connected := by
    intro d ws' hd
    change (m.daemonConnections.set deviceId ws).get? d = some ws' at hd
    rw [Dict.get?_set] at hd
    split_ifs at hd
    · exact Option.some.inj hd ▸ List.mem_insert_self
    · exact List.mem_insert_of_mem (h.connected hd)
  one := by
    intro d d' ws' hd hd'
    change (m.daemonConnections.set deviceId ws).get? d = some ws' at hd
    change (m.daemonConnections.set deviceId ws).get? d' = some ws' at hd'
    rw [Dict.get?_set] at hd hd'
    split_ifs at hd hd' with hdev hdev' hdev'
    · rw [hdev, hdev']
    · exact absurd hd' (Option.some.inj hd ▸ hnew d')
    · exact absurd hd (Option.some.inj hd' ▸ hnew d)
    · exact h.one hd hd'

/-! ### One call -/

variable {call : SocketCall ω}

/-- The connections stay consistent when the socket that is opened has no entry yet. -/
theorem Consistent.step (h : m.Consistent)
    (hnew : ∀ ws, call.opens = some ws → ∀ d, m.daemonConnections.get? d ≠ some ws) :
    (SocketCall.step m call).Consistent := by
  cases call with
  | connect ws => exact ⟨fun hd => List.mem_insert_of_mem (h.connected hd), h.one⟩
  | connectDaemon ws d => exact h.connectDaemon (hnew ws rfl) d
  | disconnect ws => exact h.forget ws
  | broadcast order accepts message => exact h.broadcast
  | sendToDevice accepts d message => exact h.sendToDevice

theorem Consistent.get?_step (h : m.Consistent) {d : String} {ws : ω}
    (hd : (SocketCall.step m call).daemonConnections.get? d = some ws) :
    call.opensFor d = some ws ∨
      call.opensFor d = none ∧ m.daemonConnections.get? d = some ws := by
  cases call with
  | connect ws' => exact .inr ⟨rfl, hd⟩
  | connectDaemon ws' d' =>
    change (m.daemonConnections.set d' ws').get? d = some ws at hd
    rw [Dict.get?_set] at hd
    by_cases hdev : d' = d
    · rw [if_pos hdev.symm] at hd
      exact .inl ((if_pos hdev).trans hd)
    · rw [if_neg (Ne.symm hdev)] at hd
      exact .inr ⟨if_neg hdev, hd⟩
  | disconnect ws' => exact .inr ⟨rfl, (h.get?_forget.1 hd).1⟩
  | broadcast order accepts message => exact .inr ⟨rfl, (h.get?_broadcast.1 hd).1⟩
  | sendToDevice accepts d' message => exact .inr ⟨rfl, (get?_sendToDevice.1 hd).1⟩

theorem Consistent.get?_step_of_not_loses (h : m.Consistent) {d : String} {ws : ω}
    (hd : m.daemonConnections.get? d = some ws) (hopens : call.opensFor d = none)
    (hloses : ¬ call.Loses ws) : (SocketCall.step m call).daemonConnections.get? d = some ws := by
  cases call with
  | connect ws' => exact hd
  | connectDaemon ws' d' =>
    have hdev : d ≠ d' := by
      rintro rfl
      simp [SocketCall.opensFor] at hopens
    exact (Dict.get?_set_of_ne _ _ hdev).trans hd
  | disconnect ws' => exact h.get?_forget.2 ⟨hd, fun heq => hloses heq.symm⟩
  | broadcast order accepts message =>
    exact h.get?_broadcast.2 ⟨hd, Bool.not_eq_false _ ▸ hloses⟩
  | sendToDevice accepts d' message =>
    exact get?_sendToDevice.2 ⟨hd, fun _ => Bool.not_eq_false _ ▸ hloses⟩

end WebSocketConnectionManager

/-! ### Runs -/

section

open WebSocketConnectionManager

variable {ω : Type}

theorem latestSocket_concat (d : String) (calls : List (SocketCall ω)) (call : SocketCall ω) :
    latestSocket d (calls ++ [call]) = (call.opensFor d).or (latestSocket d calls) := by
  rw [latestSocket, List.filterMap_append, latestSocket]
  cases hopens : call.opensFor d with
  | none => simp [hopens]
  | some ws => simp [hopens]

theorem opens_of_opensFor {d : String} {call : SocketCall ω} {ws : ω}
    (h : call.opensFor d = some ws) : call.opens = some ws := by
  cases call with
  | connectDaemon ws' d' =>
    simp only [SocketCall.opensFor, Option.ite_none_right_eq_some] at h
    exact h.2
  | _ => cases h

theorem opens_unique {calls : List (SocketCall ω)} (h : (calls.filterMap SocketCall.opens).Nodup)
    {call call' : SocketCall ω} (hcall : call ∈ calls) (hcall' : call' ∈ calls) {ws : ω}
    (hopens : call.opens = some ws) (hopens' : call'.opens = some ws) : call = call' := by
  induction calls with
  | nil => cases hcall
  | cons c calls ih =>
    rw [List.filterMap_cons] at h
    have hlater : ∀ c' ∈ calls, c'.opens = some ws → ws ∈ calls.filterMap SocketCall.opens :=
      fun c' hc' ho => List.mem_filterMap.2 ⟨c', hc', ho⟩
    rcases List.mem_cons.1 hcall with rfl | hrest
    · rcases List.mem_cons.1 hcall' with rfl | hrest'
      · rfl
      · rw [hopens, List.nodup_cons] at h
        exact absurd (hlater _ hrest' hopens') h.1
    · rcases List.mem_cons.1 hcall' with rfl | hrest'
      · rw [hopens', List.nodup_cons] at h
        exact absurd (hlater _ hrest hopens) h.1
      · refine ih ?_ hrest hrest'
        split at h
        · exact h
        · exact (List.nodup_cons.1 h).2

theorem mem_opened_of_latestSocket {d : String} {calls : List (SocketCall ω)} {ws : ω}
    (h : latestSocket d calls = some ws) : ws ∈ calls.filterMap SocketCall.opens := by
  obtain ⟨call, hcall, hopens⟩ := List.mem_filterMap.1 (List.mem_of_getLast? h)
  exact List.mem_filterMap.2 ⟨call, hcall, opens_of_opensFor hopens⟩

variable [DecidableEq ω]

/-- The connections after the calls. -/
def connectionsAfter (calls : List (SocketCall ω)) : WebSocketConnectionManager ω :=
  run SocketCall.step init calls

theorem connectionsAfter_consistent {calls : List (SocketCall ω)}
    (h : (calls.filterMap SocketCall.opens).Nodup) : (connectionsAfter calls).Consistent ∧
      ∀ d ws, (connectionsAfter calls).daemonConnections.get? d = some ws →
        latestSocket d calls = some ws := by
  induction calls using List.reverseRecOn with
  | nil => exact ⟨⟨nofun, nofun⟩, nofun⟩
  | append_singleton calls call ih =>
    rw [List.filterMap_append] at h
    obtain ⟨hcalls, -, hdisjoint⟩ := List.nodup_append'.1 h
    obtain ⟨hconsistent, hlatest⟩ := ih hcalls
    have hstep : connectionsAfter (calls ++ [call]) =
        SocketCall.step (connectionsAfter calls) call := run_concat _ _ _ _
    have hnew : ∀ ws, call.opens = some ws →
        ∀ d, (connectionsAfter calls).daemonConnections.get? d ≠ some ws := by
      intro ws hopens d hd
      refine hdisjoint (mem_opened_of_latestSocket (hlatest d ws hd)) ?_
      simp [hopens]
    rw [hstep]
    refine ⟨hconsistent.step hnew, fun d ws hd => ?_⟩
    rw [latestSocket_concat]
    rcases hconsistent.get?_step hd with hopens | ⟨hopens, hd⟩
    · rw [hopens]
      rfl
    · rw [hopens, hlatest d ws hd]
      rfl

/-- **WebSocket registry.**  After any calls in which each socket is connected once, the socket
registered for a device is in the set of connections, registered for no other device and the latest
one that was connected for the device; and a call that does not connect another socket for the
device removes the registration only if it closes the registered socket or a send to that one
fails. -/
theorem registry_invariant {calls : List (SocketCall ω)}
    (h : (calls.filterMap SocketCall.opens).Nodup) {d : String} {ws : ω}
    (hd : (connectionsAfter calls).daemonConnections.get? d = some ws) :
    ws ∈ (connectionsAfter calls).connections ∧
      (∀ d', (connectionsAfter calls).daemonConnections.get? d' = some ws → d' = d) ∧
      latestSocket d calls = some ws ∧
      ∀ call : SocketCall ω, call.opensFor d = none → ¬ call.Loses ws →
        (connectionsAfter (calls ++ [call])).daemonConnections.get? d = some ws := by
  obtain ⟨hconsistent, hlatest⟩ := connectionsAfter_consistent h
  refine ⟨hconsistent.connected hd, fun d' hd' => hconsistent.one hd' hd, hlatest d ws hd,
    fun call hopens hloses => ?_⟩
  rw [connectionsAfter, run_concat]
  exact hconsistent.get?_step_of_not_loses hd hopens hloses

end

/-- A daemon that connects again keeps its entry when its older socket closes. -/
theorem registry_invariant_reconnect :
    let calls : List (SocketCall ℕ) :=
      [.connectDaemon 1 "boat", .connect 9, .connectDaemon 2 "boat", .disconnect 1]
    2 ∈ (connectionsAfter calls).connections ∧
      (∀ d', (connectionsAfter calls).daemonConnections.get? d' = some 2 → d' = "boat") ∧
      latestSocket "boat" calls = some 2 ∧
      ∀ call : SocketCall ℕ, call.opensFor "boat" = none → ¬ call.Loses 2 →
        (connectionsAfter (calls ++ [call])).daemonConnections.get? "boat" = some 2 :=
  registry_invariant (by decide) (by decide)

end Midscale
