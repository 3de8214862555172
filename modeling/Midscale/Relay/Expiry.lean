import Midscale.Relay.Inert

/-!
# Expiry of relay connections

A connection that sends no heartbeat for 120 seconds is unregistered by the next clean-up.  The
clean-up looks at the table of heartbeats only, in which the API also enters devices that are not
connected.

* `Signed` : the table of heartbeats holds the latest signs of life, and covers the connections.
* `relay_expiry_exact` : **in every reachable state a clean-up unregisters exactly the devices whose
  latest registration or heartbeat is more than 120 seconds ago.**
* `relay_expiry_server` : **the same of everything that can happen to a server.**
-/

namespace Midscale

namespace Relay

/-! ### Calls and signs of life -/

/-- The calls that write the tables of connections and heartbeats. -/
inductive ExpiryCall where
  | registerConnection (deviceId : Json.HashKey) (c : ℕ) (now : Timestamp)
  | unregisterConnection (deviceId : Json.HashKey)
  /-- From a frame, or from the API. -/
  | updateHeartbeat (deviceId : Json.HashKey) (now : Timestamp)
  | removeExpiredTokens (now : Timestamp)

/-- One call. -/
def expiryStep (s : RelayServer) : ExpiryCall → RelayServer
  | .registerConnection deviceId c now => s.registerConnection deviceId c now
  | .unregisterConnection deviceId => s.unregisterConnection deviceId
  | .updateHeartbeat deviceId now => s.updateHeartbeat deviceId now
  | .removeExpiredTokens now => s.removeExpiredTokens now

/-- When the devices last gave a sign of life. -/
abbrev Signs := Json.HashKey → Option Timestamp

/-- A device gives a sign of life. -/
def Signs.note (signs : Signs) (deviceId : Json.HashKey) (now : Timestamp) : Signs :=
  fun k => if k = deviceId then some now else signs k

/-- The signs after one more call. -/
def noteCall (signs : Signs) : ExpiryCall → Signs
  | .registerConnection deviceId _ now | .updateHeartbeat deviceId now => signs.note deviceId now
  | .unregisterConnection _ | .removeExpiredTokens _ => signs

/-- The time of the latest registration or heartbeat of each device. -/
def latestSign (calls : List ExpiryCall) : Signs := calls.foldl noteCall fun _ => none

/-- The sign is more than 120 seconds ago. -/
def IsSilent (now : Timestamp) (sign : Option Timestamp) : Prop :=
  ∃ t ∈ sign, t < now - Timestamp.seconds 120

/-- The heartbeats in the table are the latest signs of their devices, and every connection has
one. -/
structure Signed (signs : Signs) (s : RelayServer) : Prop where
  latest : ∀ k t, s.heartbeats.get? k = some t → signs k = some t
  covers : ∀ k c, s.connections.get? k = some c → s.heartbeats.get? k ≠ none

/-! ### The clean-up -/

section

variable {s : RelayServer} {signs : Signs}

theorem foldl_unregisterConnection (ks : List Json.HashKey) (s : RelayServer) (k : Json.HashKey) :
    (ks.foldl RelayServer.unregisterConnection s).connections.get? k =
      (if k ∈ ks then none else s.connections.get? k) ∧
    (ks.foldl RelayServer.unregisterConnection s).heartbeats.get? k =
      if k ∈ ks then none else s.heartbeats.get? k := by
  induction ks generalizing s with
  | nil => simp
  | cons k' ks ih =>
    rw [List.foldl_cons, (ih _).1, (ih _).2, RelayServer.unregisterConnection, Dict.get?_erase,
      Dict.get?_erase]
    by_cases hk : k = k' <;> by_cases hks : k ∈ ks <;> simp [hk, hks]

/-- **A clean-up unregisters the devices whose heartbeat in the table is old.** -/
theorem get?_removeExpired (s : RelayServer) (now : Timestamp) (k : Json.HashKey) :
    (IsSilent now (s.heartbeats.get? k) →
      (s.removeExpiredTokens now).connections.get? k = none ∧
        (s.removeExpiredTokens now).heartbeats.get? k = none) ∧
    (¬ IsSilent now (s.heartbeats.get? k) →
      (s.removeExpiredTokens now).connections.get? k = s.connections.get? k ∧
        (s.removeExpiredTokens now).heartbeats.get? k = s.heartbeats.get? k) := by
  have hstale : k ∈ (s.heartbeats.items.filter fun e =>
      e.2 < now - Timestamp.seconds 120).map Prod.fst ↔ IsSilent now (s.heartbeats.get? k) := by
    simp only [List.mem_map, List.mem_filter, decide_eq_true_eq, IsSilent, Option.mem_def,
      Dict.get?_eq_some_iff, Prod.exists, exists_and_right, exists_eq_right]
  obtain ⟨hconn, hbeat⟩ := foldl_unregisterConnection ((s.heartbeats.items.filter fun e =>
      e.2 < now - Timestamp.seconds 120).map Prod.fst) s k
  rw [RelayServer.removeExpiredTokens, hconn, hbeat]
  exact ⟨fun h => ⟨if_pos (hstale.2 h), if_pos (hstale.2 h)⟩,
    fun h => ⟨if_neg (mt hstale.1 h), if_neg (mt hstale.1 h)⟩⟩

namespace Signed

theorem registerConnection (h : Signed signs s) (deviceId : Json.HashKey) (c : ℕ)
    (now : Timestamp) :
    Signed (signs.note deviceId now) (s.registerConnection deviceId c now) where
  latest k t := by
    rw [RelayServer.registerConnection, Dict.get?_set, Signs.note]
    split_ifs
    · exact id
    · exact h.latest k t
  covers k c' := by
    rw [RelayServer.registerConnection, Dict.get?_set, Dict.get?_set]
    split_ifs
    · exact fun _ => Option.some_ne_none now
    · exact h.covers k c'

theorem unregisterConnection (h : Signed signs s) (deviceId : Json.HashKey) :
    Signed signs (s.unregisterConnection deviceId) where
  latest k t := by
    rw [RelayServer.unregisterConnection, Dict.get?_erase]
    split_ifs
    · rintro ⟨⟩
    · exact h.latest k t
  covers k c := by
    rw [RelayServer.unregisterConnection, Dict.get?_erase, Dict.get?_erase]
    split_ifs
    · rintro ⟨⟩
    · exact h.covers k c

theorem updateHeartbeat (h : Signed signs s) (deviceId : Json.HashKey) (now : Timestamp) :
    Signed (signs.note deviceId now) (s.updateHeartbeat deviceId now) where
  latest k t := by
    rw [RelayServer.updateHeartbeat, Dict.get?_set, Signs.note]
    split_ifs
    · exact id
    · exact h.latest k t
  covers k c hc := by
    rw [RelayServer.updateHeartbeat, Dict.get?_set]
    split_ifs
    · exact Option.some_ne_none now
    · exact h.covers k c hc

theorem removeExpiredTokens (h : Signed signs s) (now : Timestamp) :
    Signed signs (s.removeExpiredTokens now) where
  latest k t ht := by
    obtain ⟨hsilent, hfresh⟩ := get?_removeExpired s now k
    by_cases hk : IsSilent now (s.heartbeats.get? k)
    · rw [(hsilent hk).2] at ht
      cases ht
    · rw [(hfresh hk).2] at ht
      exact h.latest k t ht
  covers k c hc := by
    obtain ⟨hsilent, hfresh⟩ := get?_removeExpired s now k
    by_cases hk : IsSilent now (s.heartbeats.get? k)
    · rw [(hsilent hk).1] at hc
      cases hc
    · rw [(hfresh hk).1] at hc
      rw [(hfresh hk).2]
      exact h.covers k c hc

/-- **A registered device has a heartbeat, which is its latest sign of life.** -/
theorem exists_sign (h : Signed signs s) {k : Json.HashKey} {c : ℕ}
    (hc : s.connections.get? k = some c) :
    ∃ t, s.heartbeats.get? k = some t ∧ signs k = some t := by
  obtain ⟨t, ht⟩ := Option.ne_none_iff_exists'.1 (h.covers k c hc)
  exact ⟨t, ht, h.latest k t ht⟩

/-- **A clean-up unregisters the registered devices that have been silent, and no others.** -/
theorem get?_removeExpiredTokens_iff (h : Signed signs s) (now : Timestamp) (k : Json.HashKey)
    (c : ℕ) : (s.removeExpiredTokens now).connections.get? k = some c ↔
      s.connections.get? k = some c ∧ ¬ IsSilent now (signs k) := by
  obtain ⟨hsilent, hfresh⟩ := get?_removeExpired s now k
  have hsign : ∀ {c'}, s.connections.get? k = some c' → s.heartbeats.get? k = signs k := by
    intro c' hc'
    obtain ⟨t, ht, hsign⟩ := h.exists_sign hc'
    rw [ht, hsign]
  by_cases hk : IsSilent now (s.heartbeats.get? k)
  · rw [(hsilent hk).1]
    refine iff_of_false (Option.some_ne_none c).symm ?_
    rintro ⟨hc, hnot⟩
    exact hnot (hsign hc ▸ hk)
  · rw [(hfresh hk).1]
    exact ⟨fun hc => ⟨hc, hsign hc ▸ hk⟩, And.left⟩

end Signed

/-- Every call keeps the signs in the table. -/
theorem Signed.step (h : Signed signs s) (call : ExpiryCall) :
    Signed (noteCall signs call) (expiryStep s call) := by
  cases call with
  | registerConnection deviceId c now => exact h.registerConnection deviceId c now
  | unregisterConnection deviceId => exact h.unregisterConnection deviceId
  | updateHeartbeat deviceId now => exact h.updateHeartbeat deviceId now
  | removeExpiredTokens now => exact h.removeExpiredTokens now

theorem signed_empty : Signed (fun _ => none) {} where
  latest _ _ h := by cases h
  covers _ _ h := by cases h

theorem signed_run (calls : List ExpiryCall) :
    Signed (latestSign calls) (run expiryStep {} calls) := by
  suffices h : ∀ (calls : List ExpiryCall) (signs : Signs) (s : RelayServer), Signed signs s →
      Signed (calls.foldl noteCall signs) (run expiryStep s calls) from h calls _ _ signed_empty
  intro calls
  induction calls with
  | nil => exact fun _ _ h => h
  | cons call calls ih => exact fun signs s h => ih _ _ (h.step call)

end

/-- **Relay expiry is exact**: after any calls every registered device has a heartbeat, which is its
latest registration or heartbeat; and a clean-up leaves exactly the registered devices for which
that is at most 120 seconds ago. -/
theorem relay_expiry_exact (calls : List ExpiryCall) (k : Json.HashKey) (c : ℕ) :
    let s := run expiryStep {} calls
    (s.connections.get? k = some c →
      ∃ t, s.heartbeats.get? k = some t ∧ latestSign calls k = some t) ∧
    ∀ now, (s.removeExpiredTokens now).connections.get? k = some c ↔
      s.connections.get? k = some c ∧ ¬ IsSilent now (latestSign calls k) :=
  have hsigned := signed_run calls
  ⟨hsigned.exists_sign, fun now => hsigned.get?_removeExpiredTokens_iff now k c⟩

/-- Two boats connect, and one of them sends a heartbeat. -/
def boatCalls : List ExpiryCall := [.registerConnection (.str "boat") 1 0,
  .registerConnection (.str "punt") 2 0, .updateHeartbeat (.str "punt") (Timestamp.seconds 100)]

/-- After 150 seconds the silent boat is unregistered and the other one is kept. -/
theorem relay_expiry_exact_boats :
    let s := run expiryStep {} boatCalls
    s.connections.get? (.str "boat") = some 1 ∧
      (s.removeExpiredTokens (Timestamp.seconds 150)).connections.get? (.str "boat") ≠ some 1 ∧
      (s.removeExpiredTokens (Timestamp.seconds 150)).connections.get? (.str "punt") = some 2 := by
  refine ⟨by decide, fun hkept => ?_, ?_⟩
  · have hspoken := ((relay_expiry_exact boatCalls (.str "boat") 1).2 _).1 hkept
    exact hspoken.2 ⟨0, rfl, by decide⟩
  · refine ((relay_expiry_exact boatCalls (.str "punt") 2).2 _).2 ⟨by decide, ?_⟩
    rintro ⟨t, ht, hold⟩
    cases ht
    exact absurd hold (by decide)

/-! ### Servers -/

open RelayServer (SameTables)

section Machine

variable (loads : Bytes → Option Json)

/-- The call that a frame leads to. -/
def frameCall (s : RelayServer) (c : ℕ) (now : Timestamp) (msgType : UInt8) (body : Bytes) :
    Option ExpiryCall :=
  if msgType = 0x04 then
    (loads body).bind fun data =>
      if (handleConnect s c now data).2 = .connected then
        (connectField data "device_id").hashKey?.map (.registerConnection · c now)
      else none
  else if msgType = 0x06 then (s.leavingKey c).map .unregisterConnection
  else if msgType = 0x07 then
    match loads body with
    | some (.obj _) => (s.leavingKey c).map (.updateHeartbeat · now)
    | _ => none
  else none

/-- The call that an event leads to; `stop` unregisters more than one device. -/
def eventCall (s : RelayServer) : RelayEvent → Option ExpiryCall
  | .message c now payload =>
    (parseFrame payload).bind fun frame => frameCall loads s c now frame.1 frame.2
  | .connectionLost c => (s.leavingKey c).map .unregisterConnection
  | .apiHeartbeat deviceId now => some (.updateHeartbeat (.str deviceId) now)
  | .removeExpiredTokens now => some (.removeExpiredTokens now)
  | .connectionMade _ | .addValidToken _ _ | .stop => none

/-- The signs after one more event. -/
def noteEvent (s : RelayServer) (signs : Signs) (e : RelayEvent) : Signs :=
  (eventCall loads s e).elim signs (noteCall signs)

/-- The signs after a run. -/
def signsAlong : RelayServer → Signs → List RelayEvent → Signs
  | _, signs, [] => signs
  | s, signs, e :: events => signsAlong (relayStep loads s e) (noteEvent loads s signs e) events

variable {loads} {s s' : RelayServer} {signs : Signs}

theorem Signed.of_eq (h : Signed signs s) (hconn : s'.connections = s.connections)
    (hbeat : s'.heartbeats = s.heartbeats) : Signed signs s' where
  latest := by
    rw [hbeat]
    exact h.latest
  covers := by
    rw [hconn, hbeat]
    exact h.covers

theorem Signed.of_sameTables (h : Signed signs s) (htables : s.SameTables s') : Signed signs s' :=
  h.of_eq htables.connections htables.heartbeats

theorem Signed.leaveWith (h : Signed signs s) (f : Connection → Connection) (c : ℕ) :
    Signed signs (leaveWith f s c) := by
  unfold Relay.leaveWith
  split_ifs
  · split
    · rename_i k _
      exact (h.unregisterConnection k).of_sameTables (SameTables.modifyProtocol _ c f)
    · exact h
  · exact h.of_sameTables (SameTables.modifyProtocol s c f)

theorem Signed.handleConnect (h : Signed signs s) (c : ℕ) (now : Timestamp) (data : Json) :
    Signed ((if (handleConnect s c now data).2 = .connected then
        (connectField data "device_id").hashKey?.map (ExpiryCall.registerConnection · c now)
      else none).elim signs (noteCall signs)) (handleConnect s c now data).1 := by
  by_cases hconnected : (Relay.handleConnect s c now data).2 = .connected
  · obtain ⟨k, f, hk, -, heq⟩ := handleConnect_eq_of_connected hconnected
    rw [if_pos hconnected, hk, heq]
    exact (h.of_sameTables (SameTables.modifyProtocol s c f)).registerConnection k c now
  · rw [if_neg hconnected]
    exact h.of_sameTables (sameTables_handleConnect hconnected)

theorem Signed.handleHeartbeat (h : Signed signs s) (c : ℕ) (now : Timestamp)
    (fields : List (String × Json)) :
    Signed (((s.leavingKey c).map (ExpiryCall.updateHeartbeat · now)).elim signs (noteCall signs))
      (handleHeartbeat s c now (.obj fields)).1 := by
  unfold RelayServer.leavingKey
  simp only [Relay.handleHeartbeat]
  change Signed _ (if (s.deviceIdOf c).truthy then _ else _ : RelayServer × Sent).1
  by_cases htruthy : (s.deviceIdOf c).truthy = true
  · rw [if_pos htruthy, if_pos htruthy, ← RelayServer.deviceIdOf]
    cases (s.deviceIdOf c).hashKey? with
    | none => exact h
    | some k => exact h.updateHeartbeat k now
  · rw [if_neg htruthy, if_neg htruthy]
    exact h

/-- The connection unregisters under the device id it claims. -/
theorem Signed.leaves (h : Signed signs s) (f : Connection → Connection) (c : ℕ) :
    Signed (((s.leavingKey c).map ExpiryCall.unregisterConnection).elim signs (noteCall signs))
      (Relay.leaveWith f s c) := by
  cases hkey : s.leavingKey c with
  | none => exact h.leaveWith f c
  | some k => exact h.leaveWith f c

theorem Signed.handleFrame (h : Signed signs s) (c : ℕ) (now : Timestamp) (msgType : UInt8)
    (body : Bytes) :
    Signed ((frameCall loads s c now msgType body).elim signs (noteCall signs))
      (handleFrame loads s c now msgType body).1 := by
  unfold Relay.handleFrame frameCall
  by_cases h₄ : msgType = 0x04
  · subst h₄
    rw [if_pos rfl, if_neg (by decide), if_pos rfl]
    cases loads body with
    | none => exact h
    | some data => exact h.handleConnect c now data
  · by_cases h₆ : msgType = 0x06
    · subst h₆
      rw [if_neg (by decide), if_pos rfl, if_neg (by decide), if_neg (by decide),
        if_neg (by decide), if_pos rfl, handleDisconnect_eq]
      exact h.leaves _ c
    · by_cases h₇ : msgType = 0x07
      · subst h₇
        rw [if_neg (by decide), if_neg (by decide), if_pos rfl, if_neg (by decide),
          if_neg (by decide), if_neg (by decide), if_neg (by decide), if_pos rfl]
        cases loads body with
        | none => exact h
        | some data =>
          cases data with
          | obj fields => exact h.handleHeartbeat c now fields
          | _ => exact h
      · rw [if_neg h₄, if_neg h₆, if_neg h₇, if_neg h₄, if_neg h₆, if_neg h₇]
        split_ifs <;> exact h

theorem Signed.disconnectAll (h : Signed signs s) (cs : List ℕ) :
    Signed signs (disconnectAll s cs).1 := by
  induction cs generalizing s with
  | nil => exact h
  | cons c cs ih =>
    unfold Relay.disconnectAll
    split
    · rename_i s₁ hs₁
      have hleave := h.leaveWith
        (fun p => { p with sessionToken := .null, deviceId := .null }) c
      rw [← handleDisconnect_eq, hs₁] at hleave
      exact ih hleave
    · exact h

theorem relayStep_signed (h : Signed signs s) (e : RelayEvent) :
    Signed (noteEvent loads s signs e) (relayStep loads s e) := by
  cases e with
  | connectionMade c => exact h.of_eq rfl rfl
  | message c now payload =>
    rw [relayStep, handleMessage_eq, noteEvent, eventCall]
    cases parseFrame payload with
    | none => exact h
    | some frame => exact h.handleFrame c now frame.1 frame.2
  | connectionLost c => exact h.leaves (fun p => { p with hasTransport := false }) c
  | addValidToken token sessionId => exact h.of_eq rfl rfl
  | apiHeartbeat deviceId now => exact h.updateHeartbeat (.str deviceId) now
  | removeExpiredTokens now => exact h.removeExpiredTokens now
  | stop =>
    have hdone := h.disconnectAll (s.connections.items.map Prod.snd)
    rw [relayStep]
    split
    · constructor <;> rintro _ _ ⟨⟩
    · rename_i hstopped
      rw [hstopped] at hdone
      exact hdone

theorem signed_serverRun (loads : Bytes → Option Json) (events : List RelayEvent) :
    Signed (signsAlong loads {} (fun _ => none) events) (run (relayStep loads) {} events) := by
  suffices h : ∀ (events : List RelayEvent) (signs : Signs) (s : RelayServer), Signed signs s →
      Signed (signsAlong loads s signs events) (run (relayStep loads) s events) from
    h events _ _ signed_empty
  intro events
  induction events with
  | nil => exact fun _ _ h => h
  | cons e events ih => exact fun signs s h => ih _ _ (relayStep_signed h e)

/-- **Expiry is exact in every reachable state of a server**, whatever its clients send. -/
theorem relay_expiry_server (loads : Bytes → Option Json) (events : List RelayEvent)
    (k : Json.HashKey) (c : ℕ) :
    let s := run (relayStep loads) {} events
    let signs := signsAlong loads {} (fun _ => none) events
    (s.connections.get? k = some c → ∃ t, s.heartbeats.get? k = some t ∧ signs k = some t) ∧
    ∀ now, (s.removeExpiredTokens now).connections.get? k = some c ↔
      s.connections.get? k = some c ∧ ¬ IsSilent now (signs k) :=
  have hsigned := signed_serverRun loads events
  ⟨hsigned.exists_sign, fun now => hsigned.get?_removeExpiredTokens_iff now k c⟩

end Machine

end Relay

end Midscale
