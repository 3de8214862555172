import Midscale.Relay.Server

/-!
# The registry of relay connections

`get_connection` over runs of `CONNECT`s, `DISCONNECT`s, heartbeats and connection losses.  A device
that reconnects is registered under its new connection while the old one may still be up; the
registry is keyed by the device alone, so the old connection takes the new registration with it
when it leaves.

* `Carries.relayStep_eq` : the events are events of the relay server.
* `RegistryInvariant.step` : what every step keeps, when no connection leaves whose device another
  live connection holds.
* `latest_registered_iff` : **the latest accepted connection of a device is the registered one as
  long as it is open, in every state of a run, if and only if no such connection leaves.**
-/

namespace Midscale

namespace Relay

/-- What a run of the registry consists of. -/
inductive RegistryEvent where
  | connectionMade (c : ℕ)
  /-- `add_valid_token`, without which no `CONNECT` with a session is accepted. -/
  | addValidToken (token sessionId : String)
  /-- A `CONNECT` with the parsed body. -/
  | connect (c : ℕ) (now : Timestamp) (data : Json)
  | disconnect (c : ℕ)
  | heartbeat (c : ℕ) (now : Timestamp) (data : Json)
  | connectionLost (c : ℕ)

/-- `connection_lost`. -/
def connectionLost (s : RelayServer) (c : ℕ) : RelayServer :=
  let deviceId := ((s.protocols.get? c).map (·.deviceId)).getD .null
  let lose (s : RelayServer) := s.modifyProtocol c fun p => { p with hasTransport := false }
  if deviceId.truthy then
    match deviceId.hashKey? with
    | some k => lose (s.unregisterConnection k)
    | none => s
  else lose s

/-- One event. -/
def registryStep (s : RelayServer) : RegistryEvent → RelayServer
  | .connectionMade c => { s with protocols := s.protocols.set c {} }
  | .addValidToken token sessionId => s.addValidToken token sessionId
  | .connect c now data => (handleConnect s c now data).1
  | .disconnect c => (handleDisconnect s c).getD s
  | .heartbeat c now data => (handleHeartbeat s c now data).1
  | .connectionLost c => connectionLost s c

/-- The event of the relay server that an event of the registry is. -/
inductive Carries (loads : Bytes → Option Json) : RelayEvent → RegistryEvent → Prop where
  | connectionMade (c : ℕ) : Carries loads (.connectionMade c) (.connectionMade c)
  | addValidToken (token sessionId : String) :
    Carries loads (.addValidToken token sessionId) (.addValidToken token sessionId)
  | connect {c : ℕ} {now : Timestamp} {body : Bytes} {data : Json} (h : loads body = some data) :
    Carries loads (.message c now (relayMagic ++ 0x04 :: body)) (.connect c now data)
  | disconnect {c : ℕ} {now : Timestamp} {body : Bytes} :
    Carries loads (.message c now (relayMagic ++ 0x06 :: body)) (.disconnect c)
  | heartbeat {c : ℕ} {now : Timestamp} {body : Bytes} {data : Json} (h : loads body = some data) :
    Carries loads (.message c now (relayMagic ++ 0x07 :: body)) (.heartbeat c now data)
  | connectionLost (c : ℕ) : Carries loads (.connectionLost c) (.connectionLost c)

/-- **The events of the registry are events of the server.** -/
theorem Carries.relayStep_eq {loads : Bytes → Option Json} {e : RelayEvent} {e' : RegistryEvent}
    (h : Carries loads e e') (s : RelayServer) : relayStep loads s e = registryStep s e' := by
  have hmagic : ∀ rest : Bytes, relayMagic.isPrefixOf (relayMagic ++ rest) = true := fun rest =>
    List.isPrefixOf_iff_prefix.2 (List.prefix_append _ _)
  cases h with
  | connectionMade c => rfl
  | addValidToken token sessionId => rfl
  | connect h => simp [relayStep, handleMessage, hmagic, h, registryStep]
  | disconnect => simp [relayStep, handleMessage, hmagic, registryStep]
  | heartbeat h => simp [relayStep, handleMessage, hmagic, h, registryStep]
  | connectionLost c => rfl

/-! ### What the history says -/

/-- The latest accepted connection for a device after one more event. -/
def noteLatest (k : Json.HashKey) (latest : Option ℕ) : RegistryEvent → Option ℕ
  | .connect c _ data =>
    if (connectField data "device_id").hashKey? = some k then some c else latest
  | _ => latest

/-- The connection whose `CONNECT` was the last one accepted for a device. -/
def latestAccepted (events : List RegistryEvent) (k : Json.HashKey) : Option ℕ :=
  events.foldl (noteLatest k) none

/-- Whether a connection is open after one more event. -/
def noteOpen (c : ℕ) (isOpen : Bool) : RegistryEvent → Bool
  | .connect c' _ _ => isOpen || c' = c
  | .disconnect c' | .connectionLost c' => isOpen && c' ≠ c
  | _ => isOpen

/-- The connection has neither disconnected nor been lost since it was accepted. -/
def isOpen (events : List RegistryEvent) (c : ℕ) : Bool := events.foldl (noteOpen c) false

/-- `get_connection(d)` is the latest accepted connection of `d` whenever that one is open. -/
def LatestRegistered (events : List RegistryEvent) (s : RelayServer) : Prop :=
  ∀ k c, latestAccepted events k = some c → isOpen events c = true →
    s.connections.get? k = some c

theorem latestAccepted_concat (events : List RegistryEvent) (e : RegistryEvent)
    (k : Json.HashKey) :
    latestAccepted (events ++ [e]) k = noteLatest k (latestAccepted events k) e := by
  rw [latestAccepted, List.foldl_append, List.foldl_cons, List.foldl_nil, ← latestAccepted]

theorem isOpen_concat (events : List RegistryEvent) (e : RegistryEvent) (c : ℕ) :
    isOpen (events ++ [e]) c = noteOpen c (isOpen events c) e := by
  rw [isOpen, List.foldl_append, List.foldl_cons, List.foldl_nil, ← isOpen]

/-! ### Protocol objects -/

namespace RelayServer

/-- The connection is up and its protocol object holds a device id with the key `k`. -/
def Holds (s : RelayServer) (c : ℕ) (k : Json.HashKey) : Prop :=
  ∃ p, s.protocols.get? c = some p ∧ p.hasTransport = true ∧ p.deviceId.hashKey? = some k

/-- `_device_id` of a connection. -/
def deviceIdOf (s : RelayServer) (c : ℕ) : Json :=
  ((s.protocols.get? c).map (·.deviceId)).getD .null

/-- The key under which the loss or disconnect of a connection unregisters. -/
def leavingKey (s : RelayServer) (c : ℕ) : Option Json.HashKey :=
  if (s.deviceIdOf c).truthy then (s.deviceIdOf c).hashKey? else none

theorem get?_modifyProtocol (s : RelayServer) (c c' : ℕ) (f : Connection → Connection) :
    (s.modifyProtocol c f).protocols.get? c' =
      if c' = c then (s.protocols.get? c).map f else s.protocols.get? c' := by
  unfold modifyProtocol
  split
  · rename_i p hp
    rw [Dict.get?_set, hp, Option.map_some]
  · rename_i hp
    split_ifs with h
    · rw [h, hp, Option.map_none]
    · rfl

@[simp] theorem connections_modifyProtocol (s : RelayServer) (c : ℕ) (f : Connection → Connection) :
    (s.modifyProtocol c f).connections = s.connections := by
  unfold modifyProtocol
  split <;> rfl

end RelayServer

/-- What a `DISCONNECT` or the loss of a connection does to the registry. -/
structure Leaves (s s' : RelayServer) (c : ℕ) : Prop where
  connections : ∀ k, s'.connections.get? k =
    if s.leavingKey c = some k then none else s.connections.get? k
  others : ∀ c', c' ≠ c → s'.protocols.get? c' = s.protocols.get? c'
  /-- The connection itself holds no device id any more. -/
  holds : ∀ k, s'.Holds c k → k = .none

theorem connections_unregisterConnection (s : RelayServer) (k k' : Json.HashKey) :
    (s.unregisterConnection k).connections.get? k' =
      if k = k' then none else s.connections.get? k' := by
  rw [RelayServer.unregisterConnection, Dict.get?_erase]
  simp only [eq_comm]

/-- The common shape of `_handle_disconnect` and `connection_lost`: unregister the device of the
connection, then assign to its protocol object. -/
def leaveWith (f : Connection → Connection) (s : RelayServer) (c : ℕ) : RelayServer :=
  if (s.deviceIdOf c).truthy then
    match (s.deviceIdOf c).hashKey? with
    | some k => (s.unregisterConnection k).modifyProtocol c f
    | none => s
  else s.modifyProtocol c f

theorem leaves_leaveWith {f : Connection → Connection}
    (hf : ∀ p k, (f p).hasTransport = true → (f p).deviceId.hashKey? = some k → k = .none)
    (s : RelayServer) (c : ℕ) : Leaves s (leaveWith f s c) c := by
  have hholds : ∀ (s₁ : RelayServer) (k : Json.HashKey), (s₁.modifyProtocol c f).Holds c k →
      k = .none := by
    rintro s₁ k ⟨p, hp, htransport, hk⟩
    rw [RelayServer.get?_modifyProtocol, if_pos rfl] at hp
    obtain ⟨q, -, rfl⟩ := Option.map_eq_some_iff.1 hp
    exact hf q k htransport hk
  have hothers : ∀ (s₁ : RelayServer) (c' : ℕ), c' ≠ c →
      (s₁.modifyProtocol c f).protocols.get? c' = s₁.protocols.get? c' := fun s₁ c' hc => by
    rw [RelayServer.get?_modifyProtocol, if_neg hc]
  by_cases htruthy : (s.deviceIdOf c).truthy = true
  · cases hkey : (s.deviceIdOf c).hashKey? with
    | none =>
      -- an exception leaves everything as it is; the device id is unhashable
      have hs : leaveWith f s c = s := by simp [leaveWith, htruthy, hkey]
      rw [hs]
      refine ⟨fun k => by simp [RelayServer.leavingKey, hkey], fun _ _ => rfl, ?_⟩
      rintro k ⟨p, hp, -, hk⟩
      rw [RelayServer.deviceIdOf, hp, Option.map_some, Option.getD_some, hk] at hkey
      cases hkey
    | some k =>
      have hs : leaveWith f s c = (s.unregisterConnection k).modifyProtocol c f := by
        simp [leaveWith, htruthy, hkey]
      rw [hs]
      refine ⟨fun k' => ?_, fun c' hc => hothers _ c' hc, hholds _⟩
      rw [RelayServer.connections_modifyProtocol, connections_unregisterConnection]
      simp [RelayServer.leavingKey, htruthy, hkey]
  · have hs : leaveWith f s c = s.modifyProtocol c f := by simp [leaveWith, htruthy]
    rw [hs]
    refine ⟨fun k' => ?_, fun c' hc => hothers _ c' hc, hholds _⟩
    rw [RelayServer.connections_modifyProtocol]
    simp [RelayServer.leavingKey, htruthy]

theorem handleDisconnect_eq (s : RelayServer) (c : ℕ) : (handleDisconnect s c).getD s =
    leaveWith (fun p => { p with sessionToken := .null, deviceId := .null }) s c := by
  change ((if (s.deviceIdOf c).truthy then (s.deviceIdOf c).hashKey?.map _ else some _).getD s) = _
  unfold leaveWith
  by_cases htruthy : (s.deviceIdOf c).truthy = true
  · cases hkey : (s.deviceIdOf c).hashKey? <;> simp [htruthy]
  · simp [htruthy]

theorem leaves_disconnect (s : RelayServer) (c : ℕ) :
    Leaves s ((handleDisconnect s c).getD s) c := by
  rw [handleDisconnect_eq]
  refine leaves_leaveWith (fun p k _ hk => ?_) s c
  exact (Option.some.inj hk).symm

theorem leaves_connectionLost (s : RelayServer) (c : ℕ) : Leaves s (connectionLost s c) c :=
  leaves_leaveWith (f := fun p => { p with hasTransport := false })
    (fun p k htransport _ => by cases htransport) s c

theorem handleConnect_eq_of_connected {s : RelayServer} {c : ℕ} {now : Timestamp} {data : Json}
    (h : (handleConnect s c now data).2 = .connected) :
    ∃ k f, (connectField data "device_id").hashKey? = some k ∧
      (∀ p, (f p).deviceId = connectField data "device_id" ∧
        (f p).hasTransport = p.hasTransport) ∧
      (handleConnect s c now data).1 = (s.modifyProtocol c f).registerConnection k c now := by
  obtain ⟨⟨fields, rfl⟩, ⟨d, hd⟩, k, hk, hs⟩ := handleConnect_eq_connected_iff.1 h
  refine ⟨d, fun p => { p with
    sessionToken := connectField (.obj fields) "token"
    deviceId := connectField (.obj fields) "device_id" }, hd, fun p => ⟨rfl, rfl⟩, ?_⟩
  simp only [handleConnect, RelayServer.validateSession, storedSession_modifyProtocol, hk,
    Option.map_some, ← hs, decide_true, hd]

theorem handleHeartbeat_frame (s : RelayServer) (c : ℕ) (now : Timestamp) (data : Json) :
    (handleHeartbeat s c now data).1.connections = s.connections ∧
      (handleHeartbeat s c now data).1.protocols = s.protocols := by
  cases data with
  | obj fields =>
    simp only [handleHeartbeat]
    split_ifs
    · split <;> exact ⟨rfl, rfl⟩
    · exact ⟨rfl, rfl⟩
  | _ => exact ⟨rfl, rfl⟩

theorem leavingKey_ne_none {s : RelayServer} {c : ℕ} {k : Json.HashKey}
    (h : s.leavingKey c = some k) : k ≠ .none := by
  rintro rfl
  unfold RelayServer.leavingKey at h
  revert h
  cases s.deviceIdOf c with
  | float x =>
    simp only [Json.hashKey?]
    split_ifs
    · split <;> simp
    · simp
  | bool b => cases b <;> simp [Json.hashKey?, Json.truthy]
  | _ => simp [Json.hashKey?, Json.truthy]

/-! ### The invariant -/

/-- What the runs are about: connections are made once, and every `CONNECT` arrives on a connection
that is up, carries the device id of that connection and is accepted. -/
def WellFormed (device : ℕ → Json) (s : RelayServer) : RegistryEvent → Prop
  | .connectionMade c => s.protocols.get? c = none
  | .connect c now data =>
    (∃ p, s.protocols.get? c = some p ∧ p.hasTransport = true) ∧
      connectField data "device_id" = device c ∧ (handleConnect s c now data).2 = .connected
  | _ => True

/-- A connection does not leave while its device is registered to another connection that is up and
holds it. -/
def LeavesNoOther (s : RelayServer) : RegistryEvent → Prop
  | .disconnect c | .connectionLost c =>
    ∀ k c', s.leavingKey c = some k → s.connections.get? k = some c' → s.Holds c' k → c' = c
  | _ => True

/-- What the registry keeps as long as no connection takes another one's registration with it. -/
structure RegistryInvariant (device : ℕ → Json) (events : List RegistryEvent) (s : RelayServer) :
    Prop where
  registered : LatestRegistered events s
  latest : ∀ k c, k ≠ .none → s.connections.get? k = some c → s.Holds c k →
    latestAccepted events k = some c ∧ isOpen events c = true
  /-- Each connection connects as one device. -/
  device_key : ∀ k c, latestAccepted events k = some c → (device c).hashKey? = some k
  up : ∀ c, isOpen events c = true →
    ∃ p, s.protocols.get? c = some p ∧ p.hasTransport = true ∧ p.deviceId = device c

section Steps

variable {device : ℕ → Json} {events : List RegistryEvent} {s : RelayServer}

theorem RegistryInvariant.of_frame (h : RegistryInvariant device events s) {s' : RelayServer}
    {e : RegistryEvent} (hlatest : ∀ k o, noteLatest k o e = o) (hopen : ∀ c b, noteOpen c b e = b)
    (hconn : s'.connections = s.connections)
    (hholds : ∀ c k, k ≠ .none → s'.Holds c k → s.Holds c k)
    (hup : ∀ c p, s.protocols.get? c = some p → s'.protocols.get? c = some p) :
    RegistryInvariant device (events ++ [e]) s' where
  registered k c := by
    rw [latestAccepted_concat, isOpen_concat, hlatest, hopen, hconn]
    exact h.registered k c
  latest k c hk hget hc := by
    rw [latestAccepted_concat, isOpen_concat, hlatest, hopen]
    rw [hconn] at hget
    exact h.latest k c hk hget (hholds c k hk hc)
  device_key k c := by
    rw [latestAccepted_concat, hlatest]
    exact h.device_key k c
  up c := by
    rw [isOpen_concat, hopen]
    intro hc
    obtain ⟨p, hp, hrest⟩ := h.up c hc
    exact ⟨p, hup c p hp, hrest⟩

/-- An accepted `CONNECT` keeps the invariant. -/
theorem RegistryInvariant.connect (h : RegistryInvariant device events s) {c : ℕ}
    {now : Timestamp} {data : Json} (hwf : WellFormed device s (.connect c now data)) :
    RegistryInvariant device (events ++ [.connect c now data])
      (registryStep s (.connect c now data)) := by
  obtain ⟨⟨p, hp, htransport⟩, hdevice, hconn⟩ := hwf
  obtain ⟨k₀, f, hk₀, hf, heq⟩ := handleConnect_eq_of_connected hconn
  rw [registryStep, heq]
  have hget : ∀ k, ((s.modifyProtocol c f).registerConnection k₀ c now).connections.get? k =
      if k = k₀ then some c else s.connections.get? k := fun k => by
    rw [RelayServer.registerConnection, Dict.get?_set, RelayServer.connections_modifyProtocol]
  have hproto : ∀ c', ((s.modifyProtocol c f).registerConnection k₀ c now).protocols.get? c' =
      if c' = c then (s.protocols.get? c).map f else s.protocols.get? c' :=
    fun c' => RelayServer.get?_modifyProtocol s c c' f
  have hkey : ∀ k, (device c).hashKey? = some k ↔ k = k₀ := fun k => by
    rw [← hdevice, hk₀, Option.some.injEq, eq_comm]
  refine ⟨fun k c' => ?_, fun k c' hk => ?_, fun k c' => ?_, fun c' => ?_⟩
  · rw [latestAccepted_concat, isOpen_concat, hget]
    simp only [noteLatest, hk₀, Option.some.injEq, noteOpen]
    by_cases hk : k₀ = k
    · subst hk
      rw [if_pos rfl, if_pos rfl]
      exact fun hc _ => hc
    · rw [if_neg hk, if_neg (Ne.symm hk)]
      intro hlatest hopen
      -- the connection is accepted for `k₀`, so it cannot be the latest one of another device
      have hne : c ≠ c' := by
        rintro rfl
        exact hk ((hkey k).1 (h.device_key k c hlatest)).symm
      rw [decide_eq_false hne, Bool.or_false] at hopen
      exact h.registered k c' hlatest hopen
  · rw [latestAccepted_concat, isOpen_concat, hget]
    simp only [noteLatest, hk₀, Option.some.injEq, noteOpen]
    by_cases hkk : k₀ = k
    · subst hkk
      rw [if_pos rfl, if_pos rfl, Option.some.injEq]
      rintro rfl -
      exact ⟨rfl, by simp⟩
    · rw [if_neg hkk, if_neg (Ne.symm hkk)]
      rintro hreg ⟨q, hq, hqt, hqk⟩
      rw [hproto] at hq
      have hne : c' ≠ c := by
        rintro rfl
        rw [if_pos rfl, hp, Option.map_some, Option.some.injEq] at hq
        subst hq
        rw [(hf p).1, hk₀, Option.some.injEq] at hqk
        exact hkk hqk
      rw [if_neg hne] at hq
      obtain ⟨hlatest, hopen⟩ := h.latest k c' hk hreg ⟨q, hq, hqt, hqk⟩
      exact ⟨hlatest, by rw [hopen, Bool.true_or]⟩
  · rw [latestAccepted_concat]
    simp only [noteLatest, hk₀, Option.some.injEq]
    split_ifs with hk
    · rw [Option.some.injEq]
      rintro rfl
      exact (hkey k).2 hk.symm
    · exact h.device_key k c'
  · rw [isOpen_concat, hproto]
    by_cases hc : c' = c
    · subst hc
      intro _
      exact ⟨f p, by rw [if_pos rfl, hp]; rfl, (hf p).2.trans htransport,
        (hf p).1.trans hdevice⟩
    · rw [if_neg hc]
      simp only [noteOpen, decide_eq_false (Ne.symm hc), Bool.or_false]
      exact h.up c'

/-- A connection that leaves keeps the invariant, unless it takes another registration with it. -/
theorem RegistryInvariant.leave (h : RegistryInvariant device events s) {s' : RelayServer} {c : ℕ}
    {e : RegistryEvent} (he : e = .disconnect c ∨ e = .connectionLost c) (hleave : Leaves s s' c)
    (hok : LeavesNoOther s e) : RegistryInvariant device (events ++ [e]) s' := by
  have hlatest : ∀ k o, noteLatest k o e = o := by rcases he with rfl | rfl <;> exact fun _ _ => rfl
  have hopen : ∀ c' b, noteOpen c' b e = (b && c ≠ c') := by
    rcases he with rfl | rfl <;> exact fun _ _ => rfl
  have hok : ∀ k c', s.leavingKey c = some k → s.connections.get? k = some c' → s.Holds c' k →
      c' = c := by
    rcases he with rfl | rfl <;> exact hok
  refine ⟨fun k c' => ?_, fun k c' hk => ?_, fun k c' => ?_, fun c' => ?_⟩
  · rw [latestAccepted_concat, isOpen_concat, hlatest, hopen, hleave.connections]
    simp only [Bool.and_eq_true, decide_eq_true_eq]
    rintro hl ⟨ho, hne⟩
    have hreg := h.registered k c' hl ho
    -- the registration stays, since the connection it is for is up and holds the device
    rw [if_neg, hreg]
    intro hkey
    obtain ⟨p, hp, htransport, hdevice⟩ := h.up c' ho
    refine hne (hok k c' hkey hreg ⟨p, hp, htransport, ?_⟩).symm
    rw [hdevice]
    exact h.device_key k c' hl
  · rw [latestAccepted_concat, isOpen_concat, hlatest, hopen, hleave.connections]
    intro hreg hholds
    have hne : c' ≠ c := by
      rintro rfl
      exact hk (hleave.holds k hholds)
    obtain ⟨p, hp, hrest⟩ := hholds
    rw [hleave.others c' hne] at hp
    split_ifs at hreg
    obtain ⟨hl, ho⟩ := h.latest k c' hk hreg ⟨p, hp, hrest⟩
    exact ⟨hl, by simpa [ho] using Ne.symm hne⟩
  · rw [latestAccepted_concat, hlatest]
    exact h.device_key k c'
  · rw [isOpen_concat, hopen]
    simp only [Bool.and_eq_true, decide_eq_true_eq]
    rintro ⟨ho, hne⟩
    rw [hleave.others c' (Ne.symm hne)]
    exact h.up c' ho

/-- **One step keeps the invariant** when no other registration leaves with a connection. -/
theorem RegistryInvariant.step (h : RegistryInvariant device events s) {e : RegistryEvent}
    (hwf : WellFormed device s e) (hok : LeavesNoOther s e) :
    RegistryInvariant device (events ++ [e]) (registryStep s e) := by
  cases e with
  | connectionMade c =>
    have hother : ∀ c' p, s.protocols.get? c' = some p → c' ≠ c := by
      rintro c' p hp rfl
      rw [WellFormed] at hwf
      rw [hwf] at hp
      cases hp
    refine h.of_frame (fun _ _ => rfl) (fun _ _ => rfl) rfl ?_ fun c' p hp => ?_
    · rintro c' k hk ⟨p, hp, hrest⟩
      simp only [registryStep, Dict.get?_set] at hp
      split_ifs at hp
      · cases hp
        exact absurd (Option.some.inj hrest.2).symm hk
      · exact ⟨p, hp, hrest⟩
    · simp only [registryStep]
      rw [Dict.get?_set_of_ne _ _ (hother c' p hp), hp]
  | addValidToken token sessionId =>
    exact h.of_frame (fun _ _ => rfl) (fun _ _ => rfl) rfl (fun _ _ _ hc => hc) fun _ _ hp => hp
  | connect c now data => exact h.connect hwf
  | disconnect c => exact h.leave (.inl rfl) (leaves_disconnect s c) hok
  | heartbeat c now data =>
    obtain ⟨hconn, hproto⟩ := handleHeartbeat_frame s c now data
    refine h.of_frame (fun _ _ => rfl) (fun _ _ => rfl) hconn ?_ fun c' p hp => hproto ▸ hp
    rintro c' k - ⟨p, hp, hrest⟩
    exact ⟨p, hproto ▸ hp, hrest⟩
  | connectionLost c => exact h.leave (.inr rfl) (leaves_connectionLost s c) hok

theorem RegistryInvariant.not_registered (h : RegistryInvariant device events s)
    {e : RegistryEvent} (hok : ¬ LeavesNoOther s e) :
    ¬ LatestRegistered (events ++ [e]) (registryStep s e) := by
  obtain ⟨c, he, hleave⟩ : ∃ c, (e = .disconnect c ∨ e = .connectionLost c) ∧
      Leaves s (registryStep s e) c := by
    cases e with
    | disconnect c => exact ⟨c, .inl rfl, leaves_disconnect s c⟩
    | connectionLost c => exact ⟨c, .inr rfl, leaves_connectionLost s c⟩
    | _ => exact absurd trivial hok
  have hex : ∃ k c', s.leavingKey c = some k ∧ s.connections.get? k = some c' ∧ s.Holds c' k ∧
      c' ≠ c := by
    rcases he with rfl | rfl <;> simpa [LeavesNoOther] using hok
  obtain ⟨k, c', hkey, hreg, hholds, hne⟩ := hex
  have hk : k ≠ .none := leavingKey_ne_none hkey
  obtain ⟨hlatest, hopen⟩ := h.latest k c' hk hreg hholds
  intro hafter
  have hgone : (registryStep s e).connections.get? k = some c' := by
    refine hafter k c' ?_ ?_
    · rw [latestAccepted_concat]
      rcases he with rfl | rfl <;> exact hlatest
    · rw [isOpen_concat]
      rcases he with rfl | rfl <;> simpa [noteOpen, hopen] using Ne.symm hne
  rw [hleave.connections, if_pos hkey] at hgone
  cases hgone

end Steps

theorem registryInvariant_run {device : ℕ → Json} {events : List RegistryEvent}
    (hwf : Admissible registryStep (WellFormed device) {} events)
    (hok : Admissible registryStep LeavesNoOther {} events) :
    RegistryInvariant device events (run registryStep {} events) := by
  induction events using List.reverseRecOn with
  | nil =>
    refine ⟨fun k c h => ?_, fun k c _ h => ?_, fun k c h => ?_, fun c h => ?_⟩ <;> cases h
  | append_singleton events e ih =>
    rw [admissible_append] at hwf hok
    rw [run_concat]
    exact (ih hwf.1 hok.1).step hwf.2.1 hok.2.1

/-- **When the registry follows the latest connections**: in every state of a run
`get_connection(d)` is the latest accepted connection of `d` whenever that one is open, if and only
if no connection leaves while its device is registered to another live connection. -/
theorem latest_registered_iff (device : ℕ → Json) {events : List RegistryEvent}
    (hwf : Admissible registryStep (WellFormed device) {} events) :
    (∀ pre, pre <+: events → LatestRegistered pre (run registryStep {} pre)) ↔
      Admissible registryStep LeavesNoOther {} events := by
  constructor
  · intro hall
    induction events using List.reverseRecOn with
    | nil => trivial
    | append_singleton events e ih =>
      rw [admissible_append] at hwf ⊢
      have hpre := ih hwf.1 fun pre hpre => hall pre (hpre.trans (List.prefix_append _ _))
      refine ⟨hpre, ?_, trivial⟩
      by_contra hnot
      refine (registryInvariant_run hwf.1 hpre).not_registered hnot ?_
      rw [← run_concat registryStep]
      exact hall _ List.prefix_rfl
  · intro hok pre hpre
    exact (registryInvariant_run (hwf.of_prefix _ hpre) (hok.of_prefix _ hpre)).registered

/-- The body of a `CONNECT` of the device `laptop`. -/
def laptopConnect : Json :=
  .obj [("token", .str "t"), ("device_id", .str "laptop"), ("session_id", .str "s")]

/-- A device that disconnects before it connects anew stays registered, also when its old socket is
lost afterwards. -/
theorem latest_registered_reconnect :
    let events : List RegistryEvent := [.addValidToken "t" "s", .connectionMade 1,
      .connect 1 0 laptopConnect, .disconnect 1, .connectionMade 2, .connect 2 5 laptopConnect,
      .heartbeat 2 9 (.obj []), .connectionLost 1]
    ∀ pre, pre <+: events → LatestRegistered pre (run registryStep {} pre) := by
  refine (latest_registered_iff (fun _ => .str "laptop") ?_).2 ?_
  · exact ⟨trivial, rfl, ⟨⟨_, rfl, rfl⟩, rfl, by decide⟩, trivial, rfl,
      ⟨⟨_, rfl, rfl⟩, rfl, by decide⟩, trivial, trivial, trivial⟩
  · refine ⟨trivial, trivial, trivial, ?_, trivial, trivial, trivial, ?_, trivial⟩
    · intro k c' hkey hreg _
      obtain rfl : Json.HashKey.str "laptop" = k := Option.some.inj hkey
      exact (Option.some.inj hreg).symm
    · intro k c' hkey
      cases hkey

/-- The late loss of the old connection of a device removes its new registration. -/
theorem late_loss_unregisters :
    let events : List RegistryEvent := [.addValidToken "t" "s", .connectionMade 1,
      .connect 1 0 laptopConnect, .connectionMade 2, .connect 2 5 laptopConnect, .connectionLost 1]
    Admissible registryStep (WellFormed fun _ => .str "laptop") {} events ∧
    latestAccepted events (.str "laptop") = some 2 ∧ isOpen events 2 = true ∧
    (run registryStep {} events).connections.get? (.str "laptop") = none ∧
    ¬ LatestRegistered events (run registryStep {} events) := by
  refine ⟨⟨trivial, rfl, ⟨⟨_, rfl, rfl⟩, rfl, by decide⟩, rfl, ⟨⟨_, rfl, rfl⟩, rfl, by decide⟩,
    trivial, trivial⟩, by decide, by decide, by decide, fun h => ?_⟩
  have hreg := h (.str "laptop") 2 (by decide) (by decide)
  cases hreg

end Relay

end Midscale
