import Midscale.Relay.Registry

/-!
# Connections that never authenticated

Everything a client can do on a connection before one of its `CONNECT`s is accepted: any frames,
then the loss of the connection.  `_handle_connect` stores the device id of the frame before it
looks at the token, and the other handlers ask for nothing else.

* `tables_handleMessage_iff`, `sent_handleMessage_iff` : when one frame leaves the tables alone, and
  when it reaches nobody else.
* `inert_iff` : **the frames and the loss leave the three tables unchanged and reach no other
  connection, if and only if no `DATA` frame names a device that is registered elsewhere, no
  heartbeat is sent under a claimed device id, and no connection leaves under the id of a device
  that the tables mention.**
* `rejected_connect_unregisters` : a rejected `CONNECT` with the id of another device, and that
  device is unregistered when the connection closes.
-/

namespace Midscale

namespace Relay

/-! ### What is observed -/

/-- `_connections`, `_heartbeats` and `_valid_tokens` are the same. -/
structure RelayServer.SameTables (s s' : RelayServer) : Prop where
  connections : s'.connections = s.connections
  heartbeats : s'.heartbeats = s.heartbeats
  validTokens : s'.validTokens = s.validTokens

namespace RelayServer.SameTables

variable {s s₁ s₂ : RelayServer}

theorem refl (s : RelayServer) : s.SameTables s := ⟨rfl, rfl, rfl⟩

theorem symm (h : s.SameTables s₁) : s₁.SameTables s :=
  ⟨h.connections.symm, h.heartbeats.symm, h.validTokens.symm⟩

theorem trans (h : s.SameTables s₁) (h' : s₁.SameTables s₂) : s.SameTables s₂ :=
  ⟨h'.connections.trans h.connections, h'.heartbeats.trans h.heartbeats,
    h'.validTokens.trans h.validTokens⟩

theorem modifyProtocol (s : RelayServer) (c : ℕ) (f : Connection → Connection) :
    s.SameTables (s.modifyProtocol c f) := by
  unfold RelayServer.modifyProtocol
  split <;> exact ⟨rfl, rfl, rfl⟩

end RelayServer.SameTables

open RelayServer (SameTables)

section Machine

variable (loads : Bytes → Option Json)

/-- The frames that an event writes. -/
def sentBy (s : RelayServer) : RelayEvent → Sent
  | .message c now payload => (handleMessage loads s c now payload).2
  | _ => []

/-- The frames written along a run. -/
def sentAlong : RelayServer → List RelayEvent → Sent
  | _, [] => []
  | s, e :: es => sentBy loads s e ++ sentAlong (relayStep loads s e) es

/-- In every state of the run the tables are those of its start, and no frame was written to a
connection other than `c`. -/
def Inert (c : ℕ) (s : RelayServer) (events : List RelayEvent) : Prop :=
  ∀ pre, pre <+: events → s.SameTables (run (relayStep loads) s pre) ∧
    ∀ frame ∈ sentAlong loads s pre, frame.1 = c

end Machine

/-- The frames on a connection, with the clock at each, and then its loss. -/
def connectionEvents (c : ℕ) (frames : List (Timestamp × Bytes)) : List RelayEvent :=
  frames.map (fun f => .message c f.1 f.2) ++ [.connectionLost c]

/-! ### One frame -/

/-- The message type and the body of a payload with the magic. -/
def parseFrame (payload : Bytes) : Option (UInt8 × Bytes) :=
  if relayMagic.isPrefixOf payload then
    match payload.drop relayMagic.length with
    | [] => none
    | msgType :: body => some (msgType, body)
  else none

/-- The body of the frame that a `DATA` frame from `c` is forwarded as. -/
def forwardBody (s : RelayServer) (c : ℕ) (relayData : Bytes) : Bytes :=
  ascii (Json.obj [("from_device_id", s.deviceIdOf c), ("data", .str (hex relayData))]).dumps

/-- The device that the body of a `DATA` frame names, and the data for it. -/
def dataTarget (body : Bytes) : Option (String × Bytes) :=
  match body.drop (body.takeWhile (· ≠ 124)).length, decodeUtf8 (body.takeWhile (· ≠ 124)) with
  | _ :: relayData, some target => some (target, relayData)
  | _, _ => none

/-- The connection is up. -/
def RelayServer.IsUp (s : RelayServer) (c : ℕ) : Prop :=
  ∃ p, s.protocols.get? c = some p ∧ p.hasTransport = true

/-- The body names a device registered to another connection that is up, and the forwarded message
fits the length field of a frame. -/
def ReachesOther (s : RelayServer) (c : ℕ) (body : Bytes) : Prop :=
  ∃ target relayData c', dataTarget body = some (target, relayData) ∧
    s.connections.get? (.str target) = some c' ∧ c' ≠ c ∧ s.IsUp c' ∧
    (payloadOf 0x03 (forwardBody s c relayData)).length < 2 ^ 32

/-- The tables mention the device that the connection claims to be. -/
def ClaimsKnown (s : RelayServer) (c : ℕ) : Prop :=
  ∃ k, s.leavingKey c = some k ∧ (s.connections.get? k ≠ none ∨ s.heartbeats.get? k ≠ none ∨
    ∃ e ∈ s.validTokens.items, Json.HashKey.str e.2 = k)

/-- The connection claims to be a device whose heartbeat is not already the one of `now`. -/
def BeatsFor (s : RelayServer) (c : ℕ) (now : Timestamp) : Prop :=
  ∃ k, s.leavingKey c = some k ∧ s.heartbeats.get? k ≠ some now

/-! ### Sending -/

theorem packHeader_eq_none_iff {n : ℕ} : packHeader n = none ↔ ¬ n < 2 ^ 32 := by
  unfold packHeader
  split_ifs with h
  · exact iff_of_false not_false (not_not_intro h)
  · exact iff_of_true rfl h

namespace RelayServer

variable {s : RelayServer} {c : ℕ} {msgType : UInt8} {body : Bytes}

theorem fst_of_mem_send {frame : ℕ × Bytes} (h : frame ∈ s.send c msgType body) : frame.1 = c := by
  unfold send at h
  split at h
  · split_ifs at h
    · split at h
      · rw [List.mem_singleton.1 h]
      · cases h
    · cases h
  · cases h

theorem send_ne_nil_iff :
    s.send c msgType body ≠ [] ↔ s.IsUp c ∧ (payloadOf msgType body).length < 2 ^ 32 := by
  have hfits : RelayProtocol.sendMessage msgType body = none ↔
      ¬ (payloadOf msgType body).length < 2 ^ 32 := by
    rw [← packHeader_eq_none_iff]
    exact Option.map_eq_none_iff
  unfold send IsUp
  cases s.protocols.get? c with
  | none => simp
  | some p =>
    by_cases hp : p.hasTransport = true
    · have hup : ∃ q, some p = some q ∧ q.hasTransport = true := ⟨p, rfl, hp⟩
      simp only [if_pos hp, iff_true_intro hup, true_and]
      cases hframe : RelayProtocol.sendMessage msgType body with
      | none => exact iff_of_false (not_not_intro rfl) (hfits.1 hframe)
      | some frame =>
        refine iff_of_true (List.cons_ne_nil _ _) ?_
        by_contra hlt
        rw [hfits.2 hlt] at hframe
        cases hframe
    · simp [hp]

end RelayServer

theorem handleData_eq (s : RelayServer) (c : ℕ) (body : Bytes) :
    handleData s c body = ((dataTarget body).bind fun t => (s.connections.get? (.str t.1)).map
      fun c' => s.send c' 0x03 (forwardBody s c t.2)).getD [] := by
  simp only [handleData, dataTarget]
  cases body.drop (body.takeWhile (· ≠ 124)).length with
  | nil => rfl
  | cons bar relayData =>
    cases decodeUtf8 (body.takeWhile (· ≠ 124)) with
    | none => rfl
    | some target =>
      simp only [Option.bind_some]
      cases s.connections.get? (.str target) <;> rfl

/-- **Whom a `DATA` frame reaches.** -/
theorem handleData_iff {s : RelayServer} {c : ℕ} {body : Bytes} :
    (∀ frame ∈ handleData s c body, frame.1 = c) ↔ ¬ ReachesOther s c body := by
  rw [handleData_eq]
  unfold ReachesOther
  cases htarget : dataTarget body with
  | none => simp
  | some t =>
    obtain ⟨target, relayData⟩ := t
    cases hconn : s.connections.get? (.str target) with
    | none => simp [hconn]
    | some c' =>
      simp only [Option.bind_some, hconn, Option.map_some, Option.getD_some]
      have hsend := @RelayServer.send_ne_nil_iff s c' 0x03 (forwardBody s c relayData)
      constructor
      · rintro hall ⟨_, _, c₀, ht, hc₀, hne, hrest⟩
        cases ht
        rw [hconn] at hc₀
        cases hc₀
        obtain ⟨frame, hframe⟩ := List.exists_mem_of_ne_nil _ (hsend.2 hrest)
        exact hne ((RelayServer.fst_of_mem_send hframe).symm.trans (hall frame hframe))
      · intro hnot frame hframe
        rw [RelayServer.fst_of_mem_send hframe]
        by_contra hne
        exact hnot ⟨target, relayData, c', rfl, hconn, hne,
          hsend.1 (List.ne_nil_of_mem hframe)⟩

/-! ### What touches the tables -/

theorem sameTables_unregisterConnection_iff {s : RelayServer} {k : Json.HashKey} :
    s.SameTables (s.unregisterConnection k) ↔ s.connections.get? k = none ∧
      s.heartbeats.get? k = none ∧ ∀ e ∈ s.validTokens.items, Json.HashKey.str e.2 ≠ k := by
  rw [← Dict.erase_eq_self_iff, ← Dict.erase_eq_self_iff]
  have htokens : (s.unregisterConnection k).validTokens = s.validTokens ↔
      ∀ e ∈ s.validTokens.items, Json.HashKey.str e.2 ≠ k := by
    rw [RelayServer.unregisterConnection, Dict.filter_eq_self_iff]
    simp
  rw [← htokens]
  exact ⟨fun h => ⟨h.connections, h.heartbeats, h.validTokens⟩, fun h => ⟨h.1, h.2.1, h.2.2⟩⟩

/-- **A connection leaves without a trace** unless the tables mention the device it claims to be. -/
theorem sameTables_leaveWith_iff {f : Connection → Connection} {s : RelayServer} {c : ℕ} :
    s.SameTables (leaveWith f s c) ↔ ¬ ClaimsKnown s c := by
  have hmodify : ∀ s₁ : RelayServer, s.SameTables (s₁.modifyProtocol c f) ↔ s.SameTables s₁ :=
    fun s₁ => ⟨fun h => h.trans (SameTables.modifyProtocol s₁ c f).symm,
      fun h => h.trans (SameTables.modifyProtocol s₁ c f)⟩
  unfold leaveWith ClaimsKnown RelayServer.leavingKey
  by_cases htruthy : (s.deviceIdOf c).truthy = true
  · rw [if_pos htruthy, if_pos htruthy]
    cases (s.deviceIdOf c).hashKey? with
    | none => simp [SameTables.refl s]
    | some k =>
      simp only [hmodify, sameTables_unregisterConnection_iff, Option.some.injEq, exists_eq_left',
        not_or, not_exists, not_and, ne_eq, not_not]
  · rw [if_neg htruthy, if_neg htruthy, hmodify]
    simp [SameTables.refl s]

theorem sameTables_handleHeartbeat_iff {s : RelayServer} {c : ℕ} {now : Timestamp}
    {fields : List (String × Json)} :
    s.SameTables (handleHeartbeat s c now (.obj fields)).1 ↔ ¬ BeatsFor s c now := by
  unfold BeatsFor RelayServer.leavingKey
  simp only [handleHeartbeat]
  change s.SameTables (if (s.deviceIdOf c).truthy then _ else _ : RelayServer × Sent).1 ↔ _
  by_cases htruthy : (s.deviceIdOf c).truthy = true
  · rw [if_pos htruthy, if_pos htruthy]
    rw [← RelayServer.deviceIdOf]
    cases (s.deviceIdOf c).hashKey? with
    | none => simp [SameTables.refl s]
    | some k =>
      simp only [Option.some.injEq, exists_eq_left', ne_eq, not_not, ← Dict.set_eq_self_iff]
      exact ⟨fun h => h.heartbeats, fun h => ⟨rfl, h, rfl⟩⟩
  · rw [if_neg htruthy, if_neg htruthy]
    simp [SameTables.refl s]

theorem sameTables_handleConnect {s : RelayServer} {c : ℕ} {now : Timestamp} {data : Json}
    (h : (handleConnect s c now data).2 ≠ .connected) :
    s.SameTables (handleConnect s c now data).1 := by
  cases data with
  | obj fields =>
    revert h
    simp only [handleConnect]
    split
    · split
      · exact fun h => absurd rfl h
      · exact fun _ => SameTables.modifyProtocol s c _
    · exact fun _ => SameTables.modifyProtocol s c _
    · exact fun _ => SameTables.modifyProtocol s c _
  | _ => exact SameTables.refl s

/-! ### Unauthenticated connections -/

section Machine

variable (loads : Bytes → Option Json)

/-- The event is not a `CONNECT` that is accepted. -/
def Unaccepted (s : RelayServer) : RelayEvent → Prop
  | .message c now payload => ∀ body data, parseFrame payload = some (0x04, body) →
      loads body = some data → (handleConnect s c now data).2 ≠ .connected
  | _ => True

/-- A frame neither touches the tables nor reaches another connection: it is no `DATA` for a device
that is registered elsewhere, no `DISCONNECT` under a claimed device id that the tables mention, and
no heartbeat under a claimed device id. -/
structure HarmlessFrame (s : RelayServer) (c : ℕ) (now : Timestamp) (msgType : UInt8)
    (body : Bytes) : Prop where
  data : msgType = 0x03 → ¬ ReachesOther s c body
  disconnect : msgType = 0x06 → ¬ ClaimsKnown s c
  heartbeat : msgType = 0x07 → ∀ fields, loads body = some (.obj fields) → ¬ BeatsFor s c now

/-- A frame is harmless, and a connection that is lost claims no device that the tables mention. -/
def Harmless (s : RelayServer) : RelayEvent → Prop
  | .message c now payload => ∀ msgType body, parseFrame payload = some (msgType, body) →
      HarmlessFrame loads s c now msgType body
  | .connectionLost c => ¬ ClaimsKnown s c
  | _ => True

/-- What the server does with a frame of the given type. -/
def handleFrame (s : RelayServer) (c : ℕ) (now : Timestamp) (msgType : UInt8) (body : Bytes) :
    RelayServer × Sent :=
  if msgType = 0x01 then (s, s.send c 0x02 [])
  else if msgType = 0x04 then
    match loads body with
    | some data =>
      let (s', result) := handleConnect s c now data
      (s', match connectAck data result with
        | some ack => s'.send c 0x05 (ascii ack.dumps)
        | none => [])
    | none => (s, [])
  else if msgType = 0x03 then (s, handleData s c body)
  else if msgType = 0x06 then ((handleDisconnect s c).getD s, [])
  else if msgType = 0x07 then
    match loads body with
    | some data => handleHeartbeat s c now data
    | none => (s, [])
  else (s, [])

theorem handleMessage_eq (s : RelayServer) (c : ℕ) (now : Timestamp) (payload : Bytes) :
    handleMessage loads s c now payload = match parseFrame payload with
      | some (msgType, body) => handleFrame loads s c now msgType body
      | none => (s, []) := by
  unfold handleMessage parseFrame
  split_ifs
  · generalize payload.drop relayMagic.length = inner
    cases inner <;> rfl
  · rfl

theorem fst_of_mem_handleHeartbeat {s : RelayServer} {c : ℕ} {now : Timestamp} {data : Json}
    {frame : ℕ × Bytes} (h : frame ∈ (handleHeartbeat s c now data).2) : frame.1 = c := by
  cases data with
  | obj fields =>
    simp only [handleHeartbeat] at h
    generalize ascii _ = ack at h
    split_ifs at h
    · split at h
      · exact RelayServer.fst_of_mem_send h
      · cases h
    · exact RelayServer.fst_of_mem_send h
  | _ => cases h

theorem HarmlessFrame.of_ne {s : RelayServer} {c : ℕ} {now : Timestamp} {msgType : UInt8}
    {body : Bytes} (hdata : msgType ≠ 0x03) (hdisconnect : msgType ≠ 0x06)
    (hheartbeat : msgType ≠ 0x07) : HarmlessFrame loads s c now msgType body :=
  ⟨fun h => absurd h hdata, fun h => absurd h hdisconnect, fun h => absurd h hheartbeat⟩

/-- Nothing happened that the tables or another connection could notice. -/
def Unnoticed (s : RelayServer) (c : ℕ) (r : RelayServer × Sent) : Prop :=
  s.SameTables r.1 ∧ ∀ frame ∈ r.2, frame.1 = c

theorem Unnoticed.send (s : RelayServer) (c : ℕ) (msgType : UInt8) (body : Bytes) :
    Unnoticed s c (s, s.send c msgType body) :=
  ⟨SameTables.refl s, fun _ => RelayServer.fst_of_mem_send⟩

theorem unnoticed_silent_iff {s s' : RelayServer} {c : ℕ} :
    Unnoticed s c (s', []) ↔ s.SameTables s' :=
  ⟨fun h => h.1, fun h => ⟨h, fun _ hf => by cases hf⟩⟩

theorem Unnoticed.nothing (s : RelayServer) (c : ℕ) : Unnoticed s c (s, []) :=
  unnoticed_silent_iff.2 (SameTables.refl s)

theorem unnoticed_connect {s : RelayServer} {c : ℕ} {now : Timestamp} {body : Bytes}
    (h : ∀ data, loads body = some data → (handleConnect s c now data).2 ≠ .connected) :
    Unnoticed s c (handleFrame loads s c now 0x04 body) := by
  simp only [handleFrame, if_neg (show ¬ (0x04 : UInt8) = 0x01 by decide), if_true]
  cases hdata : loads body with
  | none => exact Unnoticed.nothing s c
  | some data =>
    refine ⟨sameTables_handleConnect (h data hdata), fun frame hf => ?_⟩
    simp only at hf
    split at hf
    · exact RelayServer.fst_of_mem_send hf
    · cases hf

theorem unnoticed_heartbeat_iff {s : RelayServer} {c : ℕ} {now : Timestamp} {data : Json} :
    Unnoticed s c (handleHeartbeat s c now data) ↔
      ∀ fields, data = .obj fields → ¬ BeatsFor s c now := by
  rw [Unnoticed, and_iff_left fun _ => fst_of_mem_handleHeartbeat]
  cases data with
  | obj fields =>
    rw [sameTables_handleHeartbeat_iff]
    exact ⟨fun h _ _ => h, fun h => h fields rfl⟩
  | _ => exact iff_of_true (SameTables.refl s) fun _ h => by cases h

/-- **One frame on a connection that is not accepted** goes unnoticed exactly when it is
harmless. -/
theorem unnoticed_handleFrame_iff {s : RelayServer} {c : ℕ} {now : Timestamp} {msgType : UInt8}
    {body : Bytes} (h : msgType = 0x04 → ∀ data, loads body = some data →
      (handleConnect s c now data).2 ≠ .connected) :
    Unnoticed s c (handleFrame loads s c now msgType body) ↔
      HarmlessFrame loads s c now msgType body := by
  by_cases hconnect : msgType = 0x04
  · subst hconnect
    exact iff_of_true (unnoticed_connect loads (h rfl))
      (HarmlessFrame.of_ne loads (by decide) (by decide) (by decide))
  by_cases hdata : msgType = 0x03
  · subst hdata
    change Unnoticed s c (s, handleData s c body) ↔ _
    rw [Unnoticed, handleData_iff, and_iff_right (SameTables.refl s)]
    exact ⟨fun hno => ⟨fun _ => hno, fun ht => absurd ht (by decide), fun ht => absurd ht (by decide)⟩,
      fun hok => hok.data rfl⟩
  by_cases hdisconnect : msgType = 0x06
  · subst hdisconnect
    change Unnoticed s c ((handleDisconnect s c).getD s, []) ↔ _
    rw [unnoticed_silent_iff, handleDisconnect_eq, sameTables_leaveWith_iff]
    exact ⟨fun hno => ⟨fun ht => absurd ht (by decide), fun _ => hno, fun ht => absurd ht (by decide)⟩,
      fun hok => hok.disconnect rfl⟩
  by_cases hheartbeat : msgType = 0x07
  · subst hheartbeat
    have hok : HarmlessFrame loads s c now 0x07 body ↔
        ∀ fields, loads body = some (.obj fields) → ¬ BeatsFor s c now :=
      ⟨fun hok => hok.heartbeat rfl, fun hno =>
        ⟨fun ht => absurd ht (by decide), fun ht => absurd ht (by decide), fun _ => hno⟩⟩
    rw [hok]
    change Unnoticed s c (match loads body with
      | some data => handleHeartbeat s c now data | none => (s, [])) ↔ _
    cases loads body with
    | none => exact iff_of_true (Unnoticed.nothing s c) fun _ hf => by cases hf
    | some data => simpa only [Option.some.injEq] using unnoticed_heartbeat_iff
  refine iff_of_true ?_ (HarmlessFrame.of_ne loads hdata hdisconnect hheartbeat)
  unfold handleFrame
  rw [if_neg hconnect, if_neg hdata, if_neg hdisconnect, if_neg hheartbeat]
  split_ifs
  · exact Unnoticed.send s c _ _
  · exact Unnoticed.nothing s c

theorem unnoticed_relayStep_iff {s : RelayServer} {c : ℕ} {e : RelayEvent}
    (he : (∃ now payload, e = .message c now payload) ∨ e = .connectionLost c)
    (h : Unaccepted loads s e) :
    Unnoticed s c (relayStep loads s e, sentBy loads s e) ↔ Harmless loads s e := by
  rcases he with ⟨now, payload, rfl⟩ | rfl
  · change Unnoticed s c (handleMessage loads s c now payload) ↔ _
    rw [handleMessage_eq]
    cases hframe : parseFrame payload with
    | none =>
      refine iff_of_true (Unnoticed.nothing s c) fun _ _ hf => ?_
      rw [hframe] at hf
      cases hf
    | some f =>
      obtain ⟨msgType, body⟩ := f
      have hun : msgType = 0x04 → ∀ data, loads body = some data →
          (handleConnect s c now data).2 ≠ .connected := by
        rintro rfl data hdata
        exact h body data hframe hdata
      refine (unnoticed_handleFrame_iff loads hun).trans ⟨fun hok t b hf => ?_, fun hok => ?_⟩
      · rw [hframe] at hf
        cases hf
        exact hok
      · exact hok _ _ hframe
  · change Unnoticed s c (connectionLost s c, []) ↔ _
    rw [unnoticed_silent_iff]
    exact sameTables_leaveWith_iff

/-! ### Runs -/

theorem inert_cons {c : ℕ} {s : RelayServer} {e : RelayEvent} {events : List RelayEvent} :
    Inert loads c s (e :: events) ↔
      Unnoticed s c (relayStep loads s e, sentBy loads s e) ∧
        Inert loads c (relayStep loads s e) events := by
  constructor
  · intro hall
    obtain ⟨hsame, hsent⟩ := hall [e] (List.cons_prefix_cons.2 ⟨rfl, List.nil_prefix⟩)
    rw [sentAlong, sentAlong, List.append_nil] at hsent
    refine ⟨⟨hsame, hsent⟩, fun pre hpre => ?_⟩
    obtain ⟨hpresame, hpresent⟩ := hall (e :: pre) (List.cons_prefix_cons.2 ⟨rfl, hpre⟩)
    exact ⟨hsame.symm.trans hpresame, fun frame hf =>
      hpresent frame (List.mem_append_right _ hf)⟩
  · rintro ⟨⟨hsame, hsent⟩, hrest⟩ pre hpre
    cases pre with
    | nil => exact ⟨SameTables.refl s, fun _ hf => by cases hf⟩
    | cons e' pre =>
      obtain ⟨rfl, htail⟩ := List.cons_prefix_cons.1 hpre
      obtain ⟨hpresame, hpresent⟩ := hrest pre htail
      exact ⟨hsame.trans hpresame, fun frame hf =>
        (List.mem_append.1 hf).elim (hsent frame) (hpresent frame)⟩

/-- **When an unauthenticated connection is inert**: for every state of the server and all frames on
a connection none of whose `CONNECT`s is accepted, the frames and the loss of the connection leave
the connection, heartbeat and token tables unchanged and reach no other connection, if and only if
all of them are harmless. -/
theorem inert_iff (s : RelayServer) (c : ℕ) (frames : List (Timestamp × Bytes))
    (h : Admissible (relayStep loads) (Unaccepted loads) s (connectionEvents c frames)) :
    Inert loads c s (connectionEvents c frames) ↔
      Admissible (relayStep loads) (Harmless loads) s (connectionEvents c frames) := by
  have honly : ∀ e ∈ connectionEvents c frames,
      (∃ now payload, e = .message c now payload) ∨ e = .connectionLost c := by
    intro e he
    rcases List.mem_append.1 he with he | he
    · obtain ⟨f, -, rfl⟩ := List.mem_map.1 he
      exact .inl ⟨f.1, f.2, rfl⟩
    · exact .inr (List.mem_singleton.1 he)
  generalize connectionEvents c frames = events at h honly ⊢
  induction events generalizing s with
  | nil =>
    refine iff_of_true (fun pre hpre => ?_) trivial
    rw [List.prefix_nil.1 hpre]
    exact ⟨SameTables.refl s, fun _ hf => by cases hf⟩
  | cons e events ih =>
    have hrest := ih _ h.2 fun e' he' => honly e' (List.mem_cons_of_mem _ he')
    rw [inert_cons]
    exact and_congr (unnoticed_relayStep_iff loads (honly e List.mem_cons_self) h.1) hrest

end Machine

/-- A `CONNECT` with a token nobody added, under the id of somebody else. -/
def forgedConnect : Json :=
  .obj [("token", .str "forged"), ("device_id", .str "laptop"), ("session_id", .str "s")]

/-- A `CONNECT` with a token nobody added, under an id that no table mentions. -/
def ghostConnect : Json :=
  .obj [("token", .str "forged"), ("device_id", .str "ghost"), ("session_id", .str "s")]

/-- Reads the three bodies of the runs below. -/
def loadsConnects (body : Bytes) : Option Json :=
  if body = ascii laptopConnect.dumps then some laptopConnect
  else if body = ascii forgedConnect.dumps then some forgedConnect
  else if body = ascii ghostConnect.dumps then some ghostConnect
  else none

/-- The payload of a `CONNECT`. -/
def connectPayload (data : Json) : Bytes := relayMagic ++ 0x04 :: ascii data.dumps

/-- A server on which the laptop is connected, and somebody else has opened a connection. -/
def laptopConnected : RelayServer :=
  run (relayStep loadsConnects) {} [.addValidToken "t" "s", .connectionMade 1,
    .message 1 0 (connectPayload laptopConnect), .connectionMade 2]

theorem parseFrame_connectPayload (data : Json) :
    parseFrame (connectPayload data) = some (0x04, ascii data.dumps) := by
  have hmagic : relayMagic.isPrefixOf (connectPayload data) = true :=
    List.isPrefixOf_iff_prefix.2 (List.prefix_append _ _)
  rw [parseFrame, if_pos hmagic, connectPayload, List.drop_left]

theorem unaccepted_connectPayload {s : RelayServer} {c : ℕ} {now : Timestamp} {data : Json}
    (hloads : loadsConnects (ascii data.dumps) = some data)
    (h : (handleConnect s c now data).2 ≠ .connected) :
    Unaccepted loadsConnects s (.message c now (connectPayload data)) := by
  intro body data' hframe hdata
  rw [parseFrame_connectPayload] at hframe
  cases hframe
  rw [hloads] at hdata
  cases hdata
  exact h

/-- A rejected `CONNECT` under an id that no table mentions is inert. -/
theorem inert_rejected_ghost :
    Inert loadsConnects 2 laptopConnected (connectionEvents 2 [(5, connectPayload ghostConnect)]) := by
  refine (inert_iff loadsConnects laptopConnected 2 _ ?_).2 ?_
  · exact ⟨unaccepted_connectPayload (by decide) (by decide), trivial, trivial⟩
  · refine ⟨fun msgType body hf => ?_, ?_, trivial⟩
    · rw [parseFrame_connectPayload] at hf
      cases hf
      exact HarmlessFrame.of_ne _ (by decide) (by decide) (by decide)
    · rintro ⟨k, hk, hknown⟩
      obtain rfl : Json.HashKey.str "ghost" = k := by
        rw [← Option.some.injEq, ← hk]
        decide
      revert hknown
      decide

/-- **A rejected `CONNECT` unregisters somebody else** when its connection closes. -/
theorem rejected_connect_unregisters :
    let events := connectionEvents 2 [(5, connectPayload forgedConnect)]
    Admissible (relayStep loadsConnects) (Unaccepted loadsConnects) laptopConnected events ∧
    laptopConnected.connections.get? (.str "laptop") = some 1 ∧
    (run (relayStep loadsConnects) laptopConnected events).connections.get? (.str "laptop") = none ∧
    ¬ Inert loadsConnects 2 laptopConnected events := by
  have hbefore : laptopConnected.connections.get? (.str "laptop") = some 1 := by decide
  have hafter : (run (relayStep loadsConnects) laptopConnected
      (connectionEvents 2 [(5, connectPayload forgedConnect)])).connections.get? (.str "laptop") =
      none := by decide
  refine ⟨⟨unaccepted_connectPayload (by decide) (by decide), trivial, trivial⟩, hbefore, hafter,
    fun hall => ?_⟩
  have hsame := (hall _ List.prefix_rfl).1.connections
  rw [hsame, hbefore] at hafter
  cases hafter

end Relay

end Midscale
