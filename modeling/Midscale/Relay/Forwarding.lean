import Midscale.Daemon.RelayClient
import Midscale.Data.Utf8
import Midscale.Net.IPv6Text
import Midscale.Relay.Inert

/-!
# Data through the relay

A `DATA` frame names its target up to the first bar; what follows is written in hexadecimal into a
JSON text, framed, and read back by other code in the client of the target.

* `fromHex_hex` : `bytes.fromhex` reads what `hex()` writes.
* `dataTarget_encodeUtf8` : the body is split where the target ends, whatever the data.
* `isUp_of_transportOpen` : the server has the transport of every connection that is open.
* `deviceIdOf_of_accepted` : an accepted sender keeps its id until it connects anew or leaves.
* `forward_transparent` : **in every reachable state data goes to the open connection registered for
  its target and to no other, and the client there reads the data and the id of the sender.**
-/

namespace Midscale

namespace Daemon

/-! ### Hexadecimal -/

theorem isAsciiSpace_digitChar : ∀ n < 16, isAsciiSpace (Nat.digitChar n) = false := by decide

/-- **`bytes.fromhex` reads what `hex()` writes.** -/
theorem fromHex_hex (b : Bytes) : fromHex (Relay.hex b).toList = some b := by
  rw [Relay.hex, String.toList_ofList]
  induction b with
  | nil => rfl
  | cons x b ih =>
    have hx := x.toNat_lt
    have hspace := isAsciiSpace_digitChar (x.toNat / 16) (by omega)
    have hhigh := IPv6Address.hexDigit_digitChar (x.toNat / 16) (by omega)
    have hlow := IPv6Address.hexDigit_digitChar (x.toNat % 16) (by omega)
    have hbyte : UInt8.ofNat (x.toNat / 16 * 16 + x.toNat % 16) = x := by
      rw [Nat.div_add_mod']
      exact UInt8.ofNat_toNat
    simp only [List.flatMap_cons, List.cons_append, List.nil_append, fromHex, hspace, hhigh, hlow,
      ih, Bool.false_eq_true, if_false, Option.bind_eq_bind, Option.bind_some, hbyte]

/-! ### The client -/

/-- `json.loads(body.decode())`. -/
def loadsBody (body : Bytes) : Option Json := (Relay.decodeUtf8 body).bind Json.loads

/-- What `_handle_data` reads from a body: the sender and the payload. -/
def readData (loads : Bytes → Option Json) (body : Bytes) : Option (Json × Bytes) := do
  let data ← loads body
  let payload ← dataPayload data
  some ((data.get? "from_device_id").getD (.str ""), payload)

namespace RelayClient

/-- `_handle_message`, with what a `DATA` frame is read as. -/
def handleMessage (c : RelayClient) (payload : Bytes) : RelayClient × Option (Json × Bytes) :=
  match Relay.parseFrame payload with
  | some (msgType, body) =>
    -- the acknowledgements and the other types are logged at most
    if msgType = 0x03 then (c.handleData loadsBody body, readData loadsBody body) else (c, none)
  | none => (c, none)

end RelayClient

end Daemon

namespace Relay

/-! ### Protocol objects along a run -/

/-- The protocol object of a connection keeps its transport and, where `same` holds, its device
id. -/
def KeepsProtocol (c : ℕ) (same : Prop) (s s' : RelayServer) : Prop :=
  ∀ p, s.protocols.get? c = some p → ∃ p', s'.protocols.get? c = some p' ∧
    p'.hasTransport = p.hasTransport ∧ (same → p'.deviceId = p.deviceId)

namespace KeepsProtocol

variable {c : ℕ} {same : Prop} {s s₁ s' : RelayServer}

theorem of_eq (h : s'.protocols = s.protocols) : KeepsProtocol c same s s' :=
  fun p hp => ⟨p, h ▸ hp, rfl, fun _ => rfl⟩

theorem trans (h : KeepsProtocol c same s s₁) (h' : KeepsProtocol c same s₁ s') :
    KeepsProtocol c same s s' := by
  intro p hp
  obtain ⟨p₁, hp₁, htransport₁, hid₁⟩ := h p hp
  obtain ⟨p', hp', htransport, hid⟩ := h' p₁ hp₁
  exact ⟨p', hp', htransport.trans htransport₁, fun hs => (hid hs).trans (hid₁ hs)⟩

theorem modifyProtocol (s : RelayServer) {c' : ℕ} {f : Connection → Connection}
    (h : c' = c → ∀ p, (f p).hasTransport = p.hasTransport ∧
      (same → (f p).deviceId = p.deviceId)) :
    KeepsProtocol c same s (s.modifyProtocol c' f) := by
  intro p hp
  rw [RelayServer.get?_modifyProtocol]
  by_cases hc : c = c'
  · subst hc
    exact ⟨f p, by rw [if_pos rfl, hp, Option.map_some], h rfl p⟩
  · exact ⟨p, by rw [if_neg hc, hp], rfl, fun _ => rfl⟩

theorem leaveWith (s : RelayServer) {c' : ℕ} {f : Connection → Connection}
    (h : c' = c → ∀ p, (f p).hasTransport = p.hasTransport ∧
      (same → (f p).deviceId = p.deviceId)) :
    KeepsProtocol c same s (leaveWith f s c') := by
  unfold Relay.leaveWith
  split_ifs
  · cases (s.deviceIdOf c').hashKey? with
    | none => exact of_eq rfl
    | some k =>
      have hunregister : KeepsProtocol c same s (s.unregisterConnection k) := of_eq rfl
      exact hunregister.trans (modifyProtocol _ h)
  · exact modifyProtocol s h

theorem handleDisconnect (s : RelayServer) {c' : ℕ} (h : c' = c → ¬ same) :
    KeepsProtocol c same s ((handleDisconnect s c').getD s) := by
  rw [handleDisconnect_eq]
  exact leaveWith s fun hc p => ⟨rfl, fun hs => absurd hs (h hc)⟩

theorem handleConnect (s : RelayServer) {c' : ℕ} (now : Timestamp) (data : Json)
    (h : c' = c → ¬ same) : KeepsProtocol c same s (handleConnect s c' now data).1 := by
  cases data with
  | obj fields =>
    simp only [Relay.handleConnect]
    have hmodify := @modifyProtocol c same s c' (fun p => { p with
      sessionToken := connectField (.obj fields) "token"
      deviceId := connectField (.obj fields) "device_id" })
      fun hc p => ⟨rfl, fun hs => absurd hs (h hc)⟩
    split
    · split
      · exact hmodify.trans (of_eq rfl)
      · exact hmodify
    · exact hmodify
    · exact hmodify
  | _ => exact of_eq rfl

theorem disconnectAll (h : ¬ same) (s : RelayServer) (cs : List ℕ) :
    KeepsProtocol c same s (disconnectAll s cs).1 := by
  induction cs generalizing s with
  | nil => exact of_eq rfl
  | cons c' cs ih =>
    have hfirst := @handleDisconnect c same s c' fun _ => h
    rw [Relay.disconnectAll]
    cases hleave : Relay.handleDisconnect s c' with
    | none => exact of_eq rfl
    | some s' =>
      rw [hleave, Option.getD_some] at hfirst
      exact hfirst.trans (ih s')

end KeepsProtocol

theorem protocols_removeExpiredTokens (s : RelayServer) (now : Timestamp) :
    (s.removeExpiredTokens now).protocols = s.protocols := by
  unfold RelayServer.removeExpiredTokens
  generalize List.map _ _ = stale
  induction stale generalizing s with
  | nil => rfl
  | cons k stale ih => exact ih (s.unregisterConnection k)

section Machine

variable (loads : Bytes → Option Json)

/-- The event does not assign the device id of a connection. -/
def KeepsDevice (c : ℕ) : RelayEvent → Prop
  | .connectionMade c' => c' ≠ c
  | .message c' _ payload => c' = c → ∀ msgType body, parseFrame payload = some (msgType, body) →
      msgType ≠ 0x04 ∧ msgType ≠ 0x06
  | .connectionLost c' => c' ≠ c
  | .stop => False
  | _ => True

theorem keepsProtocol_handleMessage (s : RelayServer) (c c' : ℕ) (now : Timestamp)
    (payload : Bytes) : KeepsProtocol c (KeepsDevice c (.message c' now payload)) s
      (handleMessage loads s c' now payload).1 := by
  rw [handleMessage_eq]
  cases hframe : parseFrame payload with
  | none => exact .of_eq rfl
  | some frame =>
    obtain ⟨msgType, body⟩ := frame
    have hkeeps : c' = c → msgType = 0x04 ∨ msgType = 0x06 →
        ¬ KeepsDevice c (.message c' now payload) := by
      intro hc htype hkeeps
      obtain ⟨hconnect, hdisconnect⟩ := hkeeps hc msgType body hframe
      exact htype.elim hconnect hdisconnect
    dsimp only
    unfold handleFrame
    split_ifs with hping hconnect hdata hdisconnect hheartbeat
    · exact .of_eq rfl
    · cases loads body with
      | none => exact .of_eq rfl
      | some data => exact .handleConnect s now data fun hc => hkeeps hc (.inl hconnect)
    · exact .of_eq rfl
    · exact .handleDisconnect s fun hc => hkeeps hc (.inr hdisconnect)
    · cases loads body with
      | none => exact .of_eq rfl
      | some data => exact .of_eq (handleHeartbeat_frame s c' now data).2
    · exact .of_eq rfl

/-- **What an event does to the protocol object of a connection** that is neither made nor lost by
it. -/
theorem keepsProtocol_relayStep (s : RelayServer) {c : ℕ} {e : RelayEvent}
    (hmade : e ≠ .connectionMade c) (hlost : e ≠ .connectionLost c) :
    KeepsProtocol c (KeepsDevice c e) s (relayStep loads s e) := by
  cases e with
  | connectionMade c' =>
    have hne : c ≠ c' := fun hc => hmade (by rw [hc])
    exact fun p hp => ⟨p, by rw [relayStep, Dict.get?_set_of_ne _ _ hne, hp], rfl, fun _ => rfl⟩
  | message c' now payload => exact keepsProtocol_handleMessage loads s c c' now payload
  | connectionLost c' =>
    exact .leaveWith s fun hc => absurd (by rw [hc]) hlost
  | addValidToken token sessionId => exact .of_eq rfl
  | apiHeartbeat deviceId now => exact .of_eq rfl
  | removeExpiredTokens now => exact .of_eq (protocols_removeExpiredTokens s now)
  | stop =>
    have hall := @KeepsProtocol.disconnectAll c (KeepsDevice c .stop) id s
      (s.connections.items.map Prod.snd)
    rw [relayStep]
    cases hstop : disconnectAll s (s.connections.items.map Prod.snd) with
    | mk s' all =>
      rw [hstop] at hall
      cases all
      · exact hall
      · exact hall.trans (.of_eq rfl)

/-- Whether the transport of a connection is open after one more event. -/
def noteTransport (c : ℕ) (isOpen : Bool) : RelayEvent → Bool
  | .connectionMade c' => isOpen || c' = c
  | .connectionLost c' => isOpen && c' ≠ c
  | _ => isOpen

/-- The connection was made and has not been lost since. -/
def transportOpen (events : List RelayEvent) (c : ℕ) : Bool :=
  events.foldl (noteTransport c) false

/-- **The server has the transport of every open connection.** -/
theorem isUp_of_transportOpen {events : List RelayEvent} {c : ℕ}
    (hopen : transportOpen events c = true) : (run (relayStep loads) {} events).IsUp c := by
  induction events using List.reverseRecOn with
  | nil => cases hopen
  | append_singleton events e ih =>
    rw [transportOpen, List.foldl_append, List.foldl_cons, List.foldl_nil, ← transportOpen] at hopen
    rw [run_concat]
    by_cases hmade : e = .connectionMade c
    · subst hmade
      exact ⟨{}, Dict.get?_set_self .., rfl⟩
    by_cases hlost : e = .connectionLost c
    · subst hlost
      simp [noteTransport] at hopen
    have hbefore : transportOpen events c = true := by
      cases e with
      | connectionMade c' =>
        have hne : ¬ c' = c := fun hc => hmade (by rw [hc])
        simpa [noteTransport, hne] using hopen
      | connectionLost c' => exact (Bool.and_eq_true_iff.1 hopen).1
      | _ => exact hopen
    obtain ⟨p, hp, htransport⟩ := ih hbefore
    obtain ⟨p', hp', hsame, -⟩ := keepsProtocol_relayStep loads _ hmade hlost p hp
    exact ⟨p', hp', hsame.trans htransport⟩

/-- **A sender keeps the device id that it was accepted with** until it connects anew, disconnects,
is lost or the server stops. -/
theorem deviceIdOf_of_accepted {s : RelayServer} {c : ℕ} {now : Timestamp} {data : Json}
    (hmade : s.protocols.get? c ≠ none) (haccepted : (handleConnect s c now data).2 = .connected)
    {events : List RelayEvent} (hkeeps : ∀ e ∈ events, KeepsDevice c e) :
    (run (relayStep loads) (handleConnect s c now data).1 events).deviceIdOf c =
      connectField data "device_id" := by
  have hrun : ∃ p, (run (relayStep loads) (handleConnect s c now data).1 events).protocols.get? c =
      some p ∧ p.deviceId = connectField data "device_id" := by
    induction events using List.reverseRecOn with
    | nil =>
      obtain ⟨k, f, -, hf, heq⟩ := handleConnect_eq_of_connected haccepted
      obtain ⟨p, hp⟩ := Option.ne_none_iff_exists'.1 hmade
      refine ⟨f p, ?_, (hf p).1⟩
      change (handleConnect s c now data).1.protocols.get? c = _
      rw [heq, RelayServer.registerConnection, RelayServer.get?_modifyProtocol, if_pos rfl, hp,
        Option.map_some]
    | append_singleton events e ih =>
      have he : KeepsDevice c e := hkeeps e (by simp)
      obtain ⟨p, hp, hid⟩ := ih fun e he => hkeeps e (List.mem_append_left _ he)
      rw [run_concat]
      have hmade : e ≠ .connectionMade c := by
        rintro rfl
        exact he rfl
      have hlost : e ≠ .connectionLost c := by
        rintro rfl
        exact he rfl
      obtain ⟨p', hp', -, hsame⟩ := keepsProtocol_relayStep loads _ hmade hlost p hp
      exact ⟨p', hp', (hsame he).trans hid⟩
  obtain ⟨p, hp, hid⟩ := hrun
  rw [RelayServer.deviceIdOf, hp, Option.map_some, Option.getD_some, hid]

end Machine

/-! ### One frame -/

/-- The payload of the `DATA` frame with the given target and data. -/
def dataMessage (target : String) (relayData : Bytes) : Bytes :=
  payloadOf 0x03 (encodeUtf8 target ++ 124 :: relayData)

/-- The body is split where the target ends, whatever the data. -/
theorem dataTarget_encodeUtf8 {target : String} (h : '|' ∉ target.toList) (relayData : Bytes) :
    dataTarget (encodeUtf8 target ++ 124 :: relayData) = some (target, relayData) := by
  have hbar : (124 : UInt8) ∉ encodeUtf8 target := fun hmem =>
    h ((mem_encodeUtf8_iff (a := '|') (by decide)).1 hmem)
  have hheader : (encodeUtf8 target ++ 124 :: relayData).takeWhile (· ≠ 124) =
      encodeUtf8 target := by
    rw [List.takeWhile_append_of_pos fun b hb => decide_eq_true (ne_of_mem_of_not_mem hb hbar),
      List.takeWhile_cons_of_neg (by simp), List.append_nil]
  rw [dataTarget, hheader, List.drop_left, decodeUtf8, fromUTF8?_encodeUtf8]

theorem parseFrame_payloadOf (msgType : UInt8) (body : Bytes) :
    parseFrame (payloadOf msgType body) = some (msgType, body) := by
  have hassoc : payloadOf msgType body = relayMagic ++ msgType :: body := by
    rw [payloadOf, List.append_assoc, List.singleton_append]
  have hmagic : relayMagic.isPrefixOf (relayMagic ++ msgType :: body) = true :=
    List.isPrefixOf_iff_prefix.2 (List.prefix_append _ _)
  rw [parseFrame, hassoc, if_pos hmagic, List.drop_left]

/-- The message that data is forwarded in. -/
def forwarded (id : String) (relayData : Bytes) : Json :=
  .obj [("from_device_id", .str id), ("data", .str (hex relayData))]

theorem ascii_forwarded (id : String) (relayData : Bytes) :
    ∀ d ∈ (forwarded id relayData).dumps.toList, d.toNat < 128 := by
  have hstring := Json.ascii_writeString
  intro d hd
  simp only [forwarded, Json.dumps, String.toList_ofList, Json.write, Json.writeFields,
    List.mem_cons, List.mem_append, List.nil_append, List.not_mem_nil, or_false] at hd
  rcases hd with rfl | (hd | rfl | rfl | hd | (rfl | rfl) | hd | rfl | rfl | hd) | rfl
  all_goals first | decide | exact hstring _ d hd

/-- **The body that is forwarded is read as what it was written from.** -/
theorem loadsBody_forwardBody {s : RelayServer} {c : ℕ} {id : String}
    (hsender : s.deviceIdOf c = .str id) (relayData : Bytes) :
    Daemon.loadsBody (forwardBody s c relayData) = some (forwarded id relayData) := by
  have hbody : forwardBody s c relayData = encodeUtf8 (forwarded id relayData).dumps := by
    rw [forwardBody, hsender, encodeUtf8_of_ascii (ascii_forwarded id relayData)]
    rfl
  rw [Daemon.loadsBody, hbody, decodeUtf8, fromUTF8?_encodeUtf8, Option.bind_some]
  exact Json.loads_dumps rfl

theorem handleMessage_forwardBody {s : RelayServer} {c : ℕ} {id : String}
    (hsender : s.deviceIdOf c = .str id) (relayData : Bytes) (client : Daemon.RelayClient) :
    client.handleMessage (payloadOf 0x03 (forwardBody s c relayData)) =
      ({ client with bytesRx := client.bytesRx + relayData.length },
        some (.str id, relayData)) := by
  have hloads := loadsBody_forwardBody hsender relayData
  have hpayload : Daemon.dataPayload (forwarded id relayData) = some relayData :=
    Daemon.fromHex_hex relayData
  have hread : Daemon.readData Daemon.loadsBody (forwardBody s c relayData) =
      some (.str id, relayData) := by
    rw [Daemon.readData, hloads, Option.bind_eq_bind, Option.bind_some, hpayload]
    rfl
  rw [Daemon.RelayClient.handleMessage, parseFrame_payloadOf]
  simp only [if_true, hread, Daemon.RelayClient.handleData, hloads, Option.bind_some, hpayload]

theorem handleData_dataMessage {s : RelayServer} {c : ℕ} {target : String}
    (htarget : '|' ∉ target.toList) (relayData : Bytes) :
    handleData s c (encodeUtf8 target ++ 124 :: relayData) =
      ((s.connections.get? (.str target)).map fun t =>
        s.send t 0x03 (forwardBody s c relayData)).getD [] := by
  rw [handleData_eq, dataTarget_encodeUtf8 htarget, Option.bind_some]

/-- What is written to a connection that is up, if the message fits a frame. -/
theorem RelayServer.IsUp.send {s : RelayServer} {t : ℕ} (h : s.IsUp t) {msgType : UInt8}
    {body frame : Bytes} (hframe : encodeMessage msgType body = some frame) :
    s.send t msgType body = [(t, frame)] := by
  obtain ⟨p, hp, htransport⟩ := h
  simp only [RelayServer.send, hp, htransport, if_true, RelayProtocol.sendMessage, hframe]

theorem readLoop_encodeMessage {msgType : UInt8} {body frame : Bytes}
    (hframe : encodeMessage msgType body = some frame) {chunks : List Bytes}
    (hchunks : ∀ d ∈ chunks, d ≠ []) (hflat : chunks.flatten = frame) :
    DaemonRelayClient.readLoop [] (chunks.map .data) = ([payloadOf msgType body], []) := by
  have hwritten : written encodeMessage [(msgType, body)] = some [frame] := by
    simp [written, hframe]
  have hdrain := drain_written hwritten
  rw [List.flatten_singleton, ← hflat] at hdrain
  exact ((bothReceive_drain hchunks).2).trans hdrain

/-- **The relay is transparent.**  In every reachable state a `DATA` frame from a connection that
holds the device id `id` is written, as one frame, to the connection registered for its target if
that one is open, and to no other; the state stays as it is; and however the frame is cut, the
client reads one message from it, whose sender is `id` and whose payload is the data. -/
theorem forward_transparent (loads : Bytes → Option Json) (events : List RelayEvent)
    {s : RelayServer} (hs : s = run (relayStep loads) {} events) (c : ℕ) (id target : String)
    (relayData : Bytes) (now : Timestamp) (hsender : s.deviceIdOf c = .str id)
    (htarget : '|' ∉ target.toList)
    (hfits : (payloadOf 0x03 (forwardBody s c relayData)).length < 2 ^ 32) :
    ∃ frame : Bytes,
      (∀ t, s.connections.get? (.str target) = some t → transportOpen events t = true →
        (handleMessage loads s c now (dataMessage target relayData)).2 = [(t, frame)]) ∧
      (∀ t written, (t, written) ∈ (handleMessage loads s c now (dataMessage target relayData)).2 →
        s.connections.get? (.str target) = some t ∧ s.IsUp t) ∧
      (handleMessage loads s c now (dataMessage target relayData)).1 = s ∧
      ∀ chunks : List Bytes, (∀ d ∈ chunks, d ≠ []) → chunks.flatten = frame →
        ∀ client : Daemon.RelayClient,
          (DaemonRelayClient.readLoop [] (chunks.map .data)).1.map client.handleMessage =
            [({ client with bytesRx := client.bytesRx + relayData.length },
              some (.str id, relayData))] := by
  obtain ⟨frame, hframe⟩ := encodeMessage_of_lt hfits
  have hhandle : handleMessage loads s c now (dataMessage target relayData) =
      (s, ((s.connections.get? (.str target)).map fun t =>
        s.send t 0x03 (forwardBody s c relayData)).getD []) := by
    rw [handleMessage_eq, dataMessage, parseFrame_payloadOf, ← handleData_dataMessage htarget]
    rfl
  rw [hhandle]
  refine ⟨frame, fun t ht hopen => ?_, fun t written hmem => ?_, rfl,
    fun chunks hchunks hflat client => ?_⟩
  · have hup : s.IsUp t := hs ▸ isUp_of_transportOpen loads hopen
    rw [ht, Option.map_some, Option.getD_some]
    exact hup.send hframe
  · cases hconn : s.connections.get? (.str target) with
    | none =>
      rw [hconn] at hmem
      cases hmem
    | some t' =>
      rw [hconn, Option.map_some, Option.getD_some] at hmem
      obtain rfl : t = t' := RelayServer.fst_of_mem_send hmem
      exact ⟨rfl, (RelayServer.send_ne_nil_iff.1 (List.ne_nil_of_mem hmem)).1⟩
  · rw [readLoop_encodeMessage hframe hchunks hflat, List.map_singleton,
      handleMessage_forwardBody hsender]

/-- A `CONNECT` of the device `phone`. -/
def phoneConnect : Json :=
  .obj [("token", .str "t"), ("device_id", .str "phone"), ("session_id", .str "s")]

/-- Reads the bodies of the two `CONNECT`s. -/
def loadsDevices (body : Bytes) : Option Json :=
  if body = ascii laptopConnect.dumps then some laptopConnect
  else if body = ascii phoneConnect.dumps then some phoneConnect
  else none

/-- The laptop and the phone connect. -/
def devicesConnect : List RelayEvent := [.addValidToken "t" "s", .connectionMade 1,
  .message 1 0 (connectPayload laptopConnect), .connectionMade 2,
  .message 2 1 (connectPayload phoneConnect)]

/-- The phone sends a bar and a zero to the laptop. -/
theorem forward_transparent_bar :
    ∃ frame : Bytes,
      handleMessage loadsDevices (run (relayStep loadsDevices) {} devicesConnect) 2 5
        (dataMessage "laptop" [124, 0]) =
          (run (relayStep loadsDevices) {} devicesConnect, [(1, frame)]) ∧
      ∀ chunks : List Bytes, (∀ d ∈ chunks, d ≠ []) → chunks.flatten = frame →
        ∀ client : Daemon.RelayClient,
          (DaemonRelayClient.readLoop [] (chunks.map .data)).1.map client.handleMessage =
            [({ client with bytesRx := client.bytesRx + 2 }, some (.str "phone", [124, 0]))] := by
  obtain ⟨frame, hsent, -, hsame, hread⟩ := forward_transparent loadsDevices devicesConnect rfl 2
    "phone" "laptop" [124, 0] 5 (by decide +kernel) (by decide) (by decide +kernel)
  exact ⟨frame, Prod.ext hsame (hsent 1 (by decide +kernel) (by decide)), hread⟩

end Relay

end Midscale
