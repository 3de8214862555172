import Mathlib.Data.List.Forall2
import Midscale.Data.Struct
import Midscale.Stream.Framing
import Mathlib.Tactic.NormNum

/-!
# Framing of the relay protocol

Relay messages travel over TCP as frames: a 4-byte big-endian length and that many bytes of
payload, the payload being `RELAY_MAGIC`, one byte of message type and a body.  The server
(`RelayProtocol.data_received`) and the daemon (`DaemonRelayClient._read_loop`) each keep a
buffer, append what they receive and take complete frames off its front.

* `nextFrame` is one turn of that inner loop, `frames` the `Extractor` it forms.
* `RelayProtocol.dataReceived`, `DaemonRelayClient.readLoop` : the two receivers.
* `RelayProtocol.sendMessage`, `DaemonRelayClient.sendMessage` : the two senders.
* `relay_framing_lossless` : both receivers are independent of how the stream is cut, and decode
  what the senders wrote to the payloads they were given.
-/

namespace Midscale

namespace Relay

/-- The ASCII encoding of a text. -/
def ascii (s : String) : Bytes := s.toList.map fun c => UInt8.ofNat c.toNat

/-- `RELAY_MAGIC = b"MIDSCALE_RELAY_V1"`. -/
def relayMagic : Bytes := ascii "MIDSCALE_RELAY_V1"

/-- `HEADER_SIZE = struct.calcsize("!I")`. -/
def headerSize : ℕ := 4

/-- `struct.pack("!I", n)`: four bytes, most significant first.  It raises `struct.error` when
`n` does not fit. -/
def packHeader (n : ℕ) : Option Bytes :=
  if n < 2 ^ 32 then
    some [UInt8.ofNat (n / 2 ^ 24), UInt8.ofNat (n / 2 ^ 16), UInt8.ofNat (n / 2 ^ 8),
      UInt8.ofNat n]
  else none

/-- `struct.unpack("!I", b)[0]`. -/
def unpackHeader (b : Bytes) : ℕ := b.foldl (fun n x => n * 256 + x.toNat) 0

/-- The payload `_send_message` builds. -/
def payloadOf (msgType : UInt8) (body : Bytes) : Bytes := relayMagic ++ [msgType] ++ body

/-- The bytes `_send_message` writes, `none` when `struct.pack` raises. -/
def encodeMessage (msgType : UInt8) (body : Bytes) : Option Bytes :=
  (packHeader (payloadOf msgType body).length).map (· ++ payloadOf msgType body)

/-- One turn of the inner receive loop: the payload of the first frame in the buffer and the
rest of the buffer, if the frame is complete. -/
def nextFrame (buffer : Bytes) : Option (Bytes × Bytes) :=
  if headerSize ≤ buffer.length then
    let msgLen := unpackHeader (buffer.take headerSize)
    let totalLen := headerSize + msgLen
    if buffer.length < totalLen then none
    else some ((buffer.take totalLen).drop headerSize, buffer.drop totalLen)
  else none

/-! ### One frame -/

/-- What `nextFrame` returns, and when. -/
theorem nextFrame_eq_some_iff {b p r : Bytes} :
    nextFrame b = some (p, r) ↔ ∃ h : Bytes, h.length = headerSize ∧
      unpackHeader h = p.length ∧ b = h ++ p ++ r := by
  constructor
  · intro hn
    simp only [nextFrame] at hn
    split at hn
    · rename_i h4
      split at hn
      · cases hn
      · rename_i htot
        simp only [Option.some.injEq, Prod.mk.injEq] at hn
        obtain ⟨rfl, rfl⟩ := hn
        refine ⟨b.take headerSize, by simpa using h4, ?_, ?_⟩
        · simp only [List.length_drop, List.length_take]; omega
        · rw [List.drop_take, Nat.add_sub_cancel_left, ← List.take_add, List.take_append_drop]
    · cases hn
  · rintro ⟨h, hl, hu, rfl⟩
    -- the header and the payload of the length it says are cut off in turn
    have htake : (h ++ p ++ r).take headerSize = h := by
      rw [List.append_assoc, ← hl, List.take_left]
    have hlen : ¬ (h ++ p ++ r).length < headerSize + p.length := by
      simp only [List.length_append]; omega
    have hhp : (h ++ p).length = headerSize + p.length := by
      rw [List.length_append, hl]
    have hpay : ((h ++ p ++ r).take (headerSize + p.length)).drop headerSize = p := by
      rw [← hhp, List.take_left, ← hl, List.drop_left]
    have hrest : (h ++ p ++ r).drop (headerSize + p.length) = r := by
      rw [← hhp, List.drop_left]
    have h4 : headerSize ≤ (h ++ p ++ r).length := by
      simp only [List.length_append]; omega
    simp only [nextFrame, h4, ↓reduceIte, htake, hu, hlen, hpay, hrest]

/-- The receive loop of the relay protocol. -/
def frames : Extractor UInt8 Bytes where
  next := nextFrame
  shrinks := by
    intro b p r h
    obtain ⟨hd, hl, -, rfl⟩ := nextFrame_eq_some_iff.1 h
    have : 0 < hd.length := by rw [hl]; decide
    simp only [List.length_append]; omega
  stable := by
    intro b p r c h
    obtain ⟨hd, hl, hu, rfl⟩ := nextFrame_eq_some_iff.1 h
    exact nextFrame_eq_some_iff.2 ⟨hd, hl, hu, by simp only [List.append_assoc]⟩

theorem frames_next_nil : frames.next [] = none := rfl

theorem length_of_packHeader {n : ℕ} {h : Bytes} (hp : packHeader n = some h) :
    h.length = headerSize := by
  simp only [packHeader] at hp
  split at hp
  · cases hp; rfl
  · cases hp

theorem unpackHeader_packHeader {n : ℕ} {h : Bytes} (hp : packHeader n = some h) :
    unpackHeader h = n := by
  simp only [packHeader] at hp
  split at hp
  · rename_i hn
    cases hp
    simp only [unpackHeader, List.foldl_cons, List.foldl_nil, UInt8.toNat_ofNat']
    omega
  · cases hp

theorem packHeader_of_lt {n : ℕ} (hn : n < 2 ^ 32) : ∃ h, packHeader n = some h :=
  ⟨_, if_pos hn⟩

theorem nextFrame_encodeMessage {t : UInt8} {body f : Bytes} (h : encodeMessage t body = some f)
    (c : Bytes) : frames.next (f ++ c) = some (payloadOf t body, c) := by
  obtain ⟨hd, hp, rfl⟩ := Option.map_eq_some_iff.1 h
  exact nextFrame_eq_some_iff.2
    ⟨hd, length_of_packHeader hp, unpackHeader_packHeader hp, rfl⟩

/-! ### The server's receiver -/

namespace RelayProtocol

/-- `RelayProtocol.data_received`: the payloads handed to `_handle_message`, in order, and the
buffer it leaves. -/
def dataReceived (buffer data : Bytes) : List Bytes × Bytes := frames.drain (buffer ++ data)

/-- The chunks of one connection, received one after another. -/
def receiveAll : Bytes → List Bytes → List Bytes × Bytes
  | buffer, [] => ([], buffer)
  | buffer, data :: rest =>
    let r := dataReceived buffer data
    (r.1 ++ (receiveAll r.2 rest).1, (receiveAll r.2 rest).2)

/-- `RelayProtocol._send_message` on an open transport: the bytes it writes. -/
def sendMessage (msgType : UInt8) (body : Bytes) : Option Bytes := encodeMessage msgType body

theorem receiveAll_eq (buffer : Bytes) (chunks : List Bytes) :
    receiveAll buffer chunks = frames.receive buffer chunks := by
  induction chunks generalizing buffer with
  | nil => rfl
  | cons c cs ih => simp only [receiveAll, Extractor.receive, dataReceived, ih]

end RelayProtocol

/-! ### The daemon's receiver -/

namespace DaemonRelayClient

/-- How one `await asyncio.wait_for(self._reader.read(4096), timeout=30.0)` ends. -/
inductive ReadEvent where
  /-- `read` returned these bytes; none of them means the server closed the connection. -/
  | data (d : Bytes)
  /-- `asyncio.TimeoutError`. -/
  | timeout
  /-- Any other exception. -/
  | failed
  deriving DecidableEq, Repr

/-- `DaemonRelayClient._read_loop` while the client keeps running: the payloads handed to
`_handle_message`, in order, and the buffer when the events run out or the loop breaks. -/
def readLoop : Bytes → List ReadEvent → List Bytes × Bytes
  | buffer, [] => ([], buffer)
  | buffer, .timeout :: es => readLoop buffer es
  | buffer, .failed :: _ => ([], buffer)
  | buffer, .data d :: es =>
    if d = [] then ([], buffer)
    else
      let r := frames.drain (buffer ++ d)
      (r.1 ++ (readLoop r.2 es).1, (readLoop r.2 es).2)

/-- `DaemonRelayClient._send_message` on an open writer: the bytes it writes. -/
def sendMessage (msgType : UInt8) (body : Bytes) : Option Bytes := encodeMessage msgType body

theorem readLoop_eq (buffer : Bytes) {chunks : List Bytes} (h : ∀ c ∈ chunks, c ≠ []) :
    readLoop buffer (chunks.map .data) = frames.receive buffer chunks := by
  induction chunks generalizing buffer with
  | nil => rfl
  | cons c cs ih =>
    have hc : c ≠ [] := h c List.mem_cons_self
    have hcs : ∀ c ∈ cs, c ≠ [] := fun c' hc' => h c' (List.mem_cons_of_mem _ hc')
    simp only [List.map_cons, readLoop, hc, ↓reduceIte, Extractor.receive, ih _ hcs]

end DaemonRelayClient

/-! ### Both receivers -/

/-- The frames written for a list of messages, each given by its type and body. -/
def written (send : UInt8 → Bytes → Option Bytes) (ms : List (UInt8 × Bytes)) :
    Option (List Bytes) := ms.mapM fun m => send m.1 m.2

theorem forall₂_written {ms : List (UInt8 × Bytes)} {fs : List Bytes}
    (h : written encodeMessage ms = some fs) :
    List.Forall₂ (fun m f => encodeMessage m.1 m.2 = some f) ms fs := by
  induction ms generalizing fs with
  | nil =>
    simp only [written, List.mapM_nil, Option.pure_def, Option.some.injEq] at h
    subst h
    exact .nil
  | cons m ms ih =>
    simp only [written, List.mapM_cons, Option.pure_def, Option.bind_eq_bind,
      Option.bind_eq_some_iff, Option.some.injEq] at h
    obtain ⟨f, hf, fs', hfs, rfl⟩ := h
    exact .cons hf (ih hfs)

theorem drain_written {ms : List (UInt8 × Bytes)} {fs : List Bytes}
    (h : written encodeMessage ms = some fs) :
    frames.drain fs.flatten = (ms.map fun m => payloadOf m.1 m.2, []) :=
  Extractor.drain_encoded frames_next_nil
    (List.Forall₂.imp (fun _ _ hf => nextFrame_encodeMessage hf) (forall₂_written h))

theorem encodeMessage_of_lt {t : UInt8} {body : Bytes} (h : (payloadOf t body).length < 2 ^ 32) :
    ∃ f, encodeMessage t body = some f := by
  obtain ⟨hd, hp⟩ := packHeader_of_lt h
  exact ⟨hd ++ payloadOf t body, by rw [encodeMessage, hp, Option.map_some]⟩

theorem written_of_lt {ms : List (UInt8 × Bytes)}
    (h : ∀ m ∈ ms, (payloadOf m.1 m.2).length < 2 ^ 32) :
    ∃ fs, written encodeMessage ms = some fs := by
  induction ms with
  | nil => exact ⟨[], rfl⟩
  | cons m ms ih =>
    obtain ⟨f, hf⟩ := encodeMessage_of_lt (h m List.mem_cons_self)
    obtain ⟨fs, hfs⟩ := ih fun m' hm' => h m' (List.mem_cons_of_mem _ hm')
    refine ⟨f :: fs, ?_⟩
    simp only [written] at hfs
    simp only [written, List.mapM_cons, hf, hfs, Option.pure_def, Option.bind_eq_bind,
      Option.bind_some]

/-- The result of both receivers on a stream cut into `chunks`: the payloads handed to
`_handle_message` and the buffer left over. -/
def BothReceive (chunks : List Bytes) (result : List Bytes × Bytes) : Prop :=
  RelayProtocol.receiveAll [] chunks = result ∧
    DaemonRelayClient.readLoop [] (chunks.map .data) = result

theorem bothReceive_drain {chunks : List Bytes} (h : ∀ c ∈ chunks, c ≠ []) :
    BothReceive chunks (frames.drain chunks.flatten) := by
  have hr := Extractor.receive_eq_drain frames_next_nil chunks
  exact ⟨(RelayProtocol.receiveAll_eq [] chunks).trans hr,
    (DaemonRelayClient.readLoop_eq [] h).trans hr⟩

/-- **Relay framing does not depend on the cuts and loses nothing.**  However a stream is cut
into non-empty chunks, the server and the daemon hand over the payloads, and keep the buffer,
of the stream arriving in one piece; and if it is what `_send_message` of either side wrote for
some messages whose payloads are shorter than `2^32` bytes, these are exactly the payloads
handed over, and the buffer is empty. -/
theorem relay_framing_lossless (chunks : List Bytes) (h : ∀ c ∈ chunks, c ≠ []) :
    BothReceive chunks (RelayProtocol.dataReceived [] chunks.flatten) ∧
    BothReceive chunks (DaemonRelayClient.readLoop [] [.data chunks.flatten]) ∧
    ∀ send ∈ [RelayProtocol.sendMessage, DaemonRelayClient.sendMessage],
      ∀ ms : List (UInt8 × Bytes), (∀ m ∈ ms, (payloadOf m.1 m.2).length < 2 ^ 32) →
        ∃ fs, written send ms = some fs ∧ (chunks.flatten = fs.flatten →
          BothReceive chunks (ms.map fun m => payloadOf m.1 m.2, [])) := by
  have hboth := bothReceive_drain h
  refine ⟨hboth, ?_, fun send hsend ms hms => ?_⟩
  · have hone : DaemonRelayClient.readLoop [] [.data chunks.flatten] =
        frames.drain chunks.flatten := by
      -- an empty read would end the client's loop
      by_cases he : chunks.flatten = []
      · rw [he, Extractor.drain_of_none frames_next_nil]; rfl
      · have := DaemonRelayClient.readLoop_eq [] (show ∀ c ∈ [chunks.flatten], c ≠ [] by simpa using he)
        rw [List.map_singleton] at this
        rw [this, Extractor.receive_eq_drain frames_next_nil, List.flatten_singleton]
    rw [hone]
    exact hboth
  · have hs : send = encodeMessage := by
      rcases List.mem_cons.1 hsend with rfl | hsend
      · rfl
      · rw [List.mem_singleton.1 hsend]; rfl
    obtain ⟨fs, hfs⟩ := written_of_lt hms
    refine ⟨fs, hs ▸ hfs, fun hflat => ?_⟩
    rw [← drain_written hfs, ← hflat]
    exact hboth

/-- A `PING` frame cut inside its header and inside its payload. -/
theorem relay_framing_lossless_ping :
    BothReceive [[0, 0], [0, 18, 77], ascii "IDSCALE_RELAY_V1" ++ [1]] ([payloadOf 1 []], []) := by
  obtain ⟨-, -, h⟩ := relay_framing_lossless
    [[0, 0], [0, 18, 77], ascii "IDSCALE_RELAY_V1" ++ [1]] (by decide)
  obtain ⟨fs, hfs, hboth⟩ := h RelayProtocol.sendMessage List.mem_cons_self [(1, [])] (by decide)
  refine hboth ?_
  have hfs' : written RelayProtocol.sendMessage [(1, [])] =
      some [[0, 0, 0, 18] ++ payloadOf 1 []] := by decide
  rw [hfs', Option.some.injEq] at hfs
  rw [← hfs]
  decide

end Relay

end Midscale
