import Midscale.Data.Dict
import Midscale.Data.JsonLoads
import Midscale.Net.IPv6

/-!
# The relay client of the daemon

`midscaled.daemon.relay_client.DaemonRelayClient` behind the framing: the sessions it has sent a
`CONNECT` for, and its two byte counters, which last as long as the client does.  `json.loads` is a
parameter, as it is for the relay server.

* `fromHex` : `bytes.fromhex`.
* `RelayClient.handleData` : a `DATA` frame only counts.
-/

namespace Midscale

namespace Daemon

/-! ### Data in frames -/

/-- ASCII whitespace. -/
def isAsciiSpace (c : Char) : Bool := c = ' ' ∨ ('\t' ≤ c ∧ c ≤ '\r')

/-- `bytes.fromhex`: pairs of digits, with blanks between the pairs. -/
def fromHex : List Char → Option Bytes
  | [] => some []
  | c :: cs =>
    if isAsciiSpace c then fromHex cs
    else
      match cs with
      | [] => none
      | d :: rest => do
        let high ← IPv6Address.hexDigit c
        let low ← IPv6Address.hexDigit d
        let bytes ← fromHex rest
        some (UInt8.ofNat (high * 16 + low) :: bytes)

example : fromHex ['d', 'e', ' ', '0', 'A'] = some [222, 10] := by decide

/-- The payload in the body of a `DATA` frame, unless reading it raises. -/
def dataPayload (body : Json) : Option Bytes :=
  match body with
  | .obj _ =>
    match (body.get? "data").getD (.str "") with
    | .str hex => fromHex hex.toList
    | _ => none
  | _ => none

/-! ### The client -/

/-- `DaemonRelayClient`, with the tokens of its active sessions. -/
structure RelayClient where
  deviceId : String
  deviceToken : String
  activeSessions : Dict String String := .empty
  bytesTx : ℕ := 0
  bytesRx : ℕ := 0

namespace RelayClient

variable (c : RelayClient)

/-- The body of the `CONNECT` that `connect_session` sends. -/
def connectMessage (sessionId token : Json) : Json :=
  .obj [("token", token), ("device_id", .str c.deviceId), ("session_id", sessionId)]

/-- `connect_session`. -/
def connectSession (sessionId token : String) : RelayClient :=
  { c with activeSessions := c.activeSessions.set sessionId token }

/-- `disconnect_session`. -/
def disconnectSession (sessionId : String) : RelayClient :=
  { c with activeSessions := c.activeSessions.erase sessionId }

/-- `_handle_data`; an exception is logged. -/
def handleData (loads : Bytes → Option Json) (body : Bytes) : RelayClient :=
  match (loads body).bind dataPayload with
  | some payload => { c with bytesRx := c.bytesRx + payload.length }
  | none => c

end RelayClient

/-- The number of bytes that a `DATA` frame transfers. -/
def transferredBytes (loads : Bytes → Option Json) (body : Bytes) : ℕ :=
  (((loads body).bind dataPayload).map List.length).getD 0

theorem bytesRx_handleData (c : RelayClient) (loads : Bytes → Option Json) (body : Bytes) :
    (c.handleData loads body).bytesRx = c.bytesRx + transferredBytes loads body := by
  unfold RelayClient.handleData transferredBytes
  cases (loads body).bind dataPayload <;> rfl

theorem bytesTx_handleData (c : RelayClient) (loads : Bytes → Option Json) (body : Bytes) :
    (c.handleData loads body).bytesTx = c.bytesTx := by
  unfold RelayClient.handleData
  cases (loads body).bind dataPayload <;> rfl

end Daemon

end Midscale
