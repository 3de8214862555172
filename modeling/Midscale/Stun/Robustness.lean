import Midscale.Stun.Walk

/-!
# Datagrams that declare more than they hold

The daemon trusts the lengths in a response.  Where they lead it past the end of the datagram,
`struct` raises, and the future of the query stays pending.

* `StunClientProtocol.datagramReceived` : what a datagram does to a query.
* `Contained` : all that the daemon reads of a response lies in the datagram.
* `parseBindingResponse_ok_iff`, `datagramReceived_completes_iff` : **a datagram completes the
  query exactly if it is no response to it or is contained.**
-/

namespace Midscale

open Struct Tlv

namespace Stun

/-! ### A query -/

structure StunResult where
  publicIp : String
  publicPort : ℕ
  server : String
  rttMs : ℚ
  deriving DecidableEq

/-- `_StunClientProtocol`; `done` is `none` while the future is pending. -/
structure StunClientProtocol where
  transactionId : Bytes
  done : Option (Option StunResult) := none
  deriving DecidableEq

/-- `datagram_received`, with the round trip time that the clock gives, and the exception that
leaves it. -/
def StunClientProtocol.datagramReceived (p : StunClientProtocol) (data : Bytes)
    (addr : Option (String × ℕ)) (rttMs : ℚ) : StunClientProtocol × Option StructError :=
  match parseBindingResponse data p.transactionId with
  | .error e => (p, some e)
  | .ok (some (ip, port)) =>
    let server := match addr with
      | some (host, port) => host ++ ":" ++ toString port
      | none => "unknown"
    if p.done.isNone then ({ p with done := some (some ⟨ip, port, server, rttMs⟩) }, none)
    else (p, none)
  | .ok none => if p.done.isNone then ({ p with done := some none }, none) else (p, none)

/-! ### Reads inside the datagram -/

/-- Every attribute that the daemon comes to before the declared end is in the datagram, as far as
it is read. -/
def Contained (data : Bytes) : Prop :=
  ∀ offset, Reaches data (declaredEnd data) offset → offset + 4 ≤ declaredEnd data →
    Complete data offset

theorem parseAttributes_ok_iff (data : Bytes) (stop : ℕ) :
    (∃ result, parseAttributes data stop stunHeaderSize = .ok result) ↔
      ∀ offset, Reaches data stop offset → offset + 4 ≤ stop → Complete data offset := by
  constructor
  · rintro ⟨result, hresult⟩ offset hreach hroom
    rw [parseAttributes_walk hreach, parseAttributes_eq, if_pos hroom] at hresult
    by_contra hcut
    rw [if_neg hcut] at hresult
    cases hresult
  · intro h
    obtain ⟨last, hwalk, hlast⟩ := exists_walk_end data stop stunHeaderSize
    rw [parseAttributes_walk hwalk, parseAttributes_eq]
    by_cases hroom : last + 4 ≤ stop
    · have hc := h last hwalk hroom
      rw [if_pos hroom, if_pos hc, if_pos (hlast hroom hc)]
      exact ⟨_, rfl⟩
    · rw [if_neg hroom]
      exact ⟨_, rfl⟩

theorem parseBindingResponse_ok_iff (data expectedTid : Bytes) :
    (∃ result, parseBindingResponse data expectedTid = .ok result) ↔
      (IsResponse data expectedTid → Contained data) := by
  by_cases h : IsResponse data expectedTid
  · rw [parseBindingResponse_of_isResponse h, parseAttributes_ok_iff, imp_iff_right h]
    rfl
  · rw [parseBindingResponse_of_not h]
    exact iff_of_true ⟨_, rfl⟩ fun hr => absurd hr h

theorem done_datagramReceived_iff (data tid : Bytes) (addr : Option (String × ℕ)) (rttMs : ℚ) :
    ((StunClientProtocol.mk tid none).datagramReceived data addr rttMs).1.done.isSome ↔
      ∃ result, parseBindingResponse data tid = .ok result := by
  cases hparse : parseBindingResponse data tid with
  | error e => simp [StunClientProtocol.datagramReceived, hparse]
  | ok result => cases result <;> simp [StunClientProtocol.datagramReceived, hparse]

/-- **Robustness.**  Parsing returns, and the first datagram completes the query, exactly if the
datagram is no response to the query or holds all that the daemon reads of it. -/
theorem datagramReceived_completes_iff (data tid : Bytes) (addr : Option (String × ℕ))
    (rttMs : ℚ) :
    ((∃ result, parseBindingResponse data tid = .ok result) ∧
      ((StunClientProtocol.mk tid none).datagramReceived data addr rttMs).1.done.isSome) ↔
      (IsResponse data tid → Contained data) := by
  rw [done_datagramReceived_iff, and_self, parseBindingResponse_ok_iff]

/-- A bare header that declares eight more bytes. -/
theorem datagramReceived_raises :
    let data : Bytes := [1, 1, 0, 8, 0x21, 0x12, 0xA4, 0x42] ++ List.replicate 12 7
    parseBindingResponse data (List.replicate 12 7) = .error .error ∧
      (StunClientProtocol.mk (List.replicate 12 7) none).datagramReceived data
        (some ("198.51.100.1", 3478)) 20 =
        (StunClientProtocol.mk (List.replicate 12 7) none, some .error) := by
  intro data
  have hresponse : IsResponse data (List.replicate 12 7) := ⟨by decide, rfl, rfl, rfl⟩
  have hparse : parseBindingResponse data (List.replicate 12 7) = .error .error := by
    rw [parseBindingResponse_of_isResponse hresponse, parseAttributes_eq, if_pos (by decide),
      if_neg (by decide)]
  refine ⟨hparse, ?_⟩
  simp only [StunClientProtocol.datagramReceived, hparse]

end Stun

end Midscale
