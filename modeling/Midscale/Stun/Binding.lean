import Mathlib.Data.Nat.Bitwise
import Midscale.Net.IPv6

/-!
# STUN binding messages

A daemon learns its mapped address from a STUN binding request: the server answers with the
address it saw, masked by the magic cookie, and the daemon unmasks it.  A message is a 20-byte
header (type, length, cookie, transaction id) followed by attributes.

* `buildBindingResponse`, `parseRequest`, `StunServer.handler` : the server.
* `buildBindingRequest`, `parseBindingResponse` : the daemon.
* `stun_round_trip` : the daemon reads the address and port that the server saw, and nothing
  under another transaction id.
* `handler_buildBindingRequest` : what the daemon sends is answered.
-/

namespace Midscale

open Struct

namespace Stun

def stunMagicCookie : ℕ := 0x2112A442
def stunBindingRequest : ℕ := 0x0001
def stunBindingResponse : ℕ := 0x0101
def stunXorMappedAddress : ℕ := 0x0020
def stunHeaderSize : ℕ := 20

/-- The exceptions of the `struct` module. -/
inductive StructError where
  | error
  deriving DecidableEq, Repr

/-- `struct.pack`, raising where a field does not fit. -/
def packed (fields : List (ℕ × ℕ)) : Except StructError Bytes :=
  match pack fields with
  | some b => .ok b
  | none => .error .error

/-- `struct.unpack_from`, raising where the data are too short. -/
def unpacked (widths : List ℕ) (data : Bytes) (offset : ℕ) : Except StructError (List ℕ) :=
  match unpackFrom widths data offset with
  | some fields => .ok fields
  | none => .error .error

/-! ### The server -/

/-- The dict that `_parse_request` returns. -/
structure RequestInfo where
  type : String
  length : ℕ
  deriving DecidableEq, Repr

/-- `_parse_request`.  The header size rules out that `unpack_from` raises. -/
def parseRequest (requestData : Bytes) : Option RequestInfo :=
  if requestData.length < stunHeaderSize then none
  else
    match unpackFrom [2, 2, 4] requestData 0 with
    | some [msgType, msgLen, cookie] =>
      if cookie ≠ stunMagicCookie ∨ msgType ≠ stunBindingRequest then none
      else some ⟨"Binding Request", msgLen⟩
    | _ => none

/-- `_pack_ip`, `none` when it raises `ValueError`. -/
def packIp (ipStr : String) : Option Bytes := (IPAddress.parse ipStr).map IPAddress.packed

/-- The response that `_build_binding_response` packs for a transaction id and the bytes of the
address; the length in the header is that of the value of the attribute. -/
def bindingResponse (transactionId packedIp : Bytes) (port : ℕ) : Except StructError Bytes := do
  let xoredPort := port ^^^ (stunMagicCookie >>> 16)
  -- `struct.unpack("!I", packed_ip)` takes four bytes and no other number of them
  if packedIp.length ≠ 4 then throw .error
  let xoredIp ← packed [(4, ofBigEndian packedIp ^^^ stunMagicCookie)]
  let attrValue := (← packed [(1, 0), (1, 0x01), (2, xoredPort)]) ++ xoredIp
  let attrLength := attrValue.length
  let responseHeader ← packed [(2, stunBindingResponse), (2, attrLength), (4, stunMagicCookie)]
  let attrHeader ← packed [(2, stunXorMappedAddress), (2, attrLength)]
  return responseHeader ++ transactionId ++ attrHeader ++ attrValue

/-- `_build_binding_response`. -/
def buildBindingResponse (requestData : Bytes) (srcAddr : String × ℕ) :
    Except StructError (Option Bytes) :=
  if requestData.length < stunHeaderSize then .ok none
  else
    match unpackFrom [2, 2, 4] requestData 0 with
    | some [msgType, _, cookie] =>
      if cookie ≠ stunMagicCookie then .ok none
      else if msgType ≠ stunBindingRequest then .ok none
      else
        let transactionId := requestData.slice 8 20
        if transactionId.length ≠ 12 then .ok none
        else
          match packIp srcAddr.1 with
          | none => .ok none
          | some packedIp => (bindingResponse transactionId packedIp srcAddr.2).map some
    | _ => .error .error

/-- `handler` of `StunServer.start` with an open transport: the datagram it sends back.  What
`_build_binding_response` raises is caught. -/
def StunServer.handler (data : Bytes) (addr : String × ℕ) : Option Bytes :=
  match parseRequest data, buildBindingResponse data addr with
  | some _, .ok response => response
  | _, _ => none

/-! ### The daemon -/

/-- `_build_binding_request` with the random transaction id it draws. -/
def buildBindingRequest (transactionId : Bytes) : Except StructError (Bytes × Bytes) := do
  let header ← packed [(2, stunBindingRequest), (2, 0), (4, stunMagicCookie)]
  return (header ++ transactionId, transactionId)

/-- The address that an attribute holds, if it is an `XOR-MAPPED-ADDRESS` of a known family. -/
def readAddress (data : Bytes) (attrType attrLength attrValueOffset : ℕ) :
    Except StructError (Option (String × ℕ)) := do
  if attrType = stunXorMappedAddress ∧ 8 ≤ attrLength then
    let fields ← unpacked [1, 1, 2] data attrValueOffset
    let family := fields.getD 1 0
    let port := fields.getD 2 0 ^^^ (stunMagicCookie >>> 16)
    if family = 0x01 ∧ 8 ≤ attrLength then
      let words ← unpacked [4] data (attrValueOffset + 4)
      let ip ← packed (words.map fun w => (4, w ^^^ stunMagicCookie))
      return some (IPv4Address.inetNtoa ip, port)
    else if family = 0x02 ∧ 20 ≤ attrLength then
      -- every word is unmasked with the cookie
      let words ← unpacked [4, 4, 4, 4] data (attrValueOffset + 4)
      let ip ← packed (words.map fun w => (4, w ^^^ stunMagicCookie))
      return some (IPv6Address.inetNtop ip, port)
    else return none
  else return none

/-- The loop of `_parse_binding_response` over the attributes between `offset` and `stop`. -/
def parseAttributes (data : Bytes) (stop offset : ℕ) : Except StructError (Option (String × ℕ)) :=
  if offset + 4 ≤ stop then
    match unpacked [2, 2] data offset with
    | .error e => .error e
    | .ok fields =>
      let attrLength := fields.getD 1 0
      match readAddress data (fields.getD 0 0) attrLength (offset + 4) with
      | .error e => .error e
      | .ok (some found) => .ok (some found)
      | .ok none =>
        parseAttributes data stop
          (offset + (4 + attrLength) + if attrLength % 2 = 1 then 1 else 0)
  else .ok none
termination_by stop - offset

/-- `_parse_binding_response`. -/
def parseBindingResponse (data expectedTid : Bytes) : Except StructError (Option (String × ℕ)) :=
  if data.length < stunHeaderSize then .ok none
  else
    match unpackFrom [2, 2, 4] data 0 with
    | some [msgType, msgLen, cookie] =>
      if cookie ≠ stunMagicCookie then .ok none
      else if msgType ≠ stunBindingResponse then .ok none
      else
        let tid := data.slice 8 20
        if tid ≠ expectedTid ∨ tid.length ≠ 12 then .ok none
        else parseAttributes data (stunHeaderSize + msgLen) stunHeaderSize
    | _ => .error .error

/-! ### Requests that are accepted -/

/-- The transaction id of a message. -/
def transactionId (message : Bytes) : Bytes := message.slice 8 20

theorem length_transactionId {message : Bytes} (h : stunHeaderSize ≤ message.length) :
    (transactionId message).length = 12 := by
  simp only [stunHeaderSize] at h
  simp only [transactionId, Bytes.slice, List.length_drop, List.length_take]
  omega

theorem parseRequest_eq_some_iff {request : Bytes} {info : RequestInfo} :
    parseRequest request = some info ↔ stunHeaderSize ≤ request.length ∧
      fieldsOf [2, 2, 4] request = [stunBindingRequest, info.length, stunMagicCookie] ∧
      info.type = "Binding Request" := by
  by_cases hlen : request.length < stunHeaderSize
  · simp only [parseRequest, hlen, ↓reduceIte, reduceCtorEq, false_iff]
    rintro ⟨h, -⟩
    omega
  · have hle : 0 + [2, 2, 4].sum ≤ request.length := by
      simp only [stunHeaderSize] at hlen
      simp only [List.sum_cons, List.sum_nil]
      omega
    simp only [parseRequest, hlen, ↓reduceIte, unpackFrom, hle, List.drop_zero, fieldsOf]
    obtain ⟨type, length⟩ := info
    simp only [ne_eq, List.cons.injEq, and_true]
    split
    · rename_i hbad
      simp only [reduceCtorEq, false_iff]
      rintro ⟨-, ⟨ht, -, hc⟩, -⟩
      exact hbad.elim (fun h => h hc) fun h => h ht
    · rename_i hgood
      simp only [not_or, not_not] at hgood
      simp only [Option.some.injEq, RequestInfo.mk.injEq, hgood, true_and, and_true]
      constructor
      · rintro ⟨ht, hl⟩
        exact ⟨by omega, hl, ht.symm⟩
      · rintro ⟨-, hl, ht⟩
        exact ⟨ht.symm, hl⟩

theorem parseRequest_buildBindingRequest {tid request : Bytes} (h : tid.length = 12)
    (hb : buildBindingRequest tid = .ok (request, tid)) :
    parseRequest request = some ⟨"Binding Request", 0⟩ ∧ transactionId request = tid := by
  have hheader : packed [(2, stunBindingRequest), (2, 0), (4, stunMagicCookie)] =
      .ok [0, 1, 0, 0, 0x21, 0x12, 0xA4, 0x42] := by decide
  rw [buildBindingRequest, hheader] at hb
  obtain rfl : [0, 1, 0, 0, 0x21, 0x12, 0xA4, 0x42] ++ tid = request :=
    congrArg Prod.fst (Except.ok.inj hb)
  refine ⟨parseRequest_eq_some_iff.2 ⟨?_, rfl, rfl⟩, ?_⟩
  · simp only [List.length_append, h]
    decide
  · simp only [transactionId, Bytes.slice, List.cons_append, List.nil_append, List.take_succ_cons,
      List.drop_succ_cons, List.drop_zero]
    exact List.take_of_length_le (by omega)

/-! ### The round trip -/

theorem unpacked_of_pack {fields : List (ℕ × ℕ)} {b : Bytes} (h : pack fields = some b)
    {data a c : Bytes} (hd : data = a ++ (b ++ c)) {offset : ℕ} (ho : offset = a.length) :
    unpacked (fields.map Prod.fst) data offset = .ok (fields.map Prod.snd) := by
  rw [unpacked, hd, ho, unpackFrom_pack h]

theorem packed_of_pack {fields : List (ℕ × ℕ)} {b : Bytes} (h : pack fields = some b) :
    packed fields = .ok b := by
  rw [packed, h]

/-- The parts of a response, each as it was packed. -/
structure ResponseParts (x : IPv4Address) (port : ℕ) where
  (header attrHeader family maskedIp : Bytes)
  pack_header : pack [(2, stunBindingResponse), (2, 8), (4, stunMagicCookie)] = some header
  pack_attrHeader : pack [(2, stunXorMappedAddress), (2, 8)] = some attrHeader
  pack_family : pack [(1, 0), (1, 0x01), (2, port ^^^ (stunMagicCookie >>> 16))] = some family
  pack_maskedIp : pack [(4, x.val ^^^ stunMagicCookie)] = some maskedIp

namespace ResponseParts

variable {x : IPv4Address} {port : ℕ}

/-- The bytes of a response. -/
def bytes (r : ResponseParts x port) (tid : Bytes) : Bytes :=
  r.header ++ tid ++ r.attrHeader ++ (r.family ++ r.maskedIp)

theorem length_header (r : ResponseParts x port) : r.header.length = 8 :=
  length_of_pack r.pack_header

theorem length_attrHeader (r : ResponseParts x port) : r.attrHeader.length = 4 :=
  length_of_pack r.pack_attrHeader

theorem length_family (r : ResponseParts x port) : r.family.length = 4 :=
  length_of_pack r.pack_family

theorem length_maskedIp (r : ResponseParts x port) : r.maskedIp.length = 4 :=
  length_of_pack r.pack_maskedIp

theorem length_bytes (r : ResponseParts x port) {tid : Bytes} (h : tid.length = 12) :
    (r.bytes tid).length = 32 := by
  simp only [bytes, List.length_append, h, r.length_header, r.length_attrHeader, r.length_family,
    r.length_maskedIp]

theorem transactionId_bytes (r : ResponseParts x port) {tid : Bytes} (h : tid.length = 12) :
    (r.bytes tid).slice 8 20 = tid := by
  have hprefix : (r.header ++ tid).length = 20 := by rw [List.length_append, r.length_header, h]
  rw [Bytes.slice, bytes, List.append_assoc, List.take_left' hprefix,
    List.drop_left' r.length_header]

theorem exists_of_lt (x : IPv4Address) (hport : port < 2 ^ 16) :
    Nonempty (ResponseParts x port) := by
  have hmaskedPort : port ^^^ (stunMagicCookie >>> 16) < 2 ^ 16 :=
    Nat.xor_lt_two_pow hport (by decide)
  have hmaskedIp : x.val ^^^ stunMagicCookie < 2 ^ 32 := Nat.xor_lt_two_pow x.isLt (by decide)
  exact ⟨{
    header := _, attrHeader := _, family := _, maskedIp := _
    pack_header := pack_of_lt (by decide)
    pack_attrHeader := pack_of_lt (by decide)
    pack_family := pack_of_lt (by simpa using hmaskedPort)
    pack_maskedIp := pack_of_lt (by simpa using hmaskedIp) }⟩

theorem bindingResponse_eq (r : ResponseParts x port) (tid : Bytes) :
    bindingResponse tid (bigEndian 4 x.val) port = .ok (r.bytes tid) := by
  have hx : ofBigEndian (bigEndian 4 x.val) = x.val := ofBigEndian_bigEndian x.isLt
  have hlen : (r.family ++ r.maskedIp).length = 8 := by
    rw [List.length_append, r.length_family, r.length_maskedIp]
  simp only [bindingResponse, length_bigEndian, ne_eq, not_true_eq_false, ↓reduceIte, hx,
    packed_of_pack r.pack_maskedIp, packed_of_pack r.pack_family, bind, Except.bind, hlen,
    packed_of_pack r.pack_header, packed_of_pack r.pack_attrHeader, pure, Except.pure, bytes]

theorem parseAttributes_bytes (r : ResponseParts x port) {tid : Bytes} (h : tid.length = 12) :
    parseAttributes (r.bytes tid) 28 20 = .ok (some (x.str, port)) := by
  have hattr : unpacked [2, 2] (r.bytes tid) 20 = .ok [stunXorMappedAddress, 8] :=
    unpacked_of_pack r.pack_attrHeader (a := r.header ++ tid) (c := r.family ++ r.maskedIp)
      (by simp only [bytes, List.append_assoc])
      (by rw [List.length_append, r.length_header, h])
  have hfamily : unpacked [1, 1, 2] (r.bytes tid) 24 =
      .ok [0, 1, port ^^^ (stunMagicCookie >>> 16)] :=
    unpacked_of_pack r.pack_family (a := r.header ++ tid ++ r.attrHeader) (c := r.maskedIp) rfl
      (by rw [List.length_append, List.length_append, r.length_header, r.length_attrHeader, h])
  have hmasked : unpacked [4] (r.bytes tid) 28 = .ok [x.val ^^^ stunMagicCookie] :=
    unpacked_of_pack r.pack_maskedIp (a := r.header ++ tid ++ r.attrHeader ++ r.family) (c := [])
      (by simp only [bytes, List.append_assoc, List.append_nil])
      (by simp only [List.length_append, r.length_header, r.length_attrHeader, r.length_family, h])
  have hplain : packed [(4, x.val)] = .ok (bigEndian 4 x.val) :=
    packed_of_pack (by rw [pack_of_lt (by simp)]; rfl)
  -- masking twice gives back the address and the port
  have hread : readAddress (r.bytes tid) stunXorMappedAddress 8 24 =
      .ok (some (IPv4Address.inetNtoa (bigEndian 4 x.val), port)) := by
    simp [readAddress, hfamily, hmasked, hplain, bind, Except.bind, pure,
      Except.pure]
  rw [parseAttributes, if_pos (by decide), hattr]
  simp only [List.getD_cons_zero, List.getD_cons_succ, hread,
    IPv4Address.inetNtoa_bigEndian]

theorem parseBindingResponse_bytes (r : ResponseParts x port) {tid : Bytes} (h : tid.length = 12)
    (expectedTid : Bytes) : parseBindingResponse (r.bytes tid) expectedTid =
      if tid = expectedTid then .ok (some (x.str, port)) else .ok none := by
  have hheader : unpackFrom [2, 2, 4] (r.bytes tid) 0 =
      some [stunBindingResponse, 8, stunMagicCookie] := by
    have hbytes : r.bytes tid =
        [] ++ (r.header ++ (tid ++ (r.attrHeader ++ (r.family ++ r.maskedIp)))) := by
      simp only [bytes, List.append_assoc, List.nil_append]
    rw [hbytes]
    exact unpackFrom_pack r.pack_header [] _
  have hlen : ¬ (r.bytes tid).length < stunHeaderSize := by
    rw [r.length_bytes h]
    decide
  have hattrs : parseAttributes (r.bytes tid) (stunHeaderSize + 8) stunHeaderSize = _ :=
    r.parseAttributes_bytes h
  by_cases htid : tid = expectedTid
  · subst htid
    simp [parseBindingResponse, hlen, hheader, r.transactionId_bytes h, h, hattrs]
  · simp [parseBindingResponse, hlen, hheader, r.transactionId_bytes h, htid]

end ResponseParts

theorem buildBindingResponse_of_accepted {request : Bytes} {info : RequestInfo}
    (h : parseRequest request = some info) {ipStr : String} {packedIp : Bytes}
    (hip : packIp ipStr = some packedIp) (port : ℕ) :
    buildBindingResponse request (ipStr, port) =
      (bindingResponse (transactionId request) packedIp port).map some := by
  obtain ⟨hlen, hfields, -⟩ := parseRequest_eq_some_iff.1 h
  have hunpack : unpackFrom [2, 2, 4] request 0 =
      some [stunBindingRequest, info.length, stunMagicCookie] := by
    have hle : 0 + [2, 2, 4].sum ≤ request.length := by
      simp only [stunHeaderSize] at hlen
      simp only [List.sum_cons, List.sum_nil]
      omega
    rw [unpackFrom, if_pos hle, List.drop_zero, hfields]
  have htid : (request.slice 8 20).length = 12 := length_transactionId hlen
  simp [buildBindingResponse, Nat.not_lt.2 hlen, hunpack, htid, hip, transactionId]

theorem exists_response {request : Bytes} {info : RequestInfo}
    (h : parseRequest request = some info) (x : IPv4Address) {port : ℕ} (hport : port < 65536) :
    ∃ r : ResponseParts x port, buildBindingResponse request (x.str, port) =
      .ok (some (r.bytes (transactionId request))) := by
  obtain ⟨r⟩ := ResponseParts.exists_of_lt x hport
  have hpack : packIp x.str = some (bigEndian 4 x.val) := by
    rw [packIp, IPAddress.parse_str, Option.map_some, IPAddress.packed]
  refine ⟨r, ?_⟩
  rw [buildBindingResponse_of_accepted h hpack, r.bindingResponse_eq]
  rfl

/-- **STUN round trip.**  The response to an accepted request, seen from an IPv4 address and a
port, reads as that address and port under the transaction id of the request, and as nothing
under any other one. -/
theorem stun_round_trip {request : Bytes} {info : RequestInfo}
    (h : parseRequest request = some info) (x : IPv4Address) {port : ℕ} (hport : port < 65536) :
    ∃ response, buildBindingResponse request (x.str, port) = .ok (some response) ∧
      parseBindingResponse response (transactionId request) = .ok (some (x.str, port)) ∧
      ∀ tid, tid ≠ transactionId request → parseBindingResponse response tid = .ok none := by
  obtain ⟨r, hr⟩ := exists_response h x hport
  have htid : (transactionId request).length = 12 :=
    length_transactionId (parseRequest_eq_some_iff.1 h).1
  refine ⟨_, hr, ?_, fun tid hne => ?_⟩
  · rw [r.parseBindingResponse_bytes htid, if_pos rfl]
  · rw [r.parseBindingResponse_bytes htid, if_neg hne.symm]

/-- A request that declares nine bytes of attributes and carries three. -/
theorem stun_round_trip_long :
    let request : Bytes := [0, 1, 0, 9, 0x21, 0x12, 0xA4, 0x42] ++ List.replicate 12 7 ++ [1, 2, 3]
    ∃ response, buildBindingResponse request ("203.0.113.5", 51820) = .ok (some response) ∧
      parseBindingResponse response (transactionId request) = .ok (some ("203.0.113.5", 51820)) ∧
      ∀ tid, tid ≠ transactionId request → parseBindingResponse response tid = .ok none := by
  intro request
  have haddr : "203.0.113.5" = IPv4Address.str ⟨0xCB007105, by decide⟩ := by decide
  rw [haddr]
  exact @stun_round_trip request ⟨"Binding Request", 9⟩ (by decide) _ 51820 (by decide)

/-- What the daemon sends is answered, and the answer tells it how the server sees it. -/
theorem handler_buildBindingRequest {tid request : Bytes} (h : tid.length = 12)
    (hb : buildBindingRequest tid = .ok (request, tid)) (x : IPv4Address) {port : ℕ}
    (hport : port < 65536) :
    ∃ response, StunServer.handler request (x.str, port) = some response ∧
      parseBindingResponse response tid = .ok (some (x.str, port)) := by
  obtain ⟨hparse, htid⟩ := parseRequest_buildBindingRequest h hb
  obtain ⟨r, hr⟩ := exists_response hparse x hport
  refine ⟨r.bytes (transactionId request), ?_, ?_⟩
  · rw [StunServer.handler, hparse, hr]
  · rw [htid, r.parseBindingResponse_bytes h, if_pos rfl]

end Stun

end Midscale
