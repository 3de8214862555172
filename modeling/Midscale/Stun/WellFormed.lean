import Midscale.Net.IPv6Text
import Midscale.Stun.Walk

/-!
# Well-formed responses

A success response by the protocol: a header whose length field counts the bytes after it, and
attributes padded to multiples of four bytes.  The server writes another length, and the daemon
pads to two bytes and unmasks every address with the cookie alone.

* `WellFormed` : the layout of a message with given attributes.
* `response_not_wellFormed` : the server's responses declare eight of their twelve bytes.
* `BindingSuccess`, `IsXorMapped` : a success response and the address in it.
* `parseBindingResponse_iff` : **when the daemon reads that address.**
-/

namespace Midscale

open Struct Tlv

namespace Stun

/-! ### Messages -/

/-- Going by the declared lengths, padded to four bytes, leads from attribute to attribute to the
end of the message. -/
def WalksToEnd (message : Bytes) : Prop :=
  Relation.ReflTransGen
    (fun offset offset' => offset + 4 ≤ message.length ∧ offset' = next 4 message offset)
    stunHeaderSize message.length

/-- A message with these attributes and no other bytes: its length field counts the bytes after
the header, and it is walked over to its end. -/
structure WellFormed (message : Bytes) (attributes : List (Attribute 4)) : Prop where
  header : stunHeaderSize ≤ message.length
  length : lengthAt message 0 = message.length - stunHeaderSize
  attributes : message.drop stunHeaderSize = Tlv.bytes attributes
  walk : WalksToEnd message

theorem walksToEnd_bytes {header : Bytes} (h : header.length = stunHeaderSize)
    (attributes : List (Attribute 4)) : WalksToEnd (header ++ Tlv.bytes attributes) := by
  rw [WalksToEnd, ← h]
  refine walk_bytes attributes fun before a after has => ?_
  have hdata : header ++ Tlv.bytes attributes =
      header ++ Tlv.bytes before ++ (a.bytes ++ Tlv.bytes after) := by
    rw [has, bytes_append, bytes_cons, List.append_assoc]
  rw [hdata]
  refine ⟨?_, (next_bytes _ a _ rfl).symm⟩
  simp only [List.length_append, a.length_bytes]
  omega

/-! ### The server -/

/-- The attribute of a response. -/
def ResponseParts.mappedAddress {x : IPv4Address} {port : ℕ} (r : ResponseParts x port) :
    Attribute 4 where
  type := stunXorMappedAddress
  value := r.family ++ r.maskedIp
  pad := []
  type_lt := by decide
  length_lt := by rw [List.length_append, r.length_family, r.length_maskedIp]; decide
  length_pad := by rw [List.length_append, r.length_family, r.length_maskedIp]; rfl

theorem ResponseParts.bytes_eq {x : IPv4Address} {port : ℕ} (r : ResponseParts x port)
    (tid : Bytes) : r.bytes tid = r.header ++ tid ++ Tlv.bytes [r.mappedAddress] := by
  have hlen : (r.family ++ r.maskedIp).length = 8 := by
    rw [List.length_append, r.length_family, r.length_maskedIp]
  have hheader : r.mappedAddress.header = r.attrHeader := by
    have := r.pack_attrHeader
    rw [pack_of_lt (by decide)] at this
    rw [Attribute.header, mappedAddress, hlen]
    exact Option.some.inj this
  simp only [ResponseParts.bytes, bytes_cons, bytes_nil, Attribute.bytes, hheader]
  simp only [mappedAddress, List.append_nil, List.append_assoc]

/-- **The length of a response is wrong.**  Whatever the request, the server writes one attribute
as the protocol has it and declares eight bytes for the twelve that follow the header, so no
response is well formed. -/
theorem response_not_wellFormed {request : Bytes} {info : RequestInfo}
    (h : parseRequest request = some info) (x : IPv4Address) {port : ℕ} (hport : port < 65536) :
    ∃ response, buildBindingResponse request (x.str, port) = .ok (some response) ∧
      lengthAt response 0 = 8 ∧ response.length - stunHeaderSize = 12 ∧
      (∃ a : Attribute 4, response.drop stunHeaderSize = Tlv.bytes [a] ∧
        lengthAt response stunHeaderSize = a.value.length) ∧
      WalksToEnd response ∧ ¬ ∃ a, WellFormed response [a] := by
  obtain ⟨r, hr⟩ := exists_response h x hport
  have htid : (transactionId request).length = 12 :=
    length_transactionId (parseRequest_eq_some_iff.1 h).1
  have hhead : (r.header ++ transactionId request).length = stunHeaderSize := by
    rw [List.length_append, r.length_header, htid]
    rfl
  have hlength : lengthAt (r.bytes (transactionId request)) 0 = 8 := by
    have hheader := r.pack_header
    rw [pack_of_lt (by decide)] at hheader
    rw [ResponseParts.bytes, ← Option.some.inj hheader]
    rfl
  have htotal : (r.bytes (transactionId request)).length - stunHeaderSize = 12 := by
    rw [r.length_bytes htid]
    rfl
  refine ⟨_, hr, hlength, htotal, ⟨r.mappedAddress, ?_, ?_⟩, ?_, ?_⟩
  · rw [r.bytes_eq, List.drop_left' hhead]
  · rw [r.bytes_eq, ← hhead, bytes_cons, lengthAt_bytes]
  · rw [r.bytes_eq]
    exact walksToEnd_bytes hhead _
  · rintro ⟨a, hwf⟩
    have := hwf.length
    rw [hlength, htotal] at this
    omega

/-- A bare binding request and the response to it. -/
theorem response_not_wellFormed_bare :
    let request : Bytes := [0, 1, 0, 0, 0x21, 0x12, 0xA4, 0x42] ++ List.replicate 12 7
    ∃ response, buildBindingResponse request (IPv4Address.str ⟨0xCB007105, by decide⟩, 51820) =
        .ok (some response) ∧
      lengthAt response 0 = 8 ∧ response.length - stunHeaderSize = 12 ∧
      (∃ a : Attribute 4, response.drop stunHeaderSize = Tlv.bytes [a] ∧
        lengthAt response stunHeaderSize = a.value.length) ∧
      WalksToEnd response ∧ ¬ ∃ a, WellFormed response [a] :=
  @response_not_wellFormed _ ⟨"Binding Request", 0⟩ (by decide) _ 51820 (by decide)

/-- The bytes of such a response, of which the third and fourth should be 0 and 12. -/
theorem response_declares_eight :
    let response : Bytes := [1, 1, 0, 8, 0x21, 0x12, 0xA4, 0x42] ++ List.replicate 12 7 ++
      [0, 0x20, 0, 8, 0, 1, 0xEB, 0x7E, 0xEA, 0x12, 0xD5, 0x47]
    buildBindingResponse ([0, 1, 0, 0, 0x21, 0x12, 0xA4, 0x42] ++ List.replicate 12 7)
        ("203.0.113.5", 51820) = .ok (some response) ∧
      ¬ ∃ a, WellFormed response [a] := by
  refine ⟨by decide +kernel, ?_⟩
  rintro ⟨a, hwf⟩
  exact absurd hwf.length (by decide)

/-! ### The daemon -/

/-- The text that `inet_ntoa` and `inet_ntop` write. -/
def addressText : IPAddress → String
  | .v4 x => x.str
  | .v6 x => IPv6Address.inetNtop (bigEndian 16 x.val)

def addressFamily : IPAddress → UInt8
  | .v4 _ => 0x01
  | .v6 _ => 0x02

/-- The value of an `XOR-MAPPED-ADDRESS`: the port masked with the upper half of the cookie, the
address with the cookie and, as far as it is longer, with the transaction id. -/
def xorMappedValue (reserved : UInt8) (tid : Bytes) (address : IPAddress) (port : ℕ) : Bytes :=
  reserved :: addressFamily address :: (bigEndian 2 (port ^^^ (stunMagicCookie >>> 16)) ++
    List.zipWith (· ^^^ ·) address.packed (bigEndian 4 stunMagicCookie ++ tid))

/-- An attribute that tells an address and a port, whatever its reserved byte. -/
def IsXorMapped (tid : Bytes) (address : IPAddress) (port : ℕ) (a : Attribute 4) : Prop :=
  a.type = stunXorMappedAddress ∧ ∃ reserved, a.value = xorMappedValue reserved tid address port

/-- A binding success response. -/
structure BindingSuccess where
  tid : Bytes
  attributes : List (Attribute 4)
  length_tid : tid.length = 12
  length_lt : (Tlv.bytes attributes).length < 2 ^ 16

namespace BindingSuccess

variable (m : BindingSuccess)

/-- The header, whose length is that of the attributes. -/
def header : Bytes :=
  bigEndian 2 stunBindingResponse ++ bigEndian 2 (Tlv.bytes m.attributes).length ++
    bigEndian 4 stunMagicCookie ++ m.tid

def bytes : Bytes := m.header ++ Tlv.bytes m.attributes

theorem length_header : m.header.length = stunHeaderSize := by
  simp only [header, List.length_append, length_bigEndian, m.length_tid]
  rfl

theorem declaredLength_bytes : lengthAt m.bytes 0 = (Tlv.bytes m.attributes).length := by
  have hpow : (Tlv.bytes m.attributes).length < 256 ^ 2 := m.length_lt
  simp only [lengthAt, bytes, header, List.append_assoc]
  rw [List.drop_left' (length_bigEndian _ _), List.take_left' (length_bigEndian _ _),
    ofBigEndian_bigEndian hpow]

theorem declaredEnd_bytes : declaredEnd m.bytes = m.bytes.length := by
  rw [declaredEnd, m.declaredLength_bytes, bytes, List.length_append, m.length_header]

theorem wellFormed : WellFormed m.bytes m.attributes where
  header := by rw [bytes, List.length_append, m.length_header]; omega
  length := by
    rw [m.declaredLength_bytes, bytes, List.length_append, m.length_header]
    omega
  attributes := by rw [bytes, List.drop_left' m.length_header]
  walk := walksToEnd_bytes m.length_header _

theorem isResponse : IsResponse m.bytes m.tid where
  header := m.wellFormed.header
  type := by
    simp only [typeAt, bytes, header, List.append_assoc, List.drop_zero]
    rw [List.take_left' (length_bigEndian _ _)]
    exact ofBigEndian_bigEndian (by decide)
  cookie := by
    have hfour : (bigEndian 2 stunBindingResponse ++
        bigEndian 2 (Tlv.bytes m.attributes).length).length = 4 := by
      rw [List.length_append, length_bigEndian, length_bigEndian]
    simp only [bytes, header]
    rw [List.append_assoc _ _ m.tid, List.append_assoc, List.drop_left' hfour, List.append_assoc,
      List.take_left' (length_bigEndian _ _)]
    exact ofBigEndian_bigEndian (by decide)
  tid := by
    have height : (bigEndian 2 stunBindingResponse ++
        bigEndian 2 (Tlv.bytes m.attributes).length ++ bigEndian 4 stunMagicCookie).length = 8 := by
      simp only [List.length_append, length_bigEndian]
    have hhead : m.header.length = 20 := m.length_header
    rw [transactionId, Bytes.slice, bytes, List.take_left' hhead, header,
      List.drop_left' height]

end BindingSuccess

/-! ### Reading the address -/

/-- The transaction ids under which the cookie alone unmasks an address. -/
def CookieUnmasks (tid : Bytes) : IPAddress → Prop
  | .v4 _ => True
  | .v6 _ => tid = (List.replicate 3 (bigEndian 4 stunMagicCookie)).flatten

section mapped

variable {data rest tid : Bytes} {offset : ℕ} {reserved : UInt8} {address : IPAddress} {port : ℕ}
  (hdata : data.drop (offset + 4) = xorMappedValue reserved tid address port ++ rest)

include hdata

theorem familyAt_mapped : familyAt data offset = (addressFamily address).toNat := by
  have hdrop : data.drop (offset + 5) = (data.drop (offset + 4)).drop 1 := by
    rw [List.drop_drop]
  rw [familyAt, hdrop, hdata]
  exact ofBigEndian_concat [] _ |>.trans (by simp [ofBigEndian])

theorem portAt_mapped (hport : port < 2 ^ 16) : portAt data offset = port := by
  have hmasked : port ^^^ (stunMagicCookie >>> 16) < 256 ^ 2 :=
    @Nat.xor_lt_two_pow port _ 16 hport (by decide)
  have hdrop : data.drop (offset + 6) = (data.drop (offset + 4)).drop 2 := by
    rw [List.drop_drop]
  rw [portAt, hdrop, hdata, xorMappedValue, List.cons_append, List.cons_append,
    List.drop_succ_cons, List.drop_succ_cons, List.drop_zero, List.append_assoc,
    List.take_left' (length_bigEndian _ _), ofBigEndian_bigEndian hmasked,
    Nat.xor_xor_cancel_right]

theorem take_mapped {n : ℕ} (hlen : address.packed.length = n) (hn : n ≤ 4 + tid.length) :
    (data.drop (offset + 8)).take n =
      List.zipWith (· ^^^ ·) address.packed (bigEndian 4 stunMagicCookie ++ tid) := by
  have hdrop : data.drop (offset + 8) = ((data.drop (offset + 4)).drop 2).drop 2 := by
    rw [List.drop_drop, List.drop_drop]
  have hmasked : (List.zipWith (· ^^^ ·) address.packed
      (bigEndian 4 stunMagicCookie ++ tid)).length = n := by
    rw [List.length_zipWith, List.length_append, length_bigEndian, hlen]
    omega
  rw [hdrop, hdata, xorMappedValue, List.cons_append, List.cons_append, List.drop_succ_cons,
    List.drop_succ_cons, List.drop_zero, List.append_assoc,
    List.drop_left' (length_bigEndian _ _), List.take_left' hmasked]

end mapped

theorem unmasked_v4 (x : IPv4Address) (tid : Bytes) :
    List.zipWith (· ^^^ ·) (List.zipWith (· ^^^ ·) (bigEndian 4 x.val)
      (bigEndian 4 stunMagicCookie ++ tid)) cookieMask = bigEndian 4 x.val := by
  have hcookie : (bigEndian 4 stunMagicCookie).length = 4 := length_bigEndian _ _
  have hx : (bigEndian 4 x.val).length = 4 := length_bigEndian _ _
  have hinner : List.zipWith (· ^^^ ·) (bigEndian 4 x.val) (bigEndian 4 stunMagicCookie ++ tid) =
      List.zipWith (· ^^^ ·) (bigEndian 4 x.val) (bigEndian 4 stunMagicCookie) := by
    rw [zipWith_take_right _ _ (_ ++ tid), hx, List.take_left' hcookie]
  have hlen : (List.zipWith (· ^^^ ·) (bigEndian 4 x.val)
      (bigEndian 4 stunMagicCookie)).length = 4 := by
    rw [List.length_zipWith, hx, hcookie, Nat.min_self]
  have hmask : cookieMask.take 4 = bigEndian 4 stunMagicCookie := by decide
  rw [hinner, zipWith_take_right _ _ cookieMask, hlen, hmask,
    zipWith_xor_xor (by rw [hx, hcookie])]

theorem unmasked_v6_iff (x : IPv6Address) {tid : Bytes} (htid : tid.length = 12) :
    List.zipWith (· ^^^ ·) (List.zipWith (· ^^^ ·) (bigEndian 16 x.val)
      (bigEndian 4 stunMagicCookie ++ tid)) cookieMask = bigEndian 16 x.val ↔
      CookieUnmasks tid (.v6 x) := by
  have hx : (bigEndian 16 x.val).length = 16 := length_bigEndian _ _
  rw [zipWith_xor_inj (by rw [hx, List.length_append, length_bigEndian, htid]) (by rw [hx]; decide),
    CookieUnmasks, cookieMask, List.replicate_succ, List.flatten_cons]
  exact List.append_right_inj _

theorem addressAt_mapped_iff {data rest tid : Bytes} {offset : ℕ} {reserved : UInt8}
    {address : IPAddress} {port : ℕ}
    (hdata : data.drop (offset + 4) = xorMappedValue reserved tid address port ++ rest)
    (htid : tid.length = 12) (hport : port < 2 ^ 16) :
    addressAt data offset = (addressText address, port) ↔ CookieUnmasks tid address := by
  have hfamily := familyAt_mapped hdata
  rw [addressAt, portAt_mapped hdata hport]
  cases address with
  | v4 x =>
    have hv4 : familyAt data offset = 0x01 := hfamily
    rw [if_pos hv4, take_mapped hdata (length_bigEndian _ _) (by omega), IPAddress.packed,
      unmasked_v4, IPv4Address.inetNtoa_bigEndian]
    exact iff_of_true rfl trivial
  | v6 x =>
    have hv6 : familyAt data offset = 0x02 := hfamily
    rw [if_neg (by rw [hv6]; decide), take_mapped hdata (length_bigEndian _ _) (by omega),
      IPAddress.packed, addressText, Prod.mk.injEq, and_iff_left rfl, ← unmasked_v6_iff x htid]
    constructor
    · refine IPv6Address.inetNtop_injective ?_ (length_bigEndian _ _)
      simp only [List.length_zipWith, length_bigEndian, List.length_append, htid]
      rfl
    · intro h
      rw [h]

/-! ### Reading a response -/

/-- An attribute whose length is a multiple of four or one less, so that both ways of padding it
agree. -/
def Aligned (a : Attribute 4) : Prop := a.value.length % 4 = 0 ∨ a.value.length % 4 = 3

theorem Aligned.padding_eq {a : Attribute 4} (h : Aligned a) :
    padding 2 a.value.length = padding 4 a.value.length := by
  rw [Aligned] at h
  simp only [padding]
  omega

/-- Some place that the daemon comes to passes for an address and reads as the given one. -/
def MisreadAs (data : Bytes) (found : String × ℕ) : Prop :=
  ∃ offset, Reaches data (declaredEnd data) offset ∧ offset + 4 ≤ declaredEnd data ∧
    Complete data offset ∧ IsAddress data offset ∧ addressAt data offset = found

namespace BindingSuccess

variable (m : BindingSuccess) {before after : List (Attribute 4)} {a : Attribute 4}
  (hm : m.attributes = before ++ a :: after)

include hm

theorem bytes_split :
    m.bytes = m.header ++ Tlv.bytes before ++ (a.bytes ++ Tlv.bytes after) := by
  rw [bytes, hm, bytes_append, bytes_cons, List.append_assoc]

theorem reaches_of_aligned (hbefore : ∀ b ∈ before, b.type ≠ stunXorMappedAddress)
    (haligned : ∀ b ∈ before, Aligned b) :
    Reaches m.bytes m.bytes.length (m.header ++ Tlv.bytes before).length := by
  rw [Reaches, ← m.length_header]
  refine walk_bytes before fun first b last hsplit => ?_
  have hb : b ∈ before := by rw [hsplit]; exact List.mem_append_right _ List.mem_cons_self
  have hbytes : m.bytes = m.header ++ Tlv.bytes first ++
      (b.bytes ++ (Tlv.bytes last ++ (a.bytes ++ Tlv.bytes after))) := by
    rw [m.bytes_split hm, hsplit, bytes_append, bytes_cons]
    simp only [List.append_assoc]
  have hroom : (m.header ++ Tlv.bytes first).length + 4 + b.value.length ≤ m.bytes.length := by
    rw [hbytes]
    simp only [List.length_append, b.length_bytes]
    omega
  have hlength : lengthAt m.bytes (m.header ++ Tlv.bytes first).length = b.value.length := by
    rw [hbytes, lengthAt_bytes]
  refine ⟨by omega, complete_of_le (by rw [hlength]; exact hroom), ?_, ?_⟩
  · rintro ⟨htype, -⟩
    rw [hbytes, typeAt_bytes] at htype
    exact hbefore b hb htype
  · rw [hbytes, next_bytes _ _ _ (haligned b hb).padding_eq]

end BindingSuccess

theorem length_xorMappedValue {reserved : UInt8} {tid : Bytes} (htid : tid.length = 12)
    (address : IPAddress) (port : ℕ) :
    (xorMappedValue reserved tid address port).length = 4 + address.packed.length := by
  have hlong : address.packed.length ≤ 16 := by
    cases address <;> simp [IPAddress.packed]
  rw [xorMappedValue, List.length_cons, List.length_cons, List.length_append, length_bigEndian,
    List.length_zipWith, List.length_append, length_bigEndian, htid, Nat.min_eq_left hlong]
  omega

theorem isAddress_mapped {data rest tid : Bytes} {offset : ℕ} {reserved : UInt8}
    {address : IPAddress} {port : ℕ} (htid : tid.length = 12)
    (htype : typeAt data offset = stunXorMappedAddress)
    (hlength : lengthAt data offset = (xorMappedValue reserved tid address port).length)
    (hdata : data.drop (offset + 4) = xorMappedValue reserved tid address port ++ rest) :
    IsAddress data offset := by
  rw [length_xorMappedValue htid] at hlength
  have hfamily := familyAt_mapped hdata
  refine ⟨htype, ?_⟩
  cases address with
  | v4 x =>
    rw [IPAddress.packed, length_bigEndian] at hlength
    exact .inl ⟨hfamily, hlength.ge⟩
  | v6 x =>
    rw [IPAddress.packed, length_bigEndian] at hlength
    exact .inr ⟨hfamily, hlength.ge⟩

/-- **Completeness.**  Take any success response whose first `XOR-MAPPED-ADDRESS` tells an address
and a port.  Behind aligned attributes the daemon reads it exactly if it is an IPv4 address or the
transaction id is three times the cookie; behind others, only if what it takes for attributes
there happens to read the same. -/
theorem parseBindingResponse_iff (m : BindingSuccess) {before after : List (Attribute 4)}
    {a : Attribute 4} (hm : m.attributes = before ++ a :: after)
    (hbefore : ∀ b ∈ before, b.type ≠ stunXorMappedAddress) {address : IPAddress} {port : ℕ}
    (ha : IsXorMapped m.tid address port a) (hport : port < 2 ^ 16) :
    parseBindingResponse m.bytes m.tid = .ok (some (addressText address, port)) ↔
      ((∀ b ∈ before, Aligned b) → CookieUnmasks m.tid address) ∧
        ((∃ b ∈ before, ¬ Aligned b) → MisreadAs m.bytes (addressText address, port)) := by
  rw [parseBindingResponse_of_isResponse m.isResponse]
  by_cases haligned : ∀ b ∈ before, Aligned b
  · have hnone : ¬ ∃ b ∈ before, ¬ Aligned b := by
      rintro ⟨b, hb, hnot⟩
      exact hnot (haligned b hb)
    obtain ⟨htype, reserved, hvalue⟩ := ha
    have hsplit := m.bytes_split hm
    have hreach := m.reaches_of_aligned hm hbefore haligned
    have hlength : lengthAt m.bytes (m.header ++ Tlv.bytes before).length = a.value.length := by
      rw [hsplit, lengthAt_bytes]
    have htypeAt : typeAt m.bytes (m.header ++ Tlv.bytes before).length =
        stunXorMappedAddress := by
      rw [hsplit, typeAt_bytes, htype]
    have hdata : m.bytes.drop ((m.header ++ Tlv.bytes before).length + 4) =
        xorMappedValue reserved m.tid address port ++ (a.pad ++ Tlv.bytes after) := by
      rw [hsplit, drop_bytes, hvalue]
    have hroom : (m.header ++ Tlv.bytes before).length + 4 + a.value.length ≤ m.bytes.length := by
      rw [hsplit]
      simp only [List.length_append, a.length_bytes]
      omega
    have hread : parseAttributes m.bytes (declaredEnd m.bytes) stunHeaderSize =
        .ok (some (addressAt m.bytes (m.header ++ Tlv.bytes before).length)) := by
      rw [m.declaredEnd_bytes, parseAttributes_walk hreach, parseAttributes_eq,
        if_pos (by omega), if_pos (complete_of_le (by rw [hlength]; exact hroom)),
        if_pos (isAddress_mapped m.length_tid htypeAt (by rw [hlength, hvalue]) hdata)]
    rw [hread, Except.ok.injEq, Option.some.injEq, addressAt_mapped_iff hdata m.length_tid hport,
      imp_iff_right haligned, and_iff_left fun h => absurd h hnone]
  · rw [parseAttributes_some_iff, and_iff_right fun h => absurd h haligned]
    simp only [not_forall, exists_prop] at haligned
    rw [imp_iff_right haligned]
    rfl

/-- An IPv4 address behind an attribute of four bytes. -/
theorem parseBindingResponse_iff_software :
    let tid : Bytes := List.replicate 12 7
    let software : Attribute 4 :=
      ⟨0x8022, [0x6D, 0x69, 0x64, 0x73], [], by decide, by decide, by decide⟩
    let mapped : Attribute 4 := ⟨stunXorMappedAddress,
      xorMappedValue 0 tid (.v4 ⟨0xCB007105, by decide⟩) 51820, [], by decide, by decide, by decide⟩
    let m : BindingSuccess := ⟨tid, [software, mapped], by decide, by decide⟩
    parseBindingResponse m.bytes m.tid =
        .ok (some (addressText (.v4 ⟨0xCB007105, by decide⟩), 51820)) ↔
      ((∀ b ∈ [software], Aligned b) → CookieUnmasks m.tid (.v4 ⟨0xCB007105, by decide⟩)) ∧
        ((∃ b ∈ [software], ¬ Aligned b) →
          MisreadAs m.bytes (addressText (.v4 ⟨0xCB007105, by decide⟩), 51820)) := by
  intro tid software mapped m
  exact @parseBindingResponse_iff m [software] [] mapped rfl
    (fun b hb => by rw [List.mem_singleton.1 hb]; decide) (.v4 ⟨0xCB007105, by decide⟩) 51820
    ⟨rfl, 0, rfl⟩ (by decide)

/-- The same address behind an attribute of two bytes is missed, and an IPv6 address comes out as
another one. -/
theorem parseBindingResponse_misses :
    let tid : Bytes := List.replicate 12 7
    let software : Attribute 4 := ⟨0x8022, [0x6D, 0x73], [0, 0], by decide, by decide, by decide⟩
    let mapped : Attribute 4 := ⟨stunXorMappedAddress,
      xorMappedValue 0 tid (.v4 ⟨0xCB007105, by decide⟩) 51820, [], by decide, by decide, by decide⟩
    let mapped6 : Attribute 4 := ⟨stunXorMappedAddress,
      xorMappedValue 0 tid (.v6 ⟨0x20010db8 * 2 ^ 96 + 1, by decide⟩) 51820, [], by decide,
      by decide, by decide⟩
    let m : BindingSuccess := ⟨tid, [software, mapped], by decide, by decide⟩
    let m6 : BindingSuccess := ⟨tid, [mapped6], by decide, by decide⟩
    parseBindingResponse m.bytes m.tid = .ok none ∧
      parseBindingResponse m6.bytes m6.tid =
        .ok (some ("2001:db8:2615:a345:2615:a345:2615:a344", 51820)) := by
  intro tid software mapped mapped6 m m6
  constructor
  · rw [parseBindingResponse_of_isResponse m.isResponse, parseAttributes_eq,
      if_pos (by decide), if_pos (by decide), if_neg (by decide), parseAttributes_eq,
      if_pos (by decide), if_pos (by decide), if_neg (by decide), parseAttributes_eq,
      if_neg (by decide)]
  · rw [parseBindingResponse_of_isResponse m6.isResponse, parseAttributes_eq,
      if_pos (by decide), if_pos (by decide), if_pos (by decide)]
    decide +kernel

end Stun

end Midscale
