import Midscale.Data.Tlv
import Midscale.Stun.Binding

/-!
# The walk over the attributes of a response

`_parse_binding_response` goes from attribute to attribute by the declared lengths, rounded up to
two bytes, until it meets an address or the declared end of the message.

* `Complete` : a datagram holds all that the daemon reads of the attribute at an offset.
* `IsAddress`, `addressAt` : the attributes that end the walk, and what the daemon reads there.
* `Passes`, `Reaches` : the walk.
* `parseAttributes_walk`, `exists_walk_end` : it keeps the result, and it ends.
* `IsResponse`, `parseBindingResponse_eq` : the checks before the walk.
-/

namespace Midscale

open Struct Tlv

namespace Stun

/-! ### What stands at an offset -/

/-- The address family of the `XOR-MAPPED-ADDRESS` at an offset. -/
def familyAt (data : Bytes) (offset : ℕ) : ℕ := ofBigEndian ((data.drop (offset + 5)).take 1)

/-- The port of the `XOR-MAPPED-ADDRESS` at an offset, unmasked. -/
def portAt (data : Bytes) (offset : ℕ) : ℕ :=
  ofBigEndian ((data.drop (offset + 6)).take 2) ^^^ (stunMagicCookie >>> 16)

/-- The cookie, as often as the longest address has words. -/
def cookieMask : Bytes := (List.replicate 4 (bigEndian 4 stunMagicCookie)).flatten

/-- An attribute that the daemon takes an address from. -/
def IsAddress (data : Bytes) (offset : ℕ) : Prop :=
  typeAt data offset = stunXorMappedAddress ∧
    (familyAt data offset = 0x01 ∧ 8 ≤ lengthAt data offset ∨
      familyAt data offset = 0x02 ∧ 20 ≤ lengthAt data offset)

instance (data : Bytes) (offset : ℕ) : Decidable (IsAddress data offset) :=
  inferInstanceAs (Decidable (_ ∧ _))

/-- How many bytes of the attribute at an offset the daemon reads. -/
def needed (data : Bytes) (offset : ℕ) : ℕ :=
  if typeAt data offset = stunXorMappedAddress ∧ 8 ≤ lengthAt data offset then
    if familyAt data offset = 0x01 then 12
    else if familyAt data offset = 0x02 ∧ 20 ≤ lengthAt data offset then 24
    else 8
  else 4

/-- The datagram holds all that the daemon reads of the attribute at an offset. -/
def Complete (data : Bytes) (offset : ℕ) : Prop := offset + needed data offset ≤ data.length

instance (data : Bytes) (offset : ℕ) : Decidable (Complete data offset) :=
  inferInstanceAs (Decidable (_ ≤ _))

/-- What the daemon reads at an attribute with an address: every word is unmasked with the
cookie. -/
def addressAt (data : Bytes) (offset : ℕ) : String × ℕ :=
  if familyAt data offset = 0x01 then
    (IPv4Address.inetNtoa (List.zipWith (· ^^^ ·) ((data.drop (offset + 8)).take 4) cookieMask),
      portAt data offset)
  else
    (IPv6Address.inetNtop (List.zipWith (· ^^^ ·) ((data.drop (offset + 8)).take 16) cookieMask),
      portAt data offset)

theorem four_le_needed (data : Bytes) (offset : ℕ) : 4 ≤ needed data offset := by
  rw [needed]
  split_ifs <;> omega

/-! ### One attribute -/

theorem unpacked_of_le {widths : List ℕ} {data : Bytes} {offset : ℕ}
    (h : offset + widths.sum ≤ data.length) :
    unpacked widths data offset = .ok (fieldsOf widths (data.drop offset)) := by
  rw [unpacked, unpackFrom, if_pos h]

theorem unpacked_of_lt {widths : List ℕ} {data : Bytes} {offset : ℕ}
    (h : data.length < offset + widths.sum) : unpacked widths data offset = .error .error := by
  rw [unpacked, unpackFrom, if_neg (Nat.not_le.2 h)]

theorem packed_words {n : ℕ} {data : Bytes} {offset : ℕ} (hn : n ≤ 4)
    (h : offset + n * 4 ≤ data.length) :
    packed ((fieldsOf (List.replicate n 4) (data.drop offset)).map
      fun w => (4, w ^^^ stunMagicCookie)) =
      .ok (List.zipWith (· ^^^ ·) ((data.drop offset).take (n * 4)) cookieMask) := by
  have hlen : ((data.drop offset).take (n * 4)).length = n * 4 := by
    rw [List.length_take, List.length_drop]
    omega
  have hmask : cookieMask = (List.replicate n (bigEndian 4 stunMagicCookie)).flatten ++
      (List.replicate (4 - n) (bigEndian 4 stunMagicCookie)).flatten := by
    rw [← List.flatten_append, List.replicate_append_replicate, cookieMask]
    congr 2
    omega
  have hzip := @List.zipWith_append _ _ _ (· ^^^ ·) ((data.drop offset).take (n * 4)) []
    (List.replicate n (bigEndian 4 stunMagicCookie)).flatten
    (List.replicate (4 - n) (bigEndian 4 stunMagicCookie)).flatten (by simp [hlen])
  rw [List.append_nil, ← hmask, List.zipWith_nil_left, List.append_nil] at hzip
  have hfields := @fieldsOf_take (List.replicate n 4) (n * 4) (by simp) (data.drop offset)
  rw [← hfields, packed, pack_map_xor (by decide) hlen, hzip]

theorem complete_iff {data : Bytes} {offset k : ℕ} (h : needed data offset = k) :
    Complete data offset ↔ offset + k ≤ data.length := by
  rw [Complete, h]

section mapped

variable {data : Bytes} {offset : ℕ}
  (hmapped : typeAt data offset = stunXorMappedAddress ∧ 8 ≤ lengthAt data offset)

include hmapped

theorem readAddress_of_mapped (h : offset + 8 ≤ data.length) :
    readAddress data (typeAt data offset) (lengthAt data offset) (offset + 4) =
      if familyAt data offset = 0x01 ∧ 8 ≤ lengthAt data offset then do
        let words ← unpacked [4] data (offset + 8)
        let ip ← packed (words.map fun w => (4, w ^^^ stunMagicCookie))
        return some (IPv4Address.inetNtoa ip, portAt data offset)
      else if familyAt data offset = 0x02 ∧ 20 ≤ lengthAt data offset then do
        let words ← unpacked [4, 4, 4, 4] data (offset + 8)
        let ip ← packed (words.map fun w => (4, w ^^^ stunMagicCookie))
        return some (IPv6Address.inetNtop ip, portAt data offset)
      else return none := by
  have hfields := @unpacked_of_le [1, 1, 2] data (offset + 4) (by simpa using h)
  rw [readAddress, if_pos hmapped, hfields]
  simp only [bind, Except.bind, fieldsOf, List.drop_drop, familyAt, portAt]
  rfl

theorem readAddress_of_short (h : data.length < offset + 8) :
    readAddress data (typeAt data offset) (lengthAt data offset) (offset + 4) =
      .error .error := by
  rw [readAddress, if_pos hmapped, unpacked_of_lt (by simpa using h)]
  rfl

theorem readAddress_v4 (hfamily : familyAt data offset = 0x01) (h : offset + 8 ≤ data.length) :
    readAddress data (typeAt data offset) (lengthAt data offset) (offset + 4) =
      if offset + 12 ≤ data.length then .ok (some (addressAt data offset))
      else .error .error := by
  rw [readAddress_of_mapped hmapped h, if_pos ⟨hfamily, hmapped.2⟩]
  by_cases hall : offset + 12 ≤ data.length
  · have hwords := @packed_words 1 data (offset + 8) (by omega) (by omega)
    simp only [List.replicate] at hwords
    rw [if_pos hall, unpacked_of_le (by simpa using hall)]
    simp only [bind, Except.bind, hwords, addressAt, if_pos hfamily, pure, Except.pure]
  · rw [if_neg hall, unpacked_of_lt (by simpa using hall)]
    rfl

theorem readAddress_v6 (hfamily : familyAt data offset = 0x02)
    (hlength : 20 ≤ lengthAt data offset) (h : offset + 8 ≤ data.length) :
    readAddress data (typeAt data offset) (lengthAt data offset) (offset + 4) =
      if offset + 24 ≤ data.length then .ok (some (addressAt data offset))
      else .error .error := by
  have hnot4 : familyAt data offset ≠ 0x01 := by rw [hfamily]; decide
  rw [readAddress_of_mapped hmapped h, if_neg fun h4 => hnot4 h4.1, if_pos ⟨hfamily, hlength⟩]
  by_cases hall : offset + 24 ≤ data.length
  · have hwords := @packed_words 4 data (offset + 8) (by omega) (by omega)
    simp only [List.replicate] at hwords
    rw [if_pos hall, unpacked_of_le (by simpa using hall)]
    simp only [bind, Except.bind, hwords, addressAt, if_neg hnot4, pure, Except.pure]
  · rw [if_neg hall, unpacked_of_lt (by simpa using hall)]
    rfl

end mapped

/-- What the daemon makes of one attribute whose type and length are there. -/
theorem readAddress_eq {data : Bytes} {offset : ℕ} (h : offset + 4 ≤ data.length) :
    readAddress data (typeAt data offset) (lengthAt data offset) (offset + 4) =
      if Complete data offset then
        .ok (if IsAddress data offset then some (addressAt data offset) else none)
      else .error .error := by
  by_cases hmapped : typeAt data offset = stunXorMappedAddress ∧ 8 ≤ lengthAt data offset
  · by_cases hhead : offset + 8 ≤ data.length
    · by_cases hv4 : familyAt data offset = 0x01
      · have hneeded : needed data offset = 12 := by rw [needed, if_pos hmapped, if_pos hv4]
        have haddr : IsAddress data offset := ⟨hmapped.1, .inl ⟨hv4, hmapped.2⟩⟩
        simp only [readAddress_v4 hmapped hv4 hhead, complete_iff hneeded, if_pos haddr]
      · by_cases hv6 : familyAt data offset = 0x02 ∧ 20 ≤ lengthAt data offset
        · have hneeded : needed data offset = 24 := by
            rw [needed, if_pos hmapped, if_neg hv4, if_pos hv6]
          have haddr : IsAddress data offset := ⟨hmapped.1, .inr hv6⟩
          simp only [readAddress_v6 hmapped hv6.1 hv6.2 hhead, complete_iff hneeded,
            if_pos haddr]
        · have hneeded : needed data offset = 8 := by
            rw [needed, if_pos hmapped, if_neg hv4, if_neg hv6]
          have haddr : ¬ IsAddress data offset := by
            rintro ⟨-, hfour | hsix⟩
            · exact hv4 hfour.1
            · exact hv6 hsix
          rw [readAddress_of_mapped hmapped hhead, if_neg fun h4 => hv4 h4.1, if_neg hv6,
            if_pos ((complete_iff hneeded).2 hhead), if_neg haddr]
          rfl
    · have hneeded : 8 ≤ needed data offset := by
        rw [needed, if_pos hmapped]
        split_ifs <;> omega
      have hcut : ¬ Complete data offset := fun hc => by
        rw [Complete] at hc
        omega
      rw [readAddress_of_short hmapped (by omega), if_neg hcut]
  · have hneeded : needed data offset = 4 := by rw [needed, if_neg hmapped]
    have haddr : ¬ IsAddress data offset := by
      rintro ⟨htype, hfour | hsix⟩
      · exact hmapped ⟨htype, hfour.2⟩
      · exact hmapped ⟨htype, by omega⟩
    rw [readAddress, if_neg hmapped, if_pos ((complete_iff hneeded).2 h), if_neg haddr]
    rfl

/-! ### The walk -/

/-- The step from one attribute to the one after it: there is room for it before the end of the
message, it holds no address, and its length is rounded up to two bytes. -/
structure Passes (data : Bytes) (stop offset offset' : ℕ) : Prop where
  room : offset + 4 ≤ stop
  complete : Complete data offset
  noAddress : ¬ IsAddress data offset
  next : offset' = next 2 data offset

/-- The attributes that the daemon comes to, from the end of the header on. -/
def Reaches (data : Bytes) (stop : ℕ) : ℕ → Prop :=
  Relation.ReflTransGen (Passes data stop) stunHeaderSize

theorem next_two (data : Bytes) (offset : ℕ) :
    offset + (4 + lengthAt data offset) + (if lengthAt data offset % 2 = 1 then 1 else 0) =
      next 2 data offset := by
  rw [next, padding]
  split <;> omega

theorem parseAttributes_eq (data : Bytes) (stop offset : ℕ) :
    parseAttributes data stop offset =
      if offset + 4 ≤ stop then
        if Complete data offset then
          if IsAddress data offset then .ok (some (addressAt data offset))
          else parseAttributes data stop (next 2 data offset)
        else .error .error
      else .ok none := by
  rw [parseAttributes]
  by_cases hroom : offset + 4 ≤ stop
  · rw [if_pos hroom, if_pos hroom]
    by_cases hhead : offset + 4 ≤ data.length
    · have htype : (fieldsOf [2, 2] (data.drop offset)).getD 0 0 = typeAt data offset := rfl
      have hlength : (fieldsOf [2, 2] (data.drop offset)).getD 1 0 = lengthAt data offset := by
        simp only [fieldsOf, List.drop_drop, lengthAt]
        rfl
      rw [unpacked_of_le (by simpa using hhead)]
      simp only [htype, hlength, readAddress_eq hhead, next_two]
      by_cases hc : Complete data offset
      · by_cases ha : IsAddress data offset
        · rw [if_pos hc, if_pos hc, if_pos ha, if_pos ha]
        · rw [if_pos hc, if_pos hc, if_neg ha, if_neg ha]
      · rw [if_neg hc, if_neg hc]
    · have hcut : ¬ Complete data offset := fun hc => by
        have := four_le_needed data offset
        rw [Complete] at hc
        omega
      rw [unpacked_of_lt (by simpa using hhead), if_neg hcut]
  · rw [if_neg hroom, if_neg hroom]

theorem parseAttributes_passes {data : Bytes} {stop offset offset' : ℕ}
    (h : Passes data stop offset offset') :
    parseAttributes data stop offset = parseAttributes data stop offset' := by
  rw [parseAttributes_eq, if_pos h.room, if_pos h.complete, if_neg h.noAddress, h.next]

theorem parseAttributes_walk {data : Bytes} {stop offset offset' : ℕ}
    (h : Relation.ReflTransGen (Passes data stop) offset offset') :
    parseAttributes data stop offset = parseAttributes data stop offset' := by
  induction h with
  | refl => rfl
  | tail _ hstep ih => rw [ih, parseAttributes_passes hstep]

/-- The walk ends at the end of the message, at an attribute that is cut off or at an address. -/
theorem exists_walk_end (data : Bytes) (stop offset : ℕ) :
    ∃ last, Relation.ReflTransGen (Passes data stop) offset last ∧
      (last + 4 ≤ stop → Complete data last → IsAddress data last) := by
  induction hgap : stop - offset using Nat.strong_induction_on generalizing offset with
  | _ gap ih =>
    by_cases hend : offset + 4 ≤ stop → Complete data offset → IsAddress data offset
    · exact ⟨offset, .refl, hend⟩
    · obtain ⟨hroom, hc, ha⟩ : offset + 4 ≤ stop ∧ Complete data offset ∧
          ¬ IsAddress data offset := by
        simpa only [Classical.not_imp] using hend
      have hlt := lt_next 2 data offset
      obtain ⟨last, hwalk, hlast⟩ := ih (stop - next 2 data offset) (by omega) _ rfl
      exact ⟨last, .head ⟨hroom, hc, ha, rfl⟩ hwalk, hlast⟩

theorem parseAttributes_some_iff (data : Bytes) (stop : ℕ) (found : String × ℕ) :
    parseAttributes data stop stunHeaderSize = .ok (some found) ↔
      ∃ offset, Reaches data stop offset ∧ offset + 4 ≤ stop ∧ Complete data offset ∧
        IsAddress data offset ∧ addressAt data offset = found := by
  constructor
  · intro hparse
    obtain ⟨last, hwalk, hlast⟩ := exists_walk_end data stop stunHeaderSize
    rw [parseAttributes_walk hwalk, parseAttributes_eq] at hparse
    by_cases hroom : last + 4 ≤ stop
    · by_cases hc : Complete data last
      · have ha := hlast hroom hc
        rw [if_pos hroom, if_pos hc, if_pos ha] at hparse
        exact ⟨last, hwalk, hroom, hc, ha, Option.some.inj (Except.ok.inj hparse)⟩
      · rw [if_pos hroom, if_neg hc] at hparse
        cases hparse
    · rw [if_neg hroom] at hparse
      cases hparse
  · rintro ⟨offset, hreach, hroom, hc, ha, rfl⟩
    rw [parseAttributes_walk hreach, parseAttributes_eq, if_pos hroom, if_pos hc, if_pos ha]

theorem complete_of_le {data : Bytes} {offset : ℕ}
    (h : offset + 4 + lengthAt data offset ≤ data.length) : Complete data offset := by
  rw [Complete, needed]
  split_ifs with hmapped _ hv6
  · obtain ⟨-, hlength⟩ := hmapped
    omega
  · obtain ⟨-, hlength⟩ := hv6
    omega
  · obtain ⟨-, hlength⟩ := hmapped
    omega
  · omega

/-! ### The header -/

/-- The header of a response to the request with a transaction id. -/
structure IsResponse (data expectedTid : Bytes) : Prop where
  header : stunHeaderSize ≤ data.length
  type : typeAt data 0 = stunBindingResponse
  cookie : ofBigEndian ((data.drop 4).take 4) = stunMagicCookie
  tid : transactionId data = expectedTid

/-- Where the message ends by its own account. -/
def declaredEnd (data : Bytes) : ℕ := stunHeaderSize + lengthAt data 0

theorem parseBindingResponse_of_isResponse {data expectedTid : Bytes}
    (h : IsResponse data expectedTid) : parseBindingResponse data expectedTid =
      parseAttributes data (declaredEnd data) stunHeaderSize := by
  have hheader : 0 + [2, 2, 4].sum ≤ data.length := le_trans (by decide) h.header
  have htid := length_transactionId h.header
  have hslice : data.slice 8 20 = expectedTid := h.tid
  have htype : ofBigEndian (data.take 2) = stunBindingResponse := h.type
  rw [h.tid] at htid
  rw [parseBindingResponse, if_neg (Nat.not_lt.2 h.header), unpackFrom, if_pos hheader]
  simp only [fieldsOf, List.drop_zero, List.drop_drop]
  rw [if_neg (not_not_intro h.cookie), if_neg (not_not_intro htype),
    if_neg (by rw [hslice]; simp [htid])]
  rfl

theorem parseBindingResponse_of_not {data expectedTid : Bytes}
    (h : ¬ IsResponse data expectedTid) : parseBindingResponse data expectedTid = .ok none := by
  by_cases hlen : stunHeaderSize ≤ data.length
  · have hheader : 0 + [2, 2, 4].sum ≤ data.length := le_trans (by decide) hlen
    rw [parseBindingResponse, if_neg (Nat.not_lt.2 hlen), unpackFrom, if_pos hheader]
    simp only [fieldsOf, List.drop_zero, List.drop_drop]
    split
    · rfl
    · rename_i hcookie
      split
      · rfl
      · rename_i htype
        refine if_pos (.inl fun htid => h ?_)
        exact ⟨hlen, not_not.1 htype, not_not.1 hcookie, htid⟩
  · rw [parseBindingResponse, if_pos (Nat.not_le.1 hlen)]

end Stun

end Midscale
