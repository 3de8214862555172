import Midscale.Dns.Records

/-!
# Reverse names

`_reverse_zone_origin` takes the leading octets of the subnet and `_reverse_record_name` the
trailing ones of the address; where they cut depends on the prefix length alone.

* `reverseText` : the octets of an address in reverse order, with dots.
* `reverse_names` : **a record name and its origin make up the reverse name of the address,** so
  different addresses of a subnet have different record names.
-/

namespace Midscale

namespace Dns

open IPv4Address

/-- The octets of an address in reverse order, with dots between them. -/
def reverseText (x : IPv4Address) : String :=
  octetStr x 3 ++ "." ++ octetStr x 2 ++ "." ++ octetStr x 1 ++ "." ++ octetStr x 0

theorem octet_eq_of_contains {net : IPv4Network} {x : IPv4Address} (hx : net.contains x = true)
    {i : ℕ} (hi : 32 - net.prefixlen.val ≤ 8 * i) : x.octet i = net.networkAddress.octet i := by
  have hpow : 256 ^ i = net.numAddresses * 2 ^ (8 * i - (32 - net.prefixlen.val)) := by
    rw [IPv4Network.numAddresses, ← pow_add, Nat.add_sub_cancel' hi, pow_mul]
    norm_num
  have hprefix := of_decide_eq_true hx
  apply Fin.ext
  simp only [octet, hpow]
  rw [← Nat.div_div_eq_div_mul, hprefix, Nat.div_div_eq_div_mul]

theorem octetStr_eq_of_contains {net : IPv4Network} {x : IPv4Address} (hx : net.contains x = true)
    {k : ℕ} (hk : 32 - net.prefixlen.val ≤ 8 * (3 - k)) :
    octetStr net.networkAddress k = octetStr x k := by
  rw [octetStr, octetStr, octet_eq_of_contains hx hk]

theorem octetText_injective : Function.Injective octetText := fun o o' h => by
  have := congrArg parseOctet h
  rwa [parseOctet_octetText, parseOctet_octetText, Option.some.injEq] at this

theorem reverseText_injective : Function.Injective reverseText := by
  intro x y h
  have hsplit : ∀ z : IPv4Address, (reverseText z).toList.splitOn '.' =
      [octetText (z.octet 0), octetText (z.octet 1), octetText (z.octet 2),
        octetText (z.octet 3)] := by
    intro z
    have htext : (reverseText z).toList = ['.'].intercalate [octetText (z.octet 0),
        octetText (z.octet 1), octetText (z.octet 2), octetText (z.octet 3)] := by
      simp [reverseText, octetStr, List.intercalate]
    rw [htext]
    refine List.splitOn_intercalate '.' ?_ (by simp)
    intro l hl
    simp only [List.mem_cons, List.not_mem_nil, or_false] at hl
    rcases hl with rfl | rfl | rfl | rfl <;> exact (not_mem_octetText _).1
  have hoctets := congrArg (fun s => s.toList.splitOn '.') h
  simp only [hsplit, List.cons.injEq, octetText_injective.eq_iff, and_true] at hoctets
  obtain ⟨h0, h1, h2, h3⟩ := hoctets
  rw [← ofOctets_octet x, ← ofOctets_octet y, h0, h1, h2, h3]

theorem recordName_append_origin {subnet ip : String} {net : IPv4Network} {x : IPv4Address}
    (hnet : IPv4Network.parse subnet = some net) (h8 : 8 ≤ net.prefixlen.val)
    (hip : IPv4Address.parse ip = some x) (hx : net.contains x = true) :
    ∃ name origin, reverseRecordName ip net = .ok name ∧ reverseZoneOrigin subnet = some origin ∧
      name ++ "." ++ origin = reverseText x ++ ".in-addr.arpa" := by
  simp only [reverseRecordName, reverseZoneOrigin, hnet, hip, Option.bind_some,
    if_neg (Nat.not_lt.2 h8)]
  have h0 := @octetStr_eq_of_contains net x hx 0 (by omega)
  by_cases h24 : 24 ≤ net.prefixlen.val
  · have h1 := @octetStr_eq_of_contains net x hx 1 (by omega)
    have h2 := @octetStr_eq_of_contains net x hx 2 (by omega)
    simp only [if_pos h24, h0, h1, h2]
    refine ⟨_, _, rfl, rfl, ?_⟩
    simp only [reverseText, String.append_assoc]
  · by_cases h16 : 16 ≤ net.prefixlen.val
    · have h1 := @octetStr_eq_of_contains net x hx 1 (by omega)
      simp only [if_neg h24, if_pos h16, h0, h1]
      refine ⟨_, _, rfl, rfl, ?_⟩
      simp only [reverseText, String.append_assoc]
    · simp only [if_neg h24, if_neg h16, if_pos h8, h0]
      refine ⟨_, _, rfl, rfl, ?_⟩
      simp only [reverseText, String.append_assoc]

/-- **Reverse names.**  For an address inside a subnet with a reverse zone, the name of its record
and the origin of the zone make up its reverse name, and no other address of the subnet has that
record name. -/
theorem reverse_names {subnet ip : String} {net : IPv4Network} {x : IPv4Address}
    (hnet : IPv4Network.parse subnet = some net) (h8 : 8 ≤ net.prefixlen.val)
    (hip : IPv4Address.parse ip = some x) (hx : net.contains x = true) :
    ∃ name origin, reverseRecordName ip net = .ok name ∧ reverseZoneOrigin subnet = some origin ∧
      name ++ "." ++ origin = reverseText x ++ ".in-addr.arpa" ∧
      ∀ ip' x', IPv4Address.parse ip' = some x' → net.contains x' = true →
        reverseRecordName ip' net = .ok name → x' = x := by
  obtain ⟨name, origin, hname, horigin, htext⟩ := recordName_append_origin hnet h8 hip hx
  refine ⟨name, origin, hname, horigin, htext, fun ip' x' hip' hx' hname' => ?_⟩
  obtain ⟨name', origin', hname'', horigin', htext'⟩ :=
    recordName_append_origin hnet h8 hip' hx'
  rw [hname'] at hname''
  rw [horigin] at horigin'
  cases hname''
  cases horigin'
  rw [htext] at htext'
  exact reverseText_injective ((String.append_left_inj _).1 htext').symm

/-- An address of a subnet whose written address has host bits and whose prefix ends inside an
octet. -/
theorem reverse_names_host_bits :
    let net := IPv4Network.ofAddress ⟨0x0A01D7FF, by decide⟩ 20
    ∃ name origin, reverseRecordName "10.1.215.4" net = .ok name ∧
      reverseZoneOrigin "10.1.215.255/20" = some origin ∧
      name ++ "." ++ origin = reverseText ⟨0x0A01D704, by decide⟩ ++ ".in-addr.arpa" ∧
      ∀ ip' x', IPv4Address.parse ip' = some x' → net.contains x' = true →
        reverseRecordName ip' net = .ok name → x' = ⟨0x0A01D704, by decide⟩ :=
  reverse_names (by decide +kernel) (by decide) (by decide +kernel) (by decide)

end Dns

end Midscale
