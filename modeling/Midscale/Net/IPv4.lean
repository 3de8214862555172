import Mathlib.Data.List.Basic
import Mathlib.Data.Fin.Basic
import Mathlib.Tactic.Ring
import Midscale.Data.Text

/-!
# IPv4 addresses and networks

The part of Python's `ipaddress` module that the control plane uses: addresses with their
dotted-quad text, networks given by a network address and a prefix length, membership, and the
list of host addresses of a network.

* `IPv4Address.str`, `IPv4Address.parse` : text and back (`IPv4Address.parse_str`).
* `IPv4Network` carries the proof that the host bits of its network address are zero, so every
  value is what `IPv4Network(text, strict=False)` can return.
* `IPv4Network.contains_iff` : the members as a range of integers.
* `IPv4Network.parse_host` : the text `a/32` denotes the network of the single address `a`.
-/

namespace Midscale

/-- An IPv4 address, as the 32-bit integer it stands for. -/
abbrev IPv4Address := Fin (2 ^ 32)

namespace IPv4Address

/-- The decimal digits of a text, as a number; `none` when it is empty or has another
character. -/
def parseDigits (cs : List Char) : Option ℕ :=
  if cs ≠ [] ∧ cs.all Char.isDigit then
    some (cs.foldl (fun n c => n * 10 + (c.toNat - '0'.toNat)) 0)
  else none

/-- One decimal number of a dotted quad: at most three digits, no leading zero, at most 255. -/
def parseOctet (cs : List Char) : Option (Fin 256) :=
  if 3 < cs.length ∨ (cs ≠ ['0'] ∧ cs.head? = some '0') then none
  else (parseDigits cs).bind fun n => if h : n < 256 then some ⟨n, h⟩ else none

/-- The decimal text of an octet. -/
def octetText (o : Fin 256) : List Char := Nat.toDigits 10 o

/-- The address of four octets, the most significant first. -/
def ofOctets (a b c d : Fin 256) : IPv4Address :=
  ⟨((a * 256 + b) * 256 + c) * 256 + d, by omega⟩

/-- Octet `i` of an address, counted from the least significant one. -/
def octet (x : IPv4Address) (i : ℕ) : Fin 256 :=
  ⟨x.val / 256 ^ i % 256, Nat.mod_lt _ (by decide)⟩

/-- The characters of the dotted quad of an address. -/
def chars (x : IPv4Address) : List Char :=
  ['.'].intercalate [octetText (octet x 3), octetText (octet x 2), octetText (octet x 1),
    octetText (octet x 0)]

/-- `str(address)`. -/
def str (x : IPv4Address) : String := String.ofList (chars x)

/-- The address a list of characters denotes. -/
def parseChars (cs : List Char) : Option IPv4Address :=
  match (cs.splitOn '.').map parseOctet with
  | [some a, some b, some c, some d] => some (ofOctets a b c d)
  | _ => none

/-- `IPv4Address(text)`, `none` when it raises. -/
def parse (s : String) : Option IPv4Address := parseChars s.toList

theorem parseOctet_octetText : ∀ o : Fin 256, parseOctet (octetText o) = some o := by
  decide +kernel

theorem not_mem_octetText : ∀ o : Fin 256, '.' ∉ octetText o ∧ '/' ∉ octetText o := by
  decide +kernel

theorem ofOctets_octet (x : IPv4Address) :
    ofOctets (octet x 3) (octet x 2) (octet x 1) (octet x 0) = x := by
  apply Fin.ext
  have := x.isLt
  simp only [ofOctets, octet]
  omega

theorem parseChars_chars (x : IPv4Address) : parseChars (chars x) = some x := by
  have hsplit : (chars x).splitOn '.' = [octetText (octet x 3), octetText (octet x 2),
      octetText (octet x 1), octetText (octet x 0)] := by
    refine List.splitOn_intercalate '.' ?_ (by simp)
    intro l hl
    simp only [List.mem_cons, List.not_mem_nil, or_false] at hl
    rcases hl with rfl | rfl | rfl | rfl <;> exact (not_mem_octetText _).1
  simp only [parseChars, hsplit, List.map_cons, List.map_nil, parseOctet_octetText,
    ofOctets_octet]

/-- The text of an address denotes it. -/
@[simp] theorem parse_str (x : IPv4Address) : parse (str x) = some x := by
  rw [parse, str, String.toList_ofList, parseChars_chars]

theorem str_injective : Function.Injective str := fun x y h => by
  have := congrArg parse h
  rwa [parse_str, parse_str, Option.some.injEq] at this

@[simp] theorem str_inj {x y : IPv4Address} : str x = str y ↔ x = y := str_injective.eq_iff

theorem slash_not_mem_chars (x : IPv4Address) : '/' ∉ chars x := by
  have ho := fun i => (not_mem_octetText (octet x i)).2
  simp [chars, List.intercalate, ho]

end IPv4Address

/-- An IPv4 network: an address whose host bits are zero, and a prefix length. -/
structure IPv4Network where
  /-- The first address of the network. -/
  networkAddress : IPv4Address
  /-- The number of leading bits that the members share. -/
  prefixlen : Fin 33
  /-- The host bits of the network address are zero. -/
  host_bits : networkAddress.val % 2 ^ (32 - prefixlen.val) = 0
  deriving DecidableEq, Repr

namespace IPv4Network

/-- The number of addresses of the network. -/
def numAddresses (net : IPv4Network) : ℕ := 2 ^ (32 - net.prefixlen.val)

/-- The network of prefix length `n` that contains `x`: the host bits of `x` are masked. -/
def ofAddress (x : IPv4Address) (n : Fin 33) : IPv4Network where
  networkAddress := ⟨x.val / 2 ^ (32 - n.val) * 2 ^ (32 - n.val),
    lt_of_le_of_lt (Nat.div_mul_le_self _ _) x.isLt⟩
  prefixlen := n
  host_bits := Nat.mul_mod_left _ _

/-- `x in net`. -/
def contains (net : IPv4Network) (x : IPv4Address) : Bool :=
  decide (x.val / net.numAddresses = net.networkAddress.val / net.numAddresses)

/-- `net.hosts()`: all addresses but the first and the last one, and every address of a network
with prefix length 31 or 32. -/
def hosts (net : IPv4Network) : List IPv4Address :=
  (if net.prefixlen.val ≤ 30 then
    List.range' (net.networkAddress.val + 1) (net.numAddresses - 2)
  else List.range' net.networkAddress.val net.numAddresses).map (Fin.ofNat (2 ^ 32))

/-- The integer of the netmask of prefix length `n`. -/
def netmask (n : ℕ) : ℕ := 2 ^ 32 - 2 ^ (32 - n)

/-- The prefix length a text after the slash denotes: a decimal number, a netmask or a
hostmask. -/
def parseMask (cs : List Char) : Option (Fin 33) :=
  match (IPv4Address.parseDigits cs).bind fun n => if h : n < 33 then some ⟨n, h⟩ else none with
  | some n => some n
  | none => (IPv4Address.parseChars cs).bind fun m =>
    ((List.finRange 33).find? fun n : Fin 33 => netmask n = m.val) <|>
      (List.finRange 33).find? fun n : Fin 33 => netmask n = 2 ^ 32 - 1 - m.val

/-- `IPv4Network(text, strict=False)`, `none` when it raises `ValueError`. -/
def parse (s : String) : Option IPv4Network :=
  match s.toList.splitOn '/' with
  | [a] => (IPv4Address.parseChars a).map (ofAddress · 32)
  | [a, m] => (IPv4Address.parseChars a).bind fun x => (parseMask m).map (ofAddress x)
  | _ => none

/-! ### Members and hosts -/

theorem numAddresses_pos (net : IPv4Network) : 0 < net.numAddresses := Nat.two_pow_pos _

theorem networkAddress_add_le (net : IPv4Network) :
    net.networkAddress.val + net.numAddresses ≤ 2 ^ 32 := by
  have hd : net.numAddresses ∣ 2 ^ 32 := pow_dvd_pow _ (by omega)
  obtain ⟨k, hk⟩ := Nat.dvd_of_mod_eq_zero net.host_bits
  obtain ⟨m, hm⟩ := hd
  have hlt := net.networkAddress.isLt
  change net.networkAddress.val = net.numAddresses * k at hk
  rw [hk, hm] at hlt
  have hkm : k + 1 ≤ m := Nat.lt_of_mul_lt_mul_left hlt
  calc net.networkAddress.val + net.numAddresses = net.numAddresses * (k + 1) := by rw [hk]; ring
    _ ≤ net.numAddresses * m := Nat.mul_le_mul_left _ hkm
    _ = 2 ^ 32 := hm.symm

/-- The members of a network are a range of integers. -/
theorem contains_iff {net : IPv4Network} {x : IPv4Address} :
    net.contains x = true ↔ net.networkAddress.val ≤ x.val ∧
      x.val < net.networkAddress.val + net.numAddresses := by
  have hpos := net.numAddresses_pos
  obtain ⟨k, hk⟩ : net.numAddresses ∣ net.networkAddress.val :=
    Nat.dvd_of_mod_eq_zero net.host_bits
  rw [contains, decide_eq_true_eq, hk, Nat.mul_div_cancel_left _ hpos,
    Nat.div_eq_iff hpos]
  constructor
  · rintro ⟨h1, h2⟩
    have : k * net.numAddresses = net.numAddresses * k := Nat.mul_comm _ _
    omega
  · rintro ⟨h1, h2⟩
    have : k * net.numAddresses = net.numAddresses * k := Nat.mul_comm _ _
    omega

theorem pairwise_hosts (net : IPv4Network) : net.hosts.Pairwise (· < ·) := by
  have hle := net.networkAddress_add_le
  have hrange : ∀ s n, s + n ≤ 2 ^ 32 →
      ((List.range' s n).map (Fin.ofNat (2 ^ 32))).Pairwise (· < ·) := by
    intro s n hn
    rw [List.pairwise_map]
    refine List.Pairwise.imp_of_mem ?_ (List.pairwise_lt_range' (s := s) (n := n))
    intro a b ha hb hab
    rw [List.mem_range'_1] at ha hb
    rw [Fin.lt_def, Fin.val_ofNat, Fin.val_ofNat, Nat.mod_eq_of_lt (by omega),
      Nat.mod_eq_of_lt (by omega)]
    exact hab
  rw [hosts]
  split_ifs
  · exact hrange _ _ (by omega)
  · exact hrange _ _ hle

/-! ### Single addresses and the default route -/

/-- The network of the single address `x`. -/
def host (x : IPv4Address) : IPv4Network := ofAddress x 32

@[simp] theorem prefixlen_host (x : IPv4Address) : (host x).prefixlen = 32 := rfl

theorem contains_host {x y : IPv4Address} : (host x).contains y = true ↔ y = x := by
  simp [contains, host, ofAddress, numAddresses, Fin.ext_iff]

theorem eq_of_contains {net : IPv4Network} (hp : net.prefixlen.val = 32) {x y : IPv4Address}
    (hx : net.contains x = true) (hy : net.contains y = true) : x = y := by
  have hn : net.numAddresses = 1 := by simp [numAddresses, hp]
  rw [contains_iff, hn] at hx hy
  exact Fin.ext (by omega)

theorem contains_of_prefixlen_zero {net : IPv4Network} (hp : net.prefixlen.val = 0)
    (x : IPv4Address) : net.contains x = true := by
  have hn : net.numAddresses = 2 ^ 32 := by simp [numAddresses, hp]
  have := net.networkAddress_add_le
  have := x.isLt
  rw [contains_iff]
  omega

theorem parse_append_slash (x : IPv4Address) {m : List Char} (hm : '/' ∉ m) :
    parse (x.str ++ String.ofList ('/' :: m)) = (parseMask m).map (ofAddress x) := by
  have hsplit : (x.chars ++ '/' :: m).splitOn '/' = [x.chars, m] := by
    have : x.chars ++ '/' :: m = ['/'].intercalate [x.chars, m] := by
      simp [List.intercalate]
    rw [this]
    refine List.splitOn_intercalate '/' ?_ (by simp)
    simp only [List.mem_cons, List.not_mem_nil, or_false, forall_eq_or_imp, forall_eq]
    exact ⟨x.slash_not_mem_chars, hm⟩
  rw [parse, String.toList_append, IPv4Address.str, String.toList_ofList, String.toList_ofList,
    hsplit]
  simp only [IPv4Address.parseChars_chars, Option.bind_some]

/-- The text `x/32` denotes the network of the single address `x`. -/
theorem parse_host (x : IPv4Address) : parse (x.str ++ "/32") = some (host x) := by
  have hm : parseMask "32".toList = some 32 := by decide
  have := parse_append_slash x (m := "32".toList) (by decide)
  rw [hm] at this
  exact this

end IPv4Network

/-- An address is made of digits and dots. -/
theorem chars_of_address {s : String} {x : IPv4Address} (h : IPv4Address.parse s = some x) :
    s ≠ "" ∧ ∀ c ∈ s.toList, c.isDigit = true ∨ c = '.' := by
  constructor
  · rintro rfl
    have hempty : IPv4Address.parse "" = none := by decide
    rw [hempty] at h
    cases h
  intro c hc
  by_cases hdot : c = '.'
  · exact .inr hdot
  have hflat : c ∈ (s.toList.splitOn '.').flatten := by
    rw [flatten_splitOn]
    exact List.mem_filter.2 ⟨hc, by simpa using hdot⟩
  obtain ⟨g, hg, hcg⟩ := List.mem_flatten.1 hflat
  have hoctet : ∃ o, IPv4Address.parseOctet g = some o := by
    rw [IPv4Address.parse, IPv4Address.parseChars] at h
    split at h
    · rename_i a b d e hsplit
      have hmem : IPv4Address.parseOctet g ∈ [some a, some b, some d, some e] :=
        hsplit ▸ List.mem_map_of_mem hg
      simp only [List.mem_cons, List.not_mem_nil, or_false] at hmem
      rcases hmem with h | h | h | h <;> exact ⟨_, h⟩
    · cases h
  obtain ⟨o, ho⟩ := hoctet
  rw [IPv4Address.parseOctet] at ho
  split_ifs at ho
  obtain ⟨n, hn, -⟩ := Option.bind_eq_some_iff.1 ho
  rw [IPv4Address.parseDigits] at hn
  split_ifs at hn with hdigits
  exact .inl (List.all_eq_true.1 hdigits.2 c hcg)

end Midscale
