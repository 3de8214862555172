import Midscale.Data.Struct
import Midscale.Net.IPv4

/-!
# IPv6 addresses as texts and as bytes

What the STUN code asks of Python's `ipaddress` and `socket` modules: `ipaddress.ip_address(text)`
with the packed form of either kind of address, `socket.inet_ntoa` and `socket.inet_ntop`.
-/

namespace Midscale

/-- An IPv6 address, as the 128-bit integer it stands for. -/
abbrev IPv6Address := Fin (2 ^ 128)

/-- The address with a packed form; of longer bytes the last four count. -/
def IPv4Address.ofPacked (b : Bytes) : IPv4Address :=
  ⟨Struct.ofBigEndian b % 2 ^ 32, Nat.mod_lt _ (by decide)⟩

namespace IPv6Address

/-- The value of a hexadecimal digit. -/
def hexDigit (c : Char) : Option ℕ :=
  if '0' ≤ c ∧ c ≤ '9' then some (c.toNat - '0'.toNat)
  else if 'a' ≤ c ∧ c ≤ 'f' then some (c.toNat - 'a'.toNat + 10)
  else if 'A' ≤ c ∧ c ≤ 'F' then some (c.toNat - 'A'.toNat + 10)
  else none

/-- `_parse_hextet`: at most four hexadecimal digits. -/
def parseHextet (cs : List Char) : Option ℕ :=
  if 4 < cs.length then none
  else (cs.mapM hexDigit).map fun ds => ds.foldl (fun n d => n * 16 + d) 0

/-- The parts between the colons; a dotted quad in the last one counts for two hextets. -/
def parts (cs : List Char) : Option (List (List Char)) :=
  let ps := cs.splitOn ':'
  if ps.length < 3 then none
  else if '.' ∈ ps.getLastD [] then
    (IPv4Address.parseChars (ps.getLastD [])).map fun x =>
      ps.dropLast ++ [Nat.toDigits 16 (x.val / 2 ^ 16), Nat.toDigits 16 (x.val % 2 ^ 16)]
  else some ps

/-- `_ip_int_from_string` on the parts: the hextets before `::`, those after it, and the number
it stands for. -/
def hextets (ps : List (List Char)) : Option (List (List Char) × ℕ × List (List Char)) :=
  if 9 < ps.length then none
  else
    match (List.range' 1 (ps.length - 2)).filter fun i => ps.getD i [] = [] with
    | [] =>
      if ps.length ≠ 8 ∨ ps.headD [] = [] ∨ ps.getLastD [] = [] then none else some (ps, 0, [])
    | [i] =>
      let hi := if ps.headD [] = [] then i - 1 else i
      let lo := if ps.getLastD [] = [] then ps.length - i - 2 else ps.length - i - 1
      if ps.headD [] = [] ∧ hi ≠ 0 then none
      else if ps.getLastD [] = [] ∧ lo ≠ 0 then none
      else if 8 < hi + lo + 1 then none
      else some (ps.take hi, 8 - (hi + lo), ps.drop (ps.length - lo))
    | _ => none

/-- `IPv6Address(text)`, `none` when it raises; a scope after `%` is read and dropped. -/
def parse (s : String) : Option IPv6Address := do
  let cs := s.toList
  let addr := cs.takeWhile (· ≠ '%')
  let scope := cs.dropWhile (· ≠ '%')
  if '/' ∈ cs ∨ scope = ['%'] ∨ '%' ∈ scope.drop 1 then none
  let (hi, skipped, lo) ← hextets (← parts addr)
  let his ← hi.mapM parseHextet
  let los ← lo.mapM parseHextet
  let words := his ++ List.replicate skipped 0 ++ los
  return Fin.ofNat (2 ^ 128) (words.foldl (fun n w => n * 2 ^ 16 + w) 0)

/-- The eight hextets of sixteen bytes. -/
def words (b : Bytes) : List ℕ := Struct.fieldsOf (List.replicate 8 2) b

/-- The first of the longest runs of zeros: where it starts and how long it is. -/
def zeroRun (ws : List ℕ) : ℕ × ℕ :=
  (List.range 8).foldl (fun best i =>
    let len := ((ws.drop i).takeWhile (· = 0)).length
    if best.2 < len then (i, len) else best) (0, 0)

/-- Hextets in lower case, colons between them. -/
def colons (ws : List ℕ) : List Char := [':'].intercalate (ws.map (Nat.toDigits 16))

/-- `socket.inet_ntop(socket.AF_INET6, b)`: the longest run of two or more zeros is written as
`::`, and the last 32 bits as a dotted quad after five zeros and `ffff` or after exactly six
zeros. -/
def inetNtop (b : Bytes) : String :=
  let ws := words b
  let (start, len) := zeroRun ws
  let quad := IPv4Address.chars (IPv4Address.ofPacked (b.drop 12))
  String.ofList <|
    if len < 2 then colons ws
    else if start = 0 ∧ len = 6 then [':', ':'] ++ quad
    else if start = 0 ∧ len = 5 ∧ ws.getD 5 0 = 0xffff then
      [':', ':'] ++ colons [0xffff] ++ [':'] ++ quad
    else colons (ws.take start) ++ [':', ':'] ++ colons (ws.drop (start + len))

end IPv6Address

/-- What `ipaddress.ip_address` returns. -/
inductive IPAddress where
  | v4 (x : IPv4Address)
  | v6 (x : IPv6Address)
  deriving DecidableEq

namespace IPAddress

/-- `ipaddress.ip_address(text)`, `none` when it raises `ValueError`. -/
def parse (s : String) : Option IPAddress :=
  match IPv4Address.parse s with
  | some x => some (.v4 x)
  | none => (IPv6Address.parse s).map .v6

/-- `address.packed`. -/
def packed : IPAddress → Bytes
  | v4 x => Struct.bigEndian 4 x.val
  | v6 x => Struct.bigEndian 16 x.val

@[simp] theorem parse_str (x : IPv4Address) : parse x.str = some (.v4 x) := by
  rw [parse, IPv4Address.parse_str]

end IPAddress

/-- `socket.inet_ntoa(b)`. -/
def IPv4Address.inetNtoa (b : Bytes) : String :=
  (IPv4Address.ofPacked b).str

theorem IPv4Address.inetNtoa_bigEndian (x : IPv4Address) :
    inetNtoa (Struct.bigEndian 4 x.val) = x.str := by
  have hx : x.val < 256 ^ 4 := x.isLt
  have hpacked : ofPacked (Struct.bigEndian 4 x.val) = x :=
    Fin.ext ((congrArg (· % 2 ^ 32) (Struct.ofBigEndian_bigEndian hx)).trans
      (Nat.mod_eq_of_lt x.isLt))
  rw [inetNtoa, hpacked]

example : IPv6Address.parse "::ffff:1.2.3.4" = some ⟨0xffff01020304, by decide⟩ := by
  decide +kernel

example : IPv6Address.inetNtop (IPAddress.packed (.v6 ⟨0x20010db8 * 2 ^ 96 + 1, by decide⟩)) =
    "2001:db8::1" := by
  decide +kernel

end Midscale
