import Mathlib.Algebra.Ring.Int.Defs
import Midscale.Data.Text
import Midscale.Wireguard.Adapter

/-!
# Reading the state of an interface

`wg show <interface> dump` prints the state of an interface, one line for the interface and one for
each peer, with the fields separated by tabs.  The backend's adapter and the daemon's runtime parse it
with the same columns, which are not those that `wg` prints: the second field of the first line is
read as the listen port and is the public key, and a peer's preshared key is read as its AllowedIPs,
which moves every later column but the endpoint by one.

* `KernelInterface.dump` : what `wg` prints.
* `parseDump`, `Daemon.parseDump` : the two parsers.
* `dumpPeer_fields` : what the line of a peer is read as.
* `parse_dump_never_exact` : **neither parser ever returns the state that was printed**: both raise.
-/

namespace Midscale

/-! ### What `wg` prints -/

/-- The characters of a key but the last one. -/
def isKeyChar (c : Char) : Bool := c.isAlphanum ∨ c = '+' ∨ c = '/'

/-- A key as it is printed: 43 characters of base64 and `=`. -/
structure WgKey where
  chars : List Char
  length_eq : chars.length = 43
  base64 : chars.all isKeyChar = true
  deriving DecidableEq

/-- The text of a key. -/
def WgKey.text (k : WgKey) : String := String.ofList (k.chars ++ ['='])

/-- A peer of an interface. -/
structure KernelPeer where
  publicKey : WgKey
  presharedKey : Option WgKey := none
  endpoint : Option String := none
  allowedIps : List String := []
  /-- Seconds since the epoch, 0 if there was none. -/
  latestHandshake : ℕ := 0
  transferRx : ℕ := 0
  transferTx : ℕ := 0
  persistentKeepalive : Option ℕ := none

/-- An interface. -/
structure KernelInterface where
  privateKey : Option WgKey := none
  publicKey : Option WgKey := none
  listenPort : ℕ := 0
  fwmark : Option String := none
  peers : List KernelPeer := []

/-- The text of a field that may be absent. -/
def orNone (text : Option String) : String := text.getD "(none)"

/-- The fields of a peer's line. -/
def KernelPeer.fields (p : KernelPeer) : List String :=
  [p.publicKey.text, orNone (p.presharedKey.map WgKey.text), orNone p.endpoint,
    if p.allowedIps = [] then "(none)" else ",".intercalate p.allowedIps,
    toString p.latestHandshake, toString p.transferRx, toString p.transferTx,
    (p.persistentKeepalive.map toString).getD "off"]

/-- The fields of the interface's line. -/
def KernelInterface.fields (k : KernelInterface) : List String :=
  [orNone (k.privateKey.map WgKey.text), orNone (k.publicKey.map WgKey.text),
    toString k.listenPort, k.fwmark.getD "off"]

/-- What `wg show <interface> dump` prints, without the last line's end, which is stripped. -/
def KernelInterface.dump (k : KernelInterface) : String :=
  "\n".intercalate ((k.fields :: k.peers.map KernelPeer.fields).map "\t".intercalate)

/-! ### The parsers -/

/-- `datetime.fromtimestamp(ts, tz=timezone.utc)` inside `_parse_dump_timestamp`, where a year that
`datetime` does not have is a `ValueError`, and a number that `time_t` does not have is an exception
that is not caught. -/
def fromTimestamp (ts : ℤ) : Except String (Option Timestamp) :=
  if -62135596800 ≤ ts ∧ ts ≤ 253402300799 then .ok (some (Timestamp.seconds ts))
  else if -2 ^ 63 ≤ ts ∧ ts < 2 ^ 63 then .ok none
  else .error "OverflowError"

/-- `_parse_dump_timestamp`. -/
def parseDumpTimestamp (raw : String) : Except String (Option Timestamp) :=
  let raw := strip raw
  if raw = "" ∨ raw = "0" then .ok none
  else
    match parseInt raw with
    | none => .ok none
    | some ts => if ts = 0 then .ok none else fromTimestamp ts

/-- `int(parts[i]) if len(parts) > i and parts[i] else 0`. -/
def intColumn (parts : List String) (i : ℕ) : Except String ℤ :=
  match parts[i]? with
  | none => .ok 0
  | some text =>
    if text = "" then .ok 0
    else
      match parseInt text with
      | some n => .ok n
      | none => .error "ValueError"

/-- The columns of a peer's line that both parsers read. -/
def dumpPeer (parts : List String) : Except String WGPeer := do
  let latestHandshake ← parseDumpTimestamp (parts.getD 3 "")
  let transferRx ← intColumn parts 4
  let transferTx ← intColumn parts 5
  .ok
    { publicKey := parts.getD 0 ""
      allowedIps := if parts.getD 1 "" ≠ "" then splitText ',' (parts.getD 1 "") else []
      endpoint := if parts.getD 2 "" ≠ "" ∧ parts.getD 2 "" ≠ "(none)" then some (parts.getD 2 "")
        else none
      latestHandshake := latestHandshake
      transferRx := transferRx
      transferTx := transferTx }

/-- The column of the keepalive, which the backend's parser reads. -/
def keepaliveColumn (parts : List String) : Except String (Option ℤ) :=
  match parts[6]? with
  | none => .ok none
  | some text =>
    if text = "" ∨ text = "(off)" then .ok none
    else
      match parseInt text with
      | some n => .ok (some n)
      | none => .error "ValueError"

/-- The listen port of the first line. -/
def portColumn (first : List String) : Except String ℤ :=
  match first[1]? with
  | none => .ok 51820
  | some text =>
    match parseInt text with
    | some n => .ok n
    | none => .error "ValueError"

/-- A column of the first line, absent if it has the text for that. -/
def firstColumn (first : List String) (i : ℕ) (absent : String) : Option String :=
  first[i]?.filter (· ≠ absent)

/-- What both parsers do with a dump: the listen port, and the peers of the lines that are not blank
and have five fields. -/
def readDump {ρ : Type} (peer : List String → Except String ρ) (raw : String) :
    Except String (List String × ℤ × List ρ) := do
  let lines := splitText '\n' raw
  let first := splitText '\t' (lines.headD "")
  let listenPort ← portColumn first
  let lines := (lines.drop 1).filter fun line => strip line ≠ ""
  let peers ← ((lines.map (splitText '\t')).filter fun parts => 5 ≤ parts.length).mapM peer
  .ok (first, listenPort, peers)

/-- `WgCliAdapter._parse_dump`. -/
def parseDump (raw interface : String) : Except String WGInterfaceState := do
  let (first, listenPort, peers) ← readDump (fun parts => do
    let peer ← dumpPeer parts
    let persistentKeepalive ← keepaliveColumn parts
    .ok { peer with persistentKeepalive := persistentKeepalive }) raw
  .ok
    { name := interface
      privateKey := firstColumn first 0 "(none)"
      publicKey := firstColumn first 2 "(none)"
      listenPort := listenPort
      fwmark := firstColumn first 3 "(off)"
      peers := peers }

namespace Daemon

/-- `PeerState`. -/
structure PeerState where
  publicKey : String
  allowedIps : List String := []
  endpoint : Option String := none
  latestHandshake : Option Timestamp := none
  transferRx : ℤ := 0
  transferTx : ℤ := 0
  deriving DecidableEq, Repr

/-- `InterfaceState`. -/
structure InterfaceState where
  name : String
  publicKey : Option String := none
  listenPort : ℤ := 51820
  peers : List PeerState := []
  deriving DecidableEq, Repr

/-- The fields of a peer that the daemon keeps. -/
def peerState (p : WGPeer) : PeerState where
  publicKey := p.publicKey
  allowedIps := p.allowedIps
  endpoint := p.endpoint
  latestHandshake := p.latestHandshake
  transferRx := p.transferRx
  transferTx := p.transferTx

/-- `WireGuardRuntime._parse_dump`. -/
def parseDump (raw interface : String) : Except String InterfaceState := do
  let (first, listenPort, peers) ← readDump (fun parts => peerState <$> dumpPeer parts) raw
  .ok
    { name := interface
      publicKey := firstColumn first 2 "(none)"
      listenPort := listenPort
      peers := peers }

end Daemon

/-! ### What the parsers are to return -/

/-- The peer as it is to be reported. -/
def KernelPeer.report (p : KernelPeer) : WGPeer where
  publicKey := p.publicKey.text
  allowedIps := p.allowedIps
  endpoint := p.endpoint
  latestHandshake := if p.latestHandshake = 0 then none
    else some (Timestamp.seconds p.latestHandshake)
  transferRx := p.transferRx
  transferTx := p.transferTx
  persistentKeepalive := p.persistentKeepalive.map Int.ofNat

/-- The interface as it is to be reported. -/
def KernelInterface.report (k : KernelInterface) (name : String) : WGInterfaceState where
  name := name
  privateKey := k.privateKey.map WgKey.text
  publicKey := k.publicKey.map WgKey.text
  listenPort := k.listenPort
  fwmark := k.fwmark
  peers := k.peers.map KernelPeer.report

/-- The interface as the daemon is to report it. -/
def KernelInterface.daemonReport (k : KernelInterface) (name : String) : Daemon.InterfaceState where
  name := name
  publicKey := k.publicKey.map WgKey.text
  listenPort := k.listenPort
  peers := k.peers.map fun p => Daemon.peerState p.report

/-! ### What they return -/

theorem orNone_key (k : Option WgKey) : '\t' ∉ (orNone (k.map WgKey.text)).toList ∧
    '\n' ∉ (orNone (k.map WgKey.text)).toList ∧ parseInt (orNone (k.map WgKey.text)) = none := by
  cases k with
  | none => exact ⟨by decide, by decide, by decide⟩
  | some k =>
    have hchars : ∀ c ∈ k.chars ++ ['='], isKeyChar c = true ∨ c = '=' := fun c hc =>
      (List.mem_append.1 hc).imp (List.all_eq_true.1 k.base64 c) List.mem_singleton.1
    have htext : (orNone ((some k).map WgKey.text)).toList = k.chars ++ ['='] :=
      String.toList_ofList
    refine ⟨fun h => ?_, fun h => ?_, parseInt_eq_none (c := '=') ?_ (by decide)⟩
    · exact absurd (hchars _ (htext ▸ h)) (by decide)
    · exact absurd (hchars _ (htext ▸ h)) (by decide)
    · rw [htext]
      exact List.mem_append_right _ (List.mem_singleton_self _)

theorem KernelInterface.dump_eq (k : KernelInterface) : ∃ rest,
    k.dump.toList = (orNone (k.privateKey.map WgKey.text)).toList ++
      '\t' :: ((orNone (k.publicKey.map WgKey.text)).toList ++ '\t' :: rest) := by
  have htab : "\t".toList = ['\t'] := by decide
  have hfirst : ∃ rest, ("\t".intercalate k.fields).toList =
      (orNone (k.privateKey.map WgKey.text)).toList ++
        '\t' :: ((orNone (k.publicKey.map WgKey.text)).toList ++ '\t' :: rest) := by
    simp only [fields, String.intercalate_cons_cons, String.toList_append, htab, List.append_assoc,
      List.singleton_append]
    exact ⟨_, rfl⟩
  obtain ⟨rest, hrest⟩ := hfirst
  rw [dump]
  cases k.peers with
  | nil =>
    rw [List.map_nil, List.map_singleton, String.intercalate_singleton]
    exact ⟨rest, hrest⟩
  | cons p ps =>
    rw [List.map_cons, List.map_cons, List.map_cons, String.intercalate_cons_cons,
      String.toList_append, String.toList_append, hrest]
    simp only [List.append_assoc, List.cons_append]
    exact ⟨_, rfl⟩

/-- **The second field of a dump's first line is the public key.** -/
theorem KernelInterface.port_of_dump (k : KernelInterface) :
    portColumn (splitText '\t' ((splitText '\n' k.dump).headD "")) = .error "ValueError" := by
  obtain ⟨hprivTab, hprivLine, -⟩ := orNone_key k.privateKey
  obtain ⟨hpubTab, hpubLine, hnone⟩ := orNone_key k.publicKey
  obtain ⟨rest, hdump⟩ := k.dump_eq
  obtain ⟨line, hline⟩ : ∃ line, ((splitText '\n' k.dump).headD "").toList =
      (orNone (k.privateKey.map WgKey.text)).toList ++
        '\t' :: ((orNone (k.publicKey.map WgKey.text)).toList ++ '\t' :: line) := by
    have hkeep : ∀ cs : List Char, '\n' ∉ cs → ∀ c ∈ cs, decide (c ≠ '\n') = true :=
      fun cs hcs c hc => decide_eq_true fun heq => hcs (heq ▸ hc)
    rw [headD_splitText, String.toList_ofList, hdump, List.takeWhile_append_of_pos (hkeep _ hprivLine),
      List.takeWhile_cons_of_pos (by decide), List.takeWhile_append_of_pos (hkeep _ hpubLine),
      List.takeWhile_cons_of_pos (by decide)]
    exact ⟨_, rfl⟩
  rw [splitText, hline, List.splitOn_append_cons_self_of_not_mem hprivTab,
    List.splitOn_append_cons_self_of_not_mem hpubTab]
  simp only [portColumn, List.map_cons, List.getElem?_cons_succ, List.getElem?_cons_zero,
    String.ofList_toList, hnone]

theorem readDump_dump {ρ : Type} (peer : List String → Except String ρ) (k : KernelInterface) :
    readDump peer k.dump = .error "ValueError" := by
  rw [readDump, k.port_of_dump]
  rfl

theorem parseDump_dump (k : KernelInterface) (name : String) :
    parseDump k.dump name = .error "ValueError" := by
  rw [parseDump, readDump_dump]
  rfl

theorem Daemon.parseDump_dump (k : KernelInterface) (name : String) :
    Daemon.parseDump k.dump name = .error "ValueError" := by
  rw [Daemon.parseDump, readDump_dump]
  rfl

/-- **What the line of a peer would be read as**: the preshared key as AllowedIPs, the AllowedIPs as
time of the handshake, that time as the bytes received and those as the bytes sent. -/
theorem dumpPeer_fields (p : KernelPeer) {t : Option Timestamp}
    (ht : parseDumpTimestamp (if p.allowedIps = [] then "(none)" else ",".intercalate p.allowedIps) =
      .ok t) (hendpoint : ∀ e ∈ p.endpoint, e ≠ "" ∧ e ≠ "(none)") :
    dumpPeer p.fields = .ok
      { publicKey := p.publicKey.text
        allowedIps := splitText ',' (orNone (p.presharedKey.map WgKey.text))
        endpoint := p.endpoint
        latestHandshake := t
        transferRx := p.latestHandshake
        transferTx := p.transferRx } := by
  have hint : ∀ n : ℕ, toString n ≠ "" := fun n h => by
    have hnone : parseInt "" = none := by decide
    rw [← h, parseInt_toString] at hnone
    cases hnone
  have hpsk : orNone (p.presharedKey.map WgKey.text) ≠ "" := by
    cases p.presharedKey with
    | none => decide
    | some k =>
      intro h
      have hchars := congrArg String.toList h
      simp [orNone, WgKey.text] at hchars
  have hep : (if orNone p.endpoint ≠ "" ∧ orNone p.endpoint ≠ "(none)" then some (orNone p.endpoint)
      else none) = p.endpoint := by
    cases hp : p.endpoint with
    | none => decide
    | some e => exact if_pos (hendpoint e hp)
  simp only [dumpPeer, KernelPeer.fields, List.getD_cons_succ, List.getD_cons_zero, ht, intColumn,
    List.getElem?_cons_succ, List.getElem?_cons_zero, hint, parseInt_toString, ↓reduceIte,
    if_pos hpsk, hep]
  rfl

/-- **Neither parser ever returns the state that was printed.** -/
theorem parse_dump_never_exact (k : KernelInterface) (name : String) :
    parseDump k.dump name ≠ .ok (k.report name) ∧
      Daemon.parseDump k.dump name ≠ .ok (k.daemonReport name) := by
  rw [parseDump_dump, Daemon.parseDump_dump]
  constructor
  · intro h
    cases h
  · intro h
    cases h

/-- An interface with one peer. -/
def tunnelInterface : KernelInterface where
  privateKey := some ⟨List.replicate 43 'a', by decide, by decide⟩
  publicKey := some ⟨List.replicate 43 'b', by decide, by decide⟩
  listenPort := 51820
  peers := [
    { publicKey := ⟨List.replicate 43 'c', by decide, by decide⟩
      endpoint := some "192.0.2.7:51820"
      allowedIps := ["10.0.0.2/32", "192.168.7.0/24"]
      latestHandshake := 1700000000
      transferRx := 1024
      transferTx := 2048
      persistentKeepalive := some 25 }]

/-- Both parsers raise on the dump of an ordinary interface. -/
theorem tunnel_dump_raises :
    parseDump tunnelInterface.dump "wg0" = .error "ValueError" ∧
      Daemon.parseDump tunnelInterface.dump "wg0" = .error "ValueError" ∧
      ¬ (∀ k : KernelInterface, ∀ name, parseDump k.dump name = .ok (k.report name) ∧
        Daemon.parseDump k.dump name = .ok (k.daemonReport name)) := by
  refine ⟨parseDump_dump _ _, Daemon.parseDump_dump _ _, fun hall => ?_⟩
  have hraises := parseDump_dump tunnelInterface "wg0"
  rw [(hall tunnelInterface "wg0").1] at hraises
  cases hraises

end Midscale
