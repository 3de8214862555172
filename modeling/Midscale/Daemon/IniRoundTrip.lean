import Midscale.Config.Legacy
import Midscale.Daemon.Ini

/-!
# The INI round trip

The server renders a configuration with `WireGuardConfig.to_ini`, the daemon reads it back with
`_parse_config_ini`.

* `toIni_eq` : the rendered text consists of sections of keys and values.
* `plain_interfaceEntries`, `plain_peerEntries` : the values of a plain configuration fit their
  lines.
* `splitItems_intercalate`, `parseEndpoint_toString`, `intOrNone_toString` : each kind of value comes
  back.
* `parseConfigIni_toIni` : **parsing the rendered text gives the configuration back**, in the
  parser's normal form.
-/

namespace Midscale

namespace Daemon

/-! ### The rendered text -/

/-- A line with a key and a value. -/
def entryLine (e : String × String) : String := e.1 ++ " = " ++ e.2

/-- The keys and values of a `[Peer]` section. -/
def peerEntries (p : PeerConfig) : List (String × String) :=
  [("PublicKey", p.publicKey)] ++
  (if truthy p.endpoint then
    [("Endpoint", p.endpoint.getD "" ++ ":" ++
      toString ((orPort p.endpointPort (some 51820)).getD 0))]
  else []) ++
  (if p.allowedIps ≠ [] then [("AllowedIPs", ", ".intercalate p.allowedIps)] else []) ++
  (match p.persistentKeepalive with
    | some k => [("PersistentKeepalive", toString k)]
    | none => [])

/-- The keys and values of the `[Interface]` section. -/
def interfaceEntries (c : WireGuardConfig) (prefixlen : ℕ) : List (String × String) :=
  [("PrivateKey", c.privateKey), ("Address", c.address ++ "/" ++ toString prefixlen)] ++
  (match c.listenPort with
    | some port => if port ≠ 0 then [("ListenPort", toString port)] else []
    | none => []) ++
  (match c.dnsServers with
    | some (s :: ss) => [("DNS", ", ".intercalate (s :: ss))]
    | _ => []) ++
  (match c.mtu with
    | some mtu => if mtu ≠ 0 then [("MTU", toString mtu)] else []
    | none => [])

theorem toList_entryLine (e : String × String) : (entryLine e).toList = entryChars e := by
  have hsep : " = ".toList = [' ', '=', ' '] := by decide
  rw [entryLine, String.toList_append, String.toList_append, hsep, List.append_assoc]
  rfl

theorem lines_eq (p : PeerConfig) :
    p.lines = "[Peer]" :: (peerEntries p).map entryLine ++ [""] := by
  have hkeys : ("PublicKey" ++ " = " = "PublicKey = " ∧ "Endpoint" ++ " = " = "Endpoint = ") ∧
      "AllowedIPs" ++ " = " = "AllowedIPs = " ∧
      "PersistentKeepalive" ++ " = " = "PersistentKeepalive = " := by decide
  obtain ⟨⟨hkey, hendpoint⟩, hips, hkeepalive⟩ := hkeys
  unfold PeerConfig.lines peerEntries
  by_cases he : truthy p.endpoint = true <;> by_cases ha : p.allowedIps = [] <;>
    cases p.persistentKeepalive <;>
    simp [entryLine, he, ha, hkey, hendpoint, hips, hkeepalive, String.append_assoc]

theorem interfaceLines_eq (c : WireGuardConfig) (prefixlen : ℕ) :
    ["PrivateKey = " ++ c.privateKey, "Address = " ++ c.address ++ "/" ++ toString prefixlen] ++
    (match c.listenPort with
      | some port => if port ≠ 0 then ["ListenPort = " ++ toString port] else []
      | none => []) ++
    (match c.dnsServers with
      | some (s :: ss) => ["DNS = " ++ ", ".intercalate (s :: ss)]
      | _ => []) ++
    (match c.mtu with
      | some mtu => if mtu ≠ 0 then ["MTU = " ++ toString mtu] else []
      | none => []) = (interfaceEntries c prefixlen).map entryLine := by
  have hkeys : ("PrivateKey" ++ " = " = "PrivateKey = " ∧ "Address" ++ " = " = "Address = ") ∧
      "ListenPort" ++ " = " = "ListenPort = " ∧ "DNS" ++ " = " = "DNS = " ∧
      "MTU" ++ " = " = "MTU = " := by decide
  obtain ⟨⟨hkey, haddress⟩, hport, hdns, hmtu⟩ := hkeys
  have hports : (match c.listenPort with
      | some port => if port ≠ 0 then ["ListenPort = " ++ toString port] else []
      | none => []) = ((match c.listenPort with
      | some port => if port ≠ 0 then [("ListenPort", toString port)] else []
      | none => []) : List (String × String)).map entryLine := by
    cases c.listenPort with
    | none => rfl
    | some port => by_cases hp : port = 0 <;> simp [entryLine, hp, hport]
  have hdnss : (match c.dnsServers with
      | some (s :: ss) => ["DNS = " ++ ", ".intercalate (s :: ss)]
      | _ => []) = ((match c.dnsServers with
      | some (s :: ss) => [("DNS", ", ".intercalate (s :: ss))]
      | _ => []) : List (String × String)).map entryLine := by
    cases c.dnsServers with
    | none => rfl
    | some ss => cases ss <;> simp [entryLine, hdns]
  have hmtus : (match c.mtu with
      | some mtu => if mtu ≠ 0 then ["MTU = " ++ toString mtu] else []
      | none => []) = ((match c.mtu with
      | some mtu => if mtu ≠ 0 then [("MTU", toString mtu)] else []
      | none => []) : List (String × String)).map entryLine := by
    cases c.mtu with
    | none => rfl
    | some mtu => by_cases hm : mtu = 0 <;> simp [entryLine, hm, hmtu]
  rw [hports, hdnss, hmtus, interfaceEntries, List.map_append, List.map_append, List.map_append]
  simp [entryLine, hkey, haddress, String.append_assoc]

theorem blocksText_eq (blocks : List (List (String × String))) :
    '\n' :: blocks.flatMap (fun es => '\n' :: (peerHeader ++ entriesText es ++ ['\n'])) =
      gap blocks ++ blocksText blocks := by
  induction blocks with
  | nil => rfl
  | cons es ess ih =>
    cases ess with
    | nil => simp [gap, blocksText]
    | cons es' ess =>
      have hgap : ∀ b bs, gap (b :: bs) = ['\n', '\n'] := fun b bs => if_neg (List.cons_ne_nil b bs)
      have hcons : ∀ cs : List Char, ['\n'] ++ cs = '\n' :: cs := fun _ => rfl
      rw [List.flatMap_cons, hgap, blocksText]
      simp only [hgap, List.cons_append, List.append_assoc, hcons] at ih ⊢
      rw [ih]

theorem flatMap_entryLine (es : List (String × String)) :
    ((es.map entryLine).map String.toList).flatMap ('\n' :: ·) = entriesText es := by
  simp [entriesText, List.flatMap_map, toList_entryLine]

theorem toList_intercalate_lines (es : List (String × String))
    (blocks : List (List (String × String))) :
    ("\n".intercalate ("[Interface]" :: (es.map entryLine ++ ([""] ++
      blocks.flatMap fun b => "[Peer]" :: b.map entryLine ++ [""])))).toList = iniText es blocks := by
  have htexts : ("[Interface]".toList = interfaceHeader ∧ "[Peer]".toList = peerHeader) ∧
      "".toList = [] ∧ "\n".toList = ['\n'] := by decide
  obtain ⟨⟨hinterface, hpeer⟩, hempty, hnewline⟩ := htexts
  rw [String.toList_intercalate, List.map_cons, hnewline, intercalate_newline, iniText,
    ← blocksText_eq, List.map_append, List.flatMap_append, flatMap_entryLine, List.map_append,
    List.flatMap_append, hinterface, List.map_flatMap, List.flatMap_assoc]
  simp only [List.map_append, List.map_cons, List.map_nil, List.flatMap_append, List.flatMap_cons,
    List.flatMap_nil, flatMap_entryLine, hpeer, hempty, List.append_nil, List.cons_append,
    List.nil_append, List.append_assoc]

theorem toIni_eq {c : WireGuardConfig} {net : IPv4Network}
    (h : IPv4Network.parse c.subnet = some net) :
    ∃ text, c.toIni = .ok text ∧
      text.toList = iniText (interfaceEntries c net.prefixlen.val) (c.peers.map peerEntries) := by
  refine ⟨_, ?_, toList_intercalate_lines _ _⟩
  have hpeers : c.peers.flatMap PeerConfig.lines = (c.peers.map peerEntries).flatMap fun b =>
      "[Peer]" :: b.map entryLine ++ [""] := by
    rw [List.flatMap_map]
    exact congrArg (List.flatMap · c.peers) (funext lines_eq)
  rw [← interfaceLines_eq, ← hpeers, WireGuardConfig.toIni, h]
  simp only [getOr, List.cons_append, List.nil_append, List.append_assoc]
  rfl

/-! ### Values -/

/-- A text of a configuration: not empty, on one line, without an opening bracket and without
whitespace around it. -/
structure PlainText (s : String) : Prop where
  ne : s ≠ ""
  newline : '\n' ∉ s.toList
  bracket : '[' ∉ s.toList
  stripped : strip s = s

/-- An element of a list: not empty, without an opening bracket, a comma or whitespace. -/
structure PlainItem (s : String) : Prop where
  ne : s ≠ ""
  bracket : '[' ∉ s.toList
  comma : ',' ∉ s.toList
  space : ∀ c ∈ s.toList, isPySpace c = false

theorem toList_ne_nil {s : String} (h : s ≠ "") : s.toList ≠ [] :=
  fun h' => h (String.toList_eq_nil_iff.1 h')

theorem PlainText.value {s : String} (h : PlainText s) : PlainValue s.toList := by
  refine ⟨toList_ne_nil h.ne, h.newline, h.bracket, fun c hc => ?_⟩
  by_contra hspace
  have hstripped := congrArg (List.length ∘ String.toList) h.stripped
  obtain ⟨cs, hcs⟩ := List.head?_eq_some_iff.1 hc
  -- stripping would have taken the first character away
  have hdrop : (s.toList.dropWhile isPySpace).length ≤ cs.length := by
    rw [hcs, List.dropWhile_cons, if_pos (by simpa using hspace)]
    exact (List.dropWhile_sublist _).length_le
  have hlen : (stripChars isPySpace s.toList).length ≤ cs.length := by
    rw [stripChars, List.length_reverse]
    exact (List.dropWhile_sublist _).length_le.trans (by rwa [List.length_reverse])
  simp only [Function.comp_apply, strip, String.toList_ofList] at hstripped
  rw [hstripped, hcs, List.length_cons] at hlen
  omega

theorem PlainValue.of_noSpace {cs : List Char} (hne : cs ≠ [])
    (h : ∀ c ∈ cs, isPySpace c = false ∧ c ≠ '[') : PlainValue cs where
  ne := hne
  newline hmem := absurd (h _ hmem).1 (by decide)
  bracket hmem := (h _ hmem).2 rfl
  head c hc := (h c (List.mem_of_mem_head? hc)).1

theorem PlainValue.append {cs ds : List Char} (h : PlainValue cs)
    (hds : ∀ c ∈ ds, c ≠ '\n' ∧ c ≠ '[') : PlainValue (cs ++ ds) where
  ne := by simp [h.ne]
  newline hmem := (List.mem_append.1 hmem).elim h.newline fun hd => (hds _ hd).1 rfl
  bracket hmem := (List.mem_append.1 hmem).elim h.bracket fun hd => (hds _ hd).2 rfl
  head c hc := by
    rw [List.head?_append_of_ne_nil _ h.ne] at hc
    exact h.head c hc

theorem PlainItem.value {s : String} (h : PlainItem s) : PlainValue s.toList :=
  .of_noSpace (toList_ne_nil h.ne) fun c hc => ⟨h.space c hc, fun hb => h.bracket (hb ▸ hc)⟩

theorem plain_toString_int {n : ℤ} {c : Char} (hc : c ∈ (toString n).toList) :
    isPySpace c = false ∧ c ≠ '\n' ∧ c ≠ '[' ∧ c ≠ ':' ∧ c ≠ '/' := by
  rcases mem_toString_int hc with rfl | hdigit
  · decide
  · refine ⟨(plain_of_isDigit hdigit).1, ?_, ?_, ?_, ?_⟩ <;>
      · rintro rfl
        exact absurd hdigit (by decide)

theorem plainValue_toString_int (n : ℤ) : PlainValue (toString n).toList :=
  .of_noSpace (toList_ne_nil (toString_int_ne_empty n)) fun _ hc =>
    ⟨(plain_toString_int hc).1, (plain_toString_int hc).2.2.1⟩

theorem plainValue_intercalate {s : String} {ss : List String} (h : ∀ x ∈ s :: ss, PlainItem x) :
    PlainValue (", ".intercalate (s :: ss)).toList := by
  have hsep : ∀ c ∈ ", ".toList, c ≠ '\n' ∧ c ≠ '[' := List.forall_iff_forall_mem.1 (by decide)
  induction ss generalizing s with
  | nil =>
    rw [String.intercalate_singleton]
    exact (h s List.mem_cons_self).value
  | cons s' ss ih =>
    have hrest := ih fun x hx => h x (List.mem_cons_of_mem _ hx)
    rw [String.intercalate_cons_cons, String.toList_append, String.toList_append, List.append_assoc]
    refine (h s List.mem_cons_self).value.append fun c hc => ?_
    rcases List.mem_append.1 hc with hc | hc
    · exact hsep c hc
    · exact ⟨fun hn => hrest.newline (hn ▸ hc), fun hb => hrest.bracket (hb ▸ hc)⟩

/-- **The elements of a list come back.** -/
theorem splitItems_intercalate {ss : List String} (hne : ss ≠ [])
    (h : ∀ x ∈ ss, PlainItem x) : splitItems (", ".intercalate ss) = ss := by
  have hsep : ", ".toList = [',', ' '] := by decide
  have hstrip : ∀ x ∈ ss, strip x = x ∧ strip (String.ofList (' ' :: x.toList)) = x := by
    intro x hx
    have hspace := (h x hx).space
    have hself := stripChars_eq_self hspace
    refine ⟨by rw [strip, hself, String.ofList_toList], ?_⟩
    have hblank : stripChars isPySpace (' ' :: x.toList) = stripChars isPySpace x.toList := by
      rw [stripChars, List.dropWhile_cons, if_pos (by decide), stripChars]
    rw [strip, String.toList_ofList, hblank, hself, String.ofList_toList]
  -- every element but the first one has a blank before it
  have hsplit : ∀ (s : String) (rest : List String), (∀ x ∈ s :: rest, PlainItem x) →
      (", ".intercalate (s :: rest)).toList.splitOn ',' =
        s.toList :: rest.map fun x => ' ' :: x.toList := by
    intro s rest hall
    induction rest generalizing s with
    | nil =>
      rw [String.intercalate_singleton]
      exact List.splitOn_eq_singleton (hall s List.mem_cons_self).comma
    | cons s' rest ih =>
      have hrest := ih s' fun x hx => hall x (List.mem_cons_of_mem _ hx)
      rw [String.intercalate_cons_cons, String.toList_append, String.toList_append, hsep,
        List.append_assoc, List.cons_append, List.cons_append, List.nil_append,
        List.splitOn_append_cons_of_beq _ _ (by simp),
        List.splitOn_eq_singleton (hall s List.mem_cons_self).comma,
        List.splitOn_cons_eq_if_modifyHead, hrest]
      simp
  cases ss with
  | nil => exact absurd rfl hne
  | cons s rest =>
    rw [splitItems, splitText, hsplit s rest h, List.map_cons, List.map_cons, List.map_map,
      List.map_map, String.ofList_toList, (hstrip s List.mem_cons_self).1]
    have hmap : rest.map ((strip ∘ String.ofList) ∘ fun x => ' ' :: x.toList) = rest :=
      (List.map_congr_left fun x hx => (hstrip x (List.mem_cons_of_mem _ hx)).2).trans
        (List.map_id' rest)
    rw [hmap, List.filter_eq_self]
    exact fun x hx => decide_eq_true (h x hx).ne

/-- **A number comes back.** -/
theorem intOrNone_toString (n : ℤ) : intOrNone (toString n) = .ok (some n) := by
  rw [intOrNone, if_neg (toString_int_ne_empty n), parseInt_toString_int]

/-- **An endpoint comes back**, whatever colons it has. -/
theorem parseEndpoint_toString (endpoint : String) (port : ℤ) :
    parseEndpoint (endpoint ++ ":" ++ toString port) = (some endpoint, some port) := by
  have hchars : (endpoint ++ ":" ++ toString port).toList =
      endpoint.toList ++ ':' :: (toString port).toList := by
    rw [String.toList_append, String.toList_append, List.append_assoc]
    rfl
  have hcolon : ':' ∈ (endpoint ++ ":" ++ toString port).toList := by rw [hchars]; simp
  have hne : endpoint ++ ":" ++ toString port ≠ "" := by
    intro h
    rw [h] at hcolon
    cases hcolon
  have hafter : ((endpoint.toList ++ ':' :: (toString port).toList).reverse.takeWhile
      (· ≠ ':')).reverse = (toString port).toList := by
    have hall : ∀ c ∈ (toString port).toList.reverse, decide (c ≠ ':') = true := fun c hc =>
      decide_eq_true (plain_toString_int (List.mem_reverse.1 hc)).2.2.2.1
    rw [List.reverse_append, List.reverse_cons, List.append_assoc,
      List.takeWhile_append_of_pos hall]
    simp
  have hsplit : rsplitColon (endpoint ++ ":" ++ toString port) = (endpoint, toString port) := by
    have hlength : (endpoint.toList ++ ':' :: (toString port).toList).length -
        (toString port).toList.length - 1 = endpoint.toList.length := by
      rw [List.length_append, List.length_cons]
      omega
    rw [rsplitColon, hchars, hafter, hlength, List.take_left, String.ofList_toList,
      String.ofList_toList]
  rw [parseEndpoint, if_neg hne, if_pos hcolon, hsplit, parseInt_toString_int]
  rfl

theorem address_roundTrip {s : String} {x : IPv4Address} (h : IPv4Address.parse s = some x)
    (n : ℕ) : PlainValue (s ++ "/" ++ toString n).toList ∧
      splitText '/' (s ++ "/" ++ toString n) = [s, toString n] := by
  obtain ⟨hne, hchars⟩ := chars_of_address h
  have hplain : ∀ c ∈ s.toList, isPySpace c = false ∧ c ≠ '[' ∧ c ≠ '/' := by
    intro c hc
    rcases hchars c hc with hdigit | rfl
    · refine ⟨(plain_of_isDigit hdigit).1, ?_, ?_⟩ <;>
        · rintro rfl
          exact absurd hdigit (by decide)
    · decide
  have hnum : ∀ c ∈ (toString n).toList, c ≠ '\n' ∧ c ≠ '[' ∧ c ≠ '/' := fun c hc =>
    have hc := plain_toString_int (n := (n : ℤ)) hc
    ⟨hc.2.1, hc.2.2.1, hc.2.2.2.2⟩
  have htext : (s ++ "/" ++ toString n).toList = s.toList ++ '/' :: (toString n).toList := by
    rw [String.toList_append, String.toList_append, List.append_assoc]
    rfl
  rw [splitText, htext]
  constructor
  · refine (PlainValue.of_noSpace (toList_ne_nil hne) fun c hc =>
      ⟨(hplain c hc).1, (hplain c hc).2.1⟩).append fun c hc => ?_
    rcases List.mem_cons.1 hc with rfl | hc
    · decide
    · exact ⟨(hnum c hc).1, (hnum c hc).2.1⟩
  · rw [List.splitOn_append_cons_of_beq _ _ (by simp),
      List.splitOn_eq_singleton fun hmem => (hplain _ hmem).2.2 rfl,
      List.splitOn_eq_singleton fun hmem => (hnum _ hmem).2.2 rfl, List.singleton_append,
      List.map_cons, List.map_singleton, String.ofList_toList, String.ofList_toList]

/-! ### The round trip -/

/-- The texts, list elements and ports of a peer are plain. -/
structure PlainPeer (p : PeerConfig) : Prop where
  publicKey : PlainText p.publicKey
  endpoint : ∀ e, p.endpoint = some e → PlainText e
  endpointPort : ∀ n, p.endpointPort = some n → 0 < n
  allowedIps : ∀ s ∈ p.allowedIps, PlainItem s

/-- The texts, list elements and numbers of a configuration are plain. -/
structure PlainConfig (c : WireGuardConfig) : Prop where
  privateKey : PlainText c.privateKey
  address : ∃ x, IPv4Address.parse c.address = some x
  subnet : ∃ net, IPv4Network.parse c.subnet = some net
  listenPort : ∀ n, c.listenPort = some n → 0 < n
  dnsServers : ∀ ss, c.dnsServers = some ss → ∀ s ∈ ss, PlainItem s
  mtu : ∀ n, c.mtu = some n → 0 < n
  peers : ∀ p ∈ c.peers, PlainPeer p

/-- A peer as the parser gives it: a peer with an endpoint has a port. -/
def peerNormalForm (p : PeerConfig) : TypedPeer where
  publicKey := p.publicKey
  allowedIps := p.allowedIps
  endpoint := p.endpoint
  endpointPort := p.endpoint.map fun _ => p.endpointPort.getD 51820
  persistentKeepalive := p.persistentKeepalive

/-- A configuration as the parser gives it: the subnet is its prefix length, and no name server is
`None`. -/
def normalForm (c : WireGuardConfig) (prefixlen : ℕ) : IniConfig where
  privateKey := c.privateKey
  address := c.address
  subnet := "0.0.0.0/" ++ toString prefixlen
  listenPort := c.listenPort
  dnsServers := c.dnsServers.filter (· ≠ [])
  peers := c.peers.map peerNormalForm
  mtu := c.mtu.map Int.ofNat

section RoundTrip

variable (alnum : Char → Bool)

theorem plainEntry_of_key {key value : String} (hkey : key ∈ ["PrivateKey", "Address", "ListenPort",
    "DNS", "MTU", "PublicKey", "Endpoint", "AllowedIPs", "PersistentKeepalive"])
    (hvalue : PlainValue value.toList) : PlainEntry alnum (key, value) := by
  have hascii : ∀ key ∈ ["PrivateKey", "Address", "ListenPort", "DNS", "MTU", "PublicKey",
      "Endpoint", "AllowedIPs", "PersistentKeepalive"],
      key ≠ "" ∧ key.toList.Forall fun c => c.toNat < 128 ∧ c.isAlphanum = true := by decide
  refine ⟨(hascii key hkey).1, fun c hc => ?_, hvalue⟩
  obtain ⟨hlt, hal⟩ := List.forall_iff_forall_mem.1 (hascii key hkey).2 c hc
  rw [isWord, if_pos hlt, hal, Bool.true_or]

variable {alnum}

theorem plain_peerEntries {p : PeerConfig} (h : PlainPeer p) :
    ∀ e ∈ peerEntries p, PlainEntry alnum e := by
  intro e he
  simp only [peerEntries, List.mem_append, List.mem_singleton] at he
  rcases he with ((rfl | he) | he) | he
  · exact plainEntry_of_key alnum (by decide) h.publicKey.value
  · cases hendpoint : p.endpoint with
    | none => simp [hendpoint, truthy] at he
    | some endpoint =>
      have htext := h.endpoint endpoint hendpoint
      rw [hendpoint, truthy, if_pos (by simpa using htext.ne), List.mem_singleton] at he
      subst he
      refine plainEntry_of_key alnum (by decide) ?_
      rw [String.append_assoc, String.toList_append]
      refine htext.value.append fun c hc => ?_
      rw [String.toList_append] at hc
      rcases List.mem_append.1 hc with hc | hc
      · exact List.mem_singleton.1 hc ▸ by decide
      · exact ⟨(plain_toString_int hc).2.1, (plain_toString_int hc).2.2.1⟩
  · cases hips : p.allowedIps with
    | nil => simp [hips] at he
    | cons s ss =>
      rw [hips, if_pos (List.cons_ne_nil _ _), List.mem_singleton] at he
      subst he
      exact plainEntry_of_key alnum (by decide)
        (plainValue_intercalate fun x hx => h.allowedIps x (hips ▸ hx))
  · cases hkeepalive : p.persistentKeepalive with
    | none => simp [hkeepalive] at he
    | some k =>
      rw [hkeepalive] at he
      rw [List.mem_singleton.1 he]
      exact plainEntry_of_key alnum (by decide) (plainValue_toString_int k)

theorem plain_interfaceEntries {c : WireGuardConfig} (h : PlainConfig c) (n : ℕ) :
    ∀ e ∈ interfaceEntries c n, PlainEntry alnum e := by
  obtain ⟨x, hx⟩ := h.address
  intro e he
  simp only [interfaceEntries, List.mem_append, List.mem_cons, List.not_mem_nil, or_false] at he
  rcases he with (((rfl | rfl) | he) | he) | he
  · exact plainEntry_of_key alnum (by decide) h.privateKey.value
  · exact plainEntry_of_key alnum (by decide) (address_roundTrip hx n).1
  · cases hport : c.listenPort with
    | none => simp [hport] at he
    | some port =>
      have hpos := h.listenPort port hport
      rw [hport] at he
      simp only [if_pos hpos.ne', List.mem_singleton] at he
      subst he
      exact plainEntry_of_key alnum (by decide) (plainValue_toString_int port)
  · cases hdns : c.dnsServers with
    | none => simp [hdns] at he
    | some ss =>
      cases ss with
      | nil => simp [hdns] at he
      | cons s ss =>
        rw [hdns] at he
        rw [List.mem_singleton.1 he]
        exact plainEntry_of_key alnum (by decide)
          (plainValue_intercalate fun x hx => h.dnsServers _ hdns x hx)
  · cases hmtu : c.mtu with
    | none => simp [hmtu] at he
    | some mtu =>
      have hpos := h.mtu mtu hmtu
      rw [hmtu] at he
      simp only [if_pos hpos.ne', List.mem_singleton] at he
      subst he
      exact plainEntry_of_key alnum (by decide) (plainValue_toString_int mtu)

theorem getD_peerEntries (p : PeerConfig) :
    let pkv := Dict.ofRows Prod.fst Prod.snd (peerEntries p)
    pkv.getD "PublicKey" "" = p.publicKey ∧
    pkv.getD "Endpoint" "" = (if truthy p.endpoint then p.endpoint.getD "" ++ ":" ++
      toString ((orPort p.endpointPort (some 51820)).getD 0) else "") ∧
    pkv.getD "AllowedIPs" "" =
      (if p.allowedIps ≠ [] then ", ".intercalate p.allowedIps else "") ∧
    pkv.getD "PersistentKeepalive" "" = (p.persistentKeepalive.map toString).getD "" := by
  unfold peerEntries
  by_cases he : truthy p.endpoint = true <;> by_cases ha : p.allowedIps = [] <;>
    cases p.persistentKeepalive <;>
    simp [he, ha, Dict.ofRows, Dict.getD, Dict.get?_set]

/-- **A peer comes back from its entries.** -/
theorem parseIniPeer_peerEntries {p : PeerConfig} (h : PlainPeer p) :
    parseIniPeer (Dict.ofRows Prod.fst Prod.snd (peerEntries p)) =
      .ok (some (peerNormalForm p)) := by
  obtain ⟨hkey, hendpoint, hips, hkeepalive⟩ := getD_peerEntries p
  have hparsedKeepalive : intOrNone ((p.persistentKeepalive.map toString).getD "") =
      .ok p.persistentKeepalive := by
    cases p.persistentKeepalive with
    | none => rfl
    | some k => exact intOrNone_toString k
  have hparsedIps : splitItems (if p.allowedIps ≠ [] then ", ".intercalate p.allowedIps else "") =
      p.allowedIps := by
    by_cases hnil : p.allowedIps = []
    · rw [if_neg (not_not_intro hnil), hnil]
      decide
    · rw [if_pos hnil, splitItems_intercalate hnil h.allowedIps]
  have hparsedEndpoint : parseEndpoint (if truthy p.endpoint then p.endpoint.getD "" ++ ":" ++
      toString ((orPort p.endpointPort (some 51820)).getD 0) else "") =
        (p.endpoint, p.endpoint.map fun _ => p.endpointPort.getD 51820) := by
    cases he : p.endpoint with
    | none => rfl
    | some endpoint =>
      have htruthy : truthy (some endpoint) = true := by simpa [truthy] using (h.endpoint _ he).ne
      have hport : (orPort p.endpointPort (some 51820)).getD 0 = p.endpointPort.getD 51820 := by
        cases hp : p.endpointPort with
        | none => rfl
        | some port => simp [orPort, (h.endpointPort port hp).ne']
      rw [if_pos htruthy, Option.getD_some, parseEndpoint_toString, hport]
      rfl
  rw [parseIniPeer, hkey, hendpoint, hips, hkeepalive, if_neg h.publicKey.ne, hparsedKeepalive,
    hparsedIps, hparsedEndpoint]
  rfl

theorem getD_interfaceEntries {c : WireGuardConfig} (h : PlainConfig c) (n : ℕ) :
    let kv := Dict.ofRows Prod.fst Prod.snd (interfaceEntries c n)
    kv.getD "PrivateKey" "" = c.privateKey ∧
    kv.getD "Address" "" = c.address ++ "/" ++ toString n ∧
    kv.getD "ListenPort" "" = (c.listenPort.map toString).getD "" ∧
    kv.getD "DNS" "" = ", ".intercalate (c.dnsServers.getD []) ∧
    kv.getD "MTU" "" = (c.mtu.map toString).getD "" := by
  have hport : ∀ port, c.listenPort = some port → port ≠ 0 := fun port hp =>
    (h.listenPort port hp).ne'
  have hmtu : ∀ mtu, c.mtu = some mtu → mtu ≠ 0 := fun mtu hm => (h.mtu mtu hm).ne'
  unfold interfaceEntries
  rcases hp : c.listenPort with _ | port <;> rcases hd : c.dnsServers with _ | _ | ⟨s, ss⟩ <;>
    rcases hm : c.mtu with _ | mtu <;>
    simp [hport, hmtu, hp, hm, Dict.ofRows, Dict.getD, Dict.get?_set, String.intercalate_nil]

theorem parsed_dnsServers {c : WireGuardConfig} (h : PlainConfig c) :
    (if ", ".intercalate (c.dnsServers.getD []) = "" then none
      else some (splitItems (", ".intercalate (c.dnsServers.getD [])))) =
        c.dnsServers.filter (· ≠ []) := by
  cases hdns : c.dnsServers with
  | none => rfl
  | some ss =>
    cases ss with
    | nil => rfl
    | cons s ss =>
      have hplain := h.dnsServers _ hdns
      have hne : ", ".intercalate (s :: ss) ≠ "" := fun h' =>
        (plainValue_intercalate hplain).ne (String.toList_eq_nil_iff.2 h')
      rw [Option.getD_some, if_neg hne, splitItems_intercalate (List.cons_ne_nil _ _) hplain]
      rfl

theorem mapM_ok {α β : Type} {f : α → Except String β} {g : α → β} {l : List α}
    (h : ∀ x ∈ l, f x = .ok (g x)) : l.mapM f = .ok (l.map g) := by
  induction l with
  | nil => rfl
  | cons x l ih =>
    rw [List.mapM_cons, h x List.mem_cons_self, ih fun y hy => h y (List.mem_cons_of_mem _ hy)]
    rfl

/-- **INI round trip**: the daemon's parser, applied to the text that the server renders, gives the
private key, the address with its prefix length, the name servers, the MTU and the listen port, and
the peers in order with their keys, endpoints, allowed IPs and keepalives. -/
theorem parseConfigIni_toIni {c : WireGuardConfig} (h : PlainConfig c) :
    ∃ net text, IPv4Network.parse c.subnet = some net ∧ c.toIni = .ok text ∧
      parseConfigIni alnum text = .ok (some (normalForm c net.prefixlen.val)) := by
  obtain ⟨net, hnet⟩ := h.subnet
  obtain ⟨text, htext, hchars⟩ := toIni_eq hnet
  obtain ⟨x, hx⟩ := h.address
  have hentries : ∀ e ∈ interfaceEntries c net.prefixlen.val, PlainEntry alnum e :=
    plain_interfaceEntries h net.prefixlen.val
  obtain ⟨m, sec, hsearch, hkv⟩ := search_iniText (c.peers.map peerEntries) hentries
  have hpeerEntries : ∀ es ∈ c.peers.map peerEntries, ∀ e ∈ es, PlainEntry alnum e := by
    intro es hes
    obtain ⟨p, hp, rfl⟩ := List.mem_map.1 hes
    exact plain_peerEntries (h.peers p hp)
  have hblocks := findAll_iniText hentries hpeerEntries
  refine ⟨net, text, hnet, htext, ?_⟩
  obtain ⟨hkey, haddress, hport, hdns, hmtu⟩ := getD_interfaceEntries h net.prefixlen.val
  have hpeers : ((Regex.findAll peerBlockPattern text.toList).mapM fun block =>
      parseIniPeer (keyValues alnum block.1)) = .ok (c.peers.map (some ∘ peerNormalForm)) := by
    rw [hchars]
    change (List.mapM (parseIniPeer ∘ fun block : Regex.Match => keyValues alnum block.1) _) = _
    rw [← List.mapM_map, hblocks, List.map_map, List.mapM_map]
    exact mapM_ok fun p hp => parseIniPeer_peerEntries (h.peers p hp)
  have hports : intOrNone ((c.listenPort.map toString).getD "") = .ok c.listenPort := by
    cases c.listenPort with
    | none => rfl
    | some port => exact intOrNone_toString port
  have hmtus : intOrNone ((c.mtu.map toString).getD "") = .ok (c.mtu.map Int.ofNat) := by
    cases c.mtu with
    | none => rfl
    | some mtu => exact intOrNone_toString (mtu : ℤ)
  have hslash : '/' ∈ (c.address ++ "/" ++ toString net.prefixlen.val).toList := by
    rw [String.toList_append, String.toList_append]
    exact List.mem_append_left _ (List.mem_append_right _ (by decide))
  rw [parseConfigIni, hchars, hsearch]
  simp only [List.headD_cons, hkv, hkey, haddress, hport, hdns, hmtu, hports, hmtus,
    (address_roundTrip hx net.prefixlen.val).2, if_pos hslash]
  have hfilter : (c.peers.map (some ∘ peerNormalForm)).filterMap (fun p => p) =
      c.peers.map peerNormalForm := by
    simp [List.filterMap_map, Function.comp_def]
  rw [← hchars, hpeers]
  change Except.ok (some _) = Except.ok (some _)
  rw [parsed_dnsServers h, hfilter]
  rfl

end RoundTrip

/-- A configuration with two peers, one of them behind an IPv6 endpoint without a port. -/
def officeConfig : WireGuardConfig where
  privateKey := "cHJpdmF0ZQ=="
  address := "10.5.0.2"
  subnet := "10.5.0.0/24"
  dnsServers := some ["10.5.0.1", "1.1.1.1"]
  mtu := some 1420
  peers := [
    { publicKey := "aHVi=", allowedIps := ["10.5.0.0/24", "0.0.0.0/0"], endpoint := some "2001:db8::1",
      persistentKeepalive := some 25 },
    { publicKey := "cGVlcg==", allowedIps := ["10.5.0.3/32"], endpointPort := some 51821 }]

theorem parseConfigIni_toIni_office : ∃ net text, IPv4Network.parse officeConfig.subnet = some net ∧
    officeConfig.toIni = .ok text ∧ parseConfigIni (fun _ => false) text =
      .ok (some (normalForm officeConfig net.prefixlen.val)) := by
  have htext : ∀ s ∈ ["cHJpdmF0ZQ==", "aHVi=", "cGVlcg==", "2001:db8::1"], PlainText s := by
    intro s hs
    have hall : ∀ s ∈ ["cHJpdmF0ZQ==", "aHVi=", "cGVlcg==", "2001:db8::1"],
        (s ≠ "" ∧ '\n' ∉ s.toList) ∧ '[' ∉ s.toList ∧ strip s = s := by decide
    exact ⟨(hall s hs).1.1, (hall s hs).1.2, (hall s hs).2.1, (hall s hs).2.2⟩
  have hitem : ∀ s ∈ ["10.5.0.1", "1.1.1.1", "10.5.0.0/24", "0.0.0.0/0", "10.5.0.3/32"],
      PlainItem s := by
    intro s hs
    have hall : ∀ s ∈ ["10.5.0.1", "1.1.1.1", "10.5.0.0/24", "0.0.0.0/0", "10.5.0.3/32"],
        (s ≠ "" ∧ '[' ∉ s.toList) ∧ ',' ∉ s.toList ∧ s.toList.Forall (isPySpace · = false) := by
      decide
    exact ⟨(hall s hs).1.1, (hall s hs).1.2, (hall s hs).2.1,
      List.forall_iff_forall_mem.1 (hall s hs).2.2⟩
  refine parseConfigIni_toIni
    { privateKey := htext _ (by decide)
      address := Option.isSome_iff_exists.1 (by decide)
      subnet := Option.isSome_iff_exists.1 (by decide)
      listenPort := fun _ h => by cases h
      dnsServers := ?_
      mtu := ?_
      peers := ?_ }
  · rintro _ ⟨⟩ s hs
    have hsub : ∀ s ∈ ["10.5.0.1", "1.1.1.1"], s ∈ ["10.5.0.1", "1.1.1.1", "10.5.0.0/24",
        "0.0.0.0/0", "10.5.0.3/32"] := by decide
    exact hitem s (hsub s hs)
  · rintro _ ⟨⟩
    decide
  · intro p hp
    simp only [officeConfig, List.mem_cons, List.not_mem_nil, or_false] at hp
    rcases hp with rfl | rfl
    · refine ⟨htext _ (by decide), ?_, (fun _ h => by cases h), fun s hs => hitem s ?_⟩
      · rintro _ ⟨⟩
        exact htext _ (by decide)
      · have hsub : ∀ s ∈ ["10.5.0.0/24", "0.0.0.0/0"], s ∈ ["10.5.0.1", "1.1.1.1", "10.5.0.0/24",
            "0.0.0.0/0", "10.5.0.3/32"] := by decide
        exact hsub s hs
    · refine ⟨htext _ (by decide), (fun _ h => by cases h), ?_, fun s hs => hitem s ?_⟩
      · rintro _ ⟨⟩
        decide
      · rw [List.mem_singleton.1 hs]
        decide


end Daemon

end Midscale
