import Midscale.Daemon.Runtime
import Midscale.Data.Regex

/-!
# The INI text of a configuration

`_parse_config_ini` of the daemon cuts the text of a configuration into sections, and the sections
into keys and values, with regular expressions.  Which characters beyond ASCII are alphanumeric is a
parameter, since `\w` in the pattern of a key depends on it.

* `parseConfigIni` : the parser.
* `findAll_lines` : what the pattern of keys and values finds in the lines of a section.
* `search_iniText`, `findAll_iniText` : **the parser cuts a text of sections into the keys and
  values of each.**
-/

namespace Midscale

namespace Daemon

open Regex (First Match)

/-- `DesiredConfig` as `_parse_config_ini` fills it. -/
structure IniConfig extends TypedConfig where
  dnsServers : Option (List String) := none
  mtu : Option ℤ := none
  deriving DecidableEq, Repr

section Parser

variable (alnum : Char → Bool)

/-- `\w`. -/
def isWord (c : Char) : Bool :=
  if c.toNat < 128 then c.isAlphanum || c = '_' else alnum c

/-- `[Interface]`. -/
def interfaceHeader : List Char := ['[', 'I', 'n', 't', 'e', 'r', 'f', 'a', 'c', 'e', ']']

/-- `[Peer]`. -/
def peerHeader : List Char := ['[', 'P', 'e', 'e', 'r', ']']

/-- The interface section: up to the first peer or the end. -/
def interfacePattern : Regex :=
  .seq (.lit interfaceHeader) (.seq (.group (.manyLazy fun _ => true))
    (.ahead (.alt (.lit peerHeader) .textEnd)))

/-- `_INI_PEER_BLOCK`. -/
def peerBlockPattern : Regex :=
  .seq (.lit peerHeader) (.seq (.manyLazy fun _ => true)
    (.ahead (.alt (.lit ['[']) .textEnd)))

/-- `_INI_KEY_VALUE`. -/
def keyValuePattern : Regex :=
  .seq .lineStart (.seq (.group (.some1 (isWord alnum))) (.seq (.many isPySpace)
    (.seq (.lit ['=']) (.seq (.many isPySpace) (.seq (.group (.many (· ≠ '\n'))) .lineEnd)))))

/-- The tuple of the two groups of a match. -/
def pairOf (m : Match) : String × String :=
  (String.ofList (m.2.headD []), String.ofList ((m.2.drop 1).headD []))

/-- `dict(_INI_KEY_VALUE.findall(text))`. -/
def keyValues (text : List Char) : Dict String String :=
  Dict.ofRows Prod.fst Prod.snd ((Regex.findAll (keyValuePattern alnum) text).map pairOf)

/-- `int(raw) if raw else None`. -/
def intOrNone (raw : String) : Except String (Option ℤ) :=
  if raw = "" then .ok none
  else match parseInt raw with
    | some n => .ok (some n)
    | none => .error "ValueError"

/-- `[s.strip() for s in raw.split(",") if s.strip()]`. -/
def splitItems (raw : String) : List String := ((splitText ',' raw).map strip).filter (· ≠ "")

/-- `text.rsplit(":", 1)` for a text with a colon. -/
def rsplitColon (text : String) : String × String :=
  let after := (text.toList.reverse.takeWhile (· ≠ ':')).reverse
  (String.ofList (text.toList.take (text.toList.length - after.length - 1)), String.ofList after)

/-- The endpoint and its port, the port being 51820 when it is no number. -/
def parseEndpoint (raw : String) : Option String × Option ℤ :=
  if raw = "" then (none, none)
  else if ':' ∈ raw.toList then
    (some (rsplitColon raw).1, some ((parseInt (rsplitColon raw).2).getD 51820))
  else (some raw, none)

/-- One turn of the loop over the peer blocks; a block without a public key is skipped. -/
def parseIniPeer (pkv : Dict String String) : Except String (Option TypedPeer) :=
  let publicKey := pkv.getD "PublicKey" ""
  if publicKey = "" then .ok none
  else do
    let persistentKeepalive ← intOrNone (pkv.getD "PersistentKeepalive" "")
    let endpoint := parseEndpoint (pkv.getD "Endpoint" "")
    .ok (some
      { publicKey := publicKey
        allowedIps := splitItems (pkv.getD "AllowedIPs" "")
        endpoint := endpoint.1
        endpointPort := endpoint.2
        persistentKeepalive := persistentKeepalive })

/-- `_parse_config_ini`: `none` when there is no interface section, an error when an `int` raises. -/
def parseConfigIni (ini : String) : Except String (Option IniConfig) :=
  match Regex.search interfacePattern ini.toList with
  | none => .ok none
  | some interfaceMatch => do
    let kv := keyValues alnum (interfaceMatch.2.headD [])
    let addressRaw := kv.getD "Address" ""
    let dnsRaw := kv.getD "DNS" ""
    let peers ← ((Regex.findAll peerBlockPattern ini.toList).mapM fun block =>
      parseIniPeer (keyValues alnum block.1))
    let listenPort ← intOrNone (kv.getD "ListenPort" "")
    let mtu ← intOrNone (kv.getD "MTU" "")
    .ok (some
      { privateKey := kv.getD "PrivateKey" ""
        address := (splitText '/' addressRaw).headD ""
        subnet := if '/' ∈ addressRaw.toList then
          "0.0.0.0/" ++ (splitText '/' addressRaw).getD 1 "" else ""
        listenPort := listenPort
        dnsServers := if dnsRaw = "" then none else some (splitItems dnsRaw)
        peers := peers.filterMap fun p => p
        mtu := mtu })

end Parser

example : parseConfigIni (fun _ => false)
    "[Interface]\nPrivateKey = k\nAddress = 10.0.0.2/24\n\n[Peer]\nPublicKey = p\nEndpoint = h:1\n" =
    .ok (some { privateKey := "k", address := "10.0.0.2", subnet := "0.0.0.0/24",
                peers := [{ publicKey := "p", endpoint := some "h", endpointPort := some 1 }] }) := by
  decide +kernel

/-! ### Keys and values -/

section Lines

variable {alnum : Char → Bool}

/-- The characters of a line with a key and a value. -/
def entryChars (e : String × String) : List Char :=
  e.1.toList ++ ' ' :: '=' :: ' ' :: e.2.toList

/-- The match of such a line. -/
def entryMatch (e : String × String) : Match := (entryChars e, [e.1.toList, e.2.toList])

/-- The characters of a value: at least one, on one line, without a bracket, the first no space. -/
structure PlainValue (cs : List Char) : Prop where
  ne : cs ≠ []
  newline : '\n' ∉ cs
  bracket : '[' ∉ cs
  head : ∀ c, cs.head? = some c → isPySpace c = false

/-- A key of word characters with a value that fits its line. -/
structure PlainEntry (alnum : Char → Bool) (e : String × String) : Prop where
  key_ne : e.1 ≠ ""
  key_word : ∀ c ∈ e.1.toList, isWord alnum c = true
  value : PlainValue e.2.toList

theorem isWord_space : isWord alnum ' ' = false := by simp [isWord]

theorem isWord_newline : isWord alnum '\n' = false := by simp [isWord]

theorem isWord_bracket : isWord alnum '[' = false := by simp [isWord]

/-- A key and a value are found at the start of their line: the pattern is read part by part, each
as far as it goes. -/
theorem first_keyValue {e : String × String} (he : PlainEntry alnum e) {prev : Option Char}
    (hprev : prev = none ∨ prev = some '\n') {rest : List Char}
    (hrest : rest = [] ∨ rest.head? = some '\n') :
    First (keyValuePattern alnum) prev (entryChars e ++ rest) (entryMatch e) := by
  have hk : e.1.toList ≠ [] := fun h => he.key_ne (String.toList_eq_nil_iff.1 h)
  have hv := he.value.ne
  have hword := he.key_word
  have hhead := he.value.head
  have hline : ∀ c ∈ e.2.toList, decide (c ≠ '\n') = true := fun c hc =>
    decide_eq_true fun hnl => he.value.newline (hnl ▸ hc)
  unfold entryMatch entryChars
  generalize e.1.toList = ks at hk hword ⊢
  generalize e.2.toList = vs at hv hhead hline ⊢
  have hspace : ∀ c ∈ [' '], isPySpace c = true := List.all_eq_true.1 (by decide)
  have hstop : ∀ c, rest.head? = some c → decide (c ≠ '\n') = false := by
    intro c hc
    rcases hrest with rfl | hrest
    · cases hc
    · rw [hrest] at hc
      cases hc
      rfl
  have hend : First .lineEnd (Regex.lastOf (some ' ') vs) rest ([], []) :=
    First.lineEnd hrest
  have hvalue := First.seq _ (First.group (First.many hline hstop)) hend
  have hvalueSpace := First.seq (some '=') (First.many hspace fun c hc => by
    rw [List.head?_append_of_ne_nil _ hv] at hc
    exact hhead c hc) hvalue
  have hequals := First.seq (some ' ') (First.lit ['='] _) hvalueSpace
  have hkeySpace := First.seq (Regex.lastOf prev ks) (First.many hspace fun c hc => by
    cases hc
    rfl) hequals
  have hkey := First.seq prev (First.group (First.some1 hk hword fun c hc => by
    cases hc
    exact isWord_space)) hkeySpace
  have hstart : ∀ text, First .lineStart prev ([] ++ text) ([], []) := First.lineStart hprev
  have hall := First.seq prev (hstart _) hkey
  rw [List.append_nil, List.append_nil] at hall
  rw [List.append_assoc]
  exact hall

theorem ways_keyValue_of_not_word {prev : Option Char} {c : Char} {cs : List Char}
    (hc : isWord alnum c = false) : (keyValuePattern alnum).ways prev (c :: cs) = [] := by
  rw [keyValuePattern, Regex.ways_lineStart_seq]
  split_ifs
  · exact Regex.ways_seq_of_nil (by simp [Regex.ways_group, Regex.some1, Regex.ways_seq,
      Regex.ways_one, hc])
  · rfl

theorem ways_keyValue_nil {prev : Option Char} : (keyValuePattern alnum).ways prev [] = [] := by
  rw [keyValuePattern, Regex.ways_lineStart_seq]
  split_ifs
  · exact Regex.ways_seq_of_nil rfl
  · rfl

theorem ways_keyValue_of_ne_newline {c : Char} {rest : List Char} (hc : c ≠ '\n') :
    (keyValuePattern alnum).ways (some c) rest = [] := by
  rw [keyValuePattern, Regex.ways_lineStart_seq, if_neg (by simpa using hc)]

/-- The matches found in a line, which may be the last one. -/
def Reads (alnum : Char → Bool) (line : List Char) (ms : List Match) : Prop :=
  ∀ (prev : Option Char) (rest : List Char), prev = none ∨ prev = some '\n' →
    rest = [] ∨ rest.head? = some '\n' →
    Regex.findAllFrom (keyValuePattern alnum) prev 0 (line ++ rest) =
      ms ++ Regex.findAllFrom (keyValuePattern alnum) (Regex.lastOf prev line) 0 rest

theorem reads_entry {e : String × String} (he : PlainEntry alnum e) :
    Reads alnum (entryChars e) [entryMatch e] := fun _ _ hprev hrest =>
  Regex.findAll_of_first (by simp [entryChars]) (first_keyValue he hprev hrest)

theorem reads_nil : Reads alnum [] [] := fun _ _ _ _ => rfl

theorem reads_header : Reads alnum peerHeader [] := fun prev rest _ _ => by
  refine Regex.findAll_append_of_ways fun a c b heq => ?_
  cases a with
  | nil =>
    cases heq
    exact ways_keyValue_of_not_word isWord_bracket
  | cons d a =>
    have hmem : ∀ x ∈ d :: a, x ≠ '\n' := by
      intro x hx hnl
      have hx' : x ∈ peerHeader := heq ▸ List.mem_append_left _ hx
      rw [hnl] at hx'
      exact absurd hx' (by decide)
    obtain ⟨x, hx⟩ : ∃ x, (d :: a).getLast? = some x := ⟨_, List.getLast?_cons⟩
    rw [Regex.lastOf, hx]
    exact ways_keyValue_of_ne_newline (hmem x (List.mem_of_getLast? hx))

theorem findAll_newlines (prev : Option Char) (n : ℕ) :
    Regex.findAllFrom (keyValuePattern alnum) prev 0 (List.replicate n '\n') = [] := by
  induction n generalizing prev with
  | zero => simp [Regex.findAllFrom, ways_keyValue_nil]
  | succ n ih => simp [List.replicate_succ, Regex.findAllFrom,
      ways_keyValue_of_not_word isWord_newline, ih]

/-- **The keys and values of a section** are those of its lines. -/
theorem findAll_lines {lines : List (List Char × List Match)} (h : ∀ l ∈ lines, Reads alnum l.1 l.2)
    (n : ℕ) {prev : Option Char} (hprev : prev = none ∨ prev = some '\n') :
    Regex.findAllFrom (keyValuePattern alnum) prev 0
      (['\n'].intercalate (lines.map Prod.fst) ++ List.replicate n '\n') =
        lines.flatMap Prod.snd := by
  induction lines generalizing prev with
  | nil => exact findAll_newlines prev n
  | cons l ls ih =>
    have hl := h l List.mem_cons_self
    cases ls with
    | nil =>
      have hrest : List.replicate n '\n' = [] ∨ (List.replicate n '\n').head? = some '\n' := by
        cases n
        · exact .inl rfl
        · exact .inr rfl
      rw [List.map_singleton, List.intercalate_singleton, hl prev _ hprev hrest, findAll_newlines]
      simp
    | cons l' ls =>
      rw [List.map_cons, List.map_cons, List.intercalate_cons_cons, List.append_assoc,
        List.append_assoc, hl prev _ hprev (.inr rfl), List.flatMap_cons]
      congr 1
      rw [List.singleton_append, Regex.findAllFrom, ways_keyValue_of_not_word isWord_newline]
      exact ih (fun l hl => h l (List.mem_cons_of_mem _ hl)) (.inr rfl)

end Lines

/-! ### Sections -/

/-- The lookahead of a section: a text that starts with a bracket, or the end. -/
def sectionEnd (cs : List Char) : Regex := .ahead (.alt (.lit ('[' :: cs)) .textEnd)

theorem first_sectionEnd_lit {prev : Option Char} (cs rest : List Char) :
    First (sectionEnd cs) prev ('[' :: cs ++ rest) ([], []) := by
  have hlit : First (.lit ('[' :: cs)) prev ('[' :: cs ++ rest) ('[' :: cs, []) := First.lit _ rest
  unfold First at hlit ⊢
  rw [sectionEnd, Regex.ways_ahead, Regex.ways_alt, List.head?_append, hlit]
  rfl

theorem first_sectionEnd_newline {prev : Option Char} (cs : List Char) :
    First (sectionEnd cs) prev ['\n'] ([], []) := by
  unfold First
  rw [sectionEnd, Regex.ways_ahead, Regex.ways_alt, Regex.ways_lit_of_ne (by decide)]
  rfl

theorem ways_sectionEnd {prev : Option Char} {cs : List Char} {c : Char} {rest : List Char}
    (hc : c ≠ '[') (hrest : rest ≠ []) : (sectionEnd cs).ways prev (c :: rest) = [] := by
  rw [sectionEnd, Regex.ways_ahead, Regex.ways_alt, Regex.ways_lit_of_ne hc, Regex.ways_textEnd]
  simp [hrest]

theorem ways_sectionEnd_inside {cs sec tail : List Char} (hsec : '[' ∉ sec) (htail : tail ≠ [])
    (prev : Option Char) (a : List Char) (c : Char) (b : List Char) (heq : sec = a ++ c :: b) :
    (sectionEnd cs).ways prev (c :: b ++ tail) = [] := by
  refine ways_sectionEnd ?_ (by simp [htail])
  rintro rfl
  exact hsec (by simp [heq])

theorem search_interfacePattern {sec tail : List Char} (hsec : '[' ∉ sec)
    (htail : tail = ['\n'] ∨ ∃ rest, tail = peerHeader ++ rest) :
    ∃ text, Regex.search interfacePattern (interfaceHeader ++ (sec ++ tail)) =
      some (text, [sec]) := by
  have hne : tail ≠ [] := by rintro rfl; rcases htail with h | ⟨rest, h⟩ <;> cases h
  have hend : ∀ prev, First (sectionEnd peerHeader.tail) prev tail ([], []) := by
    intro prev
    rcases htail with rfl | ⟨rest, rfl⟩
    · exact first_sectionEnd_newline _
    · exact first_sectionEnd_lit _ rest
  have hsection : First (.seq (.group (.manyLazy fun _ => true)) (sectionEnd peerHeader.tail))
      (Regex.lastOf none interfaceHeader) (sec ++ tail) (sec ++ [], [sec]) :=
    First.group_manyLazy_seq (fun _ _ => rfl)
      (fun a c b heq => ways_sectionEnd_inside hsec hne _ a c b heq) (hend _)
  have hall := First.seq none (First.lit interfaceHeader (sec ++ tail)) hsection
  rw [List.append_nil] at hall
  refine ⟨interfaceHeader ++ sec, ?_⟩
  rw [← List.append_assoc] at hall ⊢
  rw [Regex.search, Regex.findAll]
  exact congrArg List.head? (Regex.findAll_of_first (List.cons_ne_nil _ _) hall)

theorem peerHeader_append_ne_nil (cs : List Char) : peerHeader ++ cs ≠ [] := List.cons_ne_nil _ _

theorem first_peerBlock {sec tail : List Char} (hsec : '[' ∉ sec)
    (htail : tail = ['\n'] ∨ ∃ rest, tail = '[' :: rest) (prev : Option Char) :
    First peerBlockPattern prev ((peerHeader ++ sec) ++ tail) (peerHeader ++ sec, []) := by
  have hne : tail ≠ [] := by rintro rfl; rcases htail with h | ⟨rest, h⟩ <;> cases h
  have hend : ∀ prev, First (sectionEnd []) prev tail ([], []) := by
    intro prev
    rcases htail with rfl | ⟨rest, rfl⟩
    · exact first_sectionEnd_newline _
    · exact first_sectionEnd_lit _ rest
  have hsection : First (.seq (.manyLazy fun _ => true) (sectionEnd []))
      (Regex.lastOf prev peerHeader) (sec ++ tail) (sec ++ [], []) :=
    First.manyLazy_seq (fun _ _ => rfl)
      (fun a c b heq => ways_sectionEnd_inside hsec hne _ a c b heq) (hend _)
  have hall := First.seq prev (First.lit peerHeader (sec ++ tail)) hsection
  rw [List.append_nil] at hall
  rw [List.append_assoc]
  exact hall

theorem ways_peerBlock_of_ne {prev : Option Char} {c : Char} {rest : List Char}
    (h : c ≠ '[' ∨ ∃ d ds, rest = d :: ds ∧ d ≠ 'P') :
    peerBlockPattern.ways prev (c :: rest) = [] := by
  refine Regex.ways_seq_of_nil ?_
  by_cases hc : c = '['
  · obtain ⟨d, ds, rfl, hd⟩ := h.resolve_left (fun hne => hne hc)
    subst hc
    exact Regex.ways_one_seq (Regex.ways_lit_of_ne hd)
  · exact Regex.ways_lit_of_ne hc

/-- Lines with keys and values, each after a newline. -/
def entriesText (es : List (String × String)) : List Char := es.flatMap fun e => '\n' :: entryChars e

/-- The peer blocks of a text, the last one without the blank line that follows it. -/
def blocksText : List (List (String × String)) → List Char
  | [] => []
  | [es] => peerHeader ++ entriesText es ++ ['\n']
  | es :: es' :: ess => peerHeader ++ entriesText es ++ '\n' :: '\n' :: blocksText (es' :: ess)

/-- What separates the interface section from the peer blocks. -/
def gap (blocks : List (List (String × String))) : List Char :=
  if blocks = [] then ['\n'] else ['\n', '\n']

/-- The text of a configuration from its entries. -/
def iniText (entries : List (String × String)) (blocks : List (List (String × String))) :
    List Char :=
  interfaceHeader ++ (entriesText entries ++ (gap blocks ++ blocksText blocks))

section Entries

variable {alnum : Char → Bool} {es : List (String × String)}

theorem intercalate_newline (l : List Char) (ls : List (List Char)) :
    ['\n'].intercalate (l :: ls) = l ++ ls.flatMap ('\n' :: ·) := by
  induction ls generalizing l with
  | nil => simp
  | cons l' ls ih =>
    rw [List.intercalate_cons_cons, ih, List.flatMap_cons]
    simp

theorem keyValues_section {header : List Char} (hheader : Reads alnum header [])
    (hes : ∀ e ∈ es, PlainEntry alnum e) (n : ℕ) :
    keyValues alnum (header ++ entriesText es ++ List.replicate n '\n') =
      Dict.ofRows Prod.fst Prod.snd es := by
  have hreads : ∀ l ∈ (header, []) :: es.map fun e => (entryChars e, [entryMatch e]),
      Reads alnum l.1 l.2 := by
    intro l hl
    rcases List.mem_cons.1 hl with rfl | hl
    · exact hheader
    · obtain ⟨e, he, rfl⟩ := List.mem_map.1 hl
      exact reads_entry (hes e he)
  have hlines := findAll_lines hreads n (.inl rfl)
  rw [List.map_cons, List.map_map, intercalate_newline, List.flatMap_map] at hlines
  simp only [Function.comp_apply] at hlines
  have hpair : ∀ e : String × String, pairOf (entryMatch e) = e := fun e => by
    simp [pairOf, entryMatch]
  rw [keyValues, Regex.findAll, entriesText, hlines]
  simp [List.flatMap_map, List.map_flatMap, hpair]

theorem bracket_notMem_entriesText (hes : ∀ e ∈ es, PlainEntry alnum e) :
    '[' ∉ entriesText es := by
  intro hmem
  obtain ⟨e, he, hmem⟩ := List.mem_flatMap.1 hmem
  have hkey : '[' ∉ e.1.toList := fun hk => by
    have := (hes e he).key_word _ hk
    rw [isWord_bracket] at this
    cases this
  simp [entryChars, hkey, (hes e he).value.bracket] at hmem

/-- **The peer blocks that are found** are those that were written, each with its own entries. -/
theorem findAll_blocksText {blocks : List (List (String × String))}
    (h : ∀ es ∈ blocks, ∀ e ∈ es, PlainEntry alnum e) (prev : Option Char) :
    (Regex.findAllFrom peerBlockPattern prev 0 (blocksText blocks)).map (keyValues alnum ·.1) =
      blocks.map (Dict.ofRows Prod.fst Prod.snd) := by
  have hnewline : ∀ prev, peerBlockPattern.ways prev ['\n'] = [] := fun prev =>
    ways_peerBlock_of_ne (.inl (by decide))
  have hempty : ∀ prev, peerBlockPattern.ways prev [] = [] := fun prev =>
    Regex.ways_seq_of_nil Regex.ways_lit_nil
  induction blocks generalizing prev with
  | nil => simp [blocksText, Regex.findAllFrom, hempty]
  | cons es ess ih =>
    have hes := h es List.mem_cons_self
    have hbracket := bracket_notMem_entriesText hes
    cases ess with
    | nil =>
      have hkv := keyValues_section reads_header hes 0
      rw [List.replicate_zero, List.append_nil] at hkv
      rw [blocksText, Regex.findAll_of_first (peerHeader_append_ne_nil _)
        (first_peerBlock hbracket (.inl rfl) prev), List.map_cons, hkv]
      simp [Regex.findAllFrom, hnewline, hempty]
    | cons es' ess =>
      have hkv := keyValues_section reads_header hes 2
      have hnext : ∃ rest, blocksText (es' :: ess) = '[' :: rest := by
        cases ess <;> exact ⟨_, rfl⟩
      have hsec : '[' ∉ entriesText es ++ ['\n', '\n'] := by simpa using hbracket
      have hfirst := first_peerBlock hsec (.inr hnext) prev
      have hrest := ih (fun es hes => h es (List.mem_cons_of_mem _ hes))
        (Regex.lastOf prev (peerHeader ++ (entriesText es ++ ['\n', '\n'])))
      have htext : blocksText (es :: es' :: ess) =
          (peerHeader ++ (entriesText es ++ ['\n', '\n'])) ++ blocksText (es' :: ess) := by
        simp [blocksText]
      rw [htext, Regex.findAll_of_first (peerHeader_append_ne_nil _) hfirst, List.map_cons, hrest]
      rw [List.append_assoc] at hkv
      exact congrArg (· :: _) hkv

/-- What the parser cuts out of the text of a configuration. -/
theorem search_iniText (blocks : List (List (String × String)))
    (hes : ∀ e ∈ es, PlainEntry alnum e) :
    ∃ text sec, Regex.search interfacePattern (iniText es blocks) = some (text, [sec]) ∧
      keyValues alnum sec = Dict.ofRows Prod.fst Prod.snd es := by
  have hbracket := bracket_notMem_entriesText hes
  cases blocks with
  | nil =>
    have htext : iniText es [] = interfaceHeader ++ (entriesText es ++ ['\n']) := rfl
    obtain ⟨text, hsearch⟩ := search_interfacePattern hbracket (.inl (Eq.refl ['\n']))
    have hkv := keyValues_section reads_nil hes 0
    rw [List.replicate_zero, List.append_nil, List.nil_append] at hkv
    rw [htext]
    exact ⟨text, entriesText es, hsearch, hkv⟩
  | cons b bs =>
    have hpeer : ∃ rest, blocksText (b :: bs) = peerHeader ++ rest := by
      cases bs with
      | nil => exact ⟨_, List.append_assoc _ _ _⟩
      | cons b' bs => exact ⟨_, List.append_assoc _ _ _⟩
    have htext : iniText es (b :: bs) =
        interfaceHeader ++ ((entriesText es ++ ['\n', '\n']) ++ blocksText (b :: bs)) := by
      rw [iniText, gap, if_neg (List.cons_ne_nil _ _), List.append_assoc (entriesText es)]
    have hsec : '[' ∉ entriesText es ++ ['\n', '\n'] := by simpa using hbracket
    obtain ⟨text, hsearch⟩ := search_interfacePattern hsec (.inr hpeer)
    have hkv := keyValues_section reads_nil hes 2
    rw [List.nil_append] at hkv
    rw [htext]
    exact ⟨text, entriesText es ++ ['\n', '\n'], hsearch, hkv⟩

theorem findAll_iniText {blocks : List (List (String × String))}
    (hes : ∀ e ∈ es, PlainEntry alnum e) (h : ∀ es ∈ blocks, ∀ e ∈ es, PlainEntry alnum e) :
    (Regex.findAll peerBlockPattern (iniText es blocks)).map (keyValues alnum ·.1) =
      blocks.map (Dict.ofRows Prod.fst Prod.snd) := by
  have hbracket := bracket_notMem_entriesText hes
  have hgap : ∀ c ∈ gap blocks, c = '\n' := by
    unfold gap
    split_ifs <;> simp
  have htext : iniText es blocks =
      ('[' :: (interfaceHeader.tail ++ (entriesText es ++ gap blocks))) ++ blocksText blocks := by
    rw [iniText, List.cons_append, List.append_assoc, List.append_assoc]
    rfl
  have hskip : ∀ a c b, '[' :: (interfaceHeader.tail ++ (entriesText es ++ gap blocks)) = a ++ c :: b →
      peerBlockPattern.ways (Regex.lastOf none a) (c :: b ++ blocksText blocks) = [] := by
    intro a c b heq
    cases a with
    | nil =>
      obtain ⟨hc, hb⟩ := List.cons.inj heq
      subst hc
      rw [← hb]
      exact ways_peerBlock_of_ne (.inr ⟨'I', _, rfl, by decide⟩)
    | cons d a =>
      have hmem : c ∈ interfaceHeader.tail ++ (entriesText es ++ gap blocks) := by
        rw [(List.cons.inj heq).2]
        exact List.mem_append_right _ List.mem_cons_self
      refine ways_peerBlock_of_ne (.inl ?_)
      rintro rfl
      rcases List.mem_append.1 hmem with hmem | hmem
      · exact absurd hmem (by decide)
      · rcases List.mem_append.1 hmem with hmem | hmem
        · exact hbracket hmem
        · exact absurd (hgap _ hmem) (by decide)
  rw [htext, Regex.findAll, Regex.findAll_append_of_ways hskip]
  exact findAll_blocksText h _

end Entries

end Daemon

end Midscale
