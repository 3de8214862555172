import Midscale.Database.Schema
import Midscale.Data.Text
import Midscale.Net.IPv4

/-!
# DNS records of a network

The zones that `dns_records.py` builds from a network, its devices and its DNS entries: the forward
zone with the addresses of the names, and the reverse zone with the names of the addresses.
-/

namespace Midscale

/-- The part of `Settings` that DNS uses.  The domain is made of the characters of a domain name. -/
structure DnsSettings where
  enabled : Bool := false
  domain : String := "wg.midscale"
  defaultTtl : ℤ := 300
  domain_plain : (domain.toList.all fun c => c.isAlphanum ∨ c ∈ ['-', '_', '.']) = true := by decide

namespace Dns

/-- `DNSRecord`. -/
structure DNSRecord where
  name : String
  recordType : String
  value : String
  ttl : ℤ := 300
  deriving DecidableEq, Repr

/-- `ZoneData`. -/
structure ZoneData where
  origin : String
  records : List DNSRecord
  serial : ℕ
  ttl : ℤ := 300
  adminEmail : String := "admin.wg.midscale"
  deriving DecidableEq, Repr

/-- What `ipaddress.IPv4Address(text)` raises. -/
structure AddressValueError where
  text : String
  deriving DecidableEq, Repr

/-! ### Names -/

/-- `name.lower()`.  Outside ASCII only the two characters whose lower case begins with a letter of
ASCII are lowered: any other becomes a character that `sanitizeDnsName` replaces all the same. -/
def lower (name : String) : List Char :=
  name.toList.flatMap fun c =>
    if c = '\u0130' then ['i', '\u0307'] else if c = '\u212a' then ['k'] else [c.toLower]

/-- One dash for each run of dashes. -/
def collapseDashes : List Char → List Char
  | [] => []
  | c :: cs =>
    if c = '-' ∧ cs.head? = some '-' then collapseDashes cs else c :: collapseDashes cs

/-- `sanitize_dns_name`. -/
def sanitizeDnsName (name : String) : String :=
  let clean := (lower name).map fun c => if c.isAlphanum ∨ c = '-' then c else '-'
  let clean := stripChars (· = '-') (collapseDashes clean)
  if clean = [] then "unnamed" else String.ofList clean

/-- `str(octets[i])` for octet `i` of an address, counted from the most significant one. -/
def octetStr (x : IPv4Address) (i : ℕ) : String :=
  String.ofList (IPv4Address.octetText (x.octet (3 - i)))

/-- `_reverse_zone_origin`. -/
def reverseZoneOrigin (subnet : String) : Option String :=
  (IPv4Network.parse subnet).bind fun net =>
    let o := octetStr net.networkAddress
    if net.prefixlen.val < 8 then none
    else if 24 ≤ net.prefixlen.val then
      some (o 2 ++ "." ++ o 1 ++ "." ++ o 0 ++ ".in-addr.arpa")
    else if 16 ≤ net.prefixlen.val then some (o 1 ++ "." ++ o 0 ++ ".in-addr.arpa")
    else some (o 0 ++ ".in-addr.arpa")

/-- `_reverse_record_name`, on a subnet that has been read. -/
def reverseRecordName (ip : String) (net : IPv4Network) : Except AddressValueError String :=
  match IPv4Address.parse ip with
  | none => .error ⟨ip⟩
  | some x =>
    let o := octetStr x
    if 24 ≤ net.prefixlen.val then .ok (o 3)
    else if 16 ≤ net.prefixlen.val then .ok (o 3 ++ "." ++ o 2)
    else if 8 ≤ net.prefixlen.val then .ok (o 3 ++ "." ++ o 2 ++ "." ++ o 1)
    else .ok ip

/-- The origin of the forward zone. -/
def forwardOrigin (settings : DnsSettings) (network : Network) : String :=
  sanitizeDnsName network.name ++ "." ++ settings.domain

/-! ### Zones -/

/-- The active devices with an address, which the loops over the devices go on with. -/
def addressed (devices : List Device) : List (Device × String) :=
  devices.filterMap fun d =>
    if d.isActive then (d.ipAddress.filter (· ≠ "")).map fun ip => (d, ip) else none

/-- `domain.rstrip(".")`. -/
def rstripDots (domain : List Char) : List Char := (domain.reverse.dropWhile (· = '.')).reverse

/-- The record of a DNS entry, if it lies in the zone. -/
def entryRecord (origin : String) (e : DNSEntry) : Option DNSRecord :=
  let domain := rstripDots e.domain.toList
  let inZone := ('.' :: origin.toList).isSuffixOf domain
  if inZone ∨ '.' ∉ domain then
    let label := if inZone then removeAll ('.' :: origin.toList) domain.length domain else domain
    some { name := if label = [] then "@" else String.ofList label,
           recordType := "A", value := e.address }
  else none

/-- The `A` record of a device. -/
def addressRecord (d : Device × String) : DNSRecord :=
  { name := sanitizeDnsName d.1.name, recordType := "A", value := d.2 }

@[simp] theorem addressRecord_name (d : Device × String) :
    (addressRecord d).name = sanitizeDnsName d.1.name := by rw [addressRecord]

@[simp] theorem addressRecord_type (d : Device × String) : (addressRecord d).recordType = "A" := by
  rw [addressRecord]

@[simp] theorem addressRecord_value (d : Device × String) : (addressRecord d).value = d.2 := by
  rw [addressRecord]

@[simp] theorem addressRecord_ttl (d : Device × String) : (addressRecord d).ttl = 300 := by
  rw [addressRecord]

/-- `build_network_zone`. -/
def buildNetworkZone (settings : DnsSettings) (serial : ℕ) (network : Network)
    (devices : List Device) (dnsEntries : List DNSEntry) : Option ZoneData :=
  let origin := forwardOrigin settings network
  let records := { name := "@", recordType := "NS", value := "ns1." ++ origin } ::
    ((addressed devices).map addressRecord ++ dnsEntries.filterMap (entryRecord origin))
  if records.filter (fun r => r.recordType ≠ "NS") = [] then none
  else some { origin, records, serial, ttl := settings.defaultTtl }

/-- The `PTR` record of a device. -/
def pointerRecord (forwardOrigin : String) (net : IPv4Network) (d : Device × String) :
    Except AddressValueError DNSRecord :=
  (reverseRecordName d.2 net).map fun name =>
    { name, recordType := "PTR", value := sanitizeDnsName d.1.name ++ "." ++ forwardOrigin }

/-- `build_reverse_zone`. -/
def buildReverseZone (settings : DnsSettings) (serial : ℕ) (network : Network)
    (devices : List Device) : Except AddressValueError (Option ZoneData) :=
  match IPv4Network.parse network.subnet, reverseZoneOrigin network.subnet with
  | some net, some origin => do
    let records ← (addressed devices).mapM (pointerRecord (forwardOrigin settings network) net)
    if records = [] then return none
    return some { origin, records, serial, ttl := settings.defaultTtl }
  | _, _ => .ok none

/-! ### Characters -/

/-- The characters of a sanitized name. -/
def isNameChar (c : Char) : Bool := c.isAlphanum ∨ c = '-'

theorem mem_collapseDashes {c : Char} {cs : List Char} (h : c ∈ collapseDashes cs) : c ∈ cs := by
  induction cs with
  | nil => exact h
  | cons d cs ih =>
    simp only [collapseDashes] at h
    split_ifs at h with hdash
    · exact List.mem_cons_of_mem _ (ih h)
    · rcases List.mem_cons.1 h with rfl | h
      · exact List.mem_cons_self
      · exact List.mem_cons_of_mem _ (ih h)

theorem isNameChar_of_mem_sanitize {name : String} {c : Char}
    (h : c ∈ (sanitizeDnsName name).toList) : isNameChar c = true := by
  simp only [sanitizeDnsName] at h
  split_ifs at h with hempty
  · have hall : "unnamed".toList.all isNameChar = true := by decide
    exact List.all_eq_true.1 hall c h
  · rw [String.toList_ofList] at h
    obtain ⟨d, -, rfl⟩ := List.mem_map.1 (mem_collapseDashes (stripChars_isInfix.subset h))
    split_ifs with hd
    · simpa [isNameChar] using hd
    · rfl

theorem sanitize_ne_nil (name : String) : (sanitizeDnsName name).toList ≠ [] := by
  simp only [sanitizeDnsName]
  split_ifs with hempty
  · decide
  · rwa [String.toList_ofList]

theorem sanitize_ne_at (name : String) : sanitizeDnsName name ≠ "@" := by
  intro hat
  have hmem : '@' ∈ (sanitizeDnsName name).toList := by
    rw [hat]
    decide
  exact absurd (isNameChar_of_mem_sanitize hmem) (by decide)

theorem mem_octetStr {x : IPv4Address} {i : ℕ} {c : Char} (h : c ∈ (octetStr x i).toList) :
    c.isDigit = true := by
  rw [octetStr, String.toList_ofList] at h
  exact isDigit_of_mem_toDigits h

theorem octetStr_ne_nil (x : IPv4Address) (i : ℕ) : (octetStr x i).toList ≠ [] := by
  rw [octetStr, String.toList_ofList]
  exact Nat.toDigits_ne_nil

/-! ### Loops that may raise -/

section

variable {α β ε : Type} {f : α → Except ε β} {l : List α} {rs : List β}

theorem mapM_eq_ok_iff :
    l.mapM f = .ok rs ↔ List.Forall₂ (fun a r => f a = .ok r) l rs := by
  induction l generalizing rs with
  | nil =>
    rw [List.forall₂_nil_left_iff]
    exact ⟨fun h => by cases h; rfl, fun h => h ▸ rfl⟩
  | cons a l ih =>
    rw [List.mapM_cons, List.forall₂_cons_left_iff]
    constructor
    · intro h
      cases ha : f a with
      | error e => rw [ha] at h; cases h
      | ok r =>
        cases hl : l.mapM f with
        | error e => rw [ha, hl] at h; cases h
        | ok rs' =>
          rw [ha, hl] at h
          cases h
          exact ⟨r, rs', rfl, ih.1 hl, rfl⟩
    · rintro ⟨r, rs', ha, hl, rfl⟩
      rw [ha, ih.2 hl]
      rfl

theorem exists_mapM_eq_ok_iff : (∃ rs, l.mapM f = .ok rs) ↔ ∀ a ∈ l, ∃ r, f a = .ok r := by
  induction l with
  | nil => simp [pure, Except.pure]
  | cons a l ih =>
    simp only [mapM_eq_ok_iff, List.forall₂_cons_left_iff] at ih ⊢
    rw [List.forall_mem_cons, ← ih]
    constructor
    · rintro ⟨-, r, rs, ha, hl, rfl⟩
      exact ⟨⟨r, ha⟩, rs, hl⟩
    · rintro ⟨⟨r, ha⟩, rs, hl⟩
      exact ⟨r :: rs, r, rs, ha, hl, rfl⟩

theorem mem_of_mapM_eq_ok (h : l.mapM f = .ok rs) {r : β} : r ∈ rs ↔ ∃ a ∈ l, f a = .ok r := by
  have hall := mapM_eq_ok_iff.1 h
  clear h
  induction hall with
  | nil => simp
  | cons ha _ ih => simp [ih, ha, eq_comm]

theorem ne_nil_of_mapM_eq_ok (h : l.mapM f = .ok rs) : rs = [] ↔ l = [] := by
  cases mapM_eq_ok_iff.1 h with
  | nil => simp
  | cons _ _ => simp

end

/-! ### The zones that are built -/

section

variable {settings : DnsSettings} {serial : ℕ} {network : Network} {devices : List Device}
  {dnsEntries : List DNSEntry} {zone : ZoneData} {d : Device × String} {origin : String}

theorem addressed_spec (h : d ∈ addressed devices) :
    d.1 ∈ devices ∧ d.1.isActive = true ∧ d.1.ipAddress = some d.2 ∧ d.2 ≠ "" := by
  obtain ⟨device, hdevice, hd⟩ := List.mem_filterMap.1 h
  split_ifs at hd with hactive
  obtain ⟨ip, hip, rfl⟩ := Option.map_eq_some_iff.1 hd
  obtain ⟨hip, hne⟩ := Option.filter_eq_some_iff.1 hip
  exact ⟨hdevice, hactive, hip, by simpa using hne⟩

theorem reverseZoneOrigin_isSome_iff {subnet : String} : (reverseZoneOrigin subnet).isSome ↔
    ∃ net, IPv4Network.parse subnet = some net ∧ 8 ≤ net.prefixlen.val := by
  cases hnet : IPv4Network.parse subnet with
  | none => simp [reverseZoneOrigin, hnet]
  | some net =>
    simp only [reverseZoneOrigin, hnet, Option.bind_some, Option.some.injEq, exists_eq_left']
    split_ifs with h8 h24 h16 <;> simp [Nat.not_lt.1, h8]

theorem reverseRecordName_eq_ok_iff {ip : String} {net : IPv4Network} :
    (∃ name, reverseRecordName ip net = .ok name) ↔ (IPv4Address.parse ip).isSome := by
  cases hip : IPv4Address.parse ip with
  | none => simp [reverseRecordName, hip]
  | some x =>
    simp only [reverseRecordName, hip, Option.isSome_some, iff_true]
    split_ifs
    all_goals exact ⟨_, rfl⟩

theorem pointerRecord_eq_ok_iff {net : IPv4Network} {r : DNSRecord} :
    pointerRecord origin net d = .ok r ↔ ∃ name, reverseRecordName d.2 net = .ok name ∧
      r = { name, recordType := "PTR", value := sanitizeDnsName d.1.name ++ "." ++ origin } := by
  cases hname : reverseRecordName d.2 net with
  | error e => simp [pointerRecord, hname, Except.map]
  | ok name => simp [pointerRecord, hname, Except.map, eq_comm]

theorem reverseRecordName_spec {ip name : String} {net : IPv4Network}
    (h8 : 8 ≤ net.prefixlen.val) (h : reverseRecordName ip net = .ok name) :
    name.toList ≠ [] ∧ ∀ c ∈ name.toList, c.isDigit = true ∨ c = '.' := by
  cases hip : IPv4Address.parse ip with
  | none => simp [reverseRecordName, hip] at h
  | some x =>
    simp only [reverseRecordName, hip] at h
    split_ifs at h with h24 h16
    all_goals
      cases h
      simp only [String.toList_append, List.mem_append, List.append_eq_nil_iff, octetStr_ne_nil,
        false_and, ne_eq, not_false_eq_true, true_and]
      intro c hc
      have hdot : c ∈ ".".toList → c = '.' := List.mem_singleton.1
      grind [mem_octetStr]

/-- **When a reverse zone is built**, and of what. -/
theorem buildReverseZone_eq_some_iff :
    buildReverseZone settings serial network devices = .ok (some zone) ↔
      ∃ net, IPv4Network.parse network.subnet = some net ∧
        reverseZoneOrigin network.subnet = some zone.origin ∧ zone.records ≠ [] ∧
        (addressed devices).mapM (pointerRecord (forwardOrigin settings network) net) =
          .ok zone.records ∧
        zone = { origin := zone.origin, records := zone.records, serial,
                 ttl := settings.defaultTtl } := by
  cases hnet : IPv4Network.parse network.subnet with
  | none => simp [buildReverseZone, hnet]
  | some net =>
    cases horigin : reverseZoneOrigin network.subnet with
    | none => simp [buildReverseZone, hnet, horigin]
    | some origin =>
      cases hrecords : (addressed devices).mapM
          (pointerRecord (forwardOrigin settings network) net) with
      | error e =>
        simp only [buildReverseZone, hnet, horigin, hrecords]
        constructor
        · intro h
          cases h
        · rintro ⟨net', hnet', -, -, hall, -⟩
          cases hnet'
          rw [hall] at hrecords
          cases hrecords
      | ok records =>
        have hbuild : buildReverseZone settings serial network devices =
            if records = [] then .ok none else
              .ok (some { origin, records, serial, ttl := settings.defaultTtl }) := by
          simp only [buildReverseZone, hnet, horigin, hrecords]
          rfl
        rw [hbuild]
        constructor
        · intro h
          split_ifs at h with hempty
          · cases h
          · cases h
            exact ⟨net, rfl, rfl, hempty, hrecords, rfl⟩
        · rintro ⟨net', hnet', horigin', hne, hall, hzone⟩
          cases hnet'
          rw [hall] at hrecords
          cases hrecords
          cases horigin'
          rw [if_neg hne, ← hzone]

/-- The inputs from which a reverse zone is built: the subnet has one, there is an active device
with an address, and all these addresses can be read. -/
def HasReverseZone (network : Network) (devices : List Device) : Prop :=
  (reverseZoneOrigin network.subnet).isSome ∧ addressed devices ≠ [] ∧
    ∀ d ∈ addressed devices, (IPv4Address.parse d.2).isSome

theorem exists_buildReverseZone_iff :
    (∃ zone, buildReverseZone settings serial network devices = .ok (some zone)) ↔
      HasReverseZone network devices := by
  constructor
  · rintro ⟨zone, h⟩
    obtain ⟨net, -, horigin, hne, hall, -⟩ := buildReverseZone_eq_some_iff.1 h
    refine ⟨by simp [horigin], mt (ne_nil_of_mapM_eq_ok hall).2 hne, fun d hd => ?_⟩
    obtain ⟨r, hr⟩ := exists_mapM_eq_ok_iff.1 ⟨_, hall⟩ d hd
    obtain ⟨name, hname, -⟩ := pointerRecord_eq_ok_iff.1 hr
    exact reverseRecordName_eq_ok_iff.1 ⟨name, hname⟩
  · rintro ⟨hsome, hne, hparse⟩
    obtain ⟨origin, horigin⟩ := Option.isSome_iff_exists.1 hsome
    obtain ⟨net, hnet, -⟩ := reverseZoneOrigin_isSome_iff.1 hsome
    obtain ⟨records, hrecords⟩ : ∃ records, (addressed devices).mapM
        (pointerRecord (forwardOrigin settings network) net) = .ok records := by
      refine exists_mapM_eq_ok_iff.2 fun d hd => ?_
      obtain ⟨name, hname⟩ := reverseRecordName_eq_ok_iff.2 (hparse d hd)
      exact ⟨_, pointerRecord_eq_ok_iff.2 ⟨name, hname, rfl⟩⟩
    exact ⟨{ origin, records, serial, ttl := settings.defaultTtl }, buildReverseZone_eq_some_iff.2
      ⟨net, hnet, horigin, mt (ne_nil_of_mapM_eq_ok hrecords).1 hne, hrecords, rfl⟩⟩

end

end Dns

end Midscale
