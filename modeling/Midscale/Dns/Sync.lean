import Midscale.Data.Overwrites
import Midscale.Dns.Agreement

/-!
# The DNS pass

`_sync_dns` writes or removes the zone files of one network after another.  The file names come from
names and subnets that lose something on the way, so two networks may share a file.

* `networkWrites` : what one network leaves in the files.
* `syncNetworkDns_files`, `syncDns_eq_applyAll` : the pass is these writers, one after another.
* `address_mem_lines`, `pointer_mem_lines` : the records of a device are lines of its zones.
* `sync_keeps_iff` : **every network keeps its records, in every order,** exactly if no two networks
  want different texts in one file and the addresses can be read.
* `separate_of_distinct` : names and subnets that share no file.
-/

namespace Midscale

namespace Dns

open MasterFile Writes

/-! ### The pass -/

/-- The devices that `sync_network_dns` queries. -/
def zoneDevices (db : Database) (networkId : Uuid) : List Device :=
  db.devices.select fun d => d.networkId = networkId ∧ d.isActive ∧ d.ipAddress ≠ none

/-- The DNS entries of a network. -/
def zoneEntries (db : Database) (networkId : Uuid) : List DNSEntry :=
  db.dnsEntries.select fun e => e.networkId = networkId

/-- The first half of `sync_network_dns`: the forward zone is written, or removed. -/
def syncForwardZone (settings : DnsSettings) (serial : ℕ) (network : Network)
    (devices : List Device) (dnsEntries : List DNSEntry) (files : Files String) : Files String :=
  match buildNetworkZone settings serial network devices dnsEntries with
  | some zone => ensureZone files zone
  | none => removeZone files (forwardOrigin settings network)

/-- The second half: the reverse zone is written, or removed where the subnet has an origin. -/
def syncReverseZone (settings : DnsSettings) (serial : ℕ) (network : Network)
    (devices : List Device) (files : Files String) : Files String × Except AddressValueError Unit :=
  match buildReverseZone settings serial network devices with
  | .error e => (files, .error e)
  | .ok (some zone) => (ensureZone files zone, .ok ())
  | .ok none =>
    match reverseZoneOrigin network.subnet with
    | some origin => (removeZone files origin, .ok ())
    | none => (files, .ok ())

/-- `sync_network_dns`: the files afterwards, and what it raises.  `serial` is what `_make_serial`
returns. -/
def syncNetworkDns (settings : DnsSettings) (serial : ℕ) (db : Database) (networkId : Uuid)
    (files : Files String) : Files String × Except AddressValueError Unit :=
  match db.networks.get? networkId with
  | none => (files, .ok ())
  | some network =>
    let devices := zoneDevices db networkId
    let files :=
      syncForwardZone settings serial network devices (zoneEntries db networkId) files
    syncReverseZone settings serial network devices files

/-- `_sync_dns`, on the networks in the order of the query.  What a network raises is logged. -/
def syncDns (settings : DnsSettings) (serial : ℕ) (db : Database) (networks : List Network)
    (files : Files String) : Files String :=
  if settings.enabled then
    run (fun files network => (syncNetworkDns settings serial db network.id files).1) files networks
  else files

/-! ### What one network writes -/

/-- What a network leaves in the file of its forward zone. -/
def forwardWrites (settings : DnsSettings) (serial : ℕ) (db : Database) (network : Network) :
    Writes String (Option (List Char)) :=
  single (zoneFilename (forwardOrigin settings network))
    ((buildNetworkZone settings serial network (zoneDevices db network.id)
      (zoneEntries db network.id)).map formatZone)

/-- What it leaves in the file of its reverse zone: nothing when it has none, or raises. -/
def reverseWrites (settings : DnsSettings) (serial : ℕ) (db : Database) (network : Network) :
    Writes String (Option (List Char)) :=
  match buildReverseZone settings serial network (zoneDevices db network.id),
      reverseZoneOrigin network.subnet with
  | .ok zone, some origin => single (zoneFilename origin) (zone.map formatZone)
  | _, _ => fun _ => none

/-- What a network leaves in the files. -/
def networkWrites (settings : DnsSettings) (serial : ℕ) (db : Database) (network : Network) :
    Writes String (Option (List Char)) :=
  (forwardWrites settings serial db network).andThen (reverseWrites settings serial db network)

section

variable {settings : DnsSettings} {serial : ℕ} {db : Database} {network : Network}
  {networks : List Network} {files : Files String}

theorem syncForwardZone_files :
    syncForwardZone settings serial network (zoneDevices db network.id) (zoneEntries db network.id)
      files = (forwardWrites settings serial db network).apply files := by
  cases hzone : buildNetworkZone settings serial network (zoneDevices db network.id)
      (zoneEntries db network.id) with
  | none =>
    simp only [syncForwardZone, forwardWrites, hzone, single_apply]
    rfl
  | some zone =>
    simp only [syncForwardZone, forwardWrites, hzone, single_apply, ensureZone_eq,
      origin_of_buildNetworkZone hzone]
    rfl

theorem syncReverseZone_files :
    (syncReverseZone settings serial network (zoneDevices db network.id) files).1 =
      (reverseWrites settings serial db network).apply files := by
  simp only [syncReverseZone, reverseWrites]
  cases hzone : buildReverseZone settings serial network (zoneDevices db network.id) with
  | error e => rfl
  | ok zone =>
    cases zone with
    | some zone =>
      obtain ⟨-, -, horigin, -⟩ := buildReverseZone_eq_some_iff.1 hzone
      simp only [horigin, single_apply, ensureZone_eq]
      rfl
    | none =>
      cases horigin : reverseZoneOrigin network.subnet with
      | none => rfl
      | some origin => simp only [single_apply]; rfl

theorem syncNetworkDns_eq (hn : network ∈ db.networks) :
    syncNetworkDns settings serial db network.id files =
      syncReverseZone settings serial network (zoneDevices db network.id)
        (syncForwardZone settings serial network (zoneDevices db network.id)
          (zoneEntries db network.id) files) := by
  have hget : db.networks.get? network.id = some network := Table.get?_eq_some_iff.2 ⟨hn, rfl⟩
  simp only [syncNetworkDns, hget]

/-- **One network** is its writer. -/
theorem syncNetworkDns_files (hn : network ∈ db.networks) :
    (syncNetworkDns settings serial db network.id files).1 =
      (networkWrites settings serial db network).apply files := by
  rw [syncNetworkDns_eq hn, syncReverseZone_files, syncForwardZone_files, networkWrites,
    andThen_apply]

/-- **The pass** is the writers of its networks. -/
theorem syncDns_eq_applyAll (henabled : settings.enabled = true)
    (hnetworks : ∀ n ∈ networks, n ∈ db.networks) :
    syncDns settings serial db networks files =
      applyAll (networkWrites settings serial db) networks files := by
  rw [syncDns, if_pos henabled, applyAll]
  induction networks generalizing files with
  | nil => rfl
  | cons n networks ih =>
    rw [run_cons, run_cons, syncNetworkDns_files (hnetworks n List.mem_cons_self)]
    exact ih fun m hm => hnetworks m (List.mem_cons_of_mem n hm)

/-! ### The records of a device -/

theorem isPrintable_addressRecord {d : Device × String} {x : IPv4Address}
    (hip : IPv4Address.parse d.2 = some x) : IsPrintable (addressRecord d) := by
  obtain ⟨hne, hchars⟩ := chars_of_address hip
  have hvalue : IsWord d.2.toList := by
    refine ⟨fun hnil => hne (String.toList_eq_nil_iff.1 hnil), fun c hc => ?_⟩
    rcases hchars c hc with h | rfl
    · exact isPlain_of_isAlphanum (by simp [Char.isAlphanum, h])
    · rfl
  have htype : IsWord "A".toList := by decide
  have hclass : isClassOrTtl "A".toList = false := by decide
  constructor
  · rw [addressRecord_name]
    exact isWord_sanitize d.1.name
  · rw [addressRecord_name]
    exact sanitize_ne_at d.1.name
  · rwa [addressRecord_type]
  · rwa [addressRecord_type]
  · rwa [addressRecord_value]
  · rw [addressRecord_ttl]

theorem eq_of_key_eq {r r' : DNSRecord} (hname : ':' ∉ r.name.toList)
    (hname' : ':' ∉ r'.name.toList) (htype : ':' ∉ r.recordType.toList)
    (htype' : ':' ∉ r'.recordType.toList) (httl : r.ttl = r'.ttl) (hkey : r.key = r'.key) :
    r = r' := by
  have hsplit : ∀ t : DNSRecord, ':' ∉ t.name.toList → ':' ∉ t.recordType.toList →
      t.key.toList.splitOn ':' =
        t.name.toList :: t.recordType.toList :: t.value.toList.splitOn ':' := by
    intro t hn ht
    have hlist : t.key.toList = t.name.toList ++ ':' :: (t.recordType.toList ++ ':' ::
        t.value.toList) := by
      simp only [DNSRecord.key, String.toList_append, List.append_assoc]
      rfl
    rw [hlist, List.splitOn_append_cons_self_of_not_mem hn,
      List.splitOn_append_cons_self_of_not_mem ht]
  have hparts := hsplit r hname htype
  rw [hkey, hsplit r' hname' htype'] at hparts
  obtain ⟨hn, hrest⟩ := List.cons.inj hparts
  obtain ⟨ht, hv⟩ := List.cons.inj hrest
  have hvalue := congrArg [':'].intercalate hv
  rw [List.intercalate_splitOn, List.intercalate_splitOn] at hvalue
  cases r
  cases r'
  simp_all [String.toList_inj]

/-- The lines of a file. -/
def fileLines (files : Files String) (file : String) : List (List Char) :=
  (files file).elim [] (·.splitOn '\n')

theorem newline_mem_line {r : DNSRecord} (hname : '\n' ∉ r.name.toList)
    (htype : '\n' ∉ r.recordType.toList) (httl : r.ttl = 300) :
    '\n' ∈ r.line.toList ↔ '\n' ∈ r.value.toList := by
  have hnumber : '\n' ∉ (300 : ℤ).repr.toList := by decide
  by_cases hat : r.name = "@" <;>
    simp [DNSRecord.line, ljust, rjust, hat, httl, hname, htype, hnumber]

theorem line_mem_splitOn {zone : ZoneData} {records more : List DNSRecord} {r : DNSRecord}
    (hzone : zone.records = records ++ more) (hr : r ∈ records) (hbreak : '\n' ∉ r.line.toList)
    (huniq : ∀ r' ∈ records, r'.key = r.key → r' = r) :
    r.line.toList ∈ (formatZone zone).splitOn '\n' := by
  have hline : r.line ∈ zoneLines zone := by
    obtain ⟨seen, happend⟩ := recordLines_append [] records more
    rw [zoneLines, hzone, happend]
    have := line_mem_recordLines hr List.not_mem_nil fun r' hr' hkey => by rw [huniq r' hr' hkey]
    simp [this]
  exact mem_splitOn_intercalate (List.mem_map_of_mem hline) hbreak

theorem colon_not_mem_sanitize (name : String) : ':' ∉ (sanitizeDnsName name).toList :=
  fun hmem => absurd (isNameChar_of_mem_sanitize hmem) (by decide)

theorem newline_mem_addressRecord {d : Device × String} :
    '\n' ∈ (addressRecord d).line.toList ↔ '\n' ∈ d.2.toList := by
  rw [newline_mem_line, addressRecord_value]
  · rw [addressRecord_name]
    exact fun hmem => absurd (isNameChar_of_mem_sanitize hmem) (by decide)
  · rw [addressRecord_type]
    decide
  · rw [addressRecord_ttl]

theorem IsPrintable.newline_not_mem_line {r : DNSRecord} (h : IsPrintable r) :
    '\n' ∉ r.line.toList := by
  have hword : ∀ {w : List Char}, IsWord w → '\n' ∉ w := fun hw hc => (hw.ne hc).2.2.1 rfl
  rw [newline_mem_line (hword h.name) (hword h.type) h.ttl]
  exact hword h.value

/-- **The address of a device** is a line of its forward zone. -/
theorem address_mem_lines {dnsEntries : List DNSEntry} {devices : List Device} {d : Device × String}
    (hd : d ∈ addressed devices) (hbreak : '\n' ∉ d.2.toList) :
    ∃ zone, buildNetworkZone settings serial network devices dnsEntries = some zone ∧
      (addressRecord d).line.toList ∈ (formatZone zone).splitOn '\n' := by
  have hmem : addressRecord d ∈ (addressed devices).map addressRecord := List.mem_map_of_mem hd
  have hbuild : ∃ zone more, buildNetworkZone settings serial network devices dnsEntries =
      some zone ∧ zone.records = (⟨"@", "NS", "ns1." ++ forwardOrigin settings network, 300⟩ ::
        (addressed devices).map addressRecord) ++ more := by
    simp only [buildNetworkZone]
    rw [if_neg]
    · exact ⟨_, _, rfl, rfl⟩
    · intro hnil
      refine List.filter_eq_nil_iff.1 hnil (addressRecord d) (by simp [hmem]) ?_
      simp [addressRecord]
  obtain ⟨zone, more, hzone, hrecords⟩ := hbuild
  refine ⟨zone, hzone, line_mem_splitOn hrecords (List.mem_cons_of_mem _ hmem)
    (mt newline_mem_addressRecord.1 hbreak) fun r' hr' hkey => ?_⟩
  have hname : ∀ d, ':' ∉ (addressRecord d).name.toList := fun d => by
    rw [addressRecord_name]
    exact colon_not_mem_sanitize d.1.name
  have htype : ∀ d, ':' ∉ (addressRecord d).recordType.toList := fun d => by
    rw [addressRecord_type]
    decide
  have hns : ':' ∉ "NS".toList := by decide
  have hat : ':' ∉ "@".toList := by decide
  rcases List.mem_cons.1 hr' with rfl | hr'
  · exact eq_of_key_eq hat (hname d) hns (htype d) (addressRecord_ttl d).symm hkey
  · obtain ⟨d', -, rfl⟩ := List.mem_map.1 hr'
    have httl : (addressRecord d').ttl = (addressRecord d).ttl := by simp only [addressRecord_ttl]
    exact eq_of_key_eq (hname d') (hname d) (htype d') (htype d) httl hkey

/-- **The pointer to a device** is a line of its reverse zone. -/
theorem pointer_mem_lines {devices : List Device} {zone : ZoneData}
    (hzone : buildReverseZone settings serial network devices = .ok (some zone))
    {d : Device × String} (hd : d ∈ addressed devices) :
    ∃ net r, IPv4Network.parse network.subnet = some net ∧
      pointerRecord (forwardOrigin settings network) net d = .ok r ∧
      r.line.toList ∈ (formatZone zone).splitOn '\n' := by
  obtain ⟨net, hnet, horigin, -, hall, -⟩ := buildReverseZone_eq_some_iff.1 hzone
  obtain ⟨r, hr⟩ := exists_mapM_eq_ok_iff.1 ⟨_, hall⟩ d hd
  have hmem : r ∈ zone.records := (mem_of_mapM_eq_ok hall).2 ⟨d, hd, hr⟩
  have hcolon : ∀ r ∈ zone.records, ':' ∉ r.name.toList := by
    intro r hr hmem
    obtain ⟨d, -, hd⟩ := (mem_of_mapM_eq_ok hall).1 hr
    obtain ⟨name, hname, rfl⟩ := pointerRecord_eq_ok_iff.1 hd
    obtain ⟨net', hnet', h8⟩ := reverseZoneOrigin_isSome_iff.1 (Option.isSome_of_eq_some horigin)
    cases hnet.symm.trans hnet'
    exact absurd ((reverseRecordName_spec h8 hname).2 ':' hmem) (by decide)
  refine ⟨net, r, hnet, hr, line_mem_splitOn (List.append_nil _).symm hmem
    (isPrintable_of_mem_reverse hzone hmem).1.newline_not_mem_line fun r' hr' hkey => ?_⟩
  obtain ⟨hprintable, htype, -⟩ := isPrintable_of_mem_reverse hzone hmem
  obtain ⟨hprintable', htype', -⟩ := isPrintable_of_mem_reverse hzone hr'
  exact eq_of_key_eq (hcolon r' hr') (hcolon r hmem) (by rw [htype']; decide)
    (by rw [htype]; decide) (hprintable'.ttl.trans hprintable.ttl.symm) hkey

/-! ### Every network keeps its records -/

/-- Every active device with an address has its `A` record in the file of its forward zone and, if
the prefix of the subnet has at least 8 bits, its `PTR` record in the file of its reverse zone. -/
def KeepsRecords (settings : DnsSettings) (db : Database) (files : Files String) : Prop :=
  ∀ n ∈ db.networks, ∀ d ∈ db.devices, d.networkId = n.id → d.isActive = true →
    ∀ ip, d.ipAddress = some ip → ip ≠ "" →
      (addressRecord (d, ip)).line.toList ∈
        fileLines files (zoneFilename (forwardOrigin settings n)) ∧
      ∀ net, IPv4Network.parse n.subnet = some net → 8 ≤ net.prefixlen.val →
        ∃ origin r, reverseZoneOrigin n.subnet = some origin ∧
          pointerRecord (forwardOrigin settings n) net (d, ip) = .ok r ∧
          r.line.toList ∈ fileLines files (zoneFilename origin)

/-- The addresses of a network with a reverse zone can be read, and no address breaks its line. -/
def AddressTexts (db : Database) : Prop :=
  ∀ n ∈ db.networks, ∀ d ∈ addressed (zoneDevices db n.id), '\n' ∉ d.2.toList ∧
    ((reverseZoneOrigin n.subnet).isSome → (IPv4Address.parse d.2).isSome)

/-- Two networks that use one file want the same of it, and a network with an addressed device has
two files. -/
def Separate (settings : DnsSettings) (serial : ℕ) (db : Database) : Prop :=
  Compatible (networkWrites settings serial db) db.networks.rows ∧
    ∀ n ∈ db.networks, addressed (zoneDevices db n.id) ≠ [] →
      ∀ origin, reverseZoneOrigin n.subnet = some origin →
        zoneFilename origin ≠ zoneFilename (forwardOrigin settings n)

theorem mem_addressed_zoneDevices {id : Uuid} {d : Device} {ip : String} :
    (d, ip) ∈ addressed (zoneDevices db id) ↔
      d ∈ db.devices ∧ d.networkId = id ∧ d.isActive = true ∧ d.ipAddress = some ip ∧ ip ≠ "" := by
  constructor
  · intro h
    obtain ⟨hd, hactive, hip, hne⟩ := addressed_spec h
    obtain ⟨hd, hquery⟩ := Table.mem_select.1 hd
    exact ⟨hd, (of_decide_eq_true hquery).1, hactive, hip, hne⟩
  · rintro ⟨hd, hid, hactive, hip, hne⟩
    refine List.mem_filterMap.2 ⟨d, Table.mem_select.2 ⟨hd, by simp [hid, hactive, hip]⟩, ?_⟩
    simp [hactive, hip, hne]

theorem hasReverseZone_of_mem (htexts : AddressTexts db) (hn : network ∈ db.networks)
    {d : Device × String} (hd : d ∈ addressed (zoneDevices db network.id))
    (hsome : (reverseZoneOrigin network.subnet).isSome = true) :
    HasReverseZone network (zoneDevices db network.id) :=
  ⟨hsome, List.ne_nil_of_mem hd, fun d' hd' => (htexts network hn d' hd').2 hsome⟩

theorem KeepsRecords.addressTexts (h : KeepsRecords settings db files) : AddressTexts db := by
  rintro n hn ⟨d, ip⟩ hmem
  obtain ⟨hd, hid, hactive, hip, hne⟩ := mem_addressed_zoneDevices.1 hmem
  obtain ⟨hline, hpointer⟩ := h n hn d hd hid hactive ip hip hne
  constructor
  · intro hbreak
    rw [fileLines] at hline
    cases hfile : files (zoneFilename (forwardOrigin settings n)) with
    | none =>
      rw [hfile] at hline
      cases hline
    | some text =>
      rw [hfile, Option.elim_some] at hline
      exact not_mem_of_mem_splitOn hline (newline_mem_addressRecord.2 hbreak)
  · intro hsome
    obtain ⟨net, hnet, h8⟩ := reverseZoneOrigin_isSome_iff.1 hsome
    obtain ⟨-, r, -, hr, -⟩ := hpointer net hnet h8
    obtain ⟨name, hname, -⟩ := pointerRecord_eq_ok_iff.1 hr
    exact reverseRecordName_eq_ok_iff.1 ⟨name, hname⟩

theorem networkWrites_reverse {zone : ZoneData}
    (hzone : buildReverseZone settings serial network (zoneDevices db network.id) =
      .ok (some zone)) :
    networkWrites settings serial db network (zoneFilename zone.origin) =
      some (some (formatZone zone)) := by
  obtain ⟨-, -, horigin, -⟩ := buildReverseZone_eq_some_iff.1 hzone
  simp [networkWrites, andThen, reverseWrites, hzone, horigin, single]

theorem networkWrites_forward {zone : ZoneData}
    (hzone : buildNetworkZone settings serial network (zoneDevices db network.id)
      (zoneEntries db network.id) = some zone)
    (hfile : ∀ origin, reverseZoneOrigin network.subnet = some origin →
      zoneFilename origin ≠ zoneFilename (forwardOrigin settings network)) :
    networkWrites settings serial db network (zoneFilename (forwardOrigin settings network)) =
      some (some (formatZone zone)) := by
  have hreverse : reverseWrites settings serial db network
      (zoneFilename (forwardOrigin settings network)) = none := by
    cases hbuild : buildReverseZone settings serial network (zoneDevices db network.id) with
    | error e => simp only [reverseWrites, hbuild]
    | ok reverse =>
      cases horigin : reverseZoneOrigin network.subnet with
      | none => simp only [reverseWrites, hbuild, horigin]
      | some origin =>
        simp only [reverseWrites, hbuild, horigin, single]
        exact if_neg (hfile origin horigin).symm
  simp [networkWrites, andThen, hreverse, forwardWrites, hzone, single]

theorem head?_addressRecord (d : Device × String) :
    ∃ c, isNameChar c = true ∧ (addressRecord d).line.toList.head? = some c := by
  obtain ⟨c, name, hname⟩ := List.exists_cons_of_ne_nil (sanitize_ne_nil d.1.name)
  have hc : isNameChar c = true := isNameChar_of_mem_sanitize (hname ▸ List.mem_cons_self)
  have hat : (addressRecord d).name ≠ "@" := by
    rw [addressRecord_name]
    exact sanitize_ne_at d.1.name
  refine ⟨c, hc, ?_⟩
  rw [DNSRecord.line, if_neg hat, ljust]
  simp only [String.toList_append, addressRecord, hname, List.cons_append, List.head?_cons]

theorem headerLines_head? {zone : ZoneData} {line : String} (hline : line ∈ headerLines zone)
    {c : Char} (hc : isNameChar c = true) : line.toList.head? ≠ some c := by
  have hheader : ∀ d, line.toList.head? = some d → d ∈ [' ', '$', '@', ')'] := by
    simp only [headerLines, List.mem_cons, List.not_mem_nil, or_false] at hline
    rcases hline with rfl | rfl | rfl | rfl | rfl | rfl | rfl | rfl | rfl | rfl | rfl | rfl | rfl
      <;> simp
  intro hfirst
  have hmem := hheader c hfirst
  simp only [List.mem_cons, List.not_mem_nil, or_false] at hmem
  rcases hmem with rfl | rfl | rfl | rfl <;> exact absurd hc (by decide)

theorem address_not_mem_reverse {zone : ZoneData} {devices : List Device}
    (hzone : buildReverseZone settings serial network devices = .ok (some zone))
    {d : Device × String} {x : IPv4Address} (hip : IPv4Address.parse d.2 = some x) :
    (addressRecord d).line.toList ∉ (formatZone zone).splitOn '\n' := by
  have haddress := isPrintable_addressRecord hip
  obtain ⟨net, -, horigin, -, -, hdata⟩ := buildReverseZone_eq_some_iff.1 hzone
  have hrecords : ∀ r ∈ zone.records, IsPrintable r := fun r hr =>
    (isPrintable_of_mem_reverse hzone hr).1
  have hbreak := not_mem_lines (isWord_reverseZoneOrigin horigin) (by rw [hdata]) hrecords
  rw [formatZone, List.splitOn_intercalate '\n' hbreak (by simp [zoneLines, headerLines])]
  intro hmem
  obtain ⟨text, htext, hline⟩ := List.mem_map.1 hmem
  obtain ⟨c, hc, hfirst⟩ := head?_addressRecord d
  rw [← hline] at hfirst
  simp only [zoneLines, List.mem_append, List.mem_singleton] at htext
  rcases htext with (hheader | hrecord) | rfl
  · -- a line of the header begins with another character
    exact headerLines_head? hheader hc hfirst
  · -- a record of the zone has another type
    obtain ⟨r, hr, rfl⟩ := exists_of_mem_recordLines hrecord
    have hwords := haddress.entryWords_line
    rw [← hline, (hrecords r hr).entryWords_line,
      (isPrintable_of_mem_reverse hzone hr).2.1] at hwords
    have htype : "PTR".toList = "A".toList := by
      simp only [List.cons.injEq] at hwords
      exact hwords.2.2.1
    exact absurd htype (by decide)
  · cases hfirst

/-- **Networks that use no file in common** keep their records. -/
theorem keepsRecords_of_separate (htexts : AddressTexts db)
    (hseparate : Separate settings serial db) {order : List Network}
    (hperm : order.Perm db.networks.rows) :
    KeepsRecords settings db (applyAll (networkWrites settings serial db) order files) := by
  obtain ⟨hcompat, hfiles⟩ := hseparate
  intro n hn d hd hid hactive ip hip hne
  have hmem : (d, ip) ∈ addressed (zoneDevices db n.id) :=
    mem_addressed_zoneDevices.2 ⟨hd, hid, hactive, hip, hne⟩
  have horder : n ∈ order := hperm.mem_iff.2 hn
  have hwritten : ∀ {file : String} {text : List Char},
      networkWrites settings serial db n file = some (some text) →
        fileLines (applyAll (networkWrites settings serial db) order files) file =
          text.splitOn '\n' := fun h => by
    rw [fileLines, applyAll_of_mem (hcompat.perm hperm) horder h]
    rfl
  constructor
  · obtain ⟨zone, hzone, hline⟩ : ∃ zone, buildNetworkZone settings serial n
        (zoneDevices db n.id) (zoneEntries db n.id) = some zone ∧
          (addressRecord (d, ip)).line.toList ∈ (formatZone zone).splitOn '\n' :=
      address_mem_lines hmem (htexts n hn _ hmem).1
    rwa [hwritten (networkWrites_forward hzone (hfiles n hn (List.ne_nil_of_mem hmem)))]
  · intro net hnet h8
    have hsome := reverseZoneOrigin_isSome_iff.2 ⟨net, hnet, h8⟩
    obtain ⟨zone, hzone⟩ := exists_buildReverseZone_iff.2 (hasReverseZone_of_mem htexts hn hmem hsome)
    obtain ⟨net', r, hnet', hr, hline⟩ := pointer_mem_lines hzone hmem
    cases hnet.symm.trans hnet'
    obtain ⟨-, -, horigin, -⟩ := buildReverseZone_eq_some_iff.1 hzone
    refine ⟨zone.origin, r, horigin, hr, ?_⟩
    rwa [hwritten (networkWrites_reverse hzone)]

end

/-- **Every network keeps its records, and the files do not depend on the order,** exactly if no two
networks want different things of one file and the addresses are such texts. -/
theorem sync_keeps_iff (settings : DnsSettings) (serial : ℕ) (db : Database) (files : Files String)
    (henabled : settings.enabled = true) :
    ((∀ order : List Network, order.Perm db.networks.rows →
        KeepsRecords settings db (syncDns settings serial db order files)) ∧
      ∀ order order' : List Network, order.Perm db.networks.rows → order'.Perm db.networks.rows →
        syncDns settings serial db order files = syncDns settings serial db order' files) ↔
      Separate settings serial db ∧ AddressTexts db := by
  have hpass : ∀ order : List Network, order.Perm db.networks.rows →
      syncDns settings serial db order files =
        applyAll (networkWrites settings serial db) order files := fun order hperm =>
    syncDns_eq_applyAll henabled fun n hn => hperm.subset hn
  constructor
  · rintro ⟨hkeeps, hsame⟩
    have htexts : AddressTexts db := (hkeeps _ (List.Perm.refl _)).addressTexts
    have hcompat : Compatible (networkWrites settings serial db) db.networks.rows := by
      refine (perm_independent_iff (s := files)).1 fun order order' hperm hperm' => ?_
      rw [← hpass order hperm, ← hpass order' hperm']
      exact hsame order order' hperm hperm'
    refine ⟨⟨hcompat, fun n hn hne origin horigin hfile => ?_⟩, htexts⟩
    -- the file has the text of the reverse zone, which has no line of an address
    obtain ⟨⟨d, ip⟩, hmem⟩ := List.exists_mem_of_ne_nil _ hne
    obtain ⟨hd, hid, hactive, hip, hip'⟩ := mem_addressed_zoneDevices.1 hmem
    have hsome := Option.isSome_of_eq_some horigin
    obtain ⟨x, hx⟩ := Option.isSome_iff_exists.1 ((htexts n hn _ hmem).2 hsome)
    obtain ⟨zone, hzone⟩ := exists_buildReverseZone_iff.2
      (hasReverseZone_of_mem htexts hn hmem hsome)
    obtain ⟨-, -, horigin', -⟩ := buildReverseZone_eq_some_iff.1 hzone
    cases horigin.symm.trans horigin'
    have hline := (hkeeps _ (List.Perm.refl _) n hn d hd hid hactive ip hip hip').1
    rw [hpass _ (List.Perm.refl _), ← hfile, fileLines,
      applyAll_of_mem hcompat hn (networkWrites_reverse hzone), Option.elim_some] at hline
    exact address_not_mem_reverse (d := (d, ip)) hzone hx hline
  · rintro ⟨hseparate, htexts⟩
    refine ⟨fun order hperm => ?_, fun order order' hperm hperm' => ?_⟩
    · rw [hpass order hperm]
      exact keepsRecords_of_separate htexts hseparate hperm
    · rw [hpass order hperm, hpass order' hperm']
      exact perm_independent_iff.2 hseparate.1 order order' hperm hperm'

/-! ### Names that share no file -/

/-- What `_zone_filepath` does to a character. -/
def dash (c : Char) : Char := if c = '.' then '-' else c

theorem map_dash_of_not_mem {cs : List Char} (h : '.' ∉ cs) : cs.map dash = cs := by
  conv_rhs => rw [← List.map_id cs]
  exact List.map_congr_left fun c hc => if_neg fun hdot : c = '.' => h (hdot ▸ hc)

theorem map_dash_inj {cs cs' : List Char} (h : '-' ∉ cs) (h' : '-' ∉ cs')
    (heq : cs.map dash = cs'.map dash) : cs = cs' := by
  have hback : ∀ cs : List Char, '-' ∉ cs →
      (cs.map dash).map (fun c => if c = '-' then '.' else c) = cs := by
    intro cs hcs
    rw [List.map_map]
    conv_rhs => rw [← List.map_id cs]
    refine List.map_congr_left fun c hc => ?_
    have hne : c ≠ '-' := fun hdash => hcs (hdash ▸ hc)
    by_cases hdot : c = '.'
    · simp [dash, hdot]
    · simp [dash, hdot, hne]
  rw [← hback cs h, heq, hback cs' h']

theorem rstripDots_append {front back : List Char} (h : rstripDots back ≠ []) :
    rstripDots (front ++ back) = front ++ rstripDots back := by
  have hne : (back.reverse.dropWhile (· = '.')).isEmpty = false := by
    simpa [rstripDots] using h
  rw [rstripDots, List.reverse_append, List.dropWhile_append, hne]
  simp [rstripDots]

theorem toList_zoneFilename (origin : String) :
    (zoneFilename origin).toList = (rstripDots origin.toList).map dash ++ ".zone".toList := by
  rw [zoneFilename, String.toList_append, String.toList_ofList]
  rfl

section

variable {settings : DnsSettings} {network network' : Network}

theorem toList_forwardFile (hdomain : rstripDots settings.domain.toList ≠ []) :
    (zoneFilename (forwardOrigin settings network)).toList =
      (sanitizeDnsName network.name).toList ++ '-' ::
        (rstripDots settings.domain.toList).map dash ++ ".zone".toList := by
  have hdot : '.' ∉ (sanitizeDnsName network.name).toList := fun hmem =>
    absurd (isNameChar_of_mem_sanitize hmem) (by decide)
  have hone : rstripDots ('.' :: settings.domain.toList) =
      '.' :: rstripDots settings.domain.toList :=
    @rstripDots_append ['.'] _ hdomain
  have horigin : (forwardOrigin settings network).toList =
      (sanitizeDnsName network.name).toList ++ '.' :: settings.domain.toList := by
    rw [forwardOrigin, String.toList_append, String.toList_append, List.append_assoc]
    rfl
  rw [toList_zoneFilename, horigin, rstripDots_append (by rw [hone]; exact List.cons_ne_nil _ _),
    hone, List.map_append, map_dash_of_not_mem hdot]
  rfl

theorem sanitize_eq_of_forwardFile (hdomain : rstripDots settings.domain.toList ≠ [])
    (h : zoneFilename (forwardOrigin settings network) =
      zoneFilename (forwardOrigin settings network')) :
    sanitizeDnsName network.name = sanitizeDnsName network'.name := by
  have hlist := congrArg String.toList h
  rw [toList_forwardFile hdomain, toList_forwardFile hdomain] at hlist
  exact String.toList_inj.1 (List.append_cancel_right (List.append_cancel_right hlist))

theorem reverseZoneOrigin_spec {subnet origin : String}
    (h : reverseZoneOrigin subnet = some origin) :
    ∃ octets, origin.toList = octets ++ ".in-addr.arpa".toList ∧ '-' ∉ octets := by
  obtain ⟨net, -, h⟩ := Option.bind_eq_some_iff.1 h
  have hoctet : ∀ i, '-' ∉ (octetStr net.networkAddress i).toList := fun i hmem =>
    absurd (mem_octetStr hmem) (by decide)
  split_ifs at h with h8 h24 h16
  all_goals
    cases h
    refine ⟨_, String.toList_append, ?_⟩
    simp [hoctet]

theorem toList_reverseFile {origin : String} {octets : List Char}
    (h : origin.toList = octets ++ ".in-addr.arpa".toList) :
    (zoneFilename origin).toList =
      octets.map dash ++ "-in-addr-arpa".toList ++ ".zone".toList := by
  have hsuffix : rstripDots ".in-addr.arpa".toList = ".in-addr.arpa".toList := by decide
  rw [toList_zoneFilename, h, rstripDots_append (by rw [hsuffix]; decide), hsuffix,
    List.map_append]
  rfl

theorem reverseOrigin_eq_of_file {subnet subnet' origin origin' : String}
    (horigin : reverseZoneOrigin subnet = some origin)
    (horigin' : reverseZoneOrigin subnet' = some origin')
    (h : zoneFilename origin = zoneFilename origin') : origin = origin' := by
  obtain ⟨octets, ho, hdash⟩ := reverseZoneOrigin_spec horigin
  obtain ⟨octets', ho', hdash'⟩ := reverseZoneOrigin_spec horigin'
  have hlist := congrArg String.toList h
  rw [toList_reverseFile ho, toList_reverseFile ho'] at hlist
  have hmap := List.append_cancel_right (List.append_cancel_right hlist)
  exact String.toList_inj.1 (by rw [ho, ho', map_dash_inj hdash hdash' hmap])

theorem forwardFile_ne_reverseFile (hdomain : rstripDots settings.domain.toList ≠ [])
    (harpa : ¬ "arpa".toList <:+ rstripDots settings.domain.toList) {subnet origin : String}
    (horigin : reverseZoneOrigin subnet = some origin) :
    zoneFilename origin ≠ zoneFilename (forwardOrigin settings network) := by
  intro h
  obtain ⟨octets, ho, -⟩ := reverseZoneOrigin_spec horigin
  have hlist := congrArg String.toList h
  rw [toList_reverseFile ho, toList_forwardFile hdomain] at hlist
  have hsame := List.append_cancel_right hlist
  have hsuffix : "arpa".toList <:+ "-in-addr-arpa".toList := by decide
  have hleft : "arpa".toList <:+ octets.map dash ++ "-in-addr-arpa".toList :=
    hsuffix.trans (List.suffix_append _ _)
  have hright : '-' :: (rstripDots settings.domain.toList).map dash <:+
      octets.map dash ++ "-in-addr-arpa".toList := by
    rw [hsame]
    exact List.suffix_append _ _
  have hdash : '-' ∉ "arpa".toList := by decide
  rcases List.suffix_or_suffix_of_suffix hleft hright with hsuffix | hsuffix
  · rcases List.suffix_cons_iff.1 hsuffix with heq | hsuffix
    · exact hdash (heq ▸ List.mem_cons_self)
    · obtain ⟨front, hfront⟩ := hsuffix
      obtain ⟨front', back, hdomain', -, hback⟩ := List.map_eq_append_iff.1 hfront.symm
      have hdot : '.' ∉ back := fun hmem => hdash (hback ▸ List.mem_map_of_mem hmem)
      rw [map_dash_of_not_mem hdot] at hback
      exact harpa ⟨front', by rw [hdomain', hback]⟩
  · exact hdash (hsuffix.subset List.mem_cons_self)

theorem file_of_networkWrites {serial : ℕ} {db : Database} {file : String}
    {text : Option (List Char)} (h : networkWrites settings serial db network file = some text) :
    file = zoneFilename (forwardOrigin settings network) ∨
      ∃ origin, reverseZoneOrigin network.subnet = some origin ∧ file = zoneFilename origin := by
  rw [networkWrites, andThen, Option.or_eq_some_iff] at h
  rcases h with h | ⟨-, h⟩
  · right
    cases hbuild : buildReverseZone settings serial network (zoneDevices db network.id) with
    | error e =>
      simp only [reverseWrites, hbuild] at h
      cases h
    | ok zone =>
      cases horigin : reverseZoneOrigin network.subnet with
      | none =>
        simp only [reverseWrites, hbuild, horigin] at h
        cases h
      | some origin =>
        simp only [reverseWrites, hbuild, horigin, single] at h
        split_ifs at h with hfile
        exact ⟨origin, rfl, hfile⟩
  · left
    simp only [forwardWrites, single] at h
    split_ifs at h with hfile
    exact hfile

/-- **Networks whose sanitized names and reverse zones differ** share no file. -/
theorem separate_of_distinct (serial : ℕ) (db : Database)
    (hdomain : rstripDots settings.domain.toList ≠ [])
    (harpa : ¬ "arpa".toList <:+ rstripDots settings.domain.toList)
    (hnames : ∀ m ∈ db.networks, ∀ n ∈ db.networks,
      sanitizeDnsName m.name = sanitizeDnsName n.name → m = n)
    (hsubnets : ∀ m ∈ db.networks, ∀ n ∈ db.networks, (reverseZoneOrigin m.subnet).isSome →
      reverseZoneOrigin m.subnet = reverseZoneOrigin n.subnet → m = n) :
    Separate settings serial db := by
  refine ⟨fun m hm n hn file text text' hmw hnw => ?_, fun n hn _ origin horigin =>
    forwardFile_ne_reverseFile hdomain harpa horigin⟩
  suffices hmn : m = n by
    subst hmn
    exact Option.some.inj (hmw.symm.trans hnw)
  rcases file_of_networkWrites hmw with hfile | ⟨origin, horigin, hfile⟩ <;>
    rcases file_of_networkWrites hnw with hfile' | ⟨origin', horigin', hfile'⟩
  · exact hnames m hm n hn (sanitize_eq_of_forwardFile hdomain (hfile.symm.trans hfile'))
  · exact absurd (hfile'.symm.trans hfile) (forwardFile_ne_reverseFile hdomain harpa horigin')
  · exact absurd (hfile.symm.trans hfile') (forwardFile_ne_reverseFile hdomain harpa horigin)
  · have hsame := reverseOrigin_eq_of_file horigin horigin' (hfile.symm.trans hfile')
    exact hsubnets m hm n hn (Option.isSome_of_eq_some horigin)
      (by rw [horigin, horigin', hsame])

end

/-! ### Two databases -/

def dnsOn : DnsSettings := { enabled := true }

/-- Two networks in the subnets of two floors. -/
def floors : Database :=
  { networks := .ofRows
      [{ id := .ofNat 116, name := "Ground Floor", subnet := "10.1.2.0/24" },
        { id := .ofNat 117, name := "First Floor", subnet := "10.1.3.0/24" }]
    devices := .ofRows
      [{ id := .ofNat 118, name := "Printer", networkId := .ofNat 116,
         ipAddress := some "10.1.2.5" },
        { id := .ofNat 119, name := "Printer", networkId := .ofNat 117,
          ipAddress := some "10.1.3.5" }] }

theorem floors_keep_records :
    (∀ order : List Network, order.Perm floors.networks.rows →
        KeepsRecords dnsOn floors (syncDns dnsOn 20260101 floors order fun _ => none)) ∧
      ∀ order order' : List Network, order.Perm floors.networks.rows →
        order'.Perm floors.networks.rows →
          syncDns dnsOn 20260101 floors order (fun _ => none) =
            syncDns dnsOn 20260101 floors order' fun _ => none := by
  have htexts : AddressTexts floors := by
    have hground : '\n' ∉ "10.1.2.5".toList ∧ (IPv4Address.parse "10.1.2.5").isSome := by
      decide +kernel
    have hfirst : '\n' ∉ "10.1.3.5".toList ∧ (IPv4Address.parse "10.1.3.5").isSome := by
      decide +kernel
    have hrows : ∀ d ∈ floors.devices, d.ipAddress = some "10.1.2.5" ∨
        d.ipAddress = some "10.1.3.5" := by decide
    rintro n - ⟨d, ip⟩ hmem
    obtain ⟨hd, -, -, hip, -⟩ := mem_addressed_zoneDevices.1 hmem
    rcases hrows d hd with hd | hd
    · cases hd.symm.trans hip
      exact ⟨hground.1, fun _ => hground.2⟩
    · cases hd.symm.trans hip
      exact ⟨hfirst.1, fun _ => hfirst.2⟩
  refine (sync_keeps_iff dnsOn 20260101 floors _ rfl).2
    ⟨separate_of_distinct 20260101 floors (by decide) (by decide) ?_ ?_, htexts⟩
  · decide +kernel
  · decide +kernel

def home : Network := { id := .ofNat 120, name := "Home", subnet := "10.1.4.0/24" }

def lamp : Device :=
  { id := .ofNat 122, name := "Lamp", networkId := .ofNat 120, ipAddress := some "10.1.4.5" }

/-- Two networks whose names differ in a character that is sanitized away. -/
def homes : Database :=
  { networks := .ofRows [home, { id := .ofNat 121, name := "home!", subnet := "10.1.5.0/24" }]
    devices := .ofRows [lamp,
      { id := .ofNat 123, name := "Door", networkId := .ofNat 121,
        ipAddress := some "10.1.5.5" }] }

/-- The second network overwrites the forward zone of the first one. -/
theorem lamp_record_overwritten :
    (addressRecord (lamp, "10.1.4.5")).line.toList ∉
      fileLines (syncDns dnsOn 20260101 homes homes.networks.rows fun _ => none)
        (zoneFilename (forwardOrigin dnsOn home)) ∧
      ¬ ((∀ order : List Network, order.Perm homes.networks.rows →
          KeepsRecords dnsOn homes (syncDns dnsOn 20260101 homes order fun _ => none)) ∧
        ∀ order order' : List Network, order.Perm homes.networks.rows →
          order'.Perm homes.networks.rows →
            syncDns dnsOn 20260101 homes order (fun _ => none) =
              syncDns dnsOn 20260101 homes order' fun _ => none) := by
  have hlost : (addressRecord (lamp, "10.1.4.5")).line.toList ∉
      fileLines (syncDns dnsOn 20260101 homes homes.networks.rows fun _ => none)
        (zoneFilename (forwardOrigin dnsOn home)) := by decide +kernel
  refine ⟨hlost, fun hall => hlost ?_⟩
  have hhome : home ∈ homes.networks := by decide
  have hlamp : lamp ∈ homes.devices := by decide
  have hip : lamp.ipAddress = some "10.1.4.5" := rfl
  obtain ⟨hrecord, -⟩ := hall.1 _ (List.Perm.refl _) home hhome lamp hlamp rfl rfl _ hip (by decide)
  exact hrecord

end Dns

end Midscale
