import Midscale.Data.Calendar
import Midscale.Dns.Sync

/-!
# Serials

`_make_serial` writes the clock down to the second as one number, and `_format_zone` prints it into
the text that `ensure_zone` compares.

* `makeSerial_ge`, `makeSerial_lt_iff` : a serial never fits in 32 bits, and grows with the second.
* `syncAt` : `sync_network_dns` with its two readings of the clock.
* `syncAt_self` : with one reading for both zones it is `syncNetworkDns`.
* `zone_serials` : **when a second pass leaves the zone files as they are.**
-/

namespace Midscale

namespace Dns

open Timestamp Writes

/-! ### The number -/

/-- `_make_serial`, at a reading of the clock: the digits of the date and the time, as a number. -/
def makeSerial (now : Timestamp) : ℕ :=
  let (year, month, day) := civil (now / 86400000000)
  let s := (now % 86400000000).toNat / 1000000
  Nat.ofDigitChars 10 (padded 4 year.toNat ++ padded 2 month ++ padded 2 day ++
    padded 2 (s / 3600) ++ padded 2 (s / 60 % 60) ++ padded 2 (s % 60)).toList 0

/-- `datetime.min`: no clock reads earlier. -/
def datetimeMin : ℤ := -62135596800000000

theorem ofDigitChars_padded (width n : ℕ) : Nat.ofDigitChars 10 (padded width n).toList 0 = n := by
  rw [padded, String.toList_ofList, Nat.ofDigitChars_append, Nat.ofDigitChars_replicate_zero,
    Nat.mul_zero, Nat.ofDigitChars_ten_toDigits]

theorem length_padded_two {n : ℕ} (h : n < 100) : (padded 2 n).toList.length = 2 := by
  have hlen : (Nat.toDigits 10 n).length ≤ 2 :=
    (Nat.length_toDigits_le_iff (by omega) (by omega)).2 h
  rw [padded, String.toList_ofList, List.length_append, List.length_replicate]
  omega

theorem ofDigitChars_append_padded (cs : List Char) {n : ℕ} (h : n < 100) :
    Nat.ofDigitChars 10 (cs ++ (padded 2 n).toList) 0 = 100 * Nat.ofDigitChars 10 cs 0 + n := by
  rw [Nat.ofDigitChars_append, Nat.ofDigitChars_eq_ofDigitChars_zero, length_padded_two h,
    ofDigitChars_padded]

/-- The digits of a second of the day, as a number. -/
def clock (s : ℕ) : ℕ := (s / 3600 * 100 + s / 60 % 60) * 100 + s % 60

theorem clock_lt {s : ℕ} (h : s < 86400) : clock s < 1000000 := by
  rw [clock]
  omega

theorem clock_mono {s s' : ℕ} (h : s < s') : clock s < clock s' := by
  have hhours : s / 3600 = s / 60 / 60 := by omega
  have hhours' : s' / 3600 = s' / 60 / 60 := by omega
  rw [clock, clock, hhours, hhours']
  have hsplit := Nat.div_add_mod s 60
  have hsplit' := Nat.div_add_mod s' 60
  rcases (show s / 60 ≤ s' / 60 by omega).lt_or_eq with hlt | heq
  · have : s / 60 / 60 * 100 + s / 60 % 60 < s' / 60 / 60 * 100 + s' / 60 % 60 := by omega
    omega
  · rw [heq]
    omega

/-- The number of a date and a second of the day. -/
def stamp (date : ℤ × ℕ × ℕ) (s : ℕ) : ℕ :=
  ((date.1.toNat * 100 + date.2.1) * 100 + date.2.2) * 1000000 + clock s

theorem makeSerial_eq (now : ℤ) :
    makeSerial now = stamp (civil (now / 1000000 / 86400)) (now / 1000000 % 86400).toNat := by
  have hdays : now / 86400000000 = now / 1000000 / 86400 := by omega
  have hseconds : (now % 86400000000).toNat / 1000000 = (now / 1000000 % 86400).toNat := by omega
  obtain ⟨hmonth, hmonth', hday, hday'⟩ := civil_ranges (now / 1000000 / 86400)
  have hday_lt : (now / 1000000 % 86400).toNat < 86400 := by omega
  simp only [makeSerial, hdays, hseconds, String.toList_append]
  generalize civil (now / 1000000 / 86400) = date at *
  obtain ⟨year, month, day⟩ := date
  simp only at hmonth hmonth' hday hday' ⊢
  rw [ofDigitChars_append_padded _ (by omega), ofDigitChars_append_padded _ (by omega),
    ofDigitChars_append_padded _ (by omega), ofDigitChars_append_padded _ (by omega),
    ofDigitChars_append_padded _ (by omega), ofDigitChars_padded, stamp, clock]
  simp only
  omega

theorem one_le_year {now : ℤ} (h : datetimeMin ≤ now) :
    1 ≤ (civil (now / 1000000 / 86400)).1 := by
  have hfirst : civil (-719162) = (1, 1, 1) := by decide
  obtain ⟨-, hmonth, -⟩ := civil_ranges (now / 1000000 / 86400)
  have hdays : -719162 ≤ now / 1000000 / 86400 := by
    rw [datetimeMin] at h
    omega
  rcases hdays.lt_or_eq with hlt | heq
  · have hdate := civil_lt hlt
    rw [hfirst] at hdate
    simp only at hdate
    omega
  · rw [← heq, hfirst]

theorem stamp_lt {days days' : ℤ} {s s' : ℕ} (hdays : 1 ≤ (civil days).1)
    (hs : s < 86400) (h : days < days' ∨ days = days' ∧ s < s') :
    stamp (civil days) s < stamp (civil days') s' := by
  obtain ⟨hmonth, hmonth', hday, hday'⟩ := civil_ranges days
  obtain ⟨hmonth₂, hmonth₂', hday₂, hday₂'⟩ := civil_ranges days'
  rcases h with hlt | ⟨rfl, hlt⟩
  · have hdate := civil_lt hlt
    have hclock := clock_lt hs
    have hdate' : ((civil days).1.toNat * 100 + (civil days).2.1) * 100 + (civil days).2.2 <
        ((civil days').1.toNat * 100 + (civil days').2.1) * 100 + (civil days').2.2 := by
      omega
    simp only [stamp]
    omega
  · have hclock := clock_mono hlt
    simp only [stamp]
    omega

theorem makeSerial_lt {t t' : ℤ} (ht : datetimeMin ≤ t)
    (h : t / 1000000 < t' / 1000000) : makeSerial t < makeSerial t' := by
  rw [makeSerial_eq, makeSerial_eq]
  exact stamp_lt (one_le_year ht) (by omega) (by omega)

theorem makeSerial_congr {t t' : ℤ} (h : t / 1000000 = t' / 1000000) :
    makeSerial t = makeSerial t' := by
  rw [makeSerial_eq, makeSerial_eq, h]

theorem makeSerial_lt_iff {t t' : ℤ} (ht : datetimeMin ≤ t) (ht' : datetimeMin ≤ t') :
    makeSerial t < makeSerial t' ↔ t / 1000000 < t' / 1000000 := by
  refine ⟨fun h => ?_, makeSerial_lt ht⟩
  rcases lt_trichotomy (t / 1000000) (t' / 1000000) with hlt | heq | hgt
  · exact hlt
  · exact absurd (makeSerial_congr heq) h.ne
  · exact absurd (makeSerial_lt ht' hgt) h.not_gt

theorem makeSerial_inj {t t' : ℤ} (ht : datetimeMin ≤ t) (ht' : datetimeMin ≤ t') :
    makeSerial t = makeSerial t' ↔ t / 1000000 = t' / 1000000 := by
  refine ⟨fun h => ?_, makeSerial_congr⟩
  rcases lt_trichotomy (t / 1000000) (t' / 1000000) with hlt | heq | hgt
  · exact absurd h (makeSerial_lt ht hlt).ne
  · exact heq
  · exact absurd h (makeSerial_lt ht' hgt).ne'

/-- No serial fits in 32 bits. -/
theorem makeSerial_ge {t : ℤ} (ht : datetimeMin ≤ t) : 2 ^ 32 ≤ makeSerial t := by
  have hyear := one_le_year ht
  rw [makeSerial_eq, stamp]
  omega

/-! ### Two passes -/

/-- `sync_network_dns`, which reads the clock once for each zone. -/
def syncAt (settings : DnsSettings) (now nowReverse : Timestamp) (db : Database)
    (networkId : Uuid) (files : Files String) : Files String × Except AddressValueError Unit :=
  match db.networks.get? networkId with
  | none => (files, .ok ())
  | some network =>
    let devices := zoneDevices db networkId
    syncReverseZone settings (makeSerial nowReverse) network devices
      (syncForwardZone settings (makeSerial now) network devices (zoneEntries db networkId) files)

section

variable {settings : DnsSettings} {db : Database} {network : Network}

/-- With one reading for both zones this is `syncNetworkDns`. -/
theorem syncAt_self (hn : network ∈ db.networks) (now : Timestamp) (files : Files String) :
    syncAt settings now now db network.id files =
      syncNetworkDns settings (makeSerial now) db network.id files := by
  have hget : db.networks.get? network.id = some network := Table.get?_eq_some_iff.2 ⟨hn, rfl⟩
  simp only [syncAt, hget, syncNetworkDns_eq hn]

/-- What a pass with two serials leaves in the files. -/
def syncWrites (settings : DnsSettings) (serial serial' : ℕ) (db : Database) (network : Network) :
    Writes String (Option (List Char)) :=
  (forwardWrites settings serial db network).andThen (reverseWrites settings serial' db network)

theorem syncAt_files (hn : network ∈ db.networks) (now nowReverse : Timestamp)
    (files : Files String) :
    (syncAt settings now nowReverse db network.id files).1 =
      (syncWrites settings (makeSerial now) (makeSerial nowReverse) db network).apply files := by
  have hget : db.networks.get? network.id = some network := Table.get?_eq_some_iff.2 ⟨hn, rfl⟩
  simp only [syncAt, hget, syncReverseZone_files, syncForwardZone_files, syncWrites,
    andThen_apply]

/-! ### The serial in a text -/

theorem formatZone_serial_inj {zone : ZoneData} {serial serial' : ℕ} :
    formatZone { zone with serial } = formatZone { zone with serial := serial' } ↔
      serial = serial' := by
  refine ⟨fun h => ?_, fun h => by rw [h]⟩
  have hdigits : Nat.toDigits 10 serial = Nat.toDigits 10 serial' := by
    simpa [formatZone, zoneLines, headerLines, List.intercalate_cons_cons] using h
  have hnumber := congrArg (Nat.ofDigitChars 10 · 0) hdigits
  simpa only [Nat.ofDigitChars_ten_toDigits] using hnumber

/-- The inputs from which a forward zone is built: an active device with an address, or an entry
that lies in the zone. -/
def HasForwardZone (settings : DnsSettings) (network : Network) (devices : List Device)
    (dnsEntries : List DNSEntry) : Prop :=
  addressed devices ≠ [] ∨ dnsEntries.filterMap (entryRecord (forwardOrigin settings network)) ≠ []

theorem entryRecord_type {origin : String} {e : DNSEntry} {r : DNSRecord}
    (h : entryRecord origin e = some r) : r.recordType = "A" := by
  simp only [entryRecord] at h
  split at h
  · rw [← Option.some.inj h]
  · cases h

theorem buildNetworkZone_isSome_iff {serial : ℕ} {devices : List Device}
    {dnsEntries : List DNSEntry} :
    (buildNetworkZone settings serial network devices dnsEntries).isSome ↔
      HasForwardZone settings network devices dnsEntries := by
  have htype : ∀ r ∈ (addressed devices).map addressRecord ++
      dnsEntries.filterMap (entryRecord (forwardOrigin settings network)),
      r.recordType ≠ "NS" := by
    intro r hr
    rcases List.mem_append.1 hr with hr | hr
    · obtain ⟨d, -, rfl⟩ := List.mem_map.1 hr
      rw [addressRecord_type]
      decide
    · obtain ⟨e, -, he⟩ := List.mem_filterMap.1 hr
      rw [entryRecord_type he]
      decide
  have hfilter := List.filter_eq_self.2 fun r hr => decide_eq_true (htype r hr)
  simp only [buildNetworkZone]
  rw [List.filter_cons_of_neg (by simp), hfilter, HasForwardZone]
  split_ifs with hnil
  · rw [List.append_eq_nil_iff, List.map_eq_nil_iff] at hnil
    simp [hnil]
  · rw [List.append_eq_nil_iff, List.map_eq_nil_iff, not_and_or] at hnil
    simpa using hnil

theorem buildNetworkZone_serial (serial serial' : ℕ) (devices : List Device)
    (dnsEntries : List DNSEntry) :
    buildNetworkZone settings serial' network devices dnsEntries =
      (buildNetworkZone settings serial network devices dnsEntries).map
        fun zone => { zone with serial := serial' } := by
  simp only [buildNetworkZone]
  split_ifs <;> rfl

theorem buildReverseZone_serial (serial serial' : ℕ) (devices : List Device) :
    buildReverseZone settings serial' network devices =
      (buildReverseZone settings serial network devices).map
        (Option.map fun zone => { zone with serial := serial' }) := by
  simp only [buildReverseZone]
  cases IPv4Network.parse network.subnet with
  | none => rfl
  | some net =>
    cases reverseZoneOrigin network.subnet with
    | none => rfl
    | some origin =>
      cases hrecords : (addressed devices).mapM
          (pointerRecord (forwardOrigin settings network) net) with
      | error e => simp only [hrecords]; rfl
      | ok records =>
        simp only [hrecords, bind, Except.bind]
        split_ifs <;> rfl

/-! ### What a second pass changes -/

/-- The reverse half of a pass writes or removes a file. -/
def ReverseTouches (network : Network) (devices : List Device) (file : String) : Prop :=
  (∃ origin, reverseZoneOrigin network.subnet = some origin ∧ zoneFilename origin = file) ∧
    ∀ d ∈ addressed devices, (IPv4Address.parse d.2).isSome

/-- The forward zone is built, and its file is left alone by the reverse half. -/
def ForwardStands (settings : DnsSettings) (db : Database) (network : Network) : Prop :=
  HasForwardZone settings network (zoneDevices db network.id) (zoneEntries db network.id) ∧
    ¬ ReverseTouches network (zoneDevices db network.id)
      (zoneFilename (forwardOrigin settings network))

theorem buildReverseZone_ok_iff {serial : ℕ} {devices : List Device} {origin : String}
    (horigin : reverseZoneOrigin network.subnet = some origin) :
    (∃ zone, buildReverseZone settings serial network devices = .ok zone) ↔
      ∀ d ∈ addressed devices, (IPv4Address.parse d.2).isSome := by
  obtain ⟨net, hnet, -⟩ := reverseZoneOrigin_isSome_iff.1 (Option.isSome_of_eq_some horigin)
  have hrecords : (∃ records, (addressed devices).mapM
      (pointerRecord (forwardOrigin settings network) net) = .ok records) ↔
      ∀ d ∈ addressed devices, (IPv4Address.parse d.2).isSome := by
    rw [exists_mapM_eq_ok_iff]
    refine forall₂_congr fun d _ => ?_
    have hname : (∃ name, reverseRecordName d.2 net = .ok name) ↔ _ := reverseRecordName_eq_ok_iff
    rw [← hname]
    simp only [pointerRecord_eq_ok_iff]
    constructor
    · rintro ⟨r, name, hname, -⟩
      exact ⟨name, hname⟩
    · rintro ⟨name, hname⟩
      exact ⟨_, name, hname, rfl⟩
  rw [← hrecords]
  simp only [buildReverseZone, hnet, horigin, bind, Except.bind]
  cases (addressed devices).mapM (pointerRecord (forwardOrigin settings network) net) with
  | error e => simp
  | ok records =>
    simp only [Except.ok.injEq, exists_eq', iff_true]
    split_ifs
    all_goals exact ⟨_, rfl⟩

/-- The text of a zone under a serial, where there is one. -/
def zoneText (zone : Option ZoneData) (serial : ℕ) : Option (List Char) :=
  (zone.map fun z => { z with serial }).map formatZone

theorem zoneText_eq_iff (zone : Option ZoneData) (serial serial' : ℕ) :
    zoneText zone serial' = zoneText zone serial ↔ (zone.isSome → serial' = serial) := by
  cases zone with
  | none => simp [zoneText]
  | some z =>
    simp only [zoneText, Option.map_some, Option.some.injEq, Option.isSome_some, forall_const]
    exact formatZone_serial_inj

theorem exists_forwardWrites (settings : DnsSettings) (db : Database) (network : Network) :
    ∃ zone, (zone.isSome ↔ HasForwardZone settings network (zoneDevices db network.id)
        (zoneEntries db network.id)) ∧
      ∀ serial, forwardWrites settings serial db network =
        single (zoneFilename (forwardOrigin settings network)) (zoneText zone serial) := by
  refine ⟨buildNetworkZone settings 0 network (zoneDevices db network.id)
    (zoneEntries db network.id), buildNetworkZone_isSome_iff, fun serial => ?_⟩
  rw [forwardWrites, buildNetworkZone_serial 0 serial, zoneText]

theorem exists_reverseWrites {file : String}
    (h : ReverseTouches network (zoneDevices db network.id) file) :
    ∃ zone, (zone.isSome ↔ HasReverseZone network (zoneDevices db network.id)) ∧
      ∀ serial, reverseWrites settings serial db network = single file (zoneText zone serial) := by
  obtain ⟨⟨origin, horigin, rfl⟩, hparse⟩ := h
  obtain ⟨zone, hzone⟩ : ∃ zone, buildReverseZone settings 0 network
      (zoneDevices db network.id) = .ok zone := (buildReverseZone_ok_iff horigin).2 hparse
  have hbuilt : (∃ built, buildReverseZone settings 0 network (zoneDevices db network.id) =
      .ok (some built)) ↔ HasReverseZone network (zoneDevices db network.id) :=
    exists_buildReverseZone_iff
  refine ⟨zone, ?_, fun serial => ?_⟩
  · rw [← hbuilt, hzone]
    cases zone <;> simp
  · simp only [reverseWrites, buildReverseZone_serial 0 serial, hzone, horigin, Except.map]
    rfl

theorem reverseWrites_eq_none {serial : ℕ} {file : String}
    (h : ¬ ReverseTouches network (zoneDevices db network.id) file) :
    reverseWrites settings serial db network file = none := by
  cases horigin : reverseZoneOrigin network.subnet with
  | none =>
    simp only [reverseWrites, horigin]
    cases buildReverseZone settings serial network (zoneDevices db network.id) <;> rfl
  | some origin =>
    cases hzone : buildReverseZone settings serial network (zoneDevices db network.id) with
    | error e => simp only [reverseWrites, hzone]
    | ok zone =>
      have hparse := (buildReverseZone_ok_iff horigin).1 ⟨zone, hzone⟩
      have hfile : file ≠ zoneFilename origin := fun heq => h ⟨⟨origin, horigin, heq.symm⟩, hparse⟩
      simp only [reverseWrites, hzone, horigin, single, if_neg hfile]

/-- A reverse zone has a file. -/
theorem HasReverseZone.touches {devices : List Device} (h : HasReverseZone network devices) :
    ∃ file, ReverseTouches network devices file := by
  obtain ⟨horigin, -, hparse⟩ := h
  obtain ⟨origin, horigin⟩ := Option.isSome_iff_exists.1 horigin
  exact ⟨_, ⟨origin, horigin, rfl⟩, hparse⟩

theorem reverseWrites_isSome_iff {serial : ℕ} {file : String} :
    (reverseWrites settings serial db network file).isSome ↔
      ReverseTouches network (zoneDevices db network.id) file := by
  by_cases h : ReverseTouches network (zoneDevices db network.id) file
  · obtain ⟨zone, -, hwrites⟩ := @exists_reverseWrites settings db network file h
    rw [hwrites, single, if_pos rfl]
    exact iff_of_true rfl h
  · rw [reverseWrites_eq_none h]
    exact iff_of_false (by simp) h

theorem agree_reverseWrites_iff (serial serial' : ℕ) :
    Agree (reverseWrites settings serial db network) (reverseWrites settings serial' db network) ↔
      (HasReverseZone network (zoneDevices db network.id) → serial' = serial) := by
  by_cases h : ∃ file, ReverseTouches network (zoneDevices db network.id) file
  · obtain ⟨file, h⟩ := h
    obtain ⟨zone, hzone, hwrites⟩ := @exists_reverseWrites settings db network file h
    rw [hwrites, hwrites, agree_single_iff, zoneText_eq_iff, hzone]
  · refine iff_of_true (fun file c c' hc => ?_) fun hzone => absurd hzone.touches h
    rw [reverseWrites_eq_none fun htouch => h ⟨file, htouch⟩] at hc
    cases hc

theorem syncWrites_twice_iff {s₁ s₁' s₂ s₂' : ℕ} {files : Files String} :
    (syncWrites settings s₂ s₂' db network).apply
        ((syncWrites settings s₁ s₁' db network).apply files) =
      (syncWrites settings s₁ s₁' db network).apply files ↔
    (ForwardStands settings db network → s₂ = s₁) ∧
      (HasReverseZone network (zoneDevices db network.id) → s₂' = s₁') := by
  obtain ⟨zone, hzone, hwrites⟩ := exists_forwardWrites settings db network
  have hreverse : ∀ file, (reverseWrites settings s₂' db network file).isSome =
      (reverseWrites settings s₁' db network file).isSome := fun file => by
    rw [Bool.eq_iff_iff, reverseWrites_isSome_iff, reverseWrites_isSome_iff]
  have hplaces : ∀ file, (syncWrites settings s₂ s₂' db network file).isSome →
      (syncWrites settings s₁ s₁' db network file).isSome := fun file => by
    simp only [syncWrites, andThen, Option.isSome_or, hreverse, hwrites, single, Bool.or_eq_true]
    refine Or.imp_right fun h => ?_
    split_ifs at h ⊢
    · rfl
    · exact h
  have hstands : ForwardStands settings db network ↔ zone.isSome ∧
      reverseWrites settings s₁' db network
        (zoneFilename (forwardOrigin settings network)) = none := by
    have hleft : (reverseWrites settings s₁' db network
        (zoneFilename (forwardOrigin settings network))).isSome ↔ _ := reverseWrites_isSome_iff
    rw [ForwardStands, hzone, ← hleft, Option.not_isSome_iff_eq_none]
  rw [apply_apply_eq_iff hplaces, syncWrites, syncWrites, hwrites, hwrites,
    agree_andThen_iff hreverse, agree_reverseWrites_iff, zoneText_eq_iff, hstands]
  tauto

/-- **Serials and second passes.**  No reading of the clock gives a serial below `2 ^ 32`; a later
one gives a larger serial exactly if the second has changed; and a second pass over the same
devices and entries leaves the zone files as they are exactly if the zones that stand in them
were built in the same second both times. -/
theorem zone_serials (hn : network ∈ db.networks) (files : Files String) {t₁ t₁' t₂ t₂' : ℤ}
    (h₁ : datetimeMin ≤ t₁) (h₁' : datetimeMin ≤ t₁') (h₂ : datetimeMin ≤ t₂)
    (h₂' : datetimeMin ≤ t₂') :
    ¬ makeSerial t₁ < 2 ^ 32 ∧
      (makeSerial t₁ < makeSerial t₂ ↔ t₁ / 1000000 < t₂ / 1000000) ∧
      ((syncAt settings t₂ t₂' db network.id
          (syncAt settings t₁ t₁' db network.id files).1).1 =
        (syncAt settings t₁ t₁' db network.id files).1 ↔
        (ForwardStands settings db network → t₂ / 1000000 = t₁ / 1000000) ∧
          (HasReverseZone network (zoneDevices db network.id) →
            t₂' / 1000000 = t₁' / 1000000)) := by
  refine ⟨Nat.not_lt.2 (makeSerial_ge h₁), makeSerial_lt_iff h₁ h₂, ?_⟩
  rw [syncAt_files hn, syncAt_files hn, syncWrites_twice_iff, makeSerial_inj h₂ h₁,
    makeSerial_inj h₂' h₁']

end

/-- A house whose zones were built twice in one second. -/
theorem zone_serials_home :
    ¬ makeSerial 1767225600000000 < 2 ^ 32 ∧
      (makeSerial 1767225600000000 < makeSerial 1767225600900000 ↔
        (1767225600000000 : ℤ) / 1000000 < 1767225600900000 / 1000000) ∧
      ((syncAt dnsOn 1767225600900000 1767225600900000 homes home.id
          (syncAt dnsOn 1767225600000000 1767225600000000 homes home.id fun _ => none).1).1 =
        (syncAt dnsOn 1767225600000000 1767225600000000 homes home.id fun _ => none).1 ↔
        (ForwardStands dnsOn homes home →
            (1767225600900000 : ℤ) / 1000000 = 1767225600000000 / 1000000) ∧
          (HasReverseZone home (zoneDevices homes home.id) →
            (1767225600900000 : ℤ) / 1000000 = 1767225600000000 / 1000000)) :=
  zone_serials (by decide) _ (by decide) (by decide) (by decide) (by decide)

/-- The first second of 2026: the serial takes 45 bits, a change within the second has the same one,
and a pass in the next second rewrites a zone in which nothing has changed. -/
theorem home_rewritten :
    makeSerial 1767225600000000 = 20260101000000 ∧ ¬ 20260101000000 < 2 ^ 32 ∧
      makeSerial 1767225600900000 = 20260101000000 ∧
      (syncAt dnsOn 1767225601000000 1767225601000000 homes home.id
          (syncAt dnsOn 1767225600000000 1767225600000000 homes home.id fun _ => none).1).1 ≠
        (syncAt dnsOn 1767225600000000 1767225600000000 homes home.id fun _ => none).1 := by
  refine ⟨by decide, by decide, by decide, fun h => ?_⟩
  have hfile := congrFun h (zoneFilename (forwardOrigin dnsOn home))
  revert hfile
  decide +kernel

end Dns

end Midscale
