import Midscale.Data.MasterFile
import Midscale.Dns.Provider

/-!
# Forward and reverse zones

The zone files of a network as a DNS server reads them.  The data of a `PTR` record is printed
without a trailing dot, so it is a name below the reverse zone.

* `Agrees` : the files agree on an address.
* `Zone.type_of_mem_read` : the records that are read are those of the zone, and the `SOA` and `NS`
  records of the header.
* `last_of_readName` : an origin that can be read does not end with a dot.
* `zones_agree_iff` : **the files agree on no device**, so only when no reverse zone is written.
-/

namespace Midscale

namespace Dns

open MasterFile

/-! ### Agreement -/

/-- The name that the `PTR` records of an address stand at. -/
def reverseName (x : IPv4Address) : DomainName :=
  [IPv4Address.octetText (x.octet 0), IPv4Address.octetText (x.octet 1),
    IPv4Address.octetText (x.octet 2), IPv4Address.octetText (x.octet 3),
    "in-addr".toList, "arpa".toList]

/-- The address has one `PTR` record; its data is fully qualified, and the `A` records of the name
are exactly the address. -/
def Agrees (forward reverse : Option (List Char)) (x : IPv4Address) : Prop :=
  ∃ fs rs r word target, forward.bind read = some fs ∧ reverse.bind read = some rs ∧
    lookup rs (reverseName x) "PTR" = [r] ∧ r.data = [word] ∧ word.getLast? = some '.' ∧
    readName r.origin word = some target ∧ (lookup fs target "A").map (·.data) = [[x.chars]]

/-- The file of a zone after it was ensured. -/
def written (files : Files String) (zone : ZoneData) : Option (List Char) :=
  ensureZone files zone (zoneFilename zone.origin)

/-- If a reverse zone is written, so is a forward zone, and the files agree on every active
device. -/
def ZonesAgree (settings : DnsSettings) (serial serial' : ℕ) (files : Files String)
    (network : Network) (devices : List Device) (dnsEntries : List DNSEntry) : Prop :=
  ∀ reverse, buildReverseZone settings serial' network devices = .ok (some reverse) →
    ∃ forward, buildNetworkZone settings serial network devices dnsEntries = some forward ∧
      ∀ d ∈ addressed devices, ∀ x, IPv4Address.parse d.2 = some x →
        Agrees (written files forward) (written files reverse) x

theorem written_eq (files : Files String) (zone : ZoneData) :
    written files zone = some (formatZone zone) := by
  rw [written, ensureZone_eq, Function.update_self]

/-! ### What is plain -/

theorem isPlain_of_isAlphanum {c : Char} (hc : c.isAlphanum = true) : isPlain c = true := by
  have hne : ∀ d : Char, d.isAlphanum = false → c ≠ d := by
    rintro d hd rfl
    rw [hc] at hd
    cases hd
  simp only [isPlain, List.mem_cons, List.not_mem_nil, or_false, not_or, decide_eq_true_eq]
  exact ⟨hne _ rfl, hne _ rfl, hne _ rfl, hne _ rfl, hne _ rfl, hne _ rfl⟩

theorem isPlain_of_isNameChar {c : Char} (hc : isNameChar c = true) : isPlain c = true := by
  rcases (by simpa [isNameChar] using hc : c.isAlphanum = true ∨ c = '-') with h | rfl
  · exact isPlain_of_isAlphanum h
  · rfl

theorem isPlain_of_mem_domain (settings : DnsSettings) {c : Char}
    (hc : c ∈ settings.domain.toList) : isPlain c = true := by
  rcases of_decide_eq_true (List.all_eq_true.1 settings.domain_plain c hc) with h | h
  · exact isPlain_of_isAlphanum h
  · simp only [List.mem_cons, List.not_mem_nil, or_false] at h
    rcases h with rfl | rfl | rfl <;> rfl

theorem isWord_sanitize (name : String) : IsWord (sanitizeDnsName name).toList :=
  ⟨sanitize_ne_nil name, fun _ hc => isPlain_of_isNameChar (isNameChar_of_mem_sanitize hc)⟩

theorem isWord_forwardOrigin (settings : DnsSettings) (network : Network) :
    IsWord (forwardOrigin settings network).toList := by
  rw [forwardOrigin, String.toList_append, String.toList_append, List.append_assoc]
  refine (isWord_sanitize network.name).append fun c hc => ?_
  rcases List.mem_append.1 hc with hc | hc
  · rw [List.mem_singleton.1 hc]
    rfl
  · exact isPlain_of_mem_domain settings hc

theorem isWord_octetStr (x : IPv4Address) (i : ℕ) : IsWord (octetStr x i).toList := by
  rw [octetStr, String.toList_ofList]
  exact ⟨Nat.toDigits_ne_nil, fun c hc =>
    isPlain_of_isAlphanum (by simp [Char.isAlphanum, isDigit_of_mem_toDigits hc])⟩

/-! ### Reading a zone file -/

/-- The words of the line of a record can be told apart. -/
structure IsPrintable (r : DNSRecord) : Prop where
  name : IsWord r.name.toList
  name_ne : r.name ≠ "@"
  type : IsWord r.recordType.toList
  type_ne : isClassOrTtl r.recordType.toList = false
  value : IsWord r.value.toList
  ttl : r.ttl = 300

namespace IsPrintable

variable {r : DNSRecord} (h : IsPrintable r)

include h

theorem entryWords_line : entryWords r.line.toList =
    [r.name.toList, "300".toList, r.recordType.toList, r.value.toList] := by
  have hline : r.line.toList = r.name.toList ++ (List.replicate (30 - r.name.length + 1) ' ' ++
      ("300".toList ++ ' ' :: (List.replicate (5 - r.recordType.length) ' ' ++
        (r.recordType.toList ++ ' ' :: r.value.toList)))) := by
    have httl : (toString (300 : ℤ)).toList = "300".toList := rfl
    have hblank : " ".toList = [' '] := rfl
    simp only [DNSRecord.line, ljust, rjust, if_neg h.name_ne, h.ttl, httl, hblank,
      String.toList_append, String.toList_ofList, List.replicate_succ', List.append_assoc,
      List.cons_append, List.nil_append]
  have httl : IsWord "300".toList := by decide
  rw [entryWords, hline, h.name.not_blank, if_neg (by decide), h.name.words_append,
    httl.words_append_one, words_blanks_append, h.type.words_append_one, h.value.words_eq]

theorem readLine_line {s s' : Reading} (hs : s.pending = []) (hread : readLine s r.line.toList =
    some s') : s'.pending = [] ∧ (s'.records = s.records ∨ ∃ record,
      s'.records = s.records ++ [record] ∧ record.type = r.recordType.toList ∧
        record.data = [r.value.toList]) := by
  have hwords := h.entryWords_line
  have hparen : ∀ w, w = ['('] ∨ w = [')'] → w ∉ entryWords r.line.toList := by
    intro w hw hmem
    simp only [hwords, List.mem_cons, List.not_mem_nil, or_false] at hmem
    have hne : ∀ v, IsWord v → w ≠ v := by
      rintro v hv rfl
      exact hw.elim hv.ne_paren.1 hv.ne_paren.2
    rcases hmem with hv | hv | hv | hv
    · exact hne _ h.name hv
    · exact hne _ (by decide) hv
    · exact hne _ h.type hv
    · exact hne _ h.value hv
  rw [readLine_eq_entry hs (hparen _ (.inl rfl)) (hparen _ (.inr rfl)), hwords] at hread
  obtain ⟨hpending, hrecords⟩ := entry_eq_some hread
  refine ⟨hpending.trans hs, hrecords.imp id ?_⟩
  rintro ⟨first, rest, record, hws, -, -, hrest, hadd⟩
  obtain ⟨rfl, rfl⟩ := List.cons.inj hws
  have httl : isClassOrTtl "300".toList = true := by decide
  rw [List.dropWhile_cons_of_pos httl, List.dropWhile_cons_of_neg (by simp [h.type_ne])] at hrest
  obtain ⟨htype, hdata⟩ := List.cons.inj hrest
  exact ⟨record, hadd, htype.symm, hdata.symm⟩

end IsPrintable

/-- What holds of the records read so far: they are of the header, or of the zone. -/
def FromZone (zone : ZoneData) (record : ResourceRecord) : Prop :=
  record.type = "SOA".toList ∨ record.type = "NS".toList ∨
    ∃ r ∈ zone.records, record.type = r.recordType.toList ∧ record.data = [r.value.toList]

/-- Between two entries. -/
def Between (zone : ZoneData) (s : Reading) : Prop :=
  s.pending = [] ∧ ∀ record ∈ s.records, FromZone zone record

/-- Within the `SOA` record. -/
def WithinSoa (zone : ZoneData) (s : Reading) : Prop :=
  (∃ ws, s.pending = "@".toList :: "IN".toList :: "SOA".toList :: ws ∧ ['('] ∈ ws ∧ [')'] ∉ ws) ∧
    ∀ record ∈ s.records, FromZone zone record

section

variable {zone : ZoneData} {s s' : Reading}

theorem Between.readLine {line : List Char} (hs : Between zone s)
    (hopen : ['('] ∉ entryWords line) (hclose : [')'] ∉ entryWords line)
    (hline : ∀ first rest record, entryWords line = first :: rest → first ≠ "$TTL".toList →
      first ≠ "$ORIGIN".toList → rest.dropWhile isClassOrTtl = record.type :: record.data →
        FromZone zone record)
    (h : MasterFile.readLine s line = some s') : Between zone s' := by
  rw [readLine_eq_entry hs.1 hopen hclose] at h
  obtain ⟨hpending, hsame | ⟨first, rest, record, hws, httl, horigin, hrest, hadd⟩⟩ :=
    entry_eq_some h
  · exact ⟨hpending.trans hs.1, hsame ▸ hs.2⟩
  · refine ⟨hpending.trans hs.1, fun r hr => ?_⟩
    rw [hadd, List.mem_append, List.mem_singleton] at hr
    rcases hr with hr | rfl
    · exact hs.2 r hr
    · exact hline first rest r hws httl horigin hrest

theorem Between.blank (hs : Between zone s) (h : MasterFile.readLine s [] = some s') :
    Between zone s' :=
  hs.readLine (by decide) (by decide) (fun first rest record hws => by cases hws) h

theorem WithinSoa.readLine {line : List Char} (hs : WithinSoa zone s)
    (hclose : [')'] ∉ words line) (h : MasterFile.readLine s line = some s') :
    WithinSoa zone s' := by
  obtain ⟨⟨ws, hpending, hparen, hnot⟩, hrecords⟩ := hs
  have hopen : ['('] ∈ s.pending ++ words line := by simp [hpending, hparen]
  have hnone : [')'] ∉ s.pending ++ words line := by simp [hpending, hnot, hclose]
  have hne : s.pending ≠ [] := by simp [hpending]
  simp only [MasterFile.readLine, if_neg hne, if_pos (leavesOpen_iff.2 ⟨hopen, hnone⟩)] at h
  cases h
  exact ⟨⟨ws ++ words line, by simp [hpending], by simp [hparen], by simp [hnot, hclose]⟩, hrecords⟩

theorem WithinSoa.close (hs : WithinSoa zone s) (h : MasterFile.readLine s [')'] = some s') :
    Between zone s' := by
  obtain ⟨⟨ws, hpending, hparen, hnot⟩, hrecords⟩ := hs
  have hne : s.pending ≠ [] := by simp [hpending]
  have hwords : words [')'] = [[')']] := by decide
  simp only [MasterFile.readLine, if_neg hne, hwords] at h
  rw [if_neg (by simp [leavesOpen_iff])] at h
  obtain ⟨hpending', hsame | ⟨first, rest, record, hws, httl, horigin, hrest, hadd⟩⟩ :=
    entry_eq_some h
  · exact ⟨hpending', hsame ▸ hrecords⟩
  · refine ⟨hpending', fun r hr => ?_⟩
    rw [hadd, List.mem_append, List.mem_singleton] at hr
    rcases hr with hr | rfl
    · exact hrecords r hr
    · -- the type comes after the class
      left
      rw [hpending] at hws
      simp only [List.cons_append, List.filter_cons] at hws
      rw [if_pos (by decide), if_pos (by decide), if_pos (by decide)] at hws
      obtain ⟨-, rfl⟩ := List.cons.inj hws
      rw [List.dropWhile_cons_of_pos (by decide), List.dropWhile_cons_of_neg (by decide)] at hrest
      exact (List.cons.inj hrest).1.symm

theorem not_mem_toString {n : ℤ} {c : Char} (hc : c ≠ '-' ∧ c.isDigit = false) :
    c ∉ (toString n).toList := fun h => by
  rcases mem_toString_int h with rfl | hdigit
  · exact hc.1 rfl
  · rw [hc.2] at hdigit
    cases hdigit

theorem Between.directive (hs : Between zone s) (word : List Char) {rest : List Char}
    (hword : IsWord word) (hdirective : word = "$TTL".toList ∨ word = "$ORIGIN".toList)
    (hrest : '(' ∉ rest ∧ ')' ∉ rest)
    (h : MasterFile.readLine s (word ++ ' ' :: rest) = some s') : Between zone s' := by
  have hwords : entryWords (word ++ ' ' :: rest) = word :: words rest := by
    rw [entryWords, hword.not_blank, if_neg (by decide), hword.words_append_one]
  have hparen : ∀ c, c ≠ ' ' → c = '(' ∨ c = ')' → c ∉ rest →
      [c] ∉ entryWords (word ++ ' ' :: rest) := by
    intro c hblank hc hnot hmem
    rw [hwords, List.mem_cons] at hmem
    rcases hmem with rfl | hmem
    · rcases hdirective with heq | heq
      · cases heq
      · cases heq
    · exact hnot (mem_of_singleton_mem_words hblank hmem)
  refine hs.readLine (hparen _ (by decide) (.inl rfl) hrest.1)
    (hparen _ (by decide) (.inr rfl) hrest.2) (fun first more record hws httl horigin => ?_) h
  rw [hwords] at hws
  obtain ⟨rfl, -⟩ := List.cons.inj hws
  exact absurd hdirective (not_or.2 ⟨httl, horigin⟩)

theorem isWord_at : IsWord "@".toList := by decide

theorem isWord_in : IsWord "IN".toList := by decide

theorem Between.soa {server admin : List Char} (hs : Between zone s) (hserver : IsWord server)
    (hadmin : IsWord admin) (h : MasterFile.readLine s ("@".toList ++ (List.replicate 2 ' ' ++
      ("IN".toList ++ ' ' :: ("SOA".toList ++ (List.replicate 2 ' ' ++
        (server ++ ' ' :: (admin ++ ' ' :: ['('])))))))
      = some s') : WithinSoa zone s' := by
  have hsoa : IsWord "SOA".toList := by decide
  have hopen : words ['('] = [['(']] := by decide
  have hwords : entryWords ("@".toList ++ (List.replicate 2 ' ' ++ ("IN".toList ++ ' ' ::
      ("SOA".toList ++ (List.replicate 2 ' ' ++ (server ++ ' ' :: (admin ++ ' ' :: ['(']))))))) =
      ["@".toList, "IN".toList, "SOA".toList, server, admin, ['(']] := by
    rw [entryWords, isWord_at.not_blank, if_neg (by decide), isWord_at.words_append,
      isWord_in.words_append_one, hsoa.words_append, hserver.words_append_one,
      hadmin.words_append_one, hopen]
  simp only [MasterFile.readLine, hs.1, if_true, hwords] at h
  have hnot : [')'] ∉ [server, admin, ['(']] := by
    simp [hserver.ne_paren.2.symm, hadmin.ne_paren.2.symm]
  rw [if_pos (leavesOpen_iff.2 ⟨by simp, by simpa using hnot⟩)] at h
  cases h
  exact ⟨⟨_, rfl, by simp, hnot⟩, hs.2⟩

theorem Between.ns {server : List Char} (hs : Between zone s) (hserver : IsWord server)
    (h : MasterFile.readLine s ("@".toList ++ (List.replicate 2 ' ' ++ ("IN".toList ++ ' ' ::
      ("NS".toList ++ (List.replicate 2 ' ' ++ server))))) = some s') : Between zone s' := by
  have hns : IsWord "NS".toList := by decide
  have hwords : entryWords ("@".toList ++ (List.replicate 2 ' ' ++ ("IN".toList ++ ' ' ::
      ("NS".toList ++ (List.replicate 2 ' ' ++ server))))) =
      ["@".toList, "IN".toList, "NS".toList, server] := by
    rw [entryWords, isWord_at.not_blank, if_neg (by decide), isWord_at.words_append,
      isWord_in.words_append_one, hns.words_append, hserver.words_eq]
  refine hs.readLine ?_ ?_ (fun first rest record hws _ _ hrest => ?_) h
  · rw [hwords]
    simp [hserver.ne_paren.1.symm]
  · rw [hwords]
    simp [hserver.ne_paren.2.symm]
  · rw [hwords] at hws
    obtain ⟨-, rfl⟩ := List.cons.inj hws
    rw [List.dropWhile_cons_of_pos (by decide), List.dropWhile_cons_of_neg (by decide)] at hrest
    exact .inr (.inl (List.cons.inj hrest).1.symm)

/-- The header of a zone adds its `SOA` and `NS` records. -/
theorem between_header (horigin : IsWord zone.origin.toList)
    (hadmin : zone.adminEmail = "admin.wg.midscale")
    (h : ((headerLines zone).map String.toList).foldlM MasterFile.readLine {} = some s') :
    Between zone s' := by
  have hnumber : ∀ n : ℤ, '(' ∉ (toString n).toList ∧ ')' ∉ (toString n).toList := fun n =>
    ⟨not_mem_toString (by decide), not_mem_toString (by decide)⟩
  have hparen : ∀ c, c = '(' ∨ c = ')' → c ∉ zone.origin.toList ++ ".".toList := by
    intro c hc hmem
    rcases List.mem_append.1 hmem with hmem | hmem
    · exact hc.elim (horigin.ne hmem).2.2.2.2.1 (horigin.ne hmem).2.2.2.2.2
    · rw [List.mem_singleton.1 hmem] at hc
      exact absurd hc (by decide)
  have hserver : IsWord ("ns1.".toList ++ (zone.origin.toList ++ ".".toList)) :=
    IsWord.append (by decide) fun c hc => (List.mem_append.1 hc).elim (horigin.2 c)
      fun hc => by rw [List.mem_singleton.1 hc]; rfl
  have hadminWord : IsWord ((String.ofList (zone.adminEmail.toList.map fun c =>
      if c = '@' then '.' else c)).toList ++ ".".toList) := by
    rw [hadmin]
    decide
  simp only [headerLines, List.map_cons, List.map_nil, List.foldlM_cons, List.foldlM_nil,
    Option.bind_eq_bind, Option.bind_eq_some_iff, String.toList_append] at h
  obtain ⟨s₁, h₁, s₂, h₂, s₃, h₃, s₄, h₄, s₅, h₅, s₆, h₆, s₇, h₇, s₈, h₈, s₉, h₉, s₁₀, h₁₀, s₁₁,
    h₁₁, s₁₂, h₁₂, s₁₃, h₁₃, hlast⟩ := h
  cases hlast
  have hstart : Between zone {} := ⟨rfl, fun _ hr => by cases hr⟩
  have hb₁ : Between zone s₁ := hstart.directive "$ORIGIN".toList (by decide)
    (.inr rfl) ⟨hparen _ (.inl rfl), hparen _ (.inr rfl)⟩ h₁
  have hb₂ : Between zone s₂ := hb₁.directive "$TTL".toList (by decide)
    (.inl rfl) (hnumber zone.ttl) h₂
  have hb₄ : WithinSoa zone s₄ := by
    refine Between.soa (hb₂.blank h₃) hserver hadminWord ?_
    simp only [List.append_assoc] at h₄ ⊢
    exact h₄
  have hclose : ∀ {line : List Char}, ')' ∉ line → [')'] ∉ words line := fun hline hmem =>
    hline (mem_of_singleton_mem_words (by decide) hmem)
  have hserial : ')' ∉ (toString zone.serial).toList := fun hmem => by
    rw [toList_toString] at hmem
    exact absurd (isDigit_of_mem_toDigits hmem) (by decide)
  have hb₅ : WithinSoa zone s₅ := hb₄.readLine (hclose (by simpa using hserial)) h₅
  have hb₈ : WithinSoa zone s₈ := ((hb₅.readLine (hclose (by decide)) h₆).readLine
    (hclose (by decide)) h₇).readLine (hclose (by decide)) h₈
  have hb₉ : WithinSoa zone s₉ := hb₈.readLine (hclose (by simpa using (hnumber zone.ttl).2)) h₉
  have hb₁₁ : Between zone s₁₁ := (hb₉.close h₁₀).blank h₁₁
  have hb₁₂ : Between zone s₁₂ := by
    refine hb₁₁.ns hserver ?_
    simp only [List.append_assoc] at h₁₂
    exact h₁₂
  exact hb₁₂.blank h₁₃

theorem not_mem_lines (horigin : IsWord zone.origin.toList)
    (hadmin : zone.adminEmail = "admin.wg.midscale")
    (hrecords : ∀ r ∈ zone.records, IsPrintable r) :
    ∀ line ∈ (zoneLines zone).map String.toList, '\n' ∉ line := by
  have hnumber : ∀ n : ℤ, '\n' ∉ n.repr.toList := fun n => not_mem_toString (by decide)
  have hserial : '\n' ∉ Nat.toDigits 10 zone.serial := fun hmem =>
    absurd (isDigit_of_mem_toDigits hmem) (by decide)
  have hbreak : '\n' ∉ zone.origin.toList := fun hc => (horigin.ne hc).2.2.1 rfl
  rintro line hline
  obtain ⟨text, htext, rfl⟩ := List.mem_map.1 hline
  simp only [zoneLines, List.mem_append, List.mem_singleton] at htext
  rcases htext with (hheader | hrecord) | rfl
  · simp only [headerLines, hadmin, List.mem_cons, List.not_mem_nil, or_false] at hheader
    rcases hheader with rfl | rfl | rfl | rfl | rfl | rfl | rfl | rfl | rfl | rfl | rfl | rfl | rfl
      <;> simp [hbreak, hnumber, hserial]
  · obtain ⟨r, hr, rfl⟩ := exists_of_mem_recordLines hrecord
    have h := hrecords r hr
    have hw : ∀ {w : List Char}, IsWord w → '\n' ∉ w := fun hw hc => (hw.ne hc).2.2.1 rfl
    simp [DNSRecord.line, ljust, rjust, h.name_ne, h.ttl, hw h.name, hw h.type, hw h.value, hnumber]
  · decide

/-- **The records that are read** from the file of a plain zone are its own, and those of the
header. -/
theorem fromZone_of_read (horigin : IsWord zone.origin.toList)
    (hadmin : zone.adminEmail = "admin.wg.midscale") (hrecords : ∀ r ∈ zone.records, IsPrintable r)
    {rs : List ResourceRecord} (h : read (formatZone zone) = some rs) :
    ∀ record ∈ rs, FromZone zone record := by
  have hne : (zoneLines zone).map String.toList ≠ [] := by simp [zoneLines, headerLines]
  rw [MasterFile.read, formatZone,
    List.splitOn_intercalate '\n' (not_mem_lines horigin hadmin hrecords) hne, zoneLines,
    List.map_append, List.map_append, List.foldlM_append, List.foldlM_append] at h
  obtain ⟨s, hlines, hrs⟩ := Option.bind_eq_some_iff.1 h
  obtain ⟨s₂, hbody, hlast⟩ := Option.bind_eq_some_iff.1 hlines
  obtain ⟨s₁, hheader, hbody⟩ := Option.bind_eq_some_iff.1 hbody
  have hline : ∀ line ∈ (recordLines [] zone.records).map String.toList, ∀ s s',
      Between zone s → MasterFile.readLine s line = some s' → Between zone s' := by
    rintro line hline s s' hs hread
    obtain ⟨text, htext, rfl⟩ := List.mem_map.1 hline
    obtain ⟨r, hr, rfl⟩ := exists_of_mem_recordLines htext
    obtain ⟨hpending, hsame | ⟨record, hadd, htype, hdata⟩⟩ :=
      (hrecords r hr).readLine_line hs.1 hread
    · exact ⟨hpending, hsame ▸ hs.2⟩
    · refine ⟨hpending, fun r' hr' => ?_⟩
      rw [hadd, List.mem_append, List.mem_singleton] at hr'
      rcases hr' with hr' | rfl
      · exact hs.2 r' hr'
      · exact .inr (.inr ⟨r, hr, htype, hdata⟩)
  have hb₂ : Between zone s₂ :=
    foldlM_readLine_invariant hline (between_header horigin hadmin hheader) hbody
  have hb : Between zone s := by
    simp only [List.map_cons, List.map_nil, List.foldlM_cons, List.foldlM_nil, Option.bind_eq_bind,
      Option.bind_eq_some_iff] at hlast
    obtain ⟨s₃, h₃, hsame⟩ := hlast
    cases hsame
    exact hb₂.blank h₃
  split_ifs at hrs
  cases hrs
  exact hb.2

end

/-- The origin of a file that can be read is well formed. -/
theorem origin_of_read {zone : ZoneData} (horigin : IsWord zone.origin.toList)
    {rs : List ResourceRecord} (h : read (formatZone zone) = some rs) :
    ∃ origin, readName [] (zone.origin.toList ++ ['.']) = some origin := by
  have hword : IsWord (zone.origin.toList ++ ['.']) := horigin.append fun c hc => by
    rw [List.mem_singleton.1 hc]
    rfl
  have hkeyword : IsWord "$ORIGIN".toList := by decide
  have hdirective : ("$ORIGIN " ++ zone.origin ++ ".").toList =
      "$ORIGIN".toList ++ ' ' :: (zone.origin.toList ++ ['.']) := by
    rw [String.toList_append, String.toList_append, List.append_assoc]
    rfl
  obtain ⟨line, lines, hlines⟩ : ∃ line lines, (zoneLines zone).map String.toList =
      ("$ORIGIN".toList ++ ' ' :: (zone.origin.toList ++ ['.'])) :: line :: lines :=
    ⟨_, _, congrArg (· :: _ :: _) hdirective⟩
  have hbreak : '\n' ∉ "$ORIGIN".toList ++ ' ' :: (zone.origin.toList ++ ['.']) := by
    simpa using fun hc => (horigin.ne hc).2.2.1 rfl
  have hwords : entryWords ("$ORIGIN".toList ++ ' ' :: (zone.origin.toList ++ ['.'])) =
      ["$ORIGIN".toList, zone.origin.toList ++ ['.']] := by
    rw [entryWords, hkeyword.not_blank, if_neg (by decide), hkeyword.words_append_one,
      hword.words_eq]
  rw [MasterFile.read, formatZone, hlines, List.intercalate_cons_cons, List.append_assoc,
    List.singleton_append, List.splitOn_append_cons_self, List.splitOn_eq_singleton hbreak,
    List.foldlM_append] at h
  obtain ⟨s, hread, -⟩ := Option.bind_eq_some_iff.1 h
  obtain ⟨s₁, hfirst, -⟩ := Option.bind_eq_some_iff.1 hread
  rw [List.foldlM_cons] at hfirst
  obtain ⟨s₂, hline, -⟩ := Option.bind_eq_some_iff.1 hfirst
  rw [readLine_eq_entry rfl (by rw [hwords]; simp [hword.ne_paren.1.symm])
    (by rw [hwords]; simp [hword.ne_paren.2.symm]), hwords] at hline
  obtain ⟨origin, horigin, -⟩ := Option.map_eq_some_iff.1 hline
  exact ⟨origin, horigin⟩

/-! ### The zones of a network -/

section

variable {settings : DnsSettings} {serial serial' : ℕ} {network : Network} {devices : List Device}
  {dnsEntries : List DNSEntry} {files : Files String} {zone forward : ZoneData}

theorem isWord_reverseZoneOrigin {subnet origin : String}
    (h : reverseZoneOrigin subnet = some origin) : IsWord origin.toList := by
  obtain ⟨net, -, h⟩ := Option.bind_eq_some_iff.1 h
  have hsuffix : IsWord ".in-addr.arpa".toList := by decide
  have hdot : IsWord ".".toList := by decide
  have hoctet := fun i => isWord_octetStr net.networkAddress i
  split_ifs at h with h8 h24 h16
  all_goals
    cases h
    simp only [String.toList_append]
  · exact (((((hoctet 2).append hdot.2).append (hoctet 1).2).append hdot.2).append
      (hoctet 0).2).append hsuffix.2
  · exact (((hoctet 1).append hdot.2).append (hoctet 0).2).append hsuffix.2
  · exact (hoctet 0).append hsuffix.2

theorem isPrintable_of_mem_reverse
    (h : buildReverseZone settings serial network devices = .ok (some zone)) {r : DNSRecord}
    (hr : r ∈ zone.records) : IsPrintable r ∧ r.recordType = "PTR" ∧
      ∃ name, r.value = sanitizeDnsName name ++ "." ++ forwardOrigin settings network := by
  obtain ⟨net, hnet, horigin, -, hall, -⟩ := buildReverseZone_eq_some_iff.1 h
  obtain ⟨d, -, hd⟩ := (mem_of_mapM_eq_ok hall).1 hr
  obtain ⟨name, hname, rfl⟩ := pointerRecord_eq_ok_iff.1 hd
  obtain ⟨net', hnet', h8⟩ := reverseZoneOrigin_isSome_iff.1 (Option.isSome_of_eq_some horigin)
  cases hnet.symm.trans hnet'
  obtain ⟨hne, hchars⟩ := reverseRecordName_spec h8 hname
  have htype : IsWord "PTR".toList := by decide
  have hclass : isClassOrTtl "PTR".toList = false := by decide
  refine ⟨⟨⟨hne, fun c hc => ?_⟩, ?_, htype, hclass, ?_, rfl⟩, rfl, d.1.name, rfl⟩
  · rcases hchars c hc with h | rfl
    · exact isPlain_of_isAlphanum (by simp [Char.isAlphanum, h])
    · rfl
  · rintro rfl
    exact absurd (hchars '@' (by decide)) (by decide)
  · simp only [String.toList_append]
    have hdot : IsWord ".".toList := by decide
    exact ((isWord_sanitize d.1.name).append hdot.2).append
      (isWord_forwardOrigin settings network).2

theorem origin_of_buildNetworkZone
    (h : buildNetworkZone settings serial network devices dnsEntries = some forward) :
    forward.origin = forwardOrigin settings network := by
  simp only [buildNetworkZone] at h
  split_ifs at h
  rw [← Option.some.inj h]

theorem not_agrees (hforward : buildNetworkZone settings serial network devices dnsEntries =
      some forward) (hreverse : buildReverseZone settings serial' network devices = .ok (some zone))
    (x : IPv4Address) : ¬ Agrees (written files forward) (written files zone) x := by
  rintro ⟨fs, rs, r, word, target, hfs, hrs, hlookup, hdata, hlast, -⟩
  rw [written_eq, Option.bind_some] at hfs hrs
  -- the record is one of the zone
  obtain ⟨net, -, horigin, -, -, hzone⟩ := buildReverseZone_eq_some_iff.1 hreverse
  have hmem : r ∈ rs ∧ r.type = "PTR".toList := by
    have : r ∈ lookup rs (reverseName x) "PTR" := hlookup ▸ List.mem_singleton.2 rfl
    simp only [lookup, List.mem_filter, decide_eq_true_eq] at this
    exact ⟨this.1, this.2.2⟩
  have hfrom := fromZone_of_read (isWord_reverseZoneOrigin horigin) (by rw [hzone])
    (fun r hr => (isPrintable_of_mem_reverse hreverse hr).1) hrs r hmem.1
  obtain ⟨record, hrecord, -, hvalue⟩ := (hfrom.resolve_left (by rw [hmem.2]; decide)).resolve_left
    (by rw [hmem.2]; decide)
  obtain ⟨-, -, name, hname⟩ := isPrintable_of_mem_reverse hreverse hrecord
  rw [hdata, List.cons.injEq, hname] at hvalue
  -- so the origin of the forward zone ends with a dot
  have hforwardOrigin := origin_of_buildNetworkZone hforward
  have hword := isWord_forwardOrigin settings network
  obtain ⟨front, hfront⟩ : ∃ front, (forwardOrigin settings network).toList = front ++ ['.'] := by
    rw [hvalue.1, String.toList_append, List.getLast?_append_of_ne_nil _ hword.1] at hlast
    exact ⟨_, (List.dropLast_append_getLast? '.' hlast).symm⟩
  obtain ⟨origin, hread⟩ := origin_of_read (hforwardOrigin ▸ hword) hfs
  rw [hforwardOrigin, hfront, List.append_assoc] at hread
  rw [List.singleton_append, readName_two_dots] at hread
  cases hread

/-- **The zone files of a network agree** only when no reverse zone is written. -/
theorem zones_agree_iff (settings : DnsSettings) (serial serial' : ℕ) (files : Files String)
    (network : Network) (devices : List Device) (dnsEntries : List DNSEntry) :
    ZonesAgree settings serial serial' files network devices dnsEntries ↔
      ¬ HasReverseZone network devices := by
  constructor
  · intro hagree hhas
    obtain ⟨zone, hzone⟩ := exists_buildReverseZone_iff.2 hhas
    obtain ⟨forward, hforward, hdevices⟩ := hagree zone hzone
    obtain ⟨d, hd⟩ := List.exists_mem_of_ne_nil _ hhas.2.1
    obtain ⟨x, hx⟩ := Option.isSome_iff_exists.1 (hhas.2.2 d hd)
    exact not_agrees hforward hzone x (hdevices d hd x hx)
  · intro hhas zone hzone
    exact absurd (exists_buildReverseZone_iff.1 ⟨zone, hzone⟩) hhas

end

def office : Network := { id := .ofNat 113, name := "Office", subnet := "10.1.2.0/24" }

def scanner : Device :=
  { id := .ofNat 114, name := "Scanner", networkId := .ofNat 113, ipAddress := some "10.1.2.5" }

def plotter : Device :=
  { id := .ofNat 115, name := "Plotter", networkId := .ofNat 113, ipAddress := some "10.1.2.6" }

def officeReverse : ZoneData :=
  { origin := "2.1.10.in-addr.arpa"
    records := [{ name := "5", recordType := "PTR", value := "scanner.office.wg.midscale" },
      { name := "6", recordType := "PTR", value := "plotter.office.wg.midscale" }]
    serial := 20260101 }

/-- The labels of a name. -/
def labels (name : String) : DomainName := name.toList.splitOn '.'

/-- The target of the scanner's address is read as a name of the reverse zone, and the files do not
agree on it. -/
theorem scanner_below_reverse_zone :
    ¬ ZonesAgree {} 20260101 20260101 (fun _ => none) office [scanner, plotter] [] ∧
      buildReverseZone {} 20260101 office [scanner, plotter] = .ok (some officeReverse) ∧
      (read (formatZone officeReverse)).map (fun rs =>
        (lookup rs (labels "5.2.1.10.in-addr.arpa") "PTR").map fun r =>
          r.data.map (readName r.origin)) =
        some [[some (labels "scanner.office.wg.midscale.2.1.10.in-addr.arpa")]] := by
  have hreverse : buildReverseZone {} 20260101 office [scanner, plotter] =
      .ok (some officeReverse) := by decide +kernel
  refine ⟨fun hagree => ?_, hreverse, by decide +kernel⟩
  obtain ⟨forward, hforward, hdevices⟩ := hagree officeReverse hreverse
  have hscanner : (scanner, "10.1.2.5") ∈ addressed [scanner, plotter] := by decide
  exact not_agrees hforward hreverse _ (hdevices _ hscanner _ rfl)

end Dns

end Midscale
