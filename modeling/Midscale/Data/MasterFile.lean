import Mathlib.Algebra.GroupWithZero.Nat
import Mathlib.Data.List.TakeWhile
import Midscale.Data.Text

/-!
# Master files

The reading of a zone file after RFC 1035: directives, records over one line or in parentheses,
comments, owners that are left out, and names that are relative to the origin.  Quotes, escapes and
`$INCLUDE` are not read.

* `readName` : a name without a trailing dot is relative to the origin.
* `read` : the records of a file, in order.
* `words_append_blank`, `IsWord.words_append` : what the words of a line are.
* `entry_eq_some` : what one entry adds.
* `foldlM_readLine_invariant` : what every line preserves is preserved by all of them.
-/

namespace Midscale

namespace MasterFile

/-- A complete domain name: its labels in lower case, without the root. -/
abbrev DomainName := List (List Char)

/-- Labels are not empty and have at most 63 characters; a name has at most 255. -/
def wellFormed (name : DomainName) : Bool :=
  name.all (fun label => label ≠ [] ∧ label.length ≤ 63) ∧
    (name.map fun label => label.length + 1).sum + 1 ≤ 255

/-- The name that a word stands for: `@` is the origin, a name with a trailing dot is complete and
any other is relative to the origin. -/
def readName (origin : DomainName) (word : List Char) : Option DomainName :=
  if word = ['@'] then some origin
  else if word = ['.'] then some []
  else
    let labels := (word.splitOn '.').map (·.map Char.toLower)
    let name := if labels.getLast? = some [] then labels.dropLast else labels ++ origin
    if wellFormed name then some name else none

/-- A record, with the origin that the names in its data are relative to. -/
structure ResourceRecord where
  owner : DomainName
  type : List Char
  data : List (List Char)
  origin : DomainName
  deriving DecidableEq, Repr

/-- What was read so far: `pending` are the words of an entry whose parenthesis is open. -/
structure Reading where
  origin : DomainName := []
  owner : Option DomainName := none
  pending : List (List Char) := []
  records : List ResourceRecord := []

/-- The characters between words. -/
def isBlank (c : Char) : Bool := c = ' ' ∨ c = '\t'

/-- The words of a line before its comment; a parenthesis is a word. -/
def words (line : List Char) : List (List Char) :=
  (((line.takeWhile (· ≠ ';')).flatMap fun c =>
    if c = '(' ∨ c = ')' then [' ', c, ' '] else [c]).splitOnP isBlank).filter (· ≠ [])

/-- The words of a line that begins an entry, the first one empty when the owner is left out. -/
def entryWords (line : List Char) : List (List Char) :=
  if line.head?.any isBlank then [] :: words line else words line

/-- A word between the owner and the type. -/
def isClassOrTtl (word : List Char) : Bool :=
  ["IN".toList, "CS".toList, "CH".toList, "HS".toList].contains word || word.all Char.isDigit

/-- The owner of an entry: the one before it, when it is left out. -/
def ownerOf (s : Reading) (first : List Char) : Option DomainName :=
  if first = [] then s.owner else readName s.origin first

/-- One entry, `none` when it is malformed. -/
def entry (s : Reading) : List (List Char) → Option Reading
  | [] => some s
  | first :: rest =>
    if first = [] ∧ rest = [] then some s
    else if first = "$TTL".toList then some s
    else if first = "$ORIGIN".toList then
      (rest.head?.bind (readName s.origin)).map fun origin => { s with origin }
    else
      (ownerOf s first).bind fun owner =>
        match rest.dropWhile isClassOrTtl with
        | [] => none
        | type :: data => some
          { s with owner := some owner, records := s.records ++ [⟨owner, type, data, s.origin⟩] }

/-- The words leave a parenthesis open. -/
def leavesOpen (ws : List (List Char)) : Bool := ws.contains ['('] && !ws.contains [')']

/-- One line: it begins an entry or goes on with the open one. -/
def readLine (s : Reading) (line : List Char) : Option Reading :=
  let ws := if s.pending = [] then entryWords line else s.pending ++ words line
  if leavesOpen ws then some { s with pending := ws }
  else entry { s with pending := [] } (ws.filter fun w => w ≠ ['('] ∧ w ≠ [')'])

/-- The records of a file, `none` when it is malformed. -/
def read (text : List Char) : Option (List ResourceRecord) :=
  ((text.splitOn '\n').foldlM readLine {}).bind fun s =>
    if s.pending = [] then some s.records else none

/-- The records of an owner of one type. -/
def lookup (records : List ResourceRecord) (owner : DomainName) (type : String) :
    List ResourceRecord := records.filter fun r => r.owner = owner ∧ r.type = type.toList

/-! ### Names -/

theorem readName_two_dots (origin : DomainName) (word : List Char) :
    readName origin (word ++ ['.', '.']) = none := by
  have hsplit : ((word ++ ['.', '.']).splitOn '.') = word.splitOn '.' ++ [[], []] := by
    rw [List.splitOn_append_cons_self, List.splitOn_cons_eq_if_modifyHead]
    simp
  have hlen : 2 ≤ (word ++ ['.', '.']).length := by simp
  have hat : word ++ ['.', '.'] ≠ ['@'] := fun h => by rw [h] at hlen; simp at hlen
  have hdot : word ++ ['.', '.'] ≠ ['.'] := fun h => by rw [h] at hlen; simp at hlen
  have hlast : (((word ++ ['.', '.']).splitOn '.').map (·.map Char.toLower)).getLast? =
      some [] := by simp [hsplit]
  have hbad : wellFormed ((((word ++ ['.', '.']).splitOn '.').map (·.map Char.toLower)).dropLast) =
      false := by
    rw [hsplit]
    simp [wellFormed, List.dropLast_append_of_ne_nil]
  simp only [readName, if_neg hat, if_neg hdot, hlast, if_true, hbad]
  rfl

/-! ### Words -/

/-- A character that stands for itself in a word. -/
def isPlain (c : Char) : Bool := c ∉ [' ', '\t', '\n', ';', '(', ')']

theorem words_append_blank {front : List Char} (hfront : ';' ∉ front) (rest : List Char) :
    words (front ++ ' ' :: rest) = words front ++ words rest := by
  have htake : (front ++ ' ' :: rest).takeWhile (· ≠ ';') =
      front ++ ' ' :: rest.takeWhile (· ≠ ';') := by
    rw [List.takeWhile_append_of_pos fun c hc => by simpa using fun h : c = ';' => hfront (h ▸ hc)]
    simp
  have hself : front.takeWhile (· ≠ ';') = front :=
    List.takeWhile_eq_self_iff.2 fun c hc => by simpa using fun h : c = ';' => hfront (h ▸ hc)
  rw [words, words, words, htake, hself, List.flatMap_append, List.flatMap_cons]
  have hblank : isBlank ' ' = true := rfl
  simp only [Char.reduceEq, or_self, if_false, List.singleton_append]
  rw [List.splitOnP_append_cons _ _ hblank, List.filter_append]

theorem words_blank_cons (rest : List Char) : words (' ' :: rest) = words rest :=
  @words_append_blank [] (by simp) rest

theorem words_blanks_append (n : ℕ) (rest : List Char) :
    words (List.replicate n ' ' ++ rest) = words rest := by
  induction n with
  | zero => rfl
  | succ n ih => rw [List.replicate_succ, List.cons_append, words_blank_cons, ih]

theorem mem_of_mem_splitOnP {p : Char → Bool} {cs part : List Char} {c : Char}
    (hpart : part ∈ cs.splitOnP p) (hc : c ∈ part) : c ∈ cs := by
  induction cs generalizing part with
  | nil =>
    rw [List.splitOnP_nil, List.mem_singleton] at hpart
    exact hpart ▸ hc
  | cons d cs ih =>
    rw [List.splitOnP_cons_eq_if_modifyHead] at hpart
    split_ifs at hpart with hd
    · rcases List.mem_cons.1 hpart with rfl | hpart
      · cases hc
      · exact List.mem_cons_of_mem d (ih hpart hc)
    · obtain ⟨g, gs, hgs⟩ := List.exists_cons_of_ne_nil (List.splitOnP_ne_nil p cs)
      rw [hgs, List.modifyHead_cons, List.mem_cons] at hpart
      rcases hpart with rfl | hpart
      · rcases List.mem_cons.1 hc with rfl | hc
        · exact List.mem_cons_self
        · exact List.mem_cons_of_mem d (ih (hgs ▸ List.mem_cons_self) hc)
      · exact List.mem_cons_of_mem d (ih (hgs ▸ List.mem_cons_of_mem g hpart) hc)

theorem mem_of_singleton_mem_words {line : List Char} {c : Char} (hc : c ≠ ' ')
    (h : [c] ∈ words line) : c ∈ line := by
  have hflat := mem_of_mem_splitOnP (List.mem_filter.1 h).1 (List.mem_singleton.2 rfl)
  obtain ⟨d, hd, hcd⟩ := List.mem_flatMap.1 hflat
  have hline := (List.takeWhile_sublist _).subset hd
  split_ifs at hcd with hparen
  · simp only [List.mem_cons, List.not_mem_nil, or_false] at hcd
    rcases hcd with h | rfl | h
    · exact absurd h hc
    · exact hline
    · exact absurd h hc
  · rwa [List.mem_singleton.1 hcd]

/-- A word without blanks, comments, parentheses and line breaks. -/
def IsWord (word : List Char) : Prop := word ≠ [] ∧ ∀ c ∈ word, isPlain c = true

instance : DecidablePred IsWord := fun word =>
  decidable_of_iff (word ≠ [] ∧ word.all isPlain = true)
    (and_congr_right fun _ => List.all_eq_true)

namespace IsWord

variable {word : List Char} (hw : IsWord word)

include hw

theorem ne {c : Char} (hc : c ∈ word) :
    c ≠ ' ' ∧ c ≠ '\t' ∧ c ≠ '\n' ∧ c ≠ ';' ∧ c ≠ '(' ∧ c ≠ ')' := by
  have := hw.2 c hc
  simpa only [isPlain, List.mem_cons, List.not_mem_nil, or_false, not_or,
    decide_eq_true_eq] using this

theorem words_eq : words word = [word] := by
  have htake : word.takeWhile (· ≠ ';') = word :=
    List.takeWhile_eq_self_iff.2 fun c hc => by simpa using (hw.ne hc).2.2.2.1
  have hflat : (word.flatMap fun c => if c = '(' ∨ c = ')' then [' ', c, ' '] else [c]) = word := by
    conv_rhs => rw [← List.flatMap_singleton' word]
    exact List.flatMap_congr fun c hc => if_neg (not_or.2 (hw.ne hc).2.2.2.2)
  rw [words, htake, hflat, List.splitOnP_eq_singleton]
  · simp [hw.1]
  · exact fun c hc => by simpa [isBlank] using ⟨(hw.ne hc).1, (hw.ne hc).2.1⟩

/-- A word, blanks and what comes after. -/
theorem words_append (n : ℕ) (rest : List Char) :
    words (word ++ (List.replicate (n + 1) ' ' ++ rest)) = word :: words rest := by
  have hsemi : ';' ∉ word := fun h => (hw.ne h).2.2.2.1 rfl
  rw [List.replicate_succ, List.cons_append, words_append_blank hsemi, words_blanks_append,
    hw.words_eq, List.singleton_append]

theorem words_append_one (rest : List Char) :
    words (word ++ ' ' :: rest) = word :: words rest := hw.words_append 0 rest

theorem not_blank {rest : List Char} : (word ++ rest).head?.any isBlank = false := by
  obtain ⟨c, cs, rfl⟩ := List.exists_cons_of_ne_nil hw.1
  have := hw.ne List.mem_cons_self
  simp [isBlank, this.1, this.2.1]

theorem ne_paren : word ≠ ['('] ∧ word ≠ [')'] :=
  ⟨fun h => (hw.ne (h ▸ List.mem_singleton.2 rfl)).2.2.2.2.1 rfl,
    fun h => (hw.ne (h ▸ List.mem_singleton.2 rfl)).2.2.2.2.2 rfl⟩

end IsWord

theorem IsWord.append {word more : List Char} (hw : IsWord word)
    (hmore : ∀ c ∈ more, isPlain c = true) : IsWord (word ++ more) :=
  ⟨fun h => hw.1 (List.append_eq_nil_iff.1 h).1, fun c hc =>
    (List.mem_append.1 hc).elim (hw.2 c) (hmore c)⟩

/-! ### Files -/

/-- What every line of a list preserves is preserved by all of them. -/
theorem foldlM_readLine_invariant {Inv : Reading → Prop} {lines : List (List Char)}
    (hline : ∀ line ∈ lines, ∀ s s', Inv s → readLine s line = some s' → Inv s') {s s' : Reading}
    (hs : Inv s) (h : lines.foldlM readLine s = some s') : Inv s' := by
  induction lines generalizing s with
  | nil => cases h; exact hs
  | cons line lines ih =>
    rw [List.foldlM_cons] at h
    obtain ⟨s₁, hfirst, hrest⟩ := Option.bind_eq_some_iff.1 h
    exact ih (fun l hl => hline l (List.mem_cons_of_mem _ hl))
      (hline line List.mem_cons_self s s₁ hs hfirst) hrest

/-- What an entry adds: nothing, or one record with the type and the data of its words. -/
theorem entry_eq_some {s s' : Reading} {ws : List (List Char)} (h : entry s ws = some s') :
    s'.pending = s.pending ∧ (s'.records = s.records ∨ ∃ first rest r, ws = first :: rest ∧
      first ≠ "$TTL".toList ∧ first ≠ "$ORIGIN".toList ∧
      rest.dropWhile isClassOrTtl = r.type :: r.data ∧ s'.records = s.records ++ [r]) := by
  cases ws with
  | nil => cases h; exact ⟨rfl, .inl rfl⟩
  | cons first rest =>
    simp only [entry] at h
    split_ifs at h with hempty httl horigin
    · cases h; exact ⟨rfl, .inl rfl⟩
    · cases h; exact ⟨rfl, .inl rfl⟩
    · obtain ⟨origin, -, rfl⟩ := Option.map_eq_some_iff.1 h
      exact ⟨rfl, .inl rfl⟩
    · obtain ⟨owner, -, hrecord⟩ := Option.bind_eq_some_iff.1 h
      cases hrest : rest.dropWhile isClassOrTtl with
      | nil => rw [hrest] at hrecord; cases hrecord
      | cons type data =>
        rw [hrest] at hrecord
        cases hrecord
        exact ⟨rfl, .inr ⟨first, rest, _, rfl, httl, horigin, hrest, rfl⟩⟩

theorem leavesOpen_iff {ws : List (List Char)} :
    leavesOpen ws = true ↔ ['('] ∈ ws ∧ [')'] ∉ ws := by
  simp [leavesOpen]

theorem readLine_eq_entry {s : Reading} (hs : s.pending = []) {line : List Char}
    (hopen : ['('] ∉ entryWords line) (hclose : [')'] ∉ entryWords line) :
    readLine s line = entry s (entryWords line) := by
  have hfilter : ((entryWords line).filter fun w => w ≠ ['('] ∧ w ≠ [')']) = entryWords line :=
    List.filter_eq_self.2 fun w hw => by
      simpa using ⟨fun h => hopen (h ▸ hw), fun h => hclose (h ▸ hw)⟩
  simp only [readLine, hs, if_true, hfilter]
  rw [if_neg fun h => hopen (leavesOpen_iff.1 h).1, ← hs]

end MasterFile

end Midscale
