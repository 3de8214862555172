import Midscale.Data.JsonLoads

/-!
# Indented JSON and torn files

`json.dump(value, file, indent=2)`, and what `json.load` makes of the text if a crash has left only
a front part of it.

* `Json.readString_torn` : a string without its closing quote is refused.
* `Json.loads_indented` : an object of texts is read back.
* `Json.loads_torn` : **a front part of it is refused.**
-/

namespace Midscale

namespace Json

/-! ### Writing -/

/-- A new line, indented. -/
def newline (depth : ℕ) : List Char := '\n' :: List.replicate (2 * depth) ' '

mutual

/-- The text of a value at a depth. -/
def writeIndent (depth : ℕ) : Json → List Char
  | arr [] => ['[', ']']
  | arr (x :: xs) =>
    '[' :: (newline (depth + 1) ++ (writeIndent (depth + 1) x ++
      (indentElems (depth + 1) xs ++ (newline depth ++ [']']))))
  | obj [] => ['{', '}']
  | obj ((k, x) :: fs) =>
    '{' :: (newline (depth + 1) ++ (writeString k ++ ':' :: ' ' :: (writeIndent (depth + 1) x ++
      (indentFields (depth + 1) fs ++ (newline depth ++ ['}'])))))
  | null => null.write
  | bool b => (bool b).write
  | int n => (int n).write
  | float x => (float x).write
  | str s => (str s).write

/-- The elements that follow the first. -/
def indentElems (depth : ℕ) : List Json → List Char
  | [] => []
  | x :: xs => ',' :: (newline depth ++ (writeIndent depth x ++ indentElems depth xs))

/-- The fields that follow the first. -/
def indentFields (depth : ℕ) : List (String × Json) → List Char
  | [] => []
  | (k, x) :: fs => ',' :: (newline depth ++ (writeString k ++
      ':' :: ' ' :: (writeIndent depth x ++ indentFields depth fs)))

end

/-- `json.dumps(value, indent=2)`. -/
def dumpsIndent (j : Json) : List Char := j.writeIndent 0

/-- An object of texts. -/
def ofTexts (fs : List (String × String)) : Json := .obj (fs.map fun f => (f.1, .str f.2))

/-- What follows the first field of an object of texts. -/
def textsTail (fs : List (String × String)) : List Char :=
  indentFields 1 (fs.map fun f => (f.1, .str f.2)) ++ ['\n', '}']

/-- The fields of an object of texts, with its brace. -/
def textsBody (k v : String) (fs : List (String × String)) : List Char :=
  '"' :: (k.toList.flatMap escapeChar ++ '"' :: ':' :: ' ' :: '"' :: (v.toList.flatMap escapeChar ++
    '"' :: textsTail fs))

theorem dumpsIndent_ofTexts (k v : String) (fs : List (String × String)) :
    (ofTexts ((k, v) :: fs)).dumpsIndent = '{' :: '\n' :: ' ' :: ' ' :: textsBody k v fs := by
  simp [ofTexts, dumpsIndent, writeIndent, newline, write, writeString, textsBody, textsTail]

theorem textsTail_cons (k v : String) (fs : List (String × String)) :
    textsTail ((k, v) :: fs) = ',' :: '\n' :: ' ' :: ' ' :: textsBody k v fs := by
  simp [textsTail, indentFields, writeIndent, newline, write, writeString, textsBody]

/-! ### Front parts -/

theorem prefix_append_cases {α : Type*} {q a b : List α} (h : q <+: a ++ b) :
    q <+: a ∨ ∃ q', q = a ++ q' ∧ q' <+: b := by
  rcases List.prefix_or_prefix_of_prefix h (List.prefix_append a b) with hq | ⟨q', rfl⟩
  · exact .inl hq
  · exact .inr ⟨q', rfl, (List.prefix_append_right_inj a).1 h⟩

theorem cons_prefix_torn {α : Type*} {q b : List α} {a : α} (h : q <+: a :: b) (hne : q ≠ a :: b) :
    q = [] ∨ ∃ q', q = a :: q' ∧ q' <+: b ∧ q' ≠ b := by
  rcases List.prefix_cons_iff.1 h with rfl | ⟨q', rfl, hq⟩
  · exact .inl rfl
  · exact .inr ⟨q', rfl, hq, fun heq => hne (heq ▸ rfl)⟩

theorem readHex4_torn {n : ℕ} {q : List Char} (h : q <+: hex4 n) (hne : q ≠ hex4 n) :
    readHex4 q = none := by
  have hlt : q.length < 4 := by
    have hle : q.length ≤ 4 := h.length_le
    have hlen : q.length ≠ 4 := fun hlen => hne (h.eq_of_length hlen)
    omega
  match q, hlt with
  | [], _ => rfl
  | [_], _ => rfl
  | [_, _], _ => rfl
  | [_, _, _], _ => rfl

theorem readChar_unit_torn {n : ℕ} {q : List Char} (h : q <+: '\\' :: 'u' :: hex4 n)
    (hne : q ≠ '\\' :: 'u' :: hex4 n) : readChar q = none := by
  rcases cons_prefix_torn h hne with rfl | ⟨q, rfl, h, hne⟩
  · rfl
  rcases cons_prefix_torn h hne with rfl | ⟨q, rfl, h, hne⟩
  · rfl
  · simp only [readChar, readHex4_torn h hne, Option.bind_eq_bind, Option.bind_none]

theorem readChar_pair_torn {n m : ℕ} (hn : n < 0x10000) (hlow : 0xd800 ≤ n ∧ n < 0xdc00)
    {q : List Char} (h : q <+: '\\' :: 'u' :: hex4 m) (hne : q ≠ '\\' :: 'u' :: hex4 m) :
    readChar ('\\' :: 'u' :: (hex4 n ++ q)) = none := by
  simp only [readChar, readHex4_hex4 hn, Option.bind_eq_bind, Option.bind_some, if_pos hlow]
  rcases cons_prefix_torn h hne with rfl | ⟨q, rfl, h, hne⟩
  · rfl
  rcases cons_prefix_torn h hne with rfl | ⟨q, rfl, h, hne⟩
  · rfl
  · simp only [readHex4_torn h hne, Option.bind_none]

theorem readChar_torn {c : Char} {q : List Char} (h : q <+: escapeChar c) (hne : q ≠ escapeChar c) :
    readChar q = none := by
  rcases escapeChar_cases c with ⟨e, -, he⟩ | ⟨he, -⟩ | he
  · rw [he] at h hne
    rcases cons_prefix_torn h hne with rfl | ⟨q, rfl, h, hne⟩
    · rfl
    rcases cons_prefix_torn h hne with rfl | ⟨q, -, h, hne⟩
    · rfl
    · exact absurd (List.prefix_nil.1 h) hne
  · rw [he] at h hne
    rcases cons_prefix_torn h hne with rfl | ⟨q, -, h, hne⟩
    · rfl
    · exact absurd (List.prefix_nil.1 h) hne
  · rw [he] at h hne
    rcases unicodeEscape_cases c with ⟨hu, -⟩ | ⟨high, low, hu, hhigh, -⟩
    · rw [hu] at h hne
      exact readChar_unit_torn h hne
    · rw [hu] at h hne
      have hlt : high < 0x10000 := by omega
      -- the first unit may be whole, but the second is not
      rcases prefix_append_cases (a := '\\' :: 'u' :: hex4 high) h with hq | ⟨q, rfl, hq⟩
      · by_cases hwhole : q = '\\' :: 'u' :: hex4 high
        · have hpair := readChar_pair_torn (m := low) hlt hhigh List.nil_prefix
            (List.cons_ne_nil _ _).symm
          rwa [List.append_nil, ← hwhole] at hpair
        · exact readChar_unit_torn hq hwhole
      · exact readChar_pair_torn hlt hhigh hq fun heq => hne (heq ▸ rfl)

/-- **A string without its closing quote is refused.** -/
theorem readString_torn {s q : List Char} (h : q <+: s.flatMap escapeChar) (n : ℕ) :
    readString n q = none := by
  induction s generalizing q n with
  | nil =>
    obtain rfl := List.prefix_nil.1 h
    cases n <;> rfl
  | cons c s ih =>
    cases n with
    | zero => rfl
    | succ n =>
      have hrest : ∀ q', q' <+: s.flatMap escapeChar →
          readString (n + 1) (escapeChar c ++ q') = none := by
        intro q' hq'
        rw [readString_escapeChar, ih hq' n, Option.map_none]
      rw [List.flatMap_cons] at h
      rcases prefix_append_cases h with hq | ⟨q', rfl, hq'⟩
      · by_cases hwhole : q = escapeChar c
        · simpa [hwhole] using hrest [] List.nil_prefix
        · have hchar := readChar_torn hq hwhole
          -- an escaped character does not begin with a quote
          have hquote : ∀ cs, q ≠ '"' :: cs := by
            rintro cs rfl
            obtain ⟨t, ht⟩ := hq
            have hread := readChar_escapeChar c []
            rw [← ht] at hread
            cases hread
          rw [readString.eq_3 _ _ hquote, hchar]
          rfl
      · exact hrest q' hq'

/-! ### Objects of texts -/

section

variable (k v : String) (n : ℕ) {rest t : List Char}

theorem readFields_key : readFields (n + 1)
    ('"' :: (k.toList.flatMap escapeChar ++ '"' :: ':' :: rest)) =
      (readValue n (skipSpace rest)).bind fun r =>
        if (skipSpace r.2).head? = some '}' then some ([(k, r.1)], (skipSpace r.2).tail)
        else if (skipSpace r.2).head? = some ',' then
          (readFields n (skipSpace (skipSpace r.2).tail)).map fun r' => ((k, r.1) :: r'.1, r'.2)
        else none := by
  rw [readFields, readString_writeString]
  change (readValue n (skipSpace rest)).bind _ = _
  congr 1
  funext r
  dsimp only
  rw [String.ofList_toList]
  cases skipSpace r.2 with
  | nil => rfl
  | cons c cs =>
    by_cases hbrace : c = '}'
    · subst hbrace
      rfl
    · by_cases hcomma : c = ','
      · subst hcomma
        change (readFields n (skipSpace cs)).bind _ = _
        cases hfs : readFields n (skipSpace cs) with
        | none => simp [hfs]
        | some r' => simp [hfs]
      · simp [hbrace, hcomma]

theorem readValue_text (after : List Char) :
    readValue (n + 1) ('"' :: (v.toList.flatMap escapeChar ++ '"' :: after)) =
      some (.str v, after) := by
  rw [readValue, readString_writeString, Option.map_some, String.ofList_toList]

theorem readFields_textsBody (fs : List (String × String)) (hn : fs.length + 2 ≤ n) :
    readFields n (textsBody k v fs ++ t) =
      some ((k, .str v) :: fs.map fun f => (f.1, .str f.2), t) := by
  induction fs generalizing k v n with
  | nil =>
    obtain ⟨n, rfl⟩ : ∃ m, n = m + 2 := ⟨n - 2, by simp at hn; omega⟩
    have hvalue := readValue_text v n ('\n' :: '}' :: t)
    simp only [textsBody, textsTail, List.map_nil, indentFields, List.nil_append, List.cons_append,
      List.append_assoc, readFields_key]
    change (readValue (n + 1) ('"' :: _)).bind _ = _
    rw [hvalue]
    rfl
  | cons f fs ih =>
    obtain ⟨l, w⟩ := f
    obtain ⟨n, rfl⟩ : ∃ m, n = m + 2 := ⟨n - 2, by simp at hn; omega⟩
    have hnext := ih l w (n + 1) (by simp at hn; omega)
    have hvalue := readValue_text v n (',' :: '\n' :: ' ' :: ' ' :: (textsBody l w fs ++ t))
    rw [textsBody, textsTail_cons]
    simp only [List.cons_append, List.append_assoc, readFields_key]
    change (readValue (n + 1) ('"' :: _)).bind _ = _
    rw [hvalue]
    change (readFields (n + 1) (textsBody l w fs ++ t)).map _ = _
    rw [hnext]
    rfl

theorem readFields_nil : readFields n [] = none := by
  cases n <;> rfl

theorem readValue_nil : readValue n [] = none := by
  cases n <;> rfl

theorem readValue_text_torn {q : List Char} (h : q <+: v.toList.flatMap escapeChar) :
    readValue n ('"' :: q) = none := by
  cases n with
  | zero => rfl
  | succ n => rw [readValue, readString_torn h, Option.map_none]

theorem skipSpace_indent_torn {b q : List Char} (h : q <+: '\n' :: ' ' :: ' ' :: '"' :: b)
    (hne : q ≠ '\n' :: ' ' :: ' ' :: '"' :: b) :
    skipSpace q <+: '"' :: b ∧ skipSpace q ≠ '"' :: b := by
  rcases cons_prefix_torn h hne with rfl | ⟨q, rfl, h, hne⟩
  · exact ⟨List.nil_prefix, (List.cons_ne_nil _ _).symm⟩
  rcases cons_prefix_torn h hne with rfl | ⟨q, rfl, h, hne⟩
  · exact ⟨List.nil_prefix, (List.cons_ne_nil _ _).symm⟩
  rcases cons_prefix_torn h hne with rfl | ⟨q, rfl, h, hne⟩
  · exact ⟨List.nil_prefix, (List.cons_ne_nil _ _).symm⟩
  rcases cons_prefix_torn h hne with rfl | ⟨q, rfl, -, -⟩
  · exact ⟨List.nil_prefix, (List.cons_ne_nil _ _).symm⟩
  · exact ⟨h, hne⟩

/-- A front part of what follows the first field is refused. -/
theorem readFields_key_torn {fs : List (String × String)} {q : List Char}
    (hfields : ∀ l w fs', fs = (l, w) :: fs' → ∀ q', q' <+: textsBody l w fs' →
      q' ≠ textsBody l w fs' → readFields n q' = none)
    (h : q <+: '"' :: (v.toList.flatMap escapeChar ++ '"' :: textsTail fs))
    (hne : q ≠ '"' :: (v.toList.flatMap escapeChar ++ '"' :: textsTail fs)) :
    readFields (n + 1) ('"' :: (k.toList.flatMap escapeChar ++ '"' :: ':' :: ' ' :: q)) = none := by
  rw [readFields_key]
  change (readValue n (skipSpace q)).bind _ = none
  rcases cons_prefix_torn h hne with rfl | ⟨q, rfl, h, hne⟩
  · exact congrArg (Option.bind · _) (readValue_nil n)
  change (readValue n ('"' :: q)).bind _ = none
  rcases prefix_append_cases h with hq | ⟨q, rfl, hq⟩
  · rw [readValue_text_torn v n hq, Option.bind_none]
  rcases cons_prefix_torn hq fun heq => hne (heq ▸ rfl) with rfl | ⟨q, rfl, h, hne⟩
  · rw [List.append_nil, readValue_text_torn v n (List.prefix_refl _), Option.bind_none]
  cases n with
  | zero => rfl
  | succ n =>
    rw [readValue_text, Option.bind_some]
    cases fs with
    | nil =>
      rcases cons_prefix_torn h hne with rfl | ⟨q, rfl, h, hne⟩
      · rfl
      rcases cons_prefix_torn h hne with rfl | ⟨q, -, h, hne⟩
      · rfl
      · exact absurd (List.prefix_nil.1 h) hne
    | cons f fs =>
      obtain ⟨l, w⟩ := f
      rw [textsTail_cons] at h hne
      rcases cons_prefix_torn h hne with rfl | ⟨q, rfl, h, hne⟩
      · rfl
      obtain ⟨hq, hqne⟩ := skipSpace_indent_torn h hne
      change (readFields (n + 1) (skipSpace q)).map _ = none
      rw [hfields l w fs rfl _ hq hqne, Option.map_none]

theorem readFields_torn_of_key {fs : List (String × String)} {q : List Char}
    (hkey : ∀ n q', q' <+: '"' :: (v.toList.flatMap escapeChar ++ '"' :: textsTail fs) →
      q' ≠ '"' :: (v.toList.flatMap escapeChar ++ '"' :: textsTail fs) → readFields (n + 1)
        ('"' :: (k.toList.flatMap escapeChar ++ '"' :: ':' :: ' ' :: q')) = none)
    (h : q <+: textsBody k v fs) (hne : q ≠ textsBody k v fs) : readFields n q = none := by
  rcases cons_prefix_torn h hne with rfl | ⟨q, rfl, h, hne⟩
  · exact readFields_nil n
  cases n with
  | zero => rfl
  | succ n =>
    rcases prefix_append_cases h with hq | ⟨q, rfl, hq⟩
    · rw [readFields, readString_torn hq]
      rfl
    rcases cons_prefix_torn hq fun heq => hne (heq ▸ rfl) with rfl | ⟨q, rfl, h, hne⟩
    · rw [List.append_nil, readFields, readString_torn (List.prefix_refl _)]
      rfl
    rcases cons_prefix_torn h hne with rfl | ⟨q, rfl, h, hne⟩
    · rw [readFields, readString_writeString]
      rfl
    rcases cons_prefix_torn h hne with rfl | ⟨q, rfl, h, hne⟩
    · rw [readFields_key]
      exact congrArg (Option.bind · _) (readValue_nil n)
    · exact hkey n q h hne

/-- **A front part of the fields is refused.** -/
theorem readFields_textsBody_torn (fs : List (String × String)) {q : List Char}
    (h : q <+: textsBody k v fs) (hne : q ≠ textsBody k v fs) : readFields n q = none := by
  induction fs generalizing k v n q with
  | nil =>
    refine readFields_torn_of_key k v n (fun n q' hq' hne' => ?_) h hne
    exact readFields_key_torn k v n (fun _ _ _ hnil => by cases hnil) hq' hne'
  | cons f fs ih =>
    refine readFields_torn_of_key k v n (fun n q' hq' hne' => ?_) h hne
    refine readFields_key_torn k v n (fun l w fs' hfs q'' hq'' hne'' => ?_) hq' hne'
    obtain ⟨rfl, rfl⟩ := List.cons.inj hfs
    exact ih l w n hq'' hne''

end

theorem length_textsBody (k v : String) (fs : List (String × String)) :
    fs.length + 2 ≤ (textsBody k v fs).length := by
  induction fs generalizing k v with
  | nil =>
    simp only [textsBody, List.length_cons, List.length_append, List.length_nil]
    omega
  | cons f fs ih =>
    have hfs := ih f.1 f.2
    have htail : (textsTail (f :: fs)).length = (textsBody f.1 f.2 fs).length + 4 := by
      rw [textsTail_cons f.1 f.2]
      rfl
    rw [textsBody]
    simp only [List.length_cons, List.length_append, htail]
    omega

theorem readValue_brace {n : ℕ} {cs : List Char} (h : ∀ rest, skipSpace cs ≠ '}' :: rest) :
    readValue (n + 1) ('{' :: cs) =
      (readFields n (skipSpace cs)).map fun r => (obj (itemsOf r.1), r.2) := by
  rw [readValue]
  split
  · rename_i rest heq
    exact absurd heq (h rest)
  · rfl

/-- **An object of texts is read back.** -/
theorem loads_indented {k v : String} {fs : List (String × String)}
    (hkeys : (((k, v) :: fs).map Prod.fst).Nodup) :
    loads (String.ofList (ofTexts ((k, v) :: fs)).dumpsIndent) = some (ofTexts ((k, v) :: fs)) := by
  have hlen := length_textsBody k v fs
  have hfields := readFields_textsBody (t := []) k v ((textsBody k v fs).length + 4) fs (by omega)
  have hkeys' : (((k, Json.str v) :: fs.map fun f => (f.1, Json.str f.2)).map Prod.fst).Nodup := by
    simpa [Function.comp_def] using hkeys
  rw [List.append_nil] at hfields
  rw [loads, String.toList_ofList, dumpsIndent_ofTexts]
  change (readValue ((textsBody k v fs).length + 4 + 1) ('{' :: '\n' :: ' ' :: ' ' ::
    textsBody k v fs)).bind _ = _
  rw [readValue_brace fun rest h => by cases h]
  change ((readFields ((textsBody k v fs).length + 4) (textsBody k v fs)).map _).bind _ = _
  rw [hfields, Option.map_some, Option.bind_some, itemsOf_of_nodup hkeys']
  rfl

/-- **A front part of it is refused.** -/
theorem loads_torn {k v : String} {fs : List (String × String)} {q : List Char}
    (h : q <+: (ofTexts ((k, v) :: fs)).dumpsIndent)
    (hne : q ≠ (ofTexts ((k, v) :: fs)).dumpsIndent) : loads (String.ofList q) = none := by
  rw [dumpsIndent_ofTexts] at h hne
  rw [loads, String.toList_ofList]
  rcases cons_prefix_torn h hne with rfl | ⟨q, rfl, h, hne⟩
  · rfl
  obtain ⟨hq, hqne⟩ := skipSpace_indent_torn h hne
  have hbrace : ∀ rest, skipSpace q ≠ '}' :: rest := by
    intro rest heq
    rw [heq] at hq
    obtain ⟨t, ht⟩ := hq
    cases ht
  change (readValue (q.length + 1 + 1) ('{' :: q)).bind _ = none
  rw [readValue_brace hbrace, readFields_textsBody_torn k v _ fs hq hqne]
  rfl

end Json

end Midscale
