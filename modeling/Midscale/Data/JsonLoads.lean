import Mathlib.Data.List.TakeWhile
import Midscale.Data.Dict
import Midscale.Data.Json
import Midscale.Data.Text

/-!
# Reading JSON

`json.loads` on a text.  Floating-point numbers keep the text they are written with; an escaped
surrogate without its partner, which Python keeps, is refused, since it is no character.

* `Json.readValue` : one value at the front of a text, and the rest; the first argument bounds the
  recursion, and the length of the text is enough.
* `Json.loadable` : what a Python program can hand to `json.dumps`: every key of an object once,
  and numbers as they are written.
* `Json.loads_dumps`, `Json.loads_dumpsSorted` : **what `json.dumps` writes is read back.**
-/

namespace Midscale

namespace Json

/-- The white space of JSON. -/
def skipSpace (cs : List Char) : List Char := cs.dropWhile fun c => c ∈ [' ', '\t', '\n', '\r']

/-! ### Strings -/

/-- Four hexadecimal digits and the rest. -/
def readHex4 : List Char → Option (ℕ × List Char)
  | a :: b :: c :: d :: rest => do
    let a ← parseHexDigit a
    let b ← parseHexDigit b
    let c ← parseHexDigit c
    let d ← parseHexDigit d
    some (((a * 16 + b) * 16 + c) * 16 + d, rest)
  | _ => none

/-- The characters with an escape of two characters. -/
def readShort (e : Char) : Option Char :=
  if e ∈ ['"', '\\', '/', 'b', 'f', 'n', 'r', 't'] then some (shortUnescape e) else none

/-- One character of a string and the rest; `none` at the closing quote, at a control character
and at an escape that JSON does not have. -/
def readChar : List Char → Option (Char × List Char)
  | '\\' :: 'u' :: rest => do
    let (n, rest) ← readHex4 rest
    if 0xd800 ≤ n ∧ n < 0xdc00 then
      match rest with
      | '\\' :: 'u' :: rest => do
        let (m, rest) ← readHex4 rest
        if 0xdc00 ≤ m ∧ m < 0xe000 then
          some (Char.ofNat (0x10000 + (n - 0xd800) * 0x400 + (m - 0xdc00)), rest)
        else none
      | _ => none
    else if 0xdc00 ≤ n ∧ n < 0xe000 then none
    else some (Char.ofNat n, rest)
  | '\\' :: e :: rest => (readShort e).map (·, rest)
  | c :: rest => if c = '"' ∨ c = '\\' ∨ c.toNat < 0x20 then none else some (c, rest)
  | [] => none

/-- The characters up to the closing quote, and what follows it. -/
def readString : ℕ → List Char → Option (List Char × List Char)
  | 0, _ => none
  | _ + 1, '"' :: rest => some ([], rest)
  | n + 1, cs => do
    let (c, rest) ← readChar cs
    let (s, rest) ← readString n rest
    some (c :: s, rest)

theorem readHex4_hex4 {n : ℕ} (h : n < 0x10000) (t : List Char) :
    readHex4 (hex4 n ++ t) = some (n, t) := by
  have hdigit : ∀ d < 16, parseHexDigit (Nat.digitChar d) = some d := by decide
  have hd : ∀ m, parseHexDigit (Nat.digitChar (m % 16)) = some (m % 16) := fun m =>
    hdigit _ (Nat.mod_lt _ (by decide))
  simp only [hex4, List.map_cons, List.map_nil, List.cons_append, List.nil_append, readHex4, hd,
    Option.bind_eq_bind, Option.bind_some, Option.some.injEq, Prod.mk.injEq, and_true]
  omega

theorem readChar_hex4 {n : ℕ} (h : n < 0x10000) (hlow : ¬ (0xd800 ≤ n ∧ n < 0xdc00))
    (hhigh : ¬ (0xdc00 ≤ n ∧ n < 0xe000)) (t : List Char) :
    readChar ('\\' :: 'u' :: (hex4 n ++ t)) = some (Char.ofNat n, t) := by
  simp only [readChar, readHex4_hex4 h, Option.bind_eq_bind, Option.bind_some, if_neg hlow,
    if_neg hhigh]

theorem readChar_surrogates {n m : ℕ} (h : n < 0x10000) (hlow : 0xd800 ≤ n ∧ n < 0xdc00)
    (h' : m < 0x10000) (hhigh : 0xdc00 ≤ m ∧ m < 0xe000) (t : List Char) :
    readChar ('\\' :: 'u' :: (hex4 n ++ '\\' :: 'u' :: (hex4 m ++ t))) =
      some (Char.ofNat (0x10000 + (n - 0xd800) * 0x400 + (m - 0xdc00)), t) := by
  simp only [readChar, readHex4_hex4 h, readHex4_hex4 h', Option.bind_eq_bind, Option.bind_some,
    if_pos hlow, if_pos hhigh]

theorem readChar_unicodeEscape (c : Char) (t : List Char) :
    readChar (unicodeEscape c.toNat ++ t) = some (c, t) := by
  rcases unicodeEscape_cases c with ⟨h, hlt, hplane⟩ | ⟨high, low, h, hhigh, hlow, hc⟩
  · rw [h, List.cons_append, List.cons_append, readChar_hex4 hlt (by omega) (by omega),
      Char.ofNat_toNat]
  · rw [h, List.cons_append, List.cons_append, List.append_assoc, List.cons_append,
      List.cons_append, readChar_surrogates (by omega) hhigh (by omega) hlow, hc]

theorem readChar_escapeChar (c : Char) (t : List Char) :
    readChar (escapeChar c ++ t) = some (c, t) := by
  have hshort : ∀ e, shortEscape c = some e → e ≠ 'u' ∧ readShort e = some c := by
    intro e he
    unfold shortEscape at he
    split_ifs at he <;> subst_vars <;> cases he <;> decide
  rcases escapeChar_cases c with ⟨e, he, h⟩ | ⟨h, hcontrol, hquote, hback⟩ | h
  · obtain ⟨hu, hc⟩ := hshort e he
    simp [h, readChar, hc]
  · simp [h, readChar, hquote, hback, hcontrol]
  · rw [h, readChar_unicodeEscape]

theorem readString_escapeChar (n : ℕ) (c : Char) (t : List Char) :
    readString (n + 1) (escapeChar c ++ t) =
      (readString n t).map fun r => (c :: r.1, r.2) := by
  have hread := readChar_escapeChar c t
  revert hread
  generalize escapeChar c ++ t = cs
  intro hread
  match cs, hread with
  | [], hread => cases hread
  | d :: cs, hread =>
    by_cases hd : d = '"'
    · subst hd
      cases hread
    · rw [readString.eq_3 _ _ (by simpa using hd), hread]
      change (readString n t).bind (fun r => some (c :: r.1, r.2)) = _
      cases readString n t <;> rfl

theorem readString_escape (s t : List Char) {n : ℕ} (hn : s.length < n) :
    readString n (s.flatMap escapeChar ++ '"' :: t) = some (s, t) := by
  induction s generalizing n with
  | nil =>
    obtain ⟨n, rfl⟩ := Nat.exists_eq_add_of_lt hn
    rfl
  | cons c s ih =>
    obtain ⟨n, rfl⟩ : ∃ m, n = m + 1 := ⟨n - 1, by omega⟩
    have hs : s.length < n := by simpa using hn
    rw [List.flatMap_cons, List.append_assoc, readString_escapeChar, ih hs, Option.map_some]

theorem length_le_escape (s : List Char) : s.length ≤ (s.flatMap escapeChar).length := by
  induction s with
  | nil => simp
  | cons c s ih =>
    have hne : escapeChar c ≠ [] := by
      intro hnil
      have := readChar_escapeChar c []
      rw [hnil] at this
      cases this
    have hpos := List.length_pos_of_ne_nil hne
    rw [List.flatMap_cons, List.length_append, List.length_cons]
    omega

/-! ### Numbers -/

/-- A minus sign, if there is one, and the rest. -/
def scanSign : List Char → List Char × List Char
  | '-' :: cs => (['-'], cs)
  | cs => ([], cs)

/-- `0|[1-9]\d*` and the rest; no characters where that does not match. -/
def scanDigits : List Char → List Char × List Char
  | '0' :: cs => (['0'], cs)
  | cs => (cs.takeWhile Char.isDigit, cs.dropWhile Char.isDigit)

/-- `(\.\d+)?` and the rest. -/
def scanFraction : List Char → List Char × List Char
  | '.' :: cs =>
    if cs.takeWhile Char.isDigit = [] then ([], '.' :: cs)
    else ('.' :: cs.takeWhile Char.isDigit, cs.dropWhile Char.isDigit)
  | cs => ([], cs)

/-- `[-+]?` and the rest. -/
def scanPlusMinus : List Char → List Char × List Char
  | '+' :: cs => (['+'], cs)
  | '-' :: cs => (['-'], cs)
  | cs => ([], cs)

/-- `([eE][-+]?\d+)?` and the rest. -/
def scanExponent : List Char → List Char × List Char
  | c :: cs =>
    let (sign, ds) := scanPlusMinus cs
    if (c = 'e' ∨ c = 'E') ∧ ds.takeWhile Char.isDigit ≠ [] then
      (c :: (sign ++ ds.takeWhile Char.isDigit), ds.dropWhile Char.isDigit)
    else ([], c :: cs)
  | [] => ([], [])

/-- `NUMBER_RE.match`: the text of a number, whether it is that of an integer, and the rest. -/
def scanNumber (cs : List Char) : Option (List Char × Bool × List Char) :=
  let sign := scanSign cs
  let digits := scanDigits sign.2
  let fraction := scanFraction digits.2
  let exponent := scanExponent fraction.2
  if digits.1 = [] then none
  else some (sign.1 ++ (digits.1 ++ (fraction.1 ++ exponent.1)),
    fraction.1 = [] ∧ exponent.1 = [], exponent.2)

theorem any_notInt_iff {text : List Char} :
    (text.any fun c => !c.isDigit && c != '-') = true ↔
      ∃ c ∈ text, c.isDigit = false ∧ c ≠ '-' := by
  simp

theorem contains_consts_iff {text : List Char} : consts.contains text = false ↔ text ∉ consts := by
  simp

/-- The number with a text. -/
def floatOfText (text : List Char) : Option JsonFloat :=
  if h : text.all isWordChar = true ∧ (text.any fun c => !c.isDigit && c != '-') = true ∧
      consts.contains text = false then
    some ⟨text, List.all_eq_true.1 h.1, any_notInt_iff.1 h.2.1, contains_consts_iff.1 h.2.2⟩
  else none

/-- A constant or a number and the rest. -/
def readWord (cs : List Char) : Option (Json × List Char) :=
  match scanNumber cs with
  | some (text, true, rest) => some (int (intOfChars text), rest)
  | some (text, false, rest) => (floatOfText text).map fun x => (float x, rest)
  | none =>
    match cs with
    | 'n' :: 'u' :: 'l' :: 'l' :: rest => some (null, rest)
    | 't' :: 'r' :: 'u' :: 'e' :: rest => some (bool true, rest)
    | 'f' :: 'a' :: 'l' :: 's' :: 'e' :: rest => some (bool false, rest)
    | 'N' :: 'a' :: 'N' :: rest => (floatOfText "NaN".toList).map fun x => (float x, rest)
    | 'I' :: 'n' :: 'f' :: 'i' :: 'n' :: 'i' :: 't' :: 'y' :: rest =>
      (floatOfText "Infinity".toList).map fun x => (float x, rest)
    | '-' :: 'I' :: 'n' :: 'f' :: 'i' :: 'n' :: 'i' :: 't' :: 'y' :: rest =>
      (floatOfText "-Infinity".toList).map fun x => (float x, rest)
    | _ => none

/-- A scanner stops before punctuation: what follows it is left alone. -/
def StopsAtPunctuation (scan : List Char → List Char × List Char) : Prop :=
  ∀ cs t, Delimited t → scan (cs ++ t) = ((scan cs).1, (scan cs).2 ++ t)

theorem takeWhile_append_delimited {p : Char → Bool} (hp : ∀ c, p c = true → isWordChar c = true)
    (cs : List Char) {t : List Char} (ht : Delimited t) :
    (cs ++ t).takeWhile p = cs.takeWhile p ∧ (cs ++ t).dropWhile p = cs.dropWhile p ++ t := by
  have htake : t.takeWhile p = [] ∧ t.dropWhile p = t := by
    cases t with
    | nil => exact ⟨rfl, rfl⟩
    | cons c t =>
      have hc : p c = false := by
        by_contra h
        have := hp c (Bool.not_eq_false _ ▸ h)
        rw [ht c rfl] at this
        cases this
      simp [hc]
  induction cs with
  | nil => exact htake
  | cons c cs ih =>
    by_cases hc : p c = true
    · simp [hc, ih]
    · simp [hc]

theorem digits_append_delimited (cs : List Char) {t : List Char} (ht : Delimited t) :
    (cs ++ t).takeWhile Char.isDigit = cs.takeWhile Char.isDigit ∧
      (cs ++ t).dropWhile Char.isDigit = cs.dropWhile Char.isDigit ++ t :=
  takeWhile_append_delimited (fun _ => isWordChar_of_isDigit) cs ht

theorem Delimited.ne {c d : Char} {t : List Char} (ht : Delimited (c :: t))
    (hd : isWordChar d = true) : c ≠ d := by
  rintro rfl
  rw [ht c rfl] at hd
  cases hd

theorem stops_scanSign : StopsAtPunctuation scanSign := by
  intro cs t ht
  match cs, t with
  | [], [] => rfl
  | [], c :: t => simp [scanSign, ht.ne (show isWordChar '-' = true by decide)]
  | c :: cs, t =>
    by_cases hc : c = '-'
    · subst hc
      rfl
    · simp [scanSign, hc]

theorem stops_scanDigits : StopsAtPunctuation scanDigits := by
  intro cs t ht
  obtain ⟨htake, hdrop⟩ := digits_append_delimited cs ht
  match cs, t with
  | [], [] => rfl
  | [], c :: t =>
    rw [List.nil_append] at htake hdrop
    simp [scanDigits, ht.ne (show isWordChar '0' = true by decide), htake, hdrop]
  | c :: cs, t =>
    by_cases hc : c = '0'
    · subst hc
      rfl
    · rw [List.cons_append] at htake hdrop
      simp [scanDigits, hc, htake, hdrop]

theorem stops_scanFraction : StopsAtPunctuation scanFraction := by
  intro cs t ht
  match cs, t with
  | [], [] => rfl
  | [], c :: t => simp [scanFraction, ht.ne (show isWordChar '.' = true by decide)]
  | c :: cs, t =>
    obtain ⟨htake, hdrop⟩ := digits_append_delimited cs ht
    by_cases hc : c = '.'
    · subst hc
      simp only [List.cons_append, scanFraction, htake, hdrop]
      split_ifs <;> rfl
    · simp [scanFraction, hc]

theorem stops_scanPlusMinus : StopsAtPunctuation scanPlusMinus := by
  intro cs t ht
  match cs, t with
  | [], [] => rfl
  | [], c :: t =>
    simp [scanPlusMinus, ht.ne (show isWordChar '+' = true by decide),
      ht.ne (show isWordChar '-' = true by decide)]
  | c :: cs, t =>
    by_cases hplus : c = '+'
    · subst hplus
      rfl
    · by_cases hminus : c = '-'
      · subst hminus
        rfl
      · simp [scanPlusMinus, hplus, hminus]

theorem stops_scanExponent : StopsAtPunctuation scanExponent := by
  intro cs t ht
  match cs, t with
  | [], [] => rfl
  | [], c :: t =>
    simp [scanExponent, ht.ne (show isWordChar 'e' = true by decide),
      ht.ne (show isWordChar 'E' = true by decide)]
  | c :: cs, t =>
    have hsign := stops_scanPlusMinus cs t ht
    obtain ⟨htake, hdrop⟩ := digits_append_delimited (scanPlusMinus cs).2 ht
    simp only [List.cons_append, scanExponent, hsign, htake, hdrop]
    split_ifs <;> rfl

theorem scanNumber_append (cs : List Char) {t : List Char} (ht : Delimited t) :
    scanNumber (cs ++ t) = (scanNumber cs).map fun r => (r.1, r.2.1, r.2.2 ++ t) := by
  simp only [scanNumber, stops_scanSign cs t ht, stops_scanDigits _ t ht,
    stops_scanFraction _ t ht, stops_scanExponent _ t ht]
  split_ifs <;> rfl

theorem toDigits_head_ne_zero {n : ℕ} (h : 0 < n) (ds : List Char) :
    Nat.toDigits 10 n ≠ '0' :: ds := by
  intro heq
  have hlead : ∀ m, 0 < m → (Nat.toDigits 10 m).head? ≠ some '0' := by
    intro m
    induction m using Nat.strong_induction_on with
    | _ m ih =>
      intro hm
      by_cases hlt : m < 10
      · have hone : ∀ m < 10, 0 < m → [Nat.digitChar m].head? ≠ some '0' := by decide
        rw [Nat.toDigits_of_lt_base hlt]
        exact hone m hlt hm
      · rw [Nat.toDigits_of_base_le (by decide) (Nat.not_lt.1 hlt), List.head?_append]
        have hdiv := ih (m / 10) (by omega) (by omega)
        have hne : Nat.toDigits 10 (m / 10) ≠ [] := Nat.toDigits_ne_nil
        cases hl : Nat.toDigits 10 (m / 10) with
        | nil => exact absurd hl hne
        | cons c l =>
          rw [hl] at hdiv
          simpa using hdiv
  exact hlead n h (by rw [heq]; rfl)

theorem scanNumber_toDigits (n : ℕ) :
    scanDigits (Nat.toDigits 10 n) = (Nat.toDigits 10 n, []) := by
  rcases Nat.eq_zero_or_pos n with rfl | hn
  · rfl
  · have hall : ∀ c ∈ Nat.toDigits 10 n, c.isDigit = true := fun c hc => isDigit_of_mem_toDigits hc
    rw [scanDigits.eq_2 _ fun ds => toDigits_head_ne_zero hn ds,
      List.takeWhile_eq_self_iff.2 hall, List.dropWhile_eq_nil_iff.2 hall]

theorem scanNumber_intChars (n : ℤ) : scanNumber (intChars n) = some (intChars n, true, []) := by
  have hne : ∀ m, Nat.toDigits 10 m ≠ [] := fun _ => Nat.toDigits_ne_nil
  have hplain : ∀ m, scanSign (Nat.toDigits 10 m) = ([], Nat.toDigits 10 m) := by
    intro m
    refine scanSign.eq_2 _ fun cs hcs => ?_
    have := isDigit_of_mem_toDigits (n := m) (hcs ▸ List.mem_cons_self)
    cases this
  unfold intChars
  split_ifs
  · simp [scanNumber, hplain, scanNumber_toDigits, scanFraction, scanExponent, hne]
  · simp [scanNumber, scanSign, scanNumber_toDigits, scanFraction, scanExponent, hne]

theorem intOfChars_intChars (n : ℤ) : intOfChars (intChars n) = n := by
  unfold intChars
  split_ifs with hn
  · rw [intOfChars.eq_2 _ fun cs hcs => ?_, Nat.ofDigitChars_ten_toDigits]
    · omega
    · have := isDigit_of_mem_toDigits (n := n.toNat) (hcs ▸ List.mem_cons_self)
      cases this
  · rw [intOfChars, Nat.ofDigitChars_ten_toDigits]
    omega

/-! ### Values -/

/-- The items of `dict(pairs)`: a key that comes again keeps its place and gets the later value. -/
def itemsOf (pairs : List (String × Json)) : List (String × Json) :=
  pairs.foldl (fun items p => Dict.setItems p.1 p.2 items) []

mutual

/-- One value and the rest. -/
def readValue : ℕ → List Char → Option (Json × List Char)
  | 0, _ => none
  | _ + 1, '"' :: cs => (readString (cs.length + 1) cs).map fun r => (str (String.ofList r.1), r.2)
  | n + 1, '[' :: cs =>
    match skipSpace cs with
    | ']' :: rest => some (arr [], rest)
    | cs => (readElems n cs).map fun r => (arr r.1, r.2)
  | n + 1, '{' :: cs =>
    match skipSpace cs with
    | '}' :: rest => some (obj [], rest)
    | cs => (readFields n cs).map fun r => (obj (itemsOf r.1), r.2)
  | _ + 1, cs => readWord cs

/-- The elements of an array up to its bracket, and the rest. -/
def readElems : ℕ → List Char → Option (List Json × List Char)
  | 0, _ => none
  | n + 1, cs => do
    let (x, rest) ← readValue n cs
    match skipSpace rest with
    | ']' :: rest => some ([x], rest)
    | ',' :: rest => do
      let (xs, rest) ← readElems n (skipSpace rest)
      some (x :: xs, rest)
    | _ => none

/-- The fields of an object up to its brace, and the rest. -/
def readFields : ℕ → List Char → Option (List (String × Json) × List Char)
  | n + 1, '"' :: cs => do
    let (k, rest) ← readString (cs.length + 1) cs
    match skipSpace rest with
    | ':' :: rest => do
      let (x, rest) ← readValue n (skipSpace rest)
      match skipSpace rest with
      | '}' :: rest => some ([(String.ofList k, x)], rest)
      | ',' :: rest => do
        let (fs, rest) ← readFields n (skipSpace rest)
        some ((String.ofList k, x) :: fs, rest)
      | _ => none
    | _ => none
  | _, _ => none

end

/-- `json.loads(text)`, `none` when it raises. -/
def loads (text : String) : Option Json :=
  (readValue (text.toList.length + 1) (skipSpace text.toList)).bind fun r =>
    if skipSpace r.2 = [] then some r.1 else none

/-- The text is that of a number with a fraction or an exponent, or of one that is not finite. -/
def floatLoadable (x : JsonFloat) : Bool :=
  scanNumber x.text = some (x.text, false, []) ∨
    ["NaN".toList, "Infinity".toList, "-Infinity".toList].contains x.text = true

mutual

/-- No object has a key twice, and numbers are written as numbers. -/
def loadable : Json → Bool
  | float x => floatLoadable x
  | arr xs => elemsLoadable xs
  | obj fs => (fs.map Prod.fst).Nodup ∧ fieldsLoadable fs
  | null | bool _ | int _ | str _ => true

def elemsLoadable : List Json → Bool
  | [] => true
  | x :: xs => x.loadable && elemsLoadable xs

def fieldsLoadable : List (String × Json) → Bool
  | [] => true
  | (_, x) :: fs => x.loadable && fieldsLoadable fs

end

/-! ### The round trip -/

theorem floatOfText_text (x : JsonFloat) : floatOfText x.text = some x :=
  dif_pos ⟨List.all_eq_true.2 x.isWord, any_notInt_iff.2 x.notInt,
    contains_consts_iff.2 x.notConst⟩

theorem readWord_append {j : Json} (hj : j.IsWord) (h : j.loadable = true) {t : List Char}
    (ht : Delimited t) : readWord (j.write ++ t) = some (j, t) := by
  cases j with
  | null => rfl
  | bool b => cases b <;> rfl
  | int n =>
    rw [write, readWord.eq_def, scanNumber_append _ ht, scanNumber_intChars]
    simp [intOfChars_intChars]
  | float x =>
    rw [loadable, floatLoadable, decide_eq_true_eq] at h
    rw [write]
    rcases h with hscan | hconst
    · rw [readWord.eq_def, scanNumber_append _ ht, hscan]
      simp [floatOfText_text]
    · have hread : readWord (x.text ++ t) = (floatOfText x.text).map fun x => (float x, t) := by
        simp only [List.contains_iff_mem, List.mem_cons, List.not_mem_nil, or_false] at hconst
        rcases hconst with hx | hx | hx <;> rw [hx] <;> rfl
      rw [hread, floatOfText_text]
      rfl
  | str s => exact hj.elim
  | arr xs => exact hj.elim
  | obj fs => exact hj.elim

theorem itemsOf_of_nodup {fs : List (String × Json)} (h : (fs.map Prod.fst).Nodup) :
    itemsOf fs = fs := by
  have hset : ∀ (items : List (String × Json)) (k : String) (x : Json), k ∉ items.map Prod.fst →
      Dict.setItems k x items = items ++ [(k, x)] := by
    intro items k x hk
    induction items with
    | nil => rfl
    | cons e es ih =>
      rw [List.map_cons, List.mem_cons, not_or] at hk
      rw [Dict.setItems, if_neg (Ne.symm hk.1), ih hk.2, List.cons_append]
  rw [itemsOf]
  induction fs using List.reverseRecOn with
  | nil => rfl
  | append_singleton fs f ih =>
    rw [List.map_append, List.nodup_append'] at h
    obtain ⟨hfs, -, hdisjoint⟩ := h
    rw [List.foldl_append, List.foldl_cons, List.foldl_nil, ih hfs]
    exact hset fs f.1 f.2 fun hmem => hdisjoint hmem (by simp)

theorem skipSpace_of_head {c : Char} {cs : List Char} (h : c ∉ [' ', '\t', '\n', '\r']) :
    skipSpace (c :: cs) = c :: cs := by
  rw [skipSpace, List.dropWhile_cons, if_neg (by simpa using h)]

theorem readWord_of_space {c : Char} (hc : c ∈ [' ', '\t', '\n', '\r']) (cs : List Char) :
    readWord (c :: cs) = none := by
  simp only [List.mem_cons, List.not_mem_nil, or_false] at hc
  rcases hc with rfl | rfl | rfl | rfl <;> rfl

theorem skipSpace_write {j : Json} (h : j.loadable = true) (t : List Char) :
    skipSpace (j.write ++ t) = j.write ++ t := by
  have hhead : ∃ c w, j.write = c :: w ∧ c ∉ [' ', '\t', '\n', '\r'] := by
    by_cases hj : j.IsWord
    · obtain ⟨c, w, hcw⟩ := List.exists_cons_of_ne_nil hj.write_chars.1
      refine ⟨c, w, hcw, fun hc => ?_⟩
      have hread := readWord_append hj h delimited_nil
      rw [List.append_nil, hcw, readWord_of_space hc] at hread
      cases hread
    · obtain ⟨c, w, hcw, hc, -⟩ := write_head hj
      refine ⟨c, w, hcw, ?_⟩
      intro hmem
      simp only [List.mem_cons, List.not_mem_nil, or_false] at hmem
      rcases hmem with rfl | rfl | rfl | rfl <;> cases hc
  obtain ⟨c, w, hcw, hc⟩ := hhead
  rw [hcw, List.cons_append, skipSpace_of_head hc]

theorem readString_writeString (s : String) (t : List Char) :
    readString ((s.toList.flatMap escapeChar ++ '"' :: t).length + 1)
      (s.toList.flatMap escapeChar ++ '"' :: t) = some (s.toList, t) := by
  have hlen := length_le_escape s.toList
  refine readString_escape _ _ ?_
  rw [List.length_append]
  omega

theorem readValue_word {j : Json} (hj : j.IsWord) {n : ℕ} {t : List Char} (h : j.loadable = true)
    (hn : j.write.length ≤ n) (ht : Delimited t) : readValue n (j.write ++ t) = some (j, t) := by
  obtain ⟨hne, hw⟩ := hj.write_chars
  obtain ⟨c, w, hcw⟩ := List.exists_cons_of_ne_nil hne
  obtain ⟨n, rfl⟩ : ∃ m, n = m + 1 := ⟨n - 1, by rw [hcw] at hn; simp at hn; omega⟩
  have hc : isWordChar c = true := hw c (hcw ▸ List.mem_cons_self)
  have hword : readValue (n + 1) (j.write ++ t) = readWord (j.write ++ t) := by
    rw [hcw, List.cons_append]
    refine readValue.eq_5 _ _ ?_ ?_ ?_
    all_goals
      rintro cs heq
      rw [(List.cons.inj heq).1] at hc
      cases hc
  rw [hword, readWord_append hj h ht]

mutual

/-- **The text of a value is read back**, whatever punctuation follows it. -/
theorem readValue_write : ∀ (j : Json) {n : ℕ} {t : List Char}, j.loadable = true →
    j.write.length ≤ n → Delimited t → readValue n (j.write ++ t) = some (j, t)
  | .str s, n, t, _, hn, _ => by
    obtain ⟨n, rfl⟩ : ∃ m, n = m + 1 := ⟨n - 1, by simp [write, writeString] at hn; omega⟩
    simp only [write, writeString, List.cons_append, List.append_assoc, List.nil_append, readValue,
      readString_writeString, Option.map_some, String.ofList_toList]
  | .arr xs, n, t, h, hn, ht => by
    obtain ⟨n, rfl⟩ : ∃ m, n = m + 1 := ⟨n - 1, by simp [write] at hn; omega⟩
    cases xs with
    | nil => rfl
    | cons x xs =>
      rw [loadable, elemsLoadable, Bool.and_eq_true] at h
      simp only [write, List.length_cons, List.length_append, List.length_nil] at hn
      have hread := readElems_write (x :: xs) (n := n) (t := t) (List.cons_ne_nil _ _)
        (by rw [elemsLoadable, Bool.and_eq_true]; exact h) (by omega)
      have hskip : skipSpace (writeElems [] (x :: xs) ++ ']' :: t) =
          writeElems [] (x :: xs) ++ ']' :: t := by
        rw [writeElems, List.nil_append, List.append_assoc, skipSpace_write h.1]
      have hbracket : ∀ rest, writeElems [] (x :: xs) ++ ']' :: t ≠ ']' :: rest := by
        intro rest
        rw [writeElems, List.nil_append, List.append_assoc]
        exact write_ne_bracket x _
      rw [write, List.cons_append, List.append_assoc, List.singleton_append, readValue, hskip]
      split
      · rename_i heq
        exact absurd heq (hbracket _)
      · rw [hread, Option.map_some]
  | .obj fs, n, t, h, hn, ht => by
    obtain ⟨n, rfl⟩ : ∃ m, n = m + 1 := ⟨n - 1, by simp [write] at hn; omega⟩
    cases fs with
    | nil => rfl
    | cons f fs =>
      obtain ⟨k, x⟩ := f
      rw [loadable, decide_eq_true_eq, fieldsLoadable, Bool.and_eq_true] at h
      obtain ⟨hkeys, hx, hfs⟩ := h
      simp only [write, List.length_cons, List.length_append, List.length_nil] at hn
      have hread := readFields_write ((k, x) :: fs) (n := n) (t := t) (List.cons_ne_nil _ _)
        (by rw [fieldsLoadable, Bool.and_eq_true]; exact ⟨hx, hfs⟩) (by omega)
      have hcons : ∃ w, writeFields [] ((k, x) :: fs) ++ '}' :: t = '"' :: w := by
        rw [writeFields, List.nil_append, writeString]
        exact ⟨_, rfl⟩
      obtain ⟨w, hw⟩ := hcons
      have hskip : skipSpace ('"' :: w) = '"' :: w := skipSpace_of_head (by decide)
      rw [write, List.cons_append, List.append_assoc, List.singleton_append, readValue, hw, hskip]
      rw [hw] at hread
      change (readFields n ('"' :: w)).map (fun r => (obj (itemsOf r.1), r.2)) = _
      rw [hread, Option.map_some, itemsOf_of_nodup hkeys]
  | .null, n, t, h, hn, ht => readValue_word (j := .null) trivial h hn ht
  | .bool b, n, t, h, hn, ht => readValue_word (j := .bool b) trivial h hn ht
  | .int i, n, t, h, hn, ht => readValue_word (j := .int i) trivial h hn ht
  | .float x, n, t, h, hn, ht => readValue_word (j := .float x) trivial h hn ht

theorem readElems_write : ∀ (xs : List Json) {n : ℕ} {t : List Char}, xs ≠ [] →
    elemsLoadable xs = true → (writeElems [] xs).length + 1 ≤ n →
      readElems n (writeElems [] xs ++ ']' :: t) = some (xs, t)
  | [], _, _, hne, _, _ => absurd rfl hne
  | x :: xs, n, t, _, h, hn => by
    obtain ⟨n, rfl⟩ : ∃ m, n = m + 1 := ⟨n - 1, by omega⟩
    rw [elemsLoadable, Bool.and_eq_true] at h
    simp only [writeElems, List.nil_append, List.length_append] at hn
    have hx := readValue_write x (n := n) h.1 (by omega) (delimited_writeElems xs t)
    rw [writeElems, List.nil_append, List.append_assoc, readElems, hx]
    cases xs with
    | nil => rfl
    | cons y ys =>
      have hsep : writeElems [',', ' '] (y :: ys) = ',' :: ' ' :: writeElems [] (y :: ys) := rfl
      rw [hsep, List.length_cons, List.length_cons] at hn
      have hys := readElems_write (y :: ys) (n := n) (t := t) (List.cons_ne_nil _ _) h.2 (by omega)
      have hspace : skipSpace (' ' :: (writeElems [] (y :: ys) ++ ']' :: t)) =
          writeElems [] (y :: ys) ++ ']' :: t := by
        have hy : y.loadable = true := by
          have := h.2
          rw [elemsLoadable, Bool.and_eq_true] at this
          exact this.1
        change skipSpace (writeElems [] (y :: ys) ++ ']' :: t) = _
        rw [writeElems, List.nil_append, List.append_assoc, skipSpace_write hy]
      rw [hsep, Option.bind_eq_bind, Option.bind_some]
      change (readElems n (skipSpace (' ' :: (writeElems [] (y :: ys) ++ ']' :: t)))).bind _ = _
      rw [hspace, hys]
      rfl

/-- The fields of an object, with its brace. -/
theorem readFields_write : ∀ (fs : List (String × Json)) {n : ℕ} {t : List Char}, fs ≠ [] →
    fieldsLoadable fs = true → (writeFields [] fs).length + 1 ≤ n →
      readFields n (writeFields [] fs ++ '}' :: t) = some (fs, t)
  | [], _, _, hne, _, _ => absurd rfl hne
  | (k, x) :: fs, n, t, _, h, hn => by
    obtain ⟨n, rfl⟩ : ∃ m, n = m + 1 := ⟨n - 1, by omega⟩
    rw [fieldsLoadable, Bool.and_eq_true] at h
    simp only [writeFields, List.nil_append, List.length_append, List.length_cons] at hn
    have hx := readValue_write x (n := n) h.1 (by omega) (delimited_writeFields fs t)
    have hwrite : writeFields [] ((k, x) :: fs) ++ '}' :: t = '"' :: (k.toList.flatMap escapeChar ++
        '"' :: ':' :: ' ' :: (x.write ++ (writeFields [',', ' '] fs ++ '}' :: t))) := by
      simp only [writeFields, writeString, List.nil_append, List.cons_append, List.append_assoc]
    have hspace : skipSpace (' ' :: (x.write ++ (writeFields [',', ' '] fs ++ '}' :: t))) =
        x.write ++ (writeFields [',', ' '] fs ++ '}' :: t) := skipSpace_write h.1 _
    rw [hwrite, readFields, readString_writeString]
    change (readValue n (skipSpace (' ' :: _))).bind _ = _
    rw [hspace, hx]
    cases fs with
    | nil => simp [writeFields, skipSpace]
    | cons f fs =>
      have hsep : writeFields [',', ' '] (f :: fs) = ',' :: ' ' :: writeFields [] (f :: fs) := rfl
      rw [hsep, List.length_cons, List.length_cons] at hn
      have hfs := readFields_write (f :: fs) (n := n) (t := t) (List.cons_ne_nil _ _) h.2 (by omega)
      have hnext : skipSpace (' ' :: (writeFields [] (f :: fs) ++ '}' :: t)) =
          writeFields [] (f :: fs) ++ '}' :: t := by
        change skipSpace (writeFields [] (f :: fs) ++ '}' :: t) = _
        obtain ⟨l, y⟩ := f
        rw [writeFields, List.nil_append, writeString, List.cons_append, List.cons_append,
          skipSpace_of_head (by decide)]
      rw [hsep, Option.bind_some]
      change (readFields n (skipSpace (' ' :: (writeFields [] (f :: fs) ++ '}' :: t)))).bind _ = _
      rw [hnext, hfs]
      simp [String.ofList_toList]

end

/-- **What `json.dumps` writes is read back.** -/
theorem loads_dumps {j : Json} (h : j.loadable = true) : loads j.dumps = some j := by
  have hread := readValue_write j (n := j.write.length + 1) h (Nat.le_succ _) delimited_nil
  have hskip := skipSpace_write h []
  rw [List.append_nil] at hread hskip
  rw [loads, dumps, String.toList_ofList, hskip, hread]
  rfl

example : (loads " \x7b\"a\":[1, -2.5e3], \"b\\u00e9\" : null\x7d").map dumps =
    some "\x7b\"a\": [1, -2.5e3], \"b\\u00e9\": null\x7d" := by decide +kernel

/-! ### Sorted keys -/

theorem elemsLoadable_iff {xs : List Json} :
    elemsLoadable xs = true ↔ ∀ x ∈ xs, x.loadable = true := by
  induction xs with
  | nil => simp [elemsLoadable]
  | cons x xs ih => simp [elemsLoadable, ih]

theorem fieldsLoadable_iff {fs : List (String × Json)} :
    fieldsLoadable fs = true ↔ ∀ f ∈ fs, f.2.loadable = true := by
  induction fs with
  | nil => simp [fieldsLoadable]
  | cons f fs ih =>
    obtain ⟨k, x⟩ := f
    simp [fieldsLoadable, ih]

mutual

theorem loadable_sortKeys : ∀ j : Json, j.loadable = true → j.sortKeys.loadable = true
  | .arr xs, h => by
    rw [loadable] at h
    rw [sortKeys, loadable]
    exact elemsLoadable_sortElems xs h
  | .obj fs, h => by
    rw [loadable, decide_eq_true_eq] at h
    rw [sortKeys, loadable, decide_eq_true_eq]
    have hperm := List.perm_insertionSort (fun f g => f.1.toList ≤ g.1.toList) (sortFields fs)
    have hkeys : (sortFields fs).map Prod.fst = fs.map Prod.fst := by
      rw [sortFields_eq_map, List.map_map]
      rfl
    refine ⟨(hperm.map Prod.fst).nodup_iff.2 (hkeys ▸ h.1), fieldsLoadable_iff.2 fun f hf => ?_⟩
    exact fieldsLoadable_iff.1 (fieldsLoadable_sortFields fs h.2) f (hperm.mem_iff.1 hf)
  | .null, h | .bool _, h | .int _, h | .float _, h | .str _, h => by rwa [sortKeys]

theorem elemsLoadable_sortElems : ∀ xs : List Json, elemsLoadable xs = true →
    elemsLoadable (sortElems xs) = true
  | [], _ => rfl
  | x :: xs, h => by
    rw [elemsLoadable, Bool.and_eq_true] at h
    rw [sortElems, elemsLoadable, loadable_sortKeys x h.1, elemsLoadable_sortElems xs h.2]
    rfl

theorem fieldsLoadable_sortFields : ∀ fs : List (String × Json), fieldsLoadable fs = true →
    fieldsLoadable (sortFields fs) = true
  | [], _ => rfl
  | (k, x) :: fs, h => by
    rw [fieldsLoadable, Bool.and_eq_true] at h
    rw [sortFields, fieldsLoadable, loadable_sortKeys x h.1, fieldsLoadable_sortFields fs h.2]
    rfl

end

/-- **What `json.dumps` writes with sorted keys is read back**, with its keys sorted. -/
theorem loads_dumpsSorted {j : Json} (h : j.loadable = true) :
    loads j.dumpsSorted = some j.sortKeys := loads_dumps (loadable_sortKeys j h)

theorem get?_sortKeys_eq_none {j : Json} {key : String} (h : j.get? key = none) :
    j.sortKeys.get? key = none := by
  cases j with
  | obj fs =>
    rw [get?, Option.map_eq_none_iff, List.find?_eq_none] at h
    rw [sortKeys, get?, Option.map_eq_none_iff, List.find?_eq_none]
    intro f hf
    rw [(List.perm_insertionSort _ _).mem_iff, sortFields_eq_map] at hf
    obtain ⟨g, hg, rfl⟩ := List.mem_map.1 hf
    exact h g hg
  | _ => rw [sortKeys]; rfl

end Json

end Midscale
