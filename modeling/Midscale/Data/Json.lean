import Mathlib.Data.Char
import Mathlib.Data.List.Lex
import Mathlib.Data.List.Sort
import Mathlib.Data.Nat.Digits.Defs

/-!
# JSON

JSON values and the text that Python's `json.dumps` writes for them, with `", "` and `": "` as
separators and everything outside printable ASCII escaped.  Objects are lists of fields in the
order in which they are written; `Json.sortKeys` is what `sort_keys=True` does first.

* `Json.unescape_escapeChar` : the escape of a character can be read back, whatever follows it.
* `Json.write_append_inj` : the text of a value ends where the value does, so two values with the
  same text are equal.
* `Json.dumpsSorted_inj` : **two values with the same text under `sort_keys` are equal once
  their keys are sorted.**
-/

namespace Midscale

/-- The characters that numbers and the words `null`, `true`, `false` are written with: all but
the punctuation. -/
def isWordChar (c : Char) : Bool := c ∉ ['"', '[', ']', '{', '}', ',', ':']

/-- The texts of the constants. -/
def Json.consts : List (List Char) := ["null".toList, "true".toList, "false".toList]

/-- The text of a floating-point number, as `float.__repr__` gives it. -/
structure JsonFloat where
  text : List Char
  isWord : ∀ c ∈ text, isWordChar c = true
  /-- It has a point, an exponent or is not finite. -/
  notInt : ∃ c ∈ text, c.isDigit = false ∧ c ≠ '-'
  notConst : text ∉ Json.consts
  deriving DecidableEq

/-- JSON values. -/
inductive Json where
  | null
  | bool (b : Bool)
  | int (n : ℤ)
  | float (x : JsonFloat)
  | str (s : String)
  | arr (xs : List Json)
  | obj (fields : List (String × Json))

namespace Json

instance : Inhabited Json := ⟨null⟩

/-- `value.get(key)` on an object, `none` when the key is missing or the value is no object. -/
def get? (j : Json) (key : String) : Option Json :=
  match j with
  | obj fields => (fields.find? fun f => f.1 = key).map Prod.snd
  | _ => none

/-- Python's truth value of a value. -/
def truthy : Json → Bool
  | null => false
  | bool b => b
  | int n => n ≠ 0
  | float x => x.text ∉ ["0.0".toList, "-0.0".toList]
  | str s => s ≠ ""
  | arr xs => !xs.isEmpty
  | obj fields => !fields.isEmpty

/-- What a value is as a key of a Python dictionary, where `1`, `1.0` and `true` are one key. -/
inductive HashKey where
  | none
  | number (n : ℤ)
  | float (x : JsonFloat)
  | str (s : String)
  deriving DecidableEq

/-- The integer with the given decimal digits and sign. -/
def intOfChars : List Char → ℤ
  | '-' :: ds => -(Nat.ofDigitChars 10 ds 0 : ℕ)
  | ds => (Nat.ofDigitChars 10 ds 0 : ℕ)

/-- A value as a dictionary key; arrays and objects are unhashable. -/
def hashKey? : Json → Option HashKey
  | null => some .none
  | bool b => some (.number (if b then 1 else 0))
  | int n => some (.number n)
  | float x =>
    match x.text.reverse with
    | '0' :: '.' :: ds => some (.number (intOfChars ds.reverse))
    | _ => some (.float x)
  | str s => some (.str s)
  | arr _ | obj _ => Option.none

/-! ### Strings -/

/-- The letter of a two-character escape. -/
def shortEscape (c : Char) : Option Char :=
  if c = '"' then some '"'
  else if c = '\\' then some '\\'
  else if c = '\n' then some 'n'
  else if c = '\r' then some 'r'
  else if c = '\t' then some 't'
  else if c = '\x0c' then some 'f'
  else if c = '\x08' then some 'b'
  else none

/-- Four hexadecimal digits. -/
def hex4 (n : ℕ) : List Char :=
  [n / 4096 % 16, n / 256 % 16, n / 16 % 16, n % 16].map Nat.digitChar

/-- The `\uXXXX` escape of a code point, a surrogate pair above `0xFFFF`. -/
def unicodeEscape (n : ℕ) : List Char :=
  if n < 0x10000 then '\\' :: 'u' :: hex4 n
  else
    '\\' :: 'u' :: hex4 (0xd800 + (n - 0x10000) / 0x400) ++
      '\\' :: 'u' :: hex4 (0xdc00 + (n - 0x10000) % 0x400)

/-- `json.encoder.ESCAPE_ASCII`, one character. -/
def escapeChar (c : Char) : List Char :=
  match shortEscape c with
  | some e => ['\\', e]
  | none => if 0x20 ≤ c.toNat ∧ c.toNat ≤ 0x7e then [c] else unicodeEscape c.toNat

/-- A string in quotes. -/
def writeString (s : String) : List Char := '"' :: (s.toList.flatMap escapeChar ++ ['"'])

/-- The value of a hexadecimal digit. -/
def hexValue (c : Char) : ℕ := if c.isDigit then c.toNat - 48 else c.toNat - 87

/-- The value of four hexadecimal digits. -/
def hexValue4 (a b c d : Char) : ℕ :=
  ((hexValue a * 16 + hexValue b) * 16 + hexValue c) * 16 + hexValue d

/-- The character of a two-character escape. -/
def shortUnescape (e : Char) : Char :=
  if e = 'n' then '\n'
  else if e = 'r' then '\r'
  else if e = 't' then '\t'
  else if e = 'f' then '\x0c'
  else if e = 'b' then '\x08'
  else e

/-- Reads a `\uXXXX` escape and returns the rest. -/
def readUnit : List Char → Option (ℕ × List Char)
  | '\\' :: 'u' :: a :: b :: c :: d :: rest => some (hexValue4 a b c d, rest)
  | _ => none

/-- Reads one character of a string and returns the rest; `none` at the closing quote. -/
def unescape (l : List Char) : Option (Char × List Char) :=
  match readUnit l with
  | some (n, rest) =>
    match if 0xd800 ≤ n ∧ n < 0xdc00 then readUnit rest else none with
    | some (m, rest') => some (Char.ofNat (0x10000 + (n - 0xd800) * 0x400 + (m - 0xdc00)), rest')
    | none => some (Char.ofNat n, rest)
  | none =>
    match l with
    | '\\' :: e :: rest => some (shortUnescape e, rest)
    | c :: rest => if c = '"' then none else some (c, rest)
    | [] => none

theorem hexValue_digitChar : ∀ n < 16, hexValue (Nat.digitChar n) = n := by decide

theorem hexValue4_hex4 {n : ℕ} (h : n < 0x10000) :
    hexValue4 (Nat.digitChar (n / 4096 % 16)) (Nat.digitChar (n / 256 % 16))
      (Nat.digitChar (n / 16 % 16)) (Nat.digitChar (n % 16)) = n := by
  have hd : ∀ m, hexValue (Nat.digitChar (m % 16)) = m % 16 := fun m =>
    hexValue_digitChar _ (Nat.mod_lt _ (by decide))
  simp only [hexValue4, hd]
  omega

theorem readUnit_hex4 {n : ℕ} (h : n < 0x10000) (t : List Char) :
    readUnit ('\\' :: 'u' :: (hex4 n ++ t)) = some (n, t) := by
  simp only [hex4, List.map_cons, List.map_nil, List.cons_append, List.nil_append, readUnit,
    hexValue4_hex4 h]

theorem unescape_hex4 {n : ℕ} (h : n < 0x10000) (hs : ¬ (0xd800 ≤ n ∧ n < 0xdc00))
    (t : List Char) : unescape ('\\' :: 'u' :: (hex4 n ++ t)) = some (Char.ofNat n, t) := by
  simp only [unescape, readUnit_hex4 h, if_neg hs]

theorem unescape_surrogates {n m : ℕ} (h : n < 0x10000) (hs : 0xd800 ≤ n ∧ n < 0xdc00)
    (hm : m < 0x10000) (t : List Char) :
    unescape ('\\' :: 'u' :: (hex4 n ++ '\\' :: 'u' :: (hex4 m ++ t))) =
      some (Char.ofNat (0x10000 + (n - 0xd800) * 0x400 + (m - 0xdc00)), t) := by
  simp only [unescape, readUnit_hex4 h, if_pos hs, readUnit_hex4 hm]

theorem unicodeEscape_cases (c : Char) :
    (unicodeEscape c.toNat = '\\' :: 'u' :: hex4 c.toNat ∧ c.toNat < 0x10000 ∧
      (c.toNat < 0xd800 ∨ 0xdfff < c.toNat)) ∨
    ∃ high low, unicodeEscape c.toNat = '\\' :: 'u' :: (hex4 high ++ '\\' :: 'u' :: hex4 low) ∧
      (0xd800 ≤ high ∧ high < 0xdc00) ∧ (0xdc00 ≤ low ∧ low < 0xe000) ∧
      Char.ofNat (0x10000 + (high - 0xd800) * 0x400 + (low - 0xdc00)) = c := by
  have hc : Char.ofNat c.toNat = c := Char.ofNat_toNat c
  have hvalid : c.toNat < 0xd800 ∨ 0xdfff < c.toNat ∧ c.toNat < 0x110000 := c.valid
  revert hc hvalid
  generalize c.toNat = n
  intro hc hvalid
  by_cases h : n < 0x10000
  · exact .inl ⟨if_pos h, h, by omega⟩
  · have hsum : 0x10000 + (0xd800 + (n - 0x10000) / 0x400 - 0xd800) * 0x400 +
        (0xdc00 + (n - 0x10000) % 0x400 - 0xdc00) = n := by omega
    exact .inr ⟨_, _, if_neg h, by omega, by omega, by rw [hsum, hc]⟩

theorem unescape_unicodeEscape (c : Char) (t : List Char) :
    unescape (unicodeEscape c.toNat ++ t) = some (c, t) := by
  rcases unicodeEscape_cases c with ⟨h, hlt, hplane⟩ | ⟨high, low, h, hhigh, hlow, hc⟩
  · rw [h, List.cons_append, List.cons_append, unescape_hex4 hlt (by omega), Char.ofNat_toNat]
  · rw [h, List.cons_append, List.cons_append, List.append_assoc, List.cons_append,
      List.cons_append, unescape_surrogates (by omega) hhigh (by omega), hc]

theorem escapeChar_cases (c : Char) :
    (∃ e, shortEscape c = some e ∧ escapeChar c = ['\\', e]) ∨
    (escapeChar c = [c] ∧ ¬ c.toNat < 0x20 ∧ c ≠ '"' ∧ c ≠ '\\') ∨
    escapeChar c = unicodeEscape c.toNat := by
  unfold escapeChar
  cases he : shortEscape c with
  | some e => exact .inl ⟨e, rfl, rfl⟩
  | none =>
    by_cases hp : 0x20 ≤ c.toNat ∧ c.toNat ≤ 0x7e
    · refine .inr (.inl ⟨if_pos hp, Nat.not_lt.2 hp.1, ?_⟩)
      constructor <;> rintro rfl <;> cases he
    · exact .inr (.inr (if_neg hp))

theorem ascii_hex4 (n : ℕ) : ∀ d ∈ hex4 n, d.toNat < 128 := by
  have hdigit : ∀ n < 16, (Nat.digitChar n).toNat < 128 := by decide
  intro d hd
  obtain ⟨m, hm, rfl⟩ := List.mem_map.1 hd
  simp only [List.mem_cons, List.not_mem_nil, or_false] at hm
  exact hdigit m (by omega)

theorem ascii_escapeChar (c : Char) : ∀ d ∈ escapeChar c, d.toNat < 128 := by
  have hback : ('\\' : Char).toNat < 128 ∧ ('u' : Char).toNat < 128 := by decide
  intro d hd
  unfold escapeChar at hd
  cases he : shortEscape c with
  | some e =>
    rw [he] at hd
    unfold shortEscape at he
    split_ifs at he <;> cases he <;> simp only [List.mem_cons, List.not_mem_nil, or_false] at hd <;>
      rcases hd with rfl | rfl <;> decide
  | none =>
    rw [he] at hd
    dsimp only at hd
    split_ifs at hd with hprint
    · rw [List.mem_singleton.1 hd]
      omega
    · rw [unicodeEscape] at hd
      split_ifs at hd <;> simp only [List.mem_append, List.mem_cons] at hd
      · rcases hd with rfl | rfl | hd
        exacts [hback.1, hback.2, ascii_hex4 _ d hd]
      · rcases hd with (rfl | rfl | hd) | (rfl | rfl | hd)
        exacts [hback.1, hback.2, ascii_hex4 _ d hd, hback.1, hback.2, ascii_hex4 _ d hd]

theorem ascii_writeString (s : String) : ∀ d ∈ writeString s, d.toNat < 128 := by
  have hquote : ('"' : Char).toNat < 128 := by decide
  intro d hd
  rw [writeString, List.mem_cons, List.mem_append, List.mem_flatMap, List.mem_singleton] at hd
  rcases hd with rfl | ⟨c, -, hd⟩ | rfl
  exacts [hquote, ascii_escapeChar c d hd, hquote]

/-- **The escape of a character can be read back**, whatever follows it. -/
theorem unescape_escapeChar (c : Char) (t : List Char) :
    unescape (escapeChar c ++ t) = some (c, t) := by
  have hshort : ∀ e, shortEscape c = some e → e ≠ 'u' ∧ shortUnescape e = c := by
    intro e he
    unfold shortEscape at he
    split_ifs at he <;> subst_vars <;> cases he <;> decide
  rcases escapeChar_cases c with ⟨e, he, h⟩ | ⟨h, -, hquote, hback⟩ | h
  · obtain ⟨hu, hc⟩ := hshort e he
    simp [h, unescape, readUnit, hu, hc]
  · simp [h, unescape, readUnit, hquote, hback]
  · rw [h, unescape_unicodeEscape]

theorem escape_append_inj {l l' t t' : List Char}
    (h : l.flatMap escapeChar ++ '"' :: t = l'.flatMap escapeChar ++ '"' :: t') :
    l = l' ∧ t = t' := by
  induction l generalizing l' with
  | nil =>
    cases l' with
    | nil => exact ⟨rfl, (List.cons.inj h).2⟩
    | cons c' l' =>
      have hr := congrArg unescape h
      rw [List.flatMap_cons, List.append_assoc, unescape_escapeChar] at hr
      cases hr
  | cons c l ih =>
    -- reading one character back separates it from the rest
    have hr := congrArg unescape h
    rw [List.flatMap_cons, List.append_assoc, unescape_escapeChar] at hr
    cases l' with
    | nil => cases hr
    | cons c' l' =>
      rw [List.flatMap_cons, List.append_assoc, unescape_escapeChar, Option.some.injEq,
        Prod.mk.injEq] at hr
      obtain ⟨rfl, hr⟩ := hr
      obtain ⟨rfl, rfl⟩ := ih hr
      exact ⟨rfl, rfl⟩

/-! ### Values -/

/-- The decimal digits of an integer. -/
def intChars (n : ℤ) : List Char :=
  if 0 ≤ n then Nat.toDigits 10 n.toNat else '-' :: Nat.toDigits 10 (-n).toNat

mutual

/-- The text of a value. -/
def write : Json → List Char
  | null => "null".toList
  | bool b => if b then "true".toList else "false".toList
  | int n => intChars n
  | float x => x.text
  | str s => writeString s
  | arr xs => '[' :: (writeElems [] xs ++ [']'])
  | obj fields => '{' :: (writeFields [] fields ++ ['}'])

/-- The elements of an array, `sep` before the first and `", "` before every other. -/
def writeElems (sep : List Char) : List Json → List Char
  | [] => []
  | x :: xs => sep ++ (x.write ++ writeElems [',', ' '] xs)

/-- The fields of an object, `sep` before the first and `", "` before every other. -/
def writeFields (sep : List Char) : List (String × Json) → List Char
  | [] => []
  | (k, x) :: fs => sep ++ (writeString k ++ (':' :: ' ' :: (x.write ++ writeFields [',', ' '] fs)))

end

mutual

/-- The value with the fields of every object in the order of their keys. -/
def sortKeys : Json → Json
  | arr xs => arr (sortElems xs)
  | obj fields => obj ((sortFields fields).insertionSort fun f g => f.1.toList ≤ g.1.toList)
  | null => null
  | bool b => bool b
  | int n => int n
  | float x => float x
  | str s => str s

/-- `sortKeys` on the elements of an array. -/
def sortElems : List Json → List Json
  | [] => []
  | x :: xs => x.sortKeys :: sortElems xs

/-- `sortKeys` on the values of the fields. -/
def sortFields : List (String × Json) → List (String × Json)
  | [] => []
  | (k, x) :: fs => (k, x.sortKeys) :: sortFields fs

end

/-- `json.dumps(value)`. -/
def dumps (j : Json) : String := String.ofList j.write

/-- `json.dumps(value, sort_keys=True)`. -/
def dumpsSorted (j : Json) : String := j.sortKeys.dumps

/-! ### The text determines the value -/

/-- The text ends or goes on with punctuation. -/
def Delimited (t : List Char) : Prop := ∀ c ∈ t.head?, isWordChar c = false

theorem delimited_nil : Delimited [] := by simp [Delimited]

theorem delimited_cons {c : Char} {t : List Char} (h : isWordChar c = false) :
    Delimited (c :: t) := by simpa [Delimited] using h

theorem word_append_inj {w w' t t' : List Char} (hw : ∀ c ∈ w, isWordChar c = true)
    (hw' : ∀ c ∈ w', isWordChar c = true) (ht : Delimited t) (ht' : Delimited t')
    (h : w ++ t = w' ++ t') : w = w' ∧ t = t' := by
  induction w generalizing w' with
  | nil =>
    cases w' with
    | nil => exact ⟨rfl, h⟩
    | cons c' w' =>
      rw [List.nil_append, List.cons_append] at h
      have hc : isWordChar c' = false := ht c' (by rw [h]; rfl)
      rw [hw' c' List.mem_cons_self] at hc
      cases hc
  | cons c w ih =>
    cases w' with
    | nil =>
      rw [List.nil_append, List.cons_append] at h
      have hc : isWordChar c = false := ht' c (by rw [← h]; rfl)
      rw [hw c List.mem_cons_self] at hc
      cases hc
    | cons c' w' =>
      rw [List.cons_append, List.cons_append, List.cons.injEq] at h
      obtain ⟨rfl, h⟩ := h
      obtain ⟨rfl, rfl⟩ := ih (fun c hc => hw c (List.mem_cons_of_mem _ hc))
        (fun c hc => hw' c (List.mem_cons_of_mem _ hc)) h
      exact ⟨rfl, rfl⟩

theorem isWordChar_of_isDigit {c : Char} (h : c.isDigit = true) : isWordChar c = true := by
  unfold isWordChar
  rw [decide_eq_true_eq]
  rintro hc
  simp only [List.mem_cons, List.not_mem_nil, or_false] at hc
  rcases hc with rfl | rfl | rfl | rfl | rfl | rfl | rfl <;> cases h

theorem isDigit_or_minus {n : ℤ} {c : Char} (hc : c ∈ intChars n) :
    c.isDigit = true ∨ c = '-' := by
  have hd : ∀ m, c ∈ Nat.toDigits 10 m → c.isDigit = true := fun m =>
    Nat.isDigit_of_mem_toDigits (by decide) le_rfl
  unfold intChars at hc
  split_ifs at hc
  · exact .inl (hd _ hc)
  · rcases List.mem_cons.1 hc with rfl | hc
    · exact .inr rfl
    · exact .inl (hd _ hc)

theorem isWord_intChars (n : ℤ) : ∀ c ∈ intChars n, isWordChar c = true := fun c hc => by
  rcases isDigit_or_minus hc with h | rfl
  · exact isWordChar_of_isDigit h
  · decide

theorem intChars_ne_const (n : ℤ) :
    intChars n ∉ consts := fun h => by
  have hl : ∀ c ∈ intChars n, c ≠ 'l' ∧ c ≠ 'u' := fun c hc => by
    rcases isDigit_or_minus hc with hd | rfl
    · constructor <;> rintro rfl <;> cases hd
    · decide
  simp only [consts, List.mem_cons, List.not_mem_nil, or_false] at h
  rcases h with h | h | h
  · exact (hl 'u' (by rw [h]; decide)).2 rfl
  · exact (hl 'u' (by rw [h]; decide)).2 rfl
  · exact (hl 'l' (by rw [h]; decide)).1 rfl

theorem toDigits_injective {m n : ℕ} (h : Nat.toDigits 10 m = Nat.toDigits 10 n) : m = n := by
  rw [← @Nat.ofDigitChars_ten_toDigits m, h, Nat.ofDigitChars_ten_toDigits]

theorem intChars_injective {m n : ℤ} (h : intChars m = intChars n) : m = n := by
  have hminus : ∀ k l, Nat.toDigits 10 k ≠ '-' :: l := fun k l hk => by
    have := Nat.isDigit_of_mem_toDigits (b := 10) (by decide) le_rfl
      (show '-' ∈ Nat.toDigits 10 k from hk ▸ List.mem_cons_self)
    cases this
  unfold intChars at h
  split_ifs at h with hm hn hn
  · have := toDigits_injective h; omega
  · exact absurd h (hminus _ _)
  · exact absurd h.symm (hminus _ _)
  · have := toDigits_injective (List.cons.inj h).2; omega

/-- Values that are written as a word. -/
def IsWord : Json → Prop
  | str _ | arr _ | obj _ => False
  | null | bool _ | int _ | float _ => True

theorem IsWord.write_chars {j : Json} (h : j.IsWord) :
    j.write ≠ [] ∧ ∀ c ∈ j.write, isWordChar c = true := by
  cases j with
  | null => exact ⟨by decide, List.all_eq_true.1 (by decide)⟩
  | bool b => cases b <;> exact ⟨by decide, List.all_eq_true.1 (by decide)⟩
  | int n =>
    refine ⟨?_, isWord_intChars n⟩
    simp only [write, intChars]
    split_ifs <;> simp
  | float x =>
    obtain ⟨c, hc, -⟩ := x.notInt
    exact ⟨List.ne_nil_of_mem hc, x.isWord⟩
  | str s => exact h.elim
  | arr xs => exact h.elim
  | obj fs => exact h.elim

theorem int_write_ne_float (n : ℤ) (x : JsonFloat) : (int n).write ≠ (float x).write := fun h => by
  obtain ⟨c, hc, hd, hm⟩ := x.notInt
  change c ∈ (float x).write at hc
  rw [← h] at hc
  rcases isDigit_or_minus hc with hc | hc
  · rw [hc] at hd; cases hd
  · exact hm hc

theorem IsWord.write_inj : ∀ {j j' : Json}, j.IsWord → j'.IsWord → j.write = j'.write → j = j'
  | .null, .null, _, _, _ => rfl
  | .null, .bool b, _, _, h => by cases b <;> exact absurd h (by decide)
  | .bool b, .null, _, _, h => by cases b <;> exact absurd h (by decide)
  | .bool b, .bool b', _, _, h => by
    cases b <;> cases b' <;> first | rfl | exact absurd h (by decide)
  | .int m, .int n, _, _, h => by rw [intChars_injective h]
  | .float x, .float x', _, _, h => by cases x; cases x'; cases h; rfl
  | .int n, .float x, _, _, h => absurd h (int_write_ne_float n x)
  | .float x, .int n, _, _, h => absurd h.symm (int_write_ne_float n x)
  | .int n, .null, _, _, h => absurd (show (int n).write ∈ consts by rw [h]; decide)
      (intChars_ne_const n)
  | .null, .int n, _, _, h => absurd (show (int n).write ∈ consts by rw [← h]; decide)
      (intChars_ne_const n)
  | .int n, .bool b, _, _, h => absurd (show (int n).write ∈ consts by rw [h]; cases b <;> decide)
      (intChars_ne_const n)
  | .bool b, .int n, _, _, h => absurd (show (int n).write ∈ consts by rw [← h]; cases b <;> decide)
      (intChars_ne_const n)
  | .float x, .null, _, _, h => absurd (show (float x).write ∈ consts by rw [h]; decide) x.notConst
  | .null, .float x, _, _, h => absurd (show (float x).write ∈ consts by rw [← h]; decide) x.notConst
  | .float x, .bool b, _, _, h =>
    absurd (show (float x).write ∈ consts by rw [h]; cases b <;> decide) x.notConst
  | .bool b, .float x, _, _, h =>
    absurd (show (float x).write ∈ consts by rw [← h]; cases b <;> decide) x.notConst

theorem write_head {j : Json} (h : ¬ j.IsWord) :
    ∃ c s, j.write = c :: s ∧ isWordChar c = false ∧ c ≠ ']' := by
  cases j with
  | str s => exact ⟨'"', _, rfl, by decide, by decide⟩
  | arr xs => exact ⟨'[', _, rfl, by decide, by decide⟩
  | obj fs => exact ⟨'{', _, rfl, by decide, by decide⟩
  | _ => exact absurd trivial h

theorem write_ne_bracket (j : Json) (s : List Char) {t : List Char} :
    j.write ++ s ≠ ']' :: t := fun heq => by
  by_cases h : j.IsWord
  · obtain ⟨hne, hw⟩ := h.write_chars
    obtain ⟨c, w, hcw⟩ := List.exists_cons_of_ne_nil hne
    rw [hcw, List.cons_append, List.cons.injEq] at heq
    have := hw c (hcw ▸ List.mem_cons_self)
    rw [heq.1] at this
    cases this
  · obtain ⟨c, w, hcw, -, hc⟩ := write_head h
    rw [hcw, List.cons_append, List.cons.injEq] at heq
    exact hc heq.1

theorem IsWord.write_append_ne {j j' : Json} (h : j.IsWord) (h' : ¬ j'.IsWord) {t t' : List Char} :
    j.write ++ t ≠ j'.write ++ t' := fun heq => by
  obtain ⟨hne, hw⟩ := h.write_chars
  obtain ⟨c, w, hcw⟩ := List.exists_cons_of_ne_nil hne
  obtain ⟨c', w', hcw', hc', -⟩ := write_head h'
  rw [hcw, hcw', List.cons_append, List.cons_append, List.cons.injEq] at heq
  rw [← heq.1, hw c (hcw ▸ List.mem_cons_self)] at hc'
  cases hc'

theorem writeString_append_inj {s s' : String} {t t' : List Char}
    (h : writeString s ++ t = writeString s' ++ t') : s = s' ∧ t = t' := by
  simp only [writeString, List.cons_append, List.append_assoc, List.nil_append,
    List.cons.injEq, true_and] at h
  obtain ⟨hl, rfl⟩ := escape_append_inj h
  exact ⟨String.toList_inj.1 hl, rfl⟩

theorem delimited_writeElems (xs : List Json) (t : List Char) :
    Delimited (writeElems [',', ' '] xs ++ ']' :: t) := by
  cases xs <;> exact delimited_cons (by decide)

theorem delimited_writeFields (fs : List (String × Json)) (t : List Char) :
    Delimited (writeFields [',', ' '] fs ++ '}' :: t) := by
  cases fs <;> exact delimited_cons (by decide)

theorem sep_ne_bracket {sep s t : List Char} (hsep : sep = [] ∨ sep = [',', ' ']) (j : Json) :
    sep ++ (j.write ++ s) ≠ ']' :: t := by
  rcases hsep with rfl | rfl
  · exact write_ne_bracket j s
  · simp

theorem sep_ne_brace {sep s t : List Char} (hsep : sep = [] ∨ sep = [',', ' ']) (k : String) :
    sep ++ (writeString k ++ s) ≠ '}' :: t := by
  rcases hsep with rfl | rfl <;> simp [writeString]

theorem write_word_append_inj {j j' : Json} {t t' : List Char} (hj : j.IsWord)
    (ht : Delimited t) (ht' : Delimited t') (h : j.write ++ t = j'.write ++ t') :
    j = j' ∧ t = t' := by
  by_cases hj' : j'.IsWord
  · obtain ⟨hw, rfl⟩ := word_append_inj hj.write_chars.2 hj'.write_chars.2 ht ht' h
    exact ⟨hj.write_inj hj' hw, rfl⟩
  · exact absurd h (hj.write_append_ne hj')

mutual

/-- **The text of a value ends where the value does**: two texts that go on with punctuation are
equal only if the values and what follows them are. -/
theorem write_append_inj : ∀ (j j' : Json) {t t' : List Char}, Delimited t → Delimited t' →
    j.write ++ t = j'.write ++ t' → j = j' ∧ t = t'
  | .arr xs, j', t, t', ht, ht', h => by
    -- a word does not start with a bracket, brace or quote
    by_cases hj : j'.IsWord
    · exact absurd h.symm (hj.write_append_ne (show ¬ (arr xs).IsWord from id))
    · cases j' with
      | arr ys =>
        simp only [write, List.cons_append, List.append_assoc, List.nil_append,
          List.cons.injEq, true_and] at h
        obtain ⟨rfl, rfl⟩ := writeElems_append_inj xs ys (.inl rfl) h
        exact ⟨rfl, rfl⟩
      | str s => simp [write, writeString] at h
      | obj fs => simp [write] at h
      | _ => exact absurd trivial hj
  | .obj fs, j', t, t', ht, ht', h => by
    by_cases hj : j'.IsWord
    · exact absurd h.symm (hj.write_append_ne (show ¬ (obj fs).IsWord from id))
    · cases j' with
      | obj gs =>
        simp only [write, List.cons_append, List.append_assoc, List.nil_append,
          List.cons.injEq, true_and] at h
        obtain ⟨rfl, rfl⟩ := writeFields_append_inj fs gs (.inl rfl) h
        exact ⟨rfl, rfl⟩
      | str s => simp [write, writeString] at h
      | arr xs => simp [write] at h
      | _ => exact absurd trivial hj
  | .str s, j', t, t', ht, ht', h => by
    by_cases hj : j'.IsWord
    · exact absurd h.symm (hj.write_append_ne (show ¬ (str s).IsWord from id))
    · cases j' with
      | str s' =>
        obtain ⟨rfl, rfl⟩ := writeString_append_inj h
        exact ⟨rfl, rfl⟩
      | arr xs => simp [write, writeString] at h
      | obj fs => simp [write, writeString] at h
      | _ => exact absurd trivial hj
  | .null, j', t, t', ht, ht', h => write_word_append_inj trivial ht ht' h
  | .bool _, j', t, t', ht, ht', h => write_word_append_inj trivial ht ht' h
  | .int _, j', t, t', ht, ht', h => write_word_append_inj trivial ht ht' h
  | .float _, j', t, t', ht, ht', h => write_word_append_inj trivial ht ht' h

theorem writeElems_append_inj : ∀ (xs ys : List Json) {sep t t' : List Char},
    sep = [] ∨ sep = [',', ' '] →
    writeElems sep xs ++ ']' :: t = writeElems sep ys ++ ']' :: t' → xs = ys ∧ t = t'
  | [], [], _, _, _, _, h => ⟨rfl, (List.cons.inj h).2⟩
  | [], y :: ys, _, _, _, hsep, h => by
    rw [writeElems, List.nil_append, writeElems, List.append_assoc, List.append_assoc] at h
    exact absurd h.symm (sep_ne_bracket hsep y)
  | x :: xs, [], _, _, _, hsep, h => by
    rw [writeElems, writeElems, List.nil_append, List.append_assoc, List.append_assoc] at h
    exact absurd h (sep_ne_bracket hsep x)
  | x :: xs, y :: ys, sep, t, t', hsep, h => by
    rw [writeElems, writeElems, List.append_assoc, List.append_assoc, List.append_assoc,
      List.append_assoc, List.append_cancel_left_eq] at h
    obtain ⟨rfl, hxs⟩ := write_append_inj x y (delimited_writeElems xs t)
      (delimited_writeElems ys t') h
    obtain ⟨rfl, rfl⟩ := writeElems_append_inj xs ys (.inr rfl) hxs
    exact ⟨rfl, rfl⟩

theorem writeFields_append_inj : ∀ (fs gs : List (String × Json)) {sep t t' : List Char},
    sep = [] ∨ sep = [',', ' '] →
    writeFields sep fs ++ '}' :: t = writeFields sep gs ++ '}' :: t' → fs = gs ∧ t = t'
  | [], [], _, _, _, _, h => ⟨rfl, (List.cons.inj h).2⟩
  | [], (l, y) :: gs, _, _, _, hsep, h => by
    rw [writeFields, List.nil_append, writeFields, List.append_assoc, List.append_assoc] at h
    exact absurd h.symm (sep_ne_brace hsep l)
  | (k, x) :: fs, [], _, _, _, hsep, h => by
    rw [writeFields, writeFields, List.nil_append, List.append_assoc, List.append_assoc] at h
    exact absurd h (sep_ne_brace hsep k)
  | (k, x) :: fs, (l, y) :: gs, sep, t, t', hsep, h => by
    rw [writeFields, writeFields, List.append_assoc, List.append_assoc, List.append_assoc,
      List.append_assoc, List.append_cancel_left_eq] at h
    obtain ⟨rfl, hx⟩ := writeString_append_inj h
    simp only [List.cons_append, List.append_assoc, List.cons.injEq, true_and] at hx
    obtain ⟨rfl, hfs⟩ := write_append_inj x y (delimited_writeFields fs t)
      (delimited_writeFields gs t') hx
    obtain ⟨rfl, rfl⟩ := writeFields_append_inj fs gs (.inr rfl) hfs
    exact ⟨rfl, rfl⟩

end

theorem write_injective : Function.Injective write := fun j j' h =>
  (write_append_inj j j' delimited_nil delimited_nil (by rw [h])).1

instance : DecidableEq Json := fun j j' =>
  decidable_of_iff (j.write = j'.write) write_injective.eq_iff

theorem dumps_inj {j j' : Json} : j.dumps = j'.dumps ↔ j = j' := by
  rw [dumps, dumps, String.ofList_inj, write_injective.eq_iff]

theorem sortFields_eq_map (fs : List (String × Json)) :
    sortFields fs = fs.map fun f => (f.1, f.2.sortKeys) := by
  induction fs with
  | nil => rw [sortFields, List.map_nil]
  | cons f fs ih => rw [sortFields, ih, List.map_cons]

theorem sortElems_eq_map (xs : List Json) : sortElems xs = xs.map sortKeys := by
  induction xs with
  | nil => rw [sortElems, List.map_nil]
  | cons x xs ih => rw [sortElems, ih, List.map_cons]

/-- **Two values with the same text under `sort_keys` are equal once their keys are sorted.** -/
theorem dumpsSorted_inj {j j' : Json} : j.dumpsSorted = j'.dumpsSorted ↔ j.sortKeys = j'.sortKeys :=
  dumps_inj

end Json

end Midscale
