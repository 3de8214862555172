import Mathlib.Data.List.Basic
import Mathlib.Data.List.DropRight
import Mathlib.Data.Int.Notation
import Mathlib.Data.String.Basic

/-!
# Texts

The methods of Python's `str` and the readings of numbers that several parts of the program use.
-/

namespace Midscale

/-- The characters that `str.strip` removes and that may surround a number. -/
def isPySpace (c : Char) : Bool :=
  c.toNat ∈ [9, 10, 11, 12, 13, 28, 29, 30, 31, 32, 133, 160, 5760, 8232, 8233, 8239, 8287, 12288] ∨
    8192 ≤ c.toNat ∧ c.toNat ≤ 8202

/-- The characters without those at both ends that satisfy `p`. -/
def stripChars (p : Char → Bool) (cs : List Char) : List Char :=
  ((cs.dropWhile p).reverse.dropWhile p).reverse

/-- `text.strip()`. -/
def strip (text : String) : String := String.ofList (stripChars isPySpace text.toList)

/-- `text.partition(sep)` for a separator of one character, without the separator. -/
def partition (sep : Char) (text : String) : String × String :=
  (String.ofList (text.toList.takeWhile (· ≠ sep)),
    String.ofList ((text.toList.dropWhile (· ≠ sep)).drop 1))

/-- `text.startswith(start)`. -/
def startsWith (text start : String) : Bool := start.toList.isPrefixOf text.toList

/-- `part in text`. -/
def hasPart (text part : String) : Bool := text.toList.tails.any part.toList.isPrefixOf

/-- `text.replace(pattern, "")`, with the length of the text as fuel. -/
def removeAll (pattern : List Char) : ℕ → List Char → List Char
  | 0, cs => cs
  | _, [] => []
  | n + 1, c :: cs =>
    if pattern.isPrefixOf (c :: cs) then removeAll pattern n ((c :: cs).drop pattern.length)
    else c :: removeAll pattern n cs

/-- The value of a hexadecimal digit of either case. -/
def parseHexDigit (c : Char) : Option ℕ :=
  (List.range 16).find? fun d => Nat.digitChar d = c.toLower

/-- `int(text, 16)`, `none` when it raises `ValueError`: spaces around it, a sign, `0x`, and single
underscores between digits are allowed. -/
def parseIntBase16 (cs : List Char) : Option ℤ :=
  let cs := stripChars isPySpace cs
  let sign : ℤ := if cs.head? = some '-' then -1 else 1
  let cs := if cs.head? = some '-' ∨ cs.head? = some '+' then cs.drop 1 else cs
  let prefixed := (cs.take 2).map Char.toLower = ['0', 'x']
  let cs := if prefixed then cs.drop 2 else cs
  let cs := if prefixed ∧ cs.head? = some '_' then cs.drop 1 else cs
  let groups := cs.splitOn '_'
  if groups.any (·.isEmpty) then none
  else (groups.flatten.mapM parseHexDigit).map fun ds =>
    sign * (ds.foldl (fun n d => n * 16 + d) 0 : ℕ)

/-- `text.split(sep)` for a separator of one character. -/
def splitText (sep : Char) (text : String) : List String :=
  (text.toList.splitOn sep).map String.ofList

/-- `int(text)`, `none` when it raises `ValueError`: spaces around the ASCII digits, a sign, and
single underscores between digits are allowed. -/
def parseInt (text : String) : Option ℤ :=
  let cs := stripChars isPySpace text.toList
  let sign : ℤ := if cs.head? = some '-' then -1 else 1
  let cs := if cs.head? = some '-' ∨ cs.head? = some '+' then cs.drop 1 else cs
  let groups := cs.splitOn '_'
  if groups.any (·.isEmpty) ∨ ¬ groups.flatten.all Char.isDigit then none
  else some (sign * (Nat.ofDigitChars 10 groups.flatten 0 : ℕ))

example : parseInt " +1_024\n" = some 1024 ∧ parseInt "0x10" = none := by decide

/-! ### What splitting and stripping keep -/

theorem flatten_splitOn (sep : Char) (cs : List Char) :
    (cs.splitOn sep).flatten = cs.filter (· ≠ sep) := by
  induction cs with
  | nil => simp
  | cons c cs ih =>
    rw [List.splitOn_cons_eq_if_modifyHead]
    obtain ⟨g, gs, hgs⟩ := List.exists_cons_of_ne_nil (List.splitOn_ne_nil sep cs)
    rw [hgs, List.flatten_cons] at ih
    by_cases hc : c = sep
    · simp [hc, hgs, ih]
    · simp [hc, hgs, ih]

theorem headD_splitText (sep : Char) (text : String) :
    (splitText sep text).headD "" = String.ofList (text.toList.takeWhile (· ≠ sep)) := by
  have hhead : ∀ cs : List Char, ∃ t, cs.splitOn sep = cs.takeWhile (· ≠ sep) :: t := by
    intro cs
    induction cs with
    | nil => exact ⟨[], by simp⟩
    | cons c cs ih =>
      obtain ⟨t, ht⟩ := ih
      rw [List.splitOn_cons_eq_if_modifyHead, ht]
      by_cases hc : c = sep
      · exact ⟨_, by simp [hc]; rfl⟩
      · exact ⟨t, by simp [hc]⟩
  obtain ⟨t, ht⟩ := hhead text.toList
  rw [splitText, ht, List.map_cons, List.headD_cons]

theorem mem_dropWhile_of_not {p : Char → Bool} {c : Char} (hp : p c = false) {cs : List Char}
    (h : c ∈ cs) : c ∈ cs.dropWhile p := by
  rw [← List.takeWhile_append_dropWhile (p := p) (l := cs)] at h
  rcases List.mem_append.1 h with h | h
  · rw [List.all_eq_true.1 List.all_takeWhile c h] at hp
    cases hp
  · exact h

theorem mem_stripChars {p : Char → Bool} {c : Char} (hp : p c = false) {cs : List Char}
    (h : c ∈ cs) : c ∈ stripChars p cs := by
  rw [stripChars, List.mem_reverse]
  exact mem_dropWhile_of_not hp (List.mem_reverse.2 (mem_dropWhile_of_not hp h))

section

variable {p : Char → Bool} {cs : List Char} {c : Char}

theorem stripChars_isInfix : stripChars p cs <:+: cs :=
  (List.rdropWhile_prefix p _).isInfix.trans (List.dropWhile_suffix p).isInfix

theorem not_of_head?_dropWhile (h : (cs.dropWhile p).head? = some c) : p c = false := by
  have hnot := List.head?_dropWhile_not p cs
  rw [h] at hnot
  exact hnot

theorem not_of_head?_stripChars (h : (stripChars p cs).head? = some c) : p c = false := by
  obtain ⟨ds, hds⟩ := List.head?_eq_some_iff.1 h
  obtain ⟨es, hes⟩ := List.rdropWhile_prefix p (cs.dropWhile p)
  have hfront : (cs.dropWhile p).head? = some c := by
    rw [← hes]
    change (stripChars p cs ++ es).head? = some c
    rw [hds, List.cons_append, List.head?_cons]
  exact not_of_head?_dropWhile hfront

theorem not_of_getLast?_stripChars (h : (stripChars p cs).getLast? = some c) : p c = false := by
  rw [stripChars, List.getLast?_reverse] at h
  exact not_of_head?_dropWhile h

theorem stripChars_eq_self_of_ends (hhead : ∀ c, cs.head? = some c → p c = false)
    (hlast : ∀ c, cs.getLast? = some c → p c = false) : stripChars p cs = cs := by
  have hself : ∀ l : List Char, (∀ c, l.head? = some c → p c = false) → l.dropWhile p = l := by
    intro l hl
    cases l with
    | nil => rfl
    | cons c l => rw [List.dropWhile_cons, hl c rfl]; rfl
  have hback : cs.reverse.dropWhile p = cs.reverse :=
    hself cs.reverse fun c hc => hlast c (by rwa [← List.head?_reverse])
  rw [stripChars, hself cs hhead, hback, List.reverse_reverse]

theorem stripChars_eq_self (h : ∀ c ∈ cs, p c = false) : stripChars p cs = cs :=
  stripChars_eq_self_of_ends (fun c hc => h c (List.mem_of_head? hc))
    fun c hc => h c (List.mem_of_getLast? hc)

end

theorem parseInt_eq_none {text : String} {c : Char} (h : c ∈ text.toList)
    (hc : isPySpace c = false ∧ c ≠ '-' ∧ c ≠ '+' ∧ c ≠ '_' ∧ c.isDigit = false) :
    parseInt text = none := by
  obtain ⟨hspace, hminus, hplus, hunderscore, hdigit⟩ := hc
  have hstrip := mem_stripChars hspace h
  simp only [parseInt]
  rw [if_pos]
  right
  intro hall
  have hflat := List.all_eq_true.1 hall c
  rw [flatten_splitOn, hdigit] at hflat
  refine absurd (hflat (List.mem_filter.2 ⟨?_, by simpa using hunderscore⟩)) (by decide)
  split_ifs with hsign
  · -- the sign is another character
    cases hcs : stripChars isPySpace text.toList with
    | nil => rw [hcs] at hstrip; cases hstrip
    | cons d ds =>
      rw [hcs] at hstrip hsign
      rcases List.mem_cons.1 hstrip with rfl | hmem
      · rcases hsign with hd | hd
        · exact absurd (Option.some.inj hd) hminus
        · exact absurd (Option.some.inj hd) hplus
      · exact hmem
  · exact hstrip

theorem plain_of_isDigit {c : Char} (hc : c.isDigit = true) :
    isPySpace c = false ∧ c ≠ '-' ∧ c ≠ '+' ∧ c ≠ '_' := by
  refine ⟨?_, ?_, ?_, ?_⟩
  · have hrange : 48 ≤ c.toNat ∧ c.toNat ≤ 57 := by
      simpa [Char.isDigit, UInt32.le_iff_toNat_le] using hc
    simp only [isPySpace, List.mem_cons, List.not_mem_nil, or_false, decide_eq_false_iff_not]
    omega
  · rintro rfl
    exact absurd hc (by decide)
  · rintro rfl
    exact absurd hc (by decide)
  · rintro rfl
    exact absurd hc (by decide)

theorem isDigit_of_mem_toDigits {n : ℕ} {c : Char} (hc : c ∈ Nat.toDigits 10 n) :
    c.isDigit = true := Nat.isDigit_of_mem_toDigits (by decide) (Nat.le_refl _) hc

theorem toList_toString (n : ℕ) : (toString n).toList = Nat.toDigits 10 n := String.toList_ofList

theorem splitOn_toDigits (n : ℕ) : (Nat.toDigits 10 n).splitOn '_' = [Nat.toDigits 10 n] :=
  List.splitOn_eq_singleton fun hmem => (plain_of_isDigit (isDigit_of_mem_toDigits hmem)).2.2.2 rfl

theorem parseInt_toString (n : ℕ) : parseInt (toString n) = some (n : ℤ) := by
  have hdigits : ∀ c ∈ Nat.toDigits 10 n, c.isDigit = true := fun c hc => isDigit_of_mem_toDigits hc
  have hne : Nat.toDigits 10 n ≠ [] := Nat.toDigits_ne_nil
  have hhead : ∀ c : Char, c = '-' ∨ c = '+' → (Nat.toDigits 10 n).head? ≠ some c := by
    rintro c hc hhead
    have := plain_of_isDigit (hdigits c (List.mem_of_mem_head? hhead))
    rcases hc with rfl | rfl
    · exact this.2.1 rfl
    · exact this.2.2.1 rfl
  have hnosign : ¬ ((Nat.toDigits 10 n).head? = some '-' ∨ (Nat.toDigits 10 n).head? = some '+') :=
    fun h => h.elim (hhead '-' (.inl rfl)) (hhead '+' (.inr rfl))
  simp only [parseInt, toList_toString,
    stripChars_eq_self fun c hc => (plain_of_isDigit (hdigits c hc)).1,
    if_neg hnosign, if_neg (hhead '-' (.inl rfl)), splitOn_toDigits]
  simp [hne, List.all_eq_true.2 hdigits, Nat.ofDigitChars_ten_toDigits]

theorem mem_toString_int {n : ℤ} {c : Char} (hc : c ∈ (toString n).toList) :
    c = '-' ∨ c.isDigit = true := by
  cases n with
  | ofNat m => exact .inr (isDigit_of_mem_toDigits (by rwa [← toList_toString]))
  | negSucc m =>
    change c ∈ ("-" ++ toString (m + 1)).toList at hc
    rw [String.toList_append, toList_toString, List.mem_append] at hc
    exact hc.imp (fun h => List.mem_singleton.1 h) isDigit_of_mem_toDigits

theorem toString_int_ne_empty (n : ℤ) : toString n ≠ "" := by
  intro h
  have hlist := congrArg String.toList h
  cases n with
  | ofNat m =>
    change (toString m).toList = [] at hlist
    rw [toList_toString] at hlist
    exact Nat.toDigits_ne_nil hlist
  | negSucc m =>
    change ("-" ++ toString (m + 1)).toList = [] at hlist
    rw [String.toList_append, toList_toString, List.append_eq_nil_iff] at hlist
    exact Nat.toDigits_ne_nil hlist.2

theorem parseInt_toString_int (n : ℤ) : parseInt (toString n) = some n := by
  cases n with
  | ofNat m => exact parseInt_toString m
  | negSucc m =>
    have hdigits : ∀ c ∈ Nat.toDigits 10 (m + 1), c.isDigit = true :=
      fun c hc => isDigit_of_mem_toDigits hc
    have hne : Nat.toDigits 10 (m + 1) ≠ [] := Nat.toDigits_ne_nil
    have htext : (toString (Int.negSucc m)).toList = '-' :: Nat.toDigits 10 (m + 1) := by
      change ("-" ++ toString (m + 1)).toList = _
      rw [String.toList_append, toList_toString]
      rfl
    have hstrip : stripChars isPySpace ('-' :: Nat.toDigits 10 (m + 1)) =
        '-' :: Nat.toDigits 10 (m + 1) := stripChars_eq_self fun c hc => by
      rcases List.mem_cons.1 hc with rfl | hc
      · decide
      · exact (plain_of_isDigit (hdigits c hc)).1
    simp only [parseInt, htext, hstrip, List.head?_cons, true_or, if_true, List.drop_succ_cons,
      List.drop_zero, splitOn_toDigits]
    simp [hne, List.all_eq_true.2 hdigits, Nat.ofDigitChars_ten_toDigits, Int.negSucc_eq]

section

open String

theorem modifyHead_nil_append (xs : List (List Char)) : xs.modifyHead ([] ++ ·) = xs := by
  cases xs <;> rfl

/-- How `String.splitOn` goes on, after the characters `l ++ m` of which `m` are not yet cut off. -/
theorem splitOnAux_eq (c : Char) (l m r : List Char) (acc : List String) :
    splitOnAux (ofList (l ++ m ++ r)) (ofList [c]) ⟨utf8Len l⟩ ⟨utf8Len l + utf8Len m⟩ 0 acc =
      acc.reverse ++ ((r.splitOn c).modifyHead (m ++ ·)).map ofList := by
  induction r generalizing l m acc with
  | nil =>
    have hextract := extract_of_valid l m []
    simp only [List.append_nil] at hextract
    rw [splitOnAux]
    simp [hextract, -ofList_append]
  | cons d r ih =>
    have hend : ¬ Pos.Raw.atEnd (ofList (l ++ m ++ d :: r)) ⟨utf8Len l + utf8Len m⟩ = true := by
      have := (atEnd_of_valid (l ++ m) (d :: r)).not.2 (List.cons_ne_nil _ _)
      simpa only [utf8Len_append] using this
    have hget : Pos.Raw.get (ofList (l ++ m ++ d :: r)) ⟨utf8Len l + utf8Len m⟩ = d := by
      rw [← utf8Len_append]
      exact get_of_valid (l ++ m) (d :: r)
    have hnext : Pos.Raw.next (ofList (l ++ m ++ d :: r)) ⟨utf8Len l + utf8Len m⟩ =
        ⟨utf8Len l + utf8Len m + d.utf8Size⟩ := by
      simpa only [utf8Len_append] using next_of_valid (l ++ m) d r
    have hsep : Pos.Raw.get (ofList [c]) 0 = c := get_of_valid [] [c]
    have hsepNext : Pos.Raw.next (ofList [c]) 0 = ⟨c.utf8Size⟩ := by
      simpa using next_of_valid [] c []
    have hsepEnd : Pos.Raw.atEnd (ofList [c]) ⟨c.utf8Size⟩ = true := by
      simpa using (atEnd_of_valid [c] []).2 rfl
    have hextract := extract_of_valid l m (d :: r)
    rw [splitOnAux, if_neg hend, hget, hsep, List.splitOn_cons_eq_if_modifyHead]
    by_cases hd : d = c
    · subst hd
      rw [if_pos BEq.rfl, if_pos BEq.rfl]
      simp only [hsepNext, hnext, hsepEnd, ↓reduceIte]
      have hlen : utf8Len (l ++ m ++ [d]) = utf8Len l + utf8Len m + d.utf8Size := by
        simp [Nat.add_assoc]
      have hrest := ih (l ++ m ++ [d]) [] (ofList m :: acc)
      rw [List.append_nil, List.append_assoc _ [d], List.singleton_append, hlen, utf8Len_nil,
        Nat.add_zero] at hrest
      have hback : (⟨utf8Len l + utf8Len m + d.utf8Size⟩ : Pos.Raw).unoffsetBy ⟨d.utf8Size⟩ =
          ⟨utf8Len l + utf8Len m⟩ := by simp [Pos.Raw.unoffsetBy]
      rw [hback, hextract, hrest, modifyHead_nil_append]
      simp
    · rw [if_neg (by simpa using hd), if_neg (by simpa using hd)]
      have hlen : utf8Len l + utf8Len (m ++ [d]) = utf8Len l + utf8Len m + d.utf8Size := by
        simp [Nat.add_assoc]
      have hrest := ih l (m ++ [d]) acc
      rw [← List.append_assoc l, List.append_assoc _ [d], List.singleton_append, hlen] at hrest
      have hback : (⟨utf8Len l + utf8Len m⟩ : Pos.Raw).unoffsetBy 0 =
          ⟨utf8Len l + utf8Len m⟩ := by simp [Pos.Raw.unoffsetBy]
      rw [hback, hnext, hrest, List.modifyHead_modifyHead]
      simp [Function.comp_def]

/-- **`String.splitOn` with a separator of one character.** -/
theorem splitOn_eq_splitText (c : Char) (text : String) :
    text.splitOn (String.singleton c) = splitText c text := by
  have haux := splitOnAux_eq c [] [] text.toList []
  rw [modifyHead_nil_append] at haux
  rw [String.splitOn, if_neg (by simp), splitText]
  simpa using haux

end

end Midscale
