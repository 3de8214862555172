import Midscale.Dns.Records
import Mathlib

/-!
# Sanitized names as labels

`sanitize_dns_name` makes a label of the name of a device or a network, in passes over its text:
lower case, a dash for every other character, one dash for each run of dashes, no dash at the ends.

* `sanitize_form` : every name gets the form of a label, whatever its length.
* `sanitize_eq_self` : what has this form is left as it is.
* `length_sanitize` : the length of the result, counted on the name: each pass keeps the number of
  letters and digits and the number of words that they form.

No pass cuts the text, so the result has the length of a label only for names that are short enough.
-/

namespace Midscale

namespace Dns

/-! ### Labels -/

/-- The characters of a label. -/
def isLabelChar (c : Char) : Bool := c.isLower ∨ c.isDigit ∨ c = '-'

/-- The form of a label, whatever its length: no dash stands at an end or next to another one. -/
structure LabelForm (cs : List Char) : Prop where
  ne_nil : cs ≠ []
  chars : ∀ c ∈ cs, isLabelChar c = true
  head : cs.head? ≠ some '-'
  last : cs.getLast? ≠ some '-'
  dashes : cs.IsChain fun c d => c ≠ '-' ∨ d ≠ '-'

/-- A legal label of a domain name: `1` to `63` characters in the form of a label. -/
structure IsLabel (label : String) : Prop extends LabelForm label.toList where
  length_le : label.length ≤ 63

/-! ### What a name keeps -/

/-- The characters of a name that are kept as letters and digits: those of ASCII, and the two whose
lower case begins with a letter of ASCII. -/
def isKept (c : Char) : Bool := c.isAlphanum ∨ c = '\u0130' ∨ c = '\u212a'

/-- How many words begin in a text.  A word is a run of characters that are kept, and `'\u0130'` is
the last one of its run, since its lower case ends with a combining dot.  The flag tells whether the
character before the text leaves a word open. -/
def wordCount : Bool → List Char → ℕ
  | _, [] => 0
  | isOpen, c :: cs =>
    (if isKept c ∧ ¬ isOpen then 1 else 0) + wordCount (isKept c ∧ c ≠ '\u0130') cs

/-- The letters, digits and words of a text. -/
def keptSize (isOpen : Bool) (cs : List Char) : ℕ := cs.countP isKept + wordCount isOpen cs

theorem keptSize_cons (isOpen : Bool) (c : Char) (cs : List Char) : keptSize isOpen (c :: cs) =
    (if isKept c then if isOpen then 1 else 2 else 0) + keptSize (isKept c ∧ c ≠ '\u0130') cs := by
  rw [keptSize, keptSize, wordCount, List.countP_cons]
  cases isKept c <;> cases isOpen <;> simp <;> omega

theorem keptSize_dash (isOpen : Bool) (cs : List Char) :
    keptSize isOpen ('-' :: cs) = keptSize false cs := by
  rw [keptSize_cons]
  simp [isKept]

/-! ### Characters -/

theorem isAlphanum_toLower (c : Char) : c.toLower.isAlphanum = c.isAlphanum := by
  simp only [Char.isAlphanum, Char.isAlpha, Char.isUpper, Char.isLower, Char.isDigit, Char.toLower]
  split <;> grind [UInt32.toNat_add]

/-- The lower case of a character. -/
def lowerChar (c : Char) : List Char :=
  if c = '\u0130' then ['i', '\u0307'] else if c = '\u212a' then ['k'] else [c.toLower]

/-- What replaces a character in the second pass. -/
def replaceOther (c : Char) : Char := if c.isAlphanum ∨ c = '-' then c else '-'

/-- What the first two passes make of a character. -/
def cleanChar (c : Char) : List Char := (lowerChar c).map replaceOther

theorem map_replaceOther_lower (name : String) :
    (lower name).map replaceOther = name.toList.flatMap cleanChar :=
  List.map_flatMap

theorem cleanChar_of_ne {c : Char} (hi : c ≠ '\u0130') (hk : c ≠ '\u212a') :
    cleanChar c = [if c.isAlphanum then c.toLower else '-'] := by
  rw [cleanChar, lowerChar, if_neg hi, if_neg hk, List.map_singleton, replaceOther,
    isAlphanum_toLower]
  by_cases hc : c.isAlphanum
  · simp [hc]
  · have hup : ¬ c.isUpper = true := fun hup => hc (by simp [Char.isAlphanum, Char.isAlpha, hup])
    rw [Char.toLower_eq_of_not_isUpper hup]
    simp [hc]

theorem isLabelChar_of_mem_cleanChar {c d : Char} (h : d ∈ cleanChar c) : isLabelChar d = true := by
  by_cases hi : c = '\u0130'
  · subst hi
    exact List.all_eq_true.1 (by decide : (cleanChar '\u0130').all isLabelChar = true) d h
  by_cases hk : c = '\u212a'
  · subst hk
    exact List.all_eq_true.1 (by decide : (cleanChar '\u212a').all isLabelChar = true) d h
  rw [cleanChar_of_ne hi hk, List.mem_singleton] at h
  subst h
  split_ifs with hc
  · have hup := Char.isUpper_toLower_eq_false c
    rw [← isAlphanum_toLower] at hc
    simpa [isLabelChar, Char.isAlphanum, Char.isAlpha, hup, or_assoc] using Or.inl hc
  · decide

theorem cleanChar_of_isLabelChar {c : Char} (h : isLabelChar c = true) : cleanChar c = [c] := by
  have hi : c ≠ '\u0130' := by
    rintro rfl
    exact absurd h (by decide)
  have hk : c ≠ '\u212a' := by
    rintro rfl
    exact absurd h (by decide)
  rw [cleanChar_of_ne hi hk]
  by_cases hdash : c = '-'
  · subst hdash
    decide
  · have hup : c.isUpper = false := by
      simp only [isLabelChar, Char.isLower, Char.isDigit, hdash] at h
      grind [Char.isUpper]
    have hc : c.isAlphanum = true := by
      simpa [isLabelChar, Char.isAlphanum, Char.isAlpha, hdash, hup] using h
    rw [if_pos hc, Char.toLower_eq_of_not_isUpper (Bool.eq_false_iff.1 hup)]

theorem isKept_of_isLabelChar {c : Char} (h : isLabelChar c = true) (hdash : c ≠ '-') :
    isKept c = true ∧ c ≠ '\u0130' := by
  constructor
  · have hc : c.isLower = true ∨ c.isDigit = true := by simpa [isLabelChar, hdash] using h
    simp only [isKept, Char.isAlphanum, Char.isAlpha]
    rcases hc with hc | hc
    · simp [hc]
    · simp [hc]
  · rintro rfl
    exact absurd h (by decide)

/-! ### What each pass keeps -/

theorem keptSize_cleanChar_append (isOpen : Bool) (c : Char) (cs : List Char) :
    keptSize isOpen (cleanChar c ++ cs) =
      (if isKept c then if isOpen then 1 else 2 else 0) +
        keptSize (isKept c ∧ c ≠ '\u0130') cs := by
  by_cases hi : c = '\u0130'
  · -- the letter ends its word: the combining dot becomes a dash
    subst hi
    have hclean : cleanChar '\u0130' = ['i', '-'] := by decide
    rw [hclean, List.cons_append, List.singleton_append, keptSize_cons, keptSize_dash]
    simp [isKept]
  by_cases hk : c = '\u212a'
  · subst hk
    have hclean : cleanChar '\u212a' = ['k'] := by decide
    rw [hclean, List.singleton_append, keptSize_cons]
    simp [isKept]
  rw [cleanChar_of_ne hi hk, List.singleton_append, keptSize_cons]
  by_cases hc : c.isAlphanum
  · have hne : c.toLower ≠ '\u0130' := by
      intro h
      rw [← isAlphanum_toLower, h] at hc
      exact absurd hc (by decide)
    simp [isKept, hc, hi, isAlphanum_toLower, hne]
  · simp [isKept, hc, hi, hk]

theorem keptSize_clean (isOpen : Bool) (cs : List Char) :
    keptSize isOpen (cs.flatMap cleanChar) = keptSize isOpen cs := by
  induction cs generalizing isOpen with
  | nil => rfl
  | cons c cs ih => rw [List.flatMap_cons, keptSize_cleanChar_append, ih, ← keptSize_cons]

theorem keptSize_collapseDashes (isOpen : Bool) (cs : List Char) :
    keptSize isOpen (collapseDashes cs) = keptSize isOpen cs := by
  induction cs generalizing isOpen with
  | nil => rfl
  | cons c cs ih =>
    rw [collapseDashes]
    split_ifs with hdash
    · obtain ⟨rfl, hnext⟩ := hdash
      obtain ⟨ds, rfl⟩ := List.head?_eq_some_iff.1 hnext
      rw [ih, keptSize_dash, keptSize_dash, keptSize_dash]
    · rw [keptSize_cons, ih, ← keptSize_cons]

theorem keptSize_dropDashes (cs : List Char) :
    keptSize false (cs.dropWhile (· = '-')) = keptSize false cs := by
  induction cs with
  | nil => rfl
  | cons c cs ih =>
    rw [List.dropWhile_cons]
    split_ifs with hdash
    · have hdash : c = '-' := by simpa using hdash
      rw [ih, hdash, keptSize_dash]
    · rfl

theorem keptSize_append_dashes (isOpen : Bool) (cs : List Char) {ds : List Char}
    (hds : ∀ d ∈ ds, d = '-') : keptSize isOpen (cs ++ ds) = keptSize isOpen cs := by
  induction cs generalizing isOpen with
  | nil =>
    induction ds generalizing isOpen with
    | nil => rfl
    | cons d ds ih =>
      obtain ⟨rfl, htail⟩ := List.forall_mem_cons.1 hds
      rw [List.nil_append, keptSize_dash]
      exact ih htail false
  | cons c cs ih => rw [List.cons_append, keptSize_cons, ih, ← keptSize_cons]

theorem keptSize_strip (cs : List Char) :
    keptSize false (stripChars (· = '-') cs) = keptSize false cs := by
  have hback := List.rdropWhile_append_rtakeWhile (p := fun c : Char => decide (c = '-'))
    (l := cs.dropWhile (· = '-'))
  have hdashes : ∀ d ∈ (cs.dropWhile (· = '-')).rtakeWhile (fun c => decide (c = '-')), d = '-' :=
    fun d hd => by simpa using List.mem_rtakeWhile_imp hd
  rw [← keptSize_dropDashes cs, ← hback, keptSize_append_dashes false _ hdashes]
  rfl

/-! ### The form of the result -/

theorem head?_collapseDashes (cs : List Char) : (collapseDashes cs).head? = cs.head? := by
  induction cs with
  | nil => rfl
  | cons c cs ih =>
    rw [collapseDashes]
    split_ifs with hdash
    · rw [ih, hdash.1, hdash.2, List.head?_cons]
    · rw [List.head?_cons, List.head?_cons]

theorem isChain_collapseDashes (cs : List Char) :
    (collapseDashes cs).IsChain fun c d => c ≠ '-' ∨ d ≠ '-' := by
  induction cs with
  | nil => exact .nil
  | cons c cs ih =>
    rw [collapseDashes]
    split_ifs with hdash
    · exact ih
    · refine ih.cons fun d hd => ?_
      rw [head?_collapseDashes] at hd
      by_contra hboth
      obtain ⟨hc, rfl⟩ : c = '-' ∧ d = '-' := by simpa [not_or] using hboth
      exact hdash ⟨hc, hd⟩

theorem collapseDashes_eq_self {cs : List Char}
    (h : cs.IsChain fun c d => c ≠ '-' ∨ d ≠ '-') : collapseDashes cs = cs := by
  induction cs with
  | nil => rfl
  | cons c cs ih =>
    rw [collapseDashes, if_neg, ih (List.isChain_of_isChain_cons h)]
    rintro ⟨hc, hnext⟩
    rcases h.rel_head? hnext with hne | hne
    · exact hne hc
    · exact hne rfl

/-- The text that the passes leave of a name. -/
def clean (name : String) : List Char :=
  stripChars (· = '-') (collapseDashes (name.toList.flatMap cleanChar))

theorem toList_sanitize (name : String) : (sanitizeDnsName name).toList =
    if clean name = [] then "unnamed".toList else clean name := by
  have hclean : stripChars (· = '-') (collapseDashes ((lower name).map replaceOther)) =
      clean name := by
    rw [map_replaceOther_lower, clean]
  simp only [sanitizeDnsName]
  change (if stripChars _ (collapseDashes ((lower name).map replaceOther)) = [] then "unnamed"
    else String.ofList (stripChars _ (collapseDashes ((lower name).map replaceOther)))).toList = _
  rw [hclean]
  split_ifs with hempty
  · rfl
  · rw [String.toList_ofList]

theorem form_clean {name : String} (h : clean name ≠ []) : LabelForm (clean name) where
  ne_nil := h
  chars c hc := by
    obtain ⟨d, -, hd⟩ := List.mem_flatMap.1 (mem_collapseDashes (stripChars_isInfix.subset hc))
    exact isLabelChar_of_mem_cleanChar hd
  head hdash := absurd (not_of_head?_stripChars hdash) (by decide)
  last hdash := absurd (not_of_getLast?_stripChars hdash) (by decide)
  dashes := by
    have hchain := isChain_collapseDashes (name.toList.flatMap cleanChar)
    have hpart : clean name <:+: collapseDashes (name.toList.flatMap cleanChar) :=
      stripChars_isInfix
    obtain ⟨front, back, hparts⟩ := hpart
    rw [← hparts] at hchain
    exact hchain.left_of_append.right_of_append

theorem form_unnamed : LabelForm "unnamed".toList where
  ne_nil := by decide
  chars := List.all_eq_true.1 (by decide : "unnamed".toList.all isLabelChar = true)
  head := by decide
  last := by decide
  dashes := by decide

/-- **Every name gets the form of a label**, whatever its length. -/
theorem sanitize_form (name : String) : LabelForm (sanitizeDnsName name).toList := by
  rw [toList_sanitize]
  split_ifs with hempty
  · exact form_unnamed
  · exact form_clean hempty

/-- What has the form of a label is left as it is. -/
theorem sanitize_eq_self {name : String} (h : LabelForm name.toList) :
    sanitizeDnsName name = name := by
  have hchars : name.toList.flatMap cleanChar = name.toList := by
    rw [List.flatMap_congr fun c hc => cleanChar_of_isLabelChar (h.chars c hc)]
    exact List.flatMap_pure_eq_map id _ |>.trans (List.map_id _)
  have hstrip : stripChars (· = '-') name.toList = name.toList := by
    refine stripChars_eq_self_of_ends (fun c hc => ?_) fun c hc => ?_
    · exact decide_eq_false fun hdash => h.head (hdash ▸ hc)
    · exact decide_eq_false fun hdash => h.last (hdash ▸ hc)
  have hclean : clean name = name.toList := by
    rw [clean, hchars, collapseDashes_eq_self h.dashes, hstrip]
  rw [← String.toList_inj, toList_sanitize, hclean, if_neg h.ne_nil]

/-! ### The length of the result -/

/-- In a text of this form each dash stands in front of a word: the text is as long as its letters
and digits together with its words, and one more word begins if no word is open before it. -/
theorem keptSize_of_form {cs : List Char} (hchars : ∀ c ∈ cs, isLabelChar c = true)
    (hlast : cs.getLast? ≠ some '-') (hdashes : cs.IsChain fun c d => c ≠ '-' ∨ d ≠ '-') :
    keptSize true cs = cs.length ∧
      (cs ≠ [] → cs.head? ≠ some '-' → keptSize false cs = cs.length + 1) := by
  induction cs with
  | nil => exact ⟨rfl, fun hne => absurd rfl hne⟩
  | cons c cs ih =>
    obtain ⟨hc, hchars⟩ := List.forall_mem_cons.1 hchars
    have hlast' : cs.getLast? ≠ some '-' := by
      intro hdash
      rw [List.getLast?_cons, hdash] at hlast
      exact hlast rfl
    obtain ⟨hopen, hclosed⟩ := ih hchars hlast' (List.isChain_of_isChain_cons hdashes)
    by_cases hdash : c = '-'
    · subst hdash
      have hne : cs ≠ [] := by
        rintro rfl
        exact hlast rfl
      have hhead : cs.head? ≠ some '-' := by
        intro hnext
        rcases hdashes.rel_head? hnext with h | h
        · exact h rfl
        · exact h rfl
      refine ⟨?_, fun _ h => absurd rfl h⟩
      rw [keptSize_dash, hclosed hne hhead, List.length_cons]
    · obtain ⟨hkept, hi⟩ := isKept_of_isLabelChar hc hdash
      have hcons : ∀ isOpen, keptSize isOpen (c :: cs) =
          (if isOpen then 1 else 2) + cs.length := by
        intro isOpen
        rw [keptSize_cons, ← hopen]
        simp [hkept, hi]
      refine ⟨?_, fun _ _ => ?_⟩
      · rw [hcons, List.length_cons]
        simp [Nat.add_comm]
      · rw [hcons, List.length_cons]
        simp
        omega

theorem keptSize_clean_name (name : String) :
    keptSize false (clean name) = keptSize false name.toList := by
  rw [clean, keptSize_strip, keptSize_collapseDashes, keptSize_clean]

/-- **The length of the result**, counted on the name. -/
theorem length_sanitize (name : String) : (sanitizeDnsName name).length =
    if keptSize false name.toList = 0 then 7 else keptSize false name.toList - 1 := by
  rw [← String.length_toList, toList_sanitize, ← keptSize_clean_name]
  by_cases hempty : clean name = []
  · rw [if_pos hempty, hempty]
    decide
  · have hform := form_clean hempty
    have hlen := (keptSize_of_form hform.chars hform.last hform.dashes).2 hempty hform.head
    rw [if_neg hempty, hlen, if_neg (Nat.succ_ne_zero _), Nat.add_sub_cancel]

example : sanitizeDnsName "My  Laptop (2)!" = "my-laptop-2" := by decide

/-- **When a sanitized name is a label**: the letters and digits of the name and the words that they
form are at most `64`.  The label has a dash between any two words, and nothing is ever cut off. -/
theorem sanitize_label_iff (name : String) :
    (IsLabel (sanitizeDnsName name) ∧
        sanitizeDnsName (sanitizeDnsName name) = sanitizeDnsName name) ↔
      name.toList.countP isKept + wordCount false name.toList ≤ 64 := by
  change _ ↔ keptSize false name.toList ≤ 64
  have hlen := length_sanitize name
  constructor
  · rintro ⟨hlabel, -⟩
    have hle := hlabel.length_le
    rw [hlen] at hle
    split_ifs at hle with hzero <;> omega
  · intro hsize
    refine ⟨⟨sanitize_form name, ?_⟩, sanitize_eq_self (sanitize_form name)⟩
    rw [hlen]
    split_ifs with hzero <;> omega

/-- A name that a device may have. -/
def longName : String :=
  "Meeting room display on the third floor of the north building (next to the stairs)"

/-- It has no more characters than `EnrollByKeyRequest` allows, and its label has `80`. -/
theorem longName_no_label : longName.length ≤ 255 ∧ (sanitizeDnsName longName).length = 80 ∧
    ¬ (IsLabel (sanitizeDnsName longName) ∧
      sanitizeDnsName (sanitizeDnsName longName) = sanitizeDnsName longName) := by
  have hlen : (sanitizeDnsName longName).length = 80 := by decide
  refine ⟨by decide, hlen, ?_⟩
  rintro ⟨hlabel, -⟩
  have hle := hlabel.length_le
  rw [hlen] at hle
  omega

end Dns

end Midscale
