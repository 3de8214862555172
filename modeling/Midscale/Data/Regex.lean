import Mathlib.Data.List.Infix

/-!
# Regular expressions

Backtracking regular expressions as Python's `re` runs them, for patterns that repeat single
characters only.  `ways` lists the ways a pattern matches at a position in the order in which they
are tried, so a match is the head of that list.  The position is what comes before (its last
character) and what comes after.

* `First` : the match at a position, with rules for each construct.
* `First.manyLazy_seq` : a lazy repetition stops where its continuation first matches.
* `findAll_append_of_ways`, `findAll_of_first` : how a search goes on where nothing matches and
  after a match.
-/

namespace Midscale

/-- A pattern over single characters. -/
inductive Regex where
  /-- One character of a class. -/
  | one (p : Char → Bool)
  /-- `p*`, as many as possible. -/
  | many (p : Char → Bool)
  /-- `p*?`, as few as possible. -/
  | manyLazy (p : Char → Bool)
  /-- The empty pattern. -/
  | done
  | seq (r r' : Regex)
  | alt (r r' : Regex)
  /-- `(?=r)`. -/
  | ahead (r : Regex)
  /-- A group whose text is kept. -/
  | group (r : Regex)
  /-- `^` with `re.MULTILINE`. -/
  | lineStart
  /-- `$` with `re.MULTILINE`. -/
  | lineEnd
  /-- `$` without flags: the end of the text, also before a newline that ends it. -/
  | textEnd

namespace Regex

/-- The text of a match and the texts of its groups. -/
abbrev Match := List Char × List (List Char)

/-- A literal text. -/
def lit : List Char → Regex
  | [] => done
  | c :: cs => seq (one (· = c)) (lit cs)

/-- `p+`. -/
def some1 (p : Char → Bool) : Regex := seq (one p) (many p)

/-- The last character before the position after `cs`. -/
def lastOf (prev : Option Char) (cs : List Char) : Option Char := cs.getLast? <|> prev

/-- The ways a pattern matches, in the order in which they are tried. -/
def ways : Regex → Option Char → List Char → List Match
  | one p, _, c :: _ => if p c then [([c], [])] else []
  | one _, _, [] => []
  | many p, _, rest => (rest.takeWhile p).inits.reverse.map fun cs => (cs, [])
  | manyLazy p, _, rest => (rest.takeWhile p).inits.map fun cs => (cs, [])
  | done, _, _ => [([], [])]
  | seq r r', prev, rest => (r.ways prev rest).flatMap fun m =>
      (r'.ways (lastOf prev m.1) (rest.drop m.1.length)).map fun m' => (m.1 ++ m'.1, m.2 ++ m'.2)
  | alt r r', prev, rest => r.ways prev rest ++ r'.ways prev rest
  | ahead r, prev, rest => ((r.ways prev rest).head?.map fun m => ([], m.2)).toList
  | group r, prev, rest => (r.ways prev rest).map fun m => (m.1, m.1 :: m.2)
  | lineStart, prev, _ => if prev = none ∨ prev = some '\n' then [([], [])] else []
  | lineEnd, _, rest => if rest = [] ∨ rest.head? = some '\n' then [([], [])] else []
  | textEnd, _, rest => if rest = [] ∨ rest = ['\n'] then [([], [])] else []

/-- The matches in a text, from left to right without overlaps; the first argument counts the
characters that still belong to the last match. -/
def findAllFrom (r : Regex) (prev : Option Char) : ℕ → List Char → List Match
  | 0, [] => (r.ways prev []).head?.toList
  | 0, c :: cs =>
    match (r.ways prev (c :: cs)).head? with
    | some m => m :: findAllFrom r (some c) (m.1.length - 1) cs
    | none => findAllFrom r (some c) 0 cs
  | _ + 1, [] => []
  | n + 1, c :: cs => findAllFrom r (some c) n cs

/-- `re.findall`, for a pattern that matches no empty text. -/
def findAll (r : Regex) (text : List Char) : List Match := findAllFrom r none 0 text

/-- `re.search`. -/
def search (r : Regex) (text : List Char) : Option Match := (findAll r text).head?

example : (findAll (seq (lit ['a']) (manyLazy fun _ => true)) "xaab".toList).map Prod.fst =
    [['a'], ['a']] := by decide

/-! ### The ways of a pattern -/

section Ways

variable {r r' : Regex} {p : Char → Bool} {prev : Option Char} {rest : List Char}

theorem ways_one {c : Char} : (one p).ways prev (c :: rest) = if p c then [([c], [])] else [] := rfl

theorem ways_many : (many p).ways prev rest =
    (rest.takeWhile p).inits.reverse.map fun cs => (cs, []) := rfl

theorem ways_seq : (seq r r').ways prev rest = (r.ways prev rest).flatMap fun m =>
    (r'.ways (lastOf prev m.1) (rest.drop m.1.length)).map fun m' => (m.1 ++ m'.1, m.2 ++ m'.2) :=
  rfl

theorem ways_alt : (alt r r').ways prev rest = r.ways prev rest ++ r'.ways prev rest := rfl

theorem ways_ahead : (ahead r).ways prev rest =
    ((r.ways prev rest).head?.map fun m => ([], m.2)).toList := rfl

theorem ways_group : (group r).ways prev rest = (r.ways prev rest).map fun m => (m.1, m.1 :: m.2) :=
  rfl

theorem ways_lineStart : lineStart.ways prev rest =
    if prev = none ∨ prev = some '\n' then [([], [])] else [] := rfl

theorem ways_lineEnd : lineEnd.ways prev rest =
    if rest = [] ∨ rest.head? = some '\n' then [([], [])] else [] := rfl

theorem ways_textEnd : textEnd.ways prev rest =
    if rest = [] ∨ rest = ['\n'] then [([], [])] else [] := rfl

end Ways

/-! ### The match at a position -/

/-- The pattern matches here, first with `m`. -/
def First (r : Regex) (prev : Option Char) (rest : List Char) (m : Match) : Prop :=
  (r.ways prev rest).head? = some m

@[simp] theorem lastOf_nil (prev : Option Char) : lastOf prev [] = prev := rfl

theorem lastOf_append (prev : Option Char) (cs ds : List Char) :
    lastOf prev (cs ++ ds) = lastOf (lastOf prev cs) ds := by
  simp only [lastOf, List.getLast?_append]
  cases ds.getLast? <;> rfl

theorem lastOf_cons (prev : Option Char) (c : Char) (cs : List Char) :
    lastOf prev (c :: cs) = lastOf (some c) cs := lastOf_append prev [c] cs

section Rules

variable {r r' : Regex} {p : Char → Bool} {prev : Option Char}

theorem First.done (rest : List Char) : First done prev rest ([], []) := rfl

theorem First.one {c : Char} (hc : p c = true) (rest : List Char) :
    First (one p) prev (c :: rest) ([c], []) := by
  rw [First, ways_one, if_pos hc]
  rfl

theorem First.lineStart (h : prev = none ∨ prev = some '\n') (rest : List Char) :
    First lineStart prev rest ([], []) := by
  rw [First, ways_lineStart, if_pos h]
  rfl

theorem First.lineEnd {rest : List Char} (h : rest = [] ∨ rest.head? = some '\n') :
    First lineEnd prev rest ([], []) := by
  rw [First, ways_lineEnd, if_pos h]
  rfl

theorem First.seq (prev : Option Char) {a rest : List Char} {m : Match} {gs : List (List Char)}
    (h : First r prev (a ++ rest) (a, gs)) (h' : First r' (lastOf prev a) rest m) :
    First (seq r r') prev (a ++ rest) (a ++ m.1, gs ++ m.2) := by
  unfold First at h h' ⊢
  obtain ⟨ms, hms⟩ := List.head?_eq_some_iff.1 h
  obtain ⟨ms', hms'⟩ := List.head?_eq_some_iff.1 h'
  rw [ways_seq, hms, List.flatMap_cons, List.drop_left, hms', List.map_cons]
  rfl

theorem First.group {a rest : List Char} {gs : List (List Char)} (h : First r prev rest (a, gs)) :
    First (group r) prev rest (a, a :: gs) := by
  unfold First at h ⊢
  rw [ways_group, List.head?_map, h]
  rfl

theorem First.lit (cs rest : List Char) : First (lit cs) prev (cs ++ rest) (cs, []) := by
  induction cs generalizing prev with
  | nil => exact First.done rest
  | cons c cs ih =>
    exact First.seq prev (a := [c]) (First.one (p := (· = c)) (by simp) (cs ++ rest)) ih

/-- A greedy repetition goes as far as it can, if the rest can go on there. -/
theorem First.many {a rest : List Char} (ha : ∀ c ∈ a, p c = true)
    (hrest : ∀ c, rest.head? = some c → p c = false) : First (many p) prev (a ++ rest) (a, []) := by
  have hstop : rest.takeWhile p = [] := by
    cases rest with
    | nil => rfl
    | cons c cs => rw [List.takeWhile_cons, hrest c rfl]; rfl
  unfold First
  rw [ways_many, List.takeWhile_append_of_pos ha, hstop, List.append_nil, List.head?_map,
    List.head?_reverse]
  have hlast : a.inits.getLast? = some a := by
    rw [List.inits_eq_tails, List.getLast?_reverse, List.head?_map]
    cases h : a.reverse with
    | nil => simpa using h
    | cons c cs => simp [← h]
  rw [hlast]
  rfl

theorem First.some1 {a rest : List Char} (hne : a ≠ []) (ha : ∀ c ∈ a, p c = true)
    (hrest : ∀ c, rest.head? = some c → p c = false) : First (some1 p) prev (a ++ rest) (a, []) := by
  cases a with
  | nil => exact absurd rfl hne
  | cons c cs =>
    exact First.seq prev (a := [c]) (First.one (ha c List.mem_cons_self) (cs ++ rest))
      (First.many (fun d hd => ha d (List.mem_cons_of_mem _ hd)) hrest)

theorem ways_seq_of_nil {rest : List Char} (h : r.ways prev rest = []) :
    (seq r r').ways prev rest = [] := by
  rw [ways_seq, h, List.flatMap_nil]

theorem findSome?_inits {β : Type} {f : List Char → Option β} {b : β} {a w : List Char}
    (hpre : a <+: w) (hno : ∀ a₁ c a₂, a = a₁ ++ c :: a₂ → f a₁ = none) (ha : f a = some b) :
    w.inits.findSome? f = some b := by
  induction a generalizing f w with
  | nil =>
    cases w with
    | nil => simp [ha]
    | cons c cs => rw [List.inits_cons, List.findSome?_cons, ha]
  | cons c a ih =>
    obtain ⟨w', rfl⟩ := hpre
    rw [List.cons_append, List.inits_cons, List.findSome?_cons, hno [] c a rfl, List.findSome?_map]
    exact ih (f := f ∘ (c :: ·)) (List.prefix_append a w')
      (fun a₁ d a₂ heq => hno (c :: a₁) d a₂ (by rw [heq]; rfl)) ha

theorem First.inits_seq {r₀ : Regex} {keep : List Char → List (List Char)}
    (hways : ∀ prev rest, r₀.ways prev rest = (rest.takeWhile p).inits.map fun cs => (cs, keep cs))
    {a rest : List Char} {m : Match} (ha : ∀ c ∈ a, p c = true)
    (hno : ∀ a₁ c a₂, a = a₁ ++ c :: a₂ → r.ways (lastOf prev a₁) (c :: a₂ ++ rest) = [])
    (h : First r (lastOf prev a) rest m) :
    First (.seq r₀ r) prev (a ++ rest) (a ++ m.1, keep a ++ m.2) := by
  unfold First at h ⊢
  have hpre : a <+: (a ++ rest).takeWhile p := by
    rw [List.takeWhile_append_of_pos ha]
    exact List.prefix_append a _
  rw [ways_seq, hways, List.flatMap_map, List.head?_flatMap]
  refine findSome?_inits hpre (fun a₁ c a₂ heq => ?_) ?_
  · subst heq
    rw [List.append_assoc, List.drop_left, List.head?_map, hno a₁ c a₂ rfl]
    rfl
  · rw [List.drop_left, List.head?_map, h]
    rfl

/-- **A lazy repetition stops where its continuation first matches.** -/
theorem First.manyLazy_seq {a rest : List Char} {m : Match} (ha : ∀ c ∈ a, p c = true)
    (hno : ∀ a₁ c a₂, a = a₁ ++ c :: a₂ → r.ways (lastOf prev a₁) (c :: a₂ ++ rest) = [])
    (h : First r (lastOf prev a) rest m) :
    First (.seq (.manyLazy p) r) prev (a ++ rest) (a ++ m.1, m.2) := by
  let keep : List Char → List (List Char) := fun _ => []
  have hways : ∀ prev rest, (Regex.manyLazy p).ways prev rest =
      (rest.takeWhile p).inits.map fun cs => (cs, keep cs) := fun _ _ => rfl
  exact First.inits_seq hways ha hno h

theorem First.group_manyLazy_seq {a rest : List Char} {m : Match} (ha : ∀ c ∈ a, p c = true)
    (hno : ∀ a₁ c a₂, a = a₁ ++ c :: a₂ → r.ways (lastOf prev a₁) (c :: a₂ ++ rest) = [])
    (h : First r (lastOf prev a) rest m) :
    First (.seq (.group (.manyLazy p)) r) prev (a ++ rest) (a ++ m.1, a :: m.2) := by
  let keep : List Char → List (List Char) := fun cs => [cs]
  have hways : ∀ prev rest, (Regex.group (.manyLazy p)).ways prev rest =
      (rest.takeWhile p).inits.map fun cs => (cs, keep cs) := fun prev rest => by
    rw [ways_group]
    exact List.map_map
  exact First.inits_seq hways ha hno h

theorem ways_lineStart_seq {rest : List Char} : (.seq .lineStart r : Regex).ways prev rest =
    if prev = none ∨ prev = some '\n' then r.ways prev rest else [] := by
  rw [ways_seq, ways_lineStart]
  split_ifs <;> simp

theorem ways_one_seq {c : Char} {rest : List Char} (h : r.ways (some c) rest = []) :
    (.seq (.one p) r : Regex).ways prev (c :: rest) = [] := by
  rw [ways_seq, ways_one]
  split_ifs
  · simp [lastOf, h]
  · rfl

theorem ways_lit_of_ne {c d : Char} {cs rest : List Char} (h : d ≠ c) :
    (lit (c :: cs)).ways prev (d :: rest) = [] :=
  ways_seq_of_nil (by simp [ways_one, h])

theorem ways_lit_nil {c : Char} {cs : List Char} : (lit (c :: cs)).ways prev [] = [] :=
  ways_seq_of_nil rfl

/-! ### Searches -/

theorem findAllFrom_length (xs ys : List Char) :
    findAllFrom r prev xs.length (xs ++ ys) = findAllFrom r (lastOf prev xs) 0 ys := by
  induction xs generalizing prev with
  | nil => rfl
  | cons c cs ih =>
    rw [List.length_cons, List.cons_append, findAllFrom, ih, lastOf_cons]

/-- **A search goes on after a match.** -/
theorem findAll_of_first {xs ys : List Char} {gs : List (List Char)} (hne : xs ≠ [])
    (h : First r prev (xs ++ ys) (xs, gs)) :
    findAllFrom r prev 0 (xs ++ ys) = (xs, gs) :: findAllFrom r (lastOf prev xs) 0 ys := by
  cases xs with
  | nil => exact absurd rfl hne
  | cons c cs =>
    unfold First at h
    rw [List.cons_append] at h ⊢
    rw [findAllFrom, h]
    simp only [List.length_cons, Nat.add_sub_cancel, findAllFrom_length, lastOf_cons]

/-- **A search goes on where nothing matches.** -/
theorem findAll_append_of_ways {xs ys : List Char}
    (h : ∀ a c b, xs = a ++ c :: b → r.ways (lastOf prev a) (c :: b ++ ys) = []) :
    findAllFrom r prev 0 (xs ++ ys) = findAllFrom r (lastOf prev xs) 0 ys := by
  induction xs generalizing prev with
  | nil => rfl
  | cons c cs ih =>
    have hhere : r.ways prev (c :: (cs ++ ys)) = [] := h [] c cs rfl
    rw [List.cons_append, findAllFrom, hhere, lastOf_cons]
    refine ih fun a d b heq => ?_
    have hlater := h (c :: a) d b (by rw [heq]; rfl)
    rwa [lastOf_cons] at hlater

end Rules

end Regex

end Midscale
