import Mathlib.Data.List.TakeWhile
import Midscale.Net.IPv6

/-!
# The text of an IPv6 address

`inet_ntop` leaves out the first of the longest runs of zeros and writes some addresses with a
dotted quad at the end.  The pieces between its colons tell the eight words again.

* `pieces` : what `inetNtop` joins with colons.
* `expand` : the words that some pieces stand for, with zeros for what is left out.
* `inetNtop_injective` : **different addresses have different texts.**
-/

namespace Midscale

open Struct

namespace IPv6Address

/-! ### Hexadecimal words -/

/-- The number that hexadecimal digits denote. -/
def hexValue (cs : List Char) : ℕ := cs.foldl (fun n c => n * 16 + (hexDigit c).getD 0) 0

theorem hexDigit_digitChar : ∀ d < 16, hexDigit (Nat.digitChar d) = some d := by decide

theorem digitChar_ne : ∀ d < 16, Nat.digitChar d ≠ ':' ∧ Nat.digitChar d ≠ '.' := by decide

theorem hexValue_append (cs : List Char) (c : Char) :
    hexValue (cs ++ [c]) = hexValue cs * 16 + (hexDigit c).getD 0 := by
  simp only [hexValue, List.foldl_append, List.foldl_cons, List.foldl_nil]

theorem hexValue_toDigits (n : ℕ) : hexValue (Nat.toDigits 16 n) = n := by
  induction n using Nat.strong_induction_on with
  | _ n ih =>
    by_cases hn : n < 16
    · simp [Nat.toDigits_of_lt_base hn, hexValue, hexDigit_digitChar n hn]
    · have hdiv := ih (n / 16) (Nat.div_lt_self (by omega) (by omega))
      rw [Nat.toDigits_of_base_le (by omega) (by omega), hexValue_append, hdiv,
        hexDigit_digitChar _ (Nat.mod_lt _ (by omega)), Option.getD_some]
      omega

theorem ne_of_mem_toDigits {n : ℕ} {c : Char} (h : c ∈ Nat.toDigits 16 n) : c ≠ ':' ∧ c ≠ '.' := by
  induction n using Nat.strong_induction_on with
  | _ n ih =>
    by_cases hn : n < 16
    · rw [Nat.toDigits_of_lt_base hn, List.mem_singleton] at h
      exact h ▸ digitChar_ne n hn
    · rw [Nat.toDigits_of_base_le (by omega) (by omega), List.mem_append, List.mem_singleton] at h
      rcases h with h | rfl
      · exact ih (n / 16) (Nat.div_lt_self (by omega) (by omega)) h
      · exact digitChar_ne _ (Nat.mod_lt _ (by omega))

/-! ### Pieces -/

/-- What `colons` joins; an empty list of words is one empty piece. -/
def groups (ws : List ℕ) : List (List Char) :=
  if ws = [] then [[]] else ws.map (Nat.toDigits 16)

theorem intercalate_groups (ws : List ℕ) : [':'].intercalate (groups ws) = colons ws := by
  rw [groups, colons]
  split
  · rename_i h
    rw [h]
    rfl
  · rfl

theorem groups_ne_nil (ws : List ℕ) : groups ws ≠ [] := by
  rw [groups]
  split
  · exact List.cons_ne_nil _ _
  · rename_i h
    rwa [ne_eq, List.map_eq_nil_iff]

theorem map_toDigits_ne_nil (ws : List ℕ) : ∀ p ∈ ws.map (Nat.toDigits 16), p ≠ [] := by
  intro p hp
  obtain ⟨w, -, rfl⟩ := List.mem_map.1 hp
  exact Nat.toDigits_ne_nil

theorem filter_groups (ws : List ℕ) :
    (groups ws).filter (· ≠ []) = ws.map (Nat.toDigits 16) := by
  rw [groups]
  split
  · rename_i h
    rw [h]
    rfl
  · exact List.filter_eq_self.2 fun p hp => decide_eq_true (map_toDigits_ne_nil ws p hp)

theorem takeWhile_groups (ws : List ℕ) (ps : List (List Char)) :
    (groups ws ++ [] :: ps).takeWhile (· ≠ []) = ws.map (Nat.toDigits 16) := by
  rw [groups]
  split
  · rename_i h
    rw [h]
    rfl
  · rw [List.takeWhile_append_of_pos fun p hp => decide_eq_true (map_toDigits_ne_nil ws p hp)]
    simp

/-- The last part of a text with `::` in it. -/
def tailPieces (b : Bytes) (start len : ℕ) : List (List Char) :=
  let quad := IPv4Address.chars (IPv4Address.ofPacked (b.drop 12))
  if start = 0 ∧ len = 6 then [quad]
  else if start = 0 ∧ len = 5 ∧ (words b).getD 5 0 = 0xffff then [Nat.toDigits 16 0xffff, quad]
  else groups ((words b).drop (start + len))

/-- What stands between the colons of a text. -/
def pieces (b : Bytes) : List (List Char) :=
  let (start, len) := zeroRun (words b)
  if len < 2 then groups (words b)
  else groups ((words b).take start) ++ [] :: tailPieces b start len

theorem tailPieces_ne_nil (b : Bytes) (start len : ℕ) : tailPieces b start len ≠ [] := by
  rw [tailPieces]
  split
  · exact List.cons_ne_nil _ _
  · split
    · exact List.cons_ne_nil _ _
    · exact groups_ne_nil _

theorem intercalate_append {l r : List (List Char)} (hl : l ≠ []) (hr : r ≠ []) :
    [':'].intercalate (l ++ [] :: r) =
      [':'].intercalate l ++ [':', ':'] ++ [':'].intercalate r := by
  induction l with
  | nil => exact absurd rfl hl
  | cons p l ih =>
    by_cases hnil : l = []
    · subst hnil
      rw [List.singleton_append, List.intercalate_cons_cons,
        List.intercalate_cons_of_ne_nil hr, List.intercalate_singleton]
      simp
    · rw [List.cons_append, List.intercalate_cons_of_ne_nil (by simp), ih hnil,
        List.intercalate_cons_of_ne_nil hnil]
      simp

theorem inetNtop_eq (b : Bytes) : inetNtop b = String.ofList ([':'].intercalate (pieces b)) := by
  rw [inetNtop, pieces]
  cases zeroRun (words b) with
  | mk start len =>
    simp only
    congr 1
    split
    · exact (intercalate_groups _).symm
    · rw [intercalate_append (groups_ne_nil _) (tailPieces_ne_nil _ _ _), intercalate_groups,
        tailPieces]
      by_cases hsix : start = 0 ∧ len = 6
      · rw [if_pos hsix, if_pos hsix, hsix.1, List.intercalate_singleton]
        rfl
      · rw [if_neg hsix, if_neg hsix]
        by_cases hfive : start = 0 ∧ len = 5 ∧ (words b).getD 5 0 = 0xffff
        · rw [if_pos hfive, if_pos hfive, hfive.1, List.intercalate_cons_cons,
            List.intercalate_singleton]
          simp [colons]
        · rw [if_neg hfive, if_neg hfive, intercalate_groups]

/-! ### Pieces and words -/

/-- The words of one piece: a dotted quad stands for two. -/
def wordsOf (p : List Char) : List ℕ :=
  if '.' ∈ p then
    match IPv4Address.parseChars p with
    | some x => [x.val / 65536, x.val % 65536]
    | none => []
  else [hexValue p]

/-- The words that some pieces stand for. -/
def expand (ps : List (List Char)) : List ℕ :=
  let hi := ps.takeWhile (· ≠ [])
  let lo := ((ps.filter (· ≠ [])).drop hi.length).flatMap wordsOf
  hi.map hexValue ++ List.replicate (8 - hi.length - lo.length) 0 ++ lo

theorem wordsOf_toDigits (w : ℕ) : wordsOf (Nat.toDigits 16 w) = [w] := by
  rw [wordsOf, if_neg fun h => (ne_of_mem_toDigits h).2 rfl, hexValue_toDigits]

theorem dot_mem_chars (x : IPv4Address) : '.' ∈ IPv4Address.chars x := by
  simp [IPv4Address.chars, List.intercalate]

theorem wordsOf_chars (x : IPv4Address) :
    wordsOf (IPv4Address.chars x) = [x.val / 65536, x.val % 65536] := by
  rw [wordsOf, if_pos (dot_mem_chars x), IPv4Address.parseChars_chars]

theorem flatMap_wordsOf (ws : List ℕ) :
    (ws.map (Nat.toDigits 16)).flatMap wordsOf = ws := by
  rw [List.flatMap_map]
  simp only [wordsOf_toDigits, List.flatMap_singleton']

theorem map_hexValue (ws : List ℕ) : (ws.map (Nat.toDigits 16)).map hexValue = ws := by
  rw [List.map_map]
  exact (List.map_congr_left fun w _ => hexValue_toDigits w).trans (List.map_id ws)

theorem length_words (b : Bytes) : (words b).length = 8 := by
  rfl

theorem drop_six_words {b : Bytes} (h : b.length = 16) :
    (words b).drop 6 = wordsOf (IPv4Address.chars (IPv4Address.ofPacked (b.drop 12))) := by
  have hlow : ofBigEndian (b.drop 14) < 256 ^ 2 := by
    have := ofBigEndian_lt (b.drop 14)
    rwa [List.length_drop, h] at this
  have hhigh : ofBigEndian ((b.drop 12).take 2) < 256 ^ 2 := by
    have := ofBigEndian_lt ((b.drop 12).take 2)
    rwa [List.length_take, List.length_drop, h] at this
  have hboth : ofBigEndian (b.drop 12) =
      ofBigEndian ((b.drop 12).take 2) * 256 ^ 2 + ofBigEndian (b.drop 14) := by
    have := ofBigEndian_append ((b.drop 12).take 2) ((b.drop 12).drop 2)
    rwa [List.take_append_drop, List.drop_drop, List.length_drop, h] at this
  have hwords : (words b).drop 6 =
      [ofBigEndian ((b.drop 12).take 2), ofBigEndian (b.drop 14)] := by
    have htake : (b.drop 14).take 2 = b.drop 14 := List.take_of_length_le (by simp [h])
    simp only [words, List.replicate, fieldsOf, List.drop_succ_cons, List.drop_zero, List.drop_drop]
    rw [htake]
  rw [wordsOf_chars, hwords]
  simp only [IPv4Address.ofPacked]
  congr 1
  · omega
  · congr 1
    omega

/-! ### The run of zeros -/

theorem zeroRun_zeros (ws : List ℕ) :
    (ws.drop (zeroRun ws).1).take (zeroRun ws).2 = List.replicate (zeroRun ws).2 0 ∧
      (zeroRun ws).2 ≤ (ws.drop (zeroRun ws).1).length := by
  have hrun : ∀ i, let len := ((ws.drop i).takeWhile (· = 0)).length
      (ws.drop i).take len = List.replicate len 0 ∧ len ≤ (ws.drop i).length := by
    intro i
    have htake := List.prefix_iff_eq_take.1 (List.takeWhile_prefix (l := ws.drop i) (· = 0))
    refine ⟨?_, (List.takeWhile_sublist _).length_le⟩
    rw [← htake, List.eq_replicate_iff]
    exact ⟨rfl, fun w hw => by simpa using List.mem_takeWhile_imp hw⟩
  have hfold : ∀ (is : List ℕ) (best : ℕ × ℕ),
      ((ws.drop best.1).take best.2 = List.replicate best.2 0 ∧
        best.2 ≤ (ws.drop best.1).length) →
      let last := is.foldl (fun best i =>
        let len := ((ws.drop i).takeWhile (· = 0)).length
        if best.2 < len then (i, len) else best) best
      (ws.drop last.1).take last.2 = List.replicate last.2 0 ∧
        last.2 ≤ (ws.drop last.1).length := by
    intro is
    induction is with
    | nil => exact fun _ h => h
    | cons i is ih =>
      intro best h
      refine ih _ ?_
      simp only
      split
      · exact hrun i
      · exact h
  exact hfold _ (0, 0) ⟨rfl, Nat.zero_le _⟩

theorem eq_around_zeroRun (ws : List ℕ) : ws = ws.take (zeroRun ws).1 ++
    List.replicate (zeroRun ws).2 0 ++ ws.drop ((zeroRun ws).1 + (zeroRun ws).2) := by
  rw [← (zeroRun_zeros ws).1, List.append_assoc, ← List.drop_drop, List.take_append_drop,
    List.take_append_drop]

/-! ### Texts tell addresses apart -/

theorem flatMap_tailPieces {b : Bytes} (h : b.length = 16) (start len : ℕ) :
    ((tailPieces b start len).filter (· ≠ [])).flatMap wordsOf = (words b).drop (start + len) := by
  have hchars : IPv4Address.chars (IPv4Address.ofPacked (b.drop 12)) ≠ [] :=
    List.ne_nil_of_mem (dot_mem_chars _)
  rw [tailPieces]
  split
  · rename_i hsix
    obtain ⟨rfl, rfl⟩ := hsix
    simp [hchars, drop_six_words h]
  · split
    · rename_i hfive
      obtain ⟨rfl, rfl, hffff⟩ := hfive
      have hdrop : (words b).drop (0 + 5) = 0xffff :: (words b).drop 6 := by
        rw [Nat.zero_add, List.drop_eq_getElem_cons (by rw [length_words]; omega), ← hffff,
          List.getD_eq_getElem _ _ (by rw [length_words]; omega)]
      rw [hdrop, drop_six_words h]
      simp [hchars, Nat.toDigits_ne_nil, wordsOf_toDigits]
    · rw [filter_groups, flatMap_wordsOf]

/-- The pieces of a text stand for the words of the address. -/
theorem expand_pieces {b : Bytes} (h : b.length = 16) : expand (pieces b) = words b := by
  have hwords := eq_around_zeroRun (words b)
  obtain ⟨-, hlen⟩ := zeroRun_zeros (words b)
  have height := length_words b
  rw [pieces]
  cases hrun : zeroRun (words b) with
  | mk start len =>
    rw [hrun] at hwords hlen
    simp only at hwords hlen ⊢
    split
    · have hne : words b ≠ [] := List.ne_nil_of_length_pos (by omega)
      have hall : (groups (words b)).takeWhile (· ≠ []) = (words b).map (Nat.toDigits 16) := by
        rw [groups, if_neg hne]
        exact List.takeWhile_eq_self_iff.2 fun p hp =>
          decide_eq_true (map_toDigits_ne_nil _ p hp)
      have hdrop : ((words b).map (Nat.toDigits 16)).drop 8 = [] :=
        List.drop_of_length_le (by rw [List.length_map, height])
      simp only [expand, hall, filter_groups, map_hexValue, List.length_map, height, hdrop,
        List.flatMap_nil, List.length_nil, Nat.sub_self, List.replicate_zero, List.append_nil]
    · have hfilter : (groups ((words b).take start) ++ [] :: tailPieces b start len).filter
          (· ≠ []) = ((words b).take start).map (Nat.toDigits 16) ++
            (tailPieces b start len).filter (· ≠ []) := by
        rw [List.filter_append, filter_groups]
        simp
      simp only [expand, takeWhile_groups, hfilter, List.drop_left', List.length_map,
        map_hexValue, flatMap_tailPieces h]
      rw [List.length_take, List.length_drop, height]
      rw [List.length_drop, height] at hlen
      have hgap : 8 - min start 8 - (8 - (start + len)) = len := by omega
      rw [hgap, ← hwords]

theorem colon_not_mem_octetText : ∀ o : Fin 256, ':' ∉ IPv4Address.octetText o := by
  decide +kernel

theorem colon_not_mem_pieces (b : Bytes) : ∀ p ∈ pieces b, ':' ∉ p := by
  have hquad : ∀ x : IPv4Address, ':' ∉ IPv4Address.chars x := by
    intro x
    have ho := fun i => colon_not_mem_octetText (IPv4Address.octet x i)
    simp [IPv4Address.chars, List.intercalate, ho]
  have hhex : ∀ w, ':' ∉ Nat.toDigits 16 w := fun w hw => (ne_of_mem_toDigits hw).1 rfl
  have hgroups : ∀ ws, ∀ p ∈ groups ws, ':' ∉ p := by
    intro ws p hp
    rw [groups] at hp
    split at hp
    · rw [List.mem_singleton.1 hp]
      exact List.not_mem_nil
    · obtain ⟨w, -, rfl⟩ := List.mem_map.1 hp
      exact hhex w
  have htail : ∀ start len, ∀ p ∈ tailPieces b start len, ':' ∉ p := by
    intro start len p hp
    rw [tailPieces] at hp
    split at hp
    · rw [List.mem_singleton.1 hp]
      exact hquad _
    · split at hp
      · rcases List.mem_cons.1 hp with rfl | hp
        · exact hhex _
        · rw [List.mem_singleton.1 hp]
          exact hquad _
      · exact hgroups _ p hp
  intro p hp
  rw [pieces] at hp
  cases hrun : zeroRun (words b) with
  | mk start len =>
    rw [hrun] at hp
    simp only at hp
    split at hp
    · exact hgroups _ p hp
    · rcases List.mem_append.1 hp with hp | hp
      · exact hgroups _ p hp
      · rcases List.mem_cons.1 hp with rfl | hp
        · exact List.not_mem_nil
        · exact htail _ _ p hp

theorem pieces_ne_nil (b : Bytes) : pieces b ≠ [] := by
  rw [pieces]
  cases zeroRun (words b) with
  | mk start len =>
    simp only
    split
    · exact groups_ne_nil _
    · exact List.append_ne_nil_of_left_ne_nil (groups_ne_nil _) _

/-- **Different addresses have different texts.** -/
theorem inetNtop_injective {b c : Bytes} (hb : b.length = 16) (hc : c.length = 16)
    (h : inetNtop b = inetNtop c) : b = c := by
  rw [inetNtop_eq, inetNtop_eq, String.ofList_inj] at h
  have hpieces : pieces b = pieces c := by
    have := congrArg (List.splitOn ':') h
    rwa [List.splitOn_intercalate _ (colon_not_mem_pieces b) (pieces_ne_nil b),
      List.splitOn_intercalate _ (colon_not_mem_pieces c) (pieces_ne_nil c)] at this
  have hwords : words b = words c := by rw [← expand_pieces hb, hpieces, expand_pieces hc]
  exact @fieldsOf_injective (List.replicate 8 2) b c hb hc hwords

end IPv6Address

end Midscale
