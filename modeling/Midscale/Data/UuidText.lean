import Midscale.Data.Uuid

/-!
# Texts of UUIDs read back

The subject of an access token is the text of a user's id, which the server parses again.

* `Uuid.ofNat_hexNat` : the digits of a UUID are those of its number.
* `Uuid.parse_str` : **the text of a UUID is parsed to the UUID.**
-/

namespace Midscale

/-! ### The number of a list of digits -/

/-- The number that a list of digits stands for. -/
def hexNat (ds : List (Fin 16)) : ℕ := ds.foldl (fun (n : ℕ) (d : Fin 16) => 16 * n + d.val) 0

theorem hexNat_concat (ds : List (Fin 16)) (d : Fin 16) :
    hexNat (ds ++ [d]) = 16 * hexNat ds + d.val := by
  rw [hexNat, List.foldl_append]
  rfl

theorem digit_hexNat (ds : List (Fin 16)) {i : ℕ} (hi : i < ds.length) :
    Fin.ofNat 16 (hexNat ds / 16 ^ (ds.length - 1 - i)) = ds[i] := by
  induction ds using List.reverseRecOn generalizing i with
  | nil => simp at hi
  | append_singleton ds d ih =>
    simp only [hexNat_concat, List.length_append, List.length_singleton]
    rw [List.length_append, List.length_singleton] at hi
    rcases Nat.lt_succ_iff_lt_or_eq.1 hi with hlt | rfl
    · -- the last digit is shifted out
      have hexp : ds.length + 1 - 1 - i = ds.length - 1 - i + 1 := by omega
      have hdiv : (16 * hexNat ds + d.val) / 16 = hexNat ds := by omega
      rw [hexp, Nat.pow_succ', ← Nat.div_div_eq_div_mul, hdiv, ih hlt,
        List.getElem_append_left hlt]
    · apply Fin.ext
      simp [Fin.ofNat]

namespace Uuid

/-- The digits of a UUID are those of its number. -/
theorem ofNat_hexNat (u : Uuid) : ofNat (hexNat u.digits) = u := by
  obtain ⟨digits, hlength⟩ := u
  simp only [ofNat, mk.injEq]
  refine List.ext_getElem (by simp [hlength]) fun i hi hi' => ?_
  rw [List.getElem_map, List.getElem_range, ← digit_hexNat digits hi', hlength]

/-! ### Reading the text -/

theorem mem_chars {u : Uuid} {c : Char} (h : c ∈ u.chars) : c = '-' ∨ ∃ d, c = hexChar d := by
  by_cases hc : c = '-'
  · exact .inl hc
  · have hmem : c ∈ u.chars.filter (· ≠ '-') := List.mem_filter.2 ⟨h, by simpa using hc⟩
    rw [filter_chars] at hmem
    obtain ⟨d, -, rfl⟩ := List.mem_map.1 hmem
    exact .inr ⟨d, rfl⟩

theorem hexChar_plain : ∀ d, hexChar d ≠ 'u' ∧ isPySpace (hexChar d) = false ∧
    hexChar d ≠ '+' ∧ hexChar d ≠ '_' ∧ (hexChar d).toLower ≠ 'x' ∧
    (hexChar d).toNat ≠ 0x7b ∧ (hexChar d).toNat ≠ 0x7d := by decide

theorem parseHexDigit_hexChar : ∀ d, parseHexDigit (hexChar d) = some d.val := by decide

end Uuid

theorem removeAll_of_not_mem {p : Char} {pattern : List Char} :
    ∀ {n : ℕ} {cs : List Char}, p ∉ cs → removeAll (p :: pattern) n cs = cs
  | 0, _, _ => rfl
  | n + 1, [], _ => rfl
  | n + 1, c :: cs, h => by
    have hc : p ≠ c := fun heq => h (heq ▸ List.mem_cons_self)
    rw [removeAll, if_neg (by simp [hc]),
      removeAll_of_not_mem fun hmem => h (List.mem_cons_of_mem c hmem)]

/-- Hexadecimal digits without a prefix are read digit by digit. -/
theorem parseIntBase16_hexChars {ds : List (Fin 16)} (hds : ds ≠ []) :
    parseIntBase16 (ds.map Uuid.hexChar) = some (hexNat ds : ℤ) := by
  have hplain : ∀ c ∈ ds.map Uuid.hexChar, ∃ d, c = Uuid.hexChar d := fun c hc => by
    obtain ⟨d, -, rfl⟩ := List.mem_map.1 hc
    exact ⟨d, rfl⟩
  have hstrip : stripChars isPySpace (ds.map Uuid.hexChar) = ds.map Uuid.hexChar :=
    stripChars_eq_self fun c hc => by
      obtain ⟨d, rfl⟩ := hplain c hc
      exact (Uuid.hexChar_plain d).2.1
  have hhead : ∀ c : Char, c = '-' ∨ c = '+' → (ds.map Uuid.hexChar).head? ≠ some c := by
    rintro c hc hhead
    obtain ⟨d, rfl⟩ := hplain c (List.mem_of_head? hhead)
    rcases hc with h | h
    · exact Uuid.hexChar_ne_hyphen d h
    · exact (Uuid.hexChar_plain d).2.2.1 h
  have hprefix : ((ds.map Uuid.hexChar).take 2).map Char.toLower ≠ ['0', 'x'] := by
    intro heq
    have hx : 'x' ∈ ((ds.map Uuid.hexChar).take 2).map Char.toLower := by simp [heq]
    obtain ⟨c, hc, hlower⟩ := List.mem_map.1 hx
    obtain ⟨d, rfl⟩ := hplain c (List.mem_of_mem_take hc)
    exact (Uuid.hexChar_plain d).2.2.2.2.1 hlower
  have hsplit : (ds.map Uuid.hexChar).splitOn '_' = [ds.map Uuid.hexChar] :=
    List.splitOn_eq_singleton fun hmem => by
      obtain ⟨d, hd⟩ := hplain _ hmem
      exact (Uuid.hexChar_plain d).2.2.2.1 hd.symm
  have hdigits : (ds.map Uuid.hexChar).mapM parseHexDigit = some (ds.map Fin.val) := by
    rw [List.mapM_map]
    clear * -
    induction ds with
    | nil => rfl
    | cons d ds ih => simp [Function.comp_apply, Uuid.parseHexDigit_hexChar, ih]
  have hfold : (ds.map Fin.val).foldl (fun n d => n * 16 + d) 0 = hexNat ds := by
    rw [List.foldl_map, hexNat]
    simp only [Nat.mul_comm]
  simp only [parseIntBase16, hstrip]
  rw [if_neg (hhead '-' (.inl rfl)),
    if_neg (show ¬ ((ds.map Uuid.hexChar).head? = some '-' ∨
      (ds.map Uuid.hexChar).head? = some '+') from
      not_or.2 ⟨hhead '-' (.inl rfl), hhead '+' (.inr rfl)⟩),
    if_neg hprefix, if_neg (fun h => hprefix h.1 : ¬ (_ ∧ _)), hsplit]
  have hne : (ds.map Uuid.hexChar).isEmpty = false := by simpa using hds
  simp [hne, hdigits, hfold]

namespace Uuid

/-- **The text of a UUID is parsed to the UUID.** -/
@[simp] theorem parse_str (u : Uuid) : parse u.str = some u := by
  have hu : 'u' ∉ u.chars := fun hmem => by
    rcases mem_chars hmem with h | ⟨d, h⟩
    · exact absurd h (by decide)
    · exact (hexChar_plain d).1 h.symm
  have hstrip : stripChars (fun c => c.toNat = 0x7b ∨ c.toNat = 0x7d) u.chars = u.chars :=
    stripChars_eq_self fun c hc => by
      rcases mem_chars hc with rfl | ⟨d, rfl⟩
      · decide
      · simpa using (hexChar_plain d).2.2.2.2.2
  have hlength : (u.digits.map hexChar).length = 32 := by rw [List.length_map, u.length_eq]
  have hne : u.digits ≠ [] := fun h => by
    have := u.length_eq
    simp [h] at this
  have hchars : u.str.toList = u.chars := String.toList_ofList
  simp only [parse, hchars]
  rw [show "urn:".toList = 'u' :: "rn:".toList from rfl, removeAll_of_not_mem hu,
    show "uuid:".toList = 'u' :: "uid:".toList from rfl, removeAll_of_not_mem hu, hstrip,
    filter_chars, if_pos hlength, parseIntBase16_hexChars hne, Option.map_some, Int.toNat_natCast,
    ofNat_hexNat]

end Uuid

end Midscale
