import Mathlib.Data.List.Induction
import Mathlib.Data.Nat.Bitwise
import Mathlib.Tactic.NormNum
import Mathlib.Tactic.Ring

/-!
# Bytes and packed fields

Python `bytes` and the part of its `struct` module that the wire formats use: unsigned fields of
a fixed width, in network byte order.  A format is the list of the widths of its fields, so
`"!HHI"` is `[2, 2, 4]`.

* `bigEndian`, `ofBigEndian` : one field and back.
* `pack`, `unpackFrom` : several fields; both are `none` where Python raises `struct.error`.
* `unpackFrom_pack` : unpacking at the place where fields were packed gives the fields.
* `bigEndian_xor` : masking a field is masking its bytes.
-/

namespace Midscale

/-- Python `bytes`. -/
abbrev Bytes := List UInt8

/-- `b[i:j]`. -/
def Bytes.slice (b : Bytes) (i j : ℕ) : Bytes := (b.take j).drop i

namespace Struct

/-- The `w` bytes of `n`, the most significant one first; what does not fit is cut off. -/
def bigEndian : ℕ → ℕ → Bytes
  | 0, _ => []
  | w + 1, n => bigEndian w (n / 256) ++ [UInt8.ofNat n]

/-- The number that some bytes stand for, the most significant one first. -/
def ofBigEndian (b : Bytes) : ℕ := b.foldl (fun n x => n * 256 + x.toNat) 0

/-- `struct.pack("!…", *fields)`, each field with its width. -/
def pack (fields : List (ℕ × ℕ)) : Option Bytes :=
  if ∀ f ∈ fields, f.2 < 256 ^ f.1 then some (fields.flatMap fun f => bigEndian f.1 f.2) else none

/-- The fields of the given widths at the front of `b`. -/
def fieldsOf : List ℕ → Bytes → List ℕ
  | [], _ => []
  | w :: ws, b => ofBigEndian (b.take w) :: fieldsOf ws (b.drop w)

/-- `struct.unpack_from("!…", data, offset)`. -/
def unpackFrom (widths : List ℕ) (data : Bytes) (offset : ℕ) : Option (List ℕ) :=
  if offset + widths.sum ≤ data.length then some (fieldsOf widths (data.drop offset)) else none

/-! ### One field -/

@[simp] theorem length_bigEndian (w n : ℕ) : (bigEndian w n).length = w := by
  induction w generalizing n with
  | zero => rfl
  | succ w ih => simp only [bigEndian, List.length_append, ih, List.length_singleton]

theorem ofBigEndian_concat (b : Bytes) (x : UInt8) :
    ofBigEndian (b ++ [x]) = ofBigEndian b * 256 + x.toNat := by
  simp only [ofBigEndian, List.foldl_append, List.foldl_cons, List.foldl_nil]

theorem ofBigEndian_bigEndian {w n : ℕ} (h : n < 256 ^ w) : ofBigEndian (bigEndian w n) = n := by
  induction w generalizing n with
  | zero =>
    have : n = 0 := by simpa using h
    rw [this]
    rfl
  | succ w ih =>
    have hdiv : n / 256 < 256 ^ w := by
      rw [Nat.div_lt_iff_lt_mul (by norm_num)]
      rwa [pow_succ] at h
    rw [bigEndian, ofBigEndian_concat, ih hdiv, UInt8.toNat_ofNat']
    omega

theorem bigEndian_ofBigEndian (b : Bytes) : bigEndian b.length (ofBigEndian b) = b := by
  induction b using List.reverseRecOn with
  | nil => rfl
  | append_singleton b x ih =>
    have hx : x.toNat < 256 := x.toNat_lt
    have hdiv : (ofBigEndian b * 256 + x.toNat) / 256 = ofBigEndian b := by omega
    have hmod : UInt8.ofNat (ofBigEndian b * 256 + x.toNat) = x :=
      UInt8.toNat.inj (by rw [UInt8.toNat_ofNat']; omega)
    rw [List.length_append, List.length_singleton, bigEndian, ofBigEndian_concat, hdiv, hmod, ih]

theorem ofBigEndian_append (b c : Bytes) :
    ofBigEndian (b ++ c) = ofBigEndian b * 256 ^ c.length + ofBigEndian c := by
  induction c using List.reverseRecOn with
  | nil => simp [ofBigEndian]
  | append_singleton c x ih =>
    rw [← List.append_assoc, ofBigEndian_concat, ofBigEndian_concat, ih, List.length_append,
      List.length_singleton]
    ring

theorem ofBigEndian_lt (b : Bytes) : ofBigEndian b < 256 ^ b.length := by
  induction b using List.reverseRecOn with
  | nil => simp [ofBigEndian]
  | append_singleton b x ih =>
    have hx : x.toNat < 256 := x.toNat_lt
    rw [ofBigEndian_concat, List.length_append, List.length_singleton, pow_succ]
    omega

/-- Masking a number is masking its bytes. -/
theorem bigEndian_xor (w m n : ℕ) :
    bigEndian w (m ^^^ n) = List.zipWith (· ^^^ ·) (bigEndian w m) (bigEndian w n) := by
  induction w generalizing m n with
  | zero => rfl
  | succ w ih =>
    have hdiv : (m ^^^ n) / 256 = m / 256 ^^^ n / 256 := @Nat.xor_div_two_pow m n 8
    rw [bigEndian, bigEndian, bigEndian, hdiv, ih, UInt8.ofNat_xor,
      List.zipWith_append (by rw [length_bigEndian, length_bigEndian])]
    rfl

/-! ### Several fields -/

theorem pack_of_lt {fields : List (ℕ × ℕ)} (h : ∀ f ∈ fields, f.2 < 256 ^ f.1) :
    pack fields = some (fields.flatMap fun f => bigEndian f.1 f.2) := if_pos h

theorem pack_eq_some {fields : List (ℕ × ℕ)} {b : Bytes} (h : pack fields = some b) :
    (∀ f ∈ fields, f.2 < 256 ^ f.1) ∧ b = fields.flatMap fun f => bigEndian f.1 f.2 := by
  rw [pack] at h
  split at h
  · rename_i hlt
    exact ⟨hlt, (Option.some.inj h).symm⟩
  · cases h

theorem length_of_pack {fields : List (ℕ × ℕ)} {b : Bytes} (h : pack fields = some b) :
    b.length = (fields.map Prod.fst).sum := by
  obtain ⟨-, rfl⟩ := pack_eq_some h
  rw [List.length_flatMap]
  congr 1
  exact List.map_congr_left fun f _ => length_bigEndian f.1 f.2

theorem fieldsOf_append {fields : List (ℕ × ℕ)} (h : ∀ f ∈ fields, f.2 < 256 ^ f.1) (c : Bytes) :
    fieldsOf (fields.map Prod.fst) ((fields.flatMap fun f => bigEndian f.1 f.2) ++ c) =
      fields.map Prod.snd := by
  induction fields with
  | nil => rfl
  | cons f fs ih =>
    have hf : f.2 < 256 ^ f.1 := h f List.mem_cons_self
    have hfs := ih fun g hg => h g (List.mem_cons_of_mem _ hg)
    have htake : (bigEndian f.1 f.2 ++ ((fs.flatMap fun f => bigEndian f.1 f.2) ++ c)).take f.1 =
        bigEndian f.1 f.2 := List.take_left' (length_bigEndian _ _)
    have hdrop : (bigEndian f.1 f.2 ++ ((fs.flatMap fun f => bigEndian f.1 f.2) ++ c)).drop f.1 =
        (fs.flatMap fun f => bigEndian f.1 f.2) ++ c := List.drop_left' (length_bigEndian _ _)
    simp only [List.map_cons, List.flatMap_cons, List.append_assoc, fieldsOf, htake, hdrop, hfs,
      ofBigEndian_bigEndian hf]

/-- What has been packed is unpacked at its place, whatever stands before and after it. -/
theorem unpackFrom_pack {fields : List (ℕ × ℕ)} {b : Bytes} (h : pack fields = some b)
    (a c : Bytes) : unpackFrom (fields.map Prod.fst) (a ++ (b ++ c)) a.length =
      some (fields.map Prod.snd) := by
  have hlen := length_of_pack h
  obtain ⟨hlt, rfl⟩ := pack_eq_some h
  have hle : a.length + (fields.map Prod.fst).sum ≤
      (a ++ ((fields.flatMap fun f => bigEndian f.1 f.2) ++ c)).length := by
    simp only [List.length_append, hlen]; omega
  rw [unpackFrom, if_pos hle, List.drop_left, fieldsOf_append hlt]

theorem fieldsOf_take {ws : List ℕ} {n : ℕ} (h : ws.sum ≤ n) (b : Bytes) :
    fieldsOf ws (b.take n) = fieldsOf ws b := by
  induction ws generalizing b n with
  | nil => rfl
  | cons w ws ih =>
    rw [List.sum_cons] at h
    rw [fieldsOf, fieldsOf, List.take_take, Nat.min_eq_left (by omega), List.drop_take,
      ih (by omega)]

theorem flatMap_fieldsOf {ws : List ℕ} {b : Bytes} (h : b.length = ws.sum) :
    ((ws.zip (fieldsOf ws b)).flatMap fun f => bigEndian f.1 f.2) = b := by
  induction ws generalizing b with
  | nil => exact (List.length_eq_zero_iff.1 h).symm
  | cons w ws ih =>
    rw [List.sum_cons] at h
    have htake : (b.take w).length = w := by rw [List.length_take]; omega
    have hfirst : bigEndian w (ofBigEndian (b.take w)) = b.take w := by
      have := bigEndian_ofBigEndian (b.take w)
      rwa [htake] at this
    have hrest := @ih (b.drop w) (by rw [List.length_drop]; omega)
    rw [fieldsOf, List.zip_cons_cons, List.flatMap_cons, hfirst, hrest, List.take_append_drop]

theorem fieldsOf_injective {ws : List ℕ} {b c : Bytes} (hb : b.length = ws.sum)
    (hc : c.length = ws.sum) (h : fieldsOf ws b = fieldsOf ws c) : b = c := by
  rw [← flatMap_fieldsOf hb, h, flatMap_fieldsOf hc]

theorem fieldsOf_lt {ws : List ℕ} {w : ℕ} (h : ∀ v ∈ ws, v = w) (b : Bytes) :
    ∀ x ∈ fieldsOf ws b, x < 256 ^ w := by
  induction ws generalizing b with
  | nil => simp [fieldsOf]
  | cons v ws ih =>
    intro x hx
    rw [fieldsOf, List.mem_cons] at hx
    rcases hx with rfl | hx
    · have hlen : (b.take v).length ≤ w := by
        rw [List.length_take, h v List.mem_cons_self]
        exact Nat.min_le_left _ _
      exact lt_of_lt_of_le (ofBigEndian_lt _) (Nat.pow_le_pow_right (by norm_num) hlen)
    · exact ih (fun u hu => h u (List.mem_cons_of_mem _ hu)) _ x hx

/-- Fields of one width, all masked with the same number, are their bytes masked with its bytes. -/
theorem pack_map_xor {n w k : ℕ} (hk : k < 256 ^ w) {b : Bytes} (hb : b.length = n * w) :
    pack ((fieldsOf (List.replicate n w) b).map fun x => (w, x ^^^ k)) =
      some (List.zipWith (· ^^^ ·) b (List.replicate n (bigEndian w k)).flatten) := by
  have hlt : ∀ f ∈ (fieldsOf (List.replicate n w) b).map fun x => (w, x ^^^ k),
      f.2 < 256 ^ f.1 := by
    intro f hf
    obtain ⟨x, hx, rfl⟩ := List.mem_map.1 hf
    have hpow : (256 : ℕ) ^ w = 2 ^ (8 * w) := by rw [pow_mul]; norm_num
    have hxlt := fieldsOf_lt (fun v hv => List.eq_of_mem_replicate hv) b x hx
    rw [hpow] at hk hxlt ⊢
    exact Nat.xor_lt_two_pow hxlt hk
  rw [pack_of_lt hlt, List.flatMap_map]
  congr 1
  clear hlt
  induction n generalizing b with
  | zero =>
    have hnil : b = [] := List.length_eq_zero_iff.1 (by simpa using hb)
    rw [hnil]
    rfl
  | succ n ih =>
    rw [Nat.succ_mul] at hb
    have htake : (b.take w).length = w := by rw [List.length_take]; omega
    have hfirst : bigEndian w (ofBigEndian (b.take w)) = b.take w := by
      have := bigEndian_ofBigEndian (b.take w)
      rwa [htake] at this
    have hrest := @ih (b.drop w) (by rw [List.length_drop]; omega)
    have hzip := @List.zipWith_append _ _ _ (· ^^^ ·) (b.take w) (b.drop w) (bigEndian w k)
      (List.replicate n (bigEndian w k)).flatten (by rw [htake, length_bigEndian])
    rw [List.take_append_drop] at hzip
    rw [List.replicate_succ, List.replicate_succ, fieldsOf, List.flatMap_cons, List.flatten_cons,
      hzip, hrest, bigEndian_xor, hfirst]

theorem zipWith_take_right (f : UInt8 → UInt8 → UInt8) (b m : Bytes) :
    List.zipWith f b m = List.zipWith f b (m.take b.length) := by
  induction b generalizing m with
  | nil => rfl
  | cons x b ih =>
    cases m with
    | nil => rfl
    | cons y m => rw [List.zipWith_cons_cons, List.length_cons, List.take_succ_cons,
        List.zipWith_cons_cons, ih m]

theorem zipWith_xor_xor {b m : Bytes} (h : b.length ≤ m.length) :
    List.zipWith (· ^^^ ·) (List.zipWith (· ^^^ ·) b m) m = b := by
  induction b generalizing m with
  | nil => rfl
  | cons x b ih =>
    cases m with
    | nil => simp at h
    | cons y m =>
      rw [List.zipWith_cons_cons, List.zipWith_cons_cons, ih (by simpa using h), UInt8.xor_assoc,
        UInt8.xor_self, UInt8.xor_zero]

theorem zipWith_xor_inj {b m n : Bytes} (hm : b.length = m.length) (hn : b.length = n.length) :
    List.zipWith (· ^^^ ·) (List.zipWith (· ^^^ ·) b m) n = b ↔ m = n := by
  constructor
  · intro h
    induction b generalizing m n with
    | nil =>
      rw [List.length_eq_zero_iff.1 hm.symm, List.length_eq_zero_iff.1 hn.symm]
    | cons x b ih =>
      obtain ⟨y, m, rfl⟩ := List.exists_cons_of_length_eq_add_one hm.symm
      obtain ⟨z, n, rfl⟩ := List.exists_cons_of_length_eq_add_one hn.symm
      simp only [List.zipWith_cons_cons, List.cons.injEq] at h
      have hyz : x ^^^ (y ^^^ z) = x ^^^ 0 := by rw [← UInt8.xor_assoc, h.1, UInt8.xor_zero]
      rw [UInt8.xor_eq_zero_iff.1 ((UInt8.xor_right_inj x).1 hyz),
        ih (by simpa using hm) (by simpa using hn) h.2]
  · rintro rfl
    exact zipWith_xor_xor hm.le

end Struct

end Midscale
