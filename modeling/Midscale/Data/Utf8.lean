import Mathlib.Data.Char
import Midscale.Data.Struct

/-!
# UTF-8

The bytes of a text.  An ASCII character is one byte, and the bytes of all others are above ASCII,
so that a text can be searched for an ASCII character byte by byte.

* `fromUTF8?_encodeUtf8` : the text can be read back.
* `mem_encodeUtf8_iff` : **an ASCII byte stands for its character.**
* `encodeUtf8_of_ascii` : an ASCII text is encoded character by character.
-/

namespace Midscale

/-- `text.encode()`. -/
def encodeUtf8 (s : String) : Bytes := s.toList.flatMap String.utf8EncodeChar

theorem fromUTF8?_encodeUtf8 (s : String) :
    String.fromUTF8? ⟨(encodeUtf8 s).toArray⟩ = some s := by
  have hbytes : (⟨(encodeUtf8 s).toArray⟩ : ByteArray) = s.toByteArray := by
    rw [← String.utf8Encode_toList, List.utf8Encode]
    exact ByteArray.ext List.data_toByteArray.symm
  rw [hbytes, String.fromUTF8?, dif_pos s.isValidUTF8]
  rfl

theorem utf8EncodeChar_of_ascii {c : Char} (h : c.toNat < 128) :
    String.utf8EncodeChar c = [UInt8.ofNat c.toNat] := by
  have hle : c.val.toNat ≤ 0x7f := Nat.le_of_lt_succ h
  rw [String.utf8EncodeChar]
  exact if_pos hle

theorem le_of_mem_utf8EncodeChar {c : Char} (h : 128 ≤ c.toNat) {b : UInt8}
    (hb : b ∈ String.utf8EncodeChar c) : 128 ≤ b.toNat := by
  have hnot : ¬ c.val.toNat ≤ 0x7f := Nat.not_le.2 h
  -- each byte is a marker of at least 128 and less than the marker leaves room for
  have hmarked : ∀ n m, 128 ≤ m → n + m < 256 → b = UInt8.ofNat (n + m) → 128 ≤ b.toNat := by
    rintro n m hm hlt rfl
    rw [UInt8.toNat_ofNat', Nat.mod_eq_of_lt hlt]
    omega
  rw [String.utf8EncodeChar, if_neg hnot] at hb
  split_ifs at hb <;> simp only [List.mem_cons, List.not_mem_nil, or_false] at hb
  · rcases hb with hb | hb <;> exact hmarked _ _ (by omega) (by omega) hb
  · rcases hb with hb | hb | hb <;> exact hmarked _ _ (by omega) (by omega) hb
  · rcases hb with hb | hb | hb | hb <;> exact hmarked _ _ (by omega) (by omega) hb

/-- An ASCII byte stands for its character. -/
theorem mem_encodeUtf8_iff {s : String} {a : Char} (ha : a.toNat < 128) :
    UInt8.ofNat a.toNat ∈ encodeUtf8 s ↔ a ∈ s.toList := by
  have hbyte : ∀ c : Char, c.toNat < 128 → (UInt8.ofNat c.toNat).toNat = c.toNat := fun c hc => by
    rw [UInt8.toNat_ofNat', Nat.mod_eq_of_lt (by omega)]
  rw [encodeUtf8, List.mem_flatMap]
  constructor
  · rintro ⟨c, hc, hb⟩
    by_cases hascii : c.toNat < 128
    · rw [utf8EncodeChar_of_ascii hascii, List.mem_singleton] at hb
      have heq : a.toNat = c.toNat := by rw [← hbyte a ha, hb, hbyte c hascii]
      rwa [Char.toNat_inj.1 heq]
    · have hle := le_of_mem_utf8EncodeChar (Nat.le_of_not_lt hascii) hb
      rw [hbyte a ha] at hle
      omega
  · intro hmem
    refine ⟨a, hmem, ?_⟩
    rw [utf8EncodeChar_of_ascii ha]
    exact List.mem_singleton_self _

/-- An ASCII text is encoded character by character. -/
theorem encodeUtf8_of_ascii {s : String} (h : ∀ c ∈ s.toList, c.toNat < 128) :
    encodeUtf8 s = s.toList.map fun c => UInt8.ofNat c.toNat := by
  rw [encodeUtf8]
  generalize s.toList = cs at h
  induction cs with
  | nil => rfl
  | cons c cs ih =>
    rw [List.flatMap_cons, utf8EncodeChar_of_ascii (h c List.mem_cons_self),
      ih fun d hd => h d (List.mem_cons_of_mem c hd)]
    rfl

end Midscale
