import Mathlib.Data.List.Basic
import Mathlib.Data.Fin.Basic
import Mathlib.Data.Nat.Digits.Defs
import Midscale.Data.Text

/-!
# UUIDs

A UUID is its 32 hexadecimal digits.  `Uuid.str` is Python's `str(u)`, the lower-case digits in
groups of 8, 4, 4, 4 and 12 joined by hyphens; `Uuid.parse` is `uuid.UUID(text)`, which drops a
`urn:uuid:` prefix, braces and hyphens.  Programs use the text as a key, which is sound because
`Uuid.str` is injective.
-/

namespace Midscale

/-- A UUID. -/
structure Uuid where
  /-- The hexadecimal digits, the most significant first. -/
  digits : List (Fin 16)
  length_eq : digits.length = 32
  deriving DecidableEq, Repr

namespace Uuid

/-- The digits of `n`, padded to 32. -/
def ofNat (n : ℕ) : Uuid where
  digits := (List.range 32).map fun i => Fin.ofNat 16 (n / 16 ^ (31 - i))
  length_eq := by simp

/-- The integer that a UUID stands for, by which UUIDs are compared. -/
def toNat (u : Uuid) : ℕ := u.digits.foldl (fun n d => 16 * n + d) 0

/-- The lower-case hexadecimal digit of a number below 16. -/
def hexChar (d : Fin 16) : Char := Nat.digitChar d

/-- The characters of `digits[a:b]`. -/
def segment (u : Uuid) (a b : ℕ) : List Char := ((u.digits.take b).drop a).map hexChar

/-- The characters of `str(u)`. -/
def chars (u : Uuid) : List Char :=
  ['-'].intercalate
    [u.segment 0 8, u.segment 8 12, u.segment 12 16, u.segment 16 20, u.segment 20 32]

/-- `str(u)`. -/
def str (u : Uuid) : String := String.ofList u.chars

theorem hexChar_injective : Function.Injective hexChar := by
  have h : ∀ a b, hexChar a = hexChar b → a = b := by decide
  exact fun a b => h a b

theorem hexChar_ne_hyphen : ∀ d, hexChar d ≠ '-' := by decide

theorem filter_chars (u : Uuid) : u.chars.filter (· ≠ '-') = u.digits.map hexChar := by
  have hseg : ∀ a b, (u.segment a b).filter (· ≠ '-') = u.segment a b := fun a b =>
    List.filter_eq_self.2 fun c hc => by
      obtain ⟨d, -, rfl⟩ := List.mem_map.1 hc
      simp [hexChar_ne_hyphen d]
  have hjoin : ∀ a b c, a ≤ b → b ≤ c → u.segment a b ++ u.segment b c = u.segment a c :=
    fun a b c hab hbc => by
      have hb : u.digits.drop b = (u.digits.drop a).drop (b - a) := by
        rw [List.drop_drop, Nat.add_sub_cancel' hab]
      rw [segment, segment, segment, ← List.map_append, List.drop_take, List.drop_take,
        List.drop_take, hb, ← List.take_add, show b - a + (c - b) = c - a by omega]
  have hall : u.segment 0 32 = u.digits.map hexChar := by
    rw [segment, List.drop_zero, List.take_of_length_le u.length_eq.le]
  simp only [chars, List.intercalate, List.intersperse, List.flatten_cons, List.flatten_nil,
    List.filter_append, hseg, List.append_nil]
  rw [← hall, ← hjoin 0 20 32 (by decide) (by decide), ← hjoin 0 16 20 (by decide) (by decide),
    ← hjoin 0 12 16 (by decide) (by decide), ← hjoin 0 8 12 (by decide) (by decide)]
  simp [List.append_assoc]

theorem str_injective : Function.Injective str := fun u v h => by
  have hc : u.chars = v.chars := String.ofList_injective h
  have hd : u.digits.map hexChar = v.digits.map hexChar := by
    rw [← filter_chars, ← filter_chars, hc]
  cases u; cases v
  simpa using hexChar_injective.list_map hd

theorem str_ne_empty (u : Uuid) : u.str ≠ "" := fun h => by
  have hnil : u.chars = [] := String.ofList_injective h
  have hlength := congrArg List.length (filter_chars u)
  rw [hnil, List.length_map, u.length_eq] at hlength
  cases hlength

@[simp] theorem str_inj {u v : Uuid} : u.str = v.str ↔ u = v := str_injective.eq_iff

theorem str_eq_getD_iff {u : Uuid} {o : Option String} : u.str = o.getD "" ↔ o = some u.str := by
  cases o with
  | none => simp [str_ne_empty]
  | some s => simp [eq_comm]

/-- `uuid.UUID(text)`, `none` when it raises `ValueError`. -/
def parse (text : String) : Option Uuid :=
  let cs := removeAll "urn:".toList text.length text.toList
  let cs := removeAll "uuid:".toList text.length cs
  let cs := (stripChars (fun c => c.toNat = 0x7b ∨ c.toNat = 0x7d) cs).filter (· ≠ '-')
  if cs.length = 32 then
    -- there are no hyphens left, so the number has no minus sign
    (parseIntBase16 cs).map fun n => ofNat n.toNat
  else none

end Uuid

end Midscale
