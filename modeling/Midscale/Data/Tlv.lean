import Mathlib.Logic.Relation
import Midscale.Data.Struct

/-!
# Attributes by type, length and value

A body of attributes, each with a type and a length of two bytes and a value padded to a multiple
of `u`.  Whoever walks over them has the declared lengths only.

* `Attribute` : one attribute; its bytes are `Attribute.bytes`.
* `next` : where the attribute after the one at an offset starts.
* `next_bytes`, `walk_bytes` : walking with the right multiple goes from attribute to attribute.
-/

namespace Midscale

namespace Tlv

open Struct

/-- How many bytes bring `n` to a multiple of `u`. -/
def padding (u n : ℕ) : ℕ := (u - n % u) % u

/-- One attribute, padded to a multiple of `u`. -/
structure Attribute (u : ℕ) where
  type : ℕ
  value : Bytes
  pad : Bytes
  type_lt : type < 2 ^ 16
  length_lt : value.length < 2 ^ 16
  length_pad : pad.length = padding u value.length

variable {u : ℕ}

/-- The type and the length, as they stand in front of the value. -/
def Attribute.header (a : Attribute u) : Bytes := bigEndian 2 a.type ++ bigEndian 2 a.value.length

def Attribute.bytes (a : Attribute u) : Bytes := a.header ++ (a.value ++ a.pad)

/-- The bytes of several attributes. -/
def bytes (as : List (Attribute u)) : Bytes := as.flatMap Attribute.bytes

@[simp] theorem bytes_nil : bytes ([] : List (Attribute u)) = [] := rfl

@[simp] theorem bytes_cons (a : Attribute u) (as : List (Attribute u)) :
    bytes (a :: as) = a.bytes ++ bytes as := rfl

@[simp] theorem bytes_append (as bs : List (Attribute u)) :
    bytes (as ++ bs) = bytes as ++ bytes bs := List.flatMap_append

@[simp] theorem Attribute.length_header (a : Attribute u) : a.header.length = 4 := by
  rw [header, List.length_append, length_bigEndian, length_bigEndian]

@[simp] theorem Attribute.length_bytes (a : Attribute u) :
    a.bytes.length = 4 + a.value.length + padding u a.value.length := by
  rw [bytes, List.length_append, List.length_append, a.length_header, a.length_pad, Nat.add_assoc]

/-! ### What stands at an offset -/

def typeAt (data : Bytes) (offset : ℕ) : ℕ := ofBigEndian ((data.drop offset).take 2)

def lengthAt (data : Bytes) (offset : ℕ) : ℕ := ofBigEndian ((data.drop (offset + 2)).take 2)

/-- The offset after the attribute at `offset`, if values are padded to a multiple of `u`. -/
def next (u : ℕ) (data : Bytes) (offset : ℕ) : ℕ :=
  offset + 4 + lengthAt data offset + padding u (lengthAt data offset)

theorem lt_next (u : ℕ) (data : Bytes) (offset : ℕ) : offset < next u data offset := by
  rw [next]; omega

theorem typeAt_bytes (pre : Bytes) (a : Attribute u) (rest : Bytes) :
    typeAt (pre ++ (a.bytes ++ rest)) pre.length = a.type := by
  rw [typeAt, List.drop_left, Attribute.bytes, Attribute.header, List.append_assoc,
    List.append_assoc, List.take_left' (length_bigEndian _ _)]
  exact ofBigEndian_bigEndian a.type_lt

theorem lengthAt_bytes (pre : Bytes) (a : Attribute u) (rest : Bytes) :
    lengthAt (pre ++ (a.bytes ++ rest)) pre.length = a.value.length := by
  rw [lengthAt, ← List.drop_drop, List.drop_left, Attribute.bytes, Attribute.header,
    List.append_assoc, List.append_assoc, List.drop_left' (length_bigEndian _ _),
    List.append_assoc, List.take_left' (length_bigEndian _ _)]
  exact ofBigEndian_bigEndian a.length_lt

theorem drop_bytes (pre : Bytes) (a : Attribute u) (rest : Bytes) :
    (pre ++ (a.bytes ++ rest)).drop (pre.length + 4) = a.value ++ (a.pad ++ rest) := by
  rw [← List.drop_drop, List.drop_left, Attribute.bytes, List.append_assoc,
    List.drop_left' a.length_header, List.append_assoc]

/-- Padded to another multiple, an attribute is still left at its end where both give the same
number of bytes. -/
theorem next_bytes (pre : Bytes) (a : Attribute u) (rest : Bytes) {v : ℕ}
    (hpad : padding v a.value.length = padding u a.value.length) :
    next v (pre ++ (a.bytes ++ rest)) pre.length = (pre ++ a.bytes).length := by
  rw [next, lengthAt_bytes, hpad, List.length_append, a.length_bytes]
  omega

/-! ### Walks -/

/-- What relates the start of every attribute to its end relates the start of a body to its end. -/
theorem walk_bytes {step : ℕ → ℕ → Prop} (as : List (Attribute u)) {pre : Bytes}
    (hstep : ∀ before a after, as = before ++ a :: after →
      step (pre ++ bytes before).length (pre ++ bytes before ++ a.bytes).length) :
    Relation.ReflTransGen step pre.length (pre ++ bytes as).length := by
  induction as generalizing pre with
  | nil => rw [bytes_nil, List.append_nil]
  | cons a as ih =>
    have hfirst := hstep [] a as rfl
    simp only [bytes_nil, List.append_nil] at hfirst
    refine .head hfirst ?_
    have hrest := @ih (pre ++ a.bytes) fun before b after has => by
      have := hstep (a :: before) b after (by rw [has]; rfl)
      simpa only [bytes_cons, List.append_assoc] using this
    simpa only [bytes_cons, List.append_assoc] using hrest

end Tlv

end Midscale
