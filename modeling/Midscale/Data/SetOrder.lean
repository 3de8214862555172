import Mathlib.Data.List.Dedup

/-!
# Iteration over Python sets

The order in which Python iterates over a set is not specified.  A `SetOrder` fixes one: it
enumerates the set that is built from a list, every element once.  Results proved for every
`SetOrder` do not depend on the order.
-/

namespace Midscale

/-- An order of iteration over sets. -/
structure SetOrder (α : Type*) where
  /-- The elements of the set built from a list. -/
  elems : List α → List α
  nodup : ∀ l, (elems l).Nodup
  mem_elems : ∀ {l x}, x ∈ elems l ↔ x ∈ l

/-- The order of the last occurrences. -/
def SetOrder.dedup (α : Type*) [DecidableEq α] : SetOrder α where
  elems := List.dedup
  nodup := List.nodup_dedup
  mem_elems := List.mem_dedup

end Midscale
