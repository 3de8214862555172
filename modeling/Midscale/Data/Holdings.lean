import Mathlib.Tactic.ByContra

/-!
# Who holds what where

Owners hold resources in places.  Nothing is held by two owners in one place as long as nobody gains
what another one holds.

* `Exclusive` : no resource of a place has two owners.
* `Gains.exclusive_iff` : **a step keeps that exactly if nobody gains what another one holds.**
-/

namespace Midscale

/-- Owner `a` holds resource `x` in place `i`. -/
abbrev Holdings (I A X : Type*) := I → A → X → Prop

namespace Holdings

variable {I A X : Type*}

/-- No resource of a place has two owners. -/
def Exclusive (H : Holdings I A X) : Prop := ∀ i a b x, H i a x → H i b x → a = b

/-- Nobody gains what another one holds. -/
def Apart (H G : Holdings I A X) : Prop := ∀ i a b x, G i a x → H i b x → b = a

/-- A step from the holdings `H` to `H'`, in which `G` is gained. -/
structure Gains (H G H' : Holdings I A X) : Prop where
  only : ∀ i a x, H' i a x → H i a x ∨ G i a x
  gained : ∀ i a x, G i a x → H' i a x
  exclusive : H.Exclusive → G.Exclusive
  /-- The others keep what somebody gains. -/
  kept : H.Exclusive → ∀ i a b x, G i a x → H i b x → b ≠ a → H' i b x

variable {H G H' : Holdings I A X}

/-- **A step keeps the holdings exclusive** exactly if nobody gains what another one holds. -/
theorem Gains.exclusive_iff (h : Gains H G H') (hH : H.Exclusive) : H'.Exclusive ↔ H.Apart G := by
  constructor
  · intro hH' i a b x hG hb
    by_contra hne
    exact hne (hH' i b a x (h.kept hH i a b x hG hb hne) (h.gained i a x hG))
  · intro hapart i a b x ha hb
    rcases h.only i a x ha with ha | ha <;> rcases h.only i b x hb with hb | hb
    · exact hH i a b x ha hb
    · exact hapart i b a x hb ha
    · exact (hapart i a b x ha hb).symm
    · exact h.exclusive hH i a b x ha hb

theorem Gains.of_none (hsame : ∀ i a x, H' i a x → H i a x) (hnone : ∀ i a x, ¬ G i a x) :
    Gains H G H' where
  only := fun i a x h => .inl (hsame i a x h)
  gained := fun i a x h => absurd h (hnone i a x)
  exclusive := fun _ i a _ x h => absurd h (hnone i a x)
  kept := fun _ i a _ x h => absurd h (hnone i a x)

end Holdings

end Midscale
