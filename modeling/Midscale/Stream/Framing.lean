import Mathlib.Data.List.Basic

/-!
# Incremental framing of a stream

A stream arrives in chunks cut at arbitrary places.  A receiver keeps the elements it could not
use yet in a buffer, appends every chunk to it, and takes complete frames off its front for as
long as there is one.

* `Extractor` is one turn of that inner loop: `next buf` is the first complete frame of `buf`
  and what follows it.  It carries the two facts the loop rests on: a frame shortens the buffer
  (`shrinks`), and what arrives later does not change a frame that is complete (`stable`).
* `Extractor.drain` is the inner loop, total because of `shrinks`.
* `Extractor.receive` is the outer loop over the chunks.
* `Extractor.receive_eq_drain` : **the result does not depend on the cuts.**
* `Extractor.drain_encoded` : a concatenation of encoded frames is decoded without loss.
-/

namespace Midscale

/-- One turn of a deframing loop on elements `α` yielding frames `φ`. -/
structure Extractor (α φ : Type*) where
  /-- The first complete frame of the buffer and the rest of the buffer, if there is one. -/
  next : List α → Option (φ × List α)
  /-- Taking a frame off shortens the buffer. -/
  shrinks : ∀ {b f r}, next b = some (f, r) → r.length < b.length
  /-- Elements that arrive later do not change the first complete frame. -/
  stable : ∀ {b f r} (c), next b = some (f, r) → next (b ++ c) = some (f, r ++ c)

namespace Extractor

variable {α φ : Type*} (X : Extractor α φ)

/-- Take frames off the buffer while there is a complete one. -/
def drain (b : List α) : List φ × List α :=
  match _h : X.next b with
  | none => ([], b)
  | some (f, r) => (f :: (drain r).1, (drain r).2)
termination_by b.length
decreasing_by all_goals exact X.shrinks _h

/-- The outer loop: append each chunk to the buffer and drain it. -/
def receive : List α → List (List α) → List φ × List α
  | b, [] => ([], b)
  | b, c :: cs =>
    let d := X.drain (b ++ c)
    (d.1 ++ (receive d.2 cs).1, (receive d.2 cs).2)

variable {X}

theorem drain_of_none {b : List α} (h : X.next b = none) : X.drain b = ([], b) := by
  rw [drain]
  split
  · rfl
  · rename_i heq; rw [h] at heq; cases heq

theorem drain_of_some {b r : List α} {f : φ} (h : X.next b = some (f, r)) :
    X.drain b = (f :: (X.drain r).1, (X.drain r).2) := by
  rw [drain]
  split
  · rename_i heq; rw [h] at heq; cases heq
  · rename_i heq
    rw [h, Option.some.injEq, Prod.mk.injEq] at heq
    obtain ⟨rfl, rfl⟩ := heq
    rfl

theorem next_drain (b : List α) : X.next (X.drain b).2 = none := by
  induction hn : b.length using Nat.strongRecOn generalizing b with
  | _ n ih =>
    cases h : X.next b with
    | none => rw [drain_of_none h]; exact h
    | some p =>
      obtain ⟨f, r⟩ := p
      rw [drain_of_some h]
      exact ih r.length (hn ▸ X.shrinks h) r rfl

/-- **Draining in two parts**: what `b` leaves in the buffer is drained together with `c`. -/
theorem drain_append (b c : List α) :
    X.drain (b ++ c) =
      ((X.drain b).1 ++ (X.drain ((X.drain b).2 ++ c)).1, (X.drain ((X.drain b).2 ++ c)).2) := by
  induction hn : b.length using Nat.strongRecOn generalizing b with
  | _ n ih =>
    cases h : X.next b with
    | none => simp only [drain_of_none h, List.nil_append]
    | some p =>
      obtain ⟨f, r⟩ := p
      rw [drain_of_some h, drain_of_some (X.stable c h), ih r.length (hn ▸ X.shrinks h) r rfl]
      simp only [List.cons_append]

theorem receive_eq_drain_append {b : List α} (hb : X.next b = none) (cs : List (List α)) :
    X.receive b cs = X.drain (b ++ cs.flatten) := by
  induction cs generalizing b with
  | nil => simp only [receive, List.flatten_nil, List.append_nil, drain_of_none hb]
  | cons c cs ih =>
    rw [receive, List.flatten_cons, ← List.append_assoc, drain_append (b ++ c),
      ih (next_drain (b ++ c))]

/-- **Independence of the cuts.**  Receiving a stream in chunks yields the frames and the
leftover buffer of draining the whole stream at once. -/
theorem receive_eq_drain (h : X.next [] = none) (cs : List (List α)) :
    X.receive [] cs = X.drain cs.flatten := by
  rw [receive_eq_drain_append h, List.nil_append]

/-- **No loss.**  If `next` takes every frame of a list off and leaves what follows it, the frames
in a row are drained to their messages, with an empty buffer. -/
theorem drain_encoded {μ : Type*} {dec : μ → φ} (h : X.next [] = none) {ms : List μ}
    {fs : List (List α)} (hm : List.Forall₂ (fun m f => ∀ c, X.next (f ++ c) = some (dec m, c)) ms fs) :
    X.drain fs.flatten = (ms.map dec, []) := by
  induction hm with
  | nil => exact drain_of_none h
  | cons hf _ ih => rw [List.flatten_cons, drain_of_some (hf _), ih, List.map_cons]

end Extractor

end Midscale
