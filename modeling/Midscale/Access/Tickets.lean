import Midscale.Run.History
import Mathlib.Algebra.Order.Group.Unbundled.Int
import Mathlib.Order.MinMax

/-!
# Tickets that can be renewed

A desk admits subjects.  An admission issues a pass, which opens doors for a while, and a renewal,
which for a longer while buys another pass.  A renewal is not renewed itself, so nobody stays in for
longer than a renewal and one more pass after an admission.

* `desk_exact` : **the tickets of a run**, each with the admission, or with the admission and the
  purchase, that it comes from.
* `desk_bound` : a pass that opens a door was issued to a subject admitted not too long ago.
-/

namespace Midscale

/-- What a ticket is good for. -/
inductive TicketKind where
  | pass
  | renewal
  deriving DecidableEq, Repr

/-- A ticket, valid up to and including a point in time. -/
structure Ticket (S : Type*) where
  subject : S
  kind : TicketKind
  expires : ℤ
  deriving DecidableEq, Repr

/-- For how long tickets are valid. -/
structure Terms where
  pass : ℤ
  renewal : ℤ

/-- What happens at a desk. -/
inductive DeskEvent (S : Type*) where
  | enter (subject : S) (now : ℤ)
  | renew (ticket : Ticket S) (now : ℤ)
  deriving DecidableEq

namespace Terms

variable {S : Type*} (terms : Terms)

/-- The pass issued at a point in time. -/
def passAt (subject : S) (now : ℤ) : Ticket S := ⟨subject, .pass, now + terms.pass⟩

/-- The renewal issued at a point in time. -/
def renewalAt (subject : S) (now : ℤ) : Ticket S := ⟨subject, .renewal, now + terms.renewal⟩

/-- A renewal buys a pass while it is valid. -/
def Buys (issued : List (Ticket S)) (t : Ticket S) (now : ℤ) : Prop :=
  t ∈ issued ∧ t.kind = .renewal ∧ now ≤ t.expires

instance [DecidableEq S] (issued : List (Ticket S)) (t : Ticket S) (now : ℤ) :
    Decidable (Buys issued t now) := inferInstanceAs (Decidable (_ ∧ _ ∧ _))

/-- The tickets issued so far, after one more event. -/
def serve [DecidableEq S] (issued : List (Ticket S)) : DeskEvent S → List (Ticket S)
  | .enter s now => issued ++ [terms.passAt s now, terms.renewalAt s now]
  | .renew t now => if Buys issued t now then issued ++ [terms.passAt t.subject now] else issued

/-- Where a ticket comes from, in a run. -/
inductive Origin (es : List (DeskEvent S)) : Ticket S → Prop
  | pass {s : S} {t₀ : ℤ} (h : .enter s t₀ ∈ es) : Origin es (terms.passAt s t₀)
  | renewal {s : S} {t₀ : ℤ} (h : .enter s t₀ ∈ es) : Origin es (terms.renewalAt s t₀)
  | renewed {s : S} {t₀ t₁ : ℤ} (pre post : List (DeskEvent S))
      (hes : es = pre ++ .renew (terms.renewalAt s t₀) t₁ :: post) (h : .enter s t₀ ∈ pre)
      (hvalid : t₁ ≤ t₀ + terms.renewal) : Origin es (terms.passAt s t₁)

variable {terms}

theorem Origin.append {es : List (DeskEvent S)} {t : Ticket S} (h : terms.Origin es t)
    (es' : List (DeskEvent S)) : terms.Origin (es ++ es') t := by
  cases h with
  | pass h => exact .pass (List.mem_append_left _ h)
  | renewal h => exact .renewal (List.mem_append_left _ h)
  | renewed pre post hes h hvalid =>
    exact .renewed pre (post ++ es') (by rw [hes, List.append_assoc, List.cons_append]) h hvalid

theorem Origin.admitted {es : List (DeskEvent S)} {t : Ticket S} (h : terms.Origin es t)
    (hkind : t.kind = .renewal) : ∃ t₀, .enter t.subject t₀ ∈ es ∧ t = terms.renewalAt t.subject t₀ := by
  cases h with
  | pass => cases hkind
  | renewal h => exact ⟨_, h, rfl⟩
  | renewed => cases hkind

variable [DecidableEq S]

theorem mem_serve_enter {issued : List (Ticket S)} {s : S} {now : ℤ} {t : Ticket S} :
    t ∈ terms.serve issued (.enter s now) ↔
      t ∈ issued ∨ t = terms.passAt s now ∨ t = terms.renewalAt s now := by
  simp [serve]

theorem mem_serve_renew {issued : List (Ticket S)} {r : Ticket S} {now : ℤ} {t : Ticket S} :
    t ∈ terms.serve issued (.renew r now) ↔
      t ∈ issued ∨ Buys issued r now ∧ t = terms.passAt r.subject now := by
  simp only [serve]
  split_ifs with h <;> simp [h]

end Terms

variable {S : Type*} [DecidableEq S] {terms : Terms}

/-- **The tickets of a run are those that have an origin in it.** -/
theorem desk_exact (es : List (DeskEvent S)) (t : Ticket S) :
    t ∈ run terms.serve [] es ↔ terms.Origin es t := by
  induction es using List.reverseRecOn generalizing t with
  | nil =>
    refine ⟨fun h => absurd h List.not_mem_nil, fun h => ?_⟩
    cases h with
    | pass h => cases h
    | renewal h => cases h
    | renewed pre post hes => cases pre <;> cases hes
  | append_singleton es e ih =>
    rw [run_concat]
    cases e with
    | enter s now =>
      rw [Terms.mem_serve_enter, ih]
      constructor
      · rintro (h | rfl | rfl)
        · exact h.append _
        · exact .pass (List.mem_append_right _ List.mem_cons_self)
        · exact .renewal (List.mem_append_right _ List.mem_cons_self)
      · intro h
        cases h with
        | pass h =>
          rcases List.mem_append.1 h with h | h
          · exact .inl (.pass h)
          · cases List.mem_singleton.1 h
            exact .inr (.inl rfl)
        | renewal h =>
          rcases List.mem_append.1 h with h | h
          · exact .inl (.renewal h)
          · cases List.mem_singleton.1 h
            exact .inr (.inr rfl)
        | renewed pre post hes h hvalid =>
          -- the last event is no purchase
          rcases concat_eq_split.1 hes with ⟨-, -, he⟩ | ⟨mid, -, hes⟩
          · cases he
          · exact .inl (.renewed pre mid hes h hvalid)
    | renew r now =>
      rw [Terms.mem_serve_renew, ih]
      constructor
      · rintro (h | ⟨⟨hr, hkind, hnow⟩, rfl⟩)
        · exact h.append _
        · obtain ⟨t₀, hadmit, hr⟩ := ((ih r).1 hr).admitted hkind
          have hvalid : now ≤ t₀ + terms.renewal := by rw [hr] at hnow; exact hnow
          exact .renewed es [] (by rw [← hr]) hadmit hvalid
      · intro h
        cases h with
        | pass h =>
          rcases List.mem_append.1 h with h | h
          · exact .inl (.pass h)
          · cases List.mem_singleton.1 h
        | renewal h =>
          rcases List.mem_append.1 h with h | h
          · exact .inl (.renewal h)
          · cases List.mem_singleton.1 h
        | renewed pre post hes h hvalid =>
          rcases concat_eq_split.1 hes with ⟨-, rfl, he⟩ | ⟨mid, -, hes⟩
          · cases he
            exact .inr ⟨⟨(ih _).2 (.renewal h), rfl, hvalid⟩, rfl⟩
          · exact .inl (.renewed pre mid hes h hvalid)

/-- A subject whose pass is valid was admitted not longer ago than a renewal and a pass last. -/
theorem desk_bound {es : List (DeskEvent S)} {t : Ticket S} (ht : t ∈ run terms.serve [] es) {now : ℤ}
    (hkind : t.kind = .pass) (hnow : now ≤ t.expires) :
    ∃ t₀, .enter t.subject t₀ ∈ es ∧ now ≤ t₀ + max terms.renewal 0 + terms.pass := by
  have hle := le_max_left terms.renewal 0
  have hpos := le_max_right terms.renewal 0
  cases (desk_exact es t).1 ht with
  | pass h => exact ⟨_, h, by have : now ≤ _ + terms.pass := hnow; omega⟩
  | renewal => cases hkind
  | renewed pre post hes h hvalid =>
    refine ⟨_, hes ▸ List.mem_append_left _ h, ?_⟩
    have hpass : now ≤ _ + terms.pass := hnow
    omega

end Midscale
