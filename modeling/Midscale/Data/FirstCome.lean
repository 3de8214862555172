import Mathlib.Data.List.Nodup
import Midscale.Run.Basic

/-!
# First come, first served

A ledger of claims to keys, where a claim counts if nobody has claimed the key before; and systems
that keep such a ledger among other things.

* `holder_run` : who holds a key is who claimed it first.
* `run_keys_nodup` : no key is entered twice.
* `run_of_trace` : **a system whose every step enters at most one claim** ends with the ledger of the
  claims along its run.
-/

namespace Midscale

namespace FirstCome

section Ledger

variable {K V : Type*} [DecidableEq K]

/-- A claim is entered if nobody has claimed its key before. -/
def enter (ledger : List (K × V)) (claim : K × V) : List (K × V) :=
  if claim.1 ∈ ledger.map Prod.fst then ledger else ledger ++ [claim]

/-- Who holds a key. -/
def holder (ledger : List (K × V)) (k : K) : Option V :=
  (ledger.find? fun claim => claim.1 = k).map Prod.snd

theorem holder_eq_none_iff {ledger : List (K × V)} {k : K} :
    holder ledger k = none ↔ k ∉ ledger.map Prod.fst := by
  rw [holder, Option.map_eq_none_iff, List.find?_eq_none, List.mem_map]
  constructor
  · rintro h ⟨claim, hclaim, hk⟩
    exact h claim hclaim (decide_eq_true hk)
  · exact fun h claim hclaim hk => h ⟨claim, hclaim, of_decide_eq_true hk⟩

theorem holder_append (ledger ledger' : List (K × V)) (k : K) :
    holder (ledger ++ ledger') k = (holder ledger k).or (holder ledger' k) := by
  rw [holder, List.find?_append, Option.map_or, holder, holder]

theorem holder_enter (ledger : List (K × V)) (claim : K × V) (k : K) :
    holder (enter ledger claim) k = (holder ledger k).or (holder [claim] k) := by
  rw [enter]
  split_ifs with hheld
  · by_cases hk : k = claim.1
    · obtain ⟨v, hv⟩ := Option.ne_none_iff_exists'.1 (mt holder_eq_none_iff.1 (not_not_intro hheld))
      rw [hk, hv, Option.some_or]
    · have hother : holder [claim] k = none := holder_eq_none_iff.2 (by simpa using hk)
      rw [hother, Option.or_none]
  · exact holder_append ledger [claim] k

/-- **Who holds a key is who claimed it first.** -/
theorem holder_run (ledger claims : List (K × V)) (k : K) :
    holder (run enter ledger claims) k = (holder ledger k).or (holder claims k) := by
  induction claims generalizing ledger with
  | nil => exact (Option.or_none).symm
  | cons claim claims ih =>
    have happend : holder (claim :: claims) k = (holder [claim] k).or (holder claims k) :=
      holder_append [claim] claims k
    rw [run_cons, ih, holder_enter, happend, Option.or_assoc]

theorem enter_keys_nodup {ledger : List (K × V)} (h : (ledger.map Prod.fst).Nodup) (claim : K × V) :
    ((enter ledger claim).map Prod.fst).Nodup := by
  rw [enter]
  split_ifs with hheld
  · exact h
  · rw [List.map_append]
    exact List.Nodup.append h (List.nodup_singleton _) (List.disjoint_singleton.2 hheld)

/-- No key is entered twice. -/
theorem run_keys_nodup {ledger : List (K × V)} (h : (ledger.map Prod.fst).Nodup)
    (claims : List (K × V)) : ((run enter ledger claims).map Prod.fst).Nodup :=
  run_invariant (P := fun ledger => (ledger.map Prod.fst).Nodup) enter
    (fun _ claim h => enter_keys_nodup h claim) h claims

end Ledger

section Trace

variable {σ ε β : Type*} (step : σ → ε → σ) (out : σ → ε → Option β)

/-- What the events of a run amount to, each in the state it finds. -/
def trace : σ → List ε → List β
  | _, [] => []
  | s, e :: es => (out s e).toList ++ trace (step s e) es

/-- **A system that is run next to another one**: if a step does to what `view` sees of the state
what the event amounts to, so does a run. -/
theorem run_of_trace {τ : Type*} (view : σ → τ) {enter : τ → β → τ}
    (hstep : ∀ s e, view (step s e) = (out s e).elim (view s) (enter (view s))) (s : σ)
    (es : List ε) : view (run step s es) = run enter (view s) (trace step out s es) := by
  induction es generalizing s with
  | nil => rfl
  | cons e es ih =>
    rw [run_cons, ih, hstep, trace]
    cases out s e <;> rfl

end Trace

end FirstCome

end Midscale
