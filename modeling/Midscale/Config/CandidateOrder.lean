import Midscale.Config.V2
import Midscale.Data.Sort
import Mathlib.Data.Int.ConditionallyCompleteOrder
import Mathlib.Data.Prod.Lex
import Mathlib.Order.WithBot

/-!
# The ranking of endpoint candidates

`select_best_endpoint` promises the highest score first, then reachable endpoints, then the smaller
latency, then the smaller priority.  The sort key writes 9999 for a latency that is missing or 0, so
0 counts as the slowest of the usual latencies, and a missing one comes before those above 9999.

* `DeviceEndpoint.RanksBy` : the order, for a reading of the latency.
* `DeviceEndpoint.Blurred` : of two endpoints one is faster, and the key does not say so.
* `candidate_ranking_iff` : the ranking is the promised one exactly if the pairs of the list that
  are blurred are put right by their priorities and places.
-/

namespace Midscale

namespace DeviceEndpoint

/-! ### Orders by score, reachability, latency and priority -/

section Ranks

variable {κ : Type*} [LinearOrder κ] (latency : DeviceEndpoint → κ)

/-- `a` comes no later than `b`. -/
def RanksBy (a b : DeviceEndpoint) : Prop :=
  b.score < a.score ∨ a.score = b.score ∧
    (b.reachable < a.reachable ∨ a.reachable = b.reachable ∧
      (latency a < latency b ∨ latency a = latency b ∧ a.priority ≤ b.priority))

instance : DecidableRel (RanksBy latency) := fun a b =>
  inferInstanceAs (Decidable (b.score < a.score ∨ a.score = b.score ∧
    (b.reachable < a.reachable ∨ a.reachable = b.reachable ∧
      (latency a < latency b ∨ latency a = latency b ∧ a.priority ≤ b.priority))))

/-- What the order compares. -/
def rankKey (e : DeviceEndpoint) : ℤᵒᵈ ×ₗ Boolᵒᵈ ×ₗ κ ×ₗ ℤ :=
  toLex (.toDual e.score, toLex (.toDual e.reachable, toLex (latency e, e.priority)))

theorem ranksBy_iff {a b : DeviceEndpoint} :
    RanksBy latency a b ↔ rankKey latency a ≤ rankKey latency b := by
  simp [RanksBy, rankKey, Prod.Lex.toLex_le_toLex]

instance : Std.Total (RanksBy latency) where
  total a b := by
    rw [ranksBy_iff, ranksBy_iff]
    exact le_total _ _

instance : IsTrans DeviceEndpoint (RanksBy latency) where
  trans a b c hab hbc := by
    rw [ranksBy_iff] at hab hbc ⊢
    exact hab.trans hbc

end Ranks

/-- The latency as it is meant: an unknown one comes after all that were measured. -/
def measuredLatency (e : DeviceEndpoint) : WithTop ℤ := e.latencyMs.elim ⊤ fun l => (l : WithTop ℤ)

/-- The documented order. -/
abbrev Precedes : DeviceEndpoint → DeviceEndpoint → Prop := RanksBy measuredLatency

/-- The latency as the sort key has it. -/
def keyLatency (e : DeviceEndpoint) : ℤ := (orPort e.latencyMs (some 9999)).getD 0

theorem reachable_key_lt {b b' : Bool} :
    (if b then (1 : ℤ) else 0) < (if b' then 1 else 0) ↔ b < b' := by
  cases b <;> cases b' <;> decide

theorem reachable_key_inj {b b' : Bool} :
    (if b then (1 : ℤ) else 0) = (if b' then 1 else 0) ↔ b' = b := by
  cases b <;> cases b' <;> decide

theorem candidateKey_le_iff {a b : DeviceEndpoint} :
    b.candidateKey ≤ a.candidateKey ↔ RanksBy keyLatency a b := by
  have hlatency : ∀ e : DeviceEndpoint, (orPort e.latencyMs (some 9999)).getD 0 = e.keyLatency :=
    fun _ => rfl
  rw [candidateKey, candidateKey, RanksBy, cons_le_cons_iff_lex, cons_le_cons_iff_lex,
    cons_le_cons_iff_lex, cons_le_cons_iff_lex, reachable_key_lt, reachable_key_inj, hlatency,
    hlatency, neg_lt_neg_iff, neg_inj, neg_lt_neg_iff, neg_inj, eq_comm (a := b.score),
    eq_comm (a := b.keyLatency), eq_comm (a := b.priority), and_iff_left le_rfl,
    ← le_iff_lt_or_eq]

/-! ### Where the key misses the latency -/

/-- The key has 9999 for the latency. -/
def ReadsUnknown (e : DeviceEndpoint) : Prop :=
  e.latencyMs = none ∨ e.latencyMs = some 0 ∨ e.latencyMs = some 9999

/-- Of two endpoints with one score and reachability `a` is the faster one, and its key is not
smaller: 0 against 1 to 9999 or an unknown latency, or at least 9999 against an unknown one. -/
def Blurred (a b : DeviceEndpoint) : Prop :=
  a.score = b.score ∧ a.reachable = b.reachable ∧
    (a.latencyMs = some 0 ∧ (b.latencyMs = none ∨ ∃ l ∈ b.latencyMs, 0 < l ∧ l ≤ 9999) ∨
      b.latencyMs = none ∧ ∃ l ∈ a.latencyMs, 9999 ≤ l)

/-- The priorities put a blurred pair right, `a` standing before `b` in the list. -/
def PutRight (a b : DeviceEndpoint) : Prop :=
  (a.Blurred b → a.ReadsUnknown ∧ b.ReadsUnknown ∧ a.priority ≤ b.priority) ∧
    (b.Blurred a → a.ReadsUnknown ∧ b.ReadsUnknown ∧ b.priority < a.priority)

theorem keyLatency_of_some {e : DeviceEndpoint} {l : ℤ} (h : e.latencyMs = some l) :
    e.keyLatency = if l = 0 then 9999 else l := by
  simp only [keyLatency, h, orPort, Option.any_some]
  split_ifs <;> simp_all

theorem keyLatency_of_none {e : DeviceEndpoint} (h : e.latencyMs = none) : e.keyLatency = 9999 := by
  rw [keyLatency, h]
  rfl

theorem readsUnknown_iff {e : DeviceEndpoint} : e.ReadsUnknown ↔ e.keyLatency = 9999 := by
  cases h : e.latencyMs with
  | none => simp [ReadsUnknown, h, keyLatency_of_none h]
  | some l =>
    rw [keyLatency_of_some h, ReadsUnknown, h]
    split_ifs with hl <;> simp [hl]

theorem blurred_iff {a b : DeviceEndpoint} : a.Blurred b ↔ a.score = b.score ∧
    a.reachable = b.reachable ∧ a.measuredLatency < b.measuredLatency ∧
      b.keyLatency ≤ a.keyLatency := by
  refine and_congr_right fun _ => and_congr_right fun _ => ?_
  cases ha : a.latencyMs with
  | none => simp [measuredLatency, ha]
  | some l =>
    cases hb : b.latencyMs with
    | none =>
      simp only [measuredLatency, ha, hb, keyLatency_of_some ha, keyLatency_of_none hb]
      split_ifs with hl <;> simp [hl]
    | some l' =>
      simp only [measuredLatency, ha, hb, keyLatency_of_some ha, keyLatency_of_some hb,
        Option.elim_some, WithTop.coe_lt_coe, Option.some.injEq, reduceCtorEq, false_or, false_and,
        or_false, Option.mem_some_iff, exists_eq_left']
      split_ifs <;> omega

theorem keyLatency_eq_of_measured {a b : DeviceEndpoint}
    (h : a.measuredLatency = b.measuredLatency) : a.keyLatency = b.keyLatency := by
  have hlatency : a.latencyMs = b.latencyMs := by
    cases ha : a.latencyMs <;> cases hb : b.latencyMs <;> simp_all [measuredLatency]
  rw [keyLatency, keyLatency, hlatency]

theorem keyLatency_eq_iff {a b : DeviceEndpoint} (h : a.measuredLatency ≠ b.measuredLatency) :
    a.keyLatency = b.keyLatency ↔ a.ReadsUnknown ∧ b.ReadsUnknown := by
  rw [readsUnknown_iff, readsUnknown_iff]
  refine ⟨fun heq => ?_, fun hboth => hboth.1.trans hboth.2.symm⟩
  cases ha : a.latencyMs with
  | none => exact ⟨keyLatency_of_none ha, heq ▸ keyLatency_of_none ha⟩
  | some l =>
    cases hb : b.latencyMs with
    | none => exact ⟨heq ▸ keyLatency_of_none hb, keyLatency_of_none hb⟩
    | some l' =>
      have hne : l ≠ l' := fun hl => h (by rw [measuredLatency, measuredLatency, ha, hb, hl])
      rw [keyLatency_of_some ha, keyLatency_of_some hb] at heq ⊢
      split_ifs at heq ⊢ <;> omega

theorem ranksBy_iff_of_eq {κ : Type*} [LinearOrder κ] {latency : DeviceEndpoint → κ}
    {a b : DeviceEndpoint} (hscore : a.score = b.score) (hreachable : a.reachable = b.reachable) :
    RanksBy latency a b ↔
      latency a < latency b ∨ latency a = latency b ∧ a.priority ≤ b.priority := by
  simp [RanksBy, hscore, hreachable]

/-- **The key and the documented order agree on a pair** exactly if it is put right. -/
theorem ranks_agree_iff {a b : DeviceEndpoint} :
    (RanksBy keyLatency a b ↔ a.Precedes b) ↔ a.PutRight b := by
  by_cases heq : a.score = b.score ∧ a.reachable = b.reachable
  · obtain ⟨hscore, hreachable⟩ := heq
    have hab : a.Blurred b ↔ a.measuredLatency < b.measuredLatency ∧
        b.keyLatency ≤ a.keyLatency := by
      rw [blurred_iff, and_iff_right hscore, and_iff_right hreachable]
    have hba : b.Blurred a ↔ b.measuredLatency < a.measuredLatency ∧
        a.keyLatency ≤ b.keyLatency := by
      rw [blurred_iff, and_iff_right hscore.symm, and_iff_right hreachable.symm]
    rw [Precedes, ranksBy_iff_of_eq hscore hreachable, ranksBy_iff_of_eq hscore hreachable,
      PutRight, hab, hba]
    rcases lt_trichotomy a.measuredLatency b.measuredLatency with hlt | hsame | hgt
    · -- `a` comes first, and so it does by the key unless its key is the larger one
      rw [← and_assoc, ← keyLatency_eq_iff hlt.ne]
      simp only [hlt, hlt.not_gt, true_or, iff_true, true_and, false_and, false_imp_iff, and_true]
      omega
    · have hkey := keyLatency_eq_of_measured hsame
      simp [hsame, hkey]
    · rw [← and_assoc, ← and_assoc, ← keyLatency_eq_iff hgt.ne']
      simp only [hgt, hgt.not_gt, hgt.ne', false_or, false_and, iff_false, true_and, false_imp_iff]
      omega
  · have hnot : ¬ a.Blurred b := fun h => heq ⟨h.1, h.2.1⟩
    have hnot' : ¬ b.Blurred a := fun h => heq ⟨h.1.symm, h.2.1.symm⟩
    refine iff_of_true ?_ ⟨fun h => absurd h hnot, fun h => absurd h hnot'⟩
    by_cases hscore : a.score = b.score
    · have hreachable : a.reachable ≠ b.reachable := fun h => heq ⟨hscore, h⟩
      simp [RanksBy, hscore, hreachable]
    · simp [RanksBy, hscore]

end DeviceEndpoint

theorem sortEndpointCandidates_eq (eps : List DeviceEndpoint) :
    sortEndpointCandidates eps =
      eps.insertionSort (DeviceEndpoint.RanksBy DeviceEndpoint.keyLatency) :=
  insertionSort_congr (List.pairwise_of_forall fun _ _ => DeviceEndpoint.candidateKey_le_iff)


/-- What is promised of the ranking. -/
structure RanksCandidates (eps sorted : List DeviceEndpoint) : Prop where
  perm : sorted.Perm eps
  ordered : sorted.Pairwise DeviceEndpoint.Precedes
  /-- Endpoints that the order does not tell apart stay as they stood. -/
  ties : ∀ e : DeviceEndpoint,
    sorted.filter (fun e' => e.Precedes e' ∧ e'.Precedes e) =
      eps.filter fun e' => e.Precedes e' ∧ e'.Precedes e

/-- **The ranking is the documented one exactly if every pair is put right**: `select_best_endpoint`
returns its first endpoint in any case. -/
theorem candidate_ranking_iff (eps : List DeviceEndpoint) :
    (RanksCandidates eps (sortEndpointCandidates eps) ∧
      selectBestEndpoint eps = (sortEndpointCandidates eps).head?) ↔
        eps.Pairwise DeviceEndpoint.PutRight := by
  have hagree : eps.Pairwise DeviceEndpoint.PutRight ↔ sortEndpointCandidates eps =
      eps.insertionSort DeviceEndpoint.Precedes := by
    rw [sortEndpointCandidates_eq, insertionSort_eq_insertionSort_iff]
    exact List.Pairwise.iff fun _ _ => DeviceEndpoint.ranks_agree_iff.symm
  have hbest : selectBestEndpoint eps = (sortEndpointCandidates eps).head? := rfl
  rw [and_iff_left hbest, hagree, eq_insertionSort_iff]
  constructor
  · intro h
    exact ⟨h.ordered, h.ties⟩
  · rintro ⟨hordered, hties⟩
    exact ⟨List.perm_insertionSort _ eps, hordered, hties⟩

/-- An endpoint that answered at once, behind one that was never measured. -/
def instantEndpoints : List DeviceEndpoint :=
  [{ id := Uuid.ofNat 1, deviceId := Uuid.ofNat 2, endpoint := "192.0.2.1", reachable := true
     score := 150 },
   { id := Uuid.ofNat 3, deviceId := Uuid.ofNat 2, endpoint := "192.0.2.2", reachable := true
     score := 150, latencyMs := some 0 }]

/-- A latency of 0 is not the best one. -/
theorem instantEndpoints_misranked :
    ¬ (RanksCandidates instantEndpoints (sortEndpointCandidates instantEndpoints) ∧
      selectBestEndpoint instantEndpoints = (sortEndpointCandidates instantEndpoints).head?) := by
  rintro ⟨h, -⟩
  exact absurd h.ordered (by decide)

end Midscale
