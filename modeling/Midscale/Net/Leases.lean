import Mathlib.Data.List.Pairwise

/-!
# Leases

Holders belong to groups, and every group has a pool of addresses whose first one, the gateway, is
for the keeper of the group, its oldest holder.  Holders are rows of a list, oldest first.

* `Leases` : no two holders of a group hold the same address, every address held is from the
  group's pool, and only the keeper holds the gateway.
* `keeper?_of_prefix` : a group keeps its keeper.
* `Leases.concat`, `Leases.replace` : what a new holder and a holder that changes must satisfy.
* `Leases.congr_pool` : only the pools of groups with holders matter.
-/

namespace Midscale

section Leases

variable {ρ ι κ α : Type*} [DecidableEq κ]
variable (key : ρ → ι) (group : ρ → κ) (addr : ρ → Option α) (pool : κ → List α)

/-- The key of the oldest holder of a group. -/
def keeper? (k : κ) (rows : List ρ) : Option ι := (rows.find? fun r => group r = k).map key

/-- The addresses are leased properly. -/
structure Leases (rows : List ρ) : Prop where
  /-- No two holders of a group hold the same address. -/
  distinct : rows.Pairwise fun r r' => group r = group r' → addr r ≠ none → addr r ≠ addr r'
  /-- Every address held is from the pool. -/
  mem_pool : ∀ r ∈ rows, ∀ a ∈ addr r, a ∈ pool (group r)
  /-- Only the keeper holds the gateway. -/
  gateway : ∀ r ∈ rows, ∀ a ∈ addr r, (pool (group r)).head? = some a →
    keeper? key group (group r) rows = some (key r)

variable {key group addr pool}

theorem leases_nil : Leases key group addr pool [] where
  distinct := .nil
  mem_pool := nofun
  gateway := nofun

theorem keeper?_eq (k : κ) (rows : List ρ) : keeper? key group k rows =
    ((rows.map fun r => (key r, group r)).find? fun m => m.2 = k).map Prod.fst := by
  rw [List.find?_map, Option.map_map]
  rfl

/-- A group keeps its keeper while holders are only added and keep their keys and groups. -/
theorem keeper?_of_prefix {rows rows' : List ρ}
    (h : (rows.map fun r => (key r, group r)) <+: rows'.map fun r => (key r, group r)) {k : κ} {i : ι}
    (hi : keeper? key group k rows = some i) : keeper? key group k rows' = some i := by
  obtain ⟨rest, hrest⟩ := h
  rw [keeper?_eq] at hi ⊢
  obtain ⟨m, hm, rfl⟩ := Option.map_eq_some_iff.1 hi
  rw [← hrest, List.find?_append, hm, Option.some_or, Option.map_some]

theorem keeper?_concat_self {rows : List ρ} {r : ρ} (h : ∀ r' ∈ rows, group r' ≠ group r) :
    keeper? key group (group r) (rows ++ [r]) = some (key r) := by
  have hnone : rows.find? (fun r' => group r' = group r) = none := by simpa using h
  rw [keeper?, List.find?_append, hnone, Option.none_or, List.find?_singleton,
    if_pos (decide_eq_true rfl), Option.map_some]

theorem Leases.eq_of_addr {rows : List ρ} (h : Leases key group addr pool rows) {r r' : ρ}
    (hr : r ∈ rows) (hr' : r' ∈ rows) (hgroup : group r = group r') (hsome : addr r ≠ none)
    (heq : addr r = addr r') : r = r' := by
  have hsymm : Std.Symm fun r r' : ρ =>
      group r = group r' → addr r ≠ none → addr r ≠ addr r' :=
    ⟨fun r r' hne hg hs he => hne hg.symm (he ▸ hs) he.symm⟩
  by_contra hne
  exact h.distinct.forall hr hr' hne hgroup hsome heq

/-- A new holder takes a free address of the pool, the gateway only in a new group. -/
theorem Leases.concat {rows : List ρ} {r : ρ} (h : Leases key group addr pool rows)
    (hfree : ∀ a ∈ addr r, ∀ r' ∈ rows, group r' = group r → addr r' ≠ some a)
    (hpool : ∀ a ∈ addr r, a ∈ pool (group r))
    (hgate : ∀ a ∈ addr r, (pool (group r)).head? = some a → ∀ r' ∈ rows, group r' ≠ group r) :
    Leases key group addr pool (rows ++ [r]) where
  distinct := by
    refine List.pairwise_append.2 ⟨h.distinct, List.pairwise_singleton _ _, ?_⟩
    intro r' hr' s hs hgroup hsome heq
    rw [List.mem_singleton] at hs
    subst hs
    obtain ⟨a, ha⟩ := Option.ne_none_iff_exists'.1 hsome
    exact hfree a (heq ▸ ha) r' hr' hgroup ha
  mem_pool := by
    intro s hs a ha
    rcases List.mem_append.1 hs with hs | hs
    · exact h.mem_pool s hs a ha
    · rw [List.mem_singleton] at hs
      subst hs
      exact hpool a ha
  gateway := by
    intro s hs a ha hhead
    rcases List.mem_append.1 hs with hs | hs
    · refine keeper?_of_prefix ?_ (h.gateway s hs a ha hhead)
      rw [List.map_append]
      exact List.prefix_append _ _
    · rw [List.mem_singleton] at hs
      subst hs
      exact keeper?_concat_self (hgate a ha hhead)

/-- A holder may change to a free address of the pool, the keeper also to the gateway. -/
theorem Leases.replace {l₁ l₂ : List ρ} {r r' : ρ} (h : Leases key group addr pool (l₁ ++ r :: l₂))
    (hkey : key r' = key r) (hgroup : group r' = group r)
    (hfree : ∀ a ∈ addr r', ∀ s ∈ l₁ ++ l₂, group s = group r → addr s ≠ some a)
    (hpool : ∀ a ∈ addr r', a ∈ pool (group r))
    (hgate : ∀ a ∈ addr r', (pool (group r)).head? = some a →
      keeper? key group (group r) (l₁ ++ r :: l₂) = some (key r)) :
    Leases key group addr pool (l₁ ++ r' :: l₂) where
  distinct := by
    obtain ⟨h₁, h₂, h₁₂⟩ := List.pairwise_append.1 h.distinct
    have hr := List.pairwise_cons.1 h₂
    refine List.pairwise_append.2 ⟨h₁, List.pairwise_cons.2 ⟨?_, hr.2⟩, ?_⟩
    · intro s hs hg hsome heq
      obtain ⟨a, ha⟩ := Option.ne_none_iff_exists'.1 hsome
      exact hfree a ha s (List.mem_append_right _ hs) (hg.symm.trans hgroup) (heq ▸ ha)
    · intro s hs t ht hg hsome heq
      rcases List.mem_cons.1 ht with rfl | ht
      · obtain ⟨a, ha⟩ := Option.ne_none_iff_exists'.1 hsome
        exact hfree a (heq ▸ ha) s (List.mem_append_left _ hs) (hg.trans hgroup) ha
      · exact h₁₂ s hs t (List.mem_cons_of_mem _ ht) hg hsome heq
  mem_pool := by
    intro s hs a ha
    rcases List.mem_append.1 hs with hs | hs
    · exact h.mem_pool s (List.mem_append_left _ hs) a ha
    · rcases List.mem_cons.1 hs with rfl | hs
      · exact hgroup ▸ hpool a ha
      · exact h.mem_pool s (List.mem_append_right _ (List.mem_cons_of_mem _ hs)) a ha
  gateway := by
    -- keys and groups stay, so every group keeps its keeper
    have hkeeper : ∀ k, keeper? key group k (l₁ ++ r' :: l₂) =
        keeper? key group k (l₁ ++ r :: l₂) := fun k => by
      rw [keeper?_eq, keeper?_eq, List.map_append, List.map_append, List.map_cons, List.map_cons,
        hkey, hgroup]
    intro s hs a ha hhead
    rw [hkeeper]
    rcases List.mem_append.1 hs with hs | hs
    · exact h.gateway s (List.mem_append_left _ hs) a ha hhead
    · rcases List.mem_cons.1 hs with rfl | hs
      · rw [hgroup] at hhead ⊢
        rw [hkey]
        exact hgate a ha hhead
      · exact h.gateway s (List.mem_append_right _ (List.mem_cons_of_mem _ hs)) a ha hhead

theorem Leases.replace_of_addr_eq {l₁ l₂ : List ρ} {r r' : ρ}
    (h : Leases key group addr pool (l₁ ++ r :: l₂)) (hkey : key r' = key r)
    (hgroup : group r' = group r) (haddr : addr r' = addr r) :
    Leases key group addr pool (l₁ ++ r' :: l₂) := by
  have hmem : r ∈ l₁ ++ r :: l₂ := List.mem_append_right _ List.mem_cons_self
  refine h.replace hkey hgroup ?_ (fun a ha => h.mem_pool r hmem a (haddr ▸ ha))
    fun a ha => h.gateway r hmem a (haddr ▸ ha)
  intro a ha s hs hg heq
  obtain ⟨-, h₂, h₁₂⟩ := List.pairwise_append.1 h.distinct
  have har : addr r = some a := haddr ▸ ha
  rcases List.mem_append.1 hs with hs | hs
  · exact h₁₂ s hs r List.mem_cons_self hg (heq ▸ Option.some_ne_none a) (heq.trans har.symm)
  · exact (List.pairwise_cons.1 h₂).1 s hs hg.symm (har ▸ Option.some_ne_none a)
      (har.trans heq.symm)

/-- Only the pools of groups with holders matter. -/
theorem Leases.congr_pool {rows : List ρ} {pool' : κ → List α}
    (h : Leases key group addr pool rows) (hpool : ∀ r ∈ rows, pool' (group r) = pool (group r)) :
    Leases key group addr pool' rows where
  distinct := h.distinct
  mem_pool := fun r hr a ha => hpool r hr ▸ h.mem_pool r hr a ha
  gateway := fun r hr a ha hhead => h.gateway r hr a ha (hpool r hr ▸ hhead)

end Leases

end Midscale
