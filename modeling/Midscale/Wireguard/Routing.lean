import Mathlib.Data.Set.Lattice
import Mathlib.Order.CompletePartialOrder

/-!
# Peer tables

The peers of a tunnel interface, over arbitrary keys, prefixes and endpoints.  A peer owns a set of
prefixes, and no prefix is owned by two peers: a peer that is given prefixes takes them from whoever
had them.

* `PeerTable.set` : gives a peer its prefixes, and its endpoint if there is one to give.
* `PeerTable.apply` : several settings, one after another.
* `PeerTable.apply_of_mem`, `PeerTable.apply_of_forall_ne` : what a peer has afterwards.
* `PeerTable.exactly_apply_iff` : **when the table has exactly the wanted peers after some of their
  settings were applied.**
-/

namespace Midscale

/-- What an interface has for a peer. -/
@[ext]
structure PeerView (P E : Type*) where
  allowed : Set P
  endpoint : Option E

/-- The peers of an interface. -/
structure PeerTable (K P E : Type*) where
  peers : K → Option (PeerView P E)
  /-- No prefix is owned by two peers. -/
  disjoint : ∀ {k k' v v'}, peers k = some v → peers k' = some v' → k ≠ k' →
    Disjoint v.allowed v'.allowed

/-- The prefixes that a peer is to own, and its endpoint if there is one to give. -/
@[ext]
structure PeerSetting (K P E : Type*) where
  key : K
  allowed : Set P
  endpoint : Option E

namespace PeerTable

section

variable {K P E : Type*} [DecidableEq K]

/-- The table without peers. -/
def empty : PeerTable K P E where
  peers _ := none
  disjoint h := by cases h

/-- Gives a peer its prefixes, which the others lose. -/
def set (t : PeerTable K P E) (s : PeerSetting K P E) : PeerTable K P E where
  peers k :=
    if k = s.key then
      some { allowed := s.allowed, endpoint := s.endpoint <|> (t.peers k).bind (·.endpoint) }
    else (t.peers k).map fun v => { v with allowed := v.allowed \ s.allowed }
  disjoint := by
    intro k k' v v' h h' hne
    split_ifs at h h' with hk hk' hk'
    · exact absurd (hk.trans hk'.symm) hne
    · obtain ⟨u, -, rfl⟩ := Option.map_eq_some_iff.1 h'
      cases h
      exact Set.disjoint_sdiff_right
    · obtain ⟨u, -, rfl⟩ := Option.map_eq_some_iff.1 h
      cases h'
      exact Set.disjoint_sdiff_left
    · obtain ⟨u, hu, rfl⟩ := Option.map_eq_some_iff.1 h
      obtain ⟨u', hu', rfl⟩ := Option.map_eq_some_iff.1 h'
      exact (t.disjoint hu hu' hne).mono Set.sdiff_subset Set.sdiff_subset

/-- Takes a peer out. -/
def remove (t : PeerTable K P E) (key : K) : PeerTable K P E where
  peers k := if k = key then none else t.peers k
  disjoint := by
    intro k k' v v' h h' hne
    split_ifs at h h'
    exact t.disjoint h h' hne

/-- Several settings, one after another. -/
def apply (t : PeerTable K P E) (settings : List (PeerSetting K P E)) : PeerTable K P E :=
  settings.foldl set t

/-- The prefixes of some settings. -/
def taken (settings : List (PeerSetting K P E)) : Set P := {p | ∃ s ∈ settings, p ∈ s.allowed}

/-- Settings that one table can meet: one key has one setting, different keys share no prefix. -/
def Coherent (settings : List (PeerSetting K P E)) : Prop :=
  ∀ s ∈ settings, ∀ s' ∈ settings,
    (s.key = s'.key → s = s') ∧ (s.key ≠ s'.key → Disjoint s.allowed s'.allowed)

/-- The table has the peers of the settings, as they are set, and no others. -/
def Exactly (t : PeerTable K P E) (settings : List (PeerSetting K P E)) : Prop :=
  (∀ s ∈ settings, t.peers s.key = some { allowed := s.allowed, endpoint := s.endpoint }) ∧
    ∀ k, (t.peers k).isSome = true → ∃ s ∈ settings, s.key = k

variable {t : PeerTable K P E} {s : PeerSetting K P E} {settings done : List (PeerSetting K P E)}

theorem peers_set_self : (t.set s).peers s.key =
    some { allowed := s.allowed, endpoint := s.endpoint <|> (t.peers s.key).bind (·.endpoint) } :=
  if_pos rfl

theorem peers_set_of_ne {k : K} (h : k ≠ s.key) : (t.set s).peers k =
    (t.peers k).map fun v => { v with allowed := v.allowed \ s.allowed } :=
  if_neg h

omit [DecidableEq K] in
theorem Coherent.of_subset (h : Coherent settings) (hsub : done ⊆ settings) : Coherent done :=
  fun s hs s' hs' => h s (hsub hs) s' (hsub hs')

omit [DecidableEq K] in
theorem Exactly.coherent (h : t.Exactly settings) : Coherent settings := by
  intro s hs s' hs'
  have hview := h.1 s hs
  have hview' := h.1 s' hs'
  refine ⟨fun hkey => ?_, fun hne => t.disjoint hview hview' hne⟩
  rw [hkey, hview', Option.some.injEq, PeerView.mk.injEq] at hview
  exact PeerSetting.ext hkey hview.1.symm hview.2.symm

theorem isSome_apply {k : K} : ((t.apply settings).peers k).isSome = true ↔
    (t.peers k).isSome = true ∨ ∃ s ∈ settings, s.key = k := by
  induction settings generalizing t with
  | nil => simp [apply]
  | cons s settings ih =>
    change (((t.set s).apply settings).peers k).isSome = true ↔ _
    simp only [ih, List.mem_cons, exists_eq_or_imp]
    by_cases hk : k = s.key
    · subst hk
      simp [peers_set_self]
    · rw [peers_set_of_ne hk, Option.isSome_map, ← or_assoc, or_iff_left (b := s.key = k)]
      exact fun h => hk h.symm

/-- **A peer that no setting names loses the prefixes that the settings give.** -/
theorem apply_of_forall_ne {k : K} (h : ∀ s ∈ settings, s.key ≠ k) :
    (t.apply settings).peers k =
      (t.peers k).map fun v => { v with allowed := v.allowed \ taken settings } := by
  induction settings generalizing t with
  | nil =>
    have hnone : taken (P := P) ([] : List (PeerSetting K P E)) = ∅ :=
      Set.eq_empty_of_forall_notMem fun p ⟨s, hs, _⟩ => List.not_mem_nil hs
    simp [apply, hnone]
  | cons s settings ih =>
    have htaken : taken (s :: settings) = s.allowed ∪ taken settings := by
      ext p
      simp [taken]
    have hne : k ≠ s.key := (h s List.mem_cons_self).symm
    change ((t.set s).apply settings).peers k = _
    rw [ih fun s' hs' => h s' (List.mem_cons_of_mem _ hs'), peers_set_of_ne hne, Option.map_map,
      htaken]
    simp only [Function.comp_def, Set.sdiff_sdiff]

theorem apply_of_set {o : Option E} (h : Coherent (s :: settings))
    (hview : t.peers s.key = some { allowed := s.allowed, endpoint := o })
    (ho : (s.endpoint <|> o) = o) :
    (t.apply settings).peers s.key = some { allowed := s.allowed, endpoint := o } := by
  induction settings generalizing t with
  | nil => exact hview
  | cons s' settings ih =>
    change ((t.set s').apply settings).peers s.key = _
    have hsub : s :: settings ⊆ s :: s' :: settings := fun r hr => by
      rcases List.mem_cons.1 hr with rfl | hr
      · exact List.mem_cons_self
      · exact List.mem_cons_of_mem _ (List.mem_cons_of_mem _ hr)
    refine ih (h.of_subset hsub) ?_
    obtain ⟨hsame, hother⟩ := h s List.mem_cons_self s' (List.mem_cons_of_mem _ List.mem_cons_self)
    by_cases hkey : s.key = s'.key
    · cases hsame hkey
      rw [peers_set_self, hview]
      simp only [Option.bind_some, ho]
    · rw [peers_set_of_ne hkey, hview, Option.map_some, (hother hkey).sdiff_eq_left]

/-- **A peer that a setting names has the prefixes of that setting**, and its endpoint or the one it
had. -/
theorem apply_of_mem (h : Coherent settings) (hs : s ∈ settings) :
    (t.apply settings).peers s.key =
      some { allowed := s.allowed
             endpoint := s.endpoint <|> (t.peers s.key).bind (·.endpoint) } := by
  induction settings generalizing t with
  | nil => exact absurd hs List.not_mem_nil
  | cons s' settings ih =>
    change ((t.set s').apply settings).peers s.key = _
    by_cases hkey : s.key = s'.key
    · cases (h s hs s' List.mem_cons_self).1 hkey
      refine apply_of_set h peers_set_self ?_
      cases s.endpoint <;> rfl
    · have hmem : s ∈ settings := (List.mem_cons.1 hs).resolve_left fun heq => hkey (heq ▸ rfl)
      rw [ih (h.of_subset (List.subset_cons_self _ _)) hmem, peers_set_of_ne hkey]
      cases t.peers s.key <;> rfl

/-- What the table had decides whether it has exactly the wanted peers, after some of their settings
were applied: the settings are coherent, there were no other peers, a peer that was set and is to
have no endpoint had none, and a peer that was not set is left as it is wanted. -/
def MeetsAfter (t : PeerTable K P E) (settings done : List (PeerSetting K P E)) : Prop :=
  Coherent settings ∧ (∀ k, (t.peers k).isSome = true → ∃ s ∈ settings, s.key = k) ∧
    ∀ s ∈ settings,
      (s ∈ done → s.endpoint = none → (t.peers s.key).bind (·.endpoint) = none) ∧
      (s ∉ done → ∃ v, t.peers s.key = some v ∧ v.allowed \ taken done = s.allowed ∧
        v.endpoint = s.endpoint)

/-- **When the table has exactly the wanted peers after some of their settings were applied.** -/
theorem exactly_apply_iff (hdone : done ⊆ settings) :
    (t.apply done).Exactly settings ↔ t.MeetsAfter settings done := by
  -- coherent settings decide what each peer has afterwards
  have hset : Coherent settings → ∀ s ∈ done, (t.apply done).peers s.key =
      some { allowed := s.allowed, endpoint := s.endpoint <|> (t.peers s.key).bind (·.endpoint) } :=
    fun hc s hs => apply_of_mem (hc.of_subset hdone) hs
  have hunset : Coherent settings → ∀ s ∈ settings, s ∉ done → (t.apply done).peers s.key =
      (t.peers s.key).map fun v => { v with allowed := v.allowed \ taken done } :=
    fun hc s hs hnot => apply_of_forall_ne fun s' hs' hkey =>
      hnot ((hc s' (hdone hs') s hs).1 hkey ▸ hs')
  constructor
  · intro h
    have hc := h.coherent
    refine ⟨hc, fun k hk => h.2 k (isSome_apply.2 (.inl hk)),
      fun s hs => ⟨fun hmem hnone => ?_, fun hnot => ?_⟩⟩
    · have hview := h.1 s hs
      rw [hset hc s hmem, hnone] at hview
      simpa using hview
    · have hview := h.1 s hs
      rw [hunset hc s hs hnot, Option.map_eq_some_iff] at hview
      obtain ⟨v, hv, heq⟩ := hview
      rw [PeerView.mk.injEq] at heq
      exact ⟨v, hv, heq.1, heq.2⟩
  · rintro ⟨hc, hprior, hall⟩
    refine ⟨fun s hs => ?_, fun k hk => ?_⟩
    · by_cases hmem : s ∈ done
      · rw [hset hc s hmem]
        cases hep : s.endpoint with
        | none => simp [(hall s hs).1 hmem hep]
        | some e => rfl
      · obtain ⟨v, hv, hallowed, hep⟩ := (hall s hs).2 hmem
        rw [hunset hc s hs hmem, hv, Option.map_some, hallowed, hep]
    · rcases isSome_apply.1 hk with hk | ⟨s, hs, hkey⟩
      · exact hprior k hk
      · exact ⟨s, hdone hs, hkey⟩

end

end PeerTable

end Midscale
