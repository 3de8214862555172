import Mathlib.Data.Set.Lattice
import Mathlib.Order.CompletePartialOrder
import Midscale.Wireguard.Controller

/-!
# The diff of an interface

`_compute_peer_diff` goes through the desired peers in a loop and takes the orphaned keys from a set
difference.  On keys it is the two halves of a symmetric difference, with what both sides share.

* `keys_toAdd`, `keys_toUpdate`, `keys_toRemove` : the three classes as sets of keys.
* `peer_diff` : **the classes are disjoint, applying the diff leaves the kept keys,** and a second
  diff is empty.
* `interface_keys_after` : the same of the two loops over the diff.
-/

namespace Midscale

/-! ### Keys -/

/-- The keys of some peers. -/
def peerKeys (peers : List DesiredPeer) : Set String := {k | ∃ p ∈ peers, p.publicKey = k}

/-- The keys that are to be kept. -/
def keptKeys (desired : List DesiredPeer) : Set String :=
  {k | ∃ p ∈ desired, p.remove = false ∧ p.publicKey = k}

/-- The keys that are flagged for removal. -/
def flaggedKeys (desired : List DesiredPeer) : Set String :=
  {k | ∃ p ∈ desired, p.remove = true ∧ p.publicKey = k}

section

variable {order : SetOrder String} {desired : List DesiredPeer} {actual : List String}

theorem peerKeys_filter (c : String → Prop) [DecidablePred c] :
    peerKeys (desired.filter fun p => !p.remove ∧ c p.publicKey) =
      keptKeys desired ∩ {k | c k} := by
  ext k
  simp only [peerKeys, keptKeys, List.mem_filter, decide_eq_true_eq, Bool.not_eq_true',
    Set.mem_inter_iff, Set.mem_ofPred_eq]
  constructor
  · rintro ⟨p, ⟨hp, hkeep, hk⟩, rfl⟩
    exact ⟨⟨p, hp, hkeep, rfl⟩, hk⟩
  · rintro ⟨⟨p, hp, hkeep, rfl⟩, hk⟩
    exact ⟨p, ⟨hp, hkeep, hk⟩, rfl⟩

theorem keys_toAdd :
    peerKeys (computePeerDiff order desired actual).toAdd = keptKeys desired \ {k | k ∈ actual} :=
  peerKeys_filter fun k => k ∉ actual

theorem keys_toUpdate :
    peerKeys (computePeerDiff order desired actual).toUpdate =
      keptKeys desired ∩ {k | k ∈ actual} :=
  peerKeys_filter fun k => k ∈ actual

/-- A key is orphaned or flagged; where no kept key is flagged, it is just not kept. -/
theorem keys_toRemove (h : Disjoint (flaggedKeys desired) (keptKeys desired)) :
    peerKeys (computePeerDiff order desired actual).toRemove =
      {k | k ∈ actual} \ keptKeys desired := by
  have hkept : ∀ k, k ∈ (desired.filter fun p => !p.remove).map (·.publicKey) ↔
      k ∈ keptKeys desired := fun k => by
    simp only [List.mem_map, List.mem_filter, Bool.not_eq_true', keptKeys, Set.mem_ofPred_eq,
      and_assoc]
  have hflagged : ∀ k, k ∈ (desired.filter fun p => p.remove).map (·.publicKey) ↔
      k ∈ flaggedKeys desired := fun k => by
    simp only [List.mem_map, List.mem_filter, flaggedKeys, Set.mem_ofPred_eq, and_assoc]
  ext k
  simp only [peerKeys, computePeerDiff, Set.mem_ofPred_eq, List.mem_append, Set.mem_sdiff]
  constructor
  · rintro ⟨p, hp | hp, rfl⟩
    · obtain ⟨hp, hcond⟩ := List.mem_filter.1 hp
      obtain ⟨hremove, hactual⟩ := of_decide_eq_true hcond
      exact ⟨hactual, Set.disjoint_left.1 h ⟨p, hp, hremove, rfl⟩⟩
    · obtain ⟨k, hk, rfl⟩ := List.mem_map.1 hp
      rw [order.mem_elems, List.mem_filter, decide_eq_true_eq, hkept, hflagged] at hk
      exact ⟨hk.1, hk.2.1⟩
  · rintro ⟨hactual, hnot⟩
    by_cases hflag : k ∈ flaggedKeys desired
    · obtain ⟨p, hp, hremove, rfl⟩ := hflag
      exact ⟨p, .inl (List.mem_filter.2 ⟨hp, decide_eq_true ⟨hremove, hactual⟩⟩), rfl⟩
    · refine ⟨{ publicKey := k, remove := true }, .inr (List.mem_map.2 ⟨k, ?_, rfl⟩), rfl⟩
      rw [order.mem_elems, List.mem_filter, decide_eq_true_eq, hkept, hflagged]
      exact ⟨hactual, hnot, hflag⟩

theorem keys_after (h : Disjoint (flaggedKeys desired) (keptKeys desired)) :
    ({k | k ∈ actual} \ peerKeys (computePeerDiff order desired actual).toRemove) ∪
      peerKeys (computePeerDiff order desired actual).toAdd = keptKeys desired := by
  rw [keys_toRemove h, keys_toAdd, Set.sdiff_sdiff_right_self, Set.inter_comm,
    Set.inter_union_sdiff]

theorem eq_nil_of_peerKeys {peers : List DesiredPeer} (h : peerKeys peers = ∅) : peers = [] :=
  List.eq_nil_iff_forall_not_mem.2 fun p hp =>
    Set.eq_empty_iff_forall_notMem.1 h p.publicKey ⟨p, hp, rfl⟩

end

/-- **The diff converges.**  Where no key is flagged and kept, the three classes have no key in
common; without the first and with the second class the actual keys are those to be kept; and a
diff against these finds nothing to remove or to add. -/
theorem peer_diff (order : SetOrder String) (desired : List DesiredPeer) (actual : List String)
    (h : ∀ p ∈ desired, ∀ q ∈ desired, p.remove = true → q.remove = false →
      p.publicKey ≠ q.publicKey) :
    let diff := computePeerDiff order desired actual
    Disjoint (peerKeys diff.toRemove) (peerKeys diff.toAdd) ∧
      Disjoint (peerKeys diff.toRemove) (peerKeys diff.toUpdate) ∧
      Disjoint (peerKeys diff.toAdd) (peerKeys diff.toUpdate) ∧
      ({k | k ∈ actual} \ peerKeys diff.toRemove) ∪ peerKeys diff.toAdd = keptKeys desired ∧
      ∀ (order' : SetOrder String) (actual' : List String),
        {k | k ∈ actual'} = ({k | k ∈ actual} \ peerKeys diff.toRemove) ∪ peerKeys diff.toAdd →
          (computePeerDiff order' desired actual').toRemove = [] ∧
            (computePeerDiff order' desired actual').toAdd = [] := by
  intro diff
  have hdisjoint : Disjoint (flaggedKeys desired) (keptKeys desired) := by
    refine Set.disjoint_left.2 ?_
    rintro k ⟨p, hp, hremove, rfl⟩ ⟨q, hq, hkeep, hk⟩
    exact h p hp q hq hremove hkeep hk.symm
  have hremove : peerKeys diff.toRemove = {k | k ∈ actual} \ keptKeys desired :=
    keys_toRemove hdisjoint
  have hadd : peerKeys diff.toAdd = keptKeys desired \ {k | k ∈ actual} := keys_toAdd
  have hupdate : peerKeys diff.toUpdate = keptKeys desired ∩ {k | k ∈ actual} := keys_toUpdate
  have hresult : ({k | k ∈ actual} \ peerKeys diff.toRemove) ∪ peerKeys diff.toAdd =
      keptKeys desired := keys_after hdisjoint
  refine ⟨?_, ?_, ?_, hresult, fun order' actual' hactual => ⟨?_, ?_⟩⟩
  · rw [hremove, hadd]
    exact Set.disjoint_left.2 fun k hk hk' => hk.2 hk'.1
  · rw [hremove, hupdate]
    exact Set.disjoint_left.2 fun k hk hk' => hk.2 hk'.1
  · rw [hadd, hupdate]
    exact Set.disjoint_left.2 fun k hk hk' => hk.2 hk'.2
  · rw [hresult] at hactual
    exact eq_nil_of_peerKeys (by rw [keys_toRemove hdisjoint, hactual, Set.sdiff_self])
  · rw [hresult] at hactual
    exact eq_nil_of_peerKeys (by rw [keys_toAdd, hactual, Set.sdiff_self])

/-- A key that is desired twice, one that is flagged, and one that nobody knows. -/
theorem peer_diff_duplicate :
    let desired : List DesiredPeer := [{ publicKey := "a" }, { publicKey := "b", remove := true },
      { publicKey := "a", allowedIps := ["10.0.0.2/32"] }]
    let diff := computePeerDiff (.dedup String) desired ["b", "c"]
    Disjoint (peerKeys diff.toRemove) (peerKeys diff.toAdd) ∧
      Disjoint (peerKeys diff.toRemove) (peerKeys diff.toUpdate) ∧
      Disjoint (peerKeys diff.toAdd) (peerKeys diff.toUpdate) ∧
      ({k | k ∈ ["b", "c"]} \ peerKeys diff.toRemove) ∪ peerKeys diff.toAdd = keptKeys desired ∧
      ∀ (order' : SetOrder String) (actual' : List String),
        {k | k ∈ actual'} = ({k | k ∈ ["b", "c"]} \ peerKeys diff.toRemove) ∪
          peerKeys diff.toAdd →
          (computePeerDiff order' desired actual').toRemove = [] ∧
            (computePeerDiff order' desired actual').toAdd = [] :=
  peer_diff _ _ _ (by decide)

/-! ### The loops over a diff -/

/-- The keys of the peers on an interface. -/
def WGInterface.keys (st : WGInterface) : Set String := {k | ∃ q ∈ st.peers, q.publicKey = k}

theorem WGInterface.keys_foldl_removePeer (ps : List DesiredPeer) (st : WGInterface) :
    (ps.foldl (fun st p => st.removePeer p.publicKey) st).keys = st.keys \ peerKeys ps := by
  ext k
  simp only [WGInterface.keys, peerKeys, mem_foldl_removePeer, Set.mem_sdiff, Set.mem_ofPred_eq]
  constructor
  · rintro ⟨q, ⟨hq, hne⟩, rfl⟩
    refine ⟨⟨q, hq, rfl⟩, ?_⟩
    rintro ⟨p, hp, hk⟩
    exact hne p hp hk
  · rintro ⟨⟨q, hq, rfl⟩, hnone⟩
    exact ⟨q, ⟨hq, fun p hp hk => hnone ⟨p, hp, hk⟩⟩, rfl⟩

theorem WGInterface.keys_foldl_addPeer (ps : List DesiredPeer) (st : WGInterface) :
    (ps.foldl (fun st p => st.addPeer { publicKey := p.publicKey, allowedIps := p.allowedIps })
      st).keys = st.keys ∪ peerKeys ps := by
  obtain ⟨-, horigin, hkeys, hcover⟩ := st.foldl_addPeer_spec ps
  ext k
  simp only [WGInterface.keys, peerKeys, Set.mem_union, Set.mem_ofPred_eq]
  constructor
  · rintro ⟨q, hq, rfl⟩
    rcases horigin q hq with hq | ⟨p, hp, hk, -⟩
    · exact .inl ⟨q, hq, rfl⟩
    · exact .inr ⟨p, hp, hk⟩
  · rintro (⟨q, hq, rfl⟩ | ⟨p, hp, rfl⟩)
    · exact hkeys q hq
    · exact hcover p hp

/-- **The two loops** over the diff against the peers of an interface leave it with the kept
keys. -/
theorem interface_keys_after (order : SetOrder String) {desired : List DesiredPeer}
    (h : Disjoint (flaggedKeys desired) (keptKeys desired)) {m : WgMockAdapter}
    {interface : String} {st : WGInterface} (hst : m.interfaces.get? interface = some st)
    (r : ReconciliationResult) :
    let diff := computePeerDiff order desired (st.peers.map (·.publicKey))
    ∃ m₁ r₁ m₂ r₂ st', removePeers WgMockAdapter.adapter interface diff.toRemove m r =
        (m₁, r₁, none) ∧
      addPeers WgMockAdapter.adapter interface diff.toAdd m₁ r₁ = (m₂, r₂, none) ∧
      m₂.interfaces.get? interface = some st' ∧ st'.keys = keptKeys desired := by
  intro diff
  have hactual : st.keys = {k | k ∈ st.peers.map (·.publicKey)} := by
    ext k
    simp only [WGInterface.keys, List.mem_map]
  obtain ⟨m₁, r₁, hremove, hm₁⟩ := WgMockAdapter.removePeers_spec hst diff.toRemove r
  obtain ⟨m₂, r₂, hadd, hm₂⟩ := WgMockAdapter.addPeers_spec hm₁ diff.toAdd r₁
  refine ⟨m₁, r₁, m₂, r₂, _, hremove, hadd, hm₂, ?_⟩
  rw [WGInterface.keys_foldl_addPeer, WGInterface.keys_foldl_removePeer, hactual]
  exact keys_after h

end Midscale
