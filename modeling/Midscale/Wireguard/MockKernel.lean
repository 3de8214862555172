import Midscale.Wireguard.CliAdapter
import Midscale.Wireguard.PeerFailures
import Midscale.Wireguard.Routing

/-!
# The mock adapter and the program

The mock adapter stands for `wg` where there is none.  It lists for every peer the AllowedIPs that it
was given last; on an interface a prefix has one peer, which takes it from the others, and a key or an
address that is none is refused.

* `Agrees` : the two have the same peers with the same AllowedIPs.
* `Possible` : what the mock adapter lists could be on an interface.
* `mock_agrees_iff` : **the mock adapter agrees with the program throughout a run of calls exactly if
  it lists nothing impossible on the way.**
-/

namespace Midscale

/-- How `wg set` reads its arguments. -/
structure SetReading (P : Type) where
  /-- The text is a key. -/
  key : String → Bool
  /-- The prefixes of a text, if it can be read. -/
  allowedIps : String → Option (Set P)
  valid_of_key : ∀ {k}, key k = true → validateWireguardKey k = true

/-- The prefixes that a peer lists. -/
def SetReading.listed {P : Type} (reading : SetReading P) (allowedIps : List String) :
    Option (Set P) :=
  reading.allowedIps (",".intercalate allowedIps)

section

variable {σ P E : Type} (reading : SetReading P)

/-- What a call does to the peers of an interface. -/
def PeerTable.after (t : PeerTable String P E) : PeerCall → PeerTable String P E
  | .removePeer publicKey => if reading.key publicKey then t.remove publicKey else t
  | .addPeer publicKey allowedIps =>
    match reading.listed allowedIps with
    | some allowed => if reading.key publicKey then t.set ⟨publicKey, allowed, none⟩ else t
    | none => t

/-- What a call does to the interface of the mock adapter. -/
def WGInterface.after (st : WGInterface) : PeerCall → WGInterface
  | .removePeer publicKey => st.removePeer publicKey
  | .addPeer publicKey allowedIps => st.addPeer { publicKey, allowedIps }

/-- What the manual says of `wg set` for one interface: what a call leaves, and that peers have keys. -/
structure WgProgram.Sets (program : WgProgram σ) (interface : String)
    (view : σ → Option (PeerTable String P E)) : Prop where
  add : ∀ s publicKey allowedIps, view (program.write s [interface, "peer", publicKey, "allowed-ips",
    ",".intercalate allowedIps]).1 = (view s).map (·.after reading (.addPeer publicKey allowedIps))
  remove : ∀ s publicKey, view (program.write s [interface, "peer", publicKey, "remove"]).1 =
    (view s).map (·.after reading (.removePeer publicKey))
  key_of_peer : ∀ {s t k}, view s = some t → (t.peers k).isSome = true → reading.key k = true

/-- A call on an adapter, whatever comes of it. -/
def WireGuardAdapter.perform (adapter : WireGuardAdapter σ) (interface : String) (s : σ) :
    PeerCall → σ
  | .removePeer publicKey => (adapter.removePeer s interface publicKey).1
  | .addPeer publicKey allowedIps => (adapter.addPeer s interface publicKey allowedIps).1

/-- The two have the same peers, with the same AllowedIPs. -/
structure Agrees (st : WGInterface) (t : PeerTable String P E) : Prop where
  isSome_iff : ∀ k, (t.peers k).isSome = true ↔ ∃ p ∈ st.peers, p.publicKey = k
  allowed : ∀ p ∈ st.peers, ∀ v, t.peers p.publicKey = some v →
    reading.listed p.allowedIps = some v.allowed

/-- Interfaces can have such peers: keys that are keys, with AllowedIPs that can be read, and no prefix
with two peers. -/
structure Possible (st : WGInterface) : Prop where
  key : ∀ p ∈ st.peers, reading.key p.publicKey = true
  listed : ∀ p ∈ st.peers, (reading.listed p.allowedIps).isSome = true
  disjoint : ∀ p ∈ st.peers, ∀ q ∈ st.peers, p.publicKey ≠ q.publicKey →
    ∀ x ∈ reading.listed p.allowedIps, ∀ y ∈ reading.listed q.allowedIps, Disjoint x y

variable {reading} {st : WGInterface} {t : PeerTable String P E}

theorem PeerTable.isSome_after {c : PeerCall} {k : String}
    (h : ((t.after reading c).peers k).isSome = true) :
    (t.peers k).isSome = true ∨ reading.key k = true := by
  cases c with
  | removePeer publicKey =>
    simp only [after, remove] at h
    split_ifs at h with hkey
    · by_cases hk : k = publicKey
      · exact .inr (hk ▸ hkey)
      · exact .inl (by simpa [hk] using h)
    · exact .inl h
  | addPeer publicKey allowedIps =>
    simp only [after] at h
    cases hlisted : reading.listed allowedIps with
    | none =>
      rw [hlisted] at h
      exact .inl h
    | some allowed =>
      rw [hlisted] at h
      dsimp only at h
      split_ifs at h with hkey
      · by_cases hk : k = publicKey
        · exact .inr (hk ▸ hkey)
        · rw [peers_set_of_ne hk, Option.isSome_map] at h
          exact .inl h
      · exact .inl h

theorem Agrees.possible (h : Agrees reading st t)
    (hkeys : ∀ k, (t.peers k).isSome = true → reading.key k = true) : Possible reading st := by
  have hpeer : ∀ p ∈ st.peers, ∃ v, t.peers p.publicKey = some v := fun p hp =>
    Option.isSome_iff_exists.1 ((h.isSome_iff _).2 ⟨p, hp, rfl⟩)
  refine ⟨fun p hp => hkeys _ ((h.isSome_iff _).2 ⟨p, hp, rfl⟩), fun p hp => ?_, ?_⟩
  · obtain ⟨v, hv⟩ := hpeer p hp
    rw [h.allowed p hp v hv]
    rfl
  · intro p hp q hq hne x hx y hy
    obtain ⟨v, hv⟩ := hpeer p hp
    obtain ⟨w, hw⟩ := hpeer q hq
    cases (h.allowed p hp v hv).symm.trans hx
    cases (h.allowed q hq w hw).symm.trans hy
    exact t.disjoint hv hw hne

theorem WGInterface.mem_removePeer {publicKey : String} {p : WGPeer} :
    p ∈ (st.removePeer publicKey).peers ↔ p ∈ st.peers ∧ p.publicKey ≠ publicKey := by
  simp [removePeer]

theorem WGInterface.mem_addPeer {p q : WGPeer} :
    q ∈ (st.addPeer p).peers ↔ q = p ∨ q ∈ st.peers ∧ q.publicKey ≠ p.publicKey := by
  constructor
  · intro h
    by_cases hkey : q.publicKey = p.publicKey
    · exact .inl ((st.addPeer p).eq_of_key h (mem_putPeer_self p _) hkey)
    · exact (mem_of_mem_putPeer h).imp_right (⟨·, hkey⟩)
  · rintro (rfl | ⟨hq, hne⟩)
    · exact mem_putPeer_self _ _
    · exact mem_putPeer_of_ne hq hne

/-- **One call**: the two still agree if the mock adapter lists nothing impossible after it. -/
theorem Agrees.after (h : Agrees reading st t)
    (hkeys : ∀ k, (t.peers k).isSome = true → reading.key k = true) (c : PeerCall)
    (hpossible : Possible reading (st.after c)) : Agrees reading (st.after c) (t.after reading c) := by
  cases c with
  | removePeer publicKey =>
    have hpeers : ∀ k, (t.after reading (.removePeer publicKey)).peers k =
        if k = publicKey then none else t.peers k := by
      intro k
      simp only [PeerTable.after]
      split_ifs with hkey hk hk
      · exact if_pos hk
      · exact if_neg hk
      · -- a key that is none has no peer to take out
        subst hk
        by_contra hsome
        exact hkey (hkeys k (Option.isSome_iff_ne_none.2 hsome))
      · rfl
    refine ⟨fun k => ?_, fun p hp v hv => ?_⟩
    · rw [hpeers]
      constructor
      · intro hk
        have hne : k ≠ publicKey := by
          rintro rfl
          rw [if_pos rfl] at hk
          cases hk
        rw [if_neg hne] at hk
        obtain ⟨p, hp, rfl⟩ := (h.isSome_iff k).1 hk
        exact ⟨p, WGInterface.mem_removePeer.2 ⟨hp, hne⟩, rfl⟩
      · rintro ⟨p, hp, rfl⟩
        obtain ⟨hp, hne⟩ := WGInterface.mem_removePeer.1 hp
        rw [if_neg hne]
        exact (h.isSome_iff _).2 ⟨p, hp, rfl⟩
    · obtain ⟨hp, hne⟩ := WGInterface.mem_removePeer.1 hp
      rw [hpeers, if_neg hne] at hv
      exact h.allowed p hp v hv
  | addPeer publicKey allowedIps =>
    have hnew : ({ publicKey, allowedIps } : WGPeer) ∈ (st.after (.addPeer publicKey allowedIps)).peers :=
      mem_putPeer_self _ _
    obtain ⟨allowed, hlisted⟩ := Option.isSome_iff_exists.1 (hpossible.listed _ hnew)
    have hafter : t.after reading (.addPeer publicKey allowedIps) =
        t.set ⟨publicKey, allowed, none⟩ := by
      simp only [PeerTable.after]
      rw [show reading.listed allowedIps = some allowed from hlisted]
      exact if_pos (hpossible.key _ hnew)
    rw [hafter]
    refine ⟨fun k => ?_, fun p hp v hv => ?_⟩
    · by_cases hk : k = publicKey
      · subst hk
        rw [PeerTable.peers_set_self]
        exact iff_of_true rfl ⟨_, hnew, rfl⟩
      · rw [PeerTable.peers_set_of_ne hk, Option.isSome_map, h.isSome_iff]
        constructor
        · rintro ⟨p, hp, rfl⟩
          exact ⟨p, WGInterface.mem_addPeer.2 (.inr ⟨hp, hk⟩), rfl⟩
        · rintro ⟨p, hp, rfl⟩
          rcases WGInterface.mem_addPeer.1 hp with rfl | ⟨hp, -⟩
          · exact absurd rfl hk
          · exact ⟨p, hp, rfl⟩
    · rcases WGInterface.mem_addPeer.1 hp with rfl | ⟨hold, hne⟩
      · rw [PeerTable.peers_set_self] at hv
        cases hv
        exact hlisted
      · rw [PeerTable.peers_set_of_ne hne] at hv
        obtain ⟨w, hw, rfl⟩ := Option.map_eq_some_iff.1 hv
        have hwas := h.allowed p hold w hw
        -- the new peer takes nothing from this one
        have hdisjoint : Disjoint w.allowed allowed :=
          hpossible.disjoint p hp _ hnew hne _ hwas _ hlisted
        rw [hwas, hdisjoint.sdiff_eq_left]

/-! ### Runs of calls -/

variable {a : WgCliAdapter σ} {interface : String} {view : σ → Option (PeerTable String P E)}

theorem WgMockAdapter.perform_eq {m : WgMockAdapter}
    (hm : m.interfaces.get? interface = some st) (c : PeerCall) :
    (adapter.perform interface m c).interfaces.get? interface = some (st.after c) := by
  cases c with
  | removePeer publicKey => exact get?_removePeer hm publicKey
  | addPeer publicKey allowedIps => exact get?_addPeer hm publicKey allowedIps

/-- A refused key leaves the peers as they are, which is what `wg` would have done. -/
theorem WgCliAdapter.view_perform (hsets : a.program.Sets reading interface view) (s : σ)
    (c : PeerCall) :
    view (a.adapter.perform interface s c) = (view s).map (·.after reading c) := by
  have hrefused : ∀ {publicKey}, validateWireguardKey publicKey = false →
      reading.key publicKey = false := fun hvalid => by
    by_contra hkey
    rw [reading.valid_of_key (Bool.eq_true_of_not_eq_false hkey)] at hvalid
    cases hvalid
  cases c with
  | removePeer publicKey =>
    cases hvalid : validateWireguardKey publicKey with
    | false =>
      have hsame : (a.adapter.perform interface s (.removePeer publicKey)) = s := by
        simp [WireGuardAdapter.perform, adapter, removePeer, setPeer, hvalid]
      rw [hsame]
      simp [PeerTable.after, hrefused hvalid]
    | true =>
      rw [← hsets.remove]
      simp [WireGuardAdapter.perform, adapter, removePeer, setPeer, runSet, hvalid]
  | addPeer publicKey allowedIps =>
    cases hvalid : validateWireguardKey publicKey with
    | false =>
      have hsame : (a.adapter.perform interface s (.addPeer publicKey allowedIps)) = s := by
        simp [WireGuardAdapter.perform, adapter, addPeer, setPeer, hvalid]
      rw [hsame]
      cases hlisted : reading.listed allowedIps <;>
        simp [PeerTable.after, hrefused hvalid, hlisted]
    | true =>
      rw [← hsets.add]
      simp [WireGuardAdapter.perform, adapter, addPeer, setPeer, runSet, optionArgs, hvalid]

/-- The mock adapter and the host have the interface, and agree on it. -/
def AgreeOn (reading : SetReading P) (interface : String)
    (view : σ → Option (PeerTable String P E)) (m : WgMockAdapter) (s : σ) : Prop :=
  ∃ st t, m.interfaces.get? interface = some st ∧ view s = some t ∧ Agrees reading st t

/-- **The mock adapter agrees with the program** throughout a run of calls exactly if it lists nothing
on the way that an interface cannot have. -/
theorem mock_agrees_iff (hsets : a.program.Sets reading interface view) {m : WgMockAdapter} {s : σ}
    (hstart : AgreeOn reading interface view m s) (calls : List PeerCall) :
    (∀ pre, pre <+: calls → AgreeOn reading interface view
      (run (WgMockAdapter.adapter.perform interface) m pre)
      (run (a.adapter.perform interface) s pre)) ↔
    ∀ pre, pre <+: calls → ∀ st ∈
      (run (WgMockAdapter.adapter.perform interface) m pre).interfaces.get? interface,
        Possible reading st := by
  constructor
  · intro hagree pre hpre st' hst'
    obtain ⟨st, t, hst, hview, h⟩ := hagree pre hpre
    cases hst.symm.trans hst'
    exact h.possible fun k hk => hsets.key_of_peer hview hk
  · intro hpossible pre
    induction pre using List.reverseRecOn with
    | nil => exact fun _ => hstart
    | append_singleton pre c ih =>
      intro hpre
      obtain ⟨st, t, hst, hview, h⟩ := ih ((List.prefix_append _ _).trans hpre)
      have hafter : (run (WgMockAdapter.adapter.perform interface) m (pre ++ [c])).interfaces.get?
          interface = some (st.after c) := by
        rw [run_concat]
        exact WgMockAdapter.perform_eq hst c
      refine ⟨st.after c, t.after reading c, hafter, ?_,
        h.after (fun k hk => hsets.key_of_peer hview hk) c (hpossible _ hpre _ hafter)⟩
      rw [run_concat, WgCliAdapter.view_perform hsets, hview]
      rfl

end

/-! ### A prefix with two peers -/

/-- Keys are read as `wg` prints them, and addresses are not looked at any further. -/
def plainReading : SetReading String where
  key k := isPeerKey k.toList
  allowedIps text := some {p | p ∈ splitText ',' text}
  valid_of_key h := validateWireguardKey_iff.2 ⟨_, .inl (isPeerKey_iff.1 h), .inl rfl⟩

/-- An interface whose peers have keys. -/
def KeyedTable : Type :=
  {t : PeerTable String String Unit // ∀ k, (t.peers k).isSome = true → plainReading.key k = true}

theorem key_of_after {t : PeerTable String String Unit}
    (h : ∀ k, (t.peers k).isSome = true → plainReading.key k = true) (c : PeerCall) (k : String)
    (hk : ((t.after plainReading c).peers k).isSome = true) : plainReading.key k = true :=
  (PeerTable.isSome_after hk).elim (h k) id

/-- `wg set` on that interface. -/
def keyedProgram : WgProgram KeyedTable where
  read _ _ := .ok { returnCode := 1 }
  write t
    | [_, "peer", publicKey, "allowed-ips", allowedIps] =>
      (⟨t.1.after plainReading (.addPeer publicKey [allowedIps]), key_of_after t.2 _⟩,
        .ok { returnCode := 0 })
    | [_, "peer", publicKey, "remove"] =>
      (⟨t.1.after plainReading (.removePeer publicKey), key_of_after t.2 _⟩,
        .ok { returnCode := 0 })
    | _ => (t, .ok { returnCode := 1 })

theorem keyedProgram_sets : keyedProgram.Sets plainReading "wg0" fun t => some t.1 where
  add t publicKey allowedIps := by
    show some (t.1.after plainReading (.addPeer publicKey [",".intercalate allowedIps])) = _
    simp [PeerTable.after, SetReading.listed, String.intercalate_singleton]
  remove _ _ := rfl
  key_of_peer := by
    rintro t _ k ⟨⟩ hk
    exact t.2 k hk

/-- The key of a device. -/
def deviceKey (c : Char) : String := String.ofList (List.replicate 43 c ++ ['='])

/-- Two devices with one address. -/
def sharedCalls : List PeerCall :=
  [.addPeer (deviceKey 'a') ["10.0.0.2/32"], .addPeer (deviceKey 'b') ["10.0.0.2/32"]]

/-- The mock adapter's interface, without peers. -/
def emptyInterface : WGInterface := { name := "wg0", peers := [], keys_nodup := List.nodup_nil }

/-- The mock adapter with that interface. -/
def emptyMock : WgMockAdapter where
  interfaces := Dict.empty.set "wg0" emptyInterface

/-- The mock adapter lists the address twice, the interface has it once. -/
theorem mock_agrees_iff_shared : ¬ ∀ pre, pre <+: sharedCalls →
    AgreeOn plainReading "wg0" (fun t : KeyedTable => some t.1)
      (run (WgMockAdapter.adapter.perform "wg0") emptyMock pre)
      (run ((WgCliAdapter.mk "wg" keyedProgram).adapter.perform "wg0") ⟨.empty, nofun⟩ pre) := by
  have hstart : AgreeOn plainReading "wg0" (fun t : KeyedTable => some t.1) emptyMock
      ⟨.empty, nofun⟩ :=
    ⟨emptyInterface, .empty, Dict.get?_set_self _ _ _, rfl, by simp [PeerTable.empty, emptyInterface],
      nofun⟩
  rw [mock_agrees_iff (a := ⟨"wg", keyedProgram⟩) keyedProgram_sets hstart]
  intro h
  have hboth := (h sharedCalls (List.prefix_refl _) _ rfl).disjoint
    { publicKey := deviceKey 'a', allowedIps := ["10.0.0.2/32"] } (by decide +kernel)
    { publicKey := deviceKey 'b', allowedIps := ["10.0.0.2/32"] } (by decide +kernel)
    (by decide +kernel) _ rfl _ rfl
  have hmem : "10.0.0.2/32" ∈ {p | p ∈ splitText ',' (",".intercalate ["10.0.0.2/32"])} := by
    decide +kernel
  exact Set.disjoint_left.1 hboth hmem hmem

end Midscale
