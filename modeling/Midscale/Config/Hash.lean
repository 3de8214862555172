import Midscale.Config.V2

/-!
# What the hash of a configuration covers

`compute_config_hash` hashes the text of the configuration with sorted keys.  The text determines
every field that is hashed, so two configurations have the same text exactly if they agree on the
interface, the peers with their candidates, the routes, the exit node and the versions.

* `Json.sortKeys_obj_inj` : objects with the same keys are compared field by field.
* `PeerInfo.json_injective` : no two peers are written alike.
* `configText_eq_iff` : **what the text of a configuration determines.**
-/

namespace Midscale

/-! ### Comparing values with sorted keys -/

theorem eq_of_perm_of_keys {κ α : Type*} {l l' : List (κ × α)} (hperm : l.Perm l')
    (hkeys : l.map Prod.fst = l'.map Prod.fst) (hnodup : (l.map Prod.fst).Nodup) : l = l' := by
  induction l generalizing l' with
  | nil => exact hperm.nil_eq
  | cons e l ih =>
    cases l' with
    | nil => cases hkeys
    | cons e' l' =>
      obtain ⟨hhead, htail⟩ := List.cons.inj hkeys
      obtain ⟨hnew, hrest⟩ := List.nodup_cons.1 hnodup
      obtain rfl : e = e' := by
        rcases List.mem_cons.1 (hperm.subset List.mem_cons_self) with h | h
        · exact h
        · exact absurd (htail ▸ List.mem_map_of_mem (f := Prod.fst) h) hnew
      rw [ih (List.Perm.cons_inv hperm) htail hrest]

namespace Json

/-- **Objects with the same keys are compared field by field.** -/
theorem sortKeys_obj_inj {fs fs' : List (String × Json)} {keys : List String}
    (h : (obj fs).sortKeys = (obj fs').sortKeys) (hkeys : fs.map Prod.fst = keys)
    (hkeys' : fs'.map Prod.fst = keys) (hnodup : keys.Nodup) :
    fs.map (fun f => (f.1, f.2.sortKeys)) = fs'.map fun f => (f.1, f.2.sortKeys) := by
  rw [sortKeys, sortKeys, obj.injEq, sortFields_eq_map, sortFields_eq_map] at h
  have hfst : ∀ fs : List (String × Json),
      (fs.map fun f => (f.1, f.2.sortKeys)).map Prod.fst = fs.map Prod.fst := fun fs => by
    rw [List.map_map]
    rfl
  refine eq_of_perm_of_keys ?_ (by rw [hfst, hfst, hkeys, hkeys']) (by rwa [hfst, hkeys])
  have hperm := List.perm_insertionSort
    (fun f g => f.1.toList ≤ g.1.toList) (fs'.map fun f => (f.1, f.2.sortKeys))
  rw [← h] at hperm
  exact (List.perm_insertionSort _ _).symm.trans hperm

theorem sortKeys_str_inj {s s' : String} : (str s).sortKeys = (str s').sortKeys ↔ s = s' := by
  simp [sortKeys]

theorem sortKeys_int_inj {n n' : ℤ} : (int n).sortKeys = (int n').sortKeys ↔ n = n' := by
  simp [sortKeys]

theorem sortKeys_bool_inj {b b' : Bool} : (bool b).sortKeys = (bool b').sortKeys ↔ b = b' := by
  simp [sortKeys]

section

variable {α : Type} {f : α → Json} (hf : Function.Injective fun a => (f a).sortKeys)
include hf

theorem sortKeys_ofList_inj {l l' : List α} :
    (ofList f l).sortKeys = (ofList f l').sortKeys ↔ l = l' := by
  rw [ofList, ofList, sortKeys, sortKeys, arr.injEq, sortElems_eq_map, sortElems_eq_map,
    List.map_map, List.map_map]
  exact (List.map_injective_iff.2 hf).eq_iff

theorem sortKeys_ofOption_inj (hnull : ∀ a, (f a).sortKeys ≠ null) {o o' : Option α} :
    (ofOption f o).sortKeys = (ofOption f o').sortKeys ↔ o = o' := by
  have hnone : (null : Json).sortKeys = null := by rw [sortKeys]
  cases o with
  | none =>
    cases o' with
    | none => simp
    | some a => simpa [ofOption, hnone] using (hnull a).symm
  | some a =>
    cases o' with
    | none => simpa [ofOption, hnone] using hnull a
    | some a' => simpa [ofOption] using hf.eq_iff

end

theorem str_sortKeys_injective : Function.Injective fun s => (str s).sortKeys :=
  fun _ _ => sortKeys_str_inj.1

theorem int_sortKeys_injective : Function.Injective fun n => (int n).sortKeys :=
  fun _ _ => sortKeys_int_inj.1

theorem nat_sortKeys_injective : Function.Injective fun n : ℕ => (int n).sortKeys :=
  fun _ _ h => Int.ofNat.inj (sortKeys_int_inj.1 h)

end Json

/-! ### The parts of a configuration -/

section

open Json

theorem optionStr_inj {o o' : Option String} :
    (ofOption str o).sortKeys = (ofOption str o').sortKeys ↔ o = o' :=
  sortKeys_ofOption_inj str_sortKeys_injective fun s => by simp [sortKeys]

theorem optionInt_inj {o o' : Option ℤ} :
    (ofOption int o).sortKeys = (ofOption int o').sortKeys ↔ o = o' :=
  sortKeys_ofOption_inj int_sortKeys_injective fun n => by simp [sortKeys]

theorem optionNat_inj {o o' : Option ℕ} : (ofOption (fun n => int (n : ℕ)) o).sortKeys =
    (ofOption (fun n => int (n : ℕ)) o').sortKeys ↔ o = o' :=
  sortKeys_ofOption_inj nat_sortKeys_injective fun n => by simp [sortKeys]

theorem listStr_inj {l l' : List String} :
    (ofList str l).sortKeys = (ofList str l').sortKeys ↔ l = l' :=
  sortKeys_ofList_inj str_sortKeys_injective

/-- No two candidates are written alike. -/
theorem EndpointCandidate.json_injective :
    Function.Injective fun c : EndpointCandidate => c.json.sortKeys := by
  intro c c' h
  have hfields := sortKeys_obj_inj h rfl rfl (by simp)
  simp only [List.map_cons, List.map_nil, List.cons.injEq, Prod.mk.injEq, true_and, and_true,
    sortKeys_str_inj, sortKeys_int_inj, sortKeys_bool_inj, optionStr_inj, optionInt_inj] at hfields
  obtain ⟨h₁, h₂, h₃, h₄, h₅, h₆, h₇, h₈, h₉, h₁₀, h₁₁⟩ := hfields
  cases c
  cases c'
  simp only [EndpointCandidate.mk.injEq]
  exact ⟨h₁, h₂, h₃, h₄, h₅, h₆, h₇, h₈, h₉, h₁₀, h₁₁⟩

theorem RelayCandidateInfo.json_injective :
    Function.Injective fun c : RelayCandidateInfo => c.json.sortKeys := by
  intro c c' h
  have hfields := sortKeys_obj_inj h rfl rfl (by simp)
  simp only [List.map_cons, List.map_nil, List.cons.injEq, Prod.mk.injEq, true_and, and_true,
    sortKeys_str_inj, sortKeys_int_inj, sortKeys_bool_inj] at hfields
  obtain ⟨h₁, h₂, h₃, h₄, h₅⟩ := hfields
  cases c
  cases c'
  simp only [RelayCandidateInfo.mk.injEq]
  exact ⟨h₁, h₂, h₃, h₄, h₅⟩

/-- No two peers are written alike. -/
theorem PeerInfo.json_injective : Function.Injective fun p : PeerInfo => p.json.sortKeys := by
  intro p p' h
  have hcandidates : ∀ {l l' : List EndpointCandidate}, (ofList EndpointCandidate.json l).sortKeys =
      (ofList EndpointCandidate.json l').sortKeys ↔ l = l' :=
    sortKeys_ofList_inj EndpointCandidate.json_injective
  have hrelays : ∀ {o o' : Option (List RelayCandidateInfo)},
      (ofOption (ofList RelayCandidateInfo.json) o).sortKeys =
        (ofOption (ofList RelayCandidateInfo.json) o').sortKeys ↔ o = o' :=
    sortKeys_ofOption_inj (fun _ _ => (sortKeys_ofList_inj RelayCandidateInfo.json_injective).1)
      fun l => by simp [ofList, sortKeys]
  have hfields := sortKeys_obj_inj h rfl rfl (by simp)
  simp only [List.map_cons, List.map_nil, List.cons.injEq, Prod.mk.injEq, true_and, and_true,
    sortKeys_str_inj, sortKeys_bool_inj, optionStr_inj, optionInt_inj, optionNat_inj, listStr_inj,
    hcandidates, hrelays] at hfields
  obtain ⟨h₁, h₂, h₃, h₄, h₅, h₆, h₇, h₈, h₉⟩ := hfields
  cases p
  cases p'
  simp only [PeerInfo.mk.injEq]
  exact ⟨h₁, h₂, h₃, h₄, h₅, h₆, h₇, h₈, h₉⟩

theorem InterfaceInfo.json_injective :
    Function.Injective fun i : InterfaceInfo => i.json.sortKeys := by
  intro i i' h
  have hdns : ∀ {o o' : Option (List String)}, (ofOption (ofList str) o).sortKeys =
      (ofOption (ofList str) o').sortKeys ↔ o = o' :=
    sortKeys_ofOption_inj (fun _ _ => listStr_inj.1) fun l => by simp [ofList, sortKeys]
  have hfields := sortKeys_obj_inj h rfl rfl (by simp)
  simp only [List.map_cons, List.map_nil, List.cons.injEq, Prod.mk.injEq, true_and, and_true,
    sortKeys_str_inj, optionNat_inj, hdns] at hfields
  obtain ⟨h₁, h₂, h₃⟩ := hfields
  cases i
  cases i'
  simp only [InterfaceInfo.mk.injEq]
  exact ⟨h₁, h₂, h₃⟩

/-- The text that is hashed. -/
def DeviceConfigV2Response.configText (r : DeviceConfigV2Response) : String :=
  r.configData.dumpsSorted

/-- **What the text of a configuration determines.** -/
theorem configText_eq_iff {r r' : DeviceConfigV2Response} : r.configText = r'.configText ↔
    r.interface = r'.interface ∧ r.peers = r'.peers ∧ r.routes = r'.routes ∧
      r.exitNode = r'.exitNode ∧ r.version = r'.version ∧ r.configVersion = r'.configVersion ∧
        r.schemaVersion = r'.schemaVersion := by
  have hpeers : ∀ {l l' : List PeerInfo}, (ofList PeerInfo.json l).sortKeys =
      (ofList PeerInfo.json l').sortKeys ↔ l = l' := sortKeys_ofList_inj PeerInfo.json_injective
  have hinterface : ∀ {i i' : InterfaceInfo}, i.json.sortKeys = i'.json.sortKeys ↔ i = i' :=
    InterfaceInfo.json_injective.eq_iff
  constructor
  · intro h
    have hfields := sortKeys_obj_inj (dumpsSorted_inj.1 h) rfl rfl (by simp)
    simpa only [List.map_cons, List.map_nil, List.cons.injEq, Prod.mk.injEq, true_and, and_true,
      sortKeys_str_inj, optionStr_inj, listStr_inj, hpeers, hinterface] using hfields
  · rintro ⟨h₁, h₂, h₃, h₄, h₅, h₆, h₇⟩
    rw [DeviceConfigV2Response.configText, DeviceConfigV2Response.configText,
      DeviceConfigV2Response.configData, DeviceConfigV2Response.configData, h₁, h₂, h₃, h₄, h₅, h₆, h₇]

end

/-- The same error, or a response with the same hash. -/
def SameHash (x x' : Except ApiError DeviceConfigV2Response) : Prop :=
  x'.map (·.hash) = x.map (·.hash)

/-- SHA-256 does not collide on the texts that the two executions hash. -/
def Security.NoCollision (security : Security) (x x' : Except ApiError DeviceConfigV2Response) :
    Prop :=
  ∀ r r', x = .ok r → x' = .ok r' → security.sha256 r'.configText = security.sha256 r.configText →
    r'.configText = r.configText

end Midscale
