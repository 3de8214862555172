import Midscale.Config.Freshness

/-!
# What a hash tells of two configurations

A daemon skips a configuration whose hash it has applied.  The hash covers all that
`build_config_v2` makes: two responses have the same hash exactly if they have the same interface,
peers, routes and exit node.  `sort_keys` makes the hash a function of the dictionaries themselves.

* `Json.Reordered.sortKeys_eq` : the order in which keys were inserted is forgotten.
* `buildConfigV2_hashed` : what is returned is what was hashed.
* `configHash_eq_iff` : **equal hashes are equal configurations.**
-/

namespace Midscale

/-! ### The order of keys -/

/-- The same value, but for the order in which the keys of its dictionaries were inserted. -/
inductive Json.Reordered : Json → Json → Prop
  | refl (j : Json) : Reordered j j
  | keys {fs fs' : List (String × Json)} (nodup : (fs.map Prod.fst).Nodup) (perm : fs.Perm fs') :
    Reordered (.obj fs) (.obj fs')
  | value {j j' : Json} (fs fs' : List (String × Json)) (key : String) (h : Reordered j j') :
    Reordered (.obj (fs ++ (key, j) :: fs')) (.obj (fs ++ (key, j') :: fs'))
  | elem {j j' : Json} (xs xs' : List Json) (h : Reordered j j') :
    Reordered (.arr (xs ++ j :: xs')) (.arr (xs ++ j' :: xs'))
  | trans {j j' j'' : Json} (h : Reordered j j') (h' : Reordered j' j'') : Reordered j j''

namespace Json

theorem sortFields_eq_of_perm {fs fs' : List (String × Json)} (hnodup : (fs.map Prod.fst).Nodup)
    (hperm : fs.Perm fs') :
    fs.insertionSort (fun f g => f.1.toList ≤ g.1.toList) =
      fs'.insertionSort fun f g => f.1.toList ≤ g.1.toList := by
  have hsorted : ∀ l : List (String × Json),
      (l.insertionSort fun f g => f.1.toList ≤ g.1.toList).Pairwise fun f g =>
        f.1.toList ≤ g.1.toList := by
    intro l
    have : Std.Total fun f g : String × Json => f.1.toList ≤ g.1.toList :=
      ⟨fun f g => le_total f.1.toList g.1.toList⟩
    have : IsTrans (String × Json) fun f g => f.1.toList ≤ g.1.toList :=
      ⟨fun _ _ _ => le_trans⟩
    exact List.pairwise_insertionSort _ l
  refine List.Perm.eq_of_pairwise ?_ (hsorted fs) (hsorted fs')
    ((List.perm_insertionSort _ _).trans (hperm.trans (List.perm_insertionSort _ _).symm))
  intro f g hf hg hfg hgf
  have hkey : f.1 = g.1 := String.toList_inj.1 (le_antisymm hfg hgf)
  rw [List.mem_insertionSort] at hf hg
  exact List.inj_on_of_nodup_map hnodup hf (hperm.mem_iff.2 hg) hkey

/-- **The order in which keys were inserted is forgotten** once they are sorted. -/
theorem Reordered.sortKeys_eq {j j' : Json} (h : j.Reordered j') : j.sortKeys = j'.sortKeys := by
  induction h with
  | refl j => rfl
  | @keys fs fs' hnodup hperm =>
    have hkeys : (fs.map fun f => (f.1, f.2.sortKeys)).map Prod.fst = fs.map Prod.fst := by
      rw [List.map_map]
      rfl
    rw [sortKeys, sortKeys, sortFields_eq_map, sortFields_eq_map,
      sortFields_eq_of_perm (by rwa [hkeys]) (hperm.map _)]
  | value fs fs' key _ ih =>
    rw [sortKeys, sortKeys, sortFields_eq_map, sortFields_eq_map, List.map_append, List.map_cons,
      List.map_append, List.map_cons, ih]
  | elem xs xs' _ ih =>
    rw [sortKeys, sortKeys, sortElems_eq_map, sortElems_eq_map, List.map_append, List.map_cons,
      List.map_append, List.map_cons, ih]
  | trans _ _ ih ih' => exact ih.trans ih'

end Json

theorem Security.computeConfigHash_reordered (security : Security) {j j' : Json}
    (h : j.Reordered j') : security.computeConfigHash j = security.computeConfigHash j' := by
  rw [computeConfigHash, computeConfigHash, Json.dumpsSorted_inj.2 h.sortKeys_eq]

/-! ### The hash of a response -/

/-- The response carries the hash of its own content, and fixed versions. -/
theorem buildConfigV2_hashed {env : Env} {db : Database} {d : Device}
    {r : DeviceConfigV2Response} (h : buildConfigV2 env db d = .ok r) :
    r.hash = env.security.computeConfigHash r.configData ∧
      r.version = "2" ∧ r.configVersion = "2" ∧ r.schemaVersion = "1" := by
  simp only [buildConfigV2, bind_eq_ok, Except.ok.injEq] at h
  obtain ⟨network, -, current, -, t, -, net, -, rfl⟩ := h
  exact ⟨rfl, rfl, rfl, rfl⟩

section

variable {env env' : Env} {db db' : Database} {d d' : Device} {r r' : DeviceConfigV2Response}

/-- **Equal hashes are equal configurations**: two responses have the same hash exactly if they have
the same interface, peers, routes and exit node, in whatever order the keys of what was hashed were
inserted. -/
theorem configHash_eq_iff (hsecurity : env'.security = env.security)
    (h : buildConfigV2 env db d = .ok r) (h' : buildConfigV2 env' db' d' = .ok r')
    (hsha : env.security.NoCollision (.ok r) (.ok r')) :
    (r'.hash = r.hash ↔ r'.interface = r.interface ∧ r'.peers = r.peers ∧ r'.routes = r.routes ∧
      r'.exitNode = r.exitNode) ∧
    ∀ j : Json, j.Reordered r.configData → env.security.computeConfigHash j = r.hash := by
  obtain ⟨hhash, hversion, hconfig, hschema⟩ := buildConfigV2_hashed h
  obtain ⟨hhash', hversion', hconfig', hschema'⟩ := buildConfigV2_hashed h'
  rw [hsecurity] at hhash'
  constructor
  · constructor
    · intro heq
      rw [hhash, hhash'] at heq
      obtain ⟨hinterface, hpeers, hroutes, hexit, -⟩ := configText_eq_iff.1 (hsha r r' rfl rfl heq)
      exact ⟨hinterface, hpeers, hroutes, hexit⟩
    · rintro ⟨hinterface, hpeers, hroutes, hexit⟩
      have htext : r'.configText = r.configText :=
        configText_eq_iff.2 ⟨hinterface, hpeers, hroutes, hexit, hversion'.trans hversion.symm,
          hconfig'.trans hconfig.symm, hschema'.trans hschema.symm⟩
      rw [hhash, hhash']
      exact congrArg env.security.sha256 htext
  · intro j hj
    rw [hhash]
    exact env.security.computeConfigHash_reordered hj

end

/-- The laptop's configurations before and after the phone reports its endpoint again. -/
theorem configHash_eq_iff_reported : ∃ r r',
    buildConfigV2 plainEnv (meshOffice 0 0) meshLaptop = .ok r ∧
      buildConfigV2 plainEnv (meshOffice 1000000 0) meshLaptop = .ok r' ∧
      ((r'.hash = r.hash ↔ r'.interface = r.interface ∧ r'.peers = r.peers ∧ r'.routes = r.routes ∧
        r'.exitNode = r.exitNode) ∧
      ∀ j : Json, j.Reordered r.configData → plainEnv.security.computeConfigHash j = r.hash) :=
  ⟨_, _, (meshOffice_subject 0).build, (meshOffice_subject 1000000).build,
    configHash_eq_iff rfl (meshOffice_subject 0).build (meshOffice_subject 1000000).build
      (plainSecurity_noCollision _ _)⟩

end Midscale
