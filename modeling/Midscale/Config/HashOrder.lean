import Midscale.Config.RowOrder

/-!
# The hash and the order of rows

Where something is listed in the order in which a query returns it, two executions over the same
contents may hash differently.  An order is found for each thing that it may decide: which device
comes first or last, which is the hub, which endpoint comes first.

* `Database.peersOf_eq_iff` : when the peers in a mesh or a hybrid network are the same in any
  order.
* `Database.starPeersOf_eq_iff` : when those of a star are.
* `hash_of_content_iff` : **the hash depends on the contents alone exactly if no order reaches the
  configuration.**
* `routes_rehashed` : two routes suffice for two hashes.
-/

namespace Midscale

/-! ### Meshes: orders that are seen -/

section

variable {settings : Settings} {t : TopologyType} {subnet : String} {db : Database} {d : Device}

theorem Database.exists_shownFor {networkId : Uuid} {y : Device}
    (hy : y ∈ db.plannedDevices networkId) {eps : List DeviceEndpoint}
    (heps : eps.Perm (db.activeEndpoints y.id)) : ∃ db', db.SameRows db' ∧
      db'.shownFor networkId y.state.publicKey = shownCandidates (sortEndpoints eps) := by
  obtain ⟨db', hrows, hplanned, hactive⟩ := db.exists_order (perm_concat_erase hy) heps
  have hlast : db'.lastWithKey networkId y.state.publicKey = some y := by
    rw [lastWithKey, hplanned, find?_reverse_concat, if_pos (decide_eq_true rfl)]
  refine ⟨db', hrows, ?_⟩
  rw [shownFor, hlast, Option.map_some, Option.getD_some,
    endpointRows_eq ((hrows.plannedDevices networkId).symm.subset hy), hactive]

theorem Database.exists_last_device {networkId : Uuid} {y : Device}
    (hy : y ∈ db.plannedDevices networkId) : ∃ db', db.SameRows db' ∧
      db'.plannedDevices networkId = (db.plannedDevices networkId).erase y ++ [y] := by
  obtain ⟨db', hrows, hplanned, -⟩ := db.exists_order (perm_concat_erase hy)
    (.refl (db.activeEndpoints y.id))
  exact ⟨db', hrows, hplanned⟩

theorem Database.exists_last_other {x : Device} (hx : x ∈ db.others d) :
    ∃ db', db.SameRows db' ∧ (db'.others d).getLast? = some x := by
  obtain ⟨hmem, hne⟩ := mem_others.1 hx
  obtain ⟨db', hrows, hplanned⟩ := exists_last_device hmem
  have hkeep : [x].filter (fun y => y.id ≠ d.id) = [x] := by simp [hne]
  exact ⟨db', hrows, by rw [others, hplanned, List.filter_append, hkeep, List.getLast?_concat]⟩

theorem Database.exists_lastHub_eq {networkId : Uuid} {y : Device}
    (hy : y ∈ db.plannedDevices networkId) (hserver : y.name = serverName) :
    ∃ db', db.SameRows db' ∧ db'.lastHub networkId = some y := by
  obtain ⟨db', hrows, hplanned⟩ := exists_last_device hy
  refine ⟨db', hrows, ?_⟩
  rw [lastHub, hplanned, find?_reverse_concat, if_pos (decide_eq_true hserver)]

/-- The lists of entries of the other devices are the same in any order. -/
def Database.EntriesAgree (settings : Settings) (t : TopologyType) (subnet : String)
    (db : Database) (d : Device) : Prop :=
  ∀ db', db.SameRows db' → (db'.others d).map (db'.entryOf settings t subnet d.networkId) =
    (db.others d).map (db.entryOf settings t subnet d.networkId)

namespace Database.EntriesAgree

variable (hagree : db.EntriesAgree settings t subnet d)
include hagree

theorem keys_eq {x x' : Device} (hx : x ∈ db.others d) (hx' : x' ∈ db.others d) :
    x.state.publicKey = x'.state.publicKey := by
  have hlast : ∀ x ∈ db.others d, some x.state.publicKey =
      ((db.others d).map (db.entryOf settings t subnet d.networkId)).getLast?.map
        (·.publicKey) := by
    intro x hx
    obtain ⟨db', hrows, hend⟩ := exists_last_other hx
    rw [← hagree db' hrows, List.getLast?_map, hend]
    simp [entryOf, PeerPlan.withCandidates]
  exact Option.some.inj ((hlast x hx).trans (hlast x' hx').symm)

theorem shownFor_eq {db' : Database} (h : db.SameRows db') {x : Device} (hx : x ∈ db.others d) :
    db'.shownFor d.networkId x.state.publicKey = db.shownFor d.networkId x.state.publicKey := by
  have hhead : ∀ {db' : Database}, db.SameRows db' →
      ((db'.others d).map (db'.entryOf settings t subnet d.networkId)).head?.map
        (·.endpointCandidates) = some (db'.shownFor d.networkId x.state.publicKey) := by
    intro db' h
    cases hothers : db'.others d with
    | nil =>
      have hperm := h.others d
      rw [hothers] at hperm
      exact absurd (hperm.nil_eq ▸ hx) List.not_mem_nil
    | cons z zs =>
      have hz : z ∈ db.others d := (h.others d).subset (hothers ▸ List.mem_cons_self)
      rw [List.map_cons, List.head?_cons, Option.map_some, ← hagree.keys_eq hz hx]
      rfl
  have heq := hhead h
  rw [hagree db' h, hhead (.refl db)] at heq
  exact (Option.some.inj heq).symm

theorem shownCandidates_eq {x y : Device} (hx : x ∈ db.others d)
    (hy : y ∈ db.plannedDevices d.networkId) (hkey : y.state.publicKey = x.state.publicKey)
    {eps : List DeviceEndpoint} (heps : eps.Perm (db.activeEndpoints y.id)) :
    shownCandidates (sortEndpoints eps) = db.shownFor d.networkId x.state.publicKey := by
  obtain ⟨db', hrows, hshown⟩ := exists_shownFor hy heps
  rw [← hshown, hkey, hagree.shownFor_eq hrows hx]

theorem tiesShownAlike {x y : Device} (hx : x ∈ db.others d)
    (hy : y ∈ db.plannedDevices d.networkId) (hkey : y.state.publicKey = x.state.publicKey) :
    db.TiesShownAlike y :=
  tiesShownAlike_of_forall fun _ _ heps heps' =>
    (hagree.shownCandidates_eq hx hy hkey heps').trans
      (hagree.shownCandidates_eq hx hy hkey heps).symm

theorem shownCandidates_rows {x y : Device} (hx : x ∈ db.others d)
    (hy : y ∈ db.plannedDevices d.networkId) (hkey : y.state.publicKey = x.state.publicKey) :
    shownCandidates (db.endpointRows d.networkId y) =
      db.shownFor d.networkId x.state.publicKey := by
  rw [endpointRows_eq hy]
  exact hagree.shownCandidates_eq hx hy hkey (.refl _)

theorem exists_entry (hroutes : db.OnePrefix d.networkId) {x : Device} (hx : x ∈ db.others d)
    {best : Option DeviceEndpoint} (hbest : db.MayBeBest x best) {ds : List Device}
    (hds : ds.Perm (db.plannedDevices d.networkId)) :
    ∃ db', db.SameRows db' ∧ db'.others d = ds.filter (·.id ≠ d.id) ∧
      db'.entryOf settings t subnet d.networkId x =
        (t.peerOf settings subnet x.state (db.prefixesOf d.networkId x)
          (ds.reverse.find? (·.name = serverName) = some x) best).withCandidates settings
            (db.shownFor d.networkId x.state.publicKey) := by
  obtain ⟨eps, heps, hhead⟩ := hbest.exists_order
  obtain ⟨db', hrows, hplanned, hactive⟩ := db.exists_order hds heps
  have hmem := (hrows.plannedDevices d.networkId).symm.subset (mem_others.1 hx).1
  refine ⟨db', hrows, by rw [others, hplanned], ?_⟩
  rw [hrows.entryOf_eq hroutes (hagree.shownFor_eq hrows hx), lastHub, hplanned,
    endpointRows_eq hmem, hactive, hhead]

theorem head?_eq (hroutes : db.OnePrefix d.networkId) {x : Device} (hx : x ∈ db.others d)
    {best : Option DeviceEndpoint} (hbest : db.MayBeBest x best)
    (hhub : db.MayBeHub d.networkId x false) :
    ((db.others d).map (db.entryOf settings t subnet d.networkId)).head? =
      some ((t.peerOf settings subnet x.state (db.prefixesOf d.networkId x) false
        best).withCandidates settings (db.shownFor d.networkId x.state.publicKey)) := by
  obtain ⟨ds, hds, hfirst, hnot⟩ := exists_first hx hhub
  obtain ⟨db', hrows, hothers, hentry⟩ := hagree.exists_entry hroutes hx hbest hds
  rw [← hagree db' hrows, List.head?_map, hothers, hfirst, Option.map_some, hentry,
    decide_eq_false hnot]

theorem getLast?_eq (hd : d ∈ db.plannedDevices d.networkId)
    (hroutes : db.OnePrefix d.networkId) {x : Device} (hx : x ∈ db.others d)
    {best : Option DeviceEndpoint} (hbest : db.MayBeBest x best) (isHub : Bool)
    (hhub : if isHub then x.name = serverName else x.name = serverName → d.name = serverName) :
    ((db.others d).map (db.entryOf settings t subnet d.networkId)).getLast? =
      some ((t.peerOf settings subnet x.state (db.prefixesOf d.networkId x) isHub
        best).withCandidates settings (db.shownFor d.networkId x.state.publicKey)) := by
  obtain ⟨ds, hds, hlast, hdecide⟩ := exists_last hd hx hhub
  obtain ⟨db', hrows, hothers, hentry⟩ := hagree.exists_entry hroutes hx hbest hds
  rw [← hagree db' hrows, List.getLast?_map, hothers, hlast, Option.map_some, hentry, hdecide]

theorem hub_eq_other (hd : d ∈ db.plannedDevices d.networkId)
    (hroutes : db.OnePrefix d.networkId)
    (hcase : d.name = serverName ∨ ∃ u ∈ db.others d, u.name ≠ serverName)
    {x x' : Device} (hx : x ∈ db.others d) (hx' : x' ∈ db.others d)
    (hhub : db.MayBeHub d.networkId x true) (hhub' : db.MayBeHub d.networkId x' false)
    {best best' : Option DeviceEndpoint} (hbest : db.MayBeBest x best)
    (hbest' : db.MayBeBest x' best') :
    (t.peerOf settings subnet x.state (db.prefixesOf d.networkId x) true
      best).withCandidates settings (db.shownFor d.networkId x.state.publicKey) =
    (t.peerOf settings subnet x'.state (db.prefixesOf d.networkId x') false
      best').withCandidates settings (db.shownFor d.networkId x'.state.publicKey) := by
  have hend := hagree.getLast?_eq hd hroutes hx hbest true hhub
  rcases hcase with hname | ⟨u, hu, hname⟩
  · have hend' := hagree.getLast?_eq hd hroutes hx' hbest' false fun _ => hname
    exact Option.some.inj (hend.symm.trans hend')
  · have hu' := (SameRows.refl db).mayBeBest (mem_others.1 hu).1
    have hend' := hagree.getLast?_eq hd hroutes hu hu' false fun hserver => absurd hserver hname
    have hstart := hagree.head?_eq hroutes hu hu' fun hserver => absurd hserver hname
    have hstart' := hagree.head?_eq hroutes hx' hbest' hhub'
    rw [Option.some.inj (hend.symm.trans hend'), Option.some.inj (hstart.symm.trans hstart')]

/-- **The entries that agree in any order are those that no order can change.** -/
theorem orderFree (hd : d ∈ db.plannedDevices d.networkId)
    (hroutes : db.OnePrefix d.networkId) : db.EntriesOrderFree settings t subnet d where
  keys _ hx _ hx' := hagree.keys_eq hx hx'
  ties _ hx _ hy hkey := hagree.tiesShownAlike hx hy hkey
  shown x hx y hy hkey := by
    rw [hagree.shownCandidates_rows hx hy hkey,
      hagree.shownCandidates_rows hx (mem_others.1 hx).1 rfl]
  entries := by
    intro x hx x' hx' isHub isHub' hhub hhub' hcase best best' hbest hbest'
    have hshown' := hagree.shownCandidates_rows hx (mem_others.1 hx').1 (hagree.keys_eq hx' hx)
    rw [hagree.shownCandidates_rows hx' (mem_others.1 hx').1 rfl] at hshown'
    rw [hagree.shownCandidates_rows hx (mem_others.1 hx).1 rfl]
    refine Eq.trans ?_ (congrArg (PeerPlan.withCandidates settings _) hshown')
    cases isHub with
    | false =>
      cases isHub' with
      | false =>
        have hstart := hagree.head?_eq hroutes hx hbest hhub
        exact Option.some.inj (hstart.symm.trans (hagree.head?_eq hroutes hx' hbest' hhub'))
      | true =>
        have hmixed := hcase.resolve_left Bool.false_ne_true
        exact (hagree.hub_eq_other hd hroutes hmixed hx' hx hhub' hhub hbest' hbest).symm
    | true =>
      cases isHub' with
      | false =>
        have hmixed := hcase.resolve_left (Ne.symm Bool.false_ne_true)
        exact hagree.hub_eq_other hd hroutes hmixed hx hx' hhub hhub' hbest hbest'
      | true =>
        have hend := hagree.getLast?_eq hd hroutes hx hbest true hhub
        have hend' := hagree.getLast?_eq hd hroutes hx' hbest' true hhub'
        exact Option.some.inj (hend.symm.trans hend')

end Database.EntriesAgree

/-- The entries of a device for itself that agree in any order are those that no order can
change. -/
theorem Database.ownEntryOrderFree_of_forall (hd : d ∈ db.plannedDevices d.networkId)
    {f : List EndpointCandidate → PeerInfo} (hf : Function.Injective f)
    (hagree : ∀ db', db.SameRows db' →
      (if d.HasOwnEntry db' then [f (db'.shownFor d.networkId d.state.publicKey)] else []) =
        if d.HasOwnEntry db then [f (db.shownFor d.networkId d.state.publicKey)] else []) :
    db.OwnEntryOrderFree d := by
  intro hexit hkey hnew
  have hown : ∀ {db'}, db.SameRows db' →
      (d.HasOwnEntry db' ↔ db'.lastHub d.networkId ≠ some d) := by
    intro db' h
    rw [Device.hasOwnEntry_iff ((h.plannedDevices d.networkId).symm.subset hd)]
    constructor
    · exact fun hown => hown.2.2.1
    · exact fun hhub => ⟨hexit, hkey, hhub, fun x hx => hnew x ((h.others d).subset hx)⟩
  split_ifs with hname
  · intro x hx hserver
    obtain ⟨hmem, hne⟩ := mem_others.1 hx
    -- the device is the hub in one order, and the other one in another
    obtain ⟨db₁, hrows₁, hhub₁⟩ := exists_lastHub_eq hd hname
    obtain ⟨db₂, hrows₂, hhub₂⟩ := exists_lastHub_eq hmem hserver
    have hnone := hagree db₁ hrows₁
    have hsome := hagree db₂ hrows₂
    have hother : x ≠ d := fun heq => hne (heq ▸ rfl)
    rw [if_neg fun h => (hown hrows₁).1 h hhub₁] at hnone
    rw [if_pos ((hown hrows₂).2 (by rw [hhub₂, ne_eq, Option.some.injEq]; exact hother)), ← hnone]
      at hsome
    exact List.cons_ne_nil _ _ hsome
  · have hhas : ∀ {db'}, db.SameRows db' → d.HasOwnEntry db' := fun h =>
      (hown h).2 fun hhub => hname (lastHub_spec hhub).2
    have hconst : ∀ eps : List DeviceEndpoint, eps.Perm (db.activeEndpoints d.id) →
        shownCandidates (sortEndpoints eps) = db.shownFor d.networkId d.state.publicKey := by
      intro eps heps
      obtain ⟨db', hrows, hshown⟩ := exists_shownFor hd heps
      have heq := hagree db' hrows
      rw [if_pos (hhas hrows), if_pos (hhas (.refl db)), hshown] at heq
      exact hf (List.cons.inj heq).1
    exact tiesShownAlike_of_forall fun eps eps' heps heps' =>
      (hconst eps' heps').trans (hconst eps heps).symm

/-- **The peers of a device in a mesh or a hybrid network are the same in any order** exactly if no
order can change its entries. -/
theorem Database.peersOf_eq_iff (hd : d ∈ db.plannedDevices d.networkId)
    (hroutes : db.OnePrefix d.networkId) :
    (∀ db', db.SameRows db' → db'.peersOf settings t subnet d = db.peersOf settings t subnet d) ↔
      db.EntriesOrderFree settings t subnet d ∧ db.OwnEntryOrderFree d := by
  constructor
  · intro h
    have hparts := fun db' (hrows : db.SameRows db') => List.append_inj (h db' hrows) (by
      rw [List.length_map, List.length_map, (hrows.others d).length_eq])
    have hagree : db.EntriesAgree settings t subnet d := fun db' hrows => (hparts db' hrows).1
    refine ⟨hagree.orderFree hd hroutes, ?_⟩
    have hinj : Function.Injective (d.exitPeer.withCandidates settings) := fun _ _ heq =>
      congrArg PeerInfo.endpointCandidates heq
    exact ownEntryOrderFree_of_forall hd hinj fun db' hrows => (hparts db' hrows).2
  · rintro ⟨hentries, hown⟩ db' hrows
    rw [peersOf, peersOf, hentries.map_entryOf_eq hd hrows hroutes]
    exact congrArg _ (hown.ownEntry_eq hd hrows fun candidates =>
      d.exitPeer.withCandidates settings candidates)

/-! ### Stars -/

theorem hostRoute_inj {ip ip' : String} : hostRoute ip = hostRoute ip' ↔ ip = ip' := by
  rw [hostRoute, hostRoute, String.append_left_inj]

theorem Database.SameRows.exitPeers_eq {db' : Database} (h : db.SameRows db') (d : Device)
    (hubKey : String) : db'.exitPeers d hubKey = db.exitPeers d hubKey := by
  have hfind : (db'.plannedDevices d.networkId).find? (fun x => d.exitNodeId = some x.id) =
      (db.plannedDevices d.networkId).find? fun x => d.exitNodeId = some x.id := by
    refine List.find?_eq_find?_of_perm (h.plannedDevices d.networkId) ?_
    rintro x ⟨hx, hid⟩ x' ⟨hx', hid'⟩
    refine eq_of_id hx hx' ?_
    exact Option.some.inj ((of_decide_eq_true hid).symm.trans (of_decide_eq_true hid'))
  rw [exitPeers, exitPeers, hfind]

theorem Database.starPeersOf_of_hub (hhub : db.lastHub d.networkId = some d) :
    db.starPeersOf settings subnet d = (db.others d).map fun x => TopologyType.star.peerOf settings
      subnet x.state (db.prefixesOf d.networkId x) false none := by
  rw [starPeersOf, hhub]
  exact if_pos rfl

theorem Database.starPeersOf_of_client {hub : Device} (hhub : db.lastHub d.networkId = some hub)
    (hne : hub ≠ d) : db.starPeersOf settings subnet d =
      hubPeer settings subnet hub.state.publicKey :: db.exitPeers d hub.state.publicKey := by
  rw [starPeersOf, hhub]
  exact if_neg hne

/-- The peers in a star that no order can change. -/
theorem Database.StarOrderFree.starPeersOf_eq {db' : Database} (hfree : db.StarOrderFree d)
    (hd : d ∈ db.plannedDevices d.networkId) (h : db.SameRows db')
    (hroutes : db.OnePrefix d.networkId) :
    db'.starPeersOf settings subnet d = db.starPeersOf settings subnet d := by
  have hd' := (h.plannedDevices d.networkId).symm.subset hd
  have hperm := h.others d
  by_cases hname : d.name = serverName
  · have hhub := (lastHub_eq_some_iff hd fun hname x hx => (hfree.hub hname x hx).1).2 hname
    have hhub' := (lastHub_eq_some_iff hd' fun hname x hx =>
      (hfree.hub hname x (hperm.subset hx)).1).2 hname
    rw [starPeersOf_of_hub hhub, starPeersOf_of_hub hhub']
    refine map_eq_map_of_forall hperm.length_eq fun x hx x' hx' => ?_
    obtain ⟨hkey, haddress, hprefixes⟩ := (hfree.hub hname x hx).2 x' (hperm.subset hx')
    simp only [TopologyType.peerOf, h.prefixesOf_eq hroutes, hkey, haddress, hprefixes]
  · -- a hub is another device with the server's name
    have hother : ∀ {db' hub}, db.SameRows db' → db'.lastHub d.networkId = some hub →
        hub ∈ db.others d ∧ hub.name = serverName ∧ hub ≠ d := by
      intro db' hub h hhub
      obtain ⟨hmem, hserver⟩ := lastHub_spec hhub
      have hne : hub ≠ d := fun heq => hname (heq ▸ hserver)
      refine ⟨mem_others.2 ⟨(h.plannedDevices d.networkId).subset hmem, fun hid => hne ?_⟩,
        hserver, hne⟩
      exact eq_of_id hmem ((h.plannedDevices d.networkId).symm.subset hd) hid
    have hsome : (db'.lastHub d.networkId).isSome = (db.lastHub d.networkId).isSome := by
      rw [lastHub, lastHub, Bool.eq_iff_iff, List.find?_isSome, List.find?_isSome]
      simp only [List.mem_reverse, (h.plannedDevices d.networkId).mem_iff]
    cases hhub : db.lastHub d.networkId with
    | none =>
      rw [hhub, Option.isSome_none, Option.isSome_eq_false_iff, Option.isNone_iff_eq_none] at hsome
      rw [starPeersOf, hsome, starPeersOf, hhub]
    | some hub =>
      rw [hhub, Option.isSome_some] at hsome
      obtain ⟨hub', hhub'⟩ := Option.isSome_iff_exists.1 hsome
      obtain ⟨hmem, hserver, hne⟩ := hother (.refl db) hhub
      obtain ⟨hmem', hserver', hne'⟩ := hother h hhub'
      rw [starPeersOf_of_client hhub hne, starPeersOf_of_client hhub' hne', h.exitPeers_eq,
        hfree.client hname hub hmem hub' hmem' hserver hserver']

/-- If the peers in a star are the same in any order, no order can change them. -/
theorem Database.starOrderFree_of_forall (hd : d ∈ db.plannedDevices d.networkId)
    (hroutes : db.OnePrefix d.networkId) (hagree : ∀ db', db.SameRows db' →
        (db'.starPeersOf settings subnet d).map (fun p => p.info settings false []) =
          (db.starPeersOf settings subnet d).map fun p => p.info settings false []) :
    db.StarOrderFree d := by
  have h : ∀ db₁ db₂, db.SameRows db₁ → db.SameRows db₂ →
      (db₁.starPeersOf settings subnet d).map (fun p => p.info settings false []) =
        (db₂.starPeersOf settings subnet d).map fun p => p.info settings false [] :=
    fun db₁ db₂ hrows₁ hrows₂ => (hagree db₁ hrows₁).trans (hagree db₂ hrows₂).symm
  have hne_of_mem : ∀ {x}, x ∈ db.others d → x ≠ d := fun hx heq =>
    (mem_others.1 hx).2 (heq ▸ rfl)
  refine ⟨fun hname => ?_, fun hname x hx x' hx' hserver hserver' => ?_⟩
  · -- another hub would be the only one with a keepalive
    have honly : ∀ x ∈ db.others d, x.name ≠ serverName := by
      intro x hx hserver
      obtain ⟨db₁, hrows₁, hhub₁⟩ := exists_lastHub_eq hd hname
      obtain ⟨db₂, hrows₂, hhub₂⟩ := exists_lastHub_eq (mem_others.1 hx).1 hserver
      have hmem := congrArg (List.map PeerInfo.persistentKeepalive) (h db₁ db₂ hrows₁ hrows₂)
      rw [starPeersOf_of_hub hhub₁, starPeersOf_of_client hhub₂ (hne_of_mem hx), List.map_map,
        List.map_map, List.map_cons, List.map_cons] at hmem
      cases hothers : db₁.others d with
      | nil => rw [hothers] at hmem; cases hmem
      | cons y ys =>
        rw [hothers] at hmem
        cases (List.cons.inj hmem).1
    have hend : ∀ x ∈ db.others d, ∀ db', db.SameRows db' →
        ((db'.starPeersOf settings subnet d).map fun p => p.info settings false []).getLast? =
          some ((TopologyType.star.peerOf settings subnet x.state (db.prefixesOf d.networkId x)
            false none).info settings false []) := by
      intro x hx db' hrows'
      obtain ⟨db₁, hrows, hlast⟩ := exists_last_other hx
      have hhub := (lastHub_eq_some_iff ((hrows.plannedDevices d.networkId).symm.subset hd)
        fun _ y hy => honly y ((hrows.others d).subset hy)).2 hname
      rw [h db' db₁ hrows' hrows, starPeersOf_of_hub hhub, List.getLast?_map, List.getLast?_map,
        hlast, Option.map_some, Option.map_some, hrows.prefixesOf_eq hroutes]
    intro x hx
    refine ⟨honly x hx, fun x' hx' => ?_⟩
    have heq := Option.some.inj ((hend x hx db (.refl db)).symm.trans (hend x' hx' db (.refl db)))
    have hips := congrArg PeerInfo.allowedIps heq
    simp only [TopologyType.peerOf, PeerPlan.info_allowedIps, List.cons.injEq, hostRoute_inj]
      at hips
    exact ⟨congrArg PeerInfo.publicKey heq, hips⟩
  · obtain ⟨db₁, hrows₁, hhub₁⟩ := exists_lastHub_eq (mem_others.1 hx).1 hserver
    obtain ⟨db₂, hrows₂, hhub₂⟩ := exists_lastHub_eq (mem_others.1 hx').1 hserver'
    have heq := h db₁ db₂ hrows₁ hrows₂
    rw [starPeersOf_of_client hhub₁ (hne_of_mem hx), starPeersOf_of_client hhub₂ (hne_of_mem hx')]
      at heq
    exact congrArg PeerInfo.publicKey (List.cons.inj heq).1

/-- **The peers of a device in a star are the same in any order** exactly if the hub is the only
device with the server's name and its clients look alike, and a client has hubs of one key. -/
theorem Database.starPeersOf_eq_iff (hd : d ∈ db.plannedDevices d.networkId)
    (hroutes : db.OnePrefix d.networkId) :
    (∀ db', db.SameRows db' →
      (db'.starPeersOf settings subnet d).map (fun p => p.info settings false []) =
        (db.starPeersOf settings subnet d).map fun p => p.info settings false []) ↔
      db.StarOrderFree d := by
  constructor
  · exact starOrderFree_of_forall hd hroutes
  · intro hfree db' hrows
    rw [hfree.starPeersOf_eq hd hrows hroutes]

end

/-! ### Servers and routes -/

/-- **The DNS servers are the same in any order** exactly if there is one address at most. -/
theorem Database.buildDnsServers_eq_iff {db : Database} (order : SetOrder String)
    {networkId : Uuid} : (∀ order' db', db.SameRows db' →
      db'.buildDnsServers order' networkId = db.buildDnsServers order networkId) ↔
        db.OneAddress networkId := by
  have hmem : ∀ e, e ∈ db.dnsEntries.select (fun e => e.networkId = networkId) ↔
      e ∈ db.dnsEntries ∧ e.networkId = networkId := fun e => by
    rw [Table.mem_select, decide_eq_true_eq]
  constructor
  · intro h e he e' he' hnetwork hnetwork'
    have haddress := List.mem_map_of_mem (f := DNSEntry.address) ((hmem e).2 ⟨he, hnetwork⟩)
    have haddress' := List.mem_map_of_mem (f := DNSEntry.address) ((hmem e').2 ⟨he', hnetwork'⟩)
    refine order.eq_of_forall_elems (fun order' => ?_) haddress haddress'
    have heq := h order' db (.refl db)
    rw [buildDnsServers_eq_match, buildDnsServers_eq_match] at heq
    cases haddresses : (db.dnsEntries.select fun e => e.networkId = networkId).map (·.address) with
    | nil => rw [haddresses] at haddress; cases haddress
    | cons a as =>
      rw [haddresses] at heq
      exact Option.some.inj heq
  · intro h order' db' hrows
    have hperm : ((db'.dnsEntries.select fun e => e.networkId = networkId).map (·.address)).Perm
        ((db.dnsEntries.select fun e => e.networkId = networkId).map (·.address)) :=
      (hrows.dnsEntries.filter _).map _
    have helems := SetOrder.elems_eq_of_forall order order' hperm (by
      simp only [List.forall_mem_map]
      intro e he e' he'
      exact h e ((hmem e).1 he).1 e' ((hmem e').1 he').1 ((hmem e).1 he).2 ((hmem e').1 he').2)
    rw [buildDnsServers_eq_match, buildDnsServers_eq_match]
    cases haddresses : (db.dnsEntries.select fun e => e.networkId = networkId).map (·.address) with
    | nil =>
      rw [haddresses] at hperm
      rw [hperm.eq_nil]
    | cons a as =>
      cases haddresses' :
          (db'.dnsEntries.select fun e => e.networkId = networkId).map (·.address) with
      | nil =>
        rw [haddresses, haddresses'] at hperm
        exact absurd hperm.nil_eq (List.cons_ne_nil _ _).symm
      | cons a' as' =>
        rw [haddresses, haddresses'] at helems
        exact congrArg some helems

/-- **The routes are the same in any order** exactly if they have one prefix. -/
theorem Database.routes_eq_iff {db : Database} {networkId : Uuid} : (∀ db', db.SameRows db' →
      (db'.buildRoutesByDevice networkId).1 = (db.buildRoutesByDevice networkId).1) ↔
    db.OnePrefix networkId := by
  rw [OnePrefix, ← forall_perm_map_eq_iff (f := fun r : AdvertisedRoute => r.pfx)]
  constructor
  · intro h rows hperm
    obtain ⟨routes, hroutes, hselect⟩ := db.routes.exists_select_eq hperm
    have heq := h { db with routes } ⟨.refl _, .refl _, hroutes, .refl _, .refl _⟩
    change ((routes.select _).map AdvertisedRoute.pfx) = _ at heq
    rw [hselect] at heq
    exact heq
  · exact fun h db' hrows => h _ (hrows.approvedRoutes networkId)

/-! ### The hash -/

section

variable {env env' : Env} {db db' : Database} {d : Device} {network : Network}
  {current : DeviceState} {t : TopologyType} {net : IPv4Network}

theorem Database.ConfigSubject.of_sameRows (hsub : db.ConfigSubject env d network current t net)
    (henv : env.SameProgram env') (h : db.SameRows db') :
    db'.ConfigSubject env' d network current t net where
  network_eq := (Table.get?_of_perm h.networks _).trans hsub.network_eq
  current_eq := (h.find?_state d).trans hsub.current_eq
  generator := henv.settings ▸ hsub.generator
  subnet := hsub.subnet

theorem ConfigView.configText_eq_iff (v v' : ConfigView)
    (hsettings : env'.settings = env.settings) :
    (v'.content env' d network current t net).configText =
        (v.content env d network current t net).configText ↔
      (d.dnsEnabled = true → v'.dnsServers = v.dnsServers) ∧
        v'.peers env.settings t network current = v.peers env.settings t network current ∧
          v'.routes = v.routes := by
  have hinterface : (v'.content env' d network current t net).interface =
      (v.content env d network current t net).interface ↔
        (d.dnsEnabled = true → v'.dnsServers = v.dnsServers) := by
    simp only [content, InterfaceInfo.mk.injEq, true_and, and_true]
    cases d.dnsEnabled <;> simp
  rw [Midscale.configText_eq_iff, hinterface]
  change _ ∧ v'.peers env'.settings t network current = _ ∧ _ ∧ _ ↔ _
  rw [hsettings]
  refine and_congr_right fun _ => and_congr_right fun _ => ?_
  exact ⟨And.left, fun hroutes => ⟨hroutes, rfl, rfl, rfl, rfl⟩⟩

theorem Database.ConfigSubject.sameHash_iff (hsub : db.ConfigSubject env d network current t net)
    (henv : env.SameProgram env') (h : db.SameRows db')
    (hsha : env.security.NoCollision (buildConfigV2 env db d) (buildConfigV2 env' db' d)) :
    SameHash (buildConfigV2 env db d) (buildConfigV2 env' db' d) ↔
      (d.dnsEnabled = true → db'.buildDnsServers env'.setOrder d.networkId =
        db.buildDnsServers env.setOrder d.networkId) ∧
      (db'.configView env'.setOrder d.networkId).peers env.settings t network current =
        (db.configView env.setOrder d.networkId).peers env.settings t network current ∧
      (db'.buildRoutesByDevice d.networkId).1 = (db.buildRoutesByDevice d.networkId).1 := by
  have hsub' := hsub.of_sameRows henv h
  rw [hsub.build, hsub'.build] at hsha ⊢
  have htexts := hsha _ _ rfl rfl
  rw [SameHash, Except.map, Except.map, Except.ok.injEq]
  have htext := @ConfigView.configText_eq_iff env env' d network current t net
    (db.configView env.setOrder d.networkId) (db'.configView env'.setOrder d.networkId)
      henv.settings
  refine Iff.trans ?_ htext
  change env'.security.sha256 _ = env.security.sha256 _ ↔ _
  rw [henv.security]
  constructor
  · exact htexts
  · exact fun heq => congrArg _ heq

/-- The peers are the same in any order exactly if no order can change them. -/
theorem Database.ConfigSubject.peers_forall_iff
    (hsub : db.ConfigSubject env d network current t net) (hd : d ∈ db.devices)
    (hroutes : db.OnePrefix d.networkId) :
    (∀ order db', db.SameRows db' →
      (db'.configView order d.networkId).peers env.settings t network current =
        (db.configView env.setOrder d.networkId).peers env.settings t network current) ↔
      if t = .star then db.StarOrderFree d else
        db.EntriesOrderFree env.settings t network.subnet d ∧ db.OwnEntryOrderFree d := by
  obtain ⟨rfl, hplanned⟩ := hsub.current_eq_state hd
  have hgen : TopologyType.parse (env.settings.topologyOf network.topology) = some t :=
    getOr_eq_ok.1 hsub.generator
  have hplanned' : ∀ {db'}, db.SameRows db' → d ∈ db'.plannedDevices d.networkId := fun h =>
    (h.plannedDevices d.networkId).symm.subset hplanned
  by_cases ht : t = .star
  · subst ht
    rw [if_pos rfl, ← starPeersOf_eq_iff hplanned hroutes]
    constructor
    · intro h db' h'
      have heq := h env.setOrder db' h'
      rwa [ConfigView.starPeers_eq hgen (hplanned' h'),
        ConfigView.starPeers_eq hgen hplanned] at heq
    · intro h order db' h'
      rw [ConfigView.starPeers_eq hgen (hplanned' h'), ConfigView.starPeers_eq hgen hplanned,
        h db' h']
  · rw [if_neg ht, ← peersOf_eq_iff hplanned hroutes]
    constructor
    · intro h db' h'
      have heq := h env.setOrder db' h'
      rwa [ConfigView.peers_eq ht hgen (hplanned' h'), ConfigView.peers_eq ht hgen hplanned] at heq
    · intro h order db' h'
      rw [ConfigView.peers_eq ht hgen (hplanned' h'), ConfigView.peers_eq ht hgen hplanned,
        h db' h']

/-- What an execution of `build_config_v2` over the contents may give. -/
def Database.MayBuild (env : Env) (db : Database) (d : Device)
    (x : Except ApiError DeviceConfigV2Response) : Prop :=
  ∃ env' db', env.SameProgram env' ∧ db.SameRows db' ∧ buildConfigV2 env' db' d = x

theorem Database.mayBuild_self (env : Env) (db : Database) (d : Device) :
    db.MayBuild env d (buildConfigV2 env db d) := ⟨env, db, ⟨rfl, rfl⟩, .refl db, rfl⟩

theorem Database.ConfigSubject.orderFree_iff (hsub : db.ConfigSubject env d network current t net) :
    db.OrderFree env.settings d ↔
      (d.dnsEnabled = true → db.OneAddress d.networkId) ∧ db.OnePrefix d.networkId ∧
      if t = .star then db.StarOrderFree d else
        db.EntriesOrderFree env.settings t network.subnet d ∧ db.OwnEntryOrderFree d := by
  have hgen : TopologyType.parse (env.settings.topologyOf network.topology) = some t :=
    getOr_eq_ok.1 hsub.generator
  constructor
  · intro h
    refine ⟨h.dns, h.routes, ?_⟩
    split_ifs with ht
    · exact h.star network hsub.network_eq (ht ▸ hgen)
    · exact h.mesh network t hsub.network_eq hgen ht
  · rintro ⟨hdns, hroutes, hpeers⟩
    refine ⟨hdns, hroutes, fun network' hn ht => ?_, fun network' t' hn ht hne => ?_⟩
    · obtain rfl : network = network' := Option.some.inj (hsub.network_eq.symm.trans hn)
      rwa [if_pos (Option.some.inj (hgen.symm.trans ht))] at hpeers
    · obtain rfl : network = network' := Option.some.inj (hsub.network_eq.symm.trans hn)
      obtain rfl : t = t' := Option.some.inj (hgen.symm.trans ht)
      rwa [if_neg hne] at hpeers

/-- **The hash depends on the contents alone exactly if no order reaches the configuration**, or
there is no configuration. -/
theorem hash_of_content_iff (hd : d ∈ db.devices)
    (hsha : ∀ x x', db.MayBuild env d x → db.MayBuild env d x' → env.security.NoCollision x x') :
    (∀ x x', db.MayBuild env d x → db.MayBuild env d x' → SameHash x x') ↔
      (d.Configurable env db → db.OrderFree env.settings d) := by
  rw [← buildConfigV2_ok_iff hd]
  have hself := db.mayBuild_self env d
  have hbuild : ∀ {env' db'}, env.SameProgram env' → db.SameRows db' →
      db.MayBuild env d (buildConfigV2 env' db' d) := fun henv h => ⟨_, _, henv, h, rfl⟩
  constructor
  · rintro hall ⟨r, hr⟩
    obtain ⟨network, current, t, net, hsub, -⟩ := buildConfigV2_ok_subject hr
    have hlists := fun env' db' (henv : env.SameProgram env') (h : db.SameRows db') =>
      (hsub.sameHash_iff henv h (hsha _ _ hself (hbuild henv h))).1 (hall _ _ hself (hbuild henv h))
    have hroutes := Database.routes_eq_iff.1 fun db' h => (hlists env db' ⟨rfl, rfl⟩ h).2.2
    refine hsub.orderFree_iff.2 ⟨fun hdns => ?_, hroutes, ?_⟩
    · refine (Database.buildDnsServers_eq_iff env.setOrder).1 fun order db' h => ?_
      exact (hlists { env with setOrder := order } db' ⟨rfl, rfl⟩ h).1 hdns
    · refine (hsub.peers_forall_iff hd hroutes).1 fun order db' h => ?_
      exact (hlists { env with setOrder := order } db' ⟨rfl, rfl⟩ h).2.1
  · intro hfree
    -- every execution gives the hash of one of them
    have hbase : ∀ {x}, db.MayBuild env d x → SameHash (buildConfigV2 env db d) x := by
      intro x hx
      have hsafe := hsha _ _ hself hx
      obtain ⟨env', db', henv, h, rfl⟩ := hx
      have hnetwork : (db'.networks.get? d.networkId).map Network.state =
          (db.networks.get? d.networkId).map Network.state := by
        rw [Table.get?_of_perm h.networks]
      rcases buildConfigV2_cases henv.settings hnetwork (h.find?_state d) with
        ⟨e, he, he'⟩ | ⟨network, -, current, t, net, -, hsub, -⟩
      · rw [SameHash, he, he']
      · obtain ⟨hdns, hroutes, hpeers⟩ := hsub.orderFree_iff.1 (hfree ⟨_, hsub.build⟩)
        refine (hsub.sameHash_iff henv h hsafe).2 ⟨fun hon => ?_, ?_, ?_⟩
        · exact (Database.buildDnsServers_eq_iff env.setOrder).2 (hdns hon) env'.setOrder db' h
        · exact (hsub.peers_forall_iff hd hroutes).2 hpeers env'.setOrder db' h
        · exact Database.routes_eq_iff.2 hroutes db' h
    intro x x' hx hx'
    exact (hbase hx').trans (hbase hx).symm

end

/-! ### A mesh of two devices -/

/-- In a mesh of two devices with one endpoint nothing depends on an order. -/
theorem meshOffice_orderFree : (meshOffice 0 0).OrderFree plainEnv.settings meshLaptop := by
  have hothers : ∀ x ∈ (meshOffice 0 0).others meshLaptop, x = meshPhone := fun x hx =>
    List.mem_singleton.1 hx
  have hphone : ∀ y ∈ (meshOffice 0 0).plannedDevices meshLaptop.networkId,
      y.state.publicKey = meshPhone.state.publicKey → y = meshPhone := by
    change ∀ y ∈ [meshLaptop, meshPhone], _
    decide
  have hactive : ∀ e ∈ (meshOffice 0 0).activeEndpoints meshPhone.id, e = meshEndpoint 0 0 :=
    fun e he => List.mem_singleton.1 he
  have hbest : ∀ best, (meshOffice 0 0).MayBeBest meshPhone best →
      best = some (meshEndpoint 0 0) := by
    intro best h
    cases best with
    | none => cases h
    | some e => rw [hactive e h.1]
  have hhub : ∀ isHub, (meshOffice 0 0).MayBeHub meshLaptop.networkId meshPhone isHub →
      isHub = false := by
    intro isHub h
    cases isHub with
    | false => rfl
    | true =>
      have hname : meshPhone.name ≠ serverName := by decide
      exact absurd h hname
  refine (meshOffice_subject 0).orderFree_iff.2 ⟨fun _ e he => absurd he List.not_mem_nil,
    fun r hr => absurd hr List.not_mem_nil, ?_⟩
  rw [if_neg (by decide)]
  refine ⟨⟨?_, ?_, ?_, ?_⟩, fun hexit => by cases hexit⟩
  · intro x hx x' hx'
    rw [hothers x hx, hothers x' hx']
  · intro x hx y hy hkey e he e' he' _
    rw [hothers x hx] at hkey
    rw [hphone y hy hkey] at he he'
    rw [hactive e he, hactive e' he']
  · intro x hx y hy hkey
    rw [hothers x hx] at hkey ⊢
    rw [hphone y hy hkey]
  · intro x hx x' hx' isHub isHub' hmay hmay' _ best best' hb hb'
    rw [hothers x hx] at hmay hb ⊢
    rw [hothers x' hx'] at hmay' hb' ⊢
    rw [hhub _ hmay, hhub _ hmay', hbest _ hb, hbest _ hb']

/-- The mesh, with its devices in the other order. -/
def meshOffice' : Database :=
  { meshOffice 0 0 with
    devices := .ofRows [meshPhone, meshLaptop] (by decide : [Uuid.ofNat 3, Uuid.ofNat 2].Nodup) }

theorem meshOffice_sameRows : (meshOffice 0 0).SameRows meshOffice' where
  networks := .refl _
  devices := .swap ..
  routes := .refl _
  endpoints := .refl _
  dnsEntries := .refl _

/-- The laptop's hash is the same in both orders, and a second later. -/
theorem hash_of_content_iff_mesh :
    SameHash (buildConfigV2 plainEnv (meshOffice 0 0) meshLaptop)
      (buildConfigV2 { plainEnv with now := 1000000 } meshOffice' meshLaptop) :=
  (hash_of_content_iff (meshLaptop_mem 0 0) fun x x' _ _ => plainSecurity_noCollision x x').2
    (fun _ => meshOffice_orderFree) _ _ (Database.mayBuild_self ..)
      ⟨{ plainEnv with now := 1000000 }, meshOffice', ⟨rfl, rfl⟩, meshOffice_sameRows, rfl⟩

/-- A route of the phone. -/
def meshRoute (n : ℕ) (pfx : String) : AdvertisedRoute where
  id := Uuid.ofNat n
  deviceId := Uuid.ofNat 3
  networkId := Uuid.ofNat 1
  pfx := pfx
  enabled := true
  approved := true

/-- The mesh, whose phone has two routes. -/
def routedMesh : Database :=
  { meshOffice 0 0 with
    routes := .ofRows [meshRoute 148 "10.1.0.0/16", meshRoute 149 "10.2.0.0/16"]
      (by decide : [Uuid.ofNat 148, Uuid.ofNat 149].Nodup) }

/-- The routes in the other order. -/
def routedMesh' : Database :=
  { meshOffice 0 0 with
    routes := .ofRows [meshRoute 149 "10.2.0.0/16", meshRoute 148 "10.1.0.0/16"]
      (by decide : [Uuid.ofNat 149, Uuid.ofNat 148].Nodup) }

theorem routedMesh_sameRows : routedMesh.SameRows routedMesh' where
  networks := .refl _
  devices := .refl _
  routes := .swap ..
  endpoints := .refl _
  dnsEntries := .refl _

theorem routedMesh_subject : routedMesh.ConfigSubject plainEnv meshLaptop meshNetwork
    meshLaptop.state .mesh (.ofAddress (.ofOctets 10 0 0 0) 24) where
  network_eq := rfl
  current_eq := rfl
  generator := rfl
  subnet := by decide

/-- Nothing changes, and the laptop's hash does. -/
theorem routes_rehashed : ¬ ∀ (env : Env) (db : Database) (d : Device), d ∈ db.devices →
    (∀ x x', db.MayBuild env d x → db.MayBuild env d x' → env.security.NoCollision x x') →
      ∀ x x', db.MayBuild env d x → db.MayBuild env d x' → SameHash x x' := by
  intro hall
  have hsame := hall plainEnv routedMesh meshLaptop (meshLaptop_mem 0 0)
    (fun x x' _ _ => plainSecurity_noCollision x x') _ _ (Database.mayBuild_self ..)
      ⟨plainEnv, routedMesh', ⟨rfl, rfl⟩, routedMesh_sameRows, rfl⟩
  have hlists := (routedMesh_subject.sameHash_iff ⟨rfl, rfl⟩ routedMesh_sameRows
    (plainSecurity_noCollision _ _)).1 hsame
  exact absurd hlists.2.2 (by decide)

end Midscale
