import Midscale.Config.PeerEntries
import Mathlib.Data.List.Find

/-!
# The order of rows and the hash

A query without `ORDER BY` returns its rows in any order, rows that tie come in any order, and a set
is iterated in any order.  `build_config_v2` makes lists of what it finds, and the lists are hashed.

* `Database.SameRows` : the same contents, with the rows in other orders.
* `Database.OrderFree` : the contents whose order does not reach the configuration.
* `Database.EntriesOrderFree.map_entryOf_eq`, `Database.OwnEntryOrderFree.ownEntry_eq` : then a
  device of a mesh or a hybrid network has the same entries in any order.
-/

namespace Midscale

/-! ### Executions -/

/-- The same contents: each of the tables that `build_config_v2` reads has the same rows, in an
order of its own. -/
structure Database.SameRows (db db' : Database) : Prop where
  networks : db'.networks.rows.Perm db.networks.rows
  devices : db'.devices.rows.Perm db.devices.rows
  routes : db'.routes.rows.Perm db.routes.rows
  endpoints : db'.endpoints.rows.Perm db.endpoints.rows
  dnsEntries : db'.dnsEntries.rows.Perm db.dnsEntries.rows

/-- The same program: sets may be iterated in another order, and the clock may show another time. -/
structure Env.SameProgram (env env' : Env) : Prop where
  settings : env'.settings = env.settings
  security : env'.security = env.security

/-- The approved and enabled routes of a network have one prefix. -/
def Database.OnePrefix (db : Database) (networkId : Uuid) : Prop :=
  ∀ r ∈ db.approvedRoutes networkId, ∀ r' ∈ db.approvedRoutes networkId, r.pfx = r'.pfx

/-- The DNS entries of a network have one address. -/
def Database.OneAddress (db : Database) (networkId : Uuid) : Prop :=
  ∀ e ∈ db.dnsEntries, ∀ e' ∈ db.dnsEntries, e.networkId = networkId → e'.networkId = networkId →
    e.address = e'.address

theorem Database.SameRows.refl (db : Database) : db.SameRows db :=
  ⟨.refl _, .refl _, .refl _, .refl _, .refl _⟩

namespace Database.SameRows

variable {db db' : Database} (h : db.SameRows db')
include h

theorem plannedDevices (networkId : Uuid) :
    (db'.plannedDevices networkId).Perm (db.plannedDevices networkId) := h.devices.filter _

theorem others (d : Device) : (db'.others d).Perm (db.others d) :=
  (h.plannedDevices d.networkId).filter _

theorem approvedRoutes (networkId : Uuid) :
    (db'.approvedRoutes networkId).Perm (db.approvedRoutes networkId) := h.routes.filter _

theorem activeEndpoints (deviceId : Uuid) :
    (db'.activeEndpoints deviceId).Perm (db.activeEndpoints deviceId) := h.endpoints.filter _

theorem find?_state (d : Device) :
    (db'.buildDeviceStates d.networkId).1.find? (fun s => s.id = d.id.str) =
      (db.buildDeviceStates d.networkId).1.find? fun s => s.id = d.id.str := by
  refine List.find?_eq_find?_of_perm ((h.plannedDevices d.networkId).map Device.state) ?_
  rintro s ⟨hs, hid⟩ s' ⟨hs', hid'⟩
  obtain ⟨x, hx, rfl⟩ := List.mem_map.1 hs
  obtain ⟨x', hx', rfl⟩ := List.mem_map.1 hs'
  rw [eq_of_id hx hx'
    (Uuid.str_inj.1 ((of_decide_eq_true hid).trans (of_decide_eq_true hid').symm))]

theorem prefixesOf_eq {networkId : Uuid} (hsame : db.OnePrefix networkId) (x : Device) :
    db'.prefixesOf networkId x = db.prefixesOf networkId x := by
  rw [prefixesOf, prefixesOf, routesOf_eq, routesOf_eq]
  have hperm := (h.approvedRoutes networkId).filter fun r => r.deviceId.str = x.id.str
  refine map_eq_map_of_forall hperm.length_eq fun r hr r' hr' => ?_
  exact hsame r' ((h.approvedRoutes networkId).subset (List.mem_filter.1 hr').1) r
    (List.mem_filter.1 hr).1

end Database.SameRows

theorem Database.exists_order (db : Database) {networkId deviceId : Uuid} {ds : List Device}
    (hds : ds.Perm (db.plannedDevices networkId)) {eps : List DeviceEndpoint}
    (heps : eps.Perm (db.activeEndpoints deviceId)) :
    ∃ db', db.SameRows db' ∧ db'.plannedDevices networkId = ds ∧
      db'.activeEndpoints deviceId = eps := by
  obtain ⟨devices, hdevices, hplanned⟩ := db.devices.exists_select_eq hds
  obtain ⟨endpoints, hendpoints, hactive⟩ := db.endpoints.exists_select_eq heps
  exact ⟨{ db with devices, endpoints }, ⟨.refl _, hdevices, .refl _, hendpoints, .refl _⟩,
    hplanned, hactive⟩

/-! ### The order of endpoints -/

/-- The order in which endpoints are shown: `sort_endpoint_candidates` of what the query sorted. -/
def shownLe (e e' : DeviceEndpoint) : Prop :=
  e'.candidateKey ≤ e.candidateKey ∧ (e.candidateKey ≤ e'.candidateKey → endpointLe e e')

instance : DecidableRel shownLe := fun _ _ => inferInstanceAs (Decidable (_ ∧ _))

instance : Std.Total shownLe where
  total e e' := by
    unfold shownLe
    rcases lt_trichotomy e.candidateKey e'.candidateKey with hlt | heq | hlt
    · exact .inr ⟨hlt.le, fun hle => absurd hle hlt.not_ge⟩
    · have htotal := Std.Total.total (r := endpointLe) e e'
      exact htotal.imp (fun h => ⟨heq.ge, fun _ => h⟩) fun h => ⟨heq.le, fun _ => h⟩
    · exact .inl ⟨hlt.le, fun hle => absurd hle hlt.not_ge⟩

instance : IsTrans DeviceEndpoint shownLe where
  trans e e' e'' h h' := by
    refine ⟨h'.1.trans h.1, fun hle => ?_⟩
    exact IsTrans.trans e e' e'' (h.2 (hle.trans h'.1)) (h'.2 (h.1.trans hle))

/-- The endpoints may be shown in either order: they agree in everything that is sorted by. -/
def DeviceEndpoint.Tied (e e' : DeviceEndpoint) : Prop :=
  e.candidateKey = e'.candidateKey ∧ e.lastSeen = e'.lastSeen

theorem shownLe_both_iff {e e' : DeviceEndpoint} : shownLe e e' ∧ shownLe e' e ↔ e.Tied e' := by
  constructor
  · rintro ⟨h, h'⟩
    have hkey : e.candidateKey = e'.candidateKey := le_antisymm h'.1 h.1
    have hle := h.2 hkey.le
    have hle' := h'.2 hkey.ge
    refine ⟨hkey, ?_⟩
    unfold endpointLe at hle hle'
    grind
  · rintro ⟨hkey, hseen⟩
    have hpriority : e.priority = e'.priority := by
      simp only [DeviceEndpoint.candidateKey, List.cons.injEq, neg_inj] at hkey
      exact hkey.2.2.2.1
    exact ⟨⟨hkey.ge, fun _ => .inr ⟨hpriority.symm, hseen.ge⟩⟩,
      ⟨hkey.le, fun _ => .inr ⟨hpriority, hseen.le⟩⟩⟩

theorem shownCandidates_eq_iff {eps eps' : List DeviceEndpoint} :
    shownCandidates eps' = shownCandidates eps ↔
      (sortEndpointCandidates eps').map (·.candidate true) =
        (sortEndpointCandidates eps).map (·.candidate true) := by
  have hmark : ∀ e e' : DeviceEndpoint, e'.candidate false = e.candidate false ↔
      e'.candidate true = e.candidate true := fun e e' => by simp [DeviceEndpoint.candidate]
  have hmarks : ∀ l l' : List DeviceEndpoint,
      l'.map (·.candidate false) = l.map (·.candidate false) ↔
        l'.map (·.candidate true) = l.map (·.candidate true) := by
    intro l
    induction l with
    | nil => simp
    | cons e l ih =>
      intro l'
      cases l' with
      | nil => simp
      | cons e' l' => rw [List.map_cons, List.map_cons, List.map_cons, List.map_cons,
          List.cons.injEq, List.cons.injEq, hmark, ih]
  rw [shownCandidates, shownCandidates]
  cases sortEndpointCandidates eps' with
  | nil =>
    cases sortEndpointCandidates eps with
    | nil => simp
    | cons e l => simp
  | cons e' l' =>
    cases sortEndpointCandidates eps with
    | nil => simp
    | cons e l => rw [List.map_cons, List.map_cons, List.cons.injEq, List.cons.injEq, hmarks]

/-- Endpoints of a device that may be shown in either order are shown alike. -/
def Database.TiesShownAlike (db : Database) (y : Device) : Prop :=
  ∀ e ∈ db.activeEndpoints y.id, ∀ e' ∈ db.activeEndpoints y.id, e.Tied e' →
    e.candidate true = e'.candidate true

section

variable {db : Database} {networkId : Uuid} {y : Device}

theorem Database.sortEndpointCandidates_rows (hy : y ∈ db.plannedDevices networkId) :
    (sortEndpointCandidates (db.endpointRows networkId y)).Pairwise shownLe ∧
      (sortEndpointCandidates (db.endpointRows networkId y)).Perm (db.activeEndpoints y.id) := by
  have hrows := endpointRows_perm hy
  have hsorted : (db.endpointRows networkId y).Pairwise endpointLe :=
    (sortedRows_endpoints _).sorted
  exact ⟨pairwise_insertionSort_of_pairwise hsorted, (List.perm_insertionSort _ _).trans hrows⟩

theorem Database.SameRows.shownCandidates_eq {db' : Database} (h : db.SameRows db')
    (hy : y ∈ db.plannedDevices networkId) (hties : db.TiesShownAlike y) :
    shownCandidates (db'.endpointRows networkId y) =
      shownCandidates (db.endpointRows networkId y) := by
  have hy' := (h.plannedDevices networkId).symm.subset hy
  obtain ⟨hsorted, hperm⟩ := sortEndpointCandidates_rows hy
  obtain ⟨hsorted', hperm'⟩ := sortEndpointCandidates_rows hy'
  rw [shownCandidates_eq_iff]
  refine map_eq_of_pairwise_of_perm hsorted hsorted'
    ((hperm'.trans (h.activeEndpoints y.id)).trans hperm.symm) fun e he e' he' hle hle' => ?_
  exact hties e (hperm.subset he) e' (hperm.subset he') (shownLe_both_iff.1 ⟨hle, hle'⟩)

theorem Database.tiesShownAlike_of_forall (h : ∀ eps eps' : List DeviceEndpoint,
      eps.Perm (db.activeEndpoints y.id) → eps'.Perm (db.activeEndpoints y.id) →
      shownCandidates (sortEndpoints eps') = shownCandidates (sortEndpoints eps)) :
    db.TiesShownAlike y := by
  have hself : ∀ l : List DeviceEndpoint, l.Pairwise shownLe →
      sortEndpointCandidates (sortEndpoints l) = l := fun l hl =>
    insertionSort_insertionSort_eq_self hl
  have hall : ∀ l l' : List DeviceEndpoint, l.Perm (db.activeEndpoints y.id) → l.Pairwise shownLe →
      l'.Perm (db.activeEndpoints y.id) → l'.Pairwise shownLe →
        l.map (·.candidate true) = l'.map (·.candidate true) := by
    intro l l' hperm hl hperm' hl'
    have heq := shownCandidates_eq_iff.1 (h l' l hperm' hperm)
    rwa [hself l hl, hself l' hl'] at heq
  intro e he e' he' htied
  obtain ⟨hle, hle'⟩ := shownLe_both_iff.2 htied
  exact forall_sorted_map_eq_iff.1 hall e he e' he' hle hle'

end

/-! ### What an order decides -/

/-- An endpoint that may come first for a device, if it has any. -/
def Database.MayBeBest (db : Database) (x : Device) : Option DeviceEndpoint → Prop
  | none => db.activeEndpoints x.id = []
  | some e => e ∈ db.activeEndpoints x.id ∧ ∀ e' ∈ db.activeEndpoints x.id, endpointLe e e'

/-- Whether a device may come to be the hub, or not to be: any device with the server's name may,
and it need not if there is another one. -/
def Database.MayBeHub (db : Database) (networkId : Uuid) (x : Device) : Bool → Prop
  | true => x.name = serverName
  | false => x.name = serverName →
    ∃ hub ∈ db.plannedDevices networkId, hub.name = serverName ∧ hub ≠ x

section

variable {db db' : Database} {networkId : Uuid} {x : Device}

theorem Database.SameRows.mayBeBest (h : db.SameRows db') (hx : x ∈ db.plannedDevices networkId) :
    db.MayBeBest x (db'.endpointRows networkId x).head? := by
  have hperm := (endpointRows_perm ((h.plannedDevices networkId).symm.subset hx)).trans
    (h.activeEndpoints x.id)
  have hsorted : (db'.endpointRows networkId x).Pairwise endpointLe :=
    (sortedRows_endpoints _).sorted
  cases hrows : db'.endpointRows networkId x with
  | nil =>
    rw [hrows] at hperm
    exact hperm.nil_eq.symm
  | cons e rows =>
    rw [hrows] at hperm hsorted
    refine ⟨hperm.subset List.mem_cons_self, fun e' he' => ?_⟩
    rcases List.mem_cons.1 (hperm.symm.subset he') with rfl | hmem
    · exact (Std.Total.total (r := endpointLe) e' e').elim id id
    · exact (List.pairwise_cons.1 hsorted).1 e' hmem

theorem Database.MayBeBest.exists_order {best : Option DeviceEndpoint} (h : db.MayBeBest x best) :
    ∃ eps : List DeviceEndpoint, eps.Perm (db.activeEndpoints x.id) ∧
      (sortEndpoints eps).head? = best := by
  cases best with
  | none => exact ⟨[], h ▸ .refl _, rfl⟩
  | some e =>
    obtain ⟨hmem, hle⟩ := h
    have hperm := List.perm_cons_erase hmem
    refine ⟨_, hperm.symm, ?_⟩
    rw [sortEndpoints, List.insertionSort_cons, orderedInsert_of_forall_rel]
    · rfl
    · intro e' he'
      exact hle e' (hperm.symm.subset (List.mem_cons_of_mem e ((List.mem_insertionSort _).1 he')))

theorem Database.SameRows.mayBeHub (h : db.SameRows db') (hx : x ∈ db.plannedDevices networkId) :
    db.MayBeHub networkId x (db'.lastHub networkId = some x) := by
  by_cases hhub : db'.lastHub networkId = some x
  · rw [decide_eq_true hhub]
    exact (lastHub_spec hhub).2
  · rw [decide_eq_false hhub]
    intro hname
    have hx' := (h.plannedDevices networkId).symm.subset hx
    obtain ⟨hub, hlast⟩ := exists_lastHub hx' hname
    obtain ⟨hmem, hserver⟩ := lastHub_spec hlast
    exact ⟨hub, (h.plannedDevices networkId).subset hmem, hserver, fun heq => hhub (heq ▸ hlast)⟩

end

/-! ### Contents whose order is not seen -/

/-- The entries of the other devices, in a mesh or a hybrid network, are the same in any order: the
devices have one key, the devices with this key show the same endpoints, and what each of them may
come to be, hub or not and with any best endpoint, makes the same entry. -/
structure Database.EntriesOrderFree (settings : Settings) (t : TopologyType) (subnet : String)
    (db : Database) (d : Device) : Prop where
  keys : ∀ x ∈ db.others d, ∀ x' ∈ db.others d, x.state.publicKey = x'.state.publicKey
  ties : ∀ x ∈ db.others d, ∀ y ∈ db.plannedDevices d.networkId,
    y.state.publicKey = x.state.publicKey → db.TiesShownAlike y
  shown : ∀ x ∈ db.others d, ∀ y ∈ db.plannedDevices d.networkId,
    y.state.publicKey = x.state.publicKey →
      shownCandidates (db.endpointRows d.networkId y) =
        shownCandidates (db.endpointRows d.networkId x)
  /-- If all other devices have the server's name and `d` has not, the last one is always the
  hub. -/
  entries : ∀ x ∈ db.others d, ∀ x' ∈ db.others d, ∀ isHub isHub',
    db.MayBeHub d.networkId x isHub → db.MayBeHub d.networkId x' isHub' →
      (isHub = isHub' ∨ d.name = serverName ∨ ∃ u ∈ db.others d, u.name ≠ serverName) →
        ∀ best best', db.MayBeBest x best → db.MayBeBest x' best' →
          (t.peerOf settings subnet x.state (db.prefixesOf d.networkId x) isHub
            best).withCandidates settings (shownCandidates (db.endpointRows d.networkId x)) =
          (t.peerOf settings subnet x'.state (db.prefixesOf d.networkId x') isHub'
            best').withCandidates settings (shownCandidates (db.endpointRows d.networkId x))

/-- The entry of a device for itself is the same in any order. -/
def Database.OwnEntryOrderFree (db : Database) (d : Device) : Prop :=
  d.exitNodeId = some d.id → d.state.publicKey ≠ "" →
    (∀ x ∈ db.others d, x.state.publicKey ≠ d.state.publicKey) →
      if d.name = serverName then ∀ x ∈ db.others d, x.name ≠ serverName else db.TiesShownAlike d

/-- The peers of a device in a star are the same in any order: the hub is the only device with the
server's name, and its clients look alike; a client has hubs of one key. -/
structure Database.StarOrderFree (db : Database) (d : Device) : Prop where
  hub : d.name = serverName → ∀ x ∈ db.others d, x.name ≠ serverName ∧
    ∀ x' ∈ db.others d, x.state.publicKey = x'.state.publicKey ∧
      x.state.ipAddress = x'.state.ipAddress ∧
        db.prefixesOf d.networkId x = db.prefixesOf d.networkId x'
  client : d.name ≠ serverName → ∀ x ∈ db.others d, ∀ x' ∈ db.others d, x.name = serverName →
    x'.name = serverName → x.state.publicKey = x'.state.publicKey

/-- The order of rows and of sets does not reach the configuration of `d`. -/
structure Database.OrderFree (settings : Settings) (db : Database) (d : Device) : Prop where
  dns : d.dnsEnabled = true → db.OneAddress d.networkId
  routes : db.OnePrefix d.networkId
  star : ∀ network, db.networks.get? d.networkId = some network →
    TopologyType.parse (settings.topologyOf network.topology) = some .star → db.StarOrderFree d
  mesh : ∀ network t, db.networks.get? d.networkId = some network →
    TopologyType.parse (settings.topologyOf network.topology) = some t → t ≠ .star →
      db.EntriesOrderFree settings t network.subnet d ∧ db.OwnEntryOrderFree d

/-! ### First and last devices -/

section

variable {db : Database} {d x : Device}

theorem Database.nodup_plannedDevices (db : Database) (networkId : Uuid) :
    (db.plannedDevices networkId).Nodup := (List.Nodup.of_map _ db.devices.pk_nodup).filter _

theorem Database.exists_first (hx : x ∈ db.others d) (hhub : db.MayBeHub d.networkId x false) :
    ∃ ds : List Device, ds.Perm (db.plannedDevices d.networkId) ∧
      (ds.filter (·.id ≠ d.id)).head? = some x ∧
        ds.reverse.find? (·.name = serverName) ≠ some x := by
  obtain ⟨hmem, hne⟩ := mem_others.1 hx
  have hperm := List.perm_cons_erase hmem
  have hnodup := hperm.nodup_iff.1 (db.nodup_plannedDevices d.networkId)
  obtain ⟨hnew, -⟩ := List.nodup_cons.1 hnodup
  refine ⟨_, hperm.symm, ?_, fun hlast => ?_⟩
  · rw [List.filter_cons, if_pos (decide_eq_true hne), List.head?_cons]
  · have hname : x.name = serverName := of_decide_eq_true
      (List.find?_some (p := fun y : Device => decide (y.name = serverName)) hlast)
    -- another device with the server's name comes later
    obtain ⟨hub, hmemhub, hserver, hother⟩ := hhub hname
    have hrest : hub ∈ (db.plannedDevices d.networkId).erase x :=
      (List.mem_erase_of_ne hother).2 hmemhub
    rw [List.reverse_cons, List.find?_append] at hlast
    cases hfind : ((db.plannedDevices d.networkId).erase x).reverse.find?
        (·.name = serverName) with
    | none =>
      have hnone := List.find?_eq_none.1 hfind hub (List.mem_reverse.2 hrest)
      exact hnone (decide_eq_true hserver)
    | some y =>
      have hy := List.mem_reverse.1 (List.mem_of_find?_eq_some hfind)
      rw [hfind, Option.some_or, Option.some.injEq] at hlast
      rw [hlast] at hy
      exact hnew hy

/-- The devices in an order in which another device is the last one, and is the hub or not. -/
theorem Database.exists_last (hd : d ∈ db.plannedDevices d.networkId) (hx : x ∈ db.others d)
    {isHub : Bool} (hhub : if isHub then x.name = serverName else
      x.name = serverName → d.name = serverName) :
    ∃ ds : List Device, ds.Perm (db.plannedDevices d.networkId) ∧
      (ds.filter (·.id ≠ d.id)).getLast? = some x ∧
        decide (ds.reverse.find? (·.name = serverName) = some x) = isHub := by
  obtain ⟨hmem, hne⟩ := mem_others.1 hx
  have hkeep : [x].filter (fun y => y.id ≠ d.id) = [x] := by simp [hne]
  by_cases hdhub : isHub = false ∧ x.name = serverName
  · -- the device itself is the hub, and comes behind the other one
    obtain ⟨rfl, hname⟩ := hdhub
    have hdname : d.name = serverName := hhub hname
    have hdx : d ≠ x := fun heq => hne (heq ▸ rfl)
    have hxd : x ∈ (db.plannedDevices d.networkId).erase d :=
      (List.mem_erase_of_ne hdx.symm).2 hmem
    have hperm := ((perm_concat_erase hxd).append_right [d]).trans (perm_concat_erase hd)
    refine ⟨_, hperm, ?_, ?_⟩
    · have hself : [d].filter (fun y => y.id ≠ d.id) = [] := by simp
      rw [List.filter_append, List.filter_append, hkeep, hself, List.append_nil,
        List.getLast?_concat]
    · rw [find?_reverse_concat, if_pos (decide_eq_true hdname)]
      exact decide_eq_false fun heq => hdx (Option.some.inj heq)
  · refine ⟨_, perm_concat_erase hmem, ?_, ?_⟩
    · rw [List.filter_append, hkeep, List.getLast?_concat]
    · rw [find?_reverse_concat]
      cases isHub with
      | true => rw [if_pos (decide_eq_true (by simpa using hhub))]; exact decide_eq_true rfl
      | false =>
        have hname : x.name ≠ serverName := fun hname => hdhub ⟨rfl, hname⟩
        rw [if_neg (by simpa using hname)]
        refine decide_eq_false fun hlast => ?_
        exact hname (of_decide_eq_true
          (List.find?_some (p := fun y : Device => decide (y.name = serverName)) hlast))

end

theorem Database.lastHub_of_hubs {db : Database} {d : Device}
    (hd : d ∈ db.plannedDevices d.networkId) (hdname : d.name ≠ serverName)
    (hall : ∀ x ∈ db.others d, x.name = serverName) :
    db.lastHub d.networkId = (db.others d).getLast? := by
  have hfind : db.lastHub d.networkId = (db.others d).reverse.find? (·.name = serverName) := by
    rw [lastHub, others, ← List.filter_reverse, List.find?_filter]
    refine List.find?_congr fun x hx => ?_
    by_cases hid : x.id = d.id
    · obtain rfl : x = d := eq_of_id (List.mem_reverse.1 hx) hd hid
      simp [hdname]
    · simp [hid]
  rw [hfind, ← List.head?_reverse]
  cases hrev : (db.others d).reverse with
  | nil => rfl
  | cons x xs =>
    have hx : x ∈ db.others d := List.mem_reverse.1 (hrev ▸ List.mem_cons_self)
    exact List.find?_cons_of_pos (decide_eq_true (hall x hx))

/-! ### Meshes: the entries of other devices -/

section

variable {settings : Settings} {t : TopologyType} {subnet : String} {db db' : Database}
  {d x : Device}

theorem Database.lastWithKey_spec {networkId : Uuid} {key : String} {y : Device}
    (h : db.lastWithKey networkId key = some y) :
    y ∈ db.plannedDevices networkId ∧ y.state.publicKey = key :=
  ⟨lastWithKey_mem h, of_decide_eq_true
    (List.find?_some (p := fun z : Device => decide (z.state.publicKey = key)) h)⟩

theorem Database.SameRows.shownFor_eq (h : db.SameRows db') {networkId : Uuid}
    (hx : x ∈ db.plannedDevices networkId)
    (hties : ∀ y ∈ db.plannedDevices networkId, y.state.publicKey = x.state.publicKey →
      db.TiesShownAlike y ∧ shownCandidates (db.endpointRows networkId y) =
        shownCandidates (db.endpointRows networkId x)) :
    db'.shownFor networkId x.state.publicKey = shownCandidates (db.endpointRows networkId x) := by
  obtain ⟨y, hy⟩ := exists_lastWithKey ((h.plannedDevices networkId).symm.subset hx)
  obtain ⟨hmem, hkey⟩ := lastWithKey_spec hy
  have hmem := (h.plannedDevices networkId).subset hmem
  obtain ⟨halike, hsame⟩ := hties y hmem hkey
  rw [shownFor, hy, Option.map_some, Option.getD_some, h.shownCandidates_eq hmem halike, hsame]

theorem Database.SameRows.entryOf_eq (h : db.SameRows db') {networkId : Uuid}
    (hroutes : db.OnePrefix networkId)
    {candidates : List EndpointCandidate}
    (hshown : db'.shownFor networkId x.state.publicKey = candidates) :
    db'.entryOf settings t subnet networkId x =
      (t.peerOf settings subnet x.state (db.prefixesOf networkId x) (db'.lastHub networkId = some x)
        (db'.endpointRows networkId x).head?).withCandidates settings candidates := by
  rw [entryOf, h.prefixesOf_eq hroutes, hshown]

namespace Database.EntriesOrderFree

variable (hfree : db.EntriesOrderFree settings t subnet d)
include hfree

theorem shownFor_eq (h : db.SameRows db') (hx : x ∈ db.others d) :
    db'.shownFor d.networkId x.state.publicKey = shownCandidates (db.endpointRows d.networkId x) :=
  h.shownFor_eq (mem_others.1 hx).1 fun y hy hkey =>
    ⟨hfree.ties x hx y hy hkey, hfree.shown x hx y hy hkey⟩

theorem entryOf_eq_entryOf (h : db.SameRows db') (hroutes : db.OnePrefix d.networkId)
    {x' : Device} (hx : x ∈ db.others d) (hx' : x' ∈ db.others d)
    (hhub : decide (db.lastHub d.networkId = some x) = decide (db'.lastHub d.networkId = some x') ∨
      d.name = serverName ∨ ∃ u ∈ db.others d, u.name ≠ serverName) :
    db'.entryOf settings t subnet d.networkId x' = db.entryOf settings t subnet d.networkId x := by
  have hrefl := SameRows.refl db
  have hmem := (mem_others.1 hx).1
  have hmem' := (mem_others.1 hx').1
  rw [h.entryOf_eq hroutes (hfree.shownFor_eq h hx'),
    hrefl.entryOf_eq hroutes (hfree.shownFor_eq hrefl hx),
    hfree.shown x hx x' hmem' (hfree.keys x' hx' x hx)]
  exact (hfree.entries x hx x' hx' _ _ (hrefl.mayBeHub hmem) (h.mayBeHub hmem') hhub _ _
    (hrefl.mayBeBest hmem) (h.mayBeBest hmem')).symm

/-- **The entries of the other devices are the same in any order.** -/
theorem map_entryOf_eq (hd : d ∈ db.plannedDevices d.networkId) (h : db.SameRows db')
    (hroutes : db.OnePrefix d.networkId) :
    (db'.others d).map (db'.entryOf settings t subnet d.networkId) =
      (db.others d).map (db.entryOf settings t subnet d.networkId) := by
  have hperm := h.others d
  by_cases hmixed : d.name = serverName ∨ ∃ u ∈ db.others d, u.name ≠ serverName
  · exact map_eq_map_of_forall hperm.length_eq fun x hx x' hx' =>
      hfree.entryOf_eq_entryOf h hroutes hx (hperm.subset hx') (.inr hmixed)
  · -- all others have the server's name: the last of them is the hub
    push Not at hmixed
    obtain ⟨hdname, hall⟩ := hmixed
    have hlast := lastHub_of_hubs hd hdname hall
    have hlast' := lastHub_of_hubs ((h.plannedDevices d.networkId).symm.subset hd) hdname
      fun x hx => hall x (hperm.subset hx)
    have hnodup : (db.others d).Nodup := (db.nodup_plannedDevices d.networkId).filter _
    refine map_eq_map_of_getLast? hperm.length_eq hnodup (hperm.nodup_iff.2 hnodup) ?_
    intro x hx x' hx' hsame
    rw [← hlast, ← hlast'] at hsame
    exact hfree.entryOf_eq_entryOf h hroutes hx (hperm.subset hx') (.inl (decide_eq_decide.2 hsame))

end Database.EntriesOrderFree

theorem Database.lastHub_eq_some_iff (hd : d ∈ db.plannedDevices d.networkId)
    (hothers : d.name = serverName → ∀ x ∈ db.others d, x.name ≠ serverName) :
    db.lastHub d.networkId = some d ↔ d.name = serverName := by
  constructor
  · exact fun hhub => (lastHub_spec hhub).2
  · intro hname
    obtain ⟨hub, hhub⟩ := exists_lastHub hd hname
    obtain ⟨hmem, hserver⟩ := lastHub_spec hhub
    have hid : hub.id = d.id := by
      by_contra hother
      exact hothers hname hub (mem_others.2 ⟨hmem, hother⟩) hserver
    rw [hhub, eq_of_id hmem hd hid]

/-- **The entry of a device for itself is the same in any order.** -/
theorem Database.OwnEntryOrderFree.ownEntry_eq (hfree : db.OwnEntryOrderFree d)
    (hd : d ∈ db.plannedDevices d.networkId) (h : db.SameRows db')
    (f : List EndpointCandidate → PeerInfo) :
    (if d.HasOwnEntry db' then [f (db'.shownFor d.networkId d.state.publicKey)] else []) =
      if d.HasOwnEntry db then [f (db.shownFor d.networkId d.state.publicKey)] else [] := by
  have hd' := (h.plannedDevices d.networkId).symm.subset hd
  have hmem : ∀ x, x ∈ db'.others d ↔ x ∈ db.others d := fun x => (h.others d).mem_iff
  by_cases hselects : d.exitNodeId = some d.id ∧ d.state.publicKey ≠ "" ∧
      ∀ x ∈ db.others d, x.state.publicKey ≠ d.state.publicKey
  · obtain ⟨hexit, hkey, hnew⟩ := hselects
    have halike := hfree hexit hkey hnew
    have hothers : d.name = serverName → ∀ x ∈ db.others d, x.name ≠ serverName := fun hname => by
      rwa [if_pos hname] at halike
    have hown : d.HasOwnEntry db' ↔ d.HasOwnEntry db := by
      simp only [Device.hasOwnEntry_iff hd, Device.hasOwnEntry_iff hd', ne_eq,
        lastHub_eq_some_iff hd hothers, lastHub_eq_some_iff hd' fun hname x hx =>
          hothers hname x ((hmem x).1 hx), hmem]
    by_cases hname : d.name = serverName
    · -- the device is the hub
      have hnot : ¬ d.HasOwnEntry db := fun howned =>
        ((Device.hasOwnEntry_iff hd).1 howned).2.2.1 ((lastHub_eq_some_iff hd hothers).2 hname)
      rw [if_neg hnot, if_neg (hown.not.2 hnot)]
    · rw [if_neg hname] at halike
      have hties : ∀ y ∈ db.plannedDevices d.networkId, y.state.publicKey = d.state.publicKey →
          db.TiesShownAlike y ∧ shownCandidates (db.endpointRows d.networkId y) =
            shownCandidates (db.endpointRows d.networkId d) := by
        intro y hy hsame
        have hid : y.id = d.id := by
          by_contra hother
          exact hnew y (mem_others.2 ⟨hy, hother⟩) hsame
        obtain rfl : y = d := eq_of_id hy hd hid
        exact ⟨halike, rfl⟩
      rw [h.shownFor_eq hd hties, (SameRows.refl db).shownFor_eq hd hties]
      exact if_congr hown rfl rfl
  · have hnot : ∀ {db : Database}, d ∈ db.plannedDevices d.networkId → d.HasOwnEntry db →
        d.exitNodeId = some d.id ∧ d.state.publicKey ≠ "" ∧
          ∀ x ∈ db.others d, x.state.publicKey ≠ d.state.publicKey := fun hd hown => by
      obtain ⟨hexit, hkey, -, hnew⟩ := (Device.hasOwnEntry_iff hd).1 hown
      exact ⟨hexit, hkey, hnew⟩
    rw [if_neg fun hown => hselects (hnot hd hown), if_neg fun hown => hselects ?_]
    obtain ⟨hexit, hkey, hnew⟩ := hnot hd' hown
    exact ⟨hexit, hkey, fun x hx => hnew x ((hmem x).2 hx)⟩

end

end Midscale
