import Midscale.Config.Candidates
import Midscale.Config.Hash
import Midscale.Config.InactiveDevices
import Midscale.Data.Sort

/-!
# Freshness and the hash

A device that reports its endpoints again, or is probed again, changes timestamps.  They reach the
plan through the order of `last_seen` alone, but every candidate that is shown carries its
`last_seen` as text, and the candidates are hashed.

* `Database.SameButTimes` : two states that differ in timestamps alone.
* `hash_ignores_freshness_iff` : **the hash is the same exactly if every endpoint that is shown was
  last seen at the same time.**
* `reported_again_rehashed` : a report that changes nothing else changes the hash.
-/

namespace Midscale

/-! ### What is compared -/

/-- The row without its timestamps. -/
def Network.withoutTimes (n : Network) : Network := { n with createdAt := 0 }

/-- The row without its timestamps. -/
def Device.withoutTimes (d : Device) : Device :=
  { d with lastSeenAt := none, lastHandshake := none, createdAt := 0, updatedAt := 0 }

/-- The row without its timestamps. -/
def AdvertisedRoute.withoutTimes (r : AdvertisedRoute) : AdvertisedRoute :=
  { r with createdAt := 0, updatedAt := 0 }

/-- The row without its timestamps. -/
def DeviceEndpoint.withoutTimes (e : DeviceEndpoint) : DeviceEndpoint :=
  { e with lastSeen := 0, lastProbeAt := none }

/-- The row without its timestamps. -/
def DNSEntry.withoutTimes (e : DNSEntry) : DNSEntry := { e with createdAt := 0 }

/-- The two states return their rows in the same order, differ in timestamps alone, and the
endpoints of each device have the same order of last seen. -/
structure Database.SameButTimes (db db' : Database) : Prop where
  networks : db'.networks.rows.map Network.withoutTimes = db.networks.rows.map Network.withoutTimes
  devices : db'.devices.rows.map Device.withoutTimes = db.devices.rows.map Device.withoutTimes
  routes : db'.routes.rows.map AdvertisedRoute.withoutTimes =
    db.routes.rows.map AdvertisedRoute.withoutTimes
  endpoints : db'.endpoints.rows.map DeviceEndpoint.withoutTimes =
    db.endpoints.rows.map DeviceEndpoint.withoutTimes
  dnsEntries : db'.dnsEntries.rows.map DNSEntry.withoutTimes =
    db.dnsEntries.rows.map DNSEntry.withoutTimes
  lastSeen : ∀ e ∈ db.endpoints, ∀ f ∈ db.endpoints, e.deviceId = f.deviceId →
    ∀ e' ∈ db'.endpoints, ∀ f' ∈ db'.endpoints, e'.id = e.id → f'.id = f.id →
      (e'.lastSeen ≤ f'.lastSeen ↔ e.lastSeen ≤ f.lastSeen)

/-! ### Endpoints -/

theorem DeviceEndpoint.candidate_eq_iff {e e' : DeviceEndpoint}
    (h : e'.withoutTimes = e.withoutTimes) (preferred : Bool) :
    e'.candidate preferred = e.candidate preferred ↔
      e'.lastSeen.isoformat = e.lastSeen.isoformat := by
  simp only [withoutTimes, DeviceEndpoint.mk.injEq] at h
  simp [candidate, h]

/-- Endpoints before and after, which differ in timestamps and are ordered alike. -/
structure SameEndpoints (w : List (DeviceEndpoint × DeviceEndpoint)) : Prop where
  withoutTimes : ∀ q ∈ w, q.2.withoutTimes = q.1.withoutTimes
  ordered : ∀ q ∈ w, ∀ q' ∈ w, endpointLe q.1 q'.1 ↔ endpointLe q.2 q'.2

namespace SameEndpoints

variable {w : List (DeviceEndpoint × DeviceEndpoint)} (h : SameEndpoints w)
include h

theorem bestEndpoint_eq : bestEndpoint (w.map Prod.snd) = bestEndpoint (w.map Prod.fst) := by
  have hactive : (w.map Prod.snd).filter (·.isActive) =
      (w.filter fun q => q.1.isActive).map Prod.snd := by
    rw [List.filter_map]
    refine congrArg _ (List.filter_congr fun q hq => ?_)
    have heq := congrArg DeviceEndpoint.isActive (h.withoutTimes q hq)
    exact heq
  obtain ⟨s, hperm, hfst, hsnd⟩ := exists_insertionSort_map endpointLe (f := Prod.fst)
    (g := Prod.snd) (l := w.filter fun q => q.1.isActive) fun q hq q' hq' =>
      h.ordered q (List.mem_filter.1 hq).1 q' (List.mem_filter.1 hq').1
  rw [bestEndpoint, bestEndpoint, hactive, List.filter_map, sortEndpoints, sortEndpoints, hsnd]
  have hkept : (w.filter ((·.isActive) ∘ Prod.fst)).map Prod.fst =
      (w.filter fun q => q.1.isActive).map Prod.fst := rfl
  rw [hkept, hfst]
  cases s with
  | nil => rfl
  | cons q s =>
    have hq : q ∈ w := (List.mem_filter.1 (hperm.subset List.mem_cons_self)).1
    have heq := congrArg (fun e : DeviceEndpoint => (some e.endpoint, some e.port))
      (h.withoutTimes q hq)
    exact heq

theorem shownCandidates_eq_iff : shownCandidates (w.map Prod.snd) = shownCandidates (w.map Prod.fst) ↔
    ∀ q ∈ w, q.2.lastSeen.isoformat = q.1.lastSeen.isoformat := by
  have hkey : ∀ q ∈ w, q.2.candidateKey = q.1.candidateKey := by
    intro q hq
    have heq := congrArg DeviceEndpoint.candidateKey (h.withoutTimes q hq)
    exact heq
  obtain ⟨s, hperm, hfst, hsnd⟩ := exists_insertionSort_map
    (fun e e' : DeviceEndpoint => e'.candidateKey ≤ e.candidateKey) (f := Prod.fst) (g := Prod.snd)
    (l := w) fun q hq q' hq' => by rw [hkey q hq, hkey q' hq']
  have hcandidate : ∀ q ∈ s, ∀ preferred, q.2.candidate preferred = q.1.candidate preferred ↔
      q.2.lastSeen.isoformat = q.1.lastSeen.isoformat := fun q hq =>
    DeviceEndpoint.candidate_eq_iff (h.withoutTimes q (hperm.subset hq))
  have hall : (∀ q ∈ w, q.2.lastSeen.isoformat = q.1.lastSeen.isoformat) ↔
      ∀ q ∈ s, q.2.lastSeen.isoformat = q.1.lastSeen.isoformat :=
    forall_congr' fun q => by rw [hperm.mem_iff]
  rw [shownCandidates, shownCandidates, sortEndpointCandidates, sortEndpointCandidates, hfst, hsnd, hall]
  cases s with
  | nil => simp
  | cons q s =>
    rw [List.forall_mem_cons] at hcandidate
    rw [List.map_cons, List.map_cons, List.cons.injEq, List.map_map, List.map_map,
      List.forall_mem_cons, hcandidate.1, List.map_inj_left]
    exact and_congr_right fun _ => forall₂_congr fun q' hq' => hcandidate.2 q' hq' false

end SameEndpoints

/-! ### The queries -/

theorem Database.buildDnsServers_eq_match (db : Database) (order : SetOrder String)
    (networkId : Uuid) : db.buildDnsServers order networkId =
      match (db.dnsEntries.select fun e => e.networkId = networkId).map (·.address) with
      | [] => none
      | addresses => some (order.elems addresses) := by
  rw [buildDnsServers]
  cases db.dnsEntries.select fun e => e.networkId = networkId with
  | nil => rfl
  | cons e es => rfl

namespace Database.SameButTimes

variable {db db' : Database} (h : db.SameButTimes db')
include h

theorem plannedDevices_map_state (networkId : Uuid) :
    (db'.plannedDevices networkId).map Device.state = (db.plannedDevices networkId).map Device.state :=
  Table.map_select_of_map_eq h.devices (fun _ => rfl) fun _ => rfl

theorem buildDeviceStates_eq (networkId : Uuid) :
    db'.buildDeviceStates networkId = db.buildDeviceStates networkId := by
  have hnames : (db'.plannedDevices networkId).map (fun d => (d.name, d.id.str)) =
      (db.plannedDevices networkId).map fun d => (d.name, d.id.str) :=
    Table.map_select_of_map_eq h.devices (fun _ => rfl) fun _ => rfl
  have hserver : ∀ l : List Device,
      l.foldl (fun sid d => if d.name = serverName then some d.id.str else sid) none =
        (l.map fun d => (d.name, d.id.str)).foldl
          (fun sid e => if e.1 = serverName then some e.2 else sid) none := fun l => by
    rw [List.foldl_map]
  rw [buildDeviceStates, buildDeviceStates, h.plannedDevices_map_state, hserver, hserver, hnames]

theorem buildRoutesByDevice_eq (networkId : Uuid) :
    db'.buildRoutesByDevice networkId = db.buildRoutesByDevice networkId := by
  have hprefixes : (db'.approvedRoutes networkId).map (·.pfx) =
      (db.approvedRoutes networkId).map (·.pfx) :=
    Table.map_select_of_map_eq h.routes (fun _ => rfl) fun _ => rfl
  have hrows : (db'.approvedRoutes networkId).map (fun r => (r.deviceId.str, r.pfx)) =
      (db.approvedRoutes networkId).map fun r => (r.deviceId.str, r.pfx) :=
    Table.map_select_of_map_eq h.routes (fun _ => rfl) fun _ => rfl
  rw [buildRoutesByDevice, buildRoutesByDevice, hprefixes, Dict.groupBy_eq_of_map_eq hrows]

theorem buildDnsServers_eq (order : SetOrder String) (networkId : Uuid) :
    db'.buildDnsServers order networkId = db.buildDnsServers order networkId := by
  have haddresses : (db'.dnsEntries.select fun e => e.networkId = networkId).map (·.address) =
      (db.dnsEntries.select fun e => e.networkId = networkId).map (·.address) :=
    Table.map_select_of_map_eq h.dnsEntries (fun _ => rfl) fun _ => rfl
  rw [buildDnsServers_eq_match, buildDnsServers_eq_match, haddresses]

/-- The endpoints of a device before and after. -/
theorem exists_endpoints (networkId : Uuid) (k : String) :
    ∃ w, SameEndpoints w ∧ (∀ q ∈ w, q.1 ∈ db.endpoints ∧ q.2 ∈ db'.endpoints) ∧
      (db.buildEndpointsByDevice networkId).getD k [] = w.map Prod.fst ∧
        (db'.buildEndpointsByDevice networkId).getD k [] = w.map Prod.snd := by
  have hids : (db'.devices.select fun d => d.networkId = networkId ∧ d.isActive).map (·.id) =
      (db.devices.select fun d => d.networkId = networkId ∧ d.isActive).map (·.id) :=
    Table.map_select_of_map_eq h.devices (fun _ => rfl) fun _ => rfl
  have hendpoints : ∀ db : Database, (db.buildEndpointsByDevice networkId).getD k [] =
      (db.endpoints.select fun e => e.deviceId.str = k ∧ e.isActive ∧ e.deviceId ∈
        (db.devices.select fun d => d.networkId = networkId ∧ d.isActive).map (·.id)).insertionSort
          endpointLe := by
    intro db
    rw [buildEndpointsByDevice, Dict.getD_groupBy, List.map_id', sortEndpoints,
      filter_insertionSort, Table.select, Table.select, List.filter_filter]
    refine congrArg _ (List.filter_congr fun e _ => ?_)
    rw [← Bool.decide_and]
  rw [hendpoints, hendpoints, hids]
  obtain ⟨z, hfst, hsnd, hz⟩ := exists_zip_of_map_eq (Table.map_select_of_map_eq h.endpoints
    (p := fun e => e.deviceId.str = k ∧ e.isActive ∧ e.deviceId ∈
      (db.devices.select fun d => d.networkId = networkId ∧ d.isActive).map (·.id))
    (fun _ => rfl) (g := DeviceEndpoint.withoutTimes) fun _ => rfl)
  -- the rows before and after, and the device they belong to
  have hmem : ∀ q ∈ z, q.1 ∈ db.endpoints ∧ q.1.deviceId.str = k ∧ q.2 ∈ db'.endpoints := by
    intro q hq
    have h₁ : q.1 ∈ z.map Prod.fst := List.mem_map_of_mem hq
    have h₂ : q.2 ∈ z.map Prod.snd := List.mem_map_of_mem hq
    rw [hfst, Table.mem_select] at h₁
    rw [hsnd, Table.mem_select] at h₂
    exact ⟨h₁.1, (of_decide_eq_true h₁.2).1, h₂.1⟩
  have hordered : ∀ q ∈ z, ∀ q' ∈ z, endpointLe q.1 q'.1 ↔ endpointLe q.2 q'.2 := by
    intro q hq q' hq'
    obtain ⟨h₁, hk₁, h₂⟩ := hmem q hq
    obtain ⟨h₁', hk₁', h₂'⟩ := hmem q' hq'
    have hid := congrArg DeviceEndpoint.id (hz q hq)
    have hid' := congrArg DeviceEndpoint.id (hz q' hq')
    have hpriority := congrArg DeviceEndpoint.priority (hz q hq)
    have hpriority' := congrArg DeviceEndpoint.priority (hz q' hq')
    have hseen := h.lastSeen _ h₁' _ h₁ (Uuid.str_inj.1 (hk₁'.trans hk₁.symm)) _ h₂' _ h₂ hid' hid
    change q.2.priority = q.1.priority at hpriority
    change q'.2.priority = q'.1.priority at hpriority'
    rw [endpointLe, endpointLe, hpriority, hpriority', hseen]
  obtain ⟨w, hperm, hwfst, hwsnd⟩ := exists_insertionSort_map endpointLe hordered
  rw [hfst] at hwfst
  rw [hsnd] at hwsnd
  refine ⟨w, ⟨fun q hq => hz q (hperm.subset hq), fun q hq q' hq' =>
    hordered q (hperm.subset hq) q' (hperm.subset hq')⟩, fun q hq => ?_, hwfst, hwsnd⟩
  exact ⟨(hmem q (hperm.subset hq)).1, (hmem q (hperm.subset hq)).2.2⟩

theorem networks_state (networkId : Uuid) : (db'.networks.get? networkId).map Network.state =
    (db.networks.get? networkId).map Network.state := by
  have hpk : ∀ n : Network, Row.pk n.withoutTimes = Row.pk n := fun _ => rfl
  have hget : ∀ t : Table Network, (t.get? networkId).map Network.state =
      ((t.map Network.withoutTimes hpk).get? networkId).map Network.state := fun t => by
    rw [Table.get?_map, Option.map_map]
    rfl
  have htables : db'.networks.map Network.withoutTimes hpk =
      db.networks.map Network.withoutTimes hpk := Table.ext_rows h.networks
  rw [hget db'.networks, htables, ← hget]

theorem device_eq {d d' : Device} (hd : d ∈ db.devices) (hd' : d' ∈ db'.devices) (hid : d'.id = d.id) :
    d'.withoutTimes = d.withoutTimes := by
  have hmem : d.withoutTimes ∈ db'.devices.rows.map Device.withoutTimes := by
    rw [h.devices]
    exact List.mem_map_of_mem hd
  obtain ⟨r, hr, heq⟩ := List.mem_map.1 hmem
  rw [← heq, db'.devices.eq_of_pk hd' hr]
  have hrid := congrArg Device.id heq
  exact hid.trans hrid.symm

end Database.SameButTimes

/-! ### The hash -/

section

variable {env env' : Env} {db db' : Database} {d : Device} {network : Network} {current : DeviceState}
  {t : TopologyType} {net : IPv4Network}

theorem Database.SameButTimes.generatePlan_eq (h : db.SameButTimes db') (settings : Settings)
    (order : SetOrder String) (networkId : Uuid) (network : Network) (current : DeviceState)
    (t : TopologyType) :
    t.generatePlan settings ((db'.configView order networkId).planInput network current) =
      t.generatePlan settings ((db.configView order networkId).planInput network current) := by
  have hstates := h.buildDeviceStates_eq networkId
  refine TopologyType.generatePlan_congr settings t rfl (congrArg Prod.fst hstates) rfl
    (congrArg (fun s => s.2.getD "") hstates) (fun s _ => ?_) (fun s _ => ?_) fun s _ => ?_
  · exact congrArg (fun r => r.2.getD s.id []) (h.buildRoutesByDevice_eq networkId)
  · obtain ⟨w, hw, -, hfst, hsnd⟩ := h.exists_endpoints networkId s.id
    change bestEndpoint ((db'.buildEndpointsByDevice networkId).getD s.id []) =
      bestEndpoint ((db.buildEndpointsByDevice networkId).getD s.id [])
    rw [hfst, hsnd, hw.bestEndpoint_eq]
  · obtain ⟨w, -, -, hfst, hsnd⟩ := h.exists_endpoints networkId s.id
    change ((db'.buildEndpointsByDevice networkId).getD s.id []).isEmpty =
      ((db.buildEndpointsByDevice networkId).getD s.id []).isEmpty
    rw [hfst, hsnd, List.isEmpty_map, List.isEmpty_map]

theorem Database.SameButTimes.shownCandidates_eq_iff (h : db.SameButTimes db') {networkId : Uuid}
    {y : Device} (hy : y ∈ db.plannedDevices networkId) :
    shownCandidates ((db'.buildEndpointsByDevice networkId).getD y.id.str []) =
      shownCandidates ((db.buildEndpointsByDevice networkId).getD y.id.str []) ↔
        ∀ e ∈ db.endpoints, e.deviceId = y.id → e.isActive = true → ∀ e' ∈ db'.endpoints,
          e'.id = e.id → e'.lastSeen.isoformat = e.lastSeen.isoformat := by
  obtain ⟨w, hw, hmem, hfst, hsnd⟩ := h.exists_endpoints networkId y.id.str
  have hrows := @Database.mem_endpointsOf db networkId y hy
  rw [hfst] at hrows
  rw [hfst, hsnd, hw.shownCandidates_eq_iff]
  constructor
  · intro hall e he hdevice hactive e' he' hid
    obtain ⟨q, hq, rfl⟩ := List.mem_map.1 (hrows.2 ⟨he, hactive, hdevice⟩)
    have hqid := congrArg DeviceEndpoint.id (hw.withoutTimes q hq)
    obtain rfl : q.2 = e' := db'.endpoints.eq_of_pk (hmem q hq).2 he' (hqid.trans hid.symm)
    exact hall q hq
  · intro hall q hq
    obtain ⟨he, hactive, hdevice⟩ := hrows.1 (List.mem_map_of_mem hq)
    have hqid := congrArg DeviceEndpoint.id (hw.withoutTimes q hq)
    exact hall q.1 he hdevice hactive q.2 (hmem q hq).2 hqid

/-- The peers are the same exactly if the candidates that are shown are. -/
theorem Database.ConfigSubject.peers_eq_iff (hsub : db.ConfigSubject env d network current t net)
    (h : db.SameButTimes db') (hd : d ∈ db.devices) (order : SetOrder String) :
    (db'.configView order d.networkId).peers env.settings t network current =
        (db.configView order d.networkId).peers env.settings t network current ↔
      ∀ y, Database.ShownTo env db d y →
        shownCandidates ((db'.buildEndpointsByDevice d.networkId).getD y.id.str []) =
          shownCandidates ((db.buildEndpointsByDevice d.networkId).getD y.id.str []) := by
  have hgen : TopologyType.parse (env.settings.topologyOf network.topology) = some t :=
    getOr_eq_ok.1 hsub.generator
  have hmesh := isMeshOrHybrid_iff hgen
  have hstates : (db'.configView order d.networkId).states = (db.buildDeviceStates d.networkId).1 :=
    congrArg Prod.fst (h.buildDeviceStates_eq d.networkId)
  rw [ConfigView.peers, ConfigView.peers, h.generatePlan_eq, List.map_inj_left]
  by_cases ht : t = .star
  · -- in a star nothing is shown
    rw [Bool.eq_false_iff.2 fun hb => hmesh.1 hb ht]
    refine iff_of_true (fun p _ => p.info_star _ _ _) fun y hy => ?_
    obtain ⟨⟨network', hn, hb⟩, -⟩ := hy
    obtain rfl : network = network' := Option.some.inj (hsub.network_eq.symm.trans hn)
    exact absurd ht (hmesh.1 hb)
  · rw [hmesh.2 ht]
    have hinfo : ∀ p : PeerPlan, ∀ y, db.lastWithKey d.networkId p.publicKey = some y →
        (p.info env.settings true ((db'.configView order d.networkId).endpointsOf p.publicKey) =
          p.info env.settings true ((db.configView order d.networkId).endpointsOf p.publicKey) ↔
        shownCandidates ((db'.buildEndpointsByDevice d.networkId).getD y.id.str []) =
          shownCandidates ((db.buildEndpointsByDevice d.networkId).getD y.id.str [])) := by
      intro p y hy
      rw [ConfigView.endpointsOf_eq hstates hy, ConfigView.endpointsOf_eq rfl hy]
      change p.info _ _ ((db'.buildEndpointsByDevice d.networkId).getD y.id.str []) =
        p.info _ _ ((db.buildEndpointsByDevice d.networkId).getD y.id.str []) ↔ _
      rw [p.info_eq _ (db'.nodup_endpoints _ _), p.info_eq _ (db.nodup_endpoints _ _)]
      exact ⟨fun heq => congrArg PeerInfo.endpointCandidates heq, fun heq => by rw [heq]⟩
    constructor
    · rintro hall y ⟨-, x, hx, hy, hx'⟩
      obtain ⟨p, hp, hk⟩ := (hsub.mem_planKeys hd ht order).2 ⟨x, hx, rfl, hx'⟩
      rw [← hk] at hy
      exact (hinfo p y hy).1 (hall p hp)
    · intro hall p hp
      obtain ⟨x, hx, hk, hx'⟩ := (hsub.mem_planKeys hd ht order).1 ⟨p, hp, rfl⟩
      obtain ⟨y, hy⟩ := Database.exists_lastWithKey hx
      exact (hinfo p y (hk ▸ hy)).2
        (hall y ⟨⟨network, hsub.network_eq, hmesh.2 ht⟩, x, hx, hy, hx'⟩)

/-- The hash is the same exactly if the peers are. -/
theorem Database.SameButTimes.hash_eq_iff (h : db.SameButTimes db') (hclock : env.SameButClock env')
    {networkId : Uuid} (hsha :
      let r := (db.configView env.setOrder networkId).response env d network current t net
      let r' := (db'.configView env'.setOrder networkId).response env' d network current t net
      env.security.sha256 r'.configText = env.security.sha256 r.configText →
        r'.configText = r.configText) :
    ((db'.configView env'.setOrder networkId).response env' d network current t net).hash =
        ((db.configView env.setOrder networkId).response env d network current t net).hash ↔
      (db'.configView env.setOrder networkId).peers env.settings t network current =
        (db.configView env.setOrder networkId).peers env.settings t network current := by
  rw [hclock.setOrder] at hsha ⊢
  have hdns := h.buildDnsServers_eq env.setOrder networkId
  have hroutes := congrArg Prod.fst (h.buildRoutesByDevice_eq networkId)
  have hinterface : ((db'.configView env.setOrder networkId).content env' d network current t
      net).interface =
        ((db.configView env.setOrder networkId).content env d network current t net).interface := by
    simp only [ConfigView.content, configView, hdns]
  change env'.security.sha256 _ = env.security.sha256 _ ↔ _
  rw [hclock.security]
  constructor
  · intro heq
    have hpeers := (configText_eq_iff.1 (hsha heq)).2.1
    change (db'.configView env.setOrder networkId).peers env'.settings t network current =
      (db.configView env.setOrder networkId).peers env.settings t network current at hpeers
    rwa [hclock.settings] at hpeers
  · intro hpeers
    have htext : ((db'.configView env.setOrder networkId).content env' d network current t
        net).configText =
          ((db.configView env.setOrder networkId).content env d network current t net).configText := by
      refine configText_eq_iff.2 ⟨hinterface, ?_, hroutes, rfl, rfl, rfl, rfl⟩
      change (db'.configView env.setOrder networkId).peers env'.settings t network current = _
      rw [hclock.settings, hpeers]
      rfl
    exact congrArg _ htext

/-- **The hash is the same exactly if every endpoint that is shown was last seen at the same
time**, or there is no configuration. -/
theorem hash_ignores_freshness_iff (hclock : env.SameButClock env') (h : db.SameButTimes db')
    {d d' : Device} (hd : d ∈ db.devices) (hd' : d' ∈ db'.devices) (hid : d'.id = d.id)
    (hsha : env.security.NoCollision (buildConfigV2 env db d) (buildConfigV2 env' db' d')) :
    SameHash (buildConfigV2 env db d) (buildConfigV2 env' db' d') ↔
      (d.Configurable env db → ∀ y, db.ShownTo env d y → ∀ e ∈ db.endpoints, e.deviceId = y.id →
        e.isActive = true → ∀ e' ∈ db'.endpoints, e'.id = e.id →
          e'.lastSeen.isoformat = e.lastSeen.isoformat) := by
  -- the row of the device after gives the same configuration
  have hrow : buildConfigV2 env' db' d' = buildConfigV2 env' db' d := by
    change buildConfigV2 env' db' d'.withoutTimes = buildConfigV2 env' db' d.withoutTimes
    rw [h.device_eq hd hd' hid]
  have hcurrent : (db'.buildDeviceStates d.networkId).1.find? (fun s => s.id = d.id.str) =
      (db.buildDeviceStates d.networkId).1.find? fun s => s.id = d.id.str := by
    rw [h.buildDeviceStates_eq]
  rw [hrow] at hsha ⊢
  rw [← buildConfigV2_ok_iff hd]
  rcases buildConfigV2_cases hclock.settings (h.networks_state d.networkId) hcurrent with
    ⟨e, he, he'⟩ | ⟨network, network', current, t, net, hstate, hsub, hsub'⟩
  · refine iff_of_true ?_ fun ⟨r, hr⟩ => ?_
    · rw [SameHash, he, he']
    · rw [he] at hr
      cases hr
  · rw [hsub.build, hsub'.build] at hsha
    rw [hsub.build, hsub'.build, forall_prop_of_true ⟨_, rfl⟩]
    have hnetwork : (db'.configView env'.setOrder d.networkId).response env' d network' current t net =
        (db'.configView env'.setOrder d.networkId).response env' d network current t net := by
      simp only [ConfigView.response, ConfigView.content_network _ _ _ hstate]
    rw [hnetwork] at hsha ⊢
    have hhash := h.hash_eq_iff hclock (hsha _ _ rfl rfl)
    rw [SameHash, Except.map, Except.map, Except.ok.injEq, hhash, hsub.peers_eq_iff h hd]
    exact forall₂_congr fun y hy => by
      obtain ⟨-, x, hx, hlast, -⟩ := hy
      exact h.shownCandidates_eq_iff (Database.lastWithKey_mem hlast)

end

/-! ### An endpoint reported again -/

/-- A mesh. -/
def meshNetwork : Network :=
  { id := Uuid.ofNat 1, name := "mesh", subnet := "10.0.0.0/24", topology := some "mesh" }

/-- The laptop of the mesh. -/
def meshLaptop : Device where
  id := Uuid.ofNat 2
  name := "laptop"
  networkId := Uuid.ofNat 1
  publicKey := some "L"
  ipAddress := some "10.0.0.2"

/-- The phone of the mesh. -/
def meshPhone : Device where
  id := Uuid.ofNat 3
  name := "phone"
  networkId := Uuid.ofNat 1
  publicKey := some "P"
  ipAddress := some "10.0.0.3"

/-- The endpoint of the phone, last seen and probed at the given times. -/
def meshEndpoint (lastSeen lastProbeAt : Timestamp) : DeviceEndpoint where
  id := Uuid.ofNat 4
  deviceId := Uuid.ofNat 3
  endpoint := "198.51.100.7"
  lastSeen := lastSeen
  lastProbeAt := some lastProbeAt

/-- The mesh with the times of the phone's endpoint. -/
def meshOffice (lastSeen lastProbeAt : Timestamp) : Database where
  networks := .ofRows [meshNetwork] (List.nodup_singleton _)
  devices := .ofRows [meshLaptop, meshPhone] (by decide : [Uuid.ofNat 2, Uuid.ofNat 3].Nodup)
  endpoints := .ofRows [meshEndpoint lastSeen lastProbeAt] (List.nodup_singleton _)

theorem meshOffice_sameButTimes (s p s' p' : Timestamp) :
    (meshOffice s p).SameButTimes (meshOffice s' p') where
  networks := rfl
  devices := rfl
  routes := rfl
  endpoints := rfl
  dnsEntries := rfl
  lastSeen := by
    intro e he f hf _ e' he' f' hf' _ _
    rw [List.mem_singleton.1 he, List.mem_singleton.1 hf, List.mem_singleton.1 he',
      List.mem_singleton.1 hf']
    exact iff_of_true (le_refl s') (le_refl s)

theorem meshLaptop_mem (s p : Timestamp) : meshLaptop ∈ (meshOffice s p).devices :=
  List.mem_cons_self

theorem plainSecurity_noCollision (x x' : Except ApiError DeviceConfigV2Response) :
    plainEnv.security.NoCollision x x' := fun _ _ _ _ h => h

/-- Another probe does not change the laptop's hash. -/
theorem hash_ignores_freshness_iff_probe :
    SameHash (buildConfigV2 plainEnv (meshOffice 0 0) meshLaptop)
      (buildConfigV2 { plainEnv with now := 1 } (meshOffice 0 9) meshLaptop) :=
  (hash_ignores_freshness_iff ⟨rfl, rfl, rfl⟩ (meshOffice_sameButTimes 0 0 0 9)
    (meshLaptop_mem 0 0) (meshLaptop_mem 0 9) rfl (plainSecurity_noCollision _ _)).2 fun _ _ _ e he _ _ e' he' _ => by
      rw [List.mem_singleton.1 he, List.mem_singleton.1 he']
      rfl

theorem meshOffice_subject (s : Timestamp) : (meshOffice s 0).ConfigSubject plainEnv meshLaptop
    meshNetwork meshLaptop.state .mesh (.ofAddress (.ofOctets 10 0 0 0) 24) where
  network_eq := rfl
  current_eq := rfl
  generator := rfl
  subnet := by decide

/-- The phone reports its endpoint again, and the laptop's hash changes. -/
theorem reported_again_rehashed : ¬ ∀ (db db' : Database) (d d' : Device), db.SameButTimes db' →
    d ∈ db.devices → d' ∈ db'.devices → d'.id = d.id →
      SameHash (buildConfigV2 plainEnv db d) (buildConfigV2 plainEnv db' d') := by
  intro hall
  have h := meshOffice_sameButTimes 0 0 1000000 0
  have hsame := hall _ _ meshLaptop meshLaptop h (meshLaptop_mem _ _) (meshLaptop_mem _ _) rfl
  have hclock : plainEnv.SameButClock plainEnv := ⟨rfl, rfl, rfl⟩
  have hsha : ∀ s s', plainEnv.security.sha256 s' = plainEnv.security.sha256 s → s' = s :=
    fun _ _ heq => heq
  rw [SameHash, (meshOffice_subject 0).build, (meshOffice_subject 1000000).build, Except.map,
    Except.map, Except.ok.injEq, h.hash_eq_iff hclock (hsha _ _),
    (meshOffice_subject 0).peers_eq_iff h (meshLaptop_mem 0 0)] at hsame
  -- the phone is shown to the laptop
  have hphone : meshPhone ∈ (meshOffice 0 0).plannedDevices (Uuid.ofNat 1) := by decide
  have hshown : (meshOffice 0 0).ShownTo plainEnv meshLaptop meshPhone :=
    ⟨⟨meshNetwork, rfl, rfl⟩, meshPhone, hphone, by decide, .inl (by decide)⟩
  have htimes := (h.shownCandidates_eq_iff hphone).1 (hsame meshPhone hshown) (meshEndpoint 0 0)
    (List.mem_singleton_self _) rfl rfl (meshEndpoint 1000000 0) (List.mem_singleton_self _) rfl
  exact absurd htimes (by decide)

end Midscale
