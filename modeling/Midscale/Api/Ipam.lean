import Midscale.Api.Basic
import Midscale.Data.Sort
import Midscale.Net.IPv4

/-!
# Address allocation

`app.services.ipam.allocate_ip`: the first host address of a subnet that is neither the gateway nor
held by a device of the network.

* `allocateIp_eq_ok` : what the allocated address satisfies.
* `allocateIp_eq_ok_iff`, `allocateIp_conflict_iff` : the address is the least one that is free, and
  there is none only when every one is held.
-/

namespace Midscale

/-- The texts of the host addresses of a subnet. -/
def IPv4Network.hostTexts (net : IPv4Network) : List String := net.hosts.map IPv4Address.str

/-- `_network_address`; the detail ends with the text of the `ValueError`, which is left out. -/
def networkAddress (subnet : String) : Except ApiError IPv4Network :=
  getOr (.http 400 "Invalid subnet: ") (IPv4Network.parse subnet)

/-- The addresses that the devices of a network hold. -/
def Database.usedIps (db : Database) (networkId : Uuid) : List String :=
  (db.devices.select fun d => d.networkId = networkId ∧ d.ipAddress.isSome).filterMap (·.ipAddress)

/-- `allocate_ip`. -/
def allocateIp (db : Database) (networkId : Uuid) (subnet : String) : Except ApiError String := do
  let net ← networkAddress subnet
  let usedIps := db.usedIps networkId
  let available := net.hostTexts
  let gateway := available.head?
  getOr (.http 409 "No available IP addresses in subnet")
    (available.find? fun ip => some ip ≠ gateway ∧ ip ∉ usedIps)

theorem mem_usedIps {db : Database} {networkId : Uuid} {ip : String} :
    ip ∈ db.usedIps networkId ↔
      ∃ d ∈ db.devices, d.networkId = networkId ∧ d.ipAddress = some ip := by
  simp only [Database.usedIps, List.mem_filterMap, Table.mem_select, decide_eq_true_eq]
  constructor
  · rintro ⟨d, ⟨hd, hnet, -⟩, hip⟩
    exact ⟨d, hd, hnet, hip⟩
  · rintro ⟨d, hd, hnet, hip⟩
    exact ⟨d, ⟨hd, hnet, hip ▸ rfl⟩, hip⟩

/-- **The allocated address** is a host of the subnet, not its first one, and held by no device of
the network. -/
theorem allocateIp_eq_ok {db : Database} {networkId : Uuid} {subnet ip : String}
    (h : allocateIp db networkId subnet = .ok ip) : ∃ net,
      IPv4Network.parse subnet = some net ∧ ip ∈ net.hostTexts ∧ net.hostTexts.head? ≠ some ip ∧
        ∀ d ∈ db.devices, d.networkId = networkId → d.ipAddress ≠ some ip := by
  obtain ⟨net, hnet, h⟩ := bind_eq_ok.1 h
  have hfind := getOr_eq_ok.1 h
  have hcond := List.find?_some hfind
  rw [decide_eq_true_eq] at hcond
  obtain ⟨hgateway, hused⟩ := hcond
  refine ⟨net, getOr_eq_ok.1 hnet, List.mem_of_find?_eq_some hfind, Ne.symm hgateway, ?_⟩
  intro d hd hid hip
  exact hused (mem_usedIps.2 ⟨d, hd, hid, hip⟩)

/-- The hosts of a subnet, but for the first one, whose texts no device of the network holds. -/
def Database.freeHosts (db : Database) (networkId : Uuid) (net : IPv4Network) :
    Set IPv4Address :=
  {x | x ∈ net.hosts ∧ net.hosts.head? ≠ some x ∧ x.str ∉ db.usedIps networkId}

theorem allocateIp_eq {db : Database} {networkId : Uuid} {subnet : String} {net : IPv4Network}
    (hnet : IPv4Network.parse subnet = some net) :
    allocateIp db networkId subnet = getOr (.http 409 "No available IP addresses in subnet")
      ((net.hosts.find? fun x => net.hosts.head? ≠ some x ∧ x.str ∉ db.usedIps networkId).map
        IPv4Address.str) := by
  have hparse : networkAddress subnet = .ok net := by rw [networkAddress, hnet]; rfl
  have hcond : ∀ x : IPv4Address, (some x.str ≠ net.hostTexts.head? ∧
      x.str ∉ db.usedIps networkId) ↔
      (net.hosts.head? ≠ some x ∧ x.str ∉ db.usedIps networkId) := by
    intro x
    refine and_congr_left fun _ => ?_
    rw [IPv4Network.hostTexts, List.head?_map]
    cases net.hosts.head? <;> simp [eq_comm]
  simp only [allocateIp, hparse, bind, Except.bind]
  rw [IPv4Network.hostTexts, List.find?_map, ← IPv4Network.hostTexts]
  simp only [Function.comp_def, hcond]

/-- **The allocated address** is the least one that is free. -/
theorem allocateIp_eq_ok_iff {db : Database} {networkId : Uuid} {subnet : String}
    {net : IPv4Network} (hnet : IPv4Network.parse subnet = some net) {x : IPv4Address} :
    allocateIp db networkId subnet = .ok x.str ↔ IsLeast (db.freeHosts networkId net) x := by
  rw [allocateIp_eq hnet, getOr_eq_ok, Option.map_eq_some_iff]
  simp only [IPv4Address.str_inj, exists_eq_right, find?_eq_some_iff_isLeast net.pairwise_hosts,
    decide_eq_true_eq]
  rfl

/-- **No address** is allocated exactly if none is free. -/
theorem allocateIp_conflict_iff {db : Database} {networkId : Uuid} {subnet : String}
    {net : IPv4Network} (hnet : IPv4Network.parse subnet = some net) :
    allocateIp db networkId subnet = .error (.http 409 "No available IP addresses in subnet") ↔
      db.freeHosts networkId net = ∅ := by
  rw [allocateIp_eq hnet, getOr_eq_error, and_iff_left rfl, Option.map_eq_none_iff,
    List.find?_eq_none, Set.eq_empty_iff_forall_notMem]
  refine forall_congr' fun x => ?_
  rw [decide_eq_true_eq]
  exact not_and.symm

end Midscale
