import Midscale.Api.Basic
import Midscale.Net.IPv4
import Midscale.Topology.Snapshot

/-!
# The legacy configuration

`get_device_config`: the INI text of a device, rendered from the configurations that
`generate_configs` makes for all devices of the network, decrypted private keys included.

* `generateConfigs_get?` : the configuration that `generate_configs` makes for a device.
* `getDeviceConfig_privateKey` : the text carries the private key of its own device only.
* `getDeviceConfig_congr` : which rows the text is made from.
-/

namespace Midscale

/-- Configuration for a single WireGuard peer in a device config. -/
structure PeerConfig where
  publicKey : String
  allowedIps : List String := []
  endpoint : Option String := none
  endpointPort : Option ℤ := none
  persistentKeepalive : Option ℤ := none
  deriving DecidableEq, Repr

/-- Complete structured WireGuard configuration for a device. -/
structure WireGuardConfig where
  privateKey : String
  address : String
  subnet : String
  listenPort : Option ℤ := none
  dnsServers : Option (List String) := none
  peers : List PeerConfig := []
  mtu : Option ℕ := none
  deriving DecidableEq, Repr

/-- The lines of a `[Peer]` section. -/
def PeerConfig.lines (p : PeerConfig) : List String :=
  ["[Peer]", "PublicKey = " ++ p.publicKey] ++
  (if truthy p.endpoint then
    ["Endpoint = " ++ p.endpoint.getD "" ++ ":" ++
      toString ((orPort p.endpointPort (some 51820)).getD 0)]
  else []) ++
  (if p.allowedIps ≠ [] then ["AllowedIPs = " ++ ", ".intercalate p.allowedIps] else []) ++
  (match p.persistentKeepalive with
    | some k => ["PersistentKeepalive = " ++ toString k]
    | none => []) ++
  [""]

/-- `WireGuardConfig.to_ini`; a subnet that is no IPv4 network raises `ValueError`. -/
def WireGuardConfig.toIni (c : WireGuardConfig) : Except ApiError String := do
  let net ← getOr (.internal "ValueError") (IPv4Network.parse c.subnet)
  let lines :=
    ["[Interface]", "PrivateKey = " ++ c.privateKey,
      "Address = " ++ c.address ++ "/" ++ toString net.prefixlen.val] ++
    (match c.listenPort with
      | some port => if port ≠ 0 then ["ListenPort = " ++ toString port] else []
      | none => []) ++
    (match c.dnsServers with
      | some (s :: ss) => ["DNS = " ++ ", ".intercalate (s :: ss)]
      | _ => []) ++
    (match c.mtu with
      | some mtu => if mtu ≠ 0 then ["MTU = " ++ toString mtu] else []
      | none => []) ++
    [""] ++ c.peers.flatMap PeerConfig.lines
  .ok ("\n".intercalate lines)

/-- `_get_topology_generator_from_state`; an unknown topology raises `ValueError`. -/
def Settings.generatorOf (settings : Settings) (topology : Option String) :
    Except ApiError TopologyType :=
  getOr (.internal "ValueError") (TopologyType.parse (settings.topologyOf topology))

/-- The key, address and private key that `generate_configs` needs. -/
def Device.isConfigurable (d : Device) : Bool :=
  truthy d.privateKeyEnc ∧ truthy d.ipAddress ∧ truthy d.publicKey

/-- The `PeerConfig` of a planned peer. -/
def PeerPlan.config (p : PeerPlan) : PeerConfig where
  publicKey := p.publicKey
  allowedIps := p.allowedIps
  endpoint := p.endpoint
  endpointPort := p.endpointPort
  persistentKeepalive := p.persistentKeepalive.map Int.ofNat

section Generate

variable (env : Env) (t : TopologyType) (devices : List Device) (server : Device)
  (network : Network) (dnsServers : Option (List String))
  (routesByDevice : Dict String (List String))

/-- The arguments of `generate_plan` for a device, as `generate_configs` passes them. -/
def legacyPlanInput (d : Device) : PlanInput where
  device := d.state
  allDevices := (devices.filter fun d => truthy d.publicKey ∧ truthy d.ipAddress).map Device.state
  network := { subnet := network.subnet }
  serverDeviceId := server.id.str
  routesByDevice := routesByDevice

/-- The configuration of a device with its decrypted private key. -/
def legacyConfig (d : Device) (privateKey : String) : WireGuardConfig where
  privateKey := privateKey
  address := d.ipAddress.getD ""
  subnet := network.subnet
  listenPort := if d.id.str = server.id.str then some env.settings.wireguardPort else none
  dnsServers := if d.dnsEnabled then dnsServers else none
  peers := (t.generatePlan env.settings
    (legacyPlanInput devices server network routesByDevice d)).peers.map PeerPlan.config

/-- `generate_configs`: the loop over the devices. -/
def generateConfigs : List Device → Dict Uuid WireGuardConfig →
    Except ApiError (Dict Uuid WireGuardConfig)
  | [], configs => .ok configs
  | d :: ds, configs =>
    if d.isConfigurable then
      match env.security.decryptPrivateKey (d.privateKeyEnc.getD "") with
      | .error e => .error (.internal e)
      | .ok privateKey =>
        generateConfigs ds (configs.set d.id
          (legacyConfig env t devices server network dnsServers routesByDevice d privateKey))
    else generateConfigs ds configs

end Generate

/-- `get_device_config`. -/
def getDeviceConfig (env : Env) (db : Database) (deviceId : Uuid) : Except ApiError String := do
  let device ← getOr (.http 404 "Device not found") (db.devices.get? deviceId)
  ensure (truthy device.publicKey ∧ truthy device.privateKeyEnc ∧ truthy device.ipAddress)
    (.http 400 "Device keys not yet generated")
  let network ← scalarOne (db.networks.get? device.networkId)
  let allDevices := db.plannedDevices device.networkId
  let server ← getOr (.http 500 "Server device not found in network")
    (allDevices.find? fun d => d.name = serverName)
  let dnsServers := if device.dnsEnabled then db.buildDnsServers env.setOrder device.networkId
    else none
  let t ← env.settings.generatorOf (some (env.settings.topologyOf network.topology))
  let configs ← generateConfigs env t allDevices server network dnsServers
    (db.buildRoutesByDevice device.networkId).2 allDevices .empty
  let config ← getOr (.http 500 "Failed to generate device config") (configs.get? device.id)
  config.toIni

/-! ### The configurations -/

section Generate

variable {env : Env} {t : TopologyType} {devices : List Device} {server : Device}
  {network : Network} {dnsServers : Option (List String)}
  {routesByDevice : Dict String (List String)}

theorem generateConfigs_forall {P : Uuid → WireGuardConfig → Prop} {ds : List Device}
    {configs configs' : Dict Uuid WireGuardConfig}
    (hds : ∀ d ∈ ds, ∀ privateKey,
      env.security.decryptPrivateKey (d.privateKeyEnc.getD "") = .ok privateKey →
      P d.id (legacyConfig env t devices server network dnsServers routesByDevice d privateKey))
    (hconfigs : ∀ id c, configs.get? id = some c → P id c)
    (h : generateConfigs env t devices server network dnsServers routesByDevice ds configs =
      .ok configs') : ∀ id c, configs'.get? id = some c → P id c := by
  induction ds generalizing configs with
  | nil => cases h; exact hconfigs
  | cons d ds ih =>
    rw [List.forall_mem_cons] at hds
    rw [generateConfigs] at h
    split_ifs at h
    · split at h
      · cases h
      · rename_i privateKey hkey
        refine ih hds.2 (fun id c hc => ?_) h
        rw [Dict.get?_set] at hc
        split_ifs at hc with hid
        · cases hc
          exact hid ▸ hds.1 privateKey hkey
        · exact hconfigs id c hc
    · exact ih hds.2 hconfigs h

end Generate

/-! ### The text -/

section

variable {env : Env} {db db' : Database} {deviceId : Uuid}

/-- The text carries the private key of the device, and of no other. -/
theorem getDeviceConfig_privateKey {text : String} (h : getDeviceConfig env db deviceId = .ok text) :
    ∃ (device : Device) (config : WireGuardConfig),
      db.devices.get? deviceId = some device ∧ config.toIni = .ok text ∧
        env.security.decryptPrivateKey (device.privateKeyEnc.getD "") = .ok config.privateKey := by
  simp only [getDeviceConfig, bind_eq_ok, getOr_eq_ok] at h
  obtain ⟨device, hd, -, -, network, -, server, -, t, -, configs, hconfigs, config, hconfig, hini⟩ :=
    h
  refine ⟨device, config, hd, hini, ?_⟩
  have hall := generateConfigs_forall
    (P := fun id c => ∀ d ∈ db.devices, d.id = id →
      env.security.decryptPrivateKey (d.privateKeyEnc.getD "") = .ok c.privateKey)
    (fun d hd k hk d' hd' hid =>
      db.devices.eq_of_pk (Database.mem_plannedDevices.1 hd).1 hd' hid.symm ▸ hk)
    (fun id c hc => by rw [Dict.get?_empty] at hc; cases hc) hconfigs
  exact hall _ config hconfig device (Table.get?_eq_some_iff.1 hd).1 rfl

/-- What the text is made from: the device and, of its network, the row, the planned devices, the
entries and the routes. -/
theorem getDeviceConfig_congr {device : Device} (hd : db.devices.get? deviceId = some device)
    (hd' : db'.devices.get? deviceId = some device)
    (hnet : db'.networks.get? device.networkId = db.networks.get? device.networkId)
    (hplanned : db'.plannedDevices device.networkId = db.plannedDevices device.networkId)
    (hdns : db'.buildDnsServers env.setOrder device.networkId =
      db.buildDnsServers env.setOrder device.networkId)
    (hroutes : db'.buildRoutesByDevice device.networkId =
      db.buildRoutesByDevice device.networkId) :
    getDeviceConfig env db' deviceId = getDeviceConfig env db deviceId := by
  unfold getDeviceConfig
  rw [hd, hd']
  simp only [getOr, ok_bind, hnet, hplanned, hdns, hroutes]

end

end Midscale
