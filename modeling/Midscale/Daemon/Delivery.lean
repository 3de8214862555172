import Midscale.Config.Agreement
import Midscale.Daemon.Applied

/-!
# From the plan to the commands

A plan becomes the response of `build_config_v2`, its JSON, the daemon's configuration and at last
the commands of `apply_config`.

* `buildConfigV2_planned` : the response has the planned peers, and the address of the device.
* `parseConfigV2_pulled` : the daemon reads what the response says.
* `plan_to_kernel` : **the commands set the planned peers**, in order, with their keys, AllowedIPs
  and keepalives.
-/

namespace Midscale

/-! ### The server's side -/

/-- The endpoints that the configuration shows for the peers with a key. -/
def Database.endpointsOfKey (db : Database) (networkId : Uuid) (key : String) :
    List DeviceEndpoint :=
  (db.buildEndpointsByDevice networkId).getD
    ((Dict.ofRows (·.publicKey) (·.id) (db.buildDeviceStates networkId).1).getD key "") []

theorem Database.find_state_eq {db : Database} {device : Device} {s : DeviceState}
    (hd : device ∈ db.devices)
    (h : (db.buildDeviceStates device.networkId).1.find? (fun s => s.id = device.id.str) = some s) :
    s = device.state := by
  obtain ⟨d, hmem, rfl⟩ := List.mem_map.1 (List.mem_of_find?_eq_some h)
  have hid := List.find?_some h
  rw [db.devices.eq_of_pk (Database.mem_plannedDevices.1 hmem).1 hd
    (Uuid.str_inj.1 (of_decide_eq_true hid))]

/-- **The response has the planned peers, and the address of the device.** -/
theorem buildConfigV2_planned {env : Env} {db : Database} {device : Device}
    {response : DeviceConfigV2Response} (hd : device ∈ db.devices)
    (h : buildConfigV2 env db device = .ok response) : ∃ network t net,
      db.networks.get? device.networkId = some network ∧
      env.settings.generatorOf network.topology = .ok t ∧
      IPv4Network.parse network.subnet = some net ∧
      response.interface.address = device.ipAddress.getD "" ++ "/" ++ toString net.prefixlen.val ∧
      response.peers = (t.generatePlan env.settings (db.planInput network device.state)).peers.map
        fun p => p.info env.settings (isMeshOrHybrid (env.settings.topologyOf network.topology))
          (db.endpointsOfKey device.networkId p.publicKey) := by
  simp only [buildConfigV2, bind_eq_ok, scalarOne_eq_ok, getOr_eq_ok] at h
  obtain ⟨network, hnetwork, s, hs, t, ht, net, hnet, h⟩ := h
  obtain rfl := Database.find_state_eq hd hs
  have hid : network.id = device.networkId := (Table.get?_eq_some_iff.1 hnetwork).2
  cases h
  refine ⟨network, t, net, hnetwork, ht, hnet, rfl, ?_⟩
  rw [← hid]
  rfl

/-! ### The transport -/

/-- The JSON of the response. -/
def DeviceConfigV2Response.json (r : DeviceConfigV2Response) : Json :=
  .obj [("interface", r.interface.json), ("peers", .ofList PeerInfo.json r.peers),
    ("routes", .ofList .str r.routes), ("exit_node", .ofOption .str r.exitNode),
    ("version", .str r.version), ("config_version", .str r.configVersion),
    ("schema_version", .str r.schemaVersion),
    ("min_daemon_version", .ofOption .str r.minDaemonVersion), ("revision", .str r.revision),
    ("generated_at", .str r.generatedAt), ("hash", .str r.hash)]

namespace Daemon

/-- A text. -/
def text? : Json → Option String
  | .str s => some s
  | _ => none

/-- A value that may be missing. -/
def optional? {α : Type} (f : Json → Option α) : Json → Option (Option α)
  | .null => some none
  | j => (f j).map some

/-- A whole number. -/
def int? : Json → Option ℤ
  | .int n => some n
  | _ => none

/-- A list of texts. -/
def texts? : Json → Option (List String)
  | .arr xs => xs.mapM text?
  | _ => none

/-- `pull_config_v2`, for a response with status 200. -/
def pullConfigV2 (data : Json) : Pull where
  config :=
    { interface := (data.get? "interface").getD .null
      peers := (data.get? "peers").getD .null
      routes := (data.get? "routes").getD .null
      exitNode := (data.get? "exit_node").getD .null }
  hash := (data.get? "hash").bind text?
  revision := (data.get? "revision").bind text?

/-- The peer, if its fields have their declared types. -/
def DesiredPeer.typed? (p : DesiredPeer) : Option TypedPeer := do
  let publicKey ← text? p.publicKey
  let allowedIps ← texts? p.allowedIps
  let endpoint ← optional? text? p.endpoint
  let endpointPort ← optional? int? p.endpointPort
  let persistentKeepalive ← optional? int? p.persistentKeepalive
  some { publicKey, allowedIps, endpoint, endpointPort, persistentKeepalive }

/-- The configuration, if its peers have fields of their declared types; the parser gives no listen
port. -/
def DesiredConfig.typed? (c : DesiredConfig) : Option TypedConfig := do
  let peers ← c.peers.mapM DesiredPeer.typed?
  some { privateKey := c.privateKey, address := c.address, subnet := c.subnet, peers }

/-- The peer of a response as the runtime gets it. -/
def typedPeer (p : PeerInfo) : TypedPeer where
  publicKey := p.publicKey
  allowedIps := p.allowedIps
  endpoint := p.endpoint
  endpointPort := p.endpointPort
  persistentKeepalive := p.persistentKeepalive.map Int.ofNat

/-! ### The daemon's side -/

theorem texts?_ofList (xs : List String) : texts? (.ofList .str xs) = some xs := by
  change (xs.map Json.str).mapM text? = some xs
  induction xs with
  | nil => rfl
  | cons x xs ih => simp [List.mapM_cons, ih, text?]

theorem parsePeer_typed (p : PeerInfo) :
    ∃ desired, parsePeer p.json = some desired ∧ desired.typed? = some (typedPeer p) := by
  refine ⟨_, rfl, ?_⟩
  have hallowed := texts?_ofList p.allowedIps
  have htext : ∀ o : Option String, optional? text? (.ofOption .str o) = some o := fun o => by
    cases o <;> rfl
  have hint : ∀ o : Option ℤ, optional? int? (.ofOption .int o) = some o := fun o => by
    cases o <;> rfl
  have hnat : ∀ o : Option ℕ, optional? int? (.ofOption (fun n => .int (n : ℕ)) o) =
      some (o.map Int.ofNat) := fun o => by
    cases o <;> rfl
  simp [DesiredPeer.typed?, PeerInfo.json, Json.get?, hallowed, htext, hint, hnat, typedPeer, text?]

theorem parsePeers_typed (ps : List PeerInfo) :
    ∃ desired, (ps.map PeerInfo.json).mapM parsePeer = some desired ∧
      desired.mapM DesiredPeer.typed? = some (ps.map typedPeer) := by
  induction ps with
  | nil => exact ⟨[], rfl, rfl⟩
  | cons p ps ih =>
    obtain ⟨d, hd, htyped⟩ := parsePeer_typed p
    obtain ⟨ds, hds, htypeds⟩ := ih
    exact ⟨d :: ds, by simp [List.mapM_cons, hd, hds], by simp [List.mapM_cons, htyped, htypeds]⟩

theorem not_mem_toString {c : Char} (hc : c.isDigit = false) (n : ℕ) : c ∉ (toString n).toList := by
  have hchars : (toString n).toList = Nat.toDigits 10 n := String.toList_ofList
  intro hmem
  rw [hchars] at hmem
  rw [Nat.isDigit_of_mem_toDigits (by decide) (Nat.le_refl _) hmem] at hc
  cases hc

theorem splitOn_slash {address prefixlen : String} (haddress : '/' ∉ address.toList)
    (hdigits : '/' ∉ prefixlen.toList) :
    (address ++ "/" ++ prefixlen).splitOn "/" = [address, prefixlen] := by
  have hslash : "/" = String.singleton '/' := by decide
  have hchars : (address ++ "/" ++ prefixlen).toList = address.toList ++ '/' :: prefixlen.toList := by
    simp [String.toList_append]
  rw [hslash, splitOn_eq_splitText, ← hslash, splitText, hchars,
    List.splitOn_append_cons_self_of_not_mem haddress, List.splitOn_eq_singleton hdigits]
  simp

/-- **The daemon reads what the response says**, whatever its address is. -/
theorem parseConfigV2_json (r : DeviceConfigV2Response) (privateKey : String) :
    ∃ config, parseConfigV2 (pullConfigV2 r.json).config privateKey = some config ∧
      config.typed? = some
        { privateKey := privateKey
          address := (r.interface.address.splitOn "/").headD ""
          subnet := if '/' ∈ r.interface.address.toList then
            "0.0.0.0/" ++ ((r.interface.address.splitOn "/").drop 1).headD "" else ""
          peers := r.peers.map typedPeer } := by
  obtain ⟨desired, hdesired, htyped⟩ := parsePeers_typed r.peers
  have hiterate : iterate (.ofList PeerInfo.json r.peers) = some (r.peers.map PeerInfo.json) := rfl
  refine ⟨
    { privateKey := privateKey
      address := (r.interface.address.splitOn "/").headD ""
      subnet := if '/' ∈ r.interface.address.toList then
        "0.0.0.0/" ++ ((r.interface.address.splitOn "/").drop 1).headD "" else ""
      dnsServers := .ofOption (.ofList .str) r.interface.dns
      peers := desired
      mtu := .ofOption (fun n => .int (n : ℕ)) r.interface.mtu }, ?_, ?_⟩
  · simp [parseConfigV2, pullConfigV2, DeviceConfigV2Response.json, Json.get?, InterfaceInfo.json,
      containsSlash, hiterate, hdesired]
  · simp [DesiredConfig.typed?, htyped]

/-- An address with one slash is cut there. -/
theorem parseConfigV2_pulled {r : DeviceConfigV2Response} {address prefixlen : String}
    (hr : r.interface.address = address ++ "/" ++ prefixlen) (haddress : '/' ∉ address.toList)
    (hdigits : '/' ∉ prefixlen.toList) (privateKey : String) :
    ∃ config, parseConfigV2 (pullConfigV2 r.json).config privateKey = some config ∧
      config.typed? = some
        { privateKey := privateKey
          address := address
          subnet := "0.0.0.0/" ++ prefixlen
          peers := r.peers.map typedPeer } := by
  have hslash : '/' ∈ (address ++ "/" ++ prefixlen).toList := by simp [String.toList_append]
  obtain ⟨config, hparse, htyped⟩ := parseConfigV2_json r privateKey
  rw [hr, splitOn_slash haddress hdigits, if_pos hslash] at htyped
  exact ⟨config, hparse, htyped⟩

/-! ### The commands -/

/-- The value that follows a name in a list of names and values. -/
def optionArg (name : String) : List String → Option String
  | key :: value :: rest => if key = name then some value else optionArg name rest
  | _ => none

/-- The key and the further arguments of a command that sets a peer. -/
def Command.peer? (c : Command) : Option (String × String × List String) :=
  match c.args with
  | "set" :: _ :: "peer" :: key :: "allowed-ips" :: ips :: rest => some (key, ips, rest)
  | _ => none

/-- The key, the AllowedIPs and the keepalive of a command that sets a peer. -/
def Command.peerTriple? (c : Command) : Option (String × String × Option String) :=
  c.peer?.map fun (key, ips, rest) => (key, ips, optionArg "persistent-keepalive" rest)

section

variable {σ : Type} {rt : WireGuardRuntime σ} {w : World σ} {interface : String}

theorem peer?_setPeer (p : TypedPeer) : (rt.setPeer interface p).peer? =
    some (p.publicKey, ",".intercalate p.allowedIps,
      (p.endpointArg.map (["endpoint", ·])).getD [] ++
        (p.keepaliveArg.map (["persistent-keepalive", ·])).getD []) := rfl

theorem optionArg_setPeer (p : TypedPeer) :
    optionArg "endpoint" ((p.endpointArg.map (["endpoint", ·])).getD [] ++
        (p.keepaliveArg.map (["persistent-keepalive", ·])).getD []) = p.endpointArg ∧
      optionArg "persistent-keepalive" ((p.endpointArg.map (["endpoint", ·])).getD [] ++
        (p.keepaliveArg.map (["persistent-keepalive", ·])).getD []) = p.keepaliveArg := by
  cases p.endpointArg with
  | none => cases p.keepaliveArg <;> exact ⟨rfl, rfl⟩
  | some e => cases p.keepaliveArg <;> exact ⟨rfl, rfl⟩

/-- **The commands that set peers are those of the configuration's peers**, in order. -/
theorem issued_applyConfig (hcodes : rt.Codes) (config : TypedConfig) :
    (rt.applyConfig w interface config).2 = true ∧
      ∃ commands, (rt.applyConfig w interface config).1.issued = w.issued ++ commands ∧
        commands.filter (fun c => c.peer?.isSome) = config.peers.map (rt.setPeer interface) := by
  have hset : (config.peers.map (rt.setPeer interface)).filter (fun c => c.peer?.isSome) =
      config.peers.map (rt.setPeer interface) := List.filter_eq_self.2 fun c hc => by
    obtain ⟨p, -, rfl⟩ := List.mem_map.1 hc
    rfl
  have hremove : ∀ keys : List String,
      (keys.map (rt.removePeer interface)).filter (fun c => c.peer?.isSome) = [] := fun keys =>
    List.filter_eq_nil_iff.2 fun c hc => by
      obtain ⟨key, -, rfl⟩ := List.mem_map.1 hc
      exact Bool.false_ne_true
  rw [hcodes.applyConfig_eq]
  refine ⟨rfl, _, WireGuardRuntime.run_issued _, ?_⟩
  rw [List.filter_cons_of_neg Bool.false_ne_true, List.filter_cons_of_neg Bool.false_ne_true,
    WireGuardRuntime.peerCommands, List.filter_append, hset, hremove, List.append_nil]

/-- The key, the AllowedIPs and the keepalive of a planned peer. -/
def triple (p : PeerPlan) : String × String × Option String :=
  (p.publicKey, ",".intercalate p.allowedIps, p.persistentKeepalive.map toString)

theorem peerTriple?_setPeer (p : TypedPeer) : (rt.setPeer interface p).peerTriple? =
    some (p.publicKey, ",".intercalate p.allowedIps, p.keepaliveArg) := by
  rw [Command.peerTriple?, peer?_setPeer, Option.map_some]
  dsimp only
  rw [(optionArg_setPeer p).2]

theorem peerTriple?_planned (settings : Settings) (m : Bool) (p : PeerPlan)
    (eps : List DeviceEndpoint) :
    (rt.setPeer interface (typedPeer (p.info settings m eps))).peerTriple? = some (triple p) := by
  rw [peerTriple?_setPeer, triple, TypedPeer.keepaliveArg]
  simp only [typedPeer, PeerPlan.info_publicKey, PeerPlan.info_allowedIps, Option.map_map]
  rfl

/-- **What happens to a response**: it is parsed with the device's address and the network's prefix
length, and the commands that set peers are those of its peers, which are the planned ones. -/
theorem response_delivered {env : Env} {db : Database} {device : Device} (hd : device ∈ db.devices)
    (hip : ∃ x : IPv4Address, device.ipAddress = some x.str) {response : DeviceConfigV2Response}
    (hresponse : buildConfigV2 env db device = .ok response) (privateKey : String)
    (hcodes : rt.Codes) (w : World σ) (interface : String) : ∃ network t net config typed,
      db.networks.get? device.networkId = some network ∧
      env.settings.generatorOf network.topology = .ok t ∧
      IPv4Network.parse network.subnet = some net ∧
      parseConfigV2 (pullConfigV2 response.json).config privateKey = some config ∧
      config.typed? = some typed ∧ some typed.address = device.ipAddress ∧
      typed.subnet = "0.0.0.0/" ++ toString net.prefixlen.val ∧
      response.peers = (t.generatePlan env.settings (db.planInput network device.state)).peers.map
        (fun p => p.info env.settings (isMeshOrHybrid (env.settings.topologyOf network.topology))
          (db.endpointsOfKey device.networkId p.publicKey)) ∧
      ∃ commands, (rt.applyConfig w interface typed).1.issued = w.issued ++ commands ∧
        commands.filter (fun c => c.peer?.isSome) =
          (response.peers.map typedPeer).map (rt.setPeer interface) := by
  obtain ⟨x, hx⟩ := hip
  obtain ⟨network, t, net, hnetwork, ht, hnet, haddress, hpeers⟩ := buildConfigV2_planned hd hresponse
  rw [hx, Option.getD_some] at haddress
  have hslash : '/' ∉ x.str.toList := by
    rw [IPv4Address.str, String.toList_ofList]
    exact x.slash_not_mem_chars
  have hdigits : '/' ∉ (toString net.prefixlen.val).toList := not_mem_toString (by decide) _
  obtain ⟨config, hparse, htyped⟩ := parseConfigV2_pulled haddress hslash hdigits privateKey
  exact ⟨network, t, net, config, _, hnetwork, ht, hnet, hparse, htyped, hx.symm, rfl, hpeers,
    (issued_applyConfig hcodes _).2⟩

/-- **The commands set the planned peers**, in order, with their keys, AllowedIPs and keepalives;
and the parsed address and prefix length are the device's and the network's. -/
theorem plan_to_kernel {env : Env} {db : Database} {device : Device} (hd : device ∈ db.devices)
    (hip : ∃ x : IPv4Address, device.ipAddress = some x.str) {response : DeviceConfigV2Response}
    (hresponse : buildConfigV2 env db device = .ok response) (privateKey : String)
    (hcodes : rt.Codes) (w : World σ) (interface : String) : ∃ network t net config typed,
      db.networks.get? device.networkId = some network ∧
      env.settings.generatorOf network.topology = .ok t ∧
      IPv4Network.parse network.subnet = some net ∧
      parseConfigV2 (pullConfigV2 response.json).config privateKey = some config ∧
      config.typed? = some typed ∧ some typed.address = device.ipAddress ∧
      typed.subnet = "0.0.0.0/" ++ toString net.prefixlen.val ∧
      ∃ commands, (rt.applyConfig w interface typed).1.issued = w.issued ++ commands ∧
        commands.filterMap Command.peerTriple? =
          (t.generatePlan env.settings (db.planInput network device.state)).peers.map triple := by
  obtain ⟨network, t, net, config, typed, hnetwork, ht, hnet, hparse, htyped, haddress, hsubnet,
    hpeers, commands, hissued, hset⟩ :=
      response_delivered hd hip hresponse privateKey hcodes w interface
  refine ⟨network, t, net, config, typed, hnetwork, ht, hnet, hparse, htyped, haddress, hsubnet,
    commands, hissued, ?_⟩
  have hfilter : commands.filterMap Command.peerTriple? =
      (commands.filter fun c => c.peer?.isSome).filterMap Command.peerTriple? := by
    rw [List.filterMap_filter]
    refine List.filterMap_congr fun c _ => ?_
    rw [Command.peerTriple?]
    cases c.peer? <;> rfl
  rw [hfilter, hset, hpeers, List.map_map, List.map_map, List.filterMap_map,
    ← List.filterMap_eq_map]
  exact List.filterMap_congr fun p _ => peerTriple?_planned _ _ p _

end

/-- The laptop of the office. -/
def officeLaptop : Device where
  id := Uuid.ofNat 3
  name := "laptop"
  networkId := Uuid.ofNat 1
  publicKey := some "key-l"
  privateKeyEnc := some "enc:l"
  ipAddress := some "10.0.0.2"

/-- The laptop of the office gets the hub. -/
theorem plan_to_kernel_office : ∃ response typed commands,
    buildConfigV2 plainEnv keyedOffice officeLaptop = .ok response ∧
      some typed.address = officeLaptop.ipAddress ∧ typed.subnet = "0.0.0.0/24" ∧
      ((laptopRuntime fun _ => .code 0).applyConfig { host := some ⟨false, ∅, .empty⟩ } "wg0"
        typed).1.issued = commands ∧
      commands.filterMap Command.peerTriple? = [("key-hub", "10.0.0.0/24", some "25")] := by
  have hcodes : (laptopRuntime fun _ => .code 0).Codes := fun _ => nofun
  obtain ⟨response, hresponse⟩ : ∃ response,
      buildConfigV2 plainEnv keyedOffice officeLaptop = .ok response := ⟨_, rfl⟩
  obtain ⟨network, t, net, config, typed, hnetwork, ht, hnet, -, -, haddress, hsubnet, commands,
    hissued, htriples⟩ := plan_to_kernel (by decide : officeLaptop ∈ keyedOffice.devices)
      ⟨IPv4Address.ofOctets 10 0 0 2, by decide⟩ hresponse "key" hcodes
      { host := some ⟨false, ∅, .empty⟩ } "wg0"
  have hoffice : keyedOffice.networks.get? (Uuid.ofNat 1) =
      some { id := Uuid.ofNat 1, name := "office", subnet := "10.0.0.0/24" } := by decide
  rw [officeLaptop, hoffice, Option.some.injEq] at hnetwork
  subst hnetwork
  have hstar : plainEnv.settings.generatorOf none = .ok .star := by rfl
  rw [hstar, Except.ok.injEq] at ht
  subst ht
  have hparse : IPv4Network.parse "10.0.0.0/24" =
      some (IPv4Network.ofAddress (IPv4Address.ofOctets 10 0 0 0) 24) := by decide
  rw [hparse, Option.some.injEq] at hnet
  subst hnet
  refine ⟨response, typed, commands, hresponse, haddress, hsubnet, hissued, htriples.trans ?_⟩
  decide

end Daemon

end Midscale
