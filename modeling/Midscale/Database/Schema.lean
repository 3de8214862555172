import Midscale.Data.Datetime
import Midscale.Data.Table
import Midscale.Data.Uuid

/-!
# Settings and tables of the control plane

The rows of the SQLAlchemy models, with the defaults the models give them, and the tables they
are stored in.  Every table has the column `id` as its primary key.

Columns that no modelled function reads or writes (e-mail addresses, descriptions shown in the
user interface) are left out.
-/

namespace Midscale

/-- `app.config.Settings`, as far as it is used. -/
structure Settings where
  wireguardInterface : String := "wg0"
  wireguardPort : ℤ := 51820
  wireguardServerEndpoint : String := ""
  wireguardTopology : String := "star"
  relayHost : String := "0.0.0.0"
  relayPort : ℤ := 8765
  staleDeviceDays : ℤ := 7
  debug : Bool := false
  deriving DecidableEq, Repr

/-- `app.models.user.User`. -/
structure User where
  id : Uuid
  isActive : Bool := true
  isSuperuser : Bool := false
  passwordHash : String := ""
  deriving DecidableEq, Repr

/-- `app.models.network.Network`. -/
structure Network where
  id : Uuid
  name : String
  subnet : String
  description : Option String := none
  interfaceName : Option String := none
  topology : Option String := none
  ownerId : Option Uuid := none
  createdAt : Timestamp := 0
  deriving DecidableEq, Repr

/-- `app.models.device.Device`. -/
structure Device where
  id : Uuid
  name : String
  userId : Option Uuid := none
  networkId : Uuid
  publicKey : Option String := none
  privateKeyEnc : Option String := none
  ipAddress : Option String := none
  dnsEnabled : Bool := true
  isActive : Bool := true
  isNodeOwned : Bool := false
  deviceTokenHash : Option String := none
  deviceTokenPrefix : Option String := none
  enrollmentStatus : String := "active"
  enrolledAt : Option Timestamp := none
  lastSeenAt : Option Timestamp := none
  revokedAt : Option Timestamp := none
  tags : Option (List String) := some []
  lastHandshake : Option Timestamp := none
  exitNodeId : Option Uuid := none
  createdAt : Timestamp := 0
  updatedAt : Timestamp := 0
  deriving DecidableEq, Repr

/-- `app.models.preauth_key.PreAuthKey`. -/
structure PreAuthKey where
  id : Uuid
  key : String
  networkId : Uuid
  reusable : Bool := false
  expiresAt : Timestamp
  usedBy : Option (List String) := some []
  createdAt : Timestamp := 0
  deriving DecidableEq, Repr

/-- `app.models.route.AdvertisedRoute`. -/
structure AdvertisedRoute where
  id : Uuid
  deviceId : Uuid
  networkId : Uuid
  pfx : String
  enabled : Bool := false
  approved : Bool := false
  isExitNode : Bool := false
  createdAt : Timestamp := 0
  updatedAt : Timestamp := 0
  deriving DecidableEq, Repr

/-- `app.models.endpoint.DeviceEndpoint`. -/
structure DeviceEndpoint where
  id : Uuid
  deviceId : Uuid
  endpoint : String
  source : String := "reported"
  port : ℤ := 51820
  localIp : Option String := none
  publicIp : Option String := none
  priority : ℤ := 100
  isActive : Bool := true
  lastSeen : Timestamp := 0
  latencyMs : Option ℤ := none
  reachable : Bool := false
  lastProbeAt : Option Timestamp := none
  failureCount : ℕ := 0
  successCount : ℕ := 0
  score : ℤ := 0
  deriving DecidableEq, Repr

/-- `app.models.dns.DNSEntry`. -/
structure DNSEntry where
  id : Uuid
  networkId : Uuid
  domain : String
  address : String
  createdAt : Timestamp := 0
  deriving DecidableEq, Repr

/-- `app.models.acl.ACLRule`. -/
structure ACLRule where
  id : Uuid
  networkId : Uuid
  srcTags : List String := []
  dstTags : List String := []
  action : String := "allow"
  priority : ℤ := 100
  createdAt : Timestamp := 0
  deriving DecidableEq, Repr

/-- `NATSession.state`. -/
inductive NATState where
  | pending
  | coordinating
  | punching
  | connected
  | failed
  | expired
  deriving DecidableEq, Repr

/-- The dictionary `selected_candidate`. -/
structure SelectedCandidate where
  endpoint : Option String
  port : Option ℤ
  latencyMs : Option ℤ
  deriving DecidableEq, Repr

/-- The dictionary `extra_metadata`, with the keys that are written to it. -/
structure NATMetadata where
  initiatorEndpoint : Option String := none
  initiatorPort : Option ℤ := none
  error : Option (Option String) := none
  failureCount : Option ℤ := none
  deriving DecidableEq, Repr

/-- `app.models.nat_session.NATSession`. -/
structure NATSession where
  id : Uuid
  initiatorDeviceId : Uuid
  targetDeviceId : Uuid
  state : NATState := .pending
  selectedCandidate : Option SelectedCandidate := none
  connectivityEstablished : Bool := false
  extraMetadata : Option NATMetadata := some {}
  createdAt : Timestamp := 0
  updatedAt : Timestamp := 0
  expiresAt : Timestamp := 0
  deriving DecidableEq, Repr

/-- `RelaySession.state`. -/
inductive RelayState where
  | pending
  | active
  | expired
  | failed
  deriving DecidableEq, Repr

/-- `app.models.relay_session.RelaySession`. -/
structure RelaySession where
  id : Uuid
  initiatorDeviceId : Uuid
  targetDeviceId : Uuid
  relayRegion : String := "default"
  relayNode : String := "relay0"
  relayToken : String
  state : RelayState := .pending
  bytesTx : ℤ := 0
  bytesRx : ℤ := 0
  connectedAt : Option Timestamp := none
  expiresAt : Option Timestamp := none
  createdAt : Timestamp := 0
  updatedAt : Timestamp := 0
  deriving DecidableEq, Repr

/-- `app.models.audit.AuditLog`: who did what to which row. -/
structure AuditLog where
  actorId : Option String := none
  actorType : String := "system"
  action : String
  targetType : String := "none"
  targetId : Option String := none
  deriving DecidableEq, Repr

instance : Row User Uuid := ⟨User.id⟩

instance : Row Network Uuid := ⟨Network.id⟩

instance : Row Device Uuid := ⟨Device.id⟩

instance : Row PreAuthKey Uuid := ⟨PreAuthKey.id⟩

instance : Row AdvertisedRoute Uuid := ⟨AdvertisedRoute.id⟩

instance : Row DeviceEndpoint Uuid := ⟨DeviceEndpoint.id⟩

instance : Row DNSEntry Uuid := ⟨DNSEntry.id⟩

instance : Row ACLRule Uuid := ⟨ACLRule.id⟩

instance : Row NATSession Uuid := ⟨NATSession.id⟩

instance : Row RelaySession Uuid := ⟨RelaySession.id⟩

/-- The tables. -/
structure Database where
  users : Table User := .empty
  networks : Table Network := .empty
  devices : Table Device := .empty
  preauthKeys : Table PreAuthKey := .empty
  routes : Table AdvertisedRoute := .empty
  endpoints : Table DeviceEndpoint := .empty
  dnsEntries : Table DNSEntry := .empty
  aclRules : Table ACLRule := .empty
  natSessions : Table NATSession := .empty
  relaySessions : Table RelaySession := .empty
  auditLogs : List AuditLog := []
  deriving DecidableEq

/-- `Device.name` of the device that `create_network` makes. -/
def serverName : String := "__midscale_server__"

end Midscale
