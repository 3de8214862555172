import Midscale.Wireguard.Maintenance

/-!
# What the sweep of stale devices looks at

A device gives signs of life in three places: heartbeats in its row, reports in the endpoint table,
and handshakes.  `_cleanup_stale_peers` promises that a device it deactivates has given none of them
since the threshold; its query reads the handshake alone.  The hub of a network never has one.

* `sweptBy_iff` : which devices the sweep deactivates.
* `stale_sweep_iff` : the promise holds exactly if the devices without a handshake have given no
  other sign of life, and no hub is among them.
-/

namespace Midscale

/-- The sweep deactivates the device. -/
def Database.SweptBy (db : Database) (settings : Settings) (now : Timestamp) (d : Device) : Prop :=
  d ∈ db.devices ∧ d.isActive = true ∧
    ∃ d' ∈ (db.cleanupStalePeers settings now).devices, d'.id = d.id ∧ d'.isActive = false

/-- Neither a heartbeat nor an endpoint report of the device since the threshold. -/
def Database.Silent (db : Database) (threshold : Timestamp) (d : Device) : Prop :=
  (∀ t ∈ d.lastSeenAt, t < threshold) ∧
    ∀ ep ∈ db.endpoints, ep.deviceId = d.id → ep.lastSeen < threshold

/-- What is promised of a sweep. -/
structure SweepSound (db : Database) (settings : Settings) (now : Timestamp) : Prop where
  silent : ∀ d, db.SweptBy settings now d → db.Silent (settings.staleThreshold now) d
  handshake : ∀ d, db.SweptBy settings now d →
    ∀ t ∈ d.lastHandshake, t < settings.staleThreshold now
  created : ∀ d, db.SweptBy settings now d → d.createdAt < settings.staleThreshold now
  hub : ∀ d, db.SweptBy settings now d → d.name ≠ serverName
  /-- The rows of all other devices, and all other tables, stay as they are. -/
  others : ∀ d ∈ db.devices, ¬ db.SweptBy settings now d →
    d ∈ (db.cleanupStalePeers settings now).devices
  frame : db.cleanupStalePeers settings now =
    { db with devices := (db.cleanupStalePeers settings now).devices }

section

variable {db : Database} {settings : Settings} {now : Timestamp} {d : Device}

theorem mem_cleanupStalePeers {d' : Device} :
    d' ∈ (db.cleanupStalePeers settings now).devices ↔
      ∃ d ∈ db.devices, d.cleaned now (settings.staleThreshold now) = d' := List.mem_map

/-- **The sweep deactivates the devices that its query finds.** -/
theorem sweptBy_iff : db.SweptBy settings now d ↔
    d ∈ db.devices ∧ d.isStale (settings.staleThreshold now) = true := by
  refine and_congr_right fun hd => ?_
  constructor
  · rintro ⟨hactive, d', hd', hid, hinactive⟩
    obtain ⟨d₀, hd₀, rfl⟩ := mem_cleanupStalePeers.1 hd'
    obtain rfl : d₀ = d := db.devices.eq_of_pk hd₀ hd ((Device.pk_cleaned ..).symm.trans hid)
    by_contra hstale
    rw [Device.cleaned, if_neg hstale, hactive] at hinactive
    cases hinactive
  · intro hstale
    refine ⟨Device.isActive_of_isStale hstale, _, mem_cleanupStalePeers.2 ⟨d, hd, rfl⟩,
      Device.pk_cleaned .., ?_⟩
    rw [Device.cleaned, if_pos hstale]

theorem others_cleanupStalePeers (hd : d ∈ db.devices) (h : ¬ db.SweptBy settings now d) :
    d ∈ (db.cleanupStalePeers settings now).devices := by
  have hstale : ¬ d.isStale (settings.staleThreshold now) = true := fun hs =>
    h (sweptBy_iff.2 ⟨hd, hs⟩)
  exact mem_cleanupStalePeers.2 ⟨d, hd, if_neg hstale⟩

end

/-- **The sweep keeps its promise exactly if** every active device that was created before the
threshold and has no handshake since is silent, and none of them is a hub. -/
theorem stale_sweep_iff (db : Database) (settings : Settings) (now : Timestamp) :
    SweepSound db settings now ↔ ∀ d ∈ db.devices, d.isStale (settings.staleThreshold now) = true →
      db.Silent (settings.staleThreshold now) d ∧ d.name ≠ serverName := by
  constructor
  · intro h d hd hstale
    have hswept := sweptBy_iff.2 ⟨hd, hstale⟩
    exact ⟨h.silent d hswept, h.hub d hswept⟩
  · intro h
    refine ⟨fun d hswept => ?_, fun d hswept t ht => ?_, fun d hswept => ?_, fun d hswept => ?_,
      fun d hd hkept => others_cleanupStalePeers hd hkept, rfl⟩ <;>
      obtain ⟨hd, hstale⟩ := sweptBy_iff.1 hswept
    · exact (h d hd hstale).1
    · have hquery : d.lastHandshake.all (· < settings.staleThreshold now) = true :=
        (of_decide_eq_true hstale).2.1
      exact of_decide_eq_true ((Option.all_eq_true _ _).1 hquery t ht)
    · exact (of_decide_eq_true hstale).2.2
    · exact (h d hd hstale).2

/-- A hub, and a camera that sends heartbeats and has no peer to shake hands with. -/
def watchfulHub : Device where
  id := Uuid.ofNat 145
  name := serverName
  networkId := Uuid.ofNat 144
  publicKey := some "key-h"
  ipAddress := some "10.0.0.1"

def watchfulCamera : Device where
  id := Uuid.ofNat 146
  name := "camera"
  networkId := Uuid.ofNat 144
  publicKey := some "key-c"
  ipAddress := some "10.0.0.3"
  lastSeenAt := some (onDay 41)

def watchfulOffice : Database where
  networks := .ofRows [{ id := Uuid.ofNat 144, name := "branch", subnet := "10.0.0.0/24" }]
  devices := .ofRows [watchfulHub, watchfulCamera]
    (show [Uuid.ofNat 145, Uuid.ofNat 146].Nodup by decide)

/-- On day forty-one the sweep deactivates the hub, and the camera at the moment of its
heartbeat. -/
theorem watchfulOffice_swept : watchfulOffice.SweptBy {} (onDay 41) watchfulHub ∧
    watchfulOffice.SweptBy {} (onDay 41) watchfulCamera ∧
      ¬ SweepSound watchfulOffice {} (onDay 41) := by
  have hhub : watchfulOffice.SweptBy {} (onDay 41) watchfulHub :=
    sweptBy_iff.2 ⟨List.mem_cons_self, by decide⟩
  have hcamera : watchfulOffice.SweptBy {} (onDay 41) watchfulCamera :=
    sweptBy_iff.2 ⟨List.mem_cons_of_mem _ List.mem_cons_self, by decide⟩
  exact ⟨hhub, hcamera, fun h => absurd ((h.silent _ hcamera).1 (onDay 41) rfl) (by decide)⟩

end Midscale
