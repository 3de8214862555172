import Mathlib.Data.List.TakeWhile
import Midscale.Wireguard.Maintenance

/-!
# Presence events

The controller publishes `device.online` and `device.offline` while it copies the handshakes of an
interface.  It compares the stored handshake with a newer one at the same reading of the clock: a
device comes online when it is heard of again, and never goes offline, since the newer handshake is
not older than the stored one.

* `syncRuntimeMetadata_events` : which devices a cycle announces.
* `presence_tracked_iff` : **the events track the stored handshakes in a run exactly if** no device
  that was announced is found with handshakes that have run out.
* `announced_of_start` : with a clock that does not go back no online device is left unannounced.
-/

namespace Midscale

/-! ### Events and cycles -/

/-- The event tells whether the device with the id is online. -/
def Event.isPresenceOf (id : Uuid) (e : Event) : Bool :=
  (e.eventType = "device.online" ∨ e.eventType = "device.offline") ∧
    e.data.lookup "device_id" = some (.str id.str)

/-- The last presence event of the device says that it is online. -/
def announced (events : List Event) (id : Uuid) : Bool :=
  (events.filter (Event.isPresenceOf id)).getLast?.any (·.eventType = "device.online")

/-- A cycle: the reading of the clock, and the peers on the interface. -/
structure PresenceCycle where
  now : Timestamp
  peers : List WGPeer

/-- The committed database and the events on the bus. -/
structure PresenceState where
  db : Database
  published : List Event := []

/-- A cycle copies the handshakes and commits, unless an exception ends it: its events stay. -/
def PresenceState.cycle (s : PresenceState) (c : PresenceCycle) : PresenceState where
  db := (syncRuntimeMetadata c.now s.db c.peers).2.toOption.getD s.db
  published := s.published ++ (syncRuntimeMetadata c.now s.db c.peers).1

/-- The peer of the device is on the interface. -/
def Device.OnInterface (peers : List WGPeer) (d : Device) : Prop :=
  ∃ p ∈ peers, d.publicKey = some p.publicKey

/-- The events track the stored handshakes of the devices on the interface. -/
def PresenceState.Tracks (s : PresenceState) (c : PresenceCycle) : Prop :=
  ∀ d ∈ s.db.devices, d.OnInterface c.peers →
    (announced s.published d.id = true ↔ isOnline c.now d.lastHandshake = true)

/-- Several devices have the key: a query for it raises `MultipleResultsFound`. -/
def Database.IsAmbiguous (db : Database) (key : String) : Prop :=
  2 ≤ (db.devices.select fun d => d.publicKey = some key).length

instance (db : Database) (key : String) : Decidable (db.IsAmbiguous key) :=
  inferInstanceAs (Decidable (2 ≤ _))

/-- The peers that a cycle comes to. -/
def Database.reached (db : Database) (peers : List WGPeer) : List WGPeer :=
  peers.takeWhile fun p => ¬ db.IsAmbiguous p.publicKey

/-- An exception ends the cycle. -/
def Database.Aborts (db : Database) (peers : List WGPeer) : Prop :=
  ∃ p ∈ peers, db.IsAmbiguous p.publicKey

/-- A recent handshake is read for the device. -/
def Device.IsHeard (now : Timestamp) (peers : List WGPeer) (d : Device) : Prop :=
  ∃ p ∈ peers, d.publicKey = some p.publicKey ∧ isOnline now p.latestHandshake = true

/-! ### Recent handshakes -/

section

variable {now : Timestamp} {last : Option Timestamp}

theorem isOnline_iff : isOnline now last = true ↔
    ¬ last.all (· < now - Timestamp.seconds 180 + 1) = true := by
  cases last with
  | none => simp [isOnline]
  | some t =>
    simp only [isOnline, Option.any_some, Option.all_some, decide_eq_true_eq, not_lt]
    exact sub_lt_comm.trans Int.lt_iff_add_one_le

theorem isOnline_of_lt (now : Timestamp) {t : Timestamp} (hlt : last.all (· < t) = true)
    (h : isOnline now last = true) : isOnline now (some t) = true := by
  cases last with
  | none => cases h
  | some t' =>
    simp only [isOnline, Option.any_some, Option.all_some, decide_eq_true_eq] at h hlt ⊢
    exact (sub_lt_sub_left hlt now).trans h

theorem isOnline_of_filter_eq_none {read : Option Timestamp}
    (hnone : (read.filter fun t => last.all (· < t)) = none) (h : isOnline now read = true) :
    isOnline now last = true := by
  cases read with
  | none => cases h
  | some t =>
    have holder := Option.filter_eq_none_iff.1 hnone t rfl
    cases last with
    | none => exact absurd rfl holder
    | some t' =>
      simp only [isOnline, Option.any_some, Option.all_some, decide_eq_true_eq,
        not_lt] at h holder ⊢
      exact (sub_le_sub_left holder now).trans_lt h

theorem isOnline_of_le {now' : Timestamp} (hle : now ≤ now')
    (h : isOnline now' last = true) : isOnline now last = true := by
  cases last with
  | none => cases h
  | some t =>
    simp only [isOnline, Option.any_some, decide_eq_true_eq] at h ⊢
    exact (sub_le_sub_right hle t).trans_lt h

theorem isOnline_refreshed {peers : List WGPeer} {d d' : Device} (h : d.Refreshed peers d') :
    isOnline now d'.lastHandshake = true ↔
      isOnline now d.lastHandshake = true ∨ d.IsHeard now peers := by
  simp only [isOnline_iff, h.older_iff, Device.IsHeard, not_and_or, not_forall, exists_prop]

/-- Copies do not make a handshake older. -/
theorem Device.Refreshed.le {peers : List WGPeer} {d d' : Device} (h : d.Refreshed peers d') :
    ∀ t ∈ d.lastHandshake, ∃ t' ∈ d'.lastHandshake, t ≤ t' := by
  intro t ht
  by_contra hnone
  push Not at hnone
  have holder : d'.lastHandshake.all (· < t) = true :=
    (Option.all_eq_true _ _).2 fun t' ht' => decide_eq_true (hnone t' ht')
  have hlast := (Option.all_eq_true _ _).1 ((h.older_iff t).1 holder).1 t ht
  exact lt_irrefl t (of_decide_eq_true hlast)

end

/-! ### One cycle -/

section

variable {now : Timestamp} {db : Database} {d : Device} {peers : List WGPeer}

theorem announced_append {events events' : List Event} {id : Uuid}
    (h : ∀ e ∈ events', e.isPresenceOf id = true → e.eventType = "device.online") :
    announced (events ++ events') id = true ↔
      announced events id = true ∨ ∃ e ∈ events', e.isPresenceOf id = true := by
  rw [announced, List.filter_append, List.getLast?_append]
  cases hlast : (events'.filter (Event.isPresenceOf id)).getLast? with
  | none =>
    rw [List.getLast?_eq_none_iff, List.filter_eq_nil_iff] at hlast
    rw [Option.none_or, or_iff_left]
    · rfl
    · rintro ⟨e, he, hpresence⟩
      exact hlast e he hpresence
  | some e =>
    obtain ⟨he, hpresence⟩ := List.mem_filter.1 (List.mem_of_getLast? hlast)
    exact iff_of_true (decide_eq_true (h e he hpresence)) (.inr ⟨e, he, hpresence⟩)

theorem presenceEvent_isPresenceOf (d : Device) (last : Option Timestamp) (online : Bool)
    (id : Uuid) : (presenceEvent d last online).isPresenceOf id = true ↔ d.id = id := by
  cases online <;> simp [presenceEvent, Event.isPresenceOf, Uuid.str_inj]

theorem pk_copied (now t : Timestamp) (d : Device) :
    Row.pk { d with lastHandshake := some t, updatedAt := now } = Row.pk d := rfl

/-- The newer handshake of a device is copied. -/
def Database.hear (db : Database) (now : Timestamp) (id : Uuid) (t : Timestamp) : Database :=
  { db with
    devices := db.devices.modify id
      (fun d => { d with lastHandshake := some t, updatedAt := now }) (pk_copied now t) }

theorem mem_hear_self {id : Uuid} {t : Timestamp} (hd : d ∈ db.devices) (hid : d.id = id) :
    { d with lastHandshake := some t, updatedAt := now } ∈ (db.hear now id t).devices :=
  List.mem_map.2 ⟨d, hd, if_pos hid⟩

theorem mem_hear_of_ne {id : Uuid} {t : Timestamp} (hd : d ∈ db.devices) (hid : d.id ≠ id) :
    d ∈ (db.hear now id t).devices :=
  List.mem_map.2 ⟨d, hd, if_neg hid⟩

theorem isAmbiguous_hear (now : Timestamp) (db : Database) (id : Uuid) (t : Timestamp)
    (key : String) : (db.hear now id t).IsAmbiguous key ↔ db.IsAmbiguous key := by
  have hcolumn : (db.hear now id t).devices.rows.map (·.publicKey) =
      db.devices.rows.map (·.publicKey) := by
    refine Table.map_modify ?_ ?_ <;> exact fun _ => rfl
  have hcount : ∀ t : Table Device, (t.select fun d => d.publicKey = some key).length =
      (t.rows.map (·.publicKey)).count (some key) := by
    intro t
    rw [List.count, List.countP_map, List.countP_eq_length_filter]
    exact congrArg List.length (List.filter_congr fun d _ => (beq_eq_decide _ _).symm)
  simp only [Database.IsAmbiguous, hcount, hcolumn]

theorem reached_hear (now : Timestamp) (db : Database) (id : Uuid) (t : Timestamp)
    (peers : List WGPeer) : (db.hear now id t).reached peers = db.reached peers := by
  simp only [Database.reached, isAmbiguous_hear]

theorem aborts_hear (now : Timestamp) (db : Database) (id : Uuid) (t : Timestamp)
    (peers : List WGPeer) : (db.hear now id t).Aborts peers ↔ db.Aborts peers := by
  simp only [Database.Aborts, isAmbiguous_hear]

theorem isHeard_cons {p : WGPeer} : d.IsHeard now (p :: peers) ↔
    (d.publicKey = some p.publicKey ∧ isOnline now p.latestHandshake = true) ∨
      d.IsHeard now peers := by
  simp [Device.IsHeard]

theorem reached_cons_of_not {p : WGPeer} (h : ¬ db.IsAmbiguous p.publicKey) :
    db.reached (p :: peers) = p :: db.reached peers :=
  List.takeWhile_cons_of_pos (decide_eq_true h)

theorem reached_cons_of_isAmbiguous {p : WGPeer} (h : db.IsAmbiguous p.publicKey) :
    db.reached (p :: peers) = [] :=
  List.takeWhile_cons_of_neg (by simp [h])

/-- A copy of a newer handshake announces the device if the stored one was not recent. -/
theorem presence_of_newer (now : Timestamp) {t : Timestamp} {events : List Event}
    (hnewer : d.lastHandshake.all (· < t) = true)
    (honline : ∀ e ∈ events, e.eventType = "device.online") :
    let events' := if isOnline now (some t) = isOnline now d.lastHandshake then events
      else presenceEvent d (some t) (isOnline now (some t)) :: events
    (∀ e ∈ events', e.eventType = "device.online") ∧
      ∀ id, (∃ e ∈ events', e.isPresenceOf id = true) ↔
        (∃ e ∈ events, e.isPresenceOf id = true) ∨ d.id = id ∧
          isOnline now (some t) = true ∧ ¬ isOnline now d.lastHandshake = true := by
  intro events'
  have hkeeps := isOnline_of_lt now hnewer
  by_cases hsame : isOnline now (some t) = isOnline now d.lastHandshake
  · have hevents : events' = events := if_pos hsame
    rw [hevents]
    refine ⟨honline, fun id => (or_iff_left ?_).symm⟩
    rintro ⟨-, hrecent, hold⟩
    exact hold (hsame ▸ hrecent)
  · have hrecent : isOnline now (some t) = true := by
      by_contra hnot
      have hold : ¬ isOnline now d.lastHandshake = true := fun h => hnot (hkeeps h)
      rw [Bool.not_eq_true] at hnot hold
      exact hsame (hnot.trans hold.symm)
    have hold : ¬ isOnline now d.lastHandshake = true := fun h => hsame (hrecent.trans h.symm)
    have hevents : events' = presenceEvent d (some t) true :: events := by
      rw [← hrecent]
      exact if_neg hsame
    rw [hevents, List.forall_mem_cons]
    refine ⟨⟨rfl, honline⟩, fun id => ?_⟩
    rw [List.exists_mem_cons_iff, presenceEvent_isPresenceOf, or_comm,
      and_iff_left ⟨hrecent, hold⟩]

/-- **Which devices a cycle announces**: those with no recent handshake stored, for which a recent
one is read before the cycle ends.  It announces nothing else. -/
theorem syncRuntimeMetadata_events (now : Timestamp) (db : Database) (rps : List WGPeer) :
    (∀ e ∈ (syncRuntimeMetadata now db rps).1, e.eventType = "device.online") ∧
    ∀ d ∈ db.devices,
      (∃ e ∈ (syncRuntimeMetadata now db rps).1, e.isPresenceOf d.id = true) ↔
        ¬ isOnline now d.lastHandshake = true ∧ d.IsHeard now (db.reached rps) := by
  induction rps generalizing db with
  | nil => simp [syncRuntimeMetadata, Database.reached, Device.IsHeard]
  | cons rp rps ih =>
    have hmem : ∀ d ∈ db.devices, d.publicKey = some rp.publicKey →
        d ∈ db.devices.select fun d => d.publicKey = some rp.publicKey := fun d hd hkey =>
      Table.mem_select.2 ⟨hd, decide_eq_true hkey⟩
    rw [syncRuntimeMetadata]
    split
    · -- the key of no device
      rename_i hrows
      have hnot : ¬ db.IsAmbiguous rp.publicKey := by simp [Database.IsAmbiguous, hrows]
      refine ⟨(ih db).1, fun d hd => ?_⟩
      rw [(ih db).2 d hd, reached_cons_of_not hnot, isHeard_cons, or_iff_right]
      rintro ⟨hkey, -⟩
      exact List.not_mem_nil (hrows ▸ hmem d hd hkey)
    · rename_i d₀ hrows
      have hnot : ¬ db.IsAmbiguous rp.publicKey := by simp [Database.IsAmbiguous, hrows]
      have hone : ∀ d ∈ db.devices, d.publicKey = some rp.publicKey → d = d₀ := fun d hd hkey =>
        List.mem_singleton.1 (hrows ▸ hmem d hd hkey)
      have hd₀ : d₀ ∈ db.devices.select fun d => d.publicKey = some rp.publicKey :=
        hrows ▸ List.mem_singleton_self d₀
      obtain ⟨hd₀, hkey₀⟩ := Table.mem_select.1 hd₀
      split
      · -- the handshake is not newer
        rename_i hnone
        refine ⟨(ih db).1, fun d hd => ?_⟩
        rw [(ih db).2 d hd, reached_cons_of_not hnot, isHeard_cons]
        refine and_congr_right fun hold => ?_
        rw [or_iff_right]
        rintro ⟨hkey, hrecent⟩
        rw [hone d hd hkey] at hold
        exact hold (isOnline_of_filter_eq_none hnone hrecent)
      · rename_i t hsome
        obtain ⟨hread, hnewer⟩ := Option.filter_eq_some_iff.1 hsome
        obtain ⟨honline, hevents⟩ := ih (db.hear now d₀.id t)
        rw [reached_hear] at hevents
        obtain ⟨honline', hevents'⟩ := presence_of_newer now hnewer honline
        refine ⟨honline', fun d hd => (hevents' d.id).trans ?_⟩
        rw [reached_cons_of_not hnot, isHeard_cons, hread]
        by_cases hid : d.id = d₀.id
        · obtain rfl : d = d₀ := db.devices.eq_of_pk hd hd₀ hid
          have hself : (∃ e ∈ (syncRuntimeMetadata now (db.hear now d.id t) rps).1,
              e.isPresenceOf d.id = true) ↔
                ¬ isOnline now (some t) = true ∧ d.IsHeard now (db.reached rps) :=
            hevents _ (mem_hear_self hd rfl)
          have hkeeps := isOnline_of_lt now hnewer
          have hkey := of_decide_eq_true hkey₀
          rw [hself]
          tauto
        · have hkey : d.publicKey ≠ some rp.publicKey := fun hkey =>
            hid (congrArg (·.id) (hone d hd hkey))
          rw [hevents d (mem_hear_of_ne hd hid), or_iff_left fun h => hid h.1.symm,
            or_iff_right fun h => hkey h.1]
    · -- the key of several devices
      rename_i hrows
      have hambiguous : db.IsAmbiguous rp.publicKey := by simp [Database.IsAmbiguous, hrows]
      rw [reached_cons_of_isAmbiguous hambiguous]
      simp [Device.IsHeard]

theorem syncRuntimeMetadata_isOk_iff (now : Timestamp) (db : Database) (rps : List WGPeer) :
    (∃ db', (syncRuntimeMetadata now db rps).2 = .ok db') ↔ ¬ db.Aborts rps := by
  induction rps generalizing db with
  | nil => simp [syncRuntimeMetadata, Database.Aborts]
  | cons rp rps ih =>
    have haborts : db.Aborts (rp :: rps) ↔ db.IsAmbiguous rp.publicKey ∨ db.Aborts rps := by
      simp [Database.Aborts]
    rw [syncRuntimeMetadata, haborts]
    split
    · rename_i hrows
      rw [ih, or_iff_right (by simp [Database.IsAmbiguous, hrows])]
    · rename_i d₀ hrows
      rw [or_iff_right (by simp [Database.IsAmbiguous, hrows])]
      split
      · exact ih db
      · rename_i t hsome
        rw [← aborts_hear now db d₀.id t]
        exact ih _
    · rename_i hrows
      exact iff_of_false (by simp) fun h => h (.inl (by simp [Database.IsAmbiguous, hrows]))

theorem reached_of_not_aborts (h : ¬ db.Aborts peers) : db.reached peers = peers :=
  List.takeWhile_eq_self_iff.2 fun p hp => decide_eq_true fun hp' => h ⟨p, hp, hp'⟩

end

/-! ### Runs -/

section

variable {s : PresenceState} {c : PresenceCycle}

/-- The events keep tracking the device in a cycle. -/
structure PresenceState.StaysTracked (s : PresenceState) (c : PresenceCycle) (d : Device) :
    Prop where
  /-- If its stored handshake is recent, then it has been announced. -/
  announced : isOnline c.now d.lastHandshake = true → announced s.published d.id = true
  /-- If it has been announced, then its handshakes have not run out. -/
  recent : Midscale.announced s.published d.id = true → isOnline c.now d.lastHandshake = true ∨
    ¬ s.db.Aborts c.peers ∧ d.IsHeard c.now c.peers
  /-- It is not announced in a cycle that is rolled back. -/
  committed : s.db.Aborts c.peers → d.IsHeard c.now (s.db.reached c.peers) →
    isOnline c.now d.lastHandshake = true

theorem staysTracked_iff {d : Device} : s.StaysTracked c d ↔
    (isOnline c.now d.lastHandshake = true → announced s.published d.id = true) ∧
    (announced s.published d.id = true → isOnline c.now d.lastHandshake = true ∨
      ¬ s.db.Aborts c.peers ∧ d.IsHeard c.now c.peers) ∧
    (s.db.Aborts c.peers → d.IsHeard c.now (s.db.reached c.peers) →
      isOnline c.now d.lastHandshake = true) :=
  ⟨fun h => ⟨h.announced, h.recent, h.committed⟩, fun h => ⟨h.1, h.2.1, h.2.2⟩⟩

theorem cycle_db (s : PresenceState) (c : PresenceCycle) :
    s.db.Aborts c.peers ∧ (s.cycle c).db = s.db ∨
      ¬ s.db.Aborts c.peers ∧ s.db.Refreshed c.peers (s.cycle c).db := by
  have hiff := syncRuntimeMetadata_isOk_iff c.now s.db c.peers
  rw [PresenceState.cycle]
  cases hsync : (syncRuntimeMetadata c.now s.db c.peers).2 with
  | ok db' => exact .inr ⟨hiff.1 ⟨db', hsync⟩, syncRuntimeMetadata_refreshed c.now hsync⟩
  | error e =>
    refine .inl ⟨?_, rfl⟩
    by_contra hnot
    obtain ⟨db', hok⟩ := hiff.2 hnot
    rw [hsync] at hok
    cases hok

theorem announced_cycle_iff (c : PresenceCycle) {d : Device} (hd : d ∈ s.db.devices) :
    announced (s.cycle c).published d.id = true ↔ announced s.published d.id = true ∨
      ¬ isOnline c.now d.lastHandshake = true ∧ d.IsHeard c.now (s.db.reached c.peers) := by
  obtain ⟨honline, hevents⟩ := syncRuntimeMetadata_events c.now s.db c.peers
  rw [PresenceState.cycle, announced_append fun e he _ => honline e he, hevents d hd]

/-- **The events track the handshakes after a cycle exactly if they keep tracking each device.** -/
theorem tracks_cycle_iff (s : PresenceState) (c : PresenceCycle) : (s.cycle c).Tracks c ↔
    ∀ d ∈ s.db.devices, d.OnInterface c.peers → s.StaysTracked c d := by
  rw [PresenceState.Tracks]
  rcases cycle_db s c with ⟨haborts, hdb⟩ | ⟨haborts, hrefreshed⟩
  · rw [hdb]
    refine forall₂_congr fun d hd => imp_congr_right fun _ => ?_
    rw [announced_cycle_iff c hd, staysTracked_iff]
    tauto
  · have hrow : ∀ d ∈ s.db.devices, ∀ d', d.Refreshed c.peers d' →
        ((d'.OnInterface c.peers → (announced (s.cycle c).published d'.id = true ↔
          isOnline c.now d'.lastHandshake = true)) ↔
            (d.OnInterface c.peers → s.StaysTracked c d)) := by
      intro d hd d' hd'
      rw [isOnline_refreshed hd']
      obtain ⟨⟨handshake, updated, rfl⟩, -⟩ := hd'
      refine imp_congr_right fun _ => ?_
      rw [announced_cycle_iff c hd, staysTracked_iff, reached_of_not_aborts haborts]
      tauto
    constructor
    · intro htracks d hd
      obtain ⟨d', hd', hrel⟩ := hrefreshed.exists_session hd
      exact (hrow d hd d' hrel).1 (htracks d' hd')
    · intro hstays d' hd'
      obtain ⟨d, hd, hrel⟩ := hrefreshed.exists_row hd'
      exact (hrow d hd d' hrel).2 (hstays d hd)

/-- No device's handshake is older than before. -/
def Database.HandshakesLe (db db' : Database) : Prop :=
  ∀ d ∈ db.devices, ∃ d' ∈ db'.devices, d'.id = d.id ∧
    ∀ t ∈ d.lastHandshake, ∃ t' ∈ d'.lastHandshake, t ≤ t'

theorem handshakesLe_cycle (s : PresenceState) (c : PresenceCycle) :
    s.db.HandshakesLe (s.cycle c).db := by
  intro d hd
  rcases cycle_db s c with ⟨-, hdb⟩ | ⟨-, hrefreshed⟩
  · exact ⟨d, hdb ▸ hd, rfl, fun t ht => ⟨t, ht, le_rfl⟩⟩
  · obtain ⟨d', hd', hrel⟩ := hrefreshed.exists_session hd
    refine ⟨d', hd', ?_, hrel.le⟩
    obtain ⟨_, _, rfl⟩ := hrel.row
    rfl

/-- Every device with a recent handshake has been announced. -/
def PresenceState.AllAnnounced (s : PresenceState) (now : Timestamp) : Prop :=
  ∀ d ∈ s.db.devices, isOnline now d.lastHandshake = true → announced s.published d.id = true

theorem PresenceState.AllAnnounced.cycle {t : Timestamp} (h : s.AllAnnounced t)
    (hle : t ≤ c.now) : (s.cycle c).AllAnnounced c.now := by
  intro d' hd' honline
  rcases cycle_db s c with ⟨-, hdb⟩ | ⟨haborts, hrefreshed⟩
  · rw [hdb] at hd'
    exact (announced_cycle_iff c hd').2 (.inl (h d' hd' (isOnline_of_le hle honline)))
  · obtain ⟨d, hd, hrel⟩ := hrefreshed.exists_row hd'
    rw [isOnline_refreshed hrel] at honline
    obtain ⟨⟨handshake, updated, rfl⟩, -⟩ := hrel
    refine (announced_cycle_iff c hd).2 ?_
    rw [reached_of_not_aborts haborts]
    by_cases hold : isOnline c.now d.lastHandshake = true
    · exact .inl (h d hd (isOnline_of_le hle hold))
    · exact .inr ⟨hold, honline.resolve_left hold⟩

/-- **With a clock that does not go back no device with a recent handshake is left unannounced**,
if none is at the start. -/
theorem announced_of_start {t : Timestamp} {cycles : List PresenceCycle} (hstart : s.AllAnnounced t)
    (hclock : (t :: cycles.map (·.now)).Pairwise (· ≤ ·)) :
    Admissible PresenceState.cycle (fun s c => s.AllAnnounced c.now) s cycles := by
  induction cycles generalizing s t with
  | nil => trivial
  | cons c cycles ih =>
    rw [List.map_cons, List.pairwise_cons] at hclock
    have hle := hclock.1 c.now List.mem_cons_self
    exact ⟨fun d hd honline => hstart d hd (isOnline_of_le hle honline),
      ih (hstart.cycle hle) hclock.2⟩

end

/-- **The events track the stored handshakes all along a run, exactly if they keep tracking each
device whose peer is on the interface**; the handshakes never decrease. -/
theorem presence_tracked_iff (s : PresenceState) (cycles : List PresenceCycle) :
    (∀ pre c post, cycles = pre ++ c :: post →
      (run PresenceState.cycle s (pre ++ [c])).Tracks c ∧
        (run PresenceState.cycle s pre).db.HandshakesLe
          (run PresenceState.cycle s (pre ++ [c])).db) ↔
      Admissible PresenceState.cycle
        (fun s c => ∀ d ∈ s.db.devices, d.OnInterface c.peers → s.StaysTracked c d) s cycles := by
  rw [admissible_iff_forall_split]
  refine forall₄_congr fun pre c post _ => ?_
  rw [run_concat, tracks_cycle_iff, and_iff_left (handshakesLe_cycle _ c)]

/-- A laptop that has just been set up. -/
def quietLaptop : Database where
  networks := .ofRows [{ id := Uuid.ofNat 1, name := "home", subnet := "10.0.0.0/24" }]
  devices := .ofRows [
    { id := Uuid.ofNat 141, name := "laptop", networkId := Uuid.ofNat 1
      publicKey := some "key-l", ipAddress := some "10.0.0.2" }]

/-- A cycle that reads the laptop's handshake of the time 0. -/
def laptopCycle (now : Timestamp) : PresenceCycle where
  now := now
  peers := [{ publicKey := "key-l", latestHandshake := some 0 }]

/-- The laptop is announced, and three minutes later still the last that was published. -/
theorem quietLaptop_stays_online :
    ¬ ∀ pre c post, [laptopCycle 0, laptopCycle (Timestamp.seconds 180)] = pre ++ c :: post →
      (run PresenceState.cycle { db := quietLaptop } (pre ++ [c])).Tracks c ∧
        (run PresenceState.cycle { db := quietLaptop } pre).db.HandshakesLe
          (run PresenceState.cycle { db := quietLaptop } (pre ++ [c])).db := by
  intro h
  obtain ⟨htracks, -⟩ := h [laptopCycle 0] (laptopCycle (Timestamp.seconds 180)) [] rfl
  have hlaptop : ∃ d ∈ (run PresenceState.cycle { db := quietLaptop }
      [laptopCycle 0, laptopCycle (Timestamp.seconds 180)]).db.devices.rows,
      d.publicKey = some "key-l" ∧ isOnline (Timestamp.seconds 180) d.lastHandshake = false ∧
        announced (run PresenceState.cycle { db := quietLaptop }
          [laptopCycle 0, laptopCycle (Timestamp.seconds 180)]).published d.id = true := by
    decide +kernel
  obtain ⟨d, hd, hkey, hold, hannounced⟩ := hlaptop
  have honline := (htracks d hd ⟨_, List.mem_cons_self, hkey⟩).1 hannounced
  exact Bool.false_ne_true (hold.symm.trans honline)

end Midscale
