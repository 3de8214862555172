import Midscale.Sessions.Endpoints

/-!
# Relay sessions

`app.services.relay`: the rows of `relay_sessions` and their states.  None of these functions asks
which device is acting.

* `activateRelaySession_eq_some`, `updateRelayStats_eq_some` : what the services on one row change.
-/

namespace Midscale

/-- `RELAY_SESSION_TIMEOUT_HOURS` after a point in time. -/
def relayExpiry (now : Timestamp) : Timestamp := now + Timestamp.seconds (24 * 3600)

/-- The row that `create_relay_session` adds. -/
def RelaySession.fresh (now : Timestamp) (id : Uuid) (relayToken : String) (initiator target : Uuid)
    (relayRegion : String) : RelaySession where
  id := id
  initiatorDeviceId := initiator
  targetDeviceId := target
  relayRegion := relayRegion
  relayToken := relayToken
  expiresAt := some (relayExpiry now)
  createdAt := now
  updatedAt := now

section

variable (now : Timestamp) (db : Database)

/-- `create_relay_session`, with the id and the token that are drawn. -/
def createRelaySession (id : Uuid) (relayToken : String) (initiator target : Uuid)
    (relayRegion : String := "default") : Except ApiError (RelaySession × Database) := do
  -- the foreign keys of the two devices
  ensure ((db.devices.get? initiator).isSome ∧ (db.devices.get? target).isSome)
    (.internal "IntegrityError")
  let row := RelaySession.fresh now id relayToken initiator target relayRegion
  let relaySessions ← db.relaySessions.add row
  .ok (row, { db with relaySessions := relaySessions })

/-- Assignments to the columns of one relay session. -/
def Database.setRelaySession (id : Uuid) (f : RelaySession → RelaySession)
    (hf : ∀ s, (f s).id = s.id) : Database :=
  { db with relaySessions := db.relaySessions.modify id f hf }

/-- The row after `activate_relay_session`. -/
def RelaySession.activated (s : RelaySession) : RelaySession :=
  { s with state := .active, connectedAt := some now, updatedAt := now }

/-- `activate_relay_session`: `none` when the session is not there or not pending. -/
def activateRelaySession (id : Uuid) : Option (RelaySession × Database) :=
  ((db.relaySessions.get? id).filter (·.state = .pending)).map fun s =>
    (s.activated now, db.setRelaySession id (RelaySession.activated now) fun _ => rfl)

/-- The row after `expire_relay_session` or `fail_relay_session`. -/
def RelaySession.ended (state : RelayState) (s : RelaySession) : RelaySession :=
  { s with state := state, updatedAt := now }

/-- `expire_relay_session`. -/
def expireRelaySession (id : Uuid) : Option (RelaySession × Database) :=
  (db.relaySessions.get? id).map fun s =>
    (s.ended now .expired, db.setRelaySession id (RelaySession.ended now .expired) fun _ => rfl)

/-- `fail_relay_session`. -/
def failRelaySession (id : Uuid) : Option (RelaySession × Database) :=
  (db.relaySessions.get? id).map fun s =>
    (s.ended now .failed, db.setRelaySession id (RelaySession.ended now .failed) fun _ => rfl)

/-- The row after `update_relay_stats`. -/
def RelaySession.counted (bytesTx bytesRx : ℤ) (s : RelaySession) : RelaySession :=
  { s with bytesTx := s.bytesTx + bytesTx, bytesRx := s.bytesRx + bytesRx, updatedAt := now }

/-- `update_relay_stats`. -/
def updateRelayStats (id : Uuid) (bytesTx bytesRx : ℤ) : Option (RelaySession × Database) :=
  (db.relaySessions.get? id).map fun s =>
    (s.counted now bytesTx bytesRx,
      db.setRelaySession id (RelaySession.counted now bytesTx bytesRx) fun _ => rfl)

/-- `cleanup_expired_relays`: the database and the number of sessions that expired. -/
def cleanupExpiredRelays : ℕ × Database :=
  let stale (s : RelaySession) : Bool :=
    (s.state = .pending ∨ s.state = .active) ∧ s.expiresAt.any (· ≤ now)
  ((db.relaySessions.select stale).length,
    { db with
      relaySessions := db.relaySessions.map
        (fun s => if stale s then s.ended now .expired else s) fun s => by split_ifs <;> rfl })

end

/-- The session is in state `pending` or `active`. -/
def RelaySession.IsOpen (s : RelaySession) : Prop := s.state = .pending ∨ s.state = .active

/-- The session is one that `cleanup_expired_relays` expires. -/
def RelaySession.Overdue (now : Timestamp) (s : RelaySession) : Prop :=
  s.IsOpen ∧ ∃ t, s.expiresAt = some t ∧ t ≤ now

/-! ### What they change -/

section

variable {now : Timestamp} {db db' : Database} {id : Uuid} {s : RelaySession}

theorem createRelaySession_eq_ok {relayToken : String} {initiator target : Uuid}
    {relayRegion : String}
    (h : createRelaySession now db id relayToken initiator target relayRegion = .ok (s, db')) :
    ∃ relaySessions, s.id = id ∧ s.initiatorDeviceId = initiator ∧ s.targetDeviceId = target ∧
      db.relaySessions.insert s = some relaySessions ∧
      db' = { db with relaySessions := relaySessions } := by
  simp only [createRelaySession, bind_eq_ok, Table.add_eq_ok] at h
  obtain ⟨-, -, relaySessions, hinsert, h⟩ := h
  cases h
  exact ⟨relaySessions, rfl, rfl, rfl, hinsert, rfl⟩

theorem createRelaySession_pending {relayToken : String} {initiator target : Uuid}
    {relayRegion : String}
    (h : createRelaySession now db id relayToken initiator target relayRegion = .ok (s, db')) :
    s.state = .pending := by
  simp only [createRelaySession, bind_eq_ok, Table.add_eq_ok] at h
  obtain ⟨-, -, relaySessions, -, h⟩ := h
  cases h
  rfl

theorem createRelaySession_ok_iff (now : Timestamp) (db : Database) (id : Uuid)
    (relayToken : String) (initiator target : Uuid) (relayRegion : String) :
    (∃ r, createRelaySession now db id relayToken initiator target relayRegion = .ok r) ↔
      ((db.devices.get? initiator).isSome = true ∧ (db.devices.get? target).isSome = true) ∧
        db.relaySessions.get? id = none := by
  simp only [createRelaySession, bind_eq_ok, ensure_eq_ok, Table.add_eq_ok]
  constructor
  · rintro ⟨r, -, hdevices, relaySessions, hinsert, -⟩
    exact ⟨hdevices, Table.exists_insert_iff.1 ⟨relaySessions, hinsert⟩⟩
  · rintro ⟨hdevices, hfree⟩
    obtain ⟨relaySessions, hinsert⟩ := Table.exists_insert_iff
      (r := RelaySession.fresh now id relayToken initiator target relayRegion) |>.2 hfree
    exact ⟨_, (), hdevices, relaySessions, hinsert, rfl⟩

theorem activateRelaySession_eq_some (h : activateRelaySession now db id = some (s, db')) :
    ∃ old, db.relaySessions.get? id = some old ∧ old.state = .pending ∧ s = old.activated now ∧
      db' = db.setRelaySession id (RelaySession.activated now) fun _ => rfl := by
  simp only [activateRelaySession, Option.map_eq_some_iff, Option.filter_eq_some_iff,
    decide_eq_true_eq, Prod.mk.injEq] at h
  obtain ⟨old, ⟨hold, hpending⟩, rfl, rfl⟩ := h
  exact ⟨old, hold, hpending, rfl, rfl⟩

theorem get?_setRelaySession (db : Database) (id : Uuid) (f : RelaySession → RelaySession)
    (hf : ∀ s, (f s).id = s.id) (id' : Uuid) : (db.setRelaySession id f hf).relaySessions.get? id' =
      (db.relaySessions.get? id').map fun s => if s.id = id then f s else s := by
  change (db.relaySessions.modify id f hf).get? id' = _
  rw [Table.get?_modify]
  rfl

theorem get?_cleanupExpiredRelays (now : Timestamp) (db : Database) (id : Uuid) :
    (∀ s, db.relaySessions.get? id = some s → s.Overdue now →
      (cleanupExpiredRelays now db).2.relaySessions.get? id = some (s.ended now .expired)) ∧
    ∀ s, db.relaySessions.get? id = some s → ¬ s.Overdue now →
      (cleanupExpiredRelays now db).2.relaySessions.get? id = some s := by
  have hstale : ∀ s : RelaySession,
      (decide ((s.state = .pending ∨ s.state = .active) ∧ s.expiresAt.any (· ≤ now)) = true) ↔
        s.Overdue now := by
    intro s
    simp [RelaySession.Overdue, RelaySession.IsOpen, Option.any_eq_true]
  have hget : (cleanupExpiredRelays now db).2.relaySessions.get? id =
      (db.relaySessions.get? id).map fun s =>
        if decide ((s.state = .pending ∨ s.state = .active) ∧ s.expiresAt.any (· ≤ now)) then
          s.ended now .expired else s := by
    simp only [cleanupExpiredRelays, Table.get?_map]
  constructor
  · intro s hs hover
    rw [hget, hs, Option.map_some, if_pos ((hstale s).2 hover)]
  · intro s hs hover
    rw [hget, hs, Option.map_some, if_neg fun h => hover ((hstale s).1 h)]

theorem updateRelayStats_eq_some {bytesTx bytesRx : ℤ}
    (h : updateRelayStats now db id bytesTx bytesRx = some (s, db')) :
    ∃ old, db.relaySessions.get? id = some old ∧ s = old.counted now bytesTx bytesRx ∧
      db' = db.setRelaySession id (RelaySession.counted now bytesTx bytesRx) fun _ => rfl := by
  simp only [updateRelayStats, Option.map_eq_some_iff, Prod.mk.injEq] at h
  obtain ⟨old, hold, rfl, rfl⟩ := h
  exact ⟨old, hold, rfl, rfl⟩

end

end Midscale
