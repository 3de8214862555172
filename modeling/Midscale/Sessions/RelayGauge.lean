import Midscale.Data.Counting
import Midscale.Run.Basic
import Midscale.Sessions.Relay

/-!
# The life of a relay session

A relay session is pending, then perhaps active, then expired or failed.  Four of the services of
`app.services.relay` also move the gauge `RELAY_CONNECTIONS_ACTIVE`, each by what it finds in the
rows before it writes them.

* `relayStep_cases` : what an operation can do.
* `relayStep_counts` : every operation keeps the gauge at the number of active sessions.
* `relayStep_follows` : no operation takes a session back.
* `relaySessions_lifecycle` : **in every state of every run the gauge counts the active sessions, a
  session that is no longer pending stays so, one that is no longer active stays so, and a clean-up
  expires what is overdue and nothing else.**
-/

namespace Midscale

/-- The database and the gauge of one process. -/
structure RelayMonitor where
  db : Database
  /-- `RELAY_CONNECTIONS_ACTIVE`. -/
  relayConnectionsActive : ℤ

/-- The operations on relay sessions, each with the clock reading it sees. -/
inductive RelayEvent where
  | create (now : Timestamp) (id : Uuid) (relayToken : String) (initiator target : Uuid)
      (relayRegion : String)
  | activate (now : Timestamp) (id : Uuid)
  | expire (now : Timestamp) (id : Uuid)
  | fail (now : Timestamp) (id : Uuid)
  | updateStats (now : Timestamp) (id : Uuid) (bytesTx bytesRx : ℤ)
  | cleanup (now : Timestamp)

/-- The session is in state `active`. -/
def RelaySession.isActive (s : RelaySession) : Bool := s.state = .active

/-- The sessions that `cleanup_expired_relays` finds. -/
def Database.staleRelays (now : Timestamp) (db : Database) : List RelaySession :=
  db.relaySessions.select fun s =>
    (s.state = .pending ∨ s.state = .active) ∧ s.expiresAt.any (· ≤ now)

/-- `was_active`. -/
def Database.wasActive (db : Database) (id : Uuid) : Bool :=
  (db.relaySessions.get? id).any RelaySession.isActive

/-- One operation and what it does to the gauge; an operation that raises or finds no row does
nothing to either. -/
def relayStep (m : RelayMonitor) : RelayEvent → RelayMonitor
  | .create now id relayToken initiator target relayRegion =>
    match createRelaySession now m.db id relayToken initiator target relayRegion with
    | .ok (_, db) => { m with db := db }
    | .error _ => m
  | .activate now id =>
    match activateRelaySession now m.db id with
    | some (_, db) => ⟨db, m.relayConnectionsActive + 1⟩
    | none => m
  | .expire now id =>
    match expireRelaySession now m.db id with
    | some (_, db) => ⟨db, m.relayConnectionsActive - if m.db.wasActive id then 1 else 0⟩
    | none => m
  | .fail now id =>
    match failRelaySession now m.db id with
    | some (_, db) => ⟨db, m.relayConnectionsActive - if m.db.wasActive id then 1 else 0⟩
    | none => m
  | .updateStats now id bytesTx bytesRx =>
    match updateRelayStats now m.db id bytesTx bytesRx with
    | some (_, db) => { m with db := db }
    | none => m
  | .cleanup now =>
    ⟨(cleanupExpiredRelays now m.db).2,
      m.relayConnectionsActive - ((m.db.staleRelays now).filter RelaySession.isActive).length⟩

/-! ### What an operation does -/

/-- How far a session has come. -/
def RelayState.rank : RelayState → ℕ
  | .pending => 0
  | .active => 1
  | .expired | .failed => 2

theorem RelayState.rank_eq_zero_iff {state : RelayState} : state.rank = 0 ↔ state = .pending := by
  cases state <;> decide

theorem RelayState.rank_eq_two_of_ne {state : RelayState} (h : 1 ≤ state.rank)
    (hne : state ≠ .active) : state.rank = 2 := by
  cases state with
  | pending => exact absurd h (by decide)
  | active => exact absurd rfl hne
  | expired => rfl
  | failed => rfl

theorem rank_le_of_closed (state : RelayState) {closed : RelayState} (h : closed.rank = 2) :
    state.rank ≤ closed.rank := by
  rw [h]
  cases state <;> decide

/-- One session is written and does not go back, and the gauge moves with its state. -/
structure RelayMonitor.Writes (m m' : RelayMonitor) (id : Uuid) (s : RelaySession)
    (f : RelaySession → RelaySession) : Prop where
  get? : m.db.relaySessions.get? id = some s
  rank : s.state.rank ≤ (f s).state.rank
  db : ∃ hf, m'.db = m.db.setRelaySession id f hf
  gauge : m'.relayConnectionsActive =
    m.relayConnectionsActive + (f s).isActive.toNat - s.isActive.toNat

section

variable {m : RelayMonitor} {now : Timestamp} {id : Uuid} {s : RelaySession}

theorem wasActive_eq (h : m.db.relaySessions.get? id = some s) :
    m.db.wasActive id = s.isActive := by
  rw [Database.wasActive, h, Option.any_some]

theorem RelayMonitor.writes_ended (h : m.db.relaySessions.get? id = some s) {state : RelayState}
    (hstate : state.rank = 2) :
    m.Writes ⟨m.db.setRelaySession id (RelaySession.ended now state) fun _ => rfl,
      m.relayConnectionsActive - if m.db.wasActive id then 1 else 0⟩ id s
        (RelaySession.ended now state) where
  get? := h
  rank := rank_le_of_closed _ hstate
  db := ⟨_, rfl⟩
  gauge := by
    have hended : (s.ended now state).isActive = false := by
      refine decide_eq_false fun hactive => ?_
      have hactive : state = .active := hactive
      rw [hactive] at hstate
      cases hstate
    rw [wasActive_eq h, hended]
    cases s.isActive <;> simp

end

/-- **What an operation can do**: nothing, add a pending session, write one session, or clean up. -/
theorem relayStep_cases (m : RelayMonitor) (e : RelayEvent) :
    relayStep m e = m ∨
    (∃ row relaySessions, row.state = .pending ∧
      m.db.relaySessions.insert row = some relaySessions ∧
        relayStep m e = { m with db := { m.db with relaySessions := relaySessions } }) ∨
    (∃ id s f, m.Writes (relayStep m e) id s f) ∨ ∃ now, e = .cleanup now := by
  cases e with
  | create now id relayToken initiator target relayRegion =>
    rw [relayStep]
    split
    · rename_i row db hcreate
      obtain ⟨relaySessions, -, -, -, hinsert, rfl⟩ := createRelaySession_eq_ok hcreate
      exact .inr (.inl ⟨row, relaySessions, createRelaySession_pending hcreate, hinsert, rfl⟩)
    · exact .inl rfl
  | activate now id =>
    rw [relayStep]
    split
    · rename_i row db hactivate
      obtain ⟨s, hs, hpending, -, rfl⟩ := activateRelaySession_eq_some hactivate
      have hbefore : s.isActive = false := by
        rw [RelaySession.isActive, hpending]
        decide
      have hafter : (s.activated now).isActive = true := rfl
      refine .inr (.inr (.inl ⟨id, s, RelaySession.activated now, hs, ?_, ⟨_, rfl⟩, ?_⟩))
      · rw [hpending]
        exact Nat.zero_le _
      · rw [hbefore, hafter]
        simp
    · exact .inl rfl
  | expire now id =>
    rw [relayStep]
    split
    · rename_i row db hexpire
      obtain ⟨s, hs, hrow⟩ := Option.map_eq_some_iff.1 hexpire
      cases hrow
      exact .inr (.inr (.inl ⟨id, s, _, RelayMonitor.writes_ended hs rfl⟩))
    · exact .inl rfl
  | fail now id =>
    rw [relayStep]
    split
    · rename_i row db hfail
      obtain ⟨s, hs, hrow⟩ := Option.map_eq_some_iff.1 hfail
      cases hrow
      exact .inr (.inr (.inl ⟨id, s, _, RelayMonitor.writes_ended hs rfl⟩))
    · exact .inl rfl
  | updateStats now id bytesTx bytesRx =>
    rw [relayStep]
    split
    · rename_i row db hstats
      obtain ⟨s, hs, -, rfl⟩ := updateRelayStats_eq_some hstats
      have hsame : (s.counted now bytesTx bytesRx).isActive = s.isActive := rfl
      refine .inr (.inr (.inl ⟨id, s, RelaySession.counted now bytesTx bytesRx, hs, le_rfl,
        ⟨_, rfl⟩, ?_⟩))
      rw [hsame]
      exact (add_sub_cancel_right _ _).symm
    · exact .inl rfl
  | cleanup now => exact .inr (.inr (.inr ⟨now, rfl⟩))

/-! ### The gauge -/

/-- The gauge shows the number of active sessions. -/
def RelayMonitor.Counts (m : RelayMonitor) : Prop :=
  m.relayConnectionsActive = m.db.relaySessions.count RelaySession.isActive

namespace RelayMonitor.Counts

variable {m m' : RelayMonitor} (hm : m.Counts)
include hm

/-- A session that is added is not active. -/
theorem insert {row : RelaySession} {relaySessions : Table RelaySession}
    (hpending : row.state = .pending)
    (hinsert : m.db.relaySessions.insert row = some relaySessions) :
    RelayMonitor.Counts { m with db := { m.db with relaySessions := relaySessions } } := by
  have hrow : row.isActive = false := by
    rw [RelaySession.isActive, hpending]
    decide
  have hcount := Table.count_insert hinsert RelaySession.isActive
  rw [hrow] at hcount
  exact Eq.trans hm (congrArg Nat.cast hcount.symm)

/-- The gauge moves with the session that is written. -/
theorem writes {id : Uuid} {s : RelaySession} {f : RelaySession → RelaySession}
    (h : m.Writes m' id s f) : m'.Counts := by
  obtain ⟨hf, hdb⟩ := h.db
  have hcount := Table.count_modify_add h.get? hf RelaySession.isActive
  have hgauge := h.gauge
  rw [RelayMonitor.Counts] at hm ⊢
  rw [hdb]
  change m'.relayConnectionsActive =
    ((m.db.relaySessions.modify id f hf).count RelaySession.isActive : ℕ)
  omega

theorem cleanup (now : Timestamp) : (relayStep m (.cleanup now)).Counts := by
  have hcount : (cleanupExpiredRelays now m.db).2.relaySessions.count RelaySession.isActive +
      ((m.db.staleRelays now).filter RelaySession.isActive).length =
        m.db.relaySessions.count RelaySession.isActive := by
    refine Table.count_map_add (fun s => ?_) (fun s hs => ?_) (fun s hs => ?_)
    · dsimp only
      split_ifs <;> rfl
    · exact if_neg (Bool.eq_false_iff.1 hs)
    · dsimp only at hs ⊢
      rw [if_pos hs]
      rfl
  rw [RelayMonitor.Counts] at hm ⊢
  change m.relayConnectionsActive - ((m.db.staleRelays now).filter RelaySession.isActive).length =
    ((cleanupExpiredRelays now m.db).2.relaySessions.count RelaySession.isActive : ℕ)
  omega

end RelayMonitor.Counts

/-- **Every operation keeps the gauge at the number of active sessions.** -/
theorem relayStep_counts {m : RelayMonitor} (hm : m.Counts) (e : RelayEvent) :
    (relayStep m e).Counts := by
  rcases relayStep_cases m e with hsame | ⟨row, relaySessions, hpending, hinsert, hstep⟩ |
    ⟨id, s, f, hwrites⟩ | ⟨now, rfl⟩
  · rwa [hsame]
  · rw [hstep]
    exact hm.insert hpending hinsert
  · exact hm.writes hwrites
  · exact hm.cleanup now

/-! ### The states -/

/-- The rank of the session with an id does not decrease, and no session goes away. -/
def RelayMonitor.Follows (m m' : RelayMonitor) : Prop :=
  ∀ s ∈ m.db.relaySessions, ∃ s' ∈ m'.db.relaySessions,
    s'.id = s.id ∧ s.state.rank ≤ s'.state.rank

namespace RelayMonitor.Follows

variable {m m' m'' : RelayMonitor}

theorem refl (m : RelayMonitor) : m.Follows m := fun s hs => ⟨s, hs, rfl, le_rfl⟩

theorem trans (h : m.Follows m') (h' : m'.Follows m'') : m.Follows m'' := by
  intro s hs
  obtain ⟨s', hs', hid, hrank⟩ := h s hs
  obtain ⟨s'', hs'', hid', hrank'⟩ := h' s' hs'
  exact ⟨s'', hs'', hid'.trans hid, hrank.trans hrank'⟩

theorem of_map {f : RelaySession → RelaySession} (hf : ∀ s, (f s).id = s.id)
    (hrank : ∀ s ∈ m.db.relaySessions, s.state.rank ≤ (f s).state.rank)
    (h : m'.db.relaySessions = m.db.relaySessions.map f hf) : m.Follows m' := by
  intro s hs
  refine ⟨f s, ?_, hf s, hrank s hs⟩
  rw [h]
  exact List.mem_map_of_mem hs

theorem of_writes {id : Uuid} {s : RelaySession} {f : RelaySession → RelaySession}
    (h : m.Writes m' id s f) : m.Follows m' := by
  obtain ⟨hmem, hid⟩ := Table.get?_eq_some_iff.1 h.get?
  obtain ⟨hf, hdb⟩ := h.db
  refine of_map (f := fun s => if s.id = id then f s else s) (fun s => ?_) (fun s' hs' => ?_)
    (congrArg Database.relaySessions hdb)
  · split_ifs
    · exact hf s
    · rfl
  · split_ifs with hid'
    · obtain rfl := m.db.relaySessions.eq_of_pk hs' hmem (hid'.trans hid.symm)
      exact h.rank
    · exact le_rfl

end RelayMonitor.Follows

/-- **No operation takes a session back**, and none takes it away. -/
theorem relayStep_follows (m : RelayMonitor) (e : RelayEvent) : m.Follows (relayStep m e) := by
  rcases relayStep_cases m e with hsame | ⟨row, relaySessions, -, hinsert, hstep⟩ |
    ⟨id, s, f, hwrites⟩ | ⟨now, rfl⟩
  · rw [hsame]
    exact .refl m
  · rw [hstep]
    exact fun s hs => ⟨s, (Table.mem_insert hinsert).2 (.inl hs), rfl, le_rfl⟩
  · exact .of_writes hwrites
  · refine .of_map (fun s => ?_) (fun s _ => ?_) rfl
    · dsimp only
      split_ifs <;> rfl
    · dsimp only
      split_ifs
      · exact rank_le_of_closed _ rfl
      · exact le_rfl

theorem run_relayStep_follows (m : RelayMonitor) (es : List RelayEvent) :
    m.Follows (run relayStep m es) :=
  run_invariant relayStep (fun _ e h => h.trans (relayStep_follows _ e)) (.refl m) es

/-! ### The life of a session -/

theorem not_overdue_of_mem_cleanup {now : Timestamp} {db : Database} {s : RelaySession}
    (hs : s ∈ (cleanupExpiredRelays now db).2.relaySessions) : ¬ s.Overdue now := by
  intro hover
  have hget := Table.get?_eq_some_iff.2 ⟨hs, rfl⟩
  cases hold : db.relaySessions.get? (Row.pk s) with
  | none =>
    have hnone : (cleanupExpiredRelays now db).2.relaySessions.get? (Row.pk s) = none := by
      simp only [cleanupExpiredRelays, Table.get?_map, hold, Option.map_none]
    rw [hnone] at hget
    cases hget
  | some old =>
    obtain ⟨hexpire, hkeep⟩ := get?_cleanupExpiredRelays now db (Row.pk s)
    by_cases hstale : old.Overdue now
    · rw [hexpire old hold hstale, Option.some.injEq] at hget
      subst hget
      rcases hover.1 with h | h <;> cases h
    · rw [hkeep old hold hstale, Option.some.injEq] at hget
      exact hstale (hget ▸ hover)

/-- **The life of the relay sessions**, over all runs from an empty table and gauge: the gauge
counts the active sessions; a session that is no longer pending does not become pending again, and
one that was active and is so no longer does not become active again; a clean-up leaves no session
that is pending or active and past its expiry, and does not touch the others. -/
theorem relaySessions_lifecycle (db : Database) (hempty : ∀ s, s ∉ db.relaySessions)
    (events more later : List RelayEvent) (now : Timestamp) :
    let m := run relayStep ⟨db, 0⟩ events
    let m' := run relayStep m more
    let m'' := run relayStep m' later
    let cleaned := (relayStep m (.cleanup now)).db.relaySessions
    m.relayConnectionsActive = (m.db.relaySessions.select fun s => s.state = .active).length ∧
    (∀ s ∈ m.db.relaySessions, s.state ≠ .pending →
      ∃ s' ∈ m'.db.relaySessions, s'.id = s.id ∧ s'.state ≠ .pending) ∧
    (∀ s ∈ m.db.relaySessions, s.state = .active →
      ∀ s' ∈ m'.db.relaySessions, s'.id = s.id → s'.state ≠ .active →
        ∃ s'' ∈ m''.db.relaySessions, s''.id = s.id ∧ s''.state ≠ .active) ∧
    (∀ s ∈ cleaned, s.state = .pending ∨ s.state = .active →
      ∀ t, s.expiresAt = some t → now < t) ∧
    ∀ s ∈ m.db.relaySessions, ¬ ((s.state = .pending ∨ s.state = .active) ∧
      ∃ t, s.expiresAt = some t ∧ t ≤ now) → s ∈ cleaned := by
  intro m m' m'' cleaned
  refine ⟨?_, fun s hs hpending => ?_, fun s hs hactive s' hs' hid hleft => ?_,
    fun s hs hopen t ht => ?_, fun s hs hover => ?_⟩
  · have hstart : RelayMonitor.Counts ⟨db, 0⟩ := by
      rw [RelayMonitor.Counts, Table.count_eq_zero hempty]
      rfl
    exact run_invariant relayStep (P := RelayMonitor.Counts) (fun _ e h => relayStep_counts h e)
      hstart events
  · obtain ⟨s', hs', hid, hrank⟩ := run_relayStep_follows m more s hs
    refine ⟨s', hs', hid, fun hback => hpending ?_⟩
    rw [hback] at hrank
    exact RelayState.rank_eq_zero_iff.1 (Nat.le_zero.1 hrank)
  · -- a session that left `active` has the highest rank
    have hclosed : s'.state.rank = 2 := by
      obtain ⟨s₁, hs₁, hid₁, hrank⟩ := run_relayStep_follows m more s hs
      obtain rfl := m'.db.relaySessions.eq_of_pk hs₁ hs' (hid₁.trans hid.symm)
      rw [hactive] at hrank
      exact RelayState.rank_eq_two_of_ne hrank hleft
    obtain ⟨s'', hs'', hid', hrank⟩ := run_relayStep_follows m' later s' hs'
    refine ⟨s'', hs'', hid'.trans hid, fun hback => ?_⟩
    rw [hback, hclosed] at hrank
    exact absurd hrank (by decide)
  · by_contra hlate
    exact not_overdue_of_mem_cleanup hs ⟨hopen, t, ht, Int.not_lt.1 hlate⟩
  · have hget := (get?_cleanupExpiredRelays now m.db s.id).2 s
      (Table.get?_eq_some_iff.2 ⟨hs, rfl⟩) hover
    exact (Table.get?_eq_some_iff.1 hget).1

/-- Two devices of one network, without relay sessions. -/
def relayOffice : Database where
  networks := .ofRows [{ id := Uuid.ofNat 124, name := "relay office", subnet := "10.3.0.0/24" }]
  devices := .ofRows [
    { id := Uuid.ofNat 125, name := "kiosk", networkId := Uuid.ofNat 124 },
    { id := Uuid.ofNat 126, name := "ledger", networkId := Uuid.ofNat 124 }]
    (by decide : [Uuid.ofNat 125, Uuid.ofNat 126].Nodup)

/-- Of two sessions one becomes active, and a day later a clean-up takes it off the gauge. -/
theorem relaySessions_lifecycle_day :
    let events : List RelayEvent := [.create 0 (Uuid.ofNat 127) "a" (Uuid.ofNat 125)
        (Uuid.ofNat 126) "default", .create 1 (Uuid.ofNat 128) "b" (Uuid.ofNat 126)
        (Uuid.ofNat 125) "default", .activate 2 (Uuid.ofNat 127)]
    let m := run relayStep ⟨relayOffice, 0⟩ events
    let cleaned := relayStep m (.cleanup (relayExpiry 0))
    (m.relayConnectionsActive = 1 ∧ cleaned.relayConnectionsActive = 0) ∧
      m.relayConnectionsActive = (m.db.relaySessions.select fun s => s.state = .active).length ∧
      ∀ s ∈ cleaned.db.relaySessions, s.state = .pending ∨ s.state = .active →
        ∀ t, s.expiresAt = some t → relayExpiry 0 < t := by
  intro events m cleaned
  obtain ⟨hgauge, -, -, hexpired, -⟩ := relaySessions_lifecycle relayOffice
    (fun s hs => by cases hs) events [] [] (relayExpiry 0)
  exact ⟨by decide, hgauge, hexpired⟩

end Midscale
