import Midscale.Api.Sessions
import Midscale.Run.Register
import Midscale.Sessions.RelayGauge

/-!
# Relay statistics that are reported at the same time

`update_relay_stats` reads the row of the session, adds to the two counters in Python and commits.
The row is not locked, and a commit writes the columns whose value has changed.  So the requests of
the two participants act on each counter as on a register.

* `run_statsNext_alone` : a request that nobody disturbs does what `update_relay_stats` does.
* `map_run` : a counter of the row in a run is the register of that schedule.
* `relay_stats_exact_iff` : **the counters grow by exactly what is reported if and only if the
  counts of the requests that are lost sum to zero; counts that are not negative are exact if and
  only if no request with a count commits between the read and the commit of another.**
-/

namespace Midscale

/-! ### One request in steps -/

/-- How far a request has come. -/
inductive StatsProgress where
  | waiting
  /-- The row is read; the new values of the counters are computed from it. -/
  | loaded (s : RelaySession)
  | committed
  deriving DecidableEq

/-- The row after the commit of a request that has read `s`: a column is written if its value has
changed. -/
def RelaySession.writeStats (now : Timestamp) (s : RelaySession) (req : RelayStatsUpdate)
    (row : RelaySession) : RelaySession :=
  { row with
    bytesTx := if s.bytesTx + req.bytesTx = s.bytesTx then row.bytesTx else s.bytesTx + req.bytesTx
    bytesRx := if s.bytesRx + req.bytesRx = s.bytesRx then row.bytesRx else s.bytesRx + req.bytesRx
    updatedAt := now }

section

variable {P : Type} [DecidableEq P] (id : Uuid) (requests : P → RelayStatsUpdate)

/-- The next step of a request for the session, at a time. -/
def statsNext (p : P) (now : Timestamp) (db : Database) :
    StatsProgress → Database × StatsProgress
  | .waiting =>
    match db.relaySessions.get? id with
    | some s => (db, .loaded s)
    | none => (db, .committed)
  | .loaded s =>
    (db.setRelaySession id (RelaySession.writeStats now s (requests p)) fun _ => rfl, .committed)
  | .committed => (db, .committed)

/-- The requests before their first step. -/
def Database.awaitingStats (db : Database) : Shared P Database StatsProgress :=
  ⟨db, fun _ => .waiting⟩

end

section

variable {P : Type} [DecidableEq P] {id : Uuid} {requests : P → RelayStatsUpdate}

/-- **A request that takes its two steps undisturbed is `update_relay_stats`.** -/
theorem run_statsNext_alone (db : Database) (p : P) (now : Timestamp) :
    (run (Shared.step (statsNext id requests)) db.awaitingStats [(p, now), (p, now)]).store =
      match updateRelayStats now db id (requests p).bytesTx (requests p).bytesRx with
      | some (_, db') => db'
      | none => db := by
  rw [run_cons, run_cons, run_nil, Shared.step_store, Shared.step_locals_self, Shared.step_store]
  rw [Database.awaitingStats, statsNext, updateRelayStats]
  cases hs : db.relaySessions.get? id with
  | none => rfl
  | some s =>
    obtain ⟨hmem, hid⟩ := Table.get?_eq_some_iff.1 hs
    refine congrArg (fun t => { db with relaySessions := t }) (Table.ext_rows ?_)
    refine List.map_congr_left fun row (hrow : row ∈ db.relaySessions) => ?_
    by_cases hpk : Row.pk row = id
    · obtain rfl := db.relaySessions.eq_of_pk hrow hmem (hpk.trans hid.symm)
      rw [if_pos hpk, if_pos hpk, RelaySession.writeStats, RelaySession.counted]
      congr 1
      · split_ifs with h
        · exact h.symm
        · rfl
      · split_ifs with h
        · exact h.symm
        · rfl
    · rw [if_neg hpk, if_neg hpk]

/-! ### A counter as a register -/

/-- A counter of the row and what a request reports for it. -/
structure StatsColumn where
  value : RelaySession → ℤ
  amount : RelayStatsUpdate → ℤ
  writes : ∀ now s req row, value (RelaySession.writeStats now s req row) =
    if amount req = 0 then value row else value s + amount req

/-- `bytes_tx`. -/
def StatsColumn.tx : StatsColumn where
  value := RelaySession.bytesTx
  amount := RelayStatsUpdate.bytesTx
  writes _ _ _ _ := if_congr add_eq_left rfl rfl

/-- `bytes_rx`. -/
def StatsColumn.rx : StatsColumn where
  value := RelaySession.bytesRx
  amount := RelayStatsUpdate.bytesRx
  writes _ _ _ _ := if_congr add_eq_left rfl rfl

namespace StatsColumn

variable (c : StatsColumn)

/-- A request that reports nothing for the counter does not write it. -/
def skips (requests : P → RelayStatsUpdate) (p : P) : Bool := c.amount (requests p) = 0

/-- The counter of the session. -/
def stored (id : Uuid) (db : Database) : ℤ := ((db.relaySessions.get? id).map c.value).getD 0

/-- What a request holds of the counter. -/
def progress : StatsProgress → Rmw ℤ
  | .waiting => .idle
  | .loaded s => .holding (c.value s)
  | .committed => .done

theorem stored_of_get? {db : Database} {s : RelaySession} (h : db.relaySessions.get? id = some s) :
    c.stored id db = c.value s := by
  rw [stored, h, Option.map_some, Option.getD_some]

omit [DecidableEq P] in
/-- **A step of a request is a step on the register**, and keeps the row. -/
theorem next_eq (requests : P → RelayStatsUpdate) {db : Database} {row : RelaySession}
    (hrow : db.relaySessions.get? id = some row) (p : P) (now : Timestamp) (x : StatsProgress) :
    ((statsNext id requests p now db x).1.relaySessions.get? id).isSome = true ∧
      Rmw.next (fun p b => b + c.amount (requests p)) (c.skips requests) p () (c.stored id db)
        (c.progress x) =
          (c.stored id (statsNext id requests p now db x).1,
            c.progress (statsNext id requests p now db x).2) := by
  cases x with
  | waiting =>
    have hnext : statsNext id requests p now db .waiting = (db, .loaded row) := by
      rw [statsNext, hrow]
    rw [hnext, hrow, c.stored_of_get? hrow]
    exact ⟨rfl, rfl⟩
  | loaded s =>
    have hget : (statsNext id requests p now db (.loaded s)).1.relaySessions.get? id =
        some (RelaySession.writeStats now s (requests p) row) := by
      refine (get?_setRelaySession db id (RelaySession.writeStats now s (requests p))
        (fun _ => rfl) id).trans ?_
      have hid : row.id = id := (Table.get?_eq_some_iff.1 hrow).2
      rw [hrow, Option.map_some, if_pos hid]
    rw [c.stored_of_get? hget, c.stored_of_get? hrow, hget, c.writes, progress, Rmw.next, skips]
    simp only [decide_eq_true_eq]
    exact ⟨rfl, rfl⟩
  | committed =>
    rw [statsNext, hrow]
    exact ⟨rfl, rfl⟩

/-- **A counter of the row in a run is the register after its schedule.** -/
theorem map_run (requests : P → RelayStatsUpdate) {db : Database} {s : RelaySession}
    (hs : db.relaySessions.get? id = some s) (events : List (P × Timestamp)) :
    let w := run (Shared.step (statsNext id requests)) db.awaitingStats events
    (w.store.relaySessions.get? id).isSome = true ∧ w.map (c.stored id) c.progress =
      Rmw.after (fun p b => b + c.amount (requests p)) (c.skips requests) (c.value s)
        (events.map Prod.fst) := by
  induction events using List.reverseRecOn with
  | nil =>
    refine ⟨?_, Shared.ext (c.stored_of_get? hs) rfl⟩
    rw [run_nil, Database.awaitingStats, hs]
    rfl
  | append_singleton events e ih =>
    obtain ⟨p, now⟩ := e
    obtain ⟨hrow, hmap⟩ := ih
    obtain ⟨row, hrow⟩ := Option.isSome_iff_exists.1 hrow
    rw [run_concat, List.map_append, List.map_singleton, Rmw.after_concat, ← hmap]
    obtain ⟨hkept, hnext⟩ := c.next_eq requests hrow p now _
    exact ⟨hkept, Shared.map_step hnext⟩

theorem exact_iff [Fintype P] {db : Database} {s row : RelaySession}
    (hs : db.relaySessions.get? id = some s) {events : List (P × Timestamp)}
    (hall : ∀ p, (run (Shared.step (statsNext id requests)) db.awaitingStats events).locals p =
      .committed)
    (hrow : (run (Shared.step (statsNext id requests)) db.awaitingStats
      events).store.relaySessions.get? id = some row) :
    (c.value row = c.value s + ∑ p, c.amount (requests p) ↔
      ∑ p ∈ Rmw.lost (c.skips requests) (events.map Prod.fst), c.amount (requests p) = 0) ∧
    ((∀ p, 0 ≤ c.amount (requests p)) →
      (c.value row = c.value s + ∑ p, c.amount (requests p) ↔
        Rmw.Undisturbed (c.skips requests) (events.map Prod.fst))) := by
  obtain ⟨-, hmap⟩ := c.map_run requests hs events
  have hvalue := congrArg Shared.store hmap
  rw [Shared.map_store, c.stored_of_get? hrow] at hvalue
  have hiff := Rmw.after_add_exact_iff (c.skips requests)
    (fun p => c.amount (requests p)) (c.value s) (events.map Prod.fst)
  rw [← hvalue] at hiff
  refine ⟨hiff, fun hpos => hiff.trans (Rmw.sum_lost_eq_zero_iff hpos (fun p => ?_) fun p => ?_)⟩
  · rw [skips, decide_eq_true_eq]
  · have hdone := congrArg (fun w => Shared.locals w p) hmap
    rw [Shared.map_locals, hall p] at hdone
    exact Rmw.locals_after_eq_done_iff.1 hdone.symm

end StatsColumn

end

/-- **Relay statistics that are reported at the same time.**  After any interleaving in which all
requests for the session have committed, the two counters have grown by exactly the sums of what was
reported if and only if, in each column, the counts of the lost requests sum to zero; where no count
is negative this is so if and only if no request with a count commits between the read and the
commit of another one with a count. -/
theorem relay_stats_exact_iff {P : Type} [Fintype P] [DecidableEq P] (id : Uuid)
    (requests : P → RelayStatsUpdate) (db : Database) (s : RelaySession)
    (hs : db.relaySessions.get? id = some s) (events : List (P × Timestamp))
    (hall : ∀ p, (run (Shared.step (statsNext id requests)) db.awaitingStats events).locals p =
      .committed) :
    ∃ row, (run (Shared.step (statsNext id requests)) db.awaitingStats
        events).store.relaySessions.get? id = some row ∧
      (row.bytesTx = s.bytesTx + ∑ p, (requests p).bytesTx ∧
          row.bytesRx = s.bytesRx + ∑ p, (requests p).bytesRx ↔
        ∑ p ∈ Rmw.lost (fun p => (requests p).bytesTx = 0) (events.map Prod.fst),
            (requests p).bytesTx = 0 ∧
          ∑ p ∈ Rmw.lost (fun p => (requests p).bytesRx = 0) (events.map Prod.fst),
            (requests p).bytesRx = 0) ∧
      ((∀ p, 0 ≤ (requests p).bytesTx ∧ 0 ≤ (requests p).bytesRx) →
        (row.bytesTx = s.bytesTx + ∑ p, (requests p).bytesTx ∧
            row.bytesRx = s.bytesRx + ∑ p, (requests p).bytesRx ↔
          Rmw.Undisturbed (fun p => (requests p).bytesTx = 0) (events.map Prod.fst) ∧
            Rmw.Undisturbed (fun p => (requests p).bytesRx = 0) (events.map Prod.fst))) := by
  obtain ⟨hkept, -⟩ := StatsColumn.tx.map_run requests hs events
  obtain ⟨row, hrow⟩ := Option.isSome_iff_exists.1 hkept
  obtain ⟨htx, htx'⟩ := StatsColumn.tx.exact_iff hs hall hrow
  obtain ⟨hrx, hrx'⟩ := StatsColumn.rx.exact_iff hs hall hrow
  exact ⟨row, hrow, and_congr htx hrx,
    fun hpos => and_congr (htx' fun p => (hpos p).1) (hrx' fun p => (hpos p).2)⟩

/-- A relay session that is open. -/
def statsOffice : Database :=
  (relayStep ⟨relayOffice, 0⟩ (.create 0 (Uuid.ofNat 127) "a" (Uuid.ofNat 125) (Uuid.ofNat 126)
    "default")).db

/-- What its two devices report. -/
def statsReports : Bool → RelayStatsUpdate
  | true => { bytesTx := 5 }
  | false => { bytesTx := 7, bytesRx := 2 }

/-- One report after the other. -/
theorem relay_stats_exact_serial :
    ∃ row, (run (Shared.step (statsNext (Uuid.ofNat 127) statsReports)) statsOffice.awaitingStats
        [(true, 1), (true, 1), (false, 2), (false, 2)]).store.relaySessions.get? (Uuid.ofNat 127) =
          some row ∧ row.bytesTx = 0 + ∑ p, (statsReports p).bytesTx ∧
            row.bytesRx = 0 + ∑ p, (statsReports p).bytesRx := by
  obtain ⟨row, hrow, hiff, -⟩ := relay_stats_exact_iff (Uuid.ofNat 127) statsReports statsOffice
    (RelaySession.fresh 0 (Uuid.ofNat 127) "a" (Uuid.ofNat 125) (Uuid.ofNat 126) "default")
    (by decide) [(true, 1), (true, 1), (false, 2), (false, 2)] (by decide)
  exact ⟨row, hrow, hiff.2 ⟨by decide, by decide⟩⟩

/-- Two reports that overlap: of twelve bytes that were sent seven are counted. -/
theorem overlapping_stats_lost :
    let w := run (Shared.step (statsNext (Uuid.ofNat 127) statsReports)) statsOffice.awaitingStats
      [(true, 1), (false, 1), (true, 2), (false, 2)]
    (∀ p, w.locals p = .committed) ∧ ∑ p, (statsReports p).bytesTx = 12 ∧
      (w.store.relaySessions.get? (Uuid.ofNat 127)).map (·.bytesTx) = some 7 :=
  ⟨by decide, by decide, by decide⟩

end Midscale
