import Mathlib.Algebra.BigOperators.Ring.Finset
import Mathlib.Algebra.Order.BigOperators.Group.List
import Midscale.Api.Sessions
import Midscale.Daemon.RelayClient
import Midscale.Run.Basic

/-!
# Byte counters of relay sessions

The stats loop of the relay client reads its counters once per round and sends them, one request
after the other, for every active session; the backend adds what it is sent to the stored counters.
Other things go on between the requests of a round.  What was transferred over each session is kept
beside the run, to compare the stored counters with.

* `RelayAccount.step` : frames, connects, disconnects and the steps of the rounds, in any order.
* `RelayAccount.Base` : what holds in every state, whatever is reported.
* `RelayAccount.exact_step_iff` : when a step keeps the stored counters exact.
* `counters_exact_iff` : **the counters stay exact exactly as long as every report of a session is
  made when all the client ever received came over that session since its last report.**
-/

namespace Midscale

namespace Daemon

/-! ### Stored counters -/

/-- The received bytes stored for a session; none for one that is not there. -/
def storedRx (db : Database) (id : Uuid) : ℤ := ((db.relaySessions.get? id).map (·.bytesRx)).getD 0

/-- The sent bytes stored for a session. -/
def storedTx (db : Database) (id : Uuid) : ℤ := ((db.relaySessions.get? id).map (·.bytesTx)).getD 0

/-- The sum of the received bytes stored for all sessions. -/
def storedTotal (db : Database) : ℤ := (db.relaySessions.rows.map (·.bytesRx)).sum

/-! ### Rounds -/

/-- A round of `_stats_report_loop`: the counters it has read, and the sessions still to report. -/
structure StatsRound where
  bytesTx : ℕ
  bytesRx : ℕ
  remaining : List String

/-- The client and the database, and what was transferred over each session: by now, when the round
began, and when the counters of its last report were read. -/
structure RelayAccount where
  client : RelayClient
  db : Database
  round : StatsRound := ⟨0, 0, []⟩
  received : Uuid → ℕ := fun _ => 0
  atRound : Uuid → ℕ := fun _ => 0
  reported : Uuid → ℕ := fun _ => 0

/-- What happens. -/
inductive AccountEvent where
  /-- A `DATA` frame of a session arrives. -/
  | data (session : Uuid) (body : Bytes)
  | connect (sessionId token : String)
  | disconnect (sessionId : String)
  /-- The loop reads the counters and the active sessions. -/
  | roundBegins
  /-- The next session of the round is reported. -/
  | report (env : Env)
  /-- The connection is lost and with it the rest of the round. -/
  | roundEnds
  /-- Something else happens to the database. -/
  | elsewhere (db : Database)

namespace RelayAccount

/-- The response to the next report of the round, and the database after it. -/
def reportOf (s : RelayAccount) (env : Env) (sessionId : String) :
    Except ApiError (RelayStatsResponse × Database) :=
  updateRelayStatsEndpoint env s.db s.client.deviceToken sessionId
    { bytesTx := s.round.bytesTx, bytesRx := s.round.bytesRx }

variable (loads : Bytes → Option Json)

/-- One step; a step that is not due changes nothing. -/
def step (s : RelayAccount) : AccountEvent → RelayAccount
  | .data session body =>
    { s with
      client := s.client.handleData loads body
      received := Function.update s.received session
        (s.received session + transferredBytes loads body) }
  | .connect sessionId token => { s with client := s.client.connectSession sessionId token }
  | .disconnect sessionId => { s with client := s.client.disconnectSession sessionId }
  | .roundBegins =>
    if s.round.remaining = [] then
      { s with
        round := ⟨s.client.bytesTx, s.client.bytesRx, s.client.activeSessions.keys⟩
        atRound := s.received }
    else s
  | .report env =>
    match s.round.remaining with
    | [] => s
    | sessionId :: rest =>
      let s' := { s with round := { s.round with remaining := rest } }
      match s.reportOf env sessionId, Uuid.parse sessionId with
      | .ok (_, db), some id =>
        { s' with db := db, reported := Function.update s.reported id (s.atRound id) }
      | _, _ => s'
  | .roundEnds => { s with round := { s.round with remaining := [] } }
  | .elsewhere db => { s with db := db }

/-- Before the first frame, with no bytes stored. -/
structure Fresh (s : RelayAccount) : Prop where
  bytesTx : s.client.bytesTx = 0
  bytesRx : s.client.bytesRx = 0
  round : s.round = ⟨0, 0, []⟩
  received : ∀ id, s.received id = 0 ∧ s.atRound id = 0 ∧ s.reported id = 0
  stored : ∀ id, storedRx s.db id = 0 ∧ storedTx s.db id = 0

/-- The reports succeed, and nothing else touches the counters. -/
def Undisturbed (s : RelayAccount) : AccountEvent → Prop
  | .report env => ∀ sessionId ∈ s.round.remaining.head?, ∃ r, s.reportOf env sessionId = .ok r
  | .elsewhere db => ∀ id, storedRx db id = storedRx s.db id ∧ storedTx db id = storedTx s.db id
  | _ => True

/-- A session is reported only when all the client had received at the beginning of the round came
over that session since the reading of its last report. -/
def ReportsOwn (s : RelayAccount) : AccountEvent → Prop
  | .report _ => ∀ sessionId ∈ s.round.remaining.head?, ∀ id ∈ Uuid.parse sessionId,
      s.reported id + s.round.bytesRx = s.atRound id
  | _ => True

/-- The stored counters are those of the last reports, and together no more than was transferred. -/
structure Exact (s : RelayAccount) : Prop where
  stored : ∀ id, storedRx s.db id = s.reported id ∧ storedTx s.db id = 0
  total : storedTotal s.db ≤ s.client.bytesRx

/-- What holds whatever is reported. -/
structure Base (s : RelayAccount) : Prop where
  bytesTx : s.client.bytesTx = 0 ∧ s.round.bytesTx = 0
  atRound : ∀ id, s.atRound id ≤ s.received id
  reported : ∀ id, s.reported id ≤ s.received id
  total : ∀ ids : List Uuid, ids.Nodup → (ids.map s.received).sum ≤ s.client.bytesRx

/-! ### Sums -/

theorem sum_update_le {α : Type*} [DecidableEq α] (f : α → ℕ) (i : α) (n : ℕ) {ids : List α}
    (hids : ids.Nodup) :
    (ids.map (Function.update f i (f i + n))).sum ≤ (ids.map f).sum + n := by
  induction ids with
  | nil => simp
  | cons a ids ih =>
    obtain ⟨ha, hids⟩ := List.nodup_cons.1 hids
    by_cases hai : a = i
    · subst hai
      have hrest : ids.map (Function.update f a (f a + n)) = ids.map f :=
        List.map_congr_left fun b hb => Function.update_of_ne (fun h : b = a => ha (h ▸ hb)) _ _
      simp only [List.map_cons, List.sum_cons, Function.update_self, hrest]
      omega
    · have := ih hids
      simp only [List.map_cons, List.sum_cons, Function.update_of_ne hai]
      omega

theorem storedTotal_eq (db : Database) :
    storedTotal db = ((db.relaySessions.rows.map (·.id)).map (storedRx db)).sum := by
  rw [storedTotal, List.map_map]
  refine congrArg List.sum (List.map_congr_left fun r hr => ?_)
  have hget : db.relaySessions.get? r.id = some r := Table.get?_eq_some_iff.2 ⟨hr, rfl⟩
  simp [storedRx, hget]

section

variable {db : Database} {id : Uuid} {old : RelaySession} {now : Timestamp} {bytesTx bytesRx : ℤ}
  {hf : ∀ r, (RelaySession.counted now bytesTx bytesRx r).id = r.id}

theorem column_counted (hold : db.relaySessions.get? id = some old) {column : RelaySession → ℤ}
    {n : ℤ} (hcolumn : column (old.counted now bytesTx bytesRx) = column old + n) (id' : Uuid) :
    (((db.setRelaySession id (RelaySession.counted now bytesTx bytesRx) hf).relaySessions.get?
      id').map column).getD 0 =
        ((db.relaySessions.get? id').map column).getD 0 + if id' = id then n else 0 := by
  rw [get?_setRelaySession, Option.map_map]
  by_cases hid : id' = id
  · subst hid
    have hpk : old.id = id' := (Table.get?_eq_some_iff.1 hold).2
    rw [hold, Option.map_some, Option.map_some, Function.comp_apply, if_pos hpk, if_pos rfl]
    exact hcolumn
  · rw [if_neg hid, add_zero]
    cases hget : db.relaySessions.get? id' with
    | none => rfl
    | some r =>
      have hpk : r.id ≠ id := fun h => hid ((Table.get?_eq_some_iff.1 hget).2.symm.trans h)
      rw [Option.map_some, Option.map_some, Function.comp_apply, if_neg hpk]

theorem storedRx_counted (hold : db.relaySessions.get? id = some old) (id' : Uuid) :
    storedRx (db.setRelaySession id (RelaySession.counted now bytesTx bytesRx) hf) id' =
      storedRx db id' + if id' = id then bytesRx else 0 :=
  column_counted hold rfl id'

theorem storedTx_counted (hold : db.relaySessions.get? id = some old) (id' : Uuid) :
    storedTx (db.setRelaySession id (RelaySession.counted now bytesTx bytesRx) hf) id' =
      storedTx db id' + if id' = id then bytesTx else 0 :=
  column_counted hold rfl id'

end

/-! ### One step -/

section Steps

variable {loads : Bytes → Option Json} {s : RelayAccount}

theorem reportOf_eq_ok {env : Env} {sessionId : String} {r : RelayStatsResponse} {db : Database}
    (h : s.reportOf env sessionId = .ok (r, db)) : ∃ id old,
      Uuid.parse sessionId = some id ∧ s.db.relaySessions.get? id = some old ∧
        db = s.db.setRelaySession id
          (RelaySession.counted env.now s.round.bytesTx s.round.bytesRx) fun _ => rfl := by
  simp only [reportOf, updateRelayStatsEndpoint, bind_eq_ok, uuidOf, getOr_eq_ok] at h
  obtain ⟨_, -, id, hid, ⟨_, _⟩, hstats, h⟩ := h
  cases h
  obtain ⟨old, hold, -, hdb⟩ := updateRelayStats_eq_some hstats
  exact ⟨id, old, hid, hold, hdb⟩

theorem step_report {env : Env} {sessionId : String} {rest : List String} {id : Uuid}
    {r : RelayStatsResponse} {db : Database} (hdue : s.round.remaining = sessionId :: rest)
    (hok : s.reportOf env sessionId = .ok (r, db)) (hid : Uuid.parse sessionId = some id) :
    s.step loads (.report env) =
      { s with
        round := { s.round with remaining := rest }
        db := db
        reported := Function.update s.reported id (s.atRound id) } := by
  simp only [step, hdue, hok, hid]

theorem step_report_nil {env : Env} (hdue : s.round.remaining = []) :
    s.step loads (.report env) = s := by
  simp only [step, hdue]

theorem report_frame (s : RelayAccount) (env : Env) :
    (s.step loads (.report env)).client = s.client ∧
      (s.step loads (.report env)).received = s.received ∧
        (s.step loads (.report env)).atRound = s.atRound ∧
          (s.step loads (.report env)).round.bytesTx = s.round.bytesTx := by
  cases hdue : s.round.remaining with
  | nil => rw [step_report_nil hdue]; exact ⟨rfl, rfl, rfl, rfl⟩
  | cons sessionId rest =>
    simp only [step, hdue]
    split <;> exact ⟨rfl, rfl, rfl, rfl⟩

theorem reported_report_le (hbase : Base s) (env : Env) (id : Uuid) :
    (s.step loads (.report env)).reported id ≤ s.received id := by
  cases hdue : s.round.remaining with
  | nil => rw [step_report_nil hdue]; exact hbase.reported id
  | cons sessionId rest =>
    simp only [step, hdue]
    split
    · rename_i id' _ _
      by_cases hid : id = id'
      · subst hid
        simpa using hbase.atRound id
      · simpa [Function.update_of_ne hid] using hbase.reported id
    · exact hbase.reported id

/-- **What holds in every state.** -/
theorem Base.step (hbase : Base s) (e : AccountEvent) : Base (s.step loads e) := by
  cases e with
  | data session body =>
    have hmono : ∀ id, s.received id ≤ Function.update s.received session
        (s.received session + transferredBytes loads body) id := fun id => by
      by_cases hid : id = session
      · subst hid
        simp
      · simp [Function.update_of_ne hid]
    refine ⟨⟨(bytesTx_handleData _ _ _).trans hbase.bytesTx.1, hbase.bytesTx.2⟩,
      fun id => (hbase.atRound id).trans (hmono id), fun id => (hbase.reported id).trans (hmono id),
      fun ids hids => ?_⟩
    have hsum := sum_update_le s.received session (transferredBytes loads body) hids
    have htotal := hbase.total ids hids
    simp only [RelayAccount.step, bytesRx_handleData]
    omega
  | connect sessionId token => exact ⟨hbase.bytesTx, hbase.atRound, hbase.reported, hbase.total⟩
  | disconnect sessionId => exact ⟨hbase.bytesTx, hbase.atRound, hbase.reported, hbase.total⟩
  | roundBegins =>
    simp only [RelayAccount.step]
    split_ifs with hidle
    · exact ⟨⟨hbase.bytesTx.1, hbase.bytesTx.1⟩, fun _ => le_rfl, hbase.reported, hbase.total⟩
    · exact hbase
  | report env =>
    obtain ⟨hclient, hreceived, hatRound, hround⟩ := @report_frame loads s env
    refine ⟨?_, ?_, ?_, ?_⟩
    · rw [hclient, hround]
      exact hbase.bytesTx
    · rw [hatRound, hreceived]
      exact hbase.atRound
    · rw [hreceived]
      exact reported_report_le hbase env
    · rw [hreceived, hclient]
      exact hbase.total
  | roundEnds => exact ⟨hbase.bytesTx, hbase.atRound, hbase.reported, hbase.total⟩
  | elsewhere db => exact ⟨hbase.bytesTx, hbase.atRound, hbase.reported, hbase.total⟩

/-- Exact counters are together no more than was transferred. -/
theorem Base.exact (hbase : Base s)
    (hstored : ∀ id, storedRx s.db id = s.reported id ∧ storedTx s.db id = 0) : Exact s := by
  refine ⟨hstored, ?_⟩
  have hrows : (s.db.relaySessions.rows.map (·.id)).map (storedRx s.db) =
      ((s.db.relaySessions.rows.map (·.id)).map s.reported).map Nat.cast := by
    rw [List.map_map (f := s.reported)]
    exact List.map_congr_left fun id _ => (hstored id).1
  have hle : ((s.db.relaySessions.rows.map (·.id)).map s.reported).sum ≤
      ((s.db.relaySessions.rows.map (·.id)).map s.received).sum :=
    List.sum_le_sum fun id _ => hbase.reported id
  have htotal := hbase.total _ s.db.relaySessions.pk_nodup
  rw [storedTotal_eq, hrows, ← Nat.cast_list_sum]
  exact_mod_cast hle.trans htotal

/-- **What a step does to exact counters**: a report keeps them exactly if it reports what came over
its own session since its last report, and everything else keeps them. -/
theorem exact_step_iff (hbase : Base s) (hexact : Exact s) {e : AccountEvent}
    (hfresh : s.Undisturbed e) : Exact (s.step loads e) ↔ s.ReportsOwn e := by
  have hkept : (∀ id, storedRx (s.step loads e).db id = (s.step loads e).reported id ∧
      storedTx (s.step loads e).db id = 0) → Exact (s.step loads e) := (hbase.step e).exact
  cases e with
  | data | connect | disconnect | roundEnds => exact iff_of_true (hkept hexact.stored) trivial
  | roundBegins =>
    refine iff_of_true (hkept ?_) trivial
    simp only [step]
    split_ifs <;> exact hexact.stored
  | elsewhere db =>
    refine iff_of_true (hkept fun id => ?_) trivial
    obtain ⟨hrx, htx⟩ := hfresh id
    exact ⟨hrx.trans (hexact.stored id).1, htx.trans (hexact.stored id).2⟩
  | report env =>
    cases hdue : s.round.remaining with
    | nil =>
      rw [step_report_nil hdue]
      exact iff_of_true hexact fun sessionId h => by simp [hdue] at h
    | cons sessionId rest =>
      obtain ⟨⟨r, db⟩, hok⟩ := hfresh sessionId (by simp [hdue])
      obtain ⟨id, old, hid, hold, rfl⟩ := reportOf_eq_ok hok
      have howns : s.ReportsOwn (.report env) ↔ s.reported id + s.round.bytesRx = s.atRound id := by
        simp [ReportsOwn, hdue, hid]
      rw [howns]
      have hstep : s.step loads (.report env) = _ := step_report hdue hok hid
      constructor
      · intro h
        have hstored := (h.stored id).1
        rw [hstep] at hstored
        have hadded := (storedRx_counted hold id).symm.trans hstored
        dsimp only at hadded
        rw [if_pos rfl, (hexact.stored id).1, Function.update_self] at hadded
        exact_mod_cast hadded
      · intro hown
        refine hkept fun id' => ?_
        rw [hstep]
        simp only [storedRx_counted hold, storedTx_counted hold, (hexact.stored id').1,
          (hexact.stored id').2, hbase.bytesTx.2]
        by_cases hid' : id' = id
        · subst hid'
          simp only [if_true, Function.update_self]
          exact ⟨by exact_mod_cast hown, by simp⟩
        · simp [hid']

end Steps

/-! ### Runs -/

theorem Fresh.base {s : RelayAccount} (h : Fresh s) : Base s where
  bytesTx := ⟨h.bytesTx, by rw [h.round]⟩
  atRound := fun id => by rw [(h.received id).2.1]; exact Nat.zero_le _
  reported := fun id => by rw [(h.received id).2.2]; exact Nat.zero_le _
  total := fun ids _ => by
    have hzero : ids.map s.received = ids.map fun _ => 0 :=
      List.map_congr_left fun id _ => (h.received id).1
    simp [hzero]

theorem Fresh.exact {s : RelayAccount} (h : Fresh s) : Exact s :=
  h.base.exact fun id => by
    rw [(h.stored id).1, (h.received id).2.2]
    exact ⟨rfl, (h.stored id).2⟩

end RelayAccount

/-- **The stored counters are exact in every state of a run** exactly if every report in it is made
when all the client ever received came over the session since the reading of its last report. -/
theorem counters_exact_iff (loads : Bytes → Option Json) {s : RelayAccount} (hs : s.Fresh)
    {es : List AccountEvent}
    (hes : Admissible (RelayAccount.step loads) RelayAccount.Undisturbed s es) :
    (∀ pre, pre <+: es → (run (RelayAccount.step loads) s pre).Exact) ↔
      Admissible (RelayAccount.step loads) RelayAccount.ReportsOwn s es := by
  have hbase : ∀ pre, (run (RelayAccount.step loads) s pre).Base := fun pre =>
    run_invariant (P := RelayAccount.Base) _ (fun _ e h => h.step e) hs.base pre
  have hstep : ∀ s e, (s.Base ∧ s.Exact) → RelayAccount.Undisturbed s e →
      (((s.step loads e).Base ∧ (s.step loads e).Exact) ↔ s.ReportsOwn e) := by
    intro s e h hfresh
    rw [and_iff_right (h.1.step e)]
    exact RelayAccount.exact_step_iff h.1 h.2 hfresh
  rw [← forall_prefix_iff_admissible _ hstep ⟨hs.base, hs.exact⟩ hes]
  exact forall₂_congr fun pre _ => (and_iff_right (hbase pre)).symm

/-! ### A daemon behind the relay -/

/-- A tablet with a relay session to its desk. -/
def relayStudio : Database where
  devices := .ofRows
    [{ id := Uuid.ofNat 100, name := "tablet", networkId := Uuid.ofNat 102
       deviceTokenHash := some "hash:tablet" },
     { id := Uuid.ofNat 101, name := "desk", networkId := Uuid.ofNat 102 }]
    (by decide : [Uuid.ofNat 100, Uuid.ofNat 101].Nodup)
  relaySessions := .ofRows
    [{ id := Uuid.ofNat 103, initiatorDeviceId := Uuid.ofNat 100
       targetDeviceId := Uuid.ofNat 101, relayToken := "relay-token" }] (List.nodup_singleton _)

/-- The tablet before its first frame. -/
def tabletAccount : RelayAccount where
  client := { deviceId := (Uuid.ofNat 100).str, deviceToken := "tablet" }
  db := relayStudio

/-- Every body is read as the same data of three bytes. -/
def threeBytes (_ : Bytes) : Option Json := some (.obj [("data", .str "616263")])

/-- The session is connected and a frame arrives; then so many rounds with their reports. -/
def studioRun (rounds : ℕ) : List AccountEvent :=
  [.connect (Uuid.ofNat 103).str "relay-token", .data (Uuid.ofNat 103) []] ++
    (List.replicate rounds [AccountEvent.roundBegins, .report plainEnv]).flatten

theorem tabletAccount_fresh : tabletAccount.Fresh where
  bytesTx := rfl
  bytesRx := rfl
  round := rfl
  received := fun _ => ⟨rfl, rfl, rfl⟩
  stored := fun id => by
    simp only [storedRx, storedTx]
    cases hget : tabletAccount.db.relaySessions.get? id with
    | none => exact ⟨rfl, rfl⟩
    | some r =>
      have hmem : r ∈ relayStudio.relaySessions := (Table.get?_eq_some_iff.1 hget).1
      obtain rfl := List.mem_singleton.1 hmem
      exact ⟨rfl, rfl⟩

theorem exists_ok_of_isOk {ε α : Type} {x : Except ε α} (h : x.isOk = true) :
    ∃ a, x = .ok a := by
  cases x with
  | error e => cases h
  | ok a => exact ⟨a, rfl⟩

theorem studio_undisturbed {s : RelayAccount} {env : Env}
    (hhead : s.round.remaining.head? = some (Uuid.ofNat 103).str)
    (hok : (s.reportOf env (Uuid.ofNat 103).str).isOk = true) :
    s.Undisturbed (.report env) := by
  intro sessionId hsession
  obtain rfl := Option.some.inj (hhead.symm.trans hsession)
  exact exists_ok_of_isOk hok

/-- With one round, the stored counter is exact all along. -/
theorem counters_exact_iff_studio :
    storedRx (run (RelayAccount.step threeBytes) tabletAccount (studioRun 1)).db
        (Uuid.ofNat 103) = 3 ∧
      ∀ pre, pre <+: studioRun 1 →
        (run (RelayAccount.step threeBytes) tabletAccount pre).Exact := by
  refine ⟨by decide +kernel, (counters_exact_iff threeBytes tabletAccount_fresh ?_).2 ?_⟩
  · exact ⟨trivial, trivial, trivial, studio_undisturbed (by decide +kernel) (by decide +kernel),
      trivial⟩
  · refine ⟨trivial, trivial, trivial, fun sessionId hsession id hid => ?_, trivial⟩
    have hhead : (RelayAccount.step threeBytes (RelayAccount.step threeBytes (RelayAccount.step
        threeBytes tabletAccount (.connect (Uuid.ofNat 103).str "relay-token"))
        (.data (Uuid.ofNat 103) [])) .roundBegins).round.remaining.head? =
          some (Uuid.ofNat 103).str := by decide +kernel
    obtain rfl := Option.some.inj (hhead.symm.trans hsession)
    have hparsed : Uuid.parse (Uuid.ofNat 103).str = some (Uuid.ofNat 103) := by decide +kernel
    obtain rfl := Option.some.inj (hparsed.symm.trans hid)
    decide +kernel

/-- **A second round reports the same bytes again.** -/
theorem second_round_counts_twice :
    tabletAccount.Fresh ∧
    Admissible (RelayAccount.step threeBytes) RelayAccount.Undisturbed tabletAccount
      (studioRun 2) ∧
    storedRx (run (RelayAccount.step threeBytes) tabletAccount (studioRun 2)).db
      (Uuid.ofNat 103) = 6 ∧
    ¬ ∀ pre, pre <+: studioRun 2 →
      (run (RelayAccount.step threeBytes) tabletAccount pre).Exact := by
  have hstored : storedRx (run (RelayAccount.step threeBytes) tabletAccount (studioRun 2)).db
      (Uuid.ofNat 103) = 6 := by decide +kernel
  refine ⟨tabletAccount_fresh, ⟨trivial, trivial, trivial,
    studio_undisturbed (by decide +kernel) (by decide +kernel), trivial,
    studio_undisturbed (by decide +kernel) (by decide +kernel), trivial⟩, hstored, fun h => ?_⟩
  have hexact := ((h _ List.prefix_rfl).stored (Uuid.ofNat 103)).1
  rw [hstored] at hexact
  exact absurd hexact (by decide +kernel)

end Daemon

end Midscale
