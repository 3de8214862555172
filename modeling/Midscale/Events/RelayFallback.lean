import Midscale.Events.Announcements
import Midscale.Sessions.Connectivity

/-!
# Relay sessions after repeated failures

`record_punch_result` counts the failures of a session in its dictionary `extra_metadata` and falls
back to a relay session from the second failure on.  The count is assigned to a key of the
dictionary that was loaded, which is not written back: it survives only if the column was `NULL` and
the dictionary is a new one.

* `creates_iff`, `announces_iff` : which report falls back.
* `failures_after` : what the reports leave of the count.
* `relay_fallback_iff` : **exactly the second and the later failures of a sequence of reports fall
  back if and only if the column was `NULL`, or the sequence has at most one failure, and none where
  the stored count is positive.**
-/

namespace Midscale

/-- A report on the result of a punch, with the surroundings of its request. -/
structure PunchReport where
  env : Env
  entropy : Entropy
  request : PunchResult

namespace PunchReport

/-- The report is one of a failure. -/
def failed (rep : PunchReport) : Bool := !rep.request.success

section

variable (id : Uuid) (db : Database) (rep : PunchReport)

/-- The report on the session with the id, in a transaction of its own. -/
def commit : Database :=
  natStep db (.recordPunchResult rep.env.now rep.entropy id rep.request)

/-- The events that the report publishes on the bus. -/
def published : List Event :=
  match db.natSessions.get? id, recordPunchResult rep.env.now db rep.entropy id rep.request with
  | some s, .ok (some (_, relay), db') =>
    recordPunchResultEvents true rep.env db' s relay rep.request
  | _, _ => []

/-- The report creates a relay session for the pair of the session. -/
def Creates : Prop :=
  ∃ s r, db.natSessions.get? id = some s ∧ r ∈ (rep.commit id db).relaySessions ∧
    r ∉ db.relaySessions ∧ r.initiatorDeviceId = s.initiatorDeviceId ∧
      r.targetDeviceId = s.targetDeviceId

/-- The report publishes `relay.fallback`. -/
def Announces : Prop := ∃ event ∈ rep.published id db, event.eventType = "relay.fallback"

/-- The id that a failure may draw for a relay session is free. -/
def Draws : Prop := rep.failed = true → db.relaySessions.get? rep.entropy.rowId = none

end

end PunchReport

/-! ### One report -/

section

variable {db : Database} {id : Uuid} {rep : PunchReport} {s : NATSession}

/-- The devices of the session exist, as its foreign keys ask for. -/
def NATSession.PairExists (db : Database) (s : NATSession) : Prop :=
  (db.devices.get? s.initiatorDeviceId).isSome = true ∧
    (db.devices.get? s.targetDeviceId).isSome = true

instance (db : Database) (s : NATSession) : Decidable (s.PairExists db) :=
  inferInstanceAs (Decidable (_ ∧ _))

/-- The count in the row. -/
def NATSession.storedFailures (s : NATSession) : ℤ :=
  (s.extraMetadata.bind (·.failureCount)).getD 0

theorem PunchReport.failed_of_failure (hfailure : rep.request.success = false) :
    rep.failed = true := by
  rw [PunchReport.failed, hfailure]
  rfl

theorem get?_setNatSession (hs : db.natSessions.get? id = some s) {f : NATSession → NATSession}
    (hf : ∀ s, (f s).id = s.id) : (db.setNatSession id f hf).natSessions.get? id = some (f s) := by
  change (db.natSessions.modify id f hf).get? id = _
  rw [Table.get?_modify, hs, Option.map_some, if_pos (Table.get?_eq_some_iff.1 hs).2]

theorem recordPunchResult_below (now : Timestamp) (e : Entropy) {req : PunchResult}
    (hs : db.natSessions.get? id = some s) (hfailure : req.success = false)
    (hbelow : ¬ 2 ≤ s.failures) :
    recordPunchResult now db e id req = .ok (some (s.failedWith now req.error, none),
      db.setNatSession id (NATSession.failedWith now req.error) fun _ => rfl) := by
  rw [recordPunchResult, hs]
  simp only [hfailure, Bool.false_eq_true, if_false, if_neg hbelow]

theorem recordPunchResult_due (now : Timestamp) (e : Entropy) {req : PunchResult}
    (hs : db.natSessions.get? id = some s) (hfailure : req.success = false)
    (hdue : 2 ≤ s.failures) (hpair : s.PairExists db)
    (hfree : db.relaySessions.get? e.rowId = none) : ∃ relay relaySessions,
      db.relaySessions.insert relay = some relaySessions ∧
      relay.initiatorDeviceId = s.initiatorDeviceId ∧ relay.targetDeviceId = s.targetDeviceId ∧
      recordPunchResult now db e id req = .ok (some (s.failedWith now req.error, some relay),
        { db.setNatSession id (NATSession.failedWith now req.error) fun _ => rfl with
          relaySessions := relaySessions }) := by
  obtain ⟨⟨relay, db'⟩, hcreate⟩ := (createRelaySession_ok_iff now
    (db.setNatSession id (NATSession.failedWith now req.error) fun _ => rfl) e.rowId e.relayToken
    s.initiatorDeviceId s.targetDeviceId "default").2 ⟨hpair, hfree⟩
  obtain ⟨relaySessions, -, hinitiator, htarget, hinsert, rfl⟩ := createRelaySession_eq_ok hcreate
  refine ⟨relay, relaySessions, hinsert, hinitiator, htarget, ?_⟩
  rw [recordPunchResult, hs]
  simp only [hfailure, Bool.false_eq_true, if_false, if_pos hdue, hcreate, ok_bind]

theorem commit_success (hs : db.natSessions.get? id = some s)
    (hsuccess : rep.request.success = true) :
    (rep.commit id db).relaySessions = db.relaySessions ∧
      (rep.commit id db).devices = db.devices ∧
      ∃ s', (rep.commit id db).natSessions.get? id = some s' ∧
        s'.initiatorDeviceId = s.initiatorDeviceId ∧ s'.targetDeviceId = s.targetDeviceId ∧
        s'.extraMetadata = s.extraMetadata := by
  rw [PunchReport.commit, natStep]
  cases hresult : recordPunchResult rep.env.now db rep.entropy id rep.request with
  | error error => exact ⟨rfl, rfl, s, hs, rfl, rfl, rfl⟩
  | ok r =>
    obtain ⟨r, db'⟩ := r
    rcases recordPunchResult_eq_ok hresult with ⟨hnone, -⟩ | ⟨s₁, rfl, hreport⟩
    · rw [hs] at hnone
      cases hnone
    · rw [if_pos hsuccess] at hreport
      obtain ⟨-, hreport, hpromote⟩ := hreport
      obtain ⟨endpoints, rfl, -⟩ := promoteSelected_eq_ok hpromote
      exact ⟨rfl, rfl, s.connectedBy rep.env.now rep.request.candidate,
        get?_setNatSession (f := NATSession.connectedBy rep.env.now rep.request.candidate) hs
          fun _ => rfl, rfl, rfl, rfl⟩

theorem commit_failure (hs : db.natSessions.get? id = some s) (hpair : s.PairExists db)
    (hdraws : rep.Draws db) (hfailure : rep.request.success = false) :
    (rep.commit id db).devices = db.devices ∧
      (rep.commit id db).natSessions.get? id =
        some (s.failedWith rep.env.now rep.request.error) := by
  have hget := get?_setNatSession hs (f := NATSession.failedWith rep.env.now rep.request.error)
    fun _ => rfl
  rw [PunchReport.commit, natStep]
  by_cases hdue : 2 ≤ s.failures
  · obtain ⟨relay, relaySessions, -, -, -, hresult⟩ :=
      recordPunchResult_due rep.env.now rep.entropy hs hfailure hdue hpair
        (hdraws (rep.failed_of_failure hfailure))
    rw [hresult]
    exact ⟨rfl, hget⟩
  · rw [recordPunchResult_below rep.env.now rep.entropy hs hfailure hdue]
    exact ⟨rfl, hget⟩

/-- **A report creates a relay session if it is a failure and the count it sees is two.** -/
theorem creates_iff (hs : db.natSessions.get? id = some s) (hpair : s.PairExists db)
    (hdraws : rep.Draws db) : rep.Creates id db ↔ rep.failed = true ∧ 2 ≤ s.failures := by
  cases hsuccess : rep.request.success with
  | true =>
    refine iff_of_false ?_ fun h => by simp [PunchReport.failed, hsuccess] at h
    rintro ⟨-, r, -, hr, hnew, -⟩
    rw [(commit_success hs hsuccess).1] at hr
    exact hnew hr
  | false =>
    have hfailed := rep.failed_of_failure hsuccess
    rw [PunchReport.Creates, PunchReport.commit, natStep, hfailed]
    by_cases hdue : 2 ≤ s.failures
    · obtain ⟨relay, relaySessions, hinsert, hinitiator, htarget, hresult⟩ :=
        recordPunchResult_due rep.env.now rep.entropy hs hsuccess hdue hpair (hdraws hfailed)
      rw [hresult]
      refine iff_of_true ⟨s, relay, hs, (Table.mem_insert hinsert).2 (.inr rfl), fun hold => ?_,
        hinitiator, htarget⟩ ⟨rfl, hdue⟩
      exact (Table.insert_eq_some hinsert).2 relay hold rfl
    · rw [recordPunchResult_below rep.env.now rep.entropy hs hsuccess hdue]
      refine iff_of_false ?_ fun h => hdue h.2
      rintro ⟨-, r, -, hr, hnew, -⟩
      exact hnew hr

/-- **A report publishes `relay.fallback` in the same case.** -/
theorem announces_iff (hs : db.natSessions.get? id = some s) (hpair : s.PairExists db)
    (hdraws : rep.Draws db) : rep.Announces id db ↔ rep.failed = true ∧ 2 ≤ s.failures := by
  cases hsuccess : rep.request.success with
  | true =>
    refine iff_of_false ?_ fun h => by simp [PunchReport.failed, hsuccess] at h
    rintro ⟨event, hevent, htype⟩
    rw [PunchReport.published, hs] at hevent
    cases hresult : recordPunchResult rep.env.now db rep.entropy id rep.request with
    | error error => rw [hresult] at hevent; cases hevent
    | ok r =>
      obtain ⟨_ | ⟨s', relay⟩, db'⟩ := r
      · rw [hresult] at hevent; cases hevent
      · simp only [hresult, recordPunchResultEvents, hsuccess, if_true,
          publishConfigChanged_eq_nil, ite_self, List.mem_singleton] at hevent
        rw [hevent] at htype
        exact absurd htype (by decide : "nat.punch_succeeded" ≠ "relay.fallback")
  | false =>
    have hfailed := rep.failed_of_failure hsuccess
    rw [PunchReport.Announces, PunchReport.published, hs, hfailed]
    by_cases hdue : 2 ≤ s.failures
    · obtain ⟨relay, relaySessions, -, -, -, hresult⟩ :=
        recordPunchResult_due rep.env.now rep.entropy hs hsuccess hdue hpair (hdraws hfailed)
      rw [hresult]
      refine iff_of_true ⟨s.relayFallback relay, ?_, rfl⟩ ⟨rfl, hdue⟩
      simp [recordPunchResultEvents, hsuccess]
    · rw [recordPunchResult_below rep.env.now rep.entropy hs hsuccess hdue]
      refine iff_of_false ?_ fun h => hdue h.2
      rintro ⟨event, hevent, htype⟩
      simp only [recordPunchResultEvents, hsuccess, Bool.false_eq_true, if_true, if_false,
        List.mem_singleton] at hevent
      rw [hevent] at htype
      exact absurd htype (by decide : "nat.punch_failed" ≠ "relay.fallback")

end

/-! ### A sequence of reports -/

/-- The count that the next failure sees after `n` failures on a session with the dictionary. -/
def seenAfter (metadata : Option NATMetadata) (n : ℕ) : ℤ :=
  match metadata with
  | some metadata => metadata.failureCount.getD 0 + 1
  | none => if n = 0 then 1 else 2

/-- **What the reports leave of the count**: a dictionary that was there stays as it is, and a new
one holds the first failure. -/
theorem failures_after {id : Uuid} {reports : List PunchReport} {db : Database} {s : NATSession}
    (hs : db.natSessions.get? id = some s) (hpair : s.PairExists db)
    (hdraws : Admissible (fun db rep => PunchReport.commit id db rep) (fun db rep => rep.Draws db)
      db reports) :
    ∃ s', (run (fun db rep => PunchReport.commit id db rep) db reports).natSessions.get? id =
        some s' ∧ s'.PairExists (run (fun db rep => PunchReport.commit id db rep) db reports) ∧
      s'.failures = seenAfter s.extraMetadata (reports.countP PunchReport.failed) := by
  induction reports generalizing db s with
  | nil =>
    refine ⟨s, hs, hpair, ?_⟩
    rw [NATSession.failures]
    cases s.extraMetadata <;> rfl
  | cons rep reports ih =>
    obtain ⟨hdraw, hdraws⟩ := hdraws
    cases hsuccess : rep.request.success with
    | true =>
      have hfailed : ¬ rep.failed = true := by simp [PunchReport.failed, hsuccess]
      obtain ⟨-, hdevices, s₁, hs₁, hinitiator, htarget, hmetadata⟩ := commit_success hs hsuccess
      have hpair₁ : s₁.PairExists (PunchReport.commit id db rep) := by
        rw [NATSession.PairExists, hdevices, hinitiator, htarget]
        exact hpair
      obtain ⟨s', hs', hpair', hcount⟩ := ih hs₁ hpair₁ hdraws
      refine ⟨s', hs', hpair', ?_⟩
      rw [hcount, hmetadata, List.countP_cons_of_neg hfailed]
    | false =>
      have hfailed := rep.failed_of_failure hsuccess
      obtain ⟨hdevices, hs₁⟩ := commit_failure hs hpair hdraw hsuccess
      have hpair₁ : (s.failedWith rep.env.now rep.request.error).PairExists
          (PunchReport.commit id db rep) := by
        rw [NATSession.PairExists, hdevices]
        exact hpair
      obtain ⟨s', hs', hpair', hcount⟩ := ih hs₁ hpair₁ hdraws
      refine ⟨s', hs', hpair', ?_⟩
      rw [hcount, List.countP_cons_of_pos hfailed, NATSession.failedWith]
      -- a new dictionary holds this failure, and no later one
      cases s.extraMetadata <;> rfl

theorem exists_split_of_lt_countP {α : Type*} {p : α → Bool} {l : List α} {n : ℕ}
    (h : n < l.countP p) : ∃ pre a post, l = pre ++ a :: post ∧ p a = true ∧ pre.countP p = n := by
  induction l generalizing n with
  | nil => exact absurd h (Nat.not_lt_zero n)
  | cons a l ih =>
    by_cases ha : p a = true
    · rw [List.countP_cons_of_pos ha] at h
      cases n with
      | zero => exact ⟨[], a, l, rfl, ha, rfl⟩
      | succ n =>
        obtain ⟨pre, b, post, rfl, hb, hcount⟩ := ih (Nat.lt_of_succ_lt_succ h)
        exact ⟨a :: pre, b, post, rfl, hb, by rw [List.countP_cons_of_pos ha, hcount]⟩
    · rw [List.countP_cons_of_neg ha] at h
      obtain ⟨pre, b, post, rfl, hb, hcount⟩ := ih h
      exact ⟨a :: pre, b, post, rfl, hb, by rw [List.countP_cons_of_neg ha, hcount]⟩

theorem falls_back_iff {db : Database} {id : Uuid} {s : NATSession}
    (hs : db.natSessions.get? id = some s) (hpair : s.PairExists db) {pre post : List PunchReport}
    {rep : PunchReport} (hdraws : Admissible (fun db rep => PunchReport.commit id db rep)
      (fun db rep => rep.Draws db) db (pre ++ rep :: post)) :
    (rep.Creates id (run (fun db rep => PunchReport.commit id db rep) db pre) ↔
      rep.failed = true ∧ 2 ≤ seenAfter s.extraMetadata (pre.countP PunchReport.failed)) ∧
    (rep.Announces id (run (fun db rep => PunchReport.commit id db rep) db pre) ↔
      rep.failed = true ∧ 2 ≤ seenAfter s.extraMetadata (pre.countP PunchReport.failed)) := by
  obtain ⟨hpre, hrep, -⟩ := (admissible_append _).1 hdraws
  obtain ⟨s', hs', hpair', hcount⟩ := failures_after hs hpair hpre
  rw [← hcount]
  exact ⟨creates_iff hs' hpair' hrep, announces_iff hs' hpair' hrep⟩

/-- **The second and every later failure of a sequence of reports falls back, and no report before
the second failure does, if and only if** the dictionary of the session was `NULL`, or the sequence
has at most one failure, and none where the row already counts one. -/
theorem relay_fallback_iff (db : Database) (id : Uuid) (s : NATSession)
    (hs : db.natSessions.get? id = some s) (hpair : s.PairExists db) (reports : List PunchReport)
    (hdraws : Admissible (fun db rep => PunchReport.commit id db rep) (fun db rep => rep.Draws db)
      db reports) :
    (∀ pre rep post, reports = pre ++ rep :: post →
      let before := run (fun db rep => PunchReport.commit id db rep) db pre
      let failures := pre.countP PunchReport.failed
      (rep.failed = true → 1 ≤ failures → rep.Creates id before ∧ rep.Announces id before) ∧
      (failures + rep.failed.toNat ≤ 1 → ¬ rep.Creates id before ∧ ¬ rep.Announces id before)) ↔
    s.extraMetadata = none ∨
      reports.countP PunchReport.failed ≤ if 1 ≤ s.storedFailures then 0 else 1 := by
  have hfalls : ∀ pre rep post, reports = pre ++ rep :: post →
      (rep.Creates id (run (fun db rep => PunchReport.commit id db rep) db pre) ↔
        rep.failed = true ∧ 2 ≤ seenAfter s.extraMetadata (pre.countP PunchReport.failed)) ∧
      (rep.Announces id (run (fun db rep => PunchReport.commit id db rep) db pre) ↔
        rep.failed = true ∧ 2 ≤ seenAfter s.extraMetadata (pre.countP PunchReport.failed)) := by
    rintro pre rep post rfl
    exact falls_back_iff hs hpair hdraws
  cases hmetadata : s.extraMetadata with
  | none =>
    refine iff_of_true (fun pre rep post hsplit => ?_) (.inl rfl)
    obtain ⟨hcreates, hannounces⟩ := hfalls pre rep post hsplit
    intro before failures
    rw [hcreates, hannounces, hmetadata, seenAfter]
    constructor
    · intro hfailed hone
      rw [if_neg (by omega : pre.countP PunchReport.failed ≠ 0)]
      exact ⟨⟨hfailed, le_rfl⟩, hfailed, le_rfl⟩
    · intro hfew
      have hnot : ¬ (rep.failed = true ∧
          (2 : ℤ) ≤ if pre.countP PunchReport.failed = 0 then 1 else 2) := by
        rintro ⟨hfailed, hseen⟩
        rw [hfailed, Bool.toNat_true] at hfew
        rw [if_pos (by omega : pre.countP PunchReport.failed = 0)] at hseen
        exact absurd hseen (by decide)
      exact ⟨hnot, hnot⟩
  | some metadata =>
    have hstored : s.storedFailures = metadata.failureCount.getD 0 := by
      rw [NATSession.storedFailures, hmetadata, Option.bind_some]
    have hseen : ∀ n, 2 ≤ seenAfter s.extraMetadata n ↔ 1 ≤ s.storedFailures := by
      intro n
      rw [hmetadata, seenAfter, hstored]
      omega
    simp only [hseen] at hfalls
    rw [or_iff_right (by simp)]
    constructor
    · intro hall
      by_contra hmany
      -- the first failure falls back, or the second does not
      obtain ⟨pre, rep, post, hsplit, hfailed, hcount⟩ :=
        exists_split_of_lt_countP (not_le.1 hmany)
      obtain ⟨hcreates, -⟩ := hfalls pre rep post hsplit
      obtain ⟨hlater, hearlier⟩ := hall pre rep post hsplit
      rw [hcreates, hcount, hfailed] at hearlier
      rw [hcreates, hcount] at hlater
      split_ifs at hearlier hlater with hone
      · exact (hearlier (by decide)).1 ⟨rfl, hone⟩
      · exact hone (hlater hfailed le_rfl).1.2
    · intro hfew pre rep post hsplit before failures
      obtain ⟨hcreates, hannounces⟩ := hfalls pre rep post hsplit
      rw [hcreates, hannounces]
      rw [hsplit, List.countP_append] at hfew
      constructor
      · intro hfailed hone
        rw [List.countP_cons_of_pos hfailed] at hfew
        split_ifs at hfew <;> omega
      · intro _
        have hnot : ¬ (rep.failed = true ∧ 1 ≤ s.storedFailures) := by
          rintro ⟨hfailed, hstored⟩
          rw [List.countP_cons_of_pos hfailed, if_pos hstored] at hfew
          omega
        exact ⟨hnot, hnot⟩

/-- The report of a failure, number `n` of the session. -/
def failedPunch (n : ℕ) : PunchReport where
  env := plainEnv
  entropy := { punchEntropy with rowId := Uuid.ofNat n }
  request := { success := false, error := some "timeout" }

/-- One failure and the success after it: nothing falls back. -/
theorem relay_fallback_single :
    let db := natStep punchOffice (.create 0 (Uuid.ofNat 23) (Uuid.ofNat 21) (Uuid.ofNat 22) none)
    let reports := [failedPunch 129, ⟨plainEnv, punchEntropy, { success := true }⟩]
    reports.countP PunchReport.failed = 1 ∧ ∀ pre rep post, reports = pre ++ rep :: post →
      let before := run (fun db rep => PunchReport.commit (Uuid.ofNat 23) db rep) db pre
      let failures := pre.countP PunchReport.failed
      (rep.failed = true → 1 ≤ failures →
        rep.Creates (Uuid.ofNat 23) before ∧ rep.Announces (Uuid.ofNat 23) before) ∧
      (failures + rep.failed.toNat ≤ 1 →
        ¬ rep.Creates (Uuid.ofNat 23) before ∧ ¬ rep.Announces (Uuid.ofNat 23) before) := by
  intro db reports
  refine ⟨rfl, (relay_fallback_iff db (Uuid.ofNat 23)
    { id := Uuid.ofNat 23
      initiatorDeviceId := Uuid.ofNat 21
      targetDeviceId := Uuid.ofNat 22
      expiresAt := natExpiry 0 } (by decide) (by decide) reports ?_).2 (.inr (by decide))⟩
  exact ⟨fun _ => by decide, fun h => absurd h (by decide), trivial⟩

/-- A session that `create_nat_session` made sees its first failure again each time: the second and
the third failure create no relay session. -/
theorem second_failure_without_relay :
    let db := natStep punchOffice (.create 0 (Uuid.ofNat 23) (Uuid.ofNat 21) (Uuid.ofNat 22) none)
    let reports := [failedPunch 129, failedPunch 130, failedPunch 131]
    ¬ ∀ pre rep post, reports = pre ++ rep :: post → rep.failed = true →
      1 ≤ pre.countP PunchReport.failed → rep.Creates (Uuid.ofNat 23)
        (run (fun db rep => PunchReport.commit (Uuid.ofNat 23) db rep) db pre) := by
  intro db reports hall
  obtain ⟨-, r, -, hr, -⟩ :=
    hall [failedPunch 129] (failedPunch 130) [failedPunch 131] rfl rfl (by decide)
  have hnone : (PunchReport.commit (Uuid.ofNat 23) (PunchReport.commit (Uuid.ofNat 23) db
      (failedPunch 129)) (failedPunch 130)).relaySessions.rows = [] := by decide
  rw [Table.mem_def] at hr
  exact absurd (hnone ▸ hr) List.not_mem_nil

end Midscale
