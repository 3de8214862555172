import Midscale.Data.Counting
import Midscale.Sessions.Connectivity

/-!
# The gauge of open NAT sessions

`NAT_SESSION_ACTIVE` goes up with every session that is created and down by what
`expire_stale_sessions` expires.  A session also leaves the open states by a report on it, of a
punch or of a reachable endpoint, and these reports leave the gauge alone.

* `natGaugeStep_counts_iff` : an operation keeps the gauge at the number of open sessions exactly if
  it is not a report that goes through on an open session.
* `natSessionActive_counts_iff` : **the gauge is right in every state of a run exactly if no such
  report is made in it.**
-/

namespace Midscale

/-- The database and the gauge of one process. -/
structure NatMonitor where
  db : Database
  /-- `NAT_SESSION_ACTIVE`. -/
  natSessionActive : ℤ

/-- What an operation does to the gauge. -/
def natGauge (db : Database) (gauge : ℤ) : NatEvent → ℤ
  | .create now id initiator target extraMetadata =>
    match createNatSession now db id initiator target extraMetadata with
    | .ok _ => gauge + 1
    | .error _ => gauge
  | .expireStaleSessions now => gauge - (expireStaleSessions now db).1
  | .startPunch _ _ | .recordPunchResult _ _ _ _ | .validateConnectivity _ _ _ => gauge

/-- One operation, with the gauge. -/
def natGaugeStep (m : NatMonitor) (e : NatEvent) : NatMonitor :=
  ⟨natStep m.db e, natGauge m.db m.natSessionActive e⟩

/-- The gauge shows the number of open sessions. -/
def NatMonitor.Counts (m : NatMonitor) : Prop :=
  m.natSessionActive = m.db.natSessions.count NATSession.isOpen

/-! ### The reports that go through -/

/-- The report cannot be recorded on the session: several endpoints are there to promote, or the
relay session that is due does not fit in. -/
def PunchResult.Raises (req : PunchResult) (db : Database) (e : Entropy) (s : NATSession) : Prop :=
  if req.success then 2 ≤ (req.selectedRows db s.targetDeviceId).length
  else 2 ≤ s.failures ∧ ((db.relaySessions.get? e.rowId).isSome = true ∨
    ¬ ((db.devices.get? s.initiatorDeviceId).isSome = true ∧
      (db.devices.get? s.targetDeviceId).isSome = true))

instance (req : PunchResult) (db : Database) (e : Entropy) (s : NATSession) :
    Decidable (req.Raises db e s) := by
  unfold PunchResult.Raises
  infer_instance

/-- The validation cannot be recorded on the session. -/
def ConnectivityValidationRequest.Raises (req : ConnectivityValidationRequest) (db : Database)
    (s : NATSession) : Prop :=
  2 ≤ (db.promotable s.targetDeviceId req.targetEndpoint req.targetPort).length

/-- The operation is not a report that goes through on an open session and ends it. -/
def LeavesOpen (db : Database) : NatEvent → Prop
  | .recordPunchResult _ e id req =>
    ∀ s ∈ db.natSessions, s.id = id → s.isOpen = true → req.Raises db e s
  | .validateConnectivity _ id req => req.reachable = true →
    ∀ s ∈ db.natSessions, s.id = id → s.isOpen = true → req.Raises db s
  | _ => True

section

variable {db db' : Database} {now : Timestamp} {id : Uuid} {s : NATSession}

theorem exists_of_length_lt_two {α : Type} {l : List α} (h : ¬ 2 ≤ l.length) :
    l = [] ∨ ∃ a, l = [a] := by
  rcases Nat.lt_or_ge l.length 1 with hzero | hone
  · exact .inl (List.length_eq_zero_iff.1 (by omega))
  · exact .inr (List.length_eq_one_iff.1 (by omega))

theorem recordPunchResult_ok_iff (now : Timestamp) (e : Entropy) (req : PunchResult)
    (hs : db.natSessions.get? id = some s) :
    (∃ r, recordPunchResult now db e id req = .ok r) ↔ ¬ req.Raises db e s := by
  by_cases hsuccess : req.success = true
  · rw [PunchResult.Raises, if_pos hsuccess, recordPunchResult, hs]
    simp only [hsuccess, if_true, bind_eq_ok]
    obtain ⟨hnil, hone, hmany⟩ := promoteSelected_cases now
      (db.connectSession now id req.candidate) s.targetDeviceId req
    change (req.selectedRows db s.targetDeviceId = [] → _) at hnil
    change (∀ ep, req.selectedRows db s.targetDeviceId = [ep] → _) at hone
    change (2 ≤ (req.selectedRows db s.targetDeviceId).length → _) at hmany
    constructor
    · rintro ⟨r, db₁, hpromote, -⟩ hlen
      obtain ⟨error, herror⟩ := hmany hlen
      rw [hpromote] at herror
      cases herror
    · intro hlen
      rcases exists_of_length_lt_two hlen with hrows | ⟨ep, hrows⟩
      · exact ⟨_, _, hnil hrows, rfl⟩
      · obtain ⟨db₁, hpromote, -⟩ := hone ep hrows
        exact ⟨_, _, hpromote, rfl⟩
  · rw [PunchResult.Raises, if_neg hsuccess]
    exact recordPunchResult_failure_ok_iff now e hs (by simpa using hsuccess)

theorem validateConnectivity_reachable_ok_iff (now : Timestamp)
    {req : ConnectivityValidationRequest} (hs : db.natSessions.get? id = some s)
    (hreachable : req.reachable = true) :
    (∃ r, validateConnectivity now db id req = .ok r) ↔ ¬ req.Raises db s := by
  rw [ConnectivityValidationRequest.Raises, validateConnectivity, hs]
  simp only [hreachable, if_true, bind_eq_ok]
  constructor
  · rintro ⟨r, promoted, hpromote, -⟩ hlen
    have hmany : ∃ error, promoteEndpoint now (db.connectSession now id req.candidate)
        s.targetDeviceId req.targetEndpoint req.targetPort req.latencyMs = .error error :=
      promoteEndpoint_of_many now req.latencyMs hlen
    obtain ⟨error, herror⟩ := hmany
    rw [hpromote] at herror
    cases herror
  · intro hlen
    have hfew : ¬ 2 ≤ ((db.connectSession now id req.candidate).promotable s.targetDeviceId
        req.targetEndpoint req.targetPort).length := hlen
    rcases exists_of_length_lt_two hfew with hrows | ⟨ep, hrows⟩
    · exact ⟨_, _, promoteEndpoint_of_nil now req.latencyMs hrows, rfl⟩
    · obtain ⟨r, db₁, hpromote⟩ := promoteEndpoint_of_singleton now req.latencyMs hrows
      exact ⟨_, _, hpromote, rfl⟩

end

/-! ### One operation -/

namespace NatMonitor

variable {m : NatMonitor} {db : Database} {id : Uuid} {s : NATSession}

theorem counts_modify_iff (hm : m.Counts) (hs : m.db.natSessions.get? id = some s)
    {f : NATSession → NATSession} (hf : ∀ s, (f s).id = s.id)
    (hdb : db.natSessions = m.db.natSessions.modify id f hf) :
    Counts ⟨db, m.natSessionActive⟩ ↔ (f s).isOpen = s.isOpen := by
  have hcount := Table.count_modify_add hs hf NATSession.isOpen
  rw [Counts] at hm ⊢
  rw [hdb, hm]
  cases hbefore : s.isOpen <;> cases hafter : (f s).isOpen <;>
    rw [hbefore, hafter] at hcount <;> simp only [Bool.toNat_false, Bool.toNat_true] at hcount <;>
    simp only [Nat.cast_inj, reduceCtorEq, iff_true, iff_false] <;> omega

theorem counts_ended_iff (hm : m.Counts) (hs : m.db.natSessions.get? id = some s)
    {f : NATSession → NATSession} (hf : ∀ s, (f s).id = s.id)
    (hdb : db.natSessions = m.db.natSessions.modify id f hf) (hended : (f s).isOpen = false)
    {raises : NATSession → Prop} (hraises : ¬ raises s) :
    Counts ⟨db, m.natSessionActive⟩ ↔
      ∀ s ∈ m.db.natSessions, s.id = id → s.isOpen = true → raises s := by
  obtain ⟨hmem, hid⟩ := Table.get?_eq_some_iff.1 hs
  rw [counts_modify_iff hm hs hf hdb, hended]
  constructor
  · intro hclosed s' hs' hid' hopen
    obtain rfl := m.db.natSessions.eq_of_pk hs' hmem (hid'.trans hid.symm)
    rw [← hclosed] at hopen
    cases hopen
  · intro hall
    by_contra hopen
    exact hraises (hall s hmem hid (by simpa using Ne.symm hopen))

theorem forall_raises_of_get? {raises : NATSession → Prop}
    (h : ∀ s, m.db.natSessions.get? id = some s → raises s) :
    ∀ s ∈ m.db.natSessions, s.id = id → s.isOpen = true → raises s :=
  fun s hs hid _ => h s (Table.get?_eq_some_iff.2 ⟨hs, hid⟩)

end NatMonitor

/-- A session that is created is open, and is put on the gauge. -/
theorem NatMonitor.Counts.create {m : NatMonitor} (hm : m.Counts) (now : Timestamp)
    (id initiator target : Uuid) (extraMetadata : Option NATMetadata) :
    (natGaugeStep m (.create now id initiator target extraMetadata)).Counts := by
  rw [natGaugeStep, natStep, natGauge]
  cases hcreate : createNatSession now m.db id initiator target extraMetadata with
  | error error => exact hm
  | ok r =>
    obtain ⟨row, db⟩ := r
    obtain ⟨natSessions, -, hpending, -, -, hinsert, rfl⟩ := createNatSession_eq_ok hcreate
    have hrow : row.isOpen = true := by
      rw [NATSession.isOpen, hpending]
      decide
    have hcount := Table.count_insert hinsert NATSession.isOpen
    rw [hrow, Bool.toNat_true] at hcount
    rw [NatMonitor.Counts] at hm ⊢
    change m.natSessionActive + 1 = (natSessions.count NATSession.isOpen : ℕ)
    omega

theorem NatMonitor.Counts.startPunch {m : NatMonitor} (hm : m.Counts) (now : Timestamp)
    (id : Uuid) : (natGaugeStep m (.startPunch now id)).Counts := by
  rw [natGaugeStep, natStep, natGauge]
  cases hstart : Midscale.startPunch now m.db id with
  | none => exact hm
  | some r =>
    obtain ⟨row, db⟩ := r
    obtain ⟨s, hs, hpending, -, rfl⟩ := startPunch_eq_some hstart
    refine (counts_modify_iff hm hs (f := NATSession.coordinating now) (fun _ => rfl) rfl).2 ?_
    rw [NATSession.isOpen, NATSession.isOpen, hpending]
    rfl

theorem NatMonitor.Counts.expireStaleSessions {m : NatMonitor} (hm : m.Counts) (now : Timestamp) :
    (natGaugeStep m (.expireStaleSessions now)).Counts := by
  have hcount : (Midscale.expireStaleSessions now m.db).2.natSessions.count NATSession.isOpen +
      ((m.db.natSessions.select fun s => s.isOpen ∧ s.expiresAt ≤ now).filter
        NATSession.isOpen).length = m.db.natSessions.count NATSession.isOpen := by
    refine Table.count_map_add (fun s => ?_) (fun s hs => ?_) (fun s hs => ?_)
    · unfold NATSession.expired
      split_ifs <;> rfl
    · exact if_neg (of_decide_eq_false hs)
    · rw [NATSession.expired, if_pos (of_decide_eq_true hs)]
      rfl
  have hopen : (m.db.natSessions.select fun s => s.isOpen ∧ s.expiresAt ≤ now).filter
      NATSession.isOpen = m.db.natSessions.select fun s => s.isOpen ∧ s.expiresAt ≤ now :=
    List.filter_eq_self.2 fun s hs => (of_decide_eq_true (Table.mem_select.1 hs).2).1
  rw [hopen] at hcount
  rw [NatMonitor.Counts] at hm ⊢
  change m.natSessionActive - ((m.db.natSessions.select fun s =>
    s.isOpen ∧ s.expiresAt ≤ now).length : ℕ) =
      ((Midscale.expireStaleSessions now m.db).2.natSessions.count NATSession.isOpen : ℕ)
  omega

theorem NatMonitor.Counts.recordPunchResult_iff {m : NatMonitor} (hm : m.Counts) (now : Timestamp)
    (entropy : Entropy) (id : Uuid) (req : PunchResult) :
    (natGaugeStep m (.recordPunchResult now entropy id req)).Counts ↔
      LeavesOpen m.db (.recordPunchResult now entropy id req) := by
  rw [natGaugeStep, natStep, natGauge, LeavesOpen]
  cases hresult : recordPunchResult now m.db entropy id req with
  | error error =>
    refine iff_of_true hm (forall_raises_of_get? fun s hs => ?_)
    by_contra hraises
    obtain ⟨r, hok⟩ := (recordPunchResult_ok_iff now entropy req hs).2 hraises
    rw [hresult] at hok
    cases hok
  | ok r =>
    obtain ⟨r, db⟩ := r
    rcases recordPunchResult_eq_ok hresult with ⟨hnone, -, rfl⟩ | ⟨s, rfl, hreport⟩
    · refine iff_of_true hm (forall_raises_of_get? fun s hs => ?_)
      rw [hnone] at hs
      cases hs
    · split_ifs at hreport
      · obtain ⟨-, ⟨hs, ⟨hf, hdb⟩, -⟩, -⟩ := hreport
        exact counts_ended_iff hm hs hf hdb rfl
          ((recordPunchResult_ok_iff now entropy req hs).1 ⟨_, hresult⟩)
      · obtain ⟨-, ⟨hs, ⟨hf, hdb⟩, -⟩, -⟩ := hreport
        exact counts_ended_iff hm hs hf hdb rfl
          ((recordPunchResult_ok_iff now entropy req hs).1 ⟨_, hresult⟩)

theorem NatMonitor.Counts.validateConnectivity_iff {m : NatMonitor} (hm : m.Counts)
    (now : Timestamp) (id : Uuid) (req : ConnectivityValidationRequest) :
    (natGaugeStep m (.validateConnectivity now id req)).Counts ↔
      LeavesOpen m.db (.validateConnectivity now id req) := by
  rw [natGaugeStep, natStep, natGauge, LeavesOpen]
  cases hvalidate : validateConnectivity now m.db id req with
  | error error =>
    refine iff_of_true hm fun hreachable => forall_raises_of_get? fun s hs => ?_
    by_contra hraises
    obtain ⟨r, hok⟩ := (validateConnectivity_reachable_ok_iff now hs hreachable).2 hraises
    rw [hvalidate] at hok
    cases hok
  | ok r =>
    obtain ⟨r, db⟩ := r
    rcases validateConnectivity_eq_ok hvalidate with ⟨hnone, rfl⟩ | ⟨s, rfl, hreport⟩
    · refine iff_of_true hm fun _ => forall_raises_of_get? fun s hs => ?_
      rw [hnone] at hs
      cases hs
    · split_ifs at hreport with hreachable
      · obtain ⟨⟨hs, ⟨hf, hdb⟩, -⟩, -⟩ := hreport
        rw [forall_prop_of_true hreachable]
        exact counts_ended_iff hm hs hf hdb rfl
          ((validateConnectivity_reachable_ok_iff now hs hreachable).1 ⟨_, hvalidate⟩)
      · obtain ⟨⟨hs, ⟨hf, hdb⟩, -⟩, -⟩ := hreport
        refine iff_of_true ?_ fun h => absurd h hreachable
        exact (counts_modify_iff hm hs hf hdb).2 rfl

/-- **An operation keeps the gauge right exactly if it ends no open session by a report.** -/
theorem natGaugeStep_counts_iff {m : NatMonitor} (hm : m.Counts) (e : NatEvent) :
    (natGaugeStep m e).Counts ↔ LeavesOpen m.db e := by
  cases e with
  | create now id initiator target extraMetadata =>
    exact iff_of_true (hm.create now id initiator target extraMetadata) trivial
  | startPunch now id => exact iff_of_true (hm.startPunch now id) trivial
  | recordPunchResult now entropy id req => exact hm.recordPunchResult_iff now entropy id req
  | validateConnectivity now id req => exact hm.validateConnectivity_iff now id req
  | expireStaleSessions now => exact iff_of_true (hm.expireStaleSessions now) trivial

/-- **`NAT_SESSION_ACTIVE` counts the open sessions in every state of a run exactly if no report in
it goes through on an open session.** -/
theorem natSessionActive_counts_iff (db : Database) (hempty : ∀ s, s ∉ db.natSessions)
    (events : List NatEvent) :
    (∀ pre, pre <+: events →
      (run natGaugeStep ⟨db, 0⟩ pre).natSessionActive =
        ((run natGaugeStep ⟨db, 0⟩ pre).db.natSessions.select fun s =>
          s.state = .pending ∨ s.state = .coordinating ∨ s.state = .punching).length) ↔
      Admissible natGaugeStep (fun m e => LeavesOpen m.db e) ⟨db, 0⟩ events := by
  have hstart : NatMonitor.Counts ⟨db, 0⟩ := by
    rw [NatMonitor.Counts, Table.count_eq_zero hempty]
    rfl
  have hstep : ∀ (m : NatMonitor) (e : NatEvent), m.Counts → True →
      ((natGaugeStep m e).Counts ↔ LeavesOpen m.db e) := fun _ e hm _ =>
    natGaugeStep_counts_iff hm e
  exact forall_prefix_iff_admissible natGaugeStep hstep hstart
    ((admissible_const_iff natGaugeStep).2 fun _ _ => trivial)

/-- Sessions that only expire are counted. -/
theorem natSessionActive_counts_expiry :
    let events : List NatEvent := [.create 0 (Uuid.ofNat 23) (Uuid.ofNat 21) (Uuid.ofNat 22) none,
      .startPunch 1 (Uuid.ofNat 23), .expireStaleSessions (natExpiry 0)]
    (run natGaugeStep ⟨punchOffice, 0⟩ events).db.natSessions.rows.length = 1 ∧
    ∀ pre, pre <+: events →
      (run natGaugeStep ⟨punchOffice, 0⟩ pre).natSessionActive =
        ((run natGaugeStep ⟨punchOffice, 0⟩ pre).db.natSessions.select fun s =>
          s.state = .pending ∨ s.state = .coordinating ∨ s.state = .punching).length :=
  ⟨by decide, (natSessionActive_counts_iff punchOffice (fun s hs => by cases hs) _).2
    ⟨trivial, trivial, trivial, trivial⟩⟩

/-- A punch that succeeds leaves its session on the gauge, also after the clean-up. -/
theorem natSessionActive_stays_up :
    let m := run natGaugeStep ⟨punchOffice, 0⟩
      [.create 0 (Uuid.ofNat 23) (Uuid.ofNat 21) (Uuid.ofNat 22) none,
        .startPunch 1 (Uuid.ofNat 23),
        .recordPunchResult 2 punchEntropy (Uuid.ofNat 23) { success := true },
        .expireStaleSessions (natExpiry 0)]
    m.natSessionActive = 1 ∧ (m.db.natSessions.select fun s =>
      s.state = .pending ∨ s.state = .coordinating ∨ s.state = .punching).length = 0 := by decide

end Midscale
