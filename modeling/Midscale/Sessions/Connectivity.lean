import Midscale.Run.Basic
import Midscale.Sessions.Nat

/-!
# What a NAT session claims

Three columns say whether the direct path of a session works: its state, the flag
`connectivity_established` and the selected candidate.  A success sets all three, a failure sets the
state alone.

* `NATSession.Consistent` : the three columns agree.
* `natStep_consistent` : every operation keeps them agreeing, but for the failure of a connected
  session.
* `recordPunchResult_breaks` : that failure leaves it failed and still connected.
* `natSessions_consistent` : **in every state of a run in which no failure is reported on a
  connected session the three columns of every session agree.**
-/

namespace Midscale

/-- The operations on NAT sessions, each with the clock reading it sees. -/
inductive NatEvent where
  | create (now : Timestamp) (id initiator target : Uuid) (extraMetadata : Option NATMetadata)
  | startPunch (now : Timestamp) (id : Uuid)
  | recordPunchResult (now : Timestamp) (e : Entropy) (id : Uuid) (req : PunchResult)
  | validateConnectivity (now : Timestamp) (id : Uuid) (req : ConnectivityValidationRequest)
  | expireStaleSessions (now : Timestamp)

/-- One operation, which changes nothing when it raises. -/
def natStep (db : Database) : NatEvent → Database
  | .create now id initiator target extraMetadata =>
    match createNatSession now db id initiator target extraMetadata with
    | .ok (_, db') => db'
    | .error _ => db
  | .startPunch now id =>
    match startPunch now db id with
    | some (_, db') => db'
    | none => db
  | .recordPunchResult now e id req =>
    match recordPunchResult now db e id req with
    | .ok (_, db') => db'
    | .error _ => db
  | .validateConnectivity now id req =>
    match validateConnectivity now db id req with
    | .ok (_, db') => db'
    | .error _ => db
  | .expireStaleSessions now => (expireStaleSessions now db).2

namespace NATSession

/-- The state, the flag and the candidate agree. -/
def Consistent (s : NATSession) : Prop :=
  (s.state = .connected ↔ s.connectivityEstablished = true) ∧
    (s.state = .connected ↔ s.selectedCandidate.isSome = true)

instance (s : NATSession) : Decidable s.Consistent := inferInstanceAs (Decidable (_ ∧ _))

theorem consistent_connectedBy (now : Timestamp) (candidate : SelectedCandidate) (s : NATSession) :
    (s.connectedBy now candidate).Consistent := by simp [Consistent, connectedBy]

theorem Consistent.of_not_connected {s : NATSession} (h : s.Consistent)
    (hs : s.state ≠ .connected) {s' : NATSession} (hs' : s'.state ≠ .connected)
    (hflag : s'.connectivityEstablished = s.connectivityEstablished)
    (hcandidate : s'.selectedCandidate = s.selectedCandidate) : s'.Consistent := by
  rw [Consistent, hflag, hcandidate, ← h.1, ← h.2]
  exact ⟨iff_of_false hs' hs, iff_of_false hs' hs⟩

theorem Consistent.expired {s : NATSession} (h : s.Consistent) (now : Timestamp) :
    (s.expired now).Consistent := by
  unfold NATSession.expired
  split_ifs with hcond
  · refine h.of_not_connected (fun hs => ?_) (fun hs => ?_) rfl rfl
    · simp [isOpen, hs] at hcond
    · cases hs
  · exact h

theorem Consistent.not_established {s : NATSession} (h : s.Consistent)
    (hs : s.state = .failed ∨ s.state = .expired) :
    s.connectivityEstablished = false ∧ s.selectedCandidate = none := by
  have hne : s.state ≠ .connected := by rcases hs with hs | hs <;> rw [hs] <;> decide
  refine ⟨?_, ?_⟩
  · rw [← Bool.not_eq_true, ← h.1]
    exact hne
  · rw [← Option.not_isSome_iff_eq_none, ← h.2]
    exact hne

end NATSession

/-- The columns of every session agree. -/
def SessionsConsistent (db : Database) : Prop := ∀ s ∈ db.natSessions, s.Consistent

/-- No failure is reported on a connected session. -/
def FailsUnconnected (db : Database) : NatEvent → Prop
  | .recordPunchResult _ _ id req =>
    req.success = false → ∀ s ∈ db.natSessions, s.id = id → s.state ≠ .connected
  | _ => True

section

variable {db db' : Database}

/-- An assignment to one session whose columns agree afterwards. -/
theorem SessionsConsistent.modify (h : SessionsConsistent db) {id : Uuid}
    {f : NATSession → NATSession} (hf : ∀ s, (f s).id = s.id)
    (hs : ∀ s ∈ db.natSessions, s.id = id → s.Consistent → (f s).Consistent)
    (hdb : db'.natSessions = db.natSessions.modify id f hf) : SessionsConsistent db' := by
  intro s' hs'
  rw [hdb] at hs'
  obtain ⟨s, hmem, rfl⟩ := Table.mem_modify.1 hs'
  split_ifs with hid
  · exact hs s hmem hid (h s hmem)
  · exact h s hmem

/-- **One operation keeps the columns of every session in agreement**, unless it reports a failure
on a connected session. -/
theorem natStep_consistent (h : SessionsConsistent db) {e : NatEvent}
    (hok : FailsUnconnected db e) : SessionsConsistent (natStep db e) := by
  cases e with
  | create now id initiator target extraMetadata =>
    simp only [natStep]
    split
    · rename_i row db₁ hcreate
      obtain ⟨natSessions, -, hpending, hflag, hnone, hinsert, rfl⟩ :=
        createNatSession_eq_ok hcreate
      intro s hs
      rcases (Table.mem_insert hinsert).1 hs with hs | rfl
      · exact h s hs
      · rw [NATSession.Consistent, hpending, hflag, hnone]
        decide
    · exact h
  | startPunch now id =>
    simp only [natStep]
    split
    · rename_i row db₁ hstart
      obtain ⟨old, hold, hpending, -, rfl⟩ := startPunch_eq_some hstart
      refine h.modify (f := NATSession.coordinating now) (fun _ => rfl)
        (fun s hs hid hcons => ?_) rfl
      -- the session found is the pending one
      obtain rfl : s = old := by
        obtain ⟨hmem, hpk⟩ := Table.get?_eq_some_iff.1 hold
        exact db.natSessions.eq_of_pk hs hmem (hid.trans hpk.symm)
      refine hcons.of_not_connected (by rw [hpending]; decide) ?_ rfl rfl
      exact fun hstate => by cases hstate
    · exact h
  | recordPunchResult now entropy id req =>
    simp only [natStep]
    split
    · rename_i r db₁ hresult
      rcases recordPunchResult_eq_ok hresult with ⟨-, -, rfl⟩ | ⟨s, rfl, hreport⟩
      · exact h
      · split_ifs at hreport with hsuccess
        · obtain ⟨-, ⟨-, ⟨hf, hsessions⟩, -⟩, -⟩ := hreport
          exact h.modify hf (fun s _ _ _ => s.consistent_connectedBy now req.candidate) hsessions
        · obtain ⟨-, ⟨-, ⟨hf, hsessions⟩, -⟩, -⟩ := hreport
          refine h.modify hf (fun s' hs' hid hcons => ?_) hsessions
          refine hcons.of_not_connected (hok (by simpa using hsuccess) s' hs' hid) ?_ rfl rfl
          exact fun hstate => by cases hstate
    · exact h
  | validateConnectivity now id req =>
    simp only [natStep]
    split
    · rename_i r db₁ hvalidate
      rcases validateConnectivity_eq_ok hvalidate with ⟨-, rfl⟩ | ⟨s, rfl, hreport⟩
      · exact h
      · split_ifs at hreport
        · obtain ⟨⟨-, ⟨hf, hsessions⟩, -⟩, -⟩ := hreport
          exact h.modify hf (fun s _ _ _ => s.consistent_connectedBy now req.candidate) hsessions
        · obtain ⟨⟨-, ⟨hf, hsessions⟩, -⟩, -⟩ := hreport
          exact h.modify hf (fun s _ _ hcons => (hcons : NATSession.Consistent s)) hsessions
    · exact h
  | expireStaleSessions now =>
    intro s' hs'
    obtain ⟨s, hs, rfl⟩ := List.mem_map.1 hs'
    exact (h s hs).expired now

/-- A failure that is recorded on a connected session leaves it failed and still connected. -/
theorem recordPunchResult_breaks {now : Timestamp} {e : Entropy} {id : Uuid} {req : PunchResult}
    {r : Option (NATSession × Option RelaySession)} {s : NATSession} (h : SessionsConsistent db)
    (hs : db.natSessions.get? id = some s) (hconnected : s.state = .connected)
    (hfailure : req.success = false) (hok : recordPunchResult now db e id req = .ok (r, db')) :
    ∃ s', db'.natSessions.get? id = some s' ∧ s'.state = .failed ∧
      s'.connectivityEstablished = true ∧ s'.selectedCandidate = s.selectedCandidate := by
  rcases recordPunchResult_eq_ok hok with ⟨hnone, -⟩ | ⟨s₁, rfl, hreport⟩
  · rw [hs] at hnone
    cases hnone
  · rw [if_neg (by simp [hfailure])] at hreport
    obtain ⟨-, ⟨hget, ⟨hf, hsessions⟩, -⟩, -⟩ := hreport
    rw [hs, Option.some.injEq] at hget
    subst hget
    refine ⟨s.failedWith now req.error, ?_, rfl, ?_, rfl⟩
    · rw [hsessions, Table.get?_modify, hs, Option.map_some]
      exact congrArg some (if_pos rfl)
    · exact (h s (Table.get?_eq_some_iff.1 hs).1).1.1 hconnected

end

/-- **NAT sessions never contradict themselves** as long as no failure is reported on a connected
one: in every state of such a run, from a database without sessions, each session is connected if
and only if its flag is set, and if and only if it has a selected candidate. -/
theorem natSessions_consistent (db : Database) (hempty : ∀ s, s ∉ db.natSessions)
    {events : List NatEvent} (hok : Admissible natStep FailsUnconnected db events) :
    ∀ pre, pre <+: events → ∀ s ∈ (run natStep db pre).natSessions,
      (s.state = .connected ↔ s.connectivityEstablished = true) ∧
      (s.state = .connected ↔ s.selectedCandidate.isSome = true) ∧
      (s.state = .failed ∨ s.state = .expired → s.connectivityEstablished = false) := by
  intro pre hpre s hs
  have hstep : ∀ db e, SessionsConsistent db → FailsUnconnected db e →
      SessionsConsistent (natStep db e) := fun _ _ h hok => natStep_consistent h hok
  have hcons : SessionsConsistent (run natStep db pre) :=
    run_invariant_of_admissible natStep hstep (fun s hs => absurd hs (hempty s))
      (hok.of_prefix _ hpre)
  exact ⟨(hcons s hs).1, (hcons s hs).2, fun h => ((hcons s hs).not_established h).1⟩

/-- Two devices of one network, without sessions. -/
def punchOffice : Database where
  networks := .ofRows [{ id := Uuid.ofNat 20, name := "punch office", subnet := "10.2.0.0/24" }]
  devices := .ofRows [
    { id := Uuid.ofNat 21, name := "camera", networkId := Uuid.ofNat 20 },
    { id := Uuid.ofNat 22, name := "viewer", networkId := Uuid.ofNat 20 }]
    (by decide : [Uuid.ofNat 21, Uuid.ofNat 22].Nodup)

/-- What the requests of these runs draw at random. -/
def punchEntropy : Entropy where
  rowId := Uuid.ofNat 29
  serverId := Uuid.ofNat 28
  keyPair := ⟨"", ""⟩
  nonce := ""
  rawPrefix := ""
  secret := ""
  salt := ""
  preauthText := ""
  relayToken := "relay"

/-- A punch that fails and then succeeds, and a clean-up. -/
theorem natSessions_consistent_retry :
    let events : List NatEvent := [.create 0 (Uuid.ofNat 23) (Uuid.ofNat 21) (Uuid.ofNat 22) none,
      .startPunch 1 (Uuid.ofNat 23),
      .recordPunchResult 2 punchEntropy (Uuid.ofNat 23) { success := false },
      .recordPunchResult 3 punchEntropy (Uuid.ofNat 23)
        { success := true, selectedEndpoint := some "203.0.113.7", selectedPort := some 51820 },
      .expireStaleSessions 4000000000]
    (run natStep punchOffice events).natSessions.rows.length = 1 ∧
    ∀ s ∈ (run natStep punchOffice events).natSessions,
      (s.state = .connected ↔ s.connectivityEstablished = true) ∧
      (s.state = .connected ↔ s.selectedCandidate.isSome = true) ∧
      (s.state = .failed ∨ s.state = .expired → s.connectivityEstablished = false) := by
  refine ⟨by decide, natSessions_consistent punchOffice (fun s hs => by cases hs) ?_ _
    List.prefix_rfl⟩
  refine ⟨trivial, trivial, fun _ => by decide, fun h => ?_, trivial, trivial⟩
  cases h

/-- A late report of a failure leaves a session that is failed and claims established
connectivity. -/
theorem late_failure_contradicts :
    ∃ s ∈ (run natStep punchOffice
      [.create 0 (Uuid.ofNat 23) (Uuid.ofNat 21) (Uuid.ofNat 22) none,
        .startPunch 1 (Uuid.ofNat 23),
        .recordPunchResult 2 punchEntropy (Uuid.ofNat 23)
          { success := true, selectedEndpoint := some "203.0.113.7", selectedPort := some 51820 },
        .recordPunchResult 3 punchEntropy (Uuid.ofNat 23) { success := false }]).natSessions,
      s.state = .failed ∧ s.connectivityEstablished = true ∧
        s.selectedCandidate = some ⟨some "203.0.113.7", some 51820, none⟩ := by decide

end Midscale
