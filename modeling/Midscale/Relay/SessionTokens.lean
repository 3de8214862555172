import Midscale.Relay.Server
import Midscale.Sessions.Relay

/-!
# Relay tokens and their sessions

A relay session is a row of the database, and its token an entry of the table in the relay server.
Creating a session writes both; failing, expiring and cleaning up sessions write the row only.

* `RelayServer.get?_removeExpiredTokens` : which tokens the clean-up of the relay server takes away.
* `sessionStep_tokensOpen`, `not_tokensOpen_sessionStep` : which steps keep every valid token bound
  to an open session, and that the others do not.
* `tokens_open_iff` : **in every state of a run the valid tokens belong to pending or active
  sessions, if and only if no session that a token is bound to is ever closed.**
-/

namespace Midscale

namespace Relay

/-- The database and the relay server that share the sessions. -/
structure RelayService where
  db : Database
  server : RelayServer := {}

/-- What happens to relay sessions and relay connections. -/
inductive SessionEvent where
  /-- A session is created, and the relay server is told when there is one to tell. -/
  | create (now : Timestamp) (id : Uuid) (relayToken : String) (initiator target : Uuid)
    (relayRegion : String) (told : Bool)
  | activate (now : Timestamp) (id : Uuid)
  | fail (now : Timestamp) (id : Uuid)
  | expire (now : Timestamp) (id : Uuid)
  /-- One turn of `_relay_session_cleanup_loop`, with the two clocks. -/
  | cleanup (now monotonic : Timestamp)
  | connectionMade (c : ℕ)
  /-- A frame arrives on a connection. -/
  | frame (c : ℕ) (now : Timestamp) (payload : Bytes)
  | connectionLost (c : ℕ)

section Machine

variable (loads : Bytes → Option Json)

/-- An event of the relay server. -/
def RelayService.serve (s : RelayService) (e : RelayEvent) : RelayService :=
  { s with server := relayStep loads s.server e }

/-- The database after a service that found its session or did not. -/
def RelayService.stored (s : RelayService) (result : Option (RelaySession × Database)) :
    RelayService :=
  match result with
  | some (_, db) => { s with db := db }
  | none => s

/-- One event. -/
def sessionStep (s : RelayService) : SessionEvent → RelayService
  | .create now id relayToken initiator target relayRegion told =>
    match createRelaySession now s.db id relayToken initiator target relayRegion with
    | .ok (row, db) =>
      { db := db
        server := if told then s.server.addValidToken row.relayToken row.id.str else s.server }
    | .error _ => s
  | .activate now id => s.stored (activateRelaySession now s.db id)
  | .fail now id => s.stored (failRelaySession now s.db id)
  | .expire now id => s.stored (expireRelaySession now s.db id)
  | .cleanup now monotonic =>
    { db := (cleanupExpiredRelays now s.db).2
      server := s.server.removeExpiredTokens monotonic }
  | .connectionMade c => s.serve loads (.connectionMade c)
  | .frame c now payload => s.serve loads (.message c now payload)
  | .connectionLost c => s.serve loads (.connectionLost c)

end Machine

/-- `validate_session` is true only for sessions that are there and open. -/
def TokensOpen (s : RelayService) : Prop :=
  ∀ token sessionId : String, s.server.validateSession (.str token) (.str sessionId) = some true →
    ∃ id row, id.str = sessionId ∧ s.db.relaySessions.get? id = some row ∧ row.IsOpen

/-- The device has sent no heartbeat for 120 seconds. -/
def RelayServer.Silent (s : RelayServer) (monotonic : Timestamp) (deviceId : String) : Prop :=
  ∃ t, s.heartbeats.get? (.str deviceId) = some t ∧ t < monotonic - Timestamp.seconds 120

/-- No session is closed that a token is bound to, unless its id is also that of a device whose
tokens the same clean-up removes. -/
def ClosesUnbound (s : RelayService) : SessionEvent → Prop
  | .fail _ id | .expire _ id => ∀ token, s.server.validTokens.get? token ≠ some id.str
  | .cleanup now monotonic => ∀ token, ∀ row ∈ s.db.relaySessions, row.Overdue now →
      s.server.validTokens.get? token = some row.id.str → s.server.Silent monotonic row.id.str
  | _ => True

/-! ### The clean-up of the relay server -/

theorem RelayServer.validateSession_str {s : RelayServer} {token sessionId : String} :
    s.validateSession (.str token) (.str sessionId) = some true ↔
      s.validTokens.get? token = some sessionId := by
  have hstored : ∀ o : Option String, sessionJson o = .str sessionId ↔ o = some sessionId := by
    intro o
    cases o <;> simp [sessionJson]
  rw [← hstored]
  exact ⟨fun h => of_decide_eq_true (Option.some.inj h), fun h => congrArg some (decide_eq_true h)⟩

/-- **The tokens that survive a clean-up** are those bound to anything but a silent device. -/
theorem RelayServer.get?_removeExpiredTokens {s : RelayServer} {monotonic : Timestamp}
    {token sessionId : String} :
    (s.removeExpiredTokens monotonic).validTokens.get? token = some sessionId ↔
      s.validTokens.get? token = some sessionId ∧ ¬ s.Silent monotonic sessionId := by
  have hfold : ∀ (ks : List Json.HashKey) (s : RelayServer),
      (ks.foldl RelayServer.unregisterConnection s).validTokens.get? token = some sessionId ↔
        s.validTokens.get? token = some sessionId ∧ Json.HashKey.str sessionId ∉ ks := by
    intro ks
    induction ks with
    | nil => simp
    | cons k ks ih =>
      intro s
      rw [List.foldl_cons, ih, unregisterConnection, Dict.get?_filter, List.mem_cons, not_or,
        and_assoc]
      simp
  rw [removeExpiredTokens, hfold]
  refine and_congr_right fun _ => not_congr ?_
  simp only [List.mem_map, List.mem_filter, decide_eq_true_eq, Silent, Dict.get?_eq_some_iff]
  constructor
  · rintro ⟨⟨k, t⟩, ⟨hmem, hlt⟩, rfl⟩
    exact ⟨t, hmem, hlt⟩
  · rintro ⟨t, hmem, hlt⟩
    exact ⟨(_, t), ⟨hmem, hlt⟩, rfl⟩

/-! ### One step -/

section Steps

variable {s : RelayService}

theorem tokensOpen_iff : TokensOpen s ↔ ∀ token sessionId : String,
    s.server.validTokens.get? token = some sessionId →
      ∃ id row, id.str = sessionId ∧ s.db.relaySessions.get? id = some row ∧ row.IsOpen := by
  simp only [TokensOpen, RelayServer.validateSession_str]

theorem TokensOpen.mono (h : TokensOpen s) {s' : RelayService}
    (htokens : s'.server.TokensFrom s.server)
    (hopen : ∀ token id row, s'.server.validTokens.get? token = some id.str →
      s.db.relaySessions.get? id = some row → row.IsOpen →
      ∃ row', s'.db.relaySessions.get? id = some row' ∧ row'.IsOpen) : TokensOpen s' := by
  rw [tokensOpen_iff] at h ⊢
  intro token sessionId htoken
  obtain ⟨id, row, rfl, hrow, hrowOpen⟩ := h token sessionId (htokens token sessionId htoken)
  obtain ⟨row', hrow', hopen'⟩ := hopen token id row htoken hrow hrowOpen
  exact ⟨id, row', rfl, hrow', hopen'⟩

theorem TokensOpen.setRelaySession (h : TokensOpen s) {id : Uuid}
    {f : RelaySession → RelaySession} {hf : ∀ r, (f r).id = r.id}
    (hopen : (∀ r, (f r).IsOpen) ∨ ∀ token, s.server.validTokens.get? token ≠ some id.str) :
    TokensOpen { s with db := s.db.setRelaySession id f hf } := by
  refine h.mono (RelayServer.TokensFrom.of_eq rfl) fun token id' row htoken hrow hrowOpen => ?_
  have hid : row.id = id' := (Table.get?_eq_some_iff.1 hrow).2
  refine ⟨if row.id = id then f row else row, ?_, ?_⟩
  · exact (get?_setRelaySession s.db id f hf id').trans (by rw [hrow]; rfl)
  split_ifs with hrowId
  · rcases hopen with hopen | hunbound
    · exact hopen row
    · rw [← hid, hrowId] at htoken
      exact absurd htoken (hunbound token)
  · exact hrowOpen

theorem TokensOpen.serve (h : TokensOpen s) (loads : Bytes → Option Json) {e : RelayEvent}
    (he : ∀ token sessionId, e ≠ .addValidToken token sessionId) :
    TokensOpen (s.serve loads e) :=
  h.mono (tokensFrom_relayStep loads s.server he) fun _ _ row _ hrow hopen => ⟨row, hrow, hopen⟩

variable (loads : Bytes → Option Json)

/-- **A step that closes no session with a token** keeps the valid tokens bound to open
sessions. -/
theorem sessionStep_tokensOpen (h : TokensOpen s) {e : SessionEvent} (hok : ClosesUnbound s e) :
    TokensOpen (sessionStep loads s e) := by
  cases e with
  | create now id relayToken initiator target relayRegion told =>
    rw [sessionStep]
    split
    · rename_i row db hcreate
      obtain ⟨relaySessions, hid, -, -, hinsert, rfl⟩ := createRelaySession_eq_ok hcreate
      have hopen : row.IsOpen := .inl (createRelaySession_pending hcreate)
      have hget := Table.get?_insert hinsert
      rw [tokensOpen_iff] at h ⊢
      intro token sessionId htoken
      have hold : s.server.validTokens.get? token = some sessionId ∨ row.id.str = sessionId := by
        cases told with
        | false => exact .inl htoken
        | true =>
          simp only [if_true, RelayServer.addValidToken, Dict.get?_set] at htoken
          split_ifs at htoken
          · exact .inr (Option.some.inj htoken)
          · exact .inl htoken
      rcases hold with hold | rfl
      · obtain ⟨id', row', rfl, hrow', hopen'⟩ := h token sessionId hold
        refine ⟨id', row', rfl, ?_, hopen'⟩
        have hne : Row.pk row ≠ id' := by
          obtain ⟨hmem, hid'⟩ := Table.get?_eq_some_iff.1 hrow'
          rw [← hid']
          exact fun heq => (Table.insert_eq_some hinsert).2 row' hmem heq.symm
        exact (hget id').trans (by rw [if_neg hne, hrow'])
      · exact ⟨row.id, row, rfl, (hget row.id).trans (if_pos rfl), hopen⟩
    · exact h
  | activate now id =>
    rw [sessionStep]
    cases hact : activateRelaySession now s.db id with
    | none => exact h
    | some r =>
      obtain ⟨row, db'⟩ := r
      obtain ⟨old, -, -, -, hdb⟩ := activateRelaySession_eq_some hact
      simp only [RelayService.stored, hdb]
      exact h.setRelaySession (.inl fun r => .inr rfl)
  | fail now id =>
    rw [sessionStep, failRelaySession]
    cases s.db.relaySessions.get? id with
    | none => exact h
    | some r => exact h.setRelaySession (.inr hok)
  | expire now id =>
    rw [sessionStep, expireRelaySession]
    cases s.db.relaySessions.get? id with
    | none => exact h
    | some r => exact h.setRelaySession (.inr hok)
  | cleanup now monotonic =>
    refine h.mono (fun token sessionId ht => (RelayServer.get?_removeExpiredTokens.1 ht).1) ?_
    intro token id row htoken hrow hopen
    obtain ⟨hbound, hheard⟩ := RelayServer.get?_removeExpiredTokens.1 htoken
    obtain ⟨hmem, hid⟩ := Table.get?_eq_some_iff.1 hrow
    have hid : row.id = id := hid
    subst hid
    have hover : ¬ row.Overdue now := fun hover => hheard (hok token row hmem hover hbound)
    exact ⟨row, (get?_cleanupExpiredRelays now s.db row.id).2 row hrow hover, hopen⟩
  | connectionMade c => exact h.serve loads fun _ _ he => by cases he
  | frame c now payload => exact h.serve loads fun _ _ he => by cases he
  | connectionLost c => exact h.serve loads fun _ _ he => by cases he

theorem not_tokensOpen_of_closed {token : String} {id : Uuid} {row : RelaySession}
    (htoken : s.server.validTokens.get? token = some id.str)
    (hrow : s.db.relaySessions.get? id = some row) (hclosed : ¬ row.IsOpen) : ¬ TokensOpen s := by
  rw [tokensOpen_iff]
  intro hall
  obtain ⟨id', row', hid, hrow', hopen⟩ := hall token _ htoken
  rw [Uuid.str_injective hid, hrow] at hrow'
  cases hrow'
  exact hclosed hopen

/-- **A step that closes a session with a token** leaves the token valid. -/
theorem not_tokensOpen_sessionStep (h : TokensOpen s) {e : SessionEvent}
    (hbad : ¬ ClosesUnbound s e) : ¬ TokensOpen (sessionStep loads s e) := by
  have hended : ∀ (now : Timestamp) {state : RelayState} {id : Uuid} {token : String},
      state = .failed ∨ state = .expired → s.server.validTokens.get? token = some id.str →
      ∃ row, s.db.relaySessions.get? id = some row ∧
      ¬ TokensOpen { s with
        db := s.db.setRelaySession id (RelaySession.ended now state) (fun _ => rfl) } := by
    intro now state id token hstate htoken
    obtain ⟨id', row, hid, hrow, -⟩ := tokensOpen_iff.1 h token _ htoken
    rw [Uuid.str_injective hid] at hrow
    have hclosed : ¬ (row.ended now state).IsOpen := by
      rcases hstate with rfl | rfl <;> rintro (h | h) <;> cases h
    refine ⟨row, hrow, not_tokensOpen_of_closed htoken ?_ hclosed⟩
    refine (get?_setRelaySession s.db id (RelaySession.ended now state) (fun _ => rfl) id).trans ?_
    have hid : row.id = id := (Table.get?_eq_some_iff.1 hrow).2
    rw [hrow, Option.map_some, if_pos hid]
  cases e with
  | fail now id =>
    simp only [ClosesUnbound, not_forall, not_not] at hbad
    obtain ⟨token, htoken⟩ := hbad
    obtain ⟨row, hrow, hnot⟩ := hended now (.inl rfl) htoken
    rw [sessionStep, failRelaySession, hrow]
    exact hnot
  | expire now id =>
    simp only [ClosesUnbound, not_forall, not_not] at hbad
    obtain ⟨token, htoken⟩ := hbad
    obtain ⟨row, hrow, hnot⟩ := hended now (.inr rfl) htoken
    rw [sessionStep, expireRelaySession, hrow]
    exact hnot
  | cleanup now monotonic =>
    simp only [ClosesUnbound, not_forall] at hbad
    obtain ⟨token, row, hmem, hover, htoken, hheard⟩ := hbad
    have hrow : s.db.relaySessions.get? row.id = some row :=
      Table.get?_eq_some_iff.2 ⟨hmem, rfl⟩
    refine not_tokensOpen_of_closed (RelayServer.get?_removeExpiredTokens.2 ⟨htoken, hheard⟩)
      ((get?_cleanupExpiredRelays now s.db row.id).1 row hrow hover) ?_
    rintro (h | h) <;> cases h
  | _ => exact absurd trivial hbad

end Steps

/-! ### Runs -/

/-- **When relay tokens die with their sessions**: from any database and a relay server without
tokens, in every state of a run the valid tokens belong to pending or active sessions if and only
if no session that a token is bound to is failed, expired or cleaned up. -/
theorem tokens_open_iff (loads : Bytes → Option Json) (db : Database) (events : List SessionEvent) :
    (∀ pre, pre <+: events → TokensOpen (run (sessionStep loads) { db := db } pre)) ↔
      Admissible (sessionStep loads) ClosesUnbound { db := db } events := by
  have hstart : TokensOpen { db := db } := by
    rw [tokensOpen_iff]
    intro token sessionId htoken
    cases htoken
  have hstep : ∀ s e, TokensOpen s → ClosesUnbound s e → TokensOpen (sessionStep loads s e) :=
    fun _ _ h hok => sessionStep_tokensOpen loads h hok
  constructor
  · exact admissible_of_forall_prefix (sessionStep loads) hstep
      (fun _ _ h hbad => not_tokensOpen_sessionStep loads h hbad) hstart
  · intro hok pre hpre
    exact run_invariant_of_admissible (sessionStep loads) hstep hstart
      (hok.of_prefix (sessionStep loads) hpre)

/-- Two devices without sessions. -/
def relayOffice : Database where
  networks := .ofRows [{ id := Uuid.ofNat 40, name := "relay office", subnet := "10.4.0.0/24" }]
  devices := .ofRows [
    { id := Uuid.ofNat 41, name := "camera", networkId := Uuid.ofNat 40 },
    { id := Uuid.ofNat 42, name := "viewer", networkId := Uuid.ofNat 40 }]
    (by decide : [Uuid.ofNat 41, Uuid.ofNat 42].Nodup)

/-- A session that is created and cleaned up a day later. -/
def cleanedUp : RelayService :=
  run (sessionStep fun _ => none) { db := relayOffice } [
    .create 0 (Uuid.ofNat 43) "t" (Uuid.ofNat 41) (Uuid.ofNat 42) "default" true,
    .cleanup (Timestamp.seconds (25 * 3600)) (Timestamp.seconds (25 * 3600))]

/-- The token of a session that was cleaned up is still valid for it, although the same clean-up has
removed the expired tokens of the relay server. -/
theorem expired_session_token_valid :
    cleanedUp.server.validateSession (.str "t") (.str (Uuid.ofNat 43).str) = some true ∧
    (cleanedUp.db.relaySessions.get? (Uuid.ofNat 43)).map RelaySession.state = some .expired ∧
    ¬ TokensOpen cleanedUp := by
  have htoken : cleanedUp.server.validateSession (.str "t") (.str (Uuid.ofNat 43).str) =
      some true := by decide
  have hstate : (cleanedUp.db.relaySessions.get? (Uuid.ofNat 43)).map RelaySession.state =
      some .expired := by decide
  refine ⟨htoken, hstate, fun hall => ?_⟩
  obtain ⟨id, row, hid, hrow, hopen⟩ := hall _ _ htoken
  rw [Uuid.str_injective hid] at hrow
  rw [hrow, Option.map_some, Option.some.injEq] at hstate
  rcases hopen with hopen | hopen <;> cases hopen.symm.trans hstate

end Relay

end Midscale
