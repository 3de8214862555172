import Midscale.Api.AuditTrail
import Midscale.Api.Logins
import Midscale.Data.Paging
import Mathlib.Tactic.IntervalCases

/-!
# Reading the audit trail

Superusers read the audit log page by page, the newest entries first.  The database orders the
entries by the time they were made, and those of one time in any way.

* `getCurrentSuperuser`, `listAuditLogs` : the endpoint.
* `logs_run` : the rows of the log are the entries of the requests that were committed.
* `audit_pages_iff` : **the pages show every matching entry once, however ties are broken,** exactly
  if no boundary between two pages separates entries of one time.
* `audit_pages_growing` : a reader misses no entry because requests are served between two pages.
-/

namespace Midscale

/-! ### The log -/

/-- `app.models.audit.AuditLog` with the columns that order it. -/
structure AuditEntry extends AuditLog where
  id : Uuid
  createdAt : Timestamp
  deriving DecidableEq, Repr

instance : Row AuditEntry Uuid := ⟨fun e => e.id⟩

/-- The state of the server, with the rows of `audit_logs`. -/
abbrev AuditState := AuthState × Table AuditEntry

/-- A request, with the id drawn for the entry that it makes. -/
structure AuditEvent where
  event : AuthEvent
  entryId : Uuid

/-- One request in its transaction, which inserts the entry it makes. -/
def AuthServer.serveLogged (server : AuthServer) (s : AuditState) (e : AuditEvent) : AuditState :=
  let s' := server.serve s.1 e.event
  match s'.1.db.auditLogs.drop s.1.1.db.auditLogs.length with
  | [] => (s', s.2)
  | entry :: _ =>
    match s.2.insert { entry with id := e.entryId, createdAt := e.event.now } with
    | some entries => (s', entries)
    | none => s

/-! ### The endpoint -/

/-- `get_current_superuser`. -/
def getCurrentSuperuser (env : Env) (db : Database) (token : String) : Except ApiError User := do
  let user ← getCurrentUser env db token
  ensure (user.isSuperuser = true) (.http 403 "Superuser privileges required")
  .ok user

/-- The filters of `list_audit_logs`. -/
structure AuditFilter where
  actorId : Option String := none
  action : Option String := none
  targetType : Option String := none
  targetId : Option String := none

/-- The `where` clauses of the filters that are given and not empty. -/
def AuditFilter.matches (q : AuditFilter) (e : AuditEntry) : Bool :=
  (!truthy q.actorId || e.actorId = q.actorId) && (!truthy q.action || some e.action = q.action) &&
    (!truthy q.targetType || some e.targetType = q.targetType) &&
    (!truthy q.targetId || e.targetId = q.targetId)

/-- `skip` and `limit`, in the bounds that `Query` gives them. -/
structure AuditRange where
  skip : ℕ := 0
  limit : ℕ := 50
  limit_pos : 1 ≤ limit := by decide
  limit_le : limit ≤ 500 := by decide

/-- `app.schemas.audit.AuditLogPage`. -/
structure AuditLogPage where
  items : List AuditEntry
  total : ℕ
  skip : ℕ
  limit : ℕ
  deriving DecidableEq, Repr

/-- `list_audit_logs`, with the order that the database returns the rows in. -/
def listAuditLogs (env : Env) (order : NewestFirst AuditEntry.createdAt) (db : Database)
    (entries : Table AuditEntry) (token : String) (q : AuditFilter) (range : AuditRange) :
    Except ApiError AuditLogPage := do
  let _ ← getCurrentSuperuser env db token
  let found := entries.select q.matches
  .ok
    { items := page (order.rows found) range.skip range.limit
      total := found.length
      skip := range.skip
      limit := range.limit }

/-- Page `i` of pages with `limit` entries. -/
def AuditRange.turn (range : AuditRange) (i : ℕ) : AuditRange :=
  { range with skip := i * range.limit }

theorem listAuditLogs_eq_ok {env : Env} {order : NewestFirst AuditEntry.createdAt} {db : Database}
    {entries : Table AuditEntry} {token : String} {q : AuditFilter} {range : AuditRange}
    {p : AuditLogPage} :
    listAuditLogs env order db entries token q range = .ok p ↔
      (∃ user, getCurrentSuperuser env db token = .ok user) ∧
        p = { items := page (order.rows (entries.select q.matches)) range.skip range.limit
              total := (entries.select q.matches).length
              skip := range.skip
              limit := range.limit } := by
  simp only [listAuditLogs, bind_eq_ok, Except.ok.injEq]
  constructor
  · rintro ⟨user, huser, rfl⟩
    exact ⟨⟨user, huser⟩, rfl⟩
  · rintro ⟨⟨user, huser⟩, rfl⟩
    exact ⟨user, huser, rfl⟩

/-! ### What requests enter -/

theorem serveApi_logs (db : Database) (c : ApiCall) :
    (serveApi db c).auditLogs = db.auditLogs ∨
      ∃ entry, (serveApi db c).auditLogs = db.auditLogs ++ [entry] := by
  refine serveApi_cases (P := fun db' => db'.auditLogs = db.auditLogs ∨
    ∃ entry, db'.auditLogs = db.auditLogs ++ [entry]) (.inl rfl) fun db' hok => ?_
  by_cases hheartbeat : c.request.isHeartbeat = false
  · cases ApiCall.handle_outcome hheartbeat hok with
    | entered hlogs => exact .inr ⟨_, hlogs⟩
    | silent hlogs => exact .inl hlogs
  · obtain ⟨env, entropy, request⟩ := c
    cases request with
    | device request =>
      cases request with
      | heartbeat token deviceId req =>
        obtain ⟨response, hok⟩ := snd_map_eq_ok.1 hok
        obtain ⟨d, -, rfl⟩ := deviceHeartbeat_eq_ok hok
        exact .inl rfl
      | _ => exact absurd rfl hheartbeat
    | _ => exact absurd rfl hheartbeat

/-- Every request makes one entry or none. -/
theorem serve_logs (server : AuthServer) (s : AuthState) (e : AuthEvent) :
    (server.serve s e).1.db.auditLogs = s.1.db.auditLogs ∨
      ∃ entry, (server.serve s e).1.db.auditLogs = s.1.db.auditLogs ++ [entry] := by
  obtain ⟨now, request⟩ := e
  unfold AuthServer.serve
  cases request with
  | register id salt req =>
    dsimp only
    cases hr : registerUser server now id salt s.1 req with
    | error err => exact .inl rfl
    | ok r =>
      obtain ⟨r, db⟩ := r
      obtain ⟨user, accounts, -, -, -, -, -, rfl⟩ := registerUser_eq_ok hr
      exact .inr ⟨_, rfl⟩
  | login req =>
    dsimp only
    cases hr : loginUser server now s.1 req with
    | error err => exact .inl rfl
    | ok r =>
      obtain ⟨r, db⟩ := r
      obtain ⟨user, -, -, -, -, -, rfl⟩ := loginUser_eq_ok.1 hr
      exact .inr ⟨_, rfl⟩
  | refresh token =>
    dsimp only
    cases refreshAccessToken server now token <;> exact .inl rfl
  | seed id salt =>
    dsimp only
    cases hr : seed server now id salt s.1 with
    | error err => exact .inl rfl
    | ok db =>
      rcases seed_eq_ok hr with ⟨rfl, -⟩ | ⟨_, -, -, -, -, -, -, -, -, hdb⟩
      · exact .inl rfl
      · exact .inl (show db.db.auditLogs = s.1.db.auditLogs by rw [hdb])
  | api entropy request => exact serveApi_logs _ _

theorem serveLogged_cases (server : AuthServer) (s : AuditState) (e : AuditEvent) :
    (server.serveLogged s e).2 = s.2 ∧
        (server.serveLogged s e).1.1.db.auditLogs = s.1.1.db.auditLogs ∨
      ∃ entry : AuditEntry, s.2.insert entry = some (server.serveLogged s e).2 ∧
        entry.createdAt = e.event.now ∧
        (server.serveLogged s e).1.1.db.auditLogs = s.1.1.db.auditLogs ++ [entry.toAuditLog] := by
  unfold AuthServer.serveLogged
  dsimp only
  rcases serve_logs server s.1 e.event with hlogs | ⟨entry, hlogs⟩
  · have hdrop : (server.serve s.1 e.event).1.db.auditLogs.drop s.1.1.db.auditLogs.length = [] := by
      rw [hlogs, List.drop_length]
    rw [hdrop]
    exact .inl ⟨rfl, hlogs⟩
  · have hdrop : (server.serve s.1 e.event).1.db.auditLogs.drop s.1.1.db.auditLogs.length =
        [entry] := by rw [hlogs, List.drop_left]
    rw [hdrop]
    dsimp only
    cases hinsert : s.2.insert { entry with id := e.entryId, createdAt := e.event.now } with
    | none => exact .inl ⟨rfl, rfl⟩
    | some entries => exact .inr ⟨_, hinsert, rfl, hlogs⟩

/-- The rows of the log are the entries of the requests that were committed. -/
theorem logs_run {server : AuthServer} {s : AuditState}
    (hs : s.2.rows.map AuditEntry.toAuditLog = s.1.1.db.auditLogs) (es : List AuditEvent) :
    (run server.serveLogged s es).2.rows.map AuditEntry.toAuditLog =
      (run server.serveLogged s es).1.1.db.auditLogs := by
  refine run_invariant server.serveLogged
    (P := fun s => s.2.rows.map AuditEntry.toAuditLog = s.1.1.db.auditLogs) (fun s e hs => ?_) hs es
  rcases serveLogged_cases server s e with ⟨hentries, hlogs⟩ | ⟨entry, hinsert, -, hlogs⟩
  · rw [hentries, hlogs, hs]
  · rw [(Table.insert_eq_some hinsert).1, hlogs, List.map_append, hs]
    rfl

theorem select_sublist_run (server : AuthServer) (s : AuditState) (es : List AuditEvent)
    (p : AuditEntry → Bool) : (s.2.select p).Sublist ((run server.serveLogged s es).2.select p) := by
  refine run_invariant server.serveLogged (P := fun s' => (s.2.select p).Sublist (s'.2.select p))
    (fun s' e h => ?_) (List.Sublist.refl _) es
  rcases serveLogged_cases server s' e with ⟨hentries, -⟩ | ⟨entry, hinsert, -⟩
  · rw [hentries]
    exact h
  · refine h.trans ?_
    rw [Table.select, Table.select, (Table.insert_eq_some hinsert).1]
    exact (List.sublist_append_left _ _).filter _

/-! ### Pages -/

theorem mapM_listAuditLogs {env : Env} {db : Database} {token : String} {user : User}
    (huser : getCurrentSuperuser env db token = .ok user) (orders : ℕ → NewestFirst AuditEntry.createdAt)
    (entries : Table AuditEntry) (q : AuditFilter) (range : AuditRange) (n : ℕ) :
    ((List.range n).mapM fun i => listAuditLogs env (orders i) db entries token q (range.turn i)) =
      .ok ((List.range n).map fun i =>
        { items := page ((orders i).rows (entries.select q.matches)) (i * range.limit) range.limit
          total := (entries.select q.matches).length
          skip := i * range.limit
          limit := range.limit }) := by
  have hpage : ∀ i, listAuditLogs env (orders i) db entries token q (range.turn i) = .ok _ := fun i =>
    listAuditLogs_eq_ok.2 ⟨⟨user, huser⟩, rfl⟩
  simp only [hpage]
  exact List.mapM_pure

/-- **Every entry once.**  Whichever way the database orders entries of one time for each page, the
pages that a superuser reads show every matching entry once and their number, exactly if every
boundary between two pages separates newer entries from older ones. -/
theorem audit_pages_iff {env : Env} {db : Database} {token : String} {user : User}
    (huser : getCurrentSuperuser env db token = .ok user) (entries : Table AuditEntry)
    (q : AuditFilter) (range : AuditRange) :
    (∀ (orders : ℕ → NewestFirst AuditEntry.createdAt) (n : ℕ),
      (entries.select q.matches).length ≤ n * range.limit →
      ∃ pages, (List.range n).mapM (fun i =>
          listAuditLogs env (orders i) db entries token q (range.turn i)) = .ok pages ∧
        (pages.flatMap AuditLogPage.items).Perm (entries.select q.matches) ∧
        ∀ p ∈ pages, p.total = (entries.select q.matches).length) ↔
      ∀ i, 0 < i → i * range.limit < (entries.select q.matches).length →
        CleanCut AuditEntry.createdAt (entries.select q.matches) (i * range.limit) := by
  have hnodup : (entries.select q.matches).Nodup := (List.Nodup.of_map _ entries.pk_nodup).filter _
  rw [← pages_perm_iff hnodup range.limit_pos]
  refine forall_congr' fun orders => forall_congr' fun n => imp_congr_right fun _ => ?_
  rw [mapM_listAuditLogs huser]
  have hread : ((List.range n).map fun i => ({
      items := page ((orders i).rows (entries.select q.matches)) (i * range.limit) range.limit
      total := (entries.select q.matches).length
      skip := i * range.limit
      limit := range.limit } : AuditLogPage)).flatMap AuditLogPage.items =
        readPages orders (entries.select q.matches) range.limit n := by
    rw [List.flatMap_map]
    rfl
  constructor
  · rintro ⟨pages, hpages, hperm, -⟩
    cases hpages
    rwa [hread] at hperm
  · intro hperm
    refine ⟨_, rfl, hread ▸ hperm, fun p hp => ?_⟩
    obtain ⟨i, -, rfl⟩ := List.mem_map.1 hp
    rfl

/-- The administrator of a log. -/
def auditAdmin : Account where
  id := Uuid.ofNat 1
  isSuperuser := true
  email := "admin@midscale.local"
  displayName := "Admin"

/-- An entry made at a point in time. -/
def auditEntryAt (n : ℕ) (t : Timestamp) : AuditEntry where
  action := "device.create"
  id := Uuid.ofNat n
  createdAt := t

/-- The server with a log. -/
def auditStart (entries : Table AuditEntry) : AuditState :=
  ((.ofAccounts ⟨.ofRows [auditAdmin], by decide⟩, []), entries)

/-- The access token of the administrator. -/
def auditToken : String := plainServer.text (plainServer.terms.passAt (Uuid.ofNat 1) 0)

theorem auditToken_superuser : getCurrentSuperuser (plainServer.env 0) (auditStart .empty).1.1.db
    auditToken = .ok auditAdmin.toUser := by
  decide +kernel

/-- Two entries of one time are on one page. -/
theorem audit_pages_iff_admin :
    ∃ pages, (List.range 2).mapM (fun i => listAuditLogs (plainServer.env 0)
        (.stable AuditEntry.createdAt) (auditStart .empty).1.1.db
        (.ofRows [auditEntryAt 1 1, auditEntryAt 2 2, auditEntryAt 3 2]) auditToken {}
        (AuditRange.turn { limit := 2 } i)) = .ok pages ∧
      (pages.flatMap AuditLogPage.items).Perm
        [auditEntryAt 1 1, auditEntryAt 2 2, auditEntryAt 3 2] := by
  obtain ⟨pages, hpages, hperm, -⟩ := (audit_pages_iff auditToken_superuser
    (.ofRows [auditEntryAt 1 1, auditEntryAt 2 2, auditEntryAt 3 2]) {} { limit := 2 }).2
      (fun i hi hlt => by
        obtain rfl : i = 1 := by
          have hlength : i * 2 < 3 := hlt
          omega
        decide +kernel) (fun _ => .stable AuditEntry.createdAt) 2 (by decide +kernel)
  exact ⟨pages, hpages, hperm⟩

/-- **No entry is missed.**  A superuser who turns pages until one is empty has seen every matching
entry that was there when the first page was read, if no other entry is of the same time, whatever
requests are served between two pages. -/
theorem audit_pages_growing (server : AuthServer) (s : AuditState) (batches : ℕ → List AuditEvent)
    (orders : ℕ → NewestFirst AuditEntry.createdAt) (now : ℕ → Timestamp) (token : ℕ → String)
    (q : AuditFilter) (range : AuditRange) {K : ℕ} {pages : ℕ → AuditLogPage} :
    let state k := run server.serveLogged s ((List.range k).flatMap batches)
    (∀ k ≤ K, listAuditLogs (server.env (now k)) (orders k) (state k).1.1.db (state k).2 (token k) q
      (range.turn k) = .ok (pages k)) →
    (pages K).items = [] →
    ∀ x ∈ s.2.select q.matches, (∀ y ∈ (state K).2, y.createdAt = x.createdAt → y = x) →
      ∃ k < K, x ∈ (pages k).items := by
  intro state hpages hempty x hx hkey
  have hgrows : ∀ k, ((state k).2.select q.matches).Sublist ((state (k + 1)).2.select q.matches) :=
    fun k => by
      have hnext : state (k + 1) = run server.serveLogged (state k) (batches k) := by
        simp [state, List.range_succ, run_append]
      rw [hnext]
      exact select_sublist_run server (state k) (batches k) q.matches
  have hitems : ∀ k ≤ K, (pages k).items =
      page ((orders k).rows ((state k).2.select q.matches)) (k * range.limit) range.limit :=
    fun k hk => congrArg AuditLogPage.items (listAuditLogs_eq_ok.1 (hpages k hk)).2
  rw [hitems K le_rfl] at hempty
  obtain ⟨k, hk, hmem⟩ := mem_page_of_growing hgrows orders hx
    (fun y hy => hkey y (Table.mem_select.1 hy).1) hempty range.limit_pos
  exact ⟨k, hk, (hitems k hk.le).symm ▸ hmem⟩

/-- Between two pages an account is registered. -/
def auditBatches (k : ℕ) : List AuditEvent :=
  if k = 0 then [⟨{ now := 5, request := .register (Uuid.ofNat 9) "" clientRegister }, Uuid.ofNat 2⟩]
  else []

/-- The log before page `k`. -/
def auditStateAt (k : ℕ) : AuditState :=
  run plainServer.serveLogged (auditStart (.ofRows [auditEntryAt 1 1]))
    ((List.range k).flatMap auditBatches)

/-- Page `k`, with one entry a page. -/
def auditPageAt (k : ℕ) : AuditLogPage where
  items := page ((NewestFirst.stable AuditEntry.createdAt).rows
    ((auditStateAt k).2.select ({} : AuditFilter).matches)) (k * 1) 1
  total := ((auditStateAt k).2.select ({} : AuditFilter).matches).length
  skip := k * 1
  limit := 1

/-- The first entry is seen, although it is pushed back to the second page. -/
theorem audit_pages_growing_admin :
    ∃ k < 2, auditEntryAt 1 1 ∈ (auditPageAt k).items := by
  have hadmin : ∀ k ≤ 2, getCurrentSuperuser (plainServer.env 0) (auditStateAt k).1.1.db auditToken =
      .ok auditAdmin.toUser := fun k hk => by
    interval_cases k
    · decide +kernel
    · decide +kernel
    · decide +kernel
  have hpages : ∀ k ≤ 2, listAuditLogs (plainServer.env 0) (.stable AuditEntry.createdAt)
      (auditStateAt k).1.1.db (auditStateAt k).2 auditToken {} (AuditRange.turn { limit := 1 } k) =
        .ok (auditPageAt k) := fun k hk => listAuditLogs_eq_ok.2 ⟨⟨_, hadmin k hk⟩, rfl⟩
  exact audit_pages_growing plainServer (auditStart (.ofRows [auditEntryAt 1 1])) auditBatches
    (fun _ => .stable AuditEntry.createdAt) (fun _ => 0) (fun _ => auditToken) {} { limit := 1 }
    hpages (by decide +kernel) (auditEntryAt 1 1) (by decide +kernel)
    (show ∀ y ∈ (auditStateAt 2).2, _ from by decide +kernel)

end Midscale
