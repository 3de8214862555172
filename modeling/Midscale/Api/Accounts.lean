import Midscale.Api.Networks
import Midscale.Data.JsonLoads
import Midscale.Data.UuidText

/-!
# Accounts

`app.services.auth` and the endpoints under `/auth`: an account is registered with an e-mail address
and a password, a login checks them, and both answer with an access token and a refresh token.  A
refresh token buys access tokens, and is handed back as it is.

* `registerUser`, `loginUser`, `refreshAccessToken`, `seed` : the services.
* `createToken`, `timegm` : the claims of a token, with the whole second in which it expires.
* `AuthServer.Documented` : what `jose` and `passlib` are known to do.
* `registerUser_eq_ok`, `loginUser_eq_ok`, `refreshAccessToken_eq_ok` : what a success takes.
-/

namespace Midscale

/-! ### The table -/

/-- `app.models.user.User` with the columns that a login reads and a registration writes. -/
structure Account extends User where
  email : String
  displayName : String
  createdAt : Timestamp := 0
  updatedAt : Timestamp := 0
  deriving DecidableEq, Repr

instance : Row Account Uuid := ⟨fun a => a.id⟩

/-- The table `users`, whose e-mail addresses are unique. -/
structure AccountTable where
  table : Table Account
  email_nodup : (table.rows.map Account.email).Nodup

namespace AccountTable

def empty : AccountTable := ⟨.empty, List.nodup_nil⟩

instance : Membership Account AccountTable := ⟨fun t a => a ∈ t.table⟩

theorem mem_def {t : AccountTable} {a : Account} : a ∈ t ↔ a ∈ t.table := Iff.rfl

theorem eq_of_email (t : AccountTable) {a b : Account} (ha : a ∈ t) (hb : b ∈ t)
    (h : a.email = b.email) : a = b := List.inj_on_of_nodup_map t.email_nodup ha hb h

/-- `session.add(user)` and `session.flush()`, `none` for an `IntegrityError`. -/
def insert (t : AccountTable) (a : Account) : Option AccountTable :=
  if h : a.email ∈ t.table.rows.map Account.email then none
  else
    match ht : t.table.insert a with
    | none => none
    | some table => some
      { table := table
        email_nodup := by
          rw [(Table.insert_eq_some ht).1, List.map_append, List.map_singleton]
          exact List.Nodup.append t.email_nodup (List.nodup_singleton _)
            (List.disjoint_singleton.2 h) }

theorem insert_eq_some {t t' : AccountTable} {a : Account} (h : t.insert a = some t') :
    t.table.insert a = some t'.table ∧ ∀ b ∈ t, b.email ≠ a.email := by
  unfold insert at h
  split_ifs at h with hemail
  split at h
  · cases h
  · rename_i table htable
    cases h
    exact ⟨htable, fun b hb heq => hemail (heq ▸ List.mem_map_of_mem hb)⟩

theorem mem_insert {t t' : AccountTable} {a b : Account} (h : t.insert a = some t') :
    b ∈ t' ↔ b ∈ t ∨ b = a := Table.mem_insert (insert_eq_some h).1

/-- `select(User)` without the columns of a login. -/
def users (t : AccountTable) : Table User where
  rows := t.table.rows.map Account.toUser
  pk_nodup := by
    rw [List.map_map]
    exact t.table.pk_nodup

theorem mem_users {t : AccountTable} {u : User} : u ∈ t.users ↔ ∃ a ∈ t, a.toUser = u :=
  List.mem_map

/-- The account with an e-mail address. -/
def byEmail (t : AccountTable) (email : String) : List Account :=
  t.table.select fun a => a.email = email

theorem byEmail_eq_singleton {t : AccountTable} {a : Account} (ha : a ∈ t) :
    t.byEmail a.email = [a] :=
  Table.select_eq_singleton ha (by simp) fun b hb hemail =>
    t.eq_of_email hb ha (of_decide_eq_true hemail)

theorem scalarOneOrNone_byEmail {t : AccountTable} {email : String} {o : Option Account} :
    scalarOneOrNone (t.byEmail email) = .ok o ↔
      ∀ a, o = some a ↔ a ∈ t ∧ a.email = email := by
  rw [scalarOneOrNone_eq_ok]
  have hmem : ∀ a, a ∈ t.byEmail email ↔ a ∈ t ∧ a.email = email := fun a => by
    rw [byEmail, Table.mem_select, decide_eq_true_eq, mem_def]
  constructor
  · rintro (⟨hnil, rfl⟩ | ⟨a, ha, rfl⟩) b
    · simp [← hmem, hnil]
    · rw [← hmem, ha, List.mem_singleton, Option.some.injEq, eq_comm]
  · intro h
    cases o with
    | none =>
      refine .inl ⟨List.eq_nil_iff_forall_not_mem.2 fun a ha => ?_, rfl⟩
      cases (h a).2 ((hmem a).1 ha)
    | some a =>
      obtain ⟨ha, rfl⟩ := (h a).1 rfl
      exact .inr ⟨a, byEmail_eq_singleton ha, rfl⟩

end AccountTable

/-- The tables, with the columns of `users` that a login reads. -/
structure AuthDatabase where
  db : Database
  accounts : AccountTable
  users_eq : db.users = accounts.users

namespace AuthDatabase

/-- A database with these accounts and nothing else. -/
def ofAccounts (accounts : AccountTable) : AuthDatabase := ⟨{ users := accounts.users }, accounts, rfl⟩

theorem mem_users {s : AuthDatabase} {u : User} : u ∈ s.db.users ↔ ∃ a ∈ s.accounts, a.toUser = u := by
  rw [s.users_eq, AccountTable.mem_users]

/-- `session.add(user)`, with the audit entry of the request. -/
def addAccount (s : AuthDatabase) (accounts : AccountTable) (entry : AuditLog) : AuthDatabase where
  db := { s.db with users := accounts.users }.audit entry
  accounts := accounts
  users_eq := rfl

/-- `audit_logger.log`. -/
def audit (s : AuthDatabase) (entry : AuditLog) : AuthDatabase where
  db := s.db.audit entry
  accounts := s.accounts
  users_eq := s.users_eq

@[simp] theorem addAccount_accounts (s : AuthDatabase) (accounts : AccountTable) (entry : AuditLog) :
    (s.addAccount accounts entry).accounts = accounts := rfl

@[simp] theorem audit_accounts (s : AuthDatabase) (entry : AuditLog) :
    (s.audit entry).accounts = s.accounts := rfl

end AuthDatabase

/-! ### Tokens -/

/-- What the services of an account get from the process they run in. -/
structure AuthServer where
  settings : Settings := {}
  accessTokenExpireMinutes : ℤ := 30
  refreshTokenExpireDays : ℤ := 7
  security : Security
  /-- `jwt.encode(claims, settings.secret_key, algorithm="HS256")`. -/
  encodeToken : Dict String Json → String
  /-- Whether `passlib` takes a password; it raises on one with a NUL. -/
  hashable : String → Bool
  setOrder : SetOrder String

/-- The environment of a request at a point in time. -/
def AuthServer.env (server : AuthServer) (now : Timestamp) : Env where
  settings := server.settings
  security := server.security
  now := now
  setOrder := server.setOrder

/-- `timegm(t.utctimetuple())`: the whole second of a point in time. -/
def timegm (t : Timestamp) : ℤ := t / Timestamp.seconds 1

/-- The claims of a token, with the expiry as `jwt.encode` writes it. -/
def tokenClaims (sub : Json) (expires : ℤ) (type : String) : Dict String Json :=
  ((Dict.empty.set "sub" sub).set "exp" (.int expires)).set "type" (.str type)

namespace AuthServer

variable (server : AuthServer)

/-- `create_access_token({"sub": sub})` -/
def createAccessToken (now : Timestamp) (sub : Json) : String :=
  server.encodeToken (tokenClaims sub
    (timegm (now + Timestamp.seconds (60 * server.accessTokenExpireMinutes))) "access")

/-- `create_refresh_token({"sub": sub})` -/
def createRefreshToken (now : Timestamp) (sub : Json) : String :=
  server.encodeToken (tokenClaims sub
    (timegm (now + Timestamp.seconds (86400 * server.refreshTokenExpireDays))) "refresh")

/-- `hash_password`, which raises on a password that `passlib` does not take. -/
def hashPassword (salt password : String) : Except ApiError String :=
  if server.hashable password then .ok (server.security.hashPassword salt password)
  else .error (.internal "PasswordValueError")

end AuthServer

/-- `app.schemas.auth.RegisterRequest`: a body that does not meet the bounds is refused with 422
before the handler runs. -/
structure RegisterRequest where
  email : String
  password : String
  displayName : String
  email_length : 3 ≤ email.length ∧ email.length ≤ 255
  password_length : 8 ≤ password.length
  displayName_length : 1 ≤ displayName.length ∧ displayName.length ≤ 255

/-- `app.schemas.auth.LoginRequest`. -/
structure LoginRequest where
  email : String
  password : String

/-- `app.schemas.auth.TokenResponse`. -/
structure TokenResponse where
  accessToken : String
  refreshToken : String
  tokenType : String := "bearer"
  deriving DecidableEq, Repr

/-! ### The services -/

/-- The response to a registration or a login. -/
def AuthServer.tokensFor (server : AuthServer) (now : Timestamp) (user : Account) : TokenResponse where
  accessToken := server.createAccessToken now (.str user.id.str)
  refreshToken := server.createRefreshToken now (.str user.id.str)

/-- The row of a registration. -/
def RegisterRequest.row (req : RegisterRequest) (id : Uuid) (now : Timestamp) (hash : String) :
    Account where
  id := id
  passwordHash := hash
  email := req.email
  displayName := req.displayName
  createdAt := now
  updatedAt := now

/-- `register` with `register_user`, for a drawn id and salt. -/
def registerUser (server : AuthServer) (now : Timestamp) (id : Uuid) (salt : String)
    (s : AuthDatabase) (req : RegisterRequest) :
    Except ApiError (TokenResponse × AuthDatabase) := do
  let existing ← scalarOneOrNone (s.accounts.byEmail req.email)
  ensure (existing = none) (.http 409 "Email already registered")
  let hash ← server.hashPassword salt req.password
  let user := req.row id now hash
  let accounts ← getOr (.internal "IntegrityError") (s.accounts.insert user)
  .ok (server.tokensFor now user, s.addAccount accounts (user.did "auth.register" "user" user.id))

/-- `login` with `login_user`. -/
def loginUser (server : AuthServer) (now : Timestamp) (s : AuthDatabase) (req : LoginRequest) :
    Except ApiError (TokenResponse × AuthDatabase) := do
  let user ← getOr (.http 401 "Invalid email or password")
    (← scalarOneOrNone (s.accounts.byEmail req.email))
  let verified ← (server.env now).verifyPassword req.password user.passwordHash
  ensure (verified = true) (.http 401 "Invalid email or password")
  ensure (user.isActive = true) (.http 403 "Account is inactive")
  .ok (server.tokensFor now user, s.audit (user.did "auth.login" "user" user.id))

/-- `refresh` with `refresh_access_token`, which asks no table. -/
def refreshAccessToken (server : AuthServer) (now : Timestamp) (refreshToken : String) :
    Except ApiError TokenResponse := do
  let payload ← getOr (.http 401 "Invalid or expired refresh token")
    ((server.security.decodeToken now refreshToken).filter fun p =>
      p.get? "type" = some (.str "refresh"))
  let userId ← getOr (.http 401 "Invalid token payload")
    ((payload.get? "sub").filter (· ≠ .null))
  .ok { accessToken := server.createAccessToken now userId, refreshToken := refreshToken }

/-- `app.seed.seed`, for a drawn id and salt. -/
def seed (server : AuthServer) (now : Timestamp) (id : Uuid) (salt : String) (s : AuthDatabase) :
    Except ApiError AuthDatabase := do
  match ← scalarOneOrNone (s.accounts.byEmail "admin@midscale.local") with
  | some _ => .ok s
  | none =>
    let hash ← server.hashPassword salt "admin123"
    let accounts ← getOr (.internal "IntegrityError") (s.accounts.insert
      { id := id, passwordHash := hash, isSuperuser := true, email := "admin@midscale.local"
        displayName := "Admin", createdAt := now, updatedAt := now })
    .ok { db := { s.db with users := accounts.users }, accounts := accounts, users_eq := rfl }

/-! ### What is known of the libraries -/

/-- What `jose` and `passlib` are documented to do: a signed text decodes to its claims until the
second after its expiry, and a hash verifies the passwords that agree with its own in what `bcrypt`
reads of them. -/
structure AuthServer.Documented (server : AuthServer) (reads : String → String) : Prop where
  decode_encode : ∀ now sub expires type,
    server.security.decodeToken now (server.encodeToken (tokenClaims (.str sub) expires type)) =
      if timegm now ≤ expires then some (tokenClaims (.str sub) expires type) else none
  verify_hash : ∀ salt password text, server.hashable password = true →
    (server.security.verifyPassword text (server.security.hashPassword salt password) = .ok true ↔
      server.hashable text = true ∧ reads text = reads password)

section

variable {server : AuthServer} {now : Timestamp} {s s' : AuthDatabase} {r : TokenResponse}

@[simp] theorem tokenClaims_type (sub : Json) (expires : ℤ) (type : String) :
    (tokenClaims sub expires type).get? "type" = some (.str type) := Dict.get?_set_self ..

@[simp] theorem tokenClaims_sub (sub : Json) (expires : ℤ) (type : String) :
    (tokenClaims sub expires type).get? "sub" = some sub := by
  rw [tokenClaims, Dict.get?_set_of_ne _ _ (by decide), Dict.get?_set_of_ne _ _ (by decide),
    Dict.get?_set_self]

theorem timegm_add_seconds (t : Timestamp) (n : ℤ) :
    timegm (t + Timestamp.seconds n) = timegm t + n := by
  rw [timegm, timegm, Timestamp.seconds, Timestamp.seconds, one_mul]
  exact Int.add_mul_ediv_right _ _ (by decide)

theorem hashPassword_eq_ok {salt password hash : String} :
    server.hashPassword salt password = .ok hash ↔
      server.hashable password = true ∧ server.security.hashPassword salt password = hash := by
  unfold AuthServer.hashPassword
  split_ifs with h <;> simp [h]

/-- What a registration takes and leaves. -/
theorem registerUser_eq_ok {id : Uuid} {salt : String} {req : RegisterRequest}
    (h : registerUser server now id salt s req = .ok (r, s')) :
    ∃ user accounts, (∀ a ∈ s.accounts, a.email ≠ req.email) ∧
      server.hashable req.password = true ∧
      user = req.row id now (server.security.hashPassword salt req.password) ∧
      s.accounts.insert user = some accounts ∧ r = server.tokensFor now user ∧
      s' = s.addAccount accounts (user.did "auth.register" "user" user.id) := by
  simp only [registerUser, bind_eq_ok, ensure_eq_ok, getOr_eq_ok, hashPassword_eq_ok,
    AccountTable.scalarOneOrNone_byEmail, Except.ok.injEq, Prod.mk.injEq] at h
  obtain ⟨existing, hexisting, -, rfl, hash, ⟨hhashable, rfl⟩, accounts, hinsert, rfl, rfl⟩ := h
  refine ⟨_, accounts, fun a ha hemail => ?_, hhashable, rfl, hinsert, rfl, rfl⟩
  cases (hexisting a).2 ⟨ha, hemail⟩

/-- What a login takes and leaves. -/
theorem loginUser_eq_ok {req : LoginRequest} :
    loginUser server now s req = .ok (r, s') ↔
      ∃ user ∈ s.accounts, user.email = req.email ∧
        server.security.verifyPassword req.password user.passwordHash = .ok true ∧
        user.isActive = true ∧ r = server.tokensFor now user ∧
        s' = s.audit (user.did "auth.login" "user" user.id) := by
  have hverify : ∀ hash verified, (server.env now).verifyPassword req.password hash = .ok verified ↔
      server.security.verifyPassword req.password hash = .ok verified := fun hash verified => by
    unfold Env.verifyPassword AuthServer.env
    cases server.security.verifyPassword req.password hash <;> simp [Except.mapError]
  simp only [loginUser, bind_eq_ok, ensure_eq_ok, getOr_eq_ok, hverify,
    AccountTable.scalarOneOrNone_byEmail, Except.ok.injEq, Prod.mk.injEq]
  constructor
  · rintro ⟨o, ho, user, rfl, verified, hv, -, rfl, -, hactive, rfl, rfl⟩
    obtain ⟨huser, hemail⟩ := (ho user).1 rfl
    exact ⟨user, huser, hemail, hv, hactive, rfl, rfl⟩
  · rintro ⟨user, huser, hemail, hv, hactive, rfl, rfl⟩
    refine ⟨some user, fun a => ?_, user, rfl, true, hv, (), rfl, (), hactive, rfl, rfl⟩
    rw [Option.some.injEq]
    exact ⟨fun ha => ha ▸ ⟨huser, hemail⟩, fun ha =>
      s.accounts.eq_of_email huser ha.1 (hemail.trans ha.2.symm)⟩

/-- What a refresh takes. -/
theorem refreshAccessToken_eq_ok {refreshToken : String} :
    refreshAccessToken server now refreshToken = .ok r ↔
      ∃ payload sub, server.security.decodeToken now refreshToken = some payload ∧
        payload.get? "type" = some (.str "refresh") ∧ payload.get? "sub" = some sub ∧ sub ≠ .null ∧
        r = { accessToken := server.createAccessToken now sub, refreshToken := refreshToken } := by
  simp only [refreshAccessToken, bind_eq_ok, getOr_eq_ok, Option.filter_eq_some_iff,
    decide_eq_true_eq, Except.ok.injEq]
  constructor
  · rintro ⟨payload, ⟨hdecode, htype⟩, sub, ⟨hsub, hne⟩, rfl⟩
    exact ⟨payload, sub, hdecode, htype, hsub, hne, rfl⟩
  · rintro ⟨payload, sub, hdecode, htype, hsub, hne, rfl⟩
    exact ⟨payload, ⟨hdecode, htype⟩, sub, ⟨hsub, hne⟩, rfl⟩

theorem seed_eq_ok {id : Uuid} {salt : String} (h : seed server now id salt s = .ok s') :
    (s' = s ∧ ∃ a ∈ s.accounts, a.email = "admin@midscale.local") ∨ ∃ user, user.email = "admin@midscale.local" ∧ user.isActive = true ∧
      user.isSuperuser = true ∧ server.hashable "admin123" = true ∧
      user.passwordHash = server.security.hashPassword salt "admin123" ∧ user.id = id ∧
      (∀ a ∈ s.accounts, a.email ≠ user.email) ∧ s.accounts.insert user = some s'.accounts ∧
      s'.db = { s.db with users := s'.accounts.users } := by
  unfold seed at h
  obtain ⟨existing, hexisting, h⟩ := bind_eq_ok.1 h
  rw [AccountTable.scalarOneOrNone_byEmail] at hexisting
  cases existing with
  | some a =>
    cases h
    exact .inl ⟨rfl, a, (hexisting a).1 rfl⟩
  | none =>
    simp only [bind_eq_ok, getOr_eq_ok, hashPassword_eq_ok, Except.ok.injEq] at h
    obtain ⟨hash, ⟨hhashable, rfl⟩, accounts, hinsert, rfl⟩ := h
    refine .inr ⟨_, rfl, rfl, rfl, hhashable, rfl, rfl, fun a ha hemail => ?_, hinsert, rfl⟩
    cases (hexisting a).2 ⟨ha, hemail⟩

end

/-! ### A server -/

/-- `jwt.decode` on a payload that is not signed: its expiry is checked. -/
def plainDecode (now : Timestamp) (token : String) : Option (Dict String Json) :=
  match Json.loads token with
  | some (.obj fields) =>
    if h : (fields.map Prod.fst).Nodup then
      match (⟨fields, h⟩ : Dict String Json).get? "exp" with
      | some (.int expires) => if timegm now ≤ expires then some ⟨fields, h⟩ else none
      | _ => none
    else none
  | _ => none

/-- A server whose tokens are the texts of their claims and whose hashes are marked passwords. -/
def plainServer : AuthServer where
  security := { plainSecurity [] with decodeToken := plainDecode }
  encodeToken claims := (Json.obj claims.items).dumps
  hashable password := '\x00' ∉ password.toList
  setOrder := .dedup String

theorem plainDecode_claims (now : Timestamp) (sub : String) (expires : ℤ) (type : String) :
    plainDecode now (Json.obj (tokenClaims (.str sub) expires type).items).dumps =
      if timegm now ≤ expires then some (tokenClaims (.str sub) expires type) else none := by
  have hloadable : (Json.obj (tokenClaims (.str sub) expires type).items).loadable = true := rfl
  have hnodup : ((tokenClaims (.str sub) expires type).items.map Prod.fst).Nodup :=
    (tokenClaims (.str sub) expires type).keys_nodup
  have hexp : (tokenClaims (.str sub) expires type).get? "exp" = some (.int expires) := rfl
  unfold plainDecode
  rw [Json.loads_dumps hloadable]
  dsimp only
  rw [dif_pos hnodup, hexp]

theorem plainServer_documented : plainServer.Documented id where
  decode_encode now sub expires type := by
    simp only [plainServer]
    exact plainDecode_claims now sub expires type
  verify_hash salt password text hpassword := by
    simp only [plainServer, plainSecurity, Except.ok.injEq, decide_eq_true_eq] at hpassword ⊢
    rw [String.append_right_inj]
    constructor
    · rintro rfl
      exact ⟨hpassword, rfl⟩
    · exact fun h => h.2.symm

end Midscale
