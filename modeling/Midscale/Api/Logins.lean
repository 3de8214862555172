import Midscale.Access.Tickets
import Midscale.Api.Accounts
import Midscale.Api.Tenancy

/-!
# Who is logged in

The server keeps no sessions: whoever shows a token that it signed and that has not expired is the
user whom the token names.  Beside the database runs the list of the tokens that were signed.  It is
the list of tickets of a desk that admits a user at every registration and login: an access token is
a pass, a refresh token a renewal.

* `signed_refines` : **the tokens signed in a run are the tickets of the desk.**
* `accepted_iff` : a credential is accepted exactly if it is the text of a valid pass of an active
  user.
* `session_bound` : whoever is accepted gave the password not longer ago than a refresh token and an
  access token last.
* `login_lasts` : its tokens are good until they expire, whatever happens in between.
* `login_iff` : **a login succeeds exactly with the password that its address was registered with**,
  as far as `bcrypt` reads it.
-/

namespace Midscale

/-! ### Requests -/

/-- What changes accounts or asks for tokens, or any other request. -/
inductive AuthRequest where
  | register (id : Uuid) (salt : String) (req : RegisterRequest)
  | login (req : LoginRequest)
  | refresh (refreshToken : String)
  | seed (id : Uuid) (salt : String)
  | api (entropy : Entropy) (request : ApiRequest)

/-- A request at a reading of the clock. -/
structure AuthEvent where
  now : Timestamp
  request : AuthRequest

/-- The database, with the tokens that were signed. -/
abbrev AuthState := AuthDatabase × List String

theorem serveApi_users (db : Database) (c : ApiCall) : (serveApi db c).users = db.users := by
  refine serveApi_cases (P := fun db' => db'.users = db.users) rfl fun db' hok => ?_
  obtain ⟨m, heffect⟩ := c.handle_effect hok
  exact heffect.users

/-- A request to the other endpoints. -/
def AuthDatabase.serveApi (s : AuthDatabase) (c : ApiCall) : AuthDatabase where
  db := Midscale.serveApi s.db c
  accounts := s.accounts
  users_eq := (serveApi_users s.db c).trans s.users_eq

/-- One request in its transaction. -/
def AuthServer.serve (server : AuthServer) (s : AuthState) (e : AuthEvent) : AuthState :=
  match e.request with
  | .register id salt req =>
    match registerUser server e.now id salt s.1 req with
    | .ok (r, db) => (db, s.2 ++ [r.accessToken, r.refreshToken])
    | .error _ => s
  | .login req =>
    match loginUser server e.now s.1 req with
    | .ok (r, db) => (db, s.2 ++ [r.accessToken, r.refreshToken])
    | .error _ => s
  | .refresh token =>
    match refreshAccessToken server e.now token with
    | .ok r => (s.1, s.2 ++ [r.accessToken])
    | .error _ => s
  | .seed id salt =>
    match seed server e.now id salt s.1 with
    | .ok db => (db, s.2)
    | .error _ => s
  | .api entropy request => (s.1.serveApi ⟨server.env e.now, entropy, request⟩, s.2)

/-! ### The desk -/

/-- `type` of a token. -/
def TicketKind.type : TicketKind → String
  | .pass => "access"
  | .renewal => "refresh"

namespace AuthServer

variable (server : AuthServer)

/-- For how long tokens are valid, in seconds. -/
def terms : Terms where
  pass := 60 * server.accessTokenExpireMinutes
  renewal := 86400 * server.refreshTokenExpireDays

/-- The token that a ticket is. -/
def text (t : Ticket Uuid) : String :=
  server.encodeToken (tokenClaims (.str t.subject.str) t.expires t.kind.type)

/-- The renewal that the claims of a refresh token are. -/
def renewalOf (payload : Dict String Json) : Option (Ticket Uuid) :=
  match payload.get? "sub", payload.get? "exp" with
  | some (.str sub), some (.int expires) =>
    if payload.get? "type" = some (.str "refresh") then
      (Uuid.parse sub).map fun uid => ⟨uid, .renewal, expires⟩
    else none
  | _, _ => none

/-- What a request is at the desk. -/
def deskEvent (s : AuthState) (e : AuthEvent) : List (DeskEvent Uuid) :=
  match e.request with
  | .register id salt req =>
    match registerUser server e.now id salt s.1 req with
    | .ok _ => [.enter id (timegm e.now)]
    | .error _ => []
  | .login req =>
    match loginUser server e.now s.1 req with
    | .ok _ => (s.1.accounts.byEmail req.email).map fun a => .enter a.id (timegm e.now)
    | .error _ => []
  | .refresh token =>
    (((server.security.decodeToken e.now token).bind renewalOf).map
      fun t => .renew t (timegm e.now)).toList
  | .seed .. | .api .. => []

/-- What a run is at the desk. -/
def deskEvents : AuthState → List AuthEvent → List (DeskEvent Uuid)
  | _, [] => []
  | s, e :: es => server.deskEvent s e ++ deskEvents (server.serve s e) es

/-- The credential was signed by the server if it is signed at all. -/
def Unforged (signed : List String) (token : String) : Prop :=
  ∀ now payload, server.security.decodeToken now token = some payload → token ∈ signed

/-- A refresh token that is presented is not forged. -/
def Presents (s : AuthState) (e : AuthEvent) : Prop :=
  ∀ token, e.request = .refresh token → server.Unforged s.2 token

/-- The request admits a user: it registers the account, or gives its password. -/
inductive Admits (s : AuthDatabase) (now : Timestamp) : AuthRequest → Uuid → Prop
  | register {id : Uuid} {salt : String} {req : RegisterRequest} {r : TokenResponse × AuthDatabase}
      (h : registerUser server now id salt s req = .ok r) : Admits s now (.register id salt req) id
  | login {req : LoginRequest} {r : TokenResponse × AuthDatabase} {a : Account} (ha : a ∈ s.accounts)
      (hemail : a.email = req.email) (h : loginUser server now s req = .ok r) :
      Admits s now (.login req) a.id

variable {server}

theorem deskEvents_append (s : AuthState) (es es' : List AuthEvent) :
    server.deskEvents s (es ++ es') =
      server.deskEvents s es ++ server.deskEvents (run server.serve s es) es' := by
  induction es generalizing s with
  | nil => rfl
  | cons e es ih => rw [List.cons_append, deskEvents, deskEvents, ih, List.append_assoc, run_cons]

theorem deskEvents_concat (s : AuthState) (es : List AuthEvent) (e : AuthEvent) :
    server.deskEvents s (es ++ [e]) =
      server.deskEvents s es ++ server.deskEvent (run server.serve s es) e := by
  rw [deskEvents_append, deskEvents, deskEvents, List.append_nil]

theorem tokensFor_eq (now : Timestamp) (a : Account) :
    server.tokensFor now a =
      { accessToken := server.text (server.terms.passAt a.id (timegm now))
        refreshToken := server.text (server.terms.renewalAt a.id (timegm now)) } := by
  simp only [tokensFor, createAccessToken, createRefreshToken, timegm_add_seconds]
  rfl

theorem admits_of_mem {s : AuthState} {e : AuthEvent} {u : Uuid} {t₀ : ℤ}
    (h : .enter u t₀ ∈ server.deskEvent s e) :
    t₀ = timegm e.now ∧ server.Admits s.1 e.now e.request u := by
  obtain ⟨now, request⟩ := e
  unfold deskEvent at h
  cases request with
  | register id salt req =>
    dsimp only at h
    split at h
    · rename_i r hr
      cases List.mem_singleton.1 h
      exact ⟨rfl, .register hr⟩
    · cases h
  | login req =>
    dsimp only at h
    split at h
    · rename_i r hr
      obtain ⟨a, ha, heq⟩ := List.mem_map.1 h
      obtain ⟨ha, hemail⟩ := Table.mem_select.1 ha
      cases heq
      exact ⟨rfl, .login ha (of_decide_eq_true hemail) hr⟩
    · cases h
  | refresh token =>
    obtain ⟨t, -, heq⟩ := Option.map_eq_some_iff.1 (Option.mem_toList.1 h)
    cases heq
  | seed id salt => cases h
  | api entropy request => cases h

theorem exists_admits {s : AuthState} {es : List AuthEvent} {u : Uuid} {t₀ : ℤ}
    (h : .enter u t₀ ∈ server.deskEvents s es) :
    ∃ pre e post, es = pre ++ e :: post ∧ t₀ = timegm e.now ∧
      server.Admits (run server.serve s pre).1 e.now e.request u := by
  induction es generalizing s with
  | nil => cases h
  | cons e es ih =>
    rcases List.mem_append.1 h with h | h
    · obtain ⟨ht, hadmits⟩ := admits_of_mem h
      exact ⟨[], e, es, rfl, ht, hadmits⟩
    · obtain ⟨pre, e', post, rfl, ht, hadmits⟩ := ih h
      exact ⟨e :: pre, e', post, rfl, ht, hadmits⟩

/-! ### Refinement -/

/-- The claims of a ticket. -/
def claimsOf (t : Ticket Uuid) : Dict String Json :=
  tokenClaims (.str t.subject.str) t.expires t.kind.type

theorem renewalOf_claimsOf (t : Ticket Uuid) :
    renewalOf (claimsOf t) = if t.kind = .renewal then some t else none := by
  obtain ⟨subject, kind, expires⟩ := t
  have hexp : (claimsOf ⟨subject, kind, expires⟩).get? "exp" = some (.int expires) := by
    rw [claimsOf, tokenClaims, Dict.get?_set_of_ne _ _ (by decide), Dict.get?_set_self]
  rw [renewalOf, hexp, claimsOf, tokenClaims_sub]
  cases kind with
  | pass => simp [TicketKind.type]
  | renewal => simp [TicketKind.type]

variable {reads : String → String} (hserver : server.Documented reads)

include hserver in
theorem decode_text (now : Timestamp) (t : Ticket Uuid) :
    server.security.decodeToken now (server.text t) =
      if timegm now ≤ t.expires then some (claimsOf t) else none :=
  hserver.decode_encode ..

include hserver in
theorem exists_ticket {issued : List (Ticket Uuid)} {now : Timestamp} {token : String}
    {payload : Dict String Json} (hunforged : server.Unforged (issued.map server.text) token)
    (h : server.security.decodeToken now token = some payload) :
    ∃ t ∈ issued, token = server.text t ∧ timegm now ≤ t.expires ∧ payload = claimsOf t := by
  obtain ⟨t, ht, rfl⟩ := List.mem_map.1 (hunforged now payload h)
  rw [decode_text hserver] at h
  split_ifs at h with hnow
  exact ⟨t, ht, rfl, hnow, (Option.some.inj h).symm⟩

include hserver in
theorem isAccessTokenOf_text {now : Timestamp} {t : Ticket Uuid} (hkind : t.kind = .pass)
    (hnow : timegm now ≤ t.expires) {u : User} (hu : t.subject = u.id) :
    IsAccessTokenOf (server.env now) (server.text t) u := by
  refine ⟨claimsOf t, t.subject.str, ?_, ?_, ?_, ?_⟩
  · exact (decode_text hserver now t).trans (if_pos hnow)
  · rw [claimsOf, tokenClaims_type, hkind]
    rfl
  · rw [claimsOf, tokenClaims_sub]
  · rw [Uuid.parse_str, hu]

include hserver in
theorem refreshAccessToken_text {now : Timestamp} {t : Ticket Uuid} (hkind : t.kind = .renewal)
    (hnow : timegm now ≤ t.expires) :
    refreshAccessToken server now (server.text t) =
      .ok { accessToken := server.text (server.terms.passAt t.subject (timegm now))
            refreshToken := server.text t } := by
  refine refreshAccessToken_eq_ok.2 ⟨claimsOf t, .str t.subject.str, ?_, ?_, ?_, by simp, ?_⟩
  · rw [decode_text hserver, if_pos hnow]
  · rw [claimsOf, tokenClaims_type, hkind]
    rfl
  · rw [claimsOf, tokenClaims_sub]
  · rw [createAccessToken, timegm_add_seconds]
    rfl

include hserver in
/-- **A request signs the tickets that the desk issues.** -/
theorem signed_serve {s : AuthState} {issued : List (Ticket Uuid)} (hs : s.2 = issued.map server.text)
    {e : AuthEvent} (he : server.Presents s e) :
    (server.serve s e).2 = (run server.terms.serve issued (server.deskEvent s e)).map server.text := by
  obtain ⟨now, request⟩ := e
  unfold serve deskEvent
  cases request with
  | register id salt req =>
    dsimp only
    cases hr : registerUser server now id salt s.1 req with
    | error err => exact hs
    | ok r =>
      obtain ⟨r, db⟩ := r
      obtain ⟨user, accounts, -, -, rfl, -, rfl, -⟩ := registerUser_eq_ok hr
      simp only [tokensFor_eq, hs, run_cons, run_nil, Terms.serve, List.map_append, List.map_cons,
        List.map_nil]
      rfl
  | login req =>
    dsimp only
    cases hr : loginUser server now s.1 req with
    | error err => exact hs
    | ok r =>
      obtain ⟨r, db⟩ := r
      obtain ⟨user, huser, hemail, -, -, rfl, -⟩ := loginUser_eq_ok.1 hr
      simp only [← hemail, AccountTable.byEmail_eq_singleton huser, tokensFor_eq, hs, run_cons,
        run_nil, Terms.serve, List.map_append, List.map_cons, List.map_nil]
  | refresh token =>
    dsimp only
    have hunforged : server.Unforged (issued.map server.text) token := hs ▸ he token rfl
    cases hdecode : server.security.decodeToken now token with
    | none =>
      have herror : ∀ r, refreshAccessToken server now token ≠ .ok r := fun r hr => by
        obtain ⟨payload, sub, hpayload, -⟩ := refreshAccessToken_eq_ok.1 hr
        rw [hdecode] at hpayload
        cases hpayload
      cases hr : refreshAccessToken server now token with
      | error err => exact hs
      | ok r => exact absurd hr (herror r)
    | some payload =>
      obtain ⟨t, ht, rfl, hnow, rfl⟩ := exists_ticket hserver hunforged hdecode
      rw [Option.bind_some, renewalOf_claimsOf]
      by_cases hkind : t.kind = .renewal
      · rw [refreshAccessToken_text hserver hkind hnow, if_pos hkind, Option.map_some,
          Option.toList_some, run_cons, run_nil, Terms.serve, if_pos ⟨ht, hkind, hnow⟩,
          List.map_append, ← hs]
        rfl
      · -- an access token buys nothing
        have herror : ∀ r, refreshAccessToken server now (server.text t) ≠ .ok r := fun r hr => by
          obtain ⟨payload, sub, hpayload, htype, -⟩ := refreshAccessToken_eq_ok.1 hr
          rw [hdecode, Option.some.injEq] at hpayload
          rw [← hpayload, claimsOf, tokenClaims_type] at htype
          cases hk : t.kind with
          | renewal => exact hkind hk
          | pass =>
            rw [hk] at htype
            exact absurd htype (by simp [TicketKind.type])
        rw [if_neg hkind, Option.map_none, Option.toList_none, run_nil, ← hs]
        cases hr : refreshAccessToken server now (server.text t) with
        | error err => rfl
        | ok r => exact absurd hr (herror r)
  | seed id salt =>
    dsimp only
    cases seed server now id salt s.1 with
    | error err => exact hs
    | ok db => exact hs
  | api entropy request => exact hs

end AuthServer

section

variable {server : AuthServer} {reads : String → String} (hserver : server.Documented reads)
  {db : AuthDatabase} {es : List AuthEvent}
  (hes : Admissible server.serve server.Presents (db, []) es)

include hserver hes

/-- **The tokens signed in a run are the tickets of the desk.** -/
theorem signed_refines : (run server.serve (db, []) es).2 =
    (run server.terms.serve [] (server.deskEvents (db, []) es)).map server.text := by
  induction es using List.reverseRecOn with
  | nil => rfl
  | append_singleton es e ih =>
    obtain ⟨hes, he, -⟩ := (admissible_append server.serve).1 hes
    rw [run_concat, AuthServer.deskEvents_concat, run_append]
    exact AuthServer.signed_serve hserver (ih hes) he

theorem exists_pass {now : Timestamp} {token : String} {u : User}
    (htoken : server.Unforged (run server.serve (db, []) es).2 token)
    (h : IsAccessTokenOf (server.env now) token u) :
    ∃ t ∈ run server.terms.serve [] (server.deskEvents (db, []) es),
      t.kind = .pass ∧ t.subject = u.id ∧ timegm now ≤ t.expires ∧ token = server.text t := by
  obtain ⟨payload, sub, hdecode, htype, hsub, hparse⟩ := h
  rw [signed_refines hserver hes] at htoken
  obtain ⟨t, ht, rfl, hnow, rfl⟩ := AuthServer.exists_ticket hserver htoken hdecode
  rw [AuthServer.claimsOf, tokenClaims_type] at htype
  rw [AuthServer.claimsOf, tokenClaims_sub] at hsub
  cases hsub
  rw [Uuid.parse_str, Option.some.injEq] at hparse
  refine ⟨t, ht, ?_, hparse, hnow, rfl⟩
  cases hk : t.kind with
  | pass => rfl
  | renewal =>
    rw [hk] at htype
    exact absurd htype (by simp [TicketKind.type])

/-- **A credential is accepted exactly if it is the text of a valid pass of an active user.** -/
theorem accepted_iff {now : Timestamp} {token : String} {u : User}
    (htoken : server.Unforged (run server.serve (db, []) es).2 token) :
    getCurrentUser (server.env now) (run server.serve (db, []) es).1.db token = .ok u ↔
      u ∈ (run server.serve (db, []) es).1.db.users ∧ u.isActive = true ∧
        ∃ t ∈ run server.terms.serve [] (server.deskEvents (db, []) es),
          t.kind = .pass ∧ t.subject = u.id ∧ timegm now ≤ t.expires ∧ token = server.text t := by
  rw [getCurrentUser_eq_ok]
  constructor
  · rintro ⟨haccess, hu, hactive⟩
    exact ⟨hu, hactive, exists_pass hserver hes htoken haccess⟩
  · rintro ⟨hu, hactive, t, ht, hkind, hsubject, hnow, rfl⟩
    exact ⟨AuthServer.isAccessTokenOf_text hserver hkind hnow hsubject, hu, hactive⟩

/-- **A session ends.**  Whoever is accepted registered or gave the password in the run, not longer
ago than a refresh token and an access token last. -/
theorem session_bound {now : Timestamp} {token : String} {u : User}
    (htoken : server.Unforged (run server.serve (db, []) es).2 token)
    (h : getCurrentUser (server.env now) (run server.serve (db, []) es).1.db token = .ok u) :
    ∃ pre e post, es = pre ++ e :: post ∧
      server.Admits (run server.serve (db, []) pre).1 e.now e.request u.id ∧
      timegm now ≤ timegm e.now + max (86400 * server.refreshTokenExpireDays) 0 +
        60 * server.accessTokenExpireMinutes := by
  obtain ⟨t, ht, hkind, hsubject, hnow, -⟩ :=
    exists_pass hserver hes htoken (getCurrentUser_eq_ok.1 h).1
  obtain ⟨t₀, hadmit, hbound⟩ := desk_bound ht hkind hnow
  obtain ⟨pre, e, post, hsplit, rfl, hadmits⟩ := AuthServer.exists_admits hadmit
  exact ⟨pre, e, post, hsplit, hsubject ▸ hadmits, hbound⟩

end

/-! ### A client -/

/-- A registration. -/
def clientRegister : RegisterRequest where
  email := "user@site"
  password := "password"
  displayName := "user"
  email_length := by decide
  password_length := by decide
  displayName_length := by decide

/-- A client registers, and a week later buys another access token with its refresh token. -/
def clientEvents : List AuthEvent := [
  { now := 0, request := .register (Uuid.ofNat 1) "" clientRegister },
  { now := Timestamp.seconds 604800
    request := .refresh (plainServer.text (plainServer.terms.renewalAt (Uuid.ofNat 1) 0)) }]

/-- The access token that the client bought. -/
def clientToken : String := plainServer.text (plainServer.terms.passAt (Uuid.ofNat 1) 604800)

/-- The row of the client. -/
def clientUser : User := { id := Uuid.ofNat 1, passwordHash := "hash:password" }

theorem clientEvents_presents :
    Admissible plainServer.serve plainServer.Presents (.ofAccounts .empty, []) clientEvents := by
  refine ⟨fun _ h => (nomatch h), fun token h => ?_, trivial⟩
  cases h
  intro now payload _
  decide +kernel

theorem clientToken_unforged : plainServer.Unforged
    (run plainServer.serve (.ofAccounts .empty, []) clientEvents).2 clientToken := by
  intro now payload _
  decide +kernel

theorem clientToken_accepted : getCurrentUser (plainServer.env (Timestamp.seconds 606600))
    (run plainServer.serve (.ofAccounts .empty, []) clientEvents).1.db clientToken =
      .ok clientUser := by
  decide +kernel

/-- The token bought after a week is the text of a pass. -/
theorem accepted_iff_client :
    ∃ t ∈ run plainServer.terms.serve []
        (plainServer.deskEvents (.ofAccounts .empty, []) clientEvents),
      t.kind = .pass ∧ t.subject = clientUser.id ∧ 606600 ≤ t.expires ∧
        clientToken = plainServer.text t :=
  ((accepted_iff plainServer_documented clientEvents_presents clientToken_unforged).1
    clientToken_accepted).2.2

/-- The client is still in after a week and half an hour. -/
theorem session_bound_client :
    ∃ pre e post, clientEvents = pre ++ e :: post ∧
      plainServer.Admits (run plainServer.serve (.ofAccounts .empty, []) pre).1 e.now e.request
        clientUser.id ∧
      timegm (Timestamp.seconds 606600) ≤ timegm e.now + max (86400 * 7) 0 + 60 * 30 :=
  session_bound plainServer_documented clientEvents_presents clientToken_unforged
    clientToken_accepted

/-! ### Accounts of a run -/

namespace AuthServer

variable {server : AuthServer} {s : AuthState} {e : AuthEvent}

/-- The request registers an address with a password. -/
inductive Registers (server : AuthServer) (s : AuthDatabase) (now : Timestamp) :
    AuthRequest → String → String → Prop
  | register {id : Uuid} {salt : String} {req : RegisterRequest} {r : TokenResponse × AuthDatabase}
      (h : registerUser server now id salt s req = .ok r) :
      Registers server s now (.register id salt req) req.email req.password
  | seed {id : Uuid} {salt : String} {s' : AuthDatabase} (h : Midscale.seed server now id salt s = .ok s')
      (hnew : ∀ a ∈ s.accounts, a.email ≠ "admin@midscale.local") :
      Registers server s now (.seed id salt) "admin@midscale.local" "admin123"

/-- The account is an active one with a hash of the password. -/
def Stores (server : AuthServer) (a : Account) (password : String) : Prop :=
  server.hashable password = true ∧ a.isActive = true ∧
    ∃ salt, a.passwordHash = server.security.hashPassword salt password

/-- A request adds the account that it registers, and no other. -/
theorem serve_accounts (server : AuthServer) (s : AuthState) (e : AuthEvent) :
    ((server.serve s e).1.accounts = s.1.accounts ∧
      ∀ email password, ¬ server.Registers s.1 e.now e.request email password) ∨
    ∃ a password, s.1.accounts.insert a = some (server.serve s e).1.accounts ∧
      server.Stores a password ∧ ∀ email password', server.Registers s.1 e.now e.request email password' ↔
        email = a.email ∧ password' = password := by
  obtain ⟨now, request⟩ := e
  unfold serve
  cases request with
  | register id salt req =>
    dsimp only
    cases hr : registerUser server now id salt s.1 req with
    | error err =>
      refine .inl ⟨rfl, fun email password h => ?_⟩
      cases h with
      | register h => cases hr.symm.trans h
    | ok r =>
      obtain ⟨r, db⟩ := r
      obtain ⟨a, accounts, -, hhashable, rfl, hinsert, -, rfl⟩ := registerUser_eq_ok hr
      refine .inr ⟨_, req.password, hinsert, ⟨hhashable, rfl, salt, rfl⟩, fun email password => ?_⟩
      constructor
      · intro h
        cases h with
        | register => exact ⟨rfl, rfl⟩
      · rintro ⟨rfl, rfl⟩
        exact .register hr
  | seed id salt =>
    dsimp only
    cases hr : Midscale.seed server now id salt s.1 with
    | error err =>
      refine .inl ⟨rfl, fun email password h => ?_⟩
      cases h with
      | seed h => cases hr.symm.trans h
    | ok db =>
      rcases seed_eq_ok hr with ⟨rfl, a, ha, hemail⟩ |
        ⟨a, hemail, hactive, -, hhashable, hhash, -, hnew, hinsert, -⟩
      · refine .inl ⟨rfl, fun email password h => ?_⟩
        cases h with
        | seed _ hnew => exact hnew a ha hemail
      · refine .inr ⟨a, "admin123", hinsert, ⟨hhashable, hactive, salt, hhash⟩, fun email password => ?_⟩
        constructor
        · intro h
          cases h with
          | seed => exact ⟨hemail.symm, rfl⟩
        · rintro ⟨rfl, rfl⟩
          rw [hemail] at hnew ⊢
          exact .seed hr hnew
  | login req =>
    refine .inl ⟨?_, fun email password h => nomatch h⟩
    dsimp only
    cases hr : loginUser server now s.1 req with
    | error err => rfl
    | ok r =>
      obtain ⟨r, db⟩ := r
      obtain ⟨-, -, -, -, -, -, rfl⟩ := loginUser_eq_ok.1 hr
      rfl
  | refresh token =>
    refine .inl ⟨?_, fun email password h => nomatch h⟩
    dsimp only
    cases refreshAccessToken server now token <;> rfl
  | api entropy request => exact .inl ⟨rfl, fun email password h => nomatch h⟩

theorem accounts_serve {a : Account} (h : a ∈ s.1.accounts) : a ∈ (server.serve s e).1.accounts := by
  rcases serve_accounts server s e with ⟨heq, -⟩ | ⟨b, password, hinsert, -⟩
  · exact heq ▸ h
  · exact (AccountTable.mem_insert hinsert).2 (.inl h)

theorem accounts_run {a : Account} (h : a ∈ s.1.accounts) (es : List AuthEvent) :
    a ∈ (run server.serve s es).1.accounts :=
  run_invariant server.serve (P := fun s => a ∈ s.1.accounts) (fun _ _ => accounts_serve) h es

/-- The address was registered with the password by a request of the run. -/
def RegisteredIn (server : AuthServer) (s : AuthState) (es : List AuthEvent) (email password : String) :
    Prop :=
  ∃ pre e post, es = pre ++ e :: post ∧
    server.Registers (run server.serve s pre).1 e.now e.request email password

theorem registered_of_mem {es : List AuthEvent} (hs : ∀ a, a ∉ s.1.accounts) {a : Account}
    (ha : a ∈ (run server.serve s es).1.accounts) :
    ∃ password, server.RegisteredIn s es a.email password ∧ server.Stores a password := by
  obtain ⟨pre, e, post, rfl, hpre, hpost⟩ :=
    exists_first server.serve (P := fun s => a ∈ s.1.accounts) (hs a) ha
  rw [run_concat] at hpost
  rcases serve_accounts server (run server.serve s pre) e with
    ⟨heq, -⟩ | ⟨b, password, hinsert, hstores, hregisters⟩
  · exact absurd (heq ▸ hpost) hpre
  · rcases (AccountTable.mem_insert hinsert).1 hpost with hold | rfl
    · exact absurd hold hpre
    · exact ⟨password, ⟨pre, e, post, rfl, (hregisters _ _).2 ⟨rfl, rfl⟩⟩, hstores⟩

theorem mem_of_registered {es : List AuthEvent} {email password : String}
    (h : server.RegisteredIn s es email password) :
    ∃ a ∈ (run server.serve s es).1.accounts, a.email = email ∧ server.Stores a password := by
  obtain ⟨pre, e, post, rfl, hregisters⟩ := h
  rcases serve_accounts server (run server.serve s pre) e with
    ⟨-, hnot⟩ | ⟨a, password', hinsert, hstores, hiff⟩
  · exact absurd hregisters (hnot _ _)
  · obtain ⟨rfl, rfl⟩ := (hiff _ _).1 hregisters
    refine ⟨a, ?_, rfl, hstores⟩
    rw [run_append, run_cons]
    exact accounts_run ((AccountTable.mem_insert hinsert).2 (.inr rfl)) post

end AuthServer

theorem accepted_passAt {server : AuthServer} {reads : String → String}
    (hserver : server.Documented reads) {s : AuthState} {a : Account} (ha : a ∈ s.1.accounts)
    (hactive : a.isActive = true) (es : List AuthEvent) {t₀ t : Timestamp}
    (ht : timegm t ≤ timegm t₀ + 60 * server.accessTokenExpireMinutes) :
    getCurrentUser (server.env t) (run server.serve s es).1.db
      (server.text (server.terms.passAt a.id (timegm t₀))) = .ok a.toUser :=
  getCurrentUser_eq_ok.2 ⟨AuthServer.isAccessTokenOf_text hserver rfl ht rfl,
    AuthDatabase.mem_users.2 ⟨a, AuthServer.accounts_run ha es, rfl⟩, hactive⟩

/-- **A login lasts.**  Whatever is requested after it, its access token is accepted as the user of
the address until the second in which it expires, and until its own expiry its refresh token buys
access tokens that are. -/
theorem login_lasts {server : AuthServer} {reads : String → String} (hserver : server.Documented reads)
    {s : AuthState} {t₀ : Timestamp} {req : LoginRequest} {r : TokenResponse} {s' : AuthDatabase}
    (hlogin : loginUser server t₀ s.1 req = .ok (r, s')) (es : List AuthEvent) :
    ∃ a ∈ s.1.accounts, a.email = req.email ∧
      (∀ t, timegm t ≤ timegm t₀ + 60 * server.accessTokenExpireMinutes →
        getCurrentUser (server.env t) (run server.serve (s', s.2) es).1.db r.accessToken =
          .ok a.toUser) ∧
      ∀ t₁, timegm t₁ ≤ timegm t₀ + 86400 * server.refreshTokenExpireDays →
        ∃ r', refreshAccessToken server t₁ r.refreshToken = .ok r' ∧
          r'.refreshToken = r.refreshToken ∧
          ∀ t, timegm t ≤ timegm t₁ + 60 * server.accessTokenExpireMinutes →
            getCurrentUser (server.env t) (run server.serve (s', s.2) es).1.db r'.accessToken =
              .ok a.toUser := by
  obtain ⟨a, ha, hemail, -, hactive, rfl, rfl⟩ := loginUser_eq_ok.1 hlogin
  rw [AuthServer.tokensFor_eq]
  have haccepted : ∀ t₀ t : Timestamp,
      timegm t ≤ timegm t₀ + 60 * server.accessTokenExpireMinutes → _ := fun t₀ t ht =>
    accepted_passAt (s := (s.1.audit (a.did "auth.login" "user" a.id), s.2)) hserver ha hactive es ht
  refine ⟨a, ha, hemail, haccepted t₀, fun t₁ ht₁ => ?_⟩
  have hrefresh := AuthServer.refreshAccessToken_text hserver
    (t := server.terms.renewalAt a.id (timegm t₀)) rfl ht₁
  exact ⟨_, hrefresh, rfl, haccepted t₁⟩

/-- The state after the requests of the client. -/
def clientState : AuthState := run plainServer.serve (.ofAccounts .empty, []) clientEvents

/-- The access token of a login of the client, half an hour later. -/
theorem login_lasts_client : ∃ r s', ∃ a ∈ clientState.1.accounts, a.email = "user@site" ∧
    loginUser plainServer 0 clientState.1 ⟨"user@site", "password"⟩ = .ok (r, s') ∧
    getCurrentUser (plainServer.env (Timestamp.seconds 1800))
      (run plainServer.serve (s', clientState.2) clientEvents).1.db r.accessToken =
        .ok a.toUser := by
  have hok : (loginUser plainServer 0 clientState.1 ⟨"user@site", "password"⟩).isOk = true := by
    decide +kernel
  generalize clientState = s at hok ⊢
  cases hr : loginUser plainServer 0 s.1 ⟨"user@site", "password"⟩ with
  | error err =>
    rw [hr] at hok
    cases hok
  | ok r =>
    obtain ⟨r, s'⟩ := r
    obtain ⟨a, ha, hemail, haccess, -⟩ := login_lasts plainServer_documented hr clientEvents
    exact ⟨r, s', a, ha, hemail, rfl, haccess (Timestamp.seconds 1800) (by decide)⟩

/-- **A login succeeds exactly with the password that its address was registered with**, as far as
`bcrypt` reads it. -/
theorem login_iff {server : AuthServer} {reads : String → String} (hserver : server.Documented reads)
    (db : Database) (hdb : db.users = .empty) (es : List AuthEvent) (now : Timestamp)
    (req : LoginRequest) :
    (∃ r, loginUser server now
        (run server.serve (⟨db, .empty, hdb⟩, []) es).1 req = .ok r) ↔
      ∃ password, server.RegisteredIn (⟨db, .empty, hdb⟩, []) es req.email password ∧
        server.hashable req.password = true ∧ reads req.password = reads password := by
  have hstart : ∀ a, a ∉ (⟨db, .empty, hdb⟩ : AuthDatabase).accounts := fun a => List.not_mem_nil
  constructor
  · rintro ⟨⟨r, s'⟩, hr⟩
    obtain ⟨a, ha, hemail, hverify, -⟩ := loginUser_eq_ok.1 hr
    obtain ⟨password, hregistered, hhashable, -, salt, hhash⟩ :=
      AuthServer.registered_of_mem (s := (⟨db, .empty, hdb⟩, [])) hstart ha
    rw [hhash, hserver.verify_hash salt password _ hhashable] at hverify
    exact ⟨password, hemail ▸ hregistered, hverify⟩
  · rintro ⟨password, hregistered, hagree⟩
    obtain ⟨a, ha, hemail, hhashable, hactive, salt, hhash⟩ :=
      AuthServer.mem_of_registered hregistered
    have hverify : server.security.verifyPassword req.password a.passwordHash = .ok true := by
      rw [hhash]
      exact (hserver.verify_hash salt password _ hhashable).2 hagree
    exact ⟨_, loginUser_eq_ok.2 ⟨a, ha, hemail, hverify, hactive, rfl, rfl⟩⟩

/-- The client logs in with its password. -/
theorem login_iff_client : ∃ r, loginUser plainServer 0
    (run plainServer.serve (⟨{}, .empty, rfl⟩, []) clientEvents).1 ⟨"user@site", "password"⟩ =
      .ok r := by
  have hok : (registerUser plainServer 0 (Uuid.ofNat 1) "" ⟨{}, .empty, rfl⟩ clientRegister).isOk =
      true := by decide +kernel
  have hregistered : plainServer.RegisteredIn (⟨{}, .empty, rfl⟩, []) clientEvents "user@site"
      "password" := by
    refine ⟨[], _, _, rfl, ?_⟩
    cases hr : registerUser plainServer 0 (Uuid.ofNat 1) "" ⟨{}, .empty, rfl⟩ clientRegister with
    | error err =>
      rw [hr] at hok
      cases hok
    | ok r => exact .register hr
  have hread : plainServer.hashable "password" = true ∧ id "password" = id "password" :=
    ⟨by decide +kernel, rfl⟩
  exact (login_iff plainServer_documented {} rfl clientEvents 0 ⟨"user@site", "password"⟩).2
    ⟨"password", hregistered, hread⟩

end Midscale
