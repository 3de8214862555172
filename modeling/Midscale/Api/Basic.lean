import Midscale.Data.Dict
import Midscale.Data.Json
import Midscale.Data.SetOrder
import Midscale.Database.Schema

/-!
# Requests

What every request handler has in common: how it fails, what it gets from its environment, and
the queries that expect at most one row.  A handler is a function into `Except ApiError`; a
request that fails leaves the database as it was, because the session is rolled back.

The lemmas `bind_eq_ok`, `getOr_eq_ok`, `ensure_eq_ok` take a handler that succeeded apart, one
step at a time.
-/

namespace Midscale

/-- How a request fails: with an HTTP status and its detail, or with an exception that no handler
catches. -/
inductive ApiError where
  | http (status : ℕ) (detail : String)
  | internal (exception : String)
  deriving DecidableEq, Repr

/-- The functions of `app.core.security`, which rest on `jose`, `passlib` and `cryptography`.  What
they draw at random is an argument. -/
structure Security where
  /-- `decode_token` at a point in time: the payload of a token with a valid signature that has
  not expired. -/
  decodeToken : Timestamp → String → Option (Dict String Json)
  /-- `verify_password`, which may raise on a malformed hash. -/
  verifyPassword : String → String → Except String Bool
  /-- `hash_password` with a salt. -/
  hashPassword : String → String → String
  /-- `encrypt_private_key` with a nonce. -/
  encryptPrivateKey : String → String → String
  /-- `decrypt_private_key`, which raises on a text that is not a ciphertext. -/
  decryptPrivateKey : String → Except String String
  /-- `hashlib.sha256(text.encode()).hexdigest()`. -/
  sha256 : String → String

/-- What a request gets from the process it runs in. -/
structure Env where
  settings : Settings
  security : Security
  /-- `datetime.now(timezone.utc)`. -/
  now : Timestamp
  /-- The iteration order of a set of texts. -/
  setOrder : SetOrder String

/-- What `generate_keypair` returns. -/
structure KeyPair where
  privateKey : String
  publicKey : String
  deriving DecidableEq, Repr

/-- What a request draws at random. -/
structure Entropy where
  /-- `uuid.uuid4()` for the row that the request adds. -/
  rowId : Uuid
  /-- `uuid.uuid4()` for the server device of a new network. -/
  serverId : Uuid
  keyPair : KeyPair
  /-- The nonce of an encryption. -/
  nonce : String
  /-- `secrets.token_urlsafe(6)` of a device token. -/
  rawPrefix : String
  /-- `secrets.token_urlsafe(36)` of a device token. -/
  secret : String
  /-- The salt of a password hash. -/
  salt : String
  /-- `secrets.token_urlsafe(32)` of a pre-auth key. -/
  preauthText : String
  /-- `secrets.token_urlsafe(32)` of a relay session. -/
  relayToken : String := ""

/-- A stand-in for the security functions, for runs on concrete inputs: tokens are looked up in a
table, a hash or ciphertext is the marked plain text. -/
def plainSecurity (tokens : List (String × Dict String Json)) : Security where
  decodeToken _ token := (tokens.find? fun e => e.1 = token).map Prod.snd
  verifyPassword plain hashed := .ok (hashed = "hash:" ++ plain)
  hashPassword _ plain := "hash:" ++ plain
  encryptPrivateKey _ key := "enc:" ++ key
  decryptPrivateKey encrypted :=
    if encrypted.toList.take 4 = "enc:".toList then .ok (String.ofList (encrypted.toList.drop 4))
    else .error "InvalidToken"
  sha256 text := text

/-- An environment with these functions and without tokens. -/
def plainEnv : Env where
  settings := {}
  security := plainSecurity []
  now := 0
  setOrder := .dedup String

/-- `audit_logger.log`. -/
def Database.audit (db : Database) (entry : AuditLog) : Database :=
  { db with auditLogs := db.auditLogs ++ [entry] }

@[simp] theorem Database.audit_devices (db : Database) (entry : AuditLog) :
    (db.audit entry).devices = db.devices := rfl

section

variable {α β ε : Type}

/-- The value, or an error when there is none. -/
def getOr (e : ε) : Option α → Except ε α
  | some a => .ok a
  | none => .error e

/-- An error unless `p` holds. -/
def ensure (p : Prop) [Decidable p] (e : ε) : Except ε Unit := if p then .ok () else .error e

/-- `result.scalar_one_or_none()`. -/
def scalarOneOrNone : List α → Except ApiError (Option α)
  | [] => .ok none
  | [a] => .ok (some a)
  | _ :: _ :: _ => .error (.internal "MultipleResultsFound")

/-- `result.scalar_one()`, for a query by primary key. -/
def scalarOne (o : Option α) : Except ApiError α := getOr (.internal "NoResultFound") o

theorem bind_eq_ok {x : Except ε α} {f : α → Except ε β} {b : β} :
    (x >>= f) = .ok b ↔ ∃ a, x = .ok a ∧ f a = .ok b := by
  cases x with
  | error e => simp [bind, Except.bind]
  | ok a => simp [bind, Except.bind]

theorem map_eq_ok {x : Except ε α} {f : α → β} {b : β} :
    (f <$> x) = .ok b ↔ ∃ a, x = .ok a ∧ f a = b := by
  cases x with
  | error e => simp [Functor.map, Except.map]
  | ok a => simp [Functor.map, Except.map]

theorem snd_map_eq_ok {x : Except ε (α × β)} {b : β} :
    (Prod.snd <$> x) = .ok b ↔ ∃ a, x = .ok (a, b) := by
  cases x with
  | error e => simp [Functor.map, Except.map]
  | ok p => simp [Functor.map, Except.map, Prod.ext_iff]

@[simp] theorem ok_bind (a : α) (f : α → Except ε β) : ((.ok a : Except ε α) >>= f) = f a := rfl

theorem error_bind (e : ε) (f : α → Except ε β) :
    ((.error e : Except ε α) >>= f) = .error e := rfl

theorem getOr_eq_ok {e : ε} {o : Option α} {a : α} : getOr e o = .ok a ↔ o = some a := by
  cases o <;> simp [getOr]

theorem getOr_eq_error {e e' : ε} {o : Option α} : getOr e o = .error e' ↔ o = none ∧ e = e' := by
  cases o <;> simp [getOr]

theorem ensure_eq_ok {p : Prop} [Decidable p] {e : ε} {u : Unit} :
    ensure p e = .ok u ↔ p := by
  unfold ensure
  split_ifs with h <;> simp [h]

theorem ensure_eq_error {p : Prop} [Decidable p] {e e' : ε} :
    ensure p e = .error e' ↔ ¬ p ∧ e = e' := by
  unfold ensure
  split_ifs with h <;> simp [h]

theorem ensure_of {p : Prop} [Decidable p] {e : ε} (h : p) : ensure p e = .ok () := if_pos h

theorem scalarOneOrNone_eq_ok {l : List α} {o : Option α} :
    scalarOneOrNone l = .ok o ↔ (l = [] ∧ o = none) ∨ ∃ a, l = [a] ∧ o = some a := by
  match l with
  | [] => simp [scalarOneOrNone, eq_comm]
  | [a] => simp [scalarOneOrNone, eq_comm]
  | _ :: _ :: _ => simp [scalarOneOrNone]

theorem scalarOne_eq_ok {o : Option α} {a : α} : scalarOne o = .ok a ↔ o = some a := getOr_eq_ok

end

end Midscale
