import Midscale.Api.Requests
import Midscale.Run.Basic

/-!
# Device tokens

A device gets a token when it is enrolled and may rotate it.  The token is never stored: a row
keeps the prefix and the hash of the secret.  Beside the database runs the ledger of the tokens
that were issued, and the invariant `TokensSound` says that what a row stores is what the last
entry of its device in the ledger consists of.

* `Security.VerifiesExactly`, `FreshDraws` : what is assumed of the hash and of the random texts.
* `TokenEffect`, `TokenCall.serve_effect` : what a request does to stored and issued tokens.
* `TokensSound.step` : every request keeps the invariant.
* `tokens_exact` : **a device's last token authenticates, and nothing else but its secret does.**
-/

namespace Midscale

/-! ### The ledger -/

/-- `midscale_device_<prefix>_<secret>`. -/
def deviceToken (rawPrefix secret : String) : String := tokenPrefix ++ rawPrefix ++ "_" ++ secret

/-- A request of a user or a device, or a rotation of a token. -/
inductive TokenCall where
  | call (c : Call)
  | rotate (env : Env) (entropy : Entropy) (token : String) (deviceId : Uuid)

/-- The tokens issued so far, with the devices they were issued to. -/
abbrev Ledger := List (Uuid × String)

/-- The token most recently issued to a device. -/
def Ledger.latest (ledger : Ledger) (deviceId : Uuid) : Option String :=
  ((ledger.filter fun i => i.1 = deviceId).getLast?).map Prod.snd

/-- The token in the response to a request. -/
def Call.issued (c : Call) (db : Database) : Option (Uuid × String) :=
  match c.request with
  | .enrollDevice token id req =>
    match enrollDevice c.env c.entropy db token id req with
    | .ok (r, _) => some (r.deviceId, r.deviceToken)
    | .error _ => none
  | .enrollByKey req =>
    match enrollByKey c.env c.entropy db req with
    | .ok (r, _) => some (r.deviceId, r.deviceToken)
    | .error _ => none
  | _ => none

/-- One request, with the token it issues entered in the ledger. -/
def TokenCall.serve (s : Database × Ledger) (c : TokenCall) : Database × Ledger :=
  match c with
  | .call c => (Midscale.serve s.1 c, s.2 ++ (c.issued s.1).toList)
  | .rotate env e token deviceId =>
    match rotateDeviceToken env e s.1 token deviceId with
    | .ok (newToken, db) => (db, s.2 ++ [(deviceId, newToken)])
    | .error _ => s

def TokenCall.env : TokenCall → Env
  | .call c => c.env
  | .rotate env _ _ _ => env

def TokenCall.entropy : TokenCall → Entropy
  | .call c => c.entropy
  | .rotate _ e _ _ => e

/-- The hash verifies the text it was made from and no other; a hash is not empty. -/
structure Security.VerifiesExactly (security : Security) : Prop where
  verify : ∀ salt secret text,
    security.verifyPassword text (security.hashPassword salt secret) = .ok (decide (text = secret))
  hash_ne : ∀ salt secret, security.hashPassword salt secret ≠ ""

/-- The random texts have the length that `secrets.token_urlsafe` gives them. -/
structure Entropy.WellFormed (e : Entropy) : Prop where
  prefix_length : e.rawPrefix.toList.length = 8
  secret_length : e.secret.toList.length = 48

theorem Entropy.WellFormed.secret_ne {e : Entropy} (he : e.WellFormed) : e.secret ≠ "" := by
  intro hnil
  have hlen := he.secret_length
  rw [hnil] at hlen
  simp at hlen

/-- No two requests draw the same prefix or the same secret. -/
structure FreshDraws (es : List Entropy) : Prop where
  wellFormed : ∀ e ∈ es, e.WellFormed
  prefixes : (es.map (·.rawPrefix)).Nodup
  secrets : (es.map (·.secret)).Nodup

/-! ### Texts of tokens -/

theorem generateDeviceToken_eq {security : Security} {e : Entropy} (he : e.WellFormed) :
    generateDeviceToken security e =
      (deviceToken e.rawPrefix e.secret, e.rawPrefix, security.hashPassword e.salt e.secret) := by
  have htake : String.ofList (e.rawPrefix.toList.take 8) = e.rawPrefix := by
    rw [List.take_of_length_le he.prefix_length.le, String.ofList_toList]
  rw [generateDeviceToken, htake]
  rfl

theorem toList_deviceToken (rawPrefix secret : String) :
    (deviceToken rawPrefix secret).toList =
      tokenPrefix.toList ++ (rawPrefix.toList ++ '_' :: secret.toList) := by
  simp [deviceToken]

theorem deviceToken_inj {p p' s s' : String} (hp : p.toList.length = 8) (hp' : p'.toList.length = 8)
    (h : deviceToken p s = deviceToken p' s') : p = p' ∧ s = s' := by
  have hlist := congrArg String.toList h
  rw [toList_deviceToken, toList_deviceToken] at hlist
  obtain ⟨hpp, hss⟩ := List.append_inj (List.append_cancel_left hlist) (hp.trans hp'.symm)
  exact ⟨String.toList_injective hpp, String.toList_injective (List.cons.inj hss).2⟩

theorem deviceToken_ne_secret {p s s' : String} (hs : s.toList.length = s'.toList.length) :
    deviceToken p s ≠ s' := by
  intro h
  have hlen := congrArg (fun t => t.toList.length) h
  simp only [toList_deviceToken, List.length_append, List.length_cons] at hlen
  omega

theorem splitDeviceToken_deviceToken {p s : String} (hp : p.toList.length = 8) (hs : s ≠ "") :
    splitDeviceToken (deviceToken p s) = some (p, s) := by
  have hpre : tokenPrefix.toList.isPrefixOf (deviceToken p s).toList = true := by
    rw [List.isPrefixOf_iff_prefix, toList_deviceToken]
    exact List.prefix_append _ _
  have hdrop : (deviceToken p s).toList.drop tokenPrefix.length = p.toList ++ '_' :: s.toList := by
    rw [toList_deviceToken, ← String.length_toList, List.drop_left]
  have hlen : 0 < s.toList.length := by
    rw [List.length_pos_iff]
    exact fun h => hs (String.toList_injective h)
  unfold splitDeviceToken
  rw [if_pos hpre, hdrop]
  have htake : (p.toList ++ '_' :: s.toList).take 8 = p.toList := by
    rw [← hp, List.take_left]
  have hrest : (p.toList ++ '_' :: s.toList).drop 9 = s.toList := by
    rw [show 9 = p.toList.length + 1 by rw [hp], List.drop_append]
    simp
  have hcond : 9 < (p.toList ++ '_' :: s.toList).length ∧
      (p.toList ++ '_' :: s.toList)[8]? = some '_' := by
    constructor
    · rw [List.length_append, List.length_cons]
      omega
    · rw [← hp, List.getElem?_append_right le_rfl]
      simp
  simp only [if_pos hcond, htake, hrest, String.ofList_toList]

/-! ### What a request does to tokens -/

/-- The changes of stored tokens, with the token that is issued. -/
inductive TokenEffect (security : Security) (e : Entropy) (db db' : Database) :
    Option (Uuid × String) → Prop
  /-- The devices stay. -/
  | kept (hdevices : db'.devices = db.devices) : TokenEffect security e db db' none
  /-- A device without a token is added. -/
  | added {d : Device} (hinsert : db.devices.insert d = some db'.devices)
      (hhash : d.deviceTokenHash = none) (hpfx : d.deviceTokenPrefix = none) :
      TokenEffect security e db db' none
  /-- A device is added with the drawn token. -/
  | enrolled {d : Device} (hinsert : db.devices.insert d = some db'.devices)
      (hhash : d.deviceTokenHash = some (security.hashPassword e.salt e.secret))
      (hpfx : d.deviceTokenPrefix = some e.rawPrefix) :
      TokenEffect security e db db' (some (d.id, deviceToken e.rawPrefix e.secret))
  /-- A device is assigned to, its token stays. -/
  | assigned {now : Timestamp} {deviceId : Uuid} (f : Device → Device)
      {hf : ∀ d, (f d).id = d.id} (hhash : ∀ d, (f d).deviceTokenHash = d.deviceTokenHash)
      (hpfx : ∀ d, (f d).deviceTokenPrefix = d.deviceTokenPrefix)
      (hdevices : db'.devices = (db.assign now deviceId f hf).devices) :
      TokenEffect security e db db' none
  /-- A device gets the drawn secret, with the drawn prefix or its old one. -/
  | issued {now : Timestamp} {deviceId : Uuid} (f : Device → Device) {d : Device}
      {hf : ∀ d, (f d).id = d.id} {rawPrefix : String} (hd : db.devices.get? deviceId = some d)
      (hhash : (f d).deviceTokenHash = some (security.hashPassword e.salt e.secret))
      (hpfx : (f d).deviceTokenPrefix = some rawPrefix)
      (hdrawn : rawPrefix = e.rawPrefix ∨ d.deviceTokenPrefix = some rawPrefix)
      (hdevices : db'.devices = (db.assign now deviceId f hf).devices) :
      TokenEffect security e db db' (some (deviceId, deviceToken rawPrefix e.secret))

theorem Call.issued_enrollDevice {env : Env} {e : Entropy} {db db' : Database} {token : String}
    {deviceId : Uuid} {req : EnrollRequest} {r : EnrollResponse}
    (h : enrollDevice env e db token deviceId req = .ok (r, db')) :
    Call.issued ⟨env, e, .enrollDevice token deviceId req⟩ db =
      some (r.deviceId, r.deviceToken) := by
  simp only [issued, h]

theorem Call.issued_enrollByKey {env : Env} {e : Entropy} {db db' : Database}
    {req : EnrollByKeyRequest} {r : EnrollByKeyResponse}
    (h : enrollByKey env e db req = .ok (r, db')) :
    Call.issued ⟨env, e, .enrollByKey req⟩ db = some (r.deviceId, r.deviceToken) := by
  simp only [issued, h]

/-- A user's or a device's request that succeeds. -/
theorem Call.handle_tokens {c : Call} (he : c.entropy.WellFormed) {db db' : Database}
    (hok : c.handle db = .ok db') :
    TokenEffect c.env.security c.entropy db db' (c.issued db) := by
  obtain ⟨env, e, request⟩ := c
  unfold handle at hok
  cases request with
  | createNetwork token req =>
    obtain ⟨network, hok⟩ := snd_map_eq_ok.1 hok
    obtain ⟨user, net, ip, networks, devices, -, -, -, rfl, -, hdevices, rfl⟩ :=
      createNetwork_eq_ok hok
    exact .added hdevices rfl rfl
  | updateNetwork token networkId req =>
    obtain ⟨network, hok⟩ := snd_map_eq_ok.1 hok
    obtain ⟨user, n, -, -, rfl⟩ := updateNetwork_eq_ok hok
    exact .kept rfl
  | createPreauthKey token networkId req =>
    obtain ⟨key, hok⟩ := snd_map_eq_ok.1 hok
    obtain ⟨user, n, keys, -, -, rfl, -, rfl⟩ := createPreauthKey_eq_ok hok
    exact .kept rfl
  | createDevice token networkId req =>
    obtain ⟨device, hok⟩ := snd_map_eq_ok.1 hok
    obtain ⟨user, network, ip, devices, -, -, -, rfl, hdevices, rfl⟩ := createDevice_eq_ok hok
    exact .added hdevices rfl rfl
  | createNodeDevice token networkId req =>
    obtain ⟨device, hok⟩ := snd_map_eq_ok.1 hok
    obtain ⟨user, network, ip, devices, -, -, -, rfl, hdevices, rfl⟩ := createNodeDevice_eq_ok hok
    exact .added hdevices rfl rfl
  | registerDevice req =>
    obtain ⟨device, hok⟩ := snd_map_eq_ok.1 hok
    obtain ⟨preauth, network, ip, devices, -, -, -, rfl, hdevices, rfl⟩ := registerDevice_eq_ok hok
    exact .added hdevices rfl rfl
  | updateDevice token deviceId req =>
    obtain ⟨device, hok⟩ := snd_map_eq_ok.1 hok
    obtain ⟨user, d, -, -, -, rfl⟩ := updateDevice_eq_ok hok
    exact .assigned req.apply (fun _ => rfl) (fun _ => rfl) (Database.audit_devices ..)
  | revokeDevice token deviceId =>
    obtain ⟨_, hok⟩ := snd_map_eq_ok.1 hok
    obtain ⟨user, d, -, -, -, rfl⟩ := revokeDevice_eq_ok hok
    exact .assigned (Device.revoked env.now) (fun _ => rfl) (fun _ => rfl)
      (Database.audit_devices ..)
  | heartbeat token deviceId req =>
    obtain ⟨response, hok⟩ := snd_map_eq_ok.1 hok
    obtain ⟨d, -, rfl⟩ := deviceHeartbeat_eq_ok hok
    exact .assigned (req.apply env.now) (fun _ => rfl) (fun _ => rfl) rfl
  | enrollByKey req =>
    obtain ⟨r, hok⟩ := snd_map_eq_ok.1 hok
    obtain ⟨preauth, network, ip, devices, -, -, -, -, hdevices, hid, htoken, rfl⟩ :=
      enrollByKey_eq_ok hok
    rw [generateDeviceToken_eq he] at htoken
    rw [issued_enrollByKey hok, hid, htoken]
    refine .enrolled (d := req.row env e preauth.networkId ip) hdevices ?_ ?_
    · rw [EnrollByKeyRequest.row, generateDeviceToken_eq he]
    · rw [EnrollByKeyRequest.row, generateDeviceToken_eq he]
  | enrollDevice token deviceId req =>
    obtain ⟨r, hok⟩ := snd_map_eq_ok.1 hok
    obtain ⟨user, d, -, hd, -, -, -, hr, rfl⟩ := enrollDevice_eq_ok hok
    rw [generateDeviceToken_eq he] at hr
    rw [issued_enrollDevice hok, hr]
    refine .issued (req.apply env e) hd ?_ ?_ (.inl rfl) (Database.audit_devices ..)
    · rw [EnrollRequest.apply, generateDeviceToken_eq he]
    · rw [EnrollRequest.apply, generateDeviceToken_eq he]

theorem rotateDeviceToken_tokens {env : Env} {e : Entropy} (he : e.WellFormed) {db db' : Database}
    {token newToken : String} {deviceId : Uuid}
    (hok : rotateDeviceToken env e db token deviceId = .ok (newToken, db')) :
    TokenEffect env.security e db db' (some (deviceId, newToken)) := by
  obtain ⟨d, -, hd, rfl, rfl⟩ := rotateDeviceToken_eq_ok hok
  by_cases hpfx : truthy d.deviceTokenPrefix = true
  · obtain ⟨rawPrefix, hraw⟩ : ∃ rawPrefix, d.deviceTokenPrefix = some rawPrefix := by
      cases hnone : d.deviceTokenPrefix with
      | none => simp [hnone, truthy] at hpfx
      | some rawPrefix => exact ⟨rawPrefix, rfl⟩
    have hkept : (Device.rotated env.security e d).deviceTokenPrefix = some rawPrefix := by
      rw [Device.rotated, generateDeviceToken_eq he]
      exact (if_pos hpfx).trans hraw
    rw [hkept]
    refine .issued (Device.rotated env.security e) hd ?_ hkept (.inr hraw) rfl
    rw [Device.rotated, generateDeviceToken_eq he]
  · have hdrawn : (Device.rotated env.security e d).deviceTokenPrefix = some e.rawPrefix := by
      rw [Device.rotated, generateDeviceToken_eq he]
      exact if_neg hpfx
    rw [hdrawn]
    refine .issued (Device.rotated env.security e) hd ?_ hdrawn (.inl rfl) rfl
    rw [Device.rotated, generateDeviceToken_eq he]

theorem Call.issued_of_error {c : Call} {db : Database} {err : ApiError}
    (h : c.handle db = .error err) : c.issued db = none := by
  obtain ⟨env, e, request⟩ := c
  cases request with
  | enrollDevice token deviceId req =>
    cases hr : enrollDevice env e db token deviceId req with
    | error err => simp only [issued, hr]
    | ok p => simp [handle, hr, Functor.map, Except.map] at h
  | enrollByKey req =>
    cases hr : enrollByKey env e db req with
    | error err => simp only [issued, hr]
    | ok p => simp [handle, hr, Functor.map, Except.map] at h
  | _ => rfl

/-- **What a request does to tokens**, and what it adds to the ledger. -/
theorem TokenCall.serve_effect {c : TokenCall} (he : c.entropy.WellFormed)
    (s : Database × Ledger) : ∃ i : Option (Uuid × String),
      TokenEffect c.env.security c.entropy s.1 (c.serve s).1 i ∧
        (c.serve s).2 = s.2 ++ i.toList := by
  cases c with
  | call c =>
    refine ⟨c.issued s.1, ?_, rfl⟩
    cases hok : c.handle s.1 with
    | ok db =>
      have hserve : ((call c).serve s).1 = db := by rw [serve, Midscale.serve, hok]
      rw [hserve]
      exact c.handle_tokens he hok
    | error err =>
      rw [Call.issued_of_error hok]
      exact .kept (by simp [serve, Midscale.serve, hok])
  | rotate env e token deviceId =>
    cases hok : rotateDeviceToken env e s.1 token deviceId with
    | ok r =>
      obtain ⟨newToken, db⟩ := r
      have hserve :
          (rotate env e token deviceId).serve s = (db, s.2 ++ [(deviceId, newToken)]) := by
        rw [serve, hok]
      rw [hserve]
      exact ⟨some (deviceId, newToken), rotateDeviceToken_tokens he hok, rfl⟩
    | error err => exact ⟨none, .kept (by simp [serve, hok]), by simp [serve, hok]⟩

/-! ### The invariant -/

namespace Ledger

variable {ledger : Ledger}

theorem latest_append_self (ledger : Ledger) (deviceId : Uuid) (t : String) :
    latest (ledger ++ [(deviceId, t)]) deviceId = some t := by
  simp [latest]

theorem latest_append_of_ne {deviceId id : Uuid} (t : String) (h : id ≠ deviceId) :
    latest (ledger ++ [(deviceId, t)]) id = ledger.latest id := by
  simp [latest, Ne.symm h]

theorem latest_eq_none {deviceId : Uuid} (h : ∀ i ∈ ledger, i.1 ≠ deviceId) :
    ledger.latest deviceId = none := by
  have hnil : ledger.filter (fun i => i.1 = deviceId) = [] := by simpa using h
  rw [latest, hnil]
  rfl

theorem mem_of_latest {deviceId : Uuid} {t : String} (h : ledger.latest deviceId = some t) :
    (deviceId, t) ∈ ledger := by
  obtain ⟨⟨id, t'⟩, hlast, rfl⟩ := Option.map_eq_some_iff.1 h
  obtain ⟨hmem, hid⟩ := List.mem_filter.1 (List.mem_of_getLast? hlast)
  exact of_decide_eq_true hid ▸ hmem

end Ledger

/-- What a row stores of the token last issued to its device. -/
inductive Credential (security : Security) (drawn : List Entropy) (d : Device) :
    Option String → Prop
  | none (hhash : d.deviceTokenHash = none) (hpfx : d.deviceTokenPrefix = none) :
      Credential security drawn d none
  | token {e e' : Entropy} (he : e ∈ drawn) (he' : e' ∈ drawn)
      (hpfx : d.deviceTokenPrefix = some e.rawPrefix)
      (hhash : d.deviceTokenHash = some (security.hashPassword e'.salt e'.secret)) :
      Credential security drawn d (some (deviceToken e.rawPrefix e'.secret))

/-- The rows and the ledger agree, on texts that were drawn. -/
structure TokensSound (security : Security) (drawn : List Entropy) (s : Database × Ledger) :
    Prop where
  stored : ∀ d ∈ s.1.devices, Credential security drawn d (s.2.latest d.id)
  prefix_unique : ∀ d ∈ s.1.devices, ∀ d' ∈ s.1.devices, ∀ p, d.deviceTokenPrefix = some p →
    d'.deviceTokenPrefix = some p → d = d'
  known : ∀ i ∈ s.2, (∃ d ∈ s.1.devices, d.id = i.1) ∧
    ∃ e ∈ drawn, ∃ e' ∈ drawn, i.2 = deviceToken e.rawPrefix e'.secret
  nodup : (s.2.map Prod.snd).Nodup

section

variable {security : Security} {drawn : List Entropy}

theorem Credential.mono {d : Device} {t : Option String} (h : Credential security drawn d t)
    (e : Entropy) : Credential security (drawn ++ [e]) d t := by
  cases h with
  | none hhash hpfx => exact .none hhash hpfx
  | token he he' hpfx hhash =>
    exact .token (List.mem_append_left _ he) (List.mem_append_left _ he') hpfx hhash

/-- Only the two columns of a row matter. -/
theorem Credential.congr {d d' : Device} {t : Option String} (h : Credential security drawn d t)
    (hhash : d'.deviceTokenHash = d.deviceTokenHash)
    (hpfx : d'.deviceTokenPrefix = d.deviceTokenPrefix) : Credential security drawn d' t := by
  cases h with
  | none h h' => exact .none (hhash.trans h) (hpfx.trans h')
  | token he he' h' h => exact .token he he' (hpfx.trans h') (hhash.trans h)

theorem Credential.prefix_drawn {d : Device} {t : Option String}
    (h : Credential security drawn d t) {p : String} (hp : d.deviceTokenPrefix = some p) :
    ∃ e ∈ drawn, p = e.rawPrefix := by
  cases h with
  | none _ hpfx => simp [hpfx] at hp
  | token he _ hpfx _ =>
    rw [hpfx, Option.some.injEq] at hp
    exact ⟨_, he, hp.symm⟩

section

variable {s : Database × Ledger} {e : Entropy} {db : Database}

theorem TokensSound.token_new (h : TokensSound security drawn s)
    (hdrawn : ∀ e' ∈ drawn, e'.WellFormed ∧ e'.secret ≠ e.secret) {p : String}
    (hp : p.toList.length = 8) : deviceToken p e.secret ∉ s.2.map Prod.snd := by
  intro hmem
  obtain ⟨i, hi, heq⟩ := List.mem_map.1 hmem
  obtain ⟨-, e₁, he₁, e₂, he₂, htoken⟩ := h.known i hi
  have hsecret := (deviceToken_inj (hdrawn e₁ he₁).1.prefix_length hp (htoken.symm.trans heq)).2
  exact (hdrawn e₂ he₂).2 hsecret

theorem TokensSound.known_mono (h : TokensSound security drawn s)
    (hids : ∀ d ∈ s.1.devices, ∃ d' ∈ db.devices, d'.id = d.id) :
    ∀ i ∈ s.2, (∃ d ∈ db.devices, d.id = i.1) ∧
      ∃ e₁ ∈ drawn ++ [e], ∃ e₂ ∈ drawn ++ [e], i.2 = deviceToken e₁.rawPrefix e₂.secret := by
  intro i hi
  obtain ⟨⟨d, hd, hid⟩, e₁, he₁, e₂, he₂, htoken⟩ := h.known i hi
  obtain ⟨d', hd', hid'⟩ := hids d hd
  exact ⟨⟨d', hd', hid'.trans hid⟩, e₁, List.mem_append_left _ he₁, e₂, List.mem_append_left _ he₂,
    htoken⟩

theorem TokensSound.ledger_concat (h : TokensSound security drawn s) (he : e.WellFormed)
    (hdrawn : ∀ e' ∈ drawn, e'.WellFormed ∧ e'.secret ≠ e.secret)
    (hids : ∀ d ∈ s.1.devices, ∃ d' ∈ db.devices, d'.id = d.id) {deviceId : Uuid}
    (hdevice : ∃ d ∈ db.devices, d.id = deviceId) {p : String}
    (hp : ∃ e' ∈ drawn ++ [e], p = e'.rawPrefix) :
    (∀ i ∈ s.2 ++ [(deviceId, deviceToken p e.secret)], (∃ d ∈ db.devices, d.id = i.1) ∧
      ∃ e₁ ∈ drawn ++ [e], ∃ e₂ ∈ drawn ++ [e], i.2 = deviceToken e₁.rawPrefix e₂.secret) ∧
    ((s.2 ++ [(deviceId, deviceToken p e.secret)]).map Prod.snd).Nodup := by
  obtain ⟨e', he', rfl⟩ := hp
  have hlength : e'.rawPrefix.toList.length = 8 := by
    rcases List.mem_append.1 he' with hold | hnew
    · exact (hdrawn e' hold).1.prefix_length
    · exact List.mem_singleton.1 hnew ▸ he.prefix_length
  constructor
  · intro i hi
    rcases List.mem_append.1 hi with hi | hi
    · exact h.known_mono hids i hi
    · obtain rfl := List.mem_singleton.1 hi
      exact ⟨hdevice, e', he', e, by simp, rfl⟩
  · rw [List.map_append, List.map_singleton]
    exact h.nodup.append (List.nodup_singleton _)
      (List.disjoint_singleton.2 (h.token_new hdrawn hlength))

theorem TokensSound.latest_of_insert (h : TokensSound security drawn s) {d : Device}
    {t : Table Device} (hinsert : s.1.devices.insert d = some t) : s.2.latest d.id = none := by
  refine Ledger.latest_eq_none fun i hi hid => ?_
  obtain ⟨⟨d', hd', hid'⟩, -⟩ := h.known i hi
  exact (Table.insert_eq_some hinsert).2 d' hd' (hid'.trans hid)

theorem ids_of_insert {t : Table Device} {d : Device} (hinsert : s.1.devices.insert d = some t) :
    ∀ d' ∈ s.1.devices, ∃ d'' ∈ t, d''.id = d'.id :=
  fun d' hd' => ⟨d', (Table.mem_insert hinsert).2 (.inl hd'), rfl⟩

theorem ids_of_assign (now : Timestamp) (deviceId : Uuid) {f : Device → Device}
    (hf : ∀ d, (f d).id = d.id) :
    ∀ d ∈ s.1.devices, ∃ d' ∈ (s.1.assign now deviceId f hf).devices, d'.id = d.id := by
  intro d hd
  refine ⟨_, Database.mem_assign.2 ⟨d, hd, rfl⟩, ?_⟩
  split_ifs
  · rw [Device.flushed_id, hf]
  · rfl

theorem TokensSound.prefix_unique_assign (h : TokensSound security drawn s) {now : Timestamp}
    {deviceId : Uuid} {f : Device → Device} {hf : ∀ d, (f d).id = d.id}
    (hpfx : ∀ d ∈ s.1.devices, d.id = deviceId →
      (f d).deviceTokenPrefix = d.deviceTokenPrefix ∨
        ∀ d' ∈ s.1.devices, d'.deviceTokenPrefix ≠ (f d).deviceTokenPrefix) :
    ∀ d ∈ (s.1.assign now deviceId f hf).devices, ∀ d' ∈ (s.1.assign now deviceId f hf).devices,
      ∀ p, d.deviceTokenPrefix = some p → d'.deviceTokenPrefix = some p → d = d' := by
  intro d hd d' hd' p hp hp'
  obtain ⟨r, hr, rfl⟩ := Database.mem_assign.1 hd
  obtain ⟨r', hr', rfl⟩ := Database.mem_assign.1 hd'
  have hcol : ∀ r : Device, (r.flushed now f).deviceTokenPrefix = (f r).deviceTokenPrefix :=
    fun r => r.flushed_column now f Device.deviceTokenPrefix fun _ _ => rfl
  have hsame : r = r' := by
    split_ifs at hp hp' with hid hid' hid'
    · exact s.1.devices.eq_of_pk hr hr' (hid.trans hid'.symm)
    · rw [hcol] at hp
      rcases hpfx r hr hid with hkept | hnew
      · exact h.prefix_unique r hr r' hr' p (hkept ▸ hp) hp'
      · exact absurd (hp'.trans hp.symm) (hnew r' hr')
    · rw [hcol] at hp'
      rcases hpfx r' hr' hid' with hkept | hnew
      · exact h.prefix_unique r hr r' hr' p hp (hkept ▸ hp')
      · exact absurd (hp.trans hp'.symm) (hnew r hr)
    · exact h.prefix_unique r hr r' hr' p hp hp'
  rw [hsame]

theorem TokensSound.added (h : TokensSound security drawn s) {d : Device}
    (hinsert : s.1.devices.insert d = some db.devices) (hhash : d.deviceTokenHash = none)
    (hpfx : d.deviceTokenPrefix = none) : TokensSound security (drawn ++ [e]) (db, s.2) where
  stored := fun d' hd' => by
    rcases (Table.mem_insert hinsert).1 hd' with hold | rfl
    · exact (h.stored d' hold).mono e
    · rw [h.latest_of_insert hinsert]
      exact .none hhash hpfx
  prefix_unique := fun r hr r' hr' p hp hp' => by
    rcases (Table.mem_insert hinsert).1 hr with hr | rfl
    · rcases (Table.mem_insert hinsert).1 hr' with hr' | rfl
      · exact h.prefix_unique r hr r' hr' p hp hp'
      · simp [hpfx] at hp'
    · simp [hpfx] at hp
  known := h.known_mono (ids_of_insert hinsert)
  nodup := h.nodup

theorem TokensSound.enrolled (h : TokensSound security drawn s) (he : e.WellFormed)
    (hdrawn : ∀ e' ∈ drawn, e'.WellFormed ∧ e'.secret ≠ e.secret)
    (hnew : ∀ e' ∈ drawn, e'.rawPrefix ≠ e.rawPrefix) {d : Device}
    (hinsert : s.1.devices.insert d = some db.devices)
    (hhash : d.deviceTokenHash = some (security.hashPassword e.salt e.secret))
    (hpfx : d.deviceTokenPrefix = some e.rawPrefix) :
    TokensSound security (drawn ++ [e])
      (db, s.2 ++ [(d.id, deviceToken e.rawPrefix e.secret)]) := by
  have hledger := h.ledger_concat he hdrawn (ids_of_insert hinsert)
    ⟨d, (Table.mem_insert hinsert).2 (.inr rfl), rfl⟩ ⟨e, by simp, rfl⟩
  have hother : ∀ r ∈ s.1.devices, r.deviceTokenPrefix ≠ some e.rawPrefix := by
    intro r hr hp
    obtain ⟨e', he', hraw⟩ := (h.stored r hr).prefix_drawn hp
    exact hnew e' he' hraw.symm
  exact {
    stored := fun d' hd' => by
      dsimp only
      rcases (Table.mem_insert hinsert).1 hd' with hold | rfl
      · have hne : d'.id ≠ d.id := (Table.insert_eq_some hinsert).2 d' hold
        rw [Ledger.latest_append_of_ne _ hne]
        exact (h.stored d' hold).mono e
      · rw [Ledger.latest_append_self]
        exact .token (by simp) (by simp) hpfx hhash
    prefix_unique := fun r hr r' hr' p hp hp' => by
      rcases (Table.mem_insert hinsert).1 hr with hold | rfl
      · rcases (Table.mem_insert hinsert).1 hr' with hold' | rfl
        · exact h.prefix_unique r hold r' hold' p hp hp'
        · exact absurd (hp.trans (hp'.symm.trans hpfx)) (hother r hold)
      · rcases (Table.mem_insert hinsert).1 hr' with hold' | rfl
        · exact absurd (hp'.trans (hp.symm.trans hpfx)) (hother r' hold')
        · rfl
    known := hledger.1
    nodup := hledger.2 }

theorem TokensSound.assigned (h : TokensSound security drawn s) {now : Timestamp}
    {deviceId : Uuid} {f : Device → Device} {hf : ∀ d, (f d).id = d.id}
    (hhash : ∀ d, (f d).deviceTokenHash = d.deviceTokenHash)
    (hpfx : ∀ d, (f d).deviceTokenPrefix = d.deviceTokenPrefix)
    (hdevices : db.devices = (s.1.assign now deviceId f hf).devices) :
    TokensSound security (drawn ++ [e]) (db, s.2) where
  stored := fun d' hd' => by
    rw [hdevices] at hd'
    obtain ⟨d, hd, rfl⟩ := Database.mem_assign.1 hd'
    split_ifs with hid
    · rw [Device.flushed_id, hf]
      refine ((h.stored d hd).mono e).congr ?_ ?_
      · exact (d.flushed_column now f Device.deviceTokenHash fun _ _ => rfl).trans (hhash d)
      · exact (d.flushed_column now f Device.deviceTokenPrefix fun _ _ => rfl).trans (hpfx d)
    · exact (h.stored d hd).mono e
  prefix_unique := by
    rw [hdevices]
    exact h.prefix_unique_assign fun d _ _ => .inl (hpfx d)
  known := h.known_mono (hdevices ▸ ids_of_assign now deviceId hf)
  nodup := h.nodup

theorem TokensSound.issued (h : TokensSound security drawn s) (he : e.WellFormed)
    (hdrawn : ∀ e' ∈ drawn, e'.WellFormed ∧ e'.secret ≠ e.secret)
    (hnew : ∀ e' ∈ drawn, e'.rawPrefix ≠ e.rawPrefix) {now : Timestamp} {deviceId : Uuid}
    {f : Device → Device} {d : Device} {hf : ∀ d, (f d).id = d.id} {rawPrefix : String}
    (hd : s.1.devices.get? deviceId = some d)
    (hhash : (f d).deviceTokenHash = some (security.hashPassword e.salt e.secret))
    (hpfx : (f d).deviceTokenPrefix = some rawPrefix)
    (hp : rawPrefix = e.rawPrefix ∨ d.deviceTokenPrefix = some rawPrefix)
    (hdevices : db.devices = (s.1.assign now deviceId f hf).devices) :
    TokensSound security (drawn ++ [e])
      (db, s.2 ++ [(deviceId, deviceToken rawPrefix e.secret)]) := by
  obtain ⟨hmem, hid⟩ := Table.get?_eq_some_iff.1 hd
  have hraw : ∃ e' ∈ drawn ++ [e], rawPrefix = e'.rawPrefix := by
    rcases hp with rfl | hp
    · exact ⟨e, by simp, rfl⟩
    · obtain ⟨e', he', heq⟩ := (h.stored d hmem).prefix_drawn hp
      exact ⟨e', List.mem_append_left _ he', heq⟩
  have hids := ids_of_assign (s := s) now deviceId hf
  rw [← hdevices] at hids
  have hdevice : ∃ d' ∈ db.devices, d'.id = deviceId := by
    obtain ⟨d', hd', hid'⟩ := hids d hmem
    exact ⟨d', hd', hid'.trans hid⟩
  have hledger := h.ledger_concat he hdrawn hids hdevice hraw
  -- the row of the id is the one that is assigned to
  have hrow : ∀ r ∈ s.1.devices, r.id = deviceId → r = d := fun r hr hrid =>
    s.1.devices.eq_of_pk hr hmem (hrid.trans hid.symm)
  exact {
    stored := fun d' hd' => by
      dsimp only at hd' ⊢
      rw [hdevices] at hd'
      obtain ⟨r, hr, rfl⟩ := Database.mem_assign.1 hd'
      split_ifs with hrid
      · obtain rfl := hrow r hr hrid
        rw [Device.flushed_id, hf, hrid, Ledger.latest_append_self]
        obtain ⟨e', he', rfl⟩ := hraw
        refine .token he' (List.mem_append_right _ (List.mem_singleton_self e)) ?_ ?_
        · exact (r.flushed_column now f Device.deviceTokenPrefix fun _ _ => rfl).trans hpfx
        · exact (r.flushed_column now f Device.deviceTokenHash fun _ _ => rfl).trans hhash
      · rw [Ledger.latest_append_of_ne _ hrid]
        exact (h.stored r hr).mono e
    prefix_unique := by
      rw [hdevices]
      refine h.prefix_unique_assign fun r hr hrid => ?_
      obtain rfl := hrow r hr hrid
      rcases hp with rfl | hp
      · right
        intro r' hr' heq
        obtain ⟨e', he', hraw'⟩ := (h.stored r' hr').prefix_drawn (heq.trans hpfx)
        exact hnew e' he' hraw'.symm
      · exact .inl (hpfx.trans hp.symm)
    known := hledger.1
    nodup := hledger.2 }

/-- **Every request keeps the invariant**, whatever it draws, as long as that is new. -/
theorem TokensSound.step (h : TokensSound security drawn s) {c : TokenCall}
    (hsecurity : c.env.security = security) (he : c.entropy.WellFormed)
    (hdrawn : ∀ e' ∈ drawn, e'.WellFormed ∧ e'.secret ≠ c.entropy.secret)
    (hnew : ∀ e' ∈ drawn, e'.rawPrefix ≠ c.entropy.rawPrefix) :
    TokensSound security (drawn ++ [c.entropy]) (c.serve s) := by
  obtain ⟨i, heffect, hledger⟩ := TokenCall.serve_effect he s
  rw [hsecurity] at heffect
  have hserve : c.serve s = ((c.serve s).1, s.2 ++ i.toList) := Prod.ext rfl hledger
  rw [hserve]
  cases heffect with
  | kept hdevices =>
    rw [Option.toList_none, List.append_nil]
    exact {
      stored := fun d hd => (h.stored d (hdevices ▸ hd)).mono c.entropy
      prefix_unique := by
        rw [hdevices]
        exact h.prefix_unique
      known := h.known_mono (hdevices ▸ fun d hd => ⟨d, hd, rfl⟩)
      nodup := h.nodup }
  | added hinsert hhash hpfx =>
    rw [Option.toList_none, List.append_nil]
    exact h.added hinsert hhash hpfx
  | enrolled hinsert hhash hpfx => exact h.enrolled he hdrawn hnew hinsert hhash hpfx
  | assigned f hhash hpfx hdevices =>
    rw [Option.toList_none, List.append_nil]
    exact h.assigned hhash hpfx hdevices
  | issued f hd hhash hpfx hp hdevices =>
    exact h.issued he hdrawn hnew hd hhash hpfx hp hdevices

end

end

/-! ### Runs -/

section

variable {security : Security} {db : Database} {calls : List TokenCall}

/-- **The invariant of runs.** -/
theorem tokensSound_run (hempty : db.devices = .empty)
    (hcalls : ∀ c ∈ calls, c.env.security = security)
    (hfresh : FreshDraws (calls.map TokenCall.entropy)) :
    TokensSound security (calls.map TokenCall.entropy) (run TokenCall.serve (db, []) calls) := by
  induction calls using List.reverseRecOn with
  | nil =>
    have hno : ∀ d, d ∉ db.devices := by
      rw [hempty]
      exact fun d => List.not_mem_nil
    exact {
      stored := fun d hd => absurd hd (hno d)
      prefix_unique := fun d hd => absurd hd (hno d)
      known := fun i hi => absurd hi List.not_mem_nil
      nodup := List.nodup_nil }
  | append_singleton calls c ih =>
    obtain ⟨hwell, hprefixes, hsecrets⟩ := hfresh
    rw [List.map_append, List.map_singleton] at hwell hprefixes hsecrets ⊢
    rw [List.map_append, List.map_singleton, List.nodup_append] at hprefixes hsecrets
    have hold := ih (fun c' hc' => hcalls c' (List.mem_append_left _ hc'))
      ⟨fun e he => hwell e (List.mem_append_left _ he), hprefixes.1, hsecrets.1⟩
    rw [run_concat]
    refine hold.step (hcalls c (by simp)) (hwell _ (by simp)) (fun e he => ⟨?_, ?_⟩) fun e he => ?_
    · exact hwell e (List.mem_append_left _ he)
    · exact hsecrets.2.2 e.secret (List.mem_map_of_mem he) _ (List.mem_singleton_self _)
    · exact hprefixes.2.2 e.rawPrefix (List.mem_map_of_mem he) _ (List.mem_singleton_self _)

end

section

variable {security : Security} {drawn : List Entropy} {s : Database × Ledger} {env : Env}

theorem TokensSound.latest_authenticates (h : TokensSound security drawn s)
    (hdrawn : ∀ e ∈ drawn, e.WellFormed) (hsecurity : env.security.VerifiesExactly)
    (henv : env.security = security) {d : Device} (hd : d ∈ s.1.devices) {t : String}
    (ht : s.2.latest d.id = some t) (hactive : d.isActive = true)
    (hstatus : d.enrollmentStatus ∉ ["revoked", "expired", "pending"]) :
    lookupDeviceByToken env s.1 t = .ok (some d) := by
  have hstored := h.stored d hd
  rw [ht] at hstored
  cases hstored with
  | @token e e' he he' hpfx hhash =>
    rw [lookupDeviceByToken_eq_some]
    refine ⟨hstatus, .inl ?_⟩
    -- the prefix selects this one row
    have hselect : (s.1.devices.select fun d' =>
        d'.deviceTokenPrefix = some e.rawPrefix ∧ d'.isActive) = [d] := by
      refine Table.select_eq_singleton hd (decide_eq_true ⟨hpfx, hactive⟩) fun d' hd' hp' => ?_
      exact h.prefix_unique d' hd' d hd _ (of_decide_eq_true hp').1 hpfx
    have hverify : d.verifySecret env e'.secret = .ok true := by
      refine verifySecret_eq_true.2 ⟨_, hhash, ?_, ?_⟩
      · exact henv ▸ hsecurity.hash_ne _ _
      · rw [← henv, hsecurity.verify, decide_eq_true rfl]
    rw [deviceByPrefix, splitDeviceToken_deviceToken (hdrawn e he).prefix_length
      (hdrawn e' he').secret_ne]
    simp only [hselect, scalarOneOrNone, ok_bind, hverify, if_true]

/-- A device is found only by its last token or by the secret of it. -/
theorem TokensSound.of_authenticated (h : TokensSound security drawn s)
    (hsecurity : env.security.VerifiesExactly)
    (henv : env.security = security) {d : Device} {t : String}
    (ht : lookupDeviceByToken env s.1 t = .ok (some d)) : ∃ e ∈ drawn, ∃ e' ∈ drawn,
      s.2.latest d.id = some (deviceToken e.rawPrefix e'.secret) ∧
        (t = deviceToken e.rawPrefix e'.secret ∨ t = e'.secret) := by
  have hstored := h.stored d (lookupDeviceByToken_mem ht)
  have hsome : ∀ hash, d.deviceTokenHash = some hash → ∃ e ∈ drawn, ∃ e' ∈ drawn,
      d.deviceTokenPrefix = some e.rawPrefix ∧ hash = security.hashPassword e'.salt e'.secret ∧
        s.2.latest d.id = some (deviceToken e.rawPrefix e'.secret) := by
    intro hash hhash
    generalize hlatest : s.2.latest d.id = latest at hstored
    cases hstored with
    | none hnone _ => simp [hnone] at hhash
    | token he he' hpfx hhash' =>
      rw [hhash', Option.some.injEq] at hhash
      exact ⟨_, he, _, he', hpfx, hhash.symm, rfl⟩
  have hverified : ∀ {e' : Entropy} {text : String}, env.security.verifyPassword text
      (security.hashPassword e'.salt e'.secret) = .ok true → text = e'.secret := by
    intro e' text hv
    rw [← henv, hsecurity.verify, Except.ok.injEq] at hv
    exact of_decide_eq_true hv
  obtain ⟨-, hfound⟩ := lookupDeviceByToken_eq_some.1 ht
  rcases hfound with hpre | ⟨-, hscan⟩
  · obtain ⟨-, -, hash, hhash, htoken⟩ := deviceByPrefix_eq_some hpre
    obtain ⟨e, he, e', he', hpfx, rfl, hlatest⟩ := hsome hash hhash
    rw [hpfx] at htoken
    obtain ⟨secret, rfl, hv⟩ := htoken
    obtain rfl := hverified hv
    exact ⟨e, he, e', he', hlatest, .inl rfl⟩
  · obtain ⟨-, hsecret⟩ := deviceByScan_eq_some hscan
    obtain ⟨hash, hhash, -, hv⟩ := verifySecret_eq_true.1 hsecret
    obtain ⟨e, he, e', he', -, rfl, hlatest⟩ := hsome hash hhash
    exact ⟨e, he, e', he', hlatest, .inr (hverified hv)⟩

end

/-- **Device tokens are exact.**  After every run from an empty device table, the token last issued
to a device authenticates it whenever its status allows; what authenticates a device is its last
token or the bare secret of it; and no superseded token, nor one of another device, does. -/
theorem tokens_exact {security : Security} (hsecurity : security.VerifiesExactly) {db : Database}
    (hempty : db.devices = .empty) {calls : List TokenCall}
    (hcalls : ∀ c ∈ calls, c.env.security = security)
    (hfresh : FreshDraws (calls.map TokenCall.entropy)) {env : Env}
    (henv : env.security = security) :
    let s := run TokenCall.serve (db, []) calls
    (∀ d ∈ s.1.devices, ∀ t, s.2.latest d.id = some t → d.isActive = true →
      d.enrollmentStatus ∉ ["revoked", "expired", "pending"] →
        lookupDeviceByToken env s.1 t = .ok (some d)) ∧
    (∀ t d, lookupDeviceByToken env s.1 t = .ok (some d) → ∃ latest,
      s.2.latest d.id = some latest ∧
        (t = latest ∨ (splitDeviceToken latest).map Prod.snd = some t)) ∧
    (s.2.map Prod.snd).Nodup ∧
    ∀ i ∈ s.2, ∀ d, lookupDeviceByToken env s.1 i.2 = .ok (some d) →
      i.1 = d.id ∧ s.2.latest d.id = some i.2 := by
  intro s
  have h : TokensSound security _ s := tokensSound_run hempty hcalls hfresh
  have henv' : env.security.VerifiesExactly := henv ▸ hsecurity
  refine ⟨fun d hd t => ?_, fun t d ht => ?_, h.nodup, fun i hi d ht => ?_⟩
  · exact h.latest_authenticates hfresh.wellFormed henv' henv hd
  · obtain ⟨e, he, e', he', hlatest, ht⟩ := h.of_authenticated henv' henv ht
    refine ⟨_, hlatest, ht.imp_right fun heq => ?_⟩
    rw [splitDeviceToken_deviceToken (hfresh.wellFormed e he).prefix_length
      (hfresh.wellFormed e' he').secret_ne, heq]
    rfl
  · obtain ⟨e, he, e', he', hlatest, ht⟩ := h.of_authenticated henv' henv ht
    obtain ⟨-, e₁, he₁, e₂, he₂, htoken⟩ := h.known i hi
    rcases ht with heq | heq
    · -- no two entries hold one token
      have hsame : i = (d.id, deviceToken e.rawPrefix e'.secret) :=
        List.inj_on_of_nodup_map h.nodup hi (Ledger.mem_of_latest hlatest) heq
      exact hsame ▸ ⟨rfl, hlatest⟩
    · exact absurd (htoken.symm.trans heq) (deviceToken_ne_secret
        ((hfresh.wellFormed e₂ he₂).secret_length.trans
          (hfresh.wellFormed e' he').secret_length.symm))

/-- A network with a reusable key and no device yet. -/
def tokenOffice : Database where
  networks := .ofRows [{ id := Uuid.ofNat 2, name := "token office", subnet := "10.0.0.0/24" }]
  preauthKeys := .ofRows [
    { id := Uuid.ofNat 3, key := "midscale_key", networkId := Uuid.ofNat 2, reusable := true
      expiresAt := 1 }]

/-- The texts that the `n`-th request draws. -/
def tokenDraw (n : ℕ) : Entropy where
  rowId := Uuid.ofNat 4
  serverId := Uuid.ofNat 5
  keyPair := ⟨"private", "public"⟩
  nonce := ""
  rawPrefix := String.ofList (List.replicate 8 (Nat.digitChar n))
  secret := String.ofList (List.replicate 48 (Nat.digitChar n))
  salt := ""
  preauthText := ""

/-- A laptop enrolls and rotates its token. -/
def tokenCalls : List TokenCall :=
  [.call ⟨plainEnv, tokenDraw 0, .enrollByKey
      { preauthKey := "midscale_key", name := "laptop", publicKey := "L" }⟩,
    .rotate plainEnv (tokenDraw 1)
      (deviceToken (tokenDraw 0).rawPrefix (tokenDraw 0).secret) (Uuid.ofNat 4)]

theorem plainSecurity_verifiesExactly : (plainSecurity []).VerifiesExactly where
  verify _ secret text := by
    have hiff : "hash:" ++ secret = "hash:" ++ text ↔ text = secret := by
      rw [String.append_right_inj, eq_comm]
    simp only [plainSecurity, hiff]
  hash_ne _ secret := by simp [plainSecurity]

theorem tokenDraw_wellFormed (n : ℕ) : (tokenDraw n).WellFormed where
  prefix_length := by simp [tokenDraw]
  secret_length := by simp [tokenDraw]

theorem tokens_exact_rotated :
    let s := run TokenCall.serve (tokenOffice, []) tokenCalls
    s.2.map Prod.snd = [deviceToken "00000000" (tokenDraw 0).secret,
        deviceToken "00000000" (tokenDraw 1).secret] ∧
      ∀ i ∈ s.2, ∀ d, lookupDeviceByToken plainEnv s.1 i.2 = .ok (some d) →
        i.1 = d.id ∧ s.2.latest d.id = some i.2 := by
  have hcalls : ∀ c ∈ tokenCalls, c.env.security = plainSecurity [] := by
    simp [tokenCalls, TokenCall.env, plainEnv]
  have hfresh : FreshDraws (tokenCalls.map TokenCall.entropy) := by
    refine ⟨fun e he => ?_, by decide +kernel, by decide +kernel⟩
    rcases List.mem_pair.1 he with rfl | rfl
    · exact tokenDraw_wellFormed 0
    · exact tokenDraw_wellFormed 1
  have hempty : tokenOffice.devices = .empty := rfl
  have henv : plainEnv.security = plainSecurity [] := rfl
  have h := tokens_exact plainSecurity_verifiesExactly hempty hcalls hfresh henv
  exact ⟨by decide +kernel, h.2.2.2⟩

end Midscale
