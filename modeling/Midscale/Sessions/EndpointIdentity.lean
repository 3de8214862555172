import Midscale.Run.Basic
import Midscale.Sessions.Nat

/-!
# One active row for an endpoint and a port

Endpoint rows are added by reports and by probe results, and looked up by the device with the
endpoint alone (`process_probe_result`) or with endpoint, port and activity
(`_promote_endpoint`).  A report adds a row whether or not the device has one for the endpoint and
port already.

* `Database.DistinctEndpoints` : a device has at most one active row for an endpoint and a port.
* `EndpointCall.KeepsIdentity` : a call keeps that, finds no several rows where it wants one, and a
  probe result writes the row of its own endpoint and port.
* `EndpointCall.Unambiguous` : the state a call needs for it.
* `endpoint_identity_iff` : a run keeps identities exactly if its calls meet `Unambiguous`.
-/

namespace Midscale

/-- What identifies an endpoint: the device, the endpoint and the port. -/
def DeviceEndpoint.triple (ep : DeviceEndpoint) : Uuid × String × ℤ :=
  (ep.deviceId, ep.endpoint, ep.port)

/-- Each device has at most one active row for an endpoint and a port. -/
def Database.DistinctEndpoints (db : Database) : Prop :=
  ∀ ep ∈ db.endpoints, ∀ ep' ∈ db.endpoints, ep.isActive = true → ep'.isActive = true →
    ep.triple = ep'.triple → ep = ep'

/-- A call of one of the functions that write endpoint rows. -/
inductive EndpointCall where
  | reportEndpoint (env : Env) (e : Entropy) (deviceId : Uuid) (req : EndpointReport)
  | processProbeResult (env : Env) (e : Entropy) (req : ProbeResultRequest)
  | promoteEndpoint (now : Timestamp) (deviceId : Uuid) (endpoint : String) (port : ℤ)
      (latencyMs : Option ℤ)
  | staleEndpointCleanup (now : Timestamp) (maxAgeMinutes : ℤ)

namespace EndpointCall

/-- The database after a call, or the exception it raises. -/
def perform (db : Database) : EndpointCall → Except ApiError Database
  | reportEndpoint env e deviceId req =>
    Prod.snd <$> Midscale.reportEndpoint env e db deviceId req
  | processProbeResult env e req => Prod.snd <$> Midscale.processProbeResult env e db req
  | promoteEndpoint now deviceId endpoint port latencyMs =>
    Prod.snd <$> Midscale.promoteEndpoint now db deviceId endpoint port latencyMs
  | staleEndpointCleanup now maxAgeMinutes =>
    .ok (Midscale.staleEndpointCleanup now db maxAgeMinutes).2

/-- A call in a transaction of its own: an exception leaves the database as it was. -/
def step (db : Database) (call : EndpointCall) : Database :=
  match call.perform db with
  | .ok db' => db'
  | .error _ => db

end EndpointCall

/-- One row is written, and that row is the one of the triple: it is new, or had the triple
before; every other row stays as it was. -/
def WritesRowOf (db db' : Database) (triple : Uuid × String × ℤ) (req : ProbeResultRequest) :
    Prop :=
  ∃ ep ∈ db'.endpoints, ep.triple = triple ∧ ep.reachable = req.reachable ∧
    ep.latencyMs = req.latencyMs ∧ ep ∉ db.endpoints ∧
    (∀ old ∈ db.endpoints, old.id = ep.id → old.triple = triple) ∧
    ∀ other : DeviceEndpoint, other.id ≠ ep.id → (other ∈ db'.endpoints ↔ other ∈ db.endpoints)

/-- What is asked of a call. -/
structure EndpointCall.KeepsIdentity (db : Database) (call : EndpointCall) : Prop where
  distinct : (call.step db).DistinctEndpoints
  single : call.perform db ≠ .error (.internal "MultipleResultsFound")
  /-- A probe result that is recorded writes the row of its device, endpoint and port. -/
  written : ∀ env e req peer db', call = .processProbeResult env e req →
    Uuid.parse req.peerDeviceId = some peer → call.perform db = .ok db' →
      WritesRowOf db db' (peer, req.endpoint, req.port) req

/-- The state that a call needs: a report that stores a row finds no active row of its endpoint
and port; a probe result finds no row of the device with its endpoint, or one, which has its
port. -/
def EndpointCall.Unambiguous (db : Database) : EndpointCall → Prop
  | reportEndpoint _ e deviceId req =>
    (db.devices.get? deviceId).isSome = true → db.endpoints.get? e.rowId = none →
      db.promotable deviceId req.endpoint req.port = []
  | processProbeResult _ _ req => ∀ peer, Uuid.parse req.peerDeviceId = some peer →
    db.probedRows peer req.endpoint = [] ∨
      ∃ ep, db.probedRows peer req.endpoint = [ep] ∧ ep.port = req.port
  | promoteEndpoint .. | staleEndpointCleanup .. => True

section

variable {db db' : Database}

/-! ### Rows and their triples -/

theorem Database.DistinctEndpoints.of_image (h : db.DistinctEndpoints)
    (himage : ∀ ep' ∈ db'.endpoints, ∃ ep ∈ db.endpoints, ep.id = ep'.id ∧ ep.triple = ep'.triple ∧
      (ep'.isActive = true → ep.isActive = true)) : db'.DistinctEndpoints := by
  intro ep₁ h₁ ep₂ h₂ hactive₁ hactive₂ htriple
  obtain ⟨old₁, hold₁, hid₁, ht₁, ha₁⟩ := himage ep₁ h₁
  obtain ⟨old₂, hold₂, hid₂, ht₂, ha₂⟩ := himage ep₂ h₂
  have hsame : old₁ = old₂ :=
    h old₁ hold₁ old₂ hold₂ (ha₁ hactive₁) (ha₂ hactive₂) (by rw [ht₁, ht₂, htriple])
  refine db'.endpoints.eq_of_pk h₁ h₂ ?_
  change ep₁.id = ep₂.id
  rw [← hid₁, ← hid₂, hsame]

theorem Database.DistinctEndpoints.map (h : db.DistinctEndpoints)
    {f : DeviceEndpoint → DeviceEndpoint} (hf : ∀ ep, Row.pk (f ep) = Row.pk ep)
    (htriple : ∀ ep, (f ep).triple = ep.triple)
    (hactive : ∀ ep, (f ep).isActive = true → ep.isActive = true) :
    ({ db with endpoints := db.endpoints.map f hf } : Database).DistinctEndpoints := by
  refine h.of_image fun ep' hep' => ?_
  obtain ⟨ep, hep, rfl⟩ := List.mem_map.1 hep'
  exact ⟨ep, hep, (hf ep).symm, (htriple ep).symm, hactive ep⟩

theorem Database.DistinctEndpoints.modify (h : db.DistinctEndpoints) (id : Uuid)
    {f : DeviceEndpoint → DeviceEndpoint} (hf : ∀ ep, Row.pk (f ep) = Row.pk ep)
    (htriple : ∀ ep, (f ep).triple = ep.triple) (hactive : ∀ ep, (f ep).isActive = ep.isActive) :
    ({ db with endpoints := db.endpoints.modify id f hf } : Database).DistinctEndpoints := by
  refine h.of_image fun ep' hep' => ?_
  obtain ⟨ep, hep, rfl⟩ := List.mem_map.1 hep'
  refine ⟨ep, hep, ?_⟩
  split_ifs
  · exact ⟨(hf ep).symm, (htriple ep).symm, fun hactive' => (hactive ep).symm.trans hactive'⟩
  · exact ⟨rfl, rfl, fun hep' => hep'⟩

theorem mem_promotable_iff {deviceId : Uuid} {endpoint : String} {port : ℤ} {ep : DeviceEndpoint} :
    ep ∈ db.promotable deviceId endpoint port ↔
      ep ∈ db.endpoints ∧ ep.triple = (deviceId, endpoint, port) ∧ ep.isActive = true := by
  simp only [Database.promotable, Table.mem_select, decide_eq_true_eq, DeviceEndpoint.triple,
    Prod.mk.injEq, and_assoc]

theorem Database.DistinctEndpoints.promotable (h : db.DistinctEndpoints) (deviceId : Uuid)
    (endpoint : String) (port : ℤ) :
    (∃ ep, db.promotable deviceId endpoint port = [ep]) ∨
      db.promotable deviceId endpoint port = [] := by
  by_cases hnil : db.promotable deviceId endpoint port = []
  · exact .inr hnil
  · obtain ⟨ep, hep⟩ := List.exists_mem_of_ne_nil _ hnil
    obtain ⟨hrow, htriple, hactive⟩ := mem_promotable_iff.1 hep
    have hp := (Table.mem_select.1 hep).2
    refine .inl ⟨ep, Table.select_eq_singleton hrow hp fun ep' hep' hp' => ?_⟩
    obtain ⟨-, htriple', hactive'⟩ := mem_promotable_iff.1 (Table.mem_select.2 ⟨hep', hp'⟩)
    exact h ep' hep' ep hrow hactive' hactive (htriple'.trans htriple.symm)

theorem distinctEndpoints_insert_iff (h : db.DistinctEndpoints) {ep : DeviceEndpoint}
    {endpoints : Table DeviceEndpoint} (hactive : ep.isActive = true)
    (hinsert : db.endpoints.insert ep = some endpoints) :
    ({ db with endpoints := endpoints } : Database).DistinctEndpoints ↔
      db.promotable ep.deviceId ep.endpoint ep.port = [] := by
  have hmem : ∀ r, r ∈ endpoints ↔ r ∈ db.endpoints ∨ r = ep := fun r => Table.mem_insert hinsert
  have hfresh := (Table.insert_eq_some hinsert).2
  constructor
  · intro hdistinct
    refine List.eq_nil_iff_forall_not_mem.2 fun old hold => ?_
    obtain ⟨hrow, htriple, hold'⟩ := mem_promotable_iff.1 hold
    have hsame : old = ep :=
      hdistinct old ((hmem old).2 (.inl hrow)) ep ((hmem ep).2 (.inr rfl)) hold' hactive htriple
    exact hfresh old hrow (hsame ▸ rfl)
  · intro hnil
    have hnone : ∀ old ∈ db.endpoints, old.isActive = true → old.triple ≠ ep.triple :=
      fun old hold hold' htriple =>
        List.eq_nil_iff_forall_not_mem.1 hnil old (mem_promotable_iff.2 ⟨hold, htriple, hold'⟩)
    intro ep₁ h₁ ep₂ h₂ hactive₁ hactive₂ htriple
    rcases (hmem ep₁).1 h₁ with h₁ | rfl
    · rcases (hmem ep₂).1 h₂ with h₂ | rfl
      · exact h ep₁ h₁ ep₂ h₂ hactive₁ hactive₂ htriple
      · exact absurd htriple (hnone ep₁ h₁ hactive₁)
    · rcases (hmem ep₂).1 h₂ with h₂ | rfl
      · exact absurd htriple.symm (hnone ep₂ h₂ hactive₂)
      · rfl

/-! ### One call -/

namespace EndpointCall

variable {call : EndpointCall}

theorem step_of_ok (h : call.perform db = .ok db') : call.step db = db' := by
  rw [step, h]

theorem step_of_error {error : ApiError} (h : call.perform db = .error error) :
    call.step db = db := by
  rw [step, h]

theorem keepsIdentity_of_error (hdb : db.DistinctEndpoints) {error : ApiError}
    (h : call.perform db = .error error) (herror : error ≠ .internal "MultipleResultsFound") :
    call.KeepsIdentity db where
  distinct := by rwa [step_of_error h]
  single := by
    rw [h]
    exact fun heq => herror (Except.error.inj heq)
  written := by
    intro env e req peer db' _ _ hok
    rw [h] at hok
    cases hok

theorem keepsIdentity_iff_of_ok (h : call.perform db = .ok db')
    (hprobe : ∀ env e req, call ≠ .processProbeResult env e req) :
    call.KeepsIdentity db ↔ db'.DistinctEndpoints := by
  constructor
  · intro hkeeps
    have := hkeeps.distinct
    rwa [step_of_ok h] at this
  · intro hdistinct
    refine ⟨by rwa [step_of_ok h], fun hfail => ?_, fun env e req _ _ hcall => ?_⟩
    · rw [h] at hfail
      cases hfail
    · exact absurd hcall (hprobe env e req)

/-- A report keeps identities exactly if it is the first one of an active row. -/
theorem keepsIdentity_reportEndpoint_iff (hdb : db.DistinctEndpoints) (env : Env) (e : Entropy)
    (deviceId : Uuid) (req : EndpointReport) :
    (reportEndpoint env e deviceId req).KeepsIdentity db ↔
      (reportEndpoint env e deviceId req).Unambiguous db := by
  cases hdevice : db.devices.get? deviceId with
  | none =>
    have hperform : (reportEndpoint env e deviceId req).perform db =
        .error (.http 404 "Device not found") := by
      simp only [perform, Midscale.reportEndpoint, hdevice]
      rfl
    refine iff_of_true (keepsIdentity_of_error hdb hperform (by decide)) fun hsome => ?_
    rw [hdevice] at hsome
    cases hsome
  | some d =>
    cases hrow : db.endpoints.get? e.rowId with
    | some taken =>
      have hinsert : db.endpoints.insert (req.row env.now e.rowId deviceId) = none := by
        refine Option.eq_none_iff_forall_ne_some.2 fun endpoints hinsert => ?_
        have hnone := Table.exists_insert_iff.1 ⟨endpoints, hinsert⟩
        change db.endpoints.get? e.rowId = none at hnone
        rw [hrow] at hnone
        cases hnone
      have hadd : db.endpoints.add (req.row env.now e.rowId deviceId) =
          .error (.internal "IntegrityError") := getOr_eq_error.2 ⟨hinsert, rfl⟩
      have hperform : (reportEndpoint env e deviceId req).perform db =
          .error (.internal "IntegrityError") := by
        simp only [perform, Midscale.reportEndpoint, hdevice, hadd]
        rfl
      refine iff_of_true (keepsIdentity_of_error hdb hperform (by decide)) fun _ hnone => ?_
      rw [hrow] at hnone
      cases hnone
    | none =>
      obtain ⟨endpoints, hinsert⟩ :=
        Table.exists_insert_iff (r := req.row env.now e.rowId deviceId).2 hrow
      have hperform : (reportEndpoint env e deviceId req).perform db =
          .ok { db with endpoints := endpoints } := by
        simp only [perform, Midscale.reportEndpoint, hdevice, Table.add_eq_ok.2 hinsert]
        rfl
      rw [keepsIdentity_iff_of_ok hperform (by rintro _ _ _ ⟨⟩),
        distinctEndpoints_insert_iff hdb rfl hinsert]
      exact ⟨fun h _ _ => h, fun h => h (by rw [hdevice]; rfl) hrow⟩

theorem keepsIdentity_promoteEndpoint (hdb : db.DistinctEndpoints) (now : Timestamp)
    (deviceId : Uuid) (endpoint : String) (port : ℤ) (latencyMs : Option ℤ) :
    (promoteEndpoint now deviceId endpoint port latencyMs).KeepsIdentity db := by
  rcases hdb.promotable deviceId endpoint port with ⟨ep, hep⟩ | hnil
  · have hmodify := hdb.modify ep.id (DeviceEndpoint.promoted_id now latencyMs) (fun _ => rfl)
      fun _ => rfl
    have hperform : ∃ db', (promoteEndpoint now deviceId endpoint port latencyMs).perform db =
        .ok db' ∧ db'.DistinctEndpoints := by
      rw [perform, Midscale.promoteEndpoint, hep]
      refine ⟨_, rfl, ?_⟩
      dsimp only
      split_ifs
      · refine hmodify.map (DeviceEndpoint.retired_id deviceId ep.id) (fun old => ?_) fun old => ?_
        · unfold DeviceEndpoint.retired
          split_ifs <;> rfl
        · unfold DeviceEndpoint.retired
          split_ifs
          · exact fun h => absurd h (by decide)
          · exact id
      · exact hmodify
    obtain ⟨db', hok, hdistinct⟩ := hperform
    exact (keepsIdentity_iff_of_ok hok (by rintro _ _ _ ⟨⟩)).2 hdistinct
  · have hperform : (promoteEndpoint now deviceId endpoint port latencyMs).perform db = .ok db := by
      rw [perform, promoteEndpoint_of_nil now latencyMs hnil]
      rfl
    exact (keepsIdentity_iff_of_ok hperform (by rintro _ _ _ ⟨⟩)).2 hdb

theorem keepsIdentity_staleEndpointCleanup (hdb : db.DistinctEndpoints) (now : Timestamp)
    (maxAgeMinutes : ℤ) : (staleEndpointCleanup now maxAgeMinutes).KeepsIdentity db := by
  refine (keepsIdentity_iff_of_ok rfl (by rintro _ _ _ ⟨⟩)).2
    (hdb.map (DeviceEndpoint.pk_cleaned _) (fun ep => ?_) fun ep => ?_)
  · unfold DeviceEndpoint.cleaned
    split_ifs <;> rfl
  · unfold DeviceEndpoint.cleaned
    split_ifs
    · exact fun h => absurd h (by decide)
    · exact id

theorem perform_processProbeResult (env : Env) (e : Entropy) {req : ProbeResultRequest}
    {peer : Uuid} (hpeer : Uuid.parse req.peerDeviceId = some peer) :
    (processProbeResult env e req).perform db = Prod.snd <$> recordProbe env e db peer req := by
  rw [perform, Midscale.processProbeResult, getOr_eq_ok.2 hpeer, ok_bind]
  cases recordProbe env e db peer req <;> rfl

theorem keepsIdentity_iff_of_recorded {env : Env} {e : Entropy} {req : ProbeResultRequest}
    {peer : Uuid} (hpeer : Uuid.parse req.peerDeviceId = some peer)
    (hok : (processProbeResult env e req).perform db = .ok db') :
    (processProbeResult env e req).KeepsIdentity db ↔
      db'.DistinctEndpoints ∧ WritesRowOf db db' (peer, req.endpoint, req.port) req := by
  constructor
  · intro hkeeps
    refine ⟨?_, hkeeps.written env e req peer db' rfl hpeer hok⟩
    have hdistinct := hkeeps.distinct
    rwa [step_of_ok hok] at hdistinct
  · rintro ⟨hdistinct, hwritten⟩
    refine ⟨by rwa [step_of_ok hok], fun hfail => ?_, ?_⟩
    · rw [hok] at hfail
      cases hfail
    · rintro _ _ _ peer' db₁ ⟨⟩ hpeer' hok'
      obtain rfl : peer = peer' := Option.some.inj (hpeer.symm.trans hpeer')
      rw [hok] at hok'
      cases hok'
      exact hwritten

theorem writesRowOf_insert {req : ProbeResultRequest} {now : Timestamp} {rowId peer : Uuid}
    {endpoints : Table DeviceEndpoint}
    (hinsert : db.endpoints.insert (req.row now rowId peer) = some endpoints) :
    WritesRowOf db { db with endpoints := endpoints } (peer, req.endpoint, req.port) req := by
  have hmem : ∀ r, r ∈ endpoints ↔ _ := fun _ => Table.mem_insert hinsert
  have hfresh := (Table.insert_eq_some hinsert).2
  refine ⟨req.row now rowId peer, (hmem _).2 (.inr rfl), rfl, rfl, rfl,
    fun hold => hfresh _ hold rfl, fun old hold hid => absurd hid (hfresh old hold),
    fun other hother => ?_⟩
  have hne : other ≠ req.row now rowId peer := fun heq =>
    hother (congrArg DeviceEndpoint.id heq)
  rw [hmem, or_iff_left hne]

theorem writesRowOf_modify_iff {ep : DeviceEndpoint} (hep : ep ∈ db.endpoints)
    (req : ProbeResultRequest) (now : Timestamp) {triple : Uuid × String × ℤ} :
    WritesRowOf db { db with endpoints := db.endpoints.modify ep.id (req.apply now) fun _ => rfl }
      triple req ↔ ep.triple = triple := by
  have hmodified : ∀ r, r ∈ db.endpoints.modify ep.id (req.apply now) (fun _ => rfl) ↔
      r = req.apply now ep ∨ (r ∈ db.endpoints ∧ r.id ≠ ep.id) := by
    intro r
    refine Table.mem_modify.trans ⟨?_, ?_⟩
    · rintro ⟨old, hold, rfl⟩
      split_ifs with hid
      · exact .inl (congrArg _ (db.endpoints.eq_of_pk hold hep hid))
      · exact .inr ⟨hold, hid⟩
    · rintro (rfl | ⟨hr, hid⟩)
      · exact ⟨ep, hep, if_pos rfl⟩
      · exact ⟨r, hr, if_neg hid⟩
  constructor
  · rintro ⟨row, hrow, rfl, -, -, hnew, -⟩
    -- the only row that is not as it was is the one that was found
    rw [((hmodified row).1 hrow).resolve_right fun h => hnew h.1]
    rfl
  · rintro rfl
    refine ⟨req.apply now ep, (hmodified _).2 (.inl rfl), rfl, rfl, rfl, fun hold => ?_,
      fun old hold hid => ?_, fun other hother => ?_⟩
    · exact req.apply_ne now ep (db.endpoints.eq_of_pk hold hep rfl)
    · rw [db.endpoints.eq_of_pk hold hep hid]
    · have hne : other ≠ req.apply now ep := fun heq => hother (congrArg DeviceEndpoint.id heq)
      exact (hmodified other).trans ((or_iff_right hne).trans (and_iff_left hother))

theorem promotable_of_probedRows_nil {peer : Uuid} {endpoint : String} (port : ℤ)
    (hrows : db.probedRows peer endpoint = []) : db.promotable peer endpoint port = [] := by
  refine List.eq_nil_iff_forall_not_mem.2 fun old hold => ?_
  obtain ⟨hrow, htriple, -⟩ := mem_promotable_iff.1 hold
  obtain ⟨hdevice, hendpoint, -⟩ : old.deviceId = peer ∧ old.endpoint = endpoint ∧
    old.port = port := by simpa [DeviceEndpoint.triple] using htriple
  have hprobed : old ∈ db.probedRows peer endpoint :=
    Table.mem_select.2 ⟨hrow, decide_eq_true ⟨hdevice, hendpoint⟩⟩
  rw [hrows] at hprobed
  cases hprobed

theorem keepsIdentity_processProbeResult_of_nil (hdb : db.DistinctEndpoints) (env : Env)
    (e : Entropy) {req : ProbeResultRequest} {peer : Uuid}
    (hpeer : Uuid.parse req.peerDeviceId = some peer)
    (hrows : db.probedRows peer req.endpoint = []) :
    (processProbeResult env e req).KeepsIdentity db := by
  have hperform : (processProbeResult env e req).perform db = _ :=
    perform_processProbeResult env e hpeer
  rw [recordProbe_of_nil env e hrows] at hperform
  -- neither check fails on several rows
  cases hdevice : ensure (db.devices.get? peer).isSome (ApiError.internal "IntegrityError") with
  | error error =>
    rw [hdevice] at hperform
    obtain ⟨-, rfl⟩ := ensure_eq_error.1 hdevice
    exact keepsIdentity_of_error hdb hperform (by decide)
  | ok =>
    rw [hdevice] at hperform
    cases hadd : db.endpoints.add (req.row env.now e.rowId peer) with
    | error error =>
      simp only [ok_bind, hadd] at hperform
      obtain ⟨-, rfl⟩ := getOr_eq_error.1 hadd
      exact keepsIdentity_of_error hdb hperform (by decide)
    | ok endpoints =>
      simp only [ok_bind, hadd] at hperform
      have hinsert := Table.add_eq_ok.1 hadd
      exact (keepsIdentity_iff_of_recorded hpeer hperform).2
        ⟨(distinctEndpoints_insert_iff hdb rfl hinsert).2
          (promotable_of_probedRows_nil req.port hrows), writesRowOf_insert hinsert⟩

theorem keepsIdentity_processProbeResult_iff_of_singleton (hdb : db.DistinctEndpoints) (env : Env)
    (e : Entropy) {req : ProbeResultRequest} {peer : Uuid} {ep : DeviceEndpoint}
    (hpeer : Uuid.parse req.peerDeviceId = some peer)
    (hrows : db.probedRows peer req.endpoint = [ep]) :
    (processProbeResult env e req).KeepsIdentity db ↔ ep.port = req.port := by
  have hok : (processProbeResult env e req).perform db = .ok { db with
      endpoints := db.endpoints.modify ep.id (req.apply env.now) fun _ => rfl } := by
    rw [perform_processProbeResult env e hpeer, recordProbe_of_singleton env e hrows]
    rfl
  have hprobed : ep ∈ db.probedRows peer req.endpoint := hrows ▸ List.mem_singleton_self ep
  obtain ⟨hep, hcond⟩ := Table.mem_select.1 hprobed
  obtain ⟨hdevice, hendpoint⟩ := of_decide_eq_true hcond
  have hdistinct := hdb.modify (f := req.apply env.now) ep.id (fun _ => rfl) (fun _ => rfl)
    fun _ => rfl
  rw [keepsIdentity_iff_of_recorded hpeer hok, and_iff_right hdistinct,
    writesRowOf_modify_iff hep, DeviceEndpoint.triple, hdevice, hendpoint]
  simp only [Prod.mk.injEq, true_and]

theorem not_keepsIdentity_of_many (env : Env) (e : Entropy) {req : ProbeResultRequest} {peer : Uuid}
    (hpeer : Uuid.parse req.peerDeviceId = some peer) {ep ep' : DeviceEndpoint}
    {rest : List DeviceEndpoint} (hrows : db.probedRows peer req.endpoint = ep :: ep' :: rest) :
    ¬ (processProbeResult env e req).KeepsIdentity db := by
  intro hkeeps
  refine hkeeps.single ?_
  rw [perform_processProbeResult env e hpeer, recordProbe]
  change Prod.snd <$> (scalarOneOrNone (db.probedRows peer req.endpoint) >>= _) = _
  rw [hrows]
  rfl

/-- **A call keeps identities exactly in the states it needs.** -/
theorem keepsIdentity_iff (hdb : db.DistinctEndpoints) (call : EndpointCall) :
    call.KeepsIdentity db ↔ call.Unambiguous db := by
  cases call with
  | reportEndpoint env e deviceId req =>
    exact keepsIdentity_reportEndpoint_iff hdb env e deviceId req
  | promoteEndpoint now deviceId endpoint port latencyMs =>
    exact iff_of_true
      (keepsIdentity_promoteEndpoint hdb now deviceId endpoint port latencyMs) trivial
  | staleEndpointCleanup now maxAgeMinutes =>
    exact iff_of_true (keepsIdentity_staleEndpointCleanup hdb now maxAgeMinutes) trivial
  | processProbeResult env e req =>
    cases hpeer : Uuid.parse req.peerDeviceId with
    | none =>
      have hfail : (processProbeResult env e req).perform db = .error (.internal "DataError") := by
        rw [perform, Midscale.processProbeResult, hpeer]
        rfl
      refine iff_of_true (keepsIdentity_of_error hdb hfail (by decide)) fun peer hpeer' => ?_
      rw [hpeer] at hpeer'
      cases hpeer'
    | some peer =>
      have hunambiguous : (processProbeResult env e req).Unambiguous db ↔
          db.probedRows peer req.endpoint = [] ∨
            ∃ ep, db.probedRows peer req.endpoint = [ep] ∧ ep.port = req.port := by
        refine ⟨fun h => h peer hpeer, fun h peer' hpeer' => ?_⟩
        obtain rfl : peer = peer' := Option.some.inj (hpeer.symm.trans hpeer')
        exact h
      rw [hunambiguous]
      cases hrows : db.probedRows peer req.endpoint with
      | nil =>
        exact iff_of_true (keepsIdentity_processProbeResult_of_nil hdb env e hpeer hrows) (.inl rfl)
      | cons ep rest =>
        cases rest with
        | nil =>
          rw [keepsIdentity_processProbeResult_iff_of_singleton hdb env e hpeer hrows]
          simp
        | cons ep' rest =>
          refine iff_of_false (not_keepsIdentity_of_many env e hpeer hrows) ?_
          simp

end EndpointCall

end

/-! ### Runs -/

/-- **Identities of endpoints.**  From a database in which each device has at most one active row
for an endpoint and a port, every call of a run keeps it so, finds no several rows and writes what
a probe result is about, exactly if every report that stores a row is the first active one of its
endpoint and port and every probe result finds no row with its endpoint or just one, with its
port. -/
theorem endpoint_identity_iff {db : Database} (hdb : db.DistinctEndpoints)
    (calls : List EndpointCall) :
    Admissible EndpointCall.step (fun db call => call.KeepsIdentity db) db calls ↔
      Admissible EndpointCall.step (fun db call => call.Unambiguous db) db calls :=
  @admissible_congr _ _ EndpointCall.step EndpointCall.KeepsIdentity EndpointCall.Unambiguous
    Database.DistinctEndpoints (fun _ call hdb => EndpointCall.keepsIdentity_iff hdb call)
    (fun _ _ _ hkeeps => hkeeps.distinct) db hdb calls

/-- One camera without endpoints. -/
def cameraShed : Database where
  networks := .ofRows [{ id := Uuid.ofNat 40, name := "shed", subnet := "10.4.0.0/24" }]
  devices := .ofRows [{ id := Uuid.ofNat 41, name := "camera", networkId := Uuid.ofNat 40 }]

/-- The report of the camera's address, stored under an id. -/
def cameraReport (rowId : ℕ) : EndpointCall :=
  .reportEndpoint plainEnv ⟨Uuid.ofNat rowId, Uuid.ofNat 0, ⟨"", ""⟩, "", "", "", "", "", ""⟩
    (Uuid.ofNat 41) { endpoint := "203.0.113.7" }

/-- A probe of the camera's address at a port. -/
def cameraProbe (port : ℤ) : EndpointCall :=
  .processProbeResult plainEnv ⟨Uuid.ofNat 49, Uuid.ofNat 0, ⟨"", ""⟩, "", "", "", "", "", ""⟩
    { peerDeviceId := (Uuid.ofNat 41).str, endpoint := "203.0.113.7", port := port
      reachable := true }

theorem cameraShed_distinct : cameraShed.DistinctEndpoints := fun _ hep => nomatch hep

theorem parse_camera : Uuid.parse (Uuid.ofNat 41).str = some (Uuid.ofNat 41) := by decide

/-- A report, a probe, a promotion and a clean-up of one endpoint. -/
theorem endpoint_identity_camera :
    Admissible EndpointCall.step (fun db call => call.KeepsIdentity db) cameraShed
      [cameraReport 42, cameraProbe 51820,
        .promoteEndpoint 5 (Uuid.ofNat 41) "203.0.113.7" 51820 (some 9),
        .staleEndpointCleanup 6 30] := by
  refine (endpoint_identity_iff cameraShed_distinct _).2 ⟨fun _ _ => rfl, fun peer hpeer => ?_,
    trivial, trivial, trivial⟩
  obtain rfl : Uuid.ofNat 41 = peer := Option.some.inj (parse_camera.symm.trans hpeer)
  exact .inr ⟨_, rfl, rfl⟩

/-- The same report twice leaves two active rows, with which the next probe and the next promotion
fail; and a probe of port 4500 is written to the row of port 51820. -/
theorem repeated_report_collides :
    ¬ (run EndpointCall.step cameraShed [cameraReport 42, cameraReport 43]).DistinctEndpoints ∧
    (cameraProbe 51820).perform
        (run EndpointCall.step cameraShed [cameraReport 42, cameraReport 43]) =
      .error (.internal "MultipleResultsFound") ∧
    (EndpointCall.promoteEndpoint 5 (Uuid.ofNat 41) "203.0.113.7" 51820 none).perform
        (run EndpointCall.step cameraShed [cameraReport 42, cameraReport 43]) =
      .error (.internal "MultipleResultsFound") ∧
    (run EndpointCall.step cameraShed [cameraReport 42, cameraProbe 4500]).endpoints.rows.map
      (fun ep => (ep.port, ep.reachable)) = [(51820, true)] := by
  refine ⟨fun hdistinct => ?_, rfl, rfl, by decide⟩
  have hsame := hdistinct _ (List.mem_cons_self) _ (List.mem_cons_of_mem _ List.mem_cons_self)
    rfl rfl rfl
  exact absurd (congrArg DeviceEndpoint.id hsame) (by decide)

end Midscale
