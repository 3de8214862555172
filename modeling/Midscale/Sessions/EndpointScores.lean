import Midscale.Sessions.EndpointIdentity
import Mathlib.Logic.Relation

/-!
# Scores of endpoints

Scores are written by three functions: a report leaves the default, a probe result computes the
score anew, and a promotion adds 30 to it, or computes it if it was 0.  A promotion commits its row
before it looks for the best endpoint of the device.

* `computeEndpointScore_anti` : a better endpoint has no smaller score.
* `promotion_spec` : what a promotion does to the rows.
* `scores_lawful` : every commit of a run leaves all scores between 0 and 200.
-/

namespace Midscale

/-! ### The formula -/

/-- A score is between 0 and 200. -/
def LawfulScore (score : ℤ) : Prop := 0 ≤ score ∧ score ≤ 200

theorem lawfulScore_zero : LawfulScore 0 := ⟨le_rfl, by decide⟩

theorem lawfulScore_computeEndpointScore (reachable : Bool) (latencyMs : Option ℤ)
    (failureCount successCount priority : ℤ) :
    LawfulScore
      (computeEndpointScore reachable latencyMs failureCount successCount priority) := by
  simp only [LawfulScore, computeEndpointScore]
  omega

theorem latency_penalty_le {latency latency' : Option ℤ}
    (h : latency = none ∨ ∃ l ∈ latency, ∃ l' ∈ latency', l ≤ l') (hpos : ∀ l ∈ latency', 0 ≤ l) :
    (latency.map (· / 10)).getD 0 ≤ (latency'.map (· / 10)).getD 0 := by
  rcases h with rfl | ⟨l, hl, l', hl', hle⟩
  · cases latency' with
    | none => exact le_rfl
    | some l' =>
      have hl' := hpos l' rfl
      simp only [Option.map_none, Option.getD_none, Option.map_some, Option.getD_some]
      omega
  · obtain rfl := Option.mem_def.1 hl
    obtain rfl := Option.mem_def.1 hl'
    simp only [Option.map_some, Option.getD_some]
    omega

/-- **The score is monotone**: better in every respect is not worse. -/
theorem computeEndpointScore_anti {reachable reachable' : Bool} {latency latency' : Option ℤ}
    {failures failures' successes successes' priority priority' : ℤ}
    (hreachable : reachable' ≤ reachable)
    (hlatency : latency = none ∨ ∃ l ∈ latency, ∃ l' ∈ latency', l ≤ l')
    (hpos : ∀ l ∈ latency', 0 ≤ l) (hfailures : failures ≤ failures')
    (hsuccesses : successes' ≤ successes) (hpriority : priority ≤ priority') :
    computeEndpointScore reachable' latency' failures' successes' priority' ≤
      computeEndpointScore reachable latency failures successes priority := by
  have hpenalty := latency_penalty_le hlatency hpos
  have hbonus : (if reachable' then 100 else 0 : ℤ) ≤ if reachable then 100 else 0 := by
    revert hreachable
    cases reachable <;> cases reachable' <;> decide
  simp only [computeEndpointScore]
  omega

/-! ### One promotion -/

theorem DeviceEndpoint.score_promoted (now : Timestamp) (latencyMs : Option ℤ)
    {ep : DeviceEndpoint} (h : LawfulScore ep.score) :
    ep.score ≤ (ep.promoted now latencyMs).score ∧
      LawfulScore (ep.promoted now latencyMs).score := by
  have hcomputed := lawfulScore_computeEndpointScore true latencyMs ep.failureCount
    (ep.successCount + 1) ep.priority
  simp only [promoted, LawfulScore] at h hcomputed ⊢
  split_ifs with hzero
  · omega
  · omega

section

variable (now : Timestamp) (db : Database) (latencyMs : Option ℤ)

/-- What `_promote_endpoint` commits first: the row that it found. -/
def Database.promoteRow (id : Uuid) : Database :=
  { db with
    endpoints := db.endpoints.modify id (DeviceEndpoint.promoted now latencyMs)
      (DeviceEndpoint.promoted_id now latencyMs) }

/-- The row is the best one among the active rows of the device. -/
def Database.isPreferred (deviceId id : Uuid) : Bool :=
  (selectBestEndpoint (getActiveEndpointsByDevice db deviceId)).any (·.id = id)

/-- A row after a promotion of the one with the id `keep`. -/
def DeviceEndpoint.afterPromotion (deviceId keep : Uuid) (preferred : Bool) (x : DeviceEndpoint) :
    DeviceEndpoint :=
  let x := if x.id = keep then x.promoted now latencyMs else x
  if preferred then x.retired deviceId keep else x

end

section

variable {now : Timestamp} {db db' : Database} {deviceId keep : Uuid} {endpoint : String} {port : ℤ}
  {latencyMs : Option ℤ} {ep : DeviceEndpoint} {preferred : Bool}

theorem DeviceEndpoint.afterPromotion_keep (now : Timestamp) (latencyMs : Option ℤ)
    (deviceId : Uuid) (preferred : Bool) (x : DeviceEndpoint) :
    x.afterPromotion now latencyMs deviceId x.id preferred = x.promoted now latencyMs := by
  have hretired : (x.promoted now latencyMs).retired deviceId x.id = x.promoted now latencyMs :=
    if_neg fun h => h.2.2 rfl
  rw [afterPromotion, if_pos rfl, hretired, ite_self]

theorem DeviceEndpoint.afterPromotion_of_ne (now : Timestamp) (latencyMs : Option ℤ)
    (deviceId : Uuid) (preferred : Bool) {x : DeviceEndpoint} (h : x.id ≠ keep) :
    x.afterPromotion now latencyMs deviceId keep preferred =
      { x with isActive := x.isActive && !(preferred && decide (x.deviceId = deviceId)) } := by
  rw [afterPromotion, if_neg h]
  cases preferred with
  | false => simp
  | true =>
    rw [if_pos rfl, retired]
    split_ifs with hcond
    · simp [hcond]
    · cases hactive : x.isActive with
      | false => rw [Bool.false_and, ← hactive]
      | true =>
        have hdevice : x.deviceId ≠ deviceId := fun hd => hcond ⟨hd, hactive, h⟩
        rw [decide_eq_false hdevice, Bool.and_false, Bool.not_false, Bool.true_and, ← hactive]

/-- What a promotion of `ep`, a row of the device, leaves. -/
structure Promotion (db db' : Database) (deviceId : Uuid) (ep : DeviceEndpoint) (preferred : Bool) :
    Prop where
  others : db' = { db with endpoints := db'.endpoints }
  ids : db'.endpoints.rows.map (·.id) = db.endpoints.rows.map (·.id)
  row : ∃ ep' ∈ db'.endpoints, ep'.id = ep.id ∧ ep'.deviceId = deviceId ∧
    ep.score ≤ ep'.score ∧ LawfulScore ep'.score ∧ ep'.reachable = true
  /-- Of the other rows of the device only the flag may change, and of other devices nothing. -/
  frame : ∀ x ∈ db.endpoints, x.id ≠ ep.id → ∃ active,
    { x with isActive := active } ∈ db'.endpoints ∧
      (x.deviceId ≠ deviceId → active = x.isActive)
  sole : preferred = true → ∀ x' ∈ db'.endpoints, x'.deviceId = deviceId →
    (x'.isActive = true ↔ x'.id = ep.id)
  kept : preferred = false → ∀ x ∈ db.endpoints, ∀ x' ∈ db'.endpoints, x'.id = x.id →
    x'.isActive = x.isActive

theorem promotion_of_rows {endpoints : Table DeviceEndpoint} (hep : ep ∈ db.endpoints)
    (hdevice : ep.deviceId = deviceId) (hactive : ep.isActive = true)
    (hscore : LawfulScore ep.score) (h : endpoints.rows = db.endpoints.rows.map
      (DeviceEndpoint.afterPromotion now latencyMs deviceId ep.id preferred)) :
    Promotion db { db with endpoints := endpoints } deviceId ep preferred := by
  have hkeep := DeviceEndpoint.afterPromotion_keep now latencyMs deviceId preferred ep
  have hother := fun {x : DeviceEndpoint} =>
    @DeviceEndpoint.afterPromotion_of_ne ep.id now latencyMs deviceId preferred x
  have hid : ∀ x : DeviceEndpoint,
      (x.afterPromotion now latencyMs deviceId ep.id preferred).id = x.id := fun x => by
    by_cases hx : x.id = ep.id
    · rw [← hx, DeviceEndpoint.afterPromotion_keep]
      rfl
    · rw [hother hx]
  have hmem : ∀ x', x' ∈ endpoints ↔ ∃ x ∈ db.endpoints,
      x.afterPromotion now latencyMs deviceId ep.id preferred = x' := fun x' => by
    rw [Table.mem_def, h, List.mem_map]
    rfl
  -- the row of an image is the promoted one or one of the others
  have hself : ∀ x ∈ db.endpoints, x.id = ep.id → x = ep := fun x hx heq =>
    db.endpoints.eq_of_pk hx hep heq
  obtain ⟨hle, hlawful⟩ := DeviceEndpoint.score_promoted now latencyMs hscore
  refine ⟨rfl, ?_, ?_, ?_, ?_, ?_⟩
  · change endpoints.rows.map (·.id) = _
    rw [h, List.map_map]
    exact List.map_congr_left fun x _ => hid x
  · exact ⟨ep.promoted now latencyMs, (hmem _).2 ⟨ep, hep, hkeep⟩, rfl, hdevice, hle, hlawful, rfl⟩
  · intro x hx hne
    refine ⟨_, (hmem _).2 ⟨x, hx, hother hne⟩, fun hforeign => ?_⟩
    rw [decide_eq_false hforeign, Bool.and_false, Bool.not_false, Bool.and_true]
  · rintro rfl x' hx' hd
    obtain ⟨x, hx, rfl⟩ := (hmem x').1 hx'
    rw [hid]
    by_cases heq : x.id = ep.id
    · obtain rfl := hself x hx heq
      rw [hkeep]
      exact iff_of_true hactive rfl
    · rw [hother heq] at hd ⊢
      simp [show x.deviceId = deviceId from hd, heq]
  · rintro rfl x hx x' hx' heq
    obtain ⟨y, hy, rfl⟩ := (hmem x').1 hx'
    rw [hid] at heq
    obtain rfl : y = x := db.endpoints.eq_of_pk hy hx heq
    by_cases hkept : y.id = ep.id
    · obtain rfl := hself y hy hkept
      rw [hkeep]
      rfl
    · rw [hother hkept, Bool.false_and, Bool.not_false, Bool.and_true]

theorem promoteEndpoint_of_eq (now : Timestamp) (latencyMs : Option ℤ)
    (h : db.promotable deviceId endpoint port = [ep]) :
    promoteEndpoint now db deviceId endpoint port latencyMs =
      .ok (((ep.promoted now latencyMs).score,
        (db.promoteRow now latencyMs ep.id).isPreferred deviceId ep.id),
        if (db.promoteRow now latencyMs ep.id).isPreferred deviceId ep.id then
          (db.promoteRow now latencyMs ep.id).retireOthers deviceId ep.id
        else db.promoteRow now latencyMs ep.id) := by
  rw [promoteEndpoint, h]
  rfl

theorem promoteEndpoint_rows (now : Timestamp) (latencyMs : Option ℤ)
    (h : db.promotable deviceId endpoint port = [ep]) : ∃ preferred endpoints,
      promoteEndpoint now db deviceId endpoint port latencyMs =
        .ok (((ep.promoted now latencyMs).score, preferred),
          { db with endpoints := endpoints }) ∧
      endpoints.rows = db.endpoints.rows.map
        (DeviceEndpoint.afterPromotion now latencyMs deviceId ep.id preferred) := by
  rw [promoteEndpoint_of_eq now latencyMs h]
  cases (db.promoteRow now latencyMs ep.id).isPreferred deviceId ep.id with
  | true =>
    refine ⟨true, _, rfl, ?_⟩
    exact List.map_map
  | false => exact ⟨false, _, rfl, rfl⟩

/-- All scores are lawful. -/
def Database.ScoresLawful (db : Database) : Prop := ∀ ep ∈ db.endpoints, LawfulScore ep.score

/-- **Promotion**: the row that is found gets no smaller score and becomes reachable; a preferred
one is then the only active row of the device, and else no flag changes. -/
theorem promotion_spec (now : Timestamp) (db : Database) (deviceId : Uuid) (endpoint : String)
    (port : ℤ) (latencyMs : Option ℤ) (hscores : db.ScoresLawful) :
    (∀ ep, db.promotable deviceId endpoint port = [ep] → ∃ score preferred db',
      promoteEndpoint now db deviceId endpoint port latencyMs = .ok ((score, preferred), db') ∧
        Promotion db db' deviceId ep preferred) ∧
    (db.promotable deviceId endpoint port = [] →
      promoteEndpoint now db deviceId endpoint port latencyMs = .ok ((0, false), db)) := by
  refine ⟨fun ep hep => ?_, promoteEndpoint_of_nil now latencyMs⟩
  obtain ⟨preferred, endpoints, hok, hrows⟩ := promoteEndpoint_rows now latencyMs hep
  obtain ⟨hmem, htriple, hactive⟩ := mem_promotable_iff.1 (hep ▸ List.mem_singleton_self ep)
  have hdevice : ep.deviceId = deviceId := congrArg Prod.fst htriple
  exact ⟨_, preferred, _, hok, promotion_of_rows hmem hdevice hactive (hscores ep hmem) hrows⟩

/-- A camera with two active addresses. -/
def cameraLens : DeviceEndpoint :=
  { id := Uuid.ofNat 43, deviceId := Uuid.ofNat 41, endpoint := "203.0.113.7", score := 150 }

def cameraBackup : DeviceEndpoint :=
  { id := Uuid.ofNat 44, deviceId := Uuid.ofNat 41, endpoint := "203.0.113.8", score := 120 }

def cameraPaths : Database :=
  { cameraShed with endpoints := .ofRows [cameraLens, cameraBackup] }

theorem cameraPaths_scoresLawful : cameraPaths.ScoresLawful := by
  intro ep hep
  rcases List.mem_cons.1 hep with rfl | hep
  · exact ⟨by decide, by decide⟩
  · rw [List.mem_singleton.1 hep]
    exact ⟨by decide, by decide⟩

theorem promotion_spec_cameraPaths : ∃ score preferred db',
    promoteEndpoint 7 cameraPaths (Uuid.ofNat 41) "203.0.113.7" 51820 (some 12) =
      .ok ((score, preferred), db') ∧
    Promotion cameraPaths db' (Uuid.ofNat 41) cameraLens preferred :=
  (promotion_spec 7 cameraPaths (Uuid.ofNat 41) "203.0.113.7" 51820 (some 12)
    cameraPaths_scoresLawful).1 cameraLens (by decide)

/-! ### Runs -/

/-- What one call commits: what it leaves, and of a promotion also the row before the rest. -/
inductive EndpointCommit (db : Database) : Database → Prop where
  | step (call : EndpointCall) : EndpointCommit db (call.step db)
  | promoteRow (now : Timestamp) (deviceId : Uuid) (endpoint : String) (port : ℤ)
      (latencyMs : Option ℤ) (ep : DeviceEndpoint)
      (found : db.promotable deviceId endpoint port = [ep]) :
      EndpointCommit db (db.promoteRow now latencyMs ep.id)

theorem Database.ScoresLawful.insert (h : db.ScoresLawful) {endpoints : Table DeviceEndpoint}
    (hscore : LawfulScore ep.score) (hinsert : db.endpoints.insert ep = some endpoints) :
    ({ db with endpoints := endpoints } : Database).ScoresLawful := by
  intro x hx
  rcases (Table.mem_insert hinsert).1 hx with hx | rfl
  · exact h x hx
  · exact hscore

theorem Database.ScoresLawful.of_image (h : db.ScoresLawful)
    (himage : ∀ x' ∈ db'.endpoints, ∃ x ∈ db.endpoints,
      LawfulScore x.score → LawfulScore x'.score) : db'.ScoresLawful := by
  intro x' hx'
  obtain ⟨x, hx, hscore⟩ := himage x' hx'
  exact hscore (h x hx)

theorem Database.ScoresLawful.modify (h : db.ScoresLawful) (id : Uuid)
    {f : DeviceEndpoint → DeviceEndpoint} (hf : ∀ x, Row.pk (f x) = Row.pk x)
    (hscore : ∀ x, LawfulScore x.score → LawfulScore (f x).score) :
    ({ db with endpoints := db.endpoints.modify id f hf } : Database).ScoresLawful := by
  refine h.of_image fun x' hx' => ?_
  obtain ⟨x, hx, rfl⟩ := List.mem_map.1 hx'
  refine ⟨x, hx, fun hlawful => ?_⟩
  split_ifs
  · exact hscore x hlawful
  · exact hlawful

theorem DeviceEndpoint.lawfulScore_afterPromotion (now : Timestamp) (latencyMs : Option ℤ)
    (deviceId keep : Uuid) (preferred : Bool) {x : DeviceEndpoint} (h : LawfulScore x.score) :
    LawfulScore (x.afterPromotion now latencyMs deviceId keep preferred).score := by
  by_cases hx : x.id = keep
  · rw [← hx, afterPromotion_keep]
    exact (score_promoted now latencyMs h).2
  · rw [afterPromotion_of_ne now latencyMs deviceId preferred hx]
    exact h

/-- A call that succeeds leaves lawful scores. -/
theorem EndpointCall.scoresLawful_perform {call : EndpointCall} (h : db.ScoresLawful)
    (hok : call.perform db = .ok db') : db'.ScoresLawful := by
  cases call with
  | reportEndpoint env e deviceId req =>
    obtain ⟨⟨resp, db₁⟩, hreport, rfl⟩ := map_eq_ok.1 hok
    simp only [Midscale.reportEndpoint, bind_eq_ok, Table.add_eq_ok] at hreport
    obtain ⟨-, -, endpoints, hinsert, heq⟩ := hreport
    cases heq
    exact h.insert lawfulScore_zero hinsert
  | processProbeResult env e req =>
    obtain ⟨⟨resp, db₁⟩, hprobe, rfl⟩ := map_eq_ok.1 hok
    obtain ⟨peer, -, ⟨ep, -, rfl⟩ | ⟨endpoints, -, -, hinsert, rfl⟩⟩ :=
      processProbeResult_eq_ok hprobe
    · exact h.modify ep.id _ fun x _ => lawfulScore_computeEndpointScore ..
    · exact h.insert (lawfulScore_computeEndpointScore ..) hinsert
  | promoteEndpoint now deviceId endpoint port latencyMs =>
    obtain ⟨⟨r, db₁⟩, hpromote, rfl⟩ := map_eq_ok.1 hok
    obtain ⟨endpoints, -, -, ⟨hnil, -⟩ | ⟨ep, hep, -⟩⟩ := promoteEndpoint_eq_ok hpromote
    · rw [promoteEndpoint_of_nil now latencyMs hnil] at hpromote
      cases hpromote
      exact h
    · obtain ⟨preferred, endpoints, heq, hrows⟩ := promoteEndpoint_rows now latencyMs hep
      rw [heq] at hpromote
      cases hpromote
      refine h.of_image fun x' hx' => ?_
      obtain ⟨x, hx, rfl⟩ := List.mem_map.1 (hrows ▸ Table.mem_def.1 hx')
      exact ⟨x, hx,
        DeviceEndpoint.lawfulScore_afterPromotion now latencyMs deviceId ep.id preferred⟩
  | staleEndpointCleanup now maxAgeMinutes =>
    cases hok
    refine h.of_image fun x' hx' => ?_
    obtain ⟨x, hx, rfl⟩ := List.mem_map.1 hx'
    refine ⟨x, hx, fun hlawful => ?_⟩
    unfold DeviceEndpoint.cleaned
    split_ifs <;> exact hlawful

theorem EndpointCommit.scoresLawful (hcommit : EndpointCommit db db') (h : db.ScoresLawful) :
    db'.ScoresLawful := by
  cases hcommit with
  | step call =>
    cases hperform : call.perform db with
    | ok db₁ =>
      rw [EndpointCall.step_of_ok hperform]
      exact EndpointCall.scoresLawful_perform h hperform
    | error error =>
      rw [EndpointCall.step_of_error hperform]
      exact h
  | promoteRow now deviceId endpoint port latencyMs ep found =>
    exact h.modify ep.id _ fun x hx => (DeviceEndpoint.score_promoted now latencyMs hx).2

end

/-- **Scores stay lawful in every run, and the formula is monotone.** -/
theorem scores_lawful :
    (∀ db db' : Database, db.ScoresLawful → Relation.ReflTransGen EndpointCommit db db' →
      db'.ScoresLawful) ∧
    ∀ (reachable reachable' : Bool) (latency latency' : Option ℤ)
      (failures failures' successes successes' priority priority' : ℤ),
      reachable' ≤ reachable → (latency = none ∨ ∃ l ∈ latency, ∃ l' ∈ latency', l ≤ l') →
      (∀ l ∈ latency, 0 ≤ l) → (∀ l ∈ latency', 0 ≤ l) → failures ≤ failures' →
      successes' ≤ successes → priority ≤ priority' →
      computeEndpointScore reachable' latency' failures' successes' priority' ≤
        computeEndpointScore reachable latency failures successes priority := by
  constructor
  · intro db db' h hrun
    induction hrun with
    | refl => exact h
    | tail _ hcommit ih => exact hcommit.scoresLawful ih
  · intro _ _ _ _ _ _ _ _ _ _ hreachable hlatency _ hpos hfailures hsuccesses hpriority
    exact computeEndpointScore_anti hreachable hlatency hpos hfailures hsuccesses hpriority

theorem scores_lawful_cameraPaths :
    ((cameraReport 45).step cameraPaths).ScoresLawful ∧
      computeEndpointScore false (some 40) 3 1 100 ≤ computeEndpointScore true (some 15) 0 2 50 :=
  ⟨scores_lawful.1 _ _ cameraPaths_scoresLawful (.single (.step _)),
    scores_lawful.2 true false (some 15) (some 40) 0 3 2 1 50 100 (by decide)
      (.inr ⟨15, rfl, 40, rfl, by decide⟩) (by decide) (by decide) (by decide) (by decide)
      (by decide)⟩

end Midscale
