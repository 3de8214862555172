import Midscale.Api.DeviceConfig
import Midscale.Config.View
import Midscale.Events.Announcements
import Midscale.Run.Session

/-!
# Pushes and commits

A request that changes configurations, and the daemons that pull theirs when a `config.changed`
message arrives.  The handler writes its rows, announces the change and returns; only then
`get_session` commits.  Between these steps the daemons go on: a message arrives and sets
`_push_event`, a reconcile loop wakes up, and the request for its configuration reads what is
committed at that moment.

* `Race.step` : one step of the request or of a daemon, in any order.
* `Race.Inv` : what holds in every state of a run.
* `pushesReflect_iff` : the pulls of every schedule reflect the change exactly if no daemon that is
  sent a message has a configuration that the change concerns.
* `pushes_reflect` : as it is, **the helper sends no message, so no pull reacts to one too early**;
  with the names it imports, the pulls reflect the change exactly in that case.
* `pushes_reflect_ketch` : both cases, with messages that are delivered.
-/

namespace Midscale

/-- The requests that announce a change with `_publish_config_change`. -/
inductive PushingRequest where
  | reportEndpoint (token : String) (deviceId : Uuid) (req : EndpointReport)
  | probeResult (token : String) (deviceId : Uuid) (req : ProbeResultRequest)
  | revoke (token : String) (deviceId : Uuid)

/-- The request as one of the operations that change configurations. -/
def PushingRequest.operation : PushingRequest → ConfigOperation
  | reportEndpoint token deviceId req => .reportEndpoint token deviceId req
  | probeResult token deviceId req => .probeResult token deviceId req
  | revoke token deviceId => .revoke token deviceId

/-- A request with its environment and what it draws at random. -/
structure PushingCall where
  env : Env
  entropy : Entropy
  request : PushingRequest

/-- The database after the handler, or the exception it raises. -/
def PushingCall.handle (c : PushingCall) (db : Database) : Except ApiError Database :=
  c.request.operation.handle c.env c.entropy db

/-- The daemons that are sent a `config.changed` message: an event goes to all sockets, a message to
the socket of its device. -/
def Announcements.recipients (a : Announcements) (connected : List String) : List String :=
  (a.published.filter (·.eventType = configChanged)).flatMap (fun _ => connected) ++
    (a.sent.map Prod.fst).filter (· ∈ connected)

/-- The daemons that a request sends messages to, once it has led from `db` to `db'`. -/
def PushingCall.recipients (c : PushingCall) (main : MainModule) (connected : List String)
    (db db' : Database) : List String :=
  (c.request.operation.announcements c.env c.entropy db main db').recipients connected

/-! ### The race -/

/-- How far the request is. -/
inductive RequestPhase where
  | started
  /-- The rows are written and flushed. -/
  | written
  /-- `_publish_config_change` has returned. -/
  | announced
  /-- The session is committed, or rolled back after an exception. -/
  | finished
  deriving DecidableEq, Repr

/-- A request of a daemon for its configuration. -/
structure Pull where
  env : Env
  deviceId : Uuid
  authHeader : Option String
  /-- The loop woke up because of a message. -/
  reaction : Bool
  answer : Except ApiError DeviceConfigV2Response

/-- The state of the request and the daemons. -/
structure Race where
  session : Session Database
  phase : RequestPhase := .started
  /-- The daemons that messages are on the way to. -/
  inFlight : List String := []
  /-- `_push_event` of each daemon's reconciler. -/
  pushEvent : Uuid → Bool := fun _ => false
  pulls : List Pull := []

/-- The steps, with the environment in which a pull is answered. -/
inductive RaceStep where
  | write
  | announce
  | commit
  | deliver (deviceId : Uuid)
  | pull (env : Env) (deviceId : Uuid) (authHeader : Option String)

section

variable (main : MainModule) (connected : List String) (c : PushingCall) (db : Database)

/-- Before the request. -/
def Race.start : Race := { session := .start db }

/-- One step; a step that is not due changes nothing. -/
def Race.step (w : Race) : RaceStep → Race
  | .write =>
    if w.phase = .started then
      match c.handle w.session.view with
      | .ok db' => { w with session := w.session.step (.change fun _ => db'), phase := .written }
      | .error _ => { w with phase := .finished }
    else w
  | .announce =>
    if w.phase = .written then
      { w with
        phase := .announced
        inFlight := w.inFlight ++ c.recipients main connected db w.session.view }
    else w
  | .commit =>
    if w.phase = .announced then
      { w with session := w.session.step .commit, phase := .finished }
    else w
  | .deliver deviceId =>
    if deviceId.str ∈ w.inFlight then
      { w with
        inFlight := w.inFlight.erase deviceId.str
        pushEvent := Function.update w.pushEvent deviceId true }
    else w
  | .pull env deviceId authHeader =>
    { w with
      pushEvent := Function.update w.pushEvent deviceId false
      pulls := w.pulls ++ [
        { env := env
          deviceId := deviceId
          authHeader := authHeader
          reaction := w.pushEvent deviceId
          answer := getDeviceConfigV2 env w.session.committed deviceId authHeader }] }

/-- What a pull in reaction to a message returns is what the changed database answers. -/
def Pull.Reflects (p : Pull) : Prop :=
  p.reaction = true → ∀ db', c.handle db = .ok db' →
    p.answer = getDeviceConfigV2 p.env db' p.deviceId p.authHeader

/-- The pulls of every schedule reflect the change. -/
def PushesReflect : Prop :=
  ∀ schedule, ∀ p ∈ (run (Race.step main connected c db) (Race.start db) schedule).pulls,
    p.Reflects c db

/-- The change does not concern the daemons that are sent a message. -/
def ConcernsNoRecipient : Prop :=
  ∀ db', c.handle db = .ok db' → ∀ deviceId : Uuid,
    deviceId.str ∈ c.recipients main connected db db' → ∀ env authHeader,
      getDeviceConfigV2 env db deviceId authHeader = getDeviceConfigV2 env db' deviceId authHeader

/-- What holds in every state of a run. -/
structure Race.Inv (w : Race) : Prop where
  /-- What is committed is the database before the request or after it. -/
  committed : w.session.committed = db ∨ c.handle db = .ok w.session.committed
  view : match w.phase with
    | .started => w.session.view = db
    | .written | .announced => c.handle db = .ok w.session.view
    | .finished => True
  /-- A message was sent by the request after it had changed the rows. -/
  sent : ∀ deviceId : Uuid, deviceId.str ∈ w.inFlight ∨ w.pushEvent deviceId = true →
    ∃ db', c.handle db = .ok db' ∧ deviceId.str ∈ c.recipients main connected db db'
  /-- A pull is answered from what is committed, and reacts to a message of the request. -/
  pulls : ∀ p ∈ w.pulls, p.reaction = true →
    (∃ db', c.handle db = .ok db' ∧ p.deviceId.str ∈ c.recipients main connected db db') ∧
    ∃ db₁, (db₁ = db ∨ c.handle db = .ok db₁) ∧
      p.answer = getDeviceConfigV2 p.env db₁ p.deviceId p.authHeader

end

section

variable {main : MainModule} {connected : List String} {c : PushingCall} {db : Database}

theorem Race.inv_start : (Race.start db).Inv main connected c db where
  committed := .inl rfl
  view := rfl
  sent := by simp [start]
  pulls := fun p hp => absurd hp List.not_mem_nil

/-- Every step keeps the invariant. -/
theorem Race.Inv.step {w : Race} (h : w.Inv main connected c db) (i : RaceStep) :
    (w.step main connected c db i).Inv main connected c db := by
  obtain ⟨hcommitted, hview, hsent, hpulls⟩ := h
  cases i with
  | write =>
    simp only [Race.step]
    split_ifs with hphase
    · rw [hphase] at hview
      split
      · rename_i db' hhandle
        exact ⟨hcommitted, hview ▸ hhandle, hsent, hpulls⟩
      · exact ⟨hcommitted, trivial, hsent, hpulls⟩
    · exact ⟨hcommitted, hview, hsent, hpulls⟩
  | announce =>
    simp only [Race.step]
    split_ifs with hphase
    · rw [hphase] at hview
      refine ⟨hcommitted, hview, fun deviceId hdevice => ?_, hpulls⟩
      rw [List.mem_append, or_right_comm] at hdevice
      rcases hdevice with hdevice | hdevice
      · exact hsent deviceId hdevice
      · exact ⟨_, hview, hdevice⟩
    · exact ⟨hcommitted, hview, hsent, hpulls⟩
  | commit =>
    simp only [Race.step]
    split_ifs with hphase
    · rw [hphase] at hview
      exact ⟨.inr hview, trivial, hsent, hpulls⟩
    · exact ⟨hcommitted, hview, hsent, hpulls⟩
  | deliver deviceId =>
    simp only [Race.step]
    split_ifs with hflight
    · refine ⟨hcommitted, hview, fun other hother => ?_, hpulls⟩
      rcases hother with hother | hother
      · exact hsent other (.inl (List.mem_of_mem_erase hother))
      · by_cases hsame : other = deviceId
        · exact hsent other (.inl (hsame ▸ hflight))
        · exact hsent other (.inr ((Function.update_of_ne hsame _ _).symm.trans hother))
    · exact ⟨hcommitted, hview, hsent, hpulls⟩
  | pull env deviceId authHeader =>
    refine ⟨hcommitted, hview, fun other hother => ?_, fun p hp hreaction => ?_⟩
    · rcases hother with hother | hother
      · exact hsent other (.inl hother)
      · by_cases hsame : other = deviceId
        · subst hsame
          simp [Race.step] at hother
        · simp only [Race.step, Function.update_of_ne hsame] at hother
          exact hsent other (.inr hother)
    · rcases List.mem_append.1 hp with hp | hp
      · exact hpulls p hp hreaction
      · rw [List.mem_singleton.1 hp] at hreaction ⊢
        exact ⟨hsent deviceId (.inr hreaction), _, hcommitted, rfl⟩

/-- **The pulls of every schedule reflect the change exactly if it does not concern the daemons that
are sent a message**: a message may arrive, and be reacted to, before the commit. -/
theorem pushesReflect_iff :
    PushesReflect main connected c db ↔ ConcernsNoRecipient main connected c db := by
  constructor
  · intro hreflect db' hhandle deviceId hrecipient env authHeader
    set schedule : List RaceStep :=
      [.write, .announce, .deliver deviceId, .pull env deviceId authHeader]
    have hpulls : (run (Race.step main connected c db) (Race.start db) schedule).pulls =
        [{ env := env
           deviceId := deviceId
           authHeader := authHeader
           reaction := true
           answer := getDeviceConfigV2 env db deviceId authHeader }] := by
      simp [schedule, run, Race.step, Race.start, Session.start, Session.step, hhandle, hrecipient]
    refine hreflect schedule _ (hpulls ▸ List.mem_singleton_self _) rfl db' hhandle
  · intro hconcerns schedule p hp hreaction db' hhandle
    have hinv : (run (Race.step main connected c db) (Race.start db) schedule).Inv main connected c
        db := run_invariant _ (fun _ i h => h.step i) Race.inv_start schedule
    obtain ⟨⟨db₂, hdb₂, hrecipient⟩, db₁, hdb₁, hanswer⟩ := hinv.pulls p hp hreaction
    rw [hanswer]
    rcases hdb₁ with rfl | hdb₁
    · rw [hhandle] at hdb₂
      cases hdb₂
      exact hconcerns db' hhandle p.deviceId hrecipient p.env p.authHeader
    · rw [hhandle] at hdb₁
      cases hdb₁
      rfl

end

theorem PushingCall.recipients_eq_nil (c : PushingCall) (eventBus wsManager : Bool)
    (connected : List String) (db db' : Database) :
    c.recipients { eventBus := eventBus, wsManager := wsManager } connected db db' = [] := by
  have hnone : c.request.operation.announcements c.env c.entropy db
      { eventBus := eventBus, wsManager := wsManager } db' = {} := by
    cases c.request with
    | reportEndpoint token deviceId req =>
      simp only [PushingRequest.operation, ConfigOperation.announcements,
        publishConfigChange_mainModule]
      split <;> rfl
    | probeResult token deviceId req =>
      simp only [PushingRequest.operation, ConfigOperation.announcements,
        publishConfigChange_mainModule]
      split <;> rfl
    | revoke token deviceId =>
      simp only [PushingRequest.operation, ConfigOperation.announcements,
        publishConfigChange_mainModule]
      split <;> rfl
  rw [recipients, hnone]
  rfl

/-- **No push races ahead of its change.**  In every schedule of a request and the daemons, what a
daemon pulls in reaction to a message of the request is what the changed database answers: as the
module is, the request sends none, and with any other names it is so exactly if the change does not
concern the daemons that are sent one. -/
theorem pushes_reflect (connected : List String) (c : PushingCall) (db : Database) :
    (∀ eventBus wsManager,
      PushesReflect { eventBus := eventBus, wsManager := wsManager } connected c db) ∧
    ∀ main, PushesReflect main connected c db ↔ ConcernsNoRecipient main connected c db := by
  refine ⟨fun eventBus wsManager => ?_, fun main => pushesReflect_iff⟩
  refine pushesReflect_iff.2 fun db' _ deviceId hrecipient => ?_
  rw [PushingCall.recipients_eq_nil] at hrecipient
  exact absurd hrecipient List.not_mem_nil

/-! ### A star and a mesh -/

section

variable {env : Env} {db : Database}

theorem getDeviceConfigV2_of_star {deviceId : Uuid}
    (hstar : ∀ d, db.devices.get? deviceId = some d → ∃ network,
      db.networks.get? d.networkId = some network ∧
        env.settings.topologyOf network.topology = "star")
    (endpoints : Table DeviceEndpoint) (authHeader : Option String) :
    getDeviceConfigV2 env { db with endpoints := endpoints } deviceId authHeader =
      getDeviceConfigV2 env db deviceId authHeader := by
  unfold getDeviceConfigV2
  -- nothing but the last step looks at endpoints
  refine bind_congr fun credentials => bind_congr fun user => bind_congr fun deviceAuth =>
    bind_congr fun _ => bind_congr fun _ => ?_
  dsimp only
  cases hd : db.devices.get? deviceId with
  | none => rfl
  | some d =>
    obtain ⟨network, hnetwork, htopology⟩ := hstar d hd
    simp only [getOr, ok_bind, buildConfigV2_of_star hnetwork htopology]

end

/-- The report of the ketch. -/
def ketchCall : PushingCall where
  env := plainEnv
  entropy := ketchEntropy
  request := .reportEndpoint "ketch" (Uuid.ofNat 82) ketchReport

/-- The module with the name that the helper looks for. -/
def namedMain : MainModule := { names := "get_ws_manager" :: mainNames }

/-- With the name defined, the sloop is sent the message.  In a star its configuration does not show
the ketch, so every pull reflects the report, and there are pulls in reaction to the message; in a
mesh it could pull before the report is committed. -/
theorem pushes_reflect_ketch :
    (PushesReflect namedMain [sloop.id.str] ketchCall (marina "star" .empty) ∧
      ∃ schedule, ∃ p ∈ (run (Race.step namedMain [sloop.id.str] ketchCall (marina "star" .empty))
        (Race.start (marina "star" .empty)) schedule).pulls, p.reaction = true) ∧
    ¬ PushesReflect namedMain [sloop.id.str] ketchCall (marina "mesh" .empty) := by
  refine ⟨⟨?_, ?_⟩, ?_⟩
  · refine ((pushes_reflect _ _ _).2 namedMain).2 fun db' hhandle deviceId _ env authHeader => ?_
    obtain rfl : reportedMarina "star" = db' :=
      Except.ok.inj ((ketch_handled "star").symm.trans hhandle)
    refine (getDeviceConfigV2_of_star (fun d hd => ?_) _ authHeader).symm
    have hnetwork : ∀ d ∈ (marina "star" .empty).devices, d.networkId = Uuid.ofNat 80 := by decide
    rw [hnetwork d (Table.get?_eq_some_iff.1 hd).1]
    exact ⟨_, rfl, rfl⟩
  · exact ⟨[.write, .announce, .commit, .deliver sloop.id, .pull plainEnv sloop.id none], _,
      List.mem_singleton_self _, rfl⟩
  · rw [(pushes_reflect _ _ _).2 namedMain]
    intro hconcerns
    have hsame := hconcerns (reportedMarina "mesh") (ketch_handled "mesh") sloop.id (by decide)
      plainEnv (some "Bearer sloop")
    exact absurd hsame (by decide)

end Midscale
