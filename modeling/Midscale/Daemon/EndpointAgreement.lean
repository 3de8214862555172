import Midscale.Config.Enrichment
import Midscale.Daemon.Endpoints

/-!
# Whether the peers know where a device is

The endpoint monitor reports an endpoint when it differs from the last one whose report was
answered, and the server adds a row for every report.  The other devices are told to prefer one of
the rows; while nobody has probed them that is the newest one.

* `selectBestEndpoint_reported` : of reported endpoints the newest one is preferred.
* `MonitorWorld.step_spec` : what a step does to the agreement.
* `endpoint_agreement_iff` : **the peers prefer the endpoint that the daemon takes for known, all
  along a run, exactly if no answer to a report gets lost that replaces another one.**
-/

namespace Midscale

/-! ### Preferred endpoints -/

/-- The endpoint of a device that its peers are to prefer. -/
def Database.preferredEndpoint (db : Database) (deviceId : Uuid) : Option String :=
  (selectBestEndpoint (sortEndpoints (db.activeEndpoints deviceId))).map (·.endpoint)

/-- Rows as reports leave them, in the order of the reports: none is probed, and each is newer than
those before it. -/
structure Reported (rows : List DeviceEndpoint) : Prop where
  unprobed : ∀ r ∈ rows, r.score = 0 ∧ r.reachable = false ∧ r.latencyMs = none ∧ r.priority = 100
  newer : rows.Pairwise fun r r' => r.lastSeen < r'.lastSeen

theorem insertionSort_eq_reverse {α : Type*} {r : α → α → Prop} [DecidableRel r] {l : List α}
    (h : l.Pairwise fun a b => ¬ r a b) : l.insertionSort r = l.reverse := by
  induction l with
  | nil => rfl
  | cons a l ih =>
    obtain ⟨ha, hl⟩ := List.pairwise_cons.1 h
    rw [List.insertionSort_cons, ih hl, List.reverse_cons]
    have hlast : ∀ m : List α, (∀ b ∈ m, ¬ r a b) → m.orderedInsert r a = m ++ [a] := by
      intro m hm
      induction m with
      | nil => rfl
      | cons b m ihm =>
        rw [List.orderedInsert_cons, if_neg (hm b List.mem_cons_self),
          ihm fun c hc => hm c (List.mem_cons_of_mem b hc), List.cons_append]
    exact hlast _ fun b hb => ha b (List.mem_reverse.1 hb)

/-- **Of reported endpoints the newest one is preferred.** -/
theorem selectBestEndpoint_reported {rows : List DeviceEndpoint} (h : Reported rows) :
    selectBestEndpoint (sortEndpoints rows) = rows.getLast? := by
  have hkey : ∀ r ∈ rows, r.candidateKey = [0, 0, -9999, -100] := fun r hr => by
    obtain ⟨hscore, hreachable, hlatency, hpriority⟩ := h.unprobed r hr
    simp [DeviceEndpoint.candidateKey, hscore, hreachable, hlatency, hpriority, orPort]
  have hreverse : sortEndpoints rows = rows.reverse := by
    refine insertionSort_eq_reverse (h.newer.imp_of_mem fun {r r'} hr hr' hlt => ?_)
    have hsame : r.priority = r'.priority := by
      rw [(h.unprobed r hr).2.2.2, (h.unprobed r' hr').2.2.2]
    rintro (hlower | ⟨-, hle⟩)
    · exact absurd hlower (hsame ▸ lt_irrefl _)
    · exact absurd hle (not_le_of_gt hlt)
  have hkept : sortEndpointCandidates rows.reverse = rows.reverse := by
    refine List.Pairwise.insertionSort_eq (List.pairwise_of_forall_mem_list fun r hr r' hr' => ?_)
    rw [hkey r (List.mem_reverse.1 hr), hkey r' (List.mem_reverse.1 hr')]
  rw [hreverse, selectBestEndpoint, hkept, List.head?_reverse]

namespace Daemon

/-! ### The monitor and the server -/

/-- The daemon of a device and the server. -/
structure MonitorWorld where
  /-- `state.current_endpoint`. -/
  current : Option String := none
  db : Database

/-- What becomes of a report. -/
inductive Delivery where
  /-- It does not reach the server. -/
  | lost
  | answered (env : Env) (e : Entropy)
  /-- The server handles it, and its answer does not reach the daemon. -/
  | unanswered (env : Env) (e : Entropy)

/-- What happens. -/
inductive MonitorEvent where
  /-- A round of `_run_loop`: what it detects, and what becomes of a report. -/
  | round (d : Detection) (delivery : Delivery)
  /-- The daemon is started again, with a new `DaemonState`. -/
  | restart
  /-- Anything else that happens on the server. -/
  | elsewhere (db : Database)

section

variable (m : EndpointMonitor) (token : String) (deviceId : Uuid)

/-- The database after the server has handled a report, if it accepts it. -/
def accepts (env : Env) (e : Entropy) (db : Database) (req : EndpointReport) : Option Database :=
  match deviceReportEndpoint env e db token deviceId req with
  | .ok (_, db') => some db'
  | .error _ => none

namespace MonitorWorld

variable (w : MonitorWorld)

/-- One round with something to report. -/
def send (req : EndpointReport) : Delivery → MonitorWorld
  | .lost => w
  | .answered env e =>
    match accepts token deviceId env e w.db req with
    | some db => { current := some req.endpoint, db := db }
    | none => w
  | .unanswered env e => { w with db := (accepts token deviceId env e w.db req).getD w.db }

/-- One event. -/
def step : MonitorEvent → MonitorWorld
  | .round d delivery =>
    match m.report d w.current with
    | some req => w.send token deviceId req delivery
    | none => w
  | .restart => { w with current := none }
  | .elsewhere db => { w with db := db }

/-- The peers are to prefer the endpoint that the daemon takes for known. -/
def Agrees : Prop := ∀ endpoint, w.current = some endpoint → w.db.preferredEndpoint deviceId = some endpoint

/-- The server handles reports at later and later times, and what else happens leaves the endpoints
of the device alone. -/
def Fresh : MonitorEvent → Prop
  | .round _ (.answered env _) | .round _ (.unanswered env _) =>
    ∀ r ∈ w.db.activeEndpoints deviceId, r.lastSeen < env.now
  | .elsewhere db => db.activeEndpoints deviceId = w.db.activeEndpoints deviceId
  | _ => True

/-- The answer to an accepted report does not get lost, unless the daemon knows of no endpoint. -/
def KeepsAnswer : MonitorEvent → Prop
  | .round d (.unanswered env e) => ∀ req, m.report d w.current = some req →
    (accepts token deviceId env e w.db req).isSome = true → w.current = none
  | _ => True

end MonitorWorld

end

section

variable {m : EndpointMonitor} {token : String} {deviceId : Uuid}

theorem activeEndpoints_of_accepts {env : Env} {e : Entropy} {db db' : Database}
    {req : EndpointReport} (h : accepts token deviceId env e db req = some db') :
    db'.activeEndpoints deviceId =
      db.activeEndpoints deviceId ++ [req.row env.now e.rowId deviceId] := by
  rw [accepts] at h
  split at h
  · rename_i resp db₁ hok
    cases h
    obtain ⟨-, endpoints, -, -, hinsert, rfl⟩ := deviceReportEndpoint_eq_ok hok
    rw [Database.activeEndpoints, Table.select, (Table.insert_eq_some hinsert).1, List.filter_append]
    simp [Database.activeEndpoints, Table.select, EndpointReport.row]
  · cases h

theorem accepts_reported {env : Env} {e : Entropy} {db db' : Database} {req : EndpointReport}
    (hrows : Reported (db.activeEndpoints deviceId))
    (hnewer : ∀ r ∈ db.activeEndpoints deviceId, r.lastSeen < env.now)
    (h : accepts token deviceId env e db req = some db') :
    Reported (db'.activeEndpoints deviceId) ∧
      db'.preferredEndpoint deviceId = some req.endpoint := by
  have hactive := activeEndpoints_of_accepts h
  have hreported : Reported (db'.activeEndpoints deviceId) := by
    rw [hactive]
    constructor
    · intro r hr
      rcases List.mem_append.1 hr with hr | hr
      · exact hrows.unprobed r hr
      · rw [List.mem_singleton.1 hr]
        exact ⟨rfl, rfl, rfl, rfl⟩
    · refine List.pairwise_append.2 ⟨hrows.newer, List.pairwise_singleton _ _, ?_⟩
      intro r hr r' hr'
      rw [List.mem_singleton.1 hr']
      exact hnewer r hr
  refine ⟨hreported, ?_⟩
  rw [Database.preferredEndpoint, selectBestEndpoint_reported hreported, hactive,
    List.getLast?_concat]
  rfl

theorem EndpointMonitor.report_ne {d : Detection} {current : Option String} {req : EndpointReport}
    (h : m.report d current = some req) : current ≠ some req.endpoint := by
  obtain ⟨detected, hdetected, rfl⟩ := Option.map_eq_some_iff.1 h
  rw [Option.filter_eq_some_iff] at hdetected
  exact (of_decide_eq_true hdetected.2).symm

namespace MonitorWorld

variable {w : MonitorWorld}

theorem agrees_of_none (h : w.current = none) : w.Agrees deviceId := fun endpoint hcurrent => by
  rw [h] at hcurrent
  cases hcurrent

/-- What a report does to the rows and to the agreement. -/
theorem send_spec (hrows : Reported (w.db.activeEndpoints deviceId)) {d : Detection}
    {delivery : Delivery} (hfresh : w.Fresh deviceId (.round d delivery)) {req : EndpointReport}
    (hreq : m.report d w.current = some req) :
    Reported ((w.send token deviceId req delivery).db.activeEndpoints deviceId) ∧
      (w.Agrees deviceId → ((w.send token deviceId req delivery).Agrees deviceId ↔
        w.KeepsAnswer m token deviceId (.round d delivery))) := by
  cases delivery with
  | lost => exact ⟨hrows, fun hagrees => iff_of_true hagrees trivial⟩
  | answered env e =>
    rw [send]
    cases haccepts : accepts token deviceId env e w.db req with
    | none => exact ⟨hrows, fun hagrees => iff_of_true hagrees trivial⟩
    | some db =>
      obtain ⟨hreported, hpreferred⟩ := accepts_reported hrows hfresh haccepts
      exact ⟨hreported, fun _ => iff_of_true (fun endpoint h => h ▸ hpreferred) trivial⟩
  | unanswered env e =>
    rw [send]
    cases haccepts : accepts token deviceId env e w.db req with
    | none =>
      refine ⟨hrows, fun hagrees => iff_of_true hagrees fun req' hreq' hsome => ?_⟩
      obtain rfl : req = req' := Option.some.inj (hreq.symm.trans hreq')
      rw [haccepts] at hsome
      cases hsome
    | some db =>
      obtain ⟨hreported, hpreferred⟩ := accepts_reported hrows hfresh haccepts
      refine ⟨hreported, fun _ => ⟨fun h req' hreq' _ => ?_, fun h => ?_⟩⟩
      · -- the peers prefer the new endpoint, the daemon knows of an earlier one
        by_contra hknown
        obtain ⟨endpoint, hendpoint⟩ := Option.ne_none_iff_exists'.1 hknown
        have heq : some req.endpoint = some endpoint :=
          hpreferred.symm.trans (h endpoint hendpoint)
        exact m.report_ne hreq (hendpoint.trans heq.symm)
      · exact agrees_of_none (h req hreq (by rw [haccepts]; rfl))

/-- **What a step does to the rows and to the agreement.** -/
theorem step_spec (hrows : Reported (w.db.activeEndpoints deviceId)) (event : MonitorEvent)
    (hfresh : w.Fresh deviceId event) :
    Reported ((w.step m token deviceId event).db.activeEndpoints deviceId) ∧
      (w.Agrees deviceId → ((w.step m token deviceId event).Agrees deviceId ↔
        w.KeepsAnswer m token deviceId event)) := by
  cases event with
  | round d delivery =>
    rw [step]
    cases hreq : m.report d w.current with
    | none =>
      refine ⟨hrows, fun hagrees => iff_of_true hagrees ?_⟩
      cases delivery with
      | unanswered env e => exact fun req hsome => by cases hreq.symm.trans hsome
      | _ => trivial
    | some req => exact send_spec hrows hfresh hreq
  | restart => exact ⟨hrows, fun _ => iff_of_true (agrees_of_none rfl) trivial⟩
  | elsewhere db =>
    have hsame : db.activeEndpoints deviceId = w.db.activeEndpoints deviceId := hfresh
    rw [step]
    refine ⟨hsame ▸ hrows, fun hagrees => iff_of_true (fun endpoint h => ?_) trivial⟩
    rw [Database.preferredEndpoint, hsame]
    exact hagrees endpoint h

end MonitorWorld

/-- **Whether the peers know where a device is**: for a device whose endpoints come from its reports
and are not probed, the peers prefer the endpoint that its daemon takes for known, in every state of
a run of rounds and restarts, exactly if no answer to an accepted report gets lost while the daemon
knows of another endpoint. -/
theorem endpoint_agreement_iff {w : MonitorWorld} (hrows : Reported (w.db.activeEndpoints deviceId))
    (hagrees : w.Agrees deviceId) {events : List MonitorEvent}
    (hfresh : Admissible (MonitorWorld.step m token deviceId) (MonitorWorld.Fresh deviceId) w
      events) :
    (∀ pre, pre <+: events → (run (MonitorWorld.step m token deviceId) w pre).Agrees deviceId) ↔
      Admissible (MonitorWorld.step m token deviceId) (MonitorWorld.KeepsAnswer m token deviceId) w
        events := by
  have hstep : ∀ (w : MonitorWorld) event,
      Reported (w.db.activeEndpoints deviceId) ∧ w.Agrees deviceId → w.Fresh deviceId event →
        (Reported ((w.step m token deviceId event).db.activeEndpoints deviceId) ∧
          (w.step m token deviceId event).Agrees deviceId ↔ w.KeepsAnswer m token deviceId event) := by
    intro w event h hlater
    obtain ⟨hreported, hiff⟩ := MonitorWorld.step_spec h.1 event hlater
    rw [and_iff_right hreported]
    exact hiff h.2
  rw [← forall_prefix_iff_admissible (MonitorWorld.step m token deviceId) hstep ⟨hrows, hagrees⟩ hfresh]
  -- the rows stay as reports leave them, whether their answers arrive or not
  have hreported : ∀ (w : MonitorWorld) event, Reported (w.db.activeEndpoints deviceId) →
      w.Fresh deviceId event →
        Reported ((w.step m token deviceId event).db.activeEndpoints deviceId) :=
    fun w event h hlater => (MonitorWorld.step_spec h event hlater).1
  refine forall₂_congr fun pre hpre => (and_iff_right ?_).symm
  exact run_invariant_of_admissible (MonitorWorld.step m token deviceId) hreported hrows
    (hfresh.of_prefix _ hpre)

end

/-! ### A rover -/

/-- A device that may report. -/
def rover : Database where
  devices := .ofRows [{ id := Uuid.ofNat 91, name := "rover", networkId := Uuid.ofNat 90
                        deviceTokenHash := some "hash:rover" }] (List.nodup_singleton _)

/-- The rover's monitor finds it at an address. -/
def roverAt (address : String) (delivery : Delivery) : MonitorEvent :=
  .round { localIp := some address, stun := none } delivery

/-- The server at a time. -/
def roverServer (now : Timestamp) : Env := { plainEnv with now := now }

/-- The rover reports where it is, and then that it has moved, and does not hear of it. -/
def roverEvents : List MonitorEvent :=
  [roverAt "10.9.0.5" (.answered (roverServer 1) { raftEntropy with rowId := Uuid.ofNat 92 }),
    roverAt "10.9.0.6" (.unanswered (roverServer 2) { raftEntropy with rowId := Uuid.ofNat 93 })]

/-- The peers of the rover prefer the new endpoint, and the rover takes the old one for known: if it
moves back, it does not say so. -/
theorem endpoint_agreement_iff_rover :
    (run (MonitorWorld.step {} "rover" (Uuid.ofNat 91)) { db := rover } roverEvents).current =
        some "10.9.0.5:51820" ∧
      ¬ ∀ pre, pre <+: roverEvents →
        (run (MonitorWorld.step {} "rover" (Uuid.ofNat 91)) { db := rover } pre).Agrees
          (Uuid.ofNat 91) := by
  have hfirst : ∀ r ∈ rover.activeEndpoints (Uuid.ofNat 91), r.lastSeen < 1 := by decide
  have hsecond : ∀ r ∈ (run (MonitorWorld.step {} "rover" (Uuid.ofNat 91)) { db := rover }
      (roverEvents.take 1)).db.activeEndpoints (Uuid.ofNat 91), r.lastSeen < 2 := by decide
  have hfresh : Admissible (MonitorWorld.step {} "rover" (Uuid.ofNat 91))
      (MonitorWorld.Fresh (Uuid.ofNat 91)) { db := rover } roverEvents := ⟨hfirst, hsecond, trivial⟩
  refine ⟨by decide, fun hall => ?_⟩
  have hkept := (endpoint_agreement_iff ⟨fun _ h => absurd h List.not_mem_nil, List.Pairwise.nil⟩
    (MonitorWorld.agrees_of_none rfl) hfresh).1 hall
  exact absurd (hkept.2.1 _ rfl (by decide)) (by decide)

end Daemon

end Midscale
