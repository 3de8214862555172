import Midscale.Data.JsonLoads
import Midscale.Run.Basic
import Midscale.Wireguard.Controller

/-!
# The event bus

`app.services.event_bus`: events are published on a Redis channel when the bus is connected, and
handed to the callbacks in `_in_memory_subscribers`.  `start_listener` starts a task that reads the
channel; without a connection the task only sleeps, and tries every 30 seconds to connect.

* `EventBus.start`, `startListener`, `listen`, `publish`, `wake`, `receive` : the bus.
* `BusEvent.ofJson_toDict` : an event that went through Redis is the event that was published.
* `events_delivered_iff` : the listener gets exactly what was published, if every event was
  published while it was subscribed at Redis; no other event reaches it.
-/

namespace Midscale

/-! ### Events -/

/-- An event as the bus handles it, with the id and the time it was given; its data can be written
as JSON. -/
structure BusEvent extends Event where
  eventId : String
  createdAt : String
  loadable : (Json.obj data).loadable = true

namespace BusEvent

/-- `event_channel`. -/
def channelOf (eventType : String) : String := "midscale:event" ++ ":" ++ eventType

/-- `event.channel()`. -/
def channel (event : BusEvent) : String := channelOf event.eventType

/-- `event.to_dict()`. -/
def toDict (event : BusEvent) : Json :=
  .obj [("id", .str event.eventId), ("type", .str event.eventType),
    ("created_at", .str event.createdAt), ("data", .obj event.data)]

/-- The event that `listen` makes of a message, `none` where that raises or the fields do not have
their types. -/
def ofJson (j : Json) : Option BusEvent :=
  match j.get? "type", (j.get? "data").getD (.obj []), (j.get? "id").getD (.str ""),
    (j.get? "created_at").getD (.str "") with
  | some (.str eventType), .obj data, .str eventId, .str createdAt =>
    if h : (Json.obj data).loadable = true then some ⟨⟨eventType, data⟩, eventId, createdAt, h⟩
    else none
  | _, _, _, _ => none

/-- `json.loads` and the event made of it. -/
def ofPayload (payload : String) : Option BusEvent := (Json.loads payload).bind ofJson

theorem ofJson_toDict (event : BusEvent) : ofJson event.toDict = some event :=
  dif_pos event.loadable

theorem loadable_toDict (event : BusEvent) : event.toDict.loadable = true := by
  have h := event.loadable
  simp [toDict, Json.loadable, Json.fieldsLoadable] at h ⊢
  exact h

/-- **Writing and reading an event gives the event.** -/
theorem ofPayload_dumps (event : BusEvent) : ofPayload event.toDict.dumps = some event := by
  rw [ofPayload, Json.loads_dumps event.loadable_toDict, Option.bind_some, ofJson_toDict]

/-- What the claim of delivery compares. -/
def key (event : BusEvent) : String × List (String × Json) × String :=
  (event.eventType, event.data, event.eventId)

end BusEvent

/-! ### The bus -/

/-- How far the task of `start_listener` is. -/
inductive Listener where
  /-- There is no task. -/
  | none
  /-- It sleeps in the loop without Redis. -/
  | waiting
  /-- It has connected to Redis and not subscribed yet. -/
  | connected
  /-- It has subscribed and reads the channel. -/
  | subscribed
  deriving DecidableEq, Repr

/-- A callback: the handler that `start_listener` was given, or another function. -/
inductive Callback where
  | handler
  | other (n : ℕ)
  deriving DecidableEq, Repr

/-- `EventBus`, with what Redis holds for its subscription and with the calls so far. -/
structure EventBus where
  redisUrl : Option String
  /-- `_redis is not None`; `_pubsub` is set with it. -/
  redis : Bool := false
  listener : Listener := .none
  inMemorySubscribers : List Callback := []
  /-- The messages of the subscription that are not read yet. -/
  queue : List String := []
  /-- The events that were published, in order. -/
  published : List BusEvent := []
  /-- The events that the handler was called with, in order. -/
  handled : List BusEvent := []

namespace EventBus

/-- The truth value of `self._redis_url`. -/
def configured (bus : EventBus) : Bool := bus.redisUrl.any (· ≠ "")

/-- `_connect_redis`, with whether Redis can be reached. -/
def connectRedis (reachable : Bool) (bus : EventBus) : EventBus := { bus with redis := reachable }

/-- `start` on a new bus. -/
def start (redisUrl : Option String) (reachable : Bool) : EventBus :=
  let bus : EventBus := { redisUrl := redisUrl }
  if bus.configured then bus.connectRedis reachable else bus

/-- The beginning of `listen`: it subscribes, or enters the loop without Redis. -/
def listen (bus : EventBus) : EventBus :=
  { bus with listener := if bus.redis then .subscribed else .waiting }

/-- `start_listener`, up to where the task waits. -/
def startListener (bus : EventBus) : EventBus :=
  if bus.listener = .none then bus.listen else bus

/-- The subscription of the channels `midscale:event:*`. -/
def matchesPattern (channel : String) : Bool := startsWith channel "midscale:event:"

/-- The call of a callback. -/
def call (event : BusEvent) (bus : EventBus) : Callback → EventBus
  | .handler => { bus with handled := bus.handled ++ [event] }
  | .other _ => bus

/-- `publish`; `accepted` says whether `redis.publish` goes through. -/
def publish (event : BusEvent) (accepted : Bool) (bus : EventBus) : EventBus :=
  let payload := event.toDict.dumps
  let queue :=
    if bus.redis ∧ accepted ∧ bus.listener = .subscribed ∧ matchesPattern event.channel then
      bus.queue ++ [payload]
    else bus.queue
  let bus := { bus with queue := queue, published := bus.published ++ [event] }
  bus.inMemorySubscribers.foldl (call event) bus

/-- One turn of the loop without Redis: with a URL it tries to connect. -/
def wake (reachable : Bool) (bus : EventBus) : EventBus :=
  if bus.listener = .waiting ∧ bus.configured ∧ bus.redis = false ∧ reachable then
    { bus.connectRedis true with listener := .connected }
  else bus

/-- The subscription after a reconnection. -/
def subscribe (bus : EventBus) : EventBus :=
  if bus.listener = .connected then { bus with listener := .subscribed } else bus

/-- One message of `pubsub.listen()`; one that cannot be read is logged and dropped. -/
def receive (bus : EventBus) : EventBus :=
  match bus.queue with
  | [] => bus
  | payload :: rest =>
    { bus with queue := rest, handled := bus.handled ++ (BusEvent.ofPayload payload).toList }

/-- The bus once the listener that it was given runs. -/
def running (redisUrl : Option String) (reachable : Bool) : EventBus :=
  (start redisUrl reachable).startListener

end EventBus

/-- A step of the process with its bus. -/
inductive BusStep where
  | publish (event : BusEvent) (accepted : Bool)
  | wake (reachable : Bool)
  | subscribe
  | receive

/-- The events that a step publishes. -/
def BusStep.news : BusStep → List BusEvent
  | .publish event _ => [event]
  | _ => []

namespace EventBus

/-- The bus after a step. -/
def step (bus : EventBus) : BusStep → EventBus
  | .publish event accepted => bus.publish event accepted
  | .wake reachable => bus.wake reachable
  | .subscribe => bus.subscribe
  | .receive => bus.receive

/-- The listener reads until nothing is left. -/
def drain (bus : EventBus) : EventBus := run step bus (List.replicate bus.queue.length .receive)

/-- An event is published while the listener is subscribed, and Redis takes it. -/
def ThroughRedis (bus : EventBus) : BusStep → Prop
  | .publish _ accepted => bus.redis = true ∧ bus.listener = .subscribed ∧ accepted = true
  | _ => True

/-- The events that the handler was called with or will be when it has read everything. -/
def delivered (bus : EventBus) : List BusEvent :=
  bus.handled ++ bus.queue.filterMap BusEvent.ofPayload

theorem matchesPattern_channel (event : BusEvent) : matchesPattern event.channel = true := by
  have h : (BusEvent.channelOf event.eventType).toList =
      "midscale:event:".toList ++ event.eventType.toList := by
    simp only [BusEvent.channelOf, String.toList_append]
    rfl
  rw [matchesPattern, startsWith, BusEvent.channel, h, List.isPrefixOf_iff_prefix]
  exact List.prefix_append _ _

variable {bus : EventBus}

/-! ### One step -/

theorem queue_receive (bus : EventBus) : bus.receive.queue = bus.queue.tail := by
  unfold receive
  split <;> simp [*]

theorem delivered_receive (bus : EventBus) : bus.receive.delivered = bus.delivered := by
  unfold receive delivered
  split
  · rfl
  · rename_i payload rest hqueue
    rw [hqueue, List.filterMap_cons]
    cases BusEvent.ofPayload payload <;> simp

theorem published_receive (bus : EventBus) : bus.receive.published = bus.published := by
  unfold receive
  split <;> rfl

theorem publish_eq (hlocal : bus.inMemorySubscribers = []) (event : BusEvent) (accepted : Bool) :
    (bus.publish event accepted).published = bus.published ++ [event] ∧
      (bus.publish event accepted).delivered = bus.delivered ++
        if bus.redis = true ∧ bus.listener = .subscribed ∧ accepted = true then [event]
        else [] := by
  refine ⟨?_, ?_⟩
  · simp [publish, hlocal]
  · simp only [publish, hlocal, List.foldl_nil, delivered, matchesPattern_channel]
    by_cases h : bus.redis = true ∧ bus.listener = .subscribed ∧ accepted = true
    · simp [h, BusEvent.ofPayload_dumps]
    · have h' : ¬ (bus.redis = true ∧ accepted = true ∧ bus.listener = .subscribed ∧ True) :=
        fun hall => h ⟨hall.1, hall.2.2.1, hall.2.1⟩
      rw [if_neg h', if_neg h, List.append_nil]

theorem step_of_news_eq_nil {st : BusStep} (h : st.news = []) :
    (step bus st).inMemorySubscribers = bus.inMemorySubscribers ∧
      (step bus st).published = bus.published ∧ (step bus st).delivered = bus.delivered := by
  cases st with
  | publish event accepted => cases h
  | wake reachable =>
    simp only [step, wake]
    split_ifs <;> exact ⟨rfl, rfl, rfl⟩
  | subscribe =>
    simp only [step, subscribe]
    split_ifs <;> exact ⟨rfl, rfl, rfl⟩
  | receive =>
    refine ⟨?_, published_receive bus, delivered_receive bus⟩
    simp only [step, receive]
    split <;> rfl

theorem inMemorySubscribers_step (hlocal : bus.inMemorySubscribers = []) (st : BusStep) :
    (step bus st).inMemorySubscribers = [] := by
  cases st with
  | publish event accepted => simp [step, publish, hlocal]
  | wake reachable => exact (step_of_news_eq_nil rfl).1.trans hlocal
  | subscribe => exact (step_of_news_eq_nil rfl).1.trans hlocal
  | receive => exact (step_of_news_eq_nil rfl).1.trans hlocal

theorem published_step (hlocal : bus.inMemorySubscribers = []) (st : BusStep) :
    (step bus st).published = bus.published ++ st.news := by
  cases st with
  | publish event accepted => exact (publish_eq hlocal event accepted).1
  | wake reachable => exact (step_of_news_eq_nil rfl).2.1.trans (List.append_nil _).symm
  | subscribe => exact (step_of_news_eq_nil rfl).2.1.trans (List.append_nil _).symm
  | receive => exact (step_of_news_eq_nil rfl).2.1.trans (List.append_nil _).symm

theorem delivered_step (hlocal : bus.inMemorySubscribers = []) {st : BusStep}
    (h : ThroughRedis bus st) : (step bus st).delivered = bus.delivered ++ st.news := by
  cases st with
  | publish event accepted =>
    have hthrough : bus.redis = true ∧ bus.listener = .subscribed ∧ accepted = true := h
    refine (publish_eq hlocal event accepted).2.trans ?_
    rw [if_pos hthrough, BusStep.news]
  | wake reachable => exact (step_of_news_eq_nil rfl).2.2.trans (List.append_nil _).symm
  | subscribe => exact (step_of_news_eq_nil rfl).2.2.trans (List.append_nil _).symm
  | receive => exact (step_of_news_eq_nil rfl).2.2.trans (List.append_nil _).symm

theorem delivered_step_of_not (hlocal : bus.inMemorySubscribers = []) {st : BusStep}
    (h : ¬ ThroughRedis bus st) :
    (step bus st).delivered = bus.delivered ∧
      (step bus st).published.length = bus.published.length + 1 := by
  cases st with
  | publish event accepted =>
    have hthrough : ¬ (bus.redis = true ∧ bus.listener = .subscribed ∧ accepted = true) := h
    obtain ⟨hpublished, hdelivered⟩ := publish_eq hlocal event accepted
    rw [if_neg hthrough, List.append_nil] at hdelivered
    refine ⟨hdelivered, ?_⟩
    change (bus.publish event accepted).published.length = _
    rw [hpublished, List.length_append, List.length_singleton]
  | wake reachable => exact absurd trivial h
  | subscribe => exact absurd trivial h
  | receive => exact absurd trivial h

/-! ### Runs -/

theorem length_delivered_run (hlocal : bus.inMemorySubscribers = []) (steps : List BusStep) :
    (run step bus steps).delivered.length + bus.published.length ≤
      (run step bus steps).published.length + bus.delivered.length := by
  induction steps generalizing bus with
  | nil => exact (Nat.add_comm _ _).le
  | cons st steps ih =>
    have hrest := ih (inMemorySubscribers_step hlocal st)
    rw [run_cons]
    by_cases h : ThroughRedis bus st
    · rw [published_step hlocal, delivered_step hlocal h, List.length_append,
        List.length_append] at hrest
      omega
    · obtain ⟨hdelivered, hpublished⟩ := delivered_step_of_not hlocal h
      rw [hdelivered, hpublished] at hrest
      omega

theorem delivered_run_iff (hlocal : bus.inMemorySubscribers = [])
    (hsame : bus.delivered = bus.published) (steps : List BusStep) :
    (run step bus steps).delivered.map BusEvent.key =
        (run step bus steps).published.map BusEvent.key ↔
      Admissible step ThroughRedis bus steps := by
  induction steps generalizing bus with
  | nil => exact iff_of_true (by rw [run_nil, hsame]) trivial
  | cons st steps ih =>
    have hlocal' := inMemorySubscribers_step hlocal st
    rw [run_cons, Admissible]
    by_cases h : ThroughRedis bus st
    · have hsame' : (step bus st).delivered = (step bus st).published := by
        rw [delivered_step hlocal h, published_step hlocal, hsame]
      rw [ih hlocal' hsame', and_iff_right h]
    · refine iff_of_false (fun hkeys => ?_) fun hadmissible => h hadmissible.1
      have hlengths := congrArg List.length hkeys
      have hbehind := length_delivered_run hlocal' steps
      obtain ⟨hdelivered, hpublished⟩ := delivered_step_of_not hlocal h
      rw [List.length_map, List.length_map] at hlengths
      rw [hdelivered, hpublished, hsame] at hbehind
      omega

theorem drain_spec (bus : EventBus) : bus.drain.queue = [] ∧ bus.drain.handled = bus.delivered ∧
    bus.drain.published = bus.published := by
  rw [drain]
  generalize hn : bus.queue.length = n
  induction n generalizing bus with
  | zero =>
    have hqueue : bus.queue = [] := List.length_eq_zero_iff.1 hn
    exact ⟨hqueue, by simp [delivered, hqueue], rfl⟩
  | succ n ih =>
    have hlen : bus.receive.queue.length = n := by
      rw [queue_receive, List.length_tail, hn, Nat.add_sub_cancel]
    obtain ⟨hqueue, hhandled, hpublished⟩ := ih bus.receive hlen
    rw [List.replicate_succ, run_cons]
    exact ⟨hqueue, hhandled.trans (delivered_receive bus), hpublished.trans (published_receive bus)⟩

theorem running_spec (redisUrl : Option String) (reachable : Bool) :
    (running redisUrl reachable).inMemorySubscribers = [] ∧
      (running redisUrl reachable).delivered = [] ∧
      (running redisUrl reachable).published = [] := by
  have hstart : ∀ bus : EventBus, bus.inMemorySubscribers = [] → bus.delivered = [] →
      bus.published = [] → bus.startListener.inMemorySubscribers = [] ∧
        bus.startListener.delivered = [] ∧ bus.startListener.published = [] := by
    intro bus hlocal hdelivered hpublished
    unfold startListener
    split_ifs <;> exact ⟨hlocal, hdelivered, hpublished⟩
  unfold running start
  dsimp only
  split_ifs <;> exact hstart _ rfl rfl rfl

end EventBus

/-- **Event delivery.**  However Redis is configured and whether or not it was reached at the
start, the calls of the handler are, once everything is read, exactly the published events in
their order, with their types, data and ids, if and only if every event was published while the
listener was subscribed at Redis and Redis took it. -/
theorem events_delivered_iff (redisUrl : Option String) (reachable : Bool) (steps : List BusStep) :
    let bus := run EventBus.step (.running redisUrl reachable) steps
    bus.drain.handled.map BusEvent.key = bus.drain.published.map BusEvent.key ↔
      Admissible EventBus.step EventBus.ThroughRedis (.running redisUrl reachable) steps := by
  intro bus
  obtain ⟨-, hhandled, hpublished⟩ := bus.drain_spec
  rw [hhandled, hpublished]
  obtain ⟨hlocal, hnone, hnothing⟩ := EventBus.running_spec redisUrl reachable
  exact EventBus.delivered_run_iff hlocal (hnone.trans hnothing.symm) steps

/-- A device is revoked. -/
def revokedEvent : BusEvent where
  eventType := "device.revoked"
  data := [("device_id", .str "7"), ("device_name", .str "camera")]
  eventId := "e1"
  createdAt := "2026-01-01T00:00:00+00:00"
  loadable := by decide

/-- Without Redis the handler is never called. -/
theorem event_lost_without_redis :
    ((EventBus.running none false).publish revokedEvent true).drain.published.map BusEvent.key =
        [("device.revoked", [("device_id", .str "7"), ("device_name", .str "camera")], "e1")] ∧
      ((EventBus.running none false).publish revokedEvent true).drain.handled = [] :=
  ⟨rfl, rfl⟩

end Midscale
