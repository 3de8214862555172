import Midscale.Daemon.HolePuncher
import Midscale.Data.Waiters
import Midscale.Relay.Frame

/-!
# Responses to a punch

`_attempt_pair` of the hole puncher, and the datagram protocol that it waits on.  The attempt puts a
future under the key of its pair; a datagram is looked up under a key made of its source, once by
the protocol and once by the puncher.

* `SourceAddress.key_inj`, `TypedPair.key_ne` : the keys of two sources differ, and none is the key
  that `__post_init__` makes for a pair.
* `HolePuncher.attemptPair_success` : an attempt succeeds exactly if a punch arrives from a source
  with the key of the pair.
* `recognised_iff` : **when responses are recognised.**
* `recognised_built_iff` : for the pairs that the daemon builds, as long as there are none.
* `attemptPair_unkeyed` : no attempt of the daemon's own pairs succeeds, whatever arrives and
  whatever other attempts do meanwhile.
-/

namespace Midscale

namespace Daemon

/-- `_PUNCH_MAGIC`. -/
def punchMagic : Bytes := Relay.ascii "MIDSCALE_PUNCH_V1"

/-- `CandidatePair`, with the types of its annotations.  Its key may be given. -/
structure TypedPair where
  localEndpoint : String
  localPort : ℤ
  remoteEndpoint : String
  remotePort : ℤ
  pairKey : String := ""
  deriving DecidableEq

/-- A host and a port, as far as the address of a datagram is read. -/
structure SourceAddress where
  host : String
  port : ℤ
  deriving DecidableEq

/-- What a datagram is looked up by. -/
def SourceAddress.key (a : SourceAddress) : String :=
  a.host ++ ":" ++ toString a.port ++ "->..."

/-- The key, as `__post_init__` leaves it. -/
def TypedPair.key (pair : TypedPair) : String :=
  if pair.pairKey = "" then
    pair.localEndpoint ++ ":" ++ toString pair.localPort ++ "->" ++ pair.remoteEndpoint ++ ":" ++
      toString pair.remotePort
  else pair.pairKey

/-- Where the punches of the pair go to. -/
def TypedPair.remote (pair : TypedPair) : SourceAddress where
  host := pair.remoteEndpoint
  port := pair.remotePort

/-- A datagram with its source. -/
structure Datagram where
  data : Bytes
  addr : SourceAddress

/-- The datagram starts with the magic. -/
def Datagram.isPunch (d : Datagram) : Bool := punchMagic.isPrefixOf d.data

/-- `_PunchProtocol`: the futures of the attempts that wait. -/
abbrev PunchProtocol := Waiters String Bytes

/-- `handle_datagram` of the puncher. -/
def handleDatagram (w : PunchProtocol) (d : Datagram) : PunchProtocol :=
  if d.isPunch then w.deliver d.addr.key d.data else w

/-- `datagram_received`. -/
def datagramReceived (w : PunchProtocol) (d : Datagram) : PunchProtocol :=
  handleDatagram (if d.isPunch then w.deliver d.addr.key d.data else w) d

/-- What happens to the protocol. -/
inductive PunchEvent where
  | received (d : Datagram)
  /-- `expect_response` and `forget_response` of an attempt. -/
  | expected (key : String)
  | forgotten (key : String)

/-- One event. -/
def protocolStep (w : PunchProtocol) : PunchEvent → PunchProtocol
  | .received d => datagramReceived w d
  | .expected key => w.expect key
  | .forgotten key => w.forget key

/-- How the punches of an attempt are sent. -/
inductive PunchSetup where
  | noTransport
  | raised (error : String)
  | sent

/-- The circumstances of an attempt; times in microseconds. -/
structure AttemptRun where
  setup : PunchSetup
  startedAt : ℕ
  completedAt : ℕ

/-- `PunchAttempt`. -/
structure PunchAttempt where
  pair : TypedPair
  startedAt : ℕ
  completedAt : Option ℕ := none
  success : Bool := false
  latencyMs : Option ℕ := none
  error : Option String := none

/-- `_attempt_pair`, with what happens between the registration of its future and the end of the
wait. -/
def attemptPair (r : AttemptRun) (pair : TypedPair) (w : PunchProtocol) (events : List PunchEvent) :
    PunchAttempt × PunchProtocol :=
  let attempt : PunchAttempt := { pair, startedAt := r.startedAt }
  match r.setup with
  | .noTransport => ({ attempt with error := some "no transport" }, w)
  | .raised error =>
    ({ attempt with completedAt := some r.completedAt, error := some error }, w)
  | .sent =>
    let waited := run protocolStep (w.expect pair.key) events
    let attempt := { attempt with completedAt := some r.completedAt }
    -- the future of this attempt, done by a reply or not
    match waited.results w.created with
    | some _ =>
      ({ attempt with success := true, latencyMs := some ((r.completedAt - r.startedAt) / 1000) },
        waited.forget pair.key)
    | none => ({ attempt with error := some "timeout" }, waited.forget pair.key)

/-! ### Keys -/

theorem append_cons_inj {c : Char} {xs ys xs' ys' : List Char} (hys : c ∉ ys) (hys' : c ∉ ys')
    (h : xs ++ c :: ys = xs' ++ c :: ys') : xs = xs' ∧ ys = ys' := by
  rcases List.append_eq_append_iff.1 h with ⟨mid, hxs, hmid⟩ | ⟨mid, hxs, hmid⟩
  · cases mid with
    | nil => simp_all
    | cons e mid =>
      have hys : ys = mid ++ c :: ys' := (List.cons.inj hmid).2
      simp_all
  · cases mid with
    | nil => simp_all
    | cons e mid =>
      have hys' : ys' = mid ++ c :: ys := (List.cons.inj hmid).2
      simp_all

theorem colon_not_mem_toString (n : ℤ) : ':' ∉ (toString n).toList := by
  intro h
  rcases mem_toString_int h with h | h <;> exact absurd h (by decide)

/-- **Different sources have different keys.** -/
theorem SourceAddress.key_inj {a b : SourceAddress} : a.key = b.key ↔ a = b := by
  refine ⟨fun h => ?_, fun h => h ▸ rfl⟩
  have hlist := congrArg String.toList h
  simp only [key, String.toList_append, List.append_cancel_right_eq] at hlist
  rw [List.append_assoc, List.append_assoc] at hlist
  obtain ⟨hhost, hport⟩ := append_cons_inj (colon_not_mem_toString a.port)
    (colon_not_mem_toString b.port) hlist
  have hport : toString a.port = toString b.port := String.toList_inj.1 hport
  have hparsed := parseInt_toString_int a.port
  rw [hport, parseInt_toString_int] at hparsed
  cases a
  cases b
  simp_all [String.toList_inj]

theorem getLast?_key (a : SourceAddress) : a.key.toList.getLast? = some '.' := by
  simp only [SourceAddress.key, String.toList_append, List.getLast?_append]
  rfl

/-- **The key of a pair ends in its port, the key of a source in dots.** -/
theorem TypedPair.key_ne {pair : TypedPair} (hkey : pair.pairKey = "") (a : SourceAddress) :
    pair.key ≠ a.key := by
  intro h
  have hport : (toString pair.remotePort).toList ≠ [] := fun hnil =>
    toString_int_ne_empty pair.remotePort (String.toList_eq_nil_iff.1 hnil)
  obtain ⟨c, hc⟩ := Option.ne_none_iff_exists'.1 (mt List.getLast?_eq_none_iff.1 hport)
  have hlast : pair.key.toList.getLast? = some c := by
    simp only [TypedPair.key, if_pos hkey, String.toList_append, List.getLast?_append, hc]
    rfl
  rw [h, getLast?_key] at hlast
  obtain rfl := Option.some.inj hlast
  rcases mem_toString_int (List.mem_of_getLast? hc) with h | h <;> exact absurd h (by decide)

/-! ### Attempts -/

/-- A datagram as steps of the table: the protocol delivers it, and then the puncher. -/
def Datagram.steps (d : Datagram) : List (WaitStep String Bytes) :=
  if d.isPunch then [.deliver d.addr.key d.data, .deliver d.addr.key d.data] else []

/-- An event as steps of the table. -/
def PunchEvent.steps : PunchEvent → List (WaitStep String Bytes)
  | .received d => d.steps
  | .expected key => [.expect key]
  | .forgotten key => [.forget key]

theorem protocolStep_eq (w : PunchProtocol) (e : PunchEvent) :
    protocolStep w e = run Waiters.step w e.steps := by
  cases e with
  | expected key => rfl
  | forgotten key => rfl
  | received d =>
    simp only [protocolStep, datagramReceived, handleDatagram, PunchEvent.steps, Datagram.steps]
    split_ifs <;> rfl

theorem run_protocolStep (w : PunchProtocol) (events : List PunchEvent) :
    run protocolStep w events = run Waiters.step w (events.flatMap PunchEvent.steps) := by
  induction events generalizing w with
  | nil => rfl
  | cons e events ih => rw [run_cons, ih, protocolStep_eq, List.flatMap_cons, run_append]

theorem valid_protocol (events : List PunchEvent) : Waiters.Valid (run protocolStep {} events) := by
  rw [run_protocolStep]
  exact Waiters.valid_run _

/-- **When an attempt succeeds**: a reply under its key comes in time. -/
theorem attemptPair_success {r : AttemptRun} (hsent : r.setup = .sent) (pair : TypedPair)
    {w : PunchProtocol} (hw : w.Valid) (events : List PunchEvent) :
    (attemptPair r pair w events).1.success =
      (Waiters.firstReply pair.key (events.flatMap PunchEvent.steps)).isSome := by
  have hresult := Waiters.result_run_expect hw pair.key (events.flatMap PunchEvent.steps)
  rw [← run_protocolStep] at hresult
  simp only [attemptPair, hsent, hresult]
  cases Waiters.firstReply pair.key (events.flatMap PunchEvent.steps) <;> rfl

theorem firstReply_datagrams (key : String) (ds : List Datagram) :
    (Waiters.firstReply key ((ds.map .received).flatMap PunchEvent.steps)).isSome ↔
      ∃ d ∈ ds, d.isPunch ∧ d.addr.key = key := by
  induction ds with
  | nil => simp [Waiters.firstReply]
  | cons d ds ih =>
    simp only [List.map_cons, List.flatMap_cons, PunchEvent.steps, Datagram.steps]
    by_cases hpunch : d.isPunch = true
    · by_cases hkey : d.addr.key = key
      · simp [hpunch, hkey, Waiters.firstReply]
      · simp only [hpunch, if_true, List.cons_append, List.nil_append, Waiters.firstReply,
          if_neg hkey, ih]
        simp [hkey]
    · simp [hpunch, ih]

theorem firstReply_eq_none {key : String} (hkey : ∀ a : SourceAddress, key ≠ a.key)
    (events : List PunchEvent) :
    Waiters.firstReply key (events.flatMap PunchEvent.steps) = none := by
  induction events with
  | nil => rfl
  | cons e events ih =>
    cases e with
    | expected key' =>
      simp only [List.flatMap_cons, PunchEvent.steps, List.cons_append, List.nil_append,
        Waiters.firstReply, ih, ite_self]
    | forgotten key' =>
      simp only [List.flatMap_cons, PunchEvent.steps, List.cons_append, List.nil_append,
        Waiters.firstReply, ih, ite_self]
    | received d =>
      have hne := (hkey d.addr).symm
      simp only [List.flatMap_cons, PunchEvent.steps, Datagram.steps]
      split_ifs
      · simp [Waiters.firstReply, hne, ih]
      · simpa using ih

/-- **No attempt of a pair as the daemon builds it succeeds**, whatever arrives, from its remote
address or another, and whatever other attempts do meanwhile. -/
theorem attemptPair_unkeyed (r : AttemptRun) {pair : TypedPair} (hkey : pair.pairKey = "")
    (before events : List PunchEvent) :
    (attemptPair r pair (run protocolStep {} before) events).1.success = false := by
  cases hsetup : r.setup with
  | noTransport => simp [attemptPair, hsetup]
  | raised error => simp [attemptPair, hsetup]
  | sent =>
    rw [attemptPair_success hsetup pair (valid_protocol before),
      firstReply_eq_none (TypedPair.key_ne hkey)]
    rfl

/-! ### Recognition -/

section

variable (r : AttemptRun) (pair : TypedPair) (w : PunchProtocol)

/-- Whether an attempt succeeds with these datagrams. -/
def SucceedsWith (ds : List Datagram) : Prop :=
  (attemptPair r pair w (ds.map .received)).1.success = true

/-- Responses are recognised: the attempt succeeds exactly with a punch from the remote address, and
a datagram from elsewhere never makes it succeed. -/
structure Recognised (ds : List Datagram) : Prop where
  success_iff : SucceedsWith r pair w ds ↔ ∃ d ∈ ds, d.isPunch ∧ d.addr = pair.remote
  elsewhere : ∀ before d after, ds = before ++ d :: after → d.addr ≠ pair.remote →
    SucceedsWith r pair w (before ++ [d]) → SucceedsWith r pair w before

end

variable {r : AttemptRun} {pair : TypedPair}

theorem succeedsWith_iff (hsent : r.setup = .sent) {w : PunchProtocol} (hw : w.Valid)
    (ds : List Datagram) :
    SucceedsWith r pair w ds ↔ ∃ d ∈ ds, d.isPunch ∧ d.addr.key = pair.key := by
  rw [SucceedsWith, attemptPair_success hsent pair hw, firstReply_datagrams]

theorem exists_first {α : Type*} (p : α → Prop) [DecidablePred p] {xs : List α}
    (h : ∃ x ∈ xs, p x) : ∃ before x after, xs = before ++ x :: after ∧ p x ∧
      ∀ y ∈ before, ¬ p y := by
  induction xs with
  | nil => simp at h
  | cons x xs ih =>
    by_cases hx : p x
    · exact ⟨[], x, xs, rfl, hx, by simp⟩
    · obtain ⟨before, y, after, rfl, hy, hbefore⟩ := ih (by simpa [hx] using h)
      exact ⟨x :: before, y, after, rfl, hy, List.forall_mem_cons.2 ⟨hx, hbefore⟩⟩

/-- **When responses are recognised**: the pair was given the key of its remote address, or no punch
comes from the remote address, nor from one with the key of the pair. -/
theorem recognised_iff (hsent : r.setup = .sent) (before : List PunchEvent) (ds : List Datagram) :
    Recognised r pair (run protocolStep {} before) ds ↔
      pair.key = pair.remote.key ∨
        ∀ d ∈ ds, d.isPunch → d.addr ≠ pair.remote ∧ d.addr.key ≠ pair.key := by
  have hiff : ∀ ds, SucceedsWith r pair (run protocolStep {} before) ds ↔
      ∃ d ∈ ds, d.isPunch ∧ d.addr.key = pair.key :=
    succeedsWith_iff hsent (valid_protocol before)
  constructor
  · intro h
    by_cases hkey : pair.key = pair.remote.key
    · exact .inl hkey
    · -- the first datagram that completes the attempt is not from the remote address
      have hnone : ¬ ∃ d ∈ ds, d.isPunch ∧ d.addr.key = pair.key := by
        intro hsome
        obtain ⟨pre, d, post, rfl, ⟨hpunch, hd⟩, hfirst⟩ :=
          exists_first (fun d : Datagram => d.isPunch ∧ d.addr.key = pair.key) hsome
        have hne : d.addr ≠ pair.remote := fun heq => hkey (by rw [← hd, heq])
        have hearlier := h.elsewhere pre d post rfl hne
          ((hiff _).2 ⟨d, by simp, hpunch, hd⟩)
        obtain ⟨d', hd', hpunch'⟩ := (hiff pre).1 hearlier
        exact hfirst d' hd' hpunch'
      refine .inr fun d hd hpunch => ⟨fun heq => hnone ?_, fun heq => hnone ⟨d, hd, hpunch, heq⟩⟩
      exact (hiff ds).1 (h.success_iff.2 ⟨d, hd, hpunch, heq⟩)
  · rintro (hkey | hnone)
    · simp only [hkey, SourceAddress.key_inj] at hiff
      refine ⟨hiff ds, fun pre d post _ hne hsucceeds => (hiff pre).2 ?_⟩
      obtain ⟨d', hd', hpunch, haddr⟩ := (hiff _).1 hsucceeds
      rcases List.mem_append.1 hd' with hd' | hd'
      · exact ⟨d', hd', hpunch, haddr⟩
      · rw [List.mem_singleton.1 hd'] at haddr
        exact absurd haddr hne
    · refine ⟨(hiff ds).trans (iff_of_false ?_ ?_), fun pre d post hds _ hsucceeds => ?_⟩
      · rintro ⟨d, hd, hpunch, hkey⟩
        exact (hnone d hd hpunch).2 hkey
      · rintro ⟨d, hd, hpunch, haddr⟩
        exact (hnone d hd hpunch).1 haddr
      · obtain ⟨d', hd', hpunch, hkey⟩ := (hiff _).1 hsucceeds
        have hmem : d' ∈ ds := by
          rw [hds]
          simp only [List.mem_append, List.mem_cons, List.not_mem_nil, or_false] at hd' ⊢
          tauto
        exact absurd hkey (hnone d' hmem hpunch).2

/-- A pair of the daemon, where its candidates hold texts and numbers; it is given no key. -/
def CandidatePair.typed? (pair : CandidatePair) : Option TypedPair :=
  match pair.localEndpoint, pair.localPort, pair.remoteEndpoint, pair.remotePort with
  | .str localEndpoint, .int localPort, .str remoteEndpoint, .int remotePort =>
    some { localEndpoint, localPort, remoteEndpoint, remotePort }
  | _, _, _, _ => none

theorem CandidatePair.typed?_pairKey {pair : CandidatePair} {typed : TypedPair}
    (h : pair.typed? = some typed) : typed.pairKey = "" := by
  unfold CandidatePair.typed? at h
  split at h
  · obtain rfl := Option.some.inj h
    rfl
  · cases h

theorem recognised_built_iff {pair : CandidatePair} {typed : TypedPair}
    (htyped : pair.typed? = some typed) (r : AttemptRun) (before : List PunchEvent)
    (ds : List Datagram) :
    Recognised r typed (run protocolStep {} before) ds ↔
      ∀ d ∈ ds, d.isPunch → d.addr ≠ typed.remote := by
  have hfails : ∀ ds, ¬ SucceedsWith r typed (run protocolStep {} before) ds := fun ds => by
    simp [SucceedsWith, attemptPair_unkeyed r (CandidatePair.typed?_pairKey htyped) before]
  constructor
  · exact fun h d hd hpunch haddr => hfails ds (h.success_iff.2 ⟨d, hd, hpunch, haddr⟩)
  · intro hnone
    refine ⟨iff_of_false (hfails ds) ?_, fun _ _ _ _ _ hsucceeds => absurd hsucceeds (hfails _)⟩
    rintro ⟨d, hd, hpunch, haddr⟩
    exact hnone d hd hpunch haddr

/-! ### An example -/

/-- A pair of two gateways. -/
def gatewayPair : TypedPair where
  localEndpoint := "10.0.0.2"
  localPort := 51820
  remoteEndpoint := "203.0.113.9"
  remotePort := 51820

def gatewayRun : AttemptRun where
  setup := .sent
  startedAt := 0
  completedAt := 2150000

/-- The response of the other gateway. -/
def gatewayResponse : Datagram where
  data := punchMagic ++ Relay.ascii "17000000"
  addr := { host := "203.0.113.9", port := 51820 }

/-- The pair with the key that datagrams of its remote address are looked up under. -/
def keyedPair : TypedPair := { gatewayPair with pairKey := gatewayPair.remote.key }

/-- A punch from a stranger leaves the attempt waiting, and the response of the remote address ends
that of a pair which was given its key. -/
theorem recognised_iff_stranger :
    Recognised gatewayRun gatewayPair {}
        [{ data := punchMagic, addr := { host := "198.51.100.7", port := 4500 } }] ∧
      Recognised gatewayRun keyedPair {} [gatewayResponse] ∧
      SucceedsWith gatewayRun keyedPair {} [gatewayResponse] := by
  have hkeyed : Recognised gatewayRun keyedPair {} [gatewayResponse] :=
    (recognised_iff (r := gatewayRun) rfl [] _).2 (.inl (by decide))
  refine ⟨(recognised_iff (r := gatewayRun) rfl [] _).2 (.inr (by decide)), hkeyed, ?_⟩
  exact hkeyed.success_iff.2 ⟨gatewayResponse, List.mem_singleton_self _, by decide, rfl⟩

/-- **The response of the remote address is not recognised.** -/
theorem gateway_not_recognised : ¬ Recognised gatewayRun gatewayPair {} [gatewayResponse] := by
  intro h
  have hsucceeds := h.success_iff.2 ⟨gatewayResponse, by simp, by decide, rfl⟩
  have hkey : gatewayPair.pairKey = "" := rfl
  have hfails := attemptPair_unkeyed gatewayRun hkey [] [.received gatewayResponse]
  exact absurd hsucceeds (by simpa [SucceedsWith] using hfails)

end Daemon

end Midscale
