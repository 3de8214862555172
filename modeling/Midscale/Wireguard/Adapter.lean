import Mathlib.Data.List.Nodup
import Midscale.Data.Datetime
import Midscale.Data.Dict

/-!
# WireGuard interfaces

The runtime state of WireGuard interfaces (`app.services.wg_models`), the interface through
which the controller reads and changes it (`WireGuardAdapter`), and the adapter that keeps it in
memory (`WgMockAdapter`).

* `WGInterface` : an interface, whose peers have distinct keys.
* `putPeer` : what `add_peer` does to the peers, overwriting the peer with the same key.
-/

namespace Midscale

/-- A single peer's runtime state. -/
structure WGPeer where
  publicKey : String
  allowedIps : List String := []
  endpoint : Option String := none
  latestHandshake : Option Timestamp := none
  transferRx : ℤ := 0
  transferTx : ℤ := 0
  persistentKeepalive : Option ℤ := none
  deriving DecidableEq, Repr

/-- The runtime state of an interface as it is reported. -/
structure WGInterfaceState where
  name : String
  privateKey : Option String := none
  publicKey : Option String := none
  listenPort : ℤ := 51820
  fwmark : Option String := none
  peers : List WGPeer := []
  deriving DecidableEq, Repr

/-- The exceptions of `app.services.wg_exceptions`. -/
inductive WireGuardError where
  | interfaceNotFound (interface : String)
  | commandError (command : String) (returnCode : ℤ) (stderr : String)
  | peerNotFound (interface publicKey : String)
  | keyError (message : String)
  | configurationError (message : String)
  deriving DecidableEq, Repr

/-- `key[:16]`. -/
def keyPrefix (key : String) : String := String.ofList (key.toList.take 16)

/-- `str(e)`. -/
def WireGuardError.str : WireGuardError → String
  | interfaceNotFound interface => "WireGuard interface not found: " ++ interface
  | commandError command returnCode stderr =>
    "wg command failed (exit " ++ toString returnCode ++ "): " ++ command ++ "\n" ++ stderr
  | peerNotFound interface publicKey =>
    "Peer " ++ keyPrefix publicKey ++ "... not found on interface " ++ interface
  | keyError message => message
  | configurationError message => message

/-- The operations of `WireGuardAdapter` that the controller uses, on host states `σ`.  An
operation that fails may still have changed the host.  The state of an interface is a value of its
own, as `WgCliAdapter` makes a new one of every dump. -/
structure WireGuardAdapter (σ : Type) where
  interfaceExists : σ → String → Except WireGuardError Bool
  getInterfaceState : σ → String → Except WireGuardError WGInterfaceState
  addPeer : σ → String → String → List String → σ × Except WireGuardError Unit
  removePeer : σ → String → String → σ × Except WireGuardError Unit

/-! ### The mock adapter -/

/-- The peers once `p` is added: it overwrites the peer with its key. -/
def putPeer (p : WGPeer) : List WGPeer → List WGPeer
  | [] => [p]
  | q :: qs => if q.publicKey = p.publicKey then p :: qs else q :: putPeer p qs

theorem mem_keys_putPeer {p : WGPeer} {k : String} {l : List WGPeer} :
    k ∈ (putPeer p l).map (·.publicKey) ↔ k = p.publicKey ∨ k ∈ l.map (·.publicKey) := by
  induction l with
  | nil => simp [putPeer]
  | cons q qs ih =>
    rw [putPeer]
    split_ifs with h
    · simp [h]
    · rw [List.map_cons, List.mem_cons, ih, List.map_cons, List.mem_cons]
      tauto

theorem nodup_putPeer (p : WGPeer) {l : List WGPeer} (h : (l.map (·.publicKey)).Nodup) :
    ((putPeer p l).map (·.publicKey)).Nodup := by
  induction l with
  | nil => simp [putPeer]
  | cons q qs ih =>
    rw [List.map_cons, List.nodup_cons] at h
    rw [putPeer]
    split_ifs with hq
    · rw [List.map_cons, List.nodup_cons, ← hq]
      exact h
    · rw [List.map_cons, List.nodup_cons, mem_keys_putPeer]
      refine ⟨?_, ih h.2⟩
      rintro (hk | hk)
      · exact hq hk
      · exact h.1 hk

theorem mem_putPeer_self (p : WGPeer) (l : List WGPeer) : p ∈ putPeer p l := by
  induction l with
  | nil => exact List.mem_cons_self
  | cons q qs ih =>
    rw [putPeer]
    split_ifs
    · exact List.mem_cons_self
    · exact List.mem_cons_of_mem _ ih

theorem mem_of_mem_putPeer {p q : WGPeer} {l : List WGPeer} (h : q ∈ putPeer p l) :
    q = p ∨ q ∈ l := by
  induction l with
  | nil => exact .inl (List.mem_singleton.1 h)
  | cons r rs ih =>
    rw [putPeer] at h
    split_ifs at h
    · exact (List.mem_cons.1 h).imp_right (List.mem_cons_of_mem _)
    · rcases List.mem_cons.1 h with rfl | h
      · exact .inr List.mem_cons_self
      · exact (ih h).imp_right (List.mem_cons_of_mem _)

theorem mem_putPeer_of_ne {p q : WGPeer} {l : List WGPeer} (h : q ∈ l)
    (hk : q.publicKey ≠ p.publicKey) : q ∈ putPeer p l := by
  induction l with
  | nil => cases h
  | cons r rs ih =>
    rw [putPeer]
    split_ifs with hr
    · rcases List.mem_cons.1 h with rfl | h
      · exact absurd hr hk
      · exact List.mem_cons_of_mem _ h
    · rcases List.mem_cons.1 h with rfl | h
      · exact List.mem_cons_self
      · exact List.mem_cons_of_mem _ (ih h)

/-- An interface: WireGuard identifies its peers by their keys. -/
structure WGInterface extends WGInterfaceState where
  keys_nodup : (peers.map (·.publicKey)).Nodup
  deriving DecidableEq

namespace WGInterface

theorem eq_of_key (st : WGInterface) {p q : WGPeer} (hp : p ∈ st.peers) (hq : q ∈ st.peers)
    (h : p.publicKey = q.publicKey) : p = q :=
  List.inj_on_of_nodup_map st.keys_nodup hp hq h

/-- `add_peer` on an existing interface. -/
def addPeer (st : WGInterface) (p : WGPeer) : WGInterface :=
  { st with peers := putPeer p st.peers, keys_nodup := nodup_putPeer p st.keys_nodup }

/-- `remove_peer` on an existing interface. -/
def removePeer (st : WGInterface) (publicKey : String) : WGInterface :=
  { st with
    peers := st.peers.filter fun p => p.publicKey ≠ publicKey
    keys_nodup := st.keys_nodup.sublist (List.filter_sublist.map _) }

end WGInterface

/-- `WgMockAdapter`. -/
structure WgMockAdapter where
  interfaces : Dict String WGInterface := .empty
  nextKeyCounter : ℕ := 0

namespace WgMockAdapter

/-- `_make_mock_key`. -/
def mockKey (n : ℕ) : String := "MOCK_" ++ Timestamp.padded 40 n ++ "="

/-- `add_peer`; an interface that does not exist is created. -/
def addPeer (m : WgMockAdapter) (interface publicKey : String) (allowedIps : List String) :
    WgMockAdapter :=
  let p : WGPeer := { publicKey, allowedIps }
  match m.interfaces.get? interface with
  | some st => { m with interfaces := m.interfaces.set interface (st.addPeer p) }
  | none =>
    let st : WGInterface :=
      { name := interface, publicKey := some (mockKey (m.nextKeyCounter + 1)), peers := []
        keys_nodup := List.nodup_nil }
    { interfaces := m.interfaces.set interface (st.addPeer p)
      nextKeyCounter := m.nextKeyCounter + 1 }

/-- `remove_peer`. -/
def removePeer (m : WgMockAdapter) (interface publicKey : String) : WgMockAdapter :=
  match m.interfaces.get? interface with
  | some st => { m with interfaces := m.interfaces.set interface (st.removePeer publicKey) }
  | none => m

/-- The mock adapter's operations; they always succeed.  What `get_interface_state` gives is the
state at the call; the mock of the source hands out the object that later calls change. -/
def adapter : WireGuardAdapter WgMockAdapter where
  interfaceExists m interface := .ok (m.interfaces.get? interface).isSome
  getInterfaceState m interface :=
    match m.interfaces.get? interface with
    | some st => .ok st.toWGInterfaceState
    | none => .error (.interfaceNotFound interface)
  addPeer m interface publicKey allowedIps := (m.addPeer interface publicKey allowedIps, .ok ())
  removePeer m interface publicKey := (m.removePeer interface publicKey, .ok ())

theorem get?_addPeer {m : WgMockAdapter} {interface : String} {st : WGInterface}
    (h : m.interfaces.get? interface = some st) (publicKey : String) (allowedIps : List String) :
    (m.addPeer interface publicKey allowedIps).interfaces.get? interface =
      some (st.addPeer { publicKey, allowedIps }) := by
  simp only [addPeer, h, Dict.get?_set_self]

theorem get?_removePeer {m : WgMockAdapter} {interface : String} {st : WGInterface}
    (h : m.interfaces.get? interface = some st) (publicKey : String) :
    (m.removePeer interface publicKey).interfaces.get? interface =
      some (st.removePeer publicKey) := by
  simp only [removePeer, h, Dict.get?_set_self]

end WgMockAdapter

end Midscale
