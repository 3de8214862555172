import Midscale.Api.Routes

/-!
# Which prefixes are safe

`check_safe_prefix` compares the text of a prefix with the texts of five reserved networks, and
rejects what is no part of a private network.  Four of the five reserved networks are private, so
any other text for one of their parts passes.

* `endsIn_privateReserved` : a private network that meets a reserved one is a part of one of these
  four.
* `checkSafePrefix_subnet_iff` : what is accepted without the flag of an exit node.
* `prefix_safety_iff` : **the check keeps a text out of the reserved networks exactly if the text
  is one of the five, or denotes no part of the loopback, link-local, class E and this-network
  blocks.**
-/

namespace Midscale

namespace IPv4Network

/-- The two networks share no address. -/
def Disjoint (net other : IPv4Network) : Prop :=
  ∀ x, ¬ (net.contains x = true ∧ other.contains x = true)

theorem contains_iff_between {net : IPv4Network} {x : IPv4Address} : net.contains x = true ↔
    net.networkAddress.val ≤ x.val ∧ x.val ≤ net.broadcastAddress := by
  have hpos := net.numAddresses_pos
  rw [contains_iff, broadcastAddress]
  omega

theorem endsIn_iff {net other : IPv4Network} : net.endsIn other = true ↔
    other.networkAddress.val ≤ net.networkAddress.val ∧
      net.broadcastAddress ≤ other.broadcastAddress := decide_eq_true_iff

theorem endsIn_trans {net other third : IPv4Network} (h : net.endsIn other = true)
    (h' : other.endsIn third = true) : net.endsIn third = true := by
  rw [endsIn_iff] at *
  omega

theorem networkAddress_le_broadcastAddress (net : IPv4Network) :
    net.networkAddress.val ≤ net.broadcastAddress := Nat.le_add_right _ _

/-- All of the first network lies before or after the second one. -/
def Apart (net other : IPv4Network) : Prop :=
  net.broadcastAddress < other.networkAddress.val ∨
    other.broadcastAddress < net.networkAddress.val

instance (net other : IPv4Network) : Decidable (net.Apart other) :=
  inferInstanceAs (Decidable (_ ∨ _))

theorem Apart.disjoint {net part other : IPv4Network} (h : net.Apart other)
    (hpart : part.endsIn net = true) : part.Disjoint other := by
  rintro x ⟨hx, hx'⟩
  rw [contains_iff_between] at hx hx'
  rw [endsIn_iff] at hpart
  rcases h with h | h <;> omega

theorem not_disjoint_of_endsIn {net other : IPv4Network} (h : net.endsIn other = true) :
    ¬ net.Disjoint other := by
  obtain ⟨hfirst, hlast⟩ := endsIn_iff.1 h
  have hle := net.networkAddress_le_broadcastAddress
  exact fun hdisjoint => hdisjoint net.networkAddress
    ⟨contains_iff_between.2 ⟨le_rfl, hle⟩, contains_iff_between.2 ⟨hfirst, hle.trans hlast⟩⟩

theorem Apart.not_touches {net part other : IPv4Network} (h : other.Apart net)
    (hpart : part.endsIn net = true) : part.touches other = false := by
  have hle := part.networkAddress_le_broadcastAddress
  rw [endsIn_iff] at hpart
  rw [touches, decide_eq_false_iff_not]
  rcases h with h | h <;> omega

end IPv4Network

/-- The networks of `_FORBIDDEN_PREFIXES`. -/
def reservedNetworks : List IPv4Network := forbiddenPrefixes.filterMap IPv4Network.parse

/-- The reserved networks that are private: loopback, link-local, class E and this-network. -/
def privateReserved : List IPv4Network :=
  ["127.0.0.0/8", "169.254.0.0/16", "240.0.0.0/4", "0.0.0.0/8"].filterMap IPv4Network.parse

/-! ### Private and reserved networks -/

/-- How the fixed networks lie to each other: each private network is apart from a reserved one, or
a part of a private one of these; those are private and reserved, and apart from the exceptions. -/
structure ReservedNetworksLie : Prop where
  private_apart : ∀ p ∈ IPv4Network.privateNetworks, ∀ r ∈ reservedNetworks,
    p.Apart r ∨ ∃ q ∈ privateReserved, p.endsIn q = true
  isPrivate : ∀ q ∈ privateReserved, q ∈ IPv4Network.privateNetworks
  reserved : ∀ q ∈ privateReserved, q ∈ reservedNetworks
  exceptions_apart : ∀ q ∈ privateReserved, ∀ e ∈ IPv4Network.privateExceptions, e.Apart q
  loopback : ∃ q ∈ privateReserved, IPv4Network.parse "127.0.0.0/8" = some q

theorem reservedNetworks_lie : ReservedNetworksLie := by
  have hall : (∀ p ∈ IPv4Network.privateNetworks, ∀ r ∈ reservedNetworks,
        p.Apart r ∨ ∃ q ∈ privateReserved, p.endsIn q = true) ∧
      (∀ q ∈ privateReserved, q ∈ IPv4Network.privateNetworks ∧ q ∈ reservedNetworks ∧
        ∀ e ∈ IPv4Network.privateExceptions, e.Apart q) ∧
      ∃ q ∈ privateReserved, IPv4Network.parse "127.0.0.0/8" = some q := by
    decide
  obtain ⟨hapart, hreserved, hloopback⟩ := hall
  exact ⟨hapart, fun q hq => (hreserved q hq).1, fun q hq => (hreserved q hq).2.1,
    fun q hq => (hreserved q hq).2.2, hloopback⟩

section

variable {net : IPv4Network}

/-- **A private or loopback network that meets a reserved one is a part of a private one of
these.** -/
theorem endsIn_privateReserved (hprivate : net.isPrivate = true ∨ net.isLoopback = true)
    {r : IPv4Network} (hr : r ∈ reservedNetworks) (hmeets : ¬ net.Disjoint r) :
    ∃ q ∈ privateReserved, net.endsIn q = true := by
  rcases hprivate with hprivate | hloopback
  · obtain ⟨p, hp, hends⟩ := List.any_eq_true.1 (of_decide_eq_true hprivate).1
    rcases reservedNetworks_lie.private_apart p hp r hr with hapart | ⟨q, hq, hpart⟩
    · exact absurd (hapart.disjoint hends) hmeets
    · exact ⟨q, hq, IPv4Network.endsIn_trans hends hpart⟩
  · obtain ⟨q, hq, hparse⟩ := reservedNetworks_lie.loopback
    rw [IPv4Network.isLoopback, hparse, Option.any_some] at hloopback
    exact ⟨q, hq, hloopback⟩

theorem isPrivate_of_endsIn {q : IPv4Network} (hq : q ∈ privateReserved)
    (hends : net.endsIn q = true) : net.isPrivate = true := by
  refine decide_eq_true ⟨List.any_eq_true.2 ⟨q, reservedNetworks_lie.isPrivate q hq, hends⟩, ?_⟩
  rw [List.any_eq_true]
  rintro ⟨e, he, htouches⟩
  rw [(reservedNetworks_lie.exceptions_apart q hq e he).not_touches hends] at htouches
  cases htouches

end

/-! ### The check -/

section

variable {settings : Settings} {pfx : String}

/-- **What is accepted without the flag of an exit node**, with debug off. -/
theorem checkSafePrefix_subnet_iff (hdebug : settings.debug = false) :
    checkSafePrefix settings pfx false = .ok () ↔ pfx ∉ forbiddenPrefixes ∧
      ∃ net, IPv4Network.parse pfx = some net ∧ 8 ≤ net.prefixlen.val ∧
        (net.isPrivate = true ∨ net.isLoopback = true) := by
  rw [checkSafePrefix]
  split_ifs with hforbidden hall
  · exact iff_of_false (fun h => by cases h) fun h => h.1 hforbidden
  · refine iff_of_false (fun h => by simp [ensure_eq_ok] at h) ?_
    -- the two default routes denote no network of prefix length 8 or more
    rintro ⟨-, net, hparse, hlen, -⟩
    rcases hall with rfl | rfl
    · have hzero : (IPv4Network.parse "0.0.0.0/0").map (·.prefixlen.val) = some 0 := by
        decide
      rw [hparse, Option.map_some, Option.some.injEq] at hzero
      omega
    · have hnone : IPv4Network.parse "::/0" = none := by decide
      rw [hnone] at hparse
      cases hparse
  · simp only [bind_eq_ok, getOr_eq_ok, ensure_eq_ok, hdebug, Bool.false_eq_true, or_false]
    constructor
    · rintro ⟨net, hparse, -, hlen, hprivate⟩
      exact ⟨hforbidden, net, hparse, hlen, hprivate⟩
    · rintro ⟨-, net, hparse, hlen, hprivate⟩
      exact ⟨net, hparse, (), hlen, hprivate⟩

theorem isExitNode_of_checkSafePrefix {isExitNode : Bool}
    (hok : checkSafePrefix settings pfx isExitNode = .ok ())
    (hall : pfx = "::/0" ∨ ∃ net, IPv4Network.parse pfx = some net ∧ net.prefixlen.val = 0) :
    isExitNode = true := by
  rw [checkSafePrefix] at hok
  split_ifs at hok with hforbidden hdefault
  · simpa [ensure_eq_ok] using hok
  · simp only [bind_eq_ok, getOr_eq_ok, ensure_eq_ok] at hok
    obtain ⟨net, hparse, -, hlen, -⟩ := hok
    rcases hall with rfl | ⟨net', hparse', hzero⟩
    · exact absurd (.inr rfl) hdefault
    · rw [hparse, Option.some.injEq] at hparse'
      subst hparse'
      omega

end

/-- **The check keeps a text out of the reserved networks, with debug off, exactly if** the text is
one of the five, or does not denote a part of the loopback, link-local, class E and this-network
blocks of prefix length 8 or more. -/
theorem prefix_safety_iff (settings : Settings) (hdebug : settings.debug = false) (pfx : String) :
    ((checkSafePrefix settings pfx false = .ok () → ∃ net, IPv4Network.parse pfx = some net ∧
        8 ≤ net.prefixlen.val ∧ ∀ r ∈ reservedNetworks, net.Disjoint r) ∧
      ∀ isExitNode, checkSafePrefix settings pfx isExitNode = .ok () →
        (pfx = "::/0" ∨ ∃ net, IPv4Network.parse pfx = some net ∧ net.prefixlen.val = 0) →
          isExitNode = true) ↔
    (pfx ∈ forbiddenPrefixes ∨ ∀ net, IPv4Network.parse pfx = some net → 8 ≤ net.prefixlen.val →
      ∀ r ∈ privateReserved, net.endsIn r = false) := by
  rw [and_iff_left fun _ hok hall => isExitNode_of_checkSafePrefix hok hall,
    checkSafePrefix_subnet_iff hdebug]
  constructor
  · intro hsafe
    rw [or_iff_not_imp_left]
    intro hforbidden net hparse hlen r hr
    by_contra hends
    rw [Bool.not_eq_false] at hends
    obtain ⟨net', hparse', -, hdisjoint⟩ := hsafe ⟨hforbidden, net, hparse, hlen,
      .inl (isPrivate_of_endsIn hr hends)⟩
    rw [hparse, Option.some.injEq] at hparse'
    subst hparse'
    exact IPv4Network.not_disjoint_of_endsIn hends
      (hdisjoint r (reservedNetworks_lie.reserved r hr))
  · rintro hsafe ⟨hforbidden, net, hparse, hlen, hprivate⟩
    refine ⟨net, hparse, hlen, fun r hr => ?_⟩
    by_contra hmeets
    obtain ⟨q, hq, hends⟩ := endsIn_privateReserved hprivate hr hmeets
    have hout := hsafe.resolve_left hforbidden net hparse hlen q hq
    rw [hends] at hout
    cases hout

/-- A private subnet. -/
theorem prefix_safety_subnet :
    checkSafePrefix {} "192.168.7.0/24" false = .ok () ∧
      ∃ net, IPv4Network.parse "192.168.7.0/24" = some net ∧ 8 ≤ net.prefixlen.val ∧
        ∀ r ∈ reservedNetworks, net.Disjoint r := by
  have hok : checkSafePrefix {} "192.168.7.0/24" false = .ok () := by decide
  refine ⟨hok, ((prefix_safety_iff {} rfl "192.168.7.0/24").2 (.inr fun net hparse _ r hr => ?_)).1
    hok⟩
  have hout : ∀ r ∈ privateReserved,
      ((IPv4Network.parse "192.168.7.0/24").all fun net => !net.endsIn r) = true := by
    decide
  have hr := hout r hr
  rw [hparse] at hr
  simpa using hr

/-- A part of the loopback block is accepted. -/
theorem loopback_part_accepted :
    checkSafePrefix {} "127.1.0.0/16" false = .ok () ∧
      ∃ net, IPv4Network.parse "127.1.0.0/16" = some net ∧
        ∃ r ∈ reservedNetworks, IPv4Network.parse "127.0.0.0/8" = some r ∧ ¬ net.Disjoint r := by
  obtain ⟨net, hnet⟩ : ∃ net, IPv4Network.parse "127.1.0.0/16" = some net :=
    Option.isSome_iff_exists.1 (by decide)
  obtain ⟨q, hq, hparse⟩ := reservedNetworks_lie.loopback
  have hends : ((IPv4Network.parse "127.1.0.0/16").all fun net =>
      (IPv4Network.parse "127.0.0.0/8").all net.endsIn) = true := by decide
  rw [hnet, hparse] at hends
  exact ⟨by decide, net, hnet, q, reservedNetworks_lie.reserved q hq, hparse,
    IPv4Network.not_disjoint_of_endsIn hends⟩

end Midscale
