import Mathlib.Data.List.Basic

/-!
# Groups, members and links

Groups have an owner, members of a group may have a holder, and members attach links to groups.
Entries are added and removed as a whole; an entry that stays keeps its owner or its holder.

* `Tenancy.Step` : the changes, whoever makes them.
* `Tenancy.Sound` : who holds a member may act on its group, and a link is attached by a member of
  its group.
* `Step.sound` : **every step keeps a tenancy sound.**
* `Step.owner_old_or_new`, `Step.member_old_or_new` : no entry changes.
-/

namespace Midscale

/-- Groups with their owners, members with their groups and holders, and links with the member that
attached them and the group they belong to. -/
structure Tenancy (G M U : Type*) where
  owners : List (G × Option U)
  members : List (M × G × Option U)
  links : List (M × G)

namespace Tenancy

variable {G M U : Type*} (admin : U → Prop)

/-- The user owns the group. -/
def Owns (s : Tenancy G M U) (u : U) (g : G) : Prop := (g, some u) ∈ s.owners

/-- The user is an administrator or owns the group. -/
def MayAct (s : Tenancy G M U) (u : U) (g : G) : Prop := admin u ∨ s.Owns u g

/-- The user holds a member of the group. -/
def Holds (s : Tenancy G M U) (u : U) (g : G) : Prop := ∃ m, (m, g, some u) ∈ s.members

/-- The changes of a tenancy. -/
inductive Step [DecidableEq G] (s : Tenancy G M U) : Tenancy G M U → Prop
  | kept : Step s s
  /-- A new group comes with a first member, which its owner holds. -/
  | created {g : G} {m : M} {o : Option U} (hg : ∀ x ∈ s.owners, x.1 ≠ g)
      (hm : ∀ x ∈ s.members, x.1 ≠ m) :
      Step s { s with owners := s.owners ++ [(g, o)], members := s.members ++ [(m, g, o)] }
  /-- A new member is held by someone who may act on its group, or by nobody. -/
  | joined {g : G} {m : M} {h : Option U} (hm : ∀ x ∈ s.members, x.1 ≠ m)
      (hh : ∀ u ∈ h, s.MayAct admin u g) : Step s { s with members := s.members ++ [(m, g, h)] }
  /-- A group without links goes with all its members. -/
  | dissolved {g : G} (hlinks : ∀ l ∈ s.links, l.2 ≠ g) :
      Step s { s with
        owners := s.owners.filter fun x => x.1 ≠ g
        members := s.members.filter fun x => x.2.1 ≠ g }
  | linked {g : G} {m : M} {h : Option U} (hm : (m, g, h) ∈ s.members) :
      Step s { s with links := s.links ++ [(m, g)] }
  | unlinked {links : List (M × G)} (hlinks : links ⊆ s.links) : Step s { s with links := links }

/-- Who holds a member may act on its group, and a link is attached by a member of its group. -/
structure Sound (s : Tenancy G M U) : Prop where
  holder : ∀ u g, s.Holds u g → s.MayAct admin u g
  link : ∀ l ∈ s.links, ∃ h, (l.1, l.2, h) ∈ s.members

variable {admin} {s s' : Tenancy G M U}

theorem MayAct.mono {u : U} {g : G} (h : s.MayAct admin u g)
    (howners : s.Owns u g → s'.Owns u g) : s'.MayAct admin u g :=
  h.imp_right howners

variable [DecidableEq G]

/-- **Every step keeps a tenancy sound.** -/
theorem Step.sound (h : Step admin s s') (hs : s.Sound admin) : s'.Sound admin := by
  cases h with
  | kept => exact hs
  | @created g m o hg hm =>
    constructor
    · rintro u g' ⟨m', hm'⟩
      rcases List.mem_append.1 hm' with hold | hnew
      · exact (hs.holder u g' ⟨m', hold⟩).mono (List.mem_append_left _)
      · -- the first member is held by the owner
        obtain ⟨-, rfl, rfl⟩ : m' = m ∧ g' = g ∧ some u = o := by simpa using hnew
        exact .inr (List.mem_append_right _ (List.mem_singleton_self _))
    · intro l hl
      obtain ⟨h, hmem⟩ := hs.link l hl
      exact ⟨h, List.mem_append_left _ hmem⟩
  | @joined g m h hm hh =>
    constructor
    · rintro u g' ⟨m', hm'⟩
      rcases List.mem_append.1 hm' with hold | hnew
      · exact hs.holder u g' ⟨m', hold⟩
      · obtain ⟨-, rfl, rfl⟩ : m' = m ∧ g' = g ∧ some u = h := by simpa using hnew
        exact hh u rfl
    · intro l hl
      obtain ⟨h, hmem⟩ := hs.link l hl
      exact ⟨h, List.mem_append_left _ hmem⟩
  | @dissolved g hlinks =>
    constructor
    · rintro u g' ⟨m', hm'⟩
      obtain ⟨hold, hne⟩ := List.mem_filter.1 hm'
      exact (hs.holder u g' ⟨m', hold⟩).mono fun howns => List.mem_filter.2 ⟨howns, hne⟩
    · intro l hl
      obtain ⟨h, hmem⟩ := hs.link l hl
      exact ⟨h, List.mem_filter.2 ⟨hmem, decide_eq_true (hlinks l hl)⟩⟩
  | @linked g m h hm =>
    refine ⟨hs.holder, fun l hl => ?_⟩
    rcases List.mem_append.1 hl with hold | hnew
    · exact hs.link l hold
    · obtain rfl := List.mem_singleton.1 hnew
      exact ⟨h, hm⟩
  | unlinked hlinks => exact ⟨hs.holder, fun l hl => hs.link l (hlinks hl)⟩

/-- Owners do not change: the entry of a group is an old one, or the group is new. -/
theorem Step.owner_old_or_new (h : Step admin s s') {y : G × Option U} (hy : y ∈ s'.owners) :
    y ∈ s.owners ∨ ∀ x ∈ s.owners, x.1 ≠ y.1 := by
  cases h with
  | created hg _ =>
    rcases List.mem_append.1 hy with hold | hnew
    · exact .inl hold
    · obtain rfl := List.mem_singleton.1 hnew
      exact .inr hg
  | dissolved _ => exact .inl (List.mem_of_mem_filter hy)
  | _ => exact .inl hy

/-- Members stay in their group and with their holder. -/
theorem Step.member_old_or_new (h : Step admin s s') {y : M × G × Option U} (hy : y ∈ s'.members) :
    y ∈ s.members ∨ ∀ x ∈ s.members, x.1 ≠ y.1 := by
  have hadded : ∀ {z : M × G × Option U}, (∀ x ∈ s.members, x.1 ≠ z.1) →
      y ∈ s.members ++ [z] → y ∈ s.members ∨ ∀ x ∈ s.members, x.1 ≠ y.1 := by
    intro z hz hy
    rcases List.mem_append.1 hy with hold | hnew
    · exact .inl hold
    · obtain rfl := List.mem_singleton.1 hnew
      exact .inr hz
  cases h with
  | created _ hm => exact hadded hm hy
  | joined hm _ => exact hadded hm hy
  | dissolved _ => exact .inl (List.mem_of_mem_filter hy)
  | _ => exact .inl hy

end Tenancy

end Midscale
