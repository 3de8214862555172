import Midscale.Api.AddressRaces

/-!
# Pre-auth keys that are used at the same time

A request reads the row of its key and consumes the key several steps later: a key that is not
reusable is deleted, and of a reusable one the list `used_by` is written back with the new id at its
end.  Nothing makes the database read the row again.

* `KeysExact` : a key that is not reusable admits one device, and `used_by` lists every device that
  a reusable key admits.
* `KeyKept` : a request commits while the row of its key is the one that it read.
* `keys_exact_runs` : **the keys are exact all along a run whose commits are such, and in no other
  run.**
* `overlapping_requests_break_keys` : two requests that overlap.
-/

namespace Midscale

/-- The row of its key that a request has read and the device that it has committed. -/
def Progress.admission : Progress → Option (PreAuthKey × Device)
  | .committed a d => a.preauth.map fun k => (k, d)
  | _ => none

/-- The request has committed the device `d`, for which it was admitted with the key `k`. -/
def Progress.Admitted (x : Progress) (k : PreAuthKey) (d : Device) : Prop :=
  x.admission = some (k, d)

/-- The accounting of the pre-auth keys is exact. -/
structure KeysExact (w : Server) : Prop where
  /-- A key that is not reusable admits at most one device. -/
  single : ∀ t t' k k' d d', (w.locals t).Admitted k d → (w.locals t').Admitted k' d' →
    k.id = k'.id → k.reusable = false → t = t'
  /-- `used_by` contains the id of every device that was admitted with a reusable key. -/
  recorded : ∀ t k d, (w.locals t).Admitted k d → k.reusable = true →
    ∃ row, w.store.preauthKeys.get? k.id = some row ∧ d.id.str ∈ row.usedBy.getD []

/-- The row of the key is the one that the request read: no other request with the key has committed
since. -/
def KeyKept (db : Database) (a : Admission) (_ : List String) (_ : Device) : Prop :=
  ∀ k ∈ a.preauth, db.preauthKeys.get? k.id = some k

instance (db : Database) (a : Admission) (used : List String) (d : Device) :
    Decidable (KeyKept db a used d) :=
  inferInstanceAs (Decidable (∀ k ∈ a.preauth, _))

/-! ### The table of keys after a commit -/

namespace Database

variable {db : Database} {preauth : Option PreAuthKey} {k row : PreAuthKey} {deviceId id : Uuid}

theorem get?_consumeKey_of_ne (h : ∀ k ∈ preauth, k.id ≠ id) :
    (db.consumeKey preauth deviceId).preauthKeys.get? id = db.preauthKeys.get? id := by
  cases preauth with
  | none => rfl
  | some k =>
    have hne : k.id ≠ id := h k rfl
    by_cases hreusable : k.reusable = true
    · rw [consumeKey, if_pos hreusable, Table.get?_modify]
      cases hrow : db.preauthKeys.get? id with
      | none => rfl
      | some row =>
        have hid : row.id = id := (Table.get?_eq_some_iff.1 hrow).2
        exact congrArg some (if_neg fun heq : row.id = k.id => hne (heq.symm.trans hid))
    · rw [consumeKey, if_neg hreusable]
      exact (Table.get?_delete_pk id).trans (if_neg (Ne.symm hne))

theorem get?_consumeKey_reusable (hk : k.reusable = true) :
    (db.consumeKey (some k) deviceId).preauthKeys.get? k.id =
      (db.preauthKeys.get? k.id).map fun row =>
        { row with usedBy := some (k.usedBy.getD [] ++ [deviceId.str]) } := by
  rw [consumeKey, if_pos hk, Table.get?_modify]
  refine Option.map_congr fun row hrow => ?_
  exact if_pos (Table.get?_eq_some_iff.1 hrow).2

theorem get?_consumeKey_single (hk : k.reusable = false) :
    (db.consumeKey (some k) deviceId).preauthKeys.get? k.id = none := by
  rw [consumeKey, if_neg (by simp [hk])]
  exact (Table.get?_delete_pk k.id).trans (if_pos rfl)

theorem usedBy_consumeKey (hk : ∀ k ∈ preauth, k ∈ db.preauthKeys) {text : String}
    (hrow : row ∈ (db.consumeKey preauth deviceId).preauthKeys)
    (htext : text ∈ row.usedBy.getD []) :
    (∃ row' ∈ db.preauthKeys, text ∈ row'.usedBy.getD []) ∨ text = deviceId.str := by
  cases preauth with
  | none => exact .inl ⟨row, hrow, htext⟩
  | some k =>
    by_cases hreusable : k.reusable = true
    · rw [consumeKey, if_pos hreusable, Table.mem_modify] at hrow
      obtain ⟨row', hrow', heq⟩ := hrow
      split_ifs at heq with hid
      · subst heq
        rcases List.mem_append.1 htext with hold | hnew
        · exact .inl ⟨k, hk k rfl, hold⟩
        · exact .inr (List.mem_singleton.1 hnew)
      · subst heq
        exact .inl ⟨row', hrow', htext⟩
    · rw [consumeKey, if_neg hreusable] at hrow
      exact .inl ⟨row, (Table.mem_delete.1 hrow).1, htext⟩

end Database

/-! ### What a turn does to the admitted devices -/

theorem Progress.admitted_committed {a : Admission} {d d' : Device} {k : PreAuthKey} :
    (Progress.committed a d).Admitted k d' ↔ a.preauth = some k ∧ d' = d := by
  rw [Progress.Admitted, Progress.admission, Option.map_eq_some_iff]
  constructor
  · rintro ⟨k', hk, h⟩
    cases h
    exact ⟨hk, rfl⟩
  · rintro ⟨hk, rfl⟩
    exact ⟨k, hk, rfl⟩

theorem AllocCall.Moved.commits_or {c : AllocCall} {i : Turn} {db db' : Database}
    {x y : Progress} (h : c.Moved db i x db' y) :
    (∃ a used d view, i = .advance ∧ x = .flushed .answered a used d ∧
        db.withWrites a d = .ok view ∧ db' = view.audit (c.entry a d) ∧ y = .committed a d) ∨
      (db' = db ∧ ∀ k d, y.Admitted k d ↔ x.Admitted k d) := by
  cases h with
  | kept => exact .inr ⟨rfl, fun _ _ => Iff.rfl⟩
  | failed _ hx =>
    refine .inr ⟨rfl, fun k d => iff_of_false (fun h => by cases h) ?_⟩
    cases x with
    | committed a d' => exact absurd rfl (hx a d')
    | _ => nofun
  | committed hview => exact .inl ⟨_, _, _, _, rfl, rfl, hview, rfl, rfl⟩
  | _ => exact .inr ⟨rfl, fun _ _ => Iff.rfl⟩

/-- What the table of keys holds of the key of a committed device. -/
structure KeyRecorded (db : Database) (x : Progress) : Prop where
  gone : ∀ k d, x.Admitted k d → k.reusable = false → db.preauthKeys.get? k.id = none
  listed : ∀ k d, x.Admitted k d → k.reusable = true → ∃ row, db.preauthKeys.get? k.id = some row ∧
    row.reusable = true ∧ d.id.str ∈ row.usedBy.getD []

/-- Two requests that were admitted with one key. -/
def KeyShared (x y : Progress) : Prop :=
  ∀ k d k' d', x.Admitted k d → y.Admitted k' d' → k.id = k'.id →
    k.reusable = true ∧ k'.reusable = true

theorem KeyShared.symm {x y : Progress} (h : KeyShared x y) : KeyShared y x :=
  fun k d k' d' hk hk' hid => (h k' d' k d hk' hk hid.symm).symm

namespace KeyRecorded

variable {db view : Database} {x y : Progress} {a : Admission} {used : List String} {d : Device}

theorem of_iff (h : KeyRecorded db x) (hxy : ∀ k d, y.Admitted k d ↔ x.Admitted k d) :
    KeyRecorded db y where
  gone k d hk := h.gone k d ((hxy k d).1 hk)
  listed k d hk := h.listed k d ((hxy k d).1 hk)

/-- The request that commits. -/
theorem own (hkept : KeyKept db a used d)
    (hkeys : view.preauthKeys = (db.consumeKey a.preauth d.id).preauthKeys) :
    KeyRecorded view (.committed a d) := by
  refine ⟨fun k d' hk hreusable => ?_, fun k d' hk hreusable => ?_⟩
  · obtain ⟨hpreauth, rfl⟩ := Progress.admitted_committed.1 hk
    rw [hkeys, hpreauth]
    exact Database.get?_consumeKey_single hreusable
  · obtain ⟨hpreauth, rfl⟩ := Progress.admitted_committed.1 hk
    rw [hkeys, hpreauth, Database.get?_consumeKey_reusable hreusable, hkept k hpreauth]
    exact ⟨_, rfl, hreusable, List.mem_append_right _ (List.mem_singleton.2 rfl)⟩

/-- The others, when a request commits. -/
theorem commit (h : KeyRecorded db x)
    (hkept : KeyKept db a used d)
    (hkeys : view.preauthKeys = (db.consumeKey a.preauth d.id).preauthKeys) :
    KeyRecorded view x := by
  refine ⟨fun k d' hk hreusable => ?_, fun k d' hk hreusable => ?_⟩
  · have hgone := h.gone k d' hk hreusable
    rw [hkeys, Database.get?_consumeKey_of_ne, hgone]
    intro k' hk' hid
    rw [← hid, hkept k' hk'] at hgone
    cases hgone
  · obtain ⟨row, hrow, hrowReusable, hmem⟩ := h.listed k d' hk hreusable
    by_cases hsame : ∃ k' ∈ a.preauth, k'.id = k.id
    · -- the row that is written back is the one that lists the device
      obtain ⟨k', hk', hid⟩ := hsame
      rw [← hid, hkept k' hk'] at hrow
      obtain rfl : k' = row := Option.some.inj hrow
      rw [hkeys, ← hid, Option.mem_def.1 hk',
        Database.get?_consumeKey_reusable hrowReusable, hkept k' hk']
      exact ⟨_, rfl, hrowReusable, List.mem_append_left _ hmem⟩
    · have hne : ∀ k' ∈ a.preauth, k'.id ≠ k.id := fun k' hk' hid => hsame ⟨k', hk', hid⟩
      rw [hkeys, Database.get?_consumeKey_of_ne hne]
      exact ⟨row, hrow, hrowReusable, hmem⟩

theorem shared (h : KeyRecorded db x)
    (hkept : KeyKept db a used d) :
    KeyShared (.committed a d) x := by
  intro k d' k' d'' hk hk' hid
  have hrow := hkept k (Progress.admitted_committed.1 hk).1
  cases hreusable : k'.reusable with
  | false =>
    rw [hid, h.gone k' d'' hk' hreusable] at hrow
    cases hrow
  | true =>
    obtain ⟨row, hrow', hrowReusable, -⟩ := h.listed k' d'' hk' hreusable
    rw [hid, hrow'] at hrow
    cases hrow
    exact ⟨hrowReusable, rfl⟩

end KeyRecorded

/-! ### Runs that keep the keys -/

/-- The table of keys knows the committed devices, and no two requests share a key that is not
reusable. -/
def KeyInvariant : Server → Prop := SharedInvariant (fun _ => True) KeyRecorded KeyShared

/-- A turn that meets the condition keeps the invariant. -/
theorem KeyInvariant.step (calls : ℕ → AllocCall) (w : Server) (e : ℕ × Turn)
    (hw : KeyInvariant w) (he : CommitTurn KeyKept w e) : KeyInvariant (serverStep calls w e) := by
  refine SharedInvariant.step (fun _ _ => KeyShared.symm) (fun w t i hw he => ⟨trivial, ?_⟩)
    (fun w t i q hw he hq => ?_) w e hw he
  · have hx := hw.each t
    rcases ((calls t).advance_moved i w.store (w.locals t)).commits_or with
      ⟨a, used, d, view, rfl, heq, hview, hdb, hy⟩ | ⟨hdb, hiff⟩
    · rw [hdb, hy]
      exact KeyRecorded.own (he.of_withWrites heq hview) (Database.withWrites_eq_ok hview).2.2
    · rw [hdb]
      exact hx.of_iff hiff
  · have hz := hw.each q
    rcases ((calls t).advance_moved i w.store (w.locals t)).commits_or with
      ⟨a, used, d, view, rfl, heq, hview, hdb, hy⟩ | ⟨hdb, hiff⟩
    · rw [hdb, hy]
      have hkept : KeyKept w.store a used d := he.of_withWrites heq hview
      exact ⟨hz.commit hkept (Database.withWrites_eq_ok hview).2.2, hz.shared hkept⟩
    · rw [hdb]
      exact ⟨hz, fun k d k' d' hk => hw.pairs t q (Ne.symm hq) k d k' d' ((hiff k d).1 hk)⟩

theorem KeyInvariant.exact {w : Server} (h : KeyInvariant w) : KeysExact w where
  single t t' k k' d d' hk hk' hid hreusable := by
    by_contra hne
    have hshared := (h.pairs t t' hne k d k' d' hk hk' hid).1
    rw [hreusable] at hshared
    cases hshared
  recorded t k d hk hreusable := by
    obtain ⟨row, hrow, -, hmem⟩ := (h.each t).listed k d hk hreusable
    exact ⟨row, hrow, hmem⟩

/-! ### Runs that do not keep the keys -/

/-- The row of its key that a request has read and not yet consumed. -/
def Progress.key? : Progress → Option PreAuthKey
  | .admitted a | .allocated a _ _ | .flushed _ a _ _ => a.preauth
  | _ => none

/-- `used_by` lists devices, and texts that no request draws as an id. -/
def Database.UsedByKnown (db : Database) (calls : ℕ → AllocCall) : Prop :=
  ∀ row ∈ db.preauthKeys, ∀ text ∈ row.usedBy.getD [],
    (∃ d ∈ db.devices, d.id.str = text) ∨ ∀ t, text ≠ (calls t).entropy.rowId.str

theorem KeyKept.mem {db : Database} {a : Admission} {used : List String} {d : Device}
    (h : KeyKept db a used d) : ∀ k ∈ a.preauth, k ∈ db.preauthKeys :=
  fun k hk => (Table.get?_eq_some_iff.1 (h k hk)).1

theorem Database.UsedByKnown.withWrites {db view : Database} {calls : ℕ → AllocCall}
    (h : db.UsedByKnown calls) {a : Admission} {used : List String} {d : Device}
    (hkept : KeyKept db a used d) (hview : db.withWrites a d = .ok view) :
    view.UsedByKnown calls := by
  obtain ⟨hinsert, -, hkeys⟩ := Database.withWrites_eq_ok hview
  intro row hrow text htext
  rw [hkeys] at hrow
  rcases Database.usedBy_consumeKey hkept.mem hrow htext with ⟨row', hrow', hold⟩ | rfl
  · rcases h row' hrow' text hold with ⟨d', hd', htext⟩ | hne
    · exact .inl ⟨d', (Table.mem_insert hinsert).2 (.inl hd'), htext⟩
    · exact .inr hne
  · exact .inl ⟨d, (Table.mem_insert hinsert).2 (.inr rfl), rfl⟩

/-- The row `k` is still in the table, or a device has been admitted with the key that the row does
not list. -/
def KeyFollowed (w : Server) (k : PreAuthKey) : Prop :=
  w.store.preauthKeys.get? k.id = some k ∨
    ∃ t k' d, (w.locals t).Admitted k' d ∧ k'.id = k.id ∧ k'.reusable = k.reusable ∧
      d ∈ w.store.devices ∧ d.id.str ∉ k.usedBy.getD []

/-- What is known in a run in which every request so far has found the row that it read. -/
structure KeysTracked (calls : ℕ → AllocCall) (w : Server) : Prop where
  known : w.store.UsedByKnown calls
  drawn : ∀ t f a used d, w.locals t = .flushed f a used d → d.id = (calls t).entropy.rowId
  followed : ∀ t, ∀ k ∈ (w.locals t).key?, KeyFollowed w k

namespace AllocCall.Moved

variable {c : AllocCall} {i : Turn} {db db' : Database} {x y : Progress}

theorem key? (h : c.Moved db i x db' y) {k : PreAuthKey} (hk : k ∈ y.key?) :
    k ∈ x.key? ∨ db.preauthKeys.get? k.id = some k := by
  cases h with
  | kept => exact .inl hk
  | failed => cases hk
  | admitted ha => exact .inr (Table.get?_eq_some_iff.2 ⟨AllocCall.mem_of_admit ha k hk, rfl⟩)
  | allocated => exact .inl hk
  | added => exact .inl hk
  | flushed => exact .inl hk
  | committed => cases hk

theorem drawn (h : c.Moved db i x db' y)
    (hx : ∀ f a used d, x = .flushed f a used d → d.id = c.entropy.rowId) {f : Flush}
    {a : Admission} {used : List String} {d : Device} (hy : y = .flushed f a used d) :
    d.id = c.entropy.rowId := by
  cases h with
  | kept => exact hx f a used d hy
  | added a' used' ip =>
    cases hy
    exact c.device_id a ip
  | flushed f' =>
    cases hy
    exact hx f' a used d rfl
  | _ => cases hy

end AllocCall.Moved

theorem KeysTracked.not_listed {calls : ℕ → AllocCall} {w : Server} (hw : KeysTracked calls w)
    {t : ℕ} {f : Flush} {a : Admission} {used : List String} {d : Device} {view : Database}
    (hx : w.locals t = .flushed f a used d) (hview : w.store.withWrites a d = .ok view)
    {row : PreAuthKey} (hrow : row ∈ w.store.preauthKeys) : d.id.str ∉ row.usedBy.getD [] := by
  intro hmem
  obtain ⟨hdevices, -, -⟩ := Database.withWrites_eq_ok hview
  rcases hw.known row hrow d.id.str hmem with ⟨d', hd', heq⟩ | hne
  · exact (Table.insert_eq_some hdevices).2 d' hd' (Uuid.str_injective heq)
  · exact hne t (congrArg Uuid.str (hw.drawn t f a used d hx))

theorem admitted_serverStep {calls : ℕ → AllocCall} {w : Server} {e : ℕ × Turn} {t : ℕ}
    {k : PreAuthKey} {d : Device} (h : (w.locals t).Admitted k d) :
    ((serverStep calls w e).locals t).Admitted k d := by
  obtain ⟨p, i⟩ := e
  refine Shared.step_locals_cases
    (C := fun t (y : Progress) => ∀ k d, (w.locals t).Admitted k d → y.Admitted k d)
    (fun k d hx => ?_) (fun _ _ _ _ hx => hx) t k d h
  rcases ((calls p).advance_moved i w.store (w.locals p)).commits_or with
    ⟨a, used, d', view, -, heq, -⟩ | ⟨-, hiff⟩
  · rw [heq] at hx
    cases hx
  · exact (hiff k d).2 hx

theorem KeyFollowed.serverStep {calls : ℕ → AllocCall} {w : Server} {e : ℕ × Turn} {k : PreAuthKey}
    (h : KeyFollowed w k)
    (hdevices : ∀ d ∈ w.store.devices, d ∈ (serverStep calls w e).store.devices)
    (hrow : w.store.preauthKeys.get? k.id = some k → KeyFollowed (serverStep calls w e) k) :
    KeyFollowed (Midscale.serverStep calls w e) k := by
  rcases h with hkept | ⟨t, k', d, hadmitted, hid, hreusable, hmem, hnot⟩
  · exact hrow hkept
  · exact .inr ⟨t, k', d, admitted_serverStep hadmitted, hid, hreusable, hdevices d hmem, hnot⟩

/-- The commit of another request replaces the row of its key, which does not list the device. -/
theorem KeysTracked.followed_commit {calls : ℕ → AllocCall} {w : Server}
    (hw : KeysTracked calls w) {t : ℕ} {a : Admission} {used : List String} {d : Device}
    {view : Database} (hx : w.locals t = .flushed .answered a used d)
    (hview : w.store.withWrites a d = .ok view) (hkept : KeyKept w.store a used d)
    {k : PreAuthKey} (hk : KeyFollowed w k) :
    KeyFollowed (serverStep calls w (t, .advance)) k := by
  obtain ⟨hinsert, -, hkeys⟩ := Database.withWrites_eq_ok hview
  obtain ⟨hstore, hlocal⟩ := serverStep_commit calls hx hview
  have hdevices : ∀ {d'}, d' ∈ (serverStep calls w (t, .advance)).store.devices ↔
      d' ∈ w.store.devices ∨ d' = d := by
    intro d'
    rw [hstore]
    exact Table.mem_insert hinsert
  refine hk.serverStep (fun d' hd' => hdevices.2 (.inl hd')) fun hrow => ?_
  by_cases hsame : ∃ k' ∈ a.preauth, k'.id = k.id
  · obtain ⟨k', hk', hid⟩ := hsame
    have hrow' := hkept k' hk'
    rw [hid, hrow] at hrow'
    obtain rfl : k = k' := Option.some.inj hrow'
    have hadmitted : ((serverStep calls w (t, .advance)).locals t).Admitted k d := by
      rw [hlocal]
      exact Progress.admitted_committed.2 ⟨hk', rfl⟩
    exact .inr ⟨t, k, d, hadmitted, rfl, rfl, hdevices.2 (.inr rfl),
      hw.not_listed hx hview (hkept.mem k hk')⟩
  · have hne : ∀ k' ∈ a.preauth, k'.id ≠ k.id := fun k' hk' hid => hsame ⟨k', hk', hid⟩
    have hrow' : view.preauthKeys.get? k.id = some k := by
      rw [hkeys, Database.get?_consumeKey_of_ne hne, hrow]
    refine .inl ?_
    rw [hstore]
    exact hrow'

/-- A turn that meets the condition keeps track of the keys. -/
theorem KeysTracked.step (calls : ℕ → AllocCall) (w : Server) (e : ℕ × Turn)
    (hw : KeysTracked calls w) (he : CommitTurn KeyKept w e) :
    KeysTracked calls (serverStep calls w e) := by
  obtain ⟨p, i⟩ := e
  have hmoved := (calls p).advance_moved i w.store (w.locals p)
  have hdrawn : ∀ t f a used d, (serverStep calls w (p, i)).locals t = .flushed f a used d →
      d.id = (calls t).entropy.rowId :=
    Shared.step_locals_cases
      (C := fun t (y : Progress) =>
        ∀ f a used d, y = .flushed f a used d → d.id = (calls t).entropy.rowId)
      (fun f a used d => hmoved.drawn (hw.drawn p)) fun t _ => hw.drawn t
  rcases hmoved.commits_or with ⟨a, used, d, view, rfl, hx, hview, -, hy⟩ | ⟨hdb, -⟩
  · -- the request commits
    have hkept : KeyKept w.store a used d := he.of_withWrites hx hview
    have hknown : view.UsedByKnown calls := hw.known.withWrites hkept hview
    refine ⟨?_, hdrawn, ?_⟩
    · rw [(serverStep_commit calls hx hview).1]
      exact hknown
    · refine Shared.step_locals_cases
        (C := fun _ (y : Progress) => ∀ k ∈ y.key?, KeyFollowed _ k) ?_ ?_
      · intro k hk
        rw [hy] at hk
        cases hk
      · exact fun q _ k hk => hw.followed_commit hx hview hkept (hw.followed q k hk)
  · -- the tables stay as they are
    have hstore : (serverStep calls w (p, i)).store = w.store := hdb
    have hfollowed : ∀ k, KeyFollowed w k → KeyFollowed (serverStep calls w (p, i)) k :=
      fun k h => h.serverStep (fun d hd => by rwa [hstore]) fun hrow => .inl (by rw [hstore, hrow])
    refine ⟨?_, hdrawn, ?_⟩
    · rw [hstore]
      exact hw.known
    · refine Shared.step_locals_cases
        (C := fun _ (y : Progress) => ∀ k ∈ y.key?, KeyFollowed _ k) ?_ ?_
      · intro k hk
        rcases hmoved.key? hk with hread | hrow
        · exact hfollowed k (hw.followed p k hread)
        · exact hfollowed k (.inl hrow)
      · exact fun q _ k hk => hfollowed k (hw.followed q k hk)

/-- A commit after another one with its key admits a second device, or loses the first. -/
theorem KeysTracked.breaks (calls : ℕ → AllocCall) (w : Server) (e : ℕ × Turn)
    (hw : KeysTracked calls w) (he : ¬ CommitTurn KeyKept w e) :
    ¬ KeysExact (serverStep calls w e) := by
  obtain ⟨p, i⟩ := e
  obtain ⟨a, used, d, view, hi, hx, hview, hnot⟩ := not_atCommit he
  dsimp only at hi hx
  subst hi
  obtain ⟨hinsert, -, hkeys⟩ := Database.withWrites_eq_ok hview
  obtain ⟨hstore, hlocal⟩ := serverStep_commit calls hx hview
  -- a device was admitted with the key that the row which was read does not list
  obtain ⟨k, hk, hne⟩ : ∃ k ∈ a.preauth, w.store.preauthKeys.get? k.id ≠ some k := by
    simpa [KeyKept] using hnot
  have hread : k ∈ (w.locals p).key? := by
    rw [hx]
    exact hk
  obtain ⟨t, k', d', hadmitted, hid, hreusable, hd', hlisted⟩ :=
    (hw.followed p k hread).resolve_left hne
  have hadmitted' : ((serverStep calls w (p, .advance)).locals t).Admitted k' d' :=
    admitted_serverStep hadmitted
  have hown : ((serverStep calls w (p, .advance)).locals p).Admitted k d := by
    rw [hlocal]
    exact Progress.admitted_committed.2 ⟨hk, rfl⟩
  intro hexact
  cases hkind : k.reusable with
  | false =>
    have htp : p = t := hexact.single p t k k' d d' hown hadmitted' hid.symm hkind
    rw [← htp, hx] at hadmitted
    cases hadmitted
  | true =>
    obtain ⟨row, hrow, hmem⟩ := hexact.recorded t k' d' hadmitted' (hreusable.trans hkind)
    rw [hstore] at hrow
    change view.preauthKeys.get? k'.id = some row at hrow
    rw [hkeys, hid, Option.mem_def.1 hk, Database.get?_consumeKey_reusable hkind] at hrow
    -- the new list is the one that was read with the new id at its end
    obtain ⟨row₀, -, rfl⟩ := Option.map_eq_some_iff.1 hrow
    rcases List.mem_append.1 hmem with hold | hnew
    · exact hlisted hold
    · exact (Table.insert_eq_some hinsert).2 d' hd' (Uuid.str_injective (List.mem_singleton.1 hnew))

theorem not_admitted_start {db : Database} {t : ℕ} {k : PreAuthKey} {d : Device} :
    ¬ ((Server.start db).locals t).Admitted k d := fun h => by cases h

/-- **The keys are exact all along a run if no request commits when another one with its key has
committed since it read the row of the key**, and in no other run, unless a request draws an id that
`used_by` lists already. -/
theorem keys_exact_runs (calls : ℕ → AllocCall) (db : Database) (es : List (ℕ × Turn)) :
    (Admissible (serverStep calls) (CommitTurn KeyKept) (Server.start db) es →
        ∀ pre, pre <+: es → KeysExact (run (serverStep calls) (Server.start db) pre)) ∧
      (db.UsedByKnown calls →
        (∀ pre, pre <+: es → KeysExact (run (serverStep calls) (Server.start db) pre)) →
          Admissible (serverStep calls) (CommitTurn KeyKept) (Server.start db) es) := by
  constructor
  · intro hes pre hpre
    have hstart : KeyInvariant (Server.start db) :=
      { store := trivial
        each := fun _ => ⟨fun _ _ h => absurd h not_admitted_start,
          fun _ _ h => absurd h not_admitted_start⟩
        pairs := fun _ _ _ _ _ _ _ h => absurd h not_admitted_start }
    exact (run_invariant_of_admissible (serverStep calls) (KeyInvariant.step calls) hstart
      (hes.of_prefix _ hpre)).exact
  · intro hknown hexact
    have hstart : KeysTracked calls (Server.start db) :=
      { known := hknown
        drawn := fun _ _ _ _ _ h => by cases h
        followed := fun _ _ h => by cases h }
    exact admissible_of_forall_prefix (P := KeysExact) (serverStep calls) (KeysTracked.step calls)
      (KeysTracked.breaks calls) hstart hexact

/-! ### Two requests with one key -/

/-- The office with a pre-auth key. -/
def keyDb (reusable : Bool) : Database :=
  run serve { users := officeUsers } (officeCalls.take 1 ++ [
    { env := officeEnv, entropy := officeEntropy 3
      request := .createPreauthKey "jwt" (Uuid.ofNat 2) { reusable := reusable } }])

/-- One device enrolls with the key, the others register with it. -/
def joiningCalls (n : ℕ) : AllocCall where
  env := officeEnv
  entropy := officeEntropy (10 + n)
  request := match n with
    | 0 => .enrollByKey { preauthKey := "midscale_key", name := "laptop", publicKey := "key-l" }
    | _ => .registerDevice { key := "midscale_key", name := "phone" }

/-- In turn, both are admitted by a reusable key and its list has both. -/
theorem keys_exact_runs_turns :
    let w := run (serverStep joiningCalls) (Server.start (keyDb true)) inTurn
    KeysExact w ∧ (w.store.preauthKeys.get? (Uuid.ofNat 3)).bind (·.usedBy) =
      some [(Uuid.ofNat 10).str, (Uuid.ofNat 11).str] := by
  have hturns : Admissible (serverStep joiningCalls) (CommitTurn KeyKept)
      (Server.start (keyDb true)) inTurn := by decide +kernel
  exact ⟨(keys_exact_runs joiningCalls (keyDb true) inTurn).1 hturns _ (List.prefix_refl _),
    by decide +kernel⟩

theorem KeysExact.ne_key {w : Server} (h : KeysExact w) (t t' : ℕ) (id : Uuid) (hne : t ≠ t')
    (ht : ((w.locals t).admission.map fun r => (r.1.id, r.1.reusable)) = some (id, false)) :
    ((w.locals t').admission.map fun r => r.1.id) ≠ some id := by
  intro ht'
  obtain ⟨⟨k, d⟩, hk, heq⟩ := Option.map_eq_some_iff.1 ht
  obtain ⟨⟨k', d'⟩, hk', heq'⟩ := Option.map_eq_some_iff.1 ht'
  rw [Prod.mk.injEq] at heq
  exact hne (h.single t t' k k' d d' hk hk' (heq.1.trans heq'.symm) heq.2)

theorem KeysExact.mem_usedBy {w : Server} (h : KeysExact w) (t : ℕ) (id : Uuid) (text : String)
    (ht : ((w.locals t).admission.map fun r => (r.1.id, r.1.reusable, r.2.id.str)) =
      some (id, true, text)) :
    ∃ row ∈ w.store.preauthKeys.get? id, text ∈ row.usedBy.getD [] := by
  obtain ⟨⟨k, d⟩, hk, heq⟩ := Option.map_eq_some_iff.1 ht
  rw [Prod.mk.injEq, Prod.mk.injEq] at heq
  obtain ⟨rfl, hreusable, rfl⟩ := heq
  exact h.recorded t k d hk hreusable

/-- Both requests commit.  A key that is not reusable then has admitted two devices, and the list of
a reusable one has lost the first. -/
theorem overlapping_requests_break_keys :
    ¬ KeysExact (run (serverStep joiningCalls) (Server.start (keyDb false)) overlapping) ∧
      ¬ KeysExact (run (serverStep joiningCalls) (Server.start (keyDb true)) overlapping) := by
  constructor
  · intro h
    have hne := h.ne_key 0 1 (Uuid.ofNat 3) (by decide) (by decide +kernel)
    exact hne (by decide +kernel)
  · intro h
    obtain ⟨row, hrow, hmem⟩ :=
      h.mem_usedBy 0 (Uuid.ofNat 3) (Uuid.ofNat 10).str (by decide +kernel)
    have hlost : ∀ row ∈ (run (serverStep joiningCalls) (Server.start (keyDb true))
        overlapping).store.preauthKeys.get? (Uuid.ofNat 3),
        (Uuid.ofNat 10).str ∉ row.usedBy.getD [] := by
      decide +kernel
    exact hlost row hrow hmem

end Midscale
