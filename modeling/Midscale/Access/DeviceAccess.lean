import Midscale.Api.Basic
import Midscale.Data.Sort

/-!
# Access between devices

`app.services.acl.check_device_access`: whether a device may reach an address.  The device behind
the address is looked up in all networks, and the rules are ordered by their priority alone.

* `firstVerdict_congr` : the rules of a network decide alike in every order if the leading ones
  agree.
* `answer_congr` : the answer for a network where no address is there twice.
* `access_well_defined_iff` : **in every order of the rows, and whatever is in the other networks,
  the check returns one answer exactly if it never gets to the address, or at most one device has
  the address and the applying rules of least priority agree.**
-/

namespace Midscale

/-! ### The check -/

/-- `src_match and dst_match`; no tags match every device. -/
def ACLRule.applies (rule : ACLRule) (source dest : Device) : Bool :=
  let sourceTags := source.tags.getD []
  let destTags := dest.tags.getD []
  (rule.srcTags.isEmpty || rule.srcTags.any (· ∈ sourceTags)) &&
    (rule.dstTags.isEmpty || rule.dstTags.any (· ∈ destTags))

/-- The loop over the rules. -/
def firstVerdict (source dest : Device) : List ACLRule → Bool
  | [] => true
  | rule :: rules =>
    if rule.applies source dest then rule.action = "allow" else firstVerdict source dest rules

/-- `check_device_access`. -/
def checkDeviceAccess (db : Database) (sourceDeviceId : Uuid) (destIp : String) :
    Except ApiError Bool :=
  match db.devices.get? sourceDeviceId with
  | none => .ok false
  | some source =>
    if source.isActive = false then .ok false
    else do
      -- the query for the address does not ask for the network
      match ← scalarOneOrNone (db.devices.select fun d => d.ipAddress = some destIp) with
      | none => .ok false
      | some dest =>
        if dest.isActive = false then .ok false
        else if source.networkId ≠ dest.networkId then .ok false
        else
          let rules := (db.aclRules.select fun r => r.networkId = source.networkId).insertionSort
            fun r r' => r.priority ≤ r'.priority
          if rules.isEmpty then .ok true else .ok (firstVerdict source dest rules)

/-! ### Contents -/

/-- The same rows, in other orders, in the two tables that the check reads. -/
structure Database.Reordered (db db' : Database) : Prop where
  devices : db'.devices.rows.Perm db.devices.rows
  aclRules : db'.aclRules.rows.Perm db.aclRules.rows

/-- The same source device, and in its network the same devices and the same rules; everything else
may differ. -/
structure SameNetwork (sourceDeviceId : Uuid) (db db' : Database) : Prop where
  source : db'.devices.get? sourceDeviceId = db.devices.get? sourceDeviceId
  devices : ∀ source, db.devices.get? sourceDeviceId = some source →
    (db'.devices.select fun d => d.networkId = source.networkId).Perm
      (db.devices.select fun d => d.networkId = source.networkId)
  aclRules : ∀ source, db.devices.get? sourceDeviceId = some source →
    (db'.aclRules.select fun r => r.networkId = source.networkId).Perm
      (db.aclRules.select fun r => r.networkId = source.networkId)

/-- At most one device of any network has the address. -/
def AddressUnique (db : Database) (ip : String) : Prop :=
  (db.devices.select fun d => d.ipAddress = some ip).length ≤ 1

/-- The rule is one of the network, applies, and no applying rule of the network has a lower
priority. -/
structure Leading (db : Database) (source dest : Device) (rule : ACLRule) : Prop where
  mem : rule ∈ db.aclRules
  network : rule.networkId = source.networkId
  applies : rule.applies source dest = true
  least : ∀ r ∈ db.aclRules, r.networkId = source.networkId → r.applies source dest = true →
    rule.priority ≤ r.priority

/-- The applying rules of least priority all allow or all do not. -/
def LeadingAgree (db : Database) (source : Device) (ip : String) : Prop :=
  ∀ dest ∈ db.devices, dest.ipAddress = some ip → dest.isActive = true →
    dest.networkId = source.networkId → ∀ r r', Leading db source dest r →
      Leading db source dest r' → (r.action = "allow" ↔ r'.action = "allow")

/-! ### One content -/

/-- The rules of the network of a device, in the order in which they are tried. -/
def networkRules (db : Database) (source : Device) : List ACLRule :=
  (db.aclRules.select fun r => r.networkId = source.networkId).insertionSort
    fun r r' => r.priority ≤ r'.priority

/-- What the check makes of the device behind the address. -/
def answer (db : Database) (source : Device) : Option Device → Bool
  | none => false
  | some dest => dest.isActive && (source.networkId = dest.networkId &&
      firstVerdict source dest (networkRules db source))

theorem firstVerdict_eq (source dest : Device) (rules : List ACLRule) :
    firstVerdict source dest rules =
      ((rules.find? fun r => r.applies source dest).map
        fun r => decide (r.action = "allow")).getD true := by
  induction rules with
  | nil => rfl
  | cons rule rules ih =>
    rw [firstVerdict, List.find?_cons]
    cases rule.applies source dest with
    | true => rfl
    | false => exact ih

section

variable {db db' : Database} {id : Uuid} {ip : String} {source dest : Device}

theorem checkDeviceAccess_of_active (hsource : db.devices.get? id = some source)
    (hactive : source.isActive = true) : checkDeviceAccess db id ip =
      answer db source <$> scalarOneOrNone (db.devices.select fun d => d.ipAddress = some ip) := by
  simp only [checkDeviceAccess, hsource, hactive, Bool.true_eq_false, if_false]
  cases scalarOneOrNone (db.devices.select fun d => d.ipAddress = some ip) with
  | error e => rfl
  | ok found =>
    cases found with
    | none => rfl
    | some dest =>
      change (if dest.isActive = false then _ else _ : Except ApiError Bool) =
        .ok (answer db source (some dest))
      rw [answer]
      cases dest.isActive with
      | false => rfl
      | true =>
        by_cases hnetwork : source.networkId = dest.networkId
        · cases hrules : networkRules db source with
          | nil =>
            rw [networkRules] at hrules
            simp [← hnetwork, hrules, firstVerdict]
          | cons rule rules =>
            rw [networkRules] at hrules
            simp [← hnetwork, hrules]
        · simp [hnetwork]

theorem checkDeviceAccess_of_inactive
    (h : ∀ source, db.devices.get? id = some source → source.isActive = false) :
    checkDeviceAccess db id ip = .ok false := by
  rw [checkDeviceAccess]
  cases hsource : db.devices.get? id with
  | none => rfl
  | some source => exact if_pos (h source hsource)

theorem leading_of_find? {rule : ACLRule}
    (h : (networkRules db source).find? (fun r => r.applies source dest) = some rule) :
    Leading db source dest rule := by
  obtain ⟨hmem, happlies, hleast⟩ := of_find?_insertionSort _ h
  obtain ⟨hrule, hnetwork⟩ := Table.mem_select.1 hmem
  exact ⟨hrule, of_decide_eq_true hnetwork, happlies, fun r hr hnet hr' =>
    hleast r (Table.mem_select.2 ⟨hr, decide_eq_true hnet⟩) hr'⟩

/-- **The rules of a network decide alike in every order** if the leading ones agree. -/
theorem firstVerdict_congr
    (hrules : (db'.aclRules.select fun r => r.networkId = source.networkId).Perm
      (db.aclRules.select fun r => r.networkId = source.networkId))
    (hagree : ∀ r r', Leading db source dest r → Leading db source dest r' →
      (r.action = "allow" ↔ r'.action = "allow")) :
    firstVerdict source dest (networkRules db' source) =
      firstVerdict source dest (networkRules db source) := by
  have hmem : ∀ r : ACLRule, r.networkId = source.networkId →
      (r ∈ db'.aclRules ↔ r ∈ db.aclRules) := fun r hr => by
    have hselect := hrules.mem_iff (a := r)
    rwa [Table.mem_select, Table.mem_select, and_iff_left (decide_eq_true hr),
      and_iff_left (decide_eq_true hr)] at hselect
  have hnone : (networkRules db' source).find? (fun r => r.applies source dest) = none ↔
      (networkRules db source).find? (fun r => r.applies source dest) = none := by
    rw [List.find?_eq_none, List.find?_eq_none]
    simp only [networkRules, List.mem_insertionSort, hrules.mem_iff]
  rw [firstVerdict_eq, firstVerdict_eq]
  cases hfound : (networkRules db source).find? (fun r => r.applies source dest) with
  | none => rw [hnone.2 hfound]
  | some r =>
    cases hfound' : (networkRules db' source).find? (fun r => r.applies source dest) with
    | none => rw [hnone.1 hfound'] at hfound; cases hfound
    | some r' =>
      have hleading' := leading_of_find? hfound'
      have hleading : Leading db source dest r' :=
        ⟨(hmem r' hleading'.network).1 hleading'.mem, hleading'.network, hleading'.applies,
          fun r hr hnet => hleading'.least r ((hmem r hnet).2 hr) hnet⟩
      exact decide_eq_decide.2 (hagree r' r hleading (leading_of_find? hfound))

/-! ### Two contents -/

theorem SameNetwork.reordered (h : SameNetwork id db db') {e : Database}
    (he : db'.Reordered e) : SameNetwork id db e where
  source := (Table.get?_of_perm he.devices id).trans h.source
  devices source hsource := (he.devices.filter _).trans (h.devices source hsource)
  aclRules source hsource := (he.aclRules.filter _).trans (h.aclRules source hsource)

theorem Database.Reordered.refl (db : Database) : db.Reordered db := ⟨.refl _, .refl _⟩

theorem Leading.reordered {rule : ACLRule} (h : Leading db source dest rule)
    (hperm : db.Reordered db') : Leading db' source dest rule :=
  ⟨hperm.aclRules.mem_iff.2 h.mem, h.network, h.applies,
    fun r hr => h.least r (hperm.aclRules.mem_iff.1 hr)⟩

theorem AddressUnique.reordered (h : AddressUnique db ip) (hperm : db.Reordered db') :
    AddressUnique db' ip := by
  rw [AddressUnique, Table.select, (hperm.devices.filter _).length_eq]
  exact h

/-- The look-up of an address that at most one device has. -/
theorem AddressUnique.scalarOneOrNone (h : AddressUnique db ip) :
    scalarOneOrNone (db.devices.select fun d => d.ipAddress = some ip) =
      .ok (db.devices.select fun d => d.ipAddress = some ip).head? := by
  unfold AddressUnique at h
  generalize db.devices.select (fun d => d.ipAddress = some ip) = found at h
  cases found with
  | nil => rfl
  | cons d rest =>
    obtain rfl : rest = [] := List.length_eq_zero_iff.1 (by rw [List.length_cons] at h; omega)
    rfl

theorem addressUnique_of_ok {found : Option Device}
    (h : scalarOneOrNone (db.devices.select fun d => d.ipAddress = some ip) = .ok found) :
    AddressUnique db ip := by
  unfold AddressUnique
  rcases scalarOneOrNone_eq_ok.1 h with ⟨hnone, -⟩ | ⟨d, hd, -⟩
  · rw [hnone]
    exact Nat.zero_le 1
  · rw [hd]
    exact le_rfl

theorem AddressUnique.head? (h : AddressUnique db ip) (hdest : dest ∈ db.devices)
    (hip : dest.ipAddress = some ip) :
    (db.devices.select fun d => d.ipAddress = some ip).head? = some dest := by
  have hmem : dest ∈ db.devices.select fun d => d.ipAddress = some ip :=
    Table.mem_select.2 ⟨hdest, decide_eq_true hip⟩
  unfold AddressUnique at h
  obtain ⟨d, hd⟩ := List.length_eq_one_iff.1 (le_antisymm h (List.length_pos_of_mem hmem))
  rw [hd, List.mem_singleton] at hmem
  rw [hd, hmem, List.head?_cons]

/-- **The answer for a network** is the same where the address is not there twice. -/
theorem answer_congr (hsame : SameNetwork id db db')
    (hsource : db.devices.get? id = some source) (hunique : AddressUnique db ip)
    (hunique' : AddressUnique db' ip) (hagree : LeadingAgree db source ip) :
    answer db' source (db'.devices.select fun d => d.ipAddress = some ip).head? =
      answer db source (db.devices.select fun d => d.ipAddress = some ip).head? := by
  have hmem : ∀ d : Device, d.networkId = source.networkId →
      (d ∈ db'.devices ↔ d ∈ db.devices) := fun d hd => by
    have hselect := (hsame.devices source hsource).mem_iff (a := d)
    rwa [Table.mem_select, Table.mem_select, and_iff_left (decide_eq_true hd),
      and_iff_left (decide_eq_true hd)] at hselect
  by_cases hfound : ∃ d ∈ db.devices, d.networkId = source.networkId ∧ d.ipAddress = some ip
  · obtain ⟨dest, hdest, hnetwork, hip⟩ := hfound
    rw [hunique.head? hdest hip, hunique'.head? ((hmem dest hnetwork).2 hdest) hip]
    cases hactive : dest.isActive with
    | false => rw [answer, answer, hactive, Bool.false_and, Bool.false_and]
    | true =>
      rw [answer, answer, firstVerdict_congr (hsame.aclRules source hsource)
        (hagree dest hdest hip hactive hnetwork)]
  · -- what is found, if anything, belongs to another network
    have hforeign : ∀ e : Database, (∀ d, d.networkId = source.networkId →
        (d ∈ e.devices ↔ d ∈ db.devices)) →
        answer e source (e.devices.select fun d => d.ipAddress = some ip).head? = false := by
      intro e he
      cases hd : (e.devices.select fun d => d.ipAddress = some ip).head? with
      | none => rfl
      | some d =>
        obtain ⟨hmem, hip⟩ := Table.mem_select.1 (List.mem_of_head? hd)
        have hnetwork : ¬ source.networkId = d.networkId := fun heq =>
          hfound ⟨d, (he d heq.symm).1 hmem, heq.symm, of_decide_eq_true hip⟩
        rw [answer, decide_eq_false hnetwork, Bool.false_and, Bool.and_false]
    rw [hforeign db' hmem, hforeign db fun _ _ => Iff.rfl]

/-! ### The decision -/

/-- The check returns the same answer on both databases. -/
def SameAnswer (id : Uuid) (ip : String) (db db' : Database) : Prop :=
  ∃ b, checkDeviceAccess db id ip = .ok b ∧ checkDeviceAccess db' id ip = .ok b

/-- The check never gets to the address, or at most one device of either database has it and the
leading rules agree. -/
def Decided (id : Uuid) (ip : String) (db db' : Database) : Prop :=
  ∀ source, db.devices.get? id = some source → source.isActive = true →
    AddressUnique db ip ∧ AddressUnique db' ip ∧ LeadingAgree db source ip

theorem firstVerdict_of_leading {rule : ACLRule} (h : Leading db source dest rule)
    {rest : List ACLRule} (hrows : db.aclRules.rows = rule :: rest) :
    firstVerdict source dest (networkRules db source) = decide (rule.action = "allow") := by
  have hselect : (db.aclRules.select fun r => r.networkId = source.networkId) =
      rule :: rest.filter fun r => r.networkId = source.networkId := by
    rw [Table.select, hrows, List.filter_cons, if_pos (decide_eq_true h.network)]
  have hfind : (networkRules db source).find? (fun r => r.applies source dest) = some rule := by
    rw [networkRules, hselect]
    refine find?_insertionSort_cons _ h.applies fun r hr happlies => ?_
    obtain ⟨hmem, hnetwork⟩ := List.mem_filter.1 hr
    refine h.least r ?_ (of_decide_eq_true hnetwork) happlies
    rw [Table.mem_def, hrows]
    exact List.mem_cons_of_mem _ hmem
  rw [firstVerdict_eq, hfind]
  rfl

theorem addressUnique_of_checked (hsource : db.devices.get? id = some source)
    (hactive : source.isActive = true) {b : Bool} (h : checkDeviceAccess db id ip = .ok b) :
    AddressUnique db ip := by
  rw [checkDeviceAccess_of_active hsource hactive] at h
  obtain ⟨found, hfound, -⟩ := map_eq_ok.1 h
  exact addressUnique_of_ok hfound

theorem exists_reordered_decided (hsource : db.devices.get? id = some source)
    (hactive : source.isActive = true) (hunique : AddressUnique db ip) (hdest : dest ∈ db.devices)
    (hip : dest.ipAddress = some ip) (hdact : dest.isActive = true)
    (hnetwork : dest.networkId = source.networkId) {rule : ACLRule}
    (hrule : Leading db source dest rule) :
    ∃ e, db.Reordered e ∧ checkDeviceAccess e id ip = .ok (decide (rule.action = "allow")) := by
  have hperm := (List.perm_cons_erase hrule.mem).symm
  let e : Database := { db with aclRules := db.aclRules.reorder _ hperm }
  have he : db.Reordered e := ⟨.refl _, hperm⟩
  have heunique : AddressUnique e ip := hunique.reordered he
  refine ⟨e, he, ?_⟩
  rw [checkDeviceAccess_of_active (show e.devices.get? id = some source from hsource) hactive,
    heunique.scalarOneOrNone, heunique.head? hdest hip]
  change Except.ok (answer e source (some dest)) = _
  rw [answer, hdact, decide_eq_true hnetwork.symm, Bool.true_and, Bool.true_and,
    firstVerdict_of_leading (hrule.reordered he) rfl]

theorem SameNetwork.checkDeviceAccess (h : SameNetwork id db db')
    (hsource : db.devices.get? id = some source) (hactive : source.isActive = true)
    (hunique : AddressUnique db ip) (hunique' : AddressUnique db' ip)
    (hagree : LeadingAgree db source ip) : checkDeviceAccess db' id ip =
      .ok (answer db source (db.devices.select fun d => d.ipAddress = some ip).head?) := by
  rw [checkDeviceAccess_of_active (h.source.trans hsource) hactive, hunique'.scalarOneOrNone,
    ← answer_congr h hsource hunique hunique' hagree]
  rfl

theorem SameNetwork.refl (id : Uuid) (db : Database) : SameNetwork id db db :=
  ⟨rfl, fun _ _ => .refl _, fun _ _ => .refl _⟩

/-- **Access is well defined** for two databases that agree on the network of the source, in every
order of their rows, exactly if it is decided: the source is not active, or at most one device has
the address, and the applying rules of least priority all allow or all do not. -/
theorem access_well_defined_iff (hsame : SameNetwork id db db') :
    (∀ e e', db.Reordered e → db'.Reordered e' → SameAnswer id ip e e') ↔
      Decided id ip db db' := by
  constructor
  · intro hall source hsource hactive
    obtain ⟨b, hb, hb'⟩ := hall db db' (.refl db) (.refl db')
    have hunique := addressUnique_of_checked hsource hactive hb
    have hunique' := addressUnique_of_checked (hsame.source.trans hsource) hactive hb'
    refine ⟨hunique, hunique', fun dest hdest hip hdact hnetwork r r' hr hr' => ?_⟩
    -- the other database has to agree with whichever leading rule comes first
    have hfirst : ∀ rule, Leading db source dest rule →
        checkDeviceAccess db' id ip = .ok (decide (rule.action = "allow")) := by
      intro rule hrule
      obtain ⟨e, he, hcheck⟩ :=
        exists_reordered_decided hsource hactive hunique hdest hip hdact hnetwork hrule
      obtain ⟨b, hb, hb'⟩ := hall e db' he (.refl db')
      rw [hb', ← hb, hcheck]
    exact decide_eq_decide.1 (Except.ok.inj ((hfirst r hr).symm.trans (hfirst r' hr')))
  · intro hdecided e e' he he'
    have hself : SameNetwork id db e := (SameNetwork.refl id db).reordered he
    have hother : SameNetwork id db e' := hsame.reordered he'
    by_cases hactive : ∃ source, db.devices.get? id = some source ∧ source.isActive = true
    · obtain ⟨source, hsource, hactive⟩ := hactive
      obtain ⟨hunique, hunique', hagree⟩ := hdecided source hsource hactive
      exact ⟨_,
        hself.checkDeviceAccess hsource hactive hunique (hunique.reordered he) hagree,
        hother.checkDeviceAccess hsource hactive hunique (hunique'.reordered he') hagree⟩
    · have hinactive : ∀ {d : Database}, SameNetwork id db d →
          checkDeviceAccess d id ip = .ok false := by
        intro d hd
        refine checkDeviceAccess_of_inactive fun source hsource => ?_
        rw [hd.source] at hsource
        exact Bool.eq_false_iff.2 fun hs => hactive ⟨source, hsource, hs⟩
      exact ⟨false, hinactive hself, hinactive hother⟩

end

/-- The till, in the network of a shop. -/
def till : Device :=
  { id := Uuid.ofNat 135, name := "till", networkId := Uuid.ofNat 134
    ipAddress := some "10.8.0.2" }

/-- The scale, in the same network. -/
def scale : Device :=
  { id := Uuid.ofNat 136, name := "scale", networkId := Uuid.ofNat 134
    ipAddress := some "10.8.0.3" }

/-- A device of another network with the address of the scale. -/
def kiln : Device :=
  { id := Uuid.ofNat 138, name := "kiln", networkId := Uuid.ofNat 137
    ipAddress := some "10.8.0.3" }

/-- Two rules for every device, with the same priority. -/
def permit : ACLRule := { id := Uuid.ofNat 139, networkId := Uuid.ofNat 134 }

def refuse : ACLRule := { id := Uuid.ofNat 140, networkId := Uuid.ofNat 134, action := "deny" }

/-- The shop with some rules. -/
def shop (rules : List ACLRule) (h : (rules.map Row.pk).Nodup := by decide) : Database where
  devices := .ofRows [till, scale]
  aclRules := .ofRows rules h

/-- The shop and a pottery. -/
def shopAndPottery : Database where
  devices := .ofRows [till, scale, kiln]

theorem sameNetwork_till {db db' : Database}
    (hsource : db.devices.get? (Uuid.ofNat 135) = some till)
    (hsource' : db'.devices.get? (Uuid.ofNat 135) = some till)
    (hdevices : (db'.devices.select fun d => d.networkId = till.networkId).Perm
      (db.devices.select fun d => d.networkId = till.networkId))
    (hrules : (db'.aclRules.select fun r => r.networkId = till.networkId).Perm
      (db.aclRules.select fun r => r.networkId = till.networkId)) :
    SameNetwork (Uuid.ofNat 135) db db' where
  source := hsource'.trans hsource.symm
  devices source h := by
    obtain rfl : till = source := Option.some.inj (hsource.symm.trans h)
    exact hdevices
  aclRules source h := by
    obtain rfl : till = source := Option.some.inj (hsource.symm.trans h)
    exact hrules

/-- The till reaches an address of the shop that nobody else has. -/
theorem access_well_defined_shop :
    (∀ e e', (shop [refuse]).Reordered e → (shop [refuse]).Reordered e' →
      SameAnswer (Uuid.ofNat 135) "10.8.0.3" e e') ↔
      Decided (Uuid.ofNat 135) "10.8.0.3" (shop [refuse]) (shop [refuse]) :=
  access_well_defined_iff (sameNetwork_till (by decide) (by decide) (.refl _) (.refl _))

/-- **A device of another network makes the check fail**, and the order of two rules of one priority
decides. -/
theorem access_not_well_defined :
    (SameNetwork (Uuid.ofNat 135) (shop []) shopAndPottery ∧
      checkDeviceAccess (shop []) (Uuid.ofNat 135) "10.8.0.3" = .ok true ∧
      checkDeviceAccess shopAndPottery (Uuid.ofNat 135) "10.8.0.3" =
        .error (.internal "MultipleResultsFound")) ∧
    SameNetwork (Uuid.ofNat 135) (shop [permit, refuse]) (shop [refuse, permit]) ∧
      checkDeviceAccess (shop [permit, refuse]) (Uuid.ofNat 135) "10.8.0.3" = .ok true ∧
      checkDeviceAccess (shop [refuse, permit]) (Uuid.ofNat 135) "10.8.0.3" = .ok false :=
  ⟨⟨sameNetwork_till (by decide) (by decide) (by decide) (by decide), by decide, by decide⟩,
    sameNetwork_till (by decide) (by decide) (by decide) (by decide), by decide, by decide⟩

end Midscale
