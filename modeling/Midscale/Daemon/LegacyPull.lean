import Mathlib.Data.List.Destutter
import Midscale.Daemon.Tunnel

/-!
# Daemons that are not enrolled

A daemon that was registered the old way pulls the text of its configuration.  It takes up a text
that differs from the last one, whether or not that could be parsed or applied; and while the server
does not answer a daemon that was just started, the text that it has cached.

* `Reconciler.seen` : the texts that a daemon gets to see.
* `legacy_applies_changes` : **the host is left as the texts leave it that differ from the one
  before**, each applied once.
* `offline_restart` : **a daemon that finds no server after a restart applies the last text that it
  ever received**, once; an enrolled one does nothing.
-/

namespace Midscale

namespace Daemon

/-- The text that the server sends, if it does. -/
def PassInput.received (i : PassInput) : Option String := i.pullConfig.join.filter (· ≠ "")

namespace Reconciler

variable {σ : Type} (rc : Reconciler σ)

/-! ### One pass -/

variable {t : Tunnel σ} {i : PassInput}

theorem takeUp_fields (ini : String) : (rc.takeUp t ini).1.enrolled = t.enrolled ∧
    (rc.takeUp t ini).1.store = t.store ∧ (rc.takeUp t ini).1.lastConfig = some ini := by
  unfold takeUp
  cases parseConfigIni rc.alnum ini with
  | error e => exact ⟨rfl, rfl, rfl⟩
  | ok c => cases c <;> exact ⟨rfl, rfl, rfl⟩

theorem reconcileV1_fields : (rc.reconcileV1 t i).1.enrolled = t.enrolled ∧
    (rc.reconcileV1 t i).1.lastConfig = (taken t i <|> t.lastConfig) ∧
    (rc.reconcileV1 t i).1.store =
      match i.received.filter fun ini => t.lastConfig ≠ some ini with
      | none => t.store
      | some ini => t.store.updateCache "last_config" ini := by
  unfold reconcileV1 taken PassInput.received
  cases i.pullConfig with
  | none =>
    cases (t.store.cache.get? "last_config").filter (· ≠ "") with
    | none => cases t.lastConfig <;> exact ⟨rfl, rfl, rfl⟩
    | some cached =>
      cases hlast : t.lastConfig with
      | none => exact ⟨(rc.takeUp_fields cached).1, (rc.takeUp_fields cached).2.2,
          (rc.takeUp_fields cached).2.1⟩
      | some last => exact ⟨rfl, by simp [hlast], rfl⟩
  | some ini? =>
    dsimp only [Option.join_some]
    cases ini?.filter (· ≠ "") with
    | none => exact ⟨rfl, rfl, rfl⟩
    | some ini =>
      dsimp only
      split_ifs with hlast
      · simp [Option.filter, hlast]
      · obtain ⟨henrolled, hstore, hlastConfig⟩ := rc.takeUp_fields (t := { t with
          store := t.store.updateCache "last_config" ini }) ini
        rw [henrolled, hstore, hlastConfig]
        simp [Option.filter, hlast]

theorem pass_fields (h : t.enrolled = false) : (rc.pass t i).enrolled = false ∧
    (rc.pass t i).lastConfig = (taken t i <|> t.lastConfig) ∧
    (rc.pass t i).store =
      match i.received.filter fun ini => t.lastConfig ≠ some ini with
      | none => t.store
      | some ini => t.store.updateCache "last_config" ini := by
  have hpass : (rc.pass t i).enrolled = (rc.reconcileV1 t i).1.enrolled ∧
      (rc.pass t i).lastConfig = (rc.reconcileV1 t i).1.lastConfig ∧
      (rc.pass t i).store = (rc.reconcileV1 t i).1.store := by
    rw [pass, reconcileOnce, if_neg (by rw [h]; exact Bool.false_ne_true)]
    rcases rc.reconcileV1 t i with ⟨t', e | e⟩
    · exact ⟨rfl, rfl, rfl⟩
    · exact ⟨rfl, rfl, rfl⟩
  obtain ⟨henrolled, hlast, hstore⟩ := rc.reconcileV1_fields (t := t) (i := i)
  exact ⟨hpass.1.trans (henrolled.trans h), hpass.2.1.trans hlast, hpass.2.2.trans hstore⟩

theorem received_of_none (h : i.pullConfig = none) : i.received = none := by
  rw [PassInput.received, h]
  rfl

theorem taken_of_received {ini : String} (h : i.received = some ini) :
    taken t i = if t.lastConfig = some ini then none else some ini := by
  unfold taken
  unfold PassInput.received at h
  cases hpull : i.pullConfig with
  | none =>
    rw [hpull] at h
    cases h
  | some ini? =>
    rw [hpull, Option.join_some] at h
    dsimp only
    rw [h]
    simp [Option.filter]

theorem taken_of_not_received (h : i.received = none) : taken t i =
    if i.pullConfig = none ∧ t.lastConfig = none then
      (t.store.cache.get? "last_config").filter (· ≠ "")
    else none := by
  unfold taken
  unfold PassInput.received at h
  cases hpull : i.pullConfig with
  | none => simp
  | some ini? =>
    rw [hpull, Option.join_some] at h
    dsimp only
    rw [h]
    rfl

/-! ### The texts of a run -/

/-- The texts that passes take up. -/
def texts : Tunnel σ → List PassInput → List String
  | _, [] => []
  | t, i :: is => (taken t i).toList ++ texts (rc.pass t i) is

theorem configs_of_legacy (h : t.enrolled = false) (is : List PassInput) :
    rc.configs t (is.map .pass) = (rc.texts t is).filterMap rc.configOf := by
  induction is generalizing t with
  | nil => rfl
  | cons i is ih =>
    rw [List.map_cons, configs, texts, ih (rc.pass_fields h).1, List.filterMap_append, config,
      if_neg (by rw [h]; exact Bool.false_ne_true)]
    cases taken t i with
    | none => rfl
    | some ini => cases hconfig : rc.configOf ini <;> simp [hconfig]

theorem texts_of_last {last : String} (h : t.enrolled = false) (hlast : t.lastConfig = some last)
    (is : List PassInput) : last :: rc.texts t is =
      (is.filterMap PassInput.received).destutter' (· ≠ ·) last := by
  induction is generalizing t last with
  | nil => rfl
  | cons i is ih =>
    obtain ⟨henrolled, hlastConfig, -⟩ := rc.pass_fields h (i := i)
    rw [texts]
    cases hreceived : i.received with
    | none =>
      have htaken : taken t i = none := by
        rw [taken_of_not_received hreceived, if_neg (by simp [hlast])]
      rw [htaken, hlast] at hlastConfig
      rw [htaken, List.filterMap_cons_none hreceived]
      exact ih henrolled hlastConfig
    | some ini =>
      have htaken := taken_of_received (t := t) hreceived
      simp only [hlast, Option.some.injEq] at htaken
      rw [List.filterMap_cons_some hreceived, List.destutter'_cons]
      split_ifs at htaken with hsame
      · rw [htaken, hlast] at hlastConfig
        rw [htaken, if_neg (not_not.2 hsame)]
        exact ih henrolled hlastConfig
      · rw [htaken] at hlastConfig
        rw [htaken, if_pos hsame]
        exact congrArg (last :: ·) (ih henrolled hlastConfig)

/-- The texts that a daemon gets to see that has just started: those that the server sends, after the
cached one if the server does not answer before the first of them. -/
def seen (cached : Option String) : List PassInput → List String
  | [] => []
  | i :: is =>
    match i.received with
    | some ini => ini :: is.filterMap PassInput.received
    | none =>
      if i.pullConfig = none ∧ cached.isSome then
        cached.toList ++ is.filterMap PassInput.received
      else seen cached is

/-- The text that a daemon has cached. -/
def cached (t : Tunnel σ) : Option String :=
  (t.store.cache.get? "last_config").filter (· ≠ "")

/-- **The texts that a daemon takes up are those it sees that differ from the one before.** -/
theorem texts_of_start (h : t.enrolled = false) (hlast : t.lastConfig = none) (is : List PassInput) :
    rc.texts t is = (seen (cached t) is).destutter (· ≠ ·) := by
  induction is generalizing t with
  | nil => rfl
  | cons i is ih =>
    obtain ⟨henrolled, hlastConfig, hstore⟩ := rc.pass_fields h (i := i)
    rw [texts, seen]
    cases hreceived : i.received with
    | some ini =>
      have htaken := taken_of_received (t := t) hreceived
      rw [hlast, if_neg (by simp)] at htaken
      rw [htaken] at hlastConfig
      rw [htaken]
      exact rc.texts_of_last henrolled hlastConfig is
    | none =>
      have htaken := taken_of_not_received (t := t) hreceived
      dsimp only
      rw [hreceived] at hstore
      by_cases hpull : i.pullConfig = none
      · rw [if_pos ⟨hpull, hlast⟩] at htaken
        cases hcached : cached t with
        | none =>
          have hcached' : cached (rc.pass t i) = none := by
            rw [← hcached, cached, hstore]
            rfl
          rw [cached] at hcached
          rw [hcached] at htaken
          rw [htaken, hlast] at hlastConfig
          rw [htaken, if_neg (by simp)]
          show rc.texts (rc.pass t i) is = _
          rw [← hcached']
          exact ih henrolled hlastConfig
        | some text =>
          rw [cached] at hcached
          rw [hcached] at htaken
          rw [htaken] at hlastConfig
          rw [htaken, if_pos ⟨hpull, rfl⟩]
          exact rc.texts_of_last henrolled hlastConfig is
      · rw [if_neg (fun h => hpull h.1)] at htaken
        rw [htaken, hlast] at hlastConfig
        have hcached : cached (rc.pass t i) = cached t := by rw [cached, hstore]; rfl
        rw [htaken, if_neg (fun h => hpull h.1), ← hcached]
        exact ih henrolled hlastConfig

/-- **The host is left as the texts leave it that differ from the one before**, each applied once,
whatever came of it. -/
theorem legacy_applies_changes (h : t.enrolled = false) (hlast : t.lastConfig = none)
    (is : List PassInput) :
    (run rc.step t (is.map .pass)).world =
      (((seen (cached t) is).destutter (· ≠ ·)).filterMap rc.configOf).foldl rc.applied t.world := by
  rw [rc.world_run, rc.configs_of_legacy h, rc.texts_of_start h hlast]

/-! ### No server after a restart -/

/-- The last text that the server sent while the daemon was not enrolled. -/
def lastReceived : Bool → Option String → List TunnelEvent → Option String
  | _, last, [] => last
  | enrolled, last, .pass i :: es =>
    lastReceived enrolled (if enrolled then last else i.received <|> last) es
  | _, last, .restart enrolled :: es => lastReceived enrolled last es

/-- The daemon has `last` cached, in its file as well, and no other text in mind. -/
structure Caches (t : Tunnel σ) (last : Option String) : Prop where
  file_eq : t.store.cacheFile = t.store.cache
  get_eq : t.store.cache.get? "last_config" = last
  ne_empty : last ≠ some ""
  of_last : ∀ ini, t.lastConfig = some ini → last = some ini

theorem received_ne_empty {i : PassInput} {ini : String} (h : i.received = some ini) : ini ≠ "" := by
  simpa using (Option.filter_eq_some_iff.1 h).2

theorem get?_remember_of_ne (st : StateStore) (p : Pull) :
    (st.remember p).cache.get? "last_config" = st.cache.get? "last_config" := by
  unfold StateStore.remember
  cases p.hash.filter (· ≠ "") with
  | none => exact Dict.get?_set_of_ne _ _ (by decide)
  | some hash =>
    show ((st.updateCache _ _).cache.set _ _).get? _ = _
    rw [Dict.get?_set_of_ne _ _ (by decide)]
    exact Dict.get?_set_of_ne _ _ (by decide)

theorem pass_fields_of_enrolled (h : t.enrolled = true) : (rc.pass t i).enrolled = true ∧
    (rc.pass t i).lastConfig = t.lastConfig ∧
    ((rc.pass t i).store = t.store ∨ ∃ p, (rc.pass t i).store = t.store.remember p) := by
  rw [pass, reconcileOnce, if_pos h]
  show (rc.reconcileV2 t i).enrolled = true ∧ (rc.reconcileV2 t i).lastConfig = t.lastConfig ∧
    ((rc.reconcileV2 t i).store = t.store ∨ ∃ p, (rc.reconcileV2 t i).store = t.store.remember p)
  unfold reconcileV2
  cases i.privateKey with
  | none => exact ⟨h, rfl, .inl rfl⟩
  | some privateKey =>
    cases i.pullConfigV2 with
    | none => exact ⟨h, rfl, .inl rfl⟩
    | some p =>
      dsimp only
      cases t.store.isUnchanged p.toPull with
      | true => exact ⟨h, rfl, .inl rfl⟩
      | false =>
        cases (parseConfigV2 p.config privateKey).bind DesiredConfig.typed? with
        | none => exact ⟨h, rfl, .inl rfl⟩
        | some config => exact ⟨h, rfl, .inr ⟨p.toPull, rfl⟩⟩

theorem Caches.pass_of_enrolled {last : Option String} (h : t.enrolled = true)
    (hc : Caches t last) : Caches (rc.pass t i) last := by
  obtain ⟨-, hlast, hstore⟩ := rc.pass_fields_of_enrolled h (i := i)
  rcases hstore with hstore | ⟨p, hstore⟩
  · exact ⟨by rw [hstore, hc.file_eq], by rw [hstore, hc.get_eq], hc.ne_empty, hlast ▸ hc.of_last⟩
  · exact ⟨by rw [hstore, StateStore.remember_file], by rw [hstore, get?_remember_of_ne, hc.get_eq],
      hc.ne_empty, hlast ▸ hc.of_last⟩

/-- A pass of a daemon that is not enrolled caches the text that it receives. -/
theorem Caches.pass_of_legacy {last : Option String} (h : t.enrolled = false)
    (hc : Caches t last) : Caches (rc.pass t i) (i.received <|> last) := by
  obtain ⟨-, hlastConfig, hstore⟩ := rc.pass_fields h (i := i)
  cases hreceived : i.received with
  | none =>
    rw [hreceived] at hstore
    have hstore : (rc.pass t i).store = t.store := hstore
    refine ⟨by rw [hstore, hc.file_eq], by rw [hstore, hc.get_eq]; rfl, hc.ne_empty, fun ini hini => ?_⟩
    have htaken := taken_of_not_received (t := t) hreceived
    rw [hlastConfig] at hini
    split_ifs at htaken with hnone
    · -- the cached text was taken up
      rw [htaken, hnone.2, hc.get_eq] at hini
      cases last with
      | none => cases hini
      | some text =>
        rcases hfilter : (some text).filter (· ≠ "") with - | text'
        · rw [hfilter] at hini
          cases hini
        · rw [hfilter] at hini
          exact (Option.filter_eq_some_iff.1 hfilter).1.trans hini
    · rw [htaken] at hini
      exact hc.of_last ini hini
  | some ini =>
    have htaken := taken_of_received (t := t) hreceived
    have hne : some ini ≠ some "" := fun h => received_ne_empty hreceived (Option.some.inj h)
    rw [hreceived] at hstore
    split_ifs at htaken with hsame
    · -- the text is the last one, which is cached
      have hlast : last = some ini := hc.of_last ini hsame
      have hstore : (rc.pass t i).store = t.store := by simpa [Option.filter, hsame] using hstore
      refine ⟨by rw [hstore, hc.file_eq], by rw [hstore, hc.get_eq, hlast]; rfl, hne, fun x hx => ?_⟩
      rw [hlastConfig, htaken] at hx
      exact hsame.symm.trans hx
    · have hstore : (rc.pass t i).store = t.store.updateCache "last_config" ini := by
        simpa [Option.filter, hsame] using hstore
      refine ⟨by rw [hstore]; rfl, by rw [hstore]; exact Dict.get?_set_self .., hne, fun x hx => ?_⟩
      rw [hlastConfig, htaken] at hx
      exact hx

/-- **What is cached is the last text that was received**, however often the daemon starts again. -/
theorem caches_run {last : Option String} (hc : Caches t last) (es : List TunnelEvent) :
    Caches (run rc.step t es) (lastReceived t.enrolled last es) := by
  induction es generalizing t last with
  | nil => exact hc
  | cons e es ih =>
    cases e with
    | pass i =>
      rw [run_cons, lastReceived]
      cases h : t.enrolled with
      | true =>
        have hpass := ih (hc.pass_of_enrolled rc (i := i) h)
        rw [(rc.pass_fields_of_enrolled h).1] at hpass
        exact hpass
      | false =>
        have hpass := ih (hc.pass_of_legacy rc (i := i) h)
        rw [(rc.pass_fields h).1] at hpass
        exact hpass
    | restart enrolled =>
      refine ih (t := rc.step t (.restart enrolled)) ⟨rfl, ?_, hc.ne_empty, nofun⟩
      show t.store.cacheFile.get? "last_config" = last
      rw [hc.file_eq, hc.get_eq]

theorem seen_of_no_answer {text : Option String} {is : List PassInput} (hne : is ≠ [])
    (his : ∀ i ∈ is, i.pullConfig = none) : seen text is = text.toList := by
  induction is with
  | nil => exact absurd rfl hne
  | cons i is ih =>
    obtain ⟨hi, his⟩ := List.forall_mem_cons.1 his
    have hrest : is.filterMap PassInput.received = [] :=
      List.filterMap_eq_nil_iff.2 fun j hj => received_of_none (his j hj)
    rw [seen, received_of_none hi, hrest]
    cases text with
    | some text => simp [hi]
    | none =>
      cases is with
      | nil => simp [seen]
      | cons j js => simpa using ih (List.cons_ne_nil j js) his

theorem configs_of_no_answer (h : t.enrolled = true) {is : List PassInput}
    (his : ∀ i ∈ is, i.pullConfigV2 = none) : rc.configs t (is.map .pass) = [] := by
  induction is generalizing t with
  | nil => rfl
  | cons i is ih =>
    obtain ⟨hi, his⟩ := List.forall_mem_cons.1 his
    have hconfig : rc.config t i = none := by
      rw [config, if_pos h, hi]
      cases i.privateKey <;> rfl
    rw [List.map_cons, configs, hconfig, ih (rc.pass_fields_of_enrolled h).1 his]
    rfl

/-- **After a restart without a server the daemon applies the last text that it received**, once,
whatever has happened since it was installed; an enrolled daemon does nothing. -/
theorem offline_restart (hstore : t.store = {}) (hlast : t.lastConfig = none)
    (es : List TunnelEvent) (enrolled : Bool) {is : List PassInput} (hne : is ≠ [])
    (hv1 : ∀ i ∈ is, i.pullConfig = none) (hv2 : ∀ i ∈ is, i.pullConfigV2 = none) :
    (run rc.step t (es ++ .restart enrolled :: is.map .pass)).world =
      (if enrolled then none
        else (lastReceived t.enrolled none es).bind rc.configOf).toList.foldl rc.applied
          (run rc.step t es).world := by
  have hstart : Caches t none :=
    ⟨by rw [hstore], by rw [hstore]; rfl, nofun, fun ini hini => by rw [hlast] at hini; cases hini⟩
  obtain ⟨hfile, hget, hempty, -⟩ := rc.caches_run hstart es
  generalize lastReceived t.enrolled none es = last at hget hempty ⊢
  rw [run_append, run_cons, rc.world_run]
  congr 1
  cases enrolled with
  | true => exact rc.configs_of_no_answer rfl hv2
  | false =>
    have hcached : cached (rc.step (run rc.step t es) (.restart false)) = last := by
      show (StateStore.cacheFile _ |>.get? "last_config").filter _ = last
      rw [hfile, hget]
      cases last with
      | none => rfl
      | some text => exact Option.filter_eq_some_iff.2 ⟨rfl, by simpa using hempty⟩
    rw [rc.configs_of_legacy rfl, rc.texts_of_start rfl rfl, hcached, seen_of_no_answer hne hv1]
    cases last with
    | none => rfl
    | some text => cases hconfig : rc.configOf text <;> simp [hconfig]

end Reconciler

/-! ### The same text twice -/

/-- A pass that receives a text. -/
def textPass (now : Timestamp) (text : String) : PassInput :=
  { now := now, pullConfig := some (some text) }

/-- A configuration of the laptop without peers. -/
def laptopText : String := "[Interface]\nPrivateKey = k\nAddress = 10.0.0.2/24\n"

/-- No answer, the configuration, something that is none, and the configuration again. -/
def laptopPasses : List PassInput :=
  [{ now := 0 }, textPass 30 laptopText, textPass 60 laptopText, textPass 90 "?",
    textPass 120 laptopText]

/-- The configuration is applied twice: it differs from the text before it. -/
theorem legacy_applies_changes_laptop :
    (run laptopReconciler.step laptopTunnel (laptopPasses.map .pass)).world =
      [laptopConfigs.getLast (by decide), laptopConfigs.getLast (by decide)].foldl
        laptopReconciler.applied laptopTunnel.world := by
  have htexts : ((Reconciler.seen (Reconciler.cached laptopTunnel) laptopPasses).destutter
      (· ≠ ·)).filterMap laptopReconciler.configOf =
        [laptopConfigs.getLast (by decide), laptopConfigs.getLast (by decide)] := by decide +kernel
  rw [Reconciler.legacy_applies_changes laptopReconciler rfl rfl, htexts]

/-- After a restart without a server the last text is applied once. -/
theorem offline_restart_laptop :
    (run laptopReconciler.step laptopTunnel
      (laptopEvents ++ .restart false :: [{ now := 60 }, { now := 90 }].map .pass)).world =
        laptopReconciler.applied (run laptopReconciler.step laptopTunnel laptopEvents).world
          (laptopConfigs.getLast (by decide)) := by
  have hreceived : (Reconciler.lastReceived false none laptopEvents).bind laptopReconciler.configOf =
      some (laptopConfigs.getLast (by decide)) := by decide +kernel
  have hne : [({ now := 60 } : PassInput), { now := 90 }] ≠ [] := List.cons_ne_nil _ _
  have hrestart := Reconciler.offline_restart laptopReconciler (t := laptopTunnel) rfl rfl
    laptopEvents false hne (by simp) (by simp)
  rw [show laptopTunnel.enrolled = false from rfl, hreceived] at hrestart
  exact hrestart

end Daemon

end Midscale
