import OvsdbMonitor.Laws.Registry
import OvsdbMonitor.Laws.TableUpdate
import OvsdbMonitor.Laws.RowUpdate
import OvsdbMonitor.Laws.Handler

/-!
# A handler's session: the registry and the monitors stay in step

`Handler.Synced` says that the registries of the handler's database monitors and its monitors
agree: every registered updater belongs to a live monitor of its database, at one of that
monitor's tables, and has its protocol version; every slot is a table of a live monitor of its
database; every monitor is recorded under the key of its json-value.  A new handler satisfies
it and every step of a session keeps it (`synced_handle`): registration adds only updaters of a
fresh key (`synced_insert`, `synced_addMonitors`), and `MonitorCancel` and each round of
`Cleanup` remove a live monitor together with all its updaters (`synced_removeMonitors`).  So,
in every handler a session reaches (`Handler.Reachable`):

* `reachable_synced`: the registry and the monitors agree;
* `reachable_batches_live`: every json-value of a batch a database monitor prepares names a
  live monitor of that database, so `Handler.notify` never takes its "Unknown jsonValue" branch,
  and every row update of the batch is well formed in the protocol version of the method the
  notification is sent with;
* `reachable_cleanup`: after `Cleanup` no database monitor has an updater left, and every batch
  it prepares is empty;
* `reachable_watchCanceled`: a cancelled watch sends `monitor_canceled` once to each monitor of
  its database that has an updater, with the key string as params, which is the client's
  json-value only when that is a JSON string; and the monitors stay recorded, so a monitor
  request that reuses one of their json-values is rejected as a duplicate.
-/

namespace OvsdbMonitor

namespace DbMonitor

theorem slotWithout_eq_some {slot : Option (List Updater)} {j : String} {us : List Updater}
    (h : slotWithout slot j = some us) :
    ∃ us₀, slot = some us₀ ∧ us = us₀.filter (fun u => u.jasonValueStr != j) ∧ us ≠ [] := by
  cases slot with
  | none => cases h
  | some us₀ =>
    rw [slotWithout_some] at h
    split_ifs at h with hne
    cases h
    exact ⟨us₀, rfl, rfl, fun h0 => hne (by rw [h0]; rfl)⟩

end DbMonitor

/-! ### The slots of the database monitors -/

namespace Databaser

/-- The slot of table key `k` in the monitor of database `d`. -/
def slot (db : Databaser) (d : String) (k : Key) : Option (List Updater) :=
  (db.dbMonitors.lookup d).bind fun m => m.key2Updaters.lookup k

theorem slot_addMonitors (db : Databaser) (dn d : String) (U : Key2Updaters) (k : Key) :
    (db.addMonitors dn U).slot d k =
      if d = dn then
        match U.lookup k with
        | none => db.slot dn k
        | some us => some ((db.slot dn k).getD [] ++ us)
      else db.slot d k := by
  have hnew : ((db.dbMonitors.lookup dn).getD (newMonitor dn)).key2Updaters.lookup k =
      db.slot dn k := by
    unfold slot; cases db.dbMonitors.lookup dn <;> rfl
  rw [← hnew]
  unfold slot addMonitors
  rw [GoMap.lookup_insert]
  split_ifs
  · exact DbMonitor.addUpdaters_lookup _ U k
  · rfl

theorem slot_removeMonitors (db : Databaser) (dn d : String) (keys : List Key) (j : String)
    (k : Key) :
    (db.removeMonitors dn keys j).slot d k =
      if d = dn ∧ k ∈ keys then DbMonitor.slotWithout (db.slot d k) j else db.slot d k := by
  unfold removeMonitors slot
  cases hm : db.dbMonitors.lookup dn with
  | none =>
    split_ifs with h
    · rw [h.1, hm]; rfl
    · rfl
  | some m =>
    dsimp only
    rw [GoMap.lookup_insert]
    by_cases hd : d = dn
    · subst hd
      rw [if_pos rfl, hm, Option.some_bind, Option.some_bind, DbMonitor.removeUpdaters_lookup]
      by_cases hk : k ∈ keys <;> simp only [hk, and_self, and_false, if_true, if_false]
    · rw [if_neg hd, if_neg fun h => hd h.1]

theorem slot_watchCanceled (db : Databaser) (dn d : String) (k : Key) :
    (db.watchCanceled dn).1.slot d k = if d = dn then none else db.slot d k := by
  unfold watchCanceled slot
  cases hm : db.dbMonitors.lookup dn with
  | none =>
    split_ifs with hd
    · rw [hd, hm]; rfl
    · rfl
  | some m =>
    dsimp only
    rw [GoMap.lookup_insert]
    split_ifs <;> rfl

end Databaser

/-! ### The invariant -/

namespace Handler

/-- The registries of `ch`'s database monitors and its monitors agree. -/
structure Synced (ch : Handler) : Prop where
  /-- every registered updater belongs to a live monitor of its database, at one of the
  monitor's tables, and has the monitor's protocol version -/
  updater_live : ∀ d k us u, ch.db.slot d k = some us → u ∈ us →
    ∃ data, ch.monitors.lookup u.jasonValueStr = some data ∧ data.dataBaseName = d ∧
      k ∈ data.updatersKeys ∧ u.isV1 = decide (data.notificationType = .update)
  /-- every slot is a table of a live monitor of its database -/
  slot_live : ∀ d k us, ch.db.slot d k = some us →
    ∃ j data, ch.monitors.lookup j = some data ∧ data.dataBaseName = d ∧ k ∈ data.updatersKeys
  /-- every monitor is recorded under the key of its json-value -/
  key_eq : ∀ j data, ch.monitors.lookup j = some data → jsonValueToString data.jsonValue = j

/-- A handler that a session reaches from a new handler whose database has no monitor yet. -/
def Reachable (ch : Handler) : Prop :=
  ∃ db ops, db.dbMonitors = ∅ ∧ ch = (newHandler db).runSession ops

theorem synced_newHandler {db : Databaser} (hdb : db.dbMonitors = ∅) : (newHandler db).Synced := by
  have hslot : ∀ d k, db.slot d k = none := fun d k => by rw [Databaser.slot, hdb]; rfl
  refine ⟨fun d k us u h => ?_, fun d k us h => ?_, fun j data h => by cases h⟩ <;>
    rw [show (newHandler db).db = db from rfl, hslot] at h <;> cases h

/-- With no monitor left, no slot is left. -/
theorem Synced.slot_eq_none {db : Databaser} (h : Synced ⟨db, ∅⟩) (d : String) (k : Key) :
    db.slot d k = none := by
  cases hs : db.slot d k with
  | none => rfl
  | some us => obtain ⟨_, _, hl, -⟩ := h.slot_live d k us hs; cases hl

/-! ### Registration -/

/-- The updaters `monitor` builds carry its key and its protocol version. -/
theorem buildUpdaters_updater (ch : Handler) (param : CondMonitorParameters) (J : String)
    (isV1 : Bool) {k : Key} {us : List Updater} {u : Updater}
    (h : (ch.buildUpdaters param J isV1).lookup k = some us) (hu : u ∈ us) :
    u.jasonValueStr = J ∧ u.isV1 = isV1 := by
  unfold buildUpdaters at h
  rcases GoMap.lookup_foldl_insert _ _ _ _ h with h | ⟨s, -, -, rfl⟩
  · cases h
  · obtain ⟨mcr, -, rfl⟩ := List.mem_map.mp hu
    exact ⟨rfl, rfl⟩

/-- Recording a monitor under a fresh key that is the key of its json-value keeps the
invariant. -/
theorem synced_insert {ch : Handler} (h : ch.Synced) {J : String} {data : HandlerMonitorData}
    (hJ : J ∉ ch.monitors) (hkey : jsonValueToString data.jsonValue = J) :
    Synced ⟨ch.db, ch.monitors.insert J data⟩ := by
  have hmon := fun {j} {d'} (hl : ch.monitors.lookup j = some d') =>
    GoMap.lookup_insert_of_not_mem data hJ hl
  refine ⟨fun d k us u hs hu => ?_, fun d k us hs => ?_, fun j d' hl => ?_⟩
  · obtain ⟨d', hl, hr⟩ := h.updater_live d k us u hs hu
    exact ⟨d', hmon hl, hr⟩
  · obtain ⟨j, d', hl, hr⟩ := h.slot_live d k us hs
    exact ⟨j, d', hmon hl, hr⟩
  · dsimp only at hl
    rw [GoMap.lookup_insert] at hl
    split_ifs at hl with hj
    · cases hl; rw [hkey, hj]
    · exact h.key_eq j d' hl

/-- Adding, at the tables of a live monitor `J` of its database, updaters that all carry `J` and
its protocol version keeps the invariant. -/
theorem synced_addMonitors {ch : Handler} (h : ch.Synced) {J dn : String}
    {data : HandlerMonitorData} {U : Key2Updaters} (hJ : ch.monitors.lookup J = some data)
    (hdn : data.dataBaseName = dn) (hkeys : data.updatersKeys = U.keys)
    (hU : ∀ k us u, U.lookup k = some us → u ∈ us →
      u.jasonValueStr = J ∧ u.isV1 = decide (data.notificationType = .update)) :
    Synced { ch with db := ch.db.addMonitors dn U } := by
  subst hdn
  have hmemU : ∀ {k us}, U.lookup k = some us → k ∈ data.updatersKeys := fun hk =>
    hkeys ▸ AList.lookup_isSome.mp (by rw [hk]; rfl)
  refine ⟨fun d k us u hs hu => ?_, fun d k us hs => ?_, h.key_eq⟩ <;>
    dsimp only at hs <;> rw [Databaser.slot_addMonitors] at hs <;> split_ifs at hs with hd
  · subst hd
    split at hs
    · exact h.updater_live _ _ _ _ hs hu
    · rename_i us₀ hU₀
      cases hs
      rcases List.mem_append.mp hu with hu | hu
      · cases hs' : ch.db.slot data.dataBaseName k with
        | none => rw [hs'] at hu; cases hu
        | some _ => rw [hs'] at hu; exact h.updater_live _ _ _ _ hs' hu
      · obtain ⟨hj, hv⟩ := hU k us₀ u hU₀ hu
        exact ⟨data, by rw [hj]; exact hJ, rfl, hmemU hU₀, hv⟩
  · exact h.updater_live _ _ _ _ hs hu
  · subst hd
    split at hs
    · exact h.slot_live _ _ _ hs
    · exact ⟨J, data, hJ, rfl, hmemU ‹_›⟩
  · exact h.slot_live _ _ _ hs

theorem synced_monitor {ch : Handler} (h : ch.Synced) (param : CondMonitorParameters)
    (nt : UpdateNotificationType) : (ch.monitor param nt).2.Synced := by
  by_cases hv : param.databaseName.length = 0 ∨ jsonValueToString param.jsonValue ∈ ch.monitors
  · obtain ⟨e, he⟩ := monitor_invalid ch param nt hv
    rw [he]; exact h
  rw [not_or] at hv
  rw [monitor_valid ch param nt hv.1 hv.2]
  exact synced_addMonitors (synced_insert h hv.2 rfl) (GoMap.lookup_insert_self _ _ _) rfl rfl
    fun _ _ _ hk hu => buildUpdaters_updater ch param _ _ hk hu

/-! ### Removal -/

/-- Removing a live monitor `j` from its tables of its database and from the monitors keeps the
invariant. -/
theorem synced_removeMonitors {ch : Handler} (h : ch.Synced) {j : String}
    {data : HandlerMonitorData} (hj : ch.monitors.lookup j = some data) :
    Synced ⟨ch.db.removeMonitors data.dataBaseName data.updatersKeys j, ch.monitors.erase j⟩ := by
  have hmon : ∀ {j' d'}, ch.monitors.lookup j' = some d' → j' ≠ j →
      (ch.monitors.erase j).lookup j' = some d' := fun hl hne => by
    rw [GoMap.lookup_erase_of_ne _ hne, hl]
  -- whoever owns a slot outside `j`'s tables is not `j`
  have hother : ∀ {j' d' d k}, ch.monitors.lookup j' = some d' → d'.dataBaseName = d →
      k ∈ d'.updatersKeys → ¬(d = data.dataBaseName ∧ k ∈ data.updatersKeys) → j' ≠ j := by
    rintro j' d' d k hl rfl hk hn rfl
    rw [hj] at hl
    cases hl
    exact hn ⟨rfl, hk⟩
  refine ⟨fun d k us u hs hu => ?_, fun d k us hs => ?_, fun j' d' hl => ?_⟩
  · dsimp only at hs
    rw [Databaser.slot_removeMonitors] at hs
    split_ifs at hs with hr
    · obtain ⟨us₀, hs₀, rfl, -⟩ := DbMonitor.slotWithout_eq_some hs
      obtain ⟨hu₀, hne⟩ := List.mem_filter.mp hu
      obtain ⟨d', hl, hrest⟩ := h.updater_live _ _ _ _ hs₀ hu₀
      exact ⟨d', hmon hl (by simpa using hne), hrest⟩
    · obtain ⟨d', hl, hd', hk, hv⟩ := h.updater_live _ _ _ _ hs hu
      exact ⟨d', hmon hl (hother hl hd' hk hr), hd', hk, hv⟩
  · dsimp only at hs
    rw [Databaser.slot_removeMonitors] at hs
    split_ifs at hs with hr
    · obtain ⟨us₀, hs₀, rfl, hne⟩ := DbMonitor.slotWithout_eq_some hs
      obtain ⟨u, hu⟩ := List.exists_mem_of_ne_nil _ hne
      obtain ⟨hu₀, hnej⟩ := List.mem_filter.mp hu
      obtain ⟨d', hl, hd', hk, -⟩ := h.updater_live _ _ _ _ hs₀ hu₀
      exact ⟨_, d', hmon hl (by simpa using hnej), hd', hk⟩
    · obtain ⟨j', d', hl, hd', hk⟩ := h.slot_live _ _ _ hs
      exact ⟨j', d', hmon hl (hother hl hd' hk hr), hd', hk⟩
  · dsimp only at hl
    rw [GoMap.lookup_erase] at hl
    split_ifs at hl
    exact h.key_eq j' d' hl

theorem synced_MonitorCancel {ch : Handler} (h : ch.Synced) (param : Json) :
    (ch.MonitorCancel param).2.Synced := by
  dsimp only [MonitorCancel]
  cases hj : ch.monitors.lookup (jsonValueToString param) with
  | none => exact h
  | some data => exact synced_removeMonitors h hj

/-- `Cleanup`'s loop, over the monitors still to visit: once it has visited them all, the
registry agrees with no monitor at all. -/
theorem synced_foldl_removeMonitors :
    ∀ (l : List (Σ _ : String, HandlerMonitorData)) (ch : Handler), ch.monitors.entries = l →
      ch.Synced →
        Synced ⟨l.foldl (fun db s => db.removeMonitors s.2.dataBaseName s.2.updatersKeys s.1)
          ch.db, ∅⟩
  | [], ch, hl, h => by
    rw [show (∅ : GoMap String HandlerMonitorData) = ch.monitors from (AList.ext hl).symm]
    exact h
  | ⟨j, data⟩ :: l, ch, hl, h => by
    have hj : ch.monitors.lookup j = some data :=
      AList.mem_lookup_iff.mpr (hl ▸ List.mem_cons_self _ _)
    have herase : (ch.monitors.erase j).entries = l := by
      show ch.monitors.entries.kerase j = l
      rw [hl]
      exact List.kerase_cons_eq rfl
    exact synced_foldl_removeMonitors l _ herase (synced_removeMonitors h hj)

theorem Cleanup_slot_eq_none {ch : Handler} (h : ch.Synced) (d : String) (k : Key) :
    ch.Cleanup.db.slot d k = none :=
  (synced_foldl_removeMonitors ch.monitors.entries ch rfl h).slot_eq_none d k

theorem synced_Cleanup {ch : Handler} (h : ch.Synced) : ch.Cleanup.Synced := by
  refine ⟨fun d k us u hs _ => ?_, fun d k us hs => ?_, h.key_eq⟩ <;>
    rw [Cleanup_slot_eq_none h] at hs <;> cases hs

/-! ### Sessions -/

theorem synced_watchCanceled {ch : Handler} (h : ch.Synced) (dn : String) :
    Synced { ch with db := (ch.db.watchCanceled dn).1 } := by
  refine ⟨fun d k us u hs hu => ?_, fun d k us hs => ?_, h.key_eq⟩ <;>
    dsimp only at hs <;> rw [Databaser.slot_watchCanceled] at hs <;> split_ifs at hs
  · exact h.updater_live _ _ _ _ hs hu
  · exact h.slot_live _ _ _ hs

/-- **Every step of a session keeps the registry and the monitors in step.** -/
theorem synced_handle {ch : Handler} (h : ch.Synced) : ∀ op, (ch.handle op).Synced
  | .monitor param => by
    rw [handle, Monitor, (monitorRpc_spec ch param .update true).1]; exact synced_monitor h _ _
  | .monitorCond param => by
    rw [handle, MonitorCond, (monitorRpc_spec ch param .update2 false).1]
    exact synced_monitor h _ _
  | .monitorCondSince param => by
    rw [handle, (MonitorCondSince_spec ch param).1]; exact synced_monitor h _ _
  | .monitorCancel param => synced_MonitorCancel h param
  | .watchCanceled dn => synced_watchCanceled h dn
  | .cleanup => synced_Cleanup h

theorem synced_runSession {ch : Handler} (h : ch.Synced) : ∀ ops, (ch.runSession ops).Synced
  | [] => h
  | op :: ops => synced_runSession (synced_handle h op) ops

theorem Reachable.synced {ch : Handler} (h : ch.Reachable) : ch.Synced := by
  obtain ⟨db, ops, hdb, rfl⟩ := h
  exact synced_runSession (synced_newHandler hdb) ops

/-- A handler that has served one `monitor_cond` of json-value `"j"` on table `T` of database
`db`. -/
def condHandler : Handler :=
  (newHandler emptyHandler.db).runSession
    [.monitorCond ⟨"db", .string "j", AList.singleton "T" [{}]⟩]

/-- **In every reachable handler the registry and the monitors agree.** -/
theorem reachable_synced {ch : Handler} (h : ch.Reachable) : ch.Synced :=
  h.synced

theorem reachable_synced_cond : condHandler.Synced :=
  reachable_synced ⟨emptyHandler.db, _, rfl, rfl⟩

end Handler

/-! ### What the batches of a database monitor carry -/

/-- The row update `prepareRowUpdate` returns for an event with a `Kv` is well formed for the
kind of change the event reports. -/
theorem prepareRowUpdate_wellFormed {u : Updater} {ev : Event} {kv : KeyValue} {ru : RowUpdate}
    {uuid : String} (h : u.prepareRowUpdate ev = some (.ok (some ru, uuid)))
    (hkv : ev.kv = some kv) : ∃ ch, ev.change = some ch ∧ ru.WellFormed u ch := by
  obtain ⟨ch, hch⟩ : ∃ ch, ev.change = some ch := by
    unfold Event.change; split_ifs <;> simp [hkv]
  obtain ⟨hi, hc, hm, hd⟩ := prepareRowUpdate_of_change u hch
  refine ⟨ch, hch, ?_⟩
  cases ch with
  | initial => exact absurd rfl hi
  | insert => exact (prepareCreateRowUpdate_wellFormed (hc rfl ▸ h)).1
  | modify => exact (prepareModifyRowUpdate_wellFormed (hm rfl ▸ h)).1
  | delete => exact (prepareDeleteRowUpdate_wellFormed (hd rfl ▸ h)).1

/-- A json-value of a batch has an emission. -/
theorem exists_emission_of_lookup {m : DbMonitor} {events : List Event} {res : BatchUpdates}
    (h : m.prepareTableUpdate events = some res) {j : String} {tus : TableUpdates}
    (hj : res.lookup j = some tus) :
    ∃ e ∈ batchEmissions m.key2Updaters events, e.jsonValue = j := by
  by_contra hne
  push_neg at hne
  rw [prepareTableUpdate_eq h, lookup_putAll_filter,
    List.filter_eq_nil_iff.mpr fun e he => by simpa using hne e he] at hj
  cases hj

/-- A row update of a batch is an emission. -/
theorem exists_emission_of_lookupRowUpdate {m : DbMonitor} {events : List Event}
    {res : BatchUpdates} (h : m.prepareTableUpdate events = some res) {j t u : String}
    {ru : RowUpdate} (hr : lookupRowUpdate res j t u = some ru) :
    ∃ e ∈ batchEmissions m.key2Updaters events, e.jsonValue = j ∧ e.rowUpdate = ru := by
  rw [lookupRowUpdate_prepareTableUpdate h] at hr
  obtain ⟨e, he, rfl⟩ := Option.map_eq_some'.mp hr
  obtain ⟨hmem, ht⟩ := List.mem_filter.mp (List.mem_of_getLast?_eq_some he)
  exact ⟨e, hmem, (of_decide_eq_true ht).1, rfl⟩

namespace Handler

/-- Every emission of a database monitor of a synced handler comes from an updater of a live
monitor of that database, with the monitor's protocol version, and is well formed for it. -/
theorem Synced.emission_live {ch : Handler} (h : ch.Synced) {d : String} {m : DbMonitor}
    (hm : ch.db.dbMonitors.lookup d = some m) {events : List Event} {e : Emission}
    (he : e ∈ batchEmissions m.key2Updaters events) :
    ∃ data, ch.monitors.lookup e.jsonValue = some data ∧ data.dataBaseName = d ∧
      ∃ w change, w.jasonValueStr = e.jsonValue ∧
        w.isV1 = decide (data.notificationType = .update) ∧ e.rowUpdate.WellFormed w change := by
  obtain ⟨ev, -, kv, key, hkv, -, -, w, hw, hj, hp⟩ := mem_batchEmissions.mp he
  cases hs : m.key2Updaters.lookup key.toTableKey with
  | none => rw [hs] at hw; cases hw
  | some us =>
    rw [hs, Option.getD_some] at hw
    have hslot : ch.db.slot d key.toTableKey = some us := by rw [Databaser.slot, hm]; exact hs
    obtain ⟨data, hl, hd, -, hv⟩ := h.updater_live _ _ _ _ hslot hw
    obtain ⟨change, -, hwf⟩ := prepareRowUpdate_wellFormed hp hkv
    exact ⟨data, hj ▸ hl, hd, w, change, hj, hv, hwf⟩

/-- **Every batch goes to a live monitor, in its protocol version.**  In a reachable handler,
each json-value `j` of a batch that the monitor of database `d` prepares names a live monitor of
`d`, so `notify` sends the batch with that monitor's method and params and never takes its
"Unknown jsonValue" branch; and each row update of the batch is well formed for an updater of
`j` whose protocol version is v1 exactly when the method is `update`. -/
theorem reachable_batches_live {ch : Handler} (h : ch.Reachable) {d : String} {m : DbMonitor}
    (hm : ch.db.dbMonitors.lookup d = some m) {events : List Event} {res : BatchUpdates}
    (hres : m.prepareTableUpdate events = some res) {j : String} {tus : TableUpdates}
    (hj : res.lookup j = some tus) :
    ∃ data, ch.monitors.lookup j = some data ∧ data.dataBaseName = d ∧
      ch.notify j tus = some (data.notification tus) ∧
      ∀ t tu u ru, tus.lookup t = some tu → tu.lookup u = some ru →
        ∃ w change, w.jasonValueStr = j ∧ w.isV1 = decide (data.notificationType = .update) ∧
          ru.WellFormed w change := by
  have hs := h.synced
  obtain ⟨e, he, rfl⟩ := exists_emission_of_lookup hres hj
  obtain ⟨data, hl, hd, -⟩ := hs.emission_live hm he
  refine ⟨data, hl, hd, by rw [notify, hl], fun t tu u ru ht hu => ?_⟩
  have hr : lookupRowUpdate res e.jsonValue t u = some ru := by
    simp only [lookupRowUpdate, hj, ht, hu, Option.some_bind]
  obtain ⟨e', he', hj', rfl⟩ := exists_emission_of_lookupRowUpdate hres hr
  obtain ⟨data', hl', -, w, change, hw, hv, hwf⟩ := hs.emission_live hm he'
  rw [hj', hl] at hl'
  cases hl'
  exact ⟨w, change, hw.trans hj', hv, hwf⟩

theorem reachable_batches_live_cond :
    ∃ data, condHandler.monitors.lookup "j" = some data ∧ data.dataBaseName = "db" ∧
      condHandler.notify "j" (AList.singleton "T" (AList.singleton "U1"
        { insert := some (AList.singleton "c" (.json (.number 1))) })) =
        some (data.notification (AList.singleton "T" (AList.singleton "U1"
          { insert := some (AList.singleton "c" (.json (.number 1))) }))) ∧
      ∀ t tu u ru, (AList.singleton "T" (AList.singleton "U1"
          { insert := some (AList.singleton "c" (.json (.number 1))) }) : TableUpdates).lookup t =
          some tu → tu.lookup u = some ru →
        ∃ w change, w.jasonValueStr = "j" ∧
          w.isV1 = decide (data.notificationType = .update) ∧ ru.WellFormed w change :=
  @reachable_batches_live condHandler ⟨emptyHandler.db, _, rfl, rfl⟩ "db"
    ((newMonitor "db").addUpdaters
      (AList.singleton (newTableKey ["ovsdb"] "db" "T") [mcrToUpdater {} "j" ⟨[]⟩ false])) rfl
    [{ type := .put, prevKv := none,
       kv := some ⟨["ovsdb", "db", "T", "U1"], 1, 1,
         some (.object [("_uuid", .array [.string "uuid", .string "U1"]), ("c", .number 1)])⟩ }]
    (AList.singleton "j" (AList.singleton "T" (AList.singleton "U1"
      { insert := some (AList.singleton "c" (.json (.number 1))) }))) (by decide) "j" _ rfl

/-- **`Cleanup` leaves nothing registered.**  After `Cleanup` of a reachable handler no
database monitor has a slot left, so every batch it prepares, from any events, is empty. -/
theorem reachable_cleanup {ch : Handler} (h : ch.Reachable) {d : String} {m : DbMonitor}
    (hm : ch.Cleanup.db.dbMonitors.lookup d = some m) :
    m.key2Updaters = ∅ ∧ ∀ events, m.prepareTableUpdate events = some ∅ := by
  have hk : m.key2Updaters = ∅ := GoMap.eq_empty_of_lookup fun k => by
    simpa only [Databaser.slot, hm, Option.some_bind] using Cleanup_slot_eq_none h.synced d k
  exact ⟨hk, DbMonitor.prepareTableUpdate_empty hk⟩

theorem reachable_cleanup_cond :
    condHandler.Cleanup.db.dbMonitors.lookup "db" = some (newMonitor "db") ∧
      (newMonitor "db").key2Updaters = ∅ ∧
      ∀ events, (newMonitor "db").prepareTableUpdate events = some ∅ :=
  ⟨rfl, @reachable_cleanup condHandler ⟨emptyHandler.db, _, rfl, rfl⟩ "db" _ rfl⟩

/-- **A cancelled watch notifies each of its monitors once and forgets none.**  In a reachable
handler, the cancelled watch of database `d` sends `monitor_canceled` to the key strings `js` of
the monitors of `d` that have an updater registered, each once.  The params of each is the
client's json-value only when that is a JSON string.  The handler keeps every monitor, so a
monitor request that reuses the json-value of a notified monitor is rejected as a duplicate. -/
theorem reachable_watchCanceled {ch : Handler} (h : ch.Reachable) (d : String) :
    ∃ js : List String,
      (ch.db.watchCanceled d).2 = js.map (fun j => monitorCanceledNotification (.string j)) ∧
      js.Nodup ∧
      (∀ j, j ∈ js ↔ ∃ k us u, ch.db.slot d k = some us ∧ u ∈ us ∧ u.jasonValueStr = j) ∧
      ∀ j ∈ js, ∃ data, ch.monitors.lookup j = some data ∧ data.dataBaseName = d ∧
        ((monitorCanceledNotification (.string j)).params = .json data.jsonValue ↔
          ∃ s, data.jsonValue = .string s) ∧
        ∀ param nt, param.databaseName.length ≠ 0 → jsonValueToString param.jsonValue = j →
          ((ch.handle (.watchCanceled d)).monitor param nt).1 = .error "duplicate json-value" := by
  have hs := h.synced
  unfold Databaser.watchCanceled
  cases hm : ch.db.dbMonitors.lookup d with
  | none =>
    refine ⟨[], rfl, List.nodup_nil, fun j => ?_, fun j hj => nomatch hj⟩
    simp [Databaser.slot, hm]
  | some m =>
    refine ⟨m.cancelDbMonitor.2, rfl, AList.keys_nodup _, fun j => ?_, fun j hj => ?_⟩
    · rw [DbMonitor.mem_cancelDbMonitor]
      simp only [Databaser.slot, hm, Option.some_bind]
    obtain ⟨k, us, u, hk, hu, rfl⟩ := (DbMonitor.mem_cancelDbMonitor m j).mp hj
    have hslot : ch.db.slot d k = some us := by rw [Databaser.slot, hm]; exact hk
    obtain ⟨data, hl, hd, -, -⟩ := hs.updater_live d k us u hslot hu
    have hkey := hs.key_eq _ _ hl
    refine ⟨data, hl, hd, ⟨fun he => ⟨_, (NotifyParams.json.inj he).symm⟩, ?_⟩,
      fun param nt h0 hj => ?_⟩
    · rintro ⟨s, hs'⟩
      rw [hs'] at hkey ⊢
      rw [← hkey]
      rfl
    · have hmem : u.jasonValueStr ∈ ch.monitors := AList.lookup_isSome.mp (by rw [hl]; rfl)
      exact (monitor_duplicate_iff _ param nt h0).mpr (hj ▸ hmem)

theorem reachable_watchCanceled_cond :
    ∃ js : List String,
      (condHandler.db.watchCanceled "db").2 =
        js.map (fun j => monitorCanceledNotification (.string j)) ∧
      js.Nodup ∧
      (∀ j, j ∈ js ↔
        ∃ k us u, condHandler.db.slot "db" k = some us ∧ u ∈ us ∧ u.jasonValueStr = j) ∧
      ∀ j ∈ js, ∃ data, condHandler.monitors.lookup j = some data ∧ data.dataBaseName = "db" ∧
        ((monitorCanceledNotification (.string j)).params = .json data.jsonValue ↔
          ∃ s, data.jsonValue = .string s) ∧
        ∀ param nt, param.databaseName.length ≠ 0 → jsonValueToString param.jsonValue = j →
          ((condHandler.handle (.watchCanceled "db")).monitor param nt).1 =
            .error "duplicate json-value" :=
  reachable_watchCanceled ⟨emptyHandler.db, _, rfl, rfl⟩ "db"

end Handler

end OvsdbMonitor
