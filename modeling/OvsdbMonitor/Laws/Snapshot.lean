import OvsdbMonitor.Laws.RowUpdate
import OvsdbMonitor.Laws.Handler

/-!
# The initial reply of the monitor RPCs

`initialRows` runs every stored row of a table through every updater of the table, stored row by
stored row and updater by updater, and keeps for each uuid the row update produced last
(`initialRows_last_wins`); each of them is a well-formed initial row update of one of the
updaters, carrying the uuid stored in its row.  `getMonitoredData` files the initial rows of
every monitored table with an updater under the table's name.  So a monitor RPC that succeeds
replies with one entry for each requested table with a monitor-cond-request, holding that
table's initial rows, each well formed in the RPC's protocol version: `New` for `monitor`,
`Initial` for `monitor_cond` and `monitor_cond_since` (`monitorRpc_initial_reply`).
-/

namespace OvsdbMonitor

/-! ### The rows of one table -/

/-- The row update updater `u` yields for the stored value `value`, with its uuid. -/
def initialEmission (value : Payload) (u : Updater) : Option (String × RowUpdate) :=
  match u.prepareCreateRowInitial value with
  | .ok (some row, uuid) => some (uuid, row)
  | _ => none

/-- The row updates of a snapshot, in the order of `initialRows`' loops. -/
def initialEmissions (updaters : List Updater) (kvs : List KeyValue) :
    List (String × RowUpdate) :=
  kvs.flatMap fun kv => updaters.filterMap (initialEmission kv.value)

theorem mem_initialEmissions {updaters : List Updater} {kvs : List KeyValue}
    {e : String × RowUpdate} :
    e ∈ initialEmissions updaters kvs ↔
      ∃ kv ∈ kvs, ∃ u ∈ updaters, u.prepareCreateRowInitial kv.value = .ok (some e.2, e.1) := by
  unfold initialEmissions
  simp only [List.mem_flatMap, List.mem_filterMap]
  refine exists_congr fun kv => and_congr_right fun _ => exists_congr fun u =>
    and_congr_right fun _ => ?_
  unfold initialEmission
  cases u.prepareCreateRowInitial kv.value with
  | error => simp
  | ok r =>
    obtain ⟨_ | row, uuid⟩ := r
    · simp
    · simp [Prod.ext_iff, eq_comm, and_comm]

/-- Inserting the row updates of a list one after the other. -/
def insertAll (d : TableUpdate) (es : List (String × RowUpdate)) : TableUpdate :=
  es.foldl (fun d e => d.insert e.1 e.2) d

theorem foldl_initialStep (value : Payload) :
    ∀ (updaters : List Updater) (d : TableUpdate),
      updaters.foldl (fun d u => ((initialEmission value u).map fun e => d.insert e.1 e.2).getD d)
        d = insertAll d (updaters.filterMap (initialEmission value))
  | [], _ => rfl
  | u :: updaters, d => by
    rw [List.foldl_cons, foldl_initialStep value updaters, List.filterMap_cons]
    cases initialEmission value u <;> rfl

namespace Handler

/-- When it returns, `initialRows` inserts the row updates of the snapshot in loop order. -/
theorem initialRows_eq {updaters : List Updater} {kvs : List KeyValue} {d : TableUpdate}
    (h : initialRows updaters kvs = .ok d) : d = insertAll ∅ (initialEmissions updaters kvs) := by
  have hinner : ∀ (value : Payload) (d d' : TableUpdate), updaters.foldlM (fun d1 updater => do
      let (row, uuid) ← updater.prepareCreateRowInitial value
      pure (match row with
        | some row => d1.insert uuid row
        | none => d1)) d = .ok d' →
        d' = insertAll d (updaters.filterMap (initialEmission value)) := by
    intro value d d' h'
    rw [← foldl_initialStep]
    refine Except.foldlM_eq_ok (fun b u b' hb => ?_) _ _ _ h'
    unfold initialEmission
    cases hu : u.prepareCreateRowInitial value with
    | error e => rw [hu] at hb; cases hb
    | ok r =>
      obtain ⟨_ | row, uuid⟩ := r <;> rw [hu] at hb <;> cases hb <;> rfl
  unfold initialRows at h
  rw [Except.foldlM_eq_ok (fun b kv b' hb => hinner kv.value b b' hb) _ _ _ h]
  clear h hinner
  unfold initialEmissions insertAll
  generalize (∅ : TableUpdate) = acc
  induction kvs generalizing acc with
  | nil => rfl
  | cons kv kvs ih => rw [List.foldl_cons, ih, List.flatMap_cons, List.foldl_append]

theorem initialRows_lookup {updaters : List Updater} {kvs : List KeyValue} {d : TableUpdate}
    (h : initialRows updaters kvs = .ok d) (uuid : String) :
    d.lookup uuid =
      (((initialEmissions updaters kvs).filter fun e => e.1 = uuid).getLast?).map Prod.snd := by
  rw [initialRows_eq h, insertAll, GoMap.lookup_foldl_insert_getLast, GoMap.lookup_empty,
    Option.or_none]

theorem initialRows_wellFormed {updaters : List Updater} {kvs : List KeyValue} {d : TableUpdate}
    (h : initialRows updaters kvs = .ok d) {uuid : String} {ru : RowUpdate}
    (hru : d.lookup uuid = some ru) :
    ∃ kv ∈ kvs, ∃ u ∈ updaters, u.prepareCreateRowInitial kv.value = .ok (some ru, uuid) ∧
      ru.WellFormed u .initial ∧ HasUUID kv.value uuid := by
  rw [initialRows_lookup h] at hru
  obtain ⟨e, he, rfl⟩ := Option.map_eq_some'.mp hru
  obtain ⟨hmem, heq⟩ := List.mem_filter.mp (List.mem_of_getLast?_eq_some he)
  obtain ⟨kv, hkv, u, hu, hp⟩ := mem_initialEmissions.mp hmem
  rw [of_decide_eq_true heq] at hp
  exact ⟨kv, hkv, u, hu, hp, prepareCreateRowInitial_wellFormed hp⟩

/-- **The initial rows of a table: the last row update for each uuid.**  When `initialRows`
returns, the row update it holds for a uuid is the last one its loops produce for that uuid,
stored row by stored row and updater by updater; and each is the initial row update one of the
updaters makes of one of the stored rows, well formed for that updater, whose stored `_uuid`
it is filed under. -/
theorem initialRows_last_wins {updaters : List Updater} {kvs : List KeyValue} {d : TableUpdate}
    (h : initialRows updaters kvs = .ok d) (uuid : String) :
    d.lookup uuid =
        (((initialEmissions updaters kvs).filter fun e => e.1 = uuid).getLast?).map Prod.snd ∧
      ∀ ru, d.lookup uuid = some ru →
        ∃ kv ∈ kvs, ∃ u ∈ updaters, u.prepareCreateRowInitial kv.value = .ok (some ru, uuid) ∧
          ru.WellFormed u .initial ∧ HasUUID kv.value uuid :=
  ⟨initialRows_lookup h uuid, fun _ hru => initialRows_wellFormed h hru⟩

/-- Two stored rows of table `T` with the same `_uuid`, `U1`, and column `c` at 1 then 2. -/
def twoRows : List KeyValue :=
  [⟨["ovsdb", "db", "T", "U1"], 1, 1,
      some (.object [("_uuid", .array [.string "uuid", .string "U1"]), ("c", .number 1)])⟩,
    ⟨["ovsdb", "db", "T", "U1"], 2, 2,
      some (.object [("_uuid", .array [.string "uuid", .string "U1"]), ("c", .number 2)])⟩]

theorem initialRows_last_wins_twoRows :
    (AList.singleton "U1" { initial := some (AList.singleton "c" (.json (.number 2))) } :
        TableUpdate).lookup "U1" =
      (((initialEmissions [mcrToUpdater {} "j" ⟨[]⟩ false] twoRows).filter
        fun e => e.1 = "U1").getLast?).map Prod.snd ∧
    ∀ ru, (AList.singleton "U1" { initial := some (AList.singleton "c" (.json (.number 2))) } :
        TableUpdate).lookup "U1" = some ru →
      ∃ kv ∈ twoRows, ∃ u ∈ [mcrToUpdater {} "j" ⟨[]⟩ false],
        u.prepareCreateRowInitial kv.value = .ok (some ru, "U1") ∧
          ru.WellFormed u .initial ∧ HasUUID kv.value "U1" :=
  initialRows_last_wins (by decide) "U1"

/-! ### The monitored tables -/

/-- The table keys of a request's updaters name its tables, so distinct keys have distinct
table names. -/
theorem newTableKey_injective (pfx : List String) (dbName : String) :
    Function.Injective (newTableKey pfx dbName) :=
  fun _ _ h => congrArg Key.tableName h

theorem lookup_buildUpdaters (ch : Handler) (param : CondMonitorParameters) (J : String)
    (isV1 : Bool) (t : String) :
    (ch.buildUpdaters param J isV1).lookup (newTableKey ch.db.pfx param.databaseName t) =
      (param.monitorCondRequests.lookup t).map fun mcrs =>
        mcrs.map fun mcr => mcrToUpdater mcr J (ch.db.tableSchema param.databaseName t) isV1 := by
  unfold buildUpdaters
  rw [GoMap.lookup_foldl_insert_of_injective (newTableKey_injective _ _), GoMap.lookup_empty,
    Option.or_none]

section Reply

variable (ch : Handler) (U : Key2Updaters) (isV1 : Bool)

/-- One round of `getMonitoredData`'s loop: a table without updaters is skipped; any other adds
its initial rows under its name. -/
theorem getMonitoredData_step {acc acc' : TableUpdates} {s : Σ _ : Key, List Updater}
    (h : (if s.2.length = 0 then pure acc else do
      let kvs ← ch.db.getData s.1
      let d1 ← initialRows s.2 kvs
      pure (acc.insert s.1.tableName d1)) = Except.ok acc') :
    (s.2 = [] ∧ acc' = acc) ∨
      (s.2 ≠ [] ∧ ∃ kvs d1, ch.db.getData s.1 = .ok kvs ∧ initialRows s.2 kvs = .ok d1 ∧
        acc' = acc.insert s.1.tableName d1) := by
  split_ifs at h with hs
  · cases h
    exact .inl ⟨List.eq_nil_of_length_eq_zero hs, rfl⟩
  · obtain ⟨kvs, hkvs, h⟩ := Except.bind_eq_ok.mp h
    obtain ⟨d1, hd1, h⟩ := Except.bind_eq_ok.mp h
    cases h
    exact .inr ⟨fun h0 => hs (by rw [h0]; rfl), kvs, d1, hkvs, hd1, rfl⟩

/-- Every table of the initial reply holds the initial rows of a monitored table with an
updater, filed under its name. -/
theorem getMonitoredData_sound {data : TableUpdates} (h : ch.getMonitoredData U isV1 = .ok data)
    {t : String} {tu : TableUpdate} (ht : data.lookup t = some tu) :
    ∃ k us kvs, U.lookup k = some us ∧ us ≠ [] ∧ k.tableName = t ∧ ch.db.getData k = .ok kvs ∧
      initialRows us kvs = .ok tu := by
  refine Except.foldlM_invariant (P := fun acc : TableUpdates => ∀ t tu, acc.lookup t = some tu →
      ∃ k us kvs, U.lookup k = some us ∧ us ≠ [] ∧ k.tableName = t ∧ ch.db.getData k = .ok kvs ∧
        initialRows us kvs = .ok tu) (fun acc s acc' hmem hacc hs => ?_) (fun _ _ h => by cases h)
    h t tu ht
  rcases getMonitoredData_step ch hs with ⟨-, rfl⟩ | ⟨hne, kvs, d1, hkvs, hd1, rfl⟩
  · exact hacc
  intro t' tu' ht'
  rw [GoMap.lookup_insert] at ht'
  split_ifs at ht' with htn
  · cases ht'
    exact ⟨s.1, s.2, kvs, AList.mem_lookup_iff.mpr hmem, hne, htn.symm, hkvs, hd1⟩
  · exact hacc t' tu' ht'

/-- Every monitored table with an updater has an entry in the initial reply. -/
theorem getMonitoredData_complete {data : TableUpdates}
    (h : ch.getMonitoredData U isV1 = .ok data) {k : Key} {us : List Updater}
    (hk : U.lookup k = some us) (hne : us ≠ []) : ∃ tu, data.lookup k.tableName = some tu := by
  refine Except.foldlM_forall_mem (R := fun s (acc : TableUpdates) =>
      s.2 ≠ [] → ∃ tu, acc.lookup s.1.tableName = some tu) (fun acc s acc' hs => ?_)
    (fun s acc s' acc' hR hs => ?_) _ _ _ h ⟨k, us⟩ (AList.mem_lookup_iff.mp hk) hne
  · rcases getMonitoredData_step ch hs with ⟨h0, -⟩ | ⟨-, kvs, d1, -, -, rfl⟩
    · exact fun hne => absurd h0 hne
    · exact fun _ => ⟨d1, GoMap.lookup_insert_self _ _ _⟩
  · intro hne
    obtain ⟨tu, htu⟩ := hR hne
    rcases getMonitoredData_step ch hs with ⟨-, rfl⟩ | ⟨-, kvs, d1, -, -, rfl⟩
    · exact ⟨tu, htu⟩
    · rw [GoMap.lookup_insert]
      split_ifs
      · exact ⟨d1, rfl⟩
      · exact ⟨tu, htu⟩

end Reply

/-- **The initial reply of a monitor RPC.**  When `monitor`, `monitor_cond` or
`monitor_cond_since` (the common body `monitorRpc`, with notification type `nt`) returns its
initial reply `data`, every requested table with a monitor-cond-request has an entry in it, and
every entry is a requested table with a monitor-cond-request, holding the initial rows of the
table's stored rows through the updaters the request built; each of its row updates is a
well-formed initial row update of one of them, so in v1 (`New`) exactly for `monitor`. -/
theorem monitorRpc_initial_reply (ch : Handler) (param : CondMonitorParameters)
    (nt : UpdateNotificationType) (isV1 : Bool) {data : TableUpdates}
    (h : (ch.monitorRpc param nt isV1).1 = .ok data) :
    (∀ t mcrs, param.monitorCondRequests.lookup t = some mcrs → mcrs ≠ [] →
      ∃ tu, data.lookup t = some tu) ∧
    ∀ t tu, data.lookup t = some tu →
      ∃ mcrs kvs, param.monitorCondRequests.lookup t = some mcrs ∧ mcrs ≠ [] ∧
        ch.db.getData (newTableKey ch.db.pfx param.databaseName t) = .ok kvs ∧
        initialRows (mcrs.map fun mcr => mcrToUpdater mcr (jsonValueToString param.jsonValue)
          (ch.db.tableSchema param.databaseName t) (decide (nt = .update))) kvs = .ok tu ∧
        ∀ uuid ru, tu.lookup uuid = some ru → ∃ mcr ∈ mcrs,
          ru.WellFormed (mcrToUpdater mcr (jsonValueToString param.jsonValue)
            (ch.db.tableSchema param.databaseName t) (decide (nt = .update))) .initial := by
  by_cases hv : param.databaseName.length = 0 ∨ jsonValueToString param.jsonValue ∈ ch.monitors
  · obtain ⟨e, he⟩ := monitor_invalid ch param nt hv
    rw [monitorRpc, he] at h
    cases h
  rw [not_or] at hv
  rw [monitorRpc, monitor_valid ch param nt hv.1 hv.2] at h
  dsimp only at h
  -- the reply is read through the handler after registration, with the same database reads
  have hlook := lookup_buildUpdaters ch param (jsonValueToString param.jsonValue)
    (decide (nt = .update))
  refine ⟨fun t mcrs ht hne => ?_, fun t tu ht => ?_⟩
  · obtain ⟨tu, htu⟩ := getMonitoredData_complete _ _ _ h ((hlook t).trans (by rw [ht]; rfl))
      (by simpa using hne)
    exact ⟨tu, htu⟩
  · obtain ⟨k, us, kvs, hk, hne, rfl, hkvs, hd⟩ := getMonitoredData_sound _ _ _ h ht
    obtain ⟨t', ht', rfl⟩ := (mem_buildUpdaters ch param _ _ k).mp
      (AList.lookup_isSome.mp (by rw [hk]; rfl))
    rw [hlook] at hk
    obtain ⟨mcrs, hmcrs, rfl⟩ := Option.map_eq_some'.mp hk
    refine ⟨mcrs, kvs, hmcrs, by simpa using hne, hkvs, hd, fun uuid ru hru => ?_⟩
    obtain ⟨-, -, u, hu, -, hwf, -⟩ := initialRows_wellFormed hd hru
    obtain ⟨mcr, hmcr, rfl⟩ := List.mem_map.mp hu
    exact ⟨mcr, hmcr, hwf⟩

/-- A handler whose database returns `twoRows` for every table. -/
def twoRowsHandler : Handler :=
  { emptyHandler with db := { emptyHandler.db with getData := fun _ => .ok twoRows } }

theorem monitorRpc_initial_reply_cond :
    (∀ t mcrs, (AList.singleton "T" [{}] : GoMap String (List MonitorCondRequest)).lookup t =
        some mcrs → mcrs ≠ [] →
      ∃ tu, (AList.singleton "T" (AList.singleton "U1"
        { initial := some (AList.singleton "c" (.json (.number 2))) }) : TableUpdates).lookup t =
          some tu) ∧
    ∀ t tu, (AList.singleton "T" (AList.singleton "U1"
        { initial := some (AList.singleton "c" (.json (.number 2))) }) : TableUpdates).lookup t =
          some tu →
      ∃ mcrs kvs, (AList.singleton "T" [{}] : GoMap String (List MonitorCondRequest)).lookup t =
          some mcrs ∧ mcrs ≠ [] ∧
        twoRowsHandler.db.getData (newTableKey twoRowsHandler.db.pfx "db" t) = .ok kvs ∧
        initialRows (mcrs.map fun mcr => mcrToUpdater mcr (jsonValueToString (.string "j"))
          (twoRowsHandler.db.tableSchema "db" t)
          (decide (UpdateNotificationType.update2 = .update))) kvs = .ok tu ∧
        ∀ uuid ru, tu.lookup uuid = some ru → ∃ mcr ∈ mcrs,
          ru.WellFormed (mcrToUpdater mcr (jsonValueToString (.string "j"))
            (twoRowsHandler.db.tableSchema "db" t)
            (decide (UpdateNotificationType.update2 = .update))) .initial :=
  monitorRpc_initial_reply twoRowsHandler ⟨"db", .string "j", AList.singleton "T" [{}]⟩ .update2
    false (by decide)

end Handler

end OvsdbMonitor
