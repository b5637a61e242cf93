import OvsdbMonitor.Schema

/-!
# Updaters: from one watch event to one row update

An `Updater` is the compiled form of one `(table, monitor-cond-request)` pair of one monitor.
`prepareRowUpdate` turns a watch event into the `RowUpdate` the monitor's protocol version
expects, through `prepareRow` (decode the stored row, strip `_uuid`, project the selected
columns) and, for a modify, the diff engine `compareModifiedRows`.

Every `prepare*` method returns Go's `(*RowUpdate, string, error)` as a `RowResult`; those that
dereference the event's `Kv` or `PrevKv` return `Option RowResult`, where `none` is the
nil-pointer panic.
-/

namespace OvsdbMonitor

/-- `libovsdb.MonitorSelect`: each flag tri-state, `none` when the client left it out. -/
structure MonitorSelect where
  initial : Option Bool := none
  insert : Option Bool := none
  delete : Option Bool := none
  modify : Option Bool := none
  deriving DecidableEq, Repr

/-- `libovsdb.MSIsTrue`: an absent flag counts as set. -/
def msIsTrue (flag : Option Bool) : Bool := flag.getD true

/-- `ovsjson.MonitorCondRequest`: the column projection and the selection flags. -/
structure MonitorCondRequest where
  columns : List String := []
  select : Option MonitorSelect := none
  deriving DecidableEq, Repr

/-- `updater`. -/
structure Updater where
  mcr : MonitorCondRequest
  tableSchema : TableSchema
  isV1 : Bool
  jasonValueStr : String
  deriving DecidableEq, Repr

/-- `mcrToUpdater`: an absent `Select` becomes the all-default one. -/
def mcrToUpdater (mcr : MonitorCondRequest) (jsonValue : String) (tableSchema : TableSchema)
    (isV1 : Bool) : Updater :=
  { mcr := { mcr with select := some (mcr.select.getD {}) }, jasonValueStr := jsonValue, isV1,
    tableSchema }

/-- `u.mcr.Select`, never nil on an updater built by `mcrToUpdater`. -/
def Updater.select (u : Updater) : MonitorSelect := u.mcr.select.getD {}

/-- `ovsjson.RowUpdate`: the v1 fields `New`/`Old` and the v2/v3 fields. -/
structure RowUpdate where
  initial : Option Row := none
  insert : Option Row := none
  delete : Bool := false
  modify : Option Row := none
  new : Option Row := none
  old : Option Row := none
  deriving DecidableEq

/-- `(*RowUpdate, uuid, err)`: an error, or the row update (`none` for nil) and the uuid. -/
abbrev RowResult := Except String (Option RowUpdate × String)

/-! ### Decoding a stored row -/

/-- `COL_UUID`. -/
def COL_UUID : String := "_uuid"

/-- `%T` of a decoded JSON value. -/
def Json.goType : Json → String
  | .null => "<nil>"
  | .bool _ => "bool"
  | .number _ => "float64"
  | .string _ => "string"
  | .array _ => "[]interface \x7b\x7d"
  | .object _ => "map[string]interface \x7b\x7d"

/-- `%v` of a column value; only decoded JSON reaches the messages that print one. -/
def Value.fmtV : Value → String
  | .json j => OvsdbMonitor.fmtV j
  | _ => "&\x7b\x7d"

/-- `getAndDeleteUUID`: the string of a `[tag, s]` `_uuid` and the row without it.  The tag
is not checked. -/
def getAndDeleteUUID (data : Row) : Except String (String × Row) :=
  match data.lookup COL_UUID with
  | none => .error ("row doesn't contain " ++ COL_UUID)
  | some uuidInt =>
    let data := data.erase COL_UUID
    match uuidInt with
    | .json (.array [_, .string uuidStr]) => .ok (uuidStr, data)
    | .json (.array [u₀, u₁]) =>
      .error ("wrong type []interface \x7b\x7d " ++ fmtV (.array [u₀, u₁]))
    | .json (.array uuid) => .error ("wrong uuid type " ++ fmtV (.array uuid))
    | .json j => .error ("wrong uuid type " ++ j.goType ++ " " ++ fmtV j)
    | v => .error ("wrong uuid type " ++ v.fmtV)

/-- `updater.deleteUnselectedColumns`: the projection on `mcr.Columns`, or the row itself
when no column is listed. -/
def Updater.deleteUnselectedColumns (u : Updater) (data : Row) : Row :=
  if u.mcr.columns.length ≠ 0 then
    u.mcr.columns.foldl (fun newData column =>
      match data.lookup column with
      | some value => newData.insert column value
      | none => newData) ∅
  else data

/-- `updater.prepareRow`: decode, strip `_uuid`, project. -/
def Updater.prepareRow (u : Updater) (value : Payload) : Except String (Row × String) := do
  let data ← unmarshalData value
  let (uuid, data) ← getAndDeleteUUID data
  return (u.deleteUnselectedColumns data, uuid)

/-! ### The diff engine -/

/-- `setsDifference`: the outer loop runs twice, collecting the elements of `set1` not found
in `set2`, and swaps the two sets after the first pass. -/
def setsDifference (set1 set2 : OvsSet) : OvsSet :=
  let pass := fun (st : OvsSet × OvsSet × OvsSet) (i : Nat) =>
    let (diff, set1, set2) := st
    let diff := diff ++ set1.filter fun s1 => !set2.any fun s2 => s1 == s2
    if i = 0 then (diff, set2, set1) else (diff, set1, set2)
  ((List.range 2).foldl pass ([], set1, set2)).1

/-- `updater.compareSets`. -/
def compareSets (data prevData : Value) (columnSchema : ColumnSchema) : Except String OvsSet :=
  match columnSchema.unmarshalSet data, columnSchema.unmarshalSet prevData with
  | .error err, _ => .error ("cannot convert column " ++ data.fmtV ++ " to set: " ++ err)
  | .ok _, .error err =>
    .error ("cannot convert prevData column " ++ prevData.fmtV ++ " to set: " ++ err)
  | .ok newSet, .ok prevSet => .ok (setsDifference newSet prevSet)

/-- `updater.compareMaps`: every key whose value is new or changed, with its new value, then
every key that was removed, with its previous value. -/
def compareMaps (data prevData : Value) (columnSchema : ColumnSchema) : Except String OvsMap :=
  match columnSchema.unmarshalMap data, columnSchema.unmarshalMap prevData with
  | .error err, _ => .error ("cannot convert column " ++ data.fmtV ++ " to map: " ++ err)
  | .ok _, .error err =>
    .error ("cannot convert prevData column " ++ prevData.fmtV ++ " to map: " ++ err)
  | .ok newMap, .ok prevMap =>
    let deltaMap := newMap.foldl (fun delta k v =>
      if prevMap.lookup k ≠ some v then delta.insert k v else delta) ∅
    .ok (prevMap.foldl (fun delta pk pv =>
      if pk ∈ delta then delta else if pk ∉ newMap then delta.insert pk pv else delta) deltaMap)

/-- The body of `compareModifiedRows`' loop for one column: `none` when the new and previous
values are deep-equal, otherwise the value stored in the delta. -/
def Updater.columnDelta (u : Updater) (column : String) (cValue prevValue : Value) :
    Except String (Option Value) :=
  if cValue = prevValue then .ok none
  else do
    let columnSchema ← u.tableSchema.lookupColumn column
    match columnSchema.type with
    | .map _ _ => return some (.map (← compareMaps cValue prevValue columnSchema))
    | .set _ => return some (.set (← compareSets cValue prevValue columnSchema))
    | .atomic _ => return some (if u.isV1 then prevValue else cValue)

/-- `updater.compareModifiedRows` over the modified row's entries in iteration order: the
`deltaRow` it leaves and the error it stops at, if any. -/
def Updater.compareModifiedRows (u : Updater) (prevRow : Row) :
    List (Σ _ : String, Value) → Row → Row × Option String
  | [], deltaRow => (deltaRow, none)
  | ⟨column, cValue⟩ :: rest, deltaRow =>
    match u.columnDelta column cValue (prevRow.get column) with
    | .error err => (deltaRow, some err)
    | .ok none => u.compareModifiedRows prevRow rest deltaRow
    | .ok (some delta) => u.compareModifiedRows prevRow rest (deltaRow.insert column delta)

/-! ### Row updates -/

/-- `updater.prepareCreateRowUpdate`: `Insert` (v2/v3) or `New` (v1) with the projected row,
nothing when the projection is empty. -/
def Updater.prepareCreateRowUpdate (u : Updater) (event : Event) : Option RowResult :=
  if !msIsTrue u.select.insert then some (.ok (none, ""))
  else event.kv.map fun kv =>
    match u.prepareRow kv.value with
    | .error err => .error err
    | .ok (data, uuid) =>
      if 0 < data.entries.length then
        if !u.isV1 then .ok (some { insert := some data }, uuid)
        else .ok (some { new := some data }, uuid)
      else .ok (none, "")

/-- `updater.prepareDeleteRowUpdate`: `Delete` (v2/v3) once the previous row decodes, or
`Old` (v1) with the projected previous row when it is not empty. -/
def Updater.prepareDeleteRowUpdate (u : Updater) (event : Event) : Option RowResult :=
  if !msIsTrue u.select.delete then some (.ok (none, ""))
  else event.prevKv.map fun prevKv =>
    if !u.isV1 then
      match u.prepareRow prevKv.value with
      | .error err => .error err
      | .ok (_, uuid) => .ok (some { delete := true }, uuid)
    else
      match u.prepareRow prevKv.value with
      | .error err => .error err
      | .ok (data, uuid) =>
        if 0 < data.entries.length then .ok (some { old := some data }, uuid)
        else .ok (none, uuid)

/-- `updater.prepareModifyRowUpdate`: the projected new and previous rows must carry the same
uuid; the delta is `Modify` (v2/v3), or `Old` beside the new row in `New` (v1), and nothing is
sent when it is empty.  The error of `compareModifiedRows` is dropped, as in Go. -/
def Updater.prepareModifyRowUpdate (u : Updater) (event : Event) : Option RowResult :=
  if !msIsTrue u.select.modify then some (.ok (none, ""))
  else match event.kv with
  | none => none
  | some kv =>
    match u.prepareRow kv.value with
    | .error err => some (.error err)
    | .ok (modifiedRow, uuid) => event.prevKv.map fun prevKv =>
      match u.prepareRow prevKv.value with
      | .error err => .error err
      | .ok (prevRow, prevUUID) =>
        if uuid ≠ prevUUID then
          .error ("UUID was changed prev uuid=" ++ prevUUID.quote ++ ", new uuid=" ++ uuid.quote)
        else
          let deltaRow := (u.compareModifiedRows prevRow modifiedRow.entries ∅).1
          if 0 < deltaRow.entries.length then
            if !u.isV1 then .ok (some { modify := some deltaRow }, uuid)
            else .ok (some { new := some modifiedRow, old := some deltaRow }, uuid)
          else .ok (none, "")

/-- `updater.prepareRowUpdate`: dispatch on the event kind. -/
def Updater.prepareRowUpdate (u : Updater) (event : Event) : Option RowResult := do
  if !(← event.isModify) then
    if (← event.isCreate) then u.prepareCreateRowUpdate event
    else u.prepareDeleteRowUpdate event
  else u.prepareModifyRowUpdate event

/-- `updater.prepareCreateRowInitial`: a stored row of the initial snapshot as `Initial`
(v2/v3) or `New` (v1). -/
def Updater.prepareCreateRowInitial (u : Updater) (value : Payload) : RowResult :=
  if !msIsTrue u.select.initial then .ok (none, "")
  else match u.prepareRow value with
    | .error err => .error err
    | .ok (data, uuid) =>
      if 0 < data.entries.length then
        if !u.isV1 then .ok (some { initial := some data }, uuid)
        else .ok (some { new := some data }, uuid)
      else .ok (none, uuid)

end OvsdbMonitor
