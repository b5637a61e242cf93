import OvsdbMonitor.Updater

/-!
# The database monitor: registry, revision checker and batch preparation

A `dbMonitor` keeps, per table key, the updaters registered on that table (`Key2Updaters`),
the highest revision it has accepted (`revisionChecker`), and turns a batch of watch events
into the updates of each monitor json-value (`prepareTableUpdate`).

`prepareTableUpdate` returns `none` when it panics: on a collision of two row updates for the
same `(json-value, table, uuid)` it logs every event of the batch, reading each event's `Kv`
and `PrevKv` (`logEvents`).
-/

namespace OvsdbMonitor

/-- `Key2Updaters`: table key to the updaters registered on that table. -/
abbrev Key2Updaters := GoMap Key (List Updater)

/-- `Key2Updaters.removeUpdaters`: drop the updaters of one json-value from one slot, deleting
the slot when it becomes empty. -/
def Key2Updaters.removeUpdaters (k : Key2Updaters) (key : Key) (jsonValue : String) :
    Key2Updaters :=
  match k.lookup key with
  | none => k
  | some updaters =>
    let newUpdaters := updaters.filter fun u => u.jasonValueStr != jsonValue
    if newUpdaters.length ≠ 0 then k.insert key newUpdaters else k.erase key

/-- `revisionChecker`. -/
structure RevisionChecker where
  revision : Int
  deriving DecidableEq, Repr

/-- `revisionChecker.isNewRevision`: accept a revision above the stored one and store it. -/
def RevisionChecker.isNewRevision (rc : RevisionChecker) (newRevision : Int) :
    Bool × RevisionChecker :=
  if newRevision > rc.revision then (true, ⟨newRevision⟩) else (false, rc)

/-- `dbMonitor`: the state its methods read and write. -/
structure DbMonitor where
  dataBaseName : String
  key2Updaters : Key2Updaters
  revChecker : RevisionChecker

/-- `newMonitor`. -/
def newMonitor (dbName : String) : DbMonitor :=
  { dataBaseName := dbName, key2Updaters := ∅, revChecker := ⟨0⟩ }

namespace DbMonitor

/-- Append one updater to the slot of `key` (`m.key2Updaters[key] = append(..., uNew)`). -/
def appendUpdater (k2u : Key2Updaters) (key : Key) (uNew : Updater) : Key2Updaters :=
  k2u.insert key (((k2u.lookup key).getD []) ++ [uNew])

/-- The body of `addUpdaters`' loop for one key: create the slot when it is missing, then
append every new updater.  The inner loop meant to skip a deep-equal updater only `continue`s
itself, so nothing is skipped. -/
def addSlot (k2u : Key2Updaters) (key : Key) (updaters : List Updater) : Key2Updaters :=
  let k2u := if key ∈ k2u then k2u else k2u.insert key []
  updaters.foldl (fun k2u uNew => appendUpdater k2u key uNew) k2u

/-- `dbMonitor.addUpdaters`. -/
def addUpdaters (m : DbMonitor) (keyToUpdaters : Key2Updaters) : DbMonitor :=
  { m with key2Updaters := keyToUpdaters.foldl addSlot m.key2Updaters }

/-- `dbMonitor.removeUpdaters`. -/
def removeUpdaters (m : DbMonitor) (keys : List Key) (jsonValue : String) : DbMonitor :=
  { m with
    key2Updaters := keys.foldl (fun k2u key => k2u.removeUpdaters key jsonValue) m.key2Updaters }

/-- `dbMonitor.hasUpdaters`. -/
def hasUpdaters (m : DbMonitor) : Bool := 0 < m.key2Updaters.entries.length

/-- `dbMonitor.cancelDbMonitor`: the emptied monitor and the json-values it sends
`monitor_canceled` to, each once. -/
def cancelDbMonitor (m : DbMonitor) : DbMonitor × List String :=
  let jasonValues := m.key2Updaters.foldl (fun jv _ updaters =>
    updaters.foldl (fun jv updater => jv.insert updater.jasonValueStr updater.jasonValueStr) jv)
    (∅ : GoMap String String)
  ({ m with key2Updaters := ∅ }, jasonValues.keys)

/-- A registry operation of a run: `addUpdaters`, `removeUpdaters` or `cancelDbMonitor`. -/
inductive RegistryOp where
  | add (keyToUpdaters : Key2Updaters)
  | remove (keys : List Key) (jsonValue : String)
  | cancel

/-- The monitor after one registry operation. -/
def applyOp (m : DbMonitor) : RegistryOp → DbMonitor
  | .add keyToUpdaters => m.addUpdaters keyToUpdaters
  | .remove keys jsonValue => m.removeUpdaters keys jsonValue
  | .cancel => m.cancelDbMonitor.1

/-- The monitor after a run of registry operations. -/
def runOps (m : DbMonitor) (ops : List RegistryOp) : DbMonitor := ops.foldl applyOp m

end DbMonitor

/-! ### Preparing a batch -/

/-- `ovsjson.TableUpdate`: row updates by uuid. -/
abbrev TableUpdate := GoMap String RowUpdate

/-- `ovsjson.TableUpdates`: table updates by table name. -/
abbrev TableUpdates := GoMap String TableUpdate

/-- What `prepareTableUpdate` returns: table updates by monitor json-value. -/
abbrev BatchUpdates := GoMap String TableUpdates

/-- `result[jsonValue][tableName][uuid] = rowUpdate`, creating the inner maps when missing. -/
def putRowUpdate (result : BatchUpdates) (jsonValue tableName uuid : String)
    (rowUpdate : RowUpdate) : BatchUpdates :=
  let tableUpdates := (result.lookup jsonValue).getD ∅
  let tableUpdate := (tableUpdates.lookup tableName).getD ∅
  result.insert jsonValue (tableUpdates.insert tableName (tableUpdate.insert uuid rowUpdate))

/-- `result[jsonValue][tableName][uuid]`. -/
def lookupRowUpdate (result : BatchUpdates) (jsonValue tableName uuid : String) :
    Option RowUpdate :=
  (result.lookup jsonValue).bind fun tus => (tus.lookup tableName).bind fun tu => tu.lookup uuid

/-- The "duplicate event" log of `prepareTableUpdate`: for every event of the batch it formats
`Kv.Key`, `Kv.Value`, `PrevKv.Key` and `PrevKv.Value`. -/
def logEvents (events : List Event) : Option Unit :=
  events.forM fun eLog => do
    let _ ← eLog.kv
    let _ ← eLog.prevKv

/-- The body of `prepareTableUpdate`'s inner loop for one updater of the event's table. -/
def updaterStep (events : List Event) (ev : Event) (key : Key) (result : BatchUpdates)
    (updater : Updater) : Option BatchUpdates :=
  match updater.prepareRowUpdate ev with
  | none => none
  | some (.error _) => some result
  | some (.ok (none, _)) => some result
  | some (.ok (some rowUpdate, uuid)) => do
    if (lookupRowUpdate result updater.jasonValueStr key.tableName uuid).isSome then
      logEvents events
    return putRowUpdate result updater.jasonValueStr key.tableName uuid rowUpdate

/-- The body of `prepareTableUpdate`'s outer loop for one event. -/
def eventStep (k2u : Key2Updaters) (events : List Event) (result : BatchUpdates)
    (ev : Event) : Option BatchUpdates :=
  match ev.kv with
  | none => some result
  | some kv =>
    match parseKey kv.key with
    | .error _ => some result
    | .ok key =>
      match k2u.lookup key.toTableKey with
      | none => some result
      | some updaters => updaters.foldlM (updaterStep events ev key) result

/-- `dbMonitor.prepareTableUpdate`; its error result is always nil. -/
def DbMonitor.prepareTableUpdate (m : DbMonitor) (events : List Event) : Option BatchUpdates :=
  events.foldlM (eventStep m.key2Updaters events) ∅

end OvsdbMonitor
