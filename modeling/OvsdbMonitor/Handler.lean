import OvsdbMonitor.DbMonitor

/-!
# The session handler: monitor RPCs

`Handler.monitor` validates a `monitor*` request, builds one updater per monitor-cond-request,
records the monitor under the key `jsonValueToString(jsonValue)` and registers the updaters
with the database; `getMonitoredData` then reads a snapshot of every monitored table and builds
the initial reply.  `MonitorCancel` removes the monitor whose key it derives from its params,
and `Cleanup`, on disconnect, removes the updaters of every monitor.  `notify` turns a batch of
table updates for a json-value into the notification its monitor's protocol version sends.

A session is a sequence of `SessionOp`s: the monitor RPCs, `MonitorCancel`, the cancelled watch
of a database (`dbMonitor.start` calling `cancelDbMonitor`) and `Cleanup`; `runSession` applies
them in order.

The database collaborator (`Databaser`: schemas, snapshot reads, the per-database monitors) is
not among the handler sources and is modelled from the spec.
-/

namespace OvsdbMonitor

/-- `ovsjson.UpdateNotificationType`. -/
inductive UpdateNotificationType where
  | update
  | update2
  | update3
  deriving DecidableEq, Repr

/-- `ovsjson.CondMonitorParameters`: the params of `monitor`, `monitor_cond` and
`monitor_cond_since`. -/
structure CondMonitorParameters where
  databaseName : String
  jsonValue : Json
  monitorCondRequests : GoMap String (List MonitorCondRequest)

/-- `handlerMonitorData`: the fields the handler writes. -/
structure HandlerMonitorData where
  notificationType : UpdateNotificationType
  updatersKeys : List Key
  dataBaseName : String
  jsonValue : Json

/-- `ovsjson.ZERO_UUID`. -/
def ZERO_UUID : String := "00000000-0000-0000-0000-000000000000"

/-- The `params` of a `ClientConnection.Notify` call: a JSON value, table updates, or a
`[]interface{}` of them. -/
inductive NotifyParams where
  | json (v : Json)
  | updates (u : TableUpdates)
  | array (items : List NotifyParams)

/-- A call `ClientConnection.Notify(ctx, method, params)`. -/
structure Notification where
  method : String
  params : NotifyParams

/-- The notification for `updates` of monitor `hm`, built by the same switch in `Handler.notify`
and in `handlerMonitorData.notifier`: the method of its notification type with params
`[jsonValue, updates]`, and `ZERO_UUID` between the two for `update3`. -/
def HandlerMonitorData.notification (hm : HandlerMonitorData) (updates : TableUpdates) :
    Notification :=
  match hm.notificationType with
  | .update => ⟨"update", .array [.json hm.jsonValue, .updates updates]⟩
  | .update2 => ⟨"update2", .array [.json hm.jsonValue, .updates updates]⟩
  | .update3 =>
    ⟨"update3", .array [.json hm.jsonValue, .json (.string ZERO_UUID), .updates updates]⟩

/-- `Handler.monitorCanceledNotification`: `params` is the value passed, not an array. -/
def monitorCanceledNotification (jsonValue : Json) : Notification :=
  ⟨"monitor_canceled", .json jsonValue⟩

/-- Modelled from the spec: the handler's `Databaser`, with the process-wide key prefix, the
schema loader, the snapshot read `GetData` and the database monitors kept per database. -/
structure Databaser where
  pfx : List String
  tableSchema : String → String → TableSchema
  getData : Key → Except String (List KeyValue)
  dbMonitors : GoMap String DbMonitor

namespace Databaser

/-- Modelled from the spec: `AddMonitors` registers the updaters with the database's monitor. -/
def addMonitors (db : Databaser) (dbName : String) (updaters : Key2Updaters) : Databaser :=
  let m := (db.dbMonitors.lookup dbName).getD (newMonitor dbName)
  { db with dbMonitors := db.dbMonitors.insert dbName (m.addUpdaters updaters) }

/-- Modelled from the spec: `RemoveMonitors` removes a json-value's updaters from the given
table keys of the database's monitor. -/
def removeMonitors (db : Databaser) (dbName : String) (keys : List Key) (jsonValueStr : String) :
    Databaser :=
  match db.dbMonitors.lookup dbName with
  | none => db
  | some m =>
    { db with dbMonitors := db.dbMonitors.insert dbName (m.removeUpdaters keys jsonValueStr) }

/-- The canceled branch of the watch loop of `dbName`'s monitor (`dbMonitor.start`):
`cancelDbMonitor` empties the monitor and sends `monitor_canceled` to each json-value it
collected, passing the key string as `params`. -/
def watchCanceled (db : Databaser) (dbName : String) : Databaser × List Notification :=
  match db.dbMonitors.lookup dbName with
  | none => (db, [])
  | some m =>
    ({ db with dbMonitors := db.dbMonitors.insert dbName m.cancelDbMonitor.1 },
      m.cancelDbMonitor.2.map fun jsonValue => monitorCanceledNotification (.string jsonValue))

end Databaser

/-- `Handler`: its database collaborator and its monitors by json-value key. -/
structure Handler where
  db : Databaser
  monitors : GoMap String HandlerMonitorData

/-- `NewHandler`: no monitor yet. -/
def newHandler (db : Databaser) : Handler := ⟨db, ∅⟩

/-- `jsonValueToString`: `fmt.Sprintf("%v", jsonValue)`. -/
def jsonValueToString (jsonValue : Json) : String := fmtV jsonValue

namespace Handler

/-- The updaters `monitor` builds: one per monitor-cond-request of each table, under the table's
key. -/
def buildUpdaters (ch : Handler) (param : CondMonitorParameters) (jsonValueStr : String)
    (isV1 : Bool) : Key2Updaters :=
  param.monitorCondRequests.foldl (fun updatersMap tableName mcrs =>
    updatersMap.insert (newTableKey ch.db.pfx param.databaseName tableName)
      (mcrs.map fun mcr =>
        mcrToUpdater mcr jsonValueStr (ch.db.tableSchema param.databaseName tableName) isV1)) ∅

/-- `Handler.monitor`: validate, record the monitor and register its updaters. -/
def monitor (ch : Handler) (param : CondMonitorParameters)
    (notificationType : UpdateNotificationType) : Except String Key2Updaters × Handler :=
  if param.databaseName.length = 0 then (.error "DataBase name is not specified", ch)
  else
    let jsonValueStr := jsonValueToString param.jsonValue
    if jsonValueStr ∈ ch.monitors then (.error "duplicate json-value", ch)
    else
      let updatersMap := ch.buildUpdaters param jsonValueStr (notificationType = .update)
      let data : HandlerMonitorData :=
        { dataBaseName := param.databaseName, notificationType,
          updatersKeys := updatersMap.keys, jsonValue := param.jsonValue }
      (.ok updatersMap,
        { db := ch.db.addMonitors param.databaseName updatersMap,
          monitors := ch.monitors.insert jsonValueStr data })

/-- The initial rows of one table: every stored row through every updater, a later updater's
row update replacing an earlier one for the same uuid. -/
def initialRows (updaters : List Updater) (kvs : List KeyValue) : Except String TableUpdate :=
  kvs.foldlM (fun d1 kv => updaters.foldlM (fun d1 updater => do
    let (row, uuid) ← updater.prepareCreateRowInitial kv.value
    pure (match row with
      | some row => d1.insert uuid row
      | none => d1)) d1) ∅

/-- `Handler.getMonitoredData`; its `isV1` parameter is not read. -/
def getMonitoredData (ch : Handler) (updatersMap : Key2Updaters) (_isV1 : Bool) :
    Except String TableUpdates :=
  updatersMap.entries.foldlM (fun returnData entry =>
    if entry.2.length = 0 then pure returnData
    else do
      let kvs ← ch.db.getData entry.1
      let d1 ← initialRows entry.2 kvs
      pure (returnData.insert entry.1.tableName d1)) ∅

/-- The common body of `Monitor` and `MonitorCond`. -/
def monitorRpc (ch : Handler) (param : CondMonitorParameters)
    (notificationType : UpdateNotificationType) (isV1 : Bool) :
    Except String TableUpdates × Handler :=
  match ch.monitor param notificationType with
  | (.error err, ch) => (.error err, ch)
  | (.ok updatersMap, ch) => (ch.getMonitoredData updatersMap isV1, ch)

/-- `Handler.Monitor`. -/
def Monitor (ch : Handler) (param : CondMonitorParameters) :
    Except String TableUpdates × Handler :=
  ch.monitorRpc param .update true

/-- `Handler.MonitorCond`. -/
def MonitorCond (ch : Handler) (param : CondMonitorParameters) :
    Except String TableUpdates × Handler :=
  ch.monitorRpc param .update2 false

/-- `Handler.MonitorCondSince`: the reply `[false, ZERO_UUID, data]`. -/
def MonitorCondSince (ch : Handler) (param : CondMonitorParameters) :
    Except String (Bool × String × TableUpdates) × Handler :=
  match ch.monitorRpc param .update3 false with
  | (.error err, ch) => (.error err, ch)
  | (.ok data, ch) => (.ok (false, ZERO_UUID, data), ch)

/-- `Handler.MonitorCancel`. -/
def MonitorCancel (ch : Handler) (param : Json) : Except String String × Handler :=
  let jsonValue := jsonValueToString param
  match ch.monitors.lookup jsonValue with
  | none => (.error "unknown monitor", ch)
  | some monitorHandler =>
    (.ok "\x7b\x7d",
      { db := ch.db.removeMonitors monitorHandler.dataBaseName monitorHandler.updatersKeys
          jsonValue,
        monitors := ch.monitors.erase jsonValue })

/-- `Handler.Cleanup`: remove the updaters of every monitor from its database; the monitors stay
recorded.  Unlocking the database locks is not modelled. -/
def Cleanup (ch : Handler) : Handler :=
  { ch with
    db := ch.monitors.foldl (fun db jsonValueStr monitorHandler =>
      db.removeMonitors monitorHandler.dataBaseName monitorHandler.updatersKeys jsonValueStr)
      ch.db }

/-- `Handler.notify`: the notification for `updates` of the monitor under `jsonValueStr`, none
when there is no such monitor ("Unknown jsonValue"). -/
def notify (ch : Handler) (jsonValueStr : String) (updates : TableUpdates) :
    Option Notification :=
  match ch.monitors.lookup jsonValueStr with
  | none => none
  | some handler => some (handler.notification updates)

end Handler

/-! ### Sessions -/

/-- A step of a handler's session. -/
inductive SessionOp where
  | monitor (param : CondMonitorParameters)
  | monitorCond (param : CondMonitorParameters)
  | monitorCondSince (param : CondMonitorParameters)
  | monitorCancel (param : Json)
  /-- the watch channel of a database's monitor reports `Canceled` -/
  | watchCanceled (dbName : String)
  /-- the connection closes -/
  | cleanup

namespace Handler

/-- The handler after one step; replies and notifications are not kept. -/
def handle (ch : Handler) : SessionOp → Handler
  | .monitor param => (ch.Monitor param).2
  | .monitorCond param => (ch.MonitorCond param).2
  | .monitorCondSince param => (ch.MonitorCondSince param).2
  | .monitorCancel param => (ch.MonitorCancel param).2
  | .watchCanceled dbName => { ch with db := (ch.db.watchCanceled dbName).1 }
  | .cleanup => ch.Cleanup

/-- The handler after the steps of a session, in order. -/
def runSession (ch : Handler) (ops : List SessionOp) : Handler := ops.foldl handle ch

end Handler

end OvsdbMonitor
