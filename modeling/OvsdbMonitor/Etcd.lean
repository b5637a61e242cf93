import OvsdbMonitor.Json

/-!
# Watch events and row keys

What the monitor reads from the backing store: `clientv3.Event` with its current and previous
`mvccpb.KeyValue`, and the row key `<prefix>/<database>/<table>/<uuid>` as `common.Key`.
A key is kept as its `/`-separated segments.  Dereferencing a nil `Kv` or `PrevKv` panics in
Go; the model reads both as `Option` and a dereference of `none` is a panic.
-/

namespace OvsdbMonitor

/-- `mvccpb.Event_EventType`. -/
inductive EventType where
  | put
  | delete
  deriving DecidableEq, Repr

/-- `mvccpb.KeyValue`: the fields the monitor reads. -/
structure KeyValue where
  key : List String
  createRevision : Int
  modRevision : Int
  value : Payload
  deriving DecidableEq

/-- `clientv3.Event`. -/
structure Event where
  type : EventType
  kv : Option KeyValue
  prevKv : Option KeyValue
  deriving DecidableEq

namespace Event

/-- `Event.IsCreate`: a put whose key was created at this revision; `none` is the panic of a
put with a nil `Kv`. -/
def isCreate (e : Event) : Option Bool :=
  if e.type = .put then e.kv.map fun kv => kv.createRevision == kv.modRevision else some false

/-- `Event.IsModify`: a put of a key created earlier. -/
def isModify (e : Event) : Option Bool :=
  if e.type = .put then e.kv.map fun kv => kv.createRevision != kv.modRevision else some false

/-- The backing-store contract on one event: a delete carries its `PrevKv`; a put with a `Kv`
carries a `PrevKv` exactly when it modifies a key created earlier.  `Kv` itself may be absent. -/
def MeetsContract (e : Event) : Prop :=
  (e.type = .delete → e.prevKv.isSome) ∧
    ∀ kv, e.kv = some kv → e.type = .put →
      (kv.createRevision = kv.modRevision ↔ e.prevKv = none)

end Event

/-- `common.Key`: a row key, or a table key when `uuid` is empty. -/
structure Key where
  /-- the segments of the process-wide key prefix -/
  pfx : List String
  dbName : String
  tableName : String
  uuid : String
  deriving DecidableEq, Repr

/-- `Key.ToTableKey`: the key of the row's table. -/
def Key.toTableKey (k : Key) : Key := { k with uuid := "" }

@[simp] theorem Key.tableName_toTableKey (k : Key) : k.toTableKey.tableName = k.tableName := rfl

/-- Modelled from the spec: `common.NewTableKey`, the table key `<prefix>/<database>/<table>`
under the process-wide prefix. -/
def newTableKey (pfx : List String) (dbName tableName : String) : Key :=
  { pfx, dbName, tableName, uuid := "" }

/-- Modelled from the spec: `common.ParseKey`, which reads `<prefix>/<database>/<table>/<uuid>`
with a non-empty prefix and rejects anything shorter. -/
def parseKey (segments : List String) : Except String Key :=
  match segments.reverse with
  | uuid :: tableName :: dbName :: p :: ps =>
    .ok { pfx := (p :: ps).reverse, dbName, tableName, uuid }
  | _ => .error "wrong key format"

end OvsdbMonitor
