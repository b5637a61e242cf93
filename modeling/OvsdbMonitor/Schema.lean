import OvsdbMonitor.Etcd

/-!
# Table schemas and the typed decoding of OVSDB values

The diff engine looks a column up in the table schema and, for set and map columns, decodes
the stored JSON into a `libovsdb.OvsSet` or `libovsdb.OvsMap`.  Neither the schema lookup nor
the decoders are part of the monitor sources; they are modelled from the spec (an unknown column
fails the lookup; typed unmarshalling fails on a value of the wrong shape) and from the OVSDB
JSON notation: a set is `["set", [a, ...]]` or a single atom, a map is
`["map", [[k, v], ...]]`, and a uuid atom is `["uuid", s]`.
-/

namespace OvsdbMonitor

/-- The atomic OVSDB types. -/
inductive AtomicType where
  | integer
  | real
  | boolean
  | string
  | uuid
  deriving DecidableEq, Repr

/-- A column's type as the diff engine dispatches on it (`TypeSet`, `TypeMap`, or an atomic
type), with the element types the decoders need. -/
inductive ColumnType where
  | atomic (t : AtomicType)
  | set (key : AtomicType)
  | map (key value : AtomicType)
  deriving DecidableEq, Repr

/-- `libovsdb.ColumnSchema`. -/
structure ColumnSchema where
  type : ColumnType
  deriving DecidableEq, Repr

/-- `libovsdb.TableSchema`: its columns. -/
structure TableSchema where
  columns : List (String × ColumnSchema)
  deriving DecidableEq, Repr

/-- Modelled from the spec: `TableSchema.LookupColumn`, a `SchemaLookupError` for a column the
schema does not have. -/
def TableSchema.lookupColumn (ts : TableSchema) (column : String) : Except String ColumnSchema :=
  match ts.columns.lookup column with
  | some columnSchema => .ok columnSchema
  | none => .error ("column " ++ column ++ " not found")

/-- The type of a column's set elements or map keys. -/
def ColumnType.keyType : ColumnType → AtomicType
  | .atomic t | .set t | .map t _ => t

/-- The type of a map column's values. -/
def ColumnType.valueType : ColumnType → AtomicType
  | .atomic t | .set t | .map _ t => t

/-- Modelled from the spec: one atom of type `t` in OVSDB's JSON notation. -/
def decodeAtom : AtomicType → Json → Except String Atom
  | .integer, .number n | .real, .number n => .ok (.number n)
  | .boolean, .bool b => .ok (.boolean b)
  | .string, .string s => .ok (.string s)
  | .uuid, .array [.string "uuid", .string s] => .ok (.uuid s)
  | _, j => .error ("wrong atom " ++ fmtV j)

/-- Modelled from the spec: `ColumnSchema.UnmarshalSet`. -/
def ColumnSchema.unmarshalSet (cs : ColumnSchema) : Value → Except String OvsSet
  | .json (.array [.string "set", .array elems]) => elems.mapM (decodeAtom cs.type.keyType)
  | .json j => (decodeAtom cs.type.keyType j).map fun a => [a]
  | _ => .error "not an OVSDB set"

/-- One `[k, v]` pair of an OVSDB map, added to the map decoded so far. -/
def ColumnSchema.addMapPair (cs : ColumnSchema) (m : OvsMap) : Json → Except String OvsMap
  | .array [k, v] => do
    let key ← decodeAtom cs.type.keyType k
    let value ← decodeAtom cs.type.valueType v
    pure (m.insert key value)
  | j => .error ("wrong map pair " ++ fmtV j)

/-- Modelled from the spec: `ColumnSchema.UnmarshalMap`. -/
def ColumnSchema.unmarshalMap (cs : ColumnSchema) : Value → Except String OvsMap
  | .json (.array [.string "map", .array pairs]) => pairs.foldlM cs.addMapPair ∅
  | _ => .error "not an OVSDB map"

end OvsdbMonitor
