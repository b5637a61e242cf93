import OvsdbMonitor.DbMonitor
import OvsdbMonitor.Laws.RowUpdate

/-!
# What a client of a monitor holds, and what one event does to it

The client is the abstract level of the notifications, stated from OVSDB's semantics and not
translated from src: a column is read by its type (`ColumnSchema.read`: a scalar as it is, a set
by its elements, a map by the value at each key), a row by its columns (`TableSchema.readRow`),
and a table update is applied row by row (`applyTableUpdate`).  An `update2` row update
(`applyRowUpdate2`) replaces the row on `Initial` and `Insert`, drops it on `Delete`, and on
`Modify` replaces each scalar column of its delta, toggles each element of a set delta and
applies each pair of a map delta (`applyModify2`).  An `update` row update (`applyRowUpdate1`)
replaces the row by its `New` and drops it on an `Old` alone.  `Updater.view` is what a client
of an updater should hold for the stored rows of a table, and `Store.apply` is what an event
does to them.

* `applyModify2_update2`: a delta that yields the new row from the old one under update2
  semantics moves the client's reading of the old row to the reading of the new one.
* `storedEvent_cases`: the three events of a stored row, as `prepareRowUpdate` reads them.
* `prepareRowUpdate_view`: for a v2 updater selecting every change, the row update of one event
  of the store, applied by the client, moves its row as the event moves the stored row.
* `prepareRowUpdate_view1`: for a v1 updater, the row update of one event moves any row the
  client holds to the stored row after the event, and an event it yields none for leaves the
  view of the row as it was.
-/

namespace OvsdbMonitor

/-! ### The client's reading -/

/-- A column value as a client reads it: a scalar as it is, a set by its elements, a map by the
value at each key. -/
inductive Reading where
  | scalar (v : Value)
  | set (mem : Atom → Bool)
  | map (get : Atom → Option Atom)

/-- A value read under its column's type; `none` when a set or map does not decode. -/
def ColumnSchema.read (cs : ColumnSchema) (v : Value) : Option Reading :=
  match cs.type with
  | .atomic _ => some (.scalar v)
  | .set _ => (cs.unmarshalSet v).toOption.map fun S => .set fun a => decide (a ∈ S)
  | .map _ _ => (cs.unmarshalMap v).toOption.map fun M => .map M.lookup

/-- A row as a client reads it: each column, under its type in the schema. -/
abbrev RowReading := String → Option Reading

/-- The client's reading of a row. -/
def TableSchema.readRow (schema : TableSchema) (r : Row) : RowReading := fun c =>
  (r.lookup c).bind fun v => (schema.lookupColumn c).toOption.bind fun cs => cs.read v

/-- One element of a set toggled. -/
def toggle (mem : Atom → Bool) (x a : Atom) : Bool := if a = x then !mem a else mem a

/-- Update2 semantics of one column's delta on what the client holds: a scalar is replaced, each
element of a set delta is toggled, and a map delta pair deletes its key where the client holds
that value and sets it otherwise. -/
def Reading.apply2 : Reading → Value → Option Reading
  | .scalar _, d => some (.scalar d)
  | .set mem, .set D => some (.set (D.foldl toggle mem))
  | .map get, .map D => some (.map fun k =>
      match D.lookup k with
      | none => get k
      | some v => if get k = some v then none else some v)
  | _, _ => none

/-- Update2 semantics of a `Modify` delta on a row the client holds. -/
def applyModify2 (ρ : RowReading) (D : Row) : RowReading := fun c =>
  match D.lookup c with
  | none => ρ c
  | some d => (ρ c).bind (·.apply2 d)

/-- A v2/v3 row update applied to the row the client holds, if any: `Initial` and `Insert`
replace it, `Delete` drops it, `Modify` applies its delta. -/
def applyRowUpdate2 (schema : TableSchema) (row : Option RowReading) (ru : RowUpdate) :
    Option RowReading :=
  match ru.initial, ru.insert, ru.delete, ru.modify with
  | some r, _, _, _ => some (schema.readRow r)
  | none, some r, _, _ => some (schema.readRow r)
  | none, none, true, _ => none
  | none, none, false, some D => row.map (applyModify2 · D)
  | none, none, false, none => row

/-- A v1 row update applied to the row the client holds, if any: `New` replaces it with the whole
new row, and an `Old` alone drops it. -/
def applyRowUpdate1 (schema : TableSchema) (row : Option RowReading) (ru : RowUpdate) :
    Option RowReading :=
  match ru.new, ru.old with
  | some r, _ => some (schema.readRow r)
  | none, some _ => none
  | none, none => row

/-- The client's semantics of the row updates an updater's notifications carry: `update` for a
v1 updater, `update2` otherwise. -/
def Updater.applyRowUpdate (u : Updater) : Option RowReading → RowUpdate → Option RowReading :=
  if u.isV1 then applyRowUpdate1 u.tableSchema else applyRowUpdate2 u.tableSchema

/-- The rows of one table a client holds, by uuid. -/
abbrev Replica := String → Option RowReading

/-- A table update applied by the client, each row update to its row by `apply`. -/
def applyTableUpdate (apply : Option RowReading → RowUpdate → Option RowReading)
    (tu : TableUpdate) (R : Replica) : Replica := fun uuid =>
  match tu.lookup uuid with
  | none => R uuid
  | some ru => apply (R uuid) ru

/-! ### Update2 deltas move the reading -/

theorem foldl_toggle_toggleAll :
    ∀ (D S : OvsSet) (mem : Atom → Bool), S.Nodup → (∀ a, mem a = decide (a ∈ S)) →
      ∀ a, D.foldl toggle mem a = decide (a ∈ toggleAll S D)
  | [], _, _, _, hmem, a => hmem a
  | x :: D, S, mem, hS, hmem, a => by
    have hstep := toggleAll_spec [x] S hS (List.nodup_singleton x)
    refine foldl_toggle_toggleAll D _ _ hstep.1 (fun b => ?_) a
    rw [toggle, hmem, Bool.eq_iff_iff, decide_eq_true_iff, hstep.2, List.mem_singleton]
    by_cases hb : b = x <;> simp [hb]

theorem readRow_of_lookup {schema : TableSchema} {r : Row} {c : String} {v : Value}
    {cs : ColumnSchema} (hv : r.lookup c = some v) (hcs : schema.lookupColumn c = .ok cs) :
    schema.readRow r c = cs.read v := by
  simp [TableSchema.readRow, hv, hcs, Except.toOption]

/-- **One column of an update2 delta.**  When the old value decodes, the delta's reading of the
old value is the reading of the new one. -/
theorem read_apply2 {cs : ColumnSchema} {pre post d : Value} (hpre : cs.decodes pre = true)
    (hy : ColumnUpdate2Yields cs pre (some d) post) :
    (cs.read pre).bind (·.apply2 d) = cs.read post := by
  obtain ⟨t⟩ := cs
  cases t with
  | atomic a => cases hy; rfl
  | set k =>
    obtain ⟨S, S', D, hS, hS', rfl, hmem⟩ := hy
    obtain ⟨S₀, hS₀, hnd⟩ := ColumnSchema.decodes_set hpre
    rw [hS] at hS₀
    cases hS₀
    simp only [ColumnSchema.read, hS, hS', Except.toOption, Option.map_some', Option.some_bind,
      Reading.apply2, Option.some.injEq, Reading.set.injEq]
    funext a
    rw [foldl_toggle_toggleAll D S _ hnd (fun _ => rfl), Bool.eq_iff_iff, decide_eq_true_iff,
      decide_eq_true_iff, hmem]
  | map k w =>
    obtain ⟨M, M', D, hM, hM', rfl, hlk⟩ := hy
    simp only [ColumnSchema.read, hM, hM', Except.toOption, Option.map_some', Option.some_bind,
      Reading.apply2, Option.some.injEq, Reading.map.injEq]
    funext x
    exact (lookup_applyMapDelta M D x).symm.trans (hlk x)

/-- **A `Modify` delta moves the client's row.**  When the delta yields the new row from the old
one under update2 semantics, the two rows have the same columns and every column of the new row
decodes in both, the delta applied to the reading of the old row is the reading of the new. -/
theorem applyModify2_update2 {schema : TableSchema} {pre D post : Row}
    (hy : Update2Yields schema pre D post) (hcols : ∀ c, c ∈ post ↔ c ∈ pre)
    (hdec : ∀ c ∈ post.keys, schema.decodesColumn c (post.get c) = true ∧
      schema.decodesColumn c (pre.get c) = true) :
    applyModify2 (schema.readRow pre) D = schema.readRow post := by
  funext c
  cases hp : post.lookup c with
  | none =>
    have hc : c ∉ post := fun hc => by rw [← AList.lookup_isSome, hp] at hc; cases hc
    have hD : D.lookup c = none := AList.lookup_eq_none.mpr fun h => hc (hy.delta_columns c h)
    have hpre : pre.lookup c = none := AList.lookup_eq_none.mpr fun h => hc ((hcols c).mpr h)
    simp [applyModify2, hD, TableSchema.readRow, hpre, hp]
  | some v =>
    obtain ⟨cs, hcs, hyc⟩ := hy.column c v hp
    have hc : c ∈ pre := (hcols c).mp (AList.lookup_isSome.mp (by rw [hp]; rfl))
    obtain ⟨w, hw⟩ := Option.isSome_iff_exists.mp (AList.lookup_isSome.mpr hc)
    rw [← Row.get_of_lookup hw] at hw
    rw [readRow_of_lookup hp hcs]
    unfold applyModify2
    rw [readRow_of_lookup hw hcs]
    cases hd : D.lookup c with
    | none => rw [hd] at hyc; exact congrArg cs.read hyc
    | some d =>
      rw [hd] at hyc
      have hmem : c ∈ post.keys := AList.mem_keys.mpr (AList.lookup_isSome.mp (by rw [hp]; rfl))
      have hpre := (hdec c hmem).2
      simp only [TableSchema.decodesColumn, hcs] at hpre
      exact read_apply2 hpre hyc

theorem Update2Yields.lookup_eq_of_empty {schema : TableSchema} {pre D post : Row}
    (hy : Update2Yields schema pre D post) (hD : D.entries = []) (hcols : ∀ c, c ∈ post ↔ c ∈ pre)
    (c : String) : pre.lookup c = post.lookup c := by
  cases hp : post.lookup c with
  | none => exact AList.lookup_eq_none.mpr fun hc => AList.lookup_eq_none.mp hp ((hcols c).mpr hc)
  | some v =>
    obtain ⟨cs, -, hy'⟩ := hy.column c v hp
    rw [AList.lookup, hD] at hy'
    have hc : c ∈ pre := (hcols c).mp (AList.lookup_isSome.mp (by rw [hp]; rfl))
    obtain ⟨w, hw⟩ := Option.isSome_iff_exists.mp (AList.lookup_isSome.mpr hc)
    rw [hw, ← Row.get_of_lookup hw]
    exact congrArg some hy'

/-! ### The stored table and what a client should hold -/

/-- The stored rows of one table, by the uuid of their key. -/
abbrev Store := GoMap String Payload

/-- What a client of the updater should hold for one stored value: the reading of its
projection, when it decodes and the projection is not empty. -/
def Updater.viewRow (u : Updater) (p : Option Payload) : Option RowReading :=
  p.bind fun p =>
    match u.prepareRow p with
    | .ok (row, _) => if 0 < row.entries.length then some (u.tableSchema.readRow row) else none
    | .error _ => none

/-- What a client of the updater should hold for the stored rows of a table. -/
def Updater.view (u : Updater) (S : Store) : Replica := fun uuid => u.viewRow (S.lookup uuid)

/-- The stored value of the event's row after the event. -/
def Event.after (ev : Event) : Option Payload :=
  match ev.type with
  | .put => ev.kv.map (·.value)
  | .delete => none

/-- What an event does to the stored rows of table key `tk`: a put of one of its rows stores the
value, a delete removes the row, and any other event leaves them. -/
def Store.apply (tk : Key) (S : Store) (ev : Event) : Store :=
  match ev.kv with
  | none => S
  | some kv =>
    match parseKey kv.key with
    | .error _ => S
    | .ok key =>
      if key.toTableKey = tk then
        match ev.type with
        | .put => S.insert key.uuid kv.value
        | .delete => S.erase key.uuid
      else S

/-- A stored value of row `uuid` as the updater reads it: it decodes to a row with that uuid,
whose projection has exactly the columns `K`, each in the schema and decoding. -/
def Updater.RowShape (u : Updater) (K : List String) (uuid : String) (p : Payload) : Prop :=
  ∃ row, u.prepareRow p = .ok (row, uuid) ∧ (∀ c, c ∈ row ↔ c ∈ K) ∧
    ∀ c ∈ row.keys, u.tableSchema.decodesColumn c (row.get c) = true

/-- An updater that selects every change. -/
structure Updater.SelectsChanges (u : Updater) : Prop where
  insert : msIsTrue u.select.insert = true
  delete : msIsTrue u.select.delete = true
  modify : msIsTrue u.select.modify = true

/-- The row the client holds after the row update an updater returns, if any. -/
def applyRowResult (apply : Option RowReading → RowUpdate → Option RowReading)
    (row : Option RowReading) : Option RowUpdate → Option RowReading
  | none => row
  | some ru => apply row ru

theorem length_pos_iff_of_keys {row : Row} {K : List String} (h : ∀ c, c ∈ row ↔ c ∈ K) :
    0 < row.entries.length ↔ K ≠ [] := by
  have hk : row.keys.length = row.entries.length := by simp [AList.keys, List.keys]
  rw [← hk, List.length_pos_iff_exists_mem, ← List.length_pos, List.length_pos_iff_exists_mem]
  exact exists_congr h

/-- **The events of a stored row.**  An event of the stored row `x` whose `PrevKv` is the row's
stored value `pre`, each stored value of the row well shaped, is a delete of the stored row, a
create of a row not stored, or a modify of the stored row to a row of the same columns, each
with the projections `prepareRowUpdate` reads. -/
theorem storedEvent_cases {u : Updater} {K : List String} {ev : Event} {kv : KeyValue}
    {x : String} {pre : Option Payload} (hkv : ev.kv = some kv) (hc : ev.MeetsContract)
    (hprev : ev.prevKv.map (·.value) = pre) (hpre : ∀ p, pre = some p → u.RowShape K x p)
    (hput : ev.type = .put → u.RowShape K x kv.value) :
    (∃ pkv row, ev.type = .delete ∧ ev.prevKv = some pkv ∧ pre = some pkv.value ∧
      u.prepareRow pkv.value = .ok (row, x)) ∨
    (∃ row, ev.type = .put ∧ ev.prevKv = none ∧ kv.createRevision = kv.modRevision ∧
      pre = none ∧ u.prepareRow kv.value = .ok (row, x)) ∨
    (∃ pkv row prow, ev.type = .put ∧ ev.prevKv = some pkv ∧
      kv.createRevision ≠ kv.modRevision ∧ pre = some pkv.value ∧
      u.prepareRow kv.value = .ok (row, x) ∧ u.prepareRow pkv.value = .ok (prow, x) ∧
      (∀ c, c ∈ row ↔ c ∈ prow) ∧ (0 < prow.entries.length ↔ 0 < row.entries.length) ∧
      ∀ c ∈ row.keys, u.tableSchema.decodesColumn c (row.get c) = true ∧
        u.tableSchema.decodesColumn c (prow.get c) = true) := by
  obtain ⟨hdelc, hputc⟩ := hc
  cases hty : ev.type with
  | delete =>
    obtain ⟨pkv, hpkv⟩ := Option.isSome_iff_exists.mp (hdelc hty)
    rw [hpkv] at hprev
    obtain ⟨row, hrow, -, -⟩ := hpre pkv.value hprev.symm
    exact .inl ⟨pkv, row, rfl, hpkv, hprev.symm, hrow⟩
  | put =>
    obtain ⟨row, hrow, hcols, hdec⟩ := hput hty
    cases hpk : ev.prevKv with
    | none =>
      rw [hpk] at hprev
      exact .inr (.inl ⟨row, rfl, rfl, (hputc kv hkv hty).mpr hpk, hprev.symm, hrow⟩)
    | some pkv =>
      rw [hpk] at hprev
      obtain ⟨prow, hprow, hpcols, hpdec⟩ := hpre pkv.value hprev.symm
      have hsame : ∀ c, c ∈ row ↔ c ∈ prow := fun c => (hcols c).trans (hpcols c).symm
      refine .inr (.inr ⟨pkv, row, prow, rfl, rfl, fun h => ?_, hprev.symm, hrow, hprow, hsame,
        ?_, fun c hc => ⟨hdec c hc, hpdec c ((hsame c).mp hc)⟩⟩)
      · simpa [hpk] using (hputc kv hkv hty).mp h
      · rw [length_pos_iff_of_keys hcols, length_pos_iff_of_keys hpcols]

/-- **One event, applied by the client.**  For a v2 updater selecting every change, an event of
the stored row `x` whose `PrevKv` is the row's stored value `pre`, each stored value of the row
well shaped: `prepareRowUpdate` returns, a row update it returns is for row `x`, and the client's
row, moved by it, is what the client should hold for the row after the event. -/
theorem prepareRowUpdate_view {u : Updater} (hv2 : u.isV1 = false) (hu : u.SelectsChanges)
    {K : List String} {ev : Event} {kv : KeyValue} {x : String} {pre : Option Payload}
    (hkv : ev.kv = some kv)
    (hc : ev.MeetsContract) (hprev : ev.prevKv.map (·.value) = pre)
    (hpre : ∀ p, pre = some p → u.RowShape K x p)
    (hput : ev.type = .put → u.RowShape K x kv.value) :
    ∃ o y, u.prepareRowUpdate ev = some (.ok (o, y)) ∧ (o.isSome → y = x) ∧
      applyRowResult (applyRowUpdate2 u.tableSchema) (u.viewRow pre) o = u.viewRow ev.after := by
  rcases storedEvent_cases hkv hc hprev hpre hput with
    ⟨pkv, row, hty, hpk, rfl, hrow⟩ | ⟨row, hty, hpk, hrev, rfl, hrow⟩ |
    ⟨pkv, row, prow, hty, hpk, hrev, rfl, hrow, hprow, hsame, hlen, hdec⟩
  · -- a delete: `Delete`
    refine ⟨some { delete := true }, x, ?_, fun _ => rfl, ?_⟩
    · simp [Updater.prepareRowUpdate, Event.isModify, Event.isCreate, hty,
        Updater.prepareDeleteRowUpdate, hu.delete, hpk, hv2, hrow]
    · simp [applyRowResult, applyRowUpdate2, Updater.viewRow, Event.after, hty]
  · -- a create: `Insert`, or nothing for an empty projection
    by_cases hlen : 0 < row.entries.length
    · refine ⟨some { insert := some row }, x, ?_, fun _ => rfl, ?_⟩
      · simp [Updater.prepareRowUpdate, Event.isModify, Event.isCreate, hty, hkv, hrev,
          Updater.prepareCreateRowUpdate, hu.insert, hrow, hlen, hv2]
      · simp [applyRowResult, applyRowUpdate2, Updater.viewRow, Event.after, hty, hkv, hrow, hlen]
    · refine ⟨none, "", ?_, (fun h => nomatch h), ?_⟩
      · simp [Updater.prepareRowUpdate, Event.isModify, Event.isCreate, hty, hkv, hrev,
          Updater.prepareCreateRowUpdate, hu.insert, hrow, hlen]
      · simp [applyRowResult, Updater.viewRow, Event.after, hty, hkv, hrow, hlen]
  · -- a modify: `Modify` with the update2 delta, or nothing when no column changed
    obtain ⟨-, hy⟩ := compareModifiedRows_update2 hv2 hdec
    by_cases hD : 0 < (u.compareModifiedRows prow row.entries ∅).1.entries.length
    · have hpos : 0 < row.entries.length :=
        Row.length_pos_of_subset hD fun c hc => hy.delta_columns c hc
      refine ⟨some { modify := some (u.compareModifiedRows prow row.entries ∅).1 }, x, ?_,
        fun _ => rfl, ?_⟩
      · simp [Updater.prepareRowUpdate, Event.isModify, hty, hkv, hrev,
          Updater.prepareModifyRowUpdate, hu.modify, hrow, hpk, hprow, hD, hv2]
      · simp [applyRowResult, applyRowUpdate2, Updater.viewRow, Event.after, hty, hkv, hrow,
          hprow, hpos, hlen.mpr hpos, applyModify2_update2 hy hsame hdec]
    · have hread : u.tableSchema.readRow prow = u.tableSchema.readRow row := funext fun c => by
        simp only [TableSchema.readRow, hy.lookup_eq_of_empty
          (List.eq_nil_of_length_eq_zero (Nat.eq_zero_of_not_pos hD)) hsame c]
      refine ⟨none, "", ?_, (fun h => nomatch h), ?_⟩
      · simp [Updater.prepareRowUpdate, Event.isModify, hty, hkv, hrev,
          Updater.prepareModifyRowUpdate, hu.modify, hrow, hpk, hprow, hD]
      · simp [applyRowResult, Updater.viewRow, Event.after, hty, hkv, hrow, hprow, hlen, hread]

/-- **One event, applied by a v1 client.**  For a v1 updater selecting every change and an event
as in `prepareRowUpdate_view`: `prepareRowUpdate` returns, and a row update it returns is for row
`x` and moves any row the client holds to what the client should hold for the row after the
event; when it returns none, what the client should hold for the row is as before the event. -/
theorem prepareRowUpdate_view1 {u : Updater} (hv1 : u.isV1 = true) (hu : u.SelectsChanges)
    {K : List String} {ev : Event} {kv : KeyValue} {x : String} {pre : Option Payload}
    (hkv : ev.kv = some kv)
    (hc : ev.MeetsContract) (hprev : ev.prevKv.map (·.value) = pre)
    (hpre : ∀ p, pre = some p → u.RowShape K x p)
    (hput : ev.type = .put → u.RowShape K x kv.value) :
    ∃ o y, u.prepareRowUpdate ev = some (.ok (o, y)) ∧ (o.isSome → y = x) ∧
      (o = none → u.viewRow pre = u.viewRow ev.after) ∧
      ∀ ru, o = some ru → ∀ row, applyRowUpdate1 u.tableSchema row ru = u.viewRow ev.after := by
  rcases storedEvent_cases hkv hc hprev hpre hput with
    ⟨pkv, row, hty, hpk, rfl, hrow⟩ | ⟨row, hty, hpk, hrev, rfl, hrow⟩ |
    ⟨pkv, row, prow, hty, hpk, hrev, rfl, hrow, hprow, hsame, hlen, hdec⟩
  · -- a delete: `Old` alone, or nothing for an empty projection
    by_cases hlen : 0 < row.entries.length
    · refine ⟨some { old := some row }, x, ?_, fun _ => rfl, (fun h => nomatch h), ?_⟩
      · simp [Updater.prepareRowUpdate, Event.isModify, Event.isCreate, hty,
          Updater.prepareDeleteRowUpdate, hu.delete, hpk, hv1, hrow, hlen]
      · rintro _ ⟨⟩ _
        simp [applyRowUpdate1, Updater.viewRow, Event.after, hty]
    · refine ⟨none, x, ?_, (fun h => nomatch h), fun _ => ?_, fun _ h => nomatch h⟩
      · simp [Updater.prepareRowUpdate, Event.isModify, Event.isCreate, hty,
          Updater.prepareDeleteRowUpdate, hu.delete, hpk, hv1, hrow, hlen]
      · simp [Updater.viewRow, Event.after, hty, hrow, hlen]
  · -- a create: `New`, or nothing for an empty projection
    by_cases hlen : 0 < row.entries.length
    · refine ⟨some { new := some row }, x, ?_, fun _ => rfl, (fun h => nomatch h), ?_⟩
      · simp [Updater.prepareRowUpdate, Event.isModify, Event.isCreate, hty, hkv, hrev,
          Updater.prepareCreateRowUpdate, hu.insert, hrow, hlen, hv1]
      · rintro _ ⟨⟩ _
        simp [applyRowUpdate1, Updater.viewRow, Event.after, hty, hkv, hrow, hlen]
    · refine ⟨none, "", ?_, (fun h => nomatch h), fun _ => ?_, fun _ h => nomatch h⟩
      · simp [Updater.prepareRowUpdate, Event.isModify, Event.isCreate, hty, hkv, hrev,
          Updater.prepareCreateRowUpdate, hu.insert, hrow, hlen]
      · simp [Updater.viewRow, Event.after, hty, hkv, hrow, hlen]
  · -- a modify: the new row beside its `Old`, or nothing when no column changed
    obtain ⟨-, hy⟩ := compareModifiedRows_update1 hv1 hdec
    by_cases hD : 0 < (u.compareModifiedRows prow row.entries ∅).1.entries.length
    · have hpos : 0 < row.entries.length :=
        Row.length_pos_of_subset hD fun c hc => ((hy.changed c).mp hc).1
      refine ⟨some { new := some row, old := some (u.compareModifiedRows prow row.entries ∅).1 },
        x, ?_, fun _ => rfl, (fun h => nomatch h), ?_⟩
      · simp [Updater.prepareRowUpdate, Event.isModify, hty, hkv, hrev,
          Updater.prepareModifyRowUpdate, hu.modify, hrow, hpk, hprow, hD, hv1]
      · rintro _ ⟨⟩ _
        simp [applyRowUpdate1, Updater.viewRow, Event.after, hty, hkv, hrow, hpos]
    · have hread : u.tableSchema.readRow prow = u.tableSchema.readRow row := funext fun c => by
        simp only [TableSchema.readRow, hy.lookup_eq_of_empty
          (List.eq_nil_of_length_eq_zero (Nat.eq_zero_of_not_pos hD)) hsame c]
      refine ⟨none, "", ?_, (fun h => nomatch h), fun _ => ?_, fun _ h => nomatch h⟩
      · simp [Updater.prepareRowUpdate, Event.isModify, hty, hkv, hrev,
          Updater.prepareModifyRowUpdate, hu.modify, hrow, hpk, hprow, hD]
      · simp [Updater.viewRow, Event.after, hty, hkv, hrow, hprow, hlen, hread]

end OvsdbMonitor
