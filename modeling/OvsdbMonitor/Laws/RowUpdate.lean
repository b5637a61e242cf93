import OvsdbMonitor.Laws.Diff

/-!
# Decoding a stored row, and the shape of every row update

A client reads a row update by its protocol version: v1 the fields `New` and `Old`, v2 and v3
one field per kind of change.  The column maps never carry `_uuid`, which is the row's key in
the enclosing `TableUpdate`.

* `prepareRow_eq_ok`: `prepareRow` accepts exactly a stored object whose `_uuid` is a
  two-element array ending in a string, and returns that string with the row without `_uuid`,
  projected.
* `prepareRow_unchecked_tag`: the first element of `_uuid` is never looked at.
* `rowUpdates_wellFormed`: every row update an updater returns without error has the fields of
  its version for the kind of change, non-empty column maps without `_uuid` and within the
  projection, and the uuid of the row it was built from.
-/

namespace OvsdbMonitor

/-! ### Decoding a stored row -/

theorem getAndDeleteUUID_eq_ok {row data : Row} {uuid : String} :
    getAndDeleteUUID row = .ok (uuid, data) ↔
      (∃ t, row.lookup COL_UUID = some (.json (.array [t, .string uuid]))) ∧
        data = row.erase COL_UUID := by
  unfold getAndDeleteUUID
  cases row.lookup COL_UUID with
  | none => simp
  | some v =>
    dsimp only
    split
    · constructor
      · rintro ⟨⟩
        exact ⟨⟨_, rfl⟩, rfl⟩
      · rintro ⟨⟨t, ⟨⟩⟩, rfl⟩
        rfl
    all_goals simp_all

theorem mem_deleteUnselectedColumns {u : Updater} {data : Row} {c : String} :
    c ∈ u.deleteUnselectedColumns data ↔
      c ∈ data ∧ (u.mcr.columns ≠ [] → c ∈ u.mcr.columns) := by
  have hfold : ∀ (cols : List String) (acc : Row), c ∈ cols.foldl (fun newData column =>
      match data.lookup column with
      | some value => newData.insert column value
      | none => newData) acc ↔ c ∈ acc ∨ c ∈ data ∧ c ∈ cols := by
    intro cols
    induction cols with
    | nil => simp
    | cons x cols ih =>
      intro acc
      rw [List.foldl_cons, ih]
      cases hx : data.lookup x with
      | none =>
        have hx' : x ∉ data := AList.lookup_eq_none.mp hx
        by_cases hc : c = x <;> simp_all
      | some v =>
        have hx' : x ∈ data := AList.lookup_isSome.mp (by rw [hx]; rfl)
        by_cases hc : c = x <;> simp_all [AList.mem_insert]
  unfold Updater.deleteUnselectedColumns
  split_ifs with h
  · refine (hfold _ _).trans ?_
    simp_all [List.length_eq_zero]
  · simp_all

/-- **What `prepareRow` accepts.**  It succeeds exactly on a stored value that decodes to a row
whose `_uuid` is a two-element array ending in a string; it returns that string, and the row
without `_uuid`, projected. -/
theorem prepareRow_eq_ok {u : Updater} {p : Payload} {data : Row} {uuid : String} :
    u.prepareRow p = .ok (data, uuid) ↔
      ∃ row, unmarshalData p = .ok row ∧
        (∃ t, row.lookup COL_UUID = some (.json (.array [t, .string uuid]))) ∧
        data = u.deleteUnselectedColumns (row.erase COL_UUID) := by
  simp only [Updater.prepareRow, Except.bind_eq_ok, Prod.exists, getAndDeleteUUID_eq_ok]
  constructor
  · rintro ⟨row, hrow, _, _, ⟨ht, rfl⟩, ⟨⟩⟩
    exact ⟨row, hrow, ht, rfl⟩
  · rintro ⟨row, hrow, ht, rfl⟩
    exact ⟨row, hrow, uuid, _, ⟨ht, rfl⟩, rfl⟩

/-- **The tag of `_uuid` is not checked.**  A stored row whose `_uuid` is `[t, s]` is accepted
with the uuid `s` whatever `t` is: `"named-uuid"`, a number or `null` as well as `"uuid"`. -/
theorem prepareRow_unchecked_tag (u : Updater) (t : Json) (s : String) :
    u.prepareRow (some (.object [(COL_UUID, .array [t, .string s])])) =
      .ok (u.deleteUnselectedColumns ∅, s) :=
  prepareRow_eq_ok.mpr ⟨_, rfl, ⟨t, rfl⟩, rfl⟩

/-! ### What a client may receive -/

/-- The columns of `m` are ones a client of `u` may receive: never `_uuid`, and only projected
columns when `u` projects. -/
def Updater.Projects (u : Updater) (m : Row) : Prop :=
  COL_UUID ∉ m ∧ (u.mcr.columns ≠ [] → ∀ c ∈ m.keys, c ∈ u.mcr.columns)

/-- A column map of a row update of `u`: not empty, with columns `u` may send. -/
def Updater.ColumnMapOk (u : Updater) (m : Row) : Prop :=
  0 < m.entries.length ∧ u.Projects m

instance (u : Updater) (m : Row) : Decidable (u.ColumnMapOk m) :=
  inferInstanceAs (Decidable (_ ∧ _ ∧ _))

/-- The kind of change a row update reports. -/
inductive RowChange where
  | initial
  | insert
  | modify
  | delete
  deriving DecidableEq, Repr

/-- The kind of change an event reports, read as `Event.IsCreate` and `Event.IsModify` read it:
a put of a key created at its revision inserts, any other put modifies, a delete deletes.  A put
without its key-value reports none. -/
def Event.change (e : Event) : Option RowChange :=
  if e.type = .put then
    e.kv.map fun kv => if kv.createRevision = kv.modRevision then .insert else .modify
  else some .delete

/-- The fields of `ovsjson.RowUpdate` a row update of kind `ch` sets in each protocol version. -/
def expectedFields (isV1 : Bool) : RowChange → List String
  | .initial => if isV1 then ["New"] else ["Initial"]
  | .insert => if isV1 then ["New"] else ["Insert"]
  | .modify => if isV1 then ["New", "Old"] else ["Modify"]
  | .delete => if isV1 then ["Old"] else ["Delete"]

/-- The fields a row update sets, in the order of `ovsjson.RowUpdate`. -/
def RowUpdate.fieldsSet (ru : RowUpdate) : List String :=
  ([("Initial", ru.initial.isSome), ("Insert", ru.insert.isSome), ("Delete", ru.delete),
    ("Modify", ru.modify.isSome), ("New", ru.new.isSome), ("Old", ru.old.isSome)].filter
    fun f => f.2).map fun f => f.1

/-- The column maps a row update carries. -/
def RowUpdate.columnMaps (ru : RowUpdate) : List Row :=
  [ru.initial, ru.insert, ru.modify, ru.new, ru.old].filterMap id

/-- A row update of kind `ch` as a client of updater `u` reads it: exactly the fields of `u`'s
protocol version for `ch`, and column maps that are not empty and carry only columns `u` may
send. -/
structure RowUpdate.WellFormed (u : Updater) (ch : RowChange) (ru : RowUpdate) : Prop where
  /-- The fields set are those of `u`'s protocol version for `ch`. -/
  fields : ru.fieldsSet = expectedFields u.isV1 ch
  /-- Every column map is non-empty, has no `_uuid` and stays within the projection. -/
  columnMaps : ∀ m ∈ ru.columnMaps, u.ColumnMapOk m

instance (u : Updater) (ch : RowChange) (ru : RowUpdate) : Decidable (ru.WellFormed u ch) :=
  decidable_of_iff (ru.fieldsSet = expectedFields u.isV1 ch ∧ ∀ m ∈ ru.columnMaps, u.ColumnMapOk m)
    ⟨fun h => ⟨h.1, h.2⟩, fun h => ⟨h.1, h.2⟩⟩

/-- The stored value `p` decodes to a row whose `_uuid` is a two-element array ending in the
string `uuid`. -/
def HasUUID (p : Payload) (uuid : String) : Prop :=
  ∃ row, unmarshalData p = .ok row ∧
    ∃ t, row.lookup COL_UUID = some (.json (.array [t, .string uuid]))

theorem prepareRow_spec {u : Updater} {p : Payload} {data : Row} {uuid : String}
    (h : u.prepareRow p = .ok (data, uuid)) : HasUUID p uuid ∧ u.Projects data := by
  obtain ⟨row, hrow, ht, rfl⟩ := prepareRow_eq_ok.mp h
  refine ⟨⟨row, hrow, ht⟩, fun hc => ?_, fun hcols c hc => (mem_deleteUnselectedColumns.mp hc).2 hcols⟩
  exact (AList.mem_erase.mp (mem_deleteUnselectedColumns.mp hc).1).1 rfl

theorem Updater.projects_of_subset {u : Updater} {m d : Row} (hm : u.Projects m)
    (hsub : ∀ c ∈ d, c ∈ m) : u.Projects d :=
  ⟨fun hc => hm.1 (hsub _ hc), fun hcols c hc => hm.2 hcols c (hsub c hc)⟩

theorem RowUpdate.WellFormed.of_one_map {u : Updater} {ch : RowChange} {ru : RowUpdate}
    {data : Row} (hf : ru.fieldsSet = expectedFields u.isV1 ch) (hm : ru.columnMaps = [data])
    (hok : u.ColumnMapOk data) : ru.WellFormed u ch :=
  ⟨hf, fun m hmem => by rw [hm, List.mem_singleton] at hmem; exact hmem ▸ hok⟩

theorem mem_compareModifiedRows {u : Updater} {prevRow : Row} {c : String} :
    ∀ (l : List (Σ _ : String, Value)) (deltaRow : Row),
      c ∈ (u.compareModifiedRows prevRow l deltaRow).1 → c ∈ deltaRow ∨ c ∈ l.keys
  | [], _, h => .inl h
  | ⟨c', v'⟩ :: l, deltaRow, h => by
    simp only [Updater.compareModifiedRows] at h
    split at h
    · exact .inl h
    · exact (mem_compareModifiedRows l deltaRow h).imp_right (List.mem_cons_of_mem _)
    · rcases mem_compareModifiedRows l _ h with h | h
      · rcases (AList.mem_insert _).mp h with rfl | h
        · exact .inr (List.mem_cons_self _ _)
        · exact .inl h
      · exact .inr (List.mem_cons_of_mem _ h)

theorem Row.length_pos_of_subset {d m : Row} (hd : 0 < d.entries.length)
    (hsub : ∀ c ∈ d, c ∈ m) : 0 < m.entries.length := by
  obtain ⟨s, hs⟩ := List.exists_mem_of_length_pos hd
  have hm : s.1 ∈ m.keys := hsub s.1 (List.mem_map_of_mem Sigma.fst hs)
  simpa [AList.keys, List.keys] using List.length_pos_of_mem hm

/-! ### Each row method -/

section Methods

variable {u : Updater} {ev : Event} {ru : RowUpdate} {uuid : String}

theorem prepareCreateRowUpdate_wellFormed
    (h : u.prepareCreateRowUpdate ev = some (.ok (some ru, uuid))) :
    ru.WellFormed u .insert ∧ ∃ kv, ev.kv = some kv ∧ HasUUID kv.value uuid := by
  unfold Updater.prepareCreateRowUpdate at h
  split at h
  · cases h
  obtain ⟨kv, hkv, h⟩ := Option.map_eq_some'.mp h
  split at h
  · cases h
  rename_i data _ hrow
  split_ifs at h with hpos hv <;> cases h <;>
    simp only [Bool.not_eq_true', Bool.not_eq_false] at hv <;>
    exact ⟨.of_one_map (by rw [hv]; rfl) rfl ⟨hpos, (prepareRow_spec hrow).2⟩, kv, hkv,
      (prepareRow_spec hrow).1⟩

theorem prepareCreateRowInitial_wellFormed {value : Payload}
    (h : u.prepareCreateRowInitial value = .ok (some ru, uuid)) :
    ru.WellFormed u .initial ∧ HasUUID value uuid := by
  unfold Updater.prepareCreateRowInitial at h
  split at h
  · cases h
  split at h
  · cases h
  rename_i data _ hrow
  split_ifs at h with hpos hv <;> cases h <;>
    simp only [Bool.not_eq_true', Bool.not_eq_false] at hv <;>
    exact ⟨.of_one_map (by rw [hv]; rfl) rfl ⟨hpos, (prepareRow_spec hrow).2⟩,
      (prepareRow_spec hrow).1⟩

theorem prepareDeleteRowUpdate_wellFormed
    (h : u.prepareDeleteRowUpdate ev = some (.ok (some ru, uuid))) :
    ru.WellFormed u .delete ∧ ∃ kv, ev.prevKv = some kv ∧ HasUUID kv.value uuid := by
  unfold Updater.prepareDeleteRowUpdate at h
  split at h
  · cases h
  obtain ⟨kv, hkv, h⟩ := Option.map_eq_some'.mp h
  split at h
  all_goals
    rename_i hv
    simp only [Bool.not_eq_true', Bool.not_eq_false] at hv
    split at h
    · cases h
    rename_i data _ hrow
  · cases h
    exact ⟨⟨by rw [hv]; rfl, nofun⟩, kv, hkv, (prepareRow_spec hrow).1⟩
  · split_ifs at h with hpos <;> cases h
    exact ⟨.of_one_map (by rw [hv]; rfl) rfl ⟨hpos, (prepareRow_spec hrow).2⟩, kv, hkv,
      (prepareRow_spec hrow).1⟩

theorem prepareModifyRowUpdate_wellFormed
    (h : u.prepareModifyRowUpdate ev = some (.ok (some ru, uuid))) :
    ru.WellFormed u .modify ∧ ∃ kv, ev.kv = some kv ∧ HasUUID kv.value uuid := by
  unfold Updater.prepareModifyRowUpdate at h
  split at h
  · cases h
  split at h
  · cases h
  rename_i kv hkv
  split at h
  · cases h
  rename_i modifiedRow _ hrow
  obtain ⟨_, -, h⟩ := Option.map_eq_some'.mp h
  split at h
  · cases h
  rename_i prevRow _ _
  dsimp only at h
  split_ifs at h with hne hpos hv <;> cases h
  all_goals
    obtain ⟨hid, hp⟩ := prepareRow_spec hrow
    -- the delta holds only columns of the new row
    have hsub : ∀ c ∈ (u.compareModifiedRows prevRow modifiedRow.entries ∅).1, c ∈ modifiedRow :=
      fun c hc => (mem_compareModifiedRows _ _ hc).resolve_left (AList.not_mem_empty c)
    refine ⟨?_, kv, hkv, hid⟩
  · rw [Bool.not_eq_true'] at hv
    exact .of_one_map (by rw [hv]; rfl) rfl ⟨hpos, u.projects_of_subset hp hsub⟩
  · rw [Bool.not_eq_true', Bool.not_eq_false] at hv
    refine ⟨by rw [hv]; rfl, fun m hm => ?_⟩
    simp only [RowUpdate.columnMaps, List.filterMap_cons, id_eq, List.filterMap_nil,
      List.mem_cons, List.not_mem_nil, or_false] at hm
    rcases hm with rfl | rfl
    · exact ⟨Row.length_pos_of_subset hpos hsub, hp⟩
    · exact ⟨hpos, u.projects_of_subset hp hsub⟩

end Methods

/-! ### Every row update -/

/-- `prepareRowUpdate` hands an event to the row method of its kind of change. -/
theorem prepareRowUpdate_of_change (u : Updater) {ev : Event} {ch : RowChange}
    (h : ev.change = some ch) :
    ch ≠ .initial ∧ (ch = .insert → u.prepareRowUpdate ev = u.prepareCreateRowUpdate ev) ∧
      (ch = .modify → u.prepareRowUpdate ev = u.prepareModifyRowUpdate ev) ∧
      (ch = .delete → u.prepareRowUpdate ev = u.prepareDeleteRowUpdate ev) := by
  unfold Event.change at h
  split_ifs at h with ht
  · obtain ⟨kv, hkv, rfl⟩ := Option.map_eq_some'.mp h
    split_ifs with hc <;>
      simp [Updater.prepareRowUpdate, Event.isModify, Event.isCreate, ht, hkv, hc]
  · cases h
    simp [Updater.prepareRowUpdate, Event.isModify, Event.isCreate, ht]

/-- **Every row update is well formed for its updater.**  A row update that `prepareRowUpdate`
returns without error for an insert, modify or delete event, or that `prepareCreateRowInitial`
returns for a stored row, sets exactly the fields of the updater's protocol version for the kind
of change; its column maps are not empty, never carry `_uuid` and stay within the projection;
and the uuid returned with it is the string in the `_uuid` of the row it was built from, the new
row or, for a delete, the previous one. -/
theorem rowUpdates_wellFormed (u : Updater) :
    (∀ ev ch ru uuid, ev.change = some ch → u.prepareRowUpdate ev = some (.ok (some ru, uuid)) →
      ru.WellFormed u ch ∧
        ∃ kv, (if ch = .delete then ev.prevKv else ev.kv) = some kv ∧ HasUUID kv.value uuid) ∧
    ∀ value ru uuid, u.prepareCreateRowInitial value = .ok (some ru, uuid) →
      ru.WellFormed u .initial ∧ HasUUID value uuid := by
  refine ⟨fun ev ch ru uuid hch h => ?_, fun _ _ _ => prepareCreateRowInitial_wellFormed⟩
  obtain ⟨hi, hc, hm, hd⟩ := prepareRowUpdate_of_change u hch
  cases ch with
  | initial => exact absurd rfl hi
  | insert => exact prepareCreateRowUpdate_wellFormed (hc rfl ▸ h)
  | modify => exact prepareModifyRowUpdate_wellFormed (hm rfl ▸ h)
  | delete => exact prepareDeleteRowUpdate_wellFormed (hd rfl ▸ h)

theorem rowUpdates_wellFormed_projected_v1 :
    RowUpdate.WellFormed (mcrToUpdater { columns := ["n", "_uuid"] } "j" mixedSchema true) .modify
        { new := some ((∅ : Row).insert "n" (.json (.number 2))),
          old := some ((∅ : Row).insert "n" (.json (.number 1))) } ∧
      ∃ kv, (mixedModify (mixedFields 1 [1, 2] [("a", 1)]) (mixedFields 2 [1, 2] [("a", 1)])).kv =
        some kv ∧ HasUUID kv.value "U1" :=
  (rowUpdates_wellFormed _).1 _ .modify _ "U1" rfl (by decide)

end OvsdbMonitor
