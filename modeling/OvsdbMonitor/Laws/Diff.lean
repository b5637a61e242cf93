import OvsdbMonitor.Updater

/-!
# The diff engine under OVSDB's update2 semantics

A v2/v3 `Modify` delta is read by a client with OVSDB's update2 semantics: a scalar column is
replaced, a set column has every delta element toggled (`toggleAll`), and a map column has
every delta key deleted when the old value equals the delta's, set otherwise
(`applyMapDelta`).  `Update2Yields` says that applying a delta to the previous row gives the
new one, column by column, as OVSDB values.

* `setsDifference_spec`: the elements of the first set missing from the second, then those of
  the second missing from the first: the symmetric difference, up to order.
* `toggleAll_setsDifference`: toggling `setsDifference S' S` into `S` gives `S'`, as sets.
* `lookup_applyMapDelta_compareMaps`: the `compareMaps` delta applied to the old map gives the
  new map.
* `prepareRowUpdate_modify_update2`: for a v2/v3 updater the emitted `Modify` delta yields the
  new projected row, and when nothing is emitted the two rows are equal.
* `prepareRowUpdate_modify_update1`: a v1 updater emits the new projected row in `New` and, in
  `Old`, exactly the changed columns: a scalar column's old value, but a set or map column's
  update2 delta, since `columnDelta` diffs those for every version.
* `compareModifiedRows_append_error`, `prepareRowUpdate_stray_column_order`: the row diff stops
  at the first column it cannot diff, so a column missing from the schema hides the changed
  columns visited after it, and what is sent depends on the iteration order.
* `prepareRowUpdate_reordered_set`: a set written in another order is not "equal" to the diff
  engine, which then emits an empty set delta.
-/

namespace OvsdbMonitor

/-! ### Sets -/

theorem setsDifference_eq (set1 set2 : OvsSet) :
    setsDifference set1 set2 =
      set1.filter (fun a => a ∉ set2) ++ set2.filter (fun a => a ∉ set1) := by
  have hpass : ∀ s t : OvsSet, (s.filter fun s1 => !t.any fun s2 => s1 == s2) =
      s.filter fun a => a ∉ t := fun s t => by
    congr 1; funext a; rw [Bool.eq_iff_iff]; simp [List.any_eq_true, List.forall_mem_ne]
  simp [setsDifference, List.range_succ, hpass]

theorem setsDifference_nodup {set1 set2 : OvsSet} (h1 : set1.Nodup) (h2 : set2.Nodup) :
    (setsDifference set1 set2).Nodup := by
  rw [setsDifference_eq]
  refine (h1.filter _).append (h2.filter _) fun a ha ha' => ?_
  simp only [List.mem_filter, decide_eq_true_eq] at ha ha'
  exact ha'.2 ha.1

/-- **`setsDifference` is the symmetric difference**: the elements of `a` missing from `b` in
`a`'s order, then those of `b` missing from `a` in `b`'s order.  It is duplicate-free when both
sets are, and swapping the sets only permutes it. -/
theorem setsDifference_spec (a b : OvsSet) :
    setsDifference a b = a.filter (fun x => x ∉ b) ++ b.filter (fun x => x ∉ a) ∧
      (∀ x, x ∈ setsDifference a b ↔ x ∈ a ∧ x ∉ b ∨ x ∈ b ∧ x ∉ a) ∧
      (a.Nodup → b.Nodup → (setsDifference a b).Nodup) ∧
      (setsDifference b a).Perm (setsDifference a b) := by
  refine ⟨setsDifference_eq a b, fun x => by simp [setsDifference_eq], setsDifference_nodup, ?_⟩
  rw [setsDifference_eq, setsDifference_eq]
  exact List.perm_append_comm

/-- OVSDB's update2 reading of a set delta: toggle every element, removing it when present and
adding it when absent. -/
def toggleAll (s : OvsSet) (delta : OvsSet) : OvsSet :=
  delta.foldl (fun s a => if a ∈ s then s.erase a else s ++ [a]) s

theorem toggleAll_spec : ∀ (delta s : OvsSet), s.Nodup → delta.Nodup →
    (toggleAll s delta).Nodup ∧ ∀ a, a ∈ toggleAll s delta ↔ (a ∈ s ↔ a ∉ delta)
  | [], s, hs, _ => ⟨hs, fun a => by simp [toggleAll]⟩
  | x :: delta, s, hs, hd => by
    rw [List.nodup_cons] at hd
    have hstep : (if x ∈ s then s.erase x else s ++ [x]).Nodup ∧
        ∀ a, a ∈ (if x ∈ s then s.erase x else s ++ [x]) ↔ (a ∈ s ↔ a ≠ x) := by
      split_ifs with hx
      · exact ⟨hs.erase x, fun a => by rw [hs.mem_erase_iff]; by_cases a = x <;> simp_all⟩
      · exact ⟨hs.append (List.nodup_singleton x) (by simpa using hx),
          fun a => by by_cases a = x <;> simp_all⟩
    obtain ⟨hnd, hmem⟩ := toggleAll_spec delta _ hstep.1 hd.2
    refine ⟨hnd, fun a => ?_⟩
    rw [toggleAll, List.foldl_cons, ← toggleAll, hmem, hstep.2, List.mem_cons]
    by_cases hax : a = x
    · subst hax; simp [hd.1]
    · simp [hax]

/-- **Toggling the set difference into the old set gives the new set.** -/
theorem toggleAll_setsDifference {S S' : OvsSet} (hS : S.Nodup) (hS' : S'.Nodup) (a : Atom) :
    a ∈ toggleAll S (setsDifference S' S) ↔ a ∈ S' := by
  rw [(toggleAll_spec _ S hS (setsDifference_nodup hS' hS)).2, setsDifference_eq]
  by_cases h : a ∈ S <;> by_cases h' : a ∈ S' <;> simp [h, h']

/-! ### Maps -/

/-- OVSDB's update2 reading of a map delta: a delta pair that the old map already holds deletes
its key, any other pair sets the key to the delta's value. -/
def applyMapDelta (m delta : OvsMap) : OvsMap :=
  delta.foldl (fun acc k v => if m.lookup k = some v then acc.erase k else acc.insert k v) m

theorem lookup_applyMapDelta (m delta : OvsMap) (k : Atom) :
    (applyMapDelta m delta).lookup k =
      match delta.lookup k with
      | none => m.lookup k
      | some v => if m.lookup k = some v then none else some v := by
  rw [applyMapDelta, GoMap.lookup_foldl]
  · cases delta.lookup k with
    | none => rfl
    | some v => dsimp only; split_ifs <;> simp
  · intro acc k v k' hk
    dsimp only; split_ifs
    · exact GoMap.lookup_erase_of_ne acc hk
    · exact GoMap.lookup_insert_of_ne acc v hk
  · intro acc acc' k v _
    dsimp only; split_ifs <;> simp

/-- The `compareMaps` delta at one key: the new value where it is new or changed, the old value
where the key was deleted, nothing where the key kept its value. -/
theorem lookup_compareMaps {data prevData : Value} {cs : ColumnSchema}
    {newMap prevMap delta : OvsMap} (hn : cs.unmarshalMap data = .ok newMap)
    (hp : cs.unmarshalMap prevData = .ok prevMap) (h : compareMaps data prevData cs = .ok delta)
    (k : Atom) :
    delta.lookup k =
      match newMap.lookup k with
      | some v => if prevMap.lookup k = some v then none else some v
      | none => prevMap.lookup k := by
  rw [compareMaps, hn, hp] at h
  cases h
  set f1 : OvsMap → Atom → Atom → OvsMap :=
    fun delta k v => if prevMap.lookup k ≠ some v then delta.insert k v else delta with hf1
  have hD1 : ∀ k, (newMap.foldl f1 ∅).lookup k =
      match newMap.lookup k with
      | some v => if prevMap.lookup k = some v then none else some v
      | none => none := fun k => by
    rw [GoMap.lookup_foldl]
    · cases newMap.lookup k with
      | none => rfl
      | some v =>
        by_cases hv : prevMap.lookup k = some v <;> simp [hf1, hv, GoMap.lookup_singleton]
    · intro acc k v k' hk
      simp only [hf1]; split_ifs <;> simp only [GoMap.lookup_insert_of_ne _ _ hk]
    · intro acc acc' k v h
      simp only [hf1]; split_ifs
      · simp
      · exact h
  rw [GoMap.lookup_foldl]
  · cases hp' : prevMap.lookup k <;> cases hn' : newMap.lookup k <;>
      simp [← AList.lookup_isSome, hD1, hn', hp']
  · intro acc k v k' hk
    dsimp only; split_ifs <;> simp only [GoMap.lookup_insert_of_ne _ _ hk]
  · intro acc acc' k v h
    simp only [← AList.lookup_isSome, h]
    split_ifs <;> simp [h]

/-- **The map delta applied to the old map gives the new map.** -/
theorem lookup_applyMapDelta_compareMaps {data prevData : Value} {cs : ColumnSchema}
    {newMap prevMap delta : OvsMap} (hn : cs.unmarshalMap data = .ok newMap)
    (hp : cs.unmarshalMap prevData = .ok prevMap) (h : compareMaps data prevData cs = .ok delta)
    (k : Atom) : (applyMapDelta prevMap delta).lookup k = newMap.lookup k := by
  rw [lookup_applyMapDelta, lookup_compareMaps hn hp h]
  cases hnk : newMap.lookup k with
  | some v => by_cases hv : prevMap.lookup k = some v <;> simp [hv]
  | none => cases prevMap.lookup k <;> simp

/-! ### Columns -/

/-- A column value decodes under its column type: a set column to a duplicate-free OVSDB set, a
map column to an OVSDB map; a scalar column is compared as it is. -/
def ColumnSchema.decodes (cs : ColumnSchema) (v : Value) : Bool :=
  match cs.type with
  | .atomic _ => true
  | .set _ =>
    match cs.unmarshalSet v with
    | .ok s => decide s.Nodup
    | .error _ => false
  | .map _ _ => (cs.unmarshalMap v).toBool

theorem ColumnSchema.decodes_set {k : AtomicType} {v : Value}
    (h : (⟨.set k⟩ : ColumnSchema).decodes v = true) :
    ∃ S, ColumnSchema.unmarshalSet ⟨.set k⟩ v = .ok S ∧ S.Nodup := by
  simp only [ColumnSchema.decodes] at h
  cases hS : ColumnSchema.unmarshalSet ⟨.set k⟩ v with
  | error e => simp [hS] at h
  | ok S => simp only [hS, decide_eq_true_eq] at h; exact ⟨S, rfl, h⟩

theorem ColumnSchema.decodes_map {k w : AtomicType} {v : Value}
    (h : (⟨.map k w⟩ : ColumnSchema).decodes v = true) :
    ∃ M, ColumnSchema.unmarshalMap ⟨.map k w⟩ v = .ok M := by
  simp only [ColumnSchema.decodes] at h
  cases hM : ColumnSchema.unmarshalMap ⟨.map k w⟩ v with
  | error e => rw [hM] at h; cases h
  | ok M => exact ⟨M, rfl⟩

/-- The column is in the table schema and the value decodes under its type. -/
def TableSchema.decodesColumn (schema : TableSchema) (column : String) (v : Value) : Bool :=
  match schema.lookupColumn column with
  | .ok cs => cs.decodes v
  | .error _ => false

/-- OVSDB's update2 reading of one column: the column's delta (`none` when the delta has no
such column) applied to the old value `pre` gives `post`, as OVSDB values. -/
def ColumnUpdate2Yields (cs : ColumnSchema) (pre : Value) : Option Value → Value → Prop
  | none, post => pre = post
  | some d, post =>
    match cs.type with
    | .atomic _ => d = post
    | .set _ => ∃ S S' D, cs.unmarshalSet pre = .ok S ∧ cs.unmarshalSet post = .ok S' ∧
        d = .set D ∧ ∀ a, a ∈ toggleAll S D ↔ a ∈ S'
    | .map _ _ => ∃ M M' D, cs.unmarshalMap pre = .ok M ∧ cs.unmarshalMap post = .ok M' ∧
        d = .map D ∧ ∀ k, (applyMapDelta M D).lookup k = M'.lookup k

/-- **One column of the v2/v3 diff.**  When both values decode, `columnDelta` succeeds and its
delta, read with update2 semantics, turns the old value into the new one. -/
theorem columnDelta_update2 {u : Updater} (hv2 : u.isV1 = false) {c : String} {v pv : Value}
    (hv : u.tableSchema.decodesColumn c v = true) (hpv : u.tableSchema.decodesColumn c pv = true) :
    ∃ cs o, u.tableSchema.lookupColumn c = .ok cs ∧ u.columnDelta c v pv = .ok o ∧
      ColumnUpdate2Yields cs pv o v := by
  unfold TableSchema.decodesColumn at hv hpv
  cases hcs : u.tableSchema.lookupColumn c with
  | error e => rw [hcs] at hv; cases hv
  | ok cs =>
    rw [hcs] at hv hpv
    refine ⟨cs, ?_⟩
    by_cases heq : v = pv
    · exact ⟨none, rfl, by simp [Updater.columnDelta, heq], heq.symm⟩
    obtain ⟨t⟩ := cs
    cases t with
    | atomic a => exact ⟨some v, rfl, by simp [Updater.columnDelta, heq, hcs, hv2], rfl⟩
    | set k =>
      obtain ⟨S', hS', hnd'⟩ := ColumnSchema.decodes_set hv
      obtain ⟨S, hS, hnd⟩ := ColumnSchema.decodes_set hpv
      exact ⟨some (.set (setsDifference S' S)), rfl,
        by simp [Updater.columnDelta, heq, hcs, compareSets, hS', hS],
        S, S', _, hS, hS', rfl, toggleAll_setsDifference hnd hnd'⟩
    | map k w =>
      obtain ⟨M', hM'⟩ := ColumnSchema.decodes_map hv
      obtain ⟨M, hM⟩ := ColumnSchema.decodes_map hpv
      cases hD : compareMaps v pv ⟨.map k w⟩ with
      | error e => simp [compareMaps, hM', hM] at hD
      | ok D =>
        exact ⟨some (.map D), rfl, by simp [Updater.columnDelta, heq, hcs, hD],
          M, M', D, hM, hM', rfl, lookup_applyMapDelta_compareMaps hM' hM hD⟩

/-! ### Rows -/

/-- OVSDB's update2 reading of a row delta: applied to the row `pre` it gives the row `post`.
The delta names only columns of `post`, and each column of `post` is its old value with the
column's delta applied. -/
structure Update2Yields (schema : TableSchema) (pre delta post : Row) : Prop where
  delta_columns : ∀ c, c ∈ delta → c ∈ post
  column : ∀ c v, post.lookup c = some v →
    ∃ cs, schema.lookupColumn c = .ok cs ∧ ColumnUpdate2Yields cs (pre.get c) (delta.lookup c) v

/-- `compareModifiedRows` over entries whose every column delta succeeds, with `δ` the deltas:
it reports no error and writes each column's delta, if any, over the initial `deltaRow`. -/
theorem compareModifiedRows_spec (u : Updater) (prevRow : Row)
    (δ : String → Value → Option Value) :
    ∀ (l : List (Σ _ : String, Value)) (deltaRow : Row), l.NodupKeys →
    (∀ c v, l.dlookup c = some v → u.columnDelta c v (prevRow.get c) = .ok (δ c v)) →
    (u.compareModifiedRows prevRow l deltaRow).2 = none ∧
    ∀ c, (u.compareModifiedRows prevRow l deltaRow).1.lookup c =
      match l.dlookup c with
      | none => deltaRow.lookup c
      | some v => (δ c v).or (deltaRow.lookup c)
  | [], _, _, _ => ⟨rfl, fun _ => rfl⟩
  | ⟨c', v'⟩ :: l, deltaRow, hl, hδ => by
    rw [List.nodupKeys_cons] at hl
    have hδ' : ∀ c v, l.dlookup c = some v →
        u.columnDelta c v (prevRow.get c) = .ok (δ c v) := fun c v h => by
        have hc : c ≠ c' := fun hc => hl.1 (hc ▸ List.dlookup_isSome.mp (by rw [h]; rfl))
        exact hδ c v (by rw [List.dlookup_cons_ne _ _ hc, h])
    -- one turn of the loop writes the column's delta, if any
    have hstep : u.compareModifiedRows prevRow (⟨c', v'⟩ :: l) deltaRow =
        u.compareModifiedRows prevRow l ((δ c' v').elim deltaRow (deltaRow.insert c')) := by
      have h1 := hδ c' v' (List.dlookup_cons_eq _ _ _)
      cases hd : δ c' v' <;> rw [hd] at h1 <;> simp only [Updater.compareModifiedRows, h1] <;> rfl
    obtain ⟨h2, hlk⟩ := compareModifiedRows_spec u prevRow δ l _ hl.2 hδ'
    refine ⟨hstep ▸ h2, fun c => ?_⟩
    rw [hstep, hlk]
    by_cases hc : c = c'
    · subst hc
      rw [List.dlookup_cons_eq, List.dlookup_eq_none.mpr hl.1]
      cases hd : δ c v' <;> simp [hd]
    · rw [List.dlookup_cons_ne _ _ hc]
      cases δ c' v' <;> simp [GoMap.lookup_insert_of_ne _ _ hc]

/-- **The v2/v3 row diff.**  When every column of the new row is in the schema and decodes, both
in the new and in the old row, `compareModifiedRows` stops at no error, and its delta read with
update2 semantics turns the old row into the new one. -/
theorem compareModifiedRows_update2 {u : Updater} (hv2 : u.isV1 = false) {pre post : Row}
    (hdec : ∀ c ∈ post.keys, u.tableSchema.decodesColumn c (post.get c) = true ∧
      u.tableSchema.decodesColumn c (pre.get c) = true) :
    (u.compareModifiedRows pre post.entries ∅).2 = none ∧
      Update2Yields u.tableSchema pre (u.compareModifiedRows pre post.entries ∅).1 post := by
  have hcol : ∀ c v, post.lookup c = some v → ∃ cs o,
      u.tableSchema.lookupColumn c = .ok cs ∧ u.columnDelta c v (pre.get c) = .ok o ∧
        ColumnUpdate2Yields cs (pre.get c) o v := by
    intro c v hv
    have hmem : c ∈ post.keys := AList.lookup_isSome.mp (by rw [hv]; rfl)
    rw [← Row.get_of_lookup hv]
    exact columnDelta_update2 hv2 (hdec c hmem).1 (hdec c hmem).2
  obtain ⟨hnone, hlk⟩ := compareModifiedRows_spec u pre
    (fun c v => (u.columnDelta c v (pre.get c)).toOption.join) post.entries ∅ post.nodupKeys
    (fun c v hv => by obtain ⟨_, o, _, ho, _⟩ := hcol c v hv; simp only [ho]; rfl)
  have hlk' : ∀ c, (u.compareModifiedRows pre post.entries ∅).1.lookup c =
      match post.lookup c with
      | none => none
      | some v => (u.columnDelta c v (pre.get c)).toOption.join := fun c => by
    rw [hlk]; simp only [AList.lookup]; cases post.entries.dlookup c <;> simp
  refine ⟨hnone, ⟨fun c hc => ?_, fun c v hv => ?_⟩⟩
  · rw [← AList.lookup_isSome, hlk'] at hc
    rw [← AList.lookup_isSome]
    cases h : post.lookup c
    · rw [h] at hc; cases hc
    · rfl
  · obtain ⟨cs, o, hcs, ho, hy⟩ := hcol c v hv
    refine ⟨cs, hcs, ?_⟩
    rw [hlk', hv]
    simpa only [ho] using hy

/-- **The row diff stops at the first column it cannot diff.**  When `columnDelta` fails on a
column (one missing from the schema, or a set or map that does not decode), the columns after
it in iteration order are never visited: the delta is the one built before it. -/
theorem compareModifiedRows_append_error (u : Updater) (prevRow : Row) {c : String} {v : Value}
    {e : String} (he : u.columnDelta c v (prevRow.get c) = .error e)
    (l₂ : List (Σ _ : String, Value)) :
    ∀ (l₁ : List (Σ _ : String, Value)) (deltaRow : Row),
      (u.compareModifiedRows prevRow l₁ deltaRow).2 = none →
      u.compareModifiedRows prevRow (l₁ ++ ⟨c, v⟩ :: l₂) deltaRow =
        ((u.compareModifiedRows prevRow l₁ deltaRow).1, some e)
  | [], deltaRow, _ => by simp [Updater.compareModifiedRows, he]
  | ⟨c', v'⟩ :: l₁, deltaRow, h => by
    simp only [List.cons_append, Updater.compareModifiedRows] at h ⊢
    cases hd : u.columnDelta c' v' (prevRow.get c') with
    | error e' => simp [hd] at h
    | ok o =>
      cases o <;> simp only [hd] at h ⊢ <;>
        exact compareModifiedRows_append_error u prevRow he l₂ l₁ _ h

theorem prepareRowUpdate_of_isModify {u : Updater} {ev : Event} (h : ev.isModify = some true) :
    u.prepareRowUpdate ev = u.prepareModifyRowUpdate ev := by
  simp [Updater.prepareRowUpdate, h]

/-- **A v2/v3 `Modify` is the update2 delta between the projected rows.**  For a modify event whose
projected rows carry the same uuid and the same columns, each in the schema and decoding in both
rows, `prepareRowUpdate` succeeds; what it emits is a `Modify` whose delta turns the old projected
row into the new one under update2 semantics, and it emits nothing only when the two rows are
equal. -/
theorem prepareRowUpdate_modify_update2 (u : Updater) (ev : Event) (kv pkv : KeyValue)
    (pre post : Row) (uuid : String) (hv2 : u.isV1 = false)
    (hsel : msIsTrue u.select.modify = true) (hmod : ev.isModify = some true)
    (hkv : ev.kv = some kv) (hpkv : ev.prevKv = some pkv)
    (hpost : u.prepareRow kv.value = .ok (post, uuid))
    (hpre : u.prepareRow pkv.value = .ok (pre, uuid)) (hcols : ∀ c, c ∈ post ↔ c ∈ pre)
    (hdec : ∀ c ∈ post.keys, u.tableSchema.decodesColumn c (post.get c) = true ∧
      u.tableSchema.decodesColumn c (pre.get c) = true) :
    ∃ o s, u.prepareRowUpdate ev = some (.ok (o, s)) ∧
      (∀ ru, o = some ru →
        ∃ D, ru = { modify := some D } ∧ Update2Yields u.tableSchema pre D post) ∧
      (o = none → ∀ c, pre.lookup c = post.lookup c) := by
  obtain ⟨-, hy⟩ := compareModifiedRows_update2 hv2 hdec
  rw [prepareRowUpdate_of_isModify hmod]
  simp only [Updater.prepareModifyRowUpdate, hsel, hkv, hpkv, hpost, hpre, hv2, Bool.not_true,
    Bool.not_false, Bool.false_eq_true, if_false, if_true, Option.map_some', ne_eq,
    not_true_eq_false]
  split_ifs with hpos
  · exact ⟨_, _, rfl, fun ru hru => ⟨_, (Option.some.inj hru).symm, hy⟩, nofun⟩
  · refine ⟨_, _, rfl, nofun, fun _ c => ?_⟩
    have hD : ∀ c, (u.compareModifiedRows pre post.entries ∅).1.lookup c = none := fun c => by
      rw [AList.lookup, List.eq_nil_of_length_eq_zero (Nat.eq_zero_of_not_pos hpos)]; rfl
    cases hp : post.lookup c with
    | none =>
      exact AList.lookup_eq_none.mpr fun hc => AList.lookup_eq_none.mp hp ((hcols c).mpr hc)
    | some v =>
      obtain ⟨cs, -, hy'⟩ := hy.column c v hp
      rw [hD] at hy'
      have hc : c ∈ pre := (hcols c).mp (AList.lookup_isSome.mp (by rw [hp]; rfl))
      obtain ⟨w, hw⟩ := Option.isSome_iff_exists.mp (AList.lookup_isSome.mpr hc)
      rw [hw, ← Row.get_of_lookup hw]
      exact congrArg some hy'

/-! ### A row with a scalar, a set and a map column -/

/-- A table with a scalar, a set and a map column. -/
def mixedSchema : TableSchema :=
  ⟨[("n", ⟨.atomic .integer⟩), ("s", ⟨.set .integer⟩),
    ("m", ⟨.map .string .integer⟩)]⟩

/-- The columns of a row of `mixedSchema` in OVSDB's JSON notation. -/
def mixedFields (n : Float64) (s : List Float64) (m : List (String × Float64)) :
    List (String × Json) :=
  [("n", .number n), ("s", .array [.string "set", .array (s.map .number)]),
    ("m", .array [.string "map", .array (m.map fun p => .array [.string p.1, .number p.2])])]

/-- A modify event of the row `U1` of table `T`, from the columns `pre` to the columns `post`. -/
def mixedModify (pre post : List (String × Json)) : Event :=
  { type := .put,
    kv := some ⟨["ovsdb", "nb", "db", "T", "U1"], 1, 2,
      some (.object (("_uuid", .array [.string "uuid", .string "U1"]) :: post))⟩,
    prevKv := some ⟨["ovsdb", "nb", "db", "T", "U1"], 1, 1,
      some (.object (("_uuid", .array [.string "uuid", .string "U1"]) :: pre))⟩ }

theorem prepareRowUpdate_modify_update2_mixed :
    ∃ o s, (mcrToUpdater {} "j" mixedSchema false).prepareRowUpdate
        (mixedModify (mixedFields 1 [1, 2] [("a", 1), ("b", 2)])
          (mixedFields 2 [2, 3] [("a", 1), ("b", 3), ("c", 4)])) = some (.ok (o, s)) ∧
      (∀ ru, o = some ru → ∃ D, ru = { modify := some D } ∧
        Update2Yields mixedSchema (Json.toRow (mixedFields 1 [1, 2] [("a", 1), ("b", 2)])) D
          (Json.toRow (mixedFields 2 [2, 3] [("a", 1), ("b", 3), ("c", 4)]))) ∧
      (o = none → ∀ c, (Json.toRow (mixedFields 1 [1, 2] [("a", 1), ("b", 2)])).lookup c =
        (Json.toRow (mixedFields 2 [2, 3] [("a", 1), ("b", 3), ("c", 4)])).lookup c) :=
  prepareRowUpdate_modify_update2 _ _ _ _ _ _ "U1" rfl rfl (by decide) rfl rfl (by decide)
    (by decide) (fun _ => Iff.rfl) (by decide)

/-! ### The v1 `Old` -/

/-- The `Old` entry a v1 (`update`) `Modify` carries for a column whose value changed from `pre`
to `post`: the old value for a scalar column, but for a set or a map column the update2 delta
from `pre` to `post`, as `columnDelta` computes it for every version. -/
def ColumnOld1 (cs : ColumnSchema) (pre post d : Value) : Prop :=
  match cs.type with
  | .atomic _ => d = pre
  | _ => ColumnUpdate2Yields cs pre (some d) post

/-- **One column of the v1 diff.**  When both values decode, `columnDelta` succeeds; it yields a
value exactly when the column changed, and that value is the column's `Old` entry. -/
theorem columnDelta_update1 {u : Updater} (hv1 : u.isV1 = true) {c : String} {v pv : Value}
    (hv : u.tableSchema.decodesColumn c v = true) (hpv : u.tableSchema.decodesColumn c pv = true) :
    ∃ cs o, u.tableSchema.lookupColumn c = .ok cs ∧ u.columnDelta c v pv = .ok o ∧
      (o.isSome ↔ v ≠ pv) ∧ ∀ d, o = some d → ColumnOld1 cs pv v d := by
  unfold TableSchema.decodesColumn at hv hpv
  cases hcs : u.tableSchema.lookupColumn c with
  | error e => rw [hcs] at hv; cases hv
  | ok cs =>
    rw [hcs] at hv hpv
    refine ⟨cs, ?_⟩
    by_cases heq : v = pv
    · exact ⟨none, rfl, by simp [Updater.columnDelta, heq], by simp [heq], nofun⟩
    obtain ⟨t⟩ := cs
    cases t with
    | atomic a =>
      exact ⟨some pv, rfl, by simp [Updater.columnDelta, heq, hcs, hv1], by simp [heq],
        fun _ h => (Option.some.inj h).symm⟩
    | set k =>
      obtain ⟨S', hS', hnd'⟩ := ColumnSchema.decodes_set hv
      obtain ⟨S, hS, hnd⟩ := ColumnSchema.decodes_set hpv
      refine ⟨some (.set (setsDifference S' S)), rfl,
        by simp [Updater.columnDelta, heq, hcs, compareSets, hS', hS], by simp [heq],
        fun _ h => ?_⟩
      cases h
      exact ⟨S, S', _, hS, hS', rfl, toggleAll_setsDifference hnd hnd'⟩
    | map k w =>
      obtain ⟨M', hM'⟩ := ColumnSchema.decodes_map hv
      obtain ⟨M, hM⟩ := ColumnSchema.decodes_map hpv
      cases hD : compareMaps v pv ⟨.map k w⟩ with
      | error e => simp [compareMaps, hM', hM] at hD
      | ok D =>
        refine ⟨some (.map D), rfl, by simp [Updater.columnDelta, heq, hcs, hD], by simp [heq],
          fun _ h => ?_⟩
        cases h
        exact ⟨M, M', D, hM, hM', rfl, lookup_applyMapDelta_compareMaps hM' hM hD⟩

/-- The `Old` row of a v1 `Modify` from the row `pre` to the row `post`: it names exactly the
columns of `post` whose value changed, each with its `ColumnOld1` entry. -/
structure Update1Old (schema : TableSchema) (pre old post : Row) : Prop where
  changed : ∀ c, c ∈ old ↔ c ∈ post ∧ post.get c ≠ pre.get c
  column : ∀ c d, old.lookup c = some d →
    ∃ cs, schema.lookupColumn c = .ok cs ∧ ColumnOld1 cs (pre.get c) (post.get c) d

/-- An empty `Old` row between rows of the same columns: the two rows are equal. -/
theorem Update1Old.lookup_eq_of_empty {schema : TableSchema} {pre old post : Row}
    (hy : Update1Old schema pre old post) (hD : old.entries = [])
    (hcols : ∀ c, c ∈ post ↔ c ∈ pre) (c : String) : pre.lookup c = post.lookup c := by
  cases hp : post.lookup c with
  | none => exact AList.lookup_eq_none.mpr fun hc => AList.lookup_eq_none.mp hp ((hcols c).mpr hc)
  | some v =>
    have hc : c ∈ post := AList.lookup_isSome.mp (by rw [hp]; rfl)
    have hsame : post.get c = pre.get c := by
      by_contra hne
      have := (hy.changed c).mpr ⟨hc, hne⟩
      rw [AList.mem_keys, AList.keys, hD] at this
      cases this
    obtain ⟨w, hw⟩ := Option.isSome_iff_exists.mp (AList.lookup_isSome.mpr ((hcols c).mp hc))
    rw [hw, ← Row.get_of_lookup hw, ← hsame, Row.get_of_lookup hp]

/-- **The v1 row diff.**  When every column of the new row is in the schema and decodes, both in
the new and in the old row, `compareModifiedRows` stops at no error and its delta is the `Old`
row of the change. -/
theorem compareModifiedRows_update1 {u : Updater} (hv1 : u.isV1 = true) {pre post : Row}
    (hdec : ∀ c ∈ post.keys, u.tableSchema.decodesColumn c (post.get c) = true ∧
      u.tableSchema.decodesColumn c (pre.get c) = true) :
    (u.compareModifiedRows pre post.entries ∅).2 = none ∧
      Update1Old u.tableSchema pre (u.compareModifiedRows pre post.entries ∅).1 post := by
  have hcol : ∀ c v, post.lookup c = some v → ∃ cs o,
      u.tableSchema.lookupColumn c = .ok cs ∧ u.columnDelta c v (pre.get c) = .ok o ∧
        (o.isSome ↔ v ≠ pre.get c) ∧ ∀ d, o = some d → ColumnOld1 cs (pre.get c) v d := by
    intro c v hv
    have hmem : c ∈ post.keys := AList.lookup_isSome.mp (by rw [hv]; rfl)
    rw [← Row.get_of_lookup hv]
    exact columnDelta_update1 hv1 (hdec c hmem).1 (hdec c hmem).2
  obtain ⟨hnone, hlk⟩ := compareModifiedRows_spec u pre
    (fun c v => (u.columnDelta c v (pre.get c)).toOption.join) post.entries ∅ post.nodupKeys
    (fun c v hv => by obtain ⟨_, o, _, ho, _⟩ := hcol c v hv; simp only [ho]; rfl)
  have hlk' : ∀ c, (u.compareModifiedRows pre post.entries ∅).1.lookup c =
      (post.lookup c).bind fun v => (u.columnDelta c v (pre.get c)).toOption.join := fun c => by
    rw [hlk]; simp only [AList.lookup]; cases post.entries.dlookup c <;> simp
  refine ⟨hnone, ⟨fun c => ?_, fun c d hd => ?_⟩⟩
  · rw [← AList.lookup_isSome, hlk', ← AList.lookup_isSome]
    cases hv : post.lookup c with
    | none => simp
    | some v =>
      obtain ⟨cs, o, -, ho, hiff, -⟩ := hcol c v hv
      simpa [ho, Except.toOption, Row.get_of_lookup hv] using hiff
  · rw [hlk'] at hd
    obtain ⟨v, hv, hd⟩ := Option.bind_eq_some.mp hd
    obtain ⟨cs, o, hcs, ho, -, hold⟩ := hcol c v hv
    rw [ho] at hd
    exact ⟨cs, hcs, by rw [Row.get_of_lookup hv]; exact hold d hd⟩

/-- **A v1 `Modify` is the new projected row beside the `Old` row of the change.**  For a modify
event whose projected rows carry the same uuid and the same columns, each in the schema and
decoding in both rows, `prepareRowUpdate` succeeds; what it emits carries the whole new row in
`New` and, in `Old`, exactly the changed columns: the old value of a scalar column, but the
update2 delta of a set or map column rather than its old value.  It emits nothing only when the
two rows are equal. -/
theorem prepareRowUpdate_modify_update1 (u : Updater) (ev : Event) (kv pkv : KeyValue)
    (pre post : Row) (uuid : String) (hv1 : u.isV1 = true)
    (hsel : msIsTrue u.select.modify = true) (hmod : ev.isModify = some true)
    (hkv : ev.kv = some kv) (hpkv : ev.prevKv = some pkv)
    (hpost : u.prepareRow kv.value = .ok (post, uuid))
    (hpre : u.prepareRow pkv.value = .ok (pre, uuid)) (hcols : ∀ c, c ∈ post ↔ c ∈ pre)
    (hdec : ∀ c ∈ post.keys, u.tableSchema.decodesColumn c (post.get c) = true ∧
      u.tableSchema.decodesColumn c (pre.get c) = true) :
    ∃ o s, u.prepareRowUpdate ev = some (.ok (o, s)) ∧
      (∀ ru, o = some ru → ∃ D, ru = { new := some post, old := some D } ∧
        Update1Old u.tableSchema pre D post) ∧
      (o = none → ∀ c, pre.lookup c = post.lookup c) := by
  obtain ⟨-, hy⟩ := compareModifiedRows_update1 hv1 hdec
  rw [prepareRowUpdate_of_isModify hmod]
  simp only [Updater.prepareModifyRowUpdate, hsel, hkv, hpkv, hpost, hpre, hv1, Bool.not_true,
    Bool.false_eq_true, if_false, Option.map_some', ne_eq, not_true_eq_false]
  split_ifs with hpos
  · exact ⟨_, _, rfl, fun ru hru => ⟨_, (Option.some.inj hru).symm, hy⟩, fun h => nomatch h⟩
  · exact ⟨_, _, rfl, (fun _ h => nomatch h), fun _ => hy.lookup_eq_of_empty
      (List.eq_nil_of_length_eq_zero (Nat.eq_zero_of_not_pos hpos)) hcols⟩

/-- The mixed row of `prepareRowUpdate_modify_update2_mixed` under a v1 monitor: the scalar `n`
changes from 1 to 2, the set `s` from `[1, 2]` to `[2, 3]` and the map `m` gains `c` and
changes `b`. -/
theorem prepareRowUpdate_modify_update1_mixed :
    ∃ o s, (mcrToUpdater {} "j" mixedSchema true).prepareRowUpdate
        (mixedModify (mixedFields 1 [1, 2] [("a", 1), ("b", 2)])
          (mixedFields 2 [2, 3] [("a", 1), ("b", 3), ("c", 4)])) = some (.ok (o, s)) ∧
      (∀ ru, o = some ru → ∃ D, ru =
          { new := some (Json.toRow (mixedFields 2 [2, 3] [("a", 1), ("b", 3), ("c", 4)])),
            old := some D } ∧
        Update1Old mixedSchema (Json.toRow (mixedFields 1 [1, 2] [("a", 1), ("b", 2)])) D
          (Json.toRow (mixedFields 2 [2, 3] [("a", 1), ("b", 3), ("c", 4)]))) ∧
      (o = none → ∀ c, (Json.toRow (mixedFields 1 [1, 2] [("a", 1), ("b", 2)])).lookup c =
        (Json.toRow (mixedFields 2 [2, 3] [("a", 1), ("b", 3), ("c", 4)])).lookup c) :=
  prepareRowUpdate_modify_update1 _ _ _ _ _ _ "U1" rfl rfl (by decide) rfl rfl (by decide)
    (by decide) (fun _ => Iff.rfl) (by decide)

/-! ### A column missing from the schema -/

/-- A row of `mixedSchema` with its scalar `n` beside a column `x` the schema does not have,
written with `n` first or with `x` first. -/
def strayFields (n x : Float64) (nFirst : Bool) : List (String × Json) :=
  if nFirst then [("n", .number n), ("x", .number x)] else [("x", .number x), ("n", .number n)]

/-- **A column missing from the schema hides the columns after it.**  The two modify events carry
the same rows, in two iteration orders.  Where `x` is visited first, its schema lookup fails
and the changed scalar `n` is never diffed, so nothing is sent; where `n` comes first, the
delta carries it. -/
theorem prepareRowUpdate_stray_column_order :
    (Json.toRow (strayFields 1 1 true)).entries.Perm (Json.toRow (strayFields 1 1 false)).entries ∧
      (Json.toRow (strayFields 2 2 true)).entries.Perm
        (Json.toRow (strayFields 2 2 false)).entries ∧
      (mcrToUpdater {} "j" mixedSchema false).prepareRowUpdate
          (mixedModify (strayFields 1 1 true) (strayFields 2 2 true)) = some (.ok (none, "")) ∧
      (mcrToUpdater {} "j" mixedSchema false).prepareRowUpdate
          (mixedModify (strayFields 1 1 false) (strayFields 2 2 false)) =
        some (.ok (some { modify := some ((∅ : Row).insert "n" (.json (.number 2))) }, "U1")) := by
  decide

/-! ### Reordered sets -/

/-- **A set column whose encoding changed but whose elements did not is still in the delta.**
The raw values are compared first, so the column reaches `compareSets`, whose difference is then
empty: the delta carries the column with an empty set. -/
theorem columnDelta_same_elements {u : Updater} {c : String} {k : AtomicType} {v pv : Value}
    {S S' : OvsSet} (hcs : u.tableSchema.lookupColumn c = .ok ⟨.set k⟩) (hne : v ≠ pv)
    (hS' : ColumnSchema.unmarshalSet ⟨.set k⟩ v = .ok S')
    (hS : ColumnSchema.unmarshalSet ⟨.set k⟩ pv = .ok S) (hmem : ∀ a, a ∈ S' ↔ a ∈ S) :
    u.columnDelta c v pv = .ok (some (.set [])) := by
  have hdiff : setsDifference S' S = [] := by
    rw [setsDifference_eq]; simp [List.filter_eq_nil_iff, hmem]
  simp [Updater.columnDelta, hne, hcs, compareSets, hS', hS, hdiff]

theorem prepareRowUpdate_reordered_set :
    (mcrToUpdater {} "j" mixedSchema false).prepareRowUpdate
        (mixedModify (mixedFields 1 [1, 2] [("a", 1)]) (mixedFields 1 [2, 1] [("a", 1)])) =
      some (.ok (some { modify := some ((∅ : Row).insert "s" (.set [])) }, "U1")) := by
  decide

end OvsdbMonitor
