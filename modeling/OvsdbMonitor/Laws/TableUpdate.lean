import OvsdbMonitor.DbMonitor

/-!
# Correctness of `prepareTableUpdate`

`batchEmissions` lists, in batch order and then slot order, every row update the batch yields:
for each event with a `Kv` whose key parses, each updater of the slot of its table key whose
`prepareRowUpdate` returns a row update without error.  When `prepareTableUpdate` returns, its
result is the emissions put into the nested maps one after the other (`prepareTableUpdate_eq`),
so

* `lookupRowUpdate_prepareTableUpdate`: `result[j][t][u]` is the last emission for `(j, t, u)`,
* `prepareTableUpdate_noEmptyMaps`: no `result[j]` and no `result[j][t]` is empty,
* `prepareTableUpdate_lookup_congr`: `result[j]` depends only on the updaters of json-value `j`.

It does not always return: on a collision the "duplicate event" log dereferences the `Kv` and
`PrevKv` of every event of the batch, and a create carries no `PrevKv`
(`prepareTableUpdate_duplicate_create_panics`).  `prepareRowUpdate` itself never panics on an
event that meets the backing-store contract (`prepareRowUpdate_isSome`).  Flattening the two
loops into `batchSteps`, `prepareTableUpdate` panics exactly at its first iteration that panics
(`prepareTableUpdate_eq_none_iff_steps`), hence

* `prepareTableUpdate_eq_none_iff`: exactly when a `prepareRowUpdate` of the batch panics, or
  two emissions collide and an event of the batch lacks `Kv` or `PrevKv`,
* `prepareTableUpdate_panics_iff`: on events that meet the contract, exactly on the second.
-/

namespace OvsdbMonitor

/-! ### The emissions of a batch -/

/-- One row update a batch yields: json-value, table, uuid and the row update. -/
structure Emission where
  jsonValue : String
  tableName : String
  uuid : String
  rowUpdate : RowUpdate

/-- The row update one updater yields for one event, if any. -/
def emissionOf (ev : Event) (key : Key) (w : Updater) : Option Emission :=
  match w.prepareRowUpdate ev with
  | some (.ok (some rowUpdate, uuid)) => some ⟨w.jasonValueStr, key.tableName, uuid, rowUpdate⟩
  | _ => none

/-- The row updates the updaters of one slot yield for one event, in slot order. -/
def slotEmissions (ev : Event) (key : Key) (slot : List Updater) : List Emission :=
  slot.filterMap (emissionOf ev key)

/-- The row updates one event yields: those of the slot of its table key, when it has a `Kv`
whose key parses. -/
def eventEmissions (k2u : Key2Updaters) (ev : Event) : List Emission :=
  match ev.kv with
  | none => []
  | some kv =>
    match parseKey kv.key with
    | .error _ => []
    | .ok key => slotEmissions ev key ((k2u.lookup key.toTableKey).getD [])

/-- The row updates of a batch, in batch order then slot order. -/
def batchEmissions (k2u : Key2Updaters) (events : List Event) : List Emission :=
  events.flatMap (eventEmissions k2u)

/-- The emissions put into the nested result maps one after the other. -/
def putAll (result : BatchUpdates) (es : List Emission) : BatchUpdates :=
  es.foldl (fun r e => putRowUpdate r e.jsonValue e.tableName e.uuid e.rowUpdate) result

/-- An emission for `(j, t, u)`. -/
def Emission.Targets (e : Emission) (j t u : String) : Prop :=
  e.jsonValue = j ∧ e.tableName = t ∧ e.uuid = u

instance (e : Emission) (j t u : String) : Decidable (e.Targets j t u) :=
  inferInstanceAs (Decidable (_ ∧ _ ∧ _))

/-! ### `prepareTableUpdate` is `putAll` of the emissions -/

theorem putAll_append (acc : BatchUpdates) (l₁ l₂ : List Emission) :
    putAll acc (l₁ ++ l₂) = putAll (putAll acc l₁) l₂ :=
  List.foldl_append _ _ _ _

theorem slotEmissions_cons (ev : Event) (key : Key) (w : Updater) (slot : List Updater) :
    slotEmissions ev key (w :: slot) = slotEmissions ev key [w] ++ slotEmissions ev key slot := by
  rw [slotEmissions, slotEmissions, slotEmissions, ← List.filterMap_append]; rfl

theorem updaterStep_eq {events : List Event} {ev : Event} {key : Key} {acc r : BatchUpdates}
    {w : Updater} (h : updaterStep events ev key acc w = some r) :
    r = putAll acc (slotEmissions ev key [w]) := by
  unfold updaterStep at h
  cases hp : w.prepareRowUpdate ev with
  | none => rw [hp] at h; cases h
  | some res =>
    rw [hp] at h
    rcases res with err | ⟨_ | ru, uuid⟩
    · cases h; simp [putAll, slotEmissions, emissionOf, hp]
    · cases h; simp [putAll, slotEmissions, emissionOf, hp]
    · have hr : r = putRowUpdate acc w.jasonValueStr key.tableName uuid ru := by
        dsimp only at h
        split at h
        · obtain ⟨_, -, h⟩ := Option.bind_eq_some.mp h
          exact (Option.some.inj h).symm
        · exact (Option.some.inj h).symm
      simp [hr, putAll, slotEmissions, emissionOf, hp]

theorem foldlM_updaterStep {events : List Event} {ev : Event} {key : Key} :
    ∀ (slot : List Updater) (acc r : BatchUpdates),
      slot.foldlM (updaterStep events ev key) acc = some r →
        r = putAll acc (slotEmissions ev key slot)
  | [], acc, r, h => by cases h; rfl
  | w :: slot, acc, r, h => by
    rw [List.foldlM_cons] at h
    cases hw : updaterStep events ev key acc w with
    | none => simp [hw] at h
    | some b =>
      rw [hw, Option.bind_eq_bind, Option.some_bind] at h
      rw [foldlM_updaterStep slot b r h, updaterStep_eq hw, slotEmissions_cons ev key w slot,
        putAll_append]

theorem eventStep_eq {k2u : Key2Updaters} {events : List Event} {acc r : BatchUpdates}
    {ev : Event} (h : eventStep k2u events acc ev = some r) :
    r = putAll acc (eventEmissions k2u ev) := by
  unfold eventStep at h
  unfold eventEmissions
  cases hkv : ev.kv with
  | none => rw [hkv] at h; cases h; rfl
  | some kv =>
    rw [hkv] at h
    dsimp only at h ⊢
    cases hk : parseKey kv.key with
    | error e => rw [hk] at h; cases h; rfl
    | ok key =>
      rw [hk] at h
      dsimp only at h ⊢
      cases hl : k2u.lookup key.toTableKey with
      | none => rw [hl] at h; cases h; rfl
      | some slot => rw [hl] at h; exact foldlM_updaterStep slot acc r h

theorem foldlM_eventStep (k2u : Key2Updaters) (events : List Event) :
    ∀ (evs : List Event) (acc r : BatchUpdates),
      evs.foldlM (eventStep k2u events) acc = some r → r = putAll acc (batchEmissions k2u evs)
  | [], acc, r, h => by cases h; rfl
  | ev :: evs, acc, r, h => by
    rw [List.foldlM_cons] at h
    cases he : eventStep k2u events acc ev with
    | none => simp [he] at h
    | some b =>
      rw [he, Option.bind_eq_bind, Option.some_bind] at h
      rw [foldlM_eventStep k2u events evs b r h, eventStep_eq he, batchEmissions, batchEmissions,
        List.flatMap_cons, putAll_append]

/-- **When it returns, `prepareTableUpdate` puts the emissions in order.** -/
theorem prepareTableUpdate_eq {m : DbMonitor} {events : List Event} {res : BatchUpdates}
    (h : m.prepareTableUpdate events = some res) :
    res = putAll ∅ (batchEmissions m.key2Updaters events) :=
  foldlM_eventStep m.key2Updaters events events ∅ res h

/-! ### Reading the result -/

theorem lookupRowUpdate_eq_getD (r : BatchUpdates) (j t u : String) :
    lookupRowUpdate r j t u = ((((r.lookup j).getD ∅).lookup t).getD ∅).lookup u := by
  unfold lookupRowUpdate
  cases r.lookup j with
  | none => rfl
  | some tus =>
    rw [Option.some_bind, Option.getD_some]
    cases tus.lookup t <;> rfl

theorem lookupRowUpdate_putRowUpdate (r : BatchUpdates) (j t u j' t' u' : String)
    (ru : RowUpdate) :
    lookupRowUpdate (putRowUpdate r j t u ru) j' t' u' =
      if j' = j ∧ t' = t ∧ u' = u then some ru else lookupRowUpdate r j' t' u' := by
  rw [lookupRowUpdate_eq_getD, lookupRowUpdate_eq_getD]
  unfold putRowUpdate
  by_cases hj : j' = j
  · subst hj
    by_cases ht : t' = t
    · subst ht; by_cases hu : u' = u <;> simp [GoMap.lookup_insert, hu]
    · simp [GoMap.lookup_insert, ht]
  · simp [GoMap.lookup_insert, hj]

theorem lookupRowUpdate_putAll (j t u : String) :
    ∀ (es : List Emission) (acc : BatchUpdates),
      lookupRowUpdate (putAll acc es) j t u =
        (((es.filter fun e => decide (e.Targets j t u)).getLast?.map (·.rowUpdate)).or
          (lookupRowUpdate acc j t u))
  | [], _ => rfl
  | e :: es, acc => by
    rw [putAll, List.foldl_cons, ← putAll, lookupRowUpdate_putAll j t u es,
      lookupRowUpdate_putRowUpdate]
    by_cases he : e.Targets j t u
    · have he' : j = e.jsonValue ∧ t = e.tableName ∧ u = e.uuid := by
        obtain ⟨h₁, h₂, h₃⟩ := he; exact ⟨h₁.symm, h₂.symm, h₃.symm⟩
      rw [if_pos he', List.filter_cons_of_pos (by simpa using he), List.getLast?_cons]
      cases (es.filter fun e => decide (e.Targets j t u)).getLast? <;> rfl
    · have he' : ¬(j = e.jsonValue ∧ t = e.tableName ∧ u = e.uuid) := by
        rintro ⟨h₁, h₂, h₃⟩; exact he ⟨h₁.symm, h₂.symm, h₃.symm⟩
      rw [if_neg he', List.filter_cons_of_neg (by simpa using he)]

theorem lookupRowUpdate_empty (j t u : String) : lookupRowUpdate ∅ j t u = none := rfl

theorem emissionOf_eq_some {ev : Event} {key : Key} {w : Updater} {e : Emission} :
    emissionOf ev key w = some e ↔
      key.tableName = e.tableName ∧ w.jasonValueStr = e.jsonValue ∧
        w.prepareRowUpdate ev = some (.ok (some e.rowUpdate, e.uuid)) := by
  unfold emissionOf
  constructor
  · intro h
    split at h
    · cases h; exact ⟨rfl, rfl, by assumption⟩
    · cases h
  · rintro ⟨ht, hj, hp⟩
    rw [hp, hj, ht]

theorem mem_slotEmissions {ev : Event} {key : Key} {slot : List Updater} {e : Emission} :
    e ∈ slotEmissions ev key slot ↔ key.tableName = e.tableName ∧
      ∃ w ∈ slot, w.jasonValueStr = e.jsonValue ∧
        w.prepareRowUpdate ev = some (.ok (some e.rowUpdate, e.uuid)) := by
  unfold slotEmissions
  rw [List.mem_filterMap]
  constructor
  · rintro ⟨w, hw, hwe⟩
    obtain ⟨ht, hj, hp⟩ := emissionOf_eq_some.mp hwe
    exact ⟨ht, w, hw, hj, hp⟩
  · rintro ⟨ht, w, hw, hj, hp⟩
    exact ⟨w, hw, emissionOf_eq_some.mpr ⟨ht, hj, hp⟩⟩

/-- **The emissions of a batch**: an event of the batch with a `Kv` whose key parses, and an
updater of its table key's slot whose `prepareRowUpdate` returns the row update and uuid. -/
theorem mem_batchEmissions {k2u : Key2Updaters} {events : List Event} {e : Emission} :
    e ∈ batchEmissions k2u events ↔
      ∃ ev ∈ events, ∃ kv key, ev.kv = some kv ∧ parseKey kv.key = .ok key ∧
        key.tableName = e.tableName ∧ ∃ w ∈ (k2u.lookup key.toTableKey).getD [],
          w.jasonValueStr = e.jsonValue ∧
            w.prepareRowUpdate ev = some (.ok (some e.rowUpdate, e.uuid)) := by
  unfold batchEmissions
  rw [List.mem_flatMap]
  refine exists_congr fun ev => and_congr_right fun _ => ?_
  unfold eventEmissions
  cases hkv : ev.kv with
  | none => simp only [List.not_mem_nil, reduceCtorEq, false_and, exists_false]
  | some kv =>
    simp only [Option.some.injEq, exists_and_left, exists_eq_left']
    cases hk : parseKey kv.key with
    | error err => simp only [hk, List.not_mem_nil, reduceCtorEq, false_and, exists_false]
    | ok key => simp only [hk, mem_slotEmissions, Except.ok.injEq, exists_eq_left']

/-! ### No empty inner maps -/

/-- No json-value maps to an empty `TableUpdates` and no table to an empty `TableUpdate`. -/
def NoEmptyMaps (r : BatchUpdates) : Prop :=
  ∀ j tus, r.lookup j = some tus →
    tus.entries ≠ [] ∧ ∀ t tu, tus.lookup t = some tu → tu.entries ≠ []

theorem putRowUpdate_noEmptyMaps {r : BatchUpdates} (h : NoEmptyMaps r) (j t u : String)
    (ru : RowUpdate) : NoEmptyMaps (putRowUpdate r j t u ru) := by
  intro j' tus' hj'
  unfold putRowUpdate at hj'
  rw [GoMap.lookup_insert] at hj'
  split_ifs at hj' with hj
  · cases hj'
    refine ⟨GoMap.entries_ne_nil_of_lookup (GoMap.lookup_insert_self _ _ _),
      fun t' tu' ht' => ?_⟩
    rw [GoMap.lookup_insert] at ht'
    split_ifs at ht'
    · cases ht'; exact GoMap.entries_ne_nil_of_lookup (GoMap.lookup_insert_self _ _ _)
    · cases hr : r.lookup j with
      | none => rw [hr] at ht'; cases ht'
      | some tus => rw [hr] at ht'; exact (h j tus hr).2 t' tu' ht'
  · exact h j' tus' hj'

theorem putAll_noEmptyMaps : ∀ (es : List Emission) {acc : BatchUpdates}, NoEmptyMaps acc →
    NoEmptyMaps (putAll acc es)
  | [], _, h => h
  | _ :: es, _, h => putAll_noEmptyMaps es (putRowUpdate_noEmptyMaps h _ _ _ _)

/-! ### Locality to a json-value -/

theorem slotEmissions_filter (ev : Event) (key : Key) (j : String) :
    ∀ slot : List Updater, (slotEmissions ev key slot).filter (fun e => e.jsonValue = j) =
      slotEmissions ev key (slot.filter fun w => w.jasonValueStr = j)
  | [] => rfl
  | w :: slot => by
    have ih := slotEmissions_filter ev key j slot
    unfold slotEmissions at ih ⊢
    rw [List.filter_cons]
    cases he : emissionOf ev key w with
    | none =>
      rw [List.filterMap_cons_none he]
      split_ifs
      · rw [List.filterMap_cons_none he, ih]
      · exact ih
    | some e =>
      have hj : e.jsonValue = w.jasonValueStr := (emissionOf_eq_some.mp he).2.1.symm
      rw [List.filterMap_cons_some he, List.filter_cons, hj]
      split_ifs
      · rw [List.filterMap_cons_some he, ih]
      · exact ih

theorem batchEmissions_filter (k2u k2u' : Key2Updaters) (events : List Event) (j : String)
    (h : ∀ k, ((k2u.lookup k).getD []).filter (fun w => w.jasonValueStr = j) =
      ((k2u'.lookup k).getD []).filter (fun w => w.jasonValueStr = j)) :
    (batchEmissions k2u events).filter (fun e => e.jsonValue = j) =
      (batchEmissions k2u' events).filter (fun e => e.jsonValue = j) := by
  unfold batchEmissions
  rw [List.filter_flatMap, List.filter_flatMap]
  congr 1
  funext ev
  unfold eventEmissions
  split
  · rfl
  · split
    · rfl
    · rw [slotEmissions_filter, slotEmissions_filter, h]

theorem lookup_putRowUpdate_of_ne {r : BatchUpdates} {j j' : String} (h : j' ≠ j) (t u : String)
    (ru : RowUpdate) : (putRowUpdate r j t u ru).lookup j' = r.lookup j' :=
  GoMap.lookup_insert_of_ne _ _ h

theorem lookup_putAll_congr (j : String) : ∀ (es : List Emission) {acc acc' : BatchUpdates},
    acc.lookup j = acc'.lookup j → (putAll acc es).lookup j = (putAll acc' es).lookup j
  | [], _, _, h => h
  | e :: es, acc, acc', h => by
    refine lookup_putAll_congr j es ?_
    by_cases hj : j = e.jsonValue
    · subst hj; simp only [putRowUpdate, GoMap.lookup_insert_self, h]
    · rw [lookup_putRowUpdate_of_ne hj, lookup_putRowUpdate_of_ne hj, h]

theorem lookup_putAll_filter (j : String) : ∀ (es : List Emission) (acc : BatchUpdates),
    (putAll acc es).lookup j = (putAll acc (es.filter fun e => e.jsonValue = j)).lookup j
  | [], _ => rfl
  | e :: es, acc => by
    rw [putAll, List.foldl_cons, ← putAll, lookup_putAll_filter j es, List.filter_cons]
    split_ifs with hj
    · rfl
    · exact lookup_putAll_congr j _ (lookup_putRowUpdate_of_ne (by simpa [eq_comm] using hj) _ _ _)

/-! ### The result of a batch -/

/-- What a result `res` of `prepareTableUpdate` on monitor `m` and batch `events` satisfies. -/
structure TableUpdateSpec (m : DbMonitor) (events : List Event) (res : BatchUpdates) : Prop where
  /-- `res[j][t][u]` is present exactly when an event of the batch whose key parses to table
  `t` has, in its table key's slot, an updater of `j` returning a row update with uuid `u` -/
  present_iff : ∀ j t u, (lookupRowUpdate res j t u).isSome ↔
    ∃ ev ∈ events, ∃ kv key, ev.kv = some kv ∧ parseKey kv.key = .ok key ∧
      key.tableName = t ∧ ∃ w ∈ (m.key2Updaters.lookup key.toTableKey).getD [],
        w.jasonValueStr = j ∧
          ∃ rowUpdate, w.prepareRowUpdate ev = some (.ok (some rowUpdate, u))
  /-- it is the row update of the last such pair, in batch order then slot order -/
  last_wins : ∀ j t u, lookupRowUpdate res j t u =
    ((batchEmissions m.key2Updaters events).filter fun e => decide (e.Targets j t u)).getLast?.map
      (·.rowUpdate)
  /-- no `res[j]` and no `res[j][t]` is empty -/
  no_empty : NoEmptyMaps res
  /-- `res[j]` depends only on the updaters of json-value `j` -/
  local_to_jsonValue : ∀ j (m' : DbMonitor) res',
    (∀ k, ((m.key2Updaters.lookup k).getD []).filter (fun w => w.jasonValueStr = j) =
      ((m'.key2Updaters.lookup k).getD []).filter (fun w => w.jasonValueStr = j)) →
    m'.prepareTableUpdate events = some res' → res.lookup j = res'.lookup j

theorem lookupRowUpdate_prepareTableUpdate {m : DbMonitor} {events : List Event}
    {res : BatchUpdates} (h : m.prepareTableUpdate events = some res) (j t u : String) :
    lookupRowUpdate res j t u =
      ((batchEmissions m.key2Updaters events).filter fun e => decide (e.Targets j t u)).getLast?.map
        (·.rowUpdate) := by
  rw [prepareTableUpdate_eq h, lookupRowUpdate_putAll, lookupRowUpdate_empty, Option.or_none]

theorem isSome_lookupRowUpdate_prepareTableUpdate {m : DbMonitor} {events : List Event}
    {res : BatchUpdates} (h : m.prepareTableUpdate events = some res) (j t u : String) :
    (lookupRowUpdate res j t u).isSome ↔
      ∃ ev ∈ events, ∃ kv key, ev.kv = some kv ∧ parseKey kv.key = .ok key ∧
        key.tableName = t ∧ ∃ w ∈ (m.key2Updaters.lookup key.toTableKey).getD [],
          w.jasonValueStr = j ∧
            ∃ rowUpdate, w.prepareRowUpdate ev = some (.ok (some rowUpdate, u)) := by
  rw [lookupRowUpdate_prepareTableUpdate h, Option.isSome_map', List.getLast?_isSome, ne_eq,
    List.filter_eq_nil_iff]
  push_neg
  simp only [decide_eq_true_eq]
  constructor
  · rintro ⟨e, he, ⟨rfl, rfl, rfl⟩⟩
    obtain ⟨ev, hev, kv, key, hkv, hk, ht, w, hw, hj, hp⟩ := mem_batchEmissions.mp he
    exact ⟨ev, hev, kv, key, hkv, hk, ht, w, hw, hj, e.rowUpdate, hp⟩
  · rintro ⟨ev, hev, kv, key, hkv, hk, ht, w, hw, hj, ru, hp⟩
    exact ⟨⟨j, t, u, ru⟩,
      mem_batchEmissions.mpr ⟨ev, hev, kv, key, hkv, hk, ht, w, hw, hj, hp⟩,
      by simp [Emission.Targets]⟩

theorem lookup_prepareTableUpdate_congr {m m' : DbMonitor} {events : List Event}
    {res res' : BatchUpdates} (j : String)
    (hslots : ∀ k, ((m.key2Updaters.lookup k).getD []).filter (fun w => w.jasonValueStr = j) =
      ((m'.key2Updaters.lookup k).getD []).filter (fun w => w.jasonValueStr = j))
    (h : m.prepareTableUpdate events = some res) (h' : m'.prepareTableUpdate events = some res') :
    res.lookup j = res'.lookup j := by
  rw [prepareTableUpdate_eq h, prepareTableUpdate_eq h', lookup_putAll_filter,
    lookup_putAll_filter j (batchEmissions m'.key2Updaters events),
    batchEmissions_filter _ _ events j hslots]

/-- **`prepareTableUpdate` is correct whenever it returns.** -/
theorem prepareTableUpdate_correct (m : DbMonitor) (events : List Event) (res : BatchUpdates)
    (h : m.prepareTableUpdate events = some res) : TableUpdateSpec m events res where
  present_iff := isSome_lookupRowUpdate_prepareTableUpdate h
  last_wins := lookupRowUpdate_prepareTableUpdate h
  no_empty := prepareTableUpdate_eq h ▸ putAll_noEmptyMaps _ (fun _ _ h => by cases h)
  local_to_jsonValue _ _ _ hslots h' := lookup_prepareTableUpdate_congr _ hslots h h'

/-- A monitor with one updater receiving a create event returns its row update. -/
theorem prepareTableUpdate_correct_create :
    ((newMonitor "db").addUpdaters (AList.singleton (newTableKey ["ovsdb", "nb"] "db" "T")
        [mcrToUpdater {} "j" ⟨[]⟩ true])).prepareTableUpdate
      [{ type := .put, prevKv := none,
         kv := some ⟨["ovsdb", "nb", "db", "T", "U1"], 1, 1,
           some (.object [("_uuid", .array [.string "uuid", .string "U1"]),
             ("c", .number 1)])⟩ }] =
      some (AList.singleton "j" (AList.singleton "T" (AList.singleton "U1"
        { new := some (AList.singleton "c" (.json (.number 1))) }))) ∧
    TableUpdateSpec
      ((newMonitor "db").addUpdaters (AList.singleton (newTableKey ["ovsdb", "nb"] "db" "T")
        [mcrToUpdater {} "j" ⟨[]⟩ true]))
      [{ type := .put, prevKv := none,
         kv := some ⟨["ovsdb", "nb", "db", "T", "U1"], 1, 1,
           some (.object [("_uuid", .array [.string "uuid", .string "U1"]), ("c", .number 1)])⟩ }]
      (AList.singleton "j" (AList.singleton "T" (AList.singleton "U1"
        { new := some (AList.singleton "c" (.json (.number 1))) }))) :=
  ⟨by decide, prepareTableUpdate_correct _ _ _ (by decide)⟩

/-! ### Panics -/

theorem prepareCreateRowUpdate_isSome (u : Updater) {ev : Event} (h : ev.kv.isSome) :
    (u.prepareCreateRowUpdate ev).isSome := by
  unfold Updater.prepareCreateRowUpdate
  split_ifs <;> simp [h]

theorem prepareDeleteRowUpdate_isSome (u : Updater) {ev : Event} (h : ev.prevKv.isSome) :
    (u.prepareDeleteRowUpdate ev).isSome := by
  unfold Updater.prepareDeleteRowUpdate
  split_ifs <;> simp [h]

theorem prepareModifyRowUpdate_isSome (u : Updater) {ev : Event} {kv : KeyValue}
    (hkv : ev.kv = some kv) (h : ev.prevKv.isSome) : (u.prepareModifyRowUpdate ev).isSome := by
  unfold Updater.prepareModifyRowUpdate
  rw [hkv]
  by_cases hm : (!msIsTrue u.select.modify) = true
  · rw [if_pos hm]; rfl
  · rw [if_neg hm]
    dsimp only
    split <;> simp [h]

/-- **`prepareRowUpdate` does not panic on an event with a `Kv` that meets the contract**: the
only panic of `prepareTableUpdate` is its duplicate log. -/
theorem prepareRowUpdate_isSome (u : Updater) {ev : Event} {kv : KeyValue}
    (hkv : ev.kv = some kv) (hc : ev.MeetsContract) : (u.prepareRowUpdate ev).isSome := by
  obtain ⟨hdel, hput⟩ := hc
  unfold Updater.prepareRowUpdate Event.isModify Event.isCreate
  cases hty : ev.type with
  | put =>
    have hprev := hput kv hkv hty
    by_cases hrev : kv.createRevision = kv.modRevision
    · simp [hkv, hrev, prepareCreateRowUpdate_isSome u (by simp [hkv] : ev.kv.isSome)]
    · have : ev.prevKv.isSome := by
        cases hp : ev.prevKv
        · exact absurd (hprev.mpr hp) hrev
        · rfl
      simp [hkv, hrev, prepareModifyRowUpdate_isSome u hkv this]
  | delete => simp [prepareDeleteRowUpdate_isSome u (hdel hty)]

/-- One monitor with two condition requests on a table (every column, and column `c`)
receiving a create event: both updaters yield uuid `U1`, and the duplicate log dereferences
the create's nil `PrevKv`. -/
theorem prepareTableUpdate_duplicate_create_panics :
    ((newMonitor "db").addUpdaters (AList.singleton (newTableKey ["ovsdb", "nb"] "db" "T")
        [mcrToUpdater {} "j" ⟨[]⟩ true, mcrToUpdater { columns := ["c"] } "j" ⟨[]⟩ true])
      ).prepareTableUpdate
      [{ type := .put, prevKv := none,
         kv := some ⟨["ovsdb", "nb", "db", "T", "U1"], 1, 1,
           some (.object [("_uuid", .array [.string "uuid", .string "U1"]),
             ("c", .number 1)])⟩ }] =
      none := by
  decide

/-! ### Exactly when it panics -/

/-- The iterations of `prepareTableUpdate`'s inner loop, in batch order then slot order: each
event with a `Kv` whose key parses, with its key and each updater of its table key's slot. -/
def batchSteps (k2u : Key2Updaters) (events : List Event) : List (Event × Key × Updater) :=
  events.flatMap fun ev =>
    match ev.kv with
    | none => []
    | some kv =>
      match parseKey kv.key with
      | .error _ => []
      | .ok key => ((k2u.lookup key.toTableKey).getD []).map fun w => (ev, key, w)

/-- The row update one iteration yields, if any. -/
def stepEmission (s : Event × Key × Updater) : Option Emission := emissionOf s.1 s.2.1 s.2.2

theorem mem_batchSteps {k2u : Key2Updaters} {events : List Event} {s : Event × Key × Updater}
    (h : s ∈ batchSteps k2u events) : s.1 ∈ events ∧ s.1.kv.isSome := by
  obtain ⟨ev, hev, hs⟩ := List.mem_flatMap.mp h
  split at hs
  · cases hs
  · split at hs
    · cases hs
    · obtain ⟨w, -, rfl⟩ := List.mem_map.mp hs
      simp [hev, *]

theorem batchEmissions_eq_filterMap (k2u : Key2Updaters) (events : List Event) :
    batchEmissions k2u events = (batchSteps k2u events).filterMap stepEmission := by
  unfold batchEmissions batchSteps
  rw [List.filterMap_flatMap]
  congr 1
  funext ev
  unfold eventEmissions
  split
  · rfl
  · split
    · rfl
    · simp [slotEmissions, stepEmission, List.filterMap_map, Function.comp_def]

theorem eventStep_eq_foldlM (k2u : Key2Updaters) (events : List Event) (acc : BatchUpdates)
    (ev : Event) : eventStep k2u events acc ev =
      (batchSteps k2u [ev]).foldlM (fun acc s => updaterStep events s.1 s.2.1 acc s.2.2) acc := by
  unfold eventStep batchSteps
  rw [List.flatMap_singleton]
  rcases ev.kv with _ | kv
  · rfl
  · dsimp only
    rcases parseKey kv.key with _ | key
    · rfl
    · dsimp only
      split <;> simp [*, List.foldlM_map]

theorem foldlM_eventStep_eq_foldlM (k2u : Key2Updaters) (events : List Event) :
    ∀ (evs : List Event) (acc : BatchUpdates), evs.foldlM (eventStep k2u events) acc =
      (batchSteps k2u evs).foldlM (fun acc s => updaterStep events s.1 s.2.1 acc s.2.2) acc
  | [], _ => rfl
  | ev :: evs, acc => by
    have hsteps : batchSteps k2u (ev :: evs) = batchSteps k2u [ev] ++ batchSteps k2u evs := by
      simp only [batchSteps, List.flatMap_cons, List.flatMap_nil, List.append_nil]
    rw [List.foldlM_cons, hsteps, List.foldlM_append, eventStep_eq_foldlM]
    simp only [foldlM_eventStep_eq_foldlM k2u events evs]

/-- One iteration either panics or puts its emission. -/
theorem updaterStep_cases (events : List Event) (ev : Event) (key : Key) (acc : BatchUpdates)
    (w : Updater) : updaterStep events ev key acc w = none ∨
      updaterStep events ev key acc w = some (putAll acc (slotEmissions ev key [w])) := by
  cases h : updaterStep events ev key acc w with
  | none => exact .inl rfl
  | some r => exact .inr (congrArg some (updaterStep_eq h))

/-- One iteration panics exactly when `prepareRowUpdate` does, or when its row update collides
with one already in the result and the duplicate log panics. -/
theorem updaterStep_eq_none_iff {events : List Event} {ev : Event} {key : Key}
    {acc : BatchUpdates} {w : Updater} :
    updaterStep events ev key acc w = none ↔ w.prepareRowUpdate ev = none ∨
      ∃ e, emissionOf ev key w = some e ∧
        (lookupRowUpdate acc e.jsonValue e.tableName e.uuid).isSome ∧ logEvents events = none := by
  unfold updaterStep emissionOf
  rcases w.prepareRowUpdate ev with _ | _ | ⟨_ | ru, uuid⟩
  · simp
  · simp
  · simp
  · cases logEvents events <;> simp [Option.ne_none_iff_isSome]

/-- The duplicate log panics exactly when an event of the batch lacks `Kv` or `PrevKv`. -/
theorem logEvents_eq_none_iff (events : List Event) :
    logEvents events = none ↔ ∃ ev ∈ events, ev.kv = none ∨ ev.prevKv = none := by
  unfold logEvents
  induction events with
  | nil => simp
  | cons ev events ih =>
    cases hk : ev.kv <;> cases hp : ev.prevKv <;> simp_all [List.forM]

theorem foldl_putAll_steps : ∀ (l : List (Event × Key × Updater)) (acc : BatchUpdates),
    l.foldl (fun acc s => putAll acc (slotEmissions s.1 s.2.1 [s.2.2])) acc =
      putAll acc (l.filterMap stepEmission)
  | [], _ => rfl
  | s :: l, acc => by
    rw [List.foldl_cons, foldl_putAll_steps l, ← putAll_append]
    cases h : stepEmission s <;>
      simp_all [slotEmissions, stepEmission, List.filterMap_cons]

theorem isSome_lookupRowUpdate_putAll (es : List Emission) (j t u : String) :
    (lookupRowUpdate (putAll ∅ es) j t u).isSome ↔ ∃ e ∈ es, e.Targets j t u := by
  rw [lookupRowUpdate_putAll, lookupRowUpdate_empty, Option.or_none, Option.isSome_map',
    List.getLast?_isSome, ne_eq, List.filter_eq_nil_iff]
  simp

/-- `prepareTableUpdate` panics exactly at the first iteration of its inner loop that panics. -/
theorem prepareTableUpdate_eq_none_iff_steps (m : DbMonitor) (events : List Event) :
    m.prepareTableUpdate events = none ↔
      ∃ l₁ s l₂, batchSteps m.key2Updaters events = l₁ ++ s :: l₂ ∧
        (s.2.2.prepareRowUpdate s.1 = none ∨
          ∃ e, stepEmission s = some e ∧
            (∃ e' ∈ l₁.filterMap stepEmission, e'.Targets e.jsonValue e.tableName e.uuid) ∧
              logEvents events = none) := by
  rw [DbMonitor.prepareTableUpdate, foldlM_eventStep_eq_foldlM,
    Option.foldlM_eq_none_iff fun b (s : Event × Key × Updater) =>
      updaterStep_cases events s.1 s.2.1 b s.2.2]
  simp only [updaterStep_eq_none_iff, foldl_putAll_steps, isSome_lookupRowUpdate_putAll]
  rfl

/-- **Exactly when `prepareTableUpdate` panics**: some updater's `prepareRowUpdate` panics on an
event of the batch, or two row updates of the batch are for the same json-value, table and uuid
and an event of the batch lacks `Kv` or `PrevKv`, which the duplicate log dereferences. -/
theorem prepareTableUpdate_eq_none_iff (m : DbMonitor) (events : List Event) :
    m.prepareTableUpdate events = none ↔
      (∃ s ∈ batchSteps m.key2Updaters events, s.2.2.prepareRowUpdate s.1 = none) ∨
        ((∃ ev ∈ events, ev.kv = none ∨ ev.prevKv = none) ∧
          ∃ l₁ e l₂, batchEmissions m.key2Updaters events = l₁ ++ e :: l₂ ∧
            ∃ e' ∈ l₁, e'.Targets e.jsonValue e.tableName e.uuid) := by
  rw [prepareTableUpdate_eq_none_iff_steps, batchEmissions_eq_filterMap, ← logEvents_eq_none_iff]
  constructor
  · rintro ⟨l₁, s, l₂, hs, hp | ⟨e, he, ⟨e', he', ht⟩, hlog⟩⟩
    · exact .inl ⟨s, hs ▸ List.mem_append_right _ (List.mem_cons_self _ _), hp⟩
    · refine .inr ⟨hlog, l₁.filterMap stepEmission, e, l₂.filterMap stepEmission, ?_, e', he', ht⟩
      rw [hs, List.filterMap_append, List.filterMap_cons_some he]
  · rintro (⟨s, hs, hp⟩ | ⟨hlog, L₁, e, L₂, hL, e', he', ht⟩)
    · obtain ⟨l₁, l₂, hs⟩ := List.append_of_mem hs
      exact ⟨l₁, s, l₂, hs, .inl hp⟩
    · obtain ⟨l₁, l₂, hl, rfl, hl₂⟩ := List.filterMap_eq_append_iff.mp hL
      obtain ⟨p, s, q, rfl, hp, hs, -⟩ := List.filterMap_eq_cons_iff.mp hl₂
      refine ⟨l₁ ++ p, s, q, by rw [hl, List.append_assoc], .inr ⟨e, hs, ⟨e', ?_, ht⟩, hlog⟩⟩
      rwa [List.filterMap_append, List.filterMap_eq_nil_iff.mpr hp, List.append_nil]

/-- **On events that meet the backing-store contract, `prepareTableUpdate` panics exactly when
two row updates of the batch are for the same json-value, table and uuid and an event of the
batch lacks `Kv` or `PrevKv`**, as a create does. -/
theorem prepareTableUpdate_panics_iff (m : DbMonitor) {events : List Event}
    (hc : ∀ ev ∈ events, ev.MeetsContract) :
    m.prepareTableUpdate events = none ↔
      (∃ ev ∈ events, ev.kv = none ∨ ev.prevKv = none) ∧
        ∃ l₁ e l₂, batchEmissions m.key2Updaters events = l₁ ++ e :: l₂ ∧
          ∃ e' ∈ l₁, e'.Targets e.jsonValue e.tableName e.uuid := by
  rw [prepareTableUpdate_eq_none_iff, or_iff_right]
  rintro ⟨s, hs, hp⟩
  obtain ⟨hev, hkv⟩ := mem_batchSteps hs
  obtain ⟨kv, hkv⟩ := Option.isSome_iff_exists.mp hkv
  simpa [hp] using prepareRowUpdate_isSome s.2.2 hkv (hc s.1 hev)

/-- A create of row `U1` of table `T`. -/
def createU1 : Event :=
  { type := .put, prevKv := none,
    kv := some ⟨["ovsdb", "nb", "db", "T", "U1"], 1, 1,
      some (.object [("_uuid", .array [.string "uuid", .string "U1"]), ("c", .number 1)])⟩ }

/-- Two condition requests of json-value `j` on table `T`: every column, and column `c`. -/
def twoConditionsMonitor : DbMonitor :=
  (newMonitor "db").addUpdaters (AList.singleton (newTableKey ["ovsdb", "nb"] "db" "T")
    [mcrToUpdater {} "j" ⟨[]⟩ true, mcrToUpdater { columns := ["c"] } "j" ⟨[]⟩ true])

/-- Both requests select the created row: the create meets the contract and the batch panics. -/
theorem prepareTableUpdate_panics_iff_create :
    (∀ ev ∈ [createU1], ev.MeetsContract) ∧
      twoConditionsMonitor.prepareTableUpdate [createU1] = none := by
  have hc : ∀ ev ∈ [createU1], ev.MeetsContract := by simp [createU1, Event.MeetsContract]
  let e : Emission := ⟨"j", "T", "U1", { new := some (AList.singleton "c" (.json (.number 1))) }⟩
  exact ⟨hc, (prepareTableUpdate_panics_iff _ hc).mpr
    ⟨⟨_, List.mem_singleton_self _, .inr rfl⟩, [e], e, [], rfl, e, List.mem_singleton_self _,
      ⟨rfl, rfl, rfl⟩⟩⟩

end OvsdbMonitor
