import OvsdbMonitor.DbMonitor

/-!
# Laws of the monitor registry

* `addUpdaters_lookup`: `addUpdaters U` appends `U`'s list to each slot it names, creating the
  slot when it is missing; nothing is deduplicated.
* `removeUpdaters_lookup`: `removeUpdaters K j` replaces the slot of every key of `K` by
  `slotWithout` (the slot's updaters of other json-values, in order, or no slot when none is
  left) and leaves every other slot alone.
* `removeUpdaters_addUpdaters`: adding updaters that all carry a fresh json-value `j` and then
  removing `j` from their keys restores a registry with no empty slot.
* `SlotsWellFormed` (every slot non-empty and duplicate-free) is kept by `removeUpdaters` and
  `cancelDbMonitor`, and under it `hasUpdaters` says exactly that an updater is registered
  (`hasUpdaters_iff`).  `addUpdaters` breaks it in both ways: an empty list makes an empty slot
  (`addUpdaters_empty_slot`), and an updater already present is appended again.
* `cancelDbMonitor_notifies_once`: cancellation returns the json-value of every registered
  updater once, and empties the registry; from then on, until updaters are added, every batch
  is empty (`prepareTableUpdate_empty`).
-/

namespace OvsdbMonitor

namespace DbMonitor

/-! ### `addUpdaters` -/

theorem foldl_appendUpdater_lookup_of_ne {key k : Key} (h : k ≠ key) :
    ∀ (us : List Updater) (k2u : Key2Updaters),
      (us.foldl (fun k2u u => appendUpdater k2u key u) k2u).lookup k = k2u.lookup k
  | [], _ => rfl
  | u :: us, k2u => by
    rw [List.foldl_cons, foldl_appendUpdater_lookup_of_ne h us, appendUpdater,
      GoMap.lookup_insert, if_neg h]

theorem foldl_appendUpdater_lookup_self {key : Key} :
    ∀ (us : List Updater) (k2u : Key2Updaters), key ∈ k2u →
      (us.foldl (fun k2u u => appendUpdater k2u key u) k2u).lookup key =
        some ((k2u.lookup key).getD [] ++ us)
  | [], k2u, h => by
    obtain ⟨us, hus⟩ := Option.isSome_iff_exists.mp (AList.lookup_isSome.mpr h)
    simp [hus]
  | u :: us, k2u, _ => by
    rw [List.foldl_cons, foldl_appendUpdater_lookup_self us _ (by simp [appendUpdater])]
    simp [appendUpdater]

theorem addSlot_lookup (k2u : Key2Updaters) (key k : Key) (us : List Updater) :
    (addSlot k2u key us).lookup k =
      if k = key then some ((k2u.lookup key).getD [] ++ us) else k2u.lookup k := by
  have hmem : key ∈ (if key ∈ k2u then k2u else k2u.insert key []) := by
    split_ifs with h <;> simp [h]
  have hget : ((if key ∈ k2u then k2u else k2u.insert key []).lookup key).getD [] =
      (k2u.lookup key).getD [] := by
    split_ifs with h
    · rfl
    · simp [AList.lookup_eq_none.mpr h]
  dsimp only [addSlot]
  by_cases hk : k = key
  · subst hk; rw [if_pos rfl, foldl_appendUpdater_lookup_self us _ hmem, hget]
  · rw [if_neg hk, foldl_appendUpdater_lookup_of_ne hk]
    split_ifs <;> simp [GoMap.lookup_insert, hk]

theorem foldl_addSlot_lookup (k : Key) :
    ∀ (l : List (Σ _ : Key, List Updater)) (k2u : Key2Updaters), l.NodupKeys →
      (l.foldl (fun k2u s => addSlot k2u s.1 s.2) k2u).lookup k =
        match l.dlookup k with
        | none => k2u.lookup k
        | some us => some ((k2u.lookup k).getD [] ++ us)
  | [], _, _ => rfl
  | ⟨key, us⟩ :: l, k2u, hl => by
    rw [List.nodupKeys_cons] at hl
    rw [List.foldl_cons, foldl_addSlot_lookup k l _ hl.2]
    by_cases hk : k = key
    · subst hk
      rw [List.dlookup_cons_eq, List.dlookup_eq_none.mpr hl.1, addSlot_lookup, if_pos rfl]
    · rw [List.dlookup_cons_ne _ _ hk]
      cases l.dlookup k <;> simp [addSlot_lookup, hk]

/-- **`addUpdaters` appends.**  Each slot named by `U` gets `U`'s updaters appended, a missing
slot being created; deep-equal updaters already present are not skipped. -/
theorem addUpdaters_lookup (m : DbMonitor) (U : Key2Updaters) (k : Key) :
    (m.addUpdaters U).key2Updaters.lookup k =
      match U.lookup k with
      | none => m.key2Updaters.lookup k
      | some us => some ((m.key2Updaters.lookup k).getD [] ++ us) :=
  foldl_addSlot_lookup k U.entries m.key2Updaters U.nodupKeys

/-- An empty updater list for a table with no slot creates an empty slot. -/
theorem addUpdaters_empty_slot (m : DbMonitor) (k : Key) (hk : k ∉ m.key2Updaters) :
    (m.addUpdaters (AList.singleton k [])).key2Updaters.lookup k = some [] := by
  rw [addUpdaters_lookup, GoMap.lookup_singleton, if_pos rfl, AList.lookup_eq_none.mpr hk]; rfl

/-! ### `removeUpdaters` -/

/-- The slot `removeUpdaters` leaves of `slot` for `jsonValue`: the updaters of other
json-values in their order, or no slot when none is left. -/
def slotWithout (slot : Option (List Updater)) (jsonValue : String) : Option (List Updater) :=
  slot.bind fun us =>
    let rest := us.filter fun u => u.jasonValueStr != jsonValue
    if rest.length ≠ 0 then some rest else none

theorem slotWithout_some (us : List Updater) (j : String) :
    slotWithout (some us) j =
      if (us.filter fun u => u.jasonValueStr != j).length ≠ 0 then
        some (us.filter fun u => u.jasonValueStr != j)
      else none := rfl

theorem slotWithout_slotWithout (slot : Option (List Updater)) (j : String) :
    slotWithout (slotWithout slot j) j = slotWithout slot j := by
  cases slot with
  | none => rfl
  | some us =>
    rw [slotWithout_some]
    split_ifs with h
    · rw [slotWithout_some, List.filter_filter]; simp only [Bool.and_self, if_pos h]
    · rfl

theorem removeUpdaters_one_lookup (k2u : Key2Updaters) (key k : Key) (j : String) :
    (k2u.removeUpdaters key j).lookup k =
      if k = key then slotWithout (k2u.lookup key) j else k2u.lookup k := by
  unfold Key2Updaters.removeUpdaters
  by_cases hk : k = key
  · subst hk
    rw [if_pos rfl]
    cases h : k2u.lookup k with
    | none => exact h
    | some us =>
      dsimp only
      rw [slotWithout_some]
      split_ifs
      · exact GoMap.lookup_insert_self _ _ _
      · exact GoMap.lookup_erase_self _ _
  · rw [if_neg hk]
    cases k2u.lookup key with
    | none => rfl
    | some us =>
      dsimp only
      split_ifs
      · exact GoMap.lookup_insert_of_ne _ _ hk
      · exact GoMap.lookup_erase_of_ne _ hk

theorem foldl_removeUpdaters_lookup (j : String) (k : Key) :
    ∀ (keys : List Key) (k2u : Key2Updaters),
      (keys.foldl (fun k2u key => k2u.removeUpdaters key j) k2u).lookup k =
        if k ∈ keys then slotWithout (k2u.lookup k) j else k2u.lookup k
  | [], _ => rfl
  | key :: keys, k2u => by
    rw [List.foldl_cons, foldl_removeUpdaters_lookup j k keys, removeUpdaters_one_lookup]
    by_cases hk : k = key
    · subst hk; simp [slotWithout_slotWithout]
    · by_cases hmem : k ∈ keys <;> simp [hk, hmem]

/-- **`removeUpdaters` filters exactly the named slots.**  The slot of every key of `keys`
keeps its updaters of other json-values in order and disappears when none is left; every
other slot is untouched. -/
theorem removeUpdaters_lookup (m : DbMonitor) (keys : List Key) (j : String) (k : Key) :
    (m.removeUpdaters keys j).key2Updaters.lookup k =
      if k ∈ keys then slotWithout (m.key2Updaters.lookup k) j else m.key2Updaters.lookup k :=
  foldl_removeUpdaters_lookup j k keys m.key2Updaters

/-- **Round trip.**  Adding updaters that all carry `j` to a registry with no empty slot and no
updater of `j`, then removing `j` from their keys, gives back every slot. -/
theorem removeUpdaters_addUpdaters (m : DbMonitor) (U : Key2Updaters) (j : String)
    (hm : ∀ k us, m.key2Updaters.lookup k = some us →
      us ≠ [] ∧ ∀ u ∈ us, u.jasonValueStr ≠ j)
    (hU : ∀ k us, U.lookup k = some us → ∀ u ∈ us, u.jasonValueStr = j) (k : Key) :
    ((m.addUpdaters U).removeUpdaters U.keys j).key2Updaters.lookup k =
      m.key2Updaters.lookup k := by
  rw [removeUpdaters_lookup, addUpdaters_lookup]
  by_cases hk : k ∈ U.keys
  · obtain ⟨us, hus⟩ :=
      Option.isSome_iff_exists.mp (AList.lookup_isSome.mpr (AList.mem_keys.mpr hk))
    have hnew : (us.filter fun u => u.jasonValueStr != j) = [] :=
      List.filter_eq_nil_iff.mpr fun u hu => by simp [hU k us hus u hu]
    rw [if_pos hk, hus]
    cases hold : m.key2Updaters.lookup k with
    | none => simp only [Option.getD_none, List.nil_append, slotWithout_some, hnew]; rfl
    | some old =>
      have hkeep : (old.filter fun u => u.jasonValueStr != j) = old :=
        List.filter_eq_self.mpr fun u hu => by simp [(hm k old hold).2 u hu]
      rw [Option.getD_some, slotWithout_some, List.filter_append, hnew, List.append_nil, hkeep,
        if_pos (by simpa using (hm k old hold).1)]
  · rw [if_neg hk, AList.lookup_eq_none.mpr (fun h => hk (AList.mem_keys.mp h))]

/-- **The round trip fails on an empty slot**, which `addUpdaters` of an empty list creates:
adding an updater of `j` to it and removing `j` again deletes the slot.  `removeUpdaters` itself
filters exactly the named slots, and the round trip holds on every registry without an empty
slot. -/
theorem removeUpdaters_addUpdaters_empty_slot (dbName : String) (k : Key) (u : Updater) :
    (((newMonitor dbName).addUpdaters (AList.singleton k [])).key2Updaters.lookup k = some [] ∧
      ((((newMonitor dbName).addUpdaters (AList.singleton k [])).addUpdaters
        (AList.singleton k [u])).removeUpdaters (AList.singleton k [u] : Key2Updaters).keys
          u.jasonValueStr).key2Updaters.lookup k = none) ∧
    (∀ (m : DbMonitor) (keys : List Key) (j : String) (k : Key),
      (m.removeUpdaters keys j).key2Updaters.lookup k =
        if k ∈ keys then slotWithout (m.key2Updaters.lookup k) j else m.key2Updaters.lookup k) ∧
    ∀ (m : DbMonitor) (U : Key2Updaters) (j : String),
      (∀ k us, m.key2Updaters.lookup k = some us → us ≠ [] ∧ ∀ u ∈ us, u.jasonValueStr ≠ j) →
      (∀ k us, U.lookup k = some us → ∀ u ∈ us, u.jasonValueStr = j) →
      ∀ k, ((m.addUpdaters U).removeUpdaters U.keys j).key2Updaters.lookup k =
        m.key2Updaters.lookup k := by
  refine ⟨⟨addUpdaters_empty_slot _ k (by simp [newMonitor]), ?_⟩, removeUpdaters_lookup,
    removeUpdaters_addUpdaters⟩
  rw [removeUpdaters_lookup, AList.keys_singleton, if_pos (List.mem_singleton_self k),
    addUpdaters_lookup, addUpdaters_empty_slot _ k (by simp [newMonitor]),
    GoMap.lookup_singleton, if_pos rfl]
  simp [slotWithout]

/-! ### The slot invariant over runs -/

/-- Every slot is non-empty and holds no two deep-equal updaters. -/
def SlotsWellFormed (k2u : Key2Updaters) : Prop :=
  ∀ key us, k2u.lookup key = some us → us ≠ [] ∧ us.Nodup

theorem removeUpdaters_slotsWellFormed (m : DbMonitor) (keys : List Key) (j : String)
    (h : SlotsWellFormed m.key2Updaters) :
    SlotsWellFormed (m.removeUpdaters keys j).key2Updaters := by
  intro key us hus
  rw [removeUpdaters_lookup] at hus
  split_ifs at hus
  · cases hold : m.key2Updaters.lookup key with
    | none => simp [hold, slotWithout] at hus
    | some old =>
      rw [hold, slotWithout_some] at hus
      split_ifs at hus with hne
      cases hus
      exact ⟨fun h0 => hne (by rw [h0]; rfl), (h key old hold).2.filter _⟩
  · exact h key us hus

theorem cancelDbMonitor_slotsWellFormed (m : DbMonitor) :
    SlotsWellFormed m.cancelDbMonitor.1.key2Updaters := by
  intro key us hus
  cases hus

/-- **`hasUpdaters` under the slot invariant**: it is true exactly when some updater is
registered. -/
theorem hasUpdaters_iff (m : DbMonitor) (h : SlotsWellFormed m.key2Updaters) :
    m.hasUpdaters = true ↔ ∃ key us u, m.key2Updaters.lookup key = some us ∧ u ∈ us := by
  constructor
  · intro hpos
    obtain ⟨⟨key, us⟩, hmem⟩ := List.exists_mem_of_length_pos (of_decide_eq_true hpos)
    have hlook : m.key2Updaters.lookup key = some us := AList.mem_lookup_iff.mpr hmem
    obtain ⟨u, hu⟩ := List.exists_mem_of_ne_nil us (h key us hlook).1
    exact ⟨key, us, u, hlook, hu⟩
  · rintro ⟨key, us, u, hlook, -⟩
    have hmem : ⟨key, us⟩ ∈ m.key2Updaters.entries := AList.mem_lookup_iff.mp hlook
    exact decide_eq_true (List.length_pos_of_mem hmem)

/-- **`addUpdaters` breaks the slot invariant.**  Registering the same updater twice keeps both
copies in its slot.  `removeUpdaters` and `cancelDbMonitor` keep the invariant, and under it
`hasUpdaters` says exactly that an updater is registered. -/
theorem runOps_add_twice_duplicates (dbName : String) (k : Key) (u : Updater) :
    ((newMonitor dbName).runOps
      [.add (AList.singleton k [u] : Key2Updaters), .add (AList.singleton k [u] : Key2Updaters)]
      ).key2Updaters.lookup k = some [u, u] ∧
    (∀ (m : DbMonitor) (keys : List Key) (j : String), SlotsWellFormed m.key2Updaters →
      SlotsWellFormed (m.removeUpdaters keys j).key2Updaters) ∧
    (∀ m : DbMonitor, SlotsWellFormed m.cancelDbMonitor.1.key2Updaters) ∧
    ∀ m : DbMonitor, SlotsWellFormed m.key2Updaters →
      (m.hasUpdaters = true ↔ ∃ key us u, m.key2Updaters.lookup key = some us ∧ u ∈ us) := by
  refine ⟨?_, removeUpdaters_slotsWellFormed, cancelDbMonitor_slotsWellFormed, hasUpdaters_iff⟩
  simp only [runOps, List.foldl, applyOp, addUpdaters_lookup, GoMap.lookup_singleton, if_pos rfl]
  rfl

/-! ### Cancellation -/

theorem mem_cancelDbMonitor (m : DbMonitor) (j : String) :
    j ∈ m.cancelDbMonitor.2 ↔
      ∃ key us u, m.key2Updaters.lookup key = some us ∧ u ∈ us ∧ u.jasonValueStr = j := by
  have hslot : ∀ (us : List Updater) (jv : GoMap String String),
      j ∈ us.foldl (fun jv u => jv.insert u.jasonValueStr u.jasonValueStr) jv ↔
        j ∈ jv ∨ ∃ u ∈ us, j = u.jasonValueStr := by
    intro us
    induction us with
    | nil => simp only [List.foldl_nil, List.not_mem_nil, false_and, exists_false, or_false,
        implies_true]
    | cons u us ih =>
      intro jv
      rw [List.foldl_cons, ih, AList.mem_insert]
      simp only [List.mem_cons, exists_eq_or_imp]
      rw [or_assoc, or_left_comm]
  have hslots : ∀ (l : List (Σ _ : Key, List Updater)) (jv : GoMap String String),
      j ∈ l.foldl (fun jv s =>
        s.2.foldl (fun jv u => jv.insert u.jasonValueStr u.jasonValueStr) jv) jv ↔
        j ∈ jv ∨ ∃ s ∈ l, ∃ u ∈ s.2, j = u.jasonValueStr := by
    intro l
    induction l with
    | nil => simp only [List.foldl_nil, List.not_mem_nil, false_and, exists_false, or_false,
        implies_true]
    | cons s l ih =>
      intro jv
      rw [List.foldl_cons, ih, hslot]
      simp only [List.mem_cons, exists_eq_or_imp, or_assoc]
  refine (hslots m.key2Updaters.entries ∅).trans ?_
  simp only [AList.not_mem_empty, false_or]
  constructor
  · rintro ⟨⟨key, us⟩, hs, u, hu, rfl⟩
    exact ⟨key, us, u, AList.mem_lookup_iff.mpr hs, hu, rfl⟩
  · rintro ⟨key, us, u, hk, hu, rfl⟩
    exact ⟨⟨key, us⟩, AList.mem_lookup_iff.mp hk, u, hu, rfl⟩

/-- The operation registers updaters. -/
def RegistryOp.isAdd : RegistryOp → Bool
  | .add _ => true
  | _ => false

theorem foldl_removeUpdaters_empty (j : String) :
    ∀ keys : List Key, keys.foldl (fun k2u key => k2u.removeUpdaters key j) (∅ : Key2Updaters) = ∅
  | [] => rfl
  | _ :: keys => foldl_removeUpdaters_empty j keys

/-- An empty registry stays empty under operations that register nothing. -/
theorem runOps_empty : ∀ (ops : List RegistryOp) (m : DbMonitor), m.key2Updaters = ∅ →
    (∀ op ∈ ops, op.isAdd = false) → (m.runOps ops).key2Updaters = ∅
  | [], _, hm, _ => hm
  | op :: ops, m, hm, hops => by
    refine runOps_empty ops (m.applyOp op) ?_ fun o ho => hops o (List.mem_cons_of_mem _ ho)
    cases op with
    | add => cases hops _ (List.mem_cons_self _ _)
    | remove keys j =>
      show keys.foldl _ m.key2Updaters = ∅
      rw [hm]
      exact foldl_removeUpdaters_empty j keys
    | cancel => rfl

theorem eventStep_empty (events : List Event) (result : BatchUpdates) (ev : Event) :
    eventStep ∅ events result ev = some result := by
  unfold eventStep
  split
  · rfl
  · split <;> rfl

/-- A monitor with no updater prepares an empty batch from any events. -/
theorem prepareTableUpdate_empty {m : DbMonitor} (hm : m.key2Updaters = ∅) (events : List Event) :
    m.prepareTableUpdate events = some ∅ := by
  have h : ∀ (evs : List Event) (acc : BatchUpdates),
      evs.foldlM (eventStep ∅ events) acc = some acc := by
    intro evs
    induction evs with
    | nil => intro acc; rfl
    | cons ev evs ih => intro acc; rw [List.foldlM_cons, eventStep_empty]; exact ih acc
  rw [prepareTableUpdate, hm]
  exact h events ∅

/-- **Cancellation notifies each json-value once and empties the registry.**  `cancelDbMonitor`
returns the json-value of every registered updater exactly once and no other value, and leaves
no slot: `hasUpdaters` is false, and until updaters are added again every batch yields no
update. -/
theorem cancelDbMonitor_notifies_once (m : DbMonitor) :
    m.cancelDbMonitor.2.Nodup ∧
      (∀ j, j ∈ m.cancelDbMonitor.2 ↔
        ∃ key us u, m.key2Updaters.lookup key = some us ∧ u ∈ us ∧ u.jasonValueStr = j) ∧
      m.cancelDbMonitor.1.key2Updaters = ∅ ∧ m.cancelDbMonitor.1.hasUpdaters = false ∧
      ∀ ops events, (∀ op ∈ ops, RegistryOp.isAdd op = false) →
        (m.cancelDbMonitor.1.runOps ops).prepareTableUpdate events = some ∅ :=
  ⟨AList.keys_nodup _, mem_cancelDbMonitor m, rfl, rfl,
    fun ops events hops => prepareTableUpdate_empty (runOps_empty ops _ rfl hops) events⟩

end DbMonitor

end OvsdbMonitor
