import OvsdbMonitor.Lock

/-!
# Every locker is accounted for, and concurrent `Lock` calls agree

A locker `GetLock` returned is held in one of four places: registered in `databaseLocks`, by a
`Lock` call about to register it, by an `Unlock` call about to cancel it, or in the cancel log
(`LockState.holdings`).  `LockMove` says what one step of a call does to these places, and
`callStep_move` that every step of `callStep` is one of those moves.

* `LockInv.accounted`: the places, counted with multiplicity, are exactly the lockers
  `GetLock` returned; so no locker is lost without being cancelled, none is cancelled twice,
  and a registered locker was never cancelled (`run_lockers_accounted`).
* `run_cleanup_releases`: so `Cleanup` unlocks every locker that is neither cancelled nor held by
  a call in flight; the locker of a `Lock` call about to register it is not among them.
* `LockInv.held`: a `Lock` call past its registration holds the locker registered for its id,
  unless an `Unlock` removed that locker; so two `Lock` calls of one id that raced through
  `GetLock` end up on the same locker (`run_lock_converges`).

Both hold after every run (`run_lockInv`): the re-check under the mutex in `Lock` is what keeps
them across the interleavings in which two calls miss the registry at once.
-/

namespace OvsdbMonitor

/-! ### Where the lockers are -/

/-- The locker a call holds while it is about to register or to cancel it. -/
def LockPc.held : LockPc → Option Nat
  | .register l => some l
  | .cancel l => some l
  | _ => none

/-- The lockers held by the first `N` calls. -/
def heldPcs (pcs : Nat → LockPc) : Nat → List Nat
  | 0 => []
  | N + 1 => heldPcs pcs N ++ (pcs N).held.toList

/-- Every place a locker is held, with multiplicity: registered under a lock id, held by one of
the first `N` calls, or cancelled. -/
def LockState.holdings (s : LockState) (N : Nat) : List Nat :=
  s.databaseLocks.entries.map (·.2) ++ heldPcs s.pcs N ++ s.cancelled

/-- Locker `l` was removed from the registry by an `Unlock`: cancelled, or about to be. -/
def LockState.Removed (s : LockState) (l : Nat) : Prop :=
  l ∈ s.cancelled ∨ ∃ j, s.pcs j = .cancel l

/-- Locker `l` is the one registered for `id`, or was removed. -/
def LockState.Holds (s : LockState) (id : String) (l : Nat) : Prop :=
  s.databaseLocks.lookup id = some l ∨ s.Removed l

theorem heldPcs_update_of_le (pcs : Nat → LockPc) (p : LockPc) :
    ∀ {N i : Nat}, N ≤ i → heldPcs (Function.update pcs i p) N = heldPcs pcs N
  | 0, _, _ => rfl
  | N + 1, _, h => by
    rw [heldPcs, heldPcs, heldPcs_update_of_le pcs p (Nat.le_of_succ_le h),
      Function.update_noteq (Nat.ne_of_lt h)]

/-- Moving call `i` from one point to another trades the locker it held for the one it holds. -/
theorem count_heldPcs_update (pcs : Nat → LockPc) (p : LockPc) (a : Nat) :
    ∀ {N i : Nat}, i < N →
      (heldPcs (Function.update pcs i p) N).count a + (pcs i).held.toList.count a =
        (heldPcs pcs N).count a + p.held.toList.count a
  | 0, _, h => absurd h (Nat.not_lt_zero _)
  | N + 1, i, h => by
    simp only [heldPcs, List.count_append]
    rcases Nat.lt_succ_iff_lt_or_eq.mp h with h | rfl
    · rw [Function.update_noteq (Nat.ne_of_gt h)]
      have := count_heldPcs_update pcs p a h
      omega
    · rw [Function.update_same, heldPcs_update_of_le pcs p le_rfl]
      omega

theorem mem_heldPcs {pcs : Nat → LockPc} {l : Nat} :
    ∀ {N : Nat}, l ∈ heldPcs pcs N → ∃ i, (pcs i).held = some l
  | N + 1, h => by
    rcases List.mem_append.mp h with h | h
    · exact mem_heldPcs h
    · exact ⟨N, Option.mem_toList.mp h⟩

theorem LockPc.held_eq_some {p : LockPc} {l : Nat} (h : p.held = some l) :
    p = .register l ∨ p = .cancel l := by
  cases p <;> simp_all [LockPc.held]

theorem GoMap.mem_values {K V : Type} [DecidableEq K] {m : GoMap K V} {v : V} :
    v ∈ m.entries.map (·.2) ↔ ∃ k, m.lookup k = some v := by
  rw [List.mem_map]
  constructor
  · rintro ⟨⟨k, v'⟩, h, rfl⟩
    exact ⟨k, AList.mem_lookup_iff.mpr h⟩
  · rintro ⟨k, h⟩
    exact ⟨⟨k, v⟩, AList.mem_lookup_iff.mp h, rfl⟩

theorem GoMap.values_insert {K V : Type} [DecidableEq K] {m : GoMap K V} {k : K}
    (h : m.lookup k = none) (v : V) :
    (m.insert k v).entries.map (·.2) = v :: m.entries.map (·.2) := by
  rw [AList.insert_entries_of_neg (AList.lookup_eq_none.mp h), List.map_cons]

theorem GoMap.values_erase {K V : Type} [DecidableEq K] {m : GoMap K V} {k : K} {v : V}
    (h : m.lookup k = some v) :
    (v :: (m.erase k).entries.map (·.2)).Perm (m.entries.map (·.2)) := by
  have hk : k ∈ m.entries.keys := AList.mem_keys.mpr (AList.lookup_isSome.mp (by rw [h]; rfl))
  obtain ⟨b, l₁, l₂, -, he, hker⟩ := List.exists_of_kerase hk
  have hb : v = b := by
    have := List.mem_dlookup m.nodupKeys (he ▸ List.mem_append_right l₁ (List.mem_cons_self _ _))
    exact Option.some.inj (h.symm.trans this)
  show (v :: (m.entries.kerase k).map _).Perm _
  rw [hker, he, hb, List.map_append, List.map_append, List.map_cons]
  exact List.perm_middle.symm

theorem GoMap.erase_of_lookup_none {K V : Type} [DecidableEq K] {m : GoMap K V} {k : K}
    (h : m.lookup k = none) : m.erase k = m :=
  AList.ext (List.kerase_of_not_mem_keys fun hk =>
    AList.lookup_eq_none.mp h (AList.mem_keys.mp hk))

/-! ### What one step does to the lockers -/

/-- The effect of one step of call `i`, which is `c`, from `s` to `s'` on the lockers: on the
registry, the points of the calls, the cancel log and the number of lockers `GetLock` returned.
The replies and the notifications are left out. -/
inductive LockMove (i : Nat) (c : LockCall) (s s' : LockState) : Prop where
  /-- nothing changes -/
  | stay (h : s' = s)
  /-- the call moves between points that hold no locker: it returns, calls `GetLock`, calls
  `tryLock` on a registered locker, or waits in `lock` -/
  | quiet (p : LockPc) (hpcs : s'.pcs = Function.update s.pcs i p)
      (hfrom : (s.pcs i).held = none) (hto : p.held = none)
      (hkeep : ∀ l, (p = .tryLock l ∨ p = .waiting l) →
        s.pcs i = .tryLock l ∨ ∃ id, c = .lock (.ok id) ∧ s.databaseLocks.lookup id = some l)
      (hmap : s'.databaseLocks = s.databaseLocks) (hcan : s'.cancelled = s.cancelled)
      (hlen : s'.lockers.length = s.lockers.length)
  /-- `GetLock` returns a new locker -/
  | fresh (hpc : s.pcs i = .getLock)
      (hpcs : s'.pcs = Function.update s.pcs i (.register s.lockers.length))
      (hmap : s'.databaseLocks = s.databaseLocks) (hcan : s'.cancelled = s.cancelled)
      (hlen : s'.lockers.length = s.lockers.length + 1)
  /-- `Lock` registers its locker -/
  | register (id : String) (l : Nat) (hc : c = .lock (.ok id)) (hpc : s.pcs i = .register l)
      (hnone : s.databaseLocks.lookup id = none)
      (hpcs : s'.pcs = Function.update s.pcs i (.tryLock l))
      (hmap : s'.databaseLocks = s.databaseLocks.insert id l) (hcan : s'.cancelled = s.cancelled)
      (hlen : s'.lockers.length = s.lockers.length)
  /-- `Lock` finds another locker registered: it cancels its own and takes that one -/
  | yield (id : String) (l o : Nat) (hc : c = .lock (.ok id)) (hpc : s.pcs i = .register l)
      (hsome : s.databaseLocks.lookup id = some o)
      (hpcs : s'.pcs = Function.update s.pcs i (.tryLock o))
      (hmap : s'.databaseLocks = s.databaseLocks) (hcan : s'.cancelled = s.cancelled ++ [l])
      (hlen : s'.lockers.length = s.lockers.length)
  /-- `Unlock` removes its id's locker -/
  | remove (id : String) (l : Nat) (hpc : s.pcs i = .entry)
      (hsome : s.databaseLocks.lookup id = some l)
      (hpcs : s'.pcs = Function.update s.pcs i (.cancel l))
      (hmap : s'.databaseLocks = s.databaseLocks.erase id) (hcan : s'.cancelled = s.cancelled)
      (hlen : s'.lockers.length = s.lockers.length)
  /-- `Unlock` cancels the locker it removed -/
  | cancel (l : Nat) (hpc : s.pcs i = .cancel l) (hpcs : s'.pcs = Function.update s.pcs i .done)
      (hmap : s'.databaseLocks = s.databaseLocks) (hcan : s'.cancelled = s.cancelled ++ [l])
      (hlen : s'.lockers.length = s.lockers.length)

/-- **Every step is a move.** -/
theorem callStep_move (s : LockState) (i : Nat) (c : LockCall) (r : Option LockErr) :
    LockMove i c s (s.callStep i c r) := by
  rcases c with ((e | id) | (e | id)) <;> cases hpc : s.pcs i <;>
    unfold LockState.callStep <;> simp only [hpc]
  all_goals first
    | exact .stay rfl
    | exact .quiet .done rfl (hpc ▸ rfl) rfl nofun rfl rfl rfl
    | skip
  · -- `Lock` with malformed params, in `tryLock`: only reachable by the step function's totality
    rcases r with _ | _ | _
    · exact .quiet .done rfl (hpc ▸ rfl) rfl nofun rfl rfl rfl
    · exact .quiet (.waiting _) rfl (hpc ▸ rfl) rfl
        (fun l h => .inl (by simpa [hpc] using h)) rfl rfl rfl
    · exact .quiet .done rfl (hpc ▸ rfl) rfl nofun rfl rfl rfl
  · -- `Lock`: the registry lookup
    cases hl : s.databaseLocks.lookup id
    · exact .quiet .getLock rfl (hpc ▸ rfl) rfl nofun rfl rfl rfl
    · exact .quiet (.tryLock _) rfl (hpc ▸ rfl) rfl
        (fun l h => .inr ⟨id, rfl, by simpa using hl.trans (by simpa using h)⟩) rfl rfl rfl
  · -- `Lock`: `GetLock` returns
    rcases r with _ | err
    · exact .fresh hpc rfl rfl rfl (List.length_append _ _)
    · exact .quiet .done rfl (hpc ▸ rfl) rfl nofun rfl rfl rfl
  · -- `Lock`: the re-check under the mutex
    cases hl : s.databaseLocks.lookup id
    · exact .register id _ rfl hpc hl rfl rfl rfl rfl
    · exact .yield id _ _ rfl hpc hl rfl rfl rfl rfl
  · -- `Lock`: `tryLock` returns
    rcases r with _ | _ | _
    · exact .quiet .done rfl (hpc ▸ rfl) rfl nofun rfl rfl rfl
    · exact .quiet (.waiting _) rfl (hpc ▸ rfl) rfl
        (fun l h => .inl (by simpa [hpc] using h)) rfl rfl rfl
    · exact .quiet .done rfl (hpc ▸ rfl) rfl nofun rfl rfl rfl
  · -- `Lock`'s goroutine: `lock` returns
    rcases r with _ | _ <;>
      exact .quiet .done rfl (hpc ▸ rfl) rfl nofun rfl rfl rfl
  · exact .cancel _ hpc rfl rfl rfl rfl
  · -- `Unlock`: remove under the mutex
    cases hl : s.databaseLocks.lookup id
    · exact .quiet .done rfl (hpc ▸ rfl) rfl nofun
        (GoMap.erase_of_lookup_none hl) rfl rfl
    · exact .remove id _ hpc hl rfl rfl rfl rfl
  · exact .cancel _ hpc rfl rfl rfl rfl

section Moves

variable {i : Nat} {c : LockCall} {s s' : LockState}

theorem LockMove.pcs_eq (hm : LockMove i c s s') : ∃ p, s'.pcs = Function.update s.pcs i p := by
  cases hm with
  | stay h => exact ⟨s.pcs i, by rw [h, Function.update_eq_self]⟩
  | quiet p hpcs => exact ⟨p, hpcs⟩
  | fresh _ hpcs => exact ⟨_, hpcs⟩
  | register _ _ _ _ _ hpcs => exact ⟨_, hpcs⟩
  | yield _ _ _ _ _ _ hpcs => exact ⟨_, hpcs⟩
  | remove _ _ _ _ hpcs => exact ⟨_, hpcs⟩
  | cancel _ _ hpcs => exact ⟨_, hpcs⟩

/-- A move leaves the other calls where they are. -/
theorem LockMove.pcs_of_ne (hm : LockMove i c s s') {k : Nat} (hk : k ≠ i) :
    s'.pcs k = s.pcs k := by
  obtain ⟨p, hp⟩ := hm.pcs_eq
  rw [hp, Function.update_noteq hk]

/-- **The places are kept.**  A move of one of the first `N` calls keeps the lockers held
counted as the lockers `GetLock` returned. -/
theorem LockMove.accounted (hm : LockMove i c s s') {N : Nat} (hi : i < N)
    (h : (s.holdings N).Perm (List.range s.lockers.length)) :
    (s'.holdings N).Perm (List.range s'.lockers.length) := by
  rw [List.perm_iff_count] at h ⊢
  intro a
  have ha := h a
  simp only [LockState.holdings, List.count_append] at ha ⊢
  cases hm with
  | stay h => subst h; exact ha
  | quiet p hpcs hfrom hto _ hmap hcan hlen =>
    have hu := count_heldPcs_update s.pcs p a hi
    rw [hfrom, hto] at hu
    rw [hpcs, hmap, hcan, hlen]
    simp only [Option.toList, List.count_nil] at hu
    omega
  | fresh hpc hpcs hmap hcan hlen =>
    have hu := count_heldPcs_update s.pcs (.register s.lockers.length) a hi
    rw [hpc] at hu
    rw [hpcs, hmap, hcan, hlen, List.range_succ, List.count_append]
    simp only [LockPc.held, Option.toList, List.count_nil] at hu
    omega
  | register id l _ hpc hnone hpcs hmap hcan hlen =>
    have hu := count_heldPcs_update s.pcs (.tryLock l) a hi
    rw [hpc] at hu
    rw [hpcs, hmap, hcan, hlen, GoMap.values_insert hnone, ← List.singleton_append,
      List.count_append]
    simp only [LockPc.held, Option.toList, List.count_nil] at hu
    omega
  | yield id l o _ hpc _ hpcs hmap hcan hlen =>
    have hu := count_heldPcs_update s.pcs (.tryLock o) a hi
    rw [hpc] at hu
    rw [hpcs, hmap, hcan, hlen, List.count_append]
    simp only [LockPc.held, Option.toList, List.count_nil] at hu
    omega
  | remove id l hpc hsome hpcs hmap hcan hlen =>
    have hu := count_heldPcs_update s.pcs (.cancel l) a hi
    have hv := (GoMap.values_erase hsome).count_eq a
    rw [hpc] at hu
    rw [← List.singleton_append, List.count_append] at hv
    rw [hpcs, hmap, hcan, hlen]
    simp only [LockPc.held, Option.toList, List.count_nil] at hu
    omega
  | cancel l hpc hpcs hmap hcan hlen =>
    have hu := count_heldPcs_update s.pcs .done a hi
    rw [hpc] at hu
    rw [hpcs, hmap, hcan, hlen, List.count_append]
    simp only [LockPc.held, Option.toList, List.count_nil] at hu
    omega

theorem LockState.Removed.of_frame {l : Nat} (h : s.Removed l)
    (hcan : ∀ x ∈ s.cancelled, x ∈ s'.cancelled)
    (hpc : ∀ j x, s.pcs j = .cancel x → s'.pcs j = .cancel x ∨ x ∈ s'.cancelled) :
    s'.Removed l := by
  rcases h with h | ⟨j, hj⟩
  · exact .inl (hcan l h)
  · exact (hpc j l hj).elim (fun h => .inr ⟨j, h⟩) .inl

/-- A move removes nothing from the removed lockers: a cancel only moves one from the point of
its call to the cancel log. -/
theorem LockMove.removed (hm : LockMove i c s s') {l : Nat} (h : s.Removed l) : s'.Removed l := by
  have hother : ∀ j x, j ≠ i → s.pcs j = .cancel x → s'.pcs j = .cancel x :=
    fun j x hj hx => (hm.pcs_of_ne hj).trans hx
  have hnot : (∀ x, s.pcs i ≠ .cancel x) → ∀ j x, s.pcs j = .cancel x →
      s'.pcs j = .cancel x ∨ x ∈ s'.cancelled := fun hi j x hx =>
    .inl (hother j x (fun hji => hi x (hji ▸ hx)) hx)
  have hgrow : ∀ {L : List Nat}, s'.cancelled = s.cancelled ++ L →
      ∀ x ∈ s.cancelled, x ∈ s'.cancelled := fun hcan x hx => hcan ▸ List.mem_append_left _ hx
  cases hm with
  | stay h' => exact h' ▸ h
  | quiet _ _ hfrom _ _ _ hcan =>
    exact h.of_frame (hgrow (L := []) (by rw [hcan, List.append_nil]))
      (hnot fun x hx => by simp [hx, LockPc.held] at hfrom)
  | fresh hpc _ _ hcan =>
    exact h.of_frame (hgrow (L := []) (by rw [hcan, List.append_nil])) (hnot fun x => by simp [hpc])
  | register _ _ _ hpc _ _ _ hcan =>
    exact h.of_frame (hgrow (L := []) (by rw [hcan, List.append_nil])) (hnot fun x => by simp [hpc])
  | yield _ _ _ _ hpc _ _ _ hcan => exact h.of_frame (hgrow hcan) (hnot fun x => by simp [hpc])
  | remove _ _ hpc _ _ _ hcan =>
    exact h.of_frame (hgrow (L := []) (by rw [hcan, List.append_nil])) (hnot fun x => by simp [hpc])
  | cancel l₀ hpc hpcs _ hcan =>
    refine h.of_frame (hgrow hcan) fun j x hx => ?_
    by_cases hj : j = i
    · subst hj
      rw [hpc] at hx
      cases hx
      exact .inr (by simp [hcan])
    · exact .inl (hother j x hj hx)

/-- A move keeps every locker registered for an id, or removes it. -/
theorem LockMove.holds (hm : LockMove i c s s') {id : String} {l : Nat} (h : s.Holds id l) :
    s'.Holds id l := by
  rcases h with h | h
  · cases hm with
    | stay h' => exact h' ▸ .inl h
    | quiet _ _ _ _ _ hmap => exact .inl (hmap ▸ h)
    | fresh _ _ hmap => exact .inl (hmap ▸ h)
    | register id₀ l₀ _ _ hnone _ hmap =>
      have hne : id ≠ id₀ := fun he => by rw [he, hnone] at h; cases h
      exact .inl (by rw [hmap, GoMap.lookup_insert_of_ne _ _ hne, h])
    | yield _ _ _ _ _ _ _ hmap => exact .inl (hmap ▸ h)
    | remove id₀ l₀ _ hsome hpcs hmap =>
      by_cases he : id = id₀
      · subst he
        rw [hsome] at h
        cases h
        exact .inr (.inr ⟨i, by rw [hpcs, Function.update_same]⟩)
      · exact .inl (by rw [hmap, GoMap.lookup_erase_of_ne _ he, h])
    | cancel _ _ _ hmap => exact .inl (hmap ▸ h)
  · exact .inr (hm.removed h)

end Moves

/-! ### Over every run -/

/-- The invariant of the lock RPCs `calls`. -/
structure LockInv (calls : List LockCall) (s : LockState) : Prop where
  /-- every locker `GetLock` returned is held in exactly one place -/
  accounted : (s.holdings calls.length).Perm (List.range s.lockers.length)
  /-- a `Lock` call past its registration holds the locker registered for its id, unless an
  `Unlock` removed that locker -/
  held : ∀ i id l, calls[i]? = some (.lock (.ok id)) →
    (s.pcs i = .tryLock l ∨ s.pcs i = .waiting l) → s.Holds id l

theorem heldPcs_entry : ∀ N, heldPcs (fun _ => LockPc.entry) N = []
  | 0 => rfl
  | N + 1 => by rw [heldPcs, heldPcs_entry N]; rfl

theorem lockInv_init (calls : List LockCall) : LockInv calls LockState.init :=
  ⟨by simp [LockState.holdings, LockState.init, heldPcs_entry], fun _ _ _ _ h => by
    simp [LockState.init] at h⟩

/-- **One step keeps the invariant.** -/
theorem LockMove.lockInv {calls : List LockCall} {i : Nat} {c : LockCall} {s s' : LockState}
    (hm : LockMove i c s s') (hc : calls[i]? = some c) (h : LockInv calls s) :
    LockInv calls s' := by
  have hi : i < calls.length := (List.getElem?_eq_some_iff.mp hc).1
  refine ⟨hm.accounted hi h.accounted, fun k id l hk hpk => ?_⟩
  have hholds : ∀ {id l}, s.Holds id l → s'.Holds id l := hm.holds
  by_cases hki : k = i
  · subst hki
    rw [hk] at hc
    cases hc
    cases hm with
    | stay h' => subst h'; exact h.held k id l hk hpk
    | quiet p hpcs _ _ hkeep hmap =>
      rw [hpcs, Function.update_same] at hpk
      rcases hkeep l hpk with hpc | ⟨id', hid, hl⟩
      · exact hholds (h.held k id l hk (.inl hpc))
      · cases hid
        exact .inl (hmap ▸ hl)
    | fresh _ hpcs => simp [hpcs] at hpk
    | register id₀ l₀ hid _ _ hpcs hmap =>
      cases hid
      simp [hpcs] at hpk
      subst hpk
      exact .inl (by rw [hmap, GoMap.lookup_insert_self])
    | yield id₀ l₀ o hid _ hsome hpcs hmap =>
      cases hid
      simp [hpcs] at hpk
      subst hpk
      exact .inl (hmap ▸ hsome)
    | remove _ _ _ _ hpcs => simp [hpcs] at hpk
    | cancel _ _ hpcs => simp [hpcs] at hpk
  · rw [hm.pcs_of_ne hki] at hpk
    exact hholds (h.held k id l hk hpk)

theorem lockInv_step {calls : List LockCall} {s : LockState} (h : LockInv calls s)
    (a : LockAction) : LockInv calls (s.step calls a) := by
  cases a with
  | call i r =>
    cases hc : calls[i]? with
    | none => simpa only [LockState.step, hc] using h
    | some c =>
      simpa only [LockState.step, hc] using (callStep_move s i c r).lockInv hc h
  | cleanup => exact ⟨h.accounted, h.held⟩

/-- **Every run keeps the invariant.** -/
theorem run_lockInv (calls : List LockCall) (sched : List LockAction) :
    LockInv calls (LockState.init.run calls sched) := by
  suffices ∀ (sched : List LockAction) s, LockInv calls s →
      LockInv calls (sched.foldl (LockState.step calls) s) from
    this sched _ (lockInv_init calls)
  intro sched
  induction sched with
  | nil => exact fun _ h => h
  | cons a sched ih => exact fun s h => ih _ (lockInv_step h a)

/-- Where a locker is: registered under a lock id, cancelled, or held by a call in flight. -/
theorem LockInv.places {calls : List LockCall} {s : LockState} (h : LockInv calls s) {l : Nat}
    (hl : l < s.lockers.length) :
    (∃ id, s.databaseLocks.lookup id = some l) ∨ l ∈ s.cancelled ∨
      ∃ i, s.pcs i = .register l ∨ s.pcs i = .cancel l := by
  rcases List.mem_append.mp (h.accounted.mem_iff.mpr (List.mem_range.mpr hl)) with h | h
  · rcases List.mem_append.mp h with h | h
    · exact .inl (GoMap.mem_values.mp h)
    · obtain ⟨i, hi⟩ := mem_heldPcs h
      exact .inr (.inr ⟨i, LockPc.held_eq_some hi⟩)
  · exact .inr (.inl h)

/-- **No locker is lost, cancelled twice, or cancelled while registered.**  After any run of the
lock RPCs, every locker `GetLock` returned is registered under a lock id, cancelled, or held by a
`Lock` call about to register it or an `Unlock` call about to cancel it; no locker is cancelled
twice; and no registered locker was cancelled. -/
theorem run_lockers_accounted (calls : List LockCall) (sched : List LockAction) :
    (∀ l < (LockState.init.run calls sched).lockers.length,
      (∃ id, (LockState.init.run calls sched).databaseLocks.lookup id = some l) ∨
      l ∈ (LockState.init.run calls sched).cancelled ∨
      ∃ i, (LockState.init.run calls sched).pcs i = .register l ∨
        (LockState.init.run calls sched).pcs i = .cancel l) ∧
    (LockState.init.run calls sched).cancelled.Nodup ∧
    ∀ id l, (LockState.init.run calls sched).databaseLocks.lookup id = some l →
      l ∉ (LockState.init.run calls sched).cancelled := by
  have hacc := (run_lockInv calls sched).accounted
  have hnd := hacc.nodup_iff.mpr (List.nodup_range _)
  simp only [LockState.holdings, List.nodup_append] at hnd
  exact ⟨fun l hl => (run_lockInv calls sched).places hl, hnd.2.1, fun id l h hc =>
    hnd.2.2 (List.mem_append_left _ (GoMap.mem_values.mpr ⟨id, h⟩)) hc⟩

/-- **What `Cleanup` releases.**  When `Cleanup` runs after any run of the lock RPCs, every
locker `GetLock` returned is unlocked by it, cancelled, or held by a call in flight: an `Unlock`
call about to cancel it, or a `Lock` call about to register it. -/
theorem run_cleanup_releases (calls : List LockCall) (sched : List LockAction) :
    ∀ l < (LockState.init.run calls (sched ++ [.cleanup])).lockers.length,
      l ∈ (LockState.init.run calls (sched ++ [.cleanup])).unlocked ∨
      l ∈ (LockState.init.run calls (sched ++ [.cleanup])).cancelled ∨
      ∃ i, (LockState.init.run calls (sched ++ [.cleanup])).pcs i = .register l ∨
        (LockState.init.run calls (sched ++ [.cleanup])).pcs i = .cancel l := by
  have hrun : LockState.init.run calls (sched ++ [.cleanup]) =
      (LockState.init.run calls sched).cleanupLocks := by
    rw [LockState.run, List.foldl_append]; rfl
  intro l hl
  rw [hrun] at hl ⊢
  rcases (run_lockInv calls sched).places hl with ⟨id, h⟩ | h | h
  · exact .inl (List.mem_append_right _ (GoMap.mem_values.mpr ⟨id, h⟩))
  · exact .inr (.inl h)
  · exact .inr (.inr h)

/-- `Cleanup` runs while a `Lock` call is about to register the locker `GetLock` returned. -/
theorem run_cleanup_releases_inFlight :
    0 < (LockState.init.run [.lock (.ok "L")]
        ([.call 0 none, .call 0 none] ++ [.cleanup])).lockers.length ∧
      (0 ∈ (LockState.init.run [.lock (.ok "L")]
          ([.call 0 none, .call 0 none] ++ [.cleanup])).unlocked ∨
        0 ∈ (LockState.init.run [.lock (.ok "L")]
          ([.call 0 none, .call 0 none] ++ [.cleanup])).cancelled ∨
        ∃ i, (LockState.init.run [.lock (.ok "L")]
            ([.call 0 none, .call 0 none] ++ [.cleanup])).pcs i = .register 0 ∨
          (LockState.init.run [.lock (.ok "L")]
            ([.call 0 none, .call 0 none] ++ [.cleanup])).pcs i = .cancel 0) :=
  ⟨by decide, run_cleanup_releases [.lock (.ok "L")] [.call 0 none, .call 0 none] 0 (by decide)⟩

/-- **Concurrent `Lock` calls agree.**  After any run, two `Lock` calls of one lock id that have
passed their registration, however their steps interleaved through the registry lookup,
`GetLock` and the re-check, hold the same locker, unless an `Unlock` removed one of the two. -/
theorem run_lock_converges (calls : List LockCall) (sched : List LockAction) {i k : Nat}
    {id : String} {l l' : Nat} (hi : calls[i]? = some (.lock (.ok id)))
    (hk : calls[k]? = some (.lock (.ok id)))
    (hpi : (LockState.init.run calls sched).pcs i = .tryLock l ∨
      (LockState.init.run calls sched).pcs i = .waiting l)
    (hpk : (LockState.init.run calls sched).pcs k = .tryLock l' ∨
      (LockState.init.run calls sched).pcs k = .waiting l') :
    l = l' ∨ (LockState.init.run calls sched).Removed l ∨
      (LockState.init.run calls sched).Removed l' := by
  have h := run_lockInv calls sched
  rcases h.held i id l hi hpi with hl | hl
  · rcases h.held k id l' hk hpk with hl' | hl'
    · exact .inl (Option.some.inj (hl.symm.trans hl'))
    · exact .inr (.inr hl')
  · exact .inr (.inl hl)

/-- Two `Lock` calls of lock id `L`. -/
def lockRaceCalls : List LockCall := [.lock (.ok "L"), .lock (.ok "L")]

/-- Both calls miss the registry, both get a locker, the first registers its locker and the
second, at its re-check, cancels its own and takes the first's. -/
def lockRaceSched : List LockAction :=
  [.call 0 none, .call 1 none, .call 0 none, .call 1 none, .call 0 none, .call 1 none]

theorem run_lock_converges_race :
    lockRaceCalls[0]? = some (.lock (.ok "L")) ∧ lockRaceCalls[1]? = some (.lock (.ok "L")) ∧
      (LockState.init.run lockRaceCalls lockRaceSched).pcs 0 = .tryLock 0 ∧
      (LockState.init.run lockRaceCalls lockRaceSched).pcs 1 = .tryLock 0 ∧
      (0 = 0 ∨ (LockState.init.run lockRaceCalls lockRaceSched).Removed 0 ∨
        (LockState.init.run lockRaceCalls lockRaceSched).Removed 0) := by
  have h0 : (LockState.init.run lockRaceCalls lockRaceSched).pcs 0 = .tryLock 0 := by decide
  have h1 : (LockState.init.run lockRaceCalls lockRaceSched).pcs 1 = .tryLock 0 := by decide
  have hc0 : lockRaceCalls[0]? = some (.lock (.ok "L")) := rfl
  have hc1 : lockRaceCalls[1]? = some (.lock (.ok "L")) := rfl
  exact ⟨hc0, hc1, h0, h1,
    run_lock_converges lockRaceCalls lockRaceSched hc0 hc1 (.inl h0) (.inl h1)⟩

end OvsdbMonitor
