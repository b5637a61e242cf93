import OvsdbMonitor.Laws.Watch

/-!
# What the notify calls hand off, and what the notifiers receive

`Delivery` ties every notify call to the batch `prepareTableUpdate` makes of its events: a call
hands off nothing before its batch is ready, then the batch's entries one by one in order, and
a call that was accepted and has returned has handed off all of them.  It also keeps each
channel a queue of the hand-offs made to its json-value.  It holds initially and after every
step, so over every interleaving (`run_delivery`):

* `run_revisions_unique`: revisions are accepted in increasing order; every hand-off carries its
  call's accepted revision and wait group; no revision is handed off by two calls;
* `run_stale_call_dropped`: a call still before its revision check whose revision is not above
  the checker's hands nothing off, whatever runs next;
* `run_handOffs_batch`: each call hands off a prefix of its batch's entries, none when its
  revision was not accepted, and the whole batch once it was accepted and has returned: no
  update is lost, invented, repeated or reordered;
* `run_sent_fifo`: what each notifier has sent to its client is a prefix of the updates handed
  off to its json-value, in order; while it runs, what it has sent followed by what is pending
  on its channel is exactly those updates; after the context is cancelled nothing is sent.
-/

namespace OvsdbMonitor

namespace WatchState

/-! ### What a call has handed off -/

/-- The table updates call `i` has handed off, in order, with their json-values. -/
def handedOff (handOffs : List HandOff) (i : Nat) : List (Σ _ : String, TableUpdates) :=
  (handOffs.filter fun h => h.call = i).map fun h => ⟨h.jsonValue, h.event.updates⟩

/-- The table updates handed off to json-value `j`, in order. -/
def notes (j : String) (s : WatchState) : List TableUpdates :=
  (s.handOffs.filter fun h => h.jsonValue = j).map fun h => h.event.updates

theorem handedOff_append (l : List HandOff) (x : HandOff) (i : Nat) :
    handedOff (l ++ [x]) i =
      handedOff l i ++ if x.call = i then [⟨x.jsonValue, x.event.updates⟩] else [] := by
  unfold handedOff
  rw [List.filter_append, List.map_append]
  by_cases h : x.call = i <;> simp [h]

/-- What call `c`, at `pc`, may have handed off (`sent`) of the batch its events make on
monitor `m`, with `acc` whether its revision was accepted: nothing before its batch is ready or
after a panic; while handing off, a prefix of the batch's entries, `pending` being the rest; once
returned, the whole batch if it was accepted and nothing otherwise. -/
def Sent (m : DbMonitor) (c : NotifyCall) (acc : Prop) :
    NotifyPc → List (Σ _ : String, TableUpdates) → Prop
  | .entry, sent => sent = [] ∧ ¬acc
  | .accepted, sent => sent = [] ∧ acc
  | .handingOff pending, sent =>
    acc ∧ ∃ res, m.prepareTableUpdate c.events = some res ∧ sent ++ pending = res.entries
  | .returned, sent =>
    (acc → ∃ res, m.prepareTableUpdate c.events = some res ∧ sent = res.entries) ∧
      (¬acc → sent = [])
  | .panicked, sent => sent = [] ∧ acc

/-- What every state of a run of `calls` on monitor `m` satisfies. -/
structure Delivery (m : DbMonitor) (calls : List NotifyCall) (s : WatchState) : Prop where
  /-- the registry is the one the run started with -/
  key2Updaters : s.monitor.key2Updaters = m.key2Updaters
  /-- each call has handed off what `Sent` allows at its point -/
  sent : ∀ i c, calls[i]? = some c →
    Sent m c ((i, c.revision) ∈ s.accepted) (s.pcs i) (handedOff s.handOffs i)
  /-- each hand-off carries its call's revision and wait group -/
  tagged : ∀ x ∈ s.handOffs, ∃ c, calls[x.call]? = some c ∧ x.revision = c.revision ∧
    x.event.wg = c.wg
  /-- what each notifier has sent, the one event it drops on finding the context cancelled, and
  what is pending on its channel are, in order, the updates handed off to its json-value -/
  fifo : ∀ j, ∃ dropped : List NotificationEvent, dropped.length ≤ 1 ∧
    (s.stopped j = false → dropped = []) ∧
    s.sent j ++ (dropped ++ s.chains j).map NotificationEvent.updates = notes j s

theorem delivery_init (calls : List NotifyCall) (m : DbMonitor) :
    Delivery m calls (WatchState.init m) where
  key2Updaters := rfl
  sent _ _ _ := ⟨rfl, List.not_mem_nil _⟩
  tagged := nofun
  fifo _ := ⟨[], Nat.zero_le 1, fun _ => rfl, rfl⟩

section Step

variable {m : DbMonitor} {calls : List NotifyCall} {s : WatchState} {i : Nat} {c : NotifyCall}

/-- A step that moves call `i` alone, to `pc`, and hands nothing off keeps the invariant when
what the call has handed off is what `Sent` allows at `pc`. -/
theorem delivery_quiet (h : Delivery m calls s) (hc : calls[i]? = some c) {s' : WatchState}
    {pc : NotifyPc} (hho : s'.handOffs = s.handOffs) (hch : s'.chains = s.chains)
    (hsn : s'.sent = s.sent) (hst : s'.stopped = s.stopped)
    (hmon : s'.monitor.key2Updaters = s.monitor.key2Updaters)
    (hpcs : s'.pcs = Function.update s.pcs i pc)
    (hacc : ∀ j r, j ≠ i → ((j, r) ∈ s'.accepted ↔ (j, r) ∈ s.accepted))
    (hsent : Sent m c ((i, c.revision) ∈ s'.accepted) pc (handedOff s.handOffs i)) :
    Delivery m calls s' where
  key2Updaters := hmon.trans h.key2Updaters
  sent j cj hcj := by
    rw [hpcs, hho]
    by_cases hji : j = i
    · subst hji
      rw [hc, Option.some.injEq] at hcj
      subst hcj
      rwa [Function.update_same]
    · rw [Function.update_noteq hji, propext (hacc j cj.revision hji)]
      exact h.sent j cj hcj
  tagged := hho ▸ h.tagged
  fifo j := by
    obtain ⟨d, hd1, hd2, hd3⟩ := h.fifo j
    exact ⟨d, hd1, hst ▸ hd2, by rw [notes, hsn, hch, hho]; exact hd3⟩

/-- The hand-off of the next entry `⟨jValue, tableUpdates⟩` of call `i`. -/
theorem delivery_handOff (h : Delivery m calls s) (hc : calls[i]? = some c) {jValue : String}
    {tableUpdates : TableUpdates} {rest : List (Σ _ : String, TableUpdates)}
    (hpc : s.pcs i = .handingOff (⟨jValue, tableUpdates⟩ :: rest)) :
    Delivery m calls { s.setPc i (.handingOff rest) with
      handOffs := s.handOffs ++ [⟨i, c.revision, jValue, ⟨tableUpdates, c.wg⟩⟩]
      chains := enqueue s.chains jValue ⟨tableUpdates, c.wg⟩ } where
  key2Updaters := h.key2Updaters
  sent j cj hcj := by
    simp only [setPc_pcs, setPc_accepted, handedOff_append]
    by_cases hji : j = i
    · subst hji
      rw [hc, Option.some.injEq] at hcj
      subst hcj
      have hi := h.sent j c hc
      rw [hpc] at hi
      obtain ⟨hacc, res, hres, hsent⟩ := hi
      rw [Function.update_same, if_pos rfl]
      exact ⟨hacc, res, hres, by rw [List.append_assoc]; exact hsent⟩
    · rw [Function.update_noteq hji, if_neg (Ne.symm hji), List.append_nil]
      exact h.sent j cj hcj
  tagged x hx := by
    rcases List.mem_append.mp hx with hx | hx
    · exact h.tagged x hx
    · rw [List.mem_singleton.mp hx]; exact ⟨c, hc, rfl, rfl⟩
  fifo j := by
    obtain ⟨d, hd1, hd2, hd3⟩ := h.fifo j
    refine ⟨d, hd1, hd2, ?_⟩
    simp only [notes, enqueue, Function.update_apply, List.filter_append, List.map_append] at hd3 ⊢
    by_cases hj : j = jValue
    · subst hj
      simp [← hd3]
    · simp [hj, Ne.symm hj, hd3]

theorem delivery_notifyStep (h : Delivery m calls s) (hc : calls[i]? = some c) :
    Delivery m calls (s.notifyStep i c) := by
  have hprep : s.monitor.prepareTableUpdate c.events = m.prepareTableUpdate c.events := by
    unfold DbMonitor.prepareTableUpdate; rw [h.key2Updaters]
  have hi := h.sent i c hc
  -- a step that leaves `accepted` alone
  have same : ∀ j r, j ≠ i → ((j, r) ∈ s.accepted ↔ (j, r) ∈ s.accepted) := fun _ _ _ => Iff.rfl
  unfold notifyStep
  cases hpc : s.pcs i with
  | entry =>
    rw [hpc] at hi
    obtain ⟨hsent, hnacc⟩ := hi
    have hfin : Delivery m calls (s.finish i c) :=
      delivery_quiet h hc rfl rfl rfl rfl rfl rfl same ⟨fun ha => absurd ha hnacc, fun _ => hsent⟩
    by_cases he : c.events = []
    · rw [if_pos he]; exact hfin
    rw [if_neg he]
    rcases s.monitor.revChecker.isNewRevision c.revision with ⟨_ | _, rc⟩
    · exact hfin
    · refine delivery_quiet h hc rfl rfl rfl rfl rfl rfl (fun j r hji => ?_)
        ⟨hsent, List.mem_append_right _ (List.mem_singleton_self _)⟩
      simp [hji]
  | accepted =>
    rw [hpc] at hi
    obtain ⟨hsent, hacc⟩ := hi
    rw [hprep]
    cases hres : m.prepareTableUpdate c.events with
    | none => exact delivery_quiet h hc rfl rfl rfl rfl rfl rfl same ⟨hsent, hacc⟩
    | some res =>
      dsimp only
      split_ifs with hlen
      · exact delivery_quiet h hc rfl rfl rfl rfl rfl rfl same
          ⟨fun _ => ⟨res, hres, by rw [hsent, List.eq_nil_of_length_eq_zero hlen]⟩,
            fun hn => absurd hacc hn⟩
      · exact delivery_quiet h hc rfl rfl rfl rfl rfl rfl same ⟨hacc, res, hres, by rw [hsent]; rfl⟩
  | handingOff l =>
    rw [hpc] at hi
    obtain ⟨hacc, res, hres, hsent⟩ := hi
    match l, hpc, hsent with
    | [], _, hsent =>
      exact delivery_quiet h hc rfl rfl rfl rfl rfl rfl same
        ⟨fun _ => ⟨res, hres, by rwa [List.append_nil] at hsent⟩, fun hn => absurd hacc hn⟩
    | ⟨jValue, tableUpdates⟩ :: rest, hpc, _ => exact delivery_handOff h hc hpc
  | returned => exact h
  | panicked => exact h

theorem delivery_recvStep (h : Delivery m calls s) (j : String) :
    Delivery m calls (s.recvStep j) := by
  unfold recvStep
  by_cases hs : s.stopped j = true
  · rw [if_pos hs]; exact h
  rw [if_neg hs]
  cases hj : s.chains j with
  | nil => exact h
  | cons ev rest =>
    refine ⟨h.key2Updaters, h.sent, h.tagged, fun j' => ?_⟩
    obtain ⟨d, hd1, hd2, hd3⟩ := h.fifo j'
    dsimp only
    by_cases hj' : j' = j
    · -- the notifier of `j` sends `ev`, or drops it and returns
      subst hj'
      rw [hj, hd2 (Bool.of_not_eq_true hs)] at hd3
      by_cases hc : s.cancelled = true
      · exact ⟨[ev], le_rfl, by simp [hc], by simpa [hc, notes] using hd3⟩
      · exact ⟨[], Nat.zero_le 1, fun _ => rfl, by simpa [hc, notes] using hd3⟩
    · refine ⟨d, hd1, fun hf => hd2 ?_, ?_⟩
      · split_ifs at hf <;> simpa [Function.update_noteq hj'] using hf
      · split_ifs <;> simpa [Function.update_noteq hj', notes] using hd3

theorem delivery_step (h : Delivery m calls s) (a : Action) :
    Delivery m calls (s.step calls a) := by
  cases a with
  | notify i =>
    simp only [step]
    cases hc : calls[i]? with
    | none => exact h
    | some c => exact delivery_notifyStep h hc
  | recv j => exact delivery_recvStep h j
  | ctxDone j =>
    simp only [step, ctxDoneStep]
    split_ifs
    · refine ⟨h.key2Updaters, h.sent, h.tagged, fun j' => ?_⟩
      obtain ⟨d, hd1, hd2, hd3⟩ := h.fifo j'
      refine ⟨d, hd1, fun hf => hd2 ?_, hd3⟩
      by_cases hj : j' = j
      · subst hj; simp at hf
      · simpa [Function.update_noteq hj] using hf
    · exact h
  | cancel => exact ⟨h.key2Updaters, h.sent, h.tagged, h.fifo⟩

theorem delivery_run (h : Delivery m calls s) (sched : List Action) :
    Delivery m calls (s.run calls sched) := by
  induction sched generalizing s with
  | nil => exact h
  | cons a sched ih => exact ih (delivery_step h a)

end Step

/-- **The delivery invariant holds after every interleaving.** -/
theorem run_delivery (calls : List NotifyCall) (m : DbMonitor) (sched : List Action) :
    Delivery m calls ((WatchState.init m).run calls sched) :=
  delivery_run (delivery_init calls m) sched

/-- What `Sent` says of the hand-offs at any point: a prefix of the batch's entries, none
unless the revision was accepted, and all of them once an accepted call has returned. -/
theorem Sent.spec {m : DbMonitor} {c : NotifyCall} {acc : Prop} {pc : NotifyPc}
    {sent : List (Σ _ : String, TableUpdates)} (h : Sent m c acc pc sent) :
    (sent = [] ∨ ∃ res, m.prepareTableUpdate c.events = some res ∧ sent <+: res.entries) ∧
      (¬acc → sent = []) ∧
      (acc → pc = .returned → ∃ res, m.prepareTableUpdate c.events = some res ∧
        sent = res.entries) := by
  cases pc with
  | entry => exact ⟨.inl h.1, fun _ => h.1, fun ha => absurd ha h.2⟩
  | accepted => exact ⟨.inl h.1, fun hn => absurd h.2 hn, fun _ hpc => by cases hpc⟩
  | handingOff l =>
    obtain ⟨ha, res, hres, hsent⟩ := h
    exact ⟨.inr ⟨res, hres, l, hsent⟩, fun hn => absurd ha hn, fun _ hpc => by cases hpc⟩
  | returned =>
    refine ⟨?_, h.2, fun ha _ => h.1 ha⟩
    by_cases ha : acc
    · obtain ⟨res, hres, hsent⟩ := h.1 ha
      exact .inr ⟨res, hres, hsent ▸ List.prefix_refl _⟩
    · exact .inl (h.2 ha)
  | panicked => exact ⟨.inl h.1, fun hn => absurd h.2 hn, fun _ hpc => by cases hpc⟩

/-! ### Over every interleaving -/

/-- **Revisions are accepted in order, and each is handed off by one call.**  Over every
interleaving, the accepted revisions increase strictly; every hand-off is made by an accepted
call, with the revision and the wait group of that call; and two hand-offs of one revision are
made by the same call. -/
theorem run_revisions_unique (calls : List NotifyCall) (m : DbMonitor) (sched : List Action) :
    ((WatchState.init m).run calls sched).accepted.Pairwise (fun a b => a.2 < b.2) ∧
      (∀ x ∈ ((WatchState.init m).run calls sched).handOffs,
        (x.call, x.revision) ∈ ((WatchState.init m).run calls sched).accepted ∧
          ∃ c, calls[x.call]? = some c ∧ x.revision = c.revision ∧ x.event.wg = c.wg) ∧
      ∀ x ∈ ((WatchState.init m).run calls sched).handOffs,
        ∀ y ∈ ((WatchState.init m).run calls sched).handOffs,
          x.revision = y.revision → x.call = y.call := by
  have hw := run_watchInv calls m sched
  exact ⟨hw.sorted, fun x hx => ⟨hw.handOff x hx, (run_delivery calls m sched).tagged x hx⟩,
    fun x hx y hy hr => handOff_call_unique hw hx hy hr⟩

/-- **A stale batch is dropped.**  A call that has not reached its revision check while the
checker holds a revision at least its own hands nothing off, whatever runs next. -/
theorem run_stale_call_dropped (calls : List NotifyCall) (m : DbMonitor)
    (sched₁ sched₂ : List Action) {i : Nat} {c : NotifyCall} (hc : calls[i]? = some c)
    (hpc : ((WatchState.init m).run calls sched₁).pcs i = .entry)
    (hle : c.revision ≤ ((WatchState.init m).run calls sched₁).monitor.revChecker.revision) :
    i ∉ ((WatchState.init m).run calls (sched₁ ++ sched₂)).handOffs.map HandOff.call := by
  have hw := run_watchInv calls m sched₁
  have hrej : Rejected calls i c ((WatchState.init m).run calls sched₁) :=
    ⟨hc, .inl hpc, hle, fun x hx hxi => hw.started _ (hw.handOff x hx) (hxi ▸ hpc)⟩
  rw [run, List.foldl_append, ← run]
  intro hmem
  obtain ⟨x, hx, hxi⟩ := List.mem_map.mp hmem
  exact (rejected_run hrej sched₂).2.2.2 x hx hxi

theorem run_stale_call_dropped_late :
    1 ∉ ((WatchState.init (tableMonitor ["j"])).run
      [⟨createBatch "U2" 2, 2, none⟩, ⟨createBatch "U1" 1, 1, none⟩]
      ([.notify 0] ++ [.notify 1, .notify 1, .notify 1])).handOffs.map HandOff.call :=
  run_stale_call_dropped _ _ [.notify 0] [.notify 1, .notify 1, .notify 1] rfl rfl (by decide)

/-- **No update is lost, invented, repeated or reordered.**  Over every interleaving, what call
`i` has handed off is a prefix, in order, of the entries of the batch `prepareTableUpdate`
makes of its events on the monitor; it is nothing unless the call's revision was accepted; and
once an accepted call has returned it is the whole batch. -/
theorem run_handOffs_batch (calls : List NotifyCall) (m : DbMonitor) (sched : List Action)
    {i : Nat} {c : NotifyCall} (hc : calls[i]? = some c) :
    (handedOff ((WatchState.init m).run calls sched).handOffs i = [] ∨
      ∃ res, m.prepareTableUpdate c.events = some res ∧
        handedOff ((WatchState.init m).run calls sched).handOffs i <+: res.entries) ∧
    ((i, c.revision) ∉ ((WatchState.init m).run calls sched).accepted →
      handedOff ((WatchState.init m).run calls sched).handOffs i = []) ∧
    ((i, c.revision) ∈ ((WatchState.init m).run calls sched).accepted →
      ((WatchState.init m).run calls sched).pcs i = .returned →
      ∃ res, m.prepareTableUpdate c.events = some res ∧
        handedOff ((WatchState.init m).run calls sched).handOffs i = res.entries) :=
  ((run_delivery calls m sched).sent i c hc).spec

theorem run_handOffs_batch_partial :
    (handedOff ((WatchState.init (tableMonitor ["j", "k"])).run [⟨createBatch "U1" 1, 1, none⟩]
        [.notify 0, .notify 0, .notify 0]).handOffs 0 = [] ∨
      ∃ res, (tableMonitor ["j", "k"]).prepareTableUpdate (createBatch "U1" 1) = some res ∧
        handedOff ((WatchState.init (tableMonitor ["j", "k"])).run [⟨createBatch "U1" 1, 1, none⟩]
          [.notify 0, .notify 0, .notify 0]).handOffs 0 <+: res.entries) ∧
    ((0, 1) ∉ ((WatchState.init (tableMonitor ["j", "k"])).run [⟨createBatch "U1" 1, 1, none⟩]
        [.notify 0, .notify 0, .notify 0]).accepted →
      handedOff ((WatchState.init (tableMonitor ["j", "k"])).run [⟨createBatch "U1" 1, 1, none⟩]
        [.notify 0, .notify 0, .notify 0]).handOffs 0 = []) ∧
    ((0, 1) ∈ ((WatchState.init (tableMonitor ["j", "k"])).run [⟨createBatch "U1" 1, 1, none⟩]
        [.notify 0, .notify 0, .notify 0]).accepted →
      ((WatchState.init (tableMonitor ["j", "k"])).run [⟨createBatch "U1" 1, 1, none⟩]
        [.notify 0, .notify 0, .notify 0]).pcs 0 = .returned →
      ∃ res, (tableMonitor ["j", "k"]).prepareTableUpdate (createBatch "U1" 1) = some res ∧
        handedOff ((WatchState.init (tableMonitor ["j", "k"])).run [⟨createBatch "U1" 1, 1, none⟩]
          [.notify 0, .notify 0, .notify 0]).handOffs 0 = res.entries) :=
  run_handOffs_batch [⟨createBatch "U1" 1, 1, none⟩] (tableMonitor ["j", "k"])
    [.notify 0, .notify 0, .notify 0] (i := 0) (c := ⟨createBatch "U1" 1, 1, none⟩) rfl

/-- **Each client is sent its notifications in hand-off order, none lost or repeated.**  Over
every interleaving, what the notifier of json-value `j` has sent to the client is a prefix of the
table updates handed off to `j`, in order; while the notifier runs, what it has sent followed by
what is pending on its channel is exactly those updates; and once the handler context is
cancelled, no notifier sends anything more, whatever runs next. -/
theorem run_sent_fifo (calls : List NotifyCall) (m : DbMonitor) (sched : List Action)
    (j : String) :
    ((WatchState.init m).run calls sched).sent j <+: notes j ((WatchState.init m).run calls sched) ∧
      (((WatchState.init m).run calls sched).stopped j = false →
        ((WatchState.init m).run calls sched).sent j ++
            (((WatchState.init m).run calls sched).chains j).map NotificationEvent.updates =
          notes j ((WatchState.init m).run calls sched)) ∧
      (((WatchState.init m).run calls sched).cancelled = true → ∀ sched',
        ((WatchState.init m).run calls (sched ++ sched')).sent =
          ((WatchState.init m).run calls sched).sent) := by
  obtain ⟨d, -, hd2, hd3⟩ := (run_delivery calls m sched).fifo j
  refine ⟨⟨_, hd3⟩, fun hs => by rw [← hd3, hd2 hs]; rfl, fun hc sched' => ?_⟩
  rw [run, List.foldl_append, ← run, ← run]
  exact run_cancelled_sent _ calls hc sched'

end WatchState

end OvsdbMonitor
