import OvsdbMonitor.Watch

/-!
# Revision order and wait groups over every interleaving

A run of `WatchState.run` is any interleaving of the notify calls' atomic steps with the
notifiers' receives and the context's cancellation.  Over every run:

* `notifyStep_move`: the three things one step of a notify call can do; every invariant below is
  derived from it.
* `run_watchInv`: the accepted revisions increase strictly, and every hand-off is made by an
  accepted call with the call's own revision.
* `handOff_call_unique`: no revision is handed off by two calls.
* `run_rejected_no_handOff`: a call whose revision is not above an accepted one hands off
  nothing, whatever runs next.
* `run_handOffs_out_of_order`: hand-offs need not follow revision order; a call accepted later,
  with a higher revision, can hand off first.
* `run_stopped_chain`: once a notifier has returned, the events on its channel are never
  received, so no wait group they carry is released; `ctxDoneStep` returns with events pending.
* `run_done_twice`: a call whose result holds two json-values releases its wait group twice.
-/

namespace OvsdbMonitor

/-- A call past its revision check that has not finished: it holds its revision's updates. -/
def NotifyPc.active : NotifyPc → Bool
  | .accepted | .handingOff _ => true
  | .entry | .returned | .panicked => false

namespace WatchState

/-! ### What one step can do -/

section Fields

variable (s : WatchState) (i : Nat) (c : NotifyCall) (pc : NotifyPc)

@[simp] theorem setPc_pcs : (s.setPc i pc).pcs = Function.update s.pcs i pc := rfl
@[simp] theorem setPc_accepted : (s.setPc i pc).accepted = s.accepted := rfl
@[simp] theorem setPc_handOffs : (s.setPc i pc).handOffs = s.handOffs := rfl
@[simp] theorem setPc_monitor : (s.setPc i pc).monitor = s.monitor := rfl
@[simp] theorem setPc_sent : (s.setPc i pc).sent = s.sent := rfl
@[simp] theorem setPc_stopped : (s.setPc i pc).stopped = s.stopped := rfl
@[simp] theorem finish_pcs : (s.finish i c).pcs = Function.update s.pcs i .returned := rfl
@[simp] theorem finish_accepted : (s.finish i c).accepted = s.accepted := rfl
@[simp] theorem finish_handOffs : (s.finish i c).handOffs = s.handOffs := rfl
@[simp] theorem finish_monitor : (s.finish i c).monitor = s.monitor := rfl

end Fields

/-- The three moves of notify call `i`: its revision check passes, it hands one notification
off, or anything else (it returns, panics or moves on), which leaves both logs and the monitor
alone and never makes the call hold updates. -/
inductive NotifyMove (s : WatchState) (i : Nat) (c : NotifyCall) (s' : WatchState) : Prop
  /-- the revision check passes -/
  | accept (hpc : s.pcs i = .entry) (hlt : s.monitor.revChecker.revision < c.revision)
      (hacc : s'.accepted = s.accepted ++ [(i, c.revision)]) (hho : s'.handOffs = s.handOffs)
      (hrev : s'.monitor.revChecker.revision = c.revision)
  /-- one hand-off to `Handler.notify` -/
  | handOff (l : List (Σ _ : String, TableUpdates)) (h : HandOff) (hpc : s.pcs i = .handingOff l)
      (hcall : h.call = i) (hrev : h.revision = c.revision) (hacc : s'.accepted = s.accepted)
      (hho : s'.handOffs = s.handOffs ++ [h]) (hmon : s'.monitor = s.monitor)
  /-- any other move -/
  | other (hacc : s'.accepted = s.accepted) (hho : s'.handOffs = s.handOffs)
      (hmon : s'.monitor = s.monitor) (hactive : (s'.pcs i).active → (s.pcs i).active)
      (hret : s.pcs i = .entry ∨ s.pcs i = .returned → s'.pcs i = .returned)

theorem notifyStep_move (s : WatchState) (i : Nat) (c : NotifyCall) :
    NotifyMove s i c (s.notifyStep i c) := by
  unfold notifyStep
  cases hpc : s.pcs i with
  | entry =>
    have hfin : NotifyMove s i c (s.finish i c) := .other rfl rfl rfl
      (by simp [NotifyPc.active]) (fun _ => by simp)
    by_cases he : c.events = []
    · simpa only [he, if_true] using hfin
    · simp only [he, if_false, RevisionChecker.isNewRevision]
      split_ifs with hgt
      · exact .accept hpc hgt rfl rfl rfl
      · exact hfin
  | accepted =>
    cases s.monitor.prepareTableUpdate c.events with
    | none => exact .other rfl rfl rfl (by simp [hpc, NotifyPc.active]) (by simp [hpc])
    | some result =>
      dsimp only
      split_ifs
      · exact .other rfl rfl rfl (by simp [hpc, NotifyPc.active]) (by simp [hpc])
      · exact .other rfl rfl rfl (by simp [hpc, NotifyPc.active]) (by simp [hpc])
  | handingOff l =>
    cases l with
    | nil => exact .other rfl rfl rfl (by simp [NotifyPc.active]) (by simp [hpc])
    | cons x rest => exact .handOff _ _ hpc rfl rfl rfl rfl rfl
  | returned => exact .other rfl rfl rfl (by simp [hpc]) (fun _ => hpc)
  | panicked => exact .other rfl rfl rfl (by simp [hpc]) (by simp [hpc])

/-- **What a notify step leaves alone**: the notifiers, the other calls, and the channels'
pending events, which it can only extend; and the call itself never goes back to its entry. -/
theorem notifyStep_frame (s : WatchState) (i : Nat) (c : NotifyCall) :
    (s.notifyStep i c).stopped = s.stopped ∧
      (∀ j, j ≠ i → (s.notifyStep i c).pcs j = s.pcs j) ∧
      (s.notifyStep i c).pcs i ≠ .entry ∧
      ∀ j, s.chains j <+: (s.notifyStep i c).chains j := by
  unfold notifyStep
  split
  · split_ifs
    · exact ⟨rfl, fun j h => by simp [h], by simp, fun _ => List.prefix_refl _⟩
    · split <;> exact ⟨rfl, fun j h => by simp [h], by simp, fun _ => List.prefix_refl _⟩
  · split
    · exact ⟨rfl, fun j h => by simp [h], by simp, fun _ => List.prefix_refl _⟩
    · split_ifs <;> exact ⟨rfl, fun j h => by simp [h], by simp, fun _ => List.prefix_refl _⟩
  · exact ⟨rfl, fun j h => by simp [h], by simp, fun _ => List.prefix_refl _⟩
  · refine ⟨rfl, fun j h => by simp [h], by simp, fun j => ?_⟩
    simp only [enqueue, Function.update_apply]
    split_ifs with hj
    · subst hj; exact List.prefix_append _ _
    · exact List.prefix_refl _
  all_goals exact ⟨rfl, fun _ _ => rfl, by simp_all, fun _ => List.prefix_refl _⟩

/-- A notify call's step leaves what the notifiers have sent, and the context, alone. -/
@[simp] theorem notifyStep_sent (s : WatchState) (i : Nat) (c : NotifyCall) :
    (s.notifyStep i c).sent = s.sent := by
  unfold notifyStep; repeat' split
  all_goals rfl

@[simp] theorem notifyStep_cancelled (s : WatchState) (i : Nat) (c : NotifyCall) :
    (s.notifyStep i c).cancelled = s.cancelled := by
  unfold notifyStep; repeat' split
  all_goals rfl

theorem notifyStep_pcs_of_ne (s : WatchState) {i j : Nat} (c : NotifyCall) (h : j ≠ i) :
    (s.notifyStep i c).pcs j = s.pcs j :=
  (notifyStep_frame s i c).2.1 j h

/-- A step other than a notify call's moves none of the calls and touches neither log nor the
monitor. -/
theorem step_cases (calls : List NotifyCall) (s : WatchState) (a : Action) :
    (∃ i c, a = .notify i ∧ calls[i]? = some c ∧ s.step calls a = s.notifyStep i c) ∨
      ((s.step calls a).accepted = s.accepted ∧ (s.step calls a).handOffs = s.handOffs ∧
        (s.step calls a).monitor = s.monitor ∧ (s.step calls a).pcs = s.pcs) := by
  cases a with
  | notify i =>
    cases hc : calls[i]? with
    | none => exact .inr (by simp [step, hc])
    | some c => exact .inl ⟨i, c, rfl, hc, by simp [step, hc]⟩
  | recv j =>
    refine .inr ?_
    simp only [step, recvStep]
    split
    · exact ⟨rfl, rfl, rfl, rfl⟩
    · split <;> exact ⟨rfl, rfl, rfl, rfl⟩
  | ctxDone j =>
    refine .inr ?_
    simp only [step, ctxDoneStep]
    split_ifs <;> exact ⟨rfl, rfl, rfl, rfl⟩
  | cancel => exact .inr ⟨rfl, rfl, rfl, rfl⟩

theorem run_cons (calls : List NotifyCall) (s : WatchState) (a : Action) (sched : List Action) :
    s.run calls (a :: sched) = (s.step calls a).run calls sched := rfl

/-! ### The invariant of every run -/

/-- What every reachable state satisfies, for the calls `calls`. -/
structure WatchInv (calls : List NotifyCall) (s : WatchState) : Prop where
  /-- accepted revisions increase strictly -/
  sorted : s.accepted.Pairwise fun a b => a.2 < b.2
  /-- the revision checker holds at least every accepted revision -/
  le_revision : ∀ p ∈ s.accepted, p.2 ≤ s.monitor.revChecker.revision
  /-- an accepted call has passed its revision check -/
  started : ∀ p ∈ s.accepted, s.pcs p.1 ≠ .entry
  /-- a call holding updates was accepted with its own revision -/
  active : ∀ i c, calls[i]? = some c → (s.pcs i).active → (i, c.revision) ∈ s.accepted
  /-- every hand-off is by an accepted call, with its revision -/
  handOff : ∀ h ∈ s.handOffs, (h.call, h.revision) ∈ s.accepted

theorem watchInv_init (calls : List NotifyCall) (m : DbMonitor) :
    WatchInv calls (WatchState.init m) where
  sorted := List.Pairwise.nil
  le_revision := nofun
  started := nofun
  active := fun _ _ _ h => by simp [WatchState.init, NotifyPc.active] at h
  handOff := nofun

section Step

variable {calls : List NotifyCall} {s : WatchState} {i : Nat} {c : NotifyCall}

/-- A call keeps having passed its check: `started` for the accepted calls of `s` and call `i`. -/
theorem notifyStep_started (h : WatchInv calls s) {p : Nat × Int}
    (hp : p ∈ s.accepted ∨ p.1 = i) : (s.notifyStep i c).pcs p.1 ≠ .entry := by
  by_cases hpi : p.1 = i
  · rw [hpi]; exact (notifyStep_frame s i c).2.2.1
  · rw [notifyStep_pcs_of_ne s c hpi]
    exact h.started p (hp.resolve_right hpi)

theorem watchInv_notifyStep (h : WatchInv calls s) (hc : calls[i]? = some c) :
    WatchInv calls (s.notifyStep i c) := by
  have hother : ∀ j cj, j ≠ i → calls[j]? = some cj → ((s.notifyStep i c).pcs j).active →
      (j, cj.revision) ∈ s.accepted := fun j cj hji hcj hact =>
    h.active j cj hcj (by rwa [notifyStep_pcs_of_ne s c hji] at hact)
  cases notifyStep_move s i c with
  | accept hpc hlt hacc hho hrev =>
    have hnew : ∀ p ∈ s.accepted, p.2 < c.revision := fun p hp =>
      lt_of_le_of_lt (h.le_revision p hp) hlt
    refine ⟨?_, ?_, ?_, ?_, ?_⟩ <;> simp only [hacc, hho, hrev]
    · exact List.pairwise_append.mpr ⟨h.sorted, List.pairwise_singleton _ _,
        fun a ha b hb => List.mem_singleton.mp hb ▸ hnew a ha⟩
    · intro p hp
      rcases List.mem_append.mp hp with hp | hp
      · exact (hnew p hp).le
      · rw [List.mem_singleton.mp hp]
    · intro p hp
      rcases List.mem_append.mp hp with hp | hp
      · exact notifyStep_started h (.inl hp)
      · exact notifyStep_started h (.inr (by rw [List.mem_singleton.mp hp]))
    · intro j cj hcj hact
      by_cases hji : j = i
      · subst hji
        rw [hc, Option.some.injEq] at hcj
        subst hcj
        exact List.mem_append_right _ (List.mem_singleton_self _)
      · exact List.mem_append_left _ (hother j cj hji hcj hact)
    · exact fun x hx => List.mem_append_left _ (h.handOff x hx)
  | handOff l x hpc hcall hrev hacc hho hmon =>
    have hi : (i, c.revision) ∈ s.accepted := h.active i c hc (by simp [hpc, NotifyPc.active])
    refine ⟨?_, ?_, ?_, ?_, ?_⟩ <;> simp only [hacc, hho, hmon]
    · exact h.sorted
    · exact h.le_revision
    · exact fun p hp => notifyStep_started h (.inl hp)
    · intro j cj hcj hact
      by_cases hji : j = i
      · subst hji
        rw [hc, Option.some.injEq] at hcj
        exact hcj ▸ hi
      · exact hother j cj hji hcj hact
    · intro y hy
      rcases List.mem_append.mp hy with hy | hy
      · exact h.handOff y hy
      · rw [List.mem_singleton.mp hy, hcall, hrev]; exact hi
  | other hacc hho hmon hactive _ =>
    refine ⟨?_, ?_, ?_, ?_, ?_⟩ <;> simp only [hacc, hho, hmon]
    · exact h.sorted
    · exact h.le_revision
    · exact fun p hp => notifyStep_started h (.inl hp)
    · intro j cj hcj hact
      by_cases hji : j = i
      · subst hji; exact h.active j cj hcj (hactive hact)
      · exact hother j cj hji hcj hact
    · exact h.handOff

theorem watchInv_step (h : WatchInv calls s) (a : Action) : WatchInv calls (s.step calls a) := by
  rcases step_cases calls s a with ⟨i, c, -, hc, heq⟩ | ⟨hacc, hho, hmon, hpcs⟩
  · rw [heq]; exact watchInv_notifyStep h hc
  · exact ⟨hacc ▸ h.sorted, hacc ▸ hmon ▸ h.le_revision, hacc ▸ hpcs ▸ h.started,
      hacc ▸ hpcs ▸ h.active, hho ▸ hacc ▸ h.handOff⟩

theorem watchInv_run (h : WatchInv calls s) (sched : List Action) :
    WatchInv calls (s.run calls sched) := by
  induction sched generalizing s with
  | nil => exact h
  | cons a sched ih => exact ih (watchInv_step h a)

end Step

/-- **The invariant holds after every interleaving** of the calls `calls` on monitor `m`. -/
theorem run_watchInv (calls : List NotifyCall) (m : DbMonitor) (sched : List Action) :
    WatchInv calls ((WatchState.init m).run calls sched) :=
  watchInv_run (watchInv_init calls m) sched

/-! ### Safety of the revision check -/

/-- **No revision is handed off by two calls**: the accepted revisions are distinct, and a
hand-off carries the revision its call was accepted with. -/
theorem handOff_call_unique {calls : List NotifyCall} {s : WatchState} (h : WatchInv calls s)
    {x y : HandOff} (hx : x ∈ s.handOffs) (hy : y ∈ s.handOffs) (hr : x.revision = y.revision) :
    x.call = y.call := by
  have hne : s.accepted.Pairwise fun a b => a.2 ≠ b.2 := h.sorted.imp ne_of_lt
  by_contra hxy
  exact hne.forall (fun _ _ hab => hab.symm) (h.handOff x hx) (h.handOff y hy)
    (fun heq => hxy (congrArg Prod.fst heq)) hr

section Rejected

variable {calls : List NotifyCall} {i : Nat} {c : NotifyCall}

/-- Call `i` has not passed its check and never will: its revision is not above the checker's,
it is waiting or returned, and it made no hand-off. -/
def Rejected (calls : List NotifyCall) (i : Nat) (c : NotifyCall) (s : WatchState) : Prop :=
  calls[i]? = some c ∧ (s.pcs i = .entry ∨ s.pcs i = .returned) ∧
    c.revision ≤ s.monitor.revChecker.revision ∧ ∀ x ∈ s.handOffs, x.call ≠ i

theorem rejected_notifyStep {s : WatchState} (h : Rejected calls i c s) {j : Nat} {cj : NotifyCall}
    (hcj : calls[j]? = some cj) : Rejected calls i c (s.notifyStep j cj) := by
  obtain ⟨hc, hpc, hle, hho⟩ := h
  by_cases hji : j = i
  · subst hji
    rw [hc, Option.some.injEq] at hcj
    subst hcj
    cases notifyStep_move s j c with
    | accept _ hlt => exact absurd hle (not_le.mpr hlt)
    | handOff l _ hpc' => rcases hpc with hpc | hpc <;> rw [hpc] at hpc' <;> cases hpc'
    | other _ hho' hmon _ hret =>
      exact ⟨hc, .inr (hret hpc), hmon ▸ hle, hho' ▸ hho⟩
  · have hpc' : (s.notifyStep j cj).pcs i = s.pcs i := notifyStep_pcs_of_ne s cj (Ne.symm hji)
    cases notifyStep_move s j cj with
    | accept _ hlt _ hho' hrev =>
      exact ⟨hc, hpc' ▸ hpc, hrev ▸ hle.trans hlt.le, hho' ▸ hho⟩
    | handOff l x _ hcall _ _ hho' hmon =>
      refine ⟨hc, hpc' ▸ hpc, hmon ▸ hle, fun y hy => ?_⟩
      rcases List.mem_append.mp (hho' ▸ hy) with hy | hy
      · exact hho y hy
      · rw [List.mem_singleton.mp hy, hcall]; exact hji
    | other _ hho' hmon _ _ => exact ⟨hc, hpc' ▸ hpc, hmon ▸ hle, hho' ▸ hho⟩

theorem rejected_run {s : WatchState} (h : Rejected calls i c s) :
    ∀ sched, Rejected calls i c (s.run calls sched)
  | [] => h
  | a :: sched => by
    rw [run_cons]
    refine rejected_run ?_ sched
    rcases step_cases calls s a with ⟨j, cj, -, hcj, heq⟩ | ⟨_, hho, hmon, hpcs⟩
    · rw [heq]; exact rejected_notifyStep h hcj
    · obtain ⟨hc, hpc, hle, hho'⟩ := h
      exact ⟨hc, hpcs ▸ hpc, hmon ▸ hle, hho ▸ hho'⟩

end Rejected

/-- **A batch whose revision is not above an accepted one hands off nothing**: if call `i` has
not reached its revision check while a revision at least its own is accepted, no hand-off of
call `i` is made in any continuation of the run. -/
theorem run_rejected_no_handOff {calls : List NotifyCall} {s : WatchState}
    (h : WatchInv calls s) {i : Nat} {c : NotifyCall} (hc : calls[i]? = some c)
    (hpc : s.pcs i = .entry) {p : Nat × Int} (hp : p ∈ s.accepted) (hle : c.revision ≤ p.2)
    (sched : List Action) : ∀ x ∈ (s.run calls sched).handOffs, x.call ≠ i :=
  (rejected_run ⟨hc, .inl hpc, hle.trans (h.le_revision p hp),
    fun x hx hxi => h.started _ (h.handOff x hx) (hxi ▸ hpc)⟩ sched).2.2.2

/-! ### Hand-off order -/

/-- The monitor of database `db` with one updater on table `T` for each json-value. -/
def tableMonitor (jsonValues : List String) : DbMonitor :=
  (newMonitor "db").addUpdaters (AList.singleton (newTableKey ["ovsdb", "nb"] "db" "T")
    (jsonValues.map fun j => mcrToUpdater {} j ⟨[]⟩ true))

/-- A batch creating row `uuid` of table `T` at `revision`. -/
def createBatch (uuid : String) (revision : Int) : List Event :=
  [{ type := .put, prevKv := none,
     kv := some ⟨["ovsdb", "nb", "db", "T", uuid], revision, revision,
       some (.object [("_uuid", .array [.string "uuid", .string uuid]), ("c", .number 1)])⟩ }]

theorem run_handOffs_out_of_order :
    ((WatchState.init (tableMonitor ["j"])).run
        [⟨createBatch "U1" 1, 1, none⟩, ⟨createBatch "U2" 2, 2, some 7⟩]
        [.notify 0, .notify 1, .notify 1, .notify 1, .notify 0, .notify 0]).accepted =
      [(0, 1), (1, 2)] ∧
    ((WatchState.init (tableMonitor ["j"])).run
        [⟨createBatch "U1" 1, 1, none⟩, ⟨createBatch "U2" 2, 2, some 7⟩]
        [.notify 0, .notify 1, .notify 1, .notify 1, .notify 0, .notify 0]).handOffs.map
      HandOff.revision = [2, 1] := by
  decide

/-! ### Wait groups -/

section Notifier

variable (s : WatchState) (j : String)

/-- **A cancelled context makes the notifier return with its events pending**: the select's
`handlerContext.Done()` case releases no wait group and leaves the channel as it is. -/
theorem ctxDoneStep_pending (hc : s.cancelled = true) (hs : s.stopped j = false) :
    (s.ctxDoneStep j).stopped j = true ∧ (s.ctxDoneStep j).chains = s.chains ∧
      (s.ctxDoneStep j).done = s.done := by
  simp [ctxDoneStep, hc, hs]

theorem stopped_step (calls : List NotifyCall) (a : Action) (h : s.stopped j = true) :
    (s.step calls a).stopped j = true ∧ s.chains j <+: (s.step calls a).chains j ∧
      (s.step calls a).sent j = s.sent j := by
  cases a with
  | notify i =>
    simp only [step]
    split
    · exact ⟨(notifyStep_frame s _ _).1 ▸ h, (notifyStep_frame s _ _).2.2.2 j,
        by rw [notifyStep_sent]⟩
    · exact ⟨h, List.prefix_refl _, rfl⟩
  | recv j' =>
    by_cases hj' : s.stopped j' = true
    · simp [step, recvStep, hj', h]
    · have hne : j ≠ j' := fun e => hj' (e ▸ h)
      simp only [step, recvStep, hj', if_false]
      cases s.chains j' with
      | nil => exact ⟨h, List.prefix_refl _, rfl⟩
      | cons ev rest =>
        dsimp only
        cases s.cancelled <;> simp [Function.update_noteq hne, h]
  | ctxDone j' =>
    simp only [step, ctxDoneStep]
    split_ifs
    · by_cases hj : j = j' <;> simp [Function.update_apply, hj, h]
    · exact ⟨h, List.prefix_refl _, rfl⟩
  | cancel => exact ⟨h, List.prefix_refl _, rfl⟩

/-- **A returned notifier never receives again**: its channel only grows, so the events pending on
it are never sent, by it or anyone, and their wait groups never released by it. -/
theorem run_stopped_chain (calls : List NotifyCall) (h : s.stopped j = true)
    (sched : List Action) :
    (s.run calls sched).stopped j = true ∧ s.chains j <+: (s.run calls sched).chains j ∧
      (s.run calls sched).sent j = s.sent j := by
  induction sched generalizing s with
  | nil => exact ⟨h, List.prefix_refl _, rfl⟩
  | cons a sched ih =>
    obtain ⟨h1, h2, h3⟩ := stopped_step s j calls a h
    obtain ⟨h4, h5, h6⟩ := ih _ h1
    exact ⟨h4, h2.trans h5, h6.trans h3⟩

theorem cancelled_step (calls : List NotifyCall) (a : Action) (h : s.cancelled = true) :
    (s.step calls a).cancelled = true ∧ (s.step calls a).sent = s.sent := by
  cases a with
  | notify i => simp only [step]; split <;> simp [h]
  | recv j' =>
    simp only [step, recvStep]
    repeat' split
    all_goals simp [h]
  | ctxDone j' => simp only [step, ctxDoneStep]; split_ifs <;> simp [h]
  | cancel => exact ⟨rfl, rfl⟩

/-- **Cancelling the context stops every send**: a notifier that receives an event after the
cancellation returns without sending it. -/
theorem run_cancelled_sent (calls : List NotifyCall) (h : s.cancelled = true)
    (sched : List Action) : (s.run calls sched).sent = s.sent := by
  induction sched generalizing s with
  | nil => rfl
  | cons a sched ih =>
    obtain ⟨h1, h2⟩ := cancelled_step s calls a h
    exact (ih _ h1).trans h2

end Notifier

theorem run_done_twice :
    ((WatchState.init (tableMonitor ["j", "k"])).run [⟨createBatch "U1" 1, 1, some 7⟩]
      [.notify 0, .notify 0, .notify 0, .notify 0, .notify 0, .recv "j", .recv "k"]).done =
      [7, 7] ∧
    (∀ (s : WatchState) (j : String), s.cancelled = true → s.stopped j = false →
      (s.ctxDoneStep j).stopped j = true ∧ (s.ctxDoneStep j).chains = s.chains ∧
        (s.ctxDoneStep j).done = s.done) ∧
    ∀ (calls : List NotifyCall) (s : WatchState) (j : String) (sched : List Action),
      s.stopped j = true →
      (s.run calls sched).stopped j = true ∧ s.chains j <+: (s.run calls sched).chains j ∧
        (s.run calls sched).sent j = s.sent j :=
  ⟨by decide, ctxDoneStep_pending, fun calls s j sched h => run_stopped_chain s j calls h sched⟩

end WatchState

end OvsdbMonitor
