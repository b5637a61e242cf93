import OvsdbMonitor.DbMonitor

/-!
# Concurrent notify calls and the notifier goroutines

`dbMonitor.notify` is called by the watch loop and, with a wait group, by other goroutines, on
the same monitor.  Its atomic steps are the revision check (under `revChecker.mu`),
`prepareTableUpdate` (under `m.mu`) and each hand-off to the handler.  Each monitor json-value
has a notifier goroutine draining its `notificationChain`; its `select` may take a pending
event or the cancelled handler context.

`WatchState` holds the monitor, the point each call has reached, every monitor's channel and
notifier, what each notifier has sent, and two logs kept only for stating properties: the
calls whose revision check passed (`accepted`) and every hand-off in order (`handOffs`).  A run is any sequence of `Action`s, so
every interleaving of the goroutines is a run.  Channels are unbounded here: a full channel
only delays the watch loop.
-/

namespace OvsdbMonitor

/-- `notificationEvent`; a wait group is named by a number. -/
structure NotificationEvent where
  updates : TableUpdates
  wg : Option Nat

/-- One call `m.notify(events, revision, wg)`. -/
structure NotifyCall where
  events : List Event
  revision : Int
  wg : Option Nat

/-- The point a notify call has reached. -/
inductive NotifyPc where
  /-- before the revision check -/
  | entry
  /-- the revision check passed -/
  | accepted
  /-- the hand-offs still to make -/
  | handingOff (pending : List (Σ _ : String, TableUpdates))
  /-- returned; the deferred `wg.Done()` ran unless a hand-off was made -/
  | returned
  /-- `prepareTableUpdate` panicked -/
  | panicked

/-- A hand-off `m.handler.notify(jValue, tableUpdates, wg)` made by call `call`. -/
structure HandOff where
  call : Nat
  revision : Int
  jsonValue : String
  event : NotificationEvent

/-- The monitor, its calls in flight and its handler's notifiers. -/
structure WatchState where
  monitor : DbMonitor
  pcs : Nat → NotifyPc
  /-- the calls whose revision check passed, with their revision, in order -/
  accepted : List (Nat × Int)
  /-- every hand-off, in order -/
  handOffs : List HandOff
  /-- each monitor json-value's `notificationChain` -/
  chains : String → List NotificationEvent
  /-- the table updates each monitor's notifier has sent to the client (`jrpcServer.Notify`),
  in order -/
  sent : String → List TableUpdates
  /-- the monitor's notifier goroutine has returned -/
  stopped : String → Bool
  /-- `handlerContext` is cancelled -/
  cancelled : Bool
  /-- every `wg.Done()`, in order -/
  done : List Nat

/-- A monitor with no call started and idle notifiers. -/
def WatchState.init (m : DbMonitor) : WatchState :=
  { monitor := m, pcs := fun _ => .entry, accepted := [], handOffs := [], chains := fun _ => [],
    sent := fun _ => [], stopped := fun _ => false, cancelled := false, done := [] }

/-- `wg.Done()` when there is a wait group. -/
def releaseWg (wg : Option Nat) (done : List Nat) : List Nat :=
  match wg with
  | some w => done ++ [w]
  | none => done

/-- Modelled from the spec: `Handler.notify(jsonValue, updates, wg)` enqueues the notification
on the channel of the monitor registered under `jsonValue`. -/
def enqueue (chains : String → List NotificationEvent) (jsonValue : String)
    (ev : NotificationEvent) : String → List NotificationEvent :=
  Function.update chains jsonValue (chains jsonValue ++ [ev])

namespace WatchState

/-- Move call `i` to `pc`. -/
def setPc (s : WatchState) (i : Nat) (pc : NotifyPc) : WatchState :=
  { s with pcs := Function.update s.pcs i pc }

/-- The call returns through its deferred `wg.Done()`. -/
def finish (s : WatchState) (i : Nat) (c : NotifyCall) : WatchState :=
  { s.setPc i .returned with done := releaseWg c.wg s.done }

/-- One atomic step of call `i` of `dbMonitor.notify`. -/
def notifyStep (s : WatchState) (i : Nat) (c : NotifyCall) : WatchState :=
  match s.pcs i with
  | .entry =>
    if c.events = [] then s.finish i c
    else
      match s.monitor.revChecker.isNewRevision c.revision with
      | (true, rc) =>
        { s.setPc i .accepted with
          monitor := { s.monitor with revChecker := rc }
          accepted := s.accepted ++ [(i, c.revision)] }
      | (false, _) => s.finish i c
  | .accepted =>
    match s.monitor.prepareTableUpdate c.events with
    | none => { s.setPc i .panicked with done := releaseWg c.wg s.done }
    | some result =>
      if result.entries.length = 0 then s.finish i c else s.setPc i (.handingOff result.entries)
  | .handingOff [] => s.setPc i .returned
  | .handingOff (⟨jValue, tableUpdates⟩ :: rest) =>
    { s.setPc i (.handingOff rest) with
      handOffs := s.handOffs ++ [⟨i, c.revision, jValue, ⟨tableUpdates, c.wg⟩⟩]
      chains := enqueue s.chains jValue ⟨tableUpdates, c.wg⟩ }
  | .returned | .panicked => s

/-- `notifier` receives the oldest pending event of monitor `j`: it releases the event's wait
group, after sending its updates or, when the context is already cancelled, before returning. -/
def recvStep (s : WatchState) (j : String) : WatchState :=
  if s.stopped j then s
  else
    match s.chains j with
    | [] => s
    | ev :: rest =>
      { s with
        chains := Function.update s.chains j rest
        sent := if s.cancelled then s.sent else Function.update s.sent j (s.sent j ++ [ev.updates])
        done := releaseWg ev.wg s.done
        stopped := if s.cancelled then Function.update s.stopped j true else s.stopped }

/-- `notifier` takes the `handlerContext.Done()` case of its select and returns. -/
def ctxDoneStep (s : WatchState) (j : String) : WatchState :=
  if s.cancelled && !s.stopped j then { s with stopped := Function.update s.stopped j true }
  else s

end WatchState

/-- A scheduling decision. -/
inductive Action where
  /-- call `i` takes its next step -/
  | notify (i : Nat)
  /-- monitor `j`'s notifier receives from its channel -/
  | recv (j : String)
  /-- monitor `j`'s notifier sees the cancelled context -/
  | ctxDone (j : String)
  /-- the handler context is cancelled -/
  | cancel

/-- One step of the system running `calls`. -/
def WatchState.step (calls : List NotifyCall) (s : WatchState) : Action → WatchState
  | .notify i => match calls[i]? with
    | some c => s.notifyStep i c
    | none => s
  | .recv j => s.recvStep j
  | .ctxDone j => s.ctxDoneStep j
  | .cancel => { s with cancelled := true }

/-- A run: the steps of a schedule, in order. -/
def WatchState.run (calls : List NotifyCall) (s : WatchState) (sched : List Action) :
    WatchState :=
  sched.foldl (step calls) s

end OvsdbMonitor
