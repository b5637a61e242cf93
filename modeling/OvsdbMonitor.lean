import OvsdbMonitor.Float
import OvsdbMonitor.Json
import OvsdbMonitor.Etcd
import OvsdbMonitor.Schema
import OvsdbMonitor.Updater
import OvsdbMonitor.DbMonitor
import OvsdbMonitor.Handler
import OvsdbMonitor.Watch
import OvsdbMonitor.Lock
import OvsdbMonitor.Laws.Registry
import OvsdbMonitor.Laws.TableUpdate
import OvsdbMonitor.Laws.Diff
import OvsdbMonitor.Laws.RowUpdate
import OvsdbMonitor.Laws.Watch
import OvsdbMonitor.Laws.Handler
import OvsdbMonitor.Laws.Session
import OvsdbMonitor.Laws.Delivery
import OvsdbMonitor.Laws.Snapshot
import OvsdbMonitor.Laws.Client
import OvsdbMonitor.Laws.Replica
import OvsdbMonitor.Laws.Loop
import OvsdbMonitor.Laws.Window
import OvsdbMonitor.Laws.Lock
