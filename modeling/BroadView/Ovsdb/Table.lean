import BroadView.Ovsdb.Key
import Mathlib.Logic.Function.Basic

namespace BroadView.Ovsdb

open BroadView.Bst

structure BVIEW_OVSDB_BID_INFO where
  stat : UInt64
  threshold : UInt64
  deriving DecidableEq, Repr, Inhabited

-- The mode is zero only until the application writes its first configuration,
-- which is before any of it is read back.
structure BVIEW_OVSDB_CONFIG_DATA where
  bst_enable : Bool
  bst_tracking_mode : BVIEW_BST_COLLECTION_MODE
  periodic_collection : Bool
  collection_interval : Int32
  bstMaxTriggers : Int32
  sendSnapshotOnTrigger : Bool
  triggerCollectionEnabled : Bool
  trackingMask : Nat
  deriving DecidableEq, Repr

-- The cells of all units, by their distance from the first cell of the cache.
structure BVIEW_OVSDB_BST_DATA where
  config_data : BVIEW_OVSDB_CONFIG_DATA
  cache : Int → BVIEW_OVSDB_BID_INFO

-- The static cache of the plugin before any update.
def bst_ovsdb_cache : BVIEW_OVSDB_BST_DATA :=
  { config_data :=
      { bst_enable := false
        bst_tracking_mode := .CURRENT
        periodic_collection := false
        collection_interval := 0
        bstMaxTriggers := 0
        sendSnapshotOnTrigger := false
        triggerCollectionEnabled := false
        trackingMask := 0 }
    cache := fun _ => default }

-- The JSON values that the columns of the bufmon table can have. An optional
-- column without a value is the array of an empty set.
inductive Column where
  | JSON_TRUE
  | JSON_FALSE
  | JSON_INTEGER (integer : Int64)
  | JSON_STRING (string : List Char)
  | JSON_ARRAY
  deriving DecidableEq, Repr

-- One of the two objects of a row update; an absent column is not in the object.
structure RowColumns where
  hw_unit_id : Option Int64
  name : Option (List Char)
  counter_value : Option Column
  trigger_threshold : Option Column
  enabled : Option Column
  status : Option Column
  deriving DecidableEq, Repr

structure RowUpdate where
  old : Option RowColumns
  new : Option RowColumns
  deriving DecidableEq, Repr

-- A row update without any object does not occur.
def OVSDB_GET_COLUMN {α : Type} (update : RowUpdate) (column : RowColumns → Option α) : Option α :=
  match update.old, update.new with
  | none, some new => column new
  | some old, none => column old
  | some _, some new => column new
  | none, none => none

def realm_id_map : List (String × BVIEW_BST_REALM_ID) :=
  [("device", .DEVICE),
    ("ingress-port-priority-group", .INGRESS_PORT_PG),
    ("ingress-port-service-pool", .INGRESS_PORT_SP),
    ("ingress-service-pool", .INGRESS_SP),
    ("egress-port-service-pool", .EGRESS_PORT_SP),
    ("egress-service-pool", .EGRESS_SP),
    ("egress-uc-queue", .EGRESS_UC_QUEUE),
    ("egress-uc-queue-group", .EGRESS_UC_QUEUEGROUPS),
    ("egress-mc-queue", .EGRESS_MC_QUEUE),
    ("egress-cpu-queue", .EGRESS_CPU_QUEUE),
    ("egress-rqe-queue", .EGRESS_RQE_QUEUE)]

def bst_ovsdb_realm_id_get (realmName : String) : Option BVIEW_BST_REALM_ID :=
  (realm_id_map.find? fun realm => realm.1 = realmName).map Prod.snd

def bst_ovsdb_default_threshold_get (bid : Nat) : UInt64 :=
  match bid_tab[bid]? with
  | none => 0
  | some entry => entry.default_threshold

def bst_ovsdb_row_update (asic : Int32) (bid : Nat) (port queue : Int32) (default_threshold : Bool)
    (row : BVIEW_OVSDB_BID_INFO) (data : BVIEW_OVSDB_BST_DATA) : BVIEW_OVSDB_BST_DATA :=
  match bst_ovsdb_cache_row_get asic bid port queue with
  | none => data
  | some address =>
      let threshold := if default_threshold then bst_ovsdb_default_threshold_get bid
        else row.threshold
      { data with cache := Function.update data.cache address { stat := row.stat, threshold } }

-- What the loop over the row updates of a message carries along.
structure TableScan where
  data : BVIEW_OVSDB_BST_DATA
  trackMask : Nat
  triggers : List (Int32 × BVIEW_BST_TRIGGER_INFO)

-- An enabled row adds its realm to the mask of the cache and to the one of the
-- message. Nothing takes a realm out of the mask of the cache.
def TableScan.track (scan : TableScan) (realm : BVIEW_BST_REALM_ID) : TableScan :=
  if scan.trackMask.testBit realm.toNat then scan
  else
    let config := scan.data.config_data
    { scan with
      data := { scan.data with
        config_data := { config with trackingMask := config.trackingMask ||| 1 <<< realm.toNat } }
      trackMask := scan.trackMask ||| 1 <<< realm.toNat }

-- The row starts out zeroed, and a column that is no integer leaves it so.
def integerOrZero : Option Column → UInt64
  | some (.JSON_INTEGER integer) => integer.toUInt64
  | _ => 0

-- The realm of the counter of an enabled row is tracked.
def track_row (update : RowUpdate) (bid : Nat) (scan : TableScan) : TableScan :=
  if OVSDB_GET_COLUMN update (·.enabled) = some .JSON_TRUE then
    match (bid_tab_params[bid]?).bind fun params => bst_ovsdb_realm_id_get params.realm_name with
    | some realm => scan.track realm
    | none => scan
  else scan

def store_row (update : RowUpdate) (asic : Int32) (bid : Nat) (port queue : Int32)
    (scan : TableScan) : TableScan :=
  let threshold := OVSDB_GET_COLUMN update (·.trigger_threshold)
  let row : BVIEW_OVSDB_BID_INFO :=
    { stat := integerOrZero (OVSDB_GET_COLUMN update (·.counter_value))
      threshold := integerOrZero threshold }
  { scan with
    data := bst_ovsdb_row_update asic bid port queue (decide (threshold = some .JSON_ARRAY)) row
      scan.data }

-- The driver counts queues from 1.
def trigger_row (update : RowUpdate) (asic : Int32) (bid : Nat) (port queue : Int32)
    (scan : TableScan) : TableScan :=
  if OVSDB_GET_COLUMN update (·.status) = some (.JSON_STRING "triggered".toList) then
    match bst_ovsdb_trigger_callback bid port (queue - 1) with
    | some triggerInfo => { scan with triggers := scan.triggers ++ [(asic, triggerInfo)] }
    | none => scan
  else scan

-- The body of the loop once the key of the row is decoded.
def bufmon_row (update : RowUpdate) (asic : Int32) (bid : Nat) (port queue : Int32)
    (scan : TableScan) : TableScan :=
  trigger_row update asic bid port queue
    (store_row update asic bid port queue (track_row update bid scan))

-- A row without a name or a unit, or with a name that is not a key, is skipped.
def bufmon_row_update (scan : TableScan) (update : RowUpdate) : TableScan :=
  match OVSDB_GET_COLUMN update (·.name), OVSDB_GET_COLUMN update (·.hw_unit_id) with
  | some name, some hw_unit_id =>
      match bst_ovsdb_row_info_get name 0 with
      | .row bid port queue => bufmon_row update hw_unit_id.toInt32 bid port queue scan
      | _ => scan
  | _, _ => scan

structure TableUpdated where
  data : BVIEW_OVSDB_BST_DATA
  triggers : List (Int32 × BVIEW_BST_TRIGGER_INFO)
  notified : Bool

-- One bufmon table of an update message. The mask of the cache before the
-- message is compared with the mask of the rows of the message alone.
def bst_ovsdb_cache_update_table (table_update : List RowUpdate) (data : BVIEW_OVSDB_BST_DATA) :
    TableUpdated :=
  let oldTrackMask := data.config_data.trackingMask
  let scan := table_update.foldl bufmon_row_update { data, trackMask := 0, triggers := [] }
  { data := scan.data
    triggers := scan.triggers
    notified := decide (oldTrackMask ≠ scan.trackMask) }

end BroadView.Ovsdb
