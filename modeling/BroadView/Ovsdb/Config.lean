import BroadView.Bst.Config
import BroadView.Bst.NbApi
import BroadView.Ovsdb.Bufmon

-- The configuration of the plugin: how it follows the bufmon_config column of the
-- System table, and how the application reads and writes it.
namespace BroadView.Ovsdb

open BroadView.Bst CString Printf

-- The keys and values of the bufmon_config column, in the server's order.
abbrev ConfigMap := List (List Char × List Char)

section Update

-- What the loop over the elements of the map carries along.
structure ConfigScan where
  config : BVIEW_OVSDB_CONFIG_DATA
  updated : Bool
  deriving DecidableEq, Repr

def ConfigScan.set (scan : ConfigScan) (config : BVIEW_OVSDB_CONFIG_DATA) (changed : Bool) :
    ConfigScan :=
  { config, updated := scan.updated || changed }

def isTrue (value : List Char) : Bool := value = "true".toList

def requested_mode (value : List Char) : BVIEW_BST_COLLECTION_MODE :=
  if value = "peak".toList then .PEAK else .CURRENT

-- A change of the mode does not count as an update, and a change of the enable
-- flag turns the flag on whatever its value is.
def config_element (scan : ConfigScan) (element : List Char × List Char) : ConfigScan :=
  let (key, value) := element
  let config := scan.config
  if key = "counters_mode".toList then
    scan.set { config with bst_tracking_mode := requested_mode value } false
  else if key = "enabled".toList then
    if isTrue value = config.bst_enable then scan
    else scan.set { config with bst_enable := true } true
  else if key = "periodic_collection_enabled".toList then
    scan.set { config with periodic_collection := isTrue value }
      (isTrue value ≠ config.periodic_collection)
  else if key = "collection_period".toList then
    scan.set { config with collection_interval := atoi value }
      (atoi value ≠ config.collection_interval)
  else if key = "threshold_trigger_collection_enabled".toList then
    scan.set { config with triggerCollectionEnabled := isTrue value }
      (isTrue value ≠ config.triggerCollectionEnabled)
  else if key = "snapshot_on_threshold_trigger".toList then
    scan.set { config with sendSnapshotOnTrigger := isTrue value }
      (isTrue value ≠ config.sendSnapshotOnTrigger)
  else if key = "threshold_trigger_rate_limit".toList then
    scan.set { config with bstMaxTriggers := atoi value } (atoi value ≠ config.bstMaxTriggers)
  else scan

def bst_system_bufmon_config_update (map : ConfigMap) (config : BVIEW_OVSDB_CONFIG_DATA) :
    ConfigScan :=
  map.foldl config_element { config, updated := false }

-- The update of a row of the System table, by its bufmon_config column.
structure SystemUpdate where
  old : Option (Option ConfigMap)
  new : Option (Option ConfigMap)
  deriving DecidableEq, Repr

def SystemUpdate.bufmon_config (update : SystemUpdate) : Option ConfigMap :=
  match update.old, update.new with
  | none, some new => new
  | some old, none => old
  | some _, some new => new
  | none, none => none

-- A configuration with the codes of the notifications that its update makes.
structure ConfigUpdated where
  config : BVIEW_OVSDB_CONFIG_DATA
  notifications : List Int
  deriving DecidableEq, Repr

def system_row_update (state : ConfigUpdated) (update : SystemUpdate) : ConfigUpdated :=
  match update.bufmon_config with
  | none => state
  | some map =>
      let scan := bst_system_bufmon_config_update map state.config
      { config := scan.config
        notifications := state.notifications ++
          if scan.updated then [BVIEW_BST_CONFIG_FEATURE_UPDATE] else [] }

-- One System table of an update message. No row of it sets a bit of the mask that
-- is compared with the mask of the cache.
def bst_ovsdb_cache_update_system (table_update : List SystemUpdate)
    (config : BVIEW_OVSDB_CONFIG_DATA) : ConfigUpdated :=
  let updated := table_update.foldl system_row_update { config, notifications := [] }
  { updated with
    notifications := updated.notifications ++
      if config.trackingMask ≠ 0 then [BVIEW_BST_CONFIG_TRACK_UPDATE] else [] }

-- An update message: the rows of the bufmon table before and after, and those of
-- the System table, where the message has the table.
structure TableUpdates where
  bufmon : Option (List (Option Row × Option Row))
  System : Option (List SystemUpdate)
  deriving DecidableEq, Repr

structure CacheUpdated where
  data : BVIEW_OVSDB_BST_DATA
  notifications : List Int

def update_bufmon (table_update : Option (List (Option Row × Option Row)))
    (data : BVIEW_OVSDB_BST_DATA) : CacheUpdated :=
  match table_update with
  | none => { data, notifications := [] }
  | some transitions =>
      let updated := bst_ovsdb_cache_update_table
        (transitions.map fun (before, after) => row_update before after) data
      { data := updated.data
        notifications := if updated.notified then [BVIEW_BST_CONFIG_TRACK_UPDATE] else [] }

def update_system (table_update : Option (List SystemUpdate)) (data : BVIEW_OVSDB_BST_DATA) :
    CacheUpdated :=
  match table_update with
  | none => { data, notifications := [] }
  | some updates =>
      let updated := bst_ovsdb_cache_update_system updates data.config_data
      { data := { data with config_data := updated.config }
        notifications := updated.notifications }

-- The monitored tables in their order. The calls back on triggers are left out.
def bst_ovsdb_cache_update (updates : TableUpdates) (data : BVIEW_OVSDB_BST_DATA) : CacheUpdated :=
  let bufmon := update_bufmon updates.bufmon data
  let system := update_system updates.System bufmon.data
  { system with notifications := bufmon.notifications ++ system.notifications }

end Update

section Get

def OVSDB_BST_MAX_TRIGGERS_NOT_INIT : Int32 := 0
def OVSDB_BST_MAX_TRIGGERS_DEFAULT : Int32 := 60

-- A limit that was never set is reported as the default.
def reported_limit (bstMaxTriggers : Int32) : Int32 :=
  if bstMaxTriggers = OVSDB_BST_MAX_TRIGGERS_NOT_INIT then OVSDB_BST_MAX_TRIGGERS_DEFAULT
  else bstMaxTriggers

def bst_ovsdb_cache_bst_config_get (data : BVIEW_OVSDB_BST_DATA) : BVIEW_OVSDB_CONFIG_DATA :=
  { data.config_data with bstMaxTriggers := reported_limit data.config_data.bstMaxTriggers }

-- The callers zero the structure that the function fills.
def sbplugin_ovsdb_bst_config_get (data : BVIEW_OVSDB_BST_DATA) : BVIEW_BST_CONFIG :=
  let config := bst_ovsdb_cache_bst_config_get data
  { enableStatsMonitoring := config.bst_enable
    enableDeviceStatsMonitoring := false
    enableIngressStatsMonitoring := false
    enableEgressStatsMonitoring := false
    mode := config.bst_tracking_mode
    enablePeriodicCollection := config.periodic_collection
    collectionPeriod := config.collection_interval.toInt
    statsInPercentage := 0
    statUnitsInCells := 0
    bstMaxTriggers := config.bstMaxTriggers
    sendSnapshotOnTrigger := boolToInt config.sendSnapshotOnTrigger
    triggerTransmitInterval := 0
    sendIncrementalReport := 0
    trackMask := config.trackingMask
    trackInit := false }

end Get

section Set

-- What the plugin asks of the server: a new bufmon_config column, or the enabled
-- column of all rows of a realm.
inductive Transaction where
  | bufmon_config (map : ConfigMap)
  | enabled (realmName : String) (enabled : Option Bool)
  deriving DecidableEq, Repr

def boolText (b : Bool) : List Char := if b then "true".toList else "false".toList

def config_map (config : BVIEW_OVSDB_CONFIG_DATA) : ConfigMap :=
  [("enabled".toList, boolText config.bst_enable),
    ("counters_mode".toList,
      if config.bst_tracking_mode = .PEAK then "peak".toList else "current".toList),
    ("periodic_collection_enabled".toList, boolText config.periodic_collection),
    ("snapshot_on_threshold_trigger".toList, boolText config.sendSnapshotOnTrigger),
    ("collection_period".toList, showInt config.collection_interval.toInt),
    ("threshold_trigger_rate_limit".toList, showInt config.bstMaxTriggers.toInt),
    ("threshold_trigger_collection_enabled".toList, boolText config.triggerCollectionEnabled)]

def bst_ovsdb_realm_name_get (realm : BVIEW_BST_REALM_ID) : String :=
  ((realm_id_map.find? fun entry => entry.2 = realm).map Prod.fst).getD ""

-- The realms in the order of their ids.
def realm_ids : List BVIEW_BST_REALM_ID :=
  [.DEVICE, .EGRESS_PORT_SP, .EGRESS_SP, .EGRESS_UC_QUEUE, .EGRESS_UC_QUEUEGROUPS,
    .EGRESS_MC_QUEUE, .EGRESS_CPU_QUEUE, .EGRESS_RQE_QUEUE, .INGRESS_PORT_PG, .INGRESS_PORT_SP,
    .INGRESS_SP]

-- A realm that is not tracked has no value in the enabled column.
def realm_transaction (trackingMask : Nat) (realm : BVIEW_BST_REALM_ID) : Transaction :=
  .enabled (bst_ovsdb_realm_name_get realm)
    (if trackingMask.testBit realm.toNat then some true else none)

def bst_ovsdb_bst_config_commit (config : BVIEW_OVSDB_CONFIG_DATA) : Transaction :=
  .bufmon_config (config_map config)

-- The transaction of the last realm is sent once more to wait for it.
def bst_ovsdb_bst_tracking_commit (config : BVIEW_OVSDB_CONFIG_DATA) : List Transaction :=
  realm_ids.map (realm_transaction config.trackingMask) ++
    [realm_transaction config.trackingMask .INGRESS_SP]

structure ConfigSet where
  rv : BVIEW_STATUS
  sent : List Transaction
  data : BVIEW_OVSDB_BST_DATA

-- Sessions with the server are taken to be open.
def bst_ovsdb_bst_config_set (trackInit : Bool) (config : BVIEW_OVSDB_CONFIG_DATA)
    (data : BVIEW_OVSDB_BST_DATA) : ConfigSet :=
  if trackInit then
    { rv := .SUCCESS, sent := [bst_ovsdb_bst_config_commit config], data }
  else
    { rv := .SUCCESS
      sent := bst_ovsdb_bst_config_commit config :: bst_ovsdb_bst_tracking_commit config
      data := { data with
        config_data := { data.config_data with trackingMask := config.trackingMask } } }

def bst_ovsdb_cache_bst_config_set (config : BVIEW_OVSDB_CONFIG_DATA)
    (data : BVIEW_OVSDB_BST_DATA) : BVIEW_OVSDB_BST_DATA :=
  { data with
    config_data := { data.config_data with
      bst_enable := config.bst_enable
      bst_tracking_mode := config.bst_tracking_mode
      periodic_collection := config.periodic_collection
      collection_interval := config.collection_interval
      bstMaxTriggers := config.bstMaxTriggers
      sendSnapshotOnTrigger := config.sendSnapshotOnTrigger } }

def intToBool (i : Int) : Bool := decide (i ≠ 0)

-- The enable flag and the mode always pass their checks.
def sbplugin_ovsdb_bst_config_set (data : BVIEW_BST_CONFIG) (cache : BVIEW_OVSDB_BST_DATA) :
    ConfigSet :=
  let config : BVIEW_OVSDB_CONFIG_DATA :=
    { bst_enable := data.enableStatsMonitoring
      bst_tracking_mode := data.mode
      periodic_collection := data.enablePeriodicCollection
      collection_interval := Int32.ofInt data.collectionPeriod
      bstMaxTriggers := data.bstMaxTriggers
      sendSnapshotOnTrigger := intToBool data.sendSnapshotOnTrigger
      triggerCollectionEnabled := true
      trackingMask := data.trackMask }
  let set := bst_ovsdb_bst_config_set data.trackInit config cache
  { set with data := bst_ovsdb_cache_bst_config_set config set.data }

end Set

end BroadView.Ovsdb
