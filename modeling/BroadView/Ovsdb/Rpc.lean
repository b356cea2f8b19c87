import BroadView.Ovsdb.Config
import BroadView.Ovsdb.Threshold

-- The writes of the plugin, with what the OVSDB client library answers to them.
namespace BroadView.Ovsdb

open BroadView.Bst

-- A call of one of the set functions, with the port and index it is given.
inductive ThresholdCall where
  | device (thres : BVIEW_BST_DEVICE_THRESHOLD)
  | ippg (port pg : Int32) (thres : BVIEW_BST_INGRESS_PORT_PG_THRESHOLD)
  | ipsp (port sp : Int32) (thres : BVIEW_BST_INGRESS_PORT_SP_THRESHOLD)
  | isp (sp : Int32) (thres : BVIEW_BST_INGRESS_SP_THRESHOLD)
  | epsp (port sp : Int32) (thres : BVIEW_BST_EGRESS_PORT_SP_THRESHOLD)
  | esp (sp : Int32) (thres : BVIEW_BST_EGRESS_SP_THRESHOLD)
  | eucq (ucQueue : Int32) (thres : BVIEW_BST_EGRESS_UC_QUEUE_THRESHOLD)
  | eucqg (ucQueueGrp : Int32) (thres : BVIEW_BST_EGRESS_UC_QUEUEGROUPS_THRESHOLD)
  | emcq (mcQueue : Int32) (thres : BVIEW_BST_EGRESS_MC_QUEUE_THRESHOLD)
  | cpuq (cpuQueue : Int32) (thres : BVIEW_BST_EGRESS_CPU_QUEUE_THRESHOLD)
  | rqeq (rqeQueue : Int32) (thres : BVIEW_BST_EGRESS_RQE_QUEUE_THRESHOLD)
  deriving DecidableEq, Repr

namespace ThresholdCall

-- With the sessions open.
def set : ThresholdCall → ThresholdSet
  | device thres => sbplugin_ovsdb_bst_device_threshold_set thres
  | ippg port pg thres => sbplugin_ovsdb_bst_ippg_threshold_set port pg thres
  | ipsp port sp thres => sbplugin_ovsdb_bst_ipsp_threshold_set port sp thres
  | isp sp thres => sbplugin_ovsdb_bst_isp_threshold_set sp thres
  | epsp port sp thres => sbplugin_ovsdb_bst_epsp_threshold_set port sp thres
  | esp sp thres => sbplugin_ovsdb_bst_esp_threshold_set sp thres
  | eucq queue thres => sbplugin_ovsdb_bst_eucq_threshold_set queue thres
  | eucqg group thres => sbplugin_ovsdb_bst_eucqg_threshold_set group thres
  | emcq queue thres => sbplugin_ovsdb_bst_emcq_threshold_set queue thres
  | cpuq queue thres => sbplugin_ovsdb_bst_cpuq_threshold_set queue thres
  | rqeq queue thres => sbplugin_ovsdb_bst_rqeq_threshold_set queue thres

def invalid : ThresholdCall → Bool
  | device thres => BVIEW_BST_DEVICE_THRESHOLD_CHECK thres
  | ippg _ _ thres =>
      BVIEW_BST_IPPG_SHRD_THRESHOLD_CHECK thres || BVIEW_BST_IPPG_HDRM_THRESHOLD_CHECK thres
  | ipsp _ _ thres => BVIEW_BST_IPSP_THRESHOLD_CHECK thres
  | isp _ thres => BVIEW_BST_ISP_THRESHOLD_CHECK thres
  | epsp _ _ thres =>
      BVIEW_BST_EPSP_UC_THRESHOLD_CHECK thres || BVIEW_BST_EPSP_UM_THRESHOLD_CHECK thres ||
        BVIEW_BST_EPSP_MC_THRESHOLD_CHECK thres
  | esp _ thres =>
      BVIEW_BST_E_SP_UM_THRESHOLD_CHECK thres || BVIEW_BST_E_SP_MC_THRESHOLD_CHECK thres
  | eucq _ thres => BVIEW_BST_E_UC_THRESHOLD_CHECK thres
  | eucqg _ thres => BVIEW_BST_E_UC_GRP_THRESHOLD_CHECK thres
  | emcq _ thres =>
      BVIEW_BST_E_MC_THRESHOLD_CHECK thres || BVIEW_BST_E_MC_QUEUE_THRESHOLD_CHECK thres
  | cpuq _ thres => BVIEW_BST_E_CPU_THRESHOLD_CHECK thres
  | rqeq _ thres => BVIEW_BST_E_RQE_THRESHOLD_CHECK thres

def port : ThresholdCall → Int32
  | ippg port _ _ | ipsp port _ _ | epsp port _ _ => port
  | _ => 0

def index : ThresholdCall → Int32
  | device _ => 0
  | ippg _ index _ | ipsp _ index _ | epsp _ index _ => index
  | isp index _ | esp index _ | eucq index _ | eucqg index _ | emcq index _ | cpuq index _
  | rqeq index _ => index

-- The counters that the function sets, in its order.
def counters : ThresholdCall → List (Nat × UInt64)
  | device thres => [(SB_OVSDB_BST_STAT_ID_DEVICE, thres.threshold)]
  | ippg _ _ thres =>
      [(SB_OVSDB_BST_STAT_ID_PRI_GROUP_SHARED, thres.umShareThreshold),
        (SB_OVSDB_BST_STAT_ID_PRI_GROUP_HEADROOM, thres.umHeadroomThreshold)]
  | ipsp _ _ thres => [(SB_OVSDB_BST_STAT_ID_PORT_POOL, thres.umShareThreshold)]
  | isp _ thres => [(SB_OVSDB_BST_STAT_ID_ING_POOL, thres.umShareThreshold)]
  | epsp _ _ thres =>
      [(SB_OVSDB_BST_STAT_ID_EGR_UCAST_PORT_SHARED, thres.ucShareThreshold),
        (SB_OVSDB_BST_STAT_ID_EGR_PORT_SHARED, thres.umShareThreshold)]
  | esp _ thres =>
      [(SB_OVSDB_BST_STAT_ID_EGR_POOL, thres.umShareThreshold),
        (SB_OVSDB_BST_STAT_ID_EGR_MCAST_POOL, thres.mcShareThreshold)]
  | eucq _ thres => [(SB_OVSDB_BST_STAT_ID_UCAST, thres.ucBufferThreshold)]
  | eucqg _ thres => [(SB_OVSDB_BST_STAT_ID_UCAST_GROUP, thres.ucBufferThreshold)]
  | emcq _ thres => [(SB_OVSDB_BST_STAT_ID_MCAST, thres.mcBufferThreshold)]
  | cpuq _ thres => [(SB_OVSDB_BST_STAT_ID_CPU_QUEUE, thres.cpuBufferThreshold)]
  | rqeq _ thres => [(SB_OVSDB_BST_STAT_ID_RQE_QUEUE, thres.rqeBufferThreshold)]

theorem set_eq (call : ThresholdCall) :
    call.set = checked_sets call.invalid call.port call.index call.counters := by
  cases call <;> rfl

end ThresholdCall

namespace Rpc

inductive Request where
  | transaction (transaction : Transaction)
  | threshold (update : ThresholdUpdate)
  | clear_thresholds
  | clear_stats
  deriving DecidableEq, Repr

-- How a wait for a reply ends: with an error, with a reply that carries an
-- error, or with a reply without one.
inductive TransactBlock where
  | error | errorReply | reply
  deriving DecidableEq, Repr

-- What the library answers while one commit function runs: whether a session
-- can be opened, whether a request is sent, and what comes back of it.
structure Calls where
  open_jsonrpc : Bool
  jsonrpc_send : Request → Bool
  jsonrpc_send_block : Request → Bool
  jsonrpc_transact_block : Request → TransactBlock

-- A request that was given to the library, whether it took it without error, and
-- whether an earlier one on the same cached session had failed.
structure Sent where
  request : Request
  accepted : Bool
  stale : Bool
  deriving DecidableEq, Repr

structure Commit where
  rv : BVIEW_STATUS
  sent : List Sent
  deriving DecidableEq, Repr

-- A request on a session of its own. check_txn prints what went wrong with it and
-- returns nothing.
def transact (calls : Calls) (request : Request) : Commit :=
  if calls.open_jsonrpc then
    { rv := .SUCCESS
      sent := [⟨request, decide (calls.jsonrpc_transact_block request = .reply), false⟩] }
  else { rv := .FAILURE, sent := [] }

def bst_ovsdb_bst_config_commit (calls : Calls) (config : BVIEW_OVSDB_CONFIG_DATA) : Commit :=
  transact calls (.transaction (Ovsdb.bst_ovsdb_bst_config_commit config))

def bst_ovsdb_clear_thresholds_commit (calls : Calls) : Commit := transact calls .clear_thresholds

def bst_ovsdb_clear_stats_commit (calls : Calls) : Commit := transact calls .clear_stats

def realm_request (trackingMask : Nat) (realm : BVIEW_BST_REALM_ID) : Request :=
  .transaction (realm_transaction trackingMask realm)

-- What the sends return is not looked at.
def bst_ovsdb_bst_tracking_commit (calls : Calls) (config : BVIEW_OVSDB_CONFIG_DATA) : Commit :=
  if calls.open_jsonrpc then
    { rv := .SUCCESS
      sent := (realm_ids.map fun realm =>
          ⟨realm_request config.trackingMask realm,
            calls.jsonrpc_send (realm_request config.trackingMask realm), false⟩) ++
        [⟨realm_request config.trackingMask .INGRESS_SP,
          calls.jsonrpc_send_block (realm_request config.trackingMask .INGRESS_SP), false⟩] }
  else { rv := .FAILURE, sent := [] }

-- The session that bst_ovsdb_threshold_commit keeps from its first call on, with
-- a mark that a send on it has failed. The source keeps no such mark.
structure Connection where
  failed : Bool
  deriving DecidableEq, Repr

-- What a commit of a threshold leaves of the session.
structure ThresholdCommit extends Commit where
  rpc : Option Connection
  deriving DecidableEq, Repr

-- An error of the send is logged and otherwise ignored.
def send_threshold (calls : Calls) (update : ThresholdUpdate) (rpc : Connection) :
    ThresholdCommit :=
  let accepted := calls.jsonrpc_send (.threshold update)
  { rv := .SUCCESS
    sent := [⟨.threshold update, accepted, rpc.failed⟩]
    rpc := some { failed := rpc.failed || !accepted } }

def bst_ovsdb_threshold_commit (calls : Calls) (port index : Int32) (bid : Nat)
    (threshold : UInt64) (rpc : Option Connection) : ThresholdCommit :=
  match Ovsdb.bst_ovsdb_threshold_commit port index bid threshold with
  | none => { rv := .FAILURE, sent := [], rpc }
  | some update =>
      match rpc with
      | some rpc => send_threshold calls update rpc
      | none =>
          if calls.open_jsonrpc then send_threshold calls update { failed := false }
          else { rv := .FAILURE, sent := [], rpc := none }

def bst_ovsdb_threshold_set (calls : Calls) (port index : Int32) (bid : Nat) (threshold : UInt64)
    (rpc : Option Connection) : ThresholdCommit :=
  match bst_ovsdb_resolve_index bid port index with
  | none => { rv := .FAILURE, sent := [], rpc }
  | some _ => bst_ovsdb_threshold_commit calls port (index + 1) bid threshold rpc

-- The answers to the commits of one write, in their order.
abbrev Answers := Nat → Calls

-- The thresholds are set one by one, up to the first failure.
def threshold_sets (port index : Int32) :
    List (Nat × UInt64) → Answers → Option Connection → ThresholdCommit
  | [], _, rpc => { rv := .SUCCESS, sent := [], rpc }
  | (bid, threshold) :: rest, answers, rpc =>
      let set := bst_ovsdb_threshold_set (answers 0) port index bid threshold rpc
      if set.rv ≠ .SUCCESS then { set with rv := .FAILURE }
      else
        let others := threshold_sets port index rest (fun n => answers (n + 1)) set.rpc
        { others with sent := set.sent ++ others.sent }

def checked_sets (call : ThresholdCall) (answers : Answers) (rpc : Option Connection) :
    ThresholdCommit :=
  if call.invalid then { rv := .INVALID_PARAMETER, sent := [], rpc }
  else threshold_sets call.port call.index call.counters answers rpc

structure ConfigSet extends Commit where
  data : BVIEW_OVSDB_BST_DATA

def bst_ovsdb_bst_config_set (trackInit : Bool) (config : BVIEW_OVSDB_CONFIG_DATA)
    (answers : Answers) (data : BVIEW_OVSDB_BST_DATA) : ConfigSet :=
  let committed := bst_ovsdb_bst_config_commit (answers 0) config
  if committed.rv ≠ .SUCCESS then { committed with data }
  else if trackInit then { committed with data }
  else
    let tracked := bst_ovsdb_bst_tracking_commit (answers 1) config
    let sent := committed.sent ++ tracked.sent
    if tracked.rv ≠ .SUCCESS then { rv := tracked.rv, sent, data }
    else
      { rv := .SUCCESS
        sent
        data := { data with
          config_data := { data.config_data with trackingMask := config.trackingMask } } }

def config_of (data : BVIEW_BST_CONFIG) : BVIEW_OVSDB_CONFIG_DATA :=
  { bst_enable := data.enableStatsMonitoring
    bst_tracking_mode := data.mode
    periodic_collection := data.enablePeriodicCollection
    collection_interval := Int32.ofInt data.collectionPeriod
    bstMaxTriggers := data.bstMaxTriggers
    sendSnapshotOnTrigger := intToBool data.sendSnapshotOnTrigger
    triggerCollectionEnabled := true
    trackingMask := data.trackMask }

def sbplugin_ovsdb_bst_config_set (data : BVIEW_BST_CONFIG) (answers : Answers)
    (cache : BVIEW_OVSDB_BST_DATA) : ConfigSet :=
  let set := bst_ovsdb_bst_config_set data.trackInit (config_of data) answers cache
  if set.rv ≠ .SUCCESS then { set with rv := .FAILURE }
  else { set with data := bst_ovsdb_cache_bst_config_set (config_of data) set.data }

-- The state that the writes share.
structure Plugin where
  data : BVIEW_OVSDB_BST_DATA
  rpc : Option Connection

inductive Write where
  | config_set (data : BVIEW_BST_CONFIG)
  | clear_stats
  | clear_thresholds
  | threshold_set (call : ThresholdCall)

structure Performed extends Commit where
  plugin : Plugin

def perform (plugin : Plugin) (write : Write) (answers : Answers) : Performed :=
  match write with
  | .config_set data =>
      let set := sbplugin_ovsdb_bst_config_set data answers plugin.data
      { set.toCommit with plugin := { plugin with data := set.data } }
  | .clear_stats => { bst_ovsdb_clear_stats_commit (answers 0) with plugin }
  | .clear_thresholds => { bst_ovsdb_clear_thresholds_commit (answers 0) with plugin }
  | .threshold_set call =>
      let set := checked_sets call answers plugin.rpc
      { set.toCommit with plugin := { plugin with rpc := set.rpc } }

end Rpc

end BroadView.Ovsdb
