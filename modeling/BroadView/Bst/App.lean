import BroadView.SystemTime

namespace BroadView.Bst

-- A message carries a command number; MAX stands for any number that names no
-- command.
inductive BVIEW_BST_CMD_API where
  | SET_TRACK | SET_FEATURE | SET_THRESHOLD | CLEAR_THRESHOLD | CLEAR_STATS
  | GET_REPORT | GET_FEATURE | GET_TRACK | GET_THRESHOLD
  | TRIGGER_REPORT | CLEAR_TRIGGER_COUNT | ENABLE_BST_ON_TRIGGER | TRIGGER_COLLECT
  | UPDATE_TRACK | UPDATE_FEATURE
  | MAX
  deriving DecidableEq, Repr

inductive BVIEW_BST_REPORT_TYPE where
  | STATS | THRESHOLD | STATS_PERIODIC | STATS_TRIGGER
  deriving DecidableEq, Repr

inductive BVIEW_BST_THRESHOLD_TYPE where
  | DEVICE | EGRESS_PORT_SP | EGRESS_SP | EGRESS_UC_QUEUE | EGRESS_UC_QUEUEGROUPS
  | EGRESS_MC_QUEUE | EGRESS_CPU_QUEUE | EGRESS_RQE_QUEUE
  | INGRESS_PORT_PG | INGRESS_PORT_SP | INGRESS_SP
  deriving DecidableEq, Repr

inductive BVIEW_BST_COLLECTION_MODE where
  | CURRENT | PEAK
  deriving DecidableEq, Repr

inductive BST_ID where
  | DEVICE | ING_POOL | PORT_POOL | PRI_GROUP_SHARED | PRI_GROUP_HEADROOM | EGR_POOL
  | EGR_MCAST_POOL | UCAST | MCAST | EGR_UCAST_PORT_SHARED | EGR_PORT_SHARED | RQE_QUEUE
  | UCAST_GROUP
  deriving DecidableEq, Repr

def BST_ID.all : List BST_ID :=
  [.DEVICE, .ING_POOL, .PORT_POOL, .PRI_GROUP_SHARED, .PRI_GROUP_HEADROOM, .EGR_POOL,
    .EGR_MCAST_POOL, .UCAST, .MCAST, .EGR_UCAST_PORT_SHARED, .EGR_PORT_SHARED, .RQE_QUEUE,
    .UCAST_GROUP]

def BVIEW_BST_DEFAULT_ENABLE : Int := 0
def BVIEW_BST_PERIODIC_REPORT_DEFAULT : Int := 0
def BVIEW_BST_DEFAULT_INTERVAL : Int := 60
def BVIEW_BST_DEFAULT_STATS_UNITS : Int := 1
def BVIEW_BST_DEFAULT_STATS_PERCENTAGE : Int := 0
def BVIEW_BST_DEFAULT_TRACK_INGRESS : Bool := true
def BVIEW_BST_DEFAULT_TRACK_EGRESS : Bool := true
def BVIEW_BST_DEFAULT_TRACK_DEVICE : Bool := true
def BVIEW_BST_DEFAULT_PLUGIN_INTERVAL : Int := 5
def BVIEW_BST_DEFAULT_MAX_TRIGGERS : Int32 := 1
def BVIEW_BST_DEFAULT_SNAPSHOT_TRIGGER : Int := 1
def BVIEW_BST_DEFAULT_TRIGGER_INTERVAL : Int := 1
def BVIEW_BST_DEFAULT_SEND_INCR_REPORT : Int := 1
def BVIEW_BST_TIME_CONVERSION_FACTOR : Int := 1000

-- The nine bits of configMask, one for each parameter the request carries.
structure BST_CONFIG_PARAM_MASK where
  ENABLE : Bool
  SND_ASYNC_REP : Bool
  COLL_INTRVL : Bool
  STATS_UNITS : Bool
  TGR_RATE_LIMIT : Bool
  SND_SNAP_TGR : Bool
  TGR_RL_INTVL : Bool
  ASYNC_FULL_REP : Bool
  STATS_IN_PERCENT : Bool
  deriving DecidableEq, Repr, Inhabited

structure BSTJSON_CONFIGURE_BST_FEATURE where
  bstEnable : Int
  sendAsyncReports : Int
  collectionInterval : Int
  statsInPercentage : Int
  statUnitsInCells : Int
  bstMaxTriggers : Int32
  sendSnapshotOnTrigger : Int
  triggerTransmitInterval : Int
  sendIncrementalReport : Int
  configMask : BST_CONFIG_PARAM_MASK
  deriving DecidableEq, Repr, Inhabited

inductive BVIEW_BST_REALM_ID where
  | DEVICE | EGRESS_PORT_SP | EGRESS_SP | EGRESS_UC_QUEUE | EGRESS_UC_QUEUEGROUPS
  | EGRESS_MC_QUEUE | EGRESS_CPU_QUEUE | EGRESS_RQE_QUEUE
  | INGRESS_PORT_PG | INGRESS_PORT_SP | INGRESS_SP
  deriving DecidableEq, Repr

-- The enumeration counts from 1, and a tracking mask uses the values as bits.
def BVIEW_BST_REALM_ID.toNat : BVIEW_BST_REALM_ID → Nat
  | .DEVICE => 1
  | .EGRESS_PORT_SP => 2
  | .EGRESS_SP => 3
  | .EGRESS_UC_QUEUE => 4
  | .EGRESS_UC_QUEUEGROUPS => 5
  | .EGRESS_MC_QUEUE => 6
  | .EGRESS_CPU_QUEUE => 7
  | .EGRESS_RQE_QUEUE => 8
  | .INGRESS_PORT_PG => 9
  | .INGRESS_PORT_SP => 10
  | .INGRESS_SP => 11

-- The realms a tracking request, a collection request or a report selects.
-- The JSON parser admits 0 and 1 only for each of them.
structure RealmFlags where
  ingressPortPriorityGroup : Bool
  ingressPortServicePool : Bool
  ingressServicePool : Bool
  egressPortServicePool : Bool
  egressServicePool : Bool
  egressUcQueue : Bool
  egressUcQueueGroup : Bool
  egressMcQueue : Bool
  egressCpuQueue : Bool
  egressRqeQueue : Bool
  device : Bool
  deriving DecidableEq, Repr, Inhabited

def RealmFlags.has (flags : RealmFlags) : BVIEW_BST_REALM_ID → Bool
  | .DEVICE => flags.device
  | .EGRESS_PORT_SP => flags.egressPortServicePool
  | .EGRESS_SP => flags.egressServicePool
  | .EGRESS_UC_QUEUE => flags.egressUcQueue
  | .EGRESS_UC_QUEUEGROUPS => flags.egressUcQueueGroup
  | .EGRESS_MC_QUEUE => flags.egressMcQueue
  | .EGRESS_CPU_QUEUE => flags.egressCpuQueue
  | .EGRESS_RQE_QUEUE => flags.egressRqeQueue
  | .INGRESS_PORT_PG => flags.ingressPortPriorityGroup
  | .INGRESS_PORT_SP => flags.ingressPortServicePool
  | .INGRESS_SP => flags.ingressServicePool

structure BSTJSON_CONFIGURE_BST_TRACKING where
  trackMask : Nat
  trackPeakStats : Bool
  track : RealmFlags
  deriving DecidableEq, Repr, Inhabited

structure BVIEW_BST_TRIGGER_INFO where
  realm : String
  counter : String
  port : Int32
  queue : Int32
  deriving DecidableEq, Repr, Inhabited

structure BSTJSON_REPORT_OPTIONS where
  includes : RealmFlags
  statUnitsInCells : Bool
  reportTrigger : Bool
  reportThreshold : Bool
  sendSnapShotOnTrigger : Bool
  triggerInfo : BVIEW_BST_TRIGGER_INFO
  sendIncrementalReport : Bool
  statsInPercentage : Bool
  bst_max_buffers_ptr : BVIEW_SYSTEM_ASIC_MAX_BUF_SNAPSHOT_DATA
  deriving Inhabited

-- The southbound configuration, as sbapi_bst_config_get and _set pass it.
structure BVIEW_BST_CONFIG where
  enableStatsMonitoring : Bool
  enableDeviceStatsMonitoring : Bool
  enableIngressStatsMonitoring : Bool
  enableEgressStatsMonitoring : Bool
  mode : BVIEW_BST_COLLECTION_MODE
  enablePeriodicCollection : Bool
  collectionPeriod : Int
  statsInPercentage : Int
  statUnitsInCells : Int
  bstMaxTriggers : Int32
  sendSnapshotOnTrigger : Int
  triggerTransmitInterval : Int
  sendIncrementalReport : Int
  trackMask : Nat
  trackInit : Bool
  deriving DecidableEq, Repr

abbrev Cookie := Nat

structure BVIEW_BST_REPORT_SNAPSHOT where
  tv : Int
  snapshot_data : BVIEW_BST_ASIC_SNAPSHOT_DATA
  deriving Inhabited

def BVIEW_BST_REPORT_SNAPSHOT.zero : BVIEW_BST_REPORT_SNAPSHOT := default

-- The members of the request union are fields of their own here: each handler
-- reads only the member its message type fills. A zeroed message has no report
-- type.
structure BVIEW_BST_REQUEST_MSG where
  msg_type : BVIEW_BST_CMD_API
  unit : Nat
  cookie : Option Cookie
  id : Int
  report_type : Option BVIEW_BST_REPORT_TYPE
  threshold_type : Option BVIEW_BST_THRESHOLD_TYPE
  triggerInfo : BVIEW_BST_TRIGGER_INFO
  config : BSTJSON_CONFIGURE_BST_FEATURE
  track : BSTJSON_CONFIGURE_BST_TRACKING
  collect : RealmFlags
  deriving DecidableEq, Repr

-- The message with every field but its type and unit zeroed.
def BVIEW_BST_REQUEST_MSG.zeroed (msg_type : BVIEW_BST_CMD_API) (unit : Nat) :
    BVIEW_BST_REQUEST_MSG :=
  { msg_type, unit, cookie := none, id := 0, report_type := none, threshold_type := none,
    triggerInfo := default, config := default, track := default, collect := default }

structure BVIEW_BST_CFG_PARAMS where
  track : BSTJSON_CONFIGURE_BST_TRACKING
  config : BSTJSON_CONFIGURE_BST_FEATURE
  deriving DecidableEq, Repr

-- A unit owns three statistics buffers; the record pointers name them.
abbrev RecordPtr := Fin 3

structure BVIEW_BST_UNIT_CXT where
  records : RecordPtr → BVIEW_BST_REPORT_SNAPSHOT
  stats_active_record_ptr : RecordPtr
  stats_backup_record_ptr : RecordPtr
  stats_current_record_ptr : RecordPtr
  threshold_record : BVIEW_BST_REPORT_SNAPSHOT
  bst_max_buffers : BVIEW_SYSTEM_ASIC_MAX_BUF_SNAPSHOT_DATA
  bst_collection_timer : TimerNode
  bst_trigger_timer : TimerNode
  bst_config : BVIEW_BST_CFG_PARAMS
  asic_capabilities : BVIEW_ASIC_CAPABILITIES
  bst_trigger_count : BST_ID → UInt32

end BroadView.Bst
