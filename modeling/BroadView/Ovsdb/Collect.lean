import BroadView.Ovsdb.System

-- The routines that copy the counters of a realm from the cache to a snapshot,
-- under the read lock of the cache.
namespace BroadView.Ovsdb

-- The elements that the data routines store to are those of the snapshot that
-- the thresholds have, too.
namespace ThresholdField

def inArray : ThresholdField → Bool
  | device => true
  | iPortPg_umShare port pg | iPortPg_umHeadroom port pg =>
      decide (port < BVIEW_ASIC_MAX_PORTS ∧ pg < BVIEW_ASIC_MAX_PRIORITY_GROUPS)
  | iPortSp_umShare port sp =>
      decide (port < BVIEW_ASIC_MAX_PORTS ∧ sp < BVIEW_ASIC_MAX_INGRESS_SERVICE_POOLS)
  | iSp_umShare sp => decide (sp < BVIEW_ASIC_MAX_INGRESS_SERVICE_POOLS)
  | ePortSp_ucShare port sp | ePortSp_umShare port sp | ePortSp_mcShare port sp
  | ePortSp_mcShareQueueEntries port sp =>
      decide (port < BVIEW_ASIC_MAX_PORTS ∧ sp < BVIEW_ASIC_MAX_SERVICE_POOLS)
  | eSp_umShare sp | eSp_mcShare sp => decide (sp < BVIEW_ASIC_MAX_SERVICE_POOLS)
  | eUcQ_ucBuffer queue => decide (queue < BVIEW_ASIC_MAX_UC_QUEUES)
  | eUcQg_ucBuffer group => decide (group < BVIEW_ASIC_MAX_UC_QUEUE_GROUPS)
  | eMcQ_mcBuffer queue | eMcQ_mcQueueEntries queue => decide (queue < BVIEW_ASIC_MAX_MC_QUEUES)
  | cpqQ_cpuBuffer queue | cpqQ_cpuQueueEntries queue =>
      decide (queue < BVIEW_ASIC_MAX_CPU_QUEUES)
  | rqeQ_rqeBuffer queue | rqeQ_rqeQueueEntries queue =>
      decide (queue < BVIEW_ASIC_MAX_RQE_QUEUES)

-- A counter is stored on its own: the port of a queue stays.
def putStat (snapshot : BVIEW_BST_ASIC_SNAPSHOT_DATA) (stat : UInt64) :
    ThresholdField → BVIEW_BST_ASIC_SNAPSHOT_DATA
  | eUcQ_ucBuffer queue => { snapshot with
      eUcQ := setCell snapshot.eUcQ queue ({ · with ucBufferCount := stat }) }
  | eMcQ_mcBuffer queue => { snapshot with
      eMcQ := setCell snapshot.eMcQ queue ({ · with mcBufferCount := stat }) }
  | field => field.put snapshot stat

end ThresholdField

-- One use of BVIEW_OVSDB_BST_GET_DB_INDEX and the assignment that follows it.
structure StatRead where
  bid : Nat
  port : Nat
  index : Nat
  member : StatDbMember
  place : ThresholdField
  deriving DecidableEq, Repr

-- What a data routine changes: the read locks held on the cache, the caller's
-- time stamp and the caller's snapshot.
structure CollectState where
  readers : Nat
  time : Int
  snapshot : BVIEW_BST_ASIC_SNAPSHOT_DATA

namespace CollectState

variable (state : CollectState)

def rdlock : CollectState := { state with readers := state.readers + 1 }

def unlock : CollectState := { state with readers := state.readers - 1 }

end CollectState

-- What a data routine meets: the unit and the pointers it checks, the clock and
-- the answer of pthread_rwlock_rdlock.
structure CollectCalls where
  input_valid : Bool
  time : Int
  rdlock : Bool
  deriving DecidableEq, Repr

-- An access outside a table of the cache or an array of the snapshot has no
-- defined outcome.
inductive Collected where
  | overrun
  | returned (rv : BVIEW_STATUS) (state : CollectState)

section Collect

variable (data : BVIEW_OVSDB_BST_DATA)

-- The position is an index of the array member, and the place of the array of
-- the snapshot.
def StatRead.InBounds (read : StatRead) (db_index : Int32) : Prop :=
  0 ≤ db_index.toInt ∧ db_index.toInt < read.member.cells ∧ read.place.inArray = true

instance (read : StatRead) (db_index : Int32) : Decidable (read.InBounds db_index) :=
  inferInstanceAs (Decidable (_ ∧ _ ∧ _))

-- The counter of the position of a member in the one unit of the cache.
def member_stat (member : StatDbMember) (db_index : Int32) : UInt64 :=
  (data.cache (offsetof member + db_index.toInt)).stat

-- The loops of a routine from the lock to the unlock. A position that does not
-- resolve returns from between the two.
def collect_reads : List StatRead → CollectState → Collected
  | [], state => .returned .SUCCESS state.unlock
  | read :: rest, state =>
      match bst_ovsdb_resolve_index read.bid (Int32.ofNat read.port) (Int32.ofNat read.index) with
      | none => .returned .FAILURE state
      | some db_index =>
          if read.InBounds db_index then
            collect_reads rest { state with
              snapshot :=
                read.place.putStat state.snapshot (member_stat data read.member db_index) }
          else .overrun

-- The cache is static, so there always is one.
def data_get (reads : List StatRead) (calls : CollectCalls) (state : CollectState) : Collected :=
  if !calls.input_valid then .returned .INVALID_PARAMETER state
  else
    let timed := { state with time := calls.time }
    if !calls.rdlock then .returned .FAILURE timed
    else collect_reads data reads timed.rdlock

end Collect

section Loops

variable (asic : BVIEW_ASIC_CAPABILITIES)

def BVIEW_BST_PORT_ITER : List Nat := List.range' 1 asic.numPorts

def BVIEW_BST_PG_ITER : List Nat := List.range asic.numPriorityGroups

def BVIEW_BST_SP_ITER : List Nat := List.range asic.numServicePools

def ippg_reads : List StatRead :=
  (BVIEW_BST_PORT_ITER asic).flatMap fun port => (BVIEW_BST_PG_ITER asic).flatMap fun pg =>
    [⟨SB_OVSDB_BST_STAT_ID_PRI_GROUP_SHARED, port, pg, .iPGShared, .iPortPg_umShare (port - 1) pg⟩,
      ⟨SB_OVSDB_BST_STAT_ID_PRI_GROUP_HEADROOM, port, pg, .iPGHeadroom,
        .iPortPg_umHeadroom (port - 1) pg⟩]

def ipsp_reads : List StatRead :=
  (BVIEW_BST_PORT_ITER asic).flatMap fun port => (BVIEW_BST_SP_ITER asic).map fun sp =>
    ⟨SB_OVSDB_BST_STAT_ID_PORT_POOL, port, sp, .iPortSP, .iPortSp_umShare (port - 1) sp⟩

def isp_reads : List StatRead :=
  (BVIEW_BST_SP_ITER asic).map fun sp =>
    ⟨SB_OVSDB_BST_STAT_ID_ING_POOL, 0, sp, .iSP, .iSp_umShare sp⟩

def epsp_reads : List StatRead :=
  (BVIEW_BST_PORT_ITER asic).flatMap fun port => (BVIEW_BST_SP_ITER asic).flatMap fun sp =>
    [⟨SB_OVSDB_BST_STAT_ID_EGR_UCAST_PORT_SHARED, port, sp, .ePortSPucShare,
        .ePortSp_ucShare (port - 1) sp⟩,
      ⟨SB_OVSDB_BST_STAT_ID_EGR_PORT_SHARED, port, sp, .ePortSPumShare,
        .ePortSp_umShare (port - 1) sp⟩]

def esp_reads : List StatRead :=
  (BVIEW_BST_SP_ITER asic).flatMap fun sp =>
    [⟨SB_OVSDB_BST_STAT_ID_EGR_POOL, 0, sp, .eSPumShare, .eSp_umShare sp⟩,
      ⟨SB_OVSDB_BST_STAT_ID_EGR_MCAST_POOL, 0, sp, .eSPmcShare, .eSp_mcShare sp⟩]

def eucq_reads : List StatRead :=
  (List.range asic.numUnicastQueues).map fun cosq =>
    ⟨SB_OVSDB_BST_STAT_ID_UCAST, 0, cosq, .ucQ, .eUcQ_ucBuffer cosq⟩

def eucqg_reads : List StatRead :=
  (List.range asic.numUnicastQueueGroups).map fun cosq =>
    ⟨SB_OVSDB_BST_STAT_ID_UCAST_GROUP, 0, cosq, .eUCqGroup, .eUcQg_ucBuffer cosq⟩

def emcq_reads : List StatRead :=
  (List.range asic.numMulticastQueues).map fun cosq =>
    ⟨SB_OVSDB_BST_STAT_ID_MCAST, 0, cosq, .mcQ, .eMcQ_mcBuffer cosq⟩

def cpuq_reads : List StatRead :=
  (List.range asic.numCpuQueues).map fun cosq =>
    ⟨SB_OVSDB_BST_STAT_ID_CPU_QUEUE, 0, cosq, .eCPU, .cpqQ_cpuBuffer cosq⟩

def rqeq_reads : List StatRead :=
  (List.range asic.numRqeQueues).map fun cosq =>
    ⟨SB_OVSDB_BST_STAT_ID_RQE_QUEUE, 0, cosq, .rqe, .rqeQ_rqeBuffer cosq⟩

end Loops

section Routines

variable (asic : BVIEW_ASIC_CAPABILITIES) (data : BVIEW_OVSDB_BST_DATA) (calls : CollectCalls)
  (state : CollectState)

-- The device has one counter and no index; its time is taken under the lock.
def sbplugin_ovsdb_bst_device_data_get : Collected :=
  if !calls.input_valid then .returned .INVALID_PARAMETER state
  else if !calls.rdlock then .returned .FAILURE state
  else
    let locked := { state.rdlock with time := calls.time }
    let bufferCount := member_stat data .device 0
    .returned .SUCCESS
      { locked with snapshot := { locked.snapshot with device := { bufferCount } } }.unlock

def sbplugin_ovsdb_bst_ippg_data_get : Collected := data_get data (ippg_reads asic) calls state

def sbplugin_ovsdb_bst_ipsp_data_get : Collected := data_get data (ipsp_reads asic) calls state

def sbplugin_ovsdb_bst_isp_data_get : Collected := data_get data (isp_reads asic) calls state

def sbplugin_ovsdb_bst_epsp_data_get : Collected := data_get data (epsp_reads asic) calls state

def sbplugin_ovsdb_bst_esp_data_get : Collected := data_get data (esp_reads asic) calls state

def sbplugin_ovsdb_bst_eucq_data_get : Collected := data_get data (eucq_reads asic) calls state

def sbplugin_ovsdb_bst_eucqg_data_get : Collected := data_get data (eucqg_reads asic) calls state

def sbplugin_ovsdb_bst_emcq_data_get : Collected := data_get data (emcq_reads asic) calls state

def sbplugin_ovsdb_bst_cpuq_data_get : Collected := data_get data (cpuq_reads asic) calls state

def sbplugin_ovsdb_bst_rqeq_data_get : Collected := data_get data (rqeq_reads asic) calls state

-- In the order of sbplugin_ovsdb_bst_snapshot_get.
def data_gets : List Collected :=
  [sbplugin_ovsdb_bst_device_data_get data calls state,
    sbplugin_ovsdb_bst_ippg_data_get asic data calls state,
    sbplugin_ovsdb_bst_ipsp_data_get asic data calls state,
    sbplugin_ovsdb_bst_isp_data_get asic data calls state,
    sbplugin_ovsdb_bst_epsp_data_get asic data calls state,
    sbplugin_ovsdb_bst_esp_data_get asic data calls state,
    sbplugin_ovsdb_bst_eucq_data_get asic data calls state,
    sbplugin_ovsdb_bst_eucqg_data_get asic data calls state,
    sbplugin_ovsdb_bst_emcq_data_get asic data calls state,
    sbplugin_ovsdb_bst_cpuq_data_get asic data calls state,
    sbplugin_ovsdb_bst_rqeq_data_get asic data calls state]

end Routines

end BroadView.Ovsdb
