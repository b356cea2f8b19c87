import BroadView.Ovsdb.Bufmon

-- The thresholds of the plugin: the set functions of the realms, their echo
-- through the bufmon table, and the snapshot of all thresholds. The identifiers and
-- bounds are those of a build for the TD2 platform, which is the default.
namespace BroadView.Ovsdb

def SB_OVSDB_BST_STAT_ID_DEVICE : Nat := 0
def SB_OVSDB_BST_STAT_ID_EGR_POOL : Nat := 1
def SB_OVSDB_BST_STAT_ID_EGR_MCAST_POOL : Nat := 2
def SB_OVSDB_BST_STAT_ID_ING_POOL : Nat := 3
def SB_OVSDB_BST_STAT_ID_PORT_POOL : Nat := 4
def SB_OVSDB_BST_STAT_ID_PRI_GROUP_SHARED : Nat := 5
def SB_OVSDB_BST_STAT_ID_PRI_GROUP_HEADROOM : Nat := 6
def SB_OVSDB_BST_STAT_ID_UCAST : Nat := 7
def SB_OVSDB_BST_STAT_ID_MCAST : Nat := 8
def SB_OVSDB_BST_STAT_ID_EGR_UCAST_PORT_SHARED : Nat := 9
def SB_OVSDB_BST_STAT_ID_EGR_PORT_SHARED : Nat := 10
def SB_OVSDB_BST_STAT_ID_RQE_QUEUE : Nat := 11
def SB_OVSDB_BST_STAT_ID_UCAST_GROUP : Nat := 13
def SB_OVSDB_BST_STAT_ID_CPU_QUEUE : Nat := 14

structure BVIEW_BST_DEVICE_THRESHOLD where
  threshold : UInt64
  deriving DecidableEq, Repr

structure BVIEW_BST_INGRESS_PORT_PG_THRESHOLD where
  umShareThreshold : UInt64
  umHeadroomThreshold : UInt64
  deriving DecidableEq, Repr

structure BVIEW_BST_INGRESS_PORT_SP_THRESHOLD where
  umShareThreshold : UInt64
  deriving DecidableEq, Repr

structure BVIEW_BST_INGRESS_SP_THRESHOLD where
  umShareThreshold : UInt64
  deriving DecidableEq, Repr

structure BVIEW_BST_EGRESS_PORT_SP_THRESHOLD where
  ucShareThreshold : UInt64
  umShareThreshold : UInt64
  mcShareThreshold : UInt64
  mcShareQueueEntriesThreshold : UInt64
  deriving DecidableEq, Repr

structure BVIEW_BST_EGRESS_SP_THRESHOLD where
  umShareThreshold : UInt64
  mcShareThreshold : UInt64
  deriving DecidableEq, Repr

structure BVIEW_BST_EGRESS_UC_QUEUE_THRESHOLD where
  ucBufferThreshold : UInt64
  deriving DecidableEq, Repr

structure BVIEW_BST_EGRESS_UC_QUEUEGROUPS_THRESHOLD where
  ucBufferThreshold : UInt64
  deriving DecidableEq, Repr

structure BVIEW_BST_EGRESS_MC_QUEUE_THRESHOLD where
  mcBufferThreshold : UInt64
  mcQueueThreshold : UInt64
  deriving DecidableEq, Repr

structure BVIEW_BST_EGRESS_CPU_QUEUE_THRESHOLD where
  cpuBufferThreshold : UInt64
  cpuQueueThreshold : UInt64
  deriving DecidableEq, Repr

structure BVIEW_BST_EGRESS_RQE_QUEUE_THRESHOLD where
  rqeBufferThreshold : UInt64
  rqeQueueThreshold : UInt64
  deriving DecidableEq, Repr

section Checks

-- The form of all threshold checks.
def threshold_check (threshold maximum : UInt64) : Bool := threshold ≤ 0 || maximum < threshold

def BVIEW_BST_DEVICE_THRESHOLD_CHECK (thres : BVIEW_BST_DEVICE_THRESHOLD) : Bool :=
  threshold_check thres.threshold BVIEW_BST_DEVICE_THRES_DEFAULT

def BVIEW_BST_IPPG_SHRD_THRESHOLD_CHECK (thres : BVIEW_BST_INGRESS_PORT_PG_THRESHOLD) : Bool :=
  threshold_check thres.umShareThreshold BVIEW_BST_I_P_SP_UCMC_SHARED_THRES_DEFAULT

def BVIEW_BST_IPPG_HDRM_THRESHOLD_CHECK (thres : BVIEW_BST_INGRESS_PORT_PG_THRESHOLD) : Bool :=
  threshold_check thres.umHeadroomThreshold BVIEW_BST_I_P_PG_UCMC_HDRM_THRES_DEFAULT

def BVIEW_BST_IPSP_THRESHOLD_CHECK (thres : BVIEW_BST_INGRESS_PORT_SP_THRESHOLD) : Bool :=
  threshold_check thres.umShareThreshold BVIEW_BST_I_SP_UCMC_SHARED_THRES_DEFAULT

def BVIEW_BST_ISP_THRESHOLD_CHECK (thres : BVIEW_BST_INGRESS_SP_THRESHOLD) : Bool :=
  threshold_check thres.umShareThreshold (0x1FFFF * 208)

def BVIEW_BST_EPSP_UC_THRESHOLD_CHECK (thres : BVIEW_BST_EGRESS_PORT_SP_THRESHOLD) : Bool :=
  threshold_check thres.ucShareThreshold BVIEW_BST_E_P_SP_UC_THRES_DEFAULT

def BVIEW_BST_EPSP_UM_THRESHOLD_CHECK (thres : BVIEW_BST_EGRESS_PORT_SP_THRESHOLD) : Bool :=
  threshold_check thres.umShareThreshold BVIEW_BST_E_P_SP_UCMC_THRES_DEFAULT

def BVIEW_BST_EPSP_MC_THRESHOLD_CHECK (thres : BVIEW_BST_EGRESS_PORT_SP_THRESHOLD) : Bool :=
  threshold_check thres.mcShareThreshold (0x1FFFF * 208)

def BVIEW_BST_E_SP_UM_THRESHOLD_CHECK (thres : BVIEW_BST_EGRESS_SP_THRESHOLD) : Bool :=
  threshold_check thres.umShareThreshold BVIEW_BST_E_SP_UCMC_THRES_DEFAULT

def BVIEW_BST_E_SP_MC_THRESHOLD_CHECK (thres : BVIEW_BST_EGRESS_SP_THRESHOLD) : Bool :=
  threshold_check thres.mcShareThreshold BVIEW_BST_E_SP_MC_THRES_DEFAULT

def BVIEW_BST_E_UC_THRESHOLD_CHECK (thres : BVIEW_BST_EGRESS_UC_QUEUE_THRESHOLD) : Bool :=
  threshold_check thres.ucBufferThreshold BVIEW_BST_UCAST_THRES_DEFAULT

def BVIEW_BST_E_UC_GRP_THRESHOLD_CHECK (thres : BVIEW_BST_EGRESS_UC_QUEUEGROUPS_THRESHOLD) :
    Bool :=
  threshold_check thres.ucBufferThreshold BVIEW_BST_UCAST_QUEUE_GROUP_DEFAULT

def BVIEW_BST_E_MC_THRESHOLD_CHECK (thres : BVIEW_BST_EGRESS_MC_QUEUE_THRESHOLD) : Bool :=
  threshold_check thres.mcBufferThreshold BVIEW_BST_MCAST_THRES_DEFAULT

def BVIEW_BST_E_MC_QUEUE_THRESHOLD_CHECK (thres : BVIEW_BST_EGRESS_MC_QUEUE_THRESHOLD) : Bool :=
  threshold_check thres.mcQueueThreshold (0x1FFFF * 208)

def BVIEW_BST_E_CPU_THRESHOLD_CHECK (thres : BVIEW_BST_EGRESS_CPU_QUEUE_THRESHOLD) : Bool :=
  threshold_check thres.cpuBufferThreshold BVIEW_BST_E_CPU_UCMC_THRES_DEFAULT

def BVIEW_BST_E_RQE_THRESHOLD_CHECK (thres : BVIEW_BST_EGRESS_RQE_QUEUE_THRESHOLD) : Bool :=
  threshold_check thres.rqeBufferThreshold BVIEW_BST_E_RQE_THRES_DEFAULT

end Checks

section Set

-- The transaction that sets the threshold of the rows of a name.
structure ThresholdUpdate where
  name : List Char
  trigger_threshold : Int64
  deriving DecidableEq, Repr

-- A session with the server is taken to be open.
def bst_ovsdb_threshold_commit (port index : Int32) (bid : Nat) (threshold : UInt64) :
    Option ThresholdUpdate :=
  (bst_bid_port_index_to_ovsdb_key bid port index 1024).map fun s_key =>
    { name := s_key, trigger_threshold := threshold.toInt64 }

def bst_ovsdb_threshold_set (port index : Int32) (bid : Nat) (threshold : UInt64) :
    Option ThresholdUpdate :=
  match bst_ovsdb_resolve_index bid port index with
  | none => none
  | some _ => bst_ovsdb_threshold_commit port (index + 1) bid threshold

structure ThresholdSet where
  rv : BVIEW_STATUS
  sent : List ThresholdUpdate
  deriving DecidableEq, Repr

-- The thresholds are set one by one, up to the first failure.
def threshold_sets (port index : Int32) : List (Nat × UInt64) → ThresholdSet
  | [] => { rv := .SUCCESS, sent := [] }
  | (bid, threshold) :: rest =>
      match bst_ovsdb_threshold_set port index bid threshold with
      | none => { rv := .FAILURE, sent := [] }
      | some update =>
          let set := threshold_sets port index rest
          { set with sent := update :: set.sent }

def checked_sets (invalid : Bool) (port index : Int32) (thresholds : List (Nat × UInt64)) :
    ThresholdSet :=
  if invalid then { rv := .INVALID_PARAMETER, sent := [] }
  else threshold_sets port index thresholds

-- The set functions of the one unit of the platform.
def sbplugin_ovsdb_bst_device_threshold_set (thres : BVIEW_BST_DEVICE_THRESHOLD) : ThresholdSet :=
  checked_sets (BVIEW_BST_DEVICE_THRESHOLD_CHECK thres) 0 0
    [(SB_OVSDB_BST_STAT_ID_DEVICE, thres.threshold)]

def sbplugin_ovsdb_bst_ippg_threshold_set (port pg : Int32)
    (thres : BVIEW_BST_INGRESS_PORT_PG_THRESHOLD) : ThresholdSet :=
  checked_sets
    (BVIEW_BST_IPPG_SHRD_THRESHOLD_CHECK thres || BVIEW_BST_IPPG_HDRM_THRESHOLD_CHECK thres) port pg
    [(SB_OVSDB_BST_STAT_ID_PRI_GROUP_SHARED, thres.umShareThreshold),
      (SB_OVSDB_BST_STAT_ID_PRI_GROUP_HEADROOM, thres.umHeadroomThreshold)]

def sbplugin_ovsdb_bst_ipsp_threshold_set (port sp : Int32)
    (thres : BVIEW_BST_INGRESS_PORT_SP_THRESHOLD) : ThresholdSet :=
  checked_sets (BVIEW_BST_IPSP_THRESHOLD_CHECK thres) port sp
    [(SB_OVSDB_BST_STAT_ID_PORT_POOL, thres.umShareThreshold)]

def sbplugin_ovsdb_bst_isp_threshold_set (sp : Int32) (thres : BVIEW_BST_INGRESS_SP_THRESHOLD) :
    ThresholdSet :=
  checked_sets (BVIEW_BST_ISP_THRESHOLD_CHECK thres) 0 sp
    [(SB_OVSDB_BST_STAT_ID_ING_POOL, thres.umShareThreshold)]

-- The multicast threshold is checked and not set.
def sbplugin_ovsdb_bst_epsp_threshold_set (port sp : Int32)
    (thres : BVIEW_BST_EGRESS_PORT_SP_THRESHOLD) : ThresholdSet :=
  checked_sets
    (BVIEW_BST_EPSP_UC_THRESHOLD_CHECK thres || BVIEW_BST_EPSP_UM_THRESHOLD_CHECK thres ||
      BVIEW_BST_EPSP_MC_THRESHOLD_CHECK thres) port sp
    [(SB_OVSDB_BST_STAT_ID_EGR_UCAST_PORT_SHARED, thres.ucShareThreshold),
      (SB_OVSDB_BST_STAT_ID_EGR_PORT_SHARED, thres.umShareThreshold)]

def sbplugin_ovsdb_bst_esp_threshold_set (sp : Int32) (thres : BVIEW_BST_EGRESS_SP_THRESHOLD) :
    ThresholdSet :=
  checked_sets (BVIEW_BST_E_SP_UM_THRESHOLD_CHECK thres || BVIEW_BST_E_SP_MC_THRESHOLD_CHECK thres)
    0 sp
    [(SB_OVSDB_BST_STAT_ID_EGR_POOL, thres.umShareThreshold),
      (SB_OVSDB_BST_STAT_ID_EGR_MCAST_POOL, thres.mcShareThreshold)]

def sbplugin_ovsdb_bst_eucq_threshold_set (ucQueue : Int32)
    (thres : BVIEW_BST_EGRESS_UC_QUEUE_THRESHOLD) : ThresholdSet :=
  checked_sets (BVIEW_BST_E_UC_THRESHOLD_CHECK thres) 0 ucQueue
    [(SB_OVSDB_BST_STAT_ID_UCAST, thres.ucBufferThreshold)]

def sbplugin_ovsdb_bst_eucqg_threshold_set (ucQueueGrp : Int32)
    (thres : BVIEW_BST_EGRESS_UC_QUEUEGROUPS_THRESHOLD) : ThresholdSet :=
  checked_sets (BVIEW_BST_E_UC_GRP_THRESHOLD_CHECK thres) 0 ucQueueGrp
    [(SB_OVSDB_BST_STAT_ID_UCAST_GROUP, thres.ucBufferThreshold)]

-- The threshold in queue entries is checked and not set.
def sbplugin_ovsdb_bst_emcq_threshold_set (mcQueue : Int32)
    (thres : BVIEW_BST_EGRESS_MC_QUEUE_THRESHOLD) : ThresholdSet :=
  checked_sets (BVIEW_BST_E_MC_THRESHOLD_CHECK thres || BVIEW_BST_E_MC_QUEUE_THRESHOLD_CHECK thres)
    0 mcQueue
    [(SB_OVSDB_BST_STAT_ID_MCAST, thres.mcBufferThreshold)]

def sbplugin_ovsdb_bst_cpuq_threshold_set (cpuQueue : Int32)
    (thres : BVIEW_BST_EGRESS_CPU_QUEUE_THRESHOLD) : ThresholdSet :=
  checked_sets (BVIEW_BST_E_CPU_THRESHOLD_CHECK thres) 0 cpuQueue
    [(SB_OVSDB_BST_STAT_ID_CPU_QUEUE, thres.cpuBufferThreshold)]

def sbplugin_ovsdb_bst_rqeq_threshold_set (rqeQueue : Int32)
    (thres : BVIEW_BST_EGRESS_RQE_QUEUE_THRESHOLD) : ThresholdSet :=
  checked_sets (BVIEW_BST_E_RQE_THRESHOLD_CHECK thres) 0 rqeQueue
    [(SB_OVSDB_BST_STAT_ID_RQE_QUEUE, thres.rqeBufferThreshold)]

end Set

-- The fields of the snapshot that a threshold request has a value for. Ports and
-- indices are those of the arrays.
inductive ThresholdField where
  | device
  | iPortPg_umShare (port pg : Nat)
  | iPortPg_umHeadroom (port pg : Nat)
  | iPortSp_umShare (port sp : Nat)
  | iSp_umShare (sp : Nat)
  | ePortSp_ucShare (port sp : Nat)
  | ePortSp_umShare (port sp : Nat)
  | ePortSp_mcShare (port sp : Nat)
  | ePortSp_mcShareQueueEntries (port sp : Nat)
  | eSp_umShare (sp : Nat)
  | eSp_mcShare (sp : Nat)
  | eUcQ_ucBuffer (queue : Nat)
  | eUcQg_ucBuffer (group : Nat)
  | eMcQ_mcBuffer (queue : Nat)
  | eMcQ_mcQueueEntries (queue : Nat)
  | cpqQ_cpuBuffer (queue : Nat)
  | cpqQ_cpuQueueEntries (queue : Nat)
  | rqeQ_rqeBuffer (queue : Nat)
  | rqeQ_rqeQueueEntries (queue : Nat)
  deriving DecidableEq, Repr

section Cell

variable {α : Type}

-- One cell of an array, modified in place.
def setCell (table : Nat → α) (index : Nat) (modify : α → α) : Nat → α :=
  Function.update table index (modify (table index))

def setPortCell (table : Nat → Nat → α) (port index : Nat) (modify : α → α) : Nat → Nat → α :=
  setCell table port fun row => setCell row index modify

end Cell

namespace ThresholdField

variable (data : BVIEW_BST_ASIC_SNAPSHOT_DATA)

def get : ThresholdField → UInt64
  | device => data.device.bufferCount
  | iPortPg_umShare port pg => (data.iPortPg port pg).umShareBufferCount
  | iPortPg_umHeadroom port pg => (data.iPortPg port pg).umHeadroomBufferCount
  | iPortSp_umShare port sp => (data.iPortSp port sp).umShareBufferCount
  | iSp_umShare sp => (data.iSp sp).umShareBufferCount
  | ePortSp_ucShare port sp => (data.ePortSp port sp).ucShareBufferCount
  | ePortSp_umShare port sp => (data.ePortSp port sp).umShareBufferCount
  | ePortSp_mcShare port sp => (data.ePortSp port sp).mcShareBufferCount
  | ePortSp_mcShareQueueEntries port sp => (data.ePortSp port sp).mcShareQueueEntries
  | eSp_umShare sp => (data.eSp sp).umShareBufferCount
  | eSp_mcShare sp => (data.eSp sp).mcShareBufferCount
  | eUcQ_ucBuffer queue => (data.eUcQ queue).ucBufferCount
  | eUcQg_ucBuffer group => (data.eUcQg group).ucBufferCount
  | eMcQ_mcBuffer queue => (data.eMcQ queue).mcBufferCount
  | eMcQ_mcQueueEntries queue => (data.eMcQ queue).mcQueueEntries
  | cpqQ_cpuBuffer queue => (data.cpqQ queue).cpuBufferCount
  | cpqQ_cpuQueueEntries queue => (data.cpqQ queue).cpuQueueEntries
  | rqeQ_rqeBuffer queue => (data.rqeQ queue).rqeBufferCount
  | rqeQ_rqeQueueEntries queue => (data.rqeQ queue).rqeQueueEntries

-- The port of a unicast or multicast queue is zeroed along with its threshold.
def put (value : UInt64) : ThresholdField → BVIEW_BST_ASIC_SNAPSHOT_DATA
  | device => { data with device := { bufferCount := value } }
  | iPortPg_umShare port pg => { data with
      iPortPg := setPortCell data.iPortPg port pg ({ · with umShareBufferCount := value }) }
  | iPortPg_umHeadroom port pg => { data with
      iPortPg := setPortCell data.iPortPg port pg ({ · with umHeadroomBufferCount := value }) }
  | iPortSp_umShare port sp => { data with
      iPortSp := setPortCell data.iPortSp port sp ({ · with umShareBufferCount := value }) }
  | iSp_umShare sp => { data with
      iSp := setCell data.iSp sp ({ · with umShareBufferCount := value }) }
  | ePortSp_ucShare port sp => { data with
      ePortSp := setPortCell data.ePortSp port sp ({ · with ucShareBufferCount := value }) }
  | ePortSp_umShare port sp => { data with
      ePortSp := setPortCell data.ePortSp port sp ({ · with umShareBufferCount := value }) }
  | ePortSp_mcShare port sp => { data with
      ePortSp := setPortCell data.ePortSp port sp ({ · with mcShareBufferCount := value }) }
  | ePortSp_mcShareQueueEntries port sp => { data with
      ePortSp := setPortCell data.ePortSp port sp ({ · with mcShareQueueEntries := value }) }
  | eSp_umShare sp => { data with
      eSp := setCell data.eSp sp ({ · with umShareBufferCount := value }) }
  | eSp_mcShare sp => { data with
      eSp := setCell data.eSp sp ({ · with mcShareBufferCount := value }) }
  | eUcQ_ucBuffer queue => { data with
      eUcQ := setCell data.eUcQ queue ({ · with ucBufferCount := value, port := 0 }) }
  | eUcQg_ucBuffer group => { data with
      eUcQg := setCell data.eUcQg group ({ · with ucBufferCount := value }) }
  | eMcQ_mcBuffer queue => { data with
      eMcQ := setCell data.eMcQ queue ({ · with mcBufferCount := value, port := 0 }) }
  | eMcQ_mcQueueEntries queue => { data with
      eMcQ := setCell data.eMcQ queue ({ · with mcQueueEntries := value }) }
  | cpqQ_cpuBuffer queue => { data with
      cpqQ := setCell data.cpqQ queue ({ · with cpuBufferCount := value }) }
  | cpqQ_cpuQueueEntries queue => { data with
      cpqQ := setCell data.cpqQ queue ({ · with cpuQueueEntries := value }) }
  | rqeQ_rqeBuffer queue => { data with
      rqeQ := setCell data.rqeQ queue ({ · with rqeBufferCount := value }) }
  | rqeQ_rqeQueueEntries queue => { data with
      rqeQ := setCell data.rqeQ queue ({ · with rqeQueueEntries := value }) }

end ThresholdField

section Get

def BVIEW_TD2_NUM_UC_QUEUE : Nat := 2960
def BVIEW_TD2_NUM_UC_QUEUE_GRP : Nat := 128
def BVIEW_TD2_NUM_MC_QUEUE : Nat := 1040
def BVIEW_TD2_NUM_SP : Nat := 4
def BVIEW_TD2_NUM_RQE : Nat := 11
def BVIEW_TD2_NUM_PG : Nat := 8
def BVIEW_TD2_CPU_COSQ : Nat := 8
def BVIEW_TD2_CELL_TO_BYTE : UInt64 := 208

-- The number of ports is what the server says of the unit.
def sbplugin_ovsdb_system_util_td2_init (num_ports : Nat) : BVIEW_ASIC_CAPABILITIES :=
  { numPorts := num_ports
    numUnicastQueues := BVIEW_TD2_NUM_UC_QUEUE
    numUnicastQueueGroups := BVIEW_TD2_NUM_UC_QUEUE_GRP
    numMulticastQueues := BVIEW_TD2_NUM_MC_QUEUE
    numServicePools := BVIEW_TD2_NUM_SP
    numCpuQueues := BVIEW_TD2_CPU_COSQ
    numRqeQueues := BVIEW_TD2_NUM_RQE
    numPriorityGroups := BVIEW_TD2_NUM_PG
    cellToByteConv := BVIEW_TD2_CELL_TO_BYTE }

def bst_ovsdb_threshold_get (data : BVIEW_OVSDB_BST_DATA) (port index : Int32) (bid : Nat) :
    Option UInt64 :=
  match bid_tab[bid]?, bst_ovsdb_resolve_index bid port index with
  | some entry, some db_index => some (data.cache (cellAddress 0 entry db_index)).threshold
  | _, _ => none

-- One call of bst_ovsdb_threshold_get and the place of its result.
structure ThresholdRead where
  port : Nat
  index : Nat
  bid : Nat
  place : ThresholdField
  deriving DecidableEq, Repr

variable (asic : BVIEW_ASIC_CAPABILITIES)

-- The calls of one round of the loop over the ports.
def port_threshold_reads (port : Nat) : List ThresholdRead :=
  (List.range asic.numPriorityGroups).flatMap (fun index =>
    [⟨port, index, SB_OVSDB_BST_STAT_ID_PRI_GROUP_SHARED, .iPortPg_umShare (port - 1) index⟩,
      ⟨port, index, SB_OVSDB_BST_STAT_ID_PRI_GROUP_HEADROOM,
        .iPortPg_umHeadroom (port - 1) index⟩]) ++
  (List.range asic.numServicePools).map (fun index =>
    ⟨port, index, SB_OVSDB_BST_STAT_ID_PORT_POOL, .iPortSp_umShare (port - 1) index⟩) ++
  (List.range asic.numServicePools).flatMap (fun index =>
    [⟨port, index, SB_OVSDB_BST_STAT_ID_EGR_UCAST_PORT_SHARED, .ePortSp_ucShare (port - 1) index⟩,
      ⟨port, index, SB_OVSDB_BST_STAT_ID_EGR_PORT_SHARED, .ePortSp_umShare (port - 1) index⟩])

-- All calls in their order. After the loop over the ports, port is one more than
-- their number.
def threshold_reads : List ThresholdRead :=
  ⟨0, 0, SB_OVSDB_BST_STAT_ID_DEVICE, .device⟩ ::
  (List.range' 1 asic.numPorts).flatMap (port_threshold_reads asic) ++
  (List.range asic.numMulticastQueues).map (fun index =>
    ⟨asic.numPorts + 1, index, SB_OVSDB_BST_STAT_ID_MCAST, .eMcQ_mcBuffer index⟩) ++
  (List.range asic.numUnicastQueues).map (fun index =>
    ⟨asic.numPorts + 1, index, SB_OVSDB_BST_STAT_ID_UCAST, .eUcQ_ucBuffer index⟩) ++
  (List.range asic.numServicePools).flatMap (fun index =>
    [⟨0, index, SB_OVSDB_BST_STAT_ID_EGR_POOL, .eSp_umShare index⟩,
      ⟨0, index, SB_OVSDB_BST_STAT_ID_EGR_MCAST_POOL, .eSp_mcShare index⟩]) ++
  (List.range asic.numServicePools).map (fun index =>
    ⟨0, index, SB_OVSDB_BST_STAT_ID_ING_POOL, .iSp_umShare index⟩) ++
  (List.range asic.numCpuQueues).map (fun index =>
    ⟨asic.numPorts + 1, index, SB_OVSDB_BST_STAT_ID_CPU_QUEUE, .cpqQ_cpuBuffer index⟩) ++
  (List.range asic.numRqeQueues).map (fun index =>
    ⟨0, index, SB_OVSDB_BST_STAT_ID_RQE_QUEUE, .rqeQ_rqeBuffer index⟩) ++
  (List.range asic.numUnicastQueueGroups).map (fun index =>
    ⟨0, index, SB_OVSDB_BST_STAT_ID_UCAST_GROUP, .eUcQg_ucBuffer index⟩)

def ThresholdRead.run (data : BVIEW_OVSDB_BST_DATA) (snapshot : BVIEW_BST_ASIC_SNAPSHOT_DATA)
    (read : ThresholdRead) : Option BVIEW_BST_ASIC_SNAPSHOT_DATA :=
  (bst_ovsdb_threshold_get data (Int32.ofNat read.port) (Int32.ofNat read.index) read.bid).map
    fun threshold => read.place.put snapshot threshold

-- The caller's snapshot is filled; the first failure ends the function.
def sbplugin_ovsdb_bst_threshold_get (data : BVIEW_OVSDB_BST_DATA)
    (snapshot : BVIEW_BST_ASIC_SNAPSHOT_DATA) : Option BVIEW_BST_ASIC_SNAPSHOT_DATA :=
  (threshold_reads asic).foldlM (ThresholdRead.run data) snapshot

end Get

-- The requests, with the port of the front panel and an index from 0.
inductive ThresholdRequest where
  | device (thres : BVIEW_BST_DEVICE_THRESHOLD)
  | ippg (port pg : Nat) (thres : BVIEW_BST_INGRESS_PORT_PG_THRESHOLD)
  | ipsp (port sp : Nat) (thres : BVIEW_BST_INGRESS_PORT_SP_THRESHOLD)
  | isp (sp : Nat) (thres : BVIEW_BST_INGRESS_SP_THRESHOLD)
  | epsp (port sp : Nat) (thres : BVIEW_BST_EGRESS_PORT_SP_THRESHOLD)
  | esp (sp : Nat) (thres : BVIEW_BST_EGRESS_SP_THRESHOLD)
  | eucq (ucQueue : Nat) (thres : BVIEW_BST_EGRESS_UC_QUEUE_THRESHOLD)
  | eucqg (ucQueueGrp : Nat) (thres : BVIEW_BST_EGRESS_UC_QUEUEGROUPS_THRESHOLD)
  | emcq (mcQueue : Nat) (thres : BVIEW_BST_EGRESS_MC_QUEUE_THRESHOLD)
  | cpuq (cpuQueue : Nat) (thres : BVIEW_BST_EGRESS_CPU_QUEUE_THRESHOLD)
  | rqeq (rqeQueue : Nat) (thres : BVIEW_BST_EGRESS_RQE_QUEUE_THRESHOLD)
  deriving DecidableEq, Repr

namespace ThresholdRequest

def set : ThresholdRequest → ThresholdSet
  | device thres => sbplugin_ovsdb_bst_device_threshold_set thres
  | ippg port pg thres =>
      sbplugin_ovsdb_bst_ippg_threshold_set (Int32.ofNat port) (Int32.ofNat pg) thres
  | ipsp port sp thres =>
      sbplugin_ovsdb_bst_ipsp_threshold_set (Int32.ofNat port) (Int32.ofNat sp) thres
  | isp sp thres => sbplugin_ovsdb_bst_isp_threshold_set (Int32.ofNat sp) thres
  | epsp port sp thres =>
      sbplugin_ovsdb_bst_epsp_threshold_set (Int32.ofNat port) (Int32.ofNat sp) thres
  | esp sp thres => sbplugin_ovsdb_bst_esp_threshold_set (Int32.ofNat sp) thres
  | eucq queue thres => sbplugin_ovsdb_bst_eucq_threshold_set (Int32.ofNat queue) thres
  | eucqg group thres => sbplugin_ovsdb_bst_eucqg_threshold_set (Int32.ofNat group) thres
  | emcq queue thres => sbplugin_ovsdb_bst_emcq_threshold_set (Int32.ofNat queue) thres
  | cpuq queue thres => sbplugin_ovsdb_bst_cpuq_threshold_set (Int32.ofNat queue) thres
  | rqeq queue thres => sbplugin_ovsdb_bst_rqeq_threshold_set (Int32.ofNat queue) thres

-- Every threshold of the request, with the field that reports it.
def fields : ThresholdRequest → List (ThresholdField × UInt64)
  | device thres => [(.device, thres.threshold)]
  | ippg port pg thres =>
      [(.iPortPg_umShare (port - 1) pg, thres.umShareThreshold),
        (.iPortPg_umHeadroom (port - 1) pg, thres.umHeadroomThreshold)]
  | ipsp port sp thres => [(.iPortSp_umShare (port - 1) sp, thres.umShareThreshold)]
  | isp sp thres => [(.iSp_umShare sp, thres.umShareThreshold)]
  | epsp port sp thres =>
      [(.ePortSp_ucShare (port - 1) sp, thres.ucShareThreshold),
        (.ePortSp_umShare (port - 1) sp, thres.umShareThreshold),
        (.ePortSp_mcShare (port - 1) sp, thres.mcShareThreshold),
        (.ePortSp_mcShareQueueEntries (port - 1) sp, thres.mcShareQueueEntriesThreshold)]
  | esp sp thres =>
      [(.eSp_umShare sp, thres.umShareThreshold), (.eSp_mcShare sp, thres.mcShareThreshold)]
  | eucq queue thres => [(.eUcQ_ucBuffer queue, thres.ucBufferThreshold)]
  | eucqg group thres => [(.eUcQg_ucBuffer group, thres.ucBufferThreshold)]
  | emcq queue thres =>
      [(.eMcQ_mcBuffer queue, thres.mcBufferThreshold),
        (.eMcQ_mcQueueEntries queue, thres.mcQueueThreshold)]
  | cpuq queue thres =>
      [(.cpqQ_cpuBuffer queue, thres.cpuBufferThreshold),
        (.cpqQ_cpuQueueEntries queue, thres.cpuQueueThreshold)]
  | rqeq queue thres =>
      [(.rqeQ_rqeBuffer queue, thres.rqeBufferThreshold),
        (.rqeQ_rqeQueueEntries queue, thres.rqeQueueThreshold)]

-- The ports and indices of the unit. The ingress realms have a common pool after
-- the service pools.
def Valid (asic : BVIEW_ASIC_CAPABILITIES) : ThresholdRequest → Prop
  | device _ => True
  | ippg port pg _ => 1 ≤ port ∧ port ≤ asic.numPorts ∧ pg < asic.numPriorityGroups
  | ipsp port sp _ => 1 ≤ port ∧ port ≤ asic.numPorts ∧ sp < BVIEW_ASIC_MAX_INGRESS_SERVICE_POOLS
  | isp sp _ => sp < BVIEW_ASIC_MAX_INGRESS_SERVICE_POOLS
  | epsp port sp _ => 1 ≤ port ∧ port ≤ asic.numPorts ∧ sp < asic.numServicePools
  | esp sp _ => sp < asic.numServicePools
  | eucq queue _ => queue < asic.numUnicastQueues
  | eucqg group _ => group < asic.numUnicastQueueGroups
  | emcq queue _ => queue < asic.numMulticastQueues
  | cpuq queue _ => queue < asic.numCpuQueues
  | rqeq queue _ => queue < asic.numRqeQueues

end ThresholdRequest

-- What comes back of a transaction: the row of the name, changed in its
-- threshold only.
def ThresholdUpdate.Echo (sent : ThresholdUpdate) (update : RowUpdate) : Prop :=
  ∃ row : Row, row.key = { name := sent.name, hw_unit_id := 0 } ∧
    update = row_update (some row)
      (some { row with values :=
        { row.values with trigger_threshold := some sent.trigger_threshold } })

-- Each transaction comes back in an update message of its own.
def echoed (data : BVIEW_OVSDB_BST_DATA) (updates : List RowUpdate) : BVIEW_OVSDB_BST_DATA :=
  updates.foldl (fun data update => (bst_ovsdb_cache_update_table [update] data).data) data

end BroadView.Ovsdb
