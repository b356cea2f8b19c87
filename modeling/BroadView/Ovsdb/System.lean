import BroadView.Ovsdb.Threshold

namespace BroadView.Ovsdb

def SB_BRCM_BST_STAT_ID_DEVICE_DEFAULT : UInt64 := 0xFFFF * 208
def SB_BRCM_BST_STAT_ID_PRI_GROUP_SHARED_DEFAULT : UInt64 := 0xFFFF * 208
def SB_BRCM_BST_STAT_ID_PRI_GROUP_HEADROOM_DEFAULT : UInt64 := 0xFFFF * 208
def SB_BRCM_BST_STAT_ID_PORT_POOL_DEFAULT : UInt64 := 0xEA77 * 208
def SB_BRCM_BST_STAT_ID_ING_POOL_DEFAULT : UInt64 := 0xDC0B * 208
def SB_BRCM_BST_STAT_ID_EGR_UCAST_PORT_SHARED_DEFAULT : UInt64 := 0xd942 * 208
def SB_BRCM_BST_STAT_ID_EGR_PORT_SHARED_DEFAULT : UInt64 := 0xd942 * 208
def SB_BRCM_BST_STAT_ID_EGR_MCAST_PORT_SHARED_DEFAULT : UInt64 := 0xd942 * 208
def SB_BRCM_BST_STAT_ID_EGR_POOL_DEFAULT : UInt64 := 0xea81 * 208
def SB_BRCM_BST_STAT_ID_EGR_MCAST_POOL_DEFAULT : UInt64 := 0xea81 * 208
def SB_BRCM_BST_STAT_ID_UCAST_DEFAULT : UInt64 := 0xea77 * 208
def SB_BRCM_BST_STAT_ID_UCAST_GROUP_DEFAULT : UInt64 := 0x1ff * 208
def SB_BRCM_BST_STAT_ID_MCAST_DEFAULT : UInt64 := 0xea77 * 208
def SB_BRCM_BST_STAT_ID_CPU_DEFAULT : UInt64 := 0xea81 * 208
def SB_BRCM_BST_STAT_ID_RQE_QUEUE_DEFAULT : UInt64 := 0xea77 * 208

def BVIEW_SYSTEM_NUM_COS_PORT : Nat := 8

-- The maxima of the snapshot. Ports and indices are those of the arrays.
inductive MaxBufField where
  | device
  | iPortPg_umShare (port pg : Nat)
  | iPortPg_umHeadroom (port pg : Nat)
  | iPortSp_umShare (port sp : Nat)
  | iSp_umShare (sp : Nat)
  | ePortSp_ucShare (port sp : Nat)
  | ePortSp_umShare (port sp : Nat)
  | ePortSp_mcShare (port sp : Nat)
  | eSp_umShare (sp : Nat)
  | eSp_mcShare (sp : Nat)
  | eUcQ_uc (queue : Nat)
  | eUcQg_uc (group : Nat)
  | eMcQ_mc (queue : Nat)
  | cpqQ_cpu (queue : Nat)
  | rqeQ_rqe (queue : Nat)
  deriving DecidableEq, Repr

namespace MaxBufField

variable (data : BVIEW_SYSTEM_ASIC_MAX_BUF_SNAPSHOT_DATA)

def get : MaxBufField → UInt64
  | device => data.device
  | iPortPg_umShare port pg => (data.iPortPg port pg).umShareMaxBuf
  | iPortPg_umHeadroom port pg => (data.iPortPg port pg).umHeadroomMaxBuf
  | iPortSp_umShare port sp => data.iPortSp port sp
  | iSp_umShare sp => data.iSp sp
  | ePortSp_ucShare port sp => (data.ePortSp port sp).ucShareMaxBuf
  | ePortSp_umShare port sp => (data.ePortSp port sp).umShareMaxBuf
  | ePortSp_mcShare port sp => (data.ePortSp port sp).mcShareMaxBuf
  | eSp_umShare sp => (data.eSp sp).umShareMaxBuf
  | eSp_mcShare sp => (data.eSp sp).mcShareMaxBuf
  | eUcQ_uc queue => data.eUcQ queue
  | eUcQg_uc group => data.eUcQg group
  | eMcQ_mc queue => data.eMcQ queue
  | cpqQ_cpu queue => data.cpqQ queue
  | rqeQ_rqe queue => data.rqeQ queue

def put (value : UInt64) : MaxBufField → BVIEW_SYSTEM_ASIC_MAX_BUF_SNAPSHOT_DATA
  | device => { data with device := value }
  | iPortPg_umShare port pg => { data with
      iPortPg := setPortCell data.iPortPg port pg ({ · with umShareMaxBuf := value }) }
  | iPortPg_umHeadroom port pg => { data with
      iPortPg := setPortCell data.iPortPg port pg ({ · with umHeadroomMaxBuf := value }) }
  | iPortSp_umShare port sp => { data with
      iPortSp := setPortCell data.iPortSp port sp fun _ => value }
  | iSp_umShare sp => { data with iSp := setCell data.iSp sp fun _ => value }
  | ePortSp_ucShare port sp => { data with
      ePortSp := setPortCell data.ePortSp port sp ({ · with ucShareMaxBuf := value }) }
  | ePortSp_umShare port sp => { data with
      ePortSp := setPortCell data.ePortSp port sp ({ · with umShareMaxBuf := value }) }
  | ePortSp_mcShare port sp => { data with
      ePortSp := setPortCell data.ePortSp port sp ({ · with mcShareMaxBuf := value }) }
  | eSp_umShare sp => { data with
      eSp := setCell data.eSp sp ({ · with umShareMaxBuf := value }) }
  | eSp_mcShare sp => { data with
      eSp := setCell data.eSp sp ({ · with mcShareMaxBuf := value }) }
  | eUcQ_uc queue => { data with eUcQ := setCell data.eUcQ queue fun _ => value }
  | eUcQg_uc group => { data with eUcQg := setCell data.eUcQg group fun _ => value }
  | eMcQ_mc queue => { data with eMcQ := setCell data.eMcQ queue fun _ => value }
  | cpqQ_cpu queue => { data with cpqQ := setCell data.cpqQ queue fun _ => value }
  | rqeQ_rqe queue => { data with rqeQ := setCell data.rqeQ queue fun _ => value }

-- Whether the element is one of its array.
def inArray : MaxBufField → Bool
  | device => true
  | iPortPg_umShare port pg | iPortPg_umHeadroom port pg =>
      decide (port < BVIEW_ASIC_MAX_PORTS ∧ pg < BVIEW_ASIC_MAX_PRIORITY_GROUPS)
  | iPortSp_umShare port sp =>
      decide (port < BVIEW_ASIC_MAX_PORTS ∧ sp < BVIEW_ASIC_MAX_INGRESS_SERVICE_POOLS)
  | iSp_umShare sp => decide (sp < BVIEW_ASIC_MAX_INGRESS_SERVICE_POOLS)
  | ePortSp_ucShare port sp | ePortSp_umShare port sp | ePortSp_mcShare port sp =>
      decide (port < BVIEW_ASIC_MAX_PORTS ∧ sp < BVIEW_ASIC_MAX_SERVICE_POOLS)
  | eSp_umShare sp | eSp_mcShare sp => decide (sp < BVIEW_ASIC_MAX_SERVICE_POOLS)
  | eUcQ_uc queue => decide (queue < BVIEW_ASIC_MAX_UC_QUEUES)
  | eUcQg_uc group => decide (group < BVIEW_ASIC_MAX_UC_QUEUE_GROUPS)
  | eMcQ_mc queue => decide (queue < BVIEW_ASIC_MAX_MC_QUEUES)
  | cpqQ_cpu queue => decide (queue < BVIEW_ASIC_MAX_CPU_QUEUES)
  | rqeQ_rqe queue => decide (queue < BVIEW_ASIC_MAX_RQE_QUEUES)

end MaxBufField

-- One assignment of a default.
structure MaxBufStore where
  place : MaxBufField
  value : UInt64
  deriving DecidableEq, Repr

section Defaults

variable (asic : BVIEW_ASIC_CAPABILITIES)

-- Ports count from 1; the compared number of ports is unsigned.
def BVIEW_SYSTEM_PORT_ITER : List Nat := List.range' 1 asic.numPorts

def BVIEW_SYSTEM_PG_ITER : List Nat := List.range BVIEW_ASIC_MAX_PRIORITY_GROUPS

def BVIEW_SYSTEM_SP_ITER : List Nat := List.range BVIEW_ASIC_MAX_SERVICE_POOLS

def BVIEW_SYSTEM_ITER (n : Nat) : List Nat := List.range n

-- Each of the functions is the list of its assignments, in their order.
def sbplugin_system_default_device_max_buf_data_get : List MaxBufStore :=
  [⟨.device, SB_BRCM_BST_STAT_ID_DEVICE_DEFAULT⟩]

def sbplugin_system_default_ippg_max_buf_data_get : List MaxBufStore :=
  (BVIEW_SYSTEM_PORT_ITER asic).flatMap fun port => BVIEW_SYSTEM_PG_ITER.flatMap fun pg =>
    [⟨.iPortPg_umShare (port - 1) pg, SB_BRCM_BST_STAT_ID_PRI_GROUP_SHARED_DEFAULT⟩,
      ⟨.iPortPg_umHeadroom (port - 1) pg, SB_BRCM_BST_STAT_ID_PRI_GROUP_HEADROOM_DEFAULT⟩]

def sbplugin_system_default_ipsp_max_buf_data_get : List MaxBufStore :=
  (BVIEW_SYSTEM_PORT_ITER asic).flatMap fun port => BVIEW_SYSTEM_SP_ITER.map fun sp =>
    ⟨.iPortSp_umShare (port - 1) sp, SB_BRCM_BST_STAT_ID_PORT_POOL_DEFAULT⟩

def sbplugin_system_default_isp_max_buf_data_get : List MaxBufStore :=
  BVIEW_SYSTEM_SP_ITER.map fun sp => ⟨.iSp_umShare sp, SB_BRCM_BST_STAT_ID_ING_POOL_DEFAULT⟩

def sbplugin_system_default_epsp_max_buf_data_get : List MaxBufStore :=
  (BVIEW_SYSTEM_PORT_ITER asic).flatMap fun port => BVIEW_SYSTEM_SP_ITER.flatMap fun sp =>
    [⟨.ePortSp_ucShare (port - 1) sp, SB_BRCM_BST_STAT_ID_EGR_UCAST_PORT_SHARED_DEFAULT⟩,
      ⟨.ePortSp_umShare (port - 1) sp, SB_BRCM_BST_STAT_ID_EGR_PORT_SHARED_DEFAULT⟩,
      ⟨.ePortSp_mcShare (port - 1) sp, SB_BRCM_BST_STAT_ID_EGR_MCAST_PORT_SHARED_DEFAULT⟩]

def sbplugin_system_default_esp_max_buf_data_get : List MaxBufStore :=
  BVIEW_SYSTEM_SP_ITER.flatMap fun sp =>
    [⟨.eSp_umShare sp, SB_BRCM_BST_STAT_ID_EGR_POOL_DEFAULT⟩,
      ⟨.eSp_mcShare sp, SB_BRCM_BST_STAT_ID_EGR_MCAST_POOL_DEFAULT⟩]

def sbplugin_system_default_eucq_max_buf_data_get : List MaxBufStore :=
  (BVIEW_SYSTEM_PORT_ITER asic).flatMap fun port =>
    (BVIEW_SYSTEM_ITER BVIEW_SYSTEM_NUM_COS_PORT).map fun cosq =>
      ⟨.eUcQ_uc ((port - 1) * BVIEW_SYSTEM_NUM_COS_PORT + cosq),
        SB_BRCM_BST_STAT_ID_UCAST_DEFAULT⟩

def sbplugin_system_default_eucqg_max_buf_data_get : List MaxBufStore :=
  (BVIEW_SYSTEM_ITER BVIEW_ASIC_MAX_UC_QUEUE_GROUPS).map fun cosq =>
    ⟨.eUcQg_uc cosq, SB_BRCM_BST_STAT_ID_UCAST_GROUP_DEFAULT⟩

def sbplugin_system_default_emcq_max_buf_data_get : List MaxBufStore :=
  (BVIEW_SYSTEM_PORT_ITER asic).flatMap fun port =>
    (BVIEW_SYSTEM_ITER BVIEW_SYSTEM_NUM_COS_PORT).map fun cosq =>
      ⟨.eMcQ_mc ((port - 1) * BVIEW_SYSTEM_NUM_COS_PORT + cosq),
        SB_BRCM_BST_STAT_ID_MCAST_DEFAULT⟩

def sbplugin_system_default_cpuq_max_buf_data_get : List MaxBufStore :=
  (BVIEW_SYSTEM_ITER BVIEW_ASIC_MAX_CPU_QUEUES).map fun cosq =>
    ⟨.cpqQ_cpu cosq, SB_BRCM_BST_STAT_ID_CPU_DEFAULT⟩

def sbplugin_system_default_rqeq_max_buf_data_get : List MaxBufStore :=
  (BVIEW_SYSTEM_ITER BVIEW_ASIC_MAX_RQE_QUEUES).map fun cosq =>
    ⟨.rqeQ_rqe cosq, SB_BRCM_BST_STAT_ID_RQE_QUEUE_DEFAULT⟩

-- None of them fails, so they all run.
def max_buf_gets : List (List MaxBufStore) :=
  [sbplugin_system_default_device_max_buf_data_get,
    sbplugin_system_default_ippg_max_buf_data_get asic,
    sbplugin_system_default_ipsp_max_buf_data_get asic,
    sbplugin_system_default_isp_max_buf_data_get,
    sbplugin_system_default_epsp_max_buf_data_get asic,
    sbplugin_system_default_esp_max_buf_data_get,
    sbplugin_system_default_eucq_max_buf_data_get asic,
    sbplugin_system_default_eucqg_max_buf_data_get,
    sbplugin_system_default_emcq_max_buf_data_get asic,
    sbplugin_system_default_cpuq_max_buf_data_get,
    sbplugin_system_default_rqeq_max_buf_data_get]

-- The first assignment outside its array overruns it, and nothing is known of
-- the memory from there on.
def MaxBufStore.run (data : BVIEW_SYSTEM_ASIC_MAX_BUF_SNAPSHOT_DATA) (store : MaxBufStore) :
    Option BVIEW_SYSTEM_ASIC_MAX_BUF_SNAPSHOT_DATA :=
  if store.place.inArray then some (store.place.put data store.value) else none

def sbplugin_system_max_buf_defaults_get (snapshot : BVIEW_SYSTEM_ASIC_MAX_BUF_SNAPSHOT_DATA) :
    Option BVIEW_SYSTEM_ASIC_MAX_BUF_SNAPSHOT_DATA :=
  (max_buf_gets asic).flatten.foldlM MaxBufStore.run snapshot

end Defaults

structure SystemFeature where
  asicDb : BVIEW_ASIC_CAPABILITIES
  sbMaxBufSnapshot : Option BVIEW_SYSTEM_ASIC_MAX_BUF_SNAPSHOT_DATA

-- num_ports is what system_ovsdb_common_get_asicinfo reads as the interface
-- count, an int stored as an unsigned one. The snapshot of the one unit is
-- zeroed before.
def sbplugin_ovsdb_system_init (num_ports : UInt32) : Option SystemFeature :=
  if num_ports = 0 then none
  else
    let asicDb := sbplugin_ovsdb_system_util_td2_init num_ports.toNat
    some { asicDb, sbMaxBufSnapshot := sbplugin_system_max_buf_defaults_get asicDb default }

end BroadView.Ovsdb
