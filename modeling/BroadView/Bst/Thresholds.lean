import BroadView.Rest.Params
import BroadView.Bst.NbApi
import BroadView.Ovsdb.Rpc

-- The northbound side of a threshold request: its parameters, their checks, and
-- the message that takes them to the southbound plugin. The bounds are those of a
-- build for the TD2 platform, which is the default.
namespace BroadView.Bst

open Ovsdb Rest CString

structure BSTJSON_CONFIGURE_BST_THRESHOLDS where
  realm : List Char
  port : Int32
  priorityGroup : Int32
  servicePool : Int32
  queue : Int32
  queueGroup : Int32
  threshold : Int32
  umShareThreshold : Int32
  umHeadroomThreshold : Int32
  ucShareThreshold : Int32
  mcShareThreshold : Int32
  mcShareQueueEntriesThreshold : Int32
  ucThreshold : Int32
  mcThreshold : Int32
  mcQueueEntriesThreshold : Int32
  cpuThreshold : Int32
  rqeThreshold : Int32
  deriving DecidableEq, Repr, Inhabited

-- BVIEW_OVSDB_PORT_GET leaves the port as it is.
def sbplugin_ovsdb_system_port_translate_from_notation (src : List Char) : Int32 := atoi src

-- A parameter that is not there is left at zero.
def bstjson_configure_bst_thresholds (params : Params) :
    Except BVIEW_STATUS BSTJSON_CONFIGURE_BST_THRESHOLDS := do
  let realm ← mandatory_string params "realm"
  let port ← optional_string params "port"
  let priorityGroup ← optional params "priority-group" 0 7
  let servicePool ← optional params "service-pool" 0 3
  let queue ← optional params "queue" 0 4095
  let queueGroup ← optional params "queue-group" 0 127
  let threshold ← optional_any params "threshold"
  let umShareThreshold ← optional_any params "um-share-threshold"
  let umHeadroomThreshold ← optional_any params "um-headroom-threshold"
  let ucShareThreshold ← optional_any params "uc-share-threshold"
  let mcShareThreshold ← optional_any params "mc-share-threshold"
  let mcShareQueueEntriesThreshold ← optional_any params "mc-share-queue-entries-threshold"
  let ucThreshold ← optional_any params "uc-threshold"
  let mcThreshold ← optional_any params "mc-threshold"
  let mcQueueEntriesThreshold ← optional_any params "mc-queue-entries-threshold"
  let cpuThreshold ← optional_any params "cpu-threshold"
  let rqeThreshold ← optional_any params "rqe-threshold"
  return {
    realm := realm.take (JSON_MAX_NODE_LENGTH - 1)
    port := (port.map sbplugin_ovsdb_system_port_translate_from_notation).getD 0
    priorityGroup := priorityGroup.getD 0
    servicePool := servicePool.getD 0
    queue := queue.getD 0
    queueGroup := queueGroup.getD 0
    threshold := threshold.getD 0
    umShareThreshold := umShareThreshold.getD 0
    umHeadroomThreshold := umHeadroomThreshold.getD 0
    ucShareThreshold := ucShareThreshold.getD 0
    mcShareThreshold := mcShareThreshold.getD 0
    mcShareQueueEntriesThreshold := mcShareQueueEntriesThreshold.getD 0
    ucThreshold := ucThreshold.getD 0
    mcThreshold := mcThreshold.getD 0
    mcQueueEntriesThreshold := mcQueueEntriesThreshold.getD 0
    cpuThreshold := cpuThreshold.getD 0
    rqeThreshold := rqeThreshold.getD 0 }

def realm_threshold_map : List (String × BVIEW_BST_THRESHOLD_TYPE) :=
  [("device", .DEVICE), ("ingress-port-priority-group", .INGRESS_PORT_PG),
    ("ingress-port-service-pool", .INGRESS_PORT_SP), ("ingress-service-pool", .INGRESS_SP),
    ("egress-port-service-pool", .EGRESS_PORT_SP), ("egress-service-pool", .EGRESS_SP),
    ("egress-uc-queue", .EGRESS_UC_QUEUE), ("egress-uc-queue-group", .EGRESS_UC_QUEUEGROUPS),
    ("egress-mc-queue", .EGRESS_MC_QUEUE), ("egress-cpu-queue", .EGRESS_CPU_QUEUE),
    ("egress-rqe-queue", .EGRESS_RQE_QUEUE)]

-- none stands for the 0 of a realm that is not in the table.
def bst_realm_type_get (str : List Char) : Option BVIEW_BST_THRESHOLD_TYPE :=
  (realm_threshold_map.find? fun entry => entry.1.toList = str).map Prod.snd

namespace BSTJSON_CONFIGURE_BST_THRESHOLDS

variable (pCommand : BSTJSON_CONFIGURE_BST_THRESHOLDS)

section Checks

-- The threshold checks on the int fields of a command. They have the text of
-- those on the uint64_t fields of the southbound structures.
def int_check (threshold : Int32) (maximum : UInt64) : Bool :=
  threshold ≤ 0 || decide ((maximum.toNat : Int) < threshold.toInt)

def BVIEW_BST_DEVICE_THRESHOLD_CHECK : Bool :=
  int_check pCommand.threshold BVIEW_BST_DEVICE_THRES_DEFAULT

def BVIEW_BST_IPPG_SHRD_THRESHOLD_CHECK : Bool :=
  int_check pCommand.umShareThreshold BVIEW_BST_I_P_SP_UCMC_SHARED_THRES_DEFAULT

def BVIEW_BST_IPPG_HDRM_THRESHOLD_CHECK : Bool :=
  int_check pCommand.umHeadroomThreshold BVIEW_BST_I_P_PG_UCMC_HDRM_THRES_DEFAULT

def BVIEW_BST_IPSP_THRESHOLD_CHECK : Bool :=
  int_check pCommand.umShareThreshold BVIEW_BST_I_SP_UCMC_SHARED_THRES_DEFAULT

def BVIEW_BST_ISP_THRESHOLD_CHECK : Bool :=
  int_check pCommand.umShareThreshold (0x1FFFF * 208)

def BVIEW_BST_EPSP_UC_THRESHOLD_CHECK : Bool :=
  int_check pCommand.ucShareThreshold BVIEW_BST_E_P_SP_UC_THRES_DEFAULT

def BVIEW_BST_EPSP_UM_THRESHOLD_CHECK : Bool :=
  int_check pCommand.umShareThreshold BVIEW_BST_E_P_SP_UCMC_THRES_DEFAULT

def BVIEW_BST_EPSP_MC_THRESHOLD_CHECK : Bool :=
  int_check pCommand.mcShareThreshold (0x1FFFF * 208)

def BVIEW_BST_EPSP_MC_SQ_THRESHOLD_CHECK : Bool :=
  int_check pCommand.mcShareQueueEntriesThreshold (0x1FFFF * 208)

def BVIEW_BST_E_SP_UM_THRESHOLD_CHECK : Bool :=
  int_check pCommand.umShareThreshold BVIEW_BST_E_SP_UCMC_THRES_DEFAULT

def BVIEW_BST_E_SP_MC_THRESHOLD_CHECK : Bool :=
  int_check pCommand.mcShareThreshold BVIEW_BST_E_SP_MC_THRES_DEFAULT

def BVIEW_BST_E_SP_MC_SQ_THRESHOLD_CHECK : Bool :=
  int_check pCommand.mcShareQueueEntriesThreshold (0x1FFFF * 208)

def BVIEW_BST_E_MC_QG_THRESHOLD_CHECK : Bool :=
  int_check pCommand.mcThreshold (0x1FFFF * 208)

def BVIEW_BST_E_MC_SQG_THRESHOLD_CHECK : Bool :=
  int_check pCommand.mcQueueEntriesThreshold (0x1FFFF * 208)

def BVIEW_BST_EGRESS_CPU_THRESHOLD_CHECK : Bool :=
  int_check pCommand.cpuThreshold (0x1FFFF * 208)

def BVIEW_BST_EGRESS_RQE_QUEUE_THRESHOLD_CHECK : Bool :=
  int_check pCommand.rqeThreshold (0x1FFFF * 208)

def BVIEW_BST_EGRESS_UC_THRESHOLD_CHECK : Bool :=
  int_check pCommand.ucThreshold (0x1FFFF * 208)

-- A request for a queue group may carry no value but its own.
def carries_others : Bool :=
  pCommand.queue ≠ 0 || pCommand.servicePool ≠ 0 || pCommand.threshold ≠ 0 ||
    pCommand.umShareThreshold ≠ 0 || pCommand.umHeadroomThreshold ≠ 0 ||
    pCommand.ucShareThreshold ≠ 0 || pCommand.mcShareThreshold ≠ 0 ||
    pCommand.mcShareQueueEntriesThreshold ≠ 0 || pCommand.mcThreshold ≠ 0 ||
    pCommand.mcQueueEntriesThreshold ≠ 0 || pCommand.cpuThreshold ≠ 0 ||
    pCommand.rqeThreshold ≠ 0

-- What the switch over the threshold types rejects.
def invalid : BVIEW_BST_THRESHOLD_TYPE → Bool
  | .DEVICE => pCommand.BVIEW_BST_DEVICE_THRESHOLD_CHECK
  | .INGRESS_PORT_PG =>
      pCommand.port = 0 || pCommand.BVIEW_BST_IPPG_SHRD_THRESHOLD_CHECK ||
        pCommand.BVIEW_BST_IPPG_HDRM_THRESHOLD_CHECK
  | .INGRESS_PORT_SP => pCommand.port = 0 || pCommand.BVIEW_BST_IPSP_THRESHOLD_CHECK
  | .INGRESS_SP => pCommand.BVIEW_BST_ISP_THRESHOLD_CHECK
  | .EGRESS_PORT_SP =>
      pCommand.port = 0 || pCommand.BVIEW_BST_EPSP_UC_THRESHOLD_CHECK ||
        pCommand.BVIEW_BST_EPSP_UM_THRESHOLD_CHECK ||
        pCommand.BVIEW_BST_EPSP_MC_THRESHOLD_CHECK ||
        pCommand.BVIEW_BST_EPSP_MC_SQ_THRESHOLD_CHECK
  | .EGRESS_SP =>
      pCommand.BVIEW_BST_E_SP_UM_THRESHOLD_CHECK || pCommand.BVIEW_BST_E_SP_MC_THRESHOLD_CHECK ||
        pCommand.BVIEW_BST_E_SP_MC_SQ_THRESHOLD_CHECK
  | .EGRESS_UC_QUEUE => pCommand.BVIEW_BST_EGRESS_UC_THRESHOLD_CHECK
  | .EGRESS_UC_QUEUEGROUPS =>
      pCommand.carries_others || pCommand.BVIEW_BST_EGRESS_UC_THRESHOLD_CHECK
  | .EGRESS_MC_QUEUE =>
      pCommand.BVIEW_BST_E_MC_QG_THRESHOLD_CHECK || pCommand.BVIEW_BST_E_MC_SQG_THRESHOLD_CHECK
  | .EGRESS_CPU_QUEUE => pCommand.BVIEW_BST_EGRESS_CPU_THRESHOLD_CHECK
  | .EGRESS_RQE_QUEUE => pCommand.BVIEW_BST_EGRESS_RQE_QUEUE_THRESHOLD_CHECK

def outside (index : Int32) (number : Nat) : Bool :=
  index < 0 || decide ((number : Int) ≤ index.toInt)

-- What the macro _BST_INPUT_PARAMS_CHECK rejects. It has no word on the port of
-- a priority group.
def input_params_invalid (capabilities : BVIEW_ASIC_CAPABILITIES) :
    BVIEW_BST_THRESHOLD_TYPE → Bool
  | .DEVICE => false
  | .INGRESS_PORT_PG => outside pCommand.priorityGroup capabilities.numPriorityGroups
  | .INGRESS_PORT_SP | .EGRESS_PORT_SP =>
      outside pCommand.servicePool capabilities.numServicePools ||
        decide ((capabilities.numPorts : Int) < pCommand.port.toInt)
  | .INGRESS_SP | .EGRESS_SP => outside pCommand.servicePool capabilities.numServicePools
  | .EGRESS_UC_QUEUE => outside pCommand.queue capabilities.numUnicastQueues
  | .EGRESS_UC_QUEUEGROUPS => outside pCommand.queueGroup capabilities.numUnicastQueueGroups
  | .EGRESS_MC_QUEUE => outside pCommand.queue capabilities.numMulticastQueues
  | .EGRESS_CPU_QUEUE => outside pCommand.queue capabilities.numCpuQueues
  | .EGRESS_RQE_QUEUE => outside pCommand.queue capabilities.numRqeQueues

end Checks

end BSTJSON_CONFIGURE_BST_THRESHOLDS

-- The request message with the fields that only a threshold request fills. The
-- members of the request union are fields of their own here too.
structure ThresholdMessage extends BVIEW_BST_REQUEST_MSG where
  realm : List Char
  threshold : BSTJSON_CONFIGURE_BST_THRESHOLDS
  device_threshold : BVIEW_BST_DEVICE_THRESHOLD
  i_p_pg_threshold : BVIEW_BST_INGRESS_PORT_PG_THRESHOLD
  i_p_sp_threshold : BVIEW_BST_INGRESS_PORT_SP_THRESHOLD
  i_sp_threshold : BVIEW_BST_INGRESS_SP_THRESHOLD
  ep_sp_threshold : BVIEW_BST_EGRESS_PORT_SP_THRESHOLD
  e_sp_threshold : BVIEW_BST_EGRESS_SP_THRESHOLD
  e_ucq_threshold : BVIEW_BST_EGRESS_UC_QUEUE_THRESHOLD
  e_ucqg_threshold : BVIEW_BST_EGRESS_UC_QUEUEGROUPS_THRESHOLD
  e_mcq_threshold : BVIEW_BST_EGRESS_MC_QUEUE_THRESHOLD
  cpu_q_threshold : BVIEW_BST_EGRESS_CPU_QUEUE_THRESHOLD
  rqe_q_threshold : BVIEW_BST_EGRESS_RQE_QUEUE_THRESHOLD
  deriving DecidableEq, Repr

def ThresholdMessage.zeroed (msg : BVIEW_BST_REQUEST_MSG) : ThresholdMessage :=
  { msg with
    realm := []
    threshold := default
    device_threshold := { threshold := 0 }
    i_p_pg_threshold := { umShareThreshold := 0, umHeadroomThreshold := 0 }
    i_p_sp_threshold := { umShareThreshold := 0 }
    i_sp_threshold := { umShareThreshold := 0 }
    ep_sp_threshold :=
      { ucShareThreshold := 0, umShareThreshold := 0, mcShareThreshold := 0,
        mcShareQueueEntriesThreshold := 0 }
    e_sp_threshold := { umShareThreshold := 0, mcShareThreshold := 0 }
    e_ucq_threshold := { ucBufferThreshold := 0 }
    e_ucqg_threshold := { ucBufferThreshold := 0 }
    e_mcq_threshold := { mcBufferThreshold := 0, mcQueueThreshold := 0 }
    cpu_q_threshold := { cpuBufferThreshold := 0, cpuQueueThreshold := 0 }
    rqe_q_threshold := { rqeBufferThreshold := 0, rqeQueueThreshold := 0 } }

-- An int that is stored in a uint64_t.
def widened (threshold : Int32) : UInt64 := threshold.toInt64.toUInt64

section Message

variable (pCommand : BSTJSON_CONFIGURE_BST_THRESHOLDS)

-- The values of the command that the message takes. The queue entries of an
-- egress pool are checked and not taken; the shared threshold of an egress
-- service pool is taken twice.
def copy_thresholds (msg_data : ThresholdMessage) : BVIEW_BST_THRESHOLD_TYPE → ThresholdMessage
  | .DEVICE => { msg_data with
      device_threshold := { threshold := widened pCommand.threshold } }
  | .INGRESS_PORT_PG => { msg_data with
      threshold := { msg_data.threshold with
        port := pCommand.port, priorityGroup := pCommand.priorityGroup }
      i_p_pg_threshold :=
        { umShareThreshold := widened pCommand.umShareThreshold
          umHeadroomThreshold := widened pCommand.umHeadroomThreshold } }
  | .INGRESS_PORT_SP => { msg_data with
      threshold := { msg_data.threshold with
        port := pCommand.port, servicePool := pCommand.servicePool }
      i_p_sp_threshold := { umShareThreshold := widened pCommand.umShareThreshold } }
  | .INGRESS_SP => { msg_data with
      threshold := { msg_data.threshold with servicePool := pCommand.servicePool }
      i_sp_threshold := { umShareThreshold := widened pCommand.umShareThreshold } }
  | .EGRESS_PORT_SP => { msg_data with
      threshold := { msg_data.threshold with
        port := pCommand.port, servicePool := pCommand.servicePool }
      ep_sp_threshold := { msg_data.ep_sp_threshold with
        ucShareThreshold := widened pCommand.ucShareThreshold
        umShareThreshold := widened pCommand.umShareThreshold
        mcShareThreshold := widened pCommand.mcShareThreshold } }
  | .EGRESS_SP => { msg_data with
      threshold := { msg_data.threshold with servicePool := pCommand.servicePool }
      e_sp_threshold :=
        { umShareThreshold := widened pCommand.umShareThreshold
          mcShareThreshold := widened pCommand.mcShareThreshold } }
  | .EGRESS_UC_QUEUE => { msg_data with
      threshold := { msg_data.threshold with queue := pCommand.queue }
      e_ucq_threshold := { ucBufferThreshold := widened pCommand.ucThreshold } }
  | .EGRESS_UC_QUEUEGROUPS => { msg_data with
      threshold := { msg_data.threshold with queueGroup := pCommand.queueGroup }
      e_ucqg_threshold := { ucBufferThreshold := widened pCommand.ucThreshold } }
  | .EGRESS_MC_QUEUE => { msg_data with
      threshold := { msg_data.threshold with queue := pCommand.queue }
      e_mcq_threshold :=
        { mcBufferThreshold := widened pCommand.mcThreshold
          mcQueueThreshold := widened pCommand.mcQueueEntriesThreshold } }
  | .EGRESS_CPU_QUEUE => { msg_data with
      threshold := { msg_data.threshold with queue := pCommand.queue }
      cpu_q_threshold := { msg_data.cpu_q_threshold with
        cpuBufferThreshold := widened pCommand.cpuThreshold } }
  | .EGRESS_RQE_QUEUE => { msg_data with
      threshold := { msg_data.threshold with queue := pCommand.queue }
      rqe_q_threshold := { msg_data.rqe_q_threshold with
        rqeBufferThreshold := widened pCommand.rqeThreshold } }

-- What the handler is answered: the capabilities of the unit, when they can be
-- read, and whether the queue takes the message.
structure ThresholdCalls where
  sbapi_system_asic_capabilities_get : Option BVIEW_ASIC_CAPABILITIES
  msgsnd : Bool
  deriving DecidableEq, Repr

-- The message the handler posts, or the error it returns.
def bstjson_configure_bst_thresholds_impl (calls : ThresholdCalls) (cookie : Cookie) (asicId : Nat)
    (id : Int) : Except BVIEW_STATUS ThresholdMessage :=
  match bst_realm_type_get pCommand.realm with
  | none => .error .INVALID_PARAMETER
  | some threshold_type =>
      match calls.sbapi_system_asic_capabilities_get with
      | none => .error .FAILURE
      | some capabilities =>
          if pCommand.input_params_invalid capabilities threshold_type then
            .error .INVALID_PARAMETER
          else if pCommand.invalid threshold_type then .error .INVALID_PARAMETER
          else if calls.msgsnd then
            let msg := (RestRequest.bstjson_configure_bst_thresholds threshold_type).msg
              cookie asicId id
            .ok (copy_thresholds pCommand
              { ThresholdMessage.zeroed msg with realm := pCommand.realm } threshold_type)
          else .error .FAILURE

end Message

-- The set function that bst_config_threshold_set calls for a message.
def ThresholdMessage.threshold_set (msg_data : ThresholdMessage) : Option ThresholdCall :=
  msg_data.threshold_type.map fun
    | .DEVICE => .device msg_data.device_threshold
    | .INGRESS_PORT_PG =>
        .ippg msg_data.threshold.port msg_data.threshold.priorityGroup msg_data.i_p_pg_threshold
    | .INGRESS_PORT_SP =>
        .ipsp msg_data.threshold.port msg_data.threshold.servicePool msg_data.i_p_sp_threshold
    | .INGRESS_SP => .isp msg_data.threshold.servicePool msg_data.i_sp_threshold
    | .EGRESS_PORT_SP =>
        .epsp msg_data.threshold.port msg_data.threshold.servicePool msg_data.ep_sp_threshold
    | .EGRESS_SP => .esp msg_data.threshold.servicePool msg_data.e_sp_threshold
    | .EGRESS_UC_QUEUE => .eucq msg_data.threshold.queue msg_data.e_ucq_threshold
    | .EGRESS_UC_QUEUEGROUPS => .eucqg msg_data.threshold.queueGroup msg_data.e_ucqg_threshold
    | .EGRESS_MC_QUEUE => .emcq msg_data.threshold.queue msg_data.e_mcq_threshold
    | .EGRESS_CPU_QUEUE => .cpuq msg_data.threshold.queue msg_data.cpu_q_threshold
    | .EGRESS_RQE_QUEUE => .rqeq msg_data.threshold.queue msg_data.rqe_q_threshold

end BroadView.Bst
