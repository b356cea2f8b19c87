import BroadView.Bst.Feature
import BroadView.Bst.Thresholds
import BroadView.Rest.Envelope

-- The REST handlers of the BST application.
namespace BroadView.Bst.Northbound

open Rest

section Flags

variable (params : Params)

def realm_flag (name : String) : Except BVIEW_STATUS Bool :=
  (mandatory params name 0 1).map fun value => decide (value ≠ 0)

-- One flag for each realm, under the names that follow the prefix.
def realm_flags (first : String) : Except BVIEW_STATUS RealmFlags := do
  let ingressPortPriorityGroup ← realm_flag params (first ++ "-ingress-port-priority-group")
  let ingressPortServicePool ← realm_flag params (first ++ "-ingress-port-service-pool")
  let ingressServicePool ← realm_flag params (first ++ "-ingress-service-pool")
  let egressPortServicePool ← realm_flag params (first ++ "-egress-port-service-pool")
  let egressServicePool ← realm_flag params (first ++ "-egress-service-pool")
  let egressUcQueue ← realm_flag params (first ++ "-egress-uc-queue")
  let egressUcQueueGroup ← realm_flag params (first ++ "-egress-uc-queue-group")
  let egressMcQueue ← realm_flag params (first ++ "-egress-mc-queue")
  let egressCpuQueue ← realm_flag params (first ++ "-egress-cpu-queue")
  let egressRqeQueue ← realm_flag params (first ++ "-egress-rqe-queue")
  let device ← realm_flag params (first ++ "-device")
  return {
    ingressPortPriorityGroup, ingressPortServicePool, ingressServicePool, egressPortServicePool,
    egressServicePool, egressUcQueue, egressUcQueueGroup, egressMcQueue, egressCpuQueue,
    egressRqeQueue, device }

-- The mask has a bit for each realm whose flag is set.
def tracking_command : Except BVIEW_STATUS BSTJSON_CONFIGURE_BST_TRACKING := do
  let trackPeakStats ← realm_flag params "track-peak-stats"
  let track ← realm_flags params "track"
  return { trackMask := bst_realm_to_mask track, trackPeakStats, track }

end Flags

section Handlers

variable (arith : CJson.Arithmetic) (calls : ThresholdCalls) (args : HandlerArgs)

def bst_send_request (msg_data : ThresholdMessage) : Except Fault ThresholdMessage :=
  if calls.msgsnd then return msg_data else .error (.status .FAILURE)

-- The number of the unit is unsigned where it is compared.
def unit (envelope : Envelope) : Nat := envelope.asicId.toUInt32.toNat

-- What the handlers but one have in common: the parameters make a request, and
-- its message is posted.
def bst_handler (method : String) (command : Params → Except BVIEW_STATUS RestRequest) :
    Except Fault ThresholdMessage := do
  let envelope ← json_envelope arith method mandatory_asic args
  let request ← checked (command envelope.params)
  bst_send_request calls
    (ThresholdMessage.zeroed (request.msg envelope.cookie (unit envelope) envelope.id.toInt))

def bstjson_clear_bst_statistics : Except Fault ThresholdMessage :=
  bst_handler arith calls args "clear-bst-statistics" fun _ => return .bstjson_clear_bst_statistics

def bstjson_clear_bst_thresholds : Except Fault ThresholdMessage :=
  bst_handler arith calls args "clear-bst-thresholds" fun _ => return .bstjson_clear_bst_thresholds

def bstjson_configure_bst_feature : Except Fault ThresholdMessage :=
  bst_handler arith calls args "configure-bst-feature" fun params =>
    return .bstjson_configure_bst_feature (← Bst.bstjson_configure_bst_feature params)

def bstjson_configure_bst_tracking : Except Fault ThresholdMessage :=
  bst_handler arith calls args "configure-bst-tracking" fun params =>
    return .bstjson_configure_bst_tracking (← tracking_command params)

def bstjson_get_bst_feature : Except Fault ThresholdMessage :=
  bst_handler arith calls args "get-bst-feature" fun _ => return .bstjson_get_bst_feature

def bstjson_get_bst_tracking : Except Fault ThresholdMessage :=
  bst_handler arith calls args "get-bst-tracking" fun _ => return .bstjson_get_bst_tracking

def bstjson_get_bst_report : Except Fault ThresholdMessage :=
  bst_handler arith calls args "get-bst-report" fun params =>
    return .bstjson_get_bst_report (← realm_flags params "include")

def bstjson_get_bst_thresholds : Except Fault ThresholdMessage :=
  bst_handler arith calls args "get-bst-thresholds" fun params =>
    return .bstjson_get_bst_thresholds (← realm_flags params "include")

-- The values of a threshold request are checked before its message is made.
def bstjson_configure_bst_thresholds : Except Fault ThresholdMessage := do
  let envelope ← json_envelope arith "configure-bst-thresholds" mandatory_asic args
  let pCommand ← checked (Bst.bstjson_configure_bst_thresholds envelope.params)
  checked (bstjson_configure_bst_thresholds_impl pCommand calls envelope.cookie (unit envelope)
    envelope.id.toInt)

end Handlers

end BroadView.Bst.Northbound
