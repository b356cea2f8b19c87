import BroadView.Bst.Config
import BroadView.Bst.Report

namespace BroadView.Bst

-- The handlers of bst_api_list.
def bst_type_api_get (type : BVIEW_BST_CMD_API) :
    Option (BVIEW_BST_REQUEST_MSG → Env → BVIEW_BST_UNIT_CXT → Outcome) :=
  match type with
  | .GET_FEATURE => some bst_config_feature_get
  | .GET_TRACK => some bst_config_track_get
  | .GET_REPORT => some bst_get_report
  | .GET_THRESHOLD => some bst_get_report
  | .TRIGGER_REPORT => some bst_get_report
  | .TRIGGER_COLLECT => some bst_process_trigger
  | .SET_FEATURE => some bst_config_feature_set
  | .SET_TRACK => some bst_config_track_set
  | .SET_THRESHOLD => some bst_config_threshold_set
  | .CLEAR_THRESHOLD => some bst_clear_threshold_set
  | .CLEAR_STATS => some bst_clear_stats_set
  | .CLEAR_TRIGGER_COUNT => some bst_clear_trigger_count
  | .ENABLE_BST_ON_TRIGGER => some bst_enable_on_trigger_timer_expiry
  | .UPDATE_TRACK => some bst_update_config_set
  | .UPDATE_FEATURE => some bst_update_config_set
  | .MAX => none

def bst_set_realm_to_collect (realm : String) (flags : RealmFlags) : RealmFlags :=
  if realm = "device" then { flags with device := true }
  else if realm = "ingress-service-pool" then { flags with ingressServicePool := true }
  else if realm = "ingress-port-service-pool" then { flags with ingressPortServicePool := true }
  else if realm = "ingress-port-priority-group" then
    { flags with ingressPortPriorityGroup := true }
  else if realm = "egress-port-service-pool" then { flags with egressPortServicePool := true }
  else if realm = "egress-service-pool" then { flags with egressServicePool := true }
  else if realm = "egress-uc-queue" then { flags with egressUcQueue := true }
  else if realm = "egress-uc-queue-group" then { flags with egressUcQueueGroup := true }
  else if realm = "egress-mc-queue" then { flags with egressMcQueue := true }
  else if realm = "egress-cpu-queue" then { flags with egressCpuQueue := true }
  else if realm = "egress-rqe-queue" then { flags with egressRqeQueue := true }
  else flags

-- The part of bst_send_response that encodes a body and sends it. The buffer
-- is sent only when the encoder succeeded; otherwise the failure is logged.
def encode_and_send (reply : BVIEW_BST_RESPONSE_MSG) (env : Env) : BVIEW_STATUS × List Effect :=
  match env.encode reply with
  | (.SUCCESS, some _) =>
      (env.rest_response_send,
        [.encode reply, .rest_response_send reply.cookie env.rest_response_send])
  | (rv, _) => (rv, [.encode reply])

def bst_send_response (reply : BVIEW_BST_RESPONSE_MSG) (env : Env) :
    BVIEW_STATUS × List Effect :=
  if reply.rv ≠ .SUCCESS then
    (.SUCCESS, [.rest_response_send_error reply.cookie reply.rv reply.id])
  else
    match reply.msg_type with
    | .SET_TRACK | .SET_FEATURE | .SET_THRESHOLD | .CLEAR_STATS | .CLEAR_THRESHOLD =>
        (.SUCCESS, [.rest_response_send_ok reply.cookie])
    | .GET_TRACK | .GET_FEATURE | .GET_REPORT | .TRIGGER_REPORT | .GET_THRESHOLD =>
        encode_and_send reply env
    | _ => (.SUCCESS, [])

-- The reply before the switch on the message type.
def base_reply (msg : BVIEW_BST_REQUEST_MSG) (rv : BVIEW_STATUS) (cxt : BVIEW_BST_UNIT_CXT) :
    BVIEW_BST_RESPONSE_MSG :=
  { msg_type := msg.msg_type
    unit := msg.unit
    cookie := msg.cookie
    id := msg.id
    asic_capabilities := some cxt.asic_capabilities
    rv
    response := .none
    options := { (default : BSTJSON_REPORT_OPTIONS) with
      statUnitsInCells := decide (cxt.bst_config.config.statUnitsInCells ≠ 0)
      statsInPercentage := false
      bst_max_buffers_ptr := cxt.bst_max_buffers
      includes := msg.collect } }

-- A trigger report is asynchronous, and without a snapshot it shows only the
-- realm of its trigger.
def trigger_reply (msg : BVIEW_BST_REQUEST_MSG) (cxt : BVIEW_BST_UNIT_CXT)
    (reply : BVIEW_BST_RESPONSE_MSG) : BVIEW_BST_RESPONSE_MSG :=
  if msg.report_type = some .STATS_TRIGGER then
    let snapshot := decide (cxt.bst_config.config.sendSnapshotOnTrigger ≠ 0)
    { reply with
      cookie := none
      options := { reply.options with
        reportTrigger := true
        reportThreshold := false
        triggerInfo := msg.triggerInfo
        sendSnapShotOnTrigger := snapshot
        includes := if snapshot then reply.options.includes
          else bst_set_realm_to_collect msg.triggerInfo.realm default } }
  else reply

-- cxt is the unit after bst_update_data. Only a periodic report may be relative
-- to the backup record.
def report_reply (msg : BVIEW_BST_REQUEST_MSG) (cxt : BVIEW_BST_UNIT_CXT)
    (reply : BVIEW_BST_RESPONSE_MSG) : BVIEW_BST_RESPONSE_MSG :=
  let config := cxt.bst_config.config
  if msg.report_type = some .STATS_PERIODIC then
    { reply with
      cookie := none
      response := .report (activeRecord cxt)
        (if config.sendIncrementalReport = 0 then none else some (backupRecord cxt))
      options := { reply.options with
        sendIncrementalReport := decide (config.sendIncrementalReport ≠ 0)
        statsInPercentage := decide (config.statsInPercentage ≠ 0) } }
  else
    { reply with
      response := .report (activeRecord cxt) none
      options := { reply.options with
        sendIncrementalReport := true
        statsInPercentage := decide (config.statsInPercentage ≠ 0) } }

def threshold_reply (cxt : BVIEW_BST_UNIT_CXT) (reply : BVIEW_BST_RESPONSE_MSG) :
    BVIEW_BST_RESPONSE_MSG :=
  { reply with
    response := .report cxt.threshold_record none
    options := { reply.options with
      reportThreshold := true
      sendIncrementalReport := false } }

-- The reply and the unit it leaves; the report case rotates the records
-- whatever the status of the handler was.
def prepare_reply (msg : BVIEW_BST_REQUEST_MSG) (rv : BVIEW_STATUS) (cxt : BVIEW_BST_UNIT_CXT) :
    BVIEW_BST_RESPONSE_MSG × BVIEW_BST_UNIT_CXT :=
  let reply := base_reply msg rv cxt
  match msg.msg_type with
  | .GET_REPORT | .TRIGGER_REPORT =>
      let cxt' := bst_update_data .STATS cxt
      (report_reply msg cxt' (trigger_reply msg cxt reply), cxt')
  | .GET_THRESHOLD => (threshold_reply cxt reply, cxt)
  | .GET_FEATURE => ({ reply with response := .config cxt.bst_config.config }, cxt)
  | .GET_TRACK => ({ reply with response := .track cxt.bst_config.track }, cxt)
  | _ => (reply, cxt)

def bst_copy_reply_params (msg : BVIEW_BST_REQUEST_MSG) (rv : BVIEW_STATUS) (env : Env)
    (cxt : BVIEW_BST_UNIT_CXT) : Outcome :=
  let (reply, cxt') := prepare_reply msg rv cxt
  let (sent, effects) := bst_send_response reply env
  ⟨sent, cxt', effects⟩

-- The reply to a message whose unit does not exist.
def unknown_unit_reply (msg : BVIEW_BST_REQUEST_MSG) : BVIEW_BST_RESPONSE_MSG :=
  { msg_type := msg.msg_type
    unit := msg.unit
    cookie := msg.cookie
    id := msg.id
    asic_capabilities := none
    rv := .INVALID_PARAMETER
    response := .none
    options := default }

-- One message of the BST thread on the unit it names.
def handle_message (msg : BVIEW_BST_REQUEST_MSG) (env : Env) (cxt : BVIEW_BST_UNIT_CXT) :
    BVIEW_BST_UNIT_CXT × List Effect :=
  match bst_type_api_get msg.msg_type with
  | none => (cxt, [])
  | some handler =>
      let handled := handler msg env cxt
      if msg.msg_type = .UPDATE_TRACK ∨ msg.msg_type = .UPDATE_FEATURE then
        (handled.cxt, handled.effects)
      else
        let replied := bst_copy_reply_params (handled_request cxt msg) handled.rv env handled.cxt
        (replied.cxt, handled.effects ++ replied.effects)

-- One message of the trigger thread, which sends no reply.
def handle_trigger_message (msg : BVIEW_BST_REQUEST_MSG) (env : Env)
    (cxt : BVIEW_BST_UNIT_CXT) : BVIEW_BST_UNIT_CXT × List Effect :=
  match bst_type_api_get msg.msg_type with
  | none => (cxt, [])
  | some handler =>
      let handled := handler msg env cxt
      (handled.cxt, handled.effects)

end BroadView.Bst
