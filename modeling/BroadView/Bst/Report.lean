import BroadView.Bst.Trigger
import Mathlib.Logic.Function.Basic

namespace BroadView.Bst

def setRecord (ptr : RecordPtr) (record : BVIEW_BST_REPORT_SNAPSHOT) (cxt : BVIEW_BST_UNIT_CXT) :
    BVIEW_BST_UNIT_CXT :=
  { cxt with records := Function.update cxt.records ptr record }

def activeRecord (cxt : BVIEW_BST_UNIT_CXT) : BVIEW_BST_REPORT_SNAPSHOT :=
  cxt.records cxt.stats_active_record_ptr

def backupRecord (cxt : BVIEW_BST_UNIT_CXT) : BVIEW_BST_REPORT_SNAPSHOT :=
  cxt.records cxt.stats_backup_record_ptr

-- The snapshot is collected straight into the current record, which then holds
-- whatever the southbound call left there, also when the call failed. The
-- status of a trigger report is the one of re-enabling the feature.
def collect_stats (msg : BVIEW_BST_REQUEST_MSG) (env : Env) (cxt : BVIEW_BST_UNIT_CXT) :
    Outcome :=
  let collected := setRecord cxt.stats_current_record_ptr env.sbapi_bst_snapshot_get.2 cxt
  let cxt' := if cxt.bst_config.config.statsInPercentage = 1
    then { collected with bst_max_buffers := env.sbapi_system_max_buf_snapshot_get }
    else collected
  if msg.msg_type = .TRIGGER_REPORT then
    let (rv, effects) := bst_enable_on_trigger msg env
    ⟨rv, cxt', effects⟩
  else
    ⟨env.sbapi_bst_snapshot_get.1, cxt', []⟩

def get_threshold_record (env : Env) (cxt : BVIEW_BST_UNIT_CXT) : Outcome :=
  ⟨env.sbapi_bst_threshold_get.1,
    { cxt with threshold_record := env.sbapi_bst_threshold_get.2 }, []⟩

-- Registered for GET_REPORT, TRIGGER_REPORT and GET_THRESHOLD.
def bst_get_report (msg : BVIEW_BST_REQUEST_MSG) (env : Env) (cxt : BVIEW_BST_UNIT_CXT) :
    Outcome :=
  if msg.msg_type = .GET_REPORT ∨ msg.msg_type = .TRIGGER_REPORT then
    collect_stats msg env cxt
  else if msg.msg_type = .GET_THRESHOLD then
    get_threshold_record env cxt
  else
    ⟨.SUCCESS, cxt, []⟩

-- What bst_get_report leaves in the request: a periodic or trigger report
-- collects the tracked realms (BST_COPY_TRACK_TO_COLLECT).
def copy_track_to_collect (cxt : BVIEW_BST_UNIT_CXT) (msg : BVIEW_BST_REQUEST_MSG) :
    BVIEW_BST_REQUEST_MSG :=
  if msg.report_type = some .STATS_PERIODIC ∨ msg.report_type = some .STATS_TRIGGER then
    { msg with collect := cxt.bst_config.track.track }
  else msg

def handled_request (cxt : BVIEW_BST_UNIT_CXT) (msg : BVIEW_BST_REQUEST_MSG) :
    BVIEW_BST_REQUEST_MSG :=
  match msg.msg_type with
  | .GET_REPORT | .TRIGGER_REPORT | .GET_THRESHOLD => copy_track_to_collect cxt msg
  | _ => msg

def bst_config_threshold_set (msg : BVIEW_BST_REQUEST_MSG) (env : Env)
    (cxt : BVIEW_BST_UNIT_CXT) : Outcome :=
  match msg.threshold_type with
  | some realm => ⟨env.sbapi_bst_threshold_set realm, cxt, []⟩
  | none => ⟨.SUCCESS, cxt, []⟩

def bst_clear_threshold_set (_msg : BVIEW_BST_REQUEST_MSG) (env : Env)
    (cxt : BVIEW_BST_UNIT_CXT) : Outcome :=
  let rv := env.sbapi_bst_clear_thresholds
  ⟨rv, if rv = .SUCCESS then { cxt with threshold_record := .zero } else cxt, []⟩

-- The three records are zeroed before the southbound call.
def bst_clear_stats_set (_msg : BVIEW_BST_REQUEST_MSG) (env : Env) (cxt : BVIEW_BST_UNIT_CXT) :
    Outcome :=
  ⟨env.sbapi_bst_clear_stats,
    setRecord cxt.stats_current_record_ptr .zero
      (setRecord cxt.stats_active_record_ptr .zero
        (setRecord cxt.stats_backup_record_ptr .zero cxt)), []⟩

def bst_update_data (type : BVIEW_BST_REPORT_TYPE) (cxt : BVIEW_BST_UNIT_CXT) :
    BVIEW_BST_UNIT_CXT :=
  match type with
  | .STATS => { cxt with
      stats_backup_record_ptr := cxt.stats_active_record_ptr
      stats_active_record_ptr := cxt.stats_current_record_ptr
      stats_current_record_ptr := cxt.stats_backup_record_ptr }
  | _ => cxt

end BroadView.Bst
