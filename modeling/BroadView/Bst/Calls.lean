import BroadView.Bst.App

namespace BroadView.Bst

inductive ResponseData where
  | none
  | config (params : BSTJSON_CONFIGURE_BST_FEATURE)
  | track (params : BSTJSON_CONFIGURE_BST_TRACKING)
  | report (active : BVIEW_BST_REPORT_SNAPSHOT) (backup : Option BVIEW_BST_REPORT_SNAPSHOT)
  deriving Inhabited

-- The record pointers of a report are dereferenced under the lock that the
-- encoder holds, so the reply carries the records themselves.
structure BVIEW_BST_RESPONSE_MSG where
  msg_type : BVIEW_BST_CMD_API
  unit : Nat
  cookie : Option Cookie
  id : Int
  asic_capabilities : Option BVIEW_ASIC_CAPABILITIES
  options : BSTJSON_REPORT_OPTIONS
  rv : BVIEW_STATUS
  response : ResponseData

-- What the calls out of the application answer while one message is handled.
-- A southbound getter answers its status and what it leaves in the caller's
-- structure, which may be partly filled when the status is not SUCCESS.
structure Env where
  sbapi_bst_config_get : BVIEW_STATUS × BVIEW_BST_CONFIG
  sbapi_bst_config_set : BVIEW_STATUS
  sbapi_bst_snapshot_get : BVIEW_STATUS × BVIEW_BST_REPORT_SNAPSHOT
  sbapi_bst_threshold_get : BVIEW_STATUS × BVIEW_BST_REPORT_SNAPSHOT
  sbapi_bst_threshold_set : BVIEW_BST_THRESHOLD_TYPE → BVIEW_STATUS
  sbapi_bst_clear_thresholds : BVIEW_STATUS
  sbapi_bst_clear_stats : BVIEW_STATUS
  sbapi_system_max_buf_snapshot_get : BVIEW_SYSTEM_ASIC_MAX_BUF_SNAPSHOT_DATA
  sbapi_system_num_units_get : BVIEW_STATUS
  timer : TimerCalls
  msgsnd : Bool
  encode : BVIEW_BST_RESPONSE_MSG → BVIEW_STATUS × Option (List Char)
  rest_response_send : BVIEW_STATUS

-- The calls that leave the application, in the order they are made.
inductive Effect where
  | sbapi_bst_config_set (unit : Nat) (mode : BVIEW_BST_CONFIG) (rv : BVIEW_STATUS)
  | bst_send_request (msg : BVIEW_BST_REQUEST_MSG)
  | encode (reply : BVIEW_BST_RESPONSE_MSG)
  | rest_response_send (cookie : Option Cookie) (rv : BVIEW_STATUS)
  | rest_response_send_ok (cookie : Option Cookie)
  | rest_response_send_error (cookie : Option Cookie) (status : BVIEW_STATUS) (id : Int)

structure Outcome where
  rv : BVIEW_STATUS
  cxt : BVIEW_BST_UNIT_CXT
  effects : List Effect

-- C compares the unsigned trigger count with the signed limit as unsigned.
def toUnsigned (value : Int32) : UInt32 := value.toUInt32

end BroadView.Bst
