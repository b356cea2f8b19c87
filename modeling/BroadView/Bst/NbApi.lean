import BroadView.Bst.App

namespace BroadView.Bst

-- The requests that the REST layer posts to the BST queue, with the decoded
-- parameters the handlers read. A threshold request is posted only once its
-- realm is known and its values are checked.
inductive RestRequest where
  | bstjson_clear_bst_statistics
  | bstjson_clear_bst_thresholds
  | bstjson_configure_bst_feature (pCommand : BSTJSON_CONFIGURE_BST_FEATURE)
  | bstjson_configure_bst_thresholds (threshold_type : BVIEW_BST_THRESHOLD_TYPE)
  | bstjson_configure_bst_tracking (pCommand : BSTJSON_CONFIGURE_BST_TRACKING)
  | bstjson_get_bst_feature
  | bstjson_get_bst_report (pCommand : RealmFlags)
  | bstjson_get_bst_thresholds (pCommand : RealmFlags)
  | bstjson_get_bst_tracking

namespace RestRequest

def msg_type : RestRequest → BVIEW_BST_CMD_API
  | bstjson_clear_bst_statistics => .CLEAR_STATS
  | bstjson_clear_bst_thresholds => .CLEAR_THRESHOLD
  | bstjson_configure_bst_feature _ => .SET_FEATURE
  | bstjson_configure_bst_thresholds _ => .SET_THRESHOLD
  | bstjson_configure_bst_tracking _ => .SET_TRACK
  | bstjson_get_bst_feature => .GET_FEATURE
  | bstjson_get_bst_report _ => .GET_REPORT
  | bstjson_get_bst_thresholds _ => .GET_THRESHOLD
  | bstjson_get_bst_tracking => .GET_TRACK

-- What every handler of bst_nb_api.c fills in.
def header (request : RestRequest) (cookie : Cookie) (asicId : Nat) (id : Int) :
    BVIEW_BST_REQUEST_MSG :=
  { BVIEW_BST_REQUEST_MSG.zeroed request.msg_type asicId with cookie := some cookie, id }

def msg (request : RestRequest) (cookie : Cookie) (asicId : Nat) (id : Int) :
    BVIEW_BST_REQUEST_MSG :=
  let msg_data := request.header cookie asicId id
  match request with
  | bstjson_configure_bst_feature pCommand => { msg_data with config := pCommand }
  | bstjson_configure_bst_thresholds threshold_type =>
      { msg_data with threshold_type := some threshold_type }
  | bstjson_configure_bst_tracking pCommand => { msg_data with track := pCommand }
  | bstjson_get_bst_report pCommand => { msg_data with collect := pCommand }
  | bstjson_get_bst_thresholds pCommand => { msg_data with collect := pCommand }
  | _ => msg_data

-- The requests whose reply has a JSON body.
def hasBody : RestRequest → Bool
  | bstjson_get_bst_feature | bstjson_get_bst_report _ | bstjson_get_bst_thresholds _
  | bstjson_get_bst_tracking => true
  | _ => false

section Message

variable (request : RestRequest) (cookie : Cookie) (asicId : Nat) (id : Int)

@[simp] theorem msg_msg_type : (request.msg cookie asicId id).msg_type = request.msg_type := by
  cases request <;> rfl

@[simp] theorem msg_unit : (request.msg cookie asicId id).unit = asicId := by
  cases request <;> rfl

@[simp] theorem msg_cookie : (request.msg cookie asicId id).cookie = some cookie := by
  cases request <;> rfl

-- A request of the REST layer is neither periodic nor a trigger report.
@[simp] theorem msg_report_type : (request.msg cookie asicId id).report_type = none := by
  cases request <;> rfl

end Message

end RestRequest

def BVIEW_BST_CONFIG_FEATURE_UPDATE : Int := 1
def BVIEW_BST_CONFIG_TRACK_UPDATE : Int := 1

-- The type that the first comparison sets is overwritten by the second.
def notified_type (id : Int) : BVIEW_BST_CMD_API :=
  if id = BVIEW_BST_CONFIG_FEATURE_UPDATE then .UPDATE_FEATURE else .UPDATE_TRACK

-- What is posted to the BST queue.
def bst_notify_config_change (asicId : Nat) (id : Int) : Option BVIEW_BST_REQUEST_MSG :=
  if id ≠ BVIEW_BST_CONFIG_FEATURE_UPDATE ∧ id ≠ BVIEW_BST_CONFIG_TRACK_UPDATE then none
  else some (.zeroed (notified_type id) asicId)

-- The two codes are the same number, so every notification is one of the
-- feature parameters.
theorem notify_config_change (asicId : Nat) {id : Int}
    (hid : id = BVIEW_BST_CONFIG_FEATURE_UPDATE ∨ id = BVIEW_BST_CONFIG_TRACK_UPDATE) :
    bst_notify_config_change asicId id = some (.zeroed .UPDATE_FEATURE asicId) := by
  have hone : id = BVIEW_BST_CONFIG_FEATURE_UPDATE := by
    rcases hid with h | h <;> exact h
  simp [bst_notify_config_change, notified_type, hone]

end BroadView.Bst
