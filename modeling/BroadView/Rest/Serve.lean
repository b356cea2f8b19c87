import BroadView.Bst.Northbound
import BroadView.RegHb.Northbound
import BroadView.Rest.Http
import BroadView.Rest.Server

-- What the agent does with the bytes of a request, from the parser of the HTTP
-- request to the message that its handler posts.
namespace BroadView.Rest.Serve

open ModuleMgr Http

-- A message on one of the queues of the applications.
inductive Posted where
  | bst (msg : Bst.ThresholdMessage)
  | system (msg : RegHb.Northbound.RequestMessage)
  deriving DecidableEq

def Posted.cookie : Posted → Option Nat
  | .bst msg => msg.cookie
  | .system msg => some msg.cookie

def Posted.id : Posted → Int
  | .bst msg => msg.id
  | .system msg => msg.id

-- What the handlers are answered by what they call.
structure Calls where
  bst : Bst.ThresholdCalls
  system : Bool

abbrev Handler := Calls → HandlerArgs → Except Fault Posted

section Features

variable (arith : CJson.Arithmetic)

def bst_api (name : String)
    (handler : CJson.Arithmetic → Bst.ThresholdCalls → HandlerArgs →
      Except Fault Bst.ThresholdMessage) : BVIEW_REST_API Handler :=
  ⟨some name.toList, some fun calls args => (handler arith calls.bst args).map .bst⟩

def system_api (name : String)
    (handler : CJson.Arithmetic → Bool → HandlerArgs →
      Except Fault RegHb.Northbound.RequestMessage) : BVIEW_REST_API Handler :=
  ⟨some name.toList, some fun calls args => (handler arith calls.system args).map .system⟩

open Bst.Northbound in
def bst_cmd_api_list : List (BVIEW_REST_API Handler) :=
  [bst_api arith "configure-bst-tracking" bstjson_configure_bst_tracking,
    bst_api arith "configure-bst-feature" bstjson_configure_bst_feature,
    bst_api arith "configure-bst-thresholds" bstjson_configure_bst_thresholds,
    bst_api arith "get-bst-report" bstjson_get_bst_report,
    bst_api arith "get-bst-feature" bstjson_get_bst_feature,
    bst_api arith "get-bst-tracking" bstjson_get_bst_tracking,
    bst_api arith "get-bst-thresholds" bstjson_get_bst_thresholds,
    bst_api arith "clear-bst-thresholds" bstjson_clear_bst_thresholds,
    bst_api arith "clear-bst-statistics" bstjson_clear_bst_statistics]

open RegHb.Northbound in
def system_utils_api_list : List (BVIEW_REST_API Handler) :=
  [system_api arith "configure-system-feature" reg_hb_json_configure_feature,
    system_api arith "get-system-feature" reg_hb_json_get_feature,
    system_api arith "get-switch-properties" reg_hb_json_get_switch_properties]

theorem bst_name_fits : "bst".toList.length < BVIEW_MAX_FEATURE_NAME_LEN := by decide

theorem no_name_fits : "".toList.length < BVIEW_MAX_FEATURE_NAME_LEN := by decide

theorem bst_cmd_api_list_fits :
    (bst_cmd_api_list arith).length ≤ BVIEW_MAX_API_CMDS_PER_FEATURE := by
  change 9 ≤ 16
  omega

theorem system_utils_api_list_fits :
    (system_utils_api_list arith).length ≤ BVIEW_MAX_API_CMDS_PER_FEATURE := by
  change 3 ≤ 16
  omega

def bst_module : BVIEW_MODULE_FETAURE_INFO Handler :=
  moduleInfo BVIEW_FEATURE_BST "bst" (bst_cmd_api_list arith) bst_name_fits
    (bst_cmd_api_list_fits arith)

def system_utils_module : BVIEW_MODULE_FETAURE_INFO Handler :=
  moduleInfo BVIEW_FEATURE_SYSTEM "" (system_utils_api_list arith) no_name_fits
    (system_utils_api_list_fits arith)

end Features

section Process

variable (arith : CJson.Arithmetic) (modules : MODULES Handler) (calls : Calls)

-- The status of an attempt, unless it left an array.
def statusOf {α : Type} : Except Fault α → Option BVIEW_STATUS
  | .ok _ => some .SUCCESS
  | .error (.status rv) => some rv
  | .error .overrun => none

-- The root as the module manager reads it; there is none where the text is malformed.
def manager_root (jsonBuffer : List Char) : Option (Option Params) :=
  match parse_root arith jsonBuffer with
  | .ok root => some (some (members root))
  | .error (.status _) => some none
  | .error .overrun => none

-- What becomes of a request that is read: what the parts return, and the message
-- that is posted.
structure Served where
  process : Processing
  posted : Option Posted

-- From the module manager on. The session is the cookie of the request.
def serve_body (slot : Nat) (length : Int) (jsonBuffer : List Char) (ret : BVIEW_STATUS)
    (id : Int) : Option Served := do
  let root ← manager_root arith jsonBuffer
  match modulemgr_rest_api_handler_get root modules with
  | (.SUCCESS, some handler) =>
      let attempt := handler calls
        { cookie := some slot, jsonBuffer := some jsonBuffer, bufLength := Int32.ofInt length }
      let handled ← statusOf attempt
      return {
        process := { parsed := .SUCCESS, ret, id, found := .SUCCESS, handled }
        posted := attempt.toOption }
  | (found, _) =>
      return {
        process := { parsed := .SUCCESS, ret, id, found, handled := .SUCCESS }
        posted := none }

-- rest_process_http_request from the end of the reading loop on, up to its
-- answers. None is an access outside an array.
def serve (slot : Nat) (request : RequestBytes) : Option Served := do
  let (parsed, session) ← rest_parse_http_request_to_session modules request.session
  let jsonBuffer ← match session.json with
    | none => some none
    | some json => (session.buffer.stringAt json).map some
  let attempt := rest_get_id_from_request arith jsonBuffer
  let ret ← statusOf attempt
  let id : Int := match attempt with
    | .ok id => id.toInt
    | .error _ => 0
  match parsed, jsonBuffer with
  | .SUCCESS, some jsonBuffer =>
      serve_body arith modules calls slot session.length jsonBuffer ret id
  | _, _ =>
      return {
        process := { parsed, ret, id, found := .SUCCESS, handled := .SUCCESS }
        posted := none }

end Process

end BroadView.Rest.Serve
