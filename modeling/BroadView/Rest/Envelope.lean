import BroadView.CJson
import BroadView.CString
import BroadView.ModuleMgr

-- What every handler of a REST method does before it reads the parameters of its
-- own.
namespace BroadView.Rest

open CJson CString ModuleMgr

-- An access outside an array, or the status that is returned.
inductive Fault where
  | overrun
  | status (rv : BVIEW_STATUS)
  deriving DecidableEq, Repr

def checked {α : Type} (attempt : Except BVIEW_STATUS α) : Except Fault α :=
  attempt.mapError .status

section Root

variable {Double : Type}

def found : Item Double → cJSON
  | .number _ valueint => .number valueint
  | .string valuestring => .string (String.ofList valuestring)
  | _ => .other

-- What cJSON_GetObjectItem finds in an item.
def members (object : Item Double) : Params :=
  fun name => (cJSON_GetObjectItem object name.toList).map found

-- There is no root when the text is malformed.
def parse_root (arith : Arithmetic) (jsonBuffer : List Char) : Except Fault (Item arith.Double) :=
  match cJSON_Parse arith jsonBuffer with
  | .ok root => .ok root
  | .error .malformed => .error (.status .INVALID_JSON)
  | .error _ => .error .overrun

end Root

-- A longer value is cut before it is compared.
def compare_string (params : Params) (name : String) (required : List Char) :
    Except BVIEW_STATUS Unit := do
  let value ← mandatory_string params name
  if value.take (JSON_MAX_NODE_LENGTH - 1) = required then return () else .error .INVALID_JSON

section Asic

-- The application counts ASICs from 1.
def asicMap : List Int32 := [-1, 0]

def sbplugin_ovsdb_system_asic_translate_from_notation (src : List Char) : Except Fault Int32 :=
  let asic := atoi src
  if Int32.ofNat BVIEW_MAX_ASICS_ON_A_PLATFORM < asic then .error (.status .INVALID_PARAMETER)
  else if asic < 0 then .error .overrun
  else .ok (asicMap.getD asic.toInt.toNat 0)

-- A failure to translate is one of the JSON.
def JSON_ASIC_ID_MAP_FROM_NOTATION (asicStr : List Char) : Except Fault Int32 :=
  match sbplugin_ovsdb_system_asic_translate_from_notation asicStr with
  | .error (.status _) => .error (.status .INVALID_JSON)
  | result => result

def mandatory_asic (params : Params) : Except Fault Int32 := do
  let asicStr ← checked (mandatory_string params "asic-id")
  JSON_ASIC_ID_MAP_FROM_NOTATION asicStr

-- An ASIC that may be left out is 0 then.
def optional_asic (params : Params) : Except Fault Int32 := do
  match ← checked (optional_string params "asic-id") with
  | none => return 0
  | some asicStr =>
      let asicId ← JSON_ASIC_ID_MAP_FROM_NOTATION asicStr
      if asicId < 0 then .error (.status .INVALID_PARAMETER) else return asicId

-- The methods of the system know of no ASIC.
def no_asic (_params : Params) : Except Fault Int32 := return 0

end Asic

-- A request as its handler has read it up to the parameters of the method. The
-- cookie is the session.
structure Envelope where
  cookie : Nat
  asicId : Int32
  id : Int32
  params : Params

-- The arguments of a handler. The length comes as an int and is compared as a
-- size_t.
structure HandlerArgs where
  cookie : Option Nat
  jsonBuffer : Option (List Char)
  bufLength : Int32

def check_args (args : HandlerArgs) : Except BVIEW_STATUS (Nat × List Char) :=
  match args.cookie, args.jsonBuffer with
  | some cookie, some jsonBuffer =>
      if args.bufLength < 0 ∨ (jsonBuffer.length : Int) < args.bufLength.toInt then
        .error .INVALID_PARAMETER
      else .ok (cookie, jsonBuffer)
  | _, _ => .error .INVALID_PARAMETER

def required_params {Double : Type} (root : Item Double) : Except BVIEW_STATUS Params :=
  match cJSON_GetObjectItem root "params".toList with
  | some params => .ok (members params)
  | none => .error .INVALID_JSON

def json_envelope (arith : Arithmetic) (method : String) (asic : Params → Except Fault Int32)
    (args : HandlerArgs) : Except Fault Envelope := do
  let (cookie, jsonBuffer) ← checked (check_args args)
  let root ← parse_root arith jsonBuffer
  let params ← checked (required_params root)
  checked (compare_string (members root) "jsonrpc" "2.0".toList)
  checked (compare_string (members root) "method" method.toList)
  let asicId ← asic (members root)
  let id ← checked (mandatory (members root) "id" 1 100000)
  return { cookie, asicId, id, params }

-- The search for the id that an error is answered with.
def rest_get_id_from_request (arith : Arithmetic) (jsonBuffer : Option (List Char)) :
    Except Fault Int32 := do
  match jsonBuffer with
  | none => .error (.status .INVALID_PARAMETER)
  | some jsonBuffer =>
      let root ← parse_root arith jsonBuffer
      checked (mandatory (members root) "id" 1 100000)

end BroadView.Rest
