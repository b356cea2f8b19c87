import BroadView.Rest.Params

namespace BroadView.ModuleMgr

open Rest

def BVIEW_MAX_MODULES : Nat := 16
def BVIEW_MAX_API_CMDS_PER_FEATURE : Nat := 16
def BVIEW_MAX_FEATURE_NAME_LEN : Nat := 32

section Tables

variable (Handler : Type)

-- A missing string or handler is NULL.
structure BVIEW_REST_API where
  apiString : Option (List Char)
  handler : Option Handler
  deriving DecidableEq

-- The name is a C string within its array.
structure BVIEW_MODULE_FETAURE_INFO where
  featureId : Nat
  featureName : List Char
  restApiList : List (BVIEW_REST_API Handler)
  name_fits : featureName.length < BVIEW_MAX_FEATURE_NAME_LEN
  api_length : restApiList.length = BVIEW_MAX_API_CMDS_PER_FEATURE
  deriving DecidableEq

structure BVIEW_MODULE_INFO where
  isInUse : Bool
  moduleData : BVIEW_MODULE_FETAURE_INFO Handler
  deriving DecidableEq

structure MODULES where
  moduleData : List (BVIEW_MODULE_INFO Handler)
  length_eq : moduleData.length = BVIEW_MAX_MODULES

variable {Handler}

-- What memset leaves in a slot.
def zeroed : BVIEW_MODULE_INFO Handler where
  isInUse := false
  moduleData :=
    { featureId := 0
      featureName := []
      restApiList := List.replicate BVIEW_MAX_API_CMDS_PER_FEATURE ⟨none, none⟩
      name_fits := by decide
      api_length := List.length_replicate }

-- A feature fills its structure with zeros and copies its methods to the front
-- of the list.
def moduleInfo (featureId : Nat) (featureName : String) (apis : List (BVIEW_REST_API Handler))
    (hname : featureName.toList.length < BVIEW_MAX_FEATURE_NAME_LEN)
    (hapis : apis.length ≤ BVIEW_MAX_API_CMDS_PER_FEATURE) :
    BVIEW_MODULE_FETAURE_INFO Handler where
  featureId := featureId
  featureName := featureName.toList
  restApiList := apis ++
    List.replicate (BVIEW_MAX_API_CMDS_PER_FEATURE - apis.length) ⟨none, none⟩
  name_fits := hname
  api_length := by
    rw [List.length_append, List.length_replicate]
    omega

def MODULES.set (modules : MODULES Handler) (moduleIndex : Nat)
    (info : BVIEW_MODULE_INFO Handler) : MODULES Handler where
  moduleData := modules.moduleData.set moduleIndex info
  length_eq := by rw [List.length_set, modules.length_eq]

end Tables

section Register

variable {Handler : Type}

def modulemgr_init : MODULES Handler where
  moduleData := List.replicate BVIEW_MAX_MODULES zeroed
  length_eq := List.length_replicate

inductive Scan where
  | entryAlreadyPresent
  | absent (freeEntryIndex : Option Nat)
  deriving DecidableEq

-- A free slot is taken note of only while none is known. Any other slot is
-- compared, whether it is in use or not.
def scan (featureId : Nat) : List (BVIEW_MODULE_INFO Handler) → Nat → Option Nat → Scan
  | [], _, freeEntryIndex => .absent freeEntryIndex
  | info :: rest, moduleIndex, freeEntryIndex =>
      if info.isInUse = false ∧ freeEntryIndex = none then
        scan featureId rest (moduleIndex + 1) (some moduleIndex)
      else if info.moduleData.featureId = featureId then .entryAlreadyPresent
      else scan featureId rest (moduleIndex + 1) freeEntryIndex

def modulemgr_register (featureInfo : BVIEW_MODULE_FETAURE_INFO Handler)
    (modules : MODULES Handler) : BVIEW_STATUS × MODULES Handler :=
  match scan featureInfo.featureId modules.moduleData 0 none with
  | .entryAlreadyPresent => (.DUPLICATE, modules)
  | .absent none => (.TABLE_FULL, modules)
  | .absent (some freeEntryIndex) => (.SUCCESS, modules.set freeEntryIndex ⟨true, featureInfo⟩)

def register (modules : MODULES Handler) (featureInfo : BVIEW_MODULE_FETAURE_INFO Handler) :
    MODULES Handler := (modulemgr_register featureInfo modules).2

end Register

section Lookup

variable {Handler : Type}

-- The text has failed to parse when there is no root. A longer name is cut.
def json_buf_to_api_string_get (root : Option Params) : Except BVIEW_STATUS (List Char) :=
  match root with
  | none => .error .INVALID_JSON
  | some params =>
      (mandatory_string params "method").map fun name => name.take (JSON_MAX_NODE_LENGTH - 1)

-- The loop over the methods of one module ends at the first of the name.
def find_api (apiString : List Char) (info : BVIEW_MODULE_INFO Handler) :
    Option (BVIEW_REST_API Handler) :=
  info.moduleData.restApiList.find? fun api => api.apiString = some apiString

-- A method without a handler makes rv a failure, and the search goes on in the
-- next module.
def find_handler (apiString : List Char) :
    List (BVIEW_MODULE_INFO Handler) → BVIEW_STATUS → BVIEW_STATUS × Option Handler
  | [], _ => (.FAILURE, none)
  | info :: rest, rv =>
      match find_api apiString info with
      | none => find_handler apiString rest rv
      | some api =>
          match api.handler with
          | some handler => (rv, some handler)
          | none => find_handler apiString rest .FAILURE

def modulemgr_rest_api_handler_get (root : Option Params) (modules : MODULES Handler) :
    BVIEW_STATUS × Option Handler :=
  match json_buf_to_api_string_get root with
  | .error rv => (rv, none)
  | .ok apiString => find_handler apiString modules.moduleData .SUCCESS

-- The name of the first module that has the method, with a handler or without.
def modulemgr_rest_api_feature_name_get (apiString : List Char) (modules : MODULES Handler) :
    BVIEW_STATUS × Option (List Char) :=
  match modules.moduleData.find? fun info => (find_api apiString info).isSome with
  | none => (.FAILURE, none)
  | some info => (.SUCCESS, some info.moduleData.featureName)

end Lookup

end BroadView.ModuleMgr
