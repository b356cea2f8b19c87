import BroadView.RegHb
import BroadView.Rest.Envelope

-- The REST handlers of the system application.
namespace BroadView.RegHb.Northbound

open Rest

-- The message with the fields that only its answer needs. It is of unit 0.
structure RequestMessage extends BVIEW_SYSTEM_UTILS_REQUEST_MSG where
  cookie : Nat
  id : Int
  deriving DecidableEq, Repr

section Handlers

variable (arith : CJson.Arithmetic) (msgsnd : Bool) (args : HandlerArgs)

def system_utils_send_request (msg_data : RequestMessage) : Except Fault RequestMessage :=
  if msgsnd then return msg_data else .error (.status .FAILURE)

-- A command that is not carried is zeroed.
def system_handler (method : String) (asic : Params → Except Fault Int32)
    (msg_type : BVIEW_SYSTEM_UTILS_CMD_API)
    (command : Params → Except BVIEW_STATUS REG_HB_JSON_CONFIGURE_FEATURE) :
    Except Fault RequestMessage := do
  let envelope ← json_envelope arith method asic args
  let config ← checked (command envelope.params)
  system_utils_send_request msgsnd
    { msg_type, unit := 0, config, cookie := envelope.cookie, id := envelope.id.toInt }

def reg_hb_json_configure_feature : Except Fault RequestMessage :=
  system_handler arith msgsnd args "configure-system-feature" no_asic .SET_FEATURE
    RegHb.reg_hb_json_configure_feature

def reg_hb_json_get_feature : Except Fault RequestMessage :=
  system_handler arith msgsnd args "get-system-feature" no_asic .GET_FEATURE fun _ =>
    return ⟨0, 0, 0⟩

-- The ASIC is checked when it is there, and is not used.
def reg_hb_json_get_switch_properties : Except Fault RequestMessage :=
  system_handler arith msgsnd args "get-switch-properties" optional_asic .GET_SWITCH_PROPERTIES
    fun _ => return ⟨0, 0, 0⟩

end Handlers

end BroadView.RegHb.Northbound
