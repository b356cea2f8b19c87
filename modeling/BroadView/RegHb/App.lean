import BroadView.RegHb.Encoder
import BroadView.RegHb.Northbound

-- The thread of the system application, its queue and its timer.
namespace BroadView.RegHb

open Bst Transition

-- A heartbeat has no cookie.
structure Message extends BVIEW_SYSTEM_UTILS_REQUEST_MSG where
  cookie : Option Nat
  id : Int
  deriving DecidableEq, Repr

def Northbound.RequestMessage.message (msg : Northbound.RequestMessage) : Message :=
  { msg with cookie := some msg.cookie }

-- The zeroed message of the timer.
def heartbeat : Message :=
  { msg_type := .GET_SWITCH_PROPERTIES, unit := 0, config := ⟨0, 0, 0⟩, cookie := none, id := 0 }

structure BVIEW_SYSTEM_UTILS_RESPONSE_MSG where
  msg_type : BVIEW_SYSTEM_UTILS_CMD_API
  unit : Nat
  cookie : Option Nat
  id : Int
  rv : BVIEW_STATUS

inductive Answer where
  | rest_response_send (cookie : Option Nat) (text : List Char)
  | rest_response_send_ok (cookie : Option Nat)
  | rest_response_send_error (cookie : Option Nat) (rv : BVIEW_STATUS) (id : Int)
  deriving DecidableEq, Repr

structure BVIEW_SYSTEM_UTILS_CXT where
  data : BVIEW_SYSTEM_UTILS_DATA
  switchProperties : BVIEW_SWITCH_PROPERTIES
  jsonMemoryPool : Pool.Usage
  recvMsgQid : List Message

-- What the plugin and the agent answer while the thread starts. A failure of one of
-- the first calls ends the thread; one of the others leaves zeros.
structure Platform where
  feature_mask_get : Option UInt32
  network_os_get : Option (List Char)
  num_units : Nat
  asic_translate_to_notation : Nat → Option (List Char)
  unit_to_asic_type_get : Nat → Option UInt32
  asic_num_ports_get : Nat → Option Int32
  uid_get : List Char
  version_get : List Char

def asic_info_get (platform : Platform) (id : Nat) : Option BVIEW_SWITCH_ASIC_INFO := do
  return {
    asic_notation := ← platform.asic_translate_to_notation id
    asicType := ← platform.unit_to_asic_type_get id
    numPorts := ← platform.asic_num_ports_get id }

-- What a turn finds of the addresses of the agent, which change, of the time and of
-- the timer calls. A time that cannot be had is zero.
structure Turn where
  calls : TimerCalls
  agent_port : Int32
  ip4 : List Char
  time : Option Int

def refresh (turn : Turn) (properties : BVIEW_SWITCH_PROPERTIES) : BVIEW_SWITCH_PROPERTIES :=
  { properties with agent_port := turn.agent_port, agent_ipaddr := turn.ip4 }

def switch_properties_init (platform : Platform) (turn : Turn) :
    Option BVIEW_SWITCH_PROPERTIES := do
  let featureMask ← platform.feature_mask_get
  let networkOs ← platform.network_os_get
  let asicInfo ← (List.range platform.num_units).mapM (asic_info_get platform)
  return {
    timeStamp := 0
    networkOs
    featureMask
    asicInfo
    uid := platform.uid_get
    agent_ipaddr := turn.ip4
    agent_port := turn.agent_port
    agent_sw_version := platform.version_get }

-- The thread up to its loop.
def start (platform : Platform) (turn : Turn) : Option BVIEW_SYSTEM_UTILS_CXT :=
  (switch_properties_init platform turn).map fun switchProperties =>
    { data := system_utils_app_main turn.calls
      switchProperties
      jsonMemoryPool := system_utils_json_memory_init
      recvMsgQid := [] }

section Send

variable (localtime : Int → Tm) (cxt : BVIEW_SYSTEM_UTILS_CXT)

-- The other commands encode nothing.
def encode_response (reply_data : BVIEW_SYSTEM_UTILS_RESPONSE_MSG) : Option Encoding :=
  match reply_data.msg_type with
  | .GET_FEATURE =>
      some (reg_hb_json_encode_get_feature reply_data.id cxt.data.config cxt.jsonMemoryPool)
  | .GET_SWITCH_PROPERTIES =>
      reg_hb_json_encode_get_switch_properties localtime reply_data.id cxt.switchProperties
        cxt.jsonMemoryPool
  | _ => some { rv := .SUCCESS, pJsonBuffer := none, text := [], pool := cxt.jsonMemoryPool }

-- The buffer is freed whether or not the text could be sent.
def send_encoding (cookie : Option Nat) (encoding : Encoding) : List Answer × Pool.Usage :=
  match encoding.pJsonBuffer with
  | none => ([], encoding.pool)
  | some pJsonBuffer =>
      (if encoding.rv = .SUCCESS then [.rest_response_send cookie encoding.text] else [],
        (system_utils_json_memory_free encoding.pool (some pJsonBuffer)).2)

def system_utils_send_response (reply_data : BVIEW_SYSTEM_UTILS_RESPONSE_MSG) :
    Option (List Answer × Pool.Usage) :=
  if reply_data.rv ≠ .SUCCESS then
    some ([.rest_response_send_error reply_data.cookie reply_data.rv reply_data.id],
      cxt.jsonMemoryPool)
  else if reply_data.msg_type = .SET_FEATURE then
    some ([.rest_response_send_ok reply_data.cookie], cxt.jsonMemoryPool)
  else
    (encode_response localtime cxt reply_data).map (send_encoding reply_data.cookie)

end Send

-- The time stamp is taken for the one command that reports it.
def stamp (msg : Message) (turn : Turn) (properties : BVIEW_SWITCH_PROPERTIES) :
    BVIEW_SWITCH_PROPERTIES :=
  if msg.msg_type = .GET_SWITCH_PROPERTIES then
    { properties with timeStamp := turn.time.getD 0 }
  else properties

section Thread

variable (localtime : Int → Tm) (num_units : Nat)

-- What the thread does with a message. A command that is not known is dropped.
def handle (cxt : BVIEW_SYSTEM_UTILS_CXT) (msg : Message) (turn : Turn) :
    Option (List Answer × BVIEW_SYSTEM_UTILS_CXT) :=
  if num_units ≤ msg.unit then
    (system_utils_send_response localtime cxt
      { msg_type := msg.msg_type, unit := msg.unit, cookie := msg.cookie, id := msg.id
        rv := .INVALID_PARAMETER }).map fun sent =>
          (sent.1, { cxt with jsonMemoryPool := sent.2 })
  else
    match system_utils_type_api_get msg.msg_type with
    | none => some ([], cxt)
    | some handler =>
        let (rv, data) := handler msg.toBVIEW_SYSTEM_UTILS_REQUEST_MSG turn.calls cxt.data
        let cxt := { cxt with
          data
          switchProperties := stamp msg turn (refresh turn cxt.switchProperties) }
        (system_utils_send_response localtime cxt
          { msg_type := msg.msg_type, unit := msg.unit, cookie := msg.cookie, id := msg.id
            rv }).map fun sent => (sent.1, { cxt with jsonMemoryPool := sent.2 })

-- The REST threads and the timer post what the queue has room for.
inductive Action where
  | system_utils_send_request (msg : Northbound.RequestMessage)
  | reg_hb_timer_cb (msgsnd : Bool)
  | system_utils_app_main (turn : Turn)

def posted : Action → List Message
  | .system_utils_send_request msg => [msg.message]
  | .reg_hb_timer_cb msgsnd => if msgsnd then [heartbeat] else []
  | .system_utils_app_main _ => []

-- The turn of the thread, if there is a message for it.
def turned (cxt : BVIEW_SYSTEM_UTILS_CXT) :
    Action → Option (Option (List Answer × BVIEW_SYSTEM_UTILS_CXT))
  | .system_utils_app_main turn =>
      match cxt.recvMsgQid with
      | [] => none
      | msg :: rest => some (handle localtime num_units { cxt with recvMsgQid := rest } msg turn)
  | _ => none

def appStep (cxt : BVIEW_SYSTEM_UTILS_CXT) (act : Action) : BVIEW_SYSTEM_UTILS_CXT :=
  match turned localtime num_units cxt act with
  | some (some (_, cxt')) => cxt'
  | _ => { cxt with recvMsgQid := cxt.recvMsgQid ++ posted act }

def answers (cxt : BVIEW_SYSTEM_UTILS_CXT) (act : Action) : List Answer :=
  match turned localtime num_units cxt act with
  | some (some (sent, _)) => sent
  | _ => []

-- The messages that the thread has taken off its queue.
def taken (cxt : BVIEW_SYSTEM_UTILS_CXT) : Action → List Message
  | .system_utils_app_main _ => cxt.recvMsgQid.take 1
  | _ => []

-- The thread stays in its arrays.
def Inside (cxt : BVIEW_SYSTEM_UTILS_CXT) (act : Action) : Prop :=
  turned localtime num_units cxt act ≠ some none

end Thread

end BroadView.RegHb
