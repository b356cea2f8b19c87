import BroadView.Rest.Params
import BroadView.SystemTime
import BroadView.Transition

namespace BroadView.RegHb

open Rest

def BVIEW_REG_HB_TIME_MIN : Int32 := 1
def BVIEW_REG_HB_TIME_MAX : Int32 := 600
def BVIEW_REG_HB_DEFAULT_FEATURE_ENABLE : Int32 := 1
def BVIEW_REG_HB_DEFAULT_HEARTBEAT_INTERVAL : Int32 := 5
def BVIEW_SYSTEM_TIME_CONVERSION_FACTOR : Int32 := 1000

def REG_HB_CONFIG_PARAMS_ENABLE : Int32 := 0
def REG_HB_CONFIG_PARAMS_INTRVL : Int32 := 1

structure REG_HB_JSON_CONFIGURE_FEATURE where
  enable : Int32
  interval : Int32
  configMask : Int32
  deriving DecidableEq, Repr

def REG_HB_JSON_CONFIGURE_FEATURE.carries (command : REG_HB_JSON_CONFIGURE_FEATURE)
    (param : Int32) : Bool :=
  command.configMask &&& (1 <<< param) ≠ 0

-- The parameters of a configure-system-feature request as the REST parser
-- reads them.
def reg_hb_json_configure_feature (params : Params) :
    Except BVIEW_STATUS REG_HB_JSON_CONFIGURE_FEATURE := do
  let enable ← mandatory params "heartbeat-enable" 0 1
  let interval ← mandatory params "msg-interval" BVIEW_REG_HB_TIME_MIN BVIEW_REG_HB_TIME_MAX
  return {
    enable
    interval
    configMask := (1 <<< REG_HB_CONFIG_PARAMS_ENABLE) ||| (1 <<< REG_HB_CONFIG_PARAMS_INTRVL) }

structure BVIEW_SYSTEM_UTILS_DATA where
  heart_beat_timer : TimerNode
  config : REG_HB_JSON_CONFIGURE_FEATURE
  deriving DecidableEq, Repr

inductive BVIEW_SYSTEM_UTILS_CMD_API where
  | SET_FEATURE | GET_FEATURE | GET_SWITCH_PROPERTIES
  | MAX
  deriving DecidableEq, Repr

structure BVIEW_SYSTEM_UTILS_REQUEST_MSG where
  msg_type : BVIEW_SYSTEM_UTILS_CMD_API
  unit : Nat
  config : REG_HB_JSON_CONFIGURE_FEATURE
  deriving DecidableEq, Repr

-- The interval is in seconds, and the product is one of ints.
def REG_HB_JSON_CONFIGURE_FEATURE.period (config : REG_HB_JSON_CONFIGURE_FEATURE) : Int :=
  (config.interval * BVIEW_SYSTEM_TIME_CONVERSION_FACTOR).toInt

def reg_hb_heartbeat_timer_stop (calls : TimerCalls) (data : BVIEW_SYSTEM_UTILS_DATA) :
    BVIEW_STATUS × BVIEW_SYSTEM_UTILS_DATA :=
  let (rv, heart_beat_timer) := data.heart_beat_timer.stop calls
  (rv, { data with heart_beat_timer })

-- A timer in use is stopped first; a failure to stop it is only logged.
def reg_hb_heartbeat_timer_start (calls : TimerCalls) (data : BVIEW_SYSTEM_UTILS_DATA) :
    BVIEW_STATUS × BVIEW_SYSTEM_UTILS_DATA :=
  let (rv, heart_beat_timer) := data.heart_beat_timer.restart calls data.config.period
  (rv, { data with heart_beat_timer })

def enableChanged (request ptr : REG_HB_JSON_CONFIGURE_FEATURE) : Bool :=
  request.carries REG_HB_CONFIG_PARAMS_ENABLE && decide (ptr.enable ≠ request.enable)

def intervalChanged (request ptr : REG_HB_JSON_CONFIGURE_FEATURE) : Bool :=
  request.carries REG_HB_CONFIG_PARAMS_INTRVL && decide (ptr.interval ≠ request.interval)

def store_config (request ptr : REG_HB_JSON_CONFIGURE_FEATURE) : REG_HB_JSON_CONFIGURE_FEATURE :=
  { ptr with
    enable := if enableChanged request ptr then request.enable else ptr.enable
    interval := if intervalChanged request ptr then request.interval else ptr.interval }

-- The timer part of the handler, after the configuration is stored. Neither
-- timer status is looked at.
def update_timer (modifyTimer : Bool) (calls : TimerCalls) (data : BVIEW_SYSTEM_UTILS_DATA) :
    BVIEW_SYSTEM_UTILS_DATA :=
  let stopped := if data.config.enable = 0 ∨ data.config.interval = 0 then
    (reg_hb_heartbeat_timer_stop calls data).2 else data
  if modifyTimer = true ∧ data.config.enable = 1 ∧ data.config.interval ≠ 0 then
    (reg_hb_heartbeat_timer_start calls stopped).2
  else stopped

def reg_hb_config_feature_set (msg : BVIEW_SYSTEM_UTILS_REQUEST_MSG) (calls : TimerCalls)
    (data : BVIEW_SYSTEM_UTILS_DATA) : BVIEW_STATUS × BVIEW_SYSTEM_UTILS_DATA :=
  let config := store_config msg.config data.config
  let modifyTimer := enableChanged msg.config data.config ||
    (intervalChanged msg.config data.config && decide (config.interval ≠ 0))
  (.SUCCESS, update_timer modifyTimer calls { data with config })

def reg_hb_config_feature_get (_msg : BVIEW_SYSTEM_UTILS_REQUEST_MSG) (_calls : TimerCalls)
    (data : BVIEW_SYSTEM_UTILS_DATA) : BVIEW_STATUS × BVIEW_SYSTEM_UTILS_DATA :=
  (.SUCCESS, data)

-- Only the time stamp of the switch properties is refreshed.
def reg_hb_switch_properties_get (_msg : BVIEW_SYSTEM_UTILS_REQUEST_MSG) (_calls : TimerCalls)
    (data : BVIEW_SYSTEM_UTILS_DATA) : BVIEW_STATUS × BVIEW_SYSTEM_UTILS_DATA :=
  (.SUCCESS, data)

def system_utils_type_api_get : BVIEW_SYSTEM_UTILS_CMD_API →
    Option (BVIEW_SYSTEM_UTILS_REQUEST_MSG → TimerCalls → BVIEW_SYSTEM_UTILS_DATA →
      BVIEW_STATUS × BVIEW_SYSTEM_UTILS_DATA)
  | .GET_FEATURE => some reg_hb_config_feature_get
  | .SET_FEATURE => some reg_hb_config_feature_set
  | .GET_SWITCH_PROPERTIES => some reg_hb_switch_properties_get
  | .MAX => none

-- The zeroed data with its defaults.
def system_utils_main : BVIEW_SYSTEM_UTILS_DATA :=
  { heart_beat_timer := { in_use := false, timerId := 0, live := [] }
    config :=
      { enable := BVIEW_REG_HB_DEFAULT_FEATURE_ENABLE
        interval := BVIEW_REG_HB_DEFAULT_HEARTBEAT_INTERVAL
        configMask := 0 } }

-- What the thread does before it waits for messages.
def system_utils_app_main (calls : TimerCalls) : BVIEW_SYSTEM_UTILS_DATA :=
  if system_utils_main.config.enable = 1 ∧ system_utils_main.config.interval ≠ 0 then
    (reg_hb_heartbeat_timer_start calls system_utils_main).2
  else system_utils_main

-- One message of the queue, with what the timer calls made for it answer.
def step (num_units : Nat) (data : BVIEW_SYSTEM_UTILS_DATA)
    (act : BVIEW_SYSTEM_UTILS_REQUEST_MSG × TimerCalls) : BVIEW_SYSTEM_UTILS_DATA :=
  if num_units ≤ act.1.unit then data
  else
    match system_utils_type_api_get act.1.msg_type with
    | none => data
    | some handler => (handler act.1 act.2 data).2

end BroadView.RegHb
