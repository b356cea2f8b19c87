import BroadView.Bst.System
import BroadView.Ovsdb.Config

-- The application together with the plugin: the plugin follows the server and
-- notifies the application, whose threads read and write the plugin's
-- configuration.
namespace BroadView

open Bst Ovsdb Transition

-- Between its read and its write of the configuration, a thread holds what it
-- has read.
structure Deployment where
  bst : BVIEW_BST_CXT
  plugin : BVIEW_OVSDB_BST_DATA
  app_read : Option BVIEW_BST_CONFIG
  trigger_read : Option BVIEW_BST_CONFIG

-- The plugin takes over an update message, a message is posted to one of the two
-- queues, or a thread goes on with the next message of its queue: it reads the
-- configuration, or handles the message to the end.
inductive Event where
  | bst_ovsdb_cache_update (updates : TableUpdates)
  | bst_send_request (msg : BVIEW_BST_REQUEST_MSG)
  | bst_trigger_send_request (msg : BVIEW_BST_REQUEST_MSG)
  | app_config_get
  | trigger_config_get
  | bst_app_main (env : Env)
  | bst_trigger_main (env : Env)

-- The platform has one unit.
def units : Nat := 1

def configure (plugin : BVIEW_OVSDB_BST_DATA) : Effect → BVIEW_OVSDB_BST_DATA
  | .sbapi_bst_config_set _ mode _ => (sbplugin_ovsdb_bst_config_set mode plugin).data
  | _ => plugin

-- The plugin answers every call for its configuration.
def answering (got : BVIEW_BST_CONFIG) (env : Env) : Env :=
  { env with sbapi_bst_config_get := (.SUCCESS, got), sbapi_bst_config_set := .SUCCESS }

namespace Deployment

variable (state : Deployment)

def reported : BVIEW_BST_CONFIG := sbplugin_ovsdb_bst_config_get state.plugin

-- The configuration that the handler of the next message has got; a thread that
-- has not read it yet reads it now.
def app_got : BVIEW_BST_CONFIG := state.app_read.getD state.reported

def trigger_got : BVIEW_BST_CONFIG := state.trigger_read.getD state.reported

-- The application's own copy of the configuration.
def copy : BVIEW_BST_CFG_PARAMS := (state.bst.unit 0).bst_config

-- An event as an action of the application.
def action : Event → Option Action
  | .bst_send_request msg => some (.bst_send_request msg)
  | .bst_trigger_send_request msg => some (.bst_trigger_send_request msg)
  | .bst_app_main env => some (.bst_app_main (answering state.app_got env))
  | .bst_trigger_main env => some (.bst_trigger_main (answering state.trigger_got env))
  | _ => none

def act (action : Action) : Deployment :=
  { state with
    bst := Bst.step units state.bst action
    plugin := (emits units state.bst action).foldl configure state.plugin }

-- The messages that the notifications of the plugin post.
def notices (notifications : List Int) : List BVIEW_BST_REQUEST_MSG :=
  notifications.filterMap (bst_notify_config_change 0)

def received (updates : TableUpdates) : CacheUpdated :=
  Ovsdb.bst_ovsdb_cache_update updates state.plugin

def step (state : Deployment) (event : Event) : Deployment :=
  match event with
  | .bst_ovsdb_cache_update updates =>
      { state with
        plugin := (state.received updates).data
        bst := run (Bst.step units) state.bst
          ((notices (state.received updates).notifications).map .bst_send_request) }
  | .bst_send_request msg => state.act (.bst_send_request msg)
  | .bst_trigger_send_request msg => state.act (.bst_trigger_send_request msg)
  | .app_config_get =>
      if state.bst.recvMsgQid = [] then state else { state with app_read := some state.reported }
  | .trigger_config_get =>
      if state.bst.recvTriggerMsgQid = [] then state
      else { state with trigger_read := some state.reported }
  | .bst_app_main env =>
      { state.act (.bst_app_main (answering state.app_got env)) with app_read := none }
  | .bst_trigger_main env =>
      { state.act (.bst_trigger_main (answering state.trigger_got env)) with trigger_read := none }

-- The application as it initialises itself from the plugin.
def initial (plugin : BVIEW_OVSDB_BST_DATA) (asic : BVIEW_ASIC_CAPABILITIES) (env : Env) :
    Deployment :=
  let answered := answering (sbplugin_ovsdb_bst_config_get plugin) env
  { bst := bst_main (fun _ => asic) (fun _ => answered)
    plugin := (bst_app_config_init 0 answered (allocated asic)).effects.foldl configure plugin
    app_read := none
    trigger_read := none }

-- The message that an event handles.
def handled (event : Event) : Option UnitAction := (state.action event).bind (taken units state.bst)

end Deployment

section Handled

variable (cxt : BVIEW_BST_UNIT_CXT) (act : UnitAction)

-- The configuration that the handler of a message writes.
def written : Option BVIEW_BST_CONFIG :=
  match act.msg.msg_type with
  | .SET_FEATURE =>
      if act.msg.config.configMask.ENABLE = true ∧ act.env.sbapi_bst_config_get.1 = .SUCCESS then
        some (feature_mode act.msg.config
          (store_request act.msg.config act.env cxt).bst_config.config
          act.env.sbapi_bst_config_get.2)
      else none
  | .SET_TRACK =>
      if track_config_changed act.msg.track cxt.bst_config.track then
        some (track_mode act.msg.track cxt.bst_config.config act.env.sbapi_bst_config_get.2)
      else none
  | .TRIGGER_REPORT => some (trigger_mode act.env.sbapi_bst_config_get.2)
  | .ENABLE_BST_ON_TRIGGER =>
      if cxt.bst_config.config.bstEnable = 1 then
        some (trigger_mode act.env.sbapi_bst_config_get.2)
      else none
  | _ => none

def writeTo (plugin : BVIEW_OVSDB_BST_DATA) : Option BVIEW_BST_CONFIG → BVIEW_OVSDB_BST_DATA
  | some mode => (sbplugin_ovsdb_bst_config_set mode plugin).data
  | none => plugin

end Handled

end BroadView
