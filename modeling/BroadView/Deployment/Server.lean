import BroadView.Deployment.Writers

-- The server behind the plugin: its rows, the transactions of the plugin and of
-- other clients, and the update messages on their way back. A transaction is
-- carried out before the next event, also one that the plugin only sends and does
-- not wait for, as it does those of the tracking.
namespace BroadView

open Bst Ovsdb Transition

-- The realm of a row, which the server finds it by; it is the one in its name.
def Ovsdb.Row.realm_name (row : Row) : Option String :=
  row.decoded.bind fun (bid, _, _) => (bid_tab_params[bid]?).map fun params => params.realm_name

structure Server where
  bufmon_config : ConfigMap
  bufmon : BufmonTable

namespace Server

variable (server : Server)

def config_update (map : ConfigMap) : TableUpdates :=
  { bufmon := none
    System := some [{ old := some (some server.bufmon_config), new := some (some map) }] }

def bufmon_update (message : Message) : TableUpdates :=
  { bufmon := some (server.bufmon.transitions message), System := none }

-- The rows whose enabled column a transaction changes, in the order in which the
-- server goes over its rows.
def disagreeing (rows : List Uuid) (realmName : String) (enabled : Option Bool) : Message :=
  rows.filterMap fun uuid =>
    (server.bufmon uuid).bind fun row =>
      if row.realm_name = some realmName ∧ row.values.enabled ≠ enabled then
        some (uuid, .modify { row.values with enabled })
      else none

-- What does not change is not reported.
def execute (rows : List Uuid) : Transaction → Server × List TableUpdates
  | .bufmon_config map =>
      if server.bufmon_config.Perm map then (server, [])
      else ({ server with bufmon_config := map }, [server.config_update map])
  | .enabled realmName enabled =>
      let message := server.disagreeing rows realmName enabled
      ({ server with bufmon := server.bufmon.apply message },
        if message = [] then [] else [server.bufmon_update message])

def executeAll (rows : List Uuid) (server : Server) :
    List Transaction → Server × List TableUpdates
  | [] => (server, [])
  | transaction :: rest =>
      let (server', updates) := server.execute rows transaction
      let (server'', updates') := executeAll rows server' rest
      (server'', updates ++ updates')

end Server

def transactions (plugin : BVIEW_OVSDB_BST_DATA) : Effect → List Transaction
  | .sbapi_bst_config_set _ mode _ => (sbplugin_ovsdb_bst_config_set mode plugin).sent
  | _ => []

-- What an event sends to the server.
def Deployment.sent (state : Deployment) (event : Event) : List Transaction :=
  ((state.action event).elim [] (emits units state.bst)).flatMap (transactions state.plugin)

structure Linked where
  deployment : Deployment
  server : Server
  inflight : List TableUpdates

-- Another client changes the configuration or the rows, the plugin takes over the
-- next message, or the application goes on. The server carries out what the
-- application sends before the next event.
inductive LinkedEvent where
  | change (config : Option ConfigMap) (message : Message)
  | deliver
  | bst_send_request (msg : BVIEW_BST_REQUEST_MSG)
  | bst_trigger_send_request (msg : BVIEW_BST_REQUEST_MSG)
  | app_config_get
  | trigger_config_get
  | bst_app_main (env : Env) (rows : List Uuid)
  | bst_trigger_main (env : Env) (rows : List Uuid)

namespace Linked

variable (state : Linked)

def changed (config : Option ConfigMap) (message : Message) : TableUpdates :=
  { bufmon := some (state.server.bufmon.transitions message)
    System := config.map fun map =>
      [{ old := some (some state.server.bufmon_config), new := some (some map) }] }

def act (event : Event) (rows : List Uuid) : Linked :=
  let executed := Server.executeAll rows state.server (state.deployment.sent event)
  { deployment := state.deployment.step event
    server := executed.1
    inflight := state.inflight ++ executed.2 }

def deliver : Linked :=
  match state.inflight with
  | [] => state
  | updates :: rest =>
      { state with
        deployment := state.deployment.step (.bst_ovsdb_cache_update updates)
        inflight := rest }

def step (state : Linked) : LinkedEvent → Linked
  | .change config message =>
      { state with
        server :=
          { bufmon_config := config.getD state.server.bufmon_config
            bufmon := state.server.bufmon.apply message }
        inflight := state.inflight ++ [state.changed config message] }
  | .deliver => state.deliver
  | .bst_send_request msg => state.act (.bst_send_request msg) []
  | .bst_trigger_send_request msg => state.act (.bst_trigger_send_request msg) []
  | .app_config_get => state.act .app_config_get []
  | .trigger_config_get => state.act .trigger_config_get []
  | .bst_app_main env rows => state.act (.bst_app_main env) rows
  | .bst_trigger_main env rows => state.act (.bst_trigger_main env) rows

-- The event as one of the application.
def event : LinkedEvent → Option Event
  | .change _ _ => none
  | .deliver => none
  | .bst_send_request msg => some (.bst_send_request msg)
  | .bst_trigger_send_request msg => some (.bst_trigger_send_request msg)
  | .app_config_get => some .app_config_get
  | .trigger_config_get => some .trigger_config_get
  | .bst_app_main env _ => some (.bst_app_main env)
  | .bst_trigger_main env _ => some (.bst_trigger_main env)

-- The application initialises itself, and its write is on its way back.
def initial (plugin : BVIEW_OVSDB_BST_DATA) (asic : BVIEW_ASIC_CAPABILITIES) (env : Env)
    (server : Server) : Linked :=
  let answered := answering (sbplugin_ovsdb_bst_config_get plugin) env
  let executed := Server.executeAll [] server
    ((bst_app_config_init 0 answered (allocated asic)).effects.flatMap (transactions plugin))
  { deployment := .initial plugin asic env
    server := executed.1
    inflight := executed.2 }

-- The state once all messages on their way have arrived.
def arrived : Linked := run step state (List.replicate state.inflight.length .deliver)

end Linked

end BroadView
