import BroadView.CString
import BroadView.Platform

-- The daemon side of the agent: the client endpoint, which the system
-- configuration and the REST component each keep a copy of.
namespace BroadView.Agent

open CString

def BVIEW_MAX_IP_ADDR_LENGTH : Nat := 20
def REST_MAX_IP_ADDR_LENGTH : Nat := 20

def SYSTEM_CONFIG_PROPERTY_LOCAL_PORT_DEFAULT : Int32 := 8080

def SYSTEM_TCP_MIN_PORT : Int32 := 1
def SYSTEM_TCP_MAX_PORT : Int32 := 65535

structure BVIEW_SYSTEM_AGENT_CONFIG where
  clientIp : Buffer BVIEW_MAX_IP_ADDR_LENGTH
  clientPort : Int32
  localPort : Int32
  deriving DecidableEq, Repr

structure REST_CONFIG where
  clientIp : Buffer REST_MAX_IP_ADDR_LENGTH
  clientPort : Int32
  deriving DecidableEq, Repr

structure AgentState where
  system_agent_cfg : BVIEW_SYSTEM_AGENT_CONFIG
  rest_config : REST_CONFIG
  deriving DecidableEq, Repr

-- An octet of inet_pton: decimal, up to 255, without a leading zero.
def isOctet (octet : List Char) : Bool :=
  !octet.isEmpty && octet.all Char.isDigit && (octet.length = 1 || octet.head? ≠ some '0') &&
    decimal octet ≤ 255

-- inet_pton of AF_INET: four octets between dots.
def inet_pton (src : List Char) : Bool :=
  (src.splitOn '.').length = 4 && (src.splitOn '.').all isOctet

def system_agent_client_ipaddr_get (config : BVIEW_SYSTEM_AGENT_CONFIG) : List Char :=
  config.clientIp.prefixString (BVIEW_MAX_IP_ADDR_LENGTH - 1)

def system_agent_client_info_set (clientIp : List Char) (clientPort : Int32)
    (config : BVIEW_SYSTEM_AGENT_CONFIG) : BVIEW_SYSTEM_AGENT_CONFIG :=
  { config with
    clientIp := strncpy config.clientIp clientIp (BVIEW_MAX_IP_ADDR_LENGTH - 1) (by decide)
    clientPort }

def rest_agent_config_params_modify (ipaddr : List Char) (clientPort : Int32)
    (config : REST_CONFIG) : REST_CONFIG :=
  { config with
    clientIp := strncpy config.clientIp ipaddr REST_MAX_IP_ADDR_LENGTH le_rfl
    clientPort }

-- The server socket is shut down besides.
def rest_server_port_dynamic_update (localPort : Int32) (config : BVIEW_SYSTEM_AGENT_CONFIG) :
    BVIEW_SYSTEM_AGENT_CONFIG :=
  { config with localPort }

-- The keys of the broadview_config map, the integers as smap_get_int reads them.
structure BroadviewConfig where
  client_ip : Option (List Char)
  client_port : Option Int32
  agent_port : Option Int32
  deriving DecidableEq, Repr

namespace BroadviewConfig

variable (config : BroadviewConfig)

def bview_client_ip : List Char :=
  config.client_ip.getD SYSTEM_CONFIG_PROPERTY_CLIENT_IP_DEFAULT.toList

def bview_client_port : Int32 :=
  config.client_port.getD (.ofNat SYSTEM_CONFIG_PROPERTY_CLIENT_PORT_DEFAULT)

def bview_agent_port : Int32 :=
  config.agent_port.getD SYSTEM_CONFIG_PROPERTY_LOCAL_PORT_DEFAULT

end BroadviewConfig

def ValidIp (ip : List Char) : Prop := ip.length < BVIEW_MAX_IP_ADDR_LENGTH ∧ inet_pton ip = true

def ValidPort (port : Int32) : Prop := SYSTEM_TCP_MIN_PORT ≤ port ∧ port ≤ SYSTEM_TCP_MAX_PORT

instance (ip : List Char) : Decidable (ValidIp ip) := inferInstanceAs (Decidable (_ ∧ _))

instance (port : Int32) : Decidable (ValidPort port) := inferInstanceAs (Decidable (_ ∧ _))

section Update

variable (config : BroadviewConfig) (agent : AgentState)

def client_ip_changed : Bool :=
  decide (ValidIp config.bview_client_ip) &&
    config.bview_client_ip ≠ system_agent_client_ipaddr_get agent.system_agent_cfg

def client_port_changed : Bool :=
  decide (ValidPort config.bview_client_port) &&
    config.bview_client_port ≠ agent.system_agent_cfg.clientPort

def agent_port_changed : Bool :=
  decide (ValidPort config.bview_agent_port) &&
    config.bview_agent_port ≠ agent.system_agent_cfg.localPort

-- The address and the port are checked one by one and written together.
def update_client : AgentState :=
  if client_ip_changed config agent || client_port_changed config agent then
    { system_agent_cfg := system_agent_client_info_set config.bview_client_ip
        config.bview_client_port agent.system_agent_cfg
      rest_config := rest_agent_config_params_modify config.bview_client_ip
        config.bview_client_port agent.rest_config }
  else agent

-- The three changes are detected before anything is written.
def update_broadview_config : AgentState :=
  let updated := update_client config agent
  if agent_port_changed config agent then
    { updated with
      system_agent_cfg :=
        rest_server_port_dynamic_update config.bview_agent_port updated.system_agent_cfg }
  else updated

end Update

def system_agent_config_set_defaults : BVIEW_SYSTEM_AGENT_CONFIG :=
  { clientIp := strncpy (Buffer.zeroed BVIEW_MAX_IP_ADDR_LENGTH)
      SYSTEM_CONFIG_PROPERTY_CLIENT_IP_DEFAULT.toList BVIEW_MAX_IP_ADDR_LENGTH le_rfl
    clientPort := .ofNat SYSTEM_CONFIG_PROPERTY_CLIENT_PORT_DEFAULT
    localPort := SYSTEM_CONFIG_PROPERTY_LOCAL_PORT_DEFAULT }

-- The REST component starts from the system configuration.
def rest_config_init (config : BVIEW_SYSTEM_AGENT_CONFIG) : REST_CONFIG :=
  { clientIp := strncpy (Buffer.zeroed REST_MAX_IP_ADDR_LENGTH)
      (system_agent_client_ipaddr_get config) (BVIEW_MAX_IP_ADDR_LENGTH - 1) (by decide)
    clientPort := config.clientPort }

def AgentState.initial : AgentState :=
  { system_agent_cfg := system_agent_config_set_defaults
    rest_config := rest_config_init system_agent_config_set_defaults }

end BroadView.Agent
