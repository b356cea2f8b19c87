import BroadView.Bst.Encoder.Report
import BroadView.Pool
import BroadView.RegHb

-- The texts of the system application, and the buffers they are written in.
namespace BroadView.RegHb

open Printf Bst

def SYSTEM_UTILS_BUFPOOL_MAX_RESPONE_SLICES : Nat := 20
def SYSTEM_UTILS_JSON_MEMSIZE_RESPONSE : Nat := 1024

section Memory

variable (pool : Pool.Usage)

def system_utils_json_memory_init : Pool.Usage := fun _ => false

-- Addresses are relative to the first byte of the pool.
def system_utils_json_memory_allocate : BVIEW_STATUS × Option Nat × Pool.Usage :=
  match Pool.firstFree SYSTEM_UTILS_BUFPOOL_MAX_RESPONE_SLICES pool with
  | some index =>
      (.SUCCESS, some (index * SYSTEM_UTILS_JSON_MEMSIZE_RESPONSE), Pool.take pool index)
  | none => (.OUTOFMEMORY, none, pool)

def system_utils_json_memory_free (buffer : Option Nat) : BVIEW_STATUS × Pool.Usage :=
  match buffer with
  | none => (.INVALID_PARAMETER, pool)
  | some pointer =>
      if (SYSTEM_UTILS_BUFPOOL_MAX_RESPONE_SLICES - 1) * SYSTEM_UTILS_JSON_MEMSIZE_RESPONSE <
          pointer then
        (.INVALID_PARAMETER, pool)
      else if pointer % SYSTEM_UTILS_JSON_MEMSIZE_RESPONSE ≠ 0 then (.INVALID_MEMORY, pool)
      else (.SUCCESS, Pool.give pool (pointer / SYSTEM_UTILS_JSON_MEMSIZE_RESPONSE))

end Memory

structure BVIEW_SWITCH_ASIC_INFO where
  asic_notation : List Char
  asicType : UInt32
  numPorts : Int32
  deriving DecidableEq, Repr

-- The ASICs are the entries of the array that are in use.
structure BVIEW_SWITCH_PROPERTIES where
  timeStamp : Int
  networkOs : List Char
  featureMask : UInt32
  asicInfo : List BVIEW_SWITCH_ASIC_INFO
  uid : List Char
  agent_ipaddr : List Char
  agent_port : Int32
  agent_sw_version : List Char
  deriving DecidableEq, Repr

-- The blanks at the start of a line belong to the template.
def margin : String := "                                 "

def getSystemUtilsFeatureTemplate : String :=
  " \x7b" ++
  margin ++ "\"jsonrpc\": \"2.0\"," ++
  margin ++ "\"method\": \"get-system-feature\"," ++
  margin ++ "\"version\": \"%d\"," ++
  margin ++ "\"result\": \x7b" ++
  margin ++ "\"heartbeat-enable\": %d," ++
  margin ++ "\"msg-interval\": %d" ++
  "\x7d," ++
  "  \"id\": %d" ++
  "  \x7d"

def switchPropMembers : String :=
  "\x7b" ++
  margin ++ "\"jsonrpc\": \"2.0\"," ++
  margin ++ "\"method\": \"get-switch-properties\"," ++
  margin ++ "\"version\": \"%d\"," ++
  margin ++ "\"time-stamp\": \"%s\"," ++
  margin ++ "\"result\": \x7b\"number-of-asics\": %d," ++
  margin ++ "\"asic-info\":[%s]," ++
  margin ++ "\"supported-features\":[%s]," ++
  margin ++ "\"network-os\":\"%s\"," ++
  margin ++ "\"uid\":\"%s\"," ++
  margin ++ "\"agent-ip\":\"%s\"," ++
  margin ++ "\"agent-port\":\"%d\"," ++
  margin ++ "\"agent-sw-version\":\"%s\"\x7d"

def getSwitchPropTemplate : String :=
  switchPropMembers ++ "," ++
  margin ++ "\"id\":%d " ++
  "\x7d"

def getSwitchPropAsyncTemplate : String :=
  switchPropMembers ++
  "\x7d"

def asicInfoTemplate : String := "[\"%s\", \"%s\", %d],"
def featureTemplate : String := "\"%s\""

-- The text of a node of JSON_MAX_NODE_LENGTH characters and how much was to be
-- written in it.
structure Node where
  text : List Char
  totalLen : Nat
  deriving DecidableEq

-- Every piece may take the length of the whole node, wherever it starts.
def append_node (node : Node) (piece : List Char) : Option Node :=
  if node.totalLen + min piece.length (JSON_MAX_NODE_LENGTH - 1) < JSON_MAX_NODE_LENGTH then
    some
      { text := node.text ++ piece.take (JSON_MAX_NODE_LENGTH - 1)
        totalLen := node.totalLen + piece.length }
  else none

def asic_info (asic : BVIEW_SWITCH_ASIC_INFO) : List Char :=
  format asicInfoTemplate.toList
    [.str asic.asic_notation,
      .str (if asic.asicType = BVIEW_ASIC_TYPE_TD2 then "BCM56850" else "BCM56960").toList,
      .int asic.numPorts.toInt]

-- The comma after the last element is removed, without a look at whether there is
-- an element.
def asicInfoStr (asics : List BVIEW_SWITCH_ASIC_INFO) : Option (List Char) := do
  let node ← (asics.map asic_info).foldlM append_node ⟨[], 0⟩
  if 0 < node.totalLen ∧ node.totalLen ≤ JSON_MAX_NODE_LENGTH then
    return node.text.take (node.totalLen - 1)
  else none

def featureStr (featureMask : UInt32) : List Char :=
  (if featureMask &&& .ofNat BVIEW_FEATURE_BST ≠ 0 then
    format featureTemplate.toList [.str "BST".toList] else []) ++
  (if featureMask &&& .ofNat BVIEW_FEATURE_PACKET_TRACE ≠ 0 then
    ',' :: format featureTemplate.toList [.str "PT".toList] else [])

-- What an encoder returns, and what it leaves in the caller's buffer pointer.
structure Encoding where
  rv : BVIEW_STATUS
  pJsonBuffer : Option Nat
  text : List Char
  pool : Pool.Usage

-- A text that snprintf cuts to its buffer.
def encode_text (text : List Char) (pool : Pool.Usage) : Encoding :=
  match system_utils_json_memory_allocate pool with
  | (_, none, pool) => { rv := .INVALID_PARAMETER, pJsonBuffer := none, text := [], pool }
  | (_, some jsonBuf, pool) =>
      { rv := .SUCCESS
        pJsonBuffer := some jsonBuf
        text := text.take (SYSTEM_UTILS_JSON_MEMSIZE_RESPONSE - 1)
        pool }

def reg_hb_json_encode_get_feature (method : Int) (pData : REG_HB_JSON_CONFIGURE_FEATURE)
    (pool : Pool.Usage) : Encoding :=
  encode_text (format getSystemUtilsFeatureTemplate.toList
    [.int BVIEW_JSON_VERSION, .int pData.enable.toInt, .int pData.interval.toInt, .int method]) pool

-- There is no id in what nobody has asked for.
def switch_properties_text (localtime : Int → Tm) (method : Int)
    (pData : BVIEW_SWITCH_PROPERTIES) (asicInfo : List Char) : List Char :=
  let args : List Arg :=
    [.int BVIEW_JSON_VERSION, .str (timeString (localtime pData.timeStamp)),
      .int pData.asicInfo.length, .str asicInfo, .str (featureStr pData.featureMask),
      .str pData.networkOs, .str pData.uid, .str pData.agent_ipaddr, .int pData.agent_port.toInt,
      .str pData.agent_sw_version]
  if method = 0 then format getSwitchPropAsyncTemplate.toList args
  else format getSwitchPropTemplate.toList (args ++ [.int method])

-- None when the node of the ASICs is left.
def reg_hb_json_encode_get_switch_properties (localtime : Int → Tm) (method : Int)
    (pData : BVIEW_SWITCH_PROPERTIES) (pool : Pool.Usage) : Option Encoding :=
  (asicInfoStr pData.asicInfo).map fun asicInfo =>
    encode_text (switch_properties_text localtime method pData asicInfo) pool

end BroadView.RegHb
