import Mathlib.Logic.Basic

namespace BroadView

inductive BVIEW_STATUS where
  | SUCCESS | FAILURE | INVALID_PARAMETER | UNSUPPORTED | OUTOFMEMORY | TIMEOUT | NOTREADY
  | TABLE_FULL | INVALID_COMMAND | INVALID_JSON | RESOURCE_NOT_AVAILABLE | INVALID_MEMORY
  | OUTOFRANGE | INIT_FAILED | INVALID_ID | DUPLICATE
  deriving DecidableEq, Repr

def BVIEW_JSON_VERSION : Nat := 2
def JSON_MAX_NODE_LENGTH : Nat := 64

def BVIEW_MAX_ASICS_ON_A_PLATFORM : Nat := 1

-- A bit for each silicon, and a bit for each feature.
abbrev BVIEW_ASIC_TYPE := UInt32

def BVIEW_ASIC_TYPE_TD2 : BVIEW_ASIC_TYPE := 1
def BVIEW_ASIC_TYPE_ALL : BVIEW_ASIC_TYPE := 0xFFFF

def BVIEW_FEATURE_SYSTEM : Nat := 1
def BVIEW_FEATURE_BST : Nat := 2
def BVIEW_FEATURE_PACKET_TRACE : Nat := 4

def SYSTEM_CONFIG_PROPERTY_CLIENT_IP_DEFAULT : String := "127.0.0.1"
def SYSTEM_CONFIG_PROPERTY_CLIENT_PORT_DEFAULT : Nat := 9070

-- The maxima of the default build, which is for the TD2 platform; a build for
-- Tomahawk has others.
def BVIEW_ASIC_MAX_PORTS : Nat := 130
def BVIEW_ASIC_MAX_UC_QUEUES : Nat := 4096
def BVIEW_ASIC_MAX_UC_QUEUE_GROUPS : Nat := 128
def BVIEW_ASIC_MAX_MC_QUEUES : Nat := 1040
def BVIEW_ASIC_MAX_SERVICE_POOLS : Nat := 4
def BVIEW_ASIC_MAX_COMMON_POOLS : Nat := 1
def BVIEW_ASIC_MAX_CPU_QUEUES : Nat := 8
def BVIEW_ASIC_MAX_RQE_QUEUES : Nat := 11
def BVIEW_ASIC_MAX_PRIORITY_GROUPS : Nat := 8
def BVIEW_ASIC_MAX_INGRESS_SERVICE_POOLS : Nat :=
  BVIEW_ASIC_MAX_SERVICE_POOLS + BVIEW_ASIC_MAX_COMMON_POOLS

structure BVIEW_ASIC_CAPABILITIES where
  numPorts : Nat
  numUnicastQueues : Nat
  numUnicastQueueGroups : Nat
  numMulticastQueues : Nat
  numServicePools : Nat
  numCpuQueues : Nat
  numRqeQueues : Nat
  numPriorityGroups : Nat
  cellToByteConv : UInt64
  deriving DecidableEq, Repr

structure BVIEW_ASIC_CAPABILITIES.WithinMaxima (asic : BVIEW_ASIC_CAPABILITIES) : Prop where
  ports : asic.numPorts ≤ BVIEW_ASIC_MAX_PORTS
  unicastQueues : asic.numUnicastQueues ≤ BVIEW_ASIC_MAX_UC_QUEUES
  unicastQueueGroups : asic.numUnicastQueueGroups ≤ BVIEW_ASIC_MAX_UC_QUEUE_GROUPS
  multicastQueues : asic.numMulticastQueues ≤ BVIEW_ASIC_MAX_MC_QUEUES
  servicePools : asic.numServicePools ≤ BVIEW_ASIC_MAX_SERVICE_POOLS
  cpuQueues : asic.numCpuQueues ≤ BVIEW_ASIC_MAX_CPU_QUEUES
  rqeQueues : asic.numRqeQueues ≤ BVIEW_ASIC_MAX_RQE_QUEUES
  priorityGroups : asic.numPriorityGroups ≤ BVIEW_ASIC_MAX_PRIORITY_GROUPS

structure DeviceData where
  bufferCount : UInt64
  deriving DecidableEq, Inhabited

structure IngressPortPgData where
  umShareBufferCount : UInt64
  umHeadroomBufferCount : UInt64
  deriving DecidableEq, Inhabited

structure IngressPortSpData where
  umShareBufferCount : UInt64
  deriving DecidableEq, Inhabited

structure IngressSpData where
  umShareBufferCount : UInt64
  deriving DecidableEq, Inhabited

structure EgressPortSpData where
  ucShareBufferCount : UInt64
  umShareBufferCount : UInt64
  mcShareBufferCount : UInt64
  mcShareQueueEntries : UInt64
  deriving DecidableEq, Inhabited

structure EgressSpData where
  umShareBufferCount : UInt64
  mcShareBufferCount : UInt64
  mcShareQueueEntries : UInt64
  deriving DecidableEq, Inhabited

structure EgressUcQueueData where
  ucBufferCount : UInt64
  port : UInt64
  deriving DecidableEq, Inhabited

structure EgressUcQueueGroupData where
  ucBufferCount : UInt64
  deriving DecidableEq, Inhabited

structure EgressMcQueueData where
  mcBufferCount : UInt64
  mcQueueEntries : UInt64
  port : UInt64
  deriving DecidableEq, Inhabited

structure EgressCpuQueueData where
  cpuBufferCount : UInt64
  cpuQueueEntries : UInt64
  deriving DecidableEq, Inhabited

structure EgressRqeQueueData where
  rqeBufferCount : UInt64
  rqeQueueEntries : UInt64
  deriving DecidableEq, Inhabited

-- The tables are the C arrays read from index 0; the encoder and the plugin
-- bound every index by the ASIC capabilities.
structure BVIEW_BST_ASIC_SNAPSHOT_DATA where
  device : DeviceData
  iPortPg : Nat → Nat → IngressPortPgData
  iPortSp : Nat → Nat → IngressPortSpData
  iSp : Nat → IngressSpData
  ePortSp : Nat → Nat → EgressPortSpData
  eSp : Nat → EgressSpData
  eUcQ : Nat → EgressUcQueueData
  eUcQg : Nat → EgressUcQueueGroupData
  eMcQ : Nat → EgressMcQueueData
  cpqQ : Nat → EgressCpuQueueData
  rqeQ : Nat → EgressRqeQueueData
  deriving Inhabited

-- What memset (.., 0, ..) leaves: `default` of every field is zero.
def BVIEW_BST_ASIC_SNAPSHOT_DATA.zero : BVIEW_BST_ASIC_SNAPSHOT_DATA := default

structure IngressPortPgMaxBuf where
  umShareMaxBuf : UInt64
  umHeadroomMaxBuf : UInt64
  deriving DecidableEq, Inhabited

structure EgressPortSpMaxBuf where
  ucShareMaxBuf : UInt64
  umShareMaxBuf : UInt64
  mcShareMaxBuf : UInt64
  deriving DecidableEq, Inhabited

structure EgressSpMaxBuf where
  umShareMaxBuf : UInt64
  mcShareMaxBuf : UInt64
  deriving DecidableEq, Inhabited

-- The maxima the percentage unit divides by, under the same indices. A table
-- with a single maximum per cell holds that maximum directly.
structure BVIEW_SYSTEM_ASIC_MAX_BUF_SNAPSHOT_DATA where
  device : UInt64
  iPortPg : Nat → Nat → IngressPortPgMaxBuf
  iPortSp : Nat → Nat → UInt64
  iSp : Nat → UInt64
  ePortSp : Nat → Nat → EgressPortSpMaxBuf
  eSp : Nat → EgressSpMaxBuf
  eUcQ : Nat → UInt64
  eUcQg : Nat → UInt64
  eMcQ : Nat → UInt64
  cpqQ : Nat → UInt64
  rqeQ : Nat → UInt64
  deriving Inhabited

end BroadView
