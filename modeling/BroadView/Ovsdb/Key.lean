import BroadView.CString
import BroadView.Ovsdb.Bid

namespace BroadView.Ovsdb

open CString Printf

-- The members of BVIEW_OVSDB_BST_STAT_DB_t, each an array of cells.
inductive StatDbMember where
  | device | iPGShared | iPGHeadroom | iPortSP | iSP
  | ePortSPucShare | ePortSPumShare | ePortSPmcShare | eSPumShare | eSPmcShare
  | ucQ | eUCqGroup | mcQ | eCPU | rqe | rqeQueueEntries
  deriving DecidableEq, Repr

namespace StatDbMember

def all : List StatDbMember :=
  [device, iPGShared, iPGHeadroom, iPortSP, iSP, ePortSPucShare, ePortSPumShare, ePortSPmcShare,
    eSPumShare, eSPmcShare, ucQ, eUCqGroup, mcQ, eCPU, rqe, rqeQueueEntries]

def cells : StatDbMember → Nat
  | device => 1
  | iPGShared | iPGHeadroom => BVIEW_ASIC_MAX_PORTS * BVIEW_ASIC_MAX_PRIORITY_GROUPS
  | iPortSP => BVIEW_ASIC_MAX_PORTS * BVIEW_ASIC_MAX_INGRESS_SERVICE_POOLS
  | iSP => BVIEW_ASIC_MAX_INGRESS_SERVICE_POOLS
  | ePortSPucShare | ePortSPumShare | ePortSPmcShare =>
      BVIEW_ASIC_MAX_PORTS * BVIEW_ASIC_MAX_SERVICE_POOLS
  | eSPumShare | eSPmcShare => BVIEW_ASIC_MAX_SERVICE_POOLS
  | ucQ => BVIEW_ASIC_MAX_UC_QUEUES
  | eUCqGroup => BVIEW_ASIC_MAX_UC_QUEUE_GROUPS
  | mcQ => BVIEW_ASIC_MAX_MC_QUEUES
  | eCPU => BVIEW_ASIC_MAX_CPU_QUEUES
  | rqe | rqeQueueEntries => BVIEW_ASIC_MAX_RQE_QUEUES

end StatDbMember

-- The members follow each other without padding, since all have cells of one
-- type. Offsets count cells.
def offsetof (member : StatDbMember) : Nat :=
  ((StatDbMember.all.takeWhile fun other => other ≠ member).map StatDbMember.cells).foldl (· + ·) 0

def sizeof_stat_db : Nat := (StatDbMember.all.map StatDbMember.cells).foldl (· + ·) 0

-- The columns of bid_tab_params that place a counter in the cache.
structure BVIEW_BST_OVSDB_BID_PLACE where
  num_of_rows : Nat
  num_of_columns : Nat
  size : Nat
  offset : Nat
  default_threshold : UInt64
  deriving DecidableEq, Repr

structure BidEntry extends BVIEW_BST_OVSDB_BID_PARAMS, BVIEW_BST_OVSDB_BID_PLACE
  deriving DecidableEq, Repr

def BVIEW_BST_UCAST_THRES_DEFAULT : UInt64 := 0x3FFF * 208
def BVIEW_BST_MCAST_THRES_DEFAULT : UInt64 := 0x1FFFF * 208
def BVIEW_BST_E_P_SP_UC_THRES_DEFAULT : UInt64 := 0x3FFF * 208
def BVIEW_BST_E_P_SP_UCMC_THRES_DEFAULT : UInt64 := 0x1FFFF * 208
def BVIEW_BST_E_SP_UCMC_THRES_DEFAULT : UInt64 := 0x1FFFF * 208
def BVIEW_BST_E_SP_MC_THRES_DEFAULT : UInt64 := 0x1FFFF * 208
def BVIEW_BST_E_CPU_UCMC_THRES_DEFAULT : UInt64 := 0x1FFFF * 208
def BVIEW_BST_E_RQE_THRES_DEFAULT : UInt64 := 0x1FFFF * 208
def BVIEW_BST_I_P_PG_UCMC_SHARED_THRES_DEFAULT : UInt64 := 0x1FFFF * 208
def BVIEW_BST_I_P_PG_UCMC_HDRM_THRES_DEFAULT : UInt64 := 0xFFF * 208
def BVIEW_BST_I_P_SP_UCMC_SHARED_THRES_DEFAULT : UInt64 := 0x1FFFF * 208
def BVIEW_BST_I_SP_UCMC_SHARED_THRES_DEFAULT : UInt64 := 0x1FFFF * 208
def BVIEW_BST_DEVICE_THRES_DEFAULT : UInt64 := 0x1FFFF * 208
def BVIEW_BST_UCAST_QUEUE_GROUP_DEFAULT : UInt64 := 0x3FFF * 208

-- A counter without ports has one row; a port-indexed one has a row a port.
def flatPlace (columns : Nat) (member : StatDbMember) (default_threshold : UInt64) :
    BVIEW_BST_OVSDB_BID_PLACE :=
  { num_of_rows := 1, num_of_columns := columns, size := columns, offset := offsetof member,
    default_threshold }

def portPlace (columns : Nat) (member : StatDbMember) (default_threshold : UInt64) :
    BVIEW_BST_OVSDB_BID_PLACE :=
  { num_of_rows := BVIEW_ASIC_MAX_PORTS, num_of_columns := columns,
    size := BVIEW_ASIC_MAX_PORTS * columns, offset := offsetof member, default_threshold }

-- In the order of bid_tab_params.
def bid_tab_places : List BVIEW_BST_OVSDB_BID_PLACE :=
  [flatPlace 1 .device BVIEW_BST_DEVICE_THRES_DEFAULT,
    flatPlace BVIEW_ASIC_MAX_SERVICE_POOLS .eSPumShare BVIEW_BST_E_SP_UCMC_THRES_DEFAULT,
    flatPlace BVIEW_ASIC_MAX_SERVICE_POOLS .eSPmcShare BVIEW_BST_E_SP_MC_THRES_DEFAULT,
    flatPlace BVIEW_ASIC_MAX_INGRESS_SERVICE_POOLS .iSP BVIEW_BST_I_SP_UCMC_SHARED_THRES_DEFAULT,
    portPlace BVIEW_ASIC_MAX_INGRESS_SERVICE_POOLS .iPortSP
      BVIEW_BST_I_P_SP_UCMC_SHARED_THRES_DEFAULT,
    portPlace BVIEW_ASIC_MAX_PRIORITY_GROUPS .iPGShared BVIEW_BST_I_P_PG_UCMC_SHARED_THRES_DEFAULT,
    portPlace BVIEW_ASIC_MAX_PRIORITY_GROUPS .iPGHeadroom BVIEW_BST_I_P_PG_UCMC_HDRM_THRES_DEFAULT,
    flatPlace BVIEW_ASIC_MAX_UC_QUEUES .ucQ BVIEW_BST_UCAST_THRES_DEFAULT,
    flatPlace BVIEW_ASIC_MAX_MC_QUEUES .mcQ BVIEW_BST_MCAST_THRES_DEFAULT,
    portPlace BVIEW_ASIC_MAX_SERVICE_POOLS .ePortSPucShare BVIEW_BST_E_P_SP_UC_THRES_DEFAULT,
    portPlace BVIEW_ASIC_MAX_SERVICE_POOLS .ePortSPumShare BVIEW_BST_E_P_SP_UCMC_THRES_DEFAULT,
    flatPlace BVIEW_ASIC_MAX_RQE_QUEUES .rqe BVIEW_BST_E_RQE_THRES_DEFAULT,
    flatPlace BVIEW_ASIC_MAX_RQE_QUEUES .rqeQueueEntries BVIEW_BST_E_RQE_THRES_DEFAULT,
    flatPlace BVIEW_ASIC_MAX_UC_QUEUE_GROUPS .eUCqGroup BVIEW_BST_UCAST_QUEUE_GROUP_DEFAULT,
    flatPlace BVIEW_ASIC_MAX_CPU_QUEUES .eCPU BVIEW_BST_E_CPU_UCMC_THRES_DEFAULT]

def bid_tab : List BidEntry := bid_tab_params.zipWith BidEntry.mk bid_tab_places

namespace BidEntry

variable (entry : BidEntry)

-- The position of a cell in its table, in the int arithmetic of the source.
-- index counts from 0 here.
def position (port index : Int32) : Int32 :=
  if entry.is_double_indexed then (port - 1) * Int32.ofNat entry.num_of_columns + index
  else if entry.is_indexed then index
  else 0

-- The only bound that the source puts on a position.
def Accepts (position : Int32) : Prop := position < Int32.ofNat entry.size

instance (position : Int32) : Decidable (entry.Accepts position) :=
  inferInstanceAs (Decidable (_ < _))

end BidEntry

def bst_ovsdb_resolve_index (bid : Nat) (port index : Int32) : Option Int32 :=
  match bid_tab[bid]? with
  | none => none
  | some entry =>
      let db_index := entry.position port index
      if entry.Accepts db_index then some db_index else none

-- The cell base + index of cache[asic], counted from the first cell of the cache.
def cellAddress (asic : Int32) (entry : BidEntry) (index : Int32) : Int :=
  asic.toInt * sizeof_stat_db + entry.offset + index.toInt

-- index1 and index2 count from 1.
def bst_ovsdb_cache_row_get (asic : Int32) (bid : Nat) (index1 index2 : Int32) : Option Int :=
  match bid_tab[bid]? with
  | none => none
  | some entry =>
      let index := entry.position index1 (index2 - 1)
      if entry.Accepts index then some (cellAddress asic entry index) else none

-- src_string and src_str_empty_size of the encoder.
structure KeyBuffer where
  src_string : List Char
  src_str_empty_size : Nat

namespace KeyBuffer

def empty : KeyBuffer := { src_string := [], src_str_empty_size := 1023 }

-- The size left is reduced by the length of the whole string each time.
def field (text : List Char) (buffer : KeyBuffer) : KeyBuffer :=
  let src_string := strncat buffer.src_string text buffer.src_str_empty_size
  { src_string, src_str_empty_size := buffer.src_str_empty_size - src_string.length }

def delim (buffer : KeyBuffer) : KeyBuffer :=
  { buffer with src_string := buffer.src_string ++ ['/'] }

end KeyBuffer

def bst_bid_port_index_to_ovsdb_key (bid : Nat) (port index : Int32) (length_of_key : Nat) :
    Option (List Char) :=
  match bid_tab[bid]? with
  | none => none
  | some entry =>
      let names := ((KeyBuffer.empty.field entry.realm_name.toList).delim.field
        entry.counter_name.toList).delim
      let key :=
        if entry.is_indexed then
          if entry.is_double_indexed then
            (names.field (showInt port.toInt)).delim.field (showInt index.toInt)
          else
            (names.field (showInt index.toInt)).delim.field "NONE".toList
        else
          names.field "NONE/NONE".toList
      if length_of_key ≤ key.src_string.length then none else some key.src_string

-- What the decoder makes of a key. A key that does not fit the local buffer
-- overruns it, and what happens then is not defined.
inductive RowInfo where
  | overrun
  | FAILURE
  | row (bid : Nat) (port queue : Int32)
  deriving DecidableEq, Repr

def bid_find (realm name : List Char) : Option Nat :=
  bid_tab.findIdx? fun entry => entry.realm_name.toList = realm && entry.counter_name.toList = name

-- Only a port-indexed counter sets *port. The queue of a device key is set to 0
-- first and then overwritten.
def bst_ovsdb_row_info_get (ovsdb_key : List Char) (port : Int32) : RowInfo :=
  if 1024 ≤ ovsdb_key.length then .overrun
  else
    match strtok '/' ovsdb_key with
    | [realm, name, index1, index2] =>
        match bid_find realm name with
        | none => .FAILURE
        | some bid =>
            match bid_tab[bid]? with
            | none => .FAILURE
            | some entry =>
                let first := atoi index1
                let second := atoi index2
                let index := if entry.is_double_indexed then entry.position first (second - 1)
                  else entry.position port (first - 1)
                if entry.Accepts index then
                  if entry.is_double_indexed then .row bid first second
                  else .row bid port first
                else .FAILURE
    | _ => .FAILURE

end BroadView.Ovsdb
