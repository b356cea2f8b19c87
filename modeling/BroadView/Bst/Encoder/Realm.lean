import BroadView.Bst.App
import BroadView.Buffer
import BroadView.Printf

namespace BroadView.Bst

open Printf Buffer

-- The broken-down time that localtime makes of a time stamp.
structure Tm where
  tm_year : Int32
  tm_mon : Fin 12
  tm_mday : Fin 32
  tm_hour : Fin 24
  tm_min : Fin 60
  tm_sec : Fin 61
  deriving DecidableEq, Repr

-- The arguments of the report encoder.
structure ReportInput where
  asicId : Nat
  previous : Option BVIEW_BST_ASIC_SNAPSHOT_DATA
  current : BVIEW_BST_ASIC_SNAPSHOT_DATA
  options : BSTJSON_REPORT_OPTIONS
  asic : BVIEW_ASIC_CAPABILITIES
  time : Tm

def sbplugin_ovsdb_system_port_translate_to_notation (port : Int) : List Char := showInt port

-- A port kept as a counter is cast to int for its notation.
def portOfCounter (port : UInt64) : Int := port.toUInt32.toInt32.toInt

def round_int (r : Float) : UInt64 :=
  if r > 0.0 then (r + 0.5).toUInt64 else (r - 0.5).toUInt64

def bst_json_convert_data (options : BSTJSON_REPORT_OPTIONS) (asic : BVIEW_ASIC_CAPABILITIES)
    (data maxBufVal : UInt64) : UInt64 :=
  if options.reportThreshold then
    if options.statUnitsInCells then data / asic.cellToByteConv else data
  else if options.statsInPercentage then
    if maxBufVal = 0 then 0 else round_int ((data * 100).toFloat / maxBufVal.toFloat)
  else if options.statUnitsInCells then data / asic.cellToByteConv
  else data

-- What tells the encoders of the realms apart. The counters are those a loop
-- compares, in the order of the columns it is to print, and a column without a
-- maximum is printed as it is. The unicast and multicast queues have a column
-- for their port.
structure RealmEncoder where
  realmTemplate : String
  dataTemplate : String
  count : BVIEW_ASIC_CAPABILITIES → Nat
  counters : BVIEW_BST_ASIC_SNAPSHOT_DATA → Nat → Nat → List UInt64
  maxima : BVIEW_SYSTEM_ASIC_MAX_BUF_SNAPSHOT_DATA → Nat → Nat → List (Option UInt64)
  queuePort : BVIEW_BST_ASIC_SNAPSHOT_DATA → Nat → Option UInt64 := fun _ _ => none

structure Row where
  port : Nat
  index : Nat
  args : List Arg
  deriving DecidableEq, Repr

section Loops

variable (encoder : RealmEncoder) (input : ReportInput)

-- A trigger report without a snapshot shows only what its trigger names.
def trigger_skips (named shown : Int) : Bool :=
  decide (shown ≠ named) && !input.options.sendSnapShotOnTrigger && input.options.reportTrigger

def counters_reported (port index : Nat) : Bool :=
  let counters := encoder.counters input.current port index
  match input.previous with
  | none => !(input.options.sendIncrementalReport && counters.all (· == 0))
  | some previous => decide (encoder.counters previous port index ≠ counters)

def row_included (port index : Nat) : Bool :=
  !trigger_skips input input.options.triggerInfo.queue.toInt index &&
    counters_reported encoder input port index

def column_value (data : UInt64) : Option UInt64 → UInt64
  | some maxBufVal => bst_json_convert_data input.options input.asic data maxBufVal
  | none => data

def row_values (port index : Nat) : List UInt64 :=
  List.zipWith (column_value input) (encoder.counters input.current port index)
    (encoder.maxima input.options.bst_max_buffers_ptr port index)

def row_args (port index : Nat) : List Arg :=
  .int index ::
    ((encoder.queuePort input.current index).toList.map fun queuePort =>
      .str <| sbplugin_ovsdb_system_port_translate_to_notation (portOfCounter queuePort)) ++
    (row_values encoder input port index).map .u64

-- Indices and ports count from 0 here; a port is shown counted from 1.
def realm_rows (port : Nat) : List Row :=
  ((List.range (encoder.count input.asic)).filter (row_included encoder input port)).map
    fun index => { port, index, args := row_args encoder input port index }

def row_piece (row : Row) : List Char := format encoder.dataTemplate.toList row.args

def row_ops (rows : List Row) : List (List Op) := rows.map fun row => [.put (row_piece encoder row)]

def realm_header : List Char := format encoder.realmTemplate.toList [.str "data".toList]

def section_end : List Char := "] \x7d ,".toList

-- The loop over the indices of a realm without ports.
def encode_index_realm : List Op :=
  listing (realm_header encoder) (row_ops encoder (realm_rows encoder input 0)) section_end

-- Ports count from 0 in the tables and from 1 where they are shown.
def shown_port (port : Nat) : List Char :=
  sbplugin_ovsdb_system_port_translate_to_notation (port + 1)

def port_header (port : Nat) : List Char :=
  format " \x7b \"port\": \"%s\", \"data\": [ ".toList [.str (shown_port port)]

def port_included (port : Nat) : Bool :=
  !trigger_skips input input.options.triggerInfo.port.toInt (port + 1) &&
    !(realm_rows encoder input port).isEmpty

def included_ports : List Nat :=
  (List.range input.asic.numPorts).filter (port_included encoder input)

def encode_port (port : Nat) : List Op :=
  listing (port_header port) (row_ops encoder (realm_rows encoder input port)) section_end

-- The two loops of a realm with ports: a port without rows is left out.
def encode_port_realm : List Op :=
  listing (realm_header encoder) ((included_ports encoder input).map (encode_port encoder input))
    section_end

def port_realm_rows : List Row := (included_ports encoder input).flatMap (realm_rows encoder input)

end Loops

end BroadView.Bst
