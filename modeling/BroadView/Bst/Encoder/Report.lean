import BroadView.Bst.Encoder.Ingress
import BroadView.Bst.Encoder.Egress

namespace BroadView.Bst

open Printf Buffer

-- sizeof (BVIEW_BST_ASIC_SNAPSHOT_DATA_t): every member is a table of 64-bit
-- fields.
def sizeof_snapshot : Nat :=
  8 * (1 +
    BVIEW_ASIC_MAX_PORTS * BVIEW_ASIC_MAX_PRIORITY_GROUPS * 2 +
    BVIEW_ASIC_MAX_PORTS * BVIEW_ASIC_MAX_INGRESS_SERVICE_POOLS +
    BVIEW_ASIC_MAX_INGRESS_SERVICE_POOLS +
    BVIEW_ASIC_MAX_PORTS * BVIEW_ASIC_MAX_SERVICE_POOLS * 4 +
    BVIEW_ASIC_MAX_SERVICE_POOLS * 3 +
    BVIEW_ASIC_MAX_UC_QUEUES * 2 +
    BVIEW_ASIC_MAX_UC_QUEUE_GROUPS +
    BVIEW_ASIC_MAX_MC_QUEUES * 3 +
    BVIEW_ASIC_MAX_CPU_QUEUES * 2 +
    BVIEW_ASIC_MAX_RQE_QUEUES * 2)

def BSTJSON_MEMSIZE_REPORT : Nat := sizeof_snapshot + 32 * 2048

theorem memsize_report : BSTJSON_MEMSIZE_REPORT = 195984 := by decide

def asicAppMap : List Int := [1]

def sbplugin_ovsdb_system_asic_translate_to_notation (asic : Nat) : Option (List Char) :=
  (asicAppMap[asic]?).map showInt

def twoDigits (n : Nat) : List Char := if n < 10 then '0' :: showNat n else showNat n

-- strftime (.., "%Y-%m-%d - %H:%M:%S ", ..)
def timeString (tm : Tm) : List Char :=
  showInt (tm.tm_year.toInt + 1900) ++ '-' :: twoDigits (tm.tm_mon.val + 1) ++ '-' ::
    twoDigits tm.tm_mday.val ++ " - ".toList ++ twoDigits tm.tm_hour.val ++ ':' ::
    twoDigits tm.tm_min.val ++ ':' :: twoDigits tm.tm_sec.val ++ [' ']

def getBstReportStart : String :=
  " \x7b \"jsonrpc\": \"2.0\",\"method\": \"%s\",\"asic-id\": \"%s\",\"version\": \"%d\"," ++
  "\"time-stamp\": \"%s\",\"report\": [ "

def getBstTriggerReportStart : String :=
  " \x7b \"jsonrpc\": \"2.0\",\"method\": \"%s\",\"asic-id\": \"%s\",\"version\": \"%d\"," ++
  "\"time-stamp\": \"%s\",\"realm\": \"%s\",\"counter\": \"%s\","

structure BSTJSON_REALM_INDEX where
  realm : String
  index1 : Option String
  index2 : Option String
  deriving DecidableEq, Repr

def bst_realm_indices_map : List BSTJSON_REALM_INDEX :=
  [⟨"device", none, none⟩,
    ⟨"ingress-service-pool", some "service-pool", none⟩,
    ⟨"ingress-port-service-pool", some "port", some "service-pool"⟩,
    ⟨"ingress-port-priority-group", some "port", some "priority-group"⟩,
    ⟨"egress-port-service-pool", some "port", some "service-pool"⟩,
    ⟨"egress-service-pool", some "service-pool", none⟩,
    ⟨"egress-uc-queue", some "queue", none⟩,
    ⟨"egress-uc-queue-group", some "queue-group", none⟩,
    ⟨"egress-mc-queue", some "queue", none⟩,
    ⟨"egress-cpu-queue", some "queue", none⟩,
    ⟨"egress-rqe-queue", some "queue", none⟩]

def bstjson_realm_to_indices_get (realm : String) : Option BSTJSON_REALM_INDEX :=
  bst_realm_indices_map.find? fun entry => decide (realm = entry.realm)

def bstjson_encode_trigger_realm_index_info (info : BVIEW_BST_TRIGGER_INFO) (index : String) :
    List Char :=
  if index = "port" then
    format "\"port\" : \"%s\",".toList
      [.str <| sbplugin_ovsdb_system_port_translate_to_notation info.port.toInt]
  else
    format "\"%s\" : %d,".toList [.str index.toList, .int info.queue.toInt]

section Report

variable (input : ReportInput)

def trigger_report_start (asicIdStr : List Char) (entry : BSTJSON_REALM_INDEX) : List Char :=
  let info := input.options.triggerInfo
  format getBstTriggerReportStart.toList
      [.str "trigger-report".toList, .str asicIdStr, .int BVIEW_JSON_VERSION,
        .str (timeString input.time), .str info.realm.toList, .str info.counter.toList] ++
    ((entry.index1.toList ++ entry.index2.toList).flatMap
      (bstjson_encode_trigger_realm_index_info info)) ++
    "\"report\" : [".toList

def report_start (asicIdStr : List Char) : List Char :=
  format getBstReportStart.toList
    [.str (if input.options.reportThreshold then "get-bst-thresholds" else "get-bst-report").toList,
      .str asicIdStr, .int BVIEW_JSON_VERSION, .str (timeString input.time)]

def report_header : Except BVIEW_STATUS (List Char) :=
  match sbplugin_ovsdb_system_asic_translate_to_notation input.asicId with
  | none => .error .INVALID_JSON
  | some asicIdStr =>
      if input.options.reportTrigger then
        match bstjson_realm_to_indices_get input.options.triggerInfo.realm with
        | none => .error .INVALID_PARAMETER
        | some entry => .ok (trigger_report_start input asicIdStr entry)
      else .ok (report_start input asicIdStr)

def device_reported : Bool :=
  input.options.includes.device &&
    match input.previous with
    | none => true
    | some previous => decide (input.current.device.bufferCount ≠ previous.device.bufferCount)

def jsonencode_report_device : List Char :=
  if device_reported input then
    format "\x7b \"realm\" : \"device\", \"data\" : % lu\x7d".toList
      [.u64 (bst_json_convert_data input.options input.asic input.current.device.bufferCount
        input.options.bst_max_buffers_ptr.device)]
  else []

-- The header and the device part are written without a look at the room left.
def report_head (header : List Char) : List Char :=
  let device := jsonencode_report_device input
  header ++ device ++ if device.isEmpty then [] else " ,".toList

def report_ops : List Op :=
  let flags := input.options.includes
  (if includesIngress flags then jsonencode_report_ingress input else []) ++
    (if includesEgress flags then jsonencode_report_egress input else [])

-- The end of the report overwrites the last separator, or the blank after the
-- opening bracket. Both steps back take from the remaining length as well.
def finalize_report (cursor : Cursor) : List Char :=
  let stepped : Cursor := ⟨cursor.text.dropLast, cursor.rem - 1⟩
  let stepped := if cursor.text.getLast? = some '\x00'
    then ⟨stepped.text.dropLast, stepped.rem - 1⟩ else stepped
  stepped.text ++ " ] \x7d ".toList.take (stepped.rem - 1).toNat

inductive Encoded where
  | success (text : List Char)
  | failure (status : BVIEW_STATUS)
  | overrun
  deriving DecidableEq

def bstjson_encode_get_bst_report : Encoded :=
  match report_header input with
  | .error status => .failure status
  | .ok header =>
      let start := report_head input header
      if BSTJSON_MEMSIZE_REPORT ≤ start.length then .overrun
      else match exec ⟨start, BSTJSON_MEMSIZE_REPORT - start.length⟩ (report_ops input) with
        | .done cursor => .success (finalize_report cursor)
        | .outOfMemory => .failure .OUTOFMEMORY
        | .overrun => .overrun

end Report

end BroadView.Bst
