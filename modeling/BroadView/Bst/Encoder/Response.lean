import BroadView.Bst.Calls
import BroadView.Bst.Config
import BroadView.Bst.Memory

namespace BroadView.Bst

open Printf Buffer

def getBstFeatureTemplate : String :=
  " \x7b\"jsonrpc\": \"2.0\",\"method\": \"get-bst-feature\",\"asic-id\": \"%s\"," ++
  "\"version\": \"%d\",\"result\": \x7b\"bst-enable\": %d,\"send-async-reports\": %d," ++
  "\"collection-interval\": %d,\"stat-units-in-cells\": %d,\"trigger-rate-limit\": %d," ++
  "\"send-snapshot-on-trigger\": %d,\"trigger-rate-limit-interval\": %d," ++
  "\"async-full-reports\": %d,\"stats-in-percentage\": %d\x7d,\"id\": %d\x7d"

def getBstTrackingTemplate : String :=
  " \x7b\"jsonrpc\": \"2.0\",\"method\": \"get-bst-tracking\",\"asic-id\": \"%s\"," ++
  "\"version\": \"%d\",\"result\": \x7b\"track-peak-stats\" : %d, " ++
  "\"track-ingress-port-priority-group\" : %d, \"track-ingress-port-service-pool\" : %d, " ++
  "\"track-ingress-service-pool\" : %d, \"track-egress-port-service-pool\" : %d, " ++
  "\"track-egress-service-pool\" : %d, \"track-egress-uc-queue\" : %d, " ++
  "\"track-egress-uc-queue-group\" : %d, \"track-egress-mc-queue\" : %d, " ++
  "\"track-egress-cpu-queue\" : %d, \"track-egress-rqe-queue\" : %d, " ++
  "\"track-device\" : %d \x7d,\"id\": %d\x7d"

-- What an encoder returns, and what it leaves in the caller's buffer pointer.
structure Encoding where
  rv : BVIEW_STATUS
  pJsonBuffer : Option Nat
  text : List Char
  pool : MemoryPool

-- The data and the buffer are checked before anything is encoded.
def invalid_input (pool : MemoryPool) : Encoding :=
  { rv := .INVALID_PARAMETER, pJsonBuffer := none, text := [], pool }

-- The two configuration encoders differ in their template and arguments only.
-- The buffer is handed out at the end: an ASIC without a notation returns from
-- the middle.
def encode_config (template : String) (args : List Arg) (asicId : Nat) (pool : MemoryPool) :
    Encoding :=
  match bstjson_memory_allocate .RESPONSE pool with
  | (_, none, pool) => invalid_input pool
  | (_, some jsonBuf, pool) =>
      match sbplugin_ovsdb_system_asic_translate_to_notation asicId with
      | none => { rv := .INVALID_JSON, pJsonBuffer := none, text := [], pool }
      | some asicIdStr =>
          { rv := .SUCCESS
            pJsonBuffer := some jsonBuf
            text := (format template.toList
              (.str asicIdStr :: .int BVIEW_JSON_VERSION :: args)).take
                (BSTJSON_MEMORY_SIZE.bytes .RESPONSE - 1)
            pool }

def feature_args (data : BSTJSON_CONFIGURE_BST_FEATURE) (method : Int) : List Arg :=
  [.int data.bstEnable, .int data.sendAsyncReports, .int data.collectionInterval,
    .int data.statUnitsInCells, .int data.bstMaxTriggers.toInt, .int data.sendSnapshotOnTrigger,
    .int data.triggerTransmitInterval, .int (if data.sendIncrementalReport = 0 then 1 else 0),
    .int data.statsInPercentage, .int method]

def tracking_args (data : BSTJSON_CONFIGURE_BST_TRACKING) (method : Int) : List Arg :=
  ([data.trackPeakStats, data.track.ingressPortPriorityGroup, data.track.ingressPortServicePool,
    data.track.ingressServicePool, data.track.egressPortServicePool, data.track.egressServicePool,
    data.track.egressUcQueue, data.track.egressUcQueueGroup, data.track.egressMcQueue,
    data.track.egressCpuQueue, data.track.egressRqeQueue, data.track.device].map
      fun flag => .int (boolToInt flag)) ++ [.int method]

def bstjson_encode_get_bst_feature (asicId : Nat) (method : Int)
    (data : BSTJSON_CONFIGURE_BST_FEATURE) (pool : MemoryPool) : Encoding :=
  encode_config getBstFeatureTemplate (feature_args data method) asicId pool

def bstjson_encode_get_bst_tracking (asicId : Nat) (method : Int)
    (data : BSTJSON_CONFIGURE_BST_TRACKING) (pool : MemoryPool) : Encoding :=
  encode_config getBstTrackingTemplate (tracking_args data method) asicId pool

-- The report encoder in its buffer. Nothing is known of the pool once a report
-- was written past the end of its slice.
def encode_report (input : ReportInput) (pool : MemoryPool) : Option Encoding :=
  match bstjson_memory_allocate .REPORT pool with
  | (_, none, pool) => some (invalid_input pool)
  | (_, some jsonBuf, pool) =>
      match bstjson_encode_get_bst_report input with
      | .success text => some { rv := .SUCCESS, pJsonBuffer := some jsonBuf, text, pool }
      | .failure rv => some { rv, pJsonBuffer := none, text := [], pool }
      | .overrun => none

section Reply

variable (localtime : Int → Tm)

-- The arguments bst_send_response hands to the report encoder.
def report_input (reply : BVIEW_BST_RESPONSE_MSG) : Option ReportInput :=
  match reply.response, reply.asic_capabilities with
  | .report active backup, some asic =>
      some
        { asicId := reply.unit
          previous := backup.map (·.snapshot_data)
          current := active.snapshot_data
          options := reply.options
          asic
          time := localtime active.tv }
  | _, _ => none

-- The switch of bst_send_response. A reply without its data has a null pointer
-- for it, which the encoders refuse; the other types encode nothing.
def encode_reply (reply : BVIEW_BST_RESPONSE_MSG) (pool : MemoryPool) : Option Encoding :=
  match reply.msg_type with
  | .GET_TRACK =>
      match reply.response with
      | .track data => some (bstjson_encode_get_bst_tracking reply.unit reply.id data pool)
      | _ => some (invalid_input pool)
  | .GET_FEATURE =>
      match reply.response with
      | .config data => some (bstjson_encode_get_bst_feature reply.unit reply.id data pool)
      | _ => some (invalid_input pool)
  | .GET_REPORT | .TRIGGER_REPORT | .GET_THRESHOLD =>
      match report_input localtime reply with
      | some input => encode_report input pool
      | none => some (invalid_input pool)
  | _ => some { rv := .SUCCESS, pJsonBuffer := none, text := [], pool }

-- After the send, or instead of it, a buffer that was handed out is freed.
def free_encoding (encoding : Encoding) : MemoryPool :=
  match encoding.pJsonBuffer with
  | some buffer => (bstjson_memory_free (some buffer) encoding.pool).2
  | none => encoding.pool

def encode_and_free (reply : BVIEW_BST_RESPONSE_MSG) (pool : MemoryPool) : Option MemoryPool :=
  (encode_reply localtime reply pool).map free_encoding

-- The pool changes only where a reply is encoded.
def use_pool (pool : Option MemoryPool) : Effect → Option MemoryPool
  | .encode reply => pool.bind (encode_and_free localtime reply)
  | _ => pool

def pool_after (pool : Option MemoryPool) (effects : List Effect) : Option MemoryPool :=
  effects.foldl (use_pool localtime) pool

end Reply

end BroadView.Bst
