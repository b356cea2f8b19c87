import BroadView.Bst.Calls

namespace BroadView.Bst

structure BST_REALM_COUNTER_INDEX where
  index : BST_ID
  realm : String
  counter : String
  deriving DecidableEq, Repr

def bst_realm_index_map : List BST_REALM_COUNTER_INDEX :=
  [⟨.DEVICE, "device", "data"⟩,
    ⟨.ING_POOL, "ingress-service-pool", "um-share-buffer-count"⟩,
    ⟨.PORT_POOL, "ingress-port-service-pool", "um-share-buffer-count"⟩,
    ⟨.PRI_GROUP_SHARED, "ingress-port-priority-group", "um-share-buffer-count"⟩,
    ⟨.PRI_GROUP_HEADROOM, "ingress-port-priority-group", "um-headroom-buffer-count"⟩,
    ⟨.EGR_POOL, "egress-service-pool", "um-share-buffer-count"⟩,
    ⟨.EGR_MCAST_POOL, "egress-service-pool", "mc-share-buffer-count"⟩,
    ⟨.UCAST, "egress-uc-queue", "uc-buffer-count"⟩,
    ⟨.MCAST, "egress-mc-queue", "mc-buffer-count"⟩,
    ⟨.EGR_UCAST_PORT_SHARED, "egress-port-service-pool", "uc-share-buffer-count"⟩,
    ⟨.EGR_PORT_SHARED, "egress-port-service-pool", "um-share-buffer-count"⟩,
    ⟨.RQE_QUEUE, "egress-rqe-queue", "rqe-buffer-count"⟩,
    ⟨.UCAST_GROUP, "egress-uc-queue-group", "uc-buffer-count"⟩]

def bst_trigger_index_get (realm counter : String) : Option BST_ID :=
  (bst_realm_index_map.find? fun entry =>
    decide (realm = entry.realm ∧ counter = entry.counter)).map (·.index)

-- The interval is kept in seconds and the timer takes milliseconds.
def bst_trigger_timer_add (env : Env) (cxt : BVIEW_BST_UNIT_CXT) :
    BVIEW_STATUS × BVIEW_BST_UNIT_CXT :=
  if cxt.bst_trigger_timer.in_use then
    (.SUCCESS, cxt)
  else
    let interval := cxt.bst_config.config.triggerTransmitInterval
    let (rv, node) := cxt.bst_trigger_timer.start env.timer
      (interval * BVIEW_BST_TIME_CONVERSION_FACTOR)
    (rv, { cxt with bst_trigger_timer := node })

def bst_trigger_timer_delete (env : Env) (cxt : BVIEW_BST_UNIT_CXT) :
    BVIEW_STATUS × BVIEW_BST_UNIT_CXT :=
  let (rv, node) := cxt.bst_trigger_timer.stop env.timer
  (rv, { cxt with bst_trigger_timer := node })

def countTrigger (index : BST_ID) (cxt : BVIEW_BST_UNIT_CXT) : BVIEW_BST_UNIT_CXT :=
  { cxt with bst_trigger_count :=
      fun id => if id = index then cxt.bst_trigger_count id + 1 else cxt.bst_trigger_count id }

-- The limit suppresses a trigger once the count has reached it; limit 0 never
-- suppresses.
def limitReached (bstMaxTriggers : Int32) (count : UInt32) : Bool :=
  decide (toUnsigned bstMaxTriggers ≤ count) && decide (bstMaxTriggers ≠ 0)

-- bst_process_trigger reads the limit only after a successful lookup. A pair
-- the map does not hold leaves the local limit at 0 and the local index at its
-- initial 0, which is the slot of the device counter.
def trigger_limit (index : Option BST_ID) (cxt : BVIEW_BST_UNIT_CXT) : Int32 :=
  match index with
  | none => 0
  | some _ => cxt.bst_config.config.bstMaxTriggers

def trigger_slot (index : Option BST_ID) : BST_ID := index.getD .DEVICE

def send_trigger (info : BVIEW_BST_TRIGGER_INFO) (cxt : BVIEW_BST_UNIT_CXT) : Bool :=
  match bst_trigger_index_get info.realm info.counter with
  | none => false
  | some index =>
      !limitReached cxt.bst_config.config.bstMaxTriggers (cxt.bst_trigger_count index)

def trigger_report_msg (msg : BVIEW_BST_REQUEST_MSG) : BVIEW_BST_REQUEST_MSG :=
  { BVIEW_BST_REQUEST_MSG.zeroed .TRIGGER_REPORT msg.unit with
    report_type := some .STATS_TRIGGER
    triggerInfo := msg.triggerInfo }

def bst_process_trigger (msg : BVIEW_BST_REQUEST_MSG) (env : Env) (cxt : BVIEW_BST_UNIT_CXT) :
    Outcome :=
  let found := bst_trigger_index_get msg.triggerInfo.realm msg.triggerInfo.counter
  let bstMaxTriggers := trigger_limit found cxt
  let index := trigger_slot found
  if send_trigger msg.triggerInfo cxt then
    if env.msgsnd then
      let started :=
        if cxt.bst_trigger_count index = 0 ∧ bstMaxTriggers ≠ 0 then
          (bst_trigger_timer_add env cxt).2
        else cxt
      ⟨.SUCCESS, countTrigger index started, [.bst_send_request (trigger_report_msg msg)]⟩
    else
      ⟨.FAILURE, cxt, []⟩
  else
    ⟨.SUCCESS, countTrigger index cxt, []⟩

def bst_clear_trigger_count (msg : BVIEW_BST_REQUEST_MSG) (env : Env)
    (cxt : BVIEW_BST_UNIT_CXT) : Outcome :=
  let clearTimer := BST_ID.all.all fun id => decide (cxt.bst_trigger_count id = 0)
  let cleared := { cxt with bst_trigger_count := fun _ => 0 }
  let cxt' := if clearTimer then (bst_trigger_timer_delete env cleared).2 else cleared
  if env.msgsnd then
    ⟨.SUCCESS, cxt', [.bst_send_request (.zeroed .ENABLE_BST_ON_TRIGGER msg.unit)]⟩
  else
    ⟨.FAILURE, cxt', []⟩

def trigger_mode (mode : BVIEW_BST_CONFIG) : BVIEW_BST_CONFIG :=
  { mode with
    enableDeviceStatsMonitoring := BVIEW_BST_DEFAULT_TRACK_DEVICE
    enableIngressStatsMonitoring := BVIEW_BST_DEFAULT_TRACK_INGRESS
    enableEgressStatsMonitoring := BVIEW_BST_DEFAULT_TRACK_EGRESS
    enableStatsMonitoring := true
    enablePeriodicCollection := true }

-- The status of the preceding config_get is ignored.
def bst_enable_on_trigger (msg : BVIEW_BST_REQUEST_MSG) (env : Env) :
    BVIEW_STATUS × List Effect :=
  if msg.msg_type ≠ .TRIGGER_REPORT ∧ msg.msg_type ≠ .ENABLE_BST_ON_TRIGGER then
    (.SUCCESS, [])
  else
    (env.sbapi_bst_config_set,
      [.sbapi_bst_config_set msg.unit (trigger_mode env.sbapi_bst_config_get.2)
        env.sbapi_bst_config_set])

def bst_enable_on_trigger_timer_expiry (msg : BVIEW_BST_REQUEST_MSG) (env : Env)
    (cxt : BVIEW_BST_UNIT_CXT) : Outcome :=
  if cxt.bst_config.config.bstEnable = 1 then
    let (rv, effects) := bst_enable_on_trigger msg env
    ⟨rv, cxt, effects⟩
  else
    ⟨.SUCCESS, cxt, []⟩

end BroadView.Bst
