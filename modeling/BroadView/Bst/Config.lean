import BroadView.Bst.Calls

namespace BroadView.Bst

def bst_periodic_collection_timer_delete (env : Env) (cxt : BVIEW_BST_UNIT_CXT) :
    BVIEW_STATUS × BVIEW_BST_UNIT_CXT :=
  let (rv, node) := cxt.bst_collection_timer.stop env.timer
  (rv, { cxt with bst_collection_timer := node })

-- A node in use is deleted first; a failure to delete it is only logged.
def bst_periodic_collection_timer_add (env : Env) (cxt : BVIEW_BST_UNIT_CXT) :
    BVIEW_STATUS × BVIEW_BST_UNIT_CXT :=
  let (_, stopped) := bst_periodic_collection_timer_delete env cxt
  let (rv, node) := stopped.bst_collection_timer.start env.timer
    (cxt.bst_config.config.collectionInterval * BVIEW_BST_TIME_CONVERSION_FACTOR)
  (rv, { stopped with bst_collection_timer := node })

def setFeature (f : BSTJSON_CONFIGURE_BST_FEATURE → BSTJSON_CONFIGURE_BST_FEATURE)
    (cxt : BVIEW_BST_UNIT_CXT) : BVIEW_BST_UNIT_CXT :=
  { cxt with bst_config := { cxt.bst_config with config := f cxt.bst_config.config } }

def setTracking (f : BSTJSON_CONFIGURE_BST_TRACKING → BSTJSON_CONFIGURE_BST_TRACKING)
    (cxt : BVIEW_BST_UNIT_CXT) : BVIEW_BST_UNIT_CXT :=
  { cxt with bst_config := { cxt.bst_config with track := f cxt.bst_config.track } }

-- The parameters stored before the asynchronous report switch is looked at.
-- The request carries async-full-reports, stored negated.
def store_early_params (request ptr : BSTJSON_CONFIGURE_BST_FEATURE) :
    BSTJSON_CONFIGURE_BST_FEATURE :=
  let mask := request.configMask
  { ptr with
    collectionInterval :=
      if mask.COLL_INTRVL then request.collectionInterval else ptr.collectionInterval
    sendSnapshotOnTrigger :=
      if mask.SND_SNAP_TGR then request.sendSnapshotOnTrigger else ptr.sendSnapshotOnTrigger
    bstMaxTriggers :=
      if mask.TGR_RATE_LIMIT then request.bstMaxTriggers else ptr.bstMaxTriggers
    triggerTransmitInterval :=
      if mask.TGR_RL_INTVL then request.triggerTransmitInterval else ptr.triggerTransmitInterval
    sendIncrementalReport :=
      if mask.ASYNC_FULL_REP then (if request.sendIncrementalReport = 0 then 1 else 0)
      else ptr.sendIncrementalReport }

def store_late_params (request ptr : BSTJSON_CONFIGURE_BST_FEATURE) :
    BSTJSON_CONFIGURE_BST_FEATURE :=
  let mask := request.configMask
  { ptr with
    statUnitsInCells :=
      if mask.STATS_UNITS then request.statUnitsInCells else ptr.statUnitsInCells
    statsInPercentage :=
      if mask.STATS_IN_PERCENT then request.statsInPercentage else ptr.statsInPercentage }

-- intervalChanged is timerUpdateReqd as the collection interval leaves it.
def set_async_reports (request : BSTJSON_CONFIGURE_BST_FEATURE) (intervalChanged : Bool)
    (env : Env) (cxt : BVIEW_BST_UNIT_CXT) : BVIEW_BST_UNIT_CXT :=
  if request.configMask.SND_ASYNC_REP then
    if request.sendAsyncReports = 1 then
      let timerUpdateReqd := intervalChanged ||
        decide (cxt.bst_config.config.sendAsyncReports ≠ 1)
      let cxt' := if cxt.bst_config.config.sendAsyncReports ≠ 1
        then setFeature ({ · with sendAsyncReports := 1 }) cxt else cxt
      if timerUpdateReqd then (bst_periodic_collection_timer_add env cxt').2 else cxt'
    else
      (bst_periodic_collection_timer_delete env
        (setFeature ({ · with sendAsyncReports := 0 }) cxt)).2
  else
    cxt

-- The southbound collection period is capped by the plugin's own interval.
def collection_period (collectionInterval : Int) : Int :=
  if collectionInterval = 0 ∨ BVIEW_BST_DEFAULT_PLUGIN_INTERVAL < collectionInterval then
    BVIEW_BST_DEFAULT_PLUGIN_INTERVAL
  else collectionInterval

-- What the request stores before the southbound configuration is touched.
def store_request (request : BSTJSON_CONFIGURE_BST_FEATURE) (env : Env)
    (cxt : BVIEW_BST_UNIT_CXT) : BVIEW_BST_UNIT_CXT :=
  let intervalChanged := request.configMask.COLL_INTRVL &&
    decide (cxt.bst_config.config.collectionInterval ≠ request.collectionInterval)
  let early := setFeature (store_early_params request) cxt
  setFeature (store_late_params request) (set_async_reports request intervalChanged env early)

def feature_mode (request ptr : BSTJSON_CONFIGURE_BST_FEATURE) (mode : BVIEW_BST_CONFIG) :
    BVIEW_BST_CONFIG :=
  { mode with
    enableStatsMonitoring := decide (request.bstEnable ≠ 0)
    enablePeriodicCollection := true
    collectionPeriod := collection_period ptr.collectionInterval
    bstMaxTriggers := ptr.bstMaxTriggers
    sendSnapshotOnTrigger := ptr.sendSnapshotOnTrigger }

-- The enable flag is stored only after the southbound write succeeded.
def bst_config_feature_set (msg : BVIEW_BST_REQUEST_MSG) (env : Env) (cxt : BVIEW_BST_UNIT_CXT) :
    Outcome :=
  let request := msg.config
  let stored := store_request request env cxt
  let (got, mode) := env.sbapi_bst_config_get
  if request.configMask.ENABLE = false then
    ⟨.SUCCESS, stored, []⟩
  else if got ≠ .SUCCESS then
    ⟨got, stored, []⟩
  else
    let bstMode := feature_mode request stored.bst_config.config mode
    let rv := env.sbapi_bst_config_set
    let cxt' := if rv = .SUCCESS
      then setFeature ({ · with bstEnable := request.bstEnable }) stored else stored
    ⟨rv, cxt', [.sbapi_bst_config_set msg.unit bstMode rv]⟩

def bst_config_feature_get (_msg : BVIEW_BST_REQUEST_MSG) (_env : Env)
    (cxt : BVIEW_BST_UNIT_CXT) : Outcome :=
  ⟨.SUCCESS, cxt, []⟩

-- The comparison covers trackPeakStats and the realm flags, not trackMask.
def track_config_changed (request ptr : BSTJSON_CONFIGURE_BST_TRACKING) : Bool :=
  decide (ptr.trackPeakStats ≠ request.trackPeakStats) || decide (ptr.track ≠ request.track)

def track_mode (request : BSTJSON_CONFIGURE_BST_TRACKING)
    (config_ptr : BSTJSON_CONFIGURE_BST_FEATURE) (mode : BVIEW_BST_CONFIG) : BVIEW_BST_CONFIG :=
  { mode with
    enableStatsMonitoring := decide (config_ptr.bstEnable ≠ 0)
    enableDeviceStatsMonitoring := true
    enableIngressStatsMonitoring := true
    enableEgressStatsMonitoring := true
    mode := if request.trackPeakStats then .PEAK else .CURRENT
    trackMask := request.trackMask
    enablePeriodicCollection := true
    bstMaxTriggers := config_ptr.bstMaxTriggers
    sendSnapshotOnTrigger := config_ptr.sendSnapshotOnTrigger
    statUnitsInCells := config_ptr.statUnitsInCells
    statsInPercentage := config_ptr.statsInPercentage
    triggerTransmitInterval := config_ptr.triggerTransmitInterval
    sendIncrementalReport := config_ptr.sendIncrementalReport }

-- The status of config_get is only logged.
def bst_config_track_set (msg : BVIEW_BST_REQUEST_MSG) (env : Env) (cxt : BVIEW_BST_UNIT_CXT) :
    Outcome :=
  let request := msg.track
  if track_config_changed request cxt.bst_config.track = false then
    ⟨.SUCCESS, cxt, []⟩
  else
    let bstMode := track_mode request cxt.bst_config.config env.sbapi_bst_config_get.2
    let rv := env.sbapi_bst_config_set
    let cxt' := if rv = .SUCCESS then setTracking (fun _ => request) cxt else cxt
    ⟨rv, cxt', [.sbapi_bst_config_set msg.unit bstMode rv]⟩

def bst_config_track_get (_msg : BVIEW_BST_REQUEST_MSG) (_env : Env)
    (cxt : BVIEW_BST_UNIT_CXT) : Outcome :=
  ⟨.SUCCESS, cxt, []⟩

def bst_mask_to_realm (trackingMask : Nat) : RealmFlags :=
  { ingressPortPriorityGroup := trackingMask.testBit BVIEW_BST_REALM_ID.INGRESS_PORT_PG.toNat
    ingressPortServicePool := trackingMask.testBit BVIEW_BST_REALM_ID.INGRESS_PORT_SP.toNat
    ingressServicePool := trackingMask.testBit BVIEW_BST_REALM_ID.INGRESS_SP.toNat
    egressPortServicePool := trackingMask.testBit BVIEW_BST_REALM_ID.EGRESS_PORT_SP.toNat
    egressServicePool := trackingMask.testBit BVIEW_BST_REALM_ID.EGRESS_SP.toNat
    egressUcQueue := trackingMask.testBit BVIEW_BST_REALM_ID.EGRESS_UC_QUEUE.toNat
    egressUcQueueGroup := trackingMask.testBit BVIEW_BST_REALM_ID.EGRESS_UC_QUEUEGROUPS.toNat
    egressMcQueue := trackingMask.testBit BVIEW_BST_REALM_ID.EGRESS_MC_QUEUE.toNat
    egressCpuQueue := trackingMask.testBit BVIEW_BST_REALM_ID.EGRESS_CPU_QUEUE.toNat
    egressRqeQueue := trackingMask.testBit BVIEW_BST_REALM_ID.EGRESS_RQE_QUEUE.toNat
    device := trackingMask.testBit BVIEW_BST_REALM_ID.DEVICE.toNat }

def realmBit (flag : Bool) (realm : BVIEW_BST_REALM_ID) : Nat :=
  if flag then 1 <<< realm.toNat else 0

def bst_realm_to_mask (data : RealmFlags) : Nat :=
  realmBit data.ingressPortPriorityGroup .INGRESS_PORT_PG |||
  realmBit data.ingressPortServicePool .INGRESS_PORT_SP |||
  realmBit data.ingressServicePool .INGRESS_SP |||
  realmBit data.egressPortServicePool .EGRESS_PORT_SP |||
  realmBit data.egressServicePool .EGRESS_SP |||
  realmBit data.egressUcQueue .EGRESS_UC_QUEUE |||
  realmBit data.egressUcQueueGroup .EGRESS_UC_QUEUEGROUPS |||
  realmBit data.egressMcQueue .EGRESS_MC_QUEUE |||
  realmBit data.egressCpuQueue .EGRESS_CPU_QUEUE |||
  realmBit data.egressRqeQueue .EGRESS_RQE_QUEUE |||
  realmBit data.device .DEVICE

def boolToInt (b : Bool) : Int := if b then 1 else 0

def update_feature (bstMode : BVIEW_BST_CONFIG) (cxt : BVIEW_BST_UNIT_CXT) :
    BVIEW_BST_UNIT_CXT :=
  setFeature (fun ptr => { ptr with
    bstEnable := boolToInt bstMode.enableStatsMonitoring
    sendSnapshotOnTrigger := bstMode.sendSnapshotOnTrigger
    bstMaxTriggers := bstMode.bstMaxTriggers }) cxt

-- The mask itself is not stored, only the realm flags it stands for.
def update_track (bstMode : BVIEW_BST_CONFIG) (cxt : BVIEW_BST_UNIT_CXT) : BVIEW_BST_UNIT_CXT :=
  setTracking (fun ptr => { ptr with
    track := bst_mask_to_realm bstMode.trackMask
    trackPeakStats := decide (bstMode.mode ≠ .CURRENT) }) cxt

def bst_update_config_set (msg : BVIEW_BST_REQUEST_MSG) (env : Env) (cxt : BVIEW_BST_UNIT_CXT) :
    Outcome :=
  let (got, bstMode) := env.sbapi_bst_config_get
  if got ≠ .SUCCESS then
    ⟨got, cxt, []⟩
  else
    let featured := if msg.msg_type = .UPDATE_FEATURE then update_feature bstMode cxt else cxt
    let tracked := if msg.msg_type = .UPDATE_TRACK then update_track bstMode featured else featured
    ⟨.SUCCESS, tracked, []⟩

def defaultFeature : BSTJSON_CONFIGURE_BST_FEATURE :=
  { bstEnable := BVIEW_BST_DEFAULT_ENABLE
    sendAsyncReports := BVIEW_BST_PERIODIC_REPORT_DEFAULT
    collectionInterval := BVIEW_BST_DEFAULT_INTERVAL
    statUnitsInCells := BVIEW_BST_DEFAULT_STATS_UNITS
    bstMaxTriggers := BVIEW_BST_DEFAULT_MAX_TRIGGERS
    sendSnapshotOnTrigger := BVIEW_BST_DEFAULT_SNAPSHOT_TRIGGER
    statsInPercentage := BVIEW_BST_DEFAULT_STATS_PERCENTAGE
    triggerTransmitInterval := BVIEW_BST_DEFAULT_TRIGGER_INTERVAL
    sendIncrementalReport := BVIEW_BST_DEFAULT_SEND_INCR_REPORT
    configMask := default }

-- A unit as bst_main allocates and zeroes it.
def allocated (asic : BVIEW_ASIC_CAPABILITIES) : BVIEW_BST_UNIT_CXT :=
  { records := fun _ => .zero
    stats_active_record_ptr := 0
    stats_backup_record_ptr := 1
    stats_current_record_ptr := 2
    threshold_record := .zero
    bst_max_buffers := default
    bst_collection_timer := { in_use := false, timerId := 0, live := [] }
    bst_trigger_timer := { in_use := false, timerId := 0, live := [] }
    bst_config := { track := default, config := default }
    asic_capabilities := asic
    bst_trigger_count := fun _ => 0 }

-- The plugin may hold a configuration of its own, which replaces the defaults
-- of the enable flag, the trigger limit, the snapshot flag and the tracked
-- realms. Peak tracking starts off in both branches of the source, and so does
-- the asynchronous report that would arm the collection timer.
def bst_app_config_init (unit : Nat) (env : Env) (cxt : BVIEW_BST_UNIT_CXT) : Outcome :=
  let bstMode := env.sbapi_bst_config_get.2
  let config : BSTJSON_CONFIGURE_BST_FEATURE := { defaultFeature with
    bstEnable := boolToInt bstMode.enableStatsMonitoring
    bstMaxTriggers := bstMode.bstMaxTriggers
    sendSnapshotOnTrigger := bstMode.sendSnapshotOnTrigger }
  let track : BSTJSON_CONFIGURE_BST_TRACKING :=
    { trackMask := bstMode.trackMask
      trackPeakStats := false
      track := bst_mask_to_realm bstMode.trackMask }
  let pushed : BVIEW_BST_CONFIG := { bstMode with
    trackInit := true
    enableStatsMonitoring := decide (config.bstEnable ≠ 0)
    enableDeviceStatsMonitoring := BVIEW_BST_DEFAULT_TRACK_DEVICE
    enableIngressStatsMonitoring := BVIEW_BST_DEFAULT_TRACK_INGRESS
    enableEgressStatsMonitoring := BVIEW_BST_DEFAULT_TRACK_EGRESS
    enablePeriodicCollection := true
    collectionPeriod := BVIEW_BST_DEFAULT_PLUGIN_INTERVAL
    mode := .CURRENT
    statUnitsInCells := config.statUnitsInCells
    statsInPercentage := config.statsInPercentage
    triggerTransmitInterval := config.triggerTransmitInterval
    sendIncrementalReport := config.sendIncrementalReport }
  let cxt' := { cxt with
    bst_config := { track, config }
    bst_collection_timer := { cxt.bst_collection_timer with in_use := false }
    bst_trigger_timer := { cxt.bst_trigger_timer with in_use := false } }
  ⟨env.sbapi_bst_config_set, cxt', [.sbapi_bst_config_set unit pushed env.sbapi_bst_config_set]⟩

end BroadView.Bst
