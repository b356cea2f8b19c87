import BroadView.Bst.System

namespace BroadView.Bst

-- The unit after the handler of a message, before the reply is prepared.
def handledCxt (cxt : BVIEW_BST_UNIT_CXT) (act : UnitAction) : BVIEW_BST_UNIT_CXT :=
  match bst_type_api_get act.msg.msg_type with
  | none => cxt
  | some handler => (handler act.msg act.env cxt).cxt

-- The messages whose reply is a report of the collected records.
def UnitAction.reports : UnitAction → Bool
  | .app msg _ => decide (msg.msg_type = .GET_REPORT ∨ msg.msg_type = .TRIGGER_REPORT)
  | .trigger _ _ => false

theorem handled_request_msg_type (cxt : BVIEW_BST_UNIT_CXT) (msg : BVIEW_BST_REQUEST_MSG) :
    (handled_request cxt msg).msg_type = msg.msg_type := by
  have hcopy : (copy_track_to_collect cxt msg).msg_type = msg.msg_type := by
    unfold copy_track_to_collect
    split <;> rfl
  unfold handled_request
  split
  · exact hcopy
  · exact hcopy
  · exact hcopy
  · rfl

theorem prepare_reply_cxt (msg : BVIEW_BST_REQUEST_MSG) (rv : BVIEW_STATUS)
    (cxt : BVIEW_BST_UNIT_CXT) :
    (prepare_reply msg rv cxt).2 =
      if msg.msg_type = .GET_REPORT ∨ msg.msg_type = .TRIGGER_REPORT then
        bst_update_data .STATS cxt
      else cxt := by
  cases h : msg.msg_type <;> simp [prepare_reply, h]

-- The only thing the reply adds to the handler's work is the rotation of the
-- record pointers.
theorem unitStep_eq (cxt : BVIEW_BST_UNIT_CXT) (act : UnitAction) :
    unitStep cxt act =
      if act.reports then bst_update_data .STATS (handledCxt cxt act)
      else handledCxt cxt act := by
  cases act with
  | trigger msg env =>
      simp only [unitStep, UnitAction.handle, handle_trigger_message, UnitAction.reports,
        handledCxt, UnitAction.msg, UnitAction.env]
      cases bst_type_api_get msg.msg_type <;> rfl
  | app msg env =>
      cases h : msg.msg_type <;>
        simp [unitStep, UnitAction.handle, handle_message, UnitAction.reports, handledCxt,
          UnitAction.msg, UnitAction.env, h, bst_type_api_get, bst_copy_reply_params,
          prepare_reply_cxt, handled_request_msg_type]

-- What the trigger limiter of a unit consists of, apart from its limit.
structure SameLimiter (cxt cxt' : BVIEW_BST_UNIT_CXT) : Prop where
  count : cxt'.bst_trigger_count = cxt.bst_trigger_count
  timer : cxt'.bst_trigger_timer = cxt.bst_trigger_timer

structure SameRecords (cxt cxt' : BVIEW_BST_UNIT_CXT) : Prop where
  records : cxt'.records = cxt.records
  active : cxt'.stats_active_record_ptr = cxt.stats_active_record_ptr
  backup : cxt'.stats_backup_record_ptr = cxt.stats_backup_record_ptr
  current : cxt'.stats_current_record_ptr = cxt.stats_current_record_ptr

section Frames

variable (cxt : BVIEW_BST_UNIT_CXT)

theorem SameLimiter.refl : SameLimiter cxt cxt := ⟨rfl, rfl⟩

theorem SameRecords.refl : SameRecords cxt cxt := ⟨rfl, rfl, rfl, rfl⟩

theorem update_data_same (type : BVIEW_BST_REPORT_TYPE) :
    SameLimiter cxt (bst_update_data type cxt) := by
  cases type <;> exact ⟨rfl, rfl⟩

@[simp] theorem update_data_config (type : BVIEW_BST_REPORT_TYPE) :
    (bst_update_data type cxt).bst_config = cxt.bst_config := by
  cases type <;> rfl

theorem set_async_reports_same_limiter (request : BSTJSON_CONFIGURE_BST_FEATURE)
    (intervalChanged : Bool) (env : Env) :
    SameLimiter cxt (set_async_reports request intervalChanged env cxt) := by
  unfold set_async_reports
  constructor <;> (dsimp only; split_ifs <;> rfl)

theorem set_async_reports_same_records (request : BSTJSON_CONFIGURE_BST_FEATURE)
    (intervalChanged : Bool) (env : Env) :
    SameRecords cxt (set_async_reports request intervalChanged env cxt) := by
  unfold set_async_reports
  constructor <;> (dsimp only; split_ifs <;> rfl)

theorem set_async_reports_limit (request : BSTJSON_CONFIGURE_BST_FEATURE)
    (intervalChanged : Bool) (env : Env) :
    (set_async_reports request intervalChanged env cxt).bst_config.config.bstMaxTriggers =
      cxt.bst_config.config.bstMaxTriggers := by
  unfold set_async_reports
  dsimp only
  split_ifs <;> rfl

theorem set_async_reports_enable (request : BSTJSON_CONFIGURE_BST_FEATURE)
    (intervalChanged : Bool) (env : Env) :
    (set_async_reports request intervalChanged env cxt).bst_config.config.bstEnable =
      cxt.bst_config.config.bstEnable := by
  unfold set_async_reports
  dsimp only
  split_ifs <;> rfl

theorem store_request_same_limiter (request : BSTJSON_CONFIGURE_BST_FEATURE) (env : Env) :
    SameLimiter cxt (store_request request env cxt) := by
  obtain ⟨hcount, htimer⟩ := set_async_reports_same_limiter
    (setFeature (store_early_params request) cxt) request _ env
  exact ⟨hcount, htimer⟩

theorem store_request_same_records (request : BSTJSON_CONFIGURE_BST_FEATURE) (env : Env) :
    SameRecords cxt (store_request request env cxt) := by
  obtain ⟨hrecords, hactive, hbackup, hcurrent⟩ := set_async_reports_same_records
    (setFeature (store_early_params request) cxt) request _ env
  exact ⟨hrecords, hactive, hbackup, hcurrent⟩

-- The limit a feature request leaves.
def requestedLimit (request : BSTJSON_CONFIGURE_BST_FEATURE) (limit : Int32) : Int32 :=
  if request.configMask.TGR_RATE_LIMIT then request.bstMaxTriggers else limit

theorem store_request_limit (request : BSTJSON_CONFIGURE_BST_FEATURE) (env : Env) :
    (store_request request env cxt).bst_config.config.bstMaxTriggers =
      requestedLimit request cxt.bst_config.config.bstMaxTriggers :=
  set_async_reports_limit (setFeature (store_early_params request) cxt) request _ env

theorem store_request_enable (request : BSTJSON_CONFIGURE_BST_FEATURE) (env : Env) :
    (store_request request env cxt).bst_config.config.bstEnable =
      cxt.bst_config.config.bstEnable :=
  set_async_reports_enable (setFeature (store_early_params request) cxt) request _ env

-- A feature request leaves what it stored, but for the enable flag.
theorem feature_set_cxt (msg : BVIEW_BST_REQUEST_MSG) (env : Env) :
    ∃ enable, (bst_config_feature_set msg env cxt).cxt =
      setFeature ({ · with bstEnable := enable }) (store_request msg.config env cxt) := by
  have hsame : store_request msg.config env cxt =
      setFeature ({ · with bstEnable := cxt.bst_config.config.bstEnable })
        (store_request msg.config env cxt) := by
    rw [← store_request_enable cxt msg.config env]
    rfl
  unfold bst_config_feature_set
  dsimp only
  split_ifs
  · exact ⟨_, hsame⟩
  · exact ⟨_, hsame⟩
  · exact ⟨_, rfl⟩
  · exact ⟨_, hsame⟩

theorem track_set_same_limiter (msg : BVIEW_BST_REQUEST_MSG) (env : Env) :
    SameLimiter cxt (bst_config_track_set msg env cxt).cxt := by
  unfold bst_config_track_set
  dsimp only
  split_ifs <;> exact ⟨rfl, rfl⟩

theorem update_config_same_limiter (msg : BVIEW_BST_REQUEST_MSG) (env : Env) :
    SameLimiter cxt (bst_update_config_set msg env cxt).cxt := by
  unfold bst_update_config_set
  dsimp only
  split_ifs <;> exact ⟨rfl, rfl⟩

theorem collect_stats_cxt (msg : BVIEW_BST_REQUEST_MSG) (env : Env) :
    (collect_stats msg env cxt).cxt =
      { setRecord cxt.stats_current_record_ptr env.sbapi_bst_snapshot_get.2 cxt with
        bst_max_buffers := if cxt.bst_config.config.statsInPercentage = 1
          then env.sbapi_system_max_buf_snapshot_get else cxt.bst_max_buffers } := by
  unfold collect_stats
  dsimp only
  split_ifs <;> rfl

theorem get_report_same_limiter (msg : BVIEW_BST_REQUEST_MSG) (env : Env) :
    SameLimiter cxt (bst_get_report msg env cxt).cxt := by
  unfold bst_get_report
  split_ifs
  · rw [collect_stats_cxt]
    exact ⟨rfl, rfl⟩
  · exact ⟨rfl, rfl⟩
  · exact ⟨rfl, rfl⟩

theorem get_report_config (msg : BVIEW_BST_REQUEST_MSG) (env : Env) :
    (bst_get_report msg env cxt).cxt.bst_config = cxt.bst_config := by
  unfold bst_get_report
  split_ifs
  · rw [collect_stats_cxt]
    rfl
  · rfl
  · rfl

theorem enable_expiry_cxt (msg : BVIEW_BST_REQUEST_MSG) (env : Env) :
    (bst_enable_on_trigger_timer_expiry msg env cxt).cxt = cxt := by
  unfold bst_enable_on_trigger_timer_expiry
  split_ifs <;> rfl

theorem threshold_set_cxt (msg : BVIEW_BST_REQUEST_MSG) (env : Env) :
    (bst_config_threshold_set msg env cxt).cxt = cxt := by
  unfold bst_config_threshold_set
  split <;> rfl

theorem clear_threshold_same_limiter (msg : BVIEW_BST_REQUEST_MSG) (env : Env) :
    SameLimiter cxt (bst_clear_threshold_set msg env cxt).cxt := by
  unfold bst_clear_threshold_set
  dsimp only
  split_ifs <;> exact ⟨rfl, rfl⟩

theorem clear_threshold_config (msg : BVIEW_BST_REQUEST_MSG) (env : Env) :
    (bst_clear_threshold_set msg env cxt).cxt.bst_config = cxt.bst_config := by
  unfold bst_clear_threshold_set
  dsimp only
  split_ifs <;> rfl

theorem track_set_feature (msg : BVIEW_BST_REQUEST_MSG) (env : Env) :
    (bst_config_track_set msg env cxt).cxt.bst_config.config = cxt.bst_config.config := by
  unfold bst_config_track_set
  dsimp only
  split_ifs <;> rfl

theorem track_set_same_records (msg : BVIEW_BST_REQUEST_MSG) (env : Env) :
    SameRecords cxt (bst_config_track_set msg env cxt).cxt := by
  unfold bst_config_track_set
  dsimp only
  split_ifs <;> exact ⟨rfl, rfl, rfl, rfl⟩

theorem update_config_same_records (msg : BVIEW_BST_REQUEST_MSG) (env : Env) :
    SameRecords cxt (bst_update_config_set msg env cxt).cxt := by
  unfold bst_update_config_set
  dsimp only
  split_ifs <;> exact ⟨rfl, rfl, rfl, rfl⟩

theorem clear_threshold_same_records (msg : BVIEW_BST_REQUEST_MSG) (env : Env) :
    SameRecords cxt (bst_clear_threshold_set msg env cxt).cxt := by
  unfold bst_clear_threshold_set
  dsimp only
  split_ifs <;> exact ⟨rfl, rfl, rfl, rfl⟩

theorem process_trigger_same_records (msg : BVIEW_BST_REQUEST_MSG) (env : Env) :
    SameRecords cxt (bst_process_trigger msg env cxt).cxt := by
  have hadd : SameRecords cxt (bst_trigger_timer_add env cxt).2 := by
    unfold bst_trigger_timer_add
    split_ifs <;> exact ⟨rfl, rfl, rfl, rfl⟩
  unfold bst_process_trigger
  dsimp only
  split_ifs
  · exact ⟨hadd.records, hadd.active, hadd.backup, hadd.current⟩
  all_goals exact ⟨rfl, rfl, rfl, rfl⟩

theorem clear_trigger_same_records (msg : BVIEW_BST_REQUEST_MSG) (env : Env) :
    SameRecords cxt (bst_clear_trigger_count msg env cxt).cxt := by
  unfold bst_clear_trigger_count
  dsimp only
  split_ifs <;> exact ⟨rfl, rfl, rfl, rfl⟩

theorem trigger_add_config (env : Env) :
    (bst_trigger_timer_add env cxt).2.bst_config = cxt.bst_config := by
  unfold bst_trigger_timer_add
  split_ifs <;> rfl

theorem process_trigger_config (msg : BVIEW_BST_REQUEST_MSG) (env : Env) :
    (bst_process_trigger msg env cxt).cxt.bst_config = cxt.bst_config := by
  unfold bst_process_trigger
  dsimp only
  split_ifs <;> simp [countTrigger, trigger_add_config]

theorem clear_trigger_config (msg : BVIEW_BST_REQUEST_MSG) (env : Env) :
    (bst_clear_trigger_count msg env cxt).cxt.bst_config = cxt.bst_config := by
  unfold bst_clear_trigger_count
  dsimp only
  split_ifs <;> rfl

end Frames

section Handled

variable (cxt : BVIEW_BST_UNIT_CXT)

-- Only the two messages of the limiter itself touch its counts and timer.
theorem handled_same_limiter (act : UnitAction) (hcollect : act.msg.msg_type ≠ .TRIGGER_COLLECT)
    (hclear : act.msg.msg_type ≠ .CLEAR_TRIGGER_COUNT) :
    SameLimiter cxt (handledCxt cxt act) := by
  unfold handledCxt
  cases htype : act.msg.msg_type with
  | TRIGGER_COLLECT => exact absurd htype hcollect
  | CLEAR_TRIGGER_COUNT => exact absurd htype hclear
  | SET_FEATURE =>
      obtain ⟨enable, hcxt⟩ := feature_set_cxt cxt act.msg act.env
      have hsame := store_request_same_limiter cxt act.msg.config act.env
      simp only [bst_type_api_get, hcxt]
      exact ⟨hsame.count, hsame.timer⟩
  | SET_TRACK => exact track_set_same_limiter cxt act.msg act.env
  | SET_THRESHOLD =>
      simp only [bst_type_api_get, threshold_set_cxt]
      exact .refl cxt
  | CLEAR_THRESHOLD => exact clear_threshold_same_limiter cxt act.msg act.env
  | GET_REPORT | TRIGGER_REPORT | GET_THRESHOLD =>
      exact get_report_same_limiter cxt act.msg act.env
  | UPDATE_TRACK | UPDATE_FEATURE => exact update_config_same_limiter cxt act.msg act.env
  | ENABLE_BST_ON_TRIGGER =>
      simp only [bst_type_api_get, enable_expiry_cxt]
      exact .refl cxt
  | CLEAR_STATS | GET_FEATURE | GET_TRACK | MAX => exact ⟨rfl, rfl⟩

-- Only a feature request and a feature notification touch the feature
-- parameters.
theorem handled_feature (act : UnitAction) (hset : act.msg.msg_type ≠ .SET_FEATURE)
    (hupdate : act.msg.msg_type ≠ .UPDATE_FEATURE) :
    (handledCxt cxt act).bst_config.config = cxt.bst_config.config := by
  unfold handledCxt
  cases htype : act.msg.msg_type with
  | SET_FEATURE => exact absurd htype hset
  | UPDATE_FEATURE => exact absurd htype hupdate
  | UPDATE_TRACK =>
      simp only [bst_type_api_get, bst_update_config_set, htype, reduceCtorEq, if_true, if_false]
      split_ifs <;> rfl
  | SET_TRACK => exact track_set_feature cxt act.msg act.env
  | SET_THRESHOLD => simp only [bst_type_api_get, threshold_set_cxt]
  | CLEAR_THRESHOLD => simp only [bst_type_api_get, clear_threshold_config]
  | GET_REPORT | TRIGGER_REPORT | GET_THRESHOLD =>
      simp only [bst_type_api_get, get_report_config]
  | ENABLE_BST_ON_TRIGGER => simp only [bst_type_api_get, enable_expiry_cxt]
  | TRIGGER_COLLECT => simp only [bst_type_api_get, process_trigger_config]
  | CLEAR_TRIGGER_COUNT => simp only [bst_type_api_get, clear_trigger_config]
  | CLEAR_STATS | GET_FEATURE | GET_TRACK | MAX => rfl

-- Only a collection and a clear touch the statistics records, and the handler
-- of neither moves their pointers.
theorem handled_same_records (act : UnitAction) (hreport : act.msg.msg_type ≠ .GET_REPORT)
    (htrigger : act.msg.msg_type ≠ .TRIGGER_REPORT) (hclear : act.msg.msg_type ≠ .CLEAR_STATS) :
    SameRecords cxt (handledCxt cxt act) := by
  unfold handledCxt
  cases htype : act.msg.msg_type with
  | GET_REPORT => exact absurd htype hreport
  | TRIGGER_REPORT => exact absurd htype htrigger
  | CLEAR_STATS => exact absurd htype hclear
  | GET_THRESHOLD =>
      simp only [bst_type_api_get, bst_get_report, htype, reduceCtorEq, or_self, if_true, if_false]
      exact ⟨rfl, rfl, rfl, rfl⟩
  | SET_FEATURE =>
      obtain ⟨enable, hcxt⟩ := feature_set_cxt cxt act.msg act.env
      have hsame := store_request_same_records cxt act.msg.config act.env
      simp only [bst_type_api_get, hcxt]
      exact ⟨hsame.records, hsame.active, hsame.backup, hsame.current⟩
  | SET_TRACK => exact track_set_same_records cxt act.msg act.env
  | UPDATE_TRACK | UPDATE_FEATURE => exact update_config_same_records cxt act.msg act.env
  | CLEAR_THRESHOLD => exact clear_threshold_same_records cxt act.msg act.env
  | TRIGGER_COLLECT => exact process_trigger_same_records cxt act.msg act.env
  | CLEAR_TRIGGER_COUNT => exact clear_trigger_same_records cxt act.msg act.env
  | SET_THRESHOLD =>
      simp only [bst_type_api_get, threshold_set_cxt]
      exact .refl cxt
  | ENABLE_BST_ON_TRIGGER =>
      simp only [bst_type_api_get, enable_expiry_cxt]
      exact .refl cxt
  | GET_FEATURE | GET_TRACK | MAX => exact .refl cxt

-- What the handler of a message sends out, before the reply.
def handledEffects (act : UnitAction) : List Effect :=
  match bst_type_api_get act.msg.msg_type with
  | none => []
  | some handler => (handler act.msg act.env cxt).effects

theorem enable_on_trigger_effects (msg : BVIEW_BST_REQUEST_MSG) (env : Env)
    (h : msg.msg_type = .TRIGGER_REPORT ∨ msg.msg_type = .ENABLE_BST_ON_TRIGGER) :
    (bst_enable_on_trigger msg env).2 =
      [.sbapi_bst_config_set msg.unit (trigger_mode env.sbapi_bst_config_get.2)
        env.sbapi_bst_config_set] := by
  rcases h with h | h <;> simp [bst_enable_on_trigger, h]

theorem process_trigger_effects (msg : BVIEW_BST_REQUEST_MSG) (env : Env) :
    (bst_process_trigger msg env cxt).effects =
      if send_trigger msg.triggerInfo cxt && env.msgsnd then
        [.bst_send_request (trigger_report_msg msg)]
      else [] := by
  unfold bst_process_trigger
  dsimp only
  cases send_trigger msg.triggerInfo cxt <;> cases env.msgsnd <;> rfl

theorem clear_trigger_effects (msg : BVIEW_BST_REQUEST_MSG) (env : Env) :
    (bst_clear_trigger_count msg env cxt).effects =
      if env.msgsnd then [.bst_send_request (.zeroed .ENABLE_BST_ON_TRIGGER msg.unit)]
      else [] := by
  unfold bst_clear_trigger_count
  dsimp only
  cases env.msgsnd <;> rfl

-- The southbound configurations a message can write, each with the message
-- that writes it.
inductive Writes (act : UnitAction) : BVIEW_BST_CONFIG → Prop where
  | feature (type : act.msg.msg_type = .SET_FEATURE)
      (carries : act.msg.config.configMask.ENABLE = true)
      (got : act.env.sbapi_bst_config_get.1 = .SUCCESS) :
      Writes act (feature_mode act.msg.config
        (store_request act.msg.config act.env cxt).bst_config.config
        act.env.sbapi_bst_config_get.2)
  | track (type : act.msg.msg_type = .SET_TRACK) :
      Writes act (track_mode act.msg.track cxt.bst_config.config
        act.env.sbapi_bst_config_get.2)
  | report (type : act.msg.msg_type = .TRIGGER_REPORT) :
      Writes act (trigger_mode act.env.sbapi_bst_config_get.2)
  | expiry (type : act.msg.msg_type = .ENABLE_BST_ON_TRIGGER)
      (enabled : cxt.bst_config.config.bstEnable = 1) :
      Writes act (trigger_mode act.env.sbapi_bst_config_get.2)

-- What a handler can send out: a southbound configuration, the report request
-- of a trigger, or the re-enable request of the trigger timer.
inductive Sends (act : UnitAction) : Effect → Prop where
  | write (mode : BVIEW_BST_CONFIG) (rv : BVIEW_STATUS) (writes : Writes cxt act mode) :
      Sends act (.sbapi_bst_config_set act.msg.unit mode rv)
  | report (type : act.msg.msg_type = .TRIGGER_COLLECT) :
      Sends act (.bst_send_request (trigger_report_msg act.msg))
  | expiry (type : act.msg.msg_type = .CLEAR_TRIGGER_COUNT) :
      Sends act (.bst_send_request (.zeroed .ENABLE_BST_ON_TRIGGER act.msg.unit))

theorem handled_effect_cases (act : UnitAction) {effect : Effect}
    (hmem : effect ∈ handledEffects cxt act) : Sends cxt act effect := by
  unfold handledEffects at hmem
  cases htype : act.msg.msg_type with
  | TRIGGER_REPORT =>
      simp only [htype, bst_type_api_get, bst_get_report, collect_stats, or_true, if_true,
        enable_on_trigger_effects act.msg act.env (.inl htype), List.mem_singleton] at hmem
      cases hmem
      exact .write _ _ (.report htype)
  | ENABLE_BST_ON_TRIGGER =>
      simp only [htype, bst_type_api_get, bst_enable_on_trigger_timer_expiry] at hmem
      split_ifs at hmem with henabled
      · rw [enable_on_trigger_effects act.msg act.env (.inr htype)] at hmem
        cases List.mem_singleton.mp hmem
        exact .write _ _ (.expiry htype henabled)
      · cases hmem
  | SET_FEATURE =>
      simp only [htype, bst_type_api_get, bst_config_feature_set] at hmem
      split_ifs at hmem with hcarries hgot
      · cases hmem
      · cases hmem
      all_goals
        cases List.mem_singleton.mp hmem
        exact .write _ _ (.feature htype (by simpa using hcarries) (by simpa using hgot))
  | SET_TRACK =>
      simp only [htype, bst_type_api_get, bst_config_track_set] at hmem
      split_ifs at hmem
      · cases hmem
      all_goals
        cases List.mem_singleton.mp hmem
        exact .write _ _ (.track htype)
  | SET_THRESHOLD =>
      simp only [htype, bst_type_api_get, bst_config_threshold_set] at hmem
      split at hmem <;> cases hmem
  | UPDATE_TRACK | UPDATE_FEATURE =>
      simp only [htype, bst_type_api_get, bst_update_config_set] at hmem
      split_ifs at hmem <;> cases hmem
  | TRIGGER_COLLECT =>
      simp only [htype, bst_type_api_get, process_trigger_effects] at hmem
      split_ifs at hmem
      · cases List.mem_singleton.mp hmem
        exact .report htype
      · cases hmem
  | CLEAR_TRIGGER_COUNT =>
      simp only [htype, bst_type_api_get, clear_trigger_effects] at hmem
      split_ifs at hmem
      · cases List.mem_singleton.mp hmem
        exact .expiry htype
      · cases hmem
  | GET_REPORT | GET_THRESHOLD | CLEAR_THRESHOLD | CLEAR_STATS | GET_FEATURE | GET_TRACK | MAX =>
      simp [htype, bst_type_api_get, bst_get_report, collect_stats, get_threshold_record,
        bst_clear_threshold_set, bst_clear_stats_set, bst_config_feature_get,
        bst_config_track_get] at hmem

theorem config_set_cases (act : UnitAction) {unit : Nat} {mode : BVIEW_BST_CONFIG}
    {rv : BVIEW_STATUS} (hmem : .sbapi_bst_config_set unit mode rv ∈ handledEffects cxt act) :
    unit = act.msg.unit ∧ Writes cxt act mode := by
  cases handled_effect_cases cxt act hmem with
  | write _ _ writes => exact ⟨rfl, writes⟩

def Effect.isConfigSet : Effect → Bool
  | .sbapi_bst_config_set .. => true
  | _ => false

def Effect.isReply : Effect → Bool
  | .encode _ | .rest_response_send .. | .rest_response_send_ok _
  | .rest_response_send_error .. => true
  | _ => false

theorem send_response_reply (reply : BVIEW_BST_RESPONSE_MSG) (env : Env) :
    ∀ effect ∈ (bst_send_response reply env).2, effect.isReply = true := by
  have hsend : ∀ effect ∈ (encode_and_send reply env).2, effect.isReply = true := by
    unfold encode_and_send
    split <;> simp [Effect.isReply]
  unfold bst_send_response
  split
  · simp [Effect.isReply]
  · split
    all_goals first | exact hsend | simp [Effect.isReply]

theorem send_response_no_config_set (reply : BVIEW_BST_RESPONSE_MSG) (env : Env) :
    ∀ effect ∈ (bst_send_response reply env).2, effect.isConfigSet = false := by
  intro effect hmem
  have hreply := send_response_reply reply env effect hmem
  cases effect with
  | sbapi_bst_config_set unit mode rv => cases hreply
  | _ => rfl

-- No handler encodes or answers anything.
theorem handled_no_reply (act : UnitAction) :
    ∀ effect ∈ handledEffects cxt act, effect.isReply = false := by
  intro effect hmem
  cases handled_effect_cases cxt act hmem with
  | write | report | expiry => rfl

def handledRv (act : UnitAction) : BVIEW_STATUS :=
  match bst_type_api_get act.msg.msg_type with
  | none => .FAILURE
  | some handler => (handler act.msg act.env cxt).rv

-- The replies that carry a body.
def BVIEW_BST_CMD_API.encoded : BVIEW_BST_CMD_API → Bool
  | .GET_TRACK | .GET_FEATURE | .GET_REPORT | .TRIGGER_REPORT | .GET_THRESHOLD => true
  | _ => false

theorem mem_send_response_encode (reply sent : BVIEW_BST_RESPONSE_MSG) (env : Env) :
    .encode sent ∈ (bst_send_response reply env).2 ↔
      reply.rv = .SUCCESS ∧ reply.msg_type.encoded = true ∧ sent = reply := by
  have hsend : .encode sent ∈ (encode_and_send reply env).2 ↔ sent = reply := by
    unfold encode_and_send
    split <;> simp
  unfold bst_send_response
  by_cases hrv : reply.rv = .SUCCESS
  · rw [if_neg (not_not.mpr hrv)]
    cases htype : reply.msg_type <;> simp [hsend, hrv, BVIEW_BST_CMD_API.encoded]
  · simp [hrv]

def preparedReply (act : UnitAction) : BVIEW_BST_RESPONSE_MSG :=
  (prepare_reply (handled_request cxt act.msg) (handledRv cxt act) (handledCxt cxt act)).1

-- The notifications of the plugin have no reply.
def UnitAction.replies : UnitAction → Bool
  | .app msg _ => decide (msg.msg_type ≠ .UPDATE_TRACK ∧ msg.msg_type ≠ .UPDATE_FEATURE ∧
      msg.msg_type ≠ .MAX)
  | .trigger _ _ => false

theorem unitEmits_eq (act : UnitAction) :
    unitEmits cxt act = handledEffects cxt act ++
      if act.replies then (bst_send_response (preparedReply cxt act) act.env).2 else [] := by
  cases act with
  | trigger msg env =>
      simp only [unitEmits, UnitAction.handle, handle_trigger_message, handledEffects,
        UnitAction.replies, UnitAction.msg, UnitAction.env]
      cases bst_type_api_get msg.msg_type <;> simp
  | app msg env =>
      cases h : msg.msg_type <;>
        simp [unitEmits, UnitAction.handle, handle_message, handledEffects, UnitAction.replies,
          UnitAction.msg, UnitAction.env, h, bst_type_api_get, bst_copy_reply_params,
          preparedReply, handledRv, handledCxt]

-- Southbound writes come from the handlers only, and replies from elsewhere.
theorem mem_unitEmits_config_set (act : UnitAction) (effect : Effect)
    (hset : effect.isConfigSet = true) :
    effect ∈ unitEmits cxt act ↔ effect ∈ handledEffects cxt act := by
  rw [unitEmits_eq, List.mem_append, or_iff_left_iff_imp]
  intro hmem
  split_ifs at hmem
  · have hno := send_response_no_config_set _ _ effect hmem
    exact absurd (hset.symm.trans hno) (by decide)
  · cases hmem

theorem mem_unitEmits_reply (act : UnitAction) (effect : Effect)
    (hreply : effect.isReply = true) :
    effect ∈ unitEmits cxt act ↔
      act.replies = true ∧ effect ∈ (bst_send_response (preparedReply cxt act) act.env).2 := by
  have hno : effect ∉ handledEffects cxt act := fun hmem =>
    absurd (hreply.symm.trans (handled_no_reply cxt act effect hmem)) (by decide)
  rw [unitEmits_eq, List.mem_append, or_iff_right hno]
  split_ifs with hreplies <;> simp [hreplies]

end Handled

section Queues

variable {num_units : Nat} {prop : BVIEW_BST_REQUEST_MSG → Prop}

-- What holds of every message that waits in one of the two queues.
def Queued (prop : BVIEW_BST_REQUEST_MSG → Prop) (state : BVIEW_BST_CXT) : Prop :=
  ∀ msg, msg ∈ state.recvMsgQid ∨ msg ∈ state.recvTriggerMsgQid → prop msg

-- The messages that come from outside the two threads.
def Action.posts : Action → Option BVIEW_BST_REQUEST_MSG
  | .bst_send_request msg => some msg
  | .bst_trigger_send_request msg => some msg
  | _ => none

-- The threads themselves post only the two messages of the trigger limiter.
theorem emits_posted {state : BVIEW_BST_CXT} {act : Action} {msg : BVIEW_BST_REQUEST_MSG}
    (hmem : msg ∈ (emits num_units state act).filterMap Effect.posted) :
    msg.msg_type = .TRIGGER_REPORT ∨ msg.msg_type = .ENABLE_BST_ON_TRIGGER := by
  obtain ⟨effect, hemit, hposted⟩ := List.mem_filterMap.mp hmem
  have hnoreply : effect.isReply = false := by
    cases effect <;> first | rfl | cases hposted
  unfold emits at hemit
  split at hemit
  · rename_i unitAct _
    rw [unitEmits_eq, List.mem_append] at hemit
    rcases hemit with hhandled | hreply
    · cases handled_effect_cases _ _ hhandled with
      | write mode rv writes => cases hposted
      | report type =>
          cases hposted
          exact .inl rfl
      | expiry type =>
          cases hposted
          exact .inr rfl
    · split_ifs at hreply
      · have hyes := send_response_reply _ _ effect hreply
        exact absurd (hnoreply.symm.trans hyes) (by decide)
      · cases hreply
  · split at hemit
    · have hyes := send_response_reply _ _ effect hemit
      exact absurd (hnoreply.symm.trans hyes) (by decide)
    · cases hemit

theorem queued_step {state : BVIEW_BST_CXT} {act : Action} (h : Queued prop state)
    (hposts : ∀ msg, act.posts = some msg → prop msg)
    (hown : ∀ msg, msg.msg_type = .TRIGGER_REPORT ∨ msg.msg_type = .ENABLE_BST_ON_TRIGGER →
      prop msg) : Queued prop (step num_units state act) := by
  intro msg hmem
  cases act with
  | bst_send_request posted =>
      simp only [step, List.mem_append, List.mem_singleton] at hmem
      rcases hmem with (hold | rfl) | hold
      · exact h msg (.inl hold)
      · exact hposts msg rfl
      · exact h msg (.inr hold)
  | bst_trigger_send_request posted =>
      simp only [step, List.mem_append, List.mem_singleton] at hmem
      rcases hmem with hold | hold | rfl
      · exact h msg (.inl hold)
      · exact h msg (.inr hold)
      · exact hposts msg rfl
  | bst_app_main env =>
      simp only [step, List.mem_append] at hmem
      rcases hmem with (hold | hnew) | hold
      · exact h msg (.inl (List.mem_of_mem_tail hold))
      · exact hown msg (emits_posted hnew)
      · exact h msg (.inr hold)
  | bst_trigger_main env =>
      simp only [step, List.mem_append] at hmem
      rcases hmem with (hold | hnew) | hold
      · exact h msg (.inl hold)
      · exact hown msg (emits_posted hnew)
      · exact h msg (.inr (List.mem_of_mem_tail hold))

theorem taken_queued {state : BVIEW_BST_CXT} {act : Action} {unitAct : UnitAction}
    (h : Queued prop state) (htaken : taken num_units state act = some unitAct) :
    prop unitAct.msg := by
  cases act with
  | bst_app_main env =>
      simp only [taken] at htaken
      split at htaken
      · cases htaken
      · rename_i msg rest hqueue
        split_ifs at htaken
        cases htaken
        exact h msg (.inl (by simp [hqueue]))
  | bst_trigger_main env =>
      simp only [taken] at htaken
      split at htaken
      · cases htaken
      · rename_i msg rest hqueue
        split_ifs at htaken
        cases htaken
        exact h msg (.inr (by simp [hqueue]))
  | bst_send_request msg => cases htaken
  | bst_trigger_send_request msg => cases htaken

end Queues

end BroadView.Bst
