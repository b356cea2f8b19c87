import BroadView.Bst.Feature
import BroadView.Bst.System.Lemmas

namespace BroadView.Bst

open Transition

-- The period a stored configuration asks of the collection timer.
def BSTJSON_CONFIGURE_BST_FEATURE.period (ptr : BSTJSON_CONFIGURE_BST_FEATURE) : Int :=
  ptr.collectionInterval * BVIEW_BST_TIME_CONVERSION_FACTOR

section StoreRequest

variable {request : BSTJSON_CONFIGURE_BST_FEATURE} {env : Env} {cxt : BVIEW_BST_UNIT_CXT}

theorem timer_add_timer :
    (bst_periodic_collection_timer_add env cxt).2.bst_collection_timer =
      (cxt.bst_collection_timer.restart env.timer cxt.bst_config.config.period).2 := rfl

theorem set_async_reports_timer (hasync : request.configMask.SND_ASYNC_REP = true)
    (intervalChanged : Bool) :
    (set_async_reports request intervalChanged env cxt).bst_collection_timer =
      if request.sendAsyncReports = 1 then
        if intervalChanged = true ∨ cxt.bst_config.config.sendAsyncReports ≠ 1 then
          (cxt.bst_collection_timer.restart env.timer cxt.bst_config.config.period).2
        else cxt.bst_collection_timer
      else (cxt.bst_collection_timer.stop env.timer).2 := by
  simp only [set_async_reports, hasync, if_true]
  by_cases hon : request.sendAsyncReports = 1
  · rw [if_pos hon, if_pos hon]
    by_cases hstored : cxt.bst_config.config.sendAsyncReports = 1
    · cases intervalChanged <;> simp [hstored, timer_add_timer]
    · simp only [hstored, ne_eq, not_false_eq_true, decide_true, Bool.or_true, if_true, or_true]
      rfl
  · rw [if_neg hon, if_neg hon]
    rfl

theorem set_async_reports_config (h : CarriesMandatory request) (intervalChanged : Bool) :
    (set_async_reports request intervalChanged env cxt).bst_config.config =
      { cxt.bst_config.config with sendAsyncReports := request.sendAsyncReports } := by
  simp only [set_async_reports, h.async, if_true]
  rcases h.async_range with hoff | hon
  · simp [hoff, bst_periodic_collection_timer_delete, setFeature]
  · by_cases hstored : cxt.bst_config.config.sendAsyncReports = 1
    · cases intervalChanged <;>
        simp [hon, hstored, bst_periodic_collection_timer_add,
          bst_periodic_collection_timer_delete]
      all_goals rw [← hstored]
    · simp [hon, hstored, bst_periodic_collection_timer_add,
        bst_periodic_collection_timer_delete, setFeature]

-- The timer is restarted when reports are switched on or their interval
-- changes, and stopped when the request has them off.
theorem store_request_timer (h : CarriesMandatory request) :
    (store_request request env cxt).bst_collection_timer =
      if request.sendAsyncReports = 1 then
        if cxt.bst_config.config.collectionInterval ≠ request.collectionInterval ∨
            cxt.bst_config.config.sendAsyncReports ≠ 1 then
          (cxt.bst_collection_timer.restart env.timer request.period).2
        else cxt.bst_collection_timer
      else (cxt.bst_collection_timer.stop env.timer).2 := by
  have hperiod : (setFeature (store_early_params request) cxt).bst_config.config.period =
      request.period := by
    simp [BSTJSON_CONFIGURE_BST_FEATURE.period, setFeature, store_early_params, h.interval]
  have htimer : (store_request request env cxt).bst_collection_timer =
      (set_async_reports request
        (request.configMask.COLL_INTRVL &&
          decide (cxt.bst_config.config.collectionInterval ≠ request.collectionInterval)) env
        (setFeature (store_early_params request) cxt)).bst_collection_timer := rfl
  have hchanged : (request.configMask.COLL_INTRVL &&
      decide (cxt.bst_config.config.collectionInterval ≠ request.collectionInterval)) = true ↔
        cxt.bst_config.config.collectionInterval ≠ request.collectionInterval := by
    simp [h.interval]
  rw [htimer, set_async_reports_timer h.async, hperiod]
  simp only [hchanged]
  rfl

theorem store_request_config (h : CarriesMandatory request) :
    (store_request request env cxt).bst_config.config =
      store_late_params request
        { store_early_params request cxt.bst_config.config with
          sendAsyncReports := request.sendAsyncReports } :=
  congrArg (store_late_params request)
    (@set_async_reports_config request env (setFeature (store_early_params request) cxt) h _)

end StoreRequest

section Atomic

-- Every parameter a request carries has its stored value already; full
-- asynchronous reports are stored negated.
@[mk_iff] structure Repeats (request ptr : BSTJSON_CONFIGURE_BST_FEATURE) : Prop where
  async : request.sendAsyncReports = ptr.sendAsyncReports
  interval : request.collectionInterval = ptr.collectionInterval
  percentage : request.configMask.STATS_IN_PERCENT = true →
    request.statsInPercentage = ptr.statsInPercentage
  units : request.statUnitsInCells = ptr.statUnitsInCells
  limit : request.configMask.TGR_RATE_LIMIT = true → request.bstMaxTriggers = ptr.bstMaxTriggers
  snapshot : request.configMask.SND_SNAP_TGR = true →
    request.sendSnapshotOnTrigger = ptr.sendSnapshotOnTrigger
  transmit : request.configMask.TGR_RL_INTVL = true →
    request.triggerTransmitInterval = ptr.triggerTransmitInterval
  incremental : request.configMask.ASYNC_FULL_REP = true →
    (if request.sendIncrementalReport = 0 then 1 else 0) = ptr.sendIncrementalReport

variable {msg : BVIEW_BST_REQUEST_MSG} {env : Env} {cxt : BVIEW_BST_UNIT_CXT}

theorem store_request_repeats_iff {request : BSTJSON_CONFIGURE_BST_FEATURE}
    (h : CarriesMandatory request) :
    (store_request request env cxt).bst_config.config = cxt.bst_config.config ↔
      Repeats request cxt.bst_config.config := by
  rw [store_request_config h, repeats_iff]
  obtain ⟨_, _, _, _, _, _, _, _, _, _⟩ := cxt.bst_config.config
  simp [store_late_params, store_early_params, h.interval, h.units]

theorem feature_set_fails_iff (h : CarriesMandatory msg.config) :
    (bst_config_feature_set msg env cxt).rv ≠ .SUCCESS ↔
      env.sbapi_bst_config_get.1 ≠ .SUCCESS ∨ env.sbapi_bst_config_set ≠ .SUCCESS := by
  by_cases hgot : env.sbapi_bst_config_get.1 = .SUCCESS
  · simp [bst_config_feature_set, h.enable, hgot]
  · simp [bst_config_feature_set, h.enable, hgot]

-- A failed request leaves what it stored and did to the timer in place.
theorem feature_set_fails_cxt (h : CarriesMandatory msg.config)
    (hfail : (bst_config_feature_set msg env cxt).rv ≠ .SUCCESS) :
    (bst_config_feature_set msg env cxt).cxt = store_request msg.config env cxt := by
  rw [feature_set_fails_iff h] at hfail
  by_cases hgot : env.sbapi_bst_config_get.1 = .SUCCESS
  · have hset : env.sbapi_bst_config_set ≠ .SUCCESS := hfail.resolve_left (not_not.mpr hgot)
    simp [bst_config_feature_set, h.enable, hgot, hset]
  · simp [bst_config_feature_set, h.enable, hgot]

-- What a failed feature request may not change.
structure SameFeature (cxt cxt' : BVIEW_BST_UNIT_CXT) : Prop where
  config : cxt'.bst_config.config = cxt.bst_config.config
  in_use : cxt'.bst_collection_timer.in_use = cxt.bst_collection_timer.in_use
  period : cxt'.bst_collection_timer.period = cxt.bst_collection_timer.period

def FeatureSetAtomic (cxt : BVIEW_BST_UNIT_CXT) (act : UnitAction) : Prop :=
  act.msg.msg_type = .SET_FEATURE → Admitted act.msg.config →
    (bst_config_feature_set act.msg act.env cxt).rv ≠ .SUCCESS →
      SameFeature cxt (bst_config_feature_set act.msg act.env cxt).cxt

-- A request whose southbound part fails asks for nothing new, and does not
-- delete a timer that an earlier request failed to delete.
def NothingToRestore (cxt : BVIEW_BST_UNIT_CXT) (act : UnitAction) : Prop :=
  act.msg.msg_type = .SET_FEATURE → Admitted act.msg.config →
    act.env.sbapi_bst_config_get.1 ≠ .SUCCESS ∨ act.env.sbapi_bst_config_set ≠ .SUCCESS →
      Repeats act.msg.config cxt.bst_config.config ∧
        ¬ (act.msg.config.sendAsyncReports = 0 ∧ cxt.bst_collection_timer.in_use = true ∧
          act.env.timer.timer_delete = true)

-- With nothing new asked for, the timer is at most stopped.
theorem store_request_same_iff {request : BSTJSON_CONFIGURE_BST_FEATURE}
    (h : CarriesMandatory request) :
    SameFeature cxt (store_request request env cxt) ↔
      Repeats request cxt.bst_config.config ∧
        ¬ (request.sendAsyncReports = 0 ∧ cxt.bst_collection_timer.in_use = true ∧
          env.timer.timer_delete = true) := by
  have hstop : (cxt.bst_collection_timer.in_use = true ∧ env.timer.timer_delete = true) ∨
      (cxt.bst_collection_timer.stop env.timer).2 = cxt.bst_collection_timer := by
    cases huse : cxt.bst_collection_timer.in_use with
    | false => right; simp [TimerNode.stop, huse]
    | true =>
        cases hdelete : env.timer.timer_delete with
        | false => right; simp [TimerNode.stop, huse, system_timer_delete, hdelete]
        | true => exact .inl ⟨rfl, rfl⟩
  constructor
  · intro hsame
    have hrepeats := (store_request_repeats_iff h).mp hsame.config
    refine ⟨hrepeats, ?_⟩
    rintro ⟨hoff, huse, hdelete⟩
    have hin := hsame.in_use
    rw [store_request_timer h, if_neg (by simp [hoff])] at hin
    simp [TimerNode.stop, huse, system_timer_delete, hdelete] at hin
  · rintro ⟨hrepeats, hkept⟩
    have htimer : (store_request request env cxt).bst_collection_timer =
        cxt.bst_collection_timer := by
      rw [store_request_timer h]
      rcases h.async_range with hoff | hon
      · rw [if_neg (by simp [hoff])]
        exact hstop.resolve_left fun hdeleted => hkept ⟨hoff, hdeleted⟩
      · have hstored : cxt.bst_config.config.sendAsyncReports = 1 := hrepeats.async ▸ hon
        rw [if_pos hon, if_neg (by simp [hrepeats.interval, hstored])]
    exact ⟨(store_request_repeats_iff h).mpr hrepeats, by rw [htimer], by rw [htimer]⟩

theorem feature_set_same_iff (act : UnitAction) :
    FeatureSetAtomic cxt act ↔ NothingToRestore cxt act := by
  unfold FeatureSetAtomic NothingToRestore
  refine imp_congr_right fun _ => imp_congr_right fun hadmitted => ?_
  have hcarries := hadmitted.carries
  rw [← @feature_set_fails_iff _ _ cxt hcarries]
  refine imp_congr_right fun hfail => ?_
  rw [feature_set_fails_cxt hcarries hfail, store_request_same_iff hcarries]

theorem feature_set_atomic_iff (num_units unit : Nat) (state : BVIEW_BST_CXT)
    (acts : List Action) :
    Along (step num_units) (OnUnit num_units unit FeatureSetAtomic) state acts ↔
      Along (step num_units) (OnUnit num_units unit NothingToRestore) state acts := by
  have hcond : FeatureSetAtomic = NothingToRestore :=
    funext fun cxt => funext fun act => propext (feature_set_same_iff act)
  rw [hcond]

def failedConfigSet : Env := { sampleEnv with sbapi_bst_config_set := .FAILURE }

-- The four mandatory parameters, with a collection interval of 30 seconds.
def sampleFeatureParams (sendAsyncReports : Int32) (name : String) : Option Rest.cJSON :=
  if name = "bst-enable" ∨ name = "stat-units-in-cells" then some (.number 1)
  else if name = "send-async-reports" then some (.number sendAsyncReports)
  else if name = "collection-interval" then some (.number 30)
  else none

def sampleFeature (sendAsyncReports : Int) : BSTJSON_CONFIGURE_BST_FEATURE :=
  { (default : BSTJSON_CONFIGURE_BST_FEATURE) with
    bstEnable := 1
    sendAsyncReports
    collectionInterval := 30
    statUnitsInCells := 1
    configMask := { (default : BST_CONFIG_PARAM_MASK) with
      ENABLE := true, SND_ASYNC_REP := true, COLL_INTRVL := true, STATS_UNITS := true } }

def sample_set_feature (sendAsyncReports : Int) : BVIEW_BST_REQUEST_MSG :=
  { BVIEW_BST_REQUEST_MSG.zeroed .SET_FEATURE 0 with config := sampleFeature sendAsyncReports }

-- The new interval stays stored although the southbound write failed.
theorem failed_set_keeps_interval :
    ¬ Along (step 1) (OnUnit 1 0 FeatureSetAtomic) sampleStart
      [.bst_send_request (sample_set_feature 0), .bst_app_main failedConfigSet] := by
  rintro ⟨-, hatomic, -⟩
  have hsame := hatomic _ rfl rfl ⟨sampleFeatureParams 0, rfl⟩ (by decide)
  have hconfig := congrArg BSTJSON_CONFIGURE_BST_FEATURE.collectionInterval hsame.config
  revert hconfig
  decide

end Atomic

section Follows

variable (cxt : BVIEW_BST_UNIT_CXT)

theorem get_report_collection_timer (msg : BVIEW_BST_REQUEST_MSG) (env : Env) :
    (bst_get_report msg env cxt).cxt.bst_collection_timer = cxt.bst_collection_timer := by
  unfold bst_get_report
  split_ifs
  · rw [collect_stats_cxt]
    rfl
  · rfl
  · rfl

-- Only a feature request touches the collection timer.
theorem handled_collection_timer (act : UnitAction) (hset : act.msg.msg_type ≠ .SET_FEATURE) :
    (handledCxt cxt act).bst_collection_timer = cxt.bst_collection_timer := by
  unfold handledCxt
  cases htype : act.msg.msg_type with
  | SET_FEATURE => exact absurd htype hset
  | SET_TRACK =>
      simp only [bst_type_api_get, bst_config_track_set]
      split_ifs <;> rfl
  | UPDATE_TRACK | UPDATE_FEATURE =>
      simp only [bst_type_api_get, bst_update_config_set]
      split_ifs <;> rfl
  | SET_THRESHOLD => simp only [bst_type_api_get, threshold_set_cxt]
  | CLEAR_THRESHOLD =>
      simp only [bst_type_api_get, bst_clear_threshold_set]
      split_ifs <;> rfl
  | GET_REPORT | TRIGGER_REPORT | GET_THRESHOLD =>
      simp only [bst_type_api_get, get_report_collection_timer]
  | ENABLE_BST_ON_TRIGGER => simp only [bst_type_api_get, enable_expiry_cxt]
  | TRIGGER_COLLECT =>
      simp only [bst_type_api_get, bst_process_trigger, bst_trigger_timer_add]
      split_ifs <;> rfl
  | CLEAR_TRIGGER_COUNT =>
      simp only [bst_type_api_get, bst_clear_trigger_count]
      split_ifs <;> rfl
  | CLEAR_STATS | GET_FEATURE | GET_TRACK | MAX => rfl

-- A feature notification leaves the two parameters behind the timer.
theorem handled_async (act : UnitAction) (hset : act.msg.msg_type ≠ .SET_FEATURE) :
    (handledCxt cxt act).bst_config.config.sendAsyncReports =
        cxt.bst_config.config.sendAsyncReports ∧
      (handledCxt cxt act).bst_config.config.collectionInterval =
        cxt.bst_config.config.collectionInterval := by
  by_cases hupdate : act.msg.msg_type = .UPDATE_FEATURE
  · simp only [handledCxt, hupdate, bst_type_api_get, bst_update_config_set]
    constructor <;> split_ifs <;> rfl
  · rw [handled_feature cxt act hset hupdate]
    exact ⟨rfl, rfl⟩

variable {cxt}

-- The interval stays in the range the REST parser checks, and the timer runs
-- at it while asynchronous reports are on.
structure CollectionFollows (cxt : BVIEW_BST_UNIT_CXT) : Prop where
  interval : 0 ≤ cxt.bst_config.config.collectionInterval ∧
    cxt.bst_config.config.collectionInterval ≤ 600
  timer : cxt.bst_collection_timer.Follows (cxt.bst_config.config.sendAsyncReports = 1)
    cxt.bst_config.config.period

theorem CollectionFollows.of_same {cxt' : BVIEW_BST_UNIT_CXT} (h : CollectionFollows cxt)
    (htimer : cxt'.bst_collection_timer = cxt.bst_collection_timer)
    (hasync : cxt'.bst_config.config.sendAsyncReports = cxt.bst_config.config.sendAsyncReports)
    (hinterval : cxt'.bst_config.config.collectionInterval =
      cxt.bst_config.config.collectionInterval) : CollectionFollows cxt' := by
  refine ⟨by rw [hinterval]; exact h.interval, ?_⟩
  rw [htimer, hasync, BSTJSON_CONFIGURE_BST_FEATURE.period, hinterval]
  exact h.timer

theorem store_request_follows {request : BSTJSON_CONFIGURE_BST_FEATURE} {env : Env}
    (hcarries : CarriesMandatory request) (hcalls : env.timer.Succeed)
    (h : CollectionFollows cxt) : CollectionFollows (store_request request env cxt) := by
  have hconfig := @store_request_config _ env cxt hcarries
  have hinterval : (store_request request env cxt).bst_config.config.collectionInterval =
      request.collectionInterval := by
    rw [hconfig]
    simp [store_late_params, store_early_params, hcarries.interval]
  have hasync : (store_request request env cxt).bst_config.config.sendAsyncReports =
      request.sendAsyncReports := by
    rw [hconfig]
    rfl
  have hperiod : (store_request request env cxt).bst_config.config.period = request.period :=
    congrArg (· * BVIEW_BST_TIME_CONVERSION_FACTOR) hinterval
  refine ⟨by rw [hinterval]; exact hcarries.interval_range, ?_⟩
  rw [store_request_timer hcarries, hasync, hperiod]
  by_cases hon : request.sendAsyncReports = 1
  · rw [if_pos hon]
    by_cases hchange : cxt.bst_config.config.collectionInterval ≠ request.collectionInterval ∨
        cxt.bst_config.config.sendAsyncReports ≠ 1
    · rw [if_pos hchange]
      exact restart_follows hcalls h.timer hon
    · rw [if_neg hchange]
      rw [not_or, not_not, not_not] at hchange
      obtain ⟨hsame, hstored⟩ := hchange
      refine h.timer.congr ⟨fun _ => hon, fun _ => hstored⟩ fun _ => ?_
      rw [BSTJSON_CONFIGURE_BST_FEATURE.period, hsame]
      rfl
  · rw [if_neg hon]
    exact stop_follows hcalls h.timer hon

theorem unitStep_follows (act : UnitAction) (hcalls : act.env.timer.Succeed)
    (hadmitted : act.msg.msg_type = .SET_FEATURE → Admitted act.msg.config)
    (h : CollectionFollows cxt) : CollectionFollows (unitStep cxt act) := by
  have hhandled : CollectionFollows (handledCxt cxt act) := by
    by_cases hset : act.msg.msg_type = .SET_FEATURE
    · obtain ⟨enable, hcxt⟩ := feature_set_cxt cxt act.msg act.env
      have hstored := store_request_follows (hadmitted hset).carries hcalls h
      simp only [handledCxt, hset, bst_type_api_get, hcxt]
      exact hstored.of_same rfl rfl rfl
    · obtain ⟨hasync, hinterval⟩ := handled_async cxt act hset
      exact h.of_same (handled_collection_timer cxt act hset) hasync hinterval
  rw [unitStep_eq]
  split_ifs
  · exact hhandled.of_same rfl rfl rfl
  · exact hhandled

-- Reports and the timer start off, the interval at its default.
theorem config_init_follows (unit : Nat) (env : Env) (asic : BVIEW_ASIC_CAPABILITIES) :
    CollectionFollows (bst_app_config_init unit env (allocated asic)).cxt := by
  have hrange : 0 ≤ BVIEW_BST_DEFAULT_INTERVAL ∧ BVIEW_BST_DEFAULT_INTERVAL ≤ 600 := by decide
  have hoff : false = true ↔ BVIEW_BST_PERIODIC_REPORT_DEFAULT = 1 := by decide
  exact ⟨hrange, hoff, nofun, fun _ => rfl⟩

-- The requests that come from outside carry what the REST parser admits.
def PostsAdmitted (act : Action) : Prop :=
  ∀ msg, act.posts = some msg → msg.msg_type = .SET_FEATURE → Admitted msg.config

theorem collection_timer_follows (num_units unit : Nat) (asic : Nat → BVIEW_ASIC_CAPABILITIES)
    (env : Nat → Env) (acts : List Action)
    (hcalls : ∀ act ∈ acts, ∀ env, act.env = some env → env.timer.Succeed)
    (hposts : ∀ act ∈ acts, PostsAdmitted act) :
    CollectionFollows ((run (step num_units) (bst_main asic env) acts).unit unit) := by
  have hinit : Queued (fun msg => msg.msg_type = .SET_FEATURE → Admitted msg.config)
      (bst_main asic env) ∧ CollectionFollows ((bst_main asic env).unit unit) := by
    refine ⟨fun msg hmem => ?_, config_init_follows unit (env unit) (asic unit)⟩
    rcases hmem with hmem | hmem <;> cases hmem
  have hcond := @along_of_mem _ _ (step num_units) _ (bst_main asic env) acts
    fun act hact => And.intro (hcalls act hact) (hposts act hact)
  refine (run_invariant
    (fun s => Queued (fun msg => msg.msg_type = .SET_FEATURE → Admitted msg.config) s ∧
      CollectionFollows (s.unit unit)) ?_ _ acts hinit hcond).2
  rintro state act ⟨hqueued, hfollows⟩ ⟨hsucceed, hadmitted⟩
  refine ⟨queued_step hqueued hadmitted ?_, ?_⟩
  · rintro msg (htype | htype) hset <;> rw [htype] at hset <;> cases hset
  · rw [step_unit]
    cases htaken : takenFor num_units unit state act with
    | none => exact hfollows
    | some unitAct =>
        have hact := (takenFor_eq htaken).1
        exact unitStep_follows unitAct (hsucceed _ (taken_env hact)) (taken_queued hqueued hact)
          hfollows

def reportsSwitchedOn : List Action :=
  [.bst_send_request (sample_set_feature 1), .bst_app_main sampleEnv]

theorem collection_timer_follows_switch :
    ((run (step 1) sampleStart reportsSwitchedOn).unit 0).bst_collection_timer.in_use = true ∧
      ((run (step 1) sampleStart reportsSwitchedOn).unit 0).bst_collection_timer.live =
        [⟨1, 30000⟩] := by
  have hfollows := collection_timer_follows 1 0 (fun _ => sampleAsic) (fun _ => sampleEnv)
    reportsSwitchedOn
    (by
      intro act hact env henv
      simp only [reportsSwitchedOn, List.mem_cons, List.not_mem_nil, or_false] at hact
      rcases hact with rfl | rfl <;> cases henv
      exact sampleEnv_timer)
    (by
      intro act hact msg hposts _
      simp only [reportsSwitchedOn, List.mem_cons, List.not_mem_nil, or_false] at hact
      rcases hact with rfl | rfl <;> cases hposts
      exact ⟨sampleFeatureParams 1, rfl⟩)
  have huse := hfollows.timer.in_use.mpr (by decide)
  exact ⟨huse, hfollows.timer.backed huse⟩

end Follows

end BroadView.Bst
