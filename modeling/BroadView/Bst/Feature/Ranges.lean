import BroadView.Bst.Feature.RoundTrip

namespace BroadView.Bst

open Transition Rest

def IsSwitch (value : Int) : Prop := value = 0 ∨ value = 1

-- The ranges of the stored parameters. The limit of triggers may be set by the plugin
-- to any int, and so may the snapshot switch.
structure InRange (config : BSTJSON_CONFIGURE_BST_FEATURE) : Prop where
  enable : IsSwitch config.bstEnable
  async : IsSwitch config.sendAsyncReports
  interval : 0 ≤ config.collectionInterval ∧ config.collectionInterval ≤ 600
  units : IsSwitch config.statUnitsInCells
  incremental : IsSwitch config.sendIncrementalReport
  percentage : IsSwitch config.statsInPercentage
  transmit : 1 ≤ config.triggerTransmitInterval ∧ config.triggerTransmitInterval ≤ 60
  snapshot : IsCInt config.sendSnapshotOnTrigger

section Admitted

variable {params : Params} {name : String} {low high value : Int32} {option : Option Int32}
  {request : BSTJSON_CONFIGURE_BST_FEATURE}

theorem mandatory_switch (h : mandatory params name 0 1 = .ok value) : IsSwitch value.toInt := by
  obtain ⟨hlow, hhigh⟩ := mandatory_range h
  rw [Int32.le_iff_toInt_le] at hlow hhigh
  change 0 ≤ _ at hlow
  change _ ≤ 1 at hhigh
  unfold IsSwitch
  omega

theorem optional_range (h : Rest.optional params name low high = .ok option)
    (hcarried : option.isSome = true) : low ≤ option.getD 0 ∧ option.getD 0 ≤ high := by
  unfold Rest.optional at h
  split at h
  · cases h
    cases hcarried
  · cases hvalue : mandatory params name low high with
    | error err =>
        rw [hvalue] at h
        cases h
    | ok value =>
        rw [hvalue] at h
        cases h
        exact mandatory_range hvalue

-- The ranges of the parameters that a request carries.
structure CarriesInRange (request : BSTJSON_CONFIGURE_BST_FEATURE) : Prop where
  enable : IsSwitch request.bstEnable
  units : IsSwitch request.statUnitsInCells
  percentage : IsSwitch request.statsInPercentage
  snapshot : IsSwitch request.sendSnapshotOnTrigger
  transmit : request.configMask.TGR_RL_INTVL = true →
    1 ≤ request.triggerTransmitInterval ∧ request.triggerTransmitInterval ≤ 60

theorem Admitted.inRange (h : Admitted request) : CarriesInRange request := by
  obtain ⟨params, hparse⟩ := h
  simp only [bstjson_configure_bst_feature, bind_ok_iff] at hparse
  obtain ⟨_, henable, _, -, _, -, _, hunits, hparse⟩ := hparse
  obtain ⟨_, -, _, hsnapshot, _, htransmit, _, -, _, hpercent, hparse⟩ := hparse
  cases hparse
  refine ⟨mandatory_switch henable, mandatory_switch hunits, optional_switch hpercent,
    optional_switch hsnapshot, fun hcarried => ?_⟩
  obtain ⟨hlow, hhigh⟩ := optional_range htransmit hcarried
  rw [Int32.le_iff_toInt_le] at hlow hhigh
  exact ⟨hlow, hhigh⟩

end Admitted

section Stored

variable {request : BSTJSON_CONFIGURE_BST_FEATURE} {msg : BVIEW_BST_REQUEST_MSG} {env : Env}
  {cxt : BVIEW_BST_UNIT_CXT}

theorem isSwitch_isCInt {value : Int} (h : IsSwitch value) : IsCInt value := by
  unfold IsSwitch at h
  unfold IsCInt
  omega

theorem store_request_inRange (hrequest : Admitted request)
    (hcxt : InRange cxt.bst_config.config) :
    InRange (store_request request env cxt).bst_config.config := by
  have hcarries := hrequest.carries
  have hrange := hrequest.inRange
  rw [store_request_config hcarries]
  constructor
  · exact hcxt.enable
  · exact hcarries.async_range
  · simp only [store_late_params, store_early_params, hcarries.interval, if_true]
    exact hcarries.interval_range
  · simp only [store_late_params, hcarries.units, if_true]
    exact hrange.units
  · simp only [store_late_params, store_early_params]
    split_ifs
    · exact .inr rfl
    · exact .inl rfl
    · exact hcxt.incremental
  · simp only [store_late_params, store_early_params]
    split_ifs
    · exact hrange.percentage
    · exact hcxt.percentage
  · simp only [store_late_params, store_early_params]
    split_ifs with hmask
    · exact hrange.transmit hmask
    · exact hcxt.transmit
  · simp only [store_late_params, store_early_params]
    split_ifs
    · exact isSwitch_isCInt hrange.snapshot
    · exact hcxt.snapshot

theorem feature_set_inRange (hrequest : Admitted msg.config)
    (hcxt : InRange cxt.bst_config.config) :
    InRange (bst_config_feature_set msg env cxt).cxt.bst_config.config := by
  have hstored := @store_request_inRange _ env cxt hrequest hcxt
  by_cases hok : (bst_config_feature_set msg env cxt).rv = .SUCCESS
  · rw [feature_set_config hrequest.carries hok]
    exact { hstored with enable := hrequest.inRange.enable }
  · rw [feature_set_fails_cxt hrequest.carries hok]
    exact hstored

-- The plugin reports a C int.
def PluginCInt (env : Env) : Prop := IsCInt env.sbapi_bst_config_get.2.sendSnapshotOnTrigger

theorem boolToInt_isSwitch (b : Bool) : IsSwitch (boolToInt b) := by
  cases b
  · exact .inl rfl
  · exact .inr rfl

theorem update_feature_inRange (hplugin : PluginCInt env) (hcxt : InRange cxt.bst_config.config) :
    InRange (bst_update_config_set msg env cxt).cxt.bst_config.config := by
  have hupdate : InRange (update_feature env.sbapi_bst_config_get.2 cxt).bst_config.config :=
    { hcxt with enable := boolToInt_isSwitch _, snapshot := hplugin }
  unfold bst_update_config_set
  dsimp only
  split_ifs
  · exact hcxt
  · exact hupdate
  · exact hcxt
  · exact hupdate
  · exact hcxt

-- What is handled for a unit: requests that the REST parser has admitted, and
-- notifications.
def FeatureInputs (_cxt : BVIEW_BST_UNIT_CXT) (act : UnitAction) : Prop :=
  (act.msg.msg_type = .SET_FEATURE → Admitted act.msg.config) ∧
    (act.msg.msg_type = .UPDATE_FEATURE → PluginCInt act.env)

theorem unitStep_inRange (act : UnitAction) (hcxt : InRange cxt.bst_config.config)
    (hinputs : FeatureInputs cxt act) : InRange (unitStep cxt act).bst_config.config := by
  rw [unitStep_feature]
  by_cases hset : act.msg.msg_type = .SET_FEATURE
  · have hhandled : handledCxt cxt act = (bst_config_feature_set act.msg act.env cxt).cxt := by
      simp [handledCxt, hset, bst_type_api_get]
    rw [hhandled]
    exact feature_set_inRange (hinputs.1 hset) hcxt
  · by_cases hupdate : act.msg.msg_type = .UPDATE_FEATURE
    · have hhandled : handledCxt cxt act = (bst_update_config_set act.msg act.env cxt).cxt := by
        simp [handledCxt, hupdate, bst_type_api_get]
      rw [hhandled]
      exact update_feature_inRange (hinputs.2 hupdate) hcxt
    · rw [handled_feature cxt act hset hupdate]
      exact hcxt

theorem init_inRange (unit : Nat) (asic : BVIEW_ASIC_CAPABILITIES) (hplugin : PluginCInt env) :
    InRange (bst_app_config_init unit env (allocated asic)).cxt.bst_config.config := by
  refine ⟨boolToInt_isSwitch _, .inl rfl, ?_, .inr rfl, .inr rfl, .inl rfl, ?_, hplugin⟩
  · simp only [bst_app_config_init, defaultFeature]
    decide
  · simp only [bst_app_config_init, defaultFeature]
    decide

theorem InRange.storesCInts (h : InRange cxt.bst_config.config) : StoresCInts cxt := by
  have hnegated : IsCInt (if cxt.bst_config.config.sendIncrementalReport = 0 then 1 else 0) := by
    unfold IsCInt
    split_ifs <;> omega
  have hinterval := h.interval
  have htransmit := h.transmit
  have htriggers : IsCInt cxt.bst_config.config.bstMaxTriggers.toInt :=
    ⟨Int32.le_toInt _, Int32.toInt_le _⟩
  simp only [StoresCInts, featureParams, List.forall_mem_cons, List.not_mem_nil, false_implies,
    implies_true, and_true]
  refine ⟨isSwitch_isCInt h.enable, isSwitch_isCInt h.async, ?_, isSwitch_isCInt h.units,
    htriggers, h.snapshot, ?_, hnegated, isSwitch_isCInt h.percentage⟩
  · unfold IsCInt
    omega
  · unfold IsCInt
    omega

end Stored

-- Whatever is asked for, the parameters of a unit stay within the ranges that the
-- REST parser checks, but for the two that the plugin sets.
theorem stored_in_range {num_units unit : Nat} {asic : Nat → BVIEW_ASIC_CAPABILITIES}
    {env : Nat → Env} (hplugin : PluginCInt (env unit)) (acts : List Action)
    (hinputs : Along (step num_units) (OnUnit num_units unit FeatureInputs)
      (bst_main asic env) acts) :
    InRange ((run (step num_units) (bst_main asic env) acts).unit unit).bst_config.config ∧
      StoresCInts ((run (step num_units) (bst_main asic env) acts).unit unit) := by
  have hrange := unit_invariant (fun cxt => InRange cxt.bst_config.config)
    (fun cxt act hcxt hact => unitStep_inRange act hcxt hact) (bst_main asic env) acts
    (init_inRange unit (asic unit) hplugin) hinputs
  exact ⟨hrange, hrange.storesCInts⟩

theorem sample_stored_in_range :
    InRange ((run (step 1) sampleStart [.bst_send_request full_report_request,
        .bst_app_main sampleEnv]).unit 0).bst_config.config ∧
      StoresCInts ((run (step 1) sampleStart [.bst_send_request full_report_request,
        .bst_app_main sampleEnv]).unit 0) := by
  refine stored_in_range (by unfold PluginCInt IsCInt; decide) _ ⟨fun _ h => ?_, fun act h => ?_,
    trivial⟩
  · cases h
  · cases h
    exact ⟨fun _ => ⟨fullReportParams, rfl⟩, fun h => by cases h⟩

end BroadView.Bst
