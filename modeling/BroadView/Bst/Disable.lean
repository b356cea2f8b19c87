import BroadView.Bst.System.Lemmas

namespace BroadView.Bst

open Transition

section Step

variable (cxt : BVIEW_BST_UNIT_CXT) (act : UnitAction)

def Disabled : Prop := cxt.bst_config.config.bstEnable = 0

-- A southbound write that turns statistics monitoring of the unit on.
def Effect.Enables (unit : Nat) : Effect → Prop
  | .sbapi_bst_config_set target mode _ => target = unit ∧ mode.enableStatsMonitoring = true
  | _ => False

-- A feature request or an OVSDB update that asks for the feature to be on.
def AsksToEnable : Prop :=
  match act.msg.msg_type with
  | .SET_FEATURE =>
      act.msg.config.configMask.ENABLE = true ∧ act.msg.config.bstEnable ≠ 0
  | .UPDATE_FEATURE =>
      act.env.sbapi_bst_config_get.1 = .SUCCESS ∧
        act.env.sbapi_bst_config_get.2.enableStatsMonitoring = true
  | _ => False

-- A feature request that disables the feature and succeeds.
structure Disables : Prop where
  type : act.msg.msg_type = .SET_FEATURE
  carries : act.msg.config.configMask.ENABLE = true
  value : act.msg.config.bstEnable = 0
  succeeds : (bst_config_feature_set act.msg act.env cxt).rv = .SUCCESS

theorem Effect.Enables.isConfigSet {unit : Nat} {effect : Effect} (h : effect.Enables unit) :
    effect.isConfigSet = true := by
  cases effect with
  | sbapi_bst_config_set target mode rv => rfl
  | _ => cases h

theorem feature_set_disables (h : Disables cxt act) :
    Disabled (bst_config_feature_set act.msg act.env cxt).cxt := by
  have hsucceeds := h.succeeds
  unfold bst_config_feature_set at hsucceeds ⊢
  simp only [h.carries, Bool.true_eq_false, if_false] at hsucceeds ⊢
  split_ifs at hsucceeds ⊢ with hgot
  · exact absurd hsucceeds hgot
  · exact h.value
  · exact absurd hsucceeds ‹_›

theorem unitStep_config :
    (unitStep cxt act).bst_config = (handledCxt cxt act).bst_config := by
  rw [unitStep_eq]
  split_ifs <;> simp

theorem disables_step (h : Disables cxt act) : Disabled (unitStep cxt act) := by
  have hdisabled := feature_set_disables cxt act h
  unfold Disabled at hdisabled ⊢
  rw [unitStep_config]
  simpa only [handledCxt, h.type, bst_type_api_get] using hdisabled

-- No other message stores the enable flag.
theorem disabled_step (hdis : Disabled cxt) (hask : ¬ AsksToEnable act) :
    Disabled (unitStep cxt act) := by
  unfold Disabled at hdis ⊢
  rw [unitStep_config]
  by_cases hset : act.msg.msg_type = .SET_FEATURE
  · have hstored := store_request_enable cxt act.msg.config act.env
    simp only [AsksToEnable, hset, not_and, not_not] at hask
    simp only [handledCxt, hset, bst_type_api_get, bst_config_feature_set]
    split_ifs with hcarries
    · exact hstored.trans hdis
    · exact hstored.trans hdis
    · exact hask (by simpa using hcarries)
    · exact hstored.trans hdis
  by_cases hupdate : act.msg.msg_type = .UPDATE_FEATURE
  · simp only [AsksToEnable, hupdate, not_and, Bool.not_eq_true] at hask
    simp only [handledCxt, hupdate, bst_type_api_get, bst_update_config_set, reduceCtorEq,
      if_true, if_false]
    split_ifs with hgot
    · exact hdis
    · simp [update_feature, setFeature, hask (by simpa using hgot), boolToInt]
  · rw [handled_feature cxt act hset hupdate]
    exact hdis

-- With the feature off, the only handlers that turn monitoring on are the ones
-- of an enabling feature request and of a trigger report.
theorem handled_enables (hdis : Disabled cxt) (hask : ¬ AsksToEnable act) (unit : Nat)
    (effect : Effect) (hmem : effect ∈ handledEffects cxt act) (henables : effect.Enables unit) :
    act.msg.msg_type = .TRIGGER_REPORT := by
  cases effect with
  | sbapi_bst_config_set target mode rv =>
      unfold Disabled at hdis
      have hon := henables.2
      cases (config_set_cases cxt act hmem).2 with
      | feature type carries got =>
          have hasked : act.msg.config.bstEnable ≠ 0 := by simpa [feature_mode] using hon
          exact absurd (by simp [AsksToEnable, type, carries, hasked]) hask
      | track type => simp [track_mode, hdis] at hon
      | report type => exact type
      | expiry type enabled => simp [hdis] at enabled
  | _ => cases henables

theorem handled_target (unit : Nat) (effect : Effect) (hmem : effect ∈ handledEffects cxt act)
    (henables : effect.Enables unit) : act.msg.unit = unit := by
  cases effect with
  | sbapi_bst_config_set target mode rv =>
      exact (config_set_cases cxt act hmem).1.symm.trans henables.1
  | _ => cases henables

theorem trigger_report_enables (htype : act.msg.msg_type = .TRIGGER_REPORT) :
    ∃ effect ∈ handledEffects cxt act, effect.Enables act.msg.unit := by
  refine ⟨.sbapi_bst_config_set act.msg.unit (trigger_mode act.env.sbapi_bst_config_get.2)
    act.env.sbapi_bst_config_set, ?_, rfl, rfl⟩
  simp only [handledEffects, htype, bst_type_api_get, bst_get_report, collect_stats, or_true,
    if_true, enable_on_trigger_effects act.msg act.env (.inl htype)]
  exact List.mem_singleton.mpr rfl

-- With the feature off, monitoring is turned on exactly when a trigger report
-- is handled.
theorem disabled_enables_iff (hdis : Disabled cxt) (hask : ¬ AsksToEnable act) :
    (∃ effect ∈ unitEmits cxt act, effect.Enables act.msg.unit) ↔
      act.msg.msg_type = .TRIGGER_REPORT := by
  constructor
  · rintro ⟨effect, hmem, henables⟩
    have hhandled := (mem_unitEmits_config_set cxt act effect henables.isConfigSet).mp hmem
    exact handled_enables cxt act hdis hask _ effect hhandled henables
  · intro htype
    obtain ⟨effect, hmem, henables⟩ := trigger_report_enables cxt act htype
    exact ⟨effect, (mem_unitEmits_config_set cxt act effect henables.isConfigSet).mpr hmem,
      henables⟩

end Step

section Runs

variable (num_units unit : Nat)

-- A write to a unit is made by a message handled for it.
theorem emits_enables (state : BVIEW_BST_CXT) (act : Action) (effect : Effect)
    (hmem : effect ∈ emits num_units state act) (henables : effect.Enables unit) :
    ∃ unitAct, takenFor num_units unit state act = some unitAct ∧
      effect ∈ unitEmits (state.unit unit) unitAct := by
  unfold emits at hmem
  cases htaken : taken num_units state act with
  | none =>
      rw [htaken] at hmem
      dsimp only at hmem
      split at hmem
      · have hno := send_response_no_config_set _ _ effect hmem
        exact absurd (henables.isConfigSet.symm.trans hno) (by decide)
      · cases hmem
  | some unitAct =>
      rw [htaken] at hmem
      have hhandled := (mem_unitEmits_config_set _ unitAct effect henables.isConfigSet).mp hmem
      have hunit := handled_target _ unitAct unit effect hhandled henables
      subst hunit
      exact ⟨unitAct, by simp [takenFor, htaken], hmem⟩

-- No step of the run turns monitoring of the unit on.
def NeverEnables (state : BVIEW_BST_CXT) (acts : List Action) : Prop :=
  ∀ effect ∈ outputs (step num_units) (emits num_units) state acts, ¬ effect.Enables unit

-- A message that neither asks to enable the feature nor is a trigger report.
def KeepsDisabled (_cxt : BVIEW_BST_UNIT_CXT) (act : UnitAction) : Prop :=
  ¬ AsksToEnable act ∧ act.msg.msg_type ≠ .TRIGGER_REPORT

theorem keeps_disabled_quiet (cxt : BVIEW_BST_UNIT_CXT) (act : UnitAction)
    (hdis : Disabled cxt) (hk : KeepsDisabled cxt act) :
    ∀ effect ∈ unitEmits cxt act, ¬ effect.Enables unit := by
  intro effect hmem henables
  have hhandled := (mem_unitEmits_config_set cxt act effect henables.isConfigSet).mp hmem
  exact hk.2 (handled_enables cxt act hdis hk.1 unit effect hhandled henables)

theorem disabled_run (state : BVIEW_BST_CXT) (acts : List Action)
    (hdis : Disabled (state.unit unit))
    (hkeeps : Along (step num_units) (OnUnit num_units unit KeepsDisabled) state acts) :
    NeverEnables num_units unit state acts := by
  apply outputs_of_along
  have hquiet := unit_along Disabled (fun cxt act hdis hk => disabled_step cxt act hdis hk.1)
    (keeps_disabled_quiet unit) state acts hdis hkeeps
  refine along_mono ?_ state acts hquiet
  intro s a hs effect hmem henables
  obtain ⟨unitAct, htaken, hunit⟩ := emits_enables num_units unit s a effect hmem henables
  exact hs unitAct htaken effect hunit henables

-- After a successful disable no step turns monitoring of the unit on, as long
-- as no trigger report is handled and nobody asks to enable it.
theorem disabled_stays_disabled (state : BVIEW_BST_CXT) (act : Action) (acts : List Action)
    (request : UnitAction) (htaken : takenFor num_units unit state act = some request)
    (hdisables : Disables (state.unit unit) request)
    (hkeeps : Along (step num_units) (OnUnit num_units unit KeepsDisabled)
      (step num_units state act) acts) :
    NeverEnables num_units unit (step num_units state act) acts := by
  apply disabled_run num_units unit _ _ _ hkeeps
  rw [step_unit, htaken]
  exact disables_step _ request hdisables

end Runs

def disable_msg (unit : Nat) : BVIEW_BST_REQUEST_MSG :=
  { BVIEW_BST_REQUEST_MSG.zeroed .SET_FEATURE unit with
    cookie := some 0
    config := { (default : BSTJSON_CONFIGURE_BST_FEATURE) with
      bstEnable := 0
      configMask := { (default : BST_CONFIG_PARAM_MASK) with ENABLE := true } } }

-- The disable request is posted before the trigger arrives.
def disableThenTrigger : List Action :=
  [.bst_send_request (disable_msg 0),
    .bst_trigger_send_request (trigger_collect_msg 0 "device" "data"),
    .bst_trigger_main sampleEnv]

def disabledStart : BVIEW_BST_CXT := run (step 1) sampleStart disableThenTrigger

-- The disable request is posted before the trigger timer expires.
def disableThenExpiry : List Action :=
  [.bst_send_request (disable_msg 0),
    .bst_trigger_send_request (.zeroed .CLEAR_TRIGGER_COUNT 0)]

def expiryStart : BVIEW_BST_CXT := run (step 1) sampleStart disableThenExpiry

-- The trigger thread posts the message that would enable BST again, and the
-- application handles it.
theorem disabled_stays_disabled_after_request :
    NeverEnables 1 0 (step 1 expiryStart (.bst_app_main sampleEnv))
      [.bst_trigger_main sampleEnv, .bst_app_main sampleEnv] := by
  apply disabled_stays_disabled 1 0 expiryStart (.bst_app_main sampleEnv) _
    (.app (disable_msg 0) sampleEnv) rfl ⟨rfl, rfl, rfl, rfl⟩
  have hexpiry : takenFor 1 0 (step 1 expiryStart (.bst_app_main sampleEnv))
      (.bst_trigger_main sampleEnv) =
        some (.trigger (.zeroed .CLEAR_TRIGGER_COUNT 0) sampleEnv) := rfl
  have henable : takenFor 1 0 (step 1 (step 1 expiryStart (.bst_app_main sampleEnv))
      (.bst_trigger_main sampleEnv)) (.bst_app_main sampleEnv) =
        some (.app (.zeroed .ENABLE_BST_ON_TRIGGER 0) sampleEnv) := rfl
  exact ⟨onUnit_of_taken hexpiry ⟨id, nofun⟩, onUnit_of_taken henable ⟨id, nofun⟩, trivial⟩

-- The trigger report queued behind the disable request turns monitoring on
-- again, though no request asks for it.
theorem trigger_report_reenables :
    takenFor 1 0 disabledStart (.bst_app_main sampleEnv) =
        some (.app (disable_msg 0) sampleEnv) ∧
      Disables (disabledStart.unit 0) (.app (disable_msg 0) sampleEnv) ∧
      Along (step 1) (OnUnit 1 0 fun _ act => ¬ AsksToEnable act)
        (step 1 disabledStart (.bst_app_main sampleEnv)) [.bst_app_main sampleEnv] ∧
      ¬ NeverEnables 1 0 (step 1 disabledStart (.bst_app_main sampleEnv))
        [.bst_app_main sampleEnv] := by
  refine ⟨rfl, ⟨rfl, rfl, rfl, rfl⟩, ⟨fun unitAct h => ?_, trivial⟩, ?_⟩
  · cases h
    exact id
  · intro hnever
    exact hnever (.sbapi_bst_config_set 0 (trigger_mode sampleMode) .SUCCESS)
      List.mem_cons_self ⟨rfl, rfl⟩

end BroadView.Bst
