import BroadView.Bst.System.Lemmas
import BroadView.Deployment
import BroadView.Ovsdb.Config.Lemmas

namespace BroadView

open Bst Ovsdb Transition

section Configs

-- The configuration that an effect writes.
def Bst.Effect.config : Effect → Option BVIEW_BST_CONFIG
  | .sbapi_bst_config_set _ mode _ => some mode
  | _ => none

theorem filterMap_config_of_no_set {effects : List Effect}
    (h : ∀ effect ∈ effects, effect.isConfigSet = false) :
    effects.filterMap Effect.config = [] := by
  refine List.filterMap_eq_nil_iff.mpr fun effect hmem => ?_
  have hno := h effect hmem
  cases effect with
  | sbapi_bst_config_set unit mode rv => cases hno
  | _ => rfl

-- Only the writes of a configuration reach the plugin.
theorem foldl_configure_eq (effects : List Effect) (plugin : BVIEW_OVSDB_BST_DATA) :
    effects.foldl configure plugin =
      (effects.filterMap Effect.config).foldl (fun plugin mode => writeTo plugin (some mode))
        plugin := by
  induction effects generalizing plugin with
  | nil => rfl
  | cons effect rest ih =>
      rw [List.foldl_cons, ih]
      cases effect with
      | sbapi_bst_config_set unit mode rv => rfl
      | _ => rfl

end Configs

section Handled

variable (cxt : BVIEW_BST_UNIT_CXT) (act : UnitAction)

-- Messages other than these four write no configuration.
theorem handled_no_set (hfeature : act.msg.msg_type ≠ .SET_FEATURE)
    (htrack : act.msg.msg_type ≠ .SET_TRACK) (hreport : act.msg.msg_type ≠ .TRIGGER_REPORT)
    (hexpiry : act.msg.msg_type ≠ .ENABLE_BST_ON_TRIGGER) :
    ∀ effect ∈ handledEffects cxt act, effect.isConfigSet = false := by
  intro effect hmem
  cases effect with
  | sbapi_bst_config_set unit mode rv =>
      cases (config_set_cases cxt act hmem).2 with
      | feature type => exact absurd type hfeature
      | track type => exact absurd type htrack
      | report type => exact absurd type hreport
      | expiry type => exact absurd type hexpiry
  | _ => rfl

-- The handler of a message writes at most one configuration.
theorem handled_configs :
    (handledEffects cxt act).filterMap Effect.config = (written cxt act).toList := by
  cases htype : act.msg.msg_type with
  | SET_FEATURE =>
      simp only [handledEffects, written, htype, bst_type_api_get, bst_config_feature_set]
      by_cases hcarries : act.msg.config.configMask.ENABLE = true
      · by_cases hgot : act.env.sbapi_bst_config_get.1 = .SUCCESS
        · simp [hcarries, hgot, Effect.config]
        · simp [hcarries, hgot]
      · simp [hcarries]
  | SET_TRACK =>
      simp only [handledEffects, written, htype, bst_type_api_get, bst_config_track_set]
      by_cases hchanged : track_config_changed act.msg.track cxt.bst_config.track = true
      · simp [hchanged, Effect.config]
      · simp [hchanged]
  | TRIGGER_REPORT =>
      simp only [handledEffects, written, htype, bst_type_api_get, bst_get_report, collect_stats,
        or_true, if_true, enable_on_trigger_effects act.msg act.env (.inl htype)]
      rfl
  | ENABLE_BST_ON_TRIGGER =>
      simp only [handledEffects, written, htype, bst_type_api_get,
        bst_enable_on_trigger_timer_expiry]
      split_ifs
      · rw [enable_on_trigger_effects act.msg act.env (.inr htype)]
        rfl
      · rfl
  | _ =>
      rw [filterMap_config_of_no_set (handled_no_set cxt act (by simp [htype])
        (by simp [htype]) (by simp [htype]) (by simp [htype]))]
      simp [written, htype]

theorem unit_configs : (unitEmits cxt act).filterMap Effect.config = (written cxt act).toList := by
  have hreply : ∀ replies : Bool,
      (if replies = true then (bst_send_response (preparedReply cxt act) act.env).2
        else []).filterMap Effect.config = [] := by
    intro replies
    refine filterMap_config_of_no_set ?_
    split_ifs
    · exact send_response_no_config_set _ _
    · simp
  rw [unitEmits_eq, List.filterMap_append, handled_configs, hreply, List.append_nil]

end Handled

section Taken

theorem taken_unit {state : BVIEW_BST_CXT} {action : Action} {act : UnitAction}
    (h : taken units state action = some act) : act.msg.unit = 0 := by
  cases action with
  | bst_app_main env =>
      simp only [taken] at h
      split at h
      · cases h
      · split_ifs at h with hunit
        cases h
        exact Nat.lt_one_iff.mp (Nat.lt_of_not_le hunit)
  | bst_trigger_main env =>
      simp only [taken] at h
      split at h
      · cases h
      · split_ifs at h with hunit
        cases h
        refine Nat.lt_one_iff.mp (Nat.lt_of_lt_of_le (Nat.lt_of_not_le hunit) ?_)
        unfold trigger_num_units
        split_ifs
        · exact Nat.le_refl 1
        · exact Nat.zero_le 1
  | bst_send_request msg => cases h
  | bst_trigger_send_request msg => cases h

namespace Deployment

variable (state : Deployment)

-- An action writes what the handler of its message writes.
theorem emitted_configs (action : Action) :
    (emits units state.bst action).filterMap Effect.config =
      ((taken units state.bst action).bind (written (state.bst.unit 0))).toList := by
  unfold emits
  cases htaken : taken units state.bst action with
  | some act =>
      simp only [Option.bind_some, taken_unit htaken]
      exact unit_configs _ act
  | none =>
      simp only [Option.bind_none, Option.toList_none]
      refine filterMap_config_of_no_set ?_
      split
      · exact send_response_no_config_set _ _
      · simp

theorem act_plugin (action : Action) :
    (state.act action).plugin =
      writeTo state.plugin ((taken units state.bst action).bind (written (state.bst.unit 0))) := by
  unfold act
  rw [foldl_configure_eq, emitted_configs]
  cases (taken units state.bst action).bind (written (state.bst.unit 0)) <;> rfl

-- What an event other than an update makes of the plugin.
theorem step_plugin {event : Event} (h : ∀ updates, event ≠ .bst_ovsdb_cache_update updates) :
    (step state event).plugin =
      writeTo state.plugin ((state.handled event).bind (written (state.bst.unit 0))) := by
  cases event with
  | bst_ovsdb_cache_update updates => exact absurd rfl (h updates)
  | app_config_get =>
      simp only [step]
      split_ifs <;> rfl
  | trigger_config_get =>
      simp only [step]
      split_ifs <;> rfl
  | bst_send_request msg => exact state.act_plugin (.bst_send_request msg)
  | bst_trigger_send_request msg => exact state.act_plugin (.bst_trigger_send_request msg)
  | bst_app_main env => exact state.act_plugin (.bst_app_main (answering state.app_got env))
  | bst_trigger_main env =>
      exact state.act_plugin (.bst_trigger_main (answering state.trigger_got env))

-- What the handling of a message makes of it.
theorem handled_plugin {event : Event} {act : UnitAction} (h : state.handled event = some act) :
    (step state event).plugin = writeTo state.plugin (written (state.bst.unit 0) act) := by
  rw [step_plugin state, h, Option.bind_some]
  rintro updates rfl
  cases h

-- The plugin posts its notifications.
theorem run_notices (bst : BVIEW_BST_CXT) (msgs : List BVIEW_BST_REQUEST_MSG) :
    run (Bst.step units) bst (msgs.map .bst_send_request) =
      { bst with recvMsgQid := bst.recvMsgQid ++ msgs } := by
  induction msgs generalizing bst with
  | nil => simp
  | cons msg rest ih => simp [ih, Bst.step, List.append_assoc]

-- Every notification is posted as one of the feature parameters.
theorem notices_coded {notifications : List Int} (h : Coded notifications) :
    notices notifications =
      List.replicate notifications.length (.zeroed .UPDATE_FEATURE 0) := by
  induction notifications with
  | nil => rfl
  | cons id rest ih =>
      have hid := notify_config_change 0 (h id List.mem_cons_self)
      have hrest := ih fun other hother => h other (List.mem_cons_of_mem id hother)
      rw [notices, List.filterMap_cons, hid, List.length_cons, List.replicate_succ, ← hrest]
      rfl

end Deployment

end Taken

end BroadView
