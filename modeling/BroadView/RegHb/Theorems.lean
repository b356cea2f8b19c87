import BroadView.RegHb
import Mathlib.Algebra.Group.Int.Defs

namespace BroadView.RegHb

open Transition

-- The condition for a heartbeat that the handler itself tests.
def BVIEW_SYSTEM_UTILS_DATA.Beats (data : BVIEW_SYSTEM_UTILS_DATA) : Prop :=
  data.config.enable = 1 ∧ data.config.interval ≠ 0

-- A request that carries the enable flag carries a flag.
def CarriesFlag (msg : BVIEW_SYSTEM_UTILS_REQUEST_MSG) : Prop :=
  msg.msg_type = .SET_FEATURE → msg.config.carries REG_HB_CONFIG_PARAMS_ENABLE = true →
    msg.config.enable = 0 ∨ msg.config.enable = 1

structure HeartbeatFollows (data : BVIEW_SYSTEM_UTILS_DATA) : Prop where
  enable : data.config.enable = 0 ∨ data.config.enable = 1
  timer : data.heart_beat_timer.Follows data.Beats data.config.period

section Step

variable {msg : BVIEW_SYSTEM_UTILS_REQUEST_MSG} {calls : TimerCalls}
  {data : BVIEW_SYSTEM_UTILS_DATA}

theorem update_timer_config (modifyTimer : Bool) :
    (update_timer modifyTimer calls data).config = data.config := by
  unfold update_timer
  dsimp only
  split_ifs <;> rfl

-- A timer that is not touched has to follow the stored configuration already.
theorem update_timer_follows {modifyTimer : Bool} {wanted : Prop} {period : Int}
    (hcalls : calls.Succeed) (henable : data.config.enable = 0 ∨ data.config.enable = 1)
    (htimer : data.heart_beat_timer.Follows wanted period)
    (hkept : modifyTimer = false → data.Beats → wanted ∧ period = data.config.period) :
    HeartbeatFollows (update_timer modifyTimer calls data) := by
  have hconfig := @update_timer_config calls data modifyTimer
  refine ⟨by rw [hconfig]; exact henable, ?_⟩
  rw [BVIEW_SYSTEM_UTILS_DATA.Beats, hconfig]
  unfold update_timer
  dsimp only
  by_cases hbeats : data.Beats
  · obtain ⟨hon, hinterval⟩ := hbeats
    have hrunning : ¬ (data.config.enable = 0 ∨ data.config.interval = 0) := by
      rw [hon]
      exact fun hstop => hstop.elim (by decide) hinterval
    rw [if_neg hrunning]
    cases modifyTimer with
    | true =>
        rw [if_pos ⟨rfl, hon, hinterval⟩]
        exact restart_follows hcalls htimer ⟨hon, hinterval⟩
    | false =>
        rw [if_neg fun h => Bool.false_ne_true h.1]
        obtain ⟨hwanted, hperiod⟩ := hkept rfl ⟨hon, hinterval⟩
        exact htimer.congr ⟨fun _ => ⟨hon, hinterval⟩, fun _ => hwanted⟩ fun _ => hperiod
  · have hstopped : data.config.enable = 0 ∨ data.config.interval = 0 := by
      by_contra hrunning
      rw [not_or] at hrunning
      exact hbeats ⟨henable.resolve_left hrunning.1, hrunning.2⟩
    rw [if_pos hstopped, if_neg fun h => hbeats h.2]
    exact stop_follows hcalls htimer hbeats

theorem store_config_enable (hflag : msg.config.carries REG_HB_CONFIG_PARAMS_ENABLE = true →
      msg.config.enable = 0 ∨ msg.config.enable = 1)
    (henable : data.config.enable = 0 ∨ data.config.enable = 1) :
    (store_config msg.config data.config).enable = 0 ∨
      (store_config msg.config data.config).enable = 1 := by
  unfold store_config
  dsimp only
  split_ifs with hchanged
  · rw [enableChanged, Bool.and_eq_true] at hchanged
    exact hflag hchanged.1
  · exact henable

theorem feature_set_follows (hcalls : calls.Succeed)
    (hflag : msg.config.carries REG_HB_CONFIG_PARAMS_ENABLE = true →
      msg.config.enable = 0 ∨ msg.config.enable = 1)
    (h : HeartbeatFollows data) :
    HeartbeatFollows (reg_hb_config_feature_set msg calls data).2 := by
  refine update_timer_follows hcalls (store_config_enable hflag h.enable) h.timer ?_
  intro hmodify hbeats
  -- nothing has changed when the timer is not to be modified
  have henable : enableChanged msg.config data.config = false := (Bool.or_eq_false_iff.mp hmodify).1
  have hinterval : intervalChanged msg.config data.config = false := by
    have hzero := (Bool.or_eq_false_iff.mp hmodify).2
    simpa [hbeats.2] using hzero
  have hsame : store_config msg.config data.config = data.config := by
    simp [store_config, henable, hinterval]
  simp only [BVIEW_SYSTEM_UTILS_DATA.Beats, hsame] at hbeats ⊢
  exact ⟨hbeats, trivial⟩

theorem step_follows {num_units : Nat} (hcalls : calls.Succeed) (hflag : CarriesFlag msg)
    (h : HeartbeatFollows data) : HeartbeatFollows (step num_units data (msg, calls)) := by
  unfold step
  split_ifs
  · exact h
  · cases htype : msg.msg_type with
    | SET_FEATURE => exact feature_set_follows hcalls (hflag htype) h
    | GET_FEATURE | GET_SWITCH_PROPERTIES | MAX => exact h

end Step

theorem app_main_follows {calls : TimerCalls} (hcalls : calls.Succeed) :
    HeartbeatFollows (system_utils_app_main calls) := by
  have hbeats : system_utils_main.config.enable = 1 ∧ system_utils_main.config.interval ≠ 0 := by
    decide
  have hidle : system_utils_main.heart_beat_timer.Follows False 0 :=
    ⟨by decide, nofun, fun _ => rfl⟩
  unfold system_utils_app_main
  rw [if_pos hbeats]
  exact ⟨.inr rfl, restart_follows hcalls hidle hbeats⟩

-- The period is the interval in milliseconds as long as that fits an int.
theorem period_eq {config : REG_HB_JSON_CONFIGURE_FEATURE}
    (hlow : -2 ^ 31 ≤ config.interval.toInt * 1000)
    (hhigh : config.interval.toInt * 1000 < 2 ^ 31) :
    config.period = config.interval.toInt * 1000 := by
  have hfactor : BVIEW_SYSTEM_TIME_CONVERSION_FACTOR.toInt = 1000 := by decide
  rw [REG_HB_JSON_CONFIGURE_FEATURE.period, Int32.toInt_mul, hfactor]
  exact Int.bmod_eq_of_le (by omega) (by omega)

-- The condition the REST parser itself puts on a request.
theorem parsed_flag {params : Rest.Params} {command : REG_HB_JSON_CONFIGURE_FEATURE}
    (h : reg_hb_json_configure_feature params = .ok command) :
    command.enable = 0 ∨ command.enable = 1 := by
  simp only [reg_hb_json_configure_feature, Rest.bind_ok_iff] at h
  obtain ⟨enable, henable, interval, -, hcommand⟩ := h
  cases hcommand
  obtain ⟨hlow, hhigh⟩ := Rest.mandatory_range henable
  rw [Int32.le_iff_toInt_le] at hlow hhigh
  change 0 ≤ _ at hlow
  change _ ≤ 1 at hhigh
  have hcases : enable.toInt = 0 ∨ enable.toInt = 1 := by omega
  exact hcases.imp (fun h => Int32.toInt_inj.mp h) fun h => Int32.toInt_inj.mp h

section Runs

variable (num_units : Nat) (calls : TimerCalls)
  (acts : List (BVIEW_SYSTEM_UTILS_REQUEST_MSG × TimerCalls))

-- The data of the application after its start and a list of messages.
def dataAfter : BVIEW_SYSTEM_UTILS_DATA :=
  run (step num_units) (system_utils_app_main calls) acts

theorem heartbeat_timer_follows (hcalls : calls.Succeed)
    (hacts : ∀ act ∈ acts, act.2.Succeed ∧ CarriesFlag act.1) :
    HeartbeatFollows (dataAfter num_units calls acts) ∧
      (-2 ^ 31 ≤ (dataAfter num_units calls acts).config.interval.toInt * 1000 →
        (dataAfter num_units calls acts).config.interval.toInt * 1000 < 2 ^ 31 →
          (dataAfter num_units calls acts).config.period =
            (dataAfter num_units calls acts).config.interval.toInt * 1000) := by
  refine ⟨?_, period_eq⟩
  refine run_invariant HeartbeatFollows ?_ _ acts (app_main_follows hcalls)
    (along_of_mem _ acts hacts)
  rintro data ⟨msg, answers⟩ hfollows ⟨hsucceed, hflag⟩
  exact step_follows hsucceed hflag hfollows

end Runs

section Samples

def sampleCalls : TimerCalls :=
  { timer_create := some 1, timer_settime := true, timer_delete := true }

def sampleParams (name : String) : Option Rest.cJSON :=
  if name = "heartbeat-enable" then some (.number 1)
  else if name = "msg-interval" then some (.number 30)
  else none

def set_feature_msg (config : REG_HB_JSON_CONFIGURE_FEATURE) : BVIEW_SYSTEM_UTILS_REQUEST_MSG :=
  { msg_type := .SET_FEATURE, unit := 0, config }

theorem heartbeat_timer_rearmed :
    ∃ command, reg_hb_json_configure_feature sampleParams = .ok command ∧
      (dataAfter 1 sampleCalls [(set_feature_msg command, sampleCalls)]).heart_beat_timer.live =
        [⟨1, 30000⟩] := by
  refine ⟨_, rfl, ?_⟩
  have hfollows := heartbeat_timer_follows 1 sampleCalls
    [(set_feature_msg ⟨1, 30, 3⟩, sampleCalls)] ⟨rfl, rfl, rfl⟩
    (by
      intro act hact
      cases List.mem_singleton.mp hact
      exact ⟨⟨rfl, rfl, rfl⟩, fun _ _ => @parsed_flag sampleParams _ rfl⟩)
  exact hfollows.1.timer.backed (by decide)

def enable_msg (enable : Int32) : BVIEW_SYSTEM_UTILS_REQUEST_MSG × TimerCalls :=
  (set_feature_msg { enable, interval := 0, configMask := 1 }, sampleCalls)

-- A flag of 2 leaves the timer as it was, so that the stored configuration
-- does not tell whether it is in use, however the flag is read.
theorem heartbeat_flag_ambiguous :
    ¬ ∃ enabled : Int32 → Prop,
      ∀ acts : List (BVIEW_SYSTEM_UTILS_REQUEST_MSG × TimerCalls), (∀ act ∈ acts, act.2.Succeed) →
        ((dataAfter 1 sampleCalls acts).heart_beat_timer.in_use = true ↔
          enabled (dataAfter 1 sampleCalls acts).config.enable ∧
            (dataAfter 1 sampleCalls acts).config.interval ≠ 0) := by
  rintro ⟨enabled, hiff⟩
  have hsucceed : ∀ enable, (enable_msg enable).2.Succeed := fun _ => ⟨rfl, rfl, rfl⟩
  have hon := (hiff [enable_msg 2] (by simp [hsucceed])).mp (by decide)
  have hoff := (hiff [enable_msg 0, enable_msg 2] (by simp [hsucceed])).mpr hon
  revert hoff
  decide

end Samples

end BroadView.RegHb
