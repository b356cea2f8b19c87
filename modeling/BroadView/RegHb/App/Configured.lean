import BroadView.RegHb.App.Theorems

-- What a client reads after it has configured the heartbeat.
namespace BroadView.RegHb

open Bst CJson Json Transition Rest

section Data

variable {num_units : Nat} {data : BVIEW_SYSTEM_UTILS_DATA} {calls : TimerCalls}
  {msg : BVIEW_SYSTEM_UTILS_REQUEST_MSG} {params : Params}
  {command : REG_HB_JSON_CONFIGURE_FEATURE}

-- A request that is read carries both parameters, with the values that they have in it.
theorem parsed_values (h : reg_hb_json_configure_feature params = .ok command) :
    mandatory params "heartbeat-enable" 0 1 = .ok command.enable ∧
      mandatory params "msg-interval" BVIEW_REG_HB_TIME_MIN BVIEW_REG_HB_TIME_MAX =
        .ok command.interval ∧
      command.carries REG_HB_CONFIG_PARAMS_ENABLE = true ∧
      command.carries REG_HB_CONFIG_PARAMS_INTRVL = true := by
  simp only [reg_hb_json_configure_feature, bind_ok_iff] at h
  obtain ⟨enable, henable, interval, hinterval, hcommand⟩ := h
  cases hcommand
  refine ⟨henable, hinterval, ?_, ?_⟩
  all_goals
    rw [REG_HB_JSON_CONFIGURE_FEATURE.carries, decide_eq_true_iff]
    dsimp only
    decide

theorem store_config_carried {request ptr : REG_HB_JSON_CONFIGURE_FEATURE}
    (henable : request.carries REG_HB_CONFIG_PARAMS_ENABLE = true)
    (hinterval : request.carries REG_HB_CONFIG_PARAMS_INTRVL = true) :
    (store_config request ptr).read = request.read := by
  have hkept : (store_config request ptr).enable = request.enable := by
    by_cases hsame : ptr.enable = request.enable
    · simp [store_config, enableChanged, hsame]
    · simp [store_config, enableChanged, henable, hsame]
  have hkept' : (store_config request ptr).interval = request.interval := by
    by_cases hsame : ptr.interval = request.interval
    · simp [store_config, intervalChanged, hsame]
    · simp [store_config, intervalChanged, hinterval, hsame]
  rw [REG_HB_JSON_CONFIGURE_FEATURE.read, hkept, hkept', REG_HB_JSON_CONFIGURE_FEATURE.read]

theorem step_stores (htype : msg.msg_type = .SET_FEATURE) (hunit : msg.unit < num_units)
    (hparse : reg_hb_json_configure_feature params = .ok msg.config) :
    (step num_units data (msg, calls)).config.read = msg.config.read := by
  obtain ⟨-, -, henable, hinterval⟩ := parsed_values hparse
  have hstep : step num_units data (msg, calls) = (reg_hb_config_feature_set msg calls data).2 := by
    rw [step, if_neg (Nat.not_le.mpr hunit), htype]
    rfl
  rw [hstep, reg_hb_config_feature_set, update_timer_config]
  exact store_config_carried henable hinterval

theorem step_keeps (htype : msg.msg_type ≠ .SET_FEATURE) :
    (step num_units data (msg, calls)).config = data.config := by
  unfold step
  split_ifs
  · rfl
  · cases hmsg : msg.msg_type with
    | SET_FEATURE => exact absurd hmsg htype
    | GET_FEATURE | GET_SWITCH_PROPERTIES | MAX => rfl

theorem steps_keep {acts : List (BVIEW_SYSTEM_UTILS_REQUEST_MSG × TimerCalls)}
    (h : ∀ act ∈ acts, act.1.msg_type ≠ .SET_FEATURE) :
    (run (step num_units) data acts).config = data.config := by
  refine run_invariant (fun data' => data'.config = data.config) ?_ data acts rfl
    (along_of_mem data acts h)
  rintro data' ⟨msg, calls⟩ hsame hother
  rw [step_keeps hother, hsame]

end Data

section Thread

variable {arith : Arithmetic} {whole : Nat → arith.Double} {localtime : Int → Tm}
  {num_units : Nat} {cxt : BVIEW_SYSTEM_UTILS_CXT} {act : Action}

-- No other request to configure the heartbeat is handled.
def KeepsFeature (cxt : BVIEW_SYSTEM_UTILS_CXT) (act : Action) : Prop :=
  ∀ msg ∈ taken cxt act, msg.msg_type ≠ .SET_FEATURE

theorem steps_messages (cxt : BVIEW_SYSTEM_UTILS_CXT) (act : Action) :
    (steps cxt act).map Prod.fst =
      (taken cxt act).map Message.toBVIEW_SYSTEM_UTILS_REQUEST_MSG := by
  cases act with
  | system_utils_send_request | reg_hb_timer_cb => rfl
  | system_utils_app_main turn => exact List.map_map

theorem serves_keeps (hserves : Serves arith localtime num_units cxt act)
    (hkeeps : KeepsFeature cxt act) :
    (appStep localtime num_units cxt act).data.config = cxt.data.config := by
  rw [hserves.data]
  refine steps_keep fun step hstep => ?_
  have hmem := List.mem_map_of_mem (f := Prod.fst) hstep
  rw [steps_messages] at hmem
  obtain ⟨msg, hmsg, heq⟩ := List.mem_map.mp hmem
  rw [← heq]
  exact hkeeps msg hmsg

-- The answers to the requests for the feature show this configuration.
def Shows (arith : Arithmetic) (localtime : Int → Tm) (num_units : Nat) (config : ReadFeature)
    (cxt : BVIEW_SYSTEM_UTILS_CXT) (act : Action) : Prop :=
  ∀ msg ∈ taken cxt act, msg.msg_type = .GET_FEATURE → msg.unit < num_units →
    ∃ text root, answers localtime num_units cxt act = [.rest_response_send msg.cookie text] ∧
      cJSON_Parse arith text = .ok root ∧ readFeature root = some config

theorem responds_shows {msg : Message} {answer : Answer}
    (h : Responds arith num_units cxt msg answer) (htype : msg.msg_type = .GET_FEATURE)
    (hunit : msg.unit < num_units) :
    ∃ text root, answer = .rest_response_send msg.cookie text ∧
      cJSON_Parse arith text = .ok root ∧ readFeature root = some cxt.data.config.read := by
  cases answer with
  | rest_response_send cookie text =>
      obtain ⟨-, rfl, root, hparse, hreports⟩ := h
      rw [Reports, htype] at hreports
      exact ⟨text, root, rfl, hparse, hreports.2.2⟩
  | rest_response_send_ok cookie =>
      rw [h.2.2] at htype
      cases htype
  | rest_response_send_error cookie rv id => exact absurd hunit (Nat.not_lt.mpr h.1)

theorem serves_shows (hserves : Serves arith localtime num_units cxt act)
    (hkeeps : KeepsFeature cxt act) :
    Shows arith localtime num_units cxt.data.config.read cxt act := by
  intro msg hmem htype hunit
  have htaken : taken cxt act = [msg] := by
    cases act with
    | system_utils_send_request | reg_hb_timer_cb => cases hmem
    | system_utils_app_main turn =>
        rw [taken] at hmem ⊢
        cases hqueue : cxt.recvMsgQid with
        | nil =>
            rw [hqueue] at hmem
            cases hmem
        | cons first rest =>
            rw [hqueue] at hmem
            rw [List.mem_singleton.mp hmem]
            rfl
  have hanswered := hserves.answered
  rw [htaken, List.forall₂_cons_left_iff] at hanswered
  obtain ⟨answer, rest, hresponds, hrest, hanswers⟩ := hanswered
  rw [List.forall₂_nil_left_iff.mp hrest] at hanswers
  obtain ⟨text, root, rfl, hparse, hread⟩ := responds_shows hresponds htype hunit
  rw [serves_keeps hserves hkeeps] at hread
  exact ⟨text, root, hanswers, hparse, hread⟩

-- Every answer shows what the request has configured, until the next one.
theorem configured_feature_read (hexact : Exact arith whole) {msg : Message} {rest : List Message}
    {turn : Turn} {params : Params} {acts : List Action} (hready : Ready cxt)
    (hqueue : cxt.recvMsgQid = msg :: rest) (hturn : turn.IsPlain)
    (htype : msg.msg_type = .SET_FEATURE) (hunit : msg.unit < num_units)
    (hparse : reg_hb_json_configure_feature params = .ok msg.config)
    (hallowed : Along (appStep localtime num_units)
      (fun cxt act => Allowed arith act ∧ KeepsFeature cxt act)
      (appStep localtime num_units cxt (.system_utils_app_main turn)) acts) :
    ∃ enable interval, mandatory params "heartbeat-enable" 0 1 = .ok enable ∧
      mandatory params "msg-interval" BVIEW_REG_HB_TIME_MIN BVIEW_REG_HB_TIME_MAX = .ok interval ∧
      Along (appStep localtime num_units)
        (Shows arith localtime num_units ⟨some enable.toInt, some interval.toInt⟩)
        (appStep localtime num_units cxt (.system_utils_app_main turn)) acts := by
  obtain ⟨henable, hinterval, -, -⟩ := parsed_values hparse
  obtain ⟨hserves, hnext⟩ := @turn_serves arith whole localtime num_units cxt hexact hready turn
    hturn msg rest hqueue
  have hstored : (appStep localtime num_units cxt
      (.system_utils_app_main turn)).data.config.read = msg.config.read := by
    rw [hserves.data, steps, hqueue]
    exact step_stores htype hunit hparse
  refine ⟨msg.config.enable, msg.config.interval, henable, hinterval, ?_⟩
  refine along_of_invariant (fun cxt => Ready cxt ∧ cxt.data.config.read = msg.config.read)
    ?_ ?_ _ acts ⟨hnext, hstored⟩ hallowed
  · rintro cxt act ⟨hready, hread⟩ ⟨hact, hkeeps⟩
    obtain ⟨hserves, hnext⟩ := step_serves hexact hready hact
    exact ⟨hnext, by rw [serves_keeps hserves hkeeps, hread]⟩
  · rintro cxt act ⟨hready, hread⟩ ⟨hact, hkeeps⟩
    obtain ⟨hserves, -⟩ := step_serves hexact hready hact
    have hshows := serves_shows hserves hkeeps
    rwa [hread] at hshows

end Thread

section Samples

def configureRequest : Northbound.RequestMessage :=
  { msg_type := .SET_FEATURE, unit := 0, config := ⟨1, 30, 3⟩, cookie := 0, id := 1 }

def featureRequest : Northbound.RequestMessage :=
  { msg_type := .GET_FEATURE, unit := 0, config := ⟨0, 0, 0⟩, cookie := 1, id := 2 }

def featureArgs : HandlerArgs :=
  { cookie := some 1
    jsonBuffer := some (" \x7b \"jsonrpc\": \"2.0\", \"method\": \"get-system-feature\"," ++
      "\"params\": \x7b\x7d, \"id\": 2\x7d").toList
    bufLength := 0 }

theorem feature_request_posted : Posts wholeNumbers featureRequest :=
  ⟨true, featureArgs, .inr (.inl (by decide +kernel))⟩

def configuredSystem : BVIEW_SYSTEM_UTILS_CXT :=
  { sampleSystem with recvMsgQid := [configureRequest.message] }

theorem configured_ready : Ready configuredSystem := by
  refine ⟨sample_presentable, ⟨0, by decide, rfl⟩, ?_⟩
  rw [configuredSystem, List.forall_mem_singleton]
  exact ⟨by decide, 1, rfl⟩

def sampleReads : List Action :=
  [.system_utils_send_request featureRequest, .system_utils_app_main sampleTurn]

theorem sampleReads_allowed :
    Along (appStep (fun _ => sampleTm) 1)
      (fun cxt act => Allowed wholeNumbers act ∧ KeepsFeature cxt act)
      (appStep (fun _ => sampleTm) 1 configuredSystem (.system_utils_app_main sampleTurn))
      sampleReads := by
  refine ⟨⟨feature_request_posted, ?_⟩, ⟨sampleTurn_plain, ?_⟩, trivial⟩
  · unfold KeepsFeature
    decide
  · unfold KeepsFeature
    decide

theorem sample_configured_read :
    Along (appStep (fun _ => sampleTm) 1)
      (Shows wholeNumbers (fun _ => sampleTm) 1 ⟨some 1, some 30⟩)
      (appStep (fun _ => sampleTm) 1 configuredSystem (.system_utils_app_main sampleTurn))
      sampleReads := by
  have hparse : reg_hb_json_configure_feature sampleParams = .ok configureRequest.message.config :=
    rfl
  obtain ⟨enable, interval, henable, hinterval, hshows⟩ :=
    configured_feature_read exact_wholeNumbers configured_ready rfl sampleTurn_plain rfl
      (by decide) hparse sampleReads_allowed
  cases henable
  cases hinterval
  exact hshows

end Samples

end BroadView.RegHb
