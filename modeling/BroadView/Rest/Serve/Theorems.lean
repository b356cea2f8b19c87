import BroadView.ModuleMgr.Theorems
import BroadView.Rest.Envelope.Theorems
import BroadView.Rest.Serve
import BroadView.Rest.Theorems

namespace BroadView.Rest.Serve

open ModuleMgr Http Transition

section Settles

-- Every status that a handler can end with.
def handlerFaults : List BVIEW_STATUS := [.INVALID_PARAMETER, .INVALID_JSON, .FAILURE]

theorem listed_handlerFaults : ∀ rv ∈ handlerFaults, listed rv = true := by decide

theorem jsonFaults_handlerFaults : ∀ rv ∈ jsonFaults, rv ∈ handlerFaults := by decide

-- The ASIC of a request is a negative number.
def NegativeAsic (root : Params) : Prop :=
  ∃ asicStr, root "asic-id" = some (.string asicStr) ∧ CString.atoi asicStr.toList < 0

-- The parser leaves the text, or the text names a negative ASIC.
def Overruns (arith : CJson.Arithmetic) (jsonBuffer : List Char) : Prop :=
  parse_root arith jsonBuffer = .error .overrun ∨
    ∃ root, parse_root arith jsonBuffer = .ok root ∧ NegativeAsic (members root)

-- A handler makes a message for the session and with the id of the request, or
-- returns one of the statuses. Nothing else makes it leave an array.
structure Settles {Msg : Type} (arith : CJson.Arithmetic) (cookie : Msg → Option Nat)
    (id : Msg → Int) (handler : HandlerArgs → Except Fault Msg) : Prop where
  reports : ∀ args, Reports handlerFaults (handler args)
  posts : ∀ args msg, handler args = .ok msg → cookie msg = args.cookie ∧
    ∃ value, rest_get_id_from_request arith args.jsonBuffer = .ok value ∧
      id msg = value.toInt ∧ 1 ≤ value ∧ value ≤ 100000
  overruns : ∀ args, handler args = .error .overrun →
    ∃ jsonBuffer, args.jsonBuffer = some jsonBuffer ∧ Overruns arith jsonBuffer

variable {arith : CJson.Arithmetic}

theorem Settles.map {Msg Msg' : Type} {cookie : Msg → Option Nat} {id : Msg → Int}
    {cookie' : Msg' → Option Nat} {id' : Msg' → Int} {handler : HandlerArgs → Except Fault Msg}
    (h : Settles arith cookie id handler) (wrap : Msg → Msg')
    (hcookie : ∀ msg, cookie' (wrap msg) = cookie msg) (hid : ∀ msg, id' (wrap msg) = id msg) :
    Settles arith cookie' id' fun args => (handler args).map wrap := by
  constructor
  · intro args rv heq
    cases hattempt : handler args with
    | ok msg =>
        rw [hattempt] at heq
        cases heq
    | error fault =>
        rw [hattempt] at heq
        cases heq
        exact h.reports args rv hattempt
  · intro args msg heq
    cases hattempt : handler args with
    | error fault =>
        rw [hattempt] at heq
        cases heq
    | ok msg' =>
        rw [hattempt] at heq
        cases heq
        rw [hcookie, hid]
        exact h.posts args msg' hattempt
  · intro args heq
    cases hattempt : handler args with
    | ok msg =>
        rw [hattempt] at heq
        cases heq
    | error fault =>
        rw [hattempt] at heq
        cases heq
        exact h.overruns args hattempt

theorem checked_within {α : Type} (attempt : Except BVIEW_STATUS α) :
    checked attempt ≠ .error .overrun := by
  cases attempt <;> nofun

theorem bind_overrun {α β : Type} {attempt : Except Fault α} {next : α → Except Fault β}
    (h : (attempt >>= next) = .error .overrun) (hwithin : attempt ≠ .error .overrun) :
    ∃ value, attempt = .ok value ∧ next value = .error .overrun := by
  cases attempt with
  | error fault =>
      cases h
      exact absurd rfl hwithin
  | ok value => exact ⟨value, rfl, h⟩

theorem json_envelope_overruns {method : String} {asic : Params → Except Fault Int32}
    {args : HandlerArgs} (hasic : ∀ params, asic params = .error .overrun → NegativeAsic params)
    (h : json_envelope arith method asic args = .error .overrun) :
    ∃ jsonBuffer, args.jsonBuffer = some jsonBuffer ∧ Overruns arith jsonBuffer := by
  unfold json_envelope at h
  obtain ⟨⟨cookie, jsonBuffer⟩, hargs, h⟩ := bind_overrun h (checked_within _)
  refine ⟨jsonBuffer, (check_args_ok (checked_ok hargs)).2, ?_⟩
  by_cases hparse : parse_root arith jsonBuffer = .error .overrun
  · exact .inl hparse
  · obtain ⟨root, hroot, h⟩ := bind_overrun h hparse
    obtain ⟨params, -, h⟩ := bind_overrun h (checked_within _)
    obtain ⟨-, -, h⟩ := bind_overrun h (checked_within _)
    obtain ⟨-, -, h⟩ := bind_overrun h (checked_within _)
    by_cases hnumber : asic (members root) = .error .overrun
    · exact .inr ⟨root, hroot, hasic _ hnumber⟩
    · obtain ⟨asicId, -, h⟩ := bind_overrun h hnumber
      obtain ⟨id, -, h⟩ := bind_overrun h (checked_within _)
      cases h

-- How the ASIC of an envelope may fail.
structure AsicFails (asic : Params → Except Fault Int32) : Prop where
  reports : ∀ params, Reports jsonFaults (asic params)
  overruns : ∀ params, asic params = .error .overrun → NegativeAsic params

-- What a handler does once it has read its envelope must not fail otherwise, and
-- its message is for the session and the id of the envelope.
theorem settles_envelope {Msg : Type} {cookie : Msg → Option Nat} {id : Msg → Int}
    (method : String) {asic : Params → Except Fault Int32} {next : Envelope → Except Fault Msg}
    (hasic : AsicFails asic) (hnext : ∀ envelope, Reports handlerFaults (next envelope))
    (hwithin : ∀ envelope, next envelope ≠ .error .overrun)
    (hposts : ∀ envelope msg, next envelope = .ok msg →
      cookie msg = some envelope.cookie ∧ id msg = envelope.id.toInt) :
    Settles arith cookie id fun args => json_envelope arith method asic args >>= next := by
  constructor
  · intro args
    refine Reports.bind (fun rv heq => ?_) hnext
    exact jsonFaults_handlerFaults rv (json_envelope_reports method hasic.reports rv heq)
  · intro args msg h
    obtain ⟨envelope, henvelope, hmsg⟩ := fault_bind_ok.mp h
    obtain ⟨hcookie, hid, hlow, hhigh⟩ := json_envelope_ok henvelope
    obtain ⟨hmsgCookie, hmsgId⟩ := hposts envelope msg hmsg
    exact ⟨hmsgCookie.trans hcookie.symm, envelope.id, hid, hmsgId, hlow, hhigh⟩
  · intro args h
    by_cases henvelope : json_envelope arith method asic args = .error .overrun
    · exact json_envelope_overruns hasic.overruns henvelope
    · obtain ⟨envelope, -, h⟩ := bind_overrun h henvelope
      exact absurd h (hwithin envelope)

theorem map_from_notation_overruns {asicStr : List Char}
    (h : JSON_ASIC_ID_MAP_FROM_NOTATION asicStr = .error .overrun) :
    CString.atoi asicStr < 0 := by
  unfold JSON_ASIC_ID_MAP_FROM_NOTATION sbplugin_ovsdb_system_asic_translate_from_notation at h
  dsimp only at h
  split_ifs at h with habove hnegative
  · cases h
  · exact hnegative

theorem mandatory_asic_fails : AsicFails mandatory_asic := by
  refine ⟨fun _ => mandatory_asic_reports, fun params h => ?_⟩
  obtain ⟨asicStr, hstring, h⟩ := bind_overrun h (checked_within _)
  refine ⟨String.ofList asicStr, ?_, ?_⟩
  · exact mandatory_string_ok (checked_ok hstring)
  · rw [String.toList_ofList]
    exact map_from_notation_overruns h

theorem optional_asic_fails : AsicFails optional_asic := by
  refine ⟨fun _ => optional_asic_reports, fun params h => ?_⟩
  obtain ⟨asicStr, hstring, h⟩ := bind_overrun h (checked_within _)
  cases asicStr with
  | none => cases h
  | some asicStr =>
      by_cases hmap : JSON_ASIC_ID_MAP_FROM_NOTATION asicStr = .error .overrun
      · refine ⟨String.ofList asicStr, optional_string_ok (checked_ok hstring), ?_⟩
        rw [String.toList_ofList]
        exact map_from_notation_overruns hmap
      · obtain ⟨asicId, -, h⟩ := bind_overrun h hmap
        split_ifs at h
        · cases h
        · cases h

theorem no_asic_fails : AsicFails no_asic := ⟨fun _ => reports_ok 0, fun _ h => by cases h⟩

end Settles

section Bst

open Bst Bst.Northbound

variable {arith : CJson.Arithmetic} {calls : Bst.ThresholdCalls}

def BstSettles (arith : CJson.Arithmetic)
    (handler : HandlerArgs → Except Fault ThresholdMessage) : Prop :=
  Settles arith (fun msg => msg.cookie) (fun msg => msg.id) handler

theorem msg_id (request : RestRequest) (cookie : Cookie) (asicId : Nat) (id : Int) :
    (request.msg cookie asicId id).id = id := by
  cases request <;> rfl

theorem send_request_reports (msg : ThresholdMessage) :
    Reports handlerFaults (bst_send_request calls msg) := by
  unfold bst_send_request
  split_ifs
  · exact reports_ok _
  · exact reports_status (by decide)

theorem bst_handler_settles (method : String) {command : Params → Except BVIEW_STATUS RestRequest}
    (hcommand : ∀ params, JsonOnly (command params)) :
    BstSettles arith fun args => bst_handler arith calls args method command := by
  refine settles_envelope method mandatory_asic_fails (fun envelope => ?_)
    (fun envelope h => ?_) fun envelope msg h => ?_
  · exact ((hcommand _).reports (by decide)).bind fun request => send_request_reports _
  · obtain ⟨request, -, h⟩ := bind_overrun h (checked_within _)
    unfold bst_send_request at h
    split_ifs at h
    · cases h
    · cases h
  · obtain ⟨request, -, hsent⟩ := fault_bind_ok.mp h
    unfold bst_send_request at hsent
    split_ifs at hsent
    cases hsent
    exact ⟨RestRequest.msg_cookie _ _ _ _, msg_id _ _ _ _⟩

theorem jsonOnly_realm_flag (params : Params) (name : String) :
    JsonOnly (realm_flag params name) := by
  intro rv h
  unfold realm_flag at h
  cases hvalue : mandatory params name 0 1 with
  | ok value =>
      rw [hvalue] at h
      cases h
  | error rv' =>
      rw [hvalue] at h
      cases h
      exact mandatory_error hvalue

theorem jsonOnly_realm_flags (params : Params) (first : String) :
    JsonOnly (realm_flags params first) := by
  unfold realm_flags
  iterate 11 refine (jsonOnly_realm_flag params _).bind fun _ => ?_
  exact jsonOnly_ok _

theorem jsonOnly_tracking_command (params : Params) : JsonOnly (tracking_command params) := by
  refine (jsonOnly_realm_flag params _).bind fun _ => ?_
  exact (jsonOnly_realm_flags params _).bind fun _ => jsonOnly_ok _

theorem jsonOnly_feature (params : Params) :
    JsonOnly (Bst.bstjson_configure_bst_feature params) := by
  unfold Bst.bstjson_configure_bst_feature
  iterate 4 refine jsonOnly_mandatory.bind fun _ => ?_
  iterate 5 refine jsonOnly_optional.bind fun _ => ?_
  exact jsonOnly_ok _

theorem jsonOnly_thresholds (params : Params) :
    JsonOnly (Bst.bstjson_configure_bst_thresholds params) := by
  unfold Bst.bstjson_configure_bst_thresholds optional_any
  refine jsonOnly_mandatory_string.bind fun _ => ?_
  refine jsonOnly_optional_string.bind fun _ => ?_
  iterate 15 refine jsonOnly_optional.bind fun _ => ?_
  exact jsonOnly_ok _

-- The values of a command are refused, or its message cannot be posted.
theorem impl_reports (pCommand : BSTJSON_CONFIGURE_BST_THRESHOLDS) (cookie : Cookie)
    (asicId : Nat) (id : Int) : Reports handlerFaults
      (checked (bstjson_configure_bst_thresholds_impl pCommand calls cookie asicId id)) := by
  refine reports_checked fun rv h => ?_
  unfold bstjson_configure_bst_thresholds_impl at h
  split at h
  · cases h
    decide
  · split at h
    · cases h
      decide
    · split_ifs at h
      iterate 3
        · cases h
          decide

theorem impl_header {pCommand : BSTJSON_CONFIGURE_BST_THRESHOLDS} {cookie : Cookie} {asicId : Nat}
    {id : Int} {msg : ThresholdMessage}
    (h : bstjson_configure_bst_thresholds_impl pCommand calls cookie asicId id = .ok msg) :
    msg.cookie = some cookie ∧ msg.id = id := by
  unfold bstjson_configure_bst_thresholds_impl at h
  split at h
  · cases h
  · rename_i threshold_type _
    split at h
    · cases h
    · split_ifs at h
      cases h
      cases threshold_type <;> exact ⟨rfl, rfl⟩

theorem configure_bst_thresholds_settles :
    BstSettles arith fun args => bstjson_configure_bst_thresholds arith calls args := by
  refine settles_envelope _ mandatory_asic_fails (fun envelope => ?_)
    (fun envelope h => ?_) fun envelope msg h => ?_
  · exact ((jsonOnly_thresholds _).reports (by decide)).bind fun _ => impl_reports _ _ _ _
  · obtain ⟨pCommand, -, h⟩ := bind_overrun h (checked_within _)
    exact absurd h (checked_within _)
  · obtain ⟨pCommand, -, himpl⟩ := fault_bind_ok.mp h
    exact impl_header (checked_ok himpl)

end Bst

section System

open RegHb RegHb.Northbound

variable {arith : CJson.Arithmetic} {msgsnd : Bool}

theorem system_handler_settles (method : String) {asic : Params → Except Fault Int32}
    (msg_type : BVIEW_SYSTEM_UTILS_CMD_API)
    {command : Params → Except BVIEW_STATUS REG_HB_JSON_CONFIGURE_FEATURE}
    (hasic : AsicFails asic) (hcommand : ∀ params, JsonOnly (command params)) :
    Settles arith (fun msg : RequestMessage => some msg.cookie) (fun msg => msg.id)
      fun args => system_handler arith msgsnd args method asic msg_type command := by
  refine settles_envelope method hasic (fun envelope => ?_) (fun envelope h => ?_)
    fun envelope msg h => ?_
  · refine ((hcommand _).reports (by decide)).bind fun config => ?_
    unfold system_utils_send_request
    split_ifs
    · exact reports_ok _
    · exact reports_status (by decide)
  · obtain ⟨config, -, h⟩ := bind_overrun h (checked_within _)
    unfold system_utils_send_request at h
    split_ifs at h
    · cases h
    · cases h
  · obtain ⟨config, -, hsent⟩ := fault_bind_ok.mp h
    unfold system_utils_send_request at hsent
    split_ifs at hsent
    cases hsent
    exact ⟨rfl, rfl⟩

theorem jsonOnly_system_feature (params : Params) :
    JsonOnly (RegHb.reg_hb_json_configure_feature params) := by
  unfold RegHb.reg_hb_json_configure_feature
  iterate 2 refine jsonOnly_mandatory.bind fun _ => ?_
  exact jsonOnly_ok _

end System

section Tables

variable {arith : CJson.Arithmetic}

def Handles (arith : CJson.Arithmetic) (handler : Handler) : Prop :=
  ∀ calls, Settles arith Posted.cookie Posted.id (handler calls)

-- Every handler of the methods is as it should be.
def AllHandle (arith : CJson.Arithmetic) (apis : List (BVIEW_REST_API Handler)) : Prop :=
  ∀ api ∈ apis, ∀ handler, api.handler = some handler → Handles arith handler

theorem bst_api_handles {handler : CJson.Arithmetic → Bst.ThresholdCalls → HandlerArgs →
    Except Fault Bst.ThresholdMessage} (name : String)
    (h : ∀ calls, BstSettles arith fun args => handler arith calls args) :
    AllHandle arith [bst_api arith name handler] := by
  intro api hapi handler' heq calls
  rw [List.mem_singleton.mp hapi] at heq
  cases heq
  exact (h calls.bst).map Posted.bst (fun _ => rfl) fun _ => rfl

theorem system_api_handles {handler : CJson.Arithmetic → Bool → HandlerArgs →
    Except Fault RegHb.Northbound.RequestMessage} (name : String)
    (h : ∀ msgsnd, Settles arith (fun msg : RegHb.Northbound.RequestMessage => some msg.cookie)
      (fun msg => msg.id) fun args => handler arith msgsnd args) :
    AllHandle arith [system_api arith name handler] := by
  intro api hapi handler' heq calls
  rw [List.mem_singleton.mp hapi] at heq
  cases heq
  exact (h calls.system).map Posted.system (fun _ => rfl) fun _ => rfl

theorem AllHandle.cons {api : BVIEW_REST_API Handler} {apis : List (BVIEW_REST_API Handler)}
    (h : AllHandle arith [api]) (hrest : AllHandle arith apis) : AllHandle arith (api :: apis) := by
  intro other hmem
  rcases List.mem_cons.mp hmem with rfl | hmem
  · exact h other List.mem_cons_self
  · exact hrest other hmem

theorem allHandle_nil : AllHandle arith [] := fun api hapi => by cases hapi

theorem bst_cmd_api_list_handle (arith : CJson.Arithmetic) :
    AllHandle arith (bst_cmd_api_list arith) := by
  have hplain : ∀ request : Bst.RestRequest, ∀ params : Params,
      JsonOnly ((fun _ => .ok request : Params → Except BVIEW_STATUS Bst.RestRequest) params) :=
    fun request _ => jsonOnly_ok request
  refine AllHandle.cons (bst_api_handles _ fun calls => bst_handler_settles _ fun params =>
    (jsonOnly_tracking_command params).bind fun _ => jsonOnly_ok _) ?_
  refine AllHandle.cons (bst_api_handles _ fun calls => bst_handler_settles _ fun params =>
    (jsonOnly_feature params).bind fun _ => jsonOnly_ok _) ?_
  refine AllHandle.cons (bst_api_handles _ fun calls => configure_bst_thresholds_settles) ?_
  refine AllHandle.cons (bst_api_handles _ fun calls => bst_handler_settles _ fun params =>
    (jsonOnly_realm_flags params _).bind fun _ => jsonOnly_ok _) ?_
  refine AllHandle.cons (bst_api_handles _ fun calls => bst_handler_settles _ (hplain _)) ?_
  refine AllHandle.cons (bst_api_handles _ fun calls => bst_handler_settles _ (hplain _)) ?_
  refine AllHandle.cons (bst_api_handles _ fun calls => bst_handler_settles _ fun params =>
    (jsonOnly_realm_flags params _).bind fun _ => jsonOnly_ok _) ?_
  refine AllHandle.cons (bst_api_handles _ fun calls => bst_handler_settles _ (hplain _)) ?_
  exact AllHandle.cons (bst_api_handles _ fun calls => bst_handler_settles _ (hplain _))
    allHandle_nil

theorem system_utils_api_list_handle (arith : CJson.Arithmetic) :
    AllHandle arith (system_utils_api_list arith) := by
  refine AllHandle.cons (system_api_handles _ fun _ =>
    system_handler_settles _ _ no_asic_fails jsonOnly_system_feature) ?_
  refine AllHandle.cons (system_api_handles _ fun _ =>
    system_handler_settles _ _ no_asic_fails fun _ => jsonOnly_ok _) ?_
  exact AllHandle.cons (system_api_handles _ fun _ =>
    system_handler_settles _ _ optional_asic_fails fun _ => jsonOnly_ok _)
    allHandle_nil

theorem allHandle_unused {apis : List (BVIEW_REST_API Handler)} (h : AllHandle arith apis)
    (count : Nat) : AllHandle arith (apis ++ List.replicate count ⟨none, none⟩) := by
  intro api hmem handler heq
  rcases List.mem_append.mp hmem with hmem | hmem
  · exact h api hmem handler heq
  · rw [List.eq_of_mem_replicate hmem] at heq
    cases heq

-- The features that register themselves with the module manager.
def IsFeature (arith : CJson.Arithmetic) (info : BVIEW_MODULE_FETAURE_INFO Handler) : Prop :=
  info = bst_module arith ∨ info = system_utils_module arith

theorem IsFeature.handle {info : BVIEW_MODULE_FETAURE_INFO Handler} (h : IsFeature arith info) :
    AllHandle arith info.restApiList := by
  rcases h with rfl | rfl
  · exact allHandle_unused (bst_cmd_api_list_handle arith) _
  · exact allHandle_unused (system_utils_api_list_handle arith) _

def ModulesHandle (arith : CJson.Arithmetic) (modules : MODULES Handler) : Prop :=
  ∀ info ∈ modules.moduleData, AllHandle arith info.moduleData.restApiList

theorem modulesHandle_init : ModulesHandle arith modulemgr_init := by
  intro info hmem
  rw [List.eq_of_mem_replicate hmem]
  exact allHandle_unused allHandle_nil BVIEW_MAX_API_CMDS_PER_FEATURE

theorem modulesHandle_register {modules : MODULES Handler} (h : ModulesHandle arith modules)
    {info : BVIEW_MODULE_FETAURE_INFO Handler} (hinfo : IsFeature arith info) :
    ModulesHandle arith (register modules info) := by
  intro other hmem
  unfold register modulemgr_register at hmem
  split at hmem
  · exact h other hmem
  · exact h other hmem
  · rcases List.mem_or_eq_of_mem_set hmem with hmem | rfl
    · exact h other hmem
    · exact hinfo.handle

theorem modulesHandle_run {infos : List (BVIEW_MODULE_FETAURE_INFO Handler)}
    (hinfos : ∀ info ∈ infos, IsFeature arith info) :
    ModulesHandle arith (run register modulemgr_init infos) :=
  run_invariant (ModulesHandle arith) (fun _ _ h hinfo => modulesHandle_register h hinfo) _ infos
    modulesHandle_init (along_of_mem _ _ hinfos)

-- A handler that is found is one of a method.
theorem handler_get_handles {modules : MODULES Handler} (h : ModulesHandle arith modules)
    {root : Option Params} {handler : Handler}
    (hget : modulemgr_rest_api_handler_get root modules = (.SUCCESS, some handler)) :
    Handles arith handler := by
  unfold modulemgr_rest_api_handler_get at hget
  split at hget
  · cases hget
  · obtain ⟨info, hmem, hfind⟩ :=
      List.exists_of_findSome?_eq_some ((find_handler_iff modules.moduleData).mp hget)
    exact h info hmem _ (find_api_some hfind).1 handler rfl

end Tables

section Process

variable {arith : CJson.Arithmetic} {modules : MODULES Handler} {calls : Calls} {slot : Nat}
  {request : RequestBytes} {served : Served}

theorem parse_url_json {session session' : Http.REST_SESSION} {httpMethod url : CString.Token}
    (h : rest_parse_url modules session httpMethod url = some (.SUCCESS, session')) :
    session'.json.isSome = true := by
  unfold rest_parse_url at h
  dsimp only at h
  split at h
  · split at h
    · cases h
    · cases h
    · split at h
      · cases h
      · split at h
        · cases h
        · split at h
          · cases h
          · cases h
            rfl
  · cases h

theorem parse_session_json {session session' : Http.REST_SESSION}
    (h : rest_parse_http_request_to_session modules session = some (.SUCCESS, session')) :
    session'.json.isSome = true := by
  unfold rest_parse_http_request_to_session at h
  split at h
  · cases h
  · cases h
  · split_ifs at h
    · cases h
    · split at h
      · cases h
      · cases h
      · exact parse_url_json h

-- A request is left to an application with one message, for its session and with
-- its id.
structure Left (slot : Nat) (served : Served) (msg : Posted) : Prop where
  posted : served.posted = some msg
  dispatched : served.process.dispatched = true
  cookie : msg.cookie = some slot
  id : msg.id = served.process.id
  known : served.process.ret = .SUCCESS
  range : 1 ≤ msg.id ∧ msg.id ≤ 100000

-- A request is dropped without a message, and its peer is told.
structure Dropped (served : Served) : Prop where
  posted : served.posted = none
  dispatched : served.process.dispatched = false
  answers : served.process.answers = true

def Settled (slot : Nat) (served : Served) : Prop :=
  (∃ msg, Left slot served msg) ∨ Dropped served

theorem dropped_not_found (ret : BVIEW_STATUS) (id : Int) {found : BVIEW_STATUS}
    (h : found ≠ .SUCCESS) : Dropped ⟨⟨.SUCCESS, ret, id, found, .SUCCESS⟩, none⟩ := by
  constructor
  · rfl
  · simp [Processing.dispatched, h]
  · simp [Processing.answers, h]

theorem dropped_not_parsed (ret : BVIEW_STATUS) (id : Int) {parsed : BVIEW_STATUS}
    (h : parsed ≠ .SUCCESS) : Dropped ⟨⟨parsed, ret, id, .SUCCESS, .SUCCESS⟩, none⟩ := by
  constructor
  · rfl
  · simp [Processing.dispatched, h]
  · simp [Processing.answers, h]

-- No search ends with success and without a handler.
theorem find_handler_some (name : List Char) (infos : List (BVIEW_MODULE_INFO Handler))
    (rv : BVIEW_STATUS) : (find_handler name infos rv).1 = .SUCCESS →
      (find_handler name infos rv).2.isSome = true := by
  induction infos generalizing rv with
  | nil => exact fun h => by cases h
  | cons info rest ih =>
      rw [find_handler]
      split
      · exact ih rv
      · split
        · exact fun _ => rfl
        · exact ih .FAILURE

theorem handler_get_some {root : Option Params} {found : Option Handler}
    (h : modulemgr_rest_api_handler_get root modules = (.SUCCESS, found)) :
    found.isSome = true := by
  unfold modulemgr_rest_api_handler_get at h
  cases hname : json_buf_to_api_string_get root with
  | error rv =>
      simp only [hname] at h
      cases h
      unfold json_buf_to_api_string_get at hname
      split at hname
      · cases hname
      · rename_i params
        cases hmethod : mandatory_string params "method" with
        | ok name =>
            rw [hmethod] at hname
            cases hname
        | error rv =>
            rw [hmethod] at hname
            cases hname
            cases mandatory_string_error hmethod
  | ok name =>
      simp only [hname] at h
      have hsome := find_handler_some name modules.moduleData .SUCCESS
      rw [h] at hsome
      exact hsome rfl

-- The status and the id are what the search for the id has found.
def Identified (arith : CJson.Arithmetic) (jsonBuffer : List Char) (ret : BVIEW_STATUS)
    (id : Int) : Prop :=
  ∀ value, rest_get_id_from_request arith (some jsonBuffer) = .ok value →
    ret = .SUCCESS ∧ id = value.toInt

theorem handled_settled {handler : HandlerArgs → Except Fault Posted} {args : HandlerArgs}
    (hsettles : Settles arith Posted.cookie Posted.id handler) (hcookie : args.cookie = some slot)
    {jsonBuffer : List Char} (hbuffer : args.jsonBuffer = some jsonBuffer) {ret : BVIEW_STATUS}
    {id : Int} (hid : Identified arith jsonBuffer ret id) {handled : BVIEW_STATUS}
    (hhandled : statusOf (handler args) = some handled) :
    Settled slot ⟨⟨.SUCCESS, ret, id, .SUCCESS, handled⟩, (handler args).toOption⟩ := by
  cases hattempt : handler args with
  | ok msg =>
      rw [hattempt] at hhandled
      obtain rfl := Option.some.inj hhandled
      obtain ⟨hmsgCookie, value, hvalue, hmsgId, hlow, hhigh⟩ := hsettles.posts args msg hattempt
      rw [hbuffer] at hvalue
      obtain ⟨hret, hsame⟩ := hid value hvalue
      rw [Int32.le_iff_toInt_le] at hlow hhigh
      exact .inl ⟨msg, rfl, rfl, hmsgCookie.trans hcookie, hmsgId.trans hsame.symm, hret,
        hmsgId ▸ ⟨hlow, hhigh⟩⟩
  | error fault =>
      rw [hattempt] at hhandled
      cases fault with
      | overrun => cases hhandled
      | status rv =>
          obtain rfl := Option.some.inj hhandled
          have hlisted := listed_handlerFaults rv (hsettles.reports args rv hattempt)
          have hfails : rv ≠ .SUCCESS := fun hsuccess => by
            rw [hsuccess] at hlisted
            exact absurd hlisted (by decide)
          refine .inr ⟨rfl, ?_, ?_⟩
          · simp [Processing.dispatched, hfails]
          · simp [Processing.answers, hlisted]

theorem serve_body_settled (hmodules : ModulesHandle arith modules) {length : Int}
    {jsonBuffer : List Char} {ret : BVIEW_STATUS} {id : Int}
    (hid : Identified arith jsonBuffer ret id)
    (h : serve_body arith modules calls slot length jsonBuffer ret id = some served) :
    Settled slot served := by
  unfold serve_body at h
  cases hroot : manager_root arith jsonBuffer with
  | none =>
      rw [hroot] at h
      cases h
  | some root =>
      simp only [hroot, Option.bind_eq_bind, Option.bind_some] at h
      split at h
      · rename_i handler hget
        obtain ⟨handled, hhandled, hserved⟩ := Option.bind_eq_some_iff.mp h
        cases hserved
        exact handled_settled (handler_get_handles hmodules hget calls) rfl rfl hid hhandled
      · rename_i found other hfound hget
        cases h
        refine .inr (dropped_not_found ret id fun hsuccess => ?_)
        subst hsuccess
        obtain ⟨handler, hhandler⟩ := Option.isSome_iff_exists.mp (handler_get_some hget)
        exact hfound handler rfl hhandler

theorem serve_cases (h : serve arith modules calls slot request = some served) :
    ∃ parsed session jsonBuffer ret,
      rest_parse_http_request_to_session modules request.session = some (parsed, session) ∧
      statusOf (rest_get_id_from_request arith jsonBuffer) = some ret ∧
      ((∃ text id, parsed = .SUCCESS ∧ jsonBuffer = some text ∧ Identified arith text ret id ∧
          serve_body arith modules calls slot session.length text ret id = some served) ∨
        (parsed ≠ .SUCCESS ∧ ∃ id, served = ⟨⟨parsed, ret, id, .SUCCESS, .SUCCESS⟩, none⟩)) := by
  unfold serve at h
  simp only [Option.bind_eq_bind, Option.bind_eq_some_iff] at h
  obtain ⟨⟨parsed, session⟩, hparse, h⟩ := h
  dsimp only at h
  cases hplace : session.json with
  | none =>
      simp only [hplace, Option.bind_some, Option.bind_eq_some_iff] at h
      obtain ⟨ret, hret, h⟩ := h
      refine ⟨parsed, session, none, ret, hparse, hret, .inr ⟨fun hsuccess => ?_, 0, ?_⟩⟩
      · subst hsuccess
        have hsome := parse_session_json hparse
        rw [hplace] at hsome
        cases hsome
      · exact (Option.some.inj h).symm
  | some json =>
      simp only [hplace, Option.bind_eq_some_iff] at h
      obtain ⟨jsonBuffer, htext, ret, hret, h⟩ := h
      obtain ⟨text, -, rfl⟩ := Option.map_eq_some_iff.mp htext
      refine ⟨parsed, session, some text, ret, hparse, hret, ?_⟩
      by_cases hsuccess : parsed = .SUCCESS
      · subst hsuccess
        refine .inl ⟨text, _, rfl, rfl, fun value hvalue => ?_, h⟩
        rw [hvalue] at hret ⊢
        exact ⟨(Option.some.inj hret).symm, rfl⟩
      · refine .inr ⟨hsuccess, ?_⟩
        cases parsed with
        | SUCCESS => exact absurd rfl hsuccess
        | _ => exact ⟨_, (Option.some.inj h).symm⟩

theorem serve_settled (hmodules : ModulesHandle arith modules)
    (h : serve arith modules calls slot request = some served) : Settled slot served := by
  obtain ⟨parsed, session, jsonBuffer, ret, -, -, hbody | hfailed⟩ := serve_cases h
  · obtain ⟨text, id, -, -, hid, hserved⟩ := hbody
    exact serve_body_settled hmodules hid hserved
  · obtain ⟨hparsed, id, rfl⟩ := hfailed
    exact .inr (dropped_not_parsed ret id hparsed)

end Process

end BroadView.Rest.Serve
