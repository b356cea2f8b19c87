import BroadView.Rest.Http.Dispatch
import BroadView.Rest.Serve.Theorems

namespace BroadView.Rest.Serve

open ModuleMgr Http Transition CString
open Client (REST_MAX_HTTP_BUFFER_LENGTH)

section Carries

-- The request is parsed, and its body is the text, of which nothing is missing.
def Carries (modules : MODULES Handler) (request : RequestBytes) (body : List Char) : Prop :=
  ∃ session json, rest_parse_http_request_to_session modules request.session =
      some (.SUCCESS, session) ∧
    session.json = some json ∧ session.buffer.stringAt json = some body ∧
    session.length = body.length

-- A method, a URL, and a body behind the headers.
structure HttpRequest where
  method : List Char
  url : List Char
  headers : List Char
  body : List Char
  supported : method ∈ supportedMethods
  word : Word REST_HTTP_SPACE url
  first : strstr (headers ++ (REST_HTTP_TWIN_CRLF ++ body)) REST_HTTP_TWIN_CRLF =
    some headers.length
  fits : method.length + url.length + headers.length + body.length + 6 ≤
    REST_MAX_HTTP_BUFFER_LENGTH
  copied : method.length + restMethodStart url + REST_MAX_STRING_LENGTH ≤
    REST_MAX_HTTP_BUFFER_LENGTH

namespace HttpRequest

variable (request : HttpRequest)

def text : List Char := request.headers ++ (REST_HTTP_TWIN_CRLF ++ request.body)

def bytes : RequestBytes where
  bytes := request.method.map some ++ some REST_HTTP_SPACE ::
    (request.url.map some ++ some REST_HTTP_SPACE :: request.text.map some)
  length_le := by
    have hfits := request.fits
    have htwin : REST_HTTP_TWIN_CRLF.length = 4 := rfl
    simp only [text, List.length_append, List.length_cons, List.length_map, htwin]
    omega

theorem bytes_length : request.bytes.bytes.length =
    request.method.length + request.url.length + request.headers.length + request.body.length +
      6 := by
  have htwin : REST_HTTP_TWIN_CRLF.length = 4 := rfl
  simp only [bytes, text, List.length_append, List.length_cons, List.length_map, htwin]
  omega

theorem method_word : Word REST_HTTP_SPACE request.method := by
  have hwords : ∀ method ∈ supportedMethods, method ≠ [] ∧ REST_HTTP_SPACE ∉ method := by decide
  exact ⟨(hwords _ request.supported).1, (hwords _ request.supported).2⟩

theorem line : RequestLine request.bytes.buffer.bytes request.method 0 request.url
    (request.text.map some ++ none :: List.replicate
      (REST_MAX_HTTP_BUFFER_LENGTH - request.bytes.bytes.length) none) := by
  have hreceived := request.bytes.length_le
  have hunused : REST_MAX_HTTP_BUFFER_LENGTH + 1 - request.bytes.bytes.length =
      REST_MAX_HTTP_BUFFER_LENGTH - request.bytes.bytes.length + 1 := by
    omega
  refine ⟨request.method_word, request.word, some REST_HTTP_SPACE, some REST_HTTP_SPACE,
    Or.inr rfl, Or.inr rfl, ?_⟩
  rw [RequestBytes.buffer]
  dsimp only
  rw [hunused, List.replicate_succ]
  simp only [bytes, List.append_assoc, List.cons_append, List.replicate_zero, List.nil_append]

theorem carries {modules : MODULES Handler} {featureName : List Char}
    (hnamed : Named modules request.url featureName) :
    Carries modules request.bytes request.body := by
  obtain ⟨buffer, hbytes, heq⟩ := @parse_line _ modules _ _ _ _ _ request.line request.supported
  have hcopied := request.copied
  have hmemcpy : ∃ copy, buffer.memcpy (request.method.length + 1 + 0 +
      restMethodStart request.url) REST_MAX_STRING_LENGTH = some copy := by
    unfold Buffer.memcpy
    exact ⟨_, dif_pos (by omega)⟩
  obtain ⟨copy, hcopy⟩ := hmemcpy
  have hfirst : strstr request.text REST_HTTP_TWIN_CRLF = some request.headers.length :=
    request.first
  rw [parse_url_named hnamed hbytes _ rfl, textBehind, if_pos rfl, string_append_none,
    Option.bind_some] at heq
  simp only [hfirst, hcopy, Option.map_some] at heq
  refine ⟨_, _, heq, rfl, ?_, ?_⟩
  · have hskipped : request.method.length + 1 + (request.url.length + 1) +
        request.headers.length + REST_HTTP_TWIN_CRLF.length =
          request.method.length + 1 + (request.url.length + 1) +
            (request.headers ++ REST_HTTP_TWIN_CRLF).length := by
      rw [List.length_append]
      omega
    have htext : request.text.map some = (request.headers ++ REST_HTTP_TWIN_CRLF).map some ++
        request.body.map some := by
      rw [text, ← List.map_append, List.append_assoc]
    dsimp only
    rw [Buffer.stringAt, hskipped, ← List.drop_drop, drop_behind hbytes, htext,
      List.append_assoc, List.drop_left' (List.length_map some), string_append_none]
  · have htwin : REST_HTTP_TWIN_CRLF.length = 4 := rfl
    have hlength := request.bytes_length
    simp only [RequestBytes.session, hlength, htwin]
    omega

end HttpRequest

end Carries

section Asks

variable {arith : CJson.Arithmetic} {body : List Char} {name : String} {id : Int32}
  {root : CJson.Item arith.Double} {params : Params}

-- The text is a request of the method, with an id in its range and parameters.
structure Asks (arith : CJson.Arithmetic) (body : List Char) (name : String) (value : Int32)
    (root : CJson.Item arith.Double) (values : Params) : Prop where
  parse : CJson.cJSON_Parse arith body = .ok root
  version : members root "jsonrpc" = some (.string "2.0")
  method : members root "method" = some (.string name)
  id : members root "id" = some (.number value)
  range : 1 ≤ value ∧ value ≤ 100000
  params : required_params root = .ok values

theorem Asks.parse_root (h : Asks arith body name id root params) :
    Rest.parse_root arith body = .ok root := by
  rw [Rest.parse_root, h.parse]

theorem compare_string_self {root : Params} {key value : String}
    (h : root key = some (.string value)) (hshort : value.toList.length < JSON_MAX_NODE_LENGTH) :
    compare_string root key value.toList = .ok () := by
  have hcut : value.toList.take (JSON_MAX_NODE_LENGTH - 1) = value.toList :=
    List.take_of_length_le (by omega)
  simp [compare_string, mandatory_string, h, hcut, bind, Except.bind, pure, Except.pure]

theorem Asks.id_ok (h : Asks arith body name id root params) :
    mandatory (members root) "id" 1 100000 = .ok id := by
  have hrange : ¬(id < 1 ∨ 100000 < id) := by
    rw [not_or, Int32.not_lt, Int32.not_lt]
    exact h.range
  rw [mandatory, h.id]
  exact if_neg hrange

theorem Asks.get_id (h : Asks arith body name id root params) :
    rest_get_id_from_request arith (some body) = .ok id := by
  simp only [rest_get_id_from_request, h.parse_root, bind, Except.bind, h.id_ok]
  rfl

-- Nothing else of the envelope can fail then but its ASIC.
theorem Asks.envelope (h : Asks arith body name id root params)
    (hshort : name.toList.length < JSON_MAX_NODE_LENGTH) (asic : Params → Except Fault Int32)
    {args : HandlerArgs} {slot : Nat} (hargs : check_args args = .ok (slot, body)) :
    json_envelope arith name asic args =
      (asic (members root)).map fun asicId => { cookie := slot, asicId, id, params } := by
  simp only [json_envelope, hargs, h.parse_root, h.params,
    compare_string_self h.version (by decide), compare_string_self h.method hshort, checked,
    Except.mapError, bind, Except.bind, pure, Except.pure]
  cases asic (members root) with
  | error fault => rfl
  | ok asicId => simp only [h.id_ok, Except.map]

-- A text of the grammar, by the first members of the names.
theorem asks_text {whole : Nat → arith.Double} (hexact : CJson.Exact arith whole)
    {fields values : List (List Char × Json)}
    (htext : Json.Derives (.element (.object fields)) body [])
    (hversion : CJson.lookup fields "jsonrpc".toList = some (.string "2.0".toList))
    (hmethod : CJson.lookup fields "method".toList = some (.string name.toList))
    (hname : Json.Plain name.toList)
    (hid : CJson.lookup fields "id".toList = some (.number (Printf.showInt id.toInt)))
    (hrange : 1 ≤ id ∧ id ≤ 100000)
    (hparams : CJson.lookup fields "params".toList = some (.object values)) :
    Asks arith body name id (CJson.decode arith (.object fields))
      (members (CJson.decode arith (.object values))) := by
  refine ⟨CJson.parse_element arith htext, ?_, ?_, ?_, hrange, ?_⟩
  · exact members_string hversion (by decide)
  · exact members_string hmethod hname
  · exact members_int hexact hid
  · rw [required_params, CJson.getObjectItem_decode, hparams]
    rfl

theorem Asks.manager (h : Asks arith body name id root params) :
    manager_root arith body = some (some (members root)) := by
  rw [manager_root, h.parse_root]

end Asks

section Served

variable {arith : CJson.Arithmetic} {modules : MODULES Handler} {calls : Calls} {slot : Nat}
  {request : RequestBytes} {body : List Char} {name : String} {id : Int32}
  {root : CJson.Item arith.Double} {params : Params}

theorem carries_args (h : Carries modules request body) (slot : Nat) :
    check_args ⟨some slot, some body, Int32.ofInt body.length⟩ = .ok (slot, body) := by
  obtain ⟨session, json, -, -, htext, -⟩ := h
  have hlength : body.length ≤ REST_MAX_HTTP_BUFFER_LENGTH + 1 := by
    obtain ⟨rest, hrest⟩ := string_eq_some htext
    have hsize := session.buffer.length_eq
    have hwithin := congrArg List.length hrest
    simp only [List.length_drop, List.length_append, List.length_map] at hwithin
    omega
  unfold REST_MAX_HTTP_BUFFER_LENGTH at hlength
  have hint : (Int32.ofInt body.length).toInt = body.length := by
    rw [Int32.toInt_ofInt_of_le]
    · omega
    · omega
  rw [check_args]
  dsimp only
  rw [if_neg]
  rw [Int32.lt_iff_toInt_lt, hint, Int32.toInt_zero]
  omega

-- What is posted for a request of a method is what its handler makes of the body.
theorem serve_asks (hcarries : Carries modules request body)
    (hasks : Asks arith body name id root params)
    (hshort : name.toList.length < JSON_MAX_NODE_LENGTH) {handler : Handler}
    (hleads : Leads modules name.toList handler) {attempt : Except Fault Posted}
    (hattempt : handler calls ⟨some slot, some body, Int32.ofInt body.length⟩ = attempt) :
    serve arith modules calls slot request = (statusOf attempt).map fun handled =>
      { process := ⟨.SUCCESS, .SUCCESS, id.toInt, .SUCCESS, handled⟩
        posted := attempt.toOption } := by
  obtain ⟨session, json, hparse, hjson, htext, hlength⟩ := hcarries
  have hcut : name.toList.take (JSON_MAX_NODE_LENGTH - 1) = name.toList :=
    List.take_of_length_le (by omega)
  have hget : modulemgr_rest_api_handler_get (some (members root)) modules =
      (.SUCCESS, some handler) := by
    rw [handler_get_iff hasks.method, hcut]
    exact hleads
  unfold serve
  simp only [hparse, hjson, htext, hasks.get_id, Option.bind_eq_bind, Option.bind_some,
    Option.map_some, statusOf, serve_body, hasks.manager, hget, hlength, hattempt]
  cases attempt with
  | ok msg => rfl
  | error fault => cases fault <;> rfl

end Served

section Notation

variable {asicStr : List Char}

theorem map_from_notation_above (h : Int32.ofNat BVIEW_MAX_ASICS_ON_A_PLATFORM < atoi asicStr) :
    JSON_ASIC_ID_MAP_FROM_NOTATION asicStr = .error (.status .INVALID_JSON) := by
  simp only [JSON_ASIC_ID_MAP_FROM_NOTATION, sbplugin_ovsdb_system_asic_translate_from_notation,
    if_pos h]

theorem map_from_notation_negative (h : atoi asicStr < 0) :
    JSON_ASIC_ID_MAP_FROM_NOTATION asicStr = .error .overrun := by
  have hnot : ¬Int32.ofNat BVIEW_MAX_ASICS_ON_A_PLATFORM < atoi asicStr := by
    rw [Int32.lt_iff_toInt_lt] at h ⊢
    change (atoi asicStr).toInt < 0 at h
    change ¬1 < (atoi asicStr).toInt
    omega
  simp only [JSON_ASIC_ID_MAP_FROM_NOTATION, sbplugin_ovsdb_system_asic_translate_from_notation,
    if_neg hnot, if_pos h]

theorem map_from_notation_zero (h : atoi asicStr = 0) :
    JSON_ASIC_ID_MAP_FROM_NOTATION asicStr = .ok (-1) := by
  simp only [JSON_ASIC_ID_MAP_FROM_NOTATION, sbplugin_ovsdb_system_asic_translate_from_notation, h]
  rfl

theorem map_from_notation_one (h : atoi asicStr = 1) :
    JSON_ASIC_ID_MAP_FROM_NOTATION asicStr = .ok 0 := by
  simp only [JSON_ASIC_ID_MAP_FROM_NOTATION, sbplugin_ovsdb_system_asic_translate_from_notation, h]
  rfl

end Notation

section Commands

open Bst.Northbound

variable {arith : CJson.Arithmetic} {modules : MODULES Handler}

-- The applications register themselves from threads of their own.
def Started (arith : CJson.Arithmetic) (modules : MODULES Handler) : Prop :=
  modules = run register modulemgr_init [system_utils_module arith, bst_module arith] ∨
    modules = run register modulemgr_init [bst_module arith, system_utils_module arith]

def tracking_request : String × (Params → Except BVIEW_STATUS Bst.RestRequest) :=
  ("configure-bst-tracking",
    fun params => return .bstjson_configure_bst_tracking (← tracking_command params))

def feature_request : String × (Params → Except BVIEW_STATUS Bst.RestRequest) :=
  ("configure-bst-feature",
    fun params =>
      return .bstjson_configure_bst_feature (← Bst.bstjson_configure_bst_feature params))

-- The methods of BST that only read their parameters, with what they make of them.
def bst_commands : List (String × (Params → Except BVIEW_STATUS Bst.RestRequest)) :=
  [tracking_request,
    feature_request,
    ("get-bst-report",
      fun params => return .bstjson_get_bst_report (← realm_flags params "include")),
    ("get-bst-feature", fun _ => return .bstjson_get_bst_feature),
    ("get-bst-tracking", fun _ => return .bstjson_get_bst_tracking),
    ("get-bst-thresholds",
      fun params => return .bstjson_get_bst_thresholds (← realm_flags params "include")),
    ("clear-bst-thresholds", fun _ => return .bstjson_clear_bst_thresholds),
    ("clear-bst-statistics", fun _ => return .bstjson_clear_bst_statistics)]

def commandHandler (arith : CJson.Arithmetic)
    (command : String × (Params → Except BVIEW_STATUS Bst.RestRequest)) : Handler :=
  fun calls args => (bst_handler arith calls.bst args command.1 command.2).map .bst

theorem feature_request_mem : feature_request ∈ bst_commands :=
  List.mem_cons_of_mem _ List.mem_cons_self

theorem started_firstApi (hstarted : Started arith modules) {name : List Char}
    (hother : find_api name (used (system_utils_module arith)) = none)
    {api : BVIEW_REST_API Handler} (hfound : find_api name (used (bst_module arith)) = some api) :
    firstApi modules name = some api := by
  rcases hstarted with rfl | rfl
  · have hdata : (run register modulemgr_init
        [system_utils_module arith, bst_module arith]).moduleData =
          used (system_utils_module arith) :: used (bst_module arith) ::
            List.replicate 14 zeroed := rfl
    rw [firstApi, hdata, List.findSome?_cons, hother, List.findSome?_cons, hfound]
  · have hdata : (run register modulemgr_init
        [bst_module arith, system_utils_module arith]).moduleData =
          used (bst_module arith) :: used (system_utils_module arith) ::
            List.replicate 14 zeroed := rfl
    rw [firstApi, hdata, List.findSome?_cons, hfound]

theorem commands_lead (hstarted : Started arith modules) :
    ∀ command ∈ bst_commands, Leads modules command.1.toList (commandHandler arith command) ∧
      command.1.toList.length < JSON_MAX_NODE_LENGTH := by
  simp only [bst_commands, tracking_request, feature_request, List.forall_mem_cons,
    List.not_mem_nil, false_implies, implies_true, and_true]
  refine ⟨⟨?_, by decide⟩, ⟨?_, by decide⟩, ⟨?_, by decide⟩, ⟨?_, by decide⟩, ⟨?_, by decide⟩,
    ⟨?_, by decide⟩, ⟨?_, by decide⟩, ⟨?_, by decide⟩⟩
  all_goals exact started_firstApi hstarted rfl rfl

variable {calls : Calls} {slot : Nat} {request : RequestBytes} {body : List Char} {id : Int32}
  {root : CJson.Item arith.Double} {params : Params}
  {command : String × (Params → Except BVIEW_STATUS Bst.RestRequest)}

-- What becomes of a request whose ASIC is known.
def commandServed (calls : Calls) (slot : Nat) (id : Int32) (asicId : Int32)
    (attempt : Except BVIEW_STATUS Bst.RestRequest) : Served :=
  match attempt with
  | .error rv => ⟨⟨.SUCCESS, .SUCCESS, id.toInt, .SUCCESS, rv⟩, none⟩
  | .ok asked =>
      if calls.bst.msgsnd then
        ⟨⟨.SUCCESS, .SUCCESS, id.toInt, .SUCCESS, .SUCCESS⟩,
          some (.bst (.zeroed (asked.msg slot asicId.toUInt32.toNat id.toInt)))⟩
      else ⟨⟨.SUCCESS, .SUCCESS, id.toInt, .SUCCESS, .FAILURE⟩, none⟩

theorem mandatory_asic_string {root : Params} {asicStr : String}
    (h : root "asic-id" = some (.string asicStr)) :
    mandatory_asic root = JSON_ASIC_ID_MAP_FROM_NOTATION asicStr.toList := by
  simp only [mandatory_asic, mandatory_string, h]
  rfl

theorem command_served {asicStr : String} (hstarted : Started arith modules)
    (hcommand : command ∈ bst_commands) (hcarries : Carries modules request body)
    (hasks : Asks arith body command.1 id root params)
    (hasic : members root "asic-id" = some (.string asicStr)) :
    serve arith modules calls slot request =
      match JSON_ASIC_ID_MAP_FROM_NOTATION asicStr.toList with
      | .error .overrun => none
      | .error (.status rv) => some ⟨⟨.SUCCESS, .SUCCESS, id.toInt, .SUCCESS, rv⟩, none⟩
      | .ok asicId => some (commandServed calls slot id asicId (command.2 params)) := by
  obtain ⟨hleads, hshort⟩ := commands_lead hstarted command hcommand
  have henvelope := hasks.envelope hshort mandatory_asic (carries_args hcarries slot)
  rw [mandatory_asic_string hasic] at henvelope
  rw [serve_asks hcarries hasks hshort hleads rfl]
  simp only [commandHandler, bst_handler, henvelope]
  cases JSON_ASIC_ID_MAP_FROM_NOTATION asicStr.toList with
  | error fault => cases fault <;> rfl
  | ok asicId =>
      cases hattempt : command.2 params with
      | error rv =>
          simp [commandServed, hattempt, checked, bind, Except.bind, Except.mapError, Except.map,
            statusOf, Except.toOption]
      | ok asked =>
          cases hsent : calls.bst.msgsnd <;>
            simp [commandServed, hattempt, checked, bind, Except.bind, Except.mapError,
              Except.map, statusOf, Except.toOption, bst_send_request, hsent, unit, pure,
              Except.pure]

-- The application counts its one ASIC from 1, and the units from 0.
theorem command_served_one {asicStr : String} (hstarted : Started arith modules)
    (hcommand : command ∈ bst_commands) (hcarries : Carries modules request body)
    (hasks : Asks arith body command.1 id root params)
    (hasic : members root "asic-id" = some (.string asicStr)) (hone : atoi asicStr.toList = 1) :
    serve arith modules calls slot request =
      some (commandServed calls slot id 0 (command.2 params)) := by
  rw [command_served hstarted hcommand hcarries hasks hasic, map_from_notation_one hone]

end Commands

end BroadView.Rest.Serve
