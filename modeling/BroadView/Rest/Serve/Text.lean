import BroadView.Json.Writer
import BroadView.Rest.Serve.Requests

-- Requests as a client writes them.
namespace BroadView.Rest.Serve

open Json Printf CString ModuleMgr Http

section Write

def paramFields (params : List (String × Int32)) : List (List Char × Json) :=
  params.map fun param => (param.1.toList, .number (showInt param.2.toInt))

def paramsText (params : List (String × Int32)) : List Char :=
  bareObject (params.map fun param => bareMember param.1 (showInt param.2.toInt))

theorem writes_paramsText {params : List (String × Int32)}
    (hplain : ∀ param ∈ params, Plain param.1.toList) :
    Writes (.value (.object (paramFields params))) (paramsText params) := by
  refine writes_bareObject ?_
  rw [paramFields, List.forall₂_map_left_iff, List.forall₂_map_right_iff, List.forall₂_same]
  exact fun param hmem =>
    writes_bareMember (hplain param hmem) (writes_number (isNumber_showInt _))

def requestFields (name asicStr : String) (id : Int32) (params : List (String × Int32)) :
    List (List Char × Json) :=
  [("jsonrpc".toList, .string "2.0".toList), ("method".toList, .string name.toList),
    ("asic-id".toList, .string asicStr.toList), ("params".toList, .object (paramFields params)),
    ("id".toList, .number (showInt id.toInt))]

def requestText (name asicStr : String) (id : Int32) (params : List (String × Int32)) :
    List Char :=
  bareObject [bareMember "jsonrpc" "\"2.0\"".toList,
    bareMember "method" ('"' :: name.toList ++ ['"']),
    bareMember "asic-id" ('"' :: asicStr.toList ++ ['"']),
    bareMember "params" (paramsText params), bareMember "id" (showInt id.toInt)]

theorem writes_requestText {name asicStr : String} (id : Int32) {params : List (String × Int32)}
    (hname : Plain name.toList) (hasic : Plain asicStr.toList)
    (hplain : ∀ param ∈ params, Plain param.1.toList) :
    Writes (.element (.object (requestFields name asicStr id params)))
      (requestText name asicStr id params) := by
  have hobject : Writes (.value (.object (requestFields name asicStr id params)))
      (requestText name asicStr id params) := by
    refine writes_bareObject ?_
    refine .cons (writes_bareMember (by decide) (writes_string (by decide))) ?_
    refine .cons (writes_bareMember (by decide) (writes_string hname)) ?_
    refine .cons (writes_bareMember (by decide) (writes_string hasic)) ?_
    refine .cons (writes_bareMember (by decide) (writes_paramsText hplain)) ?_
    exact .cons (writes_bareMember (by decide) (writes_number (isNumber_showInt _))) .nil
  exact hobject.bare

end Write

section Read

variable {arith : CJson.Arithmetic} {whole : Nat → arith.Double}

-- What the handlers find in parameters that are written so. Names are compared
-- without their case.
def paramsOf (params : List (String × Int32)) : Params := fun name =>
  (params.find? fun param => CJson.cJSON_strcasecmp param.1.toList name.toList = 0).map
    fun param => .number param.2

theorem members_paramFields (hexact : CJson.Exact arith whole) {params : List (String × Int32)}
    (hplain : ∀ param ∈ params, Plain param.1.toList) :
    members (CJson.decode arith (.object (paramFields params))) = paramsOf params := by
  funext name
  rw [members_decode, paramsOf, CJson.lookup, paramFields]
  induction params with
  | nil => rfl
  | cons param params ih =>
      obtain ⟨hparam, hparams⟩ := List.forall_mem_cons.mp hplain
      have hsame : CJson.unescaped param.1.toList = param.1.toList :=
        CJson.unescaped_denotes (CJson.denotes_plain hparam)
      rw [List.map_cons, List.find?_cons, List.find?_cons, hsame]
      by_cases hname : CJson.cJSON_strcasecmp param.1.toList name.toList = 0
      · simp [hname, found_int hexact]
      · simp only [hname, decide_false]
        exact ih hparams

theorem requestText_asks (hexact : CJson.Exact arith whole) {name asicStr : String} {id : Int32}
    {params : List (String × Int32)} (hname : Plain name.toList) (hasic : Plain asicStr.toList)
    (hplain : ∀ param ∈ params, Plain param.1.toList) (hrange : 1 ≤ id ∧ id ≤ 100000) :
    ∃ root, Asks arith (requestText name asicStr id params) name id root (paramsOf params) ∧
      members root "asic-id" = some (.string asicStr) := by
  have htext := writes_requestText id hname hasic hplain []
  rw [List.append_nil] at htext
  have hlookup : ∀ field ∈ requestFields name asicStr id params,
      CJson.lookup (requestFields name asicStr id params) field.1 = some field.2 := by
    have hkeys : (requestFields name asicStr id params).map Prod.fst =
        ["jsonrpc", "method", "asic-id", "params", "id"].map String.toList := rfl
    have hlower : ∀ key ∈ (requestFields name asicStr id params).map Prod.fst,
        CJson.Lower key := by
      rw [hkeys]
      decide
    have hnodup : ((requestFields name asicStr id params).map Prod.fst).Nodup := by
      rw [hkeys]
      decide
    exact fun field hmem => CJson.lookup_of_mem
      (fun other hother => hlower _ (List.mem_map_of_mem hother)) hnodup hmem
  simp only [requestFields, List.forall_mem_cons, List.not_mem_nil, false_implies, implies_true,
    and_true] at hlookup
  obtain ⟨hversion, hmethod, hfound, hparams, hid⟩ := hlookup
  refine ⟨_, ?_, members_string hfound hasic⟩
  rw [← members_paramFields hexact hplain]
  exact asks_text hexact htext hversion hmethod hname hid hrange hparams

variable {modules : MODULES Handler} {calls : Calls} {slot : Nat} {id : Int32}
  {command : String × (Params → Except BVIEW_STATUS Bst.RestRequest)}

theorem commands_plain : ∀ command ∈ bst_commands, Plain command.1.toList := by
  simp only [bst_commands, tracking_request, feature_request, List.forall_mem_cons,
    List.not_mem_nil, false_implies, implies_true, and_true]
  decide

-- A request that a client writes posts what its method makes of the parameters that
-- were written, for the session and with the id, or is refused.
theorem requestText_served (hexact : CJson.Exact arith whole) (hstarted : Started arith modules)
    (hcommand : command ∈ bst_commands) {request : HttpRequest} {featureName : List Char}
    (hnamed : Named modules request.url featureName) {asicStr : String}
    {params : List (String × Int32)}
    (hbody : request.body = requestText command.1 asicStr id params)
    (hasic : Plain asicStr.toList) (hone : atoi asicStr.toList = 1)
    (hplain : ∀ param ∈ params, Plain param.1.toList) (hrange : 1 ≤ id ∧ id ≤ 100000) :
    serve arith modules calls slot request.bytes =
      some (commandServed calls slot id 0 (command.2 (paramsOf params))) := by
  obtain ⟨root, hasks, hfound⟩ :=
    requestText_asks hexact (commands_plain command hcommand) hasic hplain hrange
  rw [← hbody] at hasks
  exact command_served_one hstarted hcommand (request.carries hnamed) hasks hfound hone

end Read

section Samples

open CJson Transition

def sampleParams : List (String × Int32) :=
  [("bst-enable", 1), ("send-async-reports", 1), ("collection-interval", 90),
    ("stat-units-in-cells", 1)]

def sampleHttp : HttpRequest where
  method := "POST".toList
  url := "/broadview/bst/configure-bst-feature".toList
  headers := "HTTP/1.1".toList
  body := requestText "configure-bst-feature" "1" 7 sampleParams
  supported := by decide
  word := ⟨by decide, by decide⟩
  first := by decide +kernel
  fits := by decide +kernel
  copied := by decide +kernel

def sampleModules : MODULES Handler :=
  run register modulemgr_init [system_utils_module wholeNumbers, bst_module wholeNumbers]

def sampleCalls : Calls :=
  { bst := { sbapi_system_asic_capabilities_get := none, msgsnd := true }, system := true }

def sampleAsked : Bst.BSTJSON_CONFIGURE_BST_FEATURE :=
  { (default : Bst.BSTJSON_CONFIGURE_BST_FEATURE) with
    bstEnable := 1
    sendAsyncReports := 1
    collectionInterval := 90
    statUnitsInCells := 1
    configMask := { (default : Bst.BST_CONFIG_PARAM_MASK) with
      ENABLE := true, SND_ASYNC_REP := true, COLL_INTRVL := true, STATS_UNITS := true } }

def sampleMsg (slot : Nat) : Bst.ThresholdMessage :=
  .zeroed ((Bst.RestRequest.bstjson_configure_bst_feature sampleAsked).msg slot 0 7)

theorem sample_started : Started wholeNumbers sampleModules := .inl rfl

theorem sample_named : Named sampleModules sampleHttp.url "bst".toList :=
  ⟨by decide +kernel, by decide +kernel, by decide +kernel⟩

theorem sample_asked :
    feature_request.2 (paramsOf sampleParams) = .ok (.bstjson_configure_bst_feature sampleAsked) :=
  rfl

theorem sample_plain : ∀ param ∈ sampleParams, Plain param.1.toList := by decide

theorem sample_asks : ∃ root, Asks wholeNumbers sampleHttp.body "configure-bst-feature" 7 root
    (paramsOf sampleParams) ∧ members root "asic-id" = some (.string "1") :=
  requestText_asks exact_wholeNumbers (by decide) (by decide) sample_plain (by decide)

theorem sample_served (slot : Nat) :
    serve wholeNumbers sampleModules sampleCalls slot sampleHttp.bytes =
      some ⟨⟨.SUCCESS, .SUCCESS, 7, .SUCCESS, .SUCCESS⟩, some (.bst (sampleMsg slot))⟩ := by
  obtain ⟨root, hasks, hasic⟩ := sample_asks
  rw [command_served_one sample_started feature_request_mem (sampleHttp.carries sample_named)
    hasks hasic rfl, sample_asked]
  rfl

theorem feature_requestText_served :
    serve wholeNumbers sampleModules sampleCalls 2 sampleHttp.bytes =
      some ⟨⟨.SUCCESS, .SUCCESS, 7, .SUCCESS, .SUCCESS⟩, some (.bst (sampleMsg 2))⟩ := by
  have hbody : sampleHttp.body = requestText feature_request.1 "1" 7 sampleParams := rfl
  rw [requestText_served exact_wholeNumbers sample_started feature_request_mem sample_named hbody
    (by decide) rfl sample_plain (by decide), sample_asked]
  rfl

end Samples

end BroadView.Rest.Serve
