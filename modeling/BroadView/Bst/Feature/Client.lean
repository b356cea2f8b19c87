import BroadView.Bst.Feature.RoundTrip
import BroadView.Rest.Serve.Text

-- The feature parameters as a client of the agent sends and reads them.
namespace BroadView.Bst

open Transition Printf Json Rest Rest.Serve ModuleMgr Http

section Read

variable {arith : CJson.Arithmetic} {text : List Char} {name : String}

-- The parser reads a parameter of this name and value in the result of the text.
def ReadsParam (arith : CJson.Arithmetic) (text : List Char) (name : String) (value : Int) : Prop :=
  ∃ root result valuedouble valueint, CJson.cJSON_Parse arith text = .ok root ∧
    CJson.cJSON_GetObjectItem root "result".toList = some result ∧
    CJson.cJSON_GetObjectItem result name.toList = some (.number valuedouble valueint) ∧
    valueint.toInt = value

theorem getObjectItem_int {whole : Nat → arith.Double} (hexact : CJson.Exact arith whole)
    {fields : List (List Char × Json)} {value : Int} (hvalue : IsCInt value)
    (hlookup : CJson.lookup fields name.toList = some (.number (showInt value))) :
    ∃ valuedouble valueint, CJson.cJSON_GetObjectItem (CJson.decode arith (.object fields))
        name.toList = some (.number valuedouble valueint) ∧ valueint.toInt = value := by
  obtain ⟨hlow, hhigh⟩ := hvalue
  have hint : (Int32.ofInt value).toInt = value :=
    Int32.toInt_ofInt_of_le (by omega) (by omega)
  obtain ⟨valuedouble, hparse⟩ := CJson.parse_number_showInt hexact (Int32.ofInt value)
  have hwhole := hparse [] CJson.stops_nil
  rw [List.append_nil, hint] at hwhole
  refine ⟨valuedouble, Int32.ofInt value, ?_, hint⟩
  rw [CJson.getObjectItem_decode, hlookup, Option.map_some, CJson.decode, hwhole]

theorem feature_values_named (data : BSTJSON_CONFIGURE_BST_FEATURE) :
    CJson.Named ((featureValues data).map fun param => (paramField param.1 param.2).json)
      (featureParams.map Prod.fst) := by
  refine ⟨?_, by decide, by decide⟩
  rw [featureValues, List.map_map, List.map_map, List.map_map]
  exact List.map_congr_left fun param _ => rfl

theorem feature_reply_named (data : BSTJSON_CONFIGURE_BST_FEATURE) (method : Int)
    (asicIdStr : List Char) : CJson.Named (featureReplyJson data method asicIdStr)
      ["jsonrpc", "method", "asic-id", "version", "result", "id"] :=
  ⟨rfl, by decide, by decide⟩

theorem feature_reply_reads {whole : Nat → arith.Double} (hexact : CJson.Exact arith whole)
    (data : BSTJSON_CONFIGURE_BST_FEATURE) (method : Int) {asicIdStr : List Char}
    (hasic : Plain asicIdStr) (hdata : ∀ param ∈ featureParams, IsCInt (param.2 data)) :
    ∀ param ∈ featureParams, ReadsParam arith (format getBstFeatureTemplate.toList
      (.str asicIdStr :: .int BVIEW_JSON_VERSION :: feature_args data method)) param.1
        (param.2 data) := by
  intro param hmem
  have hwrites := writes_feature_reply data method hasic []
  rw [List.append_nil] at hwrites
  have hresult : ("result".toList, Json.object ((featureValues data).map fun param =>
      (paramField param.1 param.2).json)) ∈ featureReplyJson data method asicIdStr :=
    List.mem_append_right _ List.mem_cons_self
  have hvalue : (param.1.toList, Json.number (showInt (param.2 data))) ∈
      (featureValues data).map fun param => (paramField param.1 param.2).json :=
    List.mem_map.mpr ⟨(param.1, param.2 data), List.mem_map.mpr ⟨param, hmem, rfl⟩, rfl⟩
  obtain ⟨valuedouble, valueint, hget, hint⟩ := getObjectItem_int hexact (hdata param hmem)
    ((feature_values_named data).lookup_eq hvalue)
  refine ⟨_, _, valuedouble, valueint, CJson.parse_element arith hwrites, ?_, hget, hint⟩
  rw [CJson.getObjectItem_decode, (feature_reply_named data method asicIdStr).lookup_eq hresult,
    Option.map_some]

end Read

section RoundTrip

variable {arith : CJson.Arithmetic} {localtime : Int → Tm} {unit : Nat}
  {cxt : BVIEW_BST_UNIT_CXT} {text : List Char}

theorem answers_feature_reads {whole : Nat → arith.Double} (hexact : CJson.Exact arith whole)
    (hints : StoresCInts cxt) (hanswer : AnswersFeature localtime unit cxt text) :
    ∀ param ∈ featureParams, ReadsParam arith text param.1 (param.2 cxt.bst_config.config) := by
  obtain ⟨asicIdStr, method, hasic, htext⟩ := answers_feature_text hints hanswer
  rw [htext]
  exact feature_reply_reads hexact cxt.bst_config.config method hasic hints

-- The message of a feature request that is read.
theorem feature_posted {modules : MODULES Handler} {calls : Calls} {slot : Nat}
    {request : RequestBytes} {body : List Char} {id : Int32} {root : CJson.Item arith.Double}
    {asicStr : String} {params : Params} {served : Served} {msg : ThresholdMessage}
    (hstarted : Started arith modules) (hcarries : Carries modules request body)
    (hasks : Asks arith body "configure-bst-feature" id root params)
    (hasic : members root "asic-id" = some (.string asicStr))
    (hserve : serve arith modules calls slot request = some served)
    (hposted : served.posted = some (.bst msg)) :
    msg.msg_type = .SET_FEATURE ∧ bstjson_configure_bst_feature params = .ok msg.config := by
  rw [command_served hstarted feature_request_mem hcarries hasks hasic] at hserve
  cases hasicId : JSON_ASIC_ID_MAP_FROM_NOTATION asicStr.toList with
  | error fault =>
      rw [hasicId] at hserve
      cases fault with
      | overrun => cases hserve
      | status rv =>
          cases hserve
          cases hposted
  | ok asicId =>
      simp only [hasicId, feature_request, commandServed] at hserve
      cases hparse : bstjson_configure_bst_feature params with
      | error rv =>
          simp only [hparse, bind, Except.bind] at hserve
          cases hserve
          cases hposted
      | ok pCommand =>
          simp only [hparse, bind, Except.bind, pure, Except.pure] at hserve
          split_ifs at hserve
          · cases hserve
            cases hposted
            exact ⟨rfl, rfl⟩
          · cases hserve
            cases hposted

-- The parameters stay as the request has stored them.
theorem feature_request_kept {params : Params} {num_units : Nat} {state : BVIEW_BST_CXT}
    {act : Action} {acts : List Action} {msg : BVIEW_BST_REQUEST_MSG} {env : Env}
    (htaken : takenFor num_units unit state act = some (.app msg env))
    (htype : msg.msg_type = .SET_FEATURE)
    (hparse : bstjson_configure_bst_feature params = .ok msg.config)
    (hok : handledRv (state.unit unit) (.app msg env) = .SUCCESS)
    (hquiet : Along (step num_units) (OnUnit num_units unit KeepsFeature)
      (step num_units state act) acts) :
    ∀ param ∈ featureParams,
      param.2 ((run (step num_units) (step num_units state act) acts).unit unit).bst_config.config =
        requested params param.1 (param.2 (state.unit unit).bst_config.config) := by
  have hkept := unit_invariant
    (fun cxt => cxt.bst_config.config = ((step num_units state act).unit unit).bst_config.config)
    (fun cxt act hsame hkeeps => by
      rw [unitStep_feature, handled_feature cxt act hkeeps.1 hkeeps.2, hsame])
    (step num_units state act) acts rfl hquiet
  rw [hkept]
  exact feature_request_stores htaken htype hparse hok

-- What a client asks for in a request it reads in the answers from then on, with
-- the parser that the agent is built with: each parameter of the request with its
-- value, every other one as before.
theorem feature_request_read_back {whole : Nat → arith.Double}
    (hexact : CJson.Exact arith whole) {modules : MODULES Handler} {calls : Calls} {slot : Nat}
    {request : RequestBytes} {body : List Char} {id : Int32} {root : CJson.Item arith.Double}
    {asicStr : String} {params : Params} {served : Served} {msg : ThresholdMessage}
    {num_units : Nat} {state : BVIEW_BST_CXT} {act : Action} {acts : List Action} {env : Env}
    (hstarted : Started arith modules) (hcarries : Carries modules request body)
    (hasks : Asks arith body "configure-bst-feature" id root params)
    (hasic : members root "asic-id" = some (.string asicStr))
    (hserve : serve arith modules calls slot request = some served)
    (hposted : served.posted = some (.bst msg))
    (htaken : takenFor num_units 0 state act = some (.app msg.toBVIEW_BST_REQUEST_MSG env))
    (hok : handledRv (state.unit 0) (.app msg.toBVIEW_BST_REQUEST_MSG env) = .SUCCESS)
    (hints : StoresCInts (state.unit 0))
    (hquiet : Along (step num_units) (OnUnit num_units 0 KeepsFeature)
      (step num_units state act) acts)
    (hget : AnswersFeature localtime 0
      ((run (step num_units) (step num_units state act) acts).unit 0) text) :
    ∀ name ∈ featureParams.map Prod.fst, ∃ value,
      (∀ before, AnswersFeature localtime 0 (state.unit 0) before →
        ReadsParam arith before name value) ∧
      ReadsParam arith text name (requested params name value) := by
  obtain ⟨htype, hparse⟩ := feature_posted hstarted hcarries hasks hasic hserve hposted
  have hvalues := feature_request_kept htaken htype hparse hok hquiet
  have hranges : StoresCInts ((run (step num_units) (step num_units state act) acts).unit 0) :=
    fun param hmem => by
      rw [hvalues param hmem]
      exact requested_isCInt (hints param hmem)
  intro name hname
  obtain ⟨param, hmem, rfl⟩ := List.mem_map.mp hname
  refine ⟨param.2 (state.unit 0).bst_config.config, fun before hbefore => ?_, ?_⟩
  · exact answers_feature_reads hexact hints hbefore param hmem
  · have hreads := answers_feature_reads hexact hranges hget param hmem
    rwa [hvalues param hmem] at hreads

def sampleQueued : BVIEW_BST_CXT :=
  { sampleStart with recvMsgQid := [(sampleMsg 2).toBVIEW_BST_REQUEST_MSG] }

def sampleStored : BVIEW_BST_CXT := step 1 sampleQueued (.bst_app_main sampleEnv)

-- The trigger timer expires, and the application enables BST again.
def sampleSteps : List Action :=
  [.bst_trigger_send_request (.zeroed .CLEAR_TRIGGER_COUNT 0), .bst_trigger_main sampleEnv,
    .bst_app_main sampleEnv]

def sampleReply : List Char :=
  (bstjson_encode_get_bst_feature 0 7 ((run (step 1) sampleStored sampleSteps).unit
    0).bst_config.config bstjson_memory_init).text

theorem sampleSteps_keep : Along (step 1) (OnUnit 1 0 KeepsFeature) sampleStored sampleSteps := by
  have hexpiry : takenFor 1 0 (run (step 1) sampleStored (sampleSteps.take 1))
      (.bst_trigger_main sampleEnv) =
        some (.trigger (.zeroed .CLEAR_TRIGGER_COUNT 0) sampleEnv) := rfl
  have henable : takenFor 1 0 (run (step 1) sampleStored (sampleSteps.take 2))
      (.bst_app_main sampleEnv) =
        some (.app (.zeroed .ENABLE_BST_ON_TRIGGER 0) sampleEnv) := rfl
  refine ⟨fun unitAct h => ?_, onUnit_of_taken hexpiry ⟨nofun, nofun⟩,
    onUnit_of_taken henable ⟨nofun, nofun⟩, trivial⟩
  cases h

theorem interval_read_back :
    ReadsParam CJson.wholeNumbers sampleReply "collection-interval" 90 := by
  obtain ⟨root, hasks, hasic⟩ := sample_asks
  have hints : StoresCInts (sampleQueued.unit 0) := by
    unfold StoresCInts IsCInt
    decide
  have hget : AnswersFeature (fun _ => sampleTm) 0
      ((run (step 1) sampleStored sampleSteps).unit 0) sampleReply := by
    refine ⟨0, 7, sampleEnv, preparedReply _
      (RestRequest.bstjson_get_bst_feature.action 0 0 7 sampleEnv), bstjson_memory_init, _,
      by unfold IsCInt; decide, List.mem_cons_self, rfl, rfl, rfl⟩
  have htaken : takenFor 1 0 sampleQueued (.bst_app_main sampleEnv) =
      some (.app (sampleMsg 2).toBVIEW_BST_REQUEST_MSG sampleEnv) := rfl
  have hok : handledRv (sampleQueued.unit 0)
      (.app (sampleMsg 2).toBVIEW_BST_REQUEST_MSG sampleEnv) = .SUCCESS := rfl
  obtain ⟨value, -, hreads⟩ := feature_request_read_back CJson.exact_wholeNumbers sample_started
    (sampleHttp.carries sample_named) hasks hasic (sample_served 2) rfl htaken hok hints
    sampleSteps_keep hget "collection-interval" (by decide)
  exact hreads

end RoundTrip

end BroadView.Bst
