import Mathlib.Algebra.Order.BigOperators.Group.List
import BroadView.Bst.Encoder.Response
import BroadView.Bst.Encoder.WellFormed
import BroadView.Bst.Feature.Theorems
import BroadView.Bst.Response

namespace BroadView.Bst

open Transition Printf Json Rest

def IsCInt (value : Int) : Prop := -2147483648 ≤ value ∧ value ≤ 2147483647

-- The parameters a get-bst-feature reply reports, under their JSON names.
def featureParams : List (String × (BSTJSON_CONFIGURE_BST_FEATURE → Int)) :=
  [("bst-enable", fun ptr => ptr.bstEnable),
    ("send-async-reports", fun ptr => ptr.sendAsyncReports),
    ("collection-interval", fun ptr => ptr.collectionInterval),
    ("stat-units-in-cells", fun ptr => ptr.statUnitsInCells),
    ("trigger-rate-limit", fun ptr => ptr.bstMaxTriggers.toInt),
    ("send-snapshot-on-trigger", fun ptr => ptr.sendSnapshotOnTrigger),
    ("trigger-rate-limit-interval", fun ptr => ptr.triggerTransmitInterval),
    ("async-full-reports", fun ptr => if ptr.sendIncrementalReport = 0 then 1 else 0),
    ("stats-in-percentage", fun ptr => ptr.statsInPercentage)]

-- What the field of a name is after a request with these parameters.
def requested (params : Params) (name : String) (value : Int) : Int :=
  match params name with
  | some (.number valueint) => valueint.toInt
  | _ => value

section Parsed

variable {params : Params} {name : String} {low high value : Int32} {option : Option Int32}

theorem mandatory_requested (h : mandatory params name low high = .ok value) (old : Int) :
    requested params name old = value.toInt := by
  revert h
  unfold mandatory requested
  cases params name with
  | none => nofun
  | some item =>
      cases item with
      | number valueint =>
          intro h
          dsimp only at h
          split_ifs at h
          exact congrArg Int32.toInt (Except.ok.inj h)
      | _ => nofun

theorem optional_requested (h : Rest.optional params name low high = .ok option) (old : Int) :
    requested params name old = if option.isSome then (option.getD 0).toInt else old := by
  unfold Rest.optional at h
  split at h
  · rename_i hitem
    cases h
    simp [requested, hitem]
  · cases hvalue : mandatory params name low high with
    | error err =>
        rw [hvalue] at h
        cases h
    | ok value =>
        rw [hvalue] at h
        cases h
        exact mandatory_requested hvalue old

theorem optional_switch (h : Rest.optional params name 0 1 = .ok option) :
    (option.getD 0).toInt = 0 ∨ (option.getD 0).toInt = 1 := by
  unfold Rest.optional at h
  split at h
  · cases h
    exact .inl rfl
  · cases hvalue : mandatory params name 0 1 with
    | error err =>
        rw [hvalue] at h
        cases h
    | ok value =>
        rw [hvalue] at h
        cases h
        obtain ⟨hlow, hhigh⟩ := mandatory_range hvalue
        rw [Int32.le_iff_toInt_le] at hlow hhigh
        change 0 ≤ _ at hlow
        change _ ≤ 1 at hhigh
        change value.toInt = 0 ∨ value.toInt = 1
        omega

theorem requested_isCInt {old : Int} (h : IsCInt old) : IsCInt (requested params name old) := by
  unfold requested
  split
  · rename_i valueint _
    exact ⟨valueint.le_toInt, valueint.toInt_le⟩
  · exact h

end Parsed

section Stored

variable {params : Params} {msg : BVIEW_BST_REQUEST_MSG} {env : Env} {cxt : BVIEW_BST_UNIT_CXT}

theorem feature_set_config (h : CarriesMandatory msg.config)
    (hok : (bst_config_feature_set msg env cxt).rv = .SUCCESS) :
    (bst_config_feature_set msg env cxt).cxt.bst_config.config =
      { (store_request msg.config env cxt).bst_config.config with
        bstEnable := msg.config.bstEnable } := by
  have hcalls := mt (feature_set_fails_iff h).mpr (not_not.mpr hok)
  rw [not_or, not_not, not_not] at hcalls
  obtain ⟨hgot, hset⟩ := hcalls
  simp [bst_config_feature_set, h.enable, hgot, hset, setFeature]

-- Full asynchronous reports are negated once when they are stored and once
-- when they are printed.
theorem feature_set_stores (hparse : bstjson_configure_bst_feature params = .ok msg.config)
    (hok : (bst_config_feature_set msg env cxt).rv = .SUCCESS) :
    ∀ param ∈ featureParams,
      param.2 (bst_config_feature_set msg env cxt).cxt.bst_config.config =
        requested params param.1 (param.2 cxt.bst_config.config) := by
  have hcarries : CarriesMandatory msg.config := Admitted.carries ⟨params, hparse⟩
  rw [feature_set_config hcarries hok, store_request_config hcarries]
  simp only [bstjson_configure_bst_feature, bind_ok_iff] at hparse
  obtain ⟨_, henable, _, hasync, _, hinterval, _, hunits, hparse⟩ := hparse
  obtain ⟨_, hlimit, _, hsnapshot, _, htransmit, full, hfull, _, hpercent, hparse⟩ := hparse
  rw [← Except.ok.inj hparse]
  simp only [featureParams, List.forall_mem_cons, List.not_mem_nil, false_implies, implies_true,
    and_true, store_late_params, store_early_params, if_true, mandatory_requested henable,
    mandatory_requested hasync, mandatory_requested hinterval, mandatory_requested hunits,
    optional_requested hlimit, optional_requested hsnapshot, optional_requested htransmit,
    optional_requested hpercent, true_and, apply_ite Int32.toInt]
  have hnegated := optional_switch hfull
  rw [optional_requested hfull]
  cases full with
  | none => rfl
  | some value =>
      change (if (if value.toInt = 0 then 1 else 0) = 0 then 1 else 0) = value.toInt
      change value.toInt = 0 ∨ value.toInt = 1 at hnegated
      rcases hnegated with hzero | hone
      · simp [hzero]
      · simp [hone]

end Stored

section Printed

def paramTemplate (name : String) : List Char := '"' :: name.toList ++ "\": %d".toList

def paramField (name : String) (value : Int) : Field := ⟨0, 0, name.toList, .int value⟩

theorem format_param {name : String} (h : '%' ∉ name.toList) (value : Int) (rest : List Char)
    (args : List Arg) :
    format (paramTemplate name ++ rest) (.int value :: args) =
      (paramField name value).text ++ format rest args := by
  have hcopied : '%' ∉ '"' :: name.toList ++ "\": ".toList := by simp [h]
  have hsplit : paramTemplate name ++ rest =
      ('"' :: name.toList ++ "\": ".toList) ++ ('%' :: 'd' :: rest) := by
    simp [paramTemplate]
  rw [hsplit, format_copies hcopied, format]
  simp [paramField, Field.text, argText, Arg.text]

theorem format_params (params : List (String × Int)) (h : ∀ param ∈ params, '%' ∉ param.1.toList)
    (rest : List Char) (args : List Arg) :
    format (List.intercalate [','] (params.map fun param => paramTemplate param.1) ++ rest)
        (params.map (fun param => .int param.2) ++ args) =
      List.intercalate [','] (params.map fun param => (paramField param.1 param.2).text) ++
        format rest args := by
  induction params with
  | nil => rfl
  | cons param params ih =>
      obtain ⟨hparam, hparams⟩ := List.forall_mem_cons.mp h
      cases params with
      | nil =>
          have hlast := format_param hparam param.2 rest args
          simpa [List.intercalate] using hlast
      | cons next params =>
          have hrest := ih hparams
          have hfirst := format_param hparam param.2
            (',' :: (List.intercalate [','] ((next :: params).map fun param =>
              paramTemplate param.1) ++ rest))
            ((next :: params).map (fun param => Arg.int param.2) ++ args)
          have hcomma := @Printf.format_copies [','] (by simp)
            (List.intercalate [','] ((next :: params).map fun param =>
              paramTemplate param.1) ++ rest)
            ((next :: params).map (fun param => Arg.int param.2) ++ args)
          simp only [List.map_cons, List.intercalate_cons_cons, List.append_assoc,
            List.cons_append, List.nil_append] at *
          rw [hfirst, hcomma, hrest]

end Printed

section Reported

variable (data : BSTJSON_CONFIGURE_BST_FEATURE) (method : Int)

def featureValues : List (String × Int) := featureParams.map fun param => (param.1, param.2 data)

def featureReplyFields (asicIdStr : List Char) : List Field :=
  [⟨0, 0, "jsonrpc".toList, .str "2.0".toList⟩,
    ⟨0, 0, "method".toList, .str "get-bst-feature".toList⟩,
    ⟨0, 0, "asic-id".toList, .str asicIdStr⟩,
    ⟨0, 0, "version".toList, .str (showInt BVIEW_JSON_VERSION)⟩]

def resultText : List Char :=
  "\"result\": ".toList ++ '{' :: List.intercalate [',']
    ((featureValues data).map fun param => (paramField param.1 param.2).text) ++ ['}']

theorem feature_template_eq :
    getBstFeatureTemplate.toList =
      " \x7b\"jsonrpc\": \"2.0\",\"method\": \"get-bst-feature\",\"asic-id\": \"".toList ++
        '%' :: 's' :: ("\",\"version\": \"".toList ++
          '%' :: 'd' :: ("\",\"result\": \x7b".toList ++
            (List.intercalate [','] (featureParams.map fun param => paramTemplate param.1) ++
              ("\x7d,\"id\": ".toList ++ ['%', 'd', '}'])))) := by
  unfold getBstFeatureTemplate
  simp only [String.toList_append, -String.reduceAppend]
  decide +kernel

theorem feature_reply_eq (asicIdStr : List Char) :
    format getBstFeatureTemplate.toList
        (.str asicIdStr :: .int BVIEW_JSON_VERSION :: feature_args data method) =
      " \x7b".toList ++ terminated ((featureReplyFields asicIdStr).map Field.text) ++
        resultText data ++ ",\"id\": ".toList ++ showInt method ++ ['}'] := by
  have hnames : (featureParams.map fun param => paramTemplate param.1) =
      (featureValues data).map fun param => paramTemplate param.1 := by
    rw [featureValues, List.map_map]
    rfl
  have hplain : ∀ param ∈ featureValues data, '%' ∉ param.1.toList := by
    simp [featureValues, featureParams]
  have hargs : feature_args data method =
      (featureValues data).map (fun param => .int param.2) ++ [.int method] := rfl
  have hend : format ['}'] [] = ['}'] := rfl
  rw [feature_template_eq, hnames, hargs, format_copies (by simp), format_str,
    format_copies (by simp), format_int, format_copies (by simp),
    format_params (featureValues data) hplain, format_copies (by simp), format_int, hend]
  unfold resultText
  generalize List.intercalate [','] ((featureValues data).map fun param =>
    (paramField param.1 param.2).text) = fields
  simp only [terminated, featureReplyFields, List.map_cons, List.map_nil, List.flatten_cons,
    List.flatten_nil, Field.text, argText, List.replicate_zero, List.append_assoc,
    List.cons_append, List.nil_append, List.append_nil]
  rfl

-- The JSON value of a get-bst-feature reply.
def featureReplyJson (asicIdStr : List Char) : List (List Char × Json) :=
  (featureReplyFields asicIdStr).map Field.json ++
    [("result".toList,
        .object ((featureValues data).map fun param => (paramField param.1 param.2).json)),
      (paramField "id" method).json]

theorem feature_params_plain : ∀ param ∈ featureValues data, Plain param.1.toList := by
  have hnames : ∀ param ∈ featureParams, Plain param.1.toList := by
    simp only [featureParams, List.forall_mem_cons, List.not_mem_nil, false_implies,
      implies_true, and_true]
    decide
  intro param hmem
  obtain ⟨known, hknown, rfl⟩ := List.mem_map.mp hmem
  exact hnames known hknown

theorem writes_feature_reply {asicIdStr : List Char} (hasic : Plain asicIdStr) :
    Json.Writes (.element (.object (featureReplyJson data method asicIdStr)))
      (format getBstFeatureTemplate.toList
        (.str asicIdStr :: .int BVIEW_JSON_VERSION :: feature_args data method)) := by
  have hparams : List.Forall₂ (fun field text => Json.Writes (.member field.1 field.2) text)
      ((featureValues data).map fun param => (paramField param.1 param.2).json)
      ((featureValues data).map fun param => (paramField param.1 param.2).text) := by
    have hfields := @writes_fields ((featureValues data).map fun param =>
      paramField param.1 param.2) (by
        rw [List.forall_mem_map]
        exact fun param hmem => ⟨feature_params_plain data param hmem, trivial⟩)
    simpa [Function.comp_def] using hfields
  have hvalue := (writes_members hparams (by simp [featureValues, featureParams])).object.element
    (blanks_spaces 1) (blanks_spaces 0)
  have hresult := hvalue.member (blanks_spaces 0) (show Plain "result".toList by decide)
    (blanks_spaces 0)
  have hhead := @writes_fields (featureReplyFields asicIdStr) (by
    simp only [featureReplyFields, List.forall_mem_cons]
    exact ⟨field_plain (by decide) (show Plain _ by decide),
      field_plain (by decide) (show Plain _ by decide), field_plain (by decide) hasic,
      field_plain (by decide) (plain_showInt _), fun _ hmem => absurd hmem List.not_mem_nil⟩)
  have hid := @writes_fields [paramField "id" method] (by
    intro field hmem
    rw [List.mem_singleton.mp hmem]
    exact field_plain (by decide) trivial)
  have htail : List.Forall₂ (fun field text => Json.Writes (.member field.1 field.2) text)
      [("result".toList, .object ((featureValues data).map fun param =>
        (paramField param.1 param.2).json)), (paramField "id" method).json] _ :=
    .cons hresult hid
  have hmembers := writes_members (List.rel_append hhead htail) (by simp)
  have hobject := hmembers.object.element (blanks_spaces 1) (blanks_spaces 0)
  rw [← terminated_intercalate _ (List.cons_ne_nil _ _)] at hobject
  rw [feature_reply_eq]
  unfold featureReplyJson resultText
  generalize terminated ((featureReplyFields asicIdStr).map Field.text) = header at hobject ⊢
  generalize List.intercalate [','] ((featureValues data).map fun param =>
    (paramField param.1 param.2).text) = fields at hobject ⊢
  generalize (featureValues data).map (fun param => (paramField param.1 param.2).json) = values
    at hobject ⊢
  simpa [paramField, Field.text, argText, Arg.text, List.intercalate_cons_cons] using hobject

theorem feature_template_length : getBstFeatureTemplate.toList.length ≤ 400 := by
  unfold getBstFeatureTemplate
  simp only [String.toList_append, List.length_append, -String.reduceAppend]
  decide +kernel

theorem cInt_length_le {value : Int} (h : IsCInt value) : (showInt value).length ≤ 11 := by
  refine showInt_length_le 10 value (by decide) ?_
  obtain ⟨hlow, hhigh⟩ := h
  omega

variable {data method} in
-- Nine parameters and the id are printed after a short notation, so the reply
-- is shorter than its buffer.
theorem feature_reply_length {asicIdStr : List Char} (hasic : asicIdStr.length ≤ 1)
    (hdata : ∀ param ∈ featureParams, IsCInt (param.2 data)) (hmethod : IsCInt method) :
    (format getBstFeatureTemplate.toList
      (.str asicIdStr :: .int BVIEW_JSON_VERSION :: feature_args data method)).length ≤
        BSTJSON_MEMORY_SIZE.bytes .RESPONSE - 1 := by
  refine (format_length_le _ _).trans ?_
  have htemplate := feature_template_length
  have hversion : (showInt BVIEW_JSON_VERSION).length = 1 := by decide
  have hroom : BSTJSON_MEMORY_SIZE.bytes .RESPONSE = 1024 := by decide
  have hid := cInt_length_le hmethod
  have hsum : ((featureParams.map fun param => (showInt (param.2 data)).length)).sum ≤ 9 * 11 := by
    have hle := List.sum_le_card_nsmul (featureParams.map fun param =>
      (showInt (param.2 data)).length) 11 (by
        rw [List.forall_mem_map]
        exact fun param hmem => cInt_length_le (hdata param hmem))
    simpa [featureParams] using hle
  have hargs : feature_args data method =
      featureParams.map (fun param => .int (param.2 data)) ++ [.int method] := rfl
  simp only [hargs, List.map_cons, List.map_append, List.map_map, List.sum_cons, List.sum_append,
    Function.comp_def, Arg.text, List.map_nil, List.sum_nil]
  omega

end Reported

section RoundTrip

variable (localtime : Int → Tm) (unit : Nat)

-- An object has one member of each name, and this is one of them.
def HasMember (members : List (List Char × Json)) (name : String) (json : Json) : Prop :=
  (members.map Prod.fst).Nodup ∧ (name.toList, json) ∈ members

-- The text is an object whose result has a parameter of this name and value.
def ReportsParam (text : List Char) (name : String) (value : Int) : Prop :=
  ∃ members result, Derives (.element (.object members)) text [] ∧
    HasMember members "result" (.object result) ∧
    HasMember result name (.number (showInt value))

-- What a get-bst-feature handled in this state is answered with.
def AnswersFeature (cxt : BVIEW_BST_UNIT_CXT) (text : List Char) : Prop :=
  ∃ cookie id env reply pool encoding, IsCInt id ∧
    .encode reply ∈ unitEmits cxt
      (RestRequest.bstjson_get_bst_feature.action cookie unit id env) ∧
    encode_reply localtime reply pool = some encoding ∧ encoding.rv = .SUCCESS ∧
    encoding.text = text

-- The stored parameters are C ints.
def StoresCInts (cxt : BVIEW_BST_UNIT_CXT) : Prop :=
  ∀ param ∈ featureParams, IsCInt (param.2 cxt.bst_config.config)

variable {localtime unit} {cxt : BVIEW_BST_UNIT_CXT} {text : List Char}

theorem reports_params (data : BSTJSON_CONFIGURE_BST_FEATURE) {method : Int}
    {asicIdStr : List Char} (hasic : Plain asicIdStr) :
    ∀ param ∈ featureParams, ReportsParam (format getBstFeatureTemplate.toList
      (.str asicIdStr :: .int BVIEW_JSON_VERSION :: feature_args data method)) param.1
        (param.2 data) := by
  intro param hmem
  have hwrites := writes_feature_reply data method hasic []
  rw [List.append_nil] at hwrites
  have hresult : ("result".toList, Json.object ((featureValues data).map fun param =>
      (paramField param.1 param.2).json)) ∈ featureReplyJson data method asicIdStr :=
    List.mem_append_right _ List.mem_cons_self
  refine ⟨_, _, hwrites, ⟨?_, hresult⟩, ?_, ?_⟩
  · have hkeys : (featureReplyJson data method asicIdStr).map Prod.fst =
        ["jsonrpc", "method", "asic-id", "version", "result", "id"].map String.toList := rfl
    rw [hkeys]
    exact List.Nodup.map (fun _ _ => String.toList_injective) (by decide)
  · have hkeys : ((featureValues data).map fun param =>
        (paramField param.1 param.2).json).map Prod.fst =
          (featureParams.map Prod.fst).map String.toList := by
      rw [featureValues, List.map_map, List.map_map, List.map_map]
      exact List.map_congr_left fun param _ => rfl
    rw [hkeys]
    exact List.Nodup.map (fun _ _ => String.toList_injective) (by decide)
  · have hvalue : (param.1, param.2 data) ∈ featureValues data :=
      List.mem_map.mpr ⟨param, hmem, rfl⟩
    exact List.mem_map.mpr ⟨_, hvalue, rfl⟩

-- The answer is the whole text of its template.
theorem answers_feature_text (hints : StoresCInts cxt)
    (hanswer : AnswersFeature localtime unit cxt text) :
    ∃ asicIdStr method, Plain asicIdStr ∧
      text = format getBstFeatureTemplate.toList (.str asicIdStr :: .int BVIEW_JSON_VERSION ::
        feature_args cxt.bst_config.config method) := by
  obtain ⟨cookie, id, env, reply, pool, encoding, hid, hemit, hencode, hok, rfl⟩ := hanswer
  have hprepared : reply = preparedReply cxt
      (RestRequest.bstjson_get_bst_feature.action cookie unit id env) :=
    ((mem_send_response_encode _ _ _).mp ((mem_unitEmits_reply cxt _ _ rfl).mp hemit).2).2.2
  have hreply : encode_reply localtime reply pool =
      some (bstjson_encode_get_bst_feature unit id cxt.bst_config.config pool) := by
    rw [hprepared]
    rfl
  obtain rfl := Option.some.inj (hreply.symm.trans hencode)
  unfold bstjson_encode_get_bst_feature encode_config at hok ⊢
  cases hslice : bstjson_memory_allocate .RESPONSE pool with
  | mk rv allocated =>
      obtain ⟨buffer, pool'⟩ := allocated
      simp only [hslice] at hok ⊢
      cases buffer with
      | none => cases hok
      | some jsonBuf =>
          cases hasic : sbplugin_ovsdb_system_asic_translate_to_notation unit with
          | none => simp only [hasic] at hok; cases hok
          | some asicIdStr =>
              obtain ⟨asic, hget, rfl⟩ := Option.map_eq_some_iff.mp hasic
              have hlength : (showInt asic).length ≤ 1 := by
                have hmem : asic ∈ asicAppMap := List.mem_of_getElem? hget
                rw [asicAppMap, List.mem_singleton] at hmem
                subst hmem
                decide
              dsimp only
              rw [List.take_of_length_le (feature_reply_length hlength hints hid)]
              exact ⟨showInt asic, id, plain_showInt asic, rfl⟩

theorem answers_feature_reports (hints : StoresCInts cxt)
    (hanswer : AnswersFeature localtime unit cxt text) :
    ∀ param ∈ featureParams, ReportsParam text param.1 (param.2 cxt.bst_config.config) := by
  obtain ⟨asicIdStr, method, hasic, htext⟩ := answers_feature_text hints hanswer
  rw [htext]
  exact reports_params _ hasic

-- No other feature request and no feature notification is handled.
def KeepsFeature (_cxt : BVIEW_BST_UNIT_CXT) (act : UnitAction) : Prop :=
  act.msg.msg_type ≠ .SET_FEATURE ∧ act.msg.msg_type ≠ .UPDATE_FEATURE

theorem unitStep_feature (cxt : BVIEW_BST_UNIT_CXT) (act : UnitAction) :
    (unitStep cxt act).bst_config.config = (handledCxt cxt act).bst_config.config := by
  rw [unitStep_eq]
  split_ifs
  · rw [update_data_config]
  · rfl

variable {num_units : Nat} {state : BVIEW_BST_CXT} {act : Action}
  {acts : List Action} {msg : BVIEW_BST_REQUEST_MSG} {env : Env} {params : Params}

-- The step of a feature request that succeeds.
theorem feature_request_stores
    (hset : takenFor num_units unit state act = some (.app msg env))
    (htype : msg.msg_type = .SET_FEATURE)
    (hparse : bstjson_configure_bst_feature params = .ok msg.config)
    (hok : handledRv (state.unit unit) (.app msg env) = .SUCCESS) :
    ∀ param ∈ featureParams,
      param.2 ((step num_units state act).unit unit).bst_config.config =
        requested params param.1 (param.2 (state.unit unit).bst_config.config) := by
  have hhandled : handledCxt (state.unit unit) (.app msg env) =
      (bst_config_feature_set msg env (state.unit unit)).cxt := by
    simp [handledCxt, UnitAction.msg, UnitAction.env, htype, bst_type_api_get]
  have hsucceeds : (bst_config_feature_set msg env (state.unit unit)).rv = .SUCCESS := by
    rw [← hok]
    simp [handledRv, UnitAction.msg, UnitAction.env, htype, bst_type_api_get]
  rw [step_unit, hset]
  dsimp only
  rw [unitStep_feature, hhandled]
  exact feature_set_stores hparse hsucceeds

-- A request that succeeded shows in the JSON of the next get-bst-feature: each
-- parameter it carries with its value, every other one as it was reported
-- before.
theorem feature_configure_get
    (hset : takenFor num_units unit state act = some (.app msg env))
    (htype : msg.msg_type = .SET_FEATURE)
    (hparse : bstjson_configure_bst_feature params = .ok msg.config)
    (hok : handledRv (state.unit unit) (.app msg env) = .SUCCESS)
    (hints : StoresCInts (state.unit unit))
    (hquiet : Along (step num_units) (OnUnit num_units unit KeepsFeature)
      (step num_units state act) acts)
    (hget : AnswersFeature localtime unit
      ((run (step num_units) (step num_units state act) acts).unit unit) text) :
    ∀ name ∈ featureParams.map Prod.fst, ∃ value,
      (∀ before, AnswersFeature localtime unit (state.unit unit) before →
        ReportsParam before name value) ∧
      ReportsParam text name (requested params name value) := by
  have hstored := feature_request_stores hset htype hparse hok
  have hkept := unit_invariant
    (fun cxt => cxt.bst_config.config = ((step num_units state act).unit unit).bst_config.config)
    (fun cxt act hsame hkeeps => by
      rw [unitStep_feature, handled_feature cxt act hkeeps.1 hkeeps.2, hsame])
    (step num_units state act) acts rfl hquiet
  have hvalues : ∀ param ∈ featureParams,
      param.2 ((run (step num_units) (step num_units state act) acts).unit unit).bst_config.config =
        requested params param.1 (param.2 (state.unit unit).bst_config.config) := by
    rw [hkept]
    exact hstored
  intro name hname
  obtain ⟨param, hmem, rfl⟩ := List.mem_map.mp hname
  refine ⟨param.2 (state.unit unit).bst_config.config, ?_, ?_⟩
  · intro before hbefore
    exact answers_feature_reports hints hbefore param hmem
  · have hranges : StoresCInts ((run (step num_units) (step num_units state act) acts).unit unit) :=
      fun other hother => by
        rw [hvalues other hother]
        exact requested_isCInt (hints other hother)
    have hreports := answers_feature_reports hranges hget param hmem
    rwa [hvalues param hmem] at hreports

-- Full reports are asked for beside the four mandatory parameters.
def fullReportParams (name : String) : Option Rest.cJSON :=
  if name = "async-full-reports" then some (.number 1) else sampleFeatureParams 1 name

def full_report_request : BVIEW_BST_REQUEST_MSG :=
  { sample_set_feature 1 with
    config := { sampleFeature 1 with
      sendIncrementalReport := 1
      configMask := { (sampleFeature 1).configMask with ASYNC_FULL_REP := true } } }

def fullReportStart : BVIEW_BST_CXT :=
  { sampleStart with recvMsgQid := [full_report_request] }

def fullReportJson : List Char :=
  (bstjson_encode_get_bst_feature 0 7 ((step 1 fullReportStart (.bst_app_main sampleEnv)).unit
    0).bst_config.config bstjson_memory_init).text

theorem feature_configure_get_full_reports :
    ∃ value, (∀ before, AnswersFeature (fun _ => sampleTm) 0 (fullReportStart.unit 0) before →
        ReportsParam before "async-full-reports" value) ∧
      ReportsParam fullReportJson "async-full-reports"
        (requested fullReportParams "async-full-reports" value) := by
  have hints : StoresCInts (fullReportStart.unit 0) := by
    unfold StoresCInts IsCInt
    decide
  have hget : AnswersFeature (fun _ => sampleTm) 0 ((run (step 1) (step 1 fullReportStart
      (.bst_app_main sampleEnv)) []).unit 0) fullReportJson := by
    refine ⟨0, 7, sampleEnv, preparedReply _
      (RestRequest.bstjson_get_bst_feature.action 0 0 7 sampleEnv), bstjson_memory_init, _,
      by unfold IsCInt; decide, List.mem_cons_self, rfl, rfl, rfl⟩
  have hset : takenFor 1 0 fullReportStart (.bst_app_main sampleEnv) =
      some (.app full_report_request sampleEnv) := rfl
  have hparse : bstjson_configure_bst_feature fullReportParams =
      .ok full_report_request.config := rfl
  have hok : handledRv (fullReportStart.unit 0) (.app full_report_request sampleEnv) =
      .SUCCESS := rfl
  have hquiet : Along (step 1) (OnUnit 1 0 KeepsFeature)
      (step 1 fullReportStart (.bst_app_main sampleEnv)) [] := trivial
  exact feature_configure_get hset rfl hparse hok hints hquiet hget _ (by decide)

end RoundTrip

end BroadView.Bst
