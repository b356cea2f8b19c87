import BroadView.RegHb.Encoder.Text

-- What a client reads in the texts of the system application.
namespace BroadView.RegHb

open Printf Json Bst CJson

section Read

variable {Double : Type}

def readMethod (root : Item Double) : Option (List Char) :=
  (readMember root "method").bind readString

def readId (root : Item Double) : Option Int := (readMember root "id").bind readInt

structure ReadFeature where
  enable : Option Int
  interval : Option Int
  deriving DecidableEq

def readFeature (root : Item Double) : Option ReadFeature :=
  (readMember root "result").map fun result =>
    { enable := (readMember result "heartbeat-enable").bind readInt
      interval := (readMember result "msg-interval").bind readInt }

structure ReadAsic where
  asic : List Char
  chip : List Char
  ports : Int
  deriving DecidableEq

def readAsic : Item Double → Option ReadAsic
  | .array [asic, chip, ports] => do
      return { asic := ← readString asic, chip := ← readString chip, ports := ← readInt ports }
  | _ => none

-- The port of the agent stands between quotes.
structure ReadProperties where
  numberOfAsics : Option Int
  asicInfo : List ReadAsic
  supportedFeatures : List (List Char)
  networkOs : Option (List Char)
  uid : Option (List Char)
  agentIp : Option (List Char)
  agentPort : Option (List Char)
  agentSwVersion : Option (List Char)
  deriving DecidableEq

def readProperties (root : Item Double) : Option ReadProperties :=
  (readMember root "result").map fun result =>
    { numberOfAsics := (readMember result "number-of-asics").bind readInt
      asicInfo := (readMemberItems result "asic-info").filterMap readAsic
      supportedFeatures := (readMemberItems result "supported-features").filterMap readString
      networkOs := (readMember result "network-os").bind readString
      uid := (readMember result "uid").bind readString
      agentIp := (readMember result "agent-ip").bind readString
      agentPort := (readMember result "agent-port").bind readString
      agentSwVersion := (readMember result "agent-sw-version").bind readString }

end Read

-- What a client makes of the configuration and of the properties.
def REG_HB_JSON_CONFIGURE_FEATURE.read (config : REG_HB_JSON_CONFIGURE_FEATURE) : ReadFeature :=
  { enable := some config.enable.toInt, interval := some config.interval.toInt }

def BVIEW_SWITCH_ASIC_INFO.read (asic : BVIEW_SWITCH_ASIC_INFO) : ReadAsic :=
  { asic := asic.asic_notation, chip := chip asic, ports := asic.numPorts.toInt }

def BVIEW_SWITCH_PROPERTIES.read (properties : BVIEW_SWITCH_PROPERTIES) : ReadProperties :=
  { numberOfAsics := some properties.asicInfo.length
    asicInfo := properties.asicInfo.map (·.read)
    supportedFeatures := (features properties.featureMask).map String.toList
    networkOs := some properties.networkOs
    uid := some properties.uid
    agentIp := some properties.agent_ipaddr
    agentPort := some (showInt properties.agent_port.toInt)
    agentSwVersion := some properties.agent_sw_version }

section Members

variable {arith : Arithmetic} {whole : Nat → arith.Double} {slots : List Slot}
  {names : List String}

theorem slots_named (hkeys : slots.map Slot.key = names.map String.toList)
    (hlower : ∀ name ∈ names, Lower name.toList) (hnodup : names.Nodup) :
    Named (slots.map Slot.member) names :=
  ⟨(List.map_map (l := slots)).trans hkeys, hlower, hnodup⟩

theorem slot_member (hnamed : Named (slots.map Slot.member) names) {slot : Slot}
    (hmem : slot ∈ slots) {name : String} (hkey : slot.key = name.toList) :
    readMember (decode arith (objectJson slots)) name = some (decode arith slot.json) := by
  refine member_object (hnamed.lookup_eq ?_)
  rw [← hkey]
  exact List.mem_map_of_mem hmem

theorem slot_absent (hnamed : Named (slots.map Slot.member) names) {name : String}
    (hlower : Lower name.toList) (habsent : name ∉ names) :
    readMember (decode arith (objectJson slots)) name = none := by
  rw [readMember, objectJson, getObjectItem_decode, hnamed.lookup_none hlower habsent,
    Option.map_none]

theorem int32_decode (hexact : Exact arith whole) (value : Int32) :
    readInt (decode arith (.number (showInt value.toInt))) = some value.toInt := by
  have hlow := value.le_toInt
  have hhigh := value.toInt_lt
  exact int_decode hexact (by omega) (by omega)

end Members

section Feature

variable {arith : Arithmetic} {whole : Nat → arith.Double}
  (pData : REG_HB_JSON_CONFIGURE_FEATURE) (method : Int)

theorem feature_named : Named ((featureSlots pData method).map Slot.member)
    ["jsonrpc", "method", "version", "result", "id"] :=
  slots_named rfl (by decide) (by decide)

theorem feature_result_named : Named ((featureResult pData).map Slot.member)
    ["heartbeat-enable", "msg-interval"] :=
  slots_named rfl (by decide) (by decide)

theorem feature_read (hexact : Exact arith whole) :
    readFeature (decode arith (objectJson (featureSlots pData method))) = some pData.read := by
  have hresult : objectSlot 33 1 0 "result" (featureResult pData) ∈ featureSlots pData method := by
    simp [featureSlots]
  have henable : intSlot 33 1 0 "heartbeat-enable" pData.enable.toInt ∈ featureResult pData :=
    List.mem_cons_self
  have hinterval : intSlot 33 1 0 "msg-interval" pData.interval.toInt ∈ featureResult pData :=
    List.mem_cons_of_mem _ List.mem_cons_self
  have hnamed := feature_result_named pData
  rw [readFeature, slot_member (feature_named pData method) hresult rfl, Option.map_some,
    REG_HB_JSON_CONFIGURE_FEATURE.read]
  simp only [objectSlot, slot_member hnamed henable rfl, slot_member hnamed hinterval rfl, intSlot,
    Option.bind_some, int32_decode hexact]

theorem feature_method_read : readMethod (decode arith (objectJson (featureSlots pData method))) =
    some "get-system-feature".toList := by
  have hmethod : textSlot 33 1 0 "method" "get-system-feature" ∈ featureSlots pData method := by
    simp [featureSlots]
  rw [readMethod, slot_member (feature_named pData method) hmethod rfl, Option.bind_some]
  exact string_decode (by decide)

theorem feature_id_read (hexact : Exact arith whole) (id : Int32) :
    readId (decode arith (objectJson (featureSlots pData id.toInt))) = some id.toInt := by
  have hid : intSlot 2 1 2 "id" id.toInt ∈ featureSlots pData id.toInt := by simp [featureSlots]
  rw [readId, slot_member (feature_named pData id.toInt) hid rfl, Option.bind_some]
  exact int32_decode hexact id

theorem feature_template_length : getSystemUtilsFeatureTemplate.toList.length ≤ 400 := by
  unfold getSystemUtilsFeatureTemplate
  simp only [String.toList_append, List.length_append, -String.reduceAppend]
  decide +kernel

theorem feature_text_fits (id : Int32) :
    (' ' :: objectText (featureSlots pData id.toInt)).length <
      SYSTEM_UTILS_JSON_MEMSIZE_RESPONSE := by
  have hlength := format_length_le getSystemUtilsFeatureTemplate.toList
    [.int BVIEW_JSON_VERSION, .int pData.enable.toInt, .int pData.interval.toInt, .int id.toInt]
  have htemplate := feature_template_length
  have hversion : (showInt BVIEW_JSON_VERSION).length ≤ 11 := by decide
  have henable := int32_length_le pData.enable
  have hinterval := int32_length_le pData.interval
  have hid := int32_length_le id
  have hsize : SYSTEM_UTILS_JSON_MEMSIZE_RESPONSE = 1024 := rfl
  rw [feature_text_eq] at hlength
  simp only [List.map_cons, List.map_nil, List.sum_cons, List.sum_nil, Arg.text] at hlength
  omega

theorem feature_parse (id : Int32) :
    cJSON_Parse arith (' ' :: objectText (featureSlots pData id.toInt)) =
      .ok (decode arith (objectJson (featureSlots pData id.toInt))) := by
  have hwrites := ((writes_object (featureSlots_sound pData id.toInt)
    (List.cons_ne_nil _ _)).element (blanks_spaces 1) (blanks_spaces 0)) []
  exact parse_element arith (by simpa using hwrites)

end Feature

section Switch

variable {arith : Arithmetic} {whole : Nat → arith.Double} (localtime : Int → Tm)
  (pData : BVIEW_SWITCH_PROPERTIES) (method : Int)

theorem switch_named : Named ((switchSlots localtime pData method).map Slot.member)
    (["jsonrpc", "method", "version", "time-stamp", "result"] ++
      if method = 0 then [] else ["id"]) := by
  refine slots_named ?_ ?_ ?_
  · unfold switchSlots idSlots
    split_ifs <;> rfl
  · split_ifs <;> decide
  · split_ifs <;> decide

theorem switch_result_named : Named ((switchResult pData).map Slot.member)
    ["number-of-asics", "asic-info", "supported-features", "network-os", "uid", "agent-ip",
      "agent-port", "agent-sw-version"] :=
  slots_named rfl (by decide) (by decide)

theorem switch_method_read :
    readMethod (decode arith (objectJson (switchSlots localtime pData method))) =
      some "get-switch-properties".toList := by
  have hmethod : textSlot 33 1 0 "method" "get-switch-properties" ∈
      switchSlots localtime pData method := by
    simp [switchSlots]
  rw [readMethod, slot_member (switch_named localtime pData method) hmethod rfl, Option.bind_some]
  exact string_decode (by decide)

-- What nobody has asked for has no id.
theorem switch_id_read (hexact : Exact arith whole) (id : Int32) :
    readId (decode arith (objectJson (switchSlots localtime pData id.toInt))) =
      if id.toInt = 0 then none else some id.toInt := by
  have hnamed := switch_named localtime pData id.toInt
  by_cases hzero : id.toInt = 0
  · rw [if_pos hzero] at hnamed ⊢
    rw [readId, slot_absent hnamed (by decide) (by decide), Option.bind_none]
  · have hid : intSlot 33 0 1 "id" id.toInt ∈ switchSlots localtime pData id.toInt := by
      simp [switchSlots, idSlots, hzero]
    rw [if_neg hzero, readId, slot_member hnamed hid rfl, Option.bind_some]
    exact int32_decode hexact id

variable {pData}

theorem asic_read (hexact : Exact arith whole) {asic : BVIEW_SWITCH_ASIC_INFO}
    (hplain : Plain asic.asic_notation) :
    readAsic (decode arith (asicJson asic)) = some asic.read := by
  have hasic : readString (decode arith (.string asic.asic_notation)) = some asic.asic_notation :=
    string_decode hplain
  have hchip : readString (decode arith (.string (chip asic))) = some (chip asic) :=
    string_decode (chip_plain asic)
  have hports := int32_decode hexact asic.numPorts
  rw [asicJson, decode, decode_items_eq, List.map_cons, List.map_cons, List.map_singleton, readAsic,
    hasic, hchip, hports]
  rfl

theorem asics_read (hexact : Exact arith whole)
    (hnotations : ∀ asic ∈ pData.asicInfo, Plain asic.asic_notation) :
    ((pData.asicInfo.map asicJson).map (decode arith)).filterMap readAsic =
      pData.asicInfo.map (·.read) := by
  rw [List.map_map, List.filterMap_map, ← List.filterMap_eq_map]
  exact List.filterMap_congr fun asic hmem => asic_read hexact (hnotations asic hmem)

theorem features_read (featureMask : UInt32) :
    ((featuresJson featureMask).map (decode arith)).filterMap readString =
      (features featureMask).map String.toList := by
  have hplain : ∀ feature ∈ features featureMask, Plain feature.toList := by
    unfold features
    split_ifs <;> decide
  rw [featuresJson, List.map_map, List.filterMap_map, ← List.filterMap_eq_map]
  exact List.filterMap_congr fun feature hmem => string_decode (hplain feature hmem)

theorem asics_length_le (asics : List BVIEW_SWITCH_ASIC_INFO) :
    asics.length ≤ (asics.map asic_info).flatten.length := by
  induction asics with
  | nil => exact Nat.zero_le _
  | cons asic asics ih =>
      have hone : 0 < (asic_info asic).length := by
        rw [asic_info_eq, List.length_append, List.length_singleton]
        omega
      rw [List.map_cons, List.flatten_cons, List.length_append, List.length_cons]
      omega

theorem switch_read (hexact : Exact arith whole) (h : Presentable pData) :
    readProperties (decode arith (objectJson (switchSlots localtime pData method))) =
      some pData.read := by
  have hresult : objectSlot 33 1 0 "result" (switchResult pData) ∈
      switchSlots localtime pData method := by
    simp [switchSlots]
  have hmember {slot : Slot} (hmem : slot ∈ switchResult pData) {name : String}
      (hkey : slot.key = name.toList) :
      readMember (decode arith (objectJson (switchResult pData))) name =
        some (decode arith slot.json) :=
    slot_member (switch_result_named pData) hmem hkey
  have hcount := hmember (show intSlot 0 1 0 "number-of-asics" pData.asicInfo.length ∈ _ by
    simp [switchResult]) rfl
  have hasics := hmember (show listSlot 33 0 0 "asic-info" (asicTexts pData)
    (pData.asicInfo.map asicJson) ∈ _ by simp [switchResult]) rfl
  have hfeatures := hmember (show listSlot 33 0 0 "supported-features"
    (featureStr pData.featureMask) (featuresJson pData.featureMask) ∈ _ by
      simp [switchResult]) rfl
  have hos := hmember (show strSlot 33 0 0 "network-os" pData.networkOs ∈ _ by
    simp [switchResult]) rfl
  have huid := hmember (show strSlot 33 0 0 "uid" pData.uid ∈ _ by simp [switchResult]) rfl
  have hip := hmember (show strSlot 33 0 0 "agent-ip" pData.agent_ipaddr ∈ _ by
    simp [switchResult]) rfl
  have hport := hmember (show quotedSlot 33 0 0 "agent-port" pData.agent_port.toInt ∈ _ by
    simp [switchResult]) rfl
  have hversion := hmember (show strSlot 33 0 0 "agent-sw-version" pData.agent_sw_version ∈ _ by
    simp [switchResult]) rfl
  have hfew : pData.asicInfo.length < 64 := (asics_length_le _).trans_lt h.node.length
  have hnumber := int_decode hexact (show -2147483648 ≤ (pData.asicInfo.length : Int) by omega)
    (by omega)
  rw [readProperties, slot_member (switch_named localtime pData method) hresult rfl,
    Option.map_some]
  simp only [objectSlot, readMemberItems, hcount, hasics, hfeatures, hos, huid, hip, hport,
    hversion, intSlot, listSlot, strSlot, quotedSlot, Option.bind_some, Option.elim_some,
    items_decode, hnumber, asics_read hexact h.notations, features_read,
    string_decode h.networkOs.1, string_decode h.uid.1, string_decode h.agent_ipaddr.1,
    string_decode (plain_showInt _), string_decode h.agent_sw_version.1,
    BVIEW_SWITCH_PROPERTIES.read]

theorem asicTexts_length (h : FitsNode pData.asicInfo) : (asicTexts pData).length ≤ 62 := by
  have hlength := h.length
  have hroom : JSON_MAX_NODE_LENGTH = 64 := rfl
  rw [asic_rows_eq h.nonempty, List.length_append, List.length_singleton, hroom] at hlength
  unfold asicTexts
  omega

theorem async_template_length : getSwitchPropAsyncTemplate.toList.length ≤ 687 ∧
    directives getSwitchPropAsyncTemplate.toList = 10 := by
  unfold getSwitchPropAsyncTemplate switchPropMembers
  simp only [String.toList_append, -String.reduceAppend]
  decide +kernel

theorem template_length : getSwitchPropTemplate.toList.length ≤ 689 ∧
    directives getSwitchPropTemplate.toList = 11 := by
  unfold getSwitchPropTemplate switchPropMembers
  simp only [String.toList_append, -String.reduceAppend]
  decide +kernel

theorem switch_template_length : ∃ count,
    (switchTemplate method).length ≤ 667 + 2 * count ∧ directives (switchTemplate method) = count ∧
      (switchArgs localtime pData method).length = count := by
  unfold switchTemplate switchArgs
  split_ifs
  · exact ⟨10, async_template_length.1, async_template_length.2, rfl⟩
  · exact ⟨11, template_length.1, template_length.2, rfl⟩

theorem switch_text_fits (h : Presentable pData) (id : Int32) :
    (objectText (switchSlots localtime pData id.toInt)).length <
      SYSTEM_UTILS_JSON_MEMSIZE_RESPONSE := by
  obtain ⟨count, htemplate, hcount, hargs⟩ := @switch_template_length localtime pData id.toInt
  have hlength := format_length_add (switchTemplate id.toInt)
    (switchArgs localtime pData id.toInt) (by omega)
  rw [← switch_text_format, switch_text_eq localtime id.toInt h] at hlength
  have hasics := asicTexts_length h.node
  have hfeatures := @featureStr_length pData.featureMask
  have hos := h.networkOs.2
  have huid := h.uid.2
  have hip := h.agent_ipaddr.2
  have hsw := h.agent_sw_version.2
  have htime := timeString_length_le (localtime pData.timeStamp)
  have hversion : (showInt BVIEW_JSON_VERSION).length ≤ 1 := by decide
  have hfew : pData.asicInfo.length < 64 := (asics_length_le _).trans_lt h.node.length
  have hnumber : (showInt pData.asicInfo.length).length ≤ 3 :=
    showInt_length_le 2 (pData.asicInfo.length : Int) (by decide) (by omega)
  have hport := int32_length_le pData.agent_port
  have hid := int32_length_le id
  have hsize : SYSTEM_UTILS_JSON_MEMSIZE_RESPONSE = 1024 := rfl
  unfold switchArgs at hlength
  split_ifs at hlength
  all_goals
    simp only [List.map_append, List.map_cons, List.map_nil, List.sum_append, List.sum_cons,
      List.sum_nil, Arg.text] at hlength
    omega

theorem switch_parse (h : Presentable pData) :
    cJSON_Parse arith (objectText (switchSlots localtime pData method)) =
      .ok (decode arith (objectJson (switchSlots localtime pData method))) := by
  have hwrites := ((writes_object (switchSlots_sound localtime method h)
    (List.cons_ne_nil _ _)).element (blanks_spaces 0) (blanks_spaces 0)) []
  exact parse_element arith (by simpa using hwrites)

end Switch

end BroadView.RegHb
