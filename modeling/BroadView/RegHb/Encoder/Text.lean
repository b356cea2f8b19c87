import BroadView.Bst.Encoder.WellFormed
import BroadView.CJson.Read
import BroadView.CString
import BroadView.Printf.Prints
import BroadView.RegHb.Encoder

-- The texts of the system application as a client reads them.
namespace BroadView.RegHb

open Printf Json Bst CJson

section Feature

variable (pData : REG_HB_JSON_CONFIGURE_FEATURE) (method : Int)

def featureResult : List Slot :=
  [intSlot 33 1 0 "heartbeat-enable" pData.enable.toInt,
    intSlot 33 1 0 "msg-interval" pData.interval.toInt]

def featureSlots : List Slot :=
  [textSlot 33 1 0 "jsonrpc" "2.0", textSlot 33 1 0 "method" "get-system-feature",
    quotedSlot 33 1 0 "version" BVIEW_JSON_VERSION,
    objectSlot 33 1 0 "result" (featureResult pData), intSlot 2 1 2 "id" method]

theorem feature_template_eq :
    getSystemUtilsFeatureTemplate.toList = ' ' :: objectLayout (featureSlots pData method) := by
  simp only [objectLayout, featureSlots, featureResult, List.map_cons, List.map_nil,
    textSlot_layout, quotedSlot_layout, intSlot_layout, objectSlot_layout]
  unfold getSystemUtilsFeatureTemplate
  simp only [String.toList_append, -String.reduceAppend]
  decide +kernel

theorem featureResult_sound : ∀ slot ∈ featureResult pData, slot.Sound := by
  simp only [featureResult, List.forall_mem_cons]
  exact ⟨intSlot_sound (by decide) (by decide) _, intSlot_sound (by decide) (by decide) _,
    fun _ hmem => absurd hmem List.not_mem_nil⟩

theorem featureSlots_sound : ∀ slot ∈ featureSlots pData method, slot.Sound := by
  simp only [featureSlots, List.forall_mem_cons]
  exact ⟨textSlot_sound (by decide) (by decide) (by decide) (by decide),
    textSlot_sound (by decide) (by decide) (by decide) (by decide),
    quotedSlot_sound (by decide) (by decide) _,
    objectSlot_sound (by decide) (by decide) (featureResult_sound pData) (List.cons_ne_nil _ _),
    intSlot_sound (by decide) (by decide) _, fun _ hmem => absurd hmem List.not_mem_nil⟩

theorem feature_text_eq :
    format getSystemUtilsFeatureTemplate.toList
        [.int BVIEW_JSON_VERSION, .int pData.enable.toInt, .int pData.interval.toInt,
          .int method] =
      ' ' :: objectText (featureSlots pData method) := by
  rw [feature_template_eq pData method]
  have hprints := (prints_text (show '%' ∉ [' '] by decide)).append
    (prints_object (featureSlots_sound pData method))
  exact hprints.format_eq

end Feature

section Node

variable {asics : List BVIEW_SWITCH_ASIC_INFO}

def chip (asic : BVIEW_SWITCH_ASIC_INFO) : List Char :=
  (if asic.asicType = BVIEW_ASIC_TYPE_TD2 then "BCM56850" else "BCM56960").toList

def asicText (asic : BVIEW_SWITCH_ASIC_INFO) : List Char :=
  '[' :: ('"' :: asic.asic_notation ++ "\", \"".toList ++ chip asic ++ "\", ".toList ++
    showInt asic.numPorts.toInt) ++ [']']

def asicJson (asic : BVIEW_SWITCH_ASIC_INFO) : Json :=
  .array [.string asic.asic_notation, .string (chip asic), .number (showInt asic.numPorts.toInt)]

theorem asic_info_eq (asic : BVIEW_SWITCH_ASIC_INFO) : asic_info asic = asicText asic ++ [','] := by
  have htemplate : asicInfoTemplate.toList =
      (("[\"".toList ++ "%s".toList ++ "\", \"".toList) ++
        ("%s".toList ++ "\", ".toList)) ++ ("%d".toList ++ "],".toList) := by decide +kernel
  have hprints := ((((prints_text (show '%' ∉ "[\"".toList by decide)).append
    (prints_str asic.asic_notation)).append
      (prints_text (show '%' ∉ "\", \"".toList by decide))).append
      ((prints_str (chip asic)).append (prints_text (show '%' ∉ "\", ".toList by decide)))).append
        ((prints_int asic.numPorts.toInt).append (prints_text (show '%' ∉ "],".toList by decide)))
  rw [asic_info, htemplate]
  refine hprints.format_eq.trans ?_
  simp [asicText]

theorem chip_plain (asic : BVIEW_SWITCH_ASIC_INFO) : Plain (chip asic) := by
  unfold chip
  split_ifs <;> decide

theorem asicText_writes {asic : BVIEW_SWITCH_ASIC_INFO} (hplain : Plain asic.asic_notation) :
    Writes (.element (asicJson asic)) (asicText asic) := by
  have hshort := (writes_string hplain).element (blanks_spaces 0) (blanks_spaces 0)
  have hchip := (writes_string (chip_plain asic)).element (blanks_spaces 1) (blanks_spaces 0)
  have hports := (writes_number (isNumber_showInt asic.numPorts.toInt)).element (blanks_spaces 1)
    (blanks_spaces 0)
  have helements := writes_elements
    (.cons hshort (.cons hchip (.cons hports .nil))) (List.cons_ne_nil _ _)
  have harray := helements.array.element (blanks_spaces 0) (blanks_spaces 0)
  simpa [asicText, asicJson, List.intercalate_cons_cons] using harray

theorem append_pieces {pieces : List (List Char)} {node : Node}
    (hnode : node.text.length = node.totalLen)
    (hfits : node.totalLen + pieces.flatten.length < JSON_MAX_NODE_LENGTH) :
    pieces.foldlM append_node node =
      some ⟨node.text ++ pieces.flatten, node.totalLen + pieces.flatten.length⟩ := by
  induction pieces generalizing node with
  | nil => simp
  | cons piece pieces ih =>
      rw [List.flatten_cons, List.length_append] at hfits
      have hroom : min piece.length (JSON_MAX_NODE_LENGTH - 1) = piece.length := by omega
      have htake : piece.take (JSON_MAX_NODE_LENGTH - 1) = piece :=
        List.take_of_length_le (by omega)
      have hone : append_node node piece =
          some ⟨node.text ++ piece, node.totalLen + piece.length⟩ := by
        rw [append_node, hroom, if_pos (by omega), htake]
      rw [List.foldlM_cons, hone]
      have hmore := @ih ⟨node.text ++ piece, node.totalLen + piece.length⟩
        (by rw [List.length_append, hnode]) (by simp only; omega)
      simpa [Nat.add_assoc] using hmore

theorem commas_eq (texts : List (List Char)) (hne : texts ≠ []) :
    (texts.map (· ++ [','])).flatten = List.intercalate [','] texts ++ [','] := by
  induction texts with
  | nil => exact absurd rfl hne
  | cons text texts ih =>
      cases texts with
      | nil => simp [List.intercalate]
      | cons next texts =>
          have hmore := ih (List.cons_ne_nil _ _)
          rw [List.map_cons, List.flatten_cons, hmore, List.intercalate_cons_cons]
          simp

-- The node holds the rows of the ASICs with a comma after each.
structure FitsNode (asics : List BVIEW_SWITCH_ASIC_INFO) : Prop where
  nonempty : asics ≠ []
  length : (asics.map asic_info).flatten.length < JSON_MAX_NODE_LENGTH

theorem asic_rows_eq (hne : asics ≠ []) : (asics.map asic_info).flatten =
    List.intercalate [','] (asics.map asicText) ++ [','] := by
  have hcommas := commas_eq (asics.map asicText) (by simpa using hne)
  rw [List.map_map] at hcommas
  rw [← hcommas]
  exact congrArg List.flatten (List.map_congr_left fun asic _ => asic_info_eq asic)

theorem asicInfoStr_eq (h : FitsNode asics) :
    asicInfoStr asics = some (List.intercalate [','] (asics.map asicText)) := by
  have hrows := asic_rows_eq h.nonempty
  have hlength := h.length
  have hpieces := @append_pieces (asics.map asic_info) ⟨[], 0⟩ rfl (by simpa using hlength)
  rw [asicInfoStr, hpieces]
  simp only [List.nil_append, Nat.zero_add, Option.bind_eq_bind, Option.bind_some, hrows,
    List.length_append, List.length_singleton] at hlength ⊢
  rw [if_pos ⟨by omega, by omega⟩, Nat.add_sub_cancel, List.take_left']
  · rfl
  · rfl

-- One ASIC with the longest notation has room.
theorem one_asic_fits {asic : BVIEW_SWITCH_ASIC_INFO} (hshort : asic.asic_notation.length < 32) :
    FitsNode [asic] := by
  refine ⟨List.cons_ne_nil _ _, ?_⟩
  have hchip : (chip asic).length = 8 := by
    unfold chip
    split_ifs <;> rfl
  have hports := int32_length_le asic.numPorts
  have hroom : JSON_MAX_NODE_LENGTH = 64 := rfl
  rw [List.map_singleton, List.flatten_singleton, asic_info_eq, hroom]
  simp only [asicText, List.length_append, List.length_cons, List.length_nil, hchip,
    String.length_toList]
  have hquote : "\", \"".length = 4 := by decide
  have hcomma : "\", ".length = 3 := by decide
  omega

end Node

section Features

variable {featureMask : UInt32}

def features (featureMask : UInt32) : List String :=
  (if featureMask &&& .ofNat BVIEW_FEATURE_BST ≠ 0 then ["BST"] else []) ++
    (if featureMask &&& .ofNat BVIEW_FEATURE_PACKET_TRACE ≠ 0 then ["PT"] else [])

def featuresJson (featureMask : UInt32) : List Json :=
  (features featureMask).map fun feature => .string feature.toList

-- The comma before the second feature is printed without a look at the first.
def Separated (featureMask : UInt32) : Prop :=
  featureMask &&& .ofNat BVIEW_FEATURE_PACKET_TRACE ≠ 0 →
    featureMask &&& .ofNat BVIEW_FEATURE_BST ≠ 0

theorem format_feature (feature : List Char) :
    format featureTemplate.toList [.str feature] = '"' :: feature ++ ['"'] :=
  ((prints_str feature).between ['"'] ['"'] (by decide) (by decide)).format_eq

theorem featureStr_writes (h : Separated featureMask) :
    Writes (.value (.array (featuresJson featureMask)))
      ('[' :: featureStr featureMask ++ [']']) := by
  have hBST := (writes_string (show Plain "BST".toList by decide)).element (blanks_spaces 0)
    (blanks_spaces 0)
  have hPT := (writes_string (show Plain "PT".toList by decide)).element (blanks_spaces 0)
    (blanks_spaces 0)
  unfold featuresJson features featureStr
  by_cases hbst : featureMask &&& .ofNat BVIEW_FEATURE_BST ≠ 0
  · by_cases hpt : featureMask &&& .ofNat BVIEW_FEATURE_PACKET_TRACE ≠ 0
    · have helements := writes_elements (.cons hBST (.cons hPT .nil)) (List.cons_ne_nil _ _)
      simpa [hbst, hpt, format_feature, List.intercalate_cons_cons] using helements.array
    · have helements := writes_elements (.cons hBST .nil) (List.cons_ne_nil _ _)
      simpa [hbst, hpt, format_feature] using helements.array
  · have hpt : ¬ featureMask &&& .ofNat BVIEW_FEATURE_PACKET_TRACE ≠ 0 := fun hpt => hbst (h hpt)
    simpa [hbst, hpt] using writes_emptyArray (blanks_spaces 0)

theorem featureStr_length : (featureStr featureMask).length ≤ 10 := by
  unfold featureStr
  rw [format_feature, format_feature]
  split_ifs <;> decide

end Features

section Switch

-- What the fields of the properties hold, each in its array.
structure Presentable (pData : BVIEW_SWITCH_PROPERTIES) : Prop where
  node : FitsNode pData.asicInfo
  notations : ∀ asic ∈ pData.asicInfo, Plain asic.asic_notation
  features : Separated pData.featureMask
  networkOs : Plain pData.networkOs ∧ pData.networkOs.length < 32
  uid : Plain pData.uid ∧ pData.uid.length < 128
  agent_ipaddr : Plain pData.agent_ipaddr ∧ pData.agent_ipaddr.length < 20
  agent_sw_version : Plain pData.agent_sw_version ∧ pData.agent_sw_version.length < 32

variable (localtime : Int → Tm) (pData : BVIEW_SWITCH_PROPERTIES) (method : Int)

def asicTexts : List Char := List.intercalate [','] (pData.asicInfo.map asicText)

def switchResult : List Slot :=
  [intSlot 0 1 0 "number-of-asics" pData.asicInfo.length,
    listSlot 33 0 0 "asic-info" (asicTexts pData) (pData.asicInfo.map asicJson),
    listSlot 33 0 0 "supported-features" (featureStr pData.featureMask)
      (featuresJson pData.featureMask),
    strSlot 33 0 0 "network-os" pData.networkOs, strSlot 33 0 0 "uid" pData.uid,
    strSlot 33 0 0 "agent-ip" pData.agent_ipaddr, quotedSlot 33 0 0 "agent-port"
      pData.agent_port.toInt,
    strSlot 33 0 0 "agent-sw-version" pData.agent_sw_version]

def idSlots : List Slot := if method = 0 then [] else [intSlot 33 0 1 "id" method]

def switchSlots : List Slot :=
  [textSlot 33 1 0 "jsonrpc" "2.0", textSlot 33 1 0 "method" "get-switch-properties",
    quotedSlot 33 1 0 "version" BVIEW_JSON_VERSION,
    strSlot 33 1 0 "time-stamp" (timeString (localtime pData.timeStamp)),
    objectSlot 33 1 0 "result" (switchResult pData)] ++ idSlots method

-- The template goes with the id.
def switchTemplate : List Char :=
  if method = 0 then getSwitchPropAsyncTemplate.toList else getSwitchPropTemplate.toList

theorem switch_template_eq :
    switchTemplate method = objectLayout (switchSlots localtime pData method) := by
  unfold switchTemplate switchSlots idSlots
  split_ifs
  all_goals
    simp only [objectLayout, switchResult, List.map_append, List.map_cons, List.map_nil,
      textSlot_layout, strSlot_layout, quotedSlot_layout, intSlot_layout, listSlot_layout,
      objectSlot_layout]
  · unfold getSwitchPropAsyncTemplate switchPropMembers
    simp only [String.toList_append, -String.reduceAppend]
    decide +kernel
  · unfold getSwitchPropTemplate switchPropMembers
    simp only [String.toList_append, -String.reduceAppend]
    decide +kernel

def switchArgs : List Arg :=
  [.int BVIEW_JSON_VERSION, .str (timeString (localtime pData.timeStamp)),
    .int pData.asicInfo.length, .str (asicTexts pData), .str (featureStr pData.featureMask),
    .str pData.networkOs, .str pData.uid, .str pData.agent_ipaddr, .int pData.agent_port.toInt,
    .str pData.agent_sw_version] ++ if method = 0 then [] else [.int method]

theorem switch_args_eq :
    objectArgs (switchSlots localtime pData method) = switchArgs localtime pData method := by
  unfold switchSlots idSlots switchArgs
  split_ifs <;> rfl

theorem switch_text_format : switch_properties_text localtime method pData (asicTexts pData) =
    format (switchTemplate method) (switchArgs localtime pData method) := by
  unfold switch_properties_text switchTemplate switchArgs
  split_ifs <;> rfl

variable {pData}

theorem switchResult_sound (h : Presentable pData) : ∀ slot ∈ switchResult pData, slot.Sound := by
  have hasics : Writes (.value (.array (pData.asicInfo.map asicJson)))
      ('[' :: asicTexts pData ++ [']']) := by
    refine (writes_elements ?_ (by simpa using h.node.nonempty)).array
    rw [List.forall₂_map_left_iff, List.forall₂_map_right_iff, List.forall₂_same]
    exact fun asic hmem => asicText_writes (h.notations asic hmem)
  simp only [switchResult, List.forall_mem_cons]
  exact ⟨intSlot_sound (by decide) (by decide) _, listSlot_sound (by decide) (by decide) hasics,
    listSlot_sound (by decide) (by decide) (featureStr_writes h.features),
    strSlot_sound (by decide) (by decide) h.networkOs.1,
    strSlot_sound (by decide) (by decide) h.uid.1,
    strSlot_sound (by decide) (by decide) h.agent_ipaddr.1,
    quotedSlot_sound (by decide) (by decide) _,
    strSlot_sound (by decide) (by decide) h.agent_sw_version.1,
    fun _ hmem => absurd hmem List.not_mem_nil⟩

theorem switchSlots_sound (h : Presentable pData) :
    ∀ slot ∈ switchSlots localtime pData method, slot.Sound := by
  have hid : ∀ slot ∈ idSlots method, slot.Sound := by
    unfold idSlots
    split_ifs
    · exact fun _ hmem => absurd hmem List.not_mem_nil
    · rw [List.forall_mem_singleton]
      exact intSlot_sound (by decide) (by decide) _
  simp only [switchSlots, List.forall_mem_append, List.forall_mem_cons]
  exact ⟨⟨textSlot_sound (by decide) (by decide) (by decide) (by decide),
    textSlot_sound (by decide) (by decide) (by decide) (by decide),
    quotedSlot_sound (by decide) (by decide) _,
    strSlot_sound (by decide) (by decide) (plain_timeString _),
    objectSlot_sound (by decide) (by decide) (switchResult_sound h) (List.cons_ne_nil _ _),
    fun _ hmem => absurd hmem List.not_mem_nil⟩, hid⟩

theorem switch_text_eq (h : Presentable pData) :
    switch_properties_text localtime method pData (asicTexts pData) =
      objectText (switchSlots localtime pData method) := by
  rw [switch_text_format, switch_template_eq localtime pData, ← switch_args_eq]
  exact (prints_object (switchSlots_sound localtime method h)).format_eq

end Switch

end BroadView.RegHb
