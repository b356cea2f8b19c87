import BroadView.Bst.Encoder.Delta

namespace BroadView.Bst

open Printf Buffer

-- The operations of one realm, the device apart.
def BVIEW_BST_REALM_ID.ops (realm : BVIEW_BST_REALM_ID) (input : ReportInput) : List Op :=
  match realm.encoder with
  | none => []
  | some encoder =>
      if realm.hasPorts then encode_port_realm encoder input else encode_index_realm encoder input

-- The order of the realms in a report.
def reportOrder : List BVIEW_BST_REALM_ID :=
  [.INGRESS_PORT_PG, .INGRESS_PORT_SP, .INGRESS_SP, .EGRESS_CPU_QUEUE, .EGRESS_MC_QUEUE,
    .EGRESS_PORT_SP, .EGRESS_RQE_QUEUE, .EGRESS_SP, .EGRESS_UC_QUEUE, .EGRESS_UC_QUEUEGROUPS]

def report_realms (input : ReportInput) : List BVIEW_BST_REALM_ID :=
  reportOrder.filter input.options.includes.has

def report_sections (input : ReportInput) : List (List Op) :=
  (report_realms input).map fun realm => realm.ops input

section Sections

variable (input : ReportInput)

theorem sections_flatten (realms : List BVIEW_BST_REALM_ID) (realm : BVIEW_BST_REALM_ID) :
    (((realm :: realms).filter input.options.includes.has).map
        fun realm => realm.ops input).flatten =
      (if input.options.includes.has realm then realm.ops input else []) ++
        ((realms.filter input.options.includes.has).map fun realm => realm.ops input).flatten := by
  cases h : input.options.includes.has realm <;> simp [h]

theorem report_realms_nil :
    report_realms input = [] ↔
      includesIngress input.options.includes = false ∧
        includesEgress input.options.includes = false := by
  simp only [report_realms, reportOrder, List.filter_eq_nil_iff, List.mem_cons, List.not_mem_nil,
    or_false, forall_eq_or_imp, forall_eq, RealmFlags.has, includesIngress, includesEgress,
    Bool.or_eq_false_iff, Bool.not_eq_true]
  tauto

-- The parts of _jsonencode_report_ingress and _jsonencode_report_egress before
-- their last step back.
def ingress_sections : List Op :=
  let flags := input.options.includes
  (if flags.ingressPortPriorityGroup then jsonencode_report_ingress_ippg input else []) ++
    (if flags.ingressPortServicePool then jsonencode_report_ingress_ipsp input else []) ++
    (if flags.ingressServicePool then jsonencode_report_ingress_sp input else [])

def egress_sections : List Op :=
  let flags := input.options.includes
  (if flags.egressCpuQueue then jsonencode_report_egress_cpuq input else []) ++
    (if flags.egressMcQueue then jsonencode_report_egress_mcq input else []) ++
    (if flags.egressPortServicePool then jsonencode_report_egress_epsp input else []) ++
    (if flags.egressRqeQueue then jsonencode_report_egress_rqeq input else []) ++
    (if flags.egressServicePool then jsonencode_report_egress_sp input else []) ++
    (if flags.egressUcQueue then jsonencode_report_egress_ucq input else []) ++
    (if flags.egressUcQueueGroup then jsonencode_report_egress_ucqg input else [])

theorem sections_eq :
    (report_sections input).flatten = ingress_sections input ++ egress_sections input := by
  simp only [report_sections, report_realms, reportOrder, sections_flatten, List.filter_nil,
    List.map_nil, List.flatten_nil, ingress_sections, egress_sections, List.append_assoc,
    List.append_nil]
  rfl

theorem ingress_sections_nil (h : includesIngress input.options.includes = false) :
    ingress_sections input = [] := by
  simp only [includesIngress, Bool.or_eq_false_iff] at h
  simp [ingress_sections, h]

theorem egress_sections_nil (h : includesEgress input.options.includes = false) :
    egress_sections input = [] := by
  simp only [includesEgress, Bool.or_eq_false_iff] at h
  simp [egress_sections, h]

-- The operations of a report are those of its realms in order, and one step
-- back after the last of them.
theorem report_ops_eq :
    report_ops input =
      (report_sections input).flatten ++ if report_realms input = [] then [] else [.back] := by
  have hingress : jsonencode_report_ingress input = ingress_sections input ++
      if includesEgress input.options.includes then [] else [.back] := rfl
  have hegress : jsonencode_report_egress input = egress_sections input ++ [.back] := rfl
  rw [sections_eq, report_ops, hingress, hegress]
  simp only [report_realms_nil]
  cases hi : includesIngress input.options.includes <;>
    cases he : includesEgress input.options.includes <;>
    simp [hi, he, ingress_sections_nil, egress_sections_nil]

end Sections

section Advance

variable {realm : BVIEW_BST_REALM_ID} {encoder : RealmEncoder}

theorem encoder_spaced (hencoder : realm.encoder = some encoder) :
    (∃ rest, encoder.realmTemplate.toList = ' ' :: rest) ∧
      ∃ rest, encoder.dataTemplate.toList = ' ' :: rest := by
  cases realm <;> cases hencoder <;> exact ⟨⟨_, rfl⟩, ⟨_, rfl⟩⟩

theorem format_space_pos (rest : List Char) (args : List Arg) :
    0 < (format (' ' :: rest) args).length := by
  simp [format]

theorem row_ops_advancing (hencoder : realm.encoder = some encoder) (rows : List Row) :
    ∀ ops ∈ row_ops encoder rows, Advancing ops := by
  obtain ⟨-, rest, hrest⟩ := encoder_spaced hencoder
  intro ops hmem
  obtain ⟨row, -, rfl⟩ := List.mem_map.mp hmem
  refine ⟨?_, trivial⟩
  rw [row_piece, hrest]
  exact format_space_pos rest row.args

theorem realm_header_pos (hencoder : realm.encoder = some encoder) :
    0 < (realm_header encoder).length := by
  obtain ⟨⟨rest, hrest⟩, -⟩ := encoder_spaced hencoder
  rw [realm_header, hrest]
  exact format_space_pos rest _

theorem port_header_pos (port : Nat) : 0 < (port_header port).length := format_space_pos _ _

theorem ports_advancing (hencoder : realm.encoder = some encoder) (input : ReportInput) :
    ∀ ops ∈ (included_ports encoder input).map (encode_port encoder input), Advancing ops := by
  intro ops hmem
  obtain ⟨port, -, rfl⟩ := List.mem_map.mp hmem
  exact listing_advancing (port_header_pos port) (by decide) (row_ops_advancing hencoder _)

theorem realm_ops_advancing (realm : BVIEW_BST_REALM_ID) (input : ReportInput) :
    Advancing (realm.ops input) := by
  unfold BVIEW_BST_REALM_ID.ops
  cases hencoder : realm.encoder with
  | none => trivial
  | some encoder =>
      have hheader := realm_header_pos hencoder
      dsimp only
      split_ifs
      · exact listing_advancing hheader (by decide) (ports_advancing hencoder input)
      · exact listing_advancing hheader (by decide) (row_ops_advancing hencoder _)

theorem sections_advancing (input : ReportInput) : Advancing (report_sections input).flatten := by
  apply Advancing.flatten
  intro ops hmem
  obtain ⟨realm, -, rfl⟩ := List.mem_map.mp hmem
  exact realm_ops_advancing realm input

theorem listing_end (opening closing text : List Char) (blocks : List (List Op)) :
    ∃ before, render text (listing opening blocks closing) = before ++ closing := by
  rw [show listing opening blocks closing =
    (.put opening :: blocks.flatten) ++ [.back, .put closing] from rfl, render_append]
  exact ⟨_, rfl⟩

-- After the last realm the text ends with the end of a section.
theorem sections_end (input : ReportInput) (text : List Char)
    (hrealms : report_realms input ≠ []) :
    ∃ before, render text (report_sections input).flatten = before ++ section_end := by
  have hlast := List.dropLast_append_getLast hrealms
  have hmem : (report_realms input).getLast hrealms ∈ reportOrder :=
    (List.mem_filter.mp (List.getLast_mem hrealms)).1
  have hsections : (report_sections input).flatten =
      (((report_realms input).dropLast).map fun realm => realm.ops input).flatten ++
        ((report_realms input).getLast hrealms).ops input := by
    conv_lhs => rw [report_sections, ← hlast]
    simp
  rw [hsections, render_append]
  generalize (report_realms input).getLast hrealms = realm at hmem
  unfold BVIEW_BST_REALM_ID.ops
  cases hencoder : realm.encoder with
  | none =>
      have hdevice : realm = .DEVICE := by cases realm <;> first | rfl | cases hencoder
      subst hdevice
      exact absurd hmem (by decide)
  | some encoder =>
      dsimp only
      split_ifs
      · exact listing_end _ _ _ _
      · exact listing_end _ _ _ _

end Advance

section Prefix

variable {input : ReportInput} {header : List Char}

theorem twoDigits_length_le {n : Nat} (hn : n < 100) : (twoDigits n).length ≤ 2 := by
  unfold twoDigits
  split_ifs with hlow
  · exact Nat.succ_le_succ (showNat_length_le n 1 (by decide) hlow)
  · exact showNat_length_le n 2 (by decide) hn

theorem year_length_le (tm_year : Int32) : (showInt (tm_year.toInt + 1900)).length ≤ 11 := by
  apply showInt_length_le 10 _ (by decide)
  have hle := Int32.toInt_lt tm_year
  have hge := Int32.le_toInt tm_year
  omega

theorem timeString_length_le (tm : Tm) : (timeString tm).length ≤ 30 := by
  have hyear := year_length_le tm.tm_year
  have hmon := twoDigits_length_le (n := tm.tm_mon.val + 1) (by omega)
  have hmday := twoDigits_length_le (n := tm.tm_mday.val) (by omega)
  have hhour := twoDigits_length_le (n := tm.tm_hour.val) (by omega)
  have hmin := twoDigits_length_le (n := tm.tm_min.val) (by omega)
  have hsec := twoDigits_length_le (n := tm.tm_sec.val) (by omega)
  have hdash : " - ".toList.length = 3 := rfl
  simp only [timeString, List.length_append, List.length_cons, List.length_nil, hdash]
  omega

theorem u64_length_le (value : UInt64) : (Arg.u64 value).text.length ≤ 20 :=
  showNat_length_le value.toNat 20 (by decide) (by have := value.toNat_lt; omega)

theorem asic_notation_length_le {asicIdStr : List Char}
    (hasic : sbplugin_ovsdb_system_asic_translate_to_notation input.asicId = some asicIdStr) :
    asicIdStr.length ≤ 1 := by
  obtain ⟨asic, hget, rfl⟩ := Option.map_eq_some_iff.mp hasic
  have hmem : asic ∈ asicAppMap := List.mem_of_getElem? hget
  rw [asicAppMap, List.mem_singleton] at hmem
  subst hmem
  decide

theorem index_info_length_le (info : BVIEW_BST_TRIGGER_INFO) {index : String}
    (hindex : index.toList.length ≤ 14) :
    (bstjson_encode_trigger_realm_index_info info index).length ≤ 40 := by
  have hport := int32_length_le info.port
  have hqueue := int32_length_le info.queue
  unfold bstjson_encode_trigger_realm_index_info sbplugin_ovsdb_system_port_translate_to_notation
  split_ifs <;> simp [format, Arg.text] <;> omega

theorem realm_index_length_le {realm : String} {entry : BSTJSON_REALM_INDEX}
    (hentry : bstjson_realm_to_indices_get realm = some entry) :
    realm.toList.length ≤ 27 ∧
      ∀ index ∈ entry.index1.toList ++ entry.index2.toList, index.toList.length ≤ 14 := by
  have hrealm : realm = entry.realm := by simpa using List.find?_some hentry
  have hmem : entry ∈ bst_realm_indices_map := List.mem_of_find?_eq_some hentry
  have hmap : ∀ known ∈ bst_realm_indices_map, known.realm.toList.length ≤ 27 ∧
      ∀ index ∈ known.index1.toList ++ known.index2.toList, index.toList.length ≤ 14 := by
    decide
  rw [hrealm]
  exact hmap entry hmem

theorem index_infos_length_le (info : BVIEW_BST_TRIGGER_INFO) {realm : String}
    {entry : BSTJSON_REALM_INDEX} (hentry : bstjson_realm_to_indices_get realm = some entry) :
    ((entry.index1.toList ++ entry.index2.toList).flatMap
      (bstjson_encode_trigger_realm_index_info info)).length ≤ 80 := by
  obtain ⟨-, hindices⟩ := realm_index_length_le hentry
  have hinfo : ∀ index ∈ entry.index1.toList ++ entry.index2.toList,
      (bstjson_encode_trigger_realm_index_info info index).length ≤ 40 :=
    fun index hmem => index_info_length_le info (hindices index hmem)
  rcases h1 : entry.index1 with _ | index1 <;> rcases h2 : entry.index2 with _ | index2 <;>
    simp [h1, h2] at hinfo ⊢ <;> omega

theorem report_start_length (asicIdStr : List Char) (hasic : asicIdStr.length ≤ 1) :
    0 < (report_start input asicIdStr).length ∧ (report_start input asicIdStr).length ≤ 300 := by
  have htime := timeString_length_le input.time
  have hmethod : (if input.options.reportThreshold = true then "get-bst-thresholds"
      else "get-bst-report").toList.length ≤ 18 := by
    split_ifs <;> decide
  have hversion : (showInt BVIEW_JSON_VERSION).length = 1 := by decide
  have htemplate : getBstReportStart.toList.length ≤ 200 := by decide
  constructor
  · exact format_space_pos _ _
  · refine le_trans (format_length_le _ _) ?_
    simp only [List.map_cons, List.map_nil, List.sum_cons, List.sum_nil, Arg.text]
    omega

theorem trigger_report_start_length {asicIdStr : List Char} {entry : BSTJSON_REALM_INDEX}
    (hasic : asicIdStr.length ≤ 1)
    (hentry : bstjson_realm_to_indices_get input.options.triggerInfo.realm = some entry)
    (hcounter : input.options.triggerInfo.counter.toList.length < 256) :
    0 < (trigger_report_start input asicIdStr entry).length ∧
      (trigger_report_start input asicIdStr entry).length ≤ 800 := by
  have htime := timeString_length_le input.time
  have hmethod : "trigger-report".toList.length = 14 := by decide
  have hversion : (showInt BVIEW_JSON_VERSION).length = 1 := by decide
  have htemplate : getBstTriggerReportStart.toList.length ≤ 200 := by decide +kernel
  have hreport : "\"report\" : [".toList.length = 12 := by decide
  obtain ⟨hrealm, -⟩ := realm_index_length_le hentry
  have hinfos := index_infos_length_le input.options.triggerInfo hentry
  have hstart := format_length_le getBstTriggerReportStart.toList
    [.str "trigger-report".toList, .str asicIdStr, .int BVIEW_JSON_VERSION,
      .str (timeString input.time), .str input.options.triggerInfo.realm.toList,
      .str input.options.triggerInfo.counter.toList]
  simp only [List.map_cons, List.map_nil, List.sum_cons, List.sum_nil, Arg.text] at hstart
  unfold trigger_report_start
  simp only [List.length_append]
  omega

theorem report_header_length (hheader : report_header input = .ok header)
    (hcounter : input.options.triggerInfo.counter.toList.length < 256) :
    0 < header.length ∧ header.length ≤ 800 := by
  unfold report_header at hheader
  split at hheader
  · cases hheader
  · next asicIdStr hasic =>
      have hasic := asic_notation_length_le hasic
      split_ifs at hheader
      · split at hheader
        · cases hheader
        · next entry hentry =>
            rw [← Except.ok.inj hheader]
            exact trigger_report_start_length hasic hentry hcounter
      · rw [← Except.ok.inj hheader]
        have hlength : 0 < (report_start input asicIdStr).length ∧
            (report_start input asicIdStr).length ≤ 300 := report_start_length asicIdStr hasic
        omega

theorem device_length_le : (jsonencode_report_device input).length ≤ 70 := by
  unfold jsonencode_report_device
  split_ifs
  · refine le_trans (format_length_le _ _) ?_
    have hvalue := u64_length_le (bst_json_convert_data input.options input.asic
      input.current.device.bufferCount input.options.bst_max_buffers_ptr.device)
    have htemplate : "\x7b \"realm\" : \"device\", \"data\" : % lu\x7d".toList.length ≤ 50 := by
      decide
    simp only [List.map_cons, List.map_nil, List.sum_cons, List.sum_nil]
    omega
  · exact Nat.zero_le 70

-- The header and the device part always leave room in the buffer.
theorem report_head_length (hheader : report_header input = .ok header)
    (hcounter : input.options.triggerInfo.counter.toList.length < 256) :
    0 < (report_head input header).length ∧
      (report_head input header).length + 100 < BSTJSON_MEMSIZE_REPORT := by
  have hlength := report_header_length hheader hcounter
  have hdevice : (jsonencode_report_device input).length ≤ 70 := device_length_le
  have hcomma : (if (jsonencode_report_device input).isEmpty = true then [] else
      " ,".toList).length ≤ 2 := by
    split_ifs <;> decide
  rw [memsize_report]
  simp only [report_head, List.length_append]
  omega

-- The header ends with the opening bracket of the report or the blank after it.
theorem report_header_last (hheader : report_header input = .ok header) :
    header.getLast? = some '[' ∨ header.getLast? = some ' ' := by
  unfold report_header at hheader
  split at hheader
  · cases hheader
  · split_ifs at hheader
    · split at hheader
      · cases hheader
      · rw [← Except.ok.inj hheader]
        exact Or.inl (by simp [trigger_report_start])
    · rw [← Except.ok.inj hheader]
      exact Or.inr (format_getLast? _ _ (by decide +kernel) (by decide))

theorem report_head_pos (hheader : report_header input = .ok header) :
    0 < (report_head input header).length := by
  have hheader : 0 < header.length := by
    rcases report_header_last hheader with hlast | hlast <;>
      exact List.length_pos_of_mem (List.mem_of_getLast? hlast)
  rw [report_head, List.length_append, List.length_append]
  omega

theorem report_head_last (hheader : report_header input = .ok header) :
    (report_head input header).getLast? ≠ some '\x00' := by
  unfold report_head
  dsimp only
  split_ifs with hdevice
  · rw [List.isEmpty_iff.mp hdevice, List.append_nil, List.append_nil]
    rcases report_header_last hheader with hlast | hlast <;> rw [hlast] <;> decide
  · simp

end Prefix

end BroadView.Bst
