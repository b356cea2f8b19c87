import BroadView.Bst.Encoder.Bounds
import BroadView.Bst.Encoder.Elements
import BroadView.Ovsdb.Bid

namespace BroadView.Bst

open Printf Buffer Json

section Header

-- What stands before the array of a report: written with any array after it
-- and closed, it is an object with that array as its report.
def Opens (fields : List (List Char × Json)) (opening : List Char) : Prop :=
  ∀ items text tail, Writes (.value (.array items)) text → Blanks tail →
    Writes (.element (.object (fields ++ [("report".toList, .array items)])))
      (opening ++ text ++ " \x7d".toList ++ tail)

theorem opens_of_members {fields : List (List Char × Json)} {texts : List (List Char)}
    (h : List.Forall₂ (fun field text => Writes (.member field.1 field.2) text) fields texts)
    (after : Nat) :
    Opens fields (" \x7b".toList ++ terminated texts ++ "\"report\"".toList ++
      List.replicate after ' ' ++ ": ".toList) := by
  intro items text tail harray htail
  have hreport := (harray.element (blanks_spaces 1) (blanks_spaces 1)).member (blanks_spaces 0)
    (show Plain "report".toList by decide) (blanks_spaces after)
  have hlast : List.Forall₂ (fun field text => Writes (.member field.1 field.2) text)
      [("report".toList, .array items)] [_] := .cons hreport .nil
  have hmembers := writes_members (List.rel_append h hlast) (by simp)
  rw [← terminated_append] at hmembers
  have hobject := hmembers.object.element (blanks_spaces 1) htail
  simpa using hobject

-- A member of the header, with the blanks before its key and before its colon.
structure Field where
  before : Nat
  after : Nat
  key : List Char
  arg : Arg

def Field.text (field : Field) : List Char :=
  List.replicate field.before ' ' ++ '"' :: field.key ++ '"' :: List.replicate field.after ' ' ++
    ": ".toList ++ argText field.arg

def Field.json (field : Field) : List Char × Json := (field.key, argJson field.arg)

structure Field.IsPlain (field : Field) : Prop where
  key : Plain field.key
  arg : PlainArg field.arg

theorem field_plain {before after : Nat} {key : List Char} {arg : Arg} (hkey : Plain key)
    (harg : PlainArg arg) : Field.IsPlain ⟨before, after, key, arg⟩ := ⟨hkey, harg⟩

theorem writes_fields {fields : List Field} (h : ∀ field ∈ fields, field.IsPlain) :
    List.Forall₂ (fun field text => Writes (.member field.1 field.2) text)
      (fields.map Field.json) (fields.map Field.text) := by
  rw [List.forall₂_map_left_iff, List.forall₂_map_right_iff, List.forall₂_same]
  intro field hmem
  have hmember := ((writes_arg (h field hmem).arg).element (blanks_spaces 1)
    (blanks_spaces 0)).member (blanks_spaces field.before) (h field hmem).key
    (blanks_spaces field.after)
  simpa [Field.text, Field.json] using hmember

variable {input : ReportInput} {header : List Char}

theorem plain_twoDigits (n : Nat) : Plain (twoDigits n) := by
  unfold twoDigits
  split_ifs
  · exact plain_cons.mpr ⟨by decide, plain_showNat n⟩
  · exact plain_showNat n

theorem plain_timeString (tm : Tm) : Plain (timeString tm) := by
  have hdash : Plain " - ".toList := by decide
  have hmarks : ∀ c ∈ ['-', ':', ' '], IsPlain c := show Plain ['-', ':', ' '] by decide
  simp only [timeString, plain_append, plain_cons, plain_twoDigits, plain_showInt, plain_nil,
    hdash, hmarks, List.mem_cons, true_or, or_true, and_self]

theorem plain_asic_notation {asicIdStr : List Char}
    (hasic : sbplugin_ovsdb_system_asic_translate_to_notation input.asicId = some asicIdStr) :
    Plain asicIdStr := by
  obtain ⟨asic, -, rfl⟩ := Option.map_eq_some_iff.mp hasic
  exact plain_showInt asic

def reportFields (input : ReportInput) (asicIdStr : List Char) : List Field :=
  [⟨1, 0, "jsonrpc".toList, .str "2.0".toList⟩,
    ⟨0, 0, "method".toList, .str (if input.options.reportThreshold then "get-bst-thresholds"
      else "get-bst-report").toList⟩,
    ⟨0, 0, "asic-id".toList, .str asicIdStr⟩,
    ⟨0, 0, "version".toList, .str (showInt BVIEW_JSON_VERSION)⟩,
    ⟨0, 0, "time-stamp".toList, .str (timeString input.time)⟩]

theorem report_fields_plain {asicIdStr : List Char} (hasic : Plain asicIdStr) :
    ∀ field ∈ reportFields input asicIdStr, field.IsPlain := by
  have hmethod : Plain (if input.options.reportThreshold = true then "get-bst-thresholds"
      else "get-bst-report").toList := by
    split_ifs <;> decide
  simp only [reportFields, List.forall_mem_cons]
  exact ⟨field_plain (by decide) (show Plain _ by decide), field_plain (by decide) hmethod,
    field_plain (by decide) hasic, field_plain (by decide) (plain_showInt _),
    field_plain (by decide) (plain_timeString input.time),
    fun _ hmem => absurd hmem List.not_mem_nil⟩

theorem report_start_eq (asicIdStr : List Char) :
    report_start input asicIdStr =
      " \x7b".toList ++ terminated ((reportFields input asicIdStr).map Field.text) ++
        "\"report\"".toList ++ List.replicate 0 ' ' ++ ": ".toList ++ "[ ".toList := by
  unfold report_start getBstReportStart
  simp only [String.toList_append, -String.reduceAppend]
  simp [format, Arg.text, terminated, reportFields, Field.text, argText]

def indexField (info : BVIEW_BST_TRIGGER_INFO) (index : String) : Field :=
  if index = "port" then
    ⟨0, 1, "port".toList, .str <| sbplugin_ovsdb_system_port_translate_to_notation info.port.toInt⟩
  else ⟨0, 1, index.toList, .int info.queue.toInt⟩

theorem index_info_eq (info : BVIEW_BST_TRIGGER_INFO) (index : String) :
    bstjson_encode_trigger_realm_index_info info index =
      (indexField info index).text ++ [','] := by
  unfold bstjson_encode_trigger_realm_index_info indexField
  split_ifs <;> simp [format, Arg.text, Field.text, argText]

theorem index_field_plain (info : BVIEW_BST_TRIGGER_INFO) {index : String}
    (hindex : Plain index.toList) : (indexField info index).IsPlain := by
  unfold indexField
  split_ifs
  · exact field_plain (by decide) (plain_showInt _)
  · exact field_plain hindex trivial

def triggerFields (input : ReportInput) (asicIdStr : List Char) (entry : BSTJSON_REALM_INDEX) :
    List Field :=
  [⟨1, 0, "jsonrpc".toList, .str "2.0".toList⟩,
    ⟨0, 0, "method".toList, .str "trigger-report".toList⟩,
    ⟨0, 0, "asic-id".toList, .str asicIdStr⟩,
    ⟨0, 0, "version".toList, .str (showInt BVIEW_JSON_VERSION)⟩,
    ⟨0, 0, "time-stamp".toList, .str (timeString input.time)⟩,
    ⟨0, 0, "realm".toList, .str input.options.triggerInfo.realm.toList⟩,
    ⟨0, 0, "counter".toList, .str input.options.triggerInfo.counter.toList⟩] ++
    (entry.index1.toList ++ entry.index2.toList).map (indexField input.options.triggerInfo)

theorem trigger_report_start_eq (asicIdStr : List Char) (entry : BSTJSON_REALM_INDEX) :
    trigger_report_start input asicIdStr entry =
      " \x7b".toList ++ terminated ((triggerFields input asicIdStr entry).map Field.text) ++
        "\"report\"".toList ++ List.replicate 1 ' ' ++ ": ".toList ++ "[".toList := by
  have hinfos : (entry.index1.toList ++ entry.index2.toList).flatMap
      (bstjson_encode_trigger_realm_index_info input.options.triggerInfo) =
        terminated (((entry.index1.toList ++ entry.index2.toList).map
          (indexField input.options.triggerInfo)).map Field.text) := by
    rw [terminated, List.map_map, List.map_map, List.flatMap]
    exact congrArg List.flatten (List.map_congr_left fun index _ => index_info_eq _ index)
  rw [trigger_report_start, hinfos]
  unfold getBstTriggerReportStart
  simp only [String.toList_append, -String.reduceAppend]
  simp [format, Arg.text, terminated, triggerFields, Field.text, argText]

theorem trigger_fields_plain {asicIdStr : List Char} {entry : BSTJSON_REALM_INDEX}
    (hasic : Plain asicIdStr) (hplain : Plain input.options.triggerInfo.counter.toList)
    (hentry : bstjson_realm_to_indices_get input.options.triggerInfo.realm = some entry) :
    ∀ field ∈ triggerFields input asicIdStr entry, field.IsPlain := by
  have hrealm : input.options.triggerInfo.realm = entry.realm := by
    simpa using List.find?_some hentry
  have hmem : entry ∈ bst_realm_indices_map := List.mem_of_find?_eq_some hentry
  have hmap : ∀ known ∈ bst_realm_indices_map, Plain known.realm.toList ∧
      ∀ index ∈ known.index1.toList ++ known.index2.toList, Plain index.toList := by
    decide
  obtain ⟨hname, hindices⟩ := hmap entry hmem
  rw [← hrealm] at hname
  simp only [triggerFields, List.forall_mem_append, List.forall_mem_cons, List.forall_mem_map]
  refine ⟨⟨field_plain (by decide) (show Plain _ by decide),
    field_plain (by decide) (show Plain _ by decide), field_plain (by decide) hasic,
    field_plain (by decide) (plain_showInt _), field_plain (by decide)
      (plain_timeString input.time), field_plain (by decide) hname,
    field_plain (by decide) hplain, fun _ hmem => absurd hmem List.not_mem_nil⟩, ?_⟩
  exact ⟨fun index hindex => index_field_plain _ (hindices index (List.mem_append_left _ hindex)),
    fun index hindex => index_field_plain _ (hindices index (List.mem_append_right _ hindex))⟩

-- The array of a trigger report has no blank after its opening bracket.
def arrayPad (input : ReportInput) : List Char := if input.options.reportTrigger then [] else [' ']

-- The members before the report.
def header_fields (input : ReportInput) : List Field :=
  match sbplugin_ovsdb_system_asic_translate_to_notation input.asicId with
  | none => []
  | some asicIdStr =>
      if input.options.reportTrigger then
        match bstjson_realm_to_indices_get input.options.triggerInfo.realm with
        | none => []
        | some entry => triggerFields input asicIdStr entry
      else reportFields input asicIdStr

-- A header is that of a trigger report or of another one, and of these fields.
theorem report_header_cases (hheader : report_header input = .ok header) :
    ∃ asicIdStr, sbplugin_ovsdb_system_asic_translate_to_notation input.asicId = some asicIdStr ∧
      ((input.options.reportTrigger = true ∧ ∃ entry,
          bstjson_realm_to_indices_get input.options.triggerInfo.realm = some entry ∧
          header_fields input = triggerFields input asicIdStr entry ∧
          header = trigger_report_start input asicIdStr entry) ∨
        (input.options.reportTrigger = false ∧
          header_fields input = reportFields input asicIdStr ∧
          header = report_start input asicIdStr)) := by
  cases hasicStr : sbplugin_ovsdb_system_asic_translate_to_notation input.asicId with
  | none => simp [report_header, hasicStr] at hheader
  | some asicIdStr =>
      refine ⟨asicIdStr, rfl, ?_⟩
      cases htrigger : input.options.reportTrigger with
      | false =>
          refine Or.inr ⟨rfl, by simp [header_fields, hasicStr, htrigger], ?_⟩
          simpa [report_header, hasicStr, htrigger] using hheader.symm
      | true =>
          refine Or.inl ⟨rfl, ?_⟩
          cases hentry : bstjson_realm_to_indices_get input.options.triggerInfo.realm with
          | none => simp [report_header, hasicStr, htrigger, hentry] at hheader
          | some entry =>
              refine ⟨entry, rfl, by simp [header_fields, hasicStr, htrigger, hentry], ?_⟩
              simpa [report_header, hasicStr, htrigger, hentry] using hheader.symm

theorem report_header_opens (hheader : report_header input = .ok header)
    (hplain : Plain input.options.triggerInfo.counter.toList) :
    ∃ opening, Opens ((header_fields input).map Field.json) opening ∧
      header = opening ++ '[' :: arrayPad input := by
  obtain ⟨asicIdStr, hasicStr, hcases⟩ := report_header_cases hheader
  have hasic := plain_asic_notation hasicStr
  rcases hcases with ⟨htrigger, entry, hentry, hfields, hstart⟩ | ⟨htrigger, hfields, hstart⟩
  · have hwrites := writes_fields (trigger_fields_plain hasic hplain hentry)
    refine ⟨_, hfields ▸ opens_of_members hwrites 1, ?_⟩
    rw [hstart, hfields, trigger_report_start_eq, arrayPad, if_pos htrigger]
    rfl
  · have hreport : ∀ field ∈ reportFields input asicIdStr, field.IsPlain :=
      report_fields_plain hasic
    have hwrites := writes_fields hreport
    refine ⟨_, hfields ▸ opens_of_members hwrites 0, ?_⟩
    rw [hstart, hfields, report_start_eq, arrayPad, htrigger]
    rfl

end Header

section Body

variable {input : ReportInput} {header : List Char}

def deviceFields (input : ReportInput) : List Field :=
  [⟨1, 1, "realm".toList, .str "device".toList⟩,
    ⟨1, 1, "data".toList, .u64 (bst_json_convert_data input.options input.asic
      input.current.device.bufferCount input.options.bst_max_buffers_ptr.device)⟩]

def BVIEW_BST_REALM_ID.json (realm : BVIEW_BST_REALM_ID) (input : ReportInput) : Json :=
  match realm.encoder with
  | none => .object ((deviceFields input).map Field.json)
  | some encoder => realm.sectionJson input encoder

def BVIEW_BST_REALM_ID.text (realm : BVIEW_BST_REALM_ID) (input : ReportInput) : List Char :=
  match realm.encoder with
  | none => jsonencode_report_device input ++ [' ']
  | some encoder => realm.sectionText input encoder

-- What a report has an element for.
def reported_realms (input : ReportInput) : List BVIEW_BST_REALM_ID :=
  (if device_reported input then [.DEVICE] else []) ++ report_realms input

theorem writes_device (hdevice : device_reported input = true) (after : Nat) :
    Writes (.element (BVIEW_BST_REALM_ID.DEVICE.json input))
      (jsonencode_report_device input ++ List.replicate after ' ') := by
  have hfields : ∀ field ∈ deviceFields input, field.IsPlain := by
    simp only [deviceFields, List.forall_mem_cons]
    exact ⟨field_plain (by decide) (show Plain _ by decide), field_plain (by decide) trivial,
      fun _ hmem => absurd hmem List.not_mem_nil⟩
  have hmembers := writes_members (writes_fields hfields) (by simp [deviceFields])
  have hobject := hmembers.object.element (blanks_spaces 0) (blanks_spaces after)
  have htext : jsonencode_report_device input =
      '\x7b' :: List.intercalate [','] ((deviceFields input).map Field.text) ++ ['\x7d'] := by
    simp [jsonencode_report_device, hdevice, format, Arg.text, deviceFields, Field.text, argText,
      List.intercalate]
  rw [htext]
  exact hobject

theorem report_realms_encoder {realm : BVIEW_BST_REALM_ID} (hmem : realm ∈ report_realms input) :
    ∃ encoder, realm.encoder = some encoder := by
  have horder : ∀ realm ∈ reportOrder, realm.encoder.isSome = true := by decide
  exact Option.isSome_iff_exists.mp (horder realm (List.mem_filter.mp hmem).1)

theorem writes_reported :
    List.Forall₂ (fun json text => Writes (.element json) text)
      ((reported_realms input).map (·.json input))
      ((reported_realms input).map (·.text input)) := by
  rw [List.forall₂_map_left_iff, List.forall₂_map_right_iff, List.forall₂_same]
  intro realm hmem
  rcases List.mem_append.mp hmem with hmem | hmem
  · split_ifs at hmem with hdevice
    · rw [List.mem_singleton.mp hmem]
      exact writes_device hdevice 1
    · cases hmem
  · obtain ⟨encoder, hencoder⟩ := report_realms_encoder hmem
    have hrealm := writes_realm input hencoder
    simpa only [BVIEW_BST_REALM_ID.json, BVIEW_BST_REALM_ID.text, hencoder] using hrealm

theorem sections_appends :
    Appends (report_sections input).flatten
      (terminated ((report_realms input).map (·.text input))) := by
  apply Appends.flatten
  rw [report_sections, List.map_map, List.forall₂_map_left_iff, List.forall₂_map_right_iff,
    List.forall₂_same]
  intro realm hmem
  obtain ⟨encoder, hencoder⟩ := report_realms_encoder hmem
  have hrealm := realm_appends input hencoder
  simpa only [Function.comp_apply, BVIEW_BST_REALM_ID.text, hencoder] using hrealm

theorem device_isEmpty : (jsonencode_report_device input).isEmpty = !device_reported input := by
  unfold jsonencode_report_device
  cases device_reported input <;> rfl

theorem report_head_eq :
    report_head input header =
      header ++ terminated ((if device_reported input then [BVIEW_BST_REALM_ID.DEVICE] else []).map
        (·.text input)) := by
  unfold report_head
  dsimp only
  rw [device_isEmpty]
  cases hdevice : device_reported input with
  | true => simp [terminated, BVIEW_BST_REALM_ID.text, BVIEW_BST_REALM_ID.encoder]
  | false => simp [terminated, jsonencode_report_device, hdevice]

theorem text_end (realm : BVIEW_BST_REALM_ID) (input : ReportInput) :
    ∃ before, realm.text input = before ++ [' '] := by
  unfold BVIEW_BST_REALM_ID.text
  cases realm.encoder with
  | none => exact ⟨_, rfl⟩
  | some encoder => exact sectionText_end _ _ _

theorem texts_end (hrealms : report_realms input ≠ []) :
    ∃ before, List.intercalate [','] ((report_realms input).map (·.text input)) =
      before ++ [' '] := by
  obtain ⟨before, hbefore⟩ := text_end ((report_realms input).getLast hrealms) input
  conv in report_realms input => rw [← List.dropLast_append_getLast hrealms]
  rw [List.map_append, List.map_singleton, ← terminated_append, hbefore, ← List.append_assoc]
  exact ⟨_, rfl⟩

-- The report up to the step back at its end. The blank that the end of the
-- report starts with makes good for the one the last element loses.
theorem report_body (hne : reported_realms input ≠ []) :
    ∃ texts, List.Forall₂ (fun json text => Writes (.element json) text)
        ((reported_realms input).map (·.json input)) texts ∧
      (render (report_head input header) (report_ops input)).dropLast ++ [' '] =
        header ++ List.intercalate [','] texts := by
  rw [report_ops_eq, render_append, sections_appends]
  split_ifs with hrealms
  · have hdevice : device_reported input = true := by
      rw [reported_realms, hrealms] at hne
      by_contra hsilent
      simp [hsilent] at hne
    refine ⟨[jsonencode_report_device input ++ List.replicate 2 ' '], ?_, ?_⟩
    · rw [reported_realms, hrealms, if_pos hdevice]
      exact .cons (writes_device hdevice 2) .nil
    · rw [report_head_eq, hrealms, if_pos hdevice]
      simp [render, terminated, BVIEW_BST_REALM_ID.text, BVIEW_BST_REALM_ID.encoder,
        List.intercalate]
  · refine ⟨_, writes_reported, ?_⟩
    have hne' : (report_realms input).map (·.text input) ≠ [] := by simpa using hrealms
    obtain ⟨before, hbefore⟩ := texts_end hrealms
    rw [reported_realms, List.map_append, ← terminated_intercalate _ hne', ← List.append_assoc,
      ← report_head_eq, terminated_eq _ hne', hbefore]
    simp only [render, ← List.append_assoc, List.dropLast_concat]

end Body

section WellFormed

variable {input : ReportInput} {header : List Char}

-- The text is one object, and its report is an array.
def WellFormedReport (text : List Char) : Prop :=
  ∃ fields items, Derives (.element (.object fields)) text [] ∧
    ("report".toList, .array items) ∈ fields

-- A trigger report of nothing has no blank for its end to overwrite.
def EmptyTriggerReport (input : ReportInput) : Prop :=
  input.options.reportTrigger = true ∧ reported_realms input = []

theorem empty_render (hempty : reported_realms input = []) :
    render (report_head input header) (report_ops input) = header := by
  have hnone := List.append_eq_nil_iff.mp hempty
  rw [report_ops_eq, if_pos hnone.2, report_sections, hnone.2, report_head_eq, hnone.1]
  simp [terminated, render]

theorem report_array (hheader : report_header input = .ok header)
    (hplain : Plain input.options.triggerInfo.counter.toList)
    (hnonempty : ¬ EmptyTriggerReport input) :
    ∃ opening text, Opens ((header_fields input).map Field.json) opening ∧
      Writes (.value (.array ((reported_realms input).map (·.json input)))) text ∧
      (render (report_head input header) (report_ops input)).dropLast ++ " ]".toList =
        opening ++ text := by
  obtain ⟨opening, hopens, heq⟩ := report_header_opens hheader hplain
  by_cases hempty : reported_realms input = []
  · have htrigger : input.options.reportTrigger = false := by
      by_contra htrigger
      exact hnonempty ⟨by simpa using htrigger, hempty⟩
    rw [hempty]
    refine ⟨opening, _, hopens, writes_emptyArray (blanks_spaces 1), ?_⟩
    rw [empty_render hempty, heq, arrayPad, htrigger]
    simp
  · obtain ⟨texts, htexts, hbody⟩ := report_body hempty
    have hpad : Blanks (arrayPad input) := by
      unfold arrayPad
      split_ifs
      · exact blanks_spaces 0
      · exact blanks_spaces 1
    have helements := (writes_elements htexts (by simpa using hempty)).blank_elements hpad
    refine ⟨opening, _, hopens, helements.array, ?_⟩
    have hend : " ]".toList = [' '] ++ [']'] := rfl
    rw [hend, ← List.append_assoc, hbody, heq]
    simp

theorem take_report_end (room : Nat) (hroom : 4 ≤ room) :
    ∃ n, " ] \x7d ".toList.take room = " ]".toList ++ " \x7d".toList ++ List.replicate n ' ' := by
  rcases Nat.eq_or_lt_of_le hroom with rfl | hlt
  · exact ⟨0, rfl⟩
  · exact ⟨1, List.take_of_length_le hlt⟩

theorem WellFormedReport.nesting {text : List Char} (h : WellFormedReport text) :
    Json.nesting ⟨0, 0, .outside⟩ text = ⟨0, 0, .outside⟩ := by
  obtain ⟨fields, items, hderives, -⟩ := h
  exact hderives.nesting _ rfl

-- What a whole report stands for.
def report_json (input : ReportInput) : Json :=
  .object ((header_fields input).map Field.json ++
    [("report".toList, .array ((reported_realms input).map (·.json input)))])

theorem report_end_derives (hheader : report_header input = .ok header)
    (hplain : Plain input.options.triggerInfo.counter.toList)
    (hnonempty : ¬ EmptyTriggerReport input) {room : Nat} (hroom : 4 ≤ room) :
    Derives (.element (report_json input))
      ((render (report_head input header) (report_ops input)).dropLast ++
        " ] \x7d ".toList.take room) [] := by
  obtain ⟨opening, text, hopens, harray, htext⟩ := report_array hheader hplain hnonempty
  obtain ⟨n, hend⟩ := take_report_end room hroom
  have hwrites := hopens _ text (List.replicate n ' ') harray (blanks_spaces n) []
  rw [hend, ← List.append_assoc, ← List.append_assoc, htext]
  rwa [List.append_nil] at hwrites

theorem report_end_well_formed (hheader : report_header input = .ok header)
    (hplain : Plain input.options.triggerInfo.counter.toList)
    (hnonempty : ¬ EmptyTriggerReport input) {room : Nat} (hroom : 4 ≤ room) :
    WellFormedReport ((render (report_head input header) (report_ops input)).dropLast ++
      " ] \x7d ".toList.take room) :=
  ⟨_, _, report_end_derives hheader hplain hnonempty hroom,
    List.mem_append_right _ List.mem_cons_self⟩

-- An end that lacks its brace leaves the object open.
theorem cut_end_malformed {text : List Char} {room : Nat} (hroom : room < 4)
    (hwhole : WellFormedReport (text ++ " ] \x7d ".toList)) :
    ¬ WellFormedReport (text ++ " ] \x7d ".toList.take room) := by
  intro hcut
  have hclosed := hwhole.nesting
  have hopen := hcut.nesting
  rw [← List.take_append_drop room " ] \x7d ".toList, ← List.append_assoc, nesting_append,
    hopen] at hclosed
  have hbrace : ∀ room < 4, Json.nesting ⟨0, 0, .outside⟩ (" ] \x7d ".toList.drop room) ≠
      ⟨0, 0, .outside⟩ := by decide
  exact hbrace room hroom hclosed

-- The closing bracket of an empty trigger report has overwritten the opening
-- one.
theorem empty_trigger_malformed {opening : List Char}
    (hwhole : WellFormedReport (opening ++ "[ ] \x7d ".toList)) :
    ¬ WellFormedReport (opening ++ " ] \x7d ".toList) := by
  intro hlost
  have hwhole := hwhole.nesting
  have hlost := hlost.nesting
  rw [nesting_append] at hwhole hlost
  generalize Json.nesting ⟨0, 0, .outside⟩ opening = n at hwhole hlost
  obtain ⟨brackets, braces, mode⟩ := n
  cases mode with
  | outside =>
      have hbefore : brackets = 0 := by
        simpa [Json.nesting, Nesting.step] using congrArg Nesting.brackets hwhole
      have hafter : brackets - 1 = 0 := by
        simpa [Json.nesting, Nesting.step] using congrArg Nesting.brackets hlost
      omega
  | inside => simp [Json.nesting, Nesting.step] at hwhole
  | escaped => simp [Json.nesting, Nesting.step] at hwhole

theorem empty_trigger_header (hheader : report_header input = .ok header)
    (hplain : Plain input.options.triggerInfo.counter.toList) (hempty : EmptyTriggerReport input) :
    ∃ opening, header = opening ++ ['['] ∧ WellFormedReport (opening ++ "[ ] \x7d ".toList) := by
  obtain ⟨opening, hopens, heq⟩ := report_header_opens hheader hplain
  rw [arrayPad, if_pos hempty.1] at heq
  have harray : Writes (.value (.array [])) ('[' :: List.replicate 1 ' ' ++ [']']) :=
    writes_emptyArray (blanks_spaces 1)
  have hwrites := hopens [] _ (List.replicate 1 ' ') harray (blanks_spaces 1) []
  refine ⟨opening, heq, (header_fields input).map Field.json ++ [("report".toList, .array [])], [],
    ?_, by simp⟩
  simpa using hwrites

theorem empty_report_fits (hheader : report_header input = .ok header)
    (hcounter : input.options.triggerInfo.counter.toList.length < 256)
    (hempty : reported_realms input = []) :
    report_size input header + 3 ≤ BSTJSON_MEMSIZE_REPORT := by
  obtain ⟨hpos, hroom⟩ := report_head_length hheader hcounter
  have hrealms := (List.append_eq_nil_iff.mp hempty).2
  have hsections : sections_size input = 0 := by rw [sections_size, hrealms]; rfl
  rw [report_size, if_pos hrealms]
  omega

theorem report_well_formed_iff (hheader : report_header input = .ok header)
    (hcounter : input.options.triggerInfo.counter.toList.length < 256)
    (hplain : Plain input.options.triggerInfo.counter.toList) {text : List Char}
    (hsuccess : bstjson_encode_get_bst_report input = .success text) :
    WellFormedReport text ↔
      ¬ EmptyTriggerReport input ∧ report_size input header + 2 ≤ BSTJSON_MEMSIZE_REPORT := by
  obtain ⟨room, rfl, hroom⟩ := success_text hheader hcounter hsuccess
  have hfour := hroom 4 (by decide)
  by_cases hempty : EmptyTriggerReport input
  · have hfits := empty_report_fits hheader hcounter hempty.2
    have hfive : 5 ≤ room := (hroom 5 (by decide)).mpr (by omega)
    obtain ⟨opening, hopening, hwhole⟩ := empty_trigger_header hheader hplain hempty
    have hend : " ] \x7d ".toList.take room = " ] \x7d ".toList := List.take_of_length_le hfive
    have hlost := empty_trigger_malformed hwhole
    rw [empty_render hempty.2, hopening, List.dropLast_concat, hend]
    exact iff_of_false hlost fun h => h.1 hempty
  · have hwhole := report_end_well_formed hheader hplain hempty (show 4 ≤ 5 by decide)
    by_cases hlow : room < 4
    · have hcut := cut_end_malformed hlow hwhole
      have hlarge : ¬ report_size input header + 2 ≤ BSTJSON_MEMSIZE_REPORT := by omega
      exact iff_of_false hcut fun h => hlarge h.2
    · have hend := report_end_well_formed hheader hplain hempty (Nat.not_lt.mp hlow)
      exact iff_of_true hend ⟨hempty, by omega⟩

-- The counters that the plugin names in its triggers.
theorem plugin_counter_plain {bid : Nat} {port queue : Int32} {info : BVIEW_BST_TRIGGER_INFO}
    (hinfo : Ovsdb.bst_ovsdb_trigger_callback bid port queue = some info) :
    info.counter.toList.length < 256 ∧ Plain info.counter.toList := by
  have htable : ∀ params ∈ Ovsdb.bid_tab_params,
      params.counter_name.toList.length < 256 ∧ Plain params.counter_name.toList := by
    decide
  obtain ⟨params, hparams, rfl⟩ := Option.map_eq_some_iff.mp hinfo
  exact htable params (List.mem_of_getElem? hparams)

end WellFormed

section Samples

def sampleHeader : List Char := report_start sampleInput ['1']

def Encoded.text : Encoded → List Char
  | .success text => text
  | _ => []

theorem report_well_formed_iff_unchanged :
    WellFormedReport (bstjson_encode_get_bst_report sampleInput).text ↔
      ¬ EmptyTriggerReport sampleInput ∧
        report_size sampleInput sampleHeader + 2 ≤ BSTJSON_MEMSIZE_REPORT :=
  report_well_formed_iff (show report_header sampleInput = .ok sampleHeader from rfl) (by decide)
    (by decide) (by decide +kernel)

-- The device counter has not changed since the backup record was taken.
def deviceTriggerInput : ReportInput :=
  { sampleInput with
    options := { (default : BSTJSON_REPORT_OPTIONS) with
      includes := { (default : RealmFlags) with device := true }
      reportTrigger := true
      triggerInfo := { realm := "device", counter := "data", port := 0, queue := 0 } } }

theorem device_trigger_malformed :
    bstjson_encode_get_bst_report deviceTriggerInput =
        .success (bstjson_encode_get_bst_report deviceTriggerInput).text ∧
      (bstjson_encode_get_bst_report deviceTriggerInput).text.length < BSTJSON_MEMSIZE_REPORT ∧
      ¬ WellFormedReport (bstjson_encode_get_bst_report deviceTriggerInput).text := by
  refine ⟨by decide +kernel, by decide +kernel, fun hwell => ?_⟩
  have hnesting := hwell.nesting
  revert hnesting
  decide +kernel

end Samples

end BroadView.Bst
