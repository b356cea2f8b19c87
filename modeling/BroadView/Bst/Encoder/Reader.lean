import BroadView.Bst.Collector
import BroadView.Bst.Encoder.WellFormed
import BroadView.CJson.Read
import Mathlib.Data.List.Nodup

-- What a client of the agent reads in its reports.
namespace BroadView.Bst

open Printf Json Transition
open CJson (readNumber readString readItems readMember readMemberItems decode_items_eq
  member_object string_decode)

section Read

variable {Double : Type}

-- A row that is read, under the port that it stands in.
structure ReadRow (Double : Type) where
  port : Option (List Char)
  index : Int32
  columns : List Double

-- The index comes first; the port of a queue is no counter.
def readRow (port : Option (List Char)) : CJson.Item Double → Option (ReadRow Double)
  | .array (.number _ index :: columns) => some ⟨port, index, columns.filterMap readNumber⟩
  | _ => none

def readRows (port : Option (List Char)) (object : CJson.Item Double) : List (ReadRow Double) :=
  (readMemberItems object "data").filterMap (readRow port)

def readSection (realm : BVIEW_BST_REALM_ID) (object : CJson.Item Double) :
    List (ReadRow Double) :=
  if realm = .DEVICE then
    ((readMember object "data").bind readNumber).toList.map fun value => ⟨none, 0, [value]⟩
  else if realm.hasPorts then
    (readMemberItems object "data").flatMap fun port =>
      readRows ((readMember port "port").bind readString) port
  else readRows none object

def readReport (realm : BVIEW_BST_REALM_ID) (root : CJson.Item Double) : List (ReadRow Double) :=
  ((readMemberItems root "report").filter fun element =>
    (readMember element "realm").bind readString = some realm.name.toList).flatMap
      (readSection realm)

end Read

section Rows

variable {arith : CJson.Arithmetic} {whole : Nat → arith.Double}

def counterDouble (whole : Nat → Double) (value : UInt64) : Double := whole value.toNat

-- A counter is read as the double of its value.
theorem number_counter (hexact : CJson.Exact arith whole) {value : UInt64}
    (hvalue : value.toNat < 2 ^ 53) :
    readNumber (CJson.decode arith (argJson (.u64 value))) = some (counterDouble whole value) := by
  have hparse := CJson.parse_number_showNat hexact false hvalue
  rw [argJson, CJson.decode]
  simp only [Bool.false_eq_true, if_false, List.nil_append] at hparse
  rw [hparse, readNumber, hexact.scaled _ hvalue]
  rfl

theorem columns_read (hexact : CJson.Exact arith whole) {args : List Arg}
    (hargs : ∀ arg ∈ args, ∀ value, arg ≠ .int value)
    (hvalues : ∀ value ∈ args.filterMap argCounter, value.toNat < 2 ^ 53) :
    ((args.map argJson).map (CJson.decode arith)).filterMap readNumber =
      (args.filterMap argCounter).map (counterDouble whole) := by
  induction args with
  | nil => rfl
  | cons arg args ih =>
      have hmore := ih fun arg hmem => hargs arg (List.mem_cons_of_mem _ hmem)
      cases arg with
      | int value => exact absurd rfl (hargs _ List.mem_cons_self value)
      | str value =>
          rw [List.filterMap_cons_none (by rfl)] at hvalues
          rw [List.map_cons, List.map_cons, List.filterMap_cons_none (by rfl),
            List.filterMap_cons_none (by rfl), hmore hvalues]
      | u64 value =>
          rw [List.filterMap_cons_some (by rfl), List.forall_mem_cons] at hvalues
          rw [List.map_cons, List.map_cons,
            List.filterMap_cons_some (number_counter hexact hvalues.1),
            List.filterMap_cons_some (by rfl), List.map_cons, hmore hvalues.2]

variable {realm : BVIEW_BST_REALM_ID} {encoder : RealmEncoder} {input : ReportInput}

def BVIEW_BST_REALM_ID.portKey (realm : BVIEW_BST_REALM_ID) (port : Nat) : Option (List Char) :=
  if realm.hasPorts then some (shown_port port) else none

-- What a client makes of a row of the report.
def Row.read (whole : Nat → Double) (realm : BVIEW_BST_REALM_ID) (row : Row) : ReadRow Double :=
  ⟨realm.portKey row.port, Int32.ofInt row.index, (realm.columns row).map (counterDouble whole)⟩

-- What int and double have to hold of a realm.
structure FitsRow (realm : BVIEW_BST_REALM_ID) (row : Row) : Prop where
  index : row.index < 2 ^ 31
  columns : ∀ value ∈ realm.columns row, value.toNat < 2 ^ 53

theorem printedArgs_cons (hencoder : realm.encoder = some encoder) {port : Nat} {row : Row}
    (hmem : row ∈ realm_rows encoder input port) :
    ∃ args, realm.printedArgs row = .int row.index :: args ∧
      ∀ arg ∈ args, ∀ value, arg ≠ .int value := by
  obtain ⟨-, -, hrow⟩ := mem_realm_rows.mp hmem
  have hargs : row.args = row_args encoder input port row.index := by rw [hrow]
  have hshape := encoder_shape hencoder input.current port row.index
  rw [printedArgs_eq hencoder, printed, hargs, row_args, hshape, Nat.add_assoc, Nat.add_comm 1,
    List.cons_append, List.take_succ_cons]
  refine ⟨_, rfl, fun arg harg value => ?_⟩
  have harg := List.mem_of_mem_take harg
  simp only [List.mem_append, List.mem_map] at harg
  rcases harg with ⟨queuePort, -, rfl⟩ | ⟨column, -, rfl⟩
  · intro h
    cases h
  · intro h
    cases h

theorem read_row_eq (hexact : CJson.Exact arith whole) (hencoder : realm.encoder = some encoder)
    {port : Nat} {row : Row} (hmem : row ∈ realm_rows encoder input port)
    (hfits : FitsRow realm row) (key : Option (List Char)) :
    readRow key (CJson.decode arith (rowJson (realm.printedArgs row))) =
      some ⟨key, Int32.ofInt row.index, (realm.columns row).map (counterDouble whole)⟩ := by
  obtain ⟨args, hprinted, hargs⟩ := printedArgs_cons hencoder hmem
  have hcolumns : realm.columns row = args.filterMap argCounter := by
    rw [BVIEW_BST_REALM_ID.columns, hprinted, List.filterMap_cons_none rfl]
  have hvalues := hfits.columns
  have hindex := hfits.index
  have hint : (Int32.ofInt row.index).toInt = row.index :=
    Int32.toInt_ofInt_of_le (by omega) (by omega)
  obtain ⟨valuedouble, hparse⟩ := CJson.parse_number_showInt hexact (Int32.ofInt row.index)
  have hwhole := hparse [] CJson.stops_nil
  rw [List.append_nil, hint] at hwhole
  rw [hcolumns] at hvalues
  rw [hprinted, rowJson, List.map_cons, CJson.decode, decode_items_eq, List.map_cons, argJson,
    CJson.decode, hwhole, readRow, columns_read hexact hargs hvalues, hcolumns]

end Rows

section Sections

variable {arith : CJson.Arithmetic} {whole : Nat → arith.Double} {realm : BVIEW_BST_REALM_ID}
  {encoder : RealmEncoder} {input : ReportInput}

theorem lookup_section {key : List Char} (hkey : CJson.Lower key) (hne : key ≠ "data".toList)
    (value : List Char) (items : List Json) :
    CJson.lookup [(key, .string value), ("data".toList, .array items)] key = some (.string value) ∧
      CJson.lookup [(key, .string value), ("data".toList, .array items)] "data".toList =
        some (.array items) := by
  have hdata : CJson.Lower "data".toList := by decide
  have hkeys : ∀ field ∈ [(key, Json.string value), ("data".toList, .array items)],
      CJson.Lower field.1 := by
    simp only [List.forall_mem_cons]
    exact ⟨hkey, hdata, fun _ h => absurd h List.not_mem_nil⟩
  have hnodup : ([(key, Json.string value), ("data".toList, .array items)].map Prod.fst).Nodup := by
    simpa using hne
  exact ⟨CJson.lookup_of_mem hkeys hnodup List.mem_cons_self,
    CJson.lookup_of_mem hkeys hnodup (List.mem_cons_of_mem _ List.mem_cons_self)⟩

theorem section_read (arith : CJson.Arithmetic) {key : String} {value : List Char}
    (hkey : CJson.Lower key.toList) (hne : key.toList ≠ "data".toList) (hvalue : Plain value)
    (items : List Json) :
    (readMember (CJson.decode arith (sectionJson key.toList value items)) key).bind readString =
        some value ∧
      readMemberItems (CJson.decode arith (sectionJson key.toList value items)) "data" =
        items.map (CJson.decode arith) := by
  obtain ⟨hname, hdata⟩ := lookup_section hkey hne value items
  rw [sectionJson, member_object hname, readMemberItems, member_object hdata, Option.bind_some,
    string_decode hvalue, Option.elim_some, CJson.decode, readItems, decode_items_eq]
  exact ⟨rfl, rfl⟩

theorem read_rows_eq (hexact : CJson.Exact arith whole) (hencoder : realm.encoder = some encoder)
    {port : Nat} {object : CJson.Item arith.Double} {key : Option (List Char)}
    (hdata : readMemberItems object "data" =
      (realm.rowsJson input encoder port).map (CJson.decode arith))
    (hfits : ∀ row ∈ realm_rows encoder input port, FitsRow realm row)
    (hkey : key = realm.portKey port) :
    readRows key object = (realm_rows encoder input port).map (Row.read whole realm) := by
  subst hkey
  rw [readRows, hdata, BVIEW_BST_REALM_ID.rowsJson, List.map_map, List.filterMap_map,
    ← List.filterMap_eq_map]
  refine List.filterMap_congr fun row hmem => ?_
  have hport : row.port = port := by
    obtain ⟨-, -, hrow⟩ := mem_realm_rows.mp hmem
    rw [hrow]
  have hread := read_row_eq hexact hencoder hmem (hfits row hmem) (realm.portKey port)
  simp only [Function.comp_apply, hread, Row.read, hport]

theorem encoder_not_device (hencoder : realm.encoder = some encoder) : realm ≠ .DEVICE := by
  rintro rfl
  cases hencoder

theorem read_encoded (hexact : CJson.Exact arith whole) (hencoder : realm.encoder = some encoder)
    (hfits : ∀ row ∈ realm.rows input, FitsRow realm row) :
    readSection realm (CJson.decode arith (realm.json input)) =
      (realm.rows input).map (Row.read whole realm) := by
  have hname : Plain realm.name.toList := by cases realm <;> decide
  have hlower : CJson.Lower "realm".toList := by decide
  simp only [BVIEW_BST_REALM_ID.rows, hencoder] at hfits ⊢
  simp only [BVIEW_BST_REALM_ID.json, hencoder, BVIEW_BST_REALM_ID.sectionJson, readSection,
    if_neg (encoder_not_device hencoder)]
  have hsection := section_read arith hlower (by decide) hname
  by_cases hports : realm.hasPorts = true
  · simp only [hports, if_true] at hfits ⊢
    rw [(hsection _).2, List.map_map, List.flatMap_map, port_realm_rows, List.map_flatMap]
    refine List.flatMap_congr fun port hport => ?_
    have hfitsPort : ∀ row ∈ realm_rows encoder input port, FitsRow realm row :=
      fun row hrow => hfits row (List.mem_flatMap.mpr ⟨port, hport, hrow⟩)
    have hport : CJson.Lower "port".toList := by decide
    obtain ⟨hkey, hdata⟩ := section_read arith hport (by decide)
      (plain_shown_port port) (realm.rowsJson input encoder port)
    refine read_rows_eq hexact hencoder hdata hfitsPort ?_
    rw [BVIEW_BST_REALM_ID.portKey, if_pos hports]
    exact hkey
  · simp only [hports, Bool.false_eq_true, if_false] at hfits ⊢
    refine read_rows_eq hexact hencoder (hsection _).2 hfits ?_
    rw [BVIEW_BST_REALM_ID.portKey, if_neg hports]

theorem device_member (name : String) (json : Json) (hmem : (name.toList, json) ∈
      (deviceFields input).map Field.json) :
    readMember (CJson.decode arith (BVIEW_BST_REALM_ID.DEVICE.json input)) name =
      some (CJson.decode arith json) := by
  have hnamed : CJson.Named ((deviceFields input).map Field.json) ["realm", "data"] :=
    ⟨rfl, by decide, by decide⟩
  exact member_object (hnamed.lookup_eq hmem)

theorem read_device (hexact : CJson.Exact arith whole) (hdevice : device_reported input = true)
    (hfits : ∀ row ∈ BVIEW_BST_REALM_ID.DEVICE.rows input, FitsRow .DEVICE row) :
    readSection .DEVICE (CJson.decode arith (BVIEW_BST_REALM_ID.DEVICE.json input)) =
      (BVIEW_BST_REALM_ID.DEVICE.rows input).map (Row.read whole .DEVICE) := by
  have hrows : BVIEW_BST_REALM_ID.DEVICE.rows input =
      [⟨0, 0, BVIEW_BST_REALM_ID.DEVICE.args input 0 0⟩] := if_pos hdevice
  have hcolumns : BVIEW_BST_REALM_ID.DEVICE.columns
      ⟨0, 0, BVIEW_BST_REALM_ID.DEVICE.args input 0 0⟩ = [bst_json_convert_data input.options
        input.asic input.current.device.bufferCount input.options.bst_max_buffers_ptr.device] := by
    rfl
  rw [hrows] at hfits ⊢
  have hvalue := (hfits _ List.mem_cons_self).columns
  rw [hcolumns] at hvalue
  have hnumber := number_counter hexact (hvalue _ List.mem_cons_self)
  rw [readSection, if_pos rfl, device_member "data" _ (List.mem_cons_of_mem _ List.mem_cons_self),
    Option.bind_some, hnumber, List.map_singleton, Row.read, hcolumns]
  rfl

theorem section_name (hreported : realm ∈ reported_realms input) :
    (readMember (CJson.decode arith (realm.json input)) "realm").bind readString =
      some realm.name.toList := by
  have hname : Plain realm.name.toList := by cases realm <;> decide
  cases hencoder : realm.encoder with
  | none =>
      have hdevice : realm = .DEVICE := by cases realm <;> first | rfl | cases hencoder
      subst hdevice
      rw [device_member "realm" _ List.mem_cons_self, Option.bind_some]
      exact string_decode hname
  | some encoder =>
      have hlower : CJson.Lower "realm".toList := by decide
      simp only [BVIEW_BST_REALM_ID.json, hencoder, BVIEW_BST_REALM_ID.sectionJson]
      exact (section_read arith hlower (by decide) hname _).1

end Sections

section Report

variable {arith : CJson.Arithmetic} {whole : Nat → arith.Double} {input : ReportInput}

def triggerNames : List String :=
  ["jsonrpc", "method", "asic-id", "version", "time-stamp", "realm", "counter"]

-- The names of the members of a report are different ones.
theorem header_names (input : ReportInput) : ∃ names : List String,
    (header_fields input).map Field.key = names.map String.toList ∧
      (names ++ ["report"]).Nodup ∧ ∀ name ∈ names ++ ["report"], CJson.Lower name.toList := by
  unfold header_fields
  split
  · exact ⟨[], rfl, by decide, by decide⟩
  · split_ifs
    · split
      · exact ⟨[], rfl, by decide, by decide⟩
      · rename_i entry hentry
        have hmem : entry ∈ bst_realm_indices_map := List.mem_of_find?_eq_some hentry
        have hmap : ∀ known ∈ bst_realm_indices_map,
            (triggerNames ++ (known.index1.toList ++ known.index2.toList) ++ ["report"]).Nodup ∧
              ∀ name ∈ triggerNames ++ (known.index1.toList ++ known.index2.toList) ++ ["report"],
                CJson.Lower name.toList := by decide
        have hindex (index : String) : (indexField input.options.triggerInfo index).key =
            index.toList := by
          unfold indexField
          split_ifs with hport
          · rw [hport]
          · rfl
        refine ⟨triggerNames ++ (entry.index1.toList ++ entry.index2.toList), ?_, hmap entry hmem⟩
        have hindices (indices : List String) :
            (indices.map (indexField input.options.triggerInfo)).map Field.key =
              indices.map String.toList := by
          rw [List.map_map]
          exact List.map_congr_left fun index _ => hindex index
        rw [triggerFields, List.map_append (f := Field.key), hindices]
        refine Eq.trans ?_ List.map_append.symm
        rfl
    · exact ⟨["jsonrpc", "method", "asic-id", "version", "time-stamp"], rfl, by decide, by decide⟩

theorem report_member {name : String} {json : Json}
    (hmem : (name.toList, json) ∈ (header_fields input).map Field.json ++
      [("report".toList, .array ((reported_realms input).map (·.json input)))]) :
    readMember (CJson.decode arith (report_json input)) name = some (CJson.decode arith json) := by
  obtain ⟨names, hnames, hnodup, hlower⟩ := header_names input
  have hnamed : CJson.Named ((header_fields input).map Field.json ++
      [("report".toList, .array ((reported_realms input).map (·.json input)))])
        (names ++ ["report"]) := by
    refine ⟨?_, hlower, hnodup⟩
    rw [List.map_append, List.map_append, ← hnames, List.map_map]
    rfl
  exact member_object (hnamed.lookup_eq hmem)

theorem mem_reported_realms {realm : BVIEW_BST_REALM_ID} :
    realm ∈ reported_realms input ↔
      (realm = .DEVICE ∧ device_reported input = true) ∨
        (realm ≠ .DEVICE ∧ input.options.includes.has realm = true) := by
  have horder : realm ∈ reportOrder ↔ realm ≠ .DEVICE := by cases realm <;> decide
  rw [reported_realms, List.mem_append, report_realms, List.mem_filter, horder]
  split_ifs with hdevice
  · simp [hdevice]
  · simp [hdevice]

theorem reported_realms_nodup (input : ReportInput) : (reported_realms input).Nodup := by
  have horder : reportOrder.Nodup := by decide
  rw [reported_realms]
  refine List.Nodup.append ?_ (horder.filter _) fun realm hdevice hmem => ?_
  · split_ifs
    · exact List.nodup_singleton _
    · exact List.nodup_nil
  · have hother : realm ∈ reportOrder := (List.mem_filter.mp hmem).1
    split_ifs at hdevice
    · rw [List.mem_singleton.mp hdevice] at hother
      exact absurd hother (by decide)
    · cases hdevice

theorem realm_name_inj {realm realm' : BVIEW_BST_REALM_ID}
    (h : realm.name.toList = realm'.name.toList) : realm = realm' := by
  revert h
  cases realm <;> cases realm' <;> decide

-- What stands in a report about a realm.
def rowsOf (realm : BVIEW_BST_REALM_ID) (input : ReportInput) : List Row :=
  if input.options.includes.has realm then realm.rows input else []

theorem rowsOf_reported (realm : BVIEW_BST_REALM_ID) (input : ReportInput) :
    rowsOf realm input = if realm ∈ reported_realms input then realm.rows input else [] := by
  unfold rowsOf
  simp only [mem_reported_realms]
  by_cases hrealm : realm = .DEVICE
  · subst hrealm
    cases hdevice : device_reported input with
    | true =>
        have hincluded : input.options.includes.has .DEVICE = true := by
          unfold device_reported at hdevice
          exact (Bool.and_eq_true_iff.mp hdevice).1
        simp [hincluded]
    | false => simp [BVIEW_BST_REALM_ID.rows, BVIEW_BST_REALM_ID.encoder, hdevice]
  · simp [hrealm]

theorem read_report_eq (hexact : CJson.Exact arith whole)
    (hfits : ∀ realm, ∀ row ∈ rowsOf realm input, FitsRow realm row)
    (realm : BVIEW_BST_REALM_ID) :
    readReport realm (CJson.decode arith (report_json input)) =
      (rowsOf realm input).map (Row.read whole realm) := by
  have hreport : readMemberItems (CJson.decode arith (report_json input)) "report" =
      ((reported_realms input).map (·.json input)).map (CJson.decode arith) := by
    rw [readMemberItems, report_member (List.mem_append_right _ List.mem_cons_self),
      Option.elim_some, CJson.decode, readItems, decode_items_eq]
  have hfilter : (reported_realms input).filter (fun realm' =>
      decide ((readMember (CJson.decode arith (realm'.json input)) "realm").bind readString =
        some realm.name.toList)) =
          (reported_realms input).filter fun realm' => decide (realm' = realm) := by
    refine List.filter_congr fun realm' hmem => ?_
    rw [section_name hmem]
    exact decide_eq_decide.mpr ⟨fun h => realm_name_inj (Option.some.inj h),
      fun h => by rw [h]⟩
  have hrows := rowsOf_reported realm input
  have hrealm := hfits realm
  rw [hrows] at hrealm ⊢
  rw [readReport, hreport, List.map_map, List.filter_map, List.flatMap_map]
  simp only [Function.comp_def]
  rw [hfilter, List.filter_eq, List.Nodup.count (reported_realms_nodup input)]
  split_ifs at hrealm ⊢ with hmem
  · rw [List.replicate_one, List.flatMap_singleton]
    rcases mem_reported_realms.mp hmem with ⟨rfl, hdevice⟩ | ⟨hother, -⟩
    · exact read_device hexact hdevice hrealm
    · obtain ⟨encoder, hencoder⟩ : ∃ encoder, realm.encoder = some encoder := by
        cases realm <;> first | exact ⟨_, rfl⟩ | exact absurd rfl hother
      exact read_encoded hexact hencoder hrealm
  · rfl

-- What is read of an argument that stands in the header.
def Shows (arg : Arg) (item : CJson.Item arith.Double) : Prop :=
  match arg with
  | .str value => readString item = some value
  | .int value => ∃ valuedouble valueint, item = .number valuedouble valueint ∧
      valueint.toInt = value
  | .u64 _ => False

theorem shows_int (hexact : CJson.Exact arith whole) (value : Int32) :
    Shows (.int value.toInt) (CJson.decode arith (argJson (.int value.toInt))) := by
  obtain ⟨valuedouble, hparse⟩ := CJson.parse_number_showInt hexact value
  have hwhole := hparse [] CJson.stops_nil
  rw [List.append_nil] at hwhole
  exact ⟨valuedouble, value, by rw [argJson, CJson.decode, hwhole], rfl⟩

theorem shows_field {field : Field} (hplain : field.IsPlain) {value : List Char}
    (hstr : field.arg = .str value) :
    Shows field.arg (CJson.decode arith (argJson field.arg)) := by
  have harg := hplain.arg
  rw [hstr] at harg ⊢
  exact string_decode harg

theorem header_shows (hexact : CJson.Exact arith whole) {header : List Char}
    (hheader : report_header input = .ok header)
    (hplain : Plain input.options.triggerInfo.counter.toList) :
    ∀ field ∈ header_fields input, Shows field.arg (CJson.decode arith (argJson field.arg)) := by
  obtain ⟨asicIdStr, hasicStr, hcases⟩ := report_header_cases hheader
  have hasic := plain_asic_notation hasicStr
  rcases hcases with ⟨-, entry, hentry, hfields, -⟩ | ⟨-, hfields, -⟩
  · have hplainFields := trigger_fields_plain hasic hplain hentry
    rw [hfields]
    intro field hmem
    have hfield := hplainFields field hmem
    rcases List.mem_append.mp hmem with hmem | hmem
    · have hstr : ∃ value, field.arg = .str value := by
        simp only [List.mem_cons, List.not_mem_nil, or_false] at hmem
        rcases hmem with rfl | rfl | rfl | rfl | rfl | rfl | rfl
        all_goals exact ⟨_, rfl⟩
      obtain ⟨value, hvalue⟩ := hstr
      exact shows_field hfield hvalue
    · obtain ⟨index, -, rfl⟩ := List.mem_map.mp hmem
      revert hfield
      unfold indexField
      split_ifs
      · exact fun hfield => shows_field hfield rfl
      · exact fun _ => shows_int hexact _
  · rw [hfields]
    intro field hmem
    have hfield := report_fields_plain hasic field hmem
    have hstr : ∃ value, field.arg = .str value := by
      simp only [reportFields, List.mem_cons, List.not_mem_nil, or_false] at hmem
      rcases hmem with rfl | rfl | rfl | rfl | rfl
      all_goals exact ⟨_, rfl⟩
    obtain ⟨value, hvalue⟩ := hstr
    exact shows_field hfield hvalue

variable {text : List Char}

-- A report is encoded and whole: it is no trigger report of nothing, and its end
-- fits the buffer. Its indices and counters are numbers that int and double have.
structure Readable (input : ReportInput) (text : List Char) : Prop where
  success : bstjson_encode_get_bst_report input = .success text
  header : ∃ header, report_header input = .ok header ∧
    report_size input header + 2 ≤ BSTJSON_MEMSIZE_REPORT
  counter : input.options.triggerInfo.counter.toList.length < 256 ∧
    Plain input.options.triggerInfo.counter.toList
  nonempty : ¬ EmptyTriggerReport input
  fits : ∀ realm, ∀ row ∈ rowsOf realm input, FitsRow realm row

theorem Readable.parse (h : Readable input text) :
    CJson.cJSON_Parse arith text = .ok (CJson.decode arith (report_json input)) := by
  obtain ⟨header, hheader, hfits⟩ := h.header
  obtain ⟨room, rfl, hroom⟩ := success_text hheader h.counter.1 h.success
  have hfour : 4 ≤ room := (hroom 4 (by decide)).mpr (by omega)
  exact CJson.parse_element arith (report_end_derives hheader h.counter.2 h.nonempty hfour)

-- A client that parses a report reads what its header says, and under each realm
-- the rows that the encoder has chosen, in their order, with each counter.
theorem report_read_back (hexact : CJson.Exact arith whole) (h : Readable input text) :
    ∃ root, CJson.cJSON_Parse arith text = .ok root ∧
      (∀ field ∈ header_fields input,
        ∃ item, readMember root (String.ofList field.key) = some item ∧ Shows field.arg item) ∧
      ∀ realm, readReport realm root = (rowsOf realm input).map (Row.read whole realm) := by
  obtain ⟨header, hheader, -⟩ := h.header
  refine ⟨_, h.parse, fun field hmem => ?_, read_report_eq hexact h.fits⟩
  refine ⟨_, report_member ?_, header_shows hexact hheader h.counter.2 field hmem⟩
  have hkey : (String.ofList field.key).toList = field.key := String.toList_ofList
  rw [hkey]
  exact List.mem_append_left _ (List.mem_map_of_mem (f := Field.json) hmem)

end Report

section Tables

variable {arith : CJson.Arithmetic} {whole : Nat → arith.Double} {realm : BVIEW_BST_REALM_ID}
  {input : ReportInput} {text : List Char}

-- The counters of a realm that a client holds, by the names of their ports.
abbrev Table (Double : Type) := Option (List Char) → Int32 → List Double

def ReadRow.apply {Double : Type} (table : Table Double) (row : ReadRow Double) : Table Double :=
  fun port index =>
    if row.port = port ∧ row.index = index then
      row.columns ++ (table port index).drop row.columns.length
    else table port index

abbrev Reader (Double : Type) := BVIEW_BST_REALM_ID → Table Double

-- A client that takes over every row of a report that it can parse.
def Reader.receive (arith : CJson.Arithmetic) (reader : Reader arith.Double) (text : List Char) :
    Reader arith.Double :=
  match CJson.cJSON_Parse arith text with
  | .ok root => fun realm => (readReport realm root).foldl ReadRow.apply (reader realm)
  | .error _ => reader

-- A realm without ports has its cells under port 0.
def IsCell (realm : BVIEW_BST_REALM_ID) (port index : Nat) : Prop :=
  (realm.hasPorts = false → port = 0) ∧ index < 2 ^ 31

def MirrorsCells (whole : Nat → Double) (realm : BVIEW_BST_REALM_ID) (table : Table Double)
    (cells : Nat → Nat → List UInt64) : Prop :=
  ∀ port index, IsCell realm port index →
    table (realm.portKey port) (Int32.ofInt index) = (cells port index).map (counterDouble whole)

theorem portKey_inj {port port' : Nat} (hport : realm.hasPorts = false → port = 0)
    (hport' : realm.hasPorts = false → port' = 0)
    (h : realm.portKey port = realm.portKey port') : port = port' := by
  unfold BVIEW_BST_REALM_ID.portKey at h
  cases hports : realm.hasPorts with
  | false => rw [hport hports, hport' hports]
  | true =>
      rw [hports, if_pos rfl, if_pos rfl] at h
      have hdigits : Nat.ofDigitChars 10 (showNat (port + 1)) 0 =
          Nat.ofDigitChars 10 (showNat (port' + 1)) 0 :=
        congrArg (fun digits => Nat.ofDigitChars 10 digits 0) (Option.some.inj h)
      unfold showNat at hdigits
      rw [Nat.ofDigitChars_ten_toDigits, Nat.ofDigitChars_ten_toDigits] at hdigits
      omega

theorem ofInt_inj {index index' : Nat} (hindex : index < 2 ^ 31) (hindex' : index' < 2 ^ 31)
    (h : Int32.ofInt index = Int32.ofInt index') : index = index' := by
  have hint := congrArg Int32.toInt h
  rw [Int32.toInt_ofInt_of_le (by omega) (by omega),
    Int32.toInt_ofInt_of_le (by omega) (by omega)] at hint
  omega

theorem apply_row_mirrors {table : Table Double} {whole : Nat → Double}
    {cells : Nat → Nat → List UInt64} {row : Row} (hcell : IsCell realm row.port row.index)
    (h : MirrorsCells whole realm table cells) :
    MirrorsCells whole realm ((row.read whole realm).apply table) (apply_row realm cells row) := by
  intro port index hother
  have hkeys : ((row.read whole realm).port = realm.portKey port ∧
      (row.read whole realm).index = Int32.ofInt index) ↔ row.At port index := by
    constructor
    · rintro ⟨hport, hindex⟩
      exact ⟨portKey_inj hcell.1 hother.1 hport, ofInt_inj hcell.2 hother.2 hindex⟩
    · rintro ⟨rfl, rfl⟩
      exact ⟨rfl, rfl⟩
  unfold ReadRow.apply apply_row
  simp only [hkeys]
  split_ifs
  · rw [h port index hother, overwrite, List.map_append, List.map_drop, Row.read, List.length_map]
  · exact h port index hother

theorem apply_rows_mirrors {whole : Nat → Double} {rows : List Row}
    (hrows : ∀ row ∈ rows, IsCell realm row.port row.index) {table : Table Double}
    {cells : Nat → Nat → List UInt64} (h : MirrorsCells whole realm table cells) :
    MirrorsCells whole realm ((rows.map (Row.read whole realm)).foldl ReadRow.apply table)
      (apply_rows realm cells rows) := by
  induction rows generalizing table cells with
  | nil => exact h
  | cons row rows ih =>
      have hrow := hrows row List.mem_cons_self
      exact ih (fun row hmem => hrows row (List.mem_cons_of_mem _ hmem)) (apply_row_mirrors hrow h)

theorem rowsOf_isCell {row : Row} (hmem : row ∈ rowsOf realm input) (hfits : FitsRow realm row) :
    IsCell realm row.port row.index := by
  refine ⟨fun hports => ?_, hfits.index⟩
  unfold rowsOf at hmem
  split_ifs at hmem
  · unfold BVIEW_BST_REALM_ID.rows at hmem
    split at hmem
    · split_ifs at hmem
      · rw [List.mem_singleton.mp hmem]
      · cases hmem
    · rw [hports, if_neg Bool.false_ne_true] at hmem
      obtain ⟨-, -, hrow⟩ := mem_realm_rows.mp hmem
      rw [hrow]
  · cases hmem

def Reader.Mirrors (whole : Nat → Double) (reader : Reader Double) (collector : Collector) : Prop :=
  ∀ realm, MirrorsCells whole realm (reader realm) (collector.cells realm)

-- Parsing the text of a report does what the collector does with the report.
theorem receive_mirrors (hexact : CJson.Exact arith whole) (h : Readable input text)
    {reader : Reader arith.Double} {collector : Collector}
    (hmirrors : reader.Mirrors whole collector) :
    (reader.receive arith text).Mirrors whole (collector.receive input) := by
  intro realm
  have hrows : (collector.receive input).cells realm =
      apply_rows realm (collector.cells realm) (rowsOf realm input) := by
    unfold Collector.receive rowsOf
    dsimp only
    split_ifs
    · rfl
    · rfl
  unfold Reader.receive
  simp only [h.parse, read_report_eq hexact h.fits, hrows]
  exact apply_rows_mirrors (fun row hmem => rowsOf_isCell hmem (h.fits realm row hmem))
    (hmirrors realm)

-- The reports with their texts, one after the other.
def receiveAll (arith : CJson.Arithmetic) (reader : Reader arith.Double)
    (reports : List (ReportInput × List Char)) : Reader arith.Double :=
  (reports.map Prod.snd).foldl (Reader.receive arith) reader

theorem receive_all_mirrors (hexact : CJson.Exact arith whole)
    {reports : List (ReportInput × List Char)}
    (hreadable : ∀ report ∈ reports, Readable report.1 report.2) {reader : Reader arith.Double}
    {collector : Collector} (hmirrors : reader.Mirrors whole collector) :
    (receiveAll arith reader reports).Mirrors whole
      (run Collector.receive collector (reports.map Prod.fst)) := by
  induction reports generalizing reader collector with
  | nil => exact hmirrors
  | cons report reports ih =>
      have hreport := hreadable report List.mem_cons_self
      exact ih (fun report hmem => hreadable report (List.mem_cons_of_mem _ hmem))
        (receive_mirrors hexact hreport hmirrors)

-- A report that tells what has changed of a cell since the one before it.
structure Continues (base : ReportInput) (realm : BVIEW_BST_REALM_ID) (port index : Nat)
    (collector : Collector) (input : ReportInput) : Prop where
  previous : input.previous = some collector.taken
  periodic : input.options.reportTrigger = false
  included : input.options.includes.has realm = true
  units : SameUnits input base
  within : port < realm.ports input.asic ∧ index < realm.count input.asic
  entries : realm = .EGRESS_PORT_SP → (collector.taken.ePortSp port index).mcShareQueueEntries =
    (input.current.ePortSp port index).mcShareQueueEntries

theorem continues_shown {base : ReportInput} {port index : Nat} {collector : Collector}
    {reports : List ReportInput}
    (hshown : collector.cells realm port index = realm.shown base collector.taken port index)
    (hcontinues : Along Collector.receive (Continues base realm port index) collector reports) :
    (run Collector.receive collector reports).cells realm port index =
      realm.shown base (run Collector.receive collector reports).taken port index := by
  refine run_invariant (fun collector => collector.cells realm port index =
    realm.shown base collector.taken port index) (fun collector input hinv h => ?_) collector
    reports hshown hcontinues
  have hcell : collector.cells realm port index =
      realm.shown input collector.taken port index := by
    rw [hinv, shown_units h.units]
  have happlied := (apply_rows_shown_iff h.previous h.periodic h.included h.within.1 h.within.2
    hcell).mpr h.entries
  simp only [Collector.receive, h.included, if_true]
  rw [happlied, shown_units h.units]

-- A client that reads the texts of reports, each of which is relative to the one
-- before it, holds after every one of them the counters of its snapshot.
theorem reader_follows_reports (hexact : CJson.Exact arith whole) {base : ReportInput}
    {port index : Nat} {reports : List (ReportInput × List Char)}
    (hreadable : ∀ report ∈ reports, Readable report.1 report.2) {reader : Reader arith.Double}
    {collector : Collector} (hmirrors : reader.Mirrors whole collector)
    (hshown : collector.cells realm port index = realm.shown base collector.taken port index)
    (hcell : IsCell realm port index)
    (hcontinues : Along Collector.receive (Continues base realm port index) collector
      (reports.map Prod.fst)) :
    receiveAll arith reader reports realm (realm.portKey port) (Int32.ofInt index) =
      (realm.shown base (run Collector.receive collector (reports.map Prod.fst)).taken port
        index).map (counterDouble whole) := by
  have hheld := receive_all_mirrors hexact hreadable hmirrors realm port index hcell
  rw [hheld, continues_shown hshown hcontinues]

end Tables

section Samples

def deviceSnapshot (bufferCount : UInt64) : BVIEW_BST_ASIC_SNAPSHOT_DATA :=
  { BVIEW_BST_ASIC_SNAPSHOT_DATA.zero with device := { bufferCount } }

def deviceInput (previous current : UInt64) : ReportInput :=
  { sampleInput with
    previous := some (deviceSnapshot previous)
    current := deviceSnapshot current
    options := { (default : BSTJSON_REPORT_OPTIONS) with
      includes := { (default : RealmFlags) with device := true }
      sendIncrementalReport := true } }

def deviceReport (previous current : UInt64) : ReportInput × List Char :=
  (deviceInput previous current,
    (bstjson_encode_get_bst_report (deviceInput previous current)).text)

def deviceReports : List (ReportInput × List Char) := [deviceReport 0 416, deviceReport 416 832]

-- The rows of every realm at once.
def fitsRows (input : ReportInput) : Bool :=
  (BVIEW_BST_REALM_ID.DEVICE :: reportOrder).all fun realm =>
    (rowsOf realm input).all fun row =>
      decide (row.index < 2 ^ 31) &&
        (realm.columns row).all fun value => decide (value.toNat < 2 ^ 53)

theorem fitsRows_fits {input : ReportInput} (h : fitsRows input = true)
    (realm : BVIEW_BST_REALM_ID) : ∀ row ∈ rowsOf realm input, FitsRow realm row := by
  intro row hmem
  have hrealm : realm ∈ BVIEW_BST_REALM_ID.DEVICE :: reportOrder := by cases realm <;> decide
  have hrow := List.all_eq_true.mp (List.all_eq_true.mp h realm hrealm) row hmem
  obtain ⟨hindex, hvalues⟩ := Bool.and_eq_true_iff.mp hrow
  exact ⟨of_decide_eq_true hindex,
    fun value hvalue => of_decide_eq_true (List.all_eq_true.mp hvalues value hvalue)⟩

theorem device_readable : ∀ report ∈ deviceReports, Readable report.1 report.2 := by
  rw [deviceReports, List.forall_mem_cons, List.forall_mem_singleton]
  refine ⟨⟨by decide +kernel, ⟨sampleHeader, rfl, by decide +kernel⟩, by decide,
    fun h => absurd h.1 (by decide), fitsRows_fits (by decide +kernel)⟩,
    ⟨by decide +kernel, ⟨sampleHeader, rfl, by decide +kernel⟩, by decide,
      fun h => absurd h.1 (by decide), fitsRows_fits (by decide +kernel)⟩⟩

theorem device_report_read_back :
    ∃ root, CJson.cJSON_Parse CJson.wholeNumbers (deviceReport 0 416).2 = .ok root ∧
      readReport .DEVICE root = [⟨none, 0, [(416 : Int)]⟩] := by
  obtain ⟨root, hparse, -, hrows⟩ := report_read_back CJson.exact_wholeNumbers
    (device_readable _ List.mem_cons_self)
  exact ⟨root, hparse, hrows .DEVICE⟩

-- Before the first report every counter is zero.
def zeroCollector : Collector := { cells := fun _ _ _ => [0], taken := deviceSnapshot 0 }

def zeroReader : Reader CJson.wholeNumbers.Double := fun _ _ _ => [(0 : Int)]

theorem device_followed :
    receiveAll CJson.wholeNumbers zeroReader deviceReports .DEVICE none 0 = [(832 : Int)] := by
  have hcontinues : Along Collector.receive (Continues (deviceInput 0 416) .DEVICE 0 0)
      zeroCollector (deviceReports.map Prod.fst) :=
    ⟨⟨rfl, rfl, rfl, ⟨rfl, rfl, rfl, fun _ => rfl, rfl⟩, ⟨by decide, by decide⟩, nofun⟩,
      ⟨rfl, rfl, rfl, ⟨rfl, rfl, rfl, fun _ => rfl, rfl⟩, ⟨by decide, by decide⟩, nofun⟩, trivial⟩
  exact reader_follows_reports CJson.exact_wholeNumbers device_readable (fun _ _ _ _ => rfl)
    rfl ⟨fun _ => rfl, by decide⟩ hcontinues

end Samples

end BroadView.Bst
