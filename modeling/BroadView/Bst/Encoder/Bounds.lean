import Mathlib.Algebra.BigOperators.Group.List.Basic
import Mathlib.Data.List.TakeDrop
import BroadView.Bst.Encoder.Text

namespace BroadView.Bst

open Printf Buffer

section Sizes

variable (encoder : RealmEncoder) (input : ReportInput)

def rows_size (rows : List Row) : Nat := (rows.map fun row => (row_piece encoder row).length).sum

-- The end of a list takes the place of the last separator.
def list_size (header items : Nat) : Nat := header + items + (section_end.length - 1)

def port_size (port : Nat) : Nat :=
  list_size (port_header port).length (rows_size encoder (realm_rows encoder input port))

def BVIEW_BST_REALM_ID.size (realm : BVIEW_BST_REALM_ID) : Nat :=
  match realm.encoder with
  | none => 0
  | some encoder =>
      list_size (realm_header encoder).length
        (if realm.hasPorts then ((included_ports encoder input).map (port_size encoder input)).sum
        else rows_size encoder (realm_rows encoder input 0))

-- What the included realms add to the header and the device part, and what the
-- end of the report adds to that.
def sections_size : Nat := ((report_realms input).map fun realm => realm.size input).sum

def report_size (header : List Char) : Nat :=
  (report_head input header).length + sections_size input +
    if report_realms input = [] then 4 else 3

-- The report as the operations would write it without a limit.
def complete_text (header : List Char) : List Char :=
  (render (report_head input header) (report_ops input)).dropLast ++ " ] \x7d ".toList

-- The positions at which the formatted pieces of the realms end.
def piece_ends (header : List Char) : List Nat :=
  ends (report_head input header).length (report_sections input).flatten

end Sizes

section Lengths

variable {encoder : RealmEncoder} {realm : BVIEW_BST_REALM_ID}

theorem rows_advance (rows : List Row) :
    ((row_ops encoder rows).map advance).sum = rows_size encoder rows := by
  rw [row_ops, rows_size, List.map_map]
  rfl

theorem encode_port_advance (hencoder : realm.encoder = some encoder) (input : ReportInput)
    (port : Nat) : advance (encode_port encoder input port) = port_size encoder input port := by
  rw [encode_port, listing_advance (port_header_pos port) (row_ops_advancing hencoder _),
    rows_advance]
  rfl

theorem realm_advance (realm : BVIEW_BST_REALM_ID) (input : ReportInput) :
    advance (realm.ops input) = realm.size input := by
  unfold BVIEW_BST_REALM_ID.ops BVIEW_BST_REALM_ID.size
  cases hencoder : realm.encoder with
  | none => rfl
  | some encoder =>
      have hheader := realm_header_pos hencoder
      dsimp only
      split_ifs
      · have hports : ((included_ports encoder input).map (encode_port encoder input)).map advance =
            (included_ports encoder input).map (port_size encoder input) := by
          rw [List.map_map]
          exact List.map_congr_left fun port _ => encode_port_advance hencoder input port
        rw [encode_port_realm, listing_advance hheader (ports_advancing hencoder input), hports]
        rfl
      · rw [encode_index_realm, listing_advance hheader (row_ops_advancing hencoder _),
          rows_advance]
        rfl

theorem sections_advance (input : ReportInput) :
    advance (report_sections input).flatten = sections_size input := by
  have hadv : ∀ ops ∈ report_sections input, Advancing ops := by
    intro ops hmem
    obtain ⟨realm, -, rfl⟩ := List.mem_map.mp hmem
    exact realm_ops_advancing realm input
  rw [advance_flatten hadv, report_sections, List.map_map, sections_size]
  exact congrArg List.sum (List.map_congr_left fun realm _ => realm_advance realm input)

variable (input : ReportInput) (header : List Char)

theorem sections_render_length (hpos : 0 < (report_head input header).length) :
    (render (report_head input header) (report_sections input).flatten).length =
      (report_head input header).length + sections_size input := by
  rw [render_length (sections_advancing input) _ hpos, sections_advance]

end Lengths

section Bounds

variable {input : ReportInput} {header : List Char}

-- The encoder returns the whole report or says that it found no room for it.
def StaysInside (input : ReportInput) (header : List Char) : Prop :=
  bstjson_encode_get_bst_report input = .success (complete_text input header) ∨
    bstjson_encode_get_bst_report input = .failure .OUTOFMEMORY

-- The cursor at which the report is finalized.
def finalCursor (input : ReportInput) (cursor : Cursor) : Cursor :=
  if report_realms input = [] then cursor else ⟨cursor.text.dropLast, cursor.rem + 1⟩

theorem encode_of_exec (hheader : report_header input = .ok header)
    (hroom : (report_head input header).length < BSTJSON_MEMSIZE_REPORT) :
    bstjson_encode_get_bst_report input =
      match exec ⟨report_head input header,
        BSTJSON_MEMSIZE_REPORT - (report_head input header).length⟩ (report_ops input) with
      | .done cursor => .success (finalize_report cursor)
      | .outOfMemory => .failure .OUTOFMEMORY
      | .overrun => .overrun := by
  simp only [bstjson_encode_get_bst_report, hheader]
  exact if_neg (by omega)

theorem encode_eq (hheader : report_header input = .ok header)
    (hroom : (report_head input header).length < BSTJSON_MEMSIZE_REPORT) :
    bstjson_encode_get_bst_report input =
      match outcome BSTJSON_MEMSIZE_REPORT (report_head input header)
        (report_sections input).flatten with
      | .done cursor => .success (finalize_report (finalCursor input cursor))
      | .outOfMemory => .failure .OUTOFMEMORY
      | .overrun => .overrun := by
  have hexec := exec_outcome BSTJSON_MEMSIZE_REPORT _ _ (sections_advancing input)
    (report_head_pos hheader) hroom
  rw [encode_of_exec hheader hroom, report_ops_eq, exec_append, hexec]
  cases outcome BSTJSON_MEMSIZE_REPORT (report_head input header)
    (report_sections input).flatten with
  | done cursor =>
      unfold finalCursor
      split_ifs <;> rfl
  | outOfMemory => rfl
  | overrun => rfl

-- No text of the encoder ends in the character the last step looks for.
theorem finalize_report_eq {cursor : Cursor} (hlast : cursor.text.getLast? ≠ some '\x00') :
    finalize_report cursor =
      cursor.text.dropLast ++ " ] \x7d ".toList.take (cursor.rem - 2).toNat := by
  have hrem : cursor.rem - 1 - 1 = cursor.rem - 2 := by omega
  simp only [finalize_report, if_neg hlast, hrem]

theorem finalCursor_last (hheader : report_header input = .ok header) (rem : Int) :
    (finalCursor input ⟨render (report_head input header) (report_sections input).flatten,
      rem⟩).text.getLast? ≠ some '\x00' := by
  unfold finalCursor
  split_ifs with hrealms
  · rw [report_sections, hrealms]
    exact report_head_last hheader
  · obtain ⟨before, hbefore⟩ := sections_end input (report_head input header) hrealms
    rw [hbefore]
    simp [section_end]

theorem finalCursor_text (rem : Int) :
    (finalCursor input ⟨render (report_head input header) (report_sections input).flatten,
      rem⟩).text = render (report_head input header) (report_ops input) := by
  unfold finalCursor
  rw [report_ops_eq, render_append]
  split_ifs <;> rfl

theorem take_end_iff (n : Nat) : " ] \x7d ".toList.take n = " ] \x7d ".toList ↔ 5 ≤ n := by
  rw [List.take_eq_self_iff]
  rfl

-- Both steps back at the end take from the remaining length what they should
-- add to it, so the end of the report needs three characters more than it has.
theorem finished_room (hheader : report_header input = .ok header)
    (hcounter : input.options.triggerInfo.counter.toList.length < 256) {rem : Int}
    (hrem : rem = BSTJSON_MEMSIZE_REPORT -
      ((report_head input header).length + sections_size input : Nat))
    {text : List Char} (k : Nat) (hk : 0 < k ∧ k ≤ 5) :
    k ≤ ((finalCursor input ⟨text, rem⟩).rem - 2).toNat ↔
      report_size input header + k ≤ BSTJSON_MEMSIZE_REPORT + 2 := by
  obtain ⟨hpos, hroom⟩ := report_head_length hheader hcounter
  unfold report_size finalCursor
  split_ifs with hrealms
  · have hsections : sections_size input = 0 := by rw [sections_size, hrealms]; rfl
    dsimp only
    omega
  · dsimp only
    omega

theorem finished_complete_iff (hheader : report_header input = .ok header)
    (hcounter : input.options.triggerInfo.counter.toList.length < 256) {rem : Int}
    (hrem : rem = BSTJSON_MEMSIZE_REPORT -
      ((report_head input header).length + sections_size input : Nat)) :
    finalize_report (finalCursor input
        ⟨render (report_head input header) (report_sections input).flatten, rem⟩) =
        complete_text input header ↔
      report_size input header + 3 ≤ BSTJSON_MEMSIZE_REPORT := by
  rw [finalize_report_eq (finalCursor_last hheader rem), finalCursor_text, complete_text,
    List.append_cancel_left_eq, take_end_iff, finished_room hheader hcounter hrem 5 (by decide)]
  omega

-- The text of a successful run: the last step may cut the end of the report.
theorem success_text (hheader : report_header input = .ok header)
    (hcounter : input.options.triggerInfo.counter.toList.length < 256) {text : List Char}
    (hsuccess : bstjson_encode_get_bst_report input = .success text) :
    ∃ room, text = (render (report_head input header) (report_ops input)).dropLast ++
        " ] \x7d ".toList.take room ∧
      ∀ k, 0 < k ∧ k ≤ 5 →
        (k ≤ room ↔ report_size input header + k ≤ BSTJSON_MEMSIZE_REPORT + 2) := by
  obtain ⟨hpos, hroom⟩ := report_head_length hheader hcounter
  have hlength := sections_render_length input header hpos
  rw [encode_eq hheader (by omega), outcome, hlength] at hsuccess
  split_ifs at hsuccess with hfits
  · rw [Encoded.success.injEq, finalize_report_eq (finalCursor_last hheader _),
      finalCursor_text] at hsuccess
    exact ⟨_, hsuccess.symm, finished_room hheader hcounter rfl⟩

theorem report_encoder_inside_iff (hheader : report_header input = .ok header)
    (hcounter : input.options.triggerInfo.counter.toList.length < 256) :
    StaysInside input header ↔
      report_size input header + 3 ≤ BSTJSON_MEMSIZE_REPORT ∨
        BSTJSON_MEMSIZE_REPORT ∈ piece_ends input header := by
  obtain ⟨hpos, hroom⟩ := report_head_length hheader hcounter
  have hlength := sections_render_length input header hpos
  have hsize : (report_head input header).length + sections_size input + 3 ≤
      report_size input header := by
    unfold report_size
    split_ifs <;> omega
  unfold StaysInside
  rw [encode_eq hheader (by omega), outcome, hlength]
  by_cases hfits : (report_head input header).length + sections_size input <
    BSTJSON_MEMSIZE_REPORT
  · have hends : BSTJSON_MEMSIZE_REPORT ∉ piece_ends input header := fun hmem => by
      have hle := ends_le (sections_advancing input) _ hpos hmem
      rw [sections_advance] at hle
      omega
    rw [if_pos hfits, or_iff_left hends, ← finished_complete_iff hheader hcounter rfl]
    simp
  · have hover : ¬ report_size input header + 3 ≤ BSTJSON_MEMSIZE_REPORT := by omega
    rw [if_neg hfits, or_iff_right hover, piece_ends]
    split_ifs with hends <;> simp [hends]

end Bounds

section Samples

-- Every counter of the queues has twenty digits.
def crowdedSnapshot : BVIEW_BST_ASIC_SNAPSHOT_DATA :=
  { BVIEW_BST_ASIC_SNAPSHOT_DATA.zero with
    eUcQ := fun _ => { ucBufferCount := 0xffffffffffffffff, port := 100 }
    eMcQ := fun _ =>
      { mcBufferCount := 0xffffffffffffffff, mcQueueEntries := 0xffffffffffffffff, port := 100 } }

-- A full report of all the queues an ASIC may have.
def crowdedInput : ReportInput :=
  { sampleInput with
    previous := none
    current := crowdedSnapshot
    options := { (default : BSTJSON_REPORT_OPTIONS) with
      includes := { (default : RealmFlags) with egressMcQueue := true, egressUcQueue := true } }
    asic :=
      { sampleInput.asic with
        numUnicastQueues := BVIEW_ASIC_MAX_UC_QUEUES
        numMulticastQueues := BVIEW_ASIC_MAX_MC_QUEUES } }

def crowdedHeader : List Char := report_start crowdedInput ['1']

theorem crowded_header : report_header crowdedInput = .ok crowdedHeader := rfl

theorem report_encoder_inside_iff_crowded :
    StaysInside crowdedInput crowdedHeader ↔
      report_size crowdedInput crowdedHeader + 3 ≤ BSTJSON_MEMSIZE_REPORT ∨
        BSTJSON_MEMSIZE_REPORT ∈ piece_ends crowdedInput crowdedHeader :=
  report_encoder_inside_iff crowded_header (by decide)

theorem crowded_prefix : (report_head crowdedInput crowdedHeader).length = 128 := by
  decide +kernel

theorem crowded_included (encoder : RealmEncoder) (index : Nat) :
    row_included encoder crowdedInput 0 index = true := by
  have hskips : trigger_skips crowdedInput crowdedInput.options.triggerInfo.queue.toInt index =
      false := Bool.and_false _
  have hreported : counters_reported encoder crowdedInput 0 index = true := rfl
  rw [row_included, hskips, hreported]
  rfl

-- The text of the row of one queue, and the operations of the first rows.
def crowdedPiece (encoder : RealmEncoder) (index : Nat) : List Char :=
  row_piece encoder ⟨0, index, row_args encoder crowdedInput 0 index⟩

def crowdedRows (encoder : RealmEncoder) (indices : List Nat) : List (List Op) :=
  indices.map fun index => [.put (crowdedPiece encoder index)]

theorem crowded_rows (encoder : RealmEncoder) :
    row_ops encoder (realm_rows encoder crowdedInput 0) =
      crowdedRows encoder (List.range (encoder.count crowdedInput.asic)) := by
  have hall : (List.range (encoder.count crowdedInput.asic)).filter
      (row_included encoder crowdedInput 0) = List.range (encoder.count crowdedInput.asic) :=
    List.filter_eq_self.mpr fun index _ => crowded_included encoder index
  rw [row_ops, realm_rows, hall, List.map_map]
  rfl

theorem crowded_port : sbplugin_ovsdb_system_port_translate_to_notation (portOfCounter 100) =
    ['1', '0', '0'] := by decide

theorem crowded_counter : (showNat 0xffffffffffffffff).length = 20 := by decide

theorem crowded_mcq_length (index : Nat) :
    (crowdedPiece mcqEncoder index).length = (showNat index).length + 62 := by
  have hargs : row_args mcqEncoder crowdedInput 0 index =
      [.int index, .str ['1', '0', '0'], .u64 0xffffffffffffffff, .u64 0xffffffffffffffff] := by
    rw [← crowded_port]
    rfl
  rw [crowdedPiece, hargs]
  simp only [row_piece, mcqEncoder]
  simp [format, Arg.text, showInt, crowded_counter]

theorem crowded_ucq_length (index : Nat) :
    (crowdedPiece ucqEncoder index).length = (showNat index).length + 39 := by
  have hargs : row_args ucqEncoder crowdedInput 0 index =
      [.int index, .str ['1', '0', '0'], .u64 0xffffffffffffffff] := by
    rw [← crowded_port]
    rfl
  rw [crowdedPiece, hargs]
  simp only [row_piece, ucqEncoder]
  simp [format, Arg.text, showInt, crowded_counter]

variable {encoder : RealmEncoder} (width digits : Nat) (indices : List Nat)

theorem crowded_rows_advancing
    (hlength : ∀ index, (crowdedPiece encoder index).length = (showNat index).length + width)
    (hwidth : 0 < width) : ∀ ops ∈ crowdedRows encoder indices, Advancing ops := by
  intro ops hmem
  obtain ⟨index, -, rfl⟩ := List.mem_map.mp hmem
  exact ⟨by rw [hlength]; omega, trivial⟩

theorem crowded_rows_advance
    (hlength : ∀ index, (crowdedPiece encoder index).length = (showNat index).length + width)
    (hdigits : (indices.map fun index => (showNat index).length).sum = digits) :
    ((crowdedRows encoder indices).map advance).sum = digits + indices.length * width := by
  rw [crowdedRows, List.map_map, ← hdigits]
  simp [Function.comp_def, advance, hlength, List.sum_map_add]

-- What is written up to a row of the unicast queues.
def crowdedBefore (mcqs ucqs : List Nat) : List Op :=
  listing (realm_header mcqEncoder) (crowdedRows mcqEncoder mcqs) section_end ++
    .put (realm_header ucqEncoder) :: (crowdedRows ucqEncoder ucqs).flatten

theorem range_split (n m : Nat) :
    List.range (n + (m + 1)) = List.range n ++ n :: (List.range m).map (n + 1 + ·) := by
  rw [List.range_add, Nat.add_comm m 1, List.range_add, List.map_append, List.map_map]
  simp [Function.comp_def, Nat.add_assoc]

theorem crowded_ops : ∃ after, report_ops crowdedInput =
    crowdedBefore (List.range 1040) (List.range 3008) ++
      .put (crowdedPiece ucqEncoder 3008) :: after := by
  have hrealms : report_realms crowdedInput = [.EGRESS_MC_QUEUE, .EGRESS_UC_QUEUE] := by decide
  have hmcq : BVIEW_BST_REALM_ID.EGRESS_MC_QUEUE.ops crowdedInput =
      encode_index_realm mcqEncoder crowdedInput := rfl
  have hucq : BVIEW_BST_REALM_ID.EGRESS_UC_QUEUE.ops crowdedInput =
      encode_index_realm ucqEncoder crowdedInput := rfl
  have hmcqCount : mcqEncoder.count crowdedInput.asic = 1040 := rfl
  have hucqCount : ucqEncoder.count crowdedInput.asic = 3008 + (1087 + 1) := rfl
  rw [report_ops_eq, report_sections, hrealms]
  simp only [List.map_cons, List.map_nil, hmcq, hucq, encode_index_realm, crowded_rows, hmcqCount,
    hucqCount, range_split]
  refine ⟨(crowdedRows ucqEncoder ((List.range 1087).map (3008 + 1 + ·))).flatten ++
    [.back, .put section_end, .back], ?_⟩
  simp [crowdedBefore, listing, crowdedRows]

theorem crowded_before (mcqs ucqs : List Nat) (mcqDigits ucqDigits : Nat)
    (hmcqs : (mcqs.map fun index => (showNat index).length).sum = mcqDigits)
    (hucqs : (ucqs.map fun index => (showNat index).length).sum = ucqDigits) :
    Advancing (crowdedBefore mcqs ucqs) ∧
      advance (crowdedBefore mcqs ucqs) =
        86 + (mcqDigits + mcqs.length * 62) + (ucqDigits + ucqs.length * 39) := by
  have hmcq := crowded_rows_advancing 62 mcqs crowded_mcq_length (by decide)
  have hucq := crowded_rows_advancing 39 ucqs crowded_ucq_length (by decide)
  have hmcqHeader : (realm_header mcqEncoder).length = 41 := by decide
  have hucqHeader : (realm_header ucqEncoder).length = 41 := by decide
  have hend : section_end.length = 5 := by decide
  have hmcqPos : 0 < (realm_header mcqEncoder).length := by omega
  have hucqPos : 0 < (realm_header ucqEncoder).length := by omega
  have hlisting : Advancing (listing (realm_header mcqEncoder) (crowdedRows mcqEncoder mcqs)
      section_end) := listing_advancing hmcqPos (by decide) hmcq
  refine ⟨hlisting.append (Advancing.put hucqPos (Advancing.flatten hucq)), ?_⟩
  rw [crowdedBefore, advance_append hlisting, listing_advance hmcqPos hmcq, advance,
    advance_flatten hucq, crowded_rows_advance 62 mcqDigits mcqs crowded_mcq_length hmcqs,
    crowded_rows_advance 39 ucqDigits ucqs crowded_ucq_length hucqs]
  omega

-- The row of unicast queue 3008 starts at character 195978 and ends at 196021.
theorem crowded_report_overruns :
    crowdedInput.asic.WithinMaxima ∧ report_header crowdedInput = .ok crowdedHeader ∧
      bstjson_encode_get_bst_report crowdedInput = .overrun ∧
      ¬ StaysInside crowdedInput crowdedHeader := by
  have hoverrun : bstjson_encode_get_bst_report crowdedInput = .overrun := by
    obtain ⟨after, hops⟩ := crowded_ops
    obtain ⟨hadv, hadvance⟩ := crowded_before (List.range 1040) (List.range 3008) 3050 10922
      (by decide +kernel) (by decide +kernel)
    simp only [List.length_range] at hadvance
    have hhere := crowded_prefix
    have hpiece : (crowdedPiece ucqEncoder 3008).length = 43 := crowded_ucq_length 3008
    have hexec := exec_overrun BSTJSON_MEMSIZE_REPORT (report_head crowdedInput crowdedHeader)
      (crowdedPiece ucqEncoder 3008) after hadv (by omega) (by rw [memsize_report]; omega)
      (by rw [memsize_report]; omega)
    rw [encode_of_exec crowded_header (by rw [memsize_report]; omega), hops, hexec]
  have hmaxima : crowdedInput.asic.WithinMaxima := by constructor <;> decide
  exact ⟨hmaxima, crowded_header, hoverrun, by simp [StaysInside, hoverrun]⟩

end Samples

end BroadView.Bst
