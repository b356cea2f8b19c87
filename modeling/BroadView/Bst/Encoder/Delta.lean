import BroadView.Bst.Config
import BroadView.Bst.Encoder.Report

namespace BroadView.Bst

open Printf

-- What the encoder of each realm prints, the device apart.
def BVIEW_BST_REALM_ID.encoder : BVIEW_BST_REALM_ID → Option RealmEncoder
  | .DEVICE => none
  | .EGRESS_PORT_SP => some epspEncoder
  | .EGRESS_SP => some espEncoder
  | .EGRESS_UC_QUEUE => some ucqEncoder
  | .EGRESS_UC_QUEUEGROUPS => some ucqgEncoder
  | .EGRESS_MC_QUEUE => some mcqEncoder
  | .EGRESS_CPU_QUEUE => some cpuqEncoder
  | .EGRESS_RQE_QUEUE => some rqeqEncoder
  | .INGRESS_PORT_PG => some ippgEncoder
  | .INGRESS_PORT_SP => some ipspEncoder
  | .INGRESS_SP => some ispEncoder

def BVIEW_BST_REALM_ID.hasPorts : BVIEW_BST_REALM_ID → Bool
  | .INGRESS_PORT_PG | .INGRESS_PORT_SP | .EGRESS_PORT_SP => true
  | _ => false

def argCounter : Arg → Option UInt64
  | .u64 value => some value
  | _ => none

namespace BVIEW_BST_REALM_ID

variable (realm : BVIEW_BST_REALM_ID)

-- The counters a realm keeps under a port and an index, in the order of its
-- columns. A realm without ports has its table under port 0.
def counters (snapshot : BVIEW_BST_ASIC_SNAPSHOT_DATA) (port index : Nat) : List UInt64 :=
  match realm.encoder with
  | none => [snapshot.device.bufferCount]
  | some encoder => encoder.counters snapshot port index

def ports (asic : BVIEW_ASIC_CAPABILITIES) : Nat := if realm.hasPorts then asic.numPorts else 1

def count (asic : BVIEW_ASIC_CAPABILITIES) : Nat :=
  match realm.encoder with
  | none => 1
  | some encoder => encoder.count asic

def args (input : ReportInput) (port index : Nat) : List Arg :=
  match realm.encoder with
  | none => [.u64 (bst_json_convert_data input.options input.asic input.current.device.bufferCount
      input.options.bst_max_buffers_ptr.device)]
  | some encoder => row_args encoder input port index

-- The rows of a realm in a report.
def rows (input : ReportInput) : List Row :=
  match realm.encoder with
  | none => if device_reported input then [⟨0, 0, realm.args input 0 0⟩] else []
  | some encoder =>
      if realm.hasPorts then port_realm_rows encoder input else realm_rows encoder input 0

-- The counters of a cell of a snapshot in the units of a report.
def shown (input : ReportInput) (snapshot : BVIEW_BST_ASIC_SNAPSHOT_DATA) (port index : Nat) :
    List UInt64 :=
  match realm.encoder with
  | none => [bst_json_convert_data input.options input.asic snapshot.device.bufferCount
      input.options.bst_max_buffers_ptr.device]
  | some encoder =>
      List.zipWith (column_value input) (encoder.counters snapshot port index)
        (encoder.maxima input.options.bst_max_buffers_ptr port index)

-- The arguments that the template of a realm prints.
def printedArgs (row : Row) : List Arg :=
  match realm.encoder with
  | none => printed "% lu".toList row.args
  | some encoder => printed encoder.dataTemplate.toList row.args

def columns (row : Row) : List UInt64 := (realm.printedArgs row).filterMap argCounter

end BVIEW_BST_REALM_ID

-- A reader of reports overwrites the counters of a cell with the columns of its
-- row; a counter without a column keeps its value.
def overwrite (cell columns : List UInt64) : List UInt64 := columns ++ cell.drop columns.length

def Row.At (row : Row) (port index : Nat) : Prop := row.port = port ∧ row.index = index

instance (row : Row) (port index : Nat) : Decidable (row.At port index) :=
  inferInstanceAs (Decidable (_ ∧ _))

def apply_row (realm : BVIEW_BST_REALM_ID) (cells : Nat → Nat → List UInt64) (row : Row) :
    Nat → Nat → List UInt64 :=
  fun port index =>
    if row.At port index then overwrite (cells port index) (realm.columns row)
    else cells port index

def apply_rows (realm : BVIEW_BST_REALM_ID) (cells : Nat → Nat → List UInt64) (rows : List Row) :
    Nat → Nat → List UInt64 :=
  rows.foldl (apply_row realm) cells

section Rows

variable {encoder : RealmEncoder} {input : ReportInput}

theorem mem_realm_rows {port : Nat} {row : Row} :
    row ∈ realm_rows encoder input port ↔
      row.index < encoder.count input.asic ∧ row_included encoder input port row.index = true ∧
        row = ⟨port, row.index, row_args encoder input port row.index⟩ := by
  simp only [realm_rows, List.mem_map, List.mem_filter, List.mem_range]
  constructor
  · rintro ⟨index, ⟨hindex, hincluded⟩, rfl⟩
    exact ⟨hindex, hincluded, rfl⟩
  · rintro ⟨hindex, hincluded, hrow⟩
    exact ⟨row.index, ⟨hindex, hincluded⟩, hrow.symm⟩

theorem mem_port_realm_rows {row : Row} :
    row ∈ port_realm_rows encoder input ↔
      row.port < input.asic.numPorts ∧
        trigger_skips input input.options.triggerInfo.port.toInt (row.port + 1) = false ∧
        row ∈ realm_rows encoder input row.port := by
  simp only [port_realm_rows, included_ports, port_included, List.mem_flatMap, List.mem_filter,
    List.mem_range, Bool.and_eq_true, Bool.not_eq_true', List.isEmpty_eq_false_iff]
  constructor
  · rintro ⟨port, ⟨hport, hskips, hne⟩, hrow⟩
    obtain ⟨-, -, heq⟩ := mem_realm_rows.mp hrow
    have hsame : row.port = port := by rw [heq]
    rw [hsame]
    exact ⟨hport, hskips, hrow⟩
  · rintro ⟨hport, hskips, hrow⟩
    exact ⟨row.port, ⟨hport, hskips, List.ne_nil_of_mem hrow⟩, hrow⟩

end Rows

section Delta

variable {input : ReportInput} {previous : BVIEW_BST_ASIC_SNAPSHOT_DATA}

-- Neither cells nor percentages: counters are printed as they are.
structure RawUnits (options : BSTJSON_REPORT_OPTIONS) : Prop where
  cells : options.statUnitsInCells = false
  percentage : options.statsInPercentage = false

theorem convert_raw (hraw : RawUnits input.options) (data maxBufVal : UInt64) :
    bst_json_convert_data input.options input.asic data maxBufVal = data := by
  simp [bst_json_convert_data, hraw.cells, hraw.percentage]

theorem no_trigger_skips (htrigger : input.options.reportTrigger = false) (named shown : Int) :
    trigger_skips input named shown = false := by
  simp [trigger_skips, htrigger]

theorem row_included_iff (encoder : RealmEncoder) (hprevious : input.previous = some previous)
    (htrigger : input.options.reportTrigger = false) (port index : Nat) :
    row_included encoder input port index = true ↔
      encoder.counters previous port index ≠ encoder.counters input.current port index := by
  simp [row_included, no_trigger_skips htrigger, counters_reported, hprevious]

-- Each template prints an index, the port of a queue and every counter, but for
-- the egress port service pools, whose template stops at three.
theorem encoder_shape {realm : BVIEW_BST_REALM_ID} {encoder : RealmEncoder}
    (hencoder : realm.encoder = some encoder) (snapshot : BVIEW_BST_ASIC_SNAPSHOT_DATA)
    (port index : Nat) :
    directives encoder.dataTemplate.toList =
      1 + (encoder.queuePort snapshot index).toList.length +
        if realm = .EGRESS_PORT_SP then 3 else (encoder.counters snapshot port index).length := by
  cases realm <;> cases hencoder <;> rfl

theorem columns_take (index : Nat) (strings : List (List Char)) (values : List UInt64)
    (shown : Nat) :
    ((Arg.int index :: strings.map Arg.str ++ values.map Arg.u64).take
      (1 + strings.length + shown)).filterMap argCounter = values.take shown := by
  have htake : (Arg.int index :: strings.map Arg.str ++ values.map Arg.u64).take
      (1 + strings.length + shown) =
        Arg.int index :: strings.map Arg.str ++ (values.take shown).map Arg.u64 := by
    rw [List.take_append]
    simp [List.take_of_length_le, Nat.add_comm 1, List.map_take]
  have hstrings : (strings.map Arg.str).filterMap argCounter = [] := by
    simp [List.filterMap_map, Function.comp_def, argCounter]
  have hvalues : ∀ values : List UInt64, (values.map Arg.u64).filterMap argCounter = values := by
    intro values
    simp [List.filterMap_map, Function.comp_def, argCounter]
  rw [htake, List.filterMap_append, hvalues, List.filterMap_cons_none rfl, hstrings]
  rfl

theorem counters_length (realm : BVIEW_BST_REALM_ID)
    (snapshot snapshot' : BVIEW_BST_ASIC_SNAPSHOT_DATA) (port index : Nat) :
    (realm.counters snapshot port index).length = (realm.counters snapshot' port index).length := by
  cases realm <;> rfl

theorem shown_length (realm : BVIEW_BST_REALM_ID) (input : ReportInput)
    (snapshot : BVIEW_BST_ASIC_SNAPSHOT_DATA) (port index : Nat) :
    (realm.shown input snapshot port index).length =
      (realm.counters snapshot port index).length := by
  cases realm <;> rfl

-- The columns of a row, the port of a queue left out.
theorem columns_shown {realm : BVIEW_BST_REALM_ID} (row : Row)
    (hargs : row.args = realm.args input row.port row.index) :
    realm.columns row =
      if realm = .EGRESS_PORT_SP then
        (realm.shown input input.current row.port row.index).take 3
      else realm.shown input input.current row.port row.index := by
  have hlength := shown_length realm input input.current row.port row.index
  unfold BVIEW_BST_REALM_ID.columns BVIEW_BST_REALM_ID.printedArgs
  unfold BVIEW_BST_REALM_ID.shown BVIEW_BST_REALM_ID.counters at *
  rw [hargs]
  unfold BVIEW_BST_REALM_ID.args
  cases hencoder : realm.encoder with
  | none =>
      have hdevice : realm = .DEVICE := by cases realm <;> first | rfl | cases hencoder
      subst hdevice
      simp [printed, directives, argCounter]
  | some encoder =>
      have hshape := encoder_shape hencoder input.current row.port row.index
      have hcolumns := columns_take row.index
        ((encoder.queuePort input.current row.index).toList.map fun queuePort =>
          sbplugin_ovsdb_system_port_translate_to_notation (portOfCounter queuePort))
        (row_values encoder input row.port row.index)
      simp only [List.map_map, List.length_map] at hcolumns
      simp only [hencoder] at hlength
      simp only [printed, row_args, hshape, Function.comp_def] at hcolumns ⊢
      rw [hcolumns]
      split_ifs with hrealm
      · rfl
      · exact List.take_of_length_le (Nat.le_of_eq hlength)

theorem shown_raw (realm : BVIEW_BST_REALM_ID) (hraw : RawUnits input.options)
    (snapshot : BVIEW_BST_ASIC_SNAPSHOT_DATA) (port index : Nat) :
    realm.shown input snapshot port index = realm.counters snapshot port index := by
  have hcolumn : column_value input = fun data _ => data := by
    funext data maxBufVal
    cases maxBufVal <;> simp [column_value, convert_raw hraw]
  cases realm <;>
    simp [BVIEW_BST_REALM_ID.shown, BVIEW_BST_REALM_ID.counters, BVIEW_BST_REALM_ID.encoder,
      hcolumn, convert_raw hraw, epspEncoder, espEncoder, ucqEncoder, ucqgEncoder, mcqEncoder,
      cpuqEncoder, rqeqEncoder, ippgEncoder, ipspEncoder, ispEncoder]

variable (realm : BVIEW_BST_REALM_ID)

-- The rows of an included realm.
theorem mem_rows (hprevious : input.previous = some previous)
    (htrigger : input.options.reportTrigger = false)
    (hincluded : input.options.includes.has realm = true) (row : Row) :
    row ∈ realm.rows input ↔
      (row.port < realm.ports input.asic ∧ row.index < realm.count input.asic ∧
        realm.counters previous row.port row.index ≠
          realm.counters input.current row.port row.index) ∧
      row.args = realm.args input row.port row.index := by
  have hrow : ∀ port index args, row = ⟨port, index, args⟩ ↔
      row.port = port ∧ row.index = index ∧ row.args = args := by
    intro port index args
    cases row
    simp
  unfold BVIEW_BST_REALM_ID.rows BVIEW_BST_REALM_ID.ports BVIEW_BST_REALM_ID.count
    BVIEW_BST_REALM_ID.counters
  cases hencoder : realm.encoder with
  | none =>
      have hdevice : realm = .DEVICE := by cases realm <;> first | rfl | cases hencoder
      subst hdevice
      simp only [BVIEW_BST_REALM_ID.hasPorts, Bool.false_eq_true, if_false, Nat.lt_one_iff]
      have hdevice : input.options.includes.device = true := hincluded
      by_cases hsame : previous.device.bufferCount = input.current.device.bufferCount
      · have hsilent : device_reported input = false := by
          simp [device_reported, hprevious, hsame]
        simp [hsilent, hsame]
      · have hreported : device_reported input = true := by
          simp [device_reported, hdevice, hprevious, Ne.symm hsame]
        rw [if_pos hreported, List.mem_singleton, hrow]
        constructor
        · rintro ⟨hport, hindex, hargs⟩
          exact ⟨⟨hport, hindex, by simpa using hsame⟩, hargs⟩
        · rintro ⟨⟨hport, hindex, -⟩, hargs⟩
          exact ⟨hport, hindex, hargs⟩
  | some encoder =>
      have hrows : ∀ port, row ∈ realm_rows encoder input port ↔
          row.port = port ∧ row.index < encoder.count input.asic ∧
            encoder.counters previous port row.index ≠
              encoder.counters input.current port row.index ∧
            row.args = row_args encoder input port row.index := by
        intro port
        rw [mem_realm_rows, row_included_iff encoder hprevious htrigger, hrow]
        tauto
      dsimp only
      split_ifs with hports
      · rw [mem_port_realm_rows, hrows]
        simp only [no_trigger_skips htrigger, BVIEW_BST_REALM_ID.args, hencoder]
        tauto
      · rw [hrows]
        simp only [BVIEW_BST_REALM_ID.args, hencoder, Nat.lt_one_iff]
        constructor
        · rintro ⟨hport, hindex, hne, hargs⟩
          rw [hport]
          exact ⟨⟨rfl, hindex, hne⟩, hargs⟩
        · rintro ⟨⟨hport, hindex, hne⟩, hargs⟩
          rw [hport] at hne hargs
          exact ⟨hport, hindex, hne, hargs⟩

-- Applying rows cell by cell: a row that shows the same columns twice does so
-- with the same result.
theorem apply_rows_at (columns : Nat → Nat → List UInt64) (rows : List Row)
    (hcolumns : ∀ row ∈ rows, realm.columns row = columns row.port row.index)
    (cells : Nat → Nat → List UInt64) (port index : Nat) :
    apply_rows realm cells rows port index =
      if ∃ row ∈ rows, row.At port index then overwrite (cells port index) (columns port index)
      else cells port index := by
  induction rows generalizing cells with
  | nil => simp [apply_rows]
  | cons row rows ih =>
      have hrest := ih (fun row' hmem => hcolumns row' (List.mem_cons_of_mem row hmem))
        (apply_row realm cells row)
      have hfirst := hcolumns row List.mem_cons_self
      unfold apply_rows at hrest ⊢
      rw [List.foldl_cons, hrest]
      by_cases hat : row.At port index
      · rw [hat.1, hat.2] at hfirst
        have hsame : apply_row realm cells row port index =
            overwrite (cells port index) (columns port index) := by
          rw [apply_row, if_pos hat, hfirst]
        have hexists : ∃ row' ∈ row :: rows, row'.At port index := ⟨row, List.mem_cons_self, hat⟩
        rw [hsame, if_pos hexists]
        split_ifs
        · simp [overwrite]
        · rfl
      · have hsame : apply_row realm cells row port index = cells port index := by
          rw [apply_row, if_neg hat]
        rw [hsame]
        simp [hat]

-- What a delta of one realm has to be: it has a row exactly where a counter
-- changed, a row shows every counter of its cell, and the rows turn the
-- previous cells into the current ones.
structure CompleteDelta (input : ReportInput) (previous : BVIEW_BST_ASIC_SNAPSHOT_DATA) : Prop where
  reported : ∀ port index, (∃ row ∈ realm.rows input, row.At port index) ↔
    port < realm.ports input.asic ∧ index < realm.count input.asic ∧
      realm.counters previous port index ≠ realm.counters input.current port index
  carries : ∀ row ∈ realm.rows input,
    realm.columns row = realm.counters input.current row.port row.index
  rebuilds : ∀ port < realm.ports input.asic, ∀ index < realm.count input.asic,
    apply_rows realm (realm.counters previous) (realm.rows input) port index =
      realm.counters input.current port index

-- Every realm that the options include is complete.
def ReportsDelta (input : ReportInput) (previous : BVIEW_BST_ASIC_SNAPSHOT_DATA) : Prop :=
  ∀ realm : BVIEW_BST_REALM_ID, input.options.includes.has realm = true →
    CompleteDelta realm input previous

-- Some counter of an egress port service pool changed.
def EpspChanged (input : ReportInput) (previous : BVIEW_BST_ASIC_SNAPSHOT_DATA) : Prop :=
  ∃ port < input.asic.numPorts, ∃ pool < input.asic.numServicePools,
    previous.ePortSp port pool ≠ input.current.ePortSp port pool

section Complete

variable (hprevious : input.previous = some previous)
  (htrigger : input.options.reportTrigger = false) (hraw : RawUnits input.options)
  (hincluded : input.options.includes.has realm = true)

include hprevious htrigger hincluded

theorem delta_reported (port index : Nat) : (∃ row ∈ realm.rows input, row.At port index) ↔
    port < realm.ports input.asic ∧ index < realm.count input.asic ∧
      realm.counters previous port index ≠ realm.counters input.current port index := by
  constructor
  · rintro ⟨row, hmem, hport, hindex⟩
    have hrow := ((mem_rows realm hprevious htrigger hincluded row).mp hmem).1
    rwa [hport, hindex] at hrow
  · intro hchanged
    exact ⟨⟨port, index, realm.args input port index⟩,
      (mem_rows realm hprevious htrigger hincluded _).mpr ⟨hchanged, rfl⟩, rfl, rfl⟩

-- The rows rebuild the current cells where they show every counter.
theorem delta_complete
    (hcarries : ∀ row ∈ realm.rows input,
      realm.columns row = realm.counters input.current row.port row.index) :
    CompleteDelta realm input previous := by
  refine ⟨delta_reported realm hprevious htrigger hincluded, hcarries, ?_⟩
  intro port hport index hindex
  have hreported := delta_reported realm hprevious htrigger hincluded port index
  rw [apply_rows_at realm (realm.counters input.current) _ hcarries]
  split_ifs with hrow
  · have hlength := counters_length realm previous input.current port index
    rw [overwrite, ← hlength, List.drop_length, List.append_nil]
  · by_contra hne
    exact hrow (hreported.mpr ⟨hport, hindex, hne⟩)

include hraw

theorem delta_columns (row : Row) (hmem : row ∈ realm.rows input) :
    realm.columns row =
      if realm = .EGRESS_PORT_SP then (realm.counters input.current row.port row.index).take 3
      else realm.counters input.current row.port row.index := by
  have hargs := ((mem_rows realm hprevious htrigger hincluded row).mp hmem).2
  rw [columns_shown row hargs, shown_raw realm hraw]

end Complete

theorem epsp_counters_iff (port pool : Nat) :
    BVIEW_BST_REALM_ID.EGRESS_PORT_SP.counters previous port pool ≠
        BVIEW_BST_REALM_ID.EGRESS_PORT_SP.counters input.current port pool ↔
      previous.ePortSp port pool ≠ input.current.ePortSp port pool := by
  rw [not_iff_not]
  simp only [BVIEW_BST_REALM_ID.counters, BVIEW_BST_REALM_ID.encoder, epspEncoder]
  cases previous.ePortSp port pool
  cases input.current.ePortSp port pool
  simp

-- An incremental report is a complete delta, unless it has a row of an egress
-- port service pool: such a row leaves the queue entries out.
theorem incremental_report_delta_iff (hprevious : input.previous = some previous)
    (htrigger : input.options.reportTrigger = false) (hraw : RawUnits input.options) :
    ReportsDelta input previous ↔
      ¬ (input.options.includes.has .EGRESS_PORT_SP = true ∧ EpspChanged input previous) := by
  constructor
  · rintro hdelta ⟨hincluded, port, hport, pool, hpool, hchanged⟩
    have hcomplete := hdelta .EGRESS_PORT_SP hincluded
    obtain ⟨row, hmem, hat⟩ := (hcomplete.reported port pool).mpr
      ⟨hport, hpool, (epsp_counters_iff port pool).mpr hchanged⟩
    have hcarried := hcomplete.carries row hmem
    rw [delta_columns .EGRESS_PORT_SP hprevious htrigger hraw hincluded row hmem,
      if_pos rfl] at hcarried
    have hlength := congrArg List.length hcarried
    exact absurd (show 3 = 4 from hlength) (by decide)
  · intro hnot realm hincluded
    apply delta_complete realm hprevious htrigger hincluded
    intro row hmem
    rw [delta_columns realm hprevious htrigger hraw hincluded row hmem]
    split_ifs with hrealm
    · subst hrealm
      obtain ⟨⟨hport, hpool, hchanged⟩, -⟩ :=
        (mem_rows .EGRESS_PORT_SP hprevious htrigger hincluded row).mp hmem
      exact absurd ⟨hincluded, row.port, hport, row.index, hpool,
        (epsp_counters_iff row.port row.index).mp hchanged⟩ hnot
    · rfl

end Delta

section Samples

def sampleTm : Tm :=
  { tm_year := 116, tm_mon := 0, tm_mday := 1, tm_hour := 0, tm_min := 0, tm_sec := 0 }

-- One port and one queue of each kind, and every realm included.
def sampleInput : ReportInput :=
  { asicId := 0
    previous := some .zero
    current := .zero
    options := { (default : BSTJSON_REPORT_OPTIONS) with
      includes := bst_mask_to_realm 0xffe
      sendIncrementalReport := true }
    asic :=
      { numPorts := 1, numUnicastQueues := 1, numUnicastQueueGroups := 1
        numMulticastQueues := 1, numServicePools := 1, numCpuQueues := 1, numRqeQueues := 1
        numPriorityGroups := 1, cellToByteConv := 208 }
    time := sampleTm }

-- The buffer of the one CPU queue changed.
def cpuQueueInput : ReportInput :=
  { sampleInput with
    current := { BVIEW_BST_ASIC_SNAPSHOT_DATA.zero with
      cpqQ := fun _ => { (default : EgressCpuQueueData) with cpuBufferCount := 5 } } }

theorem cpu_queue_delta :
    (∃ row ∈ BVIEW_BST_REALM_ID.EGRESS_CPU_QUEUE.rows cpuQueueInput, row.At 0 0) ∧
      ReportsDelta cpuQueueInput .zero := by
  constructor
  · exact ⟨⟨0, 0, BVIEW_BST_REALM_ID.EGRESS_CPU_QUEUE.args cpuQueueInput 0 0⟩, by decide, rfl, rfl⟩
  · refine (incremental_report_delta_iff rfl rfl ⟨rfl, rfl⟩).mpr ?_
    rintro ⟨-, port, -, pool, -, hchanged⟩
    exact hchanged rfl

-- Only the queue entries of the one egress port service pool changed.
def queueEntriesInput : ReportInput :=
  { sampleInput with
    current := { BVIEW_BST_ASIC_SNAPSHOT_DATA.zero with
      ePortSp := fun _ _ => { (default : EgressPortSpData) with mcShareQueueEntries := 1 } } }

-- The row is sent for the change, and does not show it.
theorem queue_entries_lost :
    (∃ row ∈ BVIEW_BST_REALM_ID.EGRESS_PORT_SP.rows queueEntriesInput, row.At 0 0) ∧
      ¬ ReportsDelta queueEntriesInput .zero := by
  constructor
  · exact ⟨⟨0, 0, BVIEW_BST_REALM_ID.EGRESS_PORT_SP.args queueEntriesInput 0 0⟩, by decide, rfl,
      rfl⟩
  · intro hdelta
    have hrebuilt := (hdelta .EGRESS_PORT_SP rfl).rebuilds 0 (by decide) 0 (by decide)
    exact absurd hrebuilt (by decide)

end Samples

end BroadView.Bst
