import BroadView.Bst.Encoder.Delta
import BroadView.Bst.NbApi
import BroadView.Bst.Records

namespace BroadView.Bst

open Transition

section Sent

-- The replies that were encoded and sent.
def sentReplies : List Effect → List BVIEW_BST_RESPONSE_MSG
  | .encode reply :: .rest_response_send _ .SUCCESS :: rest => reply :: sentReplies rest
  | _ :: rest => sentReplies rest
  | [] => []

variable (time : Tm)

-- The arguments of the report encoder for a reply.
def BVIEW_BST_RESPONSE_MSG.reportInput (reply : BVIEW_BST_RESPONSE_MSG) : Option ReportInput :=
  match reply.response, reply.asic_capabilities with
  | .report active backup, some asic =>
      some
        { asicId := reply.unit
          previous := backup.map (·.snapshot_data)
          current := active.snapshot_data
          options := reply.options
          asic
          time }
  | _, _ => none

-- Only a periodic report is relative to another snapshot.
def incremental_reports (effects : List Effect) : List ReportInput :=
  ((sentReplies effects).filterMap (·.reportInput time)).filter (·.previous.isSome)

theorem sentReplies_append {effects effects' : List Effect}
    (h : ∀ effect ∈ effects, effect.isReply = false) :
    sentReplies (effects ++ effects') = sentReplies effects' := by
  induction effects with
  | nil => rfl
  | cons effect rest ih =>
      have hrest := ih fun effect' hmem => h effect' (List.mem_cons_of_mem effect hmem)
      have hhead := h effect List.mem_cons_self
      rw [← hrest]
      cases effect <;> first | rfl | cases hhead

theorem sentReplies_encode (reply : BVIEW_BST_RESPONSE_MSG) (env : Env) :
    sentReplies (encode_and_send reply env).2 =
      if (env.encode reply).1 = .SUCCESS ∧ (env.encode reply).2.isSome ∧
        env.rest_response_send = .SUCCESS then [reply] else [] := by
  unfold encode_and_send
  rcases env.encode reply with ⟨rv, _ | buffer⟩
  · simp [sentReplies]
  · cases rv <;> simp [sentReplies]
    cases env.rest_response_send <;> simp [sentReplies]

end Sent

section Delivery

variable (cxt : BVIEW_BST_UNIT_CXT) (act : UnitAction)

-- A periodic report is collected, encoded and sent.
structure Delivers : Prop where
  reports : act.reports = true
  periodic : act.msg.report_type = some .STATS_PERIODIC
  collected : handledRv cxt act = .SUCCESS
  encoded : (act.env.encode (preparedReply cxt act)).1 = .SUCCESS ∧
    (act.env.encode (preparedReply cxt act)).2.isSome = true
  sent : act.env.rest_response_send = .SUCCESS

-- The options of a periodic report.
def periodic_options (max : BVIEW_SYSTEM_ASIC_MAX_BUF_SNAPSHOT_DATA) : BSTJSON_REPORT_OPTIONS :=
  let config := cxt.bst_config.config
  { (default : BSTJSON_REPORT_OPTIONS) with
    includes := cxt.bst_config.track.track
    statUnitsInCells := decide (config.statUnitsInCells ≠ 0)
    sendIncrementalReport := decide (config.sendIncrementalReport ≠ 0)
    statsInPercentage := decide (config.statsInPercentage ≠ 0)
    bst_max_buffers_ptr := max }

def deliveredInput (time : Tm) : ReportInput :=
  { asicId := act.msg.unit
    previous := some (backupRecord (unitStep cxt act)).snapshot_data
    current := (activeRecord (unitStep cxt act)).snapshot_data
    options := periodic_options cxt (handledCxt cxt act).bst_max_buffers
    asic := (handledCxt cxt act).asic_capabilities
    time }

theorem report_config (hreports : act.reports = true) :
    (handledCxt cxt act).bst_config = cxt.bst_config ∧
      (unitStep cxt act).bst_config = cxt.bst_config := by
  have hhandled : (handledCxt cxt act).bst_config = cxt.bst_config := by
    rw [report_handled cxt hreports, collect_stats_cxt]
    rfl
  refine ⟨hhandled, ?_⟩
  rw [unitStep_eq, if_pos hreports, update_data_config, hhandled]

theorem periodic_request (hreports : act.reports = true)
    (hperiodic : act.msg.report_type = some .STATS_PERIODIC) :
    handled_request cxt act.msg = { act.msg with collect := cxt.bst_config.track.track } := by
  obtain ⟨msg, env, rfl, htype⟩ := act.reports_cases hreports
  rcases htype with h | h <;>
    simp [handled_request, copy_track_to_collect, UnitAction.msg, h,
      show msg.report_type = _ from hperiodic]

theorem periodic_reportInput (time : Tm) (hreports : act.reports = true)
    (hperiodic : act.msg.report_type = some .STATS_PERIODIC)
    (hincremental : cxt.bst_config.config.sendIncrementalReport ≠ 0) :
    (preparedReply cxt act).reportInput time = some (deliveredInput cxt act time) := by
  obtain ⟨hhandled, hstep⟩ := report_config cxt act hreports
  rw [preparedReply_eq cxt act hreports, periodic_request cxt act hreports hperiodic]
  simp [report_reply, trigger_reply, base_reply, hperiodic, hhandled, hstep, hincremental,
    BVIEW_BST_RESPONSE_MSG.reportInput, deliveredInput, periodic_options]

theorem handled_request_report_type (msg : BVIEW_BST_REQUEST_MSG) :
    (handled_request cxt msg).report_type = msg.report_type := by
  have hcopy : (copy_track_to_collect cxt msg).report_type = msg.report_type := by
    unfold copy_track_to_collect
    split_ifs <;> rfl
  unfold handled_request
  split <;> first | exact hcopy | rfl

-- Only a periodic report has a snapshot to be relative to.
theorem backup_periodic {active : BVIEW_BST_REPORT_SNAPSHOT}
    {backup : Option BVIEW_BST_REPORT_SNAPSHOT} (hreplies : act.replies = true)
    (hresponse : (preparedReply cxt act).response = .report active backup)
    (hbackup : backup.isSome = true) :
    act.reports = true ∧ act.msg.report_type = some .STATS_PERIODIC := by
  cases hreports : act.reports with
  | true =>
      rw [preparedReply_eq cxt act hreports] at hresponse
      unfold report_reply at hresponse
      dsimp only at hresponse
      split_ifs at hresponse with hperiodic
      · cases hresponse
        cases hbackup
      · exact ⟨rfl, (handled_request_report_type cxt act.msg).symm.trans hperiodic⟩
      · cases hresponse
        cases hbackup
  | false =>
      cases act with
      | trigger msg env => cases hreplies
      | app msg env =>
          have htype := handled_request_msg_type cxt msg
          cases h : msg.msg_type <;> simp only [h] at htype <;>
            simp [preparedReply, prepare_reply, htype, h, UnitAction.msg, base_reply,
              threshold_reply, UnitAction.reports] at hresponse hreports
          obtain ⟨-, rfl⟩ := hresponse
          cases hbackup

theorem sentReplies_response (reply : BVIEW_BST_RESPONSE_MSG) (env : Env) :
    ∀ sent ∈ sentReplies (bst_send_response reply env).2,
      sent = reply ∧ reply.rv = .SUCCESS ∧ (env.encode reply).1 = .SUCCESS ∧
        (env.encode reply).2.isSome = true ∧ env.rest_response_send = .SUCCESS := by
  have hencode : ∀ sent ∈ sentReplies (encode_and_send reply env).2,
      sent = reply ∧ (env.encode reply).1 = .SUCCESS ∧ (env.encode reply).2.isSome = true ∧
        env.rest_response_send = .SUCCESS := by
    rw [sentReplies_encode]
    split_ifs with hsent
    · simpa using hsent
    · simp
  intro sent hmem
  unfold bst_send_response at hmem
  split_ifs at hmem with hrv
  · cases hmem
  · split at hmem
    all_goals first
      | exact absurd hmem List.not_mem_nil
      | (obtain ⟨heq, hsent⟩ := hencode sent hmem; exact ⟨heq, not_not.mp hrv, hsent⟩)

variable (time : Tm)

theorem sentReplies_unitEmits :
    sentReplies (unitEmits cxt act) =
      if act.replies then sentReplies (bst_send_response (preparedReply cxt act) act.env).2
      else [] := by
  rw [unitEmits_eq, sentReplies_append (handled_no_reply cxt act)]
  split_ifs <;> rfl

variable {cxt act} in
theorem incremental_reports_delivered (h : Delivers cxt act)
    (hincremental : cxt.bst_config.config.sendIncrementalReport ≠ 0) :
    incremental_reports time (unitEmits cxt act) = [deliveredInput cxt act time] := by
  have hreply := preparedReply_report cxt act h.reports
  have hrv : (preparedReply cxt act).rv = .SUCCESS := hreply.status.trans h.collected
  have hsend : (bst_send_response (preparedReply cxt act) act.env).2 =
      (encode_and_send (preparedReply cxt act) act.env).2 := by
    obtain ⟨msg, env, rfl, htype⟩ := act.reports_cases h.reports
    unfold bst_send_response
    rw [if_neg (not_not.mpr hrv), hreply.type]
    rcases htype with h | h <;> simp [UnitAction.msg, h]
  rw [incremental_reports, sentReplies_unitEmits, if_pos (report_replies act h.reports), hsend,
    sentReplies_encode, if_pos ⟨h.encoded.1, h.encoded.2, h.sent⟩, List.filterMap_cons_some
      (periodic_reportInput cxt act time h.reports h.periodic hincremental)]
  rfl

variable {cxt act} in
theorem incremental_reports_silent (h : ¬ Delivers cxt act) :
    incremental_reports time (unitEmits cxt act) = [] := by
  rw [incremental_reports, List.filter_eq_nil_iff]
  intro input hmem hprevious
  obtain ⟨sent, hsent, hinput⟩ := List.mem_filterMap.mp hmem
  rw [sentReplies_unitEmits] at hsent
  split_ifs at hsent with hreplies
  · obtain ⟨rfl, hrv, hstatus, hbuffer, hpost⟩ := sentReplies_response _ _ sent hsent
    have hperiodic : act.reports = true ∧ act.msg.report_type = some .STATS_PERIODIC := by
      unfold BVIEW_BST_RESPONSE_MSG.reportInput at hinput
      split at hinput
      · next active backup asic hresponse hasic =>
          cases hinput
          exact backup_periodic cxt act hreplies hresponse (by simpa using hprevious)
      · cases hinput
    have hreply := preparedReply_report cxt act hperiodic.1
    exact h ⟨hperiodic.1, hperiodic.2, hreply.status.symm.trans hrv, ⟨hstatus, hbuffer⟩, hpost⟩
  · cases hsent

end Delivery

section Rebuild

variable {realm : BVIEW_BST_REALM_ID} {input : ReportInput}

-- A cell is shown by its counters, in the units of the report.
theorem shown_counters {snapshot snapshot' : BVIEW_BST_ASIC_SNAPSHOT_DATA} {port index : Nat}
    (h : realm.counters snapshot port index = realm.counters snapshot' port index) :
    realm.shown input snapshot port index = realm.shown input snapshot' port index := by
  unfold BVIEW_BST_REALM_ID.counters at h
  unfold BVIEW_BST_REALM_ID.shown
  cases hencoder : realm.encoder with
  | none =>
      simp only [hencoder, List.cons.injEq, and_true] at h
      simp only [h]
  | some encoder =>
      simp only [hencoder] at h
      simp only [h]

-- The maxima count in percentages only.
structure SameUnits (input input' : ReportInput) : Prop where
  threshold : input.options.reportThreshold = input'.options.reportThreshold
  cells : input.options.statUnitsInCells = input'.options.statUnitsInCells
  percentage : input.options.statsInPercentage = input'.options.statsInPercentage
  max : input.options.statsInPercentage = true →
    input.options.bst_max_buffers_ptr = input'.options.bst_max_buffers_ptr
  asic : input.asic = input'.asic

theorem shown_units {input' : ReportInput} (h : SameUnits input input')
    (snapshot : BVIEW_BST_ASIC_SNAPSHOT_DATA) (port index : Nat) :
    realm.shown input snapshot port index = realm.shown input' snapshot port index := by
  cases hpercentage : input.options.statsInPercentage with
  | true =>
      have hconvert : ∀ data max, bst_json_convert_data input.options input.asic data max =
          bst_json_convert_data input'.options input'.asic data max := by
        intro data max
        simp only [bst_json_convert_data, h.threshold, h.cells, h.percentage, h.asic]
      have hcolumn : column_value input = column_value input' := by
        funext data max
        cases max <;> simp [column_value, hconvert]
      simp only [BVIEW_BST_REALM_ID.shown, hcolumn, hconvert, h.max hpercentage]
  | false =>
      have hconvert : ∀ data max max', bst_json_convert_data input.options input.asic data max =
          bst_json_convert_data input'.options input'.asic data max' := by
        intro data max max'
        have hpercentage' := h.percentage.symm.trans hpercentage
        simp [bst_json_convert_data, h.threshold, h.cells, hpercentage, hpercentage', h.asic]
      cases realm <;>
        simp [BVIEW_BST_REALM_ID.shown, BVIEW_BST_REALM_ID.encoder, column_value, epspEncoder,
          espEncoder, ucqEncoder, ucqgEncoder, mcqEncoder, cpuqEncoder, rqeqEncoder, ippgEncoder,
          ipspEncoder, ispEncoder] <;>
        first
          | exact hconvert _ _ _
          | exact ⟨hconvert _ _ _, hconvert _ _ _⟩
          | exact ⟨hconvert _ _ _, hconvert _ _ _, hconvert _ _ _⟩

section Apply

variable {previous : BVIEW_BST_ASIC_SNAPSHOT_DATA} (hprevious : input.previous = some previous)
  (htrigger : input.options.reportTrigger = false)
  (hincluded : input.options.includes.has realm = true) {port index : Nat}
  {cells : Nat → Nat → List UInt64}

include hprevious htrigger hincluded

theorem apply_rows_cell (hport : port < realm.ports input.asic)
    (hindex : index < realm.count input.asic)
    (hcell : cells port index = realm.shown input previous port index) :
    apply_rows realm cells (realm.rows input) port index =
      if realm.counters previous port index = realm.counters input.current port index then
        realm.shown input input.current port index
      else if realm = .EGRESS_PORT_SP then
        (realm.shown input input.current port index).take 3 ++
          (realm.shown input previous port index).drop 3
      else realm.shown input input.current port index := by
  have hreported := delta_reported realm hprevious htrigger hincluded port index
  have hcolumns : ∀ row ∈ realm.rows input, realm.columns row =
      if realm = .EGRESS_PORT_SP then (realm.shown input input.current row.port row.index).take 3
      else realm.shown input input.current row.port row.index := fun row hmem =>
    columns_shown row ((mem_rows realm hprevious htrigger hincluded row).mp hmem).2
  rw [apply_rows_at realm (fun port index =>
    if realm = .EGRESS_PORT_SP then (realm.shown input input.current port index).take 3
    else realm.shown input input.current port index) _ hcolumns]
  by_cases hsame : realm.counters previous port index = realm.counters input.current port index
  · have hnone : ¬ ∃ row ∈ realm.rows input, row.At port index := fun hrow =>
      (hreported.mp hrow).2.2 hsame
    rw [if_neg hnone, if_pos hsame, hcell]
    exact shown_counters hsame
  · rw [if_pos (hreported.mpr ⟨hport, hindex, hsame⟩), if_neg hsame, hcell]
    split_ifs with hrealm
    · subst hrealm
      rfl
    · have hlength : (realm.shown input previous port index).length =
          (realm.shown input input.current port index).length := by
        rw [shown_length, shown_length]
        exact counters_length realm _ _ port index
      rw [overwrite, ← hlength, List.drop_length, List.append_nil]

-- The reader of a row keeps the queue entries of an egress port service pool.
theorem apply_rows_shown_iff (hport : port < realm.ports input.asic)
    (hindex : index < realm.count input.asic)
    (hcell : cells port index = realm.shown input previous port index) :
    apply_rows realm cells (realm.rows input) port index =
        realm.shown input input.current port index ↔
      (realm = .EGRESS_PORT_SP → (previous.ePortSp port index).mcShareQueueEntries =
        (input.current.ePortSp port index).mcShareQueueEntries) := by
  rw [apply_rows_cell hprevious htrigger hincluded hport hindex hcell]
  by_cases hrealm : realm = .EGRESS_PORT_SP
  · subst hrealm
    by_cases hsame : BVIEW_BST_REALM_ID.EGRESS_PORT_SP.counters previous port index =
        BVIEW_BST_REALM_ID.EGRESS_PORT_SP.counters input.current port index
    · rw [if_pos hsame]
      simp only [BVIEW_BST_REALM_ID.counters, BVIEW_BST_REALM_ID.encoder, epspEncoder,
        List.cons.injEq] at hsame
      simp [hsame]
    · rw [if_neg hsame, if_pos rfl]
      simp [BVIEW_BST_REALM_ID.shown, BVIEW_BST_REALM_ID.encoder, epspEncoder, column_value]
  · simp [hrealm]

end Apply

end Rebuild

section Handled

-- No handler touches the capabilities.
theorem handled_asic (cxt : BVIEW_BST_UNIT_CXT) (act : UnitAction) :
    (handledCxt cxt act).asic_capabilities = cxt.asic_capabilities := by
  have hasync : ∀ request changed env (cxt : BVIEW_BST_UNIT_CXT),
      (set_async_reports request changed env cxt).asic_capabilities = cxt.asic_capabilities := by
    intro request changed env cxt
    unfold set_async_reports
    dsimp only
    split_ifs <;> rfl
  have hadd : ∀ env (cxt : BVIEW_BST_UNIT_CXT),
      (bst_trigger_timer_add env cxt).2.asic_capabilities = cxt.asic_capabilities := by
    intro env cxt
    unfold bst_trigger_timer_add
    split_ifs <;> rfl
  unfold handledCxt
  cases htype : act.msg.msg_type with
  | SET_FEATURE =>
      obtain ⟨enable, hcxt⟩ := feature_set_cxt cxt act.msg act.env
      simp only [bst_type_api_get, hcxt]
      exact hasync _ _ _ _
  | SET_TRACK =>
      simp only [bst_type_api_get, bst_config_track_set]
      split_ifs <;> rfl
  | UPDATE_TRACK | UPDATE_FEATURE =>
      simp only [bst_type_api_get, bst_update_config_set]
      split_ifs <;> rfl
  | GET_REPORT | TRIGGER_REPORT | GET_THRESHOLD =>
      simp only [bst_type_api_get, bst_get_report]
      split_ifs
      · rw [collect_stats_cxt]
        rfl
      all_goals rfl
  | TRIGGER_COLLECT =>
      simp only [bst_type_api_get, bst_process_trigger]
      split_ifs <;> simp [countTrigger, hadd]
  | CLEAR_TRIGGER_COUNT =>
      simp only [bst_type_api_get, bst_clear_trigger_count]
      split_ifs <;> rfl
  | SET_THRESHOLD => simp only [bst_type_api_get, threshold_set_cxt]
  | CLEAR_THRESHOLD =>
      simp only [bst_type_api_get, bst_clear_threshold_set]
      split_ifs <;> rfl
  | ENABLE_BST_ON_TRIGGER => simp only [bst_type_api_get, enable_expiry_cxt]
  | CLEAR_STATS | GET_FEATURE | GET_TRACK | MAX => rfl

theorem unitStep_asic (cxt : BVIEW_BST_UNIT_CXT) (act : UnitAction) :
    (unitStep cxt act).asic_capabilities = cxt.asic_capabilities := by
  rw [unitStep_eq]
  split_ifs
  · exact handled_asic cxt act
  · exact handled_asic cxt act

end Handled

-- The options that stay as they are over a run.
structure HeldOptions where
  track : RealmFlags
  statUnitsInCells : Bool
  statsInPercentage : Bool
  max : BVIEW_SYSTEM_ASIC_MAX_BUF_SNAPSHOT_DATA
  asic : BVIEW_ASIC_CAPABILITIES

-- Who applies the periodic reports: the cells it holds, and the snapshot that
-- the last report it received was taken from.
structure Collector where
  cells : BVIEW_BST_REALM_ID → Nat → Nat → List UInt64
  taken : BVIEW_BST_ASIC_SNAPSHOT_DATA

def Collector.receive (collector : Collector) (input : ReportInput) : Collector :=
  { cells := fun realm =>
      if input.options.includes.has realm then
        apply_rows realm (collector.cells realm) (realm.rows input)
      else collector.cells realm
    taken := input.current }

namespace HeldOptions

variable (held : HeldOptions) (time : Tm)

def input : ReportInput :=
  { asicId := 0
    previous := none
    current := .zero
    options := { (default : BSTJSON_REPORT_OPTIONS) with
      includes := held.track
      statUnitsInCells := held.statUnitsInCells
      statsInPercentage := held.statsInPercentage
      bst_max_buffers_ptr := held.max }
    asic := held.asic
    time }

-- A collector that has received nothing holds the zero snapshot.
def start : Collector :=
  { cells := fun realm port index => realm.shown (held.input time) .zero port index
    taken := .zero }

def Tracked (realm : BVIEW_BST_REALM_ID) (port index : Nat) : Prop :=
  held.track.has realm = true ∧ port < realm.ports held.asic ∧ index < realm.count held.asic

def SameCells (snapshot snapshot' : BVIEW_BST_ASIC_SNAPSHOT_DATA) : Prop :=
  ∀ realm port index, held.Tracked realm port index →
    realm.counters snapshot port index = realm.counters snapshot' port index

-- The counter that the row of an egress port service pool leaves out.
def SameQueueEntries (snapshot snapshot' : BVIEW_BST_ASIC_SNAPSHOT_DATA) : Prop :=
  ∀ port pool, held.Tracked .EGRESS_PORT_SP port pool →
    (snapshot.ePortSp port pool).mcShareQueueEntries =
      (snapshot'.ePortSp port pool).mcShareQueueEntries

-- The options and, in percentages, the maxima in use when a message is handled.
structure Held (cxt : BVIEW_BST_UNIT_CXT) (act : UnitAction) : Prop where
  track : cxt.bst_config.track.track = held.track
  cells : decide (cxt.bst_config.config.statUnitsInCells ≠ 0) = held.statUnitsInCells
  percentage : decide (cxt.bst_config.config.statsInPercentage ≠ 0) = held.statsInPercentage
  incremental : cxt.bst_config.config.sendIncrementalReport ≠ 0
  max : act.reports = true → held.statsInPercentage = true →
    (handledCxt cxt act).bst_max_buffers = held.max

-- The collector holds the active record, in the cells that are tracked.
structure InSync (cxt : BVIEW_BST_UNIT_CXT) (collector : Collector) : Prop where
  shows : ∀ realm port index, held.Tracked realm port index →
    collector.cells realm port index =
      realm.shown (held.input time) (activeRecord cxt).snapshot_data port index
  taken : held.SameCells (activeRecord cxt).snapshot_data collector.taken

-- What a message may do to the active record: a periodic report that is sent
-- changes no queue entries of an egress port service pool, any other report
-- collects the tracked counters that the active record has already, and a clear
-- finds them zero.
structure KeepsSync (cxt : BVIEW_BST_UNIT_CXT) (act : UnitAction) : Prop where
  sent : Delivers cxt act → held.SameQueueEntries (activeRecord cxt).snapshot_data
    act.env.sbapi_bst_snapshot_get.2.snapshot_data
  unsent : act.reports = true → ¬ Delivers cxt act → held.SameCells
    (activeRecord cxt).snapshot_data act.env.sbapi_bst_snapshot_get.2.snapshot_data
  cleared : act.msg.msg_type = .CLEAR_STATS → held.SameCells (activeRecord cxt).snapshot_data .zero

end HeldOptions

section Sync

variable (held : HeldOptions) (time : Tm) {cxt : BVIEW_BST_UNIT_CXT} {act : UnitAction}
  {collector : Collector}

def unitCollector (cxt : BVIEW_BST_UNIT_CXT) (act : UnitAction) (collector : Collector) :
    Collector :=
  (incremental_reports time (unitEmits cxt act)).foldl Collector.receive collector

theorem delivered_units (hheld : held.Held cxt act) (hasic : cxt.asic_capabilities = held.asic)
    (h : Delivers cxt act) : SameUnits (deliveredInput cxt act time) (held.input time) := by
  refine ⟨rfl, hheld.cells, hheld.percentage, fun hpercentage => ?_, ?_⟩
  · exact hheld.max h.reports (hheld.percentage.symm.trans hpercentage)
  · exact (handled_asic cxt act).trans hasic

variable {held time} in
-- A collector that receives nothing stays in sync as long as the tracked cells
-- of the active record stay the same.
theorem in_sync_kept_iff (hsync : held.InSync time cxt collector) (cxt' : BVIEW_BST_UNIT_CXT) :
    held.InSync time cxt' collector ↔
      held.SameCells (activeRecord cxt).snapshot_data (activeRecord cxt').snapshot_data := by
  constructor
  · intro hsync' realm port index htracked
    exact (hsync.taken realm port index htracked).trans
      (hsync'.taken realm port index htracked).symm
  · intro hsame
    refine ⟨fun realm port index htracked => ?_, fun realm port index htracked => ?_⟩
    · rw [hsync.shows realm port index htracked]
      exact shown_counters (hsame realm port index htracked)
    · exact (hsame realm port index htracked).symm.trans (hsync.taken realm port index htracked)

theorem clear_active (hperm : PointersPermute cxt) (hclear : act.msg.msg_type = .CLEAR_STATS) :
    activeRecord (unitStep cxt act) = .zero := by
  have hreports : act.reports = false := by
    cases act with
    | app msg env => simp [UnitAction.reports, show msg.msg_type = .CLEAR_STATS from hclear]
    | trigger msg env => rfl
  rw [unitStep_eq, hreports, if_neg Bool.false_ne_true]
  simp only [handledCxt, hclear, bst_type_api_get, bst_clear_stats_set, activeRecord, setRecord]
  rw [Function.update_of_ne hperm.ne.1, Function.update_self]

variable {held time} in
theorem delivered_shows (hheld : held.Held cxt act) (hasic : cxt.asic_capabilities = held.asic)
    (hperm : PointersPermute cxt) (h : Delivers cxt act)
    (hsync : held.InSync time cxt collector) {realm : BVIEW_BST_REALM_ID} {port index : Nat}
    (htracked : held.Tracked realm port index) :
    (collector.receive (deliveredInput cxt act time)).cells realm port index =
        realm.shown (held.input time) act.env.sbapi_bst_snapshot_get.2.snapshot_data port index ↔
      (realm = .EGRESS_PORT_SP →
        ((activeRecord cxt).snapshot_data.ePortSp port index).mcShareQueueEntries =
          (act.env.sbapi_bst_snapshot_get.2.snapshot_data.ePortSp port
            index).mcShareQueueEntries) := by
  obtain ⟨hactive, hbackup⟩ := report_rotates cxt hperm h.reports
  obtain ⟨hincluded, hport, hindex⟩ := htracked
  have hunits := delivered_units held time hheld hasic h
  have hprevious : (deliveredInput cxt act time).previous =
      some (activeRecord cxt).snapshot_data := by rw [deliveredInput, hbackup]
  have hcurrent : (deliveredInput cxt act time).current =
      act.env.sbapi_bst_snapshot_get.2.snapshot_data := by rw [deliveredInput, hactive]
  have hhas : (deliveredInput cxt act time).options.includes.has realm = true := by
    rw [← hheld.track] at hincluded
    exact hincluded
  have hcell : collector.cells realm port index =
      realm.shown (deliveredInput cxt act time) (activeRecord cxt).snapshot_data port index := by
    rw [hsync.shows realm port index ⟨hincluded, hport, hindex⟩, shown_units hunits]
  have hrebuilt := apply_rows_shown_iff hprevious rfl hhas (hunits.asic ▸ hport)
    (hunits.asic ▸ hindex) hcell
  rw [hcurrent, shown_units hunits] at hrebuilt
  simp only [Collector.receive, hhas, if_true]
  exact hrebuilt

-- One message keeps the collector in sync exactly under the condition.
theorem in_sync_step_iff (hheld : held.Held cxt act) (hasic : cxt.asic_capabilities = held.asic)
    (hperm : PointersPermute cxt) (hsync : held.InSync time cxt collector) :
    held.InSync time (unitStep cxt act) (unitCollector time cxt act collector) ↔
      held.KeepsSync cxt act := by
  unfold unitCollector
  by_cases hdelivers : Delivers cxt act
  · obtain ⟨hactive, -⟩ := report_rotates cxt hperm hdelivers.reports
    have hclear : act.msg.msg_type ≠ .CLEAR_STATS := by
      obtain ⟨msg, env, rfl, htype⟩ := act.reports_cases hdelivers.reports
      rcases htype with h | h <;> simp [UnitAction.msg, h]
    rw [incremental_reports_delivered time hdelivers hheld.incremental, List.foldl_cons,
      List.foldl_nil]
    constructor
    · intro hsync'
      refine ⟨fun _ port pool htracked => ?_, fun _ hnot => absurd hdelivers hnot,
        fun h => absurd h hclear⟩
      have hshows := hsync'.shows _ port pool htracked
      rw [hactive] at hshows
      exact (delivered_shows hheld hasic hperm hdelivers hsync htracked).mp hshows rfl
    · intro hkeeps
      refine ⟨fun realm port index htracked => ?_, fun realm port index htracked => ?_⟩
      · rw [hactive]
        refine (delivered_shows hheld hasic hperm hdelivers hsync htracked).mpr fun hrealm => ?_
        subst hrealm
        exact hkeeps.sent hdelivers port index htracked
      · rfl
  · rw [incremental_reports_silent time hdelivers, List.foldl_nil, in_sync_kept_iff hsync]
    cases hreports : act.reports with
    | true =>
        obtain ⟨hactive, -⟩ := report_rotates cxt hperm hreports
        have hclear : act.msg.msg_type ≠ .CLEAR_STATS := by
          obtain ⟨msg, env, rfl, htype⟩ := act.reports_cases hreports
          rcases htype with h | h <;> simp [UnitAction.msg, h]
        rw [hactive]
        exact ⟨fun hsame => ⟨fun h => absurd h hdelivers, fun _ _ => hsame,
          fun h => absurd h hclear⟩, fun hkeeps => hkeeps.unsent hreports hdelivers⟩
    | false =>
        by_cases hclear : act.msg.msg_type = .CLEAR_STATS
        · rw [clear_active hperm hclear]
          exact ⟨fun hsame => ⟨fun h => absurd h hdelivers,
            fun h => absurd (hreports.symm.trans h) (by decide), fun _ => hsame⟩,
            fun hkeeps => hkeeps.cleared hclear⟩
        · obtain ⟨hactive, -⟩ := others_same_records cxt act hperm hreports hclear
          rw [hactive]
          exact ⟨fun _ => ⟨fun h => absurd h hdelivers,
            fun h => absurd (hreports.symm.trans h) (by decide), fun h => absurd h hclear⟩,
            fun _ _ _ _ _ => rfl⟩

end Sync

section Runs

variable (num_units unit : Nat) (held : HeldOptions) (time : Tm)

-- The incremental reports of the unit that an action sends.
def reportsSent (state : BVIEW_BST_CXT) (act : Action) : List ReportInput :=
  match takenFor num_units unit state act with
  | none => []
  | some unitAct => incremental_reports time (unitEmits (state.unit unit) unitAct)

-- A report is relative to the snapshot of the report before it, and after it
-- the collector holds the snapshot that it was taken from.
def Reconstructs (s : BVIEW_BST_CXT × Collector) (act : Action) : Prop :=
  ∀ input ∈ reportsSent num_units unit time s.1 act,
    (∃ base, input.previous = some base ∧ held.SameCells base s.2.taken) ∧
      ∀ realm port index, held.Tracked realm port index →
        ((reportsSent num_units unit time s.1 act).foldl Collector.receive s.2).cells
            realm port index =
          realm.shown input input.current port index

structure WatchInv (s : BVIEW_BST_CXT × Collector) : Prop where
  permute : PointersPermute (s.1.unit unit)
  asic : (s.1.unit unit).asic_capabilities = held.asic
  sync : held.InSync time (s.1.unit unit) s.2

variable {num_units unit held time}

theorem watch_start (asic : Nat → BVIEW_ASIC_CAPABILITIES) (env : Nat → Env)
    (hasic : asic unit = held.asic) :
    WatchInv unit held time (bst_main asic env, held.start time) :=
  ⟨bst_main_permute asic env unit, hasic, fun _ _ _ _ => rfl, fun _ _ _ _ => rfl⟩

theorem watch_step (s : BVIEW_BST_CXT × Collector) (act : Action)
    (hinv : WatchInv unit held time s)
    (hcond : OnUnit num_units unit held.Held s.1 act ∧
      OnUnit num_units unit held.KeepsSync s.1 act) :
    WatchInv unit held time
      (watch (step num_units) (reportsSent num_units unit time) Collector.receive s act) := by
  have hunit := step_unit num_units unit s.1 act
  cases htaken : takenFor num_units unit s.1 act with
  | none =>
      rw [htaken] at hunit
      have hsent : reportsSent num_units unit time s.1 act = [] := by
        rw [reportsSent, htaken]
      refine ⟨?_, ?_, ?_⟩ <;> simp only [watch, hunit, hsent, List.foldl_nil]
      · exact hinv.permute
      · exact hinv.asic
      · exact hinv.sync
  | some unitAct =>
      rw [htaken] at hunit
      have hsent : reportsSent num_units unit time s.1 act =
          incremental_reports time (unitEmits (s.1.unit unit) unitAct) := by
        rw [reportsSent, htaken]
      refine ⟨?_, ?_, ?_⟩ <;> simp only [watch, hunit, hsent]
      · exact unitStep_permute _ unitAct hinv.permute
      · exact (unitStep_asic _ unitAct).trans hinv.asic
      · exact (in_sync_step_iff held time (hcond.1 unitAct htaken) hinv.asic hinv.permute
          hinv.sync).mpr (hcond.2 unitAct htaken)

theorem watch_reconstructs (s : BVIEW_BST_CXT × Collector) (act : Action)
    (hinv : WatchInv unit held time s)
    (hcond : OnUnit num_units unit held.Held s.1 act ∧
      OnUnit num_units unit held.KeepsSync s.1 act) :
    Reconstructs num_units unit held time s act := by
  intro input hmem
  have hafter := (watch_step s act hinv hcond).sync
  have hunit := step_unit num_units unit s.1 act
  cases htaken : takenFor num_units unit s.1 act with
  | none =>
      rw [reportsSent, htaken] at hmem
      cases hmem
  | some unitAct =>
      have hheld := hcond.1 unitAct htaken
      have hsent : reportsSent num_units unit time s.1 act =
          incremental_reports time (unitEmits (s.1.unit unit) unitAct) := by
        rw [reportsSent, htaken]
      rw [hsent] at hmem
      by_cases hdelivers : Delivers (s.1.unit unit) unitAct
      · rw [incremental_reports_delivered time hdelivers hheld.incremental,
          List.mem_singleton] at hmem
        obtain ⟨hactive, hbackup⟩ := report_rotates _ hinv.permute hdelivers.reports
        have hunits := delivered_units held time hheld hinv.asic hdelivers
        subst hmem
        refine ⟨⟨_, rfl, ?_⟩, fun realm port index htracked => ?_⟩
        · rw [hbackup]
          exact hinv.sync.taken
        · rw [htaken] at hunit
          have hshows := hafter.shows realm port index htracked
          simp only [watch, hunit] at hshows
          rw [hshows, shown_units hunits]
          rfl
      · rw [incremental_reports_silent time hdelivers] at hmem
        cases hmem

theorem collector_reconstructs (asic : Nat → BVIEW_ASIC_CAPABILITIES) (env : Nat → Env)
    (hasic : asic unit = held.asic) (acts : List Action)
    (hheld : Along (step num_units) (OnUnit num_units unit held.Held) (bst_main asic env) acts)
    (hkeeps : Along (step num_units) (OnUnit num_units unit held.KeepsSync)
      (bst_main asic env) acts) :
    Along (watch (step num_units) (reportsSent num_units unit time) Collector.receive)
      (Reconstructs num_units unit held time) (bst_main asic env, held.start time) acts := by
  have hcond := (along_watch (step num_units) (reportsSent num_units unit time) Collector.receive
    _ (bst_main asic env, held.start time) acts).mpr (along_and hheld hkeeps)
  exact along_of_invariant (WatchInv unit held time) watch_step watch_reconstructs _ acts
    (watch_start asic env hasic) hcond

end Runs

section Samples

-- The device is tracked, in cells.
def sampleHeld : HeldOptions :=
  { track := { (default : RealmFlags) with device := true }
    statUnitsInCells := true
    statsInPercentage := false
    max := default
    asic := sampleAsic }

def trackingEnv : Env :=
  { sampleEnv with sbapi_bst_config_get := (.SUCCESS, { sampleMode with trackMask := 2 }) }

def trackingStart : BVIEW_BST_CXT := bst_main (fun _ => sampleAsic) (fun _ => trackingEnv)

-- A collection that finds a number of bytes in use on the device.
def deviceEnv (bufferCount : UInt64) : Env :=
  { trackingEnv with sbapi_bst_snapshot_get := (.SUCCESS,
      { tv := 0, snapshot_data := { BVIEW_BST_ASIC_SNAPSHOT_DATA.zero with
        device := { bufferCount } } }) }

-- What the collection timer posts.
def sample_periodic : BVIEW_BST_REQUEST_MSG :=
  { BVIEW_BST_REQUEST_MSG.zeroed .GET_REPORT 0 with report_type := some .STATS_PERIODIC }

def sample_get_report : BVIEW_BST_REQUEST_MSG :=
  (RestRequest.bstjson_get_bst_report sampleHeld.track).msg 1 0 7

def reportActions (msg : BVIEW_BST_REQUEST_MSG) (bufferCount : UInt64) : List Action :=
  [.bst_send_request msg, .bst_app_main (deviceEnv bufferCount)]

theorem trackingStart_holds (cxt : BVIEW_BST_UNIT_CXT) (act : UnitAction)
    (hconfig : cxt.bst_config = (trackingStart.unit 0).bst_config) :
    sampleHeld.Held cxt act := by
  refine ⟨?_, ?_, ?_, ?_, fun _ h => absurd h (by decide)⟩ <;> rw [hconfig]
  · decide
  · rfl
  · rfl
  · exact (by decide : (1 : Int) ≠ 0)

theorem sample_periodic_held (bufferCount : UInt64) :
    Along (step 1) (OnUnit 1 0 sampleHeld.Held) trackingStart
      (reportActions sample_periodic bufferCount) := by
  refine ⟨fun unitAct h => ?_, fun unitAct h => ?_, trivial⟩
  · cases h
  · exact trackingStart_holds _ unitAct rfl

theorem sample_periodic_keeps (bufferCount : UInt64) :
    Along (step 1) (OnUnit 1 0 sampleHeld.KeepsSync) trackingStart
      (reportActions sample_periodic bufferCount) := by
  refine ⟨fun unitAct h => ?_, fun unitAct h => ?_, trivial⟩
  · cases h
  · cases h
    refine ⟨fun _ port pool htracked => ?_, fun _ hnot => ?_, fun h => ?_⟩
    · exact absurd htracked.1 (by decide)
    · exact absurd ⟨rfl, rfl, rfl, ⟨rfl, rfl⟩, rfl⟩ hnot
    · cases h

theorem collector_reconstructs_device :
    Along (watch (step 1) (reportsSent 1 0 sampleTm) Collector.receive)
      (Reconstructs 1 0 sampleHeld sampleTm) (trackingStart, sampleHeld.start sampleTm)
      (reportActions sample_periodic 416) :=
  collector_reconstructs (fun _ => sampleAsic) (fun _ => trackingEnv) rfl
    (reportActions sample_periodic 416) (sample_periodic_held 416) (sample_periodic_keeps 416)

-- The answer to a REST request takes the place of the base: the periodic report
-- after it leaves out a counter that no periodic report has shown.
theorem rest_report_loses_update :
    let acts := reportActions sample_get_report 416 ++ reportActions sample_periodic 416
    Along (step 1) (OnUnit 1 0 sampleHeld.Held) trackingStart acts ∧
      ¬ Along (watch (step 1) (reportsSent 1 0 sampleTm) Collector.receive)
        (Reconstructs 1 0 sampleHeld sampleTm) (trackingStart, sampleHeld.start sampleTm)
        acts := by
  refine ⟨⟨fun unitAct h => ?_, fun unitAct h => ?_, fun unitAct h => ?_, fun unitAct h => ?_,
    trivial⟩, fun hkeeps => ?_⟩
  · cases h
  · exact trackingStart_holds _ unitAct rfl
  · cases h
  · exact trackingStart_holds _ unitAct rfl
  · obtain ⟨-, -, -, hlast, -⟩ := hkeeps
    obtain ⟨-, hcells⟩ := hlast _ List.mem_cons_self
    have htracked : sampleHeld.Tracked .DEVICE 0 0 := ⟨rfl, by decide, by decide⟩
    exact absurd (hcells .DEVICE 0 0 htracked) (by decide +kernel)

end Samples

end BroadView.Bst
