import BroadView.Bst.System.Lemmas

namespace BroadView.Bst

open Transition

section Step

variable (cxt : BVIEW_BST_UNIT_CXT) (act : UnitAction)

-- The record pointers name the three buffers of the unit, each of them once.
def PointersPermute : Prop :=
  [cxt.stats_active_record_ptr, cxt.stats_backup_record_ptr, cxt.stats_current_record_ptr].Perm
    (List.finRange 3)

def CollectionSucceeds : Prop := act.env.sbapi_bst_snapshot_get.1 = .SUCCESS

-- What a message has to do to the history of the unit: a report moves the
-- snapshot it collected in front of the one before, a failed collection shows
-- nowhere, and nothing else but a clear touches the two records.
structure KeepsHistory : Prop where
  rotated : act.reports = true → CollectionSucceeds act →
    activeRecord (unitStep cxt act) = act.env.sbapi_bst_snapshot_get.2 ∧
      backupRecord (unitStep cxt act) = activeRecord cxt
  carried : act.reports = true → ∀ reply, .encode reply ∈ unitEmits cxt act →
    ∃ backup, reply.response = .report (activeRecord (unitStep cxt act)) backup ∧
      ∀ record ∈ backup, record = backupRecord (unitStep cxt act)
  failed : act.reports = true → ¬ CollectionSucceeds act →
    activeRecord (unitStep cxt act) = activeRecord cxt ∧
      backupRecord (unitStep cxt act) = backupRecord cxt ∧
      ∀ reply, .encode reply ∉ unitEmits cxt act
  others : act.reports = false → act.msg.msg_type ≠ .CLEAR_STATS →
    activeRecord (unitStep cxt act) = activeRecord cxt ∧
      backupRecord (unitStep cxt act) = backupRecord cxt

-- A failed collection can go unseen only when what it left in the current
-- record is what the other two hold already, and no report of it is sent:
-- the status of a trigger report is the one of re-enabling the feature.
def CollectionUnseen : Prop :=
  act.env.sbapi_bst_snapshot_get.2 = activeRecord cxt ∧ activeRecord cxt = backupRecord cxt ∧
    (act.msg.msg_type = .TRIGGER_REPORT → act.env.sbapi_bst_config_set ≠ .SUCCESS)

def CollectionKept : Prop :=
  act.reports = true → CollectionSucceeds act ∨ CollectionUnseen cxt act

variable {cxt} in
theorem PointersPermute.ne (hperm : PointersPermute cxt) :
    cxt.stats_active_record_ptr ≠ cxt.stats_current_record_ptr ∧
      cxt.stats_backup_record_ptr ≠ cxt.stats_current_record_ptr := by
  have hnodup := hperm.nodup_iff.mpr (by decide)
  simp only [List.nodup_cons, List.mem_cons, List.not_mem_nil, or_false, not_or] at hnodup
  exact ⟨hnodup.1.2, hnodup.2.1⟩

variable {cxt} in
theorem PointersPermute.of_same {cxt' : BVIEW_BST_UNIT_CXT} (hperm : PointersPermute cxt)
    (hactive : cxt'.stats_active_record_ptr = cxt.stats_active_record_ptr)
    (hbackup : cxt'.stats_backup_record_ptr = cxt.stats_backup_record_ptr)
    (hcurrent : cxt'.stats_current_record_ptr = cxt.stats_current_record_ptr) :
    PointersPermute cxt' := by
  unfold PointersPermute at hperm ⊢
  rw [hactive, hbackup, hcurrent]
  exact hperm

-- The rotation is a permutation of the pointers.
theorem update_data_permute (hperm : PointersPermute cxt) :
    PointersPermute (bst_update_data .STATS cxt) := by
  unfold PointersPermute at hperm ⊢
  refine List.Perm.trans ?_ hperm
  exact (List.Perm.swap cxt.stats_active_record_ptr cxt.stats_current_record_ptr
    [cxt.stats_backup_record_ptr]).trans (List.Perm.cons _ (List.Perm.swap _ _ []))

-- No handler moves the record pointers.
theorem handled_permute (hperm : PointersPermute cxt) : PointersPermute (handledCxt cxt act) := by
  by_cases hreport : act.msg.msg_type = .GET_REPORT ∨ act.msg.msg_type = .TRIGGER_REPORT
  · have hcxt : handledCxt cxt act = (collect_stats act.msg act.env cxt).cxt := by
      rcases hreport with h | h <;> simp [handledCxt, h, bst_type_api_get, bst_get_report]
    rw [hcxt, collect_stats_cxt]
    exact hperm.of_same rfl rfl rfl
  by_cases hclear : act.msg.msg_type = .CLEAR_STATS
  · simp only [handledCxt, hclear, bst_type_api_get]
    exact hperm.of_same rfl rfl rfl
  · have hsame := handled_same_records cxt act (fun h => hreport (.inl h))
      (fun h => hreport (.inr h)) hclear
    exact hperm.of_same hsame.active hsame.backup hsame.current

theorem unitStep_permute (hperm : PointersPermute cxt) : PointersPermute (unitStep cxt act) := by
  rw [unitStep_eq]
  split_ifs
  · exact update_data_permute _ (handled_permute cxt act hperm)
  · exact handled_permute cxt act hperm

variable {act} in
theorem UnitAction.reports_cases (hreports : act.reports = true) :
    ∃ msg env, act = .app msg env ∧
      (msg.msg_type = .GET_REPORT ∨ msg.msg_type = .TRIGGER_REPORT) := by
  cases act with
  | app msg env => exact ⟨msg, env, rfl, of_decide_eq_true hreports⟩
  | trigger msg env => cases hreports

variable {act} in
theorem report_handled (hreports : act.reports = true) :
    handledCxt cxt act = (collect_stats act.msg act.env cxt).cxt := by
  obtain ⟨msg, env, rfl, htype⟩ := act.reports_cases hreports
  rcases htype with h | h <;>
    simp [handledCxt, UnitAction.msg, UnitAction.env, h, bst_type_api_get, bst_get_report]

variable {act} in
-- A report shifts what was collected into the history, whatever the status.
theorem report_rotates (hperm : PointersPermute cxt) (hreports : act.reports = true) :
    activeRecord (unitStep cxt act) = act.env.sbapi_bst_snapshot_get.2 ∧
      backupRecord (unitStep cxt act) = activeRecord cxt := by
  rw [unitStep_eq, if_pos hreports, report_handled cxt hreports, collect_stats_cxt]
  constructor
  · exact Function.update_self _ _ _
  · exact Function.update_of_ne hperm.ne.1 _ _

theorem others_same_records (hperm : PointersPermute cxt) (hreports : act.reports = false)
    (hclear : act.msg.msg_type ≠ .CLEAR_STATS) :
    activeRecord (unitStep cxt act) = activeRecord cxt ∧
      backupRecord (unitStep cxt act) = backupRecord cxt := by
  rw [unitStep_eq, hreports, if_neg Bool.false_ne_true]
  by_cases hreport : act.msg.msg_type = .GET_REPORT ∨ act.msg.msg_type = .TRIGGER_REPORT
  · -- The trigger thread would collect into the current record only.
    have hcxt : handledCxt cxt act = (collect_stats act.msg act.env cxt).cxt := by
      rcases hreport with h | h <;> simp [handledCxt, h, bst_type_api_get, bst_get_report]
    rw [hcxt, collect_stats_cxt]
    exact ⟨Function.update_of_ne hperm.ne.1 _ _, Function.update_of_ne hperm.ne.2 _ _⟩
  · have hsame := handled_same_records cxt act (fun h => hreport (.inl h))
      (fun h => hreport (.inr h)) hclear
    simp only [activeRecord, backupRecord, hsame.records, hsame.active, hsame.backup, and_self]

theorem report_replies (hreports : act.reports = true) : act.replies = true := by
  obtain ⟨msg, env, rfl, htype⟩ := act.reports_cases hreports
  rcases htype with h | h <;> simp [UnitAction.replies, h]

theorem report_reply_parts (msg : BVIEW_BST_REQUEST_MSG) (reply : BVIEW_BST_RESPONSE_MSG) :
    (report_reply msg cxt reply).msg_type = reply.msg_type ∧
      (report_reply msg cxt reply).rv = reply.rv ∧
      ∃ backup, (report_reply msg cxt reply).response = .report (activeRecord cxt) backup ∧
        ∀ record ∈ backup, record = backupRecord cxt := by
  unfold report_reply
  dsimp only
  split_ifs
  · exact ⟨rfl, rfl, none, rfl, by simp⟩
  · exact ⟨rfl, rfl, some _, rfl, by simp⟩
  · exact ⟨rfl, rfl, none, rfl, by simp⟩

theorem trigger_reply_parts (msg : BVIEW_BST_REQUEST_MSG) (reply : BVIEW_BST_RESPONSE_MSG) :
    (trigger_reply msg cxt reply).msg_type = reply.msg_type ∧
      (trigger_reply msg cxt reply).rv = reply.rv := by
  unfold trigger_reply
  split_ifs <;> exact ⟨rfl, rfl⟩

-- The reply to a report message, with the status the handler left.
structure RepliesWithReport (reply : BVIEW_BST_RESPONSE_MSG) : Prop where
  type : reply.msg_type = act.msg.msg_type
  status : reply.rv = handledRv cxt act
  records : ∃ backup, reply.response = .report (activeRecord (unitStep cxt act)) backup ∧
    ∀ record ∈ backup, record = backupRecord (unitStep cxt act)

theorem preparedReply_eq (hreports : act.reports = true) :
    preparedReply cxt act =
      report_reply (handled_request cxt act.msg) (unitStep cxt act)
        (trigger_reply (handled_request cxt act.msg) (handledCxt cxt act)
          (base_reply (handled_request cxt act.msg) (handledRv cxt act) (handledCxt cxt act))) := by
  have hcxt : unitStep cxt act = bst_update_data .STATS (handledCxt cxt act) := by
    rw [unitStep_eq, if_pos hreports]
  obtain ⟨msg, env, rfl, htype⟩ := act.reports_cases hreports
  rw [← handled_request_msg_type cxt] at htype
  rw [hcxt]
  rcases htype with h | h <;> simp [preparedReply, prepare_reply, h, UnitAction.msg]

theorem preparedReply_report (hreports : act.reports = true) :
    RepliesWithReport cxt act (preparedReply cxt act) := by
  obtain ⟨htrigger, hstatus⟩ := trigger_reply_parts (handledCxt cxt act)
    (handled_request cxt act.msg) (base_reply (handled_request cxt act.msg) (handledRv cxt act)
      (handledCxt cxt act))
  obtain ⟨hreplied, hrv, hresponse⟩ := report_reply_parts (unitStep cxt act)
    (handled_request cxt act.msg) (trigger_reply (handled_request cxt act.msg)
      (handledCxt cxt act) (base_reply (handled_request cxt act.msg) (handledRv cxt act)
        (handledCxt cxt act)))
  rw [preparedReply_eq cxt act hreports]
  refine ⟨?_, hrv.trans hstatus, hresponse⟩
  rw [hreplied, htrigger]
  exact handled_request_msg_type cxt act.msg

theorem report_encodes (hreports : act.reports = true) (reply : BVIEW_BST_RESPONSE_MSG) :
    .encode reply ∈ unitEmits cxt act ↔
      handledRv cxt act = .SUCCESS ∧ reply = preparedReply cxt act := by
  have hreply := preparedReply_report cxt act hreports
  have htype : (preparedReply cxt act).msg_type = .GET_REPORT ∨
      (preparedReply cxt act).msg_type = .TRIGGER_REPORT := by
    rw [hreply.type]
    obtain ⟨msg, env, rfl, h⟩ := act.reports_cases hreports
    exact h
  have hencoded : (preparedReply cxt act).msg_type.encoded = true := by
    rcases htype with h | h <;> rw [h] <;> rfl
  rw [mem_unitEmits_reply cxt act _ rfl, mem_send_response_encode, hreply.status]
  simp [report_replies act hreports, hencoded]

-- The status a report message is answered with.
theorem report_status (hreports : act.reports = true) :
    handledRv cxt act =
      if act.msg.msg_type = .TRIGGER_REPORT then act.env.sbapi_bst_config_set
      else act.env.sbapi_bst_snapshot_get.1 := by
  obtain ⟨msg, env, rfl, htype⟩ := act.reports_cases hreports
  rcases htype with h | h <;>
    simp [handledRv, UnitAction.msg, UnitAction.env, h, bst_type_api_get, bst_get_report,
      collect_stats, bst_enable_on_trigger]

-- The exact condition under which one message keeps the history.
theorem keeps_history_iff (hperm : PointersPermute cxt) :
    KeepsHistory cxt act ↔ CollectionKept cxt act := by
  constructor
  · intro hkeeps hreports
    by_cases hok : CollectionSucceeds act
    · exact .inl hok
    obtain ⟨hactive, hbackup⟩ := report_rotates cxt hperm hreports
    obtain ⟨hkept, hkept', hsilent⟩ := hkeeps.failed hreports hok
    refine .inr ⟨hactive.symm.trans hkept, hbackup.symm.trans hkept', fun htrigger henabled => ?_⟩
    refine hsilent (preparedReply cxt act) ((report_encodes cxt act hreports _).mpr ⟨?_, rfl⟩)
    rw [report_status cxt act hreports, if_pos htrigger, henabled]
  · intro hkept
    refine ⟨fun hreports _ => report_rotates cxt hperm hreports, ?_, ?_,
      others_same_records cxt act hperm⟩
    · intro hreports reply hmem
      obtain ⟨-, rfl⟩ := (report_encodes cxt act hreports reply).mp hmem
      exact (preparedReply_report cxt act hreports).records
    · intro hreports hfailed
      obtain ⟨hactive, hbackup⟩ := report_rotates cxt hperm hreports
      obtain ⟨hsame, hsame', hsilent⟩ := (hkept hreports).resolve_left hfailed
      refine ⟨hactive.trans hsame, hbackup.trans hsame', fun reply hmem => ?_⟩
      have hrv := ((report_encodes cxt act hreports reply).mp hmem).1
      rw [report_status cxt act hreports] at hrv
      split_ifs at hrv with htrigger
      · exact hsilent htrigger hrv
      · exact hfailed hrv

end Step

theorem bst_main_permute (asic : Nat → BVIEW_ASIC_CAPABILITIES) (env : Nat → Env) (unit : Nat) :
    PointersPermute ((bst_main asic env).unit unit) :=
  List.Perm.refl _

section Runs

variable (num_units unit : Nat)

-- From the start, in every run, the pointers stay a permutation of the three
-- buffers, and the history is kept by every message of the unit exactly when
-- each failed collection among them is one that cannot be seen.
theorem record_rotation_keeps_history (asic : Nat → BVIEW_ASIC_CAPABILITIES) (env : Nat → Env)
    (acts : List Action) :
    PointersPermute ((run (step num_units) (bst_main asic env) acts).unit unit) ∧
      (Along (step num_units) (OnUnit num_units unit KeepsHistory) (bst_main asic env) acts ↔
        Along (step num_units) (OnUnit num_units unit CollectionKept) (bst_main asic env)
          acts) := by
  have hstart := bst_main_permute asic env unit
  refine ⟨?_, ?_, ?_⟩
  · have hany : Along (step num_units) (OnUnit num_units unit fun _ _ => True)
        (bst_main asic env) acts :=
      along_of_forall (fun _ _ _ _ => trivial) _ acts
    exact unit_invariant PointersPermute (fun cxt act hperm _ => unitStep_permute cxt act hperm)
      _ acts hstart hany
  · exact unit_along PointersPermute (fun cxt act hperm _ => unitStep_permute cxt act hperm)
      (fun cxt act hperm h => (keeps_history_iff cxt act hperm).mp h) _ acts hstart
  · exact unit_along PointersPermute (fun cxt act hperm _ => unitStep_permute cxt act hperm)
      (fun cxt act hperm h => (keeps_history_iff cxt act hperm).mpr h) _ acts hstart

end Runs

-- The southbound call fails after it filled in a time stamp.
def failedCollection : Env :=
  { sampleEnv with
    sbapi_bst_snapshot_get := (.FAILURE, { BVIEW_BST_REPORT_SNAPSHOT.zero with tv := 1 }) }

def sample_trigger_report : BVIEW_BST_REQUEST_MSG :=
  trigger_report_msg (trigger_collect_msg 0 "device" "data")

-- A failed collection is rotated into the history all the same, and the trigger
-- report of it is sent as well.
theorem failed_collection_rotates :
    ¬ Along (step 1) (OnUnit 1 0 KeepsHistory) sampleStart
      [.bst_send_request sample_trigger_report, .bst_app_main failedCollection] := by
  intro hkeeps
  have hkept := hkeeps.2.1 (.app sample_trigger_report failedCollection) rfl
  obtain ⟨hactive, -, -⟩ := hkept.failed rfl (show BVIEW_STATUS.FAILURE ≠ .SUCCESS by decide)
  exact absurd (congrArg BVIEW_BST_REPORT_SNAPSHOT.tv hactive) (by decide)

end BroadView.Bst
