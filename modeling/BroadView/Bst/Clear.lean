import BroadView.Bst.Collector

namespace BroadView.Bst

open Transition

section Clear

variable (cxt : BVIEW_BST_UNIT_CXT) (act : UnitAction)

def currentRecord (cxt : BVIEW_BST_UNIT_CXT) : BVIEW_BST_REPORT_SNAPSHOT :=
  cxt.records cxt.stats_current_record_ptr

-- The snapshot taken last, after the messages of a unit.
def lastTaken (taken : BVIEW_BST_REPORT_SNAPSHOT) (acts : List UnitAction) :
    BVIEW_BST_REPORT_SNAPSHOT :=
  acts.foldl (fun taken act => if act.reports then act.env.sbapi_bst_snapshot_get.2 else taken)
    taken

-- Until the next clear, an incremental report is relative to the snapshot
-- taken last, which is the given one as long as no other report takes any.
def NextRelativeTo (taken : BVIEW_BST_REPORT_SNAPSHOT) : Prop :=
  ∀ between : List UnitAction, (∀ other ∈ between, other.msg.msg_type ≠ .CLEAR_STATS) →
    ∀ report reply active base, .encode reply ∈ unitEmits (run unitStep cxt between) report →
      reply.response = .report active (some base) → base = lastTaken taken between

def ClearKeepsHistory : Prop :=
  act.msg.msg_type = .CLEAR_STATS →
    (act.env.sbapi_bst_clear_stats ≠ .SUCCESS →
      SameRecords cxt (unitStep cxt act) ∧
        NextRelativeTo (unitStep cxt act) (activeRecord cxt)) ∧
    (act.env.sbapi_bst_clear_stats = .SUCCESS → NextRelativeTo (unitStep cxt act) .zero)

-- A clear that fails has nothing to lose.
def ClearHarmless : Prop :=
  act.msg.msg_type = .CLEAR_STATS →
    act.env.sbapi_bst_clear_stats = .SUCCESS ∨
      activeRecord cxt = .zero ∧ backupRecord cxt = .zero ∧ currentRecord cxt = .zero

variable {cxt act}

theorem PointersPermute.eq_or (hperm : PointersPermute cxt) (ptr : RecordPtr) :
    ptr = cxt.stats_active_record_ptr ∨ ptr = cxt.stats_backup_record_ptr ∨
      ptr = cxt.stats_current_record_ptr := by
  have hmem := hperm.mem_iff.mpr (List.mem_finRange ptr)
  simpa only [List.mem_cons, List.not_mem_nil, or_false] using hmem

theorem run_permute (acts : List UnitAction) (hperm : PointersPermute cxt) :
    PointersPermute (run unitStep cxt acts) :=
  run_invariant PointersPermute (fun cxt act h _ => unitStep_permute cxt act h) cxt acts hperm
    (along_of_forall (fun _ _ => trivial) cxt acts)

theorem run_active (acts : List UnitAction) (hperm : PointersPermute cxt)
    (hclear : ∀ act ∈ acts, act.msg.msg_type ≠ .CLEAR_STATS) :
    activeRecord (run unitStep cxt acts) = lastTaken (activeRecord cxt) acts := by
  induction acts generalizing cxt with
  | nil => rfl
  | cons act rest ih =>
      have hrest := ih (unitStep_permute cxt act hperm)
        fun other hmem => hclear other (List.mem_cons_of_mem act hmem)
      rw [run_cons, hrest, lastTaken, lastTaken, List.foldl_cons]
      cases hreports : act.reports with
      | true => rw [if_pos rfl, (report_rotates cxt hperm hreports).1]
      | false =>
          have hsame := others_same_records cxt act hperm hreports
            (hclear act List.mem_cons_self)
          rw [if_neg Bool.false_ne_true, hsame.1]

-- The base of an incremental report is the active record it is taken after.
theorem incremental_base {report : UnitAction} {reply : BVIEW_BST_RESPONSE_MSG}
    {active base : BVIEW_BST_REPORT_SNAPSHOT} (hperm : PointersPermute cxt)
    (hmem : .encode reply ∈ unitEmits cxt report)
    (hresponse : reply.response = .report active (some base)) : base = activeRecord cxt := by
  obtain ⟨hreplies, hsent⟩ := (mem_unitEmits_reply cxt report _ rfl).mp hmem
  obtain ⟨-, -, rfl⟩ := (mem_send_response_encode _ _ _).mp hsent
  obtain ⟨hreports, -⟩ := backup_periodic cxt report hreplies hresponse rfl
  obtain ⟨backup, hrecords, hbackup⟩ := (preparedReply_report cxt report hreports).records
  rw [hresponse] at hrecords
  cases hrecords
  rw [hbackup base rfl, (report_rotates cxt hperm hreports).2]

theorem next_relative_to_active (hperm : PointersPermute cxt) :
    NextRelativeTo cxt (activeRecord cxt) := by
  intro between hclear report reply active base hmem hresponse
  rw [incremental_base (run_permute between hperm) hmem hresponse, run_active between hperm hclear]

theorem clear_stats_step (hclear : act.msg.msg_type = .CLEAR_STATS) :
    unitStep cxt act = (bst_clear_stats_set act.msg act.env cxt).cxt := by
  have hreports : act.reports = false := by
    cases act with
    | app msg env => simp [UnitAction.reports, show msg.msg_type = _ from hclear]
    | trigger msg env => rfl
  rw [unitStep_eq, hreports, if_neg Bool.false_ne_true]
  simp [handledCxt, hclear, bst_type_api_get]

-- Whatever the southbound call answers, the three records are zero after it.
theorem clear_stats_zeroes (hperm : PointersPermute cxt) (ptr : RecordPtr) :
    (bst_clear_stats_set act.msg act.env cxt).cxt.records ptr = .zero := by
  simp only [bst_clear_stats_set, setRecord, Function.update_apply]
  rcases hperm.eq_or ptr with rfl | rfl | rfl <;> simp

theorem clear_keeps_history_iff (hperm : PointersPermute cxt) :
    ClearKeepsHistory cxt act ↔ ClearHarmless cxt act := by
  refine imp_congr_right fun hclear => ?_
  have hzero : ∀ ptr, (unitStep cxt act).records ptr = .zero := by
    rw [clear_stats_step hclear]
    exact clear_stats_zeroes hperm
  have hnext : NextRelativeTo (unitStep cxt act) .zero := by
    have hactive : activeRecord (unitStep cxt act) = .zero := hzero _
    rw [← hactive]
    exact next_relative_to_active (unitStep_permute cxt act hperm)
  by_cases hok : act.env.sbapi_bst_clear_stats = .SUCCESS
  · simp [hok, hnext]
  · simp only [hok, ne_eq, not_false_eq_true, true_implies, false_implies, and_true, false_or]
    constructor
    · rintro ⟨hsame, -⟩
      have hrecords : ∀ ptr, cxt.records ptr = .zero := fun ptr => by
        rw [← hsame.records]
        exact hzero ptr
      exact ⟨hrecords _, hrecords _, hrecords _⟩
    · rintro ⟨hactive, hbackup, hcurrent⟩
      rw [hactive]
      refine ⟨⟨funext fun ptr => ?_, ?_, ?_, ?_⟩, hnext⟩
      · rw [hzero ptr]
        rcases hperm.eq_or ptr with rfl | rfl | rfl
        · exact hactive.symm
        · exact hbackup.symm
        · exact hcurrent.symm
      all_goals
        rw [clear_stats_step hclear]
        rfl

end Clear

-- From the start, in every run, every clear of a unit keeps its history exactly
-- when each one that fails found the three records zero already.
theorem clear_keeps_history_run (num_units unit : Nat) (asic : Nat → BVIEW_ASIC_CAPABILITIES)
    (env : Nat → Env) (acts : List Action) :
    Along (step num_units) (OnUnit num_units unit ClearKeepsHistory) (bst_main asic env) acts ↔
      Along (step num_units) (OnUnit num_units unit ClearHarmless) (bst_main asic env) acts := by
  have hstart := bst_main_permute asic env unit
  constructor
  · exact unit_along PointersPermute (fun cxt act hperm _ => unitStep_permute cxt act hperm)
      (fun cxt act hperm h => (clear_keeps_history_iff hperm).mp h) _ acts hstart
  · exact unit_along PointersPermute (fun cxt act hperm _ => unitStep_permute cxt act hperm)
      (fun cxt act hperm h => (clear_keeps_history_iff hperm).mpr h) _ acts hstart

def failedClear : Env := { sampleEnv with sbapi_bst_clear_stats := .FAILURE }

def sample_clear_stats : BVIEW_BST_REQUEST_MSG :=
  RestRequest.bstjson_clear_bst_statistics.msg 1 0 7

-- The snapshot of a periodic report is gone after a clear that failed.
theorem failed_clear_zeroes :
    ¬ Along (step 1) (OnUnit 1 0 ClearKeepsHistory) sampleStart
      (reportActions sample_periodic 416 ++
        [.bst_send_request sample_clear_stats, .bst_app_main failedClear]) := by
  rintro ⟨-, -, -, hlast, -⟩
  have hkeeps := hlast _ rfl rfl
  have hsame := (hkeeps.1 (by decide)).1
  have hrecord := congrArg (·.snapshot_data.device.bufferCount) (congrFun hsame.records 2)
  revert hrecord
  decide +kernel

end BroadView.Bst
