import BroadView.Bst.Limiter

namespace BroadView.Bst

open Transition

section Step

variable (cxt : BVIEW_BST_UNIT_CXT)

@[simp] theorem countTrigger_self (index : BST_ID) :
    (countTrigger index cxt).bst_trigger_count index = cxt.bst_trigger_count index + 1 := by
  simp [countTrigger]

theorem trigger_timer_add_in_use (env : Env) (ht : env.timer.Succeed) :
    (bst_trigger_timer_add env cxt).2.bst_trigger_timer.in_use = true := by
  unfold bst_trigger_timer_add
  split
  · assumption
  · exact start_in_use env.timer _ _ ht

theorem spent_of_count (index : BST_ID) (h : cxt.bst_trigger_count index ≠ 0) : ¬ Unspent cxt :=
  fun hu => h (hu index)

-- A suppressed known pair has spent some of its budget.
theorem suppressed_spent (info : BVIEW_BST_TRIGGER_INFO) (hknown : KnownPair info)
    (hsend : send_trigger info cxt = false) : ¬ Unspent cxt := by
  intro hu
  simp [unspent_forwards cxt info hu hknown] at hsend

-- What the trigger thread does with a pair that the map holds.
theorem process_known_live (msg : BVIEW_BST_REQUEST_MSG) (env : Env)
    (hlive : LimiterLive cxt) (ht : env.timer.Succeed) (hknown : KnownPair msg.triggerInfo) :
    LimiterLive (bst_process_trigger msg env cxt).cxt := by
  intro hlimit hspent
  have hlimit' : triggerLimit cxt ≠ 0 := by
    simpa only [triggerLimit, process_trigger_config] using hlimit
  obtain ⟨index, hindex⟩ := Option.isSome_iff_exists.mp hknown
  unfold bst_process_trigger at hspent ⊢
  simp only [hindex, trigger_slot, trigger_limit, Option.getD_some] at hspent ⊢
  split at hspent
  · rename_i hsend
    simp only [hsend, if_true]
    split at hspent
    · rename_i hpost
      simp only [hpost, if_true]
      split
      · exact trigger_timer_add_in_use cxt env ht
      · rename_i hcount
        apply hlive hlimit'
        apply spent_of_count cxt index
        exact fun hz => hcount ⟨hz, hlimit'⟩
    · rename_i hpost
      simp only [hpost]
      exact hlive hlimit' hspent
  · rename_i hsend
    simp only [hsend]
    exact hlive hlimit' (suppressed_spent cxt msg.triggerInfo hknown (by simpa using hsend))

-- A pair the map does not hold is charged to the slot of the device counter
-- and starts no timer.
theorem process_absent (msg : BVIEW_BST_REQUEST_MSG) (env : Env)
    (habsent : ¬ KnownPair msg.triggerInfo) :
    (bst_process_trigger msg env cxt).cxt = countTrigger .DEVICE cxt := by
  have hnone : bst_trigger_index_get msg.triggerInfo.realm msg.triggerInfo.counter = none := by
    simpa [KnownPair] using habsent
  simp [bst_process_trigger, send_trigger, hnone, trigger_slot]

-- When a message keeps the limiter live: an absent pair is charged only with
-- the limiter off or its timer running, and the limit is raised from zero only
-- with nothing spent or the timer running.
structure LimiterSafe (act : UnitAction) : Prop where
  absent : act.msg.msg_type = .TRIGGER_COLLECT → ¬ KnownPair act.msg.triggerInfo →
    triggerLimit cxt = 0 ∨ cxt.bst_trigger_timer.in_use = true
  raise : triggerLimit cxt = 0 → nextLimit cxt act ≠ 0 →
    Unspent cxt ∨ cxt.bst_trigger_timer.in_use = true

variable {cxt}

theorem live_of_same {cxt' : BVIEW_BST_UNIT_CXT} (hsame : SameLimiter cxt cxt')
    (hlimit : triggerLimit cxt' = triggerLimit cxt) : LimiterLive cxt' ↔ LimiterLive cxt := by
  unfold LimiterLive Unspent
  rw [hsame.count, hsame.timer, hlimit]

theorem unitStep_live_iff (act : UnitAction) :
    LimiterLive (unitStep cxt act) ↔ LimiterLive (handledCxt cxt act) := by
  obtain ⟨hsame, hlimit⟩ := unitStep_limiter cxt act
  exact live_of_same hsame hlimit

theorem collect_live (act : UnitAction) (htype : act.msg.msg_type = .TRIGGER_COLLECT)
    (hlive : LimiterLive cxt) (ht : act.env.timer.Succeed) (hsafe : LimiterSafe cxt act) :
    LimiterLive (handledCxt cxt act) := by
  have hcxt : handledCxt cxt act = (bst_process_trigger act.msg act.env cxt).cxt := by
    simp [handledCxt, htype, bst_type_api_get]
  rw [hcxt]
  by_cases hknown : KnownPair act.msg.triggerInfo
  · exact process_known_live cxt act.msg act.env hlive ht hknown
  · rw [process_absent cxt act.msg act.env hknown]
    intro hlimit _
    rcases hsafe.absent htype hknown with hzero | huse
    · exact absurd hzero hlimit
    · exact huse

-- The step lemma: one message keeps the limiter live.
theorem limiter_live_step (act : UnitAction) (hlive : LimiterLive cxt)
    (ht : act.env.timer.Succeed) (hsafe : LimiterSafe cxt act) :
    LimiterLive (unitStep cxt act) := by
  rw [unitStep_live_iff]
  by_cases hcollect : act.msg.msg_type = .TRIGGER_COLLECT
  · exact collect_live act hcollect hlive ht hsafe
  by_cases hclear : act.msg.msg_type = .CLEAR_TRIGGER_COUNT
  · have hcxt : handledCxt cxt act = (bst_clear_trigger_count act.msg act.env cxt).cxt := by
      simp [handledCxt, hclear, bst_type_api_get]
    rw [hcxt]
    exact fun _ hspent => absurd (clear_unspent cxt act.msg act.env) hspent
  · obtain ⟨hcount, htimer⟩ := handled_same_limiter cxt act hcollect hclear
    intro hlimit hspent
    rw [handled_limit] at hlimit
    rw [Unspent, hcount] at hspent
    rw [htimer]
    by_cases hzero : triggerLimit cxt = 0
    · exact (hsafe.raise hzero hlimit).resolve_left hspent
    · exact hlive hzero hspent

-- The condition is exact: a message that breaks it leaves spent budget that no
-- timer returns.
theorem limiter_live_step_iff (act : UnitAction) (hlive : LimiterLive cxt)
    (ht : act.env.timer.Succeed) :
    LimiterLive (unitStep cxt act) ↔ LimiterSafe cxt act := by
  refine ⟨fun hnext => ?_, limiter_live_step act hlive ht⟩
  rw [unitStep_live_iff] at hnext
  constructor
  · intro htype habsent
    by_contra hnot
    obtain ⟨hlimit, hidle⟩ := not_or.mp hnot
    have hunspent : Unspent cxt := by
      by_contra hspent
      exact hidle (hlive hlimit hspent)
    have hcxt : handledCxt cxt act = countTrigger .DEVICE cxt := by
      simp [handledCxt, htype, bst_type_api_get, process_absent cxt act.msg act.env habsent]
    rw [hcxt] at hnext
    apply hidle
    apply hnext hlimit
    apply spent_of_count _ .DEVICE
    rw [countTrigger_self, hunspent .DEVICE]
    decide
  · intro hzero hraised
    by_contra hnot
    obtain ⟨hspent, hidle⟩ := not_or.mp hnot
    have hcollect : act.msg.msg_type ≠ .TRIGGER_COLLECT := by
      intro htype
      exact hraised (by simp [nextLimit, htype, hzero])
    have hclear : act.msg.msg_type ≠ .CLEAR_TRIGGER_COUNT := by
      intro htype
      exact hraised (by simp [nextLimit, htype, hzero])
    obtain ⟨hcount, htimer⟩ := handled_same_limiter cxt act hcollect hclear
    apply hidle
    rw [← htimer]
    apply hnext
    · rwa [handled_limit]
    · rwa [Unspent, hcount]

end Step

section Runs

variable (num_units unit : Nat) (asic : Nat → BVIEW_ASIC_CAPABILITIES) (env : Nat → Env)

theorem start_limiter_live : LimiterLive ((bst_main asic env).unit unit) :=
  fun _ hspent => absurd (fun _ => rfl) hspent

-- Timer calls succeed while a message of the unit is handled.
def TimersSucceed (_cxt : BVIEW_BST_UNIT_CXT) (act : UnitAction) : Prop := act.env.timer.Succeed

-- In every run of the application whose trigger messages and limit changes are
-- safe, spent budget is always going to be returned.
theorem trigger_limiter_never_starves (acts : List Action)
    (hsafe : Along (step num_units)
      (OnUnit num_units unit fun cxt act => TimersSucceed cxt act ∧ LimiterSafe cxt act)
      (bst_main asic env) acts) :
    NeverStarves ((run (step num_units) (bst_main asic env) acts).unit unit) := by
  apply live_never_starves
  refine unit_invariant LimiterLive (fun cxt act hlive hcond => ?_) _ _
    (start_limiter_live unit asic env) hsafe
  exact limiter_live_step act hlive hcond.1 hcond.2

end Runs

def knownPairRun : List Action :=
  [.bst_trigger_send_request (trigger_collect_msg 0 "device" "data"), .bst_trigger_main sampleEnv]

theorem trigger_limiter_never_starves_known_pair :
    NeverStarves ((run (step 1) sampleStart knownPairRun).unit 0) := by
  apply trigger_limiter_never_starves 1 0 (fun _ => sampleAsic) (fun _ => sampleEnv) knownPairRun
  refine ⟨fun unitAct h => ?_, fun unitAct h => ?_, trivial⟩
  · cases h
  · cases h
    refine ⟨sampleEnv_timer, fun _ habsent => absurd (by decide) habsent, fun hlimit => ?_⟩
    exact absurd hlimit (by decide)

def absentPairRun : List Action :=
  [.bst_trigger_send_request (trigger_collect_msg 0 "egress-cpu-queue" "cpu-buffer-count"),
    .bst_trigger_main sampleEnv]

-- A single trigger of a pair the map lacks spends budget of the device counter
-- with no timer running.
theorem absent_pair_starves :
    Along (step 1) (OnUnit 1 0 TimersSucceed) sampleStart absentPairRun ∧
      ¬ NeverStarves ((run (step 1) sampleStart absentPairRun).unit 0) := by
  constructor
  · apply along_env fun env => env.timer.Succeed
    simp [absentPairRun, Action.env, sampleEnv_timer]
  · intro h
    have hspent : ¬ Unspent ((run (step 1) sampleStart absentPairRun).unit 0) :=
      spent_of_count _ .DEVICE (by decide)
    have huse := (h (by decide) hspent).1
    exact absurd huse (by decide)

end BroadView.Bst
