import BroadView.Bst.Limiter.Isolation
import BroadView.Ovsdb.Config
import BroadView.RateLimit

namespace BroadView.Bst

open Transition

-- The trigger that a message brings, when it brings one.
def UnitAction.arrival (act : UnitAction) : List Pair :=
  if act.msg.msg_type = .TRIGGER_COLLECT then [pairOf act.msg.triggerInfo] else []

-- The pair of a trigger report request posted for the unit.
def Effect.reportPair (unit : Nat) : Effect → Option Pair
  | .bst_send_request msg =>
      if msg.msg_type = .TRIGGER_REPORT ∧ msg.unit = unit then some (pairOf msg.triggerInfo)
      else none
  | _ => none

-- Between two clears: the limit is this one, no message clears the counts, and
-- the queue takes what bst_process_trigger posts.
structure InWindow (limit : Int32) (cxt : BVIEW_BST_UNIT_CXT) (act : UnitAction) : Prop where
  limit : triggerLimit cxt = limit
  noClear : act.msg.msg_type ≠ .CLEAR_TRIGGER_COUNT
  posted : act.msg.msg_type = .TRIGGER_COLLECT → act.env.msgsnd = true

def pairSlot (pair : Pair) : BST_ID := trigger_slot (pairIndex pair)

def knownPair (pair : Pair) : Bool := (pairIndex pair).isSome

section Step

variable (cxt : BVIEW_BST_UNIT_CXT) {limit : Int32} {act : UnitAction}

-- In a window every trigger is charged to its slot, and nothing else is.
theorem window_count (h : InWindow limit cxt act) :
    (unitStep cxt act).bst_trigger_count =
      act.arrival.foldl (fun count pair => (Budget.charge (pairSlot pair) ⟨limit, count⟩).count)
        cxt.bst_trigger_count := by
  have hsame := (unitStep_limiter cxt act).1
  rw [hsame.count]
  by_cases hcollect : act.msg.msg_type = .TRIGGER_COLLECT
  · have hcount := process_trigger_count cxt act.msg act.env
    simp only [handledCxt, hcollect, bst_type_api_get, hcount, UnitAction.arrival, if_true,
      List.foldl_cons, List.foldl_nil, Budget.step, h.posted hcollect, Bool.not_true,
      Bool.and_false, Bool.false_eq_true, if_false]
    rfl
  · rw [(handled_same_limiter cxt act hcollect h.noClear).count, UnitAction.arrival,
      if_neg hcollect, List.foldl_nil]

theorem filterMap_reportPair_replies (reply : BVIEW_BST_RESPONSE_MSG) (env : Env) (unit : Nat) :
    (bst_send_response reply env).2.filterMap (Effect.reportPair unit) = [] := by
  apply List.filterMap_eq_nil_iff.mpr
  intro effect hmem
  have hreply := send_response_reply reply env effect hmem
  cases effect with
  | bst_send_request msg => cases hreply
  | _ => rfl

-- The reports a message posts are those of the trigger it brings, when that is
-- within the limit.
theorem window_reports (h : InWindow limit cxt act) :
    (unitEmits cxt act).filterMap (Effect.reportPair act.msg.unit) =
      act.arrival.filter (budgetOf cxt).forwards := by
  have hreplies : (if act.replies then (bst_send_response (preparedReply cxt act) act.env).2
      else []).filterMap (Effect.reportPair act.msg.unit) = [] := by
    split_ifs
    · exact filterMap_reportPair_replies _ _ _
    · rfl
  rw [unitEmits_eq, List.filterMap_append, hreplies, List.append_nil]
  by_cases hcollect : act.msg.msg_type = .TRIGGER_COLLECT
  · have heffects : handledEffects cxt act =
        if (budgetOf cxt).forwards (pairOf act.msg.triggerInfo) then
          [.bst_send_request (trigger_report_msg act.msg)]
        else [] := by
      simp only [handledEffects, hcollect, bst_type_api_get, process_trigger_effects,
        h.posted hcollect, Bool.and_true, send_trigger_budget]
    rw [heffects, UnitAction.arrival, if_pos hcollect]
    cases hforwards : (budgetOf cxt).forwards (pairOf act.msg.triggerInfo) with
    | true => simp [hforwards, Effect.reportPair, trigger_report_msg, BVIEW_BST_REQUEST_MSG.zeroed]
    | false => simp [hforwards]
  · rw [UnitAction.arrival, if_neg hcollect]
    apply List.filterMap_eq_nil_iff.mpr
    intro effect hmem
    cases handled_effect_cases cxt act hmem with
    | write | expiry => rfl
    | report type => exact absurd type hcollect

theorem other_unit_reports (act : UnitAction) {unit : Nat} (hne : act.msg.unit ≠ unit) :
    (unitEmits cxt act).filterMap (Effect.reportPair unit) = [] := by
  have hhandled : (handledEffects cxt act).filterMap (Effect.reportPair unit) = [] := by
    apply List.filterMap_eq_nil_iff.mpr
    intro effect hmem
    cases handled_effect_cases cxt act hmem with
    | write | expiry => rfl
    | report => exact if_neg fun h => hne h.2
  rw [unitEmits_eq, List.filterMap_append, hhandled]
  split_ifs
  · exact filterMap_reportPair_replies _ _ _
  · rfl

-- As long as no count wraps around, the limiter is a limiter on natural
-- numbers; a limit is taken as unsigned.
theorem forwards_eq_admits (used : BST_ID → Nat) (pair : Pair) (hlimit : limit ≠ 0)
    (hcxt : triggerLimit cxt = limit) (hused : ∀ id, (cxt.bst_trigger_count id).toNat = used id) :
    (budgetOf cxt).forwards pair =
      RateLimit.admits pairSlot knownPair (toUnsigned limit).toNat used pair := by
  cases hindex : pairIndex pair with
  | none => simp [Budget.forwards, RateLimit.admits, knownPair, hindex]
  | some index =>
      have hslot : pairSlot pair = index := by simp [pairSlot, hindex, trigger_slot]
      have hle : toUnsigned limit ≤ cxt.bst_trigger_count index ↔
          (toUnsigned limit).toNat ≤ used index := by
        rw [UInt32.le_iff_toNat_le, hused]
      rw [Bool.eq_iff_iff]
      simp [Budget.forwards, RateLimit.admits, knownPair, hindex, hslot, limitReached, budgetOf,
        hcxt, hlimit, hle]

theorem charge_toNat (used : BST_ID → Nat) (count : BST_ID → UInt32) (pair : Pair)
    (hused : ∀ id, (count id).toNat = used id) (hroom : ∀ id, used id + 1 < 2 ^ 32) (id : BST_ID) :
    ((Budget.charge (pairSlot pair) ⟨limit, count⟩).count id).toNat =
      RateLimit.charge pairSlot used pair id := by
  by_cases h : id = pairSlot pair
  · subst h
    have hadd : (count (pairSlot pair) + 1).toNat = used (pairSlot pair) + 1 := by
      rw [UInt32.toNat_add, hused, UInt32.toNat_one, Nat.mod_eq_of_lt (hroom _)]
    simpa [Budget.charge] using hadd
  · rw [RateLimit.charge_of_ne used h]
    simpa [Budget.charge, h] using hused id

end Step

section Run

variable (num_units unit : Nat)

-- The triggers handled for the unit, in order.
def arrivals (state : BVIEW_BST_CXT) (acts : List Action) : List Pair :=
  outputs (step num_units)
    (fun s act => (takenFor num_units unit s act).toList.flatMap UnitAction.arrival) state acts

-- The trigger reports posted for the unit, in order.
def reports (state : BVIEW_BST_CXT) (acts : List Action) : List Pair :=
  (outputs (step num_units) (emits num_units) state acts).filterMap (Effect.reportPair unit)

theorem emits_reports (state : BVIEW_BST_CXT) (act : Action) :
    (emits num_units state act).filterMap (Effect.reportPair unit) =
      match takenFor num_units unit state act with
      | none => []
      | some unitAct =>
          (unitEmits (state.unit unit) unitAct).filterMap (Effect.reportPair unit) := by
  unfold emits takenFor
  cases taken num_units state act with
  | none =>
      split
      · exact absurd ‹_› (by simp)
      · split
        · exact filterMap_reportPair_replies _ _ _
        · rfl
  | some unitAct =>
      by_cases hu : unitAct.msg.unit = unit
      · subst hu
        simp
      · simp [hu, other_unit_reports _ unitAct hu]

variable {num_units unit}

-- What a window posts is what a fixed window of that size admits of what
-- arrives; the counts stay below 2^32 by assumption.
theorem window_admits {limit : Int32} (hlimit : limit ≠ 0) (state : BVIEW_BST_CXT)
    (acts : List Action) (used : BST_ID → Nat)
    (hused : ∀ id, ((state.unit unit).bst_trigger_count id).toNat = used id)
    (hwindow : Along (step num_units) (OnUnit num_units unit (InWindow limit)) state acts)
    (hroom : ∀ id, used id + (arrivals num_units unit state acts).length < 2 ^ 32) :
    reports num_units unit state acts =
      RateLimit.admitted pairSlot knownPair (toUnsigned limit).toNat used
        (arrivals num_units unit state acts) := by
  induction acts generalizing state used with
  | nil => rfl
  | cons act rest ih =>
      have hact := hwindow.1
      have hunit := step_unit num_units unit state act
      have hemits := emits_reports num_units unit state act
      simp only [reports, arrivals, outputs_cons, List.filterMap_append] at hroom ⊢ ih
      rw [hemits]
      cases htaken : takenFor num_units unit state act with
      | none =>
          rw [htaken] at hunit
          simp only [htaken, Option.toList_none, List.flatMap_nil, List.nil_append] at hroom ⊢
          exact ih _ used (by rwa [hunit]) hwindow.2 hroom
      | some unitAct =>
          have hin := hact unitAct htaken
          have hsame := (takenFor_eq htaken).2
          have hreports := window_reports (state.unit unit) hin
          have hcount := window_count (state.unit unit) hin
          rw [hsame] at hreports
          rw [htaken] at hunit
          simp only [htaken, Option.toList_some, List.flatMap_singleton, hreports] at hroom ⊢
          by_cases hcollect : unitAct.msg.msg_type = .TRIGGER_COLLECT
          · have harrival : unitAct.arrival = [pairOf unitAct.msg.triggerInfo] := if_pos hcollect
            generalize pairOf unitAct.msg.triggerInfo = pair at harrival
            simp only [harrival, List.foldl_cons, List.foldl_nil] at hcount
            simp only [harrival, List.singleton_append, List.length_cons] at hroom ⊢
            have hone : ∀ id, used id + 1 < 2 ^ 32 := fun id => by
              have := hroom id
              omega
            have hcharged : ∀ id, (((step num_units state act).unit unit).bst_trigger_count
                id).toNat = RateLimit.charge pairSlot used pair id := by
              intro id
              rw [hunit, hcount]
              exact charge_toNat used _ pair hused hone id
            have hleft : ∀ id, RateLimit.charge pairSlot used pair id +
                (arrivals num_units unit (step num_units state act) rest).length < 2 ^ 32 := by
              intro id
              have hle : RateLimit.charge pairSlot used pair id ≤ used id + 1 :=
                RateLimit.charge_le used pair id
              have hroom' := hroom id
              simp only [arrivals]
              omega
            have hforwards := forwards_eq_admits (state.unit unit) used pair hlimit hin.limit hused
            rw [ih _ _ hcharged hwindow.2 hleft, RateLimit.admitted, List.filter_singleton,
              hforwards]
            cases RateLimit.admits pairSlot knownPair (toUnsigned limit).toNat used pair <;> rfl
          · have harrival : unitAct.arrival = [] := if_neg hcollect
            simp only [harrival, List.foldl_nil] at hcount
            simp only [harrival, List.nil_append, List.filter_nil] at hroom ⊢
            exact ih _ used (by rwa [hunit, hcount]) hwindow.2 hroom

end Run

-- Known pairs never share a slot.
theorem pairSlot_inj {pair other : Pair} (hpair : knownPair pair = true)
    (hother : knownPair other = true) (h : pairSlot other = pairSlot pair) : other = pair := by
  obtain ⟨index, hindex⟩ := Option.isSome_iff_exists.mp hpair
  obtain ⟨index', hindex'⟩ := Option.isSome_iff_exists.mp hother
  have heq : index' = index := by simpa [pairSlot, trigger_slot, hindex, hindex'] using h
  subst heq
  exact index_get_inj hindex' hindex

-- The number of triggers a nonzero limit lets through: C compares it as
-- unsigned.
def windowSize (limit : Int32) : Int :=
  if limit.toInt < 0 then limit.toInt + 2 ^ 32 else limit.toInt

theorem toUnsigned_toNat (limit : Int32) : ((toUnsigned limit).toNat : Int) = windowSize limit := by
  have hint : limit.toInt = limit.toBitVec.toInt := rfl
  have hlt := limit.toBitVec.isLt
  have hcases := BitVec.toInt_eq_toNat_cond limit.toBitVec
  rw [← hint, Int32.toNat_toBitVec] at hcases
  rw [Int32.toNat_toBitVec] at hlt
  unfold windowSize toUnsigned
  split_ifs at hcases ⊢ <;> omega

section Exact

variable (num_units unit : Nat) (limit : Int32) (state : BVIEW_BST_CXT) (clear : Action)
  (cleared : UnitAction) (acts : List Action)

-- From a clear on, as long as no further clear comes and the limit stays, a
-- known pair is reported at most as often as the limit says, and if nothing but
-- known pairs arrive, exactly as often as it arrives or the limit says.
theorem trigger_limit_exact (hlimit : limit ≠ 0)
    (hclear : takenFor num_units unit state clear = some cleared)
    (htype : cleared.msg.msg_type = .CLEAR_TRIGGER_COUNT)
    (hwindow : Along (step num_units) (OnUnit num_units unit (InWindow limit))
      (step num_units state clear) acts)
    (hfew : (arrivals num_units unit (step num_units state clear) acts).length < 2 ^ 32)
    (pair : Pair) (hknown : knownPair pair = true) :
    ((reports num_units unit (step num_units state clear) acts).count pair : Int) ≤
        windowSize limit ∧
      ((∀ other ∈ arrivals num_units unit (step num_units state clear) acts,
          knownPair other = true) →
        ((reports num_units unit (step num_units state clear) acts).count pair : Int) =
          min ((arrivals num_units unit (step num_units state clear) acts).count pair : Int)
            (windowSize limit)) := by
  have hunspent : ∀ id,
      (((step num_units state clear).unit unit).bst_trigger_count id).toNat = 0 := by
    intro id
    have hcleared : handledCxt (state.unit unit) cleared =
        (bst_clear_trigger_count cleared.msg cleared.env (state.unit unit)).cxt := by
      simp [handledCxt, htype, bst_type_api_get]
    rw [step_unit, hclear, (unitStep_limiter _ _).1.count, hcleared, clear_count]
    rfl
  have hadmits := window_admits hlimit (step num_units state clear) acts (fun _ => 0) hunspent
    hwindow (fun _ => by omega)
  rw [hadmits, ← toUnsigned_toNat]
  constructor
  · have hle := @RateLimit.admitted_count_le _ _ _ pairSlot knownPair (toUnsigned limit).toNat _ _
      (fun _ => 0)
      (arrivals num_units unit (step num_units state clear) acts) pair
    omega
  · intro hall
    have heq := @RateLimit.admitted_count_eq _ _ _ pairSlot knownPair (toUnsigned limit).toNat _ _
      (fun _ => 0)
      (arrivals num_units unit (step num_units state clear) acts) pair hknown
      (fun other hother hslot => pairSlot_inj hknown (hall other hother) hslot)
    rw [heq, Nat.sub_zero]
    omega

end Exact

def clear_trigger_msg : BVIEW_BST_REQUEST_MSG := .zeroed .CLEAR_TRIGGER_COUNT 0

-- A clear and two device triggers wait in the queue of the trigger thread.
def clearedStart : BVIEW_BST_CXT :=
  { sampleStart with
    recvTriggerMsgQid := [clear_trigger_msg, trigger_collect_msg 0 "device" "data",
      trigger_collect_msg 0 "device" "data"] }

theorem second_trigger_suppressed :
    ((reports 1 0 (step 1 clearedStart (.bst_trigger_main sampleEnv))
        [.bst_trigger_main sampleEnv, .bst_trigger_main sampleEnv]).count devicePair : Int) =
      min 2 1 := by
  have hexact := trigger_limit_exact 1 0 1 clearedStart (.bst_trigger_main sampleEnv)
    (.trigger clear_trigger_msg sampleEnv)
    [.bst_trigger_main sampleEnv, .bst_trigger_main sampleEnv] (by decide) rfl rfl
    ⟨fun unitAct h => by cases h; exact ⟨rfl, by decide, fun _ => rfl⟩,
      fun unitAct h => by cases h; exact ⟨rfl, by decide, fun _ => rfl⟩, trivial⟩
    (by decide) devicePair (by decide)
  exact hexact.2 (by decide)

-- Another client has set the limit to -1, which the plugin takes as it is.
def negativeLimitStart : BVIEW_BST_CXT :=
  run (step 1) sampleStart
    [.bst_send_request (.zeroed .UPDATE_FEATURE 0),
      .bst_app_main { sampleEnv with
        sbapi_bst_config_get := (.SUCCESS, { sampleMode with bstMaxTriggers := -1 }) },
      .bst_trigger_send_request clear_trigger_msg,
      .bst_trigger_send_request (trigger_collect_msg 0 "device" "data")]

-- The one device trigger that arrives is reported, which is more often than -1.
theorem negative_limit_exceeded :
    (∀ config, (Ovsdb.bst_system_bufmon_config_update
      [("threshold_trigger_rate_limit".toList, "-1".toList)] config).config.bstMaxTriggers = -1) ∧
    takenFor 1 0 negativeLimitStart (.bst_trigger_main sampleEnv) =
      some (.trigger clear_trigger_msg sampleEnv) ∧
    Along (step 1) (OnUnit 1 0 (InWindow (-1)))
      (step 1 negativeLimitStart (.bst_trigger_main sampleEnv)) [.bst_trigger_main sampleEnv] ∧
    arrivals 1 0 (step 1 negativeLimitStart (.bst_trigger_main sampleEnv))
      [.bst_trigger_main sampleEnv] = [devicePair] ∧
    ¬ ((reports 1 0 (step 1 negativeLimitStart (.bst_trigger_main sampleEnv))
        [.bst_trigger_main sampleEnv]).count devicePair : Int) ≤ (-1 : Int32).toInt := by
  refine ⟨fun config => rfl, rfl, ⟨fun unitAct h => ?_, trivial⟩, by decide, by decide⟩
  cases h
  exact ⟨rfl, by decide, fun _ => rfl⟩

end BroadView.Bst
