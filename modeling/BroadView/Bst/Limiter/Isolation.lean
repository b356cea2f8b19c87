import BroadView.Bst.Limiter.Theorems
import BroadView.Ovsdb.Bid

namespace BroadView.Bst

open Transition

abbrev Pair := String × String

def pairOf (info : BVIEW_BST_TRIGGER_INFO) : Pair := (info.realm, info.counter)

def pairIndex (pair : Pair) : Option BST_ID := bst_trigger_index_get pair.1 pair.2

section Index

theorem index_get_mem {realm counter : String} {index : BST_ID}
    (h : bst_trigger_index_get realm counter = some index) :
    ⟨index, realm, counter⟩ ∈ bst_realm_index_map := by
  obtain ⟨entry, hfind, rfl⟩ := Option.map_eq_some_iff.mp h
  have hmem := List.mem_of_find?_eq_some hfind
  have hnames := List.find?_some hfind
  obtain ⟨rfl, rfl⟩ := of_decide_eq_true hnames
  exact hmem

-- No two entries of the map share a slot, so a slot has one pair.
theorem index_get_inj {pair pair' : Pair} {index : BST_ID} (h : pairIndex pair = some index)
    (h' : pairIndex pair' = some index) : pair = pair' := by
  have hslots : ∀ entry ∈ bst_realm_index_map, ∀ entry' ∈ bst_realm_index_map,
      entry.index = entry'.index → entry = entry' := by decide
  have heq := hslots _ (index_get_mem h) _ (index_get_mem h') rfl
  injection heq with _ hrealm hcounter
  exact Prod.ext hrealm hcounter

end Index

-- What the limiter decides from: the limit and the counts.
structure Budget where
  limit : Int32
  count : BST_ID → UInt32

inductive LimiterEvent where
  | trigger (pair : Pair) (posted : Bool)
  | clear
  | limit (value : Int32)
  deriving DecidableEq

namespace Budget

def forwards (budget : Budget) (pair : Pair) : Bool :=
  match pairIndex pair with
  | none => false
  | some index => !limitReached budget.limit (budget.count index)

def charge (index : BST_ID) (budget : Budget) : Budget :=
  { budget with count :=
      fun id => if id = index then budget.count id + 1 else budget.count id }

-- A forwarded trigger that the queue refuses is not charged.
def step (budget : Budget) : LimiterEvent → Budget
  | .trigger pair posted =>
      if budget.forwards pair && !posted then budget
      else budget.charge (trigger_slot (pairIndex pair))
  | .clear => { budget with count := fun _ => 0 }
  | .limit value => { budget with limit := value }

def decision (pair : Pair) (budget : Budget) : LimiterEvent → List Bool
  | .trigger other _ => if other = pair then [budget.forwards pair] else []
  | _ => []

end Budget

def budgetOf (cxt : BVIEW_BST_UNIT_CXT) : Budget := ⟨triggerLimit cxt, cxt.bst_trigger_count⟩

-- What a message means to the limiter of its unit.
def limiterEvents (act : UnitAction) : List LimiterEvent :=
  match act.msg.msg_type with
  | .TRIGGER_COLLECT => [.trigger (pairOf act.msg.triggerInfo) act.env.msgsnd]
  | .CLEAR_TRIGGER_COUNT => [.clear]
  | .SET_FEATURE =>
      if act.msg.config.configMask.TGR_RATE_LIMIT then [.limit act.msg.config.bstMaxTriggers]
      else []
  | .UPDATE_FEATURE =>
      let (got, mode) := act.env.sbapi_bst_config_get
      if got ≠ .SUCCESS then [] else [.limit mode.bstMaxTriggers]
  | _ => []

-- The decision bst_process_trigger takes about a trigger of the pair.
def decision (pair : Pair) (cxt : BVIEW_BST_UNIT_CXT) (act : UnitAction) : List Bool :=
  if act.msg.msg_type = .TRIGGER_COLLECT ∧ pairOf act.msg.triggerInfo = pair then
    [send_trigger act.msg.triggerInfo cxt]
  else []

def decisions (pair : Pair) (cxt : BVIEW_BST_UNIT_CXT) (history : List UnitAction) :
    List Bool :=
  outputs unitStep (decision pair) cxt history

section Simulation

variable (cxt : BVIEW_BST_UNIT_CXT)

theorem send_trigger_budget (info : BVIEW_BST_TRIGGER_INFO) :
    send_trigger info cxt = (budgetOf cxt).forwards (pairOf info) := rfl

theorem process_trigger_count (msg : BVIEW_BST_REQUEST_MSG) (env : Env) :
    (bst_process_trigger msg env cxt).cxt.bst_trigger_count =
      ((budgetOf cxt).step (.trigger (pairOf msg.triggerInfo) env.msgsnd)).count := by
  have hadd : (bst_trigger_timer_add env cxt).2.bst_trigger_count = cxt.bst_trigger_count := by
    unfold bst_trigger_timer_add
    split_ifs <;> rfl
  unfold bst_process_trigger Budget.step
  dsimp only
  rw [← send_trigger_budget]
  cases send_trigger msg.triggerInfo cxt <;> cases env.msgsnd
  · rfl
  · rfl
  · rfl
  · simp only [if_true, Bool.not_true, Bool.and_false, Bool.false_eq_true, if_false]
    split_ifs
    · simp only [countTrigger, hadd]
      rfl
    · rfl

theorem clear_count (msg : BVIEW_BST_REQUEST_MSG) (env : Env) :
    (bst_clear_trigger_count msg env cxt).cxt.bst_trigger_count = fun _ => 0 :=
  funext (clear_unspent cxt msg env)

theorem budget_simulates (act : UnitAction) :
    budgetOf (unitStep cxt act) = run Budget.step (budgetOf cxt) (limiterEvents act) := by
  obtain ⟨hsame, hlimit⟩ := unitStep_limiter cxt act
  have hview : budgetOf (unitStep cxt act) =
      ⟨nextLimit cxt act, (handledCxt cxt act).bst_trigger_count⟩ := by
    simp only [budgetOf, hsame.count, hlimit, handled_limit]
  rw [hview]
  by_cases hcollect : act.msg.msg_type = .TRIGGER_COLLECT
  · have hcount := process_trigger_count cxt act.msg act.env
    simp only [handledCxt, nextLimit, limiterEvents, hcollect, bst_type_api_get, hcount, run_cons,
      run_nil]
    simp only [Budget.step]
    split_ifs <;> rfl
  by_cases hclear : act.msg.msg_type = .CLEAR_TRIGGER_COUNT
  · simp only [handledCxt, nextLimit, limiterEvents, hclear, bst_type_api_get, clear_count]
    rfl
  rw [(handled_same_limiter cxt act hcollect hclear).count]
  simp only [nextLimit, limiterEvents]
  cases htype : act.msg.msg_type with
  | TRIGGER_COLLECT => exact absurd htype hcollect
  | CLEAR_TRIGGER_COUNT => exact absurd htype hclear
  | SET_FEATURE =>
      simp only [requestedLimit]
      split_ifs <;> rfl
  | UPDATE_FEATURE =>
      dsimp only
      split_ifs <;> rfl
  | _ => rfl

theorem decision_simulates (pair : Pair) (act : UnitAction) :
    decision pair cxt act =
      outputs Budget.step (Budget.decision pair) (budgetOf cxt) (limiterEvents act) := by
  cases htype : act.msg.msg_type with
  | TRIGGER_COLLECT =>
      simp only [decision, limiterEvents, htype, true_and, outputs_cons, outputs_nil,
        List.append_nil, Budget.decision]
      split_ifs with hpair
      · rw [send_trigger_budget, hpair]
      · rfl
  | SET_FEATURE =>
      simp only [decision, limiterEvents, htype, reduceCtorEq, false_and, if_false]
      split_ifs <;> rfl
  | UPDATE_FEATURE =>
      simp only [decision, limiterEvents, htype, reduceCtorEq, false_and, if_false]
      split_ifs <;> rfl
  | _ => simp [decision, limiterEvents, htype, Budget.decision]

theorem decisions_simulates (pair : Pair) (history : List UnitAction) :
    decisions pair cxt history =
      outputs Budget.step (Budget.decision pair) (budgetOf cxt)
        (history.flatMap limiterEvents) :=
  outputs_simulates budget_simulates (decision_simulates · pair) cxt history

end Simulation

section Isolation

variable (pair : Pair)

-- Everything the decisions about a pair may depend on.
def LimiterEvent.concerns : LimiterEvent → Bool
  | .trigger other _ => decide (other = pair)
  | _ => true

-- The two histories have the same limits, clears and triggers of the pair, in
-- the same order.
def AgreeOn (history history' : List UnitAction) : Prop :=
  (history.flatMap limiterEvents).filter (LimiterEvent.concerns pair) =
    (history'.flatMap limiterEvents).filter (LimiterEvent.concerns pair)

-- The other pairs that trigger in the history are among the given ones.
def OthersIn (others : Pair → Prop) (history : List UnitAction) : Prop :=
  ∀ other posted, .trigger other posted ∈ history.flatMap limiterEvents →
    other ≠ pair → others other

-- No trigger of the given other pairs can change a decision about this pair.
def Isolated (others : Pair → Prop) : Prop :=
  ∀ cxt history history', OthersIn pair others history → OthersIn pair others history' →
    AgreeOn pair history history' → decisions pair cxt history = decisions pair cxt history'

-- A trigger of another pair that is charged to another slot.
def Elsewhere (index : BST_ID) : LimiterEvent → Prop
  | .trigger other _ => other ≠ pair → trigger_slot (pairIndex other) ≠ index
  | _ => True

theorem charge_elsewhere (budget : Budget) (index slot : BST_ID) (h : slot ≠ index) :
    (budget.charge slot).count index = budget.count index := by
  simp [Budget.charge, Ne.symm h]

-- Budgets agree on a pair when they have the same limit and the same count in
-- its slot.
theorem known_unwinds (index : BST_ID) (hindex : pairIndex pair = some index) :
    Unwinds (Elsewhere pair index) (LimiterEvent.concerns pair)
      (fun b b' : Budget => b.limit = b'.limit ∧ b.count index = b'.count index)
      Budget.step (Budget.decision pair) where
  hidden := by
    intro b b' event hall hhidden hagree
    cases event with
    | trigger other posted =>
        have hne : other ≠ pair := by simpa [LimiterEvent.concerns] using hhidden
        simp only [Budget.step]
        split_ifs
        · exact hagree
        · exact ⟨hagree.1, (charge_elsewhere b index _ (hall hne)).trans hagree.2⟩
    | clear => cases hhidden
    | limit value => cases hhidden
  silent := by
    intro b event _ hhidden
    cases event with
    | trigger other posted =>
        have hne : other ≠ pair := by simpa [LimiterEvent.concerns] using hhidden
        simp [Budget.decision, hne]
    | clear => cases hhidden
    | limit value => cases hhidden
  preserved := by
    intro b b' event _ hvisible hagree
    obtain ⟨hlimit, hcount⟩ := hagree
    cases event with
    | trigger other posted =>
        have heq : other = pair := by simpa [LimiterEvent.concerns] using hvisible
        subst heq
        have hsame : b.forwards other = b'.forwards other := by
          simp only [Budget.forwards, hindex, hlimit, hcount]
        simp only [Budget.step, hsame, hindex, trigger_slot, Option.getD_some]
        split_ifs
        · exact ⟨hlimit, hcount⟩
        · exact ⟨hlimit, by simp [Budget.charge, hcount]⟩
    | clear => exact ⟨hlimit, rfl⟩
    | limit value => exact ⟨rfl, hcount⟩
  observed := by
    intro b b' event _ hvisible hagree
    obtain ⟨hlimit, hcount⟩ := hagree
    cases event with
    | trigger other posted => simp only [Budget.decision, Budget.forwards, hindex, hlimit, hcount]
    | clear => rfl
    | limit value => rfl

-- A pair the map lacks is never forwarded, whatever the budget.
theorem absent_unwinds (hindex : pairIndex pair = none) :
    Unwinds (fun _ => True) (LimiterEvent.concerns pair) (fun _ _ : Budget => True)
      Budget.step (Budget.decision pair) where
  hidden := fun _ _ _ _ _ _ => trivial
  silent := by
    intro b event _ hhidden
    cases event with
    | trigger other posted =>
        have hne : other ≠ pair := by simpa [LimiterEvent.concerns] using hhidden
        simp [Budget.decision, hne]
    | clear => cases hhidden
    | limit value => cases hhidden
  preserved := fun _ _ _ _ _ _ => trivial
  observed := by
    intro b b' event _ _ _
    cases event with
    | trigger other posted => simp only [Budget.decision, Budget.forwards, hindex]
    | clear => rfl
    | limit value => rfl

def devicePair : Pair := ("device", "data")

-- Another pair shares the slot of this one only when this one is the device
-- counter and the other is absent from the map.
theorem elsewhere_of_ne (index : BST_ID) (hindex : pairIndex pair = some index)
    (other : Pair) (hne : other ≠ pair) (h : pair = devicePair → pairIndex other ≠ none) :
    trigger_slot (pairIndex other) ≠ index := by
  intro hslot
  cases hother : pairIndex other with
  | none =>
      rw [hother] at hslot
      have hdevice : pairIndex devicePair = some index := by
        rw [← hslot]
        decide
      exact h (index_get_inj hindex hdevice) hother
  | some index' =>
      rw [hother] at hslot
      have heq : index' = index := hslot
      subst heq
      exact hne (index_get_inj hother hindex)

theorem isolated_of_no_absent (others : Pair → Prop)
    (h : pair = devicePair → ∀ other, others other → pairIndex other ≠ none) :
    Isolated pair others := by
  intro cxt history history' hin hin' hagree
  rw [decisions_simulates, decisions_simulates]
  cases hindex : pairIndex pair with
  | none =>
      exact (absent_unwinds pair hindex).outputs_eq _ _ _ _ _ _ trivial
        (fun _ _ => trivial) (fun _ _ => trivial) hagree
  | some index =>
      have hall : ∀ events : List UnitAction, OthersIn pair others events →
          ∀ event ∈ events.flatMap limiterEvents, Elsewhere pair index event := by
        intro events hevents event hmem
        cases event with
        | trigger other posted =>
            exact fun hne => elsewhere_of_ne pair index hindex other hne
              fun hdevice => h hdevice other (hevents other posted hmem hne)
        | clear => trivial
        | limit value => trivial
      exact (known_unwinds pair index hindex).outputs_eq _ _ _ _ _ _ ⟨rfl, rfl⟩
        (hall history hin) (hall history' hin') hagree

end Isolation

def triggerOf (pair : Pair) : UnitAction :=
  .trigger (trigger_collect_msg 0 pair.1 pair.2) sampleEnv

theorem limiterEvents_triggerOf (pair : Pair) :
    limiterEvents (triggerOf pair) = [.trigger pair true] := rfl

theorem absent_ne_device {other : Pair} (h : pairIndex other = none) : other ≠ devicePair := by
  rintro rfl
  exact absurd h (by decide)

-- One absent pair before a device trigger uses up the limit of one.
theorem absent_pair_decisions (other : Pair) (h : pairIndex other = none) :
    decisions devicePair (sampleStart.unit 0) [triggerOf other, triggerOf devicePair] = [false] ∧
      decisions devicePair (sampleStart.unit 0) [triggerOf devicePair] = [true] := by
  simp only [decisions_simulates, List.flatMap_cons, List.flatMap_nil, limiterEvents_triggerOf,
    List.append_nil, List.cons_append, List.nil_append, outputs_cons, outputs_nil,
    Budget.decision, absent_ne_device h, if_false, if_true, Budget.step, Budget.forwards, h,
    trigger_slot, Option.getD_none, Bool.false_and, Bool.false_eq_true]
  exact ⟨rfl, rfl⟩

-- Exactly the device counter is not isolated, and only from absent pairs.
theorem trigger_isolation_iff (pair : Pair) (others : Pair → Prop) :
    Isolated pair others ↔
      (pair = devicePair → ∀ other, others other → pairIndex other ≠ none) := by
  refine ⟨?_, isolated_of_no_absent pair others⟩
  rintro hiso rfl other hother habsent
  have hdec := hiso (sampleStart.unit 0) [triggerOf other, triggerOf devicePair]
    [triggerOf devicePair] ?_ ?_ ?_
  · rw [(absent_pair_decisions other habsent).1, (absent_pair_decisions other habsent).2] at hdec
    cases hdec
  · intro q posted hq hne
    simp only [List.flatMap_cons, List.flatMap_nil, limiterEvents_triggerOf, List.append_nil,
      List.cons_append, List.nil_append, List.mem_cons, LimiterEvent.trigger.injEq,
      List.not_mem_nil, or_false] at hq
    rcases hq with ⟨rfl, -⟩ | ⟨rfl, -⟩
    · exact hother
    · exact absurd rfl hne
  · intro q posted hq hne
    simp only [List.flatMap_cons, List.flatMap_nil, limiterEvents_triggerOf, List.append_nil,
      List.mem_cons, LimiterEvent.trigger.injEq, List.not_mem_nil, or_false] at hq
    exact absurd hq.1 hne
  · simp [AgreeOn, limiterEvents_triggerOf, LimiterEvent.concerns, absent_ne_device habsent]

-- The plugin emits a pair that the map lacks: two histories of a unit with the
-- same single device trigger decide differently about it.
theorem plugin_pair_not_isolated :
    Ovsdb.bst_ovsdb_trigger_callback 14 1 0 =
        some { realm := "egress-cpu-queue", counter := "cpu-buffer-count", port := 1, queue := 0 } ∧
      AgreeOn devicePair
        [triggerOf ("egress-cpu-queue", "cpu-buffer-count"), triggerOf devicePair]
        [triggerOf devicePair] ∧
      decisions devicePair (sampleStart.unit 0)
          [triggerOf ("egress-cpu-queue", "cpu-buffer-count"), triggerOf devicePair] ≠
        decisions devicePair (sampleStart.unit 0) [triggerOf devicePair] := by
  refine ⟨rfl, by simp [AgreeOn, limiterEvents_triggerOf, LimiterEvent.concerns, devicePair], ?_⟩
  obtain ⟨hwith, hwithout⟩ := absent_pair_decisions ("egress-cpu-queue", "cpu-buffer-count") rfl
  rw [hwith, hwithout]
  decide

end BroadView.Bst
