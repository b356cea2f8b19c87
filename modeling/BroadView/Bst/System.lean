import BroadView.Transition
import BroadView.Bst.Main

namespace BroadView.Bst

open Transition

structure BVIEW_BST_CXT where
  unit : Nat → BVIEW_BST_UNIT_CXT
  recvMsgQid : List BVIEW_BST_REQUEST_MSG
  recvTriggerMsgQid : List BVIEW_BST_REQUEST_MSG

-- REST handlers, the collection timer and the plugin post to the BST queue;
-- the ASIC callback and the trigger timer post to the trigger queue. Each
-- thread takes one message at a time and handles it to the end.
inductive Action where
  | bst_send_request (msg : BVIEW_BST_REQUEST_MSG)
  | bst_trigger_send_request (msg : BVIEW_BST_REQUEST_MSG)
  | bst_app_main (env : Env)
  | bst_trigger_main (env : Env)

-- A message handled by one of the two threads.
inductive UnitAction where
  | app (msg : BVIEW_BST_REQUEST_MSG) (env : Env)
  | trigger (msg : BVIEW_BST_REQUEST_MSG) (env : Env)

namespace UnitAction

def msg : UnitAction → BVIEW_BST_REQUEST_MSG
  | .app msg _ => msg
  | .trigger msg _ => msg

def env : UnitAction → Env
  | .app _ env => env
  | .trigger _ env => env

def handle (cxt : BVIEW_BST_UNIT_CXT) : UnitAction → BVIEW_BST_UNIT_CXT × List Effect
  | .app msg env => handle_message msg env cxt
  | .trigger msg env => handle_trigger_message msg env cxt

end UnitAction

def unitStep (cxt : BVIEW_BST_UNIT_CXT) (act : UnitAction) : BVIEW_BST_UNIT_CXT :=
  (act.handle cxt).1

def unitEmits (cxt : BVIEW_BST_UNIT_CXT) (act : UnitAction) : List Effect :=
  (act.handle cxt).2

section System

variable (num_units : Nat)

-- The trigger thread asks for the number of units anew for each message.
def trigger_num_units (env : Env) : Nat :=
  if env.sbapi_system_num_units_get = .SUCCESS then num_units else 0

-- The message a thread takes from its queue, when its unit exists.
def taken (state : BVIEW_BST_CXT) : Action → Option UnitAction
  | .bst_app_main env =>
      match state.recvMsgQid with
      | [] => none
      | msg :: _ => if num_units ≤ msg.unit then none else some (.app msg env)
  | .bst_trigger_main env =>
      match state.recvTriggerMsgQid with
      | [] => none
      | msg :: _ =>
          if trigger_num_units num_units env ≤ msg.unit then none else some (.trigger msg env)
  | _ => none

def unitsAfter (state : BVIEW_BST_CXT) (act : Action) : Nat → BVIEW_BST_UNIT_CXT :=
  match taken num_units state act with
  | none => state.unit
  | some unitAct =>
      Function.update state.unit unitAct.msg.unit (unitStep (state.unit unitAct.msg.unit) unitAct)

def emits (state : BVIEW_BST_CXT) (act : Action) : List Effect :=
  match taken num_units state act with
  | some unitAct => unitEmits (state.unit unitAct.msg.unit) unitAct
  | none =>
      match act, state.recvMsgQid with
      | .bst_app_main env, msg :: _ => (bst_send_response (unknown_unit_reply msg) env).2
      | _, _ => []

def Effect.posted : Effect → Option BVIEW_BST_REQUEST_MSG
  | .bst_send_request msg => some msg
  | _ => none

def step (state : BVIEW_BST_CXT) (act : Action) : BVIEW_BST_CXT :=
  let posted := (emits num_units state act).filterMap Effect.posted
  let unit := unitsAfter num_units state act
  match act with
  | .bst_send_request msg =>
      { state with recvMsgQid := state.recvMsgQid ++ [msg] }
  | .bst_trigger_send_request msg =>
      { state with recvTriggerMsgQid := state.recvTriggerMsgQid ++ [msg] }
  | .bst_app_main _ =>
      { unit
        recvMsgQid := state.recvMsgQid.tail ++ posted
        recvTriggerMsgQid := state.recvTriggerMsgQid }
  | .bst_trigger_main _ =>
      { unit
        recvMsgQid := state.recvMsgQid ++ posted
        recvTriggerMsgQid := state.recvTriggerMsgQid.tail }

-- The application as bst_main and bst_app_config_init leave it.
def bst_main (asic : Nat → BVIEW_ASIC_CAPABILITIES) (env : Nat → Env) : BVIEW_BST_CXT :=
  { unit := fun unit => (bst_app_config_init unit (env unit) (allocated (asic unit))).cxt
    recvMsgQid := []
    recvTriggerMsgQid := [] }

-- The messages handled for one unit.
def takenFor (unit : Nat) (state : BVIEW_BST_CXT) (act : Action) : Option UnitAction :=
  match taken num_units state act with
  | none => none
  | some unitAct => if unitAct.msg.unit = unit then some unitAct else none

theorem step_unit (unit : Nat) (state : BVIEW_BST_CXT) (act : Action) :
    (step num_units state act).unit unit =
      match takenFor num_units unit state act with
      | none => state.unit unit
      | some unitAct => unitStep (state.unit unit) unitAct := by
  have hunit : (step num_units state act).unit = unitsAfter num_units state act := by
    cases act <;> rfl
  rw [hunit]
  simp only [unitsAfter, takenFor]
  cases taken num_units state act with
  | none => rfl
  | some unitAct =>
      by_cases hu : unitAct.msg.unit = unit
      · subst hu
        simp
      · simp [hu, Function.update_of_ne (Ne.symm hu)]

-- A condition on the messages handled for one unit, as a condition on actions.
def OnUnit (unit : Nat) (cond : BVIEW_BST_UNIT_CXT → UnitAction → Prop)
    (state : BVIEW_BST_CXT) (act : Action) : Prop :=
  ∀ unitAct, takenFor num_units unit state act = some unitAct →
    cond (state.unit unit) unitAct

variable {num_units}

theorem onUnit_of_taken {unit : Nat} {cond : BVIEW_BST_UNIT_CXT → UnitAction → Prop}
    {state : BVIEW_BST_CXT} {act : Action} {unitAct : UnitAction}
    (htaken : takenFor num_units unit state act = some unitAct)
    (hcond : cond (state.unit unit) unitAct) : OnUnit num_units unit cond state act := by
  intro other hother
  obtain rfl := Option.some.inj (htaken.symm.trans hother)
  exact hcond

-- A unit invariant that its messages keep under a condition holds of the unit
-- after every run of the application that meets the condition.
theorem unit_invariant {unit : Nat} (inv : BVIEW_BST_UNIT_CXT → Prop)
    {cond : BVIEW_BST_UNIT_CXT → UnitAction → Prop}
    (hstep : ∀ cxt act, inv cxt → cond cxt act → inv (unitStep cxt act))
    (state : BVIEW_BST_CXT) (acts : List Action) (hinv : inv (state.unit unit))
    (hcond : Along (step num_units) (OnUnit num_units unit cond) state acts) :
    inv ((run (step num_units) state acts).unit unit) := by
  apply run_invariant (fun s => inv (s.unit unit)) _ state acts hinv hcond
  intro s act hs hc
  rw [step_unit]
  cases htaken : takenFor num_units unit s act with
  | none => exact hs
  | some unitAct => exact hstep _ _ hs (hc unitAct htaken)

-- The same for what holds at every message handled for the unit.
theorem unit_along {unit : Nat} (inv : BVIEW_BST_UNIT_CXT → Prop)
    {cond prop : BVIEW_BST_UNIT_CXT → UnitAction → Prop}
    (hstep : ∀ cxt act, inv cxt → cond cxt act → inv (unitStep cxt act))
    (hprop : ∀ cxt act, inv cxt → cond cxt act → prop cxt act)
    (state : BVIEW_BST_CXT) (acts : List Action) (hinv : inv (state.unit unit))
    (hcond : Along (step num_units) (OnUnit num_units unit cond) state acts) :
    Along (step num_units) (OnUnit num_units unit prop) state acts := by
  apply along_of_invariant (fun s => inv (s.unit unit)) _ _ state acts hinv hcond
  · intro s act hs hc
    rw [step_unit]
    cases htaken : takenFor num_units unit s act with
    | none => exact hs
    | some unitAct => exact hstep _ _ hs (hc unitAct htaken)
  · intro s act hs hc unitAct htaken
    exact hprop _ _ hs (hc unitAct htaken)

-- The answers an action brings with it.
def Action.env : Action → Option Env
  | .bst_app_main env => some env
  | .bst_trigger_main env => some env
  | _ => none

theorem takenFor_eq {unit : Nat} {state : BVIEW_BST_CXT} {act : Action} {unitAct : UnitAction}
    (h : takenFor num_units unit state act = some unitAct) :
    taken num_units state act = some unitAct ∧ unitAct.msg.unit = unit := by
  unfold takenFor at h
  split at h
  · cases h
  · rename_i other hother
    split_ifs at h with hu
    cases h
    exact ⟨hother, hu⟩

theorem taken_env {state : BVIEW_BST_CXT} {act : Action} {unitAct : UnitAction}
    (h : taken num_units state act = some unitAct) : act.env = some unitAct.env := by
  cases act with
  | bst_app_main env =>
      simp only [taken] at h
      split at h
      · cases h
      · split_ifs at h
        cases h
        rfl
  | bst_trigger_main env =>
      simp only [taken] at h
      split at h
      · cases h
      · split_ifs at h
        cases h
        rfl
  | bst_send_request msg => cases h
  | bst_trigger_send_request msg => cases h

-- A condition on the answers alone can be read off the actions.
theorem along_env {unit : Nat} (prop : Env → Prop) (state : BVIEW_BST_CXT)
    (acts : List Action) (h : ∀ act ∈ acts, ∀ env, act.env = some env → prop env) :
    Along (step num_units) (OnUnit num_units unit fun _ unitAct => prop unitAct.env)
      state acts := by
  induction acts generalizing state with
  | nil => trivial
  | cons act rest ih =>
      refine ⟨fun unitAct htaken => ?_, ih _ fun a ha => h a (List.mem_cons_of_mem act ha)⟩
      exact h act List.mem_cons_self _ (taken_env (takenFor_eq htaken).1)

end System

section Samples

-- A southbound configuration with a trigger limit of one and every realm off.
def sampleMode : BVIEW_BST_CONFIG :=
  { enableStatsMonitoring := true
    enableDeviceStatsMonitoring := true
    enableIngressStatsMonitoring := true
    enableEgressStatsMonitoring := true
    mode := .CURRENT
    enablePeriodicCollection := true
    collectionPeriod := 5
    statsInPercentage := 0
    statUnitsInCells := 1
    bstMaxTriggers := 1
    sendSnapshotOnTrigger := 1
    triggerTransmitInterval := 1
    sendIncrementalReport := 1
    trackMask := 0
    trackInit := false }

-- Every call out of the application succeeds.
def sampleEnv : Env :=
  { sbapi_bst_config_get := (.SUCCESS, sampleMode)
    sbapi_bst_config_set := .SUCCESS
    sbapi_bst_snapshot_get := (.SUCCESS, .zero)
    sbapi_bst_threshold_get := (.SUCCESS, .zero)
    sbapi_bst_threshold_set := fun _ => .SUCCESS
    sbapi_bst_clear_thresholds := .SUCCESS
    sbapi_bst_clear_stats := .SUCCESS
    sbapi_system_max_buf_snapshot_get := default
    sbapi_system_num_units_get := .SUCCESS
    timer := { timer_create := some 1, timer_settime := true, timer_delete := true }
    msgsnd := true
    encode := fun _ => (.SUCCESS, some [])
    rest_response_send := .SUCCESS }

def sampleAsic : BVIEW_ASIC_CAPABILITIES :=
  { numPorts := 1, numUnicastQueues := 1, numUnicastQueueGroups := 1, numMulticastQueues := 1
    numServicePools := 1, numCpuQueues := 1, numRqeQueues := 1, numPriorityGroups := 1
    cellToByteConv := 208 }

def sampleStart : BVIEW_BST_CXT := bst_main (fun _ => sampleAsic) (fun _ => sampleEnv)

-- The message the ASIC callback posts for a trigger.
def trigger_collect_msg (unit : Nat) (realm counter : String) : BVIEW_BST_REQUEST_MSG :=
  { BVIEW_BST_REQUEST_MSG.zeroed .TRIGGER_COLLECT unit with
    triggerInfo := { realm, counter, port := 1, queue := 0 } }

theorem sampleEnv_timer : sampleEnv.timer.Succeed := ⟨rfl, rfl, rfl⟩

end Samples

end BroadView.Bst
