import BroadView.Ovsdb.Bufmon.Lemmas
import Mathlib.Data.List.Forall2

namespace BroadView.Ovsdb

open BroadView.Bst CString Transition

section Calls

variable (row : Row)

def Row.Triggered (row : Row) : Prop := row.values.status = some "triggered".toList

instance : Decidable row.Triggered := inferInstanceAs (Decidable (_ = _))

-- The callbacks that the plugin makes for a row it looks at.
def Row.calls : List (Int32 × BVIEW_BST_TRIGGER_INFO) :=
  match row.decoded with
  | some (bid, port, queue) =>
      if row.Triggered then
        (bst_ovsdb_trigger_callback bid port (queue - 1)).toList.map
          fun triggerInfo => (row.key.hw_unit_id.toInt32, triggerInfo)
      else []
  | none => []

theorem stringColumn_triggered (status : Option (List Char)) :
    stringColumn status = .JSON_STRING "triggered".toList ↔ status = some "triggered".toList := by
  cases status <;> simp [stringColumn]

theorem track_triggers (scan : TableScan) (realm : BVIEW_BST_REALM_ID) :
    (scan.track realm).triggers = scan.triggers := by
  unfold TableScan.track
  split <;> rfl

theorem track_row_triggers (update : RowUpdate) (bid : Nat) (scan : TableScan) :
    (track_row update bid scan).triggers = scan.triggers := by
  unfold track_row
  split
  · split
    · exact track_triggers scan _
    · rfl
  · rfl

theorem scan_triggers (scan : TableScan) :
    (row.scan scan).triggers = scan.triggers ++ row.calls := by
  cases hdecoded : row.decoded with
  | none => simp [row.scan_of_not_decoded scan hdecoded, Row.calls, hdecoded]
  | some key =>
      obtain ⟨bid, port, queue⟩ := key
      have hstatus : OVSDB_GET_COLUMN (row_update none (some row)) (·.status) =
          some (.JSON_STRING "triggered".toList) ↔ row.Triggered := by
        rw [get_column_eq]
        simp only [selected_some, Option.bind_some, Row.columns, Option.some.injEq]
        exact stringColumn_triggered row.values.status
      -- neither the mask nor the cell touches the callbacks made so far
      have hkept : ∀ asic, (store_row (row_update none (some row)) asic bid port queue
          (track_row (row_update none (some row)) bid scan)).triggers = scan.triggers := by
        intro asic
        exact track_row_triggers _ bid scan
      rw [row.scan_of_decoded scan hdecoded, bufmon_row, trigger_row]
      simp only [Row.calls, hdecoded]
      by_cases htriggered : row.Triggered
      · rw [if_pos (hstatus.mpr htriggered), if_pos htriggered]
        cases bst_ovsdb_trigger_callback bid port (queue - 1) with
        | none => simp [hkept]
        | some triggerInfo => simp [hkept]
      · rw [if_neg (mt hstatus.mp htriggered), if_neg htriggered, hkept, List.append_nil]

theorem foldl_triggers (transitions : List (Option Row × Option Row)) (scan : TableScan) :
    ((transitions.map fun (before, after) => row_update before after).foldl bufmon_row_update
        scan).triggers =
      scan.triggers ++ transitions.flatMap fun (before, after) =>
        (selected before after).elim [] Row.calls := by
  induction transitions generalizing scan with
  | nil => simp
  | cons transition rest ih =>
      obtain ⟨before, after⟩ := transition
      rw [List.map_cons, List.foldl_cons, ih, bufmon_row_update_eq, List.flatMap_cons]
      cases hselected : selected before after with
      | none => simp [hselected]
      | some row => simp [hselected, scan_triggers]

theorem monitor_triggers (state : Monitor) (message : Message) :
    state.triggers message =
      (state.table.transitions message).flatMap fun (before, after) =>
        (selected before after).elim [] Row.calls := by
  rw [Monitor.triggers, Monitor.received, bst_ovsdb_cache_update_table, BufmonTable.row_updates,
    foldl_triggers, List.nil_append]

end Calls

section Delivery

-- The call for a row carries its unit, its realm and counter, the port of a
-- port-indexed counter and the queue or index counted from 0.
structure Delivers (row : Row) (call : Int32 × BVIEW_BST_TRIGGER_INFO) : Prop where
  unit : call.1 = row.key.hw_unit_id.toInt32
  info : ∃ bid entry first second, Names row.key.name bid entry first second ∧
    call.2.realm = entry.realm_name ∧ call.2.counter = entry.counter_name ∧
    (entry.is_double_indexed = true → call.2.port = first ∧ call.2.queue = second - 1) ∧
    (entry.is_double_indexed = false → entry.is_indexed = true → call.2.queue = first - 1)

-- The rows whose status becomes triggered in a transition. A row whose name is
-- no key belongs to no counter.
def becoming (transition : Option Row × Option Row) : List Row :=
  match transition.2 with
  | none => []
  | some row =>
      if row.Triggered ∧ row.decoded.isSome ∧ ¬ (transition.1.any fun row => row.Triggered)
      then [row] else []

-- The row was triggered before, and the plugin looks at a triggered row again.
def Repeats (transition : Option Row × Option Row) : Prop :=
  transition.1.any (fun row => row.Triggered) = true ∧
    ∃ row, selected transition.1 transition.2 = some row ∧ row.Triggered ∧ row.decoded.isSome

def transitionCalls (transition : Option Row × Option Row) :
    List (Int32 × BVIEW_BST_TRIGGER_INFO) :=
  (selected transition.1 transition.2).elim [] Row.calls

theorem calls_triggered {row : Row} (htriggered : row.Triggered)
    (hdecoded : row.decoded.isSome = true) : ∃ call, row.calls = [call] ∧ Delivers row call := by
  obtain ⟨⟨bid, port, queue⟩, hkey⟩ := Option.isSome_iff_exists.mp hdecoded
  obtain ⟨hinfo, -⟩ := row.decoded_bid hkey
  obtain ⟨-, entry, first, second, hnames, hnumbers⟩ := row_info_get_row hinfo
  obtain ⟨-, hport, hqueue, -, -⟩ := decoded_cell hnames.1 hnumbers 0
  have hparams := bid_tab_params_of_entry hnames.1
  refine ⟨_, by
      simp only [Row.calls, hkey, htriggered, if_true, bst_ovsdb_trigger_callback, hparams]
      rfl, rfl, bid, entry, first, second, hnames, rfl, rfl, ?_, ?_⟩
  · intro hd
    simp [hport, hqueue, hd]
  · intro hd hi
    simp [hqueue, hd]

theorem calls_eq_nil {row : Row} (h : ¬ (row.Triggered ∧ row.decoded.isSome = true)) :
    row.calls = [] := by
  unfold Row.calls
  cases hkey : row.decoded with
  | none => rfl
  | some key =>
      have hnot : ¬ row.Triggered := fun htriggered => h ⟨htriggered, by simp [hkey]⟩
      simp [hnot]

theorem transition_delivers {transition : Option Row × Option Row} (h : ¬ Repeats transition) :
    List.Forall₂ Delivers (becoming transition) (transitionCalls transition) := by
  obtain ⟨before, after⟩ := transition
  cases after with
  | none =>
      -- a deleted row that was not triggered makes no call
      cases before with
      | none => exact List.Forall₂.nil
      | some row =>
          have hcalls : row.calls = [] := calls_eq_nil fun hrow =>
            h ⟨by simpa using hrow.1, row, rfl, hrow⟩
          simp [becoming, transitionCalls, hcalls]
  | some row =>
      by_cases hrow : row.Triggered ∧ row.decoded.isSome = true
      · have hbefore : ¬ (before.any fun row => row.Triggered) = true := fun hany =>
          h ⟨hany, row, rfl, hrow⟩
        obtain ⟨call, hcalls, hdelivers⟩ := calls_triggered hrow.1 hrow.2
        have hbecoming : becoming (before, some row) = [row] := by
          simp only [becoming]
          rw [if_pos ⟨hrow.1, hrow.2, hbefore⟩]
        simp [hbecoming, transitionCalls, hcalls, hdelivers]
      · have hbecoming : becoming (before, some row) = [] := by
          simp only [becoming]
          rw [if_neg fun hall => hrow ⟨hall.1, hall.2.1⟩]
        simp [hbecoming, transitionCalls, calls_eq_nil hrow]

theorem transition_repeats {transition : Option Row × Option Row} (h : Repeats transition) :
    (becoming transition).length < (transitionCalls transition).length := by
  obtain ⟨hbefore, row, hselected, htriggered, hdecoded⟩ := h
  obtain ⟨call, hcalls, -⟩ := calls_triggered htriggered hdecoded
  have hbecoming : becoming transition = [] := by
    unfold becoming
    split
    · rfl
    · rw [if_neg fun hall => hall.2.2 hbefore]
  simp [hbecoming, transitionCalls, hselected, hcalls]

end Delivery

section Lists

variable {α β γ : Type*} {related : α → β → Prop} {left : γ → List α} {right : γ → List β}
  {bad : γ → Prop}

theorem flatMap_length_le (hgood : ∀ c, ¬ bad c → List.Forall₂ related (left c) (right c))
    (hbad : ∀ c, bad c → (left c).length < (right c).length) (cs : List γ) :
    (cs.flatMap left).length ≤ (cs.flatMap right).length := by
  induction cs with
  | nil => exact Nat.le_refl 0
  | cons c rest ih =>
      have hhead : (left c).length ≤ (right c).length := by
        by_cases hc : bad c
        · exact Nat.le_of_lt (hbad c hc)
        · exact Nat.le_of_eq (hgood c hc).length_eq
      simp only [List.flatMap_cons, List.length_append]
      omega

-- Pieces that agree when they are good and overshoot when they are bad agree as
-- a whole exactly when none is bad.
theorem forall₂_flatMap_iff (hgood : ∀ c, ¬ bad c → List.Forall₂ related (left c) (right c))
    (hbad : ∀ c, bad c → (left c).length < (right c).length) (cs : List γ) :
    List.Forall₂ related (cs.flatMap left) (cs.flatMap right) ↔ ∀ c ∈ cs, ¬ bad c := by
  constructor
  · intro hall c hc hbadc
    obtain ⟨before, after, rfl⟩ := List.append_of_mem hc
    have hlength := hall.length_eq
    have hbefore := flatMap_length_le hgood hbad before
    have hafter := flatMap_length_le hgood hbad after
    have hpiece := hbad c hbadc
    simp only [List.flatMap_append, List.flatMap_cons, List.length_append] at hlength
    omega
  · intro hnone
    induction cs with
    | nil => exact List.Forall₂.nil
    | cons c rest ih =>
        rw [List.flatMap_cons, List.flatMap_cons]
        exact List.rel_append (hgood c (hnone c List.mem_cons_self))
          (ih fun c' hc' => hnone c' (List.mem_cons_of_mem c hc'))

end Lists

section Runs

def Monitor.transitions (state : Monitor) (message : Message) :
    List (Option Row × Option Row) :=
  state.table.transitions message

-- The rows that become triggered by a message, in the order of its entries.
def Monitor.becoming (state : Monitor) (message : Message) : List Row :=
  (state.transitions message).flatMap Ovsdb.becoming

-- No entry of the message deletes a row whose status is triggered, or modifies
-- one whose status was and stays triggered.
def NoRepeat (state : Monitor) (message : Message) : Prop :=
  ∀ transition ∈ state.transitions message, ¬ Repeats transition

-- Over any run, the callbacks are those of the rows that become triggered, one
-- for each, exactly when no message repeats a triggered row.
theorem trigger_delivery_exact_iff (state : Monitor) (messages : List Message) :
    List.Forall₂ Delivers (outputs Monitor.step Monitor.becoming state messages)
        (outputs Monitor.step Monitor.triggers state messages) ↔
      Along Monitor.step NoRepeat state messages := by
  have htriggers : Monitor.triggers =
      fun state message => (state.transitions message).flatMap transitionCalls :=
    funext fun state => funext fun message => monitor_triggers state message
  have hbecoming : Monitor.becoming =
      fun state message => (state.transitions message).flatMap Ovsdb.becoming := rfl
  rw [htriggers, hbecoming, outputs_flatMap, outputs_flatMap,
    forall₂_flatMap_iff (fun _ => transition_delivers) (fun _ => transition_repeats)]
  exact (along_forall_iff _ state messages).symm

def alarmedQueue : Row :=
  { key := { name := "egress-uc-queue/uc-buffer-count/5/NONE".toList, hw_unit_id := 0 }
    values :=
      { counter_value := some 100
        trigger_threshold := some 80
        enabled := some true
        status := some "triggered".toList } }

-- The row is inserted, and its counter grows while its status stays triggered.
def alarmedQueueGrows : List Message :=
  [[(0, .insert alarmedQueue)],
    [(0, .modify { alarmedQueue.values with counter_value := some 101 })]]

def alarm : Int32 × BVIEW_BST_TRIGGER_INFO :=
  (0, { realm := "egress-uc-queue", counter := "uc-buffer-count", port := 0, queue := 4 })

theorem counter_change_repeats_trigger :
    outputs Monitor.step Monitor.becoming .initial alarmedQueueGrows = [alarmedQueue] ∧
      outputs Monitor.step Monitor.triggers .initial alarmedQueueGrows = [alarm, alarm] ∧
      ¬ List.Forall₂ Delivers (outputs Monitor.step Monitor.becoming .initial alarmedQueueGrows)
        (outputs Monitor.step Monitor.triggers .initial alarmedQueueGrows) := by
  have hbecoming : outputs Monitor.step Monitor.becoming .initial alarmedQueueGrows =
      [alarmedQueue] := by
    decide +kernel
  have htriggers : outputs Monitor.step Monitor.triggers .initial alarmedQueueGrows =
      [alarm, alarm] := by
    decide +kernel
  refine ⟨hbecoming, htriggers, fun hall => ?_⟩
  have hlength := hall.length_eq
  rw [hbecoming, htriggers] at hlength
  cases hlength

end Runs

end BroadView.Ovsdb
