import BroadView.Ovsdb.Bufmon.Lemmas
import BroadView.Transition
import BroadView.Writes
import Mathlib.Data.Nat.Bitwise

namespace BroadView.Ovsdb

open BroadView.Bst Transition

section Row

variable (row : Row) {bid : Nat} {port queue : Int32}

-- The cell that the name of a row leads to.
def Row.address : Option Int :=
  row.decoded.bind fun (bid, port, queue) =>
    bst_ovsdb_cache_row_get row.key.hw_unit_id.toInt32 bid port queue

def Row.default_threshold : UInt64 :=
  row.decoded.elim 0 fun (bid, _, _) => bst_ovsdb_default_threshold_get bid

-- The current values of a row, an empty threshold counting as the default.
def Row.cell : BVIEW_OVSDB_BID_INFO :=
  { stat := (row.values.counter_value.getD 0).toUInt64
    threshold := row.values.trigger_threshold.elim row.default_threshold Int64.toUInt64 }

-- What the cell of a deleted row has to hold.
def Row.cleared : BVIEW_OVSDB_BID_INFO :=
  { stat := 0, threshold := row.default_threshold }

-- The realm that a row tracks, when it is enabled.
def Row.tracked : Option BVIEW_BST_REALM_ID :=
  if row.values.enabled = some true then
    row.decoded.bind fun (bid, _, _) =>
      (bid_tab_params[bid]?).bind fun params => bst_ovsdb_realm_id_get params.realm_name
  else none

def Row.Tracks (bit : Nat) : Prop := ∃ realm, row.tracked = some realm ∧ realm.toNat = bit

theorem booleanColumn_true (enabled : Option Bool) :
    booleanColumn enabled = .JSON_TRUE ↔ enabled = some true := by
  rcases enabled with - | (- | -) <;> simp [booleanColumn]

theorem integerColumn_array (value : Option Int64) :
    integerColumn value = .JSON_ARRAY ↔ value = none := by
  cases value <;> simp [integerColumn]

theorem integerOrZero_integerColumn (value : Option Int64) :
    integerOrZero (some (integerColumn value)) = (value.getD 0).toUInt64 := by
  cases value <;> rfl

theorem Row.cell_eq (h : row.decoded = some (bid, port, queue)) :
    row.cell =
      { stat := integerOrZero (some (integerColumn row.values.counter_value))
        threshold :=
          if some (integerColumn row.values.trigger_threshold) = some .JSON_ARRAY then
            bst_ovsdb_default_threshold_get bid
          else integerOrZero (some (integerColumn row.values.trigger_threshold)) } := by
  simp only [Row.cell, Row.default_threshold, h, integerOrZero_integerColumn, Option.some.injEq,
    integerColumn_array]
  cases row.values.trigger_threshold <;> simp

-- A decoded name always leads to a cell.
theorem Row.address_isSome (h : row.decoded.isSome = true) : row.address.isSome = true := by
  obtain ⟨⟨bid, port, queue⟩, hkey⟩ := Option.isSome_iff_exists.mp h
  obtain ⟨hinfo, -⟩ := row.decoded_bid hkey
  obtain ⟨-, entry, first, second, hnames, hnumbers⟩ := row_info_get_row hinfo
  obtain ⟨-, -, -, -, hcell⟩ := decoded_cell hnames.1 hnumbers row.key.hw_unit_id.toInt32
  simp [Row.address, hkey, hcell]

end Row

section Scan

variable (row : Row) (scan : TableScan)

-- The mask of the message is part of the mask of the cache.
def TableScan.Nested (scan : TableScan) : Prop :=
  ∀ bit, scan.trackMask.testBit bit = true → scan.data.config_data.trackingMask.testBit bit = true

theorem testBit_one_shiftLeft (place bit : Nat) :
    (1 <<< place).testBit bit = decide (place = bit) := by
  rw [Nat.one_shiftLeft, Nat.testBit_two_pow]

theorem track_masks (realm : BVIEW_BST_REALM_ID) (hnested : scan.Nested) (bit : Nat) :
    (scan.track realm).trackMask.testBit bit =
      (scan.trackMask.testBit bit || decide (realm.toNat = bit)) ∧
    (scan.track realm).data.config_data.trackingMask.testBit bit =
      (scan.data.config_data.trackingMask.testBit bit || decide (realm.toNat = bit)) := by
  unfold TableScan.track
  by_cases hbit : scan.trackMask.testBit realm.toNat = true
  · rw [if_pos hbit]
    by_cases heq : realm.toNat = bit
    · subst heq
      simp [hbit, hnested _ hbit]
    · simp [heq]
  · rw [if_neg hbit]
    simp only [Nat.testBit_or, testBit_one_shiftLeft, and_self]

-- One row on the masks.
theorem scan_masks (hnested : scan.Nested) (bit : Nat) :
    ((row.scan scan).trackMask.testBit bit = true ↔
      scan.trackMask.testBit bit = true ∨ row.Tracks bit) ∧
    ((row.scan scan).data.config_data.trackingMask.testBit bit = true ↔
      scan.data.config_data.trackingMask.testBit bit = true ∨ row.Tracks bit) := by
  cases hdecoded : row.decoded with
  | none =>
      have hnot : ¬ row.Tracks bit := by
        rintro ⟨realm, hrealm, -⟩
        simp [Row.tracked, hdecoded] at hrealm
      simp [row.scan_of_not_decoded scan hdecoded, hnot]
  | some key =>
      obtain ⟨bid, port, queue⟩ := key
      have hmasks : ∀ tracked : TableScan,
          (trigger_row (row_update none (some row)) row.key.hw_unit_id.toInt32 bid port queue
            (store_row (row_update none (some row)) row.key.hw_unit_id.toInt32 bid port queue
              tracked)).trackMask = tracked.trackMask ∧
          (trigger_row (row_update none (some row)) row.key.hw_unit_id.toInt32 bid port queue
            (store_row (row_update none (some row)) row.key.hw_unit_id.toInt32 bid port queue
              tracked)).data.config_data = tracked.data.config_data := by
        intro tracked
        have hstored : (store_row (row_update none (some row)) row.key.hw_unit_id.toInt32 bid port
            queue tracked).data.config_data = tracked.data.config_data := by
          simp only [store_row, bst_ovsdb_row_update]
          split <;> rfl
        unfold trigger_row
        split
        · split
          · exact ⟨rfl, hstored⟩
          · exact ⟨rfl, hstored⟩
        · exact ⟨rfl, hstored⟩
      rw [row.scan_of_decoded scan hdecoded, bufmon_row, (hmasks _).1, (hmasks _).2]
      have henabled : OVSDB_GET_COLUMN (row_update none (some row)) (·.enabled) = some .JSON_TRUE ↔
          row.values.enabled = some true := by
        rw [get_column_eq]
        simp only [selected_some, Option.bind_some, Row.columns, Option.some.injEq]
        exact booleanColumn_true row.values.enabled
      simp only [track_row, Row.Tracks, Row.tracked, hdecoded, Option.bind_some]
      by_cases hon : row.values.enabled = some true
      · rw [if_pos (henabled.mpr hon), if_pos hon]
        cases (bid_tab_params[bid]?).bind fun params =>
            bst_ovsdb_realm_id_get params.realm_name with
        | none => simp
        | some realm =>
            obtain ⟨hmessage, hcache⟩ := track_masks scan realm hnested bit
            simp [hmessage, hcache]
      · rw [if_neg (mt henabled.mp hon), if_neg hon]
        simp

-- One row on the cells.
theorem scan_cache :
    (row.scan scan).data.cache =
      match row.address with
      | some address => Function.update scan.data.cache address row.cell
      | none => scan.data.cache := by
  cases hdecoded : row.decoded with
  | none => simp [row.scan_of_not_decoded scan hdecoded, Row.address, hdecoded]
  | some key =>
      obtain ⟨bid, port, queue⟩ := key
      have htrigger : ∀ stored : TableScan,
          (trigger_row (row_update none (some row)) row.key.hw_unit_id.toInt32 bid port queue
            stored).data = stored.data := by
        intro stored
        unfold trigger_row
        split
        · split <;> rfl
        · rfl
      have htrack : (track_row (row_update none (some row)) bid scan).data.cache =
          scan.data.cache := by
        unfold track_row TableScan.track
        split
        · split
          · split <;> rfl
          · rfl
        · rfl
      rw [row.scan_of_decoded scan hdecoded, bufmon_row, htrigger]
      simp only [store_row, bst_ovsdb_row_update, Row.address, hdecoded, Option.bind_some,
        get_column_eq, selected_some, row.cell_eq hdecoded]
      cases bst_ovsdb_cache_row_get row.key.hw_unit_id.toInt32 bid port queue with
      | none => simp [htrack]
      | some address => simp [htrack, Row.columns]

end Scan

section Fold

variable (rows : List Row) (scan : TableScan)

-- The rows that the plugin looks at, in order.
def selectedRows (transitions : List (Option Row × Option Row)) : List Row :=
  transitions.filterMap fun (before, after) => selected before after

theorem foldl_selected (transitions : List (Option Row × Option Row)) :
    (transitions.map fun (before, after) => row_update before after).foldl bufmon_row_update scan =
      (selectedRows transitions).foldl (fun scan row => row.scan scan) scan := by
  induction transitions generalizing scan with
  | nil => rfl
  | cons transition rest ih =>
      obtain ⟨before, after⟩ := transition
      rw [List.map_cons, List.foldl_cons, ih, bufmon_row_update_eq]
      cases hselected : selected before after with
      | none => simp [selectedRows, hselected]
      | some row => simp [selectedRows, hselected]

theorem scan_nested (row : Row) (hnested : scan.Nested) : (row.scan scan).Nested := by
  intro bit hbit
  obtain ⟨hmessage, hcache⟩ := scan_masks row scan hnested bit
  exact hcache.mpr ((hmessage.mp hbit).imp_left (hnested bit))

theorem foldl_masks (hnested : scan.Nested) (bit : Nat) :
    ((rows.foldl (fun scan row => row.scan scan) scan).trackMask.testBit bit = true ↔
      scan.trackMask.testBit bit = true ∨ ∃ row ∈ rows, row.Tracks bit) ∧
    ((rows.foldl (fun scan row => row.scan scan) scan).data.config_data.trackingMask.testBit bit =
        true ↔
      scan.data.config_data.trackingMask.testBit bit = true ∨ ∃ row ∈ rows, row.Tracks bit) := by
  induction rows generalizing scan with
  | nil => simp
  | cons row rest ih =>
      obtain ⟨hmessage, hcache⟩ := scan_masks row scan hnested bit
      obtain ⟨hrest, hrest'⟩ := ih (row.scan scan) (scan_nested scan row hnested)
      simp only [List.foldl_cons, hrest, hrest', hmessage, hcache, List.mem_cons, or_assoc,
        exists_eq_or_imp, and_self]

-- Rows with an address are written one after the other.
theorem foldl_cache (haddress : ∀ row ∈ rows, row.address.isSome = true) :
    (rows.foldl (fun scan row => row.scan scan) scan).data.cache =
      Writes.all (fun row => row.address.getD 0) Row.cell scan.data.cache rows := by
  induction rows generalizing scan with
  | nil => rfl
  | cons row rest ih =>
      obtain ⟨address, hrow⟩ := Option.isSome_iff_exists.mp (haddress row List.mem_cons_self)
      rw [List.foldl_cons,
        ih _ fun other hother => haddress other (List.mem_cons_of_mem row hother)]
      simp [Writes.all, scan_cache, hrow]

end Fold

section Received

variable (state : Monitor) (message : Message)

def Monitor.rows (state : Monitor) (message : Message) : List Row :=
  selectedRows (state.table.transitions message)

theorem received_eq :
    state.received message =
      let scan := (state.rows message).foldl (fun scan row => row.scan scan)
        { data := state.data, trackMask := 0, triggers := [] }
      { data := scan.data
        triggers := scan.triggers
        notified := decide (state.data.config_data.trackingMask ≠ scan.trackMask) } := by
  rw [Monitor.received, bst_ovsdb_cache_update_table, BufmonTable.row_updates, foldl_selected]
  rfl

theorem received_mask (bit : Nat) :
    (state.received message).data.config_data.trackingMask.testBit bit = true ↔
      state.data.config_data.trackingMask.testBit bit = true ∨
        ∃ row ∈ state.rows message, row.Tracks bit := by
  rw [received_eq]
  exact (foldl_masks _ _ (by intro bit hbit; simp at hbit) bit).2

-- The mask of the message is compared with the mask before it.
theorem received_notified :
    (state.received message).notified = true ↔
      ¬ ∀ bit, state.data.config_data.trackingMask.testBit bit = true ↔
        ∃ row ∈ state.rows message, row.Tracks bit := by
  rw [received_eq]
  simp only [decide_eq_true_eq]
  refine not_congr ?_
  have hmask := fun bit => (foldl_masks (state.rows message)
    { data := state.data, trackMask := 0, triggers := [] } (by intro bit hbit; simp at hbit) bit).1
  simp only [Nat.zero_testBit, Bool.false_eq_true, false_or] at hmask
  constructor
  · intro heq bit
    rw [heq, hmask]
  · intro hall
    refine Nat.eq_of_testBit_eq fun bit => Bool.eq_iff_iff.mpr ?_
    rw [hall, hmask]

end Received

section Apply

variable {table : BufmonTable} {message : Message}

theorem apply_eq_writes (hadmits : table.Admits message) :
    table.apply message =
      Writes.all Prod.fst (fun entry => entry.2.after (table entry.1)) table message := by
  have hfold : ∀ (message : Message) (current : BufmonTable), (message.map Prod.fst).Nodup →
      (∀ entry ∈ message, current entry.1 = table entry.1) →
      message.foldl BufmonTable.change current =
        Writes.all Prod.fst (fun entry => entry.2.after (table entry.1)) current message := by
    intro message
    induction message with
    | nil => intro current _ _; rfl
    | cons entry rest ih =>
        intro current hnodup hsame
        rw [List.map_cons, List.nodup_cons] at hnodup
        rw [List.foldl_cons, ih _ hnodup.2]
        · simp [Writes.all, BufmonTable.change, hsame entry List.mem_cons_self]
        · intro other hother
          have hne : other.1 ≠ entry.1 := fun heq => hnodup.1 (heq ▸ List.mem_map_of_mem hother)
          rw [BufmonTable.change, Function.update_of_ne hne]
          exact hsame other (List.mem_cons_of_mem entry hother)
  exact hfold message table hadmits.once fun _ _ => rfl

theorem apply_of_mem (hadmits : table.Admits message) {uuid : Uuid} {change : Change}
    (h : (uuid, change) ∈ message) : table.apply message uuid = change.after (table uuid) := by
  rw [apply_eq_writes hadmits]
  exact Writes.all_of_nodup hadmits.once h

theorem apply_of_not_mem (hadmits : table.Admits message) {uuid : Uuid}
    (h : ∀ change, (uuid, change) ∉ message) : table.apply message uuid = table uuid := by
  rw [apply_eq_writes hadmits]
  refine Writes.all_of_untouched ?_
  rintro ⟨other, change⟩ hmem rfl
  exact h change hmem

end Apply

section Rows

theorem mem_selectedRows {table : BufmonTable} {message : Message} {row : Row} :
    row ∈ selectedRows (table.transitions message) ↔
      ∃ uuid change, (uuid, change) ∈ message ∧
        selected (table uuid) (change.after (table uuid)) = some row := by
  simp only [selectedRows, BufmonTable.transitions, List.mem_filterMap, List.mem_map]
  constructor
  · rintro ⟨transition, ⟨⟨uuid, change⟩, hmem, rfl⟩, hselected⟩
    exact ⟨uuid, change, hmem, hselected⟩
  · rintro ⟨uuid, change, hmem, hselected⟩
    exact ⟨_, ⟨(uuid, change), hmem, rfl⟩, hselected⟩

variable {state : Monitor} {message : Message} {row row' : Row}

theorem mem_rows : row ∈ state.rows message ↔
    ∃ uuid change, (uuid, change) ∈ message ∧
      selected (state.table uuid) (change.after (state.table uuid)) = some row :=
  mem_selectedRows

-- A row that the plugin looks at is current after the message or was current
-- before it, under the same uuid.
theorem rows_cases (hadmits : state.table.Admits message) (h : row ∈ state.rows message) :
    (∃ uuid, state.table.apply message uuid = some row) ∨
      ∃ uuid, state.table uuid = some row ∧ state.table.apply message uuid = none := by
  obtain ⟨uuid, change, hmem, hselected⟩ := mem_rows.mp h
  have happly := apply_of_mem hadmits hmem
  cases hafter : change.after (state.table uuid) with
  | none =>
      rw [hafter, selected_none] at hselected
      exact Or.inr ⟨uuid, hselected, happly.trans hafter⟩
  | some after =>
      rw [hafter, selected_some] at hselected
      obtain rfl := Option.some.inj hselected
      exact Or.inl ⟨uuid, happly.trans hafter⟩

-- The key of a row never changes, so its cell does not either.
theorem after_key {before : Row} {change : Change} (hfits : change.Fits (some before))
    {after : Row} (h : change.after (some before) = some after) : after.key = before.key := by
  cases change with
  | insert row => cases hfits
  | modify values => simp only [Change.after, Option.map_some, Option.some.injEq] at h; rw [← h]
  | delete => cases h

theorem address_congr (h : row.key = row'.key) : row.address = row'.address := by
  simp only [Row.address, Row.decoded, h]

theorem cleared_congr (h : row.key = row'.key) : row.cleared = row'.cleared := by
  simp only [Row.cleared, Row.default_threshold, Row.decoded, h]

-- A row that a message names is looked at, under its own cell.
theorem rows_of_named (hadmits : state.table.Admits message) {uuid : Uuid} {change : Change}
    (hmem : (uuid, change) ∈ message) (h : state.table uuid = some row) :
    ∃ seen ∈ state.rows message, seen.key = row.key := by
  have hfits := hadmits.fits (uuid, change) hmem
  simp only [h] at hfits
  cases hafter : change.after (some row) with
  | none =>
      exact ⟨row, mem_rows.mpr ⟨uuid, change, hmem, by rw [h, hafter, selected_none]⟩, rfl⟩
  | some after =>
      exact ⟨after, mem_rows.mpr ⟨uuid, change, hmem, by rw [h, hafter, selected_some]⟩,
        after_key hfits hafter⟩

theorem rows_of_named_after (hadmits : state.table.Admits message) {uuid : Uuid} {change : Change}
    (hmem : (uuid, change) ∈ message) (h : state.table.apply message uuid = some row) :
    row ∈ state.rows message := by
  rw [apply_of_mem hadmits hmem] at h
  exact mem_rows.mpr ⟨uuid, change, hmem, by rw [h, selected_some]⟩

end Rows

section Mirror

-- Every name is decodable, and a cell has one row.
structure BufmonTable.Keyed (table : BufmonTable) : Prop where
  decoded : ∀ uuid row, table uuid = some row → row.decoded.isSome = true
  apart : ∀ uuid uuid' row row', table uuid = some row → table uuid' = some row' →
    row.address = row'.address → uuid = uuid'

-- The monitor with the row that was last inserted for each cell.
structure Recorded where
  monitor : Monitor
  past : Int → Option Row

def inserted (message : Message) : List (Int × Row) :=
  message.filterMap fun entry =>
    match entry.2 with
    | .insert row => row.address.map fun address => (address, row)
    | _ => none

def Recorded.step (state : Recorded) (message : Message) : Recorded :=
  { monitor := state.monitor.step message
    past := Writes.all Prod.fst (fun entry => some entry.2) state.past (inserted message) }

def Recorded.initial : Recorded := { monitor := .initial, past := fun _ => none }

namespace BufmonTable

variable (table : BufmonTable)

def Vacant (address : Int) : Prop :=
  ∀ uuid row, table uuid = some row → row.address ≠ some address

def Tracks (bit : Nat) : Prop := ∃ uuid row, table uuid = some row ∧ row.Tracks bit

end BufmonTable

-- Every cell holds what its current row has, or is cleared when its row was
-- deleted, and the mask has the realms with an enabled row.
structure Mirror (state : Recorded) : Prop where
  current : ∀ uuid row address, state.monitor.table uuid = some row →
    row.address = some address → state.monitor.data.cache address = row.cell
  deleted : ∀ address row, state.past address = some row →
    state.monitor.table.Vacant address → state.monitor.data.cache address = row.cleared
  mask : ∀ bit, state.monitor.data.config_data.trackingMask.testBit bit = true ↔
    state.monitor.table.Tracks bit

-- The environment: the server changes rows that are there, names them by keys,
-- and has one row for a cell.
structure Admissible (state : Recorded) (message : Message) : Prop where
  admits : state.monitor.table.Admits message
  keyed : (state.monitor.table.apply message).Keyed

structure MirrorSound (state : Recorded) (message : Message) : Prop where
  mirror : Mirror (state.step message)
  notified : (state.monitor.received message).notified = true ↔
    ¬ ∀ bit, state.monitor.data.config_data.trackingMask.testBit bit = true ↔
      (state.step message).monitor.data.config_data.trackingMask.testBit bit = true

-- What a row leaves behind is what its cell has to hold after the message.
structure Row.Leaves (row : Row) (address : Int) (table : BufmonTable) : Prop where
  replaced : ∀ uuid row', table uuid = some row' → row'.address = some address →
    row'.cell = row.cell
  vacant : table.Vacant address → row.cell = row.cleared

-- The plugin stores the last values of a deleted row and never clears a bit, and
-- it takes the rows of a message for the whole table.
structure MirrorAllowed (state : Recorded) (message : Message) : Prop where
  deletions : ∀ earlier row later address,
    state.monitor.table.transitions message = earlier ++ (some row, none) :: later →
    row.address = some address →
    (∀ other ∈ selectedRows later, other.address ≠ some address) →
    row.Leaves address (state.monitor.table.apply message)
  realms : ∀ bit, state.monitor.table.Tracks bit →
    (state.monitor.table.apply message).Tracks bit
  announced :
    (∃ bit, ¬ state.monitor.table.Tracks bit ∧ ∃ row ∈ state.monitor.rows message, row.Tracks bit) ∨
    ∀ bit, state.monitor.table.Tracks bit → ∃ row ∈ state.monitor.rows message, row.Tracks bit

structure MirrorInv (state : Recorded) : Prop where
  mirror : Mirror state
  keyed : state.monitor.table.Keyed
  recorded : ∀ uuid row address, state.monitor.table uuid = some row →
    row.address = some address → ∃ past, state.past address = some past ∧ past.key = row.key

end Mirror

section Cells

variable {state : Monitor} {message : Message} {address : Int}

-- Each row that the plugin looks at has a cell.
theorem rows_address (hkeyed : state.table.Keyed) (hadmits : state.table.Admits message)
    (hafter : (state.table.apply message).Keyed) :
    ∀ row ∈ state.rows message, row.address.isSome = true := by
  intro row hrow
  rcases rows_cases hadmits hrow with ⟨uuid, hcurrent⟩ | ⟨uuid, hbefore, -⟩
  · exact row.address_isSome (hafter.decoded uuid row hcurrent)
  · exact row.address_isSome (hkeyed.decoded uuid row hbefore)

theorem received_cache (haddress : ∀ row ∈ state.rows message, row.address.isSome = true) :
    (state.received message).data.cache =
      Writes.all (fun row => row.address.getD 0) Row.cell state.data.cache
        (state.rows message) := by
  rw [received_eq]
  exact foldl_cache _ _ haddress

theorem getD_eq_iff (haddress : ∀ row ∈ state.rows message, row.address.isSome = true) {row : Row}
    (hrow : row ∈ state.rows message) :
    row.address.getD 0 = address ↔ row.address = some address := by
  obtain ⟨own, hown⟩ := Option.isSome_iff_exists.mp (haddress row hrow)
  simp [hown]

-- A cell that no row of the message leads to keeps its values.
theorem cell_untouched (haddress : ∀ row ∈ state.rows message, row.address.isSome = true)
    (h : ∀ row ∈ state.rows message, row.address ≠ some address) :
    (state.received message).data.cache address = state.data.cache address := by
  rw [received_cache haddress]
  exact Writes.all_of_untouched fun row hrow heq => h row hrow ((getD_eq_iff haddress hrow).mp heq)

-- The last row of the message that leads to a cell decides what it holds.
theorem cell_of_last (haddress : ∀ row ∈ state.rows message, row.address.isSome = true)
    {earlier later : List (Option Row × Option Row)} {before after : Option Row} {row : Row}
    (hsplit : state.table.transitions message = earlier ++ (before, after) :: later)
    (hselected : selected before after = some row) (hrow : row.address = some address)
    (hlast : ∀ other ∈ selectedRows later, other.address ≠ some address) :
    (state.received message).data.cache address = row.cell := by
  have hrows : state.rows message = selectedRows earlier ++ row :: selectedRows later := by
    simp [Monitor.rows, hsplit, selectedRows, hselected]
  rw [received_cache haddress, hrows]
  refine Writes.all_last (by simp [hrow]) ?_
  intro other hother heq
  refine hlast other hother ((getD_eq_iff haddress ?_).mp heq)
  rw [hrows]
  exact List.mem_append_right _ (List.mem_cons_of_mem row hother)

theorem exists_last_row (h : ∃ row ∈ state.rows message, row.address = some address) :
    ∃ earlier before after later row,
      state.table.transitions message = earlier ++ (before, after) :: later ∧
      selected before after = some row ∧ row.address = some address ∧
      ∀ other ∈ selectedRows later, other.address ≠ some address := by
  obtain ⟨first, row, rest, hrows, hrow, hlast⟩ := Writes.exists_last h
  obtain ⟨head, tail, hsplit, -, htail⟩ := List.filterMap_eq_append_iff.mp hrows
  obtain ⟨skipped, ⟨before, after⟩, later, rfl, -, hselected, hrest⟩ :=
    List.filterMap_eq_cons_iff.mp htail
  refine ⟨head ++ skipped, before, after, later, row, ?_, hselected, hrow, ?_⟩
  · rw [hsplit, List.append_assoc]
  · rw [selectedRows, hrest]
    exact hlast

end Cells

end BroadView.Ovsdb
