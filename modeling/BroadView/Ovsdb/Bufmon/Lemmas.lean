import BroadView.Ovsdb.Bufmon
import BroadView.Ovsdb.Key.Safety
import BroadView.Transition

namespace BroadView.Ovsdb

open BroadView.Bst

-- The row whose columns the plugin looks at: the new one, or the old one of a
-- deletion.
def selected (before after : Option Row) : Option Row :=
  match after with
  | some row => some row
  | none => before

section Selected

@[simp] theorem selected_some (before : Option Row) (row : Row) :
    selected before (some row) = some row := rfl

@[simp] theorem selected_none (before : Option Row) : selected before none = before := rfl

theorem get_column_eq {α : Type} (before after : Option Row) (column : RowColumns → Option α) :
    OVSDB_GET_COLUMN (row_update before after) column =
      (selected before after).bind fun row => column row.columns := by
  cases before <;> cases after <;> rfl

-- What the plugin makes of a row does not depend on the kind of its update.
def Row.scan (row : Row) (scan : TableScan) : TableScan :=
  bufmon_row_update scan (row_update none (some row))

theorem bufmon_row_update_eq (scan : TableScan) (before after : Option Row) :
    bufmon_row_update scan (row_update before after) =
      match selected before after with
      | some row => row.scan scan
      | none => scan := by
  cases hselected : selected before after with
  | none => simp [bufmon_row_update, get_column_eq, hselected]
  | some row =>
      have hrow : ∀ asic bid port queue, bufmon_row (row_update before after) asic bid port queue =
          bufmon_row (row_update none (some row)) asic bid port queue := by
        intro asic bid port queue
        unfold bufmon_row trigger_row store_row track_row
        simp only [get_column_eq, hselected, selected_some]
      simp [bufmon_row_update, Row.scan, get_column_eq, hselected, hrow]

end Selected

section Scan

variable (row : Row) (scan : TableScan)

-- The counter that the name of a row decodes to.
def Row.decoded : Option (Nat × Int32 × Int32) :=
  match bst_ovsdb_row_info_get row.key.name 0 with
  | .row bid port queue => some (bid, port, queue)
  | _ => none

theorem Row.scan_of_decoded {bid : Nat} {port queue : Int32}
    (h : row.decoded = some (bid, port, queue)) :
    row.scan scan = bufmon_row (row_update none (some row)) row.key.hw_unit_id.toInt32 bid port
      queue scan := by
  unfold Row.decoded at h
  cases hinfo : bst_ovsdb_row_info_get row.key.name 0 with
  | overrun => simp [hinfo] at h
  | FAILURE => simp [hinfo] at h
  | row bid' port' queue' =>
      simp only [hinfo, Option.some.injEq, Prod.mk.injEq] at h
      obtain ⟨rfl, rfl, rfl⟩ := h
      simp only [Row.scan, bufmon_row_update, get_column_eq, selected_some, Option.bind_some,
        Row.columns, hinfo]

theorem Row.scan_of_not_decoded (h : row.decoded = none) : row.scan scan = scan := by
  unfold Row.decoded at h
  cases hinfo : bst_ovsdb_row_info_get row.key.name 0 with
  | row bid port queue => simp [hinfo] at h
  | overrun | FAILURE =>
      simp only [Row.scan, bufmon_row_update, get_column_eq, selected_some, Option.bind_some,
        Row.columns, hinfo]

theorem Row.decoded_bid {bid : Nat} {port queue : Int32}
    (h : row.decoded = some (bid, port, queue)) :
    bst_ovsdb_row_info_get row.key.name 0 = .row bid port queue ∧
      ∃ entry, bid_tab[bid]? = some entry := by
  unfold Row.decoded at h
  cases hinfo : bst_ovsdb_row_info_get row.key.name 0 with
  | overrun => simp [hinfo] at h
  | FAILURE => simp [hinfo] at h
  | row bid' port' queue' =>
      simp only [hinfo, Option.some.injEq, Prod.mk.injEq] at h
      obtain ⟨rfl, rfl, rfl⟩ := h
      obtain ⟨-, entry, first, second, hnames, -⟩ := row_info_get_row hinfo
      exact ⟨rfl, entry, hnames.1⟩

end Scan

end BroadView.Ovsdb
