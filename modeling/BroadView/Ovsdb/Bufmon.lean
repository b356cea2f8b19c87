import BroadView.Ovsdb.Table

-- The bufmon table on the side of the OVSDB server, and the row updates that the
-- server makes of its changes.
namespace BroadView.Ovsdb

open BroadView.Bst

-- The name and the unit identify a row; the other columns change.
structure RowKey where
  name : List Char
  hw_unit_id : Int64
  deriving DecidableEq, Repr

structure RowValues where
  counter_value : Option Int64
  trigger_threshold : Option Int64
  enabled : Option Bool
  status : Option (List Char)
  deriving DecidableEq, Repr

structure Row where
  key : RowKey
  values : RowValues
  deriving DecidableEq, Repr

def integerColumn : Option Int64 → Column
  | some integer => .JSON_INTEGER integer
  | none => .JSON_ARRAY

def booleanColumn : Option Bool → Column
  | some true => .JSON_TRUE
  | some false => .JSON_FALSE
  | none => .JSON_ARRAY

def stringColumn : Option (List Char) → Column
  | some string => .JSON_STRING string
  | none => .JSON_ARRAY

def Row.columns (row : Row) : RowColumns :=
  { hw_unit_id := some row.key.hw_unit_id
    name := some row.key.name
    counter_value := some (integerColumn row.values.counter_value)
    trigger_threshold := some (integerColumn row.values.trigger_threshold)
    enabled := some (booleanColumn row.values.enabled)
    status := some (stringColumn row.values.status) }

-- A column that did not change is left out of the old object.
def changed {α : Type} [DecidableEq α] (before after : Option α) : Option α :=
  if before = after then none else before

def RowColumns.changed (before after : RowColumns) : RowColumns :=
  { hw_unit_id := Ovsdb.changed before.hw_unit_id after.hw_unit_id
    name := Ovsdb.changed before.name after.name
    counter_value := Ovsdb.changed before.counter_value after.counter_value
    trigger_threshold := Ovsdb.changed before.trigger_threshold after.trigger_threshold
    enabled := Ovsdb.changed before.enabled after.enabled
    status := Ovsdb.changed before.status after.status }

abbrev Uuid := Nat

abbrev BufmonTable := Uuid → Option Row

-- A modification sets the columns that change and repeats the others.
inductive Change where
  | insert (row : Row)
  | modify (values : RowValues)
  | delete
  deriving DecidableEq, Repr

def Change.after (before : Option Row) : Change → Option Row
  | .insert row => some row
  | .modify values => before.map fun row => { row with values }
  | .delete => none

-- The new object carries all monitored columns, the old one of a modification
-- those that changed.
def row_update (before after : Option Row) : RowUpdate :=
  match before, after with
  | none, some row => { old := none, new := some row.columns }
  | some row, none => { old := some row.columns, new := none }
  | some row, some row' =>
      { old := some (row.columns.changed row'.columns), new := some row'.columns }
  | none, none => { old := none, new := none }

-- The rows of one message, in the order in which the plugin meets them.
abbrev Message := List (Uuid × Change)

def Change.Fits (before : Option Row) : Change → Prop
  | .insert _ => before = none
  | .modify _ => before ≠ none
  | .delete => before ≠ none

namespace BufmonTable

def change (table : BufmonTable) (entry : Uuid × Change) : BufmonTable :=
  Function.update table entry.1 (entry.2.after (table entry.1))

def apply (table : BufmonTable) (message : Message) : BufmonTable := message.foldl change table

-- The rows before and after each entry of a message.
def transitions (table : BufmonTable) (message : Message) : List (Option Row × Option Row) :=
  message.map fun entry => (table entry.1, entry.2.after (table entry.1))

def row_updates (table : BufmonTable) (message : Message) : List RowUpdate :=
  (table.transitions message).map fun (before, after) => row_update before after

-- A message names a row once, and changes rows that are there.
structure Admits (table : BufmonTable) (message : Message) : Prop where
  once : (message.map Prod.fst).Nodup
  fits : ∀ entry ∈ message, entry.2.Fits (table entry.1)

end BufmonTable

-- The server's table with the plugin's cache.
structure Monitor where
  table : BufmonTable
  data : BVIEW_OVSDB_BST_DATA

namespace Monitor

def initial : Monitor := { table := fun _ => none, data := bst_ovsdb_cache }

def received (state : Monitor) (message : Message) : TableUpdated :=
  bst_ovsdb_cache_update_table (state.table.row_updates message) state.data

def step (state : Monitor) (message : Message) : Monitor :=
  { table := state.table.apply message, data := (state.received message).data }

def triggers (state : Monitor) (message : Message) : List (Int32 × BVIEW_BST_TRIGGER_INFO) :=
  (state.received message).triggers

end Monitor

end BroadView.Ovsdb
