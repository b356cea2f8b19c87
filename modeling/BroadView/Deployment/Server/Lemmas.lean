import BroadView.Deployment.Server

namespace BroadView

open Bst Ovsdb Transition

namespace Ovsdb

section Maps

-- The configuration maps that a message carries.
def TableUpdates.maps (updates : TableUpdates) : List ConfigMap :=
  (updates.System.getD []).filterMap SystemUpdate.bufmon_config

def map_mode (mode : BVIEW_BST_COLLECTION_MODE) (map : ConfigMap) : BVIEW_BST_COLLECTION_MODE :=
  map.foldl element_mode mode

theorem TableUpdates.mode_eq (updates : TableUpdates) (mode : BVIEW_BST_COLLECTION_MODE) :
    updates.mode mode = updates.maps.foldl map_mode mode := by
  have hrow : ∀ rows : List SystemUpdate,
      rows.foldl row_mode mode =
        (rows.filterMap SystemUpdate.bufmon_config).foldl map_mode mode := by
    intro rows
    induction rows generalizing mode with
    | nil => rfl
    | cons row rest ih =>
        rw [List.foldl_cons, ih]
        unfold row_mode
        cases hmap : row.bufmon_config with
        | none => rw [List.filterMap_cons_none hmap, Option.getD_none, List.foldl_nil]
        | some map =>
            rw [List.filterMap_cons_some hmap, List.foldl_cons, Option.getD_some]
            rfl
  exact hrow _

-- A map that names the mode, and no other mode with it.
structure AsksFor (map : ConfigMap) (mode : BVIEW_BST_COLLECTION_MODE) : Prop where
  named : ∃ element ∈ map, element.1 = "counters_mode".toList
  mode : ∀ element ∈ map, element.1 = "counters_mode".toList → requested_mode element.2 = mode

theorem AsksFor.perm {map map' : ConfigMap} {mode : BVIEW_BST_COLLECTION_MODE}
    (hperm : map.Perm map') (h : AsksFor map' mode) : AsksFor map mode := by
  constructor
  · obtain ⟨element, hmem, hname⟩ := h.named
    exact ⟨element, hperm.mem_iff.mpr hmem, hname⟩
  · intro element hmem
    exact h.mode element (hperm.mem_iff.mp hmem)

theorem foldl_element_mode_kept {map : ConfigMap} {mode : BVIEW_BST_COLLECTION_MODE}
    (h : ∀ element ∈ map, element.1 = "counters_mode".toList → requested_mode element.2 = mode) :
    map.foldl element_mode mode = mode := by
  induction map with
  | nil => rfl
  | cons element rest ih =>
      have hfirst : element_mode mode element = mode := by
        unfold element_mode
        split_ifs with hname
        · exact h element List.mem_cons_self hname
        · rfl
      rw [List.foldl_cons, hfirst]
      exact ih fun other hother => h other (List.mem_cons_of_mem element hother)

theorem AsksFor.map_mode {map : ConfigMap} {mode : BVIEW_BST_COLLECTION_MODE}
    (h : AsksFor map mode) (before : BVIEW_BST_COLLECTION_MODE) :
    Ovsdb.map_mode before map = mode := by
  unfold Ovsdb.map_mode
  induction map generalizing before with
  | nil =>
      obtain ⟨element, hmem, -⟩ := h.named
      cases hmem
  | cons element rest ih =>
      have hrest : ∀ other ∈ rest, other.1 = "counters_mode".toList →
          requested_mode other.2 = mode :=
        fun other hother => h.mode other (List.mem_cons_of_mem element hother)
      rw [List.foldl_cons]
      by_cases hname : element.1 = "counters_mode".toList
      · have hfirst : element_mode before element = mode := by
          rw [element_mode, if_pos hname]
          exact h.mode element List.mem_cons_self hname
        rw [hfirst]
        exact foldl_element_mode_kept hrest
      · refine ih ⟨?_, hrest⟩ _
        obtain ⟨other, hmem, hother⟩ := h.named
        rcases List.mem_cons.mp hmem with rfl | hmem
        · exact absurd hother hname
        · exact ⟨other, hmem, hother⟩

theorem config_map_asks (config : BVIEW_OVSDB_CONFIG_DATA) :
    AsksFor (config_map config) config.bst_tracking_mode := by
  constructor
  · exact ⟨_, List.mem_cons_of_mem _ List.mem_cons_self, rfl⟩
  · intro element hmem hname
    simp only [config_map, List.mem_cons, List.not_mem_nil, or_false] at hmem
    rcases hmem with rfl | rfl | rfl | rfl | rfl | rfl | rfl
    · exact absurd hname (by simp)
    · cases config.bst_tracking_mode <;> rfl
    all_goals exact absurd hname (by simp)

-- The last of the maps that messages carry, or the one before them.
def last_map (map : ConfigMap) (updates : List TableUpdates) : ConfigMap :=
  (updates.flatMap TableUpdates.maps).getLast?.getD map

theorem last_map_append (map : ConfigMap) (first second : List TableUpdates) :
    last_map map (first ++ second) = last_map (last_map map first) second := by
  unfold last_map
  rw [List.flatMap_append, List.getLast?_append]
  cases (second.flatMap TableUpdates.maps).getLast? <;> rfl

-- Messages that end in a map that asks for the mode leave it as it is.
theorem foldl_map_mode {map : ConfigMap} {updates : List TableUpdates}
    {mode : BVIEW_BST_COLLECTION_MODE} (h : AsksFor (last_map map updates) mode) :
    (updates.flatMap TableUpdates.maps).foldl map_mode mode = mode := by
  unfold last_map at h
  rcases List.eq_nil_or_concat (updates.flatMap TableUpdates.maps) with hnil | ⟨before, last, hlast⟩
  · rw [hnil, List.foldl_nil]
  · rw [hlast, List.concat_eq_append, List.getLast?_concat, Option.getD_some] at h
    rw [hlast, List.concat_eq_append, List.foldl_append, List.foldl_cons, List.foldl_nil]
    exact h.map_mode _

end Maps

end Ovsdb

namespace Server

variable (server : Server) (rows : List Uuid)

-- The maps that a transaction reports end in the server's new map.
theorem execute_last (transaction : Transaction) :
    (server.execute rows transaction).1.bufmon_config =
      last_map server.bufmon_config (server.execute rows transaction).2 := by
  cases transaction with
  | bufmon_config map =>
      unfold execute
      dsimp only
      split_ifs <;> rfl
  | enabled realmName enabled =>
      unfold execute
      dsimp only
      split_ifs <;> rfl

theorem executeAll_last (transactions : List Transaction) :
    (executeAll rows server transactions).1.bufmon_config =
      last_map server.bufmon_config (executeAll rows server transactions).2 := by
  induction transactions generalizing server with
  | nil => rfl
  | cons transaction rest ih =>
      simp only [executeAll]
      rw [ih, last_map_append, ← execute_last]

-- A transaction of a realm leaves the map alone.
theorem executeAll_config {transactions : List Transaction}
    (h : ∀ transaction ∈ transactions, ∃ realmName enabled,
      transaction = .enabled realmName enabled) :
    (executeAll rows server transactions).1.bufmon_config = server.bufmon_config := by
  induction transactions generalizing server with
  | nil => rfl
  | cons transaction rest ih =>
      obtain ⟨realmName, enabled, rfl⟩ := h transaction List.mem_cons_self
      simp only [executeAll]
      rw [ih _ fun other hother => h other (List.mem_cons_of_mem _ hother)]
      rfl

theorem executeAll_cons_config {transaction : Transaction} {rest : List Transaction}
    (h : ∀ other ∈ rest, ∃ realmName enabled, other = .enabled realmName enabled) :
    (executeAll rows server (transaction :: rest)).1.bufmon_config =
      (server.execute rows transaction).1.bufmon_config :=
  executeAll_config (server.execute rows transaction).1 rows h

-- What all transactions report is reported by one of them.
theorem mem_executeAll {transactions : List Transaction} {updates : TableUpdates}
    (h : updates ∈ (executeAll rows server transactions).2) :
    ∃ transaction ∈ transactions, ∃ server' : Server,
      updates ∈ (server'.execute rows transaction).2 := by
  induction transactions generalizing server with
  | nil => cases h
  | cons transaction rest ih =>
      simp only [executeAll] at h
      rcases List.mem_append.mp h with h | h
      · exact ⟨transaction, List.mem_cons_self, server, h⟩
      · obtain ⟨other, hmem, server', hother⟩ := ih _ h
        exact ⟨other, List.mem_cons_of_mem transaction hmem, server', hother⟩

section Realm

variable {rows : List Uuid} {server : Server} {updates : TableUpdates} {bit : Nat}

theorem realm_id_get_name (realm : BVIEW_BST_REALM_ID) :
    bst_ovsdb_realm_id_get (bst_ovsdb_realm_name_get realm) = some realm := by
  cases realm <;> rfl

-- The rows that change are those of the realm, with the column as it was asked for.
theorem mem_disagreeing {realmName : String} {enabled : Option Bool} {entry : Uuid × Change}
    (h : entry ∈ server.disagreeing rows realmName enabled) :
    ∃ row, server.bufmon entry.1 = some row ∧ row.realm_name = some realmName ∧
      entry.2 = .modify { row.values with enabled } := by
  obtain ⟨uuid, -, hentry⟩ := List.mem_filterMap.mp h
  obtain ⟨row, hrow, hchange⟩ := Option.bind_eq_some_iff.mp hentry
  split_ifs at hchange with hrealm
  cases hchange
  exact ⟨row, hrow, hrealm.1, rfl⟩

-- A row that tracks a realm is enabled and has the name of the realm.
theorem tracked_realm_name {row : Ovsdb.Row} {realm : BVIEW_BST_REALM_ID}
    (h : row.tracked = some realm) :
    row.values.enabled = some true ∧
      ∃ realmName, row.realm_name = some realmName ∧
        bst_ovsdb_realm_id_get realmName = some realm := by
  unfold Row.tracked at h
  split_ifs at h with henabled
  obtain ⟨⟨bid, port, queue⟩, hkey, hparams⟩ := Option.bind_eq_some_iff.mp h
  obtain ⟨params, hparams, hget⟩ := Option.bind_eq_some_iff.mp hparams
  refine ⟨henabled, params.realm_name, ?_, hget⟩
  simp only [Row.realm_name, hkey, Option.bind_some, hparams, Option.map_some]

-- A row that is reported for a realm tracks no other one, and only as it was asked
-- for.
theorem enabled_tracks {realmName : String} {enabled : Option Bool}
    (h : updates ∈ (server.execute rows (.enabled realmName enabled)).2)
    (htracks : updates.Tracks bit) :
    enabled = some true ∧
      ∃ realm, bst_ovsdb_realm_id_get realmName = some realm ∧ realm.toNat = bit := by
  have hupdates : updates = server.bufmon_update (server.disagreeing rows realmName enabled) := by
    simp only [execute] at h
    split_ifs at h
    · cases h
    · exact List.mem_singleton.mp h
  subst hupdates
  obtain ⟨row, hrow, realm, htracked, hbit⟩ := htracks
  obtain ⟨uuid, change, hentry, hselected⟩ := mem_selectedRows.mp hrow
  obtain ⟨before, hbefore, hrealm, hchange⟩ := mem_disagreeing hentry
  simp only at hbefore hchange
  rw [hbefore, hchange] at hselected
  obtain rfl : { before with values := { before.values with enabled } } = row :=
    Option.some.inj hselected
  obtain ⟨henabled, other, hname, hget⟩ := tracked_realm_name htracked
  have hsame : before.realm_name = some other := hname
  rw [hrealm] at hsame
  obtain rfl := Option.some.inj hsame
  exact ⟨henabled, realm, hget, hbit⟩

theorem realm_transaction_tracks {trackingMask : Nat} {realm : BVIEW_BST_REALM_ID}
    (h : updates ∈ (server.execute rows (realm_transaction trackingMask realm)).2)
    (htracks : updates.Tracks bit) : trackingMask.testBit bit = true := by
  obtain ⟨henabled, other, hother, hbit⟩ := enabled_tracks h htracks
  rw [realm_id_get_name] at hother
  obtain rfl := Option.some.inj hother
  subst hbit
  split_ifs at henabled with htest
  exact htest

end Realm

end Server

namespace Deployment

variable (state : Deployment)

-- What is written is what is sent.
theorem flatMap_transactions (effects : List Effect) (plugin : BVIEW_OVSDB_BST_DATA) :
    effects.flatMap (transactions plugin) =
      (effects.filterMap Effect.config).flatMap fun mode =>
        (sbplugin_ovsdb_bst_config_set mode plugin).sent := by
  induction effects with
  | nil => rfl
  | cons effect rest ih =>
      rw [List.flatMap_cons, ih]
      cases effect with
      | sbapi_bst_config_set unit mode rv => rfl
      | _ => rfl

theorem sent_eq (event : Event) :
    state.sent event =
      ((state.handled event).bind (written (state.bst.unit 0))).elim [] fun mode =>
        (sbplugin_ovsdb_bst_config_set mode state.plugin).sent := by
  unfold sent handled
  cases state.action event with
  | none => rfl
  | some action =>
      rw [Option.elim_some, flatMap_transactions, emitted_configs, Option.bind_some]
      cases (taken units state.bst action).bind (written (state.bst.unit 0)) with
      | none => rfl
      | some mode => exact List.flatMap_singleton _ _

end Deployment

end BroadView
