import BroadView.Ovsdb.Bufmon.Mirror
import BroadView.Ovsdb.Config

namespace BroadView.Ovsdb

open BroadView.Bst CString

-- The feature parameters that the application keeps a copy of.
structure SameFeatures (config config' : BVIEW_OVSDB_CONFIG_DATA) : Prop where
  enable : config'.bst_enable = config.bst_enable
  limit : config'.bstMaxTriggers = config.bstMaxTriggers
  snapshot : config'.sendSnapshotOnTrigger = config.sendSnapshotOnTrigger

theorem SameFeatures.refl (config : BVIEW_OVSDB_CONFIG_DATA) : SameFeatures config config :=
  ⟨rfl, rfl, rfl⟩

theorem SameFeatures.trans {config config' config'' : BVIEW_OVSDB_CONFIG_DATA}
    (h : SameFeatures config config') (h' : SameFeatures config' config'') :
    SameFeatures config config'' :=
  ⟨h'.enable.trans h.enable, h'.limit.trans h.limit, h'.snapshot.trans h.snapshot⟩

-- The mode that an element of the map asks for, if it is the one of the mode.
def element_mode (mode : BVIEW_BST_COLLECTION_MODE) (element : List Char × List Char) :
    BVIEW_BST_COLLECTION_MODE :=
  if element.1 = "counters_mode".toList then requested_mode element.2 else mode

section Element

variable (scan : ConfigScan) (element : List Char × List Char)

theorem config_element_mode : (config_element scan element).config.bst_tracking_mode =
    element_mode scan.config.bst_tracking_mode element := by
  unfold config_element element_mode
  dsimp only
  split_ifs <;> rfl

theorem config_element_mask :
    (config_element scan element).config.trackingMask = scan.config.trackingMask := by
  unfold config_element
  dsimp only
  split_ifs <;> rfl

theorem set_features {config : BVIEW_OVSDB_CONFIG_DATA} {changed : Bool}
    (hsame : changed = false → SameFeatures scan.config config) :
    (scan.set config changed).updated = false →
      scan.updated = false ∧ SameFeatures scan.config (scan.set config changed).config := by
  intro hfalse
  obtain ⟨hscan, hchanged⟩ := Bool.or_eq_false_iff.mp hfalse
  exact ⟨hscan, hsame hchanged⟩

-- An element that changes a feature parameter is noted as an update.
theorem config_element_features : (config_element scan element).updated = false →
    scan.updated = false ∧ SameFeatures scan.config (config_element scan element).config := by
  unfold config_element
  dsimp only
  split_ifs
  · exact set_features scan fun _ => ⟨rfl, rfl, rfl⟩
  · exact fun h => ⟨h, .refl _⟩
  · exact set_features scan fun h => absurd h (by decide)
  · exact set_features scan fun _ => ⟨rfl, rfl, rfl⟩
  · exact set_features scan fun _ => ⟨rfl, rfl, rfl⟩
  · exact set_features scan fun _ => ⟨rfl, rfl, rfl⟩
  · exact set_features scan fun h => ⟨rfl, rfl, by simpa using h⟩
  · exact set_features scan fun h => ⟨rfl, by simpa using h, rfl⟩
  · exact fun h => ⟨h, .refl _⟩

end Element

section Map

variable (map : ConfigMap)

theorem foldl_config_element (scan : ConfigScan) :
    (map.foldl config_element scan).config.bst_tracking_mode =
        map.foldl element_mode scan.config.bst_tracking_mode ∧
      (map.foldl config_element scan).config.trackingMask = scan.config.trackingMask ∧
      ((map.foldl config_element scan).updated = false →
        scan.updated = false ∧
          SameFeatures scan.config (map.foldl config_element scan).config) := by
  induction map generalizing scan with
  | nil => exact ⟨rfl, rfl, fun h => ⟨h, .refl _⟩⟩
  | cons element rest ih =>
      obtain ⟨hmode, hmask, hfeatures⟩ := ih (config_element scan element)
      simp only [List.foldl_cons]
      refine ⟨?_, ?_, ?_⟩
      · rw [hmode, config_element_mode]
      · rw [hmask, config_element_mask]
      · intro hfalse
        obtain ⟨hupdated, hsame⟩ := hfeatures hfalse
        obtain ⟨hscan, hfirst⟩ := config_element_features scan element hupdated
        exact ⟨hscan, hfirst.trans hsame⟩

end Map

section System

-- The mode that the System rows of a message ask for.
def row_mode (mode : BVIEW_BST_COLLECTION_MODE) (update : SystemUpdate) :
    BVIEW_BST_COLLECTION_MODE :=
  (update.bufmon_config.getD []).foldl element_mode mode

-- A notification carries one of the two codes.
def Coded (notifications : List Int) : Prop :=
  ∀ id ∈ notifications, id = BVIEW_BST_CONFIG_FEATURE_UPDATE ∨ id = BVIEW_BST_CONFIG_TRACK_UPDATE

theorem Coded.append {first second : List Int} (h : Coded first) (h' : Coded second) :
    Coded (first ++ second) := by
  intro id hid
  rcases List.mem_append.mp hid with hid | hid
  · exact h id hid
  · exact h' id hid

theorem coded_feature (updated : Bool) :
    Coded (if updated then [BVIEW_BST_CONFIG_FEATURE_UPDATE] else []) := by
  cases updated <;> simp [Coded]

theorem coded_track (changed : Prop) [Decidable changed] :
    Coded (if changed then [BVIEW_BST_CONFIG_TRACK_UPDATE] else []) := by
  split_ifs <;> simp [Coded]

-- What an update leaves of a configuration: the mask, a mode, and the features
-- unless it notifies of their change.
structure Reported (before : BVIEW_OVSDB_CONFIG_DATA) (mode : BVIEW_BST_COLLECTION_MODE)
    (after : BVIEW_OVSDB_CONFIG_DATA) (notifications : List Int) : Prop where
  mask : after.trackingMask = before.trackingMask
  mode : after.bst_tracking_mode = mode
  features : notifications = [] → SameFeatures before after
  coded : Coded notifications

theorem system_row_reported (state : ConfigUpdated) (update : SystemUpdate) :
    ∃ notifications,
      (system_row_update state update).notifications = state.notifications ++ notifications ∧
      Reported state.config (row_mode state.config.bst_tracking_mode update)
        (system_row_update state update).config notifications := by
  unfold system_row_update row_mode
  cases update.bufmon_config with
  | none => exact ⟨[], (List.append_nil _).symm, ⟨rfl, rfl, fun _ => .refl _, by simp [Coded]⟩⟩
  | some map =>
      obtain ⟨hmode, hmask, hfeatures⟩ :=
        foldl_config_element map { config := state.config, updated := false }
      refine ⟨_, rfl, ⟨hmask, hmode, ?_, coded_feature _⟩⟩
      intro hnone
      refine (hfeatures ?_).2
      by_contra hupdated
      rw [bst_system_bufmon_config_update, if_pos (by simpa using hupdated)] at hnone
      cases hnone

theorem foldl_system_row (updates : List SystemUpdate) (state : ConfigUpdated) :
    ∃ notifications,
      (updates.foldl system_row_update state).notifications =
        state.notifications ++ notifications ∧
      Reported state.config (updates.foldl row_mode state.config.bst_tracking_mode)
        (updates.foldl system_row_update state).config notifications := by
  induction updates generalizing state with
  | nil => exact ⟨[], (List.append_nil _).symm, ⟨rfl, rfl, fun _ => .refl _, by simp [Coded]⟩⟩
  | cons update rest ih =>
      obtain ⟨first, hfirst, hrow⟩ := system_row_reported state update
      obtain ⟨second, hsecond, hrest⟩ := ih (system_row_update state update)
      refine ⟨first ++ second, ?_, ⟨?_, ?_, ?_, hrow.coded.append hrest.coded⟩⟩
      · rw [List.foldl_cons, hsecond, hfirst, List.append_assoc]
      · rw [List.foldl_cons, hrest.mask, hrow.mask]
      · rw [List.foldl_cons, List.foldl_cons, hrest.mode, hrow.mode]
      · intro hnone
        obtain ⟨hnone', hnone''⟩ := List.append_eq_nil_iff.mp hnone
        exact (hrow.features hnone').trans (hrest.features hnone'')

theorem update_system_reported (updates : List SystemUpdate) (config : BVIEW_OVSDB_CONFIG_DATA) :
    Reported config (updates.foldl row_mode config.bst_tracking_mode)
      (bst_ovsdb_cache_update_system updates config).config
      (bst_ovsdb_cache_update_system updates config).notifications := by
  obtain ⟨notifications, heq, hreported⟩ :=
    foldl_system_row updates { config, notifications := [] }
  rw [List.nil_append] at heq
  refine ⟨hreported.mask, hreported.mode, ?_, ?_⟩
  · intro hnone
    refine hreported.features ?_
    rw [← heq]
    exact (List.append_eq_nil_iff.mp hnone).1
  · refine Coded.append ?_ (coded_track _)
    rw [heq]
    exact hreported.coded

end System

section Bufmon

-- The rows of a bufmon table touch the mask only.
theorem scan_config (row : Row) (scan : TableScan) :
    { (row.scan scan).data.config_data with
      trackingMask := scan.data.config_data.trackingMask } = scan.data.config_data := by
  cases hdecoded : row.decoded with
  | none => rw [row.scan_of_not_decoded scan hdecoded]
  | some key =>
      obtain ⟨bid, port, queue⟩ := key
      rw [row.scan_of_decoded scan hdecoded]
      unfold bufmon_row trigger_row store_row bst_ovsdb_row_update track_row TableScan.track
      dsimp only
      split_ifs <;> (repeat' split) <;> rfl

theorem foldl_scan_config (rows : List Row) (scan : TableScan) :
    { (rows.foldl (fun scan row => row.scan scan) scan).data.config_data with
      trackingMask := scan.data.config_data.trackingMask } = scan.data.config_data := by
  induction rows generalizing scan with
  | nil => rfl
  | cons row rest ih =>
      rw [List.foldl_cons, ← scan_config row scan, ← ih (row.scan scan)]

-- The rows of a message that the plugin looks at.
def TableUpdates.rows (updates : TableUpdates) : List Row := selectedRows (updates.bufmon.getD [])

def TableUpdates.Tracks (updates : TableUpdates) (bit : Nat) : Prop :=
  ∃ row ∈ updates.rows, row.Tracks bit

def TableUpdates.mode (updates : TableUpdates) (mode : BVIEW_BST_COLLECTION_MODE) :
    BVIEW_BST_COLLECTION_MODE :=
  (updates.System.getD []).foldl row_mode mode

theorem update_bufmon_data (updates : TableUpdates) (data : BVIEW_OVSDB_BST_DATA) :
    (update_bufmon updates.bufmon data).data =
      (updates.rows.foldl (fun (scan : TableScan) row => row.scan scan)
        { data, trackMask := 0, triggers := [] }).data := by
  unfold update_bufmon TableUpdates.rows
  cases updates.bufmon with
  | none => rfl
  | some transitions =>
      dsimp only [Option.getD_some]
      rw [bst_ovsdb_cache_update_table, foldl_selected]

theorem update_bufmon_mask (updates : TableUpdates) (data : BVIEW_OVSDB_BST_DATA) (bit : Nat) :
    (update_bufmon updates.bufmon data).data.config_data.trackingMask.testBit bit = true ↔
      data.config_data.trackingMask.testBit bit = true ∨ updates.Tracks bit := by
  rw [update_bufmon_data]
  exact (foldl_masks _ _ (by intro bit hbit; simp at hbit) bit).2

theorem update_bufmon_config (updates : TableUpdates) (data : BVIEW_OVSDB_BST_DATA) :
    { (update_bufmon updates.bufmon data).data.config_data with
      trackingMask := data.config_data.trackingMask } = data.config_data := by
  rw [update_bufmon_data]
  exact foldl_scan_config updates.rows { data, trackMask := 0, triggers := [] }

theorem update_bufmon_coded (updates : TableUpdates) (data : BVIEW_OVSDB_BST_DATA) :
    Coded (update_bufmon updates.bufmon data).notifications := by
  unfold update_bufmon
  split
  · simp [Coded]
  · exact coded_track _

end Bufmon

section CacheUpdate

-- What a message makes of the configuration of the plugin.
structure Followed (updates : TableUpdates) (before after : BVIEW_OVSDB_CONFIG_DATA)
    (notifications : List Int) : Prop where
  mask : ∀ bit, after.trackingMask.testBit bit = true ↔
    before.trackingMask.testBit bit = true ∨ updates.Tracks bit
  mode : after.bst_tracking_mode = updates.mode before.bst_tracking_mode
  features : notifications = [] → SameFeatures before after
  coded : Coded notifications

theorem update_system_followed (updates : TableUpdates) (data : BVIEW_OVSDB_BST_DATA) :
    Reported data.config_data (updates.mode data.config_data.bst_tracking_mode)
      (update_system updates.System data).data.config_data
      (update_system updates.System data).notifications := by
  unfold update_system TableUpdates.mode
  cases updates.System with
  | none => exact ⟨rfl, rfl, fun _ => .refl _, by simp [Coded]⟩
  | some rows => exact update_system_reported rows data.config_data

theorem cache_update_followed (updates : TableUpdates) (data : BVIEW_OVSDB_BST_DATA) :
    Followed updates data.config_data (bst_ovsdb_cache_update updates data).data.config_data
      (bst_ovsdb_cache_update updates data).notifications := by
  have hconfig := update_bufmon_config updates data
  have hsystem := update_system_followed updates (update_bufmon updates.bufmon data).data
  have hmode : (update_bufmon updates.bufmon data).data.config_data.bst_tracking_mode =
      data.config_data.bst_tracking_mode := by
    rw [← hconfig]
  have hsame : SameFeatures data.config_data
      (update_bufmon updates.bufmon data).data.config_data := by
    rw [← hconfig]
    exact ⟨rfl, rfl, rfl⟩
  constructor
  · intro bit
    rw [← update_bufmon_mask, ← hsystem.mask]
    exact Iff.rfl
  · rw [← hmode]
    exact hsystem.mode
  · intro hnone
    exact hsame.trans (hsystem.features (List.append_eq_nil_iff.mp hnone).2)
  · exact (update_bufmon_coded updates data).append hsystem.coded

end CacheUpdate

section Write

@[simp] theorem intToBool_boolToInt (b : Bool) : intToBool (boolToInt b) = b := by
  cases b <;> rfl

@[simp] theorem reported_limit_reported (limit : Int32) :
    reported_limit (reported_limit limit) = reported_limit limit := by
  unfold reported_limit
  split_ifs with h h'
  · exact absurd h' (by decide)
  · rfl
  · rfl

variable (data : BVIEW_BST_CONFIG) (cache : BVIEW_OVSDB_BST_DATA)

-- What the application reads back of what it wrote. The mask is left alone by the
-- write of the initialisation.
theorem config_get_set :
    sbplugin_ovsdb_bst_config_get (sbplugin_ovsdb_bst_config_set data cache).data =
      { sbplugin_ovsdb_bst_config_get cache with
        enableStatsMonitoring := data.enableStatsMonitoring
        mode := data.mode
        enablePeriodicCollection := data.enablePeriodicCollection
        collectionPeriod := (Int32.ofInt data.collectionPeriod).toInt
        bstMaxTriggers := reported_limit data.bstMaxTriggers
        sendSnapshotOnTrigger := boolToInt (intToBool data.sendSnapshotOnTrigger)
        trackMask :=
          if data.trackInit then cache.config_data.trackingMask else data.trackMask } := by
  unfold sbplugin_ovsdb_bst_config_set bst_ovsdb_bst_config_set
  dsimp only
  split_ifs <;> rfl

end Write

end BroadView.Ovsdb
