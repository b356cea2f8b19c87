import Mathlib.Data.List.Nodup
import BroadView.Ovsdb.Config.Lemmas

-- What the decoding of the bufmon_config column makes of a map.
namespace BroadView.Ovsdb

open BroadView.Bst CString

theorem lookup_of_nodup {α β : Type*} [BEq α] [LawfulBEq α] {l : List (α × β)}
    (hnodup : (l.map Prod.fst).Nodup) {entry : α × β} (hmem : entry ∈ l) :
    l.lookup entry.1 = some entry.2 := by
  obtain ⟨before, after, rfl⟩ := List.append_of_mem hmem
  refine List.lookup_eq_some_iff.mpr ⟨before, after, rfl, ?_⟩
  intro other hother
  rw [List.map_append, List.map_cons] at hnodup
  have hdisjoint := (List.nodup_append.mp hnodup).2.2
  have hne := hdisjoint other.1 (List.mem_map_of_mem hother) entry.1 List.mem_cons_self
  simpa using hne.symm

-- The value of a key, or the default, when no key occurs twice.
theorem lookup_elim_eq_iff {α β γ : Type*} [BEq α] [LawfulBEq α] {l : List (α × β)}
    (hnodup : (l.map Prod.fst).Nodup) (key : α) (default : γ) (decode : β → γ) :
    (l.lookup key).elim default decode = default ↔
      ∀ entry ∈ l, entry.1 = key → decode entry.2 = default := by
  constructor
  · rintro helim entry hmem rfl
    simpa [lookup_of_nodup hnodup hmem] using helim
  · intro hall
    cases hlookup : l.lookup key with
    | none => rfl
    | some value =>
        obtain ⟨before, after, rfl, -⟩ := List.lookup_eq_some_iff.mp hlookup
        exact hall (key, value) (by simp) rfl

section Fields

-- A field that only the elements with its key touch: what they make of it, and
-- whether they note a change of it.
structure Follows {γ : Type} (key : String) (get : BVIEW_OVSDB_CONFIG_DATA → γ)
    (update : γ → List Char → γ) : Prop where
  self : ∀ scan value,
    get (config_element scan (key.toList, value)).config = update (get scan.config) value
  other : ∀ scan element, element.1 ≠ key.toList →
    get (config_element scan element).config = get scan.config

theorem Follows.foldl {γ : Type} {key : String} {get : BVIEW_OVSDB_CONFIG_DATA → γ}
    {update : γ → List Char → γ} (h : Follows key get update) (map : ConfigMap)
    (hnodup : (map.map Prod.fst).Nodup) (scan : ConfigScan) :
    get (map.foldl config_element scan).config =
      (map.lookup key.toList).elim (get scan.config) (update (get scan.config)) := by
  induction map generalizing scan with
  | nil => rfl
  | cons element rest ih =>
      obtain ⟨hnew, hrest⟩ := List.nodup_cons.mp hnodup
      rw [List.foldl_cons, ih hrest, List.lookup_cons]
      by_cases hkey : element.1 = key.toList
      · have hnone : rest.lookup key.toList = none := by
          rw [List.lookup_eq_none_iff]
          intro other hother
          have hne : element.1 ≠ other.1 := fun heq => hnew (heq ▸ List.mem_map_of_mem hother)
          simpa [hkey] using hne
        have helement : element = (key.toList, element.2) := Prod.ext hkey rfl
        rw [hnone, hkey, helement, h.self]
        simp
      · rw [h.other scan element hkey]
        have hbeq : (key.toList == element.1) = false := by simpa using Ne.symm hkey
        rw [hbeq]

theorem follows_mode : Follows "counters_mode" (·.bst_tracking_mode) fun _ => requested_mode where
  self _ _ := rfl
  other scan element hkey := by
    unfold config_element
    dsimp only
    rw [if_neg hkey]
    split_ifs <;> rfl

-- The enable flag is never turned off.
theorem follows_enable :
    Follows "enabled" (·.bst_enable) fun enabled value => isTrue value || enabled where
  self scan value := by
    cases hvalue : isTrue value <;> cases henable : scan.config.bst_enable <;>
      simp [config_element, ConfigScan.set, hvalue, henable]
  other scan element hkey := by
    unfold config_element
    dsimp only
    split_ifs <;> rfl

theorem follows_periodic :
    Follows "periodic_collection_enabled" (·.periodic_collection) fun _ => isTrue where
  self _ _ := rfl
  other scan element hkey := by
    unfold config_element
    dsimp only
    split_ifs <;> rfl

theorem follows_interval : Follows "collection_period" (·.collection_interval) fun _ => atoi where
  self _ _ := rfl
  other scan element hkey := by
    unfold config_element
    dsimp only
    split_ifs <;> rfl

theorem follows_collection :
    Follows "threshold_trigger_collection_enabled" (·.triggerCollectionEnabled)
      fun _ => isTrue where
  self _ _ := rfl
  other scan element hkey := by
    unfold config_element
    dsimp only
    split_ifs <;> rfl

theorem follows_snapshot :
    Follows "snapshot_on_threshold_trigger" (·.sendSnapshotOnTrigger) fun _ => isTrue where
  self _ _ := rfl
  other scan element hkey := by
    unfold config_element
    dsimp only
    split_ifs <;> rfl

theorem follows_limit :
    Follows "threshold_trigger_rate_limit" (·.bstMaxTriggers) fun _ => atoi where
  self _ _ := rfl
  other scan element hkey := by
    unfold config_element
    dsimp only
    split_ifs <;> rfl

end Fields

section Notes

-- An element whose value differs from the field of its key; those of the mode
-- are never noted.
def noted (config : BVIEW_OVSDB_CONFIG_DATA) (element : List Char × List Char) : Bool :=
  (config_element { config, updated := false } element).updated

theorem config_element_updated (scan : ConfigScan) (element : List Char × List Char) :
    (config_element scan element).updated = (scan.updated || noted scan.config element) := by
  unfold noted config_element
  dsimp only
  split_ifs <;> simp [ConfigScan.set]

theorem noted_iff (config : BVIEW_OVSDB_CONFIG_DATA) (element : List Char × List Char) :
    noted config element = true ↔
      (element.1 = "enabled".toList ∧ isTrue element.2 ≠ config.bst_enable) ∨
      (element.1 = "periodic_collection_enabled".toList ∧
        isTrue element.2 ≠ config.periodic_collection) ∨
      (element.1 = "collection_period".toList ∧
        atoi element.2 ≠ config.collection_interval) ∨
      (element.1 = "threshold_trigger_collection_enabled".toList ∧
        isTrue element.2 ≠ config.triggerCollectionEnabled) ∨
      (element.1 = "snapshot_on_threshold_trigger".toList ∧
        isTrue element.2 ≠ config.sendSnapshotOnTrigger) ∨
      (element.1 = "threshold_trigger_rate_limit".toList ∧
        atoi element.2 ≠ config.bstMaxTriggers) := by
  unfold noted config_element
  dsimp only
  split_ifs with hmode henabled hsame hperiodic hperiod hcollection hsnapshot hlimit
  all_goals simp_all [ConfigScan.set]

-- What an element of another key has done does not matter.
theorem noted_of_ne (scan : ConfigScan) {element other : List Char × List Char}
    (hne : element.1 ≠ other.1) :
    noted (config_element scan element).config other = noted scan.config other := by
  have hother : ∀ {γ : Type} {key : String} {get : BVIEW_OVSDB_CONFIG_DATA → γ}
      {update : γ → List Char → γ}, Follows key get update → other.1 = key.toList →
      get (config_element scan element).config = get scan.config :=
    fun h hkey => h.other scan element (hkey ▸ hne)
  rw [Bool.eq_iff_iff, noted_iff, noted_iff]
  refine or_congr (and_congr_right fun hkey => ?_) <| or_congr (and_congr_right fun hkey => ?_) <|
    or_congr (and_congr_right fun hkey => ?_) <| or_congr (and_congr_right fun hkey => ?_) <|
    or_congr (and_congr_right fun hkey => ?_) (and_congr_right fun hkey => ?_)
  · rw [hother follows_enable hkey]
  · rw [hother follows_periodic hkey]
  · rw [hother follows_interval hkey]
  · rw [hother follows_collection hkey]
  · rw [hother follows_snapshot hkey]
  · rw [hother follows_limit hkey]

theorem foldl_config_updated (map : ConfigMap) (hnodup : (map.map Prod.fst).Nodup)
    (scan : ConfigScan) :
    (map.foldl config_element scan).updated = (scan.updated || map.any (noted scan.config)) := by
  induction map generalizing scan with
  | nil => simp
  | cons element rest ih =>
      obtain ⟨hnew, hrest⟩ := List.nodup_cons.mp hnodup
      have hany : rest.any (noted (config_element scan element).config) =
          rest.any (noted scan.config) := by
        rw [Bool.eq_iff_iff, List.any_eq_true, List.any_eq_true]
        apply exists_congr
        intro other
        apply and_congr_right
        intro hother
        rw [noted_of_ne scan fun heq : element.1 = other.1 =>
          hnew (heq ▸ List.mem_map_of_mem hother)]
      rw [List.foldl_cons, ih hrest, config_element_updated, hany, List.any_cons, Bool.or_assoc]

end Notes

section Decoded

variable (map : ConfigMap) (config : BVIEW_OVSDB_CONFIG_DATA)

-- The configuration that a map asks for: the value of each key it has, and what
-- was there before for the others.
def decoded : BVIEW_OVSDB_CONFIG_DATA :=
  { bst_enable := (map.lookup "enabled".toList).elim config.bst_enable isTrue
    bst_tracking_mode :=
      (map.lookup "counters_mode".toList).elim config.bst_tracking_mode requested_mode
    periodic_collection :=
      (map.lookup "periodic_collection_enabled".toList).elim config.periodic_collection isTrue
    collection_interval :=
      (map.lookup "collection_period".toList).elim config.collection_interval atoi
    bstMaxTriggers :=
      (map.lookup "threshold_trigger_rate_limit".toList).elim config.bstMaxTriggers atoi
    sendSnapshotOnTrigger :=
      (map.lookup "snapshot_on_threshold_trigger".toList).elim config.sendSnapshotOnTrigger isTrue
    triggerCollectionEnabled :=
      (map.lookup "threshold_trigger_collection_enabled".toList).elim
        config.triggerCollectionEnabled isTrue
    trackingMask := config.trackingMask }

-- The update of a System row that has the map as its column.
def map_update : SystemUpdate := { old := none, new := some (some map) }

-- The decoding of a map: each field is what the map asks for, and the change is
-- notified if and only if some field changed.
structure DecodesExactly : Prop where
  fields : (bst_system_bufmon_config_update map config).config = decoded map config
  notified : (system_row_update { config, notifications := [] } (map_update map)).notifications =
      [BVIEW_BST_CONFIG_FEATURE_UPDATE] ↔
    (bst_system_bufmon_config_update map config).config ≠ config

theorem notifications_map_update :
    (system_row_update { config, notifications := [] } (map_update map)).notifications =
      if (bst_system_bufmon_config_update map config).updated then
        [BVIEW_BST_CONFIG_FEATURE_UPDATE] else [] := rfl

variable {map} (hnodup : (map.map Prod.fst).Nodup)

include hnodup

theorem update_config_eq :
    (bst_system_bufmon_config_update map config).config =
      { decoded map config with
        bst_enable := (decoded map config).bst_enable || config.bst_enable } := by
  have henable := follows_enable.foldl map hnodup { config, updated := false }
  have hmode := follows_mode.foldl map hnodup { config, updated := false }
  have hperiodic := follows_periodic.foldl map hnodup { config, updated := false }
  have hinterval := follows_interval.foldl map hnodup { config, updated := false }
  have hcollection := follows_collection.foldl map hnodup { config, updated := false }
  have hsnapshot := follows_snapshot.foldl map hnodup { config, updated := false }
  have hlimit := follows_limit.foldl map hnodup { config, updated := false }
  have hmask := (foldl_config_element map { config, updated := false }).2.1
  have hor : (map.lookup "enabled".toList).elim config.bst_enable
      (fun value => isTrue value || config.bst_enable) =
        ((decoded map config).bst_enable || config.bst_enable) := by
    unfold decoded
    cases map.lookup "enabled".toList <;> simp
  rw [hor] at henable
  unfold bst_system_bufmon_config_update
  generalize (map.foldl config_element { config, updated := false }).config = after at *
  cases after
  simp_all only [decoded]

-- The fields whose change is noted.
def NotedDiffer (config config' : BVIEW_OVSDB_CONFIG_DATA) : Prop :=
  config' ≠ { config with bst_tracking_mode := config'.bst_tracking_mode }

theorem update_noted_iff :
    (bst_system_bufmon_config_update map config).updated = true ↔
      NotedDiffer config (decoded map config) := by
  have hupdated := foldl_config_updated map hnodup { config, updated := false }
  have hnone : map.any (noted config) = false ↔
      decoded map config =
        { config with bst_tracking_mode := (decoded map config).bst_tracking_mode } := by
    simp only [decoded, BVIEW_OVSDB_CONFIG_DATA.mk.injEq, lookup_elim_eq_iff hnodup, true_and,
      and_true, List.any_eq_false]
    constructor
    · intro hall
      refine ⟨fun element hmem hkey => ?_, fun element hmem hkey => ?_,
        fun element hmem hkey => ?_, fun element hmem hkey => ?_, fun element hmem hkey => ?_,
        fun element hmem hkey => ?_⟩
      all_goals
        by_contra hne
        exact hall element hmem ((noted_iff config element).mpr (by simp [hkey, hne]))
    · rintro ⟨henable, hperiodic, hinterval, hlimit, hsnapshot, hcollection⟩ element hmem hnoted
      rcases (noted_iff config element).mp hnoted with h | h | h | h | h | h
      · exact h.2 (henable element hmem h.1)
      · exact h.2 (hperiodic element hmem h.1)
      · exact h.2 (hinterval element hmem h.1)
      · exact h.2 (hcollection element hmem h.1)
      · exact h.2 (hsnapshot element hmem h.1)
      · exact h.2 (hlimit element hmem h.1)
  rw [bst_system_bufmon_config_update, hupdated, Bool.false_or, NotedDiffer, ne_eq, ← hnone,
    Bool.not_eq_false]

-- The decoding is exact unless it has to turn the enable flag off, or the mode
-- is all that changes.
theorem bufmon_config_exact_iff :
    DecodesExactly map config ↔
      (config.bst_enable = true → (decoded map config).bst_enable = true) ∧
      ((decoded map config).bst_tracking_mode = config.bst_tracking_mode ∨
        NotedDiffer config (decoded map config)) := by
  have hconfig := update_config_eq config hnodup
  have henable : (bst_system_bufmon_config_update map config).config = decoded map config ↔
      (config.bst_enable = true → (decoded map config).bst_enable = true) := by
    rw [hconfig]
    cases h : (decoded map config).bst_enable <;> cases config.bst_enable <;>
      cases hd : decoded map config <;> simp_all
  have hnotified :
      (system_row_update { config, notifications := [] } (map_update map)).notifications =
        [BVIEW_BST_CONFIG_FEATURE_UPDATE] ↔ NotedDiffer config (decoded map config) := by
    rw [notifications_map_update, ← update_noted_iff config hnodup]
    split_ifs with hupdated <;> simp [hupdated]
  have hsame : decoded map config = config ↔
      (decoded map config).bst_tracking_mode = config.bst_tracking_mode ∧
        ¬ NotedDiffer config (decoded map config) := by
    unfold NotedDiffer
    rw [not_not]
    constructor
    · intro h
      rw [h]
      exact ⟨rfl, rfl⟩
    · rintro ⟨hmode, heq⟩
      rw [hmode] at heq
      exact heq
  constructor
  · rintro ⟨hfields, hnotify⟩
    refine ⟨henable.mp hfields, ?_⟩
    rw [hnotified, hfields, ne_eq, hsame] at hnotify
    tauto
  · rintro ⟨hon, hmode⟩
    have hfields := henable.mpr hon
    refine ⟨hfields, ?_⟩
    rw [hnotified, hfields, ne_eq, hsame]
    tauto

end Decoded

def enabledConfig : BVIEW_OVSDB_CONFIG_DATA :=
  { bst_enable := true, bst_tracking_mode := .CURRENT, periodic_collection := false
    collection_interval := 5, bstMaxTriggers := 60, sendSnapshotOnTrigger := false
    triggerCollectionEnabled := true, trackingMask := 0 }

theorem period_decoded :
    DecodesExactly [("collection_period".toList, "10".toList)] enabledConfig := by
  apply (bufmon_config_exact_iff enabledConfig (by decide)).mpr
  exact ⟨fun _ => rfl, .inl rfl⟩

-- The flag is not turned off, and a change of the mode alone notifies nothing.
theorem disabling_not_decoded :
    ¬ DecodesExactly [("enabled".toList, "false".toList)] enabledConfig ∧
      ¬ DecodesExactly [("counters_mode".toList, "peak".toList)] enabledConfig := by
  constructor
  · intro h
    exact absurd h.fields (by decide)
  · intro h
    exact absurd (h.notified.mpr (by decide)) (by decide)

end BroadView.Ovsdb
