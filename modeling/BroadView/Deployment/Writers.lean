import BroadView.Deployment.Lemmas

-- What the writers of the plugin's configuration do to each other's parameters.
namespace BroadView.Deployment

open Bst Ovsdb Transition

-- The feature parameters of the plugin that a request does not carry.
structure Unrequested (mask : BST_CONFIG_PARAM_MASK) (before after : BVIEW_BST_CONFIG) : Prop where
  enable : mask.ENABLE = false → after.enableStatsMonitoring = before.enableStatsMonitoring
  period : mask.COLL_INTRVL = false → after.collectionPeriod = before.collectionPeriod
  limit : mask.TGR_RATE_LIMIT = false → after.bstMaxTriggers = before.bstMaxTriggers
  snapshot : mask.SND_SNAP_TGR = false →
    after.sendSnapshotOnTrigger = before.sendSnapshotOnTrigger

-- The re-enable after a trigger is a feature request for the enable flag alone.
def enable_only : BST_CONFIG_PARAM_MASK := { (default : BST_CONFIG_PARAM_MASK) with ENABLE := true }

structure KeepsTracking (before after : BVIEW_BST_CONFIG) : Prop where
  mask : after.trackMask = before.trackMask
  mode : after.mode = before.mode

structure KeepsFeature (before after : BVIEW_BST_CONFIG) : Prop where
  enable : after.enableStatsMonitoring = before.enableStatsMonitoring
  limit : after.bstMaxTriggers = before.bstMaxTriggers
  snapshot : after.sendSnapshotOnTrigger = before.sendSnapshotOnTrigger

-- What the handling of a message has to leave alone.
def Keeps (msg : BVIEW_BST_REQUEST_MSG) (before after : BVIEW_BST_CONFIG) : Prop :=
  match msg.msg_type with
  | .SET_TRACK => KeepsFeature before after
  | .SET_FEATURE => KeepsTracking before after ∧ Unrequested msg.config.configMask before after
  | .TRIGGER_REPORT | .ENABLE_BST_ON_TRIGGER =>
      KeepsTracking before after ∧ Unrequested enable_only before after
  | _ => True

def UpdateKept (state : Deployment) (event : Event) : Prop :=
  ∀ act, state.handled event = some act →
    Keeps act.msg state.reported (state.step event).reported

-- The application's copy is what the plugin reports, as far as a tracking request
-- writes it.
structure CopyCurrent (copy : BSTJSON_CONFIGURE_BST_FEATURE) (got : BVIEW_BST_CONFIG) : Prop where
  enable : intToBool copy.bstEnable = got.enableStatsMonitoring
  limit : reported_limit copy.bstMaxTriggers = got.bstMaxTriggers
  snapshot : boolToInt (intToBool copy.sendSnapshotOnTrigger) = got.sendSnapshotOnTrigger

-- The same for the parameters that a feature request writes without carrying them.
structure CopyCurrentBut (mask : BST_CONFIG_PARAM_MASK) (copy : BSTJSON_CONFIGURE_BST_FEATURE)
    (got : BVIEW_BST_CONFIG) : Prop where
  period : mask.COLL_INTRVL = false →
    (Int32.ofInt (collection_period copy.collectionInterval)).toInt = got.collectionPeriod
  limit : mask.TGR_RATE_LIMIT = false → reported_limit copy.bstMaxTriggers = got.bstMaxTriggers
  snapshot : mask.SND_SNAP_TGR = false →
    boolToInt (intToBool copy.sendSnapshotOnTrigger) = got.sendSnapshotOnTrigger

-- A write that is prepared from what a thread has read, or from the application's
-- copy, finds the plugin as it was read or copied.
def Current (cxt : BVIEW_BST_UNIT_CXT) (act : UnitAction) (got : BVIEW_BST_CONFIG) : Prop :=
  let read := act.env.sbapi_bst_config_get.2
  let copy := cxt.bst_config
  match act.msg.msg_type with
  | .SET_TRACK =>
      track_config_changed act.msg.track copy.track = false ∨ CopyCurrent copy.config got
  | .SET_FEATURE =>
      act.msg.config.configMask.ENABLE = false ∨
        KeepsTracking got read ∧ CopyCurrentBut act.msg.config.configMask copy.config got
  | .TRIGGER_REPORT => KeepsTracking got read ∧ Unrequested enable_only got read
  | .ENABLE_BST_ON_TRIGGER =>
      copy.config.bstEnable ≠ 1 ∨ KeepsTracking got read ∧ Unrequested enable_only got read
  | _ => True

def WritesCurrent (state : Deployment) (event : Event) : Prop :=
  ∀ act, state.handled event = some act → Current (state.bst.unit 0) act state.reported

section Written

variable {cxt : BVIEW_BST_UNIT_CXT} {act : UnitAction} {plugin : BVIEW_OVSDB_BST_DATA}

-- What the plugin reports after a write other than the one of the initialisation.
def rewritten (mode got : BVIEW_BST_CONFIG) : BVIEW_BST_CONFIG :=
  { got with
    enableStatsMonitoring := mode.enableStatsMonitoring
    mode := mode.mode
    enablePeriodicCollection := mode.enablePeriodicCollection
    collectionPeriod := (Int32.ofInt mode.collectionPeriod).toInt
    bstMaxTriggers := reported_limit mode.bstMaxTriggers
    sendSnapshotOnTrigger := boolToInt (intToBool mode.sendSnapshotOnTrigger)
    trackMask := mode.trackMask }

theorem reported_write {mode : BVIEW_BST_CONFIG} (hinit : mode.trackInit = false) :
    sbplugin_ovsdb_bst_config_get (writeTo plugin (some mode)) =
      rewritten mode (sbplugin_ovsdb_bst_config_get plugin) := by
  rw [writeTo, config_get_set, hinit, if_neg (by simp)]
  rfl

-- What a thread reads is what the plugin reports at some time.
def ReadBefore (read : BVIEW_BST_CONFIG) : Prop :=
  ∃ plugin, read = sbplugin_ovsdb_bst_config_get plugin

-- Writing back what was read restores it, but for what the thread changes.
theorem rewritten_read {read got : BVIEW_BST_CONFIG} (h : ReadBefore read) :
    rewritten read got =
      { got with
        enableStatsMonitoring := read.enableStatsMonitoring
        mode := read.mode
        enablePeriodicCollection := read.enablePeriodicCollection
        collectionPeriod := read.collectionPeriod
        bstMaxTriggers := read.bstMaxTriggers
        sendSnapshotOnTrigger := read.sendSnapshotOnTrigger
        trackMask := read.trackMask } := by
  obtain ⟨plugin, rfl⟩ := h
  simp only [rewritten, sbplugin_ovsdb_bst_config_get, bst_ovsdb_cache_bst_config_get,
    reported_limit_reported, intToBool_boolToInt, Int32.ofInt_toInt]

theorem written_no_init {mode : BVIEW_BST_CONFIG}
    (hread : ReadBefore act.env.sbapi_bst_config_get.2) (h : written cxt act = some mode) :
    mode.trackInit = false := by
  obtain ⟨plugin, hread⟩ := hread
  have hinit : act.env.sbapi_bst_config_get.2.trackInit = false := by
    rw [hread]
    rfl
  unfold written at h
  split at h
  · split_ifs at h
    cases h
    exact hinit
  · split_ifs at h
    cases h
    exact hinit
  · cases h
    exact hinit
  · split_ifs at h
    cases h
    exact hinit
  · cases h

theorem store_request_interval (request : BSTJSON_CONFIGURE_BST_FEATURE) (env : Env)
    (hcarried : request.configMask.COLL_INTRVL = false) :
    (store_request request env cxt).bst_config.config.collectionInterval =
      cxt.bst_config.config.collectionInterval := by
  unfold store_request set_async_reports
  dsimp only
  split_ifs <;> simp [setFeature, store_late_params, store_early_params, hcarried,
    bst_periodic_collection_timer_add, bst_periodic_collection_timer_delete]

theorem store_request_snapshot (request : BSTJSON_CONFIGURE_BST_FEATURE) (env : Env)
    (hcarried : request.configMask.SND_SNAP_TGR = false) :
    (store_request request env cxt).bst_config.config.sendSnapshotOnTrigger =
      cxt.bst_config.config.sendSnapshotOnTrigger := by
  unfold store_request set_async_reports
  dsimp only
  split_ifs <;> simp [setFeature, store_late_params, store_early_params, hcarried,
    bst_periodic_collection_timer_add, bst_periodic_collection_timer_delete]

theorem keepsFeature_refl (got : BVIEW_BST_CONFIG) : KeepsFeature got got := ⟨rfl, rfl, rfl⟩

theorem keepsTracking_refl (got : BVIEW_BST_CONFIG) : KeepsTracking got got := ⟨rfl, rfl⟩

theorem unrequested_refl (mask : BST_CONFIG_PARAM_MASK) (got : BVIEW_BST_CONFIG) :
    Unrequested mask got got :=
  ⟨fun _ => rfl, fun _ => rfl, fun _ => rfl, fun _ => rfl⟩

-- A tracking request writes the application's copy.
theorem track_kept_iff (got read : BVIEW_BST_CONFIG) (request : BSTJSON_CONFIGURE_BST_TRACKING)
    (copy : BSTJSON_CONFIGURE_BST_FEATURE) :
    KeepsFeature got (rewritten (track_mode request copy read) got) ↔ CopyCurrent copy got := by
  constructor
  · rintro ⟨henable, hlimit, hsnapshot⟩
    exact ⟨henable, hlimit, hsnapshot⟩
  · rintro ⟨henable, hlimit, hsnapshot⟩
    exact ⟨henable, hlimit, hsnapshot⟩

-- A feature request writes the tracking parameters that were read, and the copy of
-- what it does not carry.
theorem feature_kept_iff (got read : BVIEW_BST_CONFIG) (request : BSTJSON_CONFIGURE_BST_FEATURE)
    (env : Env) (cxt : BVIEW_BST_UNIT_CXT) (hcarries : request.configMask.ENABLE = true) :
    KeepsTracking got (rewritten
        (feature_mode request (store_request request env cxt).bst_config.config read) got) ∧
      Unrequested request.configMask got (rewritten
        (feature_mode request (store_request request env cxt).bst_config.config read) got) ↔
    KeepsTracking got read ∧ CopyCurrentBut request.configMask cxt.bst_config.config got := by
  have hlimit : request.configMask.TGR_RATE_LIMIT = false →
      (store_request request env cxt).bst_config.config.bstMaxTriggers =
        cxt.bst_config.config.bstMaxTriggers := by
    intro hcarried
    rw [store_request_limit, requestedLimit, if_neg (by simp [hcarried])]
  refine and_congr ⟨fun ⟨hmask, hmode⟩ => ⟨hmask, hmode⟩, fun ⟨hmask, hmode⟩ => ⟨hmask, hmode⟩⟩ ?_
  constructor
  · rintro ⟨-, hperiod, hrate, hsnapshot⟩
    constructor
    · intro hcarried
      have hkept := hperiod hcarried
      simp only [rewritten, feature_mode, store_request_interval request env hcarried] at hkept
      exact hkept
    · intro hcarried
      have hkept := hrate hcarried
      simp only [rewritten, feature_mode, hlimit hcarried] at hkept
      exact hkept
    · intro hcarried
      have hkept := hsnapshot hcarried
      simp only [rewritten, feature_mode, store_request_snapshot request env hcarried] at hkept
      exact hkept
  · rintro ⟨hperiod, hrate, hsnapshot⟩
    constructor
    · intro hcarried
      rw [hcarries] at hcarried
      cases hcarried
    · intro hcarried
      simp only [rewritten, feature_mode, store_request_interval request env hcarried]
      exact hperiod hcarried
    · intro hcarried
      simp only [rewritten, feature_mode, hlimit hcarried]
      exact hrate hcarried
    · intro hcarried
      simp only [rewritten, feature_mode, store_request_snapshot request env hcarried]
      exact hsnapshot hcarried

-- The re-enable writes what was read.
theorem reenable_kept_iff {got read : BVIEW_BST_CONFIG} (hread : ReadBefore read) :
    KeepsTracking got (rewritten (trigger_mode read) got) ∧
        Unrequested enable_only got (rewritten (trigger_mode read) got) ↔
      KeepsTracking got read ∧ Unrequested enable_only got read := by
  have heq : rewritten (trigger_mode read) got =
      { rewritten read got with
        enableStatsMonitoring := true
        enablePeriodicCollection := true } := rfl
  rw [heq, rewritten_read hread]
  refine and_congr ⟨fun ⟨hmask, hmode⟩ => ⟨hmask, hmode⟩, fun ⟨hmask, hmode⟩ => ⟨hmask, hmode⟩⟩ ?_
  have honly : enable_only.ENABLE = false → False := by
    decide
  constructor
  · rintro ⟨-, hperiod, hlimit, hsnapshot⟩
    exact ⟨fun h => (honly h).elim, hperiod, hlimit, hsnapshot⟩
  · rintro ⟨-, hperiod, hlimit, hsnapshot⟩
    exact ⟨fun h => (honly h).elim, hperiod, hlimit, hsnapshot⟩

theorem kept_iff (hgot : act.env.sbapi_bst_config_get.1 = .SUCCESS)
    (hread : ReadBefore act.env.sbapi_bst_config_get.2) :
    Keeps act.msg (sbplugin_ovsdb_bst_config_get plugin)
        (sbplugin_ovsdb_bst_config_get (writeTo plugin (written cxt act))) ↔
      Current cxt act (sbplugin_ovsdb_bst_config_get plugin) := by
  have hwrite : ∀ mode, written cxt act = some mode →
      sbplugin_ovsdb_bst_config_get (writeTo plugin (written cxt act)) =
        rewritten mode (sbplugin_ovsdb_bst_config_get plugin) := by
    intro mode hmode
    rw [hmode, reported_write (written_no_init hread hmode)]
  have hquiet : written cxt act = none →
      sbplugin_ovsdb_bst_config_get (writeTo plugin (written cxt act)) =
        sbplugin_ovsdb_bst_config_get plugin := by
    intro hnone
    rw [hnone, writeTo]
  cases htype : act.msg.msg_type with
  | SET_TRACK =>
      simp only [Keeps, Current, htype]
      by_cases hchanged : track_config_changed act.msg.track cxt.bst_config.track = true
      · rw [hwrite _ (by simp only [written, htype, hchanged, if_true]; rfl), track_kept_iff]
        simp [hchanged]
      · rw [hquiet (by simp [written, htype, hchanged])]
        exact iff_of_true (keepsFeature_refl _) (Or.inl (by simpa using hchanged))
  | SET_FEATURE =>
      simp only [Keeps, Current, htype]
      by_cases hcarries : act.msg.config.configMask.ENABLE = true
      · rw [hwrite _ (by simp only [written, htype, hcarries, hgot, and_self, if_true]; rfl),
          feature_kept_iff _ _ _ _ _ hcarries]
        simp [hcarries]
      · rw [hquiet (by simp [written, htype, hcarries])]
        exact iff_of_true ⟨keepsTracking_refl _, unrequested_refl _ _⟩
          (Or.inl (by simpa using hcarries))
  | TRIGGER_REPORT =>
      simp only [Keeps, Current, htype]
      rw [hwrite _ (by simp only [written, htype]; rfl), reenable_kept_iff hread]
  | ENABLE_BST_ON_TRIGGER =>
      simp only [Keeps, Current, htype]
      by_cases henabled : cxt.bst_config.config.bstEnable = 1
      · rw [hwrite _ (by simp only [written, htype, henabled, if_true]; rfl),
          reenable_kept_iff hread]
        simp [henabled]
      · rw [hquiet (by simp [written, htype, henabled])]
        exact iff_of_true ⟨keepsTracking_refl _, unrequested_refl _ _⟩ (Or.inl henabled)
  | _ => simp only [Keeps, Current, htype]

end Written

section Step

variable {state : Deployment} {event : Event}

-- What a thread holds is what the plugin reported when the thread read it.
structure ReadInv (state : Deployment) : Prop where
  app : ∀ got, state.app_read = some got → ReadBefore got
  trigger : ∀ got, state.trigger_read = some got → ReadBefore got

theorem readBefore_getD {read : Option BVIEW_BST_CONFIG}
    (h : ∀ got, read = some got → ReadBefore got) : ReadBefore (read.getD state.reported) := by
  cases read with
  | none => exact ⟨state.plugin, rfl⟩
  | some got => exact h got rfl

-- A handled message finds its thread's configuration as the answer to its calls.
theorem handled_answered {act : UnitAction} (h : state.handled event = some act) :
    ∃ got env, act.env = answering got env ∧ (got = state.app_got ∨ got = state.trigger_got) := by
  obtain ⟨action, haction, htaken⟩ := Option.bind_eq_some_iff.mp h
  have henv := taken_env htaken
  cases event with
  | bst_app_main env =>
      cases haction
      exact ⟨_, env, (Option.some.inj henv).symm, Or.inl rfl⟩
  | bst_trigger_main env =>
      cases haction
      exact ⟨_, env, (Option.some.inj henv).symm, Or.inr rfl⟩
  | bst_send_request msg =>
      cases haction
      cases henv
  | bst_trigger_send_request msg =>
      cases haction
      cases henv
  | bst_ovsdb_cache_update updates => cases haction
  | app_config_get => cases haction
  | trigger_config_get => cases haction

theorem handled_read (hinv : ReadInv state) {act : UnitAction}
    (h : state.handled event = some act) :
    act.env.sbapi_bst_config_get.1 = .SUCCESS ∧ ReadBefore act.env.sbapi_bst_config_get.2 := by
  obtain ⟨got, env, henv, hgot⟩ := handled_answered h
  rw [henv]
  rcases hgot with rfl | rfl
  · exact ⟨rfl, readBefore_getD hinv.app⟩
  · exact ⟨rfl, readBefore_getD hinv.trigger⟩

theorem readInv_step (event : Event) (hinv : ReadInv state) : ReadInv (state.step event) := by
  have hnone : ∀ got, (none : Option BVIEW_BST_CONFIG) = some got → ReadBefore got := by
    intro got hgot
    cases hgot
  have hnow : ∀ got, some state.reported = some got → ReadBefore got := by
    intro got hgot
    exact ⟨state.plugin, (Option.some.inj hgot).symm⟩
  cases event with
  | bst_ovsdb_cache_update updates => exact ⟨hinv.app, hinv.trigger⟩
  | bst_send_request msg => exact ⟨hinv.app, hinv.trigger⟩
  | bst_trigger_send_request msg => exact ⟨hinv.app, hinv.trigger⟩
  | app_config_get =>
      simp only [step]
      split_ifs
      · exact hinv
      · exact ⟨hnow, hinv.trigger⟩
  | trigger_config_get =>
      simp only [step]
      split_ifs
      · exact hinv
      · exact ⟨hinv.app, hnow⟩
  | bst_app_main env => exact ⟨hnone, hinv.trigger⟩
  | bst_trigger_main env => exact ⟨hinv.app, hnone⟩

theorem updateKept_iff (hinv : ReadInv state) (event : Event) :
    UpdateKept state event ↔ WritesCurrent state event := by
  refine forall_congr' fun act => forall_congr' fun hhandled => ?_
  obtain ⟨hgot, hread⟩ := handled_read hinv hhandled
  rw [reported, reported, handled_plugin state hhandled]
  exact kept_iff hgot hread

end Step

section Run

variable (plugin : BVIEW_OVSDB_BST_DATA) (asic : BVIEW_ASIC_CAPABILITIES) (env : Env)

theorem readInv_initial : ReadInv (initial plugin asic env) := by
  constructor
  · intro got hgot
    cases hgot
  · intro got hgot
    cases hgot

-- In every interleaving, no writer touches the parameters that are not its own
-- exactly if each writes them as the plugin reports them at that moment.
theorem updates_kept_iff (events : List Event) :
    Along step UpdateKept (initial plugin asic env) events ↔
      Along step WritesCurrent (initial plugin asic env) events := by
  constructor
  · intro hkept
    refine along_of_invariant ReadInv ?_ ?_ _ events (readInv_initial plugin asic env) hkept
    · intro state event hinv _
      exact readInv_step event hinv
    · intro state event hinv hstep
      exact (updateKept_iff hinv event).mp hstep
  · intro hcurrent
    refine along_of_invariant ReadInv ?_ ?_ _ events (readInv_initial plugin asic env) hcurrent
    · intro state event hinv _
      exact readInv_step event hinv
    · intro state event hinv hstep
      exact (updateKept_iff hinv event).mpr hstep

end Run

-- A tracking request for the peak of the device is posted; before it is handled,
-- the trigger limit is raised in the server.
def trackDevice : BVIEW_BST_REQUEST_MSG :=
  { BVIEW_BST_REQUEST_MSG.zeroed .SET_TRACK 0 with
    track :=
      { trackMask := 2
        trackPeakStats := true
        track := { (default : RealmFlags) with device := true } } }

def limitRaised : TableUpdates :=
  { bufmon := none
    System := some [{ old := none, new := some (some
      [("threshold_trigger_rate_limit".toList, "7".toList)]) }] }

theorem tracking_request_reverts_limit :
    ¬ Along step UpdateKept (initial bst_ovsdb_cache sampleAsic sampleEnv)
      [.bst_send_request trackDevice, .bst_ovsdb_cache_update limitRaised,
        .bst_app_main sampleEnv] := by
  rintro ⟨-, -, hkept, -⟩
  have hlimit := (hkept _ rfl).limit
  revert hlimit
  decide +kernel

end BroadView.Deployment
