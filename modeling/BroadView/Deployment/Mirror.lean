import BroadView.Deployment.Lemmas

-- The application's copy of the configuration, as it follows the updates of the
-- server.
namespace BroadView.Deployment

open Bst Ovsdb Transition

structure MirrorsFeature (copy : BSTJSON_CONFIGURE_BST_FEATURE) (got : BVIEW_BST_CONFIG) :
    Prop where
  enable : copy.bstEnable = boolToInt got.enableStatsMonitoring
  limit : copy.bstMaxTriggers = got.bstMaxTriggers
  snapshot : copy.sendSnapshotOnTrigger = got.sendSnapshotOnTrigger

structure MirrorsTrack (copy : BSTJSON_CONFIGURE_BST_TRACKING) (got : BVIEW_BST_CONFIG) :
    Prop where
  flags : ∀ realm : BVIEW_BST_REALM_ID, copy.track.has realm = got.trackMask.testBit realm.toNat
  mask : copy.trackMask = got.trackMask
  peak : copy.trackPeakStats = decide (got.mode = .PEAK)

-- The application's parameters are those that the plugin reports.
structure Mirrors (state : Deployment) : Prop where
  feature : MirrorsFeature state.copy.config state.reported
  track : MirrorsTrack state.copy.track state.reported

-- Updates of the server, and the notifications of them.
inductive Following where
  | bst_ovsdb_cache_update (updates : TableUpdates)
  | app_config_get
  | bst_app_main (env : Env)

def Following.event : Following → Event
  | .bst_ovsdb_cache_update updates => .bst_ovsdb_cache_update updates
  | .app_config_get => .app_config_get
  | .bst_app_main env => .bst_app_main env

def follow (state : Deployment) (following : Following) : Deployment :=
  state.step following.event

-- The state once all that is queued is handled.
def settled (env : Env) (state : Deployment) : Deployment :=
  run step state (List.replicate state.bst.recvMsgQid.length (.bst_app_main env))

def MirrorSound (state : Deployment) (following : Following) : Prop :=
  ∀ env, Mirrors ((state.follow following).settled env)

-- The update leaves the mask and the mode as they are.
def MirrorAllowed (state : Deployment) : Following → Prop
  | .bst_ovsdb_cache_update updates =>
      (∀ bit, updates.Tracks bit → state.reported.trackMask.testBit bit = true) ∧
        updates.mode state.reported.mode = state.reported.mode
  | _ => True

section Pending

variable {state : Deployment} {n : Nat}

-- The notifications that are still to be handled. The last of them brings the
-- copy up to date, also when the configuration has been read for it already.
structure Pending (state : Deployment) (n : Nat) : Prop where
  queue : state.bst.recvMsgQid = List.replicate n (.zeroed .UPDATE_FEATURE 0)
  reads : ∀ got, state.app_read = some got → 0 < n
  none_left : n = 0 → MirrorsFeature state.copy.config state.reported
  one_left : n = 1 →
    MirrorsFeature (update_feature state.app_got (state.bst.unit 0)).bst_config.config
      state.reported

theorem mirrors_update_feature (got : BVIEW_BST_CONFIG) (cxt : BVIEW_BST_UNIT_CXT) :
    MirrorsFeature (update_feature got cxt).bst_config.config got :=
  ⟨rfl, rfl, rfl⟩

theorem Pending.length (h : Pending state n) : state.bst.recvMsgQid.length = n := by
  rw [h.queue, List.length_replicate]

-- The handling of one notification.
theorem handle_notification {rest : List BVIEW_BST_REQUEST_MSG} (env : Env)
    (hqueue : state.bst.recvMsgQid = .zeroed .UPDATE_FEATURE 0 :: rest) :
    state.step (.bst_app_main env) =
      { state with
        bst := { state.bst with
          unit := Function.update state.bst.unit 0
            (update_feature state.app_got (state.bst.unit 0))
          recvMsgQid := rest }
        app_read := none } := by
  have htaken : taken units state.bst (.bst_app_main (answering state.app_got env)) =
      some (.app (.zeroed .UPDATE_FEATURE 0) (answering state.app_got env)) := by
    simp only [taken, hqueue]
    rfl
  have hemits : emits units state.bst (.bst_app_main (answering state.app_got env)) = [] := by
    simp only [emits, htaken]
    rfl
  have hunit : unitsAfter units state.bst (.bst_app_main (answering state.app_got env)) =
      Function.update state.bst.unit 0 (update_feature state.app_got (state.bst.unit 0)) := by
    simp only [unitsAfter, htaken]
    rfl
  simp only [step, act, Bst.step, hemits, hunit, hqueue, List.filterMap_nil, List.append_nil,
    List.tail_cons, List.foldl_nil]

theorem pending_handled (env : Env) (h : Pending state (n + 1)) :
    Pending (state.step (.bst_app_main env)) n := by
  have hqueue := h.queue
  rw [List.replicate_succ] at hqueue
  rw [handle_notification env hqueue]
  constructor
  · rfl
  · intro got hgot
    cases hgot
  · rintro rfl
    have hlast := h.one_left rfl
    simpa [copy, reported] using hlast
  · intro _
    exact mirrors_update_feature _ _

-- Without a message, the thread waits.
theorem pending_idle (env : Env) (h : Pending state 0) :
    Pending (state.step (.bst_app_main env)) 0 ∧
      (state.step (.bst_app_main env)).copy = state.copy ∧
      (state.step (.bst_app_main env)).reported = state.reported := by
  have hqueue : state.bst.recvMsgQid = [] := h.queue
  have htaken : taken units state.bst (.bst_app_main (answering state.app_got env)) = none := by
    simp only [taken, hqueue]
  have hemits : emits units state.bst (.bst_app_main (answering state.app_got env)) = [] := by
    simp only [emits, htaken, hqueue]
  have heq : state.step (.bst_app_main env) = { state with app_read := none } := by
    simp only [step, act, Bst.step, hemits, unitsAfter, htaken, hqueue, List.filterMap_nil,
      List.append_nil, List.tail_nil, List.foldl_nil]
    rw [← hqueue]
  rw [heq]
  refine ⟨⟨h.queue, ?_, h.none_left, ?_⟩, rfl, rfl⟩
  · intro got hgot
    cases hgot
  · intro hone
    cases hone

theorem pending_get (h : Pending state n) : Pending (state.step .app_config_get) n := by
  simp only [step]
  split_ifs with hempty
  · exact h
  · refine ⟨h.queue, ?_, h.none_left, fun _ => mirrors_update_feature _ _⟩
    intro got _
    rw [h.queue] at hempty
    by_contra hzero
    obtain rfl : n = 0 := by omega
    exact hempty rfl

theorem mirrorsFeature_congr {copy : BSTJSON_CONFIGURE_BST_FEATURE}
    {plugin plugin' : BVIEW_OVSDB_BST_DATA}
    (hsame : SameFeatures plugin.config_data plugin'.config_data)
    (h : MirrorsFeature copy (sbplugin_ovsdb_bst_config_get plugin)) :
    MirrorsFeature copy (sbplugin_ovsdb_bst_config_get plugin') := by
  have hlimit : (sbplugin_ovsdb_bst_config_get plugin').bstMaxTriggers =
      (sbplugin_ovsdb_bst_config_get plugin).bstMaxTriggers :=
    congrArg reported_limit hsame.limit
  constructor
  · rw [h.enable]
    exact congrArg boolToInt hsame.enable.symm
  · rw [h.limit, hlimit]
  · rw [h.snapshot]
    exact congrArg boolToInt hsame.snapshot.symm

-- A change of the features comes with a notification.
theorem pending_update (updates : TableUpdates) (h : Pending state n) :
    Pending (state.step (.bst_ovsdb_cache_update updates))
      (n + (state.received updates).notifications.length) := by
  have hfollowed : Followed updates state.plugin.config_data
      (state.received updates).data.config_data (state.received updates).notifications :=
    cache_update_followed updates state.plugin
  simp only [step, run_notices, notices_coded hfollowed.coded]
  constructor
  · rw [h.queue, ← List.replicate_add]
  · intro got hgot
    have hpos := h.reads got hgot
    omega
  · intro hnone
    have hquiet : (state.received updates).notifications = [] :=
      List.length_eq_zero_iff.mp (by omega)
    exact mirrorsFeature_congr (hfollowed.features hquiet) (h.none_left (by omega))
  · intro hone
    by_cases hquiet : (state.received updates).notifications = []
    · have hn : n = 1 := by
        rw [hquiet] at hone
        exact hone
      have hlast := mirrorsFeature_congr (hfollowed.features hquiet) (h.one_left hn)
      cases hread : state.app_read with
      | none =>
          simp only [app_got, Option.getD_none]
          exact mirrors_update_feature _ _
      | some got =>
          simp only [app_got, hread, Option.getD_some] at hlast ⊢
          exact hlast
    · have hpos := List.length_pos_iff.mpr hquiet
      have hread : state.app_read = none := by
        by_contra hsome
        obtain ⟨got, hgot⟩ := Option.ne_none_iff_exists'.mp hsome
        have hn := h.reads got hgot
        omega
      simp only [app_got, hread, Option.getD_none]
      exact mirrors_update_feature _ _

end Pending

section Step

variable {state : Deployment} {n : Nat}

-- No event stores the tracking parameters.
theorem follow_track (h : Pending state n) (following : Following) :
    (state.follow following).copy.track = state.copy.track := by
  cases following with
  | bst_ovsdb_cache_update updates =>
      simp only [follow, Following.event, step, run_notices, copy]
  | app_config_get =>
      simp only [follow, Following.event, step]
      split_ifs <;> rfl
  | bst_app_main env =>
      cases n with
      | zero => exact congrArg BVIEW_BST_CFG_PARAMS.track (pending_idle env h).2.1
      | succ n =>
          have hqueue := h.queue
          rw [List.replicate_succ] at hqueue
          simp only [follow, Following.event, handle_notification env hqueue, copy,
            Function.update_self]
          rfl

theorem follow_pending (h : Pending state n) (following : Following) :
    ∃ n', Pending (state.follow following) n' := by
  cases following with
  | bst_ovsdb_cache_update updates => exact ⟨_, pending_update updates h⟩
  | app_config_get => exact ⟨n, pending_get h⟩
  | bst_app_main env =>
      cases n with
      | zero => exact ⟨0, (pending_idle env h).1⟩
      | succ n => exact ⟨n, pending_handled env h⟩

-- The handling of all notifications brings the feature parameters up to date and
-- touches nothing else.
theorem pending_settled (env : Env) (h : Pending state n) :
    Pending (state.settled env) 0 ∧ (state.settled env).copy.track = state.copy.track ∧
      (state.settled env).reported = state.reported := by
  have hrun : ∀ (n : Nat) (state : Deployment), Pending state n →
      Pending (run step state (List.replicate n (.bst_app_main env))) 0 ∧
        (run step state (List.replicate n (.bst_app_main env))).copy.track = state.copy.track ∧
        (run step state (List.replicate n (.bst_app_main env))).reported = state.reported := by
    intro n
    induction n with
    | zero => exact fun state h => ⟨h, rfl, rfl⟩
    | succ n ih =>
        intro state h
        have hqueue := h.queue
        rw [List.replicate_succ] at hqueue
        obtain ⟨hpending, htrack, hreported⟩ := ih _ (pending_handled env h)
        rw [List.replicate_succ, run_cons]
        refine ⟨hpending, htrack.trans (follow_track h (.bst_app_main env)), hreported.trans ?_⟩
        rw [handle_notification env hqueue]
        rfl
  unfold settled
  rw [h.length]
  exact hrun n state h

theorem settled_mirrors_iff (env : Env) (h : Pending state n) :
    Mirrors (state.settled env) ↔ MirrorsTrack state.copy.track state.reported := by
  obtain ⟨hpending, htrack, hreported⟩ := pending_settled env h
  constructor
  · intro hmirrors
    have hsettled := hmirrors.track
    rw [htrack, hreported] at hsettled
    exact hsettled
  · intro hmirrored
    refine ⟨hpending.none_left rfl, ?_⟩
    rw [htrack, hreported]
    exact hmirrored

theorem peak_inj (mode mode' : BVIEW_BST_COLLECTION_MODE)
    (h : decide (mode = .PEAK) = decide (mode' = .PEAK)) : mode = mode' := by
  cases mode <;> cases mode' <;> first | rfl | cases h

theorem mirrorsTrack_congr_iff {copy : BSTJSON_CONFIGURE_BST_TRACKING}
    {got got' : BVIEW_BST_CONFIG} (h : MirrorsTrack copy got) :
    MirrorsTrack copy got' ↔ got'.trackMask = got.trackMask ∧ got'.mode = got.mode := by
  constructor
  · intro h'
    exact ⟨h'.mask.symm.trans h.mask, peak_inj _ _ (h'.peak.symm.trans h.peak)⟩
  · rintro ⟨hmask, hmode⟩
    constructor
    · intro realm
      rw [hmask]
      exact h.flags realm
    · rw [hmask]
      exact h.mask
    · rw [hmode]
      exact h.peak

theorem update_mask_iff (updates : TableUpdates) :
    (state.step (.bst_ovsdb_cache_update updates)).reported.trackMask =
        state.reported.trackMask ↔
      ∀ bit, updates.Tracks bit → state.reported.trackMask.testBit bit = true := by
  have hmask : ∀ bit,
      (state.step (.bst_ovsdb_cache_update updates)).reported.trackMask.testBit bit = true ↔
        state.reported.trackMask.testBit bit = true ∨ updates.Tracks bit :=
    (cache_update_followed updates state.plugin).mask
  constructor
  · intro heq bit htracks
    rw [← heq, hmask]
    exact Or.inr htracks
  · intro hall
    refine Nat.eq_of_testBit_eq fun bit => Bool.eq_iff_iff.mpr ?_
    rw [hmask, or_iff_left_of_imp (hall bit)]

structure MirrorInv (state : Deployment) : Prop where
  pending : ∃ n, Pending state n
  track : MirrorsTrack state.copy.track state.reported

theorem mirrorSound_iff (hinv : MirrorInv state) (following : Following) :
    MirrorSound state following ↔
      MirrorsTrack state.copy.track (state.follow following).reported := by
  obtain ⟨n, hpending⟩ := hinv.pending
  obtain ⟨n', hnext⟩ := follow_pending hpending following
  have htrack := follow_track hpending following
  constructor
  · intro hsound
    have hsettled := (settled_mirrors_iff sampleEnv hnext).mp (hsound sampleEnv)
    rw [htrack] at hsettled
    exact hsettled
  · intro hmirrored env
    refine (settled_mirrors_iff env hnext).mpr ?_
    rw [htrack]
    exact hmirrored

-- Only an update changes what the plugin reports.
theorem follow_reported (h : Pending state n) {following : Following}
    (hupdate : ∀ updates, following ≠ .bst_ovsdb_cache_update updates) :
    (state.follow following).reported = state.reported := by
  cases following with
  | bst_ovsdb_cache_update updates => exact absurd rfl (hupdate updates)
  | app_config_get =>
      simp only [follow, Following.event, step]
      split_ifs <;> rfl
  | bst_app_main env =>
      cases n with
      | zero => exact (pending_idle env h).2.2
      | succ n =>
          have hqueue := h.queue
          rw [List.replicate_succ] at hqueue
          simp only [follow, Following.event, handle_notification env hqueue]
          rfl

theorem mirrorSound_iff_allowed (hinv : MirrorInv state) (following : Following) :
    MirrorSound state following ↔ MirrorAllowed state following := by
  rw [mirrorSound_iff hinv]
  obtain ⟨n, hpending⟩ := hinv.pending
  cases following with
  | bst_ovsdb_cache_update updates =>
      have hmode : (state.step (.bst_ovsdb_cache_update updates)).reported.mode =
          updates.mode state.reported.mode :=
        (cache_update_followed updates state.plugin).mode
      rw [mirrorsTrack_congr_iff hinv.track]
      exact and_congr (update_mask_iff updates) (by rw [← hmode]; exact Iff.rfl)
  | app_config_get =>
      rw [follow_reported hpending (by simp)]
      exact iff_of_true hinv.track trivial
  | bst_app_main env =>
      rw [follow_reported hpending (by simp)]
      exact iff_of_true hinv.track trivial

theorem mirrorInv_follow (hinv : MirrorInv state) {following : Following}
    (hsound : MirrorSound state following) : MirrorInv (state.follow following) := by
  obtain ⟨n, hpending⟩ := hinv.pending
  refine ⟨follow_pending hpending following, ?_⟩
  rw [follow_track hpending following]
  exact (mirrorSound_iff hinv following).mp hsound

end Step

section Initial

variable (plugin : BVIEW_OVSDB_BST_DATA) (asic : BVIEW_ASIC_CAPABILITIES) (env : Env)

-- The application writes back what it has read, in the mode that it starts in.
theorem initial_reported : (initial plugin asic env).reported =
    { sbplugin_ovsdb_bst_config_get plugin with
      mode := .CURRENT
      enablePeriodicCollection := true
      collectionPeriod := BVIEW_BST_DEFAULT_PLUGIN_INTERVAL } := by
  refine (config_get_set _ plugin).trans ?_
  have hperiod : BVIEW_BST_DEFAULT_PLUGIN_INTERVAL.bmod Int32.size =
      BVIEW_BST_DEFAULT_PLUGIN_INTERVAL := by
    decide
  have hon : boolToInt true = 1 := rfl
  have hoff : boolToInt false = 0 := rfl
  obtain ⟨⟨enable, mode, periodic, interval, limit, snapshot, trigger, mask⟩, cache⟩ := plugin
  cases enable with
  | true =>
      simp [sbplugin_ovsdb_bst_config_get, bst_ovsdb_cache_bst_config_get, answering, hperiod, hon]
  | false =>
      simp [sbplugin_ovsdb_bst_config_get, bst_ovsdb_cache_bst_config_get, answering, hperiod, hoff]

theorem mask_to_realm_has (mask : Nat) (realm : BVIEW_BST_REALM_ID) :
    (bst_mask_to_realm mask).has realm = mask.testBit realm.toNat := by
  cases realm <;> rfl

theorem initial_mirrors : Mirrors (initial plugin asic env) := by
  constructor
  · rw [initial_reported]
    exact ⟨rfl, rfl, rfl⟩
  · rw [initial_reported]
    exact ⟨mask_to_realm_has _, rfl, rfl⟩

theorem mirrorInv_initial : MirrorInv (initial plugin asic env) := by
  refine ⟨⟨0, rfl, ?_, fun _ => (initial_mirrors plugin asic env).feature, ?_⟩,
    (initial_mirrors plugin asic env).track⟩
  · intro got hgot
    cases hgot
  · intro hone
    cases hone

-- The copy mirrors the plugin right after the initialisation, and after every
-- update, once its notifications are handled, exactly if no update tracks a new
-- realm or changes the mode.
theorem config_mirrored_iff (events : List Following) :
    Mirrors (initial plugin asic env) ∧
      (Along follow MirrorSound (initial plugin asic env) events ↔
        Along follow MirrorAllowed (initial plugin asic env) events) := by
  refine ⟨initial_mirrors plugin asic env, ?_, ?_⟩
  · intro hsound
    refine along_of_invariant MirrorInv ?_ ?_ _ events (mirrorInv_initial plugin asic env) hsound
    · intro state following hinv hstep
      exact mirrorInv_follow hinv hstep
    · intro state following hinv hstep
      exact (mirrorSound_iff_allowed hinv following).mp hstep
  · intro hallowed
    refine along_of_invariant MirrorInv ?_ ?_ _ events (mirrorInv_initial plugin asic env) hallowed
    · intro state following hinv hstep
      exact mirrorInv_follow hinv ((mirrorSound_iff_allowed hinv following).mpr hstep)
    · intro state following hinv hstep
      exact (mirrorSound_iff_allowed hinv following).mpr hstep

end Initial

-- The row of an enabled counter appears. Its realm is tracked by the plugin, and
-- the application refreshes its feature parameters.
def enabledQueue : Ovsdb.Row :=
  { key := { name := "egress-uc-queue/uc-buffer-count/5/NONE".toList, hw_unit_id := 0 }
    values :=
      { counter_value := some 100
        trigger_threshold := some 80
        enabled := some true
        status := none } }

def queueAppears : TableUpdates :=
  { bufmon := some [(none, some enabledQueue)], System := none }

theorem new_realm_not_mirrored :
    ¬ Along follow MirrorSound (initial bst_ovsdb_cache sampleAsic sampleEnv)
      [.bst_ovsdb_cache_update queueAppears] := by
  rintro ⟨hsound, -⟩
  have hmirrors := hsound sampleEnv
  have hflag := hmirrors.track.flags .EGRESS_UC_QUEUE
  revert hflag
  decide +kernel

end BroadView.Deployment
