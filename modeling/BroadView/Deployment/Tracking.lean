import BroadView.Deployment.Server.Lemmas

-- When a tracking request takes effect, at once and after its echo.
namespace BroadView.Linked

open Bst Ovsdb Transition

-- The plugin tracks what the request describes.
structure Described (request : BSTJSON_CONFIGURE_BST_TRACKING) (got : BVIEW_BST_CONFIG) : Prop where
  mask : got.trackMask = request.trackMask
  mode : got.mode = if request.trackPeakStats then .PEAK else .CURRENT

def handled (state : Linked) (event : LinkedEvent) : Option UnitAction :=
  (Linked.event event).bind state.deployment.handled

def sent (state : Linked) (event : LinkedEvent) : List Transaction :=
  (Linked.event event).elim [] state.deployment.sent

-- The state once the echo of the write has arrived, if there is one: the messages
-- before it have arrived too.
def echoed (state : Linked) (event : LinkedEvent) : Linked :=
  if state.sent event = [] then state.step event else (state.step event).arrived

def TakesEffect (state : Linked) (event : LinkedEvent) : Prop :=
  ∀ act, state.handled event = some act → act.msg.msg_type = .SET_TRACK →
    (bst_config_track_set act.msg act.env (state.deployment.bst.unit 0)).rv = .SUCCESS →
      Described act.msg.track (state.step event).deployment.reported ∧
        Described act.msg.track (state.echoed event).deployment.reported

-- A request that is equal to the application's copy finds the plugin as described,
-- and any other one finds no message on its way that tracks a realm besides.
def EffectAllowed (state : Linked) (event : LinkedEvent) : Prop :=
  ∀ act, state.handled event = some act → act.msg.msg_type = .SET_TRACK →
    if track_config_changed act.msg.track state.deployment.copy.track then
      ∀ updates ∈ state.inflight, ∀ bit, updates.Tracks bit →
        act.msg.track.trackMask.testBit bit = true
    else Described act.msg.track state.deployment.reported

section Arrived

-- The messages on their way add their realms to the mask and set the modes of
-- their maps in turn.
theorem arrived_reported (state : Linked) :
    (∀ bit, state.arrived.deployment.reported.trackMask.testBit bit = true ↔
      state.deployment.reported.trackMask.testBit bit = true ∨
        ∃ updates ∈ state.inflight, updates.Tracks bit) ∧
    state.arrived.deployment.reported.mode =
      (state.inflight.flatMap TableUpdates.maps).foldl map_mode state.deployment.reported.mode := by
  obtain ⟨deployment, server, inflight⟩ := state
  induction inflight generalizing deployment with
  | nil =>
      refine ⟨fun bit => ?_, rfl⟩
      simp only [List.not_mem_nil, false_and, exists_false, or_false]
      exact Iff.rfl
  | cons updates rest ih =>
      obtain ⟨hmask, hmode⟩ := ih (deployment.step (.bst_ovsdb_cache_update updates))
      have hfollowed : Followed updates deployment.plugin.config_data
          (deployment.received updates).data.config_data
          (deployment.received updates).notifications :=
        cache_update_followed updates deployment.plugin
      constructor
      · intro bit
        have hfirst : (deployment.step (.bst_ovsdb_cache_update updates)).reported.trackMask.testBit
            bit = true ↔ deployment.reported.trackMask.testBit bit = true ∨ updates.Tracks bit :=
          hfollowed.mask bit
        refine (hmask bit).trans ?_
        rw [hfirst, or_assoc, List.exists_mem_cons_iff]
      · have hfirst : (deployment.step (.bst_ovsdb_cache_update updates)).reported.mode =
            updates.maps.foldl map_mode deployment.reported.mode :=
          hfollowed.mode.trans (updates.mode_eq _)
        refine hmode.trans ?_
        rw [hfirst, List.flatMap_cons, List.foldl_append]

end Arrived

section Step

variable {state : Linked} {event : LinkedEvent}

-- An event of the application is a step of it, and the server carries out what it
-- sends.
theorem step_event {ev : Event} (h : Linked.event event = some ev) :
    ∃ rows, state.step event = state.act ev rows := by
  cases event with
  | change config message => cases h
  | deliver => cases h
  | bst_app_main env rows =>
      cases h
      exact ⟨rows, rfl⟩
  | bst_trigger_main env rows =>
      cases h
      exact ⟨rows, rfl⟩
  | _ =>
      cases h
      exact ⟨[], rfl⟩

-- The server's map is the last one on its way, or the one that the plugin has
-- taken over last.
structure LinkedInv (state : Linked) : Prop where
  reads : Deployment.ReadInv state.deployment
  map : ∃ delivered, last_map delivered state.inflight = state.server.bufmon_config

theorem linkedInv_act (ev : Event) (rows : List Uuid) (hinv : LinkedInv state) :
    LinkedInv (state.act ev rows) := by
  obtain ⟨delivered, hmap⟩ := hinv.map
  refine ⟨Deployment.readInv_step ev hinv.reads, delivered, ?_⟩
  simp only [act]
  rw [last_map_append, hmap, ← Server.executeAll_last]

theorem linkedInv_step (event : LinkedEvent) (hinv : LinkedInv state) :
    LinkedInv (state.step event) := by
  obtain ⟨delivered, hmap⟩ := hinv.map
  cases event with
  | change config message =>
      refine ⟨hinv.reads, delivered, ?_⟩
      simp only [step]
      rw [last_map_append, hmap]
      cases config <;> rfl
  | deliver =>
      simp only [step, deliver]
      split
      · exact hinv
      · rename_i updates rest hinflight
        refine ⟨Deployment.readInv_step (.bst_ovsdb_cache_update updates) hinv.reads,
          last_map delivered [updates], ?_⟩
        rw [← last_map_append, List.singleton_append, ← hinflight, hmap]
  | bst_send_request msg => exact linkedInv_act _ _ hinv
  | bst_trigger_send_request msg => exact linkedInv_act _ _ hinv
  | app_config_get => exact linkedInv_act _ _ hinv
  | trigger_config_get => exact linkedInv_act _ _ hinv
  | bst_app_main env rows => exact linkedInv_act _ _ hinv
  | bst_trigger_main env rows => exact linkedInv_act _ _ hinv

theorem linkedInv_initial (plugin : BVIEW_OVSDB_BST_DATA) (asic : BVIEW_ASIC_CAPABILITIES)
    (env : Env) (server : Server) : LinkedInv (initial plugin asic env server) := by
  refine ⟨Deployment.readInv_initial plugin asic env, server.bufmon_config, ?_⟩
  exact (Server.executeAll_last server [] _).symm

end Step

section Write

variable {state : Linked} {event : LinkedEvent} {act : UnitAction}

-- A write that is not the one of the initialisation sends the configuration, then
-- the realms.
theorem write_sent {mode : BVIEW_BST_CONFIG} (hinit : mode.trackInit = false)
    (plugin : BVIEW_OVSDB_BST_DATA) :
    ∃ config : BVIEW_OVSDB_CONFIG_DATA, config.bst_tracking_mode = mode.mode ∧
      config.trackingMask = mode.trackMask ∧
      (sbplugin_ovsdb_bst_config_set mode plugin).sent =
        bst_ovsdb_bst_config_commit config :: bst_ovsdb_bst_tracking_commit config := by
  simp only [sbplugin_ovsdb_bst_config_set, bst_ovsdb_bst_config_set, hinit]
  exact ⟨_, rfl, rfl, rfl⟩

theorem tracking_commit_realms (config : BVIEW_OVSDB_CONFIG_DATA) :
    ∀ transaction ∈ bst_ovsdb_bst_tracking_commit config, ∃ realm,
      transaction = realm_transaction config.trackingMask realm := by
  intro transaction hmem
  rcases List.mem_append.mp hmem with hmem | hmem
  · obtain ⟨realm, -, rfl⟩ := List.mem_map.mp hmem
    exact ⟨realm, rfl⟩
  · exact ⟨_, List.mem_singleton.mp hmem⟩

theorem config_commit_asks (server : Server) (rows : List Uuid)
    (config : BVIEW_OVSDB_CONFIG_DATA) :
    AsksFor (server.execute rows (bst_ovsdb_bst_config_commit config)).1.bufmon_config
      config.bst_tracking_mode := by
  simp only [bst_ovsdb_bst_config_commit, Server.execute]
  split_ifs with hperm
  · exact (config_map_asks config).perm hperm
  · exact config_map_asks config

theorem config_commit_silent {server : Server} {rows : List Uuid}
    {config : BVIEW_OVSDB_CONFIG_DATA} {updates : TableUpdates} {bit : Nat}
    (hupdates : updates ∈ (server.execute rows (bst_ovsdb_bst_config_commit config)).2) :
    ¬ updates.Tracks bit := by
  intro htracks
  simp only [bst_ovsdb_bst_config_commit, Server.execute] at hupdates
  split_ifs at hupdates
  · cases hupdates
  · obtain rfl := List.mem_singleton.mp hupdates
    obtain ⟨row, hrow, -⟩ := htracks
    cases hrow

-- What the server makes of a write: its map asks for the mode, and what it reports
-- tracks realms of the mask only.
theorem executed_write (server : Server) (rows : List Uuid) (config : BVIEW_OVSDB_CONFIG_DATA) :
    let executed := Server.executeAll rows server
      (bst_ovsdb_bst_config_commit config :: bst_ovsdb_bst_tracking_commit config)
    AsksFor executed.1.bufmon_config config.bst_tracking_mode ∧
      ∀ updates ∈ executed.2, ∀ bit, updates.Tracks bit →
        config.trackingMask.testBit bit = true := by
  constructor
  · rw [Server.executeAll_cons_config]
    · exact config_commit_asks server rows config
    · intro transaction hmem
      obtain ⟨realm, rfl⟩ := tracking_commit_realms config transaction hmem
      exact ⟨_, _, rfl⟩
  · intro updates hmem bit htracks
    obtain ⟨transaction, htransaction, server', hupdates⟩ := Server.mem_executeAll server rows hmem
    rcases List.mem_cons.mp htransaction with rfl | htransaction
    · exact absurd htracks (config_commit_silent hupdates)
    · obtain ⟨realm, rfl⟩ := tracking_commit_realms config transaction htransaction
      exact Server.realm_transaction_tracks hupdates htracks

-- Once the echo of a write has arrived, the plugin is in the mode of the write, and
-- tracks its realms and those of the messages that were on their way.
theorem arrived_write {ev : Event} (rows : List Uuid) {mode : BVIEW_BST_CONFIG}
    (hinv : LinkedInv state) (hinit : mode.trackInit = false)
    (hsent : state.deployment.sent ev =
      (sbplugin_ovsdb_bst_config_set mode state.deployment.plugin).sent)
    (hreported : (state.deployment.step ev).reported =
      Deployment.rewritten mode state.deployment.reported) :
    (∀ bit, (state.act ev rows).arrived.deployment.reported.trackMask.testBit bit = true ↔
      mode.trackMask.testBit bit = true ∨ ∃ updates ∈ state.inflight, updates.Tracks bit) ∧
    (state.act ev rows).arrived.deployment.reported.mode = mode.mode := by
  obtain ⟨config, hmode, hmask, hconfig⟩ := write_sent hinit state.deployment.plugin
  obtain ⟨hasks, htracks⟩ := executed_write state.server rows config
  rw [← hconfig, ← hsent] at hasks htracks
  obtain ⟨delivered, hmap⟩ := (linkedInv_act ev rows hinv).map
  obtain ⟨hbits, hmodes⟩ := arrived_reported (state.act ev rows)
  have hnow : (state.act ev rows).deployment.reported =
      Deployment.rewritten mode state.deployment.reported := hreported
  rw [hnow] at hmodes
  constructor
  · intro bit
    rw [hbits bit, hnow]
    constructor
    · rintro (hbit | ⟨updates, hmem, hbit⟩)
      · exact Or.inl hbit
      · rcases List.mem_append.mp hmem with hmem | hmem
        · exact Or.inr ⟨updates, hmem, hbit⟩
        · rw [← hmask]
          exact Or.inl (htracks updates hmem bit hbit)
    · rintro (hbit | ⟨updates, hmem, hbit⟩)
      · exact Or.inl hbit
      · exact Or.inr ⟨updates, List.mem_append_left _ hmem, hbit⟩
  · rw [hmodes]
    refine @foldl_map_mode delivered _ _ ?_
    rw [hmap]
    exact hmode ▸ hasks

-- A request that differs from the application's copy is written.
theorem changed_effect_iff {ev : Event} (rows : List Uuid) (hinv : LinkedInv state)
    (hact : state.deployment.handled ev = some act) (htype : act.msg.msg_type = .SET_TRACK)
    (hchanged : track_config_changed act.msg.track state.deployment.copy.track = true) :
    state.deployment.sent ev ≠ [] ∧
      Described act.msg.track (state.act ev rows).deployment.reported ∧
      (Described act.msg.track (state.act ev rows).arrived.deployment.reported ↔
        ∀ updates ∈ state.inflight, ∀ bit, updates.Tracks bit →
          act.msg.track.trackMask.testBit bit = true) := by
  obtain ⟨-, hread⟩ := Deployment.handled_read hinv.reads hact
  have hwritten : written (state.deployment.bst.unit 0) act =
      some (track_mode act.msg.track state.deployment.copy.config
        act.env.sbapi_bst_config_get.2) := by
    simp only [written, htype]
    exact if_pos hchanged
  have hinit := Deployment.written_no_init hread hwritten
  have hsent : state.deployment.sent ev = (sbplugin_ovsdb_bst_config_set
      (track_mode act.msg.track state.deployment.copy.config act.env.sbapi_bst_config_get.2)
      state.deployment.plugin).sent := by
    rw [Deployment.sent_eq, hact, Option.bind_some, hwritten, Option.elim_some]
  have hreported : (state.deployment.step ev).reported = Deployment.rewritten
      (track_mode act.msg.track state.deployment.copy.config act.env.sbapi_bst_config_get.2)
      state.deployment.reported := by
    rw [Deployment.reported, Deployment.handled_plugin _ hact, hwritten,
      Deployment.reported_write hinit]
    rfl
  obtain ⟨hmask, hmode⟩ := arrived_write rows hinv hinit hsent hreported
  refine ⟨?_, ?_, ?_⟩
  · obtain ⟨config, -, -, hconfig⟩ := write_sent hinit state.deployment.plugin
    rw [hsent, hconfig]
    exact List.cons_ne_nil _ _
  · have hnow : (state.act ev rows).deployment.reported = _ := hreported
    rw [hnow]
    exact ⟨rfl, rfl⟩
  · constructor
    · intro hdescribed updates hmem bit htracks
      rw [← hdescribed.mask, hmask]
      exact Or.inr ⟨updates, hmem, htracks⟩
    · intro hall
      refine ⟨Nat.eq_of_testBit_eq fun bit => Bool.eq_iff_iff.mpr ?_, hmode⟩
      rw [hmask]
      constructor
      · rintro (hbit | ⟨updates, hmem, htracks⟩)
        · exact hbit
        · exact hall updates hmem bit htracks
      · exact Or.inl

-- A request that is equal to the copy is skipped.
theorem skipped_effect {ev : Event} (rows : List Uuid)
    (hact : state.deployment.handled ev = some act) (htype : act.msg.msg_type = .SET_TRACK)
    (hsame : track_config_changed act.msg.track state.deployment.copy.track = false) :
    state.deployment.sent ev = [] ∧
      (state.act ev rows).deployment.reported = state.deployment.reported := by
  have hwritten : written (state.deployment.bst.unit 0) act = none := by
    simp only [written, htype]
    exact if_neg (by rw [Deployment.copy] at hsame; simp [hsame])
  constructor
  · rw [Deployment.sent_eq, hact, Option.bind_some, hwritten, Option.elim_none]
  · have hplugin := Deployment.handled_plugin _ hact
    rw [hwritten] at hplugin
    exact congrArg sbplugin_ovsdb_bst_config_get hplugin

-- The request succeeds when the plugin accepts its write, also when it is skipped.
theorem track_set_rv (msg : BVIEW_BST_REQUEST_MSG) {env : Env} (cxt : BVIEW_BST_UNIT_CXT)
    (hset : env.sbapi_bst_config_set = .SUCCESS) :
    (bst_config_track_set msg env cxt).rv = .SUCCESS := by
  by_cases hchanged : track_config_changed msg.track cxt.bst_config.track = false
  · simp only [bst_config_track_set, hchanged, if_true]
  · simp only [bst_config_track_set, if_neg hchanged, hset]

theorem takesEffect_iff (hinv : LinkedInv state) (event : LinkedEvent) :
    TakesEffect state event ↔ EffectAllowed state event := by
  refine forall_congr' fun act => forall_congr' fun hhandled => forall_congr' fun htype => ?_
  obtain ⟨ev, hev, hact⟩ := Option.bind_eq_some_iff.mp hhandled
  obtain ⟨rows, hstep⟩ := @step_event state _ _ hev
  have hsent : state.sent event = state.deployment.sent ev := by
    rw [sent, hev, Option.elim_some]
  have hsuccess : (bst_config_track_set act.msg act.env (state.deployment.bst.unit 0)).rv =
      .SUCCESS := by
    obtain ⟨got, env, henv, -⟩ := Deployment.handled_answered hact
    rw [henv]
    exact track_set_rv _ _ rfl
  rw [imp_iff_right hsuccess, echoed, hsent, hstep]
  by_cases hchanged : track_config_changed act.msg.track state.deployment.copy.track = true
  · obtain ⟨hsome, hnow, hiff⟩ := changed_effect_iff rows hinv hact htype hchanged
    rw [if_neg hsome, if_pos hchanged, hiff]
    exact and_iff_right hnow
  · obtain ⟨hnone, hsame⟩ := skipped_effect rows hact htype (by simpa using hchanged)
    rw [if_pos hnone, if_neg hchanged, hsame, and_self]

end Write

-- In every run, each tracking request takes effect and stays in effect after its
-- echo exactly if each finds what it needs.
theorem tracking_takes_effect_iff (plugin : BVIEW_OVSDB_BST_DATA) (asic : BVIEW_ASIC_CAPABILITIES)
    (env : Env) (server : Server) (events : List LinkedEvent) :
    Along step TakesEffect (initial plugin asic env server) events ↔
      Along step EffectAllowed (initial plugin asic env server) events := by
  have hinv := linkedInv_initial plugin asic env server
  constructor
  · intro heffect
    refine along_of_invariant LinkedInv ?_ ?_ _ events hinv heffect
    · intro state event hinv _
      exact linkedInv_step event hinv
    · intro state event hinv hstep
      exact (takesEffect_iff hinv event).mp hstep
  · intro hallowed
    refine along_of_invariant LinkedInv ?_ ?_ _ events hinv hallowed
    · intro state event hinv _
      exact linkedInv_step event hinv
    · intro state event hinv hstep
      exact (takesEffect_iff hinv event).mpr hstep

-- Another client asks for the peak of the counters. The request for their current
-- values is equal to the application's copy, and is skipped.
def emptyServer : Server := { bufmon_config := [], bufmon := fun _ => none }

def trackNothing : BVIEW_BST_REQUEST_MSG :=
  { BVIEW_BST_REQUEST_MSG.zeroed .SET_TRACK 0 with track := default }

theorem skipped_request_keeps_peak :
    ¬ Along step TakesEffect (initial bst_ovsdb_cache sampleAsic sampleEnv emptyServer)
      [.change (some [("counters_mode".toList, "peak".toList)]) [], .deliver, .deliver,
        .bst_app_main sampleEnv [], .bst_send_request trackNothing,
        .bst_app_main sampleEnv []] := by
  rintro ⟨-, -, -, -, -, heffect, -⟩
  have hmode := (heffect _ rfl rfl rfl).1.mode
  revert hmode
  decide +kernel

end BroadView.Linked
