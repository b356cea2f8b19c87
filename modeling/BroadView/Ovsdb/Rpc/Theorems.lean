import BroadView.Transition
import BroadView.Ovsdb.Threshold.Theorems
import BroadView.Ovsdb.Rpc

namespace BroadView.Ovsdb.Rpc

open BroadView.Bst Transition

section Refinement

variable {answers : Answers}

-- The model with open sessions is this one when every session opens.
theorem config_set_open (data : BVIEW_BST_CONFIG) (cache : BVIEW_OVSDB_BST_DATA)
    (hopen : ∀ n, (answers n).open_jsonrpc = true) :
    (sbplugin_ovsdb_bst_config_set data answers cache).rv =
        (Ovsdb.sbplugin_ovsdb_bst_config_set data cache).rv ∧
      (sbplugin_ovsdb_bst_config_set data answers cache).sent.map Sent.request =
        (Ovsdb.sbplugin_ovsdb_bst_config_set data cache).sent.map Request.transaction ∧
      (sbplugin_ovsdb_bst_config_set data answers cache).data =
        (Ovsdb.sbplugin_ovsdb_bst_config_set data cache).data := by
  unfold sbplugin_ovsdb_bst_config_set Ovsdb.sbplugin_ovsdb_bst_config_set bst_ovsdb_bst_config_set
    Ovsdb.bst_ovsdb_bst_config_set bst_ovsdb_bst_config_commit transact
    bst_ovsdb_bst_tracking_commit
  cases data.trackInit <;>
    simp [hopen, config_of, Ovsdb.bst_ovsdb_bst_tracking_commit, realm_request]

theorem threshold_sets_open (port index : Int32) (counters : List (Nat × UInt64))
    (hopen : ∀ n, (answers n).open_jsonrpc = true) (rpc : Option Connection) :
    (threshold_sets port index counters answers rpc).rv =
        (Ovsdb.threshold_sets port index counters).rv ∧
      (threshold_sets port index counters answers rpc).sent.map Sent.request =
        (Ovsdb.threshold_sets port index counters).sent.map Request.threshold := by
  induction counters generalizing answers rpc with
  | nil => exact ⟨rfl, rfl⟩
  | cons counter rest ih =>
      obtain ⟨bid, threshold⟩ := counter
      have hrest := fun rpc => ih (fun n => hopen (n + 1)) rpc
      have hset : bst_ovsdb_threshold_set (answers 0) port index bid threshold rpc =
          (Ovsdb.bst_ovsdb_threshold_set port index bid threshold).elim
            { rv := .FAILURE, sent := [], rpc }
            fun update => send_threshold (answers 0) update (rpc.getD { failed := false }) := by
        unfold bst_ovsdb_threshold_set bst_ovsdb_threshold_commit Ovsdb.bst_ovsdb_threshold_set
        cases bst_ovsdb_resolve_index bid port index with
        | none => rfl
        | some _ =>
            cases Ovsdb.bst_ovsdb_threshold_commit port (index + 1) bid threshold with
            | none => rfl
            | some update => cases rpc <;> simp [hopen]
      rw [threshold_sets, Ovsdb.threshold_sets, hset]
      cases Ovsdb.bst_ovsdb_threshold_set port index bid threshold with
      | none => exact ⟨rfl, rfl⟩
      | some update => simp [send_threshold, hrest]

theorem checked_sets_open (call : ThresholdCall) (hopen : ∀ n, (answers n).open_jsonrpc = true)
    (rpc : Option Connection) :
    (checked_sets call answers rpc).rv = call.set.rv ∧
      (checked_sets call answers rpc).sent.map Sent.request =
        call.set.sent.map Request.threshold := by
  rw [call.set_eq]
  unfold checked_sets Ovsdb.checked_sets
  cases call.invalid with
  | true => exact ⟨rfl, rfl⟩
  | false => exact threshold_sets_open call.port call.index call.counters hopen rpc

end Refinement

section Sends

-- The sends of one write on the session it has.
def sends : List ThresholdUpdate → Answers → Connection → List Sent × Connection
  | [], _, rpc => ([], rpc)
  | update :: rest, answers, rpc =>
      let accepted := (answers 0).jsonrpc_send (.threshold update)
      let others := sends rest (fun n => answers (n + 1)) { failed := rpc.failed || !accepted }
      (⟨.threshold update, accepted, rpc.failed⟩ :: others.1, others.2)

def AllSent (updates : List ThresholdUpdate) (answers : Answers) : Prop :=
  ∀ n update, updates[n]? = some update → (answers n).jsonrpc_send (.threshold update) = true

theorem allSent_cons {update : ThresholdUpdate} {rest : List ThresholdUpdate} {answers : Answers} :
    AllSent (update :: rest) answers ↔
      (answers 0).jsonrpc_send (.threshold update) = true ∧
        AllSent rest fun n => answers (n + 1) := by
  constructor
  · exact fun h => ⟨h 0 update rfl, fun n other hother => h (n + 1) other hother⟩
  · rintro ⟨hfirst, hrest⟩ n other hother
    cases n with
    | zero =>
        cases hother
        exact hfirst
    | succ n => exact hrest n other hother

variable (updates : List ThresholdUpdate) (answers : Answers) (rpc : Connection)

theorem sends_accepted_iff :
    (∀ sent ∈ (sends updates answers rpc).1, sent.accepted = true) ↔ AllSent updates answers := by
  induction updates generalizing answers rpc with
  | nil => simp [sends, AllSent]
  | cons update rest ih => simp [sends, allSent_cons, ih]

theorem sends_failed_iff :
    (sends updates answers rpc).2.failed = true ↔
      rpc.failed = true ∨ ¬ AllSent updates answers := by
  induction updates generalizing answers rpc with
  | nil => simp [sends, AllSent]
  | cons update rest ih =>
      simp only [sends, allSent_cons, ih]
      cases rpc.failed <;> cases (answers 0).jsonrpc_send (.threshold update) <;> simp

theorem sends_not_stale (hfresh : rpc.failed = false) (hall : AllSent updates answers) :
    ∀ sent ∈ (sends updates answers rpc).1, sent.stale = false := by
  induction updates generalizing answers rpc with
  | nil => simp [sends]
  | cons update rest ih =>
      obtain ⟨hfirst, hrest⟩ := allSent_cons.mp hall
      intro sent hsent
      rcases List.mem_cons.mp hsent with rfl | hsent
      · exact hfresh
      · exact ih _ _ (by simp [hfresh, hfirst]) hrest sent hsent

theorem sends_requests : (sends updates answers rpc).1.map Sent.request =
    updates.map Request.threshold := by
  induction updates generalizing answers rpc with
  | nil => rfl
  | cons update rest ih => simp [sends, ih]

end Sends

section Call

variable (call : ThresholdCall) (answers : Answers) (rpc : Option Connection)

-- Whether a counter of the call has the cell that the call names; the counters of
-- one call have tables of the same shape.
def Resolves : Prop :=
  ∀ counter ∈ call.counters, (bst_ovsdb_resolve_index counter.1 call.port call.index).isSome = true

def updates : List ThresholdUpdate :=
  call.counters.filterMap fun counter =>
    Ovsdb.bst_ovsdb_threshold_set call.port call.index counter.1 counter.2

-- A call that comes to no send: its values are refused, it names no cell, or it
-- has no session and gets none.
def Refused : Prop :=
  call.invalid = true ∨ ¬ Resolves call ∨ (rpc = none ∧ (answers 0).open_jsonrpc = false)

theorem resolve_index_congr {bid bid' : Nat} {entry entry' : BidEntry}
    (hbid : bid_tab[bid]? = some entry) (hbid' : bid_tab[bid']? = some entry')
    (hcolumns : entry.num_of_columns = entry'.num_of_columns) (hsize : entry.size = entry'.size)
    (hindexed : entry.is_indexed = entry'.is_indexed)
    (hdouble : entry.is_double_indexed = entry'.is_double_indexed) (port index : Int32) :
    bst_ovsdb_resolve_index bid port index = bst_ovsdb_resolve_index bid' port index := by
  have hposition : entry.position port index = entry'.position port index := by
    simp only [BidEntry.position, hcolumns, hindexed, hdouble]
  have haccepts : entry.Accepts (entry.position port index) ↔
      entry'.Accepts (entry'.position port index) := by
    simp only [BidEntry.Accepts, hposition, hsize]
  simp only [bst_ovsdb_resolve_index, hbid, hbid']
  by_cases h : entry'.Accepts (entry'.position port index)
  · rw [if_pos h, if_pos (haccepts.mpr h), hposition]
  · rw [if_neg h, if_neg (fun h' => h (haccepts.mp h'))]

theorem counters_resolve_alike : ∀ counter ∈ call.counters, ∀ counter' ∈ call.counters,
    bst_ovsdb_resolve_index counter.1 call.port call.index =
      bst_ovsdb_resolve_index counter'.1 call.port call.index := by
  have hpair : ∀ bid bid' (threshold threshold' : UInt64),
      bst_ovsdb_resolve_index bid call.port call.index =
        bst_ovsdb_resolve_index bid' call.port call.index →
      ∀ counter ∈ [(bid, threshold), (bid', threshold')],
        ∀ counter' ∈ [(bid, threshold), (bid', threshold')],
          bst_ovsdb_resolve_index counter.1 call.port call.index =
            bst_ovsdb_resolve_index counter'.1 call.port call.index := by
    intro bid bid' threshold threshold' heq
    simp [heq]
  cases call with
  | ippg | epsp | esp =>
      apply hpair
      apply resolve_index_congr
      · rfl
      · rfl
      all_goals rfl
  | device | ipsp | isp | eucq | eucqg | emcq | cpuq | rqeq => simp [ThresholdCall.counters]

-- A key always fits its buffer, so a counter is sent when its index resolves.
theorem threshold_set_isSome (port index : Int32) (bid : Nat) (threshold : UInt64) :
    (Ovsdb.bst_ovsdb_threshold_set port index bid threshold).isSome =
      (bst_ovsdb_resolve_index bid port index).isSome := by
  unfold Ovsdb.bst_ovsdb_threshold_set
  cases hresolve : bst_ovsdb_resolve_index bid port index with
  | none => rfl
  | some db_index =>
      obtain ⟨entry, hbid, -, -⟩ := resolve_index_some hresolve
      have hlength := keyText_length port (index + 1) (bid_tab_wellFormed hbid)
      simp only [Ovsdb.bst_ovsdb_threshold_commit]
      rw [bst_bid_port_index_to_ovsdb_key_eq port (index + 1) hbid (by omega)]
      rfl

theorem threshold_set_session (calls : Calls) (port index : Int32) (bid : Nat)
    (threshold : UInt64) (connection : Connection) :
    bst_ovsdb_threshold_set calls port index bid threshold (some connection) =
      match Ovsdb.bst_ovsdb_threshold_set port index bid threshold with
      | none => { rv := .FAILURE, sent := [], rpc := some connection }
      | some update => send_threshold calls update connection := by
  unfold bst_ovsdb_threshold_set bst_ovsdb_threshold_commit Ovsdb.bst_ovsdb_threshold_set
  cases bst_ovsdb_resolve_index bid port index <;> rfl

-- On a session, counters that resolve are sent one after the other.
theorem threshold_sets_session (port index : Int32) (counters : List (Nat × UInt64))
    (answers : Answers) (connection : Connection)
    (hresolves : ∀ counter ∈ counters,
      (bst_ovsdb_resolve_index counter.1 port index).isSome = true) :
    threshold_sets port index counters answers (some connection) =
      let sent := sends (counters.filterMap fun counter =>
        Ovsdb.bst_ovsdb_threshold_set port index counter.1 counter.2) answers connection
      { rv := .SUCCESS, sent := sent.1, rpc := some sent.2 } := by
  induction counters generalizing answers connection with
  | nil => rfl
  | cons counter rest ih =>
      obtain ⟨bid, threshold⟩ := counter
      have hfirst := hresolves (bid, threshold) List.mem_cons_self
      rw [← threshold_set_isSome port index bid threshold] at hfirst
      obtain ⟨update, hupdate⟩ := Option.isSome_iff_exists.mp hfirst
      have hrest := fun answers connection => ih answers connection fun counter hcounter =>
        hresolves counter (List.mem_cons_of_mem _ hcounter)
      rw [threshold_sets, threshold_set_session, hupdate]
      simp [send_threshold, hrest, sends, hupdate]

theorem counters_cons : ∃ counter rest, call.counters = counter :: rest := by
  cases call <;> exact ⟨_, _, rfl⟩

-- A call that is refused fails and sends nothing; any other succeeds, whatever
-- becomes of its sends.
theorem checked_sets_refused (hrefused : Refused call answers rpc) :
    (checked_sets call answers rpc).rv ≠ .SUCCESS ∧ (checked_sets call answers rpc).sent = [] ∧
      (checked_sets call answers rpc).rpc = rpc := by
  obtain ⟨⟨bid, threshold⟩, rest, hcounters⟩ := counters_cons call
  have halike := counters_resolve_alike call
  unfold checked_sets
  split_ifs with hinvalid
  · simp
  have hfirst : (bst_ovsdb_threshold_set (answers 0) call.port call.index bid threshold rpc) =
      { rv := .FAILURE, sent := [], rpc } := by
    unfold bst_ovsdb_threshold_set
    cases hresolve : bst_ovsdb_resolve_index bid call.port call.index with
    | none => rfl
    | some db_index =>
        have hresolves : Resolves call := by
          intro counter hcounter
          rw [halike counter hcounter (bid, threshold) (by simp [hcounters]), hresolve]
          rfl
        obtain ⟨rfl, hclosed⟩ :=
          (hrefused.resolve_left hinvalid).resolve_left (not_not.mpr hresolves)
        unfold bst_ovsdb_threshold_commit
        cases Ovsdb.bst_ovsdb_threshold_commit call.port (call.index + 1) bid threshold with
        | none => rfl
        | some update => simp [hclosed]
  rw [hcounters, threshold_sets, hfirst]
  simp

theorem checked_sets_sends (hgoes : ¬ Refused call answers rpc) :
    checked_sets call answers rpc =
      let sent := sends (updates call) answers (rpc.getD { failed := false })
      { rv := .SUCCESS, sent := sent.1, rpc := some sent.2 } := by
  obtain ⟨hvalid, hrest⟩ := not_or.mp hgoes
  obtain ⟨hresolves, hsession⟩ := not_or.mp hrest
  rw [not_not] at hresolves
  have hopened : threshold_sets call.port call.index call.counters answers rpc =
      threshold_sets call.port call.index call.counters answers
        (some (rpc.getD { failed := false })) := by
    cases rpc with
    | some connection => rfl
    | none =>
        have hopen : (answers 0).open_jsonrpc = true := by simpa using hsession
        obtain ⟨⟨bid, threshold⟩, rest, hcounters⟩ := counters_cons call
        rw [hcounters, threshold_sets, threshold_sets]
        have hset : bst_ovsdb_threshold_set (answers 0) call.port call.index bid threshold none =
            bst_ovsdb_threshold_set (answers 0) call.port call.index bid threshold
              (some { failed := false }) := by
          have hfirst := hresolves (bid, threshold) (by simp [hcounters])
          rw [← threshold_set_isSome call.port call.index bid threshold] at hfirst
          obtain ⟨update, hupdate⟩ := Option.isSome_iff_exists.mp hfirst
          rw [threshold_set_session, hupdate]
          unfold Ovsdb.bst_ovsdb_threshold_set at hupdate
          unfold bst_ovsdb_threshold_set bst_ovsdb_threshold_commit
          cases hresolve : bst_ovsdb_resolve_index bid call.port call.index with
          | none => simp [hresolve] at hupdate
          | some db_index =>
              simp only [hresolve] at hupdate
              simp [hupdate, hopen]
        rw [hset]
        rfl
  unfold checked_sets
  rw [if_neg hvalid, hopened]
  exact threshold_sets_session call.port call.index call.counters answers _ hresolves

end Call

section Writes

def configRequest (data : BVIEW_BST_CONFIG) : Request :=
  .transaction (Ovsdb.bst_ovsdb_bst_config_commit (config_of data))

-- The library takes all requests of a tracking commit.
def Tracked (calls : Calls) (trackMask : Nat) : Prop :=
  (∀ realm ∈ realm_ids, calls.jsonrpc_send (realm_request trackMask realm) = true) ∧
    calls.jsonrpc_send_block (realm_request trackMask .INGRESS_SP) = true

-- The library takes all requests of a write without error, or the write notices
-- that it has no session (for a configuration this can be the second one) or
-- refuses its values.
def Answered (plugin : Plugin) : Write × Answers → Prop
  | (.config_set data, answers) =>
      (answers 0).open_jsonrpc = false ∨
      (data.trackInit = false ∧ (answers 1).open_jsonrpc = false) ∨
      ((answers 0).jsonrpc_transact_block (configRequest data) = .reply ∧
        (data.trackInit = false → Tracked (answers 1) data.trackMask))
  | (.clear_stats, answers) =>
      (answers 0).open_jsonrpc = false ∨ (answers 0).jsonrpc_transact_block .clear_stats = .reply
  | (.clear_thresholds, answers) =>
      (answers 0).open_jsonrpc = false ∨
        (answers 0).jsonrpc_transact_block .clear_thresholds = .reply
  | (.threshold_set call, answers) =>
      Refused call answers plugin.rpc ∨ AllSent (updates call) answers

-- A write returns success only when the library took all its requests without
-- error, otherwise it leaves the cache as it is; and no request goes to a cached
-- session on which a send has failed.
@[mk_iff]
structure Sound (plugin : Plugin) (act : Write × Answers) : Prop where
  committed : (perform plugin act.1 act.2).rv = .SUCCESS →
    (perform plugin act.1 act.2).sent ≠ [] ∧
      ∀ sent ∈ (perform plugin act.1 act.2).sent, sent.accepted = true
  unchanged : (perform plugin act.1 act.2).rv ≠ .SUCCESS →
    (perform plugin act.1 act.2).plugin.data = plugin.data
  reopened : ∀ sent ∈ (perform plugin act.1 act.2).sent, sent.stale = false

-- No send has failed on the session that is cached.
def Healthy (plugin : Plugin) : Prop := ∀ rpc, plugin.rpc = some rpc → rpc.failed = false

def step (plugin : Plugin) (act : Write × Answers) : Plugin := (perform plugin act.1 act.2).plugin

variable (plugin : Plugin) (answers : Answers)

-- The four ways of a configuration set.
theorem config_set_cases (data : BVIEW_BST_CONFIG) (cache : BVIEW_OVSDB_BST_DATA) :
    sbplugin_ovsdb_bst_config_set data answers cache =
      if (answers 0).open_jsonrpc then
        let committed := bst_ovsdb_bst_config_commit (answers 0) (config_of data)
        if data.trackInit then
          { committed with data := bst_ovsdb_cache_bst_config_set (config_of data) cache }
        else
          let tracked := bst_ovsdb_bst_tracking_commit (answers 1) (config_of data)
          if (answers 1).open_jsonrpc then
            { rv := .SUCCESS
              sent := committed.sent ++ tracked.sent
              data := bst_ovsdb_cache_bst_config_set (config_of data)
                { cache with config_data :=
                    { cache.config_data with trackingMask := data.trackMask } } }
          else { rv := .FAILURE, sent := committed.sent, data := cache }
      else { rv := .FAILURE, sent := [], data := cache } := by
  cases h₀ : (answers 0).open_jsonrpc <;> cases h₁ : (answers 1).open_jsonrpc <;>
    cases hinit : data.trackInit <;>
    simp [sbplugin_ovsdb_bst_config_set, bst_ovsdb_bst_config_set, bst_ovsdb_bst_config_commit,
      bst_ovsdb_bst_tracking_commit, transact, config_of, h₀, h₁, hinit]

theorem tracking_accepted_iff (calls : Calls) (config : BVIEW_OVSDB_CONFIG_DATA)
    (hopen : calls.open_jsonrpc = true) :
    (∀ sent ∈ (bst_ovsdb_bst_tracking_commit calls config).sent, sent.accepted = true) ↔
      Tracked calls config.trackingMask := by
  simp only [bst_ovsdb_bst_tracking_commit, hopen, if_true, List.forall_mem_append,
    List.forall_mem_map, List.forall_mem_singleton, Tracked]

theorem tracking_not_stale (calls : Calls) (config : BVIEW_OVSDB_CONFIG_DATA) :
    ∀ sent ∈ (bst_ovsdb_bst_tracking_commit calls config).sent, sent.stale = false := by
  unfold bst_ovsdb_bst_tracking_commit
  split_ifs <;> simp [or_imp, forall_and]

theorem config_set_sound_iff (data : BVIEW_BST_CONFIG) :
    Sound plugin (.config_set data, answers) ↔ Answered plugin (.config_set data, answers) := by
  rw [sound_iff]
  simp only [perform, config_set_cases, Answered]
  cases h₀ : (answers 0).open_jsonrpc with
  | false => simp
  | true =>
      cases hinit : data.trackInit with
      | true => simp [bst_ovsdb_bst_config_commit, transact, h₀, configRequest]
      | false =>
          cases h₁ : (answers 1).open_jsonrpc with
          | false => simp [bst_ovsdb_bst_config_commit, transact, h₀]
          | true =>
              have htracked := tracking_accepted_iff (answers 1) (config_of data) h₁
              have hstale := tracking_not_stale (answers 1) (config_of data)
              simp only [bst_ovsdb_bst_config_commit, transact, h₀, if_true, if_false,
                Bool.false_eq_true, Bool.true_eq_false, configRequest, false_or, and_false,
                forall_const, List.cons_append, List.nil_append, ne_eq, reduceCtorEq,
                not_false_eq_true, true_and, not_true_eq_false, false_imp_iff,
                List.forall_mem_cons, decide_eq_true_iff, htracked]
              exact ⟨fun h => h.1, fun h => ⟨h, hstale⟩⟩

theorem clear_stats_sound_iff :
    Sound plugin (.clear_stats, answers) ↔ Answered plugin (.clear_stats, answers) := by
  rw [sound_iff]
  simp only [perform, bst_ovsdb_clear_stats_commit, transact, Answered]
  cases (answers 0).open_jsonrpc <;> simp

theorem clear_thresholds_sound_iff :
    Sound plugin (.clear_thresholds, answers) ↔ Answered plugin (.clear_thresholds, answers) := by
  rw [sound_iff]
  simp only [perform, bst_ovsdb_clear_thresholds_commit, transact, Answered]
  cases (answers 0).open_jsonrpc <;> simp

theorem sends_ne_nil (call : ThresholdCall) (connection : Connection)
    (hgoes : ¬ Refused call answers plugin.rpc) :
    (sends (updates call) answers connection).1 ≠ [] := by
  obtain ⟨counter, rest, hcounters⟩ := counters_cons call
  have hresolves := not_not.mp (not_or.mp (not_or.mp hgoes).2).1
  have hfirst := hresolves counter (by simp [hcounters])
  rw [← threshold_set_isSome call.port call.index counter.1 counter.2] at hfirst
  obtain ⟨update, hupdate⟩ := Option.isSome_iff_exists.mp hfirst
  simp [updates, hcounters, hupdate, sends]

theorem threshold_set_sound_iff (call : ThresholdCall) (hhealthy : Healthy plugin) :
    Sound plugin (.threshold_set call, answers) ↔
      Answered plugin (.threshold_set call, answers) := by
  rw [sound_iff]
  by_cases hrefused : Refused call answers plugin.rpc
  · obtain ⟨hrv, hsent, -⟩ := checked_sets_refused call answers plugin.rpc hrefused
    simp [perform, hrv, hsent, Answered, hrefused]
  · have hsends := checked_sets_sends call answers plugin.rpc hrefused
    have hfresh : (plugin.rpc.getD { failed := false }).failed = false := by
      cases hrpc : plugin.rpc with
      | none => rfl
      | some rpc => exact hhealthy rpc hrpc
    simp only [perform, hsends, Answered, hrefused, false_or]
    have haccepted := sends_accepted_iff (updates call) answers
      (plugin.rpc.getD { failed := false })
    have hnil := sends_ne_nil plugin answers call (plugin.rpc.getD { failed := false }) hrefused
    constructor
    · exact fun h => haccepted.mp (h.1 trivial).2
    · intro hall
      exact ⟨fun _ => ⟨hnil, haccepted.mpr hall⟩, fun h => absurd rfl h,
        sends_not_stale _ _ _ hfresh hall⟩

theorem sound_iff_answered (hhealthy : Healthy plugin) (act : Write × Answers) :
    Sound plugin act ↔ Answered plugin act := by
  obtain ⟨write, answers⟩ := act
  cases write with
  | config_set data => exact config_set_sound_iff plugin answers data
  | clear_stats => exact clear_stats_sound_iff plugin answers
  | clear_thresholds => exact clear_thresholds_sound_iff plugin answers
  | threshold_set call => exact threshold_set_sound_iff plugin answers call hhealthy

theorem step_healthy (hhealthy : Healthy plugin) (act : Write × Answers)
    (hanswered : Answered plugin act) : Healthy (step plugin act) := by
  obtain ⟨write, answers⟩ := act
  cases write with
  | config_set data => exact hhealthy
  | clear_stats => exact hhealthy
  | clear_thresholds => exact hhealthy
  | threshold_set call =>
      by_cases hrefused : Refused call answers plugin.rpc
      · have hrpc := (checked_sets_refused call answers plugin.rpc hrefused).2.2
        intro rpc hcached
        exact hhealthy rpc (by rwa [step, perform, hrpc] at hcached)
      · have hsends := checked_sets_sends call answers plugin.rpc hrefused
        have hall := hanswered.resolve_left hrefused
        have hfresh : (plugin.rpc.getD { failed := false }).failed = false := by
          cases hrpc : plugin.rpc with
          | none => rfl
          | some rpc => exact hhealthy rpc hrpc
        intro rpc hcached
        simp only [step, perform, hsends, Option.some.injEq] at hcached
        subst hcached
        have hfailed := sends_failed_iff (updates call) answers
          (plugin.rpc.getD { failed := false })
        simpa [hfresh, hall] using hfailed

-- In every run from a plugin whose session is healthy, every write is sound as
-- long as the library takes all requests, and no longer.
theorem success_means_committed_iff (hhealthy : Healthy plugin) (acts : List (Write × Answers)) :
    Along step Sound plugin acts ↔ Along step Answered plugin acts := by
  constructor
  · apply along_of_invariant Healthy _ _ plugin acts hhealthy
    · intro plugin act hhealthy hsound
      exact step_healthy plugin hhealthy act ((sound_iff_answered plugin hhealthy act).mp hsound)
    · exact fun plugin act hhealthy => (sound_iff_answered plugin hhealthy act).mp
  · apply along_of_invariant Healthy _ _ plugin acts hhealthy
    · exact fun plugin act hhealthy => step_healthy plugin hhealthy act
    · exact fun plugin act hhealthy => (sound_iff_answered plugin hhealthy act).mpr

-- Every session opens and every reply is the given one; the sends of a commit
-- succeed or not.
def sampleAnswers (accepts : Nat → Bool) (outcome : TransactBlock) : Answers := fun n =>
  { open_jsonrpc := true
    jsonrpc_send := fun _ => accepts n
    jsonrpc_send_block := fun _ => accepts n
    jsonrpc_transact_block := fun _ => outcome }

def startPlugin : Plugin := { data := bst_ovsdb_cache, rpc := none }

-- The session of an earlier threshold is still open.
def openPlugin : Plugin := { data := bst_ovsdb_cache, rpc := some { failed := false } }

theorem openPlugin_healthy : Healthy openPlugin := by
  intro rpc h
  cases h
  rfl

def devicePoolCall : ThresholdCall := .device { threshold := 208 }

theorem threshold_set_committed : Along step Sound openPlugin
    [(.threshold_set devicePoolCall, sampleAnswers (fun _ => true) .reply),
      (.clear_stats, sampleAnswers (fun _ => true) .reply)] :=
  (success_means_committed_iff openPlugin openPlugin_healthy _).mpr
    ⟨.inr fun _ _ _ => rfl, .inr rfl, trivial⟩

-- A reply with an error still makes a clear succeed, and a session on which a send
-- has failed is used again.
theorem error_reply_succeeds :
    ¬ Along step Sound startPlugin
        [(.clear_stats, sampleAnswers (fun _ => true) .errorReply)] ∧
      (perform startPlugin .clear_stats (sampleAnswers (fun _ => true) .errorReply)).rv =
        .SUCCESS ∧
      ∃ sent ∈ (perform
          (step startPlugin (.threshold_set devicePoolCall, sampleAnswers (fun _ => false) .reply))
          (.threshold_set devicePoolCall) (sampleAnswers (fun _ => true) .reply)).sent,
        sent.stale = true := by
  refine ⟨fun h => ?_, rfl, by decide⟩
  have haccepted := (h.1.committed rfl).2 _ List.mem_cons_self
  exact absurd haccepted (by decide)

end Writes

section Atomic

-- All thresholds of a request, with the counters of those that have one. The
-- multicast thresholds of an egress port service pool and the queue entries of
-- queues have none.
def thresholds : ThresholdCall → List (Option Nat × UInt64)
  | .epsp _ _ thres =>
      [(some SB_OVSDB_BST_STAT_ID_EGR_UCAST_PORT_SHARED, thres.ucShareThreshold),
        (some SB_OVSDB_BST_STAT_ID_EGR_PORT_SHARED, thres.umShareThreshold),
        (none, thres.mcShareThreshold), (none, thres.mcShareQueueEntriesThreshold)]
  | .emcq _ thres =>
      [(some SB_OVSDB_BST_STAT_ID_MCAST, thres.mcBufferThreshold), (none, thres.mcQueueThreshold)]
  | .cpuq _ thres =>
      [(some SB_OVSDB_BST_STAT_ID_CPU_QUEUE, thres.cpuBufferThreshold),
        (none, thres.cpuQueueThreshold)]
  | .rqeq _ thres =>
      [(some SB_OVSDB_BST_STAT_ID_RQE_QUEUE, thres.rqeBufferThreshold),
        (none, thres.rqeQueueThreshold)]
  | call => call.counters.map fun (bid, threshold) => (some bid, threshold)

variable (call : ThresholdCall) (answers : Answers) (rpc : Option Connection)

theorem mem_counters {bid : Nat} {threshold : UInt64} :
    (bid, threshold) ∈ call.counters ↔ (some bid, threshold) ∈ thresholds call := by
  cases call <;> simp [thresholds, ThresholdCall.counters]

-- A threshold is committed when the library has taken the transaction that sets
-- it without error.
def Committed (threshold : Option Nat × UInt64) : Prop :=
  ∃ bid update, threshold.1 = some bid ∧
    Ovsdb.bst_ovsdb_threshold_set call.port call.index bid threshold.2 = some update ∧
    ∃ sent ∈ (checked_sets call answers rpc).sent,
      sent.request = .threshold update ∧ sent.accepted = true

-- A failure commits nothing and a success commits everything.
structure Atomic : Prop where
  failure : (checked_sets call answers rpc).rv ≠ .SUCCESS →
    ∀ threshold ∈ thresholds call, ¬ Committed call answers rpc threshold
  success : (checked_sets call answers rpc).rv = .SUCCESS →
    ∀ threshold ∈ thresholds call, Committed call answers rpc threshold

-- The name of a row tells the counter.
theorem threshold_set_inj {port index : Int32} {counter counter' : Nat × UInt64}
    {update : ThresholdUpdate}
    (h : Ovsdb.bst_ovsdb_threshold_set port index counter.1 counter.2 = some update)
    (h' : Ovsdb.bst_ovsdb_threshold_set port index counter'.1 counter'.2 = some update) :
    counter = counter' := by
  obtain ⟨hvalue, entry, hbid, -, hname⟩ := bst_ovsdb_threshold_set_eq h
  obtain ⟨hvalue', entry', hbid', -, hname'⟩ := bst_ovsdb_threshold_set_eq h'
  have htokens := strtok_keyText (bid_tab_wellFormed hbid) port (index + 1)
  rw [← hname, hname', strtok_keyText (bid_tab_wellFormed hbid') port (index + 1)] at htokens
  have hrealm : entry'.realm_name.toList = entry.realm_name.toList := by simp_all
  have hcounter : entry'.counter_name.toList = entry.counter_name.toList := by simp_all
  have hfind := bid_find_entry hbid
  rw [← hrealm, ← hcounter, bid_find_entry hbid'] at hfind
  have hthreshold : counter.2 = counter'.2 :=
    congrArg Int64.toUInt64 (hvalue.symm.trans hvalue')
  exact Prod.ext (Option.some.inj hfind).symm hthreshold

theorem counters_nodup : call.counters.Nodup := by
  have hpair : ∀ (bid bid' : Nat) (threshold threshold' : UInt64), bid ≠ bid' →
      [(bid, threshold), (bid', threshold')].Nodup := by
    intro bid bid' threshold threshold' hne
    simp [hne]
  cases call with
  | ippg | epsp | esp => exact hpair _ _ _ _ (by decide)
  | device | ipsp | isp | eucq | eucqg | emcq | cpuq | rqeq => exact List.nodup_singleton _

theorem updates_nodup : (updates call).Nodup :=
  (counters_nodup call).filterMap fun _ _ _ h h' => threshold_set_inj h h'

theorem accepted_iff {updates : List ThresholdUpdate} (hnodup : updates.Nodup) (answers : Answers)
    (connection : Connection) {n : Nat} {update : ThresholdUpdate}
    (hn : updates[n]? = some update) :
    (∃ sent ∈ (sends updates answers connection).1,
      sent.request = .threshold update ∧ sent.accepted = true) ↔
      (answers n).jsonrpc_send (.threshold update) = true := by
  induction updates generalizing answers connection n with
  | nil => simp at hn
  | cons first rest ih =>
      obtain ⟨hnew, hrest⟩ := List.nodup_cons.mp hnodup
      simp only [sends, List.exists_mem_cons_iff, Request.threshold.injEq]
      cases n with
      | zero =>
          obtain rfl : first = update := by simpa using hn
          have hnone : ¬ ∃ sent ∈ (sends rest (fun n => answers (n + 1))
              { failed := connection.failed || !(answers 0).jsonrpc_send (.threshold first) }).1,
              sent.request = .threshold first ∧ sent.accepted = true := by
            rintro ⟨sent, hsent, hrequest, -⟩
            have hmem := List.mem_map_of_mem (f := Sent.request) hsent
            rw [sends_requests, hrequest] at hmem
            obtain ⟨other, hother, heq⟩ := List.mem_map.mp hmem
            cases heq
            exact hnew hother
          rw [or_iff_left hnone, and_iff_right rfl]
      | succ n =>
          have hother : update ∈ rest := List.mem_of_getElem? hn
          have hne : first ≠ update := fun heq => hnew (heq ▸ hother)
          rw [ih hrest (fun n => answers (n + 1)) _ hn]
          simp [hne]

theorem committed_iff (hgoes : ¬ Refused call answers rpc) {n bid : Nat} {threshold : UInt64}
    {update : ThresholdUpdate} (hn : (updates call)[n]? = some update)
    (hset : Ovsdb.bst_ovsdb_threshold_set call.port call.index bid threshold = some update) :
    Committed call answers rpc (some bid, threshold) ↔
      (answers n).jsonrpc_send (.threshold update) = true := by
  rw [← accepted_iff (updates_nodup call) answers (rpc.getD { failed := false }) hn]
  simp only [Committed, checked_sets_sends call answers rpc hgoes]
  constructor
  · rintro ⟨bid', update', hbid, hset', hsent⟩
    cases hbid
    rw [hset] at hset'
    cases hset'
    exact hsent
  · exact fun hsent => ⟨bid, update, rfl, hset, hsent⟩

-- A set is atomic when it comes to no send, or when the library takes all its
-- transactions and every threshold of the request has a counter.
theorem threshold_set_atomic_iff :
    Atomic call answers rpc ↔ Refused call answers rpc ∨
      (AllSent (updates call) answers ∧
        ∀ threshold ∈ thresholds call, threshold.1.isSome = true) := by
  by_cases hrefused : Refused call answers rpc
  · obtain ⟨hrv, hsent, -⟩ := checked_sets_refused call answers rpc hrefused
    have hnone : ∀ threshold, ¬ Committed call answers rpc threshold := by
      rintro threshold ⟨bid, update, -, -, sent, hmem, -⟩
      simp [hsent] at hmem
    exact ⟨fun _ => .inl hrefused, fun _ => ⟨fun _ threshold _ => hnone threshold,
      fun h => absurd h hrv⟩⟩
  · have hsends := checked_sets_sends call answers rpc hrefused
    have hsuccess : (checked_sets call answers rpc).rv = .SUCCESS := by rw [hsends]
    constructor
    · intro hatomic
      have hall := hatomic.success hsuccess
      refine .inr ⟨fun n update hn => ?_, fun threshold hmem => ?_⟩
      · obtain ⟨⟨bid, value⟩, hcounter, hset⟩ :=
          List.mem_filterMap.mp (List.mem_of_getElem? hn)
        exact (committed_iff call answers rpc hrefused hn hset).mp
          (hall _ ((mem_counters call).mp hcounter))
      · obtain ⟨bid, _, hbid, -⟩ := hall threshold hmem
        rw [hbid]
        rfl
    · intro h
      obtain ⟨hsent, hcounted⟩ := h.resolve_left hrefused
      refine ⟨fun hfail => absurd hsuccess hfail, fun _ => ?_⟩
      rintro ⟨counter, value⟩ hmem
      obtain ⟨bid, rfl⟩ := Option.isSome_iff_exists.mp (hcounted _ hmem)
      have hcounter := (mem_counters call).mpr hmem
      have hresolves := not_not.mp (not_or.mp (not_or.mp hrefused).2).1
      have hset := hresolves _ hcounter
      rw [← threshold_set_isSome call.port call.index bid value] at hset
      obtain ⟨update, hupdate⟩ := Option.isSome_iff_exists.mp hset
      have hmem' : update ∈ updates call := List.mem_filterMap.mpr ⟨_, hcounter, hupdate⟩
      obtain ⟨n, hn⟩ := List.getElem?_of_mem hmem'
      exact (committed_iff call answers rpc hrefused hn hupdate).mpr (hsent n update hn)

def priorityGroupCall : ThresholdCall :=
  .ippg 1 0 { umShareThreshold := 208, umHeadroomThreshold := 208 }

def egressPortCall : ThresholdCall :=
  .epsp 1 0 { ucShareThreshold := 208, umShareThreshold := 208, mcShareThreshold := 208
              mcShareQueueEntriesThreshold := 208 }

def headroomUpdate : ThresholdUpdate :=
  { name := "ingress-port-priority-group/um-headroom-buffer-count/1/1".toList
    trigger_threshold := 208 }

-- The second of two sends fails and success is returned; and the multicast
-- threshold of an egress port service pool is never sent.
theorem failed_send_ignored :
    ¬ Atomic priorityGroupCall (sampleAnswers (fun n => n = 0) .reply) none ∧
      ¬ Atomic egressPortCall (sampleAnswers (fun _ => true) .reply) none := by
  constructor
  · intro h
    obtain ⟨bid, update, hbid, hset, sent, hmem, hrequest, haccepted⟩ :=
      h.success (by decide +kernel) (some SB_OVSDB_BST_STAT_ID_PRI_GROUP_HEADROOM, 208) (by decide)
    cases hbid
    have hupdate : Ovsdb.bst_ovsdb_threshold_set 1 0 SB_OVSDB_BST_STAT_ID_PRI_GROUP_HEADROOM 208 =
        some headroomUpdate := by decide +kernel
    have hnever : ∀ sent ∈ (checked_sets priorityGroupCall
        (sampleAnswers (fun n => n = 0) .reply) none).sent,
        sent.request = .threshold headroomUpdate → sent.accepted = false := by decide +kernel
    cases hupdate.symm.trans hset
    rw [hnever sent hmem hrequest] at haccepted
    cases haccepted
  · intro h
    obtain ⟨bid, _, hbid, -⟩ := h.success (by decide +kernel) (none, 208) (by decide)
    cases hbid

end Atomic

end BroadView.Ovsdb.Rpc
