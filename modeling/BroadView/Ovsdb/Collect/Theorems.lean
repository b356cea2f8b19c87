import BroadView.Ovsdb.Collect
import BroadView.Ovsdb.System.Theorems

namespace BroadView.Ovsdb

section Reads

variable {data : BVIEW_OVSDB_BST_DATA} {reads : List StatRead}

-- The index of the read resolves to a cell of the member it reads, and its place
-- is one of the snapshot.
def StatRead.Resolves (read : StatRead) : Prop :=
  ∃ db_index, bst_ovsdb_resolve_index read.bid (Int32.ofNat read.port) (Int32.ofNat read.index) =
      some db_index ∧ read.InBounds db_index

-- The loops run through as long as indices resolve, and unlock at their end.
theorem collect_reads_resolved (hreads : ∀ read ∈ reads, read.Resolves) (rest : List StatRead)
    (state : CollectState) :
    ∃ state' : CollectState, state'.readers = state.readers ∧
      collect_reads data (reads ++ rest) state = collect_reads data rest state' := by
  induction reads generalizing state with
  | nil => exact ⟨state, rfl, rfl⟩
  | cons read reads ih =>
      obtain ⟨db_index, hresolve, hbounds⟩ := hreads read List.mem_cons_self
      obtain ⟨state', hreaders, hrest⟩ :=
        ih (fun other hother => hreads other (List.mem_cons_of_mem read hother))
          { state with
            snapshot := read.place.putStat state.snapshot (member_stat data read.member db_index) }
      refine ⟨state', hreaders, ?_⟩
      rw [List.cons_append, collect_reads, hresolve]
      dsimp only
      rw [if_pos hbounds, hrest]

-- The lock of a routine whose indices all resolve is released.
theorem data_get_resolved (hreads : ∀ read ∈ reads, read.Resolves) (calls : CollectCalls)
    (state : CollectState) :
    ∃ rv state', data_get data reads calls state = .returned rv state' ∧
      state'.readers = state.readers := by
  unfold data_get
  by_cases hvalid : calls.input_valid = true
  · by_cases hlock : calls.rdlock = true
    · obtain ⟨state', hreaders, hcollect⟩ := @collect_reads_resolved data _ hreads []
        ({ state with time := calls.time } : CollectState).rdlock
      refine ⟨.SUCCESS, state'.unlock, ?_, ?_⟩
      · simp only [hvalid, hlock, Bool.not_true, Bool.false_eq_true, if_false]
        rw [List.append_nil] at hcollect
        exact hcollect
      · simp [CollectState.unlock, CollectState.rdlock, hreaders]
    · exact ⟨.FAILURE, { state with time := calls.time }, by simp [hvalid, hlock], rfl⟩
  · exact ⟨.INVALID_PARAMETER, state, by simp [hvalid], rfl⟩

-- The macro returns past the unlock.
theorem data_get_unresolved (hreads : ∀ read ∈ reads, read.Resolves) {bad : StatRead}
    (hbad : bst_ovsdb_resolve_index bad.bid (Int32.ofNat bad.port) (Int32.ofNat bad.index) = none)
    (rest : List StatRead) {calls : CollectCalls} (hvalid : calls.input_valid = true)
    (hlock : calls.rdlock = true) (state : CollectState) :
    ∃ state', data_get data (reads ++ bad :: rest) calls state = .returned .FAILURE state' ∧
      state'.readers = state.readers + 1 := by
  obtain ⟨state', hreaders, hcollect⟩ := @collect_reads_resolved data _ hreads
    (bad :: rest) ({ state with time := calls.time } : CollectState).rdlock
  refine ⟨state', ?_, hreaders⟩
  unfold data_get
  simp only [hvalid, hlock, Bool.not_true, Bool.false_eq_true, if_false]
  rw [hcollect, collect_reads, hbad]

-- The table of a counter is the member that the routines read.
theorem resolves_within {read : StatRead} {entry : BidEntry}
    (hbid : bid_tab[read.bid]? = some entry)
    (hwithin : entry.Within read.port read.index) (hcells : entry.size = read.member.cells)
    (hplace : read.place.inArray = true) : read.Resolves := by
  have hentry := bid_tab_wellFormed hbid
  have haccepts := accepts_within hentry hwithin
  have hlt := flat_lt hentry hwithin
  refine ⟨entry.position (Int32.ofNat read.port) (Int32.ofNat read.index), ?_, ?_, ?_, hplace⟩
  · simp only [bst_ovsdb_resolve_index, hbid]
    exact if_pos haccepts
  · rw [position_eq_flat hentry hwithin]
    omega
  · rw [position_eq_flat hentry hwithin]
    omega

end Reads

section Unit

variable {asic : BVIEW_ASIC_CAPABILITIES}

theorem flat_resolves {read : StatRead} (hplace : read.place.inArray = true)
    (hentry : ∃ entry, bid_tab[read.bid]? = some entry ∧ entry.is_double_indexed = false ∧
      read.index < entry.num_of_columns ∧ entry.size = read.member.cells) : read.Resolves := by
  obtain ⟨entry, hbid, hflat, hindex, hcells⟩ := hentry
  refine resolves_within hbid ⟨?_, hindex⟩ hcells hplace
  intro hdouble
  rw [hflat] at hdouble
  cases hdouble

theorem port_resolves {read : StatRead} (hplace : read.place.inArray = true)
    (hlow : 1 ≤ read.port) (hhigh : read.port ≤ BVIEW_ASIC_MAX_PORTS)
    (hentry : ∃ entry, bid_tab[read.bid]? = some entry ∧
      entry.num_of_rows = BVIEW_ASIC_MAX_PORTS ∧ read.index < entry.num_of_columns ∧
      entry.size = read.member.cells) : read.Resolves := by
  obtain ⟨entry, hbid, hrows, hindex, hcells⟩ := hentry
  exact resolves_within hbid ⟨fun _ => ⟨hlow, by omega⟩, hindex⟩ hcells hplace

theorem mem_port_iter {port : Nat} :
    port ∈ BVIEW_BST_PORT_ITER asic ↔ 1 ≤ port ∧ port ≤ asic.numPorts := by
  simp only [BVIEW_BST_PORT_ITER, List.mem_range'_1]
  omega

theorem ippg_reads_resolve (hasic : asic.WithinMaxima) :
    ∀ read ∈ ippg_reads asic, read.Resolves := by
  intro read hread
  simp only [ippg_reads, BVIEW_BST_PG_ITER, List.mem_flatMap, mem_port_iter, List.mem_range,
    List.mem_cons, List.not_mem_nil, or_false] at hread
  obtain ⟨port, ⟨hlow, hhigh⟩, pg, hpg, hread⟩ := hread
  have hport := Nat.le_trans hhigh hasic.ports
  have hgroup := Nat.lt_of_lt_of_le hpg hasic.priorityGroups
  have hplace : decide (port - 1 < BVIEW_ASIC_MAX_PORTS ∧ pg < BVIEW_ASIC_MAX_PRIORITY_GROUPS) =
      true := decide_eq_true ⟨by omega, hgroup⟩
  rcases hread with rfl | rfl
  all_goals exact port_resolves hplace hlow hport ⟨_, rfl, rfl, hgroup, rfl⟩

theorem ipsp_reads_resolve (hasic : asic.WithinMaxima) :
    ∀ read ∈ ipsp_reads asic, read.Resolves := by
  intro read hread
  simp only [ipsp_reads, BVIEW_BST_SP_ITER, List.mem_flatMap, mem_port_iter, List.mem_map,
    List.mem_range] at hread
  obtain ⟨port, ⟨hlow, hhigh⟩, sp, hsp, rfl⟩ := hread
  have hport := Nat.le_trans hhigh hasic.ports
  have hpool : sp < BVIEW_ASIC_MAX_INGRESS_SERVICE_POOLS :=
    Nat.lt_of_lt_of_le hsp (Nat.le_trans hasic.servicePools (by decide))
  exact port_resolves (decide_eq_true ⟨by omega, hpool⟩) hlow hport ⟨_, rfl, rfl, hpool, rfl⟩

theorem epsp_reads_resolve (hasic : asic.WithinMaxima) :
    ∀ read ∈ epsp_reads asic, read.Resolves := by
  intro read hread
  simp only [epsp_reads, BVIEW_BST_SP_ITER, List.mem_flatMap, mem_port_iter, List.mem_range,
    List.mem_cons, List.not_mem_nil, or_false] at hread
  obtain ⟨port, ⟨hlow, hhigh⟩, sp, hsp, hread⟩ := hread
  have hport := Nat.le_trans hhigh hasic.ports
  have hpool := Nat.lt_of_lt_of_le hsp hasic.servicePools
  have hplace : decide (port - 1 < BVIEW_ASIC_MAX_PORTS ∧ sp < BVIEW_ASIC_MAX_SERVICE_POOLS) =
      true := decide_eq_true ⟨by omega, hpool⟩
  rcases hread with rfl | rfl
  all_goals exact port_resolves hplace hlow hport ⟨_, rfl, rfl, hpool, rfl⟩

-- The loops over one index, over up to as many as the array has.
theorem indexed_reads_resolve {count bound : Nat} (hcount : count ≤ bound) {read : Nat → StatRead}
    (hread : ∀ index < bound, (read index).Resolves) :
    ∀ other ∈ (List.range count).map read, other.Resolves := by
  intro other hother
  obtain ⟨index, hindex, rfl⟩ := List.mem_map.mp hother
  exact hread index (Nat.lt_of_lt_of_le (List.mem_range.mp hindex) hcount)

theorem esp_reads_resolve (hasic : asic.WithinMaxima) :
    ∀ read ∈ esp_reads asic, read.Resolves := by
  intro read hread
  simp only [esp_reads, BVIEW_BST_SP_ITER, List.mem_flatMap, List.mem_range, List.mem_cons,
    List.not_mem_nil, or_false] at hread
  obtain ⟨sp, hsp, hread⟩ := hread
  have hpool := Nat.lt_of_lt_of_le hsp hasic.servicePools
  rcases hread with rfl | rfl
  all_goals exact flat_resolves (decide_eq_true hpool) ⟨_, rfl, rfl, hpool, rfl⟩

theorem isp_reads_resolve (hasic : asic.WithinMaxima) :
    ∀ read ∈ isp_reads asic, read.Resolves :=
  indexed_reads_resolve (Nat.le_trans hasic.servicePools (by decide)) fun _ hindex =>
    flat_resolves (decide_eq_true hindex) ⟨_, rfl, rfl, hindex, rfl⟩

theorem queue_reads_resolve (hasic : asic.WithinMaxima) :
    ∀ reads ∈ [eucq_reads asic, eucqg_reads asic, emcq_reads asic, cpuq_reads asic,
      rqeq_reads asic], ∀ read ∈ reads, read.Resolves := by
  simp only [List.forall_mem_cons, List.not_mem_nil, false_implies, implies_true, and_true]
  refine ⟨indexed_reads_resolve hasic.unicastQueues ?_,
    indexed_reads_resolve hasic.unicastQueueGroups ?_,
    indexed_reads_resolve hasic.multicastQueues ?_, indexed_reads_resolve hasic.cpuQueues ?_,
    indexed_reads_resolve hasic.rqeQueues ?_⟩
  all_goals
    intro index hindex
    exact flat_resolves (decide_eq_true hindex) ⟨_, rfl, rfl, hindex, rfl⟩

-- A routine comes back, with as many read locks held as before.
def Collected.Balanced (state : CollectState) (collected : Collected) : Prop :=
  ∃ rv state', collected = .returned rv state' ∧ state'.readers = state.readers

theorem device_balanced (data : BVIEW_OVSDB_BST_DATA) (calls : CollectCalls)
    (state : CollectState) :
    (sbplugin_ovsdb_bst_device_data_get data calls state).Balanced state := by
  unfold sbplugin_ovsdb_bst_device_data_get
  split_ifs
  · exact ⟨_, _, rfl, rfl⟩
  · exact ⟨_, _, rfl, rfl⟩
  · exact ⟨_, _, rfl, by simp [CollectState.unlock, CollectState.rdlock]⟩

theorem data_gets_balanced (hasic : asic.WithinMaxima) (data : BVIEW_OVSDB_BST_DATA)
    (calls : CollectCalls) (state : CollectState) :
    ∀ collected ∈ data_gets asic data calls state, collected.Balanced state := by
  have hqueues := queue_reads_resolve hasic
  simp only [List.forall_mem_cons, List.not_mem_nil, false_implies, implies_true,
    and_true] at hqueues
  obtain ⟨heucq, heucqg, hemcq, hcpuq, hrqeq⟩ := hqueues
  simp only [data_gets, List.forall_mem_cons, List.not_mem_nil, false_implies, implies_true,
    and_true]
  exact ⟨device_balanced data calls state,
    data_get_resolved (ippg_reads_resolve hasic) calls state,
    data_get_resolved (ipsp_reads_resolve hasic) calls state,
    data_get_resolved (isp_reads_resolve hasic) calls state,
    data_get_resolved (epsp_reads_resolve hasic) calls state,
    data_get_resolved (esp_reads_resolve hasic) calls state,
    data_get_resolved heucq calls state, data_get_resolved heucqg calls state,
    data_get_resolved hemcq calls state, data_get_resolved hcpuq calls state,
    data_get_resolved hrqeq calls state⟩

-- With more ports than the arrays have, the first group of the port after the
-- last row does not resolve.
theorem ippg_keeps_lock {ports : Nat} (hports : BVIEW_ASIC_MAX_PORTS < ports)
    (data : BVIEW_OVSDB_BST_DATA) (calls : CollectCalls) (hvalid : calls.input_valid = true)
    (hlock : calls.rdlock = true) (state : CollectState) :
    ∃ state', sbplugin_ovsdb_bst_ippg_data_get (sbplugin_ovsdb_system_util_td2_init ports) data
        calls state = .returned .FAILURE state' ∧ state'.readers = state.readers + 1 := by
  obtain ⟨more, rfl⟩ := Nat.exists_eq_add_of_lt hports
  have hbad : bst_ovsdb_resolve_index SB_OVSDB_BST_STAT_ID_PRI_GROUP_SHARED (Int32.ofNat 131)
      (Int32.ofNat 0) = none := by decide
  have hsplit : ∃ rest, ippg_reads (sbplugin_ovsdb_system_util_td2_init
      (BVIEW_ASIC_MAX_PORTS + more + 1)) =
        ippg_reads (sbplugin_ovsdb_system_util_td2_init BVIEW_ASIC_MAX_PORTS) ++
          ⟨SB_OVSDB_BST_STAT_ID_PRI_GROUP_SHARED, 131, 0, .iPGShared, .iPortPg_umShare 130 0⟩ ::
            rest := by
    have hiter : List.range' 1 (BVIEW_ASIC_MAX_PORTS + more + 1) =
        List.range' 1 BVIEW_ASIC_MAX_PORTS ++ 131 :: List.range' 132 more := by
      rw [Nat.add_assoc, ← List.range'_append_1]
      rfl
    have hgroups : List.range BVIEW_TD2_NUM_PG = 0 :: [1, 2, 3, 4, 5, 6, 7] := by decide
    simp only [ippg_reads, BVIEW_BST_PORT_ITER, BVIEW_BST_PG_ITER,
      sbplugin_ovsdb_system_util_td2_init, hiter, hgroups, List.flatMap_append, List.flatMap_cons,
      List.cons_append]
    exact ⟨_, rfl⟩
  obtain ⟨rest, hreads⟩ := hsplit
  unfold sbplugin_ovsdb_bst_ippg_data_get
  rw [hreads]
  exact data_get_unresolved (ippg_reads_resolve (td2_withinMaxima (Nat.le_refl _))) hbad rest
    hvalid hlock state

end Unit

section Accepted

-- What holds of a unit that collects safely: its default maxima stay within the
-- arrays, and so does each data routine, which gives back the lock it takes.
structure SystemFeature.CollectsSafely (system : SystemFeature) : Prop where
  maxima : ∃ snapshot, system.sbMaxBufSnapshot = some snapshot
  data : ∀ (data : BVIEW_OVSDB_BST_DATA) (calls : CollectCalls) (state : CollectState),
    ∀ collected ∈ data_gets system.asicDb data calls state, collected.Balanced state

theorem system_init_asicDb {num_ports : UInt32} {system : SystemFeature}
    (hinit : sbplugin_ovsdb_system_init num_ports = some system) :
    system = { asicDb := sbplugin_ovsdb_system_util_td2_init num_ports.toNat
               sbMaxBufSnapshot := sbplugin_system_max_buf_defaults_get
                 (sbplugin_ovsdb_system_util_td2_init num_ports.toNat) default } := by
  unfold sbplugin_ovsdb_system_init at hinit
  split_ifs at hinit
  exact (Option.some.inj hinit).symm

-- The first port without a row stores outside the snapshot of the maxima.
theorem maxima_overrun {ports : Nat} (hports : BVIEW_ASIC_MAX_PORTS < ports) :
    sbplugin_system_max_buf_defaults_get (sbplugin_ovsdb_system_util_td2_init ports) default =
      none := by
  obtain ⟨store, hmem, hplace⟩ : ∃ store ∈
      (max_buf_gets (sbplugin_ovsdb_system_util_td2_init ports)).flatten,
      store.place = .iPortPg_umShare BVIEW_ASIC_MAX_PORTS 0 :=
    (default_place_iff _).mpr ⟨hports, by decide⟩
  rw [← Option.not_isSome_iff_eq_none]
  intro hsome
  have hinside := stores_isSome.mp hsome store hmem
  rw [hplace] at hinside
  exact absurd hinside (by decide)

-- Every nonzero number of ports is accepted.
theorem collects_safely_iff (num_ports : UInt32) :
    (∀ system, sbplugin_ovsdb_system_init num_ports = some system → system.CollectsSafely) ↔
      num_ports.toNat ≤ BVIEW_ASIC_MAX_PORTS := by
  constructor
  · intro hsafe
    by_contra hmore
    have hports : BVIEW_ASIC_MAX_PORTS < num_ports.toNat := by omega
    have hne : num_ports ≠ 0 := by
      rintro rfl
      exact absurd hports (by decide)
    obtain ⟨snapshot, hsnapshot⟩ := (hsafe _ (if_neg hne)).maxima
    have hnone := maxima_overrun hports
    exact absurd (hsnapshot.symm.trans hnone) (by simp)
  · intro hports system hinit
    obtain rfl := system_init_asicDb hinit
    have hasic := td2_withinMaxima hports
    obtain ⟨snapshot, hsnapshot, -⟩ := default_snapshot hasic.ports
    exact ⟨⟨snapshot, hsnapshot⟩, fun data calls state => data_gets_balanced hasic data calls state⟩

-- One port more than the arrays have rows: the maxima are stored past their end,
-- and the routine of the priority groups keeps the lock.
theorem many_ports_keep_lock :
    ∃ system state', sbplugin_ovsdb_system_init 131 = some system ∧ ¬system.CollectsSafely ∧
      system.sbMaxBufSnapshot = none ∧
      sbplugin_ovsdb_bst_ippg_data_get system.asicDb bst_ovsdb_cache
        { input_valid := true, time := 0, rdlock := true }
        { readers := 0, time := 0, snapshot := .zero } = .returned .FAILURE state' ∧
      state'.readers = 1 := by
  have hports : BVIEW_ASIC_MAX_PORTS < 131 := by decide
  have hmaxima := maxima_overrun hports
  obtain ⟨state', hreturned, hreaders⟩ := ippg_keeps_lock hports bst_ovsdb_cache
    { input_valid := true, time := 0, rdlock := true } rfl rfl
    { readers := 0, time := 0, snapshot := .zero }
  refine ⟨_, state', if_neg (by decide), ?_, hmaxima, hreturned, hreaders⟩
  intro hsafe
  obtain ⟨snapshot, hsnapshot⟩ := hsafe.maxima
  exact absurd (hsnapshot.symm.trans hmaxima) (by simp)

end Accepted

end BroadView.Ovsdb
