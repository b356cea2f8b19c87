import BroadView.Ovsdb.Bufmon.Mirror
import BroadView.Ovsdb.Threshold
import Mathlib.Data.List.Nodup

namespace BroadView.Ovsdb

section Field

theorem setCell_apply {α : Type} (table : Nat → α) (index other : Nat) (modify : α → α) :
    setCell table index modify other =
      if other = index then modify (table index) else table other := by
  simp [setCell, Function.update_apply]

theorem setPortCell_apply {α : Type} (table : Nat → Nat → α) (port index port' index' : Nat)
    (modify : α → α) :
    setPortCell table port index modify port' index' =
      if port' = port ∧ index' = index then modify (table port index) else table port' index' := by
  rw [setPortCell, setCell_apply]
  by_cases hport : port' = port
  · subst hport
    simp [setCell_apply]
  · simp [hport]

variable (data : BVIEW_BST_ASIC_SNAPSHOT_DATA) (value : UInt64)

namespace ThresholdField

theorem get_put_self (field : ThresholdField) : field.get (field.put data value) = value := by
  cases field <;> simp [get, put, setCell_apply, setPortCell_apply]

-- A value is stored through one pointer and seen through no other.
theorem get_put_of_ne {field other : ThresholdField} (h : other ≠ field) :
    other.get (field.put data value) = other.get data := by
  cases field <;> cases other <;> first
    | rfl
    | exact absurd rfl h
    | (simp only [get, put, setCell_apply, setPortCell_apply]
       split <;> simp_all)

end ThresholdField

end Field

section Reads

variable {data : BVIEW_OVSDB_BST_DATA} {reads : List ThresholdRead}
  {snapshot filled : BVIEW_BST_ASIC_SNAPSHOT_DATA} {field : ThresholdField}

-- What a call finds in the cache.
def ThresholdRead.value (read : ThresholdRead) (data : BVIEW_OVSDB_BST_DATA) : Option UInt64 :=
  bst_ovsdb_threshold_get data (Int32.ofNat read.port) (Int32.ofNat read.index) read.bid

theorem run_eq_some {read : ThresholdRead} (h : read.run data snapshot = some filled) :
    ∃ threshold, read.value data = some threshold ∧
      read.place.put snapshot threshold = filled :=
  Option.map_eq_some_iff.mp h

theorem foldlM_run_isSome : (reads.foldlM (ThresholdRead.run data) snapshot).isSome = true ↔
    ∀ read ∈ reads, (read.value data).isSome = true := by
  induction reads generalizing snapshot with
  | nil => simp
  | cons read rest ih =>
      rw [List.foldlM_cons, List.forall_mem_cons]
      cases hvalue : read.value data with
      | none =>
          have hrun : read.run data snapshot = none := by
            rw [ThresholdRead.run, ← ThresholdRead.value, hvalue]
            rfl
          simp [hrun]
      | some threshold =>
          have hrun : read.run data snapshot = some (read.place.put snapshot threshold) := by
            rw [ThresholdRead.run, ← ThresholdRead.value, hvalue]
            rfl
          simp [hrun, ih]

-- A field that no call stores to stays as it was.
theorem get_of_not_read (h : reads.foldlM (ThresholdRead.run data) snapshot = some filled)
    (hplace : ∀ read ∈ reads, read.place ≠ field) : field.get filled = field.get snapshot := by
  induction reads generalizing snapshot with
  | nil =>
      obtain rfl := Option.some.inj h
      rfl
  | cons read rest ih =>
      rw [List.foldlM_cons] at h
      obtain ⟨next, hrun, hrest⟩ := Option.bind_eq_some_iff.mp h
      obtain ⟨threshold, -, rfl⟩ := run_eq_some hrun
      rw [ih hrest fun other hother => hplace other (List.mem_cons_of_mem read hother)]
      exact ThresholdField.get_put_of_ne snapshot threshold (hplace read List.mem_cons_self).symm

-- A field that calls store to shows what they found, if they all found the same.
theorem get_of_read (h : reads.foldlM (ThresholdRead.run data) snapshot = some filled)
    (hread : ∃ read ∈ reads, read.place = field) {threshold : UInt64}
    (hvalue : ∀ read ∈ reads, read.place = field → read.value data = some threshold) :
    field.get filled = threshold := by
  induction reads generalizing snapshot with
  | nil => simp at hread
  | cons read rest ih =>
      rw [List.foldlM_cons] at h
      obtain ⟨next, hrun, hrest⟩ := Option.bind_eq_some_iff.mp h
      by_cases hlater : ∃ other ∈ rest, other.place = field
      · exact ih hrest hlater fun other hother => hvalue other (List.mem_cons_of_mem read hother)
      · push Not at hlater
        obtain ⟨first, hfirst, hplace⟩ := hread
        rcases List.mem_cons.mp hfirst with rfl | hmem
        · obtain ⟨found, hfound, rfl⟩ := run_eq_some hrun
          have hsame := hvalue first List.mem_cons_self hplace
          obtain rfl := Option.some.inj (hfound.symm.trans hsame)
          rw [get_of_not_read hrest hlater, ← hplace]
          exact ThresholdField.get_put_self snapshot found first.place
        · exact absurd hplace (hlater first hmem)

end Reads

section Position

variable {entry : BidEntry} {bid port index : Nat}

-- The port and the index of a cell within the table of its counter.
structure BidEntry.Within (entry : BidEntry) (port index : Nat) : Prop where
  port : entry.is_double_indexed = true → 1 ≤ port ∧ port ≤ entry.num_of_rows
  index : index < entry.num_of_columns

def BidEntry.flat (entry : BidEntry) (port index : Nat) : Nat :=
  if entry.is_double_indexed then (port - 1) * entry.num_of_columns + index else index

theorem flat_lt (hentry : entry.WellFormed) (hwithin : entry.Within port index) :
    entry.flat port index < entry.size := by
  have hcolumns := columns_le hentry
  have hindex := hwithin.index
  by_cases hd : entry.is_double_indexed = true
  · obtain ⟨hlow, hhigh⟩ := hwithin.port hd
    rw [BidEntry.flat, if_pos hd]
    exact row_offset_lt hentry (by omega) hindex
  · rw [BidEntry.flat, if_neg hd]
    omega

theorem position_eq_flat (hentry : entry.WellFormed) (hwithin : entry.Within port index) :
    (entry.position (Int32.ofNat port) (Int32.ofNat index)).toInt = entry.flat port index := by
  have hindex := hwithin.index
  have hcolumns := columns_le hentry
  have hsize := hentry.size_le
  have hindex' : (Int32.ofNat index).toInt = index := toInt_ofNat_small (by omega)
  by_cases hd : entry.is_double_indexed = true
  · obtain ⟨hlow, hhigh⟩ := hwithin.port hd
    have hrows : entry.num_of_rows ≤ entry.size := by
      rw [hentry.size_eq]
      exact Nat.le_mul_of_pos_right _ hentry.columns_pos
    have hport : (Int32.ofNat port).toInt = (port - 1 : Nat) + 1 := by
      rw [toInt_ofNat_small (by omega)]
      omega
    rw [BidEntry.flat, if_pos hd]
    exact (position_double_iff hentry hd (by omega) hindex hport).mpr hindex'
  · rw [BidEntry.flat, if_neg hd]
    by_cases hi : entry.is_indexed = true
    · simpa [BidEntry.position, hd, hi] using hindex'
    · have hone := hentry.device_columns (by simpa using hi)
      have hzero : index = 0 := by omega
      simp [BidEntry.position, hd, hi, hzero]

theorem accepts_within (hentry : entry.WellFormed) (hwithin : entry.Within port index) :
    entry.Accepts (entry.position (Int32.ofNat port) (Int32.ofNat index)) := by
  rw [accepts_iff hentry, position_eq_flat hentry hwithin]
  have hlt := flat_lt hentry hwithin
  omega

theorem inTable_within (hentry : entry.WellFormed) (hwithin : entry.Within port index) :
    entry.InTable 0 (cellAddress 0 entry
      (entry.position (Int32.ofNat port) (Int32.ofNat index))) :=
  ⟨by decide, entry.flat port index, flat_lt hentry hwithin,
    (cellAddress_eq_iff 0).mpr (position_eq_flat hentry hwithin)⟩

end Position

section Source

-- The counter, the port and the index that a field reports, for the fields that
-- the plugin has a counter for.
def ThresholdField.source : ThresholdField → Option (Nat × Nat × Nat)
  | device => some (SB_OVSDB_BST_STAT_ID_DEVICE, 0, 0)
  | iPortPg_umShare port pg => some (SB_OVSDB_BST_STAT_ID_PRI_GROUP_SHARED, port + 1, pg)
  | iPortPg_umHeadroom port pg => some (SB_OVSDB_BST_STAT_ID_PRI_GROUP_HEADROOM, port + 1, pg)
  | iPortSp_umShare port sp => some (SB_OVSDB_BST_STAT_ID_PORT_POOL, port + 1, sp)
  | iSp_umShare sp => some (SB_OVSDB_BST_STAT_ID_ING_POOL, 0, sp)
  | ePortSp_ucShare port sp => some (SB_OVSDB_BST_STAT_ID_EGR_UCAST_PORT_SHARED, port + 1, sp)
  | ePortSp_umShare port sp => some (SB_OVSDB_BST_STAT_ID_EGR_PORT_SHARED, port + 1, sp)
  | eSp_umShare sp => some (SB_OVSDB_BST_STAT_ID_EGR_POOL, 0, sp)
  | eSp_mcShare sp => some (SB_OVSDB_BST_STAT_ID_EGR_MCAST_POOL, 0, sp)
  | eUcQ_ucBuffer queue => some (SB_OVSDB_BST_STAT_ID_UCAST, 0, queue)
  | eUcQg_ucBuffer group => some (SB_OVSDB_BST_STAT_ID_UCAST_GROUP, 0, group)
  | eMcQ_mcBuffer queue => some (SB_OVSDB_BST_STAT_ID_MCAST, 0, queue)
  | cpqQ_cpuBuffer queue => some (SB_OVSDB_BST_STAT_ID_CPU_QUEUE, 0, queue)
  | rqeQ_rqeBuffer queue => some (SB_OVSDB_BST_STAT_ID_RQE_QUEUE, 0, queue)
  | ePortSp_mcShare _ _ | ePortSp_mcShareQueueEntries _ _ | eMcQ_mcQueueEntries _
  | cpqQ_cpuQueueEntries _ | rqeQ_rqeQueueEntries _ => none

-- The cell of a field.
def ThresholdField.address (field : ThresholdField) : Option Int :=
  field.source.bind fun (bid, port, index) =>
    bst_ovsdb_cache_row_get 0 bid (Int32.ofNat port) (Int32.ofNat index + 1)

theorem bst_ovsdb_threshold_get_eq (data : BVIEW_OVSDB_BST_DATA) (port index : Int32) (bid : Nat) :
    bst_ovsdb_threshold_get data port index bid =
      (bst_ovsdb_cache_row_get 0 bid port (index + 1)).map fun address =>
        (data.cache address).threshold := by
  unfold bst_ovsdb_threshold_get bst_ovsdb_cache_row_get bst_ovsdb_resolve_index
  cases bid_tab[bid]? with
  | none => rfl
  | some entry =>
      rw [Int32.add_sub_cancel]
      by_cases haccepts : entry.Accepts (entry.position port index)
      · simp [haccepts]
      · simp [haccepts]

-- A port matters to the port-indexed counters only.
theorem row_get_congr {entry : BidEntry} {bid : Nat} (hbid : bid_tab[bid]? = some entry)
    {port port' index : Int32} (hport : entry.is_double_indexed = true → port' = port) :
    bst_ovsdb_cache_row_get 0 bid port' index = bst_ovsdb_cache_row_get 0 bid port index := by
  have hposition : entry.position port' (index - 1) = entry.position port (index - 1) :=
    position_congr hport (fun _ => rfl) (bid_tab_wellFormed hbid).double_indexed
  simp only [bst_ovsdb_cache_row_get, hbid, hposition]

-- A field with a counter, and its place in the table of the counter.
structure ThresholdField.SourceWithin (field : ThresholdField) (bid port index : Nat)
    (entry : BidEntry) : Prop where
  found : bid_tab[bid]? = some entry
  source : field.source = some (bid, port, index)
  within : entry.Within port index

theorem sourceWithin_address {field : ThresholdField} {bid port index : Nat} {entry : BidEntry}
    (h : field.SourceWithin bid port index entry) :
    field.address = some (cellAddress 0 entry
      (entry.position (Int32.ofNat port) (Int32.ofNat index))) := by
  have haccepts := accepts_within (bid_tab_wellFormed h.found) h.within
  simp [ThresholdField.address, h.source, bst_ovsdb_cache_row_get, h.found, Int32.add_sub_cancel,
    haccepts]

-- Fields of different counters have different cells.
theorem address_ne {field other : ThresholdField} {bid port index bid' port' index' : Nat}
    {entry entry' : BidEntry} (h : field.SourceWithin bid port index entry)
    (h' : other.SourceWithin bid' port' index' entry') (hne : bid ≠ bid') :
    field.address ≠ other.address := by
  rw [sourceWithin_address h, sourceWithin_address h']
  intro heq
  have htable := inTable_within (bid_tab_wellFormed h.found) h.within
  have htable' := inTable_within (bid_tab_wellFormed h'.found) h'.within
  rw [Option.some.inj heq] at htable
  exact hne (same_bid h.found h'.found htable htable')

end Source

section Unit

variable {asic : BVIEW_ASIC_CAPABILITIES}

theorem mem_port_threshold_reads (port : Nat) {read : ThresholdRead} :
    read ∈ port_threshold_reads asic port ↔
      (∃ index < asic.numPriorityGroups,
        read = ⟨port, index, SB_OVSDB_BST_STAT_ID_PRI_GROUP_SHARED,
          .iPortPg_umShare (port - 1) index⟩ ∨
        read = ⟨port, index, SB_OVSDB_BST_STAT_ID_PRI_GROUP_HEADROOM,
          .iPortPg_umHeadroom (port - 1) index⟩) ∨
      (∃ index < asic.numServicePools,
        read = ⟨port, index, SB_OVSDB_BST_STAT_ID_PORT_POOL, .iPortSp_umShare (port - 1) index⟩ ∨
        read = ⟨port, index, SB_OVSDB_BST_STAT_ID_EGR_UCAST_PORT_SHARED,
          .ePortSp_ucShare (port - 1) index⟩ ∨
        read = ⟨port, index, SB_OVSDB_BST_STAT_ID_EGR_PORT_SHARED,
          .ePortSp_umShare (port - 1) index⟩) := by
  simp only [port_threshold_reads, List.mem_append, List.mem_flatMap, List.mem_map, List.mem_range,
    List.mem_cons, List.not_mem_nil, or_false]
  grind

theorem mem_threshold_reads {read : ThresholdRead} :
    read ∈ threshold_reads asic ↔
      read = ⟨0, 0, SB_OVSDB_BST_STAT_ID_DEVICE, .device⟩ ∨
      (∃ port, 1 ≤ port ∧ port ≤ asic.numPorts ∧ read ∈ port_threshold_reads asic port) ∨
      (∃ index < asic.numMulticastQueues,
        read = ⟨asic.numPorts + 1, index, SB_OVSDB_BST_STAT_ID_MCAST, .eMcQ_mcBuffer index⟩) ∨
      (∃ index < asic.numUnicastQueues,
        read = ⟨asic.numPorts + 1, index, SB_OVSDB_BST_STAT_ID_UCAST, .eUcQ_ucBuffer index⟩) ∨
      (∃ index < asic.numServicePools,
        read = ⟨0, index, SB_OVSDB_BST_STAT_ID_EGR_POOL, .eSp_umShare index⟩ ∨
        read = ⟨0, index, SB_OVSDB_BST_STAT_ID_EGR_MCAST_POOL, .eSp_mcShare index⟩ ∨
        read = ⟨0, index, SB_OVSDB_BST_STAT_ID_ING_POOL, .iSp_umShare index⟩) ∨
      (∃ index < asic.numCpuQueues,
        read = ⟨asic.numPorts + 1, index, SB_OVSDB_BST_STAT_ID_CPU_QUEUE,
          .cpqQ_cpuBuffer index⟩) ∨
      (∃ index < asic.numRqeQueues,
        read = ⟨0, index, SB_OVSDB_BST_STAT_ID_RQE_QUEUE, .rqeQ_rqeBuffer index⟩) ∨
      ∃ index < asic.numUnicastQueueGroups,
        read = ⟨0, index, SB_OVSDB_BST_STAT_ID_UCAST_GROUP, .eUcQg_ucBuffer index⟩ := by
  simp only [threshold_reads, List.cons_append, List.mem_cons, List.mem_append, List.mem_flatMap,
    List.mem_map, List.mem_range, List.mem_range'_1, List.not_mem_nil, or_false]
  grind

-- The counters without ports, and those with a row for each port.
theorem flat_source {field : ThresholdField} {bid index bound : Nat}
    (hsource : field.source = some (bid, 0, index)) (hindex : index < bound)
    (hentry : ∃ entry, bid_tab[bid]? = some entry ∧ entry.is_double_indexed = false ∧
      bound ≤ entry.num_of_columns) :
    ∃ entry, field.SourceWithin bid 0 index entry ∧ entry.is_double_indexed = false := by
  obtain ⟨entry, hfound, hflat, hbound⟩ := hentry
  refine ⟨entry, ⟨hfound, hsource, ⟨?_, by omega⟩⟩, hflat⟩
  intro hd
  rw [hflat] at hd
  cases hd

theorem port_source {field : ThresholdField} {bid port index bound : Nat}
    (hsource : field.source = some (bid, port + 1, index))
    (hport : port < BVIEW_ASIC_MAX_PORTS) (hindex : index < bound)
    (hentry : ∃ entry, bid_tab[bid]? = some entry ∧ entry.num_of_rows = BVIEW_ASIC_MAX_PORTS ∧
      bound ≤ entry.num_of_columns) :
    ∃ entry, field.SourceWithin bid (port + 1) index entry := by
  obtain ⟨entry, hfound, hrows, hbound⟩ := hentry
  exact ⟨entry, ⟨hfound, hsource, ⟨fun _ => ⟨by omega, by omega⟩, by omega⟩⟩⟩

theorem td2_withinMaxima {num_ports : Nat} (hports : num_ports ≤ BVIEW_ASIC_MAX_PORTS) :
    (sbplugin_ovsdb_system_util_td2_init num_ports).WithinMaxima where
  ports := hports
  unicastQueues := by decide +revert
  unicastQueueGroups := by decide +revert
  multicastQueues := by decide +revert
  servicePools := by decide +revert
  cpuQueues := by decide +revert
  rqeQueues := by decide +revert
  priorityGroups := by decide +revert

-- Every call reads the cell of the field it stores to.
theorem reads_source (hasic : asic.WithinMaxima) : ∀ read ∈ threshold_reads asic,
    ∃ port entry, read.place.SourceWithin read.bid port read.index entry ∧
      (entry.is_double_indexed = true → read.port = port) := by
  intro read hread
  have hflat : ∀ {field : ThresholdField} {bid index : Nat} (port bound : Nat),
      field.source = some (bid, 0, index) → index < bound →
      (∃ entry, bid_tab[bid]? = some entry ∧ entry.is_double_indexed = false ∧
        bound ≤ entry.num_of_columns) →
      ∃ place entry, field.SourceWithin bid place index entry ∧
        (entry.is_double_indexed = true → port = place) := by
    intro field bid index port bound hsource hindex hentry
    obtain ⟨entry, hwithin, hd⟩ := flat_source hsource hindex hentry
    exact ⟨0, entry, hwithin, fun hdouble => by rw [hd] at hdouble; cases hdouble⟩
  rcases mem_threshold_reads.mp hread with rfl | ⟨port, hlow, hhigh, hport⟩ | ⟨index, hindex, rfl⟩ |
    ⟨index, hindex, rfl⟩ | ⟨index, hindex, rfl | rfl | rfl⟩ | ⟨index, hindex, rfl⟩ |
    ⟨index, hindex, rfl⟩ | ⟨index, hindex, rfl⟩
  · exact hflat 0 1 rfl (by decide) ⟨_, rfl, rfl, by decide⟩
  · have hrow : ∀ {field : ThresholdField} {bid index : Nat} (bound : Nat),
        field.source = some (bid, port - 1 + 1, index) → index < bound →
        (∃ entry, bid_tab[bid]? = some entry ∧ entry.num_of_rows = BVIEW_ASIC_MAX_PORTS ∧
          bound ≤ entry.num_of_columns) →
        ∃ place entry, field.SourceWithin bid place index entry ∧
          (entry.is_double_indexed = true → port = place) := by
      intro field bid index bound hsource hindex hentry
      have hports := hasic.ports
      obtain ⟨entry, hwithin⟩ := port_source hsource (by omega) hindex hentry
      exact ⟨port - 1 + 1, entry, hwithin, fun _ => by omega⟩
    have hcommon : asic.numServicePools ≤ BVIEW_ASIC_MAX_INGRESS_SERVICE_POOLS :=
      Nat.le_trans hasic.servicePools (by decide)
    rcases (mem_port_threshold_reads port).mp hport with ⟨index, hindex, rfl | rfl⟩ |
      ⟨index, hindex, rfl | rfl | rfl⟩
    · exact hrow _ rfl hindex ⟨_, rfl, rfl, hasic.priorityGroups⟩
    · exact hrow _ rfl hindex ⟨_, rfl, rfl, hasic.priorityGroups⟩
    · exact hrow _ rfl hindex ⟨_, rfl, rfl, hcommon⟩
    · exact hrow _ rfl hindex ⟨_, rfl, rfl, hasic.servicePools⟩
    · exact hrow _ rfl hindex ⟨_, rfl, rfl, hasic.servicePools⟩
  · exact hflat _ _ rfl hindex ⟨_, rfl, rfl, hasic.multicastQueues⟩
  · exact hflat _ _ rfl hindex ⟨_, rfl, rfl, hasic.unicastQueues⟩
  · exact hflat _ _ rfl hindex ⟨_, rfl, rfl, hasic.servicePools⟩
  · exact hflat _ _ rfl hindex ⟨_, rfl, rfl, hasic.servicePools⟩
  · exact hflat _ _ rfl hindex ⟨_, rfl, rfl, Nat.le_trans hasic.servicePools (by decide)⟩
  · exact hflat _ _ rfl hindex ⟨_, rfl, rfl, hasic.cpuQueues⟩
  · exact hflat _ _ rfl hindex ⟨_, rfl, rfl, hasic.rqeQueues⟩
  · exact hflat _ _ rfl hindex ⟨_, rfl, rfl, hasic.unicastQueueGroups⟩

theorem read_value (hasic : asic.WithinMaxima) (data : BVIEW_OVSDB_BST_DATA) {read : ThresholdRead}
    (hread : read ∈ threshold_reads asic) :
    ∃ address, read.place.address = some address ∧
      read.value data = some (data.cache address).threshold := by
  obtain ⟨port, entry, hsource, hport⟩ := reads_source hasic read hread
  have haddress := sourceWithin_address hsource
  have hcell : read.place.address = bst_ovsdb_cache_row_get 0 read.bid (Int32.ofNat read.port)
      (Int32.ofNat read.index + 1) := by
    rw [ThresholdField.address, hsource.source, Option.bind_some]
    exact row_get_congr hsource.found fun hd => by rw [hport hd]
  refine ⟨_, haddress, ?_⟩
  rw [ThresholdRead.value, bst_ovsdb_threshold_get_eq, ← hcell, haddress, Option.map_some]

end Unit

section Request

variable {asic : BVIEW_ASIC_CAPABILITIES} {field : ThresholdField}

-- The fields that the get function reads. It reads no multicast threshold of an
-- egress port service pool, no threshold in queue entries and no common pool.
def ThresholdField.Read (asic : BVIEW_ASIC_CAPABILITIES) : ThresholdField → Prop
  | device => True
  | iPortPg_umShare port pg | iPortPg_umHeadroom port pg =>
      port < asic.numPorts ∧ pg < asic.numPriorityGroups
  | iPortSp_umShare port sp | ePortSp_ucShare port sp | ePortSp_umShare port sp =>
      port < asic.numPorts ∧ sp < asic.numServicePools
  | iSp_umShare sp | eSp_umShare sp | eSp_mcShare sp => sp < asic.numServicePools
  | eUcQ_ucBuffer queue => queue < asic.numUnicastQueues
  | eUcQg_ucBuffer group => group < asic.numUnicastQueueGroups
  | eMcQ_mcBuffer queue => queue < asic.numMulticastQueues
  | cpqQ_cpuBuffer queue => queue < asic.numCpuQueues
  | rqeQ_rqeBuffer queue => queue < asic.numRqeQueues
  | ePortSp_mcShare _ _ | ePortSp_mcShareQueueEntries _ _ | eMcQ_mcQueueEntries _
  | cpqQ_cpuQueueEntries _ | rqeQ_rqeQueueEntries _ => False

theorem place_read {read : ThresholdRead} (hread : read ∈ threshold_reads asic) :
    read.place.Read asic := by
  rcases mem_threshold_reads.mp hread with rfl | ⟨port, hlow, hhigh, hport⟩ | ⟨index, hindex, rfl⟩ |
    ⟨index, hindex, rfl⟩ | ⟨index, hindex, rfl | rfl | rfl⟩ | ⟨index, hindex, rfl⟩ |
    ⟨index, hindex, rfl⟩ | ⟨index, hindex, rfl⟩
  · trivial
  · have hbound : port - 1 < asic.numPorts := by omega
    rcases (mem_port_threshold_reads port).mp hport with ⟨index, hindex, rfl | rfl⟩ |
      ⟨index, hindex, rfl | rfl | rfl⟩
    all_goals exact ⟨hbound, hindex⟩
  all_goals exact hindex

theorem exists_read (hread : field.Read asic) :
    ∃ read ∈ threshold_reads asic, read.place = field := by
  have hport : ∀ {port : Nat} {read : ThresholdRead}, port < asic.numPorts →
      read ∈ port_threshold_reads asic (port + 1) → read ∈ threshold_reads asic := by
    intro port read hport hmem
    exact mem_threshold_reads.mpr (Or.inr (Or.inl ⟨port + 1, by omega, by omega, hmem⟩))
  have hlater := fun {read : ThresholdRead} h =>
    (@mem_threshold_reads asic read).mpr (Or.inr (Or.inr h))
  cases field with
  | device => exact ⟨_, mem_threshold_reads.mpr (Or.inl rfl), rfl⟩
  | iPortPg_umShare port pg =>
      obtain ⟨hlt, hindex⟩ := hread
      have hmem := (mem_port_threshold_reads (port + 1)).mpr (Or.inl ⟨pg, hindex, Or.inl rfl⟩)
      exact ⟨_, hport hlt hmem, rfl⟩
  | iPortPg_umHeadroom port pg =>
      obtain ⟨hlt, hindex⟩ := hread
      have hmem := (mem_port_threshold_reads (port + 1)).mpr (Or.inl ⟨pg, hindex, Or.inr rfl⟩)
      exact ⟨_, hport hlt hmem, rfl⟩
  | iPortSp_umShare port sp =>
      obtain ⟨hlt, hindex⟩ := hread
      have hmem := (mem_port_threshold_reads (port + 1)).mpr (Or.inr ⟨sp, hindex, Or.inl rfl⟩)
      exact ⟨_, hport hlt hmem, rfl⟩
  | ePortSp_ucShare port sp =>
      obtain ⟨hlt, hindex⟩ := hread
      have hmem :=
        (mem_port_threshold_reads (port + 1)).mpr (Or.inr ⟨sp, hindex, Or.inr (Or.inl rfl)⟩)
      exact ⟨_, hport hlt hmem, rfl⟩
  | ePortSp_umShare port sp =>
      obtain ⟨hlt, hindex⟩ := hread
      have hmem :=
        (mem_port_threshold_reads (port + 1)).mpr (Or.inr ⟨sp, hindex, Or.inr (Or.inr rfl)⟩)
      exact ⟨_, hport hlt hmem, rfl⟩
  | iSp_umShare sp =>
      have hmem := hlater (Or.inr (Or.inr (Or.inl ⟨sp, hread, Or.inr (Or.inr rfl)⟩)))
      exact ⟨_, hmem, rfl⟩
  | eSp_umShare sp =>
      have hmem := hlater (Or.inr (Or.inr (Or.inl ⟨sp, hread, Or.inl rfl⟩)))
      exact ⟨_, hmem, rfl⟩
  | eSp_mcShare sp =>
      have hmem := hlater (Or.inr (Or.inr (Or.inl ⟨sp, hread, Or.inr (Or.inl rfl)⟩)))
      exact ⟨_, hmem, rfl⟩
  | eMcQ_mcBuffer queue => exact ⟨_, hlater (Or.inl ⟨queue, hread, rfl⟩), rfl⟩
  | eUcQ_ucBuffer queue => exact ⟨_, hlater (Or.inr (Or.inl ⟨queue, hread, rfl⟩)), rfl⟩
  | cpqQ_cpuBuffer queue =>
      exact ⟨_, hlater (Or.inr (Or.inr (Or.inr (Or.inl ⟨queue, hread, rfl⟩)))), rfl⟩
  | rqeQ_rqeBuffer queue =>
      exact ⟨_, hlater (Or.inr (Or.inr (Or.inr (Or.inr (Or.inl ⟨queue, hread, rfl⟩))))), rfl⟩
  | eUcQg_ucBuffer group =>
      exact ⟨_, hlater (Or.inr (Or.inr (Or.inr (Or.inr (Or.inr ⟨group, hread, rfl⟩))))), rfl⟩
  | ePortSp_mcShare | ePortSp_mcShareQueueEntries | eMcQ_mcQueueEntries | cpqQ_cpuQueueEntries
  | rqeQ_rqeQueueEntries => exact hread.elim

end Request

section Set

variable {port index : Int32} {thresholds : List (Nat × UInt64)}

-- A set that succeeds has sent every threshold.
theorem threshold_sets_sent (h : (threshold_sets port index thresholds).rv = .SUCCESS) :
    List.Forall₂ (fun threshold update =>
        bst_ovsdb_threshold_set port index threshold.1 threshold.2 = some update)
      thresholds (threshold_sets port index thresholds).sent := by
  induction thresholds with
  | nil => exact List.Forall₂.nil
  | cons threshold rest ih =>
      obtain ⟨bid, value⟩ := threshold
      rw [threshold_sets] at h ⊢
      cases hset : bst_ovsdb_threshold_set port index bid value with
      | none => simp [hset] at h
      | some update =>
          simp only [hset] at h ⊢
          exact List.Forall₂.cons hset (ih h)

theorem checked_sets_sent {invalid : Bool}
    (h : (checked_sets invalid port index thresholds).rv = .SUCCESS) :
    List.Forall₂ (fun threshold update =>
        bst_ovsdb_threshold_set port index threshold.1 threshold.2 = some update)
      thresholds (checked_sets invalid port index thresholds).sent := by
  unfold checked_sets at h ⊢
  cases invalid with
  | true => cases h
  | false => exact threshold_sets_sent h

-- A threshold that is sent goes to the row of the cell of its counter.
theorem bst_ovsdb_threshold_set_eq {bid : Nat} {threshold : UInt64} {update : ThresholdUpdate}
    (h : bst_ovsdb_threshold_set port index bid threshold = some update) :
    update.trigger_threshold = threshold.toInt64 ∧
      ∃ entry, bid_tab[bid]? = some entry ∧ entry.Accepts (entry.position port index) ∧
        update.name = entry.keyText port (index + 1) := by
  unfold bst_ovsdb_threshold_set at h
  cases hresolve : bst_ovsdb_resolve_index bid port index with
  | none => simp [hresolve] at h
  | some db_index =>
      obtain ⟨entry, hbid, rfl, haccepts⟩ := resolve_index_some hresolve
      have hlength := keyText_length port (index + 1) (bid_tab_wellFormed hbid)
      simp only [hresolve, bst_ovsdb_threshold_commit] at h
      rw [bst_bid_port_index_to_ovsdb_key_eq port (index + 1) hbid (by omega)] at h
      obtain rfl := Option.some.inj h
      exact ⟨rfl, entry, hbid, haccepts, rfl⟩

-- The echo of a threshold writes it into the cell that it was sent for.
theorem echo_cache {bid : Nat} {threshold : UInt64} {sent : ThresholdUpdate} {update : RowUpdate}
    (hset : bst_ovsdb_threshold_set port index bid threshold = some sent)
    (hecho : sent.Echo update) (scan : TableScan) :
    ∃ address stat, bst_ovsdb_cache_row_get 0 bid port (index + 1) = some address ∧
      (bufmon_row_update scan update).data.cache =
        Function.update scan.data.cache address { stat, threshold } := by
  obtain ⟨hthreshold, entry, hbid, haccepts, hname⟩ := bst_ovsdb_threshold_set_eq hset
  obtain ⟨before, hkey, rfl⟩ := hecho
  obtain ⟨port', queue, hinfo, -, -, hcell⟩ := keyText_decoded hbid haccepts 0
  have haddress : bst_ovsdb_cache_row_get 0 bid port (index + 1) =
      some (cellAddress 0 entry (entry.position port index)) := by
    simp [bst_ovsdb_cache_row_get, hbid, Int32.add_sub_cancel, haccepts]
  refine ⟨_, (before.values.counter_value.getD 0).toUInt64, haddress, ?_⟩
  rw [bufmon_row_update_eq, selected_some]
  simp only [scan_cache]
  have hrow : ∀ values, Row.address { key := before.key, values } =
      some (cellAddress 0 entry (entry.position port index)) := by
    intro values
    have hunit : (0 : Int64).toInt32 = 0 := by decide
    simp only [Row.address, Row.decoded, hkey, hname, hinfo, hunit, Option.bind_some]
    exact hcell
  rw [hrow]
  simp [Row.cell, hthreshold]

theorem echoed_cons (data : BVIEW_OVSDB_BST_DATA) (update : RowUpdate) (rest : List RowUpdate) :
    echoed data (update :: rest) =
      echoed (bufmon_row_update { data, trackMask := 0, triggers := [] } update).data rest := rfl

-- All echoes of a set, as writes into the thresholds of the cells.
theorem echoed_thresholds {sent : List ThresholdUpdate} {updates : List RowUpdate}
    (hset : List.Forall₂ (fun threshold update =>
        bst_ovsdb_threshold_set port index threshold.1 threshold.2 = some update) thresholds sent)
    (hecho : List.Forall₂ ThresholdUpdate.Echo sent updates) (data : BVIEW_OVSDB_BST_DATA) :
    (fun address => ((echoed data updates).cache address).threshold) =
      Writes.all (fun threshold : Nat × UInt64 =>
          (bst_ovsdb_cache_row_get 0 threshold.1 port (index + 1)).getD 0) Prod.snd
        (fun address => (data.cache address).threshold) thresholds := by
  induction hset generalizing updates data with
  | nil =>
      cases hecho
      rfl
  | @cons threshold update rest _ hfirst _ ih =>
      rcases hecho with _ | ⟨hfirst', hlater⟩
      obtain ⟨address, stat, haddress, hcache⟩ :=
        echo_cache hfirst hfirst' { data, trackMask := 0, triggers := [] }
      rw [echoed_cons, ih hlater, Writes.all, Writes.all, List.foldl_cons, haddress, hcache]
      congr 1
      funext other
      by_cases hother : other = address
      · subst hother
        simp
      · simp [Function.update_of_ne hother]

end Set

section RoundTrip

variable {asic : BVIEW_ASIC_CAPABILITIES} {request : ThresholdRequest}

theorem flat_within {field : ThresholdField} {bid index bound : Nat}
    (hentry : ∃ entry, bid_tab[bid]? = some entry ∧ entry.is_double_indexed = false ∧
      bound ≤ entry.num_of_columns) (hindex : index < bound)
    (hsource : field.source = some (bid, 0, index)) :
    ∀ bid' port index', field.source = some (bid', port, index') →
      ∃ entry, field.SourceWithin bid' port index' entry := by
  intro bid' port index' hsource'
  obtain ⟨rfl, rfl, rfl⟩ : bid = bid' ∧ 0 = port ∧ index = index' := by
    simpa using hsource.symm.trans hsource'
  obtain ⟨entry, hwithin, -⟩ := flat_source hsource hindex hentry
  exact ⟨entry, hwithin⟩

theorem port_within {field : ThresholdField} {bid port index bound : Nat}
    (hentry : ∃ entry, bid_tab[bid]? = some entry ∧ entry.num_of_rows = BVIEW_ASIC_MAX_PORTS ∧
      bound ≤ entry.num_of_columns) (hport : port < BVIEW_ASIC_MAX_PORTS) (hindex : index < bound)
    (hsource : field.source = some (bid, port + 1, index)) :
    ∀ bid' port' index', field.source = some (bid', port', index') →
      ∃ entry, field.SourceWithin bid' port' index' entry := by
  intro bid' port' index' hsource'
  obtain ⟨rfl, rfl, rfl⟩ : bid = bid' ∧ port + 1 = port' ∧ index = index' := by
    simpa using hsource.symm.trans hsource'
  exact port_source hsource hport hindex hentry

-- The fields of a valid request that have a counter are in its table.
theorem fields_within (hasic : asic.WithinMaxima) (hvalid : request.Valid asic) :
    ∀ entry ∈ request.fields, ∀ bid port index, entry.1.source = some (bid, port, index) →
      ∃ place, entry.1.SourceWithin bid port index place := by
  have hports := hasic.ports
  have hcommon : BVIEW_ASIC_MAX_INGRESS_SERVICE_POOLS ≤ BVIEW_ASIC_MAX_INGRESS_SERVICE_POOLS :=
    le_rfl
  have hnone : ∀ field : ThresholdField, field.source = none → ∀ bid port index,
      field.source = some (bid, port, index) →
        ∃ place, field.SourceWithin bid port index place := by
    intro field hfield bid port index hsource
    rw [hfield] at hsource
    cases hsource
  cases request with
  | device thres =>
      simp only [ThresholdRequest.fields, List.forall_mem_singleton]
      exact flat_within ⟨_, rfl, rfl, le_rfl⟩ Nat.one_pos rfl
  | ippg port pg thres =>
      obtain ⟨hlow, hhigh, hindex⟩ := hvalid
      have hport : port - 1 < BVIEW_ASIC_MAX_PORTS := by omega
      simp only [ThresholdRequest.fields, List.forall_mem_cons, List.not_mem_nil,
        false_imp_iff, implies_true, and_true]
      exact ⟨port_within ⟨_, rfl, rfl, hasic.priorityGroups⟩ hport hindex rfl,
        port_within ⟨_, rfl, rfl, hasic.priorityGroups⟩ hport hindex rfl⟩
  | ipsp port sp thres =>
      obtain ⟨hlow, hhigh, hindex⟩ := hvalid
      have hport : port - 1 < BVIEW_ASIC_MAX_PORTS := by omega
      simp only [ThresholdRequest.fields, List.forall_mem_singleton]
      exact port_within ⟨_, rfl, rfl, hcommon⟩ hport hindex rfl
  | isp sp thres =>
      simp only [ThresholdRequest.fields, List.forall_mem_singleton]
      exact flat_within ⟨_, rfl, rfl, hcommon⟩ hvalid rfl
  | epsp port sp thres =>
      obtain ⟨hlow, hhigh, hindex⟩ := hvalid
      have hport : port - 1 < BVIEW_ASIC_MAX_PORTS := by omega
      simp only [ThresholdRequest.fields, List.forall_mem_cons, List.not_mem_nil,
        false_imp_iff, implies_true, and_true]
      exact ⟨port_within ⟨_, rfl, rfl, hasic.servicePools⟩ hport hindex rfl,
        port_within ⟨_, rfl, rfl, hasic.servicePools⟩ hport hindex rfl, hnone _ rfl, hnone _ rfl⟩
  | esp sp thres =>
      simp only [ThresholdRequest.fields, List.forall_mem_cons, List.not_mem_nil,
        false_imp_iff, implies_true, and_true]
      exact ⟨flat_within ⟨_, rfl, rfl, hasic.servicePools⟩ hvalid rfl,
        flat_within ⟨_, rfl, rfl, hasic.servicePools⟩ hvalid rfl⟩
  | eucq queue thres =>
      simp only [ThresholdRequest.fields, List.forall_mem_singleton]
      exact flat_within ⟨_, rfl, rfl, hasic.unicastQueues⟩ hvalid rfl
  | eucqg group thres =>
      simp only [ThresholdRequest.fields, List.forall_mem_singleton]
      exact flat_within ⟨_, rfl, rfl, hasic.unicastQueueGroups⟩ hvalid rfl
  | emcq queue thres =>
      simp only [ThresholdRequest.fields, List.forall_mem_cons, List.not_mem_nil,
        false_imp_iff, implies_true, and_true]
      exact ⟨flat_within ⟨_, rfl, rfl, hasic.multicastQueues⟩ hvalid rfl, hnone _ rfl⟩
  | cpuq queue thres =>
      simp only [ThresholdRequest.fields, List.forall_mem_cons, List.not_mem_nil,
        false_imp_iff, implies_true, and_true]
      exact ⟨flat_within ⟨_, rfl, rfl, hasic.cpuQueues⟩ hvalid rfl, hnone _ rfl⟩
  | rqeq queue thres =>
      simp only [ThresholdRequest.fields, List.forall_mem_cons, List.not_mem_nil,
        false_imp_iff, implies_true, and_true]
      exact ⟨flat_within ⟨_, rfl, rfl, hasic.rqeQueues⟩ hvalid rfl, hnone _ rfl⟩

namespace ThresholdRequest

-- The port and the index of a request, 0 where it has none.
def place : ThresholdRequest → Nat × Nat
  | device _ => (0, 0)
  | ippg port pg _ => (port, pg)
  | ipsp port sp _ | epsp port sp _ => (port, sp)
  | isp sp _ | esp sp _ => (0, sp)
  | eucq queue _ | eucqg queue _ | emcq queue _ | cpuq queue _ | rqeq queue _ => (0, queue)

-- The thresholds of the fields that have a counter.
def thresholds (request : ThresholdRequest) : List (Nat × UInt64) :=
  request.fields.filterMap fun (field, value) => field.source.map fun (bid, _) => (bid, value)

end ThresholdRequest

-- These are the thresholds that the set functions send.
theorem set_eq (request : ThresholdRequest) : ∃ invalid, request.set =
    checked_sets invalid (Int32.ofNat request.place.1) (Int32.ofNat request.place.2)
      request.thresholds := by
  cases request <;> exact ⟨_, rfl⟩

theorem thresholds_nodup (request : ThresholdRequest) :
    (request.thresholds.map Prod.fst).Nodup := by
  cases request with
  | ippg =>
      exact (by decide : [SB_OVSDB_BST_STAT_ID_PRI_GROUP_SHARED,
        SB_OVSDB_BST_STAT_ID_PRI_GROUP_HEADROOM].Nodup)
  | epsp =>
      exact (by decide : [SB_OVSDB_BST_STAT_ID_EGR_UCAST_PORT_SHARED,
        SB_OVSDB_BST_STAT_ID_EGR_PORT_SHARED].Nodup)
  | esp =>
      exact (by decide : [SB_OVSDB_BST_STAT_ID_EGR_POOL,
        SB_OVSDB_BST_STAT_ID_EGR_MCAST_POOL].Nodup)
  | device | ipsp | isp | eucq | eucqg | emcq | cpuq | rqeq => exact List.nodup_singleton _

theorem fields_place (hvalid : request.Valid asic) : ∀ entry ∈ request.fields,
    ∀ bid port index, entry.1.source = some (bid, port, index) →
      (port, index) = request.place := by
  cases request with
  | ippg | ipsp | epsp =>
      have hport := Nat.sub_add_cancel hvalid.1
      simp [ThresholdRequest.fields, ThresholdField.source, ThresholdRequest.place, hport]
  | device | isp | esp | eucq | eucqg | emcq | cpuq | rqeq =>
      simp [ThresholdRequest.fields, ThresholdField.source, ThresholdRequest.place]

-- What the request asks of the cells of its counters.
theorem mem_thresholds {bid : Nat} {value : UInt64} (hvalid : request.Valid asic) :
    (bid, value) ∈ request.thresholds ↔ ∃ field, (field, value) ∈ request.fields ∧
      field.source = some (bid, request.place) := by
  simp only [ThresholdRequest.thresholds, List.mem_filterMap, Option.map_eq_some_iff]
  constructor
  · rintro ⟨⟨field, value⟩, hfield, ⟨bid, port, index⟩, hsource, heq⟩
    obtain ⟨rfl, rfl⟩ := Prod.mk.inj heq
    refine ⟨field, hfield, hsource.trans ?_⟩
    rw [fields_place hvalid _ hfield _ _ _ hsource]
  · rintro ⟨field, hfield, hsource⟩
    exact ⟨(field, value), hfield, _, hsource, rfl⟩

-- The cell that a threshold of the request is written to.
def ThresholdRequest.cell (request : ThresholdRequest) (threshold : Nat × UInt64) : Int :=
  (bst_ovsdb_cache_row_get 0 threshold.1 (Int32.ofNat request.place.1)
    (Int32.ofNat request.place.2 + 1)).getD 0

theorem cell_of_source {field : ThresholdField} {bid : Nat} {address : Int} (value : UInt64)
    (hsource : field.source = some (bid, request.place)) (haddress : field.address = some address) :
    request.cell (bid, value) = address := by
  simp only [ThresholdField.address, hsource, Option.bind_some] at haddress
  simp [ThresholdRequest.cell, haddress]

theorem thresholds_source (hasic : asic.WithinMaxima) (hvalid : request.Valid asic)
    {threshold : Nat × UInt64} (h : threshold ∈ request.thresholds) :
    ∃ field entry, (field, threshold.2) ∈ request.fields ∧
      field.SourceWithin threshold.1 request.place.1 request.place.2 entry ∧
      field.address = some (request.cell threshold) := by
  obtain ⟨field, hfield, hsource⟩ := (mem_thresholds hvalid).mp h
  obtain ⟨entry, hwithin⟩ := fields_within hasic hvalid _ hfield _ _ _ hsource
  have haddress := sourceWithin_address hwithin
  rw [cell_of_source threshold.2 hsource haddress]
  exact ⟨field, entry, hfield, hwithin, haddress⟩

theorem cells_nodup (hasic : asic.WithinMaxima) (hvalid : request.Valid asic) :
    (request.thresholds.map request.cell).Nodup := by
  have hbids := List.pairwise_map.mp (thresholds_nodup request)
  refine List.pairwise_map.mpr (hbids.imp_of_mem ?_)
  intro threshold other hmem hother hne heq
  obtain ⟨field, entry, -, hwithin, haddress⟩ := thresholds_source hasic hvalid hmem
  obtain ⟨field', entry', -, hwithin', haddress'⟩ := thresholds_source hasic hvalid hother
  rw [heq, ← haddress'] at haddress
  exact address_ne hwithin hwithin' hne haddress

variable {data : BVIEW_OVSDB_BST_DATA} {updates : List RowUpdate}

theorem echoed_request (hset : request.set.rv = .SUCCESS)
    (hecho : List.Forall₂ ThresholdUpdate.Echo request.set.sent updates) :
    (fun address => ((echoed data updates).cache address).threshold) =
      Writes.all request.cell Prod.snd (fun address => (data.cache address).threshold)
        request.thresholds := by
  obtain ⟨invalid, heq⟩ := set_eq request
  rw [heq] at hset hecho
  exact echoed_thresholds (checked_sets_sent hset) hecho data

-- After the echo, the cell of each field has the value that was asked for.
theorem echoed_field (hasic : asic.WithinMaxima) (hvalid : request.Valid asic)
    (hset : request.set.rv = .SUCCESS)
    (hecho : List.Forall₂ ThresholdUpdate.Echo request.set.sent updates)
    {field : ThresholdField} {value : UInt64} (hfield : (field, value) ∈ request.fields)
    {address : Int} (haddress : field.address = some address) :
    ((echoed data updates).cache address).threshold = value := by
  obtain ⟨⟨bid, port, index⟩, hsource, -⟩ := Option.bind_eq_some_iff.mp haddress
  rw [fields_place hvalid _ hfield _ _ _ hsource] at hsource
  have hmem : (bid, value) ∈ request.thresholds :=
    (mem_thresholds hvalid).mpr ⟨field, hfield, hsource⟩
  have hwritten : Writes.all request.cell Prod.snd
      (fun address => (data.cache address).threshold) request.thresholds
      (request.cell (bid, value)) = value :=
    Writes.all_of_nodup (cells_nodup hasic hvalid) hmem
  rw [cell_of_source value hsource haddress] at hwritten
  exact (congrFun (echoed_request hset hecho) address).trans hwritten

-- The echo leaves all other thresholds alone.
theorem echoed_others (hasic : asic.WithinMaxima) (hvalid : request.Valid asic)
    (hset : request.set.rv = .SUCCESS)
    (hecho : List.Forall₂ ThresholdUpdate.Echo request.set.sent updates) {address : Int}
    (hothers : ∀ entry ∈ request.fields, entry.1.address ≠ some address) :
    ((echoed data updates).cache address).threshold = (data.cache address).threshold := by
  refine (congrFun (echoed_request hset hecho) address).trans (Writes.all_of_untouched ?_)
  rintro threshold hmem rfl
  obtain ⟨field, entry, hfield, -, haddress⟩ := thresholds_source hasic hvalid hmem
  exact hothers _ hfield haddress

-- What setting a threshold has to come to.
structure RoundTrips (asic : BVIEW_ASIC_CAPABILITIES) (request : ThresholdRequest)
    (data : BVIEW_OVSDB_BST_DATA) (updates : List RowUpdate)
    (snapshot : BVIEW_BST_ASIC_SNAPSHOT_DATA) : Prop where
  reported : ∃ filled,
    sbplugin_ovsdb_bst_threshold_get asic (echoed data updates) snapshot = some filled ∧
      ∀ entry ∈ request.fields, entry.1.get filled = entry.2
  others : ∀ address, (∀ entry ∈ request.fields, entry.1.address ≠ some address) →
    ((echoed data updates).cache address).threshold = (data.cache address).threshold

-- A field that is read shows its cell, any other what the caller's snapshot has.
theorem get_filled (hasic : asic.WithinMaxima) {snapshot filled : BVIEW_BST_ASIC_SNAPSHOT_DATA}
    (h : sbplugin_ovsdb_bst_threshold_get asic data snapshot = some filled)
    (field : ThresholdField) :
    (field.Read asic → ∃ address, field.address = some address ∧
      field.get filled = (data.cache address).threshold) ∧
    (¬ field.Read asic → field.get filled = field.get snapshot) := by
  constructor
  · intro hread
    obtain ⟨read, hmem, rfl⟩ := exists_read hread
    obtain ⟨address, haddress, -⟩ := read_value hasic data hmem
    refine ⟨address, haddress, get_of_read h ⟨read, hmem, rfl⟩ ?_⟩
    intro other hother hplace
    obtain ⟨address', haddress', hvalue⟩ := read_value hasic data hother
    rw [hplace, haddress] at haddress'
    rw [hvalue, Option.some.inj haddress']
  · intro hnot
    refine get_of_not_read h ?_
    rintro read hmem rfl
    exact hnot (place_read hmem)

-- With more ports than the cache has rows, the get function fails.
theorem threshold_get_isSome_iff (num_ports : Nat) (snapshot : BVIEW_BST_ASIC_SNAPSHOT_DATA) :
    (sbplugin_ovsdb_bst_threshold_get (sbplugin_ovsdb_system_util_td2_init num_ports) data
        snapshot).isSome = true ↔ num_ports ≤ BVIEW_ASIC_MAX_PORTS := by
  rw [sbplugin_ovsdb_bst_threshold_get, foldlM_run_isSome]
  constructor
  · intro hall
    by_contra hports
    have hmem : (⟨131, 0, SB_OVSDB_BST_STAT_ID_PRI_GROUP_SHARED, .iPortPg_umShare 130 0⟩ :
        ThresholdRead) ∈ threshold_reads (sbplugin_ovsdb_system_util_td2_init num_ports) := by
      have hport : 131 ≤ (sbplugin_ovsdb_system_util_td2_init num_ports).numPorts := by
        simp only [sbplugin_ovsdb_system_util_td2_init, BVIEW_ASIC_MAX_PORTS] at hports ⊢
        omega
      refine mem_threshold_reads.mpr (Or.inr (Or.inl ⟨131, by omega, hport, ?_⟩))
      exact (mem_port_threshold_reads 131).mpr (Or.inl ⟨0, Nat.succ_pos 7, Or.inl rfl⟩)
    have hvalue := hall _ hmem
    have hresolve : bst_ovsdb_resolve_index SB_OVSDB_BST_STAT_ID_PRI_GROUP_SHARED (Int32.ofNat 131)
        (Int32.ofNat 0) = none := by
      decide +kernel
    simp only [ThresholdRead.value, bst_ovsdb_threshold_get, hresolve] at hvalue
    cases hvalue
  · intro hports read hread
    obtain ⟨address, -, hvalue⟩ := read_value (td2_withinMaxima hports) data hread
    simp [hvalue]

-- A threshold request that succeeds and comes back is reported as it was asked
-- for exactly if the ports fit the cache and each field that is not read happens
-- to have its value in the caller's snapshot already.
theorem threshold_round_trip_iff (num_ports : Nat) (request : ThresholdRequest)
    (data : BVIEW_OVSDB_BST_DATA) (updates : List RowUpdate)
    (snapshot : BVIEW_BST_ASIC_SNAPSHOT_DATA)
    (hvalid : request.Valid (sbplugin_ovsdb_system_util_td2_init num_ports))
    (hset : request.set.rv = .SUCCESS)
    (hecho : List.Forall₂ ThresholdUpdate.Echo request.set.sent updates) :
    RoundTrips (sbplugin_ovsdb_system_util_td2_init num_ports) request data updates snapshot ↔
      num_ports ≤ BVIEW_ASIC_MAX_PORTS ∧
        ∀ entry ∈ request.fields,
          ¬ entry.1.Read (sbplugin_ovsdb_system_util_td2_init num_ports) →
            entry.1.get snapshot = entry.2 := by
  constructor
  · rintro ⟨⟨filled, hget, hfields⟩, -⟩
    have hports := (threshold_get_isSome_iff num_ports snapshot).mp
      (Option.isSome_iff_exists.mpr ⟨filled, hget⟩)
    refine ⟨hports, ?_⟩
    intro entry hentry hnot
    have hkept := (get_filled (td2_withinMaxima hports) hget entry.1).2 hnot
    rw [← hkept, hfields entry hentry]
  · rintro ⟨hports, hunread⟩
    have hasic := td2_withinMaxima hports
    obtain ⟨filled, hget⟩ := Option.isSome_iff_exists.mp
      ((@threshold_get_isSome_iff (echoed data updates) num_ports snapshot).mpr hports)
    refine ⟨⟨filled, hget, ?_⟩,
      fun address hothers => echoed_others hasic hvalid hset hecho hothers⟩
    rintro ⟨field, value⟩ hfield
    by_cases hread : field.Read (sbplugin_ovsdb_system_util_td2_init num_ports)
    · obtain ⟨address, haddress, hshown⟩ := (get_filled hasic hget field).1 hread
      exact hshown.trans (echoed_field hasic hvalid hset hecho hfield haddress)
    · rw [(get_filled hasic hget field).2 hread]
      exact hunread _ hfield hread

-- The row as the server may have it before, and what the server makes of the
-- transaction.
def ThresholdUpdate.row (sent : ThresholdUpdate) : Row :=
  { key := { name := sent.name, hw_unit_id := 0 }
    values :=
      { counter_value := some 0
        trigger_threshold := some 0
        enabled := some true
        status := none } }

def ThresholdUpdate.update (sent : ThresholdUpdate) : RowUpdate :=
  row_update (some sent.row)
    (some { sent.row with values :=
      { sent.row.values with trigger_threshold := some sent.trigger_threshold } })

theorem update_echo (sent : List ThresholdUpdate) :
    List.Forall₂ ThresholdUpdate.Echo sent (sent.map ThresholdUpdate.update) := by
  induction sent with
  | nil => exact .nil
  | cons first rest ih => exact .cons ⟨first.row, rfl, rfl⟩ ih

-- The threshold of a unicast queue is reported.
def unicastRequest : ThresholdRequest := .eucq 0 { ucBufferThreshold := 208 }

theorem unicast_threshold_reported :
    RoundTrips (sbplugin_ovsdb_system_util_td2_init 1) unicastRequest bst_ovsdb_cache
      (unicastRequest.set.sent.map ThresholdUpdate.update) .zero := by
  have hvalid : unicastRequest.Valid (sbplugin_ovsdb_system_util_td2_init 1) :=
    (by decide : 0 < BVIEW_TD2_NUM_UC_QUEUE)
  refine (threshold_round_trip_iff 1 unicastRequest bst_ovsdb_cache _ .zero hvalid
    (by decide +kernel) (update_echo _)).mpr ⟨by decide, ?_⟩
  intro entry hentry hnot
  obtain rfl := List.mem_singleton.mp hentry
  exact absurd hvalid hnot

-- A multicast queue is asked for two thresholds, and only the one in bytes is
-- set and reported.
def multicastRequest : ThresholdRequest :=
  .emcq 0 { mcBufferThreshold := 208, mcQueueThreshold := 208 }

theorem multicast_entries_not_reported :
    multicastRequest.Valid (sbplugin_ovsdb_system_util_td2_init 1) ∧
      multicastRequest.set.rv = .SUCCESS ∧
      List.Forall₂ ThresholdUpdate.Echo multicastRequest.set.sent
        (multicastRequest.set.sent.map ThresholdUpdate.update) ∧
      ¬ RoundTrips (sbplugin_ovsdb_system_util_td2_init 1) multicastRequest bst_ovsdb_cache
        (multicastRequest.set.sent.map ThresholdUpdate.update) .zero := by
  have hvalid : multicastRequest.Valid (sbplugin_ovsdb_system_util_td2_init 1) :=
    (by decide : 0 < BVIEW_TD2_NUM_MC_QUEUE)
  refine ⟨hvalid, by decide +kernel, update_echo _, ?_⟩
  rintro ⟨⟨filled, hget, hfields⟩, -⟩
  have hshown : (ThresholdField.eMcQ_mcQueueEntries 0).get filled = 208 :=
    hfields (.eMcQ_mcQueueEntries 0, 208) (List.mem_cons_of_mem _ List.mem_cons_self)
  have hkept : (ThresholdField.eMcQ_mcQueueEntries 0).get filled = 0 :=
    (get_filled (td2_withinMaxima (by decide)) hget (.eMcQ_mcQueueEntries 0)).2 id
  rw [hkept] at hshown
  exact absurd hshown (by decide)

end RoundTrip

end BroadView.Ovsdb
