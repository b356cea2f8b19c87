import BroadView.Bst.Thresholds.Theorems

namespace BroadView.Bst

open Ovsdb BSTJSON_CONFIGURE_BST_THRESHOLDS

section Cell

-- A position inside the table of a counter, and inside the row of the port where
-- the counter has a row for each port.
structure RealCell (entry : BidEntry) (port db_index : Int32) : Prop where
  nonneg : 0 ≤ db_index.toInt
  table : db_index.toInt < entry.size
  row : entry.is_double_indexed = true →
    (port.toInt - 1) * entry.num_of_columns ≤ db_index.toInt ∧
      db_index.toInt < port.toInt * entry.num_of_columns

-- The position that the plugin makes of the port and index of a counter.
def AddressesCell (port index : Int32) (bid : Nat) : Prop :=
  ∃ entry db_index, bid_tab[bid]? = some entry ∧
    bst_ovsdb_resolve_index bid port index = some db_index ∧ RealCell entry port db_index

variable {entry : BidEntry} {bid : Nat}

theorem exists_eq_ofNat (number : Int32) (hnumber : 0 ≤ number.toInt) :
    ∃ n : Nat, number = Int32.ofNat n ∧ number.toInt = n := by
  obtain ⟨n, hn⟩ := Int.eq_ofNat_of_zero_le hnumber
  refine ⟨n, ?_, hn⟩
  rw [← Int32.ofInt_eq_ofNat, ← hn, Int32.ofInt_toInt]

theorem addresses_within (hbid : bid_tab[bid]? = some entry) (port index : Nat)
    (hwithin : entry.Within port index) :
    AddressesCell (Int32.ofNat port) (Int32.ofNat index) bid := by
  have hentry := bid_tab_wellFormed hbid
  have hposition := position_eq_flat hentry hwithin
  have hlt := flat_lt hentry hwithin
  refine ⟨entry, entry.position (Int32.ofNat port) (Int32.ofNat index), hbid, ?_, ?_, ?_, ?_⟩
  · simp only [bst_ovsdb_resolve_index, hbid]
    rw [if_pos (accepts_within hentry hwithin)]
  · omega
  · omega
  · intro hd
    obtain ⟨hlow, hhigh⟩ := hwithin.port hd
    have hindex := hwithin.index
    have hrows : entry.num_of_rows ≤ entry.size := by
      rw [hentry.size_eq]
      exact Nat.le_mul_of_pos_right _ hentry.columns_pos
    have hsize := hentry.size_le
    have hport : (Int32.ofNat port).toInt = port := toInt_ofNat_small (by omega)
    obtain ⟨row, rfl⟩ : ∃ row, port = row + 1 := ⟨port - 1, by omega⟩
    have hflat : entry.flat (row + 1) index = row * entry.num_of_columns + index := by
      rw [BidEntry.flat, if_pos hd, Nat.add_sub_cancel]
    have hnext : ((row + 1 : Nat) : Int) * entry.num_of_columns =
        row * entry.num_of_columns + entry.num_of_columns := by
      rw [Int.natCast_add, Int.add_mul, Int.natCast_one, Int.one_mul]
    have hrow : ((row + 1 : Nat) : Int) - 1 = row := by omega
    rw [hposition, hport, hnext, hflat, hrow, Int.natCast_add, Int.natCast_mul]
    omega

-- A position inside the row of a port is inside the table only when the table
-- has that row.
theorem RealCell.port_in_table {port db_index : Int32} (hentry : entry.WellFormed)
    (hd : entry.is_double_indexed = true) (h : RealCell entry port db_index) :
    1 ≤ port.toInt ∧ port.toInt ≤ entry.num_of_rows := by
  obtain ⟨hlow, hhigh⟩ := h.row hd
  have hnonneg := h.nonneg
  have htable := h.table
  have hcolumns : (0 : Int) < entry.num_of_columns := Int.natCast_pos.mpr hentry.columns_pos
  rw [hentry.size_eq, Int.natCast_mul] at htable
  have hpositive : 0 * (entry.num_of_columns : Int) < port.toInt * entry.num_of_columns := by
    omega
  have hbelow : (port.toInt - 1) * entry.num_of_columns <
      entry.num_of_rows * entry.num_of_columns := by omega
  have hport := Int.lt_of_mul_lt_mul_right hpositive hcolumns.le
  have hrow := Int.lt_of_mul_lt_mul_right hbelow hcolumns.le
  omega

end Cell

section Accepted

variable {num_ports : Nat} {msgsnd : Bool} {cookie : Cookie} {asicId : Nat} {id : Int}
  {pCommand : BSTJSON_CONFIGURE_BST_THRESHOLDS} {threshold_type : BVIEW_BST_THRESHOLD_TYPE}
  {msg : ThresholdMessage}

theorem threshold_set_port : (pCommand.threshold_set threshold_type).port =
    if threshold_type.PortIndexed then pCommand.port else 0 := by
  cases threshold_type <;> rfl

theorem threshold_set_index : (pCommand.threshold_set threshold_type).index =
    pCommand.index threshold_type := by
  cases threshold_type <;> rfl

-- The counters of a realm as the plugin's table has them.
def counter_bids : BVIEW_BST_THRESHOLD_TYPE → List Nat
  | .DEVICE => [SB_OVSDB_BST_STAT_ID_DEVICE]
  | .INGRESS_PORT_PG =>
      [SB_OVSDB_BST_STAT_ID_PRI_GROUP_SHARED, SB_OVSDB_BST_STAT_ID_PRI_GROUP_HEADROOM]
  | .INGRESS_PORT_SP => [SB_OVSDB_BST_STAT_ID_PORT_POOL]
  | .INGRESS_SP => [SB_OVSDB_BST_STAT_ID_ING_POOL]
  | .EGRESS_PORT_SP =>
      [SB_OVSDB_BST_STAT_ID_EGR_UCAST_PORT_SHARED, SB_OVSDB_BST_STAT_ID_EGR_PORT_SHARED]
  | .EGRESS_SP => [SB_OVSDB_BST_STAT_ID_EGR_POOL, SB_OVSDB_BST_STAT_ID_EGR_MCAST_POOL]
  | .EGRESS_UC_QUEUE => [SB_OVSDB_BST_STAT_ID_UCAST]
  | .EGRESS_UC_QUEUEGROUPS => [SB_OVSDB_BST_STAT_ID_UCAST_GROUP]
  | .EGRESS_MC_QUEUE => [SB_OVSDB_BST_STAT_ID_MCAST]
  | .EGRESS_CPU_QUEUE => [SB_OVSDB_BST_STAT_ID_CPU_QUEUE]
  | .EGRESS_RQE_QUEUE => [SB_OVSDB_BST_STAT_ID_RQE_QUEUE]

theorem threshold_set_bids (pCommand : BSTJSON_CONFIGURE_BST_THRESHOLDS)
    (threshold_type : BVIEW_BST_THRESHOLD_TYPE) :
    (pCommand.threshold_set threshold_type).counters.map Prod.fst =
      counter_bids threshold_type := by
  cases threshold_type <;> rfl

structure FitsRealm (threshold_type : BVIEW_BST_THRESHOLD_TYPE) (columns : Nat)
    (entry : BidEntry) : Prop where
  double : entry.is_double_indexed = decide threshold_type.PortIndexed
  rows : threshold_type.PortIndexed → entry.num_of_rows = BVIEW_ASIC_MAX_PORTS
  columns : columns ≤ entry.num_of_columns

-- The number of ports does not count as an index.
theorem indices_td2 (num_ports : Nat) (threshold_type : BVIEW_BST_THRESHOLD_TYPE) :
    indices (sbplugin_ovsdb_system_util_td2_init num_ports) threshold_type =
      indices (sbplugin_ovsdb_system_util_td2_init 0) threshold_type := by
  cases threshold_type <;> rfl

theorem counter_fits (num_ports : Nat) :
    ∀ bid ∈ counter_bids threshold_type, ∃ entry, bid_tab[bid]? = some entry ∧
      FitsRealm threshold_type
        (indices (sbplugin_ovsdb_system_util_td2_init num_ports) threshold_type) entry := by
  rw [indices_td2]
  cases threshold_type
  all_goals
    simp only [counter_bids, List.mem_cons, List.not_mem_nil, or_false, forall_eq,
      forall_eq_or_imp]
  case INGRESS_PORT_PG | EGRESS_PORT_SP | EGRESS_SP =>
    exact ⟨⟨_, rfl, by decide, by decide, by decide⟩, ⟨_, rfl, by decide, by decide, by decide⟩⟩
  all_goals exact ⟨_, rfl, by decide, by decide, by decide⟩

-- An accepted request names a port and an index of the unit, and every counter it
-- sets has its position in the table and in the row of that port.
structure AddressesCells (asic : BVIEW_ASIC_CAPABILITIES)
    (pCommand : BSTJSON_CONFIGURE_BST_THRESHOLDS) (threshold_type : BVIEW_BST_THRESHOLD_TYPE)
    (msg : ThresholdMessage) : Prop where
  place : InCapability asic pCommand threshold_type
  cells : ∃ call, msg.threshold_set = some call ∧
    ∀ counter ∈ call.counters, AddressesCell call.port call.index counter.1

-- The checks of an accepted request leave both ends of the ports of a priority
-- group open, and the lower end of those of a service pool. The plugin has tables
-- for the maximal number of ports.
def PortListed (num_ports : Nat) (port : Int32) : BVIEW_BST_THRESHOLD_TYPE → Prop
  | .INGRESS_PORT_PG =>
      0 < port.toInt ∧ port.toInt ≤ num_ports ∧ port.toInt ≤ BVIEW_ASIC_MAX_PORTS
  | .INGRESS_PORT_SP | .EGRESS_PORT_SP => 0 < port.toInt ∧ port.toInt ≤ BVIEW_ASIC_MAX_PORTS
  | _ => True

theorem portListed_iff
    (hpools : threshold_type = .INGRESS_PORT_SP ∨ threshold_type = .EGRESS_PORT_SP →
      pCommand.port.toInt ≤ num_ports) :
    PortListed num_ports pCommand.port threshold_type ↔
      (threshold_type.PortIndexed → 1 ≤ pCommand.port.toInt ∧ pCommand.port.toInt ≤ num_ports ∧
        pCommand.port.toInt ≤ BVIEW_ASIC_MAX_PORTS) := by
  cases threshold_type with
  | INGRESS_PORT_PG =>
      simp only [PortListed, BVIEW_BST_THRESHOLD_TYPE.PortIndexed, true_or, true_imp_iff]
      omega
  | INGRESS_PORT_SP | EGRESS_PORT_SP =>
      have hports := hpools (by simp)
      simp only [PortListed, BVIEW_BST_THRESHOLD_TYPE.PortIndexed, true_or, or_true, true_imp_iff]
      omega
  | DEVICE | INGRESS_SP | EGRESS_SP | EGRESS_UC_QUEUE | EGRESS_UC_QUEUEGROUPS | EGRESS_MC_QUEUE
  | EGRESS_CPU_QUEUE | EGRESS_RQE_QUEUE =>
      simp [PortListed, BVIEW_BST_THRESHOLD_TYPE.PortIndexed]

theorem counter_bid_mem {counter : Nat × UInt64}
    (h : counter ∈ (pCommand.threshold_set threshold_type).counters) :
    counter.1 ∈ counter_bids threshold_type := by
  rw [← threshold_set_bids pCommand]
  exact List.mem_map_of_mem h

theorem counter_bids_ne_nil (threshold_type : BVIEW_BST_THRESHOLD_TYPE) :
    counter_bids threshold_type ≠ [] := by
  cases threshold_type <;> simp [counter_bids]

-- A port of the tables and an index of the unit lead to a real cell.
theorem addresses_listed
    (hindex : 0 ≤ (pCommand.index threshold_type).toInt ∧
      (pCommand.index threshold_type).toInt <
        indices (sbplugin_ovsdb_system_util_td2_init num_ports) threshold_type)
    (hport : threshold_type.PortIndexed →
      1 ≤ pCommand.port.toInt ∧ pCommand.port.toInt ≤ BVIEW_ASIC_MAX_PORTS)
    {bid : Nat} (hbid : bid ∈ counter_bids threshold_type) :
    AddressesCell (pCommand.threshold_set threshold_type).port
      (pCommand.threshold_set threshold_type).index bid := by
  obtain ⟨entry, hentry, hfits⟩ := counter_fits num_ports bid hbid
  obtain ⟨index, hindex_eq, hindex_toInt⟩ := exists_eq_ofNat _ hindex.1
  have hcolumns := hfits.columns
  rw [threshold_set_port, threshold_set_index, hindex_eq]
  by_cases hindexed : threshold_type.PortIndexed
  · obtain ⟨hlow, hhigh⟩ := hport hindexed
    obtain ⟨port, hport_eq, hport_toInt⟩ := exists_eq_ofNat pCommand.port (by omega)
    have hrows := hfits.rows hindexed
    rw [if_pos hindexed, hport_eq]
    exact addresses_within hentry port index ⟨fun _ => ⟨by omega, by omega⟩, by omega⟩
  · have hflat : entry.is_double_indexed = false := by
      rw [hfits.double]
      exact decide_eq_false hindexed
    rw [if_neg hindexed]
    refine addresses_within hentry 0 index ⟨?_, by omega⟩
    rw [hflat]
    exact fun h => absurd h Bool.false_ne_true

theorem listed_of_addresses {bid : Nat} (hindexed : threshold_type.PortIndexed)
    (hbid : bid ∈ counter_bids threshold_type)
    (h : AddressesCell (pCommand.threshold_set threshold_type).port
      (pCommand.threshold_set threshold_type).index bid) :
    1 ≤ pCommand.port.toInt ∧ pCommand.port.toInt ≤ BVIEW_ASIC_MAX_PORTS := by
  obtain ⟨entry, hentry, hfits⟩ := counter_fits 0 bid hbid
  obtain ⟨found, db_index, hfound, -, hcell⟩ := h
  obtain rfl : entry = found := Option.some.inj (hentry.symm.trans hfound)
  have hdouble : entry.is_double_indexed = true := by
    rw [hfits.double]
    exact decide_eq_true hindexed
  rw [threshold_set_port, if_pos hindexed] at hcell
  have hport := hcell.port_in_table (bid_tab_wellFormed hentry) hdouble
  rw [hfits.rows hindexed] at hport
  exact hport

theorem accepted_addresses_iff
    (hrealm : bst_realm_type_get pCommand.realm = some threshold_type)
    (h : bstjson_configure_bst_thresholds_impl pCommand
      ⟨some (sbplugin_ovsdb_system_util_td2_init num_ports), msgsnd⟩ cookie asicId id = .ok msg) :
    AddressesCells (sbplugin_ovsdb_system_util_td2_init num_ports) pCommand threshold_type msg ↔
      PortListed num_ports pCommand.port threshold_type := by
  obtain ⟨found, asic, hfound, hasic, hparams, -⟩ := impl_ok_iff.mp h
  obtain rfl : threshold_type = found := Option.some.inj (hrealm.symm.trans hfound)
  obtain rfl : sbplugin_ovsdb_system_util_td2_init num_ports = asic := Option.some.inj hasic
  obtain ⟨hindex, hpools⟩ := input_params_valid_iff.mp hparams
  have hcall := posted_threshold_set hrealm h
  have hlisted : PortListed num_ports pCommand.port threshold_type ↔ _ := portListed_iff hpools
  rw [hlisted]
  constructor
  · rintro ⟨hplace, call, hset, hcells⟩ hindexed
    obtain rfl : pCommand.threshold_set threshold_type = call :=
      Option.some.inj (hcall.symm.trans hset)
    obtain ⟨bid, hbid⟩ := List.exists_mem_of_ne_nil _ (counter_bids_ne_nil threshold_type)
    have hmem := hbid
    rw [← threshold_set_bids pCommand] at hmem
    obtain ⟨counter, hcounter, rfl⟩ := List.mem_map.mp hmem
    obtain ⟨hlow, hhigh⟩ := listed_of_addresses hindexed hbid (hcells counter hcounter)
    exact ⟨hlow, (hplace.port hindexed).2, hhigh⟩
  · intro hports
    refine ⟨⟨fun hindexed => ?_, hindex⟩, _, hcall, fun counter hcounter => ?_⟩
    · obtain ⟨hlow, hhigh, -⟩ := hports hindexed
      exact ⟨hlow, hhigh⟩
    · refine addresses_listed hindex (fun hindexed => ?_) (counter_bid_mem hcounter)
      obtain ⟨hlow, -, hhigh⟩ := hports hindexed
      exact ⟨hlow, hhigh⟩

-- The greatest port of a unit with 32 ports, and its last priority group.
def group_request : BSTJSON_CONFIGURE_BST_THRESHOLDS :=
  { (default : BSTJSON_CONFIGURE_BST_THRESHOLDS) with
    realm := "ingress-port-priority-group".toList
    port := 32
    priorityGroup := 7
    umShareThreshold := 208
    umHeadroomThreshold := 208 }

theorem group_addresses : ∃ msg,
    bstjson_configure_bst_thresholds_impl group_request
        ⟨some (sbplugin_ovsdb_system_util_td2_init 32), true⟩ 0 0 1 = .ok msg ∧
      (AddressesCells (sbplugin_ovsdb_system_util_td2_init 32) group_request .INGRESS_PORT_PG msg ↔
        PortListed 32 group_request.port .INGRESS_PORT_PG) := by
  refine ⟨_, rfl, ?_⟩
  have haccepted : bstjson_configure_bst_thresholds_impl group_request
      ⟨some (sbplugin_ovsdb_system_util_td2_init 32), true⟩ 0 0 1 = .ok _ := rfl
  exact accepted_addresses_iff (by decide) haccepted

-- The parameters of a request for priority group 0 of a port that is not there.
def negative_params : Rest.Params
  | "realm" => some (.string "ingress-port-priority-group")
  | "port" => some (.string "-1")
  | "um-share-threshold" => some (.number 208)
  | "um-headroom-threshold" => some (.number 208)
  | _ => none

def negative_request : BSTJSON_CONFIGURE_BST_THRESHOLDS :=
  { (default : BSTJSON_CONFIGURE_BST_THRESHOLDS) with
    realm := "ingress-port-priority-group".toList
    port := -1
    umShareThreshold := 208
    umHeadroomThreshold := 208 }

-- The request is accepted, and its position is sixteen cells before the table.
theorem negative_port_accepted :
    bstjson_configure_bst_thresholds negative_params = .ok negative_request ∧
      bst_realm_type_get negative_request.realm = some .INGRESS_PORT_PG ∧
      ∃ msg, bstjson_configure_bst_thresholds_impl negative_request
          ⟨some (sbplugin_ovsdb_system_util_td2_init 32), true⟩ 0 0 1 = .ok msg ∧
        bst_ovsdb_resolve_index SB_OVSDB_BST_STAT_ID_PRI_GROUP_SHARED (-1) 0 = some (-16) ∧
        ¬AddressesCells (sbplugin_ovsdb_system_util_td2_init 32) negative_request
          .INGRESS_PORT_PG msg := by
  refine ⟨by decide, by decide, _, rfl, by decide, fun h => ?_⟩
  have hlow := (h.place.port (Or.inl rfl)).1
  exact absurd hlow (by decide)

end Accepted

end BroadView.Bst
