import BroadView.Ovsdb.System
import BroadView.Ovsdb.Threshold.Theorems

namespace BroadView.Ovsdb

section Field

variable (data : BVIEW_SYSTEM_ASIC_MAX_BUF_SNAPSHOT_DATA) (value : UInt64)

namespace MaxBufField

theorem get_put_self (field : MaxBufField) : field.get (field.put data value) = value := by
  cases field <;> simp [get, put, setCell_apply, setPortCell_apply]

theorem get_put_of_ne {field other : MaxBufField} (h : other ≠ field) :
    other.get (field.put data value) = other.get data := by
  cases field <;> cases other <;> first
    | rfl
    | exact absurd rfl h
    | (simp only [get, put, setCell_apply, setPortCell_apply]
       split <;> simp_all)

theorem get_default (field : MaxBufField) : field.get default = 0 := by
  cases field <;> rfl

end MaxBufField

end Field

section Stores

variable {stores : List MaxBufStore} {snapshot filled : BVIEW_SYSTEM_ASIC_MAX_BUF_SNAPSHOT_DATA}

theorem stores_isSome : (stores.foldlM MaxBufStore.run snapshot).isSome = true ↔
    ∀ store ∈ stores, store.place.inArray = true := by
  induction stores generalizing snapshot with
  | nil => simp
  | cons store rest ih =>
      rw [List.foldlM_cons, List.forall_mem_cons]
      by_cases hplace : store.place.inArray = true
      · simp [MaxBufStore.run, hplace, ih]
      · simp [MaxBufStore.run, hplace]

-- A maximum is nonzero if it was before or an assignment of a nonzero value
-- stores to it.
theorem stores_nonzero_iff (h : stores.foldlM MaxBufStore.run snapshot = some filled)
    (hvalues : ∀ store ∈ stores, store.value ≠ 0) (field : MaxBufField) :
    field.get filled ≠ 0 ↔
      field.get snapshot ≠ 0 ∨ ∃ store ∈ stores, store.place = field := by
  induction stores generalizing snapshot with
  | nil =>
      obtain rfl := Option.some.inj h
      simp
  | cons store rest ih =>
      have hrest : ∀ other ∈ rest, other.value ≠ 0 :=
        fun other hother => hvalues other (List.mem_cons_of_mem store hother)
      have hvalue := hvalues store List.mem_cons_self
      rw [List.foldlM_cons] at h
      obtain ⟨next, hrun, hfilled⟩ := Option.bind_eq_some_iff.mp h
      rw [ih hfilled hrest]
      unfold MaxBufStore.run at hrun
      split_ifs at hrun with hplace
      obtain rfl := Option.some.inj hrun
      simp only [List.mem_cons, exists_eq_or_imp]
      by_cases hsame : store.place = field
      · subst hsame
        simp [MaxBufField.get_put_self, hvalue]
      · rw [MaxBufField.get_put_of_ne snapshot store.value (Ne.symm hsame)]
        simp [hsame]

end Stores

section Defaults

variable {asic : BVIEW_ASIC_CAPABILITIES}

-- The places that the default functions store to.
def MaxBufField.Default (asic : BVIEW_ASIC_CAPABILITIES) : MaxBufField → Prop
  | device => True
  | iPortPg_umShare port pg | iPortPg_umHeadroom port pg =>
      port < asic.numPorts ∧ pg < BVIEW_ASIC_MAX_PRIORITY_GROUPS
  | iPortSp_umShare port sp | ePortSp_ucShare port sp | ePortSp_umShare port sp
  | ePortSp_mcShare port sp => port < asic.numPorts ∧ sp < BVIEW_ASIC_MAX_SERVICE_POOLS
  | iSp_umShare sp | eSp_umShare sp | eSp_mcShare sp => sp < BVIEW_ASIC_MAX_SERVICE_POOLS
  | eUcQ_uc queue | eMcQ_mc queue => queue < asic.numPorts * BVIEW_SYSTEM_NUM_COS_PORT
  | eUcQg_uc group => group < BVIEW_ASIC_MAX_UC_QUEUE_GROUPS
  | cpqQ_cpu queue => queue < BVIEW_ASIC_MAX_CPU_QUEUES
  | rqeQ_rqe queue => queue < BVIEW_ASIC_MAX_RQE_QUEUES

def MaxBufField.defaultValue : MaxBufField → UInt64
  | device => SB_BRCM_BST_STAT_ID_DEVICE_DEFAULT
  | iPortPg_umShare _ _ => SB_BRCM_BST_STAT_ID_PRI_GROUP_SHARED_DEFAULT
  | iPortPg_umHeadroom _ _ => SB_BRCM_BST_STAT_ID_PRI_GROUP_HEADROOM_DEFAULT
  | iPortSp_umShare _ _ => SB_BRCM_BST_STAT_ID_PORT_POOL_DEFAULT
  | iSp_umShare _ => SB_BRCM_BST_STAT_ID_ING_POOL_DEFAULT
  | ePortSp_ucShare _ _ => SB_BRCM_BST_STAT_ID_EGR_UCAST_PORT_SHARED_DEFAULT
  | ePortSp_umShare _ _ => SB_BRCM_BST_STAT_ID_EGR_PORT_SHARED_DEFAULT
  | ePortSp_mcShare _ _ => SB_BRCM_BST_STAT_ID_EGR_MCAST_PORT_SHARED_DEFAULT
  | eSp_umShare _ => SB_BRCM_BST_STAT_ID_EGR_POOL_DEFAULT
  | eSp_mcShare _ => SB_BRCM_BST_STAT_ID_EGR_MCAST_POOL_DEFAULT
  | eUcQ_uc _ => SB_BRCM_BST_STAT_ID_UCAST_DEFAULT
  | eUcQg_uc _ => SB_BRCM_BST_STAT_ID_UCAST_GROUP_DEFAULT
  | eMcQ_mc _ => SB_BRCM_BST_STAT_ID_MCAST_DEFAULT
  | cpqQ_cpu _ => SB_BRCM_BST_STAT_ID_CPU_DEFAULT
  | rqeQ_rqe _ => SB_BRCM_BST_STAT_ID_RQE_QUEUE_DEFAULT

theorem MaxBufField.defaultValue_ne_zero (field : MaxBufField) : field.defaultValue ≠ 0 := by
  cases field <;> dsimp only [defaultValue] <;> decide

-- The queues of all ports are those up to a bound.
theorem port_queue_iff (ports queue : Nat) :
    (∃ port < ports, ∃ cosq < BVIEW_SYSTEM_NUM_COS_PORT,
      port * BVIEW_SYSTEM_NUM_COS_PORT + cosq = queue) ↔
      queue < ports * BVIEW_SYSTEM_NUM_COS_PORT := by
  unfold BVIEW_SYSTEM_NUM_COS_PORT
  constructor
  · rintro ⟨port, hport, cosq, hcosq, rfl⟩
    omega
  · intro hqueue
    exact ⟨queue / 8, by omega, queue % 8, by omega, by omega⟩

-- The assignments of the functions, with the ports of the arrays.
theorem mem_max_buf_gets {store : MaxBufStore} :
    store ∈ (max_buf_gets asic).flatten ↔
      store.place.Default asic ∧ store.value = store.place.defaultValue := by
  have hports : BVIEW_SYSTEM_PORT_ITER asic = (List.range asic.numPorts).map (· + 1) := by
    simp [BVIEW_SYSTEM_PORT_ITER, List.range'_eq_map_range, Nat.add_comm]
  obtain ⟨place, value⟩ := store
  simp only [max_buf_gets, List.flatten_cons, List.flatten_nil, List.mem_append, List.append_nil,
    sbplugin_system_default_device_max_buf_data_get, sbplugin_system_default_ippg_max_buf_data_get,
    sbplugin_system_default_ipsp_max_buf_data_get, sbplugin_system_default_isp_max_buf_data_get,
    sbplugin_system_default_epsp_max_buf_data_get, sbplugin_system_default_esp_max_buf_data_get,
    sbplugin_system_default_eucq_max_buf_data_get, sbplugin_system_default_eucqg_max_buf_data_get,
    sbplugin_system_default_emcq_max_buf_data_get, sbplugin_system_default_cpuq_max_buf_data_get,
    sbplugin_system_default_rqeq_max_buf_data_get, hports, BVIEW_SYSTEM_PG_ITER,
    BVIEW_SYSTEM_SP_ITER, BVIEW_SYSTEM_ITER, List.flatMap_map, Nat.add_sub_cancel,
    List.mem_flatMap, List.mem_map, List.mem_range, List.mem_cons, List.not_mem_nil, or_false,
    MaxBufStore.mk.injEq]
  cases place with
  | eUcQ_uc queue | eMcQ_mc queue =>
      simp only [MaxBufField.Default, MaxBufField.defaultValue, ← port_queue_iff, reduceCtorEq,
        false_and, and_false, exists_false, or_self, false_or, or_false, MaxBufField.eUcQ_uc.injEq,
        MaxBufField.eMcQ_mc.injEq]
      constructor
      · rintro ⟨port, hport, cosq, hcosq, hqueue, hvalue⟩
        exact ⟨⟨port, hport, cosq, hcosq, hqueue⟩, hvalue.symm⟩
      · rintro ⟨⟨port, hport, cosq, hcosq, hqueue⟩, hvalue⟩
        exact ⟨port, hport, cosq, hcosq, hqueue, hvalue.symm⟩
  | _ => simp [MaxBufField.Default, MaxBufField.defaultValue, and_assoc, @eq_comm _ value]

theorem default_nonzero : ∀ store ∈ (max_buf_gets asic).flatten, store.value ≠ 0 := by
  intro store hstore
  rw [(mem_max_buf_gets.mp hstore).2]
  exact store.place.defaultValue_ne_zero

theorem default_place_iff (field : MaxBufField) :
    (∃ store ∈ (max_buf_gets asic).flatten, store.place = field) ↔ field.Default asic := by
  constructor
  · rintro ⟨store, hstore, rfl⟩
    exact (mem_max_buf_gets.mp hstore).1
  · intro hdefault
    exact ⟨⟨field, field.defaultValue⟩, mem_max_buf_gets.mpr ⟨hdefault, rfl⟩, rfl⟩

-- No assignment of a supported number of ports leaves its array.
theorem default_inArray (hports : asic.numPorts ≤ BVIEW_ASIC_MAX_PORTS) :
    ∀ store ∈ (max_buf_gets asic).flatten, store.place.inArray = true := by
  intro store hstore
  have hdefault := (default_place_iff store.place).mp ⟨store, hstore, rfl⟩
  have hpools : BVIEW_ASIC_MAX_SERVICE_POOLS ≤ BVIEW_ASIC_MAX_INGRESS_SERVICE_POOLS := by decide
  have hmulticast : BVIEW_ASIC_MAX_PORTS * BVIEW_SYSTEM_NUM_COS_PORT ≤
      BVIEW_ASIC_MAX_MC_QUEUES := by decide
  have hunicast : BVIEW_ASIC_MAX_MC_QUEUES ≤ BVIEW_ASIC_MAX_UC_QUEUES := by decide
  have hqueues := Nat.mul_le_mul_right BVIEW_SYSTEM_NUM_COS_PORT hports
  cases hplace : store.place <;> rw [hplace] at hdefault <;>
    simp only [MaxBufField.Default, MaxBufField.inArray, decide_eq_true_eq] at hdefault ⊢ <;> omega

theorem default_snapshot (hports : asic.numPorts ≤ BVIEW_ASIC_MAX_PORTS) :
    ∃ snapshot, sbplugin_system_max_buf_defaults_get asic default = some snapshot ∧
      ∀ field : MaxBufField, field.get snapshot ≠ 0 ↔ field.Default asic := by
  obtain ⟨snapshot, hsnapshot⟩ :=
    Option.isSome_iff_exists.mp ((@stores_isSome _ default).mpr (default_inArray hports))
  refine ⟨snapshot, hsnapshot, fun field => ?_⟩
  rw [stores_nonzero_iff hsnapshot default_nonzero field, default_place_iff,
    MaxBufField.get_default]
  simp

end Defaults

end BroadView.Ovsdb
