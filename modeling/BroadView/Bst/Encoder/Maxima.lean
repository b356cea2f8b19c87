import BroadView.Bst.Encoder.Delta
import BroadView.Ovsdb.System.Theorems

namespace BroadView.Bst

open Ovsdb

namespace BVIEW_BST_REALM_ID

variable (realm : BVIEW_BST_REALM_ID)

-- The maxima of the columns of a cell.
def maxima (max : BVIEW_SYSTEM_ASIC_MAX_BUF_SNAPSHOT_DATA) (port index : Nat) :
    List (Option UInt64) :=
  match realm.encoder with
  | none => [some max.device]
  | some encoder => encoder.maxima max port index

def maxFields (port index : Nat) : List MaxBufField :=
  match realm with
  | DEVICE => [.device]
  | INGRESS_PORT_PG => [.iPortPg_umShare port index, .iPortPg_umHeadroom port index]
  | INGRESS_PORT_SP => [.iPortSp_umShare port index]
  | INGRESS_SP => [.iSp_umShare index]
  | EGRESS_PORT_SP =>
      [.ePortSp_ucShare port index, .ePortSp_umShare port index, .ePortSp_mcShare port index]
  | EGRESS_SP => [.eSp_umShare index, .eSp_mcShare index]
  | EGRESS_UC_QUEUE => [.eUcQ_uc index]
  | EGRESS_UC_QUEUEGROUPS => [.eUcQg_uc index]
  | EGRESS_MC_QUEUE => [.eMcQ_mc index]
  | EGRESS_CPU_QUEUE => [.cpqQ_cpu index]
  | EGRESS_RQE_QUEUE => [.rqeQ_rqe index]

-- The cells that the loops of a realm come to.
structure Visits (asic : BVIEW_ASIC_CAPABILITIES) (port index : Nat) : Prop where
  port : port < realm.ports asic
  index : index < realm.count asic

end BVIEW_BST_REALM_ID

section Maxima

variable {realm : BVIEW_BST_REALM_ID} {port index : Nat}

theorem mem_maxima {max : BVIEW_SYSTEM_ASIC_MAX_BUF_SNAPSHOT_DATA} {value : UInt64} :
    some value ∈ realm.maxima max port index ↔
      ∃ field ∈ realm.maxFields port index, field.get max = value := by
  have hmaxima : (realm.maxima max port index).reduceOption =
      (realm.maxFields port index).map fun field => field.get max := by
    cases realm <;> rfl
  rw [← List.reduceOption_mem_iff, hmaxima, List.mem_map]

-- The percentage of a usage is not the one of the guard against a zero divisor.
def Unguarded (maxBufVal : UInt64) : Prop :=
  ∀ (options : BSTJSON_REPORT_OPTIONS) (asic : BVIEW_ASIC_CAPABILITIES) (data : UInt64),
    options.reportThreshold = false → options.statsInPercentage = true →
    bst_json_convert_data options asic data maxBufVal =
      round_int ((data * 100).toFloat / maxBufVal.toFloat)

theorem unguarded_of_ne {maxBufVal : UInt64} (h : maxBufVal ≠ 0) : Unguarded maxBufVal := by
  intro options asic data hthreshold hpercentage
  simp [bst_json_convert_data, hthreshold, hpercentage, h]

-- With a number of ports, the snapshot of defaults has a nonzero maximum for
-- every column of the cell.
def MaximaCovered (num_ports : UInt32) (realm : BVIEW_BST_REALM_ID) (port index : Nat) : Prop :=
  ∃ system snapshot, sbplugin_ovsdb_system_init num_ports = some system ∧
    system.sbMaxBufSnapshot = some snapshot ∧
    ∀ maxBufVal, some maxBufVal ∈ realm.maxima snapshot port index →
      maxBufVal ≠ 0 ∧ Unguarded maxBufVal

section Defaults

variable {num_ports : UInt32}

-- The capabilities of the unit, once initialised.
def initialised (num_ports : UInt32) : BVIEW_ASIC_CAPABILITIES :=
  sbplugin_ovsdb_system_util_td2_init num_ports.toNat

theorem system_init (hlow : 1 ≤ num_ports) (hhigh : num_ports.toNat ≤ BVIEW_ASIC_MAX_PORTS) :
    ∃ snapshot, sbplugin_ovsdb_system_init num_ports =
        some { asicDb := initialised num_ports, sbMaxBufSnapshot := some snapshot } ∧
      ∀ field : MaxBufField, field.get snapshot ≠ 0 ↔ field.Default (initialised num_ports) := by
  have hne : num_ports ≠ 0 := by
    rintro rfl
    exact absurd hlow (by decide)
  obtain ⟨snapshot, hsnapshot, hfields⟩ :=
    @default_snapshot (initialised num_ports) hhigh
  refine ⟨snapshot, ?_, hfields⟩
  rw [sbplugin_ovsdb_system_init, if_neg hne, initialised]
  exact congrArg (fun data => some (SystemFeature.mk _ data)) hsnapshot

theorem covered_iff_default (hlow : 1 ≤ num_ports)
    (hhigh : num_ports.toNat ≤ BVIEW_ASIC_MAX_PORTS) :
    MaximaCovered num_ports realm port index ↔
      ∀ field ∈ realm.maxFields port index, field.Default (initialised num_ports) := by
  obtain ⟨snapshot, hinit, hfields⟩ := system_init hlow hhigh
  constructor
  · rintro ⟨system, snapshot', hinit', hsnapshot, hcovered⟩ field hfield
    rw [hinit] at hinit'
    obtain rfl := Option.some.inj hinit'
    obtain rfl := Option.some.inj hsnapshot
    exact (hfields field).mp (hcovered _ (mem_maxima.mpr ⟨field, hfield, rfl⟩)).1
  · intro hdefault
    refine ⟨_, snapshot, hinit, rfl, ?_⟩
    intro maxBufVal hmax
    obtain ⟨field, hfield, rfl⟩ := mem_maxima.mp hmax
    have hne := (hfields field).mpr (hdefault field hfield)
    exact ⟨hne, unguarded_of_ne hne⟩

-- The queues are initialised port by port, and reported by the capability.
theorem maxima_covered_iff (hlow : 1 ≤ num_ports)
    (hhigh : num_ports.toNat ≤ BVIEW_ASIC_MAX_PORTS)
    (hvisited : realm.Visits (initialised num_ports) port index) :
    MaximaCovered num_ports realm port index ↔
      (realm = .EGRESS_UC_QUEUE ∨ realm = .EGRESS_MC_QUEUE →
        index < num_ports.toNat * BVIEW_SYSTEM_NUM_COS_PORT) := by
  have hport := hvisited.port
  have hindex := hvisited.index
  rw [covered_iff_default hlow hhigh]
  cases realm <;>
    simp only [BVIEW_BST_REALM_ID.maxFields, MaxBufField.Default, List.forall_mem_cons,
      List.not_mem_nil, false_implies, implies_true, and_true, and_self, reduceCtorEq, or_self,
      iff_true, true_or, or_true, true_implies]
  all_goals first
    | exact hindex
    | exact ⟨hport, hindex⟩
    | exact Iff.rfl

theorem last_queue_covered : MaximaCovered 54 .EGRESS_UC_QUEUE 0 431 :=
  (maxima_covered_iff (by decide) (by decide) ⟨by decide, by decide⟩).mpr fun _ => by decide

-- The first queue after those of 54 ports is visited, and a usage of it that fills
-- the queues before it is 0 percent.
theorem next_queue_forced :
    ∃ snapshot, sbplugin_ovsdb_system_init 54 =
        some { asicDb := initialised 54, sbMaxBufSnapshot := some snapshot } ∧
      BVIEW_BST_REALM_ID.EGRESS_UC_QUEUE.Visits (initialised 54) 0 432 ∧
      BVIEW_BST_REALM_ID.EGRESS_UC_QUEUE.maxima snapshot 0 432 = [some 0] ∧
      ¬MaximaCovered 54 .EGRESS_UC_QUEUE 0 432 ∧
      ∀ options : BSTJSON_REPORT_OPTIONS,
        options.reportThreshold = false → options.statsInPercentage = true →
        bst_json_convert_data options (initialised 54) SB_BRCM_BST_STAT_ID_UCAST_DEFAULT 0 = 0 := by
  obtain ⟨snapshot, hinit, hfields⟩ :=
    @system_init 54 (by decide) (by decide)
  have houtside : ¬MaxBufField.Default (initialised 54) (.eUcQ_uc 432) := by
    change ¬432 < 54 * 8
    decide
  refine ⟨snapshot, hinit, ⟨by decide, by decide⟩, ?_, ?_, ?_⟩
  · have hzero : snapshot.eUcQ 432 = 0 := by
      by_contra hne
      exact houtside ((hfields (.eUcQ_uc 432)).mp hne)
    change [some (snapshot.eUcQ 432)] = [some 0]
    rw [hzero]
  · rw [covered_iff_default (by decide) (by decide)]
    intro hcovered
    exact houtside (hcovered (.eUcQ_uc 432) List.mem_cons_self)
  · intro options hthreshold hpercentage
    simp [bst_json_convert_data, hthreshold, hpercentage]

end Defaults

end Maxima

end BroadView.Bst
