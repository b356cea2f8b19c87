import BroadView.Bst.Thresholds
import BroadView.Ovsdb.Threshold.Theorems

namespace BroadView.Bst

open Ovsdb BSTJSON_CONFIGURE_BST_THRESHOLDS

section Widened

theorem toNat_widened (threshold : Int32) :
    ((widened threshold).toNat : Int) = threshold.toInt % 2 ^ 64 := by
  have hlow := threshold.le_toInt
  have hhigh := threshold.toInt_lt
  have hwide : threshold.toInt64.toBitVec.toInt = threshold.toInt := Int32.toInt_toInt64 threshold
  have hlt := threshold.toInt64.toBitVec.isLt
  have hnat := BitVec.toInt_eq_toNat_bmod threshold.toInt64.toBitVec
  change (threshold.toInt64.toBitVec.toNat : Int) = _
  rw [hwide, Int.bmod_def] at hnat
  omega

-- A negative int becomes a number above every maximum, and both checks reject
-- it.
theorem threshold_check_widened (threshold : Int32) {maximum : UInt64}
    (hmaximum : maximum.toNat < 2 ^ 63) :
    threshold_check (widened threshold) maximum = int_check threshold maximum := by
  have hwidened := toNat_widened threshold
  have hlow := threshold.le_toInt
  have hhigh := threshold.toInt_lt
  have hzero : (0 : UInt64).toNat = 0 := rfl
  have hzero' : (0 : Int32).toInt = 0 := rfl
  rw [Bool.eq_iff_iff]
  simp only [threshold_check, int_check, Bool.or_eq_true, decide_eq_true_eq,
    UInt64.le_iff_toNat_le, UInt64.lt_iff_toNat_lt, Int32.le_iff_toInt_le]
  rw [hzero, hzero']
  omega

end Widened

section Places

def BVIEW_BST_THRESHOLD_TYPE.PortIndexed (threshold_type : BVIEW_BST_THRESHOLD_TYPE) : Prop :=
  threshold_type = .INGRESS_PORT_PG ∨ threshold_type = .INGRESS_PORT_SP ∨
    threshold_type = .EGRESS_PORT_SP

instance (threshold_type : BVIEW_BST_THRESHOLD_TYPE) : Decidable threshold_type.PortIndexed :=
  inferInstanceAs (Decidable (_ ∨ _))

-- The index that the requests of a realm carry.
def BSTJSON_CONFIGURE_BST_THRESHOLDS.index (pCommand : BSTJSON_CONFIGURE_BST_THRESHOLDS) :
    BVIEW_BST_THRESHOLD_TYPE → Int32
  | .DEVICE => 0
  | .INGRESS_PORT_PG => pCommand.priorityGroup
  | .INGRESS_PORT_SP | .EGRESS_PORT_SP | .INGRESS_SP | .EGRESS_SP => pCommand.servicePool
  | .EGRESS_UC_QUEUEGROUPS => pCommand.queueGroup
  | .EGRESS_UC_QUEUE | .EGRESS_MC_QUEUE | .EGRESS_CPU_QUEUE | .EGRESS_RQE_QUEUE => pCommand.queue

-- The number of indices that a unit has in a realm.
def indices (asic : BVIEW_ASIC_CAPABILITIES) : BVIEW_BST_THRESHOLD_TYPE → Nat
  | .DEVICE => 1
  | .INGRESS_PORT_PG => asic.numPriorityGroups
  | .INGRESS_PORT_SP | .EGRESS_PORT_SP | .INGRESS_SP | .EGRESS_SP => asic.numServicePools
  | .EGRESS_UC_QUEUE => asic.numUnicastQueues
  | .EGRESS_UC_QUEUEGROUPS => asic.numUnicastQueueGroups
  | .EGRESS_MC_QUEUE => asic.numMulticastQueues
  | .EGRESS_CPU_QUEUE => asic.numCpuQueues
  | .EGRESS_RQE_QUEUE => asic.numRqeQueues

-- The port and the index of a command are those of the unit.
structure InCapability (asic : BVIEW_ASIC_CAPABILITIES)
    (pCommand : BSTJSON_CONFIGURE_BST_THRESHOLDS) (threshold_type : BVIEW_BST_THRESHOLD_TYPE) :
    Prop where
  port : threshold_type.PortIndexed →
    1 ≤ pCommand.port.toInt ∧ pCommand.port.toInt ≤ asic.numPorts
  index : 0 ≤ (pCommand.index threshold_type).toInt ∧
    (pCommand.index threshold_type).toInt < indices asic threshold_type

variable {asic : BVIEW_ASIC_CAPABILITIES} {pCommand : BSTJSON_CONFIGURE_BST_THRESHOLDS}
  {threshold_type : BVIEW_BST_THRESHOLD_TYPE}

theorem outside_eq_false_iff {index : Int32} {number : Nat} :
    outside index number = false ↔ 0 ≤ index.toInt ∧ index.toInt < number := by
  have hzero : (0 : Int32).toInt = 0 := rfl
  simp only [outside, Bool.or_eq_false_iff, decide_eq_false_iff_not, Int32.lt_iff_toInt_lt, hzero]
  omega

-- Of the ports only those of the service pools are looked at, and only from
-- above.
theorem input_params_valid_iff :
    pCommand.input_params_invalid asic threshold_type = false ↔
      (0 ≤ (pCommand.index threshold_type).toInt ∧
        (pCommand.index threshold_type).toInt < indices asic threshold_type) ∧
      (threshold_type = .INGRESS_PORT_SP ∨ threshold_type = .EGRESS_PORT_SP →
        pCommand.port.toInt ≤ asic.numPorts) := by
  cases threshold_type <;>
    simp [input_params_invalid, outside_eq_false_iff, BSTJSON_CONFIGURE_BST_THRESHOLDS.index,
      indices]

theorem input_params_valid (h : InCapability asic pCommand threshold_type) :
    pCommand.input_params_invalid asic threshold_type = false := by
  rw [input_params_valid_iff]
  refine ⟨h.index, fun htype => (h.port ?_).2⟩
  exact Or.inr htype

end Places

section Posted

variable {calls : ThresholdCalls} {cookie : Cookie} {asicId : Nat} {id : Int}
  {pCommand : BSTJSON_CONFIGURE_BST_THRESHOLDS} {msg : ThresholdMessage}

-- The set function of a realm with the values of a command. The queue entries
-- of an egress pool are not among them.
def BSTJSON_CONFIGURE_BST_THRESHOLDS.threshold_set (pCommand : BSTJSON_CONFIGURE_BST_THRESHOLDS) :
    BVIEW_BST_THRESHOLD_TYPE → ThresholdCall
  | .DEVICE => .device { threshold := widened pCommand.threshold }
  | .INGRESS_PORT_PG => .ippg pCommand.port pCommand.priorityGroup
      { umShareThreshold := widened pCommand.umShareThreshold
        umHeadroomThreshold := widened pCommand.umHeadroomThreshold }
  | .INGRESS_PORT_SP => .ipsp pCommand.port pCommand.servicePool
      { umShareThreshold := widened pCommand.umShareThreshold }
  | .INGRESS_SP => .isp pCommand.servicePool
      { umShareThreshold := widened pCommand.umShareThreshold }
  | .EGRESS_PORT_SP => .epsp pCommand.port pCommand.servicePool
      { ucShareThreshold := widened pCommand.ucShareThreshold
        umShareThreshold := widened pCommand.umShareThreshold
        mcShareThreshold := widened pCommand.mcShareThreshold
        mcShareQueueEntriesThreshold := 0 }
  | .EGRESS_SP => .esp pCommand.servicePool
      { umShareThreshold := widened pCommand.umShareThreshold
        mcShareThreshold := widened pCommand.mcShareThreshold }
  | .EGRESS_UC_QUEUE => .eucq pCommand.queue
      { ucBufferThreshold := widened pCommand.ucThreshold }
  | .EGRESS_UC_QUEUEGROUPS => .eucqg pCommand.queueGroup
      { ucBufferThreshold := widened pCommand.ucThreshold }
  | .EGRESS_MC_QUEUE => .emcq pCommand.queue
      { mcBufferThreshold := widened pCommand.mcThreshold
        mcQueueThreshold := widened pCommand.mcQueueEntriesThreshold }
  | .EGRESS_CPU_QUEUE => .cpuq pCommand.queue
      { cpuBufferThreshold := widened pCommand.cpuThreshold, cpuQueueThreshold := 0 }
  | .EGRESS_RQE_QUEUE => .rqeq pCommand.queue
      { rqeBufferThreshold := widened pCommand.rqeThreshold, rqeQueueThreshold := 0 }

theorem impl_ok_iff :
    bstjson_configure_bst_thresholds_impl pCommand calls cookie asicId id = .ok msg ↔
      ∃ threshold_type asic, bst_realm_type_get pCommand.realm = some threshold_type ∧
        calls.sbapi_system_asic_capabilities_get = some asic ∧
        pCommand.input_params_invalid asic threshold_type = false ∧
        pCommand.invalid threshold_type = false ∧ calls.msgsnd = true ∧
        copy_thresholds pCommand
          { ThresholdMessage.zeroed
              ((RestRequest.bstjson_configure_bst_thresholds threshold_type).msg
                cookie asicId id) with realm := pCommand.realm } threshold_type = msg := by
  unfold bstjson_configure_bst_thresholds_impl
  cases hrealm : bst_realm_type_get pCommand.realm with
  | none => simp
  | some threshold_type =>
      cases hasic : calls.sbapi_system_asic_capabilities_get with
      | none => simp
      | some asic =>
          cases hparams : pCommand.input_params_invalid asic threshold_type with
          | true => simp [hparams]
          | false =>
              cases hinvalid : pCommand.invalid threshold_type <;> cases hsent : calls.msgsnd <;>
                simp [hparams, hinvalid]

-- Without its thresholds a posted message is the one the queue is modelled with.
theorem posted_request {threshold_type : BVIEW_BST_THRESHOLD_TYPE}
    (hrealm : bst_realm_type_get pCommand.realm = some threshold_type)
    (h : bstjson_configure_bst_thresholds_impl pCommand calls cookie asicId id = .ok msg) :
    msg.toBVIEW_BST_REQUEST_MSG =
      (RestRequest.bstjson_configure_bst_thresholds threshold_type).msg cookie asicId id := by
  obtain ⟨found, asic, hfound, -, -, -, -, rfl⟩ := impl_ok_iff.mp h
  obtain rfl : threshold_type = found := Option.some.inj (hrealm.symm.trans hfound)
  cases threshold_type <;> rfl

-- What a posted message sets is what its command asks for.
theorem posted_threshold_set {threshold_type : BVIEW_BST_THRESHOLD_TYPE}
    (hrealm : bst_realm_type_get pCommand.realm = some threshold_type)
    (h : bstjson_configure_bst_thresholds_impl pCommand calls cookie asicId id = .ok msg) :
    msg.threshold_set = some (pCommand.threshold_set threshold_type) := by
  obtain ⟨found, asic, hfound, -, -, -, -, rfl⟩ := impl_ok_iff.mp h
  obtain rfl : threshold_type = found := Option.some.inj (hrealm.symm.trans hfound)
  cases threshold_type <;> rfl

end Posted

section Validation

variable {asic : BVIEW_ASIC_CAPABILITIES} {pCommand : BSTJSON_CONFIGURE_BST_THRESHOLDS}
  {threshold_type : BVIEW_BST_THRESHOLD_TYPE}

-- The northbound range checks of a realm, without what else its case of the
-- switch tests.
def BSTJSON_CONFIGURE_BST_THRESHOLDS.range_check (pCommand : BSTJSON_CONFIGURE_BST_THRESHOLDS) :
    BVIEW_BST_THRESHOLD_TYPE → Bool
  | .DEVICE => pCommand.BVIEW_BST_DEVICE_THRESHOLD_CHECK
  | .INGRESS_PORT_PG =>
      pCommand.BVIEW_BST_IPPG_SHRD_THRESHOLD_CHECK || pCommand.BVIEW_BST_IPPG_HDRM_THRESHOLD_CHECK
  | .INGRESS_PORT_SP => pCommand.BVIEW_BST_IPSP_THRESHOLD_CHECK
  | .INGRESS_SP => pCommand.BVIEW_BST_ISP_THRESHOLD_CHECK
  | .EGRESS_PORT_SP =>
      pCommand.BVIEW_BST_EPSP_UC_THRESHOLD_CHECK || pCommand.BVIEW_BST_EPSP_UM_THRESHOLD_CHECK ||
        pCommand.BVIEW_BST_EPSP_MC_THRESHOLD_CHECK ||
        pCommand.BVIEW_BST_EPSP_MC_SQ_THRESHOLD_CHECK
  | .EGRESS_SP =>
      pCommand.BVIEW_BST_E_SP_UM_THRESHOLD_CHECK || pCommand.BVIEW_BST_E_SP_MC_THRESHOLD_CHECK ||
        pCommand.BVIEW_BST_E_SP_MC_SQ_THRESHOLD_CHECK
  | .EGRESS_UC_QUEUE | .EGRESS_UC_QUEUEGROUPS => pCommand.BVIEW_BST_EGRESS_UC_THRESHOLD_CHECK
  | .EGRESS_MC_QUEUE =>
      pCommand.BVIEW_BST_E_MC_QG_THRESHOLD_CHECK || pCommand.BVIEW_BST_E_MC_SQG_THRESHOLD_CHECK
  | .EGRESS_CPU_QUEUE => pCommand.BVIEW_BST_EGRESS_CPU_THRESHOLD_CHECK
  | .EGRESS_RQE_QUEUE => pCommand.BVIEW_BST_EGRESS_RQE_QUEUE_THRESHOLD_CHECK

theorem invalid_eq_false_iff :
    pCommand.invalid threshold_type = false ↔
      ((threshold_type.PortIndexed → pCommand.port ≠ 0) ∧
        (threshold_type = .EGRESS_UC_QUEUEGROUPS → pCommand.carries_others = false)) ∧
      pCommand.range_check threshold_type = false := by
  cases threshold_type <;>
    simp [invalid, range_check, BVIEW_BST_THRESHOLD_TYPE.PortIndexed, and_assoc]

theorem threshold_sets_rv (port index : Int32) (thresholds : List (Nat × UInt64)) :
    (threshold_sets port index thresholds).rv ≠ .INVALID_PARAMETER := by
  induction thresholds with
  | nil => simp [threshold_sets]
  | cons threshold rest ih =>
      obtain ⟨bid, value⟩ := threshold
      rw [threshold_sets]
      cases bst_ovsdb_threshold_set port index bid value with
      | none => simp
      | some update => exact ih

theorem set_valid_iff {call : ThresholdCall} :
    call.set.rv ≠ .INVALID_PARAMETER ↔ call.invalid = false := by
  rw [ThresholdCall.set_eq, checked_sets]
  cases call.invalid with
  | true => simp
  | false => simpa using threshold_sets_rv call.port call.index call.counters

-- A threshold of a unicast queue that is above the southbound maximum and not
-- above the northbound one.
def UnicastGap (ucThreshold : Int32) : Prop :=
  BVIEW_BST_UCAST_THRES_DEFAULT.toNat < ucThreshold.toInt ∧ ucThreshold.toInt ≤ 0x1FFFF * 208

instance (ucThreshold : Int32) : Decidable (UnicastGap ucThreshold) :=
  inferInstanceAs (Decidable (_ ∧ _))

theorem unicast_check_iff {ucThreshold : Int32} :
    int_check ucThreshold BVIEW_BST_UCAST_THRES_DEFAULT = false ↔
      int_check ucThreshold (0x1FFFF * 208) = false ∧ ¬UnicastGap ucThreshold := by
  have hmaximum : (0x1FFFF * 208 : UInt64).toNat = 0x1FFFF * 208 := rfl
  have hdefault : BVIEW_BST_UCAST_THRES_DEFAULT.toNat = 0x3FFF * 208 := rfl
  simp only [int_check, UnicastGap, Bool.or_eq_false_iff, decide_eq_false_iff_not, hmaximum,
    hdefault, Int32.le_iff_toInt_le]
  omega

theorem UnicastGap.valid {ucThreshold : Int32} (h : UnicastGap ucThreshold) :
    int_check ucThreshold (0x1FFFF * 208) = false := by
  have hmaximum : (0x1FFFF * 208 : UInt64).toNat = 0x1FFFF * 208 := rfl
  have hdefault : BVIEW_BST_UCAST_THRES_DEFAULT.toNat = 0x3FFF * 208 := rfl
  have hzero : (0 : Int32).toInt = 0 := rfl
  obtain ⟨hlow, hhigh⟩ := h
  simp only [int_check, Bool.or_eq_false_iff, decide_eq_false_iff_not, hmaximum,
    Int32.le_iff_toInt_le, hzero]
  omega

-- The southbound checks as checks of the command: those of the egress pools leave
-- the queue entries out, those of the unicast queues have a lower maximum.
def BSTJSON_CONFIGURE_BST_THRESHOLDS.southbound_check
    (pCommand : BSTJSON_CONFIGURE_BST_THRESHOLDS) : BVIEW_BST_THRESHOLD_TYPE → Bool
  | .EGRESS_PORT_SP =>
      pCommand.BVIEW_BST_EPSP_UC_THRESHOLD_CHECK || pCommand.BVIEW_BST_EPSP_UM_THRESHOLD_CHECK ||
        pCommand.BVIEW_BST_EPSP_MC_THRESHOLD_CHECK
  | .EGRESS_SP =>
      pCommand.BVIEW_BST_E_SP_UM_THRESHOLD_CHECK || pCommand.BVIEW_BST_E_SP_MC_THRESHOLD_CHECK
  | .EGRESS_UC_QUEUE => int_check pCommand.ucThreshold BVIEW_BST_UCAST_THRES_DEFAULT
  | .EGRESS_UC_QUEUEGROUPS => int_check pCommand.ucThreshold BVIEW_BST_UCAST_QUEUE_GROUP_DEFAULT
  | threshold_type => pCommand.range_check threshold_type

theorem threshold_set_invalid :
    (pCommand.threshold_set threshold_type).invalid =
      pCommand.southbound_check threshold_type := by
  cases threshold_type with
  | DEVICE | INGRESS_PORT_SP | INGRESS_SP | EGRESS_UC_QUEUE | EGRESS_UC_QUEUEGROUPS
  | EGRESS_CPU_QUEUE | EGRESS_RQE_QUEUE => exact threshold_check_widened _ (by decide)
  | INGRESS_PORT_PG | EGRESS_SP | EGRESS_MC_QUEUE =>
      exact congrArg₂ or (threshold_check_widened _ (by decide))
        (threshold_check_widened _ (by decide))
  | EGRESS_PORT_SP =>
      exact congrArg₂ or (congrArg₂ or (threshold_check_widened _ (by decide))
        (threshold_check_widened _ (by decide))) (threshold_check_widened _ (by decide))

-- A posted request passes the southbound validation of its realm, and values that
-- pass the southbound validation pass the northbound range check.
structure ValidationsAgree (asic : BVIEW_ASIC_CAPABILITIES)
    (pCommand : BSTJSON_CONFIGURE_BST_THRESHOLDS) (threshold_type : BVIEW_BST_THRESHOLD_TYPE) :
    Prop where
  posted : ∀ msgsnd cookie asicId id msg,
    bstjson_configure_bst_thresholds_impl pCommand ⟨some asic, msgsnd⟩ cookie asicId id = .ok msg →
      ∃ call, msg.threshold_set = some call ∧ call.set.rv ≠ .INVALID_PARAMETER
  accepted : (pCommand.threshold_set threshold_type).set.rv ≠ .INVALID_PARAMETER →
    pCommand.range_check threshold_type = false

theorem validations_agree_iff_checks
    (hrealm : bst_realm_type_get pCommand.realm = some threshold_type)
    (hplace : InCapability asic pCommand threshold_type) :
    ValidationsAgree asic pCommand threshold_type ↔
      (pCommand.invalid threshold_type = false →
        pCommand.southbound_check threshold_type = false) ∧
      (pCommand.southbound_check threshold_type = false →
        pCommand.range_check threshold_type = false) := by
  have hset : (pCommand.threshold_set threshold_type).set.rv ≠ .INVALID_PARAMETER ↔
      pCommand.southbound_check threshold_type = false := by
    rw [set_valid_iff, threshold_set_invalid]
  constructor
  · rintro ⟨hposted, haccepted⟩
    refine ⟨fun hvalid => ?_, fun hsouth => haccepted (hset.mpr hsouth)⟩
    obtain ⟨msg, hmsg⟩ : ∃ msg, bstjson_configure_bst_thresholds_impl pCommand
        ⟨some asic, true⟩ 0 0 0 = .ok msg :=
      ⟨_, impl_ok_iff.mpr ⟨threshold_type, asic, hrealm, rfl, input_params_valid hplace, hvalid,
        rfl, rfl⟩⟩
    obtain ⟨call, hcall, hrv⟩ := hposted true 0 0 0 msg hmsg
    rw [posted_threshold_set hrealm hmsg] at hcall
    obtain rfl := Option.some.inj hcall
    exact hset.mp hrv
  · rintro ⟨hnorth, hsouth⟩
    refine ⟨?_, fun hrv => hsouth (hset.mp hrv)⟩
    intro msgsnd cookie asicId id msg hmsg
    obtain ⟨found, _, hfound, -, -, hvalid, -⟩ := impl_ok_iff.mp hmsg
    obtain rfl : threshold_type = found := Option.some.inj (hrealm.symm.trans hfound)
    exact ⟨_, posted_threshold_set hrealm hmsg, hset.mpr (hnorth hvalid)⟩

-- Where the limits of the two sides differ: the maximum of the unicast queues,
-- and the queue entries of the egress pools, of which only the northbound side
-- asks a value.
def Disputed (pCommand : BSTJSON_CONFIGURE_BST_THRESHOLDS) : BVIEW_BST_THRESHOLD_TYPE → Prop
  | .EGRESS_UC_QUEUE => UnicastGap pCommand.ucThreshold
  | .EGRESS_UC_QUEUEGROUPS => pCommand.carries_others = false ∧ UnicastGap pCommand.ucThreshold
  | .EGRESS_PORT_SP =>
      pCommand.BVIEW_BST_EPSP_UC_THRESHOLD_CHECK = false ∧
        pCommand.BVIEW_BST_EPSP_UM_THRESHOLD_CHECK = false ∧
        pCommand.BVIEW_BST_EPSP_MC_THRESHOLD_CHECK = false ∧
        pCommand.BVIEW_BST_EPSP_MC_SQ_THRESHOLD_CHECK = true
  | .EGRESS_SP =>
      pCommand.BVIEW_BST_E_SP_UM_THRESHOLD_CHECK = false ∧
        pCommand.BVIEW_BST_E_SP_MC_THRESHOLD_CHECK = false ∧
        pCommand.BVIEW_BST_E_SP_MC_SQ_THRESHOLD_CHECK = true
  | _ => False

-- With the maxima of the unicast queues, whatever else the northbound side asks.
theorem unicast_agree_iff {others : Prop} {ucThreshold : Int32} :
    ((others ∧ int_check ucThreshold (0x1FFFF * 208) = false →
        int_check ucThreshold BVIEW_BST_UCAST_THRES_DEFAULT = false) ∧
      (int_check ucThreshold BVIEW_BST_UCAST_THRES_DEFAULT = false →
        int_check ucThreshold (0x1FFFF * 208) = false)) ↔ ¬(others ∧ UnicastGap ucThreshold) := by
  constructor
  · rintro ⟨hnorth, -⟩ ⟨hothers, hgap⟩
    exact (unicast_check_iff.mp (hnorth ⟨hothers, hgap.valid⟩)).2 hgap
  · intro hgap
    refine ⟨?_, fun hsouth => (unicast_check_iff.mp hsouth).1⟩
    rintro ⟨hothers, hvalid⟩
    exact unicast_check_iff.mpr ⟨hvalid, fun h => hgap ⟨hothers, h⟩⟩

-- With a check of the queue entries that only the northbound side makes.
theorem entries_agree_iff {others : Prop} {south entries : Bool} :
    ((others ∧ (south || entries) = false → south = false) ∧
      (south = false → (south || entries) = false)) ↔ ¬(south = false ∧ entries = true) := by
  cases south <;> cases entries <;> simp

theorem checks_agree_iff :
    ((pCommand.invalid threshold_type = false →
        pCommand.southbound_check threshold_type = false) ∧
      (pCommand.southbound_check threshold_type = false →
        pCommand.range_check threshold_type = false)) ↔ ¬Disputed pCommand threshold_type := by
  rw [invalid_eq_false_iff]
  cases threshold_type with
  | DEVICE | INGRESS_PORT_PG | INGRESS_PORT_SP | INGRESS_SP | EGRESS_MC_QUEUE | EGRESS_CPU_QUEUE
  | EGRESS_RQE_QUEUE => simp [southbound_check, Disputed]
  | EGRESS_UC_QUEUE | EGRESS_UC_QUEUEGROUPS =>
      refine unicast_agree_iff.trans ?_
      simp [Disputed, BVIEW_BST_THRESHOLD_TYPE.PortIndexed]
  | EGRESS_PORT_SP | EGRESS_SP =>
      refine entries_agree_iff.trans ?_
      simp only [Disputed, Bool.or_eq_false_iff, and_assoc]

theorem validations_agree_iff (hrealm : bst_realm_type_get pCommand.realm = some threshold_type)
    (hplace : InCapability asic pCommand threshold_type) :
    ValidationsAgree asic pCommand threshold_type ↔ ¬Disputed pCommand threshold_type := by
  rw [validations_agree_iff_checks hrealm hplace]
  exact checks_agree_iff

def pool_request : BSTJSON_CONFIGURE_BST_THRESHOLDS :=
  { (default : BSTJSON_CONFIGURE_BST_THRESHOLDS) with
    realm := "ingress-port-service-pool".toList
    port := 3
    servicePool := 1
    umShareThreshold := 0x1FFFF * 208 }

theorem pool_validations_agree :
    ValidationsAgree (sbplugin_ovsdb_system_util_td2_init 32) pool_request .INGRESS_PORT_SP ↔
      ¬Disputed pool_request .INGRESS_PORT_SP :=
  validations_agree_iff (by decide) ⟨by decide, by decide⟩

-- The parameters of a request for queue 0.
def unicast_params : Rest.Params
  | "realm" => some (.string "egress-uc-queue")
  | "uc-threshold" => some (.number (0x4000 * 208))
  | _ => none

def unicast_request : BSTJSON_CONFIGURE_BST_THRESHOLDS :=
  { (default : BSTJSON_CONFIGURE_BST_THRESHOLDS) with
    realm := "egress-uc-queue".toList, ucThreshold := 0x4000 * 208 }

-- A threshold one cell above the southbound maximum is posted and then refused.
theorem unicast_threshold_refused :
    bstjson_configure_bst_thresholds unicast_params = .ok unicast_request ∧
      bst_realm_type_get unicast_request.realm = some .EGRESS_UC_QUEUE ∧
      InCapability (sbplugin_ovsdb_system_util_td2_init 32) unicast_request .EGRESS_UC_QUEUE ∧
      ¬ValidationsAgree (sbplugin_ovsdb_system_util_td2_init 32) unicast_request
        .EGRESS_UC_QUEUE := by
  have hrealm : bst_realm_type_get unicast_request.realm = some .EGRESS_UC_QUEUE := by decide
  have hplace : InCapability (sbplugin_ovsdb_system_util_td2_init 32) unicast_request
      .EGRESS_UC_QUEUE := ⟨by decide, by decide⟩
  refine ⟨by decide, hrealm, hplace, ?_⟩
  rw [validations_agree_iff_checks hrealm hplace]
  decide

end Validation

end BroadView.Bst
