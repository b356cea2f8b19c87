import BroadView.Rest.Params
import BroadView.Bst.App

namespace BroadView.Bst

open Rest

-- The parameters of a configure-bst-feature request as the REST parser reads
-- them. A bit of configMask is set when its parameter is there, and the
-- command is zeroed first.
def bstjson_configure_bst_feature (params : Params) :
    Except BVIEW_STATUS BSTJSON_CONFIGURE_BST_FEATURE := do
  let bstEnable ← mandatory params "bst-enable" 0 1
  let sendAsyncReports ← mandatory params "send-async-reports" 0 1
  let collectionInterval ← mandatory params "collection-interval" 0 600
  let statUnitsInCells ← mandatory params "stat-units-in-cells" 0 1
  let bstMaxTriggers ← optional params "trigger-rate-limit" 1 30
  let sendSnapshotOnTrigger ← optional params "send-snapshot-on-trigger" 0 1
  let triggerTransmitInterval ← optional params "trigger-rate-limit-interval" 1 60
  let sendIncrementalReport ← optional params "async-full-reports" 0 1
  let statsInPercentage ← optional params "stats-in-percentage" 0 1
  return {
    bstEnable := bstEnable.toInt
    sendAsyncReports := sendAsyncReports.toInt
    collectionInterval := collectionInterval.toInt
    statUnitsInCells := statUnitsInCells.toInt
    bstMaxTriggers := bstMaxTriggers.getD 0
    sendSnapshotOnTrigger := (sendSnapshotOnTrigger.getD 0).toInt
    triggerTransmitInterval := (triggerTransmitInterval.getD 0).toInt
    sendIncrementalReport := (sendIncrementalReport.getD 0).toInt
    statsInPercentage := (statsInPercentage.getD 0).toInt
    configMask :=
      { ENABLE := true
        SND_ASYNC_REP := true
        COLL_INTRVL := true
        STATS_UNITS := true
        TGR_RATE_LIMIT := bstMaxTriggers.isSome
        SND_SNAP_TGR := sendSnapshotOnTrigger.isSome
        TGR_RL_INTVL := triggerTransmitInterval.isSome
        ASYNC_FULL_REP := sendIncrementalReport.isSome
        STATS_IN_PERCENT := statsInPercentage.isSome } }

-- The commands the REST parser can hand over.
def Admitted (request : BSTJSON_CONFIGURE_BST_FEATURE) : Prop :=
  ∃ params, bstjson_configure_bst_feature params = .ok request

-- What the parser guarantees of the parameters it always reads.
structure CarriesMandatory (request : BSTJSON_CONFIGURE_BST_FEATURE) : Prop where
  enable : request.configMask.ENABLE = true
  async : request.configMask.SND_ASYNC_REP = true
  interval : request.configMask.COLL_INTRVL = true
  units : request.configMask.STATS_UNITS = true
  async_range : request.sendAsyncReports = 0 ∨ request.sendAsyncReports = 1
  interval_range : 0 ≤ request.collectionInterval ∧ request.collectionInterval ≤ 600

theorem Admitted.carries {request : BSTJSON_CONFIGURE_BST_FEATURE} (h : Admitted request) :
    CarriesMandatory request := by
  obtain ⟨params, hparse⟩ := h
  simp only [bstjson_configure_bst_feature, bind_ok_iff] at hparse
  obtain ⟨bstEnable, -, sendAsyncReports, hasync, collectionInterval, hinterval, hrest⟩ := hparse
  obtain ⟨_, -, _, -, _, -, _, -, _, -, _, -, hrequest⟩ := hrest
  cases hrequest
  obtain ⟨hasync0, hasync1⟩ := mandatory_range hasync
  obtain ⟨hinterval0, hinterval1⟩ := mandatory_range hinterval
  rw [Int32.le_iff_toInt_le] at hasync0 hasync1 hinterval0 hinterval1
  change 0 ≤ _ at hasync0 hinterval0
  change _ ≤ 1 at hasync1
  change _ ≤ 600 at hinterval1
  refine ⟨rfl, rfl, rfl, rfl, ?_, hinterval0, hinterval1⟩
  change sendAsyncReports.toInt = 0 ∨ sendAsyncReports.toInt = 1
  omega

end BroadView.Bst
