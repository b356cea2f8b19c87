import BroadView.Redirector
import BroadView.Transition
import Mathlib.Data.List.Basic

namespace BroadView.Redirector

open Transition

section Registration

variable {list : PLUGIN_LIST} {sbPlugin : BVIEW_SB_PLUGIN} {held : List BVIEW_SB_PLUGIN}

def Valid (sbPlugin : BVIEW_SB_PLUGIN) : Bool := sb_plugin_validate sbPlugin = .SUCCESS

-- The accepted plugins stand in the first slots, in the order in which they came.
def Holds (list : PLUGIN_LIST) (held : List BVIEW_SB_PLUGIN) : Prop :=
  ∃ left, list.plugins = held.map (BVIEW_SB_REDIRECT_PLUGIN.mk true) ++
    List.replicate left unused

theorem occupy_holds (held : List BVIEW_SB_PLUGIN) (left : Nat) :
    occupy sbPlugin (held.map (BVIEW_SB_REDIRECT_PLUGIN.mk true) ++
        List.replicate left unused) =
      if left = 0 then none
      else some ((held ++ [sbPlugin]).map (BVIEW_SB_REDIRECT_PLUGIN.mk true) ++
        List.replicate (left - 1) unused) := by
  induction held with
  | nil =>
      cases left with
      | zero => rfl
      | succ left =>
          rw [List.map_nil, List.nil_append, List.replicate_succ, occupy]
          rfl
  | cons plugin rest ih =>
      rw [List.map_cons, List.cons_append, occupy, if_neg (by simp), ih]
      by_cases hleft : left = 0
      · rw [if_pos hleft, if_pos hleft, Option.map_none]
      · rw [if_neg hleft, if_neg hleft]
        rfl

theorem holds_length (h : Holds list held) :
    ∃ left, list.plugins = held.map (BVIEW_SB_REDIRECT_PLUGIN.mk true) ++
      List.replicate left unused ∧ held.length + left = BVIEW_MAX_SUPPORTED_SB_PLUGINS := by
  obtain ⟨left, hplugins⟩ := h
  have hlength := list.length_eq
  rw [hplugins, List.length_append, List.length_map, List.length_replicate] at hlength
  exact ⟨left, hplugins, hlength⟩

theorem holds_register (h : Holds list held) :
    Holds (register list sbPlugin)
      (if Valid sbPlugin = true ∧ held.length < BVIEW_MAX_SUPPORTED_SB_PLUGINS then
        held ++ [sbPlugin] else held) := by
  obtain ⟨left, hplugins, hlength⟩ := holds_length h
  have hoccupy := @occupy_holds sbPlugin held left
  rw [← hplugins] at hoccupy
  unfold register sb_plugin_register
  by_cases hvalid : sb_plugin_validate sbPlugin = .FAILURE
  · have hnot : ¬ Valid sbPlugin = true := by simp [Valid, hvalid]
    rw [if_pos hvalid, if_neg fun h => hnot h.1]
    exact h
  · have hsuccess : Valid sbPlugin = true := by
      unfold Valid
      unfold sb_plugin_validate at hvalid ⊢
      split_ifs at hvalid ⊢ <;> simp_all
    rw [if_neg hvalid]
    split
    · next hnone =>
        rw [hoccupy] at hnone
        have hleft : left = 0 := by
          by_contra hne
          rw [if_neg hne] at hnone
          cases hnone
        rw [if_neg (by omega)]
        exact h
    · next plugins hsome =>
        rw [hoccupy] at hsome
        have hleft : left ≠ 0 := by
          intro hzero
          rw [if_pos hzero] at hsome
          cases hsome
        rw [if_neg hleft] at hsome
        rw [if_pos ⟨hsuccess, by omega⟩]
        exact ⟨left - 1, (Option.some.inj hsome).symm⟩

-- Valid plugins are accepted in turn until the list is full.
theorem holds_run (plugins : List BVIEW_SB_PLUGIN) (h : Holds list held) :
    Holds (run register list plugins)
      ((held ++ plugins.filter Valid).take BVIEW_MAX_SUPPORTED_SB_PLUGINS) := by
  induction plugins generalizing list held with
  | nil =>
      obtain ⟨left, -, hlength⟩ := holds_length h
      rw [List.filter_nil, List.append_nil, List.take_of_length_le (by omega)]
      exact h
  | cons plugin rest ih =>
      obtain ⟨left, -, hlength⟩ := holds_length h
      have hnext := ih (@holds_register list plugin held h)
      rw [run_cons]
      by_cases hvalid : Valid plugin = true
      · rw [List.filter_cons_of_pos hvalid]
        by_cases hroom : held.length < BVIEW_MAX_SUPPORTED_SB_PLUGINS
        · rw [if_pos ⟨hvalid, hroom⟩, List.append_assoc] at hnext
          exact hnext
        · rw [if_neg fun h => hroom h.2, List.take_append_of_le_length (by omega)] at hnext
          rw [List.take_append_of_le_length (by omega)]
          exact hnext
      · rw [if_neg fun h => hvalid h.1] at hnext
        rw [List.filter_cons_of_neg hvalid]
        exact hnext

def accepted (plugins : List BVIEW_SB_PLUGIN) : List BVIEW_SB_PLUGIN :=
  (plugins.filter Valid).take BVIEW_MAX_SUPPORTED_SB_PLUGINS

theorem holds_accepted (plugins : List BVIEW_SB_PLUGIN) :
    Holds (run register sb_redirector_init plugins) (accepted plugins) := by
  have hinit : Holds sb_redirector_init [] := ⟨BVIEW_MAX_SUPPORTED_SB_PLUGINS, rfl⟩
  exact holds_run plugins hinit

end Registration

section Search

variable {asicType : BVIEW_ASIC_TYPE} {featureId : Nat}

-- The entries of a feature, plugin by plugin, without the NULL slots.
def candidates (featureId : Nat) (plugins : List BVIEW_SB_PLUGIN) : List BVIEW_SB_FEATURE :=
  (plugins.flatMap fun plugin => plugin.features.reduceOption).filter fun feature =>
    feature.featureId = featureId

def Generic (feature : BVIEW_SB_FEATURE) : Bool :=
  feature.supportedAsicMask = BVIEW_ASIC_TYPE_ALL

def Covers (asicType mask : BVIEW_ASIC_TYPE) : Bool := mask &&& asicType = asicType

def Specific (asicType : BVIEW_ASIC_TYPE) (feature : BVIEW_SB_FEATURE) : Bool :=
  !Generic feature && Covers asicType feature.supportedAsicMask

-- What the redirector is for: the first entry for the silicon, else the first
-- for all silicons.
def preferred (asicType : BVIEW_ASIC_TYPE) (entries : List BVIEW_SB_FEATURE) :
    Option BVIEW_SB_FEATURE :=
  (entries.find? (Specific asicType)).or (entries.find? Generic)

-- The turns of the inner loop over the entries of the feature.
def scan (asicType : BVIEW_ASIC_TYPE) (search : Search) (entries : List BVIEW_SB_FEATURE) :
    Search :=
  entries.foldl (fun search feature =>
    if search.asicEntryFound then search else consider asicType search feature) search

theorem visit_features (search : Search) (features : List (Option BVIEW_SB_FEATURE)) :
    features.foldl (visit asicType featureId) search =
      scan asicType search (features.reduceOption.filter fun feature =>
        feature.featureId = featureId) := by
  induction features generalizing search with
  | nil => rfl
  | cons featurePtr rest ih =>
      rw [List.foldl_cons, ih]
      cases featurePtr with
      | none => simp [visit]
      | some feature =>
          rw [List.reduceOption_cons_of_some]
          by_cases hid : feature.featureId = featureId
          · rw [List.filter_cons_of_pos (by simpa using hid)]
            simp [visit, hid, scan]
          · rw [List.filter_cons_of_neg (by simpa using hid)]
            simp [visit, hid]

theorem scan_found {search : Search} (h : search.asicEntryFound = true)
    (entries : List BVIEW_SB_FEATURE) : scan asicType search entries = search := by
  induction entries with
  | nil => rfl
  | cons feature rest ih =>
      rw [scan, List.foldl_cons, if_pos h]
      exact ih

theorem scan_append (search : Search) (entries entries' : List BVIEW_SB_FEATURE) :
    scan asicType search (entries ++ entries') =
      scan asicType (scan asicType search entries) entries' :=
  List.foldl_append

theorem visit_plugins (search : Search) (plugins : List BVIEW_SB_PLUGIN) (left : Nat) :
    (plugins.map (BVIEW_SB_REDIRECT_PLUGIN.mk true) ++ List.replicate left unused).foldl
        (visitPlugin asicType featureId) search =
      scan asicType search (candidates featureId plugins) := by
  induction plugins generalizing search with
  | nil =>
      rw [List.map_nil, List.nil_append]
      induction left with
      | zero => rfl
      | succ left ih =>
          have hskip : visitPlugin asicType featureId search unused = search :=
            if_neg fun h => Bool.false_ne_true h.2
          rw [List.replicate_succ, List.foldl_cons, hskip]
          exact ih
  | cons plugin rest ih =>
      have hsplit : candidates featureId (plugin :: rest) =
          (plugin.features.reduceOption.filter fun feature => feature.featureId = featureId) ++
            candidates featureId rest := by
        simp [candidates]
      rw [List.map_cons, List.cons_append, List.foldl_cons, ih, hsplit, scan_append]
      congr 1
      unfold visitPlugin
      by_cases hfound : search.asicEntryFound = true
      · rw [if_neg (by simp [hfound]), scan_found hfound]
      · rw [if_pos ⟨by simpa using hfound, rfl⟩, visit_features]

section Choice

variable {first second feature : BVIEW_SB_FEATURE} {rest entries : List BVIEW_SB_FEATURE}

def Relevant (asicType : BVIEW_ASIC_TYPE) (feature : BVIEW_SB_FEATURE) : Bool :=
  Generic feature || Covers asicType feature.supportedAsicMask

theorem consider_irrelevant (search : Search) (h : Relevant asicType feature = false) :
    consider asicType search feature = search := by
  simp only [Relevant, Generic, Covers, Bool.or_eq_false_iff, decide_eq_false_iff_not] at h
  rw [consider, if_neg fun hall => h.1 hall.1, if_neg fun hasic => h.2 hasic.1]

theorem scan_relevant (search : Search) :
    scan asicType search entries = scan asicType search (entries.filter (Relevant asicType)) := by
  induction entries generalizing search with
  | nil => rfl
  | cons feature rest ih =>
      by_cases hrelevant : Relevant asicType feature = true
      · rw [List.filter_cons_of_pos hrelevant]
        exact ih _
      · rw [List.filter_cons_of_neg hrelevant]
        have hsame := consider_irrelevant search (Bool.eq_false_iff.mpr hrelevant)
        have hstep : scan asicType search (feature :: rest) =
            scan asicType (if search.asicEntryFound then search
              else consider asicType search feature) rest := rfl
        rw [hstep, hsame, ite_self]
        exact ih search

theorem find?_filter_relevant {choose : BVIEW_SB_FEATURE → Bool}
    (h : ∀ feature, choose feature = true → Relevant asicType feature = true) :
    (entries.filter (Relevant asicType)).find? choose = entries.find? choose := by
  rw [List.find?_filter]
  congr 1
  funext feature
  by_cases hchoose : choose feature = true
  · simp [hchoose, h feature hchoose]
  · simp [Bool.eq_false_iff.mpr hchoose]

theorem preferred_relevant :
    preferred asicType (entries.filter (Relevant asicType)) = preferred asicType entries := by
  have hspecific : ∀ feature, Specific asicType feature = true →
      Relevant asicType feature = true := by
    intro feature h
    simp only [Specific, Bool.and_eq_true] at h
    simp [Relevant, h.2]
  have hgeneric : ∀ feature, Generic feature = true → Relevant asicType feature = true := by
    intro feature h
    simp [Relevant, h]
  rw [preferred, preferred, find?_filter_relevant hspecific, find?_filter_relevant hgeneric]

-- Behind an entry for all silicons the first one that covers the silicon is
-- taken, be it for all silicons as well.
theorem scan_behind_generic :
    (scan asicType ⟨some first, false, true⟩ entries).featurePtrOut =
      (entries.find? fun feature => Covers asicType feature.supportedAsicMask).or
        (some first) := by
  induction entries with
  | nil => rfl
  | cons feature rest ih =>
      have hstep : scan asicType ⟨some first, false, true⟩ (feature :: rest) =
          scan asicType (consider asicType ⟨some first, false, true⟩ feature) rest := rfl
      rw [hstep, List.find?_cons]
      by_cases hcovers : Covers asicType feature.supportedAsicMask = true
      · have hmask : feature.supportedAsicMask &&& asicType = asicType := of_decide_eq_true hcovers
        simp only [consider, Bool.true_eq_false, and_false, if_false, hmask, and_self, if_true,
          hcovers]
        rw [scan_found rfl]
        rfl
      · have hmask : ¬ feature.supportedAsicMask &&& asicType = asicType :=
          fun h => hcovers (decide_eq_true h)
        simp only [consider, Bool.true_eq_false, and_false, if_false, hmask, false_and,
          Bool.eq_false_iff.mpr hcovers]
        exact ih

theorem scan_specific_first (h : Generic first = false)
    (hcovers : Covers asicType first.supportedAsicMask = true) :
    (scan asicType ⟨none, false, false⟩ (first :: rest)).featurePtrOut = some first := by
  have hmask : first.supportedAsicMask &&& asicType = asicType := of_decide_eq_true hcovers
  have hall : ¬ first.supportedAsicMask = BVIEW_ASIC_TYPE_ALL := of_decide_eq_false h
  have hstep : scan asicType ⟨none, false, false⟩ (first :: rest) =
      scan asicType ⟨some first, true, false⟩ rest := by
    rw [scan, List.foldl_cons]
    simp [consider, hall, hmask, scan]
  rw [hstep, scan_found rfl]

theorem scan_generic_first (h : Generic first = true) :
    (scan asicType ⟨none, false, false⟩ (first :: rest)).featurePtrOut =
      (rest.find? fun feature => Covers asicType feature.supportedAsicMask).or
        (some first) := by
  have hall : first.supportedAsicMask = BVIEW_ASIC_TYPE_ALL := of_decide_eq_true h
  have hstep : scan asicType ⟨none, false, false⟩ (first :: rest) =
      scan asicType ⟨some first, false, true⟩ rest := by
    rw [scan, List.foldl_cons]
    simp [consider, hall, scan]
  rw [hstep, scan_behind_generic]

theorem preferred_specific_first (h : Specific asicType first = true) :
    preferred asicType (first :: rest) = some first := by
  simp [preferred, h]

theorem preferred_generic_first (h : Generic first = true) :
    preferred asicType (first :: rest) =
      (rest.find? (Specific asicType)).or (some first) := by
  have hnot : Specific asicType first = false := by simp [Specific, h]
  simp [preferred, h, hnot]

-- No two entries for all silicons stand in front of every entry for the silicon,
-- unless they are the same structure and there is no entry for the silicon.
def Unrivalled (asicType : BVIEW_ASIC_TYPE) (entries : List BVIEW_SB_FEATURE) : Prop :=
  Covers asicType BVIEW_ASIC_TYPE_ALL = true → ∀ first second rest,
    entries.filter (Relevant asicType) = first :: second :: rest →
      Generic first = true → Generic second = true →
        second = first ∧ ∀ feature ∈ rest, Specific asicType feature = false

theorem covers_of_relevant (hall : Covers asicType BVIEW_ASIC_TYPE_ALL = true)
    (h : Relevant asicType feature = true) :
    Covers asicType feature.supportedAsicMask = true := by
  by_cases hgeneric : Generic feature = true
  · rw [show feature.supportedAsicMask = BVIEW_ASIC_TYPE_ALL from of_decide_eq_true hgeneric]
    exact hall
  · simpa [Relevant, Bool.eq_false_iff.mpr hgeneric] using h

-- For a silicon outside the mask of all silicons only specific entries cover it.
theorem covers_eq_specific (hall : Covers asicType BVIEW_ASIC_TYPE_ALL = false) :
    (fun feature : BVIEW_SB_FEATURE => Covers asicType feature.supportedAsicMask) =
      Specific asicType := by
  funext feature
  by_cases hgeneric : Generic feature = true
  · have hmask : feature.supportedAsicMask = BVIEW_ASIC_TYPE_ALL := of_decide_eq_true hgeneric
    simp [Specific, hgeneric, hmask, hall]
  · simp [Specific, Bool.eq_false_iff.mpr hgeneric]

-- The second of two entries for all silicons is what the search returns.
theorem behind_generic_iff (hgeneric : Generic first = true)
    (hcovers : ∀ feature ∈ rest, Covers asicType feature.supportedAsicMask = true) :
    ((rest.find? fun feature => Covers asicType feature.supportedAsicMask).or (some first) =
        (rest.find? (Specific asicType)).or (some first)) ↔
      ∀ first' second rest', first :: rest = first' :: second :: rest' →
        Generic first' = true → Generic second = true →
          second = first' ∧ ∀ feature ∈ rest', Specific asicType feature = false := by
  cases rest with
  | nil => simp
  | cons second rest' =>
      have hsecond := hcovers second List.mem_cons_self
      have hfound : (second :: rest').find? (fun feature =>
          Covers asicType feature.supportedAsicMask) = some second :=
        List.find?_cons_of_pos hsecond
      rw [hfound, Option.some_or]
      by_cases hrival : Generic second = true
      · have hskip : Specific asicType second = false := by simp [Specific, hrival]
        rw [List.find?_cons_of_neg (by simp [hskip])]
        constructor
        · rintro heq first' second' rest'' hsplit - -
          cases hsplit
          cases hfind : rest'.find? (Specific asicType) with
          | none =>
              rw [hfind] at heq
              refine ⟨Option.some.inj heq, fun feature hmem => ?_⟩
              exact Bool.eq_false_iff.mpr (List.find?_eq_none.mp hfind feature hmem)
          | some feature =>
              rw [hfind] at heq
              have hspecific := List.find?_some hfind
              rw [← Option.some.inj heq, hskip] at hspecific
              cases hspecific
        · intro h
          obtain ⟨heq, hrest⟩ := h first second rest' rfl hgeneric hrival
          have hnone : rest'.find? (Specific asicType) = none := by
            rw [List.find?_eq_none]
            intro feature hmem
            rw [hrest feature hmem]
            exact Bool.false_ne_true
          rw [hnone, Option.none_or, heq]
      · have hspecific : Specific asicType second = true := by
          simp [Specific, Bool.eq_false_iff.mpr hrival, hsecond]
        rw [List.find?_cons_of_pos hspecific, Option.some_or]
        refine iff_of_true rfl fun first' second' rest'' hsplit _ hgeneric' => ?_
        cases hsplit
        exact absurd hgeneric' hrival

theorem scan_eq_preferred_iff (entries : List BVIEW_SB_FEATURE) :
    (scan asicType ⟨none, false, false⟩ entries).featurePtrOut = preferred asicType entries ↔
      Unrivalled asicType entries := by
  have hrelevant : ∀ feature ∈ entries.filter (Relevant asicType),
      Relevant asicType feature = true := fun feature hmem => (List.mem_filter.mp hmem).2
  rw [scan_relevant, ← preferred_relevant, Unrivalled]
  generalize entries.filter (Relevant asicType) = relevant at hrelevant
  cases relevant with
  | nil => simp [scan, preferred]
  | cons first rest =>
      have hfirst := hrelevant first List.mem_cons_self
      by_cases hgeneric : Generic first = true
      · rw [scan_generic_first hgeneric, preferred_generic_first hgeneric]
        by_cases hall : Covers asicType BVIEW_ASIC_TYPE_ALL = true
        · have hcovers : ∀ feature ∈ rest, Covers asicType feature.supportedAsicMask = true :=
            fun feature hmem => covers_of_relevant hall
              (hrelevant feature (List.mem_cons_of_mem first hmem))
          simp only [hall, forall_const]
          exact behind_generic_iff hgeneric hcovers
        · rw [covers_eq_specific (Bool.eq_false_iff.mpr hall)]
          exact iff_of_true rfl fun h => absurd h hall
      · have hnot := Bool.eq_false_iff.mpr hgeneric
        have hcovers : Covers asicType first.supportedAsicMask = true := by
          simpa [Relevant, hnot] using hfirst
        rw [scan_specific_first hnot hcovers,
          preferred_specific_first (by simp [Specific, hnot, hcovers])]
        refine iff_of_true rfl fun _ first' second rest' heq hgeneric' => ?_
        rw [(List.cons.inj heq).1] at hnot
        exact absurd hgeneric' (Bool.eq_false_iff.mp hnot)

-- The lookup keeps its order of preference exactly when no second entry for all
-- silicons gets in front.
theorem feature_handle_get_iff (plugins : List BVIEW_SB_PLUGIN) (asicType : BVIEW_ASIC_TYPE)
    (featureId : Nat) :
    sb_redirect_feature_handle_get asicType featureId (run register sb_redirector_init plugins) =
        preferred asicType (candidates featureId (accepted plugins)) ↔
      Unrivalled asicType (candidates featureId (accepted plugins)) := by
  obtain ⟨left, hplugins⟩ := holds_accepted plugins
  rw [sb_redirect_feature_handle_get, hplugins, visit_plugins]
  exact scan_eq_preferred_iff _

def bstPlugin (address : Nat) (supportedAsicMask : BVIEW_ASIC_TYPE) : BVIEW_SB_PLUGIN where
  numSupportedFeatures := 1
  featureList := some ⟨address, BVIEW_FEATURE_BST, supportedAsicMask, 0⟩ :: List.replicate 16 none
  length_eq := rfl

-- The third plugin is the one for the silicon, and the second is what is found.
theorem second_generic_found :
    ¬ (sb_redirect_feature_handle_get BVIEW_ASIC_TYPE_TD2 BVIEW_FEATURE_BST
        (run register sb_redirector_init [bstPlugin 1 BVIEW_ASIC_TYPE_ALL,
          bstPlugin 2 BVIEW_ASIC_TYPE_ALL, bstPlugin 3 BVIEW_ASIC_TYPE_TD2]) =
      preferred BVIEW_ASIC_TYPE_TD2 (candidates BVIEW_FEATURE_BST
        (accepted [bstPlugin 1 BVIEW_ASIC_TYPE_ALL, bstPlugin 2 BVIEW_ASIC_TYPE_ALL,
          bstPlugin 3 BVIEW_ASIC_TYPE_TD2]))) := by
  decide

end Choice

end Search

end BroadView.Redirector
