import BroadView.Platform
import Mathlib.Data.List.ReduceOption

namespace BroadView.Redirector

def BVIEW_MAX_SUPPORTED_SB_PLUGINS : Nat := 8
def BVIEW_SBPLUGIN_MAX_FEATURES : Nat := 17

-- A feature structure, told from others by its address. Only a system feature
-- has a number of asics.
structure BVIEW_SB_FEATURE where
  address : Nat
  featureId : Nat
  supportedAsicMask : BVIEW_ASIC_TYPE
  numSupportedAsics : Nat
  deriving DecidableEq

-- A missing feature is a NULL pointer.
structure BVIEW_SB_PLUGIN where
  numSupportedFeatures : Nat
  featureList : List (Option BVIEW_SB_FEATURE)
  length_eq : featureList.length = BVIEW_SBPLUGIN_MAX_FEATURES
  deriving DecidableEq

-- The features that the loops over a plugin look at.
def BVIEW_SB_PLUGIN.features (sbPlugin : BVIEW_SB_PLUGIN) : List (Option BVIEW_SB_FEATURE) :=
  sbPlugin.featureList.take sbPlugin.numSupportedFeatures

structure BVIEW_SB_REDIRECT_PLUGIN where
  isInUse : Bool
  sbPlugin : BVIEW_SB_PLUGIN

structure PLUGIN_LIST where
  plugins : List BVIEW_SB_REDIRECT_PLUGIN
  length_eq : plugins.length = BVIEW_MAX_SUPPORTED_SB_PLUGINS

def unused : BVIEW_SB_REDIRECT_PLUGIN where
  isInUse := false
  sbPlugin :=
    { numSupportedFeatures := 0
      featureList := List.replicate BVIEW_SBPLUGIN_MAX_FEATURES none
      length_eq := List.length_replicate }

def sb_redirector_init : PLUGIN_LIST where
  plugins := List.replicate BVIEW_MAX_SUPPORTED_SB_PLUGINS unused
  length_eq := List.length_replicate

def sb_plugin_validate (sbPlugin : BVIEW_SB_PLUGIN) : BVIEW_STATUS :=
  if sbPlugin.numSupportedFeatures > BVIEW_SBPLUGIN_MAX_FEATURES then .FAILURE
  else if sbPlugin.features.reduceOption.any fun feature =>
      feature.featureId = BVIEW_FEATURE_SYSTEM ∧
        feature.numSupportedAsics > BVIEW_MAX_ASICS_ON_A_PLATFORM then .FAILURE
  else .SUCCESS

-- The first slot that is free takes the plugin.
def occupy (sbPlugin : BVIEW_SB_PLUGIN) :
    List BVIEW_SB_REDIRECT_PLUGIN → Option (List BVIEW_SB_REDIRECT_PLUGIN)
  | [] => none
  | slot :: rest =>
      if slot.isInUse = false then some (⟨true, sbPlugin⟩ :: rest)
      else (occupy sbPlugin rest).map (slot :: ·)

theorem occupy_length {sbPlugin : BVIEW_SB_PLUGIN} {slots slots' : List BVIEW_SB_REDIRECT_PLUGIN}
    (h : occupy sbPlugin slots = some slots') : slots'.length = slots.length := by
  induction slots generalizing slots' with
  | nil => cases h
  | cons slot rest ih =>
      rw [occupy] at h
      split at h
      · cases h
        rfl
      · obtain ⟨rest', hrest, rfl⟩ := Option.map_eq_some_iff.mp h
        rw [List.length_cons, List.length_cons, ih hrest]

def sb_plugin_register (sbPlugin : BVIEW_SB_PLUGIN) (list : PLUGIN_LIST) :
    BVIEW_STATUS × PLUGIN_LIST :=
  if sb_plugin_validate sbPlugin = .FAILURE then (.FAILURE, list)
  else match hslots : occupy sbPlugin list.plugins with
    | none => (.TABLE_FULL, list)
    | some plugins => (.SUCCESS, ⟨plugins, by rw [occupy_length hslots, list.length_eq]⟩)

def register (list : PLUGIN_LIST) (sbPlugin : BVIEW_SB_PLUGIN) : PLUGIN_LIST :=
  (sb_plugin_register sbPlugin list).2

-- The variables of the search.
structure Search where
  featurePtrOut : Option BVIEW_SB_FEATURE
  asicEntryFound : Bool
  allAsicEntryFound : Bool
  deriving DecidableEq

section Search

variable (asicType : BVIEW_ASIC_TYPE) (featureId : Nat)

-- What the search makes of an entry of the feature.
def consider (search : Search) (feature : BVIEW_SB_FEATURE) : Search :=
  if feature.supportedAsicMask = BVIEW_ASIC_TYPE_ALL ∧ search.allAsicEntryFound = false then
    { search with featurePtrOut := some feature, allAsicEntryFound := true }
  else if feature.supportedAsicMask &&& asicType = asicType ∧ search.asicEntryFound = false then
    { search with featurePtrOut := some feature, asicEntryFound := true }
  else search

-- One turn of the inner loop, which ends when an entry for the silicon is found.
def visit (search : Search) (featurePtr : Option BVIEW_SB_FEATURE) : Search :=
  if search.asicEntryFound then search
  else match featurePtr with
    | none => search
    | some feature =>
        if feature.featureId = featureId then consider asicType search feature else search

def visitPlugin (search : Search) (slot : BVIEW_SB_REDIRECT_PLUGIN) : Search :=
  if search.asicEntryFound = false ∧ slot.isInUse = true then
    slot.sbPlugin.features.foldl (visit asicType featureId) search
  else search

-- The read lock can be taken here; where it cannot, the source returns NULL.
def sb_redirect_feature_handle_get (list : PLUGIN_LIST) : Option BVIEW_SB_FEATURE :=
  (list.plugins.foldl (visitPlugin asicType featureId) ⟨none, false, false⟩).featurePtrOut

end Search

end BroadView.Redirector
