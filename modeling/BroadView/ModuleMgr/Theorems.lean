import BroadView.ModuleMgr
import BroadView.Transition
import Mathlib.Data.List.Nodup

namespace BroadView.ModuleMgr

open Rest Transition

variable {Handler : Type}

section Register

variable {modules : MODULES Handler} {infos : List (BVIEW_MODULE_FETAURE_INFO Handler)}
  {featureId : Nat}

def used (featureInfo : BVIEW_MODULE_FETAURE_INFO Handler) : BVIEW_MODULE_INFO Handler :=
  ⟨true, featureInfo⟩

-- The registered features fill the slots from the first one on, in the order in
-- which they came.
structure Packed (modules : MODULES Handler)
    (infos : List (BVIEW_MODULE_FETAURE_INFO Handler)) : Prop where
  slots : ∃ unused, modules.moduleData = infos.map used ++ List.replicate unused zeroed
  distinct : (infos.map (·.featureId)).Nodup
  nonzero : ∀ info ∈ infos, info.featureId ≠ 0

def Registered (modules : MODULES Handler) (featureId : Nat) : Prop :=
  ∃ info ∈ modules.moduleData, info.isInUse = true ∧ info.moduleData.featureId = featureId

theorem packed_init : Packed (modulemgr_init : MODULES Handler) [] :=
  ⟨⟨BVIEW_MAX_MODULES, rfl⟩, List.nodup_nil, by simp⟩

-- The slots behind the first free one hold no feature id.
theorem scan_unused (hid : featureId ≠ 0) (unused moduleIndex freeEntryIndex : Nat) :
    scan featureId (List.replicate unused (zeroed : BVIEW_MODULE_INFO Handler)) moduleIndex
      (some freeEntryIndex) = .absent (some freeEntryIndex) := by
  induction unused generalizing moduleIndex with
  | zero => rfl
  | succ unused ih =>
      have hzero : (zeroed : BVIEW_MODULE_INFO Handler).moduleData.featureId ≠ featureId :=
        fun heq => hid heq.symm
      rw [List.replicate_succ, scan, if_neg (by simp), if_neg hzero]
      exact ih (moduleIndex + 1)

theorem scan_used (hid : featureId ≠ 0) (unused moduleIndex : Nat) :
    scan featureId (infos.map used ++ List.replicate unused zeroed) moduleIndex none =
      if featureId ∈ infos.map (·.featureId) then .entryAlreadyPresent
      else if unused = 0 then .absent none
      else .absent (some (moduleIndex + infos.length)) := by
  induction infos generalizing moduleIndex with
  | nil =>
      cases unused with
      | zero => rfl
      | succ unused =>
          have hfirst : (zeroed : BVIEW_MODULE_INFO Handler).isInUse = false ∧
              (none : Option Nat) = none := ⟨rfl, rfl⟩
          rw [List.map_nil, List.nil_append, List.replicate_succ, scan, if_pos hfirst,
            scan_unused hid]
          rfl
  | cons info rest ih =>
      have hused : ¬ ((used info).isInUse = false ∧ (none : Option Nat) = none) :=
        fun h => Bool.false_ne_true h.1.symm
      rw [List.map_cons, List.cons_append, scan, if_neg hused]
      by_cases hsame : info.featureId = featureId
      · have hmem : featureId ∈ (info :: rest).map (·.featureId) := by simp [hsame]
        rw [if_pos (show (used info).moduleData.featureId = featureId from hsame), if_pos hmem]
      · have hmem : featureId ∈ (info :: rest).map (·.featureId) ↔
            featureId ∈ rest.map (·.featureId) := by simp [Ne.symm hsame]
        rw [if_neg (show ¬ (used info).moduleData.featureId = featureId from hsame), ih]
        simp only [hmem, List.length_cons, Nat.add_assoc, Nat.add_comm 1]

theorem registered_iff (hpacked : Packed modules infos) :
    Registered modules featureId ↔ featureId ∈ infos.map (·.featureId) := by
  obtain ⟨unused, hslots⟩ := hpacked.slots
  constructor
  · rintro ⟨info, hmem, huse, rfl⟩
    rw [hslots, List.mem_append] at hmem
    rcases hmem with hmem | hmem
    · obtain ⟨featureInfo, hfeature, rfl⟩ := List.mem_map.mp hmem
      exact List.mem_map_of_mem hfeature
    · rw [List.eq_of_mem_replicate hmem] at huse
      exact absurd huse Bool.false_ne_true
  · intro hmem
    obtain ⟨info, hinfo, rfl⟩ := List.mem_map.mp hmem
    refine ⟨used info, ?_, rfl, rfl⟩
    rw [hslots]
    exact List.mem_append_left _ (List.mem_map_of_mem hinfo)

theorem full_iff (hpacked : Packed modules infos) :
    (∀ info ∈ modules.moduleData, info.isInUse = true) ↔ infos.length = BVIEW_MAX_MODULES := by
  obtain ⟨unused, hslots⟩ := hpacked.slots
  have hlength := modules.length_eq
  rw [hslots, List.length_append, List.length_map, List.length_replicate] at hlength
  constructor
  · intro hall
    cases unused with
    | zero => simpa using hlength
    | succ unused =>
        have hfree := hall zeroed (by simp [hslots])
        exact absurd hfree Bool.false_ne_true
  · intro hfull info hmem
    have hnone : unused = 0 := by omega
    rw [hslots, hnone, List.replicate_zero, List.append_nil] at hmem
    obtain ⟨featureInfo, -, rfl⟩ := List.mem_map.mp hmem
    rfl

-- What a registration does, by what is registered and by the slots left.
theorem register_cases {featureInfo : BVIEW_MODULE_FETAURE_INFO Handler}
    (hpacked : Packed modules infos) (hid : featureInfo.featureId ≠ 0) :
    (Registered modules featureInfo.featureId ∧
        modulemgr_register featureInfo modules = (.DUPLICATE, modules)) ∨
      (¬ Registered modules featureInfo.featureId ∧
        (∀ info ∈ modules.moduleData, info.isInUse = true) ∧
        modulemgr_register featureInfo modules = (.TABLE_FULL, modules)) ∨
      (¬ Registered modules featureInfo.featureId ∧
        (¬ ∀ info ∈ modules.moduleData, info.isInUse = true) ∧
        (modulemgr_register featureInfo modules).1 = .SUCCESS ∧
        Packed (modulemgr_register featureInfo modules).2 (infos ++ [featureInfo])) := by
  obtain ⟨unused, hslots⟩ := hpacked.slots
  have hlength := modules.length_eq
  rw [hslots, List.length_append, List.length_map, List.length_replicate] at hlength
  rw [registered_iff hpacked, full_iff hpacked, modulemgr_register, hslots, scan_used hid]
  by_cases hmem : featureInfo.featureId ∈ infos.map (·.featureId)
  · rw [if_pos hmem]
    exact Or.inl ⟨hmem, rfl⟩
  · by_cases hunused : unused = 0
    · rw [if_neg hmem, if_pos hunused]
      exact Or.inr (Or.inl ⟨hmem, by omega, rfl⟩)
    · obtain ⟨left, rfl⟩ := Nat.exists_eq_succ_of_ne_zero hunused
      rw [if_neg hmem, if_neg hunused]
      refine Or.inr (Or.inr ⟨hmem, by omega, rfl, ?_⟩)
      constructor
      · refine ⟨left, ?_⟩
        have hset : (infos.map used ++ List.replicate (left + 1) zeroed).set infos.length
            (used featureInfo) =
              (infos ++ [featureInfo]).map used ++ List.replicate left zeroed := by
          rw [List.set_append_right _ _ (by simp)]
          simp [List.replicate_succ]
        simp only [hslots, MODULES.set, Nat.zero_add]
        exact hset
      · rw [List.map_append, List.map_singleton, List.nodup_append]
        refine ⟨hpacked.distinct, List.nodup_singleton _, ?_⟩
        intro featureId hold other hnew heq
        rw [List.mem_singleton.mp hnew] at heq
        exact hmem (heq ▸ hold)
      · intro info hinfo
        rcases List.mem_append.mp hinfo with hold | hnew
        · exact hpacked.nonzero info hold
        · rw [List.mem_singleton.mp hnew]
          exact hid

theorem packed_register {featureInfo : BVIEW_MODULE_FETAURE_INFO Handler}
    (hpacked : Packed modules infos) (hid : featureInfo.featureId ≠ 0) :
    ∃ infos', Packed (register modules featureInfo) infos' := by
  unfold register
  rcases register_cases hpacked hid with ⟨-, heq⟩ | ⟨-, -, heq⟩ | ⟨-, -, -, hnext⟩
  · exact ⟨infos, by rwa [heq]⟩
  · exact ⟨infos, by rwa [heq]⟩
  · exact ⟨_, hnext⟩

theorem packed_run (featureInfos : List (BVIEW_MODULE_FETAURE_INFO Handler))
    (hids : ∀ info ∈ featureInfos, info.featureId ≠ 0) :
    ∃ infos, Packed (run register modulemgr_init featureInfos) infos := by
  refine run_invariant (fun modules => ∃ infos, Packed modules infos) ?_ _ featureInfos
    ⟨[], packed_init⟩ (along_of_mem _ _ hids)
  rintro modules featureInfo ⟨infos, hpacked⟩ hid
  exact packed_register hpacked hid

-- The registry admits every feature id once, as long as it has room.
structure Sound (modules : MODULES Handler) : Prop where
  distinct : ((modules.moduleData.filter (·.isInUse)).map (·.moduleData.featureId)).Nodup
  duplicate_iff : ∀ featureInfo : BVIEW_MODULE_FETAURE_INFO Handler, featureInfo.featureId ≠ 0 →
    ((modulemgr_register featureInfo modules).1 = .DUPLICATE ↔
      Registered modules featureInfo.featureId)
  table_full_iff : ∀ featureInfo : BVIEW_MODULE_FETAURE_INFO Handler, featureInfo.featureId ≠ 0 →
    ((modulemgr_register featureInfo modules).1 = .TABLE_FULL ↔
      ¬ Registered modules featureInfo.featureId ∧
        ∀ info ∈ modules.moduleData, info.isInUse = true)

theorem filter_in_use (hpacked : Packed modules infos) :
    modules.moduleData.filter (·.isInUse) = infos.map used := by
  obtain ⟨unused, hslots⟩ := hpacked.slots
  have hused : (infos.map used).filter (·.isInUse) = infos.map used := by
    rw [List.filter_eq_self]
    intro info hmem
    obtain ⟨featureInfo, -, rfl⟩ := List.mem_map.mp hmem
    rfl
  have hunused : (List.replicate unused (zeroed : BVIEW_MODULE_INFO Handler)).filter
      (·.isInUse) = [] := by
    rw [List.filter_eq_nil_iff]
    intro info hmem
    rw [List.eq_of_mem_replicate hmem]
    exact Bool.false_ne_true
  rw [hslots, List.filter_append, hused, hunused, List.append_nil]

theorem sound_of_packed (hpacked : Packed modules infos) : Sound modules := by
  refine ⟨?_, fun featureInfo hid => ?_, fun featureInfo hid => ?_⟩
  · rw [filter_in_use hpacked, List.map_map]
    exact hpacked.distinct
  · rcases register_cases hpacked hid with ⟨hreg, heq⟩ | ⟨hreg, -, heq⟩ | ⟨hreg, -, heq, -⟩
    · simp [hreg, heq]
    · simp [hreg, heq]
    · simp [hreg, heq]
  · rcases register_cases hpacked hid with ⟨hreg, heq⟩ | ⟨hreg, hfull, heq⟩ | ⟨hreg, hfull, heq, -⟩
    · simp [hreg, heq]
    · simp only [heq, true_iff]
      exact ⟨hreg, hfull⟩
    · rw [heq]
      exact iff_of_false (by simp) fun h => hfull h.2

end Register

section Lookup

variable {modules : MODULES Handler} {infos : List (BVIEW_MODULE_FETAURE_INFO Handler)}
  {name : List Char} {handler : Handler}

-- A registered module maps the method to the handler.
def Maps (modules : MODULES Handler) (name : List Char) (handler : Handler) : Prop :=
  ∃ info ∈ modules.moduleData, info.isInUse = true ∧
    ⟨some name, some handler⟩ ∈ info.moduleData.restApiList

-- The first entry of the method, slot by slot and in the order of each list.
def firstApi (modules : MODULES Handler) (name : List Char) : Option (BVIEW_REST_API Handler) :=
  modules.moduleData.findSome? (find_api name)

def Leads (modules : MODULES Handler) (name : List Char) (handler : Handler) : Prop :=
  firstApi modules name = some ⟨some name, some handler⟩

-- The first module with an entry of the method, whether it has a handler or not.
structure FirstLists (modules : MODULES Handler) (name : List Char)
    (info : BVIEW_MODULE_INFO Handler) : Prop where
  lists : (find_api name info).isSome = true
  first : ∃ before after, modules.moduleData = before ++ info :: after ∧
    ∀ other ∈ before, find_api name other = none

theorem firstLists_iff {info : BVIEW_MODULE_INFO Handler} :
    FirstLists modules name info ↔
      (modules.moduleData.find? fun info => (find_api name info).isSome) = some info := by
  rw [List.find?_eq_some_iff_append]
  constructor
  · rintro ⟨hlists, before, after, hsplit, hbefore⟩
    exact ⟨hlists, before, after, hsplit, fun other hmem => by simp [hbefore other hmem]⟩
  · rintro ⟨hlists, before, after, hsplit, hbefore⟩
    exact ⟨hlists, before, after, hsplit, fun other hmem => by simpa using hbefore other hmem⟩

theorem firstLists_unique {info info' : BVIEW_MODULE_INFO Handler}
    (h : FirstLists modules name info) (h' : FirstLists modules name info') : info = info' :=
  Option.some.inj ((firstLists_iff.mp h).symm.trans (firstLists_iff.mp h'))

theorem feature_name_get_iff {featureName : List Char} :
    modulemgr_rest_api_feature_name_get name modules = (.SUCCESS, some featureName) ↔
      ∃ info, FirstLists modules name info ∧ info.moduleData.featureName = featureName := by
  unfold modulemgr_rest_api_feature_name_get
  cases hfind : modules.moduleData.find? fun info => (find_api name info).isSome with
  | none =>
      constructor
      · intro heq
        cases heq
      · rintro ⟨info, hfirst, -⟩
        rw [firstLists_iff.mp hfirst] at hfind
        cases hfind
  | some info =>
      constructor
      · intro heq
        exact ⟨info, firstLists_iff.mpr hfind, by simpa using heq⟩
      · rintro ⟨info', hfirst, rfl⟩
        rw [firstLists_unique (firstLists_iff.mpr hfind) hfirst]

theorem firstLists_of_leads (h : Leads modules name handler) :
    ∃ info, FirstLists modules name info ∧ find_api name info = some ⟨some name, some handler⟩ := by
  obtain ⟨before, info, after, hsplit, hfind, hbefore⟩ := List.findSome?_eq_some_iff.mp h
  exact ⟨info, ⟨by rw [hfind]; rfl, before, after, hsplit, hbefore⟩, hfind⟩

theorem find_api_some {info : BVIEW_MODULE_INFO Handler} {api : BVIEW_REST_API Handler}
    (h : find_api name info = some api) :
    api ∈ info.moduleData.restApiList ∧ api.apiString = some name := by
  unfold find_api at h
  have hname := List.find?_some h
  exact ⟨List.mem_of_find?_eq_some h, of_decide_eq_true hname⟩

-- Once a method without a handler was met, the status stays a failure.
theorem find_handler_failed (rest : List (BVIEW_MODULE_INFO Handler)) :
    (find_handler name rest .FAILURE).1 = .FAILURE := by
  induction rest with
  | nil => rfl
  | cons info rest ih =>
      rw [find_handler]
      cases find_api name info with
      | none => exact ih
      | some api =>
          cases hhandler : api.handler with
          | none => simpa only [hhandler] using ih
          | some handler => simp only [hhandler]

theorem find_handler_iff (rest : List (BVIEW_MODULE_INFO Handler)) :
    find_handler name rest .SUCCESS = (.SUCCESS, some handler) ↔
      rest.findSome? (find_api name) = some ⟨some name, some handler⟩ := by
  induction rest with
  | nil => simp [find_handler]
  | cons info rest ih =>
      rw [find_handler, List.findSome?_cons]
      cases hfind : find_api name info with
      | none => exact ih
      | some api =>
          have hname := (find_api_some hfind).2
          obtain ⟨apiString, entry⟩ := api
          subst hname
          cases entry with
          | none =>
              have hfailed : (find_handler name rest .FAILURE).1 = .FAILURE :=
                find_handler_failed rest
              simp only [Option.some.injEq, BVIEW_REST_API.mk.injEq, reduceCtorEq, and_false,
                iff_false]
              intro heq
              rw [heq] at hfailed
              cases hfailed
          | some found => simp

-- The method the request names, cut to what the buffer takes.
theorem handler_get_iff {params : Params} {method : String}
    (hmethod : params "method" = some (.string method)) :
    modulemgr_rest_api_handler_get (some params) modules = (.SUCCESS, some handler) ↔
      Leads modules (method.toList.take (JSON_MAX_NODE_LENGTH - 1)) handler := by
  have hname : json_buf_to_api_string_get (some params) =
      .ok (method.toList.take (JSON_MAX_NODE_LENGTH - 1)) := by
    simp only [json_buf_to_api_string_get, mandatory_string, hmethod]
    rfl
  rw [modulemgr_rest_api_handler_get, hname]
  exact find_handler_iff modules.moduleData

theorem maps_of_leads (hpacked : Packed modules infos) (h : Leads modules name handler) :
    Maps modules name handler := by
  obtain ⟨info, hmem, hfind⟩ := List.exists_of_findSome?_eq_some h
  have happ := (find_api_some hfind).1
  obtain ⟨unused, hslots⟩ := hpacked.slots
  refine ⟨info, hmem, ?_, happ⟩
  rw [hslots, List.mem_append] at hmem
  rcases hmem with hmem | hmem
  · obtain ⟨featureInfo, -, rfl⟩ := List.mem_map.mp hmem
    rfl
  · rw [List.eq_of_mem_replicate hmem] at happ
    cases List.eq_of_mem_replicate happ

-- No entry without a handler hides a later one that has one. A name that the
-- buffer cuts leads somewhere exactly when it is mapped.
def Unshadowed (modules : MODULES Handler) (name : List Char) : Prop :=
  if name.length < JSON_MAX_NODE_LENGTH then
    (∃ handler, Maps modules name handler) → firstApi modules name ≠ some ⟨some name, none⟩
  else
    (∃ handler, Leads modules (name.take (JSON_MAX_NODE_LENGTH - 1)) handler) ↔
      ∃ handler, Maps modules name handler

theorem firstApi_some {api : BVIEW_REST_API Handler} (h : firstApi modules name = some api) :
    api.apiString = some name := by
  obtain ⟨info, -, hfind⟩ := List.exists_of_findSome?_eq_some h
  exact (find_api_some hfind).2

theorem firstApi_of_maps (h : Maps modules name handler) :
    ∃ entry, firstApi modules name = some ⟨some name, entry⟩ := by
  obtain ⟨info, hmem, -, hlist⟩ := h
  have hfound : (find_api name info).isSome = true :=
    List.find?_isSome.mpr ⟨_, hlist, decide_eq_true rfl⟩
  have hfirst : (firstApi modules name).isSome = true :=
    List.findSome?_isSome_iff.mpr ⟨info, hmem, hfound⟩
  obtain ⟨api, hapi⟩ := Option.isSome_iff_exists.mp hfirst
  have hname := firstApi_some hapi
  exact ⟨api.handler, by rw [hapi, ← hname]⟩

theorem answers_iff {params : Params} {method : String} (hpacked : Packed modules infos)
    (hmethod : params "method" = some (.string method)) :
    ((∃ handler, modulemgr_rest_api_handler_get (some params) modules = (.SUCCESS, some handler)) ↔
        ∃ handler, Maps modules method.toList handler) ↔
      Unshadowed modules method.toList := by
  simp only [handler_get_iff hmethod]
  unfold Unshadowed
  by_cases hshort : method.toList.length < JSON_MAX_NODE_LENGTH
  · have hcut : method.toList.take (JSON_MAX_NODE_LENGTH - 1) = method.toList :=
      List.take_of_length_le (by omega)
    rw [if_pos hshort, hcut]
    constructor
    · intro hiff hmaps hnone
      obtain ⟨handler, hleads⟩ := hiff.mpr hmaps
      rw [Leads, hnone] at hleads
      cases hleads
    · intro hfirst
      constructor
      · rintro ⟨handler, hleads⟩
        exact ⟨handler, maps_of_leads hpacked hleads⟩
      · rintro ⟨handler, hmaps⟩
        obtain ⟨entry, hentry⟩ := firstApi_of_maps hmaps
        cases entry with
        | none => exact absurd hentry (hfirst ⟨handler, hmaps⟩)
        | some first => exact ⟨first, hentry⟩
  · rw [if_neg hshort]

-- The registry is kept as it should be whatever is registered, and the lookup
-- finds what is mapped exactly for the methods that nothing shadows.
theorem modulemgr_registry (featureInfos : List (BVIEW_MODULE_FETAURE_INFO Handler))
    (hids : ∀ info ∈ featureInfos, info.featureId ≠ 0) :
    Sound (run register modulemgr_init featureInfos) ∧
      ∀ (params : Params) (method : String), params "method" = some (.string method) →
        (((∃ handler, modulemgr_rest_api_handler_get (some params)
              (run register modulemgr_init featureInfos) = (.SUCCESS, some handler)) ↔
            ∃ handler, Maps (run register modulemgr_init featureInfos) method.toList handler) ↔
          Unshadowed (run register modulemgr_init featureInfos) method.toList) := by
  obtain ⟨infos, hpacked⟩ := packed_run featureInfos hids
  exact ⟨sound_of_packed hpacked, fun params method hmethod => answers_iff hpacked hmethod⟩

def methodNamed (method : String) : Params :=
  fun key => if key = "method" then some (.string method) else none

def mute : BVIEW_MODULE_FETAURE_INFO Unit :=
  moduleInfo 1 "" [⟨some "get-time".toList, none⟩] (by decide) (by decide)

def clock : BVIEW_MODULE_FETAURE_INFO Unit :=
  moduleInfo 2 "clock" [⟨some "get-time".toList, some ()⟩] (by decide) (by decide)

theorem modulemgr_registry_clock :
    Sound (run register modulemgr_init [clock, mute]) ∧
      (((∃ handler, modulemgr_rest_api_handler_get (some (methodNamed "get-time"))
            (run register modulemgr_init [clock, mute]) = (.SUCCESS, some handler)) ↔
          ∃ handler, Maps (run register modulemgr_init [clock, mute]) "get-time".toList handler) ↔
        Unshadowed (run register modulemgr_init [clock, mute]) "get-time".toList) := by
  have h := modulemgr_registry [clock, mute] (by decide)
  exact ⟨h.1, h.2 (methodNamed "get-time") "get-time" rfl⟩

-- A method without a handler in the first module hides that of the second,
-- although the search goes on and finds it.
theorem mute_hides_clock :
    ¬ ((∃ handler, modulemgr_rest_api_handler_get (some (methodNamed "get-time"))
          (run register modulemgr_init [mute, clock]) = (.SUCCESS, some handler)) ↔
        ∃ handler, Maps (run register modulemgr_init [mute, clock]) "get-time".toList handler) := by
  have hget : modulemgr_rest_api_handler_get (some (methodNamed "get-time"))
      (run register modulemgr_init [mute, clock]) = (.FAILURE, some ()) := by decide
  have hmaps : Maps (run register modulemgr_init [mute, clock]) "get-time".toList () :=
    ⟨used clock, by decide, rfl, by decide⟩
  intro h
  obtain ⟨handler, hfound⟩ := h.mpr ⟨(), hmaps⟩
  rw [hget] at hfound
  cases hfound

end Lookup

end BroadView.ModuleMgr
