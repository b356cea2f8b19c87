import BroadView.CJson.Meaning
import BroadView.Rest.Envelope

namespace BroadView.Rest

section Faults

variable {α β : Type} {faults : List BVIEW_STATUS}

-- The statuses that an attempt can end with.
def Reports (faults : List BVIEW_STATUS) (attempt : Except Fault α) : Prop :=
  ∀ rv, attempt = .error (.status rv) → rv ∈ faults

theorem reports_ok (value : α) : Reports faults (.ok value) := fun _ h => by cases h

theorem reports_overrun : Reports faults (.error .overrun : Except Fault α) :=
  fun _ h => by cases h

theorem reports_status {rv : BVIEW_STATUS} (h : rv ∈ faults) :
    Reports faults (.error (.status rv) : Except Fault α) := by
  intro rv' heq
  cases heq
  exact h

theorem Reports.bind {attempt : Except Fault α} {next : α → Except Fault β}
    (h : Reports faults attempt) (hnext : ∀ value, Reports faults (next value)) :
    Reports faults (attempt >>= next) := by
  intro rv heq
  cases attempt with
  | error fault =>
      cases heq
      exact h rv rfl
  | ok value => exact hnext value rv heq

theorem reports_checked {attempt : Except BVIEW_STATUS α}
    (h : ∀ rv, attempt = .error rv → rv ∈ faults) : Reports faults (checked attempt) := by
  cases attempt with
  | error rv => exact reports_status (h rv rfl)
  | ok value => exact reports_ok value

theorem checked_ok {attempt : Except BVIEW_STATUS α} {value : α}
    (h : checked attempt = .ok value) : attempt = .ok value := by
  cases attempt with
  | error => cases h
  | ok => cases h; rfl

end Faults

section Params

variable {params : Params} {name : String} {low high : Int32} {rv : BVIEW_STATUS}

theorem mandatory_error (h : mandatory params name low high = .error rv) : rv = .INVALID_JSON := by
  unfold mandatory at h
  split at h
  · split_ifs at h
    cases h
    rfl
  · cases h
    rfl

theorem optional_error (h : optional params name low high = .error rv) : rv = .INVALID_JSON := by
  unfold optional at h
  cases hparam : params name with
  | none =>
      rw [hparam] at h
      cases h
  | some item =>
      simp only [hparam] at h
      cases hvalue : mandatory params name low high with
      | ok value =>
          rw [hvalue] at h
          cases h
      | error rv' =>
          rw [hvalue] at h
          cases h
          exact mandatory_error hvalue

theorem mandatory_string_error (h : mandatory_string params name = .error rv) :
    rv = .INVALID_JSON := by
  unfold mandatory_string at h
  split at h
  · cases h
  · cases h
    rfl

theorem optional_string_error (h : optional_string params name = .error rv) :
    rv = .INVALID_JSON := by
  unfold optional_string at h
  cases hparam : params name with
  | none =>
      rw [hparam] at h
      cases h
  | some item =>
      simp only [hparam] at h
      cases hvalue : mandatory_string params name with
      | ok value =>
          rw [hvalue] at h
          cases h
      | error rv' =>
          rw [hvalue] at h
          cases h
          exact mandatory_string_error hvalue

theorem mandatory_string_ok {value : List Char} (h : mandatory_string params name = .ok value) :
    params name = some (.string (String.ofList value)) := by
  unfold mandatory_string at h
  split at h
  · rename_i valuestring hitem
    cases h
    rw [hitem, String.ofList_toList]
  · cases h

theorem optional_string_ok {value : List Char}
    (h : optional_string params name = .ok (some value)) :
    params name = some (.string (String.ofList value)) := by
  unfold optional_string at h
  split at h
  · cases h
  · cases hvalue : mandatory_string params name with
    | error rv =>
        rw [hvalue] at h
        cases h
    | ok value' =>
        rw [hvalue] at h
        cases h
        exact mandatory_string_ok hvalue

-- Every failure of the parameters is one of the JSON.
def JsonOnly {α : Type} (attempt : Except BVIEW_STATUS α) : Prop :=
  ∀ rv, attempt = .error rv → rv = .INVALID_JSON

theorem jsonOnly_ok {α : Type} (value : α) : JsonOnly (.ok value) := fun _ h => by cases h

theorem JsonOnly.bind {α β : Type} {attempt : Except BVIEW_STATUS α}
    {next : α → Except BVIEW_STATUS β} (h : JsonOnly attempt)
    (hnext : ∀ value, JsonOnly (next value)) : JsonOnly (attempt >>= next) := by
  intro rv heq
  cases attempt with
  | error rv' =>
      cases heq
      exact h rv rfl
  | ok value => exact hnext value rv heq

theorem jsonOnly_mandatory : JsonOnly (mandatory params name low high) :=
  fun _ => mandatory_error

theorem jsonOnly_optional : JsonOnly (optional params name low high) := fun _ => optional_error

theorem jsonOnly_mandatory_string : JsonOnly (mandatory_string params name) :=
  fun _ => mandatory_string_error

theorem jsonOnly_optional_string : JsonOnly (optional_string params name) :=
  fun _ => optional_string_error

theorem jsonOnly_compare_string (required : List Char) :
    JsonOnly (compare_string params name required) := by
  refine jsonOnly_mandatory_string.bind fun value => ?_
  intro rv h
  split_ifs at h
  · cases h
  · cases h
    rfl

end Params

section Envelope

-- What a handler can return before it looks at its parameters, or of them.
def jsonFaults : List BVIEW_STATUS := [.INVALID_PARAMETER, .INVALID_JSON]

theorem JsonOnly.reports {α : Type} {attempt : Except BVIEW_STATUS α} (h : JsonOnly attempt)
    {faults : List BVIEW_STATUS} (hfaults : BVIEW_STATUS.INVALID_JSON ∈ faults) :
    Reports faults (checked attempt) :=
  reports_checked fun rv heq => h rv heq ▸ hfaults

variable {arith : CJson.Arithmetic} {args : HandlerArgs} {params : Params}

theorem parse_root_reports (jsonBuffer : List Char) :
    Reports jsonFaults (parse_root arith jsonBuffer) := by
  unfold parse_root
  split
  · exact reports_ok _
  · exact reports_status (by decide)
  · exact reports_overrun

theorem map_from_notation_reports (asicStr : List Char) :
    Reports jsonFaults (JSON_ASIC_ID_MAP_FROM_NOTATION asicStr) := by
  unfold JSON_ASIC_ID_MAP_FROM_NOTATION
  split
  · exact reports_status (by decide)
  · rename_i hother
    intro rv heq
    exact absurd heq (hother rv)

theorem mandatory_asic_reports : Reports jsonFaults (mandatory_asic params) :=
  (jsonOnly_mandatory_string.reports (by decide)).bind fun _ => map_from_notation_reports _

theorem optional_asic_reports : Reports jsonFaults (optional_asic params) := by
  refine (jsonOnly_optional_string.reports (by decide)).bind fun asicStr => ?_
  cases asicStr with
  | none => exact reports_ok _
  | some asicStr =>
      refine (map_from_notation_reports asicStr).bind fun asicId => ?_
      split_ifs
      · exact reports_status (by decide)
      · exact reports_ok _

theorem check_args_ok {cookie : Nat} {jsonBuffer : List Char}
    (h : check_args args = .ok (cookie, jsonBuffer)) :
    args.cookie = some cookie ∧ args.jsonBuffer = some jsonBuffer := by
  unfold check_args at h
  split at h
  · rename_i hcookie hbuffer
    split_ifs at h
    cases h
    exact ⟨hcookie, hbuffer⟩
  · cases h

theorem check_args_reports : Reports jsonFaults (checked (check_args args)) := by
  refine reports_checked fun rv h => ?_
  unfold check_args at h
  split at h
  · split_ifs at h
    cases h
    decide
  · cases h
    decide

theorem required_params_reports {Double : Type} (root : CJson.Item Double) :
    Reports jsonFaults (checked (required_params root)) := by
  refine reports_checked fun rv h => ?_
  unfold required_params at h
  split at h
  · cases h
  · cases h
    decide

theorem json_envelope_reports (method : String) {asic : Params → Except Fault Int32}
    (hasic : ∀ params, Reports jsonFaults (asic params)) :
    Reports jsonFaults (json_envelope arith method asic args) := by
  unfold json_envelope
  refine check_args_reports.bind fun checkedArgs => ?_
  refine (parse_root_reports _).bind fun root => ?_
  refine (required_params_reports root).bind fun params => ?_
  refine ((jsonOnly_compare_string _).reports (by decide)).bind fun _ => ?_
  refine ((jsonOnly_compare_string _).reports (by decide)).bind fun _ => ?_
  refine (hasic _).bind fun asicId => ?_
  exact (jsonOnly_mandatory.reports (by decide)).bind fun id => reports_ok _

theorem fault_bind_ok {α β : Type} {attempt : Except Fault α} {next : α → Except Fault β}
    {result : β} : (attempt >>= next) = .ok result ↔
      ∃ value, attempt = .ok value ∧ next value = .ok result := by
  cases attempt with
  | error fault => simp [bind, Except.bind]
  | ok value => simp [bind, Except.bind]

-- The envelope has the cookie of the arguments, and the id that an answer to the
-- request would have.
theorem json_envelope_ok {method : String} {asic : Params → Except Fault Int32}
    {envelope : Envelope} (h : json_envelope arith method asic args = .ok envelope) :
    args.cookie = some envelope.cookie ∧
      rest_get_id_from_request arith args.jsonBuffer = .ok envelope.id ∧
      1 ≤ envelope.id ∧ envelope.id ≤ 100000 := by
  simp only [json_envelope, fault_bind_ok] at h
  obtain ⟨⟨cookie, jsonBuffer⟩, hargs, root, hroot, params, -, -, -, -, -, asicId, -, id, hid,
    hresult⟩ := h
  cases hresult
  have hid' := checked_ok hid
  have hargs' := checked_ok hargs
  have hbuffer := check_args_ok hargs'
  refine ⟨hbuffer.1, ?_, mandatory_range hid'⟩
  simp only [rest_get_id_from_request, hbuffer.2, hroot]
  exact hid

end Envelope

section Members

variable {arith : CJson.Arithmetic} {fields : List (List Char × Json)} {name : String}

theorem members_decode (arith : CJson.Arithmetic) (fields : List (List Char × Json))
    (name : String) : members (CJson.decode arith (.object fields)) name =
      (CJson.lookup fields name.toList).map fun json => found (CJson.decode arith json) := by
  rw [members, CJson.getObjectItem_decode, Option.map_map]
  rfl

theorem members_string {value : String}
    (h : CJson.lookup fields name.toList = some (.string value.toList))
    (hplain : Json.Plain value.toList) :
    members (CJson.decode arith (.object fields)) name = some (.string value) := by
  have hsame : CJson.unescaped value.toList = value.toList :=
    CJson.unescaped_denotes (CJson.denotes_plain hplain)
  rw [members_decode, h, Option.map_some, CJson.decode, hsame, found, String.ofList_toList]

theorem found_int {whole : Nat → arith.Double} (hexact : CJson.Exact arith whole)
    (value : Int32) :
    found (CJson.decode arith (.number (Printf.showInt value.toInt))) = .number value := by
  obtain ⟨valuedouble, hparse⟩ := CJson.parse_number_showInt hexact value
  have hwhole := hparse [] CJson.stops_nil
  rw [List.append_nil] at hwhole
  rw [CJson.decode, hwhole, found]

theorem members_int {whole : Nat → arith.Double} (hexact : CJson.Exact arith whole)
    {value : Int32} (h : CJson.lookup fields name.toList =
      some (.number (Printf.showInt value.toInt))) :
    members (CJson.decode arith (.object fields)) name = some (.number value) := by
  rw [members_decode, h, Option.map_some, found_int hexact]

end Members

end BroadView.Rest
