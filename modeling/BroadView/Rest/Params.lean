import BroadView.Platform
import Mathlib.Tactic.SplitIfs

namespace BroadView.Rest

-- What cJSON_GetObjectItem finds under a name of the params object. A number
-- comes with its integer value.
inductive cJSON where
  | number (valueint : Int32)
  | string (valuestring : String)
  | other
  deriving DecidableEq

abbrev Params := String → Option cJSON

theorem bind_ok_iff {ε α β : Type} {attempt : Except ε α} {next : α → Except ε β} {result : β} :
    (attempt >>= next) = .ok result ↔ ∃ value, attempt = .ok value ∧ next value = .ok result := by
  cases attempt with
  | error err => simp [bind, Except.bind]
  | ok value => simp [bind, Except.bind]

section Items

variable (params : Params) (name : String) (low high : Int32)

-- A number that has to be there, within its range.
def mandatory : Except BVIEW_STATUS Int32 :=
  match params name with
  | some (.number valueint) =>
      if valueint < low ∨ high < valueint then .error .INVALID_JSON else .ok valueint
  | _ => .error .INVALID_JSON

def optional : Except BVIEW_STATUS (Option Int32) :=
  match params name with
  | none => .ok none
  | some _ => (mandatory params name low high).map some

-- A number of any value that may be left out.
def optional_any : Except BVIEW_STATUS (Option Int32) :=
  optional params name Int32.minValue Int32.maxValue

def mandatory_string : Except BVIEW_STATUS (List Char) :=
  match params name with
  | some (.string valuestring) => .ok valuestring.toList
  | _ => .error .INVALID_JSON

def optional_string : Except BVIEW_STATUS (Option (List Char)) :=
  match params name with
  | none => .ok none
  | some _ => (mandatory_string params name).map some

variable {params name low high}

theorem mandatory_range {value : Int32} (h : mandatory params name low high = .ok value) :
    low ≤ value ∧ value ≤ high := by
  unfold mandatory at h
  split at h
  · split_ifs at h with hout
    cases h
    rw [not_or, Int32.not_lt, Int32.not_lt] at hout
    exact hout
  · cases h

end Items

end BroadView.Rest
