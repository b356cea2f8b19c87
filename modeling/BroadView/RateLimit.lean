import Mathlib.Data.List.Basic

namespace BroadView.RateLimit

section Window

variable {κ ι : Type*} [DecidableEq ι] (slot : κ → ι) (known : κ → Bool) (limit : Nat)

-- What an arrival uses up, admitted or not.
def charge (used : ι → Nat) (key : κ) : ι → Nat :=
  Function.update used (slot key) (used (slot key) + 1)

def admits (used : ι → Nat) (key : κ) : Bool := known key && decide (used (slot key) < limit)

-- The arrivals of a window that are admitted, in order.
def admitted : (ι → Nat) → List κ → List κ
  | _, [] => []
  | used, key :: rest =>
      (if admits slot known limit used key then [key] else []) ++
        admitted (charge slot used key) rest

variable {slot known limit}

@[simp] theorem charge_self (used : ι → Nat) (key : κ) :
    charge slot used key (slot key) = used (slot key) + 1 := by
  simp [charge]

theorem charge_of_ne (used : ι → Nat) {key : κ} {i : ι} (h : i ≠ slot key) :
    charge slot used key i = used i := Function.update_of_ne h _ _

theorem le_charge (used : ι → Nat) (key : κ) (i : ι) : used i ≤ charge slot used key i := by
  by_cases h : i = slot key
  · subst h
    simp
  · exact Nat.le_of_eq (charge_of_ne used h).symm

theorem charge_le (used : ι → Nat) (key : κ) (i : ι) : charge slot used key i ≤ used i + 1 := by
  by_cases h : i = slot key
  · subst h
    simp
  · rw [charge_of_ne used h]
    omega

section Count

variable [BEq κ] [LawfulBEq κ]

-- Each admission of a key takes one unit of what is left of its slot.
theorem admitted_count_le (used : ι → Nat) (arrivals : List κ) (key : κ) :
    (admitted slot known limit used arrivals).count key ≤ limit - used (slot key) := by
  induction arrivals generalizing used with
  | nil => simp [admitted]
  | cons other rest ih =>
      have hrest := ih (charge slot used other)
      have hle : used (slot key) ≤ charge slot used other (slot key) :=
        le_charge used other (slot key)
      rw [admitted, List.count_append]
      by_cases hadmit : admits slot known limit used other = true
      · rw [if_pos hadmit]
        by_cases hkey : other = key
        · subst hkey
          have hroom : used (slot other) < limit := by
            simpa using (Bool.and_eq_true_iff.mp hadmit).2
          rw [charge_self] at hrest
          simp only [List.count_singleton_self]
          omega
        · rw [List.count_singleton, if_neg (by simpa using hkey)]
          omega
      · rw [if_neg hadmit, List.count_nil]
        omega

-- A key that shares its slot with no other arrival is admitted exactly as long
-- as its slot lasts.
theorem admitted_count_eq (used : ι → Nat) (arrivals : List κ) (key : κ)
    (hknown : known key = true) (hown : ∀ other ∈ arrivals, slot other = slot key → other = key) :
    (admitted slot known limit used arrivals).count key =
      min (arrivals.count key) (limit - used (slot key)) := by
  induction arrivals generalizing used with
  | nil => simp [admitted]
  | cons other rest ih =>
      have hrest := ih (charge slot used other) fun k hk => hown k (List.mem_cons_of_mem other hk)
      rw [admitted, List.count_append, hrest]
      by_cases hkey : other = key
      · subst hkey
        rw [charge_self, List.count_cons_self]
        by_cases hroom : used (slot other) < limit
        · rw [if_pos (by simp [admits, hknown, hroom]), List.count_singleton_self]
          omega
        · rw [if_neg (by simp [admits, hroom]), List.count_nil]
          omega
      · have hslot : slot key ≠ slot other := fun h => hkey (hown other List.mem_cons_self h.symm)
        have hnone : List.count key (if admits slot known limit used other then [other] else []) =
            0 := by
          split_ifs
          · rw [List.count_singleton, if_neg (by simpa using hkey)]
          · rfl
        rw [hnone, charge_of_ne used hslot, List.count_cons_of_ne hkey, Nat.zero_add]

end Count

end Window

end BroadView.RateLimit
