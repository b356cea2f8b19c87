import Mathlib.Data.Finset.Card
import Mathlib.Logic.Function.Basic

namespace BroadView.Pool

-- A pool of slots is told by the slots in use.
abbrev Usage := Nat → Bool

variable (slots : Nat) (usage : Usage)

-- The first free slot, as a search from slot 0 finds it.
def firstFree : Option Nat := (List.range slots).find? fun slot => !usage slot

def take (slot : Nat) : Usage := Function.update usage slot true

def give (slot : Nat) : Usage := Function.update usage slot false

def free : Finset Nat := (Finset.range slots).filter fun slot => usage slot = false

variable {slots usage} {slot : Nat}

theorem firstFree_free (h : firstFree slots usage = some slot) :
    slot < slots ∧ usage slot = false := by
  have hmem := List.mem_of_find?_eq_some h
  have hfree := List.find?_some h
  exact ⟨List.mem_range.mp hmem, by simpa using hfree⟩

theorem firstFree_none_iff :
    firstFree slots usage = none ↔ ∀ slot < slots, usage slot = true := by
  simp [firstFree]

-- A slot that was free and is given back leaves no trace.
theorem give_take (h : usage slot = false) : give (take usage slot) slot = usage := by
  rw [give, take, Function.update_idem, Function.update_eq_self_iff.mpr h.symm]

theorem free_take : free slots (take usage slot) = (free slots usage).erase slot := by
  ext other
  simp only [free, Finset.mem_filter, Finset.mem_erase]
  by_cases hother : other = slot
  · simp [take, hother]
  · simp [take, hother]

theorem free_card_take (h : firstFree slots usage = some slot) :
    (free slots (take usage slot)).card + 1 = (free slots usage).card := by
  obtain ⟨hslot, hfree⟩ := firstFree_free h
  have hmem : slot ∈ free slots usage := by simp [free, hslot, hfree]
  rw [free_take, Finset.card_erase_add_one hmem]

end BroadView.Pool
