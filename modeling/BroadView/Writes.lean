import Mathlib.Logic.Function.Basic

namespace BroadView.Writes

variable {α β ι : Type*} [DecidableEq α] (address : ι → α) (value : ι → β)

-- A list of writes into a memory.
def all (memory : α → β) (writes : List ι) : α → β :=
  writes.foldl (fun memory write => Function.update memory (address write) (value write)) memory

variable {address value} {memory : α → β} {writes : List ι} {a : α}

theorem all_of_untouched (h : ∀ write ∈ writes, address write ≠ a) :
    all address value memory writes a = memory a := by
  induction writes generalizing memory with
  | nil => rfl
  | cons write rest ih =>
      rw [all, List.foldl_cons]
      have hrest := @ih (Function.update memory (address write) (value write))
        fun other hother => h other (List.mem_cons_of_mem write hother)
      rw [← all, hrest, Function.update_of_ne (h write List.mem_cons_self).symm]

theorem all_last {before after : List ι} {write : ι} (hwrite : address write = a)
    (hafter : ∀ other ∈ after, address other ≠ a) :
    all address value memory (before ++ write :: after) a = value write := by
  have hsplit : all address value memory (before ++ write :: after) =
      all address value (Function.update (all address value memory before)
        (address write) (value write)) after := by
    simp [all]
  rw [hsplit, all_of_untouched hafter, hwrite, Function.update_self]

-- A place that is written has a last write.
theorem exists_last (h : ∃ write ∈ writes, address write = a) :
    ∃ before write after, writes = before ++ write :: after ∧ address write = a ∧
      ∀ other ∈ after, address other ≠ a := by
  induction writes with
  | nil => simp at h
  | cons write rest ih =>
      by_cases hrest : ∃ other ∈ rest, address other = a
      · obtain ⟨before, last, after, rfl, hlast, hafter⟩ := ih hrest
        exact ⟨write :: before, last, after, rfl, hlast, hafter⟩
      · obtain ⟨other, hother, haddress⟩ := h
        rcases List.mem_cons.mp hother with rfl | hmem
        · exact ⟨[], other, rest, rfl, haddress, fun o ho heq => hrest ⟨o, ho, heq⟩⟩
        · exact absurd ⟨other, hmem, haddress⟩ hrest

-- Writes to different places read nothing of each other.
theorem all_of_nodup (hnodup : (writes.map address).Nodup) {write : ι} (hwrite : write ∈ writes) :
    all address value memory writes (address write) = value write := by
  obtain ⟨before, after, rfl⟩ := List.append_of_mem hwrite
  refine all_last rfl ?_
  intro other hother heq
  rw [List.map_append, List.map_cons] at hnodup
  have htail := (List.nodup_append.mp hnodup).2.1
  exact (List.nodup_cons.mp htail).1 (heq ▸ List.mem_map_of_mem hother)

end BroadView.Writes
