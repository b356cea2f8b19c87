import BroadView.Pool
import BroadView.Bst.Encoder.Report

namespace BroadView.Bst

def BUFPOOL_MAX_RESPONE_SLICES : Nat := 20
def BUFPOOL_MAX_REPORT_SLICES : Nat := 4

inductive BSTJSON_MEMORY_SIZE where
  | RESPONSE | REPORT
  deriving DecidableEq, Repr

namespace BSTJSON_MEMORY_SIZE

def bytes : BSTJSON_MEMORY_SIZE → Nat
  | .RESPONSE => 1024
  | .REPORT => BSTJSON_MEMSIZE_REPORT

def slices : BSTJSON_MEMORY_SIZE → Nat
  | .RESPONSE => BUFPOOL_MAX_RESPONE_SLICES
  | .REPORT => BUFPOOL_MAX_REPORT_SLICES

-- The large buffers lie behind the small ones. Addresses are relative to the
-- first byte of the pool.
def POOL_START : BSTJSON_MEMORY_SIZE → Nat
  | .RESPONSE => 0
  | .REPORT => BUFPOOL_MAX_RESPONE_SLICES * bytes .RESPONSE

-- The address of the last slice.
def POOL_END (memSize : BSTJSON_MEMORY_SIZE) : Nat :=
  memSize.POOL_START + (memSize.slices - 1) * memSize.bytes

def buffer (memSize : BSTJSON_MEMORY_SIZE) (index : Nat) : Nat :=
  memSize.POOL_START + index * memSize.bytes

end BSTJSON_MEMORY_SIZE

-- Which slices of the two pools are marked in use.
structure MemoryPool where
  inUse : BSTJSON_MEMORY_SIZE → Pool.Usage

namespace MemoryPool

def take (pool : MemoryPool) (memSize : BSTJSON_MEMORY_SIZE) (index : Nat) : MemoryPool :=
  { inUse := Function.update pool.inUse memSize (Pool.take (pool.inUse memSize) index) }

def give (pool : MemoryPool) (memSize : BSTJSON_MEMORY_SIZE) (index : Nat) : MemoryPool :=
  { inUse := Function.update pool.inUse memSize (Pool.give (pool.inUse memSize) index) }

def freeSlice (pool : MemoryPool) (memSize : BSTJSON_MEMORY_SIZE) : Option Nat :=
  Pool.firstFree memSize.slices (pool.inUse memSize)

def freeSlices (pool : MemoryPool) : Nat :=
  (Pool.free (BSTJSON_MEMORY_SIZE.slices .RESPONSE) (pool.inUse .RESPONSE)).card +
    (Pool.free (BSTJSON_MEMORY_SIZE.slices .REPORT) (pool.inUse .REPORT)).card

end MemoryPool

def bstjson_memory_init : MemoryPool := { inUse := fun _ _ => false }

def bstjson_memory_allocate (memSize : BSTJSON_MEMORY_SIZE) (pool : MemoryPool) :
    BVIEW_STATUS × Option Nat × MemoryPool :=
  match pool.freeSlice memSize with
  | some index => (.SUCCESS, some (memSize.buffer index), pool.take memSize index)
  | none => (.OUTOFMEMORY, none, pool)

-- The slice is computed from the distance to the first one.
def return_slice (memSize : BSTJSON_MEMORY_SIZE) (pointer : Nat) (pool : MemoryPool) :
    BVIEW_STATUS × MemoryPool :=
  let temp := pointer - memSize.POOL_START
  if temp % memSize.bytes ≠ 0 then (.INVALID_MEMORY, pool)
  else
    let index := temp / memSize.bytes
    if memSize.buffer index = pointer then (.SUCCESS, pool.give memSize index)
    else (.INVALID_MEMORY, pool)

def bstjson_memory_free (buffer : Option Nat) (pool : MemoryPool) : BVIEW_STATUS × MemoryPool :=
  match buffer with
  | none => (.INVALID_PARAMETER, pool)
  | some pointer =>
      if ¬ (pointer ≤ BSTJSON_MEMORY_SIZE.POOL_END .RESPONSE ∨
          (BSTJSON_MEMORY_SIZE.POOL_START .REPORT ≤ pointer ∧
            pointer ≤ BSTJSON_MEMORY_SIZE.POOL_END .REPORT)) then
        (.INVALID_PARAMETER, pool)
      else if pointer ≤ BSTJSON_MEMORY_SIZE.POOL_END .RESPONSE then
        return_slice .RESPONSE pointer pool
      else if pointer ≤ BSTJSON_MEMORY_SIZE.POOL_END .REPORT then
        return_slice .REPORT pointer pool
      else (.INVALID_MEMORY, pool)

section Slices

variable {pool : MemoryPool} {memSize : BSTJSON_MEMORY_SIZE} {index : Nat}

theorem bytes_pos (memSize : BSTJSON_MEMORY_SIZE) : 0 < memSize.bytes := by
  cases memSize <;> decide

theorem return_slice_buffer (pool : MemoryPool) (memSize : BSTJSON_MEMORY_SIZE) (index : Nat) :
    return_slice memSize (memSize.buffer index) pool = (.SUCCESS, pool.give memSize index) := by
  have htemp : memSize.buffer index - memSize.POOL_START = index * memSize.bytes := by
    unfold BSTJSON_MEMORY_SIZE.buffer
    omega
  have hindex : index * memSize.bytes / memSize.bytes = index :=
    Nat.mul_div_cancel index (bytes_pos memSize)
  simp [return_slice, htemp, hindex]

-- The buffer of every slice is recognized, whichever pool it is from.
theorem memory_free_buffer (pool : MemoryPool) (hindex : index < memSize.slices) :
    bstjson_memory_free (some (memSize.buffer index)) pool =
      (.SUCCESS, pool.give memSize index) := by
  have hlast : index ≤ memSize.slices - 1 := by omega
  have hend : memSize.buffer index ≤ memSize.POOL_END :=
    Nat.add_le_add_left (Nat.mul_le_mul_right _ hlast) _
  have hstart : memSize.POOL_START ≤ memSize.buffer index := Nat.le_add_right _ _
  have hapart :
      BSTJSON_MEMORY_SIZE.POOL_END .RESPONSE < BSTJSON_MEMORY_SIZE.POOL_START .REPORT := by
    decide
  unfold bstjson_memory_free
  cases memSize with
  | RESPONSE =>
      simp only [hend, true_or, not_true_eq_false, if_true, if_false]
      exact return_slice_buffer pool .RESPONSE index
  | REPORT =>
      have hlarge : ¬ BSTJSON_MEMORY_SIZE.buffer .REPORT index ≤
          BSTJSON_MEMORY_SIZE.POOL_END .RESPONSE := by omega
      simp only [hend, hstart, hlarge, and_self, or_true, not_true_eq_false, if_true, if_false]
      exact return_slice_buffer pool .REPORT index

-- The arithmetic of return_slice: a distance that is a multiple of the size of a
-- slice, up to the last slice, leads to a slice.
theorem slice_of_offset {memSize : BSTJSON_MEMORY_SIZE} {offset : Nat}
    (hstart : memSize.POOL_START ≤ offset) (hend : offset ≤ memSize.POOL_END)
    (hmod : (offset - memSize.POOL_START) % memSize.bytes = 0) :
    (offset - memSize.POOL_START) / memSize.bytes < memSize.slices ∧
      memSize.buffer ((offset - memSize.POOL_START) / memSize.bytes) = offset := by
  have hslices : 0 < memSize.slices := by cases memSize <;> decide
  have hexact := Nat.div_mul_cancel (Nat.dvd_of_mod_eq_zero hmod)
  have hle : (offset - memSize.POOL_START) / memSize.bytes ≤ memSize.slices - 1 := by
    apply Nat.div_le_of_le_mul
    rw [Nat.mul_comm]
    unfold BSTJSON_MEMORY_SIZE.POOL_END at hend
    omega
  refine ⟨by omega, ?_⟩
  unfold BSTJSON_MEMORY_SIZE.buffer
  omega

theorem memory_free_foreign {offset : Nat} (pool : MemoryPool)
    (hforeign : ∀ memSize : BSTJSON_MEMORY_SIZE, ∀ index < memSize.slices,
      offset ≠ memSize.buffer index) :
    (bstjson_memory_free (some offset) pool).1 ≠ .SUCCESS ∧
      (bstjson_memory_free (some offset) pool).2 = pool := by
  have hmod : ∀ memSize : BSTJSON_MEMORY_SIZE, memSize.POOL_START ≤ offset →
      offset ≤ memSize.POOL_END → (offset - memSize.POOL_START) % memSize.bytes ≠ 0 := by
    intro memSize hstart hend hzero
    have hslice := slice_of_offset hstart hend hzero
    exact hforeign memSize _ hslice.1 hslice.2.symm
  unfold bstjson_memory_free
  dsimp only
  split_ifs with hrange hsmall hlarge
  · rw [return_slice, if_pos (hmod .RESPONSE (Nat.zero_le _) hsmall)]
    exact ⟨by simp, rfl⟩
  · have hstart : BSTJSON_MEMORY_SIZE.POOL_START .REPORT ≤ offset :=
      (hrange.resolve_left hsmall).1
    rw [return_slice, if_pos (hmod .REPORT hstart hlarge)]
    exact ⟨by simp, rfl⟩
  · exact ⟨by simp, rfl⟩
  · exact ⟨by simp, rfl⟩

theorem freeSlice_free (h : pool.freeSlice memSize = some index) :
    index < memSize.slices ∧ pool.inUse memSize index = false := Pool.firstFree_free h

-- What is allocated and freed again leaves the pool as it was.
theorem give_take_slice (h : pool.freeSlice memSize = some index) :
    (pool.take memSize index).give memSize index = pool := by
  simp only [MemoryPool.give, MemoryPool.take, Function.update_self, Function.update_idem]
  rw [Pool.give_take (freeSlice_free h).2, Function.update_eq_self]

theorem take_inUse_self (pool : MemoryPool) (memSize : BSTJSON_MEMORY_SIZE) (index : Nat) :
    (pool.take memSize index).inUse memSize = Pool.take (pool.inUse memSize) index :=
  Function.update_self memSize _ pool.inUse

theorem take_inUse_of_ne (pool : MemoryPool) {memSize other : BSTJSON_MEMORY_SIZE}
    (hother : other ≠ memSize) (index : Nat) :
    (pool.take memSize index).inUse other = pool.inUse other :=
  Function.update_of_ne hother _ pool.inUse

theorem freeSlices_take (h : pool.freeSlice memSize = some index) :
    (pool.take memSize index).freeSlices + 1 = pool.freeSlices := by
  have hcard := Pool.free_card_take h
  unfold MemoryPool.freeSlices
  cases memSize with
  | RESPONSE =>
      rw [take_inUse_self, take_inUse_of_ne pool (by decide)]
      omega
  | REPORT =>
      rw [take_inUse_self, take_inUse_of_ne pool (by decide)]
      omega

end Slices

end BroadView.Bst
