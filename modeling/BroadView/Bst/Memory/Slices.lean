import BroadView.Bst.Memory
import BroadView.Transition
import Mathlib.Order.Interval.Set.Disjoint

namespace BroadView.Bst.Bufpool

def POOL_BYTES : Nat :=
  BSTJSON_MEMORY_SIZE.POOL_START .REPORT + BUFPOOL_MAX_REPORT_SLICES * BSTJSON_MEMSIZE_REPORT

-- The address of the first byte of the pool. Every byte of the pool has an
-- address, and none of them is NULL.
structure Placement where
  start : Nat
  not_null : 0 < start
  addressable : start + POOL_BYTES ≤ 2 ^ 64

instance : Inhabited Placement := ⟨⟨4096, by decide, by decide⟩⟩

namespace Placement

variable (place : Placement) (memSize : BSTJSON_MEMORY_SIZE)

def POOL_START : UInt64 := UInt64.ofNat (place.start + memSize.POOL_START)

def POOL_END : UInt64 :=
  place.POOL_START memSize + UInt64.ofNat ((memSize.slices - 1) * memSize.bytes)

def buffer (index : Nat) : UInt64 := UInt64.ofNat (place.start + memSize.buffer index)

end Placement

structure MEMORY_SLICE where
  buffer : UInt64
  size : BSTJSON_MEMORY_SIZE
  inUse : Bool
  timeTaken : Int
  deriving DecidableEq

-- The descriptors of the two pools. The buffers that bstjson_memory_init writes
-- into them stay.
@[ext]
structure BUFPOOL (place : Placement) where
  slices : BSTJSON_MEMORY_SIZE → Nat → MEMORY_SLICE
  buffers : ∀ memSize index, (slices memSize index).buffer = place.buffer memSize index

variable {place : Placement}

namespace BUFPOOL

-- One descriptor is rewritten, its buffer apart.
def set (pool : BUFPOOL place) (memSize : BSTJSON_MEMORY_SIZE) (index : Nat)
    (size : BSTJSON_MEMORY_SIZE) (inUse : Bool) (timeTaken : Int) : BUFPOOL place where
  slices := Function.update pool.slices memSize (Function.update (pool.slices memSize) index
    { pool.slices memSize index with size, inUse, timeTaken })
  buffers := by
    intro other slot
    by_cases hother : other = memSize
    · subst hother
      by_cases hslot : slot = index
      · subst hslot
        simpa using pool.buffers other slot
      · simpa [hslot] using pool.buffers other slot
    · simpa [hother] using pool.buffers other slot

def taken (pool : BUFPOOL place) (memSize : BSTJSON_MEMORY_SIZE) (index : Nat) (now : Int) :
    BUFPOOL place := pool.set memSize index memSize true now

def given (pool : BUFPOOL place) (memSize : BSTJSON_MEMORY_SIZE) (index : Nat) : BUFPOOL place :=
  pool.set memSize index (pool.slices memSize index).size false 0

-- What the pool says about its slices, with addresses and times forgotten.
def usage (pool : BUFPOOL place) : MemoryPool :=
  { inUse := fun memSize index => (pool.slices memSize index).inUse }

end BUFPOOL

def bstjson_memory_init (place : Placement) : BUFPOOL place where
  slices := fun memSize index => ⟨place.buffer memSize index, memSize, false, 0⟩
  buffers := fun _ _ => rfl

-- now is what time() writes into the descriptor.
def bstjson_memory_allocate (memSize : BSTJSON_MEMORY_SIZE) (now : Int) (pool : BUFPOOL place) :
    BVIEW_STATUS × Option UInt64 × BUFPOOL place :=
  match pool.usage.freeSlice memSize with
  | some index =>
      (.SUCCESS, some (pool.slices memSize index).buffer, pool.taken memSize index now)
  | none => (.OUTOFMEMORY, none, pool)

-- The two halves of bstjson_memory_free differ in the pool they look at.
def return_slice (memSize : BSTJSON_MEMORY_SIZE) (pointer : UInt64) (pool : BUFPOOL place) :
    BVIEW_STATUS × BUFPOOL place :=
  let temp := pointer - place.POOL_START memSize
  if temp % UInt64.ofNat memSize.bytes ≠ 0 then (.INVALID_MEMORY, pool)
  else
    let index := (temp / UInt64.ofNat memSize.bytes).toNat
    if (pool.slices memSize index).buffer = pointer then (.SUCCESS, pool.given memSize index)
    else (.INVALID_MEMORY, pool)

def bstjson_memory_free (pointer : UInt64) (pool : BUFPOOL place) :
    BVIEW_STATUS × BUFPOOL place :=
  if pointer = 0 then (.INVALID_PARAMETER, pool)
  else if ¬ ((place.POOL_START .RESPONSE ≤ pointer ∧ pointer ≤ place.POOL_END .RESPONSE) ∨
      (place.POOL_START .REPORT ≤ pointer ∧ pointer ≤ place.POOL_END .REPORT)) then
    (.INVALID_PARAMETER, pool)
  else if pointer ≤ place.POOL_END .RESPONSE then return_slice .RESPONSE pointer pool
  else if pointer ≤ place.POOL_END .REPORT then return_slice .REPORT pointer pool
  else (.INVALID_MEMORY, pool)

inductive Call where
  | allocate (memSize : BSTJSON_MEMORY_SIZE) (now : Int)
  | free (pointer : UInt64)

-- The pool, and the buffers that were handed out and are not freed yet.
structure Client (place : Placement) where
  pool : BUFPOOL place
  live : List (BSTJSON_MEMORY_SIZE × UInt64)

def Client.start (place : Placement) : Client place := ⟨bstjson_memory_init place, []⟩

def step (client : Client place) : Call → Client place
  | .allocate memSize now =>
      match bstjson_memory_allocate memSize now client.pool with
      | (_, some buffer, pool) => { pool, live := (memSize, buffer) :: client.live }
      | (_, none, pool) => { client with pool }
  | .free pointer =>
      match bstjson_memory_free pointer client.pool with
      | (.SUCCESS, pool) => { pool, live := client.live.filter fun buffer => buffer.2 ≠ pointer }
      | (_, pool) => { client with pool }

-- The bytes of a buffer.
def bytesOf (buffer : BSTJSON_MEMORY_SIZE × UInt64) : Set Nat :=
  Set.Ico buffer.2.toNat (buffer.2.toNat + buffer.1.bytes)

end BroadView.Bst.Bufpool
