import BroadView.Bst.Memory.Slices
import Mathlib.Order.CompletePartialOrder
import Mathlib.Tactic.ByContra

namespace BroadView.Bst.Bufpool

open Transition

section Addresses

variable {place : Placement} {memSize : BSTJSON_MEMORY_SIZE} {index : Nat} {pointer : UInt64}

theorem buffer_within (hindex : index < memSize.slices) :
    memSize.POOL_START ≤ memSize.buffer index ∧
      memSize.buffer index + memSize.bytes ≤ POOL_BYTES := by
  have hnext : (index + 1) * memSize.bytes ≤ memSize.slices * memSize.bytes :=
    Nat.mul_le_mul_right _ hindex
  have hslices : memSize.POOL_START + memSize.slices * memSize.bytes ≤ POOL_BYTES := by
    cases memSize <;> decide
  rw [Nat.add_mul, Nat.one_mul] at hnext
  unfold BSTJSON_MEMORY_SIZE.buffer
  omega

theorem address_toNat {offset : Nat} (hoffset : offset < POOL_BYTES) :
    (UInt64.ofNat (place.start + offset)).toNat = place.start + offset := by
  have hfits := place.addressable
  exact UInt64.toNat_ofNat_of_lt' (by change _ < 2 ^ 64; omega)

theorem buffer_toNat (hindex : index < memSize.slices) :
    (place.buffer memSize index).toNat = place.start + memSize.buffer index := by
  have hbytes := bytes_pos memSize
  have hwithin := buffer_within hindex
  exact address_toNat (by omega)

theorem pool_start_toNat (place : Placement) (memSize : BSTJSON_MEMORY_SIZE) :
    (place.POOL_START memSize).toNat = place.start + memSize.POOL_START :=
  address_toNat (by cases memSize <;> decide)

theorem pool_end_toNat (place : Placement) (memSize : BSTJSON_MEMORY_SIZE) :
    (place.POOL_END memSize).toNat = place.start + memSize.POOL_END := by
  have hfits := place.addressable
  have hoffset : memSize.POOL_END < POOL_BYTES := by cases memSize <;> decide
  have hsize : (memSize.slices - 1) * memSize.bytes < 2 ^ 64 := by cases memSize <;> decide
  have hlast : (UInt64.ofNat ((memSize.slices - 1) * memSize.bytes)).toNat =
      (memSize.slices - 1) * memSize.bytes := UInt64.toNat_ofNat_of_lt' hsize
  unfold BSTJSON_MEMORY_SIZE.POOL_END at hoffset ⊢
  rw [Placement.POOL_END, UInt64.toNat_add, pool_start_toNat, hlast, Nat.mod_eq_of_lt (by omega)]
  omega

-- Two slices of the pools share a byte only if they are the same slice.
theorem slices_apart {other : BSTJSON_MEMORY_SIZE} {slot : Nat} (hindex : index < memSize.slices)
    (hslot : slot < other.slices) (hne : (memSize, index) ≠ (other, slot)) :
    memSize.buffer index + memSize.bytes ≤ other.buffer slot ∨
      other.buffer slot + other.bytes ≤ memSize.buffer index := by
  have hsmall : ∀ slot < BSTJSON_MEMORY_SIZE.slices .RESPONSE,
      BSTJSON_MEMORY_SIZE.buffer .RESPONSE slot + BSTJSON_MEMORY_SIZE.bytes .RESPONSE ≤
        BSTJSON_MEMORY_SIZE.POOL_START .REPORT := by decide
  by_cases hother : memSize = other
  · subst hother
    have hslots : index ≠ slot := fun heq => hne (by rw [heq])
    unfold BSTJSON_MEMORY_SIZE.buffer
    rcases Nat.lt_or_gt_of_ne hslots with hlt | hgt
    · have hmul : (index + 1) * memSize.bytes ≤ slot * memSize.bytes :=
        Nat.mul_le_mul_right _ hlt
      rw [Nat.add_mul, Nat.one_mul] at hmul
      omega
    · have hmul : (slot + 1) * memSize.bytes ≤ index * memSize.bytes :=
        Nat.mul_le_mul_right _ hgt
      rw [Nat.add_mul, Nat.one_mul] at hmul
      omega
  · have hlarge := fun {index : Nat} (h : index < BSTJSON_MEMORY_SIZE.slices .REPORT) =>
      (buffer_within h).1
    cases memSize with
    | RESPONSE =>
        cases other with
        | RESPONSE => exact absurd rfl hother
        | REPORT => exact Or.inl ((hsmall index hindex).trans (hlarge hslot))
    | REPORT =>
        cases other with
        | RESPONSE => exact Or.inr ((hsmall slot hslot).trans (hlarge hindex))
        | REPORT => exact absurd rfl hother

theorem buffer_inj {other : BSTJSON_MEMORY_SIZE} {slot : Nat} (hindex : index < memSize.slices)
    (hslot : slot < other.slices) (heq : place.buffer memSize index = place.buffer other slot) :
    memSize = other ∧ index = slot := by
  by_contra hne
  have hne' : (memSize, index) ≠ (other, slot) := fun h => hne (Prod.mk.inj h)
  have hnat : (place.buffer memSize index).toNat = (place.buffer other slot).toNat := by rw [heq]
  rw [buffer_toNat hindex, buffer_toNat hslot] at hnat
  have hbytes := bytes_pos memSize
  have hbytes' := bytes_pos other
  rcases slices_apart hindex hslot hne' with h | h <;> omega

end Addresses

section Free

variable {place : Placement} {memSize : BSTJSON_MEMORY_SIZE} {index : Nat} {pointer : UInt64}
  (pool : BUFPOOL place)

-- A pointer that is the start of no slice.
def Foreign (place : Placement) (pointer : UInt64) : Prop :=
  ∀ memSize : BSTJSON_MEMORY_SIZE, ∀ index < memSize.slices, pointer ≠ place.buffer memSize index

theorem return_slice_eq (hstart : place.POOL_START memSize ≤ pointer)
    (hend : pointer ≤ place.POOL_END memSize) :
    return_slice memSize pointer pool =
      if (pointer.toNat - place.start - memSize.POOL_START) % memSize.bytes = 0 then
        (.SUCCESS, pool.given memSize
          ((pointer.toNat - place.start - memSize.POOL_START) / memSize.bytes))
      else (.INVALID_MEMORY, pool) := by
  have htemp : (pointer - place.POOL_START memSize).toNat =
      pointer.toNat - place.start - memSize.POOL_START := by
    rw [UInt64.toNat_sub_of_le _ _ hstart, pool_start_toNat]
    omega
  rw [UInt64.le_iff_toNat_le, pool_start_toNat] at hstart
  rw [UInt64.le_iff_toNat_le, pool_end_toNat] at hend
  have hbytes : (UInt64.ofNat memSize.bytes).toNat = memSize.bytes :=
    UInt64.toNat_ofNat_of_lt' (by cases memSize <;> decide)
  have hmod : (pointer - place.POOL_START memSize) % UInt64.ofNat memSize.bytes = 0 ↔
      (pointer.toNat - place.start - memSize.POOL_START) % memSize.bytes = 0 := by
    rw [← UInt64.toNat_inj, UInt64.toNat_mod, htemp, hbytes]
    rfl
  have hdiv : ((pointer - place.POOL_START memSize) / UInt64.ofNat memSize.bytes).toNat =
      (pointer.toNat - place.start - memSize.POOL_START) / memSize.bytes := by
    rw [UInt64.toNat_div, htemp, hbytes]
  unfold return_slice
  simp only [ne_eq, hmod, hdiv]
  by_cases hzero : (pointer.toNat - place.start - memSize.POOL_START) % memSize.bytes = 0
  · have hslice := @slice_of_offset memSize (pointer.toNat - place.start) (by omega) (by omega)
      hzero
    have hbuffer : place.buffer memSize
        ((pointer.toNat - place.start - memSize.POOL_START) / memSize.bytes) = pointer := by
      rw [← UInt64.toNat_inj, buffer_toNat hslice.1, hslice.2]
      omega
    simp only [hzero, not_true_eq_false, if_true, if_false, pool.buffers, hbuffer]
  · simp only [hzero, not_false_eq_true, if_true, if_false]

theorem free_in_range (hstart : place.POOL_START memSize ≤ pointer)
    (hend : pointer ≤ place.POOL_END memSize) :
    bstjson_memory_free pointer pool = return_slice memSize pointer pool := by
  have hpointer : pointer ≠ 0 := by
    rintro rfl
    rw [UInt64.le_iff_toNat_le, pool_start_toNat] at hstart
    have hnull := place.not_null
    have hzero : (0 : UInt64).toNat = 0 := rfl
    omega
  unfold bstjson_memory_free
  cases memSize with
  | RESPONSE =>
      simp only [hpointer, hstart, hend, and_self, true_or, not_true_eq_false, if_true, if_false]
  | REPORT =>
      have hlarge : ¬ pointer ≤ place.POOL_END .RESPONSE := by
        have hapart : BSTJSON_MEMORY_SIZE.POOL_END .RESPONSE <
            BSTJSON_MEMORY_SIZE.POOL_START .REPORT := by decide
        rw [UInt64.le_iff_toNat_le, pool_start_toNat] at hstart
        rw [UInt64.le_iff_toNat_le, pool_end_toNat]
        omega
      simp only [hpointer, hstart, hend, hlarge, and_self, or_true, not_true_eq_false, if_true,
        if_false]

theorem free_out_of_range
    (hrange : ∀ memSize, ¬ (place.POOL_START memSize ≤ pointer ∧
      pointer ≤ place.POOL_END memSize)) :
    bstjson_memory_free pointer pool = (.INVALID_PARAMETER, pool) := by
  unfold bstjson_memory_free
  by_cases hpointer : pointer = 0
  · rw [if_pos hpointer]
  · rw [if_neg hpointer, if_pos (not_or.mpr ⟨hrange .RESPONSE, hrange .REPORT⟩)]

-- The start of a slice is recognized.
theorem free_buffer (hindex : index < memSize.slices) :
    bstjson_memory_free (place.buffer memSize index) pool =
      (.SUCCESS, pool.given memSize index) := by
  have hlast : index * memSize.bytes ≤ (memSize.slices - 1) * memSize.bytes :=
    Nat.mul_le_mul_right _ (by omega)
  have haddress := @buffer_toNat place memSize index hindex
  unfold BSTJSON_MEMORY_SIZE.buffer at haddress
  have hstart : place.POOL_START memSize ≤ place.buffer memSize index := by
    rw [UInt64.le_iff_toNat_le, pool_start_toNat]
    omega
  have hend : place.buffer memSize index ≤ place.POOL_END memSize := by
    rw [UInt64.le_iff_toNat_le, pool_end_toNat, BSTJSON_MEMORY_SIZE.POOL_END]
    omega
  have htemp : (place.buffer memSize index).toNat - place.start - memSize.POOL_START =
      index * memSize.bytes := by omega
  rw [free_in_range pool hstart hend, return_slice_eq pool hstart hend, htemp, Nat.mul_mod_left,
    Nat.mul_div_cancel index (bytes_pos memSize), if_pos rfl]

theorem free_foreign (hforeign : Foreign place pointer) :
    (bstjson_memory_free pointer pool).1 ≠ .SUCCESS ∧
      (bstjson_memory_free pointer pool).2 = pool := by
  by_cases hrange : ∃ memSize, place.POOL_START memSize ≤ pointer ∧
      pointer ≤ place.POOL_END memSize
  · obtain ⟨memSize, hstart, hend⟩ := hrange
    have hmod : (pointer.toNat - place.start - memSize.POOL_START) % memSize.bytes ≠ 0 := by
      intro hzero
      have hlow := hstart
      have hhigh := hend
      rw [UInt64.le_iff_toNat_le, pool_start_toNat] at hlow
      rw [UInt64.le_iff_toNat_le, pool_end_toNat] at hhigh
      have hslice := @slice_of_offset memSize (pointer.toNat - place.start) (by omega) (by omega)
        hzero
      apply hforeign memSize _ hslice.1
      rw [← UInt64.toNat_inj, buffer_toNat hslice.1, hslice.2]
      omega
    rw [free_in_range pool hstart hend, return_slice_eq pool hstart hend, if_neg hmod]
    exact ⟨by simp, rfl⟩
  · rw [free_out_of_range pool (not_exists.mp hrange)]
    exact ⟨by simp, rfl⟩

end Free

section Refinement

variable {place : Placement} (pool : BUFPOOL place) (memSize : BSTJSON_MEMORY_SIZE) (index : Nat)

theorem set_slices_self (size : BSTJSON_MEMORY_SIZE) (inUse : Bool) (timeTaken : Int) :
    ((pool.set memSize index size inUse timeTaken).slices memSize index) =
      ⟨place.buffer memSize index, size, inUse, timeTaken⟩ := by
  simp [BUFPOOL.set, pool.buffers]

theorem set_slices_of_ne {other : BSTJSON_MEMORY_SIZE} {slot : Nat}
    (hne : (other, slot) ≠ (memSize, index)) (size : BSTJSON_MEMORY_SIZE) (inUse : Bool)
    (timeTaken : Int) :
    (pool.set memSize index size inUse timeTaken).slices other slot = pool.slices other slot := by
  by_cases hother : other = memSize
  · subst hother
    have hslot : slot ≠ index := fun heq => hne (by rw [heq])
    simp [BUFPOOL.set, hslot]
  · simp [BUFPOOL.set, hother]

theorem usage_set (size : BSTJSON_MEMORY_SIZE) (inUse : Bool) (timeTaken : Int) :
    (pool.set memSize index size inUse timeTaken).usage =
      ⟨Function.update pool.usage.inUse memSize
        (Function.update (pool.usage.inUse memSize) index inUse)⟩ := by
  unfold BUFPOOL.usage
  congr 1
  funext other slot
  by_cases hother : other = memSize
  · subst hother
    by_cases hslot : slot = index
    · subst hslot
      simp [BUFPOOL.set]
    · simp [BUFPOOL.set, hslot]
  · simp [BUFPOOL.set, hother]

theorem usage_taken (now : Int) :
    (pool.taken memSize index now).usage = pool.usage.take memSize index :=
  usage_set pool memSize index _ _ _

theorem usage_given : (pool.given memSize index).usage = pool.usage.give memSize index :=
  usage_set pool memSize index _ _ _

-- The usage of the slices behaves as in the pool without addresses.
theorem allocate_refines (now : Int) :
    (bstjson_memory_allocate memSize now pool).1 =
        (Bst.bstjson_memory_allocate memSize pool.usage).1 ∧
      (bstjson_memory_allocate memSize now pool).2.1 =
        (Bst.bstjson_memory_allocate memSize pool.usage).2.1.map
          (fun offset => UInt64.ofNat (place.start + offset)) ∧
      (bstjson_memory_allocate memSize now pool).2.2.usage =
        (Bst.bstjson_memory_allocate memSize pool.usage).2.2 := by
  unfold bstjson_memory_allocate Bst.bstjson_memory_allocate
  cases hfree : pool.usage.freeSlice memSize with
  | none => exact ⟨rfl, rfl, rfl⟩
  | some index =>
      exact ⟨rfl, congrArg some (pool.buffers memSize index), usage_taken pool memSize index now⟩

theorem free_refines {offset : Nat} (hoffset : place.start + offset < 2 ^ 64) :
    ((bstjson_memory_free (UInt64.ofNat (place.start + offset)) pool).1 = .SUCCESS ↔
        (Bst.bstjson_memory_free (some offset) pool.usage).1 = .SUCCESS) ∧
      (bstjson_memory_free (UInt64.ofNat (place.start + offset)) pool).2.usage =
        (Bst.bstjson_memory_free (some offset) pool.usage).2 := by
  by_cases hslice : ∃ memSize : BSTJSON_MEMORY_SIZE, ∃ index < memSize.slices,
      offset = memSize.buffer index
  · obtain ⟨memSize, index, hindex, rfl⟩ := hslice
    rw [show UInt64.ofNat _ = place.buffer memSize index from rfl, free_buffer pool hindex,
      memory_free_buffer pool.usage hindex]
    exact ⟨Iff.rfl, usage_given pool memSize index⟩
  · have hoffsets : ∀ memSize : BSTJSON_MEMORY_SIZE, ∀ index < memSize.slices,
        offset ≠ memSize.buffer index :=
      fun memSize index hindex heq => hslice ⟨memSize, index, hindex, heq⟩
    have hforeign : Foreign place (UInt64.ofNat (place.start + offset)) := by
      intro memSize index hindex heq
      have hnat := congrArg UInt64.toNat heq
      rw [buffer_toNat hindex, UInt64.toNat_ofNat_of_lt' hoffset] at hnat
      exact hoffsets memSize index hindex (by omega)
    have habs := free_foreign pool hforeign
    have hrel := memory_free_foreign pool.usage hoffsets
    rw [habs.2, hrel.2]
    exact ⟨iff_of_false habs.1 hrel.1, rfl⟩

end Refinement

section Allocator

variable {place : Placement} {client : Client place}

-- What the pool calls in use is what was handed out and is not freed yet.
structure Tracked (client : Client place) : Prop where
  once : client.live.Nodup
  live_iff : ∀ memSize pointer, (memSize, pointer) ∈ client.live ↔
    ∃ index < memSize.slices, pointer = place.buffer memSize index ∧
      (client.pool.slices memSize index).inUse = true

theorem allocate_some {memSize : BSTJSON_MEMORY_SIZE} {pool : BUFPOOL place} {index : Nat}
    (now : Int) (hfree : pool.usage.freeSlice memSize = some index) :
    bstjson_memory_allocate memSize now pool =
      (.SUCCESS, some (place.buffer memSize index), pool.taken memSize index now) := by
  rw [bstjson_memory_allocate, hfree, ← pool.buffers]

theorem allocate_none {memSize : BSTJSON_MEMORY_SIZE} {pool : BUFPOOL place}
    (now : Int) (hfree : pool.usage.freeSlice memSize = none) :
    bstjson_memory_allocate memSize now pool = (.OUTOFMEMORY, none, pool) := by
  rw [bstjson_memory_allocate, hfree]

theorem tracked_start (place : Placement) : Tracked (Client.start place) where
  once := List.nodup_nil
  live_iff := by
    intro memSize pointer
    simp [Client.start, bstjson_memory_init]

theorem tracked_allocate (htracked : Tracked client) (memSize : BSTJSON_MEMORY_SIZE) (now : Int) :
    Tracked (step client (.allocate memSize now)) := by
  cases hfree : client.pool.usage.freeSlice memSize with
  | none =>
      simp only [step, allocate_none now hfree]
      exact htracked
  | some index =>
      obtain ⟨hindex, hunused⟩ := freeSlice_free hfree
      have hfresh : (memSize, place.buffer memSize index) ∉ client.live := by
        intro hmem
        obtain ⟨slot, hslot, hbuffer, hused⟩ := (htracked.live_iff _ _).mp hmem
        have hsame := (buffer_inj hindex hslot hbuffer).2
        subst hsame
        exact Bool.false_ne_true (hunused.symm.trans hused)
      simp only [step, allocate_some now hfree]
      refine ⟨List.nodup_cons.mpr ⟨hfresh, htracked.once⟩, ?_⟩
      intro other pointer
      simp only [List.mem_cons, htracked.live_iff, Prod.mk.injEq]
      constructor
      · rintro (⟨rfl, rfl⟩ | ⟨slot, hslot, rfl, hused⟩)
        · exact ⟨index, hindex, rfl, by rw [BUFPOOL.taken, set_slices_self]⟩
        · refine ⟨slot, hslot, rfl, ?_⟩
          by_cases hsame : (other, slot) = (memSize, index)
          · cases hsame
            rw [BUFPOOL.taken, set_slices_self]
          · rw [BUFPOOL.taken, set_slices_of_ne _ _ _ hsame]
            exact hused
      · rintro ⟨slot, hslot, rfl, hused⟩
        by_cases hsame : (other, slot) = (memSize, index)
        · cases hsame
          exact Or.inl ⟨rfl, rfl⟩
        · rw [BUFPOOL.taken, set_slices_of_ne _ _ _ hsame] at hused
          exact Or.inr ⟨slot, hslot, rfl, hused⟩

theorem tracked_free (htracked : Tracked client) (pointer : UInt64) :
    Tracked (step client (.free pointer)) := by
  by_cases hslice : ∃ memSize : BSTJSON_MEMORY_SIZE, ∃ index < memSize.slices,
      pointer = place.buffer memSize index
  · obtain ⟨memSize, index, hindex, rfl⟩ := hslice
    simp only [step, free_buffer client.pool hindex]
    refine ⟨htracked.once.filter _, ?_⟩
    intro other pointer
    simp only [List.mem_filter, htracked.live_iff, ne_eq, decide_not, Bool.not_eq_true',
      decide_eq_false_iff_not]
    constructor
    · rintro ⟨⟨slot, hslot, rfl, hused⟩, hother⟩
      have hne : (other, slot) ≠ (memSize, index) := by
        intro heq
        cases heq
        exact hother rfl
      exact ⟨slot, hslot, rfl, by rwa [BUFPOOL.given, set_slices_of_ne _ _ _ hne]⟩
    · rintro ⟨slot, hslot, rfl, hused⟩
      have hne : (other, slot) ≠ (memSize, index) := by
        intro heq
        cases heq
        rw [BUFPOOL.given, set_slices_self] at hused
        exact Bool.false_ne_true hused
      rw [BUFPOOL.given, set_slices_of_ne _ _ _ hne] at hused
      refine ⟨⟨slot, hslot, rfl, hused⟩, fun heq => hne ?_⟩
      obtain ⟨rfl, rfl⟩ := buffer_inj hslot hindex heq
      rfl
  · have hforeign : Foreign place pointer :=
      fun memSize index hindex heq => hslice ⟨memSize, index, hindex, heq⟩
    have hfree := free_foreign client.pool hforeign
    have hstep : step client (.free pointer) = client := by
      simp only [step]
      split
      · next hresult => exact absurd (congrArg Prod.fst hresult) hfree.1
      · next status pool _ hresult =>
          have hpool : pool = client.pool := (congrArg Prod.snd hresult).symm.trans hfree.2
          rw [hpool]
    rw [hstep]
    exact htracked

theorem tracked_run (place : Placement) (calls : List Call) :
    Tracked (run step (Client.start place) calls) := by
  have halong : Along step (fun _ _ => True) (Client.start place) calls :=
    along_of_forall (fun _ _ => trivial) _ _
  refine run_invariant Tracked (fun client call htracked _ => ?_) _ calls (tracked_start place)
    halong
  cases call with
  | allocate memSize now => exact tracked_allocate htracked memSize now
  | free pointer => exact tracked_free htracked pointer

-- The slice is handed out and marked, and no other slice changes.
structure HandsOut (memSize : BSTJSON_MEMORY_SIZE) (index : Nat) (before : BUFPOOL place)
    (result : Option UInt64 × BUFPOOL place) : Prop where
  buffer : result.1 = some (place.buffer memSize index)
  marked : (result.2.slices memSize index).inUse = true
  others : ∀ other slot, (other, slot) ≠ (memSize, index) →
    result.2.slices other slot = before.slices other slot

-- What the callers of the pool rely on.
structure Allocates (client : Client place) : Prop where
  disjoint : client.live.Pairwise fun buffer other => Disjoint (bytesOf buffer) (bytesOf other)
  within : ∀ buffer ∈ client.live, ∃ index < buffer.1.slices,
    buffer.2 = place.buffer buffer.1 index ∧
      bytesOf buffer ⊆ Set.Ico place.start (place.start + POOL_BYTES)
  in_use_iff : ∀ memSize, ∀ index < memSize.slices,
    (client.pool.slices memSize index).inUse = true ↔
      (memSize, place.buffer memSize index) ∈ client.live
  refused_iff : ∀ memSize now, (bstjson_memory_allocate memSize now client.pool).1 ≠ .SUCCESS ↔
    ∀ index < memSize.slices, (client.pool.slices memSize index).inUse = true
  refused : ∀ memSize now, (bstjson_memory_allocate memSize now client.pool).1 ≠ .SUCCESS →
    (bstjson_memory_allocate memSize now client.pool).2 = (none, client.pool)
  allocated : ∀ memSize now, (bstjson_memory_allocate memSize now client.pool).1 = .SUCCESS →
    ∃ index < memSize.slices, (client.pool.slices memSize index).inUse = false ∧
      HandsOut memSize index client.pool (bstjson_memory_allocate memSize now client.pool).2
  rejected : ∀ pointer, Foreign place pointer →
    (bstjson_memory_free pointer client.pool).1 ≠ .SUCCESS ∧
      (bstjson_memory_free pointer client.pool).2 = client.pool
  freed : ∀ memSize, ∀ index < memSize.slices,
    (bstjson_memory_free (place.buffer memSize index) client.pool).1 = .SUCCESS ∧
      ((bstjson_memory_free (place.buffer memSize index) client.pool).2.slices memSize
        index).inUse = false ∧
      ∀ other slot, (other, slot) ≠ (memSize, index) →
        (bstjson_memory_free (place.buffer memSize index) client.pool).2.slices other slot =
          client.pool.slices other slot

theorem bytes_within {buffer : BSTJSON_MEMORY_SIZE × UInt64} {index : Nat}
    (hindex : index < buffer.1.slices) (hbuffer : buffer.2 = place.buffer buffer.1 index) :
    bytesOf buffer ⊆ Set.Ico place.start (place.start + POOL_BYTES) := by
  have hwithin := buffer_within hindex
  rw [bytesOf, hbuffer, buffer_toNat hindex]
  apply Set.Ico_subset_Ico <;> omega

theorem bytes_disjoint {memSize other : BSTJSON_MEMORY_SIZE} {index slot : Nat}
    (hindex : index < memSize.slices) (hslot : slot < other.slices)
    (hne : (memSize, index) ≠ (other, slot)) :
    Disjoint (bytesOf (memSize, place.buffer memSize index))
      (bytesOf (other, place.buffer other slot)) := by
  unfold bytesOf
  simp only [buffer_toNat hindex, buffer_toNat hslot]
  rw [Set.Ico_disjoint_Ico]
  rcases slices_apart hindex hslot hne with h | h <;> omega

theorem refused_iff (pool : BUFPOOL place) (memSize : BSTJSON_MEMORY_SIZE) (now : Int) :
    (bstjson_memory_allocate memSize now pool).1 ≠ .SUCCESS ↔
      ∀ index < memSize.slices, (pool.slices memSize index).inUse = true := by
  have hnone : pool.usage.freeSlice memSize = none ↔
      ∀ index < memSize.slices, (pool.slices memSize index).inUse = true :=
    Pool.firstFree_none_iff
  rw [← hnone]
  cases hfree : pool.usage.freeSlice memSize with
  | none => simp [allocate_none now hfree]
  | some index => simp [allocate_some now hfree]

theorem allocate_refused {pool : BUFPOOL place} {memSize : BSTJSON_MEMORY_SIZE} {now : Int}
    (h : (bstjson_memory_allocate memSize now pool).1 ≠ .SUCCESS) :
    (bstjson_memory_allocate memSize now pool).2 = (none, pool) := by
  cases hfree : pool.usage.freeSlice memSize with
  | none => rw [allocate_none now hfree]
  | some index =>
      rw [allocate_some now hfree] at h
      exact absurd rfl h

theorem allocate_handsOut {pool : BUFPOOL place} {memSize : BSTJSON_MEMORY_SIZE} {now : Int}
    (h : (bstjson_memory_allocate memSize now pool).1 = .SUCCESS) :
    ∃ index < memSize.slices, (pool.slices memSize index).inUse = false ∧
      HandsOut memSize index pool (bstjson_memory_allocate memSize now pool).2 := by
  cases hfree : pool.usage.freeSlice memSize with
  | none =>
      rw [allocate_none now hfree] at h
      cases h
  | some index =>
      obtain ⟨hindex, hunused⟩ := Pool.firstFree_free hfree
      refine ⟨index, hindex, hunused, ?_⟩
      rw [allocate_some now hfree]
      refine ⟨rfl, ?_, fun other slot hne => ?_⟩
      · rw [BUFPOOL.taken, set_slices_self]
      · rw [BUFPOOL.taken, set_slices_of_ne _ _ _ hne]

theorem bstjson_memory_allocates (place : Placement) (calls : List Call) :
    Allocates (run step (Client.start place) calls) := by
  have htracked := tracked_run place calls
  generalize run step (Client.start place) calls = client at htracked
  refine ⟨?_, ?_, ?_, fun memSize now => refused_iff client.pool memSize now,
    fun _ _ => allocate_refused, fun _ _ => allocate_handsOut,
    fun pointer hforeign => free_foreign client.pool hforeign, ?_⟩
  · refine List.Pairwise.imp_of_mem ?_ htracked.once
    rintro ⟨memSize, pointer⟩ ⟨other, pointer'⟩ hmem hmem' hne
    obtain ⟨index, hindex, rfl, -⟩ := (htracked.live_iff _ _).mp hmem
    obtain ⟨slot, hslot, rfl, -⟩ := (htracked.live_iff _ _).mp hmem'
    refine bytes_disjoint hindex hslot fun heq => hne ?_
    cases heq
    rfl
  · rintro ⟨memSize, pointer⟩ hmem
    obtain ⟨index, hindex, hbuffer, -⟩ := (htracked.live_iff _ _).mp hmem
    exact ⟨index, hindex, hbuffer, bytes_within hindex hbuffer⟩
  · intro memSize index hindex
    rw [htracked.live_iff]
    constructor
    · intro hused
      exact ⟨index, hindex, rfl, hused⟩
    · rintro ⟨slot, hslot, hbuffer, hused⟩
      rwa [(buffer_inj hindex hslot hbuffer).2]
  · intro memSize index hindex
    rw [free_buffer client.pool hindex]
    refine ⟨rfl, by rw [BUFPOOL.given, set_slices_self], fun other slot hne => ?_⟩
    exact set_slices_of_ne client.pool memSize index hne _ _ _

-- Two responses and a report are allocated, and the first response is freed.
def sampleCalls : List Call :=
  [.allocate .RESPONSE 1, .allocate .REPORT 2, .allocate .RESPONSE 3,
    .free ((default : Placement).buffer .RESPONSE 0)]

theorem buffers_live :
    Allocates (run step (Client.start default) sampleCalls) ∧
      (run step (Client.start default) sampleCalls).live =
        [(.RESPONSE, (default : Placement).buffer .RESPONSE 1),
          (.REPORT, (default : Placement).buffer .REPORT 0)] :=
  ⟨bstjson_memory_allocates default sampleCalls, by decide +kernel⟩

end Allocator

end BroadView.Bst.Bufpool
