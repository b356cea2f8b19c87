import BroadView.Bst.Encoder.Bounds
import BroadView.Bst.Encoder.Response
import BroadView.Bst.System.Lemmas

namespace BroadView.Bst

open Transition Buffer

section Encoders

variable {pool : MemoryPool}

-- The report can be headed, and is written before the buffer is full.
def ReportWritten (input : ReportInput) : Prop :=
  ∃ header, report_header input = .ok header ∧
    (report_head input header).length + sections_size input < BSTJSON_MEMSIZE_REPORT

theorem report_success_iff (input : ReportInput) :
    (∃ text, bstjson_encode_get_bst_report input = .success text) ↔ ReportWritten input := by
  cases hheader : report_header input with
  | error status => simp [bstjson_encode_get_bst_report, ReportWritten, hheader]
  | ok header =>
      have hlength := sections_render_length input header (report_head_pos hheader)
      have hwritten : ReportWritten input ↔ (report_head input header).length +
          sections_size input < BSTJSON_MEMSIZE_REPORT := by simp [ReportWritten, hheader]
      rw [hwritten]
      by_cases hroom : (report_head input header).length < BSTJSON_MEMSIZE_REPORT
      · rw [encode_eq hheader hroom, outcome, hlength]
        split_ifs with hfits hends <;> simp [hfits]
      · have hover : bstjson_encode_get_bst_report input = .overrun := by
          simp only [bstjson_encode_get_bst_report, hheader]
          exact if_pos (Nat.not_lt.mp hroom)
        rw [hover]
        exact iff_of_false (by simp) (by omega)

-- A slice is taken and the encoder returns without handing it out.
def BufferLost (localtime : Int → Tm) (reply : BVIEW_BST_RESPONSE_MSG) (pool : MemoryPool) :
    Prop :=
  match reply.msg_type with
  | .GET_TRACK => (∃ data, reply.response = .track data) ∧ (pool.freeSlice .RESPONSE).isSome ∧
      sbplugin_ovsdb_system_asic_translate_to_notation reply.unit = none
  | .GET_FEATURE => (∃ data, reply.response = .config data) ∧
      (pool.freeSlice .RESPONSE).isSome ∧
      sbplugin_ovsdb_system_asic_translate_to_notation reply.unit = none
  | .GET_REPORT | .TRIGGER_REPORT | .GET_THRESHOLD => ∃ input,
      report_input localtime reply = some input ∧ (pool.freeSlice .REPORT).isSome ∧
        ¬ ReportWritten input
  | _ => False

theorem free_allocated {memSize : BSTJSON_MEMORY_SIZE} {index : Nat}
    (h : pool.freeSlice memSize = some index) :
    (bstjson_memory_free (some (memSize.buffer index)) (pool.take memSize index)).2 = pool := by
  rw [memory_free_buffer _ (freeSlice_free h).1, give_take_slice h]

theorem free_encoding_allocated {memSize : BSTJSON_MEMORY_SIZE} {index : Nat}
    (h : pool.freeSlice memSize = some index) (rv : BVIEW_STATUS) (text : List Char) :
    free_encoding
      { rv, pJsonBuffer := some (memSize.buffer index), text, pool := pool.take memSize index } =
        pool :=
  free_allocated h

-- Either the slice is back, or it is lost and fewer of them are free.
def Settles (lost : Prop) (pool : MemoryPool) (after : Option MemoryPool) : Prop :=
  (¬ lost ∧ after = some pool) ∨
    (lost ∧ ∀ pool', after = some pool' → pool'.freeSlices < pool.freeSlices)

theorem encode_config_settles (template : String) (args : List Printf.Arg) (asicId : Nat) :
    Settles ((pool.freeSlice .RESPONSE).isSome ∧
        sbplugin_ovsdb_system_asic_translate_to_notation asicId = none) pool
      (some (free_encoding (encode_config template args asicId pool))) := by
  unfold encode_config bstjson_memory_allocate
  cases hslice : pool.freeSlice .RESPONSE with
  | none => exact Or.inl ⟨by simp, rfl⟩
  | some index =>
      cases hasic : sbplugin_ovsdb_system_asic_translate_to_notation asicId with
      | none =>
          refine Or.inr ⟨⟨rfl, rfl⟩, fun pool' hpool => ?_⟩
          obtain rfl := Option.some.inj hpool
          have hfree := freeSlices_take hslice
          exact Nat.lt_of_succ_le (Nat.le_of_eq hfree)
      | some asicIdStr =>
          exact Or.inl ⟨by simp, congrArg some (free_encoding_allocated hslice .SUCCESS _)⟩

theorem encode_report_settles (input : ReportInput) :
    Settles ((pool.freeSlice .REPORT).isSome ∧ ¬ ReportWritten input) pool
      ((encode_report input pool).map free_encoding) := by
  unfold encode_report bstjson_memory_allocate
  cases hslice : pool.freeSlice .REPORT with
  | none => exact Or.inl ⟨by simp, rfl⟩
  | some index =>
      have hsuccess := report_success_iff input
      cases hencoded : bstjson_encode_get_bst_report input with
      | success text =>
          have hwritten : ReportWritten input := hsuccess.mp ⟨text, hencoded⟩
          exact Or.inl ⟨fun hlost => hlost.2 hwritten,
            congrArg some (free_encoding_allocated hslice .SUCCESS text)⟩
      | failure rv =>
          have hnot : ¬ ReportWritten input := fun hwritten => by
            obtain ⟨text, htext⟩ := hsuccess.mpr hwritten
            cases hencoded.symm.trans htext
          refine Or.inr ⟨⟨rfl, hnot⟩, fun pool' hpool => ?_⟩
          obtain rfl := Option.some.inj hpool
          have hfree := freeSlices_take hslice
          exact Nat.lt_of_succ_le (Nat.le_of_eq hfree)
      | overrun =>
          have hnot : ¬ ReportWritten input := fun hwritten => by
            obtain ⟨text, htext⟩ := hsuccess.mpr hwritten
            cases hencoded.symm.trans htext
          exact Or.inr ⟨⟨rfl, hnot⟩, fun pool' hpool => nomatch hpool⟩

theorem settles_iff {lost : Prop} {after : Option MemoryPool} (h : Settles lost pool after) :
    after = some pool ↔ ¬ lost := by
  rcases h with ⟨hkept, heq⟩ | ⟨hlost, hless⟩
  · exact iff_of_true heq hkept
  · exact iff_of_false (fun heq => Nat.lt_irrefl _ (hless pool heq)) (not_not.mpr hlost)

theorem Settles.congr {lost lost' : Prop} {after : Option MemoryPool} (hiff : lost ↔ lost')
    (h : Settles lost pool after) : Settles lost' pool after := by
  unfold Settles
  rw [← hiff]
  exact h

theorem settles_same {lost : Prop} (h : ¬ lost) : Settles lost pool (some pool) := Or.inl ⟨h, rfl⟩

theorem encode_settles (localtime : Int → Tm) (reply : BVIEW_BST_RESPONSE_MSG)
    (pool : MemoryPool) :
    Settles (BufferLost localtime reply pool) pool (encode_and_free localtime reply pool) := by
  unfold encode_and_free encode_reply BufferLost
  cases reply.msg_type with
  | GET_TRACK =>
      cases hresponse : reply.response with
      | track data => exact (encode_config_settles _ _ reply.unit).congr (by simp)
      | none | config _ | report _ _ => exact settles_same (by simp)
  | GET_FEATURE =>
      cases hresponse : reply.response with
      | config data => exact (encode_config_settles _ _ reply.unit).congr (by simp)
      | none | track _ | report _ _ => exact settles_same (by simp)
  | GET_REPORT | TRIGGER_REPORT | GET_THRESHOLD =>
      cases report_input localtime reply with
      | none => exact settles_same (by simp)
      | some input => exact (encode_report_settles input).congr (by simp)
  | _ => exact settles_same not_false

end Encoders

section Responses

variable (localtime : Int → Tm)

theorem pool_after_append (pool : Option MemoryPool) (effects effects' : List Effect) :
    pool_after localtime pool (effects ++ effects') =
      pool_after localtime (pool_after localtime pool effects) effects' :=
  List.foldl_append

theorem pool_after_quiet (pool : Option MemoryPool) {effects : List Effect}
    (h : ∀ effect ∈ effects, effect.isReply = false) :
    pool_after localtime pool effects = pool := by
  induction effects with
  | nil => rfl
  | cons effect rest ih =>
      have hrest := ih fun other hmem => h other (List.mem_cons_of_mem effect hmem)
      have hhead := h effect List.mem_cons_self
      cases effect <;> first | exact hrest | cases hhead

-- A type that is not encoded loses no buffer.
theorem lost_encoded {reply : BVIEW_BST_RESPONSE_MSG} {pool : MemoryPool}
    (hlost : BufferLost localtime reply pool) : reply.msg_type.encoded = true := by
  unfold BufferLost at hlost
  cases htype : reply.msg_type <;> simp [htype, BVIEW_BST_CMD_API.encoded] at hlost ⊢

theorem pool_after_encode (reply : BVIEW_BST_RESPONSE_MSG) (env : Env) (pool : MemoryPool) :
    pool_after localtime (some pool) (encode_and_send reply env).2 =
      encode_and_free localtime reply pool := by
  unfold encode_and_send
  split <;> rfl

def ResponseLoses (reply : BVIEW_BST_RESPONSE_MSG) (pool : MemoryPool) : Prop :=
  reply.rv = .SUCCESS ∧ BufferLost localtime reply pool

theorem response_settles (reply : BVIEW_BST_RESPONSE_MSG) (env : Env) (pool : MemoryPool) :
    Settles (ResponseLoses localtime reply pool) pool
      (pool_after localtime (some pool) (bst_send_response reply env).2) := by
  have hencode : reply.rv = .SUCCESS → Settles (ResponseLoses localtime reply pool) pool
      (pool_after localtime (some pool) (encode_and_send reply env).2) := fun hrv => by
    rw [pool_after_encode]
    exact (encode_settles localtime reply pool).congr (and_iff_right hrv).symm
  unfold bst_send_response
  split_ifs with hrv
  · exact settles_same fun hlost => hrv hlost.1
  · have hencoded := @lost_encoded localtime reply pool
    cases htype : reply.msg_type with
    | GET_TRACK | GET_FEATURE | GET_REPORT | TRIGGER_REPORT | GET_THRESHOLD =>
        exact hencode (not_not.mp hrv)
    | _ =>
        refine settles_same fun hlost => ?_
        have hbody := hencoded hlost.2
        rw [htype] at hbody
        cases hbody

end Responses

section Runs

variable (localtime : Int → Tm) (num_units : Nat)

-- An action sends one reply at most, after what its handler does.
theorem emits_reply (state : BVIEW_BST_CXT) (act : Action) :
    ∃ quiet, (∀ effect ∈ quiet, effect.isReply = false) ∧
      (emits num_units state act = quiet ∨
        ∃ reply env, emits num_units state act = quiet ++ (bst_send_response reply env).2) := by
  unfold emits
  split
  · next unitAct htaken =>
      refine ⟨_, handled_no_reply (state.unit unitAct.msg.unit) unitAct, ?_⟩
      rw [unitEmits_eq]
      split_ifs
      · exact Or.inr ⟨_, _, rfl⟩
      · exact Or.inl (List.append_nil _)
  · refine ⟨[], by simp, ?_⟩
    split
    · exact Or.inr ⟨_, _, (List.nil_append _).symm⟩
    · exact Or.inl rfl

-- A reply of the action loses its buffer.
def ActionLoses (state : BVIEW_BST_CXT) (act : Action) (pool : MemoryPool) : Prop :=
  ∃ reply, .encode reply ∈ emits num_units state act ∧ BufferLost localtime reply pool

theorem emits_settles (state : BVIEW_BST_CXT) (act : Action) (pool : MemoryPool) :
    Settles (ActionLoses localtime num_units state act pool) pool
      (pool_after localtime (some pool) (emits num_units state act)) := by
  obtain ⟨quiet, hquiet, hemits⟩ := emits_reply num_units state act
  have hnot : ∀ reply, .encode reply ∉ quiet := fun reply hmem => by
    cases hquiet _ hmem
  rcases hemits with hemits | ⟨reply, env, hemits⟩
  · rw [hemits, pool_after_quiet localtime _ hquiet]
    refine settles_same fun hlost => ?_
    obtain ⟨reply, hmem, -⟩ := hlost
    exact hnot reply (hemits ▸ hmem)
  · have hiff : ResponseLoses localtime reply pool ↔
        ActionLoses localtime num_units state act pool := by
      unfold ActionLoses ResponseLoses
      simp only [hemits, List.mem_append, hnot, false_or, mem_send_response_encode]
      constructor
      · exact fun hlost => ⟨reply, ⟨hlost.1, lost_encoded localtime hlost.2, rfl⟩, hlost.2⟩
      · rintro ⟨sent, ⟨hrv, -, rfl⟩, hlost⟩
        exact ⟨hrv, hlost⟩
    rw [hemits, pool_after_append, pool_after_quiet localtime _ hquiet]
    exact (response_settles localtime reply env pool).congr hiff

-- The application together with its buffer pool.
abbrev PooledState := BVIEW_BST_CXT × Option MemoryPool

def pooledStep : PooledState → Action → PooledState :=
  watch (step num_units) (emits num_units) (use_pool localtime)

-- No action leaves fewer slices free than it found.
def FreeKept (s : PooledState) (act : Action) : Prop :=
  ∀ pool, s.2 = some pool → ∃ pool', (pooledStep localtime num_units s act).2 = some pool' ∧
    pool.freeSlices ≤ pool'.freeSlices

def NoneLost (s : PooledState) (act : Action) : Prop :=
  ∀ pool, s.2 = some pool → ¬ ActionLoses localtime num_units s.1 act pool

theorem free_kept_iff (s : PooledState) (act : Action) :
    FreeKept localtime num_units s act ↔ NoneLost localtime num_units s act := by
  refine forall₂_congr fun pool hpool => ?_
  have hafter : (pooledStep localtime num_units s act).2 =
      pool_after localtime (some pool) (emits num_units s.1 act) := by rw [← hpool]; rfl
  rw [hafter]
  rcases emits_settles localtime num_units s.1 act pool with ⟨hkept, heq⟩ | ⟨hlost, hless⟩
  · exact iff_of_true ⟨pool, heq, Nat.le_refl _⟩ hkept
  · refine iff_of_false ?_ (not_not.mpr hlost)
    rintro ⟨pool', heq, hle⟩
    exact absurd (hless pool' heq) (Nat.not_lt.mpr hle)

-- A response leaves the slices in use as they were exactly when it does not lose
-- its buffer, and a run keeps its free slices exactly as long as none is lost.
theorem buffer_pool_leak_free_iff :
    (∀ reply env pool, pool_after localtime (some pool) (bst_send_response reply env).2 =
        some pool ↔ ¬ ResponseLoses localtime reply pool) ∧
      ∀ asic env acts,
        Along (pooledStep localtime num_units) (FreeKept localtime num_units)
            (bst_main asic env, some bstjson_memory_init) acts ↔
          Along (pooledStep localtime num_units) (NoneLost localtime num_units)
            (bst_main asic env, some bstjson_memory_init) acts := by
  constructor
  · exact fun reply env pool => settles_iff (response_settles localtime reply env pool)
  · intro asic env acts
    constructor
    · exact along_mono (fun s act => (free_kept_iff localtime num_units s act).mp) _ acts
    · exact along_mono (fun s act => (free_kept_iff localtime num_units s act).mpr) _ acts

end Runs

-- A trigger report whose realm the encoder does not know.
def unknownRealmReply : BVIEW_BST_RESPONSE_MSG :=
  { msg_type := .TRIGGER_REPORT
    unit := 0
    cookie := none
    id := 0
    asic_capabilities := some sampleAsic
    rv := .SUCCESS
    response := .report .zero none
    options := { (default : BSTJSON_REPORT_OPTIONS) with
      reportTrigger := true
      triggerInfo := { realm := "unknown", counter := "data", port := 1, queue := 0 } } }

-- The encoder takes a slice for it and returns without it.
theorem unknown_realm_leaks :
    pool_after (fun _ => sampleTm) (some bstjson_memory_init)
      (bst_send_response unknownRealmReply sampleEnv).2 ≠ some bstjson_memory_init := by
  intro heq
  have hslice := congrArg (Option.map fun pool => pool.inUse .REPORT 0) heq
  exact absurd hslice (by decide)

end BroadView.Bst
