import BroadView.RegHb.App
import BroadView.RegHb.Client
import BroadView.RegHb.Theorems
import BroadView.Rest.Envelope.Theorems

-- Every message of the system application is answered once, in the order of its queue.
namespace BroadView.RegHb

open Bst CJson Json Transition

section Memory

variable {pool : Pool.Usage} {text : List Char}

def HasRoom (pool : Pool.Usage) : Prop :=
  ∃ index < SYSTEM_UTILS_BUFPOOL_MAX_RESPONE_SLICES, pool index = false

theorem HasRoom.firstFree (h : HasRoom pool) :
    ∃ index, Pool.firstFree SYSTEM_UTILS_BUFPOOL_MAX_RESPONE_SLICES pool = some index := by
  cases hfirst : Pool.firstFree SYSTEM_UTILS_BUFPOOL_MAX_RESPONE_SLICES pool with
  | some index => exact ⟨index, rfl⟩
  | none =>
      obtain ⟨index, hindex, hfree⟩ := h
      have hused := Pool.firstFree_none_iff.mp hfirst index hindex
      rw [hfree] at hused
      cases hused

theorem free_allocated {index : Nat} (hindex : index < SYSTEM_UTILS_BUFPOOL_MAX_RESPONE_SLICES)
    (hfree : pool index = false) :
    system_utils_json_memory_free (Pool.take pool index)
      (some (index * SYSTEM_UTILS_JSON_MEMSIZE_RESPONSE)) = (.SUCCESS, pool) := by
  have hinside : index * SYSTEM_UTILS_JSON_MEMSIZE_RESPONSE ≤
      (SYSTEM_UTILS_BUFPOOL_MAX_RESPONE_SLICES - 1) * SYSTEM_UTILS_JSON_MEMSIZE_RESPONSE :=
    Nat.mul_le_mul_right _ (by omega)
  have hstart : index * SYSTEM_UTILS_JSON_MEMSIZE_RESPONSE % SYSTEM_UTILS_JSON_MEMSIZE_RESPONSE =
      0 := Nat.mul_mod_left _ _
  rw [system_utils_json_memory_free, if_neg (Nat.not_lt.mpr hinside), if_neg (not_not.mpr hstart),
    Nat.mul_div_cancel _ (by decide), Pool.give_take hfree]

-- A text that fits its buffer is sent whole, and the buffer is free again.
theorem send_encoded (hroom : HasRoom pool)
    (hfits : text.length < SYSTEM_UTILS_JSON_MEMSIZE_RESPONSE) (cookie : Option Nat) :
    send_encoding cookie (encode_text text pool) = ([.rest_response_send cookie text], pool) := by
  obtain ⟨index, hfirst⟩ := hroom.firstFree
  obtain ⟨hindex, hfree⟩ := Pool.firstFree_free hfirst
  have hwhole : text.take (SYSTEM_UTILS_JSON_MEMSIZE_RESPONSE - 1) = text :=
    List.take_of_length_le (by omega)
  have hencoded : encode_text text pool =
      { rv := .SUCCESS
        pJsonBuffer := some (index * SYSTEM_UTILS_JSON_MEMSIZE_RESPONSE)
        text
        pool := Pool.take pool index } := by
    rw [encode_text, system_utils_json_memory_allocate, hfirst]
    simp only [hwhole]
  rw [hencoded]
  simp only [send_encoding, free_allocated hindex hfree, if_true]

end Memory

section Answers

variable (arith : Arithmetic) (num_units : Nat)

-- What a client reads in the answer to a message, of the state that it leaves.
def Reports (cxt : BVIEW_SYSTEM_UTILS_CXT) (msg : Message) (root : Item arith.Double) : Prop :=
  match msg.msg_type with
  | .GET_FEATURE =>
      readMethod root = some "get-system-feature".toList ∧ readId root = some msg.id ∧
        readFeature root = some cxt.data.config.read
  | .GET_SWITCH_PROPERTIES =>
      readMethod root = some "get-switch-properties".toList ∧
        (readId root = if msg.id = 0 then none else some msg.id) ∧
        readProperties root = some cxt.switchProperties.read
  | _ => False

-- An answer goes to the cookie of its message.
def Responds (cxt : BVIEW_SYSTEM_UTILS_CXT) (msg : Message) : Answer → Prop
  | .rest_response_send cookie text =>
      msg.unit < num_units ∧ cookie = msg.cookie ∧
        ∃ root, cJSON_Parse arith text = .ok root ∧ Reports arith cxt msg root
  | .rest_response_send_ok cookie =>
      msg.unit < num_units ∧ cookie = msg.cookie ∧ msg.msg_type = .SET_FEATURE
  | .rest_response_send_error cookie rv id =>
      num_units ≤ msg.unit ∧ cookie = msg.cookie ∧ rv = .INVALID_PARAMETER ∧ id = msg.id

-- What the handlers and the timer post.
structure Sent (msg : Message) : Prop where
  known : msg.msg_type ≠ .MAX
  id : ∃ id : Int32, msg.id = id.toInt

theorem heartbeat_sent : Sent heartbeat := ⟨by decide, 0, rfl⟩

theorem system_handler_sent {method : String} {asic : Rest.Params → Except Rest.Fault Int32}
    {msg_type : BVIEW_SYSTEM_UTILS_CMD_API}
    {command : Rest.Params → Except BVIEW_STATUS REG_HB_JSON_CONFIGURE_FEATURE} {msgsnd : Bool}
    {args : Rest.HandlerArgs} {msg : Northbound.RequestMessage} (hknown : msg_type ≠ .MAX)
    (h : Northbound.system_handler arith msgsnd args method asic msg_type command = .ok msg) :
    Sent msg.message := by
  simp only [Northbound.system_handler, Rest.fault_bind_ok,
    Northbound.system_utils_send_request] at h
  obtain ⟨envelope, -, config, -, h⟩ := h
  split_ifs at h
  cases h
  exact ⟨hknown, envelope.id, rfl⟩

def Posts (msg : Northbound.RequestMessage) : Prop :=
  ∃ msgsnd args, Northbound.reg_hb_json_configure_feature arith msgsnd args = .ok msg ∨
    Northbound.reg_hb_json_get_feature arith msgsnd args = .ok msg ∨
    Northbound.reg_hb_json_get_switch_properties arith msgsnd args = .ok msg

theorem Posts.sent {msg : Northbound.RequestMessage} (h : Posts arith msg) :
    Sent msg.message := by
  obtain ⟨msgsnd, args, h | h | h⟩ := h
  · exact system_handler_sent arith (by decide) h
  · exact system_handler_sent arith (by decide) h
  · exact system_handler_sent arith (by decide) h

end Answers

section Handle

variable {arith : Arithmetic} {whole : Nat → arith.Double} {localtime : Int → Tm}
  {num_units : Nat} {cxt : BVIEW_SYSTEM_UTILS_CXT} {msg : Message} {turn : Turn}

-- What a message of a unit leaves in the thread.
def handled (num_units : Nat) (cxt : BVIEW_SYSTEM_UTILS_CXT) (msg : Message) (turn : Turn) :
    BVIEW_SYSTEM_UTILS_CXT :=
  { cxt with
    data := step num_units cxt.data (msg.toBVIEW_SYSTEM_UTILS_REQUEST_MSG, turn.calls)
    switchProperties := stamp msg turn (refresh turn cxt.switchProperties) }

theorem handle_known (hunit : msg.unit < num_units) (hknown : msg.msg_type ≠ .MAX) :
    handle localtime num_units cxt msg turn =
      (system_utils_send_response localtime (handled num_units cxt msg turn)
        { msg_type := msg.msg_type, unit := msg.unit, cookie := msg.cookie, id := msg.id
          rv := .SUCCESS }).map fun sent =>
            (sent.1, { handled num_units cxt msg turn with jsonMemoryPool := sent.2 }) := by
  have hunits : ¬ num_units ≤ msg.unit := Nat.not_le.mpr hunit
  cases htype : msg.msg_type with
  | MAX => exact absurd htype hknown
  | SET_FEATURE | GET_FEATURE | GET_SWITCH_PROPERTIES =>
      simp only [handle, handled, step, if_neg hunits, htype, system_utils_type_api_get]
      rfl

-- The addresses that a turn finds.
def Turn.IsPlain (turn : Turn) : Prop := Plain turn.ip4 ∧ turn.ip4.length < 20

theorem handled_presentable (h : Presentable cxt.switchProperties) (hturn : turn.IsPlain) :
    Presentable (handled num_units cxt msg turn).switchProperties := by
  have hrefresh : Presentable (refresh turn cxt.switchProperties) :=
    { h with agent_ipaddr := hturn }
  unfold handled stamp
  split_ifs
  · exact { hrefresh with }
  · exact hrefresh

-- A message is answered, and the buffer of its answer is free again.
theorem respond (hexact : Exact arith whole) (hproperties : Presentable cxt.switchProperties)
    (hroom : HasRoom cxt.jsonMemoryPool) (hunit : msg.unit < num_units) (hsent : Sent msg) :
    ∃ answer, system_utils_send_response localtime cxt
        { msg_type := msg.msg_type, unit := msg.unit, cookie := msg.cookie, id := msg.id
          rv := .SUCCESS } = some ([answer], cxt.jsonMemoryPool) ∧
      Responds arith num_units cxt msg answer := by
  obtain ⟨hknown, id, hid⟩ := hsent
  cases htype : msg.msg_type with
  | MAX => exact absurd htype hknown
  | SET_FEATURE => exact ⟨.rest_response_send_ok msg.cookie, rfl, hunit, rfl, htype⟩
  | GET_FEATURE =>
      have hsend := send_encoded hroom (feature_text_fits cxt.data.config id) msg.cookie
      refine ⟨.rest_response_send msg.cookie
        (' ' :: objectText (featureSlots cxt.data.config id.toInt)), ?_, hunit, rfl, _,
        feature_parse cxt.data.config id, ?_⟩
      · simp only [system_utils_send_response, encode_response, reg_hb_json_encode_get_feature,
          hid, feature_text_eq, Option.map_some, hsend]
        rfl
      · rw [Reports, htype, hid]
        exact ⟨feature_method_read _ _, feature_id_read _ hexact id, feature_read _ _ hexact⟩
  | GET_SWITCH_PROPERTIES =>
      have hsend := send_encoded hroom (switch_text_fits localtime hproperties id) msg.cookie
      refine ⟨.rest_response_send msg.cookie
        (objectText (switchSlots localtime cxt.switchProperties id.toInt)), ?_, hunit, rfl, _,
        switch_parse localtime id.toInt hproperties, ?_⟩
      · have hasics := asicInfoStr_eq hproperties.node
        have htext := switch_text_eq localtime id.toInt hproperties
        unfold asicTexts at htext
        simp only [system_utils_send_response, encode_response,
          reg_hb_json_encode_get_switch_properties, hid, hasics, htext, Option.map_some, hsend]
        rfl
      · rw [Reports, htype, hid]
        exact ⟨switch_method_read _ _ _, switch_id_read _ _ hexact id,
          switch_read _ _ hexact hproperties⟩

theorem handle_responds (hexact : Exact arith whole)
    (hproperties : Presentable cxt.switchProperties) (hroom : HasRoom cxt.jsonMemoryPool)
    (hsent : Sent msg) (hturn : turn.IsPlain) :
    ∃ answer cxt', handle localtime num_units cxt msg turn = some ([answer], cxt') ∧
      Responds arith num_units cxt' msg answer ∧ Presentable cxt'.switchProperties ∧
      cxt'.jsonMemoryPool = cxt.jsonMemoryPool ∧ cxt'.recvMsgQid = cxt.recvMsgQid ∧
      cxt'.data =
        step num_units cxt.data (msg.toBVIEW_SYSTEM_UTILS_REQUEST_MSG, turn.calls) := by
  by_cases hunit : msg.unit < num_units
  · have hpresentable : Presentable (handled num_units cxt msg turn).switchProperties :=
      handled_presentable hproperties hturn
    obtain ⟨answer, hsend, hresponds⟩ := @respond arith whole localtime num_units
      (handled num_units cxt msg turn) msg hexact hpresentable hroom hunit hsent
    refine ⟨answer, handled num_units cxt msg turn, ?_, hresponds, hpresentable, rfl, rfl, rfl⟩
    rw [handle_known hunit hsent.known, hsend]
    rfl
  · have hunits := Nat.not_lt.mp hunit
    refine ⟨.rest_response_send_error msg.cookie .INVALID_PARAMETER msg.id, cxt, ?_,
      ⟨hunits, rfl, rfl, rfl⟩, hproperties, rfl, rfl, ?_⟩
    · rw [handle, if_pos hunits]
      rfl
    · rw [step, if_pos hunits]

end Handle

section Run

variable (arith : Arithmetic) {whole : Nat → arith.Double} (localtime : Int → Tm)
  (num_units : Nat)

structure Ready (cxt : BVIEW_SYSTEM_UTILS_CXT) : Prop where
  properties : Presentable cxt.switchProperties
  room : HasRoom cxt.jsonMemoryPool
  queued : ∀ msg ∈ cxt.recvMsgQid, Sent msg

def Allowed : Action → Prop
  | .system_utils_send_request msg => Posts arith msg
  | .reg_hb_timer_cb _ => True
  | .system_utils_app_main turn => turn.IsPlain

-- What the thread makes of its data with an action.
def steps (cxt : BVIEW_SYSTEM_UTILS_CXT) :
    Action → List (BVIEW_SYSTEM_UTILS_REQUEST_MSG × TimerCalls)
  | .system_utils_app_main turn => (cxt.recvMsgQid.take 1).map fun msg =>
      (msg.toBVIEW_SYSTEM_UTILS_REQUEST_MSG, turn.calls)
  | _ => []

-- What is taken off the queue is answered, and the answers leave no buffer in use.
structure Serves (cxt : BVIEW_SYSTEM_UTILS_CXT) (act : Action) : Prop where
  inside : Inside localtime num_units cxt act
  pool : (appStep localtime num_units cxt act).jsonMemoryPool = cxt.jsonMemoryPool
  queue : taken cxt act ++ (appStep localtime num_units cxt act).recvMsgQid =
    cxt.recvMsgQid ++ posted act
  data : (appStep localtime num_units cxt act).data = run (step num_units) cxt.data (steps cxt act)
  answered : List.Forall₂ (Responds arith num_units (appStep localtime num_units cxt act))
    (taken cxt act) (answers localtime num_units cxt act)

variable {arith localtime num_units} {cxt : BVIEW_SYSTEM_UTILS_CXT} {act : Action}

theorem start_ready {platform : Platform} {turn : Turn} (h : start platform turn = some cxt)
    (hproperties : Presentable cxt.switchProperties) : Ready cxt := by
  obtain ⟨properties, -, rfl⟩ := Option.map_eq_some_iff.mp h
  exact ⟨hproperties, ⟨0, by decide, rfl⟩, fun msg hmem => absurd hmem List.not_mem_nil⟩

theorem posted_sent (h : Allowed arith act) : ∀ msg ∈ posted act, Sent msg := by
  cases act with
  | system_utils_send_request msg =>
      rw [posted, List.forall_mem_singleton]
      exact Posts.sent arith h
  | reg_hb_timer_cb msgsnd =>
      intro msg hmem
      simp only [posted] at hmem
      split_ifs at hmem
      · rw [List.mem_singleton.mp hmem]
        exact heartbeat_sent
      · cases hmem
  | system_utils_app_main turn => simp [posted]

-- What only posts does nothing else.
theorem idle_serves (hready : Ready cxt) (hallowed : Allowed arith act)
    (hidle : turned localtime num_units cxt act = none) (htaken : taken cxt act = [])
    (hsteps : steps cxt act = []) :
    Serves arith localtime num_units cxt act ∧ Ready (appStep localtime num_units cxt act) := by
  have hstep : appStep localtime num_units cxt act =
      { cxt with recvMsgQid := cxt.recvMsgQid ++ posted act } := by
    rw [appStep, hidle]
  have hanswers : answers localtime num_units cxt act = [] := by rw [answers, hidle]
  refine ⟨⟨?_, ?_, ?_, ?_, ?_⟩, ?_⟩
  · rw [Inside, hidle]
    intro h
    cases h
  · rw [hstep]
  · rw [hstep, htaken]
    rfl
  · rw [hstep, hsteps]
    rfl
  · rw [htaken, hanswers]
    exact .nil
  · rw [hstep]
    refine ⟨hready.properties, hready.room, ?_⟩
    rw [List.forall_mem_append]
    exact ⟨hready.queued, posted_sent hallowed⟩

theorem turn_serves (hexact : Exact arith whole) (hready : Ready cxt) {turn : Turn}
    (hturn : turn.IsPlain) {msg : Message} {rest : List Message}
    (hqueue : cxt.recvMsgQid = msg :: rest) :
    Serves arith localtime num_units cxt (.system_utils_app_main turn) ∧
      Ready (appStep localtime num_units cxt (.system_utils_app_main turn)) := by
  obtain ⟨hsent, hrest⟩ := List.forall_mem_cons.mp (hqueue ▸ hready.queued)
  obtain ⟨answer, cxt', hhandle, hresponds, hproperties, hpool, hleft, hdata⟩ :=
    @handle_responds arith whole localtime num_units { cxt with recvMsgQid := rest } msg turn
      hexact hready.properties hready.room hsent hturn
  have hturned : turned localtime num_units cxt (.system_utils_app_main turn) =
      some (some ([answer], cxt')) := by
    simp only [turned, hqueue, hhandle]
  have hstep : appStep localtime num_units cxt (.system_utils_app_main turn) = cxt' := by
    rw [appStep, hturned]
  have hanswers : answers localtime num_units cxt (.system_utils_app_main turn) = [answer] := by
    rw [answers, hturned]
  have htaken : taken cxt (.system_utils_app_main turn) = [msg] := by
    rw [taken, hqueue]
    rfl
  refine ⟨⟨?_, ?_, ?_, ?_, ?_⟩, ?_⟩
  · rw [Inside, hturned]
    intro h
    cases h
  · rw [hstep, hpool]
  · rw [hstep, htaken, hleft, hqueue, posted]
    simp
  · rw [hstep, hdata, steps, hqueue]
    rfl
  · rw [hstep, htaken, hanswers]
    exact .cons hresponds .nil
  · rw [hstep]
    refine ⟨hproperties, ?_, ?_⟩
    · rw [hpool]
      exact hready.room
    · rw [hleft]
      exact hrest

theorem step_serves (hexact : Exact arith whole) (hready : Ready cxt)
    (hallowed : Allowed arith act) :
    Serves arith localtime num_units cxt act ∧ Ready (appStep localtime num_units cxt act) := by
  cases act with
  | system_utils_send_request msg => exact idle_serves hready hallowed rfl rfl rfl
  | reg_hb_timer_cb msgsnd => exact idle_serves hready hallowed rfl rfl rfl
  | system_utils_app_main turn =>
      cases hqueue : cxt.recvMsgQid with
      | nil =>
          refine idle_serves hready hallowed ?_ ?_ ?_
          · rw [turned, hqueue]
          · rw [taken, hqueue]
            rfl
          · rw [steps, hqueue]
            rfl
      | cons msg rest => exact turn_serves hexact hready hallowed hqueue

-- A message with its answer, in some state.
def Answers (arith : Arithmetic) (num_units : Nat) (msg : Message) (answer : Answer) : Prop :=
  ∃ cxt, Responds arith num_units cxt msg answer

-- What a run takes off the queue and answers, in the order in which it was posted.
structure InOrder (arith : Arithmetic) (localtime : Int → Tm) (num_units : Nat)
    (cxt : BVIEW_SYSTEM_UTILS_CXT) (acts : List Action) : Prop where
  answered : List.Forall₂ (Answers arith num_units)
    (outputs (appStep localtime num_units) taken cxt acts)
    (outputs (appStep localtime num_units) (answers localtime num_units) cxt acts)
  queue : outputs (appStep localtime num_units) taken cxt acts ++
      (run (appStep localtime num_units) cxt acts).recvMsgQid =
    cxt.recvMsgQid ++ acts.flatMap posted
  data : (run (appStep localtime num_units) cxt acts).data =
    run (step num_units) cxt.data (outputs (appStep localtime num_units) steps cxt acts)

theorem run_in_order {acts : List Action}
    (hserves : Along (appStep localtime num_units) (Serves arith localtime num_units) cxt acts) :
    InOrder arith localtime num_units cxt acts := by
  induction acts generalizing cxt with
  | nil => exact ⟨.nil, by simp, rfl⟩
  | cons act acts ih =>
      obtain ⟨hstep, hrest⟩ := hserves
      have hmore := ih hrest
      have hfirst : List.Forall₂ (Answers arith num_units) (taken cxt act)
          (answers localtime num_units cxt act) :=
        hstep.answered.imp fun msg answer h => ⟨_, h⟩
      refine ⟨?_, ?_, ?_⟩
      · exact List.rel_append hfirst hmore.answered
      · rw [outputs_cons, run_cons, List.append_assoc, hmore.queue, ← List.append_assoc,
          hstep.queue, List.flatMap_cons, List.append_assoc]
      · rw [outputs_cons, run_cons, hmore.data, hstep.data]
        exact List.foldl_append.symm

-- From its start on the thread answers every message once and in order, whatever is
-- posted and however the addresses change.
theorem system_requests_answered (hexact : Exact arith whole) {platform : Platform} {turn : Turn}
    (hstart : start platform turn = some cxt) (hproperties : Presentable cxt.switchProperties)
    {acts : List Action}
    (hallowed : Along (appStep localtime num_units) (fun _ act => Allowed arith act) cxt acts) :
    Along (appStep localtime num_units) (Serves arith localtime num_units) cxt acts ∧
      InOrder arith localtime num_units cxt acts := by
  have hready := start_ready hstart hproperties
  have hserves : Along (appStep localtime num_units) (Serves arith localtime num_units) cxt acts :=
    along_of_invariant Ready (fun _ _ hready h => (step_serves hexact hready h).2)
      (fun _ _ hready h => (step_serves hexact hready h).1) cxt acts hready hallowed
  exact ⟨hserves, run_in_order hserves⟩

end Run

section Samples

def sampleTurn : Turn :=
  { calls := sampleCalls, agent_port := 8080, ip4 := "10.0.0.1".toList, time := some 0 }

def samplePlatform : Platform :=
  { feature_mask_get := some 6
    network_os_get := some "OPS".toList
    num_units := 1
    asic_translate_to_notation := fun _ => some "1".toList
    unit_to_asic_type_get := fun _ => some 1
    asic_num_ports_get := fun _ => some 32
    uid_get := "switch".toList
    version_get := "3.0".toList }

def sampleSystem : BVIEW_SYSTEM_UTILS_CXT :=
  { data := system_utils_app_main sampleCalls
    switchProperties :=
      { timeStamp := 0
        networkOs := "OPS".toList
        featureMask := 6
        asicInfo := [⟨"1".toList, 1, 32⟩]
        uid := "switch".toList
        agent_ipaddr := "10.0.0.1".toList
        agent_port := 8080
        agent_sw_version := "3.0".toList }
    jsonMemoryPool := system_utils_json_memory_init
    recvMsgQid := [] }

theorem sample_presentable : Presentable sampleSystem.switchProperties where
  node := one_asic_fits (by decide)
  notations := by decide
  features := fun _ => by decide
  networkOs := by decide
  uid := by decide
  agent_ipaddr := by decide
  agent_sw_version := by decide

def propertiesArgs : Rest.HandlerArgs :=
  { cookie := some 7
    jsonBuffer := some (" \x7b \"jsonrpc\": \"2.0\", \"method\": \"get-switch-properties\"," ++
      "\"params\": \x7b\x7d, \"id\": 5\x7d").toList
    bufLength := 0 }

def propertiesRequest : Northbound.RequestMessage :=
  { msg_type := .GET_SWITCH_PROPERTIES, unit := 0, config := ⟨0, 0, 0⟩, cookie := 7, id := 5 }

theorem properties_posted : Posts wholeNumbers propertiesRequest :=
  ⟨true, propertiesArgs, .inr (.inr (by decide +kernel))⟩

-- A heartbeat and a request, which are answered in this order.
def sampleActions : List Action :=
  [.reg_hb_timer_cb true, .system_utils_send_request propertiesRequest,
    .system_utils_app_main sampleTurn, .system_utils_app_main sampleTurn]

theorem sampleTurn_plain : sampleTurn.IsPlain := ⟨by decide, by decide⟩

theorem sample_allowed (cxt : BVIEW_SYSTEM_UTILS_CXT) :
    Along (appStep (fun _ => sampleTm) 1) (fun _ act => Allowed wholeNumbers act) cxt
      sampleActions :=
  ⟨trivial, properties_posted, sampleTurn_plain, sampleTurn_plain, trivial⟩

theorem sample_requests_answered :
    Along (appStep (fun _ => sampleTm) 1) (Serves wholeNumbers (fun _ => sampleTm) 1) sampleSystem
        sampleActions ∧
      InOrder wholeNumbers (fun _ => sampleTm) 1 sampleSystem sampleActions :=
  system_requests_answered exact_wholeNumbers (show start samplePlatform sampleTurn = _ by rfl)
    sample_presentable (sample_allowed sampleSystem)

end Samples

end BroadView.RegHb
