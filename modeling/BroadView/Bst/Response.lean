import BroadView.Bst.NbApi
import BroadView.Bst.System.Lemmas

namespace BroadView.Bst

def Effect.isResponse : Effect → Bool
  | .rest_response_send .. | .rest_response_send_ok _ | .rest_response_send_error .. => true
  | _ => false

def Effect.cookie : Effect → Option Cookie
  | .rest_response_send cookie _ => cookie
  | .rest_response_send_ok cookie => cookie
  | .rest_response_send_error cookie _ _ => cookie
  | _ => none

def Effect.reportsSuccess : Effect → Bool
  | .rest_response_send .. | .rest_response_send_ok _ => true
  | _ => false

theorem Effect.isResponse_isReply (effect : Effect) (h : effect.isResponse = true) :
    effect.isReply = true := by
  cases effect <;> first | exact h | rfl

-- The REST calls among the effects of a step.
def responses (effects : List Effect) : List Effect := effects.filter Effect.isResponse

section Reply

variable (reply : BVIEW_BST_RESPONSE_MSG) (env : Env)

-- The encoder succeeds and hands over a buffer.
def Encodes : Prop := ∃ text, env.encode reply = (.SUCCESS, some text)

theorem encode_and_send_responses :
    (Encodes reply env → responses (encode_and_send reply env).2 =
      [.rest_response_send reply.cookie env.rest_response_send]) ∧
    (¬ Encodes reply env → responses (encode_and_send reply env).2 = []) := by
  constructor
  · rintro ⟨text, htext⟩
    simp only [encode_and_send, htext]
    rfl
  · intro hfails
    unfold encode_and_send
    split
    · rename_i text htext
      exact absurd ⟨text, htext⟩ hfails
    · rfl

theorem send_response_error (hrv : reply.rv ≠ .SUCCESS) :
    responses (bst_send_response reply env).2 =
      [.rest_response_send_error reply.cookie reply.rv reply.id] := by
  simp only [bst_send_response, if_pos hrv]
  rfl

variable {request : RestRequest}

theorem send_response_ok (htype : reply.msg_type = request.msg_type) (hrv : reply.rv = .SUCCESS)
    (hbody : request.hasBody = false) :
    responses (bst_send_response reply env).2 = [.rest_response_send_ok reply.cookie] := by
  simp only [bst_send_response, hrv, ne_eq, not_true_eq_false, if_false, htype]
  cases request <;> first | rfl | cases hbody

theorem send_response_body (htype : reply.msg_type = request.msg_type)
    (hrv : reply.rv = .SUCCESS) (hbody : request.hasBody = true) :
    responses (bst_send_response reply env).2 = responses (encode_and_send reply env).2 := by
  simp only [bst_send_response, hrv, ne_eq, not_true_eq_false, if_false, htype]
  cases request <;> first | rfl | cases hbody

end Reply

section Prepared

variable (cxt : BVIEW_BST_UNIT_CXT) (request : RestRequest) (cookie : Cookie) (asicId : Nat)
  (id : Int) (env : Env)

-- The message as the thread handles it for its unit.
def RestRequest.action : UnitAction := .app (request.msg cookie asicId id) env

theorem handled_rest_request :
    handled_request cxt (request.msg cookie asicId id) = request.msg cookie asicId id := by
  have hcopy : copy_track_to_collect cxt (request.msg cookie asicId id) =
      request.msg cookie asicId id := by
    simp [copy_track_to_collect]
  unfold handled_request
  split
  all_goals first | exact hcopy | rfl

-- What the reply to a REST message takes over from it and from its handler.
structure Acknowledges (reply : BVIEW_BST_RESPONSE_MSG) (rv : BVIEW_STATUS) : Prop where
  type : reply.msg_type = request.msg_type
  cookie : reply.cookie = some cookie
  status : reply.rv = rv

theorem prepare_reply_acknowledges (rv : BVIEW_STATUS) :
    Acknowledges request cookie
      (prepare_reply (request.msg cookie asicId id) rv cxt).1 rv := by
  cases request <;> exact ⟨rfl, rfl, rfl⟩

theorem preparedReply_acknowledges :
    Acknowledges request cookie (preparedReply cxt (request.action cookie asicId id env))
      (handledRv cxt (request.action cookie asicId id env)) := by
  have h := prepare_reply_acknowledges (handledCxt cxt (request.action cookie asicId id env))
    request cookie asicId id (handledRv cxt (request.action cookie asicId id env))
  rw [← handled_rest_request cxt] at h
  exact h

theorem rest_replies : (request.action cookie asicId id env).replies = true := by
  cases request <;> rfl

-- The calls to the REST layer for a message whose unit exists.
theorem unit_responses :
    responses (unitEmits cxt (request.action cookie asicId id env)) =
      responses (bst_send_response (preparedReply cxt (request.action cookie asicId id env))
        env).2 := by
  have hnone : responses (handledEffects cxt (request.action cookie asicId id env)) = [] := by
    refine List.filter_eq_nil_iff.mpr fun effect hmem hresponse => ?_
    have hno := handled_no_reply cxt _ effect hmem
    exact absurd ((Effect.isResponse_isReply effect hresponse).symm.trans hno) (by decide)
  rw [unitEmits_eq, rest_replies, if_pos rfl, responses, List.filter_append]
  exact (congrArg (· ++ _) hnone).trans (List.nil_append _)

end Prepared

section Dequeued

variable (num_units : Nat) (state : BVIEW_BST_CXT) (request : RestRequest) (cookie : Cookie)
  (asicId : Nat) (id : Int) (env : Env)

-- The unit exists and its handler succeeds.
def HandlerSucceeds : Prop :=
  asicId < num_units ∧
    handledRv (state.unit asicId) (request.action cookie asicId id env) = .SUCCESS

def BodyEncodes : Prop :=
  Encodes (preparedReply (state.unit asicId) (request.action cookie asicId id env)) env

-- The message is answered by one call, on its own cookie, that tells whether
-- the request succeeded.
def AnsweredOnce : Prop :=
  ∃ response, responses (emits num_units state (.bst_app_main env)) = [response] ∧
    response.cookie = some cookie ∧
    (response.reportsSuccess = true ↔
      HandlerSucceeds num_units state request cookie asicId id env ∧
        (request.hasBody = true → BodyEncodes state request cookie asicId id env))

-- The one way to lose the answer.
def EncodingLost : Prop :=
  HandlerSucceeds num_units state request cookie asicId id env ∧ request.hasBody = true ∧
    ¬ BodyEncodes state request cookie asicId id env

variable {num_units state request cookie asicId id}

theorem emits_unknown_unit {rest : List BVIEW_BST_REQUEST_MSG}
    (hqueue : state.recvMsgQid = request.msg cookie asicId id :: rest)
    (hunit : num_units ≤ asicId) :
    responses (emits num_units state (.bst_app_main env)) =
      [.rest_response_send_error (some cookie) .INVALID_PARAMETER
        (request.msg cookie asicId id).id] := by
  have htaken : taken num_units state (.bst_app_main env) = none := by
    simp [taken, hqueue, hunit]
  simp only [emits, htaken, hqueue]
  rw [send_response_error _ _ (by simp [unknown_unit_reply])]
  simp [unknown_unit_reply]

theorem emits_known_unit {rest : List BVIEW_BST_REQUEST_MSG}
    (hqueue : state.recvMsgQid = request.msg cookie asicId id :: rest)
    (hunit : asicId < num_units) :
    emits num_units state (.bst_app_main env) =
      unitEmits (state.unit asicId) (request.action cookie asicId id env) := by
  have htaken : taken num_units state (.bst_app_main env) =
      some (request.action cookie asicId id env) := by
    simp [taken, hqueue, Nat.not_le.mpr hunit, RestRequest.action]
  simp only [emits, htaken]
  simp [RestRequest.action, UnitAction.msg]

variable {env}

-- A request of the REST layer is answered once and truly, unless its handler
-- succeeds and the encoder of its body fails: then it is not answered at all.
theorem rest_request_answered_iff (rest : List BVIEW_BST_REQUEST_MSG)
    (hqueue : state.recvMsgQid = request.msg cookie asicId id :: rest) :
    AnsweredOnce num_units state request cookie asicId id env ↔
      ¬ EncodingLost num_units state request cookie asicId id env := by
  by_cases hunit : asicId < num_units
  swap
  · have hemits := emits_unknown_unit env hqueue (Nat.le_of_not_lt hunit)
    have hhandler : ¬ HandlerSucceeds num_units state request cookie asicId id env :=
      fun h => hunit h.1
    refine iff_of_true ⟨_, hemits, rfl, ?_⟩ fun h => hhandler h.1
    exact iff_of_false Bool.false_ne_true fun h => hhandler h.1
  have hreply := preparedReply_acknowledges (state.unit asicId) request cookie asicId id env
  have hemits := unit_responses (state.unit asicId) request cookie asicId id env
  rw [← emits_known_unit env hqueue hunit] at hemits
  by_cases hhandler : HandlerSucceeds num_units state request cookie asicId id env
  swap
  · have hrv : (preparedReply (state.unit asicId)
        (request.action cookie asicId id env)).rv ≠ .SUCCESS := by
      rw [hreply.status]
      exact fun h => hhandler ⟨hunit, h⟩
    rw [send_response_error _ _ hrv] at hemits
    refine iff_of_true ⟨_, hemits, hreply.cookie, ?_⟩ fun h => hhandler h.1
    exact iff_of_false Bool.false_ne_true fun h => hhandler h.1
  have hrv := hreply.status.trans hhandler.2
  cases hbody : request.hasBody with
  | false =>
      rw [send_response_ok _ _ hreply.type hrv hbody] at hemits
      refine iff_of_true ⟨_, hemits, hreply.cookie, ?_⟩ fun h => ?_
      · exact iff_of_true rfl ⟨hhandler, fun h => by simp [hbody] at h⟩
      · have hlost := h.2.1
        simp [hbody] at hlost
  | true =>
      rw [send_response_body _ _ hreply.type hrv hbody] at hemits
      obtain ⟨hsent, hlost⟩ := encode_and_send_responses
        (preparedReply (state.unit asicId) (request.action cookie asicId id env)) env
      by_cases hencodes : BodyEncodes state request cookie asicId id env
      · rw [hsent hencodes] at hemits
        refine iff_of_true ⟨_, hemits, hreply.cookie, ?_⟩ fun h => h.2.2 hencodes
        exact iff_of_true rfl ⟨hhandler, fun _ => hencodes⟩
      · rw [hlost hencodes] at hemits
        refine iff_of_false ?_ fun h => h ⟨hhandler, hbody, hencodes⟩
        rintro ⟨response, hone, -⟩
        rw [hemits] at hone
        cases hone

end Dequeued

def queued (request : RestRequest) : BVIEW_BST_CXT :=
  { sampleStart with recvMsgQid := [request.msg 0 0 7] }

theorem clear_statistics_answered :
    AnsweredOnce 1 (queued .bstjson_clear_bst_statistics) .bstjson_clear_bst_statistics 0 0 7
      sampleEnv :=
  (rest_request_answered_iff [] rfl).mpr fun h => Bool.false_ne_true h.2.1

-- The encoder runs out of memory: the session of the request gets no answer.
theorem failed_encoding_unanswered :
    ¬ AnsweredOnce 1 (queued .bstjson_get_bst_feature) .bstjson_get_bst_feature 0 0 7
      { sampleEnv with encode := fun _ => (.OUTOFMEMORY, none) } := by
  rintro ⟨response, hone, -⟩
  cases hone

end BroadView.Bst
