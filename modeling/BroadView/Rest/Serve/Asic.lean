import BroadView.Bst.Response
import BroadView.Rest.Serve.Text

namespace BroadView.Rest.Serve

open ModuleMgr Http CString

section Outcome

variable {arith : CJson.Arithmetic} {modules : MODULES Handler} {calls : Calls} {slot : Nat}
  {request : RequestBytes} {body : List Char} {id : Int32} {root : CJson.Item arith.Double}
  {params : Params} {asicStr : String} {asked : Bst.RestRequest}
  {command : String × (Params → Except BVIEW_STATUS Bst.RestRequest)}

-- The served request that posts its message for a unit.
def postedFor (asked : Bst.RestRequest) (slot unit : Nat) (id : Int32) : Served :=
  ⟨⟨.SUCCESS, .SUCCESS, id.toInt, .SUCCESS, .SUCCESS⟩,
    some (.bst (.zeroed (asked.msg slot unit id.toInt)))⟩

-- The application answers the message with an error, whatever state it is in.
def Refused (num_units : Nat) (msg : Bst.BVIEW_BST_REQUEST_MSG) : Prop :=
  ∀ (state : Bst.BVIEW_BST_CXT) env rest, state.recvMsgQid = msg :: rest →
    Bst.responses (Bst.emits num_units state (.bst_app_main env)) =
      [.rest_response_send_error msg.cookie .INVALID_PARAMETER msg.id]

theorem refused_unit {num_units unit : Nat} (hunit : num_units ≤ unit) (asked : Bst.RestRequest)
    (cookie : Bst.Cookie) (id : Int) : Refused num_units (asked.msg cookie unit id) := by
  intro state env rest hqueue
  rw [Bst.emits_unknown_unit env hqueue hunit, Bst.RestRequest.msg_cookie]

-- Where a request goes by the number of its ASIC: only the first ASIC is a unit. The
-- one before it is posted for a unit that no platform has, and is refused by the
-- application; a negative one makes the agent read in front of its table.
theorem asic_served (hstarted : Started arith modules) (hcommand : command ∈ bst_commands)
    (hcarries : Carries modules request body) (hasks : Asks arith body command.1 id root params)
    (hasic : members root "asic-id" = some (.string asicStr))
    (hasked : command.2 params = .ok asked) (hsent : calls.bst.msgsnd = true) :
    (1 < atoi asicStr.toList → serve arith modules calls slot request =
        some ⟨⟨.SUCCESS, .SUCCESS, id.toInt, .SUCCESS, .INVALID_JSON⟩, none⟩) ∧
      (atoi asicStr.toList = 1 →
        serve arith modules calls slot request = some (postedFor asked slot 0 id)) ∧
      (atoi asicStr.toList = 0 →
        serve arith modules calls slot request = some (postedFor asked slot 4294967295 id) ∧
          ∀ num_units ≤ 4294967295, Refused num_units (asked.msg slot 4294967295 id.toInt)) ∧
      (atoi asicStr.toList < 0 → serve arith modules calls slot request = none) := by
  have hserved := @command_served _ modules calls slot _ _ _ _ _ _ _ hstarted hcommand hcarries
    hasks hasic
  have hposted (asicId : Int32) : commandServed calls slot id asicId (command.2 params) =
      postedFor asked slot asicId.toUInt32.toNat id := by
    rw [hasked]
    exact if_pos hsent
  refine ⟨fun h => ?_, fun h => ?_, fun h => ⟨?_, fun num_units hunits => ?_⟩, fun h => ?_⟩
  · rw [hserved, map_from_notation_above h]
  · rw [hserved, map_from_notation_one h]
    exact congrArg some (hposted 0)
  · rw [hserved, map_from_notation_zero h]
    exact congrArg some (hposted (-1))
  · exact refused_unit hunits asked slot id.toInt
  · rw [hserved, map_from_notation_negative h]

-- One that is there, one above it, the one before it and a negative one.
def sampleAsic : Fin 4 → String
  | 0 => "1"
  | 1 => "2"
  | 2 => "0"
  | 3 => "-1"

def asicText (index : Fin 4) : List Char :=
  requestText "configure-bst-feature" (sampleAsic index) 7 sampleParams

def asicHeaders : List Char := "HTTP/1.1".toList

theorem asicText_first : ∀ index, strstr (asicHeaders ++ (REST_HTTP_TWIN_CRLF ++ asicText index))
    REST_HTTP_TWIN_CRLF = some asicHeaders.length := by
  decide +kernel

theorem asicText_fits : ∀ index, sampleHttp.method.length + sampleHttp.url.length +
    asicHeaders.length + (asicText index).length + 6 ≤ Client.REST_MAX_HTTP_BUFFER_LENGTH := by
  decide +kernel

-- The sample request, for the ASIC of an index.
def asicHttp (index : Fin 4) : HttpRequest where
  method := sampleHttp.method
  url := sampleHttp.url
  headers := asicHeaders
  body := asicText index
  supported := sampleHttp.supported
  word := sampleHttp.word
  first := asicText_first index
  fits := asicText_fits index
  copied := sampleHttp.copied

theorem asicText_asks (index : Fin 4) :
    ∃ root, Asks CJson.wholeNumbers (asicText index) "configure-bst-feature" 7 root
        (paramsOf sampleParams) ∧
      members root "asic-id" = some (.string (sampleAsic index)) := by
  have hplain : ∀ index, Json.Plain (sampleAsic index).toList := by decide
  exact requestText_asks CJson.exact_wholeNumbers (by decide) (hplain index) sample_plain
    (by decide)

theorem sample_asic_served :
    serve CJson.wholeNumbers sampleModules sampleCalls 2 (asicHttp 0).bytes =
        some (postedFor (.bstjson_configure_bst_feature sampleAsked) 2 0 7) ∧
      serve CJson.wholeNumbers sampleModules sampleCalls 2 (asicHttp 1).bytes =
        some ⟨⟨.SUCCESS, .SUCCESS, 7, .SUCCESS, .INVALID_JSON⟩, none⟩ ∧
      (serve CJson.wholeNumbers sampleModules sampleCalls 2 (asicHttp 2).bytes =
          some (postedFor (.bstjson_configure_bst_feature sampleAsked) 2 4294967295 7) ∧
        Refused 1 ((Bst.RestRequest.bstjson_configure_bst_feature sampleAsked).msg 2 4294967295
          7)) ∧
      serve CJson.wholeNumbers sampleModules sampleCalls 2 (asicHttp 3).bytes = none := by
  refine ⟨?_, ?_, ?_, ?_⟩
  · obtain ⟨root, hasks, hasic⟩ := asicText_asks 0
    exact (asic_served sample_started feature_request_mem ((asicHttp 0).carries sample_named)
      hasks hasic sample_asked rfl).2.1 rfl
  · obtain ⟨root, hasks, hasic⟩ := asicText_asks 1
    exact (asic_served sample_started feature_request_mem ((asicHttp 1).carries sample_named)
      hasks hasic sample_asked rfl).1 (by decide)
  · obtain ⟨root, hasks, hasic⟩ := asicText_asks 2
    have hsent : sampleCalls.bst.msgsnd = true := rfl
    obtain ⟨hposted, hrefused⟩ := (asic_served sample_started feature_request_mem
      ((asicHttp 2).carries sample_named) hasks hasic sample_asked hsent).2.2.1 rfl
    exact ⟨hposted, hrefused 1 (by decide)⟩
  · obtain ⟨root, hasks, hasic⟩ := asicText_asks 3
    exact (asic_served sample_started feature_request_mem ((asicHttp 3).carries sample_named)
      hasks hasic sample_asked rfl).2.2.2 (by decide)

end Outcome

end BroadView.Rest.Serve
