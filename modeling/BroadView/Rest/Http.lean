import BroadView.CString.Scan
import BroadView.ModuleMgr
import BroadView.Rest.Client

-- The parser of an HTTP request and the choice of the handler that serves it.
namespace BroadView.Rest.Http

open CString Printf ModuleMgr
open Client (REST_MAX_HTTP_BUFFER_LENGTH)

def REST_MAX_STRING_LENGTH : Nat := 128
def BVIEW_AGENT_SW_NAME : List Char := "broadview".toList
def REST_HTTP_SPACE : Char := ' '
def REST_HTTP_TWIN_CRLF : List Char := ['\r', '\n', '\r', '\n']
def sizeof_command : Nat := 128

-- The fields of a session that a request fills. json is a place in the buffer.
structure REST_SESSION where
  httpMethod : Buffer (REST_MAX_STRING_LENGTH + 1)
  url : Buffer (REST_MAX_STRING_LENGTH + 1)
  restMethod : Buffer REST_MAX_STRING_LENGTH
  buffer : Buffer (REST_MAX_HTTP_BUFFER_LENGTH + 1)
  length : Int
  json : Option Nat
  deriving DecidableEq

-- What the reads of a request deliver; none is a zero byte.
structure RequestBytes where
  bytes : List (Option Char)
  length_le : bytes.length ≤ REST_MAX_HTTP_BUFFER_LENGTH

-- The buffer of a cleared session after the reads.
def RequestBytes.buffer (request : RequestBytes) : Buffer (REST_MAX_HTTP_BUFFER_LENGTH + 1) :=
  { bytes := request.bytes ++
      List.replicate (REST_MAX_HTTP_BUFFER_LENGTH + 1 - request.bytes.length) none
    length_eq := by
      have hlength := request.length_le
      rw [List.length_append, List.length_replicate]
      omega }

def RequestBytes.session (request : RequestBytes) : REST_SESSION :=
  { httpMethod := Buffer.zeroed _
    url := Buffer.zeroed _
    restMethod := Buffer.zeroed _
    buffer := request.buffer
    length := request.bytes.length
    json := none }

def supportedMethods : List (List Char) :=
  ["GET".toList, "POST".toList, "PUT".toList, "DELETE".toList]

def rest_validate_http_method (method : List Char) : Bool := decide (method ∈ supportedMethods)

-- What sprintf makes of the command of a method.
def command (featureName restMethod : List Char) : List Char :=
  if featureName = [] then
    format "%s/%s".toList [.str BVIEW_AGENT_SW_NAME, .str restMethod]
  else format "%s/%s/%s".toList [.str BVIEW_AGENT_SW_NAME, .str featureName, .str restMethod]

-- None when the command does not fit its array.
def rest_validate_url (url featureName restMethod : List Char) : Option Bool :=
  if sizeof_command ≤ (command featureName restMethod).length then none
  else some (strstr url (command featureName restMethod)).isSome

-- The method starts after the last slash that is not the end of the URL.
def restMethodStart (url : List Char) : Nat :=
  (List.range url.length).foldl
    (fun start temp => if url[temp]? = some '/' ∧ temp < url.length - 1 then temp + 1 else start) 0

section Parse

variable {Handler : Type} (modules : MODULES Handler)

-- The parser from the URL on. None is an access outside an array.
def rest_parse_url (session : REST_SESSION) (httpMethod url : Token) :
    Option (BVIEW_STATUS × REST_SESSION) :=
  let start := restMethodStart url.text
  let restMethod := url.text.drop start
  match modulemgr_rest_api_feature_name_get restMethod modules with
  | (.SUCCESS, some featureName) =>
      match rest_validate_url url.text featureName restMethod with
      | none => none
      | some false => some (.FAILURE, session)
      | some true =>
          let buf := httpMethod.text.length + 1 + (url.text.length + 1)
          match session.buffer.stringAt buf with
          | none => none
          | some text =>
              match strstr text REST_HTTP_TWIN_CRLF with
              | none => some (.FAILURE, session)
              | some offset =>
                  let json := buf + offset + REST_HTTP_TWIN_CRLF.length
                  match session.buffer.memcpy (url.place + start) REST_MAX_STRING_LENGTH with
                  | none => none
                  | some restMethod =>
                      some (.SUCCESS,
                        { session with
                          json := some json
                          httpMethod := strncpy session.httpMethod httpMethod.text
                            REST_MAX_STRING_LENGTH (by decide)
                          url := strncpy session.url url.text REST_MAX_STRING_LENGTH (by decide)
                          restMethod
                          length := session.length - json })
  | _ => some (.FAILURE, session)

-- The URL is looked for as many bytes behind the start of the buffer as the
-- method has and one, wherever the method stands.
def rest_parse_http_request_to_session (session : REST_SESSION) :
    Option (BVIEW_STATUS × REST_SESSION) :=
  match session.buffer.strtok REST_HTTP_SPACE 0 with
  | none => none
  | some (none, buffer) => some (.FAILURE, { session with buffer })
  | some (some httpMethod, buffer) =>
      if rest_validate_http_method httpMethod.text = false then
        some (.FAILURE, { session with buffer })
      else
        match buffer.strtok REST_HTTP_SPACE (httpMethod.text.length + 1) with
        | none => none
        | some (none, buffer) => some (.FAILURE, { session with buffer })
        | some (some url, buffer) => rest_parse_url modules { session with buffer } httpMethod url

-- The body of a request that is parsed: the string from json on.
def request_body (request : RequestBytes) : Option (List Char) :=
  match rest_parse_http_request_to_session modules request.session with
  | some (.SUCCESS, session) => session.json.bind session.buffer.stringAt
  | _ => none

-- The handler that rest_process_http_request invokes. cJSON_Parse stands for the
-- JSON parser.
def dispatch (cJSON_Parse : List Char → Option Params) (request : RequestBytes) : Option Handler :=
  match request_body modules request with
  | none => none
  | some body =>
      match modulemgr_rest_api_handler_get (cJSON_Parse body) modules with
      | (.SUCCESS, handler) => handler
      | _ => none

end Parse

end BroadView.Rest.Http
