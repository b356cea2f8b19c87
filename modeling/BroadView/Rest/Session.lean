import BroadView.Platform
import BroadView.Pool
import BroadView.Printf

namespace BroadView.Rest

open Printf

abbrev Fd := Nat

def REST_MAX_SESSIONS : Nat := 5

def REST_JSON_BUFF_LEN : Nat := 512

-- The fields of a session that decide where an answer goes.
structure REST_SESSION where
  inUse : Bool
  connectionFd : Fd
  deriving DecidableEq, Inhabited

-- The memory that session pointers point into: the first REST_MAX_SESSIONS of
-- them are the session table.
structure REST_CONTEXT where
  sessions : Nat → REST_SESSION

inductive HttpStatus where
  | OK | BadRequest | NotFound | InternalServerError
  deriving DecidableEq, Repr

-- The calls on connections, and the reports sent on a connection of their own.
inductive Effect where
  | send (fd : Fd) (line : HttpStatus) (data : List Char)
  | close (fd : Fd)
  | rest_send_async_report (buffer : List Char)
  deriving DecidableEq

def Effect.fd : Effect → Option Fd
  | .send fd _ _ => some fd
  | .close fd => some fd
  | .rest_send_async_report _ => none

section Client

variable (fd : Fd)

def rest_send_200_with_data (buffer : List Char) : Effect := .send fd .OK buffer

def rest_send_200 : Effect := .send fd .OK []

def rest_send_404 : Effect :=
  .send fd .NotFound " <html> <body> Unsupported </body> </html>".toList

def rest_send_400 : Effect :=
  .send fd .BadRequest "<html> <body> Bad Request </body> </html>".toList

def rest_send_500 : Effect :=
  .send fd .InternalServerError "<html> <body> Internal Server Error </body> </html>".toList

def rest_send_404_with_data (buffer : List Char) : Effect := .send fd .NotFound buffer

def rest_send_400_with_data (buffer : List Char) : Effect := .send fd .BadRequest buffer

def rest_send_500_with_data (buffer : List Char) : Effect := .send fd .InternalServerError buffer

end Client

section Errors

structure REST_JSON_ERROR where
  return_code : BVIEW_STATUS
  json_code : Int
  errorstr : String
  handler : Fd → List Char → Effect

def rest_json_error_array : List REST_JSON_ERROR :=
  [⟨.FAILURE, -32603, "Internal Error", rest_send_400_with_data⟩,
    ⟨.OUTOFMEMORY, -32603, "Internal Error", rest_send_400_with_data⟩,
    ⟨.RESOURCE_NOT_AVAILABLE, -32603, "Internal Error", rest_send_400_with_data⟩,
    ⟨.INVALID_MEMORY, -32603, "Internal Error", rest_send_400_with_data⟩,
    ⟨.INVALID_PARAMETER, -32602, "Invalid Params", rest_send_400_with_data⟩,
    ⟨.INVALID_ID, -32602, "Invalid Params", rest_send_400_with_data⟩,
    ⟨.UNSUPPORTED, -32601, "Method Not Found", rest_send_404_with_data⟩,
    ⟨.INVALID_JSON, -32700, "Parse Error", rest_send_500_with_data⟩]

def blanks (count : Nat) : List Char := List.replicate count ' '

-- The templates are single C strings whose lines are joined with their indentation.
def json_error : List Char :=
  "\x7b".toList ++ blanks 34 ++ "\"jsonrpc\": \"2.0\",".toList ++ blanks 30 ++
  "\"error\": \x7b".toList ++ blanks 30 ++ "\"code\": %d,".toList ++ blanks 30 ++
  "\"message\": \"%s\" ,".toList ++ blanks 30 ++ "\"version\": \"%d\" \x7d,".toList ++
  blanks 30 ++ "\"id\":  %d".toList ++ blanks 30 ++ "\x7d".toList

def json_error_async : List Char :=
  "\x7b".toList ++ blanks 37 ++ "\"jsonrpc\": \"2.0\",".toList ++ blanks 33 ++
  "\"error\": \x7b".toList ++ blanks 33 ++ "\"code\": %d,".toList ++ blanks 33 ++
  "\"message\": \"%s\" ,".toList ++ blanks 33 ++ "\"version\": \"%d\" \x7d,".toList ++
  blanks 33 ++ "\x7d".toList

def rest_get_json_error_data (rv : BVIEW_STATUS) : Option REST_JSON_ERROR :=
  rest_json_error_array.find? fun error => rv = error.return_code

-- What snprintf leaves in the buffer of the error texts.
def error_text (template : List Char) (args : List Arg) : List Char :=
  (format template args).take (REST_JSON_BUFF_LEN - 1)

-- A status that the table does not list sends nothing.
def rest_json_error_fn_invoke (fd : Fd) (rv : BVIEW_STATUS) (id : Int) : List Effect :=
  match rest_get_json_error_data rv with
  | none => []
  | some error =>
      [error.handler fd (error_text json_error
        [.int error.json_code, .str error.errorstr.toList, .int BVIEW_JSON_VERSION, .int id])]

def rest_send_json_error_async (rv : BVIEW_STATUS) : List Effect :=
  match rest_get_json_error_data rv with
  | none => []
  | some error =>
      [.rest_send_async_report (error_text json_error_async
        [.int error.json_code, .str error.errorstr.toList, .int BVIEW_JSON_VERSION])]

end Errors

section Sessions

variable (context : REST_CONTEXT)

def setSession (slot : Nat) (session : REST_SESSION) : REST_CONTEXT :=
  { sessions := Function.update context.sessions slot session }

def setInUse (slot : Nat) (inUse : Bool) : REST_CONTEXT :=
  setSession context slot { context.sessions slot with inUse }

def usage : Pool.Usage := fun slot => (context.sessions slot).inUse

-- The session is cleared, and is marked in use only once its request is parsed.
def rest_allocate_session : Option Nat × REST_CONTEXT :=
  match Pool.firstFree REST_MAX_SESSIONS (usage context) with
  | none => (none, context)
  | some slot => (some slot, setSession context slot { inUse := false, connectionFd := 0 })

-- The pointer must be one into the table; whether the session is in use is not
-- looked at.
def rest_session_validate (session : Nat) : BVIEW_STATUS :=
  if session < REST_MAX_SESSIONS then .SUCCESS else .RESOURCE_NOT_AVAILABLE

def rest_session_fd_get (cookie : Nat) : Option Fd :=
  if rest_session_validate cookie = .SUCCESS then some (context.sessions cookie).connectionFd
  else none

def release (session : Nat) : REST_CONTEXT × List Effect :=
  (setInUse context session false, [.close (context.sessions session).connectionFd])

def rest_response_send (cookie : Option Nat) (pBuf : Option (List Char)) :
    REST_CONTEXT × List Effect :=
  match cookie, pBuf with
  | some session, none =>
      if rest_session_validate session = .SUCCESS then release context session else (context, [])
  | none, none => (context, [])
  | some session, some buffer =>
      let sent := if rest_session_validate session = .SUCCESS then
        [rest_send_200_with_data (context.sessions session).connectionFd buffer] else []
      let released := release context session
      (released.1, sent ++ released.2)
  | none, some buffer => (context, [.rest_send_async_report buffer])

def rest_response_send_ok (cookie : Option Nat) : REST_CONTEXT × List Effect :=
  match cookie with
  | none => (context, [])
  | some session =>
      match rest_session_fd_get context session with
      | none => (context, [])
      | some fd =>
          let released := release context session
          (released.1, rest_send_200 fd :: released.2)

def rest_send_json_error (session : Nat) (rv : BVIEW_STATUS) (id : Int) :
    REST_CONTEXT × List Effect :=
  match rest_session_fd_get context session with
  | none => (context, [])
  | some fd =>
      let released := release context session
      (released.1, rest_json_error_fn_invoke fd rv id ++ released.2)

def rest_response_send_error (cookie : Option Nat) (rv : BVIEW_STATUS) (id : Int) :
    REST_CONTEXT × List Effect :=
  match cookie with
  | none => (context, rest_send_json_error_async rv)
  | some session => rest_send_json_error context session rv id

end Sessions

-- How the application answers a request it was handed.
inductive Answer where
  | rest_response_send (pBuf : Option (List Char))
  | rest_response_send_ok
  | rest_response_send_error (rv : BVIEW_STATUS) (id : Int)

def Answer.give (answer : Answer) (context : REST_CONTEXT) (cookie : Option Nat) :
    REST_CONTEXT × List Effect :=
  match answer with
  | .rest_response_send pBuf => Rest.rest_response_send context cookie pBuf
  | .rest_response_send_ok => Rest.rest_response_send_ok context cookie
  | .rest_response_send_error rv id => Rest.rest_response_send_error context cookie rv id

section Requests

-- One turn of the loop that reads a request.
inductive Received where
  | selectError
  | timeout
  | retry
  | readError
  | closedByPeer
  | data (length : Nat)
  deriving DecidableEq

-- What the parser, the search for the id, the module manager and the handler it
-- finds return.
structure Processing where
  parsed : BVIEW_STATUS
  ret : BVIEW_STATUS
  id : Int
  found : BVIEW_STATUS
  handled : BVIEW_STATUS

-- The request is given up with an error as text or, when its id is known, as JSON.
def giveUp (process : Processing) (fd : Fd) (status : BVIEW_STATUS) (page : Effect) :
    List Effect :=
  (if process.ret = .SUCCESS then rest_json_error_fn_invoke fd status process.id else [page]) ++
    [.close fd]

-- rest_process_http_request from the end of the reading loop on. The flag tells
-- whether the request is left to the application.
def process_request (context : REST_CONTEXT) (slot : Nat) (fd : Fd) (process : Processing) :
    REST_CONTEXT × List Effect × Bool :=
  let session := setSession context slot { context.sessions slot with connectionFd := fd }
  if process.parsed ≠ .SUCCESS then
    (if process.ret = .SUCCESS then setInUse session slot false else session,
      giveUp process fd .UNSUPPORTED (rest_send_404 fd), false)
  else
    let used := setInUse session slot true
    if process.found ≠ .SUCCESS then
      (setInUse used slot false, giveUp process fd .UNSUPPORTED (rest_send_404 fd), false)
    else if process.handled ≠ .SUCCESS then
      (setInUse used slot false, giveUp process fd process.handled
        (if process.handled = .INVALID_JSON then rest_send_500 fd else rest_send_400 fd), false)
    else
      (used, [], true)

end Requests

end BroadView.Rest
