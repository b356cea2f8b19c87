import BroadView.Platform
import BroadView.Printf

namespace BroadView.Rest.Client

open Printf

def REST_MAX_HTTP_BUFFER_LENGTH : Nat := 2048

-- What the kernel answers. It takes at least one byte of what is sent, or returns
-- an error; the calls of send and setsockopt are numbered.
structure Kernel where
  takes : Nat → Option Nat
  setsockopt : Nat → Bool

-- The result of the send call for a number of bytes.
def Kernel.send (kernel : Kernel) (turn : Nat) (length : Int) : Int :=
  match kernel.takes turn with
  | none => -1
  | some more => min (more + 1) length

inductive Part where
  | header | body
  deriving DecidableEq, Repr

-- A call of send: where its bytes start, relative to the text they are from, how
-- many there are, and the result.
structure SendCall where
  part : Part
  position : Int
  length : Int
  result : Int
  deriving DecidableEq, Repr

def response : List Char :=
  "HTTP/1.1 200 OK \x0d\nServer: BroadViewAgent (Unix) (Linux) \x0d\n".toList ++
    "Content-Type: text/json \x0d\n\x0d\n".toList

theorem send_bounds (kernel : Kernel) (turn : Nat) {length : Int}
    (h : ¬ kernel.send turn length < 0) :
    kernel.send turn length ≤ length ∧ (0 < length → 0 < kernel.send turn length) := by
  unfold Kernel.send at h ⊢
  cases hturn : kernel.takes turn with
  | none => simp [hturn] at h
  | some more =>
      simp only
      omega

section Sends

variable (kernel : Kernel)

-- The loop over what is left of the body. A negative count of sent bytes moves
-- the window back.
def resend (turn : Nat) (position length bytes_sent : Int) (rv : BVIEW_STATUS) :
    List SendCall × BVIEW_STATUS :=
  if _hmore : length - bytes_sent > 0 then
    if kernel.setsockopt turn = false then ([], .FAILURE)
    else
      let call : SendCall :=
        { part := .body
          position := position + bytes_sent
          length := length - bytes_sent
          result := kernel.send turn (length - bytes_sent) }
      if _herror : kernel.send turn (length - bytes_sent) < 0 then ([call], .FAILURE)
      else
        let rest := resend (turn + 1) (position + bytes_sent) (length - bytes_sent)
          (kernel.send turn (length - bytes_sent)) rv
        (call :: rest.1, rest.2)
  else ([], rv)
termination_by (length - bytes_sent).toNat
decreasing_by
  have hbounds := send_bounds kernel turn _herror
  omega

def rest_send_200_with_data (buffer : List Char) : List SendCall × BVIEW_STATUS :=
  let length : Int := buffer.length
  let header : SendCall := ⟨.header, 0, response.length, kernel.send 0 response.length⟩
  let rv : BVIEW_STATUS := if header.result < 0 then .FAILURE else .SUCCESS
  let first : SendCall := ⟨.body, 0, length, kernel.send 1 length⟩
  let rv : BVIEW_STATUS := if first.result < 0 then .FAILURE else rv
  let rest := resend kernel 2 0 length first.result rv
  (header :: first :: rest.1, rest.2)

structure REST_CONFIG where
  clientIp : List Char
  clientPort : Int

-- Whether the calls on the way to the connection succeed.
structure Setup where
  socket : Bool
  pthread_mutex_lock : Bool
  inet_pton : Bool
  pthread_mutex_unlock : Bool
  connect : Bool

def header : List Char :=
  "POST /agent_response HTTP/1.1\x0d\nHost: BVIEW Client\x0d\n".toList ++
    "User-Agent: BroadViewAgent\x0d\n".toList ++
    "Accept: text/html,application/xhtml+xml,application/xml\x0d\n".toList ++
    "Content-Length: %d\x0d\n\x0d\n".toList

-- What snprintf leaves in the buffer of the header.
def reportHeader (length : Nat) : List Char :=
  (format header [.int length]).take (REST_MAX_HTTP_BUFFER_LENGTH - 2)

def isDefaultClient (config : REST_CONFIG) : Bool :=
  config.clientPort = SYSTEM_CONFIG_PROPERTY_CLIENT_PORT_DEFAULT ∧
    config.clientIp = SYSTEM_CONFIG_PROPERTY_CLIENT_IP_DEFAULT.toList

def rest_send_async_report (config : REST_CONFIG) (setup : Setup) (buffer : List Char) :
    List SendCall × BVIEW_STATUS :=
  if ¬ setup.socket then ([], .FAILURE)
  else if ¬ setup.pthread_mutex_lock then ([], .FAILURE)
  else if ¬ setup.pthread_mutex_unlock then ([], .FAILURE)
  else if ¬ setup.inet_pton then ([], .FAILURE)
  else if ¬ setup.connect ∧ isDefaultClient config then ([], .SUCCESS)
  else if ¬ setup.connect then ([], .FAILURE)
  else
    let length : Int := buffer.length
    let buf := reportHeader buffer.length
    let head : SendCall := ⟨.header, 0, buf.length, kernel.send 0 buf.length⟩
    let rv : BVIEW_STATUS := if head.result < 0 then .FAILURE else .SUCCESS
    let body : SendCall := ⟨.body, 0, length, kernel.send 1 length⟩
    let rv : BVIEW_STATUS := if body.result < 0 then .FAILURE else rv
    ([head, body], rv)

end Sends

end BroadView.Rest.Client
