import BroadView.Rest.Session
import BroadView.Transition

namespace BroadView.Rest

open Transition

-- A connection as its two ends see it, from the time it is accepted.
structure Conn where
  opened : Bool
  answered : Bool
  reachable : Bool
  deriving DecidableEq

def Effect.record (conn : Fd → Conn) : Effect → Fd → Conn
  | .send fd _ _ => Function.update conn fd { conn fd with answered := true }
  | .close fd => Function.update conn fd { conn fd with opened := false }
  | .rest_send_async_report _ => conn

def recordAll (conn : Fd → Conn) (effects : List Effect) : Fd → Conn :=
  effects.foldl Effect.record conn

-- The server thread waits for a connection, or reads the request of one.
inductive Thread where
  | accepting
  | reading (slot : Nat) (fd : Fd)
  | received (slot : Nat) (fd : Fd)
  deriving DecidableEq

def Thread.serves : Thread → Option (Nat × Fd)
  | .accepting => none
  | .reading slot fd => some (slot, fd)
  | .received slot fd => some (slot, fd)

-- A request handed to the application: its cookie and its connection.
abbrev Request := Nat × Fd

structure SERVER where
  context : REST_CONTEXT
  thread : Thread
  pending : List Request
  conn : Fd → Conn

-- The server thread takes the first three, each of its requests one after the
-- other. The threads of the applications answer the requests they hold, and a
-- peer may leave at any time.
inductive Action where
  | accept (fd : Fd)
  | receive (received : Received)
  | process (process : Processing)
  | respond (request : Request) (answer : Answer)
  | leave (fd : Fd)

-- The kernel names a new connection by a descriptor that is not open.
def accept (server : SERVER) (fd : Fd) : SERVER :=
  let conn := Function.update server.conn fd ⟨true, false, true⟩
  let (sessionId, context) := rest_allocate_session server.context
  match sessionId with
  | none => { server with context, conn }
  | some slot => { server with context, conn, thread := .reading slot fd }

def received_next (slot : Nat) (fd : Fd) : Received → Thread × List Effect
  | .selectError => (.accepting, [.close fd])
  | .readError => (.accepting, [.close fd])
  | .timeout => (.received slot fd, [])
  | .closedByPeer => (.received slot fd, [])
  | .retry => (.reading slot fd, [])
  | .data _ => (.reading slot fd, [])

-- The calls that an action makes.
def emits (server : SERVER) : Action → List Effect
  | .receive received =>
      match server.thread with
      | .reading slot fd => (received_next slot fd received).2
      | _ => []
  | .process process =>
      match server.thread with
      | .received slot fd => (process_request server.context slot fd process).2.1
      | _ => []
  | .respond request answer =>
      if request ∈ server.pending then (answer.give server.context (some request.1)).2 else []
  | _ => []

def step (server : SERVER) (act : Action) : SERVER :=
  let conn := recordAll server.conn (emits server act)
  match act with
  | .accept fd =>
      if server.thread = .accepting ∧ (server.conn fd).opened = false then accept server fd
      else server
  | .receive received =>
      match server.thread with
      | .reading slot fd =>
          { server with thread := (received_next slot fd received).1, conn }
      | _ => server
  | .process process =>
      match server.thread with
      | .received slot fd =>
          let (context, _, dispatched) := process_request server.context slot fd process
          { context, conn
            thread := .accepting
            pending := if dispatched then (slot, fd) :: server.pending else server.pending }
      | _ => server
  | .respond request answer =>
      if request ∈ server.pending then
        { server with
          context := (answer.give server.context (some request.1)).1
          pending := server.pending.erase request
          conn }
      else server
  | .leave fd =>
      { server with
        conn := Function.update server.conn fd { server.conn fd with reachable := false } }

-- rest_sessions_init.
def rest_sessions_init : SERVER :=
  { context := { sessions := fun _ => { inUse := false, connectionFd := 0 } }
    thread := .accepting
    pending := []
    conn := fun _ => ⟨false, false, false⟩ }

-- The requests and the connection that the server has to account for.
def SERVER.holds (server : SERVER) : List Request :=
  server.thread.serves.toList ++ server.pending

-- A slot of the table is in use exactly while a request holds its cookie, whose
-- connection it names, no cookie or connection has two owners, and the open
-- connections are those that are accounted for.
structure Sound (server : SERVER) : Prop where
  used : ∀ slot < REST_MAX_SESSIONS, (server.context.sessions slot).inUse = true ↔
    slot ∈ server.pending.map Prod.fst
  owner : ∀ request ∈ server.pending,
    (server.context.sessions request.1).connectionFd = request.2
  slots : ∀ request ∈ server.holds, request.1 < REST_MAX_SESSIONS
  cookies : (server.holds.map Prod.fst).Nodup
  connections : (server.holds.map Prod.snd).Nodup
  opened : ∀ fd, (server.conn fd).opened = true ↔ fd ∈ server.holds.map Prod.snd

-- What an action may do to the connections: an answer touches only the
-- connection of the request it answers, and a connection is closed once, while
-- it is open, and after it was answered unless its peer has left.
structure StepSound (server : SERVER) (act : Action) : Prop where
  own : ∀ request answer, act = .respond request answer → ∀ effect ∈ emits server act,
    ∀ fd, effect.fd = some fd → fd = request.2
  once : ∀ fd, Effect.close fd ∈ emits server act →
    (server.conn fd).opened = true ∧ (emits server act).count (.close fd) = 1
  answered : ∀ fd, Effect.close fd ∈ emits server act → (server.conn fd).reachable = true →
    ((step server act).conn fd).answered = true
  sound : Sound (step server act)

def listed (rv : BVIEW_STATUS) : Bool := (rest_get_json_error_data rv).isSome

def Answer.answers : Answer → Bool
  | .rest_response_send pBuf => pBuf.isSome
  | .rest_response_send_ok => true
  | .rest_response_send_error rv _ => listed rv

def Processing.answers (process : Processing) : Bool :=
  process.parsed ≠ .SUCCESS || process.found ≠ .SUCCESS || process.handled = .SUCCESS ||
    process.ret ≠ .SUCCESS || listed process.handled

-- A connection finds a free session, no call fails while its peer is there, and
-- an error that has to be told to the peer is listed in the error table.
def StepAllowed (server : SERVER) : Action → Prop
  | .accept fd =>
      server.thread = .accepting → (server.conn fd).opened = false →
        ∃ slot < REST_MAX_SESSIONS, (server.context.sessions slot).inUse = false
  | .receive received =>
      ∀ slot fd, server.thread = .reading slot fd → (server.conn fd).reachable = true →
        received ≠ .selectError ∧ received ≠ .readError
  | .process process =>
      ∀ slot fd, server.thread = .received slot fd → (server.conn fd).reachable = true →
        process.answers = true
  | .respond request answer =>
      request ∈ server.pending → (server.conn request.2).reachable = true →
        answer.answers = true
  | .leave _ => True

end BroadView.Rest
