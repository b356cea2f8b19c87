import BroadView.Rest.Serve.Theorems

-- The server together with the queues of the applications.
namespace BroadView.Rest.Delivery

open ModuleMgr Http Serve Transition

-- The messages that are not answered yet come each with the connection of their
-- request. The agent keeps no more of it than the cookie.
structure State where
  server : SERVER
  inbox : List (Posted × Fd)

-- The server thread takes the first three. An application takes a message off its
-- queue and answers it, in any order.
inductive Event where
  | accept (fd : Fd)
  | receive (received : Received)
  | serve (request : RequestBytes) (calls : Calls)
  | answer (entry : Posted × Fd) (answer : Answer)
  | leave (fd : Fd)

def start : State := { server := rest_sessions_init, inbox := [] }

variable (arith : CJson.Arithmetic) (modules : MODULES Handler)

-- What becomes of the request that is read, on which session and connection.
def served (state : State) (request : RequestBytes) (calls : Calls) :
    Option (Served × Fd) :=
  match state.server.thread with
  | .received slot fd => (serve arith modules calls slot request).map (·, fd)
  | _ => none

-- The application knows the session by the cookie, and the session its connection.
def answered (state : State) (entry : Posted × Fd) : Option Request :=
  if entry ∈ state.inbox then
    entry.1.cookie.map fun slot => (slot, (state.server.context.sessions slot).connectionFd)
  else none

def action (state : State) : Event → Option Action
  | .accept fd => some (.accept fd)
  | .receive received => some (.receive received)
  | .serve request calls =>
      (served arith modules state request calls).map fun result => .process result.1.process
  | .answer entry answer => (answered state entry).map (Action.respond · answer)
  | .leave fd => some (.leave fd)

def inboxAfter (state : State) : Event → List (Posted × Fd)
  | .serve request calls =>
      match served arith modules state request calls with
      | some (result, fd) => result.posted.toList.map (·, fd) ++ state.inbox
      | none => state.inbox
  | .answer entry _ => state.inbox.erase entry
  | _ => state.inbox

def step (state : State) (event : Event) : State :=
  { server := ((action arith modules state event).map (Rest.step state.server)).getD state.server
    inbox := inboxAfter arith modules state event }

-- The calls on connections that an event makes.
def emits (state : State) (event : Event) : List Effect :=
  ((action arith modules state event).map (Rest.emits state.server)).getD []

-- No request makes the agent leave an array, and what the server does is allowed.
-- A request that is served is no condition on what the application is sent.
def Allowed (state : State) : Event → Prop
  | .accept fd => StepAllowed state.server (.accept fd)
  | .receive received => StepAllowed state.server (.receive received)
  | .serve request calls =>
      ∀ slot fd, state.server.thread = .received slot fd →
        (served arith modules state request calls).isSome = true
  | .answer entry answer =>
      entry ∈ state.inbox → (state.server.conn entry.2).reachable = true → answer.answers = true
  | .leave _ => True

-- The messages that wait are those of the sessions in use, one for each, with the
-- connection of its request and an id that the request may have.
structure Waiting (state : State) : Prop where
  sound : Rest.Sound state.server
  sessions : (state.inbox.map fun entry => (entry.1.cookie, entry.2)).Perm
    (state.server.pending.map fun request => (some request.1, request.2))
  ids : ∀ entry ∈ state.inbox, 1 ≤ entry.1.id ∧ entry.1.id ≤ 100000

-- A request that is read is answered at once or makes one message for its session.
def ServedOnce (state : State) (request : RequestBytes) (calls : Calls) : Prop :=
  ∀ slot fd, state.server.thread = .received slot fd →
    (.close fd ∈ emits arith modules state (.serve request calls) ∧
        (step arith modules state (.serve request calls)).inbox = state.inbox) ∨
      (emits arith modules state (.serve request calls) = [] ∧
        ∃ msg, msg.cookie = some slot ∧
          (step arith modules state (.serve request calls)).inbox = (msg, fd) :: state.inbox)

-- An answer goes to the connection of its request and to no other, which is closed,
-- and the message does not wait any more.
def AnsweredOnce (state : State) (entry : Posted × Fd) (answer : Answer) : Prop :=
  entry ∈ state.inbox →
    .close entry.2 ∈ emits arith modules state (.answer entry answer) ∧
      (∀ effect ∈ emits arith modules state (.answer entry answer), effect.fd = some entry.2) ∧
      state.inbox.Perm (entry :: (step arith modules state (.answer entry answer)).inbox)

structure Delivers (state : State) (event : Event) : Prop where
  served : ∀ request calls, event = .serve request calls →
    ServedOnce arith modules state request calls
  answered : ∀ entry answer, event = .answer entry answer →
    AnsweredOnce arith modules state entry answer
  once : ∀ fd, Effect.close fd ∈ emits arith modules state event →
    (state.server.conn fd).opened = true ∧ (emits arith modules state event).count (.close fd) = 1
  told : ∀ fd, Effect.close fd ∈ emits arith modules state event →
    (state.server.conn fd).reachable = true →
      ((step arith modules state event).server.conn fd).answered = true
  waiting : Waiting (step arith modules state event)

end BroadView.Rest.Delivery
