import BroadView.Rest.Server

namespace BroadView.Rest

open Transition

section Effects

-- Calls that answer a connection, or leave it unanswered, and then close it.
structure Closes (fd : Fd) (told : Bool) (effects : List Effect) : Prop where
  shape : ∃ lines, effects = lines ++ [.close fd] ∧ (lines ≠ [] ↔ told = true) ∧
    ∀ effect ∈ lines, ∃ line data, effect = .send fd line data

variable {fd : Fd} {told : Bool} {effects : List Effect}

theorem closes_send (line : HttpStatus) (data : List Char) :
    Closes fd true [.send fd line data, .close fd] :=
  ⟨[.send fd line data], rfl, by simp, by simp⟩

theorem closes_silent : Closes fd false [.close fd] := ⟨[], rfl, by simp, by simp⟩

theorem closes_error (rv : BVIEW_STATUS) (id : Int) :
    Closes fd (listed rv) (rest_json_error_fn_invoke fd rv id ++ [.close fd]) := by
  refine ⟨_, rfl, ?_, ?_⟩
  · unfold rest_json_error_fn_invoke listed
    cases rest_get_json_error_data rv <;> simp
  · intro effect hmem
    unfold rest_json_error_fn_invoke at hmem
    cases hdata : rest_get_json_error_data rv with
    | none => simp [hdata] at hmem
    | some error =>
        simp only [hdata, List.mem_singleton] at hmem
        have herror : error ∈ rest_json_error_array := List.mem_of_find?_eq_some hdata
        simp only [rest_json_error_array, List.mem_cons, List.not_mem_nil, or_false] at herror
        rcases herror with rfl | rfl | rfl | rfl | rfl | rfl | rfl | rfl <;> exact ⟨_, _, hmem⟩

namespace Closes

theorem close_mem (h : Closes fd told effects) (other : Fd) :
    Effect.close other ∈ effects ↔ other = fd := by
  obtain ⟨lines, rfl, -, hlines⟩ := h.shape
  have hnot : Effect.close other ∉ lines := fun hmem => by
    obtain ⟨line, data, h⟩ := hlines _ hmem
    cases h
  simp [hnot]

theorem close_count (h : Closes fd told effects) : effects.count (.close fd) = 1 := by
  obtain ⟨lines, rfl, -, hlines⟩ := h.shape
  have hnot : Effect.close fd ∉ lines := fun hmem => by
    obtain ⟨line, data, h⟩ := hlines _ hmem
    cases h
  rw [List.count_append, List.count_eq_zero.mpr hnot]
  simp

theorem own (h : Closes fd told effects) {effect : Effect} (hmem : effect ∈ effects) :
    effect.fd = some fd := by
  obtain ⟨lines, rfl, -, hlines⟩ := h.shape
  rcases List.mem_append.mp hmem with hline | hclose
  · obtain ⟨line, data, rfl⟩ := hlines _ hline
    rfl
  · rw [List.mem_singleton.mp hclose]
    rfl

theorem record (h : Closes fd told effects) (conn : Fd → Conn) :
    recordAll conn effects = Function.update conn fd
      { conn fd with opened := false, answered := (conn fd).answered || told } := by
  obtain ⟨lines, rfl, htold, hlines⟩ := h.shape
  clear h
  induction lines generalizing conn told with
  | nil =>
      have hsilent : told = false := by simpa using htold
      simp [recordAll, Effect.record, hsilent]
  | cons effect rest ih =>
      obtain ⟨line, data, rfl⟩ := hlines effect List.mem_cons_self
      have hanswered : told = true := htold.mp (by simp)
      have hrest := @ih (decide (rest ≠ [])) (Effect.record conn (.send fd line data))
        (by simp) fun other hmem => hlines other (List.mem_cons_of_mem _ hmem)
      have hfold : recordAll conn (.send fd line data :: rest ++ [.close fd]) =
          recordAll (Effect.record conn (.send fd line data)) (rest ++ [.close fd]) := rfl
      rw [hfold, hrest]
      simp [Effect.record, hanswered]

end Closes

end Effects

section Calls

variable (context : REST_CONTEXT)

theorem setSession_of_ne {slot other : Nat} (session : REST_SESSION) (h : other ≠ slot) :
    (setSession context slot session).sessions other = context.sessions other :=
  Function.update_of_ne h _ _

@[simp] theorem setInUse_inUse (slot other : Nat) (inUse : Bool) :
    ((setInUse context slot inUse).sessions other).inUse =
      if other = slot then inUse else (context.sessions other).inUse := by
  by_cases hother : other = slot
  · simp [setInUse, setSession, hother]
  · simp [setInUse, setSession, hother]

@[simp] theorem setInUse_connectionFd (slot other : Nat) (inUse : Bool) :
    ((setInUse context slot inUse).sessions other).connectionFd =
      (context.sessions other).connectionFd := by
  by_cases hother : other = slot
  · simp [setInUse, setSession, hother]
  · simp [setInUse, setSession, hother]

-- Every answer on a cookie of the table releases its session and closes the
-- connection that the session names.
theorem answer_gives (answer : Answer) {slot : Nat} (hslot : slot < REST_MAX_SESSIONS) :
    (answer.give context (some slot)).1 = setInUse context slot false ∧
      Closes (context.sessions slot).connectionFd answer.answers
        (answer.give context (some slot)).2 := by
  have hvalid : rest_session_validate slot = .SUCCESS := if_pos hslot
  cases answer with
  | rest_response_send pBuf =>
      cases pBuf with
      | none =>
          simp only [Answer.give, rest_response_send, hvalid, release, if_true]
          exact ⟨trivial, closes_silent⟩
      | some buffer =>
          simp only [Answer.give, rest_response_send, hvalid, release, if_true]
          exact ⟨trivial, closes_send _ _⟩
  | rest_response_send_ok =>
      simp only [Answer.give, rest_response_send_ok, rest_session_fd_get, hvalid, release, if_true]
      exact ⟨trivial, closes_send _ _⟩
  | rest_response_send_error rv id =>
      simp only [Answer.give, rest_response_send_error, rest_send_json_error, rest_session_fd_get,
        hvalid, release, if_true]
      exact ⟨trivial, closes_error rv id⟩

theorem giveUp_closes (process : Processing) {fd : Fd} (status : BVIEW_STATUS) {page : Effect}
    (hpage : ∃ line data, page = .send fd line data) :
    Closes fd (process.ret ≠ .SUCCESS || listed status) (giveUp process fd status page) := by
  obtain ⟨line, data, rfl⟩ := hpage
  unfold giveUp
  by_cases hret : process.ret = .SUCCESS
  · simpa [hret] using closes_error status process.id
  · simpa [hret] using closes_send line data

def Processing.dispatched (process : Processing) : Bool :=
  process.parsed = .SUCCESS && process.found = .SUCCESS && process.handled = .SUCCESS

theorem process_dispatched (slot : Nat) (fd : Fd) {process : Processing}
    (h : process.dispatched = true) :
    process_request context slot fd process =
      (setInUse (setSession context slot { context.sessions slot with connectionFd := fd }) slot
        true, [], true) := by
  simp only [Processing.dispatched, Bool.and_eq_true, decide_eq_true_eq] at h
  simp [process_request, h]

theorem process_dropped (slot : Nat) (fd : Fd) {process : Processing}
    (h : process.dispatched = false) :
    (process_request context slot fd process).2.2 = false ∧
      Closes fd process.answers (process_request context slot fd process).2.1 := by
  have hunsupported : listed .UNSUPPORTED = true := by decide
  have htold := giveUp_closes process .UNSUPPORTED ⟨_, _, Eq.refl (rest_send_404 fd)⟩
  rw [hunsupported, Bool.or_true] at htold
  unfold process_request
  by_cases hparsed : process.parsed = .SUCCESS
  · by_cases hfound : process.found = .SUCCESS
    · have hhandled : process.handled ≠ .SUCCESS := by
        simpa [Processing.dispatched, hparsed, hfound] using h
      have hanswers : process.answers =
          (decide (process.ret ≠ .SUCCESS) || listed process.handled) := by
        simp [Processing.answers, hparsed, hfound, hhandled]
      simp only [hparsed, hfound, hhandled, ne_eq, not_true_eq_false, not_false_eq_true, if_false,
        if_true, true_and, hanswers]
      split_ifs
      · exact giveUp_closes process process.handled ⟨_, _, Eq.refl (rest_send_500 fd)⟩
      · exact giveUp_closes process process.handled ⟨_, _, Eq.refl (rest_send_400 fd)⟩
    · have hanswers : process.answers = true := by simp [Processing.answers, hfound]
      simpa [hparsed, hfound, hanswers] using htold
  · have hanswers : process.answers = true := by simp [Processing.answers, hparsed]
    simpa [hparsed, hanswers] using htold

-- A request that is not left to the application leaves its slot free.
theorem process_dropped_context {slot : Nat} (fd : Fd) {process : Processing}
    (h : process.dispatched = false) (hfree : (context.sessions slot).inUse = false)
    (other : Nat) :
    ((process_request context slot fd process).1.sessions other).inUse =
        (context.sessions other).inUse ∧
      (other ≠ slot → ((process_request context slot fd process).1.sessions other).connectionFd =
        (context.sessions other).connectionFd) := by
  unfold process_request
  by_cases hother : other = slot
  · subst hother
    refine ⟨?_, fun hne => absurd rfl hne⟩
    split_ifs <;> simp_all [setSession, Processing.dispatched]
  · refine ⟨?_, fun _ => ?_⟩
    · split_ifs <;> simp_all [setSession, Processing.dispatched]
    · split_ifs <;> simp_all [setSession, Processing.dispatched]

end Calls

section Step

variable {server : SERVER} {act : Action}

-- No connection that the server still accounts for has been answered.
structure Inv (server : SERVER) : Prop where
  sound : Sound server
  unanswered : ∀ request ∈ server.holds, (server.conn request.2).answered = false

-- Closing the connection of a request that is accounted for.
theorem inv_close {server' : SERVER} {answered : Bool} (hinv : Inv server) (request : Request)
    (hholds : server.holds.Perm (request :: server'.holds))
    (hconn : server'.conn = Function.update server.conn request.2
      { server.conn request.2 with opened := false, answered })
    (hused : ∀ slot < REST_MAX_SESSIONS, (server'.context.sessions slot).inUse = true ↔
      slot ∈ server'.pending.map Prod.fst)
    (howner : ∀ request ∈ server'.pending,
      (server'.context.sessions request.1).connectionFd = request.2) :
    Inv server' := by
  have hmem : ∀ other ∈ server'.holds, other ∈ server.holds := fun other hother =>
    hholds.mem_iff.mpr (List.mem_cons_of_mem request hother)
  have hcookies := (hholds.map Prod.fst).nodup hinv.sound.cookies
  have hconnections := (hholds.map Prod.snd).nodup hinv.sound.connections
  rw [List.map_cons, List.nodup_cons] at hcookies hconnections
  refine ⟨⟨hused, howner, fun other h => hinv.sound.slots other (hmem other h), hcookies.2,
    hconnections.2, fun fd => ?_⟩, fun other hother => ?_⟩
  · have hopened := hinv.sound.opened fd
    rw [(hholds.map Prod.snd).mem_iff, List.map_cons, List.mem_cons] at hopened
    rw [hconn]
    by_cases hfd : fd = request.2
    · subst hfd
      simpa using hconnections.1
    · rw [Function.update_of_ne hfd, hopened]
      exact or_iff_right hfd
  · have hne : other.2 ≠ request.2 := fun heq =>
      hconnections.1 (heq ▸ List.mem_map_of_mem hother)
    rw [hconn, Function.update_of_ne hne]
    exact hinv.unanswered other (hmem other hother)

-- Opening a connection that is then accounted for.
theorem inv_open {server' : SERVER} (hinv : Inv server) (request : Request)
    (hholds : server'.holds = request :: server.holds) (hslot : request.1 < REST_MAX_SESSIONS)
    (hcookie : request.1 ∉ server.holds.map Prod.fst)
    (hnew : request.2 ∉ server.holds.map Prod.snd)
    (hconn : server'.conn = Function.update server.conn request.2 ⟨true, false, true⟩)
    (hused : ∀ slot < REST_MAX_SESSIONS, (server'.context.sessions slot).inUse = true ↔
      slot ∈ server'.pending.map Prod.fst)
    (howner : ∀ request ∈ server'.pending,
      (server'.context.sessions request.1).connectionFd = request.2) :
    Inv server' := by
  refine ⟨⟨hused, howner, ?_, ?_, ?_, fun fd => ?_⟩, ?_⟩
  · rw [hholds]
    intro other hmem
    rcases List.mem_cons.mp hmem with rfl | hheld
    · exact hslot
    · exact hinv.sound.slots other hheld
  · rw [hholds, List.map_cons, List.nodup_cons]
    exact ⟨hcookie, hinv.sound.cookies⟩
  · rw [hholds, List.map_cons, List.nodup_cons]
    exact ⟨hnew, hinv.sound.connections⟩
  · rw [hholds, hconn, List.map_cons, List.mem_cons]
    by_cases heq : fd = request.2
    · simp [heq]
    · rw [Function.update_of_ne heq, hinv.sound.opened fd]
      exact (or_iff_right heq).symm
  · rw [hholds, hconn]
    intro other hmem
    rcases List.mem_cons.mp hmem with rfl | hheld
    · simp
    · have hne : other.2 ≠ request.2 := fun heq => hnew (heq ▸ List.mem_map_of_mem hheld)
      rw [Function.update_of_ne hne]
      exact hinv.unanswered other hheld

theorem stepSound_silent_iff (hemits : emits server act = []) :
    StepSound server act ↔ Sound (step server act) := by
  refine ⟨fun h => h.sound, fun hsound => ⟨fun _ _ _ effect hmem => ?_, fun _ hmem => ?_,
    fun _ hmem => ?_, hsound⟩⟩
  all_goals
    rw [hemits] at hmem
    cases hmem

theorem stepSound_close_iff {request : Request} {told : Bool} (hinv : Inv server)
    (hrequest : request ∈ server.holds) (hcloses : Closes request.2 told (emits server act))
    (hconn : (step server act).conn = recordAll server.conn (emits server act))
    (hsound : Sound (step server act))
    (hown : ∀ other answer, act = .respond other answer → other = request) :
    StepSound server act ↔ ((server.conn request.2).reachable = true → told = true) := by
  have hopened : (server.conn request.2).opened = true :=
    (hinv.sound.opened _).mpr (List.mem_map_of_mem hrequest)
  have hanswered : ((step server act).conn request.2).answered = told := by
    rw [hconn, hcloses.record]
    simp [hinv.unanswered request hrequest]
  constructor
  · intro h hreachable
    rw [← hanswered]
    exact h.answered request.2 ((hcloses.close_mem _).mpr rfl) hreachable
  · refine fun htold => ⟨fun other answer hact effect hmem fd hfd => ?_, fun fd hmem => ?_,
      fun fd hmem hreachable => ?_, hsound⟩
    · rw [hcloses.own hmem, Option.some.injEq] at hfd
      rw [hown other answer hact, hfd]
    · obtain rfl := (hcloses.close_mem fd).mp hmem
      exact ⟨hopened, hcloses.close_count⟩
    · obtain rfl := (hcloses.close_mem fd).mp hmem
      rw [hanswered]
      exact htold hreachable

-- The slot of the request that is being read is not in use.
theorem served_free (hinv : Inv server) {slot : Nat} {fd : Fd}
    (hserves : server.thread.serves = some (slot, fd)) :
    (server.context.sessions slot).inUse = false ∧ slot ∉ server.pending.map Prod.fst := by
  have hcookies := hinv.sound.cookies
  have hslot : slot < REST_MAX_SESSIONS :=
    hinv.sound.slots (slot, fd) (by simp [SERVER.holds, hserves])
  rw [SERVER.holds, hserves, Option.toList_some, List.singleton_append, List.map_cons,
    List.nodup_cons] at hcookies
  refine ⟨?_, hcookies.1⟩
  rw [← Bool.not_eq_true, hinv.sound.used slot hslot]
  exact hcookies.1

theorem inv_of_holds {server' : SERVER} (hinv : Inv server)
    (hholds : server'.holds = server.holds)
    (hconn : ∀ fd, (server'.conn fd).opened = (server.conn fd).opened ∧
      (server'.conn fd).answered = (server.conn fd).answered)
    (hused : ∀ slot < REST_MAX_SESSIONS, (server'.context.sessions slot).inUse = true ↔
      slot ∈ server'.pending.map Prod.fst)
    (howner : ∀ request ∈ server'.pending,
      (server'.context.sessions request.1).connectionFd = request.2) :
    Inv server' := by
  obtain ⟨hsound, hunanswered⟩ := hinv
  refine ⟨⟨hused, howner, ?_, ?_, ?_, fun fd => ?_⟩, fun request hmem => ?_⟩
  · rw [hholds]
    exact hsound.slots
  · rw [hholds]
    exact hsound.cookies
  · rw [hholds]
    exact hsound.connections
  · rw [hholds, (hconn fd).1]
    exact hsound.opened fd
  · rw [hholds] at hmem
    rw [(hconn request.2).2]
    exact hunanswered request hmem

-- What every action is shown to meet.
def StepExact (server : SERVER) (act : Action) : Prop :=
  (StepSound server act ↔ StepAllowed server act) ∧
    (StepSound server act → Inv (step server act))

theorem stepExact_silent (hinv : Inv (step server act)) (hemits : emits server act = [])
    (hallowed : StepAllowed server act) : StepExact server act :=
  ⟨iff_of_true ((stepSound_silent_iff hemits).mpr hinv.sound) hallowed, fun _ => hinv⟩

theorem leave_exact (hinv : Inv server) (fd : Fd) : StepExact server (.leave fd) := by
  refine stepExact_silent (inv_of_holds hinv rfl (fun other => ?_) hinv.sound.used
    hinv.sound.owner) rfl trivial
  by_cases hother : other = fd
  · subst hother
    simp [step]
  · simp [step, Function.update_of_ne hother]

theorem receive_exact (hinv : Inv server) (received : Received) :
    StepExact server (.receive received) := by
  cases hthread : server.thread with
  | accepting =>
      refine stepExact_silent ?_ (by simp [emits, hthread]) fun slot fd h => ?_
      · simpa [step, hthread] using hinv
      · cases hthread.symm.trans h
  | received slot fd =>
      refine stepExact_silent ?_ (by simp [emits, hthread]) fun slot fd h => ?_
      · simpa [step, hthread] using hinv
      · cases hthread.symm.trans h
  | reading slot fd =>
      have hserves : server.thread.serves = some (slot, fd) := by rw [hthread]; rfl
      have hholds : server.holds = (slot, fd) :: server.pending := by
        rw [SERVER.holds, hserves]
        rfl
      have hstep : step server (.receive received) =
          { server with
            thread := (received_next slot fd received).1
            conn := recordAll server.conn (received_next slot fd received).2 } := by
        simp [step, emits, hthread]
      have hemits : emits server (.receive received) = (received_next slot fd received).2 := by
        simp [emits, hthread]
      by_cases herror : received = .selectError ∨ received = .readError
      · have hnext : received_next slot fd received = (.accepting, [.close fd]) := by
          rcases herror with rfl | rfl <;> rfl
        rw [hnext] at hstep hemits
        have hcloses : Closes fd false (emits server (.receive received)) :=
          hemits ▸ closes_silent
        have hconn : (step server (.receive received)).conn =
            recordAll server.conn (emits server (.receive received)) := by rw [hstep, hemits]
        have hafter : Inv (step server (.receive received)) := by
          refine inv_close hinv (slot, fd) ?_ (hconn.trans (hcloses.record _)) ?_ ?_
          · rw [hholds, hstep]
            exact List.Perm.refl _
          · rw [hstep]
            exact hinv.sound.used
          · rw [hstep]
            exact hinv.sound.owner
        refine ⟨?_, fun _ => hafter⟩
        rw [stepSound_close_iff hinv (hholds ▸ List.mem_cons_self) hcloses hconn hafter.sound
          fun _ _ h => nomatch h]
        constructor
        · intro htold slot' fd' h hreachable
          cases hthread.symm.trans h
          exact absurd (htold hreachable) (by decide)
        · intro hallowed hreachable
          obtain ⟨hselect, hread⟩ := hallowed slot fd hthread hreachable
          exact absurd herror (by simp [hselect, hread])
      · have hnext : (received_next slot fd received).1.serves = some (slot, fd) ∧
            (received_next slot fd received).2 = [] := by
          cases received <;> simp_all [received_next, Thread.serves]
        rw [hnext.2] at hstep hemits
        refine stepExact_silent ?_ hemits fun _ _ _ _ => not_or.mp herror
        rw [hstep]
        refine inv_of_holds hinv ?_ (fun _ => ⟨rfl, rfl⟩) hinv.sound.used hinv.sound.owner
        rw [hholds, SERVER.holds, hnext.1]
        rfl

theorem process_exact (hinv : Inv server) (process : Processing) :
    StepExact server (.process process) := by
  cases hthread : server.thread with
  | accepting =>
      refine stepExact_silent ?_ (by simp [emits, hthread]) fun slot fd h => ?_
      · simpa [step, hthread] using hinv
      · cases hthread.symm.trans h
  | reading slot fd =>
      refine stepExact_silent ?_ (by simp [emits, hthread]) fun slot fd h => ?_
      · simpa [step, hthread] using hinv
      · cases hthread.symm.trans h
  | received slot fd =>
      have hserves : server.thread.serves = some (slot, fd) := by rw [hthread]; rfl
      have hholds : server.holds = (slot, fd) :: server.pending := by
        rw [SERVER.holds, hserves]
        rfl
      obtain ⟨hfree, hnot⟩ := served_free hinv hserves
      have hne : ∀ request ∈ server.pending, request.1 ≠ slot := fun request hmem heq =>
        hnot (heq ▸ List.mem_map_of_mem hmem)
      have hemits : emits server (.process process) =
          (process_request server.context slot fd process).2.1 := by simp [emits, hthread]
      cases hdispatched : process.dispatched with
      | true =>
          have hprocess := process_dispatched server.context slot fd hdispatched
          have hanswers : process.answers = true := by
            simp only [Processing.dispatched, Bool.and_eq_true, decide_eq_true_eq] at hdispatched
            simp [Processing.answers, hdispatched]
          rw [hprocess] at hemits
          have hstep : step server (.process process) =
              { server with
                context := setInUse (setSession server.context slot
                  { server.context.sessions slot with connectionFd := fd }) slot true
                thread := .accepting
                pending := (slot, fd) :: server.pending } := by
            simp [step, hthread, hprocess, hemits, recordAll]
          refine stepExact_silent ?_ hemits fun _ _ _ _ => hanswers
          rw [hstep]
          refine inv_of_holds hinv hholds.symm (fun _ => ⟨rfl, rfl⟩) (fun other hother => ?_)
            fun request hmem => ?_
          · by_cases heq : other = slot
            · simp [heq]
            · have hused := hinv.sound.used other hother
              rw [setInUse_inUse, if_neg heq, setSession_of_ne _ _ heq, hused,
                List.map_cons, List.mem_cons]
              exact (or_iff_right heq).symm
          · rw [setInUse_connectionFd]
            rcases List.mem_cons.mp hmem with rfl | hpending
            · simp [setSession]
            · rw [setSession_of_ne _ _ (hne request hpending)]
              exact hinv.sound.owner request hpending
      | false =>
          obtain ⟨hkept, hcloses⟩ := process_dropped server.context slot fd hdispatched
          have hcontext := process_dropped_context server.context fd hdispatched hfree
          rw [← hemits] at hcloses
          have hstep : step server (.process process) =
              { server with
                context := (process_request server.context slot fd process).1
                thread := .accepting
                conn := recordAll server.conn (emits server (.process process)) } := by
            simp [step, hthread, hkept]
          have hconn : (step server (.process process)).conn =
              recordAll server.conn (emits server (.process process)) := by rw [hstep]
          have hafter : Inv (step server (.process process)) := by
            refine inv_close hinv (slot, fd) ?_ (hconn.trans (hcloses.record _)) ?_ ?_
            · rw [hholds, hstep]
              exact List.Perm.refl _
            · rw [hstep]
              intro other hother
              rw [(hcontext other).1]
              exact hinv.sound.used other hother
            · rw [hstep]
              intro request hmem
              rw [(hcontext request.1).2 (hne request hmem)]
              exact hinv.sound.owner request hmem
          refine ⟨?_, fun _ => hafter⟩
          rw [stepSound_close_iff hinv (hholds ▸ List.mem_cons_self) hcloses hconn hafter.sound
            fun _ _ h => nomatch h]
          constructor
          · intro htold slot' fd' h hreachable
            cases hthread.symm.trans h
            exact htold hreachable
          · exact fun hallowed => hallowed slot fd hthread

theorem respond_exact (hinv : Inv server) (request : Request) (answer : Answer) :
    StepExact server (.respond request answer) := by
  by_cases hmem : request ∈ server.pending
  · have hrequest : request ∈ server.holds := List.mem_append_right _ hmem
    obtain ⟨hcontext, hcloses⟩ := answer_gives server.context answer
      (hinv.sound.slots request hrequest)
    have hemits : emits server (.respond request answer) =
        (answer.give server.context (some request.1)).2 := by simp [emits, hmem]
    rw [hinv.sound.owner request hmem, ← hemits] at hcloses
    have hstep : step server (.respond request answer) =
        { server with
          context := setInUse server.context request.1 false
          pending := server.pending.erase request
          conn := recordAll server.conn (emits server (.respond request answer)) } := by
      simp [step, hmem, hcontext]
    have hconn : (step server (.respond request answer)).conn =
        recordAll server.conn (emits server (.respond request answer)) := by rw [hstep]
    have hperm := List.perm_cons_erase hmem
    have hcookies : (request.1 :: (server.pending.erase request).map Prod.fst).Nodup := by
      have hnodup := hinv.sound.cookies
      rw [SERVER.holds, List.map_append] at hnodup
      exact (hperm.map Prod.fst).nodup (List.nodup_append.mp hnodup).2.1
    have hnot := (List.nodup_cons.mp hcookies).1
    have hafter : Inv (step server (.respond request answer)) := by
      refine inv_close hinv request ?_ (hconn.trans (hcloses.record _)) ?_ ?_
      · rw [hstep]
        exact (hperm.append_left _).trans List.perm_middle
      · rw [hstep]
        intro slot hslot
        have hused := hinv.sound.used slot hslot
        rw [(hperm.map Prod.fst).mem_iff, List.map_cons, List.mem_cons] at hused
        rw [setInUse_inUse]
        by_cases heq : slot = request.1
        · subst heq
          simpa using hnot
        · rw [if_neg heq, hused]
          exact or_iff_right heq
      · rw [hstep]
        intro other hother
        rw [setInUse_connectionFd]
        exact hinv.sound.owner other (List.mem_of_mem_erase hother)
    refine ⟨?_, fun _ => hafter⟩
    rw [stepSound_close_iff hinv hrequest hcloses hconn hafter.sound fun other _ h => by
      cases h
      rfl]
    exact ⟨fun htold _ => htold, fun hallowed => hallowed hmem⟩
  · refine stepExact_silent ?_ (by simp [emits, hmem]) fun h => absurd h hmem
    simpa [step, hmem] using hinv

theorem accept_exact (hinv : Inv server) (fd : Fd) : StepExact server (.accept fd) := by
  by_cases henabled : server.thread = .accepting ∧ (server.conn fd).opened = false
  · obtain ⟨hthread, hclosed⟩ := henabled
    have hholds : server.holds = server.pending := by simp [SERVER.holds, hthread, Thread.serves]
    have hnew : fd ∉ server.holds.map Prod.snd := fun hmem => by
      rw [(hinv.sound.opened fd).mpr hmem] at hclosed
      cases hclosed
    have hstep : step server (.accept fd) = accept server fd := by simp [step, hthread, hclosed]
    cases hfree : Pool.firstFree REST_MAX_SESSIONS (usage server.context) with
    | none =>
        -- The connection stays open and nobody accounts for it.
        have hfull := Pool.firstFree_none_iff.mp hfree
        have hleak : ¬ Sound (step server (.accept fd)) := by
          intro hsound
          have hopened := hsound.opened fd
          rw [hstep, accept, rest_allocate_session, hfree] at hopened
          exact hnew (hopened.mp (by simp))
        have hnot : ¬ StepSound server (.accept fd) := fun h => hleak h.sound
        refine ⟨iff_of_false hnot fun hallowed => ?_, fun h => absurd h hnot⟩
        obtain ⟨slot, hslot, hunused⟩ := hallowed hthread hclosed
        exact absurd ((hfull slot hslot).symm.trans hunused) (by decide)
    | some slot =>
        obtain ⟨hslot, hunused⟩ := Pool.firstFree_free hfree
        have hnot : slot ∉ server.pending.map Prod.fst := by
          rw [← hinv.sound.used slot hslot]
          exact Bool.not_eq_true _ |>.mpr hunused
        refine stepExact_silent ?_ rfl fun _ _ => ⟨slot, hslot, hunused⟩
        have hafter : step server (.accept fd) =
            { server with
              context := setSession server.context slot { inUse := false, connectionFd := 0 }
              conn := Function.update server.conn fd ⟨true, false, true⟩
              thread := .reading slot fd } := by
          rw [hstep, accept, rest_allocate_session, hfree]
        rw [hafter]
        refine inv_open hinv (slot, fd) ?_ hslot (hholds ▸ hnot) hnew rfl ?_ ?_
        · rw [hholds]
          rfl
        · intro other hother
          by_cases heq : other = slot
          · subst heq
            simpa [setSession] using hnot
          · rw [setSession_of_ne _ _ heq]
            exact hinv.sound.used other hother
        · intro request hmem
          have hne : request.1 ≠ slot := fun heq => hnot (heq ▸ List.mem_map_of_mem hmem)
          rw [setSession_of_ne _ _ hne]
          exact hinv.sound.owner request hmem
  · refine stepExact_silent ?_ rfl fun hthread hclosed => absurd ⟨hthread, hclosed⟩ henabled
    simpa [step, henabled] using hinv

theorem step_exact (hinv : Inv server) (act : Action) : StepExact server act := by
  cases act with
  | accept fd => exact accept_exact hinv fd
  | receive received => exact receive_exact hinv received
  | process process => exact process_exact hinv process
  | respond request answer => exact respond_exact hinv request answer
  | leave fd => exact leave_exact hinv fd

end Step

theorem init_inv : Inv rest_sessions_init := by
  refine ⟨⟨?_, ?_, ?_, ?_, ?_, ?_⟩, ?_⟩ <;> simp [rest_sessions_init, SERVER.holds, Thread.serves]

-- From the start, the table and the connections stay sound at every step of a
-- run exactly when every step of it is allowed.
theorem session_pool_sound_iff (acts : List Action) :
    Sound rest_sessions_init ∧
      (Along step StepSound rest_sessions_init acts ↔
        Along step StepAllowed rest_sessions_init acts) := by
  refine ⟨init_inv.sound, ?_, ?_⟩
  · exact along_of_invariant Inv (fun _ act hinv h => (step_exact hinv act).2 h)
      (fun _ act hinv h => (step_exact hinv act).1.mp h) _ acts init_inv
  · exact along_of_invariant Inv
      (fun _ act hinv h => (step_exact hinv act).2 ((step_exact hinv act).1.mpr h))
      (fun _ act hinv h => (step_exact hinv act).1.mpr h) _ acts init_inv

-- A connection whose request is read and handed to the application.
def dispatchedConnection (fd : Fd) : List Action :=
  [.accept fd, .receive .closedByPeer,
    .process
      { parsed := .SUCCESS, ret := .SUCCESS, id := 1, found := .SUCCESS, handled := .SUCCESS }]

-- Five requests wait for their answers; the sixth connection is neither answered
-- nor closed.
theorem sixth_connection_leaks :
    ¬ Along step StepSound rest_sessions_init
      ((List.range 5).flatMap dispatchedConnection ++ [.accept 5]) := by
  intro hsound
  rw [along_append] at hsound
  have hlast := hsound.2.1.sound.opened 5
  exact absurd hlast (by decide)

end BroadView.Rest
