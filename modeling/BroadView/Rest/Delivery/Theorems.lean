import BroadView.Rest.Delivery
import BroadView.Rest.Serve.Text

namespace BroadView.Rest.Delivery

open ModuleMgr Http Serve Transition

section Actions

variable {server : SERVER}

theorem step_allowed (hinv : Inv server) {act : Action} (h : StepAllowed server act) :
    StepSound server act ∧ Inv (Rest.step server act) := by
  have hsound := (step_exact hinv act).1.mpr h
  exact ⟨hsound, (step_exact hinv act).2 hsound⟩

theorem accept_pending (fd : Fd) : (Rest.step server (.accept fd)).pending = server.pending := by
  unfold Rest.step
  dsimp only
  split_ifs
  · unfold accept
    rcases rest_allocate_session server.context with ⟨sessionId, context⟩
    cases sessionId <;> rfl
  · rfl

theorem receive_pending (received : Received) :
    (Rest.step server (.receive received)).pending = server.pending := by
  unfold Rest.step
  dsimp only
  cases server.thread <;> rfl

theorem answers_of_dispatched {process : Processing} (h : process.dispatched = true) :
    process.answers = true := by
  simp only [Processing.dispatched, Bool.and_eq_true, decide_eq_true_eq] at h
  simp [Processing.answers, h]

variable {slot : Nat} {fd : Fd} {process : Processing}

theorem process_left (hthread : server.thread = .received slot fd)
    (h : process.dispatched = true) :
    Rest.emits server (.process process) = [] ∧
      (Rest.step server (.process process)).pending = (slot, fd) :: server.pending := by
  have hprocess := process_dispatched server.context slot fd h
  simp [Rest.emits, Rest.step, hthread, hprocess]

theorem process_given_up (hthread : server.thread = .received slot fd)
    (h : process.dispatched = false) :
    .close fd ∈ Rest.emits server (.process process) ∧
      (Rest.step server (.process process)).pending = server.pending := by
  obtain ⟨hkept, hcloses⟩ := process_dropped server.context slot fd h
  constructor
  · simp only [Rest.emits, hthread]
    exact (hcloses.close_mem fd).mpr rfl
  · simp [Rest.step, hthread, hkept]

theorem respond_given (hinv : Inv server) {request : Request} (hmem : request ∈ server.pending)
    (answer : Answer) :
    .close request.2 ∈ Rest.emits server (.respond request answer) ∧
      (∀ effect ∈ Rest.emits server (.respond request answer), effect.fd = some request.2) ∧
      (Rest.step server (.respond request answer)).pending = server.pending.erase request := by
  have hslot := hinv.sound.slots request (List.mem_append_right _ hmem)
  obtain ⟨-, hcloses⟩ := answer_gives server.context answer hslot
  rw [hinv.sound.owner request hmem] at hcloses
  have hemits : Rest.emits server (.respond request answer) =
      (answer.give server.context (some request.1)).2 := by simp [Rest.emits, hmem]
  rw [hemits]
  refine ⟨(hcloses.close_mem _).mpr rfl, fun effect heffect => hcloses.own heffect, ?_⟩
  simp [Rest.step, hmem]

end Actions

section Step

variable {arith : CJson.Arithmetic} {modules : MODULES Handler} {state : State} {event : Event}

-- A message with its connection as the sessions know them.
def entryKey (entry : Posted × Fd) : Option Nat × Fd := (entry.1.cookie, entry.2)

def requestKey (request : Request) : Option Nat × Fd := (some request.1, request.2)

structure Held (state : State) : Prop where
  inv : Inv state.server
  sessions : (state.inbox.map entryKey).Perm (state.server.pending.map requestKey)
  ids : ∀ entry ∈ state.inbox, 1 ≤ entry.1.id ∧ entry.1.id ≤ 100000

theorem Held.waiting (h : Held state) : Waiting state := ⟨h.inv.sound, h.sessions, h.ids⟩

-- The session that the cookie of a message names has the connection of the message.
theorem Held.answered (hheld : Held state) {entry : Posted × Fd} (hmem : entry ∈ state.inbox) :
    ∃ request ∈ state.server.pending, answered state entry = some request ∧
      requestKey request = entryKey entry := by
  have hkey : entryKey entry ∈ state.server.pending.map requestKey :=
    hheld.sessions.mem_iff.mp (List.mem_map_of_mem hmem)
  obtain ⟨request, hrequest, hsame⟩ := List.mem_map.mp hkey
  refine ⟨request, hrequest, ?_, hsame⟩
  have hcookie : entry.1.cookie = some request.1 := (congrArg Prod.fst hsame).symm
  have howner := hheld.inv.sound.owner request hrequest
  rw [Delivery.answered, if_pos hmem, hcookie, Option.map_some, howner]

-- An event whose action leaves the waiting requests as they are.
theorem held_same (hheld : Held state) {act : Action}
    (haction : action arith modules state event = some act)
    (hallowed : StepAllowed state.server act)
    (hpending : (Rest.step state.server act).pending = state.server.pending)
    (hinbox : (step arith modules state event).inbox = state.inbox) :
    Held (step arith modules state event) := by
  have hserver : (step arith modules state event).server = Rest.step state.server act := by
    simp [step, haction]
  refine ⟨?_, ?_, ?_⟩
  · rw [hserver]
    exact (step_allowed hheld.inv hallowed).2
  · rw [hserver, hpending]
    rw [hinbox]
    exact hheld.sessions
  · rw [hinbox]
    exact hheld.ids

theorem sound_calls (hheld : Held state) {act : Action}
    (haction : action arith modules state event = some act)
    (hallowed : StepAllowed state.server act) (fd : Fd)
    (hclose : Effect.close fd ∈ emits arith modules state event) :
    ((state.server.conn fd).opened = true ∧
        (emits arith modules state event).count (.close fd) = 1) ∧
      ((state.server.conn fd).reachable = true →
        ((step arith modules state event).server.conn fd).answered = true) := by
  have hsound := (step_allowed hheld.inv hallowed).1
  have hserver : (step arith modules state event).server = Rest.step state.server act := by
    simp [step, haction]
  have hemits : emits arith modules state event = Rest.emits state.server act := by
    simp [emits, haction]
  rw [hemits] at hclose ⊢
  rw [hserver]
  exact ⟨hsound.once fd hclose, hsound.answered fd hclose⟩

-- What every event is shown to meet.
def EventExact (arith : CJson.Arithmetic) (modules : MODULES Handler) (state : State)
    (event : Event) : Prop :=
  Held (step arith modules state event) ∧ Delivers arith modules state event

theorem silent_exact (hheld : Held state) (hserve : ∀ request calls, event ≠ .serve request calls)
    (hanswer : ∀ entry answer, event ≠ .answer entry answer) {act : Action}
    (haction : action arith modules state event = some act)
    (hallowed : StepAllowed state.server act)
    (hpending : (Rest.step state.server act).pending = state.server.pending)
    (hinbox : (step arith modules state event).inbox = state.inbox) :
    EventExact arith modules state event := by
  have hnext := held_same hheld haction hallowed hpending hinbox
  have hcalls := sound_calls hheld haction hallowed
  exact ⟨hnext, fun request calls h => absurd h (hserve request calls),
    fun entry answer h => absurd h (hanswer entry answer), fun fd h => (hcalls fd h).1,
    fun fd h => (hcalls fd h).2, hnext.waiting⟩

theorem idle_exact (hheld : Held state) (haction : action arith modules state event = none)
    (hinbox : (step arith modules state event).inbox = state.inbox)
    (hserve : ∀ request calls, event = .serve request calls →
      ∀ slot fd, state.server.thread ≠ .received slot fd)
    (hanswer : ∀ entry answer, event = .answer entry answer → entry ∉ state.inbox) :
    EventExact arith modules state event := by
  have hemits : emits arith modules state event = [] := by simp [emits, haction]
  have hserver : (step arith modules state event).server = state.server := by
    simp [step, haction]
  have hnext : Held (step arith modules state event) := by
    refine ⟨?_, ?_, ?_⟩
    · rw [hserver]
      exact hheld.inv
    · rw [hserver, hinbox]
      exact hheld.sessions
    · rw [hinbox]
      exact hheld.ids
  refine ⟨hnext, fun request calls h slot fd hthread => ?_, fun entry answer h hmem => ?_,
    fun fd hclose => ?_, fun fd hclose => ?_, hnext.waiting⟩
  · exact absurd hthread (hserve request calls h slot fd)
  · exact absurd hmem (hanswer entry answer h)
  · rw [hemits] at hclose
    cases hclose
  · rw [hemits] at hclose
    cases hclose

theorem serve_received_exact (hmodules : ModulesHandle arith modules) (hheld : Held state)
    {request : RequestBytes} {calls : Calls} {slot : Nat} {fd : Fd}
    (hthread : state.server.thread = .received slot fd) {result : Served}
    (hserved : serve arith modules calls slot request = some result) :
    EventExact arith modules state (.serve request calls) := by
  have hresult : served arith modules state request calls = some (result, fd) := by
    simp [served, hthread, hserved]
  have haction : action arith modules state (.serve request calls) =
      some (.process result.process) := by
    simp [action, hresult]
  have hemits : emits arith modules state (.serve request calls) =
      Rest.emits state.server (.process result.process) := by
    simp [emits, haction]
  have hserver : (step arith modules state (.serve request calls)).server =
      Rest.step state.server (.process result.process) := by
    simp [step, haction]
  have hinbox : (step arith modules state (.serve request calls)).inbox =
      result.posted.toList.map (·, fd) ++ state.inbox := by
    simp [step, inboxAfter, hresult]
  have hcalls : StepAllowed state.server (.process result.process) →
      Held (step arith modules state (.serve request calls)) →
      ServedOnce arith modules state request calls →
      EventExact arith modules state (.serve request calls) := by
    intro hallowed hnext honce
    have hsound := sound_calls hheld haction hallowed
    refine ⟨hnext, fun request' calls' h => ?_, fun entry answer h => (by cases h),
      fun fd h => (hsound fd h).1, fun fd h => (hsound fd h).2, hnext.waiting⟩
    cases h
    exact honce
  rcases serve_settled hmodules hserved with ⟨msg, hleft⟩ | hdropped
  · obtain ⟨hsilent, hpending⟩ := process_left hthread hleft.dispatched
    have hallowed : StepAllowed state.server (.process result.process) :=
      fun _ _ _ _ => answers_of_dispatched hleft.dispatched
    have hmore : (step arith modules state (.serve request calls)).inbox =
        (msg, fd) :: state.inbox := by
      rw [hinbox, hleft.posted]
      rfl
    refine hcalls hallowed ⟨?_, ?_, ?_⟩ fun slot' fd' h => ?_
    · rw [hserver]
      exact (step_allowed hheld.inv hallowed).2
    · have hkey : entryKey (msg, fd) = requestKey (slot, fd) :=
        congrArg (fun cookie => (cookie, fd)) hleft.cookie
      rw [hserver, hpending, hmore, List.map_cons, List.map_cons, hkey]
      exact hheld.sessions.cons _
    · rw [hmore]
      intro entry hmem
      rcases List.mem_cons.mp hmem with rfl | hmem
      · exact hleft.range
      · exact hheld.ids entry hmem
    · cases hthread.symm.trans h
      exact .inr ⟨hemits.trans hsilent, msg, hleft.cookie, hmore⟩
  · obtain ⟨hclose, hpending⟩ := process_given_up hthread hdropped.dispatched
    have hallowed : StepAllowed state.server (.process result.process) :=
      fun _ _ _ _ => hdropped.answers
    have hsame : (step arith modules state (.serve request calls)).inbox = state.inbox := by
      rw [hinbox, hdropped.posted]
      rfl
    refine hcalls hallowed (held_same hheld haction hallowed hpending hsame)
      fun slot' fd' h => ?_
    cases hthread.symm.trans h
    exact .inl ⟨hemits ▸ hclose, hsame⟩

theorem serve_exact (hmodules : ModulesHandle arith modules) (hheld : Held state)
    (request : RequestBytes) (calls : Calls)
    (hallowed : Allowed arith modules state (.serve request calls)) :
    EventExact arith modules state (.serve request calls) := by
  by_cases hthread : ∃ slot fd, state.server.thread = .received slot fd
  · obtain ⟨slot, fd, hthread⟩ := hthread
    obtain ⟨result, hresult⟩ := Option.isSome_iff_exists.mp (hallowed slot fd hthread)
    simp only [served, hthread] at hresult
    obtain ⟨result, hserved, rfl⟩ := Option.map_eq_some_iff.mp hresult
    exact serve_received_exact hmodules hheld hthread hserved
  · have hnone : served arith modules state request calls = none := by
      unfold served
      split
      · rename_i slot fd hreceived
        exact absurd ⟨slot, fd, hreceived⟩ hthread
      · rfl
    refine idle_exact hheld (by simp [action, hnone]) (by simp [step, inboxAfter, hnone])
      (fun _ _ _ slot fd h => hthread ⟨slot, fd, h⟩) fun entry answer h => (by cases h)

theorem answer_exact (hheld : Held state) (entry : Posted × Fd) (answer : Answer)
    (hallowed : Allowed arith modules state (.answer entry answer)) :
    EventExact arith modules state (.answer entry answer) := by
  by_cases hmem : entry ∈ state.inbox
  · obtain ⟨request, hrequest, hanswered, hkey⟩ := hheld.answered hmem
    have hfd : request.2 = entry.2 := congrArg Prod.snd hkey
    have haction : action arith modules state (.answer entry answer) =
        some (.respond request answer) := by
      simp [action, hanswered]
    have hserver : (step arith modules state (.answer entry answer)).server =
        Rest.step state.server (.respond request answer) := by
      simp [step, haction]
    have hemits : emits arith modules state (.answer entry answer) =
        Rest.emits state.server (.respond request answer) := by
      simp [emits, haction]
    have hinbox : (step arith modules state (.answer entry answer)).inbox =
        state.inbox.erase entry := rfl
    have hrespond : StepAllowed state.server (.respond request answer) :=
      fun _ hreachable => hallowed hmem (hfd ▸ hreachable)
    obtain ⟨hclose, hown, hpending⟩ := respond_given hheld.inv hrequest answer
    have hperm := List.perm_cons_erase hmem
    have hnext : Held (step arith modules state (.answer entry answer)) := by
      refine ⟨?_, ?_, ?_⟩
      · rw [hserver]
        exact (step_allowed hheld.inv hrespond).2
      · have hsessions := ((hperm.map entryKey).symm.trans hheld.sessions).trans
          ((List.perm_cons_erase hrequest).map requestKey)
        rw [List.map_cons, List.map_cons, hkey] at hsessions
        rw [hserver, hpending, hinbox]
        exact hsessions.cons_inv
      · rw [hinbox]
        exact fun other hother => hheld.ids other (List.mem_of_mem_erase hother)
    have hsound := sound_calls hheld haction hrespond
    refine ⟨hnext, fun request calls h => (by cases h), fun entry' answer' h => ?_,
      fun fd h => (hsound fd h).1, fun fd h => (hsound fd h).2, hnext.waiting⟩
    cases h
    intro _
    rw [hemits, ← hfd]
    exact ⟨hclose, hown, hperm⟩
  · have hnone : answered state entry = none := if_neg hmem
    refine idle_exact hheld (by simp [action, hnone]) ?_ (fun _ _ h => (by cases h))
      fun entry' answer' h => ?_
    · exact List.erase_of_not_mem hmem
    · cases h
      exact hmem

theorem event_exact (hmodules : ModulesHandle arith modules) (hheld : Held state)
    (hallowed : Allowed arith modules state event) : EventExact arith modules state event := by
  cases event with
  | accept fd =>
      exact silent_exact hheld (fun _ _ => nofun) (fun _ _ => nofun) rfl hallowed
        (accept_pending fd) rfl
  | receive received =>
      exact silent_exact hheld (fun _ _ => nofun) (fun _ _ => nofun) rfl hallowed
        (receive_pending received) rfl
  | leave fd =>
      exact silent_exact hheld (fun _ _ => nofun) (fun _ _ => nofun) rfl trivial rfl rfl
  | serve request calls => exact serve_exact hmodules hheld request calls hallowed
  | answer entry answer => exact answer_exact hheld entry answer hallowed

end Step

theorem start_held : Held start := ⟨init_inv, List.Perm.nil, fun _ h => by cases h⟩

-- Whatever the peers send, and in whatever order the applications answer, every
-- request that is read is answered once, on its own connection.
theorem requests_delivered (arith : CJson.Arithmetic)
    {infos : List (BVIEW_MODULE_FETAURE_INFO Handler)}
    (hinfos : ∀ info ∈ infos, IsFeature arith info) (events : List Event)
    (hallowed : Along (step arith (run register modulemgr_init infos))
      (Allowed arith (run register modulemgr_init infos)) start events) :
    Along (step arith (run register modulemgr_init infos))
      (Delivers arith (run register modulemgr_init infos)) start events := by
  have hmodules := modulesHandle_run hinfos
  exact along_of_invariant Held (fun _ _ hheld h => (event_exact hmodules hheld h).1)
    (fun _ _ hheld h => (event_exact hmodules hheld h).2) start events start_held hallowed

section Sample

open CJson

def sampleFeatures : List (BVIEW_MODULE_FETAURE_INFO Handler) :=
  [system_utils_module wholeNumbers, bst_module wholeNumbers]

-- A request that is read, and answered by its application.
def sampleEvents : List Event :=
  [.accept 4, .receive .closedByPeer, .serve sampleHttp.bytes sampleCalls,
    .answer (.bst (sampleMsg 0), 4) .rest_response_send_ok]

theorem sample_delivered :
    Along (step wholeNumbers (run register modulemgr_init sampleFeatures))
      (Delivers wholeNumbers (run register modulemgr_init sampleFeatures)) start sampleEvents := by
  refine requests_delivered wholeNumbers (fun info hinfo => ?_) sampleEvents
    ⟨fun _ _ => ⟨0, by decide, rfl⟩, fun _ _ _ _ => ⟨nofun, nofun⟩, fun slot fd hthread => ?_,
      fun _ _ => rfl, trivial⟩
  · rcases List.mem_cons.mp hinfo with rfl | hinfo
    · exact .inr rfl
    · exact .inl (List.mem_singleton.mp hinfo)
  · have hserved : served wholeNumbers sampleModules
        (run (step wholeNumbers sampleModules) start [.accept 4, .receive .closedByPeer])
          sampleHttp.bytes sampleCalls =
        (serve wholeNumbers sampleModules sampleCalls 0 sampleHttp.bytes).map (·, 4) := rfl
    rw [sample_served] at hserved
    exact Option.isSome_iff_exists.mpr ⟨_, hserved⟩

end Sample

end BroadView.Rest.Delivery
