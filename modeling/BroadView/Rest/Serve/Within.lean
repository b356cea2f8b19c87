import BroadView.CJson.Bounds
import BroadView.Rest.Serve.Text

namespace BroadView.Rest.Serve

open ModuleMgr Http Transition CString

section Body

variable {size place count : Nat} {buffer : Buffer size} {text : List Char}

theorem stringAt_drop (h : buffer.stringAt place = some text) (hcount : count ≤ text.length) :
    buffer.stringAt (place + count) = some (text.drop count) := by
  obtain ⟨others, hbytes⟩ := string_eq_some h
  rw [Buffer.stringAt, ← List.drop_drop, hbytes,
    List.drop_append_of_le_length (by rwa [List.length_map]), ← List.map_drop, string_append_none]

variable {modules : MODULES Handler} {session session' : Http.REST_SESSION} {rv : BVIEW_STATUS}

-- A session that is parsed has a body, and any other has no place for one.
def BodyParsed (rv : BVIEW_STATUS) (session : Http.REST_SESSION) : Prop :=
  (rv = .SUCCESS ∧ ∃ json body, session.json = some json ∧
      session.buffer.stringAt json = some body) ∨
    (rv ≠ .SUCCESS ∧ session.json = none)

theorem parse_url_body {httpMethod url : Token} (hjson : session.json = none)
    (h : rest_parse_url modules session httpMethod url = some (rv, session')) :
    BodyParsed rv session' := by
  unfold rest_parse_url at h
  dsimp only at h
  split at h
  · split at h
    · cases h
    · cases h
      exact .inr ⟨by decide, hjson⟩
    · split at h
      · cases h
      · rename_i text htext
        split at h
        · cases h
          exact .inr ⟨by decide, hjson⟩
        · rename_i offset hoffset
          split at h
          · cases h
          · cases h
            have hwithin := (strstr_eq_some hoffset).2
            refine .inl ⟨rfl, _, text.drop (offset + REST_HTTP_TWIN_CRLF.length), rfl, ?_⟩
            rw [Nat.add_assoc]
            exact stringAt_drop htext hwithin
  · cases h
    exact .inr ⟨by decide, hjson⟩

theorem parse_session_body (hjson : session.json = none)
    (h : rest_parse_http_request_to_session modules session = some (rv, session')) :
    BodyParsed rv session' := by
  unfold rest_parse_http_request_to_session at h
  split at h
  · cases h
  · cases h
    exact .inr ⟨by decide, hjson⟩
  · split_ifs at h
    · cases h
      exact .inr ⟨by decide, hjson⟩
    · split at h
      · cases h
      · cases h
        exact .inr ⟨by decide, hjson⟩
      · refine parse_url_body ?_ h
        exact hjson

-- A request written for a method of a feature keeps to what the parser takes.
theorem HttpRequest.ready (request : HttpRequest) {featureName : List Char}
    (hnamed : Named modules request.url featureName) : ParseReady modules request.bytes := by
  intro method spaces url rest featureName' hline hsupported hfeature
  obtain ⟨rfl, rfl, rfl, rfl⟩ := requestLine_unique hline request.line
  have hsame := hnamed.feature.symm.trans hfeature
  obtain rfl := Option.some.inj (Prod.mk.inj hsame).2
  refine ⟨hnamed.fits, fun _ _ => ⟨by simp, fun _ _ _ => ?_⟩, fun _ hspaces => absurd rfl hspaces⟩
  have hcopied := request.copied
  omega

end Body

section Within

variable {arith : CJson.Arithmetic} {modules : MODULES Handler} {calls : Calls} {slot : Nat}
  {request : RequestBytes} {body : List Char}

-- No escape of the text is cut off, and its ASIC, if it has one, is no negative
-- number.
structure BodyWithin (arith : CJson.Arithmetic) (body : List Char) : Prop where
  complete : CJson.Complete body
  asic : ∀ root, parse_root arith body = .ok root → ¬NegativeAsic (members root)

theorem parse_root_within (hcomplete : CJson.Complete body) :
    parse_root arith body ≠ .error .overrun := by
  have htame := CJson.tame_ParseWithOpts arith false body
  have hdepth := htame.depth trivial
  have hoverrun := htame.overrun hcomplete
  unfold parse_root CJson.cJSON_Parse
  cases hparse : CJson.cJSON_ParseWithOpts arith false body with
  | ok result => nofun
  | error stop =>
      rw [hparse] at hdepth hoverrun
      cases stop with
      | malformed => nofun
      | overrun => exact absurd rfl hoverrun
      | depth => exact absurd rfl hdepth

theorem BodyWithin.not_overruns (h : BodyWithin arith body) : ¬Overruns arith body := by
  rintro (hparse | ⟨root, hroot, hnegative⟩)
  · exact parse_root_within h.complete hparse
  · exact h.asic root hroot hnegative

theorem get_id_within (h : BodyWithin arith body) :
    ∃ rv, statusOf (rest_get_id_from_request arith (some body)) = some rv := by
  cases hattempt : rest_get_id_from_request arith (some body) with
  | ok value => exact ⟨.SUCCESS, rfl⟩
  | error fault =>
      cases fault with
      | status rv => exact ⟨rv, rfl⟩
      | overrun =>
          unfold rest_get_id_from_request at hattempt
          obtain ⟨root, -, hid⟩ := bind_overrun hattempt (parse_root_within h.complete)
          exact absurd hid (checked_within _)

theorem manager_root_within (h : BodyWithin arith body) :
    ∃ root, manager_root arith body = some root := by
  unfold manager_root
  cases hparse : parse_root arith body with
  | ok root => exact ⟨_, rfl⟩
  | error fault =>
      cases fault with
      | status rv => exact ⟨_, rfl⟩
      | overrun => exact absurd hparse (parse_root_within h.complete)

theorem handler_within (h : BodyWithin arith body)
    {handler : HandlerArgs → Except Fault Posted}
    (hsettles : Settles arith Posted.cookie Posted.id handler) (args : HandlerArgs)
    (hbuffer : args.jsonBuffer = some body) :
    ∃ rv, statusOf (handler args) = some rv := by
  cases hattempt : handler args with
  | ok msg => exact ⟨.SUCCESS, rfl⟩
  | error fault =>
      cases fault with
      | status rv => exact ⟨rv, rfl⟩
      | overrun =>
          obtain ⟨jsonBuffer, hjson, hoverruns⟩ := hsettles.overruns args hattempt
          rw [hbuffer] at hjson
          obtain rfl := Option.some.inj hjson
          exact absurd hoverruns h.not_overruns

theorem serve_body_within (hmodules : ModulesHandle arith modules) (h : BodyWithin arith body)
    (length : Int) (ret : BVIEW_STATUS) (id : Int) :
    ∃ served, serve_body arith modules calls slot length body ret id = some served := by
  obtain ⟨root, hroot⟩ := manager_root_within h
  unfold serve_body
  simp only [hroot, Option.bind_eq_bind, Option.bind_some]
  split
  · rename_i handler hget
    obtain ⟨rv, hrv⟩ := handler_within h (handler_get_handles hmodules hget calls)
      ⟨some slot, some body, Int32.ofInt length⟩ rfl
    rw [hrv]
    exact ⟨_, rfl⟩
  · exact ⟨_, rfl⟩

-- Whatever a peer sends, the agent stays inside its arrays, if the line of the
-- request is one that the parser of requests takes, and the body one that the
-- parser of JSON and the table of ASICs do. The request is then left to an
-- application or answered.
theorem request_within {infos : List (BVIEW_MODULE_FETAURE_INFO Handler)}
    (hinfos : ∀ info ∈ infos, IsFeature arith info)
    (hmodules : modules = run register modulemgr_init infos)
    (hready : ParseReady modules request)
    (hbody : ∀ body, request_body modules request = some body → BodyWithin arith body) :
    ∃ served, serve arith modules calls slot request = some served ∧ Settled slot served := by
  have hhandle : ModulesHandle arith modules := hmodules ▸ modulesHandle_run hinfos
  suffices hserved : ∃ served, serve arith modules calls slot request = some served by
    obtain ⟨served, hserved⟩ := hserved
    exact ⟨served, hserved, serve_settled hhandle hserved⟩
  obtain ⟨rv, session, hparse, -, -⟩ := exact_of_ready hready
  unfold serve
  simp only [hparse, Option.bind_eq_bind, Option.bind_some]
  rcases parse_session_body rfl hparse with ⟨rfl, json, body, hjson, htext⟩ | ⟨hfailed, hjson⟩
  · have hwithin : BodyWithin arith body := by
      refine hbody body ?_
      unfold request_body
      rw [hparse]
      dsimp only
      rw [hjson, Option.bind_some, htext]
    obtain ⟨ret, hret⟩ := get_id_within hwithin
    simp only [hjson, htext, Option.map_some, Option.bind_some, hret]
    exact serve_body_within hhandle hwithin _ _ _
  · simp only [hjson]
    cases rv with
    | SUCCESS => exact absurd rfl hfailed
    | _ => exact ⟨_, rfl⟩

theorem sample_within :
    ∃ served, serve CJson.wholeNumbers sampleModules sampleCalls 2 sampleHttp.bytes =
      some served ∧ Settled 2 served := by
  refine request_within (fun info hmem => ?_) rfl (sampleHttp.ready sample_named)
    fun body hbody => ?_
  · rcases List.mem_cons.mp hmem with rfl | hmem
    · exact .inr rfl
    · exact .inl (List.mem_singleton.mp hmem)
  · obtain ⟨root, hasks, hasic⟩ := sample_asks
    obtain rfl : sampleHttp.body = body := by
      obtain ⟨session, json, hparse, hjson, htext, -⟩ :=
        sampleHttp.carries sample_named
      unfold request_body at hbody
      rw [hparse] at hbody
      dsimp only at hbody
      rw [hjson, Option.bind_some, htext] at hbody
      exact Option.some.inj hbody
    refine ⟨CJson.complete_of_no_backslash (by decide +kernel), fun root' hroot' => ?_⟩
    rintro ⟨asicStr, hasic', hnegative⟩
    obtain rfl := Except.ok.inj (hasks.parse_root.symm.trans hroot')
    rw [hasic] at hasic'
    cases hasic'
    exact absurd hnegative (by decide)

end Within

end BroadView.Rest.Serve
