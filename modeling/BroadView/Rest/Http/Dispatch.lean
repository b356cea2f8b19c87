import BroadView.Rest.Http.Theorems

namespace BroadView.Rest.Http

open CString ModuleMgr
open Client (REST_MAX_HTTP_BUFFER_LENGTH)

theorem lastComponent_unique {url component component' : List Char}
    (h : LastComponent url component) (h' : LastComponent url component') :
    component = component' := by
  -- A component that is longer has the slash before the other one in it.
  have hsame : ∀ {before before' component component' : List Char},
      before ++ component = before' ++ component' → component.length ≤ component'.length →
      (before = [] ∨ ∃ path, before = path ++ ['/']) → component ≠ [] →
      '/' ∉ component'.dropLast → component = component' := by
    intro before before' component component' heq hle hbefore hne hfree
    obtain ⟨more, hmore⟩ : ∃ more, component' = more ++ component := by
      have hsuffix : component <:+ component' :=
        List.suffix_of_suffix_length_le ⟨before, heq⟩ ⟨before', rfl⟩ hle
      obtain ⟨more, hmore⟩ := hsuffix
      exact ⟨more, hmore.symm⟩
    subst hmore
    rw [← List.append_assoc] at heq
    have hsplit := List.append_cancel_right heq
    rcases List.eq_nil_or_concat more with rfl | ⟨init, last, rfl⟩
    · rfl
    · exfalso
      rcases hbefore with rfl | ⟨path, rfl⟩
      · simp at hsplit
      · rw [List.concat_eq_append, ← List.append_assoc] at hsplit
        have hlast := List.append_inj_right' hsplit rfl
        obtain rfl := (List.cons.inj hlast).1
        apply hfree
        rw [List.dropLast_append_of_ne_nil hne]
        simp
  obtain ⟨before, hurl, hbefore⟩ := h.split
  obtain ⟨before', hurl', hbefore'⟩ := h'.split
  rcases Nat.le_total component.length component'.length with hle | hle
  · exact hsame (hurl.symm.trans hurl') hle hbefore h.ne_nil h'.free
  · exact (hsame (hurl'.symm.trans hurl) hle hbefore' h'.ne_nil h.free).symm

theorem lastComponent_of_drop {url name : List Char} (hne : url ≠ [])
    (hdrop : url.drop (restMethodStart url) = name) : LastComponent url name := by
  rw [← hdrop]
  exact restMethod_lastComponent hne

section Success

variable {Handler : Type} {modules : MODULES Handler} {request : RequestBytes}

-- A request that is parsed names its method by a command in its URL.
theorem parse_success {session : REST_SESSION}
    (h : rest_parse_http_request_to_session modules request.session = some (.SUCCESS, session)) :
    ∃ method spaces url rest featureName,
      RequestLine request.buffer.bytes method spaces url rest ∧ Named modules url featureName := by
  rcases parse_cases modules request with
    ⟨session, hfailure⟩ | ⟨method, spaces, url, rest, hline, hsupported⟩
  · rw [hfailure] at h
    cases h
  · obtain ⟨buffer, -, heq⟩ := @parse_line _ modules _ _ _ _ _ hline hsupported
    rw [heq] at h
    rcases feature_name_cases modules (url.drop (restMethodStart url)) with
      hnone | ⟨featureName, hfeature, -, -⟩
    · rw [parse_url_unregistered hnone] at h
      cases h
    · rcases parse_url_cases hfeature with ⟨-, hlong⟩ | ⟨-, hother⟩ | hnamed
      · rw [hlong] at h
        cases h
      · rw [hother] at h
        cases h
      · exact ⟨method, spaces, url, rest, featureName, hline, hnamed⟩

-- The body of a request with one space before its URL: what follows the first
-- end of headers behind it.
theorem request_body_plain {method url text : List Char} {rest : List (Option Char)}
    {featureName : List Char} {offset : Nat}
    (hline : RequestLine request.buffer.bytes method 0 url rest)
    (hsupported : method ∈ supportedMethods) (hnamed : Named modules url featureName)
    (htext : string rest = some text) (hoffset : strstr text REST_HTTP_TWIN_CRLF = some offset)
    (hcopied : method.length + 1 + restMethodStart url + REST_MAX_STRING_LENGTH ≤
      REST_MAX_HTTP_BUFFER_LENGTH + 1) :
    request_body modules request = some (text.drop (offset + REST_HTTP_TWIN_CRLF.length)) := by
  obtain ⟨buffer, hbytes, heq⟩ := @parse_line _ modules _ _ _ _ _ hline hsupported
  have hmemcpy : ∃ copy, buffer.memcpy (method.length + 1 + 0 + restMethodStart url)
      REST_MAX_STRING_LENGTH = some copy := by
    unfold Buffer.memcpy
    exact ⟨_, dif_pos (by omega)⟩
  obtain ⟨copy, hcopy⟩ := hmemcpy
  rw [parse_url_named hnamed hbytes _ rfl, textBehind, if_pos rfl, htext, Option.bind_some] at heq
  simp only [hoffset, hcopy, Option.map_some] at heq
  obtain ⟨-, hwithin⟩ := strstr_eq_some hoffset
  obtain ⟨others, rfl⟩ := string_eq_some htext
  have hbody : buffer.stringAt (method.length + 1 + (url.length + 1) + offset +
      REST_HTTP_TWIN_CRLF.length) = some (text.drop (offset + REST_HTTP_TWIN_CRLF.length)) := by
    rw [Buffer.stringAt, Nat.add_assoc _ offset, ← List.drop_drop, drop_behind hbytes,
      List.drop_append_of_le_length (by simpa using hwithin), ← List.map_drop, string_append_none]
  unfold request_body
  rw [heq]
  exact hbody

end Success

section Serve

variable {Handler : Type} {modules : MODULES Handler} {cJSON_Parse : List Char → Option Params}
  {request : RequestBytes} {handler : Handler}

-- The method that the body names, cut to what the buffer takes.
def bodyMethod (modules : MODULES Handler) (cJSON_Parse : List Char → Option Params)
    (request : RequestBytes) : Option (List Char) :=
  (request_body modules request).bind fun body =>
    (json_buf_to_api_string_get (cJSON_Parse body)).toOption

-- The URL is a path and nothing else.
def IsPath (url featureName name : List Char) : Prop :=
  url = command featureName name ∨ url = '/' :: command featureName name

-- The handler is the one of the method in the URL, of the feature in the URL.
def ServesUrl (modules : MODULES Handler) (request : RequestBytes) (handler : Handler) : Prop :=
  ∃ method spaces url rest name info,
    RequestLine request.buffer.bytes method spaces url rest ∧ LastComponent url name ∧
      info ∈ modules.moduleData ∧ IsPath url info.moduleData.featureName name ∧
      ⟨some name, some handler⟩ ∈ info.moduleData.restApiList

-- The URL has the path of its last component in it, in the feature that lists
-- that first. The handler is the one of the method in the body, of the feature
-- that lists this first.
structure Serves (modules : MODULES Handler) (cJSON_Parse : List Char → Option Params)
    (request : RequestBytes) (handler : Handler) (url name : List Char)
    (info : BVIEW_MODULE_INFO Handler) (bodyName : List Char)
    (served : BVIEW_MODULE_INFO Handler) : Prop where
  component : LastComponent url name
  feature : FirstLists modules name info
  path : command info.moduleData.featureName name <:+: url
  body : bodyMethod modules cJSON_Parse request = some bodyName
  first : FirstLists modules bodyName served
  entry : find_api bodyName served = some ⟨some bodyName, some handler⟩

theorem dispatch_body (h : dispatch modules cJSON_Parse request = some handler) :
    ∃ bodyName served, bodyMethod modules cJSON_Parse request = some bodyName ∧
      FirstLists modules bodyName served ∧
      find_api bodyName served = some ⟨some bodyName, some handler⟩ := by
  unfold dispatch at h
  cases hbody : request_body modules request with
  | none =>
      simp only [hbody] at h
      cases h
  | some body =>
      simp only [hbody] at h
      have hget : modulemgr_rest_api_handler_get (cJSON_Parse body) modules =
          (.SUCCESS, some handler) := by
        rcases hpair : modulemgr_rest_api_handler_get (cJSON_Parse body) modules with ⟨rv, found⟩
        rw [hpair] at h
        cases rv with
        | SUCCESS => exact congrArg (Prod.mk _) h
        | _ => cases h
      unfold modulemgr_rest_api_handler_get at hget
      cases hname : json_buf_to_api_string_get (cJSON_Parse body) with
      | error rv =>
          simp only [hname] at hget
          cases (Prod.mk.inj hget).2
      | ok bodyName =>
          simp only [hname] at hget
          obtain ⟨served, hfirst, hentry⟩ :=
            firstLists_of_leads ((find_handler_iff modules.moduleData).mp hget)
          have hmethod : bodyMethod modules cJSON_Parse request = some bodyName := by
            simp only [bodyMethod, hbody, Option.bind_some, hname]
            rfl
          exact ⟨bodyName, served, hmethod, hfirst, hentry⟩

theorem request_body_success {body : List Char} (h : request_body modules request = some body) :
    ∃ session, rest_parse_http_request_to_session modules request.session =
      some (.SUCCESS, session) := by
  unfold request_body at h
  cases hparse : rest_parse_http_request_to_session modules request.session with
  | none =>
      simp only [hparse] at h
      cases h
  | some result =>
      obtain ⟨rv, session⟩ := result
      cases rv with
      | SUCCESS => exact ⟨session, rfl⟩
      | _ =>
          simp only [hparse] at h
          cases h

theorem serves_url_of_same {method url name bodyName : List Char} {spaces : Nat}
    {rest : List (Option Char)} {info served : BVIEW_MODULE_INFO Handler}
    (hline : RequestLine request.buffer.bytes method spaces url rest)
    (hserves : Serves modules cJSON_Parse request handler url name info bodyName served)
    (hpath : IsPath url info.moduleData.featureName name) (hsame : bodyName = name) :
    ServesUrl modules request handler := by
  subst hsame
  have hentry := hserves.entry
  rw [firstLists_unique hserves.first hserves.feature] at hentry
  obtain ⟨before, after, hsplit, -⟩ := hserves.feature.first
  refine ⟨method, spaces, url, rest, bodyName, info, hline, hserves.component, ?_, hpath,
    (find_api_some hentry).1⟩
  rw [hsplit]
  exact List.mem_append_right _ (List.mem_cons_self)

-- The body chooses the handler, of whatever method the URL is. It is the one of
-- the URL when the URL is a path and the body names its method.
theorem dispatch_serves (h : dispatch modules cJSON_Parse request = some handler) :
    ∃ method spaces url rest name info bodyName served,
      RequestLine request.buffer.bytes method spaces url rest ∧
        Serves modules cJSON_Parse request handler url name info bodyName served ∧
        (IsPath url info.moduleData.featureName name → bodyName = name →
          ServesUrl modules request handler) := by
  obtain ⟨bodyName, served, hmethod, hfirst, hentry⟩ := dispatch_body h
  obtain ⟨body, hbody, -⟩ := Option.bind_eq_some_iff.mp hmethod
  obtain ⟨session, hparse⟩ := request_body_success hbody
  obtain ⟨method, spaces, url, rest, featureName, hline, hnamed⟩ := parse_success hparse
  obtain ⟨info, hfeature, rfl⟩ := feature_name_get_iff.mp hnamed.feature
  have hserves : Serves modules cJSON_Parse request handler url (url.drop (restMethodStart url))
      info bodyName served :=
    ⟨restMethod_lastComponent hline.urlWord.ne_nil, hfeature, hnamed.inside, hmethod, hfirst,
      hentry⟩
  exact ⟨method, spaces, url, rest, _, info, bodyName, served, hline, hserves,
    serves_url_of_same hline hserves⟩

end Serve

section Examples

def bodyStart : List Char := "\x7b\"method\":\"".toList
def bodyEnd : List Char := "\"\x7d".toList
def httpVersion : List Char := "HTTP/1.1".toList

def bodyOf (method : String) : List Char := bodyStart ++ (method.toList ++ bodyEnd)

theorem bodyOf_length (method : String) :
    (bodyOf method).length = 13 + method.toList.length := by
  have hstart : bodyStart.length = 11 := by decide
  have hend : bodyEnd.length = 2 := by decide
  rw [bodyOf, List.length_append, List.length_append, hstart, hend]
  omega

-- The parser, of one body.
def parseBody (method : String) (body : List Char) : Option Params :=
  if body = bodyOf method then some (methodNamed method) else none

def methodRequest (url : List Char) (method : String)
    (hlength : url.length + method.toList.length ≤ 1000) : RequestBytes where
  bytes := "GET".toList.map some ++ some REST_HTTP_SPACE ::
    (url.map some ++ some REST_HTTP_SPACE ::
      (httpVersion ++ (REST_HTTP_TWIN_CRLF ++ bodyOf method)).map some)
  length_le := by
    have hget : "GET".toList.length = 3 := by decide
    have hversion : httpVersion.length = 8 := by decide
    have htwin : REST_HTTP_TWIN_CRLF.length = 4 := rfl
    simp only [List.length_append, List.length_cons, List.length_map, hget, hversion, htwin,
      bodyOf_length]
    unfold REST_MAX_HTTP_BUFFER_LENGTH
    omega

section Request

variable {url : List Char} {method : String}
  {hlength : url.length + method.toList.length ≤ 1000}

theorem methodRequest_line (hurl : Word REST_HTTP_SPACE url) :
    RequestLine (methodRequest url method hlength).buffer.bytes "GET".toList 0 url
      ((httpVersion ++ (REST_HTTP_TWIN_CRLF ++ bodyOf method)).map some ++
        none :: List.replicate (REST_MAX_HTTP_BUFFER_LENGTH -
          (methodRequest url method hlength).bytes.length) none) := by
  have hreceived := (methodRequest url method hlength).length_le
  have hunused : REST_MAX_HTTP_BUFFER_LENGTH + 1 - (methodRequest url method hlength).bytes.length =
      REST_MAX_HTTP_BUFFER_LENGTH - (methodRequest url method hlength).bytes.length + 1 := by
    omega
  refine ⟨⟨by decide, by decide⟩, hurl, some REST_HTTP_SPACE, some REST_HTTP_SPACE, Or.inr rfl,
    Or.inr rfl, ?_⟩
  rw [RequestBytes.buffer]
  dsimp only
  rw [hunused, List.replicate_succ]
  simp only [methodRequest, List.append_assoc, List.cons_append, List.replicate_zero,
    List.nil_append]

theorem dispatch_methodRequest {Handler : Type} {modules : MODULES Handler}
    {featureName : List Char} {handler : Handler} (hurl : Word REST_HTTP_SPACE url)
    (hnamed : Named modules url featureName)
    (hget : modulemgr_rest_api_handler_get (some (methodNamed method)) modules =
      (.SUCCESS, some handler)) :
    dispatch modules (parseBody method) (methodRequest url method hlength) = some handler := by
  have hstart := restMethodStart_lt hurl.ne_nil
  have hcopied : "GET".toList.length + 1 + restMethodStart url + REST_MAX_STRING_LENGTH ≤
      REST_MAX_HTTP_BUFFER_LENGTH + 1 := by
    have hget : "GET".toList.length = 3 := by decide
    unfold REST_MAX_STRING_LENGTH REST_MAX_HTTP_BUFFER_LENGTH
    omega
  have hblank : strstr (httpVersion ++ (REST_HTTP_TWIN_CRLF ++ bodyOf method))
      REST_HTTP_TWIN_CRLF = some 8 := rfl
  have hbody : request_body modules (methodRequest url method hlength) = some (bodyOf method) :=
    request_body_plain (methodRequest_line hurl) (by decide) hnamed (string_append_none _ _)
      hblank hcopied
  unfold dispatch
  simp only [hbody, parseBody, if_pos, hget]

end Request

theorem not_serves_url {Handler : Type} {modules : MODULES Handler} {request : RequestBytes}
    {handler : Handler} {method url name : List Char} {spaces : Nat} {rest : List (Option Char)}
    (hline : RequestLine request.buffer.bytes method spaces url rest)
    (hcomponent : LastComponent url name)
    (hnone : ∀ info ∈ modules.moduleData, IsPath url info.moduleData.featureName name →
      ⟨some name, some handler⟩ ∉ info.moduleData.restApiList) :
    ¬ServesUrl modules request handler := by
  rintro ⟨method', spaces', url', rest', name', info, hline', hcomponent', hmem, hpath, hentry⟩
  obtain ⟨-, -, rfl, -⟩ := requestLine_unique hline hline'
  obtain rfl := lastComponent_unique hcomponent hcomponent'
  exact hnone info hmem hpath hentry

def featureUrl : List Char := "/broadview/bst/get-bst-feature".toList

def clearRequest : RequestBytes := methodRequest featureUrl "clear-bst-statistics" (by decide)

def otherPath : List Char := '/' :: 'x' :: featureUrl

def otherRequest : RequestBytes := methodRequest otherPath "get-bst-feature" (by decide)

theorem featureUrl_named : Named bstModules featureUrl "bst".toList :=
  ⟨by decide, by decide, by decide⟩

theorem dispatch_clearRequest :
    dispatch bstModules (parseBody "clear-bst-statistics") clearRequest =
      some "bstjson_clear_bst_statistics" :=
  dispatch_methodRequest ⟨by decide, by decide⟩ featureUrl_named (by decide)

-- The body names the method of the URL.
def featureRequest : RequestBytes := methodRequest featureUrl "get-bst-feature" (by decide)

theorem dispatch_featureRequest :
    dispatch bstModules (parseBody "get-bst-feature") featureRequest =
      some "bstjson_get_bst_feature" :=
  dispatch_methodRequest ⟨by decide, by decide⟩ featureUrl_named (by decide)

theorem dispatch_otherRequest :
    dispatch bstModules (parseBody "get-bst-feature") otherRequest =
      some "bstjson_get_bst_feature" := by
  have hnamed : Named bstModules otherPath "bst".toList :=
    ⟨by decide, by decide, by decide⟩
  exact dispatch_methodRequest ⟨by decide, by decide⟩ hnamed (by decide)

-- The body clears the statistics, of the URL of another method; and a URL is
-- served that is more than a path.
theorem body_chooses_handler :
    (dispatch bstModules (parseBody "clear-bst-statistics") clearRequest =
        some "bstjson_clear_bst_statistics" ∧
      ¬ServesUrl bstModules clearRequest "bstjson_clear_bst_statistics") ∧
      dispatch bstModules (parseBody "get-bst-feature") otherRequest =
          some "bstjson_get_bst_feature" ∧
        ¬ServesUrl bstModules otherRequest "bstjson_get_bst_feature" := by
  refine ⟨⟨dispatch_clearRequest, ?_⟩, dispatch_otherRequest, ?_⟩
  · have hcomponent : LastComponent featureUrl "get-bst-feature".toList :=
      lastComponent_of_drop (by decide) (by decide)
    refine not_serves_url (methodRequest_line ⟨by decide, by decide⟩) hcomponent ?_
    have hentries : ∀ info ∈ bstModules.moduleData,
        (⟨some "get-bst-feature".toList, some "bstjson_clear_bst_statistics"⟩ :
          BVIEW_REST_API String) ∉ info.moduleData.restApiList := by decide
    exact fun info hmem _ => hentries info hmem
  · have hcomponent : LastComponent otherPath "get-bst-feature".toList :=
      lastComponent_of_drop (by decide) (by decide)
    refine not_serves_url (methodRequest_line ⟨by decide, by decide⟩) hcomponent ?_
    have hpaths : ∀ info ∈ bstModules.moduleData,
        ¬(otherPath = command info.moduleData.featureName "get-bst-feature".toList ∨
          otherPath = '/' :: command info.moduleData.featureName "get-bst-feature".toList) := by
      decide
    exact fun info hmem hpath => absurd hpath (hpaths info hmem)

theorem featureRequest_serves :
    ServesUrl bstModules featureRequest "bstjson_get_bst_feature" := by
  obtain ⟨method, spaces, url, rest, name, info, bodyName, served, hline, hserves, hurl⟩ :=
    dispatch_serves dispatch_featureRequest
  obtain ⟨-, -, rfl, -⟩ := requestLine_unique (methodRequest_line ⟨by decide, by decide⟩) hline
  obtain rfl : "get-bst-feature".toList = name :=
    lastComponent_unique (lastComponent_of_drop (by decide) (by decide)) hserves.component
  have hinfo : FirstLists bstModules "get-bst-feature".toList (used bstModule) :=
    firstLists_iff.mpr rfl
  obtain rfl := firstLists_unique hinfo hserves.feature
  have hentries : ∀ info ∈ bstModules.moduleData, ∀ api ∈ info.moduleData.restApiList,
      api.handler = some "bstjson_get_bst_feature" →
        api.apiString = some "get-bst-feature".toList := by decide
  obtain ⟨before, after, hsplit, -⟩ := hserves.first.first
  have hserved : served ∈ bstModules.moduleData := by
    rw [hsplit]
    exact List.mem_append_right _ List.mem_cons_self
  have hname := hentries served hserved _ (find_api_some hserves.entry).1 rfl
  exact hurl (Or.inr (by decide)) (Option.some.inj hname)

end Examples

end BroadView.Rest.Http
