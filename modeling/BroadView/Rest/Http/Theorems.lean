import BroadView.Rest.Http
import BroadView.ModuleMgr.Theorems

namespace BroadView.Rest.Http

open CString ModuleMgr
open Client (REST_MAX_HTTP_BUFFER_LENGTH)

section Url

variable {url : List Char}

-- What stands behind the last slash, where one at the very end belongs to what is
-- before it.
structure LastComponent (url component : List Char) : Prop where
  split : ∃ before, url = before ++ component ∧ (before = [] ∨ ∃ path, before = path ++ ['/'])
  ne_nil : component ≠ []
  free : '/' ∉ component.dropLast

-- The loop over the first characters: the method starts behind a slash, and no
-- slash that counts was met since.
theorem restMethodStart_scan (count : Nat) (hcount : count ≤ url.length) :
    let start := (List.range count).foldl (fun start temp =>
      if url[temp]? = some '/' ∧ temp < url.length - 1 then temp + 1 else start) 0
    start ≤ count ∧ (start = 0 ∨ url[start - 1]? = some '/' ∧ start < url.length) ∧
      ∀ temp, start ≤ temp → temp < count → temp < url.length - 1 → url[temp]? ≠ some '/' := by
  induction count with
  | zero => exact ⟨Nat.le_refl _, Or.inl rfl, fun temp _ hlt => absurd hlt (Nat.not_lt_zero _)⟩
  | succ count ih =>
      obtain ⟨hle, hslash, hnone⟩ := ih (by omega)
      rw [List.range_succ, List.foldl_append]
      dsimp only [List.foldl_cons, List.foldl_nil]
      split_ifs with hhere
      · refine ⟨Nat.le_refl _, Or.inr ⟨by simpa using hhere.1, by omega⟩, ?_⟩
        intro temp hlow hhigh
        omega
      · refine ⟨Nat.le_succ_of_le hle, hslash, ?_⟩
        intro temp hlow hhigh hinner
        by_cases hlast : temp = count
        · subst hlast
          exact fun heq => hhere ⟨heq, hinner⟩
        · exact hnone temp hlow (by omega) hinner

theorem restMethodStart_lt (hne : url ≠ []) : restMethodStart url < url.length := by
  have hpos := List.length_pos_iff.mpr hne
  obtain ⟨-, hslash, -⟩ := @restMethodStart_scan url url.length (Nat.le_refl _)
  rcases hslash with hzero | ⟨-, hlt⟩
  · rw [restMethodStart, hzero]
    exact hpos
  · exact hlt

theorem restMethod_lastComponent (hne : url ≠ []) :
    LastComponent url (url.drop (restMethodStart url)) := by
  have hlt := restMethodStart_lt hne
  obtain ⟨-, hslash, hnone⟩ := @restMethodStart_scan url url.length (Nat.le_refl _)
  refine ⟨⟨url.take (restMethodStart url), (List.take_append_drop _ _).symm, ?_⟩, ?_, ?_⟩
  · by_cases hzero : restMethodStart url = 0
    · exact Or.inl (by rw [hzero, List.take_zero])
    · obtain ⟨place, hplace⟩ := Nat.exists_eq_succ_of_ne_zero hzero
      have hchar : url[place]? = some '/' := by
        rcases hslash with hstart | ⟨hchar, -⟩
        · exact absurd hstart hzero
        · rw [restMethodStart] at hplace
          rwa [hplace] at hchar
      refine Or.inr ⟨url.take place, ?_⟩
      rw [hplace, List.take_add_one, hchar]
      rfl
  · exact List.ne_nil_of_length_pos (by rw [List.length_drop]; omega)
  · intro hmem
    obtain ⟨index, hindex, hchar⟩ := List.getElem_of_mem hmem
    rw [List.getElem_dropLast, List.getElem_drop] at hchar
    simp only [List.length_dropLast, List.length_drop] at hindex
    refine hnone (restMethodStart url + index) (Nat.le_add_right _ _) (by omega) (by omega) ?_
    rw [List.getElem?_eq_getElem (by omega), hchar]

end Url

section Line

-- The first line as the words of the bytes: the method and the URL with any
-- number of spaces more than one between them, and what follows the end of the
-- URL. A word ends at a space or at a zero byte.
structure RequestLine (bytes : List (Option Char)) (method : List Char) (spaces : Nat)
    (url : List Char) (rest : List (Option Char)) : Prop where
  methodWord : Word REST_HTTP_SPACE method
  urlWord : Word REST_HTTP_SPACE url
  line : ∃ sep sep', EndsWord REST_HTTP_SPACE sep ∧ EndsWord REST_HTTP_SPACE sep' ∧
    bytes = method.map some ++ sep ::
      (List.replicate spaces (some REST_HTTP_SPACE) ++ (url.map some ++ sep' :: rest))

theorem word_unique {delim : Char} {text text' : List Char} {sep sep' : Option Char}
    {rest rest' : List (Option Char)} (hfree : delim ∉ text) (hfree' : delim ∉ text')
    (hsep : EndsWord delim sep) (hsep' : EndsWord delim sep')
    (heq : text.map some ++ sep :: rest = text'.map some ++ sep' :: rest') :
    text = text' ∧ rest = rest' := by
  have hends : ∀ {c : Char} {text : List Char}, delim ∉ c :: text → ¬EndsWord delim (some c) := by
    intro c text hfree hends
    rcases hends with hnone | hdelim
    · cases hnone
    · exact hfree (by simp [Option.some.inj hdelim])
  induction text generalizing text' with
  | nil =>
      cases text' with
      | nil => exact ⟨rfl, (List.cons.inj heq).2⟩
      | cons c' text' =>
          obtain ⟨hfirst, -⟩ := List.cons.inj heq
          exact absurd (hfirst ▸ hsep) (hends hfree')
  | cons c text ih =>
      cases text' with
      | nil =>
          obtain ⟨hfirst, -⟩ := List.cons.inj heq
          exact absurd (hfirst ▸ hsep') (hends hfree)
      | cons c' text' =>
          obtain ⟨hfirst, hothers⟩ := List.cons.inj heq
          obtain ⟨rfl, hrest⟩ := ih (fun h => hfree (List.mem_cons_of_mem c h))
            (fun h => hfree' (List.mem_cons_of_mem c' h)) hothers
          exact ⟨by rw [Option.some.inj hfirst], hrest⟩

theorem spaces_unique {delim : Char} {url url' : List Char} {spaces spaces' : Nat}
    {rest rest' : List (Option Char)} (hurl : Word delim url) (hurl' : Word delim url')
    (heq : List.replicate spaces (some delim) ++ (url.map some ++ rest) =
      List.replicate spaces' (some delim) ++ (url'.map some ++ rest')) :
    spaces = spaces' ∧ url.map some ++ rest = url'.map some ++ rest' := by
  have hfirst : ∀ {url : List Char} {rest others : List (Option Char)}, Word delim url →
      url.map some ++ rest ≠ some delim :: others := by
    intro url rest others hurl heq
    obtain ⟨c, text, rfl⟩ := List.exists_cons_of_ne_nil hurl.ne_nil
    obtain ⟨hc, -⟩ := List.cons.inj heq
    exact hurl.free (by simp [Option.some.inj hc])
  induction spaces generalizing spaces' with
  | zero =>
      cases spaces' with
      | zero => exact ⟨rfl, heq⟩
      | succ spaces' => exact absurd heq (hfirst hurl)
  | succ spaces ih =>
      cases spaces' with
      | zero => exact absurd heq.symm (hfirst hurl')
      | succ spaces' =>
          obtain ⟨-, hothers⟩ := List.cons.inj heq
          obtain ⟨rfl, hsame⟩ := ih hothers
          exact ⟨rfl, hsame⟩

variable {bytes rest rest' : List (Option Char)} {method method' url url' : List Char}
  {spaces spaces' : Nat}

theorem requestLine_unique (h : RequestLine bytes method spaces url rest)
    (h' : RequestLine bytes method' spaces' url' rest') :
    method = method' ∧ spaces = spaces' ∧ url = url' ∧ rest = rest' := by
  obtain ⟨first, last, hfirst, hlast, hbytes⟩ := h.line
  obtain ⟨first', last', hfirst', hlast', hbytes'⟩ := h'.line
  obtain ⟨hmethod, htail⟩ := word_unique h.methodWord.free h'.methodWord.free hfirst hfirst'
    (hbytes.symm.trans hbytes')
  obtain ⟨hspaces, hurls⟩ := spaces_unique h.urlWord h'.urlWord htail
  obtain ⟨hurl, hrest⟩ := word_unique h.urlWord.free h'.urlWord.free hlast hlast' hurls
  exact ⟨hmethod, hspaces, hurl, hrest⟩

end Line

section Command

variable {Handler : Type} {modules : MODULES Handler} {featureName restMethod : List Char}

theorem command_eq (featureName restMethod : List Char) :
    command featureName restMethod = BVIEW_AGENT_SW_NAME ++ '/' ::
      ((if featureName = [] then [] else featureName ++ ['/']) ++ restMethod) := by
  unfold command
  split_ifs
  · have htemplate : "%s/%s".toList = '%' :: 's' :: '/' :: '%' :: 's' :: [] := rfl
    rw [htemplate, Printf.format_str, Printf.format, Printf.format_str, Printf.format]
    all_goals simp
  · have htemplate : "%s/%s/%s".toList =
        '%' :: 's' :: '/' :: '%' :: 's' :: '/' :: '%' :: 's' :: [] := rfl
    rw [htemplate, Printf.format_str, Printf.format, Printf.format_str, Printf.format,
      Printf.format_str, Printf.format]
    all_goals simp

theorem command_slash (featureName restMethod : List Char) :
    '/' ∈ command featureName restMethod := by
  rw [command_eq]
  simp

theorem command_length_le (featureName restMethod : List Char) :
    (command featureName restMethod).length ≤
      11 + featureName.length + restMethod.length := by
  have hname : BVIEW_AGENT_SW_NAME.length = 9 := by decide
  rw [command_eq, List.length_append, List.length_cons, List.length_append, hname]
  split_ifs <;> simp <;> omega

def Registered (modules : MODULES Handler) (name : List Char) : Prop :=
  ∃ info ∈ modules.moduleData, (find_api name info).isSome = true

theorem feature_name_cases (modules : MODULES Handler) (name : List Char) :
    modulemgr_rest_api_feature_name_get name modules = (.FAILURE, none) ∨
      ∃ featureName, modulemgr_rest_api_feature_name_get name modules =
          (.SUCCESS, some featureName) ∧
        featureName.length < BVIEW_MAX_FEATURE_NAME_LEN ∧ Registered modules name := by
  unfold modulemgr_rest_api_feature_name_get
  cases hfind : modules.moduleData.find? fun info => (find_api name info).isSome with
  | none => exact Or.inl rfl
  | some info =>
      have hfound := List.find?_some hfind
      exact Or.inr ⟨info.moduleData.featureName, rfl, info.moduleData.name_fits, info,
        List.mem_of_find?_eq_some hfind, hfound⟩

end Command

section Parse

variable {Handler : Type} {modules : MODULES Handler} {request : RequestBytes}

-- The last byte of the buffer is a terminator.
theorem none_mem_tail {before tail : List (Option Char)}
    (hbytes : request.buffer.bytes = before ++ tail) (hne : tail ≠ []) : none ∈ tail := by
  have hlength := request.length_le
  obtain ⟨count, hcount⟩ : ∃ count, REST_MAX_HTTP_BUFFER_LENGTH + 1 - request.bytes.length =
      count + 1 := ⟨REST_MAX_HTTP_BUFFER_LENGTH - request.bytes.length, by omega⟩
  have hlast : request.buffer.bytes.getLast? = some none := by
    rw [RequestBytes.buffer]
    dsimp only
    rw [hcount, List.replicate_succ', ← List.append_assoc, List.getLast?_concat]
  rw [hbytes, List.getLast?_append_of_ne_nil _ hne] at hlast
  exact List.mem_of_getLast? hlast

theorem supported_method {method : List Char} (h : method ∈ supportedMethods) :
    '/' ∉ method ∧ method.length ≤ 6 := by
  simp only [supportedMethods, List.mem_cons, List.not_mem_nil, or_false] at h
  rcases h with rfl | rfl | rfl | rfl <;> decide

theorem parse_url_unregistered {session : REST_SESSION} {httpMethod url : Token}
    (hnone : modulemgr_rest_api_feature_name_get (url.text.drop (restMethodStart url.text))
      modules = (.FAILURE, none)) :
    rest_parse_url modules session httpMethod url = some (.FAILURE, session) := by
  unfold rest_parse_url
  simp only [hnone]

-- No method is a word that has no slash.
theorem parse_url_without_slash (session : REST_SESSION) (httpMethod url : Token)
    (hslash : '/' ∉ url.text) (hshort : url.text.length ≤ 6) :
    ∃ session', rest_parse_url modules session httpMethod url = some (.FAILURE, session') := by
  rcases feature_name_cases modules (url.text.drop (restMethodStart url.text)) with
    hnone | ⟨featureName, hfeature, hname, -⟩
  · exact ⟨session, parse_url_unregistered hnone⟩
  · have hlength := command_length_le featureName (url.text.drop (restMethodStart url.text))
    have hmethod : (url.text.drop (restMethodStart url.text)).length ≤ 6 := by
      rw [List.length_drop]
      omega
    have hfits : ¬sizeof_command ≤
        (command featureName (url.text.drop (restMethodStart url.text))).length := by
      unfold sizeof_command
      unfold BVIEW_MAX_FEATURE_NAME_LEN at hname
      omega
    have hother : (strstr url.text
        (command featureName (url.text.drop (restMethodStart url.text)))).isSome = false := by
      rw [Bool.eq_false_iff]
      intro hsome
      exact hslash ((strstr_isSome_iff.mp hsome).subset (command_slash _ _))
    refine ⟨session, ?_⟩
    unfold rest_parse_url
    simp only [hfeature, rest_validate_url, if_neg hfits, hother]

theorem first_word {method : List Char} {count : Nat} {sep : Option Char}
    {tail : List (Option Char)} (hword : Word REST_HTTP_SPACE method)
    (hsep : EndsWord REST_HTTP_SPACE sep)
    (hbytes : request.buffer.bytes =
      List.replicate count (some REST_HTTP_SPACE) ++ (method.map some ++ sep :: tail)) :
    ∃ first : Buffer (REST_MAX_HTTP_BUFFER_LENGTH + 1),
      first.bytes =
        List.replicate count (some REST_HTTP_SPACE) ++ (method.map some ++ none :: tail) ∧
      request.session.buffer.strtok REST_HTTP_SPACE 0 =
        some (some { place := count, text := method }, first) := by
  have hsplit : request.buffer.bytes =
      (List.replicate count (some REST_HTTP_SPACE) ++ method.map some) ++ sep :: tail := by
    rw [hbytes, List.append_assoc]
  have hstart : request.buffer.bytes = [] ++
      (List.replicate count (some REST_HTTP_SPACE) ++ (method.map some ++ sep :: tail)) := hbytes
  obtain ⟨first, hfirst, hfound⟩ := strtok_word (List.length_nil) hword hsep
    (none_mem_tail hsplit (List.cons_ne_nil _ _)) hstart
  rw [Nat.zero_add] at hfound
  exact ⟨first, hfirst, hfound⟩

-- Both words are found, whatever ends them.
theorem parse_line {method url : List Char} {spaces : Nat} {rest : List (Option Char)}
    (hline : RequestLine request.buffer.bytes method spaces url rest)
    (hsupported : method ∈ supportedMethods) :
    ∃ buffer : Buffer (REST_MAX_HTTP_BUFFER_LENGTH + 1),
      buffer.bytes = method.map some ++ none ::
        (List.replicate spaces (some REST_HTTP_SPACE) ++ (url.map some ++ none :: rest)) ∧
      rest_parse_http_request_to_session modules request.session =
        rest_parse_url modules { request.session with buffer }
          { place := 0, text := method } { place := method.length + 1 + spaces, text := url } := by
  obtain ⟨sep, sep', hsep, hsep', hbytes⟩ := hline.line
  have hurl : none ∈ sep' :: rest := by
    have hsplit : request.buffer.bytes = (method.map some ++ sep ::
        (List.replicate spaces (some REST_HTTP_SPACE) ++ url.map some)) ++ sep' :: rest := by
      rw [hbytes]
      simp
    exact none_mem_tail hsplit (List.cons_ne_nil _ _)
  obtain ⟨first, hfirst, hfound⟩ := @first_word request _ 0 _ _ hline.methodWord hsep hbytes
  have hplace : (method.map some ++ [(none : Option Char)]).length = method.length + 1 := by simp
  have hfirst' : first.bytes = (method.map some ++ [none]) ++
      (List.replicate spaces (some REST_HTTP_SPACE) ++ (url.map some ++ sep' :: rest)) := by
    rw [hfirst]
    simp
  obtain ⟨second, hsecond, hfound'⟩ := strtok_word hplace hline.urlWord hsep' hurl hfirst'
  refine ⟨second, by rw [hsecond]; simp, ?_⟩
  have hvalid : rest_validate_http_method method = true := decide_eq_true hsupported
  unfold rest_parse_http_request_to_session
  rw [hfound]
  simp [hvalid, hfound']

-- A word within spaces and another word is a part of that word.
theorem word_sublist {delim : Char} {text other : List Char} {count : Nat} (hfree : delim ∉ text)
    (h : text.Sublist (List.replicate count delim ++ other)) : text.Sublist other := by
  have hkeep : text.filter (· ≠ delim) = text := by
    rw [List.filter_eq_self]
    exact fun c hc => decide_eq_true fun heq => hfree (heq ▸ hc)
  have hdrop : (List.replicate count delim).filter (· ≠ delim) = [] := by simp
  have hfilter := h.filter (· ≠ delim)
  rw [hkeep, List.filter_append, hdrop, List.nil_append] at hfilter
  exact hfilter.trans List.filter_sublist

-- A request that starts with spaces has its method taken for the URL, or a part
-- of it.
theorem parse_leading_spaces {method : List Char} {count : Nat} {sep : Option Char}
    {tail : List (Option Char)} (hword : Word REST_HTTP_SPACE method)
    (hsep : EndsWord REST_HTTP_SPACE sep)
    (hbytes : request.buffer.bytes =
      List.replicate (count + 1) (some REST_HTTP_SPACE) ++ (method.map some ++ sep :: tail)) :
    ∃ session, rest_parse_http_request_to_session modules request.session =
      some (.FAILURE, session) := by
  obtain ⟨first, hfirst, hfound⟩ := first_word hword hsep hbytes
  unfold rest_parse_http_request_to_session
  rw [hfound]
  dsimp only
  split_ifs with hvalid
  · exact ⟨_, rfl⟩
  · have hsupported : method ∈ supportedMethods := by
      simpa [rest_validate_http_method] using hvalid
    obtain ⟨hslash, hshort⟩ := supported_method hsupported
    have hstring : first.stringAt (method.length + 1) =
        some ((List.replicate (count + 1) REST_HTTP_SPACE ++ method).drop (method.length + 1)) := by
      have hsplit : first.bytes =
          (List.replicate (count + 1) REST_HTTP_SPACE ++ method).map some ++ none :: tail := by
        rw [hfirst]
        simp
      have hlength : method.length + 1 ≤
          ((List.replicate (count + 1) REST_HTTP_SPACE ++ method).map some).length := by
        rw [List.length_map, List.length_append, List.length_replicate]
        omega
      rw [Buffer.stringAt, hsplit, List.drop_append_of_le_length hlength, ← List.map_drop,
        string_append_none]
    obtain ⟨found, second, hsecond, htext⟩ := @strtok_of_string _ REST_HTTP_SPACE _ _ _ hstring
    rw [hsecond]
    cases found with
    | none => exact ⟨_, rfl⟩
    | some url =>
        obtain ⟨hurl, hsublist⟩ := htext url rfl
        have hpart := hsublist.trans (List.drop_sublist _ _)
        have hpart : url.text.Sublist method := word_sublist hurl.free hpart
        exact parse_url_without_slash _ _ _ (fun hmem => hslash (hpart.subset hmem))
          (hpart.length_le.trans hshort)

theorem parse_cases (modules : MODULES Handler) (request : RequestBytes) :
    (∃ session, rest_parse_http_request_to_session modules request.session =
        some (.FAILURE, session)) ∨
      ∃ method spaces url rest, RequestLine request.buffer.bytes method spaces url rest ∧
        method ∈ supportedMethods := by
  have hlength := request.buffer.length_eq
  have hall : none ∈ request.buffer.bytes :=
    none_mem_tail (List.nil_append _).symm (List.ne_nil_of_length_pos (by rw [hlength]; decide))
  rcases scan_cases REST_HTTP_SPACE hall with
    ⟨count, rest, hbytes⟩ | ⟨count, method, sep, tail, hword, hsep, -, hbytes⟩
  · have hstart : request.buffer.bytes =
        [] ++ (List.replicate count (some REST_HTTP_SPACE) ++ none :: rest) := hbytes
    refine Or.inl ⟨request.session, ?_⟩
    unfold rest_parse_http_request_to_session
    rw [show request.session.buffer.strtok REST_HTTP_SPACE 0 = _ from strtok_blank rfl hstart]
  · cases count with
    | succ count => exact Or.inl (parse_leading_spaces hword hsep hbytes)
    | zero =>
        obtain ⟨first, hfirst, hfound⟩ := first_word hword hsep hbytes
        by_cases hsupported : method ∈ supportedMethods
        · have htail : tail ≠ [] := by
            rintro rfl
            have hshort := (supported_method hsupported).2
            have hcells := congrArg List.length hbytes
            simp [hlength, REST_MAX_HTTP_BUFFER_LENGTH] at hcells
            omega
          have hsplit : request.buffer.bytes = (method.map some ++ [sep]) ++ tail := by
            simpa using hbytes
          rcases scan_cases REST_HTTP_SPACE (none_mem_tail hsplit htail) with
            ⟨spaces, rest, rfl⟩ | ⟨spaces, url, sep', rest, hurl, hsep', -, rfl⟩
          · have hplace : (method.map some ++ [(none : Option Char)]).length =
                method.length + 1 := by simp
            have hfirst' : first.bytes = (method.map some ++ [none]) ++
                (List.replicate spaces (some REST_HTTP_SPACE) ++ none :: rest) := by
              rw [hfirst]
              simp
            have hblank := strtok_blank hplace hfirst'
            have hvalid : rest_validate_http_method method = true := decide_eq_true hsupported
            refine Or.inl ⟨{ request.session with buffer := first }, ?_⟩
            unfold rest_parse_http_request_to_session
            rw [hfound]
            simp [hvalid, hblank]
          · exact Or.inr ⟨method, spaces, url, rest, ⟨hword, hurl, sep, sep', hsep, hsep', hbytes⟩,
              hsupported⟩
        · have hvalid : rest_validate_http_method method = false := decide_eq_false hsupported
          refine Or.inl ⟨{ request.session with buffer := first }, ?_⟩
          unfold rest_parse_http_request_to_session
          rw [hfound]
          simp [hvalid]

end Parse

section Body

variable {Handler : Type} {modules : MODULES Handler} {request : RequestBytes}
  {method url : List Char} {spaces : Nat} {rest : List (Option Char)}
  {buffer : Buffer (REST_MAX_HTTP_BUFFER_LENGTH + 1)}

-- The text in which the end of the headers is looked for. The place of it counts
-- one space: with more, it is in the spaces or in the URL.
def textBehind (spaces : Nat) (url : List Char) (rest : List (Option Char)) :
    Option (List Char) :=
  if spaces = 0 then string rest
  else some ((List.replicate spaces REST_HTTP_SPACE ++ url).drop (url.length + 1))

theorem drop_behind (hbytes : buffer.bytes = method.map some ++ none ::
      (List.replicate 0 (some REST_HTTP_SPACE) ++ (url.map some ++ none :: rest))) :
    buffer.bytes.drop (method.length + 1 + (url.length + 1)) = rest := by
  have hsplit : buffer.bytes = (method.map some ++ none :: (url.map some ++ [none])) ++ rest := by
    rw [hbytes]
    simp
  have hlength : (method.map some ++ none :: (url.map some ++ [(none : Option Char)])).length =
      method.length + 1 + (url.length + 1) := by
    simp only [List.length_append, List.length_cons, List.length_map, List.length_nil]
    omega
  rw [hsplit, List.drop_left' hlength]

theorem stringAt_behind (hbytes : buffer.bytes = method.map some ++ none ::
      (List.replicate spaces (some REST_HTTP_SPACE) ++ (url.map some ++ none :: rest))) :
    buffer.stringAt (method.length + 1 + (url.length + 1)) = textBehind spaces url rest := by
  rw [Buffer.stringAt, textBehind]
  split_ifs with hzero
  · subst hzero
    rw [drop_behind hbytes]
  · have hsplit : buffer.bytes = (method.map some ++ [none]) ++
        ((List.replicate spaces REST_HTTP_SPACE ++ url).map some ++ none :: rest) := by
      rw [hbytes]
      simp
    have hplace : (method.map some ++ [(none : Option Char)]).length = method.length + 1 := by simp
    have hlength : url.length + 1 ≤
        ((List.replicate spaces REST_HTTP_SPACE ++ url).map some).length := by
      rw [List.length_map, List.length_append, List.length_replicate]
      omega
    rw [hsplit, ← List.drop_drop, List.drop_left' hplace, List.drop_append_of_le_length hlength,
      ← List.map_drop, string_append_none]

theorem received_of_some {place : Nat} {c : Char}
    (h : request.buffer.bytes[place]? = some (some c)) : place < request.bytes.length := by
  by_contra hout
  rw [RequestBytes.buffer] at h
  dsimp only at h
  rw [List.getElem?_append_right (by omega), List.getElem?_replicate] at h
  split_ifs at h
  cases Option.some.inj h

-- The first place of the body, with what is skipped before it.
def bodyPlace (method : List Char) (spaces : Nat) (url : List Char) (offset : Nat) : Nat :=
  method.length + 1 + (spaces + (url.length + 1)) + offset + REST_HTTP_TWIN_CRLF.length

-- The end of the headers was received, so the body starts within what was
-- received, or at its end.
theorem bodyPlace_le {offset : Nat}
    (hline : RequestLine request.buffer.bytes method spaces url rest)
    (hblank : FirstAt (REST_HTTP_TWIN_CRLF.map some) rest offset) :
    bodyPlace method spaces url offset ≤ request.bytes.length := by
  obtain ⟨sep, sep', -, -, hbytes⟩ := hline.line
  obtain ⟨more, hmore⟩ := hblank.starts
  have hcell : rest[offset + 3]? = some (some '\n') := by
    rw [← List.getElem?_drop, ← hmore]
    rfl
  have hplace : request.buffer.bytes[bodyPlace method spaces url offset - 1]? =
      some (some '\n') := by
    have hsplit : request.buffer.bytes = (method.map some ++ sep ::
        (List.replicate spaces (some REST_HTTP_SPACE) ++ (url.map some ++ [sep']))) ++ rest := by
      rw [hbytes]
      simp
    have hindex : bodyPlace method spaces url offset - 1 = (method.map some ++ sep ::
        (List.replicate spaces (some REST_HTTP_SPACE) ++ (url.map some ++ [sep']))).length +
          (offset + 3) := by
      have htwin : REST_HTTP_TWIN_CRLF.length = 4 := rfl
      rw [bodyPlace, htwin]
      simp
      omega
    rw [hsplit, hindex, List.getElem?_append_right (Nat.le_add_right _ _),
      Nat.add_sub_cancel_left, hcell]
  have hlt := received_of_some hplace
  omega

-- What has to be there of a request.
structure HasParts (modules : MODULES Handler) (bytes : List (Option Char)) (method : List Char)
    (spaces : Nat) (url : List Char) (rest : List (Option Char)) (offset : Nat) : Prop where
  line : RequestLine bytes method spaces url rest
  supported : method ∈ supportedMethods
  registered : ∃ component, LastComponent url component ∧ Registered modules component
  blank : FirstAt (REST_HTTP_TWIN_CRLF.map some) rest offset

-- What the session keeps of them.
structure Filled (request : RequestBytes) (method : List Char) (spaces : Nat) (url : List Char)
    (offset : Nat) (session : REST_SESSION) : Prop where
  json : session.json = some (bodyPlace method spaces url offset)
  length : session.length = request.bytes.length - bodyPlace method spaces url offset
  nonneg : 0 ≤ session.length
  httpMethod : session.httpMethod.string = some method
  path : session.url.string = some (url.take REST_MAX_STRING_LENGTH)

-- The parser stays inside its arrays, and it succeeds only with a request that
-- has its parts, which it takes over, and refuses every other.
def ParsesExactly (modules : MODULES Handler) (request : RequestBytes) : Prop :=
  ∃ rv session, rest_parse_http_request_to_session modules request.session = some (rv, session) ∧
    (rv = .SUCCESS → ∃ method spaces url rest offset,
      HasParts modules request.buffer.bytes method spaces url rest offset ∧
        Filled request method spaces url offset session) ∧
    ((¬∃ method spaces url rest offset,
      HasParts modules request.buffer.bytes method spaces url rest offset) → rv = .FAILURE)

theorem exact_of_failure {session : REST_SESSION}
    (h : rest_parse_http_request_to_session modules request.session = some (.FAILURE, session)) :
    ParsesExactly modules request :=
  ⟨.FAILURE, session, h, fun heq => absurd heq (by decide), fun _ => rfl⟩

variable {featureName : List Char}

-- A command that is in the URL.
structure Named (modules : MODULES Handler) (url featureName : List Char) : Prop where
  feature : modulemgr_rest_api_feature_name_get (url.drop (restMethodStart url)) modules =
    (.SUCCESS, some featureName)
  fits : (command featureName (url.drop (restMethodStart url))).length < sizeof_command
  inside : command featureName (url.drop (restMethodStart url)) <:+: url

-- The command of a registered method does not fit its array, or is not in the
-- URL, or it is.
theorem parse_url_cases {session : REST_SESSION} {httpMethod : Token} {place : Nat}
    (hfeature : modulemgr_rest_api_feature_name_get (url.drop (restMethodStart url)) modules =
      (.SUCCESS, some featureName)) :
    (sizeof_command ≤ (command featureName (url.drop (restMethodStart url))).length ∧
        rest_parse_url modules session httpMethod { place, text := url } = none) ∨
      (¬command featureName (url.drop (restMethodStart url)) <:+: url ∧
        rest_parse_url modules session httpMethod { place, text := url } =
          some (.FAILURE, session)) ∨
      Named modules url featureName := by
  by_cases hlong : sizeof_command ≤ (command featureName (url.drop (restMethodStart url))).length
  · refine Or.inl ⟨hlong, ?_⟩
    unfold rest_parse_url
    simp only [hfeature, rest_validate_url, if_pos hlong]
  · by_cases hinside : command featureName (url.drop (restMethodStart url)) <:+: url
    · exact Or.inr (Or.inr ⟨hfeature, Nat.lt_of_not_le hlong, hinside⟩)
    · have hnone : (strstr url
          (command featureName (url.drop (restMethodStart url)))).isSome = false := by
        rw [Bool.eq_false_iff]
        exact fun hsome => hinside (strstr_isSome_iff.mp hsome)
      refine Or.inr (Or.inl ⟨hinside, ?_⟩)
      unfold rest_parse_url
      simp only [hfeature, rest_validate_url, if_neg hlong, hnone]

theorem parse_url_named (hnamed : Named modules url featureName)
    (hbytes : buffer.bytes = method.map some ++ none ::
      (List.replicate spaces (some REST_HTTP_SPACE) ++ (url.map some ++ none :: rest)))
    (session : REST_SESSION) (hbuffer : session.buffer = buffer) (place : Nat) :
    rest_parse_url modules session { place := 0, text := method } { place, text := url } =
      (textBehind spaces url rest).bind fun text =>
        match strstr text REST_HTTP_TWIN_CRLF with
        | none => some (.FAILURE, session)
        | some offset =>
            (buffer.memcpy (place + restMethodStart url) REST_MAX_STRING_LENGTH).map
              fun restMethod => (.SUCCESS,
                { session with
                  json := some (method.length + 1 + (url.length + 1) + offset +
                    REST_HTTP_TWIN_CRLF.length)
                  httpMethod := strncpy session.httpMethod method
                    REST_MAX_STRING_LENGTH (by decide)
                  url := strncpy session.url url REST_MAX_STRING_LENGTH (by decide)
                  restMethod
                  length := session.length - (method.length + 1 + (url.length + 1) + offset +
                    REST_HTTP_TWIN_CRLF.length : Nat) }) := by
  have hvalid : rest_validate_url url featureName (url.drop (restMethodStart url)) = some true := by
    rw [rest_validate_url, if_neg (Nat.not_le_of_lt hnamed.fits),
      strstr_isSome_iff.mpr hnamed.inside]
  unfold rest_parse_url
  simp only [hnamed.feature, hvalid, hbuffer, stringAt_behind hbytes]
  cases textBehind spaces url rest with
  | none => rfl
  | some text =>
      simp only [Option.bind_some]
      cases strstr text REST_HTTP_TWIN_CRLF with
      | none => rfl
      | some offset =>
          cases buffer.memcpy (place + restMethodStart url) REST_MAX_STRING_LENGTH <;> rfl

-- What a request has to keep to, that names a registered method: its command
-- fits its array; where the command is in the URL, the URL leaves a byte of the
-- buffer behind it, and the method with the bytes that are copied after it is
-- inside the buffer when a body follows, or there are further spaces before the
-- URL and no end of headers between them and the end of the URL.
structure UrlReady (method : List Char) (spaces : Nat) (url : List Char)
    (rest : List (Option Char)) (featureName : List Char) : Prop where
  fits : (command featureName (url.drop (restMethodStart url))).length < sizeof_command
  plain : command featureName (url.drop (restMethodStart url)) <:+: url → spaces = 0 →
    rest ≠ [] ∧ ∀ text, string rest = some text → REST_HTTP_TWIN_CRLF <:+: text →
      method.length + 1 + restMethodStart url + REST_MAX_STRING_LENGTH ≤
        REST_MAX_HTTP_BUFFER_LENGTH + 1
  spaced : command featureName (url.drop (restMethodStart url)) <:+: url → spaces ≠ 0 →
    ¬REST_HTTP_TWIN_CRLF <:+:
      (List.replicate spaces REST_HTTP_SPACE ++ url).drop (url.length + 1)

def ParseReady (modules : MODULES Handler) (request : RequestBytes) : Prop :=
  ∀ method spaces url rest featureName,
    RequestLine request.buffer.bytes method spaces url rest → method ∈ supportedMethods →
    modulemgr_rest_api_feature_name_get (url.drop (restMethodStart url)) modules =
      (.SUCCESS, some featureName) →
    UrlReady method spaces url rest featureName

theorem ready_of_exact (hexact : ParsesExactly modules request) : ParseReady modules request := by
  intro method spaces url rest featureName hline hsupported hfeature
  obtain ⟨rv, session, hparse, hsuccess, -⟩ := hexact
  obtain ⟨buffer, hbytes, heq⟩ := @parse_line _ modules _ _ _ _ _ hline hsupported
  rw [heq] at hparse
  have hfits : (command featureName (url.drop (restMethodStart url))).length < sizeof_command := by
    by_contra hlong
    have hlong := Nat.le_of_not_lt hlong
    unfold rest_parse_url at hparse
    simp only [hfeature, rest_validate_url, if_pos hlong] at hparse
    cases hparse
  refine ⟨hfits, fun hinside hzero => ⟨?_, ?_⟩, fun hinside hspaces htwin => ?_⟩
  · rintro rfl
    rw [parse_url_named ⟨hfeature, hfits, hinside⟩ hbytes _ rfl, textBehind, if_pos hzero] at hparse
    cases hparse
  · intro text htext htwin
    obtain ⟨offset, hoffset⟩ := Option.isSome_iff_exists.mp (strstr_isSome_iff.mpr htwin)
    rw [parse_url_named ⟨hfeature, hfits, hinside⟩ hbytes _ rfl, textBehind, if_pos hzero, htext,
      Option.bind_some] at hparse
    simp only [hoffset, Option.map_eq_some_iff] at hparse
    obtain ⟨copy, hcopy, -⟩ := hparse
    unfold Buffer.memcpy at hcopy
    split_ifs at hcopy with hbound
    omega
  · obtain ⟨offset, hoffset⟩ := Option.isSome_iff_exists.mp (strstr_isSome_iff.mpr htwin)
    obtain ⟨-, hwithin⟩ := strstr_eq_some hoffset
    rw [parse_url_named ⟨hfeature, hfits, hinside⟩ hbytes _ rfl, textBehind, if_neg hspaces,
      Option.bind_some] at hparse
    simp only [hoffset, Option.map_eq_some_iff] at hparse
    obtain ⟨copy, -, hresult⟩ := hparse
    obtain ⟨rfl, rfl⟩ := Prod.mk.inj hresult
    obtain ⟨method', spaces', url', rest', offset', hparts, hfilled⟩ := hsuccess rfl
    obtain ⟨rfl, rfl, rfl, rfl⟩ := requestLine_unique hline hparts.line
    have hjson := Option.some.inj hfilled.json
    simp only [List.length_drop, List.length_append, List.length_replicate] at hwithin
    unfold bodyPlace at hjson
    omega

theorem none_mem_rest (hline : RequestLine request.buffer.bytes method spaces url rest)
    (hrest : rest ≠ []) : none ∈ rest := by
  obtain ⟨sep, sep', -, -, hbytes⟩ := hline.line
  have hsplit : request.buffer.bytes = (method.map some ++ sep ::
      (List.replicate spaces (some REST_HTTP_SPACE) ++ (url.map some ++ [sep']))) ++ rest := by
    rw [hbytes]
    simp
  exact none_mem_tail hsplit hrest

theorem first_blank {text : List Char} {offset : Nat} (htext : string rest = some text)
    (hoffset : strstr text REST_HTTP_TWIN_CRLF = some offset) :
    FirstAt (REST_HTTP_TWIN_CRLF.map some) rest offset := by
  obtain ⟨others, rfl⟩ := string_eq_some htext
  obtain ⟨hfirst, hwithin⟩ := strstr_eq_some hoffset
  exact firstAt_bytes hfirst (by omega)

theorem filled_session {offset : Nat}
    (hline : RequestLine request.buffer.bytes method 0 url rest)
    (hsupported : method ∈ supportedMethods)
    (hblank : FirstAt (REST_HTTP_TWIN_CRLF.map some) rest offset)
    (copy : Buffer REST_MAX_STRING_LENGTH) :
    Filled request method 0 url offset
      { request.session with
        buffer
        json := some (method.length + 1 + (url.length + 1) + offset + REST_HTTP_TWIN_CRLF.length)
        httpMethod := strncpy request.session.httpMethod method REST_MAX_STRING_LENGTH (by decide)
        url := strncpy request.session.url url REST_MAX_STRING_LENGTH (by decide)
        restMethod := copy
        length := request.session.length - (method.length + 1 + (url.length + 1) + offset +
          REST_HTTP_TWIN_CRLF.length : Nat) } := by
  have hplace : bodyPlace method 0 url offset =
      method.length + 1 + (url.length + 1) + offset + REST_HTTP_TWIN_CRLF.length := by
    rw [bodyPlace, Nat.zero_add]
  have hbody := bodyPlace_le hline hblank
  have hshort := (supported_method hsupported).2
  have hzeroed : request.session.url.bytes.drop REST_MAX_STRING_LENGTH = [none] :=
    List.drop_replicate
  rw [hplace] at hbody
  refine ⟨by rw [hplace], by rw [hplace]; rfl, ?_, ?_, ?_⟩
  · change (0 : Int) ≤ request.bytes.length - _
    omega
  · exact string_strncpy _ (by decide) (by unfold REST_MAX_STRING_LENGTH; omega)
  · exact string_strncpy_terminated _ (by decide) hzeroed

theorem exact_of_plain (hline : RequestLine request.buffer.bytes method 0 url rest)
    (hsupported : method ∈ supportedMethods) (hnamed : Named modules url featureName)
    (hregistered : Registered modules (url.drop (restMethodStart url)))
    (hready : UrlReady method 0 url rest featureName) : ParsesExactly modules request := by
  obtain ⟨buffer, hbytes, heq⟩ := @parse_line _ modules _ _ _ _ _ hline hsupported
  rw [parse_url_named hnamed hbytes _ rfl] at heq
  obtain ⟨hrest, hcopied⟩ := hready.plain hnamed.inside rfl
  obtain ⟨text, htext⟩ := string_of_mem (none_mem_rest hline hrest)
  rw [textBehind, if_pos rfl, htext, Option.bind_some] at heq
  cases hoffset : strstr text REST_HTTP_TWIN_CRLF with
  | none =>
      simp only [hoffset] at heq
      exact exact_of_failure heq
  | some offset =>
      have htwin := strstr_isSome_iff.mp (Option.isSome_iff_exists.mpr ⟨offset, hoffset⟩)
      have hbound := hcopied text htext htwin
      have hmemcpy : ∃ copy, buffer.memcpy (method.length + 1 + 0 + restMethodStart url)
          REST_MAX_STRING_LENGTH = some copy := by
        unfold Buffer.memcpy
        exact ⟨_, dif_pos (by omega)⟩
      obtain ⟨copy, hcopy⟩ := hmemcpy
      simp only [hoffset, hcopy, Option.map_some] at heq
      have hparts : HasParts modules request.buffer.bytes method 0 url rest offset :=
        ⟨hline, hsupported, ⟨_, restMethod_lastComponent hline.urlWord.ne_nil, hregistered⟩,
          first_blank htext hoffset⟩
      refine ⟨_, _, heq, fun _ => ⟨method, 0, url, rest, offset, hparts, ?_⟩,
        fun hnone => absurd ⟨method, 0, url, rest, offset, hparts⟩ hnone⟩
      exact filled_session hline hsupported hparts.blank copy

-- Behind further spaces no end of headers is found.
theorem exact_of_spaced (hline : RequestLine request.buffer.bytes method spaces url rest)
    (hsupported : method ∈ supportedMethods) (hspaces : spaces ≠ 0)
    (hnamed : Named modules url featureName)
    (hready : UrlReady method spaces url rest featureName) : ParsesExactly modules request := by
  obtain ⟨buffer, hbytes, heq⟩ := @parse_line _ modules _ _ _ _ _ hline hsupported
  have hnone : strstr ((List.replicate spaces REST_HTTP_SPACE ++ url).drop
      (url.length + 1)) REST_HTTP_TWIN_CRLF = none := by
    rw [← Option.not_isSome_iff_eq_none, strstr_isSome_iff]
    exact hready.spaced hnamed.inside hspaces
  rw [parse_url_named hnamed hbytes _ rfl, textBehind, if_neg hspaces, Option.bind_some] at heq
  simp only [hnone] at heq
  exact exact_of_failure heq

theorem exact_of_ready (hready : ParseReady modules request) : ParsesExactly modules request := by
  rcases parse_cases modules request with
    ⟨session, hfailure⟩ | ⟨method, spaces, url, rest, hline, hsupported⟩
  · exact exact_of_failure hfailure
  · obtain ⟨buffer, hbytes, heq⟩ := @parse_line _ modules _ _ _ _ _ hline hsupported
    rcases feature_name_cases modules (url.drop (restMethodStart url)) with
      hnone | ⟨featureName, hfeature, -, hregistered⟩
    · exact exact_of_failure (heq.trans (parse_url_unregistered hnone))
    · have hurl := hready method spaces url rest featureName hline hsupported hfeature
      rcases parse_url_cases hfeature with ⟨hlong, -⟩ | ⟨-, hother⟩ | hnamed
      · exact absurd hurl.fits (Nat.not_lt_of_le hlong)
      · exact exact_of_failure (heq.trans hother)
      · by_cases hzero : spaces = 0
        · subst hzero
          exact exact_of_plain hline hsupported hnamed hregistered hurl
        · exact exact_of_spaced hline hsupported hzero hnamed hurl

theorem parses_exactly_iff (modules : MODULES Handler) (request : RequestBytes) :
    ParsesExactly modules request ↔ ParseReady modules request :=
  ⟨ready_of_exact, exact_of_ready⟩

end Body

section Examples

def bstModule : BVIEW_MODULE_FETAURE_INFO String :=
  moduleInfo 2 "bst"
    [⟨some "get-bst-feature".toList, some "bstjson_get_bst_feature"⟩,
      ⟨some "clear-bst-statistics".toList, some "bstjson_clear_bst_statistics"⟩]
    (by decide) (by decide)

def bstModules : MODULES String := register modulemgr_init bstModule

-- A request of one line, with spaces before and a space behind its URL.
def lineRequest (spaces : Nat) (url : List Char) (hlength : spaces + url.length ≤ 2000) :
    RequestBytes where
  bytes := "GET".toList.map some ++ some REST_HTTP_SPACE ::
    (List.replicate spaces (some REST_HTTP_SPACE) ++
      (url.map some ++ [some REST_HTTP_SPACE]))
  length_le := by
    simp [REST_MAX_HTTP_BUFFER_LENGTH]
    omega

def crlfUrl : List Char := REST_HTTP_TWIN_CRLF ++ "/broadview/bst/get-bst-feature".toList

-- With as many spaces as the URL has characters and two, the end of the headers
-- is found in the URL.
theorem spaced_request_misread :
    ¬ParsesExactly bstModules (lineRequest 35 crlfUrl (by decide)) := by
  intro hexact
  have hline : RequestLine (lineRequest 35 crlfUrl (by decide)).buffer.bytes "GET".toList 35
      crlfUrl (List.replicate (REST_MAX_HTTP_BUFFER_LENGTH + 1 -
        (lineRequest 35 crlfUrl (by decide)).bytes.length) none) := by
    refine ⟨⟨by decide, by decide⟩, ⟨by decide, by decide⟩, some REST_HTTP_SPACE,
      some REST_HTTP_SPACE, Or.inr rfl, Or.inr rfl, ?_⟩
    simp only [RequestBytes.buffer, lineRequest, List.append_assoc, List.cons_append,
      List.nil_append]
  have hfeature : modulemgr_rest_api_feature_name_get (crlfUrl.drop (restMethodStart crlfUrl))
      bstModules = (.SUCCESS, some "bst".toList) := by decide
  have hready := ready_of_exact hexact _ _ _ _ _ hline (by decide) hfeature
  exact hready.spaced (by decide) (by decide) (by decide)

end Examples

end BroadView.Rest.Http
