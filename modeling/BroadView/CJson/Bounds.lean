import BroadView.CJson.Theorems

namespace BroadView.CJson

section Follows

-- Every backslash of the text has what it escapes behind it: four hexadecimal digits
-- behind a u, else any character.
inductive Complete : List Char → Prop where
  | nil : Complete []
  | plain {c : Char} {rest : List Char} : c ≠ '\\' → Complete rest → Complete (c :: rest)
  | escape {e : Char} {rest : List Char} : e ≠ 'u' → Complete rest →
      Complete ('\\' :: e :: rest)
  | unicode {a b c d : Char} {rest : List Char} :
      (∀ digit ∈ [a, b, c, d], Json.IsHex digit) → Complete rest →
      Complete ('\\' :: 'u' :: a :: b :: c :: d :: rest)

variable {c : Char} {text rest rest' : List Char}

theorem complete_of_no_backslash (h : '\\' ∉ text) : Complete text := by
  induction text with
  | nil => exact .nil
  | cons c text ih =>
      rw [List.mem_cons, not_or] at h
      exact .plain (Ne.symm h.1) (ih h.2)

theorem Complete.tail (h : Complete (c :: rest)) (hc : c ≠ '\\') : Complete rest := by
  cases h with
  | plain _ hrest => exact hrest
  | escape | unicode => exact absurd rfl hc

-- A complete text goes on with the characters of a string up to its end.
theorem complete_string (h : Complete text) :
    ∃ chars tail rest, text = chars ++ tail ∧ Escapes chars ∧ Ends tail rest ∧ Complete rest := by
  induction h with
  | nil => exact ⟨[], [], [], rfl, .nil, Or.inl ⟨rfl, rfl⟩, .nil⟩
  | @plain c rest hslash hrest ih =>
      by_cases hquote : c = '"'
      · subst hquote
        exact ⟨[], '"' :: rest, rest, rfl, .nil, Or.inr rfl, hrest⟩
      · obtain ⟨chars, tail, rest, rfl, hchars, hends, hcomplete⟩ := ih
        exact ⟨c :: chars, tail, rest, rfl, .plain hquote hslash hchars, hends, hcomplete⟩
  | @escape e rest he _ ih =>
      obtain ⟨chars, tail, rest, rfl, hchars, hends, hcomplete⟩ := ih
      exact ⟨'\\' :: e :: chars, tail, rest, rfl, .escape he hchars, hends, hcomplete⟩
  | @unicode a b c d rest hhex _ ih =>
      obtain ⟨chars, tail, rest, rfl, hchars, hends, hcomplete⟩ := ih
      exact ⟨'\\' :: 'u' :: a :: b :: c :: d :: chars, tail, rest, rfl, .unicode hhex hchars,
        hends, hcomplete⟩

-- What is left of a text, with no escape cut in two.
def Follows (text rest : List Char) : Prop := rest <:+ text ∧ (Complete text → Complete rest)

theorem Follows.refl (text : List Char) : Follows text text := ⟨List.suffix_refl _, id⟩

theorem Follows.trans (h : Follows text rest) (h' : Follows rest rest') : Follows text rest' :=
  ⟨h'.1.trans h.1, fun hcomplete => h'.2 (h.2 hcomplete)⟩

theorem Follows.cons (hc : c ≠ '\\') (h : Follows rest rest') : Follows (c :: rest) rest' :=
  ⟨h.1.trans (List.suffix_cons c rest), fun hcomplete => h.2 (hcomplete.tail hc)⟩

theorem follows_cons (hc : c ≠ '\\') : Follows (c :: rest) rest := (Follows.refl rest).cons hc

theorem Follows.length_le (h : Follows text rest) : rest.length ≤ text.length := h.1.length_le

theorem follows_dropWhile {p : Char → Bool} (hp : p '\\' = false) (text : List Char) :
    Follows text (text.dropWhile p) := by
  induction text with
  | nil => exact Follows.refl _
  | cons c text ih =>
      by_cases hc : p c = true
      · have hslash : c ≠ '\\' := by
          rintro rfl
          exact absurd hc (by simp [hp])
        rw [List.dropWhile_cons_of_pos hc]
        exact ih.cons hslash
      · rw [List.dropWhile_cons_of_neg hc]
        exact Follows.refl _

theorem follows_skip (text : List Char) : Follows text (skip text) :=
  follows_dropWhile (by decide) text

theorem follows_append {word : List Char} (hword : '\\' ∉ word) (rest : List Char) :
    Follows (word ++ rest) rest := by
  induction word with
  | nil => exact Follows.refl rest
  | cons c word ih =>
      rw [List.mem_cons, not_or] at hword
      exact (ih hword.2).cons (Ne.symm hword.1)

theorem follows_word {word : List Char} (hword : '\\' ∉ word) (h : word <+: text) :
    Follows text (text.drop word.length) := by
  obtain ⟨rest, rfl⟩ := h
  rw [List.drop_left]
  exact follows_append hword rest

end Follows

section Number

variable (num : List Char)

theorem follows_sign : Follows num (take_sign num).2 := by
  cases num with
  | nil => exact Follows.refl _
  | cons c num =>
      by_cases hc : c = '-'
      · subst hc
        exact follows_cons (by decide)
      · rw [take_sign, if_neg hc]
        exact Follows.refl _

theorem follows_zero : Follows num (skip_zero num) := by
  cases num with
  | nil => exact Follows.refl _
  | cons c num =>
      by_cases hc : c = '0'
      · subst hc
        exact follows_cons (by decide)
      · rw [skip_zero, if_neg hc]
        exact Follows.refl _

theorem follows_digits : Follows num (take_digits num).2 := follows_dropWhile (by decide) num

theorem follows_whole : Follows num (take_whole num).2 := by
  cases num with
  | nil => exact Follows.refl _
  | cons c num =>
      by_cases hc : c = '0'
      · rw [take_whole, if_pos hc]
        exact Follows.refl _
      · rw [take_whole, if_neg hc]
        exact follows_digits _

theorem follows_fraction : Follows num (take_fraction num).2 := by
  cases num with
  | nil => exact Follows.refl _
  | cons c num =>
      by_cases hc : c = '.' ∧ (take_digits num).1 ≠ []
      · rw [take_fraction, if_pos hc]
        have hslash : c ≠ '\\' := by
          rw [hc.1]
          decide
        exact (follows_digits num).cons hslash
      · rw [take_fraction, if_neg hc]
        exact Follows.refl _

theorem follows_exponent_sign : Follows num (take_exponent_sign num).2 := by
  cases num with
  | nil => exact Follows.refl _
  | cons c num =>
      by_cases hplus : c = '+'
      · subst hplus
        exact follows_cons (by decide)
      by_cases hminus : c = '-'
      · subst hminus
        exact follows_cons (by decide)
      · rw [take_exponent_sign, if_neg hplus, if_neg hminus]
        exact Follows.refl _

theorem follows_exponent : Follows num (take_exponent num).2 := by
  cases num with
  | nil => exact Follows.refl _
  | cons c num =>
      by_cases hc : c = 'e' ∨ c = 'E'
      · rw [take_exponent, if_pos hc]
        have hslash : c ≠ '\\' := by
          rintro rfl
          exact absurd hc (by decide)
        exact ((follows_exponent_sign num).trans (follows_digits _)).cons hslash
      · rw [take_exponent, if_neg hc]
        exact Follows.refl _

theorem follows_number (arith : Arithmetic) : Follows num (parse_number arith num).2 :=
  (follows_sign num).trans ((follows_zero _).trans ((follows_whole _).trans
    ((follows_fraction _).trans (follows_exponent _))))

end Number

section Strings

variable {text out rest : List Char}

theorem emit_suffix {written : List Char}
    (ih : ∀ out, unescape text = some (out, rest) → rest <:+ text)
    (h : (unescape text).map (emit written) = some (out, rest)) : rest <:+ text := by
  obtain ⟨⟨out', rest'⟩, hunescape, hemit⟩ := Option.map_eq_some_iff.mp h
  obtain ⟨-, rfl⟩ := Prod.mk.inj hemit
  exact ih out' hunescape

-- Whatever is skipped, what is left of a string is left of the text.
theorem unescape_suffix (h : unescape text = some (out, rest)) : rest <:+ text := by
  have hsix (a b c d e f : Char) (num : List Char) : num <:+ a :: b :: c :: d :: e :: f :: num :=
    ⟨[a, b, c, d, e, f], rfl⟩
  fun_induction unescape text generalizing out with
  | case1 =>
      cases h
      exact List.suffix_refl _
  | case2 num =>
      cases h
      exact List.suffix_cons _ _
  | case3 | case6 | case9 => cases h
  | case4 a b c d num _ _ ih | case7 a b c d num _ _ _ _ ih =>
      exact (ih h).trans (hsix _ _ _ _ _ _ _)
  | case5 a b c d _ _ e f a' b' c' d' num _ _ ih =>
      exact (emit_suffix (fun _ => ih) h).trans
        ((hsix _ _ _ _ _ _ _).trans (hsix _ _ _ _ _ _ _))
  | case8 a b c d num _ _ _ ih =>
      exact (emit_suffix (fun _ => ih) h).trans (hsix _ _ _ _ _ _ _)
  | case10 c num _ _ ih =>
      exact (emit_suffix (fun _ => ih) h).trans
        ((List.suffix_cons _ _).trans (List.suffix_cons _ _))
  | case11 c num _ _ ih =>
      exact (emit_suffix (fun _ => ih) h).trans (List.suffix_cons _ _)

end Strings

section Tame

variable {α β : Type} {text text' rest : List Char} {enough enough' : Prop}

-- What a part of the parser does to a text: it leaves a rest of it, it returns given
-- enough fuel, and it stays within the text as long as the escapes are complete.
structure Tame (text : List Char) (enough : Prop) (result : Except Stop (α × List Char)) :
    Prop where
  follows : ∀ a rest, result = .ok (a, rest) → Follows text rest
  depth : enough → result ≠ .error .depth
  overrun : Complete text → result ≠ .error .overrun

theorem Tame.ok (a : α) (h : Follows text rest) : Tame text enough (.ok (a, rest)) := by
  refine ⟨fun a' rest' heq => ?_, fun _ => nofun, fun _ => nofun⟩
  cases heq
  exact h

theorem tame_malformed : Tame (α := α) text enough (.error .malformed) :=
  ⟨fun _ _ => nofun, fun _ => nofun, fun _ => nofun⟩

theorem tame_depth (h : ¬enough) : Tame (α := α) text enough (.error .depth) :=
  ⟨fun _ _ => nofun, fun henough => absurd henough h, fun _ => nofun⟩

variable {result : Except Stop (α × List Char)}

theorem Tame.mono (h : Tame text' enough' result) (hfollows : Follows text text')
    (henough : enough → enough') : Tame text enough result where
  follows a rest heq := hfollows.trans (h.follows a rest heq)
  depth hdepth := h.depth (henough hdepth)
  overrun hcomplete := h.overrun (hfollows.2 hcomplete)

-- One part after the other, and the second on what the first has left.
theorem Tame.bind {next : α × List Char → Except Stop (β × List Char)}
    (h : Tame text enough result)
    (hnext : ∀ a rest, Follows text rest → Tame text enough (next (a, rest))) :
    Tame text enough (result >>= next) := by
  cases hresult : result with
  | error stop =>
      subst hresult
      refine ⟨fun _ _ => nofun, fun hdepth heq => h.depth hdepth ?_,
        fun hcomplete heq => h.overrun hcomplete ?_⟩
      · cases heq
        rfl
      · cases heq
        rfl
  | ok value =>
      obtain ⟨a, rest⟩ := value
      exact hnext a rest (h.follows a rest hresult)

theorem parse_string_quote :
    (∃ out rest, unescape text = some (out, rest) ∧
        parse_string ('"' :: text) = .ok (out, rest)) ∨
      parse_string ('"' :: text) = .error .overrun := by
  rw [parse_string, if_pos rfl]
  split
  · rename_i hunescape
    split_ifs
    · exact Or.inr rfl
    · exact Or.inl ⟨_, _, hunescape, rfl⟩
  · exact Or.inr rfl

-- A string is written into an array of the length that was counted before.
theorem tame_string (text : List Char) : Tame text enough (parse_string text) := by
  cases text with
  | nil => exact tame_malformed
  | cons c text =>
      by_cases hc : c = '"'
      · subst hc
        have hescaped (hcomplete : Complete ('"' :: text)) : ∃ out rest, Complete rest ∧
            parse_string ('"' :: text) = .ok (out, rest) := by
          obtain ⟨chars, tail, rest, rfl, hescapes, hends, hrest⟩ :=
            complete_string (hcomplete.tail (by decide))
          exact ⟨unescaped chars, rest, hrest, parse_string_escapes hescapes hends⟩
        refine ⟨fun out rest heq => ⟨?_, fun hcomplete => ?_⟩, fun _ heq => ?_,
          fun hcomplete heq => ?_⟩
        · rcases parse_string_quote with ⟨out', rest', hunescape, hok⟩ | herror
          · rw [hok] at heq
            cases heq
            exact (unescape_suffix hunescape).trans (List.suffix_cons _ _)
          · rw [herror] at heq
            cases heq
        · obtain ⟨out', rest', hrest, hok⟩ := hescaped hcomplete
          rw [hok] at heq
          cases heq
          exact hrest
        · rcases parse_string_quote with ⟨out', rest', -, hok⟩ | herror
          · rw [hok] at heq
            cases heq
          · rw [herror] at heq
            cases heq
        · obtain ⟨out', rest', -, hok⟩ := hescaped hcomplete
          rw [hok] at heq
          cases heq
      · rw [parse_string, if_neg hc]
        exact tame_malformed

section Values

variable (arith : Arithmetic) (fuel : Nat)

-- What the parts do with a given depth of calls left.
structure TameAt : Prop where
  value : ∀ text, Tame text (3 * text.length + 1 ≤ fuel) (parse_value arith fuel text)
  array : ∀ text, Tame text (3 * text.length + 3 ≤ fuel) (parse_array arith fuel text)
  items : ∀ text, Tame text (3 * text.length + 2 ≤ fuel) (parse_items arith fuel text)
  more_items : ∀ text, Tame text (3 * text.length + 1 ≤ fuel) (parse_more_items arith fuel text)
  object : ∀ text, Tame text (3 * text.length + 3 ≤ fuel) (parse_object arith fuel text)
  member : ∀ text, Tame text (3 * text.length + 1 ≤ fuel) (parse_member arith fuel text)
  more_members : ∀ text,
    Tame text (3 * text.length + 1 ≤ fuel) (parse_more_members arith fuel text)

theorem tameAt_zero : TameAt arith 0 := by
  constructor <;> intro text <;> exact tame_depth (by omega)

variable {arith} {fuel}

theorem tame_value (ih : TameAt arith fuel) (text : List Char) :
    Tame text (3 * text.length + 1 ≤ fuel + 1) (parse_value arith (fuel + 1) text) := by
  rw [parse_value.eq_def]
  dsimp only
  split_ifs with hnull hfalse htrue
  · exact .ok _ (follows_word (by decide) hnull)
  · exact .ok _ (follows_word (by decide) hfalse)
  · exact .ok _ (follows_word (by decide) htrue)
  · cases text with
    | nil => exact tame_malformed
    | cons c rest =>
        dsimp only
        split_ifs with hquote hdigit hbracket hbrace
        · exact (tame_string (c :: rest)).bind fun _ _ h => .ok _ h
        · exact .ok _ (follows_number _ arith)
        · subst hbracket
          refine (ih.array rest).mono (follows_cons (by decide)) fun h => ?_
          rw [List.length_cons] at h
          omega
        · subst hbrace
          refine (ih.object rest).mono (follows_cons (by decide)) fun h => ?_
          rw [List.length_cons] at h
          omega
        · exact tame_malformed

theorem tame_array (ih : TameAt arith fuel) (text : List Char) :
    Tame text (3 * text.length + 3 ≤ fuel + 1) (parse_array arith (fuel + 1) text) := by
  have hskip := follows_skip text
  have hlength := hskip.length_le
  rw [parse_array]
  cases heq : skip text with
  | nil =>
      rw [heq] at hskip
      exact (ih.items []).mono hskip fun h => by simp only [List.length_nil]; omega
  | cons c rest =>
      rw [heq] at hskip hlength
      dsimp only
      split_ifs with hbracket
      · subst hbracket
        exact .ok _ (hskip.trans (follows_cons (by decide)))
      · exact (ih.items (c :: rest)).mono hskip fun h => by omega

theorem tame_items (ih : TameAt arith fuel) (text : List Char) :
    Tame text (3 * text.length + 2 ≤ fuel + 1) (parse_items arith (fuel + 1) text) := by
  rw [parse_items]
  refine ((ih.value text).mono (.refl _) fun h => by omega).bind fun child value hvalue => ?_
  have hskip := hvalue.trans (follows_skip value)
  have hlength := hskip.length_le
  exact ((ih.more_items (skip value)).mono hskip fun h => by omega).bind fun items rest hrest =>
    .ok _ hrest

theorem tame_more_items (ih : TameAt arith fuel) (text : List Char) :
    Tame text (3 * text.length + 1 ≤ fuel + 1) (parse_more_items arith (fuel + 1) text) := by
  cases text with
  | nil => exact tame_malformed
  | cons c rest =>
      rw [parse_more_items, List.length_cons]
      split_ifs with hcomma hbracket
      · subst hcomma
        have hlength := (follows_skip rest).length_le
        refine Tame.mono ?_ ((follows_cons (by decide)).trans (follows_skip rest)) id
        refine ((ih.value _).mono (.refl _) fun h => by omega).bind fun child value hvalue => ?_
        have hskip := hvalue.trans (follows_skip value)
        have hlength' := hskip.length_le
        exact ((ih.more_items _).mono hskip fun h => by omega).bind fun items tail htail =>
          .ok _ htail
      · subst hbracket
        exact .ok _ (follows_cons (by decide))
      · exact tame_malformed

theorem tame_object (ih : TameAt arith fuel) (text : List Char) :
    Tame text (3 * text.length + 3 ≤ fuel + 1) (parse_object arith (fuel + 1) text) := by
  have hskip := follows_skip text
  have hlength := hskip.length_le
  rw [parse_object]
  cases heq : skip text with
  | nil => exact tame_malformed
  | cons c rest =>
      rw [heq] at hskip hlength
      dsimp only
      split_ifs with hbrace
      · subst hbrace
        exact .ok _ (hskip.trans (follows_cons (by decide)))
      · refine ((ih.member _).mono hskip fun h => by omega).bind fun child value hvalue => ?_
        have hskip' := hvalue.trans (follows_skip value)
        have hlength' := hskip'.length_le
        exact ((ih.more_members _).mono hskip' fun h => by omega).bind fun members tail htail =>
          .ok _ htail

theorem tame_member (ih : TameAt arith fuel) (text : List Char) :
    Tame text (3 * text.length + 1 ≤ fuel + 1) (parse_member arith (fuel + 1) text) := by
  rw [parse_member]
  refine (tame_string text).bind fun name value hvalue => ?_
  have hskip := hvalue.trans (follows_skip value)
  have hlength := hskip.length_le
  dsimp only
  cases heq : skip value with
  | nil => exact tame_malformed
  | cons c rest =>
      rw [heq] at hskip hlength
      dsimp only
      rw [List.length_cons] at hlength
      split_ifs with hcolon
      · subst hcolon
        have hrest : Follows (':' :: rest) (skip rest) :=
          (follows_cons (by decide)).trans (follows_skip rest)
        have hlength' := (follows_skip rest).length_le
        exact ((ih.value _).mono (hskip.trans hrest) fun h => by omega).bind
          fun child tail htail => .ok _ htail
      · exact tame_malformed

theorem tame_more_members (ih : TameAt arith fuel) (text : List Char) :
    Tame text (3 * text.length + 1 ≤ fuel + 1) (parse_more_members arith (fuel + 1) text) := by
  cases text with
  | nil => exact tame_malformed
  | cons c rest =>
      rw [parse_more_members, List.length_cons]
      split_ifs with hcomma hbrace
      · subst hcomma
        have hlength := (follows_skip rest).length_le
        refine Tame.mono ?_ ((follows_cons (by decide)).trans (follows_skip rest)) id
        refine ((ih.member _).mono (.refl _) fun h => by omega).bind fun child value hvalue => ?_
        have hskip := hvalue.trans (follows_skip value)
        have hlength' := hskip.length_le
        exact ((ih.more_members _).mono hskip fun h => by omega).bind fun members tail htail =>
          .ok _ htail
      · subst hbrace
        exact .ok _ (follows_cons (by decide))
      · exact tame_malformed

theorem tameAt (arith : Arithmetic) (fuel : Nat) : TameAt arith fuel := by
  induction fuel with
  | zero => exact tameAt_zero arith
  | succ fuel ih =>
      exact ⟨tame_value ih, tame_array ih, tame_items ih, tame_more_items ih, tame_object ih,
        tame_member ih, tame_more_members ih⟩

theorem tame_ParseWithOpts (arith : Arithmetic) (require_null_terminated : Bool)
    (text : List Char) :
    Tame text True (cJSON_ParseWithOpts arith require_null_terminated text) := by
  have hlength := (follows_skip text).length_le
  unfold cJSON_ParseWithOpts
  refine (((tameAt arith _).value (skip text)).mono (follows_skip text) fun _ => by omega).bind
    fun item value hvalue => ?_
  dsimp only
  split_ifs
  · exact tame_malformed
  · exact .ok _ (hvalue.trans (follows_skip value))
  · exact .ok _ hvalue

-- The parser comes to an end on every text and stays within it, unless an escape
-- is cut off by the end of the text or of a string.
theorem cJSON_Parse_within (arith : Arithmetic) (require_null_terminated : Bool)
    (text : List Char) :
    cJSON_ParseWithOpts arith require_null_terminated text ≠ .error .depth ∧
      (∀ item rest, cJSON_ParseWithOpts arith require_null_terminated text = .ok (item, rest) →
        rest <:+ text) ∧
      (Complete text →
        cJSON_ParseWithOpts arith require_null_terminated text ≠ .error .overrun) := by
  have htame := tame_ParseWithOpts arith require_null_terminated text
  exact ⟨htame.depth trivial, fun item rest h => (htame.follows item rest h).1, htame.overrun⟩

-- A backslash before the end of the text is such an escape, and so are too few digits.
example (arith : Arithmetic) : cJSON_Parse arith "[\"a\\".toList = .error .overrun := by
  rfl

example (arith : Arithmetic) : cJSON_Parse arith "[\"\\u00".toList = .error .overrun := by
  rfl

end Values

end Tame

end BroadView.CJson
