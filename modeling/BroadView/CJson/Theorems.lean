import BroadView.CJson.Lemmas

namespace BroadView.CJson

open Json (Derives Form)

section Grammar

variable {form : Form} {json : Json} {text rest : List Char}

theorem chars_suffix {chars : List Char} (h : Json.Chars text chars rest) : rest <:+ text := by
  obtain ⟨rfl, -⟩ := chars_escapes h
  exact (List.suffix_cons '"' rest).trans (List.suffix_append _ _)

theorem blank_suffix (h : Json.Blank text rest) : rest <:+ text := by
  induction h with
  | nil => exact List.suffix_refl _
  | cons _ _ ih => exact ih.trans (List.suffix_cons _ _)

theorem derives_suffix (h : Derives form text rest) : rest <:+ text := by
  induction h with
  | null | true | false | number => exact List.suffix_append _ _
  | string hchars => exact (chars_suffix hchars).trans (List.suffix_cons _ _)
  | emptyArray hblank | emptyObject hblank =>
      exact (List.suffix_cons _ _).trans ((blank_suffix hblank).trans (List.suffix_cons _ _))
  | array _ ih | object _ ih =>
      exact (List.suffix_cons _ _).trans (ih.trans (List.suffix_cons _ _))
  | element hbefore _ hafter ih =>
      exact (blank_suffix hafter).trans (ih.trans (blank_suffix hbefore))
  | lastElement _ ih | lastMember _ ih => exact ih
  | moreElements _ _ ih ih' | moreMembers _ _ ih ih' =>
      exact ih'.trans ((List.suffix_cons _ _).trans ih)
  | member hbefore hkey hafter _ ih =>
      have hname := (chars_suffix hkey).trans
        ((List.suffix_cons _ _).trans (blank_suffix hbefore))
      exact ih.trans ((List.suffix_cons _ _).trans ((blank_suffix hafter).trans hname))

-- A value starts with a character that is neither a blank nor a closing bracket.
theorem value_head (h : Derives (.value json) text rest) :
    ∃ c more, text = c :: more ∧ ¬c.toNat ≤ 32 ∧ c ≠ ']' := by
  cases h with
  | null | true | false => exact ⟨_, _, rfl, by decide, by decide⟩
  | string | emptyArray | array | emptyObject | object =>
      exact ⟨_, _, rfl, by decide, by decide⟩
  | number _ hnumber =>
      obtain ⟨sign, whole, fraction, exponent, rfl, hsign, hwhole, -, -⟩ := hnumber
      rcases hsign with rfl | rfl
      · obtain ⟨d, more, rfl⟩ := List.exists_cons_of_ne_nil hwhole.1.1
        have hdigit := hwhole.1.2 d List.mem_cons_self
        refine ⟨d, more ++ fraction ++ exponent ++ rest, by simp, ?_, ?_⟩
        · have hrange : 48 ≤ d.toNat ∧ d.toNat ≤ 57 := by
            simpa [Char.isDigit, UInt32.le_iff_toNat_le] using hdigit
          omega
        · rintro rfl
          exact absurd hdigit (by decide)
      · exact ⟨'-', whole ++ fraction ++ exponent ++ rest, by simp, by decide, by decide⟩

theorem value_skip (h : Derives (.value json) text rest) : skip text = text := by
  obtain ⟨c, more, rfl, hc, -⟩ := value_head h
  exact skip_cons_of_ne hc

-- Blanks and a value's first character are found behind them.
theorem element_head (h : Derives (.element json) text rest) :
    ∃ c more, skip text = c :: more ∧ c ≠ ']' := by
  cases h with
  | element hbefore hvalue _ =>
      obtain ⟨c, more, rfl, hc, hne⟩ := value_head hvalue
      exact ⟨c, more, (skip_of_blank hbefore).trans (skip_cons_of_ne hc), hne⟩

theorem elements_head {items : List Json} (h : Derives (.elements items) text rest) :
    ∃ c more, skip text = c :: more ∧ c ≠ ']' := by
  cases h with
  | lastElement hfirst | moreElements hfirst _ => exact element_head hfirst

theorem member_head {key : List Char} (h : Derives (.member key json) text rest) :
    ∃ more, skip text = '"' :: more := by
  cases h with
  | member hbefore _ _ _ =>
      exact ⟨_, (skip_of_blank hbefore).trans (skip_cons_of_ne (by decide))⟩

theorem members_head {fields : List (List Char × Json)}
    (h : Derives (.members fields) text rest) : ∃ more, skip text = '"' :: more := by
  cases h with
  | lastMember hfirst | moreMembers hfirst _ => exact member_head hfirst

end Grammar

section Decode

variable (arith : Arithmetic)

mutual

-- The item of a value: numbers as doubles, strings without their escapes.
def decode : Json → Item arith.Double
  | .null => .null
  | .bool value => if value then .true else .false
  | .number text => (parse_number arith text).1
  | .string chars => .string (unescaped chars)
  | .array items => .array (decode_items items)
  | .object members => .object (decode_members members)

def decode_items : List Json → List (Item arith.Double)
  | [] => []
  | json :: items => decode json :: decode_items items

def decode_members : List (List Char × Json) → List (List Char × Item arith.Double)
  | [] => []
  | (key, json) :: members => (unescaped key, decode json) :: decode_members members

end

end Decode

section Equations

variable (arith : Arithmetic) {c : Char} {text rest : List Char} {fuel : Nat}

theorem parse_value_word (hword : c ≠ 'n' ∧ c ≠ 'f' ∧ c ≠ 't') :
    parse_value arith (fuel + 1) (c :: text) =
      if c = '"' then do
        let (valuestring, rest) ← parse_string (c :: text)
        return (.string valuestring, rest)
      else if c = '-' ∨ c.isDigit = true then .ok (parse_number arith (c :: text))
      else if c = '[' then parse_array arith fuel text
      else if c = '{' then parse_object arith fuel text
      else .error .malformed := by
  have hnull : ¬"null".toList <+: c :: text := fun h => hword.1 (List.cons_prefix_cons.mp h).1.symm
  have hfalse : ¬"false".toList <+: c :: text :=
    fun h => hword.2.1 (List.cons_prefix_cons.mp h).1.symm
  have htrue : ¬"true".toList <+: c :: text :=
    fun h => hword.2.2 (List.cons_prefix_cons.mp h).1.symm
  rw [parse_value, if_neg hnull, if_neg hfalse, if_neg htrue]

theorem parse_value_string (fuel : Nat) (text : List Char) :
    parse_value arith (fuel + 1) ('"' :: text) =
      (parse_string ('"' :: text)).map fun (valuestring, rest) => (.string valuestring, rest) := by
  rw [parse_value_word arith (by decide), if_pos rfl]
  cases parse_string ('"' :: text) <;> rfl

theorem parse_value_array (fuel : Nat) (text : List Char) :
    parse_value arith (fuel + 1) ('[' :: text) = parse_array arith fuel text := by
  rw [parse_value_word arith (by decide), if_neg (by decide), if_neg (by decide), if_pos rfl]

theorem parse_value_object (fuel : Nat) (text : List Char) :
    parse_value arith (fuel + 1) ('{' :: text) = parse_object arith fuel text := by
  rw [parse_value_word arith (by decide), if_neg (by decide), if_neg (by decide),
    if_neg (by decide), if_pos rfl]

theorem parse_value_number (hdigit : c = '-' ∨ c.isDigit = true) :
    parse_value arith (fuel + 1) (c :: text) = .ok (parse_number arith (c :: text)) := by
  have hword : (c ≠ 'n' ∧ c ≠ 'f' ∧ c ≠ 't') ∧ c ≠ '"' := by
    refine ⟨⟨?_, ?_, ?_⟩, ?_⟩ <;> rintro rfl <;> exact absurd hdigit (by decide)
  rw [parse_value_word arith hword.1, if_neg hword.2, if_pos hdigit]

-- The items of an array are read as those behind a comma are.
theorem parse_array_items (hhead : skip text = c :: rest) (hc : c ≠ ']') :
    parse_array arith (fuel + 2) text =
      (parse_more_items arith (fuel + 1) (',' :: text)).map fun (items, rest) =>
        (.array items, rest) := by
  rw [parse_array, hhead]
  dsimp only
  rw [if_neg hc, parse_items, parse_more_items, if_pos rfl, hhead]
  cases parse_value arith fuel (c :: rest) with
  | error => rfl
  | ok child =>
      obtain ⟨child, value⟩ := child
      simp only [bind, Except.bind]
      cases parse_more_items arith fuel (skip value) <;> rfl

theorem parse_object_members (hhead : skip text = '"' :: rest) :
    parse_object arith (fuel + 1) text =
      (parse_more_members arith (fuel + 1) (',' :: text)).map fun (members, rest) =>
        (.object members, rest) := by
  rw [parse_object, hhead]
  dsimp only
  rw [if_neg (by decide), parse_more_members, if_pos rfl, hhead]
  cases parse_member arith fuel ('"' :: rest) with
  | error => rfl
  | ok child =>
      obtain ⟨child, value⟩ := child
      simp only [bind, Except.bind]
      cases parse_more_members arith fuel (skip value) <;> rfl

theorem parse_more_items_comma {child : Item arith.Double} {value : List Char}
    (hchild : parse_value arith fuel (skip text) = .ok (child, value)) :
    parse_more_items arith (fuel + 1) (',' :: text) =
      (parse_more_items arith fuel (skip value)).map fun (items, rest) =>
        (child :: items, rest) := by
  rw [parse_more_items, if_pos rfl, hchild]
  simp only [bind, Except.bind]
  cases parse_more_items arith fuel (skip value) <;> rfl

theorem parse_more_members_comma {child : List Char × Item arith.Double} {value : List Char}
    (hchild : parse_member arith fuel (skip text) = .ok (child, value)) :
    parse_more_members arith (fuel + 1) (',' :: text) =
      (parse_more_members arith fuel (skip value)).map fun (members, rest) =>
        (child :: members, rest) := by
  rw [parse_more_members, if_pos rfl, hchild]
  simp only [bind, Except.bind]
  cases parse_more_members arith fuel (skip value) <;> rfl

theorem parse_more_items_close (fuel : Nat) (rest : List Char) :
    parse_more_items arith (fuel + 1) (']' :: rest) = .ok ([], rest) := by
  rw [parse_more_items, if_neg (by decide), if_pos rfl]

theorem parse_more_members_close (fuel : Nat) (rest : List Char) :
    parse_more_members arith (fuel + 1) ('}' :: rest) = .ok ([], rest) := by
  rw [parse_more_members, if_neg (by decide), if_pos rfl]

theorem parse_member_colon {name value tail value' : List Char} {child : Item arith.Double}
    (hname : parse_string text = .ok (name, value)) (hcolon : skip value = ':' :: tail)
    (hchild : parse_value arith fuel (skip tail) = .ok (child, value')) :
    parse_member arith (fuel + 1) text = .ok ((name, child), value') := by
  rw [parse_member, hname]
  simp only [bind, Except.bind, hcolon, if_true, hchild]
  rfl

end Equations

section Complete

variable (arith : Arithmetic)

-- What is parsed from a text that has the form. Behind a comma stand the items or
-- members that are left.
def Reads (form : Form) (text rest : List Char) : Prop :=
  match form with
  | .value json => Stops rest → ∀ fuel, 3 * text.length + 1 ≤ fuel →
      parse_value arith fuel text = .ok (decode arith json, rest)
  | .element json => Stops rest → ∀ fuel, 3 * text.length + 1 ≤ fuel →
      ∃ value, parse_value arith fuel (skip text) = .ok (decode arith json, value) ∧
        skip value = skip rest
  | .elements items => ∀ tail, rest = ']' :: tail → ∀ fuel, 3 * text.length + 2 ≤ fuel →
      parse_more_items arith fuel (',' :: text) = .ok (decode_items arith items, tail)
  | .member key json => Stops rest → ∀ fuel, 3 * text.length + 1 ≤ fuel →
      ∃ value, parse_member arith fuel (skip text) =
        .ok ((unescaped key, decode arith json), value) ∧ skip value = skip rest
  | .members fields => ∀ tail, rest = '}' :: tail → ∀ fuel, 3 * text.length + 2 ≤ fuel →
      parse_more_members arith fuel (',' :: text) = .ok (decode_members arith fields, tail)

variable {arith} {form : Form} {text rest : List Char}

theorem stops_comma (text : List Char) : Stops (',' :: text) :=
  stops_cons (Or.inr (Or.inl rfl))

theorem stops_bracket (text : List Char) : Stops (']' :: text) :=
  stops_cons (Or.inr (Or.inr (Or.inl rfl)))

theorem stops_brace (text : List Char) : Stops ('}' :: text) :=
  stops_cons (Or.inr (Or.inr (Or.inr rfl)))

theorem exists_add {bound fuel : Nat} (less : Nat) (h : bound + less ≤ fuel) :
    ∃ fuel', fuel = fuel' + less ∧ bound ≤ fuel' :=
  ⟨fuel - less, by omega, by omega⟩

theorem reads_number {number : List Char} (h : Json.IsNumber number) :
    Reads arith (.value (.number number)) (number ++ rest) rest := by
  intro hstops fuel hfuel
  obtain ⟨fuel, rfl, -⟩ := exists_add 1 hfuel
  have hparse := parse_number_text arith h hstops
  have hsign : ∃ c more, number ++ rest = c :: more ∧ (c = '-' ∨ c.isDigit = true) := by
    obtain ⟨sign, whole, fraction, exponent, rfl, hsign, hwhole, -, -⟩ := h
    obtain ⟨d, more, rfl⟩ := List.exists_cons_of_ne_nil hwhole.1.1
    rcases hsign with rfl | rfl
    · exact ⟨d, more ++ fraction ++ exponent ++ rest, by simp,
        Or.inr (hwhole.1.2 d List.mem_cons_self)⟩
    · exact ⟨'-', d :: more ++ fraction ++ exponent ++ rest, by simp, Or.inl rfl⟩
  obtain ⟨c, more, hcons, hc⟩ := hsign
  rw [hcons] at hparse ⊢
  rw [parse_value_number arith hc, hparse]
  rfl

theorem reads_element {json : Json} {text' rest' : List Char} (hbefore : Json.Blank text text')
    (hvalue : Derives (.value json) text' rest') (hafter : Json.Blank rest' rest)
    (ih : Reads arith (.value json) text' rest') : Reads arith (.element json) text rest := by
  intro hstops fuel hfuel
  have hlength := (blank_suffix hbefore).length_le
  refine ⟨rest', ?_, skip_of_blank hafter⟩
  rw [skip_of_blank hbefore, value_skip hvalue]
  exact ih (hstops.of_blank hafter) fuel (by omega)

theorem reads_member {key text' text'' text''' : List Char} {json : Json}
    (hbefore : Json.Blank text ('"' :: text')) (hkey : Json.Chars text' key text'')
    (hafter : Json.Blank text'' (':' :: text''')) (ih : Reads arith (.element json) text''' rest) :
    Reads arith (.member key json) text rest := by
  intro hstops fuel hfuel
  obtain ⟨fuel, rfl, hless⟩ := exists_add 1 hfuel
  have hlength := (blank_suffix hbefore).length_le
  have hlength' := (chars_suffix hkey).length_le
  have hlength'' := (blank_suffix hafter).length_le
  simp only [List.length_cons] at hlength hlength''
  obtain ⟨value, hvalue, hskip⟩ := ih hstops fuel (by omega)
  refine ⟨value, ?_, hskip⟩
  have hcolon : skip text'' = ':' :: text''' :=
    (skip_of_blank hafter).trans (skip_cons_of_ne (by decide))
  rw [skip_of_blank hbefore, skip_cons_of_ne (by decide)]
  exact parse_member_colon arith (parse_string_chars hkey) hcolon hvalue

theorem derives_reads (h : Derives form text rest) : Reads arith form text rest := by
  induction h with
  | null rest | true rest | false rest =>
      intro _ fuel hfuel
      obtain ⟨fuel, rfl, -⟩ := exists_add 1 hfuel
      rfl
  | number rest hnumber => exact reads_number hnumber
  | string hchars =>
      intro _ fuel hfuel
      obtain ⟨fuel, rfl, -⟩ := exists_add 1 hfuel
      rw [parse_value_string, parse_string_chars hchars]
      rfl
  | emptyArray hblank =>
      intro _ fuel hfuel
      rw [List.length_cons] at hfuel
      obtain ⟨fuel, rfl, -⟩ := exists_add 2 (by omega : 0 + 2 ≤ fuel)
      rw [parse_value_array, parse_array, skip_of_blank hblank, skip_cons_of_ne (by decide)]
      exact if_pos rfl
  | @array items text rest hitems ih =>
      intro _ fuel hfuel
      rw [List.length_cons] at hfuel
      obtain ⟨fuel, rfl, hless⟩ := exists_add 3 (by omega : 3 * text.length + 1 + 3 ≤ fuel)
      obtain ⟨c, more, hhead, hc⟩ := elements_head hitems
      rw [parse_value_array, parse_array_items arith hhead hc, ih rest rfl (fuel + 1) (by omega)]
      rfl
  | emptyObject hblank =>
      intro _ fuel hfuel
      rw [List.length_cons] at hfuel
      obtain ⟨fuel, rfl, -⟩ := exists_add 2 (by omega : 0 + 2 ≤ fuel)
      rw [parse_value_object, parse_object, skip_of_blank hblank, skip_cons_of_ne (by decide)]
      exact if_pos rfl
  | @object fields text rest hfields ih =>
      intro _ fuel hfuel
      rw [List.length_cons] at hfuel
      obtain ⟨fuel, rfl, hless⟩ := exists_add 2 (by omega : 3 * text.length + 1 + 2 ≤ fuel)
      obtain ⟨more, hhead⟩ := members_head hfields
      rw [parse_value_object, parse_object_members arith hhead, ih rest rfl (fuel + 1) (by omega)]
      rfl
  | element hbefore hvalue hafter ih => exact reads_element hbefore hvalue hafter ih
  | lastElement _ ih =>
      rintro tail rfl fuel hfuel
      obtain ⟨fuel, rfl, hless⟩ := exists_add 1 hfuel
      obtain ⟨value, hchild, hskip⟩ := ih (stops_bracket tail) fuel hless
      obtain ⟨fuel, rfl, -⟩ := exists_add 1 hless
      rw [parse_more_items_comma arith hchild, hskip, skip_cons_of_ne (by decide),
        parse_more_items_close]
      rfl
  | @moreElements json items text text' rest hfirst _ ih ih' =>
      intro tail hrest fuel hfuel
      obtain ⟨fuel, rfl, hless⟩ := exists_add 1 hfuel
      have hlength := (derives_suffix hfirst).length_le
      rw [List.length_cons] at hlength
      obtain ⟨value, hchild, hskip⟩ := ih (stops_comma text') fuel hless
      rw [parse_more_items_comma arith hchild, hskip, skip_cons_of_ne (by decide),
        ih' tail hrest fuel (by omega)]
      rfl
  | member hbefore hkey hafter _ ih => exact reads_member hbefore hkey hafter ih
  | lastMember _ ih =>
      rintro tail rfl fuel hfuel
      obtain ⟨fuel, rfl, hless⟩ := exists_add 1 hfuel
      obtain ⟨value, hchild, hskip⟩ := ih (stops_brace tail) fuel hless
      obtain ⟨fuel, rfl, -⟩ := exists_add 1 hless
      rw [parse_more_members_comma arith hchild, hskip, skip_cons_of_ne (by decide),
        parse_more_members_close]
      rfl
  | @moreMembers key text text' rest json fields hfirst _ ih ih' =>
      intro tail hrest fuel hfuel
      obtain ⟨fuel, rfl, hless⟩ := exists_add 1 hfuel
      have hlength := (derives_suffix hfirst).length_le
      rw [List.length_cons] at hlength
      obtain ⟨value, hchild, hskip⟩ := ih (stops_comma text') fuel hless
      rw [parse_more_members_comma arith hchild, hskip, skip_cons_of_ne (by decide),
        ih' tail hrest fuel (by omega)]
      rfl

theorem element_reads (arith : Arithmetic) {json : Json} (h : Derives (.element json) text []) :
    ∃ value, parse_value arith (3 * text.length + 1) (skip text) = .ok (decode arith json, value) ∧
      skip value = [] := by
  obtain ⟨value, hvalue, hskip⟩ := derives_reads h stops_nil _ (Nat.le_refl _)
  exact ⟨value, hvalue, hskip⟩

theorem parse_element (arith : Arithmetic) {json : Json} (h : Derives (.element json) text []) :
    cJSON_Parse arith text = .ok (decode arith json) := by
  obtain ⟨value, hvalue, -⟩ := element_reads arith h
  simp [cJSON_Parse, cJSON_ParseWithOpts, hvalue, bind, Except.bind, pure, Except.pure]

-- The agent reads every text of the grammar as the value it stands for, and has
-- read all of it.
theorem cJSON_Parse_element (arith : Arithmetic) {json : Json} {text : List Char}
    (h : Derives (.element json) text []) :
    cJSON_Parse arith text = .ok (decode arith json) ∧
      cJSON_ParseWithOpts arith true text = .ok (decode arith json, []) := by
  obtain ⟨value, hvalue, hrest⟩ := element_reads arith h
  refine ⟨parse_element arith h, ?_⟩
  simp [cJSON_ParseWithOpts, hvalue, hrest, bind, Except.bind, pure, Except.pure]

end Complete

end BroadView.CJson
