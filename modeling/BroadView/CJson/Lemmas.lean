import BroadView.CJson
import BroadView.Json

namespace BroadView.CJson

section Skip

variable {text rest : List Char}

theorem skip_cons_of_blank {c : Char} (h : c.toNat ≤ 32) : skip (c :: text) = skip text :=
  List.dropWhile_cons_of_pos (decide_eq_true h)

theorem skip_cons_of_ne {c : Char} (h : ¬c.toNat ≤ 32) : skip (c :: text) = c :: text :=
  List.dropWhile_cons_of_neg (by simpa using h)

theorem isBlank_toNat {c : Char} (h : Json.IsBlank c) : c.toNat ≤ 32 := by
  rcases h with rfl | rfl | rfl | rfl <;> decide

theorem skip_of_blank (h : Json.Blank text rest) : skip text = skip rest := by
  induction h with
  | nil => rfl
  | cons hc _ ih => rw [skip_cons_of_blank (isBlank_toNat hc), ih]

-- What may follow a value.
def Stops (rest : List Char) : Prop :=
  ∀ c tail, rest = c :: tail → c.toNat ≤ 32 ∨ c = ',' ∨ c = ']' ∨ c = '}'

theorem stops_nil : Stops [] := fun _ _ h => by cases h

theorem stops_cons {c : Char} (h : c.toNat ≤ 32 ∨ c = ',' ∨ c = ']' ∨ c = '}') :
    Stops (c :: rest) := by
  intro c' tail heq
  obtain ⟨rfl, -⟩ := List.cons.inj heq
  exact h

-- Blanks before what may follow a value may follow it as well.
theorem Stops.of_blank (h : Json.Blank text rest) (hstops : Stops rest) : Stops text := by
  cases h with
  | nil => exact hstops
  | cons hc _ => exact stops_cons (Or.inl (isBlank_toNat hc))

theorem Stops.not_digit (h : Stops rest) : ∀ c tail, rest = c :: tail → ¬c.isDigit = true := by
  intro c tail heq hdigit
  have hrange : 48 ≤ c.toNat ∧ c.toNat ≤ 57 := by
    simpa [Char.isDigit, UInt32.le_iff_toNat_le] using hdigit
  rcases h c tail heq with hblank | rfl | rfl | rfl
  · omega
  · exact absurd hdigit (by decide)
  · exact absurd hdigit (by decide)
  · exact absurd hdigit (by decide)

theorem Stops.ne {c : Char} {tail : List Char} (h : Stops (c :: tail)) {d : Char}
    (hd : d ∈ ['.', 'e', 'E']) : c ≠ d := by
  rintro rfl
  simp only [List.mem_cons, List.not_mem_nil, or_false] at hd
  have hnext := h c tail rfl
  rcases hd with rfl | rfl | rfl <;> revert hnext <;> decide

end Skip

section Number

variable {digits rest : List Char}

-- Text that does not go on with a digit.
def NoDigit (rest : List Char) : Prop := ∀ c tail, rest = c :: tail → ¬c.isDigit = true

theorem take_digits_append (hdigits : ∀ c ∈ digits, c.isDigit = true) (hrest : NoDigit rest) :
    take_digits (digits ++ rest) = (digits, rest) := by
  induction digits with
  | nil =>
      cases rest with
      | nil => rfl
      | cons c tail =>
          have hc := hrest c tail rfl
          simp [take_digits, hc]
  | cons c digits ih =>
      have hc := hdigits c List.mem_cons_self
      have hmore := ih fun d hd => hdigits d (List.mem_cons_of_mem c hd)
      simp only [take_digits, Prod.mk.injEq] at hmore
      simp [take_digits, hc, hmore.1, hmore.2]

theorem noDigit_cons {c : Char} (h : ¬c.isDigit = true) : NoDigit (c :: rest) := by
  intro c' tail heq
  obtain ⟨rfl, -⟩ := List.cons.inj heq
  exact h

-- Behind a whole part neither an exponent nor the end goes on with a digit or a
-- point.
theorem exponent_head {exponent : List Char} (h : Json.IsExponent exponent) (hstops : Stops rest) :
    NoDigit (exponent ++ rest) ∧ ∀ c tail, exponent ++ rest = c :: tail → c ≠ '.' := by
  rcases h with rfl | ⟨e, sign, digits, rfl, he, -, -⟩
  · refine ⟨hstops.not_digit, fun c tail heq => ?_⟩
    rw [List.nil_append] at heq
    subst heq
    exact hstops.ne (by simp)
  · constructor
    · refine noDigit_cons ?_
      rcases he with rfl | rfl <;> decide
    · intro c tail heq
      obtain ⟨rfl, -⟩ := List.cons.inj heq
      rcases he with rfl | rfl <;> decide

theorem fraction_head {fraction exponent : List Char} (hfraction : Json.IsFraction fraction)
    (hexponent : Json.IsExponent exponent) (hstops : Stops rest) :
    NoDigit (fraction ++ (exponent ++ rest)) := by
  rcases hfraction with rfl | ⟨digits, rfl, -⟩
  · exact (exponent_head hexponent hstops).1
  · exact noDigit_cons (by decide)

theorem take_exponent_append {exponent : List Char} (h : Json.IsExponent exponent) :
    ∃ value, ∀ rest, Stops rest → take_exponent (exponent ++ rest) = (value, rest) := by
  rcases h with rfl | ⟨e, sign, digits, rfl, he, hsign, hdigits⟩
  · refine ⟨0, fun rest hstops => ?_⟩
    cases rest with
    | nil => rfl
    | cons c tail =>
        have hne : ¬(c = 'e' ∨ c = 'E') := by
          rw [not_or]
          exact ⟨hstops.ne (by simp), hstops.ne (by simp)⟩
        exact if_neg hne
  · have htaken : ∀ rest, Stops rest → ∃ signsubscale,
        take_exponent_sign (sign ++ digits ++ rest) = (signsubscale, digits ++ rest) ∧
          signsubscale = if sign = ['-'] then -1 else 1 := by
      intro rest hstops
      obtain ⟨d, more, rfl⟩ := List.exists_cons_of_ne_nil hdigits.1
      have hd := hdigits.2 d List.mem_cons_self
      rcases hsign with rfl | rfl | rfl
      · have hplus : d ≠ '+' := by
          rintro rfl
          exact absurd hd (by decide)
        have hminus : d ≠ '-' := by
          rintro rfl
          exact absurd hd (by decide)
        exact ⟨1, by simp [take_exponent_sign, hplus, hminus], rfl⟩
      · exact ⟨1, rfl, rfl⟩
      · exact ⟨-1, rfl, rfl⟩
    refine ⟨(digits.foldl (fun subscale c =>
      subscale * 10 + Int32.ofNat (c.toNat - '0'.toNat)) 0) *
        (if sign = ['-'] then -1 else 1), fun rest hstops => ?_⟩
    obtain ⟨signsubscale, htake, rfl⟩ := htaken rest hstops
    have hmore := take_digits_append hdigits.2 hstops.not_digit
    rw [List.cons_append, take_exponent, if_pos he, htake]
    simp only [hmore]

theorem take_fraction_append {fraction exponent : List Char} (h : Json.IsFraction fraction)
    (hexponent : Json.IsExponent exponent) (hstops : Stops rest) :
    take_fraction (fraction ++ (exponent ++ rest)) = (fraction.drop 1, exponent ++ rest) := by
  obtain ⟨hdigit, hpoint⟩ := exponent_head hexponent hstops
  rcases h with rfl | ⟨digits, rfl, hdigits⟩
  · rw [List.nil_append]
    generalize exponent ++ rest = next at hdigit hpoint ⊢
    cases next with
    | nil => rfl
    | cons c tail => exact if_neg fun h => hpoint c tail rfl h.1
  · have htake := take_digits_append hdigits.2 hdigit
    have hne : (take_digits (digits ++ (exponent ++ rest))).1 ≠ [] := by
      rw [htake]
      exact hdigits.1
    exact (if_pos ⟨rfl, hne⟩).trans htake

theorem take_whole_append {whole next : List Char} (h : Json.IsInt whole) (hnext : NoDigit next) :
    take_whole (skip_zero (whole ++ next)) = (if whole = ['0'] then [] else whole, next) := by
  obtain ⟨⟨hne, hdigits⟩, hzero⟩ := h
  obtain ⟨d, more, rfl⟩ := List.exists_cons_of_ne_nil hne
  by_cases hd : d = '0'
  · subst hd
    have hmore : more = [] := by
      have hlength := hzero rfl
      simpa using hlength
    subst hmore
    have hskip : skip_zero (['0'] ++ next) = next := by simp [skip_zero]
    rw [hskip, if_pos rfl]
    cases next with
    | nil => rfl
    | cons c tail =>
        have hc := hnext c tail rfl
        have hc0 : c ≠ '0' := by
          rintro rfl
          exact hc (by decide)
        have htake := take_digits_append (fun _ h => absurd h List.not_mem_nil) hnext
        exact (if_neg hc0).trans htake
  · have hskip : skip_zero (d :: more ++ next) = d :: more ++ next := if_neg hd
    have hwhole : d :: more ≠ ['0'] := fun heq => hd (List.cons.inj heq).1
    rw [hskip, if_neg hwhole]
    exact (if_neg hd).trans (take_digits_append hdigits hnext)

variable (arith : Arithmetic)

-- The parser takes a whole number, whatever may follow it.
theorem parse_number_append {text : List Char} (h : Json.IsNumber text) :
    ∃ item, ∀ rest, Stops rest → parse_number arith (text ++ rest) = (item, rest) := by
  obtain ⟨sign, whole, fraction, exponent, rfl, hsign, hwhole, hfraction, hexponent⟩ := h
  obtain ⟨value, hvalue⟩ := take_exponent_append hexponent
  have hminus : ∀ next, take_sign (sign ++ (whole ++ next)) =
      (decide (sign = ['-']), whole ++ next) := by
    intro next
    rcases hsign with rfl | rfl
    · obtain ⟨d, more, rfl⟩ := List.exists_cons_of_ne_nil hwhole.1.1
      have hd : d ≠ '-' := by
        rintro rfl
        exact absurd (hwhole.1.2 _ List.mem_cons_self) (by decide)
      exact if_neg hd
    · simp [take_sign]
  let n := ((if whole = ['0'] then [] else whole) ++ fraction.drop 1).foldl
    (fun n c => arith.digit n (c.toNat - '0'.toNat)) arith.zero
  let valuedouble := arith.scaled (decide (sign = ['-'])) n
    (value.toInt - (fraction.drop 1).length)
  refine ⟨.number valuedouble (arith.toInt valuedouble), fun rest hstops => ?_⟩
  have hnext := fraction_head hfraction hexponent hstops
  have htext : sign ++ whole ++ fraction ++ exponent ++ rest =
      sign ++ (whole ++ (fraction ++ (exponent ++ rest))) := by
    simp only [List.append_assoc]
  rw [htext]
  simp only [parse_number, hminus, take_whole_append hwhole hnext,
    take_fraction_append hfraction hexponent hstops, hvalue rest hstops]
  rfl

theorem parse_number_text {text rest : List Char} (h : Json.IsNumber text) (hstops : Stops rest) :
    parse_number arith (text ++ rest) = ((parse_number arith text).1, rest) := by
  obtain ⟨item, hitem⟩ := parse_number_append arith h
  have halone := hitem [] stops_nil
  rw [List.append_nil] at halone
  rw [hitem rest hstops, halone]

end Number

section Strings

-- The characters before the closing quote, where every escape is complete.
inductive Escapes : List Char → Prop where
  | nil : Escapes []
  | plain {c : Char} {more : List Char} : c ≠ '"' → c ≠ '\\' → Escapes more → Escapes (c :: more)
  | escape {e : Char} {more : List Char} : e ≠ 'u' → Escapes more → Escapes ('\\' :: e :: more)
  | unicode {a b c d : Char} {more : List Char} :
      (∀ digit ∈ [a, b, c, d], Json.IsHex digit) → Escapes more →
      Escapes ('\\' :: 'u' :: a :: b :: c :: d :: more)

theorem chars_escapes {text chars rest : List Char} (h : Json.Chars text chars rest) :
    text = chars ++ '"' :: rest ∧ Escapes chars := by
  induction h with
  | close rest => exact ⟨rfl, .nil⟩
  | plain hc _ ih => exact ⟨by rw [ih.1, List.cons_append], .plain hc.1 hc.2.1 ih.2⟩
  | escape hc _ ih =>
      refine ⟨by rw [ih.1, List.cons_append, List.cons_append], .escape ?_ ih.2⟩
      rintro rfl
      exact absurd hc (by decide)
  | @unicode digits text chars rest hlength hhex _ ih =>
      obtain ⟨a, b, c, d, rfl⟩ := List.length_eq_four.mp hlength
      exact ⟨by rw [ih.1]; simp, .unicode hhex ih.2⟩

theorem isHex_plain {c : Char} (h : Json.IsHex c) : c ≠ '"' ∧ c ≠ '\\' := by
  constructor <;> rintro rfl <;> revert h <;> unfold Json.IsHex <;> decide

variable {text : List Char} {c : Char}

theorem unescape_plain (hquote : c ≠ '"') (hslash : c ≠ '\\') :
    unescape (c :: text) = (unescape text).map (emit [c]) := by
  rw [unescape.eq_def]
  dsimp only
  rw [if_neg hquote, if_neg hslash]

theorem unescape_escape {e : Char} (h : e ≠ 'u') :
    unescape ('\\' :: e :: text) = (unescape text).map (emit [escaped e]) := by
  rw [unescape.eq_def]
  dsimp only
  rw [if_neg (by decide), if_pos rfl, if_neg h]

theorem unescape_unicode (a b c d : Char) (text : List Char) :
    unescape ('\\' :: 'u' :: a :: b :: c :: d :: text) =
      if isUnusable (parse_hex4 a b c d) then unescape text
      else if isHigh (parse_hex4 a b c d) then
        if ['\\', 'u'] <+: text then
          match text with
          | _ :: _ :: a' :: b' :: c' :: d' :: text =>
              (unescape text).map (emit (pair (parse_hex4 a b c d) (parse_hex4 a' b' c' d')))
          | _ => none
        else unescape text
      else (unescape text).map (emit (utf8 (parse_hex4 a b c d))) := by
  rw [unescape.eq_def]
  dsimp only
  rw [if_neg (by decide), if_pos rfl]
  exact if_pos rfl

theorem unescape_quote (text : List Char) : unescape ('"' :: text) = some ([], text) := by
  rw [unescape.eq_def]
  exact if_pos rfl

theorem scan_length_quote (text : List Char) : scan_length ('"' :: text) = some 0 := by
  rw [scan_length.eq_def]
  exact if_pos rfl

theorem scan_length_plain (hquote : c ≠ '"') (hslash : c ≠ '\\') :
    scan_length (c :: text) = (scan_length text).map (· + 1) := by
  rw [scan_length.eq_def]
  dsimp only
  rw [if_neg hquote, if_neg hslash]

theorem scan_length_escape (e : Char) (text : List Char) :
    scan_length ('\\' :: e :: text) = (scan_length text).map (· + 1) := by
  rw [scan_length.eq_def]
  dsimp only
  rw [if_neg (by decide), if_pos rfl]

theorem scan_length_unicode {a b c d : Char}
    (h : ∀ digit ∈ [a, b, c, d], Json.IsHex digit) (text : List Char) :
    scan_length ('\\' :: 'u' :: a :: b :: c :: d :: text) = (scan_length text).map (· + 5) := by
  simp only [List.forall_mem_cons, List.not_mem_nil, false_implies, implies_true, and_true] at h
  obtain ⟨ha, hb, hc, hd⟩ := h
  rw [scan_length_escape, scan_length_plain (isHex_plain ha).1 (isHex_plain ha).2,
    scan_length_plain (isHex_plain hb).1 (isHex_plain hb).2,
    scan_length_plain (isHex_plain hc).1 (isHex_plain hc).2,
    scan_length_plain (isHex_plain hd).1 (isHex_plain hd).2]
  simp only [Option.map_map]
  rfl

theorem utf8_length (uc : Nat) : (utf8 uc).length ≤ 4 := by
  unfold utf8
  split_ifs <;> simp

theorem pair_length (uc uc2 : Nat) : (pair uc uc2).length ≤ 4 := by
  unfold pair
  split_ifs
  · simp
  · exact utf8_length _

-- What ends a string, and what is left behind it.
def Ends (tail rest : List Char) : Prop := (tail = [] ∧ rest = []) ∨ tail = '"' :: rest

-- The second half of a pair is there in full, or not at all.
theorem escapes_second {chars : List Char} (h : Escapes chars) :
    (∃ a b c d more, chars = '\\' :: 'u' :: a :: b :: c :: d :: more ∧
        (∀ digit ∈ [a, b, c, d], Json.IsHex digit) ∧ Escapes more) ∨
      ∀ tail rest, Ends tail rest → ¬['\\', 'u'] <+: chars ++ tail := by
  cases h with
  | nil =>
      refine Or.inr ?_
      rintro tail rest (⟨rfl, -⟩ | rfl)
      · simp
      · simp
  | plain _ hslash _ =>
      refine Or.inr fun tail rest _ hfirst => hslash ?_
      rw [List.cons_append, List.cons_prefix_cons] at hfirst
      exact hfirst.1.symm
  | escape he _ =>
      refine Or.inr fun tail rest _ hfirst => he ?_
      rw [List.cons_append, List.cons_append, List.cons_prefix_cons, List.cons_prefix_cons]
        at hfirst
      exact hfirst.2.1.symm
  | unicode hhex hmore => exact Or.inl ⟨_, _, _, _, _, rfl, hhex, hmore⟩

-- Both loops stop at the closing quote, and the first has counted at least as many
-- bytes as the second writes.
theorem unescape_escapes {chars : List Char} (h : Escapes chars) :
    ∃ out len, out.length ≤ len ∧ ∀ tail rest, Ends tail rest →
      unescape (chars ++ tail) = some (out, rest) ∧ scan_length (chars ++ tail) = some len := by
  induction hlength : chars.length using Nat.strongRecOn generalizing chars with
  | ind length ih =>
      subst hlength
      cases h with
      | nil =>
          refine ⟨[], 0, Nat.le_refl _, ?_⟩
          rintro tail rest (⟨rfl, rfl⟩ | rfl)
          · exact ⟨rfl, rfl⟩
          · exact ⟨unescape_quote _, scan_length_quote _⟩
      | @plain c more hquote hslash hmore =>
          obtain ⟨out, len, hle, hout⟩ := ih more.length (by simp) hmore rfl
          refine ⟨c :: out, len + 1, by simpa using hle, fun tail rest hends => ?_⟩
          obtain ⟨hunescape, hscan⟩ := hout tail rest hends
          rw [List.cons_append, unescape_plain hquote hslash, scan_length_plain hquote hslash,
            hunescape, hscan]
          exact ⟨rfl, rfl⟩
      | @escape e more he hmore =>
          have hshorter : more.length < ('\\' :: e :: more).length := by
            simp only [List.length_cons]
            omega
          obtain ⟨out, len, hle, hout⟩ := ih more.length hshorter hmore rfl
          refine ⟨escaped e :: out, len + 1, by simpa using hle, fun tail rest hends => ?_⟩
          obtain ⟨hunescape, hscan⟩ := hout tail rest hends
          rw [List.cons_append, List.cons_append, unescape_escape he, scan_length_escape,
            hunescape, hscan]
          exact ⟨rfl, rfl⟩
      | @unicode a b c d more hhex hmore =>
          have hshorter : more.length < ('\\' :: 'u' :: a :: b :: c :: d :: more).length := by
            simp only [List.length_cons]
            omega
          obtain ⟨out, len, hle, hout⟩ := ih more.length hshorter hmore rfl
          by_cases hunusable : isUnusable (parse_hex4 a b c d) = true
          · refine ⟨out, len + 5, by omega, fun tail rest hends => ?_⟩
            obtain ⟨hunescape, hscan⟩ := hout tail rest hends
            simp only [List.cons_append]
            rw [unescape_unicode, if_pos hunusable, scan_length_unicode hhex, hunescape, hscan]
            exact ⟨rfl, rfl⟩
          by_cases hhigh : isHigh (parse_hex4 a b c d) = true
          · rcases escapes_second hmore with
              ⟨a', b', c', d', second, rfl, hhex', hsecond⟩ | hnone
            · have hshorter' : second.length < ('\\' :: 'u' :: a :: b :: c :: d :: '\\' :: 'u' ::
                  a' :: b' :: c' :: d' :: second).length := by
                simp only [List.length_cons]
                omega
              obtain ⟨out, len, hle, hout⟩ := ih second.length hshorter' hsecond rfl
              refine ⟨pair (parse_hex4 a b c d) (parse_hex4 a' b' c' d') ++ out, len + 10, ?_,
                fun tail rest hends => ?_⟩
              · have hpair := pair_length (parse_hex4 a b c d) (parse_hex4 a' b' c' d')
                rw [List.length_append]
                omega
              obtain ⟨hunescape, hscan⟩ := hout tail rest hends
              simp only [List.cons_append]
              rw [unescape_unicode, if_neg hunusable, if_pos hhigh, if_pos (by simp),
                scan_length_unicode hhex, scan_length_unicode hhex', hscan]
              dsimp only
              rw [hunescape]
              exact ⟨rfl, rfl⟩
            · refine ⟨out, len + 5, by omega, fun tail rest hends => ?_⟩
              obtain ⟨hunescape, hscan⟩ := hout tail rest hends
              simp only [List.cons_append]
              rw [unescape_unicode, if_neg hunusable, if_pos hhigh,
                if_neg (hnone tail rest hends), scan_length_unicode hhex, hunescape, hscan]
              exact ⟨rfl, rfl⟩
          · refine ⟨utf8 (parse_hex4 a b c d) ++ out, len + 5, ?_, fun tail rest hends => ?_⟩
            · have hutf8 := utf8_length (parse_hex4 a b c d)
              rw [List.length_append]
              omega
            obtain ⟨hunescape, hscan⟩ := hout tail rest hends
            simp only [List.cons_append]
            rw [unescape_unicode, if_neg hunusable, if_neg hhigh, scan_length_unicode hhex,
              hunescape, hscan]
            exact ⟨rfl, rfl⟩

def unescaped (chars : List Char) : List Char := ((unescape chars).map (·.1)).getD []

theorem parse_string_escapes {chars : List Char} (h : Escapes chars) {tail rest : List Char}
    (hends : Ends tail rest) :
    parse_string ('"' :: (chars ++ tail)) = .ok (unescaped chars, rest) := by
  obtain ⟨out, len, hle, hout⟩ := unescape_escapes h
  have halone := (hout [] [] (Or.inl ⟨rfl, rfl⟩)).1
  rw [List.append_nil] at halone
  obtain ⟨hunescape, hscan⟩ := hout tail rest hends
  simp only [parse_string, if_true, hunescape, hscan, unescaped, halone]
  exact if_neg (by omega)

theorem parse_string_chars {text chars rest : List Char} (h : Json.Chars text chars rest) :
    parse_string ('"' :: text) = .ok (unescaped chars, rest) := by
  obtain ⟨rfl, hescapes⟩ := chars_escapes h
  exact parse_string_escapes hescapes (Or.inr rfl)

end Strings

end BroadView.CJson
