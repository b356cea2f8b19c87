import BroadView.CJson.Bounds
import BroadView.Json.Writer
import Mathlib.Data.Nat.Digits.Defs
import Mathlib.Data.List.Nodup

namespace BroadView.CJson

section Unicode

-- The bytes of a character in UTF-8.
def bytes (scalar : Char) : List Char :=
  (String.utf8EncodeChar scalar).map fun byte => .ofNat byte.toNat

def hexDigits : List Char :=
  ['0', '1', '2', '3', '4', '5', '6', '7', '8', '9', 'a', 'b', 'c', 'd', 'e', 'f']

def hexCapitals : List Char := ['A', 'B', 'C', 'D', 'E', 'F']

-- The number that hexadecimal digits of either case stand for.
def unitOf (digits : List Char) : Nat :=
  Nat.ofDigits 16 (digits.reverse.map fun digit => hexDigits.idxOf digit.toLower)

theorem isHex_mem {c : Char} (h : Json.IsHex c) : c ∈ hexDigits ++ hexCapitals := by
  have hrange : (48 ≤ c.toNat ∧ c.toNat ≤ 57) ∨ (97 ≤ c.toNat ∧ c.toNat ≤ 102) ∨
      (65 ≤ c.toNat ∧ c.toNat ≤ 70) := by
    rcases h with hdigit | ⟨hlow, hhigh⟩ | ⟨hlow, hhigh⟩
    · exact Or.inl (by simpa [Char.isDigit, UInt32.le_iff_toNat_le] using hdigit)
    · exact Or.inr (Or.inl ⟨hlow, hhigh⟩)
    · exact Or.inr (Or.inr ⟨hlow, hhigh⟩)
  have hchar : c = Char.ofNat c.toNat := (Char.ofNat_toNat c).symm
  have hall : ∀ n < 103, (48 ≤ n ∧ n ≤ 57) ∨ (97 ≤ n ∧ n ≤ 102) ∨ (65 ≤ n ∧ n ≤ 70) →
      Char.ofNat n ∈ hexDigits ++ hexCapitals := by decide
  rw [hchar]
  exact hall c.toNat (by omega) hrange

theorem hexDigit_eq {c : Char} (h : Json.IsHex c) :
    hexDigit c = some (hexDigits.idxOf c.toLower) := by
  have hall : ∀ c ∈ hexDigits ++ hexCapitals,
      hexDigit c = some (hexDigits.idxOf c.toLower) := List.map_inj_left.mp rfl
  exact hall c (isHex_mem h)

theorem parse_hex4_eq {a b c d : Char} (h : ∀ digit ∈ [a, b, c, d], Json.IsHex digit) :
    parse_hex4 a b c d = unitOf [a, b, c, d] := by
  simp only [List.forall_mem_cons, List.not_mem_nil, false_implies, implies_true, and_true] at h
  obtain ⟨ha, hb, hc, hd⟩ := h
  simp only [parse_hex4, hexDigit_eq ha, hexDigit_eq hb, hexDigit_eq hc, hexDigit_eq hd, unitOf,
    List.reverse_cons, List.reverse_nil, List.nil_append, List.cons_append, List.map_cons,
    List.map_nil, Nat.ofDigits_cons, Nat.ofDigits_nil]
  omega

theorem byte_ofNat {n : Nat} (h : n < 256) : Char.ofNat (UInt8.ofNat n).toNat = Char.ofNat n := by
  rw [UInt8.toNat_ofNat_of_lt' h]

theorem scalar_lt (scalar : Char) : scalar.toNat < 0x110000 := by
  rcases scalar.valid with h | h
  · have hlow : scalar.toNat < 0xd800 := h
    omega
  · exact h.2

-- The lengths and the marks of the bytes are those of UTF-8.
theorem utf8_scalar (scalar : Char) : utf8 scalar.toNat = bytes scalar := by
  have hlt := scalar_lt scalar
  have hval : scalar.val.toNat = scalar.toNat := rfl
  have hmark (mark n limit : Nat) (hn : n < limit) (hlimit : limit + mark ≤ 256) :
      Char.ofNat (mark + n) = Char.ofNat (UInt8.ofNat (n % limit + mark)).toNat := by
    rw [byte_ofNat (by rw [Nat.mod_eq_of_lt hn]; omega), Nat.mod_eq_of_lt hn, Nat.add_comm]
  have htail (n : Nat) :
      Char.ofNat (0x80 + n % 0x40) = Char.ofNat (UInt8.ofNat (n % 0x40 + 0x80)).toNat := by
    rw [byte_ofNat (by omega), Nat.add_comm]
  unfold utf8 bytes String.utf8EncodeChar
  simp only [hval]
  generalize scalar.toNat = v at hlt
  by_cases hone : v < 0x80
  · rw [if_pos hone, if_pos (show v ≤ 0x7f by omega), List.map_singleton, byte_ofNat (by omega)]
  rw [if_neg hone, if_neg (show ¬v ≤ 0x7f by omega)]
  by_cases htwo : v < 0x800
  · rw [if_pos htwo, if_pos (show v ≤ 0x7ff by omega)]
    simp only [List.map_cons, List.map_nil, htail, pow_zero, Nat.div_one, Nat.reducePow]
    rw [hmark 0xC0 (v / 64) 0x20 (by omega) (by decide)]
  rw [if_neg htwo, if_neg (show ¬v ≤ 0x7ff by omega)]
  by_cases hthree : v < 0x10000
  · rw [if_pos hthree, if_pos (show v ≤ 0xffff by omega)]
    simp only [List.map_cons, List.map_nil, htail, pow_zero, Nat.div_one, Nat.reducePow]
    rw [hmark 0xE0 (v / 4096) 0x10 (by omega) (by decide)]
  rw [if_neg hthree, if_neg (show ¬v ≤ 0xffff by omega)]
  simp only [List.map_cons, List.map_nil, htail, pow_zero, Nat.div_one, Nat.reducePow]
  rw [hmark 0xF0 (v / 262144) 0x08 (by omega) (by decide)]

end Unicode

section Strings

-- The two characters of an escape, and the byte that it stands for.
def shortEscapes : List (Char × Char) :=
  [('"', '"'), ('\\', '\\'), ('/', '/'), ('b', '\x08'), ('f', '\x0c'), ('n', '\n'), ('r', '\r'),
    ('t', '\t')]

-- Four digits are one unit of UTF-16.
def IsUnit (digits : List Char) (unit : Nat) : Prop :=
  digits.length = 4 ∧ (∀ c ∈ digits, Json.IsHex c) ∧ unitOf digits = unit

-- What the characters between the quotes stand for, in UTF-8. Neither a zero nor
-- half a pair stands for anything.
inductive Denotes : List Char → List Char → Prop where
  | nil : Denotes [] []
  | plain {c : Char} {chars out : List Char} : Json.IsPlain c → Denotes chars out →
      Denotes (c :: chars) (c :: out)
  | escape {e written : Char} {chars out : List Char} : (e, written) ∈ shortEscapes →
      Denotes chars out → Denotes ('\\' :: e :: chars) (written :: out)
  | unicode {digits chars out : List Char} {scalar : Char} : IsUnit digits scalar.toNat →
      scalar.toNat ≠ 0 → Denotes chars out →
      Denotes ('\\' :: 'u' :: (digits ++ chars)) (bytes scalar ++ out)
  | pair {high low chars out : List Char} {scalar : Char} : 0x10000 ≤ scalar.toNat →
      IsUnit high (0xD800 + (scalar.toNat - 0x10000) / 0x400) →
      IsUnit low (0xDC00 + (scalar.toNat - 0x10000) % 0x400) → Denotes chars out →
      Denotes ('\\' :: 'u' :: (high ++ '\\' :: 'u' :: (low ++ chars))) (bytes scalar ++ out)

theorem utf8_surrogates {unit : Nat} {scalar : Char} (h : scalar.toNat = unit)
    (hzero : scalar.toNat ≠ 0) : isUnusable unit = false ∧ isHigh unit = false := by
  have hvalid : scalar.toNat < 0xd800 ∨ (0xdfff < scalar.toNat ∧ scalar.toNat < 0x110000) :=
    scalar.valid
  constructor
  · simp only [isUnusable, Bool.or_eq_false_iff, Bool.and_eq_false_iff, decide_eq_false_iff_not]
    omega
  · simp only [isHigh, Bool.and_eq_false_iff, decide_eq_false_iff_not]
    omega

theorem unescape_denotes {chars out : List Char} (h : Denotes chars out) :
    Escapes chars ∧ ∀ tail rest, Ends tail rest → unescape (chars ++ tail) = some (out, rest) := by
  induction h with
  | nil =>
      refine ⟨.nil, ?_⟩
      rintro tail rest (⟨rfl, rfl⟩ | rfl)
      · rfl
      · exact unescape_quote _
  | plain hc _ ih =>
      refine ⟨.plain hc.1 hc.2.1 ih.1, fun tail rest hends => ?_⟩
      rw [List.cons_append, unescape_plain hc.1 hc.2.1, ih.2 tail rest hends]
      rfl
  | @escape e written chars out he _ ih =>
      have hshort : ∀ entry ∈ shortEscapes, entry.1 ≠ 'u' ∧ escaped entry.1 = entry.2 := by decide
      obtain ⟨hne, hwritten⟩ := hshort _ he
      refine ⟨.escape hne ih.1, fun tail rest hends => ?_⟩
      rw [List.cons_append, List.cons_append, unescape_escape hne, ih.2 tail rest hends]
      simp only at hwritten
      rw [hwritten]
      rfl
  | @unicode digits chars out scalar hunit hzero _ ih =>
      obtain ⟨hlength, hhex, hvalue⟩ := hunit
      obtain ⟨a, b, c, d, rfl⟩ := List.length_eq_four.mp hlength
      rw [← parse_hex4_eq hhex] at hvalue
      obtain ⟨hunusable, hhigh⟩ := utf8_surrogates hvalue.symm hzero
      refine ⟨.unicode hhex ih.1, fun tail rest hends => ?_⟩
      simp only [List.cons_append, List.nil_append]
      rw [unescape_unicode, hunusable, hhigh, if_neg (by decide), if_neg (by decide),
        ih.2 tail rest hends, hvalue, utf8_scalar]
      rfl
  | @pair high low chars out scalar hplane hhigh hlow _ ih =>
      have hlt := scalar_lt scalar
      obtain ⟨hlength, hhex, hvalue⟩ := hhigh
      obtain ⟨hlength', hhex', hvalue'⟩ := hlow
      obtain ⟨a, b, c, d, rfl⟩ := List.length_eq_four.mp hlength
      obtain ⟨a', b', c', d', rfl⟩ := List.length_eq_four.mp hlength'
      rw [← parse_hex4_eq hhex] at hvalue
      rw [← parse_hex4_eq hhex'] at hvalue'
      have hunusable : ¬isUnusable (parse_hex4 a b c d) = true := by
        rw [hvalue]
        simp only [isUnusable, Bool.or_eq_true, Bool.and_eq_true, decide_eq_true_eq]
        omega
      have hfirst : isHigh (parse_hex4 a b c d) = true := by
        rw [hvalue]
        simp only [isHigh, Bool.and_eq_true, decide_eq_true_eq]
        omega
      have hpair : pair (parse_hex4 a b c d) (parse_hex4 a' b' c' d') = bytes scalar := by
        have hscalar : 0x10000 + (parse_hex4 a b c d % 0x400 * 0x400 +
            parse_hex4 a' b' c' d' % 0x400) = scalar.toNat := by
          rw [hvalue, hvalue']
          omega
        rw [pair, if_neg (by omega), hscalar, utf8_scalar]
      refine ⟨.unicode hhex (.unicode hhex' ih.1), fun tail rest hends => ?_⟩
      simp only [List.cons_append, List.nil_append]
      rw [unescape_unicode, if_neg hunusable, if_pos hfirst, if_pos (by simp)]
      dsimp only
      rw [ih.2 tail rest hends, hpair]
      rfl

theorem denotes_plain {chars : List Char} (h : Json.Plain chars) : Denotes chars chars := by
  induction chars with
  | nil => exact .nil
  | cons c chars ih =>
      exact .plain (h c List.mem_cons_self) (ih fun c hc => h c (List.mem_cons_of_mem _ hc))

theorem unescaped_denotes {chars out : List Char} (h : Denotes chars out) :
    unescaped chars = out := by
  have halone := (unescape_denotes h).2 [] [] (Or.inl ⟨rfl, rfl⟩)
  rw [List.append_nil] at halone
  rw [unescaped, halone]
  rfl

-- A string of the text is read as the UTF-8 that it stands for.
theorem parse_string_denotes {chars out : List Char} (h : Denotes chars out) (rest : List Char) :
    parse_string ('"' :: (chars ++ '"' :: rest)) = .ok (out, rest) := by
  rw [parse_string_escapes (unescape_denotes h).1 (Or.inr rfl), unescaped_denotes h]

-- Two escapes for one character, which takes four bytes.
theorem pair_read :
    parse_string "\"\\uD83d\\ude00\"".toList =
      .ok ([0xF0, 0x9F, 0x98, 0x80].map Char.ofNat, []) := by
  have hhigh : IsUnit ['D', '8', '3', 'd'] (0xD800 + (0x1F600 - 0x10000) / 0x400) :=
    ⟨rfl, by simp [Json.IsHex], rfl⟩
  have hlow : IsUnit ['d', 'e', '0', '0'] (0xDC00 + (0x1F600 - 0x10000) % 0x400) :=
    ⟨rfl, by simp [Json.IsHex], rfl⟩
  have hpair : Denotes _ (bytes (Char.ofNat 0x1F600) ++ []) :=
    .pair (by decide) hhigh hlow .nil
  exact parse_string_denotes hpair []

end Strings

section Integers

open Printf

variable (arith : Arithmetic)

-- What holds of double: whole numbers are exact below 2 ^ 53, and conversion to int
-- keeps the value of those that int has.
structure Exact (whole : Nat → arith.Double) : Prop where
  zero : arith.zero = whole 0
  digit : ∀ n value, 10 * n + value < 2 ^ 53 →
    arith.digit (whole n) value = whole (10 * n + value)
  scaled : ∀ n, n < 2 ^ 53 → arith.scaled false (whole n) 0 = whole n
  toInt : ∀ (negative : Bool) (n : Nat) (value : Int32),
    value.toInt = (if negative then -(n : Int) else n) →
      arith.toInt (arith.scaled negative (whole n) 0) = value

variable {arith} {whole : Nat → arith.Double}

theorem ofDigitChars_le (digits : List Char) (n : Nat) : n ≤ Nat.ofDigitChars 10 digits n := by
  induction digits generalizing n with
  | nil => simp
  | cons c digits ih =>
      rw [Nat.ofDigitChars_cons]
      have hmore := ih (10 * n + (c.toNat - '0'.toNat))
      omega

theorem Exact.digits (hexact : Exact arith whole) (digits : List Char) (n : Nat)
    (hbound : Nat.ofDigitChars 10 digits n < 2 ^ 53) :
    digits.foldl (fun n c => arith.digit n (c.toNat - '0'.toNat)) (whole n) =
      whole (Nat.ofDigitChars 10 digits n) := by
  induction digits generalizing n with
  | nil => simp
  | cons c digits ih =>
      rw [Nat.ofDigitChars_cons] at hbound ⊢
      have hle := ofDigitChars_le digits (10 * n + (c.toNat - '0'.toNat))
      rw [List.foldl_cons, hexact.digit n _ (by omega), ih _ hbound]

-- The digits of a number, with those skipped that do not count.
theorem Exact.number (hexact : Exact arith whole) {n : Nat} (hn : n < 2 ^ 53) :
    (if showNat n = ['0'] then [] else showNat n).foldl
      (fun n c => arith.digit n (c.toNat - '0'.toNat)) arith.zero = whole n := by
  have hdecimal : Nat.ofDigitChars 10 (showNat n) 0 = n := Nat.ofDigitChars_ten_toDigits
  rw [hexact.zero]
  by_cases hzero : showNat n = ['0']
  · rw [hzero] at hdecimal
    rw [if_pos hzero, ← hdecimal]
    rfl
  · rw [if_neg hzero, hexact.digits _ _ (by rw [hdecimal]; exact hn), hdecimal]

theorem noDigit_nil : NoDigit [] := fun _ _ h => by cases h

theorem parse_number_showNat (hexact : Exact arith whole) (negative : Bool) {n : Nat}
    (hn : n < 2 ^ 53) :
    parse_number arith ((if negative then ['-'] else []) ++ showNat n) =
      (.number (arith.scaled negative (whole n) 0)
        (arith.toInt (arith.scaled negative (whole n) 0)), []) := by
  have hsign : take_sign ((if negative then ['-'] else []) ++ showNat n) =
      (negative, showNat n) := by
    cases negative with
    | true => rfl
    | false =>
        obtain ⟨d, more, hcons⟩ := List.exists_cons_of_ne_nil (showNat_ne_nil n)
        have hdigit : d.isDigit = true := showNat_digit n (hcons ▸ List.mem_cons_self)
        have hd : d ≠ '-' := by
          rintro rfl
          exact absurd hdigit (by decide)
        rw [hcons]
        exact if_neg hd
  have hwhole := take_whole_append (Json.isInt_showNat n) noDigit_nil
  rw [List.append_nil] at hwhole
  simp only [parse_number, hsign, hwhole, take_fraction, take_exponent, List.append_nil,
    hexact.number hn]
  rfl

-- An int that is printed in decimal is read back as it was.
theorem parse_number_showInt (hexact : Exact arith whole) (value : Int32) :
    ∃ valuedouble, ∀ rest, Stops rest →
      parse_number arith (showInt value.toInt ++ rest) = (.number valuedouble value, rest) := by
  have hlow := value.le_toInt
  have hhigh := value.toInt_lt
  obtain ⟨negative, n, htext, hvalue⟩ : ∃ (negative : Bool) (n : Nat),
      showInt value.toInt = (if negative then ['-'] else []) ++ showNat n ∧
        value.toInt = (if negative then -(n : Int) else n) := by
    cases hint : value.toInt with
    | ofNat n => exact ⟨false, n, rfl, rfl⟩
    | negSucc n => exact ⟨true, n + 1, rfl, rfl⟩
  have hn : n < 2 ^ 53 := by
    cases negative <;> simp only [if_true, Bool.false_eq_true, if_false] at hvalue <;> omega
  have halone := parse_number_showNat hexact negative hn
  rw [hexact.toInt negative n value hvalue, ← htext] at halone
  refine ⟨arith.scaled negative (whole n) 0, fun rest hstops => ?_⟩
  rw [parse_number_text arith (Json.isNumber_showInt _) hstops, halone]

-- The doubles of numbers without fraction and exponent.
def wholeNumbers : Arithmetic where
  Double := Int
  zero := 0
  digit n value := 10 * n + value
  scaled negative n exponent :=
    (if negative then -n else n) * 10 ^ exponent.toNat / 10 ^ (-exponent).toNat
  toInt n := Int32.ofInt n

theorem exact_wholeNumbers : Exact wholeNumbers Int.ofNat := by
  refine ⟨rfl, fun n value _ => rfl, fun n _ => by simp [wholeNumbers],
    fun negative n value h => ?_⟩
  have hscaled : wholeNumbers.scaled negative (n : Int) 0 = value.toInt := by
    rw [h]
    simp [wholeNumbers]
  change Int32.ofInt (wholeNumbers.scaled negative (n : Int) 0) = value
  rw [hscaled]
  exact Int32.ofInt_toInt value

def sampleObject : Json :=
  .object [("method".toList, .string "get-bst-report".toList),
    ("include".toList, .array [.string "device".toList, .string "a\\/b".toList]),
    ("id".toList, .number (showNat 5))]

def sampleText : List Char :=
  "\x7b\"method\":\"get-bst-report\",\"include\":[\"device\",\"a\\/b\"],\"id\":5\x7d".toList

theorem sampleObject_plain : ∀ name ∈ ["method", "get-bst-report", "include", "device", "id"],
    Json.Plain name.toList := by
  decide

theorem sampleText_element : Json.Writes (.element sampleObject) sampleText := by
  have hplain := sampleObject_plain
  simp only [List.forall_mem_cons, List.not_mem_nil, false_implies, implies_true, and_true]
    at hplain
  obtain ⟨hmethod, hname, hinclude, hdevice, hid⟩ := hplain
  have hescaped : Json.Writes (.value (.string "a\\/b".toList)) "\"a\\/b\"".toList := fun rest =>
    .string (.plain (by decide) (.escape (by decide) (.plain (by decide) (.close rest))))
  have hitems := (Json.writes_elements (.cons (Json.writes_string hdevice).bare
    (.cons hescaped.bare .nil)) (List.cons_ne_nil _ _)).array
  have htext : Json.bareObject [Json.bareMember "method" "\"get-bst-report\"".toList,
      Json.bareMember "include" "[\"device\",\"a\\/b\"]".toList,
      Json.bareMember "id" (showNat 5)] = sampleText := by decide
  rw [← htext]
  refine Json.Writes.bare (Json.writes_bareObject (.cons ?_ (.cons ?_ (.cons ?_ .nil))))
  · exact Json.writes_bareMember hmethod (Json.writes_string hname)
  · exact Json.writes_bareMember hinclude hitems
  · exact Json.writes_bareMember hid (Json.writes_number (Json.isNumber_showNat 5))

theorem sampleObject_decoded :
    decode wholeNumbers sampleObject =
      .object [("method".toList, .string "get-bst-report".toList),
        ("include".toList, .array [.string "device".toList, .string "a/b".toList]),
        ("id".toList, .number (5 : Int) 5)] := by
  have hsame : ∀ name ∈ ["method", "get-bst-report", "include", "device", "id"],
      unescaped name.toList = name.toList := fun name hmem =>
    unescaped_denotes (denotes_plain (sampleObject_plain name hmem))
  simp only [List.forall_mem_cons, List.not_mem_nil, false_implies, implies_true, and_true]
    at hsame
  obtain ⟨hmethod, hname, hinclude, hdevice, hid⟩ := hsame
  have hescaped : unescaped "a\\/b".toList = "a/b".toList :=
    unescaped_denotes (.plain (by decide) (.escape (by decide) (.plain (by decide) .nil)))
  simp only [sampleObject, decode, decode_items, decode_members, hmethod, hname, hinclude,
    hdevice, hid, hescaped]
  rfl

theorem object_parsed :
    cJSON_Parse wholeNumbers sampleText =
      .ok (.object [("method".toList, .string "get-bst-report".toList),
        ("include".toList, .array [.string "device".toList, .string "a/b".toList]),
        ("id".toList, .number (5 : Int) 5)]) := by
  have helement := sampleText_element []
  rw [List.append_nil] at helement
  rw [← sampleObject_decoded]
  exact (cJSON_Parse_element wholeNumbers helement).1

end Integers

section Lookup

-- The first member of the name, whatever its case.
def lookup (fields : List (List Char × Json)) (name : List Char) : Option Json :=
  (fields.find? fun field => cJSON_strcasecmp (unescaped field.1) name = 0).map (·.2)

theorem getObjectItem_decode (arith : Arithmetic) (fields : List (List Char × Json))
    (name : List Char) :
    cJSON_GetObjectItem (decode arith (.object fields)) name =
      (lookup fields name).map (decode arith) := by
  rw [decode, cJSON_GetObjectItem, lookup]
  induction fields with
  | nil => rfl
  | cons field fields ih =>
      obtain ⟨key, json⟩ := field
      rw [decode_members, List.find?_cons, List.find?_cons]
      by_cases hname : cJSON_strcasecmp (unescaped key) name = 0
      · simp [hname]
      · simp only [hname, decide_false]
        exact ih

theorem strcasecmp_eq_zero_iff {s t : List Char} (hs : ∀ c ∈ s, c.toLower.toNat ≠ 0)
    (ht : ∀ c ∈ t, c.toLower.toNat ≠ 0) :
    cJSON_strcasecmp s t = 0 ↔ s.map Char.toLower = t.map Char.toLower := by
  induction s generalizing t with
  | nil =>
      cases t with
      | nil => simp [cJSON_strcasecmp]
      | cons d t =>
          have hd := ht d List.mem_cons_self
          simp only [cJSON_strcasecmp, List.map_nil, List.map_cons]
          constructor
          · intro h
            omega
          · intro h
            cases h
  | cons c s ih =>
      cases t with
      | nil =>
          have hc := hs c List.mem_cons_self
          simp only [cJSON_strcasecmp, List.map_nil, List.map_cons]
          constructor
          · intro h
            omega
          · intro h
            cases h
      | cons d t =>
          have hmore := ih (t := t) (fun c hc => hs c (List.mem_cons_of_mem _ hc))
            fun c hc => ht c (List.mem_cons_of_mem _ hc)
          rw [cJSON_strcasecmp, List.map_cons, List.map_cons, List.cons.injEq]
          split_ifs with hsame
          · rw [hmore]
            exact ⟨fun h => ⟨hsame, h⟩, And.right⟩
          · constructor
            · intro h
              have hcode : c.toLower.toNat = d.toLower.toNat := by omega
              exact absurd (Char.toNat_inj.mp hcode) hsame
            · exact fun h => absurd h.1 hsame

-- A name in lower case, without escapes.
def Lower (key : List Char) : Prop := ∀ c ∈ key, Json.IsPlain c ∧ c.toLower = c

instance (key : List Char) : Decidable (Lower key) := List.decidableBAll _ key

theorem Lower.map {key : List Char} (h : Lower key) : key.map Char.toLower = key := by
  induction key with
  | nil => rfl
  | cons c key ih =>
      rw [List.map_cons, (h c List.mem_cons_self).2, ih fun c hc => h c (List.mem_cons_of_mem _ hc)]

theorem Lower.unescaped {key : List Char} (h : Lower key) : unescaped key = key :=
  unescaped_denotes (denotes_plain fun c hc => (h c hc).1)

theorem Lower.strcasecmp_iff {key name : List Char} (hkey : Lower key) (hname : Lower name) :
    cJSON_strcasecmp (CJson.unescaped key) name = 0 ↔ key = name := by
  have hcodes (key : List Char) (h : Lower key) : ∀ c ∈ key, c.toLower.toNat ≠ 0 := by
    intro c hc
    have hplain := (h c hc).1.2.2
    rw [(h c hc).2]
    omega
  rw [hkey.unescaped, strcasecmp_eq_zero_iff (hcodes key hkey) (hcodes name hname), hkey.map,
    hname.map]

theorem lookup_of_mem {fields : List (List Char × Json)} {name : List Char} {json : Json}
    (hkeys : ∀ field ∈ fields, Lower field.1) (hnodup : (fields.map Prod.fst).Nodup)
    (hmem : (name, json) ∈ fields) : lookup fields name = some json := by
  rw [lookup]
  induction fields with
  | nil => cases hmem
  | cons field fields ih =>
      have hname := hkeys (name, json) hmem
      have hfirst := hkeys field List.mem_cons_self
      rw [List.map_cons, List.nodup_cons] at hnodup
      rw [List.find?_cons]
      rcases List.mem_cons.mp hmem with rfl | hmem
      · simp [(hname.strcasecmp_iff hname).mpr rfl]
      · have hne : field.1 ≠ name := fun heq =>
          hnodup.1 (heq ▸ List.mem_map_of_mem (f := Prod.fst) hmem)
        have hother : ¬cJSON_strcasecmp (unescaped field.1) name = 0 :=
          fun h => hne ((hfirst.strcasecmp_iff hname).mp h)
        simp only [hother, decide_false]
        exact ih (fun field h => hkeys field (List.mem_cons_of_mem _ h)) hnodup.2 hmem

-- The members have these names, which are different ones.
structure Named (fields : List (List Char × Json)) (names : List String) : Prop where
  keys : fields.map Prod.fst = names.map String.toList
  lower : ∀ name ∈ names, Lower name.toList
  nodup : names.Nodup

variable {fields : List (List Char × Json)} {names : List String}

theorem Named.key (h : Named fields names) {field : List Char × Json} (hmem : field ∈ fields) :
    ∃ name ∈ names, field.1 = name.toList := by
  have hkey := List.mem_map_of_mem (f := Prod.fst) hmem
  rw [h.keys] at hkey
  obtain ⟨name, hname, heq⟩ := List.mem_map.mp hkey
  exact ⟨name, hname, heq.symm⟩

theorem Named.lookup_eq (h : Named fields names) {name : String} {json : Json}
    (hmem : (name.toList, json) ∈ fields) : lookup fields name.toList = some json := by
  refine lookup_of_mem (fun field hfield => ?_) ?_ hmem
  · obtain ⟨name, hname, heq⟩ := h.key hfield
    rw [heq]
    exact h.lower name hname
  · rw [h.keys]
    exact List.Nodup.map (fun _ _ => String.toList_injective) h.nodup

theorem Named.lookup_none (h : Named fields names) {name : String} (hlower : Lower name.toList)
    (habsent : name ∉ names) : lookup fields name.toList = none := by
  rw [lookup, Option.map_eq_none_iff, List.find?_eq_none]
  intro field hfield
  obtain ⟨name', hname, heq⟩ := h.key hfield
  have hother : ¬ cJSON_strcasecmp (unescaped field.1) name.toList = 0 := by
    rw [heq, (h.lower name' hname).strcasecmp_iff hlower]
    exact fun hsame => habsent (String.toList_injective hsame ▸ hname)
  simpa using hother

end Lookup

end BroadView.CJson
