import BroadView.Json
import BroadView.Printf

namespace BroadView.Json

section Numbers

-- The decimal digits of a number have no leading zero.
theorem showNat_head (n : Nat) (h : (Printf.showNat n).head? = some '0') : n = 0 := by
  induction n using Nat.strongRecOn with
  | ind n ih =>
      unfold Printf.showNat at h ih
      rw [Nat.toDigits_eq_if (by decide)] at h
      split_ifs at h with hlt
      · have hdigit : ∀ m < 10, [Nat.digitChar m].head? = some '0' → m = 0 := by decide
        exact hdigit n hlt h
      · have hdiv : n / 10 = 0 := by
          apply ih (n / 10) (by omega)
          rwa [List.head?_append_of_ne_nil _ Nat.toDigits_ne_nil] at h
        omega

theorem isInt_showNat (n : Nat) : IsInt (Printf.showNat n) := by
  refine ⟨⟨Printf.showNat_ne_nil n, fun c hc => Printf.showNat_digit n hc⟩, fun hhead => ?_⟩
  rw [showNat_head n hhead]
  rfl

theorem isNumber_showNat (n : Nat) : IsNumber (Printf.showNat n) :=
  ⟨[], Printf.showNat n, [], [], by simp, Or.inl rfl, isInt_showNat n, Or.inl rfl, Or.inl rfl⟩

theorem isNumber_showInt (n : Int) : IsNumber (Printf.showInt n) := by
  cases n with
  | ofNat n => exact isNumber_showNat n
  | negSucc n =>
      exact ⟨['-'], Printf.showNat (n + 1), [], [], by simp [Printf.showInt], Or.inr rfl,
        isInt_showNat _, Or.inl rfl, Or.inl rfl⟩

theorem plain_of_isDigit {c : Char} (h : c.isDigit = true) : IsPlain c := by
  have hrange : 48 ≤ c.toNat ∧ c.toNat ≤ 57 := by
    simpa [Char.isDigit, UInt32.le_iff_toNat_le] using h
  refine ⟨?_, ?_, by omega⟩ <;> rintro rfl <;> exact absurd hrange (by decide)

theorem plain_showNat (n : Nat) : Plain (Printf.showNat n) :=
  fun _ hc => plain_of_isDigit (Printf.showNat_digit n hc)

theorem plain_showInt (n : Int) : Plain (Printf.showInt n) := by
  cases n with
  | ofNat n => exact plain_showNat n
  | negSucc n =>
      exact plain_cons.mpr ⟨by decide, plain_showNat (n + 1)⟩

end Numbers

section Writes

-- The text has the form, whatever follows it.
def Writes (form : Form) (text : List Char) : Prop := ∀ rest, Derives form (text ++ rest) rest

def Blanks (text : List Char) : Prop := ∀ c ∈ text, IsBlank c

variable {text : List Char} {json : Json}

theorem blank_append (h : Blanks text) (rest : List Char) : Blank (text ++ rest) rest := by
  induction text with
  | nil => exact .nil rest
  | cons c blanks ih =>
      exact .cons (h c List.mem_cons_self) (ih fun c' hc => h c' (List.mem_cons_of_mem c hc))

theorem blanks_spaces (n : Nat) : Blanks (List.replicate n ' ') :=
  fun _ hc => Or.inl (List.eq_of_mem_replicate hc)

theorem chars_plain (h : Plain text) (rest : List Char) :
    Chars (text ++ '"' :: rest) text rest := by
  induction text with
  | nil => exact .close rest
  | cons c chars ih =>
      exact .plain (h c List.mem_cons_self) (ih fun c' hc => h c' (List.mem_cons_of_mem c hc))

theorem writes_number (h : IsNumber text) : Writes (.value (.number text)) text :=
  fun rest => .number rest h

theorem writes_string (h : Plain text) :
    Writes (.value (.string text)) ('"' :: text ++ ['"']) := by
  intro rest
  have hchars := chars_plain h rest
  simpa using Derives.string hchars

theorem writes_emptyArray (h : Blanks text) :
    Writes (.value (.array [])) ('[' :: text ++ [']']) := by
  intro rest
  have hblank := blank_append h (']' :: rest)
  simpa using Derives.emptyArray hblank

theorem Writes.array {items : List Json} (h : Writes (.elements items) text) :
    Writes (.value (.array items)) ('[' :: text ++ [']']) := by
  intro rest
  simpa using Derives.array (h (']' :: rest))

theorem Writes.object {fields : List (List Char × Json)} (h : Writes (.members fields) text) :
    Writes (.value (.object fields)) ('{' :: text ++ ['}']) := by
  intro rest
  simpa using Derives.object (h ('}' :: rest))

theorem Writes.element {before after : List Char} (h : Writes (.value json) text)
    (hbefore : Blanks before) (hafter : Blanks after) :
    Writes (.element json) (before ++ text ++ after) := by
  intro rest
  have hderives := h (after ++ rest)
  rw [← List.append_assoc] at hderives
  have hblank := blank_append hbefore (text ++ (after ++ rest))
  simp only [List.append_assoc] at hderives ⊢
  exact .element hblank hderives (blank_append hafter rest)

theorem Writes.member {before after key : List Char} (h : Writes (.element json) text)
    (hbefore : Blanks before) (hkey : Plain key) (hafter : Blanks after) :
    Writes (.member key json) (before ++ '"' :: key ++ '"' :: after ++ ':' :: text) := by
  intro rest
  have hblank := blank_append hbefore ('"' :: (key ++ '"' :: (after ++ ':' :: (text ++ rest))))
  have hchars := chars_plain hkey (after ++ ':' :: (text ++ rest))
  have hcolon := blank_append hafter (':' :: (text ++ rest))
  simpa using Derives.member hblank hchars hcolon (h rest)

theorem writes_elements {items : List Json} {texts : List (List Char)}
    (h : List.Forall₂ (fun json text => Writes (.element json) text) items texts)
    (hne : items ≠ []) : Writes (.elements items) (List.intercalate [','] texts) := by
  induction h with
  | nil => exact absurd rfl hne
  | @cons json text items texts hhead htail ih =>
      intro rest
      cases htail with
      | nil => simpa using Derives.lastElement (hhead rest)
      | @cons json' text' items' texts' hhead' htail' =>
          have hrest := ih (by simp) rest
          have hfirst := hhead (',' :: (List.intercalate [','] (text' :: texts') ++ rest))
          simpa [List.intercalate] using Derives.moreElements hfirst hrest

theorem writes_members {fields : List (List Char × Json)} {texts : List (List Char)}
    (h : List.Forall₂ (fun field text => Writes (.member field.1 field.2) text) fields texts)
    (hne : fields ≠ []) : Writes (.members fields) (List.intercalate [','] texts) := by
  induction h with
  | nil => exact absurd rfl hne
  | @cons field text fields texts hhead htail ih =>
      intro rest
      cases htail with
      | nil => simpa using Derives.lastMember (hhead rest)
      | @cons field' text' fields' texts' hhead' htail' =>
          have hrest := ih (by simp) rest
          have hfirst := hhead (',' :: (List.intercalate [','] (text' :: texts') ++ rest))
          simpa [List.intercalate] using Derives.moreMembers hfirst hrest

theorem Blank.trans {first second third : List Char} (h : Blank first second)
    (h' : Blank second third) : Blank first third := by
  induction h with
  | nil => exact h'
  | cons hc _ ih => exact .cons hc (ih h')

-- Blanks before the first element belong to it.
theorem Writes.blank_elements {items : List Json} {before : List Char}
    (h : Writes (.elements items) text) (hbefore : Blanks before) :
    Writes (.elements items) (before ++ text) := by
  intro rest
  have hblank := blank_append hbefore (text ++ rest)
  rw [← List.append_assoc] at hblank
  cases h rest with
  | lastElement hitem =>
      cases hitem with
      | element hfirst hvalue hafter =>
          exact .lastElement (.element (hblank.trans hfirst) hvalue hafter)
  | moreElements hitem hmore =>
      cases hitem with
      | element hfirst hvalue hafter =>
          exact .moreElements (.element (hblank.trans hfirst) hvalue hafter) hmore

theorem Writes.bare (h : Writes (.value json) text) : Writes (.element json) text := by
  simpa using h.element (blanks_spaces 0) (blanks_spaces 0)

end Writes

section Lists

variable (opening : List Char) (texts : List (List Char))

-- Every text is followed by a comma.
def terminated : List Char := (texts.map (· ++ [','])).flatten

theorem terminated_append (last : List Char) :
    terminated texts ++ last = List.intercalate [','] (texts ++ [last]) := by
  induction texts with
  | nil => simp [terminated, List.intercalate]
  | cons text texts ih =>
      have hstep : terminated (text :: texts) = text ++ ',' :: terminated texts := by
        simp [terminated]
      rw [hstep, List.append_assoc, List.cons_append, ih]
      cases texts <;> simp [List.intercalate]

theorem terminated_eq (hne : texts ≠ []) :
    terminated texts = List.intercalate [','] texts ++ [','] := by
  have hlast := terminated_append texts.dropLast (texts.getLast hne)
  rw [List.dropLast_append_getLast] at hlast
  rw [← hlast]
  conv_lhs => rw [← List.dropLast_append_getLast hne]
  simp [terminated]

def arrayText : List Char :=
  if texts = [] then "[]".toList else "[ ".toList ++ List.intercalate [','] texts ++ "]".toList

-- The closing bracket takes the place of the last comma, or of the blank after
-- the opening bracket.
theorem arrayText_eq :
    ((opening ++ "[ ".toList) ++ terminated texts).dropLast ++ "]".toList =
      opening ++ arrayText texts := by
  unfold arrayText
  split_ifs with hnil
  · subst hnil
    rw [show "[ ".toList = ['['] ++ [' '] from rfl, ← List.append_assoc]
    simp [terminated]
  · rw [terminated_eq texts hnil, ← List.append_assoc, List.dropLast_concat]
    simp

theorem terminated_intercalate {texts' : List (List Char)} (hne : texts' ≠ []) :
    terminated texts ++ List.intercalate [','] texts' =
      List.intercalate [','] (texts ++ texts') := by
  rw [← List.dropLast_append_getLast hne, ← terminated_append, ← List.append_assoc texts,
    ← terminated_append]
  simp [terminated]

theorem writes_arrayText {items : List Json} {texts : List (List Char)}
    (h : List.Forall₂ (fun json text => Writes (.element json) text) items texts) :
    Writes (.value (.array items)) (arrayText texts) := by
  unfold arrayText
  split_ifs with hnil
  · subst hnil
    cases h
    have hempty : Writes (.value (.array [])) ('[' :: [] ++ [']']) :=
      writes_emptyArray (by simp [Blanks])
    exact hempty
  · have hne : items ≠ [] := by
      rintro rfl
      cases h
      exact hnil rfl
    have helements := (writes_elements h hne).blank_elements (blanks_spaces 1)
    exact helements.array

end Lists

section Objects

-- Objects without blanks.
def bareMember (key : String) (value : List Char) : List Char :=
  '"' :: key.toList ++ '"' :: ':' :: value

def bareObject (members : List (List Char)) : List Char :=
  '{' :: List.intercalate [','] members ++ ['}']

theorem writes_bareMember {key : String} (hkey : Plain key.toList) {json : Json}
    {value : List Char} (h : Writes (.value json) value) :
    Writes (.member key.toList json) (bareMember key value) := by
  have hmember := h.bare.member (blanks_spaces 0) hkey (blanks_spaces 0)
  simpa [bareMember] using hmember

theorem writes_bareObject {fields : List (List Char × Json)} {texts : List (List Char)}
    (h : List.Forall₂ (fun field text => Writes (.member field.1 field.2) text) fields texts) :
    Writes (.value (.object fields)) (bareObject texts) := by
  cases h with
  | nil => exact fun rest => .emptyObject (.nil _)
  | cons hhead htail => exact (writes_members (.cons hhead htail) (List.cons_ne_nil _ _)).object

end Objects

end BroadView.Json
