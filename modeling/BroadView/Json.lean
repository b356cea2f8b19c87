import Mathlib.Data.List.Basic
import Mathlib.Data.List.Forall2

namespace BroadView

inductive Json where
  | null
  | bool (value : Bool)
  | number (text : List Char)
  | string (text : List Char)
  | array (items : List Json)
  | object (members : List (List Char × Json))

namespace Json

def IsBlank (c : Char) : Prop := c = ' ' ∨ c = '\t' ∨ c = '\n' ∨ c = '\r'

inductive Blank : List Char → List Char → Prop where
  | nil (rest : List Char) : Blank rest rest
  | cons {c : Char} {text rest : List Char} : IsBlank c → Blank text rest → Blank (c :: text) rest

-- What may stand in a string as it is.
def IsPlain (c : Char) : Prop := c ≠ '"' ∧ c ≠ '\\' ∧ 32 ≤ c.toNat

def Plain (text : List Char) : Prop := ∀ c ∈ text, IsPlain c

instance (c : Char) : Decidable (IsPlain c) := inferInstanceAs (Decidable (_ ∧ _ ∧ _))

instance (text : List Char) : Decidable (Plain text) :=
  List.decidableBAll IsPlain text

@[simp] theorem plain_nil : Plain [] := fun _ hc => absurd hc List.not_mem_nil

@[simp] theorem plain_cons {c : Char} {text : List Char} :
    Plain (c :: text) ↔ IsPlain c ∧ Plain text := List.forall_mem_cons

@[simp] theorem plain_append {text text' : List Char} :
    Plain (text ++ text') ↔ Plain text ∧ Plain text' := List.forall_mem_append

def IsHex (c : Char) : Prop :=
  c.isDigit = true ∨ ('a' ≤ c ∧ c ≤ 'f') ∨ ('A' ≤ c ∧ c ≤ 'F')

-- The characters of a string up to and with its closing quote.
inductive Chars : List Char → List Char → List Char → Prop where
  | close (rest : List Char) : Chars ('"' :: rest) [] rest
  | plain {c : Char} {text chars rest : List Char} : IsPlain c → Chars text chars rest →
      Chars (c :: text) (c :: chars) rest
  | escape {c : Char} {text chars rest : List Char} :
      c ∈ ['"', '\\', '/', 'b', 'f', 'n', 'r', 't'] → Chars text chars rest →
      Chars ('\\' :: c :: text) ('\\' :: c :: chars) rest
  | unicode {digits text chars rest : List Char} : digits.length = 4 → (∀ c ∈ digits, IsHex c) →
      Chars text chars rest →
      Chars ('\\' :: 'u' :: (digits ++ text)) ('\\' :: 'u' :: (digits ++ chars)) rest

def Digits (text : List Char) : Prop := text ≠ [] ∧ ∀ c ∈ text, c.isDigit = true

def IsInt (text : List Char) : Prop := Digits text ∧ (text.head? = some '0' → text.length = 1)

def IsFraction (text : List Char) : Prop :=
  text = [] ∨ ∃ digits, text = '.' :: digits ∧ Digits digits

def IsExponent (text : List Char) : Prop :=
  text = [] ∨ ∃ e sign digits, text = e :: (sign ++ digits) ∧ (e = 'e' ∨ e = 'E') ∧
    (sign = [] ∨ sign = ['+'] ∨ sign = ['-']) ∧ Digits digits

def IsNumber (text : List Char) : Prop :=
  ∃ sign whole fraction exponent, text = sign ++ whole ++ fraction ++ exponent ∧
    (sign = [] ∨ sign = ['-']) ∧ IsInt whole ∧ IsFraction fraction ∧ IsExponent exponent

-- An element is a value with blanks around it.
inductive Form where
  | value (json : Json)
  | element (json : Json)
  | elements (items : List Json)
  | member (key : List Char) (json : Json)
  | members (fields : List (List Char × Json))

-- A prefix of the text has the form, and the rest is left over.
inductive Derives : Form → List Char → List Char → Prop where
  | null (rest : List Char) : Derives (.value .null) ("null".toList ++ rest) rest
  | true (rest : List Char) : Derives (.value (.bool true)) ("true".toList ++ rest) rest
  | false (rest : List Char) : Derives (.value (.bool false)) ("false".toList ++ rest) rest
  | number {text : List Char} (rest : List Char) : IsNumber text →
      Derives (.value (.number text)) (text ++ rest) rest
  | string {text chars rest : List Char} : Chars text chars rest →
      Derives (.value (.string chars)) ('"' :: text) rest
  | emptyArray {text rest : List Char} : Blank text (']' :: rest) →
      Derives (.value (.array [])) ('[' :: text) rest
  | array {items : List Json} {text rest : List Char} :
      Derives (.elements items) text (']' :: rest) →
      Derives (.value (.array items)) ('[' :: text) rest
  | emptyObject {text rest : List Char} : Blank text ('}' :: rest) →
      Derives (.value (.object [])) ('{' :: text) rest
  | object {fields : List (List Char × Json)} {text rest : List Char} :
      Derives (.members fields) text ('}' :: rest) →
      Derives (.value (.object fields)) ('{' :: text) rest
  | element {json : Json} {text text' rest' rest : List Char} : Blank text text' →
      Derives (.value json) text' rest' → Blank rest' rest → Derives (.element json) text rest
  | lastElement {json : Json} {text rest : List Char} : Derives (.element json) text rest →
      Derives (.elements [json]) text rest
  | moreElements {json : Json} {items : List Json} {text text' rest : List Char} :
      Derives (.element json) text (',' :: text') → Derives (.elements items) text' rest →
      Derives (.elements (json :: items)) text rest
  | member {key text text' text'' text''' rest : List Char} {json : Json} :
      Blank text ('"' :: text') → Chars text' key text'' → Blank text'' (':' :: text''') →
      Derives (.element json) text''' rest → Derives (.member key json) text rest
  | lastMember {key text rest : List Char} {json : Json} : Derives (.member key json) text rest →
      Derives (.members [(key, json)]) text rest
  | moreMembers {key text text' rest : List Char} {json : Json}
      {fields : List (List Char × Json)} : Derives (.member key json) text (',' :: text') →
      Derives (.members fields) text' rest → Derives (.members ((key, json) :: fields)) text rest

section Nesting

inductive Mode where
  | outside
  | inside
  | escaped
  deriving DecidableEq

-- How many brackets and braces are open outside strings.
structure Nesting where
  brackets : Int
  braces : Int
  mode : Mode
  deriving DecidableEq

def Nesting.step (n : Nesting) (c : Char) : Nesting :=
  match n.mode with
  | .outside =>
      if c = '[' then { n with brackets := n.brackets + 1 }
      else if c = ']' then { n with brackets := n.brackets - 1 }
      else if c = '{' then { n with braces := n.braces + 1 }
      else if c = '}' then { n with braces := n.braces - 1 }
      else if c = '"' then { n with mode := .inside }
      else n
  | .inside =>
      if c = '"' then { n with mode := .outside }
      else if c = '\\' then { n with mode := .escaped }
      else n
  | .escaped => { n with mode := .inside }

def nesting (n : Nesting) (text : List Char) : Nesting := text.foldl Nesting.step n

theorem nesting_append (n : Nesting) (text text' : List Char) :
    nesting n (text ++ text') = nesting (nesting n text) text' := List.foldl_append

-- A character that is no bracket, brace or quote.
def Inert (c : Char) : Prop := c ≠ '[' ∧ c ≠ ']' ∧ c ≠ '{' ∧ c ≠ '}' ∧ c ≠ '"'

theorem nesting_inert (n : Nesting) (hout : n.mode = .outside) (text : List Char)
    (h : ∀ c ∈ text, Inert c) : nesting n text = n := by
  induction text with
  | nil => rfl
  | cons c rest ih =>
      obtain ⟨h1, h2, h3, h4, h5⟩ := h c List.mem_cons_self
      have hc : n.step c = n := by simp [Nesting.step, hout, h1, h2, h3, h4, h5]
      have hrest := ih fun c' hmem => h c' (List.mem_cons_of_mem c hmem)
      exact (congrArg (nesting · rest) hc).trans hrest

theorem IsBlank.inert {c : Char} (h : IsBlank c) : Inert c := by
  rcases h with rfl | rfl | rfl | rfl <;> unfold Inert <;> decide

theorem isDigit_inert {c : Char} (h : c.isDigit = true) : Inert c := by
  unfold Inert
  refine ⟨?_, ?_, ?_, ?_, ?_⟩ <;> rintro rfl <;> exact absurd h (by decide)

theorem IsNumber.inert {text : List Char} (h : IsNumber text) : ∀ c ∈ text, Inert c := by
  obtain ⟨sign, whole, fraction, exponent, rfl, hsign, hwhole, hfraction, hexponent⟩ := h
  have hsigns : ∀ c ∈ ['-', '+', '.', 'e', 'E'], Inert c := by
    intro c hc
    simp only [List.mem_cons, List.not_mem_nil, or_false] at hc
    rcases hc with rfl | rfl | rfl | rfl | rfl <;> unfold Inert <;> decide
  intro c hc
  simp only [List.mem_append] at hc
  rcases hc with ((hc | hc) | hc) | hc
  · rcases hsign with rfl | rfl
    · cases hc
    · exact hsigns c (by simp_all)
  · exact isDigit_inert (hwhole.1.2 c hc)
  · rcases hfraction with rfl | ⟨digits, rfl, hdigits⟩
    · cases hc
    · rcases List.mem_cons.mp hc with rfl | hc
      · exact hsigns _ (by simp)
      · exact isDigit_inert (hdigits.2 c hc)
  · rcases hexponent with rfl | ⟨e, sign, digits, rfl, he, hs, hdigits⟩
    · cases hc
    · rcases List.mem_cons.mp hc with rfl | hc
      · exact hsigns _ (by rcases he with rfl | rfl <;> simp)
      · rcases List.mem_append.mp hc with hc | hc
        · exact hsigns c (by rcases hs with rfl | rfl | rfl <;> simp_all)
        · exact isDigit_inert (hdigits.2 c hc)

variable {text rest : List Char}

theorem Blank.nesting (h : Blank text rest) (n : Nesting) (hout : n.mode = .outside) :
    Json.nesting n text = Json.nesting n rest := by
  induction h with
  | nil => rfl
  | cons hc _ ih =>
      rw [← ih]
      exact congrArg (Json.nesting · _) (nesting_inert n hout [_] (by simpa using hc.inert))

theorem hex_inside (n : Nesting) (hin : n.mode = .inside) (digits : List Char)
    (h : ∀ c ∈ digits, IsHex c) : nesting n digits = n := by
  induction digits with
  | nil => rfl
  | cons c rest ih =>
      have hc : n.step c = n := by
        have hne : c ≠ '"' ∧ c ≠ '\\' := by
          have hhex := h c List.mem_cons_self
          constructor <;> rintro rfl <;> revert hhex <;> unfold IsHex <;> decide
        simp [Nesting.step, hin, hne.1, hne.2]
      have hrest := ih fun c' hmem => h c' (List.mem_cons_of_mem c hmem)
      exact (congrArg (nesting · rest) hc).trans hrest

theorem Chars.nesting {chars : List Char} (h : Chars text chars rest) (n : Nesting)
    (hout : n.mode = .outside) :
    Json.nesting { n with mode := .inside } text = Json.nesting n rest := by
  induction h with
  | close rest =>
      simp only [Json.nesting, List.foldl_cons, Nesting.step, if_true]
      rw [← hout]
  | plain hc _ ih =>
      rw [← ih]
      simp only [Json.nesting, List.foldl_cons, Nesting.step, hc.1, hc.2.1, if_false]
  | escape _ _ ih =>
      rw [← ih]
      simp [Json.nesting, Nesting.step]
  | @unicode digits text chars rest _ hhex _ ih =>
      have hescape : Json.nesting { n with mode := .inside } ('\\' :: 'u' :: (digits ++ text)) =
          Json.nesting { n with mode := .inside } (digits ++ text) := rfl
      rw [hescape, nesting_append, hex_inside _ rfl _ hhex, ih]

-- What is derived leaves as many brackets and braces open as it found.
theorem Derives.nesting {form : Form} (h : Derives form text rest) (n : Nesting)
    (hout : n.mode = .outside) : Json.nesting n text = Json.nesting n rest := by
  induction h generalizing n with
  | null rest =>
      rw [nesting_append, nesting_inert n hout _ (by simp [Inert])]
  | true rest =>
      rw [nesting_append, nesting_inert n hout _ (by simp [Inert])]
  | false rest =>
      rw [nesting_append, nesting_inert n hout _ (by simp [Inert])]
  | number rest hnumber => rw [nesting_append, nesting_inert n hout _ hnumber.inert]
  | string hchars =>
      rw [← hchars.nesting n hout]
      simp [Json.nesting, Nesting.step, hout]
  | emptyArray hblank =>
      obtain ⟨brackets, braces, mode⟩ := n
      cases hout
      have h := hblank.nesting ⟨brackets + 1, braces, .outside⟩ rfl
      simpa [Json.nesting, Nesting.step] using h
  | array _ ih =>
      obtain ⟨brackets, braces, mode⟩ := n
      cases hout
      have h := ih ⟨brackets + 1, braces, .outside⟩ rfl
      simpa [Json.nesting, Nesting.step] using h
  | emptyObject hblank =>
      obtain ⟨brackets, braces, mode⟩ := n
      cases hout
      have h := hblank.nesting ⟨brackets, braces + 1, .outside⟩ rfl
      simpa [Json.nesting, Nesting.step] using h
  | object _ ih =>
      obtain ⟨brackets, braces, mode⟩ := n
      cases hout
      have h := ih ⟨brackets, braces + 1, .outside⟩ rfl
      simpa [Json.nesting, Nesting.step] using h
  | element hbefore _ hafter ih =>
      rw [hbefore.nesting n hout, ih n hout, hafter.nesting n hout]
  | lastElement _ ih => exact ih n hout
  | moreElements _ _ ih ih' =>
      rw [ih n hout, ← ih' n hout]
      simp [Json.nesting, Nesting.step, hout]
  | member hbefore hkey hafter _ ih =>
      rw [hbefore.nesting n hout, ← ih n hout]
      have h := hkey.nesting n hout
      rw [hafter.nesting n hout] at h
      simpa [Json.nesting, Nesting.step, hout] using h
  | lastMember _ ih => exact ih n hout
  | moreMembers _ _ ih ih' =>
      rw [ih n hout, ← ih' n hout]
      simp [Json.nesting, Nesting.step, hout]

end Nesting

end Json

end BroadView
