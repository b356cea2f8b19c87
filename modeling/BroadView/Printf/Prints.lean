import BroadView.Json.Writer

-- Templates that print the members of an object.
namespace BroadView.Printf

-- A directive has two characters at least, which are not printed.
theorem format_length_add (template : List Char) (args : List Arg)
    (h : directives template ≤ args.length) :
    (format template args).length + 2 * directives template ≤
      template.length + (args.map fun arg => arg.text.length).sum := by
  fun_induction directives template generalizing args with
  | case1 rest ih | case2 rest ih | case3 rest ih | case4 rest ih =>
      cases args with
      | nil => cases h
      | cons arg args =>
          have hrest := ih args (Nat.le_of_succ_le_succ h)
          rw [format]
          simp only [List.length_append, List.length_cons, List.map_cons, List.sum_cons]
          omega
  | case5 c rest _ _ _ _ ih =>
      have hrest := ih args h
      have hcopied : format (c :: rest) args = c :: format rest args := by
        rw [format] <;> grind
      rw [hcopied, List.length_cons, List.length_cons]
      omega
  | case6 => simp [format]

section Prints

-- The template prints the text from these arguments, whatever follows both.
def Prints (template : List Char) (args : List Arg) (text : List Char) : Prop :=
  ∀ rest more, format (template ++ rest) (args ++ more) = text ++ format rest more

variable {template template' text text' : List Char} {args args' : List Arg}

theorem Prints.format_eq (h : Prints template args text) : format template args = text := by
  have hwhole := h [] []
  rwa [List.append_nil, List.append_nil, format, List.append_nil] at hwhole

theorem prints_text (h : '%' ∉ text) : Prints text [] text :=
  fun rest more => format_copies h rest more

theorem prints_int (value : Int) : Prints "%d".toList [.int value] (showInt value) :=
  fun rest more => format_int value rest more

theorem prints_str (value : List Char) : Prints "%s".toList [.str value] value :=
  fun rest more => format_str value rest more

theorem Prints.append (h : Prints template args text) (h' : Prints template' args' text') :
    Prints (template ++ template') (args ++ args') (text ++ text') := by
  intro rest more
  rw [List.append_assoc, List.append_assoc, h, h', List.append_assoc]

-- A value between two texts, such as quotes.
theorem Prints.between (h : Prints template args text) (before after : List Char)
    (hbefore : '%' ∉ before) (hafter : '%' ∉ after) :
    Prints (before ++ template ++ after) args (before ++ text ++ after) := by
  have hwhole := ((prints_text hbefore).append h).append (prints_text hafter)
  rwa [List.nil_append, List.append_nil] at hwhole

theorem prints_intercalate {sep : List Char} (hsep : '%' ∉ sep)
    {pieces : List (List Char × List Arg × List Char)}
    (h : ∀ piece ∈ pieces, Prints piece.1 piece.2.1 piece.2.2) :
    Prints (List.intercalate sep (pieces.map fun piece => piece.1))
      (pieces.flatMap fun piece => piece.2.1)
      (List.intercalate sep (pieces.map fun piece => piece.2.2)) := by
  induction pieces with
  | nil => exact prints_text List.not_mem_nil
  | cons piece pieces ih =>
      obtain ⟨hpiece, hpieces⟩ := List.forall_mem_cons.mp h
      cases pieces with
      | nil => simpa using hpiece
      | cons next pieces =>
          have hmore := ((prints_text hsep).append (ih hpieces))
          have hall := hpiece.append hmore
          simpa [List.intercalate_cons_cons] using hall

end Prints

end BroadView.Printf

namespace BroadView.Json

open Printf

-- A member as a template lays it out: the blanks before its key, after its colon
-- and after its value, and what prints the value.
structure Slot where
  indent : Nat
  key : List Char
  gap : Nat
  after : Nat
  template : List Char
  args : List Arg
  text : List Char
  json : Json

namespace Slot

def opening (slot : Slot) : List Char :=
  List.replicate slot.indent ' ' ++ '"' :: slot.key ++ "\":".toList ++ List.replicate slot.gap ' '

def closing (slot : Slot) : List Char := List.replicate slot.after ' '

def layout (slot : Slot) : List Char := slot.opening ++ slot.template ++ slot.closing

def printed (slot : Slot) : List Char := slot.opening ++ slot.text ++ slot.closing

def member (slot : Slot) : List Char × Json := (slot.key, slot.json)

structure Sound (slot : Slot) : Prop where
  key : Plain slot.key
  copied : '%' ∉ slot.key
  prints : Prints slot.template slot.args slot.text
  writes : Writes (.value slot.json) slot.text

theorem Sound.prints_layout {slot : Slot} (h : slot.Sound) :
    Prints slot.layout slot.args slot.printed := by
  refine h.prints.between _ _ ?_ ?_
  · simp [opening, h.copied, List.mem_replicate]
  · simp [closing, List.mem_replicate]

theorem Sound.writes_member {slot : Slot} (h : slot.Sound) :
    Writes (.member slot.key slot.json) slot.printed := by
  have hmember := (h.writes.element (blanks_spaces slot.gap) (blanks_spaces slot.after)).member
    (blanks_spaces slot.indent) h.key (blanks_spaces 0)
  simpa [printed, opening, closing] using hmember

end Slot

section Objects

variable (slots : List Slot)

def objectLayout : List Char :=
  ['{'] ++ List.intercalate [','] (slots.map Slot.layout) ++ ['}']

def objectArgs : List Arg := slots.flatMap Slot.args

def objectText : List Char :=
  ['{'] ++ List.intercalate [','] (slots.map Slot.printed) ++ ['}']

def objectJson : Json := .object (slots.map Slot.member)

variable {slots}

theorem prints_object (h : ∀ slot ∈ slots, slot.Sound) :
    Prints (objectLayout slots) (objectArgs slots) (objectText slots) := by
  have hpieces := @prints_intercalate [','] (by simp)
    (slots.map fun slot => (slot.layout, slot.args, slot.printed)) (by
      rw [List.forall_mem_map]
      exact fun slot hmem => (h slot hmem).prints_layout)
  rw [List.map_map, List.map_map, List.flatMap_map] at hpieces
  exact hpieces.between ['{'] ['}'] (by simp) (by simp)

theorem writes_object (h : ∀ slot ∈ slots, slot.Sound) (hne : slots ≠ []) :
    Writes (.value (objectJson slots)) (objectText slots) := by
  have hmembers : List.Forall₂ (fun field text => Writes (.member field.1 field.2) text)
      (slots.map Slot.member) (slots.map Slot.printed) := by
    rw [List.forall₂_map_left_iff, List.forall₂_map_right_iff, List.forall₂_same]
    exact fun slot hmem => (h slot hmem).writes_member
  have hobject := (writes_members hmembers (by simpa using hne)).object
  simpa [objectText, objectJson] using hobject

end Objects

section Slots

variable (indent gap after : Nat) (key : String)

def textSlot (value : String) : Slot :=
  { indent, gap, after, key := key.toList
    template := '"' :: value.toList ++ ['"']
    args := []
    text := '"' :: value.toList ++ ['"']
    json := .string value.toList }

def strSlot (value : List Char) : Slot :=
  { indent, gap, after, key := key.toList
    template := "\"%s\"".toList
    args := [.str value]
    text := '"' :: value ++ ['"']
    json := .string value }

def intSlot (value : Int) : Slot :=
  { indent, gap, after, key := key.toList
    template := "%d".toList
    args := [.int value]
    text := showInt value
    json := .number (showInt value) }

-- A number that stands between quotes.
def quotedSlot (value : Int) : Slot :=
  { indent, gap, after, key := key.toList
    template := "\"%d\"".toList
    args := [.int value]
    text := '"' :: showInt value ++ ['"']
    json := .string (showInt value) }

-- The elements of an array, that are printed before.
def listSlot (body : List Char) (items : List Json) : Slot :=
  { indent, gap, after, key := key.toList
    template := "[%s]".toList
    args := [.str body]
    text := '[' :: body ++ [']']
    json := .array items }

def objectSlot (slots : List Slot) : Slot :=
  { indent, gap, after, key := key.toList
    template := objectLayout slots
    args := objectArgs slots
    text := objectText slots
    json := objectJson slots }

def slotLayout (template : List Char) : List Char :=
  List.replicate indent ' ' ++ '"' :: key.toList ++ "\":".toList ++ List.replicate gap ' ' ++
    template ++ List.replicate after ' '

-- What is printed does not show in the template.
theorem textSlot_layout (value : String) : (textSlot indent gap after key value).layout =
    slotLayout indent gap after key ('"' :: value.toList ++ ['"']) := rfl

theorem strSlot_layout (value : List Char) : (strSlot indent gap after key value).layout =
    slotLayout indent gap after key "\"%s\"".toList := rfl

theorem intSlot_layout (value : Int) : (intSlot indent gap after key value).layout =
    slotLayout indent gap after key "%d".toList := rfl

theorem quotedSlot_layout (value : Int) : (quotedSlot indent gap after key value).layout =
    slotLayout indent gap after key "\"%d\"".toList := rfl

theorem listSlot_layout (body : List Char) (items : List Json) :
    (listSlot indent gap after key body items).layout =
      slotLayout indent gap after key "[%s]".toList := rfl

theorem objectSlot_layout (slots : List Slot) : (objectSlot indent gap after key slots).layout =
    slotLayout indent gap after key (objectLayout slots) := rfl

variable {indent gap after key} (hkey : Plain key.toList) (hcopied : '%' ∉ key.toList)
include hkey hcopied

theorem textSlot_sound {value : String} (hvalue : Plain value.toList)
    (hplain : '%' ∉ value.toList) : (textSlot indent gap after key value).Sound :=
  ⟨hkey, hcopied, prints_text (by simp [textSlot, hplain]), writes_string hvalue⟩

theorem strSlot_sound {value : List Char} (hvalue : Plain value) :
    (strSlot indent gap after key value).Sound := by
  refine ⟨hkey, hcopied, ?_, writes_string hvalue⟩
  exact (prints_str value).between ['"'] ['"'] (by simp) (by simp)

theorem intSlot_sound (value : Int) : (intSlot indent gap after key value).Sound :=
  ⟨hkey, hcopied, prints_int value, writes_number (isNumber_showInt value)⟩

theorem quotedSlot_sound (value : Int) : (quotedSlot indent gap after key value).Sound := by
  refine ⟨hkey, hcopied, ?_, writes_string (plain_showInt value)⟩
  exact (prints_int value).between ['"'] ['"'] (by simp) (by simp)

theorem listSlot_sound {body : List Char} {items : List Json}
    (hitems : Writes (.value (.array items)) ('[' :: body ++ [']'])) :
    (listSlot indent gap after key body items).Sound := by
  refine ⟨hkey, hcopied, ?_, hitems⟩
  exact (prints_str body).between ['['] [']'] (by simp) (by simp)

theorem objectSlot_sound {slots : List Slot} (hslots : ∀ slot ∈ slots, slot.Sound)
    (hne : slots ≠ []) : (objectSlot indent gap after key slots).Sound :=
  ⟨hkey, hcopied, prints_object hslots, writes_object hslots hne⟩

end Slots

end BroadView.Json
