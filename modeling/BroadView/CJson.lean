import Mathlib.Algebra.GroupWithZero.Nat
import Mathlib.Data.List.Basic
import Mathlib.Data.List.Infix

-- The JSON parser that the agent is built with. A text is what stands before its
-- terminator, and a pointer into it is what is left of it.
namespace BroadView.CJson

-- The operations on double that a number is computed with.
structure Arithmetic where
  Double : Type
  zero : Double
  digit (n : Double) (value : Nat) : Double
  scaled (negative : Bool) (n : Double) (exponent : Int) : Double
  toInt : Double → Int32

-- What an item has by its type. A member of an object comes with its name.
inductive Item (Double : Type) where
  | null
  | false
  | true
  | number (valuedouble : Double) (valueint : Int32)
  | string (valuestring : List Char)
  | array (items : List (Item Double))
  | object (members : List (List Char × Item Double))

-- Why there is no item. An overrun is an access behind the terminator of the text
-- or behind the end of an output array.
inductive Stop where
  | malformed
  | overrun
  | depth
  deriving DecidableEq, Repr

def skip (text : List Char) : List Char := text.dropWhile fun c => c.toNat ≤ 32

section Number

def take_sign : List Char → Bool × List Char
  | [] => (false, [])
  | c :: num => if c = '-' then (true, num) else (false, c :: num)

def skip_zero : List Char → List Char
  | [] => []
  | c :: num => if c = '0' then num else c :: num

def take_digits (num : List Char) : List Char × List Char :=
  (num.takeWhile Char.isDigit, num.dropWhile Char.isDigit)

-- Behind a zero that was skipped, another zero ends the number.
def take_whole : List Char → List Char × List Char
  | [] => ([], [])
  | c :: num => if c = '0' then ([], c :: num) else take_digits (c :: num)

def take_fraction : List Char → List Char × List Char
  | [] => ([], [])
  | c :: num =>
      if c = '.' ∧ (take_digits num).1 ≠ [] then take_digits num else ([], c :: num)

def take_exponent_sign : List Char → Int32 × List Char
  | [] => (1, [])
  | c :: num => if c = '+' then (1, num) else if c = '-' then (-1, num) else (1, c :: num)

-- The digits are summed up in an int.
def take_exponent : List Char → Int32 × List Char
  | [] => (0, [])
  | c :: num =>
      if c = 'e' ∨ c = 'E' then
        let (signsubscale, num) := take_exponent_sign num
        let (digits, num) := take_digits num
        let subscale := digits.foldl (fun subscale c =>
          subscale * 10 + Int32.ofNat (c.toNat - '0'.toNat)) 0
        (subscale * signsubscale, num)
      else (0, c :: num)

variable (arith : Arithmetic)

def parse_number (num : List Char) : Item arith.Double × List Char :=
  let (negative, num) := take_sign num
  let (whole, num) := take_whole (skip_zero num)
  let (fraction, num) := take_fraction num
  let (exponent, num) := take_exponent num
  let n := (whole ++ fraction).foldl (fun n c => arith.digit n (c.toNat - '0'.toNat)) arith.zero
  let valuedouble := arith.scaled negative n (exponent.toInt - fraction.length)
  (.number valuedouble (arith.toInt valuedouble), num)

end Number

section Strings

def hexDigit (c : Char) : Option Nat :=
  if '0' ≤ c ∧ c ≤ '9' then some (c.toNat - '0'.toNat)
  else if 'A' ≤ c ∧ c ≤ 'F' then some (10 + (c.toNat - 'A'.toNat))
  else if 'a' ≤ c ∧ c ≤ 'f' then some (10 + (c.toNat - 'a'.toNat))
  else none

-- Zero unless all four are digits.
def parse_hex4 (a b c d : Char) : Nat :=
  match hexDigit a, hexDigit b, hexDigit c, hexDigit d with
  | some a, some b, some c, some d => ((a * 16 + b) * 16 + c) * 16 + d
  | _, _, _, _ => 0

def utf8 (uc : Nat) : List Char :=
  let tail (shift : Nat) : Char := .ofNat (0x80 + uc / 2 ^ shift % 0x40)
  if uc < 0x80 then [.ofNat uc]
  else if uc < 0x800 then [.ofNat (0xC0 + uc / 2 ^ 6), tail 0]
  else if uc < 0x10000 then [.ofNat (0xE0 + uc / 2 ^ 12), tail 6, tail 0]
  else [.ofNat (0xF0 + uc / 2 ^ 18), tail 12, tail 6, tail 0]

def escaped (c : Char) : Char :=
  if c = 'b' then '\x08' else if c = 'f' then '\x0c' else if c = 'n' then '\n'
  else if c = 'r' then '\r' else if c = 't' then '\t' else c

def isUnusable (uc : Nat) : Bool := (0xDC00 ≤ uc && uc ≤ 0xDFFF) || uc = 0

def isHigh (uc : Nat) : Bool := 0xD800 ≤ uc && uc ≤ 0xDBFF

-- The second half of a pair, or nothing.
def pair (uc uc2 : Nat) : List Char :=
  if uc2 < 0xDC00 ∨ 0xDFFF < uc2 then []
  else utf8 (0x10000 + (uc % 0x400 * 0x400 + uc2 % 0x400))

def emit (written : List Char) : List Char × List Char → List Char × List Char
  | (out, rest) => (written ++ out, rest)

-- The first loop: how many bytes the string takes at most.
def scan_length : List Char → Option Nat
  | [] => some 0
  | c :: rest =>
      if c = '"' then some 0
      else if c = '\\' then
        match rest with
        | [] => none
        | _ :: rest => (scan_length rest).map (· + 1)
      else (scan_length rest).map (· + 1)

-- The second loop. Four characters are skipped behind a u whatever they are, six
-- more behind the first half of a pair. The terminator ends a string as a quote
-- does.
def unescape : List Char → Option (List Char × List Char)
  | [] => some ([], [])
  | c :: rest =>
      if c = '"' then some ([], rest)
      else if c = '\\' then
        match rest with
        | [] => none
        | e :: rest =>
            if e = 'u' then
              match rest with
              | a :: b :: c :: d :: rest =>
                  if isUnusable (parse_hex4 a b c d) then unescape rest
                  else if isHigh (parse_hex4 a b c d) then
                    if ['\\', 'u'] <+: rest then
                      match rest with
                      | _ :: _ :: a' :: b' :: c' :: d' :: rest =>
                          (unescape rest).map
                            (emit (pair (parse_hex4 a b c d) (parse_hex4 a' b' c' d')))
                      | _ => none
                    else unescape rest
                  else (unescape rest).map (emit (utf8 (parse_hex4 a b c d)))
              | _ => none
            else (unescape rest).map (emit [escaped e])
      else (unescape rest).map (emit [c])

def parse_string : List Char → Except Stop (List Char × List Char)
  | [] => .error .malformed
  | c :: text =>
      if c = '"' then
        match scan_length text, unescape text with
        | some len, some (out, rest) =>
            if len < out.length then .error .overrun else .ok (out, rest)
        | _, _ => .error .overrun
      else .error .malformed

end Strings

section Values

variable (arith : Arithmetic)

mutual

-- The calls nest as deep as the text does; fuel bounds them.
def parse_value : Nat → List Char → Except Stop (Item arith.Double × List Char)
  | 0, _ => .error .depth
  | fuel + 1, value =>
      if "null".toList <+: value then .ok (.null, value.drop 4)
      else if "false".toList <+: value then .ok (.false, value.drop 5)
      else if "true".toList <+: value then .ok (.true, value.drop 4)
      else
        match value with
        | [] => .error .malformed
        | c :: rest =>
            if c = '"' then do
              let (valuestring, rest) ← parse_string (c :: rest)
              return (.string valuestring, rest)
            else if c = '-' ∨ c.isDigit = true then .ok (parse_number arith (c :: rest))
            else if c = '[' then parse_array fuel rest
            else if c = '{' then parse_object fuel rest
            else .error .malformed

-- Behind the opening bracket.
def parse_array : Nat → List Char → Except Stop (Item arith.Double × List Char)
  | 0, _ => .error .depth
  | fuel + 1, value =>
      match skip value with
      | [] => parse_items fuel []
      | c :: rest => if c = ']' then .ok (.array [], rest) else parse_items fuel (c :: rest)

def parse_items : Nat → List Char → Except Stop (Item arith.Double × List Char)
  | 0, _ => .error .depth
  | fuel + 1, value => do
      let (child, value) ← parse_value fuel value
      let (items, value) ← parse_more_items fuel (skip value)
      return (.array (child :: items), value)

def parse_more_items : Nat → List Char → Except Stop (List (Item arith.Double) × List Char)
  | 0, _ => .error .depth
  | _ + 1, [] => .error .malformed
  | fuel + 1, c :: rest =>
      if c = ',' then do
        let (child, value) ← parse_value fuel (skip rest)
        let (items, value) ← parse_more_items fuel (skip value)
        return (child :: items, value)
      else if c = ']' then .ok ([], rest)
      else .error .malformed

-- Behind the opening brace.
def parse_object : Nat → List Char → Except Stop (Item arith.Double × List Char)
  | 0, _ => .error .depth
  | fuel + 1, value =>
      match skip value with
      | [] => .error .malformed
      | c :: rest =>
          if c = '}' then .ok (.object [], rest)
          else do
            let (child, value) ← parse_member fuel (c :: rest)
            let (members, value) ← parse_more_members fuel (skip value)
            return (.object (child :: members), value)

-- A name, a colon and a value.
def parse_member : Nat → List Char → Except Stop ((List Char × Item arith.Double) × List Char)
  | 0, _ => .error .depth
  | fuel + 1, value => do
      let (name, value) ← parse_string value
      match skip value with
      | [] => .error .malformed
      | c :: rest =>
          if c = ':' then do
            let (child, value) ← parse_value fuel (skip rest)
            return ((name, child), value)
          else .error .malformed

def parse_more_members :
    Nat → List Char → Except Stop (List (List Char × Item arith.Double) × List Char)
  | 0, _ => .error .depth
  | _ + 1, [] => .error .malformed
  | fuel + 1, c :: rest =>
      if c = ',' then do
        let (child, value) ← parse_member fuel (skip rest)
        let (members, value) ← parse_more_members fuel (skip value)
        return (child :: members, value)
      else if c = '}' then .ok ([], rest)
      else .error .malformed

end

def cJSON_ParseWithOpts (require_null_terminated : Bool) (text : List Char) :
    Except Stop (Item arith.Double × List Char) := do
  let (item, value) ← parse_value arith (3 * text.length + 1) (skip text)
  if require_null_terminated then
    if skip value ≠ [] then .error .malformed else return (item, skip value)
  else return (item, value)

def cJSON_Parse (text : List Char) : Except Stop (Item arith.Double) := do
  let (item, _) ← cJSON_ParseWithOpts arith false text
  return item

end Values

section Lookup

-- Zero when the names differ in case only.
def cJSON_strcasecmp : List Char → List Char → Int
  | [], [] => 0
  | [], d :: _ => - d.toLower.toNat
  | c :: _, [] => c.toLower.toNat
  | c :: s1, d :: s2 =>
      if c.toLower = d.toLower then cJSON_strcasecmp s1 s2
      else c.toLower.toNat - d.toLower.toNat

-- Only the children of an object have names.
def cJSON_GetObjectItem {Double : Type} (object : Item Double) (string : List Char) :
    Option (Item Double) :=
  match object with
  | .object members =>
      (members.find? fun child => cJSON_strcasecmp child.1 string = 0).map (·.2)
  | _ => none

end Lookup

end BroadView.CJson
