import BroadView.CJson.Meaning

-- What a client takes from a text that it has parsed.
namespace BroadView.CJson

open Json Printf

section Read

variable {Double : Type}

def readNumber : Item Double → Option Double
  | .number valuedouble _ => some valuedouble
  | _ => none

def readInt : Item Double → Option Int
  | .number _ valueint => some valueint.toInt
  | _ => none

def readString : Item Double → Option (List Char)
  | .string valuestring => some valuestring
  | _ => none

def readItems : Item Double → List (Item Double)
  | .array items => items
  | _ => []

def readMember (object : Item Double) (name : String) : Option (Item Double) :=
  cJSON_GetObjectItem object name.toList

def readMemberItems (object : Item Double) (name : String) : List (Item Double) :=
  (readMember object name).elim [] readItems

end Read

section Decoded

variable {arith : Arithmetic} {whole : Nat → arith.Double}

theorem decode_items_eq (items : List Json) :
    decode_items arith items = items.map (decode arith) := by
  induction items with
  | nil => rfl
  | cons json items ih => rw [decode_items, ih, List.map_cons]

theorem member_object {fields : List (List Char × Json)} {name : String} {json : Json}
    (hlookup : lookup fields name.toList = some json) :
    readMember (decode arith (.object fields)) name = some (decode arith json) := by
  rw [readMember, getObjectItem_decode, hlookup, Option.map_some]

theorem string_decode {text : List Char} (h : Plain text) :
    readString (decode arith (.string text)) = some text := by
  rw [decode, readString, unescaped_denotes (denotes_plain h)]

theorem items_decode (items : List Json) :
    readItems (decode arith (.array items)) = items.map (decode arith) := by
  rw [decode, readItems, decode_items_eq]

-- An int that is printed in decimal is the int that is read.
theorem int_decode (hexact : Exact arith whole) {value : Int} (hlow : -2147483648 ≤ value)
    (hhigh : value ≤ 2147483647) :
    readInt (decode arith (.number (showInt value))) = some value := by
  have hint : (Int32.ofInt value).toInt = value :=
    Int32.toInt_ofInt_of_le (by omega) (by omega)
  obtain ⟨valuedouble, hparse⟩ := parse_number_showInt hexact (Int32.ofInt value)
  have hwhole := hparse [] stops_nil
  rw [List.append_nil, hint] at hwhole
  rw [decode, hwhole, readInt, hint]

end Decoded

end BroadView.CJson
