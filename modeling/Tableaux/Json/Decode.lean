import Tableaux.Json.Number

/-! # Decoding JSON

What is expected is taken out of a value; anything else is refused. A record is an object with
named fields, of which others are ignored, or an array of its fields in order.
-/
namespace Tableaux.Json

def CodePoint.char? : CodePoint → Option Char
  | .scalar c => some c
  | .surrogate _ => none

def text? (s : List CodePoint) : Option String := (s.mapM CodePoint.char?).map String.ofList

def Value.string? : Value → Option String
  | .string s => text? s
  | _ => none

def Value.bool? : Value → Option Bool
  | .bool b => some b
  | _ => none

def Value.float? : Value → Option Float
  | .number n => Json.float? n
  | _ => none

def Value.index? : Value → Option UInt64
  | .number n => (Json.index? n).map UInt64.ofNat
  | _ => none

def Value.signed? : Value → Option Int64
  | .number n => (Json.signed? n).map Int64.ofInt
  | _ => none

def Value.list? {α : Type} (f : Value → Option α) : Value → Option (List α)
  | .array items => items.mapM f
  | _ => none

/-- The value that an object has for a name, if any. It must not have two. -/
def field? (fields : List (String × Value)) (name : String) : Option (Option Value) :=
  match fields.filter (·.1 = name) with
  | [] => some none
  | [(_, value)] => some (some value)
  | _ => none

/-- The fields of a record with the given names, as far as they are present. The keys of an object
must be texts, and an array must not be longer than the names. -/
def Value.fields? (names : List String) : Value → Option (List (Option Value))
  | .object fields => do
    let named ← fields.mapM fun (key, value) => (text? key).map (·, value)
    names.mapM (field? named)
  | .array items =>
    if items.length ≤ names.length then
      some (items.map some ++ List.replicate (names.length - items.length) none)
    else none
  | _ => none

def optional? {α : Type} (f : Value → Option α) : Option Value → Option (Option α)
  | none => some none
  | some .null => some none
  | some value => (f value).map some

end Tableaux.Json
