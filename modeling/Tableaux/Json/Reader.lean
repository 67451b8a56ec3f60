import Tableaux.Json.Token

/-! # Reading JSON

Tokens are put together into one value. What is open stands on a stack, so that values may be
nested to any depth.
-/
namespace Tableaux.Json

/-- A container that is still open, with its elements so far, last one first. -/
inductive Frame where
  | array (items : List Value)
  | object (fields : List (List CodePoint × Value)) (key : List CodePoint)
deriving Repr

inductive Expected where
  | value
  | itemOrEnd
  | keyOrEnd
  | key (fields : List (List CodePoint × Value))
  | colon (fields : List (List CodePoint × Value)) (key : List CodePoint)
  | afterValue (v : Value)
deriving Repr

def Token.scalar? : Token → Option Value
  | .null => some .null
  | .bool b => some (.bool b)
  | .number n => some (.number n)
  | .string s => some (.string s)
  | _ => none

def openValue (stack : List Frame) (t : Token) : Option (Expected × List Frame) :=
  match t with
  | .arrayStart => some (.itemOrEnd, stack)
  | .objectStart => some (.keyOrEnd, stack)
  | t => t.scalar?.map fun v => (.afterValue v, stack)

def closeValue (v : Value) (stack : List Frame) (t : Token) : Option (Expected × List Frame) :=
  match stack, t with
  | .array items :: below, .comma => some (.value, .array (v :: items) :: below)
  | .array items :: below, .arrayEnd => some (.afterValue (.array (v :: items).reverse), below)
  | .object fields key :: below, .comma => some (.key ((key, v) :: fields), below)
  | .object fields key :: below, .objectEnd =>
    some (.afterValue (.object ((key, v) :: fields).reverse), below)
  | _, _ => none

def step (expected : Expected) (stack : List Frame) (t : Token) :
    Option (Expected × List Frame) :=
  match expected, t with
  | .value, t => openValue stack t
  | .itemOrEnd, .arrayEnd => some (.afterValue (.array []), stack)
  | .itemOrEnd, t => openValue (.array [] :: stack) t
  | .keyOrEnd, .objectEnd => some (.afterValue (.object []), stack)
  | .keyOrEnd, .string key => some (.colon [] key, stack)
  | .key fields, .string key => some (.colon fields key, stack)
  | .colon fields key, .colon => some (.value, .object fields key :: stack)
  | .afterValue v, t => closeValue v stack t
  | _, _ => none

def ofTokens? (expected : Expected) (stack : List Frame) : List Token → Option Value
  | [] =>
    match expected, stack with
    | .afterValue v, [] => some v
    | _, _ => none
  | t :: rest =>
    match step expected stack t with
    | some (expected, stack) => ofTokens? expected stack rest
    | none => none

def ofText? (text : String) : Option Value :=
  (tokens? text.toList).bind (ofTokens? .value [])

end Tableaux.Json
