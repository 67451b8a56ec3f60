import Tableaux.Json.Token

/-! # Writing JSON

A value is written compactly, without blanks, or with one element a line, indented by two blanks.
-/
namespace Tableaux.Json

namespace Value

mutual
def tokens : Value → List Token
  | .null => [.null]
  | .bool b => [.bool b]
  | .number n => [.number n]
  | .string s => [.string s]
  | .array [] => [.arrayStart, .arrayEnd]
  | .array (item :: items) => .arrayStart :: item.tokens ++ itemTokens items ++ [.arrayEnd]
  | .object [] => [.objectStart, .objectEnd]
  | .object ((key, value) :: fields) =>
    .objectStart :: .string key :: .colon :: value.tokens ++ fieldTokens fields ++ [.objectEnd]

def itemTokens : List Value → List Token
  | [] => []
  | item :: items => .comma :: item.tokens ++ itemTokens items

def fieldTokens : List (List CodePoint × Value) → List Token
  | [] => []
  | (key, value) :: fields =>
    .comma :: .string key :: .colon :: value.tokens ++ fieldTokens fields
end

def compact (v : Value) : String := String.ofList (v.tokens.flatMap Token.text)

def newLine (depth : Nat) : List Char := '\n' :: List.replicate (2 * depth) ' '

mutual
/-- The text of a value whose elements stand on lines of their own. -/
def indented (depth : Nat) : Value → List Char
  | .array (item :: items) =>
    '[' :: newLine (depth + 1) ++ item.indented (depth + 1) ++ indentedItems (depth + 1) items
      ++ newLine depth ++ [']']
  | .object ((key, value) :: fields) =>
    '\x7b' :: newLine (depth + 1) ++ (Token.string key).text ++ [':', ' ']
      ++ value.indented (depth + 1) ++ indentedFields (depth + 1) fields
      ++ newLine depth ++ ['\x7d']
  | v => v.tokens.flatMap Token.text

def indentedItems (depth : Nat) : List Value → List Char
  | [] => []
  | item :: items => ',' :: newLine depth ++ item.indented depth ++ indentedItems depth items

def indentedFields (depth : Nat) : List (List CodePoint × Value) → List Char
  | [] => []
  | (key, value) :: fields =>
    ',' :: newLine depth ++ (Token.string key).text ++ [':', ' '] ++ value.indented depth
      ++ indentedFields depth fields
end

def pretty (v : Value) : String := String.ofList (v.indented 0)

end Value
end Tableaux.Json
