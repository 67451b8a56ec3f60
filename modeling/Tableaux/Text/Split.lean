/-! # Cutting texts

A text is cut at every occurrence of a character, or at the first one only.
-/
namespace Tableaux.Text

/-- The parts of a text between the occurrences of a separator. There is one more than there are
separators. -/
def pieces (separator : Char) : List Char → List (List Char)
  | [] => [[]]
  | c :: rest =>
    if c = separator then [] :: pieces separator rest
    else match pieces separator rest with
      | [] => [[c]]
      | piece :: others => (c :: piece) :: others

def cut? (separator : Char) (text : List Char) : Option (List Char × List Char) :=
  match text.dropWhile (· != separator) with
  | [] => none
  | _ :: behind => some (text.takeWhile (· != separator), behind)

def join (separator : List Char) : List (List Char) → List Char
  | [] => []
  | [part] => part
  | part :: others => part ++ separator ++ join separator others

theorem pieces_ne_nil (separator : Char) (text : List Char) : pieces separator text ≠ [] := by
  cases text with
  | nil => simp [pieces]
  | cons c rest => grind [pieces]

end Tableaux.Text
