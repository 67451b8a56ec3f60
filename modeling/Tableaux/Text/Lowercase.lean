import Tableaux.Text.Letter

/-! # Lowercase text

Every character is replaced by its lowercase text. Only a capital sigma depends on what stands
around it: it ends a word if a cased letter stands in front of it and none behind it.
-/
namespace Tableaux.Text

def lowerChar (c : Char) : List Char :=
  if c = 'İ' then ['i', '\u0307']
  else match caseRuns.find? fun run =>
      run.first ≤ c.toNat && c.toNat ≤ run.last && (c.toNat - run.first) % run.stride == 0 with
    | some run => [Char.ofNat (c.toNat + run.shift).toNat]
    | none => [c]

def startsCased (text : List Char) : Bool :=
  match text.dropWhile fun c => inRanges ignorableRanges c.toNat with
  | [] => false
  | c :: _ => inRanges casedRanges c.toNat

/-- The lowercase text of what follows some characters, which are given last one first. -/
def lowerAfter (before : List Char) : List Char → List Char
  | [] => []
  | c :: rest =>
    (if c = 'Σ' then [if startsCased before && !startsCased rest then 'ς' else 'σ']
      else lowerChar c) ++ lowerAfter (c :: before) rest

def lowercase (text : List Char) : List Char := lowerAfter [] text

end Tableaux.Text
