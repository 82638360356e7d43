/-
  Full lowercasing of a text.

  Every character has a lower case of its own, with two exceptions: the capital I with a dot
  becomes two characters, and a capital sigma takes its final form at the end of a word, that is
  after a cased letter and not before one, looking over the characters that case ignores.
-/
import ValueTypes.Text.CaseTable

namespace ValueTypes.Text

/-- Whether the run lists `c` as one of its capitals. -/
def CaseRun.covers (r : CaseRun) (c : Char) : Bool :=
  decide (r.first ≤ c.toNat) && decide (c.toNat ≤ r.last) &&
    decide ((c.toNat - r.first) % r.stride = 0)

/-- The lower case of a character on its own. -/
def lowerChar (c : Char) : List Char :=
  if c = 'İ' then ['i', '\u0307']
  else match caseRuns.find? (·.covers c) with
    | some r => [Char.ofNat ((c.toNat : Int) + r.shift).toNat]
    | none => [c]

/-- Whether the first character that case does not ignore is a cased letter. -/
def meetsCased (cs : List Char) : Bool :=
  match cs.dropWhile caseIgnorable.contains with
  | c :: _ => cased.contains c
  | [] => false

/-- The lower case of `cs`, where `before` holds the characters in front of it, the nearest
    first. -/
def lowerAfter (before : List Char) : List Char → List Char
  | [] => []
  | c :: cs =>
    (if c = 'Σ' then if meetsCased before && !meetsCased cs then ['ς'] else ['σ']
      else lowerChar c) ++ lowerAfter (c :: before) cs

def lower (cs : List Char) : List Char := lowerAfter [] cs

/-- The text in lower case. -/
def lowercase (s : String) : String := String.ofList (lower s.toList)

example : lowercase "ΑΣ ΟΔΥΣΣΕΥΣ İX" = "ας οδυσσευς i\u0307x" := by decide +kernel

end ValueTypes.Text
