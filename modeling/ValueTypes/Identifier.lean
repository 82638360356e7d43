/-
  Registry keys derived from the names of classes.

  `Billing::InvoiceLine` becomes `billing.invoice_line`.  A name is cut at its first `<`, the rest
  into segments at `::` and `/`, and each segment into words by two passes: the first parts the
  last capital of a run of capitals and digits from the run when a small letter follows
  (`HTTPServer`), the second parts a capital from the small letter or digit before it.  Words are
  joined by underscores and segments by dots.
-/
import ValueTypes.Text.Digit
import ValueTypes.Text.Lowercase

namespace ValueTypes.Identifier

def isCapital (c : Char) : Bool := decide ('A' ≤ c) && decide (c ≤ 'Z')

def isSmall (c : Char) : Bool := decide ('a' ≤ c) && decide (c ≤ 'z')

/-- The characters of an acronym: capitals, and digits of any script. -/
def inAcronym (c : Char) : Bool := isCapital c || Text.isDecimalDigit c

/-! ## Words -/

/-- Parts the last capital of a run from the characters before it when a small letter follows the
    run.  `run` is the run without its last character `last`, and `rest` starts after it. -/
def partRun (run : List Char) (last : Char) (rest : List Char) : List Char :=
  match rest with
  | c :: _ => if run ≠ [] ∧ isCapital last ∧ isSmall c then run ++ ['_', last] else run ++ [last]
  | [] => run ++ [last]

/-- The first pass: every run of capitals and digits in its turn. -/
def partAcronyms : List Char → List Char
  | [] => []
  | c :: cs =>
    if inAcronym c then
      let run := c :: cs.takeWhile inAcronym
      let rest := cs.dropWhile inAcronym
      partRun run.dropLast (run.getLast (List.cons_ne_nil _ _)) rest ++ partAcronyms rest
    else c :: partAcronyms cs
termination_by cs => cs.length
decreasing_by
  · simp only [List.length_cons]
    have := (List.dropWhile_sublist inAcronym (l := cs)).length_le
    omega
  · simp

/-- The second pass: a capital after a small letter or a digit starts a word. -/
def partCapitals : List Char → List Char
  | x :: y :: cs =>
    if (isSmall x ∨ Text.isDecimalDigit x) ∧ isCapital y then x :: '_' :: y :: partCapitals cs
    else x :: partCapitals (y :: cs)
  | cs => cs

/-- The words of one segment joined by underscores, in lower case. -/
def underscoreChars (cs : List Char) : List Char :=
  Text.lower ((partCapitals (partAcronyms cs)).map fun c => if c = '-' then '_' else c)

def underscore (segment : String) : String := String.ofList (underscoreChars segment.toList)

/-! ## Segments -/

/-- Puts a character in front of the first piece. -/
def extend (c : Char) : List (List Char) → List (List Char)
  | [] => [[c]]
  | p :: ps => (c :: p) :: ps

/-- The pieces between the `::` of a text, taken from the left. -/
def cutColons : List Char → List (List Char)
  | [] => [[]]
  | ':' :: ':' :: cs => [] :: cutColons cs
  | c :: cs => extend c (cutColons cs)

/-- The pieces between the slashes of a text. -/
def cutSlashes : List Char → List (List Char)
  | [] => [[]]
  | c :: cs => if c = '/' then [] :: cutSlashes cs else extend c (cutSlashes cs)

/-- The segments of a class name, without the empty ones. -/
def segments (cs : List Char) : List (List Char) :=
  ((cutColons (cs.takeWhile (· ≠ '<'))).flatMap cutSlashes).filter (· ≠ [])

end Identifier

/-- The registry key of a class name. -/
def identifier (className : String) : String :=
  String.ofList
    (List.intercalate ['.'] ((Identifier.segments className.toList).map Identifier.underscoreChars))

end ValueTypes
