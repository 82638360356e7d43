/-
  How well a short text fits a longer one, as a subsequence of its characters.

  The characters of the pattern must occur in the text in their order.  Every match scores; one at
  the start of a word scores more, and so does a match next to the one before it; each character
  left out between two matches costs a little.  `similarity` is the best score over all ways to
  place the pattern, found row by row: a row per character of the pattern, a column per character
  of the text.  A pattern in small letters only ignores case.

  Two rows take turns and are not cleared in between, so a row starts from the values that the row
  two before it left; this is part of what the score is.
-/

namespace ValueTypes.Similarity

/-- What a character is to the words of a text. -/
inductive CharClass where
  | start | hard | soft | digit | upper | other
  deriving DecidableEq

/-- The class of a character; punctuation parts words strongly or weakly, and NUL counts as the
    start of a text. -/
def classify (c : Char) : CharClass :=
  let n := c.toNat
  if n = 0 then .start
  else if c ∈ [' ', '/', '\\', '|', '(', ')', '[', ']', '{', '}'] then .hard
  else if ('0' ≤ c ∧ c ≤ '9') then .digit
  else if ('A' ≤ c ∧ c ≤ 'Z') then .upper
  else if (0x21 ≤ n ∧ n ≤ 0x27) ∨ (0x2A ≤ n ∧ n ≤ 0x2E) ∨ (0x3A ≤ n ∧ n ≤ 0x40) ∨
      (0x5E ≤ n ∧ n ≤ 0x60) ∨ n = 0x7E then .soft
  else .other

/-- What a match after a character of one class and at a character of another is worth. -/
def bonus (before here : CharClass) : Int :=
  match before, here with
  | .start, _ => 8
  | .hard, _ => 8
  | .soft, _ => 7
  | .other, .upper => 6
  | .digit, .upper => 6
  | _, _ => 0

/-- The bonus of every character of a text; the first one counts twice. -/
def bonuses (cs : List Char) : List Int :=
  match List.zipWith bonus (.start :: cs.map classify) (cs.map classify) with
  | [] => []
  | b :: bs => 2 * b :: bs

/-- Whether a character of the text is one of the pattern. -/
def fits (exact : Bool) (c p : Char) : Bool :=
  if exact then c == p else c.toLower == p.toLower

/-- For each character of the pattern, the leftmost place that lets the ones before it fit; `i` is
    the place of the first character of the text. -/
def places (exact : Bool) (i : Nat) : List Char → List Char → Option (List Nat)
  | _, [] => some []
  | [], _ :: _ => none
  | c :: cs, p :: ps =>
    if fits exact c p then (places exact (i + 1) cs ps).map (i :: ·)
    else places exact (i + 1) cs (p :: ps)

/-- The score of a place that cannot be reached. -/
def unreached : Int := -32768

/-- One row: the best score with a match at each column, with a gap there, and the bonus that a run
    of matches carries on. -/
structure Row where
  matched : Array Int
  gapped : Array Int
  carried : Array Int

namespace Row

def blank (n : Nat) (gap : Int) : Row :=
  ⟨Array.replicate (n + 1) unreached, Array.replicate (n + 1) gap, Array.replicate (n + 1) 0⟩

/-- The row after column `j`, where the text has `c` with bonus `b`, given the row `above`. -/
def step (exact : Bool) (p : Char) (above row : Row) (j : Nat) (c : Char) (b : Int) : Row :=
  let row :=
    if fits exact c p then
      let worth : Int := if exact ∨ c = p then 16 else 14
      let carry := max (row.carried.getD j 0) (max b 4)
      let best := max (above.matched.getD j 0 + carry) (above.gapped.getD j 0 + b) + worth
      { row with
        carried := row.carried.setIfInBounds j carry
        matched := row.matched.setIfInBounds (j + 1) best }
    else
      { row with
        matched := row.matched.setIfInBounds (j + 1) unreached
        carried := row.carried.setIfInBounds (j + 1) 0 }
  let gap := max (row.matched.getD j 0 - 4) (row.gapped.getD j 0 - 1)
  { row with gapped := row.gapped.setIfInBounds (j + 1) gap }

/-- The row after the columns from `j` on, whose characters come with their bonuses. -/
def fill (exact : Bool) (p : Char) (above : Row) : Row → Nat → List (Char × Int) → Row
  | row, _, [] => row
  | row, j, (c, b) :: rest => fill exact p above (step exact p above row j c b) (j + 1) rest

end Row

/-- The two rows after the whole pattern, whose characters come with their first places: the last
    one filled comes first. -/
def sweep (exact : Bool) (columns : List (Char × Int)) : Row → Row → List (Char × Nat) → Row × Row
  | above, row, [] => (above, row)
  | above, row, (p, j) :: rest =>
    sweep exact columns (Row.fill exact p above row j (columns.drop j)) above rest

/-- The best score of a pattern in a text, if it fits. -/
def score (text pattern : List Char) : Option Int :=
  if pattern = [] then some 0
  else
    let exact := pattern.any Char.isUpper
    match places exact 0 text pattern with
    | none => none
    | some js =>
      let columns := text.zip (bonuses text)
      let n := text.length
      let (row, _) := sweep exact columns (.blank n (-1)) (.blank n unreached) (pattern.zip js)
      some ((row.matched.toList.drop (js.getLastD 0)).foldl max unreached)

end Similarity

/-- How well `pattern` fits `text`. -/
def similarity (text pattern : String) : Option Int := Similarity.score text.toList pattern.toList

end ValueTypes
