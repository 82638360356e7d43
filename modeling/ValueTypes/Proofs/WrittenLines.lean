/-
  What the lines of a document say.

  A text of whole lines says statements, one for each line that is not empty.  `Says` relates the
  two, and reading gives the statements (`Says.read?_eq`).  A line of a written document says what
  it was written for (`says_line`) where its keys can stand without quotes: a header names its table
  or item, and a pair has a value that `Means` relates to its text.

  A key is a row of parts with dots between them, and the reader finds its parts one by one
  (`readKey?_writeKey`), whatever follows the last, as long as it is no dot.
-/
import ValueTypes.Toml.Document
import ValueTypes.Toml.Writer
import ValueTypes.Proofs.WrittenTexts

namespace ValueTypes.Toml

/-! ## Lines that say something -/

/-- Whether a line that says something can start with a character; none starts with a blank. -/
def startsLine (c : Char) : Bool := inBareKey c || c == '['

/-- `cs` is a text of whole lines, which say the statements `ss`. -/
inductive Says : List Char → List Statement → Prop where
  | nil : Says [] []
  | blank {cs : List Char} {ss : List Statement} (h : Says cs ss) : Says ('\n' :: cs) ss
  | line {c : Char} {l cs : List Char} {s : Statement} {ss : List Statement}
      (hc : startsLine c = true)
      (hl : ∀ rest, readStatement? (c :: (l ++ '\n' :: rest)) = some (s, '\n' :: rest))
      (h : Says cs ss) : Says (c :: (l ++ '\n' :: cs)) (s :: ss)

/-- Two texts of whole lines are one, which says what both say. -/
theorem Says.append {cs cs' : List Char} {ss ss' : List Statement} (h : Says cs ss)
    (h' : Says cs' ss') : Says (cs ++ cs') (ss ++ ss') := by
  induction h with
  | nil => exact h'
  | blank _ ih => exact .blank ih
  | line hc hl _ ih =>
    rw [List.cons_append, List.append_assoc]
    exact .line hc hl ih

theorem startsLine_ne {c : Char} (h : startsLine c = true) :
    c ≠ ' ' ∧ c ≠ '\t' ∧ c ≠ '\n' ∧ c ≠ '\r' ∧ c ≠ '#' := by
  refine ⟨?_, ?_, ?_, ?_, ?_⟩ <;> rintro rfl <;> exact absurd h (by decide)

theorem skipBlank_cons {c : Char} (hs : c ≠ ' ') (ht : c ≠ '\t') (cs : List Char) :
    skipBlank (c :: cs) = c :: cs := by
  simp [skipBlank, hs, ht]

/-- A line that says something is read, and then what follows it. -/
theorem readStatements?_line {c : Char} {l rest : List Char} {s : Statement}
    (hc : startsLine c = true)
    (hl : ∀ rest, readStatement? (c :: (l ++ '\n' :: rest)) = some (s, '\n' :: rest))
    (fuel : Nat) :
    readStatements? (fuel + 1) (c :: (l ++ '\n' :: rest)) =
      (readStatements? fuel rest).map (s :: ·) := by
  obtain ⟨hs, ht, hn, hr, hh⟩ := startsLine_ne hc
  rw [readStatements?, skipBlank_cons hs ht]
  split
  · next heq => simp at heq
  · next heq => simp [hn] at heq
  · next heq => simp [hr] at heq
  · next heq => simp [hh] at heq
  · rw [hl rest]
    rfl

/-- The statements of whole lines are read, one after another. -/
theorem Says.readStatements?_eq {cs : List Char} {ss : List Statement} (h : Says cs ss) {fuel : Nat}
    (hfuel : cs.length < fuel) : readStatements? fuel cs = some ss := by
  induction h generalizing fuel with
  | nil =>
    obtain ⟨fuel, rfl⟩ := Nat.exists_eq_succ_of_ne_zero (Nat.ne_zero_of_lt hfuel)
    rfl
  | blank _ ih =>
    obtain ⟨fuel, rfl⟩ := Nat.exists_eq_succ_of_ne_zero (Nat.ne_zero_of_lt hfuel)
    exact ih (Nat.lt_of_succ_lt_succ hfuel)
  | line hc hl _ ih =>
    obtain ⟨fuel, rfl⟩ := Nat.exists_eq_succ_of_ne_zero (Nat.ne_zero_of_lt hfuel)
    rw [readStatements?_line hc hl, ih]
    · rfl
    · simp only [List.length_cons, List.length_append] at hfuel
      omega

/-- No line starts with a byte order mark. -/
theorem Says.dropMark_eq {cs : List Char} {ss : List Statement} (h : Says cs ss) :
    dropMark cs = cs := by
  cases h with
  | nil => rfl
  | blank => rfl
  | line hc =>
    unfold dropMark
    split
    · next heq =>
      rw [(List.cons.inj heq).1] at hc
      exact absurd hc (by decide)
    · rfl

/-- A document of whole lines reads as the entries that its statements make. -/
theorem Says.read?_eq {s : String} {ss : List Statement} (h : Says s.toList ss) :
    read? s = entriesOf? ss := by
  show (readStatements? ((dropMark s.toList).length + 1) (dropMark s.toList)).bind _ = _
  rw [h.dropMark_eq, h.readStatements?_eq (Nat.lt_succ_self _)]
  rfl

/-! ## Keys -/

theorem inBareKey_ne {c : Char} (h : inBareKey c = true) :
    c ≠ ' ' ∧ c ≠ '\t' ∧ c ≠ '"' ∧ c ≠ '\'' ∧ c ≠ '[' := by
  refine ⟨?_, ?_, ?_, ?_, ?_⟩ <;> rintro rfl <;> exact absurd h (by decide)

theorem exists_eq_cons_of_isBareKey {part : String} (h : isBareKey part = true) :
    ∃ c cs, part.toList = c :: cs ∧ inBareKey c = true := by
  obtain ⟨hne, hall⟩ : part ≠ "" ∧ part.toList.all inBareKey = true := by
    simpa only [isBareKey, Bool.and_eq_true, bne_iff_ne] using h
  match hp : part.toList with
  | [] => exact absurd (String.toList_eq_nil_iff.1 hp) hne
  | c :: cs =>
    rw [hp, List.all_cons, Bool.and_eq_true] at hall
    exact ⟨c, cs, rfl, hall.1⟩

/-- A bare part is read up to the first character that cannot stand in one. -/
theorem readPart?_bare {part : String} (h : isBareKey part = true) {d : Char} (rest : List Char)
    (hd : inBareKey d = false) :
    readPart? (part.toList ++ d :: rest) = some (part, d :: rest) := by
  obtain ⟨c, cs, hp, hc⟩ := exists_eq_cons_of_isBareKey h
  obtain ⟨-, -, hquote, hapostrophe, -⟩ := inBareKey_ne hc
  have hall : ∀ x ∈ part.toList, inBareKey x = true := by
    simp only [isBareKey, Bool.and_eq_true] at h
    exact List.all_eq_true.1 h.2
  have htake : (part.toList ++ d :: rest).takeWhile inBareKey = part.toList := by
    rw [List.takeWhile_append_of_pos hall, List.takeWhile_cons_of_neg (by simp [hd]),
      List.append_nil]
  have hdrop : (part.toList ++ d :: rest).dropWhile inBareKey = d :: rest := by
    rw [List.dropWhile_append_of_pos hall, List.dropWhile_cons_of_neg (by simp [hd])]
  unfold readPart?
  split
  · next heq =>
    rw [hp] at heq
    exact absurd (List.cons.inj heq).1 hquote
  · next heq =>
    rw [hp] at heq
    exact absurd (List.cons.inj heq).1 hapostrophe
  · simp only [htake, hdrop, String.ofList_toList]
    rw [if_neg (by simp [hp])]

/-- A key whose parts can stand without quotes. -/
def Key.Bare (key : Key) : Prop := ∀ part ∈ key.front ++ [key.last], isBareKey part = true

theorem writePart_bare {part : String} (h : isBareKey part = true) :
    writePart part = part.toList := if_pos h

theorem writeKey_cons (part : String) (front : List String) (last : String) :
    writeKey ⟨part :: front, last⟩ = writePart part ++ '.' :: writeKey ⟨front, last⟩ := by
  simp [writeKey]

/-- A bare key starts with a character of its first part. -/
theorem exists_eq_cons_writeKey {key : Key} (h : key.Bare) :
    ∃ c cs, writeKey key = c :: cs ∧ inBareKey c = true := by
  obtain ⟨front, last⟩ := key
  cases front with
  | nil =>
    have hlast : isBareKey last = true := h last (by simp)
    obtain ⟨c, cs, hp, hc⟩ := exists_eq_cons_of_isBareKey hlast
    exact ⟨c, cs, (writePart_bare hlast).trans hp, hc⟩
  | cons part front =>
    have hpart : isBareKey part = true := h part (by simp)
    obtain ⟨c, cs, hp, hc⟩ := exists_eq_cons_of_isBareKey hpart
    exact ⟨c, _, by rw [writeKey_cons, writePart_bare hpart, hp, List.cons_append], hc⟩

theorem skipBlank_bare {part : String} (h : isBareKey part = true) (rest : List Char) :
    skipBlank (part.toList ++ rest) = part.toList ++ rest := by
  obtain ⟨c, cs, hp, hc⟩ := exists_eq_cons_of_isBareKey h
  obtain ⟨hs, ht, -⟩ := inBareKey_ne hc
  rw [hp]
  exact skipBlank_cons hs ht _

/-- A bare key is read, and the blanks after it, unless a dot follows. -/
theorem readKey?_writeKey {key : Key} (hkey : key.Bare) {room : Nat}
    (hroom : key.front.length < room) {d : Char} {rest rest' : List Char}
    (hd : inBareKey d = false) (hskip : skipBlank (d :: rest) = rest')
    (hdot : rest'.head? ≠ some '.') :
    readKey? room (writeKey key ++ d :: rest) = some (key, rest') := by
  obtain ⟨front, last⟩ := key
  induction front generalizing room with
  | nil =>
    obtain ⟨room, rfl⟩ := Nat.exists_eq_succ_of_ne_zero (Nat.ne_zero_of_lt hroom)
    have hlast : isBareKey last = true := hkey last (by simp)
    have hwrite : writeKey ⟨[], last⟩ = last.toList := writePart_bare hlast
    rw [hwrite, readKey?, skipBlank_bare hlast, readPart?_bare hlast rest hd]
    simp only [hskip]
    split
    · exact absurd rfl hdot
    · rfl
  | cons part front ih =>
    obtain ⟨room, rfl⟩ := Nat.exists_eq_succ_of_ne_zero (Nat.ne_zero_of_lt hroom)
    have hpart : isBareKey part = true := hkey part (by simp)
    have hrest : Key.Bare ⟨front, last⟩ := fun p hp => hkey p (List.mem_cons_of_mem _ hp)
    rw [writeKey_cons, writePart_bare hpart, List.append_assoc, readKey?, skipBlank_bare hpart,
      List.cons_append, readPart?_bare hpart _ rfl]
    show (readKey? room (writeKey ⟨front, last⟩ ++ d :: rest)).map _ = _
    rw [ih hrest (Nat.lt_of_succ_lt_succ hroom)]
    rfl

/-! ## Values -/

/-- The node that holds a text. -/
def textNode (s : String) : Node := .scalar (.plain (.text s))

/-- The node of a value on the line of its key. -/
def Leaf.node : Leaf → Node
  | flag b => .scalar (.plain (.bool b))
  | text s => textNode s
  | emptyList => .list []

/-- `cs` is how the value `n` is written, up to the end of its line.  No value needs more than three
    steps, as no list with items is written. -/
structure Means (cs : List Char) (n : Node) : Prop where
  skipBlank_eq : ∀ rest, skipBlank (cs ++ rest) = cs ++ rest
  read : ∀ fuel room rest,
    readValue? (fuel + 3) (room + 1) (cs ++ '\n' :: rest) = some (n, '\n' :: rest)

/-- A written text starts with a delimiter. -/
theorem exists_eq_cons_writeText (s : String) :
    ∃ c cs, writeText s = c :: cs ∧ (c = '"' ∨ c = '\'') := by
  unfold writeText
  simp only
  split_ifs
  · exact ⟨_, _, rfl, .inl rfl⟩
  · exact ⟨_, _, rfl, .inr rfl⟩
  · exact ⟨_, _, rfl, .inl rfl⟩
  · exact ⟨_, _, rfl, .inr rfl⟩
  · exact ⟨_, _, rfl, .inl rfl⟩
  · exact ⟨_, _, rfl, .inl rfl⟩

theorem readValue?_text {d : Char} (hd : d = '"' ∨ d = '\'') (fuel room : Nat) (cs : List Char) :
    readValue? (fuel + 1) room (d :: cs) =
      (readText? (d :: cs)).map fun r => (textNode r.1, r.2) := by
  rcases hd with rfl | rfl
  · show ((readText? _).map _).map _ = _
    rw [Option.map_map]
    rfl
  · show ((readText? _).map _).map _ = _
    rw [Option.map_map]
    rfl

/-- A written text is read as that text. -/
theorem means_writeText (s : String) : Means (writeText s) (textNode s) := by
  obtain ⟨d, cs, hs, hd⟩ := exists_eq_cons_writeText s
  refine ⟨fun rest => ?_, fun fuel room rest => ?_⟩
  · rw [hs]
    rcases hd with rfl | rfl <;> rfl
  · have hread : readText? (writeText s ++ '\n' :: rest) = some (s, '\n' :: rest) :=
      readText?_writeText s (by simp) (by simp)
    rw [hs, List.cons_append] at hread ⊢
    rw [readValue?_text hd, hread]
    rfl

/-- What is written for a value is read as its node. -/
theorem means_leaf (v : Leaf) : Means v.write v.node := by
  cases v with
  | flag b => cases b <;> exact ⟨fun _ => rfl, fun _ _ _ => rfl⟩
  | text s => exact means_writeText s
  | emptyList => exact ⟨fun _ => rfl, fun _ _ _ => rfl⟩

/-! ## Written lines -/

/-- What a line says. -/
def Line.statement : Line → Statement
  | table key => .table key
  | item key => .item key
  | pair key v => .pair ⟨[], key⟩ v.node

/-- A line whose keys are bare, with no more parts than the reader takes. -/
def Line.Readable : Line → Prop
  | table key => key.Bare ∧ key.front.length < maxNesting
  | item key => key.Bare ∧ key.front.length < maxNesting
  | pair key _ => isBareKey key = true

/-- A line with a key and a value is read as that pair. -/
theorem readStatement?_pair {key : String} (hkey : isBareKey key = true) {value : List Char}
    {n : Node} (hvalue : Means value n) (rest : List Char) :
    readStatement? (key.toList ++ ' ' :: '=' :: ' ' :: (value ++ '\n' :: rest)) =
      some (.pair ⟨[], key⟩ n, '\n' :: rest) := by
  have hbare : Key.Bare ⟨[], key⟩ := fun part hpart => by rwa [List.mem_singleton.1 hpart]
  have hread : readKey? maxNesting (key.toList ++ ' ' :: '=' :: ' ' :: (value ++ '\n' :: rest)) =
      some (⟨[], key⟩, '=' :: ' ' :: (value ++ '\n' :: rest)) := by
    rw [← writePart_bare hkey]
    exact readKey?_writeKey hbare (Nat.zero_lt_succ _) rfl rfl (by simp)
  have hblank : skipBlank (' ' :: (value ++ '\n' :: rest)) = value ++ '\n' :: rest :=
    hvalue.skipBlank_eq ('\n' :: rest)
  obtain ⟨c, cs, hk, hc⟩ := exists_eq_cons_of_isBareKey hkey
  obtain ⟨-, -, -, -, hbracket⟩ := inBareKey_ne hc
  unfold readStatement?
  split
  · next heq =>
    rw [hk] at heq
    exact absurd (List.cons.inj heq).1 hbracket
  · next heq =>
    rw [hk] at heq
    exact absurd (List.cons.inj heq).1 hbracket
  · rw [hread]
    simp only [hblank]
    obtain ⟨fuel, hfuel⟩ : ∃ fuel, 2 * (value ++ '\n' :: rest).length + 1 = fuel + 3 :=
      ⟨2 * (value.length + rest.length), by simp; omega⟩
    rw [hfuel, show maxNesting = 78 + 1 from rfl, hvalue.read]
    rfl

/-- A header in brackets is read as the table of its key. -/
theorem readStatement?_table {key : Key} (hkey : key.Bare) (hroom : key.front.length < maxNesting)
    (rest : List Char) :
    readStatement? ('[' :: (writeKey key ++ ']' :: rest)) = some (.table key, rest) := by
  have hread : readKey? maxNesting (writeKey key ++ ']' :: rest) = some (key, ']' :: rest) :=
    readKey?_writeKey hkey hroom rfl rfl (by simp)
  obtain ⟨c, cs, hk, hc⟩ := exists_eq_cons_writeKey hkey
  obtain ⟨-, -, -, -, hbracket⟩ := inBareKey_ne hc
  unfold readStatement?
  split
  · next heq =>
    rw [hk] at heq
    exact absurd (List.cons.inj (List.cons.inj heq).2).1 hbracket
  · next heq =>
    rw [← (List.cons.inj heq).2, hread]
    rfl
  · next h => exact absurd rfl (h _)

/-- A header in double brackets is read as one more item of its key. -/
theorem readStatement?_item {key : Key} (hkey : key.Bare) (hroom : key.front.length < maxNesting)
    (rest : List Char) :
    readStatement? ('[' :: '[' :: (writeKey key ++ ']' :: ']' :: rest)) =
      some (.item key, rest) := by
  have hread : readKey? maxNesting (writeKey key ++ ']' :: ']' :: rest) =
      some (key, ']' :: ']' :: rest) :=
    readKey?_writeKey hkey hroom rfl rfl (by simp)
  rw [readStatement?, hread]
  rfl

/-- A readable line says what it was written for. -/
theorem says_line {l : Line} (h : l.Readable) : Says l.write [l.statement] := by
  cases l with
  | table key =>
    have hl : ∀ rest, readStatement? ('[' :: (writeKey key ++ [']'] ++ '\n' :: rest)) =
        some (.table key, '\n' :: rest) := fun rest => by
      rw [List.append_assoc]
      exact readStatement?_table h.1 h.2 _
    simpa [Line.write, Line.statement] using Says.line rfl hl .nil
  | item key =>
    have hl : ∀ rest, readStatement? ('[' :: ('[' :: writeKey key ++ [']', ']'] ++ '\n' :: rest)) =
        some (.item key, '\n' :: rest) := fun rest => by
      simpa using readStatement?_item h.1 h.2 ('\n' :: rest)
    simpa [Line.write, Line.statement] using Says.line rfl hl .nil
  | pair key v =>
    obtain ⟨c, cs, hk, hc⟩ := exists_eq_cons_of_isBareKey h
    have hl : ∀ rest, readStatement? (c :: (cs ++ ' ' :: '=' :: ' ' :: v.write ++ '\n' :: rest)) =
        some (.pair ⟨[], key⟩ v.node, '\n' :: rest) := fun rest => by
      have hread := readStatement?_pair h (means_leaf v) rest
      rw [hk] at hread
      simpa using hread
    have hstart : startsLine c = true := by rw [startsLine, hc, Bool.true_or]
    have hline := Says.line hstart hl .nil
    have hpart : writePart key = c :: cs := (writePart_bare h).trans hk
    simpa [Line.write, Line.statement, hpart] using hline

/-- Readable lines are read as their statements, one by one. -/
theorem says_lines {lines : List Line} (h : ∀ l ∈ lines, l.Readable) :
    Says (lines.flatMap Line.write) (lines.map Line.statement) := by
  induction lines with
  | nil => exact .nil
  | cons l lines ih =>
    obtain ⟨hl, hlines⟩ := List.forall_mem_cons.1 h
    exact (says_line hl).append (ih hlines)

/-- Blocks of lines say what their lines say. -/
theorem says_blocks {blocks : List (List Line)} (h : ∀ lines ∈ blocks, ∀ l ∈ lines, l.Readable) :
    Says (['\n'].intercalate (blocks.map fun lines => lines.flatMap Line.write))
      (blocks.flatten.map Line.statement) := by
  match blocks with
  | [] => exact .nil
  | [lines] => simpa using says_lines (h lines List.mem_cons_self)
  | lines :: next :: blocks =>
    obtain ⟨hlines, hblocks⟩ := List.forall_mem_cons.1 h
    have hrest : Says ('\n' :: ['\n'].intercalate
        ((next :: blocks).map fun lines => lines.flatMap Line.write))
        ((next :: blocks).flatten.map Line.statement) := .blank (says_blocks hblocks)
    simpa using (says_lines hlines).append hrest

end ValueTypes.Toml
