/-
  Written texts are read back.

  A text has four written forms, and `writeText` takes the plainest one that holds it.  For each
  form the reader must find every character again, and the end where the writer put it: `readText?`
  gives the text and what follows it (`readText?_writeText`), unless that starts with a delimiter.

  * In quotes, a character stands for itself or as an escape.  `Quotes` relates a text to what
    stands in quotes for it, one case for each way of writing a character, and both readers of
    quotes are shown to undo it by induction on the relation.
  * Between triple delimiters the text may hold one or two of them in a row, also at its end, so the
    reader may meet up to five.  Where three follow one another, it is at the end
    (`closing?_eq_some`): the writer escapes a third quote, and does without apostrophes where three
    would come together.
  * A text with newlines starts on a line of its own, and the reader passes over that newline only.
-/
import Mathlib.Tactic.SplitIfs
import ValueTypes.Toml.Text

namespace ValueTypes.Toml

/-! ## Escapes -/

/-- `d` and then `ds` stand after the backslash of an escape of the character `c`. -/
structure Escapes (d : Char) (ds : List Char) (c : Char) : Prop where
  read : ∀ rest, readEscape? (d :: (ds ++ rest)) = some (c, rest)
  length : escapeLength d = ds.length + 1
  /-- A backslash before one of these ends its line. -/
  notBlank : ¬(d = ' ' ∨ d = '\t' ∨ d = '\n' ∨ d = '\r')

/-- Four hexadecimal digits give back the ASCII character that they were written for. -/
theorem codePoint?_hexDigits : ∀ n < 128,
    codePoint? ['0', '0', hexDigit (n / 16), hexDigit (n % 16)] = some (Char.ofNat n) := by
  decide

/-- Every ASCII character has an escape that reads as it. -/
theorem exists_escapes {c : Char} (h : c.toNat < 128) :
    ∃ d ds, writeEscape c = '\\' :: d :: ds ∧ Escapes d ds c := by
  unfold writeEscape
  split_ifs
  -- the last case writes two hexadecimal digits, the others one letter
  case neg =>
    refine ⟨'u', _, rfl, fun rest => ?_, rfl, by decide⟩
    show (codePoint? _).map (fun x => (x, rest)) = _
    rw [codePoint?_hexDigits c.toNat h, Char.ofNat_toNat]
    rfl
  all_goals
    subst c
    exact ⟨_, [], rfl, fun rest => rfl, rfl, by decide⟩

/-- Whether a character stands in quotes only as an escape. -/
def needsEscape (c : Char) : Bool := c == '"' || c == '\t' || c == '\\' || !isPlain c

/-- Only ASCII characters need escapes. -/
theorem lt_of_needsEscape {c : Char} (h : needsEscape c = true) : c.toNat < 128 := by
  simp only [needsEscape, isPlain, Bool.or_eq_true, beq_iff_eq, Bool.not_eq_true',
    Bool.or_eq_false_iff, Bool.and_eq_false_iff, decide_eq_false_iff_not, bne_eq_false_iff_eq] at h
  rcases h with ((rfl | rfl) | rfl) | ⟨-, h | h⟩
  · decide
  · decide
  · decide
  · omega
  · omega

/-- A character that stands in quotes for itself. -/
structure Bare (c : Char) : Prop where
  plain : isPlain c = true
  quote : c ≠ '"'
  backslash : c ≠ '\\'

theorem bare_of_not_needsEscape {c : Char} (h : needsEscape c = false) : Bare c := by
  simp only [needsEscape, Bool.or_eq_false_iff, beq_eq_false_iff_ne, Bool.not_eq_false'] at h
  obtain ⟨⟨⟨hquote, -⟩, hbackslash⟩, hplain⟩ := h
  exact ⟨hplain, hquote, hbackslash⟩

/-- A character that may stand on a line does not end it. -/
theorem isPlain_ne_newline {c : Char} (h : isPlain c = true) : c ≠ '\n' ∧ c ≠ '\r' := by
  constructor <;> rintro rfl <;> exact absurd h (by decide)

/-! ## What stands in quotes for a text -/

/-- `w` stands in quotes for the text `cs`: in triple ones when `folded`, after `run` quotes that
    stand for themselves. -/
inductive Quotes (folded : Bool) : Nat → List Char → List Char → Prop where
  | nil {run : Nat} : Quotes folded run [] []
  | quote {run : Nat} {cs w : List Char} (hfolded : folded = true) (hrun : run < 2)
      (h : Quotes folded (run + 1) cs w) : Quotes folded run ('"' :: cs) ('"' :: w)
  | newline {run : Nat} {cs w : List Char} (hfolded : folded = true) (h : Quotes folded 0 cs w) :
      Quotes folded run ('\n' :: cs) ('\n' :: w)
  | bare {run : Nat} {c : Char} {cs w : List Char} (hc : Bare c) (h : Quotes folded 0 cs w) :
      Quotes folded run (c :: cs) (c :: w)
  | escape {run : Nat} {c d : Char} {ds cs w : List Char} (hc : Escapes d ds c)
      (h : Quotes folded 0 cs w) : Quotes folded run (c :: cs) ('\\' :: d :: (ds ++ w))

/-- A character that needs an escape can be written as one anywhere. -/
theorem Quotes.escaped {folded : Bool} {run : Nat} {c : Char} {cs w : List Char}
    (hc : needsEscape c = true) (h : Quotes folded 0 cs w) :
    Quotes folded run (c :: cs) (writeEscape c ++ w) := by
  obtain ⟨d, ds, he, hesc⟩ := exists_escapes (lt_of_needsEscape hc)
  rw [he]
  exact .escape hesc h

/-- What the writer puts in quotes stands for the text. -/
theorem quotes_writeQuotedChars (folded : Bool) (run : Nat) (cs : List Char) :
    Quotes folded run cs (writeQuotedChars folded run cs) := by
  induction cs generalizing run with
  | nil => exact .nil
  | cons c cs ih =>
    rw [writeQuotedChars]
    split_ifs with hq hrun hn he
    · subst hq
      exact .quote hrun.1 hrun.2 (ih _)
    · subst hq
      exact .escaped rfl (ih 0)
    · obtain ⟨rfl, hfolded⟩ := hn
      exact .newline hfolded (ih 0)
    · refine .escaped ?_ (ih 0)
      simpa [needsEscape, hq, or_assoc] using he
    · refine .bare (bare_of_not_needsEscape ?_) (ih 0)
      simpa [needsEscape, hq, and_assoc] using he

/-! ## On one line -/

/-- The characters of an escape are passed over. -/
theorem readQuoted?_skip (acc ds rest : List Char) :
    readQuoted? ds.length acc (ds ++ rest) = readQuoted? 0 acc rest := by
  induction ds with
  | nil => rfl
  | cons d ds ih => exact ih

/-- An escape is read as its character. -/
theorem readQuoted?_escape {d c : Char} {ds : List Char} (h : Escapes d ds c)
    (acc rest : List Char) :
    readQuoted? 0 acc ('\\' :: d :: (ds ++ rest)) = readQuoted? 0 (c :: acc) rest := by
  rw [← readQuoted?_skip (c :: acc) (d :: ds) rest]
  conv => lhs; unfold readQuoted?
  simp [h.read, h.length]

/-- A bare character is read as itself. -/
theorem readQuoted?_bare {c : Char} (h : Bare c) (acc rest : List Char) :
    readQuoted? 0 acc (c :: rest) = readQuoted? 0 (c :: acc) rest := by
  conv => lhs; unfold readQuoted?
  simp [h.plain, h.quote, h.backslash]

/-- The reader of single quotes undoes `Quotes`, up to the closing one. -/
theorem Quotes.readQuoted?_eq {run : Nat} {cs w : List Char} (h : Quotes false run cs w)
    (acc rest : List Char) :
    readQuoted? 0 acc (w ++ '"' :: rest) = some (acc.reverse ++ cs, rest) := by
  induction h generalizing acc with
  | nil => simp [readQuoted?]
  | quote hfolded => exact absurd hfolded Bool.false_ne_true
  | newline hfolded => exact absurd hfolded Bool.false_ne_true
  | bare hc _ ih => simp [readQuoted?_bare hc, ih]
  | escape hc _ ih => simp [readQuoted?_escape hc, ih]

/-- On one line, what stands in quotes does not start with a quote. -/
theorem Quotes.head?_ne_quote {run : Nat} {cs w : List Char} (h : Quotes false run cs w) :
    w.head? ≠ some '"' := by
  cases h with
  | nil => simp
  | quote hfolded => exact absurd hfolded Bool.false_ne_true
  | newline hfolded => exact absurd hfolded Bool.false_ne_true
  | bare hc => simpa using hc.quote
  | escape => simp

/-- A text in apostrophes is read as it is, up to the closing one. -/
theorem readLiteral?_eq {cs : List Char} (hplain : ∀ c ∈ cs, isPlain c = true) (hcs : '\'' ∉ cs)
    (acc rest : List Char) :
    readLiteral? acc (cs ++ '\'' :: rest) = some (acc.reverse ++ cs, rest) := by
  induction cs generalizing acc with
  | nil => simp [readLiteral?]
  | cons c cs ih =>
    obtain ⟨hc, hplain⟩ := List.forall_mem_cons.1 hplain
    have hne : c ≠ '\'' := fun h => hcs (h ▸ List.mem_cons_self)
    simp [readLiteral?, hc, hne, ih hplain fun h => hcs (List.mem_cons_of_mem _ h)]

/-! ## The end of a text between triple delimiters -/

section Closing

variable {q : Char} {acc rest : List Char}

/-- Three delimiters and no fourth are the end. -/
theorem closing?_here (hrest : rest.head? ≠ some q) :
    closing? q acc (q :: q :: q :: rest) = some (acc.reverse, rest) := by
  rcases rest with _ | ⟨d, _ | ⟨e, rest⟩⟩
  · simp [closing?]
  · have hd : d ≠ q := by simpa using hrest
    simp [closing?, hd]
  · have hd : d ≠ q := by simpa using hrest
    simp [closing?, hd]

/-- Before the last delimiters of a text, with `t` left of it and not two more of them next, the
    reader ends only where nothing else is left, and takes what is left for text. -/
theorem closing?_eq_some {t : List Char} {r : List Char × List Char}
    (hrest : rest.head? ≠ some q) (ht : ¬[q, q] <+: t)
    (h : closing? q acc (q :: (t ++ q :: q :: q :: rest)) = some r) :
    (t = [] ∨ t = [q]) ∧ r = (acc.reverse ++ q :: t, rest) := by
  match t with
  | [] =>
    have hr : r = (acc.reverse ++ [q], rest) := by
      rcases rest with _ | ⟨e, rest⟩
      · simpa [closing?, eq_comm] using h
      · have he : e ≠ q := by simpa using hrest
        simpa [closing?, he, eq_comm] using h
    exact ⟨.inl rfl, hr⟩
  | [a] =>
    by_cases ha : a = q
    · subst ha
      have hr : r = (acc.reverse ++ [a, a], rest) := by
        simpa [closing?, eq_comm] using h
      exact ⟨.inr rfl, hr⟩
    · simp [closing?, ha] at h
  | a :: b :: t =>
    have hab : ¬(a = q ∧ b = q) := by
      rintro ⟨rfl, rfl⟩
      exact ht ⟨t, rfl⟩
    simp [closing?, hab] at h

end Closing

/-! ## Between triple quotes -/

theorem readFolded?_skip (acc ds rest : List Char) :
    readFolded? .inText ds.length acc (ds ++ rest) = readFolded? .inText 0 acc rest := by
  induction ds with
  | nil => rfl
  | cons d ds ih => exact ih

/-- Between triple quotes an escape is read as its character too. -/
theorem readFolded?_escape {d c : Char} {ds : List Char} (h : Escapes d ds c)
    (acc rest : List Char) :
    readFolded? .inText 0 acc ('\\' :: d :: (ds ++ rest)) =
      readFolded? .inText 0 (c :: acc) rest := by
  rw [← readFolded?_skip (c :: acc) (d :: ds) rest]
  conv => lhs; unfold readFolded?
  simp [h.read, h.length, h.notBlank]

theorem readFolded?_bare {c : Char} (h : Bare c) (acc rest : List Char) :
    readFolded? .inText 0 acc (c :: rest) = readFolded? .inText 0 (c :: acc) rest := by
  have hn := isPlain_ne_newline h.plain
  conv => lhs; unfold readFolded?
  simp [h.plain, h.quote, h.backslash, hn]

theorem readFolded?_newline (acc rest : List Char) :
    readFolded? .inText 0 acc ('\n' :: rest) = readFolded? .inText 0 ('\n' :: acc) rest := rfl

/-- A quote may be the start of the end. -/
theorem readFolded?_quote (acc rest : List Char) :
    readFolded? .inText 0 acc ('"' :: rest) =
      match closing? '"' acc ('"' :: rest) with
      | some r => some r
      | none => readFolded? .inText 0 ('"' :: acc) rest := rfl

/-- Not two quotes more after one that stands for itself. -/
theorem Quotes.not_prefix {folded : Bool} {run : Nat} {cs w : List Char}
    (h : Quotes folded (run + 1) cs w) : ¬['"', '"'] <+: w := by
  rintro ⟨t, rfl⟩
  cases h with
  | quote _ hrun h =>
    cases h with
    | quote _ hrun' => omega
    | bare hc => exact hc.quote rfl
  | bare hc => exact hc.quote rfl

theorem Quotes.eq_of_nil {folded : Bool} {run : Nat} {cs : List Char}
    (h : Quotes folded run cs []) : cs = [] := by
  cases h
  rfl

theorem Quotes.eq_of_quote {folded : Bool} {run : Nat} {cs : List Char}
    (h : Quotes folded run cs ['"']) : cs = ['"'] := by
  cases h with
  | quote _ _ h => rw [h.eq_of_nil]
  | bare hc => exact absurd rfl hc.quote

/-- Where the reader sees the end in a quote of the text, that is the end. -/
theorem Quotes.closing?_eq {folded : Bool} {run : Nat} {cs w acc rest : List Char}
    {r : List Char × List Char} (h : Quotes folded (run + 1) cs w) (hrest : rest.head? ≠ some '"')
    (hr : closing? '"' acc ('"' :: (w ++ '"' :: '"' :: '"' :: rest)) = some r) :
    r = (acc.reverse ++ '"' :: cs, rest) := by
  obtain ⟨hw, rfl⟩ := closing?_eq_some hrest h.not_prefix hr
  rcases hw with rfl | rfl
  · rw [h.eq_of_nil]
  · rw [h.eq_of_quote]

/-- The reader of triple quotes undoes `Quotes`, up to the closing ones. -/
theorem Quotes.readFolded?_eq {run : Nat} {cs w rest : List Char} (h : Quotes true run cs w)
    (acc : List Char) (hrest : rest.head? ≠ some '"') :
    readFolded? .inText 0 acc (w ++ '"' :: '"' :: '"' :: rest) =
      some (acc.reverse ++ cs, rest) := by
  induction h generalizing acc with
  | nil => rw [List.nil_append, readFolded?_quote, closing?_here hrest, List.append_nil]
  | quote _ _ h ih =>
    -- a quote of the text may be the first of the last five
    rw [List.cons_append, readFolded?_quote]
    split
    next r hr => rw [h.closing?_eq hrest hr]
    next => simp [ih]
  | newline _ _ ih => simp [readFolded?_newline, ih]
  | bare hc _ ih => simp [readFolded?_bare hc, ih]
  | escape hc _ ih => simp [readFolded?_escape hc, ih]

/-! ## Between triple apostrophes -/

/-- The longest run is no shorter than the current one. -/
theorem le_longestRun (q : Char) (run : Nat) (cs : List Char) : run ≤ longestRun q run cs := by
  induction cs generalizing run with
  | nil => exact Nat.le_refl run
  | cons c cs ih =>
    rw [longestRun]
    split
    · exact Nat.le_of_succ_le (ih (run + 1))
    · exact Nat.le_max_left _ _

/-- Where no three delimiters come together, no two follow one. -/
theorem not_prefix_of_longestRun {q : Char} {run : Nat} {cs : List Char}
    (h : longestRun q (run + 1) cs ≤ 2) : ¬[q, q] <+: cs := by
  rintro ⟨t, rfl⟩
  have := le_longestRun q (run + 1 + 1 + 1) t
  simp only [List.cons_append, List.nil_append, longestRun, if_true] at h
  omega

/-- A character without runs does not occur. -/
theorem not_mem_of_longestRun {q : Char} {cs : List Char} (h : longestRun q 0 cs = 0) : q ∉ cs := by
  induction cs with
  | nil => simp
  | cons c cs ih =>
    rw [longestRun] at h
    split at h
    · have := le_longestRun q (0 + 1) cs
      omega
    · rename_i hc
      simp [ih (by omega), Ne.symm hc]

theorem readRaw?_quote (acc rest : List Char) :
    readRaw? acc ('\'' :: rest) =
      match closing? '\'' acc ('\'' :: rest) with
      | some r => some r
      | none => readRaw? ('\'' :: acc) rest := rfl

/-- A text between triple apostrophes is read as it is, up to the closing ones. -/
theorem readRaw?_eq {cs rest : List Char} {run : Nat} (hcs : ∀ c ∈ cs, c = '\n' ∨ isPlain c = true)
    (hrun : longestRun '\'' run cs ≤ 2) (acc : List Char) (hrest : rest.head? ≠ some '\'') :
    readRaw? acc (cs ++ '\'' :: '\'' :: '\'' :: rest) = some (acc.reverse ++ cs, rest) := by
  induction cs generalizing run acc with
  | nil => rw [List.nil_append, readRaw?_quote, closing?_here hrest, List.append_nil]
  | cons c cs ih =>
    obtain ⟨hc, htail⟩ := List.forall_mem_cons.1 hcs
    rw [longestRun] at hrun
    split at hrun
    · subst c
      rw [List.cons_append, readRaw?_quote]
      split
      next r hr => rw [(closing?_eq_some hrest (not_prefix_of_longestRun hrun) hr).2]
      next => simp [ih htail hrun]
    · next hq =>
      have hstep : readRaw? acc (c :: (cs ++ '\'' :: '\'' :: '\'' :: rest)) =
          readRaw? (c :: acc) (cs ++ '\'' :: '\'' :: '\'' :: rest) := by
        rcases hc with rfl | hc
        · rfl
        · have hn := isPlain_ne_newline hc
          conv => lhs; unfold readRaw?
          simp [hc, hq, hn]
      rw [List.cons_append, hstep, ih htail (Nat.le_trans (Nat.le_max_right _ _) hrun)]
      simp

/-! ## All forms -/

/-- The newline that the writer puts in front is dropped, and nothing else. -/
theorem dropNewline_leadingNewline {cs t : List Char}
    (h : '\n' ∉ cs → t.head? ≠ some '\n' ∧ t.head? ≠ some '\r') :
    dropNewline (leadingNewline cs ++ t) = t := by
  rw [leadingNewline]
  split
  · rfl
  · next hn =>
    obtain ⟨hn, hr⟩ := h hn
    rw [List.nil_append]
    unfold dropNewline
    split
    · simp at hn
    · simp at hr
    · rfl

/-- What stands in quotes starts with a newline only if the text has one. -/
theorem Quotes.head?_ne_newline {folded : Bool} {run : Nat} {cs w rest : List Char}
    (h : Quotes folded run cs w) (hcs : '\n' ∉ cs) :
    (w ++ '"' :: rest).head? ≠ some '\n' ∧ (w ++ '"' :: rest).head? ≠ some '\r' := by
  cases h with
  | nil => simp
  | quote => simp
  | newline => simp at hcs
  | bare hc => simpa using isPlain_ne_newline hc.plain
  | escape => simp

/-- What follows an opening delimiter does not make it a triple one. -/
theorem not_prefix_of_head? {q : Char} {w rest : List Char} (hw : w.head? ≠ some q)
    (hrest : rest.head? ≠ some q) : ¬[q, q] <+: w ++ q :: rest := by
  rintro ⟨t, ht⟩
  rcases w with _ | ⟨d, w⟩
  · obtain ⟨-, rfl⟩ : q = q ∧ q :: t = rest := by simpa using ht
    exact hrest rfl
  · obtain ⟨rfl, -⟩ : q = d ∧ _ := by simpa using ht
    exact hw rfl

/-- One quote that two others do not follow opens a text on one line. -/
theorem readText?_quoted {t : List Char} (h : ¬['"', '"'] <+: t) :
    readText? ('"' :: t) = (readQuoted? 0 [] t).map readText?.asString := by
  unfold readText?
  split
  · next heq =>
    cases heq
    exact absurd ⟨_, rfl⟩ h
  · next heq =>
    cases heq
    rfl
  · next heq => simp at heq
  · next heq => simp at heq
  · next hq _ _ => exact absurd rfl (hq t)

/-- So does one apostrophe. -/
theorem readText?_literal {t : List Char} (h : ¬['\'', '\''] <+: t) :
    readText? ('\'' :: t) = (readLiteral? [] t).map readText?.asString := by
  unfold readText?
  split
  · next heq => simp at heq
  · next heq => simp at heq
  · next heq =>
    cases heq
    exact absurd ⟨_, rfl⟩ h
  · next heq =>
    cases heq
    rfl
  · next hq => exact absurd rfl (hq t)

section Forms

variable {cs rest : List Char}

/-- A text in quotes is read back. -/
theorem readText?_writeQuoted (hrest : rest.head? ≠ some '"') :
    readText? (writeQuoted cs ++ rest) = some (String.ofList cs, rest) := by
  have hw := quotes_writeQuotedChars false 0 cs
  rw [writeQuoted, List.cons_append, List.cons_append, List.append_assoc, List.singleton_append,
    readText?_quoted (not_prefix_of_head? hw.head?_ne_quote hrest), hw.readQuoted?_eq]
  rfl

/-- A text between triple quotes is read back. -/
theorem readText?_writeFolded (hrest : rest.head? ≠ some '"') :
    readText? (writeFolded cs ++ rest) = some (String.ofList cs, rest) := by
  have hw := quotes_writeQuotedChars true 0 cs
  have htext : writeFolded cs ++ rest =
      '"' :: '"' :: '"' :: (leadingNewline cs ++
        (writeQuotedChars true 0 cs ++ '"' :: '"' :: '"' :: rest)) := by simp [writeFolded]
  rw [htext, readText?, dropNewline_leadingNewline hw.head?_ne_newline, hw.readFolded?_eq [] hrest]
  rfl

/-- A text in apostrophes is read back, if it has no apostrophe and stays on its line. -/
theorem readText?_writeLiteral (hplain : ∀ c ∈ cs, isPlain c = true) (hcs : '\'' ∉ cs)
    (hrest : rest.head? ≠ some '\'') :
    readText? (writeLiteral cs ++ rest) = some (String.ofList cs, rest) := by
  have hhead : cs.head? ≠ some '\'' := fun h => hcs (List.mem_of_mem_head? h)
  rw [writeLiteral, List.cons_append, List.cons_append, List.append_assoc, List.singleton_append,
    readText?_literal (not_prefix_of_head? hhead hrest), readLiteral?_eq hplain hcs]
  rfl

/-- A text between triple apostrophes is read back, if no three apostrophes come together. -/
theorem readText?_writeRaw (hcs : ∀ c ∈ cs, c = '\n' ∨ isPlain c = true)
    (hrun : longestRun '\'' 0 cs ≤ 2) (hrest : rest.head? ≠ some '\'') :
    readText? (writeRaw cs ++ rest) = some (String.ofList cs, rest) := by
  have htext : writeRaw cs ++ rest =
      '\'' :: '\'' :: '\'' :: (leadingNewline cs ++ (cs ++ '\'' :: '\'' :: '\'' :: rest)) := by
    simp [writeRaw]
  have hhead : '\n' ∉ cs → (cs ++ '\'' :: '\'' :: '\'' :: rest).head? ≠ some '\n' ∧
      (cs ++ '\'' :: '\'' :: '\'' :: rest).head? ≠ some '\r' := by
    intro hn
    rcases cs with _ | ⟨c, cs⟩
    · simp
    · have hne : c ≠ '\n' := fun h => hn (h ▸ List.mem_cons_self)
      simpa using isPlain_ne_newline ((hcs c List.mem_cons_self).resolve_left hne)
  rw [htext, readText?, dropNewline_leadingNewline hhead, readRaw?_eq hcs hrun [] hrest]
  rfl

end Forms

theorem not_isControl_iff {c : Char} :
    ¬isControl c = true ↔ c = '\n' ∨ isPlain c = true := by
  cases h : isPlain c <;> simp [isControl, h]

/-- **A written text is read back**, whatever its characters, and nothing of what follows it. -/
theorem readText?_writeText (s : String) {rest : List Char} (hquote : rest.head? ≠ some '"')
    (hapostrophe : rest.head? ≠ some '\'') : readText? (writeText s ++ rest) = some (s, rest) := by
  have hplain : (!s.toList.any isControl) = true →
      ∀ c ∈ s.toList, c = '\n' ∨ isPlain c = true := by
    intro h c hc
    rw [Bool.not_eq_true', List.any_eq_false] at h
    exact not_isControl_iff.1 (h c hc)
  rw [← String.ofList_toList (s := s)]
  simp only [writeText, String.toList_ofList]
  split_ifs with hbasic hliteral hfolded hraw hbreak
  · exact readText?_writeQuoted hquote
  · obtain ⟨hcontrol, hnewline, hrun⟩ := hliteral
    have hn : '\n' ∉ s.toList := by simpa using hnewline
    have hne : ∀ c ∈ s.toList, isPlain c = true := fun c hc =>
      (hplain hcontrol c hc).resolve_left fun h => hn (h ▸ hc)
    exact readText?_writeLiteral hne (not_mem_of_longestRun hrun) hapostrophe
  · exact readText?_writeFolded hquote
  · exact readText?_writeRaw (hplain hraw.1) hraw.2 hapostrophe
  · exact readText?_writeFolded hquote
  · exact readText?_writeQuoted hquote

example : String.ofList (writeText "it's\n\"so\"") = "\"\"\"\nit's\n\"so\"\"\"\"" := by decide

end ValueTypes.Toml
