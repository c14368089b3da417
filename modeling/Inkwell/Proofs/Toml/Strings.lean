import Inkwell.Proofs.Toml.Quotes

/-!
# Written strings are read back

Whatever form a string is written in, reading it gives the string and the text after
it, as long as this text does not begin with one more quote.  The strings that cannot be
written at all are those with a run of equal quotes that a byte cannot count.
-/

namespace Inkwell.Toml

/-! ## Bodies -/

/-- Pieces read from here up to the closing quotes make up the text, and `rest` comes
after them. -/
def Spells (step : List Char → Option Piece) (cs text rest : List Char) : Prop :=
  ∀ fuel, cs.length < fuel → collect step fuel cs = some (text, rest)

variable {step : List Char → Option Piece} {cs more text rest : List Char} {c : Char}

theorem Spells.body? (spells : Spells step cs text rest) :
    body? step cs = some (text, rest) :=
  spells _ (Nat.lt_succ_self _)

theorem spells_close (closes : step cs = some (.close rest)) :
    Spells step cs [] rest := by
  intro fuel enough
  obtain ⟨fuel, rfl⟩ := Nat.exists_eq_succ_of_ne_zero (Nat.ne_zero_of_lt enough)
  simp [collect, closes]

theorem Spells.char (spells : Spells step more text rest) (piece : List Char)
    (isChar : step (piece ++ more) = some (.char c more)) (nonempty : piece ≠ []) :
    Spells step (piece ++ more) (c :: text) rest := by
  intro fuel enough
  obtain ⟨fuel, rfl⟩ := Nat.exists_eq_succ_of_ne_zero (Nat.ne_zero_of_lt enough)
  have positive := List.length_pos_iff.mpr nonempty
  rw [List.length_append] at enough
  have others := spells fuel (by omega)
  simp [collect, isChar, others]

/-! ## Escapes -/

theorem isPlain_of_not_needsEscape (plain : needsEscape c = false) (unbroken : c ≠ '\n') :
    isPlain c = true := by
  simp only [needsEscape, isPlain] at *
  grind

/-- Codes below 128 survive as two hexadecimal digits. -/
theorem hexNumber?_hexDigit : ∀ n < 128,
    hexNumber? 0 ['0', '0', hexDigit (n / 16), hexDigit (n % 16)] = some n := by
  decide

theorem scalar?_toNat (c : Char) : scalar? c.toNat = some c := by
  have valid : c.toNat.isValidChar := c.valid
  rw [scalar?, if_pos valid, Char.ofNat_toNat]

theorem escape?_controlEscape (control : needsEscape c = true) (more : List Char) :
    escape? ((controlEscape c).tail ++ more) = some (c, more) := by
  have code_lt : c.toNat < 128 := by
    simp only [needsEscape] at control
    grind
  have number := hexNumber?_hexDigit c.toNat code_lt
  simp [controlEscape, escape?, codeEscape?, number, scalar?_toNat]

/-- A character in a basic form is itself, if it may stand there, or an escape that
does not begin with a blank or a line break. -/
theorem basicChar_cases (unbroken : c ≠ '\n') :
    (basicChar c = [c] ∧ isPlain c = true ∧ c ≠ '\\') ∨
    ∃ letter code, basicChar c = '\\' :: letter :: code ∧
      letter ∈ ['b', 't', 'f', 'r', '\\', 'u'] ∧
      ∀ more, escape? (letter :: code ++ more) = some (c, more) := by
  unfold basicChar
  split
  · rename_i isChar
    exact .inr ⟨'b', [], rfl, by decide, fun _ => by rw [isChar]; rfl⟩
  split
  · rename_i isChar
    exact .inr ⟨'t', [], rfl, by decide, fun _ => by rw [isChar]; rfl⟩
  split
  · rename_i isChar
    exact .inr ⟨'f', [], rfl, by decide, fun _ => by rw [isChar]; rfl⟩
  split
  · rename_i isChar
    exact .inr ⟨'r', [], rfl, by decide, fun _ => by rw [isChar]; rfl⟩
  split
  · rename_i isChar
    exact .inr ⟨'\\', [], rfl, by decide, fun _ => by rw [isChar]; rfl⟩
  split
  · rename_i control
    exact .inr ⟨'u', _, rfl, by decide, escape?_controlEscape control⟩
  · rename_i notBackslash plain
    have plain : needsEscape c = false := by simpa using plain
    exact .inl ⟨rfl, isPlain_of_not_needsEscape plain unbroken, notBackslash⟩

/-! ## Forms of one line -/

/-- A character in a basic form is one piece of it. -/
theorem basicPiece?_basicChar (unquoted : c ≠ '"') (unbroken : c ≠ '\n')
    (more : List Char) : basicPiece? (basicChar c ++ more) = some (.char c more) := by
  rcases basicChar_cases unbroken with ⟨itself, plain, noEscape⟩ |
    ⟨letter, code, escaped, _, reads⟩
  · simp [itself, basicPiece?, unquoted, noEscape, plain]
  · have reads := reads more
    rw [List.cons_append] at reads
    simp [escaped, basicPiece?, reads]

theorem basicChar_ne_nil (c : Char) : basicChar c ≠ [] := by
  by_cases isBreak : c = '\n'
  · subst isBreak
    decide
  · rcases basicChar_cases isBreak with ⟨itself, _⟩ | ⟨_, _, escaped, _⟩
    · rw [itself]
      exact List.cons_ne_nil _ _
    · rw [escaped]
      exact List.cons_ne_nil _ _

theorem spells_basicBody (text rest : List Char) :
    Spells basicPiece? (basicBody text ++ '"' :: rest) text rest := by
  induction text with
  | nil => exact spells_close rfl
  | cons c text inductionHypothesis =>
      have body_cons : basicBody (c :: text) ++ '"' :: rest =
          (if c = '"' then ['\\', '"'] else if c = '\n' then ['\\', 'n']
            else basicChar c) ++ (basicBody text ++ '"' :: rest) := by
        simp [basicBody]
      rw [body_cons]
      split
      · rename_i isQuote
        subst isQuote
        exact inductionHypothesis.char _ rfl (List.cons_ne_nil _ _)
      split
      · rename_i isBreak
        subst isBreak
        exact inductionHypothesis.char _ rfl (List.cons_ne_nil _ _)
      · rename_i unquoted unbroken
        exact inductionHypothesis.char _ (basicPiece?_basicChar unquoted unbroken _)
          (basicChar_ne_nil c)

theorem spells_literal (plain : ∀ c ∈ text, isPlain c = true ∧ c ≠ '\'')
    (rest : List Char) : Spells literalPiece? (text ++ '\'' :: rest) text rest := by
  induction text with
  | nil => exact spells_close rfl
  | cons c text inductionHypothesis =>
      obtain ⟨isPlain, unquoted⟩ := plain c List.mem_cons_self
      have others := inductionHypothesis fun c member =>
        plain c (List.mem_cons_of_mem _ member)
      have isChar : literalPiece? ([c] ++ (text ++ '\'' :: rest)) =
          some (.char c (text ++ '\'' :: rest)) := by
        simp [literalPiece?, unquoted, isPlain]
      exact others.char [c] isChar (List.cons_ne_nil _ _)

/-! ## Forms of several lines -/

theorem leading_eq_zero {quote : Char} (other : cs.head? ≠ some quote) :
    leading quote cs = 0 := by
  cases cs with
  | nil => rfl
  | cons c cs =>
      have notQuote : c ≠ quote := fun same => other (congrArg some same)
      exact if_neg notQuote

/-- Quotes at the place of a body after `run` quotes: at most two in a row belong to
the text, and more only before the closing ones. -/
def FewQuotes (quote : Char) (run : Nat) (cs : List Char) : Prop :=
  leading quote cs + run ≤ 2 ∨ 3 ≤ leading quote cs ∧ leading quote cs + run ≤ 5

/-- A quote of a text that has few of them is one piece. -/
theorem quotePiece?_of_few {quote : Char} {run : Nat}
    (few : FewQuotes quote (run + 1) cs) :
    quotePiece? quote (quote :: cs) = some (.char quote cs) := by
  unfold FewQuotes at few
  have count : leading quote (quote :: cs) = leading quote cs + 1 := if_pos rfl
  have notThree : leading quote (quote :: cs) ≠ 3 := by omega
  have atMostFive : leading quote (quote :: cs) ≤ 5 := by omega
  simp [quotePiece?, notThree, atMostFive]

/-- Three quotes and no more close a block. -/
theorem quotePiece?_close {quote : Char} (ends : rest.head? ≠ some quote) :
    quotePiece? quote (quote :: quote :: quote :: rest) = some (.close rest) := by
  simp [quotePiece?, leading, leading_eq_zero ends]

theorem fewQuotes_of_head {quote : Char} {run : Nat} (atMostTwo : run ≤ 2)
    (other : cs.head? ≠ some quote) : FewQuotes quote run cs := by
  have none : leading quote cs = 0 := leading_eq_zero other
  unfold FewQuotes
  omega

theorem head?_basicChar (unquoted : c ≠ '"') (more : List Char) :
    (basicChar c ++ more).head? ≠ some '"' := by
  by_cases isBreak : c = '\n'
  · subst isBreak
    simp [show basicChar '\n' = ['\n'] from rfl]
  · rcases basicChar_cases isBreak with ⟨itself, _⟩ | ⟨_, _, escaped, _⟩
    · simp [itself, unquoted]
    · simp [escaped]

/-- Of the quotes of a written block, at most two in a row are not escaped. -/
theorem fewQuotes_basicBlockBody {run : Nat} (atMostTwo : run ≤ 2)
    (ends : rest.head? ≠ some '"') (text : List Char) :
    FewQuotes '"' run (basicBlockBody run text ++ '"' :: '"' :: '"' :: rest) := by
  induction text generalizing run with
  | nil =>
      right
      simp only [basicBlockBody, List.nil_append, leading, leading_eq_zero ends, if_true]
      omega
  | cons c text inductionHypothesis =>
      unfold basicBlockBody
      split
      · split
        · exact fewQuotes_of_head atMostTwo (by simp)
        · have few : FewQuotes '"' (run + 1) _ := inductionHypothesis (by omega)
          unfold FewQuotes at few ⊢
          simp only [List.cons_append, leading, if_true]
          omega
      · rename_i unquoted
        rw [List.append_assoc]
        exact fewQuotes_of_head atMostTwo (head?_basicChar unquoted _)

/-- Of the quotes of a text without three in a row, at most two in a row are not the
closing ones. -/
theorem fewQuotes_of_not_hasRun {quote : Char} {run : Nat}
    (ends : rest.head? ≠ some quote) (noRun : hasRun quote 3 run text = false) :
    FewQuotes quote run (text ++ quote :: quote :: quote :: rest) := by
  induction text generalizing run with
  | nil =>
      simp only [hasRun, decide_eq_false_iff_not] at noRun
      right
      simp only [List.nil_append, leading, leading_eq_zero ends, if_true]
      omega
  | cons c text inductionHypothesis =>
      simp only [hasRun, Bool.or_eq_false_iff, decide_eq_false_iff_not] at noRun
      obtain ⟨atMostTwo, noRun⟩ := noRun
      by_cases isQuote : c = quote
      · rw [if_pos isQuote] at noRun
        have few := inductionHypothesis noRun
        unfold FewQuotes at few ⊢
        simp only [List.cons_append, leading, if_pos isQuote]
        omega
      · exact fewQuotes_of_head (by omega) (by simpa using isQuote)

/-- A character in a basic form is one piece of a block. -/
theorem basicBlockPiece?_basicChar (unquoted : c ≠ '"') (more : List Char) :
    basicBlockPiece? (basicChar c ++ more) = some (.char c more) := by
  by_cases isBreak : c = '\n'
  · subst isBreak
    rfl
  · rcases basicChar_cases isBreak with ⟨itself, plain, noEscape⟩ |
      ⟨letter, code, escaped, member, reads⟩
    · simp [itself, basicBlockPiece?, unquoted, noEscape, plain]
    · have reads := reads more
      have noFold : newline? (skipBlanks (letter :: code ++ more)) = none := by
        simp only [List.mem_cons, List.not_mem_nil, or_false] at member
        rcases member with rfl | rfl | rfl | rfl | rfl | rfl <;> rfl
      rw [List.cons_append] at reads noFold
      simp [escaped, basicBlockPiece?, foldPiece?, noFold, reads]

theorem spells_basicBlockBody {run : Nat} (atMostTwo : run ≤ 2)
    (ends : rest.head? ≠ some '"') (text : List Char) :
    Spells basicBlockPiece? (basicBlockBody run text ++ '"' :: '"' :: '"' :: rest)
      text rest := by
  induction text generalizing run with
  | nil => exact spells_close (quotePiece?_close ends)
  | cons c text inductionHypothesis =>
      unfold basicBlockBody
      split
      · rename_i isQuote
        subst isQuote
        split
        · have others := inductionHypothesis (Nat.zero_le 2)
          exact others.char ['\\', '"'] rfl (List.cons_ne_nil _ _)
        · have others := inductionHypothesis (show run + 1 ≤ 2 by omega)
          have few := fewQuotes_basicBlockBody (show run + 1 ≤ 2 by omega) ends text
          exact others.char ['"'] (quotePiece?_of_few few)
            (List.cons_ne_nil _ _)
      · rename_i unquoted
        rw [List.append_assoc]
        exact (inductionHypothesis (Nat.zero_le 2)).char _
          (basicBlockPiece?_basicChar unquoted _) (basicChar_ne_nil c)

theorem spells_literalBlock {run : Nat} (plain : ∀ c ∈ text, needsEscape c = false)
    (ends : rest.head? ≠ some '\'') (noRun : hasRun '\'' 3 run text = false) :
    Spells literalBlockPiece? (text ++ '\'' :: '\'' :: '\'' :: rest) text rest := by
  induction text generalizing run with
  | nil => exact spells_close (quotePiece?_close ends)
  | cons c text inductionHypothesis =>
      simp only [hasRun, Bool.or_eq_false_iff, decide_eq_false_iff_not] at noRun
      have others := inductionHypothesis
        (fun c member => plain c (List.mem_cons_of_mem _ member)) noRun.2
      refine others.char [c] ?_ (List.cons_ne_nil _ _)
      by_cases isQuote : c = '\''
      · subst isQuote
        exact quotePiece?_of_few (fewQuotes_of_not_hasRun ends noRun.2)
      · by_cases isBreak : c = '\n'
        · subst isBreak
          rfl
        · have isPlain := isPlain_of_not_needsEscape (plain c List.mem_cons_self) isBreak
          simp [literalBlockPiece?, isQuote, isPlain]

/-! ## All forms -/

/-- The text does not begin with a quote. -/
def Unquoted (rest : List Char) : Prop :=
  rest.head? ≠ some '"' ∧ rest.head? ≠ some '\''

/-- One quote and then none, or only one more, do not open a block. -/
theorem not_block {quote : Char} (ends : rest.head? ≠ some quote)
    (starts : text = [] ∨ text.head? ≠ some quote) :
    [quote, quote, quote].isPrefixOf (quote :: (text ++ quote :: rest)) = false := by
  cases text with
  | nil =>
      cases rest with
      | nil => simp
      | cons c rest =>
          have other : quote ≠ c := fun same => ends (congrArg some same.symm)
          simp [List.isPrefixOf, other]
  | cons c text =>
      have other : quote ≠ c := by
        rcases starts with empty | starts
        · cases empty
        · exact fun same => starts (congrArg some same.symm)
      simp [List.isPrefixOf, other]

theorem string?_basic (ends : Unquoted rest) (text : List Char) :
    string? (writeForm .basic text ++ rest) = some (text, rest) := by
  have starts : basicBody text = [] ∨ (basicBody text).head? ≠ some '"' := by
    cases text with
    | nil => exact .inl rfl
    | cons c text =>
        right
        rw [basicBody, List.flatMap_cons]
        split
        · simp
        split
        · simp
        · rename_i unquoted _
          exact head?_basicChar unquoted _
  have notBlock := not_block ends.1 starts
  have body := (spells_basicBody text rest).body?
  simp only [writeForm, List.append_assoc, List.cons_append, List.nil_append, string?]
  rw [notBlock]
  simpa [lineString?] using body

theorem string?_literal (ends : Unquoted rest)
    (plain : ∀ c ∈ text, isPlain c = true ∧ c ≠ '\'') :
    string? (writeForm .literal text ++ rest) = some (text, rest) := by
  have starts : text = [] ∨ text.head? ≠ some '\'' := by
    cases text with
    | nil => exact .inl rfl
    | cons c text => exact .inr (by simpa using (plain c List.mem_cons_self).2)
  have notBlock := not_block ends.2 starts
  have body := (spells_literal plain rest).body?
  simp only [writeForm, List.append_assoc, List.cons_append, List.nil_append, string?]
  rw [notBlock]
  simpa [lineString?] using body

theorem newline?_of_plain (plain : isPlain c = true) (more : List Char) :
    newline? (c :: more) = none := by
  have noBreak : c ≠ '\n' := by
    rintro rfl
    cases plain
  have noReturn : c ≠ '\r' := by
    rintro rfl
    cases plain
  unfold newline?
  split
  · simp_all
  · simp_all
  · rfl

/-- What is skipped after the opening quotes of a block is what was put there. -/
theorem skipNewline_blockStart (body : List Char)
    (starts : text.contains '\n' = false → newline? body = none) :
    skipNewline (blockStart text ++ body) = body := by
  unfold blockStart
  split
  · rfl
  · rename_i unbroken
    rw [List.nil_append, skipNewline, starts (by simpa using unbroken), Option.getD_none]

theorem string?_basicBlock (ends : Unquoted rest) (text : List Char) :
    string? (writeForm .basicBlock text ++ rest) = some (text, rest) := by
  have start : skipNewline (blockStart text ++
      (basicBlockBody 0 text ++ '"' :: '"' :: '"' :: rest)) =
      basicBlockBody 0 text ++ '"' :: '"' :: '"' :: rest := by
    apply skipNewline_blockStart
    intro unbroken
    cases text with
    | nil => rfl
    | cons c text =>
        unfold basicBlockBody
        split
        · rfl
        · have noBreak : c ≠ '\n' := by
            rintro rfl
            simp at unbroken
          rcases basicChar_cases noBreak with ⟨itself, plain, _⟩ | ⟨_, _, escaped, _⟩
          · rw [itself]
            exact newline?_of_plain plain _
          · rw [escaped]
            exact newline?_of_plain (by decide) _
  have body := (spells_basicBlockBody (Nat.zero_le 2) ends.1 text).body?
  simp [writeForm, string?, List.isPrefixOf, start, body]

theorem string?_literalBlock (ends : Unquoted rest)
    (plain : ∀ c ∈ text, needsEscape c = false) (noRun : hasRun '\'' 3 0 text = false) :
    string? (writeForm .literalBlock text ++ rest) = some (text, rest) := by
  have start : skipNewline (blockStart text ++ (text ++ '\'' :: '\'' :: '\'' :: rest)) =
      text ++ '\'' :: '\'' :: '\'' :: rest := by
    apply skipNewline_blockStart
    intro unbroken
    cases text with
    | nil => rfl
    | cons c text =>
        have noBreak : c ≠ '\n' := by
          rintro rfl
          simp at unbroken
        exact newline?_of_plain
          (isPlain_of_not_needsEscape (plain c List.mem_cons_self) noBreak) _
  have body := (spells_literalBlock plain ends.2 noRun).body?
  simp [writeForm, string?, List.isPrefixOf, start, body]

/-! ## Written strings -/

/-- The form can hold the text. -/
def Form.Holds : Form → List Char → Prop
  | .basic, _ => True
  | .literal, text => ∀ c ∈ text, isPlain c = true ∧ c ≠ '\''
  | .basicBlock, _ => True
  | .literalBlock, text =>
      (∀ c ∈ text, needsEscape c = false) ∧ hasRun '\'' 3 0 text = false

/-- The form that is chosen can hold the text. -/
theorem holds_of_formOf {form : Form} (isForm : formOf text = .ok form) :
    form.Holds text := by
  simp only [formOf, Checked.bind_eq_ok_iff, pure, Except.pure, Except.ok.injEq] at isForm
  obtain ⟨singles, countSingles, doubles, _, rfl⟩ := isForm
  simp only [plainestForm]
  split
  · trivial
  split
  · rename_i literal
    simp only [Bool.and_eq_true, Bool.not_eq_true', List.any_eq_false, decide_eq_true_iff,
      List.contains_eq_mem, decide_eq_false_iff_not] at literal
    obtain ⟨⟨plain, rfl⟩, unbroken⟩ := literal
    refine fun c member => ⟨?_, fun isQuote => ?_⟩
    · exact isPlain_of_not_needsEscape (by simpa using plain c member)
        fun isBreak => unbroken (isBreak ▸ member)
    · exact not_mem_of_longestRun countSingles (isQuote ▸ member)
  split
  · trivial
  split
  · rename_i literal
    simp only [Bool.and_eq_true, Bool.not_eq_true', List.any_eq_false,
      decide_eq_true_iff] at literal
    obtain ⟨plain, few⟩ := literal
    exact ⟨fun c member => by simpa using plain c member,
      not_hasRun_of_longestRun countSingles few⟩
  split
  · trivial
  · trivial

/-- A form that can hold a text is read as the text. -/
theorem string?_writeForm (ends : Unquoted rest) {form : Form} (holds : form.Holds text) :
    string? (writeForm form text ++ rest) = some (text, rest) := by
  cases form with
  | basic => exact string?_basic ends text
  | literal => exact string?_literal ends holds
  | basicBlock => exact string?_basicBlock ends text
  | literalBlock => exact string?_literalBlock ends holds.1 holds.2

/-- What is written for a string is one of its forms that can hold it. -/
theorem writeString_eq_ok_iff {text : String} {written : List Char} :
    writeString text = .ok written ↔
      ∃ form, formOf text.toList = .ok form ∧ writeForm form text.toList = written := by
  simp only [writeString, Checked.bind_eq_ok_iff, pure, Except.pure, Except.ok.injEq]

/-- Reading a written string gives the string. -/
theorem string?_writeString {text : String} {written : List Char}
    (isWritten : writeString text = .ok written) (ends : Unquoted rest) :
    string? (written ++ rest) = some (text.toList, rest) := by
  obtain ⟨form, isForm, rfl⟩ := writeString_eq_ok_iff.mp isWritten
  exact string?_writeForm ends (holds_of_formOf isForm)

/-! ## Strings that cannot be written -/

/-- Nowhere in the text stand 256 equal quotes in a row. -/
def QuotesFit (text : String) : Prop :=
  ∀ quote ∈ ['\'', '"'], ¬ List.replicate 256 quote <:+: text.toList

/-- A string with too many quotes in a row cannot be written. -/
theorem overflowsWhen_writeString (text : String) :
    OverflowsWhen (¬ QuotesFit text) (writeString text) := by
  have form := (overflowsWhen_longestRun '\'' text.toList).bind fun singles =>
    (overflowsWhen_longestRun '"' text.toList).map fun doubles =>
      plainestForm singles doubles text.toList
  have written := form.map fun form => writeForm form text.toList
  refine written.congr ?_
  simp only [QuotesFit, List.forall_mem_cons, List.not_mem_nil, false_implies, implies_true,
    and_true, not_and_or, not_not]

end Inkwell.Toml
