import Inkwell.Config
import Inkwell.Proofs.Toml.Numbers
import Inkwell.Proofs.Toml.Strings

/-!
# Written lines are read back

Lines with keys and values, and headers, are read as the statements they were written
for, whatever lines come after them.
-/

namespace Inkwell.Toml

variable {cs rest more : List Char} {c : Char}

theorem Ends.unquoted (ends : Ends rest) : Unquoted rest := by
  obtain ⟨last, more, rfl, member⟩ := ends
  simp only [List.mem_cons, List.not_mem_nil, or_false] at member
  rcases member with rfl | rfl | rfl <;> exact ⟨by simp, by simp⟩

/-! ## Values -/

/-- The characters are read as the value, where a value that is not nested may stand,
and they begin with the value. -/
structure Written (cs : List Char) (value : Value) : Prop where
  starts : ∃ c more, cs = c :: more ∧ c ∉ [' ', '\t']
  reads : ∀ {fuel depth : Nat} {rest : List Char}, cs.length < fuel → Ends rest →
    value? fuel (depth + 1) (cs ++ rest) = some (value, rest)

theorem value?_of_plain {fuel depth : Nat} (noArray : c ≠ '[') (noTable : c ≠ '\x7b') :
    value? (fuel + 1) depth (c :: cs) = plainValue? (c :: cs) := by
  rw [value?.eq_def]
  simp only
  split <;> simp_all

section Strings

variable {text : String} {written : List Char}

/-- A string begins with one of the quotes. -/
theorem writeString_starts (isWritten : writeString text = .ok written) :
    ∃ c more, written = c :: more ∧ (c = '"' ∨ c = '\'') := by
  obtain ⟨form, _, rfl⟩ := writeString_eq_ok_iff.mp isWritten
  cases form
  · exact ⟨_, _, rfl, .inl rfl⟩
  · exact ⟨_, _, rfl, .inr rfl⟩
  · exact ⟨_, _, rfl, .inl rfl⟩
  · exact ⟨_, _, rfl, .inr rfl⟩

theorem value?_writeString (isWritten : writeString text = .ok written)
    (ends : Ends rest) (fuel depth : Nat) :
    value? (fuel + 1) depth (written ++ rest) = some (.string text, rest) := by
  have reads := string?_writeString isWritten ends.unquoted
  obtain ⟨c, more, isText, quote⟩ := writeString_starts isWritten
  rw [isText, List.cons_append] at reads ⊢
  have noArray : c ≠ '[' := by rcases quote with rfl | rfl <;> decide
  have noTable : c ≠ '\x7b' := by rcases quote with rfl | rfl <;> decide
  rw [value?_of_plain noArray noTable, plainValue?]
  simp [quote, reads]

theorem written_string (isWritten : writeString text = .ok written) :
    Written written (.string text) := by
  constructor
  · obtain ⟨c, more, isText, quote⟩ := writeString_starts isWritten
    exact ⟨c, more, isText, by rcases quote with rfl | rfl <;> decide⟩
  · intro fuel depth rest enough ends
    obtain ⟨fuel, rfl⟩ := Nat.exists_eq_succ_of_ne_zero (Nat.ne_zero_of_lt enough)
    exact value?_writeString isWritten ends fuel _

end Strings

theorem written_number {n : Nat} (fits : n < 9223372036854775808) :
    Written (Config.number n) (.integer n) := by
  obtain ⟨c, more, isDigits⟩ : ∃ c more, Nat.toDigits 10 n = c :: more :=
    List.exists_cons_of_ne_nil Nat.toDigits_ne_nil
  have digit : c.isDigit = true := isDigit_of_mem_number (isDigits ▸ List.mem_cons_self)
  have other {d : Char} (noDigit : d.isDigit = false) : c ≠ d := by
    rintro rfl
    simp [digit] at noDigit
  constructor
  · refine ⟨c, more, isDigits, ?_⟩
    simp [other (show ' '.isDigit = false from rfl),
      other (show '\t'.isDigit = false from rfl)]
  · intro fuel depth rest enough ends
    obtain ⟨fuel, rfl⟩ := Nat.exists_eq_succ_of_ne_zero (Nat.ne_zero_of_lt enough)
    have reads := number?_toDigits ends fits
    rw [Config.number]
    rw [isDigits, List.cons_append] at reads ⊢
    rw [value?_of_plain (other rfl) (other rfl), plainValue?]
    simp [other, reads]

theorem written_boolean (b : Bool) :
    Written (if b then "true".toList else "false".toList) (.boolean b) := by
  constructor
  · cases b
    · exact ⟨_, _, rfl, by decide⟩
    · exact ⟨_, _, rfl, by decide⟩
  · intro fuel depth rest enough _
    obtain ⟨fuel, rfl⟩ := Nat.exists_eq_succ_of_ne_zero (Nat.ne_zero_of_lt enough)
    cases b
    · rfl
    · rfl

/-! ## Lists of strings -/

/-- A list is written when its first element and the others are. -/
theorem writeEach_cons_eq_ok_iff {α : Type} {write : α → Checked (List Char)} {a : α}
    {as : List α} {written : List Char} :
    Config.writeEach write (a :: as) = .ok written ↔
      ∃ first others, write a = .ok first ∧ Config.writeEach write as = .ok others ∧
        first ++ others = written := by
  simp only [Config.writeEach, Checked.bind_eq_ok_iff, pure, Except.pure, Except.ok.injEq,
    exists_and_left]

theorem item_eq_ok_iff {text : String} {line : List Char} :
    Config.item text = .ok line ↔ ∃ written, writeString text = .ok written ∧
      [' ', ' ', ' ', ' '] ++ written ++ [',', '\n'] = line := by
  simp only [Config.item, Checked.bind_eq_ok_iff, pure, Except.pure, Except.ok.injEq]

theorem skipTrivia_of_head {fuel : Nat} (found : skipSpace cs = c :: more)
    (noComment : c ≠ '#') : skipTrivia (fuel + 1) cs = c :: more := by
  rw [skipTrivia, found]
  split <;> simp_all

theorem skipSpace_blank (blank : c ∈ [' ', '\t', '\n']) (more : List Char) :
    skipSpace (c :: more) = skipSpace more := by
  simp only [List.mem_cons, List.not_mem_nil, or_false] at blank
  rw [skipSpace.eq_def]
  simp [blank]

theorem skipSpace_of_head (starts : c ∉ [' ', '\t', '\n', '\r']) :
    skipSpace (c :: more) = c :: more := by
  simp only [List.mem_cons, List.not_mem_nil, or_false, not_or] at starts
  rw [skipSpace.eq_def]
  simp [starts]

section Items

variable {text : String} {written : List Char}

/-- Skipping to a string finds it. -/
theorem skipTrivia_writeString {fuel : Nat} (isWritten : writeString text = .ok written)
    (found : skipSpace cs = written ++ more) :
    skipTrivia (fuel + 1) cs = written ++ more := by
  obtain ⟨c, tail, isText, quote⟩ := writeString_starts isWritten
  rw [isText, List.cons_append] at found ⊢
  refine skipTrivia_of_head found ?_
  rcases quote with rfl | rfl <;> decide

theorem skipSpace_writeString (isWritten : writeString text = .ok written)
    (more : List Char) : skipSpace (written ++ more) = written ++ more := by
  obtain ⟨c, tail, isText, quote⟩ := writeString_starts isWritten
  rw [isText, List.cons_append]
  refine skipSpace_of_head ?_
  rcases quote with rfl | rfl <;> decide

/-- A string and a comma are followed by the other items. -/
theorem items?_next {fuel depth : Nat} {others : List Value}
    (isWritten : writeString text = .ok written)
    (found : skipSpace cs = written ++ ',' :: more)
    (reads : items? (fuel + 1) depth more = some (others, rest)) :
    items? (fuel + 2) depth cs = some (.string text :: others, rest) := by
  have isItem := value?_writeString isWritten ⟨',', more, rfl, by decide⟩ fuel depth
  have trivia : skipTrivia (fuel + 1) cs = written ++ ',' :: more :=
    skipTrivia_writeString isWritten found
  have comma : skipTrivia (fuel + 1) (',' :: more) = ',' :: more :=
    skipTrivia_of_head (skipSpace_of_head (by decide)) (by decide)
  obtain ⟨c, tail, isText, quote⟩ := writeString_starts isWritten
  rw [items?.eq_def]
  simp only [trivia]
  rw [isText, List.cons_append] at isItem ⊢
  split
  · simp_all
  · simp [isItem, comma, reads]

/-- A string and the closing bracket are the last item. -/
theorem items?_last {fuel depth : Nat} (isWritten : writeString text = .ok written)
    (rest : List Char) :
    items? (fuel + 2) depth (written ++ ']' :: rest) = some ([.string text], rest) := by
  have isItem := value?_writeString isWritten ⟨']', rest, rfl, by decide⟩ fuel depth
  have trivia : skipTrivia (fuel + 1) (written ++ ']' :: rest) = written ++ ']' :: rest :=
    skipTrivia_writeString isWritten (skipSpace_writeString isWritten _)
  have bracket : skipTrivia (fuel + 1) (']' :: rest) = ']' :: rest :=
    skipTrivia_of_head (skipSpace_of_head (by decide)) (by decide)
  obtain ⟨c, tail, isText, quote⟩ := writeString_starts isWritten
  rw [items?.eq_def]
  simp only [trivia]
  rw [isText, List.cons_append] at isItem ⊢
  split
  · simp_all
  · simp [isItem, bracket]

end Items

theorem items?_nil {fuel depth : Nat} (found : skipSpace cs = ']' :: rest) :
    items? (fuel + 2) depth cs = some ([], rest) := by
  have bracket : skipTrivia (fuel + 1) cs = ']' :: rest :=
    skipTrivia_of_head found (by decide)
  rw [items?.eq_def]
  simp [bracket]

/-- The items of a list of strings that has several lines. -/
theorem items?_lines {fuel depth : Nat} {texts : List String} {written : List Char}
    (isWritten : Config.writeEach Config.item texts = .ok written)
    (enough : written.length + 1 < fuel) (rest : List Char) :
    items? fuel depth ('\n' :: (written ++ ']' :: rest)) =
      some (texts.map .string, rest) := by
  induction texts generalizing fuel written with
  | nil =>
      cases isWritten
      obtain ⟨fuel, rfl⟩ : ∃ n, fuel = n + 2 := Nat.exists_eq_add_of_le' enough
      refine items?_nil ?_
      rw [skipSpace_blank (by decide), List.nil_append, skipSpace_of_head (by decide)]
  | cons text texts inductionHypothesis =>
      obtain ⟨_, others, isItem, areOthers, rfl⟩ := writeEach_cons_eq_ok_iff.mp isWritten
      obtain ⟨first, isFirst, rfl⟩ := item_eq_ok_iff.mp isItem
      simp only [List.length_append, List.length_cons, List.length_nil] at enough
      obtain ⟨fuel, rfl⟩ : ∃ n, fuel = n + 2 := Nat.exists_eq_add_of_le' (by omega)
      have after : items? (fuel + 1) depth _ = some (texts.map .string, rest) :=
        inductionHypothesis areOthers (by omega)
      refine items?_next isFirst ?_ after
      simp [skipSpace_blank, skipSpace_writeString isFirst]

theorem written_texts {texts : List String} {written : List Char}
    (isWritten : Config.texts texts = .ok written) :
    Written written (.array (texts.map .string)) := by
  obtain ⟨body, rfl, reads⟩ : ∃ body, written = '[' :: body ∧
      ∀ {fuel depth : Nat} {rest : List Char}, body.length < fuel →
        items? fuel depth (body ++ rest) = some (texts.map .string, rest) := by
    match texts with
    | [] =>
        cases isWritten
        refine ⟨_, rfl, fun {fuel depth rest} enough => ?_⟩
        obtain ⟨fuel, rfl⟩ : ∃ n, fuel = n + 2 := Nat.exists_eq_add_of_le' enough
        exact items?_nil (skipSpace_of_head (by decide))
    | [text] =>
        simp only [Config.texts, Checked.bind_eq_ok_iff, pure, Except.pure,
          Except.ok.injEq] at isWritten
        obtain ⟨first, isFirst, rfl⟩ := isWritten
        refine ⟨first ++ [']'], rfl, fun {fuel depth rest} enough => ?_⟩
        rw [List.length_append, List.length_singleton] at enough
        obtain ⟨fuel, rfl⟩ : ∃ n, fuel = n + 2 := Nat.exists_eq_add_of_le' (by omega)
        rw [List.append_assoc]
        exact items?_last isFirst rest
    | first :: second :: others =>
        simp only [Config.texts, Checked.bind_eq_ok_iff, pure, Except.pure,
          Except.ok.injEq] at isWritten
        obtain ⟨items, areItems, rfl⟩ := isWritten
        refine ⟨'\n' :: (items ++ [']']), by simp, fun {fuel depth rest} enough => ?_⟩
        rw [List.length_cons, List.length_append, List.length_singleton] at enough
        rw [List.cons_append, List.append_assoc]
        exact items?_lines areItems (by omega) rest
  constructor
  · exact ⟨_, _, rfl, by decide⟩
  · intro fuel depth rest enough _
    obtain ⟨fuel, rfl⟩ := Nat.exists_eq_succ_of_ne_zero (Nat.ne_zero_of_lt enough)
    rw [List.cons_append, value?.eq_def]
    simp [reads (Nat.lt_of_succ_lt_succ enough)]

/-! ## Keys -/

/-- The key can be written without quotes. -/
def Bare (key : String) : Prop :=
  key.toList ≠ [] ∧ ∀ c ∈ key.toList, isBare c = true

instance (key : String) : Decidable (Bare key) :=
  decidable_of_iff (key.toList ≠ [] ∧ key.toList.all isBare = true) (by simp [Bare])

/-- The parts can be written as a dotted key without quotes. -/
def BarePath (path : List String) : Prop :=
  (∀ key ∈ path, Bare key) ∧ path ≠ [] ∧ path.length ≤ maxDepth

instance (path : List String) : Decidable (BarePath path) :=
  inferInstanceAs (Decidable (_ ∧ _))

/-- Parts of a key with dots between them. -/
def dotted : List String → List Char
  | [] => []
  | [key] => key.toList
  | key :: path => key.toList ++ '.' :: dotted path

theorem ne_of_isBare {d : Char} (bare : isBare c = true) (other : isBare d = false) :
    c ≠ d := by
  rintro rfl
  simp [bare] at other

theorem Bare.exists_cons {key : String} (bare : Bare key) :
    ∃ c more, key.toList = c :: more ∧ isBare c = true := by
  obtain ⟨c, more, isKey⟩ := List.exists_cons_of_ne_nil bare.1
  exact ⟨c, more, isKey, bare.2 c (isKey ▸ List.mem_cons_self)⟩

theorem skipBlanks_of_head (starts : c ∉ [' ', '\t']) :
    skipBlanks (c :: more) = c :: more := by
  simp only [List.mem_cons, List.not_mem_nil, or_false, not_or] at starts
  simp [skipBlanks, starts]

theorem simpleKey?_bare {key : String} (bare : Bare key) (stops : isBare c = false)
    (after : List Char) :
    simpleKey? (key.toList ++ c :: after) = some (key, c :: after) := by
  have taken : (key.toList ++ c :: after).takeWhile isBare = key.toList := by
    rw [List.takeWhile_append_of_pos bare.2]
    simp [stops]
  have dropped : (key.toList ++ c :: after).dropWhile isBare = c :: after := by
    rw [List.dropWhile_append_of_pos bare.2]
    simp [stops]
  have unquoted : lineString? (key.toList ++ c :: after) = none := by
    obtain ⟨c, more, isKey, isBare⟩ := bare.exists_cons
    rw [isKey, List.cons_append]
    simp [lineString?, ne_of_isBare isBare (show Toml.isBare '"' = false from rfl),
      ne_of_isBare isBare (show Toml.isBare '\'' = false from rfl)]
  simp [simpleKey?, unquoted, taken, dropped, bare.1]

theorem skipBlanks_bare {key : String} (bare : Bare key) (after : List Char) :
    skipBlanks (key.toList ++ after) = key.toList ++ after := by
  obtain ⟨c, more, isKey, isBare⟩ := bare.exists_cons
  rw [isKey, List.cons_append]
  apply skipBlanks_of_head
  simp [ne_of_isBare isBare (show Toml.isBare ' ' = false from rfl),
    ne_of_isBare isBare (show Toml.isBare '\t' = false from rfl)]

theorem dotted_starts {path : List String} (bare : ∀ key ∈ path, Bare key)
    (nonempty : path ≠ []) : ∃ c more, dotted path = c :: more ∧ isBare c = true := by
  match path with
  | [] => exact absurd rfl nonempty
  | [key] => exact (bare key List.mem_cons_self).exists_cons
  | key :: next :: path =>
      obtain ⟨c, more, startsWith, isBare⟩ := (bare key List.mem_cons_self).exists_cons
      exact ⟨c, more ++ '.' :: dotted (next :: path), by simp [dotted, startsWith], isBare⟩

/-- A dotted key is read up to where it stops. -/
theorem key?_dotted {parts : Nat} {path : List String} {after : List Char} {d : Char}
    (bare : ∀ key ∈ path, Bare key) (nonempty : path ≠ []) (short : path.length ≤ parts)
    (stops : isBare c = false) (blanks : skipBlanks (c :: after) = d :: more)
    (ends : d ≠ '.') :
    key? parts (dotted path ++ c :: after) = some (path, d :: more) := by
  induction path generalizing parts with
  | nil => exact absurd rfl nonempty
  | cons key path inductionHypothesis =>
      rw [List.length_cons] at short
      obtain ⟨parts, rfl⟩ : ∃ n, parts = n + 1 := Nat.exists_eq_add_of_le' (by omega)
      have first := bare key List.mem_cons_self
      cases path with
      | nil =>
          simp only [dotted, key?, skipBlanks_bare first, simpleKey?_bare first stops,
            Option.bind_eq_bind, Option.bind_some, blanks]
          split
          · simp_all
          · rfl
      | cons next path =>
          have others := inductionHypothesis
            (fun key member => bare key (List.mem_cons_of_mem _ member))
            (List.cons_ne_nil _ _) (Nat.le_of_succ_le_succ short)
          have dot (more : List Char) : skipBlanks ('.' :: more) = '.' :: more :=
            skipBlanks_of_head (by decide)
          have isFirst := simpleKey?_bare first (show isBare '.' = false from rfl)
          simp [dotted, key?, skipBlanks_bare first, isFirst, dot, others]

/-! ## Statements -/

theorem statement?_assign {fuel : Nat} {key : String} {value : Value} (bare : Bare key)
    (written : Written cs value) (enough : cs.length < fuel) (rest : List Char) :
    statement? fuel (Config.line key cs ++ rest) = some (.assign [key] value, rest) := by
  have isKey : key? maxDepth (key.toList ++ ' ' :: '=' :: ' ' :: (cs ++ '\n' :: rest)) =
      some ([key], '=' :: ' ' :: (cs ++ '\n' :: rest)) :=
    key?_dotted (List.forall_mem_singleton.mpr bare) (List.cons_ne_nil _ _)
      (Nat.le_add_left 1 78) rfl rfl (by decide)
  have toValue : skipBlanks (' ' :: (cs ++ '\n' :: rest)) = cs ++ '\n' :: rest := by
    obtain ⟨c, more, rfl, starts⟩ := written.starts
    exact skipBlanks_of_head starts
  have isValue : value? fuel maxDepth (cs ++ '\n' :: rest) = some (value, '\n' :: rest) :=
    written.reads enough ⟨'\n', rest, rfl, by decide⟩
  have isEnd : lineEnd? ('\n' :: rest) = some rest := rfl
  have line_eq : Config.line key cs ++ rest =
      key.toList ++ ' ' :: '=' :: ' ' :: (cs ++ '\n' :: rest) := by
    simp [Config.line]
  rw [line_eq]
  obtain ⟨c, more, startsWith, isBare⟩ := bare.exists_cons
  have noHeader := ne_of_isBare isBare (show Toml.isBare '[' = false from rfl)
  rw [startsWith, List.cons_append] at isKey ⊢
  unfold statement?
  split
  · simp_all
  · simp_all
  · simp [isKey, expect?, toValue, isValue, isEnd]

theorem statement?_table {fuel : Nat} {path : List String} (bare : BarePath path)
    (rest : List Char) :
    statement? fuel ('[' :: (dotted path ++ ']' :: '\n' :: rest)) =
      some (.table path, rest) := by
  have isKey : key? maxDepth (dotted path ++ ']' :: '\n' :: rest) =
      some (path, ']' :: '\n' :: rest) :=
    key?_dotted bare.1 bare.2.1 bare.2.2 rfl rfl (by decide)
  have isEnd : lineEnd? ('\n' :: rest) = some rest := rfl
  obtain ⟨c, more, startsWith, isBare⟩ := dotted_starts bare.1 bare.2.1
  have single := ne_of_isBare isBare (show Toml.isBare '[' = false from rfl)
  rw [startsWith, List.cons_append] at isKey ⊢
  unfold statement?
  split
  · simp_all
  · simp_all [expect?]
  · simp_all

theorem statement?_tables {fuel : Nat} {path : List String} (bare : BarePath path)
    (rest : List Char) :
    statement? fuel ('[' :: '[' :: (dotted path ++ ']' :: ']' :: '\n' :: rest)) =
      some (.tables path, rest) := by
  have isKey : key? maxDepth (dotted path ++ ']' :: ']' :: '\n' :: rest) =
      some (path, ']' :: ']' :: '\n' :: rest) :=
    key?_dotted bare.1 bare.2.1 bare.2.2 rfl rfl (by decide)
  have isEnd : lineEnd? ('\n' :: rest) = some rest := rfl
  simp [statement?, isKey, expect?, isEnd]

/-! ## Texts -/

/-- The text consists of the statements. -/
def Reads (cs : List Char) (lines : List Statement) : Prop :=
  ∀ fuel, cs.length < fuel → statements? fuel cs = some lines

variable {lines : List Statement}

theorem reads_nil : Reads [] [] := by
  intro fuel enough
  obtain ⟨fuel, rfl⟩ := Nat.exists_eq_succ_of_ne_zero (Nat.ne_zero_of_lt enough)
  rfl

/-- An empty line does not count. -/
theorem Reads.newline (reads : Reads rest lines) : Reads ('\n' :: rest) lines := by
  intro fuel enough
  obtain ⟨fuel, rfl⟩ := Nat.exists_eq_succ_of_ne_zero (Nat.ne_zero_of_lt enough)
  exact reads fuel (Nat.lt_of_succ_lt_succ enough)

/-- A line that begins with its statement goes before those that follow. -/
theorem Reads.statement {line : Statement} (reads : Reads rest lines)
    (starts : c ∉ [' ', '\t', '#', '\n', '\r'])
    (isLine : ∀ fuel, cs.length < fuel →
      statement? fuel (c :: cs ++ rest) = some (line, rest)) :
    Reads (c :: cs ++ rest) (line :: lines) := by
  intro fuel enough
  obtain ⟨fuel, rfl⟩ := Nat.exists_eq_succ_of_ne_zero (Nat.ne_zero_of_lt enough)
  rw [List.cons_append, List.length_cons, List.length_append] at enough
  have first := isLine fuel (by omega)
  have others := reads fuel (by omega)
  simp only [List.mem_cons, List.not_mem_nil, or_false, not_or] at starts
  have blanks : skipBlanks (c :: cs ++ rest) = c :: cs ++ rest :=
    skipBlanks_of_head (by simp [starts])
  rw [statements?.eq_def]
  simp only [blanks]
  rw [List.cons_append] at first ⊢
  split <;> simp_all

/-- A line with a key and its value. -/
theorem Reads.line (reads : Reads rest lines) (key : String) (bare : Bare key)
    {value : Value} (written : Written cs value) :
    Reads (Config.line key cs ++ rest) (.assign [key] value :: lines) := by
  obtain ⟨c, more, startsWith, isBare⟩ := bare.exists_cons
  have line_eq : Config.line key cs = c :: (more ++ [' ', '=', ' '] ++ cs ++ ['\n']) := by
    simp [Config.line, startsWith]
  have starts : c ∉ [' ', '\t', '#', '\n', '\r'] := by
    intro member
    simp only [List.mem_cons, List.not_mem_nil, or_false] at member
    rcases member with rfl | rfl | rfl | rfl | rfl <;> exact absurd isBare (by decide)
  rw [line_eq]
  refine reads.statement starts fun fuel enough => ?_
  simp only [List.length_append] at enough
  rw [← line_eq]
  exact statement?_assign bare written (by omega) rest

/-- A header in single brackets. -/
theorem Reads.table (reads : Reads rest lines) (text : String) (path : List String)
    (isText : text.toList = '[' :: (dotted path ++ [']'])) (bare : BarePath path) :
    Reads (Config.header text ++ rest) (.table path :: lines) := by
  have header_eq : Config.header text ++ rest =
      '\n' :: ('[' :: (dotted path ++ [']', '\n']) ++ rest) := by
    simp [Config.header, isText]
  rw [header_eq]
  refine (reads.statement (by decide) fun fuel _ => ?_).newline
  simpa using statement?_table bare rest

/-- A header in double brackets. -/
theorem Reads.tables (reads : Reads rest lines) (text : String) (path : List String)
    (isText : text.toList = '[' :: '[' :: (dotted path ++ [']', ']']))
    (bare : BarePath path) :
    Reads (Config.header text ++ rest) (.tables path :: lines) := by
  have header_eq : Config.header text ++ rest =
      '\n' :: ('[' :: '[' :: (dotted path ++ [']', ']', '\n']) ++ rest) := by
    simp [Config.header, isText]
  rw [header_eq]
  refine (reads.statement (by decide) fun fuel _ => ?_).newline
  simpa using statement?_tables bare rest

end Inkwell.Toml
