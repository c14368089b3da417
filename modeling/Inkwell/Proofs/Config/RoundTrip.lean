import Inkwell.Proofs.Toml.Lines

/-!
# Configurations survive writing

A written configuration is read line by line into statements, the statements build a
document, and the document gives back the configuration: with all its strings, also
when a list is empty that has other values to fall back on.
-/

namespace Inkwell

namespace Config

open Toml

/-! ## The lines of a configuration -/

/-- The statements of a range. -/
def rangeLines (range : CodeRange) : List Statement :=
  [.assign ["start"] (.integer range.low.toNat),
    .assign ["end"] (.integer range.high.toNat)]

/-- The statements of a rule. -/
def ruleLines (rule : JoinRule) : List Statement :=
  [.tables ["segmentation", "rules"], .assign ["name"] (.string rule.name)]
    ++ .table ["segmentation", "rules", "first"] :: rangeLines rule.first
    ++ .table ["segmentation", "rules", "second"] :: rangeLines rule.second

/-- The statements of the rules. -/
def rulesLines : List JoinRule → List Statement
  | [] => [.table ["segmentation"], .assign ["rules"] (.array [])]
  | rules => rules.flatMap ruleLines

/-- The statements of the fonts. -/
def fontsLines (fonts : FontsConfig) : List Statement :=
  [.assign ["base"] (.array (fonts.base.map .string)),
    .assign ["emoji"] (.array (fonts.emoji.map .string)),
    .assign ["symbol"] (.array (fonts.symbol.map .string)),
    .assign ["font_dirs"] (.array (fonts.fontDirs.map .string)),
    .assign ["bitmap_tables"] (.array (fonts.bitmapTables.map .string)),
    .assign ["system_fonts"] (.boolean fonts.systemFonts)]

/-- The statements before those of the rules. -/
def frontLines (config : Config) : List Statement :=
  [.assign ["font_size_px"] (.integer config.size.toNat),
    .assign ["coverage_threshold"] (.integer config.threshold.toNat),
    .table ["cache"], .assign ["capacity"] (.integer config.capacity.toNat),
    .table ["fonts"]]
    ++ fontsLines config.fonts

/-- The statements of a configuration. -/
def lines (config : Config) : List Statement :=
  config.frontLines ++ rulesLines config.rules.rules

variable {rest : List Char} {statements : List Statement}

theorem reads_range (reads : Reads rest statements) (range : CodeRange) :
    Reads (writeRange range ++ rest) (rangeLines range ++ statements) := by
  have low := written_number (Nat.lt_trans range.low.toNat_lt (by decide))
  have high := written_number (Nat.lt_trans range.high.toNat_lt (by decide))
  have all := (reads.line "end" (by decide) high).line "start" (by decide) low
  simpa [writeRange, rangeLines] using all

theorem reads_rule (reads : Reads rest statements) {rule : JoinRule} {written : List Char}
    (isWritten : writeRule rule = .ok written) :
    Reads (written ++ rest) (ruleLines rule ++ statements) := by
  simp only [writeRule, Checked.bind_eq_ok_iff, pure, Except.pure,
    Except.ok.injEq] at isWritten
  obtain ⟨name, isName, rfl⟩ := isWritten
  have second := (reads_range reads rule.second).table "[segmentation.rules.second]"
    ["segmentation", "rules", "second"] rfl (by decide)
  have first := (reads_range second rule.first).table "[segmentation.rules.first]"
    ["segmentation", "rules", "first"] rfl (by decide)
  have all := (first.line "name" (by decide) (written_string isName)).tables
    "[[segmentation.rules]]" ["segmentation", "rules"] rfl (by decide)
  simpa only [ruleLines, List.append_assoc, List.cons_append, List.nil_append] using all

theorem reads_rules {rules : List JoinRule} {written : List Char}
    (areWritten : writeRules rules = .ok written) :
    Reads written (rulesLines rules) := by
  have each {rules : List JoinRule} {written : List Char}
      (areWritten : writeEach writeRule rules = .ok written) :
      Reads written (rules.flatMap ruleLines) := by
    induction rules generalizing written with
    | nil =>
        cases areWritten
        exact reads_nil
    | cons rule rules inductionHypothesis =>
        obtain ⟨first, others, isFirst, areOthers, rfl⟩ :=
          writeEach_cons_eq_ok_iff.mp areWritten
        exact reads_rule (inductionHypothesis areOthers) isFirst
  cases rules with
  | nil =>
      cases areWritten
      have noTexts : texts [] = .ok ['[', ']'] := rfl
      have empty := (reads_nil.line "rules" (by decide) (written_texts noTexts)).table
        "[segmentation]" ["segmentation"] rfl (by decide)
      simpa [rulesLines] using empty
  | cons rule rules => exact each areWritten

theorem reads_fonts (reads : Reads rest statements) {fonts : FontsConfig}
    {written : List Char} (isWritten : writeFonts fonts = .ok written) :
    Reads (written ++ rest) (fontsLines fonts ++ statements) := by
  simp only [writeFonts, Checked.bind_eq_ok_iff, pure, Except.pure,
    Except.ok.injEq] at isWritten
  obtain ⟨base, isBase, emoji, isEmoji, symbol, isSymbol, fontDirs, areFontDirs,
    bitmapTables, areBitmapTables, rfl⟩ := isWritten
  have all := (((((reads.line "system_fonts" (by decide)
    (written_boolean fonts.systemFonts)).line "bitmap_tables" (by decide)
    (written_texts areBitmapTables)).line "font_dirs" (by decide)
    (written_texts areFontDirs)).line "symbol" (by decide)
    (written_texts isSymbol)).line "emoji" (by decide)
    (written_texts isEmoji)).line "base" (by decide) (written_texts isBase)
  simpa only [fontsLines, List.append_assoc, List.cons_append, List.nil_append] using all

/-- A written configuration consists of its lines. -/
theorem reads_render {config : Config} {written : List Char}
    (fits : config.capacity.toNat ≤ 9223372036854775807)
    (isWritten : config.render = .ok written) :
    Reads written config.lines := by
  simp only [render, Checked.bind_eq_ok_iff, pure, Except.pure,
    Except.ok.injEq] at isWritten
  obtain ⟨fontsText, areFonts, rulesText, areRules, rfl⟩ := isWritten
  have size := written_number (Nat.lt_trans config.size.toNat_lt (by decide))
  have threshold := written_number (Nat.lt_trans config.threshold.toNat_lt (by decide))
  have capacity := written_number (Nat.lt_succ_of_le fits)
  have fonts := (reads_fonts (reads_rules areRules) areFonts).table
    "[fonts]" ["fonts"] rfl (by decide)
  have cache := (fonts.line "capacity" (by decide) capacity).table
    "[cache]" ["cache"] rfl (by decide)
  have all := (cache.line "coverage_threshold" (by decide) threshold).line
    "font_size_px" (by decide) size
  simpa [lines, frontLines] using all

/-! ## The document of a configuration -/

/-- The table of a range. -/
def rangeTable (range : CodeRange) : Value :=
  .table .header
    [("start", .integer range.low.toNat), ("end", .integer range.high.toNat)]

/-- The entries of a rule. -/
def ruleEntries (rule : JoinRule) : Entries :=
  [("name", .string rule.name), ("first", rangeTable rule.first),
    ("second", rangeTable rule.second)]

/-- The table of the rules, which their headers imply. -/
def rulesTable : List JoinRule → Value
  | [] => .table .header [("rules", .array [])]
  | rules => .table .implied [("rules", .tables (rules.map ruleEntries))]

/-- The table of the fonts. -/
def fontsTable (fonts : FontsConfig) : Value :=
  .table .header
    [("base", .array (fonts.base.map .string)),
      ("emoji", .array (fonts.emoji.map .string)),
      ("symbol", .array (fonts.symbol.map .string)),
      ("font_dirs", .array (fonts.fontDirs.map .string)),
      ("bitmap_tables", .array (fonts.bitmapTables.map .string)),
      ("system_fonts", .boolean fonts.systemFonts)]

/-- The entries before the rules. -/
def front (config : Config) : Entries :=
  [("font_size_px", .integer config.size.toNat),
    ("coverage_threshold", .integer config.threshold.toNat),
    ("cache", .table .header [("capacity", .integer config.capacity.toNat)]),
    ("fonts", fontsTable config.fonts)]

/-- The document of a configuration. -/
def document (config : Config) : Entries :=
  config.front ++ [("segmentation", rulesTable config.rules.rules)]

/-- The assignments of a range. -/
def rangeAssignments (range : CodeRange) : List (List String × Value) :=
  [(["start"], .integer range.low.toNat), (["end"], .integer range.high.toNat)]

/-- The sections inside of a rule. -/
def rangeSections (rule : JoinRule) : List Section :=
  [⟨false, ["segmentation", "rules", "first"], rangeAssignments rule.first⟩,
    ⟨false, ["segmentation", "rules", "second"], rangeAssignments rule.second⟩]

/-- The sections of a rule. -/
def ruleSections (rule : JoinRule) : List Section :=
  ⟨true, ["segmentation", "rules"], [(["name"], .string rule.name)]⟩ :: rangeSections rule

theorem split_rules (rules : List JoinRule) :
    split (rules.flatMap ruleLines) = ([], rules.flatMap ruleSections) := by
  induction rules with
  | nil => rfl
  | cons rule rules inductionHypothesis =>
      simp [ruleLines, rangeLines, ruleSections, rangeSections, rangeAssignments, split,
        inductionHypothesis]

/-- The document with the tables of some rules. -/
def withTables (config : Config) (items : List Entries) : Entries :=
  config.front ++ [("segmentation", .table .implied [("rules", .tables items)])]

/-- A header inside of a rule goes to the last rule. -/
theorem modifyAt_lastRule (config : Config) (change : Entries → Option Entries)
    (before : List Entries) (last : Entries) :
    modifyAt change ["segmentation", "rules"] (config.withTables (before ++ [last])) =
      (change last).map fun last => config.withTables (before ++ [last]) := by
  cases changed : change last <;>
    simp [modifyAt, withTables, front, List.lookup_cons, Entries.put, changed]

theorem openTable_range {key : String} {parent : Entries} (fresh : parent.lookup key = none)
    (range : CodeRange) :
    openTable key (rangeAssignments range) parent =
      some (parent.put key (rangeTable range)) := by
  rw [openTable, fresh]
  rfl

/-- The ranges of the last rule complete it. -/
theorem addSections_ranges (config : Config) (rule : JoinRule) (before : List Entries)
    (rest : List Section) :
    addSections (rangeSections rule ++ rest)
        (config.withTables (before ++ [[("name", .string rule.name)]])) =
      addSections rest (config.withTables (before ++ [ruleEntries rule])) := by
  have first : openTable "first" (rangeAssignments rule.first)
      [("name", .string rule.name)] =
        some [("name", .string rule.name), ("first", rangeTable rule.first)] :=
    openTable_range rfl rule.first
  have second : openTable "second" (rangeAssignments rule.second)
      [("name", .string rule.name), ("first", rangeTable rule.first)] =
        some (ruleEntries rule) :=
    openTable_range rfl rule.second
  simp [rangeSections, addSections, addSection, modifyAt_lastRule, first, second]

/-- The header of a rule goes after the rules that are there. -/
theorem addSections_rule (config : Config) (rule : JoinRule) (items : List Entries)
    (rest : List Section) :
    addSections (ruleSections rule ++ rest) (config.withTables items) =
      addSections rest (config.withTables (items ++ [ruleEntries rule])) := by
  have opened : modifyAt (openNext "rules" [(["name"], .string rule.name)])
      ["segmentation"] (config.withTables items) =
        some (config.withTables (items ++ [[("name", .string rule.name)]])) :=
    rfl
  rw [← addSections_ranges]
  simp [ruleSections, addSections, addSection, opened]

/-- The header of the first rule implies the table of the rules. -/
theorem addSections_firstRule (config : Config) (rule : JoinRule) (rest : List Section) :
    addSections (ruleSections rule ++ rest) config.front =
      addSections rest (config.withTables [ruleEntries rule]) := by
  have implied : modifyAt (openNext "rules" [(["name"], .string rule.name)])
      ["segmentation"] config.front =
        some (config.withTables [[("name", .string rule.name)]]) :=
    rfl
  refine Eq.trans ?_ (addSections_ranges config rule [] rest)
  simp [ruleSections, addSections, addSection, implied]

theorem addSections_rules (config : Config) (rules : List JoinRule)
    (items : List Entries) :
    addSections (rules.flatMap ruleSections) (config.withTables items) =
      some (config.withTables (items ++ rules.map ruleEntries)) := by
  induction rules generalizing items with
  | nil => simp [addSections]
  | cons rule rules inductionHypothesis =>
      rw [List.flatMap_cons, addSections_rule, inductionHypothesis]
      simp

/-- Without rules, there is a table with an empty list of them. -/
theorem addSections_noRules (config : Config) :
    addSections [⟨false, ["segmentation"], [(["rules"], .array [])]⟩] config.front =
      some (config.front ++
        [("segmentation", .table .header [("rules", .array [])])]) :=
  rfl

/-- Sections after the front of a document are added to it. -/
theorem build?_frontLines (config : Config) {tail : List Statement}
    {sections : List Section} (isTail : split tail = ([], sections)) :
    build? (config.frontLines ++ tail) = addSections sections config.front := by
  have parts : split (config.frontLines ++ tail) =
      ((split config.frontLines).1, (split config.frontLines).2 ++ sections) := by
    simp [frontLines, split, isTail, fontsLines]
  rw [build?, parts]
  rfl

/-- The lines of a configuration build its document. -/
theorem build?_lines (config : Config) : build? config.lines = some config.document := by
  unfold lines document
  cases config.rules.rules with
  | nil =>
      have isTail : split (rulesLines []) =
          ([], [⟨false, ["segmentation"], [(["rules"], .array [])]⟩]) := rfl
      rw [build?_frontLines config isTail, addSections_noRules]
      rfl
  | cons rule rules =>
      have isTail : split (rulesLines (rule :: rules)) = _ := split_rules (rule :: rules)
      rw [build?_frontLines config isTail, List.flatMap_cons, addSections_firstRule,
        addSections_rules]
      rfl

/-! ## Reading the document -/

theorem naturalBelow?_natCast {limit n : Nat} (below : n < limit) :
    naturalBelow? limit (.integer n) = some n := by
  simp [naturalBelow?, below]

theorem uint8?_toNat (n : UInt8) : uint8? (.integer n.toNat) = some n := by
  rw [uint8?, naturalBelow?_natCast n.toNat_lt, Option.map_some, UInt8.ofNat_toNat]

theorem uint16?_toNat (n : UInt16) : uint16? (.integer n.toNat) = some n := by
  rw [uint16?, naturalBelow?_natCast n.toNat_lt, Option.map_some, UInt16.ofNat_toNat]

theorem uint32?_toNat (n : UInt32) : uint32? (.integer n.toNat) = some n := by
  rw [uint32?, naturalBelow?_natCast n.toNat_lt, Option.map_some, UInt32.ofNat_toNat]

theorem uint64?_toNat (n : UInt64) : uint64? (.integer n.toNat) = some n := by
  rw [uint64?, naturalBelow?_natCast n.toNat_lt, Option.map_some, UInt64.ofNat_toNat]

theorem readRange_rangeTable (range : CodeRange) :
    readRange (rangeTable range) = some range := by
  have reads {low high : Value} (isLow : uint32? low = some range.low)
      (isHigh : uint32? high = some range.high) :
      readRange (.table .header [("start", low), ("end", high)]) = some range := by
    simp [readRange, fields?, required, List.lookup_cons, isLow, isHigh]
  exact reads (uint32?_toNat _) (uint32?_toNat _)

theorem readRule_ruleEntries (rule : JoinRule) :
    readRule (.table .header (ruleEntries rule)) = some rule := by
  have reads {first second : Value} (isFirst : readRange first = some rule.first)
      (isSecond : readRange second = some rule.second) :
      readRule (.table .header [("name", .string rule.name), ("first", first),
        ("second", second)]) = some rule := by
    simp [readRule, fields?, required, withDefault, List.lookup_cons, text?, isFirst, isSecond]
  exact reads (readRange_rangeTable _) (readRange_rangeTable _)

/-- Reading written elements gives them back. -/
theorem readAll_map {α : Type} {read : Value → Option α} {write : α → Value}
    (reads : ∀ a, read (write a) = some a) (as : List α) :
    readAll read (as.map write) = some as := by
  induction as with
  | nil => rfl
  | cons a as inductionHypothesis => simp [readAll, reads, inductionHypothesis]

theorem list?_texts (texts : List String) :
    list? text? (.array (texts.map .string)) = some texts := by
  have reads (text : String) : text? (.string text) = some text := rfl
  exact readAll_map reads texts

theorem list?_tables (rules : List JoinRule) :
    list? readRule (.tables (rules.map ruleEntries)) = some rules := by
  rw [list?, elements?, List.map_map]
  exact readAll_map readRule_ruleEntries rules

theorem readRules_rulesTable (rules : List JoinRule) :
    readRules (rulesTable rules) = some ⟨rules⟩ := by
  have reads {origin : Origin} {value : Value} (isList : list? readRule value = some rules) :
      readRules (.table origin [("rules", value)]) = some ⟨rules⟩ := by
    simp [readRules, fields?, withDefault, isList]
  cases rules with
  | nil => exact reads rfl
  | cons rule rules => exact reads (list?_tables (rule :: rules))

theorem readFonts_fontsTable (fonts : FontsConfig) :
    readFonts (fontsTable fonts) = some fonts := by
  simp [readFonts, fontsTable, fields?, withDefault, List.lookup_cons, list?_texts, bool?]

theorem readCache_table (capacity : UInt64) :
    readCache (.table .header [("capacity", .integer capacity.toNat)]) =
      some capacity := by
  have reads {value : Value} (isCapacity : uint64? value = some capacity) :
      readCache (.table .header [("capacity", value)]) = some capacity := by
    simp [readCache, fields?, withDefault, isCapacity]
  exact reads (uint64?_toNat capacity)

theorem ofEntries_document (config : Config) : ofEntries config.document = some config := by
  have reads {size threshold cache fonts rules : Value}
      (isSize : uint16? size = some config.size)
      (isThreshold : uint8? threshold = some config.threshold)
      (isCache : readCache cache = some config.capacity)
      (isFonts : readFonts fonts = some config.fonts)
      (isRules : readRules rules = some config.rules) :
      ofEntries [("font_size_px", size), ("coverage_threshold", threshold),
        ("cache", cache), ("fonts", fonts), ("segmentation", rules)] = some config := by
    simp [ofEntries, withDefault, List.lookup_cons, isSize, isThreshold, isCache, isFonts,
      isRules]
  exact reads (uint16?_toNat _) (uint8?_toNat _) (readCache_table _)
    (readFonts_fontsTable _) (readRules_rulesTable _)

/-! ## Writing and reading -/

/-- The strings that a written configuration holds. -/
def strings (config : Config) : List String :=
  config.fonts.base ++ config.fonts.emoji ++ config.fonts.symbol
    ++ config.fonts.fontDirs ++ config.fonts.bitmapTables
    ++ config.rules.rules.map (·.name)

theorem overflowsWhen_writeEach {α : Type} {condition : α → Prop}
    {write : α → Checked (List Char)}
    (overflows : ∀ a, OverflowsWhen (condition a) (write a)) (as : List α) :
    OverflowsWhen (∃ a ∈ as, condition a) (writeEach write as) := by
  induction as with
  | nil => exact (overflowsWhen_pure []).congr (by simp)
  | cons a as inductionHypothesis =>
      have all := (overflows a).bind fun first =>
        inductionHypothesis.map fun others => first ++ others
      exact all.congr (by simp)

theorem overflowsWhen_texts (texts : List String) :
    OverflowsWhen (∃ text ∈ texts, ¬ QuotesFit text) (Config.texts texts) := by
  match texts with
  | [] => exact (overflowsWhen_pure ['[', ']']).congr (by simp)
  | [text] =>
      have single := (overflowsWhen_writeString text).map fun written =>
        ['['] ++ written ++ [']']
      exact single.congr (by simp)
  | first :: second :: others =>
      have item (text : String) : OverflowsWhen (¬ QuotesFit text) (item text) :=
        (overflowsWhen_writeString text).map fun written =>
          [' ', ' ', ' ', ' '] ++ written ++ [',', '\n']
      exact (overflowsWhen_writeEach item (first :: second :: others)).map fun items =>
        ['[', '\n'] ++ items ++ [']']

theorem overflowsWhen_writeRules (rules : List JoinRule) :
    OverflowsWhen (∃ text ∈ rules.map (·.name), ¬ QuotesFit text) (writeRules rules) := by
  have rule (rule : JoinRule) : OverflowsWhen (¬ QuotesFit rule.name) (writeRule rule) :=
    (overflowsWhen_writeString rule.name).map _
  cases rules with
  | nil => exact (overflowsWhen_pure _).congr (by simp)
  | cons first rules =>
      exact (overflowsWhen_writeEach rule (first :: rules)).congr (by simp)

theorem overflowsWhen_writeFonts (fonts : FontsConfig) :
    OverflowsWhen (∃ text ∈ fonts.base ++ fonts.emoji ++ fonts.symbol ++ fonts.fontDirs
      ++ fonts.bitmapTables, ¬ QuotesFit text) (writeFonts fonts) := by
  have all : OverflowsWhen _ (writeFonts fonts) :=
    (overflowsWhen_texts fonts.base).bind fun _ =>
    (overflowsWhen_texts fonts.emoji).bind fun _ =>
    (overflowsWhen_texts fonts.symbol).bind fun _ =>
    (overflowsWhen_texts fonts.fontDirs).bind fun _ =>
    (overflowsWhen_texts fonts.bitmapTables).map _
  refine all.congr ?_
  simp only [List.mem_append, or_and_right, exists_or, or_assoc]

/-- A configuration with too many quotes in a row in one of its strings cannot be
written. -/
theorem overflowsWhen_render (config : Config) :
    OverflowsWhen (∃ text ∈ config.strings, ¬ QuotesFit text) config.render := by
  have all : OverflowsWhen _ config.render :=
    (overflowsWhen_writeFonts config.fonts).bind fun _ =>
    (overflowsWhen_writeRules config.rules.rules).map _
  refine all.congr ?_
  simp only [strings, List.mem_append, or_and_right, exists_or]

/-- What is written for a configuration whose capacity fits is read as the
configuration. -/
theorem read_render {config : Config} {written : List Char}
    (fits : config.capacity.toNat ≤ 9223372036854775807)
    (isWritten : config.render = .ok written) :
    read (String.ofList written) = .ok config := by
  have isLines : statements? (2 * (written.length + 1)) written = some config.lines :=
    reads_render fits isWritten _ (by omega)
  have noMark : skipMark written = written := by
    simp only [render, Checked.bind_eq_ok_iff, pure, Except.pure,
      Except.ok.injEq] at isWritten
    obtain ⟨_, _, _, _, rfl⟩ := isWritten
    rfl
  have isDocument : Toml.read? (String.ofList written) = some config.document := by
    simp [read?, noMark, isLines, build?_lines]
  rw [read, isDocument, Option.bind_some, ofEntries_document]

/-- A capacity above a signed word is reported.  Below it, what is written is read as
the configuration it was written for, unless a string has 256 equal quotes in a row:
then the count of the quotes overflows. -/
theorem read_of_write (config : Config) :
    (9223372036854775807 < config.capacity.toNat →
      config.write = .ok (.error .configSerialize)) ∧
    (config.capacity.toNat ≤ 9223372036854775807 →
      ((∀ text ∈ config.strings, QuotesFit text) →
        ∃ text, config.write = .ok (.ok text) ∧ read text = .ok config) ∧
      ((∃ text ∈ config.strings, ¬ QuotesFit text) →
        config.write = .error (.overflow .add))) := by
  refine ⟨fun large => if_pos large, fun fits => ?_⟩
  have writes : config.write = config.render >>= fun text =>
      pure (.ok (String.ofList text)) := if_neg (Nat.not_lt.mpr fits)
  have counts := config.overflowsWhen_render
  refine ⟨fun quotesFit => ?_, fun manyQuotes => ?_⟩
  · obtain ⟨written, isWritten⟩ := counts.returns (by simpa using quotesFit)
    refine ⟨String.ofList written, ?_, read_render fits isWritten⟩
    rw [writes, isWritten]
    rfl
  · rw [writes, counts.overflows manyQuotes]
    rfl

/-- Strings that ask for every form, and no rules. -/
def quotedConfig : Config :=
  { standard with
    fonts := { FontsConfig.standard with
      base := ["Plain", "a \"word\"", "'both' \"kinds\"", "\\ '\n'", "\"\"\" '''\x07\n", "\x07"] }
    rules := ⟨[]⟩ }

theorem read_of_write_quotedConfig :
    ∃ text, quotedConfig.write = .ok (.ok text) ∧ read text = .ok quotedConfig := by
  refine ((read_of_write quotedConfig).2 (by decide)).1 fun text member quote _ isInfix => ?_
  have short : ∀ text ∈ quotedConfig.strings, text.toList.length < 256 := by decide
  have long := isInfix.length_le
  rw [List.length_replicate] at long
  exact absurd (short text member) (Nat.not_lt.mpr long)

/-- The base font of this configuration is named by 256 quotes. -/
def quotesConfig : Config :=
  { standard with
    fonts := { FontsConfig.standard with
      base := [String.ofList (List.replicate 256 '\'')] } }

theorem write_quotesConfig :
    quotesConfig.capacity.toNat ≤ 9223372036854775807 ∧
      quotesConfig.write = .error (.overflow .add) := by
  have fits : quotesConfig.capacity.toNat ≤ 9223372036854775807 := by decide
  refine ⟨fits, ?_⟩
  have unfit : ¬ QuotesFit (String.ofList (List.replicate 256 '\'')) := fun quotesFit =>
    quotesFit '\'' (by simp) (by rw [String.toList_ofList])
  have overflows := quotesConfig.overflowsWhen_render.overflows
    ⟨_, List.mem_cons_self, unfit⟩
  rw [write, if_neg (Nat.not_lt.mpr fits), overflows]
  rfl

end Config

end Inkwell
