/-!
# Join rules

A rule table says which two neighbouring characters belong together.  Each rule
gives a range for the first character and one for the second, and the first
rule that matches a pair is the one that joins it.
-/

namespace Inkwell

/-- An inclusive range of code points. -/
structure CodeRange where
  low : UInt32
  high : UInt32
  deriving DecidableEq

namespace CodeRange

/-- The range of every character. -/
def any : CodeRange := ⟨0, 0x10FFFF⟩

/-- The regional indicators, two of which make a flag. -/
def regionalIndicator : CodeRange := ⟨0x1F1E6, 0x1F1FF⟩

/-- The range of one code point. -/
def single (code : UInt32) : CodeRange := ⟨code, code⟩

/-- The character lies in the range. -/
def contains (range : CodeRange) (c : Char) : Bool :=
  range.low ≤ c.val && c.val ≤ range.high

end CodeRange

/-- Two neighbours are joined when the first lies in `first` and the second in
`second`. -/
structure JoinRule where
  name : String
  first : CodeRange
  second : CodeRange
  deriving DecidableEq

namespace JoinRule

/-- Two regional indicators form a flag. -/
def flag : JoinRule :=
  ⟨"regional-indicator", CodeRange.regionalIndicator,
    CodeRange.regionalIndicator⟩

/-- Any character followed by the enclosing keycap forms a keycap. -/
def keycap : JoinRule := ⟨"keycap", CodeRange.any, CodeRange.single 0x20E3⟩

/-- The rule joins the pair. -/
def joins (rule : JoinRule) (c d : Char) : Bool :=
  rule.first.contains c && rule.second.contains d

end JoinRule

/-- Join rules in the order in which they are tried. -/
structure RuleTable where
  rules : List JoinRule
  deriving DecidableEq

namespace RuleTable

/-- Flags and keycaps. -/
def standard : RuleTable := ⟨[JoinRule.flag, JoinRule.keycap]⟩

/-- The table that joins nothing. -/
def empty : RuleTable := ⟨[]⟩

/-- The first rule that joins the pair. -/
def find? (table : RuleTable) (c d : Char) : Option JoinRule :=
  table.rules.find? (·.joins c d)

/-- Some rule joins the pair. -/
def joins (table : RuleTable) (c d : Char) : Bool :=
  (table.find? c d).isSome

end RuleTable

end Inkwell
