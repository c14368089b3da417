import Inkwell.Font.Substitution
import Inkwell.Text.Script

/-!
# Features

A font groups its lookups into features, and lists for each script and
language which features it has.  Text is shaped with the features that are on
unless they are turned off, in two stages: the lookups of a stage are applied
in the order of their numbers.
-/

namespace Inkwell.Font

/-- A tag and the offset that is stored with it. -/
structure TaggedOffset where
  tag : String
  offset : Nat
  deriving DecidableEq

namespace TaggedOffset

/-- The tag and the offset at a position. -/
def read? (bytes : ByteArray) (pos : Nat) : Option TaggedOffset := do
  let tag ← tag? bytes pos
  let offset ← u16? bytes (pos + 4)
  pure ⟨tag, offset⟩

/-- A number of them, with the number before. -/
def list? (bytes : ByteArray) (pos : Nat) : Option (Array TaggedOffset) := do
  let count ← u16? bytes pos
  array? read? bytes (pos + 2) 6 count

/-- The offset that is stored with a tag. -/
def find? (list : Array TaggedOffset) (tag : String) : Option Nat := do
  let index ← search? (fun index => list[index]?.map (compare ·.tag tag))
    list.size
  let found ← list[index]?
  pure found.offset

end TaggedOffset

/-- The features of a script in a language. -/
structure LanguageSystem where
  /-- The feature that cannot be turned off. -/
  required : Option Nat
  features : List Nat
  deriving DecidableEq

namespace LanguageSystem

/-- The features at a position. -/
def read? (bytes : ByteArray) (pos : Nat) : Option LanguageSystem := do
  let required ← u16? bytes (pos + 2)
  let features ← offsets? bytes (pos + 4)
  pure ⟨if required = 0xFFFF then none else some required, features⟩

/-- The features of the script at a position for text in no language of its
own. -/
def ofScript? (bytes : ByteArray) (pos : Nat) : Option LanguageSystem := do
  let offset ← u16? bytes pos
  let usual ←
    if offset = 0 then some none
    else (read? bytes (pos + offset)).map some
  let languages ← TaggedOffset.list? bytes (pos + 2)
  match TaggedOffset.find? languages "dflt" with
  | some offset => read? bytes (pos + offset)
  | none => usual

end LanguageSystem

/-- A feature: its tag and the numbers of its lookups. -/
structure Feature where
  tag : String
  lookups : List Nat
  deriving DecidableEq

/-- What a font says about substitutions. -/
structure FeatureTable where
  bytes : ByteArray
  /-- Where the list of scripts begins. -/
  start : Nat
  scripts : Array TaggedOffset
  /-- The features, where they can be read. -/
  features : Array (Option Feature)
  /-- The number of lookups, those included that cannot be read. -/
  lookupCount : Nat
  lookups : Array Lookup

namespace FeatureTable

/-- The features of the list at a position. -/
def features? (bytes : ByteArray) (pos : Nat) :
    Option (Array (Option Feature)) := do
  let list ← TaggedOffset.list? bytes pos
  pure (list.map fun entry => do
    let lookups ← offsets? bytes (pos + entry.offset + 2)
    pure ⟨entry.tag, lookups⟩)

/-- What a table says about substitutions. -/
def read? (bytes : ByteArray) : Option FeatureTable := do
  let version ← u32? bytes 0
  if version ≠ 0x00010000 ∧ version ≠ 0x00010001 then none
  let scriptsAt ← u16? bytes 4
  let featuresAt ← u16? bytes 6
  let lookupsAt ← u16? bytes 8
  if version = 0x00010001 then
    let _ ← u32? bytes 10
  let scripts ← TaggedOffset.list? bytes scriptsAt
  let features ← features? bytes featuresAt
  let offsets ← offsets? bytes lookupsAt
  pure {
    bytes := bytes
    start := scriptsAt
    scripts := scripts
    features := features
    lookupCount := offsets.length
    lookups := (whileSome (offsets.map fun offset =>
      Lookup.read? bytes (lookupsAt + offset))).toArray }

/-- The tags that are tried for text in a script: its own, and then those that
stand for any script. -/
def candidateTags (script : Option String) : List String :=
  ((script.map Text.scriptTags).getD []) ++ ["DFLT", "dflt", "latn"]

/-- The features for text in a script. -/
def system? (table : FeatureTable) (script : Option String) :
    Option LanguageSystem := do
  let offset ← (candidateTags script).findSome?
    (TaggedOffset.find? table.scripts)
  LanguageSystem.ofScript? table.bytes (table.start + offset)

/-- The feature that is applied before all others. -/
def firstStage : List String := ["rvrn"]

/-- The features that are applied then, to text in either direction. -/
def secondStage (rightToLeft : Bool) : List String :=
  (if rightToLeft then ["rtla", "rtlm"] else ["ltra", "ltrm"])
    ++ ["rand", "trak", "Harf", "HARF", "Buzz", "BUZZ", "abvm", "blwm",
      "ccmp", "locl", "mark", "mkmk", "rlig", "calt", "clig", "curs", "dist",
      "kern", "liga", "rclt"]

/-- The features of the second stage that only some characters have. -/
def partialFeatures : List String := ["frac", "numr", "dnom"]

/-- The first feature of a language system with a tag. -/
def feature? (table : FeatureTable) (system : LanguageSystem) (tag : String) :
    Option Feature :=
  system.features.findSome? fun index =>
    ((table.features[index]?).join).filter (·.tag == tag)

/-- The required feature of a language system. -/
def required? (table : FeatureTable) (system : LanguageSystem) :
    Option Feature :=
  system.required.bind fun index => (table.features[index]?).join

/-- The numbers of the lookups of features, in order and each once. -/
def ordered (table : FeatureTable) (features : List Feature) : List Nat :=
  (List.range table.lookupCount).filter fun index =>
    features.any (·.lookups.contains index)

/-- The lookups for text in a script, in the order in which they are applied.
The required feature belongs to the stage of its tag, else to the first. -/
def plan (table : FeatureTable) (script : Option String) : List Nat :=
  match table.system? script with
  | none => []
  | some system =>
      let later := secondStage
        ((script.map Text.rightToLeft.contains).getD false)
      let required := (table.required? system).toList
      let isLater := fun feature : Feature =>
        (later ++ partialFeatures).contains feature.tag
      table.ordered
          (required.filter (!isLater ·)
            ++ firstStage.filterMap (table.feature? system))
        ++ table.ordered
          (required.filter isLater ++ later.filterMap (table.feature? system))

/-- The glyphs that a text in a script is shaped into. -/
def shape (table : FeatureTable) (kinds : GlyphKinds) (script : Option String)
    (text : List TextGlyph) : List TextGlyph :=
  Shaper.applyAll ⟨kinds, table.lookups⟩ (table.plan script) text

end FeatureTable

end Inkwell.Font
