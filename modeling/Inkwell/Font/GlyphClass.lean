import Inkwell.Font.Coverage
import Inkwell.Text.Visible

/-!
# Kinds of glyphs

A font can say of its glyphs which are bases, ligatures and marks, and a
substitution can be told to pass over some of them.  Where the font says
nothing, a glyph is of the kind of its character.
-/

namespace Inkwell.Font

/-- What a glyph is for those that pass over glyphs. -/
inductive GlyphKind where
  | other
  | base
  | ligature
  /-- A mark, with the class it is attached by. -/
  | mark (attachment : Nat)
  deriving DecidableEq

namespace GlyphKind

/-- The glyph is a mark. -/
def isMark : GlyphKind → Bool
  | .mark _ => true
  | _ => false

/-- The marks that surround a character and are not drawn over it. -/
def enclosingMarks : List Nat :=
  [0x488, 0x489, 0x1ABE, 0x20DD, 0x20DE, 0x20DF, 0x20E0, 0x20E2, 0x20E3,
    0x20E4, 0xA670, 0xA671, 0xA672]

/-- The kind of a character's glyph in a font that does not tell. -/
def ofChar (c : Char) : GlyphKind :=
  if Text.isExtender c && !enclosingMarks.contains c.toNat
      && !Text.isBlind c then
    .mark 0
  else .base

end GlyphKind

/-- What a font says about its glyphs. -/
structure GlyphKinds where
  classes : Option ClassTable
  attachments : Option ClassTable
  /-- Sets of marks that substitutions can be limited to. -/
  markSets : Array (Option Coverage)

namespace GlyphKinds

/-- A font that says nothing. -/
def none : GlyphKinds := ⟨.none, .none, #[]⟩

/-- The classes at an offset that may be missing. -/
def classesAt (table : ByteArray) (offset : Nat) : Option ClassTable :=
  if offset = 0 then .none else ClassTable.read? table offset

/-- The sets of marks at an offset that may be missing. -/
def markSetsAt (table : ByteArray) (start : Nat) : Array (Option Coverage) :=
  if start = 0 then #[]
  else
    (do
      let format ← u16? table start
      let count ← u16? table (start + 2)
      if format ≠ 1 then .none
      let offsets ← array? u32? table (start + 4) 4 count
      pure (offsets.map fun offset =>
        Coverage.read? table (start + offset))).getD #[]

/-- The kinds that a table gives. -/
def read? (table : ByteArray) : Option GlyphKinds := do
  let version ← u32? table 0
  let classes ← u16? table 4
  let attachments ← u16? table 10
  match version with
  | 0x00010000 =>
      pure ⟨classesAt table classes, classesAt table attachments, #[]⟩
  | 0x00010002 =>
      let sets ← u16? table 12
      pure ⟨classesAt table classes, classesAt table attachments,
        markSetsAt table sets⟩
  | 0x00010003 =>
      let sets ← u16? table 12
      let _ ← u32? table 14
      pure ⟨classesAt table classes, classesAt table attachments,
        markSetsAt table sets⟩
  | _ => .none

/-- The kind of a glyph, where the font tells. -/
def kind? (kinds : GlyphKinds) (glyph : Nat) : Option GlyphKind :=
  kinds.classes.map fun classes =>
    match classes.classOf glyph with
    | 1 => .base
    | 2 => .ligature
    | 3 => .mark ((kinds.attachments.map (·.classOf glyph)).getD 0)
    | _ => .other

/-- The glyph is in a set of marks. -/
def inMarkSet (kinds : GlyphKinds) (set glyph : Nat) : Bool :=
  match kinds.markSets.getD set .none with
  | some coverage => (coverage.place? glyph).isSome
  | .none => false

end GlyphKinds

end Inkwell.Font
