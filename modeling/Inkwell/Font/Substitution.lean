import Inkwell.Font.GlyphClass

/-!
# Substitutions

A font can replace the glyphs of a text by others: one by one, one by several,
several by one, or in a context.  Substitutions come in lookups.  A lookup goes
through the glyphs from left to right, passes over those that it is told to
ignore, and applies the first of its subtables that fits.

Parts of a lookup that cannot be read are not there, and neither is what comes
after them in the same list.
-/

namespace Inkwell.Font

/-- A glyph of a text that is being shaped. -/
structure TextGlyph where
  glyph : Nat
  kind : GlyphKind
  deriving DecidableEq

/-- The glyphs after a first one, and the glyph that replaces them all. -/
structure Ligature where
  glyph : Nat
  rest : List Nat
  deriving DecidableEq

/-- What a glyph of a context has to be. -/
inductive Want where
  | glyph (id : Nat)
  | inClass (table : ClassTable) (number : Nat)
  /-- One of a set; nothing is in a set that cannot be read. -/
  | covered (coverage : Option Coverage)

/-- A lookup that is applied at one of the glyphs of a context. -/
structure Nested where
  place : Nat
  lookup : Nat
  deriving DecidableEq

/-- A context: the glyphs before the first, from right to left, those after it
that belong to it, those that follow, and what is applied. -/
structure Rule where
  before : List Want
  input : List Want
  after : List Want
  nested : List Nested

/-- A subtable of a lookup. -/
inductive Substitution where
  /-- Each glyph by the one a distance away. -/
  | shift (coverage : Coverage) (distance : Int)
  /-- Each glyph by another. -/
  | single (coverage : Coverage) (glyphs : Array Nat)
  /-- Each glyph by several, or by none. -/
  | multiple (coverage : Coverage) (sequences : Array (Option (List Nat)))
  /-- Each glyph by one of several. -/
  | alternate (coverage : Coverage) (sets : Array (Option (List Nat)))
  /-- Several glyphs by one. -/
  | ligature (coverage : Coverage) (sets : Array (Option (List Ligature)))
  /-- In the contexts of the first glyph's place. -/
  | byPlace (coverage : Coverage) (sets : Array (Option (List Rule)))
  /-- In the contexts of the first glyph's class. -/
  | byClass (coverage : Coverage) (classes : ClassTable)
      (sets : Array (Option (List Rule)))
  /-- In one context. -/
  | pattern (coverage : Coverage) (rule : Rule)

/-- A lookup. -/
structure Lookup where
  /-- Which glyphs to pass over. -/
  flags : Nat
  /-- The set of marks not to pass over. -/
  markSet : Nat
  subtables : List Substitution

/-! ## Reading -/

/-- The results of a list up to the first that is missing. -/
def whileSome {α : Type} : List (Option α) → List α
  | [] => []
  | none :: _ => []
  | some a :: rest => a :: whileSome rest

/-- A number of offsets, with the number before them. -/
def offsets? (bytes : ByteArray) (pos : Nat) : Option (List Nat) := do
  let count ← u16? bytes pos
  items? (u16? bytes) (pos + 2) 2 count

/-- A number of glyphs, with the number before them. -/
def glyphList? (bytes : ByteArray) (pos : Nat) : Option (List Nat) :=
  offsets? bytes pos

/-- The ligature at a position. -/
def Ligature.read? (bytes : ByteArray) (pos : Nat) : Option Ligature := do
  let glyph ← u16? bytes pos
  let count ← u16? bytes (pos + 2)
  if count = 0 then none
  let rest ← items? (u16? bytes) (pos + 4) 2 (count - 1)
  pure ⟨glyph, rest⟩

/-- The items of a set, whose offsets are relative to it. -/
def setAt? {α : Type} (read : ByteArray → Nat → Option α) (bytes : ByteArray)
    (pos : Nat) : Option (List α) := do
  let offsets ← offsets? bytes pos
  pure (whileSome (offsets.map fun offset => read bytes (pos + offset)))

/-- The nested lookups at a position. -/
def nested? (bytes : ByteArray) (pos count : Nat) : Option (List Nested) :=
  items? (fun pos => do
    let place ← u16? bytes pos
    let lookup ← u16? bytes (pos + 2)
    pure ⟨place, lookup⟩) pos 4 count

/-- A context without anything before or after it; each number it stores is
made into a condition. -/
def Rule.plain? (want : Nat → Want) (bytes : ByteArray) (pos : Nat) :
    Option Rule := do
  let count ← u16? bytes pos
  let lookups ← u16? bytes (pos + 2)
  if count = 0 then none
  let input ← items? (u16? bytes) (pos + 4) 2 (count - 1)
  let nested ← nested? bytes (pos + 4 + 2 * (count - 1)) lookups
  pure ⟨[], input.map want, [], nested⟩

/-- A context with what is before and after it.  What is stored of its first
glyph takes `first` bytes. -/
def Rule.chained? (first : Nat) (before input after : Nat → Want)
    (bytes : ByteArray) (pos : Nat) : Option Rule := do
  let left ← offsets? bytes pos
  let pos := pos + 2 + 2 * left.length
  let count ← u16? bytes pos
  if count = 0 then none
  let middle ← items? (u16? bytes) (pos + 2 + first) 2 (count - 1)
  let pos := pos + first + 2 * count
  let right ← offsets? bytes pos
  let pos := pos + 2 + 2 * right.length
  let lookups ← u16? bytes pos
  let nested ← nested? bytes (pos + 2) lookups
  pure ⟨left.map before, middle.map input, right.map after, nested⟩

namespace Substitution

/-- Sets at offsets from a subtable, with the number of them before. -/
def sets? {α : Type} (read : ByteArray → Nat → Option α) (bytes : ByteArray)
    (base pos : Nat) : Option (Array (Option α)) := do
  let offsets ← offsets? bytes pos
  pure (offsets.map fun offset => read bytes (base + offset)).toArray

/-- The coverage at an offset from a subtable. -/
def coverage? (bytes : ByteArray) (base pos : Nat) : Option Coverage := do
  let offset ← u16? bytes pos
  Coverage.read? bytes (base + offset)

/-- The classes at an offset from a subtable, none at offset zero. -/
def classes? (bytes : ByteArray) (base pos : Nat) : Option ClassTable := do
  let offset ← u16? bytes pos
  if offset = 0 then pure (.list 0 #[])
  else ClassTable.read? bytes (base + offset)

/-- Substitutions of single glyphs. -/
def single? (bytes : ByteArray) (pos : Nat) : Option Substitution := do
  match ← u16? bytes pos with
  | 1 =>
      let coverage ← coverage? bytes pos (pos + 2)
      let distance ← i16? bytes (pos + 4)
      pure (.shift coverage distance)
  | 2 =>
      let coverage ← coverage? bytes pos (pos + 2)
      let glyphs ← glyphList? bytes (pos + 4)
      pure (.single coverage glyphs.toArray)
  | _ => none

/-- Substitutions that keep a set for each covered glyph. -/
def keyed? {α : Type} (make : Coverage → Array (Option α) → Substitution)
    (read : ByteArray → Nat → Option α) (bytes : ByteArray) (pos : Nat) :
    Option Substitution := do
  let format ← u16? bytes pos
  if format ≠ 1 then none
  let coverage ← coverage? bytes pos (pos + 2)
  let sets ← sets? read bytes pos (pos + 4)
  pure (make coverage sets)

/-- Substitutions in a context. -/
def context? (bytes : ByteArray) (pos : Nat) : Option Substitution := do
  match ← u16? bytes pos with
  | 1 =>
      let coverage ← coverage? bytes pos (pos + 2)
      let sets ← sets? (setAt? (Rule.plain? .glyph)) bytes pos (pos + 4)
      pure (.byPlace coverage sets)
  | 2 =>
      let coverage ← coverage? bytes pos (pos + 2)
      let offset ← u16? bytes (pos + 4)
      let classes ← ClassTable.read? bytes (pos + offset)
      let sets ← sets? (setAt? (Rule.plain? (.inClass classes))) bytes pos
        (pos + 6)
      pure (.byClass coverage classes sets)
  | 3 =>
      let count ← u16? bytes (pos + 2)
      let lookups ← u16? bytes (pos + 4)
      let coverage ← coverage? bytes pos (pos + 6)
      if count = 0 then none
      let others ← items? (u16? bytes) (pos + 8) 2 (count - 1)
      let nested ← nested? bytes (pos + 6 + 2 * count) lookups
      pure (.pattern coverage
        ⟨[], others.map fun offset =>
          .covered (Coverage.read? bytes (pos + offset)), [], nested⟩)
  | _ => none

/-- Substitutions in a context with what is before and after it. -/
def chain? (bytes : ByteArray) (pos : Nat) : Option Substitution := do
  match ← u16? bytes pos with
  | 1 =>
      let coverage ← coverage? bytes pos (pos + 2)
      let sets ← sets? (setAt? (Rule.chained? 0 .glyph .glyph .glyph)) bytes pos
        (pos + 4)
      pure (.byPlace coverage sets)
  | 2 =>
      let coverage ← coverage? bytes pos (pos + 2)
      let before ← classes? bytes pos (pos + 4)
      let input ← classes? bytes pos (pos + 6)
      let after ← classes? bytes pos (pos + 8)
      let sets ← sets?
        (setAt? (Rule.chained? 0 (.inClass before) (.inClass input)
          (.inClass after))) bytes pos (pos + 10)
      pure (.byClass coverage input sets)
  | 3 =>
      let covered := fun offset =>
        Want.covered (Coverage.read? bytes (pos + offset))
      let left ← offsets? bytes (pos + 2)
      let start := pos + 4 + 2 * left.length
      let coverage ← coverage? bytes pos (start + 2)
      let rule ← Rule.chained? 2 covered covered covered bytes (pos + 2)
      pure (.pattern coverage rule)
  | _ => none

/-- The subtable of a kind at a position.  A subtable that only refers to
another one is followed `depth` times at most. -/
def read? (bytes : ByteArray) : (depth kind pos : Nat) → Option Substitution
  | _, 1, pos => single? bytes pos
  | _, 2, pos => keyed? .multiple glyphList? bytes pos
  | _, 3, pos => keyed? .alternate glyphList? bytes pos
  | _, 4, pos => keyed? .ligature (setAt? Ligature.read?) bytes pos
  | _, 5, pos => context? bytes pos
  | _, 6, pos => chain? bytes pos
  | depth + 1, 7, pos => do
      let format ← u16? bytes pos
      if format ≠ 1 then none
      let kind ← u16? bytes (pos + 2)
      let offset ← u32? bytes (pos + 4)
      read? bytes depth kind (pos + offset)
  | _, _, _ => none

end Substitution

/-- The lookup at a position. -/
def Lookup.read? (bytes : ByteArray) (pos : Nat) : Option Lookup := do
  let kind ← u16? bytes pos
  let flags ← u16? bytes (pos + 2)
  let offsets ← offsets? bytes (pos + 4)
  let markSet ←
    if flags.testBit 4 then u16? bytes (pos + 6 + 2 * offsets.length)
    else some 0
  pure ⟨flags, markSet, whileSome (offsets.map fun offset =>
    Substitution.read? bytes 8 kind (pos + offset))⟩

/-! ## Applying -/

/-- What is needed to apply the lookups of a font. -/
structure Shaper where
  kinds : GlyphKinds
  lookups : Array Lookup

namespace Want

/-- The glyph is as wanted. -/
def accepts : Want → Nat → Bool
  | .glyph wanted, id => wanted == id
  | .inClass table number, id => table.classOf id == number
  | .covered coverage, id => (coverage.bind (·.place? id)).isSome

end Want

/-- The lookup passes over a glyph. -/
def Lookup.passesOver (lookup : Lookup) (kinds : GlyphKinds)
    (item : TextGlyph) : Bool :=
  match item.kind with
  | .other => false
  | .base => lookup.flags.testBit 1
  | .ligature => lookup.flags.testBit 2
  | .mark attachment =>
      lookup.flags.testBit 3
        || if lookup.flags.testBit 4 then
            !kinds.inMarkSet lookup.markSet item.glyph
          else
            lookup.flags / 256 != 0 && lookup.flags / 256 != attachment

namespace Shaper

/-- A glyph in the place of another: its kind is what the font says, else what
is guessed, else what it was. -/
def put (shaper : Shaper) (item : TextGlyph) (guess : Option GlyphKind)
    (glyph : Nat) : TextGlyph :=
  ⟨glyph, (shaper.kinds.kind? glyph).getD (guess.getD item.kind)⟩

/-- The glyphs with the one at a place replaced. -/
def splice (text : List TextGlyph) (place : Nat) (new : List TextGlyph) :
    List TextGlyph :=
  text.take place ++ new ++ text.drop (place + 1)

/-- The places of the glyphs that are wanted one after the other, with glyphs
between them that are passed over; the glyphs begin at `place`. -/
def match? (passes : TextGlyph → Bool) :
    List Want → List TextGlyph → (place : Nat) → Option (List Nat)
  | [], _, _ => some []
  | _ :: _, [], _ => none
  | want :: wants, item :: text, place =>
      if passes item then match? passes (want :: wants) text (place + 1)
      else if want.accepts item.glyph then
        (match? passes wants text (place + 1)).map (place :: ·)
      else none
termination_by _ text _ => text.length

/-- The kind of a ligature of glyphs, if it is not that of the first: a base
or a mark with marks after it stays what it is. -/
def ligatureKind : List TextGlyph → Option GlyphKind
  | [] => none
  | first :: rest =>
      if (first.kind == .base || first.kind.isMark)
          && rest.all (·.kind.isMark) then
        none
      else some .ligature

/-- What a text became: its glyphs, where to go on, and how many nested lookups
may still be applied to it. -/
structure Progress where
  text : List TextGlyph
  next : Nat
  budget : Nat

/-- A way to apply the lookup with an index at a place. -/
abbrev Applier := (index budget : Nat) → List TextGlyph → (place : Nat) →
  Option Progress

/-- Replace the glyphs at places by one; the glyphs between them that were
passed over come after it. -/
def ligate (shaper : Shaper) (glyph : Nat) (text : List TextGlyph)
    (place : Nat) (others : List Nat) : Option (List TextGlyph × Nat) := do
  let first ← text[place]?
  let guess := ligatureKind (first :: others.filterMap (text[·]?))
  let stop := others.getLastD place + 1
  let between := (List.range' (place + 1) (stop - (place + 1))).filter
    (!others.contains ·)
  let kept := between.filterMap (text[·]?)
  pure (text.take place ++ shaper.put first guess glyph :: kept
    ++ text.drop stop, place + 1 + kept.length)

/-- The places of a context after the glyph at one of them became longer or
shorter. -/
def movePlaces (places : List Nat) (index : Nat) (change : Int) : List Nat :=
  let here := places.getD index 0
  let before := places.take (index + 1)
  let after := places.drop (index + 1)
  if 0 ≤ change then
    before ++ (List.range change.toNat).map (here + 1 + ·)
      ++ after.map (· + change.toNat)
  else
    let gone := min (-change).toNat after.length
    before ++ (after.drop gone).map (· - gone)

/-- Apply lookups at places of a context that ends before `stop`, until the
budget is used up. -/
def applyNested (apply : Applier) : List Nested → List TextGlyph →
    (places : List Nat) → (stop budget : Nat) → Progress
  | [], text, _, stop, budget => ⟨text, stop, budget⟩
  | one :: rest, text, places, stop, budget =>
      match places[one.place]? with
      | none => applyNested apply rest text places stop budget
      | some here =>
          if text.length ≤ here then
            applyNested apply rest text places stop budget
          else if budget = 0 then ⟨text, stop, budget⟩
          else
            match apply one.lookup (budget - 1) text here with
            | none => applyNested apply rest text places stop (budget - 1)
            | some done =>
                let change : Int := done.text.length - text.length
                let end' : Int := stop + change
                let change := if end' < here then change + (here - end')
                  else change
                applyNested apply rest done.text
                  (movePlaces places one.place change)
                  (max here end'.toNat) done.budget

/-- Apply a context at a place.  Where no lookup may be nested any deeper, the
context fits without effect. -/
def applyRule (apply : Option Applier) (passes : TextGlyph → Bool)
    (rule : Rule) (budget : Nat) (text : List TextGlyph) (place : Nat) :
    Option Progress := do
  let others ← match? passes rule.input (text.drop (place + 1)) (place + 1)
  let stop := others.getLastD place + 1
  let _ ← match? passes rule.after (text.drop stop) stop
  let _ ← match? passes rule.before (text.take place).reverse 0
  match apply with
  | none => pure ⟨text, stop, budget⟩
  | some apply =>
      pure (applyNested apply rule.nested text (place :: others) stop budget)

/-- Apply a subtable at a place. -/
def applySubtable (shaper : Shaper) (apply : Option Applier)
    (passes : TextGlyph → Bool) (table : Substitution) (budget : Nat)
    (text : List TextGlyph) (place : Nat) : Option Progress := do
  let item ← text[place]?
  let replaced := fun glyph => Progress.mk
    (splice text place [shaper.put item none glyph]) (place + 1) budget
  match table with
  | .shift coverage distance =>
      let _ ← coverage.place? item.glyph
      pure (replaced (((item.glyph : Int) + distance) % 65536).toNat)
  | .single coverage glyphs =>
      let index ← coverage.place? item.glyph
      let glyph ← glyphs[index]?
      pure (replaced glyph)
  | .multiple coverage sequences =>
      let index ← coverage.place? item.glyph
      match ← (sequences[index]?).join with
      | [glyph] => pure (replaced glyph)
      | glyphs =>
          let guess := if item.kind == .ligature then some GlyphKind.base
            else none
          pure ⟨splice text place (glyphs.map (shaper.put item guess)),
            place + glyphs.length, budget⟩
  | .alternate coverage sets =>
      let index ← coverage.place? item.glyph
      let glyphs ← (sets[index]?).join
      let glyph ← glyphs.head?
      pure (replaced glyph)
  | .ligature coverage sets =>
      let index ← coverage.place? item.glyph
      let ligatures ← (sets[index]?).join
      ligatures.findSome? fun ligature =>
        if ligature.rest.isEmpty then some (replaced ligature.glyph)
        else do
          let others ← match? passes (ligature.rest.map .glyph)
            (text.drop (place + 1)) (place + 1)
          let (text, next) ← shaper.ligate ligature.glyph text place others
          pure ⟨text, next, budget⟩
  | .byPlace coverage sets =>
      let index ← coverage.place? item.glyph
      let rules ← (sets[index]?).join
      rules.findSome? fun rule =>
        applyRule apply passes rule budget text place
  | .byClass coverage classes sets =>
      let _ ← coverage.place? item.glyph
      let rules ← (sets[classes.classOf item.glyph]?).join
      rules.findSome? fun rule =>
        applyRule apply passes rule budget text place
  | .pattern coverage rule =>
      let _ ← coverage.place? item.glyph
      applyRule apply passes rule budget text place

/-- Apply a lookup at a place, by a way to apply those that are nested. -/
def applyOnce (shaper : Shaper) (apply : Option Applier) : Applier :=
  fun index budget text place => do
    let lookup ← shaper.lookups[index]?
    lookup.subtables.findSome? fun table =>
      shaper.applySubtable apply (lookup.passesOver shaper.kinds) table budget
        text place

/-- Apply a lookup at a place, with lookups nested `depth` deep at most. -/
def applyAt (shaper : Shaper) : (depth : Nat) → Applier
  | 0 => shaper.applyOnce none
  | depth + 1 => shaper.applyOnce (some (shaper.applyAt depth))

/-- How deep lookups may be nested. -/
def maxDepth : Nat := 64

/-- How many nested lookups may be applied to a text of some length. -/
def budgetFor (length : Nat) : Nat := max (1024 * length) 16384

/-- Apply a lookup from a place on, in at most `steps` steps. -/
def applyFrom (shaper : Shaper) (lookup : Lookup) (index : Nat) :
    (steps : Nat) → Progress → Progress
  | 0, here => here
  | steps + 1, here =>
      match here.text[here.next]? with
      | none => here
      | some item =>
          let past := { here with next := here.next + 1 }
          if lookup.passesOver shaper.kinds item then
            shaper.applyFrom lookup index steps past
          else
            match shaper.applyAt maxDepth index here.budget here.text
                here.next with
            | some there => shaper.applyFrom lookup index steps there
            | none => shaper.applyFrom lookup index steps past

/-- Apply a lookup to all glyphs. -/
def applyLookup (shaper : Shaper) (here : Progress) (index : Nat) : Progress :=
  match shaper.lookups[index]? with
  | none => here
  | some lookup =>
      shaper.applyFrom lookup index (64 * (here.text.length + 1))
        { here with next := 0 }

/-- Apply lookups one after the other. -/
def applyAll (shaper : Shaper) (lookups : List Nat) (text : List TextGlyph) :
    List TextGlyph :=
  (lookups.foldl shaper.applyLookup ⟨text, 0, budgetFor text.length⟩).text

end Shaper

end Inkwell.Font
