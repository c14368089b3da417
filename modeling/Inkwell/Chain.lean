import Inkwell.Glyph.MissingBox
import Inkwell.Glyph.Ref
import Inkwell.Glyph.Source

/-!
# Chains of sources

A chain tries its sources in order, and the first one that knows a whole
cluster provides the glyph.  A cluster that no source knows gets the missing
glyph.  A chain never becomes so long that a source would get the place that is
reserved for it.
-/

namespace Inkwell

/-- The role of a source in a chain. -/
inductive Role where
  | base
  | emoji
  | symbol
  | overlay
  deriving DecidableEq

/-- The name of a role. -/
def Role.name : Role → String
  | .base => "Base"
  | .emoji => "Emoji"
  | .symbol => "Symbol"
  | .overlay => "Overlay"

/-- A source in a chain. -/
structure Link where
  role : Role
  /-- The key that no other link has. -/
  key : UInt32
  source : Source

/-- The next key that a link can have. -/
structure KeySupply where
  next : UInt32
  deriving DecidableEq

/-- All keys but the one of a chain without sources. -/
def KeySupply.fresh : KeySupply := ⟨GlyphRef.unsourcedKey + 1⟩

/-- Sources in the order in which they are tried. -/
structure Chain where
  links : Array Link

namespace Chain

/-- The chain without sources. -/
def empty : Chain := ⟨#[]⟩

/-- The number of sources. -/
def size (c : Chain) : Nat := c.links.size

/-- Add a source that is tried after all others.  A full chain ignores it and
takes no key. -/
def push (c : Chain) (role : Role) (source : Source) (keys : KeySupply) :
    Chain × KeySupply :=
  if c.links.size < GlyphRef.missingSource.toNat then
    (⟨c.links.push ⟨role, keys.next, source⟩⟩, ⟨keys.next + 1⟩)
  else
    (c, keys)

/-- Add a source several times. -/
def pushRepeat (role : Role) (source : Source) :
    Nat → Chain → KeySupply → Chain × KeySupply
  | 0, c, keys => (c, keys)
  | count + 1, c, keys =>
      let pushed := c.push role source keys
      pushRepeat role source count pushed.1 pushed.2

/-- The link at a place. -/
def link? (c : Chain) (place : UInt16) : Option Link :=
  c.links[place.toNat]?

/-- The key of the first source. -/
def baseKey (c : Chain) : UInt32 :=
  match c.links[0]? with
  | some link => link.key
  | none => GlyphRef.unsourcedKey

/-- The place of the first source that knows the whole cluster. -/
def placeOf? (c : Chain) (cluster : Cluster) : Option Nat :=
  c.links.findIdx? fun link => (link.source.glyphFor? cluster).isSome

/-- The first source that knows the whole cluster, its place and the glyph it
has for it. -/
def find? (c : Chain) (cluster : Cluster) : Option (Nat × Link × UInt16) := do
  let place ← c.placeOf? cluster
  let link ← c.links[place]?
  let glyph ← link.source.glyphFor? cluster
  pure (place, link, glyph)

/-- The glyph for a cluster at a size. -/
def resolve (c : Chain) (cluster : Cluster) (size : UInt16) :
    Checked GlyphRef :=
  match c.find? cluster with
  | some (place, link, glyph) => do
      let advance ← link.source.advance glyph size
      pure ⟨UInt16.ofNat place, link.key, glyph, advance⟩
  | none => do
      let advance ← MissingBox.advance size
      pure (GlyphRef.missing c.baseKey advance)

/-- The metrics of a line: those of the first source. -/
def lineMetrics (c : Chain) (size : UInt16) : Checked LineMetrics :=
  match c.links[0]? with
  | some link => link.source.lineMetrics size
  | none => pure (LineMetrics.estimate size)

/-- The box for a missing glyph on a line of the chain. -/
def missingBox (c : Chain) (size : UInt16) : Checked Mask := do
  let metrics ← c.lineMetrics size
  MissingBox.mask size metrics

/-- The mask of a glyph at a size.  A glyph whose source is not there or cannot
render it is drawn as missing. -/
def rasterize (c : Chain) (ref : GlyphRef) (size : UInt16) : Checked Mask :=
  match c.link? ref.source with
  | none => c.missingBox size
  | some link => do
      match ← link.source.rasterize ref.glyph size with
      | .ok mask => pure mask
      | .error _ => c.missingBox size

/-- The roles and names of the sources, in order. -/
def describe (c : Chain) : String :=
  Text.bracketed (c.links.toList.map fun link =>
    "(" ++ link.role.name ++ ", " ++ Text.quotedString link.source.name ++ ")")

end Chain

end Inkwell
