import Inkwell.Glyph.Sheet

/-!
# Glyph sources

A source is anything that provides glyphs for clusters: bitmap sheets and
fonts.  It is given by its answers, which depend on their arguments alone.
-/

namespace Inkwell

/-- A provider of glyphs. -/
structure Source where
  name : String
  /-- The id of the glyph for a whole cluster.  A source that only knows the
  first of two characters has none. -/
  glyphFor? : Cluster → Option UInt16
  /-- How far a glyph moves the pen at a size. -/
  advance : (id size : UInt16) → Checked UInt16
  /-- The metrics of a line at a size. -/
  lineMetrics : (size : UInt16) → Checked LineMetrics
  /-- The mask of a glyph at a size. -/
  rasterize : (id size : UInt16) → Checked (Except Error Mask)

/-- A sheet as a source. -/
def Sheet.toSource (s : Sheet) : Source where
  name := s.name
  glyphFor? := s.glyphFor?
  advance := s.advance
  lineMetrics := s.lineMetrics
  rasterize := s.rasterize

end Inkwell
