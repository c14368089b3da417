import Inkwell.Word

/-!
# Line metrics

How far a line of text reaches above and below its baseline.
-/

namespace Inkwell

/-- The extents of a line box around its baseline, in pixels. -/
structure LineMetrics where
  /-- From the baseline up to the top of the box. -/
  ascent : Int32
  /-- From the baseline down to the bottom of the box. -/
  descent : Int32
  deriving DecidableEq

namespace LineMetrics

/-- Four fifths of the size, rounded, are the ascent and the rest the
descent. -/
def estimate (size : UInt16) : LineMetrics where
  ascent := Int32.ofNat ((size.toNat * 4 + 2) / 5)
  descent := Int32.ofNat (size.toNat - (size.toNat * 4 + 2) / 5)

/-- The height of the line box. -/
def height (m : LineMetrics) : Checked Int32 :=
  Word.exactInt32 .add (m.ascent.toInt + m.descent.toInt)

end LineMetrics

end Inkwell
