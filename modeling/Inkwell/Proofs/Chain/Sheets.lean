import Inkwell.Chain
import Inkwell.Proofs.Glyph.Acceptance
import Inkwell.Proofs.Glyph.Boxes
import Inkwell.Proofs.Glyph.Scaling

/-!
# Chains of sheets

What a chain of sheets finds for a cluster is the drawing of the first sheet that
knows it.  Whether the glyph can be resolved and rendered, and with which advance,
depends on this drawing, or on the first sheet for a cluster that none knows.
-/

namespace Inkwell

namespace Sheets

/-- The first of the sheets that knows a cluster, and its drawing. -/
def drawingFor? (sheets : List Sheet) (cluster : Cluster) : Option (Sheet × Drawing) :=
  sheets.findSome? fun s => do
    let id ← s.glyphFor? cluster
    let d ← s.drawings[id.toNat]?
    pure (s, d)

/-- The ascent of a line: that of the first sheet. -/
def ascent (sheets : List Sheet) (size : UInt16) : Int :=
  match sheets.head? with
  | some s => s.scaled s.metrics.ascent size
  | none => (LineMetrics.estimate size).ascent.toInt

/-- The descent of a line: that of the first sheet. -/
def descent (sheets : List Sheet) (size : UInt16) : Int :=
  match sheets.head? with
  | some s => s.scaled s.metrics.descent size
  | none => (LineMetrics.estimate size).descent.toInt

/-- The first sheet can scale the extents of a line. -/
def LineScalable (sheets : List Sheet) (size : UInt16) : Prop :=
  ∀ s ∈ sheets.head?, s.Scalable s.metrics.ascent size ∧ s.Scalable s.metrics.descent size

/-- Words can hold all that is computed for the glyph of a cluster. -/
def GlyphFits (sheets : List Sheet) (size : UInt16) (cluster : Cluster) : Prop :=
  match drawingFor? sheets cluster with
  | some (s, d) => s.Scalable (Int32.ofNat d.advance.toNat) size ∧ s.Showable d size
  | none => MissingBox.Showable size (ascent sheets size)

/-- How far the glyph of a cluster moves the pen. -/
def advance (sheets : List Sheet) (size : UInt16) (cluster : Cluster) : UInt16 :=
  match drawingFor? sheets cluster with
  | some (s, d) => s.scaledAdvance d size
  | none =>
      UInt16.ofNat ((MissingBox.width size).toNat + (MissingBox.gap size).toNat)

variable {sheets : List Sheet} {cluster : Cluster}

theorem glyphFor?_eq_none (sound : ∀ s ∈ sheets, s.Sound)
    (unknown : drawingFor? sheets cluster = none) {s : Sheet} (member : s ∈ sheets) :
    s.glyphFor? cluster = none := by
  have noDrawing := List.findSome?_eq_none_iff.mp unknown s member
  cases found : s.glyphFor? cluster with
  | none => rfl
  | some id =>
      obtain ⟨d, isDrawing, _⟩ := (sound s member).exists_drawing found
      simp [found, isDrawing] at noDrawing

end Sheets

namespace Chain

/-- The sources of the chain are the sheets, in order. -/
def OfSheets (c : Chain) (sheets : List Sheet) : Prop :=
  c.links.toList.map (·.source) = sheets.map Sheet.toSource

/-- The chain finds a glyph for the cluster and renders it. -/
structure Yields (c : Chain) (size : UInt16) (cluster : Cluster) (ref : GlyphRef)
    (mask : Mask) : Prop where
  resolves : c.resolve cluster size = .ok ref
  renders : c.rasterize ref size = .ok mask

variable {c : Chain} {sheets : List Sheet} {size : UInt16} {cluster : Cluster}

theorem OfSheets.source_getElem? (made : c.OfSheets sheets) (place : Nat) :
    c.links[place]?.map (·.source) = sheets[place]?.map Sheet.toSource := by
  rw [← Array.getElem?_toList, ← List.getElem?_map, ← List.getElem?_map, made]

/-- The link at the place of a sheet has this sheet as its source. -/
theorem OfSheets.exists_link (made : c.OfSheets sheets) {place : Nat} {s : Sheet}
    (isSheet : sheets[place]? = some s) :
    ∃ link, c.links[place]? = some link ∧ link.source = s.toSource := by
  have source := made.source_getElem? place
  rw [isSheet] at source
  exact Option.map_eq_some_iff.mp source

/-- Every link has one of the sheets as its source. -/
theorem OfSheets.exists_sheet (made : c.OfSheets sheets) {place : Nat} {link : Link}
    (isLink : c.links[place]? = some link) :
    ∃ s, sheets[place]? = some s ∧ link.source = s.toSource := by
  have source := made.source_getElem? place
  rw [isLink] at source
  obtain ⟨s, isSheet, source_eq⟩ := Option.map_eq_some_iff.mp source.symm
  exact ⟨s, isSheet, source_eq.symm⟩

/-! ## The line -/

theorem OfSheets.lineMetrics_eq_ok_iff (made : c.OfSheets sheets)
    {metrics : LineMetrics} :
    c.lineMetrics size = .ok metrics ↔
      Sheets.LineScalable sheets size ∧
      metrics.ascent.toInt = Sheets.ascent sheets size ∧
      metrics.descent.toInt = Sheets.descent sheets size := by
  have base := made.source_getElem? 0
  unfold lineMetrics Sheets.LineScalable Sheets.ascent Sheets.descent
  rw [List.head?_eq_getElem?]
  cases isSheet : sheets[0]? with
  | none =>
      rw [isSheet] at base
      have noLink : c.links[0]? = none := Option.map_eq_none_iff.mp base
      rw [noLink]
      constructor
      · intro isMetrics
        cases isMetrics
        exact ⟨nofun, rfl, rfl⟩
      · rintro ⟨_, isAscent, isDescent⟩
        rcases metrics with ⟨ascent, descent⟩
        have isAscent : ascent = _ := Int32.toInt_inj.mp isAscent
        have isDescent : descent = _ := Int32.toInt_inj.mp isDescent
        rw [isAscent, isDescent]
        rfl
  | some s =>
      obtain ⟨link, isLink, source_eq⟩ := made.exists_link isSheet
      rw [isLink]
      simp only [source_eq, Sheet.toSource, Option.mem_some_iff, forall_eq']
      exact Sheet.lineMetrics_eq_ok_iff

theorem OfSheets.exists_lineMetrics (made : c.OfSheets sheets)
    (scalable : Sheets.LineScalable sheets size) :
    ∃ metrics, c.lineMetrics size = .ok metrics := by
  have exists_words : ∃ metrics : LineMetrics,
      metrics.ascent.toInt = Sheets.ascent sheets size ∧
      metrics.descent.toInt = Sheets.descent sheets size := by
    unfold Sheets.ascent Sheets.descent
    cases isSheet : sheets.head? with
    | none => exact ⟨LineMetrics.estimate size, rfl, rfl⟩
    | some s =>
        obtain ⟨ascent, descent⟩ := scalable s isSheet
        exact ⟨⟨_, _⟩, Word.toInt_ofInt_of_fits ascent.fits_scaled,
          Word.toInt_ofInt_of_fits descent.fits_scaled⟩
  obtain ⟨metrics, isAscent, isDescent⟩ := exists_words
  exact ⟨metrics, made.lineMetrics_eq_ok_iff.mpr ⟨scalable, isAscent, isDescent⟩⟩

/-! ## Glyphs -/

/-- A cluster that one of the sheets knows is found in the first such sheet. -/
theorem OfSheets.find?_eq_some (made : c.OfSheets sheets)
    (sound : ∀ s ∈ sheets, s.Sound) {s : Sheet} {d : Drawing}
    (known : Sheets.drawingFor? sheets cluster = some (s, d)) :
    ∃ place link id, c.find? cluster = some (place, link, id) ∧
      c.links[place]? = some link ∧ link.source = s.toSource ∧
      s.drawings[id.toNat]? = some d ∧ d.Sound := by
  obtain ⟨before, first, after, rfl, isFirst, unknown⟩ :=
    List.findSome?_eq_some_iff.mp known
  simp only [Option.bind_eq_bind, Option.bind_eq_some_iff] at isFirst
  obtain ⟨id, found, d', isDrawing, equal⟩ := isFirst
  cases equal
  have isSheet : (before ++ s :: after)[before.length]? = some s := by simp
  obtain ⟨link, isLink, source_eq⟩ := made.exists_link isSheet
  have isPlace : c.placeOf? cluster = some before.length := by
    obtain ⟨bound, link_eq⟩ := Array.getElem?_eq_some_iff.mp isLink
    rw [placeOf?, Array.findIdx?_eq_some_iff_getElem]
    refine ⟨bound, ?_, ?_⟩
    · rw [link_eq, source_eq]
      simp [Sheet.toSource, found]
    · intro i earlier
      obtain ⟨other, isOther, other_source⟩ :=
        made.exists_sheet (Array.getElem?_eq_getElem (Nat.lt_trans earlier bound))
      rw [List.getElem?_append_left earlier] at isOther
      have member : other ∈ before := List.mem_of_getElem? isOther
      have noGlyph : other.glyphFor? cluster = none :=
        Sheets.glyphFor?_eq_none
          (fun s member => sound s (List.mem_append_left _ member))
          (List.findSome?_eq_none_iff.mpr unknown) member
      rw [other_source]
      simp [Sheet.toSource, noGlyph]
  refine ⟨before.length, link, id, ?_, isLink, source_eq, isDrawing, ?_⟩
  · rw [find?, isPlace]
    simp [isLink, source_eq, Sheet.toSource, found]
  · obtain ⟨d', isDrawing', drawn⟩ := (sound s (by simp)).exists_drawing found
    cases isDrawing.symm.trans isDrawing'
    exact drawn

/-- A cluster that no sheet knows is not found. -/
theorem OfSheets.find?_eq_none (made : c.OfSheets sheets)
    (sound : ∀ s ∈ sheets, s.Sound)
    (unknown : Sheets.drawingFor? sheets cluster = none) : c.find? cluster = none := by
  have noPlace : c.placeOf? cluster = none := by
    rw [placeOf?, Array.findIdx?_eq_none_iff]
    intro link member
    obtain ⟨place, bound, isLink⟩ := Array.getElem_of_mem member
    obtain ⟨s, isSheet, source_eq⟩ :=
      made.exists_sheet (Array.getElem?_eq_some_iff.mpr ⟨bound, isLink⟩)
    have noGlyph := Sheets.glyphFor?_eq_none sound unknown
      (List.mem_of_getElem? isSheet)
    rw [source_eq]
    simp [Sheet.toSource, noGlyph]
  simp [find?, noPlace]

/-- What the chain yields for a cluster that one of the sheets knows. -/
theorem OfSheets.yields_of_known (made : c.OfSheets sheets)
    (sound : ∀ s ∈ sheets, s.Sound) (short : c.size ≤ GlyphRef.missingSource.toNat)
    (size : UInt16) {s : Sheet} {d : Drawing}
    (known : Sheets.drawingFor? sheets cluster = some (s, d)) :
    d.Sound ∧ ∃ source key glyph, ∀ ref mask, c.Yields size cluster ref mask ↔
      (s.Scalable (Int32.ofNat d.advance.toNat) size ∧ s.Showable d size) ∧
      ref = ⟨source, key, glyph, s.scaledAdvance d size⟩ ∧ mask = s.shown d size := by
  obtain ⟨place, link, id, found, isLink, source_eq, isDrawing, drawn⟩ :=
    made.find?_eq_some sound known
  have place_lt : place < 65536 := by
    have bound := (Array.getElem?_eq_some_iff.mp isLink).1
    exact Nat.lt_of_lt_of_le bound (Nat.le_trans short (by decide))
  have isLink' : c.link? (UInt16.ofNat place) = some link := by
    rw [link?, UInt16.toNat_ofNat_of_lt' place_lt]
    exact isLink
  have resolves (ref : GlyphRef) : c.resolve cluster size = .ok ref ↔
      s.Scalable (Int32.ofNat d.advance.toNat) size ∧
        ref = ⟨UInt16.ofNat place, link.key, id, s.scaledAdvance d size⟩ := by
    simp only [resolve, found, source_eq, Sheet.toSource, Checked.bind_eq_ok_iff,
      Sheet.advance_eq_ok_iff isDrawing, pure, Except.pure, Except.ok.injEq]
    grind
  have renders (advance : UInt16) (mask : Mask) :
      c.rasterize ⟨UInt16.ofNat place, link.key, id, advance⟩ size = .ok mask ↔
        s.Showable d size ∧ mask = s.shown d size := by
    simp only [rasterize, isLink', source_eq, Sheet.toSource, Checked.bind_eq_ok_iff,
      Sheet.rasterize_eq_ok_iff_of_sound isDrawing drawn]
    constructor
    · rintro ⟨_, ⟨showable, rfl⟩, isMask⟩
      cases isMask
      exact ⟨showable, rfl⟩
    · rintro ⟨showable, rfl⟩
      exact ⟨_, ⟨showable, rfl⟩, rfl⟩
  refine ⟨drawn, UInt16.ofNat place, link.key, id, fun ref mask => ?_⟩
  constructor
  · rintro ⟨isRef, isMask⟩
    obtain ⟨scalable, rfl⟩ := (resolves ref).mp isRef
    obtain ⟨showable, rfl⟩ := (renders _ mask).mp isMask
    exact ⟨⟨scalable, showable⟩, rfl, rfl⟩
  · rintro ⟨⟨scalable, showable⟩, rfl, rfl⟩
    exact ⟨(resolves _).mpr ⟨scalable, rfl⟩, (renders _ _).mpr ⟨showable, rfl⟩⟩

/-- What the chain yields for a cluster that no sheet knows. -/
theorem OfSheets.yields_of_unknown (made : c.OfSheets sheets)
    (sound : ∀ s ∈ sheets, s.Sound) (short : c.size ≤ GlyphRef.missingSource.toNat)
    (unknown : Sheets.drawingFor? sheets cluster = none) (ref : GlyphRef) (mask : Mask) :
    c.Yields size cluster ref mask ↔
      ref = GlyphRef.missing c.baseKey
        (UInt16.ofNat ((MissingBox.width size).toNat + (MissingBox.gap size).toNat)) ∧
      c.missingBox size = .ok mask := by
  have noLink : c.link? GlyphRef.missingSource = none := by
    rw [link?, Array.getElem?_eq_none_iff]
    exact short
  have resolves : c.resolve cluster size = .ok (GlyphRef.missing c.baseKey
      (UInt16.ofNat ((MissingBox.width size).toNat + (MissingBox.gap size).toNat))) := by
    rw [resolve, made.find?_eq_none sound unknown, MissingBox.advance_eq_ok]
    rfl
  have renders (advance : UInt16) :
      c.rasterize (GlyphRef.missing c.baseKey advance) size = c.missingBox size := by
    rw [rasterize, GlyphRef.missing, noLink]
  constructor
  · rintro ⟨isRef, isMask⟩
    cases resolves.symm.trans isRef
    exact ⟨rfl, (renders _).symm.trans isMask⟩
  · rintro ⟨rfl, isMask⟩
    exact ⟨resolves, (renders _).trans isMask⟩

/-- A word can count the bytes of whatever the chain yields, which moves the pen as
the sheets say. -/
theorem Yields.countable_and_advance {ref : GlyphRef} {mask : Mask}
    (yields : c.Yields size cluster ref mask) (made : c.OfSheets sheets)
    (sound : ∀ s ∈ sheets, s.Sound) (short : c.size ≤ GlyphRef.missingSource.toNat) :
    mask.width.toNat * mask.height.toNat < 4294967296 ∧
      ref.advance = Sheets.advance sheets size cluster := by
  unfold Sheets.advance
  cases known : Sheets.drawingFor? sheets cluster with
  | some found =>
      obtain ⟨drawn, _, _, _, yields_iff⟩ :=
        made.yields_of_known sound short size known
      obtain ⟨⟨_, showable⟩, rfl, rfl⟩ := (yields_iff ref mask).mp yields
      exact ⟨showable.countable drawn.countable, rfl⟩
  | none =>
      obtain ⟨rfl, isMask⟩ :=
        (made.yields_of_unknown sound short known ref mask).mp yields
      obtain ⟨metrics, _, isMask⟩ := Checked.bind_eq_ok_iff.mp isMask
      exact ⟨MissingBox.countable_of_mask isMask, rfl⟩

/-- On a line whose extents can be scaled, the chain yields a glyph for a cluster
precisely when words can hold all that is computed for it. -/
theorem OfSheets.yields_iff (made : c.OfSheets sheets)
    (sound : ∀ s ∈ sheets, s.Sound) (short : c.size ≤ GlyphRef.missingSource.toNat)
    (scalable : Sheets.LineScalable sheets size) :
    (∃ ref mask, c.Yields size cluster ref mask) ↔
      Sheets.GlyphFits sheets size cluster := by
  unfold Sheets.GlyphFits
  cases known : Sheets.drawingFor? sheets cluster with
  | some found =>
      obtain ⟨_, _, _, _, yields_iff⟩ := made.yields_of_known sound short size known
      simp [yields_iff]
  | none =>
      obtain ⟨metrics, isMetrics⟩ := made.exists_lineMetrics scalable
      have missingBox_eq : c.missingBox size = MissingBox.mask size metrics := by
        rw [missingBox, isMetrics]
        rfl
      obtain ⟨_, isAscent, _⟩ := made.lineMetrics_eq_ok_iff.mp isMetrics
      simp only [made.yields_of_unknown sound short known, exists_and_left,
        exists_eq_left, missingBox_eq, MissingBox.mask_returns_iff, isAscent]

end Chain

end Inkwell
