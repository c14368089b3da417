import Inkwell.Chain
import Inkwell.Proofs.Glyph.Boxes

/-!
# The source that provides a glyph

A chain takes the glyph of a cluster from the first of its sources that knows the whole
cluster.  The reference to the glyph leads back to this source, because no source has the
place that is kept for the missing glyph.  A cluster that no source knows gets a reference
with this place, and the box is drawn for it.
-/

namespace Inkwell.Chain

variable {c : Chain} {cluster : Cluster} {place : Nat} {link : Link} {glyph size : UInt16}
  {ref : GlyphRef}

/-! ## Finding a source -/

/-- The link at the place has the glyph for the cluster, and no link before it has one. -/
structure Provides (c : Chain) (cluster : Cluster) (place : Nat) (link : Link)
    (glyph : UInt16) : Prop where
  isLink : c.links[place]? = some link
  knows : link.source.glyphFor? cluster = some glyph
  first : ∀ other < place, ∀ earlier, c.links[other]? = some earlier →
    earlier.source.glyphFor? cluster = none

theorem placeOf?_eq_some_iff :
    c.placeOf? cluster = some place ↔ ∃ link glyph, c.Provides cluster place link glyph := by
  rw [placeOf?, Array.findIdx?_eq_some_iff_getElem]
  constructor
  · rintro ⟨bound, knows, first⟩
    obtain ⟨glyph, knows⟩ := Option.isSome_iff_exists.mp knows
    refine ⟨_, glyph, Array.getElem?_eq_getElem bound, knows, ?_⟩
    intro other before earlier isEarlier
    obtain ⟨_, rfl⟩ := Array.getElem?_eq_some_iff.mp isEarlier
    exact Option.not_isSome_iff_eq_none.mp (first other before)
  · rintro ⟨link, glyph, isLink, knows, first⟩
    obtain ⟨bound, rfl⟩ := Array.getElem?_eq_some_iff.mp isLink
    refine ⟨bound, Option.isSome_of_eq_some knows, fun other before => ?_⟩
    rw [first other before _ (Array.getElem?_eq_getElem (Nat.lt_trans before bound))]
    exact Bool.false_ne_true

/-- A search ends at the link that provides the glyph. -/
theorem find?_eq_some_iff :
    c.find? cluster = some (place, link, glyph) ↔ c.Provides cluster place link glyph := by
  simp only [find?, Option.bind_eq_bind, Option.bind_eq_some_iff, Option.pure_def,
    Option.some.injEq, Prod.mk.injEq, placeOf?_eq_some_iff]
  constructor
  · rintro ⟨_, ⟨_, _, provides⟩, _, isLink, _, knows, rfl, rfl, rfl⟩
    exact ⟨isLink, knows, provides.first⟩
  · intro provides
    exact ⟨place, ⟨link, glyph, provides⟩, link, provides.isLink, glyph, provides.knows,
      rfl, rfl, rfl⟩

/-- A search fails only if no source knows the cluster. -/
theorem find?_eq_none_iff :
    c.find? cluster = none ↔ ∀ link ∈ c.links, link.source.glyphFor? cluster = none := by
  constructor
  · intro unfound
    have noPlace : c.placeOf? cluster = none := by
      rw [Option.eq_none_iff_forall_not_mem]
      intro place isPlace
      obtain ⟨link, glyph, provides⟩ := placeOf?_eq_some_iff.mp isPlace
      rw [find?_eq_some_iff.mpr provides] at unfound
      cases unfound
    intro link member
    have unknown := Array.findIdx?_eq_none_iff.mp noPlace link member
    exact Option.isNone_iff_eq_none.mp (Option.isSome_eq_false_iff.mp unknown)
  · intro unknown
    rw [Option.eq_none_iff_forall_not_mem]
    rintro ⟨place, link, glyph⟩ found
    have provides := find?_eq_some_iff.mp found
    have noGlyph := unknown link (Array.mem_of_getElem? provides.isLink)
    rw [provides.knows] at noGlyph
    cases noGlyph

theorem exists_provides (known : ∃ link ∈ c.links, link.source.glyphFor? cluster ≠ none) :
    ∃ place link glyph, c.Provides cluster place link glyph := by
  obtain ⟨link, member, knows⟩ := known
  cases found : c.find? cluster with
  | none => exact absurd (find?_eq_none_iff.mp found link member) knows
  | some provider => exact ⟨_, _, _, find?_eq_some_iff.mp found⟩

/-! ## References -/

/-- The reference is to a glyph of the link at a place, with the advance that its source
gives it at a size. -/
structure Refers (ref : GlyphRef) (place : Nat) (link : Link) (id size : UInt16) :
    Prop where
  source : ref.source.toNat = place
  key : ref.key = link.key
  glyph : ref.glyph = id
  advance : link.source.advance id size = .ok ref.advance

/-- The places of a chain that is not too long are those of words before the one that is
kept. -/
theorem place_lt (short : c.size ≤ GlyphRef.missingSource.toNat)
    (isLink : c.links[place]? = some link) : place < 65535 :=
  Nat.lt_of_lt_of_le (Array.getElem?_eq_some_iff.mp isLink).1 short

/-- A cluster is resolved to the reference to the glyph that the first source provides,
precisely when this source returns the advance of the glyph. -/
theorem resolve_of_provides (short : c.size ≤ GlyphRef.missingSource.toNat)
    (provides : c.Provides cluster place link glyph) (size : UInt16) (ref : GlyphRef) :
    c.resolve cluster size = .ok ref ↔ Refers ref place link glyph size := by
  have toNat_place : (UInt16.ofNat place).toNat = place :=
    UInt16.toNat_ofNat_of_lt' (Nat.lt_succ_of_lt (place_lt short provides.isLink))
  simp only [resolve, find?_eq_some_iff.mpr provides, Checked.bind_eq_ok_iff]
  constructor
  · rintro ⟨advance, isAdvance, isRef⟩
    cases isRef
    exact ⟨toNat_place, rfl, rfl, isAdvance⟩
  · rcases ref with ⟨source, key, glyph', advance⟩
    rintro ⟨isSource, isKey, isGlyph, isAdvance⟩
    dsimp only at isSource isKey isGlyph isAdvance
    have source_eq : UInt16.ofNat place = source :=
      UInt16.toNat_inj.mp (toNat_place.trans isSource.symm)
    exact ⟨advance, isAdvance, by rw [source_eq, isKey, isGlyph]; rfl⟩

/-- What a chain draws for a reference to a glyph of one of its links: what the source of
the link draws, or the box for a missing glyph if it cannot. -/
theorem Refers.rasterize_eq (refers : Refers ref place link glyph size)
    (short : c.size ≤ GlyphRef.missingSource.toNat) (isLink : c.links[place]? = some link) :
    ref.isMissing = false ∧ c.link? ref.source = some link ∧
      c.rasterize ref size = (do
        match ← link.source.rasterize glyph size with
        | .ok mask => pure mask
        | .error _ => c.missingBox size) := by
  have isLink' : c.link? ref.source = some link := by
    rw [link?, refers.source]
    exact isLink
  refine ⟨?_, isLink', ?_⟩
  · rw [GlyphRef.isMissing, beq_eq_false_iff_ne, Ne, ← UInt16.toNat_inj, refers.source]
    exact Nat.ne_of_lt (place_lt short isLink)
  · cases refers.glyph
    unfold rasterize
    generalize c.link? ref.source = found at isLink'
    cases isLink'
    rfl

/-- A cluster that no source knows is resolved to a missing glyph with the key of the first
source, for which the box is drawn. -/
theorem resolve_of_unknown (short : c.size ≤ GlyphRef.missingSource.toNat)
    (unknown : ∀ link ∈ c.links, link.source.glyphFor? cluster = none) (size : UInt16) :
    ∃ ref, c.resolve cluster size = .ok ref ∧ ref.isMissing = true ∧
      ref.key = (c.links[0]?.map (·.key)).getD 0 ∧
      MissingBox.advance size = .ok ref.advance ∧
      c.rasterize ref size = (do
        let metrics ← c.lineMetrics size
        MissingBox.mask size metrics) := by
  have noLink : c.link? GlyphRef.missingSource = none := Array.getElem?_eq_none short
  have isAdvance := MissingBox.advance_eq_ok size
  refine ⟨GlyphRef.missing c.baseKey _, ?_, beq_self_eq_true _, ?_, isAdvance, ?_⟩
  · rw [resolve, find?_eq_none_iff.mpr unknown, isAdvance]
    rfl
  · rw [GlyphRef.missing, baseKey]
    cases c.links[0]? <;> rfl
  · rw [rasterize, GlyphRef.missing, noLink]
    rfl

end Inkwell.Chain
