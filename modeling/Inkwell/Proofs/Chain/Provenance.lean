import Inkwell.Cache
import Inkwell.Chain
import Mathlib.Data.List.Nodup

/-!
# Where keys come from

Chains are copied and extended independently, so several of them may hold the
same link.  They then also begin with the same link, because a link is added to
one chain and every chain that has it goes back to that one.  A catalog records
this for all keys that were ever given out: the link with the key, and the first
link of the chain it was added to.

What a chain renders for a glyph it offers is therefore determined by the key
under which the mask is cached.
-/

namespace Inkwell

/-- A link, and the first link of the chain that it was added to. -/
structure Provenance where
  link : Link
  base : Link

/-- The provenance of every key that was given out, latest first. -/
structure Catalog where
  records : List Provenance

namespace Catalog

/-- The catalog before any key was given out. -/
def empty : Catalog := ⟨[]⟩

/-- The catalog with one more record. -/
def add (catalog : Catalog) (record : Provenance) : Catalog :=
  ⟨record :: catalog.records⟩

/-- The record of a key. -/
def find? (catalog : Catalog) (key : UInt32) : Option Provenance :=
  catalog.records.find? (·.link.key == key)

/-- Some chain can have the key as the key of one of its references. -/
def Known (catalog : Catalog) (key : UInt32) : Prop :=
  key = GlyphRef.unsourcedKey ∨ ∃ record ∈ catalog.records, record.link.key = key

/-- The records are those of the keys that the supply has given out: no key
was given out twice, and none is the key of a chain without sources. -/
structure Matches (catalog : Catalog) (keys : KeySupply) : Prop where
  next_eq : keys.next.toNat = catalog.records.length + 1
  nodup : (catalog.records.map (·.link.key)).Nodup
  pos : ∀ record ∈ catalog.records, 0 < record.link.key.toNat
  lt_next : ∀ record ∈ catalog.records, record.link.key.toNat < keys.next.toNat

theorem matches_empty : Matches empty KeySupply.fresh := by
  constructor <;> simp [empty, KeySupply.fresh, GlyphRef.unsourcedKey]

variable {catalog : Catalog} {keys : KeySupply}

/-- The next key is not that of a chain without sources. -/
theorem Matches.next_ne_unsourced (isMatch : catalog.Matches keys) :
    keys.next ≠ GlyphRef.unsourcedKey := by
  intro equal
  have value := isMatch.next_eq
  rw [equal] at value
  simp [GlyphRef.unsourcedKey] at value

/-- The next key was not given out before. -/
theorem Matches.next_not_known (isMatch : catalog.Matches keys) :
    ¬ catalog.Known keys.next := by
  rintro (unsourced | ⟨record, member, equal⟩)
  · exact isMatch.next_ne_unsourced unsourced
  · have lt := isMatch.lt_next record member
    rw [equal] at lt
    exact Nat.lt_irrefl _ lt

/-- Giving out the next key, unless the supply wraps, adds its record. -/
theorem Matches.add (isMatch : catalog.Matches keys) {record : Provenance}
    (isNext : record.link.key = keys.next)
    (few : catalog.records.length + 2 < 4294967296) :
    (catalog.add record).Matches ⟨keys.next + 1⟩ := by
  have succ : (keys.next + 1).toNat = keys.next.toNat + 1 := by
    rw [UInt32.toNat_add, isMatch.next_eq]
    exact Nat.mod_eq_of_lt few
  constructor
  · simp [Catalog.add, succ, isMatch.next_eq]
  · refine List.nodup_cons.mpr ⟨?_, isMatch.nodup⟩
    intro found
    obtain ⟨old, oldMem, equal⟩ := List.mem_map.mp found
    exact isMatch.next_not_known (.inr ⟨old, oldMem, equal.trans isNext⟩)
  · intro old member
    rcases List.mem_cons.mp member with rfl | member
    · rw [isNext, isMatch.next_eq]
      exact Nat.succ_pos _
    · exact isMatch.pos old member
  · intro old member
    simp only [succ]
    rcases List.mem_cons.mp member with rfl | member
    · rw [isNext]
      exact Nat.lt_succ_self _
    · exact Nat.lt_succ_of_lt (isMatch.lt_next old member)

/-- The record of a key that was given out. -/
theorem Matches.find?_eq_some (isMatch : catalog.Matches keys)
    {record : Provenance} (member : record ∈ catalog.records) :
    catalog.find? record.link.key = some record := by
  obtain ⟨found, isFound⟩ : ∃ found, catalog.find? record.link.key = some found :=
    Option.isSome_iff_exists.mp
      (List.find?_isSome.mpr ⟨record, member, beq_self_eq_true _⟩)
  have sameKey : found.link.key = record.link.key := by
    simpa using List.find?_some isFound
  rw [isFound, List.inj_on_of_nodup_map isMatch.nodup
    (List.mem_of_find?_eq_some isFound) member sameKey]

/-- No record has the key of a chain without sources. -/
theorem Matches.find?_unsourced (isMatch : catalog.Matches keys) :
    catalog.find? GlyphRef.unsourcedKey = none := by
  rw [find?, List.find?_eq_none]
  intro record member
  have pos := isMatch.pos record member
  simp only [beq_iff_eq]
  intro equal
  simp [equal, GlyphRef.unsourcedKey] at pos

/-- What every chain with a glyph renders for it, told from the key under which
the mask is cached. -/
def mask (catalog : Catalog) (key : CacheKey) : Checked Mask :=
  match catalog.find? key.source with
  | none => MissingBox.mask key.size (LineMetrics.estimate key.size)
  | some record =>
      let box := do
        let metrics ← record.base.source.lineMetrics key.size
        MissingBox.mask key.size metrics
      if key.glyph = CacheKey.missingGlyph then
        box
      else do
        match ← record.link.source.rasterize key.glyph.toUInt16 key.size with
        | .ok mask => pure mask
        | .error _ => box

/-- The mask is what chains render for the glyph with the key. -/
def Shows (catalog : Catalog) (key : CacheKey) (mask : Mask) : Prop :=
  catalog.Known key.source ∧ catalog.mask key = .ok mask

/-- What is shown under a key stays when another key is given out. -/
theorem Matches.shows_add (isMatch : catalog.Matches keys) {record : Provenance}
    (isNext : record.link.key = keys.next) {key : CacheKey} {mask : Mask}
    (shows : catalog.Shows key mask) : (catalog.add record).Shows key mask := by
  obtain ⟨known, equal⟩ := shows
  have different : record.link.key ≠ key.source := by
    rintro same
    exact isMatch.next_not_known (isNext ▸ same ▸ known)
  have sameRecord : (catalog.add record).find? key.source =
      catalog.find? key.source :=
    List.find?_cons_of_neg (by simpa using different)
  constructor
  · rcases known with unsourced | ⟨old, member, oldKey⟩
    · exact .inl unsourced
    · exact .inr ⟨old, List.mem_cons_of_mem _ member, oldKey⟩
  · unfold Catalog.mask
    rw [sameRecord]
    exact equal

end Catalog

namespace Chain

variable {catalog : Catalog} {keys : KeySupply} {c : Chain}

/-- The chain is not too long, and its links are in the catalog together with
its first link. -/
structure Recorded (catalog : Catalog) (c : Chain) : Prop where
  size_le : c.size ≤ GlyphRef.missingSource.toNat
  record_mem : ∀ {place : Nat} {link}, c.links[place]? = some link →
    ∃ base, c.links[0]? = some base ∧ ⟨link, base⟩ ∈ catalog.records

theorem recorded_empty (catalog : Catalog) : Recorded catalog empty := by
  constructor <;> simp [empty, size]

/-- A chain stays recorded when the catalog grows. -/
theorem Recorded.add (recorded : c.Recorded catalog) (record : Provenance) :
    c.Recorded (catalog.add record) where
  size_le := recorded.size_le
  record_mem found := by
    obtain ⟨base, isBase, member⟩ := recorded.record_mem found
    exact ⟨base, isBase, List.mem_cons_of_mem _ member⟩

/-- Pushing a source either gives out the next key, for a link whose record is
then added to the catalog, or does nothing. -/
theorem Recorded.push (recorded : c.Recorded catalog) (role : Role)
    (source : Source) (keys : KeySupply) :
    (∃ record : Provenance, record.link.key = keys.next ∧
      (c.push role source keys).2 = ⟨keys.next + 1⟩ ∧
      (c.push role source keys).1.Recorded (catalog.add record)) ∨
    c.push role source keys = (c, keys) := by
  unfold Chain.push
  split
  · rename_i room
    left
    let link : Link := ⟨role, keys.next, source⟩
    let base : Link := (c.links[0]?).getD link
    have isBase : (c.links.push link)[0]? = some base := by
      rw [Array.getElem?_push]
      by_cases first : c.links.size = 0
      · simp [base, first]
      · have bound : 0 < c.links.size := Nat.pos_of_ne_zero first
        simp [base, Ne.symm first, Array.getElem?_eq_getElem bound]
    refine ⟨⟨link, base⟩, rfl, rfl, ?_, ?_⟩
    · simpa [size] using Nat.succ_le_of_lt room
    · intro place other found
      refine ⟨base, isBase, ?_⟩
      rw [Array.getElem?_push] at found
      split at found
      · cases found
        exact List.mem_cons_self
      · obtain ⟨oldBase, isOldBase, member⟩ := recorded.record_mem found
        have same : base = oldBase := by
          simp [base, isOldBase]
        rw [same]
        exact List.mem_cons_of_mem _ member
  · exact .inr rfl

/-- The chain may give out the reference for a cluster: it is missing and has the
key of the first source, or it has the place and the key of one of the
sources. -/
def Offers (c : Chain) (ref : GlyphRef) : Prop :=
  (ref.isMissing = true ∧ ref.key = c.baseKey) ∨
    (ref.isMissing = false ∧
      ∃ link, c.link? ref.source = some link ∧ ref.key = link.key)

/-- A chain offers what it resolves clusters to. -/
theorem offers_of_resolve (short : c.size ≤ GlyphRef.missingSource.toNat)
    {cluster : Cluster} {size : UInt16} {ref : GlyphRef}
    (resolved : c.resolve cluster size = .ok ref) : c.Offers ref := by
  unfold resolve at resolved
  split at resolved
  · rename_i place link glyph found
    simp only [find?, Option.bind_eq_bind, Option.bind_eq_some_iff] at found
    obtain ⟨place', _, link', isLink, glyph', _, equal⟩ := found
    cases equal
    have bound : place < c.links.size := (Array.getElem?_eq_some_iff.mp isLink).1
    have inRange : place < 65535 := Nat.lt_of_lt_of_le bound short
    have value : (UInt16.ofNat place).toNat = place :=
      UInt16.toNat_ofNat_of_lt (Nat.lt_of_lt_of_le inRange (by decide))
    obtain ⟨width, _, isRef⟩ := Checked.bind_eq_ok_iff.mp resolved
    cases isRef
    right
    constructor
    · simp only [GlyphRef.isMissing, beq_eq_false_iff_ne]
      intro equal
      have contradiction := congrArg UInt16.toNat equal
      rw [value] at contradiction
      exact Nat.ne_of_lt inRange contradiction
    · exact ⟨link, by simpa [link?, value] using isLink, rfl⟩
  · obtain ⟨width, _, isRef⟩ := Checked.bind_eq_ok_iff.mp resolved
    cases isRef
    exact .inl ⟨by simp [GlyphRef.isMissing, GlyphRef.missing], rfl⟩

/-- The first link of a recorded chain has a record that names it twice. -/
theorem Recorded.base_mem (recorded : c.Recorded catalog) {base : Link}
    (isBase : c.links[0]? = some base) : ⟨base, base⟩ ∈ catalog.records := by
  obtain ⟨other, isOther, member⟩ := recorded.record_mem isBase
  rw [isBase] at isOther
  cases isOther
  exact member

/-- What a recorded chain renders for a reference that it offers is what the
catalog has under the key that the mask is cached under. -/
theorem Recorded.rasterize_eq (recorded : c.Recorded catalog)
    (isMatch : catalog.Matches keys) {ref : GlyphRef} (offers : c.Offers ref)
    (size : UInt16) :
    catalog.Known ref.key ∧
      c.rasterize ref size = catalog.mask (CacheKey.ofRef ref size) := by
  rcases offers with ⟨missing, isBaseKey⟩ | ⟨present, link, isLink, isKey⟩
  · have noLink : c.link? ref.source = none := by
      have isSource : ref.source = GlyphRef.missingSource := beq_iff_eq.mp missing
      rw [link?, isSource]
      exact Array.getElem?_eq_none recorded.size_le
    unfold rasterize Catalog.mask
    rw [noLink]
    simp only [CacheKey.ofRef, missing, if_true, missingBox, lineMetrics]
    cases isBase : c.links[0]? with
    | none =>
        have unsourced : ref.key = GlyphRef.unsourcedKey := by
          rw [isBaseKey, baseKey, isBase]
        rw [unsourced, isMatch.find?_unsourced]
        exact ⟨.inl rfl, rfl⟩
    | some base =>
        have sourced : ref.key = base.key := by
          rw [isBaseKey, baseKey, isBase]
        have member := recorded.base_mem isBase
        rw [sourced, isMatch.find?_eq_some member]
        exact ⟨.inr ⟨_, member, rfl⟩, rfl⟩
  · obtain ⟨base, isBase, member⟩ := recorded.record_mem isLink
    have notMissing : ref.glyph.toUInt32 ≠ CacheKey.missingGlyph := by
      intro equal
      have value := congrArg UInt32.toNat equal
      have bound := UInt16.toNat_lt ref.glyph
      simp [CacheKey.missingGlyph] at value
      omega
    unfold rasterize Catalog.mask
    rw [isLink]
    simp only [CacheKey.ofRef, present, Bool.false_eq_true, if_false, isKey,
      isMatch.find?_eq_some member, notMissing, missingBox, lineMetrics, isBase]
    refine ⟨.inr ⟨_, member, rfl⟩, ?_⟩
    rcases outcome : link.source.rasterize ref.glyph size with _ | (_ | mask) <;>
      simp only [UInt16.toUInt16_toUInt32, outcome, bind, Except.bind]

end Chain

end Inkwell
